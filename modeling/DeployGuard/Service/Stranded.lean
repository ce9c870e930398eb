import DeployGuard.Service.Client

/-!
# Attempts that strand their publication

An attempt commits the status `publishing` before it builds the client and before
its `try`, whose only handler is for `DomainError`. So the row is left behind
when the App is not configured, and when a step of the `try` raises anything else.
The rest of an attempt touches the Check Runs only, which is why its last commit
before the handler still holds the row as it was marked.

> `publication_settled_iff`: the status a publication is left with is final iff
> the App is configured and every request the attempt makes is handled.
-/

namespace DeployGuard.Service

open Raise Session Session.Call

/-! ## What the requests of an attempt raise -/

section Requests

variable {host : Host} {q : CheckCall} {app : GithubApp} {net : Network} {answers : CheckAnswers}
  {publication : GitHubCheckPublication} {report : CheckReport} {s : State World}

/-- The id of the Check Run as `recoverCheckId` finds it. -/
def knownCheckId (host : Host) (q : CheckCall) (answers : CheckAnswers)
    (publication : GitHubCheckPublication) : Except ServiceError (Option String) := do
  if publication.providerCheckId = none ∧ 0 < publication.attemptCount then
    let recovered ← findCheckRun host q.repository.fullName q.change.commitSha
      publication.externalId answers.listed
    pure (recovered.map fun record => host.str (firstTruthy [getItem record "id", .str ""]))
  else pure publication.providerCheckId

/-- The answer `putCheckRun` gets. -/
def putAnswer (answers : CheckAnswers) (request : CheckRequest) (providerCheckId : Option String) :
    Except ServiceError Items := do
  let _ ← repositoryParts request.repositoryFullName
  raiseIf (providerCheckId.getD "" ≠ "" ∧ isDigits (providerCheckId.getD "") = false)
    checkInputInvalid
  checkRunBody request
  if providerCheckId.getD "" ≠ "" then (answers.updated (providerCheckId.getD "")).answer
  else answers.created.answer

/-- What the recovery answers is decided by the answers of GitHub. -/
theorem recoverCheckId_fst :
    (recoverCheckId host q answers publication s).1 = knownCheckId host q answers publication := by
  unfold recoverCheckId knownCheckId
  split
  · exact bind_fst rfl fun _ _ => rfl
  · rfl

theorem sendRequest_fst {outcome : RequestOutcome} {effect : World → World} :
    (sendRequest outcome effect s).1 = outcome.answer := rfl

theorem putCheckRun_fst {request : CheckRequest} {known : Option String} :
    (putCheckRun answers request known s).1 = putAnswer answers request known := by
  unfold putCheckRun putAnswer
  split
  · next hknown =>
    simp only [hknown, ne_eq, not_false_eq_true, true_and]
    exact bind_fst rfl fun _ _ => bind_fst rfl fun _ _ => bind_fst rfl fun _ _ => sendRequest_fst
  · next hknown =>
    rw [raiseIf_neg (fun h => hknown h.1), bind_ok]
    exact bind_fst rfl fun _ _ => bind_fst rfl fun _ _ => sendRequest_fst

theorem sendCheckRun_fst :
    (sendCheckRun host q answers report publication s).1 =
      (do
        let known ← knownCheckId host q answers publication
        let result ← putAnswer answers (checkRequest q report publication) known
        raiseIf (answeredId host known result = "")
          (.domain "GitHub did not return a Check Run ID" "github_check_publish_failed" 502)
        pure (answeredId host known result, result)) :=
  bind_fst recoverCheckId_fst fun _ _ => bind_fst putCheckRun_fst fun _ _ =>
    bind_fst rfl fun _ _ => rfl

/-- A request leaves the store alone. -/
theorem sendRequest_keeps {outcome : RequestOutcome} {effect : World → World}
    (h : ∀ w, (effect w).store = w.store) :
    Call.Keeps World.store (sendRequest outcome effect) := by
  refine .bind (.external fun w => ?_) fun _ => .lift
  split
  · exact h w
  · rfl

/-- The requests leave the database alone. -/
theorem sendCheckRun_keeps :
    Call.Keeps World.store (sendCheckRun host q answers report publication) := by
  refine .bind ?_ fun known => .bind ?_ fun result => .bind .lift fun _ => .pure
  · unfold recoverCheckId
    split
    · exact .bind .lift fun _ => .pure
    · exact .pure
  · unfold putCheckRun
    split
    · exact .bind .lift fun _ => .bind .lift fun _ => .bind .lift fun _ => sendRequest_keeps fun _ => rfl
    · exact .bind .lift fun _ => .bind .lift fun _ => sendRequest_keeps fun _ => rfl

/-- Whether the inputs of a request are valid: the repository's name, the commit
and the external id. -/
def Addressed (q : CheckCall) (publication : GitHubCheckPublication) : Prop :=
  (repositoryParts q.repository.fullName).toBool = true ∧ isHeadSha q.change.commitSha = true ∧
    Text.strip publication.externalId ≠ ""

instance : Decidable (Addressed q publication) :=
  inferInstanceAs (Decidable (_ ∧ _ ∧ _))

/-- The request that puts the Check Run, if it gets to one. -/
def putRequests (q : CheckCall) (net : Network) (publication : GitHubCheckPublication)
    (known : Option String) : List Sent :=
  if Addressed q publication ∧ (known.getD "" ≠ "" → isDigits (known.getD "") = true) then
    [if known.getD "" ≠ "" then net.updated (known.getD "") else net.created]
  else []

/-- The requests of an attempt: the list of Check Runs, if an earlier attempt may
have created one, and then the Check Run itself. -/
def requestsMade (host : Host) (q : CheckCall) (app : GithubApp) (net : Network)
    (publication : GitHubCheckPublication) : List Sent :=
  (if publication.providerCheckId = none ∧ 0 < publication.attemptCount ∧ Addressed q publication
    then [net.listed] else []) ++
  match knownCheckId host q (clientAnswers app net) publication with
  | .ok known => putRequests q net publication known
  | .error _ => []

/-- A name of another shape is a domain error. -/
theorem contained_parts {fullName : String} : Contained (repositoryParts fullName) :=
  .bind (.raiseIf rfl) fun _ => .pure

/-- Scanning the listing raises domain errors only. -/
theorem contained_scan {externalId : String} {payload : Items} :
    Contained (scanCheckRuns host externalId payload) := by
  unfold scanCheckRuns
  split
  · exact .ok
  · exact .error rfl

/-- The checks of the inputs, and then the request. -/
theorem contained_checked {α : Type} {x : Except ServiceError α} {fullName : String} {c : Prop}
    [Decidable c] :
    Contained (do let _ ← repositoryParts fullName; raiseIf c checkInputInvalid; x) ↔
      ((repositoryParts fullName).toBool = true → ¬c → Contained x) := by
  have hparts : (repositoryParts fullName).toBool = true ↔
      ∃ parts, repositoryParts fullName = .ok parts := by
    cases repositoryParts fullName <;> simp [Except.toBool]
  rw [contained_bind_of contained_parts, hparts]
  constructor
  · intro h h hc
    obtain ⟨parts, hok⟩ := h
    have hrest := h parts hok
    rwa [raiseIf_neg hc, bind_ok] at hrest
  · intro h parts hok
    refine (contained_bind_of (.raiseIf rfl)).mpr fun _ hc => ?_
    exact h ⟨parts, hok⟩ (raiseIf_eq_ok.mp hc)

/-- Asking for the listing raises what the network does not handle. -/
theorem contained_known :
    Contained (knownCheckId host q (clientAnswers app net) publication) ↔
      (publication.providerCheckId = none ∧ 0 < publication.attemptCount ∧ Addressed q publication →
        net.listed.Handled app) := by
  unfold knownCheckId
  split
  · next hasks =>
    have hfind : Contained (findCheckRun host q.repository.fullName q.change.commitSha
        publication.externalId (clientAnswers app net).listed) ↔
          (Addressed q publication → net.listed.Handled app) := by
      have hlisted : Contained ((clientAnswers app net).listed >>=
          scanCheckRuns host publication.externalId) ↔ net.listed.Handled app := by
        rw [contained_bind, and_iff_left fun _ _ => contained_scan]
        exact contained_answer
      rw [findCheckRun, contained_checked, hlisted, not_or, Bool.not_eq_false, Addressed]
      exact ⟨fun h ⟨hparts, hsha, hid⟩ => h hparts ⟨hsha, hid⟩,
        fun h hparts ⟨hsha, hid⟩ => h ⟨hparts, hsha, hid⟩⟩
    rw [contained_bind, and_iff_left fun _ _ => .pure, hfind]
    exact ⟨fun h hall => h hall.2.2, fun h haddressed => h ⟨hasks.1, hasks.2, haddressed⟩⟩
  · next hasks =>
    exact iff_of_true .pure fun h => absurd ⟨h.1, h.2.1⟩ hasks

/-- What an attempt reports is a conclusion GitHub knows. -/
theorem checkConclusion_known (policy : WorkspaceRiskPolicy) (change : ChangeRecord) :
    ["action_required", "failure", "neutral", "success"].contains
      (checkReport policy change).conclusion = true := by
  show List.contains _ (checkConclusion policy change) = true
  unfold checkConclusion
  split <;> decide

/-- Sending the report raises what the network does not handle. -/
theorem contained_put {known : Option String}
    (hreport : ["action_required", "failure", "neutral", "success"].contains
      report.conclusion = true) :
    Contained (putAnswer (clientAnswers app net) (checkRequest q report publication) known) ↔
      ∀ sent ∈ putRequests q net publication known, sent.Handled app := by
  have hanswer : Contained (if known.getD "" ≠ "" then
        ((clientAnswers app net).updated (known.getD "")).answer
      else (clientAnswers app net).created.answer) ↔
      (if known.getD "" ≠ "" then net.updated (known.getD "") else net.created).Handled app := by
    split
    · exact contained_answer
    · exact contained_answer
  have hbody : ∀ x : Except ServiceError Items,
      Contained (do checkRunBody (checkRequest q report publication); x) ↔
        (isHeadSha q.change.commitSha = true ∧ Text.strip publication.externalId ≠ "" →
          Contained x) := by
    intro x
    rw [checkRunBody, contained_bind_of (.raiseIf rfl)]
    simp only [raiseIf_eq_ok, checkRequest, hreport, not_or, Bool.not_eq_false, reduceCtorEq,
      not_false_eq_true, and_true, forall_const]
  rw [putAnswer, contained_checked, hbody, hanswer]
  unfold putRequests
  by_cases hput : Addressed q publication ∧ (known.getD "" ≠ "" → isDigits (known.getD "") = true)
  · rw [if_pos hput, List.forall_mem_singleton]
    constructor
    · intro h
      exact h hput.1.1 (fun hbad => by simp [hput.2 hbad.1] at hbad) hput.1.2
    · exact fun h _ _ _ => h
  · rw [if_neg hput]
    refine iff_of_true (fun hparts hdigits hvalid => ?_) fun sent hsent => absurd hsent List.not_mem_nil
    refine absurd ⟨⟨hparts, hvalid⟩, fun hknown => ?_⟩ hput
    by_contra hbad
    exact hdigits ⟨hknown, Bool.not_eq_true _ ▸ hbad⟩

/-- The `try` of an attempt raises nothing but a `DomainError` iff every request it
makes is handled. -/
theorem contained_send
    (hreport : ["action_required", "failure", "neutral", "success"].contains
      report.conclusion = true) :
    Contained (sendCheckRun host q (clientAnswers app net) report publication s).1 ↔
      ∀ sent ∈ requestsMade host q app net publication, sent.Handled app := by
  rw [sendCheckRun_fst, contained_bind, contained_known]
  -- Given the id looked up, the rest of the call sends one request.
  have hput : ∀ known, Contained (do
      let result ← putAnswer (clientAnswers app net) (checkRequest q report publication) known
      raiseIf (answeredId host known result = "")
        (.domain "GitHub did not return a Check Run ID" "github_check_publish_failed" 502)
      pure (answeredId host known result, result)) ↔
        ∀ sent ∈ putRequests q net publication known, sent.Handled app := by
    intro known
    rw [contained_bind, contained_put hreport]
    exact and_iff_left fun _ _ => .bind (.raiseIf rfl) fun _ => .pure
  simp only [hput]
  unfold requestsMade
  rw [List.forall_mem_append]
  refine and_congr ?_ ?_
  · split
    · next hasks => simp [hasks]
    · next hasks => simp [hasks]
  · -- a lookup that failed sends no further request
    cases knownCheckId host q (clientAnswers app net) publication with
    | ok known => simp
    | error e => simp

end Requests

/-! ## What an attempt leaves -/

/-- The publication of a commit as an attempt finds or makes it. -/
def claimedRow (q : CheckCall) (report : CheckReport) (w : World) : GitHubCheckPublication :=
  (w.store.publications.get? q.key).getD (newPublication q report)

section Outcome

variable {host : Host} {q : CheckCall} {answers : CheckAnswers} {report : CheckReport} {w : World}
  {publication row : GitHubCheckPublication} {s : State World}

/-- An update is found under the key of its row. -/
theorem get?_updatePublication {id : String} {f : GitHubCheckPublication → GitHubCheckPublication}
    (hf : ∀ row, (f row).identity = row.identity) {k : String × String}
    (h : w.store.publications.get? k = some row) (hid : row.id = id) :
    (updatePublication id f hf w).store.publications.get? k = some (f row) := by
  show (w.store.publications.updateWhere (fun row => row.id = id) f hf).get? k = _
  rw [Table.get?_updateWhere, h, Option.map_some, if_pos (by simpa using hid)]

/-- The report is stored and its row claimed. -/
theorem storeReport_claims (h : s.cur.store.publications.get? q.key = some publication) :
    ∃ t, storeReport q report publication s =
        (.ok (refreshPublication q report publication), t) ∧ t.base = t.cur ∧
      t.cur.store.publications.get? q.key = some (refreshPublication q report publication) :=
  ⟨_, rfl, rfl, get?_updatePublication (refreshPublication_identity q report) h rfl⟩

/-- The publication an attempt claims is stored with its report. -/
theorem githubCheckPublication_claims (q : CheckCall) (report : CheckReport) (w : World) :
    ∃ t, githubCheckPublication q report (State.start w) =
        (.ok (refreshPublication q report (claimedRow q report w)), t) ∧ t.base = t.cur ∧
      t.cur.store.publications.get? q.key =
        some (refreshPublication q report (claimedRow q report w)) := by
  unfold githubCheckPublication claimedRow
  rw [read_bind_apply, State.start_cur]
  cases hget : w.store.publications.get? q.key with
  | some row => exact storeReport_claims hget
  | none =>
    obtain ⟨publications, hinsert⟩ := Table.insert_of_free (r := newPublication q report) hget
    have hensure : ensurePublication q report none (State.start w) =
        (.ok (newPublication q report),
          ((State.start w).written (setPublications publications)).committed) := by
      rw [ensurePublication, read_bind_apply, State.start_cur, hinsert]
      rfl
    have hrow : publications.get? q.key = some (newPublication q report) := by
      rw [Table.get?_insert hinsert]
      exact if_pos rfl
    rw [bind_of_ok hensure]
    exact storeReport_claims hrow

/-- The statuses an attempt may leave. -/
def finalStatuses : List String := ["published", "retryable_failed", "permanent_failed"]

/-- The row of the commit has a final status in the database. -/
def SettledIn (q : CheckCall) (w : World) : Prop :=
  ∃ row, w.store.publications.get? q.key = some row ∧ row.status ∈ finalStatuses

/-- The end of an attempt publishes its row. -/
theorem finishPublication_settles {sent : String × Items}
    (h : s.cur.store.publications.get? q.key = some row) (hid : row.id = publication.id) :
    SettledIn q (finishPublication host q report publication sent s).2.base := by
  have hpersisted : ∃ persisted, persistedPublication publication s.cur = .ok persisted := by
    unfold persistedPublication
    split
    · exact ⟨_, rfl⟩
    · next hnone =>
      have hnot := List.find?_eq_none.mp hnone row (Table.mem_of_get? h)
      exact absurd (decide_eq_true hid) hnot
  obtain ⟨persisted, hpersisted⟩ := hpersisted
  unfold finishPublication
  rw [query_ok_bind hpersisted]
  exact ⟨_, get?_updatePublication (publishRow_identity q report sent.1) h hid,
    List.mem_cons_self ..⟩

/-- The handler fails its row. -/
theorem failPublication_settles (code : String)
    (h : s.base.store.publications.get? q.key = some row) (hid : row.id = publication.id) :
    ∃ t, failPublication q publication code s = (.ok (), t) ∧ SettledIn q t.base := by
  refine ⟨_, rfl, failAttempt code q.now row, ?_, ?_⟩
  · show (auditFailure q publication code _).publications.get? q.key = _
    rw [auditFailure_publications]
    exact get?_updatePublication (failAttempt_identity code q.now) h hid
  · show (if _ then _ else _) ∈ _
    split <;> decide

end Outcome

/-- What an attempt reports. -/
def attemptReport (q : CheckCall) (w : World) : CheckReport :=
  checkReport ((w.store.riskPolicies.get? q.connection.workspaceId).getD
    (defaultRiskPolicy q.connection.workspaceId)) q.change

/-- The publication an attempt works on. -/
def attemptRow (q : CheckCall) (w : World) : GitHubCheckPublication :=
  refreshPublication q (attemptReport q w) (claimedRow q (attemptReport q w) w)

/-- Marked `publishing` and not final, the row stays so until something is committed. -/
theorem not_settled_of_marked {q : CheckCall} {w : World} {row : GitHubCheckPublication}
    (h : w.store.publications.get? q.key = some (startAttempt q.now row)) : ¬SettledIn q w := by
  intro h
  obtain ⟨row', hrow', hfinal⟩ := h
  rw [h, Option.some.injEq] at hrow'
  subst hrow'
  revert hfinal
  show "publishing" ∉ finalStatuses
  decide

/-- The session once the attempt is marked, and what runs in it. -/
theorem publish_marked (host : Host) (q : CheckCall) (answers : CheckAnswers) (w : World) :
    ∃ t : State World, t.base = t.cur ∧
      t.base.store.publications.get? q.key = some (startAttempt q.now (attemptRow q w)) ∧
      publishGithubChangeCheck host q answers (State.start w) =
        (do
          lift (raiseIf (q.appAvailable = false)
            (.domain "GitHub App is not configured" "github_app_not_configured" 503))
          let sent ← Call.attempt
            (sendCheckRun host q answers (attemptReport q w) (attemptRow q w))
          concludeAttempt host q (attemptReport q w) (attemptRow q w) sent :
            PublishCall CheckRunResponse) t := by
  obtain ⟨s, hclaim, -, hrow⟩ := githubCheckPublication_claims q (attemptReport q w) w
  refine ⟨((s.written (updatePublication (attemptRow q w).id (startAttempt q.now)
    (startAttempt_identity q.now))).committed), rfl, ?_, ?_⟩
  · exact get?_updatePublication (startAttempt_identity q.now) hrow rfl
  · rw [publishGithubChangeCheck, read_bind_apply, State.start_cur]
    exact bind_of_ok hclaim

/-- Where the `try` of an attempt ended decides: nothing but a `DomainError` is handled. -/
theorem concludeAttempt_settles {host : Host} {q : CheckCall} {report : CheckReport}
    {publication : GitHubCheckPublication} {u : State World}
    (hsettled : u.base.store = u.cur.store)
    (hmarked : u.base.store.publications.get? q.key = some (startAttempt q.now publication))
    (result : Except ServiceError (String × Items)) :
    SettledIn q (concludeAttempt host q report publication result u).2.base ↔ Contained result := by
  have hid : (startAttempt q.now publication).id = publication.id := rfl
  cases result with
  | ok sent =>
    rw [hsettled] at hmarked
    exact iff_of_true (finishPublication_settles hmarked hid) .ok
  | error e =>
    cases e with
    | domain detail code statusCode =>
      obtain ⟨t, hfailed, ht⟩ := failPublication_settles code hmarked hid
      refine iff_of_true ?_ (.error rfl)
      rw [concludeAttempt, bind_of_ok hfailed]
      exact ht
    | _ => exact iff_of_false (not_settled_of_marked hmarked) fun h => Bool.false_ne_true (h _ rfl)

/-- A publication settles when every request it makes is handled. -/
theorem publish_settled_iff (host : Host) (q : CheckCall) (app : GithubApp) (net : Network)
    (w : World) :
    SettledIn q ((publishGithubChangeCheck host q (clientAnswers app net)).run w).2 ↔
      q.appAvailable = true ∧
        ∀ sent ∈ requestsMade host q app net (attemptRow q w), sent.Handled app := by
  obtain ⟨t, hsettled, hmarked, hrun⟩ := publish_marked host q (clientAnswers app net) w
  rw [run_def, hrun]
  by_cases havailable : q.appAvailable = true
  · have hkept : Call.Keeps World.store (sendCheckRun host q (clientAnswers app net)
        (attemptReport q w) (attemptRow q w)) := sendCheckRun_keeps
    obtain ⟨hbase, hcur⟩ := hkept t
    rw [lift_ok_bind (raiseIf_neg (by simp [havailable]) _), and_iff_right havailable,
      attempt_bind_apply, concludeAttempt_settles]
    · exact contained_send (checkConclusion_known _ q.change)
    · rw [hbase, hcur, hsettled]
    · rw [hbase]
      exact hmarked
  · rw [lift_error_bind (raiseIf_pos (by simpa using havailable) _)]
    refine iff_of_false ?_ fun h => havailable h.1
    exact not_settled_of_marked hmarked

/-- An attempt over the client and the network it meets. -/
def publicationAttempt (host : Host) (app : GithubApp) (net : Network) (q : CheckCall) :
    PublishCall CheckRunResponse :=
  publishGithubChangeCheck host { q with appAvailable := app.available } (clientAnswers app net)

/-- **Stranded publications.** However an attempt ends, the status it leaves the
commit's publication with is `published`, `retryable_failed` or `permanent_failed`
iff the GitHub App is configured, and in each request the attempt makes the private
key signs and no exchange raises, or answers, what the client does not turn into a
`DomainError`. -/
theorem publication_settled_iff (host : Host) (app : GithubApp) (net : Network) (q : CheckCall)
    (w : World) :
    SettledIn q ((publicationAttempt host app net q).run w).2 ↔
      app.available = true ∧
        ∀ sent ∈ requestsMade host q app net (attemptRow q w), sent.Handled app :=
  publish_settled_iff host { q with appAvailable := app.available } app net w

/-- An App whose private key does not sign. -/
def unsignedApp : GithubApp where
  appId := "1"
  slug := "deployguard"
  privateKey := "not a key"
  jwt := .error "InvalidKeyError"

/-- GitHub hands out a token and answers every request. -/
def shopNetwork : Network where
  listed := ⟨.answered (.dict [("token", .str "t")]), .answered (.dict [("check_runs", .list [])])⟩
  created := ⟨.answered (.dict [("token", .str "t")]), .answered (.dict [("id", .int 4242)])⟩
  createdEffective := true
  newRunId := 4242
  updated id := ⟨.answered (.dict [("token", .str "t")]), .answered (.dict [("id", .str id)])⟩
  updatedEffective _ := true

/-- The key does not sign: the attempt raises, and its publication stays `publishing`. -/
theorem unsigned_attempt_strands :
    ((publicationAttempt asciiHost unsignedApp shopNetwork (shopCheck "pub-1")).run
        shopWorld).2.store.publications.rows.map (·.status) = ["publishing"] ∧
      ¬SettledIn (shopCheck "pub-1")
        ((publicationAttempt asciiHost unsignedApp shopNetwork (shopCheck "pub-1")).run
          shopWorld).2 := by
  have hstatus : ((publicationAttempt asciiHost unsignedApp shopNetwork (shopCheck "pub-1")).run
      shopWorld).2.store.publications.rows.map (·.status) = ["publishing"] := rfl
  refine ⟨hstatus, ?_⟩
  intro h
  obtain ⟨row, hrow, hfinal⟩ := h
  have hmem := List.mem_map_of_mem (f := (·.status)) (Table.mem_of_get? hrow)
  rw [hstatus, List.mem_singleton] at hmem
  rw [hmem] at hfinal
  revert hfinal
  decide

end DeployGuard.Service
