import DeployGuard.Lib.Transition
import DeployGuard.Service.Check

/-!
# Publications that crash

The attempts at the Check Runs of commits run one after another, and each may
stop anywhere: after any of its commits, or after a request that GitHub did or
did not take. What makes the next attempt find its way is that the attempt is
counted before GitHub is asked for anything:

> `Accounted`: GitHub has at most one Check Run for a publication, and none as
> long as no attempt is counted; an id that is stored is that Check Run's, and a
> published row has one.

Every crash point of an attempt is accounted for (`publish_safe`), so every state
of a run of attempts is.
-/

namespace DeployGuard.Service

open Raise Session Session.Call Transition

/-! ## The invariant -/

/-- The external id and the id of every Check Run. -/
def knownRuns (w : World) : List (String × String) :=
  w.checkRuns.map fun run => (run.externalId, run.text)

/-- What is known of a publication, given the Check Runs there are. -/
structure RowAccounted (runs : List (String × String)) (row : GitHubCheckPublication) : Prop where
  externalId : row.externalId = row.id
  counted : 0 ≤ row.attemptCount
  single : (runs.filter fun run => run.1 = row.id).length ≤ 1
  unstarted : row.attemptCount = 0 → (∀ run ∈ runs, run.1 ≠ row.id) ∧ row.providerCheckId = none
  stored : ∀ id, row.providerCheckId = some id → (row.id, id) ∈ runs
  published : row.status = "published" → row.providerCheckId ≠ none

structure Accounted (w : World) : Prop where
  rows : ∀ row ∈ w.store.publications.rows, RowAccounted (knownRuns w) row
  distinct : ∀ row ∈ w.store.publications.rows, ∀ row' ∈ w.store.publications.rows,
    row.id = row'.id → row = row'
  texts : ((knownRuns w).map (·.2)).Nodup

/-- A run's id is written as a text that is not empty. -/
theorem text_ne_empty (run : CheckRun) : run.text ≠ "" := Nat.repr_ne_empty

namespace Accounted

variable {w w' : World}

/-- Only the publications and the Check Runs' ids matter. -/
theorem congr (h : Accounted w) (hrows : w'.store.publications = w.store.publications)
    (hruns : knownRuns w' = knownRuns w) : Accounted w' where
  rows := by
    rw [hrows, hruns]
    exact h.rows
  distinct := by
    rw [hrows]
    exact h.distinct
  texts := by
    rw [hruns]
    exact h.texts

/-- Every other publication is as it was. -/
theorem mem_updatePublication {id : String} {f : GitHubCheckPublication → GitHubCheckPublication}
    {hf : ∀ row, (f row).identity = row.identity} {row' : GitHubCheckPublication} :
    row' ∈ (updatePublication id f hf w).store.publications.rows ↔
      ∃ row ∈ w.store.publications.rows, (if row.id = id then f row else row) = row' := by
  show row' ∈ (w.store.publications.updateWhere (fun row => row.id = id) f hf).rows ↔ _
  rw [Table.mem_updateWhere]
  simp only [decide_eq_true_eq]

/-- An assignment to the publication with an id. -/
theorem update {id : String} {f : GitHubCheckPublication → GitHubCheckPublication}
    {hf : ∀ row, (f row).identity = row.identity} (h : Accounted w)
    (hid : ∀ row, (f row).id = row.id)
    (hrow : ∀ row ∈ w.store.publications.rows, row.id = id → RowAccounted (knownRuns w) row →
      RowAccounted (knownRuns w) (f row)) : Accounted (updatePublication id f hf w) where
  rows := by
    intro row' hrow'
    obtain ⟨row, hmem, rfl⟩ := mem_updatePublication.mp hrow'
    by_cases hsame : row.id = id
    · rw [if_pos hsame]
      exact hrow row hmem hsame (h.rows row hmem)
    · rw [if_neg hsame]
      exact h.rows row hmem
  distinct := by
    have hkept : ∀ row, (if row.id = id then f row else row).id = row.id := by
      intro row
      by_cases hsame : row.id = id
      · rw [if_pos hsame, hid]
      · rw [if_neg hsame]
    intro row₁ hrow₁ row₂ hrow₂ hsame
    obtain ⟨row₁', hmem₁, rfl⟩ := mem_updatePublication.mp hrow₁
    obtain ⟨row₂', hmem₂, rfl⟩ := mem_updatePublication.mp hrow₂
    rw [hkept, hkept] at hsame
    rw [h.distinct row₁' hmem₁ row₂' hmem₂ hsame]
  texts := h.texts

/-- A publication that no attempt is counted for, under an id that is new. -/
theorem insert {row : GitHubCheckPublication}
    {publications : Table GitHubCheckPublication.identity} (h : Accounted w)
    (hinsert : w.store.publications.insert row = some publications)
    (hrow : RowAccounted (knownRuns w) row)
    (hnew : ∀ row' ∈ w.store.publications.rows, row'.id ≠ row.id) :
    Accounted (setPublications publications w) := by
  have hrows : (setPublications publications w).store.publications.rows =
      w.store.publications.rows ++ [row] := (Table.insert_eq_some hinsert).2
  refine ⟨fun row' hrow' => ?_, fun row₁ hrow₁ row₂ hrow₂ hsame => ?_, h.texts⟩
  · rw [hrows, List.mem_append, List.mem_singleton] at hrow'
    rcases hrow' with hrow' | rfl
    · exact h.rows row' hrow'
    · exact hrow
  · rw [hrows, List.mem_append, List.mem_singleton] at hrow₁ hrow₂
    rcases hrow₁ with hrow₁ | rfl
    · rcases hrow₂ with hrow₂ | rfl
      · exact h.distinct row₁ hrow₁ row₂ hrow₂ hsame
      · exact absurd hsame (hnew row₁ hrow₁)
    · rcases hrow₂ with hrow₂ | rfl
      · exact absurd hsame.symm (hnew row₂ hrow₂)
      · rfl

/-- GitHub has another Check Run, of a publication that had none and is counted. -/
theorem addRun {id : Nat} {request : CheckRequest} (h : Accounted w)
    (hnone : ∀ run ∈ knownRuns w, run.1 ≠ request.externalId)
    (hcounted : ∀ row ∈ w.store.publications.rows, row.id = request.externalId →
      row.attemptCount ≠ 0)
    (hnew : ∀ run ∈ knownRuns w, run.2 ≠ toString id) : Accounted (addCheckRun id request w) := by
  have hknown : knownRuns (addCheckRun id request w) =
      knownRuns w ++ [(request.externalId, toString id)] := by
    rw [knownRuns, addCheckRun, List.map_append]
    rfl
  refine ⟨fun row hrow => ?_, h.distinct, ?_⟩
  · have hr := h.rows row hrow
    rw [hknown]
    by_cases hsame : request.externalId = row.id
    · -- the publication of the request: it had no run, and now has one
      have hempty : (knownRuns w).filter (fun run => run.1 = row.id) = [] := by
        rw [List.filter_eq_nil_iff]
        intro run hrun
        rw [decide_eq_true_eq, ← hsame]
        exact hnone run hrun
      refine ⟨hr.externalId, hr.counted, ?_, fun hzero => ?_, fun id' hid => ?_, hr.published⟩
      · rw [List.filter_append, hempty, List.nil_append]
        exact List.length_filter_le _ _
      · exact absurd hzero (hcounted row hrow hsame.symm)
      · exact List.mem_append_left _ (hr.stored id' hid)
    · refine ⟨hr.externalId, hr.counted, ?_, fun hzero => ?_, fun id' hid => ?_, hr.published⟩
      · -- another publication: the new run is not counted for it
        rw [List.filter_append, List.length_append, List.filter_cons_of_neg (by simpa using hsame)]
        exact hr.single
      · obtain ⟨hruns, hid⟩ := hr.unstarted hzero
        refine ⟨fun run hrun => ?_, hid⟩
        rcases List.mem_append.mp hrun with hrun | hrun
        · exact hruns run hrun
        · rw [List.mem_singleton.mp hrun]
          exact hsame
      · exact List.mem_append_left _ (hr.stored id' hid)
  · -- the id is one GitHub has not given out
    rw [hknown, List.map_append, List.nodup_append']
    refine ⟨h.texts, List.nodup_singleton _, fun text htext htext' => ?_⟩
    obtain ⟨run, hrun, rfl⟩ := List.mem_map.mp htext
    exact hnew run hrun (by simpa using htext')

/-- An update of the Check Run of a publication leaves the ids as they are. -/
theorem knownRuns_setCheckRun {id : String} {request : CheckRequest} (h : Accounted w)
    (hrun : (request.externalId, id) ∈ knownRuns w) :
    knownRuns (setCheckRun id request w) = knownRuns w := by
  rw [knownRuns, setCheckRun, List.map_map]
  refine List.map_congr_left fun run hmem => ?_
  by_cases htext : run.text = id
  · have hmem' : (run.externalId, run.text) ∈ knownRuns w :=
      List.mem_map.mpr ⟨run, hmem, rfl⟩
    have hsame : (run.externalId, run.text) = (request.externalId, id) :=
      List.inj_on_of_nodup_map h.texts hmem' hrun htext
    rw [Function.comp, updateRun, if_pos htext, ← (Prod.mk.inj hsame).1]
    rfl
  · rw [Function.comp, updateRun, if_neg htext]

/-- Updating a known run leaves the rows accounted for. -/
theorem setRun {id : String} {request : CheckRequest} (h : Accounted w)
    (hrun : (request.externalId, id) ∈ knownRuns w) : Accounted (setCheckRun id request w) :=
  h.congr rfl (h.knownRuns_setCheckRun hrun)

end Accounted

/-! ## What is assumed of GitHub -/

/-- The Check Run that is found among those listed is the existing one, and one
is found if it exists. -/
def FindsRun (host : Host) (w : World) (externalId : String) (payload : Items) : Prop :=
  ∀ recovered, scanCheckRuns host externalId payload = .ok recovered →
    (recovered = none → ∀ run ∈ knownRuns w, run.1 ≠ externalId) ∧
      ∀ record, recovered = some record →
        (externalId, host.str (firstTruthy [getItem record "id", .str ""])) ∈ knownRuns w

/-- An id in the answer to a request is the id of the Check Run. -/
def AnswersId (host : Host) (id : String) (outcome : RequestOutcome) : Prop :=
  ∀ result, outcome.answer = .ok result → (getItem result "id").truthy = true →
    host.str (getItem result "id") = id

/-- The identifiers an attempt draws are new, and GitHub answers it truthfully:
a Check Run whose id is answered to a `create` was created. -/
structure Assumed (host : Host) (w : World) (q : CheckCall) (answers : CheckAnswers) : Prop where
  newId : ∀ row ∈ w.store.publications.rows, row.id ≠ q.newId
  newExternalId : ∀ run ∈ knownRuns w, run.1 ≠ q.newId
  newRunId : ∀ run ∈ knownRuns w, run.2 ≠ toString answers.newRunId
  created : AnswersId host (toString answers.newRunId) answers.created
  effective : ∀ result, answers.created.answer = .ok result →
    (getItem result "id").truthy = true → answers.created.effective = true
  updated : ∀ id, AnswersId host id (answers.updated id)
  listed : ∀ row, w.store.publications.get? q.key = some row →
    ∀ payload, answers.listed = .ok payload → FindsRun host w row.externalId payload

/-! ## One attempt -/

section Attempt

variable {host : Host} {q : CheckCall} {answers : CheckAnswers} {report : CheckReport} {w : World}
  {publication : GitHubCheckPublication} {s : State World}

/-- The publication of an attempt, as it was before it: its row is there, and the
Check Runs are those of the start. -/
structure Claimed (host : Host) (answers : CheckAnswers) (w : World)
    (publication : GitHubCheckPublication) (s : State World) : Prop where
  settled : s.base = s.cur
  runs : s.cur.checkRuns = w.checkRuns
  row : publication ∈ s.cur.store.publications.rows
  listed : 0 < publication.attemptCount → ∀ payload, answers.listed = .ok payload →
    FindsRun host w publication.externalId payload

/-- Refreshing a row keeps what accounts for it. -/
theorem rowAccounted_refresh {runs : List (String × String)} {row : GitHubCheckPublication}
    (h : RowAccounted runs row) : RowAccounted runs (refreshPublication q report row) :=
  ⟨h.externalId, h.counted, h.single, h.unstarted, h.stored, h.published⟩

/-- What GitHub answered is stored for its own publication. -/
theorem storeReport_safe (hlisted : 0 < publication.attemptCount →
      ∀ payload, answers.listed = .ok payload → FindsRun host w publication.externalId payload)
    (hruns : s.cur.checkRuns = w.checkRuns)
    (hrow : publication ∈ s.cur.store.publications.rows) :
    Safe Accounted s (storeReport q report publication) (Claimed host answers w)
      (fun _ => True) := by
  refine Safe.write_bind (fun h => ?_) (Safe.commit_bind (Safe.pure ?_))
  · exact h.update (fun _ => rfl) fun _ _ _ hr => rowAccounted_refresh hr
  · refine ⟨rfl, hruns, ?_, hlisted⟩
    exact Accounted.mem_updatePublication.mpr ⟨publication, hrow, if_pos rfl⟩

/-- The row of a publication is found or made. -/
theorem githubCheckPublication_safe (h : Assumed host w q answers) :
    Safe Accounted (State.start w) (githubCheckPublication q report) (Claimed host answers w)
      (fun _ => True) := by
  refine Safe.read_bind ?_
  rw [State.start_cur]
  cases hget : w.store.publications.get? q.key with
  | some row =>
    exact storeReport_safe (fun _ payload hpayload => h.listed row hget payload hpayload) rfl
      (Table.mem_of_get? hget)
  | none =>
    let row := newPublication q report
    refine Safe.seq (Q := fun publication s => publication = row ∧
      s.cur.checkRuns = w.checkRuns ∧ row ∈ s.cur.store.publications.rows) ?_ ?_
    · refine Safe.read_bind ?_
      rw [State.start_cur]
      cases hinsert : w.store.publications.insert row with
      | none =>
        obtain ⟨publications, hfree⟩ := Table.insert_of_free (r := row) hget
        rw [hinsert] at hfree
        cases hfree
      | some publications =>
        refine Safe.write_bind (fun hw => ?_) (Safe.commit_bind (Safe.pure ⟨rfl, rfl, ?_⟩))
        · refine hw.insert hinsert ⟨rfl, le_refl 0, ?_, fun _ => ⟨h.newExternalId, rfl⟩, nofun, ?_⟩
            h.newId
          · have hempty : (knownRuns w).filter (fun run => run.1 = row.id) = [] :=
              List.filter_eq_nil_iff.mpr fun run hrun hsame =>
                h.newExternalId run hrun (of_decide_eq_true hsame)
            exact hempty ▸ Nat.zero_le 1
          · exact fun hstatus => absurd hstatus (show "pending" ≠ "published" by decide)
        · show row ∈ publications.rows
          rw [(Table.insert_eq_some hinsert).2]
          exact List.mem_append_right _ (List.mem_singleton.mpr rfl)
    · intro publication s' _ h
      obtain ⟨rfl, hruns, hrow⟩ := h
      exact storeReport_safe (fun hpos => absurd hpos (lt_irrefl 0)) hruns hrow

/-- What is known of the Check Run before the request: its id, or that there is none. -/
def Located (w : World) (id : String) (known : Option String) : Prop :=
  (known.getD "" ≠ "" ∧ (id, known.getD "") ∈ knownRuns w) ∨
    (known.getD "" = "" ∧ ∀ run ∈ knownRuns w, run.1 ≠ id)

/-- A run that is known locates its publication. -/
theorem located_some {id runId : String} (h : (id, runId) ∈ knownRuns w) :
    Located w id (some runId) := by
  refine Or.inl ⟨?_, h⟩
  obtain ⟨run, -, hrun⟩ := List.mem_map.mp h
  rw [Option.getD_some, ← (Prod.mk.inj hrun).2]
  exact text_ne_empty run

/-- The id of a run is recovered from the row or from the listing. -/
theorem recoverCheckId_safe (hrow : RowAccounted (knownRuns w) publication)
    (hlisted : 0 < publication.attemptCount → ∀ payload, answers.listed = .ok payload →
      FindsRun host w publication.externalId payload) :
    Safe Accounted s (recoverCheckId host q answers publication)
      (fun known s' => s' = s ∧ Located w publication.id known) (fun _ => True) := by
  unfold recoverCheckId
  split
  · next hasks =>
    refine Safe.lift_bind (fun recovered hrecovered => Safe.pure ⟨rfl, ?_⟩) fun _ _ => trivial
    obtain ⟨parts, -, hrecovered⟩ := Raise.bind_eq_ok.mp hrecovered
    obtain ⟨u, -, hrecovered⟩ := Raise.bind_eq_ok.mp hrecovered
    obtain ⟨payload, hpayload, hrecovered⟩ := Raise.bind_eq_ok.mp hrecovered
    obtain ⟨hnone, hsome⟩ := hlisted hasks.2 payload hpayload recovered hrecovered
    rw [hrow.externalId] at hnone hsome
    cases recovered with
    | none => exact Or.inr ⟨rfl, hnone rfl⟩
    | some record => exact located_some (hsome record rfl)
  · next hasks =>
    refine Safe.pure ⟨rfl, ?_⟩
    cases hstored : publication.providerCheckId with
    | some id => exact located_some (hrow.stored id hstored)
    | none =>
      have hzero : publication.attemptCount = 0 := by
        have hcounted := hrow.counted
        have hnot : ¬0 < publication.attemptCount := fun hpos => hasks ⟨hstored, hpos⟩
        omega
      exact Or.inr ⟨rfl, (hrow.unstarted hzero).1⟩

/-- A request is sent: the Check Runs are as they were or as the request leaves
them, and the answer is GitHub's. -/
theorem sendRequest_safe {outcome : RequestOutcome} {effect : World → World}
    {Q : Items → State World → Prop} (hbase : Accounted s.base → Accounted (effect s.base))
    (hcur : Accounted s.cur → Accounted (effect s.cur))
    (hQ : ∀ result, outcome.answer = .ok result →
      Q result (s.affected (if outcome.effective then effect else id))) :
    Safe Accounted s (sendRequest outcome effect) Q (fun _ => True) := by
  refine Safe.external_bind (fun h => ?_) (fun h => ?_) (Safe.lift hQ fun _ _ => trivial)
  · by_cases heffective : outcome.effective = true
    · rw [if_pos heffective]
      exact hbase h
    · rw [if_neg heffective]
      exact h
  · by_cases heffective : outcome.effective = true
    · rw [if_pos heffective]
      exact hcur h
    · rw [if_neg heffective]
      exact h

/-- An update answers with the id it was sent to. -/
theorem answeredId_some {runId : String} {result : Items} (hrunId : runId ≠ "")
    (h : (getItem result "id").truthy = true → host.str (getItem result "id") = runId) :
    answeredId host (some runId) result = runId := by
  unfold answeredId
  by_cases hid : (getItem result "id").truthy = true
  · rw [firstTruthy_cons, if_pos hid, h hid]
  · rw [firstTruthy_cons, if_neg hid, firstTruthy_cons, if_pos (by simpa [Value.truthy] using hrunId)]
    rfl

/-- An answer without an id leaves none. -/
theorem answeredId_none {known : Option String} {result : Items} (hknown : known.getD "" = "")
    (h : (getItem result "id").truthy = false) : answeredId host known result = "" := by
  unfold answeredId
  rw [firstTruthy_cons, if_neg (by simp [h])]
  cases known with
  | none => rfl
  | some id =>
    obtain rfl : id = "" := hknown
    rfl

/-- The Check Run that is known is updated: its id stays. -/
theorem updateCheckRun_safe {runId : String} {request : CheckRequest} (hsettled : s.base = s.cur)
    (hrun : (request.externalId, runId) ∈ knownRuns s.cur) :
    Safe Accounted s (updateCheckRun answers runId request)
      (fun result s' => (request.externalId, runId) ∈ knownRuns s'.cur ∧
        (answers.updated runId).answer = .ok result) (fun _ => True) := by
  refine Safe.of_all fun hs => ?_
  refine Safe.lift_bind (fun parts _ => ?_) fun _ _ => trivial
  refine Safe.lift_bind (fun _ _ => ?_) fun _ _ => trivial
  refine Safe.lift_bind (fun _ _ => ?_) fun _ _ => trivial
  refine sendRequest_safe (fun h => h.setRun (hsettled ▸ hrun)) (fun h => h.setRun hrun)
    fun result hresult => ⟨?_, hresult⟩
  rw [State.affected_cur]
  by_cases heffective : (answers.updated runId).effective = true
  · rw [if_pos heffective, hs.cur.knownRuns_setCheckRun hrun]
    exact hrun
  · rw [if_neg heffective]
    exact hrun

/-- A Check Run is created: where its id is answered, it is there. -/
theorem createCheckRun_safe {request : CheckRequest} (h : Assumed host w q answers)
    (hruns : knownRuns s.cur = knownRuns w) (hsettled : s.base = s.cur)
    (hnone : ∀ run ∈ knownRuns w, run.1 ≠ request.externalId)
    (hcounted : ∀ row ∈ s.cur.store.publications.rows, row.id = request.externalId →
      row.attemptCount ≠ 0) :
    Safe Accounted s (createCheckRun answers request)
      (fun result s' => (getItem result "id").truthy = true →
        (request.externalId, host.str (getItem result "id")) ∈ knownRuns s'.cur)
      (fun _ => True) := by
  refine Safe.lift_bind (fun parts _ => ?_) fun _ _ => trivial
  refine Safe.lift_bind (fun _ _ => ?_) fun _ _ => trivial
  have hadd : Accounted s.cur → Accounted (addCheckRun answers.newRunId request s.cur) := fun hs =>
    hs.addRun (hruns ▸ hnone) hcounted (hruns ▸ h.newRunId)
  refine sendRequest_safe (by rw [hsettled]; exact hadd) hadd fun result hresult hid => ?_
  rw [State.affected_cur, if_pos (h.effective result hresult hid), h.created result hresult hid]
  show _ ∈ knownRuns (addCheckRun answers.newRunId request s.cur)
  rw [knownRuns, addCheckRun, List.map_append]
  exact List.mem_append_right _ (List.mem_singleton.mpr rfl)

/-- The `try` of an attempt that is counted: when it returns an id, GitHub has
that Check Run for the publication. -/
theorem sendCheckRun_safe (h : Assumed host w q answers) (hruns : knownRuns s.cur = knownRuns w)
    (hsettled : s.base = s.cur) (hrow : RowAccounted (knownRuns w) publication)
    (hlisted : 0 < publication.attemptCount → ∀ payload, answers.listed = .ok payload →
      FindsRun host w publication.externalId payload)
    (hcounted : ∀ row ∈ s.cur.store.publications.rows, row.id = publication.id →
      row.attemptCount ≠ 0) :
    Safe Accounted s (sendCheckRun host q answers report publication)
      (fun sent s' => (publication.id, sent.1) ∈ knownRuns s'.cur) (fun _ => True) := by
  refine Safe.seq (recoverCheckId_safe hrow hlisted) ?_
  intro known s' _ h
  obtain ⟨rfl, hlocated⟩ := h
  have hexternal : (checkRequest q report publication).externalId = publication.id :=
    hrow.externalId
  unfold putCheckRun
  rcases hlocated with ⟨hknown, hrun⟩ | ⟨hknown, hnone⟩
  · obtain ⟨runId, rfl⟩ : ∃ runId, known = some runId := by
      cases known with
      | none => exact absurd rfl hknown
      | some runId => exact ⟨runId, rfl⟩
    -- a run that is known is updated, and keeps its id
    rw [if_pos hknown]
    rw [Option.getD_some] at hknown hrun ⊢
    refine Safe.seq (updateCheckRun_safe hsettled (by rw [hexternal, hruns]; exact hrun)) ?_
    intro result s₁ _ h
    obtain ⟨hrun₁, hresult⟩ := h
    refine Safe.lift_bind (fun _ _ => Safe.pure ?_) fun _ _ => trivial
    rw [answeredId_some hknown (h.updated runId result hresult)]
    rwa [hexternal] at hrun₁
  · -- none is known: the run is created, under the publication's own external id
    rw [if_neg (by simpa using hknown)]
    refine Safe.seq (createCheckRun_safe h hruns hsettled (by rwa [hexternal])
      (by rwa [hexternal])) ?_
    intro result s₁ _ hcreated
    refine Safe.lift_bind (fun _ hanswered => Safe.pure ?_) fun _ _ => trivial
    rw [raiseIf_eq_ok] at hanswered
    -- an answer without an id was refused
    have hid : (getItem result "id").truthy = true := by
      by_contra hid
      exact hanswered (answeredId_none hknown (Bool.not_eq_true _ ▸ hid))
    have hid' : answeredId host known result = host.str (getItem result "id") := by
      rw [answeredId, firstTruthy_cons, if_pos hid]
    rw [hid', ← hexternal]
    exact hcreated hid

/-- The end of an attempt whose id is a Check Run of the publication. -/
theorem finishPublication_safe {sent : String × Items}
    (hrun : (publication.id, sent.1) ∈ knownRuns s.cur) :
    Safe Accounted s (finishPublication host q report publication sent) (fun _ _ => True)
      (fun _ => True) := by
  refine Safe.query_bind (fun persisted _ => ?_) fun _ _ => trivial
  refine Safe.write_bind (fun h => ?_) ?_
  · refine h.update (fun _ => rfl) fun row _ hid hr => ?_
    have hrun' : (row.id, sent.1) ∈ knownRuns s.cur := hid ▸ hrun
    refine ⟨hr.externalId, hr.counted, hr.single, fun hzero => ?_, fun id hstored => ?_, ?_⟩
    · exact absurd rfl ((hr.unstarted hzero).1 _ hrun')
    · obtain rfl := Option.some.inj hstored
      exact hrun'
    · exact fun _ => Option.some_ne_none _
  · exact Safe.write_bind (fun h => h.congr rfl rfl) (Safe.commit_bind (Safe.pure trivial))

/-- A failed attempt keeps what accounts for the row. -/
theorem rowAccounted_fail {runs : List (String × String)} {row : GitHubCheckPublication}
    {code : String} {now : Time} (h : RowAccounted runs row) :
    RowAccounted runs (failAttempt code now row) := by
  refine ⟨h.externalId, h.counted, h.single, h.unstarted, h.stored, fun hstatus => ?_⟩
  have hfailed : (failAttempt code now row).status ≠ "published" := by
    show (if _ then _ else _) ≠ _
    split <;> decide
  exact absurd hstatus hfailed

/-- The audit of a failure touches no publication. -/
theorem auditFailure_publications {code : String} {store : Store} :
    (auditFailure q publication code store).publications = store.publications := by
  unfold auditFailure
  split <;> rfl

/-- Recording a failure is safe. -/
theorem failPublication_safe {code : String} :
    Safe Accounted s (failPublication q publication code) (fun _ _ => True) (fun _ => True) := by
  refine Safe.rollback_bind (Safe.write_bind (fun h => ?_) ?_)
  · exact h.update (fun _ => rfl) fun _ _ _ hr => rowAccounted_fail hr
  · exact Safe.write_bind (fun h => h.congr auditFailure_publications rfl) (Safe.commit trivial)

theorem rowAccounted_start {runs : List (String × String)} {row : GitHubCheckPublication}
    {now : Time} (h : RowAccounted runs row) : RowAccounted runs (startAttempt now row) := by
  have hcounted : (startAttempt now row).attemptCount = row.attemptCount + 1 := rfl
  have hnonneg := h.counted
  refine ⟨h.externalId, by omega, h.single, fun hzero => by omega, h.stored, fun hstatus => ?_⟩
  exact absurd hstatus (show "publishing" ≠ "published" by decide)

/-- Wherever an attempt stops, everything is accounted for. -/
theorem publish_safe (h : Assumed host w q answers) :
    Safe Accounted (State.start w) (publishGithubChangeCheck host q answers) (fun _ _ => True)
      (fun _ => True) := by
  refine Safe.read_bind (Safe.seq (githubCheckPublication_safe h) ?_)
  intro publication s hs hclaimed
  have hrow : RowAccounted (knownRuns w) publication := by
    have hknown : knownRuns s.cur = knownRuns w := by rw [knownRuns, hclaimed.runs, knownRuns]
    exact hknown ▸ hs.cur.rows publication hclaimed.row
  refine Safe.write_bind (fun hw => hw.update (fun _ => rfl) fun _ _ _ hr => rowAccounted_start hr) ?_
  refine Safe.commit_bind (Safe.lift_bind (fun _ _ => ?_) fun _ _ => trivial)
  -- the attempt is counted now, in the database and in the session
  refine Safe.attempt_bind (sendCheckRun_safe h ?_ rfl hrow hclaimed.listed ?_)
    (fun sent s' hsent => finishPublication_safe hsent) fun e s' _ => ?_
  · show knownRuns s.cur = knownRuns w
    rw [knownRuns, hclaimed.runs, knownRuns]
  · intro row' hrow' hid
    obtain ⟨row, hmem, rfl⟩ := Accounted.mem_updatePublication.mp hrow'
    have hsame : row.id = publication.id := by
      by_cases hrowId : row.id = publication.id
      · exact hrowId
      · rwa [if_neg hrowId] at hid
    obtain rfl := hs.cur.distinct row hmem publication hclaimed.row hsame
    have hcounted := hrow.counted
    rw [if_pos rfl]
    show row.attemptCount + 1 ≠ 0
    omega
  · cases e with
    | domain detail code statusCode =>
      exact Safe.seq failPublication_safe fun _ _ _ _ => Safe.raise trivial
    | _ => exact Safe.raise trivial

end Attempt

/-! ## Runs of attempts -/

/-- An attempt that runs to its end, whatever that is, or stops after so many
commits and effective requests; or other work. -/
inductive CheckStep where
  | attempt (q : CheckCall) (answers : CheckAnswers)
  | crashed (q : CheckCall) (answers : CheckAnswers) (points : Nat)
  | other (w : World)

/-- Attempts one after another. The rest of the service leaves publications and
Check Runs alone. -/
def checkSystem (host : Host) : System World CheckStep where
  init w := w.store.publications.rows = [] ∧ (w.checkRuns.map CheckRun.text).Nodup
  next w
    | .attempt q answers => some ((publishGithubChangeCheck host q answers).run w).2
    | .crashed q answers points => ((publishGithubChangeCheck host q answers).crashPoints w)[points]?
    | .other w' =>
      if w'.store.publications = w.store.publications ∧ w'.checkRuns = w.checkRuns then some w'
      else none

/-- GitHub behaves as assumed in the step. -/
def AssumedStep (host : Host) (w : World) : CheckStep → Prop
  | .attempt q answers | .crashed q answers _ => Assumed host w q answers
  | .other _ => True

/-- The Check Runs of a publication. -/
def runsOf (w : World) (externalId : String) : List CheckRun :=
  w.checkRuns.filter fun run => run.externalId = externalId

section Runs

variable {host : Host} {w w' : World}

/-- Every assumed step leaves each run accounted for. -/
theorem accounted_step {step : CheckStep} (h : Accounted w) (hassumed : AssumedStep host w step)
    (hnext : (checkSystem host).next w step = some w') : Accounted w' := by
  cases step with
  | attempt q answers =>
    obtain rfl := Option.some.inj hnext
    exact (publish_safe hassumed).run_base h
  | crashed q answers points =>
    exact (publish_safe hassumed).crashPoints h (List.mem_of_getElem? hnext)
  | other w'' =>
    by_cases hkept : w''.store.publications = w.store.publications ∧ w''.checkRuns = w.checkRuns
    · obtain rfl : w'' = w' := by simpa [checkSystem, hkept] using hnext
      exact h.congr hkept.1 (by rw [knownRuns, hkept.2, knownRuns])
    · simp [checkSystem, hkept] at hnext

theorem accounted_reachable (h : ReachableBy (checkSystem host) (AssumedStep host) w) :
    Accounted w := by
  refine Invariant.reachable ⟨fun w ⟨hrows, htexts⟩ => ?_, fun w step w' hw hassumed hnext =>
    accounted_step hw hassumed hnext⟩ h
  refine ⟨by simp [hrows], by simp [hrows], ?_⟩
  rw [knownRuns, List.map_map]
  exact htexts

/-- The check runs of a publication are counted by their ids. -/
theorem length_runsOf (w : World) (externalId : String) :
    (runsOf w externalId).length =
      ((knownRuns w).filter fun run => run.1 = externalId).length := by
  rw [runsOf, knownRuns, List.filter_map, List.length_map]
  rfl

/-- A known id belongs to a run. -/
theorem mem_runsOf {externalId id : String} (h : (externalId, id) ∈ knownRuns w) :
    ∃ run ∈ runsOf w externalId, run.text = id := by
  obtain ⟨run, hrun, hsame⟩ := List.mem_map.mp h
  obtain ⟨hexternal, htext⟩ := Prod.mk.inj hsame
  exact ⟨run, List.mem_filter.mpr ⟨hrun, by simpa using hexternal⟩, htext⟩

/-- **Publication recovery.** In every state that attempts reach one after
another, however each of them ended and wherever it crashed: GitHub has at most
one Check Run with the external id of a publication, and the id a published row
stores is the id of that Check Run. -/
theorem check_run_recovery (h : ReachableBy (checkSystem host) (AssumedStep host) w) :
    ∀ publication ∈ w.store.publications.rows,
      (runsOf w publication.externalId).length ≤ 1 ∧
        (publication.status = "published" → ∃ run,
          runsOf w publication.externalId = [run] ∧ publication.providerCheckId = some run.text) := by
  intro publication hmem
  have hrow := (accounted_reachable h).rows publication hmem
  have hsingle : (runsOf w publication.externalId).length ≤ 1 := by
    rw [length_runsOf, hrow.externalId]
    exact hrow.single
  refine ⟨hsingle, fun hstatus => ?_⟩
  obtain ⟨id, hid⟩ := Option.ne_none_iff_exists'.mp (hrow.published hstatus)
  obtain ⟨run, hrun, rfl⟩ := mem_runsOf (hrow.externalId ▸ hrow.stored id hid)
  refine ⟨run, ?_, hid⟩
  cases hruns : runsOf w publication.externalId with
  | nil =>
    rw [hruns] at hrun
    cases hrun
  | cons first rest =>
    rw [hruns] at hrun hsingle
    obtain rfl : rest = [] := by
      rw [List.length_cons] at hsingle
      exact List.eq_nil_of_length_eq_zero (by omega)
    rw [List.mem_singleton.mp hrun]

end Runs

/-! ## A worker that dies after the request -/

def shopRepository : Repository where
  id := "rep-1"
  workspaceId := "w-1"
  provider := "github"
  providerRepositoryId := "101"
  fullName := "acme/shop"
  defaultBranch := "main"
  visibility := "private"
  connectionState := "connected"
  dataMode := "connected"
  selected := true
  lastSyncedAt := none
  createdAt := 0

def shopChange : ChangeRecord where
  id := "chg-1"
  workspaceId := "w-1"
  repositoryId := "rep-1"
  scenarioId := "sc-1"
  dataMode := "connected"
  analysisSchemaVersion := "1"
  engineVersion := "1"
  scoringPolicyVersion := "1"
  graphVersion := "1"
  title := "Retry limit"
  repository := "acme/shop"
  author := "dev"
  commitSha := "abcdef0"
  branch := "main"
  createdAt := 0
  deploymentStatus := "not_deployed"
  deploymentEnvironment := "unknown"
  changedServices := []
  filesChanged := 1
  linesAdded := 1
  linesDeleted := 0
  flags := []
  testCoverage := none
  rollbackReady := none
  observabilityScore := none
  previousFailures := none
  risk := ⟨12, "low", 1 / 2, [], []⟩
  blastRadius := ⟨[], []⟩

def shopCheck (newId : String) : CheckCall where
  connection := acmeConnection
  repository := shopRepository
  change := shopChange
  actorUserId := none
  requestId := "req-1"
  frontendPublicUrl := "https://app.example/"
  appAvailable := true
  newId := newId
  now := 0

/-- GitHub answers every request; `listed` is its list of Check Runs. -/
def shopAnswers (newRunId : Nat) (listed : List Value) : CheckAnswers where
  listed := .ok [("check_runs", .list listed)]
  created := ⟨true, .ok [("id", .int newRunId)]⟩
  newRunId := newRunId
  updated id := ⟨true, .ok [("id", .str id)]⟩

def shopWorld : World := ⟨linkedStore, []⟩

def shopReport : CheckReport := checkReport (defaultRiskPolicy "w-1") shopChange

/-- The publication of the first attempt, as it is while GitHub is asked. -/
def diedPublication : GitHubCheckPublication :=
  startAttempt 0 (newPublication (shopCheck "pub-1") shopReport)

/-- The worker dies when GitHub has created the Check Run and before the answer. -/
def diedWorld : World :=
  addCheckRun 4242 (checkRequest (shopCheck "pub-1") shopReport diedPublication)
    ⟨{ linkedStore with publications := ⟨[diedPublication], by decide⟩ }, []⟩

def retryAnswers : CheckAnswers :=
  shopAnswers 4243 [.dict [("id", .int 4242), ("external_id", .str "pub-1")]]

def retriedWorld : World :=
  ((publishGithubChangeCheck asciiHost (shopCheck "pub-2") retryAnswers).run diedWorld).2

/-- The answers of the example meet the assumptions. -/
theorem shopAnswers_assumed {w : World} {newId : String} {newRunId : Nat} {listed : List Value}
    (hnewId : ∀ row ∈ w.store.publications.rows, row.id ≠ newId)
    (hnewRuns : ∀ run ∈ knownRuns w, run.1 ≠ newId ∧ run.2 ≠ toString newRunId)
    (hlisted : ∀ row, w.store.publications.get? (shopCheck newId).key = some row →
      FindsRun asciiHost w row.externalId [("check_runs", .list listed)]) :
    Assumed asciiHost w (shopCheck newId) (shopAnswers newRunId listed) where
  newId := hnewId
  newExternalId run hrun := (hnewRuns run hrun).1
  newRunId run hrun := (hnewRuns run hrun).2
  created := by
    intro result h _
    cases h
    rfl
  effective _ _ _ := rfl
  updated := by
    intro id result h _
    cases h
    rfl
  listed := by
    intro row hrow payload h
    cases h
    exact hlisted row hrow

/-- The second attempt finds the Check Run, updates it and stores its id. -/
theorem check_run_recovery_retried :
    diedWorld.checkRuns.length = 1 ∧
      diedWorld.store.publications.rows.map (·.providerCheckId) = [none] ∧
      retriedWorld.store.publications.rows.map (·.status) = ["published"] ∧
      ∀ publication ∈ retriedWorld.store.publications.rows,
        (runsOf retriedWorld publication.externalId).length ≤ 1 ∧
          (publication.status = "published" → ∃ run, runsOf retriedWorld publication.externalId =
            [run] ∧ publication.providerCheckId = some run.text) := by
  have hdied : (checkSystem asciiHost).next shopWorld
      (.crashed (shopCheck "pub-1") (shopAnswers 4242 []) 4) = some diedWorld := rfl
  have hretried : (checkSystem asciiHost).next diedWorld
      (.attempt (shopCheck "pub-2") retryAnswers) = some retriedWorld := rfl
  have hknown : knownRuns diedWorld = [("pub-1", "4242")] := by decide
  have hfirst : Assumed asciiHost shopWorld (shopCheck "pub-1") (shopAnswers 4242 []) :=
    shopAnswers_assumed (by decide) (by decide) fun row hrow => nomatch hrow
  have hsecond : Assumed asciiHost diedWorld (shopCheck "pub-2") retryAnswers := by
    refine shopAnswers_assumed (fun row hrow => ?_) (by rw [hknown]; decide) fun row hrow => ?_
    · rw [List.mem_singleton.mp hrow]
      decide
    · rw [List.mem_singleton.mp (Table.mem_of_get? hrow)]
      -- the list answered has the Check Run of the first attempt
      intro recovered hrecovered
      have hscan : scanCheckRuns asciiHost "pub-1" [("check_runs", .list
          [.dict [("id", .int 4242), ("external_id", .str "pub-1")]])] =
          .ok (some [("id", .int 4242), ("external_id", .str "pub-1")]) := by decide +kernel
      obtain rfl := Except.ok.inj (hscan.symm.trans hrecovered)
      refine ⟨nofun, ?_⟩
      intro record h
      cases h
      rw [hknown]
      decide +kernel
  have hstart : ReachableBy (checkSystem asciiHost) (AssumedStep asciiHost) shopWorld :=
    .init ⟨rfl, List.nodup_nil⟩
  have hreach : ReachableBy (checkSystem asciiHost) (AssumedStep asciiHost) diedWorld :=
    hstart.step (a := .crashed (shopCheck "pub-1") (shopAnswers 4242 []) 4) hfirst hdied
  exact ⟨rfl, rfl, by decide +kernel, check_run_recovery
    (hreach.step (a := .attempt (shopCheck "pub-2") retryAnswers) hsecond hretried)⟩

end DeployGuard.Service
