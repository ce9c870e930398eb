import Mathlib.Data.List.Induction
import DeployGuard.Lib.Blind
import DeployGuard.Service.Ledger
import DeployGuard.Service.Telemetry
import DeployGuard.Service.Webhook

/-!
# Reserved sources

A member cannot write under a source a provider adapter uses. The check and the
stored row use the same normalised source, so what a member adds is outside the
reserved namespaces; and the adapters look up the ledger under keys inside them,
and nothing else of it.

> `reserved_noninterference`: take the members' ingestions out of a run, and every
webhook and every telemetry request ends as before, on the same reserved rows.
-/

namespace DeployGuard.Service

open Raise Session Session.Call

variable {host : Host}

/-! ## What the adapters see -/

/-- The database without the ledger and the audit log. -/
def forgetEvents (s : Store) : Store := { s with events := ∅, auditEvents := [] }

/-- Two databases agree on everything but the members' part of the ledger. -/
structure SameTrusted (host : Host) (s s' : Store) : Prop where
  rest : forgetEvents s = forgetEvents s'
  events : ∀ key : String × String × String, sourceIsProviderReserved host key.2.1 = true →
    s.events.get? key = s'.events.get? key

namespace SameTrusted

variable {s s' : Store} {α : Type}

/-- A store has its own trusted rows. -/
theorem refl (s : Store) : SameTrusted host s s := ⟨rfl, fun _ _ => rfl⟩

/-- Having the same trusted rows is symmetric. -/
theorem symm (h : SameTrusted host s s') : SameTrusted host s' s :=
  ⟨h.rest.symm, fun key hkey => (h.events key hkey).symm⟩

/-- Having the same trusted rows is transitive. -/
theorem trans {s'' : Store} (h : SameTrusted host s s') (h' : SameTrusted host s' s'') :
    SameTrusted host s s'' :=
  ⟨h.rest.trans h'.rest, fun key hkey => (h.events key hkey).trans (h'.events key hkey)⟩

/-- What is read of other tables is the same. -/
theorem read {g : Store → α} (hg : ∀ s, g (forgetEvents s) = g s) :
    ∀ s s', SameTrusted host s s' → g s = g s' := by
  intro s s' h
  rw [← hg s, ← hg s', h.rest]

/-- Other tables may be written from what is read of them. -/
theorem write {g : Store → Store}
    (hg : ∀ s, forgetEvents (g s) = forgetEvents (g (forgetEvents s)))
    (hevents : ∀ s, (g s).events = s.events) :
    ∀ s s', SameTrusted host s s' → SameTrusted host (g s) (g s') := by
  intro s s' h
  refine ⟨?_, fun key hkey => ?_⟩
  · rw [hg s, hg s', h.rest]
  · rw [hevents, hevents]
    exact h.events key hkey

/-- A row goes into both ledgers. -/
theorem addEvent {record : OperationalEvent} {events events' : Table OperationalEvent.identity}
    {entry : AuditEvent} (h : SameTrusted host s s') (he : s.events.insert record = some events)
    (he' : s'.events.insert record = some events') :
    SameTrusted host (addEvent events entry s) (Service.addEvent events' entry s') := by
  refine ⟨h.rest, fun key hkey => ?_⟩
  show events.get? key = events'.get? key
  rw [Table.get?_insert he, Table.get?_insert he', h.events key hkey]

/-- A row outside the reserved sources does not show. -/
theorem addUnreserved (record : OperationalEvent) {events : Table OperationalEvent.identity}
    {entry : AuditEvent} (h : SameTrusted host s s')
    (hsource : sourceIsProviderReserved host record.source = false)
    (he : s'.events.insert record = some events) :
    SameTrusted host s (Service.addEvent events entry s') := by
  refine ⟨h.rest, fun key hkey => ?_⟩
  show s.events.get? key = events.get? key
  rw [Table.get?_insert he, if_neg, h.events key hkey]
  intro h
  obtain rfl := h
  exact Bool.false_ne_true (hsource.symm.trans hkey)

end SameTrusted

/-- What is reserved whatever the Unicode tables of the host say. -/
theorem reserved_ascii {source : String}
    (hascii : (Text.strip source).toList.all (fun c => decide (c.toNat < 128)) = true)
    (hreserved : Text.lower (Text.strip source) ∈ reservedProviderSourceNamespaces) :
    sourceIsProviderReserved host source = true := by
  unfold sourceIsProviderReserved
  rw [host.lower_of_ascii hascii]
  refine List.any_eq_true.mpr ⟨_, hreserved, ?_⟩
  simp

/-! ## The adapters -/

section Adapters

variable {config : WebhookConfig} {d : GithubDelivery} {call : WebhookCall}
  {connection : ProviderConnection} {repository : Repository}

/-- A call of an adapter goes on as if the members' events were not there. -/
abbrev BlindToMembers {α : Type} (host : Host) (c : DatabaseCall α) : Prop :=
  Blind (SameTrusted host) c

/-- The recording of an event under a reserved source. -/
theorem recordNormalized_blind {workspaceId : String} {payload : OperationalEventCreate}
    {eventCall : EventCall}
    (hsource : sourceIsProviderReserved host (normalizedSource host payload) = true) :
    BlindToMembers host (recordNormalizedOperationalEvent host workspaceId payload eventCall) := by
  intro s s' h
  -- The references are checked against tables outside the ledger.
  have hreferences : effectiveEventRepositoryId s.cur workspaceId payload =
      effectiveEventRepositoryId s'.cur workspaceId payload :=
    SameTrusted.read (g := fun s => effectiveEventRepositoryId s workspaceId payload)
      (fun _ => rfl) _ _ h.cur
  cases heff : effectiveEventRepositoryId s.cur workspaceId payload with
  | error e =>
    rw [recordEvent_error heff, recordEvent_error (hreferences ▸ heff)]
    exact ⟨rfl, h⟩
  | ok repositoryId =>
    have heff' : effectiveEventRepositoryId s'.cur workspaceId payload = .ok repositoryId :=
      hreferences ▸ heff
    let record := newEvent host workspaceId payload eventCall repositoryId
    -- The key is the provider's, so both databases hold the same event under it.
    have hsame : s.cur.events.get? record.identity = s'.cur.events.get? record.identity :=
      h.cur.events _ hsource
    cases hget : s.cur.events.get? record.identity with
    | some existing =>
      have hget' : s'.cur.events.get? record.identity = some existing := hsame ▸ hget
      by_cases hmaterial : storedEventMaterial host existing =
          expectedMaterial host payload eventCall repositoryId
      · rw [recordEvent_existing heff hget hmaterial, recordEvent_existing heff' hget' hmaterial]
        exact ⟨rfl, h⟩
      · rw [recordEvent_conflict heff hget hmaterial, recordEvent_conflict heff' hget' hmaterial]
        exact ⟨rfl, h⟩
    | none =>
      have hget' : s'.cur.events.get? record.identity = none := hsame ▸ hget
      obtain ⟨events, hinsert, hrun⟩ := recordEvent_new heff hget
      obtain ⟨events', hinsert', hrun'⟩ := recordEvent_new heff' hget'
      rw [hrun, hrun']
      -- both insert, and the rows they add are the same
      have hcur : SameTrusted host (addEvent events (eventAudit record eventCall) s.cur)
          (addEvent events' (eventAudit record eventCall) s'.cur) := h.cur.addEvent hinsert hinsert'
      exact ⟨rfl, hcur, hcur⟩

/-- The event of a delivery is trusted-written, so no member's row decides about it. -/
theorem githubOperationalEvent_blind :
    BlindToMembers host (githubOperationalEvent host d connection repository call) := by
  refine Blind.bind (.lift _) fun n => Blind.lift_bind fun payload hpayload => ?_
  obtain ⟨-, -, rfl⟩ := OperationalEventCreate.validate_eq_ok.mp hpayload
  refine recordNormalized_blind ?_
  show sourceIsProviderReserved host (host.lower (Text.strip (Text.trim "github"))) = true
  rw [host.lower_of_ascii (by decide)]
  exact reserved_ascii (by decide) (by decide)

/-- An analysis reads no event. -/
theorem analyzeChange_blind {request : AnalyzeChangeRequest} {scope : AnalysisScope} {now : Time} :
    BlindToMembers host (analyzeChange host request scope now) := by
  refine Blind.bind (.query (SameTrusted.read fun _ => rfl)) fun a => ?_
  refine Blind.bind (.read (SameTrusted.read fun _ => rfl)) fun existing => ?_
  split
  · exact .pure _
  · refine Blind.bind (.lift _) fun record => ?_
    refine Blind.bind (.read (SameTrusted.read fun _ => rfl)) fun changes => ?_
    split
    · refine Blind.bind (.write (SameTrusted.write (fun _ => rfl) fun _ => rfl)) fun _ => ?_
      exact Blind.bind .commit fun _ => .pure _
    · exact .raise _

/-- Queueing a publication reads no event. -/
theorem queuePublication_blind {changeId : String} :
    BlindToMembers host (queuePublication host config d call connection repository changeId) := by
  refine Blind.bind (.read (SameTrusted.read fun _ => rfl)) fun change => ?_
  split
  · unfold enqueueGithubCheckPublication
    split
    · refine Blind.bind (.lift _) fun contract => Blind.bind ?_ fun _ => .pure _
      refine Blind.bind (.query (SameTrusted.read fun _ => rfl)) fun queued => ?_
      refine Blind.bind (.write (SameTrusted.write (fun _ => rfl) fun _ => rfl)) fun _ => ?_
      exact .pure _
    · exact .pure _
  · exact .pure _

/-- The deployment row is found without the events. -/
theorem upsertRow_blind {u : DeploymentUpdate} {c : DeploymentCall}
    {change : Option ChangeRecord} {services : List String}
    {again : DatabaseCall (Option DeploymentRecord)} (hagain : BlindToMembers host again) :
    BlindToMembers host (upsertRow u c change services again) := by
  refine Blind.bind (.read (SameTrusted.read fun _ => rfl)) fun row => ?_
  split
  · refine Blind.bind (.read (SameTrusted.read fun _ => rfl)) fun deployments => ?_
    split
    · refine Blind.bind (.write (SameTrusted.write (fun _ => rfl) fun _ => rfl)) fun _ => ?_
      exact Blind.bind .commit fun _ => .pure _
    · refine Blind.bind .rollback fun _ => ?_
      refine Blind.bind (.read (SameTrusted.read fun _ => rfl)) fun existing => ?_
      split
      · exact .raise _
      · exact hagain
  · split
    · exact .pure _
    · refine Blind.bind (.lift _) fun _ => ?_
      refine Blind.bind (.write (SameTrusted.write (fun _ => rfl) fun _ => rfl)) fun _ => ?_
      exact Blind.bind .commit fun _ => .pure _

/-- One try of the upsert reads no event. -/
theorem upsertOnce_blind {payload : Items} {c : DeploymentCall}
    {again : DatabaseCall (Option DeploymentRecord)} (hagain : BlindToMembers host again) :
    BlindToMembers host (upsertOnce host payload c again) := by
  refine Blind.bind (.lift _) fun update => ?_
  split
  · exact .pure _
  · refine Blind.bind (.read (SameTrusted.read fun _ => rfl)) fun change => ?_
    refine Blind.bind (.read (SameTrusted.read fun _ => rfl)) fun services => ?_
    exact upsertRow_blind hagain

/-- The deployment of a delivery is decided without the members' events. -/
theorem upsertDeploymentOf_blind {event : OperationalEvent} :
    BlindToMembers host (upsertDeploymentOf host d call connection repository event) := by
  unfold upsertDeploymentOf
  split
  · exact Blind.bind (upsertOnce_blind (upsertOnce_blind (.raise _))) fun _ => .pure _
  · exact .pure _

/-- Marking a delivery writes no event. -/
theorem markDelivery_blind (status : String) :
    BlindToMembers host (write (markDelivery d status)) :=
  .write (SameTrusted.write (fun _ => rfl) fun _ => rfl)

/-- A run's delivery does not see the members' events. -/
theorem processRunEvent_blind {duplicate : Bool} :
    BlindToMembers host (processRunEvent host d call connection repository duplicate) := by
  refine Blind.bind githubOperationalEvent_blind fun event => ?_
  refine Blind.bind upsertDeploymentOf_blind fun _ => ?_
  exact Blind.bind (markDelivery_blind _) fun _ => Blind.bind .commit fun _ => .pure _

/-- The work of a pull request does not see them. -/
theorem pullRequestBody_blind :
    BlindToMembers host (pullRequestBody host config d call connection repository) := by
  refine Blind.bind (.lift _) fun request => Blind.bind analyzeChange_blind fun change => ?_
  refine Blind.bind (.query (SameTrusted.read fun _ => rfl)) fun scenario => ?_
  refine Blind.bind (.write (SameTrusted.write (fun _ => rfl) fun _ => rfl)) fun _ => ?_
  refine Blind.bind .commit fun _ => Blind.bind githubOperationalEvent_blind fun _ => ?_
  refine Blind.bind queuePublication_blind fun queued => ?_
  exact Blind.bind (markDelivery_blind _) fun _ => Blind.bind .commit fun _ => .pure _

/-- A failure in it is marked without reading them. -/
theorem processPullRequest_blind :
    BlindToMembers host (processPullRequest host config d call connection repository) := by
  refine Blind.bind (markDelivery_blind _) fun _ => Blind.bind .commit fun _ => ?_
  refine Blind.rescue pullRequestBody_blind ?_
  exact Blind.bind (markDelivery_blind _) fun _ => .commit

/-- The delivery's own row is inserted whatever the events are. -/
theorem addDelivery_blind {row : WebhookDelivery} : BlindToMembers host (addDelivery row) := by
  refine Blind.bind (.read (SameTrusted.read fun _ => rfl)) fun deliveries => ?_
  split
  · exact .write (SameTrusted.write (fun _ => rfl) fun _ => rfl)
  · exact .raise _

/-- A delivery of a known installation does not see the members' events. -/
theorem processConnected_blind {installationId : String} {repository : Option Repository}
    {existing : Option WebhookDelivery} :
    BlindToMembers host
      (processConnected host config d call installationId connection repository existing) := by
  refine Blind.bind (.lift _) fun _ => ?_
  split
  · exact .pure _
  · refine Blind.bind (Blind.bind ?_ fun _ => .commit) fun _ => ?_
    · cases existing with
      | none => exact addDelivery_blind
      | some row => exact .pure _
    · unfold processRecorded
      split
      · exact .pure _
      · split
        · exact processPullRequest_blind
        · split
          · exact processRunEvent_blind
          · exact .pure _

/-- A delivery of no installation writes its row only. -/
theorem processUnlinked_blind : BlindToMembers host (processUnlinked host config d call) := by
  refine Blind.bind (.lift _) fun _ => ?_
  split
  · refine Blind.bind (.query (SameTrusted.read fun _ => rfl)) fun _ => ?_
    refine Blind.bind (.lift _) fun request => ?_
    exact Blind.bind analyzeChange_blind fun _ => .pure _
  · exact .pure _

/-- An installation delivery changes the connection only. -/
theorem recordInstallation_blind {installationId : String}
    {connection : Option ProviderConnection} :
    BlindToMembers host (recordInstallation host d call installationId connection) := by
  refine Blind.bind (.write (SameTrusted.write (fun s => ?_) fun s => ?_)) fun _ => ?_
  · cases connection with
    | none => rfl
    | some connection => rfl
  · cases connection with
    | none => rfl
    | some connection => rfl
  · exact Blind.bind addDelivery_blind fun _ => Blind.bind .commit fun _ => .pure _

/-- The whole of `process_github_webhook`. -/
theorem processGithubWebhook_blind :
    BlindToMembers host (processGithubWebhook host config d call) := by
  refine Blind.bind (.lift _) fun _ => ?_
  refine Blind.bind (.read (SameTrusted.read fun _ => rfl)) fun existing => ?_
  split
  · exact .pure _
  · refine Blind.bind (.lift _) fun ids => ?_
    refine Blind.bind (.read (SameTrusted.read fun _ => rfl)) fun connection => ?_
    refine Blind.bind (.read (SameTrusted.read fun _ => rfl)) fun repository => ?_
    unfold processLinked
    split
    · exact recordInstallation_blind
    · split
      · exact processConnected_blind
      · exact processUnlinked_blind

/-- The whole of `ingest_telemetry_event`. -/
theorem ingestTelemetryEvent_blind {request : TelemetryIngestRequest} {h : TelemetryHeaders}
    {call : TelemetryCall} : BlindToMembers host (ingestTelemetryEvent host request h call) := by
  refine Blind.bind (.lift _) fun credential => ?_
  refine Blind.bind (.query (SameTrusted.read fun _ => rfl)) fun _ => ?_
  refine Blind.bind (.query (SameTrusted.read fun _ => rfl)) fun scope => ?_
  refine Blind.bind (.lift _) fun _ => Blind.lift_bind fun payload hpayload => ?_
  obtain ⟨-, -, rfl⟩ := OperationalEventCreate.validate_eq_ok.mp hpayload
  refine Blind.bind (recordNormalized_blind ?_) fun _ => .pure _
  show sourceIsProviderReserved host (host.lower (Text.strip (Text.trim "telemetry"))) = true
  rw [host.lower_of_ascii (by decide)]
  exact reserved_ascii (by decide) (by decide)

end Adapters

/-! ## Members -/

/-- Whatever a member sends, the adapters see the same as before. -/
theorem ingestOperationalEvent_unseen (host : Host) (userId workspaceId : String)
    (payload : OperationalEventCreate) (requestId newId : String) (now : Time) (s : Store) :
    SameTrusted host s ((ingestOperationalEvent host userId workspaceId payload requestId newId
      now).run s).2 := by
  have hsafe : Safe (SameTrusted host s) (State.start s)
      (ingestOperationalEvent host userId workspaceId payload requestId newId now)
      (fun _ _ => True) (fun _ => True) := by
    refine Safe.query_bind (fun _ hadmission => ?_) fun _ _ => trivial
    obtain ⟨_, -, hsource⟩ := Raise.bind_eq_ok.mp hadmission
    have hunreserved : sourceIsProviderReserved host (normalizedSource host payload) = false := by
      rw [← Bool.not_eq_true]
      exact raiseIf_eq_ok.mp hsource
    cases heff : effectiveEventRepositoryId s workspaceId payload with
    | error e =>
      intro hall
      rw [recordEvent_error (s := State.start s) heff]
      exact ⟨hall, trivial⟩
    | ok repositoryId =>
      let record := newEvent host workspaceId payload (memberCall userId requestId newId now)
        repositoryId
      have hadd : ∀ t events entry, SameTrusted host s t → t.events.insert record = some events →
          SameTrusted host s (addEvent events entry t) :=
        fun t events entry ht hinsert => ht.addUnreserved record hunreserved hinsert
      exact (recordEvent_safe hadd heff).weaken (fun _ _ _ _ => trivial) fun _ _ => trivial
  exact hsafe.run_base (.refl s)

/-! ## Runs -/

/-- An ingestion. -/
inductive IngestStep where
  | member (userId workspaceId : String) (payload : OperationalEventCreate)
      (requestId newId : String) (now : Time)
  | webhook (config : WebhookConfig) (d : GithubDelivery) (call : WebhookCall)
  | telemetry (request : TelemetryIngestRequest) (h : TelemetryHeaders) (call : TelemetryCall)

/-- How an ingestion ended. -/
inductive IngestOutcome where
  | member (result : Except ServiceError OperationalEvent)
  | webhook (result : Except ServiceError WebhookResponse)
  | telemetry (result : Except ServiceError TelemetryResponse)
  deriving DecidableEq

namespace IngestStep

def isTrusted : IngestStep → Bool
  | .member .. => false
  | _ => true

/-- An ingestion on a database. -/
def perform (host : Host) (s : Store) : IngestStep → IngestOutcome × Store
  | .member userId workspaceId payload requestId newId now =>
    ((ingestOperationalEvent host userId workspaceId payload requestId newId now).run s).map
      .member id
  | .webhook config d call => ((processGithubWebhook host config d call).run s).map .webhook id
  | .telemetry request h call => ((ingestTelemetryEvent host request h call).run s).map .telemetry id

end IngestStep

/-- The database after some ingestions. -/
def afterIngests (host : Host) (s : Store) (steps : List IngestStep) : Store :=
  steps.foldl (fun t step => (step.perform host t).2) s

/-- The outcomes of the trusted ones. -/
def trustedOutcomes (host : Host) : Store → List IngestStep → List IngestOutcome
  | _, [] => []
  | s, step :: steps =>
    if step.isTrusted then
      (step.perform host s).1 :: trustedOutcomes host (step.perform host s).2 steps
    else trustedOutcomes host (step.perform host s).2 steps

section Runs

variable {s s' : Store} {step : IngestStep}

/-- A trusted call does the same in two stores with the same trusted rows. -/
theorem perform_trusted (htrusted : step.isTrusted = true) (h : SameTrusted host s s') :
    (step.perform host s).1 = (step.perform host s').1 ∧
      SameTrusted host (step.perform host s).2 (step.perform host s').2 := by
  cases step with
  | member userId workspaceId payload requestId newId now => cases htrusted
  | webhook config d call =>
    have hblind : BlindToMembers host (processGithubWebhook host config d call) :=
      processGithubWebhook_blind
    obtain ⟨hresult, hsame⟩ := hblind.run h
    exact ⟨congrArg IngestOutcome.webhook hresult, hsame⟩
  | telemetry request headers call =>
    have hblind : BlindToMembers host (ingestTelemetryEvent host request headers call) :=
      ingestTelemetryEvent_blind
    obtain ⟨hresult, hsame⟩ := hblind.run h
    exact ⟨congrArg IngestOutcome.telemetry hresult, hsame⟩

/-- A member's call leaves the trusted rows alone. -/
theorem perform_member (huntrusted : step.isTrusted = false) (s : Store) :
    SameTrusted host s (step.perform host s).2 := by
  cases step with
  | member userId workspaceId payload requestId newId now =>
    exact ingestOperationalEvent_unseen ..
  | webhook config d call => cases huntrusted
  | telemetry request headers call => cases huntrusted

/-- Runs that differ in the members' ingestions only. -/
theorem ingests_unseen (steps : List IngestStep) (h : SameTrusted host s s') :
    trustedOutcomes host s steps = trustedOutcomes host s' (steps.filter (·.isTrusted)) ∧
      SameTrusted host (afterIngests host s steps)
        (afterIngests host s' (steps.filter (·.isTrusted))) := by
  induction steps generalizing s s' with
  | nil => exact ⟨rfl, h⟩
  | cons step steps ih =>
    by_cases htrusted : step.isTrusted = true
    · obtain ⟨houtcome, hsame⟩ := perform_trusted htrusted h
      obtain ⟨houtcomes, hend⟩ := ih hsame
      rw [List.filter_cons_of_pos (by simpa using htrusted)]
      refine ⟨?_, hend⟩
      rw [trustedOutcomes, if_pos htrusted, trustedOutcomes, if_pos htrusted, houtcome, houtcomes]
    · rw [Bool.not_eq_true] at htrusted
      obtain ⟨houtcomes, hend⟩ := ih ((perform_member htrusted s).symm.trans h)
      rw [List.filter_cons_of_neg (by simp [htrusted])]
      refine ⟨?_, hend⟩
      rw [trustedOutcomes, if_neg (by simp [htrusted]), houtcomes]

/-- A row of the ledger that a trusted ingestion of the run stored. -/
def StoredByTrusted (host : Host) (s : Store) (steps : List IngestStep) (event : OperationalEvent) :
    Prop :=
  ∃ before step after, steps = before ++ step :: after ∧ step.isTrusted = true ∧
    event ∉ (afterIngests host s before).events.rows ∧
    event ∈ (afterIngests host s (before ++ [step])).events.rows

/-- A history is read from its first step on. -/
theorem afterIngests_snoc (steps : List IngestStep) :
    afterIngests host s (steps ++ [step]) = (step.perform host (afterIngests host s steps)).2 :=
  List.foldl_append

/-- A reserved row was there at the start or stored by a trusted ingestion. -/
theorem reserved_origin (steps : List IngestStep) {event : OperationalEvent}
    (hreserved : sourceIsProviderReserved host event.source = true)
    (hmem : event ∈ (afterIngests host s steps).events.rows) :
    event ∈ s.events.rows ∨ StoredByTrusted host s steps event := by
  induction steps using List.reverseRecOn with
  | nil => exact Or.inl hmem
  | append_singleton steps step ih =>
    by_cases hbefore : event ∈ (afterIngests host s steps).events.rows
    · rcases ih hbefore with hstart | ⟨before, step', after, hsplit, htrusted, hnew⟩
      · exact Or.inl hstart
      · exact Or.inr ⟨before, step', after ++ [step], by rw [hsplit]; simp, htrusted, hnew⟩
    · refine Or.inr ⟨steps, step, [], rfl, ?_, hbefore, hmem⟩
      by_contra huntrusted
      rw [Bool.not_eq_true] at huntrusted
      rw [afterIngests_snoc] at hmem
      have hsame : SameTrusted host (afterIngests host s steps) _ :=
        perform_member huntrusted (afterIngests host s steps)
      exact hbefore (Table.mem_of_get?
        ((hsame.events event.identity hreserved).trans (Table.get?_of_mem hmem)))

/-- **Reserved sources.** From any database and for any ingestions in any order,
each row under a reserved source was there before or was stored by a trusted
ingestion; and with the members' ingestions taken out, the trusted ones have the
same outcomes and the reserved part of the ledger is the same. -/
theorem reserved_noninterference (host : Host) (s : Store) (steps : List IngestStep) :
    (∀ event ∈ (afterIngests host s steps).events.rows,
      sourceIsProviderReserved host event.source = true →
        event ∈ s.events.rows ∨ StoredByTrusted host s steps event) ∧
    trustedOutcomes host s steps = trustedOutcomes host s (steps.filter (·.isTrusted)) ∧
    ∀ key : String × String × String, sourceIsProviderReserved host key.2.1 = true →
      (afterIngests host s steps).events.get? key =
        (afterIngests host s (steps.filter (·.isTrusted))).events.get? key := by
  obtain ⟨houtcomes, hsame⟩ := ingests_unseen (s := s) steps (SameTrusted.refl s)
  exact ⟨fun event hmem hreserved => reserved_origin steps hreserved hmem, houtcomes,
    hsame.events⟩

end Runs

end DeployGuard.Service
