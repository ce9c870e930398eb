import DeployGuard.Service.Store

/-!
# The operational event ledger

`OperationalEventCreate` and the path every event takes into the ledger. An
event is identified by workspace, source and provider event id; a second one
under the same identity is the same event if the *material* agrees, and a
conflict otherwise.

The call has four outcomes and no others: `recordEvent_error` (a reference does
not resolve), `recordEvent_existing`, `recordEvent_conflict` and
`recordEvent_new`, of which only the last writes.
-/

namespace DeployGuard.Service

open Raise Session Session.Call

/-! ## The request -/

/-- `OperationalEventCreate`. A `Time` always has its zone. -/
structure OperationalEventCreate where
  providerEventId : String
  repositoryId : Option String
  serviceId : Option String
  incidentId : Option String
  source : String
  eventType : String
  occurredAt : Time
  severity : String
  summary : String
  attributes : Items
  provenance : Items
  deriving DecidableEq

/-- `EventSeverity`. -/
def eventSeverities : List String := ["debug", "info", "warning", "error", "critical"]

/-- `timedelta(minutes=n)` and `timedelta(days=n)`. -/
def minutes (n : Int) : Time := seconds (n * 60)

def days (n : Int) : Time := seconds (n * 86400)

/-- The occurrence times the schema admits at a moment. -/
def Admissible (now occurredAt : Time) : Prop :=
  occurredAt ≤ now + minutes 5 ∧ now - days 366 ≤ occurredAt

instance (now occurredAt : Time) : Decidable (Admissible now occurredAt) :=
  inferInstanceAs (Decidable (_ ∧ _))

/-- `occurred_at_must_have_timezone`. -/
def occurredAtConstraints (now occurredAt : Time) : List Schema.Constraint :=
  [(occurredAt ≤ now + minutes 5,
      "Value error, occurred_at cannot be more than 5 minutes in the future"),
    (now - days 366 ≤ occurredAt,
      "Value error, occurred_at cannot be more than 366 days in the past")]

/-- The `json.dumps` of a structured payload. -/
def structuredText (host : Host) (items : Items) : Option String :=
  Json.dumps host.floatRepr false (.dict items)

/-- `bound_structured_payload`. -/
def structuredConstraints (host : Host) (items : Items) : List Schema.Constraint :=
  [(items.length ≤ 100, "Value error, structured payload cannot exceed 100 top-level keys"),
    ((structuredText host items).isSome, "Value error, structured payload must be JSON serializable"),
    ((structuredText host items).all fun text => Json.utf8Length text ≤ 65536,
      "Value error, structured payload cannot exceed 64 KiB")]

namespace OperationalEventCreate

/-- The request with its texts stripped. -/
def stripped (e : OperationalEventCreate) : OperationalEventCreate :=
  { e with
    providerEventId := Text.trim e.providerEventId
    source := Text.trim e.source
    eventType := Text.trim e.eventType
    summary := Text.trim e.summary }

/-- The errors of every field but `occurred_at`. -/
def fieldErrors (host : Host) (e : OperationalEventCreate) : Schema.Errors × Schema.Errors :=
  (Schema.field "provider_event_id"
      [Schema.nonEmpty e.providerEventId, Schema.atMost 160 e.providerEventId] ++
    Schema.field "repository_id" (Schema.optional e.repositoryId fun id => [Schema.atMost 36 id]) ++
    Schema.field "service_id" (Schema.optional e.serviceId fun id => [Schema.atMost 36 id]) ++
    Schema.field "incident_id" (Schema.optional e.incidentId fun id => [Schema.atMost 80 id]) ++
    Schema.field "source" [Schema.nonEmpty e.source, Schema.atMost 100 e.source] ++
    Schema.field "event_type" [Schema.nonEmpty e.eventType, Schema.atMost 100 e.eventType],
  Schema.field "severity"
      [(eventSeverities.contains e.severity,
        "Input should be 'debug', 'info', 'warning', 'error' or 'critical'")] ++
    Schema.field "summary" [Schema.nonEmpty e.summary, Schema.atMost 1000 e.summary] ++
    Schema.field "attributes" (structuredConstraints host e.attributes) ++
    Schema.field "provenance" (structuredConstraints host e.provenance))

/-- Every field but `occurred_at` passes its constraints. -/
def WellFormed (host : Host) (e : OperationalEventCreate) : Prop :=
  (e.stripped.fieldErrors host).1 = [] ∧ (e.stripped.fieldErrors host).2 = []

instance (host : Host) (e : OperationalEventCreate) : Decidable (e.WellFormed host) :=
  inferInstanceAs (Decidable (_ ∧ _))

/-- The errors of every field, in their order. -/
def errors (host : Host) (now : Time) (e : OperationalEventCreate) : Schema.Errors :=
  (e.fieldErrors host).1 ++ Schema.field "occurred_at" (occurredAtConstraints now e.occurredAt) ++
    (e.fieldErrors host).2

/-- The validated request. -/
def validate (host : Host) (now : Time) (e : OperationalEventCreate) :
    Except ServiceError OperationalEventCreate :=
  if e.stripped.errors host now = [] then .ok e.stripped
  else .error (.validation (e.stripped.errors host now))

theorem occurredAt_ok {now occurredAt : Time} :
    Schema.field "occurred_at" (occurredAtConstraints now occurredAt) = [] ↔
      Admissible now occurredAt := by
  rw [Schema.field_eq_nil]
  constructor
  · intro h
    exact ⟨of_decide_eq_true (h _ (List.mem_cons_self ..)),
      of_decide_eq_true (h _ (List.mem_cons_of_mem _ (List.mem_cons_self ..)))⟩
  · intro h c hc
    rcases List.mem_cons.mp hc with rfl | hc
    · exact decide_eq_true h.1
    · rw [List.mem_singleton] at hc
      subst hc
      exact decide_eq_true h.2

theorem errors_eq_nil {host : Host} {now : Time} {e : OperationalEventCreate} :
    e.stripped.errors host now = [] ↔ e.WellFormed host ∧ Admissible now e.occurredAt := by
  rw [errors, List.append_eq_nil_iff, List.append_eq_nil_iff, occurredAt_ok]
  exact ⟨fun ⟨⟨h₁, h₂⟩, h₃⟩ => ⟨⟨h₁, h₃⟩, h₂⟩, fun ⟨⟨h₁, h₃⟩, h₂⟩ => ⟨⟨h₁, h₂⟩, h₃⟩⟩

theorem validate_eq_ok {host : Host} {now : Time} {e e' : OperationalEventCreate} :
    e.validate host now = .ok e' ↔
      e.WellFormed host ∧ Admissible now e.occurredAt ∧ e.stripped = e' := by
  unfold validate
  by_cases h : e.WellFormed host ∧ Admissible now e.occurredAt
  · rw [if_pos (errors_eq_nil.mpr h), Except.ok.injEq]
    exact ⟨fun he => ⟨h.1, h.2, he⟩, fun he => he.2.2⟩
  · rw [if_neg (fun hc => h (errors_eq_nil.mp hc))]
    exact ⟨nofun, fun he => absurd ⟨he.1, he.2.1⟩ h⟩

end OperationalEventCreate

/-! ## Material -/

/-- `_canonical_json`. -/
def canonicalJson (host : Host) (items : Items) : Option String :=
  Json.dumps host.floatRepr false (Json.sortKeys (.dict items))

/-- What `_event_material` compares. A time is its own canonical form. -/
structure EventMaterial where
  repositoryId : Option String
  serviceId : Option String
  incidentId : Option String
  eventType : String
  occurredAt : Time
  severity : String
  summary : String
  attributes : Option String
  provenance : Option String
  originChannel : Value
  originActorUserId : Value
  deriving DecidableEq

/-- `provenance.pop("_ingestion", {})`, which counts as empty unless it is an object. -/
def ingestionOf (provenance : Items) : Items :=
  match getItem provenance "_ingestion" with
  | .dict items => items
  | _ => []

/-- `_event_material` of a row. -/
def storedEventMaterial (host : Host) (record : OperationalEvent) : EventMaterial where
  repositoryId := record.repositoryId
  serviceId := record.serviceId
  incidentId := record.incidentId
  eventType := Text.strip record.eventType
  occurredAt := record.occurredAt
  severity := record.severity
  summary := Text.strip record.summary
  attributes := canonicalJson host record.attributes
  provenance := canonicalJson host (record.provenance.filter fun item => item.1 ≠ "_ingestion")
  originChannel := getItem (ingestionOf record.provenance) "channel"
  originActorUserId := getItem (ingestionOf record.provenance) "actor_user_id"

/-! ## Recording -/

/-- The incident an event refers to. -/
def incidentForWorkspace (s : Store) (workspaceId : String) :
    Option String → Except ServiceError (Option IncidentRecord)
  | none => .ok none
  | some incidentId =>
    match s.incidents.rows.find? fun row =>
        row.id = incidentId ∧ row.workspaceId = workspaceId with
    | some incident => .ok (some incident)
    | none => .error (.domain "Incident not found" "incident_not_found" 404)

/-- The service an event refers to. -/
def eventService (s : Store) (workspaceId : String) :
    Option String → Except ServiceError (Option ServiceCatalogEntry)
  | none => .ok none
  | some serviceId => do
    let service ← serviceForWorkspace s workspaceId serviceId
    pure (some service)

/-- `_effective_event_repository_id`. -/
def effectiveEventRepositoryId (s : Store) (workspaceId : String)
    (payload : OperationalEventCreate) : Except ServiceError (Option String) := do
  let explicitRepository ← repositoryForWorkspace s workspaceId payload.repositoryId
  let service ← eventService s workspaceId payload.serviceId
  let incident ← incidentForWorkspace s workspaceId payload.incidentId
  let repositoryIds := [explicitRepository.map (·.id), service.bind (·.repositoryId),
    incident.map (·.repositoryId)].reduceOption.dedup
  raiseIf (1 < repositoryIds.length)
    (.domain "Repository, service, and incident scopes do not match"
      "operational_event_scope_mismatch" 422)
  -- an explicit repository has been looked up already
  let _ ← repositoryForWorkspace s workspaceId
    (if explicitRepository = none then repositoryIds.head? else none)
  pure repositoryIds.head?

/-- The identity and origin of a call beside its payload. -/
structure EventCall where
  requestId : String
  actorUserId : Option String
  /-- the provenance to store -/
  provenance : Items
  newId : String
  now : Time

/-- The row a call stores. -/
def newEvent (host : Host) (workspaceId : String) (payload : OperationalEventCreate)
    (call : EventCall) (repositoryId : Option String) : OperationalEvent where
  id := call.newId
  providerEventId := payload.providerEventId
  workspaceId := workspaceId
  repositoryId := repositoryId
  serviceId := payload.serviceId
  incidentId := payload.incidentId
  source := host.lower (Text.strip payload.source)
  eventType := Text.strip payload.eventType
  occurredAt := payload.occurredAt
  severity := payload.severity
  summary := Text.strip payload.summary
  attributes := payload.attributes
  provenance := call.provenance
  ingestionStatus := if payload.incidentId = none then "accepted" else "correlated"
  ingestedAt := call.now

/-- `_event_material` of the payload under its effective repository. -/
def expectedMaterial (host : Host) (payload : OperationalEventCreate) (call : EventCall)
    (repositoryId : Option String) : EventMaterial where
  repositoryId := repositoryId
  serviceId := payload.serviceId
  incidentId := payload.incidentId
  eventType := Text.strip payload.eventType
  occurredAt := payload.occurredAt
  severity := payload.severity
  summary := Text.strip payload.summary
  attributes := canonicalJson host payload.attributes
  provenance := canonicalJson host (call.provenance.filter fun item => item.1 ≠ "_ingestion")
  originChannel := getItem (ingestionOf call.provenance) "channel"
  originActorUserId := getItem (ingestionOf call.provenance) "actor_user_id"

def eventAudit (record : OperationalEvent) (call : EventCall) : AuditEvent where
  workspaceId := record.workspaceId
  actorUserId := call.actorUserId
  action := "operational_event.ingested"
  resourceType := "operational_event"
  resourceId := record.id
  requestId := call.requestId
  metadata := [("source", .str record.source), ("event_type", .str record.eventType),
    ("ingestion_status", .str record.ingestionStatus)]
  createdAt := call.now

/-- A row found under the identity is the event itself or a conflict. -/
def sameEvent (host : Host) (existing : OperationalEvent) (expected : EventMaterial)
    (detail : String) : Except ServiceError OperationalEvent :=
  if storedEventMaterial host existing = expected then .ok existing
  else .error (.domain detail "operational_event_idempotency_conflict" 409)

/-- The insert and its commit. An integrity error means that another session's
insert came first; its row is read back. -/
def commitEvent (host : Host) (record : OperationalEvent) (expected : EventMaterial)
    (entry : AuditEvent) : DatabaseCall OperationalEvent := do
  match ← read fun s => s.events.insert record with
  | some events =>
    write fun s => { s with events := events }.audit entry
    commit
    pure record
  | none =>
    rollback
    match ← read fun s => s.events.get? record.identity with
    | none => raise .integrityError
    | some existing =>
      lift (sameEvent host existing expected
        "Provider event ID was concurrently used with different event data")

/-- `_record_normalized_operational_event`. -/
def recordNormalizedOperationalEvent (host : Host) (workspaceId : String)
    (payload : OperationalEventCreate) (call : EventCall) : DatabaseCall OperationalEvent := do
  let repositoryId ← query fun s => effectiveEventRepositoryId s workspaceId payload
  let expected := expectedMaterial host payload call repositoryId
  let record := newEvent host workspaceId payload call repositoryId
  match ← read fun s => s.events.get? record.identity with
  | some existing =>
    lift (sameEvent host existing expected
      "Provider event ID was already used with different event data")
  | none => commitEvent host record expected (eventAudit record call)

/-- `{**provenance, "_ingestion": {…}}` of a trusted internal adapter. -/
def trustedProvenance (provenance : Items) (requestId : String) : Items :=
  Dict.set provenance "_ingestion"
    (.dict [("channel", .str "trusted_internal"), ("actor_user_id", .none),
      ("request_id", .str requestId)])

def trustedCall (payload : OperationalEventCreate) (requestId newId : String) (now : Time) :
    EventCall where
  requestId := requestId
  actorUserId := none
  provenance := trustedProvenance payload.provenance requestId
  newId := newId
  now := now

/-- `record_trusted_operational_event`. -/
def recordTrustedOperationalEvent (host : Host) (workspaceId : String)
    (payload : OperationalEventCreate) (requestId newId : String) (now : Time) :
    DatabaseCall OperationalEvent :=
  recordNormalizedOperationalEvent host workspaceId payload
    (trustedCall payload requestId newId now)

/-! ## The four outcomes -/

section Outcomes

variable {host : Host} {workspaceId : String} {payload : OperationalEventCreate} {call : EventCall}
  {s : State Store} {repositoryId : Option String}

/-- A row reads back as the material it was stored for. -/
theorem storedEventMaterial_newEvent :
    storedEventMaterial host (newEvent host workspaceId payload call repositoryId) =
      expectedMaterial host payload call repositoryId := by
  simp only [storedEventMaterial, newEvent, expectedMaterial, Text.strip_idem]

theorem recordEvent_error {e : ServiceError}
    (h : effectiveEventRepositoryId s.cur workspaceId payload = .error e) :
    recordNormalizedOperationalEvent host workspaceId payload call s = (.error e, s) :=
  query_error_bind h

/-- The event is there already: nothing is written. -/
theorem recordEvent_existing {existing : OperationalEvent}
    (h : effectiveEventRepositoryId s.cur workspaceId payload = .ok repositoryId)
    (hget : s.cur.events.get? (newEvent host workspaceId payload call repositoryId).identity =
      some existing)
    (hsame : storedEventMaterial host existing = expectedMaterial host payload call repositoryId) :
    recordNormalizedOperationalEvent host workspaceId payload call s = (.ok existing, s) := by
  unfold recordNormalizedOperationalEvent
  rw [query_ok_bind h, read_bind_apply, hget]
  show (lift _ : DatabaseCall _) s = _
  rw [sameEvent, if_pos hsame]
  rfl

/-- Another event has the identity: nothing is written either. -/
theorem recordEvent_conflict {existing : OperationalEvent}
    (h : effectiveEventRepositoryId s.cur workspaceId payload = .ok repositoryId)
    (hget : s.cur.events.get? (newEvent host workspaceId payload call repositoryId).identity =
      some existing)
    (hne : storedEventMaterial host existing ≠ expectedMaterial host payload call repositoryId) :
    recordNormalizedOperationalEvent host workspaceId payload call s =
      (.error (.domain "Provider event ID was already used with different event data"
        "operational_event_idempotency_conflict" 409), s) := by
  unfold recordNormalizedOperationalEvent
  rw [query_ok_bind h, read_bind_apply, hget]
  show (lift _ : DatabaseCall _) s = _
  rw [sameEvent, if_neg hne]
  rfl

/-- The ledger with a row added. -/
def addEvent (events : Table OperationalEvent.identity) (entry : AuditEvent) (s : Store) : Store :=
  { s with events := events }.audit entry

/-- The event is new: it is stored with its audit entry, in one commit. -/
theorem recordEvent_new
    (h : effectiveEventRepositoryId s.cur workspaceId payload = .ok repositoryId)
    (hget : s.cur.events.get? (newEvent host workspaceId payload call repositoryId).identity =
      none) :
    ∃ events, s.cur.events.insert (newEvent host workspaceId payload call repositoryId) =
        some events ∧
      recordNormalizedOperationalEvent host workspaceId payload call s =
        (.ok (newEvent host workspaceId payload call repositoryId),
          (s.written (addEvent events (eventAudit
            (newEvent host workspaceId payload call repositoryId) call))).committed) := by
  obtain ⟨events, hinsert⟩ := Table.insert_of_free hget
  refine ⟨events, hinsert, ?_⟩
  unfold recordNormalizedOperationalEvent
  rw [query_ok_bind h, read_bind_apply, hget]
  show (commitEvent _ _ _ _ : DatabaseCall _) s = _
  unfold commitEvent
  rw [read_bind_apply, hinsert]
  rfl

/-- A call that returned has its event in the ledger, with the material of the payload. -/
theorem recordEvent_ok {s' : State Store} {event : OperationalEvent} (hbase : s.base = s.cur)
    (h : recordNormalizedOperationalEvent host workspaceId payload call s = (.ok event, s')) :
    ∃ repositoryId, effectiveEventRepositoryId s.cur workspaceId payload = .ok repositoryId ∧
      s'.base.events.get? (newEvent host workspaceId payload call repositoryId).identity =
        some event ∧
      storedEventMaterial host event = expectedMaterial host payload call repositoryId := by
  cases heff : effectiveEventRepositoryId s.cur workspaceId payload with
  | error e =>
    rw [recordEvent_error heff] at h
    cases h
  | ok repositoryId =>
    refine ⟨repositoryId, rfl, ?_⟩
    cases hget : s.cur.events.get? (newEvent host workspaceId payload call repositoryId).identity with
    | some existing =>
      by_cases hsame : storedEventMaterial host existing =
          expectedMaterial host payload call repositoryId
      · rw [recordEvent_existing heff hget hsame] at h
        obtain ⟨rfl, rfl⟩ : existing = event ∧ s = s' := by simpa using h
        exact ⟨hbase ▸ hget, hsame⟩
      · rw [recordEvent_conflict heff hget hsame] at h
        cases h
    | none =>
      obtain ⟨events, hinsert, hrun⟩ := recordEvent_new heff hget
      rw [hrun] at h
      obtain ⟨rfl, rfl⟩ : newEvent host workspaceId payload call repositoryId = event ∧ _ = s' := by
        simpa using h
      refine ⟨?_, storedEventMaterial_newEvent⟩
      show events.get? _ = _
      rw [Table.get?_insert hinsert, if_pos rfl]

/-- Whatever a call does, it commits nothing but a new row with its audit entry. -/
theorem recordEvent_safe {I : Store → Prop}
    (hadd : ∀ t events entry, I t → t.events.insert
      (newEvent host workspaceId payload call repositoryId) = some events →
      I (addEvent events entry t)) :
    effectiveEventRepositoryId s.cur workspaceId payload = .ok repositoryId →
    Safe I s (recordNormalizedOperationalEvent host workspaceId payload call)
      (fun event s' => s'.cur.events.get?
        (newEvent host workspaceId payload call repositoryId).identity = some event)
      (fun _ => True) := by
  intro heff hall
  cases hget : s.cur.events.get? (newEvent host workspaceId payload call repositoryId).identity with
  | some existing =>
    by_cases hsame : storedEventMaterial host existing =
        expectedMaterial host payload call repositoryId
    · rw [recordEvent_existing heff hget hsame]
      exact ⟨hall, hget⟩
    · rw [recordEvent_conflict heff hget hsame]
      exact ⟨hall, trivial⟩
  | none =>
    obtain ⟨events, hinsert, hrun⟩ := recordEvent_new heff hget
    rw [hrun]
    refine ⟨(hall.written (hadd _ _ _ hall.cur hinsert)).committed, ?_⟩
    show events.get? _ = _
    rw [Table.get?_insert hinsert, if_pos rfl]

/-- A condition that every added event keeps is kept by every call. -/
theorem recordEvent_keeps {I : Store → Prop}
    (hadd : ∀ t record events entry, I t → t.events.insert record = some events →
      I (addEvent events entry t)) :
    Safe I s (recordNormalizedOperationalEvent host workspaceId payload call)
      (fun _ _ => True) (fun _ => True) := by
  cases heff : effectiveEventRepositoryId s.cur workspaceId payload with
  | error e =>
    intro hall
    rw [recordEvent_error heff]
    exact ⟨hall, trivial⟩
  | ok repositoryId =>
    exact (recordEvent_safe (fun t => hadd t _) heff).weaken (fun _ _ _ _ => trivial)
      (fun _ _ => trivial)

end Outcomes

/-! ## The ledger over time -/

/-- Every event of one ledger is in the other, as it is. -/
def LedgerExtends (s s' : Store) : Prop :=
  ∀ event ∈ s.events.rows, s'.events.get? event.identity = some event

instance (s s' : Store) : Decidable (LedgerExtends s s') :=
  inferInstanceAs (Decidable (∀ event ∈ s.events.rows, _))

theorem LedgerExtends.get? {s s' : Store} (h : LedgerExtends s s') {key : String × String × String}
    {event : OperationalEvent} (hget : s.events.get? key = some event) :
    s'.events.get? key = some event := by
  obtain ⟨hmem, rfl⟩ := Table.get?_eq_some.mp hget
  exact h event hmem

theorem LedgerExtends.refl (s : Store) : LedgerExtends s s :=
  fun _ hmem => Table.get?_of_mem hmem

theorem LedgerExtends.trans {s₁ s₂ s₃ : Store} (h₁ : LedgerExtends s₁ s₂)
    (h₂ : LedgerExtends s₂ s₃) : LedgerExtends s₁ s₃ :=
  fun event hmem => h₂.get? (h₁ event hmem)

theorem LedgerExtends.addEvent {s : Store} {record : OperationalEvent}
    {events : Table OperationalEvent.identity} {entry : AuditEvent}
    (h : s.events.insert record = some events) : LedgerExtends s (addEvent events entry s) := by
  intro event hmem
  show events.get? event.identity = some event
  rw [Table.get?_insert h, Table.get?_of_mem hmem]
  obtain ⟨hfree, -⟩ := Table.insert_eq_some h
  rw [if_neg (fun heq => Table.get?_eq_none.mp hfree event hmem heq.symm)]

end DeployGuard.Service
