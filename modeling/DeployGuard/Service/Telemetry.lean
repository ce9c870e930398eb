import DeployGuard.Service.Event
import DeployGuard.Lib.Transition

/-!
# Telemetry ingestion

`ingest_telemetry_event`: the credential decides the workspace, the request and
the headers name the repository and the service, and the event goes through the
trusted path into the ledger under the collector's event id.

The moment of the call is the event's `occurred_at`, and `occurred_at` is event
material. So the same request sent again at another moment never meets the
material it stored the first time:

> `telemetry_retry_conflicts`: after a request with an event id was accepted, in
> every later state, at every later moment, the identical request raises
> `operational_event_idempotency_conflict`.
-/

namespace DeployGuard.Service

open Raise Session Session.Call Transition

/-! ## The request -/

/-- `TelemetryIngestRequest`. -/
structure TelemetryIngestRequest where
  source : String
  type : String
  serviceId : String
  summary : String
  value : Value
  supportsHypothesisIds : List String
  contradictsHypothesisIds : List String
  deriving DecidableEq

namespace TelemetryIngestRequest

def stripped (r : TelemetryIngestRequest) : TelemetryIngestRequest :=
  { r with
    source := Text.trim r.source
    serviceId := Text.trim r.serviceId
    summary := Text.trim r.summary }

/-- `str | int | float | bool | None`. -/
def isScalar : Value → Bool
  | .list _ | .dict _ | .object => false
  | _ => true

def errors (r : TelemetryIngestRequest) : Schema.Errors :=
  Schema.field "source" [Schema.nonEmpty r.source, Schema.atMost 100 r.source] ++
    Schema.field "type" [(["metric", "log", "trace", "alert"].contains r.type,
      "Input should be 'metric', 'log', 'trace' or 'alert'")] ++
    Schema.field "service_id" [Schema.nonEmpty r.serviceId, Schema.atMost 100 r.serviceId] ++
    Schema.field "summary" [Schema.nonEmpty r.summary, Schema.atMost 500 r.summary] ++
    Schema.field "value" [(isScalar r.value, "Input should be a valid scalar")]

/-- The validated request. -/
def validate (r : TelemetryIngestRequest) : Except ServiceError TelemetryIngestRequest :=
  if r.stripped.errors = [] then .ok r.stripped else .error (.validation r.stripped.errors)

end TelemetryIngestRequest

/-- What accompanies a request: the server's settings and the headers. -/
structure TelemetryHeaders where
  masterToken : String
  presentedToken : String
  workspaceId : Option String
  repositoryId : Option String
  providerEventId : Option String
  environment : String
  deriving DecidableEq

/-- What a call draws: its moment and its identifiers. -/
structure TelemetryCall where
  now : Time
  newKey : String
  newId : String

/-! ## The credential -/

/-- `derive_telemetry_collector_token`. -/
def deriveTelemetryCollectorToken (host : Host) (masterToken workspaceId : String) : String :=
  "dgct_" ++ host.hmacSha256 (encode masterToken) (encode s!"deployguard-telemetry:{workspaceId}")

/-- The workspace a credential is for, and its mode. -/
structure TelemetryCredential where
  workspaceId : String
  mode : String
  deriving DecidableEq

/-- The master token, outside production and for the legacy workspace only. -/
def legacyCredential (host : Host) (h : TelemetryHeaders) :
    Except ServiceError TelemetryCredential := do
  raiseIf (host.lower (Text.strip h.environment) = "production")
    (.domain "Use a workspace-scoped telemetry collector credential"
      "workspace_telemetry_credential_required" 401)
  raiseIf (¬(h.workspaceId = none ∨ h.workspaceId = some "" ∨
      h.workspaceId = some legacyWorkspaceId))
    (.domain "Telemetry credential does not match the requested workspace"
      "invalid_telemetry_token" 401)
  pure ⟨legacyWorkspaceId, "legacy_workspace"⟩

/-- A token derived for the workspace of the header. -/
def workspaceCredential (host : Host) (h : TelemetryHeaders) :
    Except ServiceError TelemetryCredential := do
  let workspaceId := h.workspaceId.getD ""
  raiseIf (workspaceId = "")
    (.domain "X-DeployGuard-Workspace is required" "telemetry_workspace_required" 400)
  let matching ← compareDigest h.presentedToken
    (deriveTelemetryCollectorToken host h.masterToken workspaceId)
  raiseIf (matching = false)
    (.domain "Invalid telemetry ingestion token" "invalid_telemetry_token" 401)
  pure ⟨workspaceId, "workspace_derived"⟩

def telemetryCredential (host : Host) (h : TelemetryHeaders) :
    Except ServiceError TelemetryCredential := do
  let legacy ← compareDigest h.presentedToken h.masterToken
  if legacy then legacyCredential host h else workspaceCredential host h

/-! ## The scope -/

def requireWorkspace (s : Store) (workspaceId : String) : Except ServiceError Workspace :=
  match s.workspaces.get? workspaceId with
  | some workspace => .ok workspace
  | none => .error (.domain "Workspace not found" "workspace_not_found" 404)

/-- A selected repository of the workspace. -/
def selectedRepository (s : Store) (workspaceId repositoryId : String) : Option Repository :=
  s.repositories.rows.find? fun row =>
    row.id = repositoryId ∧ row.workspaceId = workspaceId ∧ row.selected

def requireSelected (s : Store) (workspaceId repositoryId detail : String) :
    Except ServiceError (Option Repository) :=
  match selectedRepository s workspaceId repositoryId with
  | some repository => .ok (some repository)
  | none => .error (.domain detail "repository_not_found" 404)

/-- The repository of the header. -/
def headerRepository (s : Store) (workspaceId : String) (repositoryId : Option String) :
    Except ServiceError (Option Repository) :=
  if repositoryId.getD "" = "" then .ok none
  else requireSelected s workspaceId (repositoryId.getD "") "Repository not found"

/-- The service a request names, by id or by slug. -/
def referencedService (s : Store) (workspaceId reference : String) : Option ServiceCatalogEntry :=
  s.services.rows.find? fun row =>
    row.workspaceId = workspaceId ∧ (row.id = reference ∨ row.slug = reference)

/-- The repository of the service, where the header named none. -/
def serviceRepository (s : Store) (workspaceId : String) (repository : Option Repository)
    (service : Option ServiceCatalogEntry) : Except ServiceError (Option Repository) :=
  let serviceRepositoryId := (service.bind (·.repositoryId)).getD ""
  if repository = none ∧ serviceRepositoryId ≠ "" then
    requireSelected s workspaceId serviceRepositoryId "Service repository is not selected"
  else .ok repository

/-- The legacy repository, for the legacy workspace. -/
def legacyRepository (s : Store) (workspaceId : String) (repository : Option Repository) :
    Option Repository :=
  if repository = none ∧ workspaceId = legacyWorkspaceId then
    s.repositories.rows.find? fun row =>
      row.id = legacyRepositoryId ∧ row.workspaceId = legacyWorkspaceId
  else repository

structure TelemetryScope where
  repository : Option Repository
  service : Option ServiceCatalogEntry
  deriving DecidableEq

/-- The repository and the service of a request. -/
def telemetryScope (s : Store) (workspaceId : String) (repositoryId : Option String)
    (reference : String) : Except ServiceError TelemetryScope := do
  let repository ← headerRepository s workspaceId repositoryId
  let service := referencedService s workspaceId reference
  raiseIf (service = none ∧ workspaceId ≠ legacyWorkspaceId)
    (.domain "Service not found" "service_not_found" 404)
  raiseIf (repository ≠ none ∧ service.bind (·.repositoryId) ≠ none ∧
      service.bind (·.repositoryId) ≠ repository.map (·.id))
    (.domain "Telemetry service and repository scopes do not match" "telemetry_scope_mismatch" 422)
  let repository ← serviceRepository s workspaceId repository service
  pure ⟨legacyRepository s workspaceId repository, service⟩

/-! ## Ingestion -/

/-- The event id: the collector's, or a new one. -/
def eventKey (providerEventId : Option String) (newKey : String) : String :=
  let key := Text.strip (providerEventId.getD "")
  if key = "" then s!"telemetry-{newKey}" else key

/-- The event of a request. -/
def telemetryEvent (request : TelemetryIngestRequest) (credential : TelemetryCredential)
    (scope : TelemetryScope) (key : String) (timestamp : Time) : OperationalEventCreate where
  providerEventId := key
  repositoryId := scope.repository.map (·.id)
  serviceId := scope.service.map (·.id)
  incidentId := none
  source := "telemetry"
  eventType := s!"telemetry.{request.type}"
  occurredAt := timestamp
  severity := "info"
  summary := request.summary
  attributes :=
    [("value", request.value),
      ("supports_hypothesis_ids", .list (request.supportsHypothesisIds.map .str)),
      ("contradicts_hypothesis_ids", .list (request.contradictsHypothesisIds.map .str)),
      ("service_reference", .str request.serviceId)]
  provenance :=
    [("provider", .str request.source), ("collector_authenticated", .bool true),
      ("credential_mode", .str credential.mode), ("workspace_id", .str credential.workspaceId)]

structure TelemetryResponse where
  status : String
  evidenceId : String
  workspaceId : String
  repositoryId : Option String
  serviceId : Option String
  detail : String
  deriving DecidableEq

def telemetryResponse (workspaceId : String) (event : OperationalEvent) : TelemetryResponse where
  status := "ok"
  evidenceId := event.id
  workspaceId := workspaceId
  repositoryId := event.repositoryId
  serviceId := event.serviceId
  detail := "Telemetry event was accepted into the workspace ledger."

def checkEventKey (key : String) : Except ServiceError Unit :=
  raiseIf (160 < key.length)
    (.domain "Telemetry event identity is too long" "invalid_telemetry_event_id" 400)

/-- The part of `ingest_telemetry_event` from the event id on. -/
def recordTelemetryEvent (host : Host) (request : TelemetryIngestRequest) (call : TelemetryCall)
    (credential : TelemetryCredential) (scope : TelemetryScope) (key : String) :
    DatabaseCall TelemetryResponse := do
  lift (checkEventKey key)
  let payload ← lift ((telemetryEvent request credential scope key call.now).validate host call.now)
  let event ← recordTrustedOperationalEvent host credential.workspaceId payload
    s!"telemetry:{key}" call.newId call.now
  pure (telemetryResponse credential.workspaceId event)

/-- `ingest_telemetry_event`. -/
def ingestTelemetryEvent (host : Host) (request : TelemetryIngestRequest) (h : TelemetryHeaders)
    (call : TelemetryCall) : DatabaseCall TelemetryResponse := do
  let credential ← lift (telemetryCredential host h)
  let _ ← query fun s => requireWorkspace s credential.workspaceId
  let scope ← query fun s =>
    telemetryScope s credential.workspaceId h.repositoryId request.serviceId
  recordTelemetryEvent host request call credential scope (eventKey h.providerEventId call.newKey)

/-! ## Runs -/

/-- A step of the service as telemetry sees it: an ingestion, or anything else,
which may add events but alters none. -/
inductive TelemetryStep where
  | ingest (request : TelemetryIngestRequest) (h : TelemetryHeaders) (call : TelemetryCall)
  | other (s' : Store)

def telemetrySystem (host : Host) : System Store TelemetryStep where
  init s := s.events = ∅
  next s
    | .ingest request h call => some ((ingestTelemetryEvent host request h call).run s).2
    | .other s' => if LedgerExtends s s' then some s' else none

/-- What a call looks up before it builds its event. -/
def telemetryReferences (host : Host) (request : TelemetryIngestRequest) (h : TelemetryHeaders)
    (s : Store) : Except ServiceError (Workspace × TelemetryScope × Option String) := do
  let credential ← telemetryCredential host h
  let workspace ← requireWorkspace s credential.workspaceId
  let scope ← telemetryScope s credential.workspaceId h.repositoryId request.serviceId
  let repositoryId ← effectiveEventRepositoryId s credential.workspaceId
    (telemetryEvent request credential scope "" 0)
  pure (workspace, scope, repositoryId)

/-- Only the three references of a payload decide its repository. -/
theorem effectiveEventRepositoryId_congr {s : Store} {workspaceId : String}
    {payload payload' : OperationalEventCreate} (hr : payload.repositoryId = payload'.repositoryId)
    (hs : payload.serviceId = payload'.serviceId) (hi : payload.incidentId = payload'.incidentId) :
    effectiveEventRepositoryId s workspaceId payload =
      effectiveEventRepositoryId s workspaceId payload' := by
  unfold effectiveEventRepositoryId
  rw [hr, hs, hi]

section Retry

variable {host : Host} {request : TelemetryIngestRequest} {h : TelemetryHeaders}

/-- The payload of a request at a moment, as it is validated. -/
def telemetryPayload (request : TelemetryIngestRequest) (credential : TelemetryCredential)
    (scope : TelemetryScope) (key : String) (timestamp : Time) : OperationalEventCreate :=
  (telemetryEvent request credential scope key timestamp).stripped

/-- The identity an event of a collector has. -/
def telemetryIdentity (host : Host) (workspaceId key : String) : String × String × String :=
  (workspaceId, host.lower (Text.strip (Text.trim "telemetry")), Text.trim key)

theorem identity_telemetryEvent {workspaceId key : String} {credential : TelemetryCredential}
    {scope : TelemetryScope} {timestamp : Time} {call : EventCall} {repositoryId : Option String} :
    (newEvent host workspaceId (telemetryEvent request credential scope key timestamp).stripped
      call repositoryId).identity = telemetryIdentity host workspaceId key := rfl

/-- Key and moment of a payload do not matter to its repository. -/
theorem effective_telemetryPayload {s : Store} {workspaceId key : String}
    {credential : TelemetryCredential} {scope : TelemetryScope} {timestamp : Time} :
    effectiveEventRepositoryId s workspaceId
        (telemetryPayload request credential scope key timestamp) =
      effectiveEventRepositoryId s workspaceId (telemetryEvent request credential scope "" 0) :=
  effectiveEventRepositoryId_congr rfl rfl rfl

/-- The checks of a payload, but for its moment, are the same at every moment. -/
theorem telemetryEvent_validate {credential : TelemetryCredential} {scope : TelemetryScope}
    {key : String} {t t' : Time} {payload : OperationalEventCreate}
    (hval : (telemetryEvent request credential scope key t).validate host t = .ok payload) :
    (telemetryEvent request credential scope key t').validate host t' =
      .ok (telemetryPayload request credential scope key t') := by
  obtain ⟨hwell, -, -⟩ := OperationalEventCreate.validate_eq_ok.mp hval
  refine OperationalEventCreate.validate_eq_ok.mpr ⟨hwell, ?_, rfl⟩
  show t' ≤ t' + minutes 5 ∧ t' - days 366 ≤ t'
  unfold minutes days seconds
  constructor <;> linarith

/-- Everything a call that returned did, in its order. -/
theorem ingestTelemetryEvent_ok {call : TelemetryCall} {s s' : State Store}
    {response : TelemetryResponse} (hbase : s.base = s.cur)
    (hok : ingestTelemetryEvent host request h call s = (.ok response, s')) :
    ∃ credential workspace scope repositoryId event,
      let key := eventKey h.providerEventId call.newKey
      let payload := telemetryPayload request credential scope key call.now
      telemetryCredential host h = .ok credential ∧
      telemetryReferences host request h s.cur = .ok (workspace, scope, repositoryId) ∧
      checkEventKey key = .ok () ∧
      (telemetryEvent request credential scope key call.now).validate host call.now =
        .ok payload ∧
      s'.base.events.get? (telemetryIdentity host credential.workspaceId key) = some event ∧
      (storedEventMaterial host event).occurredAt = call.now := by
  obtain ⟨credential, hcred, hok⟩ := Call.lift_bind_eq_ok.mp hok
  obtain ⟨workspace, hws, hok⟩ := Call.query_bind_eq_ok.mp hok
  obtain ⟨scope, hscope, hok⟩ := Call.query_bind_eq_ok.mp hok
  rw [recordTelemetryEvent] at hok
  obtain ⟨_, hkey, hok⟩ := Call.lift_bind_eq_ok.mp hok
  obtain ⟨payload, hval, hok⟩ := Call.lift_bind_eq_ok.mp hok
  obtain ⟨event, t, hrec, hok⟩ := Call.bind_eq_ok.mp hok
  obtain ⟨-, rfl⟩ := Call.pure_eq_ok.mp hok
  obtain ⟨-, -, rfl⟩ := OperationalEventCreate.validate_eq_ok.mp hval
  obtain ⟨repositoryId, heff, hget, hmat⟩ := recordEvent_ok hbase hrec
  rw [identity_telemetryEvent] at hget
  refine ⟨credential, workspace, scope, repositoryId, event, hcred, ?_, hkey, hval, hget, ?_⟩
  · rw [telemetryReferences, hcred, bind_ok, hws, bind_ok, hscope, bind_ok,
      effective_telemetryPayload.symm.trans heff]
    rfl
  · rw [hmat]
    rfl

/-- What a call looked up is enough to know that it reaches the ledger. -/
theorem ingestTelemetryEvent_eq {call : TelemetryCall} {s : State Store}
    {credential : TelemetryCredential} {workspace : Workspace} {scope : TelemetryScope}
    {repositoryId : Option String} {payload : OperationalEventCreate}
    (hcred : telemetryCredential host h = .ok credential)
    (hrefs : telemetryReferences host request h s.cur = .ok (workspace, scope, repositoryId))
    (hkey : checkEventKey (eventKey h.providerEventId call.newKey) = .ok ())
    (hval : (telemetryEvent request credential scope (eventKey h.providerEventId call.newKey)
      call.now).validate host call.now = .ok payload) :
    ingestTelemetryEvent host request h call s =
      (recordTrustedOperationalEvent host credential.workspaceId payload
        s!"telemetry:{eventKey h.providerEventId call.newKey}" call.newId call.now >>= fun event =>
          pure (telemetryResponse credential.workspaceId event)) s ∧
      effectiveEventRepositoryId s.cur credential.workspaceId
        (telemetryEvent request credential scope "" 0) = .ok repositoryId := by
  rw [telemetryReferences, hcred, bind_ok] at hrefs
  obtain ⟨workspace', hws, hrefs⟩ := Raise.bind_eq_ok.mp hrefs
  obtain ⟨scope', hscope, hrefs⟩ := Raise.bind_eq_ok.mp hrefs
  obtain ⟨repositoryId', heff, hrefs⟩ := Raise.bind_eq_ok.mp hrefs
  obtain ⟨rfl, rfl, rfl⟩ : workspace' = workspace ∧ scope' = scope ∧ repositoryId' = repositoryId := by
    simpa using hrefs
  refine ⟨?_, heff⟩
  rw [ingestTelemetryEvent, Call.lift_ok_bind hcred, query_ok_bind hws, query_ok_bind hscope,
    recordTelemetryEvent, Call.lift_ok_bind hkey, Call.lift_ok_bind hval]

/-- A request with an event id has the same key in every call. -/
theorem eventKey_stable {providerEventId : Option String}
    (hkey : Text.strip (providerEventId.getD "") ≠ "") (newKey newKey' : String) :
    eventKey providerEventId newKey = eventKey providerEventId newKey' := by
  simp only [eventKey, if_neg hkey]

/-- Whatever a call does, the ledger keeps every event it had. -/
theorem ingestTelemetryEvent_extends (call : TelemetryCall) (s : Store) :
    LedgerExtends s ((ingestTelemetryEvent host request h call).run s).2 := by
  have hsafe : Safe (LedgerExtends s) (State.start s) (ingestTelemetryEvent host request h call)
      (fun _ _ => True) (fun _ => True) := by
    refine Safe.lift_bind (fun credential _ => ?_) fun _ _ => trivial
    refine Safe.query_bind (fun workspace _ => ?_) fun _ _ => trivial
    refine Safe.query_bind (fun scope _ => ?_) fun _ _ => trivial
    refine Safe.lift_bind (fun _ _ => ?_) fun _ _ => trivial
    refine Safe.lift_bind (fun payload _ => ?_) fun _ _ => trivial
    exact Safe.bind ((recordEvent_keeps fun t record events entry ht hinsert =>
      ht.trans (.addEvent hinsert)).weaken (fun _ _ _ _ => Safe.pure trivial) fun _ _ => trivial)
  exact hsafe.run_base (.refl s)

theorem telemetrySystem_extends {s s' : Store} {steps : List TelemetryStep}
    (hrun : (telemetrySystem host).run s steps = some s') : LedgerExtends s s' := by
  refine System.run_induction LedgerExtends.refl ?_ hrun
  intro s t step u hst hstep
  refine hst.trans ?_
  cases step with
  | ingest request h call =>
    obtain rfl := Option.some.inj hstep
    exact ingestTelemetryEvent_extends call t
  | other u' =>
    by_cases hext : LedgerExtends t u'
    · obtain rfl : u' = u := by simpa [telemetrySystem, hext] using hstep
      exact hext
    · simp [telemetrySystem, hext] at hstep

/-- In no later state and at no later moment is the identical request accepted
again: it raises the conflict and leaves the database as it was. -/
theorem telemetry_retry_conflicts {call retry : TelemetryCall} {s s₁ s₂ : Store}
    {steps : List TelemetryStep} {response : TelemetryResponse}
    (hkey : Text.strip (h.providerEventId.getD "") ≠ "")
    (hfirst : (ingestTelemetryEvent host request h call).run s = (.ok response, s₁))
    (hrun : (telemetrySystem host).run s₁ steps = some s₂)
    (hrefs : telemetryReferences host request h s₂ = telemetryReferences host request h s)
    (hlater : call.now < retry.now) :
    (ingestTelemetryEvent host request h retry).run s₂ =
      (.error (.domain "Provider event ID was already used with different event data"
        "operational_event_idempotency_conflict" 409), s₂) := by
  cases hend : ingestTelemetryEvent host request h call (State.start s) with
  | mk result t =>
    rw [run_eq hend] at hfirst
    obtain ⟨rfl, rfl⟩ := Prod.mk.inj hfirst
    obtain ⟨credential, workspace, scope, repositoryId, event, hcred, hfirstRefs, hlength, hval,
      hget, hmat⟩ := ingestTelemetryEvent_ok rfl hend
    rw [eventKey_stable hkey call.newKey retry.newKey] at hlength hval hget
    obtain ⟨hretry, heff⟩ := ingestTelemetryEvent_eq (s := State.start s₂) hcred
      (hrefs.trans hfirstRefs) hlength (telemetryEvent_validate hval)
    -- the event is still there, under the identity the retry computes
    let payload := telemetryPayload request credential scope
      (eventKey h.providerEventId retry.newKey) retry.now
    let ledgerCall := trustedCall payload
      s!"telemetry:{eventKey h.providerEventId retry.newKey}" retry.newId retry.now
    have hstored : s₂.events.get?
        (newEvent host credential.workspaceId payload ledgerCall repositoryId).identity =
          some event := by
      rw [show (newEvent host credential.workspaceId payload ledgerCall repositoryId).identity = _
        from identity_telemetryEvent]
      exact (telemetrySystem_extends hrun).get? hget
    have hne : storedEventMaterial host event ≠
        expectedMaterial host payload ledgerCall repositoryId := by
      intro heq
      have htime := congrArg EventMaterial.occurredAt heq
      rw [hmat] at htime
      exact absurd htime (ne_of_lt hlater)
    have hconflict := recordEvent_conflict (s := State.start s₂)
      (effective_telemetryPayload.trans heff) hstored hne
    exact run_eq (hretry.trans (bind_of_error hconflict))

end Retry

/-! ## A collector that retries -/

/-- A database with the legacy workspace and nothing in its ledger. -/
def legacyStore : Store :=
  { Store.empty with workspaces := ⟨[⟨legacyWorkspaceId, "Legacy", "legacy", "system", 0, 0⟩], by decide⟩ }

/-- The request of the API contract. -/
def latencyRequest : TelemetryIngestRequest where
  source := "otel-gateway"
  type := "metric"
  serviceId := "checkout-api"
  summary := "Checkout p95 latency exceeded the review threshold"
  value := .int 3
  supportsHypothesisIds := []
  contradictsHypothesisIds := []

def collectorHeaders : TelemetryHeaders where
  masterToken := "collector-token"
  presentedToken := "collector-token"
  workspaceId := none
  repositoryId := none
  providerEventId := some "otel-42"
  environment := "development"

def firstCall : TelemetryCall := ⟨0, "key-1", "event-1"⟩

/-- The retry, a second later. -/
def secondCall : TelemetryCall := ⟨seconds 1, "key-2", "event-2"⟩

/-- The database after the first call. -/
def ingestedStore : Store :=
  ((ingestTelemetryEvent asciiHost latencyRequest collectorHeaders firstCall).run legacyStore).2

/-- What the collector is told. -/
def acceptedResponse : TelemetryResponse :=
  ⟨"ok", "event-1", legacyWorkspaceId, none, none,
    "Telemetry event was accepted into the workspace ledger."⟩

theorem firstCall_accepted :
    (ingestTelemetryEvent asciiHost latencyRequest collectorHeaders firstCall).run legacyStore =
      (.ok acceptedResponse, ingestedStore) := by
  have hresponse : ((ingestTelemetryEvent asciiHost latencyRequest collectorHeaders firstCall).run
      legacyStore).1 = .ok acceptedResponse := by decide +kernel
  rw [← hresponse, ingestedStore]

/-- The first call is accepted; the retry is not. -/
theorem retry_after_a_second_refused :
    ((ingestTelemetryEvent asciiHost latencyRequest collectorHeaders firstCall).run
      legacyStore).1 = .ok acceptedResponse ∧
    ¬∃ response, ((ingestTelemetryEvent asciiHost latencyRequest collectorHeaders secondCall).run
      ingestedStore).1 = .ok response := by
  have hrefused : ((ingestTelemetryEvent asciiHost latencyRequest collectorHeaders secondCall).run
      ingestedStore).1 = .error (.domain
        "Provider event ID was already used with different event data"
        "operational_event_idempotency_conflict" 409) := by decide +kernel
  refine ⟨by rw [firstCall_accepted], ?_⟩
  rw [hrefused]
  intro h
  obtain ⟨response, hresponse⟩ := h
  cases hresponse

theorem telemetry_retry_conflicts_after_a_second :
    (ingestTelemetryEvent asciiHost latencyRequest collectorHeaders secondCall).run ingestedStore =
      (.error (.domain "Provider event ID was already used with different event data"
        "operational_event_idempotency_conflict" 409), ingestedStore) := by
  have hrun : (telemetrySystem asciiHost).run ingestedStore [] = some ingestedStore := rfl
  exact telemetry_retry_conflicts (by decide +kernel) firstCall_accepted hrun (by decide +kernel)
    (by decide)

end DeployGuard.Service
