import DeployGuard.Lib.Transition
import DeployGuard.Service.Event

/-!
# Recording events side by side

`ingest_operational_event`, the members' way into the ledger, and the recording
operations as they run side by side: between the existence check of a call and
its insert, other calls may insert. The database refuses a second row under a
key; the call that meets the refusal reads the row back.

> `ledger_idempotent`: however the calls interleave, a key has one row, the row
> stays as it is, and every call that ends returns it or raises the conflict,
> by the comparison of the materials alone.

The two ways to see a duplicate are compared with the sequential call in
`record_alone`.
-/

namespace DeployGuard.Service

open Raise Session Session.Call Transition

/-! ## Members -/

/-- `RESERVED_PROVIDER_SOURCE_NAMESPACES`. -/
def reservedProviderSourceNamespaces : List String :=
  ["github", "telemetry", "otel", "otlp", "opentelemetry"]

/-- `_source_is_provider_reserved`. -/
def sourceIsProviderReserved (host : Host) (source : String) : Bool :=
  let normalized := host.lower (Text.strip source)
  reservedProviderSourceNamespaces.any fun provider =>
    normalized = provider ||
      [".", ":", "/", "-", "_"].any fun separator =>
        Text.startswith normalized (provider ++ separator)

/-- The source an event is stored under. -/
def normalizedSource (host : Host) (payload : OperationalEventCreate) : String :=
  host.lower (Text.strip payload.source)

def memberProvenance (userId requestId : String) : Items :=
  [("origin", .str "authenticated_member"),
    ("_ingestion", .dict [("channel", .str "member_api"), ("actor_user_id", .str userId),
      ("request_id", .str requestId)])]

def memberCall (userId requestId newId : String) (now : Time) : EventCall where
  requestId := requestId
  actorUserId := some userId
  provenance := memberProvenance userId requestId
  newId := newId
  now := now

/-- The members' sources. -/
def checkMemberSource (host : Host) (payload : OperationalEventCreate) :
    Except ServiceError Unit :=
  raiseIf (sourceIsProviderReserved host (normalizedSource host payload) = true)
    (.domain "This event source is reserved for an authenticated provider adapter"
      "operational_event_source_reserved" 422)

/-- What a member must be and may write. -/
def admitMember (host : Host) (s : Store) (userId workspaceId : String)
    (payload : OperationalEventCreate) : Except ServiceError Unit := do
  let _ ← membershipFor s userId workspaceId "responder"
  checkMemberSource host payload

/-- `ingest_operational_event`. -/
def ingestOperationalEvent (host : Host) (userId workspaceId : String)
    (payload : OperationalEventCreate) (requestId newId : String) (now : Time) :
    DatabaseCall OperationalEvent := do
  query fun s => admitMember host s userId workspaceId payload
  recordNormalizedOperationalEvent host workspaceId payload (memberCall userId requestId newId now)

/-! ## Requests -/

/-- Who records an event. -/
inductive EventOrigin where
  | member (userId : String)
  | trusted
  deriving DecidableEq

/-- A call of one of the two recording operations. -/
structure EventRequest where
  origin : EventOrigin
  workspaceId : String
  payload : OperationalEventCreate
  requestId : String
  newId : String
  now : Time
  deriving DecidableEq

namespace EventRequest

variable (host : Host) (q : EventRequest)

def call : EventCall :=
  match q.origin with
  | .member userId => memberCall userId q.requestId q.newId q.now
  | .trusted => trustedCall q.payload q.requestId q.newId q.now

/-- The checks before the recording. -/
def admission (s : Store) : Except ServiceError Unit :=
  match q.origin with
  | .member userId => admitMember host s userId q.workspaceId q.payload
  | .trusted => .ok ()

/-- The call on its own. -/
def perform : DatabaseCall OperationalEvent :=
  match q.origin with
  | .member userId =>
    ingestOperationalEvent host userId q.workspaceId q.payload q.requestId q.newId q.now
  | .trusted =>
    recordTrustedOperationalEvent host q.workspaceId q.payload q.requestId q.newId q.now

/-- The key of its event. -/
def key : String × String × String :=
  (q.workspaceId, normalizedSource host q.payload, q.payload.providerEventId)

/-- The row it would store. -/
def record (repositoryId : Option String) : OperationalEvent :=
  newEvent host q.workspaceId q.payload q.call repositoryId

/-- The material it expects. -/
def expected (repositoryId : Option String) : EventMaterial :=
  expectedMaterial host q.payload q.call repositoryId

theorem material_record (repositoryId : Option String) :
    storedEventMaterial host (q.record host repositoryId) = q.expected host repositoryId :=
  storedEventMaterial_newEvent

theorem perform_eq (s : State Store) : q.perform host s =
    (query (fun s => q.admission host s) >>= fun _ =>
      recordNormalizedOperationalEvent host q.workspaceId q.payload q.call) s := by
  unfold perform admission call
  cases q.origin with
  | member userId => rfl
  | trusted => rfl

end EventRequest

/-! ## Outcomes -/

/-- What a caller sees of a call that ended: the row, or the error's code. -/
inductive EventOutcome where
  | returned (event : OperationalEvent)
  | refused (code : String) (statusCode : Nat)
  deriving DecidableEq

def outcomeOf : Except ServiceError OperationalEvent → Option EventOutcome
  | .ok event => some (.returned event)
  | .error (.domain _ code statusCode) => some (.refused code statusCode)
  | .error _ => none

/-- The row under the key of a call settles it. -/
def settled (host : Host) (row : OperationalEvent) (expected : EventMaterial) : EventOutcome :=
  if storedEventMaterial host row = expected then .returned row
  else .refused "operational_event_idempotency_conflict" 409

/-- However the row was found, the outcome is the same. -/
theorem outcome_sameEvent (host : Host) (row : OperationalEvent) (expected : EventMaterial)
    (detail : String) :
    outcomeOf (sameEvent host row expected detail) = some (settled host row expected) := by
  unfold sameEvent settled
  by_cases h : storedEventMaterial host row = expected
  · rw [if_pos h, if_pos h]
    rfl
  · rw [if_neg h, if_neg h]
    rfl

theorem settled_record {host : Host} {row : OperationalEvent} {expected : EventMaterial}
    (h : storedEventMaterial host row = expected) : settled host row expected = .returned row :=
  if_pos h

/-! ## The calls, statement by statement -/

/-- How far a call has come. -/
inductive Stage where
  | waiting
  /-- it was not admitted, or a reference did not resolve -/
  | rejected (e : ServiceError)
  | resolved (repositoryId : Option String)
  /-- its check found no row -/
  | missing (repositoryId : Option String)
  /-- its insert met the unique constraint -/
  | refused (repositoryId : Option String)
  | done (repositoryId : Option String) (result : Except ServiceError OperationalEvent)

/-- The database and the calls in progress. -/
structure LedgerState (ι : Type) where
  store : Store
  stage : ι → Stage

/-- A statement of one of the calls, or work that leaves the ledger alone. -/
inductive LedgerAction (ι : Type) where
  | resolve (i : ι)
  | check (i : ι)
  | insert (i : ι)
  | reread (i : ι)
  | other (s' : Store)

section Steps

variable {ι : Type} [DecidableEq ι]

namespace LedgerState

/-- A call goes on. -/
def goTo (r : LedgerState ι) (i : ι) (stage : Stage) : LedgerState ι :=
  { r with stage := Function.update r.stage i stage }

@[simp] theorem goTo_store (r : LedgerState ι) (i : ι) (stage : Stage) :
    (r.goTo i stage).store = r.store := rfl

theorem goTo_self (r : LedgerState ι) (i : ι) (stage : Stage) :
    (r.goTo i stage).stage i = stage := Function.update_self ..

theorem goTo_ne (r : LedgerState ι) {i j : ι} (stage : Stage) (h : j ≠ i) :
    (r.goTo i stage).stage j = r.stage j := Function.update_of_ne h ..

end LedgerState

/-- The references of a call, looked up. -/
def resolveStage (host : Host) (q : EventRequest) (s : Store) : Stage :=
  match (do q.admission host s; effectiveEventRepositoryId s q.workspaceId q.payload) with
  | .ok repositoryId => .resolved repositoryId
  | .error e => .rejected e

/-- The existence check. -/
def checkStage (host : Host) (q : EventRequest) (s : Store) (repositoryId : Option String) : Stage :=
  match s.events.get? (q.key host) with
  | some existing => .done repositoryId (sameEvent host existing (q.expected host repositoryId)
      "Provider event ID was already used with different event data")
  | none => .missing repositoryId

/-- The insert, with its commit. -/
def insertEvent (host : Host) (q : EventRequest) (r : LedgerState ι) (i : ι)
    (repositoryId : Option String) : LedgerState ι :=
  match r.store.events.insert (q.record host repositoryId) with
  | some events =>
    { r.goTo i (.done repositoryId (.ok (q.record host repositoryId))) with
      store := addEvent events (eventAudit (q.record host repositoryId) q.call) r.store }
  | none => r.goTo i (.refused repositoryId)

/-- The row that was in the way of the insert. -/
def rereadStage (host : Host) (q : EventRequest) (s : Store) (repositoryId : Option String) : Stage :=
  match s.events.get? (q.key host) with
  | some existing => .done repositoryId (sameEvent host existing (q.expected host repositoryId)
      "Provider event ID was concurrently used with different event data")
  | none => .done repositoryId (.error .integrityError)

/-- Any number of calls, each with a request of its own. -/
def ledgerSystem (host : Host) (request : ι → EventRequest) :
    System (LedgerState ι) (LedgerAction ι) where
  init r := r.stage = fun _ => .waiting
  next r
    | .resolve i =>
      match r.stage i with
      | .waiting => some (r.goTo i (resolveStage host (request i) r.store))
      | _ => none
    | .check i =>
      match r.stage i with
      | .resolved repositoryId => some (r.goTo i (checkStage host (request i) r.store repositoryId))
      | _ => none
    | .insert i =>
      match r.stage i with
      | .missing repositoryId => some (insertEvent host (request i) r i repositoryId)
      | _ => none
    | .reread i =>
      match r.stage i with
      | .refused repositoryId => some (r.goTo i (rereadStage host (request i) r.store repositoryId))
      | _ => none
    | .other s' => if s'.events = r.store.events then some { r with store := s' } else none

/-! ## Every interleaving -/

variable {host : Host} {request : ι → EventRequest} {r r' : LedgerState ι}

/-- What a stage says about the database: a call that was refused has a row in
its way, and one that is done was settled by the row under its key. -/
def Settles (host : Host) (q : EventRequest) (s : Store) : Stage → Prop
  | .refused _ => ∃ row, s.events.get? (q.key host) = some row
  | .done repositoryId result => ∃ row, s.events.get? (q.key host) = some row ∧
      outcomeOf result = some (settled host row (q.expected host repositoryId))
  | _ => True

theorem Settles.extends {q : EventRequest} {s s' : Store} {stage : Stage}
    (hs : Settles host q s stage) (h : LedgerExtends s s') : Settles host q s' stage := by
  cases stage with
  | refused repositoryId =>
    obtain ⟨row, hget⟩ := hs
    exact ⟨row, h.get? hget⟩
  | done repositoryId result =>
    obtain ⟨row, hget, hsettled⟩ := hs
    exact ⟨row, h.get? hget, hsettled⟩
  | waiting => trivial
  | rejected e => trivial
  | resolved repositoryId => trivial
  | missing repositoryId => trivial

theorem settles_resolveStage {q : EventRequest} {s : Store} :
    Settles host q s (resolveStage host q s) := by
  unfold resolveStage
  split
  · trivial
  · trivial

theorem settles_checkStage {q : EventRequest} {s : Store} (repositoryId : Option String) :
    Settles host q s (checkStage host q s repositoryId) := by
  unfold checkStage
  cases hget : s.events.get? (q.key host) with
  | none => trivial
  | some row => exact ⟨row, hget, outcome_sameEvent ..⟩

theorem settles_rereadStage {q : EventRequest} {s : Store} (repositoryId : Option String)
    (h : ∃ row, s.events.get? (q.key host) = some row) :
    Settles host q s (rereadStage host q s repositoryId) := by
  obtain ⟨row, hget⟩ := h
  rw [rereadStage, hget]
  exact ⟨row, hget, outcome_sameEvent ..⟩

/-- The row goes in, or the one in the way is there. -/
theorem insertEvent_spec (host : Host) (q : EventRequest) (r : LedgerState ι) (i : ι)
    (repositoryId : Option String) :
    LedgerExtends r.store (insertEvent host q r i repositoryId).store ∧
      Settles host q (insertEvent host q r i repositoryId).store
        ((insertEvent host q r i repositoryId).stage i) ∧
      ∀ j ≠ i, (insertEvent host q r i repositoryId).stage j = r.stage j := by
  unfold insertEvent
  cases hinsert : r.store.events.insert (q.record host repositoryId) with
  | none =>
    refine ⟨.refl _, ?_, fun j hj => r.goTo_ne _ hj⟩
    rw [show (r.goTo i (.refused repositoryId)).stage i = _ from r.goTo_self ..]
    cases hget : r.store.events.get? (q.key host) with
    | none =>
      obtain ⟨events, hevents⟩ := Table.insert_of_free (r := q.record host repositoryId) hget
      rw [hinsert] at hevents
      cases hevents
    | some row => exact ⟨row, hget⟩
  | some events =>
    refine ⟨.addEvent hinsert, ?_, fun j hj => r.goTo_ne _ hj⟩
    show Settles host q _ ((r.goTo i _).stage i)
    rw [r.goTo_self]
    refine ⟨q.record host repositoryId, Table.get?_inserted hinsert rfl, ?_⟩
    rw [settled_record (q.material_record host repositoryId)]
    rfl

/-- One statement: the ledger only grows, and what the stages say stays true. -/
theorem ledger_step {action : LedgerAction ι} (hs : ∀ i, Settles host (request i) r.store (r.stage i))
    (h : (ledgerSystem host request).next r action = some r') :
    LedgerExtends r.store r'.store ∧ ∀ i, Settles host (request i) r'.store (r'.stage i) := by
  -- a statement that only moves its own call on
  have hgoTo : ∀ {i stage}, Settles host (request i) r.store stage →
      LedgerExtends r.store (r.goTo i stage).store ∧
        ∀ j, Settles host (request j) (r.goTo i stage).store ((r.goTo i stage).stage j) := by
    intro i stage hstage
    refine ⟨.refl _, fun j => ?_⟩
    by_cases hj : j = i
    · subst hj
      rwa [r.goTo_self]
    · rw [r.goTo_ne stage hj]
      exact hs j
  cases action with
  | resolve i =>
    cases hi : r.stage i with
    | waiting =>
      obtain rfl : r.goTo i _ = r' := by simpa [ledgerSystem, hi] using h
      exact hgoTo settles_resolveStage
    | _ => simp [ledgerSystem, hi] at h
  | check i =>
    cases hi : r.stage i with
    | resolved repositoryId =>
      obtain rfl : r.goTo i _ = r' := by simpa [ledgerSystem, hi] using h
      exact hgoTo (settles_checkStage repositoryId)
    | _ => simp [ledgerSystem, hi] at h
  | insert i =>
    cases hi : r.stage i with
    | missing repositoryId =>
      obtain rfl : insertEvent host (request i) r i repositoryId = r' := by
        simpa [ledgerSystem, hi] using h
      obtain ⟨hextends, hown, hothers⟩ :=
        insertEvent_spec host (request i) r i repositoryId
      refine ⟨hextends, fun j => ?_⟩
      by_cases hj : j = i
      · subst hj
        exact hown
      · rw [hothers j hj]
        exact (hs j).extends hextends
    | _ => simp [ledgerSystem, hi] at h
  | reread i =>
    cases hi : r.stage i with
    | refused repositoryId =>
      obtain rfl : r.goTo i _ = r' := by simpa [ledgerSystem, hi] using h
      have hrow := hs i
      rw [hi] at hrow
      exact hgoTo (settles_rereadStage repositoryId hrow)
    | _ => simp [ledgerSystem, hi] at h
  | other s' =>
    by_cases hevents : s'.events = r.store.events
    · obtain rfl : { r with store := s' } = r' := by simpa [ledgerSystem, hevents] using h
      have hextends : LedgerExtends r.store s' := by
        intro event hmem
        rw [hevents]
        exact Table.get?_of_mem hmem
      exact ⟨hextends, fun i => (hs i).extends hextends⟩
    · simp [ledgerSystem, hevents] at h

/-- Every state the calls reach. -/
theorem settles_reachable (h : Reachable (ledgerSystem host request) r) :
    ∀ i, Settles host (request i) r.store (r.stage i) := by
  refine Invariant.reachable (C := fun _ _ => True)
    (I := fun r => ∀ i, Settles host (request i) r.store (r.stage i)) ⟨?_, ?_⟩ h
  · intro r hinit i
    rw [show r.stage = _ from hinit]
    trivial
  · intro r action r' hs _ hstep
    exact (ledger_step hs hstep).2

/-- Rows are never altered. -/
theorem ledger_extends {steps : List (LedgerAction ι)}
    (h : Reachable (ledgerSystem host request) r)
    (hrun : (ledgerSystem host request).run r steps = some r') :
    LedgerExtends r.store r'.store ∧ Reachable (ledgerSystem host request) r' := by
  refine System.run_induction (S := ledgerSystem host request)
    (R := fun r r' => Reachable (ledgerSystem host request) r →
      LedgerExtends r.store r'.store ∧ Reachable (ledgerSystem host request) r')
    (fun r h => ⟨.refl _, h⟩) (fun r s action t hst hstep h => ?_) hrun h
  obtain ⟨hextends, hreach⟩ := hst h
  exact ⟨hextends.trans (ledger_step (settles_reachable hreach) hstep).1,
    hreach.step trivial hstep⟩

/-- **Idempotency.** Whatever requests are recorded side by side, and however
their statements interleave: a key has one row; a row of the ledger stays as it
is; a call that is done was settled by the row under its key, the one that was
there if there was one: it returns the row if the materials agree and raises the
conflict if not, on either way of seeing it; and a row just stored has the
material of its request. -/
theorem ledger_idempotent {steps : List (LedgerAction ι)}
    (h : Reachable (ledgerSystem host request) r)
    (hrun : (ledgerSystem host request).run r steps = some r') :
    (∀ e ∈ r'.store.events.rows, ∀ e' ∈ r'.store.events.rows, e.identity = e'.identity → e = e') ∧
    LedgerExtends r.store r'.store ∧
    (∀ i repositoryId result, r'.stage i = .done repositoryId result →
      ∃ row, r'.store.events.get? ((request i).key host) = some row ∧
        (∀ existing, r.store.events.get? ((request i).key host) = some existing → existing = row) ∧
        outcomeOf result = some (settled host row ((request i).expected host repositoryId))) ∧
    ∀ i repositoryId, storedEventMaterial host ((request i).record host repositoryId) =
      (request i).expected host repositoryId := by
  obtain ⟨hextends, hreach⟩ := ledger_extends h hrun
  refine ⟨fun e he e' he' => r'.store.events.eq_of_key_eq he he', hextends, ?_,
    fun i repositoryId => (request i).material_record host repositoryId⟩
  intro i repositoryId result hdone
  have hsettles := settles_reachable hreach i
  rw [hdone] at hsettles
  obtain ⟨row, hget, hsettled⟩ := hsettles
  refine ⟨row, hget, fun existing hexisting => ?_, hsettled⟩
  exact Option.some.inj ((hextends.get? hexisting).symm.trans hget)

/-! ## One call alone -/

/-- A call that is not admitted, or whose references do not resolve. -/
theorem EventRequest.perform_rejected {q : EventRequest} {s : Store} {e : ServiceError}
    (h : (do q.admission host s; effectiveEventRepositoryId s q.workspaceId q.payload) = .error e) :
    q.perform host (State.start s) = (.error e, State.start s) := by
  rw [q.perform_eq]
  cases hadmission : q.admission host s with
  | error e' =>
    rw [hadmission] at h
    cases h
    exact query_error_bind hadmission
  | ok u =>
    rw [hadmission] at h
    rw [query_ok_bind hadmission]
    exact recordEvent_error h

/-- Any other goes to the ledger. -/
theorem EventRequest.perform_resolved {q : EventRequest} {s : Store} {repositoryId : Option String}
    (h : (do q.admission host s; effectiveEventRepositoryId s q.workspaceId q.payload) =
      .ok repositoryId) :
    effectiveEventRepositoryId s q.workspaceId q.payload = .ok repositoryId ∧
      q.perform host (State.start s) =
        recordNormalizedOperationalEvent host q.workspaceId q.payload q.call (State.start s) := by
  obtain ⟨u, hadmission, heff⟩ := Raise.bind_eq_ok.mp h
  rw [q.perform_eq, query_ok_bind hadmission]
  exact ⟨heff, rfl⟩

/-- The statements of a call up to its check. -/
theorem run_checked {i : ι} {repositoryId : Option String} (h : r.stage i = .waiting)
    (hresolved : resolveStage host (request i) r.store = .resolved repositoryId)
    (steps : List (LedgerAction ι)) :
    (ledgerSystem host request).run r (.resolve i :: .check i :: steps) =
      (ledgerSystem host request).run ((r.goTo i (.resolved repositoryId)).goTo i
        (checkStage host (request i) r.store repositoryId)) steps := by
  simp [System.run, ledgerSystem, h, hresolved, LedgerState.goTo_self]

/-- The call alone: its statements one after another do what the sequential call
does, and end in its result. -/
theorem record_alone {i : ι} (h : r.stage i = .waiting) :
    ∃ steps r', (ledgerSystem host request).run r steps = some r' ∧
      r'.store = (((request i).perform host).run r.store).2 ∧
      ((∃ e, r'.stage i = .rejected e ∧ (((request i).perform host).run r.store).1 = .error e) ∨
        ∃ repositoryId, r'.stage i =
          .done repositoryId (((request i).perform host).run r.store).1) := by
  let q := request i
  cases hadmission : (do q.admission host r.store; effectiveEventRepositoryId r.store q.workspaceId q.payload) with
  | error e =>
    -- refused before the lookup: one statement
    have hrejected : resolveStage host q r.store = .rejected e := by rw [resolveStage, hadmission]
    refine ⟨[.resolve i], r.goTo i (.rejected e), ?_, ?_, Or.inl ⟨e, r.goTo_self .., ?_⟩⟩
    · simp [System.run, ledgerSystem, h, ← hrejected, q]
    · rw [run_eq (EventRequest.perform_rejected hadmission)]
      rfl
    · rw [run_eq (EventRequest.perform_rejected hadmission)]
  | ok repositoryId =>
    obtain ⟨heff, hperform⟩ := EventRequest.perform_resolved hadmission
    have hresolved : resolveStage host q r.store = .resolved repositoryId := by
      rw [resolveStage, hadmission]
    cases hget : r.store.events.get? (q.key host) with
    | some existing =>
      -- the event is there: the check answers, same material or not
      have hrun : q.perform host (State.start r.store) =
          (sameEvent host existing (q.expected host repositoryId)
            "Provider event ID was already used with different event data",
            State.start r.store) := by
        rw [hperform]
        by_cases hsame : storedEventMaterial host existing = q.expected host repositoryId
        · rw [recordEvent_existing (s := State.start r.store) heff hget hsame]
          exact Prod.ext (if_pos hsame).symm rfl
        · rw [recordEvent_conflict (s := State.start r.store) heff hget hsame]
          exact Prod.ext (if_neg hsame).symm rfl
      refine ⟨[.resolve i, .check i], _, run_checked h hresolved [], ?_,
        Or.inr ⟨repositoryId, ?_⟩⟩
      · rw [run_eq hrun]
        rfl
      · rw [run_eq hrun, LedgerState.goTo_self, checkStage, hget]
    | none =>
      -- no such event: the insert follows and meets no other writer
      obtain ⟨events, hinsert, hrun⟩ := recordEvent_new (s := State.start r.store) heff hget
      rw [← hperform] at hrun
      have hinserted : r.store.events.insert (q.record host repositoryId) = some events := hinsert
      let r₀ := (r.goTo i (.resolved repositoryId)).goTo i (.missing repositoryId)
      have hr₁ : insertEvent host q r₀ i repositoryId =
          { r₀.goTo i (.done repositoryId (.ok (q.record host repositoryId))) with
            store := addEvent events (eventAudit (q.record host repositoryId) q.call) r.store } := by
        unfold insertEvent
        rw [show r₀.store.events.insert _ = some events from hinserted]
        rfl
      refine ⟨[.resolve i, .check i, .insert i], insertEvent host q r₀ i repositoryId, ?_, ?_,
        Or.inr ⟨repositoryId, ?_⟩⟩
      · rw [run_checked h hresolved, checkStage, hget]
        simp [System.run, ledgerSystem, LedgerState.goTo_self, q, r₀]
      · rw [run_eq hrun, hr₁]
        rfl
      · rw [run_eq hrun, hr₁]
        exact r₀.goTo_self ..

end Steps

/-! Two requests for one event id that say different things, the second checked
before the first is inserted. -/

def buildPayload (summary : String) : OperationalEventCreate where
  providerEventId := "build-1"
  repositoryId := none
  serviceId := none
  incidentId := none
  source := "ci"
  eventType := "build"
  occurredAt := 0
  severity := "info"
  summary := summary
  attributes := []
  provenance := []

def buildRequest (failed : Bool) : EventRequest where
  origin := .trusted
  workspaceId := "ws-1"
  payload := buildPayload (if failed then "failed" else "passed")
  requestId := "req-1"
  newId := if failed then "event-2" else "event-1"
  now := 0

def buildStart : LedgerState Bool := ⟨Store.empty, fun _ => .waiting⟩

def buildSteps : List (LedgerAction Bool) :=
  [.resolve false, .resolve true, .check false, .check true, .insert false, .insert true,
    .reread true]

/-- The outcome of a call that is done. -/
def Stage.outcome : Stage → Option EventOutcome
  | .done _ result => outcomeOf result
  | _ => none

theorem ledger_idempotent_race :
    ∃ r', (ledgerSystem asciiHost buildRequest).run buildStart buildSteps = some r' ∧
      (r'.stage false).outcome = some (.returned ((buildRequest false).record asciiHost none)) ∧
      (r'.stage true).outcome = some (.refused "operational_event_idempotency_conflict" 409) ∧
      ∀ i repositoryId result, r'.stage i = .done repositoryId result →
        ∃ row, r'.store.events.get? ((buildRequest i).key asciiHost) = some row ∧
          (∀ existing, buildStart.store.events.get? ((buildRequest i).key asciiHost) =
            some existing → existing = row) ∧
          outcomeOf result =
            some (settled asciiHost row ((buildRequest i).expected asciiHost repositoryId)) := by
  have hend : ((ledgerSystem asciiHost buildRequest).run buildStart buildSteps).map (fun r' =>
      ((r'.stage false).outcome, (r'.stage true).outcome)) =
      some (some (.returned ((buildRequest false).record asciiHost none)),
        some (.refused "operational_event_idempotency_conflict" 409)) := by decide +kernel
  obtain ⟨r', hrun, hstages⟩ := Option.map_eq_some_iff.mp hend
  obtain ⟨hfirst, hsecond⟩ := Prod.mk.inj hstages
  have hinit : (ledgerSystem asciiHost buildRequest).init buildStart := rfl
  exact ⟨r', hrun, hfirst, hsecond, (ledger_idempotent (.init hinit) hrun).2.2.1⟩

end DeployGuard.Service
