import DeployGuard.Lib.Transition
import DeployGuard.Service.Directory
import DeployGuard.Service.Provider

/-!
# Revoked connections

A connection is revoked by `disconnect_github` or by an installation event that
says deleted or suspend, and may be connected again by a callback that succeeds
or by an installation event that says created or unsuspend.

> `Sticky`: between the two, a connection is not in the state connected.

The webhook branch, however, sets that state for every action it does not take
for a revocation. `revocation_sticky` is about the runs without such an event.
-/

namespace DeployGuard.Service

open Raise Session Session.Call Transition

/-! ## What the services do to connections -/

/-- No connection is new or in another state. -/
def StatesKept (s s' : Store) : Prop :=
  ∀ c ∈ s'.connections.rows, ∃ c₀ ∈ s.connections.rows,
    c.id = c₀.id ∧ c.connectionState = c₀.connectionState

instance (s s' : Store) : Decidable (StatesKept s s') :=
  inferInstanceAs (Decidable (∀ c ∈ s'.connections.rows, ∃ c₀ ∈ s.connections.rows, _ ∧ _))

/-- Doing nothing keeps the connections' states. -/
theorem StatesKept.refl (s : Store) : StatesKept s s := fun c hc => ⟨c, hc, rfl, rfl⟩

section Services

variable {host : Host} {s : Store}

/-- Beginning an installation changes no connection. -/
theorem beginGithubInstallation_states (q : ProviderRequest) (rawState : String) :
    StatesKept s ((beginGithubInstallation host q rawState).run s).2 := by
  have hsafe : Safe (StatesKept s) (State.start s) (beginGithubInstallation host q rawState)
      (fun _ _ => True) (fun _ => True) := by
    refine Safe.query_bind (fun _ _ => ?_) fun _ _ => trivial
    refine Safe.lift_bind (fun _ _ => Safe.read_bind ?_) fun _ _ => trivial
    split
    · exact Safe.write_bind (fun h => h) (Safe.commit_bind (Safe.pure trivial))
    · exact Safe.raise trivial
  exact hsafe.run_base (.refl s)

/-- Storing a repository changes no connection's state. -/
theorem storeRepository_states {t : State Store} (q : ProviderRequest) (existing : List Repository)
    (providerId newId : String) (source : RepositorySource) :
    Safe (StatesKept s) t (storeRepository q existing providerId newId source)
      (fun _ _ => True) (fun _ => True) := by
  unfold storeRepository
  split
  · refine Safe.read_bind ?_
    split
    · exact Safe.write_bind (fun h => h) (Safe.pure trivial)
    · exact Safe.raise trivial
  · exact Safe.write_bind (fun h => h) (Safe.pure trivial)

/-- Synchronising one repository does not either. -/
theorem syncRepository_states {t : State Store} (q : ProviderRequest) (existing : List Repository)
    (byId : Dict String Items) (newId : String → String) (providerId : String) :
    Safe (StatesKept s) t (syncRepository host q existing byId newId providerId)
      (fun _ _ => True) (fun _ => True) := by
  refine Safe.lift_bind (fun source _ => ?_) fun _ _ => trivial
  refine Safe.seq (storeRepository_states q existing providerId _ source)
    fun repository t' _ _ => Safe.read_bind ?_
  split
  · exact Safe.pure trivial
  · refine Safe.read_bind ?_
    split
    · exact Safe.write (fun h => h) trivial
    · exact Safe.raise trivial

theorem syncAll_states {t : State Store} (q : ProviderRequest) (existing : List Repository)
    (byId : Dict String Items) (newId : String → String) (requested : List String) :
    Safe (StatesKept s) t (syncAll host q existing byId newId requested)
      (fun _ _ => True) (fun _ => True) := by
  induction requested generalizing t with
  | nil => exact Safe.pure trivial
  | cons providerId rest ih =>
    exact Safe.seq (syncRepository_states q existing byId newId providerId) fun _ _ _ _ => ih

/-- The end of a synchronisation stamps the connection and keeps its state. -/
theorem finishSync_states {t : Store} (q : ProviderRequest) (connection : ProviderConnection)
    (requested : List String) (h : StatesKept s t) :
    StatesKept s (finishSync q connection requested t) := by
  intro c hc
  have hrow : c ∈ (t.connections.updateWhere (fun row => row.id = connection.id)
      (touchConnection q.now) (touchConnection_id q.now)).rows := hc
  obtain ⟨c', hc', rfl⟩ := Table.mem_updateWhere.mp hrow
  obtain ⟨c₀, hc₀, hid, hstate⟩ := h c' hc'
  refine ⟨c₀, hc₀, ?_, ?_⟩
  · rw [← hid]
    split <;> rfl
  · rw [← hstate]
    split <;> rfl

/-- A synchronisation as a whole keeps the states. -/
theorem syncGithubRepositories_states (q : ProviderRequest) (repositoryIds : List String)
    (newId : String → String) (answer : Except ServiceError (List Items)) :
    StatesKept s ((syncGithubRepositories host q repositoryIds newId answer).run s).2 := by
  have hsafe : Safe (StatesKept s) (State.start s)
      (syncGithubRepositories host q repositoryIds newId answer)
      (fun _ _ => True) (fun _ => True) := by
    refine Safe.query_bind (fun connection _ => ?_) fun _ _ => trivial
    refine Safe.lift_bind (fun available _ => ?_) fun _ _ => trivial
    refine Safe.lift_bind (fun _ _ => Safe.read_bind ?_) fun _ _ => trivial
    refine Safe.seq (syncAll_states q _ _ newId _) fun _ t _ _ => ?_
    exact Safe.write_bind (finishSync_states q connection _) (Safe.commit_bind (Safe.pure trivial))
  exact hsafe.run_base (.refl s)

/-- A callback raises and writes nothing, or links its installation. -/
theorem completeGithubInstallation_cases (host : Host) (s : Store) (cb : InstallationCallback)
    (answer : Except ServiceError Items) :
    (∃ e, (completeGithubInstallation host cb answer).run s = (.error e, s)) ∨
    ∃ state account linked, authorizeCallback host cb s = .ok state ∧
      linkConnections cb state account (workspaceConnection s state.workspaceId)
        (installationSigned s cb.installationId) s.connections = .ok linked ∧
      (completeGithubInstallation host cb answer).run s =
        (.ok linked.1, saveInstallation cb state linked s) := by
  -- Each check either refuses with nothing written or hands on what it found.
  unfold completeGithubInstallation
  cases hstate : authorizeCallback host cb s with
  | error e => exact Or.inl ⟨e, run_eq (query_error_bind hstate)⟩
  | ok state =>
  rw [run_def, query_ok_bind hstate]
  cases hanswer : githubAnswer cb.appAvailable answer with
  | error e =>
    rw [Call.lift_error_bind rfl]
    exact Or.inl ⟨e, rfl⟩
  | ok installation =>
  rw [Call.lift_ok_bind rfl]
  cases haccount : readInstallation host installation with
  | error e =>
    rw [Call.lift_error_bind rfl]
    exact Or.inl ⟨e, rfl⟩
  | ok account =>
  rw [Call.lift_ok_bind rfl]
  cases hfree : checkInstallationFree cb.installationId state.workspaceId s with
  | error e =>
    rw [query_error_bind hfree]
    exact Or.inl ⟨e, rfl⟩
  | ok u =>
  -- the two lookups cannot fail; the linking can
  rw [query_ok_bind hfree, read_bind_apply, read_bind_apply]
  cases hlinked : linkConnections cb state account (workspaceConnection s state.workspaceId)
      (installationSigned s cb.installationId) s.connections with
  | error e =>
    rw [query_error_bind hlinked]
    exact Or.inl ⟨e, rfl⟩
  | ok linked =>
    rw [query_ok_bind hlinked]
    exact Or.inr ⟨state, account, linked, rfl, hlinked, rfl⟩

/-- A disconnection raises and writes nothing, or sets the connection's state. -/
theorem disconnectGithub_cases (q : ProviderRequest) :
    (∃ e, (disconnectGithub q).run s = (.error e, s)) ∨
    ∃ connection, administeredConnection q s = .ok connection ∧
      (disconnectGithub q).run s =
        (.ok (setConnectionState "revoked" q.now connection), disconnect q connection s) := by
  unfold disconnectGithub
  cases hconnection : administeredConnection q s with
  | error e => exact Or.inl ⟨e, run_eq (query_error_bind hconnection)⟩
  | ok connection =>
    rw [run_def, query_ok_bind hconnection]
    exact Or.inr ⟨connection, rfl, rfl⟩

/-- A linked connection is new or one of before, and the others are as they were. -/
theorem linkConnections_rows {cb : InstallationCallback} {state : ProviderAuthorizationState}
    {account : InstallationAccount} {existing : Option ProviderConnection} {signed : Bool}
    {connections : Table ProviderConnection.id}
    {linked : ProviderConnection × Table ProviderConnection.id}
    (h : linkConnections cb state account existing signed connections = .ok linked) :
    ∀ c ∈ linked.2.rows, c.id = linked.1.id ∨ c ∈ connections.rows := by
  obtain ⟨linked', hlinked, h⟩ := Raise.bind_eq_ok.mp h
  obtain ⟨-, -, h⟩ := Raise.bind_eq_ok.mp h
  obtain rfl := Raise.pure_eq_ok.mp h
  intro c hc
  cases existing with
  | none =>
    cases hinsert : connections.insert (newConnection cb state account signed) with
    | none =>
      rw [linkRow, hinsert] at hlinked
      cases hlinked
    | some rows =>
      rw [linkRow, hinsert] at hlinked
      obtain rfl := Except.ok.inj hlinked
      rw [(Table.insert_eq_some hinsert).2, List.mem_append, List.mem_singleton] at hc
      exact hc.elim Or.inr fun h => Or.inl (congrArg ProviderConnection.id h)
  | some connection =>
    obtain rfl := Except.ok.inj hlinked
    have hrow : c ∈ (connections.updateWhere (fun row => row.id = connection.id)
        (relinkConnection cb account signed) (relinkConnection_id cb account signed)).rows := hc
    obtain ⟨c', hc', rfl⟩ := Table.mem_updateWhere.mp hrow
    by_cases hid : c'.id = connection.id
    · rw [if_pos (by simpa using hid)]
      exact Or.inl hid
    · rw [if_neg (by simpa using hid)]
      exact Or.inr hc'

end Services

/-! ## Runs -/

/-- The database, with the connections that were revoked and that nothing has
connected again since. -/
structure RevocationState where
  store : Store
  revoked : List String

/-- A call of the services. -/
inductive RevocationStep where
  | webhook (config : WebhookConfig) (d : GithubDelivery) (call : WebhookCall)
  | beginInstallation (q : ProviderRequest) (rawState : String)
  | complete (cb : InstallationCallback) (answer : Except ServiceError Items)
  | sync (q : ProviderRequest) (repositoryIds : List String) (newId : String → String)
      (answer : Except ServiceError (List Items))
  | disconnect (q : ProviderRequest)
  /-- a call that leaves the connections' states alone -/
  | other (store : Store)

/-- The actions that revoke an installation. -/
def revokes (action : String) : Bool := action = "deleted" ∨ action = "suspend"

/-- The actions that may connect a revoked installation again. -/
def reconnects (action : String) : Bool := action = "created" ∨ action = "unsuspend"

def revoke (id : String) (revoked : List String) : List String := id :: revoked

def reconnect (id : String) (revoked : List String) : List String := revoked.filter (· ≠ id)

/-- The revoked connections after an installation event for one of them. -/
def afterInstallation (action : String) (connection : Option ProviderConnection)
    (revoked : List String) : List String :=
  match connection with
  | none => revoked
  | some connection =>
    if revokes action then revoke connection.id revoked
    else if reconnects action then reconnect connection.id revoked
    else revoked

/-- The state after a call that `onSuccess` applies to, if it succeeds. -/
def afterCall (onSuccess : String → List String → List String) (r : RevocationState) :
    Except ServiceError ProviderConnection × Store → RevocationState
  | (.ok connection, store) => ⟨store, onSuccess connection.id r.revoked⟩
  | (.error _, store) => { r with store }

def RevocationState.next (host : Host) (r : RevocationState) :
    RevocationStep → Option RevocationState
  | .webhook config d call => some
      { store := ((processGithubWebhook host config d call).run r.store).2
        revoked := afterInstallation (payloadAction host d.payload)
          (affectedConnection host config d r.store) r.revoked }
  | .beginInstallation q rawState =>
    some { r with store := ((beginGithubInstallation host q rawState).run r.store).2 }
  | .complete cb answer =>
    some (afterCall reconnect r ((completeGithubInstallation host cb answer).run r.store))
  | .sync q repositoryIds newId answer => some
      { r with
        store := ((syncGithubRepositories host q repositoryIds newId answer).run r.store).2 }
  | .disconnect q => some (afterCall revoke r ((disconnectGithub q).run r.store))
  | .other store => if StatesKept r.store store then some { r with store } else none

def revocationSystem (host : Host) : System RevocationState RevocationStep where
  init r := r.revoked = []
  next := RevocationState.next host

/-- No revoked connection is connected. -/
def Sticky (r : RevocationState) : Prop :=
  ∀ c ∈ r.store.connections.rows, c.id ∈ r.revoked → c.connectionState ≠ "connected"

instance (r : RevocationState) : Decidable (Sticky r) :=
  inferInstanceAs (Decidable (∀ c ∈ r.store.connections.rows, _ → _))

/-- An installation event that neither revokes nor reconnects comes for a revoked
connection. -/
def Resurrects (host : Host) (r : RevocationState) : RevocationStep → Prop
  | .webhook config d _ =>
    revokes (payloadAction host d.payload) = false ∧
      reconnects (payloadAction host d.payload) = false ∧
      ∃ c, affectedConnection host config d r.store = some c ∧ c.id ∈ r.revoked
  | _ => False

section Runs

variable {host : Host} {r r' : RevocationState}

/-- The two states are different texts. -/
theorem revoked_ne_connected : "revoked" ≠ "connected" := by decide

/-- An installation delivery goes by a stored connection. -/
theorem mem_of_affectedConnection {config : WebhookConfig} {d : GithubDelivery} {s : Store}
    {c : ProviderConnection} (h : affectedConnection host config d s = some c) :
    c ∈ s.connections.rows := by
  unfold affectedConnection at h
  split at h
  · split at h
    · unfold findConnection at h
      split at h
      · cases h
      · exact List.mem_of_find?_eq_some h
    · cases h
  · cases h

/-- What keeps the states keeps them sticky. -/
theorem sticky_statesKept {store : Store} (h : Sticky r) (hkept : StatesKept r.store store) :
    Sticky { r with store } := by
  intro c hc hrevoked
  obtain ⟨c₀, hc₀, hid, hstate⟩ := hkept c hc
  rw [hstate]
  exact h c₀ hc₀ (hid ▸ hrevoked)

/-- A row of the connections after an installation event. -/
theorem mem_applyInstallation {c connection : ProviderConnection} {action : String} {now : Time}
    {s : Store} :
    c ∈ (applyInstallation (some connection) action now s).connections.rows ↔
      ∃ c₀ ∈ s.connections.rows, (if c₀.id = connection.id then
        setConnectionState (if revokes action then "revoked" else "connected") now c₀ else c₀) = c := by
  have hrows : (applyInstallation (some connection) action now s).connections =
      s.connections.updateWhere (fun row => row.id = connection.id)
        (setConnectionState (if revokes action then "revoked" else "connected") now)
        (setConnectionState_id _ now) := by
    by_cases hrevokes : action = "deleted" ∨ action = "suspend"
    · simp [applyInstallation, revokes, hrevokes]
    · simp [applyInstallation, revokes, hrevokes]
  rw [hrows, Table.mem_updateWhere]
  simp only [decide_eq_true_eq]

/-- The connections after a webhook, by the connection it is for. -/
theorem sticky_webhook {config : WebhookConfig} {d : GithubDelivery} {call : WebhookCall}
    (h : Sticky r) (hnext : r.next host (.webhook config d call) = some r') :
    Sticky r' ↔ ¬Resurrects host r (.webhook config d call) := by
  obtain rfl := Option.some.inj hnext
  have hconnections : ((processGithubWebhook host config d call).run r.store).2.connections = _ :=
    processGithubWebhook_connections
  unfold Sticky
  simp only [hconnections]
  cases haffected : affectedConnection host config d r.store with
  | none =>
    refine iff_of_true (fun c hc hrevoked => h c hc hrevoked) ?_
    intro h
    obtain ⟨-, -, c, hc, -⟩ := h
    rw [haffected] at hc
    cases hc
  | some connection =>
    simp only [mem_applyInstallation]
    by_cases hrevokes : revokes (payloadAction host d.payload) = true
    · refine iff_of_true ?_ fun hres => by simp [hres.1] at hrevokes
      intro c h hrevoked
      obtain ⟨c₀, hc₀, rfl⟩ := h
      rw [hrevokes, if_pos rfl]
      by_cases hid : c₀.id = connection.id
      · rw [if_pos hid]
        exact revoked_ne_connected
      · rw [if_neg hid] at hrevoked ⊢
        rw [afterInstallation, if_pos hrevokes, revoke, List.mem_cons] at hrevoked
        exact h c₀ hc₀ (hrevoked.resolve_left hid)
    · by_cases hreconnects : reconnects (payloadAction host d.payload) = true
      · refine iff_of_true ?_ fun hres => by simp [hres.2.1] at hreconnects
        intro c h hrevoked
        obtain ⟨c₀, hc₀, rfl⟩ := h
        rw [afterInstallation, if_neg hrevokes, if_pos hreconnects, reconnect, List.mem_filter]
          at hrevoked
        by_cases hid : c₀.id = connection.id
        · rw [if_pos hid] at hrevoked
          exact absurd hid (of_decide_eq_true hrevoked.2)
        · rw [if_neg hid] at hrevoked ⊢
          exact h c₀ hc₀ hrevoked.1
      · -- The event is about neither and connects the installation all the same.
        rw [afterInstallation, if_neg hrevokes, if_neg hreconnects, if_neg hrevokes]
        constructor
        · intro hall h
          obtain ⟨-, -, c, hc, hrevoked⟩ := h
          obtain rfl := Option.some.inj (haffected.symm.trans hc)
          exact hall _ ⟨connection, mem_of_affectedConnection haffected, if_pos rfl⟩ hrevoked rfl
        · intro hres c h hrevoked
          obtain ⟨c₀, hc₀, rfl⟩ := h
          by_cases hid : c₀.id = connection.id
          · rw [if_pos hid] at hrevoked
            refine absurd ⟨?_, ?_, connection, haffected, hid ▸ hrevoked⟩ hres
            · exact Bool.not_eq_true _ ▸ hrevokes
            · exact Bool.not_eq_true _ ▸ hreconnects
          · rw [if_neg hid] at hrevoked ⊢
            exact h c₀ hc₀ hrevoked

/-- A completed callback connects anew and leaves others revoked. -/
theorem sticky_complete {cb : InstallationCallback} {answer : Except ServiceError Items}
    (h : Sticky r) (hnext : r.next host (.complete cb answer) = some r') : Sticky r' := by
  obtain rfl := Option.some.inj hnext
  rcases completeGithubInstallation_cases host r.store cb answer with
    ⟨e, hrun⟩ | ⟨state, account, linked, -, hlinked, hrun⟩
  · rw [hrun]
    exact h
  · rw [hrun]
    intro c hc hrevoked
    obtain ⟨hmem, hid⟩ := List.mem_filter.mp hrevoked
    rcases linkConnections_rows hlinked c hc with hc | hc
    · exact absurd hc (by simpa using hid)
    · exact h c hc hmem

/-- A disconnection revokes. -/
theorem sticky_disconnect {q : ProviderRequest} (h : Sticky r)
    (hnext : r.next host (.disconnect q) = some r') : Sticky r' := by
  obtain rfl := Option.some.inj hnext
  rcases disconnectGithub_cases (s := r.store) q with ⟨e, hrun⟩ | ⟨connection, -, hrun⟩
  · rw [hrun]
    exact h
  · rw [hrun]
    intro c hc hrevoked
    have hrow : c ∈ (r.store.connections.updateWhere (fun row => row.id = connection.id)
        (setConnectionState "revoked" q.now) (setConnectionState_id "revoked" q.now)).rows := hc
    obtain ⟨c₀, hc₀, rfl⟩ := Table.mem_updateWhere.mp hrow
    by_cases hid : c₀.id = connection.id
    · rw [if_pos (by simpa using hid)]
      exact revoked_ne_connected
    · rw [if_neg (by simpa using hid)] at hrevoked ⊢
      exact h c₀ hc₀ ((List.mem_cons.mp hrevoked).resolve_left hid)

/-- One call keeps the revoked connections unconnected, unless it is the event
above, and that one does not. -/
theorem sticky_step {step : RevocationStep} (h : Sticky r) (hnext : r.next host step = some r') :
    Sticky r' ↔ ¬Resurrects host r step := by
  cases step with
  | webhook config d call => exact sticky_webhook h hnext
  | beginInstallation q rawState =>
    obtain rfl := Option.some.inj hnext
    exact iff_of_true (sticky_statesKept h (beginGithubInstallation_states q rawState)) id
  | complete cb answer => exact iff_of_true (sticky_complete h hnext) id
  | sync q repositoryIds newId answer =>
    obtain rfl := Option.some.inj hnext
    exact iff_of_true
      (sticky_statesKept h (syncGithubRepositories_states q repositoryIds newId answer)) id
  | disconnect q => exact iff_of_true (sticky_disconnect h hnext) id
  | other store =>
    by_cases hkept : StatesKept r.store store
    · rw [RevocationState.next, if_pos hkept, Option.some.injEq] at hnext
      exact iff_of_true (hnext ▸ sticky_statesKept h hkept) id
    · rw [RevocationState.next, if_neg hkept] at hnext
      cases hnext

/-- **Revocation.** In a run of calls in which no installation event that is
neither a revocation nor a reconnection comes for a revoked connection, no
revoked connection is connected; and in the states of such a run the next call
keeps it so exactly if it is not such an event. -/
theorem revocation_sticky
    (h : ReachableBy (revocationSystem host) (fun r step => ¬Resurrects host r step) r) :
    Sticky r ∧ ∀ step r', r.next host step = some r' → (Sticky r' ↔ ¬Resurrects host r step) := by
  have hinv : Invariant (revocationSystem host) (fun r step => ¬Resurrects host r step) Sticky :=
    { init := by
        intro r hr c hc hrevoked
        rw [show r.revoked = [] from hr] at hrevoked
        cases hrevoked
      step := fun r step r' hr hstep hnext => (sticky_step hr hnext).mpr hstep }
  exact ⟨hinv.reachable h, fun step r' hnext => sticky_step (hinv.reachable h) hnext⟩

end Runs

/-! ## A connection that comes back -/

/-- A repository was added to the installation. -/
def repositoryAdded : GithubDelivery where
  eventType := "installation_repositories"
  deliveryId := "d-1"
  payload := [("action", .str "added"), ("installation", .dict [("id", .int 77)])]
  signature := "sha256="
  rawBody := []

/-- An administrator disconnects GitHub, and GitHub delivers an event from before. -/
def lateEvent : List RevocationStep :=
  [.disconnect (acmeRequest 0), .webhook acmeConfig repositoryAdded (acmeCall (seconds 5))]

/-- The disconnected connection is connected again, although nothing reconnected it. -/
theorem revocation_undone :
    ∃ r, Reachable (revocationSystem asciiHost) r ∧
      (revocationSystem asciiHost).run ⟨linkedStore, []⟩ lateEvent = some r ∧
      r.revoked = ["pc-1"] ∧ ¬Sticky r := by
  obtain ⟨r, hrun⟩ : ∃ r, (revocationSystem asciiHost).run ⟨linkedStore, []⟩ lateEvent = some r :=
    Option.isSome_iff_exists.mp (by decide +kernel)
  have hbad : ((revocationSystem asciiHost).run ⟨linkedStore, []⟩ lateEvent).any
      (fun r => r.revoked = ["pc-1"] ∧ ¬Sticky r) = true := by decide +kernel
  rw [hrun] at hbad
  obtain ⟨hrevoked, hsticky⟩ := of_decide_eq_true (show decide _ = true from hbad)
  exact ⟨r, Reachable.of_run (.init (show _ = _ from rfl)) hrun, hrun, hrevoked, hsticky⟩

/-- After the disconnection alone. -/
theorem revocation_sticky_disconnected :
    ∃ r, r.revoked = ["pc-1"] ∧ Sticky r ∧ ∀ step r', r.next asciiHost step = some r' →
      (Sticky r' ↔ ¬Resurrects asciiHost r step) := by
  obtain ⟨r, hnext⟩ : ∃ r, RevocationState.next asciiHost ⟨linkedStore, []⟩
      (.disconnect (acmeRequest 0)) = some r := ⟨_, rfl⟩
  have hstart : ReachableBy (revocationSystem asciiHost)
      (fun r step => ¬Resurrects asciiHost r step) ⟨linkedStore, []⟩ := .init (show _ = _ from rfl)
  have hreach : ReachableBy (revocationSystem asciiHost)
      (fun r step => ¬Resurrects asciiHost r step) r :=
    hstart.step (a := .disconnect (acmeRequest 0)) not_false hnext
  have hrevoked : (RevocationState.next asciiHost ⟨linkedStore, []⟩
      (.disconnect (acmeRequest 0))).map (·.revoked) = some ["pc-1"] := by decide +kernel
  rw [hnext] at hrevoked
  exact ⟨r, Option.some.inj hrevoked, revocation_sticky hreach⟩

end DeployGuard.Service
