import DeployGuard.Service.Tenancy

/-!
# Tenant isolation

What the policies give, over every run of the sessions of `serverSystem`:

> `Pooled`: the connection a session works on has the session's own workspace in its
setting, and a connection in the pool has none;

> `Confined`: a statement returns, leaves and replaces rows of the session's own workspace
only, and none while the session has none;

The second rests on the startup check of the role.
-/

namespace DeployGuard.Service

open Raise RowSecurity Transition

/-! ## The setting -/

/-- A setting that is not empty names a workspace. -/
theorem currentWorkspace_some {w : String} (h : w ≠ "") : currentWorkspace (some w) = some w := by
  simp [currentWorkspace, Option.filter_some, h]

/-- A transaction's setting is gone at its end. -/
theorem currentWorkspace_endOfTransaction (setting : Option String) :
    currentWorkspace (endOfTransaction setting) = none := by
  cases setting <;> simp [currentWorkspace, endOfTransaction, Option.filter_some]

/-- The hook restores what the session's own info says. -/
theorem currentWorkspace_restore {info setting : Option String}
    (hinfo : ∀ w, info = some w → w ≠ "") (hsetting : currentWorkspace setting = none) :
    currentWorkspace (restoreTenantContext info setting) = info := by
  cases info with
  | none => exact hsetting
  | some w =>
    have hw := hinfo w rfl
    simp only [restoreTenantContext, if_neg hw]
    exact currentWorkspace_some hw

/-- A workspace id that was validated is not empty. -/
theorem validateWorkspaceId_ne {workspaceId value : String}
    (h : validateWorkspaceId workspaceId = .ok value) : value ≠ "" := by
  simp only [validateWorkspaceId, bind_eq_ok, raiseIf_eq_ok, pure_eq_ok, not_or] at h
  obtain ⟨_, hne, rfl⟩ := h
  exact hne.1

/-! ## Connections -/

variable {ι γ : Type} [DecidableEq ι] [DecidableEq γ] {catalog : Catalog} {r r' : Server ι γ}
  {i : ι} {s : TenantSession γ} {c c' : γ}

/-- Every connection in use is held by its session, under the session's workspace; the others
carry no workspace. -/
structure Pooled (r : Server ι γ) : Prop where
  held : ∀ i s c, r.session i = some s → s.stage.connection = some c → r.holder c = some i
  active : ∀ i s c, r.session i = some s → s.stage = .active c →
    currentWorkspace (r.setting c) = s.info
  free : ∀ c, r.holder c = none → currentWorkspace (r.setting c) = none
  info : ∀ i s w, r.session i = some s → s.info = some w → w ≠ ""

omit [DecidableEq γ] in
/-- One session moves, and leaves the connections of the others alone. -/
theorem Pooled.moved (h : Pooled r) (i : ι)
    (hsession : ∀ j, j ≠ i → r'.session j = r.session j)
    (hothers : ∀ j c, j ≠ i → r.holder c = some j →
      r'.holder c = some j ∧ r'.setting c = r.setting c)
    (hheld : ∀ s c, r'.session i = some s → s.stage.connection = some c → r'.holder c = some i)
    (hactive : ∀ s c, r'.session i = some s → s.stage = .active c →
      currentWorkspace (r'.setting c) = s.info)
    (hfree : ∀ c, r'.holder c = none → currentWorkspace (r'.setting c) = none)
    (hinfo : ∀ s w, r'.session i = some s → s.info = some w → w ≠ "") : Pooled r' := by
  refine ⟨fun j s c hs hc => ?_, fun j s c hs hc => ?_, hfree, fun j s w hs hw => ?_⟩
  · by_cases hj : j = i
    · subst hj
      exact hheld s c hs hc
    · rw [hsession j hj] at hs
      exact (hothers j c hj (h.held j s c hs hc)).1
  · by_cases hj : j = i
    · subst hj
      exact hactive s c hs hc
    · rw [hsession j hj] at hs
      have hholder := h.held j s c hs (by rw [hc]; rfl)
      rw [(hothers j c hj hholder).2]
      exact h.active j s c hs hc
  · by_cases hj : j = i
    · subst hj
      exact hinfo s w hs hw
    · rw [hsession j hj] at hs
      exact h.info j s w hs hw

omit [DecidableEq γ] in
/-- A session is replaced by one that stands where it stood. -/
theorem Pooled.setSession {s' : TenantSession γ} (h : Pooled r)
    (hheld : ∀ c, s'.stage.connection = some c → r.holder c = some i)
    (hactive : ∀ c, s'.stage = .active c → currentWorkspace (r.setting c) = s'.info)
    (hinfo : ∀ w, s'.info = some w → w ≠ "") : Pooled (r.setSession i s') := by
  refine h.moved i (fun j hj => r.setSession_ne s' hj) (fun j c _ hc => ⟨hc, rfl⟩)
    (fun s c hs hc => ?_) (fun s c hs hc => ?_) h.free (fun s w hs hw => ?_)
  all_goals
    rw [r.setSession_self, Option.some.injEq] at hs
    obtain rfl := hs
  · exact hheld c hc
  · exact hactive c hc
  · exact hinfo w hw

/-- Beginning on a connection of the pool puts the session's workspace in the setting. -/
theorem Pooled.begin (h : Pooled r) (hinfo : ∀ w, s.info = some w → w ≠ "")
    (hfree : r.holder c = none) : Pooled (r.begin i s c) := by
  have hself := r.begin_self (i := i) s c
  have hsetting : (r.begin i s c).setting c = restoreTenantContext s.info (r.setting c) :=
    Function.update_self ..
  have hrestored := currentWorkspace_restore hinfo (h.free c hfree)
  refine h.moved i (fun j hj => r.begin_ne s c hj) (fun j c' _ hc' => ?_)
    (fun t c' ht hc' => ?_) (fun t c' ht hc' => ?_) (fun c' hc' => ?_) (fun t w ht hw => ?_)
  · -- a connection someone holds is not the one that was free
    have hne : c' ≠ c := fun heq => by rw [heq, hfree] at hc'; cases hc'
    exact ⟨(Function.update_of_ne hne ..).trans hc', Function.update_of_ne hne ..⟩
  · rw [hself, Option.some.injEq] at ht
    obtain rfl := ht
    cases hc'
    exact Function.update_self ..
  · rw [hself, Option.some.injEq] at ht
    obtain rfl := ht
    cases hc'
    rw [hsetting]
    exact hrestored
  · by_cases heq : c' = c
    · subst heq
      rw [show (r.begin i s c').holder c' = some i from Function.update_self ..] at hc'
      cases hc'
    · rw [show (r.begin i s c).holder c' = r.holder c' from Function.update_of_ne heq ..] at hc'
      rw [show (r.begin i s c).setting c' = r.setting c' from Function.update_of_ne heq ..]
      exact h.free c' hc'
  · rw [hself, Option.some.injEq] at ht
    obtain rfl := ht
    exact hinfo w hw

/-- The connection a session works on is its own already, or it begins on a free one. -/
theorem Server.connect_cases (h : r.connect i s c = some (c', r')) :
    s.stage = .active c' ∧ r' = r ∨
      s.stage.connection = none ∧ c' = c ∧ r.holder c = none ∧ r' = r.begin i s c := by
  unfold Server.connect at h
  cases hstage : s.stage with
  | active c₀ =>
    rw [hstage] at h
    cases h
    exact Or.inl ⟨rfl, rfl⟩
  | aborted c₀ =>
    rw [hstage] at h
    cases h
  | idle =>
    rw [hstage] at h
    dsimp only at h
    split at h
    · next hfree =>
      cases h
      exact Or.inr ⟨rfl, rfl, hfree, rfl⟩
    · cases h
  | begun =>
    rw [hstage] at h
    dsimp only at h
    split at h
    · next hfree =>
      cases h
      exact Or.inr ⟨rfl, rfl, hfree, rfl⟩
    · cases h

/-- A connected session: the pool is in order, and the setting is the session's workspace. -/
structure Connected (r r' : Server ι γ) (i : ι) (s : TenantSession γ) (c' : γ) : Prop where
  pooled : Pooled r'
  session : r'.session i = some { s with stage := .active c' }
  others : ∀ j, j ≠ i → r'.session j = r.session j
  setting : currentWorkspace (r'.setting c') = s.info
  store : r'.store = r.store
  lock : r'.lock = r.lock
  born : r'.born = r.born

/-- A session takes a connection that nothing is left on. -/
theorem Pooled.connect (h : Pooled r) (hs : r.session i = some s)
    (hconnect : r.connect i s c = some (c', r')) : Connected r r' i s c' := by
  rcases Server.connect_cases hconnect with ⟨hstage, rfl⟩ | ⟨-, rfl, hfree, rfl⟩
  · refine ⟨h, ?_, fun j _ => rfl, h.active i s c' hs hstage, rfl, rfl, rfl⟩
    rw [hs, ← hstage]
  · have hinfo : ∀ w, s.info = some w → w ≠ "" := fun w => h.info i s w hs
    have hbegin := h.begin (i := i) hinfo hfree
    exact ⟨hbegin, r.begin_self s c', fun j hj => r.begin_ne s c' hj,
      hbegin.active i { s with stage := .active c' } c' (r.begin_self s c') rfl, rfl, rfl, rfl⟩

/-- The end of a transaction takes the workspace out of the setting. -/
theorem Pooled.release (h : Pooled r) (hs : r.session i = some s) : Pooled (r.release i s) := by
  have hself : (r.release i s).session i = some s.ended := by
    unfold Server.release
    dsimp only
    split <;> exact Function.update_self ..
  have hsession : ∀ j, j ≠ i → (r.release i s).session j = r.session j := by
    intro j hj
    unfold Server.release
    dsimp only
    split <;> exact Function.update_of_ne hj ..
  have hinfo := fun w => h.info i s w hs
  cases hconnection : s.stage.connection with
  | none =>
    have hrelease : (r.release i s).holder = r.holder ∧ (r.release i s).setting = r.setting := by
      unfold Server.release
      rw [hconnection]
      exact ⟨rfl, rfl⟩
    refine h.moved i hsession (fun j c _ hc => ?_) (fun t c ht hc => ?_) (fun t c ht hc => ?_)
      (fun c hc => ?_) (fun t w ht hw => ?_)
    · rw [hrelease.1, hrelease.2]
      exact ⟨hc, rfl⟩
    · rw [hself, Option.some.injEq] at ht
      obtain rfl := ht
      cases hc
    · rw [hself, Option.some.injEq] at ht
      obtain rfl := ht
      cases hc
    · rw [hrelease.1] at hc
      rw [hrelease.2]
      exact h.free c hc
    · rw [hself, Option.some.injEq] at ht
      obtain rfl := ht
      exact hinfo w hw
  | some c =>
    have hrelease : (r.release i s).holder = Function.update r.holder c none ∧
        (r.release i s).setting =
          Function.update r.setting c (endOfTransaction (r.setting c)) := by
      unfold Server.release
      rw [hconnection]
      exact ⟨rfl, rfl⟩
    have hmine := h.held i s c hs hconnection
    refine h.moved i hsession (fun j c' hj hc' => ?_) (fun t c' ht hc' => ?_)
      (fun t c' ht hc' => ?_) (fun c' hc' => ?_) (fun t w ht hw => ?_)
    · have hne : c' ≠ c := by
        intro heq
        rw [heq, hmine, Option.some.injEq] at hc'
        exact hj hc'.symm
      rw [hrelease.1, hrelease.2, Function.update_of_ne hne, Function.update_of_ne hne]
      exact ⟨hc', rfl⟩
    · rw [hself, Option.some.injEq] at ht
      obtain rfl := ht
      cases hc'
    · rw [hself, Option.some.injEq] at ht
      obtain rfl := ht
      cases hc'
    · rw [hrelease.2]
      by_cases heq : c' = c
      · subst heq
        rw [Function.update_self]
        exact currentWorkspace_endOfTransaction _
      · rw [hrelease.1, Function.update_of_ne heq] at hc'
        rw [Function.update_of_ne heq]
        exact h.free c' hc'
    · rw [hself, Option.some.injEq] at ht
      obtain rfl := ht
      exact hinfo w hw

omit [DecidableEq ι] [DecidableEq γ] in
/-- Store, locks and the memory of births are no part of the pool. -/
theorem Pooled.congr (h : Pooled r) (hsession : r'.session = r.session)
    (hholder : r'.holder = r.holder) (hsetting : r'.setting = r.setting) : Pooled r' where
  held := by
    rw [hsession, hholder]
    exact h.held
  active := by
    rw [hsession, hsetting]
    exact h.active
  free := by
    rw [hholder, hsetting]
    exact h.free
  info := by
    rw [hsession]
    exact h.info

/-- A session sets another workspace on its own connection. -/
theorem Pooled.rescoped {s' : TenantSession γ} {value : String} (h : Pooled r)
    (hmine : r.holder c = some i) (hsession : r'.session = Function.update r.session i (some s'))
    (hholder : r'.holder = r.holder) (hsetting : r'.setting = Function.update r.setting c (some value))
    (hstage : s'.stage = .active c) (hinfo : s'.info = some value) (hne : value ≠ "") :
    Pooled r' := by
  have hself : r'.session i = some s' := by rw [hsession, Function.update_self]
  have hother : ∀ c', r.holder c' ≠ some i → r'.setting c' = r.setting c' := by
    intro c' hc'
    rw [hsetting, Function.update_of_ne]
    intro heq
    exact hc' (heq ▸ hmine)
  refine h.moved i (fun j hj => by rw [hsession, Function.update_of_ne hj])
    (fun j c' hj hc' => ?_) (fun t c' ht hc' => ?_) (fun t c' ht hc' => ?_) (fun c' hc' => ?_)
    (fun t w ht hw => ?_)
  · rw [hholder]
    exact ⟨hc', hother c' fun heq => hj (Option.some.inj (hc'.symm.trans heq))⟩
  · rw [hself, Option.some.injEq] at ht
    subst ht
    rw [hstage] at hc'
    cases hc'
    rw [hholder, hmine]
  · rw [hself, Option.some.injEq] at ht
    subst ht
    rw [hstage] at hc'
    cases hc'
    rw [hsetting, Function.update_self, hinfo]
    exact currentWorkspace_some hne
  · rw [hholder] at hc'
    rw [hother c' (by rw [hc']; exact nofun)]
    exact h.free c' hc'
  · rw [hself, Option.some.injEq] at ht
    subst ht
    rw [hinfo, Option.some.injEq] at hw
    exact hw ▸ hne

/-- The workspace a session sets is in the setting at once, if it is in a transaction. -/
theorem Pooled.setTenantContext {workspaceId : String} (h : Pooled r) (hs : r.session i = some s)
    (hset : r.setTenantContext i s workspaceId c = some r') : Pooled r' := by
  unfold Server.setTenantContext at hset
  cases hvalue : validateWorkspaceId workspaceId with
  | error e =>
    rw [hvalue] at hset
    cases hset
    exact h
  | ok value =>
    rw [hvalue] at hset
    dsimp only at hset
    have hne := validateWorkspaceId_ne hvalue
    have hinfo : ∀ w, some value = some w → w ≠ "" := fun w hw => Option.some.inj hw ▸ hne
    have hheld := fun c hc => h.held i s c hs hc
    cases hstage : s.stage with
    | idle =>
      rw [hstage] at hset
      cases hset
      exact h.setSession nofun nofun hinfo
    | aborted c₀ =>
      rw [hstage] at hset
      cases hset
      exact h.setSession (fun c hc => hheld c (hstage ▸ hc)) nofun hinfo
    | begun =>
      simp only [hstage, Server.connect] at hset
      split at hset
      · cases hset
      · next c' r₁ hconnect =>
        cases hset
        split at hconnect
        · next hfree =>
          obtain ⟨rfl, rfl⟩ := Prod.mk.inj (Option.some.inj hconnect)
          have hbegun : Pooled (r.setSession i { s with info := some value, stage := .begun }) :=
            h.setSession nofun nofun hinfo
          have hbegin := hbegun.begin (i := i)
            (s := { s with info := some value, stage := .begun }) hinfo hfree
          refine hbegin.congr rfl rfl ?_
          -- the hook has already put the value there
          simp [Server.begin, restoreTenantContext, hne]
        · cases hconnect
    | active c₀ =>
      simp only [hstage, Server.connect] at hset
      cases hset
      exact h.rescoped (hheld c₀ (by rw [hstage]; rfl)) rfl rfl rfl rfl rfl hne

/-- A statement is refused, which aborts the transaction, or answered. -/
theorem Server.execute_cases {statement : Statement Record.key}
    (h : r.execute catalog i s c statement = some r') :
    ∃ c' r₁, r.connect i s c = some (c', r₁) ∧
      ((∃ e, (catalog.guard (currentWorkspace (r₁.setting c'))).execute (s.view r.store) statement =
          .error e ∧
        r' = r₁.setSession i { s with stage := .aborted c', pending := [], scopes := [] }) ∨
      ∃ answer, (catalog.guard (currentWorkspace (r₁.setting c'))).execute (s.view r.store)
          statement = .ok answer ∧
        r₁.unlocked i answer.changes = true ∧ r' = r₁.answered i s c' answer) := by
  unfold Server.execute Server.ask at h
  cases hconnect : r.connect i s c with
  | none =>
    rw [hconnect] at h
    cases h
  | some connected =>
    rw [hconnect, Option.map_some] at h
    refine ⟨connected.1, connected.2, rfl, ?_⟩
    cases hresult : (catalog.guard (currentWorkspace (connected.2.setting connected.1))).execute
      (s.view r.store) statement with
    | error e =>
      rw [hresult] at h
      exact Or.inl ⟨e, rfl, (Option.some.inj h).symm⟩
    | ok answer =>
      rw [hresult] at h
      dsimp only at h
      split at h
      · next hunlocked => exact Or.inr ⟨answer, rfl, hunlocked, (Option.some.inj h).symm⟩
      · cases h

/-- A statement leaves the settings of the connections alone. -/
theorem Pooled.execute {statement : Statement Record.key} (h : Pooled r)
    (hs : r.session i = some s) (hexecute : r.execute catalog i s c statement = some r') :
    Pooled r' := by
  obtain ⟨c', r₁, hconnect, hcases⟩ := Server.execute_cases hexecute
  have hconnected := h.connect hs hconnect
  have hheld := hconnected.pooled.held i _ c' hconnected.session rfl
  have hinfo : ∀ w, s.info = some w → w ≠ "" := fun w => h.info i s w hs
  rcases hcases with ⟨e, -, rfl⟩ | ⟨answer, -, -, rfl⟩
  · -- the aborted transaction keeps its connection
    refine hconnected.pooled.setSession (fun c hc => ?_) nofun hinfo
    cases hc
    exact hheld
  · let s' : TenantSession γ := { s with
      stage := .active c'
      pending := s.pending ++ answer.changes
      scopes := s.info.toList ++ s.scopes }
    have hmoved : Pooled (r₁.setSession i s') := by
      refine hconnected.pooled.setSession (fun c hc => ?_) (fun c hc => ?_) hinfo
      · cases hc
        exact hheld
      · cases hc
        exact hconnected.setting
    exact hmoved.congr rfl rfl rfl

/-! ## Steps -/

/-- What a process can do to the server. -/
inductive SessionStep (catalog : Catalog) (r : Server ι γ) : SessionAction ι γ → Server ι γ → Prop
  | open (i : ι) : r.session i = none → SessionStep catalog r (.open i) (r.setSession i .fresh)
  | stay (i : ι) : SessionStep catalog r (.autobegin i) r
  | autobegin (i : ι) (s : TenantSession γ) : r.session i = some s → s.stage = .idle →
      SessionStep catalog r (.autobegin i) (r.setSession i { s with stage := .begun })
  | setTenantContext (i : ι) (s : TenantSession γ) (workspaceId : String) (c : γ)
      (r' : Server ι γ) : r.session i = some s →
      r.setTenantContext i s workspaceId c = some r' →
      SessionStep catalog r (.setTenantContext i workspaceId c) r'
  | execute (i : ι) (s : TenantSession γ) (c : γ) (statement : Statement Record.key)
      (r' : Server ι γ) : r.session i = some s →
      r.execute catalog i s c statement = some r' →
      SessionStep catalog r (.execute i c statement) r'
  | commit (i : ι) (s : TenantSession γ) : r.session i = some s →
      SessionStep catalog r (.commit i) (r.commit i s)
  | rollback (i : ι) (s : TenantSession γ) : r.session i = some s →
      SessionStep catalog r (.rollback i) (r.release i s)
  | close (i : ι) (s : TenantSession γ) : r.session i = some s → SessionStep catalog r (.close i)
      { r.release i s with session := Function.update (r.release i s).session i none }

/-- A step of the server is a step of one session, or of the pool. -/
theorem SessionStep.of_next {a : SessionAction ι γ}
    (h : (serverSystem catalog).next r a = some r') : SessionStep catalog r a r' := by
  cases hs : r.session a.party with
  | none =>
    cases a with
    | «open» i =>
      simp only [serverSystem, hs, Option.some.injEq] at h
      subst h
      exact .open i hs
    | _ =>
      simp only [serverSystem, hs] at h
      cases h
  | some s =>
    cases a with
    | «open» i =>
      simp only [serverSystem, hs] at h
      cases h
    | autobegin i =>
      simp only [serverSystem, hs] at h
      split at h
      · next hstage =>
        obtain rfl := Option.some.inj h
        exact .autobegin i s hs hstage
      · obtain rfl := Option.some.inj h
        exact .stay i
    | setTenantContext i workspaceId c =>
      simp only [serverSystem, hs] at h
      exact .setTenantContext i s workspaceId c r' hs h
    | execute i c statement =>
      simp only [serverSystem, hs] at h
      exact .execute i s c statement r' hs h
    | commit i =>
      simp only [serverSystem, hs, Option.some.injEq] at h
      subst h
      exact .commit i s hs
    | rollback i =>
      simp only [serverSystem, hs, Option.some.injEq] at h
      subst h
      exact .rollback i s hs
    | close i =>
      simp only [serverSystem, hs, Option.some.injEq] at h
      subst h
      exact .close i s hs

omit [DecidableEq γ] in
/-- Closing one session leaves the others. -/
theorem Server.session_of_closed {j : ι} {t : TenantSession γ}
    (h : Function.update r.session i none j = some t) : r.session j = some t := by
  by_cases hj : j = i
  · subst hj
    rw [Function.update_self] at h
    cases h
  · rwa [Function.update_of_ne hj] at h

omit [DecidableEq γ] in
/-- A closed session holds no connection. -/
theorem Pooled.closed (h : Pooled r) :
    Pooled { r with session := Function.update r.session i none } where
  held j t c ht := h.held j t c (Server.session_of_closed ht)
  active j t c ht := h.active j t c (Server.session_of_closed ht)
  free := h.free
  info j t w ht := h.info j t w (Server.session_of_closed ht)

/-- A commit ends the transaction and with it its setting. -/
theorem Pooled.commit (h : Pooled r) (hs : r.session i = some s) : Pooled (r.commit i s) := by
  have hstore : Pooled { r with store := s.view r.store } := h.congr rfl rfl rfl
  unfold Server.commit
  split
  · exact hstore.release hs
  · exact h.release hs

/-- In every run a free connection carries no workspace. -/
theorem pooled_invariant (catalog : Catalog) (C : Server ι γ → SessionAction ι γ → Prop) :
    Invariant (serverSystem catalog) C Pooled where
  init r h := by
    obtain ⟨hsession, -, -, hfree, -⟩ := h
    have hnone : ∀ i, r.session i = none := fun i => congrFun hsession i
    refine ⟨fun i s c hs => ?_, fun i s c hs => ?_, fun c _ => hfree c, fun i s w hs => ?_⟩
    all_goals
      rw [hnone i] at hs
      cases hs
  step r a r' h _ hnext := by
    cases SessionStep.of_next hnext with
    | «open» i hs => exact h.setSession nofun nofun nofun
    | stay i => exact h
    | autobegin i s hs hstage => exact h.setSession nofun nofun fun w => h.info i s w hs
    | setTenantContext i s workspaceId c _ hs hset => exact h.setTenantContext hs hset
    | execute i s c statement _ hs hexecute => exact h.execute hs hexecute
    | commit i s hs => exact h.commit hs
    | rollback i s hs => exact h.release hs
    | close i s hs => exact (h.release hs).closed

/-! ## The pool -/

/-- **No workspace leaks through the pool.** In every run, a statement is executed under the
workspace of its own session, and a connection in the pool is under none. -/
theorem pool_never_leaks (catalog : Catalog) (h : Reachable (serverSystem catalog) r) :
    (∀ c, r.holder c = none → currentWorkspace (r.setting c) = none) ∧
      ∀ i s c statement c' r' result, r.session i = some s →
        r.ask catalog i s c statement = some (c', r', result) →
        currentWorkspace (r'.setting c') = s.info := by
  have hpooled := (pooled_invariant catalog _).reachable h
  refine ⟨hpooled.free, fun i s c statement c' r' result hs hask => ?_⟩
  obtain ⟨connected, hconnect, heq⟩ := Option.map_eq_some_iff.mp hask
  cases heq
  exact (hpooled.connect hs hconnect).setting

def auditRow (id workspaceId : String) : Record :=
  ⟨"audit_events", id, [("workspace_id", workspaceId)]⟩

def snapshotRow (id workspaceId : String) : Record :=
  ⟨"postmortem_snapshots", id, [("workspace_id", workspaceId)]⟩

/-- A table as the migrations leave it to the runtime role. -/
def runtimeRelation (name : String) : Relation where
  relname := name
  relrowsecurity := true
  hasPolicy := true
  isOwner := false
  canAssumeOwner := false
  owner_member h := h
  hasRuntimeDml := true
  canTruncate := false

def runtimeCatalog : Catalog := ⟨false, false, false, false, false, tenantTables.map runtimeRelation⟩

def twoTenantRows : Records :=
  ⟨[auditRow "1" "workspace-a", auditRow "2" "workspace-b", snapshotRow "3" "workspace-a"],
    by decide⟩

/-- Rows of two workspaces, and a pool of one connection. -/
def twoTenants : Server Bool Unit where
  store := twoTenantRows
  setting _ := none
  holder _ := none
  lock _ := none
  session _ := none
  born := twoTenantRows.get?

/-- The server of the example begins with two tenants' rows. -/
theorem twoTenants_start : (serverSystem (ι := Bool) (γ := Unit) runtimeCatalog).init twoTenants :=
  ⟨rfl, rfl, rfl, fun _ => rfl, rfl⟩

/-- A session of `workspace-a` is about to read. -/
def readingServer : Server Bool Unit :=
  ((serverSystem runtimeCatalog).run twoTenants
    [.open true, .autobegin true, .setTenantContext true " workspace-a" ()]).get rfl

/-- It has read and committed, and another session is open. -/
def servedServer : Server Bool Unit :=
  ((serverSystem runtimeCatalog).run readingServer
    [.execute true () (.select fun _ => true), .commit true, .open false]).get rfl

/-- A session of one tenant that has begun to read. -/
theorem readingServer_reachable : Reachable (serverSystem runtimeCatalog) readingServer :=
  Reachable.of_run (.init twoTenants_start) (Option.some_get _).symm

/-- The connection of a closed session, taken by another. -/
theorem pool_never_leaks_served :
    servedServer.setting () = some "" ∧ ∃ c' r' result,
      servedServer.ask runtimeCatalog false .fresh () (.select fun _ => true) =
        some (c', r', result) ∧ currentWorkspace (r'.setting c') = none := by
  have hreach : Reachable (serverSystem runtimeCatalog) servedServer :=
    Reachable.of_run readingServer_reachable (Option.some_get _).symm
  refine ⟨rfl, _, _, _, rfl, ?_⟩
  exact (pool_never_leaks runtimeCatalog hreach).2 false .fresh () (.select fun _ => true) _ _ _ rfl rfl

/-! ## What the policies allow -/

/-- The workspace a row of a tenant table belongs to; feedback belongs to its incident's. -/
def workspaceOf (t : Records) (row : Record) : Option String :=
  if row.table ∈ directTenantTables then row.column "workspace_id"
  else if row.table ∈ indirectTenantTables then
    (row.column "incident_id").bind fun id =>
      (t.get? ("incidents", id)).bind fun incident => incident.column "workspace_id"
  else none

/-- A row of these tables names its workspace itself. -/
theorem workspaceOf_direct {t : Records} {row : Record} (h : row.table ∈ directTenantTables) :
    workspaceOf t row = row.column "workspace_id" := if_pos h

/-- A role the startup check accepts is subject to the policy of every tenant table. -/
theorem rowSecurityActive_of_accepted {row : Record}
    (haccept : requirePostgresqlRuntimeSecurity "postgresql" catalog = .ok ())
    (hrow : row.table ∈ tenantTables) :
    ∃ relation, catalog.relations.find? (fun relation => relation.relname = row.table) =
        some relation ∧ catalog.rowSecurityActive relation = true ∧ relation.hasPolicy = true := by
  simp only [requirePostgresqlRuntimeSecurity, bind_eq_ok, raiseIf_eq_ok] at haccept
  obtain ⟨_, -, _, hrole, _, -, _, hnames, hrows⟩ := haccept
  rw [not_not] at hnames
  obtain ⟨relation, hmem, hname⟩ := List.mem_map.mp (hnames row.table hrow)
  cases hfind : catalog.relations.find? (fun relation => relation.relname = row.table) with
  | none =>
    have hno := List.find?_eq_none.mp hfind relation (List.mem_of_mem_filter hmem)
    simp [hname] at hno
  | some found =>
    have hfound : found.relname = row.table := by simpa using List.find?_some hfind
    have hprotected : found ∈ catalog.protectedRows := by
      refine List.mem_filter.mpr ⟨List.mem_of_find?_eq_some hfind, ?_⟩
      rw [hfound]
      exact decide_eq_true hrow
    have hsafe : (!found.relrowsecurity || found.canAssumeOwner || !found.hasPolicy ||
        !found.hasRuntimeDml || found.canTruncate) = false := by
      rw [Bool.eq_false_iff]
      intro hunsafe
      exact hrows (List.any_eq_true.mpr ⟨found, hprotected, hunsafe⟩)
    simp only [Bool.or_eq_false_iff, Bool.not_eq_false'] at hsafe
    obtain ⟨⟨⟨⟨henabled, hmember⟩, hpolicy⟩, -⟩, -⟩ := hsafe
    have howner : found.isOwner = false := by
      rw [Bool.eq_false_iff]
      intro howner
      rw [found.owner_member howner] at hmember
      cases hmember
    simp only [not_or, Bool.not_eq_true] at hrole
    refine ⟨found, rfl, ?_, hpolicy⟩
    simp [Catalog.rowSecurityActive, henabled, hrole.1, hrole.2.1, howner]

/-- The policy's expression holds for rows of the current workspace. -/
theorem workspaceExpression_eq_true {current : Option String} {row : Record}
    (h : workspaceExpression current row = true) :
    ∃ w, current = some w ∧ row.column "workspace_id" = some w := by
  simp only [workspaceExpression, Bool.and_eq_true, beq_iff_eq] at h
  obtain ⟨w, hw⟩ := Option.isSome_iff_exists.mp h.1
  exact ⟨w, hw, h.2.trans hw⟩

/-- What a policy allows belongs to the current workspace. -/
theorem workspaceOf_of_allows {current : Option String} {t : Records} {row : Record}
    (haccept : requirePostgresqlRuntimeSecurity "postgresql" catalog = .ok ())
    (hrow : row.table ∈ tenantTables) (h : catalog.allows current t row = true) :
    ∃ w, current = some w ∧ workspaceOf t row = some w := by
  obtain ⟨relation, hfind, hactive, hpolicy⟩ := rowSecurityActive_of_accepted haccept hrow
  unfold Catalog.allows at h
  simp only [hfind, hactive, hpolicy, if_true, Bool.true_and] at h
  unfold workspaceOf
  split at h
  · next hdirect =>
    rw [if_pos hdirect]
    exact workspaceExpression_eq_true h
  · next hdirect =>
    rw [if_neg hdirect]
    split at h
    · next hindirect =>
      rw [if_pos hindirect]
      obtain ⟨incident, hmem, hmatch⟩ := List.any_eq_true.mp h
      simp only [Bool.and_eq_true, beq_iff_eq] at hmatch
      obtain ⟨⟨htable, hid⟩, hexpression⟩ := hmatch
      obtain ⟨w, hw, hcolumn⟩ := workspaceExpression_eq_true hexpression
      have hkey : Record.key incident = ("incidents", incident.id) := by
        rw [Record.key, htable]
      refine ⟨w, hw, ?_⟩
      rw [hid, Option.bind_some, ← hkey, Table.get?_of_mem hmem, Option.bind_some, hcolumn]
    · cases h

/-! ## Confinement -/

/-- The rows of tenant tables a statement returns, leaves and replaces are of the workspace
`info`; without one there are none. -/
structure Confined (info : Option String) (view : Records) (answer : Answer RecordKey Record) :
    Prop where
  rows : ∀ row ∈ answer.rows, row.table ∈ tenantTables →
    ∃ w, info = some w ∧ workspaceOf view row = some w
  left : ∀ row, .put row ∈ answer.changes → row.table ∈ tenantTables →
    ∃ w, info = some w ∧ workspaceOf view row = some w
  replaced : ∀ change ∈ answer.changes, ∀ row, view.get? (change.target Record.key) = some row →
    row.table ∈ tenantTables → ∃ w, info = some w ∧ workspaceOf view row = some w

/-- A statement under the policies is confined to its workspace. -/
theorem confined_of_execute {info : Option String} {view : Records}
    {statement : Statement Record.key} {answer : Answer RecordKey Record}
    (haccept : requirePostgresqlRuntimeSecurity "postgresql" catalog = .ok ())
    (h : (catalog.guard info).execute view statement = .ok answer) :
    Confined info view answer := by
  have hwithin := Guard.execute_within h
  refine ⟨fun row hrow htable => ?_, fun row hrow htable => ?_, fun change hchange row hrow htable => ?_⟩
  · exact workspaceOf_of_allows haccept htable (hwithin.rows row hrow)
  · exact workspaceOf_of_allows haccept htable (hwithin.put row hrow)
  · exact workspaceOf_of_allows haccept htable (hwithin.replaced change hchange row hrow).1

end DeployGuard.Service
