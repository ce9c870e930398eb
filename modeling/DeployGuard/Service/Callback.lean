import Mathlib.Logic.Function.Basic
import DeployGuard.Lib.Transition
import DeployGuard.Service.Revocation

/-!
# Callbacks side by side

`complete_github_installation` reads the state token first, asks GitHub, reads
the connections, and consumes the token with its last commit. Here the
statements of any number of callbacks interleave, in any order and with any
answers of GitHub; what a callback has read stays with it.

Nothing looks at the token again after the first read, so two callbacks that
both read it before either commits both succeed (`single_use_lost`).
`installation_state_single_use` is about the runs in which a callback that
commits finds its token not consumed.
-/

namespace DeployGuard.Service

open Raise Session Session.Call Transition

/-! ## The callbacks, statement by statement -/

/-- How far a callback has come, with what it has read. -/
inductive CallbackStage where
  | waiting
  | authorized (state : ProviderAuthorizationState)
  | answered (state : ProviderAuthorizationState) (account : InstallationAccount)
  | free (state : ProviderAuthorizationState) (account : InstallationAccount)
  | located (state : ProviderAuthorizationState) (account : InstallationAccount)
      (existing : Option ProviderConnection)
  | verified (state : ProviderAuthorizationState) (account : InstallationAccount)
      (existing : Option ProviderConnection) (signed : Bool)
  | failed (e : ServiceError)
  | succeeded (connection : ProviderConnection)

/-- The database and the callbacks in progress. -/
structure CallbackState (ι : Type) where
  store : Store
  stage : ι → CallbackStage

/-- A statement of one of the callbacks, or work that leaves the state tokens alone. -/
inductive CallbackAction (ι : Type) where
  | authorize (i : ι)
  | network (i : ι) (answer : Except ServiceError Items)
  | checkFree (i : ι)
  | locate (i : ι)
  | verify (i : ι)
  | commit (i : ι)
  | other (s' : Store)

/-- The callback an action is a statement of. -/
def CallbackAction.actor {ι : Type} : CallbackAction ι → Option ι
  | .authorize i | .network i _ | .checkFree i | .locate i | .verify i | .commit i => some i
  | .other _ => none

/-- The stage after a check: what it gives, or the failure. -/
def stageOf {α : Type} (next : α → CallbackStage) : Except ServiceError α → CallbackStage
  | .ok a => next a
  | .error e => .failed e

/-- The tokens of a database are in the other as they are. -/
def TokensKept (s s' : Store) : Prop :=
  ∀ row ∈ s.authorizationStates.rows, s'.authorizationStates.get? row.stateHash = some row

instance (s s' : Store) : Decidable (TokensKept s s') :=
  inferInstanceAs (Decidable (∀ row ∈ s.authorizationStates.rows, _ = _))

section Steps

variable {ι : Type} [DecidableEq ι]

namespace CallbackState

/-- A callback goes on. -/
def goTo (r : CallbackState ι) (i : ι) (stage : CallbackStage) : CallbackState ι :=
  { r with stage := Function.update r.stage i stage }

@[simp] theorem goTo_store (r : CallbackState ι) (i : ι) (stage : CallbackStage) :
    (r.goTo i stage).store = r.store := rfl

@[simp] theorem goTo_self (r : CallbackState ι) (i : ι) (stage : CallbackStage) :
    (r.goTo i stage).stage i = stage := Function.update_self ..

@[simp] theorem goTo_goTo (r : CallbackState ι) (i : ι) (stage stage' : CallbackStage) :
    (r.goTo i stage).goTo i stage' = r.goTo i stage' := by simp [goTo]

theorem goTo_ne (r : CallbackState ι) {i j : ι} (stage : CallbackStage) (h : j ≠ i) :
    (r.goTo i stage).stage j = r.stage j := Function.update_of_ne h ..

end CallbackState

/-- The account of GitHub's answer to a callback. -/
def networkAnswer (host : Host) (cb : InstallationCallback) (answer : Except ServiceError Items) :
    Except ServiceError InstallationAccount := do
  let installation ← githubAnswer cb.appAvailable answer
  readInstallation host installation

/-- The last commit of a callback: it links the installation and consumes the
token, or meets a constraint. -/
def commitCallback (cb : InstallationCallback) (r : CallbackState ι) (i : ι)
    (state : ProviderAuthorizationState) (account : InstallationAccount)
    (existing : Option ProviderConnection) (signed : Bool) : CallbackState ι :=
  match linkConnections cb state account existing signed r.store.connections with
  | .ok linked =>
    { r.goTo i (.succeeded linked.1) with store := saveInstallation cb state linked r.store }
  | .error e => r.goTo i (.failed e)

/-- Any number of callbacks, each with arguments of its own. -/
def callbackSystem (host : Host) (callback : ι → InstallationCallback) :
    System (CallbackState ι) (CallbackAction ι) where
  init r := r.stage = fun _ => .waiting
  next r
    | .authorize i =>
      match r.stage i with
      | .waiting => some (r.goTo i (stageOf .authorized (authorizeCallback host (callback i) r.store)))
      | _ => none
    | .network i answer =>
      match r.stage i with
      | .authorized state =>
        some (r.goTo i (stageOf (.answered state) (networkAnswer host (callback i) answer)))
      | _ => none
    | .checkFree i =>
      match r.stage i with
      | .answered state account =>
        some (r.goTo i (stageOf (fun _ => .free state account)
          (checkInstallationFree (callback i).installationId state.workspaceId r.store)))
      | _ => none
    | .locate i =>
      match r.stage i with
      | .free state account =>
        some (r.goTo i (.located state account (workspaceConnection r.store state.workspaceId)))
      | _ => none
    | .verify i =>
      match r.stage i with
      | .located state account existing =>
        some (r.goTo i (.verified state account existing
          (installationSigned r.store (callback i).installationId)))
      | _ => none
    | .commit i =>
      match r.stage i with
      | .verified state account existing signed =>
        some (commitCallback (callback i) r i state account existing signed)
      | _ => none
    | .other s' => if TokensKept r.store s' then some { r with store := s' } else none

/-! ## Single use -/

/-- The callback has succeeded. -/
def CallbackStage.isSucceeded : CallbackStage → Bool
  | .succeeded _ => true
  | _ => false

/-- The token a stage has read, if it is still under way. -/
def CallbackStage.token : CallbackStage → Option ProviderAuthorizationState
  | .authorized state | .answered state _ | .free state _ | .located state _ _
  | .verified state _ _ _ => some state
  | _ => none

/-- At most one callback succeeds with a token. -/
def SingleUse (host : Host) (callback : ι → InstallationCallback) (r : CallbackState ι) : Prop :=
  ∀ i j, (r.stage i).isSucceeded = true → (r.stage j).isSucceeded = true →
    tokenDigest host (callback i).rawState = tokenDigest host (callback j).rawState → i = j

/-- The token is consumed in the database. -/
def tokenConsumed (s : Store) (hash : String) : Bool :=
  (s.authorizationStates.get? hash).any fun row => row.consumedAt ≠ none

/-- A callback commits with a token that is consumed by then. -/
def Reused (host : Host) (callback : ι → InstallationCallback) (r : CallbackState ι) :
    CallbackAction ι → Prop
  | .commit i => tokenConsumed r.store (tokenDigest host (callback i).rawState) = true
  | _ => False

variable {host : Host} {callback : ι → InstallationCallback} {r r' : CallbackState ι}

/-- A callback moves on without a write: it is not done, before or after, and
its token is the one it had or the one the check has just read. -/
structure MovesOn (host : Host) (callback : ι → InstallationCallback) (r : CallbackState ι) (i : ι)
    (stage : CallbackStage) : Prop where
  before : (r.stage i).isSucceeded = false
  after : stage.isSucceeded = false
  token : ∀ state, stage.token = some state → (r.stage i).token = some state ∨
    authorizeCallback host (callback i) r.store = .ok state

omit [DecidableEq ι] in
theorem movesOn_stageOf {α : Type} {next : α → CallbackStage} {result : Except ServiceError α} {i : ι}
    (hbefore : (r.stage i).isSucceeded = false) (hafter : ∀ a, (next a).isSucceeded = false)
    (htoken : ∀ a state, result = .ok a → (next a).token = some state →
      (r.stage i).token = some state ∨ authorizeCallback host (callback i) r.store = .ok state) :
    MovesOn host callback r i (stageOf next result) := by
  cases result with
  | error e => exact ⟨hbefore, rfl, nofun⟩
  | ok a => exact ⟨hbefore, hafter a, fun state => htoken a state rfl⟩

/-- What one statement does. -/
theorem callback_step {action : CallbackAction ι}
    (h : (callbackSystem host callback).next r action = some r') :
    (∃ i stage, action.actor = some i ∧ r' = r.goTo i stage ∧ MovesOn host callback r i stage) ∨
    (∃ i state linked, action = .commit i ∧ (r.stage i).token = some state ∧
      (r.stage i).isSucceeded = false ∧
      r' = { r.goTo i (.succeeded linked.1) with
        store := saveInstallation (callback i) state linked r.store }) ∨
    ∃ s', action = .other s' ∧ TokensKept r.store s' ∧ r' = { r with store := s' } := by
  cases action with
  | authorize i =>
    cases hi : r.stage i with
    | waiting =>
      obtain rfl : r.goTo i _ = r' := by simpa [callbackSystem, hi] using h
      refine Or.inl ⟨i, _, rfl, rfl, movesOn_stageOf (by rw [hi]; rfl) (fun _ => rfl) ?_⟩
      -- the token is the one the authorization just found unconsumed
      intro a state ha h
      cases h
      exact Or.inr ha
    | _ => simp [callbackSystem, hi] at h
  | network i answer =>
    -- from here to the commit the callback keeps the token it authorized with
    cases hi : r.stage i with
    | authorized state =>
      obtain rfl : r.goTo i _ = r' := by simpa [callbackSystem, hi] using h
      refine Or.inl ⟨i, _, rfl, rfl, movesOn_stageOf (by rw [hi]; rfl) (fun _ => rfl) ?_⟩
      intro a state' _ htoken
      exact Or.inl (by rw [hi]; exact htoken)
    | _ => simp [callbackSystem, hi] at h
  | checkFree i =>
    cases hi : r.stage i with
    | answered state account =>
      obtain rfl : r.goTo i _ = r' := by simpa [callbackSystem, hi] using h
      refine Or.inl ⟨i, _, rfl, rfl, movesOn_stageOf (by rw [hi]; rfl) (fun _ => rfl) ?_⟩
      intro a state' _ htoken
      exact Or.inl (by rw [hi]; exact htoken)
    | _ => simp [callbackSystem, hi] at h
  | locate i =>
    cases hi : r.stage i with
    | free state account =>
      obtain rfl : r.goTo i _ = r' := by simpa [callbackSystem, hi] using h
      refine Or.inl ⟨i, _, rfl, rfl, by rw [hi]; rfl, rfl, fun state' htoken => Or.inl ?_⟩
      rw [hi]
      exact htoken
    | _ => simp [callbackSystem, hi] at h
  | verify i =>
    cases hi : r.stage i with
    | located state account existing =>
      obtain rfl : r.goTo i _ = r' := by simpa [callbackSystem, hi] using h
      refine Or.inl ⟨i, _, rfl, rfl, by rw [hi]; rfl, rfl, fun state' htoken => Or.inl ?_⟩
      rw [hi]
      exact htoken
    | _ => simp [callbackSystem, hi] at h
  | commit i =>
    cases hi : r.stage i with
    | verified state account existing signed =>
      obtain rfl : commitCallback (callback i) r i state account existing signed = r' := by
        simpa [callbackSystem, hi] using h
      -- the commit is the only statement that writes, and only when the rows still allow it
      unfold commitCallback
      split
      · next linked hlinked =>
        exact Or.inr (Or.inl ⟨i, state, linked, rfl, by rw [hi]; rfl, by rw [hi]; rfl, rfl⟩)
      · exact Or.inl ⟨i, _, rfl, rfl, by rw [hi]; rfl, rfl, nofun⟩
    | _ => simp [callbackSystem, hi] at h
  | other s' =>
    -- other requests are asked only to keep the rows of the tokens
    by_cases hkept : TokensKept r.store s'
    · obtain rfl : { r with store := s' } = r' := by simpa [callbackSystem, hkept] using h
      exact Or.inr (Or.inr ⟨s', rfl, hkept, rfl⟩)
    · simp [callbackSystem, hkept] at h

/-- The token of a callback that has succeeded is consumed; that of a callback
under way is there, and if it is consumed then by a callback that succeeded. -/
structure TokensAccounted (host : Host) (callback : ι → InstallationCallback)
    (r : CallbackState ι) : Prop where
  spent : ∀ i, (r.stage i).isSucceeded = true →
    tokenConsumed r.store (tokenDigest host (callback i).rawState) = true
  held : ∀ i state, (r.stage i).token = some state →
    state.stateHash = tokenDigest host (callback i).rawState ∧
      ∃ row, r.store.authorizationStates.get? (tokenDigest host (callback i).rawState) = some row ∧
        (row.consumedAt ≠ none → ∃ j, (r.stage j).isSucceeded = true ∧
          tokenDigest host (callback j).rawState = tokenDigest host (callback i).rawState)

/-- The token a check lets through is there and not consumed. -/
theorem authorizeCallback_ok {cb : InstallationCallback} {s : Store}
    {state : ProviderAuthorizationState} (h : authorizeCallback host cb s = .ok state) :
    s.authorizationStates.get? (tokenDigest host cb.rawState) = some state ∧
      state.consumedAt = none := by
  obtain ⟨state', hstate, h⟩ := Raise.bind_eq_ok.mp h
  obtain ⟨-, -, h⟩ := Raise.bind_eq_ok.mp h
  obtain rfl := Raise.pure_eq_ok.mp h
  unfold validState at hstate
  split at hstate
  · next row hget =>
    split at hstate
    · next hvalid =>
      obtain rfl := Except.ok.inj hstate
      exact ⟨hget, hvalid.2.1⟩
    · cases hstate
  · cases hstate

/-- What the last commit does to a token. -/
theorem saveInstallation_token {cb : InstallationCallback} {state : ProviderAuthorizationState}
    {linked : ProviderConnection × Table ProviderConnection.id} {s : Store} (hash : String) :
    (saveInstallation cb state linked s).authorizationStates.get? hash =
      (s.authorizationStates.get? hash).map fun row =>
        if hash = state.stateHash then consume cb.now row else row :=
  Table.get?_updateKey s.authorizationStates state.stateHash _ (consume_stateHash cb.now) hash

theorem tokenConsumed_iff {s : Store} {hash : String} : tokenConsumed s hash = true ↔
    ∃ row, s.authorizationStates.get? hash = some row ∧ row.consumedAt ≠ none := by
  unfold tokenConsumed
  cases s.authorizationStates.get? hash with
  | none => exact iff_of_false nofun fun ⟨_, h, _⟩ => nomatch h
  | some row => simp

/-- The last commit consumes its token and leaves the consumed ones consumed. -/
theorem tokenConsumed_save {cb : InstallationCallback} {state : ProviderAuthorizationState}
    {linked : ProviderConnection × Table ProviderConnection.id} {s : Store} {hash : String}
    {row : ProviderAuthorizationState} (hget : s.authorizationStates.get? hash = some row)
    (h : hash = state.stateHash ∨ row.consumedAt ≠ none) :
    tokenConsumed (saveInstallation cb state linked s) hash = true := by
  rw [tokenConsumed_iff, saveInstallation_token, hget, Option.map_some]
  refine ⟨_, rfl, ?_⟩
  by_cases hhash : hash = state.stateHash
  · rw [if_pos hhash]
    exact Option.some_ne_none _
  · rw [if_neg hhash]
    exact h.resolve_left hhash

theorem TokensKept.get? {s s' : Store} {hash : String} {row : ProviderAuthorizationState}
    (h : TokensKept s s') (hget : s.authorizationStates.get? hash = some row) :
    s'.authorizationStates.get? hash = some row := by
  rw [← Table.key_of_get? hget]
  exact h row (Table.mem_of_get? hget)

theorem tokensAccounted_step {action : CallbackAction ι} (hr : TokensAccounted host callback r)
    (h : (callbackSystem host callback).next r action = some r') :
    TokensAccounted host callback r' := by
  rcases callback_step h with ⟨i, stage, -, rfl, hmoves⟩ |
    ⟨i, state, linked, -, htoken, hbefore, rfl⟩ | ⟨s', -, hkept, rfl⟩
  · -- whoever has succeeded has still succeeded
    have hsucceeded : ∀ j, (r.stage j).isSucceeded = true ↔
        ((r.goTo i stage).stage j).isSucceeded = true := by
      intro j
      by_cases hj : j = i
      · subst hj
        rw [r.goTo_self, hmoves.before, hmoves.after]
      · rw [r.goTo_ne stage hj]
    refine ⟨fun j hj => hr.spent j ((hsucceeded j).mpr hj), fun j state hstate => ?_⟩
    simp only [← hsucceeded]
    by_cases hj : j = i
    · subst hj
      rw [r.goTo_self] at hstate
      rcases hmoves.token state hstate with hheld | hread
      · exact hr.held j state hheld
      · obtain ⟨hget, hnew⟩ := authorizeCallback_ok hread
        exact ⟨Table.key_of_get? hget, state, hget, fun hconsumed => absurd hnew hconsumed⟩
    · rw [r.goTo_ne stage hj] at hstate
      exact hr.held j state hstate
  · obtain ⟨hhash, row, hget, -⟩ := hr.held i state htoken
    -- this callback has succeeded now, and whoever had succeeded before
    have hown : ((r.goTo i (.succeeded linked.1)).stage i).isSucceeded = true := by
      rw [r.goTo_self]
      rfl
    have hstill : ∀ j, (r.stage j).isSucceeded = true →
        ((r.goTo i (.succeeded linked.1)).stage j).isSucceeded = true := by
      intro j hj
      by_cases hji : j = i
      · rwa [hji]
      · rwa [r.goTo_ne _ hji]
    refine ⟨fun j hj => ?_, fun j state' hstate => ?_⟩
    · by_cases hji : j = i
      · subst hji
        exact tokenConsumed_save hget (Or.inl hhash.symm)
      · obtain ⟨row', hget', hconsumed⟩ :=
          tokenConsumed_iff.mp (hr.spent j (by rwa [r.goTo_ne _ hji] at hj))
        exact tokenConsumed_save hget' (Or.inr hconsumed)
    · have hji : j ≠ i := by
        intro h
        obtain rfl := h
        rw [r.goTo_self] at hstate
        cases hstate
      rw [r.goTo_ne _ hji] at hstate
      obtain ⟨hhash', row', hget', hrow'⟩ := hr.held j state' hstate
      refine ⟨hhash', _, by rw [saveInstallation_token, hget', Option.map_some], fun hconsumed => ?_⟩
      by_cases hsame : tokenDigest host (callback j).rawState = state.stateHash
      · exact ⟨i, hown, (hsame.trans hhash).symm⟩
      · rw [if_neg hsame] at hconsumed
        obtain ⟨k, hk, hdigest⟩ := hrow' hconsumed
        exact ⟨k, hstill k hk, hdigest⟩
  · refine ⟨fun j hj => ?_, fun j state hstate => ?_⟩
    · obtain ⟨row, hget, hconsumed⟩ := tokenConsumed_iff.mp (hr.spent j hj)
      exact tokenConsumed_iff.mpr ⟨row, hkept.get? hget, hconsumed⟩
    · obtain ⟨hhash, row, hget, hrow⟩ := hr.held j state hstate
      exact ⟨hhash, row, hkept.get? hget, hrow⟩

theorem tokensAccounted_reachable {C : CallbackState ι → CallbackAction ι → Prop}
    (h : ReachableBy (callbackSystem host callback) C r) : TokensAccounted host callback r := by
  refine Invariant.reachable ⟨fun r hinit => ?_, fun r action r' hr _ hstep => ?_⟩ h
  · have hwaiting : r.stage = fun _ => .waiting := hinit
    refine ⟨fun i hi => ?_, fun i state hstate => ?_⟩
    · rw [hwaiting] at hi
      cases hi
    · rw [hwaiting] at hstate
      cases hstate
  · exact tokensAccounted_step hr hstep

/-- A statement that does not commit with a consumed token keeps the use single. -/
theorem singleUse_step {action : CallbackAction ι} (hr : TokensAccounted host callback r)
    (hsingle : SingleUse host callback r)
    (h : (callbackSystem host callback).next r action = some r')
    (hfresh : ¬Reused host callback r action) : SingleUse host callback r' := by
  rcases callback_step h with ⟨i, stage, -, rfl, hmoves⟩ |
    ⟨i, state, linked, rfl, -, -, rfl⟩ | ⟨s', -, -, rfl⟩
  · intro j k hj hk hsame
    have hdone : ∀ j, ((r.goTo i stage).stage j).isSucceeded = true →
        (r.stage j).isSucceeded = true := by
      intro j hj
      by_cases hji : j = i
      · subst hji
        rw [r.goTo_self, hmoves.after] at hj
        cases hj
      · rwa [r.goTo_ne stage hji] at hj
    exact hsingle j k (hdone j hj) (hdone k hk) hsame
  · -- one that had succeeded with the token would have consumed it
    have hfirst : ∀ j, ((r.goTo i (.succeeded linked.1)).stage j).isSucceeded = true →
        tokenDigest host (callback i).rawState = tokenDigest host (callback j).rawState → j = i := by
      intro j hj hsame
      by_contra hji
      rw [r.goTo_ne _ hji] at hj
      exact hfresh (show tokenConsumed r.store _ = true by rw [hsame]; exact hr.spent j hj)
    intro j k hj hk hsame
    by_cases hji : j = i
    · subst hji
      exact (hfirst k hk hsame).symm
    · by_cases hki : k = i
      · subst hki
        exact hfirst j hj hsame.symm
      · have hj' : ((r.goTo i (.succeeded linked.1)).stage j).isSucceeded = true := hj
        have hk' : ((r.goTo i (.succeeded linked.1)).stage k).isSucceeded = true := hk
        rw [r.goTo_ne _ hji] at hj'
        rw [r.goTo_ne _ hki] at hk'
        exact hsingle j k hj' hk' hsame
  · exact hsingle

/-- A commit that succeeds with a consumed token is the second one. -/
theorem fresh_of_singleUse {i : ι} (hr : TokensAccounted host callback r)
    (hsingle : SingleUse host callback r')
    (h : (callbackSystem host callback).next r (.commit i) = some r')
    (hsucceeded : (r'.stage i).isSucceeded = true) : ¬Reused host callback r (.commit i) := by
  intro hreused
  obtain ⟨row, hget, hconsumed⟩ := tokenConsumed_iff.mp hreused
  rcases callback_step h with ⟨j, stage, hactor, rfl, hmoves⟩ |
    ⟨j, state, linked, haction, htoken, hbefore, rfl⟩ | ⟨s', haction, -, -⟩
  · obtain rfl : i = j := Option.some.inj hactor
    rw [r.goTo_self, hmoves.after] at hsucceeded
    cases hsucceeded
  · obtain rfl : i = j := by simpa using haction
    obtain ⟨-, row', hget', hrow'⟩ := hr.held i state htoken
    obtain rfl := Option.some.inj (hget.symm.trans hget')
    obtain ⟨k, hk, hsame⟩ := hrow' hconsumed
    have hki : k ≠ i := by
      intro h
      obtain rfl := h
      rw [hbefore] at hk
      cases hk
    refine hki (hsingle k i ?_ hsucceeded hsame)
    show ((r.goTo i (.succeeded linked.1)).stage k).isSucceeded = true
    rwa [r.goTo_ne _ hki]
  · cases haction

/-- **Single use.** In a run in which every callback that commits finds its token
not consumed, at most one callback succeeds with a token; in the states of such
a run a commit that succeeds keeps it so exactly if it finds the token not
consumed; and nothing but such a commit writes. -/
theorem installation_state_single_use
    (h : ReachableBy (callbackSystem host callback)
      (fun r action => ¬Reused host callback r action) r) :
    SingleUse host callback r ∧
    (∀ i r', (callbackSystem host callback).next r (.commit i) = some r' →
      (r'.stage i).isSucceeded = true →
        (SingleUse host callback r' ↔ ¬Reused host callback r (.commit i))) ∧
    ∀ action r', (callbackSystem host callback).next r action = some r' → r'.store ≠ r.store →
      (∃ s', action = .other s') ∨ ∃ i, action = .commit i ∧ (r'.stage i).isSucceeded = true := by
  -- Both facts are kept by a step that commits no token twice.
  have hsingle : SingleUse host callback r := by
    have hinv : Invariant (callbackSystem host callback)
        (fun r action => ¬Reused host callback r action)
        (fun r => TokensAccounted host callback r ∧ SingleUse host callback r) :=
      { init := by
          intro r hinit
          refine ⟨tokensAccounted_reachable (C := fun _ _ => True) (.init hinit), ?_⟩
          intro i j hi
          rw [show r.stage = _ from hinit] at hi
          cases hi
        step := fun r action r' ⟨hr, hsingle⟩ hfresh hstep =>
          ⟨tokensAccounted_step hr hstep, singleUse_step hr hsingle hstep hfresh⟩ }
    exact (hinv.reachable h).2
  have hr := tokensAccounted_reachable h
  refine ⟨hsingle, fun i r' hstep hsucceeded => ?_, fun action r' hstep hwrites => ?_⟩
  · exact ⟨fun hsingle' => fresh_of_singleUse hr hsingle' hstep hsucceeded,
      singleUse_step hr hsingle hstep⟩
  · -- only two kinds of step write at all
    rcases callback_step hstep with ⟨i, stage, -, rfl, -⟩ | ⟨i, state, linked, rfl, -, -, rfl⟩ |
      ⟨s', rfl, -, -⟩
    · exact absurd rfl hwrites
    · refine Or.inr ⟨i, rfl, ?_⟩
      show ((r.goTo i _).stage i).isSucceeded = true
      rw [r.goTo_self]
      rfl
    · exact Or.inl ⟨s', rfl⟩

/-! ## One callback alone -/

/-- A callback alone up to the answer of GitHub. -/
theorem run_answered {i : ι} {state : ProviderAuthorizationState} {answer : Except ServiceError Items}
    (h : r.stage i = .waiting) (hstate : authorizeCallback host (callback i) r.store = .ok state) :
    (callbackSystem host callback).run r [.authorize i, .network i answer] =
      some (r.goTo i (stageOf (.answered state) (networkAnswer host (callback i) answer))) := by
  simp [System.run, callbackSystem, h, hstate, stageOf]

/-- A callback alone up to its last commit. -/
theorem run_verified {i : ι} {state : ProviderAuthorizationState} {account : InstallationAccount}
    {answer : Except ServiceError Items} (h : r.stage i = .waiting)
    (hstate : authorizeCallback host (callback i) r.store = .ok state)
    (haccount : networkAnswer host (callback i) answer = .ok account)
    (hfree : checkInstallationFree (callback i).installationId state.workspaceId r.store = .ok ()) :
    (callbackSystem host callback).run r
        [.authorize i, .network i answer, .checkFree i, .locate i, .verify i, .commit i] =
      some (commitCallback (callback i) (r.goTo i (.verified state account
        (workspaceConnection r.store state.workspaceId)
        (installationSigned r.store (callback i).installationId))) i state account
        (workspaceConnection r.store state.workspaceId)
        (installationSigned r.store (callback i).installationId)) := by
  simp [System.run, callbackSystem, h, hstate, haccount, hfree, stageOf]

/-- The callback alone: its statements one after another do what
`complete_github_installation` does, and end in its result. -/
theorem callback_alone {i : ι} (h : r.stage i = .waiting) (answer : Except ServiceError Items) :
    ∃ actions r', (callbackSystem host callback).run r actions = some r' ∧
      r'.store = ((completeGithubInstallation host (callback i) answer).run r.store).2 ∧
      r'.stage i =
        stageOf .succeeded ((completeGithubInstallation host (callback i) answer).run r.store).1 := by
  unfold completeGithubInstallation
  cases hstate : authorizeCallback host (callback i) r.store with
  | error e =>
    rw [run_def, query_error_bind hstate]
    -- each refusal ends the run at the statement that made it
    refine ⟨[.authorize i], r.goTo i (.failed e), ?_, rfl, r.goTo_self ..⟩
    simp [System.run, callbackSystem, h, hstate, stageOf]
  | ok state =>
  rw [run_def, query_ok_bind hstate]
  cases hanswer : githubAnswer (callback i).appAvailable answer with
  | error e =>
    rw [Call.lift_error_bind rfl]
    refine ⟨[.authorize i, .network i answer], r.goTo i (.failed e), ?_, rfl, r.goTo_self ..⟩
    rw [run_answered h hstate, networkAnswer, hanswer]
    rfl
  | ok installation =>
  rw [Call.lift_ok_bind rfl]
  cases haccount : readInstallation host installation with
  | error e =>
    rw [Call.lift_error_bind rfl]
    refine ⟨[.authorize i, .network i answer], r.goTo i (.failed e), ?_, rfl, r.goTo_self ..⟩
    rw [run_answered h hstate, networkAnswer, hanswer, Raise.bind_ok, haccount]
    rfl
  | ok account =>
  have hanswered : networkAnswer host (callback i) answer = .ok account := by
    rw [networkAnswer, hanswer, Raise.bind_ok, haccount]
  rw [Call.lift_ok_bind rfl]
  cases hfree : checkInstallationFree (callback i).installationId state.workspaceId r.store with
  | error e =>
    rw [query_error_bind hfree]
    refine ⟨[.authorize i, .network i answer, .checkFree i], r.goTo i (.failed e), ?_, rfl,
      r.goTo_self ..⟩
    simp [System.run, callbackSystem, h, hstate, hanswered, hfree, stageOf]
  | ok u =>
  rw [query_ok_bind hfree, read_bind_apply, read_bind_apply]
  -- nobody else writes, so the commit links against the rows that were verified
  refine ⟨_, _, run_verified h hstate hanswered hfree, ?_⟩
  unfold commitCallback
  cases hlinked : linkConnections (callback i) state account
      (workspaceConnection r.store state.workspaceId)
      (installationSigned r.store (callback i).installationId) r.store.connections with
  | error e =>
    rw [query_error_bind hlinked, CallbackState.goTo_store, hlinked]
    exact ⟨rfl, CallbackState.goTo_self ..⟩
  | ok linked =>
    rw [query_ok_bind hlinked, CallbackState.goTo_store, hlinked]
    exact ⟨rfl, CallbackState.goTo_self ..⟩

end Steps

/-! ## Two callbacks with one token -/

/-- The first callback brings installation 77, the second installation 78. -/
def acmeCallbacks (second : Bool) : InstallationCallback :=
  { acmeCallback with
    installationId := if second then "78" else "77"
    newId := if second then "pc-2" else "pc-1" }

/-- The database once an administrator has begun an installation. -/
def begunStore : Store :=
  ((beginGithubInstallation asciiHost (acmeRequest 0) "token").run acmeStore).2

def begunState : CallbackState Bool := ⟨begunStore, fun _ => .waiting⟩

/-- The statements of a callback after its first. -/
def finishCallback (i : Bool) : List (CallbackAction Bool) :=
  [.network i (.ok acmeInstallation), .checkFree i, .locate i, .verify i, .commit i]

/-- Both have read the token before either commits. -/
def racingCallbacks : List (CallbackAction Bool) :=
  [.authorize false, .authorize true] ++ finishCallback false ++ finishCallback true

/-- Both succeed, and the connection is moved from the one installation to the other. -/
theorem single_use_lost :
    ∃ r, Reachable (callbackSystem asciiHost acmeCallbacks) r ∧
      (∀ second, (acmeCallbacks second).rawState = "token") ∧
      (r.stage false).isSucceeded = true ∧ (r.stage true).isSucceeded = true ∧
      r.store.connections.rows.map (·.installationId) = ["78"] ∧
      ¬SingleUse asciiHost acmeCallbacks r := by
  have hend : ((callbackSystem asciiHost acmeCallbacks).run begunState racingCallbacks).map
      (fun r => ((r.stage false).isSucceeded, (r.stage true).isSucceeded,
        r.store.connections.rows.map (·.installationId))) = some (true, true, ["78"]) := by
    decide +kernel
  obtain ⟨r, hrun, hend⟩ := Option.map_eq_some_iff.mp hend
  simp only [Prod.mk.injEq] at hend
  obtain ⟨hfirst, hsecond, hinstallation⟩ := hend
  refine ⟨r, Reachable.of_run (.init (show _ = _ from rfl)) hrun, fun _ => rfl, hfirst, hsecond,
    hinstallation, fun hsingle => ?_⟩
  exact absurd (hsingle false true hfirst hsecond rfl) (by decide)

/-- The first callback alone. -/
theorem installation_state_single_use_first :
    ∃ r, (r.stage false).isSucceeded = true ∧ SingleUse asciiHost acmeCallbacks r := by
  let S := callbackSystem asciiHost acmeCallbacks
  let early : List (CallbackAction Bool) :=
    [.authorize false, .network false (.ok acmeInstallation), .checkFree false, .locate false,
      .verify false]
  have hend : ((S.run begunState early).bind fun r => (S.next r (.commit false)).map fun r' =>
      (tokenConsumed r.store (tokenDigest asciiHost "token"), (r'.stage false).isSucceeded)) =
      some (false, true) := by decide +kernel
  obtain ⟨r, hrun, hend⟩ := Option.bind_eq_some_iff.mp hend
  obtain ⟨r', hnext, hend⟩ := Option.map_eq_some_iff.mp hend
  obtain ⟨hfresh, hsucceeded⟩ := Prod.mk.inj hend
  have hstart : ReachableBy S (fun r action => ¬Reused asciiHost acmeCallbacks r action)
      begunState := .init (show _ = _ from rfl)
  have hreach : ReachableBy S (fun r action => ¬Reused asciiHost acmeCallbacks r action) r := by
    refine hstart.of_run (fun action haction t => ?_) hrun
    simp only [early, List.mem_cons, List.not_mem_nil, or_false] at haction
    rcases haction with rfl | rfl | rfl | rfl | rfl <;> exact not_false
  refine ⟨r', hsucceeded, (installation_state_single_use (hreach.step ?_ hnext)).1⟩
  show ¬tokenConsumed r.store _ = true
  rw [Bool.not_eq_true]
  exact hfresh

end DeployGuard.Service
