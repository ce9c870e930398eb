import DeployGuard.Lib.Session

/-!
# Calls that do not see a part of the store

Two stores are related when they agree on what a call may look at. A call is
blind to the rest if from related sessions it ends with the same result, in
related sessions.

> `Blind.run`: run on related stores, a blind call gives the same result and
leaves related stores.

There is one rule for each statement; a read must give the same on related
stores, and a write must keep them related.
-/

namespace Session

variable {σ ε α β : Type} {R : σ → σ → Prop}

/-- Sessions on related stores. -/
structure State.Agree (R : σ → σ → Prop) (s s' : State σ) : Prop where
  base : R s.base s'.base
  cur : R s.cur s'.cur

theorem State.Agree.start {store store' : σ} (h : R store store') :
    (State.start store).Agree R (State.start store') := ⟨h, h⟩

/-- From related sessions the call gives the same result, and ends in related sessions. -/
def Blind (R : σ → σ → Prop) (c : Call σ ε α) : Prop :=
  ∀ s s', State.Agree R s s' → (c s).1 = (c s').1 ∧ State.Agree R (c s).2 (c s').2

namespace Blind

variable {c : Call σ ε α} {f : α → Call σ ε β}

theorem pure (a : α) : Blind R (Pure.pure a : Call σ ε α) := fun _ _ h => ⟨rfl, h⟩

theorem raise (e : ε) : Blind R (Call.raise e : Call σ ε α) := fun _ _ h => ⟨rfl, h⟩

theorem lift (x : Except ε α) : Blind R (Call.lift x) := fun _ _ h => ⟨rfl, h⟩

theorem read {g : σ → α} (hg : ∀ t t', R t t' → g t = g t') :
    Blind R (Call.read g : Call σ ε α) := by
  intro s s' h
  refine ⟨?_, h⟩
  show Except.ok (g s.cur) = .ok (g s'.cur)
  rw [hg _ _ h.cur]

theorem query {g : σ → Except ε α} (hg : ∀ t t', R t t' → g t = g t') :
    Blind R (Call.query g) := fun _ _ h => ⟨hg _ _ h.cur, h⟩

theorem write {g : σ → σ} (hg : ∀ t t', R t t' → R (g t) (g t')) :
    Blind R (Call.write g : Call σ ε Unit) := fun _ _ h => ⟨rfl, h.base, hg _ _ h.cur⟩

theorem commit : Blind R (Call.commit : Call σ ε Unit) := fun _ _ h => ⟨rfl, h.cur, h.cur⟩

theorem rollback : Blind R (Call.rollback : Call σ ε Unit) := fun _ _ h => ⟨rfl, h.base, h.base⟩

/-- The rest sees the same result, so it runs as the same call. -/
theorem bind (hc : Blind R c) (hf : ∀ a, Blind R (f a)) : Blind R (c >>= f) := by
  intro s s' h
  obtain ⟨hresult, hagree⟩ := hc s s' h
  cases hs : c s with
  | mk result t =>
    cases hs' : c s' with
    | mk result' t' =>
      rw [hs, hs'] at hresult hagree
      obtain rfl : result = result' := hresult
      cases result with
      | ok a =>
        rw [Call.bind_of_ok hs, Call.bind_of_ok hs']
        exact hf a t t' hagree
      | error e =>
        rw [Call.bind_of_error hs, Call.bind_of_error hs']
        exact ⟨rfl, hagree⟩

/-- A computed value may be used with where it comes from. -/
theorem lift_bind {x : Except ε α} (hf : ∀ a, x = .ok a → Blind R (f a)) :
    Blind R (Call.lift x >>= f) := by
  cases x with
  | ok a => exact hf a rfl
  | error e => exact raise e

theorem rescue {handler : Call σ ε Unit} (hc : Blind R c) (hh : Blind R handler) :
    Blind R (Call.rescue c handler) := by
  intro s s' h
  obtain ⟨hresult, hagree⟩ := hc s s' h
  unfold Call.rescue
  cases hs : c s with
  | mk result t =>
    cases hs' : c s' with
    | mk result' t' =>
      rw [hs, hs'] at hresult hagree
      obtain rfl : result = result' := hresult
      cases result with
      | ok a => exact ⟨rfl, hagree⟩
      | error e =>
        have hhandled : Blind R (do Call.rollback; handler; Call.raise e : Call σ ε α) :=
          rollback.bind fun _ => hh.bind fun _ => raise e
        exact hhandled t t' hagree

theorem run (hc : Blind R c) {store store' : σ} (h : R store store') :
    (c.run store).1 = (c.run store').1 ∧ R (c.run store).2 (c.run store').2 := by
  obtain ⟨hresult, hagree⟩ := hc _ _ (.start h)
  rw [Call.run_def, Call.run_def]
  exact ⟨hresult, hagree.base⟩

end Blind

end Session
