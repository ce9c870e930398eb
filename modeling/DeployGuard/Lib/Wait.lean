import DeployGuard.Lib.Transition
import Mathlib.Data.List.Basic

/-!
# Waiting for a turn

Something in a system waits, and some of the system's steps are turns. `rank` counts the
turns that may go to others first. Where no step raises the rank and each turn either
ends the wait or lowers the rank, the wait ends after at most as many turns as the rank
says:

> `Wait.run`: a run either ends the wait after at most `rank` turns that went to others,
> or it is still going on, and each of its turns has come off the rank.
-/

namespace Transition

variable {σ α : Type*}

/-- A wait that is never prolonged: a step meeting `C` ends it, or it goes on and the
turns ahead are fewer by the turn the step takes. -/
structure Wait (S : System σ α) (C : α → Prop) (waits : σ → Prop) (turn : α → Bool)
    (ends : σ → α → Prop) (rank : σ → Nat) : Prop where
  step : ∀ s a s', waits s → C a → S.next s a = some s' →
    ends s a ∨ (waits s' ∧ rank s' + (if turn a then 1 else 0) ≤ rank s)

variable {S : System σ α} {C : α → Prop} {waits : σ → Prop} {turn : α → Bool}
  {ends : σ → α → Prop} {rank : σ → Nat}

theorem Wait.run (h : Wait S C waits turn ends rank) : ∀ (as : List α) (s s' : σ), waits s →
    (∀ a ∈ as, C a) → S.run s as = some s' →
    (waits s' ∧ rank s' + as.countP turn ≤ rank s) ∨
    ∃ before a after t, as = before ++ a :: after ∧ S.run s before = some t ∧ waits t ∧
      ends t a ∧ rank t + before.countP turn ≤ rank s := by
  intro as
  induction as with
  | nil =>
    intro s s' hwaits _ hrun
    rw [S.run_nil, Option.some.injEq] at hrun
    subst hrun
    exact Or.inl ⟨hwaits, Nat.le_refl _⟩
  | cons a as ih =>
    intro s s' hwaits hC hrun
    obtain ⟨t, ht, hrest⟩ := S.run_cons_eq_some.mp hrun
    rcases h.step s a t hwaits (hC a (List.mem_cons_self ..)) ht with hends | ⟨hwaits', hrank⟩
    · exact Or.inr ⟨[], a, as, s, rfl, rfl, hwaits, hends, Nat.le_refl _⟩
    · rcases ih t s' hwaits' (fun b hb => hC b (List.mem_cons_of_mem a hb)) hrest with
        ⟨hend, hle⟩ | ⟨before, b, after, u, rfl, hbefore, hu, hends, hle⟩
      · refine Or.inl ⟨hend, ?_⟩
        rw [List.countP_cons]
        omega
      · refine Or.inr ⟨a :: before, b, after, u, rfl, ?_, hu, hends, ?_⟩
        · exact S.run_cons_eq_some.mpr ⟨t, ht, hbefore⟩
        · rw [List.countP_cons]
          omega

end Transition
