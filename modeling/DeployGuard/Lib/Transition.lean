import Mathlib.Data.Option.Basic

/-!
# Deterministic labelled transition systems

A system is a set of start states and a partial step function. Every choice an
environment makes (which party moves, what a clock shows, how a database breaks
a tie) is part of the label, so a run is a list of labels and can be evaluated.

`ReachableBy S C` are the states reached by the runs "all of whose steps meet
the condition `C`", a condition on a label and the state it is taken in;
`Reachable S` puts no condition. The two rules the later modules use are here
once:

> `Invariant.reachable`: what holds at the start and is kept by each step that
> meets `C` holds in every state such runs reach;

> `Reachable.of_run`: the state an evaluated run ends in is reachable, which
> turns a concrete trace into a statement about reachable states.
-/

namespace Transition

variable {σ α : Type*}

/-- Start states and a partial step function on labels. -/
structure System (σ α : Type*) where
  init : σ → Prop
  next : σ → α → Option σ

/-- The states a run reaches whose steps all meet `C`. -/
inductive ReachableBy (S : System σ α) (C : σ → α → Prop) : σ → Prop
  | init {s : σ} : S.init s → ReachableBy S C s
  | step {s s' : σ} {a : α} : ReachableBy S C s → C s a → S.next s a = some s' →
      ReachableBy S C s'

/-- The states some run reaches. -/
abbrev Reachable (S : System σ α) : σ → Prop := ReachableBy S fun _ _ => True

/-- Take the steps of a list of labels in order. -/
def System.run (S : System σ α) : σ → List α → Option σ
  | s, [] => some s
  | s, a :: as => (S.next s a).bind fun s' => S.run s' as

@[simp] theorem System.run_nil (S : System σ α) (s : σ) : S.run s [] = some s := rfl

/-- A run that begins with `a` takes that step and goes on from where it ends. -/
theorem System.run_cons_eq_some {S : System σ α} {s s'' : σ} {a : α} {as : List α} :
    S.run s (a :: as) = some s'' ↔ ∃ s', S.next s a = some s' ∧ S.run s' as = some s'' := by
  rw [show S.run s (a :: as) = (S.next s a).bind fun s' => S.run s' as from rfl,
    Option.bind_eq_some_iff]

/-- A property that holds at the start and that every step meeting `C` keeps. -/
structure Invariant (S : System σ α) (C : σ → α → Prop) (I : σ → Prop) : Prop where
  init : ∀ s, S.init s → I s
  step : ∀ s a s', I s → C s a → S.next s a = some s' → I s'

theorem Invariant.reachable {S : System σ α} {C : σ → α → Prop} {I : σ → Prop}
    (h : Invariant S C I) {s : σ} (hs : ReachableBy S C s) : I s := by
  induction hs with
  | init h0 => exact h.init _ h0
  | step _ hC hstep ih => exact h.step _ _ _ ih hC hstep

/-- A relation between the state before and after that holds of no step at all
and of one more step holds of every run. -/
theorem System.run_induction {S : System σ α} {R : σ → σ → Prop} (hrefl : ∀ s, R s s)
    (hstep : ∀ s t a u, R s t → S.next t a = some u → R s u) :
    ∀ {as : List α} {s s' : σ}, S.run s as = some s' → R s s' := by
  intro as s s' hrun
  suffices h : ∀ (as : List α) (t : σ), R s t → S.run t as = some s' → R s s' from
    h as s (hrefl s) hrun
  intro as
  induction as with
  | nil =>
    intro t ht hrun
    rw [S.run_nil, Option.some.injEq] at hrun
    exact hrun ▸ ht
  | cons a as ih =>
    intro t ht hrun
    obtain ⟨u, hu, hrest⟩ := S.run_cons_eq_some.mp hrun
    exact ih u (hstep s t a u ht hu) hrest

/-- The state a run ends in, where its labels meet `C` in any state. -/
theorem ReachableBy.of_run {S : System σ α} {C : σ → α → Prop} {s s' : σ} {as : List α}
    (hs : ReachableBy S C s) (hC : ∀ a ∈ as, ∀ t, C t a) (h : S.run s as = some s') :
    ReachableBy S C s' := by
  induction as generalizing s with
  | nil =>
    rw [S.run_nil, Option.some.injEq] at h
    exact h ▸ hs
  | cons a as ih =>
    obtain ⟨t, ht, hrest⟩ := S.run_cons_eq_some.mp h
    have hnext : ReachableBy S C t := hs.step (hC a (List.mem_cons_self ..) s) ht
    exact ih hnext (fun b hb => hC b (List.mem_cons_of_mem a hb)) hrest

theorem Reachable.of_run {S : System σ α} {s s' : σ} {as : List α} (hs : Reachable S s)
    (h : S.run s as = some s') : Reachable S s' :=
  ReachableBy.of_run hs (fun _ _ _ => trivial) h

end Transition
