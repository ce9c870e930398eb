import Mathlib.Logic.Basic

/-!
# Code that raises

A Python function that may raise is an `Except`. `raiseIf c e` is the statement
`if c: raise e`; the lemmas invert a call that returned, statement by statement,
so that no proof unfolds the monad.
-/

namespace Raise

variable {ε α β : Type}

/-- `if c: raise e`. -/
def raiseIf (c : Prop) [Decidable c] (e : ε) : Except ε Unit :=
  if c then .error e else .ok ()

/-- A check passes when its condition does not hold. -/
@[simp] theorem raiseIf_eq_ok {c : Prop} [Decidable c] {e : ε} {u : Unit} :
    raiseIf c e = .ok u ↔ ¬c := by
  unfold raiseIf; split <;> simp_all

/-- A check that passes. -/
theorem raiseIf_neg {c : Prop} [Decidable c] (h : ¬c) (e : ε) : raiseIf c e = .ok () := if_neg h

/-- A check that fails. -/
theorem raiseIf_pos {c : Prop} [Decidable c] (h : c) (e : ε) : raiseIf c e = .error e := if_pos h

/-- A sequence of two steps returned: both did. -/
theorem bind_eq_ok {x : Except ε α} {f : α → Except ε β} {b : β} :
    (x >>= f) = .ok b ↔ ∃ a, x = .ok a ∧ f a = .ok b := by
  cases x with
  | error e => exact ⟨nofun, fun ⟨_, h, _⟩ => nomatch h⟩
  | ok a => exact ⟨fun h => ⟨a, rfl, h⟩, fun ⟨_, h, h'⟩ => by cases h; exact h'⟩

/-- A sequence of two steps raised: one of them did, the second after the first returned. -/
theorem bind_eq_error {x : Except ε α} {f : α → Except ε β} {e : ε} :
    (x >>= f) = .error e ↔ x = .error e ∨ ∃ a, x = .ok a ∧ f a = .error e := by
  cases x with
  | error e' =>
    exact ⟨fun h => Or.inl (by cases h; rfl), fun h => by
      rcases h with h | ⟨_, h, -⟩
      · cases h; rfl
      · cases h⟩
  | ok a => exact ⟨fun h => Or.inr ⟨a, rfl, h⟩, fun h => by
      rcases h with h | ⟨_, h, h'⟩
      · cases h
      · cases h; exact h'⟩

@[simp] theorem pure_eq_ok {a b : α} : (pure a : Except ε α) = .ok b ↔ a = b := by
  show Except.ok a = .ok b ↔ a = b
  simp

/-- `except E as e: raise F(e)` around a step that returned. -/
theorem mapError_eq_ok {δ : Type} {x : Except ε α} {f : ε → δ} {a : α} :
    x.mapError f = .ok a ↔ x = .ok a := by
  cases x with
  | error e => exact ⟨nofun, nofun⟩
  | ok b => exact ⟨fun h => by cases h; rfl, fun h => by cases h; rfl⟩

/-- A comprehension returns when each of its elements does. -/
theorem mapM_cons_eq_ok {f : α → Except ε β} {x : α} {xs : List α} {ys : List β} :
    (x :: xs).mapM f = .ok ys ↔ ∃ y rest, f x = .ok y ∧ xs.mapM f = .ok rest ∧ ys = y :: rest := by
  rw [List.mapM_cons, bind_eq_ok]
  constructor
  · intro h
    obtain ⟨y, hy, h⟩ := h
    obtain ⟨rest, hrest, h⟩ := bind_eq_ok.mp h
    exact ⟨y, rest, hy, hrest, (pure_eq_ok.mp h).symm⟩
  · intro h
    obtain ⟨y, rest, hy, hrest, rfl⟩ := h
    exact ⟨y, hy, bind_eq_ok.mpr ⟨rest, hrest, rfl⟩⟩

/-- What a list of steps returned is what its steps returned. -/
theorem mapM_mem {f : α → Except ε β} {xs : List α} {ys : List β} (h : xs.mapM f = .ok ys) :
    (∀ x ∈ xs, ∃ y ∈ ys, f x = .ok y) ∧ ∀ y ∈ ys, ∃ x ∈ xs, f x = .ok y := by
  induction xs generalizing ys with
  | nil =>
    cases h
    exact ⟨nofun, nofun⟩
  | cons x xs ih =>
    obtain ⟨y, rest, hy, hrest, rfl⟩ := mapM_cons_eq_ok.mp h
    obtain ⟨hsteps, hvalues⟩ := ih hrest
    refine ⟨List.forall_mem_cons.mpr ⟨⟨y, List.mem_cons_self, hy⟩, fun z hz => ?_⟩,
      List.forall_mem_cons.mpr ⟨⟨x, List.mem_cons_self, hy⟩, fun z hz => ?_⟩⟩
    · obtain ⟨value, hvalue, hstep⟩ := hsteps z hz
      exact ⟨value, List.mem_cons_of_mem _ hvalue, hstep⟩
    · obtain ⟨step, hmem, hstep⟩ := hvalues z hz
      exact ⟨step, List.mem_cons_of_mem _ hmem, hstep⟩

/-- Every step of a list was taken. -/
theorem mapM_isOk {f : α → Except ε β} {xs : List α} :
    (∃ ys, xs.mapM f = .ok ys) ↔ ∀ x ∈ xs, ∃ y, f x = .ok y := by
  induction xs with
  | nil => exact ⟨fun _ x hx => (by cases hx), fun _ => ⟨[], rfl⟩⟩
  | cons x xs ih =>
    rw [List.mapM_cons]
    constructor
    · intro h
      obtain ⟨ys, h⟩ := h
      obtain ⟨y, hy, h⟩ := bind_eq_ok.mp h
      obtain ⟨rest, hrest, -⟩ := bind_eq_ok.mp h
      exact List.forall_mem_cons.mpr ⟨⟨y, hy⟩, ih.mp ⟨rest, hrest⟩⟩
    · intro h
      obtain ⟨⟨y, hy⟩, hxs⟩ := List.forall_mem_cons.mp h
      obtain ⟨rest, hrest⟩ := ih.mpr hxs
      exact ⟨y :: rest, bind_eq_ok.mpr ⟨y, hy, bind_eq_ok.mpr ⟨rest, hrest, rfl⟩⟩⟩

/-- A loop of checks passes iff every turn does. -/
theorem forM_eq_ok {f : α → Except ε Unit} {xs : List α} :
    forM xs f = .ok () ↔ ∀ x ∈ xs, f x = .ok () := by
  induction xs with
  | nil => exact ⟨fun _ x hx => (by cases hx), fun _ => rfl⟩
  | cons x xs ih =>
    rw [List.forM_cons, bind_eq_ok, List.forall_mem_cons, ← ih]
    constructor
    · intro ⟨_, hx, hxs⟩
      exact ⟨hx, hxs⟩
    · intro ⟨hx, hxs⟩
      exact ⟨(), hx, hxs⟩

/-- Whatever the code raises is one of `E`. -/
def OnlyRaises (E : ε → Prop) (x : Except ε α) : Prop := ∀ e, x = .error e → E e

namespace OnlyRaises

variable {E : ε → Prop}

/-- A result raises nothing. -/
theorem ok {a : α} : OnlyRaises E (.ok a) := nofun

theorem pure {a : α} : OnlyRaises E (Pure.pure a : Except ε α) := nofun

/-- An admitted error may be raised. -/
theorem error {e : ε} (h : E e) : OnlyRaises E (.error e : Except ε α) := by
  intro _ h
  cases h
  exact h

/-- A check may raise an admitted error. -/
theorem raiseIf {c : Prop} [Decidable c] {e : ε} (h : E e) : OnlyRaises E (raiseIf c e) := by
  by_cases hc : c
  · rw [raiseIf_pos hc]
    exact error h
  · rw [raiseIf_neg hc]
    exact ok

/-- Two steps raise what either of them does. -/
theorem bind {x : Except ε α} {f : α → Except ε β} (hx : OnlyRaises E x)
    (hf : ∀ a, OnlyRaises E (f a)) : OnlyRaises E (x >>= f) := by
  intro e h
  cases x with
  | error e' =>
    obtain rfl : e' = e := Except.error.inj h
    exact hx e' rfl
  | ok a => exact hf a e h

/-- A loop raises what its body does. -/
theorem forM {f : α → Except ε Unit} {xs : List α} (hf : ∀ x ∈ xs, OnlyRaises E (f x)) :
    OnlyRaises E (ForM.forM xs f) := by
  induction xs with
  | nil => exact ok
  | cons x xs ih =>
    obtain ⟨hx, hxs⟩ := List.forall_mem_cons.mp hf
    rw [List.forM_cons]
    exact bind hx fun _ => ih hxs

end OnlyRaises

/-! ## Raising one of a class -/

/-- The code raises one of `E`. -/
def Raises (E : ε → Prop) (x : Except ε α) : Prop := ∃ e, x = .error e ∧ E e

section Raises

variable {E : ε → Prop}

theorem not_raises_pure {a : α} : ¬Raises E (pure a : Except ε α) := fun ⟨_, h, _⟩ => nomatch h

/-- A sequence raises in its first step, or in its second after the first returned. -/
theorem raises_bind {x : Except ε α} {f : α → Except ε β} :
    Raises E (x >>= f) ↔ Raises E x ∨ ∃ a, x = .ok a ∧ Raises E (f a) := by
  constructor
  · intro h
    obtain ⟨e, h, hE⟩ := h
    rcases bind_eq_error.mp h with h | ⟨a, ha, h⟩
    · exact Or.inl ⟨e, h, hE⟩
    · exact Or.inr ⟨a, ha, e, h, hE⟩
  · intro h
    obtain ⟨e, h, hE⟩ | ⟨a, ha, e, h, hE⟩ := h
    · exact ⟨e, bind_eq_error.mpr (Or.inl h), hE⟩
    · exact ⟨e, bind_eq_error.mpr (Or.inr ⟨a, ha, h⟩), hE⟩

/-- Raising nothing else is not raising anything else. -/
theorem onlyRaises_iff {x : Except ε α} : OnlyRaises E x ↔ ¬Raises (fun e => ¬E e) x := by
  constructor
  · intro h ⟨e, he, hnot⟩
    exact hnot (h e he)
  · intro h e he
    exact not_not.mp fun hnot => h ⟨e, he, hnot⟩

/-- The second step only counts when the first returned. -/
theorem onlyRaises_bind {x : Except ε α} {f : α → Except ε β} :
    OnlyRaises E (x >>= f) ↔ OnlyRaises E x ∧ ∀ a, x = .ok a → OnlyRaises E (f a) := by
  simp only [onlyRaises_iff, raises_bind, not_or, not_exists, not_and]

/-- The end of a sequence only passes values on. -/
theorem raises_bind_pure {x : Except ε α} {f : α → β} :
    Raises E (x >>= fun a => pure (f a)) ↔ Raises E x := by
  rw [raises_bind, or_iff_left]
  intro h
  obtain ⟨a, -, h⟩ := h
  exact not_raises_pure h

end Raises

/-- Some element is `q`, and all before it are `p`. -/
def Reaches (p q : α → Prop) (xs : List α) : Prop :=
  ∃ before x after, xs = before ++ x :: after ∧ (∀ y ∈ before, p y) ∧ q x

section Reaches

variable {p q : α → Prop}

/-- Nothing is reached in an empty list. -/
theorem not_reaches_nil : ¬Reaches p q ([] : List α) := by
  intro h
  obtain ⟨before, x, after, h, -⟩ := h
  exact List.append_ne_nil_of_right_ne_nil _ (List.cons_ne_nil _ _) h.symm

/-- What is reached is the first element, or lies behind it. -/
theorem reaches_cons {x : α} {xs : List α} :
    Reaches p q (x :: xs) ↔ q x ∨ (p x ∧ Reaches p q xs) := by
  constructor
  · intro h
    obtain ⟨before, y, after, h, hbefore, hy⟩ := h
    cases before with
    | nil =>
      obtain ⟨rfl, -⟩ := List.cons.inj h
      exact Or.inl hy
    | cons z before =>
      obtain ⟨rfl, hxs⟩ := List.cons.inj h
      obtain ⟨hx, hrest⟩ := List.forall_mem_cons.mp hbefore
      exact Or.inr ⟨hx, before, y, after, hxs, hrest, hy⟩
  · intro h
    obtain hx | ⟨hx, before, y, after, rfl, hbefore, hy⟩ := h
    · exact ⟨[], x, xs, rfl, nofun, hx⟩
    · exact ⟨x :: before, y, after, rfl, List.forall_mem_cons.mpr ⟨hx, hbefore⟩, hy⟩

/-- A list of steps raises at the first step that does not return. -/
theorem raises_mapM {E : ε → Prop} {f : α → Except ε β} {xs : List α} :
    Raises E (xs.mapM f) ↔ Reaches (fun x => ∃ y, f x = .ok y) (fun x => Raises E (f x)) xs := by
  induction xs with
  | nil => exact iff_of_false not_raises_pure not_reaches_nil
  | cons x xs ih =>
    rw [List.mapM_cons, raises_bind, reaches_cons, ← ih]
    refine or_congr_right ?_
    constructor
    · intro h
      obtain ⟨y, hy, h⟩ := h
      exact ⟨⟨y, hy⟩, raises_bind_pure.mp h⟩
    · intro h
      obtain ⟨⟨y, hy⟩, h⟩ := h
      exact ⟨y, hy, raises_bind_pure.mpr h⟩

/-- A comprehension raises what its elements do. -/
theorem OnlyRaises.mapM {E : ε → Prop} {f : α → Except ε β} {xs : List α}
    (hf : ∀ x ∈ xs, OnlyRaises E (f x)) : OnlyRaises E (xs.mapM f) := by
  rw [onlyRaises_iff, raises_mapM]
  intro ⟨before, x, after, hsplit, _, hx⟩
  have hmem : x ∈ xs := hsplit ▸ List.mem_append_right _ List.mem_cons_self
  exact onlyRaises_iff.mp (hf x hmem) hx

end Reaches

@[simp] theorem bind_ok (a : α) (f : α → Except ε β) : ((.ok a : Except ε α) >>= f) = f a := rfl

end Raise
