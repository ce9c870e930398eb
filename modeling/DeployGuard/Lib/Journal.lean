import Mathlib.Data.List.Sort
import Mathlib.Order.Lattice

/-!
# Journals

A journal is a list of stamped entries that is only ever appended to, each entry with a
later stamp than those before it. A query `ORDER BY stamp DESC, tie DESC` does not see the
order of the list; on a journal it still puts the last entry first (`newest_eq_last`), and
this stays so for the entries of one kind (`IsJournal.filter`).
-/

namespace Journal

variable {α κ τ : Type*} [LinearOrder τ] [LinearOrder κ] {stamp : α → τ} {tie : α → κ}

/-- The later stamp first, and of equal stamps the greater tie. -/
def NewestFirst (stamp : α → τ) (tie : α → κ) (a b : α) : Prop :=
  stamp b < stamp a ∨ (stamp b = stamp a ∧ tie b ≤ tie a)

instance : DecidableRel (NewestFirst stamp tie) := fun a b =>
  inferInstanceAs (Decidable (stamp b < stamp a ∨ (stamp b = stamp a ∧ tie b ≤ tie a)))

instance : Std.Total (NewestFirst stamp tie) where
  total a b := by
    rcases lt_trichotomy (stamp b) (stamp a) with hlt | heq | hgt
    · exact Or.inl (Or.inl hlt)
    · rcases le_total (tie b) (tie a) with hle | hle
      · exact Or.inl (Or.inr ⟨heq, hle⟩)
      · exact Or.inr (Or.inr ⟨heq.symm, hle⟩)
    · exact Or.inr (Or.inl hgt)

instance : IsTrans α (NewestFirst stamp tie) where
  trans a b c hab hbc := by
    rcases hab with hab | ⟨hab, htie⟩
    · rcases hbc with hbc | ⟨hbc, -⟩
      · exact Or.inl (hbc.trans hab)
      · exact Or.inl (hbc ▸ hab)
    · rcases hbc with hbc | ⟨hbc, htie'⟩
      · exact Or.inl (hab ▸ hbc)
      · exact Or.inr ⟨hbc.trans hab, htie'.trans htie⟩

/-- The first row of `ORDER BY stamp DESC, tie DESC`. -/
def newest (stamp : α → τ) (tie : α → κ) (rows : List α) : Option α :=
  (rows.insertionSort (NewestFirst stamp tie)).head?

/-- The entries up to a moment, each later than the one before it. -/
structure IsJournal (stamp : α → τ) (rows : List α) (now : τ) : Prop where
  sorted : rows.Pairwise fun a b => stamp a < stamp b
  past : ∀ a ∈ rows, stamp a ≤ now

section Queries

variable {rows : List α} {a : α} {now later : τ}

theorem mem_of_newest (h : newest stamp tie rows = some a) : a ∈ rows :=
  (List.mem_insertionSort _).mp (List.mem_of_mem_head? h)

theorem newest_eq_none : newest stamp tie rows = none ↔ rows = [] := by
  rw [newest, List.head?_eq_none_iff]
  constructor
  · intro h
    have hlength := List.length_insertionSort (NewestFirst stamp tie) rows
    rw [h] at hlength
    exact List.length_eq_zero_iff.mp hlength.symm
  · intro h
    obtain rfl := h
    rfl

/-- No row comes before the first one. -/
theorem newest_first (h : newest stamp tie rows = some a) :
    ∀ b ∈ rows, b = a ∨ NewestFirst stamp tie a b := by
  intro b hb
  have hsorted := List.pairwise_insertionSort (NewestFirst stamp tie) rows
  have hb' : b ∈ rows.insertionSort (NewestFirst stamp tie) := (List.mem_insertionSort _).mpr hb
  cases hrows : rows.insertionSort (NewestFirst stamp tie) with
  | nil =>
    rw [hrows] at hb'
    cases hb'
  | cons first rest =>
    rw [newest, hrows, List.head?_cons, Option.some.injEq] at h
    rw [hrows] at hb' hsorted
    subst h
    rcases List.mem_cons.mp hb' with rfl | hrest
    · exact Or.inl rfl
    · exact Or.inr (List.rel_of_pairwise_cons hsorted hrest)

namespace IsJournal

theorem nil : IsJournal stamp ([] : List α) now := ⟨.nil, fun _ h => by cases h⟩

theorem mono (h : IsJournal stamp rows now) (hle : now ≤ later) : IsJournal stamp rows later :=
  ⟨h.sorted, fun a ha => (h.past a ha).trans hle⟩

theorem append (h : IsJournal stamp rows now) (hlt : now < stamp a) :
    IsJournal stamp (rows ++ [a]) (stamp a) := by
  refine ⟨List.pairwise_append.mpr ⟨h.sorted, List.pairwise_singleton _ _, ?_⟩, ?_⟩
  · intro b hb c hc
    rw [List.mem_singleton.mp hc]
    exact (h.past b hb).trans_lt hlt
  · intro b hb
    rcases List.mem_append.mp hb with hb | hb
    · exact ((h.past b hb).trans_lt hlt).le
    · rw [List.mem_singleton.mp hb]

/-- An entry that may be of another kind. -/
theorem append_filter (h : IsJournal stamp rows now) (hlt : now < stamp a) (p : α → Bool) :
    IsJournal stamp (rows ++ [a].filter p) (stamp a) := by
  by_cases hp : p a = true
  · rw [List.filter_cons_of_pos hp, List.filter_nil]
    exact h.append hlt
  · rw [List.filter_cons_of_neg hp, List.filter_nil, List.append_nil]
    exact h.mono hlt.le

theorem filter (h : IsJournal stamp rows now) (p : α → Bool) :
    IsJournal stamp (rows.filter p) now :=
  ⟨h.sorted.filter p, fun a ha => h.past a (List.mem_of_mem_filter ha)⟩

/-- What was entered last is the newest. -/
theorem newest_eq_last (h : IsJournal stamp rows now) : newest stamp tie rows = rows.getLast? := by
  rcases List.eq_nil_or_concat rows with rfl | ⟨older, last, rfl⟩
  · rfl
  rw [List.concat_eq_append] at h ⊢
  have hlast : last ∈ older ++ [last] := List.mem_append_right _ (List.mem_singleton_self last)
  rw [List.getLast?_concat]
  cases hnewest : newest stamp tie (older ++ [last]) with
  | none => exact absurd (newest_eq_none.mp hnewest) (by simp)
  | some first =>
    rcases List.mem_append.mp (mem_of_newest hnewest) with hold | hsame
    · -- an older row would be stamped before the last one
      have hbefore : stamp first < stamp last :=
        (List.pairwise_append.mp h.sorted).2.2 first hold last (List.mem_singleton_self last)
      rcases newest_first hnewest last hlast with rfl | hfirst | ⟨heq, -⟩
      · exact absurd hbefore (lt_irrefl _)
      · exact absurd hbefore hfirst.asymm
      · exact absurd heq hbefore.ne'
    · rw [List.mem_singleton.mp hsame]

end IsJournal

end Queries

end Journal
