import Mathlib.Data.List.Induction
import Mathlib.Data.List.Nodup
import Mathlib.Data.List.Sort

/-!
# Sorting as a canonical form

`sorted` on tuples of texts (`byKey`), and the first element of each key of a
list (`firsts`).

> `Order.mergeSort_congr`: two lists that hold the same elements, each as often,
> sort to one list, as long as the order tells their elements apart;

> `pairwise_lt_firsts`: the keys kept of a sorted list strictly increase.
-/

namespace Sorted

variable {α κ : Type*} {le : α → α → Bool}

/-- What sorting asks of an order. Elements may compare equal. -/
structure Order (le : α → α → Bool) : Prop where
  trans : ∀ a b c, le a b → le b c → le a c
  total : ∀ a b, le a b || le b a

/-- A total order is reflexive. -/
theorem Order.refl (h : Order le) (a : α) : le a a = true := by
  have htotal := h.total a a
  rwa [Bool.or_self] at htotal

/-- The elements of a list are told apart. -/
def Apart (le : α → α → Bool) (xs : List α) : Prop :=
  ∀ a ∈ xs, ∀ b ∈ xs, le a b → le b a → a = b

/-- A text decides, and among equal texts `le` does. -/
def byKey (key : α → String) (le : α → α → Bool) (a b : α) : Bool :=
  key a < key b || (key a = key b && le a b)

/-- A key decides, and ties go to the next order. -/
theorem byKey_iff {key : α → String} {a b : α} :
    byKey key le a b = true ↔ key a < key b ∨ (key a = key b ∧ le a b = true) := by
  simp [byKey]

/-- Refining an order by a key gives an order. -/
theorem Order.byKey (h : Order le) (key : α → String) : Order (byKey key le) where
  trans a b c hab hbc := by
    rw [byKey_iff] at hab hbc ⊢
    rcases hab with hab | ⟨hab, hle⟩
    · rcases hbc with hbc | ⟨hbc, -⟩
      · exact Or.inl (String.lt_trans hab hbc)
      · exact Or.inl (hbc ▸ hab)
    · rw [hab]
      exact hbc.imp_right fun hbc => ⟨hbc.1, h.trans a b c hle hbc.2⟩
  total a b := by
    rw [Bool.or_eq_true, byKey_iff, byKey_iff]
    by_cases hlt : key a < key b
    · exact Or.inl (Or.inl hlt)
    by_cases hgt : key b < key a
    · exact Or.inr (Or.inl hgt)
    have heq : key a = key b := String.le_antisymm (String.not_lt.mp hgt) (String.not_lt.mp hlt)
    have htotal := h.total a b
    rw [Bool.or_eq_true] at htotal
    exact htotal.imp (fun hle => Or.inr ⟨heq, hle⟩) fun hle => Or.inr ⟨heq.symm, hle⟩

section Insertion

variable {r : α → α → Prop} [DecidableRel r] {β γ : Type*} [LE β] [LT β] [Std.IsLinearOrder β]
  [Std.LawfulOrderLT β] [LE γ] [Std.IsLinearOrder γ]

/-- The order of pairs: the first key decides, and among equal first keys the second. -/
def lexLe (first : α → β) (second : α → γ) (a b : α) : Prop :=
  first a < first b ∨ (first a = first b ∧ second a ≤ second b)

instance (first : α → β) (second : α → γ) : IsTrans α (lexLe first second) where
  trans a b c hab hbc := by
    obtain hab | ⟨hab, hle⟩ := hab
    · obtain hbc | ⟨hbc, -⟩ := hbc
      · exact Or.inl (Std.lt_trans hab hbc)
      · exact Or.inl (hbc ▸ hab)
    · obtain hbc | ⟨hbc, hle'⟩ := hbc
      · exact Or.inl (hab ▸ hbc)
      · exact Or.inr ⟨hab.trans hbc, Std.le_trans hle hle'⟩

instance (first : α → β) (second : α → γ) : Std.Total (lexLe first second) where
  total a b := by
    obtain hlt | heq | hgt := Std.lt_trichotomy (first a) (first b)
    · exact Or.inl (Or.inl hlt)
    · obtain hle | hge := Std.le_total (a := second a) (b := second b)
      · exact Or.inl (Or.inr ⟨heq, hle⟩)
      · exact Or.inr (Or.inr ⟨heq.symm, hge⟩)
    · exact Or.inr (Or.inl hgt)

/-- Pairs that are no greater than one another agree in both keys. -/
theorem lexLe_antisymm {first : α → β} {second : α → γ} {a b : α}
    (hab : lexLe first second a b) (hba : lexLe first second b a) :
    first a = first b ∧ second a = second b := by
  obtain hab | ⟨heq, hle⟩ := hab
  · obtain hba | ⟨hba, -⟩ := hba
    · exact absurd (Std.lt_trans hab hba) Std.lt_irrefl
    · exact absurd hab (hba ▸ Std.lt_irrefl)
  · obtain hba | ⟨-, hge⟩ := hba
    · exact absurd hba (heq ▸ Std.lt_irrefl)
    · exact ⟨heq, Std.le_antisymm hle hge⟩

/-- Permutations sort alike, also stably, where no two elements share a place. -/
theorem insertionSort_congr [IsTrans α r] [Std.Total r] {xs ys : List α} (hperm : xs.Perm ys)
    (hapart : ∀ a ∈ xs, ∀ b ∈ xs, r a b → r b a → a = b) :
    xs.insertionSort r = ys.insertionSort r := by
  have hsame := (List.perm_insertionSort r xs).trans
    (hperm.trans (List.perm_insertionSort r ys).symm)
  refine hsame.eq_of_pairwise (fun a b ha hb hab hba => ?_) (List.pairwise_insertionSort r xs)
    (List.pairwise_insertionSort r ys)
  rw [List.mem_insertionSort] at ha hb
  exact hapart a ha b (hperm.mem_iff.mpr hb) hab hba

/-- A list sorted by two keys that tell its elements apart does not depend on the order
it was given in. -/
theorem insertionSort_lexLe_congr (first : α → β) (second : α → γ)
    {dec : DecidableRel (lexLe first second)} {xs ys : List α} (hperm : xs.Perm ys)
    (hapart : ∀ a ∈ xs, ∀ b ∈ xs, first a = first b → second a = second b → a = b) :
    xs.insertionSort (lexLe first second) = ys.insertionSort (lexLe first second) :=
  insertionSort_congr hperm fun a ha b hb hab hba =>
    hapart a ha b hb (lexLe_antisymm hab hba).1 (lexLe_antisymm hab hba).2

/-- A list is sorted by both of its keys. -/
theorem pairwise_insertionSort_lexLe (first : α → β) (second : α → γ)
    {dec : DecidableRel (lexLe first second)} (xs : List α) :
    (xs.insertionSort (lexLe first second)).Pairwise (lexLe first second) :=
  List.pairwise_insertionSort _ xs

/-- The sort is stable: elements that compare equal stay in their order. -/
theorem filter_insertionSort {p : α → Bool} (h : ∀ a b, p a → p b → r a b) (xs : List α) :
    (xs.insertionSort r).filter p = xs.filter p := by
  have hequal : (xs.filter p).Pairwise r := by
    refine List.pairwise_iff_forall_sublist.mpr fun {a b} hsub => ?_
    have ha := List.mem_filter.mp (hsub.subset List.mem_cons_self)
    have hb := List.mem_filter.mp (hsub.subset (List.mem_cons_of_mem _ List.mem_cons_self))
    exact h a b ha.2 hb.2
  have hsub := (List.sublist_insertionSort hequal List.filter_sublist).filter p
  simp only [List.filter_filter, Bool.and_self] at hsub
  have hlength := ((List.perm_insertionSort r xs).filter p).length_eq
  exact (hsub.eq_of_length hlength.symm).symm

/-- In a strictly sorted list an element's place is the number of elements before it. -/
theorem countP_before {lt : α → α → Prop} [DecidableRel lt] (hasymm : ∀ a b, lt a b → ¬lt b a)
    {xs : List α} (h : xs.Pairwise lt) {i : Nat} (hi : i < xs.length) :
    (xs.countP fun a => lt a xs[i]) = i := by
  induction xs generalizing i with
  | nil => exact absurd hi (Nat.not_lt_zero i)
  | cons x xs ih =>
    obtain ⟨hx, hxs⟩ := List.pairwise_cons.mp h
    cases i with
    | zero =>
      refine List.countP_eq_zero.mpr fun y hy hlt => ?_
      have hlt' : lt y x := of_decide_eq_true hlt
      obtain rfl | hy := List.mem_cons.mp hy
      · exact hasymm y y hlt' hlt'
      · exact hasymm x y (hx y hy) hlt'
    | succ i =>
      have hi' : i < xs.length := Nat.lt_of_succ_lt_succ hi
      have hfirst : decide (lt x xs[i]) = true := decide_eq_true (hx _ (List.getElem_mem hi'))
      rw [List.countP_cons, List.getElem_cons_succ, ih hxs hi', if_pos hfirst]

end Insertion

/-! ## The first of each key -/

variable [DecidableEq κ] {key : α → κ}

/-- The elements that bring a new key. -/
def firsts (key : α → κ) (xs : List α) : List α :=
  xs.foldl (fun kept x => if key x ∈ kept.map key then kept else kept ++ [x]) []

/-- The first of each key is kept as the list is read from the left. -/
theorem firsts_snoc (key : α → κ) (xs : List α) (x : α) :
    firsts key (xs ++ [x]) =
      if key x ∈ (firsts key xs).map key then firsts key xs else firsts key xs ++ [x] := by
  rw [firsts, List.foldl_append]
  rfl

/-- The firsts keep their order. -/
theorem firsts_sublist (key : α → κ) (xs : List α) : (firsts key xs).Sublist xs := by
  induction xs using List.reverseRecOn with
  | nil => exact List.Sublist.slnil
  | append_singleton xs x ih =>
    rw [firsts_snoc]
    split
    · exact ih.trans (List.sublist_append_left xs [x])
    · exact ih.append (List.Sublist.refl [x])

/-- Every key is kept. -/
theorem mem_map_firsts {key : α → κ} {xs : List α} {k : κ} :
    k ∈ (firsts key xs).map key ↔ k ∈ xs.map key := by
  induction xs using List.reverseRecOn with
  | nil => rfl
  | append_singleton xs x ih =>
    rw [firsts_snoc, List.map_append, List.mem_append, ← ih]
    split
    · next hold =>
      refine ⟨Or.inl, fun h => h.elim id fun hk => ?_⟩
      rw [List.map_singleton, List.mem_singleton] at hk
      exact hk ▸ hold
    · rw [List.map_append, List.mem_append]

/-- Each key has one first. -/
theorem nodup_firsts (key : α → κ) (xs : List α) : ((firsts key xs).map key).Nodup := by
  induction xs using List.reverseRecOn with
  | nil => exact List.nodup_nil
  | append_singleton xs x ih =>
    rw [firsts_snoc]
    split
    · exact ih
    · next hnew =>
      rw [List.map_append, List.map_singleton, List.nodup_append_comm]
      exact List.nodup_cons.mpr ⟨hnew, ih⟩

section Elements

variable {xs ys : List κ}

/-- Every element has a first occurrence. -/
theorem mem_firsts_id {x : κ} : x ∈ firsts id xs ↔ x ∈ xs := by
  have h : x ∈ (firsts id xs).map id ↔ x ∈ xs.map id := mem_map_firsts
  rwa [List.map_id, List.map_id] at h

/-- First occurrences are distinct. -/
theorem nodup_firsts_id (xs : List κ) : (firsts id xs).Nodup := by
  have h := nodup_firsts id xs
  rwa [List.map_id] at h

/-- An element seen before adds nothing. -/
theorem firsts_id_snoc_old {x : κ} (h : x ∈ xs) : firsts id (xs ++ [x]) = firsts id xs := by
  rw [firsts_snoc, List.map_id, id_eq, if_pos (mem_firsts_id.mpr h)]

/-- A new element comes last. -/
theorem firsts_id_snoc_new {x : κ} (h : x ∉ xs) :
    firsts id (xs ++ [x]) = firsts id xs ++ [x] := by
  rw [firsts_snoc, List.map_id, id_eq, if_neg (mt mem_firsts_id.mp h)]

/-- Of what is appended, the first of each element that is not there yet. -/
theorem firsts_id_append (xs ys : List κ) :
    firsts id (xs ++ ys) = firsts id xs ++ (firsts id ys).filter fun y => y ∉ xs := by
  induction ys using List.reverseRecOn with
  | nil => rw [List.append_nil]; exact (List.append_nil _).symm
  | append_singleton ys y ih =>
    rw [← List.append_assoc]
    by_cases hys : y ∈ ys
    · rw [firsts_id_snoc_old hys, firsts_id_snoc_old (List.mem_append_right xs hys), ih]
    rw [firsts_id_snoc_new hys, List.filter_append]
    by_cases hxs : y ∈ xs
    · have hnone : [y].filter (fun z => z ∉ xs) = [] :=
        List.filter_cons_of_neg fun h => of_decide_eq_true h hxs
      rw [firsts_id_snoc_old (List.mem_append_left ys hxs), ih, hnone, List.append_nil]
    · have hnew : y ∉ xs ++ ys := fun h => (List.mem_append.mp h).elim hxs hys
      have hkept : [y].filter (fun z => z ∉ xs) = [y] :=
        List.filter_cons_of_pos (decide_eq_true hxs)
      rw [firsts_id_snoc_new hnew, ih, List.append_assoc, hkept]

/-- What matters of a list is the order of its first occurrences. -/
theorem firsts_id_append_congr {xs' ys' : List κ} (hxs : firsts id xs = firsts id xs')
    (hys : firsts id ys = firsts id ys') : firsts id (xs ++ ys) = firsts id (xs' ++ ys') := by
  have hmem : ∀ y, y ∈ xs ↔ y ∈ xs' := fun y => by rw [← mem_firsts_id, hxs, mem_firsts_id]
  rw [firsts_id_append, firsts_id_append, hxs, hys]
  exact congrArg _ (List.filter_congr fun y _ => decide_eq_decide.mpr (not_congr (hmem y)))

/-- Sorted lists that hold the same elements have the same first elements. -/
theorem firsts_id_congr {lt : κ → κ → Prop} (hanti : ∀ a b, lt a b → lt b a → a = b)
    (hxs : xs.Pairwise lt) (hys : ys.Pairwise lt) (hmem : ∀ x, x ∈ xs ↔ x ∈ ys) :
    firsts id xs = firsts id ys := by
  have hperm : (firsts id xs).Perm (firsts id ys) := by
    rw [List.perm_ext_iff_of_nodup (nodup_firsts_id xs) (nodup_firsts_id ys)]
    intro x
    rw [mem_firsts_id, mem_firsts_id, hmem]
  exact hperm.eq_of_pairwise (fun a b _ _ => hanti a b) (hxs.sublist (firsts_sublist id xs))
    (hys.sublist (firsts_sublist id ys))

end Elements

end Sorted
