import Mathlib.Data.List.Basic
import Mathlib.Data.List.Nodup

/-!
# Python dictionaries

A dictionary is its items in insertion order: setting a key that is present
keeps its place. `get?_set` is all a proof needs to know.
-/

/-- A `dict[κ, α]`. -/
abbrev Dict (κ α : Type) := List (κ × α)

namespace Dict

variable {κ α : Type} [DecidableEq κ]

/-- `d.get(key)`. -/
def get? : Dict κ α → κ → Option α
  | [], _ => none
  | (k, v) :: d, key => if k = key then some v else get? d key

/-- `d[key] = value`. -/
def set : Dict κ α → κ → α → Dict κ α
  | [], key, value => [(key, value)]
  | (k, v) :: d, key, value => if k = key then (k, value) :: d else (k, v) :: set d key value

/-- `d.setdefault(key, value)`. -/
def setdefault (d : Dict κ α) (key : κ) (value : α) : Dict κ α :=
  if (get? d key).isSome then d else set d key value

/-- `dict(items)`: a key that comes twice keeps its last value. -/
def ofItems (items : List (κ × α)) : Dict κ α :=
  items.foldl (fun d item => set d item.1 item.2) []

/-- `key in d`. -/
def contains (d : Dict κ α) (key : κ) : Bool := (get? d key).isSome

def keys (d : Dict κ α) : List κ := d.map Prod.fst

/-- Where the keys are distinct, a lookup finds the item of the key. -/
theorem get?_eq_some {d : Dict κ α} (h : (keys d).Nodup) {k : κ} {v : α} :
    get? d k = some v ↔ (k, v) ∈ d := by
  induction d with
  | nil => exact iff_of_false nofun List.not_mem_nil
  | cons item d ih =>
    obtain ⟨j, w⟩ := item
    obtain ⟨hj, hd⟩ := List.nodup_cons.mp h
    unfold get?
    rw [List.mem_cons, Prod.mk.injEq]
    by_cases hk : j = k
    · subst hk
      rw [if_pos rfl, Option.some.injEq]
      constructor
      · intro hw
        exact Or.inl ⟨rfl, hw.symm⟩
      · intro h
        obtain ⟨-, hv⟩ | hmem := h
        · exact hv.symm
        · exact absurd (List.mem_map.mpr ⟨_, hmem, rfl⟩) hj
    · rw [if_neg hk, ih hd]
      constructor
      · exact Or.inr
      · intro h
        obtain ⟨hkj, -⟩ | hmem := h
        · exact absurd hkj.symm hk
        · exact hmem

/-- What a lookup finds is one of the items. -/
theorem mem_of_get? {d : Dict κ α} {k : κ} {v : α} (h : get? d k = some v) : (k, v) ∈ d := by
  induction d with
  | nil => cases h
  | cons item d ih =>
    obtain ⟨j, w⟩ := item
    unfold get? at h
    by_cases hk : j = k
    · rw [if_pos hk] at h
      rw [← hk, ← Option.some.inj h]
      exact List.mem_cons_self ..
    · rw [if_neg hk] at h
      exact List.mem_cons_of_mem _ (ih h)

theorem get?_set (d : Dict κ α) (key : κ) (value : α) (k : κ) :
    get? (set d key value) k = if key = k then some value else get? d k := by
  induction d with
  | nil => rfl
  | cons item d ih =>
    obtain ⟨j, v⟩ := item
    unfold set
    by_cases hj : j = key
    · subst hj
      rw [if_pos rfl]
      unfold get?
      by_cases hk : j = k
      · rw [if_pos hk, if_pos hk]
      · rw [if_neg hk, if_neg hk, if_neg hk]
    · rw [if_neg hj]
      show (if j = k then some v else get? (set d key value) k) = _
      rw [ih]
      by_cases hk : j = k
      · rw [if_pos hk, if_neg (fun h => hj (hk.trans h.symm))]
        exact (if_pos hk).symm
      · rw [if_neg hk]
        by_cases hkey : key = k
        · rw [if_pos hkey, if_pos hkey]
        · rw [if_neg hkey, if_neg hkey]
          exact (if_neg hk).symm

theorem get?_setdefault (d : Dict κ α) (key : κ) (value : α) (k : κ) :
    get? (setdefault d key value) k = (get? d k).or (if key = k then some value else none) := by
  unfold setdefault
  by_cases hk : key = k
  · rw [if_pos hk, hk]
    cases hget : get? d k with
    | none => simp [get?_set]
    | some v => simp [hget]
  · rw [if_neg hk, Option.or_none]
    split
    · rfl
    · rw [get?_set, if_neg hk]

/-- Where the keys are distinct, a dictionary has the items it is made of. -/
theorem get?_ofItems {items : List (κ × α)} (h : (items.map Prod.fst).Nodup) {k : κ} {v : α} :
    get? (ofItems items) k = some v ↔ (k, v) ∈ items := by
  have hfold : ∀ d : Dict κ α,
      get? (items.foldl (fun d item => set d item.1 item.2) d) k = some v ↔
        (k, v) ∈ items ∨ (k ∉ items.map Prod.fst ∧ get? d k = some v) := by
    induction items with
    | nil => exact fun d => by simp
    | cons item items ih =>
      obtain ⟨j, w⟩ := item
      rw [List.map_cons, List.nodup_cons] at h
      intro d
      rw [List.foldl_cons, ih h.2, get?_set, List.map_cons, List.mem_cons, List.mem_cons,
        Prod.mk.injEq]
      by_cases hj : j = k
      · subst hj
        have hlater : (j, v) ∉ items := fun hmem => h.1 (List.mem_map.mpr ⟨_, hmem, rfl⟩)
        simp [hlater, h.1, eq_comm]
      · have hjk : ¬k = j := fun heq => hj heq.symm
        simp [hj, hjk]
  rw [ofItems, hfold]
  refine ⟨fun h => h.resolve_right fun hnil => ?_, Or.inl⟩
  have hnone : some v = none := hnil.2.symm
  cases hnone

/-- What a dictionary was built with an item of, one of the items gave. -/
theorem mem_of_get?_ofItems {items : List (κ × α)} {k : κ} {v : α}
    (h : get? (ofItems items) k = some v) : (k, v) ∈ items := by
  have hfold : ∀ d : Dict κ α,
      get? (items.foldl (fun d item => set d item.1 item.2) d) k = some v →
        (k, v) ∈ items ∨ get? d k = some v := by
    clear h
    induction items with
    | nil => exact fun d hd => Or.inr hd
    | cons item items ih =>
      intro d hd
      obtain hmem | hd := ih _ hd
      · exact Or.inl (List.mem_cons_of_mem _ hmem)
      rw [get?_set] at hd
      split at hd
      · next hkey =>
        obtain rfl := Option.some.inj hd
        exact Or.inl (hkey ▸ List.mem_cons_self)
      · exact Or.inr hd
  exact (hfold [] h).resolve_right fun hnone => by cases hnone

theorem get?_isSome {d : Dict κ α} {k : κ} : (get? d k).isSome ↔ k ∈ keys d := by
  induction d with
  | nil => exact iff_of_false (by simp [get?]) List.not_mem_nil
  | cons item d ih =>
    obtain ⟨j, v⟩ := item
    unfold get?
    rw [keys, List.map_cons, List.mem_cons]
    by_cases hk : j = k
    · rw [if_pos hk]
      exact iff_of_true rfl (Or.inl hk.symm)
    · rw [if_neg hk, ih]
      exact ⟨Or.inr, fun h => h.resolve_left fun heq => hk heq.symm⟩

/-- Setting a key adds it at the end, unless it is there. -/
theorem keys_set (d : Dict κ α) (key : κ) (value : α) :
    keys (set d key value) = if key ∈ keys d then keys d else keys d ++ [key] := by
  induction d with
  | nil => rfl
  | cons item d ih =>
    obtain ⟨j, v⟩ := item
    have hkeys : keys ((j, v) :: d) = j :: keys d := rfl
    unfold set
    rw [hkeys]
    by_cases hj : j = key
    · rw [if_pos hj, if_pos (List.mem_cons.mpr (Or.inl hj.symm)), hj]
      rfl
    · rw [if_neg hj]
      show j :: keys (set d key value) = _
      rw [ih]
      by_cases hmem : key ∈ keys d
      · rw [if_pos hmem, if_pos (List.mem_cons_of_mem j hmem)]
      · have hnew : key ∉ j :: keys d := fun h =>
          (List.mem_cons.mp h).elim (fun heq => hj heq.symm) hmem
        rw [if_neg hmem, if_neg hnew]
        rfl

theorem mem_keys_set {d : Dict κ α} {key k : κ} {value : α} :
    k ∈ keys (set d key value) ↔ k = key ∨ k ∈ keys d := by
  rw [keys_set]
  split
  · next hold => exact ⟨Or.inr, fun h => h.elim (fun heq => heq ▸ hold) id⟩
  · rw [List.mem_append, List.mem_singleton, or_comm]

theorem mem_keys_setdefault {d : Dict κ α} {key k : κ} {value : α} :
    k ∈ keys (setdefault d key value) ↔ k = key ∨ k ∈ keys d := by
  unfold setdefault
  split
  · next hold =>
    rw [get?_isSome] at hold
    exact ⟨Or.inr, fun h => h.elim (fun heq => heq ▸ hold) id⟩
  · exact mem_keys_set

theorem mem_keys_ofItems {items : List (κ × α)} {k : κ} :
    k ∈ keys (ofItems items) ↔ k ∈ items.map Prod.fst := by
  have hfold : ∀ d : Dict κ α, k ∈ keys (items.foldl (fun d item => set d item.1 item.2) d) ↔
      k ∈ items.map Prod.fst ∨ k ∈ keys d := by
    induction items with
    | nil => exact fun d => ⟨Or.inr, fun h => h.resolve_left List.not_mem_nil⟩
    | cons item items ih =>
      intro d
      rw [List.foldl_cons, ih, mem_keys_set, List.map_cons, List.mem_cons, or_assoc, or_left_comm]
  rw [ofItems, hfold]
  exact ⟨fun h => h.resolve_right List.not_mem_nil, Or.inl⟩

theorem nodup_keys_set {d : Dict κ α} (h : (keys d).Nodup) (key : κ) (value : α) :
    (keys (set d key value)).Nodup := by
  rw [keys_set]
  split
  · exact h
  · next hnew =>
    rw [List.nodup_append_comm]
    exact List.nodup_cons.mpr ⟨hnew, h⟩

/-- Where the keys are distinct, a comprehension keeps the items it lets through. -/
theorem get?_filter {d : Dict κ α} (h : (keys d).Nodup) (p : κ × α → Bool) (k : κ) :
    get? (d.filter p) k = (get? d k).filter fun v => p (k, v) := by
  have hkept : (keys (d.filter p)).Nodup := h.sublist (List.filter_sublist.map _)
  refine Option.ext fun v => ?_
  rw [get?_eq_some hkept, List.mem_filter, Option.filter_eq_some_iff,
    get?_eq_some h]

end Dict
