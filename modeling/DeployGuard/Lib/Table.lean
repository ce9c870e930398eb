import Mathlib.Data.List.Basic
import Mathlib.Data.List.Nodup
import Mathlib.Data.List.Sort

/-!
# Tables with a primary key

A table is a list of rows in which no two rows share a key. The key constraint
is a field, so a table that breaks it cannot be built: `insert` refuses a row
whose key is taken, and `updateWhere` only takes a column assignment that leaves
the key alone.

Every statement is read back through `get?`, the lookup by key. `get?_insert` and
`get?_updateWhere` say what each write does to it; the rest of a development
never looks at the list itself except to state "every row".

`IsPage` is `SELECT … WHERE p ORDER BY … LIMIT n` as the standard leaves it: any
ordered choice of matching rows that no left-out row precedes. Ties are open, so
what is proved of every page is proved of every database.
-/

variable {κ ρ : Type} {key : ρ → κ}

/-- Rows with pairwise distinct keys. -/
structure Table (key : ρ → κ) where
  rows : List ρ
  nodup : (rows.map key).Nodup

namespace Table

instance : EmptyCollection (Table key) := ⟨⟨[], List.nodup_nil⟩⟩

/-- An empty table has no rows. -/
@[simp] theorem rows_empty : (∅ : Table key).rows = [] := rfl

instance [DecidableEq ρ] : DecidableEq (Table key) := fun t u =>
  decidable_of_iff (t.rows = u.rows) ⟨fun h => by cases t; cases u; simpa using h, fun h => h ▸ rfl⟩

/-- Two rows of a table with the same key are the same row. -/
theorem eq_of_key_eq (t : Table key) {r r' : ρ} (hr : r ∈ t.rows) (hr' : r' ∈ t.rows)
    (h : key r = key r') : r = r' :=
  List.inj_on_of_nodup_map t.nodup hr hr' h

/-- `UPDATE … SET f WHERE p`, for an assignment that leaves the key alone. -/
def updateWhere (t : Table key) (p : ρ → Bool) (f : ρ → ρ) (hf : ∀ r, key (f r) = key r) :
    Table key :=
  ⟨t.rows.map fun r => if p r then f r else r, by
    rw [List.map_map]
    have hkey : (key ∘ fun r => if p r then f r else r) = key := by
      funext r
      simp only [Function.comp]
      split
      · exact hf r
      · rfl
    rw [hkey]
    exact t.nodup⟩

/-- A row after an update is a row from before it, perhaps changed. -/
theorem mem_updateWhere {t : Table key} {p : ρ → Bool} {f : ρ → ρ} {hf : ∀ r, key (f r) = key r}
    {r' : ρ} : r' ∈ (t.updateWhere p f hf).rows ↔ ∃ r ∈ t.rows, (if p r then f r else r) = r' := by
  simp [updateWhere]

/-- `DELETE … WHERE p`. -/
def deleteWhere (t : Table key) (p : ρ → Bool) : Table key :=
  ⟨t.rows.filter fun r => !p r, t.nodup.sublist (List.filter_sublist.map _)⟩

/-- A row after a deletion is one that was not meant. -/
theorem mem_deleteWhere {t : Table key} {p : ρ → Bool} {r : ρ} :
    r ∈ (t.deleteWhere p).rows ↔ r ∈ t.rows ∧ p r = false := by
  simp [deleteWhere]

/-- The number of rows an `UPDATE` matches. -/
def rowcount (t : Table key) (p : ρ → Bool) : Nat := t.rows.countP p

/-- A statement counts a row when it finds one. -/
theorem rowcount_pos {t : Table key} {p : ρ → Bool} :
    0 < t.rowcount p ↔ ∃ r ∈ t.rows, p r := by
  simp [rowcount, List.countP_pos_iff]

/-- A table is its rows. -/
theorem ext_rows {t u : Table key} (h : t.rows = u.rows) : t = u := by
  cases t
  cases u
  cases h
  rfl

/-- Deleting again finds nothing. -/
theorem deleteWhere_deleteWhere (t : Table key) (p : ρ → Bool) :
    (t.deleteWhere p).deleteWhere p = t.deleteWhere p := by
  apply ext_rows
  show (List.filter (fun r => !p r) (t.rows.filter fun r => !p r)) = t.rows.filter fun r => !p r
  rw [List.filter_filter]
  simp only [Bool.and_self]

/-- Where nothing matches nothing is deleted. -/
theorem deleteWhere_of_rowcount {t : Table key} {p : ρ → Bool} (h : t.rowcount p = 0) :
    t.deleteWhere p = t := by
  apply ext_rows
  refine List.filter_eq_self.mpr fun r hr => ?_
  rw [Bool.not_eq_true']
  exact Bool.eq_false_iff.mpr (List.countP_eq_zero.mp h r hr)

/-- Deleting some of the rows to be deleted leaves the others to be deleted. -/
theorem deleteWhere_of_imp {t : Table key} {p q : ρ → Bool} (h : ∀ r ∈ t.rows, q r → p r) :
    (t.deleteWhere q).deleteWhere p = t.deleteWhere p := by
  apply ext_rows
  show (List.filter (fun r => !p r) (t.rows.filter fun r => !q r)) = t.rows.filter fun r => !p r
  rw [List.filter_filter]
  refine List.filter_congr fun r hr => ?_
  cases hq : q r with
  | true => rw [h r hr hq]; rfl
  | false => exact Bool.and_true _

/-- What a deletion takes is what it no longer counts. -/
theorem rowcount_deleteWhere {t : Table key} {p q : ρ → Bool} (h : ∀ r ∈ t.rows, q r → p r) :
    (t.deleteWhere q).rowcount p + t.rowcount q = t.rowcount p := by
  unfold rowcount deleteWhere
  rw [List.countP_filter]
  generalize t.rows = rows at h
  induction rows with
  | nil => rfl
  | cons r rows ih =>
    have hrest := ih fun r' hr' => h r' (List.mem_cons_of_mem r hr')
    have hr := h r List.mem_cons_self
    cases hq : q r with
    | true =>
      simp only [List.countP_cons, hq, hr hq]
      simp
      omega
    | false =>
      simp only [List.countP_cons, hq]
      simp
      omega

/-- `SELECT … WHERE p`. -/
def select (t : Table key) (p : ρ → Bool) : List ρ := t.rows.filter p

/-- `SELECT … WHERE`. -/
theorem mem_select {t : Table key} {p : ρ → Bool} {r : ρ} :
    r ∈ t.select p ↔ r ∈ t.rows ∧ p r := by
  simp [select]

/-- A condition that one row alone meets selects that row. -/
theorem select_eq_singleton {t : Table key} {p : ρ → Bool} {r : ρ} (hr : r ∈ t.rows) (hp : p r)
    (h : ∀ r' ∈ t.rows, p r' → r' = r) : t.select p = [r] := by
  have hnodup : (t.select p).Nodup := (List.Nodup.of_map _ t.nodup).filter _
  refine List.perm_singleton.mp ((List.perm_ext_iff_of_nodup hnodup (List.nodup_singleton r)).mpr
    fun r' => ?_)
  rw [mem_select, List.mem_singleton]
  constructor
  · intro h
    obtain ⟨hr', hp'⟩ := h
    exact h r' hr' hp'
  · intro h
    obtain rfl := h
    exact ⟨hr, hp⟩

/-- A condition that no two rows meet selects one row at most. -/
theorem length_select_le_one {t : Table key} {p : ρ → Bool}
    (h : ∀ r ∈ t.rows, ∀ r' ∈ t.rows, p r → p r' → r = r') : (t.select p).length ≤ 1 := by
  cases hrows : t.select p with
  | nil => exact Nat.zero_le 1
  | cons r rest =>
    obtain ⟨hr, hp⟩ := mem_select.mp (hrows ▸ List.mem_cons_self : r ∈ t.select p)
    rw [← hrows, select_eq_singleton hr hp fun r' hr' hp' => h r' hr' r hr hp' hp]
    exact le_refl 1

/-! ## Lookup by key -/

variable [DecidableEq κ]

/-- The row with a given key. -/
def get? (t : Table key) (k : κ) : Option ρ := t.rows.find? fun r => key r = k

/-- A key leads to the row that carries it. -/
theorem get?_eq_some {t : Table key} {k : κ} {r : ρ} :
    t.get? k = some r ↔ r ∈ t.rows ∧ key r = k := by
  constructor
  · intro h
    exact ⟨List.mem_of_find?_eq_some h, by simpa using List.find?_some h⟩
  · intro h
    obtain ⟨hr, rfl⟩ := h
    cases h : t.get? (key r) with
    | none => exact absurd (List.find?_eq_none.mp h r hr) (by simp)
    | some r' =>
      have hr' : r' ∈ t.rows := List.mem_of_find?_eq_some h
      have hk : key r' = key r := by simpa using List.find?_some h
      rw [t.eq_of_key_eq hr' hr hk]

/-- A key that leads nowhere is carried by no row. -/
theorem get?_eq_none {t : Table key} {k : κ} :
    t.get? k = none ↔ ∀ r ∈ t.rows, key r ≠ k := by
  simp [get?, List.find?_eq_none]

/-- The row found carries the key. -/
theorem key_of_get? {t : Table key} {k : κ} {r : ρ} (h : t.get? k = some r) : key r = k :=
  (get?_eq_some.mp h).2

theorem mem_of_get? {t : Table key} {k : κ} {r : ρ} (h : t.get? k = some r) : r ∈ t.rows :=
  (get?_eq_some.mp h).1

/-- Every row is found under its key. -/
theorem get?_of_mem {t : Table key} {r : ρ} (h : r ∈ t.rows) : t.get? (key r) = some r :=
  get?_eq_some.mpr ⟨h, rfl⟩

@[simp] theorem get?_empty (k : κ) : (∅ : Table key).get? k = none := rfl

/-- `INSERT`: refused when the key is taken. -/
def insert (t : Table key) (r : ρ) : Option (Table key) :=
  if h : t.get? (key r) = none then
    some ⟨t.rows ++ [r], by
      have hne := get?_eq_none.mp h
      rw [List.map_append, List.nodup_append']
      refine ⟨t.nodup, by simp, ?_⟩
      intro k hk hk'
      obtain ⟨r', hr', rfl⟩ := List.mem_map.mp hk
      exact hne r' hr' (by simpa using hk')⟩
  else none

/-- An insert finds its key free and appends its row. -/
theorem insert_eq_some {t t' : Table key} {r : ρ} (h : t.insert r = some t') :
    t.get? (key r) = none ∧ t'.rows = t.rows ++ [r] := by
  unfold insert at h
  split at h
  · next hn => exact ⟨hn, by cases h; rfl⟩
  · cases h

/-- A free key can be inserted. -/
theorem insert_of_free {t : Table key} {r : ρ} (h : t.get? (key r) = none) :
    ∃ t', t.insert r = some t' := by
  unfold insert
  rw [dif_pos h]
  exact ⟨_, rfl⟩

theorem get?_insert {t t' : Table key} {r : ρ} (h : t.insert r = some t') (k : κ) :
    t'.get? k = if key r = k then some r else t.get? k := by
  obtain ⟨hn, hrows⟩ := insert_eq_some h
  unfold get?
  rw [hrows, List.find?_append]
  split
  · next hk =>
    subst hk
    rw [show t.rows.find? (fun r' => key r' = key r) = none from hn]
    simp
  · next hk => simp [hk]

/-- A query finds the new row last. -/
theorem select_insert {t t' : Table key} {r : ρ} (h : t.insert r = some t') (p : ρ → Bool) :
    t'.select p = t.select p ++ [r].filter p := by
  rw [select, (insert_eq_some h).2, List.filter_append]
  rfl

/-- The rows of the second table whose keys the first has not. -/
def added (t t' : Table key) : List ρ := t'.rows.filter fun r => (t.get? (key r)).isNone

/-- No row was added to the table itself. -/
theorem added_self (t : Table key) : t.added t = [] := by
  refine List.filter_eq_nil_iff.mpr fun r hr => ?_
  rw [get?_of_mem hr]
  exact Bool.false_ne_true

/-- An insert adds its row. -/
theorem added_insert {t t' : Table key} {r : ρ} (h : t.insert r = some t') : t.added t' = [r] := by
  obtain ⟨hfree, hrows⟩ := insert_eq_some h
  have hold : t.rows.filter (fun r => (t.get? (key r)).isNone) = [] := t.added_self
  rw [added, hrows, List.filter_append, hold, List.nil_append,
    List.filter_cons_of_pos (by rw [hfree]; rfl), List.filter_nil]

/-- The row that was inserted. -/
theorem get?_inserted {t t' : Table key} {r : ρ} {k : κ} (h : t.insert r = some t')
    (hk : key r = k) : t'.get? k = some r := by rw [get?_insert h, if_pos hk]

/-- A row that was there before. -/
theorem get?_of_insert {t t' : Table key} {r r' : ρ} {k : κ} (h : t.insert r = some t')
    (hr : t.get? k = some r') : t'.get? k = some r' := by
  rw [get?_insert h, if_neg, hr]
  intro h
  obtain rfl := h
  rw [(insert_eq_some h).1] at hr
  cases hr

/-- A row that is there now was there before, or is the one inserted. -/
theorem of_get?_insert {t t' : Table key} {r r' : ρ} {k : κ} (h : t.insert r = some t')
    (hr : t'.get? k = some r') : t.get? k = some r' ∨ r' = r ∧ key r = k := by
  rw [get?_insert h] at hr
  by_cases hk : key r = k
  · rw [if_pos hk, Option.some.injEq] at hr
    exact Or.inr ⟨hr.symm, hk⟩
  · rw [if_neg hk] at hr
    exact Or.inl hr

/-- An update changes what its keys lead to, and no key. -/
theorem get?_updateWhere (t : Table key) (p : ρ → Bool) (f : ρ → ρ)
    (hf : ∀ r, key (f r) = key r) (k : κ) :
    (t.updateWhere p f hf).get? k = (t.get? k).map fun r => if p r then f r else r := by
  unfold get? updateWhere
  rw [List.find?_map]
  congr 2
  funext r
  simp only [Function.comp]
  split <;> simp [hf]

/-- `UPDATE … WHERE key = k` sets the row under the key and no other. -/
theorem get?_updateKey (t : Table key) (k : κ) (f : ρ → ρ) (hf : ∀ r, key (f r) = key r) (k' : κ) :
    (t.updateWhere (fun r => key r = k) f hf).get? k' =
      (t.get? k').map fun r => if k' = k then f r else r := by
  rw [get?_updateWhere]
  cases h : t.get? k' with
  | none => rfl
  | some r => simp [key_of_get? h]

/-- A key selects its row and nothing else. -/
theorem select_key {t : Table key} {k : κ} {r : ρ} (h : t.get? k = some r) :
    t.select (fun r' => key r' = k) = [r] := by
  obtain ⟨hmem, hk⟩ := get?_eq_some.mp h
  refine select_eq_singleton hmem (decide_eq_true hk) fun r' hr' hk' => ?_
  exact t.eq_of_key_eq hr' hmem ((of_decide_eq_true hk').trans hk.symm)

/-- A deletion frees the keys it meant. -/
theorem get?_deleteWhere (t : Table key) (p : ρ → Bool) (k : κ) :
    (t.deleteWhere p).get? k = (t.get? k).filter fun r => !p r := by
  cases h : t.get? k with
  | none =>
    rw [get?_eq_none] at h
    exact get?_eq_none.mpr fun r hr => h r (mem_deleteWhere.mp hr).1
  | some r =>
    obtain ⟨hmem, hk⟩ := get?_eq_some.mp h
    cases hp : p r with
    | false =>
      rw [Option.filter_some, hp]
      exact get?_eq_some.mpr ⟨mem_deleteWhere.mpr ⟨hmem, hp⟩, hk⟩
    | true =>
      rw [Option.filter_some, hp]
      refine get?_eq_none.mpr fun r' hr' hk' => ?_
      obtain ⟨hmem', hp'⟩ := mem_deleteWhere.mp hr'
      -- the row under the key is the one that went
      rw [t.eq_of_key_eq hmem' hmem (hk'.trans hk.symm), hp] at hp'
      cases hp'

/-- A row written under its key, whatever was there. -/
def put (t : Table key) (r : ρ) : Table key :=
  ⟨(t.deleteWhere fun r' => key r' = key r).rows ++ [r], by
    rw [List.map_append, List.nodup_append']
    refine ⟨(t.deleteWhere _).nodup, by simp, ?_⟩
    intro k hk hk'
    obtain ⟨r', hr', rfl⟩ := List.mem_map.mp hk
    have hne : decide (key r' = key r) = false := (mem_deleteWhere.mp hr').2
    exact of_decide_eq_false hne (by simpa using hk')⟩

/-- A row put replaces the row of its key. -/
theorem get?_put (t : Table key) (r : ρ) (k : κ) :
    (t.put r).get? k = if key r = k then some r else t.get? k := by
  have hrows : (t.put r).get? k =
      ((t.deleteWhere fun r' => key r' = key r).get? k).or ([r].find? fun r' => key r' = k) :=
    List.find?_append
  rw [hrows, get?_deleteWhere]
  by_cases hk : key r = k
  · rw [if_pos hk, List.find?_cons_of_pos (by simp [hk])]
    cases h : t.get? k with
    | none => rfl
    | some r' =>
      rw [Option.filter_some]
      simp [key_of_get? h, hk]
  · rw [if_neg hk, List.find?_cons_of_neg (by simp [hk]), List.find?_nil, Option.or_none]
    cases h : t.get? k with
    | none => rfl
    | some r' =>
      rw [Option.filter_some]
      simp [key_of_get? h, Ne.symm hk]

/-! ## Comparing how many rows match -/

omit [DecidableEq κ] in
/-- Nothing is found twice. -/
theorem nodup_select (t : Table key) (p : ρ → Bool) : ((t.select p).map key).Nodup :=
  t.nodup.sublist (List.filter_sublist.map _)

omit [DecidableEq κ] in
/-- The count of a statement is the number of keys it finds. -/
theorem rowcount_eq_length (t : Table key) (p : ρ → Bool) :
    t.rowcount p = ((t.select p).map key).length := by
  rw [List.length_map]
  exact List.countP_eq_length_filter

section Rowcount

variable {t t' : Table key} {p : ρ → Bool}

/-- No key comes to match, so no more rows do. -/
theorem rowcount_le_of_get?
    (h : ∀ k r', t'.get? k = some r' → p r' → ∃ r, t.get? k = some r ∧ p r) :
    t'.rowcount p ≤ t.rowcount p := by
  rw [rowcount_eq_length, rowcount_eq_length]
  refine (List.subperm_of_subset (t'.nodup_select p) fun k hk => ?_).length_le
  obtain ⟨r', hr', rfl⟩ := List.mem_map.mp hk
  obtain ⟨hmem, hp⟩ := mem_select.mp hr'
  obtain ⟨r, hr, hp⟩ := h (key r') r' (get?_of_mem hmem) hp
  rw [← key_of_get? hr]
  exact List.mem_map_of_mem (mem_select.mpr ⟨mem_of_get? hr, hp⟩)

/-- No key comes to match and one ceases to. -/
theorem rowcount_lt_of_get?
    (h : ∀ k r', t'.get? k = some r' → p r' → ∃ r, t.get? k = some r ∧ p r) {k : κ} {r : ρ}
    (hr : t.get? k = some r) (hp : p r) (hgone : ∀ r', t'.get? k = some r' → ¬p r') :
    t'.rowcount p < t.rowcount p := by
  rw [rowcount_eq_length, rowcount_eq_length]
  have hfresh : k ∉ (t'.select p).map key := by
    intro hk
    obtain ⟨r', hr', hkey⟩ := List.mem_map.mp hk
    obtain ⟨hmem, hp'⟩ := mem_select.mp hr'
    subst hkey
    exact hgone r' (get?_of_mem hmem) hp'
  have hnodup : (k :: (t'.select p).map key).Nodup :=
    List.nodup_cons.mpr ⟨hfresh, t'.nodup_select p⟩
  refine Nat.lt_of_succ_le (List.subperm_of_subset hnodup fun k' hk' => ?_).length_le
  rcases List.mem_cons.mp hk' with rfl | hk'
  · rw [← key_of_get? hr]
    exact List.mem_map_of_mem (mem_select.mpr ⟨mem_of_get? hr, hp⟩)
  · obtain ⟨r', hr', rfl⟩ := List.mem_map.mp hk'
    obtain ⟨hmem, hp'⟩ := mem_select.mp hr'
    obtain ⟨r₀, hr₀, hp₀⟩ := h (key r') r' (get?_of_mem hmem) hp'
    rw [← key_of_get? hr₀]
    exact List.mem_map_of_mem (mem_select.mpr ⟨mem_of_get? hr₀, hp₀⟩)

end Rowcount

/-! ## Ordered pages -/

/-- `SELECT … WHERE p ORDER BY le LIMIT n`: an ordered choice of distinct
matching rows, of the full length the limit allows, that no matching row left
out strictly precedes. -/
def IsPage (t : Table key) (p : ρ → Bool) (le : ρ → ρ → Bool) (n : Nat) (page : List ρ) : Prop :=
  (∀ r ∈ page, r ∈ t.select p) ∧ (page.map key).Nodup ∧ page.Pairwise (fun a b => le a b) ∧
    page.length = min n (t.select p).length ∧
    ∀ r ∈ t.select p, key r ∉ page.map key → ∀ r' ∈ page, le r' r

instance [DecidableEq ρ] (t : Table key) (p : ρ → Bool) (le : ρ → ρ → Bool) (n : Nat)
    (page : List ρ) : Decidable (t.IsPage p le n page) := by
  unfold IsPage; infer_instance

omit [DecidableEq κ] in
/-- Where the order is that of a total preorder on the matching rows, there is a page. -/
theorem exists_isPage (t : Table key) {p : ρ → Bool} {le le' : ρ → ρ → Bool} (n : Nat)
    (hle : ∀ a b, p a → p b → le' a b = le a b) (htrans : ∀ a b c, le' a b → le' b c → le' a c)
    (htotal : ∀ a b, le' a b || le' b a) : ∃ page, t.IsPage p le n page := by
  have hperm : ((t.select p).mergeSort le').Perm (t.select p) := List.mergeSort_perm ..
  have hpairwise : ((t.select p).mergeSort le').Pairwise fun a b => le a b := by
    refine (List.pairwise_mergeSort htrans htotal (t.select p)).imp_of_mem fun ha hb hab => ?_
    rw [← hle _ _ (mem_select.mp (hperm.mem_iff.mp ha)).2 (mem_select.mp (hperm.mem_iff.mp hb)).2]
    exact hab
  refine ⟨((t.select p).mergeSort le').take n, fun r hr => hperm.mem_iff.mp (List.mem_of_mem_take hr),
    ?_, hpairwise.sublist (List.take_sublist ..), ?_, ?_⟩
  · have hnodup : ((t.select p).map key).Nodup := t.nodup.sublist (List.filter_sublist.map _)
    exact ((hperm.map key).nodup_iff.mpr hnodup).sublist ((List.take_sublist ..).map key)
  · rw [List.length_take, hperm.length_eq]
  · intro r hr hkey r' hr'
    have hmem : r ∈ ((t.select p).mergeSort le').take n ++ ((t.select p).mergeSort le').drop n := by
      rw [List.take_append_drop]
      exact hperm.mem_iff.mpr hr
    rw [← List.take_append_drop n ((t.select p).mergeSort le'), List.pairwise_append] at hpairwise
    rcases List.mem_append.mp hmem with htake | hdrop
    · exact absurd (List.mem_map_of_mem htake) hkey
    · exact hpairwise.2.2 r' hr' r hdrop

end Table
