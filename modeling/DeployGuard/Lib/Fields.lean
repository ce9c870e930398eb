import DeployGuard.Lib.Text

/-!
# Separated fields

Fields written with a separator between them are read back by splitting and stripping.
A validator that joins what it has read returns a text other than the one it was given;
it is read as it is written all the same:

> `IsFields p sep fields`: some fields, none of them empty, with nothing to strip and
> without a separator.

What is read is of that kind unless a field is empty (`isFields_fieldsOf`). Their join is
read as the fields it was made of (`IsFields.fieldsOf_join`), has nothing to strip itself
(`IsFields.stripList_join`), and is a part of the text they were read from
(`join_fieldsOf_sublist`).
-/

namespace Text

variable {p : Char → Bool} {sep : Char} {fields : List (List Char)}

/-! ## Nothing to strip -/

theorem dropWhile_eq_self_of_head {cs : List Char} (h : ∀ c ∈ cs.head?, ¬p c) :
    cs.dropWhile p = cs := by
  cases cs with
  | nil => rfl
  | cons c cs => exact List.dropWhile_cons_of_neg (h c rfl)

theorem head_of_dropWhile_eq_self {cs : List Char} (h : cs.dropWhile p = cs) :
    ∀ c ∈ cs.head?, ¬p c := by
  intro c hc hpc
  obtain ⟨ds, rfl⟩ := List.head?_eq_some_iff.mp hc
  rw [List.dropWhile_cons_of_pos hpc] at h
  have hlen := (List.dropWhile_sublist p (l := ds)).length_le
  rw [h, List.length_cons] at hlen
  omega

theorem stripList_sublist_dropWhile (p : Char → Bool) (cs : List Char) :
    (stripList p cs).Sublist (cs.dropWhile p) := by
  rw [stripList, ← List.reverse_sublist, List.reverse_reverse]
  exact List.dropWhile_sublist p

theorem stripList_sublist (p : Char → Bool) (cs : List Char) : (stripList p cs).Sublist cs :=
  (stripList_sublist_dropWhile p cs).trans (List.dropWhile_sublist p)

/-- Nothing is stripped off a text iff neither its first nor its last character is. -/
theorem stripList_eq_self {cs : List Char} :
    stripList p cs = cs ↔ (∀ c ∈ cs.head?, ¬p c) ∧ ∀ c ∈ cs.getLast?, ¬p c := by
  constructor
  · intro h
    -- both passes can only shorten
    have hfront : cs.dropWhile p = cs := by
      have hsub := stripList_sublist_dropWhile p cs
      rw [h] at hsub
      exact (List.dropWhile_sublist p).antisymm hsub
    rw [stripList, hfront] at h
    have hback : cs.reverse.dropWhile p = cs.reverse :=
      (List.reverse_reverse _).symm.trans (congrArg List.reverse h)
    refine ⟨head_of_dropWhile_eq_self hfront, ?_⟩
    rw [← List.head?_reverse]
    exact head_of_dropWhile_eq_self hback
  · intro h
    obtain ⟨hhead, hlast⟩ := h
    rw [← List.head?_reverse] at hlast
    rw [stripList, dropWhile_eq_self_of_head hhead, dropWhile_eq_self_of_head hlast,
      List.reverse_reverse]

/-- Two texts with nothing to strip, whatever stands between them. -/
theorem stripList_append {xs mid ys : List Char} (hxs : stripList p xs = xs) (hne : xs ≠ [])
    (hys : stripList p ys = ys) (hne' : ys ≠ []) :
    stripList p (xs ++ mid ++ ys) = xs ++ mid ++ ys := by
  refine stripList_eq_self.mpr ⟨?_, ?_⟩
  · rw [List.append_assoc, List.head?_append_of_ne_nil xs hne]
    exact (stripList_eq_self.mp hxs).1
  · rw [List.getLast?_append_of_ne_nil _ hne']
    exact (stripList_eq_self.mp hys).2

theorem strip_eq_self {text : String} (h : ∀ c ∈ text.toList, isspace c = false) :
    strip text = text := by
  have hnone : ∀ c ∈ text.toList, ¬isspace c := fun c hc => Bool.eq_false_iff.mp (h c hc)
  rw [strip, stripList_eq_self.mpr ⟨fun c hc => hnone c (List.mem_of_mem_head? hc),
    fun c hc => hnone c (List.mem_of_getLast? hc)⟩, String.ofList_toList]

/-- Text without capitals is in lower case already. -/
theorem lower_eq_self {text : String}
    (h : ∀ c ∈ text.toList, c.toNat < 65 ∨ (90 < c.toNat ∧ c.toNat < 128)) :
    lower text = text := by
  have hchar : ∀ c ∈ text.toList, lowerChar c = [c] := by
    intro c hc
    have hcode := h c hc
    have hlower : c.toLower = c := by
      refine Char.toNat_inj.mp ?_
      rw [toNat_toLower, if_neg (by omega)]
    rw [lowerChar, if_neg (by simp; omega), if_neg (by simp; omega), hlower]
  rw [lower, List.flatMap_congr hchar, List.flatMap_singleton', String.ofList_toList]

/-! ## Reading and joining -/

/-- `sep.join(fields)`. -/
def join (sep : Char) (fields : List (List Char)) : List Char := [sep].intercalate fields

/-- `[field.strip() for field in s.split(sep)]`. -/
def fieldsOf (p : Char → Bool) (sep : Char) (cs : List Char) : List (List Char) :=
  (cs.splitOn sep).map (stripList p)

structure IsFields (p : Char → Bool) (sep : Char) (fields : List (List Char)) : Prop where
  some_field : fields ≠ []
  /-- no field is empty -/
  nonempty : ∀ field ∈ fields, field ≠ []
  stripped : ∀ field ∈ fields, stripList p field = field
  unseparated : ∀ field ∈ fields, sep ∉ field

theorem not_mem_of_mem_splitOn {field cs : List Char} (h : field ∈ cs.splitOn sep) :
    sep ∉ field := by
  induction cs generalizing field with
  | nil =>
    obtain rfl : field = [] := by simpa using h
    exact List.not_mem_nil
  | cons c cs ih =>
    rw [List.splitOn_cons_eq_if_modifyHead] at h
    by_cases hc : c = sep
    · rw [if_pos (beq_iff_eq.mpr hc)] at h
      obtain rfl | h := List.mem_cons.mp h
      · exact List.not_mem_nil
      · exact ih h
    · rw [if_neg (mt beq_iff_eq.mp hc)] at h
      obtain ⟨first, rest, hsplit⟩ := List.exists_cons_of_ne_nil (List.splitOn_ne_nil sep cs)
      rw [hsplit, List.modifyHead_cons] at h
      obtain rfl | h := List.mem_cons.mp h
      · intro hmem
        obtain rfl | hmem := List.mem_cons.mp hmem
        · exact hc rfl
        · exact ih (hsplit ▸ List.mem_cons_self) hmem
      · exact ih (hsplit ▸ List.mem_cons_of_mem _ h)

theorem isFields_fieldsOf {cs : List Char} (h : ∀ field ∈ fieldsOf p sep cs, field ≠ []) :
    IsFields p sep (fieldsOf p sep cs) where
  some_field := by simp [fieldsOf]
  nonempty := h
  stripped := by
    intro field hfield
    obtain ⟨piece, -, rfl⟩ := List.mem_map.mp hfield
    exact stripList_idem p piece
  unseparated := by
    intro field hfield
    obtain ⟨piece, hpiece, rfl⟩ := List.mem_map.mp hfield
    exact fun hmem => not_mem_of_mem_splitOn hpiece ((stripList_sublist p piece).subset hmem)

/-- The join of what is read is the text without what was stripped. -/
theorem join_fieldsOf_sublist (p : Char → Bool) (sep : Char) (cs : List Char) :
    (join sep (fieldsOf p sep cs)).Sublist cs := by
  have hmap : ∀ pieces : List (List Char),
      (join sep (pieces.map (stripList p))).Sublist ([sep].intercalate pieces) := by
    intro pieces
    induction pieces with
    | nil => exact List.Sublist.refl _
    | cons piece pieces ih =>
      cases pieces with
      | nil => simpa [join] using stripList_sublist p piece
      | cons next pieces =>
        rw [join, List.map_cons, List.map_cons, List.intercalate_cons_cons,
          List.intercalate_cons_cons]
        exact ((stripList_sublist p piece).append (List.Sublist.refl _)).append ih
  exact (hmap (cs.splitOn sep)).trans (by rw [List.intercalate_splitOn])

namespace IsFields

theorem join_ne_nil (h : IsFields p sep fields) : join sep fields ≠ [] := by
  obtain ⟨field, rest, rfl⟩ := List.exists_cons_of_ne_nil h.some_field
  have hfield := h.nonempty field List.mem_cons_self
  cases rest with
  | nil => simpa [join] using hfield
  | cons next rest =>
    rw [join, List.intercalate_cons_cons]
    simp [hfield]

theorem stripList_join (h : IsFields p sep fields) :
    stripList p (join sep fields) = join sep fields := by
  induction fields with
  | nil => exact absurd rfl h.some_field
  | cons field rest ih =>
    cases rest with
    | nil => simpa [join] using h.stripped field List.mem_cons_self
    | cons next rest =>
      have hrest : IsFields p sep (next :: rest) :=
        { some_field := List.cons_ne_nil _ _
          nonempty := fun f hf => h.nonempty f (List.mem_cons_of_mem _ hf)
          stripped := fun f hf => h.stripped f (List.mem_cons_of_mem _ hf)
          unseparated := fun f hf => h.unseparated f (List.mem_cons_of_mem _ hf) }
      rw [join, List.intercalate_cons_cons]
      exact stripList_append (h.stripped field List.mem_cons_self)
        (h.nonempty field List.mem_cons_self) (ih hrest) hrest.join_ne_nil

/-- A join is read as the fields it was made of. -/
theorem fieldsOf_join (h : IsFields p sep fields) : fieldsOf p sep (join sep fields) = fields := by
  rw [fieldsOf, join, List.splitOn_intercalate sep h.unseparated h.some_field]
  exact (List.map_congr_left h.stripped).trans (List.map_id' fields)

end IsFields

end Text
