import DeployGuard.Lib.Raise
import DeployGuard.Lib.Table

/-!
# Row security

Statements on a table whose rows are guarded. A policy says which rows a statement
may see and which rows it may leave behind: one expression, for `USING` and for
`WITH CHECK`, which may look at the other rows of the view. A trigger keeps some
rows from being changed or removed.

A statement works on a view and answers with the rows it returns and the list of
its changes; a transaction keeps the changes, and its commit applies them.

> `Guard.execute_within`: what a statement returns and what it leaves behind is
allowed by the policy, and so was every row it replaces or removes, none of which
was fixed by the trigger.
-/

namespace RowSecurity

open Raise

variable {κ ρ : Type} {key : ρ → κ} [DecidableEq κ]

/-- A statement. The assignment of an `UPDATE` leaves the key alone. -/
inductive Statement (key : ρ → κ) where
  | select (p : ρ → Bool)
  | insert (row : ρ)
  | update (p : ρ → Bool) (set : ρ → ρ) (keeps : ∀ r, key (set r) = key r)
  | delete (p : ρ → Bool)

inductive Refusal where
  | policy
  | uniqueViolation
  | trigger
  deriving DecidableEq

/-- What guards a table: the policy, on a view, and the rows a trigger fixes. -/
structure Guard (key : ρ → κ) where
  allows : Table key → ρ → Bool
  fixed : ρ → Bool

/-- What a statement does to one row. -/
inductive Change (κ ρ : Type) where
  | put (row : ρ)
  | remove (k : κ)
  deriving DecidableEq

/-- The rows a statement returns, and its changes. -/
structure Answer (κ ρ : Type) where
  rows : List ρ
  changes : List (Change κ ρ)
  deriving DecidableEq

/-! ## Changes -/

namespace Change

/-- The key of the row that is changed. -/
def target (key : ρ → κ) : Change κ ρ → κ
  | .put row => key row
  | .remove k => k

def apply (t : Table key) : Change κ ρ → Table key
  | .put row => t.put row
  | .remove k => t.deleteWhere fun r => key r = k

/-- The changes of a transaction, in their order. -/
def applyAll (t : Table key) (changes : List (Change κ ρ)) : Table key := changes.foldl apply t

/-- The row a change leaves under its key. -/
def left : Change κ ρ → Option ρ
  | .put row => some row
  | .remove _ => none

theorem get?_apply (t : Table key) (change : Change κ ρ) (k : κ) :
    (change.apply t).get? k = if change.target key = k then change.left else t.get? k := by
  cases change with
  | put row => exact Table.get?_put t row k
  | remove k' =>
    show (t.deleteWhere fun r => key r = k').get? k = if k' = k then none else t.get? k
    rw [Table.get?_deleteWhere]
    cases h : t.get? k with
    | none => simp
    | some r =>
      rw [Option.filter_some, Table.key_of_get? h]
      by_cases hk : k = k'
      · simp [hk]
      · simp [hk, Ne.symm hk]

/-- Under a key the row is as it was and no change is about it, or it is as one of
the changes leaves it. -/
theorem get?_applyAll (t : Table key) (changes : List (Change κ ρ)) (k : κ) :
    (applyAll t changes).get? k = t.get? k ∧ (∀ change ∈ changes, change.target key ≠ k) ∨
      ∃ change ∈ changes, change.target key = k ∧ (applyAll t changes).get? k = change.left := by
  unfold applyAll
  induction changes generalizing t with
  | nil => exact Or.inl ⟨rfl, nofun⟩
  | cons change rest ih =>
    rw [List.foldl_cons]
    rcases ih (change.apply t) with ⟨hget, hne⟩ | ⟨later, hmem, htarget, hget⟩
    · by_cases hk : change.target key = k
      · refine Or.inr ⟨change, List.mem_cons_self, hk, ?_⟩
        rw [hget, get?_apply, if_pos hk]
      · refine Or.inl ⟨by rw [hget, get?_apply, if_neg hk], fun c hc => ?_⟩
        rcases List.mem_cons.mp hc with rfl | hc
        · exact hk
        · exact hne c hc
    · exact Or.inr ⟨later, List.mem_cons_of_mem _ hmem, htarget, hget⟩

/-- A row no change is about. -/
theorem get?_applyAll_of_ne {t : Table key} {changes : List (Change κ ρ)} {k : κ}
    (h : ∀ change ∈ changes, change.target key ≠ k) : (applyAll t changes).get? k = t.get? k := by
  rcases get?_applyAll t changes k with ⟨hget, -⟩ | ⟨change, hmem, htarget, -⟩
  · exact hget
  · exact absurd htarget (h change hmem)

/-- A row that is there afterwards was there, or was put by a change. -/
theorem of_get?_applyAll {t : Table key} {changes : List (Change κ ρ)} {k : κ} {row : ρ}
    (h : (applyAll t changes).get? k = some row) : t.get? k = some row ∨ .put row ∈ changes := by
  rcases get?_applyAll t changes k with ⟨hget, -⟩ | ⟨change, hmem, -, hget⟩
  · exact Or.inl (hget ▸ h)
  · rw [h] at hget
    cases change with
    | put row' =>
      obtain rfl : row = row' := Option.some.inj hget
      exact Or.inr hmem
    | remove k' => cases hget

end Change

/-! ## Statements under a guard -/

namespace Guard

variable (g : Guard key) (t : Table key)

/-- The rows a statement finds. -/
def found (p : ρ → Bool) : List ρ := t.select fun r => g.allows t r && p r

/-- A statement on a view: refused, or its answer. -/
def execute : Statement key → Except Refusal (Answer κ ρ)
  | .select p => .ok ⟨g.found t p, []⟩
  | .insert row => do
    raiseIf (g.allows t row = false) .policy
    raiseIf ((t.get? (key row)).isSome = true) .uniqueViolation
    pure ⟨[row], [.put row]⟩
  | .update p set _ => do
    raiseIf ((g.found t p).any g.fixed = true) .trigger
    raiseIf ((g.found t p).any (fun r => !g.allows t (set r)) = true) .policy
    pure ⟨(g.found t p).map set, (g.found t p).map fun r => .put (set r)⟩
  | .delete p => do
    raiseIf ((g.found t p).any g.fixed = true) .trigger
    pure ⟨g.found t p, (g.found t p).map fun r => .remove (key r)⟩

/-- The policy allowed the row, and the trigger let it go. -/
def Releases (row : ρ) : Prop := g.allows t row = true ∧ g.fixed row = false

/-- An answer within what the guard allows on the view. -/
structure Within (statement : Statement key) (answer : Answer κ ρ) : Prop where
  rows : ∀ row ∈ answer.rows, g.allows t row = true
  put : ∀ row, .put row ∈ answer.changes → g.allows t row = true
  replaced : ∀ change ∈ answer.changes, ∀ row, t.get? (change.target key) = some row →
    g.Releases t row
  inserted : ∀ row, .put row ∈ answer.changes → t.get? (key row) = none → statement = .insert row

variable {g t} {p : ρ → Bool} {row : ρ} {answer : Answer κ ρ}

omit [DecidableEq κ] in
theorem mem_found : row ∈ g.found t p ↔ row ∈ t.rows ∧ g.allows t row = true ∧ p row = true := by
  rw [found, Table.mem_select, Bool.and_eq_true]

omit [DecidableEq κ] in
theorem releases_of_found (h : (g.found t p).any g.fixed ≠ true) (hrow : row ∈ g.found t p) :
    g.Releases t row := by
  refine ⟨(mem_found.mp hrow).2.1, Bool.eq_false_iff.mpr fun hfixed => h ?_⟩
  exact List.any_eq_true.mpr ⟨row, hrow, hfixed⟩

/-- The row under the key of a row that was found is that row. -/
theorem releases_of_key {row' : ρ} (h : (g.found t p).any g.fixed ≠ true)
    (hrow : row ∈ g.found t p) (hget : t.get? (key row) = some row') : g.Releases t row' := by
  rw [Table.get?_of_mem (mem_found.mp hrow).1, Option.some.injEq] at hget
  exact hget ▸ releases_of_found h hrow

theorem execute_within {statement : Statement key} (h : g.execute t statement = .ok answer) :
    g.Within t statement answer := by
  cases statement with
  | select p =>
    cases h
    exact ⟨fun row hrow => (mem_found.mp hrow).2.1, nofun, nofun, nofun⟩
  | insert row =>
    simp only [execute, bind_eq_ok, raiseIf_eq_ok, pure_eq_ok] at h
    obtain ⟨_, hallowed, _, hfree, rfl⟩ := h
    have hrow : g.allows t row = true := by simpa using hallowed
    refine ⟨fun r hr => ?_, fun r hr => ?_, fun change hchange r hr => ?_, fun r hr _ => ?_⟩
    · rw [List.mem_singleton.mp hr]
      exact hrow
    · obtain rfl : r = row := by simpa using hr
      exact hrow
    · -- an insert replaces nothing
      rw [List.mem_singleton.mp hchange] at hr
      exact absurd (Option.isSome_of_eq_some hr) hfree
    · obtain rfl : r = row := by simpa using hr
      rfl
  | update p set keeps =>
    simp only [execute, bind_eq_ok, raiseIf_eq_ok, pure_eq_ok] at h
    obtain ⟨_, hfixed, _, hcheck, rfl⟩ := h
    have hnew : ∀ row ∈ g.found t p, g.allows t (set row) = true := by
      intro row hrow
      by_contra hno
      exact hcheck (List.any_eq_true.mpr ⟨row, hrow, by simpa using hno⟩)
    refine ⟨fun r hr => ?_, fun r hr => ?_, fun change hchange r hr => ?_, fun r hr hnone => ?_⟩
    · obtain ⟨row, hrow, rfl⟩ := List.mem_map.mp hr
      exact hnew row hrow
    · obtain ⟨row, hrow, heq⟩ := List.mem_map.mp hr
      cases heq
      exact hnew row hrow
    · obtain ⟨row, hrow, rfl⟩ := List.mem_map.mp hchange
      refine releases_of_key hfixed hrow ?_
      rw [← keeps row]
      exact hr
    · -- an update writes under keys it has found
      obtain ⟨row, hrow, heq⟩ := List.mem_map.mp hr
      cases heq
      rw [keeps, Table.get?_of_mem (mem_found.mp hrow).1] at hnone
      cases hnone
  | delete p =>
    simp only [execute, bind_eq_ok, raiseIf_eq_ok, pure_eq_ok] at h
    obtain ⟨_, hfixed, rfl⟩ := h
    have hput : ∀ r, .put r ∉ (g.found t p).map fun r => (.remove (key r) : Change κ ρ) := by
      intro r hr
      obtain ⟨row, -, heq⟩ := List.mem_map.mp hr
      cases heq
    refine ⟨fun r hr => (mem_found.mp hr).2.1, fun r hr => absurd hr (hput r),
      fun change hchange r hr => ?_, fun r hr => absurd hr (hput r)⟩
    obtain ⟨row, hrow, rfl⟩ := List.mem_map.mp hchange
    exact releases_of_key hfixed hrow hr

theorem changes_of_insert {row : ρ} (h : g.execute t (.insert row) = .ok answer) :
    answer.changes = [.put row] := by
  simp only [execute, bind_eq_ok, raiseIf_eq_ok, pure_eq_ok] at h
  obtain ⟨_, -, _, -, rfl⟩ := h
  rfl

end Guard

end RowSecurity
