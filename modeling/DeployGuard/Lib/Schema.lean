import DeployGuard.Lib.Text

/-!
# Request schemas

A request model checks every field and collects what fails, one error a field:
its location and the message of the first constraint that does not hold. The
messages are those of the schema library and, for a validator of the program's
own, the validator's after `Value error, `.
-/

namespace Schema

/-- The errors of a `ValidationError`: location and message. -/
abbrev Errors := List (String × String)

/-- A constraint: whether it holds, and what is reported if not. -/
abbrev Constraint := Bool × String

/-- The error of one field. -/
def field (loc : String) : List Constraint → Errors
  | [] => []
  | (holds, message) :: rest => if holds then field loc rest else [(loc, message)]

def nonEmpty (s : String) : Constraint := (s ≠ "", "String should have at least 1 character")

def atLeast (n : Nat) (s : String) : Constraint :=
  (n ≤ s.length, s!"String should have at least {n} characters")

def atMost (n : Nat) (s : String) : Constraint :=
  (s.length ≤ n, s!"String should have at most {n} characters")

/-- `Field(ge=lo)`. -/
def ge {α : Type} [LE α] [DecidableLE α] [ToString α] (lo x : α) : Constraint :=
  (lo ≤ x, s!"Input should be greater than or equal to {lo}")

/-- `Field(le=hi)`. -/
def le {α : Type} [LE α] [DecidableLE α] [ToString α] (hi x : α) : Constraint :=
  (x ≤ hi, s!"Input should be less than or equal to {hi}")

/-- Constraints of a field that may be `None`. -/
def optional {α : Type} (x : Option α) (constraints : α → List Constraint) : List Constraint :=
  match x with
  | none => []
  | some x => constraints x

/-- The errors of a list field, one location an element. -/
def elements {α : Type} (loc : String) (constraints : α → List Constraint) :
    Nat → List α → Errors
  | _, [] => []
  | index, x :: xs =>
    field s!"{loc}.{index}" (constraints x) ++ elements loc constraints (index + 1) xs

theorem field_eq_nil {loc : String} {constraints : List Constraint} :
    field loc constraints = [] ↔ ∀ c ∈ constraints, c.1 = true := by
  induction constraints with
  | nil => simp [field]
  | cons c rest ih =>
    obtain ⟨holds, message⟩ := c
    cases holds with
    | true => simp [field, ih]
    | false => simp [field]

end Schema
