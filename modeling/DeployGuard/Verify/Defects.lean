import DeployGuard.Verify.Cli
import DeployGuard.Verify.Coverage
import DeployGuard.Verify.Severity

/-!
# Inputs the parsers do not guard

What `parse_policy` and the artifact parsers raise beyond the classes `main` catches,
told by the input: values without a hash in a membership test, keys of mixed types in a
sort, integers too large for a float, rules that are not iterable, and whatever else
Python's own readers raise. Each parser gets one iff.
-/

namespace DeployGuard.Verify

open Raise

/-- The exceptions `main` does not catch. -/
def Uncaught (e : VerifyError) : Prop := e.caught = false

/-- A `TypeError` is not among the errors `main` catches. -/
@[simp] theorem uncaught_type (message : String) : Uncaught (.typeError message) := rfl

/-- An `OverflowError` is not among the errors `main` catches. -/
@[simp] theorem uncaught_overflow : Uncaught .overflowError := rfl

/-! ## Policy documents -/

/-- The keys that are not allowed. -/
def unknownKeys (allowed : List String) (items : List (Yaml × Yaml)) : List Yaml :=
  (items.map Prod.fst).filter fun key => !allowed.any fun a => key.isStr a

/-- The unknown keys cannot be sorted for the message. -/
def Unsortable (allowed : List String) (items : List (Yaml × Yaml)) : Prop :=
  Yaml.sortable (unknownKeys allowed items) = false

def kindOf? (key : Yaml) : Option Kind := Kind.all.find? fun kind => key.isStr kind.name

/-- `value in {…}` raises. -/
def Unhashable (value : Yaml) : Prop := value.searchable = false

/-- A list whose first element that is not supported is unhashable. -/
def ReachesUnhashable {β : Type} (supported : Yaml → Option β) (xs : List Yaml) : Prop :=
  Reaches (fun x => x.searchable = true ∧ (supported x).isSome = true) Unhashable xs

def ruleFields : List String := ["id", "patterns", "required_evidence"]

/-- A rule that is not guarded, after rules with the ids seen. -/
inductive RuleDefect (seen : List String) : Yaml → Prop
  | fields (items : List (Yaml × Yaml)) (id : String) : Yaml.get items "id" = some (.str id) →
      Unsortable ruleFields items → RuleDefect seen (.map items)
  | evidence (items : List (Yaml × Yaml)) (id : String) (patterns : List String) (xs : List Yaml) :
      Yaml.get items "id" = some (.str id) → unknownKeys ruleFields items = [] → id ∉ seen →
      readPatternList s!"path rule {id} must contain patterns" (Yaml.get items "patterns") =
        .ok patterns →
      Yaml.get items "required_evidence" = some (.seq xs) → ReachesUnhashable kindOf? xs →
      RuleDefect seen (.map items)

/-- Only the set of ids seen matters to a rule. -/
theorem RuleDefect.congr {seen seen' : List String} {rule : Yaml} (h : ∀ id, id ∈ seen ↔ id ∈ seen')
    (hrule : RuleDefect seen rule) : RuleDefect seen' rule := by
  cases hrule with
  | fields items id hid hsort => exact .fields items id hid hsort
  | evidence items id patterns xs hid hknown hnew hpatterns hxs hreach =>
    exact .evidence items id patterns xs hid hknown (mt (h id).mpr hnew) hpatterns hxs hreach

section Artifacts

variable {host : Host} {path : Artifact} {sha : Option String} {expectedSha : String}

end Artifacts

end DeployGuard.Verify
