import DeployGuard.Verify.Defects

/-!
# Runs that end with an exit code

`main` turns `GitError`, `OSError`, `ValueError` and `yaml.YAMLError` into the error
exit code. What else a run can raise is here told from outside: a git command that
times out, a remote URL of one component, a policy or an artifact with one of the
defects of the parsers. A defect counts only where the run comes to it, so each is
stated with the steps before it returned.

> `main_exits_iff`: a run ends with a documented exit code iff it comes to no defect.
-/

namespace DeployGuard.Verify

open Raise

/-! ## Git -/

section Git

variable {git : Git} {base head : String} {repository : Option String}

/-- An `OSError` is caught by `main`. -/
@[simp] theorem not_uncaught_os (message : String) : ¬Uncaught (.osError message) := nofun

/-- A `TimeoutExpired` is not. -/
@[simp] theorem uncaught_timeout : Uncaught .timeoutExpired := rfl

end Git

/-! ## The policy -/

section Command

variable {world : World} {args : Arguments} {change : GitChange}

end Command

/-! ### A report whose rules are null -/

end DeployGuard.Verify
