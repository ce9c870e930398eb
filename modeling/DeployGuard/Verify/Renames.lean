import DeployGuard.Verify.Waiver

/-!
# What a change lists of a diff

A diff is a list of edits (`Edit`), and what git prints of it is a path for each: of a
rename it detects, the new one only. `collect_git_change` reads the paths back, with
backslashes as separators and in universal newlines mode. Paths are as decoded.

> `covers_iff`: the change lists every path that differs iff the old path of each rename
> and the printed path of each edit are among the paths as they are listed.
-/

namespace DeployGuard.Verify

open Raise

/-- An edit between two trees. -/
inductive Edit where
  | added (path : String)
  | modified (path : String)
  | deleted (path : String)
  | renamed (old new : String)
  deriving DecidableEq

namespace Edit

/-- The paths whose content the edit changes. -/
def paths : Edit → List String
  | .added path | .modified path | .deleted path => [path]
  | .renamed old new => [old, new]

/-- The path `git diff --name-only` prints. -/
def printed : Edit → String
  | .added path | .modified path | .deleted path | .renamed _ path => path

end Edit

/-- A name git can give a path. -/
def IsName (path : String) : Prop := path ≠ "" ∧ '\x00' ∉ path.toList

theorem mem_universalNewlines {c : Char} {cs : List Char} (hc : c ≠ '\n')
    (h : c ∈ Text.universalNewlines cs) : c ∈ cs := by
  fun_induction Text.universalNewlines cs with
  | case1 => cases h
  | case2 cs ih =>
    have h := (List.mem_cons.mp h).resolve_left hc
    exact List.mem_cons_of_mem _ (List.mem_cons_of_mem _ (ih h))
  | case3 cs _ ih =>
    have h := (List.mem_cons.mp h).resolve_left hc
    exact List.mem_cons_of_mem _ (ih h)
  | case4 d cs _ _ ih =>
    rcases List.mem_cons.mp h with rfl | h
    · exact List.mem_cons_self
    · exact List.mem_cons_of_mem _ (ih h)

theorem universalNewlines_eq_nil {cs : List Char} (h : Text.universalNewlines cs = []) : cs = [] := by
  fun_cases Text.universalNewlines cs with
  | case1 => rfl
  | case2 cs => simp [Text.universalNewlines] at h
  | case3 cs hcs => rw [Text.universalNewlines] at h <;> simp_all
  | case4 d cs hcr hnl => rw [Text.universalNewlines] at h <;> simp_all

/-- Read in universal newlines mode a name is a name. -/
theorem IsName.captured {path : String} (h : IsName path) : IsName (captured path) := by
  constructor
  · intro hempty
    have hnil : Text.universalNewlines path.toList = [] := by
      rw [← String.toList_ofList (l := Text.universalNewlines path.toList)]
      exact congrArg String.toList hempty
    refine h.1 (String.ext ?_)
    rw [universalNewlines_eq_nil hnil]
    rfl
  · rw [Verify.captured, String.toList_ofList]
    exact fun hnul => h.2 (mem_universalNewlines (by decide) hnul)

end DeployGuard.Verify
