import DeployGuard.Verify.Gate
import DeployGuard.Verify.GitChange

/-!
# The documentation waiver

A policy may waive tests for a change of documentation. Documentation is told by the
end of a path or its first directory, dependencies and migrations by other ends and
directories, and nothing keeps the two apart (`Overlapping`): `requirements.txt` is
both.

> `neverWaived_iff`: a dependency change or a migration is never waived iff some path
> of the change is not documentation, or none of them is of both kinds.
-/

namespace DeployGuard.Verify

/-- The change is flagged as one of dependencies or of the database. -/
def Executable (paths : List String) : Prop :=
  "dependency-change" ∈ changeFlags paths ∨ "database-migration" ∈ changeFlags paths

/-- A documentation path, in lower case, that is a dependency file or a migration as
well. -/
inductive Overlapping (path : String) : Prop
  /-- a requirements file, which is a text file -/
  | requirements : Text.endswith path "requirements.txt" ∨ Text.endswith path "requirements-prod.txt" →
      Overlapping path
  /-- a document in a migrations directory -/
  | migrations (suffix : String) : suffix ∈ docsSuffixes → Text.endswith path suffix →
      Text.contains ("/" ++ path) "/migrations/" → Overlapping path
  | underDocs : Text.startswith path "docs/" → isMigration path ∨ isDependency path → Overlapping path

/-- No policy that requires tests passes the change without them. -/
def NeverWaived (change : GitChange) : Prop :=
  Executable change.paths → change.docsOnly = false ∧
    ∀ host policy evidence result, policy.data.required .tests = true →
      verifyChange host change policy evidence = .ok result → result.decision = .pass →
        Has evidence .tests .pass

/-! ## The two classifiers -/

theorem executable_iff {paths : List String} :
    Executable paths ↔
      ∃ path ∈ paths, isMigration (Text.lower path) = true ∨ isDependency (Text.lower path) = true := by
  have hdependency : "dependency-change" ∈ changeFlags paths ↔
      ∃ path ∈ paths, isDependency (Text.lower path) = true := by
    simp [changeFlags]
  have hmigration : "database-migration" ∈ changeFlags paths ↔
      ∃ path ∈ paths, isMigration (Text.lower path) = true := by
    simp [changeFlags]
  rw [Executable, hdependency, hmigration, or_comm]
  simp only [and_or_left, exists_or]

/-- Two ends of one text: one is the end of the other. -/
theorem endswith_comparable {path a b : String} (ha : Text.endswith path a = true)
    (hb : Text.endswith path b = true) : a.toList <:+ b.toList ∨ b.toList <:+ a.toList := by
  rw [Text.endswith, List.isSuffixOf_iff_suffix] at ha hb
  exact List.suffix_or_suffix_of_suffix ha hb

/-- Of the dependency files only the requirements files end as documents do. -/
theorem docsSuffix_dependencySuffix : ∀ suffix ∈ docsSuffixes, ∀ file ∈ dependencySuffixes,
    suffix.toList <:+ file.toList ∨ file.toList <:+ suffix.toList →
      file = "requirements.txt" ∨ file = "requirements-prod.txt" := by
  decide

theorem docsSuffix_sql : ∀ suffix ∈ docsSuffixes,
    ¬(suffix.toList <:+ ".sql".toList ∨ ".sql".toList <:+ suffix.toList) := by
  decide

theorem isDocs_iff {path : String} :
    isDocs path = true ↔
      (∃ suffix ∈ docsSuffixes, Text.endswith path suffix = true) ∨ Text.startswith path "docs/" = true := by
  simp [isDocs]

theorem isMigration_iff {path : String} :
    isMigration path = true ↔
      Text.contains ("/" ++ path) "/migrations/" = true ∨ Text.endswith path ".sql" = true := by
  simp [isMigration]

theorem isDependency_iff {path : String} :
    isDependency path = true ↔ ∃ file ∈ dependencySuffixes, Text.endswith path file = true := by
  simp [isDependency]

/-- The overlap of the two classifiers. -/
theorem overlapping_iff {path : String} :
    isDocs path = true ∧ (isMigration path = true ∨ isDependency path = true) ↔ Overlapping path := by
  constructor
  · intro h
    obtain ⟨hdocs, hexecutable⟩ := h
    rcases isDocs_iff.mp hdocs with ⟨suffix, hsuffix, hends⟩ | hunder
    · rcases hexecutable with hmigration | hdependency
      · rcases isMigration_iff.mp hmigration with hdirectory | hsql
        · exact .migrations suffix hsuffix hends hdirectory
        · -- no document ends as an SQL file does
          exact absurd (endswith_comparable hends hsql) (docsSuffix_sql suffix hsuffix)
      · obtain ⟨file, hfile, hfileEnds⟩ := isDependency_iff.mp hdependency
        have hname := docsSuffix_dependencySuffix suffix hsuffix file hfile
          (endswith_comparable hends hfileEnds)
        rcases hname with rfl | rfl
        · exact .requirements (Or.inl hfileEnds)
        · exact .requirements (Or.inr hfileEnds)
    · exact .underDocs hunder hexecutable
  · intro h
    cases h with
    | requirements hname =>
      have htext : Text.endswith path ".txt" = true := by
        have hends : ".txt".toList <:+ "requirements.txt".toList ∧
            ".txt".toList <:+ "requirements-prod.txt".toList := by decide
        simp only [Text.endswith, List.isSuffixOf_iff_suffix] at hname ⊢
        rcases hname with hname | hname
        · exact hends.1.trans hname
        · exact hends.2.trans hname
      refine ⟨isDocs_iff.mpr (Or.inl ⟨".txt", by decide, htext⟩), Or.inr (isDependency_iff.mpr ?_)⟩
      rcases hname with hname | hname
      · exact ⟨_, by decide, hname⟩
      · exact ⟨_, by decide, hname⟩
    | migrations suffix hsuffix hends hdirectory =>
      exact ⟨isDocs_iff.mpr (Or.inl ⟨suffix, hsuffix, hends⟩),
        Or.inl (isMigration_iff.mpr (Or.inl hdirectory))⟩
    | underDocs hunder hexecutable => exact ⟨isDocs_iff.mpr (Or.inr hunder), hexecutable⟩

theorem docsOnly_iff {change : GitChange} :
    change.docsOnly = true ↔ change.paths ≠ [] ∧ ∀ path ∈ change.paths, isDocsPath path = true := by
  simp [GitChange.docsOnly]

/-! ## The waiver -/

/-- What is not documentation only has its tests required. -/
theorem passes_with_tests {change : GitChange} {policy : LoadedPolicy} {evidence : List EvidenceItem}
    {host : Host} {result : VerificationResult} (hdocs : change.docsOnly = false)
    (hrequired : policy.data.required .tests = true)
    (hresult : verifyChange host change policy evidence = .ok result)
    (hpass : result.decision = .pass) : Has evidence .tests .pass := by
  refine (verifyChange_pass hresult hpass).1 .tests ⟨hrequired, fun hwaived => ?_⟩
  have hwaived := hwaived.2.2
  rw [hdocs] at hwaived
  cases hwaived

/-- **The waiver.** Executable change is never waived iff some path of the change is
not documentation, or no path is documentation and executable at once. -/
theorem neverWaived_iff (change : GitChange) :
    NeverWaived change ↔
      (∃ path ∈ change.paths, isDocsPath path = false) ∨
        ∀ path ∈ change.paths, ¬Overlapping (Text.lower path) := by
  constructor
  · intro h
    by_cases hdocs : ∃ path ∈ change.paths, isDocsPath path = false
    · exact Or.inl hdocs
    · refine Or.inr fun path hpath hoverlap => ?_
      have hall : ∀ path ∈ change.paths, isDocsPath path = true := by
        simpa using hdocs
      have hexecutable := executable_iff.mpr ⟨path, hpath, (overlapping_iff.mpr hoverlap).2⟩
      have honly := docsOnly_iff.mpr ⟨List.ne_nil_of_mem hpath, hall⟩
      rw [(h hexecutable).1] at honly
      cases honly
  · intro h hexecutable
    have hdocs : change.docsOnly = false := by
      obtain ⟨path, hpath, hkind⟩ := executable_iff.mp hexecutable
      rw [← Bool.not_eq_true, docsOnly_iff]
      intro h
      obtain ⟨-, hall⟩ := h
      rcases h with ⟨other, hother, hcode⟩ | h
      · exact absurd (hall other hother) (by simp [hcode])
      · exact h path hpath (overlapping_iff.mp ⟨hall path hpath, hkind⟩)
    exact ⟨hdocs, fun _ _ _ _ hrequired hresult hpass =>
      passes_with_tests hdocs hrequired hresult hpass⟩

/-- Under the built-in policy, which requires tests, a change of documentation that
matches no rule passes without any evidence. -/
theorem docs_pass {change : GitChange} (hdocs : change.docsOnly = true)
    (hrules : matchingPathRules (builtinPolicy "") change.paths = []) :
    ∃ result, verifyChange blankHost change (builtinPolicy "") [] = .ok result ∧
      result.decision = .pass := by
  have hsat : Satisfied change (builtinPolicy "") [] :=
    builtinPolicy_satisfied (docsOnly_iff.mp hdocs).1 hrules (Or.inl hdocs) nofun nofun
  exact verifyChange_passes blankHost nofun hsat

/-- A change of the requirements alone. -/
def requirementsChange : GitChange := { testedChange with paths := ["requirements.txt"] }

/-- The change is flagged as one of dependencies, and passes under the built-in
policy, which requires tests, with no evidence at all. -/
theorem requirements_waived :
    ¬NeverWaived requirementsChange ∧
      (builtinPolicy "").data.required .tests = true ∧
      ∃ result, verifyChange blankHost requirementsChange (builtinPolicy "") [] = .ok result ∧
        result.decision = .pass := by
  have hdocs : requirementsChange.docsOnly = true := by decide
  refine ⟨fun h => ?_, rfl, docs_pass hdocs (by decide)⟩
  have hexecutable := executable_iff.mpr ⟨"requirements.txt", List.mem_singleton_self _, by decide⟩
  rw [(h hexecutable).1] at hdocs
  cases hdocs

end DeployGuard.Verify
