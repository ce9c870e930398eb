import DeployGuard.Verify.Gate

/-!
# Security-sensitive paths under the built-in policy

The built-in policy asks for security evidence where a path matches one of six
patterns. What they are for is a set of paths (`Sensitive`), told by the names of
directories and files; what they match is another (`Gated`). `**/auth/**` asks for
a separator before `auth`, so the two differ at the repository root.

> `sensitive_gated_iff`: a change is gated as it should be iff one of its paths is
> gated, or none has a sensitive directory at the root.
-/

namespace DeployGuard.Verify

open Fnmatch

/-- A directory of the path has the name: before it is nothing, or a separator. -/
def HasDirectory (path name : List Char) : Prop :=
  ∃ before after, path = before ++ name ++ '/' :: after ∧ (before = [] ∨ ['/'] <:+ before)

/-- The last component of the path is the name. -/
def HasFilename (path name : List Char) : Prop :=
  ∃ before, path = before ++ name ∧ (before = [] ∨ ['/'] <:+ before)

/-- The directories whose content is sensitive. -/
def sensitiveDirectories : List (List Char) :=
  ["auth".toList, "security".toList, "migrations".toList]

/-- The path is below a sensitive directory, a workflow, or a Dockerfile. -/
def Sensitive (path : String) : Prop :=
  (∃ name ∈ sensitiveDirectories, HasDirectory path.toList name) ∨
    ".github/workflows/".toList <+: path.toList ∨ HasFilename path.toList "Dockerfile".toList

/-- A sensitive directory is the first component of the path. -/
def AtRoot (path : String) : Prop :=
  ∃ name ∈ sensitiveDirectories, name ++ ['/'] <+: path.toList

/-- The path is below a sensitive directory that is not at the root, a workflow, or
a Dockerfile. -/
def Gated (path : String) : Prop :=
  (∃ name ∈ sensitiveDirectories, '/' :: (name ++ ['/']) <:+: path.toList) ∨
    ".github/workflows/".toList <+: path.toList ∨ HasFilename path.toList "Dockerfile".toList

theorem hasDirectory_iff {path name : List Char} :
    HasDirectory path name ↔ name ++ ['/'] <+: path ∨ '/' :: (name ++ ['/']) <:+: path := by
  constructor
  · intro h
    obtain ⟨before, after, rfl, rfl | ⟨rest, rfl⟩⟩ := h
    · exact Or.inl ⟨after, by simp⟩
    · exact Or.inr ⟨rest, after, by simp⟩
  · intro h
    obtain ⟨after, rfl⟩ | ⟨rest, after, rfl⟩ := h
    · exact ⟨[], after, by simp, Or.inl rfl⟩
    · exact ⟨rest ++ ['/'], after, by simp, Or.inr (List.suffix_append ..)⟩

theorem hasFilename_iff {path name : List Char} :
    HasFilename path name ↔ path = name ∨ '/' :: name <:+ path := by
  constructor
  · intro h
    obtain ⟨before, rfl, rfl | ⟨rest, rfl⟩⟩ := h
    · exact Or.inl rfl
    · exact Or.inr ⟨rest, by simp⟩
  · intro h
    obtain rfl | ⟨rest, rfl⟩ := h
    · exact ⟨[], rfl, Or.inl rfl⟩
    · exact ⟨rest ++ ['/'], by simp, Or.inr (List.suffix_append ..)⟩

/-- What is sensitive is gated, or has its directory at the root. -/
theorem sensitive_iff {path : String} : Sensitive path ↔ Gated path ∨ AtRoot path := by
  simp only [Sensitive, Gated, AtRoot, hasDirectory_iff, and_or_left, exists_or]
  rw [or_assoc, or_comm]

/-- The rule of the built-in policy. -/
def sensitiveRule : PathRule where
  id := "security-sensitive-change"
  patterns := [".github/workflows/**", "**/auth/**", "**/security/**", "**/migrations/**",
    "**/Dockerfile", "Dockerfile"]
  requiredEvidence := [.security]

theorem builtin_rules (digest : String) : (builtinPolicy digest).data.pathRules = [sensitiveRule] := rfl

/-- The tokens of the six patterns. -/
theorem sensitiveRule_tokens :
    sensitiveRule.patterns.map (fun pattern => Fnmatch.translate pattern.length pattern.toList) =
      [".github/workflows/".toList.map .lit ++ [.star, .star],
        .star :: .star :: ("/auth/".toList.map .lit ++ [.star, .star]),
        .star :: .star :: ("/security/".toList.map .lit ++ [.star, .star]),
        .star :: .star :: ("/migrations/".toList.map .lit ++ [.star, .star]),
        .star :: .star :: "/Dockerfile".toList.map .lit, "Dockerfile".toList.map .lit] := by
  decide

/-- The six patterns match exactly the gated paths. -/
theorem matches_sensitiveRule {path : String} :
    (∃ pattern ∈ sensitiveRule.patterns, fnmatchcase path pattern = true) ↔ Gated path := by
  have htokens : (∃ pattern ∈ sensitiveRule.patterns, fnmatchcase path pattern = true) ↔
      ∃ tokens ∈ sensitiveRule.patterns.map (fun pattern => Fnmatch.translate pattern.length pattern.toList),
        matchTokens tokens path.toList = true := by
    simp only [List.mem_map, fnmatchcase, exists_exists_and_eq_and]
  rw [htokens, sensitiveRule_tokens]
  simp only [List.mem_cons, List.not_mem_nil, or_false, exists_eq_or_imp, exists_eq_left,
    matchTokens_prefix, matchTokens_infix, matchTokens_suffix, matchTokens_text]
  have hauth : '/' :: ("auth".toList ++ ['/']) = "/auth/".toList := by decide
  have hsecurity : '/' :: ("security".toList ++ ['/']) = "/security/".toList := by decide
  have hmigrations : '/' :: ("migrations".toList ++ ['/']) = "/migrations/".toList := by decide
  have hfile : '/' :: "Dockerfile".toList = "/Dockerfile".toList := by decide
  simp only [Gated, sensitiveDirectories, hasFilename_iff, List.mem_cons, List.not_mem_nil,
    or_false, exists_eq_or_imp, exists_eq_left, hauth, hsecurity, hmigrations, hfile]
  tauto

theorem sensitiveRule_matches (digest : String) {change : GitChange} :
    sensitiveRule ∈ matchingPathRules (builtinPolicy digest) change.paths ↔
      ∃ path ∈ change.paths, Gated path := by
  rw [mem_matchingPathRules, builtin_rules, and_iff_right (List.mem_singleton_self sensitiveRule)]
  exact exists_congr fun path => and_congr_right fun _ => matches_sensitiveRule

/-- A sensitive change matches the rule, and passes only with passing security
evidence. -/
def GatesSensitive (digest : String) (change : GitChange) : Prop :=
  (∃ path ∈ change.paths, Sensitive path) →
    sensitiveRule ∈ matchingPathRules (builtinPolicy digest) change.paths ∧
      ∀ host evidence result, verifyChange host change (builtinPolicy digest) evidence = .ok result →
        result.decision = .pass → Has evidence .security .pass

/-- **Sensitive changes.** Under the built-in policy a change with a sensitive path
matches the rule and passes only with passing security evidence iff one of its paths
is gated, or it has no path below a sensitive directory at the repository root. -/
theorem sensitive_gated_iff (digest : String) (change : GitChange) :
    GatesSensitive digest change ↔
      (∃ path ∈ change.paths, Gated path) ∨ ∀ path ∈ change.paths, ¬AtRoot path := by
  constructor
  · intro h
    by_cases hroot : ∃ path ∈ change.paths, AtRoot path
    · obtain ⟨path, hpath, hroot⟩ := hroot
      have hmatch := (h ⟨path, hpath, sensitive_iff.mpr (Or.inr hroot)⟩).1
      exact Or.inl ((sensitiveRule_matches digest).mp hmatch)
    · exact Or.inr fun path hpath hpathRoot => hroot ⟨path, hpath, hpathRoot⟩
  · intro h h
    obtain ⟨path, hpath, hsensitive⟩ := h
    have hgated : ∃ path ∈ change.paths, Gated path := by
      rcases h with h | h
      · exact h
      · exact ⟨path, hpath, (sensitive_iff.mp hsensitive).resolve_right (h path hpath)⟩
    have hmatch := (sensitiveRule_matches digest).mpr hgated
    refine ⟨hmatch, fun host evidence result hresult hpass => ?_⟩
    exact (verifyChange_pass hresult hpass).2 sensitiveRule hmatch .security
      (List.mem_singleton_self _)

/-- A change below `auth` at the repository root. -/
def authChange : GitChange := { testedChange with paths := ["auth/login.py"] }

/-- The change is sensitive, matches no rule, and passes on its tests and coverage. -/
theorem root_directory_escapes :
    ¬GatesSensitive "" authChange ∧
      ∃ result, verifyChange blankHost authChange (builtinPolicy "") testedEvidence = .ok result ∧
        result.decision = .pass ∧ ¬Has testedEvidence .security .pass := by
  have hmatch : matchingPathRules (builtinPolicy "") authChange.paths = [] := by decide
  constructor
  · intro h
    have hroot : AtRoot "auth/login.py" := ⟨_, List.mem_cons_self .., by decide⟩
    have hrule := (h ⟨_, List.mem_cons_self .., sensitive_iff.mpr (Or.inr hroot)⟩).1
    rw [hmatch] at hrule
    cases hrule
  · obtain ⟨result, hresult, hpass⟩ := testedEvidence_passes (by decide) hmatch
    refine ⟨result, hresult, hpass, ?_⟩
    intro h
    obtain ⟨item, hitem, hname, -⟩ := h
    simp only [testedEvidence, List.mem_cons, List.not_mem_nil, or_false] at hitem
    rcases hitem with rfl | rfl <;> exact absurd hname (by decide)

end DeployGuard.Verify
