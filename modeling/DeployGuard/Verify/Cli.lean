import DeployGuard.Verify.GitChange
import DeployGuard.Verify.Collected

/-!
# The verify command

`_verify` and `main` of `cli.py`, from the arguments to the exit code. What the
command meets is a `World`: the git of a repository, Python's libraries, the policy
file of the working tree, a variable of the environment, the files the artifact
patterns select, and what writing the receipt comes to.

> `undeclared_evidence`: without a declared commit the evidence counts as produced by
> the head; declared for another commit it is all unknown.
-/

namespace DeployGuard.Verify

open Raise

inductive PolicySource where
  | base
  | workingTree
  | builtin
  deriving DecidableEq

inductive BuildStatus where
  | success
  | failure
  | unknown
  deriving DecidableEq

def BuildStatus.value : BuildStatus → String
  | .success => "success"
  | .failure => "failure"
  | .unknown => "unknown"

/-- The arguments of the command. -/
structure Arguments where
  base : String
  head : String
  repository : Option String
  evidenceSha : Option String
  policy : String
  policySource : PolicySource
  buildStatus : BuildStatus

/-- What the policy path is in the working tree. -/
inductive PolicyFile where
  | symlink
  /-- it does not resolve -/
  | missing (message : String)
  | outside
  | content (raw : List UInt8)

/-- What writing the receipt and the summaries comes to. -/
inductive Publication where
  | outside
  | failed (message : String)
  | written

/-- What the command meets. -/
structure World where
  git : Git
  host : Host
  /-- `yaml.safe_load(raw.decode("utf-8"))` -/
  safeLoad : List UInt8 → Except VerifyError Yaml
  /-- The SHA-256 of a document's canonical JSON. -/
  digest : Yaml → String
  builtinDigest : String
  policyFile : String → PolicyFile
  /-- `os.environ.get("DEPLOYGUARD_EVIDENCE_SHA")` -/
  evidenceShaVariable : Option String
  files : ArtifactFiles
  publish : VerificationResult → Publication

/-- `load_working_tree_policy`. -/
def World.loadWorkingTreePolicy (world : World) (policyPath : String) :
    Except VerifyError LoadedPolicy :=
  match world.policyFile policyPath with
  | .symlink => .error (.valueError "policy path must not be a symbolic link")
  | .missing message => .error (.osError message)
  | .outside => .error (.valueError "policy path must remain inside the repository")
  | .content raw => parsePolicy world.safeLoad world.digest raw s!"working-tree:{policyPath}"

/-- The policy `_verify` decides by. -/
def World.loadPolicy (world : World) (args : Arguments) (change : GitChange) :
    Except VerifyError LoadedPolicy :=
  match args.policySource with
  | .base => do
    let policy ← world.git.loadPolicyFromBase world.safeLoad world.digest change.baseSha args.policy
    pure (policy.getD (builtinPolicy world.builtinDigest))
  | .workingTree => world.loadWorkingTreePolicy args.policy
  | .builtin => .ok (builtinPolicy world.builtinDigest)

/-- `re.fullmatch(r"[0-9a-f]{40,64}", s)`. -/
def isCommitId (s : String) : Bool :=
  40 ≤ s.length && s.length ≤ 64 &&
    s.toList.all fun c => c.isDigit || ('a' ≤ c && c ≤ 'f')

/-- `args.evidence_sha or os.environ.get("DEPLOYGUARD_EVIDENCE_SHA")`. -/
def declaredSha (world : World) (args : Arguments) : String :=
  Text.orElse (args.evidenceSha.getD "") (world.evidenceShaVariable.getD "")

/-- The source SHA: the declared one, else the head. -/
def sourceSha (declared headSha : String) : Except VerifyError String := do
  let sha := if declared ≠ "" then Text.lower declared else headSha
  raiseIf (isCommitId sha = false)
    (.valueError "evidence SHA must be an exact 40-64 character hexadecimal commit ID")
  pure sha

/-- `_verify`, up to the exit code. -/
def verify (world : World) (args : Arguments) : Except VerifyError VerificationResult := do
  let change ← world.git.collectGitChange args.base args.head args.repository
  let policy ← world.loadPolicy args change
  let sha ← sourceSha (declaredSha world args) change.headSha
  let evidence ← collectArtifacts world.host world.files (some sha) change.headSha
    args.buildStatus.value
  let result ← verifyChange world.host change policy evidence
  match world.publish result with
  | .outside => .error (.valueError "receipt output must remain inside the repository")
  | .failed message => .error (.osError message)
  | .written => pure result

/-- `EXIT_CODES`. -/
def exitCode : Decision → Nat
  | .pass => 0
  | .review => 2
  | .block => 3
  | .error => 4

/-- `except (GitError, OSError, ValueError, yaml.YAMLError)`. -/
def VerifyError.caught : VerifyError → Bool
  | .gitError _ | .osError _ | .valueError _ | .yamlError => true
  | _ => false

/-- How the process ends. -/
inductive Ending where
  | exit (code : Nat)
  | uncaught (e : VerifyError)

/-- `item["state"]` of the evidence of a receipt. -/
def receiptStates (receipt : Value) : List Value :=
  match getItem receipt "evidence" with
  | some (.list items) => items.map fun item => (getItem item "state").getD .none
  | _ => []

/-- No evidence is known. -/
def VerificationResult.Unknown (result : VerificationResult) : Prop :=
  ∀ state ∈ receiptStates result.receipt, state = .str EvidenceState.unknown.value

/-- Some kind of evidence is required of the change. -/
def Demands (change : GitChange) (policy : LoadedPolicy) : Prop :=
  (∃ kind, Requires change policy kind) ∨
    ∃ rule ∈ matchingPathRules policy change.paths, rule.requiredEvidence ≠ []

/-- There is nothing to measure: no report but of tests, and no test in those. -/
structure Unmeasured (world : World) (args : Arguments) : Prop where
  coverage : world.files.coverage = []
  security : world.files.security = []
  build : args.buildStatus = .unknown
  tests : ∀ path ∈ world.files.tests, ∀ root,
    parseXml world.host path.raw path.name = .ok root → root.iter "testcase" = []

/-- A verification that returned got through each of its steps. -/
theorem verify_eq_ok {world : World} {args : Arguments} {result : VerificationResult}
    (h : verify world args = .ok result) :
    ∃ change policy sha evidence,
      world.git.collectGitChange args.base args.head args.repository = .ok change ∧
      world.loadPolicy args change = .ok policy ∧
      sourceSha (declaredSha world args) change.headSha = .ok sha ∧
      collectArtifacts world.host world.files (some sha) change.headSha args.buildStatus.value =
        .ok evidence ∧
      verifyChange world.host change policy evidence = .ok result := by
  simp only [verify, bind_eq_ok] at h
  obtain ⟨change, hchange, policy, hpolicy, sha, hsha, evidence, hevidence, result', hresult, h⟩ := h
  split at h
  · cases h
  · cases h
  · cases h
    exact ⟨change, policy, sha, evidence, hchange, hpolicy, hsha, hevidence, hresult⟩

/-- The states a receipt shows are those of the evidence. -/
theorem verifyChange_unknown {host : Host} {change : GitChange} {policy : LoadedPolicy}
    {evidence : List EvidenceItem} {result : VerificationResult}
    (h : verifyChange host change policy evidence = .ok result) :
    result.Unknown ↔ AllUnknown evidence := by
  have hstates : receiptStates result.receipt =
      (evidence.mergeSort itemLe).map fun item => .str item.state.value := by
    simp only [verifyChange, bind_eq_ok, pure_eq_ok] at h
    obtain ⟨evaluation, -, digest, -, rfl⟩ := h
    show ((evidence.mergeSort itemLe).map EvidenceItem.toDict).map _ = _
    rw [List.map_map]
    rfl
  rw [VerificationResult.Unknown, hstates, List.forall_mem_map]
  have hvalue : ∀ state : EvidenceState, Value.str state.value = .str EvidenceState.unknown.value ↔
      state = .unknown := by
    intro state
    cases state <;> decide
  simp only [hvalue, List.mem_mergeSort, AllUnknown]

/-- Unknown evidence does not pass where some is required. -/
theorem unknown_not_pass {host : Host} {change : GitChange} {policy : LoadedPolicy}
    {evidence : List EvidenceItem} {result : VerificationResult}
    (h : verifyChange host change policy evidence = .ok result) (hunknown : AllUnknown evidence)
    (hdemands : Demands change policy) : result.decision ≠ .pass := by
  intro hpass
  obtain ⟨hkinds, hrules⟩ := verifyChange_pass h hpass
  rcases hdemands with ⟨kind, hkind⟩ | ⟨rule, hrule, hne⟩
  · exact hunknown.not_has kind (by decide) (hkinds kind hkind)
  · obtain ⟨kind, hkind⟩ := List.exists_mem_of_ne_nil _ hne
    exact hunknown.not_has kind (by decide) (hrules rule hrule kind hkind)

/-- The artifacts of a kind are parsed one by one. -/
theorem parseAll_eq_mapM (parser : Artifact → Except VerifyError EvidenceItem) (paths : List Artifact) :
    parseAll parser paths = paths.mapM parser := by
  induction paths with
  | nil => rfl
  | cons path paths ih =>
    rw [parseAll, List.mapM_cons, ih]

/-! ### What is measured at the head -/

section Measured

variable {host : Host} {path : Artifact} {sha : String} {item : EvidenceItem}

/-- A current JUnit report is unknown when it has no test case. -/
theorem parseJunit_unknown_iff (h : parseJunit host path (some sha) sha = .ok item) :
    item.state = .unknown ↔
      ∀ root, parseXml host path.raw path.name = .ok root → root.iter "testcase" = [] := by
  simp only [parseJunit, bind_eq_ok, pure_eq_ok] at h
  obtain ⟨raw, hraw, root, hroot, _, -, rfl⟩ := h
  obtain rfl := artifactBytes_eq_ok hraw
  have hstate : (junitState (junitCounts root) (some sha) sha).1 = .unknown ↔
      root.iter "testcase" = [] := by
    rw [← List.length_eq_zero_iff]
    unfold junitState
    rw [if_neg (by simp)]
    show _ ↔ (junitCounts root).tests = 0
    split
    · next hnone => exact iff_of_true rfl hnone
    · next hsome =>
      refine iff_of_false ?_ hsome
      split <;> simp
  rw [hroot]
  constructor
  · intro hunknown _ h
    cases h
    exact hstate.mp hunknown
  · exact fun hnone => hstate.mpr (hnone root rfl)

/-- A current coverage report is never unknown. -/
theorem parseCoverage_known (h : parseCoverage host path (some sha) sha = .ok item) :
    item.state ≠ .unknown := by
  simp only [parseCoverage, bind_eq_ok, pure_eq_ok] at h
  obtain ⟨raw, -, rate, -, rfl⟩ := h
  simp [coverageState]

/-- A current SARIF report is never unknown. -/
theorem parseSarif_known (h : parseSarif host path (some sha) sha = .ok item) :
    item.state ≠ .unknown := by
  simp only [parseSarif, bind_eq_ok, pure_eq_ok] at h
  obtain ⟨raw, -, payload, -, severities, -, rfl⟩ := h
  show (sarifState severities (some sha) sha).1 ≠ .unknown
  unfold sarifState
  rw [if_neg (by simp)]
  split <;> simp

/-- The build is unknown when it was said to be. -/
theorem buildItems_unknown_iff (sha : String) (status : BuildStatus) :
    AllUnknown (buildItems (some sha) sha status.value) ↔ status = .unknown := by
  cases status <;> simp [AllUnknown, buildItems, buildState, BuildStatus.value]

end Measured

/-- Without unknown reports all is unknown only where there are none. -/
theorem parseAll_known {parser : Artifact → Except VerifyError EvidenceItem} {paths : List Artifact}
    {items : List EvidenceItem} (h : parseAll parser paths = .ok items)
    (hknown : ∀ {path item}, parser path = .ok item → item.state ≠ .unknown) :
    AllUnknown items ↔ paths = [] := by
  rw [parseAll_eq_mapM] at h
  obtain ⟨hpaths, hitems⟩ := mapM_mem h
  constructor
  · intro hunknown
    refine List.eq_nil_iff_forall_not_mem.mpr fun path hpath => ?_
    obtain ⟨item, hitem, hparsed⟩ := hpaths path hpath
    exact hknown hparsed (hunknown item hitem)
  · intro h item hitem
    obtain rfl := h
    obtain ⟨path, hpath, -⟩ := hitems item hitem
    cases hpath

/-- Collected for the head itself, all evidence is unknown iff there is nothing to measure. -/
theorem collectArtifacts_unknown_iff {world : World} {args : Arguments} {sha : String}
    {evidence : List EvidenceItem}
    (h : collectArtifacts world.host world.files (some sha) sha args.buildStatus.value = .ok evidence) :
    AllUnknown evidence ↔ Unmeasured world args := by
  simp only [collectArtifacts, bind_eq_ok, pure_eq_ok] at h
  obtain ⟨tests, htests, coverage, hcoverage, security, hsecurity, rfl⟩ := h
  have hjunit : AllUnknown tests ↔ ∀ path ∈ world.files.tests, ∀ root,
      parseXml world.host path.raw path.name = .ok root → root.iter "testcase" = [] := by
    rw [parseAll_eq_mapM] at htests
    obtain ⟨hpaths, hitems⟩ := mapM_mem htests
    constructor
    · intro hunknown path hpath
      obtain ⟨item, hitem, hparsed⟩ := hpaths path hpath
      exact (parseJunit_unknown_iff hparsed).mp (hunknown item hitem)
    · intro hnone item hitem
      obtain ⟨path, hpath, hparsed⟩ := hitems item hitem
      exact (parseJunit_unknown_iff hparsed).mpr (hnone path hpath)
  have hcov := parseAll_known hcoverage parseCoverage_known
  have hsec := parseAll_known hsecurity parseSarif_known
  have hbuild := buildItems_unknown_iff sha args.buildStatus
  have hparts : AllUnknown ((tests ++ coverage ++ security ++
      buildItems (some sha) sha args.buildStatus.value).mergeSort itemLe) ↔
      AllUnknown tests ∧ AllUnknown coverage ∧ AllUnknown security ∧
        AllUnknown (buildItems (some sha) sha args.buildStatus.value) := by
    simp only [AllUnknown, List.mem_mergeSort, List.mem_append, or_imp, forall_and, and_assoc]
  rw [hparts, hjunit, hcov, hsec, hbuild]
  constructor
  · intro h
    obtain ⟨ht, hc, hs, hb⟩ := h
    exact ⟨hc, hs, hb, ht⟩
  · intro h
    obtain ⟨hc, hs, hb, ht⟩ := h
    exact ⟨ht, hc, hs, hb⟩

/-! ### What is declared -/

/-- A declared commit is taken in lower case. -/
theorem sourceSha_declared {declared headSha sha : String} (h : sourceSha declared headSha = .ok sha)
    (hdeclared : declared ≠ "") : sha = Text.lower declared := by
  simp only [sourceSha, bind_eq_ok, pure_eq_ok, if_pos hdeclared] at h
  obtain ⟨_, -, rfl⟩ := h
  rfl

/-- Without one the head is taken. -/
theorem sourceSha_undeclared {headSha sha : String} (h : sourceSha "" headSha = .ok sha) :
    sha = headSha := by
  simp only [sourceSha, bind_eq_ok, pure_eq_ok, ne_eq, not_true_eq_false, if_false] at h
  obtain ⟨_, -, rfl⟩ := h
  rfl

/-- A commit that git resolved is in lower case. -/
theorem resolveCommit_lower {git : Git} {revision sha : String}
    (h : git.resolveCommit revision = .ok sha) : Text.lower sha = sha := by
  simp only [Git.resolveCommit, bind_eq_ok, pure_eq_ok] at h
  obtain ⟨_, -, resolved, -, rfl⟩ := h
  exact Text.lower_idem _

/-- The head is the commit its revision resolves to. -/
theorem collectGitChange_headSha {git : Git} {base head : String} {repository : Option String}
    {change : GitChange} (h : git.collectGitChange base head repository = .ok change) :
    git.resolveCommit head = .ok change.headSha := by
  simp only [Git.collectGitChange, bind_eq_ok, pure_eq_ok] at h
  obtain ⟨_, -, _, -, _, -, headSha, hhead, _, -, _, -, _, -, _, -, ⟨_, _⟩, -, _, -, _, -, _, -, rfl⟩ := h
  exact hhead

/-- Declaring the head is the same as declaring nothing. -/
theorem sourceSha_head {headSha : String} (hlower : Text.lower headSha = headSha) :
    sourceSha headSha headSha = sourceSha "" headSha := by
  unfold sourceSha
  by_cases hempty : headSha = ""
  · rw [hempty]
  · simp only [hlower, ne_eq, not_true_eq_false, if_false, hempty,
      not_false_eq_true, if_true]

/-- Declaring nothing is declaring the head. -/
theorem verify_undeclared {world : World} {args : Arguments} {change : GitChange}
    (hundeclared : declaredSha world args = "")
    (hchange : world.git.collectGitChange args.base args.head args.repository = .ok change) :
    verify world { args with evidenceSha := some change.headSha } = verify world args := by
  have hvariable : world.evidenceShaVariable.getD "" = "" := by
    unfold declaredSha Text.orElse at hundeclared
    split at hundeclared
    · exact hundeclared
    · next hoption => exact absurd hundeclared hoption
  have hdeclared : declaredSha world { args with evidenceSha := some change.headSha } =
      change.headSha := by
    unfold declaredSha Text.orElse
    rw [Option.getD_some, hvariable]
    split
    · next hempty => exact hempty.symm
    · rfl
  have hlower := resolveCommit_lower (collectGitChange_headSha hchange)
  unfold verify
  simp only [hchange, bind_ok, hdeclared, hundeclared, sourceSha_head hlower]
  rfl

/-- **Undeclared evidence.** A run that ends with a receipt decides on a change by a
policy. Without a declared commit it is the run that declares the head, and all its
evidence is unknown iff there was nothing to measure. With another commit declared, all
its evidence is unknown. And where all is unknown, the run does not pass if any evidence
is required. -/
theorem undeclared_evidence {world : World} {args : Arguments} {result : VerificationResult}
    (h : verify world args = .ok result) :
    ∃ change policy,
      world.git.collectGitChange args.base args.head args.repository = .ok change ∧
      world.loadPolicy args change = .ok policy ∧
      (declaredSha world args = "" →
        verify world { args with evidenceSha := some change.headSha } = .ok result ∧
        (result.Unknown ↔ Unmeasured world args)) ∧
      (declaredSha world args ≠ "" → Text.lower (declaredSha world args) ≠ change.headSha →
        result.Unknown) ∧
      (result.Unknown → Demands change policy → result.decision ≠ .pass) := by
  obtain ⟨change, policy, sha, evidence, hchange, hpolicy, hsha, hevidence, hresult⟩ :=
    verify_eq_ok h
  have hstates := verifyChange_unknown hresult
  refine ⟨change, policy, hchange, hpolicy, fun hundeclared => ⟨?_, ?_⟩, fun hdeclared hother => ?_,
    fun hunknown hdemands => unknown_not_pass hresult (hstates.mp hunknown) hdemands⟩
  · rw [verify_undeclared hundeclared hchange, h]
  · rw [hundeclared] at hsha
    rw [sourceSha_undeclared hsha] at hevidence
    rw [hstates, collectArtifacts_unknown_iff hevidence]
  · rw [hstates]
    intro item hitem
    obtain ⟨kind, hkind⟩ := (collectArtifacts_ok hevidence).1 item hitem
    -- what is collected for another commit than the head is unknown
    refine hkind.stale fun hsame => hother ?_
    rw [← sourceSha_declared hsha hdeclared, Option.some.inj hsame]

/-! ### A run on one report -/

/-- A host on which every XML document is a suite of one passing test. -/
def suiteHost : Host :=
  { blankHost with fromstring := fun _ => .ok (.mk "testsuite" [] [.mk "testcase" [] []]) }

def suiteArtifact : Artifact where
  path := "/repo/junit.xml"
  name := "junit.xml"
  source := "junit.xml"
  isSymlink := false
  raw := toBytes "<testsuite><testcase/></testsuite>"

/-- A topic branch with one changed file and a report of its tests. -/
def topicWorld : World where
  git := topicGit "src/cart.py\x00"
  host := suiteHost
  safeLoad _ := .error .yamlError
  digest _ := ""
  builtinDigest := ""
  policyFile _ := .missing "No such file or directory"
  evidenceShaVariable := none
  files := { tests := [suiteArtifact], coverage := [], security := [] }
  publish _ := .written

/-- The command without a declared commit. -/
def topicArguments : Arguments where
  base := "main"
  head := "topic"
  repository := some "acme/shop"
  evidenceSha := none
  policy := ".deployguard/policy.yml"
  policySource := .base
  buildStatus := .unknown

def suiteItem : EvidenceItem where
  id := "tests-"
  kind := "tests"
  state := .pass
  source := "junit.xml"
  sourceSha := some topicSha
  artifactSha256 := some ""
  summary := "1 tests passed; 0 skipped."
  metrics := [("tests", .int 1), ("failures", .int 0), ("errors", .int 0), ("skipped", .int 0)]

/-- The run collects the report's item and passes. -/
theorem topicWorld_verify :
    ∃ result, verify topicWorld topicArguments = .ok result ∧ result.decision = .pass ∧
      ¬result.Unknown := by
  have hnames : captured "src/cart.py\x00" = "src/cart.py\x00" := rfl
  have hchange := topicGit_collect "src/cart.py\x00"
  rw [hnames] at hchange
  have hpolicy : topicWorld.loadPolicy topicArguments (topicChange "src/cart.py\x00") =
      .ok (builtinPolicy "") := rfl
  have hsha : sourceSha (declaredSha topicWorld topicArguments) topicSha = .ok topicSha := rfl
  have hevidence : collectArtifacts suiteHost topicWorld.files (some topicSha) topicSha "unknown" =
      .ok [suiteItem] := by
    have hitem : parseJunit suiteHost suiteArtifact (some topicSha) topicSha = .ok suiteItem := rfl
    simp [collectArtifacts, topicWorld, parseAll, hitem, buildItems]
  -- Reduction stops at the sort, so the one path is rewritten out.
  have hpaths : (topicChange "src/cart.py\x00").paths = ["src/cart.py"] := by
    have hsplit : (Text.split '\x00' "src/cart.py\x00").filter (fun path => path ≠ "") =
        ["src/cart.py"] := by decide
    have hplain : Text.replace "src/cart.py" "\\" "/" = "src/cart.py" := by decide
    show listedPaths "src/cart.py\x00" = _
    rw [listedPaths, hsplit, List.map_singleton, hplain, List.mergeSort_singleton]
  have hread : ∀ item ∈ [suiteItem], item.Readable := by
    intro item hitem
    obtain rfl := List.mem_singleton.mp hitem
    exact ⟨rfl, fun hname => absurd hname (by decide), fun hname => absurd hname (by decide)⟩
  have hrules : matchingPathRules (builtinPolicy "") (topicChange "src/cart.py\x00").paths = [] := by
    rw [hpaths]
    decide
  -- With a passing suite on record the built-in policy is met.
  have hsat : Satisfied (topicChange "src/cart.py\x00") (builtinPolicy "") [suiteItem] :=
    builtinPolicy_satisfied (by rw [hpaths]; decide) hrules
      (Or.inr ⟨_, List.mem_singleton_self _, rfl, rfl⟩) (by decide) (by decide)
  obtain ⟨result, hresult, hpass⟩ := verifyChange_passes suiteHost hread hsat
  refine ⟨result, ?_, hpass, fun hunknown => ?_⟩
  · -- the steps of the command one after another, each with the answer found above
    have hhead : (topicChange "src/cart.py\x00").headSha = topicSha := rfl
    unfold verify
    rw [show topicWorld.git.collectGitChange topicArguments.base topicArguments.head
      topicArguments.repository = .ok (topicChange "src/cart.py\x00") from hchange, bind_ok, hpolicy,
      bind_ok, hhead, hsha, bind_ok]
    rw [show collectArtifacts topicWorld.host topicWorld.files (some topicSha) topicSha
      topicArguments.buildStatus.value = .ok [suiteItem] from hevidence, bind_ok]
    rw [show verifyChange topicWorld.host (topicChange "src/cart.py\x00") (builtinPolicy "")
      [suiteItem] = .ok result from hresult]
    rfl
  · exact absurd ((verifyChange_unknown hresult).mp hunknown suiteItem (List.mem_singleton_self _))
      (by decide)

/-- The example declares nothing. -/
theorem topic_undeclared : declaredSha topicWorld topicArguments = "" := rfl

/-- The run is the one that declares the head. -/
theorem undeclared_evidence_topic :
    ∃ (result : VerificationResult) (change : GitChange), verify topicWorld topicArguments = .ok result ∧
      verify topicWorld { topicArguments with evidenceSha := some change.headSha } = .ok result := by
  obtain ⟨result, hresult, -⟩ := topicWorld_verify
  obtain ⟨change, policy, -, -, hundeclared, -⟩ := undeclared_evidence hresult
  exact ⟨result, change, hresult, (hundeclared topic_undeclared).1⟩

/-- Evidence that nobody declared passes a policy that requires tests. -/
theorem undeclared_trusted :
    declaredSha topicWorld topicArguments = "" ∧ (builtinPolicy "").data.required .tests = true ∧
      ∃ result, verify topicWorld topicArguments = .ok result ∧ ¬result.Unknown ∧
        result.decision = .pass := by
  obtain ⟨result, hresult, hpass, hknown⟩ := topicWorld_verify
  exact ⟨topic_undeclared, rfl, result, hresult, hknown, hpass⟩

end DeployGuard.Verify
