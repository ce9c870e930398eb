import DeployGuard.Verify.Models
import Mathlib.Data.List.Perm.Basic

/-!
# Evidence artifacts

The three parsers of `evidence.py` and `collect_artifacts`. An artifact is a file
as the collector finds it; what XML, JSON and SHA-256 make of its bytes is the
`Host`. Each parser measures first (`junitCounts`, `coverageRate`,
`sarifSeverities`) and then decides the item's state, from the source SHA before
anything it measured.
-/

namespace DeployGuard.Verify

open Raise

/-- An element of an XML document. -/
inductive Element where
  | mk (tag : String) (attrib : List (String × String)) (children : List Element)

namespace Element

def tag : Element → String
  | mk tag _ _ => tag

def attrib : Element → List (String × String)
  | mk _ attrib _ => attrib

def children : Element → List Element
  | mk _ _ children => children

mutual
/-- `element.iter(tag)`: the element and its descendants, in document order. -/
def iter (name : String) : Element → List Element
  | mk tag attrib children =>
    let rest := iterList name children
    if tag = name then mk tag attrib children :: rest else rest

def iterList (name : String) : List Element → List Element
  | [] => []
  | e :: es => iter name e ++ iterList name es
end

/-- `element.find(tag) is not None`. -/
def has (e : Element) (name : String) : Bool := e.children.any fun child => child.tag = name

/-- `element.tag.rsplit("}", 1)[-1]`. -/
def localName (e : Element) : String :=
  String.ofList (e.tag.toList.reverse.takeWhile (· ≠ '}')).reverse

end Element

/-- What the parsers take from Python's libraries. -/
structure Host where
  /-- `hashlib.sha256(raw).hexdigest()` -/
  sha256 : List UInt8 → String
  /-- `ET.fromstring(raw)` -/
  fromstring : List UInt8 → Except VerifyError Element
  /-- `json.loads(raw)` -/
  loads : List UInt8 → Except VerifyError Value
  /-- `raw.decode("utf-8", errors="replace")` -/
  decode : List UInt8 → String
  /-- `str(v)` of a value that is neither text, a bool, an integer nor `None` -/
  repr : Value → String
  /-- The SHA-256 of a value's canonical JSON. -/
  digest : Value → String

/-- A file an artifact pattern matched. -/
structure Artifact where
  /-- `str(path)` -/
  path : String
  /-- `path.name` -/
  name : String
  /-- The path relative to the repository root. -/
  source : String
  isSymlink : Bool
  raw : List UInt8

def maxArtifactBytes : Nat := 16 * 1024 * 1024

/-- `_artifact_bytes`. -/
def artifactBytes (path : Artifact) : Except VerifyError (List UInt8) := do
  raiseIf path.isSymlink (.valueError s!"artifact must not be a symbolic link: {path.path}")
  raiseIf (maxArtifactBytes < path.raw.length)
    (.valueError s!"artifact exceeds the 16 MiB limit: {path.name}")
  pure path.raw

/-- `_artifact_id`. -/
def artifactId (kind : Kind) (digest : String) : String :=
  s!"{kind.name}-{Text.take 16 digest}"

def toBytes (s : String) : List UInt8 := s.toList.map fun c => c.toNat.toUInt8

/-- `raw.upper()`. -/
def upperBytes (raw : List UInt8) : List UInt8 :=
  raw.map fun b => if 97 ≤ b ∧ b ≤ 122 then b - 32 else b

/-- `needle in raw`. -/
def containsBytes (raw needle : List UInt8) : Bool := raw.tails.any needle.isPrefixOf

/-- `_parse_xml`. -/
def parseXml (host : Host) (raw : List UInt8) (source : String) : Except VerifyError Element := do
  let upper := upperBytes (raw.take 4096)
  raiseIf (containsBytes upper (toBytes "<!DOCTYPE") ∨ containsBytes upper (toBytes "<!ENTITY"))
    (.valueError s!"XML entities are not allowed in {source}")
  match host.fromstring raw with
  | .ok root => pure root
  | .error .parseError => .error (.valueError s!"invalid XML artifact {source}")
  | .error e => .error e

/-! ## JUnit -/

structure JunitCounts where
  tests : Nat
  failures : Nat
  errors : Nat
  skipped : Nat
  deriving DecidableEq

/-- What `parse_junit` counts. -/
def junitCounts (root : Element) : JunitCounts :=
  let cases := root.iter "testcase"
  { tests := cases.length
    failures := cases.countP fun case => case.has "failure"
    errors := cases.countP fun case => case.has "error"
    skipped := cases.countP fun case => case.has "skipped" }

/-- The state and the summary `parse_junit` decides. -/
def junitState (counts : JunitCounts) (sourceSha : Option String) (expectedSha : String) :
    EvidenceState × String :=
  if sourceSha ≠ some expectedSha then
    (.unknown, "JUnit source SHA does not match the change head SHA.")
  else if counts.tests = 0 then
    (.unknown, "JUnit report contains no test cases.")
  else if counts.failures ≠ 0 ∨ counts.errors ≠ 0 then
    (.fail, s!"{counts.failures + counts.errors} of {counts.tests} tests failed or errored.")
  else
    (.pass, s!"{(counts.tests : Int) - counts.skipped} tests passed; {counts.skipped} skipped.")

/-- `parse_junit`. -/
def parseJunit (host : Host) (path : Artifact) (sourceSha : Option String)
    (expectedSha : String) : Except VerifyError EvidenceItem := do
  let raw ← artifactBytes path
  let digest := host.sha256 raw
  let root ← parseXml host raw path.name
  raiseIf (root.localName ∉ ["testsuite", "testsuites"])
    (.valueError s!"{path.name} is not a JUnit test report")
  let counts := junitCounts root
  let (state, summary) := junitState counts sourceSha expectedSha
  pure
    { id := artifactId .tests digest
      kind := Kind.tests.name
      state, summary, sourceSha
      source := path.source
      artifactSha256 := some digest
      metrics := [("tests", .int counts.tests), ("failures", .int counts.failures),
        ("errors", .int counts.errors), ("skipped", .int counts.skipped)] }

/-! ## Coverage -/

/-- `path.suffix`. -/
def suffix (name : String) : String :=
  let reversed := name.toList.reverse
  let extension := reversed.takeWhile (· ≠ '.')
  let stem := reversed.drop (extension.length + 1)
  if extension = [] ∨ stem = [] then "" else "." ++ String.ofList extension.reverse

/-- `int(text)`, or the `ValueError`. -/
def intOf (text : String) : Except VerifyError Int := toInt (.str text)

/-- `hit / found if found else 0.0`. -/
def lineRate (hit found : Int) : Except VerifyError ℚ :=
  if found = 0 then .ok 0
  else if FloatVal.overflowBound ≤ |(hit : ℚ) / found| then .error .overflowError
  else .ok ((hit : ℚ) / found)

/-- The loop over the lines of an LCOV file: lines found and lines hit. -/
def lcovTotals (found hit : Int) : List String → Except VerifyError (Int × Int)
  | [] => .ok (found, hit)
  | line :: lines =>
    let rest := String.ofList (line.toList.drop 3)
    if Text.startswith line "LF:" then do
      let n ← intOf rest
      lcovTotals (found + n) hit lines
    else if Text.startswith line "LH:" then do
      let n ← intOf rest
      lcovTotals found (hit + n) lines
    else lcovTotals found hit lines

/-- The LCOV branch of `_coverage_rate`. -/
def lcovRate (path : Artifact) (text : String) :
    Except VerifyError (ℚ × List (String × Value)) := do
  let (found, hit) ← lcovTotals 0 0 (Text.splitlines text)
  let rate ← lineRate hit found
  raiseIf (found < 0 ∨ hit < 0 ∨ found < hit)
    (.valueError s!"LCOV line totals are invalid in {path.name}")
  pure (rate, [("lines_found", .int found), ("lines_hit", .int hit)])

/-- How many of the lines have hits. -/
def linesHit : List Element → Except VerifyError Nat
  | [] => .ok 0
  | line :: lines => do
    let hits ← intOf ((line.attrib.lookup "hits").getD "0")
    let rest ← linesHit lines
    pure (if hits > 0 then rest + 1 else rest)

/-- `float(raw_rate)`, refused outside `0..1`. -/
def statedRate (path : Artifact) (rawRate : String) : Except VerifyError ℚ := do
  let rate ← toFloat (.str rawRate)
  match rate with
  | .finite q =>
    if 0 ≤ q ∧ q ≤ 1 then .ok q
    else .error (.valueError s!"coverage line-rate is invalid in {path.name}")
  | _ => .error (.valueError s!"coverage line-rate is invalid in {path.name}")

/-- The Cobertura branch of `_coverage_rate`. -/
def coberturaRate (path : Artifact) (root : Element) :
    Except VerifyError (ℚ × List (String × Value)) := do
  raiseIf (root.localName ≠ "coverage")
    (.valueError s!"{path.name} is not a Cobertura coverage document")
  match root.attrib.lookup "line-rate" with
  | none =>
    let lines := root.iter "line"
    let hit ← linesHit lines
    let rate ← lineRate hit lines.length
    pure (rate, [("lines_found", .int lines.length), ("lines_hit", .int hit)])
  | some rawRate =>
    let rate ← statedRate path rawRate
    pure (rate, [])

/-- `_coverage_rate`. The `line_rate` metric, which the caller adds in any case,
is left to it. -/
def coverageRate (host : Host) (path : Artifact) (raw : List UInt8) :
    Except VerifyError (ℚ × List (String × Value)) :=
  if Text.lower (suffix path.name) = ".info" ∨ (toBytes "TN:").isPrefixOf raw then
    lcovRate path (host.decode raw)
  else do
    let root ← parseXml host raw path.name
    coberturaRate path root

/-- The state and the summary `parse_coverage` decides. -/
def coverageState (rate : ℚ) (sourceSha : Option String) (expectedSha : String) :
    EvidenceState × String :=
  if sourceSha ≠ some expectedSha then
    (.unknown, "Coverage source SHA does not match the change head SHA.")
  else (.pass, s!"Reported line coverage is {Number.percent rate}.")

/-- `parse_coverage`. -/
def parseCoverage (host : Host) (path : Artifact) (sourceSha : Option String)
    (expectedSha : String) : Except VerifyError EvidenceItem := do
  let raw ← artifactBytes path
  let digest := host.sha256 raw
  let (rate, metrics) ← coverageRate host path raw
  let (state, summary) := coverageState rate sourceSha expectedSha
  pure
    { id := artifactId .coverage digest
      kind := Kind.coverage.name
      state, summary, sourceSha
      source := path.source
      artifactSha256 := some digest
      metrics := metrics ++ [("line_rate", .float (.finite (Number.round rate 6)))] }

/-! ## SARIF -/

/-- `v.get(key)` of a dictionary. -/
def getItem (value : Value) (key : String) : Option Value :=
  match value with
  | .dict items => Value.lookup items key
  | _ => none

def isDict : Value → Bool
  | .dict _ => true
  | _ => false

/-- `str(v)`. -/
def strOf (host : Host) : Value → String
  | .str s => s
  | .int n => toString n
  | .bool b => if b then "True" else "False"
  | .none => "None"
  | value => host.repr value

/-- `for x in v`: the keys of a dictionary and the characters of a text count too. -/
def iterate : Value → Except VerifyError (List Value)
  | .list xs => .ok xs
  | .dict items => .ok (items.map fun item => .str item.1)
  | .str s => .ok (s.toList.map fun c => .str (String.ofList [c]))
  | _ => .error (.typeError "object is not iterable")

/-- `value.get("properties")`, if that is a dictionary, else `{}`. -/
def propertiesOf (value : Value) : Value :=
  match getItem value "properties" with
  | some (.dict items) => .dict items
  | _ => .dict []

/-- The rules of a driver by id: of two rules with one id the later one counts. -/
def ruleById (host : Host) (rules : List Value) (id : String) : Value :=
  let named := rules.filter fun rule =>
    isDict rule && ((getItem rule "id").getD .none).truthy &&
      strOf host ((getItem rule "id").getD .none) = id
  named.getLast?.getD (.dict [])

/-- `float(raw_score)`, with `None` for what is no number. -/
def scoreOf (raw : Value) : Except VerifyError (Option FloatVal) :=
  match toFloat raw with
  | .ok x => .ok (some x)
  | .error .overflowError => .error .overflowError
  | .error _ => .ok none

/-- The bucket of a finite score. -/
def scoreSeverity (score : ℚ) : Severity :=
  if 9 ≤ score then .critical
  else if 7 ≤ score then .high
  else if 4 ≤ score then .medium
  else .low

/-- The bucket of a level. -/
def levelSeverity (level : String) : Severity :=
  match level with
  | "error" => .high
  | "warning" => .medium
  | "note" => .note
  | _ => .medium

/-- `_sarif_severity`. -/
def sarifSeverity (host : Host) (rules : List Value) (result : Value) :
    Except VerifyError Severity := do
  let rule := ruleById host rules (strOf host ((getItem result "ruleId").getD (.str "")))
  let rawScore := (getItem (propertiesOf result) "security-severity").getD
    ((getItem (propertiesOf rule) "security-severity").getD .none)
  match ← scoreOf rawScore with
  | some (.finite score) => pure (scoreSeverity score)
  | _ =>
    pure (levelSeverity (Text.lower (strOf host ((getItem result "level").getD (.str "warning")))))

/-- The severities of a run's results: dictionaries that are not suppressed. -/
def resultSeverities (host : Host) (rules : List Value) :
    List Value → Except VerifyError (List Severity)
  | [] => .ok []
  | result :: results =>
    if isDict result ∧ ((getItem result "suppressions").getD .none).truthy = false then do
      let severity ← sarifSeverity host rules result
      let rest ← resultSeverities host rules results
      pure (severity :: rest)
    else resultSeverities host rules results

/-- The driver of a run, and its results. -/
def runParts (path : Artifact) (run : Value) : Except VerifyError (Value × List Value) := do
  raiseIf (isDict run = false) (.valueError s!"{path.name} SARIF run must be an object")
  let driver := (getItem ((getItem run "tool").getD .none) "driver").getD .none
  raiseIf (isDict driver = false) (.valueError s!"{path.name} SARIF run is missing tool.driver")
  match (getItem run "results").getD (.list []) with
  | .list results => pure (driver, results)
  | _ => .error (.valueError s!"{path.name} SARIF results must be a list")

/-- The loop over the runs. -/
def runSeverities (host : Host) (path : Artifact) :
    List Value → Except VerifyError (List Severity)
  | [] => .ok []
  | run :: runs => do
    let (driver, results) ← runParts path run
    let rules ← iterate ((getItem driver "rules").getD (.list []))
    let severities ← resultSeverities host rules results
    let rest ← runSeverities host path runs
    pure (severities ++ rest)

/-- The severities of all results of a log. -/
def sarifSeverities (host : Host) (path : Artifact) (payload : Value) :
    Except VerifyError (List Severity) := do
  raiseIf (getItem payload "version" ≠ some (.str "2.1.0"))
    (.valueError s!"{path.name} is not SARIF 2.1.0")
  match getItem payload "runs" with
  | some (.list runs) => runSeverities host path runs
  | _ => .error (.valueError s!"{path.name} SARIF runs must be a list")

/-- The state and the summary `parse_sarif` decides. -/
def sarifState (severities : List Severity) (sourceSha : Option String) (expectedSha : String) :
    EvidenceState × String :=
  if sourceSha ≠ some expectedSha then
    (.unknown, "SARIF source SHA does not match the change head SHA.")
  else if severities.count .critical ≠ 0 ∨ severities.count .high ≠ 0 then
    (.fail, s!"SARIF contains {severities.count .critical} critical and " ++
      s!"{severities.count .high} high findings.")
  else (.pass, s!"SARIF contains no critical or high findings ({severities.length} total).")

/-- `parse_sarif`. -/
def parseSarif (host : Host) (path : Artifact) (sourceSha : Option String)
    (expectedSha : String) : Except VerifyError EvidenceItem := do
  let raw ← artifactBytes path
  let digest := host.sha256 raw
  let payload ← host.loads raw
  let severities ← sarifSeverities host path payload
  let (state, summary) := sarifState severities sourceSha expectedSha
  pure
    { id := artifactId .security digest
      kind := Kind.security.name
      state, summary, sourceSha
      source := path.source
      artifactSha256 := some digest
      metrics := (Severity.all.map fun s => (s.name, Value.int (severities.count s))) ++
        [("total", .int severities.length)] }

/-! ## `collect_artifacts` -/

/-- The order of `sorted(items, key=lambda item: (item.kind, item.source, item.id))`. -/
def itemLe (a b : EvidenceItem) : Bool :=
  a.kind < b.kind || (a.kind = b.kind && (a.source < b.source ||
    (a.source = b.source && a.id ≤ b.id)))

/-- The files each parser is given, in the order of `expand_artifact_patterns`. -/
structure ArtifactFiles where
  tests : List Artifact
  coverage : List Artifact
  security : List Artifact

/-- One kind's round of the collecting loop. -/
def parseAll (parser : Artifact → Except VerifyError EvidenceItem) :
    List Artifact → Except VerifyError (List EvidenceItem)
  | [] => .ok []
  | path :: paths => do
    let item ← parser path
    let items ← parseAll parser paths
    pure (item :: items)

/-- The state and the summary of a reported build status. -/
def buildState (buildStatus : String) (sourceSha : Option String) (expectedSha : String) :
    EvidenceState × String :=
  if sourceSha ≠ some expectedSha then
    (.unknown, "Build source SHA does not match the change head SHA.")
  else
    (if buildStatus = "success" then .pass else .fail,
      s!"Build status was reported as {buildStatus}.")

/-- The item of the reported build status; `unknown` reports none. -/
def buildItems (sourceSha : Option String) (expectedSha buildStatus : String) :
    List EvidenceItem :=
  if buildStatus = "unknown" then []
  else
    [{ id := s!"build-{Text.take 16 expectedSha}"
       kind := Kind.build.name
       state := (buildState buildStatus sourceSha expectedSha).1
       source := "ci:build-status"
       sourceSha
       artifactSha256 := none
       summary := (buildState buildStatus sourceSha expectedSha).2
       metrics := [("status", .str buildStatus)] }]

/-- `collect_artifacts`. -/
def collectArtifacts (host : Host) (files : ArtifactFiles) (sourceSha : Option String)
    (expectedSha buildStatus : String) : Except VerifyError (List EvidenceItem) := do
  let tests ← parseAll (parseJunit host · sourceSha expectedSha) files.tests
  let coverage ← parseAll (parseCoverage host · sourceSha expectedSha) files.coverage
  let security ← parseAll (parseSarif host · sourceSha expectedSha) files.security
  let items := tests ++ coverage ++ security ++ buildItems sourceSha expectedSha buildStatus
  pure (items.mergeSort itemLe)

end DeployGuard.Verify
