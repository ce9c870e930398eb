import DeployGuard.Lib.Raise
import DeployGuard.Lib.Value

/-!
# Verify: changes, evidence and errors

The data of `deployguard_verify/models.py`, and the numbers the gate reads out of
an evidence item's metrics. A metric is whatever the item's producer put there,
so `float(…)` and `int(…)` of one may raise.
-/

namespace DeployGuard.Verify

/-- The exceptions the verifier's modules raise or let through. -/
inductive VerifyError where
  | valueError (message : String)
  | typeError (message : String)
  | overflowError
  | keyError (key : String)
  | attributeError (message : String)
  | indexError
  /-- `subprocess.TimeoutExpired` -/
  | timeoutExpired
  | gitError (message : String)
  | osError (message : String)
  /-- `yaml.YAMLError` -/
  | yamlError
  /-- `ET.ParseError` -/
  | parseError
  /-- an exception of another class -/
  | other (className : String)
  deriving DecidableEq

inductive Decision where
  | pass
  | review
  | block
  | error
  deriving DecidableEq, Repr

def Decision.value : Decision → String
  | .pass => "pass"
  | .review => "review"
  | .block => "block"
  | .error => "error"

inductive EvidenceState where
  | pass
  | fail
  | unknown
  deriving DecidableEq, Repr

def EvidenceState.value : EvidenceState → String
  | .pass => "pass"
  | .fail => "fail"
  | .unknown => "unknown"

/-- The evidence kinds a policy knows, in the order the gate visits them. -/
inductive Kind where
  | tests
  | build
  | coverage
  | security
  deriving DecidableEq, Repr

namespace Kind

def name : Kind → String
  | .tests => "tests"
  | .build => "build"
  | .coverage => "coverage"
  | .security => "security"

def all : List Kind := [.tests, .build, .coverage, .security]

def ofName? (s : String) : Option Kind := all.find? fun kind => kind.name = s

theorem mem_all (kind : Kind) : kind ∈ all := by cases kind <;> decide

theorem name_inj {a b : Kind} : a.name = b.name ↔ a = b := by
  cases a <;> cases b <;> decide

end Kind

/-- The severity buckets of a SARIF log. -/
inductive Severity where
  | critical
  | high
  | medium
  | low
  | note
  deriving DecidableEq, Repr

namespace Severity

def name : Severity → String
  | .critical => "critical"
  | .high => "high"
  | .medium => "medium"
  | .low => "low"
  | .note => "note"

def all : List Severity := [.critical, .high, .medium, .low, .note]

def ofName? (s : String) : Option Severity := all.find? fun severity => severity.name = s

theorem mem_all (severity : Severity) : severity ∈ all := by cases severity <;> decide

end Severity

/-- `EvidenceItem`. The kind is any text; the gate looks for the names of `Kind`. -/
structure EvidenceItem where
  id : String
  kind : String
  state : EvidenceState
  source : String
  sourceSha : Option String
  artifactSha256 : Option String
  summary : String
  metrics : List (String × Value) := []
  deriving DecidableEq

def optionalStr : Option String → Value
  | some s => .str s
  | none => .none

/-- `item.to_dict()`. -/
def EvidenceItem.toDict (item : EvidenceItem) : Value :=
  .dict [("id", .str item.id), ("kind", .str item.kind), ("state", .str item.state.value),
    ("source", .str item.source), ("source_sha", optionalStr item.sourceSha),
    ("artifact_sha256", optionalStr item.artifactSha256), ("summary", .str item.summary),
    ("metrics", .dict item.metrics)]

structure GitChange where
  repository : String
  baseSha : String
  headSha : String
  mergeBaseSha : String
  generatedAt : String
  paths : List String
  filesChanged : Int
  linesAdded : Int
  linesDeleted : Int
  flags : List String
  deriving DecidableEq

/-- A path the documentation waiver covers. -/
def isDocsPath (path : String) : Bool :=
  [".md", ".mdx", ".rst", ".txt"].any (Text.endswith (Text.lower path)) ||
    Text.startswith (Text.lower path) "docs/"

/-- `change.docs_only`. -/
def GitChange.docsOnly (change : GitChange) : Bool :=
  !change.paths.isEmpty && change.paths.all isDocsPath

/-! ## Numbers read from metrics -/

/-- `float(v)`. An integer too large for a double overflows. -/
def toFloat : Value → Except VerifyError FloatVal
  | .float x => .ok x
  | .bool b => .ok (.finite (if b then 1 else 0))
  | .int n =>
    if FloatVal.overflowBound ≤ |(n : ℚ)| then .error .overflowError
    else .ok (.finite (FloatVal.nearest n))
  | .str s =>
    match Number.parseFloat s with
    | some x => .ok x
    | none => .error (.valueError "could not convert string to float")
  | _ => .error (.typeError "float() argument must be a string or a real number")

/-- `int(v)`. A float is truncated towards zero. -/
def toInt : Value → Except VerifyError Int
  | .int n => .ok n
  | .bool b => .ok (if b then 1 else 0)
  | .float (.finite q) => .ok (q.num.tdiv q.den)
  | .float (.infinite _) => .error .overflowError
  | .float .nan => .error (.valueError "cannot convert float NaN to integer")
  | .str s =>
    match Number.parseInt s with
    | some n => .ok n
    | none => .error (.valueError "invalid literal for int() with base 10")
  | _ => .error (.typeError "int() argument must be a string or a real number")

/-- `int(item.metrics.get(severity, 0) or 0)`. -/
def EvidenceItem.findings (item : EvidenceItem) (severity : Severity) :
    Except VerifyError Int :=
  let value := (Value.lookup item.metrics severity.name).getD (.int 0)
  toInt (if value.truthy then value else .int 0)

mutual
/-- `json.dumps(v, allow_nan=False)` accepts the value. -/
def canonical : Value → Bool
  | .object => false
  | .float x => x.isfinite
  | .list xs => canonicalList xs
  | .dict items => canonicalItems items
  | _ => true

def canonicalList : List Value → Bool
  | [] => true
  | x :: xs => canonical x && canonicalList xs

def canonicalItems : List (String × Value) → Bool
  | [] => true
  | (_, x) :: xs => canonical x && canonicalItems xs
end

theorem canonicalList_iff {xs : List Value} :
    canonicalList xs = true ↔ ∀ x ∈ xs, canonical x = true := by
  induction xs with
  | nil => simp [canonicalList]
  | cons x xs ih => simp [canonicalList, ih]

/-- What the gate reads of the item converts, a line rate to any float, and its metrics are JSON
with finite numbers. -/
structure EvidenceItem.Converts (item : EvidenceItem) : Prop where
  json : canonicalItems item.metrics = true
  lineRate : item.kind = Kind.coverage.name → item.state ≠ .unknown →
    ∀ value, Value.lookup item.metrics "line_rate" = some value → ∃ x, toFloat value = .ok x
  counts : item.kind = Kind.security.name → item.state ≠ .unknown →
    ∀ severity, ∃ n, item.findings severity = .ok n

/-- The gate can read the item: its metrics are JSON with finite numbers, the line
rate of coverage evidence and the counts of security evidence convert to numbers. -/
structure EvidenceItem.Readable (item : EvidenceItem) : Prop where
  json : canonicalItems item.metrics = true
  lineRate : item.kind = Kind.coverage.name → item.state ≠ .unknown →
    ∀ value, Value.lookup item.metrics "line_rate" = some value →
      ∃ q, toFloat value = .ok (.finite q)
  counts : item.kind = Kind.security.name → item.state ≠ .unknown →
    ∀ severity, ∃ n, item.findings severity = .ok n

theorem EvidenceItem.Readable.converts {item : EvidenceItem} (h : item.Readable) : item.Converts where
  json := h.json
  lineRate hkind hstate value hvalue := by
    obtain ⟨q, hq⟩ := h.lineRate hkind hstate value hvalue
    exact ⟨_, hq⟩
  counts := h.counts

end DeployGuard.Verify
