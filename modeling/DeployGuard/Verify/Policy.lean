import DeployGuard.Lib.Fnmatch
import DeployGuard.Verify.Models

/-!
# Verify policies

`_validate_policy` on a YAML document. Besides accepting or refusing, the model
returns what the gate later reads out of the accepted document, each default
filled in (`Policy`). `LoadedPolicy` is what `parse_policy` can return: it carries
the checks as `Policy.Valid`, so the gate's theorems quantify over it.

> `validatePolicy_valid`: an accepted document has a threshold between 0 and 1,
> rules with distinct ids, and non-empty patterns in every rule.
-/

namespace DeployGuard.Verify

open Raise

/-- What `yaml.safe_load` constructs, the contents of dates, bytes and sets aside. A `pair` is a
tuple, an entry of `!!omap` and `!!pairs`. -/
inductive Yaml where
  | null
  | bool (b : Bool)
  | int (n : Int)
  | float (x : FloatVal)
  | str (s : String)
  | date
  | datetime (aware : Bool)
  | bytes
  | set
  | pair (key value : Yaml)
  | seq (xs : List Yaml)
  | map (items : List (Yaml × Yaml))

/-- The types `sorted` can compare with themselves. -/
inductive SortClass where
  | number
  | str
  | date
  | datetime (aware : Bool)
  | bytes
  deriving DecidableEq

namespace Yaml

/-- `hash(value)` returns. -/
def hashable : Yaml → Bool
  | .seq _ | .map _ | .set => false
  | .pair key value => key.hashable && value.hashable
  | _ => true

/-- `value in {…}` returns. A set has no hash, but is looked up as the frozen set it equals. -/
def searchable : Yaml → Bool
  | .set => true
  | value => value.hashable

/-- `items.get(key)`. -/
def get (items : List (Yaml × Yaml)) (key : String) : Option Yaml :=
  items.findSome? fun
    | (.str s, value) => if s = key then some value else none
    | _ => none

/-- The value is this string. -/
def isStr (text : String) : Yaml → Bool
  | .str s => s = text
  | _ => false

/-- With what a key can be compared: not a date with a time, nor a time of a known zone with
one of none. Keys are scalars. -/
def sortClass : Yaml → Option SortClass
  | .bool _ | .int _ | .float _ => some .number
  | .str _ => some .str
  | .date => some .date
  | .datetime aware => some (.datetime aware)
  | .bytes => some .bytes
  | _ => none

/-- `sorted(keys)` compares only keys of one ordered type. -/
def sortable : List Yaml → Bool
  | [] | [_] => true
  | key :: keys => key.sortClass.isSome && keys.all fun k => k.sortClass = key.sortClass

end Yaml

def policySchemaVersion : String := "deployguard-policy/v0.1"
def maxPolicyBytes : Nat := 256 * 1024

structure PathRule where
  id : String
  patterns : List String
  requiredEvidence : List Kind
  deriving DecidableEq

/-- What the gate reads of a policy document, defaults filled in. -/
structure Policy where
  required : Kind → Bool
  skipForDocsOnly : Bool
  minimumLineRate : ℚ
  blockSeverities : List Severity
  pathRules : List PathRule

structure PathRule.Valid (rule : PathRule) : Prop where
  patterns : rule.patterns ≠ []
  nonempty : ∀ pattern ∈ rule.patterns, pattern ≠ ""

structure Policy.Valid (policy : Policy) : Prop where
  threshold : 0 ≤ policy.minimumLineRate ∧ policy.minimumLineRate ≤ 1
  ids : (policy.pathRules.map PathRule.id).Nodup
  rules : ∀ rule ∈ policy.pathRules, rule.Valid

/-! ## `_validate_policy` -/

/-- `unknown = set(items) - allowed; if unknown: raise ValueError(f"… {sorted(unknown)}")`.
Sorting keys of mixed types raises first. -/
def requireKnown (message : String) (allowed : List String) (items : List (Yaml × Yaml)) :
    Except VerifyError Unit :=
  let unknown := (items.map Prod.fst).filter fun key => !allowed.any fun a => key.isStr a
  raiseIf (unknown.isEmpty = false)
    (if Yaml.sortable unknown then .valueError message
      else .typeError "'<' not supported between instances")

/-- `items.get(key, default)`, refused unless it is a bool. -/
def readBool (items : List (Yaml × Yaml)) (key : String) (default : Bool) (message : String) :
    Except VerifyError Bool :=
  match Yaml.get items key with
  | none => .ok default
  | some (.bool b) => .ok b
  | some _ => .error (.valueError message)

/-- `items.get(key, [])`, refused unless it is a list. -/
def readList (items : List (Yaml × Yaml)) (key message : String) :
    Except VerifyError (List Yaml) :=
  match Yaml.get items key with
  | none => .ok []
  | some (.seq xs) => .ok xs
  | some _ => .error (.valueError message)

def supportedKinds : List String := Kind.all.map Kind.name

/-- The fields a requirement of each kind may have. -/
def allowedRequirementFields : Kind → List String
  | .tests => ["required", "skip_for_docs_only"]
  | .build => ["required"]
  | .coverage => ["required", "minimum_line_rate"]
  | .security => ["required", "block_severities"]

/-- One round of the loop over `requirements.items()`: the fields of the requirement. -/
def readRequirement (kind : Kind) : Yaml → Except VerifyError (List (Yaml × Yaml))
  | .map fields => do
    let message := s!"requirements.{kind.name} must contain a boolean required field"
    let _ ← readBool fields "required" false message
    requireKnown s!"unsupported requirements.{kind.name} fields"
      (allowedRequirementFields kind) fields
    pure fields
  | _ => .error (.valueError s!"requirements.{kind.name} must contain a boolean required field")

/-- The loop over `requirements.items()`. -/
def checkRequirements : List (Yaml × Yaml) → Except VerifyError Unit
  | [] => .ok ()
  | (key, config) :: rest => do
    match Kind.all.find? fun kind => key.isStr kind.name with
    | some kind => let _ ← readRequirement kind config; checkRequirements rest
    | none => checkRequirements rest

/-- `requirements.get(kind, {})`, of requirements the loop has accepted. -/
def requirement (requirements : List (Yaml × Yaml)) (kind : Kind) : List (Yaml × Yaml) :=
  match Yaml.get requirements kind.name with
  | some (.map fields) => fields
  | _ => []

/-- `bool(config.get("required", False))`. -/
def isRequired (config : List (Yaml × Yaml)) : Bool :=
  match Yaml.get config "required" with
  | some (.bool b) => b
  | _ => false

/-- `float(coverage.get("minimum_line_rate", 0.0))` of a number. -/
def thresholdValue (coverage : List (Yaml × Yaml)) : Except VerifyError FloatVal :=
  match Yaml.get coverage "minimum_line_rate" with
  | none => .ok (.finite 0)
  | some (.int n) => toFloat (.int n)
  | some (.float x) => .ok x
  | some _ => .error (.valueError "coverage minimum_line_rate must be numeric")

/-- `if not 0 <= threshold <= 1: raise`. -/
def requireUnit : FloatVal → Except VerifyError ℚ
  | .finite q =>
    if 0 ≤ q ∧ q ≤ 1 then .ok q
    else .error (.valueError "coverage minimum_line_rate must be between 0 and 1")
  | _ => .error (.valueError "coverage minimum_line_rate must be between 0 and 1")

/-- `severity in {"critical", …}` of every element; one without a hash raises. -/
def readSeverities : List Yaml → Except VerifyError (List Severity)
  | [] => .ok []
  | severity :: rest => do
    raiseIf (severity.searchable = false) (.typeError "unhashable type")
    match Severity.all.find? fun s => severity.isStr s.name with
    | some s => let severities ← readSeverities rest; pure (s :: severities)
    | none => .error (.valueError "security block_severities contains an unsupported value")

/-- The blocked severities, critical and high by default. -/
def readBlockSeverities (security : List (Yaml × Yaml)) : Except VerifyError (List Severity) :=
  match Yaml.get security "block_severities" with
  | none => .ok [.critical, .high]
  | some (.seq xs) => readSeverities xs
  | some _ => .error (.valueError "security block_severities contains an unsupported value")

/-- `isinstance(pattern, str) and pattern` of every element. -/
def readPatterns (message : String) : List Yaml → Except VerifyError (List String)
  | [] => .ok []
  | .str pattern :: rest => do
    raiseIf (pattern = "") (.valueError message)
    let patterns ← readPatterns message rest
    pure (pattern :: patterns)
  | _ :: _ => .error (.valueError message)

/-- `item in supported` of every element; one without a hash raises. -/
def readKinds (message : String) : List Yaml → Except VerifyError (List Kind)
  | [] => .ok []
  | item :: rest => do
    raiseIf (item.searchable = false) (.typeError "unhashable type")
    match Kind.all.find? fun kind => item.isStr kind.name with
    | some kind => let kinds ← readKinds message rest; pure (kind :: kinds)
    | none => .error (.valueError message)

/-- The patterns of a rule: a list, not empty, of strings, not empty. -/
def readPatternList (message : String) : Option Yaml → Except VerifyError (List String)
  | some (.seq []) => .error (.valueError message)
  | some (.seq xs) => readPatterns message xs
  | _ => .error (.valueError message)

def readKindList (message : String) : Option Yaml → Except VerifyError (List Kind)
  | some (.seq xs) => readKinds message xs
  | _ => .error (.valueError message)

/-- One round of the loop over the path rules. -/
def readRule (seen : List String) : Yaml → Except VerifyError PathRule
  | .map items =>
    match Yaml.get items "id" with
    | some (.str id) => do
      requireKnown "unsupported path rule fields" ["id", "patterns", "required_evidence"] items
      raiseIf (id ∈ seen) (.valueError s!"duplicate path rule id: {id}")
      let patterns ← readPatternList s!"path rule {id} must contain patterns"
        (Yaml.get items "patterns")
      let requiredEvidence ← readKindList s!"path rule {id} has invalid required_evidence"
        (Yaml.get items "required_evidence")
      pure { id, patterns, requiredEvidence }
    | _ => .error (.valueError "each path rule must have a string id")
  | _ => .error (.valueError "each path rule must have a string id")

/-- The loop over the path rules, with the ids seen so far. -/
def readRules (seen : List String) : List Yaml → Except VerifyError (List PathRule)
  | [] => .ok []
  | rule :: rest => do
    let pathRule ← readRule seen rule
    let pathRules ← readRules (pathRule.id :: seen) rest
    pure (pathRule :: pathRules)

/-- The requirements, refused unless they are an object. -/
def readRequirements (payload : List (Yaml × Yaml)) : Except VerifyError (List (Yaml × Yaml)) :=
  match Yaml.get payload "requirements" with
  | some (.map requirements) => .ok requirements
  | _ => .error (.valueError "policy requirements must be an object")

/-- `_validate_policy`. -/
def validatePolicy : Yaml → Except VerifyError Policy
  | .map payload => do
    requireKnown "unsupported policy fields" ["schema_version", "requirements", "path_rules"]
      payload
    raiseIf (¬(Yaml.get payload "schema_version").any (Yaml.isStr policySchemaVersion))
      (.valueError s!"policy schema_version must be {policySchemaVersion}")
    let requirements ← readRequirements payload
    requireKnown "unsupported evidence requirements" supportedKinds requirements
    checkRequirements requirements
    let skipForDocsOnly ← readBool (requirement requirements .tests) "skip_for_docs_only" false
      "tests skip_for_docs_only must be boolean"
    let threshold ← thresholdValue (requirement requirements .coverage)
    let minimumLineRate ← requireUnit threshold
    let blockSeverities ← readBlockSeverities (requirement requirements .security)
    let rules ← readList payload "path_rules" "path_rules must be a list"
    let pathRules ← readRules [] rules
    pure
      { required := fun kind => isRequired (requirement requirements kind)
        skipForDocsOnly, minimumLineRate, blockSeverities, pathRules }
  | _ => .error (.valueError "policy must be a YAML object")

/-! ## What an accepted document satisfies -/

theorem readPatterns_ne {message : String} {xs : List Yaml} {patterns : List String}
    (h : readPatterns message xs = .ok patterns) : ∀ pattern ∈ patterns, pattern ≠ "" := by
  fun_induction readPatterns message xs generalizing patterns with
  | case1 => cases h; simp
  | case2 pattern rest ih =>
    simp only [bind_eq_ok, raiseIf_eq_ok, pure_eq_ok] at h
    obtain ⟨-, hne, patterns', hrest, rfl⟩ := h
    intro p hp
    rcases List.mem_cons.mp hp with rfl | hp
    · exact hne
    · exact ih hrest p hp
  | case3 => cases h

theorem readPatternList_valid {message : String} {value : Option Yaml} {patterns : List String}
    (h : readPatternList message value = .ok patterns) :
    patterns ≠ [] ∧ ∀ pattern ∈ patterns, pattern ≠ "" := by
  unfold readPatternList at h
  split at h
  · cases h
  · next xs hne =>
    refine ⟨fun hnil => ?_, readPatterns_ne h⟩
    subst hnil
    cases xs with
    | nil => exact hne rfl
    | cons x xs =>
      cases x <;> simp only [readPatterns, bind_eq_ok, pure_eq_ok, reduceCtorEq, and_false,
        exists_false] at h
  · cases h

theorem readRule_valid {seen : List String} {rule : Yaml} {pathRule : PathRule}
    (h : readRule seen rule = .ok pathRule) : pathRule.Valid ∧ pathRule.id ∉ seen := by
  unfold readRule at h
  split at h
  · split at h
    · simp only [bind_eq_ok, raiseIf_eq_ok, pure_eq_ok] at h
      obtain ⟨-, -, -, hid, patterns, hpatterns, kinds, -, rfl⟩ := h
      obtain ⟨hnil, hne⟩ := readPatternList_valid hpatterns
      exact ⟨⟨hnil, hne⟩, hid⟩
    · cases h
  · cases h

/-- Rules read after others have ids of their own, all different. -/
theorem readRules_valid {seen : List String} {xs : List Yaml} {rules : List PathRule}
    (h : readRules seen xs = .ok rules) :
    (∀ rule ∈ rules, rule.Valid ∧ rule.id ∉ seen) ∧ (rules.map PathRule.id).Nodup := by
  fun_induction readRules seen xs generalizing rules with
  | case1 => cases h; simp
  | case2 seen rule rest ih =>
    simp only [bind_eq_ok, pure_eq_ok] at h
    obtain ⟨pathRule, hrule, pathRules, hrest, rfl⟩ := h
    obtain ⟨hvalid, hnew⟩ := readRule_valid hrule
    obtain ⟨hall, hnodup⟩ := ih pathRule hrest
    constructor
    · intro r hr
      rcases List.mem_cons.mp hr with rfl | hr
      · exact ⟨hvalid, hnew⟩
      · exact ⟨(hall r hr).1, fun hseen => (hall r hr).2 (List.mem_cons_of_mem _ hseen)⟩
    · refine List.nodup_cons.mpr ⟨fun hmem => ?_, hnodup⟩
      obtain ⟨r, hr, hid⟩ := List.mem_map.mp hmem
      exact (hall r hr).2 (hid ▸ List.mem_cons_self ..)

theorem requireUnit_bounds {x : FloatVal} {q : ℚ} (h : requireUnit x = .ok q) :
    0 ≤ q ∧ q ≤ 1 := by
  unfold requireUnit at h
  split at h
  · split at h
    · next hbounds => cases h; exact hbounds
    · cases h
  · cases h

theorem validatePolicy_valid {payload : Yaml} {policy : Policy}
    (h : validatePolicy payload = .ok policy) : policy.Valid := by
  unfold validatePolicy at h
  split at h
  · simp only [bind_eq_ok, raiseIf_eq_ok, pure_eq_ok] at h
    obtain ⟨-, -, -, -, requirements, -, -, -, -, -, skip, -, x, -, threshold, hthreshold,
      severities, -, xs, -, rules, hrules, rfl⟩ := h
    obtain ⟨hall, hnodup⟩ := readRules_valid hrules
    exact ⟨requireUnit_bounds hthreshold, hnodup, fun rule hrule => (hall rule hrule).1⟩
  · cases h

/-! ## Loaded policies -/

/-- What `parse_policy` can return. -/
structure LoadedPolicy where
  data : Policy
  valid : data.Valid
  source : String
  sha256 : String

/-- `parse_policy`. `safeLoad` decodes the bytes and reads the YAML document;
`digest` is the SHA-256 of a document's canonical JSON. -/
def parsePolicy (safeLoad : List UInt8 → Except VerifyError Yaml) (digest : Yaml → String)
    (raw : List UInt8) (source : String) : Except VerifyError LoadedPolicy := do
  raiseIf (maxPolicyBytes < raw.length) (.valueError "policy exceeds the 256 KiB safety limit")
  let parsed ← safeLoad raw
  match h : validatePolicy parsed with
  | .ok data => pure { data, valid := validatePolicy_valid h, source, sha256 := digest parsed }
  | .error e => .error e

/-- `DEFAULT_POLICY`, as the gate reads it. -/
def defaultPolicy : Policy where
  required kind := kind = .tests
  skipForDocsOnly := true
  minimumLineRate := 0
  blockSeverities := [.critical, .high]
  pathRules :=
    [{ id := "security-sensitive-change"
       patterns := [".github/workflows/**", "**/auth/**", "**/security/**", "**/migrations/**",
         "**/Dockerfile", "Dockerfile"]
       requiredEvidence := [.security] }]

theorem defaultPolicy_valid : defaultPolicy.Valid where
  threshold := ⟨le_rfl, zero_le_one⟩
  ids := by decide
  rules := by
    intro rule hrule
    obtain rfl := List.mem_singleton.mp hrule
    exact ⟨by decide, by decide⟩

/-- `builtin_policy`, with the digest of its canonical JSON. -/
def builtinPolicy (digest : String) : LoadedPolicy where
  data := defaultPolicy
  valid := defaultPolicy_valid
  source := "builtin:deployguard-policy/v0.1"
  sha256 := digest

/-- `matching_path_rules`. -/
def matchingPathRules (policy : LoadedPolicy) (paths : List String) : List PathRule :=
  policy.data.pathRules.filter fun rule =>
    paths.any fun path => rule.patterns.any fun pattern => Fnmatch.fnmatchcase path pattern

theorem mem_matchingPathRules {policy : LoadedPolicy} {paths : List String} {rule : PathRule} :
    rule ∈ matchingPathRules policy paths ↔ rule ∈ policy.data.pathRules ∧
      ∃ path ∈ paths, ∃ pattern ∈ rule.patterns, Fnmatch.fnmatchcase path pattern := by
  simp [matchingPathRules]

end DeployGuard.Verify
