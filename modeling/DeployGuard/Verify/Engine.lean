import DeployGuard.Verify.Policy
import DeployGuard.Verify.Evidence

/-!
# The verify gate

`verify_change`, statement by statement. `_evaluate_decision` only appends to its
two lists, so each loop is a definition giving what it appends: to `blocks`, to
`reviews`, or to both. A list comprehension or an `any` over evidence that reads a
metric may raise, and stops at the first metric that does.
-/

namespace DeployGuard.Verify

open Raise

def receiptSchemaVersion : String := "deployguard-evidence-receipt/v0.1"
def verifyEngineVersion : String := "deployguard-verify/0.1.0"

/-- A reason code with its message. -/
abbrev Reason := String × String

/-- The order of `sorted` on pairs of texts. -/
def reasonLe (a b : Reason) : Bool := a.1 < b.1 || (a.1 = b.1 && a.2 ≤ b.2)

/-- `by_kind[kind]`. -/
def byKind (evidence : List EvidenceItem) (kind : Kind) : List EvidenceItem :=
  evidence.filter fun item => item.kind = kind.name

def anyState (items : List EvidenceItem) (state : EvidenceState) : Bool :=
  items.any fun item => item.state = state

/-- `_required`. -/
def required (policy : LoadedPolicy) (kind : Kind) (docsOnly : Bool) : Bool :=
  if kind = .tests ∧ docsOnly ∧ policy.data.skipForDocsOnly then false
  else policy.data.required kind

/-- What the requirement loop appends for one kind: blocks and reviews. -/
def requirementReasons (change : GitChange) (policy : LoadedPolicy)
    (evidence : List EvidenceItem) (kind : Kind) : List Reason × List Reason :=
  let items := byKind evidence kind
  let isRequired := required policy kind change.docsOnly
  if isRequired ∧ items = [] then
    ([], [(s!"missing-{kind.name}-evidence", s!"Required {kind.name} evidence was not provided.")])
  else if isRequired ∧ items ≠ [] ∧ anyState items .pass = false then
    if anyState items .fail then
      ([(s!"failed-{kind.name}-evidence",
        s!"Required {kind.name} evidence contains a failure.")], [])
    else
      ([], [(s!"unknown-{kind.name}-evidence",
        s!"Required {kind.name} evidence could not be verified for the head SHA.")])
  else ([], [])

/-- The loop over tests and build. -/
def observedFailures (evidence : List EvidenceItem) : List Reason :=
  [Kind.tests, Kind.build].flatMap fun kind =>
    if anyState (byKind evidence kind) .fail then
      [(s!"failed-{kind.name}-evidence", s!"Observed {kind.name} evidence contains a failure.")]
    else []

/-- The comprehension `rates`. -/
def coverageRates : List EvidenceItem → Except VerifyError (List FloatVal)
  | [] => .ok []
  | item :: items =>
    match item.state, Value.lookup item.metrics "line_rate" with
    | .unknown, _ | _, none => coverageRates items
    | _, some value => do
      let rate ← toFloat value
      let rates ← coverageRates items
      pure (rate :: rates)

/-- `min(rates)`: the first of the least rates, as `<` compares them. -/
def minRate (rate : FloatVal) (rates : List FloatVal) : FloatVal :=
  rates.foldl (fun least rate => if rate.lt least then rate else least) rate

/-- The coverage check. -/
def coverageBlocks (policy : LoadedPolicy) (evidence : List EvidenceItem) :
    Except VerifyError (List Reason) :=
  let threshold := policy.data.minimumLineRate
  if 0 < threshold then do
    let rates ← coverageRates (byKind evidence .coverage)
    match rates with
    | rate :: rates =>
      if (minRate rate rates).lt (.finite threshold) then
        pure [("coverage-below-policy", s!"Observed line coverage is below the " ++
          s!"{Number.percent threshold} policy threshold.")]
      else pure []
    | [] => pure []
  else .ok []

/-- `_security_blocks`: some blocked severity has a positive count. -/
def securityBlocks (item : EvidenceItem) : List Severity → Except VerifyError Bool
  | [] => .ok false
  | severity :: severities => do
    let count ← item.findings severity
    if 0 < count then pure true else securityBlocks item severities

/-- The `any` over the security items. -/
def anySecurityBlocks (blocked : List Severity) : List EvidenceItem → Except VerifyError Bool
  | [] => .ok false
  | item :: items =>
    if item.state = .unknown then anySecurityBlocks blocked items
    else do
      let blocks ← securityBlocks item blocked
      if blocks then pure true else anySecurityBlocks blocked items

/-- The security check. The blocked severities are a set, and the policy's order stands for the
set's: it decides whether a count that raises is read before a positive one ends the search. -/
def securityReasons (policy : LoadedPolicy) (evidence : List EvidenceItem) :
    Except VerifyError (List Reason) := do
  let blocks ← anySecurityBlocks policy.data.blockSeverities.dedup (byKind evidence .security)
  pure (if blocks then
    [("security-finding-blocked", "SARIF contains a finding at a policy-blocking severity.")]
  else [])

/-- What one matching path rule appends to `reviews`. -/
def ruleReviews (evidence : List EvidenceItem) (rule : PathRule) : List Reason :=
  rule.requiredEvidence.flatMap fun kind =>
    if anyState (byKind evidence kind) .pass then []
    else [(s!"path-rule-{rule.id}-{kind.name}",
      s!"Path rule {rule.id} requires verified {kind.name} evidence.")]

/-- The `_add_reason` loop: the first reason of each code. -/
def addReasons (reasons : List Reason) : List Reason :=
  reasons.foldl (fun kept reason =>
    if reason.1 ∈ kept.map Prod.fst then kept else kept ++ [reason]) []

/-- What `_evaluate_decision` returns; the reasons with their codes. -/
structure Evaluation where
  decision : Decision
  reasons : List Reason
  matchedRules : List String
  deriving DecidableEq

/-- The review of a change without paths. -/
def noChangeReviews (change : GitChange) : List Reason :=
  if change.paths = [] then
    [("no-change", "The selected base and head contain no changed paths.")]
  else []

/-- The end of `_evaluate_decision`: blocks before reviews, each sorted. -/
def conclude (blocks reviews : List Reason) (matchedRules : List String) : Evaluation :=
  if blocks ≠ [] then
    { decision := .block, reasons := addReasons (blocks.mergeSort reasonLe), matchedRules }
  else if reviews ≠ [] then
    { decision := .review, reasons := addReasons (reviews.mergeSort reasonLe), matchedRules }
  else
    { decision := .pass
      reasons := [("policy-satisfied",
        "All required evidence is present, SHA-matched, and policy-compliant.")]
      matchedRules }

/-- `_evaluate_decision`. -/
def evaluateDecision (change : GitChange) (policy : LoadedPolicy)
    (evidence : List EvidenceItem) : Except VerifyError Evaluation := do
  let requirements := Kind.all.map (requirementReasons change policy evidence)
  let belowPolicy ← coverageBlocks policy evidence
  let findings ← securityReasons policy evidence
  let rules := matchingPathRules policy change.paths
  let blocks := requirements.flatMap Prod.fst ++ observedFailures evidence ++ belowPolicy ++
    findings
  let reviews := noChangeReviews change ++ requirements.flatMap Prod.snd ++
    rules.flatMap (ruleReviews evidence)
  pure (conclude blocks reviews ((rules.map PathRule.id).mergeSort fun a b => a ≤ b))

/-- `VerificationResult`. -/
structure VerificationResult where
  decision : Decision
  reasonCodes : List String
  reasons : List String
  receipt : Value
  deriving DecidableEq

def strs (xs : List String) : Value := .list (xs.map .str)

/-- The body of a receipt. -/
def receiptBody (change : GitChange) (policy : LoadedPolicy) (evidence : List EvidenceItem)
    (evaluation : Evaluation) : List (String × Value) :=
  [("schema_version", .str receiptSchemaVersion),
    ("engine_version", .str verifyEngineVersion),
    ("generated_at", .str change.generatedAt),
    ("repository", .dict [("name", .str change.repository), ("base_sha", .str change.baseSha),
      ("head_sha", .str change.headSha), ("merge_base_sha", .str change.mergeBaseSha)]),
    ("policy", .dict [("schema_version", .str policySchemaVersion),
      ("source", .str policy.source), ("sha256", .str policy.sha256),
      ("matched_path_rules", strs evaluation.matchedRules)]),
    ("change", .dict [("files_changed", .int change.filesChanged),
      ("lines_added", .int change.linesAdded), ("lines_deleted", .int change.linesDeleted),
      ("paths", strs change.paths), ("flags", strs change.flags),
      ("docs_only", .bool change.docsOnly)]),
    ("evidence", .list (evidence.map EvidenceItem.toDict)),
    ("decision", .dict [("status", .str evaluation.decision.value),
      ("reason_codes", strs (evaluation.reasons.map Prod.fst)),
      ("reasons", strs (evaluation.reasons.map Prod.snd))])]

/-- `hashlib.sha256(canonical_json_bytes(body)).hexdigest()`. -/
def receiptDigest (host : Host) (body : Value) : Except VerifyError String :=
  if canonical body then .ok (host.digest body)
  else .error (.valueError "Out of range float values are not JSON compliant")

/-- `verify_change`. -/
def verifyChange (host : Host) (change : GitChange) (policy : LoadedPolicy)
    (evidence : List EvidenceItem) : Except VerifyError VerificationResult := do
  let items := evidence.mergeSort itemLe
  let evaluation ← evaluateDecision change policy items
  let body := receiptBody change policy items evaluation
  let digest ← receiptDigest host (.dict body)
  pure
    { decision := evaluation.decision
      reasonCodes := evaluation.reasons.map Prod.fst
      reasons := evaluation.reasons.map Prod.snd
      receipt := .dict (body ++ [("receipt_sha256", .str digest)]) }

end DeployGuard.Verify
