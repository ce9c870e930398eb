import DeployGuard.Service.IncidentDetail

/-!
# Evidence synthesis: the contract and its validator

A synthesis explains an incident from its ranked hypotheses. Its statements, its
explanations and its uncertainty cite evidence, and `validate_evidence_synthesis`
rejects what cites anything outside the incident. The hypotheses a synthesis carries
name evidence as well, and the validator does not visit them.

> `validateEvidenceSynthesis_sound_iff`: an accepted synthesis is sound iff the
> hypotheses it carries are the incident's and cite its evidence.
-/

namespace DeployGuard.Service

open Raise

/-! ## The schemas -/

/-- What can be raised here. -/
inductive SynthesisError where
  /-- `CitationValidationError(message)` -/
  | citation (message : String)
  /-- `pydantic.ValidationError` -/
  | validation (errors : Schema.Errors)
  | valueError (message : String)
  | indexError
  deriving DecidableEq

structure EvidenceCitedStatement where
  text : String
  evidenceIds : List String
  deriving DecidableEq

structure EvidenceSynthesisHypothesis where
  hypothesisId : String
  rank : Nat
  explanation : EvidenceCitedStatement
  deriving DecidableEq

structure EvidenceSynthesisResponse where
  incidentId : String
  synthesisMode : String
  modelUsed : String
  contractVersion : String
  validatorVersion : String
  evidenceBundleSha256 : String
  confidence : ℚ
  summary : List EvidenceCitedStatement
  hypotheses : List Hypothesis
  explainedHypotheses : List EvidenceSynthesisHypothesis
  uncertainty : List EvidenceCitedStatement
  unsupportedClaimsCount : Int
  citationCoverage : ℚ
  deriving DecidableEq

/-- `hashlib.sha256(…).hexdigest()` writes 64 of these. -/
def isHexDigest (s : String) : Bool :=
  s.length = 64 && s.toList.all fun c => c.isDigit || ('a' ≤ c && c ≤ 'f')

/-- A host that dumps models: a `datetime` as JSON, and hexadecimal digests. -/
structure SynthesisHost extends IncidentHost where
  jsonDatetime : Time → String
  sha256_hex : ∀ text, isHexDigest (sha256 text) = true

/-! ## `evidence_bundle_sha256` -/

/-- `item.model_dump(mode="json")`. -/
def Evidence.modelDump (host : SynthesisHost) (item : Evidence) : Value :=
  .dict [("id", .str item.id), ("type", .str item.type), ("source", .str item.source),
    ("timestamp", .str (host.jsonDatetime item.timestamp)), ("summary", .str item.summary),
    ("value", item.value), ("quality", .float (.finite item.quality)),
    ("service_id", (item.serviceId.map Value.str).getD .none),
    ("supports", .list (item.supports.map .str)), ("contradicts", .list (item.contradicts.map .str))]

def Hypothesis.modelDump (item : Hypothesis) : Value :=
  .dict [("id", .str item.id), ("rank", .int item.rank), ("cause_service", .str item.causeService),
    ("cause", .str item.cause), ("confidence", .float (.finite item.confidence)),
    ("score", .int item.score), ("evidence_ids", .list (item.evidenceIds.map .str)),
    ("counter_evidence_ids", .list (item.counterEvidenceIds.map .str)),
    ("reasoning", .str item.reasoning), ("next_step", .str item.nextStep),
    ("status", .str item.status)]

/-- `sorted(incident.hypotheses, key=lambda item: (item.rank, item.id))`. -/
def rankedHypotheses (incident : IncidentDetail) : List Hypothesis :=
  incident.hypotheses.insertionSort fun a b => a.rank < b.rank ∨ (a.rank = b.rank ∧ a.id ≤ b.id)

def evidenceBundle (host : SynthesisHost) (incident : IncidentDetail) : Value :=
  .dict [("incident_id", .str incident.id),
    ("evidence", .list ((incident.evidence.insertionSort fun a b => a.id ≤ b.id).map
      (Evidence.modelDump host))),
    ("hypotheses", .list ((rankedHypotheses incident).map Hypothesis.modelDump))]

/-- The integers of the bundle. -/
def bundleInts (incident : IncidentDetail) : List Int :=
  (incident.evidence.filterMap fun item => match item.value with
    | .int n => some n
    | _ => none) ++
  incident.hypotheses.flatMap fun item => [(item.rank : Int), item.score]

def evidenceBundleSha256 (host : SynthesisHost) (incident : IncidentDetail) :
    Except SynthesisError String := do
  raiseIf (¬(bundleInts incident).all Number.hasText)
    (.valueError "Exceeds the limit (4300 digits) for integer string conversion")
  let canonical := Json.dumps host.floatRepr true (Json.sortKeys (evidenceBundle host incident))
  pure (host.sha256 (canonical.getD ""))

/-! ## `validate_evidence_synthesis` -/

def evidenceSynthesisContractVersion : String := "evidence-synthesis-v1"

def citationValidatorVersion : String := "citation-validator-v1"

def deterministicTemplateModel : String := "deterministic-evidence-template-v1"

/-- `{item.id for item in incident.evidence}`. -/
def knownEvidenceIds (incident : IncidentDetail) : List String := incident.evidence.map (·.id)

/-- `_statement_evidence_ids`. -/
def statementEvidenceIds (synthesis : EvidenceSynthesisResponse) : List (String × List String) :=
  (synthesis.summary.zipIdx.map fun x => (s!"summary[{x.2}]", x.1.evidenceIds)) ++
  (synthesis.explainedHypotheses.zipIdx.map fun x =>
    (s!"explained_hypotheses[{x.2}]", x.1.explanation.evidenceIds)) ++
  synthesis.uncertainty.zipIdx.map fun x => (s!"uncertainty[{x.2}]", x.1.evidenceIds)

/-- One turn of the loop over the statements. -/
def checkStatement (incident : IncidentDetail) (location : String) (evidenceIds : List String) :
    Except SynthesisError Unit :=
  let unknownIds := sortedSet (evidenceIds.filter fun id => id ∉ knownEvidenceIds incident)
  let cited := ", ".intercalate unknownIds
  raiseIf (unknownIds ≠ []) (.citation s!"{location} cites unknown evidence IDs: {cited}")

def hypothesesById (incident : IncidentDetail) : Dict String Hypothesis :=
  Dict.ofItems (incident.hypotheses.map fun item => (item.id, item))

/-- One turn of the loop over the explanations. -/
def checkExplained (incident : IncidentDetail) (item : EvidenceSynthesisHypothesis) :
    Except SynthesisError Unit :=
  match (hypothesesById incident).get? item.hypothesisId with
  | none => .error (.citation s!"Explanation cites unknown hypothesis ID: {item.hypothesisId}")
  | some source => do
    raiseIf (item.rank ≠ source.rank)
      (.citation s!"Explanation rank does not match hypothesis: {item.hypothesisId}")
    raiseIf (¬∀ id ∈ item.explanation.evidenceIds, id ∈ source.evidenceIds ++ source.counterEvidenceIds)
      (.citation s!"Explanation cites evidence unrelated to hypothesis: {item.hypothesisId}")

def citationCoverage (synthesis : EvidenceSynthesisResponse) : ℚ :=
  let statements := statementEvidenceIds synthesis
  if statements = [] then 0
  else ((statements.countP fun x => x.2 ≠ [] : Nat) : ℚ) / statements.length

/-- `math.isclose(a, b, rel_tol=0.0, abs_tol=1e-9)`. -/
def isclose (a b : ℚ) : Bool := |a - b| ≤ 1 / 10 ^ 9

def validateEvidenceSynthesis (host : SynthesisHost) (incident : IncidentDetail)
    (synthesis : EvidenceSynthesisResponse) : Except SynthesisError Unit := do
  raiseIf (synthesis.incidentId ≠ incident.id)
    (.citation "Synthesis incident does not match bundle")
  raiseIf (synthesis.contractVersion ≠ evidenceSynthesisContractVersion)
    (.citation "Unsupported evidence synthesis contract")
  raiseIf (synthesis.validatorVersion ≠ citationValidatorVersion)
    (.citation "Unsupported citation validator")
  let digest ← evidenceBundleSha256 host incident
  raiseIf (synthesis.evidenceBundleSha256 ≠ digest)
    (.citation "Evidence bundle digest does not match")
  raiseIf (synthesis.unsupportedClaimsCount ≠ 0)
    (.citation "Evidence-only synthesis has unsupported claims")
  raiseIf (knownEvidenceIds incident = []) (.citation "Incident has no evidence to cite")
  forM (statementEvidenceIds synthesis) fun x => checkStatement incident x.1 x.2
  forM synthesis.explainedHypotheses (checkExplained incident)
  raiseIf (¬isclose synthesis.citationCoverage (citationCoverage synthesis))
    (.citation "Citation coverage does not match statements")

/-! ## What acceptance says -/

variable {host : SynthesisHost} {incident : IncidentDetail} {synthesis : EvidenceSynthesisResponse}

theorem mem_zipIdx_map {α : Type} {place : α × Nat → String} {xs : List α}
    {evidenceIds : List String} (ids : α → List String) :
    (∃ location, (location, evidenceIds) ∈ xs.zipIdx.map fun x => (place x, ids x.1)) ↔
      ∃ x ∈ xs, ids x = evidenceIds := by
  constructor
  · intro ⟨location, hmem⟩
    obtain ⟨x, hx, heq⟩ := List.mem_map.mp hmem
    exact ⟨x.1, List.fst_mem_of_mem_zipIdx hx, congrArg Prod.snd heq⟩
  · intro ⟨x, hx, heq⟩
    obtain ⟨i, hi, rfl⟩ := List.mem_iff_getElem.mp hx
    have hmem : (xs[i], i) ∈ xs.zipIdx := List.mem_zipIdx_iff_getElem?.mpr (List.getElem?_eq_getElem hi)
    exact ⟨_, List.mem_map.mpr ⟨_, hmem, by rw [heq]⟩⟩

/-- What the validator visits. -/
theorem mem_statementEvidenceIds {evidenceIds : List String} :
    (∃ location, (location, evidenceIds) ∈ statementEvidenceIds synthesis) ↔
      (∃ statement ∈ synthesis.summary, statement.evidenceIds = evidenceIds) ∨
      (∃ item ∈ synthesis.explainedHypotheses, item.explanation.evidenceIds = evidenceIds) ∨
      ∃ statement ∈ synthesis.uncertainty, statement.evidenceIds = evidenceIds := by
  unfold statementEvidenceIds
  simp only [List.mem_append, exists_or, or_assoc]
  exact or_congr (mem_zipIdx_map EvidenceCitedStatement.evidenceIds)
    (or_congr (mem_zipIdx_map fun item : EvidenceSynthesisHypothesis => item.explanation.evidenceIds)
      (mem_zipIdx_map EvidenceCitedStatement.evidenceIds))

theorem checkStatement_eq_ok {location : String} {evidenceIds : List String} :
    checkStatement incident location evidenceIds = .ok () ↔
      ∀ id ∈ evidenceIds, id ∈ knownEvidenceIds incident := by
  unfold checkStatement
  rw [raiseIf_eq_ok, not_not, List.eq_nil_iff_forall_not_mem]
  constructor
  · intro h id hid
    by_contra hunknown
    exact h id (mem_sortedSet.mpr (List.mem_filter.mpr ⟨hid, decide_eq_true hunknown⟩))
  · intro h id hid
    obtain ⟨hmem, hunknown⟩ := List.mem_filter.mp (mem_sortedSet.mp hid)
    exact (of_decide_eq_true hunknown : id ∉ knownEvidenceIds incident) (h id hmem)

theorem mem_of_hypothesesById {id : String} {source : Hypothesis}
    (h : (hypothesesById incident).get? id = some source) :
    source ∈ incident.hypotheses ∧ source.id = id := by
  obtain ⟨item, hitem, heq⟩ := List.mem_map.mp (Dict.mem_of_get?_ofItems h)
  obtain ⟨rfl, rfl⟩ := Prod.mk.inj heq
  exact ⟨hitem, rfl⟩

/-- An explanation that passes is of a hypothesis of the incident. -/
theorem checkExplained_known {item : EvidenceSynthesisHypothesis}
    (h : checkExplained incident item = .ok ()) :
    ∃ source ∈ incident.hypotheses, source.id = item.hypothesisId := by
  unfold checkExplained at h
  split at h
  · cases h
  · next source hsource =>
    obtain ⟨hmem, hid⟩ := mem_of_hypothesesById hsource
    exact ⟨source, hmem, hid⟩

/-- The ids a hypothesis names. -/
def namedEvidence (item : Hypothesis) : List String := item.evidenceIds ++ item.counterEvidenceIds

/-- Every evidence id in a synthesis. -/
def citedIds (synthesis : EvidenceSynthesisResponse) : List String :=
  synthesis.summary.flatMap (·.evidenceIds) ++
  synthesis.explainedHypotheses.flatMap (·.explanation.evidenceIds) ++
  synthesis.uncertainty.flatMap (·.evidenceIds) ++ synthesis.hypotheses.flatMap namedEvidence

/-- A synthesis about the incident and its evidence only. -/
structure Sound (incident : IncidentDetail) (synthesis : EvidenceSynthesisResponse) : Prop where
  cited : ∀ id ∈ citedIds synthesis, ∃ item ∈ incident.evidence, item.id = id
  carried : ∀ h ∈ synthesis.hypotheses, h ∈ incident.hypotheses
  explained : ∀ item ∈ synthesis.explainedHypotheses,
    ∃ h ∈ incident.hypotheses, h.id = item.hypothesisId

/-- The hypotheses carried are the incident's, and name its evidence. -/
def CarriesOwn (incident : IncidentDetail) (synthesis : EvidenceSynthesisResponse) : Prop :=
  ∀ h ∈ synthesis.hypotheses, h ∈ incident.hypotheses ∧
    ∀ id ∈ namedEvidence h, ∃ item ∈ incident.evidence, item.id = id

/-- What the validator visits is sound. -/
theorem validateEvidenceSynthesis_checks
    (h : validateEvidenceSynthesis host incident synthesis = .ok ()) :
    (∀ location evidenceIds, (location, evidenceIds) ∈ statementEvidenceIds synthesis →
      ∀ id ∈ evidenceIds, id ∈ knownEvidenceIds incident) ∧
    ∀ item ∈ synthesis.explainedHypotheses, ∃ source ∈ incident.hypotheses,
      source.id = item.hypothesisId := by
  unfold validateEvidenceSynthesis at h
  -- of what is checked before the two loops nothing is needed
  obtain ⟨_, -, h⟩ := bind_eq_ok.mp h
  obtain ⟨_, -, h⟩ := bind_eq_ok.mp h
  obtain ⟨_, -, h⟩ := bind_eq_ok.mp h
  obtain ⟨_, -, h⟩ := bind_eq_ok.mp h
  obtain ⟨_, -, h⟩ := bind_eq_ok.mp h
  obtain ⟨_, -, h⟩ := bind_eq_ok.mp h
  obtain ⟨_, -, h⟩ := bind_eq_ok.mp h
  obtain ⟨_, hstatements, h⟩ := bind_eq_ok.mp h
  obtain ⟨_, hexplained, -⟩ := bind_eq_ok.mp h
  refine ⟨fun location evidenceIds hmem => ?_, fun item hitem => ?_⟩
  · exact checkStatement_eq_ok.mp (forM_eq_ok.mp hstatements (location, evidenceIds) hmem)
  · exact checkExplained_known (forM_eq_ok.mp hexplained item hitem)

/-- An accepted synthesis is sound iff the hypotheses it carries, which the validator does
not visit, are the incident's and name its evidence. -/
theorem validateEvidenceSynthesis_sound_iff
    (h : validateEvidenceSynthesis host incident synthesis = .ok ()) :
    Sound incident synthesis ↔ CarriesOwn incident synthesis := by
  obtain ⟨hstatements, hexplained⟩ := validateEvidenceSynthesis_checks h
  have hvisited : ∀ evidenceIds, (∃ location, (location, evidenceIds) ∈ statementEvidenceIds synthesis) →
      ∀ id ∈ evidenceIds, ∃ item ∈ incident.evidence, item.id = id := by
    intro evidenceIds ⟨location, hmem⟩ id hid
    exact List.mem_map.mp (hstatements location evidenceIds hmem id hid)
  constructor
  · intro hsound item hitem
    refine ⟨hsound.carried item hitem, fun id hid => hsound.cited id ?_⟩
    exact List.mem_append_right _ (List.mem_flatMap.mpr ⟨item, hitem, hid⟩)
  · intro hown
    refine ⟨fun id hid => ?_, fun item hitem => (hown item hitem).1, hexplained⟩
    simp only [citedIds, List.mem_append, List.mem_flatMap, or_assoc] at hid
    obtain ⟨x, hx, hid⟩ | ⟨x, hx, hid⟩ | ⟨x, hx, hid⟩ | ⟨x, hx, hid⟩ := hid
    · exact hvisited _ (mem_statementEvidenceIds.mpr (Or.inl ⟨x, hx, rfl⟩)) id hid
    · exact hvisited _ (mem_statementEvidenceIds.mpr (Or.inr (Or.inl ⟨x, hx, rfl⟩))) id hid
    · exact hvisited _ (mem_statementEvidenceIds.mpr (Or.inr (Or.inr ⟨x, hx, rfl⟩))) id hid
    · exact (hown x hx).2 id hid

def zeroDigest : String := String.ofList (List.replicate 64 '0')

theorem zeroDigest_hex : isHexDigest zeroDigest = true := by decide +kernel

/-- A host whose digests are all zeros. -/
def synthesisHost : SynthesisHost where
  toIncidentHost := { incidentHost with
    toHost := { incidentHost.toHost with sha256 := fun _ => zeroDigest } }
  jsonDatetime := tally
  sha256_hex _ := zeroDigest_hex

/-- An incident with one trace and one hypothesis. -/
def latencyTrace : Evidence where
  id := "ev-trace"
  type := "trace"
  source := "otel"
  timestamp := 0
  summary := "Timeout before retry fan-out."
  value := .str "timeout"
  quality := 9 / 10
  serviceId := some "checkout-api"
  supports := ["hyp-timeout"]
  contradicts := []

def timeoutHypothesis : Hypothesis where
  id := "hyp-timeout"
  rank := 1
  causeService := "checkout-api"
  cause := "Retry timeout is too short"
  confidence := 4 / 5
  score := 80
  evidenceIds := ["ev-trace"]
  counterEvidenceIds := []
  reasoning := "The trace records a timeout before retries."
  nextStep := "Inspect the timeout configuration."
  status := "open"

def latencyIncident : IncidentDetail where
  id := "inc-1"
  scenarioId := "scenario-1"
  dataMode := "connected"
  analysisSchemaVersion := "analysis-v1"
  engineVersion := "engine-v1"
  scoringPolicyVersion := "policy-v1"
  graphVersion := "graph-v1"
  title := "Checkout latency elevated"
  severity := "SEV-2"
  status := "investigating"
  assigneeUserId := none
  startedAt := 0
  resolvedAt := none
  affectedServices := ["checkout-api"]
  correlatedChangeId := none
  summary := "A cited evidence bundle is available."
  timeline := []
  evidence := [latencyTrace]
  hypotheses := [timeoutHypothesis]
  feedback := []

def latencyStatement : EvidenceCitedStatement where
  text := "Rank 1 hypothesis: checkout-api — Retry timeout is too short."
  evidenceIds := ["ev-trace"]

def latencySynthesis : EvidenceSynthesisResponse where
  incidentId := "inc-1"
  synthesisMode := "deterministic_evidence_template"
  modelUsed := deterministicTemplateModel
  contractVersion := evidenceSynthesisContractVersion
  validatorVersion := citationValidatorVersion
  evidenceBundleSha256 := zeroDigest
  confidence := 4 / 5
  summary := [latencyStatement]
  hypotheses := [timeoutHypothesis]
  explainedHypotheses := [⟨"hyp-timeout", 1, latencyStatement⟩]
  uncertainty := [latencyStatement]
  unsupportedClaimsCount := 0
  citationCoverage := 1

theorem latencySynthesis_sound_iff :
    Sound latencyIncident latencySynthesis ↔ CarriesOwn latencyIncident latencySynthesis := by
  have haccepted : validateEvidenceSynthesis synthesisHost latencyIncident latencySynthesis = .ok () := by
    decide +kernel
  exact validateEvidenceSynthesis_sound_iff haccepted

/-- The same synthesis with a hypothesis nobody ranked, on evidence nobody recorded. -/
def forgedHypothesis : Hypothesis :=
  { timeoutHypothesis with id := "hyp-forged", evidenceIds := ["ev-forged"] }

def forgedSynthesis : EvidenceSynthesisResponse :=
  { latencySynthesis with hypotheses := [forgedHypothesis] }

theorem forgedSynthesis_accepted :
    validateEvidenceSynthesis synthesisHost latencyIncident forgedSynthesis = .ok () ∧
      ¬Sound latencyIncident forgedSynthesis := by
  refine ⟨by decide +kernel, fun hsound => ?_⟩
  have hcited : "ev-forged" ∈ citedIds forgedSynthesis := by decide
  obtain ⟨item, hitem, hid⟩ := hsound.cited "ev-forged" hcited
  obtain rfl := List.mem_singleton.mp hitem
  exact absurd hid (by decide)

end DeployGuard.Service
