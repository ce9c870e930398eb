import Mathlib.Data.String.Basic
import DeployGuard.Service.Postmortem

/-!
# Dataset readiness and consent

`get_dataset_readiness` looks at the incident, its feedback, its newest snapshot and the
newest decision for the purpose (`DatasetBasis`), and reports six requirements on them.
`record_dataset_consent` appends a decision where the other five are met, or where there
is one to revoke.
-/

namespace DeployGuard.Service

open Interleaving Raise Session Session.Call Journal

/-! ## Requests and answers -/

/-- A `DatasetPurpose`. -/
inductive DatasetPurpose where
  | evaluation
  | training
  deriving DecidableEq

def DatasetPurpose.text : DatasetPurpose → String
  | evaluation => "evaluation"
  | training => "training"

/-- The purposes are told apart by their texts. -/
theorem DatasetPurpose.text_injective {a b : DatasetPurpose} (h : a.text = b.text) : a = b := by
  cases a <;> cases b <;> first | rfl | exact absurd h (by decide)

/-- A `DatasetConsentDecision`. -/
inductive DatasetConsentDecision where
  | approved
  | revoked
  deriving DecidableEq

def DatasetConsentDecision.text : DatasetConsentDecision → String
  | approved => "approved"
  | revoked => "revoked"

inductive DatasetAttestation where
  | workspaceAuthorized
  | secretsReviewed
  | privacyReviewed
  | licenseReviewed
  deriving DecidableEq

def DatasetAttestation.text : DatasetAttestation → String
  | workspaceAuthorized => "workspace_authorized"
  | secretsReviewed => "secrets_reviewed"
  | privacyReviewed => "privacy_reviewed"
  | licenseReviewed => "license_reviewed"

/-- `REQUIRED_DATASET_ATTESTATIONS`. -/
def requiredDatasetAttestations : List String :=
  ["workspace_authorized", "secrets_reviewed", "privacy_reviewed", "license_reviewed"]

def consentRequestErrors (termsVersion reason : String) : Schema.Errors :=
  Schema.field "terms_version" [Schema.nonEmpty termsVersion, Schema.atMost 40 termsVersion] ++
  Schema.field "reason" [Schema.nonEmpty reason, Schema.atMost 2000 reason]

/-- `DatasetConsentRequest`; the validator has made the attestations unique. -/
structure DatasetConsentRequest where
  purpose : DatasetPurpose
  decision : DatasetConsentDecision
  termsVersion : String
  reason : String
  attestations : List DatasetAttestation
  unique : attestations.Nodup
  valid : consentRequestErrors termsVersion reason = []

structure DatasetConsentSummary where
  id : String
  incidentId : String
  postmortemSnapshotId : String
  purpose : String
  decision : String
  termsVersion : String
  reason : String
  attestations : List String
  actor : ActorProvenance
  createdAt : Time
  deriving DecidableEq

def consentErrors (record : DatasetConsentDecisionRecord) : Schema.Errors :=
  Schema.field "purpose"
    [(record.purpose ∈ ["evaluation", "training"], "Input should be 'evaluation' or 'training'")] ++
  Schema.field "decision"
    [(record.decision ∈ ["approved", "revoked"], "Input should be 'approved' or 'revoked'")]

def consentSummaryOf (record : DatasetConsentDecisionRecord) : DatasetConsentSummary where
  id := record.id
  incidentId := record.incidentId
  postmortemSnapshotId := record.postmortemSnapshotId
  purpose := record.purpose
  decision := record.decision
  termsVersion := record.termsVersion
  reason := record.reason
  attestations := record.attestations
  actor := ⟨record.actorUserId, record.actorDisplayName, record.actorAuthProvider,
    record.createdAt⟩
  createdAt := record.createdAt

/-- `_dataset_consent_summary`. -/
def datasetConsentSummary (record : DatasetConsentDecisionRecord) :
    Except ServiceError DatasetConsentSummary :=
  if consentErrors record = [] then .ok (consentSummaryOf record)
  else .error (.validation (consentErrors record))

inductive RequirementKey where
  | connectedIncident
  | resolvedIncident
  | attributedHumanVerdict
  | structuredVerification
  | immutablePostmortem
  | auditedConsent
  deriving DecidableEq

def RequirementKey.text : RequirementKey → String
  | connectedIncident => "connected_incident"
  | resolvedIncident => "resolved_incident"
  | attributedHumanVerdict => "attributed_human_verdict"
  | structuredVerification => "structured_verification"
  | immutablePostmortem => "immutable_postmortem"
  | auditedConsent => "audited_consent"

structure DatasetReadinessRequirement where
  key : RequirementKey
  satisfied : Bool
  detail : String
  deriving DecidableEq

inductive DatasetReadinessStatus where
  | notApplicable
  | blocked
  | readyForReview
  deriving DecidableEq

structure DatasetReadinessResponse where
  incidentId : String
  dataMode : String
  purpose : DatasetPurpose
  status : DatasetReadinessStatus
  connectedExporterEnabled : Bool
  requirements : List DatasetReadinessRequirement
  latestSnapshot : Option PostmortemSnapshotSummary
  latestConsent : Option DatasetConsentSummary
  deriving DecidableEq

/-! ## `get_dataset_readiness` -/

def latestSnapshot (d : Database) (workspaceId incidentId : String) :
    Option PostmortemSnapshotRecord :=
  newest PostmortemSnapshotRecord.createdAt PostmortemSnapshotRecord.id
    (d.snapshots.select fun row => row.workspaceId = workspaceId ∧ row.incidentId = incidentId)

def latestConsent (d : Database) (workspaceId incidentId : String) (purpose : DatasetPurpose) :
    Option DatasetConsentDecisionRecord :=
  newest DatasetConsentDecisionRecord.createdAt DatasetConsentDecisionRecord.id
    (d.consents.select fun row => row.workspaceId = workspaceId ∧ row.incidentId = incidentId ∧
      row.purpose = purpose.text)

/-- What the readiness of an incident for a purpose is computed from. -/
structure DatasetBasis where
  incident : IncidentRecord
  feedback : List FeedbackRecord
  snapshot : Option PostmortemSnapshotRecord
  consent : Option DatasetConsentDecisionRecord

def datasetBasis (d : Database) (incident : IncidentRecord) (workspaceId : String)
    (purpose : DatasetPurpose) : DatasetBasis where
  incident := incident
  feedback := feedbackFor d incident.id
  snapshot := latestSnapshot d workspaceId incident.id
  consent := latestConsent d workspaceId incident.id purpose

/-- `bool(item.actor_user_id)`. -/
def isAttributed (item : FeedbackRecord) : Bool := (givenText item.actorUserId).isSome

def isVerified (item : FeedbackRecord) : Bool :=
  isAttributed item && item.verificationResult ≠ "not_recorded" && item.verificationEvidenceIds ≠ []

def isConsented : Option DatasetConsentDecisionRecord → Option PostmortemSnapshotRecord → Bool
  | some consent, some snapshot =>
    consent.decision = "approved" ∧ consent.postmortemSnapshotId = snapshot.id ∧
      ∀ item ∈ requiredDatasetAttestations, item ∈ consent.attestations
  | _, _ => false

namespace DatasetBasis

variable (basis : DatasetBasis)

def connected : Bool := basis.incident.dataMode = "connected"

def resolved : Bool := basis.incident.status = "resolved" ∧ basis.incident.resolvedAt.isSome

def attributed : Bool := basis.feedback.any isAttributed

def verified : Bool := basis.feedback.any isVerified

def snapshotted : Bool := basis.snapshot.isSome

def consented : Bool := isConsented basis.consent basis.snapshot

def requirements : List DatasetReadinessRequirement :=
  [⟨.connectedIncident, basis.connected, "The incident originated from a connected workspace."⟩,
    ⟨.resolvedIncident, basis.resolved,
      "The incident is resolved with a recorded resolution time."⟩,
    ⟨.attributedHumanVerdict, basis.attributed,
      "A verdict is attributed to an authenticated workspace member."⟩,
    ⟨.structuredVerification, basis.verified,
      "A verdict records method, outcome, and cited evidence IDs."⟩,
    ⟨.immutablePostmortem, basis.snapshotted,
      "A content-addressed postmortem snapshot is immutable in storage."⟩,
    ⟨.auditedConsent, basis.consented,
      "The latest consent decision approves this exact snapshot and purpose."⟩]

def status : DatasetReadinessStatus :=
  if basis.connected then
    if basis.requirements.all (·.satisfied) then .readyForReview else .blocked
  else .notApplicable

/-- The response, with its schema checked. -/
def response (purpose : DatasetPurpose) : Except ServiceError DatasetReadinessResponse := do
  let snapshot ← basis.snapshot.mapM postmortemSnapshotSummary
  let consent ← basis.consent.mapM datasetConsentSummary
  raiseIf (dataModeErrors basis.incident.dataMode ≠ [])
    (.validation (dataModeErrors basis.incident.dataMode))
  pure ⟨basis.incident.id, basis.incident.dataMode, purpose, basis.status, false,
    basis.requirements, snapshot, consent⟩

end DatasetBasis

/-- `get_dataset_readiness`. -/
def getDatasetReadiness (d : Database) (incidentId workspaceId : String)
    (purpose : DatasetPurpose) : Except ServiceError DatasetReadinessResponse := do
  let incident ← governanceIncident d workspaceId incidentId
  (datasetBasis d incident workspaceId purpose).response purpose

/-! ## `record_dataset_consent` -/

/-- A call of `record_dataset_consent`; `newId` is drawn with `uuid4`. -/
structure RecordDatasetConsent where
  incidentId : String
  payload : DatasetConsentRequest
  workspaceId : String
  actorUserId : String
  actorDisplayName : String
  actorAuthProvider : String
  requestId : String
  newId : String
  clock : Nat → Time

namespace RecordDatasetConsent

variable (q : RecordDatasetConsent)

def attestations : List String := q.payload.attestations.map DatasetAttestation.text

/-- `item.key != "audited_consent" and not item.satisfied`. -/
def isIncomplete (item : DatasetReadinessRequirement) : Bool :=
  item.key ≠ .auditedConsent ∧ item.satisfied = false

/-- What an approval or a revocation asks of the readiness. -/
def checkDecision (readiness : DatasetReadinessResponse) : Except ServiceError Unit :=
  match q.payload.decision with
  | .approved => do
    let incomplete := readiness.requirements.filter isIncomplete
    raiseIf (incomplete ≠ [])
      (.domain ("Dataset consent prerequisites are incomplete: " ++
          ", ".intercalate (incomplete.map fun item => item.key.text))
        "dataset_consent_prerequisites_incomplete" 409)
    raiseIf (∃ item ∈ requiredDatasetAttestations, item ∉ q.attestations)
      (.domain ("Dataset approval requires all privacy, secret, license, and authority " ++
        "attestations") "dataset_consent_attestations_incomplete" 409)
  | .revoked =>
    raiseIf (readiness.latestConsent = none)
      (.domain "There is no prior dataset consent to revoke" "dataset_consent_not_found" 409)

/-- The snapshot the decision is about. -/
def load (d : Database) : Except ServiceError PostmortemSnapshotSummary := do
  let readiness ← getDatasetReadiness d q.incidentId q.workspaceId q.payload.purpose
  raiseIf (readiness.dataMode ≠ "connected")
    (.domain "Dataset consent only applies to connected incidents" "connected_incident_required"
      409)
  match readiness.latestSnapshot with
  | none =>
    .error (.domain "Create an immutable postmortem snapshot before recording consent"
      "postmortem_snapshot_required" 409)
  | some snapshot => do
    q.checkDecision readiness
    pure snapshot

def decision (snapshot : PostmortemSnapshotSummary) : DatasetConsentDecisionRecord where
  id := q.newId
  workspaceId := q.workspaceId
  incidentId := q.incidentId
  postmortemSnapshotId := snapshot.id
  purpose := q.payload.purpose.text
  decision := q.payload.decision.text
  termsVersion := q.payload.termsVersion
  reason := q.payload.reason
  attestations := q.attestations
  actorUserId := q.actorUserId
  actorDisplayName := q.actorDisplayName
  actorAuthProvider := q.actorAuthProvider
  createdAt := q.clock 0

def auditEntry (snapshot : PostmortemSnapshotSummary) : AuditEvent where
  workspaceId := q.workspaceId
  actorUserId := some q.actorUserId
  action := s!"dataset.consent.{q.payload.decision.text}"
  resourceType := "dataset_consent_decision"
  resourceId := q.newId
  requestId := q.requestId
  metadata := [("incident_id", .str q.incidentId),
    ("postmortem_snapshot_id", .str snapshot.id), ("purpose", .str q.payload.purpose.text),
    ("terms_version", .str q.payload.termsVersion),
    ("attestations", .list (q.attestations.map .str))]
  createdAt := q.clock 1

def save (snapshot : PostmortemSnapshotSummary) (d : Database) : Except ServiceError Database := do
  let consents ← addRow d.consents (q.decision snapshot)
  pure (Database.audit (q.auditEntry snapshot) { d with consents := consents })

end RecordDatasetConsent

/-- `record_dataset_consent`. -/
def recordDatasetConsent (q : RecordDatasetConsent) : ServiceCall DatasetConsentSummary :=
  perform q.load q.save fun snapshot _ => datasetConsentSummary (q.decision snapshot)

/-! ## When a basis is ready -/

/-- Feedback is verified when it is attributed and names the evidence of its outcome. -/
theorem isVerified_iff {item : FeedbackRecord} : isVerified item = true ↔ isAttributed item = true ∧
    item.verificationResult ≠ "not_recorded" ∧ item.verificationEvidenceIds ≠ [] := by
  simp [isVerified, and_assoc]

/-- Consent is an approval of the latest snapshot with every attestation. -/
theorem isConsented_iff {consent : Option DatasetConsentDecisionRecord}
    {snapshot : Option PostmortemSnapshotRecord} : isConsented consent snapshot = true ↔
      ∃ c s, consent = some c ∧ snapshot = some s ∧ c.decision = "approved" ∧
        c.postmortemSnapshotId = s.id ∧
        ∀ item ∈ requiredDatasetAttestations, item ∈ c.attestations := by
  unfold isConsented
  split
  · next c s =>
    rw [decide_eq_true_iff]
    constructor
    · intro h
      exact ⟨c, s, rfl, rfl, h⟩
    · intro h
      obtain ⟨c', s', hc, hs, h⟩ := h
      obtain rfl := Option.some.inj hc
      obtain rfl := Option.some.inj hs
      exact h
  · next hnone =>
    refine iff_of_false Bool.false_ne_true ?_
    intro h
    obtain ⟨c, s, hconsent, hsnapshot, -⟩ := h
    exact hnone c s hconsent hsnapshot

namespace DatasetBasis

variable {basis : DatasetBasis} {purpose : DatasetPurpose} {answer : DatasetReadinessResponse}

/-- The requirements but for the consent. -/
structure OthersMet (basis : DatasetBasis) : Prop where
  connected : basis.connected
  resolved : basis.resolved
  attributed : basis.attributed
  verified : basis.verified
  snapshotted : basis.snapshotted

/-- A basis is ready when all its requirements are met. -/
theorem status_eq_ready :
    basis.status = .readyForReview ↔ basis.OthersMet ∧ basis.consented := by
  have hall : basis.requirements.all (·.satisfied) = true ↔ basis.OthersMet ∧ basis.consented := by
    simp only [requirements, List.all_cons, List.all_nil, Bool.and_true, Bool.and_eq_true]
    constructor
    · intro h
      obtain ⟨h₁, h₂, h₃, h₄, h₅, h₆⟩ := h
      exact ⟨⟨h₁, h₂, h₃, h₄, h₅⟩, h₆⟩
    · intro h
      obtain ⟨⟨h₁, h₂, h₃, h₄, h₅⟩, h₆⟩ := h
      exact ⟨h₁, h₂, h₃, h₄, h₅, h₆⟩
  unfold status
  rw [← hall]
  by_cases hconnected : basis.connected = true
  · rw [if_pos hconnected]
    split
    · next h => exact iff_of_true rfl h
    · next h => exact iff_of_false nofun h
  · rw [if_neg hconnected]
    exact iff_of_false nofun fun h => hconnected (hall.mp h).1.connected

/-- A connected basis that is not ready is blocked. -/
theorem status_eq_blocked (hconnected : basis.connected) (h : basis.status ≠ .readyForReview) :
    basis.status = .blocked := by
  unfold status at h ⊢
  rw [if_pos hconnected] at h ⊢
  split
  · next hall => exact absurd (if_pos hall) h
  · rfl

/-- Consent apart, no requirement is incomplete. -/
theorem incomplete_eq_nil :
    basis.requirements.filter RecordDatasetConsent.isIncomplete = [] ↔ basis.OthersMet := by
  have hlist : basis.requirements.filter RecordDatasetConsent.isIncomplete = [] ↔
      basis.connected = true ∧ basis.resolved = true ∧ basis.attributed = true ∧
        basis.verified = true ∧ basis.snapshotted = true := by
    simp [requirements, RecordDatasetConsent.isIncomplete]
  rw [hlist]
  constructor
  · intro h
    obtain ⟨h₁, h₂, h₃, h₄, h₅⟩ := h
    exact ⟨h₁, h₂, h₃, h₄, h₅⟩
  · intro h
    exact ⟨h.connected, h.resolved, h.attributed, h.verified, h.snapshotted⟩

/-- What is shown of the basis passes its schemas. -/
structure Valid (basis : DatasetBasis) : Prop where
  snapshot : ∀ snapshot ∈ basis.snapshot, snapshotErrors snapshot = []
  consent : ∀ consent ∈ basis.consent, consentErrors consent = []
  dataMode : dataModeErrors basis.incident.dataMode = []

def shown (basis : DatasetBasis) (purpose : DatasetPurpose) : DatasetReadinessResponse where
  incidentId := basis.incident.id
  dataMode := basis.incident.dataMode
  purpose := purpose
  status := basis.status
  connectedExporterEnabled := false
  requirements := basis.requirements
  latestSnapshot := basis.snapshot.map snapshotSummaryOf
  latestConsent := basis.consent.map consentSummaryOf

@[simp] theorem shown_latestSnapshot :
    (basis.shown purpose).latestSnapshot = basis.snapshot.map snapshotSummaryOf := rfl

@[simp] theorem shown_latestConsent :
    (basis.shown purpose).latestConsent = basis.consent.map consentSummaryOf := rfl

/-- A summary of what is there, which is checked. -/
theorem mapM_eq_ok {α β : Type} {f : α → Except ServiceError β} {errors : α → Schema.Errors}
    {summaryOf : α → β} (hf : ∀ a, f a = if errors a = [] then .ok (summaryOf a)
      else .error (.validation (errors a))) {x : Option α} {y : Option β} :
    x.mapM f = .ok y ↔ (∀ a ∈ x, errors a = []) ∧ y = x.map summaryOf := by
  cases x with
  | none => exact ⟨fun h => ⟨nofun, (Except.ok.inj h).symm⟩, fun h => congrArg Except.ok h.2.symm⟩
  | some a =>
    simp only [Option.mem_some_iff, forall_eq', Option.map_some]
    show (f a >>= fun b => pure (some b)) = .ok y ↔ _
    rw [Raise.bind_eq_ok, hf]
    constructor
    · intro h
      obtain ⟨b, hb, hy⟩ := h
      split at hb
      · next herrors =>
        obtain rfl := Except.ok.inj hb
        exact ⟨herrors, (Raise.pure_eq_ok.mp hy).symm⟩
      · cases hb
    · intro h
      obtain ⟨herrors, rfl⟩ := h
      exact ⟨summaryOf a, if_pos herrors, rfl⟩

/-- An answer is the basis as it is shown, when that passes the schema. -/
theorem response_eq_ok :
    basis.response purpose = .ok answer ↔ basis.Valid ∧ answer = basis.shown purpose := by
  constructor
  · intro h
    obtain ⟨snapshot, hsnapshot, h⟩ := Raise.bind_eq_ok.mp h
    obtain ⟨consent, hconsent, h⟩ := Raise.bind_eq_ok.mp h
    obtain ⟨_, hdataMode, h⟩ := Raise.bind_eq_ok.mp h
    obtain rfl := Raise.pure_eq_ok.mp h
    obtain ⟨hsnapshots, rfl⟩ := (mapM_eq_ok fun _ => rfl).mp hsnapshot
    obtain ⟨hconsents, rfl⟩ := (mapM_eq_ok fun _ => rfl).mp hconsent
    exact ⟨⟨hsnapshots, hconsents, not_not.mp (raiseIf_eq_ok.mp hdataMode)⟩, rfl⟩
  · intro h
    obtain ⟨hvalid, rfl⟩ := h
    exact Raise.bind_eq_ok.mpr ⟨_, (mapM_eq_ok fun _ => rfl).mpr ⟨hvalid.snapshot, rfl⟩,
      Raise.bind_eq_ok.mpr ⟨_, (mapM_eq_ok fun _ => rfl).mpr ⟨hvalid.consent, rfl⟩,
        Raise.bind_eq_ok.mpr ⟨(), raiseIf_neg (not_not.mpr hvalid.dataMode) _, rfl⟩⟩⟩

end DatasetBasis

/-! ## What the calls find -/

section Spec

variable {d d' : Database} {incidentId workspaceId : String} {purpose : DatasetPurpose}
  {incident : IncidentRecord}

/-- The incident is one of the workspace. -/
theorem governanceIncident_eq_ok : governanceIncident d workspaceId incidentId = .ok incident ↔
    d.incidents.get? incidentId = some incident ∧ incident.workspaceId = workspaceId := by
  constructor
  · exact governanceIncident_ok
  · intro h
    obtain ⟨hget, hworkspace⟩ := h
    unfold governanceIncident
    rw [hget]
    exact Raise.bind_eq_ok.mpr ⟨(), raiseIf_neg (not_not.mpr hworkspace) _, rfl⟩

/-- The readiness is that of the basis, if this can be shown. -/
theorem getDatasetReadiness_eq_ok {answer : DatasetReadinessResponse} :
    getDatasetReadiness d incidentId workspaceId purpose = .ok answer ↔ ∃ incident,
      d.incidents.get? incidentId = some incident ∧ incident.workspaceId = workspaceId ∧
      (datasetBasis d incident workspaceId purpose).Valid ∧
      answer = (datasetBasis d incident workspaceId purpose).shown purpose := by
  unfold getDatasetReadiness
  rw [Raise.bind_eq_ok]
  simp only [governanceIncident_eq_ok, DatasetBasis.response_eq_ok, and_assoc]

namespace RecordDatasetConsent

variable {q : RecordDatasetConsent} {snapshot : PostmortemSnapshotSummary}
  {row : PostmortemSnapshotRecord}

def basis (q : RecordDatasetConsent) (d : Database) (incident : IncidentRecord) : DatasetBasis :=
  datasetBasis d incident q.workspaceId q.payload.purpose

/-- What an accepted decision found. -/
structure Loaded (q : RecordDatasetConsent) (d : Database) (incident : IncidentRecord)
    (row : PostmortemSnapshotRecord) : Prop where
  get? : d.incidents.get? q.incidentId = some incident
  workspaceId : incident.workspaceId = q.workspaceId
  valid : (q.basis d incident).Valid
  connected : incident.dataMode = "connected"
  snapshot : latestSnapshot d q.workspaceId incident.id = some row
  approved : q.payload.decision = .approved → (q.basis d incident).OthersMet ∧
    ∀ item ∈ requiredDatasetAttestations, item ∈ q.attestations
  revoked : q.payload.decision = .revoked →
    latestConsent d q.workspaceId incident.id q.payload.purpose ≠ none

/-- An approval needs the other requirements and all attestations, a revocation an earlier
decision. -/
theorem checkDecision_eq_ok {basis : DatasetBasis} {u : Unit} :
    q.checkDecision (basis.shown purpose) = .ok u ↔
      (q.payload.decision = .approved → basis.OthersMet ∧
        ∀ item ∈ requiredDatasetAttestations, item ∈ q.attestations) ∧
      (q.payload.decision = .revoked → basis.consent ≠ none) := by
  unfold checkDecision
  cases q.payload.decision with
  | approved =>
    simp only [forall_const, reduceCtorEq, false_implies, and_true]
    rw [← DatasetBasis.incomplete_eq_nil]
    constructor
    · intro h
      obtain ⟨_, hcomplete, h⟩ := Raise.bind_eq_ok.mp h
      have hattested := raiseIf_eq_ok.mp h
      push Not at hattested
      exact ⟨not_not.mp (raiseIf_eq_ok.mp hcomplete), hattested⟩
    · intro h
      obtain ⟨hcomplete, hattested⟩ := h
      refine Raise.bind_eq_ok.mpr ⟨(), raiseIf_neg (not_not.mpr hcomplete) _, raiseIf_eq_ok.mpr ?_⟩
      push Not
      exact hattested
  | revoked =>
    simp only [forall_const, reduceCtorEq, false_implies, true_and, raiseIf_eq_ok, ne_eq]
    exact not_congr Option.map_eq_none_iff

/-- What a decision goes by. -/
theorem load_eq_ok : q.load d = .ok snapshot ↔
    ∃ incident row, q.Loaded d incident row ∧ snapshot = snapshotSummaryOf row := by
  constructor
  · intro h
    obtain ⟨readiness, hreadiness, h⟩ := Raise.bind_eq_ok.mp h
    obtain ⟨_, hconnected, h⟩ := Raise.bind_eq_ok.mp h
    obtain ⟨incident, hget, hworkspace, hvalid, rfl⟩ := getDatasetReadiness_eq_ok.mp hreadiness
    rw [DatasetBasis.shown_latestSnapshot] at h
    cases hlatest : (q.basis d incident).snapshot with
    | none =>
      rw [show (datasetBasis d incident q.workspaceId q.payload.purpose).snapshot = none from hlatest]
        at h
      cases h
    | some row =>
      rw [show (datasetBasis d incident q.workspaceId q.payload.purpose).snapshot = some row from
        hlatest] at h
      obtain ⟨_, hdecision, h⟩ := Raise.bind_eq_ok.mp h
      obtain rfl := Raise.pure_eq_ok.mp h
      obtain ⟨happroved, hrevoked⟩ := checkDecision_eq_ok.mp hdecision
      exact ⟨incident, row, ⟨hget, hworkspace, hvalid, not_not.mp (raiseIf_eq_ok.mp hconnected),
        hlatest, happroved, hrevoked⟩, rfl⟩
  · intro h
    obtain ⟨incident, row, hloaded, rfl⟩ := h
    refine Raise.bind_eq_ok.mpr ⟨(q.basis d incident).shown q.payload.purpose,
      getDatasetReadiness_eq_ok.mpr ⟨incident, hloaded.get?, hloaded.workspaceId, hloaded.valid, rfl⟩,
      Raise.bind_eq_ok.mpr ⟨(), raiseIf_neg (not_not.mpr hloaded.connected) _, ?_⟩⟩
    rw [DatasetBasis.shown_latestSnapshot, show (q.basis d incident).snapshot = some row from
      hloaded.snapshot]
    exact Raise.bind_eq_ok.mpr ⟨(), checkDecision_eq_ok.mpr ⟨hloaded.approved, hloaded.revoked⟩, rfl⟩

/-- A decision adds its own row only. -/
theorem save_ok (h : q.save snapshot d = .ok d') :
    d.consents.insert (q.decision snapshot) = some d'.consents ∧ d'.incidents = d.incidents ∧
      d'.feedback = d.feedback ∧ d'.snapshots = d.snapshots := by
  obtain ⟨consents, hinsert, h⟩ := Raise.bind_eq_ok.mp h
  obtain rfl := Raise.pure_eq_ok.mp h
  exact ⟨addRow_eq_ok.mp hinsert, rfl, rfl, rfl⟩

/-- A free id can be stored. -/
theorem save_isOk (snapshot : PostmortemSnapshotSummary) (h : d.consents.get? q.newId = none) :
    ∃ d', q.save snapshot d = .ok d' := by
  obtain ⟨consents, hinsert⟩ := Table.insert_of_free (r := q.decision snapshot) h
  exact ⟨_, Raise.bind_eq_ok.mpr ⟨consents, addRow_eq_ok.mpr hinsert, rfl⟩⟩

/-- A decision that is stored can be shown. -/
theorem consentErrors_decision : consentErrors (q.decision snapshot) = [] := by
  have hpurpose : q.payload.purpose.text ∈ ["evaluation", "training"] := by
    cases q.payload.purpose <;> decide
  have hdecision : q.payload.decision.text ∈ ["approved", "revoked"] := by
    cases q.payload.decision <;> decide
  refine List.append_eq_nil_iff.mpr ⟨Schema.field_eq_nil.mpr fun c hc => ?_,
    Schema.field_eq_nil.mpr fun c hc => ?_⟩
  · rw [List.mem_singleton.mp hc]
    exact decide_eq_true hpurpose
  · rw [List.mem_singleton.mp hc]
    exact decide_eq_true hdecision

end RecordDatasetConsent

/-- The call raised before it wrote, or stored its decision. -/
theorem recordDatasetConsent_run (q : RecordDatasetConsent) (d : Database) :
    (∃ e, (recordDatasetConsent q).run d = (.error e, d)) ∨
      ∃ incident row d', q.Loaded d incident row ∧
        q.save (snapshotSummaryOf row) d = .ok d' ∧ (recordDatasetConsent q).run d =
          (.ok (consentSummaryOf (q.decision (snapshotSummaryOf row))), d') := by
  rcases perform_run q.load q.save
    (fun snapshot _ => datasetConsentSummary (q.decision snapshot)) d with
    ⟨e, hrun⟩ | ⟨snapshot, d', hload, hsave, hrun⟩
  · exact Or.inl ⟨e, hrun⟩
  · obtain ⟨incident, row, hloaded, rfl⟩ := RecordDatasetConsent.load_eq_ok.mp hload
    refine Or.inr ⟨incident, row, d', hloaded, hsave, hrun.trans ?_⟩
    rw [datasetConsentSummary, if_pos RecordDatasetConsent.consentErrors_decision]

end Spec

end DeployGuard.Service
