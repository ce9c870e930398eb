import DeployGuard.Service.Database

/-!
# What is shown of an incident

The statuses and severities of an incident's lifecycle, and the schema its stored
documents are shown through. A stored text is free, so each has to be read:
`normalizeIncidentStatus` and `normalizeIncidentSeverity` read the columns, and
`readTimelineEvent` an entry of the timeline.
-/

namespace DeployGuard.Service

/-! ## Status and severity -/

/-- The keys of `INCIDENT_STATUS_ORDER`. -/
inductive IncidentStatus where
  | «open»
  | acknowledged
  | investigating
  | mitigated
  | resolved
  deriving DecidableEq

namespace IncidentStatus

def text : IncidentStatus → String
  | «open» => "open"
  | acknowledged => "acknowledged"
  | investigating => "investigating"
  | mitigated => "mitigated"
  | resolved => "resolved"

/-- `INCIDENT_STATUS_ORDER`. -/
def order : IncidentStatus → Nat
  | «open» => 0
  | acknowledged => 1
  | investigating => 2
  | mitigated => 3
  | resolved => 4

def all : List IncidentStatus := [«open», acknowledged, investigating, mitigated, resolved]

def ofText? (value : String) : Option IncidentStatus := all.find? fun status => status.text = value

theorem ofText?_text (status : IncidentStatus) : ofText? status.text = some status := by
  cases status <;> decide

theorem text_of_ofText? {value : String} {status : IncidentStatus}
    (h : ofText? value = some status) : status.text = value := by
  simpa using List.find?_some h

theorem order_injective {a b : IncidentStatus} (h : a.order = b.order) : a = b := by
  cases a <;> cases b <;> first | rfl | cases h

end IncidentStatus

inductive IncidentSeverity where
  | sev1
  | sev2
  | sev3
  | sev4
  deriving DecidableEq

namespace IncidentSeverity

def text : IncidentSeverity → String
  | sev1 => "sev1"
  | sev2 => "sev2"
  | sev3 => "sev3"
  | sev4 => "sev4"

def all : List IncidentSeverity := [sev1, sev2, sev3, sev4]

def ofText? (value : String) : Option IncidentSeverity :=
  all.find? fun severity => severity.text = value

/-- `_stored_incident_severity`. -/
def stored : IncidentSeverity → String
  | sev1 => "SEV-1"
  | sev2 => "SEV-2"
  | sev3 => "SEV-3"
  | sev4 => "SEV-4"

end IncidentSeverity

/-- `_normalize_incident_status`. -/
def normalizeIncidentStatus (host : Host) (value : String) : Except ServiceError IncidentStatus :=
  match IncidentStatus.ofText? (host.lower (Text.strip value)) with
  | some status => .ok status
  | none =>
    .error (.domain "Incident has an unsupported lifecycle status" "invalid_incident_status" 409)

/-- `_normalize_incident_severity`. -/
def normalizeIncidentSeverity (host : Host) (value : String) :
    Except ServiceError IncidentSeverity :=
  match IncidentSeverity.ofText? (Text.replace (host.lower (Text.strip value)) "-" "") with
  | some severity => .ok severity
  | none => .error (.domain "Incident has an unsupported severity" "invalid_incident_severity" 409)

/-- What the lifecycle stores reads back. -/
theorem normalizeIncidentStatus_text (host : Host) (status : IncidentStatus) :
    normalizeIncidentStatus host status.text = .ok status := by
  have hstrip : Text.strip status.text = status.text := by cases status <;> decide
  have hlower : host.lower status.text = status.text := by
    rw [host.lower_of_ascii (by cases status <;> decide)]
    cases status <;> decide
  rw [normalizeIncidentStatus, hstrip, hlower, IncidentStatus.ofText?_text]

theorem normalizeIncidentSeverity_stored (host : Host) (severity : IncidentSeverity) :
    normalizeIncidentSeverity host severity.stored = .ok severity := by
  have hstrip : Text.strip severity.stored = severity.stored := by cases severity <;> decide
  have hread : IncidentSeverity.ofText? (Text.replace (Text.lower severity.stored) "-" "") =
      some severity := by cases severity <;> decide
  rw [normalizeIncidentSeverity, hstrip, host.lower_of_ascii (by cases severity <;> decide), hread]

/-! ## What is shown of an incident -/

/-- A host with what the schemas and the texts about incidents take from the library. -/
structure IncidentHost extends Host where
  /-- a `datetime` field reads a text or a number -/
  readDatetime : Value → Option Time
  readDatetime_isoformat : ∀ t, readDatetime (.str (isoformat t)) = some t
  lower_strip : ∀ s, lower (Text.strip s) = Text.strip (lower s)
  /-- `text.upper()` -/
  upper : String → String
  /-- `str(t)` of a moment in UTC -/
  datetimeStr : Time → String

/-- The stored status reads as resolved. -/
def IsResolved (host : IncidentHost) (row : IncidentRecord) : Prop :=
  normalizeIncidentStatus host.toHost row.status = .ok .resolved

instance (host : IncidentHost) (row : IncidentRecord) : Decidable (IsResolved host row) :=
  inferInstanceAs (Decidable (_ = _))

/-- A moment as a tally. -/
def tally (t : Int) : String :=
  String.ofList ((if 0 ≤ t then [] else ['-']) ++ List.replicate t.natAbs '|')

def readTally (s : String) : Int :=
  match s.toList with
  | '-' :: rest => -rest.length
  | rest => rest.length

theorem readTally_tally (t : Int) : readTally (tally t) = t := by
  unfold readTally tally
  rw [String.toList_ofList]
  by_cases ht : 0 ≤ t
  · rw [if_pos ht, List.nil_append]
    cases hn : t.natAbs with
    | zero => exact (Int.natAbs_eq_zero.mp hn).symm
    | succ n =>
      show ((List.replicate (n + 1) '|').length : Int) = t
      rw [List.length_replicate]
      omega
  · rw [if_neg ht]
    show -((List.replicate t.natAbs '|').length : Int) = t
    rw [List.length_replicate]
    omega

/-- A host for ASCII text that writes moments as tallies. -/
def incidentHost : IncidentHost where
  toHost := { asciiHost with
    isoformat := tally
    sha256 := fun text => "sha256:" ++ text }
  readDatetime
    | .str s => some (readTally s)
    | _ => none
  readDatetime_isoformat t := congrArg some (readTally_tally t)
  lower_strip := Text.lower_strip
  upper text := String.ofList (text.toList.map Char.toUpper)
  datetimeStr := tally

structure TimelineEvent where
  id : String
  timestamp : Time
  type : String
  title : String
  detail : String
  serviceId : Option String
  actorUserId : Option String
  deriving DecidableEq

def isText : Value → Bool
  | .str _ => true
  | _ => false

def textOf : Value → String
  | .str s => s
  | _ => ""

def isOptionalText : Value → Bool
  | .str _ | .none => true
  | _ => false

def optionalTextOf : Value → Option String
  | .str s => some s
  | _ => none

def timelineKeys : List String :=
  ["id", "timestamp", "type", "title", "detail", "service_id", "actor_user_id"]

/-- A field that has to be there, and to be of its type. -/
def requiredItem (item : Items) (key : String) (holds : Value → Bool) (message : String) :
    Schema.Errors :=
  Schema.field key [((Value.lookup item key).isSome, "Field required"),
    (holds (getItem item key), message)]

def timelineEventErrors (host : IncidentHost) (item : Items) : Schema.Errors :=
  requiredItem item "id" isText "Input should be a valid string" ++
  requiredItem item "timestamp" (fun value => (host.readDatetime value).isSome)
    "Input should be a valid datetime" ++
  requiredItem item "type" isText "Input should be a valid string" ++
  requiredItem item "title" isText "Input should be a valid string" ++
  requiredItem item "detail" isText "Input should be a valid string" ++
  requiredItem item "service_id" isOptionalText "Input should be a valid string" ++
  Schema.field "actor_user_id"
    [(isOptionalText (getItem item "actor_user_id"), "Input should be a valid string")] ++
  item.flatMap fun field =>
    Schema.field field.1 [(field.1 ∈ timelineKeys, "Extra inputs are not permitted")]

def TimelineEvent.ofItem (host : IncidentHost) (item : Items) : TimelineEvent where
  id := textOf (getItem item "id")
  timestamp := (host.readDatetime (getItem item "timestamp")).getD 0
  type := textOf (getItem item "type")
  title := textOf (getItem item "title")
  detail := textOf (getItem item "detail")
  serviceId := optionalTextOf (getItem item "service_id")
  actorUserId := optionalTextOf (getItem item "actor_user_id")

/-- `TimelineEvent.model_validate`. -/
def readTimelineEvent (host : IncidentHost) (item : Items) : Except ServiceError TimelineEvent :=
  if timelineEventErrors host item = [] then .ok (.ofItem host item)
  else .error (.validation (timelineEventErrors host item))

structure ActorProvenance where
  userId : String
  displayName : String
  authProvider : String
  recordedAt : Time
  deriving DecidableEq

structure VerificationOutcome where
  result : String
  method : String
  summary : String
  evidenceIds : List String
  recordedAt : Time
  deriving DecidableEq

structure Feedback where
  id : Nat
  verdict : String
  hypothesisId : String
  note : String
  submittedAt : Time
  actor : Option ActorProvenance
  verificationOutcome : Option VerificationOutcome
  deriving DecidableEq

structure IncidentDetail where
  id : String
  scenarioId : String
  dataMode : String
  analysisSchemaVersion : String
  engineVersion : String
  scoringPolicyVersion : String
  graphVersion : String
  title : String
  severity : String
  status : String
  assigneeUserId : Option String
  startedAt : Time
  resolvedAt : Option Time
  affectedServices : List String
  correlatedChangeId : Option String
  summary : String
  timeline : List TimelineEvent
  evidence : List Evidence
  hypotheses : List Hypothesis
  feedback : List Feedback
  deriving DecidableEq

/-- `… if a and b and c else None`: an optional text counts when it is there and not empty. -/
def givenText (value : Option String) : Option String := value.filter (· ≠ "")

namespace FeedbackRecord

variable (row : FeedbackRecord)

def actor : Option ActorProvenance := do
  let userId ← givenText row.actorUserId
  let displayName ← givenText row.actorDisplayName
  let authProvider ← givenText row.actorAuthProvider
  pure ⟨userId, displayName, authProvider, row.submittedAt⟩

def verificationOutcome : Option VerificationOutcome := do
  let method ← givenText row.verificationMethod
  let summary ← givenText row.verificationSummary
  if row.verificationResult ≠ "not_recorded" then
    pure ⟨row.verificationResult, method, summary, row.verificationEvidenceIds, row.submittedAt⟩
  else none

def shown : Feedback where
  id := row.id
  verdict := row.verdict
  hypothesisId := row.hypothesisId
  note := row.note
  submittedAt := row.submittedAt
  actor := row.actor
  verificationOutcome := row.verificationOutcome

end FeedbackRecord

/-- `ORDER BY submitted_at, id`. -/
def feedbackOrder (a b : FeedbackRecord) : Prop :=
  a.submittedAt < b.submittedAt ∨ (a.submittedAt = b.submittedAt ∧ a.id ≤ b.id)

instance : DecidableRel feedbackOrder := fun a b =>
  inferInstanceAs (Decidable
    (a.submittedAt < b.submittedAt ∨ (a.submittedAt = b.submittedAt ∧ a.id ≤ b.id)))

/-- The feedback on an incident, as every reader of it orders it. -/
def feedbackFor (d : Database) (incidentId : String) : List FeedbackRecord :=
  (d.feedback.select fun row => row.incidentId = incidentId).insertionSort feedbackOrder

def verificationResults : List String := ["supported", "contradicted", "inconclusive"]

def verdictNames : List String := ["confirmed", "rejected", "partial"]

def feedbackErrors (shown : Feedback) : Schema.Errors :=
  Schema.field "verdict"
    [(shown.verdict ∈ verdictNames, "Input should be 'confirmed', 'rejected' or 'partial'")] ++
  Schema.field "verification_outcome.result"
    ((shown.verificationOutcome.toList.map fun outcome =>
      (decide (outcome.result ∈ verificationResults ++ ["not_recorded"]),
        "Input should be 'supported', 'contradicted', 'inconclusive' or 'not_recorded'")))

/-- A `VersionIdentifier`. -/
def versionErrors (loc value : String) : Schema.Errors :=
  Schema.field loc [Schema.nonEmpty (Text.trim value), Schema.atMost 80 (Text.trim value)]

/-- `Field(ge=0, le=1)` of a float. -/
def unitInterval (x : ℚ) : List Schema.Constraint :=
  [(0 ≤ x, "Input should be greater than or equal to 0"),
    (x ≤ 1, "Input should be less than or equal to 1")]

/-- `str | int | float | bool | None`. -/
def isScalar : Value → Bool
  | .list _ | .dict _ | .object => false
  | _ => true

def evidenceErrors (item : Evidence) : Schema.Errors :=
  (if isScalar item.value then [] else
    [("value.str", "Input should be a valid string"), ("value.int", "Input should be a valid integer"),
      ("value.float", "Input should be a valid number"),
      ("value.bool", "Input should be a valid boolean")]) ++
  Schema.field "quality" (unitInterval item.quality)

def hypothesisErrors (item : Hypothesis) : Schema.Errors :=
  Schema.field "rank" [Schema.ge 1 item.rank] ++
  Schema.field "confidence" (unitInterval item.confidence) ++
  Schema.field "score" [Schema.le 100 item.score]

/-- The errors of the elements of a list field, each under its index. -/
def elementErrors {α : Type} (loc : String) (errors : α → Schema.Errors) (xs : List α) :
    Schema.Errors :=
  xs.zipIdx.flatMap fun x => (errors x.1).map fun e => (s!"{loc}.{x.2}.{e.1}", e.2)

/-- A `DataMode`. -/
def dataModeErrors (dataMode : String) : Schema.Errors :=
  Schema.field "data_mode"
    [(dataMode ∈ ["synthetic", "connected"], "Input should be 'synthetic' or 'connected'")]

def columnErrors (record : IncidentRecord) : Schema.Errors :=
  dataModeErrors record.dataMode ++
  versionErrors "analysis_schema_version" record.analysisSchemaVersion ++
  versionErrors "engine_version" record.engineVersion ++
  versionErrors "scoring_policy_version" record.scoringPolicyVersion ++
  versionErrors "graph_version" record.graphVersion

def detailErrors (host : IncidentHost) (d : Database) (record : IncidentRecord) : Schema.Errors :=
  columnErrors record ++
  elementErrors "timeline" (timelineEventErrors host) record.timeline ++
  elementErrors "evidence" evidenceErrors record.evidence ++
  elementErrors "hypotheses" hypothesisErrors record.hypotheses ++
  elementErrors "feedback" feedbackErrors ((feedbackFor d record.id).map FeedbackRecord.shown)

def detailOf (host : IncidentHost) (d : Database) (record : IncidentRecord) : IncidentDetail where
  id := record.id
  scenarioId := record.scenarioId
  dataMode := record.dataMode
  analysisSchemaVersion := Text.trim record.analysisSchemaVersion
  engineVersion := Text.trim record.engineVersion
  scoringPolicyVersion := Text.trim record.scoringPolicyVersion
  graphVersion := Text.trim record.graphVersion
  title := record.title
  severity := record.severity
  status := record.status
  assigneeUserId := record.assigneeUserId
  startedAt := record.startedAt
  resolvedAt := record.resolvedAt
  affectedServices := record.affectedServices
  correlatedChangeId := record.correlatedChangeId
  summary := record.summary
  timeline := record.timeline.map (.ofItem host)
  evidence := record.evidence
  hypotheses := record.hypotheses
  feedback := (feedbackFor d record.id).map FeedbackRecord.shown

/-- `incident_detail`. -/
def incidentDetail (host : IncidentHost) (d : Database) (record : IncidentRecord) :
    Except ServiceError IncidentDetail :=
  if detailErrors host d record = [] then .ok (detailOf host d record)
  else .error (.validation (detailErrors host d record))

/-! ## When an incident can be shown -/

/-- The timeline can be shown. -/
def ReadableTimeline (host : IncidentHost) (timeline : List Items) : Prop :=
  ∀ item ∈ timeline, timelineEventErrors host item = []

theorem readTimelineEvent_isOk {host : IncidentHost} {item : Items} :
    (∃ event, readTimelineEvent host item = .ok event) ↔ timelineEventErrors host item = [] := by
  unfold readTimelineEvent
  split
  · next hnil => exact ⟨fun _ => hnil, fun _ => ⟨_, rfl⟩⟩
  · next hne => exact ⟨fun ⟨_, h⟩ => (by cases h), fun h => absurd h hne⟩

theorem mem_feedbackFor {d : Database} {incidentId : String} {row : FeedbackRecord} :
    row ∈ feedbackFor d incidentId ↔ row ∈ d.feedback.rows ∧ row.incidentId = incidentId := by
  rw [feedbackFor, List.mem_insertionSort, Table.mem_select, decide_eq_true_iff]

/-- An outcome that is shown was recorded. -/
theorem FeedbackRecord.of_verificationOutcome {row : FeedbackRecord} {outcome : VerificationOutcome}
    (h : row.verificationOutcome = some outcome) :
    row.verificationResult ≠ "not_recorded" ∧ outcome.result = row.verificationResult ∧
      outcome.evidenceIds = row.verificationEvidenceIds := by
  obtain ⟨method, -, h⟩ := Option.bind_eq_some_iff.mp h
  obtain ⟨summary, -, h⟩ := Option.bind_eq_some_iff.mp h
  split at h
  · next hresult =>
    obtain rfl := Option.some.inj h
    exact ⟨hresult, rfl, rfl⟩
  · cases h

theorem elementErrors_eq_nil {α : Type} {loc : String} {errors : α → Schema.Errors} {xs : List α} :
    elementErrors loc errors xs = [] ↔ ∀ x ∈ xs, errors x = [] := by
  rw [elementErrors, List.flatMap_eq_nil_iff]
  constructor
  · intro h x hx
    obtain ⟨i, hi, rfl⟩ := List.mem_iff_getElem.mp hx
    have hmem : (xs[i], i) ∈ xs.zipIdx := List.mem_zipIdx_iff_getElem?.mpr (List.getElem?_eq_getElem hi)
    exact List.map_eq_nil_iff.mp (h _ hmem)
  · intro h x hx
    rw [h x.1 (List.fst_mem_of_mem_zipIdx hx), List.map_nil]

theorem detailErrors_eq_nil {host : IncidentHost} {d : Database} {record : IncidentRecord} :
    detailErrors host d record = [] ↔ columnErrors record = [] ∧
      ReadableTimeline host record.timeline ∧
      (∀ item ∈ record.evidence, evidenceErrors item = []) ∧
      (∀ item ∈ record.hypotheses, hypothesisErrors item = []) ∧
      ∀ row ∈ feedbackFor d record.id, feedbackErrors row.shown = [] := by
  simp only [detailErrors, List.append_eq_nil_iff, elementErrors_eq_nil, List.forall_mem_map,
    and_assoc, ReadableTimeline]

theorem incidentDetail_isOk {host : IncidentHost} {d : Database} {record : IncidentRecord} :
    (∃ detail, incidentDetail host d record = .ok detail) ↔ detailErrors host d record = [] := by
  unfold incidentDetail
  split
  · next hnil => exact ⟨fun _ => hnil, fun _ => ⟨_, rfl⟩⟩
  · next hne => exact ⟨fun ⟨_, h⟩ => (by cases h), fun h => absurd h hne⟩

end DeployGuard.Service
