import DeployGuard.Lib.Interleaving
import DeployGuard.Service.IncidentDetail

/-!
# Incidents: the three calls that edit one

`update_incident_lifecycle`, `add_incident_note` and `submit_feedback`. An answer is
built from the stored documents after the commit, so a call may save its work and
still raise.

Each call has a lemma that says what it left in the database and what it answered,
`…_run`; the modules that follow take their steps from these.
-/

namespace DeployGuard.Service

open Interleaving Raise Session Session.Call

/-! ## Requests -/

/-- `IncidentLifecycleUpdate`: the fields that are set. The assignee may be set to none. -/
structure IncidentLifecycleUpdate where
  status : Option IncidentStatus := none
  assigneeUserId : Option (Option String) := none
  severity : Option IncidentSeverity := none
  some_set : status.isSome ∨ assigneeUserId.isSome ∨ severity.isSome
  assignee_length : ∀ userId, assigneeUserId = some (some userId) → userId.length ≤ 36

/-- `IncidentNoteCreate`. -/
structure IncidentNoteCreate where
  note : String
  valid : Schema.field "note" [Schema.nonEmpty note, Schema.atMost 4000 note] = []

/-- The verdicts of a `FeedbackRequest`; `partially` is `partial`. -/
inductive Verdict where
  | confirmed
  | rejected
  | partially
  deriving DecidableEq

def Verdict.text : Verdict → String
  | confirmed => "confirmed"
  | rejected => "rejected"
  | partially => "partial"

inductive VerificationResult where
  | supported
  | contradicted
  | inconclusive
  deriving DecidableEq

def VerificationResult.text : VerificationResult → String
  | supported => "supported"
  | contradicted => "contradicted"
  | inconclusive => "inconclusive"

def verificationErrors (method summary : String) (evidenceIds : List String) : Schema.Errors :=
  Schema.field "method" [Schema.nonEmpty method, Schema.atMost 160 method] ++
  Schema.field "summary" [Schema.nonEmpty summary, Schema.atMost 2000 summary] ++
  Schema.elements "evidence_ids" (fun evidenceId => [Schema.nonEmpty evidenceId]) 0 evidenceIds ++
  Schema.field "evidence_ids"
    [(evidenceIds ≠ [], "List should have at least 1 item after validation, not 0"),
      (evidenceIds.length ≤ 100,
        s!"List should have at most 100 items after validation, not {evidenceIds.length}")]

/-- `VerificationOutcomeRequest`. -/
structure VerificationOutcomeRequest where
  result : VerificationResult
  method : String
  summary : String
  evidenceIds : List String
  valid : verificationErrors method summary evidenceIds = []

def feedbackRequestErrors (hypothesisId note : String) : Schema.Errors :=
  Schema.field "hypothesis_id" [Schema.nonEmpty hypothesisId, Schema.atMost 100 hypothesisId] ++
  Schema.field "note" [Schema.nonEmpty note, Schema.atMost 2000 note]

/-- `FeedbackRequest`. -/
structure FeedbackRequest where
  hypothesisId : String
  verdict : Verdict
  note : String
  verificationOutcome : Option VerificationOutcomeRequest := none
  valid : feedbackRequestErrors hypothesisId note = []

/-! ## Lookups and writes the calls share -/

def incidentNotFound : ServiceError := .domain "Incident not found" "incident_not_found" 404

/-- `_governance_incident`; the calls that name a workspace look it up the same way. -/
def governanceIncident (d : Database) (workspaceId incidentId : String) :
    Except ServiceError IncidentRecord :=
  match d.incidents.get? incidentId with
  | none => .error incidentNotFound
  | some record => do
    raiseIf (record.workspaceId ≠ workspaceId) incidentNotFound
    pure record

/-- `UPDATE` of an incident by its identifier. -/
def setIncident (d : Database) (id : String) (f : IncidentRecord → IncidentRecord)
    (hf : ∀ row, (f row).id = row.id) : Database :=
  { d with incidents := d.incidents.updateWhere (fun row => row.id = id) f hf }

/-- `_timeline_entry`. -/
def timelineEntry (host : Host) (entryId eventType title detail actorUserId : String)
    (timestamp : Time) : Items :=
  [("id", .str s!"timeline-{entryId}"), ("timestamp", .str (host.isoformat timestamp)),
    ("type", .str eventType), ("title", .str title), ("detail", .str detail),
    ("service_id", .none), ("actor_user_id", .str actorUserId)]

/-- `_create_workspace_notifications`. -/
def workspaceNotifications (d : Database) (workspaceId kind title message incidentId : String)
    (timestamp : Time) : List Notification :=
  (d.memberships.select fun row => row.workspaceId = workspaceId).map fun member => {
    workspaceId := workspaceId
    userId := member.userId
    kind := kind
    title := Text.take 240 title
    message := Text.take 1000 message
    resourceType := "incident"
    resourceId := incidentId
    createdAt := timestamp }

def incidentAudit (user : User) (workspaceId action incidentId requestId : String)
    (metadata : Items) (now : Time) : AuditEvent where
  workspaceId := workspaceId
  actorUserId := some user.id
  action := action
  resourceType := "incident"
  resourceId := incidentId
  requestId := requestId
  metadata := metadata
  createdAt := now

/-! ## `update_incident_lifecycle` -/

structure IncidentLifecycleResponse where
  incidentId : String
  workspaceId : String
  status : IncidentStatus
  severity : IncidentSeverity
  assigneeUserId : Option String
  resolvedAt : Option Time
  timeline : List TimelineEvent
  deriving DecidableEq

/-- `_lifecycle_response`. -/
def lifecycleResponse (host : IncidentHost) (record : IncidentRecord) :
    Except ServiceError IncidentLifecycleResponse := do
  let status ← normalizeIncidentStatus host.toHost record.status
  let severity ← normalizeIncidentSeverity host.toHost record.severity
  let timeline ← record.timeline.mapM (readTimelineEvent host)
  pure ⟨record.id, record.workspaceId, status, severity, record.assigneeUserId,
    record.resolvedAt, timeline⟩

/-- A call of `update_incident_lifecycle`; `entryId` is the drawn part of the entry's name. -/
structure UpdateIncidentLifecycle where
  user : User
  workspaceId : String
  incidentId : String
  payload : IncidentLifecycleUpdate
  requestId : String
  entryId : String
  clock : Nat → Time

/-- The record as edited so far, and the changes noted. -/
structure LifecycleChange where
  record : IncidentRecord
  changes : List String

namespace UpdateIncidentLifecycle

variable (q : UpdateIncidentLifecycle) (host : IncidentHost)

def load (d : Database) : Except ServiceError IncidentRecord := do
  let _ ← membershipFor d.toStore q.user.id q.workspaceId "responder"
  governanceIncident d q.workspaceId q.incidentId

def setStatus (current : IncidentStatus) (record : IncidentRecord) :
    Except ServiceError LifecycleChange :=
  match q.payload.status with
  | none => .ok ⟨record, []⟩
  | some status => do
    raiseIf (status.order < current.order)
      (.domain "Incident lifecycle cannot move backwards" "invalid_incident_transition" 409)
    if status ≠ current then
      pure ⟨{ record with
          status := status.text
          resolvedAt := if status = .resolved then some (q.clock 0) else record.resolvedAt },
        [s!"status {current.text} → {status.text}"]⟩
    else pure ⟨record, []⟩

/-- The user is an active member of the workspace. -/
def isActiveMember (d : Database) (userId : String) : Bool :=
  (d.memberships.get? (q.workspaceId, userId)).isSome &&
    (d.users.get? userId).any fun user => user.isActive

def setAssignee (d : Database) (edit : LifecycleChange) : Except ServiceError LifecycleChange :=
  match q.payload.assigneeUserId with
  | none => .ok edit
  | some assignee => do
    raiseIf (∃ userId ∈ assignee, ¬q.isActiveMember d userId)
      (.domain "Assignee must be a member of this workspace" "invalid_incident_assignee" 422)
    if edit.record.assigneeUserId ≠ assignee then
      pure ⟨{ edit.record with assigneeUserId := assignee },
        edit.changes ++ [if assignee.isSome then "assignee updated" else "assignee cleared"]⟩
    else pure edit

def setSeverity (edit : LifecycleChange) : Except ServiceError LifecycleChange :=
  match q.payload.severity with
  | none => .ok edit
  | some severity => do
    let current ← normalizeIncidentSeverity host.toHost edit.record.severity
    if current ≠ severity then
      pure ⟨{ edit.record with severity := severity.stored },
        edit.changes ++ [s!"severity {current.text} → {severity.text}"]⟩
    else pure edit

/-- The checks and the assignments to the record, in their order. -/
def edit (record : IncidentRecord) (d : Database) : Except ServiceError LifecycleChange := do
  let current ← normalizeIncidentStatus host.toHost record.status
  raiseIf (current = .resolved)
    (.domain "Resolved incident lifecycle records are immutable" "incident_already_resolved" 409)
  let edit ← q.setStatus current record
  let edit ← q.setAssignee d edit
  q.setSeverity host edit

def detail (edit : LifecycleChange) : String := "; ".intercalate edit.changes

/-- The record with the entry that tells the changes. -/
def edited (edit : LifecycleChange) : IncidentRecord :=
  { edit.record with
    timeline := edit.record.timeline ++ [timelineEntry host.toHost q.entryId "incident_lifecycle"
      "Incident lifecycle updated" (detail edit) q.user.id (q.clock 1)] }

/-- The columns the call assigns. -/
def columns (record row : IncidentRecord) : IncidentRecord :=
  { row with
    status := record.status
    severity := record.severity
    assigneeUserId := record.assigneeUserId
    resolvedAt := record.resolvedAt
    timeline := record.timeline }

@[simp] theorem columns_id (record row : IncidentRecord) : (columns record row).id = row.id := rfl

def save (edit : LifecycleChange) (d : Database) : Database :=
  let d := setIncident d edit.record.id (columns (q.edited host edit)) (columns_id _)
  Database.audit
    (incidentAudit q.user q.workspaceId "incident.lifecycle_updated" edit.record.id q.requestId
      [("changes", .list (edit.changes.map .str))] (q.clock 2))
    { d with
      notifications := d.notifications ++ workspaceNotifications d q.workspaceId
        "incident_lifecycle" s!"Incident updated: {edit.record.title}" (detail edit)
        edit.record.id (q.clock 1) }

end UpdateIncidentLifecycle

/-- `update_incident_lifecycle`. -/
def updateIncidentLifecycle (host : IncidentHost) (q : UpdateIncidentLifecycle) :
    ServiceCall IncidentLifecycleResponse := do
  let record ← query q.load
  let edit ← query (q.edit host record)
  if edit.changes = [] then lift (lifecycleResponse host edit.record)
  else do
    write (q.save host edit)
    commit
    lift (lifecycleResponse host (q.edited host edit))

/-! ## `add_incident_note` -/

/-- A call of `add_incident_note`. -/
structure AddIncidentNote where
  user : User
  workspaceId : String
  incidentId : String
  payload : IncidentNoteCreate
  requestId : String
  entryId : String
  clock : Nat → Time

namespace AddIncidentNote

variable (q : AddIncidentNote) (host : IncidentHost)

def load (d : Database) : Except ServiceError IncidentRecord := do
  let _ ← membershipFor d.toStore q.user.id q.workspaceId "responder"
  governanceIncident d q.workspaceId q.incidentId

def entry : Items :=
  timelineEntry host.toHost q.entryId "incident_note" "Investigation note"
    (Text.strip q.payload.note) q.user.id (q.clock 0)

def setTimeline (timeline : List Items) (row : IncidentRecord) : IncidentRecord :=
  { row with timeline := timeline }

@[simp] theorem setTimeline_id (timeline : List Items) (row : IncidentRecord) :
    (setTimeline timeline row).id = row.id := rfl

def save (record : IncidentRecord) (d : Database) : Database :=
  let d := setIncident d record.id (setTimeline (record.timeline ++ [q.entry host]))
    (setTimeline_id _)
  Database.audit
    (incidentAudit q.user q.workspaceId "incident.note_added" record.id q.requestId []
      (q.clock 1))
    { d with
      notifications := d.notifications ++ workspaceNotifications d q.workspaceId "incident_note"
        s!"New note: {record.title}" (Text.strip q.payload.note) record.id (q.clock 0) }

end AddIncidentNote

/-- `add_incident_note`. -/
def addIncidentNote (host : IncidentHost) (q : AddIncidentNote) : ServiceCall TimelineEvent :=
  perform q.load (fun record d => .ok (q.save host record d))
    fun _ _ => readTimelineEvent host (q.entry host)

/-! ## `submit_feedback` -/

/-- A call of `submit_feedback`; `newId` is the number the table gives the record. -/
structure SubmitFeedback where
  incidentId : String
  request : FeedbackRequest
  workspaceId : Option String
  actorUserId : Option String
  actorDisplayName : Option String
  actorAuthProvider : Option String
  requestId : String
  newId : Nat
  clock : Nat → Time

namespace SubmitFeedback

variable (q : SubmitFeedback)

/-- The incident, which has the hypothesis and the evidence. -/
def load (d : Database) : Except ServiceError IncidentRecord :=
  match d.incidents.get? q.incidentId with
  | none => .error incidentNotFound
  | some incident => do
    raiseIf (∃ workspaceId ∈ q.workspaceId, incident.workspaceId ≠ workspaceId) incidentNotFound
    raiseIf (∀ hypothesis ∈ incident.hypotheses, hypothesis.id ≠ q.request.hypothesisId)
      (.domain "Hypothesis not found for this incident" "hypothesis_not_found" 404)
    raiseIf (∃ outcome ∈ q.request.verificationOutcome, ∃ evidenceId ∈ outcome.evidenceIds,
        evidenceId ∉ incident.evidence.map (·.id))
      (.domain "Verification references evidence outside this incident"
        "verification_evidence_not_found" 409)
    pure incident

/-- `hypothesis["status"] = request.verdict`, for each with the name. -/
def withVerdict (hypotheses : List Hypothesis) : List Hypothesis :=
  hypotheses.map fun hypothesis =>
    if hypothesis.id = q.request.hypothesisId then
      { hypothesis with status := q.request.verdict.text }
    else hypothesis

def record (incident : IncidentRecord) : FeedbackRecord where
  id := q.newId
  incidentId := incident.id
  hypothesisId := q.request.hypothesisId
  verdict := q.request.verdict.text
  note := q.request.note
  actorUserId := q.actorUserId
  actorDisplayName := q.actorDisplayName
  actorAuthProvider := q.actorAuthProvider
  verificationResult := (q.request.verificationOutcome.map (·.result.text)).getD "not_recorded"
  verificationMethod := q.request.verificationOutcome.map (·.method)
  verificationSummary := q.request.verificationOutcome.map (·.summary)
  verificationEvidenceIds := (q.request.verificationOutcome.map (·.evidenceIds)).getD []
  submittedAt := q.clock 0

def setHypotheses (hypotheses : List Hypothesis) (row : IncidentRecord) : IncidentRecord :=
  { row with hypotheses := hypotheses }

/-- The hypotheses are set under the same id. -/
@[simp] theorem setHypotheses_id (hypotheses : List Hypothesis) (row : IncidentRecord) :
    (setHypotheses hypotheses row).id = row.id := rfl

/-- The flushed `UPDATE`. The session leaves it out if the list is equal to the one read. -/
def flush (incident : IncidentRecord) (d : Database) : Database :=
  if q.withVerdict incident.hypotheses = incident.hypotheses then d
  else setIncident d incident.id (setHypotheses (q.withVerdict incident.hypotheses))
    (setHypotheses_id _)

def auditEntry (incident : IncidentRecord) (workspaceId : String) : AuditEvent where
  workspaceId := workspaceId
  actorUserId := q.actorUserId
  action := "incident.verdict.recorded"
  resourceType := "incident_feedback"
  resourceId := toString q.newId
  requestId := q.requestId
  metadata := [("incident_id", .str incident.id),
    ("hypothesis_id", .str q.request.hypothesisId), ("verdict", .str q.request.verdict.text),
    ("verification_result", .str (q.record incident).verificationResult)]
  createdAt := q.clock 1

def save (incident : IncidentRecord) (d : Database) : Except ServiceError Database := do
  let d := q.flush incident d
  let feedback ← addRow d.feedback (q.record incident)
  let d := { d with feedback := feedback }
  match q.workspaceId with
  | some workspaceId => pure (Database.audit (q.auditEntry incident workspaceId) d)
  | none => pure d

/-- The incident as the session holds it after the commit. -/
def answered (incident : IncidentRecord) : IncidentRecord :=
  setHypotheses (q.withVerdict incident.hypotheses) incident

end SubmitFeedback

/-- `submit_feedback`. -/
def submitFeedback (host : IncidentHost) (q : SubmitFeedback) : ServiceCall IncidentDetail :=
  perform q.load q.save fun incident d => incidentDetail host d (q.answered incident)

/-! ## What a call left behind -/

section Spec

variable {host : IncidentHost} {d d' : Database} {record : IncidentRecord}

/-- An edit changes its own incident only. -/
theorem get?_setIncident {id : String} {f : IncidentRecord → IncidentRecord}
    (hf : ∀ row, (f row).id = row.id) (id' : String) :
    (setIncident d id f hf).incidents.get? id' =
      (d.incidents.get? id').map fun row => if id' = id then f row else row :=
  Table.get?_updateKey d.incidents id f hf id'

/-- The incident is one of the workspace. -/
theorem governanceIncident_ok {workspaceId incidentId : String}
    (h : governanceIncident d workspaceId incidentId = .ok record) :
    d.incidents.get? incidentId = some record ∧ record.workspaceId = workspaceId := by
  unfold governanceIncident at h
  cases hget : d.incidents.get? incidentId with
  | none =>
    rw [hget] at h
    cases h
  | some row =>
    rw [hget] at h
    obtain ⟨_, hworkspace, h⟩ := Raise.bind_eq_ok.mp h
    obtain rfl := Raise.pure_eq_ok.mp h
    exact ⟨rfl, not_not.mp (raiseIf_eq_ok.mp hworkspace)⟩

/-- An update goes by a stored incident. -/
theorem UpdateIncidentLifecycle.load_ok {q : UpdateIncidentLifecycle} (h : q.load d = .ok record) :
    d.incidents.get? q.incidentId = some record := by
  obtain ⟨_, -, h⟩ := Raise.bind_eq_ok.mp h
  exact (governanceIncident_ok h).1

theorem AddIncidentNote.load_ok {q : AddIncidentNote} (h : q.load d = .ok record) :
    d.incidents.get? q.incidentId = some record := by
  obtain ⟨_, -, h⟩ := Raise.bind_eq_ok.mp h
  exact (governanceIncident_ok h).1

/-- An entry the program writes can be read. -/
theorem timelineEventErrors_entry {entryId eventType title detail actorUserId : String}
    {timestamp : Time} :
    timelineEventErrors host
      (timelineEntry host.toHost entryId eventType title detail actorUserId timestamp) = [] := by
  simp [timelineEventErrors, timelineEntry, requiredItem, Schema.field, Value.lookup, getItem,
    List.lookup_cons, isText, isOptionalText, timelineKeys, host.readDatetime_isoformat]

/-- The lifecycle of an incident can be shown. -/
theorem lifecycleResponse_isOk :
    (∃ answer, lifecycleResponse host record = .ok answer) ↔
      (∃ status, normalizeIncidentStatus host.toHost record.status = .ok status) ∧
      (∃ severity, normalizeIncidentSeverity host.toHost record.severity = .ok severity) ∧
      ReadableTimeline host record.timeline := by
  have htimeline : (∃ events, record.timeline.mapM (readTimelineEvent host) = .ok events) ↔
      ReadableTimeline host record.timeline := by
    rw [mapM_isOk]
    exact forall₂_congr fun item _ => readTimelineEvent_isOk
  rw [← htimeline]
  constructor
  · intro h
    obtain ⟨answer, h⟩ := h
    obtain ⟨status, hstatus, h⟩ := Raise.bind_eq_ok.mp h
    obtain ⟨severity, hseverity, h⟩ := Raise.bind_eq_ok.mp h
    obtain ⟨events, hevents, -⟩ := Raise.bind_eq_ok.mp h
    exact ⟨⟨status, hstatus⟩, ⟨severity, hseverity⟩, events, hevents⟩
  · intro h
    obtain ⟨⟨status, hstatus⟩, ⟨severity, hseverity⟩, events, hevents⟩ := h
    exact ⟨_, Raise.bind_eq_ok.mpr ⟨status, hstatus, Raise.bind_eq_ok.mpr ⟨severity, hseverity,
      Raise.bind_eq_ok.mpr ⟨events, hevents, rfl⟩⟩⟩⟩

/-! ## What the lifecycle call checks and edits -/

namespace UpdateIncidentLifecycle

variable {q : UpdateIncidentLifecycle} {current : IncidentStatus} {edit edit' : LifecycleChange}

/-- The checks of the payload against the record. -/
structure Passes (q : UpdateIncidentLifecycle) (host : IncidentHost) (record : IncidentRecord)
    (d : Database) : Prop where
  status : ∃ current, normalizeIncidentStatus host.toHost record.status = .ok current ∧
    current ≠ .resolved ∧ ∀ status ∈ q.payload.status, current.order ≤ status.order
  assignee : ∀ assignee ∈ q.payload.assigneeUserId, ∀ userId ∈ assignee, q.isActiveMember d userId
  severity : q.payload.severity.isSome →
    ∃ current, normalizeIncidentSeverity host.toHost record.severity = .ok current

/-- The payload asks for something the record does not say already. -/
def Asks (q : UpdateIncidentLifecycle) (host : IncidentHost) (record : IncidentRecord) : Prop :=
  (∃ status ∈ q.payload.status, normalizeIncidentStatus host.toHost record.status ≠ .ok status) ∨
  (∃ assignee ∈ q.payload.assigneeUserId, record.assigneeUserId ≠ assignee) ∨
  ∃ severity ∈ q.payload.severity,
    normalizeIncidentSeverity host.toHost record.severity ≠ .ok severity

/-- A status is kept or moved forward. -/
theorem setStatus_cases (h : q.setStatus current record = .ok edit) :
    (∀ status ∈ q.payload.status, current.order ≤ status.order) ∧
      ((edit = ⟨record, []⟩ ∧ ∀ status ∈ q.payload.status, status = current) ∨
        ∃ status ∈ q.payload.status, status ≠ current ∧
          edit = ⟨{ record with
              status := status.text
              resolvedAt := if status = .resolved then some (q.clock 0) else record.resolvedAt },
            [s!"status {current.text} → {status.text}"]⟩) := by
  unfold setStatus at h
  cases hstatus : q.payload.status with
  | none =>
    rw [hstatus] at h
    exact ⟨nofun, Or.inl ⟨(Except.ok.inj h).symm, nofun⟩⟩
  | some status =>
    rw [hstatus] at h
    obtain ⟨_, hforward, h⟩ := Raise.bind_eq_ok.mp h
    have hle : current.order ≤ status.order := not_lt.mp (raiseIf_eq_ok.mp hforward)
    refine ⟨fun s hs => Option.some.inj hs ▸ hle, ?_⟩
    by_cases hsame : status = current
    · rw [if_neg (not_not.mpr hsame)] at h
      exact Or.inl ⟨(Raise.pure_eq_ok.mp h).symm, fun s hs => Option.some.inj hs ▸ hsame⟩
    · rw [if_pos hsame] at h
      exact Or.inr ⟨status, rfl, hsame, (Raise.pure_eq_ok.mp h).symm⟩

/-- An assignee is an active member, or nobody. -/
theorem setAssignee_cases (h : q.setAssignee d edit = .ok edit') :
    (∀ assignee ∈ q.payload.assigneeUserId, ∀ userId ∈ assignee, q.isActiveMember d userId) ∧
      ((edit' = edit ∧ ∀ assignee ∈ q.payload.assigneeUserId,
          edit.record.assigneeUserId = assignee) ∨
        ∃ assignee ∈ q.payload.assigneeUserId, edit.record.assigneeUserId ≠ assignee ∧
          edit' = ⟨{ edit.record with assigneeUserId := assignee }, edit.changes ++
            [if assignee.isSome then "assignee updated" else "assignee cleared"]⟩) := by
  unfold setAssignee at h
  cases hassignee : q.payload.assigneeUserId with
  | none =>
    rw [hassignee] at h
    exact ⟨nofun, Or.inl ⟨(Except.ok.inj h).symm, nofun⟩⟩
  | some assignee =>
    rw [hassignee] at h
    obtain ⟨_, hmember, h⟩ := Raise.bind_eq_ok.mp h
    have hactive := raiseIf_eq_ok.mp hmember
    push Not at hactive
    refine ⟨fun a ha => Option.some.inj ha ▸ hactive, ?_⟩
    by_cases hsame : edit.record.assigneeUserId = assignee
    · rw [if_neg (not_not.mpr hsame)] at h
      exact Or.inl ⟨(Raise.pure_eq_ok.mp h).symm, fun a ha => Option.some.inj ha ▸ hsame⟩
    · rw [if_pos hsame] at h
      exact Or.inr ⟨assignee, rfl, hsame, (Raise.pure_eq_ok.mp h).symm⟩

/-- A severity is compared in its normal form, which has to exist. -/
theorem setSeverity_cases (h : q.setSeverity host edit = .ok edit') :
    (q.payload.severity.isSome →
        ∃ current, normalizeIncidentSeverity host.toHost edit.record.severity = .ok current) ∧
      ((edit' = edit ∧ ∀ severity ∈ q.payload.severity,
          normalizeIncidentSeverity host.toHost edit.record.severity = .ok severity) ∨
        ∃ severity ∈ q.payload.severity,
          normalizeIncidentSeverity host.toHost edit.record.severity ≠ .ok severity ∧
          ∃ change, edit' = ⟨{ edit.record with severity := severity.stored },
            edit.changes ++ [change]⟩) := by
  unfold setSeverity at h
  cases hseverity : q.payload.severity with
  | none =>
    rw [hseverity] at h
    exact ⟨nofun, Or.inl ⟨(Except.ok.inj h).symm, nofun⟩⟩
  | some severity =>
    rw [hseverity] at h
    obtain ⟨current, hcurrent, h⟩ := Raise.bind_eq_ok.mp h
    refine ⟨fun _ => ⟨current, hcurrent⟩, ?_⟩
    by_cases hsame : current = severity
    · rw [if_neg (not_not.mpr hsame)] at h
      exact Or.inl ⟨(Raise.pure_eq_ok.mp h).symm, fun s hs => by
        rw [hcurrent, hsame, Option.some.inj hs]⟩
    · rw [if_pos hsame] at h
      refine Or.inr ⟨severity, rfl, fun hread => hsame ?_, _, (Raise.pure_eq_ok.mp h).symm⟩
      exact Except.ok.inj (hcurrent.symm.trans hread)

/-- Moving forward is allowed. -/
theorem setStatus_isOk (record : IncidentRecord)
    (h : ∀ status ∈ q.payload.status, current.order ≤ status.order) :
    ∃ edit, q.setStatus current record = .ok edit := by
  unfold setStatus
  cases hstatus : q.payload.status with
  | none => exact ⟨_, rfl⟩
  | some status =>
    show ∃ edit, (raiseIf (status.order < current.order) _ >>= fun _ => ite _ _ _) = .ok edit
    rw [raiseIf_neg (not_lt.mpr (h status hstatus)), Raise.bind_ok]
    split <;> exact ⟨_, rfl⟩

theorem setAssignee_isOk (edit : LifecycleChange)
    (h : ∀ assignee ∈ q.payload.assigneeUserId, ∀ userId ∈ assignee, q.isActiveMember d userId) :
    ∃ edit', q.setAssignee d edit = .ok edit' := by
  unfold setAssignee
  cases hassignee : q.payload.assigneeUserId with
  | none => exact ⟨_, rfl⟩
  | some assignee =>
    have hactive : ¬∃ userId ∈ assignee, ¬q.isActiveMember d userId :=
      fun ⟨userId, hmem, hnot⟩ => hnot (h assignee hassignee userId hmem)
    show ∃ edit', (raiseIf (∃ userId ∈ assignee, ¬q.isActiveMember d userId) _ >>=
      fun _ => ite _ _ _) = .ok edit'
    rw [raiseIf_neg hactive, Raise.bind_ok]
    split <;> exact ⟨_, rfl⟩

theorem setSeverity_isOk (h : q.payload.severity.isSome →
    ∃ current, normalizeIncidentSeverity host.toHost edit.record.severity = .ok current) :
    ∃ edit', q.setSeverity host edit = .ok edit' := by
  unfold setSeverity
  cases hseverity : q.payload.severity with
  | none => exact ⟨_, rfl⟩
  | some severity =>
    obtain ⟨current, hcurrent⟩ := h (by rw [hseverity]; rfl)
    show ∃ edit', (normalizeIncidentSeverity host.toHost edit.record.severity >>=
      fun _ => ite _ _ _) = .ok edit'
    rw [hcurrent, Raise.bind_ok]
    split <;> exact ⟨_, rfl⟩

/-- What the edited record is, against the one that was read. -/
structure Edited (q : UpdateIncidentLifecycle) (host : IncidentHost) (record : IncidentRecord)
    (edit : LifecycleChange) : Prop where
  id : edit.record.id = record.id
  timeline : edit.record.timeline = record.timeline
  status : edit.record.status = record.status ∧ edit.record.resolvedAt = record.resolvedAt ∨
    ∃ current status, normalizeIncidentStatus host.toHost record.status = .ok current ∧
      current.order < status.order ∧ q.payload.status = some status ∧
      edit.record.status = status.text ∧
      edit.record.resolvedAt = if status = .resolved then some (q.clock 0) else record.resolvedAt
  severity : edit.record.severity = record.severity ∨
    ∃ severity, q.payload.severity = some severity ∧ edit.record.severity = severity.stored
  same : edit.changes = [] → edit.record = record
  asks : edit.changes ≠ [] ↔ q.Asks host record

/-- What an edit that returned had checked, and what it changed. -/
theorem edit_ok (h : q.edit host record d = .ok edit) :
    q.Passes host record d ∧ q.Edited host record edit := by
  obtain ⟨current, hcurrent, h⟩ := Raise.bind_eq_ok.mp h
  obtain ⟨_, hunresolved, h⟩ := Raise.bind_eq_ok.mp h
  obtain ⟨edit₁, h₁, h⟩ := Raise.bind_eq_ok.mp h
  obtain ⟨edit₂, h₂, h₃⟩ := Raise.bind_eq_ok.mp h
  obtain ⟨hforward, hstatus⟩ := setStatus_cases h₁
  obtain ⟨hactive, hassignee⟩ := setAssignee_cases h₂
  obtain ⟨hsupported, hseverity⟩ := setSeverity_cases h₃
  have hunresolved := raiseIf_eq_ok.mp hunresolved
  -- each assignment leaves the other columns alone
  have hrecord₁ : edit₁.record = { record with
      status := edit₁.record.status, resolvedAt := edit₁.record.resolvedAt } := by
    rcases hstatus with ⟨rfl, -⟩ | ⟨_, -, -, rfl⟩ <;> rfl
  have hrecord₂ : edit₂.record = { edit₁.record with
      assigneeUserId := edit₂.record.assigneeUserId } := by
    rcases hassignee with ⟨rfl, -⟩ | ⟨_, -, -, rfl⟩ <;> rfl
  have hrecord₃ : edit.record = { edit₂.record with severity := edit.record.severity } := by
    rcases hseverity with ⟨rfl, -⟩ | ⟨_, -, -, _, rfl⟩ <;> rfl
  have hassigned : edit₁.record.assigneeUserId = record.assigneeUserId :=
    congrArg (·.assigneeUserId) hrecord₁
  have hrated : edit₂.record.severity = record.severity :=
    (congrArg (·.severity) hrecord₂).trans (congrArg (·.severity) hrecord₁)
  have hmoved : edit.record.status = edit₁.record.status :=
    (congrArg (·.status) hrecord₃).trans (congrArg (·.status) hrecord₂)
  have hended : edit.record.resolvedAt = edit₁.record.resolvedAt :=
    (congrArg (·.resolvedAt) hrecord₃).trans (congrArg (·.resolvedAt) hrecord₂)
  rw [hrated] at hsupported
  refine ⟨⟨⟨current, hcurrent, hunresolved, hforward⟩, hactive, hsupported⟩, ?_⟩
  constructor
  case id =>
    exact (congrArg (·.id) hrecord₃).trans
      ((congrArg (·.id) hrecord₂).trans (congrArg (·.id) hrecord₁))
  case timeline =>
    exact (congrArg (·.timeline) hrecord₃).trans
      ((congrArg (·.timeline) hrecord₂).trans (congrArg (·.timeline) hrecord₁))
  case status =>
    rw [hmoved, hended]
    rcases hstatus with ⟨rfl, -⟩ | ⟨status, hmem, hne, rfl⟩
    · exact Or.inl ⟨rfl, rfl⟩
    · refine Or.inr ⟨current, status, hcurrent, ?_, hmem, rfl, rfl⟩
      exact lt_of_le_of_ne (hforward status hmem) fun horder =>
        hne (IncidentStatus.order_injective horder).symm
  case severity =>
    rw [← hrated]
    rcases hseverity with ⟨rfl, -⟩ | ⟨severity, hmem, -, _, rfl⟩
    · exact Or.inl rfl
    · exact Or.inr ⟨severity, hmem, rfl⟩
  case same =>
    intro hnil
    rcases hseverity with ⟨rfl, -⟩ | ⟨_, -, -, _, rfl⟩
    · rcases hassignee with ⟨rfl, -⟩ | ⟨_, -, -, rfl⟩
      · rcases hstatus with ⟨rfl, -⟩ | ⟨_, -, -, rfl⟩
        · rfl
        · cases hnil
      · exact absurd hnil (by simp)
    · exact absurd hnil (by simp)
  case asks =>
    rw [Asks, ← hassigned, ← hrated, hcurrent]
    rcases hseverity with ⟨rfl, hnot₃⟩ | ⟨severity, hmem, hne, _, rfl⟩
    · rcases hassignee with ⟨rfl, hnot₂⟩ | ⟨assignee, hmem, hne, rfl⟩
      · rcases hstatus with ⟨rfl, hnot₁⟩ | ⟨status, hmem, hne, rfl⟩
        · refine iff_of_false (fun h => h rfl) ?_
          intro h
          obtain ⟨status, hmem, hne⟩ | ⟨assignee, hmem, hne⟩ | ⟨severity, hmem, hne⟩ := h
          · exact hne (by rw [hnot₁ status hmem])
          · exact hne (hnot₂ assignee hmem)
          · exact hne (hnot₃ severity hmem)
        · exact iff_of_true (List.cons_ne_nil _ _) (Or.inl ⟨status, hmem, fun h =>
            hne (Except.ok.inj h).symm⟩)
      · exact iff_of_true (by simp) (Or.inr (Or.inl ⟨assignee, hmem, hne⟩))
    · exact iff_of_true (by simp) (Or.inr (Or.inr ⟨severity, hmem, hne⟩))

/-- An edit that passes its checks returns. -/
theorem edit_isOk (h : q.Passes host record d) : ∃ edit, q.edit host record d = .ok edit := by
  obtain ⟨current, hcurrent, hunresolved, hforward⟩ := h.status
  obtain ⟨edit₁, h₁⟩ := setStatus_isOk record hforward
  obtain ⟨edit₂, h₂⟩ := setAssignee_isOk edit₁ h.assignee
  have hrated : edit₂.record.severity = record.severity := by
    rcases (setAssignee_cases h₂).2 with ⟨rfl, -⟩ | ⟨_, -, -, rfl⟩ <;>
      rcases (setStatus_cases h₁).2 with ⟨rfl, -⟩ | ⟨_, -, -, rfl⟩ <;> rfl
  obtain ⟨edit₃, h₃⟩ := setSeverity_isOk (hrated ▸ h.severity)
  exact ⟨edit₃, Raise.bind_eq_ok.mpr ⟨current, hcurrent, Raise.bind_eq_ok.mpr ⟨(),
    raiseIf_neg hunresolved _, Raise.bind_eq_ok.mpr ⟨edit₁, h₁, Raise.bind_eq_ok.mpr
      ⟨edit₂, h₂, h₃⟩⟩⟩⟩⟩

end UpdateIncidentLifecycle

/-- The call raised before it wrote, found nothing to change, or saved its edit. -/
theorem updateIncidentLifecycle_run (host : IncidentHost) (q : UpdateIncidentLifecycle) (d : Database) :
    ((¬∃ record edit, q.load d = .ok record ∧ q.edit host record d = .ok edit) ∧
      ∃ e, (updateIncidentLifecycle host q).run d = (.error e, d)) ∨
    ∃ record edit, q.load d = .ok record ∧ q.edit host record d = .ok edit ∧
      (updateIncidentLifecycle host q).run d =
        if edit.changes = [] then (lifecycleResponse host edit.record, d)
        else (lifecycleResponse host (q.edited host edit), q.save host edit d) := by
  cases hload : q.load d with
  | error e =>
    refine Or.inl ⟨?_, e, run_eq (query_error_bind hload)⟩
    intro h
    obtain ⟨record, edit, h, -⟩ := h
    cases h
  | ok record =>
    cases hedit : q.edit host record d with
    | error e =>
      refine Or.inl ⟨?_, e, run_eq (s := State.start d) ?_⟩
      · intro h
        obtain ⟨record', edit, h, hedit'⟩ := h
        obtain rfl := Except.ok.inj h
        rw [hedit] at hedit'
        cases hedit'
      · exact (query_ok_bind hload).trans (query_error_bind hedit)
    | ok edit =>
      refine Or.inr ⟨record, edit, rfl, hedit, ?_⟩
      have hstart : updateIncidentLifecycle host q (State.start d) =
          (if edit.changes = [] then lift (lifecycleResponse host edit.record)
          else do
            write (q.save host edit)
            commit
            lift (lifecycleResponse host (q.edited host edit)) :
              ServiceCall IncidentLifecycleResponse) (State.start d) :=
        (query_ok_bind hload).trans (query_ok_bind hedit)
      rw [run_def, hstart]
      split <;> rfl

/-- What the save leaves of the incidents. -/
theorem UpdateIncidentLifecycle.get?_save {q : UpdateIncidentLifecycle} {edit : LifecycleChange}
    (id : String) : (q.save host edit d).incidents.get? id = (d.incidents.get? id).map fun row =>
      if id = edit.record.id then columns (q.edited host edit) row else row :=
  get?_setIncident (columns_id _) id

/-- A note is appended to the timeline of its incident. -/
theorem AddIncidentNote.get?_save {q : AddIncidentNote} (id : String) :
    (q.save host record d).incidents.get? id = (d.incidents.get? id).map fun row =>
      if id = record.id then setTimeline (record.timeline ++ [q.entry host]) row else row :=
  get?_setIncident (setTimeline_id _) id

/-- The note that was added can always be shown. -/
theorem addIncidentNote_run (host : IncidentHost) (q : AddIncidentNote) (d : Database) :
    (∃ e, (addIncidentNote host q).run d = (.error e, d)) ∨
      ∃ record event, q.load d = .ok record ∧
        (addIncidentNote host q).run d = (.ok event, q.save host record d) := by
  rcases perform_run q.load (fun record d => .ok (q.save host record d))
    (fun _ _ => readTimelineEvent host (q.entry host)) d with ⟨e, hrun⟩ | ⟨record, t, hload, ht, hrun⟩
  · exact Or.inl ⟨e, hrun⟩
  · have hentry : timelineEventErrors host (q.entry host) = [] := timelineEventErrors_entry
    obtain ⟨event, hevent⟩ := readTimelineEvent_isOk.mpr hentry
    obtain rfl := Except.ok.inj ht
    exact Or.inr ⟨record, event, hload, hrun.trans (by rw [hevent])⟩

namespace SubmitFeedback

variable {q : SubmitFeedback} {incident : IncidentRecord}

/-- Feedback is given to a hypothesis of a stored incident. -/
theorem load_ok (h : q.load d = .ok incident) :
    d.incidents.get? q.incidentId = some incident ∧
      ∃ hypothesis ∈ incident.hypotheses, hypothesis.id = q.request.hypothesisId := by
  unfold load at h
  cases hget : d.incidents.get? q.incidentId with
  | none =>
    rw [hget] at h
    cases h
  | some row =>
    rw [hget] at h
    obtain ⟨_, -, h⟩ := Raise.bind_eq_ok.mp h
    obtain ⟨_, hhypothesis, h⟩ := Raise.bind_eq_ok.mp h
    obtain ⟨_, -, h⟩ := Raise.bind_eq_ok.mp h
    obtain rfl := Raise.pure_eq_ok.mp h
    have hexists := raiseIf_eq_ok.mp hhypothesis
    push Not at hexists
    exact ⟨rfl, hexists⟩

/-- Writing the verdict leaves the feedback alone. -/
theorem flush_feedback : (q.flush incident d).feedback = d.feedback := by
  unfold flush
  split <;> rfl

theorem flush_governance : (q.flush incident d).snapshots = d.snapshots ∧
    (q.flush incident d).consents = d.consents := by
  unfold flush
  split <;> exact ⟨rfl, rfl⟩

/-- One row of feedback, and one verdict. -/
theorem save_ok (h : q.save incident d = .ok d') :
    d.feedback.insert (q.record incident) = some d'.feedback ∧
      d'.incidents = (q.flush incident d).incidents ∧ d'.snapshots = d.snapshots ∧
      d'.consents = d.consents := by
  obtain ⟨feedback, hfeedback, h⟩ := Raise.bind_eq_ok.mp h
  have hinsert := addRow_eq_ok.mp hfeedback
  rw [flush_feedback] at hinsert
  cases hworkspace : q.workspaceId with
  | none =>
    rw [hworkspace] at h
    obtain rfl := Raise.pure_eq_ok.mp h
    exact ⟨hinsert, rfl, flush_governance⟩
  | some workspaceId =>
    rw [hworkspace] at h
    obtain rfl := Raise.pure_eq_ok.mp h
    exact ⟨hinsert, rfl, flush_governance⟩

/-- The call can be saved as long as the number of the record is free. -/
theorem save_isOk (incident : IncidentRecord) (h : d.feedback.get? q.newId = none) :
    ∃ d', q.save incident d = .ok d' := by
  obtain ⟨feedback, hinsert⟩ := Table.insert_of_free (r := q.record incident) h
  have hflushed : (q.flush incident d).feedback.insert (q.record incident) = some feedback := by
    rw [flush_feedback]
    exact hinsert
  cases hworkspace : q.workspaceId with
  | none => exact ⟨_, Raise.bind_eq_ok.mpr ⟨feedback, addRow_eq_ok.mpr hflushed, by
      rw [hworkspace]; rfl⟩⟩
  | some workspaceId => exact ⟨_, Raise.bind_eq_ok.mpr ⟨feedback, addRow_eq_ok.mpr hflushed, by
      rw [hworkspace]; rfl⟩⟩

/-- The verdict is written where it changes anything. -/
theorem get?_flush (id : String) :
    (q.flush incident d).incidents.get? id = (d.incidents.get? id).map fun row =>
      if id = incident.id ∧ q.withVerdict incident.hypotheses ≠ incident.hypotheses then
        setHypotheses (q.withVerdict incident.hypotheses) row
      else row := by
  unfold flush
  by_cases hsame : q.withVerdict incident.hypotheses = incident.hypotheses
  · simp [hsame]
  · rw [if_neg hsame, get?_setIncident (setHypotheses_id _)]
    simp [hsame]

end SubmitFeedback

namespace SubmitFeedback

variable {q : SubmitFeedback} {incident : IncidentRecord}

/-- The record that is stored can be shown. -/
theorem feedbackErrors_record : feedbackErrors (q.record incident).shown = [] := by
  refine List.append_eq_nil_iff.mpr ⟨Schema.field_eq_nil.mpr fun c hc => ?_,
    Schema.field_eq_nil.mpr fun c hc => ?_⟩
  · rw [List.mem_singleton.mp hc]
    show decide (q.request.verdict.text ∈ verdictNames) = true
    cases q.request.verdict <;> decide
  · obtain ⟨outcome, houtcome, rfl⟩ := List.mem_map.mp hc
    obtain ⟨hrecorded, hresult, -⟩ :=
      FeedbackRecord.of_verificationOutcome (Option.mem_toList.mp houtcome)
    rw [hresult]
    show decide ((q.record incident).verificationResult ∈ _) = true
    unfold record at hrecorded ⊢
    cases hrequest : q.request.verificationOutcome with
    | none =>
      rw [hrequest] at hrecorded
      exact absurd rfl hrecorded
    | some requested =>
      show decide (requested.result.text ∈ verificationResults ++ ["not_recorded"]) = true
      cases requested.result <;> decide

/-- A verdict moves a status, which is not checked, and the new record is valid. -/
theorem detailErrors_answered (h : q.save incident d = .ok d') :
    detailErrors host d' (q.answered incident) = [] ↔ detailErrors host d incident = [] := by
  have hhypotheses : (∀ item ∈ q.withVerdict incident.hypotheses, hypothesisErrors item = []) ↔
      ∀ item ∈ incident.hypotheses, hypothesisErrors item = [] := by
    have hsame : ∀ item : Hypothesis, hypothesisErrors (if item.id = q.request.hypothesisId then
        { item with status := q.request.verdict.text } else item) = hypothesisErrors item := by
      intro item
      split <;> rfl
    rw [withVerdict, List.forall_mem_map]
    exact forall₂_congr fun item _ => by rw [hsame]
  have hfeedback : (∀ row ∈ feedbackFor d' incident.id, feedbackErrors row.shown = []) ↔
      ∀ row ∈ feedbackFor d incident.id, feedbackErrors row.shown = [] := by
    have hrows := (Table.insert_eq_some (save_ok h).1).2
    simp only [mem_feedbackFor, hrows, List.mem_append, List.mem_singleton]
    constructor
    · intro hall row h
      obtain ⟨hrow, hid⟩ := h
      exact hall row ⟨Or.inl hrow, hid⟩
    · intro hall row h
      obtain ⟨hrow | rfl, hid⟩ := h
      · exact hall row ⟨hrow, hid⟩
      · exact feedbackErrors_record
  rw [detailErrors_eq_nil, detailErrors_eq_nil]
  exact and_congr Iff.rfl (and_congr Iff.rfl (and_congr Iff.rfl (and_congr hhypotheses hfeedback)))

end SubmitFeedback

/-- Feedback is saved as a whole or not at all; its answer is built from what was saved. -/
theorem submitFeedback_run (host : IncidentHost) (q : SubmitFeedback) (d : Database) :
    (∃ e, (submitFeedback host q).run d = (.error e, d)) ∨
      ∃ incident d', q.load d = .ok incident ∧ q.save incident d = .ok d' ∧
        (submitFeedback host q).run d = (incidentDetail host d' (q.answered incident), d') :=
  perform_run q.load q.save _ d

end Spec

/-! An incident of a workspace with one member, for the examples of the modules that follow. -/

def noor : User := ⟨"u-1", "noor@acme.test", "Noor", "development", "development:noor", true, 0⟩

def latency (id : String) : Hypothesis where
  id := id
  rank := 1
  causeService := "checkout"
  cause := "Connection pool exhausted"
  confidence := 1
  score := 80
  evidenceIds := ["ev-1"]
  counterEvidenceIds := []
  reasoning := "The pool is full when the latency rises."
  nextStep := "Raise the limit."
  status := "open"

def checkoutIncident (severity status : String) : IncidentRecord where
  id := "inc-1"
  workspaceId := "w-1"
  repositoryId := "repo-1"
  scenarioId := "scenario-1"
  dataMode := "connected"
  analysisSchemaVersion := "analysis/v1"
  engineVersion := "engine/v1"
  scoringPolicyVersion := "scoring/v1"
  graphVersion := "graph/v1"
  title := "Checkout latency"
  severity := severity
  status := status
  assigneeUserId := none
  startedAt := 0
  resolvedAt := none
  affectedServices := ["checkout"]
  correlatedChangeId := none
  summary := "Requests time out."
  timeline := []
  evidence := [⟨"ev-1", "metric", "prometheus", 0, "Pool usage", .none, 1, none, [], []⟩]
  hypotheses := [latency "h-1", latency "h-2"]

def withIncident (incident : IncidentRecord) : Database :=
  { Database.empty with
    memberships := ((∅ : Table WorkspaceMembership.identity).insert
      ⟨"m-1", "w-1", "u-1", "owner", 0⟩).getD ∅
    incidents := ((∅ : Table IncidentRecord.id).insert incident).getD ∅ }

def setLifecycleStatus (status : IncidentStatus) : UpdateIncidentLifecycle where
  user := noor
  workspaceId := "w-1"
  incidentId := "inc-1"
  payload := ⟨some status, none, none, Or.inl rfl, nofun⟩
  requestId := "r-1"
  entryId := "e-1"
  clock n := n + 1

def judge (hypothesisId : String) (verdict : Verdict) (newId : Nat)
    (h : feedbackRequestErrors hypothesisId "Seen in the traces." = []) : SubmitFeedback where
  incidentId := "inc-1"
  request := ⟨hypothesisId, verdict, "Seen in the traces.", none, h⟩
  workspaceId := some "w-1"
  actorUserId := some "u-1"
  actorDisplayName := some "Noor"
  actorAuthProvider := some "development"
  requestId := "r-1"
  newId := newId
  clock n := n + 1

end DeployGuard.Service
