import DeployGuard.Lib.Journal
import DeployGuard.Service.Incidents

/-!
# Postmortem snapshots

`create_postmortem_snapshot` renders a resolved incident with all its feedback, and
stores the text under its digest unless the incident has a snapshot with that digest.

The text tells apart any two stages of the feedback: it is longer with every record that
comes to it (`postmortemText_take`). The snapshot modules need no more of it than that.
-/

namespace DeployGuard.Service

open Interleaving Raise Session Session.Call

/-! ## `_render_incident_postmortem` -/

def hypothesisLines (h : Hypothesis) : List String :=
  let confidence := Number.wholePercent h.confidence
  [s!"### Rank {h.rank}: {h.causeService} - {h.cause} (Confidence: {confidence})",
    s!"- **Reasoning**: {h.reasoning}",
    s!"- **Recommended Next Steps**: {h.nextStep}",
    ""]

def actorText : Option ActorProvenance → String
  | some actor => s!"{actor.displayName} (`{actor.userId}` via `{actor.authProvider}`)"
  | none => "Legacy/unattributed actor"

def outcomeLines (host : IncidentHost) : Option VerificationOutcome → List String
  | some outcome =>
    let result := host.upper outcome.result
    let cited := ", ".intercalate (outcome.evidenceIds.map fun item => s!"`{item}`")
    [s!"  - **Verification**: `{result}` via `{outcome.method}`",
      s!"  - **Observed outcome**: {outcome.summary}",
      s!"  - **Evidence**: {cited}"]
  | none => []

def feedbackLines (host : IncidentHost) (f : Feedback) : List String :=
  let verdict := host.upper f.verdict
  let submittedAt := host.datetimeStr f.submittedAt
  let actor := actorText f.actor
  [s!"- **Verdict**: `{verdict}` | **Submitted At**: `{submittedAt}` | **Actor**: {actor}",
    s!"  - **Note**: {f.note}"] ++ outcomeLines host f.verificationOutcome

/-- Everything above the feedback. -/
def reportLines (host : IncidentHost) (inc : IncidentDetail) : List String :=
  let severity := host.upper inc.severity
  let status := host.upper inc.status
  let startedAt := host.datetimeStr inc.startedAt
  let resolvedAt := (inc.resolvedAt.map host.datetimeStr).getD "N/A"
  let correlated := (givenText inc.correlatedChangeId).getD "None"
  [s!"# Incident Post-Mortem: {inc.title}",
    "",
    s!"- **Incident ID**: `{inc.id}`",
    s!"- **Severity**: `{severity}`",
    s!"- **Status**: `{status}`",
    s!"- **Started At**: `{startedAt}`",
    s!"- **Resolved At**: `{resolvedAt}`",
    s!"- **Correlated PR**: `{correlated}`",
    "",
    "## Executive Summary",
    inc.summary,
    "",
    "## Top RCA Hypotheses"] ++
  inc.hypotheses.flatMap hypothesisLines ++
  ["## Human Feedback & Verification Log"]

/-- `_render_incident_postmortem`. -/
def renderIncidentPostmortem (host : IncidentHost) (inc : IncidentDetail) : String :=
  "\n".intercalate (reportLines host inc ++ inc.feedback.flatMap (feedbackLines host))

/-! ## `create_postmortem_snapshot` -/

structure PostmortemSnapshotSummary where
  id : String
  incidentId : String
  snapshotVersion : String
  contentSha256 : String
  sourceFeedbackCount : Nat
  analysisSchemaVersion : String
  engineVersion : String
  createdBy : ActorProvenance
  createdAt : Time
  deriving DecidableEq

def snapshotErrors (record : PostmortemSnapshotRecord) : Schema.Errors :=
  Schema.field "source_feedback_count" [Schema.ge 1 record.sourceFeedbackCount] ++
  versionErrors "analysis_schema_version" record.analysisSchemaVersion ++
  versionErrors "engine_version" record.engineVersion

def snapshotSummaryOf (record : PostmortemSnapshotRecord) : PostmortemSnapshotSummary where
  id := record.id
  incidentId := record.incidentId
  snapshotVersion := record.snapshotVersion
  contentSha256 := record.contentSha256
  sourceFeedbackCount := record.sourceFeedbackCount
  analysisSchemaVersion := Text.trim record.analysisSchemaVersion
  engineVersion := Text.trim record.engineVersion
  createdBy := ⟨record.createdByUserId, record.createdByDisplayName,
    record.createdByAuthProvider, record.createdAt⟩
  createdAt := record.createdAt

/-- `_postmortem_snapshot_summary`. -/
def postmortemSnapshotSummary (record : PostmortemSnapshotRecord) :
    Except ServiceError PostmortemSnapshotSummary :=
  if snapshotErrors record = [] then .ok (snapshotSummaryOf record)
  else .error (.validation (snapshotErrors record))

def postmortemSnapshotVersion : String := "deployguard-postmortem/v1"

/-- A call of `create_postmortem_snapshot`; `newId` is drawn with `uuid4`. -/
structure CreatePostmortemSnapshot where
  incidentId : String
  workspaceId : String
  actorUserId : String
  actorDisplayName : String
  actorAuthProvider : String
  requestId : String
  newId : String
  clock : Nat → Time

namespace CreatePostmortemSnapshot

variable (q : CreatePostmortemSnapshot) (host : IncidentHost)

/-- `item.actor is not None and item.verification_outcome is not None`. -/
def isEligible (item : Feedback) : Bool := item.actor.isSome && item.verificationOutcome.isSome

def load (d : Database) : Except ServiceError (IncidentRecord × IncidentDetail) := do
  let incident ← governanceIncident d q.workspaceId q.incidentId
  raiseIf (incident.dataMode ≠ "connected")
    (.domain "Immutable dataset snapshots are only created from connected incidents"
      "connected_incident_required" 409)
  raiseIf (incident.status ≠ "resolved" ∨ incident.resolvedAt = none)
    (.domain "Resolve the incident before creating an immutable postmortem snapshot"
      "resolved_incident_required" 409)
  let detail ← incidentDetail host d incident
  raiseIf (detail.feedback.filter isEligible = [])
    (.domain "Record an attributed human verdict with a structured verification outcome first"
      "verified_human_verdict_required" 409)
  pure (incident, detail)

def existing (incident : IncidentRecord) (contentSha256 : String) (d : Database) :
    Option PostmortemSnapshotRecord :=
  (d.snapshots.select fun row => row.incidentId = incident.id ∧ row.workspaceId = q.workspaceId ∧
    row.contentSha256 = contentSha256).head?

def snapshot (incident : IncidentRecord) (detail : IncidentDetail) : PostmortemSnapshotRecord where
  id := q.newId
  workspaceId := q.workspaceId
  incidentId := incident.id
  snapshotVersion := postmortemSnapshotVersion
  contentMarkdown := renderIncidentPostmortem host detail
  contentSha256 := host.sha256 (renderIncidentPostmortem host detail)
  sourceFeedbackCount := detail.feedback.length
  analysisSchemaVersion := incident.analysisSchemaVersion
  engineVersion := incident.engineVersion
  createdByUserId := q.actorUserId
  createdByDisplayName := q.actorDisplayName
  createdByAuthProvider := q.actorAuthProvider
  createdAt := q.clock 0

def auditEntry (snapshot : PostmortemSnapshotRecord) : AuditEvent where
  workspaceId := q.workspaceId
  actorUserId := some q.actorUserId
  action := "incident.postmortem.snapshot_created"
  resourceType := "postmortem_snapshot"
  resourceId := snapshot.id
  requestId := q.requestId
  metadata := [("incident_id", .str snapshot.incidentId),
    ("content_sha256", .str snapshot.contentSha256),
    ("source_feedback_count", .int snapshot.sourceFeedbackCount)]
  createdAt := q.clock 1

/-- The row, under the constraint `uq_postmortem_incident_content`. -/
def save (snapshot : PostmortemSnapshotRecord) (d : Database) : Except ServiceError Database := do
  raiseIf (∃ row ∈ d.snapshots.rows, row.incidentId = snapshot.incidentId ∧
    row.contentSha256 = snapshot.contentSha256) .integrityError
  let snapshots ← addRow d.snapshots snapshot
  pure (Database.audit (q.auditEntry snapshot) { d with snapshots := snapshots })

end CreatePostmortemSnapshot

/-- `create_postmortem_snapshot`. -/
def createPostmortemSnapshot (host : IncidentHost) (q : CreatePostmortemSnapshot) :
    ServiceCall PostmortemSnapshotSummary := do
  let (incident, detail) ← query (q.load host)
  let content := renderIncidentPostmortem host detail
  match ← read (q.existing incident (host.sha256 content)) with
  | some row => lift (postmortemSnapshotSummary row)
  | none => do
    let snapshot := q.snapshot host incident detail
    let d ← query (q.save snapshot)
    write fun _ => d
    commit
    lift (postmortemSnapshotSummary snapshot)

/-! ## The text and the feedback -/

/-- The feedback on an incident, in the order it was stored. -/
def feedbackOn (d : Database) (incidentId : String) : List FeedbackRecord :=
  d.feedback.select fun row => row.incidentId = incidentId

/-- What is rendered above the feedback, of the stored incident. -/
def reportOf (host : IncidentHost) (record : IncidentRecord) : List String :=
  reportLines host (detailOf host .empty record)

def postmortemText (host : IncidentHost) (report : List String) (records : List FeedbackRecord) :
    String :=
  "\n".intercalate (report ++ (records.insertionSort feedbackOrder).flatMap fun row =>
    feedbackLines host row.shown)

section Text

variable {host : IncidentHost} {d : Database} {record : IncidentRecord} {report : List String}
  {records : List FeedbackRecord}

theorem reportOf_ne_nil : reportOf host record ≠ [] := List.cons_ne_nil _ _

theorem renderIncidentPostmortem_detailOf :
    renderIncidentPostmortem host (detailOf host d record) =
      postmortemText host (reportOf host record) (feedbackOn d record.id) := by
  show "\n".intercalate (_ ++ (List.map _ _).flatMap _) = _
  rw [List.flatMap_map]
  rfl

/-- How much a record adds to the text. -/
def feedbackLength (host : IncidentHost) (row : FeedbackRecord) : Nat :=
  ((feedbackLines host row.shown).map fun line => line.length + 1).sum

theorem feedbackLength_pos (host : IncidentHost) (row : FeedbackRecord) :
    0 < feedbackLength host row := by
  unfold feedbackLength feedbackLines
  rw [List.cons_append, List.map_cons, List.sum_cons]
  omega

theorem length_postmortemText (host : IncidentHost) (records : List FeedbackRecord)
    (h : report ≠ []) :
    (postmortemText host report records).length + 1 =
      (report.map fun line => line.length + 1).sum +
        (records.map (feedbackLength host)).sum := by
  have hlines : (postmortemText host report records).length + 1 = _ :=
    Text.length_intercalate "\n" (List.append_ne_nil_of_left_ne_nil h _)
  rw [hlines, List.map_append, List.sum_append]
  congr 1
  rw [List.map_flatMap, List.flatMap, List.sum_flatten, List.map_map]
  exact ((List.perm_insertionSort feedbackOrder records).map _).sum_eq

/-- Of the stages of the feedback, the text is that of the present one only. -/
theorem postmortemText_take {n : Nat} (hreport : report ≠ []) (hn : n ≤ records.length)
    (h : postmortemText host report (records.take n) = postmortemText host report records) :
    n = records.length := by
  by_contra hne
  have hlt : n < records.length := by omega
  have htake := length_postmortemText host (records.take n) hreport
  have hall := length_postmortemText host records hreport
  have hsplit : (records.map (feedbackLength host)).sum =
      ((records.take n).map (feedbackLength host)).sum +
        ((records.drop n).map (feedbackLength host)).sum := by
    rw [← List.sum_append, ← List.map_append, List.take_append_drop]
  have hpos := feedbackLength_pos host records[n]
  rw [List.drop_eq_getElem_cons hlt, List.map_cons, List.sum_cons] at hsplit
  rw [h] at htake
  omega

end Text

/-! ## What a call left behind -/

theorem incidentDetail_ok {host : IncidentHost} {d : Database} {record : IncidentRecord}
    {detail : IncidentDetail} (h : incidentDetail host d record = .ok detail) :
    detailErrors host d record = [] ∧ detail = detailOf host d record := by
  unfold incidentDetail at h
  split at h
  · next hnil => exact ⟨hnil, (Except.ok.inj h).symm⟩
  · cases h

theorem postmortemSnapshotSummary_of {record : PostmortemSnapshotRecord}
    (h : snapshotErrors record = []) :
    postmortemSnapshotSummary record = .ok (snapshotSummaryOf record) := if_pos h

namespace CreatePostmortemSnapshot

variable {q : CreatePostmortemSnapshot} {host : IncidentHost} {d d' : Database}
  {incident : IncidentRecord} {detail : IncidentDetail} {snapshot row : PostmortemSnapshotRecord}

/-- What the call found before it looked for a snapshot. -/
structure Loaded (q : CreatePostmortemSnapshot) (host : IncidentHost) (d : Database)
    (incident : IncidentRecord) : Prop where
  get? : d.incidents.get? q.incidentId = some incident
  workspaceId : incident.workspaceId = q.workspaceId
  connected : incident.dataMode = "connected"
  resolved : incident.status = "resolved" ∧ incident.resolvedAt.isSome
  errors : detailErrors host d incident = []
  feedback : feedbackOn d incident.id ≠ []

theorem load_ok (h : q.load host d = .ok (incident, detail)) :
    q.Loaded host d incident ∧ detail = detailOf host d incident := by
  obtain ⟨record, hincident, h⟩ := Raise.bind_eq_ok.mp h
  obtain ⟨_, hconnected, h⟩ := Raise.bind_eq_ok.mp h
  obtain ⟨_, hresolved, h⟩ := Raise.bind_eq_ok.mp h
  obtain ⟨shown, hdetail, h⟩ := Raise.bind_eq_ok.mp h
  obtain ⟨_, heligible, h⟩ := Raise.bind_eq_ok.mp h
  obtain ⟨rfl, rfl⟩ := Prod.mk.inj (Raise.pure_eq_ok.mp h)
  obtain ⟨hget, hworkspace⟩ := governanceIncident_ok hincident
  obtain ⟨herrors, rfl⟩ := incidentDetail_ok hdetail
  have hunresolved := raiseIf_eq_ok.mp hresolved
  rw [not_or, not_not, ← Ne, Option.ne_none_iff_isSome] at hunresolved
  refine ⟨⟨hget, hworkspace, not_not.mp (raiseIf_eq_ok.mp hconnected), hunresolved, herrors, ?_⟩,
    rfl⟩
  intro hnone
  refine raiseIf_eq_ok.mp heligible ?_
  have hfeedback : (detailOf host d record).feedback = [] := by
    show (List.insertionSort feedbackOrder (feedbackOn d record.id)).map _ = []
    rw [hnone]
    rfl
  rw [hfeedback]
  rfl

theorem existing_ok {contentSha256 : String} (h : q.existing incident contentSha256 d = some row) :
    row ∈ d.snapshots.rows ∧ row.incidentId = incident.id ∧ row.workspaceId = q.workspaceId ∧
      row.contentSha256 = contentSha256 := by
  obtain ⟨hrow, hmatch⟩ := Table.mem_select.mp (List.mem_of_mem_head? h)
  exact ⟨hrow, of_decide_eq_true hmatch⟩

theorem existing_none {contentSha256 : String} (h : q.existing incident contentSha256 d = none)
    (hrow : row ∈ d.snapshots.rows) (hincident : row.incidentId = incident.id)
    (hworkspace : row.workspaceId = q.workspaceId) : row.contentSha256 ≠ contentSha256 := by
  intro hsame
  have hother := List.filter_eq_nil_iff.mp (List.head?_eq_none_iff.mp h) row hrow
  exact hother (decide_eq_true ⟨hincident, hworkspace, hsame⟩)

theorem save_ok (h : q.save snapshot d = .ok d') :
    d.snapshots.insert snapshot = some d'.snapshots ∧ d'.incidents = d.incidents ∧
      d'.feedback = d.feedback ∧ d'.consents = d.consents := by
  obtain ⟨_, -, h⟩ := Raise.bind_eq_ok.mp h
  obtain ⟨snapshots, hinsert, h⟩ := Raise.bind_eq_ok.mp h
  obtain rfl := Raise.pure_eq_ok.mp h
  exact ⟨addRow_eq_ok.mp hinsert, rfl, rfl, rfl⟩

/-- A snapshot that is stored can be shown. -/
theorem Loaded.snapshotErrors (h : q.Loaded host d incident) :
    snapshotErrors (q.snapshot host incident (detailOf host d incident)) = [] := by
  obtain ⟨hcolumns, -⟩ := detailErrors_eq_nil.mp h.errors
  simp only [columnErrors, List.append_eq_nil_iff] at hcolumns
  obtain ⟨⟨⟨⟨-, hschema⟩, hengine⟩, -⟩, -⟩ := hcolumns
  have hcount : 1 ≤ (detailOf host d incident).feedback.length := by
    show 1 ≤ (List.map _ (List.insertionSort feedbackOrder (feedbackOn d incident.id))).length
    rw [List.length_map, List.length_insertionSort]
    exact List.length_pos_iff.mpr h.feedback
  refine List.append_eq_nil_iff.mpr ⟨List.append_eq_nil_iff.mpr ⟨?_, hschema⟩, hengine⟩
  refine Schema.field_eq_nil.mpr fun c hc => ?_
  rw [List.mem_singleton.mp hc]
  exact decide_eq_true hcount

end CreatePostmortemSnapshot

/-- The call raised before it wrote, found the snapshot of this content, or stored it. -/
theorem createPostmortemSnapshot_run (host : IncidentHost) (q : CreatePostmortemSnapshot)
    (d : Database) :
    (∃ e, (createPostmortemSnapshot host q).run d = (.error e, d)) ∨
      ∃ incident, q.Loaded host d incident ∧
        let snapshot := q.snapshot host incident (detailOf host d incident)
        ((∃ row, q.existing incident snapshot.contentSha256 d = some row ∧
            (createPostmortemSnapshot host q).run d = (postmortemSnapshotSummary row, d)) ∨
          (q.existing incident snapshot.contentSha256 d = none ∧ ∃ d',
            q.save snapshot d = .ok d' ∧
            (createPostmortemSnapshot host q).run d = (.ok (snapshotSummaryOf snapshot), d'))) := by
  cases hload : q.load host d with
  | error e => exact Or.inl ⟨e, run_eq (query_error_bind hload)⟩
  | ok loaded =>
    obtain ⟨incident, detail⟩ := loaded
    obtain ⟨hloaded, rfl⟩ := CreatePostmortemSnapshot.load_ok hload
    let snapshot := q.snapshot host incident (detailOf host d incident)
    -- From the load on, the call is one match on the snapshot of the same content.
    have hstart : createPostmortemSnapshot host q (State.start d) =
        (match q.existing incident snapshot.contentSha256 d with
        | some row => lift (postmortemSnapshotSummary row)
        | none => do
          let d ← query (q.save snapshot)
          write fun _ => d
          commit
          lift (postmortemSnapshotSummary snapshot) :
          ServiceCall PostmortemSnapshotSummary) (State.start d) := by
      exact (query_ok_bind hload).trans rfl
    cases hexisting : q.existing incident snapshot.contentSha256 d with
    | some row =>
      rw [hexisting] at hstart
      exact Or.inr ⟨incident, hloaded, Or.inl ⟨row, hexisting, run_eq hstart⟩⟩
    | none =>
      rw [hexisting] at hstart
      cases hsave : q.save snapshot d with
      | error e => exact Or.inl ⟨e, run_eq (hstart.trans (query_error_bind hsave))⟩
      | ok d' =>
        -- a row the service has built itself always has a summary
        refine Or.inr ⟨incident, hloaded, Or.inr ⟨hexisting, d', hsave, ?_⟩⟩
        have hrun := run_eq (hstart.trans (query_ok_bind hsave))
        rw [hrun]
        exact Prod.ext (postmortemSnapshotSummary_of hloaded.snapshotErrors) rfl

end DeployGuard.Service
