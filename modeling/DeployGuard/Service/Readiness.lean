import DeployGuard.Lib.Transition
import DeployGuard.Service.Governance
import DeployGuard.Service.IncidentHistory

/-!
# Dataset governance

The calls that edit an incident, `create_postmortem_snapshot` and
`record_dataset_consent`, one after another, each at a later moment than the last. The
history keeps the snapshots and the decisions in the order they were recorded, and with
each decision the database it was recorded on.

> `GovernanceKept`: the rows of the incident are the recorded ones, in their order; its
> snapshots are the texts of earlier and earlier stages of the feedback, and its
> decisions go back to when it was connected and had one.

From it come the readiness (`readiness_iff`), what is left of a revocation
(`revocation_accepted`) and what a snapshot call returns (`snapshot_created`), which
`dataset_governed` puts together.
-/

namespace DeployGuard.Service

open Interleaving Transition Journal

/-! ## Runs -/

inductive GovernanceCall where
  | incident (call : IncidentCall)
  | createPostmortemSnapshot (q : CreatePostmortemSnapshot)
  | recordDatasetConsent (q : RecordDatasetConsent)

structure RecordedDecision where
  decision : DatasetConsentDecisionRecord
  before : Database

structure GovernanceHistory where
  database : Database
  now : Time
  snapshots : List PostmortemSnapshotRecord
  decisions : List RecordedDecision

def IncidentCall.moment : IncidentCall → Time
  | .updateIncidentLifecycle q => q.clock 0
  | .addIncidentNote q => q.clock 0
  | .submitFeedback q => q.clock 0

namespace GovernanceCall

/-- The moment the call stamps its record with. -/
def moment : GovernanceCall → Time
  | .incident call => call.moment
  | .createPostmortemSnapshot q => q.clock 0
  | .recordDatasetConsent q => q.clock 0

/-- What the call leaves of the database. -/
def after (host : IncidentHost) : GovernanceCall → Database → Database
  | .incident call, d => (call.record host d).after
  | .createPostmortemSnapshot q, d => ((Service.createPostmortemSnapshot host q).run d).2
  | .recordDatasetConsent q, d => ((Service.recordDatasetConsent q).run d).2

end GovernanceCall

namespace GovernanceHistory

variable (h : GovernanceHistory)

/-- The history after a call at a moment that led to a database. -/
def extend (moment : Time) (d' : Database) : GovernanceHistory where
  database := d'
  now := moment
  snapshots := h.snapshots ++ h.database.snapshots.added d'.snapshots
  decisions := h.decisions ++ (h.database.consents.added d'.consents).map fun decision =>
    ⟨decision, h.database⟩

def snapshotsOf (id : String) : List PostmortemSnapshotRecord :=
  h.snapshots.filter fun row => row.incidentId = id

def newestSnapshot (id : String) : Option PostmortemSnapshotRecord := (h.snapshotsOf id).getLast?

/-- The last decision that was recorded for an incident and a purpose. -/
def latestDecision (id : String) (purpose : DatasetPurpose) : Option RecordedDecision :=
  (h.decisions.filter fun r => r.decision.incidentId = id ∧
    r.decision.purpose = purpose.text).getLast?

end GovernanceHistory

/-- Calls at later and later moments, on a database where nothing was decided about the
incident yet. -/
def governanceSystem (host : IncidentHost) (id : String) :
    System GovernanceHistory GovernanceCall where
  init h := h.snapshots = [] ∧ h.decisions = [] ∧
    (∀ row ∈ h.database.snapshots.rows, row.incidentId ≠ id) ∧
    ∀ row ∈ h.database.consents.rows, row.incidentId ≠ id
  next h call :=
    if h.now < call.moment then some (h.extend call.moment (call.after host h.database)) else none

/-! ## What a call may do to what was rendered -/

/-- A resolved incident is rendered the same. -/
structure SameReport (host : IncidentHost) (row row' : IncidentRecord) : Prop where
  workspaceId : row'.workspaceId = row.workspaceId
  dataMode : row'.dataMode = row.dataMode
  report : row.status = "resolved" ∧ row.resolvedAt.isSome →
    (row'.status = "resolved" ∧ row'.resolvedAt.isSome) ∧ reportOf host row' = reportOf host row

/-- The incident is rendered the same, and its feedback has grown at the end. -/
structure Carried (host : IncidentHost) (id : String) (d d' : Database) : Prop where
  row : ∀ incident, d.incidents.get? id = some incident →
    ∃ incident', d'.incidents.get? id = some incident' ∧ SameReport host incident incident'
  feedback : feedbackOn d id <+: feedbackOn d' id

section Carried

variable {host : IncidentHost} {d d' : Database} {row row' record : IncidentRecord} {id : String}

/-- A record gives its own report. -/
theorem SameReport.refl (row : IncidentRecord) : SameReport host row row :=
  ⟨rfl, rfl, fun h => ⟨h, rfl⟩⟩

/-- What the report is made from is carried when it is the same. -/
theorem Carried.of_same (hincidents : d'.incidents = d.incidents)
    (hfeedback : d'.feedback = d.feedback) : Carried host id d d' := by
  refine ⟨fun incident hget => ⟨incident, ?_, .refl incident⟩, ?_⟩
  · rw [hincidents]
    exact hget
  · refine ⟨[], ?_⟩
    rw [List.append_nil, feedbackOn, feedbackOn, hfeedback]

/-- Writing one incident carries them all, if that one is rendered the same. -/
theorem Carried.of_write {f : IncidentRecord → IncidentRecord} {p : Prop} [Decidable p]
    (hrecord : d.incidents.get? record.id = some record)
    (hget : d'.incidents.get? id = (d.incidents.get? id).map fun row =>
      if id = record.id ∧ p then f row else row)
    (hsame : SameReport host record (f record))
    (hfeedback : feedbackOn d id <+: feedbackOn d' id) : Carried host id d d' := by
  refine ⟨fun row hrow => ?_, hfeedback⟩
  rw [hget, hrow, Option.map_some]
  refine ⟨_, rfl, ?_⟩
  by_cases hwritten : id = record.id ∧ p
  · rw [if_pos hwritten]
    rw [hwritten.1, hrecord] at hrow
    exact Option.some.inj hrow ▸ hsame
  · rw [if_neg hwritten]
    exact .refl row

/-- A resolved incident is not edited. -/
theorem UpdateIncidentLifecycle.sameReport {q : UpdateIncidentLifecycle} {edit : LifecycleChange}
    (h : q.edit host row d = .ok edit) : SameReport host row (columns (q.edited host edit) row) := by
  refine ⟨rfl, rfl, fun hresolved => ?_⟩
  obtain ⟨current, hcurrent, hunresolved, -⟩ := (edit_ok h).1.status
  have hread : normalizeIncidentStatus host.toHost row.status = .ok .resolved := by
    rw [hresolved.1]
    exact normalizeIncidentStatus_text host.toHost .resolved
  exact absurd (Except.ok.inj (hcurrent.symm.trans hread)) hunresolved

/-- The status of a hypothesis is not rendered. -/
theorem SubmitFeedback.sameReport (q : SubmitFeedback) :
    SameReport host row (setHypotheses (q.withVerdict row.hypotheses) row) := by
  have hlines : (q.withVerdict row.hypotheses).flatMap hypothesisLines =
      row.hypotheses.flatMap hypothesisLines := by
    rw [withVerdict, List.flatMap_map]
    congr 1
    funext hypothesis
    split <;> rfl
  refine ⟨rfl, rfl, fun hresolved => ⟨hresolved, ?_⟩⟩
  show _ ++ (q.withVerdict row.hypotheses).flatMap hypothesisLines ++ _ = _
  rw [hlines]
  rfl

/-- What a call that edits the incident leaves to the others. -/
def LeavesGovernance (host : IncidentHost) (id : String) (d d' : Database) : Prop :=
  Carried host id d d' ∧ d'.snapshots = d.snapshots ∧ d'.consents = d.consents

/-- Doing nothing leaves the governance alone. -/
theorem LeavesGovernance.refl (d : Database) : LeavesGovernance host id d d :=
  ⟨.of_same rfl rfl, rfl, rfl⟩

/-- A lifecycle edit leaves consents and snapshots alone. -/
theorem UpdateIncidentLifecycle.leaves (q : UpdateIncidentLifecycle) :
    LeavesGovernance host id d ((updateIncidentLifecycle host q).run d).2 := by
  rcases updateIncidentLifecycle_run host q d with ⟨-, e, hrun⟩ | ⟨record, edit, hload, hedit, hrun⟩
  · rw [hrun]
    exact .refl d
  · rw [hrun]
    by_cases hnil : edit.changes = []
    · rw [if_pos hnil]
      exact .refl d
    · rw [if_neg hnil]
      have hid := (edit_ok hedit).2.id
      have hrecord := load_ok hload
      rw [← Table.key_of_get? hrecord] at hrecord
      exact ⟨.of_write (p := True) hrecord (by simp only [get?_save, hid, and_true])
        (sameReport hedit) (List.prefix_refl _), rfl, rfl⟩

/-- A note leaves them alone. -/
theorem AddIncidentNote.leaves (q : AddIncidentNote) :
    LeavesGovernance host id d ((addIncidentNote host q).run d).2 := by
  rcases addIncidentNote_run host q d with ⟨e, hrun⟩ | ⟨record, event, hload, hrun⟩
  · rw [hrun]
    exact .refl d
  · rw [hrun]
    have hrecord := load_ok hload
    rw [← Table.key_of_get? hrecord] at hrecord
    exact ⟨.of_write (p := True) (f := setTimeline (record.timeline ++ [q.entry host])) hrecord
      (by simp only [get?_save, and_true]) ⟨rfl, rfl, fun hresolved => ⟨hresolved, rfl⟩⟩
      (List.prefix_refl _), rfl, rfl⟩

/-- Feedback leaves them alone. -/
theorem SubmitFeedback.leaves (q : SubmitFeedback) :
    LeavesGovernance host id d ((submitFeedback host q).run d).2 := by
  rcases submitFeedback_run host q d with ⟨e, hrun⟩ | ⟨incident, d', hload, hsave, hrun⟩
  · rw [hrun]
    exact .refl d
  · rw [hrun]
    obtain ⟨hinsert, hincidents, hsnapshots, hconsents⟩ := save_ok hsave
    have hrecord := (load_ok hload).1
    rw [← Table.key_of_get? hrecord] at hrecord
    have hfeedback : feedbackOn d id <+: feedbackOn d' id := by
      unfold feedbackOn
      rw [Table.select_insert hinsert]
      exact List.prefix_append _ _
    exact ⟨.of_write hrecord (by rw [hincidents, get?_flush])
      (sameReport q) hfeedback, hsnapshots, hconsents⟩

/-- Every call on incidents does. -/
theorem IncidentCall.leaves (call : IncidentCall) :
    LeavesGovernance host id d (call.record host d).after := by
  cases call with
  | updateIncidentLifecycle q => exact q.leaves
  | addIncidentNote q => exact q.leaves
  | submitFeedback q => exact q.leaves

end Carried

/-! ## What every run keeps -/

def snapshotRows (d : Database) (id : String) : List PostmortemSnapshotRecord :=
  d.snapshots.select fun row => row.incidentId = id

def decisionRows (d : Database) (id : String) : List DatasetConsentDecisionRecord :=
  d.consents.select fun row => row.incidentId = id

/-- The snapshot is the text of the resolved incident at a stage of its feedback. -/
structure Documents (host : IncidentHost) (id : String) (d : Database) (incident : IncidentRecord)
    (row : PostmortemSnapshotRecord) : Prop where
  workspaceId : row.workspaceId = incident.workspaceId
  resolved : incident.status = "resolved" ∧ incident.resolvedAt.isSome
  count : row.sourceFeedbackCount ≤ (feedbackOn d id).length
  content : row.contentMarkdown = postmortemText host (reportOf host incident)
    ((feedbackOn d id).take row.sourceFeedbackCount)
  digest : row.contentSha256 = host.sha256 row.contentMarkdown
  errors : snapshotErrors row = []

/-- The decision is about a connected incident with a snapshot. -/
structure Decided (id : String) (d : Database) (incident : IncidentRecord)
    (row : DatasetConsentDecisionRecord) : Prop where
  workspaceId : row.workspaceId = incident.workspaceId
  connected : incident.dataMode = "connected"
  snapshots : snapshotRows d id ≠ []
  errors : consentErrors row = []

/-- An approval was recorded where the other requirements held, with all attestations. -/
def ApprovedWhenMet (r : RecordedDecision) : Prop :=
  r.decision.decision = "approved" → ∃ incident purpose,
    r.before.incidents.get? r.decision.incidentId = some incident ∧
    r.decision.purpose = DatasetPurpose.text purpose ∧
    (datasetBasis r.before incident r.decision.workspaceId purpose).OthersMet ∧
    ∀ item ∈ requiredDatasetAttestations, item ∈ r.decision.attestations

structure GovernanceKept (host : IncidentHost) (id : String) (h : GovernanceHistory) : Prop where
  snapshotsLogged : snapshotRows h.database id = h.snapshotsOf id
  snapshotsDated : IsJournal PostmortemSnapshotRecord.createdAt (snapshotRows h.database id) h.now
  decisionsLogged : decisionRows h.database id =
    (h.decisions.map (·.decision)).filter fun row => row.incidentId = id
  decisionsDated : IsJournal DatasetConsentDecisionRecord.createdAt (decisionRows h.database id) h.now
  documents : ∀ row ∈ snapshotRows h.database id, ∃ incident,
    h.database.incidents.get? id = some incident ∧ Documents host id h.database incident row
  counted : (snapshotRows h.database id).Pairwise fun a b =>
    a.sourceFeedbackCount < b.sourceFeedbackCount
  decided : ∀ row ∈ decisionRows h.database id, ∃ incident,
    h.database.incidents.get? id = some incident ∧ Decided id h.database incident row
  approved : ∀ r ∈ h.decisions, ApprovedWhenMet r

section Kept

variable {host : IncidentHost} {id : String} {d d' : Database} {h : GovernanceHistory}
  {incident incident' : IncidentRecord} {moment : Time} {row : PostmortemSnapshotRecord}
  {decision : DatasetConsentDecisionRecord}

/-- A text that was rendered stays the text of its stage. -/
theorem Documents.carried (hrow : Documents host id d incident row)
    (hsame : SameReport host incident incident')
    (hfeedback : feedbackOn d id <+: feedbackOn d' id) : Documents host id d' incident' row where
  workspaceId := hrow.workspaceId.trans hsame.workspaceId.symm
  resolved := (hsame.report hrow.resolved).1
  count := hrow.count.trans hfeedback.length_le
  content := by
    obtain ⟨later, hlater⟩ := hfeedback
    rw [hrow.content, (hsame.report hrow.resolved).2, ← hlater,
      List.take_append_of_le_length hrow.count]
  digest := hrow.digest
  errors := hrow.errors

/-- A decision keeps its ground when the report is the same. -/
theorem Decided.carried (hdecided : Decided id d incident decision)
    (hsame : SameReport host incident incident') (hrows : snapshotRows d' id ≠ []) :
    Decided id d' incident' decision :=
  ⟨hdecided.workspaceId.trans hsame.workspaceId.symm, hsame.dataMode.trans hdecided.connected,
    hrows, hdecided.errors⟩

/-- A call that recorded nothing. -/
theorem GovernanceKept.carried (hkept : GovernanceKept host id h) (hlt : h.now < moment)
    (hleaves : LeavesGovernance host id h.database d') :
    GovernanceKept host id (h.extend moment d') := by
  obtain ⟨hcarried, hsnapshots, hconsents⟩ := hleaves
  have hrows : snapshotRows d' id = snapshotRows h.database id := by
    rw [snapshotRows, snapshotRows, hsnapshots]
  have hdecisions : decisionRows d' id = decisionRows h.database id := by
    rw [decisionRows, decisionRows, hconsents]
  have hextend : h.extend moment d' = ⟨d', moment, h.snapshots, h.decisions⟩ := by
    rw [GovernanceHistory.extend, hsnapshots, hconsents, Table.added_self, Table.added_self,
      List.map_nil, List.append_nil, List.append_nil]
  rw [hextend]
  constructor
  case snapshotsLogged => exact hrows.trans hkept.snapshotsLogged
  case snapshotsDated => exact hrows ▸ hkept.snapshotsDated.mono hlt.le
  case decisionsLogged => exact hdecisions.trans hkept.decisionsLogged
  case decisionsDated => exact hdecisions ▸ hkept.decisionsDated.mono hlt.le
  case documents =>
    intro row hrow
    obtain ⟨incident, hget, hdocuments⟩ := hkept.documents row (hrows ▸ hrow)
    obtain ⟨incident', hget', hsame⟩ := hcarried.row incident hget
    exact ⟨incident', hget', hdocuments.carried hsame hcarried.feedback⟩
  case counted => exact hrows ▸ hkept.counted
  case decided =>
    intro decision hdecision
    obtain ⟨incident, hget, hdecided⟩ := hkept.decided decision (hdecisions ▸ hdecision)
    obtain ⟨incident', hget', hsame⟩ := hcarried.row incident hget
    exact ⟨incident', hget', hdecided.carried hsame (hrows ▸ hdecided.snapshots)⟩
  case approved => exact hkept.approved

/-- Of the stages of the feedback, the present one has the present text. -/
theorem Documents.content_eq_iff (hrow : Documents host id d incident row)
    (hget : d.incidents.get? id = some incident) :
    row.contentMarkdown = renderIncidentPostmortem host (detailOf host d incident) ↔
      row.sourceFeedbackCount = (feedbackOn d id).length := by
  rw [renderIncidentPostmortem_detailOf, Table.key_of_get? hget, hrow.content]
  constructor
  · exact postmortemText_take reportOf_ne_nil hrow.count
  · intro hcount
    rw [hcount, List.take_length]

namespace CreatePostmortemSnapshot

variable {q : CreatePostmortemSnapshot}

/-- The row that is stored. -/
abbrev newRow (q : CreatePostmortemSnapshot) (host : IncidentHost) (d : Database)
    (incident : IncidentRecord) : PostmortemSnapshotRecord :=
  q.snapshot host incident (detailOf host d incident)

/-- A snapshot is one of the incident it was asked for. -/
theorem newRow_incidentId (hloaded : q.Loaded host d incident) :
    (q.newRow host d incident).incidentId = q.incidentId := by
  show incident.id = q.incidentId
  exact Table.key_of_get? hloaded.get?

/-- It counts the feedback there was. -/
theorem newRow_count (hloaded : q.Loaded host d incident) :
    (q.newRow host d incident).sourceFeedbackCount = (feedbackOn d q.incidentId).length := by
  show (List.map _ (List.insertionSort feedbackOrder (feedbackOn d incident.id))).length = _
  rw [List.length_map, List.length_insertionSort, Table.key_of_get? hloaded.get?]

/-- Its content is the postmortem as rendered. -/
theorem newRow_content : (q.newRow host d incident).contentMarkdown =
    renderIncidentPostmortem host (detailOf host d incident) := by
  rw [newRow, snapshot]

/-- Its digest is that of its content. -/
theorem newRow_digest : (q.newRow host d incident).contentSha256 =
    host.sha256 (q.newRow host d incident).contentMarkdown := by
  rw [newRow, snapshot]

theorem newRow_documents (hloaded : q.Loaded host d incident) :
    Documents host q.incidentId d incident (q.newRow host d incident) where
  workspaceId := hloaded.workspaceId.symm
  resolved := hloaded.resolved
  count := (newRow_count hloaded).le
  content := by
    rw [newRow_content, newRow_count hloaded, List.take_length,
      renderIncidentPostmortem_detailOf, Table.key_of_get? hloaded.get?]
  digest := newRow_digest
  errors := hloaded.snapshotErrors

/-- Where the call finds no snapshot, the earlier ones are of earlier stages. -/
theorem count_lt (hkept : GovernanceKept host q.incidentId h)
    (hloaded : q.Loaded host h.database incident)
    (hnone : q.existing incident (q.newRow host h.database incident).contentSha256 h.database = none)
    (hrow : row ∈ snapshotRows h.database q.incidentId) :
    row.sourceFeedbackCount < (q.newRow host h.database incident).sourceFeedbackCount := by
  obtain ⟨found, hget, hdocuments⟩ := hkept.documents row hrow
  obtain rfl : incident = found := Option.some.inj (hloaded.get?.symm.trans hget)
  rw [newRow_count hloaded]
  refine lt_of_le_of_ne hdocuments.count fun hcount => ?_
  have hcontent := (hdocuments.content_eq_iff hget).mpr hcount
  obtain ⟨hmem, hid⟩ := Table.mem_select.mp hrow
  refine existing_none hnone hmem ((of_decide_eq_true hid).trans
    (Table.key_of_get? hloaded.get?).symm) (hdocuments.workspaceId.trans hloaded.workspaceId) ?_
  rw [hdocuments.digest, hcontent, newRow_digest, newRow_content]

end CreatePostmortemSnapshot

/-- A call that stored a snapshot. -/
theorem GovernanceKept.snapshotStored {q : CreatePostmortemSnapshot} (hkept : GovernanceKept host id h)
    (hlt : h.now < q.clock 0) (hloaded : q.Loaded host h.database incident)
    (hnone : q.existing incident (q.newRow host h.database incident).contentSha256 h.database = none)
    (hsave : q.save (q.newRow host h.database incident) h.database = .ok d') :
    GovernanceKept host id (h.extend (q.clock 0) d') := by
  obtain ⟨hinsert, hincidents, hfeedback, hconsents⟩ := CreatePostmortemSnapshot.save_ok hsave
  let created := q.newRow host h.database incident
  have hcarried : Carried host id h.database d' := .of_same hincidents hfeedback
  have hrows : snapshotRows d' id = snapshotRows h.database id ++
      [created].filter fun row => row.incidentId = id := Table.select_insert hinsert _
  have hdecisions : decisionRows d' id = decisionRows h.database id := by
    rw [decisionRows, decisionRows, hconsents]
  have hextend : h.extend (q.clock 0) d' =
      ⟨d', q.clock 0, h.snapshots ++ [created], h.decisions⟩ := by
    rw [GovernanceHistory.extend, Table.added_insert hinsert, hconsents, Table.added_self,
      List.map_nil, List.append_nil]
  -- the row is one of the incident's, or of no concern to it
  have hnew : ∀ row ∈ [created].filter fun row => row.incidentId = id,
      row = created ∧ q.incidentId = id := by
    intro row hrow
    obtain ⟨hmem, hid⟩ := List.mem_filter.mp hrow
    obtain rfl := List.mem_singleton.mp hmem
    exact ⟨rfl, (CreatePostmortemSnapshot.newRow_incidentId hloaded).symm.trans
      (of_decide_eq_true hid)⟩
  rw [hextend]
  constructor
  case snapshotsLogged =>
    rw [hrows, hkept.snapshotsLogged, GovernanceHistory.snapshotsOf,
      GovernanceHistory.snapshotsOf, List.filter_append]
  case snapshotsDated =>
    rw [hrows]
    exact hkept.snapshotsDated.append_filter (a := created) hlt _
  case decisionsLogged => exact hdecisions.trans hkept.decisionsLogged
  case decisionsDated => exact hdecisions ▸ hkept.decisionsDated.mono hlt.le
  case documents =>
    intro row hrow
    rw [hrows] at hrow
    rcases List.mem_append.mp hrow with hold | hrow
    · obtain ⟨incident, hget, hdocuments⟩ := hkept.documents row hold
      obtain ⟨incident', hget', hsame⟩ := hcarried.row incident hget
      exact ⟨incident', hget', hdocuments.carried hsame hcarried.feedback⟩
    · obtain ⟨rfl, rfl⟩ := hnew row hrow
      refine ⟨incident, by rw [hincidents]; exact hloaded.get?, ?_⟩
      exact (CreatePostmortemSnapshot.newRow_documents hloaded).carried (.refl incident)
        hcarried.feedback
  case counted =>
    rw [hrows]
    refine List.pairwise_append.mpr ⟨hkept.counted, (List.pairwise_singleton _ _).filter _,
      fun a ha b hb => ?_⟩
    obtain ⟨rfl, rfl⟩ := hnew b hb
    exact CreatePostmortemSnapshot.count_lt hkept hloaded hnone ha
  case decided =>
    intro decision hdecision
    obtain ⟨incident, hget, hdecided⟩ := hkept.decided decision (hdecisions ▸ hdecision)
    refine ⟨incident, by rw [hincidents]; exact hget, hdecided.workspaceId, hdecided.connected, ?_,
      hdecided.errors⟩
    rw [hrows]
    exact List.append_ne_nil_of_left_ne_nil hdecided.snapshots _
  case approved => exact hkept.approved

/-- A call that stored a decision. -/
theorem GovernanceKept.decisionStored {q : RecordDatasetConsent} (hkept : GovernanceKept host id h)
    (hlt : h.now < q.clock 0) (hloaded : q.Loaded h.database incident row)
    (hsave : q.save (snapshotSummaryOf row) h.database = .ok d') :
    GovernanceKept host id (h.extend (q.clock 0) d') := by
  obtain ⟨hinsert, hincidents, hfeedback, hsnapshots⟩ := RecordDatasetConsent.save_ok hsave
  let decided := q.decision (snapshotSummaryOf row)
  have hcarried : Carried host id h.database d' := .of_same hincidents hfeedback
  have hrows : snapshotRows d' id = snapshotRows h.database id := by
    rw [snapshotRows, snapshotRows, hsnapshots]
  have hdecisions : decisionRows d' id = decisionRows h.database id ++
      [decided].filter fun row => row.incidentId = id := Table.select_insert hinsert _
  have hextend : h.extend (q.clock 0) d' =
      ⟨d', q.clock 0, h.snapshots, h.decisions ++ [⟨decided, h.database⟩]⟩ := by
    rw [GovernanceHistory.extend, Table.added_insert hinsert, hsnapshots, Table.added_self,
      List.append_nil, List.map_singleton]
  rw [hextend]
  constructor
  case snapshotsLogged => exact hrows.trans hkept.snapshotsLogged
  case snapshotsDated => exact hrows ▸ hkept.snapshotsDated.mono hlt.le
  case decisionsLogged =>
    rw [hdecisions, hkept.decisionsLogged, List.map_append, List.filter_append, List.map_singleton]
  case decisionsDated =>
    rw [hdecisions]
    exact hkept.decisionsDated.append_filter (a := decided) hlt _
  case documents =>
    intro row hrow
    obtain ⟨incident, hget, hdocuments⟩ := hkept.documents row (hrows ▸ hrow)
    obtain ⟨incident', hget', hsame⟩ := hcarried.row incident hget
    exact ⟨incident', hget', hdocuments.carried hsame hcarried.feedback⟩
  case counted => exact hrows ▸ hkept.counted
  case decided =>
    intro decision hdecision
    rw [hdecisions] at hdecision
    -- the old decisions rest on rows that stay; the new one on what the call loaded
    rcases List.mem_append.mp hdecision with hold | hnew
    · obtain ⟨incident, hget, hdecided⟩ := hkept.decided decision hold
      exact ⟨incident, by rw [hincidents]; exact hget, hdecided.workspaceId, hdecided.connected,
        hrows ▸ hdecided.snapshots, hdecided.errors⟩
    · obtain ⟨hmem, hid⟩ := List.mem_filter.mp hnew
      obtain rfl := List.mem_singleton.mp hmem
      obtain rfl : q.incidentId = id := of_decide_eq_true hid
      refine ⟨incident, by rw [hincidents]; exact hloaded.get?, hloaded.workspaceId.symm,
        hloaded.connected, ?_, RecordDatasetConsent.consentErrors_decision⟩
      -- the latest snapshot the call read is one of the incident
      obtain ⟨hrow, hmatch⟩ := Table.mem_select.mp (mem_of_newest hloaded.snapshot)
      have hincident := (of_decide_eq_true hmatch).2.trans (Table.key_of_get? hloaded.get?)
      rw [hrows]
      exact List.ne_nil_of_mem (Table.mem_select.mpr ⟨hrow, decide_eq_true hincident⟩)
  case approved =>
    intro r hr
    rcases List.mem_append.mp hr with hold | hnew
    · exact hkept.approved r hold
    · obtain rfl := List.mem_singleton.mp hnew
      -- only an approval has to meet the attestations
      intro happroved
      have hdecision : q.payload.decision = .approved := by
        cases hchosen : q.payload.decision with
        | approved => rfl
        | revoked =>
          have htext : q.payload.decision.text = "approved" := happroved
          rw [hchosen] at htext
          exact absurd htext (by decide)
      obtain ⟨hmet, hattested⟩ := hloaded.approved hdecision
      exact ⟨incident, q.payload.purpose, hloaded.get?, rfl, hmet, hattested⟩

/-- One call. -/
theorem GovernanceKept.call (hkept : GovernanceKept host id h) (call : GovernanceCall)
    (hlt : h.now < call.moment) :
    GovernanceKept host id (h.extend call.moment (call.after host h.database)) := by
  cases call with
  | incident call => exact hkept.carried hlt call.leaves
  | createPostmortemSnapshot q =>
    show GovernanceKept host id (h.extend (q.clock 0) ((createPostmortemSnapshot host q).run _).2)
    rcases createPostmortemSnapshot_run host q h.database with
      ⟨e, hrun⟩ | ⟨incident, hloaded, ⟨row, -, hrun⟩ | ⟨hnone, d', hsave, hrun⟩⟩
    · rw [hrun]
      exact hkept.carried hlt (.refl _)
    · rw [hrun]
      exact hkept.carried hlt (.refl _)
    · rw [hrun]
      exact hkept.snapshotStored hlt hloaded hnone hsave
  | recordDatasetConsent q =>
    show GovernanceKept host id (h.extend (q.clock 0) ((recordDatasetConsent q).run _).2)
    rcases recordDatasetConsent_run q h.database with
      ⟨e, hrun⟩ | ⟨incident, row, d', hloaded, hsave, hrun⟩
    · rw [hrun]
      exact hkept.carried hlt (.refl _)
    · rw [hrun]
      exact hkept.decisionStored hlt hloaded hsave

/-- Every history keeps its snapshots and decisions. -/
theorem governanceKept_invariant :
    Invariant (governanceSystem host id) (fun _ _ => True) (GovernanceKept host id) where
  init h hstart := by
    obtain ⟨hsnapshots, hdecisions, hnoSnapshot, hnoDecision⟩ := hstart
    have hrows : snapshotRows h.database id = [] :=
      List.filter_eq_nil_iff.mpr fun row hrow => by simpa using hnoSnapshot row hrow
    have hdecided : decisionRows h.database id = [] :=
      List.filter_eq_nil_iff.mpr fun row hrow => by simpa using hnoDecision row hrow
    constructor
    case snapshotsLogged => rw [hrows, GovernanceHistory.snapshotsOf, hsnapshots, List.filter_nil]
    case snapshotsDated => exact hrows ▸ .nil
    case decisionsLogged => rw [hdecided, hdecisions, List.map_nil, List.filter_nil]
    case decisionsDated => exact hdecided ▸ .nil
    case documents => exact fun row hrow => by rw [hrows] at hrow; cases hrow
    case counted => exact hrows ▸ .nil
    case decided => exact fun row hrow => by rw [hdecided] at hrow; cases hrow
    case approved => exact fun r hr => by rw [hdecisions] at hr; cases hr
  step h call h' hkept _ hstep := by
    simp only [governanceSystem] at hstep
    split at hstep
    · next hlt =>
      obtain rfl := Option.some.inj hstep
      exact hkept.call call hlt
    · cases hstep

end Kept

/-! ## What holds in every state -/

/-- The incident is ready for review for the purpose. -/
structure ReadyFor (h : GovernanceHistory) (id : String) (purpose : DatasetPurpose) : Prop where
  incident : ∃ incident, h.database.incidents.get? id = some incident ∧
    incident.dataMode = "connected" ∧ incident.status = "resolved" ∧ incident.resolvedAt.isSome
  attributed : ∃ row ∈ feedbackOn h.database id, isAttributed row
  verified : ∃ row ∈ feedbackOn h.database id, isAttributed row ∧
    row.verificationResult ≠ "not_recorded" ∧ row.verificationEvidenceIds ≠ []
  consented : ∃ r snapshot, h.latestDecision id purpose = some r ∧
    h.newestSnapshot id = some snapshot ∧ r.decision.decision = "approved" ∧
    r.decision.postmortemSnapshotId = snapshot.id ∧
    ∀ item ∈ requiredDatasetAttestations, item ∈ r.decision.attestations

/-- The digest tells the present text from those of the snapshots. -/
def DigestsDiffer (host : IncidentHost) (id : String) (h : GovernanceHistory) : Prop :=
  ∀ incident, h.database.incidents.get? id = some incident → ∀ row ∈ h.snapshotsOf id,
    let content := renderIncidentPostmortem host (detailOf host h.database incident)
    host.sha256 row.contentMarkdown = host.sha256 content → row.contentMarkdown = content

section States

variable {host : IncidentHost} {id : String} {h : GovernanceHistory} {incident : IncidentRecord}
  {purpose : DatasetPurpose} {d d' : Database}

namespace GovernanceKept

/-- The query for the newest snapshot finds the one recorded last. -/
theorem latestSnapshot_eq (hkept : GovernanceKept host id h)
    (hget : h.database.incidents.get? id = some incident) :
    latestSnapshot h.database incident.workspaceId id = h.newestSnapshot id := by
  have hselect : h.database.snapshots.select (fun row =>
      row.workspaceId = incident.workspaceId ∧ row.incidentId = id) = snapshotRows h.database id := by
    refine List.filter_congr fun row hrow => ?_
    rw [decide_eq_decide, and_iff_right_iff_imp]
    intro hid
    obtain ⟨found, hfound, hdocuments⟩ :=
      hkept.documents row (Table.mem_select.mpr ⟨hrow, decide_eq_true hid⟩)
    obtain rfl := Option.some.inj (hget.symm.trans hfound)
    exact hdocuments.workspaceId
  rw [latestSnapshot, hselect, hkept.snapshotsDated.newest_eq_last, hkept.snapshotsLogged]
  rfl

/-- The query for the newest decision finds the one recorded last. -/
theorem latestConsent_eq (hkept : GovernanceKept host id h)
    (hget : h.database.incidents.get? id = some incident) (purpose : DatasetPurpose) :
    latestConsent h.database incident.workspaceId id purpose =
      (h.latestDecision id purpose).map (·.decision) := by
  have hselect : h.database.consents.select (fun row => row.workspaceId = incident.workspaceId ∧
      row.incidentId = id ∧ row.purpose = purpose.text) =
      (decisionRows h.database id).filter fun row => row.purpose = purpose.text := by
    rw [decisionRows, Table.select, Table.select, List.filter_filter]
    refine List.filter_congr fun row hrow => ?_
    rw [← Bool.decide_and, decide_eq_decide]
    constructor
    · intro h
      obtain ⟨-, hid, hpurpose⟩ := h
      exact ⟨hpurpose, hid⟩
    · intro h
      obtain ⟨hpurpose, hid⟩ := h
      obtain ⟨found, hfound, hdecided⟩ :=
        hkept.decided row (Table.mem_select.mpr ⟨hrow, decide_eq_true hid⟩)
      obtain rfl := Option.some.inj (hget.symm.trans hfound)
      exact ⟨hdecided.workspaceId, hid, hpurpose⟩
  rw [latestConsent, hselect, (hkept.decisionsDated.filter _).newest_eq_last,
    hkept.decisionsLogged, List.filter_filter, List.filter_map, List.getLast?_map]
  congr 2
  refine List.filter_congr fun r _ => ?_
  show (decide _ && decide _) = decide _
  rw [← Bool.decide_and, decide_eq_decide]
  exact and_comm

/-- The decision a history remembers is stored. -/
theorem latestDecision_mem (hkept : GovernanceKept host id h) {r : RecordedDecision}
    (hr : h.latestDecision id purpose = some r) : r.decision ∈ decisionRows h.database id := by
  obtain ⟨hmem, hmatch⟩ := List.mem_filter.mp (List.mem_of_getLast? hr)
  rw [hkept.decisionsLogged]
  exact List.mem_filter.mpr ⟨List.mem_map_of_mem hmem,
    decide_eq_true (of_decide_eq_true hmatch).1⟩

/-- What the queries find, in the workspace of the incident. -/
theorem basis_eq (hkept : GovernanceKept host id h)
    (hget : h.database.incidents.get? id = some incident) (purpose : DatasetPurpose) :
    datasetBasis h.database incident incident.workspaceId purpose =
      ⟨incident, (feedbackOn h.database id).insertionSort feedbackOrder, h.newestSnapshot id,
        (h.latestDecision id purpose).map (·.decision)⟩ := by
  have hid : incident.id = id := Table.key_of_get? hget
  rw [datasetBasis, hid, hkept.latestSnapshot_eq hget, hkept.latestConsent_eq hget]
  rfl

/-- The basis reads ready just when the latest decision approves this very report. -/
theorem ready_iff (hkept : GovernanceKept host id h)
    (hget : h.database.incidents.get? id = some incident) (purpose : DatasetPurpose) :
    (datasetBasis h.database incident incident.workspaceId purpose).status = .readyForReview ↔
      ReadyFor h id purpose := by
  rw [hkept.basis_eq hget, DatasetBasis.status_eq_ready]
  constructor
  · intro h
    obtain ⟨hmet, hconsented⟩ := h
    obtain ⟨row, hrow, hattributed⟩ := List.any_eq_true.mp hmet.attributed
    obtain ⟨item, hitem, hverified⟩ := List.any_eq_true.mp hmet.verified
    obtain ⟨hstatus, hdate⟩ := of_decide_eq_true hmet.resolved
    obtain ⟨consent, snapshot, hconsent, hsnapshot, hholds⟩ := isConsented_iff.mp hconsented
    obtain ⟨r, hr, rfl⟩ := Option.map_eq_some_iff.mp hconsent
    exact ⟨⟨incident, hget, of_decide_eq_true hmet.connected, hstatus, hdate⟩,
      ⟨row, (List.mem_insertionSort _).mp hrow, hattributed⟩,
      ⟨item, (List.mem_insertionSort _).mp hitem, isVerified_iff.mp hverified⟩,
      ⟨r, snapshot, hr, hsnapshot, hholds⟩⟩
  · intro hready
    obtain ⟨found, hfound, hconnected, hresolved⟩ := hready.incident
    obtain rfl := Option.some.inj (hget.symm.trans hfound)
    obtain ⟨row, hrow, hattributed⟩ := hready.attributed
    obtain ⟨item, hitem, hverified⟩ := hready.verified
    obtain ⟨r, snapshot, hr, hsnapshot, hholds⟩ := hready.consented
    have hsnapshotted : (h.newestSnapshot id).isSome = true := by
      rw [hsnapshot]
      rfl
    exact ⟨⟨decide_eq_true hconnected, decide_eq_true hresolved,
      List.any_eq_true.mpr ⟨row, (List.mem_insertionSort _).mpr hrow, hattributed⟩,
      List.any_eq_true.mpr ⟨item, (List.mem_insertionSort _).mpr hitem, isVerified_iff.mpr hverified⟩,
      hsnapshotted⟩,
      isConsented_iff.mpr ⟨r.decision, snapshot, by rw [hr]; rfl, hsnapshot, hholds⟩⟩

/-- Where something was decided, the readiness can be shown. -/
theorem basis_valid (hkept : GovernanceKept host id h)
    (hget : h.database.incidents.get? id = some incident) (hconnected : incident.dataMode = "connected")
    (purpose : DatasetPurpose) :
    (datasetBasis h.database incident incident.workspaceId purpose).Valid := by
  rw [hkept.basis_eq hget]
  constructor
  case snapshot =>
    intro snapshot hsnapshot
    have hmem : snapshot ∈ h.snapshotsOf id := List.mem_of_getLast? hsnapshot
    rw [← hkept.snapshotsLogged] at hmem
    obtain ⟨_, -, hdocuments⟩ := hkept.documents snapshot hmem
    exact hdocuments.errors
  case consent =>
    intro consent hconsent
    rw [Option.mem_def, Option.map_eq_some_iff] at hconsent
    obtain ⟨r, hr, rfl⟩ := hconsent
    obtain ⟨_, -, hdecided⟩ := hkept.decided r.decision (hkept.latestDecision_mem hr)
    exact hdecided.errors
  case dataMode =>
    rw [hconnected]
    decide

end GovernanceKept

/-- What is reported is whether the incident is ready. -/
theorem readiness_iff (hkept : GovernanceKept host id h) {workspaceId : String}
    {answer : DatasetReadinessResponse}
    (hanswer : getDatasetReadiness h.database id workspaceId purpose = .ok answer) :
    answer.status = .readyForReview ↔ ReadyFor h id purpose := by
  obtain ⟨incident, hget, rfl, -, rfl⟩ := getDatasetReadiness_eq_ok.mp hanswer
  exact hkept.ready_iff hget purpose

/-- A decision for one purpose is not looked at for another. -/
theorem getDatasetReadiness_other (q : RecordDatasetConsent) (d : Database)
    (hpurpose : purpose ≠ q.payload.purpose) (incidentId workspaceId : String) :
    getDatasetReadiness ((recordDatasetConsent q).run d).2 incidentId workspaceId purpose =
      getDatasetReadiness d incidentId workspaceId purpose := by
  rcases recordDatasetConsent_run q d with ⟨e, hrun⟩ | ⟨incident, row, d', -, hsave, hrun⟩
  · rw [hrun]
  · rw [hrun]
    obtain ⟨hinsert, hincidents, hfeedback, hsnapshots⟩ := RecordDatasetConsent.save_ok hsave
    have hbasis : ∀ incident, datasetBasis d' incident workspaceId purpose =
        datasetBasis d incident workspaceId purpose := by
      intro incident
      have hother : [q.decision (snapshotSummaryOf row)].filter (fun row =>
          row.workspaceId = workspaceId ∧ row.incidentId = incident.id ∧
            row.purpose = purpose.text) = [] := by
        refine List.filter_cons_of_neg fun hmatch => ?_
        exact hpurpose (DatasetPurpose.text_injective (of_decide_eq_true hmatch).2.2).symm
      simp only [datasetBasis, feedbackFor, latestSnapshot, latestConsent, hfeedback, hsnapshots,
        Table.select_insert hinsert, hother, List.append_nil]
    simp only [getDatasetReadiness, governanceIncident, hincidents, hbasis]

/-- Where there is a decision, it can be revoked, and is not followed by an approval. -/
theorem revocation_accepted (hkept : GovernanceKept host id h) {r : RecordedDecision}
    (hr : h.latestDecision id purpose = some r) {q : RecordDatasetConsent}
    (hid : q.incidentId = id) (hworkspace : q.workspaceId = r.decision.workspaceId)
    (hpurpose : q.payload.purpose = purpose) (hrevoked : q.payload.decision = .revoked)
    (hlt : h.now < q.clock 0) (hfree : h.database.consents.get? q.newId = none) :
    ∃ summary d' answer, (recordDatasetConsent q).run h.database = (.ok summary, d') ∧
      getDatasetReadiness d' id q.workspaceId purpose = .ok answer ∧ answer.status = .blocked := by
  subst hid hpurpose
  obtain ⟨incident, hget, hdecided⟩ := hkept.decided r.decision (hkept.latestDecision_mem hr)
  have hplace : incident.workspaceId = q.workspaceId :=
    hdecided.workspaceId.symm.trans hworkspace.symm
  obtain ⟨row, hrow⟩ : ∃ row, h.newestSnapshot q.incidentId = some row := by
    refine ⟨_, List.getLast?_eq_some_getLast ?_⟩
    rw [← hkept.snapshotsLogged]
    exact hdecided.snapshots
  have hbasis := hkept.basis_eq hget q.payload.purpose
  have hloaded : q.Loaded h.database incident row := by
    constructor
    case get? => exact hget
    case workspaceId => exact hplace
    case valid =>
      rw [RecordDatasetConsent.basis, ← hplace]
      exact hkept.basis_valid hget hdecided.connected q.payload.purpose
    case connected => exact hdecided.connected
    case snapshot =>
      rw [← hplace, Table.key_of_get? hget, hkept.latestSnapshot_eq hget, hrow]
    case approved =>
      intro happroved
      rw [hrevoked] at happroved
      cases happroved
    case revoked =>
      intro _
      rw [← hplace, Table.key_of_get? hget, hkept.latestConsent_eq hget, hr]
      exact Option.some_ne_none _
  obtain ⟨d', hsave⟩ := RecordDatasetConsent.save_isOk (snapshotSummaryOf row) hfree
  have hrun : (recordDatasetConsent q).run h.database =
      (datasetConsentSummary (q.decision (snapshotSummaryOf row)), d') :=
    perform_ok (RecordDatasetConsent.load_eq_ok.mpr ⟨incident, row, hloaded, rfl⟩) hsave
  rw [datasetConsentSummary, if_pos RecordDatasetConsent.consentErrors_decision] at hrun
  -- the history with the revocation is as well kept, and ends in it
  have hkept' := hkept.decisionStored hlt hloaded hsave
  obtain ⟨hinsert, hincidents, -⟩ := RecordDatasetConsent.save_ok hsave
  have hget' : d'.incidents.get? q.incidentId = some incident := by rw [hincidents, hget]
  have hlatest : (h.extend (q.clock 0) d').latestDecision q.incidentId q.payload.purpose =
      some ⟨q.decision (snapshotSummaryOf row), h.database⟩ := by
    rw [GovernanceHistory.latestDecision, GovernanceHistory.extend, Table.added_insert hinsert,
      List.map_singleton, List.filter_append, List.filter_cons_of_pos, List.filter_nil,
      List.getLast?_concat]
    exact decide_eq_true ⟨rfl, rfl⟩
  refine ⟨_, d', _, hrun, getDatasetReadiness_eq_ok.mpr ⟨incident, hget', hplace,
    hplace ▸ hkept'.basis_valid hget' hdecided.connected q.payload.purpose, rfl⟩, ?_⟩
  refine DatasetBasis.status_eq_blocked (decide_eq_true hdecided.connected) fun hready => ?_
  obtain ⟨r', -, hr', -, happroved, -⟩ :=
    ((hkept'.ready_iff hget' q.payload.purpose).mp (hplace ▸ hready)).consented
  obtain rfl := Option.some.inj (hlatest.symm.trans hr')
  have htext : q.payload.decision.text = "approved" := happroved
  rw [hrevoked] at htext
  exact absurd htext (by decide)

/-- A snapshot call returns the newest snapshot, or makes one with a text of its own. -/
theorem snapshot_created (hkept : GovernanceKept host id h) (hdiffer : DigestsDiffer host id h)
    {q : CreatePostmortemSnapshot} (hid : q.incidentId = id) {summary : PostmortemSnapshotSummary}
    (hrun : (createPostmortemSnapshot host q).run h.database = (.ok summary, d')) :
    (d' = h.database ∧ ∃ row, h.newestSnapshot id = some row ∧ summary = snapshotSummaryOf row) ∨
      ∃ row, h.database.snapshots.insert row = some d'.snapshots ∧ row.incidentId = id ∧
        summary = snapshotSummaryOf row ∧
        ∀ earlier ∈ h.snapshotsOf id, earlier.contentMarkdown ≠ row.contentMarkdown := by
  subst hid
  rcases createPostmortemSnapshot_run host q h.database with
    ⟨e, hran⟩ | ⟨incident, hloaded, ⟨row, hexisting, hran⟩ | ⟨hnone, stored, hsave, hran⟩⟩
  · rw [hrun] at hran
    cases hran
  · left
    rw [hrun] at hran
    obtain ⟨hsummary, rfl⟩ := Prod.mk.inj hran
    obtain ⟨hmem, hincident, -, hdigest⟩ := CreatePostmortemSnapshot.existing_ok hexisting
    have hrow : row ∈ snapshotRows h.database q.incidentId := Table.mem_select.mpr ⟨hmem,
      decide_eq_true (hincident.trans (Table.key_of_get? hloaded.get?))⟩
    obtain ⟨found, hfound, hdocuments⟩ := hkept.documents row hrow
    obtain rfl := Option.some.inj (hloaded.get?.symm.trans hfound)
    rw [postmortemSnapshotSummary_of hdocuments.errors, Except.ok.injEq] at hsummary
    refine ⟨rfl, row, ?_, hsummary⟩
    -- the row has the present text, so no row has seen more of the feedback
    have hpresent := hdiffer incident hloaded.get? row (hkept.snapshotsLogged ▸ hrow)
      (hdocuments.digest.symm.trans hdigest)
    have hcount := (hdocuments.content_eq_iff hfound).mp hpresent
    rw [GovernanceHistory.newestSnapshot, ← hkept.snapshotsLogged]
    rcases List.eq_nil_or_concat (snapshotRows h.database q.incidentId) with
      hnil | ⟨older, last, hrows⟩
    · rw [hnil] at hrow
      cases hrow
    rw [List.concat_eq_append] at hrows
    have hcounted := hkept.counted
    have hlast : last ∈ snapshotRows h.database q.incidentId := by
      rw [hrows]
      exact List.mem_append_right _ (List.mem_singleton_self last)
    obtain ⟨_, -, hlatest⟩ := hkept.documents last hlast
    rw [hrows] at hrow hcounted
    rw [hrows, List.getLast?_concat, Option.some.injEq]
    rcases List.mem_append.mp hrow with hold | hsame
    · have hless := (List.pairwise_append.mp hcounted).2.2 row hold last (List.mem_singleton_self last)
      have hseen := hlatest.count
      omega
    · exact (List.mem_singleton.mp hsame).symm
  · right
    rw [hrun] at hran
    obtain ⟨hsummary, rfl⟩ := Prod.mk.inj hran
    refine ⟨_, (CreatePostmortemSnapshot.save_ok hsave).1,
      CreatePostmortemSnapshot.newRow_incidentId hloaded, Except.ok.inj hsummary,
      fun earlier hearlier => ?_⟩
    rw [← hkept.snapshotsLogged] at hearlier
    have hless := CreatePostmortemSnapshot.count_lt hkept hloaded hnone hearlier
    obtain ⟨found, hfound, hdocuments⟩ := hkept.documents earlier hearlier
    obtain rfl := Option.some.inj (hloaded.get?.symm.trans hfound)
    rw [CreatePostmortemSnapshot.newRow_count hloaded] at hless
    intro hcontent
    rw [CreatePostmortemSnapshot.newRow_content] at hcontent
    exact hless.ne ((hdocuments.content_eq_iff hfound).mp hcontent)

/-- The governance of an incident's data, in a state that calls led to. -/
structure DatasetGoverned (host : IncidentHost) (id : String) (h : GovernanceHistory) : Prop where
  logged : snapshotRows h.database id = h.snapshotsOf id ∧ decisionRows h.database id =
    (h.decisions.map (·.decision)).filter fun row => row.incidentId = id
  ready : ∀ workspaceId purpose answer,
    getDatasetReadiness h.database id workspaceId purpose = .ok answer →
    (answer.status = .readyForReview ↔ ReadyFor h id purpose)
  separate : ∀ (q : RecordDatasetConsent) purpose, purpose ≠ q.payload.purpose →
    ∀ workspaceId,
      getDatasetReadiness ((recordDatasetConsent q).run h.database).2 id workspaceId purpose =
        getDatasetReadiness h.database id workspaceId purpose
  approved : ∀ r ∈ h.decisions, ApprovedWhenMet r
  revocable : ∀ purpose r, h.latestDecision id purpose = some r →
    r.decision.decision = "approved" → ∀ q : RecordDatasetConsent, q.incidentId = id →
    q.workspaceId = r.decision.workspaceId → q.payload.purpose = purpose →
    q.payload.decision = .revoked → h.now < q.clock 0 →
    h.database.consents.get? q.newId = none →
    ∃ summary d' answer, (recordDatasetConsent q).run h.database = (.ok summary, d') ∧
      getDatasetReadiness d' id q.workspaceId purpose = .ok answer ∧ answer.status = .blocked
  snapshots : DigestsDiffer host id h → ∀ q : CreatePostmortemSnapshot, q.incidentId = id →
    ∀ summary d', (createPostmortemSnapshot host q).run h.database = (.ok summary, d') →
    (d' = h.database ∧ ∃ row, h.newestSnapshot id = some row ∧ summary = snapshotSummaryOf row) ∨
      ∃ row, h.database.snapshots.insert row = some d'.snapshots ∧ row.incidentId = id ∧
        summary = snapshotSummaryOf row ∧
        ∀ earlier ∈ h.snapshotsOf id, earlier.contentMarkdown ≠ row.contentMarkdown

/-- In every state that is reached, the data of the incident are governed. -/
theorem dataset_governed (hreach : Reachable (governanceSystem host id) h) :
    DatasetGoverned host id h := by
  have hkept : GovernanceKept host id h := governanceKept_invariant.reachable hreach
  constructor
  case logged => exact ⟨hkept.snapshotsLogged, hkept.decisionsLogged⟩
  case ready => exact fun workspaceId purpose answer hanswer => readiness_iff hkept hanswer
  case separate =>
    intro q purpose hpurpose workspaceId
    exact getDatasetReadiness_other q h.database hpurpose id workspaceId
  case approved => exact hkept.approved
  case revocable =>
    intro purpose r hr _ q hid hworkspace hpurpose hrevoked hlt hfree
    exact revocation_accepted hkept hr hid hworkspace hpurpose hrevoked hlt hfree
  case snapshots =>
    intro hdiffer q hid summary d' hrun
    exact snapshot_created hkept hdiffer hid hrun

end States

/-! A resolved incident: its verdict is recorded and verified, a snapshot is made of it,
and its use for evaluation is approved. -/

def resolvedCheckout : IncidentRecord :=
  { checkoutIncident "SEV-2" "resolved" with resolvedAt := some 0 }

def verifyCheckout : SubmitFeedback :=
  { judge "h-1" .confirmed 1 rfl with
    request := ⟨"h-1", .confirmed, "Seen in the traces.",
      some ⟨.supported, "trace replay", "The limit ended it.", ["ev-1"], rfl⟩, rfl⟩ }

def snapshotCheckout : CreatePostmortemSnapshot where
  incidentId := "inc-1"
  workspaceId := "w-1"
  actorUserId := "u-1"
  actorDisplayName := "Noor"
  actorAuthProvider := "development"
  requestId := "r-2"
  newId := "snapshot-1"
  clock n := n + 2

def approveEvaluation : RecordDatasetConsent where
  incidentId := "inc-1"
  payload := ⟨.evaluation, .approved, "dataset-consent-v1", "Approved for evaluation.",
    [.workspaceAuthorized, .secretsReviewed, .privacyReviewed, .licenseReviewed], by decide, rfl⟩
  workspaceId := "w-1"
  actorUserId := "u-1"
  actorDisplayName := "Noor"
  actorAuthProvider := "development"
  requestId := "r-3"
  newId := "decision-1"
  clock n := n + 3

/-- The status that is reported of the incident. -/
def reportedStatus (purpose : DatasetPurpose) (h : GovernanceHistory) :
    Option DatasetReadinessStatus :=
  (getDatasetReadiness h.database "inc-1" "w-1" purpose).toOption.map (·.status)

/-- An incident approved for evaluation and not for training. -/
theorem dataset_governed_approved :
    ∃ h, Reachable (governanceSystem incidentHost "inc-1") h ∧
      reportedStatus .evaluation h = some .readyForReview ∧
      reportedStatus .training h = some .blocked ∧
      DigestsDiffer incidentHost "inc-1" h ∧ DatasetGoverned incidentHost "inc-1" h := by
  let start : GovernanceHistory := ⟨withIncident resolvedCheckout, 0, [], []⟩
  have hstart : (governanceSystem incidentHost "inc-1").init start :=
    ⟨rfl, rfl, fun row hrow => (by cases hrow), fun row hrow => (by cases hrow)⟩
  have hends : ((governanceSystem incidentHost "inc-1").run start
      [.incident (.submitFeedback verifyCheckout), .createPostmortemSnapshot snapshotCheckout,
        .recordDatasetConsent approveEvaluation]).map (fun h =>
          (reportedStatus .evaluation h, reportedStatus .training h)) =
      some (some .readyForReview, some .blocked) := by decide +kernel
  obtain ⟨h, hrun, hstatuses⟩ := Option.map_eq_some_iff.mp hends
  obtain ⟨hevaluation, htraining⟩ := Prod.mk.inj hstatuses
  have hreach := Reachable.of_run (.init hstart) hrun
  refine ⟨h, hreach, hevaluation, htraining, fun incident _ row _ hdigest => ?_,
    dataset_governed hreach⟩
  exact String.append_right_inj "sha256:" |>.mp hdigest

end DeployGuard.Service
