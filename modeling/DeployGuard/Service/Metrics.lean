import DeployGuard.Service.Deployment

/-!
# DORA metrics

`get_dora_metrics`: computed from the changes and the incidents each time it is
asked for. A change counts as a deployment while its last deployment status says
that it is deployed, or was and is rolled back.

> `totalDeployments_eq`: the total is the number of the rows that `isCounted`.
-/

namespace DeployGuard.Service

open Raise

/-- The `DoraMetricsResponse`. -/
structure DoraMetrics where
  period : String
  deploymentFrequencyPerWeek : ℚ
  changeLeadTimeMinutes : ℚ
  changeFailureRate : ℚ
  meanTimeToRestoreMinutes : ℚ
  deploymentReworkRate : ℚ
  totalDeployments : Nat
  totalIncidents : Nat
  deriving DecidableEq

def windowDays : Nat := 30

/-- `deployed_statuses`. -/
def deployedStatuses : List String := ["deployed", "rolled_back"]

/-- The filter by workspace, which may be absent. -/
def inWorkspace (workspaceId : Option String) (rowWorkspaceId : String) : Bool :=
  workspaceId.all fun id => rowWorkspaceId = id

/-- A duration in minutes. -/
def totalMinutes (duration : Time) : ℚ := duration / seconds 60

/-- `_mean_or_zero`. -/
def meanOrZero (values : List ℚ) : ℚ := if values = [] then 0 else values.sum / values.length

/-! ## The window -/

/-- The end of the window: for a synthetic data set its last moment. -/
def windowEnd (changes : List ChangeRecord) (incidents : List IncidentRecord) (now : Time) : Time :=
  let dataModes := changes.map (·.dataMode) ++ incidents.map (·.dataMode)
  if dataModes ≠ [] ∧ ∀ mode ∈ dataModes, mode = "synthetic" then
    ((changes.map (·.createdAt) ++ incidents.map (·.startedAt)).max?).getD now
  else now

/-- The start of the window. -/
def metricsCutoff (s : Store) (workspaceId : Option String) (now : Time) : Time :=
  windowEnd (s.changes.select fun row => inWorkspace workspaceId row.workspaceId)
    (s.incidents.select fun row => inWorkspace workspaceId row.workspaceId) now - days windowDays

/-- The change counts as deployed. -/
def isDeployed (host : Host) (change : ChangeRecord) : Bool :=
  deployedStatuses.contains (host.lower change.deploymentStatus)

/-- The change is in the window. -/
def inWindow (workspaceId : Option String) (cutoff : Time) (change : ChangeRecord) : Bool :=
  inWorkspace workspaceId change.workspaceId && cutoff ≤ change.createdAt

/-- The deployments of the window. -/
def countedChanges (host : Host) (s : Store) (workspaceId : Option String) (now : Time) :
    List ChangeRecord :=
  (s.changes.select fun row => inWorkspace workspaceId row.workspaceId).filter fun change =>
    isDeployed host change && metricsCutoff s workspaceId now ≤ change.createdAt

/-- The incidents of the window. -/
def countedIncidents (s : Store) (workspaceId : Option String) (now : Time) :
    List IncidentRecord :=
  (s.incidents.select fun row => inWorkspace workspaceId row.workspaceId).filter fun incident =>
    metricsCutoff s workspaceId now ≤ incident.startedAt

/-! ## Times from the timelines -/

/-- The moments of the timeline entries of some types, no earlier than a start. -/
def timelineMarkers (host : Host) (types : List String) (start : Time) (timeline : List Items) :
    Except ServiceError (List Time) := do
  let markers ← (timeline.filter fun event =>
    types.contains (host.lower (host.str (getItemD event "type" (.str ""))))).mapM fun event =>
      timelineTimestamp host (getItem event "timestamp")
  pure (markers.reduceOption.filter fun marker => start ≤ marker)

/-- The lead time of a change, if an incident's timeline tells when it was deployed. -/
def leadTime (host : Host) (incidents : List IncidentRecord) (change : ChangeRecord) :
    Except ServiceError (Option ℚ) := do
  let markers ← timelineMarkers host ["deploy", "deployment"] change.createdAt
    ((incidents.filter fun incident => incident.correlatedChangeId = some change.id).flatMap
      (·.timeline))
  pure (markers.min?.map fun marker => totalMinutes (marker - change.createdAt))

/-- The time to restore of an incident, if it is over. -/
def restoreTime (host : Host) (incident : IncidentRecord) : Except ServiceError (Option ℚ) := do
  let restoredAt ← match incident.resolvedAt with
    | some resolvedAt => pure (some resolvedAt)
    | none => do
      let markers ← timelineMarkers host ["recovery"] incident.startedAt incident.timeline
      pure markers.max?
  pure ((restoredAt.filter fun restored => incident.startedAt ≤ restored).map fun restored =>
    totalMinutes (restored - incident.startedAt))

/-! ## The report -/

/-- The number of counted changes an incident of the window goes back to. -/
def failedDeployments (changes : List ChangeRecord) (incidents : List IncidentRecord) : Nat :=
  ((incidents.filterMap (·.correlatedChangeId)).filter fun id =>
    (changes.map (·.id)).contains id).dedup.length

/-- `part / total`, or nothing of nothing. -/
def share (part total : Nat) : ℚ := if total = 0 then 0 else part / total

/-- `get_dora_metrics`. -/
def getDoraMetrics (host : Host) (s : Store) (workspaceId : Option String) (now : Time) :
    Except ServiceError DoraMetrics := do
  let changes := countedChanges host s workspaceId now
  let incidents := countedIncidents s workspaceId now
  let leadTimes ← changes.mapM (leadTime host incidents)
  let restoreTimes ← incidents.mapM (restoreTime host)
  let rollbacks := changes.countP fun change => host.lower change.deploymentStatus = "rolled_back"
  pure
    { period := "Last 30 Days"
      deploymentFrequencyPerWeek := Number.round (changes.length / (windowDays / 7)) 1
      changeLeadTimeMinutes := Number.round (meanOrZero leadTimes.reduceOption) 1
      changeFailureRate := Number.round (share (failedDeployments changes incidents) changes.length) 3
      meanTimeToRestoreMinutes := Number.round (meanOrZero restoreTimes.reduceOption) 1
      deploymentReworkRate := Number.round (share rollbacks changes.length) 3
      totalDeployments := changes.length
      totalIncidents := incidents.length }

section Report

variable {host : Host} {s : Store} {workspaceId : Option String} {now : Time}

/-- The total a report gives is the number of the counted changes. -/
theorem totalDeployments_eq {report : DoraMetrics}
    (h : getDoraMetrics host s workspaceId now = .ok report) :
    report.totalDeployments = (countedChanges host s workspaceId now).length := by
  unfold getDoraMetrics at h
  obtain ⟨leadTimes, -, h⟩ := Raise.bind_eq_ok.mp h
  obtain ⟨restoreTimes, -, h⟩ := Raise.bind_eq_ok.mp h
  rw [← Raise.pure_eq_ok.mp h]

theorem mem_countedChanges {change : ChangeRecord} :
    change ∈ countedChanges host s workspaceId now ↔ change ∈ s.changes.rows ∧
      isDeployed host change ∧ inWindow workspaceId (metricsCutoff s workspaceId now) change := by
  unfold countedChanges inWindow
  rw [List.mem_filter, Table.mem_select, Bool.and_eq_true, Bool.and_eq_true]
  tauto

end Report

end DeployGuard.Service
