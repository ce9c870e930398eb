import DeployGuard.Lib.Transition
import DeployGuard.Service.Analysis
import DeployGuard.Service.IncidentHistory

/-!
# The overview of a scenario

`get_overview` counts an incident as open by a set of status names of its own:
`open`, `investigating`, `monitoring` and `mitigating`. The lifecycle knows two more
statuses before `resolved`, `acknowledged` and `mitigated`, which the set has not.

> `AllCounted`: every incident of the scenario that is not resolved has one of the
> names of the set.

The number is right in exactly the states with that property
(`openIncidents_eq_iff`), and it holds along the runs that move no incident of the
scenario to one of the two statuses (`overview_counts_open`).
-/

namespace DeployGuard.Service

open Raise Transition

/-! ## What is shown -/

/-- `open_statuses`. -/
def openStatuses : List String := ["open", "investigating", "monitoring", "mitigating"]

structure OverviewStats where
  openIncidents : Nat
  highRiskChanges : Nat
  servicesMonitored : Nat
  evidenceQuality : ℚ
  deriving DecidableEq

structure Overview where
  generatedAt : Time
  dataMode : String
  activeScenarioId : String
  stats : OverviewStats
  activeChange : ChangeRecord
  activeIncident : Option IncidentDetail
  deriving DecidableEq

/-- `Field(ge=0, le=100)` of a score. -/
def percentage (n : Int) : List Schema.Constraint := [Schema.ge 0 n, Schema.le 100 n]

def riskErrors (risk : Risk) : Schema.Errors :=
  Schema.field "risk.overall_score" (percentage risk.overallScore) ++
  Schema.field "risk.level" [(risk.level ∈ ["low", "moderate", "high", "critical"],
    "Input should be 'low', 'moderate', 'high' or 'critical'")] ++
  Schema.field "risk.data_quality" (unitInterval risk.dataQuality) ++
  elementErrors "risk.dimensions" (fun item => Schema.field "score" (percentage item.score) ++
    Schema.field "weight" (unitInterval item.weight)) risk.dimensions

def blastErrors (blast : BlastRadius) : Schema.Errors :=
  elementErrors "blast_radius.nodes"
    (fun node => Schema.field "impact_score" (percentage node.impactScore)) blast.nodes ++
  elementErrors "blast_radius.edges"
    (fun edge => Schema.field "confidence" (unitInterval edge.confidence)) blast.edges

def changeErrors (record : ChangeRecord) : Schema.Errors :=
  dataModeErrors record.dataMode ++
  versionErrors "analysis_schema_version" record.analysisSchemaVersion ++
  versionErrors "engine_version" record.engineVersion ++
  versionErrors "scoring_policy_version" record.scoringPolicyVersion ++
  versionErrors "graph_version" record.graphVersion ++
  Schema.field "files_changed" [Schema.ge 0 record.filesChanged] ++
  Schema.field "lines_added" [Schema.ge 0 record.linesAdded] ++
  Schema.field "lines_deleted" [Schema.ge 0 record.linesDeleted] ++
  riskErrors record.risk ++ blastErrors record.blastRadius

/-- `change_detail`, as the record with its versions stripped. -/
def changeDetail (record : ChangeRecord) : Except ServiceError ChangeRecord :=
  if changeErrors record = [] then .ok { record with
    analysisSchemaVersion := Text.trim record.analysisSchemaVersion
    engineVersion := Text.trim record.engineVersion
    scoringPolicyVersion := Text.trim record.scoringPolicyVersion
    graphVersion := Text.trim record.graphVersion }
  else .error (.validation (changeErrors record))

/-! ## `get_overview` -/

def scenarioChanges (d : Database) (scenarioId : String) : List ChangeRecord :=
  d.changes.select fun row => row.scenarioId = scenarioId

def scenarioIncidents (d : Database) (scenarioId : String) : List IncidentRecord :=
  d.incidents.select fun row => row.scenarioId = scenarioId

/-- `incident_item.status.lower() in open_statuses`. -/
def isCounted (host : IncidentHost) (row : IncidentRecord) : Bool :=
  host.lower row.status ∈ openStatuses

def openIncidents (host : IncidentHost) (d : Database) (scenarioId : String) : Nat :=
  (scenarioIncidents d scenarioId).countP (isCounted host)

def evidenceQuality (incidents : List IncidentRecord) : ℚ :=
  let evidence := incidents.flatMap (·.evidence)
  if evidence = [] then 0 else (evidence.map (·.quality)).sum / evidence.length

def overviewStats (host : IncidentHost) (d : Database) (selected : Scenario) :
    Except ServiceError OverviewStats :=
  let quality := Number.round (evidenceQuality (scenarioIncidents d selected.id)) 2
  let errors := Schema.field "evidence_quality" (unitInterval quality)
  if errors = [] then
    .ok {
      openIncidents := openIncidents host d selected.id
      highRiskChanges := (scenarioChanges d selected.id).countP fun change =>
        50 ≤ change.risk.overallScore
      servicesMonitored := selected.serviceGraph.nodes.length
      evidenceQuality := quality }
  else .error (.validation errors)

/-- The scenario's active change, or any of it. -/
def overviewChange (d : Database) (selected : Scenario) : Option ChangeRecord :=
  ((givenText selected.activeChangeId).bind d.changes.get?).or
    (scenarioChanges d selected.id).head?

def overviewIncident (d : Database) (selected : Scenario) : Option IncidentRecord :=
  ((givenText selected.activeIncidentId).bind d.incidents.get?).or
    (scenarioIncidents d selected.id).head?

def shownIncident (host : IncidentHost) (d : Database) :
    Option IncidentRecord → Except ServiceError (Option IncidentDetail)
  | some incident => (incidentDetail host d incident).map some
  | none => .ok none

/-- `get_overview` of the selected scenario. -/
def overviewOf (host : IncidentHost) (d : Database) (selected : Scenario) (now : Time) :
    Except ServiceError Overview :=
  match overviewChange d selected with
  | none => .error (.domain "Active scenario has no connected change evidence yet"
      "scenario_data_incomplete" 409)
  | some change => do
    let stats ← overviewStats host d selected
    let activeChange ← changeDetail change
    let activeIncident ← shownIncident host d (overviewIncident d selected)
    raiseIf (dataModeErrors selected.dataMode ≠ [])
      (.validation (dataModeErrors selected.dataMode))
    pure ⟨now, selected.dataMode, selected.id, stats, activeChange, activeIncident⟩

/-- `get_overview`. -/
def getOverview (host : IncidentHost) (d : Database) (scenario : Option Scenario) (now : Time) :
    Except ServiceError Overview :=
  match scenario with
  | some selected => overviewOf host d selected now
  | none => do
    let selected ← activeScenario d.toStore {}
    overviewOf host d selected now

theorem getOverview_some (host : IncidentHost) (d : Database) (selected : Scenario)
    (now : Time) : getOverview host d (some selected) now = overviewOf host d selected now :=
  rfl

/-! ## The incidents that are not resolved -/

section Counts

variable {host : IncidentHost} {d d' : Database} {id : String} {row row' : IncidentRecord}

def unresolvedIncidents (host : IncidentHost) (d : Database) (scenarioId : String) : Nat :=
  (scenarioIncidents d scenarioId).countP fun row => ¬IsResolved host row

/-- Every incident of the scenario that is not resolved is counted. -/
def AllCounted (host : IncidentHost) (d : Database) (scenarioId : String) : Prop :=
  ∀ row ∈ d.incidents.rows, row.scenarioId = scenarioId → ¬IsResolved host row → isCounted host row

/-- The overview reports the number `openIncidents` is. -/
theorem overview_openIncidents {selected : Scenario} {now : Time} {overview : Overview}
    (h : overviewOf host d selected now = .ok overview) :
    overview.activeScenarioId = selected.id ∧
      overview.stats.openIncidents = openIncidents host d selected.id := by
  unfold overviewOf at h
  cases hchange : overviewChange d selected with
  | none =>
    rw [hchange] at h
    cases h
  | some change =>
    rw [hchange] at h
    obtain ⟨stats, hstats, h⟩ := Raise.bind_eq_ok.mp h
    obtain ⟨_, -, h⟩ := Raise.bind_eq_ok.mp h
    obtain ⟨_, -, h⟩ := Raise.bind_eq_ok.mp h
    obtain ⟨_, -, h⟩ := Raise.bind_eq_ok.mp h
    obtain rfl := Raise.pure_eq_ok.mp h
    simp only [overviewStats] at hstats
    split at hstats
    · obtain rfl := Except.ok.inj hstats
      exact ⟨rfl, rfl⟩
    · cases hstats

theorem getOverview_openIncidents {scenario : Option Scenario} {now : Time} {overview : Overview}
    (h : getOverview host d scenario now = .ok overview) :
    overview.stats.openIncidents = openIncidents host d overview.activeScenarioId := by
  cases scenario with
  | some selected =>
    obtain ⟨hid, hopen⟩ := overview_openIncidents h
    rw [hid, hopen]
  | none =>
    obtain ⟨selected, -, h⟩ := Raise.bind_eq_ok.mp h
    obtain ⟨hid, hopen⟩ := overview_openIncidents h
    rw [hid, hopen]

/-- What is counted is not resolved: no name of the set reads as `resolved`. -/
theorem not_isResolved_of_isCounted (h : isCounted host row) : ¬IsResolved host row := by
  intro hresolved
  have hname : host.lower (Text.strip row.status) ∈ openStatuses := by
    have hlower : host.lower row.status ∈ openStatuses := of_decide_eq_true h
    rw [host.lower_strip]
    have hstrip : ∀ name ∈ openStatuses, Text.strip name = name := by decide
    rw [hstrip _ hlower]
    exact hlower
  have htext : host.lower (Text.strip row.status) = "resolved" := by
    unfold IsResolved normalizeIncidentStatus at hresolved
    split at hresolved
    · next status hstatus =>
      obtain rfl := Except.ok.inj hresolved
      exact (IncidentStatus.text_of_ofText? hstatus).symm
    · cases hresolved
  rw [htext] at hname
  exact absurd hname (by decide)

/-- The overview's number is that of the incidents that are not resolved exactly if each
of them is counted. -/
theorem openIncidents_eq_iff :
    openIncidents host d id = unresolvedIncidents host d id ↔ AllCounted host d id := by
  let unresolved := (scenarioIncidents d id).filter fun row => ¬IsResolved host row
  have hlength : unresolvedIncidents host d id = unresolved.length := List.countP_eq_length_filter
  have hcount : openIncidents host d id = unresolved.countP (isCounted host) := by
    show List.countP _ _ = List.countP _ (List.filter _ _)
    rw [List.countP_filter]
    refine List.countP_congr fun row _ => ?_
    rw [Bool.and_eq_true, decide_eq_true_iff]
    exact ⟨fun h => ⟨h, not_isResolved_of_isCounted h⟩, fun h => h.1⟩
  rw [hcount, hlength, List.countP_eq_length]
  constructor
  · intro h row hrow hscenario hunresolved
    exact h row (List.mem_filter.mpr ⟨Table.mem_select.mpr ⟨hrow, decide_eq_true hscenario⟩,
      decide_eq_true hunresolved⟩)
  · intro h row hrow
    obtain ⟨hselected, hunresolved⟩ := List.mem_filter.mp hrow
    obtain ⟨hmem, hscenario⟩ := Table.mem_select.mp hselected
    exact h row hmem (of_decide_eq_true hscenario) (of_decide_eq_true hunresolved)

/-- A status the lifecycle stores is counted unless it is one of the two that are missing. -/
theorem isCounted_of_text (status : IncidentStatus) (htext : row.status = status.text)
    (hopen : status ≠ .acknowledged ∧ status ≠ .mitigated) :
    ¬IsResolved host row → isCounted host row := by
  intro hunresolved
  have hread : normalizeIncidentStatus host.toHost row.status = .ok status := by
    rw [htext, normalizeIncidentStatus_text]
  have hlower : host.lower row.status = row.status := by
    rw [htext, host.lower_of_ascii (by cases status <;> decide)]
    cases status <;> decide
  rw [isCounted, hlower, htext]
  cases status with
  | «open» => decide
  | investigating => decide
  | acknowledged => exact absurd rfl hopen.1
  | mitigated => exact absurd rfl hopen.2
  | resolved => exact absurd hread hunresolved

end Counts

/-! ## Runs of the lifecycle -/

/-- Lifecycle updates one after another, on a database where all is counted. -/
def overviewSystem (host : IncidentHost) (scenarioId : String) :
    System Database UpdateIncidentLifecycle where
  init d := AllCounted host d scenarioId
  next d q := some ((updateIncidentLifecycle host q).run d).2

/-- The call moves no incident of the scenario to a status that is not counted. -/
def KeepsCounted (host : IncidentHost) (scenarioId : String) (d : Database)
    (q : UpdateIncidentLifecycle) : Prop :=
  ∀ record, q.load d = .ok record → record.scenarioId = scenarioId → q.Passes host record d →
    ∀ status ∈ q.payload.status, status ≠ .acknowledged ∧ status ≠ .mitigated

section Runs

variable {host : IncidentHost} {d d' : Database} {id : String} {q : UpdateIncidentLifecycle}

/-- The rows after a call: one of them may be edited, the others are as they were. -/
theorem updateIncidentLifecycle_rows (host : IncidentHost) (q : UpdateIncidentLifecycle)
    (d : Database) : ∃ f : IncidentRecord → IncidentRecord,
      ((updateIncidentLifecycle host q).run d).2.incidents.rows = d.incidents.rows.map f ∧
      ∀ row ∈ d.incidents.rows, f row = row ∨ ∃ edit, q.load d = .ok row ∧
        q.edit host row d = .ok edit ∧
        f row = UpdateIncidentLifecycle.columns (q.edited host edit) row := by
  rcases updateIncidentLifecycle_run host q d with ⟨-, e, hrun⟩ | ⟨record, edit, hload, hedit, hrun⟩
  · exact ⟨fun row => row, by rw [hrun, List.map_id'], fun row _ => Or.inl rfl⟩
  · by_cases hnil : edit.changes = []
    · exact ⟨fun row => row, by rw [hrun, if_pos hnil, List.map_id'], fun row _ => Or.inl rfl⟩
    · refine ⟨fun row => if row.id = edit.record.id then
        UpdateIncidentLifecycle.columns (q.edited host edit) row else row, ?_, fun row hrow => ?_⟩
      · rw [hrun, if_neg hnil]
        show d.incidents.rows.map (fun row => if decide (row.id = edit.record.id) = true then
          UpdateIncidentLifecycle.columns (q.edited host edit) row else row) = _
        simp only [decide_eq_true_iff]
      · by_cases hid : row.id = edit.record.id
        · have hrecord := UpdateIncidentLifecycle.load_ok hload
          rw [(UpdateIncidentLifecycle.edit_ok hedit).2.id] at hid
          obtain rfl := d.incidents.eq_of_key_eq hrow (Table.mem_of_get? hrecord) hid
          refine Or.inr ⟨edit, hload, hedit, if_pos ?_⟩
          exact (UpdateIncidentLifecycle.edit_ok hedit).2.id.symm
        · exact Or.inl (if_neg hid)

/-- One call. -/
theorem AllCounted.step (h : AllCounted host d id) (hkeeps : KeepsCounted host id d q)
    (hstep : (overviewSystem host id).next d q = some d') : AllCounted host d' id := by
  obtain rfl := Option.some.inj hstep
  obtain ⟨f, hrows, hf⟩ := updateIncidentLifecycle_rows host q d
  intro row' hrow' hscenario hunresolved
  rw [hrows] at hrow'
  obtain ⟨row, hrow, rfl⟩ := List.mem_map.mp hrow'
  rcases hf row hrow with hsame | ⟨edit, hload, hedit, hcolumns⟩
  · rw [hsame] at hscenario hunresolved ⊢
    exact h row hrow hscenario hunresolved
  · rw [hcolumns] at hscenario hunresolved ⊢
    obtain ⟨hpasses, hedited⟩ := UpdateIncidentLifecycle.edit_ok hedit
    rcases hedited.status with ⟨hstatus, -⟩ | ⟨-, status, -, -, hset, hstatus, -⟩
    · have hread : ¬IsResolved host row := by
        intro hresolved
        refine hunresolved ?_
        show normalizeIncidentStatus host.toHost edit.record.status = _
        rw [hstatus]
        exact hresolved
      show decide (host.lower edit.record.status ∈ openStatuses) = true
      rw [hstatus]
      exact h row hrow hscenario hread
    · exact isCounted_of_text status hstatus
        (hkeeps row hload hscenario hpasses status hset) hunresolved

/-- A call that resolves no incident leaves their number. -/
theorem unresolvedIncidents_step (hstep : (overviewSystem host id).next d q = some d')
    (hnone : ¬∃ record row, d.incidents.get? q.incidentId = some record ∧
      record.scenarioId = id ∧ ¬IsResolved host record ∧
      d'.incidents.get? q.incidentId = some row ∧ IsResolved host row) :
    unresolvedIncidents host d' id = unresolvedIncidents host d id := by
  obtain rfl := Option.some.inj hstep
  -- The call maps the rows, and the map keeps a row or edits the one it loaded.
  obtain ⟨f, hrows, hf⟩ := updateIncidentLifecycle_rows host q d
  have hkeys : ∀ row ∈ d.incidents.rows, (f row).scenarioId = row.scenarioId := by
    intro row hrow
    rcases hf row hrow with hsame | ⟨_, -, -, hcolumns⟩
    · rw [hsame]
    · rw [hcolumns]
      rfl
  have hresolved : ∀ row ∈ d.incidents.rows, row.scenarioId = id →
      (IsResolved host (f row) ↔ IsResolved host row) := by
    intro row hrow hscenario
    rcases hf row hrow with hsame | ⟨edit, hload, hedit, hcolumns⟩
    · rw [hsame]
    · have hadvances := UpdateIncidentLifecycle.advances hedit
      rw [← hcolumns] at hadvances
      constructor
      · -- this is the resolution the hypothesis rules out
        intro hafter
        by_contra hbefore
        have hrecord := UpdateIncidentLifecycle.load_ok hload
        have hmem : f row ∈ ((updateIncidentLifecycle host q).run d).2.incidents.rows := by
          rw [hrows]
          exact List.mem_map_of_mem hrow
        have hid : (f row).id = q.incidentId := by
          rw [hcolumns, UpdateIncidentLifecycle.columns_id]
          exact Table.key_of_get? hrecord
        exact hnone ⟨row, f row, hrecord, hscenario, hbefore, hid ▸ Table.get?_of_mem hmem, hafter⟩
      · -- a resolved incident stays resolved
        intro hbefore
        show normalizeIncidentStatus host.toHost (f row).status = _
        rw [(hadvances.final hbefore).1]
        exact hbefore
  -- Row by row, the count looks at the same condition.
  unfold unresolvedIncidents scenarioIncidents Table.select
  rw [hrows, List.countP_filter, List.countP_filter, List.countP_map]
  refine List.countP_congr fun row hrow => ?_
  show (decide (¬IsResolved host (f row)) && decide ((f row).scenarioId = id)) = true ↔
    (decide (¬IsResolved host row) && decide (row.scenarioId = id)) = true
  simp only [Bool.and_eq_true, decide_eq_true_iff, hkeys row hrow]
  constructor
  · intro h
    obtain ⟨hunresolved, hscenario⟩ := h
    exact ⟨mt (hresolved row hrow hscenario).mpr hunresolved, hscenario⟩
  · intro h
    obtain ⟨hunresolved, hscenario⟩ := h
    exact ⟨mt (hresolved row hrow hscenario).mp hunresolved, hscenario⟩

/-- In a run that keeps the incidents counted, the overview reports how many are not
resolved, and a call that keeps them counted changes the number only by resolving one. In
any state, the number is right exactly if all are counted. -/
theorem overview_counts_open (h : ReachableBy (overviewSystem host id) (KeepsCounted host id) d) :
    (∀ scenario now overview, getOverview host d scenario now = .ok overview →
      overview.activeScenarioId = id →
      overview.stats.openIncidents = unresolvedIncidents host d id) ∧
    (∀ q d', KeepsCounted host id d q → (overviewSystem host id).next d q = some d' →
      openIncidents host d' id ≠ openIncidents host d id →
      ∃ record row, d.incidents.get? q.incidentId = some record ∧ record.scenarioId = id ∧
        ¬IsResolved host record ∧ d'.incidents.get? q.incidentId = some row ∧
        IsResolved host row) ∧
    ∀ d, openIncidents host d id = unresolvedIncidents host d id ↔ AllCounted host d id := by
  have hcounted : AllCounted host d id := by
    induction h with
    | init hinit => exact hinit
    | step _ hkeeps hstep ih => exact ih.step hkeeps hstep
  have hopen := openIncidents_eq_iff.mpr hcounted
  refine ⟨fun scenario now overview hoverview hid => ?_, fun q d' hkeeps hstep hchanged => ?_,
    fun d => openIncidents_eq_iff⟩
  · rw [getOverview_openIncidents hoverview, hid, hopen]
  · by_contra hnone
    refine hchanged ?_
    rw [openIncidents_eq_iff.mpr (hcounted.step hkeeps hstep), hopen,
      unresolvedIncidents_step hstep hnone]

end Runs

/-! An incident that is investigated and resolved; then one that is acknowledged. -/

def pricingChange : ChangeRecord where
  id := "change-1"
  workspaceId := "w-1"
  repositoryId := "repo-1"
  scenarioId := "scenario-1"
  dataMode := "connected"
  analysisSchemaVersion := "analysis/v1"
  engineVersion := "engine/v1"
  scoringPolicyVersion := "scoring/v1"
  graphVersion := "graph/v1"
  title := "Cache prices"
  repository := "acme/checkout"
  author := "noor"
  commitSha := "abc1234"
  branch := "main"
  createdAt := 0
  deploymentStatus := "not_deployed"
  deploymentEnvironment := "staging"
  changedServices := ["checkout"]
  filesChanged := 1
  linesAdded := 1
  linesDeleted := 0
  flags := []
  testCoverage := none
  rollbackReady := none
  observabilityScore := none
  previousFailures := none
  risk := ⟨10, "low", 1, [], []⟩
  blastRadius := ⟨[], []⟩

def pricingScenario : Scenario where
  id := "scenario-1"
  workspaceId := "w-1"
  repositoryId := "repo-1"
  dataMode := "connected"
  isActive := true
  sortOrder := 0
  activeChangeId := some "change-1"
  activeIncidentId := some "inc-1"
  serviceGraph := ⟨[], [], .none⟩

def pricingDatabase : Database :=
  { withIncident (checkoutIncident "SEV-2" "open") with
    changes := ((∅ : Table ChangeRecord.id).insert pricingChange).getD ∅ }

theorem pricing_counted : AllCounted incidentHost pricingDatabase "scenario-1" := by
  intro row hrow _ hunresolved
  obtain rfl : row = checkoutIncident "SEV-2" "open" := List.mem_singleton.mp hrow
  exact isCounted_of_text .«open» rfl ⟨nofun, nofun⟩ hunresolved

/-- What is reported of the scenario, and what is not resolved. -/
def reportedAndUnresolved (d : Database) : Option Nat × Nat :=
  ((getOverview incidentHost d (some pricingScenario) 0).toOption.map (·.stats.openIncidents),
    unresolvedIncidents incidentHost d "scenario-1")

def afterUpdate (status : IncidentStatus) (d : Database) : Database :=
  ((updateIncidentLifecycle incidentHost (setLifecycleStatus status)).run d).2

theorem overview_counts_open_resolved :
    ∃ d, ReachableBy (overviewSystem incidentHost "scenario-1")
        (KeepsCounted incidentHost "scenario-1") d ∧
      reportedAndUnresolved pricingDatabase = (some 1, 1) ∧
      reportedAndUnresolved d = (some 0, 0) ∧
      ∀ overview, getOverview incidentHost d (some pricingScenario) 0 = .ok overview →
        overview.stats.openIncidents = unresolvedIncidents incidentHost d "scenario-1" := by
  have hkeeps : ∀ status, status ≠ .acknowledged ∧ status ≠ .mitigated → ∀ d,
      KeepsCounted incidentHost "scenario-1" d (setLifecycleStatus status) := by
    intro status hstatus d record _ _ _ status' hset
    obtain rfl : status = status' := Option.some.inj hset
    exact hstatus
  have hinvestigated := (ReachableBy.init (S := overviewSystem incidentHost "scenario-1")
    (C := KeepsCounted incidentHost "scenario-1") pricing_counted).step
      (hkeeps .investigating ⟨nofun, nofun⟩ _) rfl
  have hresolved := hinvestigated.step (hkeeps .resolved ⟨nofun, nofun⟩ _) rfl
  refine ⟨_, hresolved, by decide +kernel, ?_, fun overview hoverview => ?_⟩
  · show reportedAndUnresolved (afterUpdate .resolved (afterUpdate .investigating
      pricingDatabase)) = _
    decide +kernel
  · have hid : overview.activeScenarioId = pricingScenario.id := by
      rw [getOverview_some] at hoverview
      exact (overview_openIncidents hoverview).1
    exact (overview_counts_open hresolved).1 _ 0 overview hoverview hid

/-- The open incident is acknowledged, and the overview no longer has it. -/
theorem overview_misses_acknowledged :
    ∃ d, Reachable (overviewSystem incidentHost "scenario-1") d ∧
      reportedAndUnresolved d = (some 0, 1) := by
  have hstart : (overviewSystem incidentHost "scenario-1").init pricingDatabase := pricing_counted
  refine ⟨afterUpdate .acknowledged pricingDatabase, ?_, by decide +kernel⟩
  exact (ReachableBy.init hstart).step (a := setLifecycleStatus .acknowledged) trivial rfl

end DeployGuard.Service
