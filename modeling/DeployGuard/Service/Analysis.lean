import DeployGuard.Service.Store

/-!
# Change analysis

`analyze_change`: choose the scenario, overlay the workspace's catalog on its
topology, digest everything the analysis is meant to depend on, and either
return the change stored under the digest or compute and store a new one.

`prepareAnalysis` is the part before the lookup and `computeChange` the part
after it, so that "what a fresh computation would produce" is a definition.
-/

namespace DeployGuard.Service

open Raise Session Session.Call

/-! ## The request -/

/-- `AnalyzeChangeRequest`. -/
structure AnalyzeChangeRequest where
  title : String
  repository : String
  author : String
  commitSha : Option String := none
  branch : Option String := none
  deploymentEnvironment : String := "staging"
  filesChanged : Int
  linesAdded : Int
  linesDeleted : Int
  changedServices : List String
  flags : List String := []
  testCoverage : Option ℚ := none
  rollbackReady : Option Bool := none
  observabilityScore : Option ℚ := none
  previousFailures : Option Int := none
  deriving DecidableEq

/-- A hexadecimal digit. -/
def isHexDigit (c : Char) : Bool :=
  c.isDigit || ('a' ≤ c && c ≤ 'f') || ('A' ≤ c && c ≤ 'F')

def itemsAtMost (n : Nat) (xs : List String) : Schema.Constraint :=
  (xs.length ≤ n, s!"List should have at most {n} items after validation, not {xs.length}")

namespace AnalyzeChangeRequest

/-- The request with its texts stripped. -/
def stripped (r : AnalyzeChangeRequest) : AnalyzeChangeRequest :=
  { r with
    title := Text.trim r.title
    repository := Text.trim r.repository
    author := Text.trim r.author
    changedServices := r.changedServices.map Text.trim
    flags := r.flags.map Text.trim }

def errors (r : AnalyzeChangeRequest) : Schema.Errors :=
  Schema.field "title" [Schema.nonEmpty r.title, Schema.atMost 240 r.title] ++
    Schema.field "repository" [Schema.nonEmpty r.repository, Schema.atMost 240 r.repository] ++
    Schema.field "author" [Schema.nonEmpty r.author, Schema.atMost 160 r.author] ++
    Schema.field "commit_sha" (Schema.optional r.commitSha fun sha =>
      [Schema.atLeast 7 sha, Schema.atMost 64 sha,
        (sha.toList.all isHexDigit, "String should match pattern '^[0-9a-fA-F]+$'")]) ++
    Schema.field "branch" (Schema.optional r.branch fun branch =>
      [Schema.nonEmpty branch, Schema.atMost 160 branch]) ++
    Schema.field "deployment_environment"
      [Schema.nonEmpty r.deploymentEnvironment, Schema.atMost 80 r.deploymentEnvironment] ++
    Schema.field "files_changed" [Schema.ge 0 r.filesChanged, Schema.le 100000 r.filesChanged] ++
    Schema.field "lines_added" [Schema.ge 0 r.linesAdded, Schema.le 10000000 r.linesAdded] ++
    Schema.field "lines_deleted" [Schema.ge 0 r.linesDeleted, Schema.le 10000000 r.linesDeleted] ++
    Schema.elements "changed_services" (fun service => [Schema.nonEmpty service]) 0
      r.changedServices ++
    Schema.field "changed_services"
      [(r.changedServices ≠ [], "List should have at least 1 item after validation, not 0"),
        itemsAtMost 100 r.changedServices] ++
    Schema.elements "flags" (fun flag => [Schema.nonEmpty flag]) 0 r.flags ++
    Schema.field "flags" [itemsAtMost 100 r.flags] ++
    Schema.field "test_coverage" (Schema.optional r.testCoverage fun x =>
      [(0 ≤ x, "Input should be greater than or equal to 0"),
        (x ≤ 1, "Input should be less than or equal to 1")]) ++
    Schema.field "observability_score" (Schema.optional r.observabilityScore fun x =>
      [(0 ≤ x, "Input should be greater than or equal to 0"),
        (x ≤ 1, "Input should be less than or equal to 1")]) ++
    Schema.field "previous_failures" (Schema.optional r.previousFailures fun n =>
      [Schema.ge 0 n, Schema.le 10000 n])

/-- The validated request, its lists without repetitions (`unique_values`). -/
def validate (r : AnalyzeChangeRequest) : Except ServiceError AnalyzeChangeRequest :=
  if r.stripped.errors = [] then
    .ok { r.stripped with
      changedServices := uniqueValues r.stripped.changedServices
      flags := uniqueValues r.stripped.flags }
  else .error (.validation r.stripped.errors)

def optionalValue {α : Type} (f : α → Value) : Option α → Value
  | none => .none
  | some x => f x

def texts (xs : List String) : Value := .list (xs.map .str)

/-- `request.model_dump(mode="json")`. -/
def modelDump (r : AnalyzeChangeRequest) : Value :=
  .dict [("title", .str r.title), ("repository", .str r.repository), ("author", .str r.author),
    ("commit_sha", optionalValue .str r.commitSha), ("branch", optionalValue .str r.branch),
    ("deployment_environment", .str r.deploymentEnvironment),
    ("files_changed", .int r.filesChanged), ("lines_added", .int r.linesAdded),
    ("lines_deleted", .int r.linesDeleted), ("changed_services", texts r.changedServices),
    ("flags", texts r.flags),
    ("test_coverage", optionalValue (fun x => .float (.finite x)) r.testCoverage),
    ("rollback_ready", optionalValue .bool r.rollbackReady),
    ("observability_score", optionalValue (fun x => .float (.finite x)) r.observabilityScore),
    ("previous_failures", optionalValue .int r.previousFailures)]

/-- What the risk engine reads of a request. -/
def riskInput (r : AnalyzeChangeRequest) (changedServices : List String) : RiskInput where
  filesChanged := r.filesChanged
  linesAdded := r.linesAdded
  linesDeleted := r.linesDeleted
  changedServices := changedServices
  flags := r.flags
  testCoverage := r.testCoverage
  rollbackReady := r.rollbackReady
  observabilityScore := r.observabilityScore
  previousFailures := r.previousFailures

end AnalyzeChangeRequest

/-- The keyword arguments of `analyze_change`. -/
structure AnalysisScope where
  workspaceId : Option String := none
  repositoryId : Option String := none
  scenarioId : Option String := none
  deriving DecidableEq

/-! ## The scenario -/

/-- `ORDER BY sort_order, id`. -/
def scenarioOrder (a b : Scenario) : Prop :=
  a.sortOrder < b.sortOrder ∨ (a.sortOrder = b.sortOrder ∧ a.id ≤ b.id)

instance : DecidableRel scenarioOrder := fun a b =>
  inferInstanceAs (Decidable (a.sortOrder < b.sortOrder ∨ (a.sortOrder = b.sortOrder ∧ a.id ≤ b.id)))

/-- The first scenario that matches. -/
def firstScenario (s : Store) (p : Scenario → Bool) : Option Scenario :=
  ((s.scenarios.select p).insertionSort scenarioOrder).head?

/-- A filter that is left out when its argument is `None`. -/
def matchesOptional (wanted : Option String) (value : String) : Bool :=
  wanted.all (· = value)

/-- The scenario is of the workspace and the repository. -/
def inScope (scope : AnalysisScope) (row : Scenario) : Bool :=
  matchesOptional scope.workspaceId row.workspaceId &&
    matchesOptional scope.repositoryId row.repositoryId

/-- The scenario is the one named, or an active one where none is. -/
def isChosen (scope : AnalysisScope) (row : Scenario) : Bool :=
  inScope scope row && match scope.scenarioId with
    | some scenarioId => row.id = scenarioId
    | none => row.isActive

/-- The chosen scenario, or the first of the workspace where none is active. -/
def chosenScenario (s : Store) (scope : AnalysisScope) : Option Scenario :=
  (firstScenario s (isChosen scope)).or
    (if scope.scenarioId = none ∧ scope.workspaceId ≠ none then firstScenario s (inScope scope)
    else none)

/-- `active_scenario`. -/
def activeScenario (s : Store) (scope : AnalysisScope) : Except ServiceError Scenario :=
  match chosenScenario s scope with
  | some scenario => .ok scenario
  | none => .error (.domain "No active scenario is configured" "active_scenario_not_found" 409)

theorem firstScenario_some {s : Store} {p : Scenario → Bool} {row : Scenario}
    (h : firstScenario s p = some row) : row ∈ s.scenarios.rows ∧ p row := by
  have hmem := List.mem_of_mem_head? h
  rwa [List.mem_insertionSort, Table.mem_select] at hmem

/-- A scenario that is chosen is a stored one of the scope. -/
theorem activeScenario_ok {s : Store} {scope : AnalysisScope} {row : Scenario}
    (h : activeScenario s scope = .ok row) : row ∈ s.scenarios.rows ∧ inScope scope row := by
  cases hchosen : chosenScenario s scope with
  | none => simp [activeScenario, hchosen] at h
  | some scenario =>
    obtain rfl : scenario = row := by simpa [activeScenario, hchosen] using h
    rcases Option.or_eq_some_iff.mp hchosen with hfirst | ⟨-, hfallback⟩
    · obtain ⟨hmem, hp⟩ := firstScenario_some hfirst
      exact ⟨hmem, ((Bool.and_eq_true ..).mp hp).1⟩
    · split at hfallback
      · exact firstScenario_some hfallback
      · cases hfallback

/-! ## The graph -/

/-- The catalog of a workspace, by id. -/
def workspaceCatalog (s : Store) (workspaceId : String) : List ServiceCatalogEntry :=
  (s.services.select fun row => row.workspaceId = workspaceId).insertionSort fun a b => a.id ≤ b.id

/-- The node of a catalog service. -/
def catalogNode (service : ServiceCatalogEntry) : Items :=
  [("id", .str service.id), ("label", .str service.name), ("kind", .str "service"),
    ("team", .str service.ownerTeam), ("tier", .str (Text.replace service.tier "_" "-")),
    ("health", .str "unknown")]

def catalogEdge (dependencyId serviceId : String) : Items :=
  [("source", .str dependencyId), ("target", .str serviceId),
    ("relation", .str "catalog-dependency"), ("confidence", .float (.finite 1)),
    ("active", .bool true)]

/-- Source, target and relation. -/
abbrev EdgeIdentity := String × String × String

/-- `nodes_by_id`: the provider's nodes under the catalog's. -/
def overlayNodes (host : Host) (catalog : List ServiceCatalogEntry) (base : ServiceGraph) :
    Dict String Items :=
  let provided := (base.nodes.filter fun node => (getItem node "id").truthy).map fun node =>
    (host.str (getItem node "id"), node)
  Dict.ofItems (provided ++ catalog.map fun service => (service.id, catalogNode service))

/-- `edges_by_identity`: the provider's edges and the catalog's dependencies. -/
def overlayEdges (host : Host) (catalog : List ServiceCatalogEntry) (base : ServiceGraph) :
    Dict EdgeIdentity Items :=
  let text (edge : Items) (key : String) := host.str (getItem edge key)
  let relation (edge : Items) :=
    host.str (firstTruthy [getItem edge "relation", .str "runtime-dependency"])
  let provided := (base.edges.filter fun edge =>
      (getItem edge "source").truthy && (getItem edge "target").truthy).map fun edge =>
    ((text edge "source", text edge "target", relation edge), edge)
  let dependencies := catalog.flatMap fun service =>
    (sortedSet service.dependencies).map fun dependencyId =>
      ((dependencyId, service.id, "catalog-dependency"), catalogEdge dependencyId service.id)
  Dict.ofItems (provided ++ dependencies)

/-- The order of edge identities. -/
def identityOrder (a b : EdgeIdentity × Items) : Prop :=
  a.1.1 < b.1.1 ∨ (a.1.1 = b.1.1 ∧
    (a.1.2.1 < b.1.2.1 ∨ (a.1.2.1 = b.1.2.1 ∧ a.1.2.2 ≤ b.1.2.2)))

instance : DecidableRel identityOrder := fun a b =>
  inferInstanceAs (Decidable (a.1.1 < b.1.1 ∨ (a.1.1 = b.1.1 ∧
    (a.1.2.1 < b.1.2.1 ∨ (a.1.2.1 = b.1.2.1 ∧ a.1.2.2 ≤ b.1.2.2)))))

/-- The topology in use: the provider's own where the workspace has no catalog. -/
def analysisTopology (host : Host) (catalog : List ServiceCatalogEntry) (base : ServiceGraph) :
    ServiceGraph :=
  if catalog = [] then base
  else
    { nodes := ((overlayNodes host catalog base).insertionSort fun a b => a.1 ≤ b.1).map Prod.snd
      edges := ((overlayEdges host catalog base).insertionSort identityOrder).map Prod.snd
      updatedAt := base.updatedAt }

/-- `service_by_reference`. -/
def serviceByReference (host : Host) (catalog : List ServiceCatalogEntry) :
    Dict String ServiceCatalogEntry :=
  Dict.ofItems (catalog.flatMap fun service =>
    [service.id, service.slug, service.name].map fun reference =>
      (host.casefold reference, service))

/-- The changed services in terms of the topology. -/
def effectiveRoots (host : Host) (catalog : List ServiceCatalogEntry)
    (repositoryId : Option String) (requestedServices : List String) :
    Except ServiceError (List String) :=
  if catalog = [] then .ok requestedServices
  else do
    let requested := requestedServices.filterMap fun reference =>
      ((serviceByReference host catalog).get? (host.casefold reference)).map (·.id)
    let owned := (catalog.filter fun service =>
      repositoryId ≠ none ∧ service.repositoryId = repositoryId).map (·.id)
    let resolved := sortedSet (requested ++ owned)
    let effective := if resolved = [] then uniqueValues requestedServices else resolved
    raiseIf (100 < effective.length)
      (.domain "Repository maps to more than 100 changed services" "analysis_service_limit" 422)
    pure effective

/-- `_canonical_topology`. -/
def canonicalTopology (host : Host) (graph : ServiceGraph) : Value :=
  let pick (keys : List String) (items : Items) : Items :=
    keys.map fun key => (key, getItem items key)
  let text (items : Items) (key : String) := host.str (getItem items key)
  let nodes := (graph.nodes.filter fun node => (getItem node "id").truthy).map
    (pick ["id", "label", "kind", "team", "tier", "health"])
  let edges := (graph.edges.filter fun edge =>
      (getItem edge "source").truthy && (getItem edge "target").truthy).map
    (pick ["source", "target", "relation", "confidence", "active"])
  .dict
    [("nodes", .list ((nodes.insertionSort fun a b => text a "id" ≤ text b "id").map .dict)),
      ("edges", .list ((edges.insertionSort fun a b =>
        identityOrder ((text a "source", text a "target", text a "relation"), a)
          ((text b "source", text b "target", text b "relation"), b)).map .dict))]

/-! ## The analysis -/

/-- What `analyze_change` has before it looks for a stored change. -/
structure Analysis where
  request : AnalyzeChangeRequest
  scenario : Scenario
  graph : ServiceGraph
  effectiveChangedServices : List String
  deriving DecidableEq

def analysisVersions : Items :=
  [("analysis_schema_version", .str analysisSchemaVersion), ("engine_version", .str engineVersion),
    ("scoring_policy_version", .str riskScoringPolicyVersion), ("graph_version", .str graphVersion)]

namespace Analysis

/-- What the digest is taken of. -/
def document (host : Host) (a : Analysis) : Value :=
  .dict [("workspace_id", .str a.scenario.workspaceId),
    ("repository_id", .str a.scenario.repositoryId),
    ("request", a.request.modelDump),
    ("effective_changed_services", AnalyzeChangeRequest.texts a.effectiveChangedServices),
    ("topology", canonicalTopology host a.graph),
    ("analysis_versions", .dict analysisVersions)]

/-- `hashlib.sha256(canonical).hexdigest()`. The topology comes from a JSON
column, so the document always has a text. -/
def digest (host : Host) (a : Analysis) : String :=
  host.sha256 ((Json.dumps host.floatRepr true (Json.sortKeys (a.document host))).getD "")

/-- `f"chg-analysis-{digest[:12]}"`. -/
def changeId (host : Host) (a : Analysis) : String :=
  s!"chg-analysis-{Text.take 12 (a.digest host)}"

end Analysis

/-- The part of `analyze_change` before the lookup. -/
def prepareAnalysis (host : Host) (s : Store) (request : AnalyzeChangeRequest)
    (scope : AnalysisScope) : Except ServiceError Analysis := do
  let scenario ← activeScenario s scope
  let catalog := workspaceCatalog s scenario.workspaceId
  let roots ← effectiveRoots host catalog scope.repositoryId request.changedServices
  pure
    { request, scenario
      graph := analysisTopology host catalog scenario.serviceGraph
      effectiveChangedServices := roots }

/-- The tier of every node. -/
def serviceTiers (ids : List String) (nodes : List Items) : Dict String Value :=
  Dict.ofItems (ids.zip (nodes.map fun node => getItemD node "tier" (.str "tier-3")))

/-- The risk and the blast radius of an analysis. -/
def runEngines (host : Host) (a : Analysis) : Except ServiceError (Risk × BlastRadius) := do
  let ids ← requireTexts host "id" a.graph.nodes
  let risk := calculateChangeRisk host (a.request.riskInput a.effectiveChangedServices)
    (serviceTiers ids a.graph.nodes) (a.changeId host)
  let blastRadius ← calculateBlastRadius host a.graph.nodes a.graph.edges
    a.effectiveChangedServices (a.changeId host)
  pure (risk, blastRadius)

/-- The row of an analysis. -/
def newChange (host : Host) (a : Analysis) (result : Risk × BlastRadius) (now : Time) :
    ChangeRecord where
  id := a.changeId host
  workspaceId := a.scenario.workspaceId
  repositoryId := a.scenario.repositoryId
  scenarioId := a.scenario.id
  dataMode := a.scenario.dataMode
  analysisSchemaVersion := analysisSchemaVersion
  engineVersion := engineVersion
  scoringPolicyVersion := riskScoringPolicyVersion
  graphVersion := graphVersion
  title := a.request.title
  repository := a.request.repository
  author := a.request.author
  commitSha := Text.orElse (a.request.commitSha.getD "") (Text.take 12 (a.digest host))
  branch := Text.orElse (a.request.branch.getD "") "analysis/manual"
  createdAt := now
  deploymentStatus := "not_deployed"
  deploymentEnvironment := a.request.deploymentEnvironment
  changedServices := a.effectiveChangedServices
  filesChanged := a.request.filesChanged
  linesAdded := a.request.linesAdded
  linesDeleted := a.request.linesDeleted
  flags := a.request.flags
  testCoverage := a.request.testCoverage
  rollbackReady := a.request.rollbackReady
  observabilityScore := a.request.observabilityScore
  previousFailures := a.request.previousFailures
  risk := result.1
  blastRadius := result.2

/-- The part of `analyze_change` after the lookup: what a fresh analysis gives. -/
def computeChange (host : Host) (a : Analysis) (now : Time) : Except ServiceError ChangeRecord := do
  let result ← runEngines host a
  pure (newChange host a result now)

/-- `session.add(record)` and its commit. -/
def commitChange (record : ChangeRecord) : DatabaseCall ChangeRecord := do
  match ← read fun s => s.changes.insert record with
  | some changes =>
    write fun s => { s with changes := changes }
    commit
    pure record
  | none => raise .integrityError

/-- The stored change, or a fresh one. -/
def reuseOrCompute (host : Host) (a : Analysis) (now : Time) : DatabaseCall ChangeRecord := do
  match ← read fun s => s.changes.get? (a.changeId host) with
  | some existing => pure existing
  | none =>
    let record ← lift (computeChange host a now)
    commitChange record

/-- `analyze_change`. -/
def analyzeChange (host : Host) (request : AnalyzeChangeRequest) (scope : AnalysisScope)
    (now : Time) : DatabaseCall ChangeRecord := do
  let a ← query fun s => prepareAnalysis host s request scope
  reuseOrCompute host a now

/-! ## What a call does -/

section Calls

variable {host : Host} {a : Analysis} {now : Time} {s s' : State Store} {record : ChangeRecord}

theorem computeChange_ok (h : computeChange host a now = .ok record) :
    ∃ result, runEngines host a = .ok result ∧ record = newChange host a result now := by
  obtain ⟨result, hresult, h⟩ := Raise.bind_eq_ok.mp h
  exact ⟨result, hresult, (Raise.pure_eq_ok.mp h).symm⟩

/-- The stored change comes back as it is. -/
theorem reuseOrCompute_stored {existing : ChangeRecord}
    (h : s.cur.changes.get? (a.changeId host) = some existing) :
    reuseOrCompute host a now s = (.ok existing, s) := by
  rw [reuseOrCompute, read_bind_apply, h]
  rfl

theorem reuseOrCompute_error {e : ServiceError}
    (h : s.cur.changes.get? (a.changeId host) = none) (he : computeChange host a now = .error e) :
    reuseOrCompute host a now s = (.error e, s) := by
  rw [reuseOrCompute, read_bind_apply, h]
  exact Call.lift_error_bind he

/-- A new change is stored in one commit. -/
theorem reuseOrCompute_new (h : s.cur.changes.get? (a.changeId host) = none)
    (hrecord : computeChange host a now = .ok record) :
    ∃ changes, s.cur.changes.insert record = some changes ∧
      reuseOrCompute host a now s =
        (.ok record, (s.written fun t => { t with changes := changes }).committed) := by
  have hid : record.id = a.changeId host := by
    obtain ⟨result, -, rfl⟩ := computeChange_ok hrecord
    rfl
  obtain ⟨changes, hinsert⟩ := Table.insert_of_free (t := s.cur.changes) (r := record) (hid ▸ h)
  refine ⟨changes, hinsert, ?_⟩
  rw [reuseOrCompute, read_bind_apply, h]
  show (lift (computeChange host a now) >>= commitChange) s = _
  rw [Call.lift_ok_bind hrecord, commitChange, read_bind_apply, hinsert]
  rfl

/-- A call that returns gives the stored change, or stores the one it computes. -/
theorem analyzeChange_ok {request : AnalyzeChangeRequest} {scope : AnalysisScope}
    (h : analyzeChange host request scope now s = (.ok record, s')) :
    ∃ a, prepareAnalysis host s.cur request scope = .ok a ∧
      ((s.cur.changes.get? (a.changeId host) = some record ∧ s' = s) ∨
        ∃ changes, computeChange host a now = .ok record ∧
          s.cur.changes.insert record = some changes ∧
          s' = (s.written fun t => { t with changes := changes }).committed) := by
  obtain ⟨a, ha, h⟩ := Call.query_bind_eq_ok.mp h
  refine ⟨a, ha, ?_⟩
  cases hget : s.cur.changes.get? (a.changeId host) with
  | some existing =>
    rw [reuseOrCompute_stored hget] at h
    obtain ⟨heq, rfl⟩ := Prod.mk.inj h
    exact Or.inl ⟨congrArg some (Except.ok.inj heq), rfl⟩
  | none =>
    cases hcompute : computeChange host a now with
    | error e =>
      rw [reuseOrCompute_error hget hcompute] at h
      cases h
    | ok fresh =>
      obtain ⟨changes, hinsert, hrun⟩ := reuseOrCompute_new hget hcompute
      obtain ⟨heq, rfl⟩ := Prod.mk.inj (hrun.symm.trans h)
      obtain rfl := Except.ok.inj heq
      exact Or.inr ⟨changes, rfl, hinsert, rfl⟩

end Calls

end DeployGuard.Service
