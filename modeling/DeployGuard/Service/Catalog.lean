import DeployGuard.Lib.DepthFirst
import DeployGuard.Lib.Transition
import DeployGuard.Service.Store

/-!
# The service catalog

`create_service` and `update_service`, with the check of the dependencies both
make. The check works on the graph of the workspace with the requested edges in
place of those the service has, so what it accepts is the graph the write leaves
behind:

> `CatalogWellFormed`: in no workspace can a service reach itself along its
> dependencies, and a dependency is a service of the same workspace.

`catalog_acyclic` carries it over every run, and says when an update is refused as
a cycle.
-/

namespace DeployGuard.Service

open Raise Relation Session Session.Call Transition

/-! ## Requests -/

/-- `ServiceCreate`. -/
structure ServiceCreate where
  name : String
  slug : String
  description : String
  tier : String
  lifecycle : String
  ownerTeam : String
  repositoryId : Option String
  dependencies : List String
  runbookUrl : Option String
  tags : List String
  deriving DecidableEq

/-- `ServiceUpdate`, with `none` for a field that is not set. The schema refuses
`null` in a field that is set, but for the repository and the runbook. -/
structure ServiceUpdate where
  name : Option String
  slug : Option String
  description : Option String
  tier : Option String
  lifecycle : Option String
  ownerTeam : Option String
  repositoryId : Option (Option String)
  dependencies : Option (List String)
  runbookUrl : Option (Option String)
  tags : Option (List String)
  deriving DecidableEq

/-- `sorted(changes)`. -/
def ServiceUpdate.fields (payload : ServiceUpdate) : List String :=
  (if payload.dependencies.isSome then ["dependencies"] else []) ++
    (if payload.description.isSome then ["description"] else []) ++
    (if payload.lifecycle.isSome then ["lifecycle"] else []) ++
    (if payload.name.isSome then ["name"] else []) ++
    (if payload.ownerTeam.isSome then ["owner_team"] else []) ++
    (if payload.repositoryId.isSome then ["repository_id"] else []) ++
    (if payload.runbookUrl.isSome then ["runbook_url"] else []) ++
    (if payload.slug.isSome then ["slug"] else []) ++
    (if payload.tags.isSome then ["tags"] else []) ++
    (if payload.tier.isSome then ["tier"] else [])

/-- A call of `create_service`. -/
structure CreateService where
  userId : String
  workspaceId : String
  payload : ServiceCreate
  requestId : String
  newId : String
  now : Time
  deriving DecidableEq

/-- A call of `update_service`. -/
structure UpdateService where
  userId : String
  serviceId : String
  payload : ServiceUpdate
  requestId : String
  now : Time
  deriving DecidableEq

/-! ## The dependency check -/

def slugExists : ServiceError := .domain "Service slug is already in use" "service_slug_exists" 409

def selfDependency : ServiceError :=
  .domain "A service cannot depend on itself" "service_self_dependency" 422

def invalidDependency : ServiceError :=
  .domain "Every dependency must reference a service in this workspace"
    "invalid_service_dependency" 422

def dependencyCycle : ServiceError :=
  .domain "Service dependencies must not contain cycles" "service_dependency_cycle" 422

/-- The services of a workspace with their dependencies. -/
def dependencyGraph (s : Store) (workspaceId : String) : Dict String (List String) :=
  (s.services.select fun row => row.workspaceId = workspaceId).map fun row =>
    (row.id, row.dependencies)

/-- `graph.get(node_id, [])`. -/
def successors (graph : Dict String (List String)) (id : String) : List String :=
  (graph.get? id).getD []

/-- The services of a graph and what they name. -/
def graphNodes (graph : Dict String (List String)) : List String :=
  graph.flatMap fun item => item.1 :: item.2

/-- `for current_id in graph: visit(current_id)`. -/
def visitServices (graph : Dict String (List String)) : Except ServiceError Unit :=
  match DepthFirst.search (successors graph) ((graphNodes graph).length + 1) graph.keys with
  | .ok _ => .ok ()
  | .error .cycle => .error dependencyCycle
  | .error .exhausted => .error .recursionError

/-- `_validate_service_dependencies`. -/
def validateServiceDependencies (s : Store) (workspaceId serviceId : String)
    (dependencies : List String) : Except ServiceError Unit := do
  raiseIf (serviceId ∈ dependencies) selfDependency
  raiseIf (¬∀ id ∈ dependencies, id ∈ (dependencyGraph s workspaceId).keys) invalidDependency
  visitServices ((dependencyGraph s workspaceId).set serviceId dependencies)

/-! ## The operations -/

/-- Another service of the workspace has the slug. -/
def slugTaken (s : Store) (workspaceId slug : String) (other : String → Bool) : Bool :=
  s.services.rows.any fun row => row.workspaceId = workspaceId && row.slug = slug && other row.id

def serviceAudit (workspaceId userId action resourceId requestId : String) (metadata : Items)
    (now : Time) : AuditEvent where
  workspaceId := workspaceId
  actorUserId := some userId
  action := action
  resourceType := "service"
  resourceId := resourceId
  requestId := requestId
  metadata := metadata
  createdAt := now

namespace CreateService

variable (host : Host) (q : CreateService)

def slug : String := host.lower (Text.strip q.payload.slug)

/-- What is checked before the row is added. -/
def check (s : Store) : Except ServiceError Unit := do
  let _ ← membershipFor s q.userId q.workspaceId "admin"
  raiseIf (slugTaken s q.workspaceId (q.slug host) fun id => id ≠ "") slugExists
  let _ ← repositoryForWorkspace s q.workspaceId q.payload.repositoryId
  validateServiceDependencies s q.workspaceId q.newId q.payload.dependencies

def record : ServiceCatalogEntry where
  id := q.newId
  workspaceId := q.workspaceId
  name := Text.strip q.payload.name
  slug := q.slug host
  description := Text.strip q.payload.description
  tier := q.payload.tier
  lifecycle := q.payload.lifecycle
  ownerTeam := Text.strip q.payload.ownerTeam
  repositoryId := q.payload.repositoryId
  dependencies := q.payload.dependencies
  runbookUrl := q.payload.runbookUrl
  tags := q.payload.tags
  createdAt := q.now
  updatedAt := q.now

def audit : AuditEvent :=
  serviceAudit q.workspaceId q.userId "service.created" q.newId q.requestId
    [("slug", .str (q.slug host))] q.now

end CreateService

/-- `create_service`. -/
def createService (host : Host) (q : CreateService) : DatabaseCall ServiceCatalogEntry := do
  query (q.check host)
  match ← read fun s => s.services.insert (q.record host) with
  | some services =>
    write fun s => { s with services := services }.audit (q.audit host)
    commit
    pure (q.record host)
  | none =>
    rollback
    raise slugExists

namespace UpdateService

variable (host : Host) (q : UpdateService)

/-- `changes["slug"]`. -/
def slug : Option String := q.payload.slug.map fun slug => host.lower (Text.strip slug)

/-- The service, with the checks of everything but the dependencies. -/
def prepare (s : Store) : Except ServiceError ServiceCatalogEntry := do
  match s.services.get? q.serviceId with
  | none => .error (.domain "Service not found" "service_not_found" 404)
  | some record =>
    let _ ← membershipFor s q.userId record.workspaceId "admin"
    raiseIf ((q.slug host).any fun slug =>
      slugTaken s record.workspaceId slug fun id => id ≠ record.id) slugExists
    let _ ← repositoryForWorkspace s record.workspaceId (q.payload.repositoryId.getD none)
    pure record

/-- The dependencies, if they are to change. -/
def checkDependencies (s : Store) (record : ServiceCatalogEntry) : Except ServiceError Unit :=
  match q.payload.dependencies with
  | some dependencies =>
    validateServiceDependencies s record.workspaceId record.id dependencies
  | none => .ok ()

/-- What is checked before the row is changed. -/
def check (s : Store) : Except ServiceError ServiceCatalogEntry := do
  let record ← q.prepare host s
  q.checkDependencies s record
  pure record

/-- `setattr(record, field, value)` for every field that is set. -/
def assign (record : ServiceCatalogEntry) : ServiceCatalogEntry :=
  { record with
    name := (q.payload.name.map Text.strip).getD record.name
    slug := (q.slug host).getD record.slug
    description := (q.payload.description.map Text.strip).getD record.description
    tier := q.payload.tier.getD record.tier
    lifecycle := q.payload.lifecycle.getD record.lifecycle
    ownerTeam := (q.payload.ownerTeam.map Text.strip).getD record.ownerTeam
    repositoryId := q.payload.repositoryId.getD record.repositoryId
    dependencies := q.payload.dependencies.getD record.dependencies
    runbookUrl := q.payload.runbookUrl.getD record.runbookUrl
    tags := q.payload.tags.getD record.tags
    updatedAt := q.now }

/-- An update keeps the entry's id. -/
@[simp] theorem assign_id (record : ServiceCatalogEntry) : (q.assign host record).id = record.id :=
  rfl

/-- An update keeps the entry's workspace. -/
@[simp] theorem assign_workspaceId (record : ServiceCatalogEntry) :
    (q.assign host record).workspaceId = record.workspaceId := rfl

def audit (record : ServiceCatalogEntry) : AuditEvent :=
  serviceAudit record.workspaceId q.userId "service.updated" record.id q.requestId
    [("fields", .list (q.payload.fields.map .str))] q.now

/-- The writes. -/
def store (record : ServiceCatalogEntry) (s : Store) : Store :=
  { s with
    services := s.services.updateWhere (fun row => row.id = record.id) (q.assign host)
      (q.assign_id host) }.audit (q.audit record)

end UpdateService

/-- `update_service`. The unique constraint on slugs, which a commit could fail,
repeats what was checked in the same session. -/
def updateService (host : Host) (q : UpdateService) : DatabaseCall ServiceCatalogEntry := do
  let record ← query (q.check host)
  write (q.store host record)
  commit
  pure (q.assign host record)

/-! ## The catalog as a graph -/

/-- In the workspace, `a` names `b` as a dependency. -/
def DependsOn (s : Store) (workspaceId a b : String) : Prop :=
  ∃ row ∈ s.services.rows, row.workspaceId = workspaceId ∧ row.id = a ∧ b ∈ row.dependencies

def IsService (s : Store) (workspaceId id : String) : Prop :=
  ∃ row ∈ s.services.rows, row.workspaceId = workspaceId ∧ row.id = id

structure CatalogWellFormed (s : Store) : Prop where
  acyclic : ∀ workspaceId id, ¬TransGen (DependsOn s workspaceId) id id
  closed : ∀ workspaceId a b, DependsOn s workspaceId a b → IsService s workspaceId b

/-- The graph of the workspace with the edges of one service replaced. -/
def Substituted (s : Store) (workspaceId id : String) (dependencies : List String) (a b : String) :
    Prop :=
  if a = id then b ∈ dependencies else DependsOn s workspaceId a b

/-- No service depends on itself, directly or not. -/
theorem CatalogWellFormed.not_self {s : Store} (h : CatalogWellFormed s) (workspaceId id : String) :
    ¬DependsOn s workspaceId id id := by
  intro hself
  exact h.acyclic workspaceId id (TransGen.single hself)

section Graph

variable {s : Store} {workspaceId id a b : String} {dependencies : List String}
  {graph : Dict String (List String)}

/-- The graph has the workspace's services for its keys. -/
theorem keys_dependencyGraph : (dependencyGraph s workspaceId).keys =
    (s.services.select fun row => row.workspaceId = workspaceId).map (·.id) := by
  rw [Dict.keys, dependencyGraph, List.map_map]
  rfl

/-- A key of the graph is a service of the workspace. -/
theorem mem_keys_dependencyGraph :
    id ∈ (dependencyGraph s workspaceId).keys ↔ IsService s workspaceId id := by
  rw [keys_dependencyGraph, List.mem_map]
  constructor
  · intro h
    obtain ⟨row, hrow, hid⟩ := h
    obtain ⟨hmem, hworkspace⟩ := Table.mem_select.mp hrow
    exact ⟨row, hmem, of_decide_eq_true hworkspace, hid⟩
  · intro h
    obtain ⟨row, hmem, hworkspace, hid⟩ := h
    exact ⟨row, Table.mem_select.mpr ⟨hmem, decide_eq_true hworkspace⟩, hid⟩

/-- The graph lists no service twice. -/
theorem nodup_keys_dependencyGraph : (dependencyGraph s workspaceId).keys.Nodup := by
  rw [keys_dependencyGraph]
  exact s.services.nodup.sublist (List.filter_sublist.map _)

/-- The dictionary holds the dependencies. -/
theorem mem_successors_dependencyGraph :
    b ∈ successors (dependencyGraph s workspaceId) a ↔ DependsOn s workspaceId a b := by
  have hmem : ∀ deps, (a, deps) ∈ dependencyGraph s workspaceId ↔
      ∃ row ∈ s.services.rows, row.workspaceId = workspaceId ∧ row.id = a ∧
        row.dependencies = deps := by
    intro deps
    rw [dependencyGraph, List.mem_map]
    constructor
    · intro h
      obtain ⟨row, hrow, heq⟩ := h
      obtain ⟨hrow, hworkspace⟩ := Table.mem_select.mp hrow
      obtain ⟨hid, hdeps⟩ := Prod.mk.inj heq
      exact ⟨row, hrow, of_decide_eq_true hworkspace, hid, hdeps⟩
    · intro h
      obtain ⟨row, hrow, hworkspace, hid, hdeps⟩ := h
      exact ⟨row, Table.mem_select.mpr ⟨hrow, decide_eq_true hworkspace⟩, by rw [hid, hdeps]⟩
  unfold successors
  cases hget : (dependencyGraph s workspaceId).get? a with
  | none =>
    rw [Option.getD_none]
    -- no entry under this id: then no service of the workspace has it
    refine iff_of_false List.not_mem_nil fun h => ?_
    obtain ⟨row, hrow, hworkspace, hid, -⟩ := h
    have hitem := (hmem row.dependencies).mpr ⟨row, hrow, hworkspace, hid, rfl⟩
    rw [(Dict.get?_eq_some nodup_keys_dependencyGraph).mpr hitem] at hget
    cases hget
  | some deps =>
    rw [Option.getD_some]
    have hitem := (Dict.get?_eq_some nodup_keys_dependencyGraph).mp hget
    constructor
    · intro hb
      obtain ⟨row, hrow, hworkspace, hid, hdeps⟩ := (hmem deps).mp hitem
      exact ⟨row, hrow, hworkspace, hid, hdeps ▸ hb⟩
    · intro h
      obtain ⟨row, hrow, hworkspace, hid, hb⟩ := h
      have hitem' := (hmem row.dependencies).mpr ⟨row, hrow, hworkspace, hid, rfl⟩
      -- the ids of the graph are distinct, so the entry found is this service's
      have hsame := (Dict.get?_eq_some nodup_keys_dependencyGraph).mpr hitem'
      rw [hget, Option.some.injEq] at hsame
      rw [hsame]
      exact hb

/-- The graph that is searched is the substituted one. -/
theorem mem_successors_set :
    b ∈ successors ((dependencyGraph s workspaceId).set id dependencies) a ↔
      Substituted s workspaceId id dependencies a b := by
  unfold Substituted
  rw [successors, Dict.get?_set]
  by_cases ha : id = a
  · rw [if_pos ha, if_pos ha.symm, Option.getD_some]
  · rw [if_neg ha, if_neg fun h => ha h.symm]
    exact mem_successors_dependencyGraph

/-- The search has the fuel, and its roots are all the services with edges. -/
theorem visitServices_cases :
    (visitServices graph = .error dependencyCycle ∧ DepthFirst.HasCycle (successors graph)) ∨
      (visitServices graph = .ok () ∧ ¬DepthFirst.HasCycle (successors graph)) := by
  have hitem : ∀ {a b : String}, b ∈ successors graph a →
      ∃ deps, (a, deps) ∈ graph ∧ b ∈ deps := by
    intro a b hb
    unfold successors at hb
    cases hget : graph.get? a with
    | none =>
      rw [hget] at hb
      cases hb
    | some deps =>
      rw [hget] at hb
      exact ⟨deps, Dict.mem_of_get? hget, hb⟩
  -- The search stays among the nodes of the graph, so its fuel is enough.
  have hclosed : ∀ a ∈ graphNodes graph, ∀ b ∈ successors graph a, b ∈ graphNodes graph := by
    intro a _ b hb
    obtain ⟨deps, hmem, hb⟩ := hitem hb
    exact List.mem_flatMap.mpr ⟨_, hmem, List.mem_cons_of_mem _ hb⟩
  have hroots : ∀ a ∈ graph.keys, a ∈ graphNodes graph := by
    intro a ha
    obtain ⟨item, hmem, rfl⟩ := List.mem_map.mp ha
    exact List.mem_flatMap.mpr ⟨item, hmem, List.mem_cons_self ..⟩
  -- A node with successors is a key, so no cycle is missed by starting at the keys.
  have hall : ∀ a, successors graph a ≠ [] → a ∈ graph.keys := by
    intro a ha
    obtain ⟨b, hb⟩ := List.exists_mem_of_ne_nil _ ha
    obtain ⟨deps, hmem, -⟩ := hitem hb
    exact List.mem_map.mpr ⟨_, hmem, rfl⟩
  unfold visitServices
  rcases DepthFirst.search_decides hclosed hroots (Nat.lt_succ_self _) hall with
    ⟨hfound, hcycle⟩ | ⟨⟨marks, hfound⟩, hacyclic⟩
  · exact Or.inl ⟨by rw [hfound], hcycle⟩
  · exact Or.inr ⟨by rw [hfound], hacyclic⟩

/-- A cycle of the substituted graph. -/
def SubstitutedCycle (s : Store) (workspaceId id : String) (dependencies : List String) : Prop :=
  ∃ a, TransGen (Substituted s workspaceId id dependencies) a a

/-- Substituting one service's dependencies closes a cycle as the stored rows would. -/
theorem hasCycle_set :
    DepthFirst.HasCycle (successors ((dependencyGraph s workspaceId).set id dependencies)) ↔
      SubstitutedCycle s workspaceId id dependencies := by
  have hedge : DepthFirst.Edge (successors ((dependencyGraph s workspaceId).set id dependencies)) =
      Substituted s workspaceId id dependencies := by
    funext a b
    exact propext mem_successors_set
  rw [DepthFirst.HasCycle, hedge]
  exact Iff.rfl

/-- The check, for a service that does not name itself and names services of its
workspace only. -/
theorem validate_eq (hself : id ∉ dependencies)
    (hvalid : ∀ d ∈ dependencies, IsService s workspaceId d) :
    (validateServiceDependencies s workspaceId id dependencies = .error dependencyCycle ∧
        SubstitutedCycle s workspaceId id dependencies) ∨
      (validateServiceDependencies s workspaceId id dependencies = .ok () ∧
        ¬SubstitutedCycle s workspaceId id dependencies) := by
  have hknown : ∀ d ∈ dependencies, d ∈ (dependencyGraph s workspaceId).keys := by
    intro d hd
    exact mem_keys_dependencyGraph.mpr (hvalid d hd)
  rw [validateServiceDependencies, raiseIf_neg hself, bind_ok, raiseIf_neg (not_not.mpr hknown),
    bind_ok, ← hasCycle_set]
  exact visitServices_cases

/-- What the check has established when it passes. -/
structure Accepted (s : Store) (workspaceId id : String) (dependencies : List String) : Prop where
  not_self : id ∉ dependencies
  valid : ∀ d ∈ dependencies, IsService s workspaceId d
  acyclic : ¬SubstitutedCycle s workspaceId id dependencies

/-- Dependencies that pass are known services and close no cycle. -/
theorem validate_ok (h : validateServiceDependencies s workspaceId id dependencies = .ok ()) :
    Accepted s workspaceId id dependencies := by
  have hchecks := h
  obtain ⟨_, hself, hrest⟩ := Raise.bind_eq_ok.mp hchecks
  obtain ⟨_, hknown, -⟩ := Raise.bind_eq_ok.mp hrest
  have hself' : id ∉ dependencies := raiseIf_eq_ok.mp hself
  have hvalid : ∀ d ∈ dependencies, IsService s workspaceId d := by
    intro d hd
    exact mem_keys_dependencyGraph.mp (not_not.mp (raiseIf_eq_ok.mp hknown) d hd)
  rcases validate_eq hself' hvalid with ⟨hcycle, -⟩ | ⟨-, hacyclic⟩
  · rw [h] at hcycle
    cases hcycle
  · exact ⟨hself', hvalid, hacyclic⟩

/-! ## The writes -/

/-- `t` has the services of `s`, and one of them has other dependencies. -/
structure Rewired (s t : Store) (workspaceId id : String) (dependencies : List String) : Prop where
  edges : ∀ a b, DependsOn t workspaceId a b → Substituted s workspaceId id dependencies a b
  other : ∀ w ≠ workspaceId, ∀ a b, DependsOn t w a b → DependsOn s w a b
  kept : ∀ w a, IsService s w a → IsService t w a

/-- Rewiring one service with accepted dependencies keeps the catalog acyclic. -/
theorem CatalogWellFormed.rewired {t : Store} (h : CatalogWellFormed s)
    (hr : Rewired s t workspaceId id dependencies)
    (ha : Accepted s workspaceId id dependencies) : CatalogWellFormed t where
  acyclic := by
    intro w a hcycle
    by_cases hw : w = workspaceId
    · subst hw
      exact ha.acyclic ⟨a, TransGen.mono hr.edges a a hcycle⟩
    · exact h.acyclic w a (TransGen.mono (hr.other w hw) a a hcycle)
  closed := by
    intro w a b hedge
    by_cases hw : w = workspaceId
    · subst hw
      have hsub : Substituted s w id dependencies a b := hr.edges a b hedge
      unfold Substituted at hsub
      by_cases hid : a = id
      · rw [if_pos hid] at hsub
        exact hr.kept w b (ha.valid b hsub)
      · rw [if_neg hid] at hsub
        exact hr.kept w b (h.closed w a b hsub)
    · exact hr.kept w b (h.closed w a b (hr.other w hw a b hedge))

/-- The catalog's well-formedness depends on the services alone. -/
theorem CatalogWellFormed.congr {t : Store} (h : CatalogWellFormed s)
    (hrows : t.services.rows = s.services.rows) : CatalogWellFormed t := by
  have hdepends : DependsOn t = DependsOn s := by
    funext w a b
    rw [DependsOn, hrows]
    rfl
  have hservice : IsService t = IsService s := by
    funext w a
    rw [IsService, hrows]
    rfl
  exact ⟨hdepends ▸ h.acyclic, by rw [hdepends, hservice]; exact h.closed⟩

end Graph

/-! ## The operations -/

section Operations

variable {host : Host} {s : Store}

/-- `create_service`: refused without a trace, or the row is added. -/
theorem createService_cases (host : Host) (s : Store) (q : CreateService) :
    (∃ e, (createService host q).run s = (.error e, s)) ∨
      ∃ services, s.services.insert (q.record host) = some services ∧
        Accepted s q.workspaceId q.newId q.payload.dependencies ∧
        (createService host q).run s = (.ok (q.record host),
          Store.audit (q.audit host) { s with services := services }) := by
  cases hcheck : q.check host s with
  | error e => exact Or.inl ⟨e, run_eq (query_error_bind hcheck)⟩
  | ok u =>
    have hvalid : validateServiceDependencies s q.workspaceId q.newId q.payload.dependencies =
        .ok () := by
      obtain ⟨_, -, hrest⟩ := Raise.bind_eq_ok.mp hcheck
      obtain ⟨_, -, hrest⟩ := Raise.bind_eq_ok.mp hrest
      obtain ⟨_, -, hrest⟩ := Raise.bind_eq_ok.mp hrest
      exact hrest
    cases hinsert : s.services.insert (q.record host) with
    | none =>
      refine Or.inl ⟨slugExists, run_eq (s := (State.start s).rolledBack) ?_⟩
      rw [createService, query_ok_bind hcheck, read_bind_apply, State.start_cur, hinsert]
      rfl
    | some services =>
      refine Or.inr ⟨services, rfl, validate_ok hvalid, ?_⟩
      have hrun : createService host q (State.start s) =
          (.ok (q.record host), ((State.start s).written fun t =>
            Store.audit (q.audit host) { t with services := services }).committed) := by
        rw [createService, query_ok_bind hcheck, read_bind_apply, State.start_cur, hinsert]
        rfl
      exact run_eq hrun

/-- `update_service`: refused without a trace, or the row is changed. -/
theorem updateService_cases (host : Host) (s : Store) (q : UpdateService) :
    (∃ e, q.check host s = .error e ∧ (updateService host q).run s = (.error e, s)) ∨
      ∃ record, q.check host s = .ok record ∧
        (updateService host q).run s = (.ok (q.assign host record), q.store host record s) := by
  cases hcheck : q.check host s with
  | error e => exact Or.inl ⟨e, rfl, run_eq (query_error_bind hcheck)⟩
  | ok record =>
    have hrun : updateService host q (State.start s) =
        (.ok (q.assign host record), ((State.start s).written (q.store host record)).committed) := by
      rw [updateService, query_ok_bind hcheck]
      rfl
    exact Or.inr ⟨record, rfl, run_eq hrun⟩

/-- The service an update is for is one of the catalog. -/
theorem UpdateService.prepare_ok {q : UpdateService} {record : ServiceCatalogEntry}
    (h : q.prepare host s = .ok record) : s.services.get? q.serviceId = some record := by
  unfold UpdateService.prepare at h
  cases hget : s.services.get? q.serviceId with
  | none =>
    rw [hget] at h
    cases h
  | some row =>
    rw [hget] at h
    obtain ⟨_, -, h⟩ := Raise.bind_eq_ok.mp h
    obtain ⟨_, -, h⟩ := Raise.bind_eq_ok.mp h
    obtain ⟨_, -, h⟩ := Raise.bind_eq_ok.mp h
    rw [Raise.pure_eq_ok.mp h]

/-- A new service rewires itself only. -/
theorem rewired_create {q : CreateService} {services : Table ServiceCatalogEntry.id}
    (hinsert : s.services.insert (q.record host) = some services) :
    Rewired s (Store.audit (q.audit host) { s with services := services }) q.workspaceId q.newId
      q.payload.dependencies := by
  obtain ⟨hfree, hrows⟩ := Table.insert_eq_some hinsert
  have hcases : ∀ w a b,
      DependsOn (Store.audit (q.audit host) { s with services := services }) w a b →
        DependsOn s w a b ∨ (w = q.workspaceId ∧ a = q.newId ∧ b ∈ q.payload.dependencies) := by
    intro w a b h
    obtain ⟨row, hrow, hworkspace, hid, hb⟩ := h
    have hrow' : row ∈ s.services.rows ++ [q.record host] := hrows ▸ hrow
    rcases List.mem_append.mp hrow' with hold | hnew
    · exact Or.inl ⟨row, hold, hworkspace, hid, hb⟩
    · rw [List.mem_singleton.mp hnew] at hworkspace hid hb
      exact Or.inr ⟨hworkspace.symm, hid.symm, hb⟩
  refine ⟨fun a b h => ?_, fun w hw a b h => ?_, fun w a h => ?_⟩
  · unfold Substituted
    rcases hcases _ a b h with hold | ⟨-, ha, hb⟩
    · -- the identifier is new, so no service had edges under it
      have hne : a ≠ q.newId := by
        obtain ⟨row, hrow, -, hid, -⟩ := hold
        exact hid ▸ Table.get?_eq_none.mp hfree row hrow
      rw [if_neg hne]
      exact hold
    · rw [if_pos ha]
      exact hb
  · rcases hcases w a b h with hold | ⟨hsame, -, -⟩
    · exact hold
    · exact absurd hsame hw
  · obtain ⟨row, hrow, hservice⟩ := h
    refine ⟨row, ?_, hservice⟩
    show row ∈ services.rows
    rw [hrows]
    exact List.mem_append_left _ hrow

/-- An update changes the row of its service only. -/
theorem UpdateService.mem_store {q : UpdateService} {record row' : ServiceCatalogEntry} :
    row' ∈ (q.store host record s).services.rows ↔
      ∃ row ∈ s.services.rows, (if row.id = record.id then q.assign host row else row) = row' := by
  show row' ∈ (s.services.updateWhere (fun row => row.id = record.id) (q.assign host)
    (q.assign_id host)).rows ↔ _
  rw [Table.mem_updateWhere]
  simp only [decide_eq_true_eq]

/-- The edges of the services after an update. -/
theorem dependsOn_update {q : UpdateService} {record : ServiceCatalogEntry} {w a b : String}
    (hget : s.services.get? q.serviceId = some record)
    (h : DependsOn (q.store host record s) w a b) :
    (a ≠ record.id ∧ DependsOn s w a b) ∨
      (a = record.id ∧ w = record.workspaceId ∧
        b ∈ q.payload.dependencies.getD record.dependencies) := by
  obtain ⟨row', hrow', hworkspace, hid, hb⟩ := h
  obtain ⟨row, hrow, rfl⟩ := UpdateService.mem_store.mp hrow'
  by_cases hsame : row.id = record.id
  · rw [if_pos hsame] at hworkspace hid hb
    have hrecord : row = record :=
      s.services.eq_of_key_eq hrow (Table.mem_of_get? hget) hsame
    subst hrecord
    exact Or.inr ⟨hid.symm, hworkspace.symm, hb⟩
  · rw [if_neg hsame] at hworkspace hid hb
    exact Or.inl ⟨hid ▸ hsame, row, hrow, hworkspace, hid, hb⟩

/-- An update removes no service. -/
theorem isService_update {q : UpdateService} {record : ServiceCatalogEntry} {w a : String}
    (h : IsService s w a) : IsService (q.store host record s) w a := by
  obtain ⟨row, hrow, hworkspace, hid⟩ := h
  refine ⟨_, UpdateService.mem_store.mpr ⟨row, hrow, rfl⟩, ?_, ?_⟩
  · split
    · exact hworkspace
    · exact hworkspace
  · split
    · exact hid
    · exact hid

/-- An update rewires its service only. -/
theorem rewired_update {q : UpdateService} {record : ServiceCatalogEntry}
    (hget : s.services.get? q.serviceId = some record) :
    Rewired s (q.store host record s) record.workspaceId record.id
      (q.payload.dependencies.getD record.dependencies) := by
  refine ⟨fun a b h => ?_, fun w hw a b h => ?_, fun w a h => isService_update h⟩
  · unfold Substituted
    rcases dependsOn_update hget h with ⟨hne, hold⟩ | ⟨ha, -, hb⟩
    · rw [if_neg hne]
      exact hold
    · rw [if_pos ha]
      exact hb
  · rcases dependsOn_update hget h with ⟨-, hold⟩ | ⟨-, hsame, -⟩
    · exact hold
    · exact absurd hsame hw

/-- The dependencies a service has are accepted as they are. -/
theorem CatalogWellFormed.accepted {record : ServiceCatalogEntry} (h : CatalogWellFormed s)
    (hmem : record ∈ s.services.rows) :
    Accepted s record.workspaceId record.id record.dependencies := by
  have hedge : ∀ d ∈ record.dependencies, DependsOn s record.workspaceId record.id d := by
    intro d hd
    exact ⟨record, hmem, rfl, rfl, hd⟩
  refine ⟨fun hself => h.not_self _ _ (hedge _ hself), fun d hd => h.closed _ _ _ (hedge d hd), ?_⟩
  intro hcycle
  obtain ⟨a, hcycle⟩ := hcycle
  refine h.acyclic record.workspaceId a (TransGen.mono (fun b c hbc => ?_) a a hcycle)
  unfold Substituted at hbc
  by_cases hb : b = record.id
  · rw [if_pos hb] at hbc
    exact hb ▸ hedge c hbc
  · rw [if_neg hb] at hbc
    exact hbc

/-- Creating a service keeps the catalog well formed. -/
theorem CatalogWellFormed.createService (h : CatalogWellFormed s) (q : CreateService) :
    CatalogWellFormed ((Service.createService host q).run s).2 := by
  rcases createService_cases host s q with ⟨e, hrun⟩ |
    ⟨services, hinsert, haccepted, hrun⟩
  · rw [hrun]
    exact h
  · rw [hrun]
    exact h.rewired (rewired_create hinsert) haccepted

/-- Updating a service keeps the catalog well formed. -/
theorem CatalogWellFormed.updateService (h : CatalogWellFormed s) (q : UpdateService) :
    CatalogWellFormed ((Service.updateService host q).run s).2 := by
  rcases updateService_cases host s q with ⟨e, -, hrun⟩ | ⟨record, hcheck, hrun⟩
  · rw [hrun]
    exact h
  · rw [hrun]
    obtain ⟨record', hprepare, hcheck⟩ := Raise.bind_eq_ok.mp hcheck
    obtain ⟨_, hdependencies, hcheck⟩ := Raise.bind_eq_ok.mp hcheck
    obtain rfl := Raise.pure_eq_ok.mp hcheck
    have hget : s.services.get? q.serviceId = some record' := UpdateService.prepare_ok hprepare
    refine h.rewired (rewired_update hget) ?_
    unfold UpdateService.checkDependencies at hdependencies
    cases hset : q.payload.dependencies with
    | none => exact h.accepted (Table.mem_of_get? hget)
    | some dependencies =>
      rw [hset] at hdependencies
      exact validate_ok hdependencies

end Operations

/-! ## Runs -/

inductive CatalogStep where
  | create (q : CreateService)
  | update (q : UpdateService)
  /-- whatever else the service does, with the services as they are -/
  | other (store : Store)

/-- The catalog from any well-formed one on. -/
def catalogSystem (host : Host) : System Store CatalogStep where
  init := CatalogWellFormed
  next s
    | .create q => some ((createService host q).run s).2
    | .update q => some ((updateService host q).run s).2
    | .other t => if t.services = s.services then some t else none

theorem catalogSystem_inv (host : Host) :
    Invariant (catalogSystem host) (fun _ _ => True) CatalogWellFormed where
  init := fun s h => h
  step := by
    intro s step t h _ hstep
    cases step with
    | create q =>
      obtain rfl := Option.some.inj hstep
      exact h.createService q
    | update q =>
      obtain rfl := Option.some.inj hstep
      exact h.updateService q
    | other u =>
      obtain ⟨hsame, hu⟩ := Option.ite_none_right_eq_some.mp hstep
      obtain rfl := Option.some.inj hu
      exact h.congr (by rw [hsame])

/-- **The catalog.** In every state of a run the dependencies of each workspace
are acyclic, without self edges, and name services of the workspace. An update
whose references are valid is refused as a cycle exactly if the graph with the
requested edges has one. A call that is refused changes nothing. -/
theorem catalog_acyclic {host : Host} {s : Store} (h : Reachable (catalogSystem host) s) :
    (CatalogWellFormed s ∧ ∀ workspaceId id, ¬DependsOn s workspaceId id id) ∧
    (∀ (q : UpdateService) record dependencies, q.prepare host s = .ok record →
      q.payload.dependencies = some dependencies → record.id ∉ dependencies →
      (∀ d ∈ dependencies, IsService s record.workspaceId d) →
        (((updateService host q).run s).1 = .error dependencyCycle ↔
          SubstitutedCycle s record.workspaceId record.id dependencies)) ∧
    (∀ q e, ((createService host q).run s).1 = .error e → ((createService host q).run s).2 = s) ∧
    ∀ q e, ((updateService host q).run s).1 = .error e → ((updateService host q).run s).2 = s := by
  have hwf : CatalogWellFormed s := (catalogSystem_inv host).reachable h
  refine ⟨⟨hwf, hwf.not_self⟩, fun q record dependencies hprepare hset hself hvalid => ?_,
    fun q e herror => ?_, fun q e herror => ?_⟩
  · have hcheck : q.check host s =
        (validateServiceDependencies s record.workspaceId record.id dependencies >>= fun _ =>
          pure record) := by
      rw [UpdateService.check, hprepare, bind_ok, UpdateService.checkDependencies, hset]
    -- The check refuses exactly the substituted cycles.
    rcases validate_eq hself hvalid with ⟨hinvalid, hcycle⟩ | ⟨hok, hacyclic⟩
    · refine iff_of_true ?_ hcycle
      have herror : q.check host s = .error dependencyCycle := by
        rw [hcheck, hinvalid]
        rfl
      rcases updateService_cases host s q with ⟨e, he, hrun⟩ | ⟨_, hrecord, -⟩
      · rw [hrun, ← he, herror]
      · rw [herror] at hrecord
        cases hrecord
    · refine iff_of_false ?_ hacyclic
      have hpass : q.check host s = .ok record := by
        rw [hcheck, hok]
        rfl
      rcases updateService_cases host s q with ⟨e, he, -⟩ | ⟨_, -, hrun⟩
      · rw [hpass] at he
        cases he
      · rw [hrun]
        exact nofun
  · -- a refused call leaves the store as it was
    rcases createService_cases host s q with ⟨_, hrun⟩ | ⟨_, -, -, hrun⟩
    · rw [hrun]
    · rw [hrun] at herror
      cases herror
  · rcases updateService_cases host s q with ⟨_, -, hrun⟩ | ⟨_, -, hrun⟩
    · rw [hrun]
    · rw [hrun] at herror
      cases herror

/-! ## A loop that is refused -/

/-- A workspace with an administrator and no service. -/
def shopWorkspace : Store :=
  { Store.empty with
    memberships := ⟨[⟨"m-1", "w-1", "u-1", "admin", 0⟩], by decide⟩ }

def addService (id : String) (dependencies : List String) : CreateService where
  userId := "u-1"
  workspaceId := "w-1"
  payload := ⟨id, id, "", "tier_2", "active", "team", none, dependencies, none, []⟩
  requestId := "r-1"
  newId := id
  now := 0

/-- `cart`, and `api` that depends on it. -/
def shopCatalog : Store :=
  ((createService asciiHost (addService "api" ["cart"])).run
    ((createService asciiHost (addService "cart" [])).run shopWorkspace).2).2

/-- `cart` is to depend on `api`. -/
def closeLoop : UpdateService where
  userId := "u-1"
  serviceId := "cart"
  payload := ⟨none, none, none, none, none, none, none, some ["api"], none, none⟩
  requestId := "r-2"
  now := 1

/-- A shop whose payment service may not come to depend on its checkout. -/
theorem catalog_acyclic_shop :
    CatalogWellFormed shopCatalog ∧
      ((updateService asciiHost closeLoop).run shopCatalog).1 = .error dependencyCycle ∧
      ((updateService asciiHost closeLoop).run shopCatalog).2 = shopCatalog := by
  have hstart : CatalogWellFormed shopWorkspace := by
    refine ⟨fun w a hcycle => ?_, fun w a b hedge => ?_⟩
    · obtain ⟨b, ⟨row, hrow, -⟩, -⟩ := TransGen.head'_iff.mp hcycle
      cases hrow
    · obtain ⟨row, hrow, -⟩ := hedge
      cases hrow
  have hrun : (catalogSystem asciiHost).run shopWorkspace
      [.create (addService "cart" []), .create (addService "api" ["cart"])] = some shopCatalog := rfl
  have hreach : Reachable (catalogSystem asciiHost) shopCatalog := .of_run (.init hstart) hrun
  obtain ⟨hwf, -, -, hrefused⟩ := catalog_acyclic hreach
  have hcycle : ((updateService asciiHost closeLoop).run shopCatalog).1 = .error dependencyCycle := by
    decide +kernel
  exact ⟨hwf.1, hcycle, hrefused closeLoop dependencyCycle hcycle⟩

end DeployGuard.Service
