import DeployGuard.Service.Analysis
import DeployGuard.Service.Members

/-!
# The tenant context

Where a user works is stored as a workspace, a repository and a scenario of it.
`ensure_context` chooses them on the first visit, `select_user_context` and
`activate_context_scenario` set them, and `create_repository` fills in the first
repository.

> `TenantSafe`: the user is a member of the workspace, the repository belongs to it,
> and so does the scenario, whose repository is the one chosen.

`tenant_context_safe` carries it over every run, for the stored contexts and for
the scopes that were resolved from them.
-/

namespace DeployGuard.Service

open Interleaving Raise Session Session.Call Transition

/-! ## Defaults -/

/-- `ORDER BY selected DESC, created_at, id`. -/
def repositoryOrder (a b : Repository) : Prop :=
  (a.selected = true ∧ b.selected = false) ∨
    (a.selected = b.selected ∧
      (a.createdAt < b.createdAt ∨ (a.createdAt = b.createdAt ∧ a.id ≤ b.id)))

instance : DecidableRel repositoryOrder := fun a b => by
  unfold repositoryOrder
  infer_instance

/-- `_default_repository`. -/
def defaultRepository (d : Database) (workspaceId : String) : Option Repository :=
  ((d.repositories.select fun row => row.workspaceId = workspaceId).insertionSort
    repositoryOrder).head?

/-- `ORDER BY is_active DESC, sort_order, id`. -/
def activeFirst (a b : Scenario) : Prop :=
  (a.isActive = true ∧ b.isActive = false) ∨ (a.isActive = b.isActive ∧ scenarioOrder a b)

instance : DecidableRel activeFirst := fun a b => by
  unfold activeFirst
  infer_instance

/-- `_default_scenario`. -/
def defaultScenario (d : Database) (workspaceId : String) (repositoryId : Option String) :
    Option Scenario :=
  ((d.scenarios.select fun row => row.workspaceId = workspaceId &&
    matchesOptional repositoryId row.repositoryId).insertionSort activeFirst).head?

/-- `ORDER BY joined_at, id`. -/
def joinedFirst (a b : WorkspaceMembership) : Prop :=
  a.joinedAt < b.joinedAt ∨ (a.joinedAt = b.joinedAt ∧ a.id ≤ b.id)

instance : DecidableRel joinedFirst := fun a b => by
  unfold joinedFirst
  infer_instance

def firstMembership (d : Database) (userId : String) : Option WorkspaceMembership :=
  ((d.memberships.select fun row => row.userId = userId).insertionSort joinedFirst).head?

/-! ## `ensure_context` -/

def contextRequired : ServiceError :=
  .domain "Select or create a workspace first" "workspace_context_required" 409

/-- A call of `ensure_context`. -/
structure EnsureContext where
  user : User
  allowLegacyBootstrap : Bool
  membershipId : String
  clock : Nat → Time

/-- The workspace a first visit leads to, with a membership to add for the legacy one. -/
structure FirstVisit where
  membership : WorkspaceMembership
  bootstrapped : Bool
  repository : Option Repository
  scenario : Option Scenario

namespace EnsureContext

variable (q : EnsureContext)

def legacyMembership (workspace : Workspace) : WorkspaceMembership where
  id := q.membershipId
  workspaceId := workspace.id
  userId := q.user.id
  role := "owner"
  joinedAt := q.clock 0

/-- The membership to enter by, and whether it is a new one. -/
def entry (d : Database) : Except ServiceError (WorkspaceMembership × Bool) :=
  match firstMembership d q.user.id with
  | some membership => .ok (membership, false)
  | none =>
    match if q.allowLegacyBootstrap then d.workspaces.get? legacyWorkspaceId else none with
    | some workspace => .ok (q.legacyMembership workspace, true)
    | none => .error contextRequired

def load (d : Database) : Except ServiceError FirstVisit := do
  let (membership, bootstrapped) ← q.entry d
  let repository := defaultRepository d membership.workspaceId
  let scenario := defaultScenario d membership.workspaceId (repository.map (·.id))
  pure ⟨membership, bootstrapped, repository, scenario⟩

def context (visit : FirstVisit) : UserContext where
  userId := q.user.id
  workspaceId := visit.membership.workspaceId
  repositoryId := visit.repository.map (·.id)
  scenarioId := visit.scenario.map (·.id)
  updatedAt := q.clock 1

/-- The membership of a bootstrap is flushed before the context is chosen. -/
def enter (visit : FirstVisit) (d : Database) :
    Except ServiceError (Table WorkspaceMembership.identity) :=
  if visit.bootstrapped then addRow d.memberships visit.membership else .ok d.memberships

def save (visit : FirstVisit) (d : Database) : Except ServiceError Database := do
  let memberships ← enter visit d
  let contexts ← addRow d.contexts (q.context visit)
  pure { d with memberships := memberships, contexts := contexts }

end EnsureContext

/-- `ensure_context`. -/
def ensureContext (q : EnsureContext) : ServiceCall UserContext := do
  match ← read fun d => d.contexts.get? q.user.id with
  | some context => pure context
  | none => perform q.load q.save fun visit _ => .ok (q.context visit)

/-! ## `select_user_context` -/

structure UserContextUpdate where
  workspaceId : String
  repositoryId : Option String
  scenarioId : Option String
  deriving DecidableEq

structure UserContextResponse where
  workspaceId : Option String
  repositoryId : Option String
  scenarioId : Option String
  deriving DecidableEq

/-- `_context_response`. -/
def contextResponse : Option UserContext → UserContextResponse
  | none => ⟨none, none, none⟩
  | some context => ⟨some context.workspaceId, context.repositoryId, context.scenarioId⟩

/-- A call of `select_user_context`. -/
structure SelectUserContext where
  user : User
  payload : UserContextUpdate
  now : Time

/-- What the payload names. -/
structure Selection where
  repository : Option Repository
  scenario : Option Scenario
  context : Option UserContext

/-- `UPDATE` of a user's context. -/
def setContext (d : Database) (userId : String) (f : UserContext → UserContext)
    (hf : ∀ row, (f row).userId = row.userId) : Database :=
  { d with contexts := d.contexts.updateWhere (fun row => row.userId = userId) f hf }

/-- The context is moved. -/
def UserContext.moved (workspaceId : String) (repositoryId scenarioId : Option String) (now : Time)
    (row : UserContext) : UserContext :=
  { row with
    workspaceId := workspaceId
    repositoryId := repositoryId
    scenarioId := scenarioId
    updatedAt := now }

/-- A context moves without changing its user. -/
theorem UserContext.moved_userId (workspaceId : String) (repositoryId scenarioId : Option String)
    (now : Time) (row : UserContext) :
    (row.moved workspaceId repositoryId scenarioId now).userId = row.userId := rfl

namespace SelectUserContext

variable (q : SelectUserContext)

def findScenario (d : Database) (repository : Option Repository) :
    Except ServiceError (Option Scenario) :=
  match q.payload.scenarioId with
  | none => .ok none
  | some scenarioId =>
    match d.scenarios.rows.find? fun row => row.id = scenarioId &&
        row.workspaceId = q.payload.workspaceId &&
        matchesOptional (repository.map (·.id)) row.repositoryId with
    | some scenario => .ok (some scenario)
    | none => .error (.domain "Scenario not found" "scenario_not_found" 404)

/-- A scenario without a repository named brings its own. -/
def chosenRepository (d : Database) (repository : Option Repository) (scenario : Option Scenario) :
    Option Repository :=
  match repository, scenario with
  | some repository, _ => some repository
  | none, some scenario => d.repositories.get? scenario.repositoryId
  | none, none => none

def load (d : Database) : Except ServiceError Selection := do
  raiseIf ((d.memberships.get? (q.payload.workspaceId, q.user.id)).isNone)
    (.domain "Workspace not found" "workspace_not_found" 404)
  let repository ← repositoryForWorkspace d.toStore q.payload.workspaceId q.payload.repositoryId
  let scenario ← q.findScenario d repository
  pure ⟨chosenRepository d repository scenario, scenario, d.contexts.get? q.user.id⟩

def context (found : Selection) : UserContext where
  userId := q.user.id
  workspaceId := q.payload.workspaceId
  repositoryId := found.repository.map (·.id)
  scenarioId := found.scenario.map (·.id)
  updatedAt := q.now

def save (found : Selection) (d : Database) : Except ServiceError Database :=
  match found.context with
  | none => do
    let contexts ← addRow d.contexts (q.context found)
    pure { d with contexts := contexts }
  | some _ => .ok (setContext d q.user.id
      (UserContext.moved q.payload.workspaceId (found.repository.map (·.id))
        (found.scenario.map (·.id)) q.now) (UserContext.moved_userId _ _ _ _))

end SelectUserContext

/-- `select_user_context`. -/
def selectUserContext (q : SelectUserContext) : ServiceCall UserContextResponse :=
  perform q.load q.save fun found _ => .ok (contextResponse (some (q.context found)))

/-! ## `resolve_tenant_scope` and `activate_context_scenario` -/

structure TenantScope where
  user : User
  workspaceId : String
  repositoryId : Option String
  scenarioId : Option String
  role : String
  deriving DecidableEq

/-- The scope of a stored context. -/
def scopeOf (user : User) (minimumRole : String) (context : UserContext) (d : Database) :
    Except ServiceError TenantScope :=
  match d.memberships.get? (context.workspaceId, user.id) with
  | none => .error (.domain "Workspace not found" "workspace_not_found" 404)
  | some membership => do
    let level ← levelOf membership.role
    let minimum ← levelOf minimumRole
    raiseIf (level < minimum)
      (.domain "You do not have permission for this action" "forbidden" 403)
    pure ⟨user, context.workspaceId, context.repositoryId, context.scenarioId, membership.role⟩

/-- `resolve_tenant_scope`. -/
def resolveTenantScope (minimumRole : String) (q : EnsureContext) : ServiceCall TenantScope := do
  let context ← ensureContext q
  query (scopeOf q.user minimumRole context)

/-- `activate_context_scenario`. -/
def activateContextScenario (scope : TenantScope) (scenario : Scenario) (now : Time) :
    ServiceCall UserContext :=
  perform
    (fun d =>
      match d.contexts.get? scope.user.id with
      | none => .error contextRequired
      | some context => .ok context)
    (fun _ d => .ok (setContext d scope.user.id (UserContext.moved scenario.workspaceId
      (some scenario.repositoryId) (some scenario.id) now) (UserContext.moved_userId _ _ _ _)))
    (fun context _ => .ok (context.moved scenario.workspaceId (some scenario.repositoryId)
      (some scenario.id) now))

/-! ## `create_repository` -/

/-- A call of `create_repository`. -/
structure CreateRepository where
  user : User
  workspaceId : String
  fullName : String
  defaultBranch : String
  visibility : String
  requestId : String
  newId : String
  clock : Nat → Time

namespace CreateRepository

variable (q : CreateRepository) (host : Host)

def providerId : String := "fixture:" ++ host.lower (Text.strip q.fullName)

def repository : Repository where
  id := q.newId
  workspaceId := q.workspaceId
  provider := "development"
  providerRepositoryId := q.providerId host
  fullName := Text.strip q.fullName
  defaultBranch := Text.strip q.defaultBranch
  visibility := q.visibility
  connectionState := "connected"
  dataMode := "synthetic"
  selected := true
  lastSyncedAt := some (q.clock 0)
  createdAt := q.clock 0

/-- The context that was found. -/
def load (d : Database) : Except ServiceError (Option UserContext) := do
  let _ ← membershipFor d.toStore q.user.id q.workspaceId "admin"
  raiseIf (∃ row ∈ d.repositories.rows, row.workspaceId = q.workspaceId ∧
    row.provider = "development" ∧ row.providerRepositoryId = q.providerId host)
    (.domain "Repository is already connected" "repository_already_connected" 409)
  pure (d.contexts.get? q.user.id)

/-- The user works in this workspace and has no repository yet. -/
def fillsContext (found : Option UserContext) : Bool :=
  found.any fun context => context.workspaceId = q.workspaceId && context.repositoryId.isNone

def filled (row : UserContext) : UserContext :=
  { row with repositoryId := some q.newId, updatedAt := q.clock 0 }

/-- A context is filled without changing its user. -/
theorem filled_userId (row : UserContext) : (q.filled row).userId = row.userId := rfl

def save (found : Option UserContext) (d : Database) : Except ServiceError Database := do
  let repositories ← addRow d.repositories (q.repository host)
  let added : Database := { d with repositories := repositories }
  let placed := if q.fillsContext found then setContext added q.user.id q.filled q.filled_userId
    else added
  pure (Database.audit
    (memberAudit q.user q.workspaceId "repository.connected" "repository" q.newId q.requestId
      [("provider", .str "development"), ("full_name", .str (Text.strip q.fullName))] (q.clock 1))
    placed)

end CreateRepository

/-- `create_repository`. -/
def createRepository (host : Host) (q : CreateRepository) : ServiceCall Repository :=
  perform (q.load host) (q.save host) fun _ _ => .ok (q.repository host)

/-! ## Runs -/

inductive ContextCall where
  | createWorkspace (q : CreateWorkspace)
  | createRepository (q : CreateRepository)
  | acceptInvitation (q : AcceptInvitation)
  | ensureContext (q : EnsureContext)
  | selectUserContext (q : SelectUserContext)
  | activateContextScenario (scope : TenantScope) (scenario : Scenario) (now : Time)

/-- The error of the call, if it is rejected, and the database it leaves. -/
def ContextCall.run (host : Host) (d : Database) : ContextCall → Option ServiceError × Database
  | .createWorkspace q => outcome ((Service.createWorkspace host q).run d)
  | .createRepository q => outcome ((Service.createRepository host q).run d)
  | .acceptInvitation q => outcome ((Service.acceptInvitation host q).run d)
  | .ensureContext q => outcome ((Service.ensureContext q).run d)
  | .selectUserContext q => outcome ((Service.selectUserContext q).run d)
  | .activateContextScenario scope scenario now =>
    outcome ((Service.activateContextScenario scope scenario now).run d)
where
  outcome {α : Type} : Except ServiceError α × Database → Option ServiceError × Database
    | (.ok _, d) => (none, d)
    | (.error e, d) => (some e, d)

/-- The database, and the scopes that were resolved. -/
structure TenantState where
  database : Database
  scopes : List TenantScope

inductive TenantAction where
  | call (c : ContextCall)
  | resolve (minimumRole : String) (q : EnsureContext)

/-- A scenario is activated for a scope that was resolved, and is one of its workspace. -/
def ContextCall.routed (r : TenantState) : ContextCall → Bool
  | .activateContextScenario scope scenario _ => scope ∈ r.scopes &&
      r.database.scenarios.get? scenario.id = some scenario &&
      scenario.workspaceId = scope.workspaceId
  | _ => true

/-- The place is one of the user's: its parts belong together. -/
structure TenantSafe (d : Database) (userId workspaceId : String)
    (repositoryId scenarioId : Option String) : Prop where
  member : ∃ m, d.memberships.get? (workspaceId, userId) = some m
  repository : ∀ id, repositoryId = some id →
    ∃ row, d.repositories.get? id = some row ∧ row.workspaceId = workspaceId
  scenario : ∀ id, scenarioId = some id →
    ∃ row, d.scenarios.get? id = some row ∧ row.workspaceId = workspaceId ∧
      repositoryId = some row.repositoryId

/-- The stored context of a user is safe. -/
def ContextSafe (d : Database) (context : UserContext) : Prop :=
  TenantSafe d context.userId context.workspaceId context.repositoryId context.scenarioId

def ScopeSafe (d : Database) (scope : TenantScope) : Prop :=
  TenantSafe d scope.user.id scope.workspaceId scope.repositoryId scope.scenarioId

/-- Every scenario's repository is one of the scenario's workspace. -/
def ScenariosPlaced (d : Database) : Prop :=
  ∀ id row, d.scenarios.get? id = some row →
    ∃ repository, d.repositories.get? row.repositoryId = some repository ∧
      repository.workspaceId = row.workspaceId

structure TenantInv (r : TenantState) : Prop where
  contexts : ∀ userId context, r.database.contexts.get? userId = some context →
    ContextSafe r.database context
  scopes : ∀ scope ∈ r.scopes, ScopeSafe r.database scope
  scenarios : ScenariosPlaced r.database
  answerable : Answerable r.database

/-- The scope that was resolved, if one was. -/
def resolvedScopes {α : Type} : Except ServiceError TenantScope × α → List TenantScope
  | (.ok scope, _) => [scope]
  | (.error _, _) => []

/-- Any calls of any users, one after another, from safe contexts on. -/
def tenantSystem (host : Host) : System TenantState TenantAction where
  init := TenantInv
  next r
    | .call c => if c.routed r then some { r with database := (c.run host r.database).2 } else none
    | .resolve minimumRole q =>
      let outcome := (resolveTenantScope minimumRole q).run r.database
      some ⟨outcome.2, r.scopes ++ resolvedScopes outcome⟩

/-! ## What a call leaves in place -/

section Steps

variable {host : Host} {d d' : Database} {r : TenantState}

/-- No member, repository or scenario is lost, and no scenario added. -/
structure KeepsPlaces (d d' : Database) : Prop where
  memberships : ∀ key m, d.memberships.get? key = some m → d'.memberships.get? key = some m
  repositories : ∀ id row, d.repositories.get? id = some row → d'.repositories.get? id = some row
  scenarios : d'.scenarios = d.scenarios

/-- Doing nothing keeps the places. -/
theorem KeepsPlaces.refl (d : Database) : KeepsPlaces d d :=
  ⟨fun _ _ h => h, fun _ _ h => h, rfl⟩

/-- A context stays safe while memberships, repositories and scenarios are kept. -/
theorem TenantSafe.keeps {userId workspaceId : String} {repositoryId scenarioId : Option String}
    (h : TenantSafe d userId workspaceId repositoryId scenarioId) (hd : KeepsPlaces d d') :
    TenantSafe d' userId workspaceId repositoryId scenarioId where
  member := by
    obtain ⟨m, hm⟩ := h.member
    exact ⟨m, hd.memberships _ m hm⟩
  repository := by
    intro id hid
    obtain ⟨row, hrow, hworkspace⟩ := h.repository id hid
    exact ⟨row, hd.repositories _ row hrow, hworkspace⟩
  scenario := by
    intro id hid
    rw [hd.scenarios]
    exact h.scenario id hid

/-- A call that keeps the places and stores safe contexts. -/
theorem TenantInv.step (h : TenantInv r) (hd : KeepsPlaces r.database d')
    (hcontexts : ∀ userId context, d'.contexts.get? userId = some context →
      r.database.contexts.get? userId = some context ∨ ContextSafe d' context)
    (hanswerable : Answerable d') : TenantInv { r with database := d' } where
  contexts := by
    intro userId context hcontext
    rcases hcontexts userId context hcontext with hold | hnew
    · exact (h.contexts userId context hold).keeps hd
    · exact hnew
  scopes := by
    intro scope hscope
    exact (h.scopes scope hscope).keeps hd
  scenarios := by
    intro id row hrow
    have hrow' : r.database.scenarios.get? id = some row := by rw [← hrow, ← hd.scenarios]
    obtain ⟨repository, hrepository, hworkspace⟩ := h.scenarios id row hrow'
    exact ⟨repository, hd.repositories _ _ hrepository, hworkspace⟩
  answerable := hanswerable

/-- Only the user's own context is set. -/
theorem contexts_setContext {id userId : String} {f : UserContext → UserContext}
    {hf : ∀ row, (f row).userId = row.userId} {context : UserContext}
    (h : (setContext d id f hf).contexts.get? userId = some context) :
    d.contexts.get? userId = some context ∨
      ∃ row, d.contexts.get? id = some row ∧ context = f row := by
  have hget : (setContext d id f hf).contexts.get? userId =
      (d.contexts.get? userId).map fun row => if userId = id then f row else row :=
    Table.get?_updateKey d.contexts id f hf userId
  rw [hget] at h
  obtain ⟨row, hrow, rfl⟩ := Option.map_eq_some_iff.mp h
  by_cases hid : userId = id
  · subst hid
    exact Or.inr ⟨row, hrow, by rw [if_pos rfl]⟩
  · rw [if_neg hid]
    exact Or.inl hrow

/-- Rows that are added have known workspaces and roles. -/
theorem Answerable.step (h : Answerable d)
    (hworkspaces : ∀ id w, d.workspaces.get? id = some w → d'.workspaces.get? id = some w)
    (hmembers : ∀ key m, d'.memberships.get? key = some m → d.memberships.get? key = some m ∨
      (∃ w, d'.workspaces.get? m.workspaceId = some w) ∧ m.role ∈ roleNames)
    (hinvitations : ∀ id row', d'.invitations.get? id = some row' →
      ∃ row, d.invitations.get? id = some row ∧ row'.terms = row.terms) : Answerable d' where
  members := by
    intro key m hm
    rcases hmembers key m hm with hold | hnew
    · obtain ⟨⟨w, hw⟩, hrole⟩ := h.members key m hold
      exact ⟨⟨w, hworkspaces _ w hw⟩, hrole⟩
    · exact hnew
  invitations := by
    intro id row' hrow'
    obtain ⟨row, hrow, hterms⟩ := hinvitations id row' hrow'
    simp only [Invitation.terms, Prod.mk.injEq] at hterms
    obtain ⟨⟨w, hw⟩, hrole⟩ := h.invitations id row hrow
    rw [hterms.1, hterms.2.2.1]
    exact ⟨⟨w, hworkspaces _ w hw⟩, hrole⟩

/-- Of the rows a sort puts first. -/
theorem mem_of_head_insertionSort {ρ : Type} {order : ρ → ρ → Prop} [DecidableRel order]
    {rows : List ρ} {row : ρ} (h : (rows.insertionSort order).head? = some row) : row ∈ rows :=
  (List.mem_insertionSort order).mp (List.mem_of_mem_head? h)

/-- Without a first element there is none. -/
theorem head_insertionSort_none {ρ : Type} {order : ρ → ρ → Prop} [DecidableRel order]
    {rows : List ρ} (h : (rows.insertionSort order).head? = none) (row : ρ) : row ∉ rows := by
  intro hrow
  have hsorted : row ∈ rows.insertionSort order := (List.mem_insertionSort order).mpr hrow
  rw [List.head?_eq_none_iff.mp h] at hsorted
  cases hsorted

/-! ## The calls -/

/-- A new workspace moves its creator's context to a place of their own. -/
theorem CreateWorkspace.tenantInv (h : TenantInv r) (q : CreateWorkspace) :
    TenantInv { r with database := ((createWorkspace host q).run r.database).2 } := by
  rcases createWorkspace_store host q r.database with hrun | ⟨found, d', -, hsave, hrun⟩
  · rw [hrun]
    exact h
  · rw [hrun]
    obtain ⟨workspaces, memberships, contexts, hworkspaces, hmemberships, hcontexts, rfl, rfl, rfl,
      hinvitations, hrepositories, hscenarios⟩ := q.save_ok hsave
    have hmember : d'.memberships.get? (q.newId, q.user.id) = some q.membership :=
      Table.get?_inserted hmemberships rfl
    have hworkspace : d'.workspaces.get? q.newId = some (q.workspace host) :=
      Table.get?_inserted hworkspaces rfl
    refine h.step ⟨fun key m hm => Table.get?_of_insert hmemberships hm,
      fun id row hrow => by rw [hrepositories, hrow], hscenarios⟩
      (fun userId context hcontext => ?_)
      (h.answerable.step (fun id w hw => Table.get?_of_insert hworkspaces hw)
        (fun key m hm => ?_) fun id row hrow => ⟨row, by rw [← hinvitations, hrow], rfl⟩)
    · rcases of_get?_addMissing hcontexts hcontext with hold | ⟨-, rfl⟩
      · exact Or.inl hold
      · exact Or.inr ⟨⟨_, hmember⟩, nofun, nofun⟩
    · rcases Table.of_get?_insert hmemberships hm with hold | ⟨rfl, -⟩
      · exact Or.inl hold
      · exact Or.inr ⟨⟨_, hworkspace⟩, List.mem_append_right _ (List.mem_singleton_self _)⟩

/-- An acceptance moves nobody into a foreign workspace. -/
theorem AcceptInvitation.tenantInv (h : TenantInv r) (q : AcceptInvitation) :
    TenantInv { r with database := ((acceptInvitation host q).run r.database).2 } := by
  rcases acceptInvitation_cases h.answerable q with
    ⟨e, hrun⟩ | ⟨found, d', summary, hchecked, hsave, hrun⟩
  · rw [hrun]
    exact h
  · rw [hrun]
    obtain ⟨memberships, contexts, hmemberships, hcontexts, rfl, rfl, hinvitations, hworkspaces,
      hrepositories, hscenarios⟩ := q.save_ok hsave
    obtain ⟨hworkspace, hrole⟩ := h.answerable.invitations _ _ hchecked.stored
    have hmember : ∃ m, d'.memberships.get? (found.invitation.workspaceId, q.user.id) = some m := by
      rcases addMissing_eq_ok hmemberships with ⟨m, hfound, hsame⟩ | ⟨-, hinsert⟩
      · rw [hsame, ← hchecked.membership]
        exact ⟨m, hfound⟩
      · exact ⟨_, Table.get?_inserted hinsert rfl⟩
    refine h.step ⟨fun key m hm => get?_of_addMissing hmemberships hm,
      fun id row hrow => by rw [hrepositories, hrow], hscenarios⟩
      (fun userId context hcontext => ?_)
      (h.answerable.step (fun id w hw => by rw [hworkspaces, hw]) (fun key m hm => ?_)
        fun id row hrow => ?_)
    · rcases of_get?_addMissing hcontexts hcontext with hold | ⟨-, rfl⟩
      · exact Or.inl hold
      · exact Or.inr ⟨hmember, nofun, nofun⟩
    · rcases of_get?_addMissing hmemberships hm with hold | ⟨-, rfl⟩
      · exact Or.inl hold
      · rw [hworkspaces]
        exact Or.inr ⟨hworkspace, List.mem_append_left _ hrole⟩
    · rw [hinvitations] at hrow
      exact of_get?_setInvitation (Invitation.accepted_terms _) hrow

/-- Where no repository of the workspace is stored, no scenario is. -/
theorem defaultScenario_placed (h : ScenariosPlaced d) {workspaceId : String} {row : Scenario}
    (hrow : defaultScenario d workspaceId ((defaultRepository d workspaceId).map (·.id)) =
      some row) :
    d.scenarios.get? row.id = some row ∧ row.workspaceId = workspaceId ∧
      (defaultRepository d workspaceId).map (·.id) = some row.repositoryId := by
  obtain ⟨hmem, hmatch⟩ := Table.mem_select.mp (mem_of_head_insertionSort hrow)
  obtain ⟨hworkspace, hrepository⟩ := Bool.and_eq_true_iff.mp hmatch
  have hworkspace : row.workspaceId = workspaceId := of_decide_eq_true hworkspace
  have hget : d.scenarios.get? row.id = some row := Table.get?_of_mem hmem
  refine ⟨hget, hworkspace, ?_⟩
  cases hdefault : defaultRepository d workspaceId with
  | none =>
    obtain ⟨repository, hstored, hplaced⟩ := h row.id row hget
    refine absurd (Table.mem_select.mpr ⟨Table.mem_of_get? hstored, ?_⟩)
      (head_insertionSort_none hdefault repository)
    exact decide_eq_true (hplaced.trans hworkspace)
  | some repository =>
    rw [hdefault, Option.map_some] at hrepository
    have hid : repository.id = row.repositoryId := by simpa [matchesOptional] using hrepository
    rw [Option.map_some, hid]

/-- The default repository is one of the workspace. -/
theorem defaultRepository_placed {workspaceId : String} {row : Repository}
    (h : defaultRepository d workspaceId = some row) :
    d.repositories.get? row.id = some row ∧ row.workspaceId = workspaceId := by
  obtain ⟨hmem, hworkspace⟩ := Table.mem_select.mp (mem_of_head_insertionSort h)
  exact ⟨Table.get?_of_mem hmem, of_decide_eq_true hworkspace⟩

namespace EnsureContext

variable {q : EnsureContext}

/-- A first visit is to a workspace the user is a member of, or is made one of. -/
theorem entry_ok {membership : WorkspaceMembership} {bootstrapped : Bool}
    (h : q.entry d = .ok (membership, bootstrapped)) :
    membership.userId = q.user.id ∧
      (bootstrapped = false ∧ d.memberships.get? membership.identity = some membership ∨
        bootstrapped = true ∧ membership.role = "owner" ∧
          ∃ w, d.workspaces.get? membership.workspaceId = some w) := by
  unfold entry at h
  cases hfirst : firstMembership d q.user.id with
  | some m =>
    rw [hfirst] at h
    obtain ⟨rfl, rfl⟩ := Prod.mk.inj (Except.ok.inj h)
    obtain ⟨hmem, huser⟩ := Table.mem_select.mp (mem_of_head_insertionSort hfirst)
    exact ⟨of_decide_eq_true huser, Or.inl ⟨rfl, Table.get?_of_mem hmem⟩⟩
  | none =>
    rw [hfirst] at h
    cases hlegacy : (if q.allowLegacyBootstrap then d.workspaces.get? legacyWorkspaceId
      else none) with
    | none => simp [hlegacy] at h
    | some workspace =>
      simp only [hlegacy] at h
      obtain ⟨rfl, rfl⟩ := Prod.mk.inj (Except.ok.inj h)
      have hworkspace : d.workspaces.get? legacyWorkspaceId = some workspace := by
        cases hallowed : q.allowLegacyBootstrap with
        | true => simpa [hallowed] using hlegacy
        | false => simp [hallowed] at hlegacy
      refine ⟨rfl, Or.inr ⟨rfl, rfl, workspace, ?_⟩⟩
      show d.workspaces.get? workspace.id = some workspace
      rw [Table.key_of_get? hworkspace, hworkspace]

/-- A first visit reads its membership and the defaults of its workspace. -/
theorem load_ok {visit : FirstVisit} (h : q.load d = .ok visit) :
    q.entry d = .ok (visit.membership, visit.bootstrapped) ∧
      visit.repository = defaultRepository d visit.membership.workspaceId ∧
      visit.scenario = defaultScenario d visit.membership.workspaceId
        (visit.repository.map (·.id)) := by
  obtain ⟨⟨membership, bootstrapped⟩, hentry, h⟩ := Raise.bind_eq_ok.mp h
  obtain rfl := Raise.pure_eq_ok.mp h
  exact ⟨hentry, rfl, rfl⟩

/-- A first visit stores one context, and a membership when it was bootstrapped. -/
theorem save_ok {visit : FirstVisit} (h : q.save visit d = .ok d') :
    ((visit.bootstrapped = false ∧ d'.memberships = d.memberships) ∨
      visit.bootstrapped = true ∧ d.memberships.insert visit.membership = some d'.memberships) ∧
      d.contexts.insert (q.context visit) = some d'.contexts ∧ d'.workspaces = d.workspaces ∧
      d'.repositories = d.repositories ∧ d'.scenarios = d.scenarios ∧
      d'.invitations = d.invitations := by
  obtain ⟨memberships, hmemberships, h⟩ := Raise.bind_eq_ok.mp h
  obtain ⟨contexts, hcontexts, h⟩ := Raise.bind_eq_ok.mp h
  obtain rfl := Raise.pure_eq_ok.mp h
  refine ⟨?_, addRow_eq_ok.mp hcontexts, rfl, rfl, rfl, rfl⟩
  unfold enter at hmemberships
  cases hbootstrapped : visit.bootstrapped with
  | false =>
    rw [hbootstrapped] at hmemberships
    exact Or.inl ⟨rfl, (Except.ok.inj hmemberships).symm⟩
  | true =>
    rw [hbootstrapped] at hmemberships
    exact Or.inr ⟨rfl, addRow_eq_ok.mp hmemberships⟩

/-- A first visit stores a safe context. -/
theorem visit_safe (hplaced : ScenariosPlaced d) (hanswerable : Answerable d) {visit : FirstVisit}
    (hload : q.load d = .ok visit) (hsave : q.save visit d = .ok d') :
    KeepsPlaces d d' ∧ ContextSafe d' (q.context visit) ∧ Answerable d' := by
  obtain ⟨hentry, hrepository, hscenario⟩ := load_ok hload
  obtain ⟨huser, hmembership⟩ := entry_ok hentry
  obtain ⟨hmemberships, -, hworkspaces, hrepositories, hscenarios, hinvitations⟩ := save_ok hsave
  have hidentity : visit.membership.identity = (visit.membership.workspaceId, q.user.id) := by
    rw [← huser]
    rfl
  have hkeeps : KeepsPlaces d d' := by
    refine ⟨fun key m hm => ?_, fun id row hrow => by rw [hrepositories, hrow], hscenarios⟩
    rcases hmemberships with ⟨-, hsame⟩ | ⟨-, hinsert⟩
    · rw [hsame, hm]
    · exact Table.get?_of_insert hinsert hm
  refine ⟨hkeeps, ⟨⟨visit.membership, ?_⟩, fun id hid => ?_, fun id hid => ?_⟩, ?_⟩
  · show d'.memberships.get? (visit.membership.workspaceId, q.user.id) = some visit.membership
    rw [← hidentity]
    -- the membership was stored before, or this visit stored it
    rcases hmembership with ⟨-, hstored⟩ | ⟨hnew, -⟩
    · exact hkeeps.memberships _ _ hstored
    · rcases hmemberships with ⟨hold, -⟩ | ⟨-, hinsert⟩
      · rw [hnew] at hold
        cases hold
      · exact Table.get?_inserted hinsert rfl
  · -- the repository shown is one of the workspace
    obtain ⟨row, hrow, rfl⟩ := Option.map_eq_some_iff.mp hid
    rw [hrepository] at hrow
    obtain ⟨hstored, hworkspace⟩ := defaultRepository_placed hrow
    exact ⟨row, hkeeps.repositories _ _ hstored, hworkspace⟩
  · obtain ⟨row, hrow, rfl⟩ := Option.map_eq_some_iff.mp hid
    -- and the scenario one of that repository
    rw [hscenario, hrepository] at hrow
    obtain ⟨hstored, hworkspace, hid⟩ := defaultScenario_placed hplaced hrow
    refine ⟨row, by rw [hscenarios, hstored], hworkspace, ?_⟩
    show visit.repository.map (·.id) = _
    rw [hrepository, hid]
  · -- the only new membership is of the workspace created with it
    refine hanswerable.step (fun id w hw => by rw [hworkspaces, hw]) (fun key m hm => ?_)
      fun id row hrow => ⟨row, by rw [← hinvitations, hrow], rfl⟩
    rcases hmemberships with ⟨-, hsame⟩ | ⟨hnew, hinsert⟩
    · rw [hsame] at hm
      exact Or.inl hm
    · rcases Table.of_get?_insert hinsert hm with hold | ⟨rfl, -⟩
      · exact Or.inl hold
      · rcases hmembership with ⟨hold, -⟩ | ⟨-, hrole, w, hw⟩
        · rw [hnew] at hold
          cases hold
        · refine Or.inr ⟨⟨w, by rw [hworkspaces, hw]⟩, ?_⟩
          rw [hrole]
          exact List.mem_append_right _ (List.mem_singleton_self _)

/-- `ensure_context` returns the stored context, or stores the one it returns. -/
theorem run_cases (q : EnsureContext) (d : Database) :
    (∃ e, (ensureContext q).run d = (.error e, d)) ∨
      (∃ context, d.contexts.get? q.user.id = some context ∧
        (ensureContext q).run d = (.ok context, d)) ∨
      ∃ visit d', q.load d = .ok visit ∧ q.save visit d = .ok d' ∧
        (ensureContext q).run d = (.ok (q.context visit), d') := by
  cases hcontext : d.contexts.get? q.user.id with
  | some context =>
    refine Or.inr (Or.inl ⟨context, rfl, ?_⟩)
    have hrun : ensureContext q (State.start d) = (.ok context, State.start d) := by
      rw [ensureContext, read_bind_apply, State.start_cur, hcontext]
      rfl
    exact run_eq hrun
  | none =>
    have hperform : (ensureContext q).run d =
        (perform q.load q.save fun visit _ => .ok (q.context visit)).run d := by
      rw [run_def, ensureContext, read_bind_apply, State.start_cur, hcontext]
      rfl
    rw [hperform]
    rcases perform_run q.load q.save (fun visit _ => .ok (q.context visit)) d with
      ⟨e, hrun⟩ | ⟨visit, d', hload, hsave, hrun⟩
    · exact Or.inl ⟨e, hrun⟩
    · exact Or.inr (Or.inr ⟨visit, d', hload, hsave, hrun⟩)

end EnsureContext

/-- What `ensure_context` returns is stored, and safe. -/
theorem ensureContext_inv (h : TenantInv r) (q : EnsureContext) :
    TenantInv { r with database := ((ensureContext q).run r.database).2 } ∧
      ∀ context, ((ensureContext q).run r.database).1 = .ok context →
        context.userId = q.user.id ∧
          ContextSafe ((ensureContext q).run r.database).2 context := by
  rcases q.run_cases r.database with ⟨e, hrun⟩ | ⟨context, hcontext, hrun⟩ |
    ⟨visit, d', hload, hsave, hrun⟩
  · rw [hrun]
    exact ⟨h, nofun⟩
  · rw [hrun]
    refine ⟨h, fun context' hcontext' => ?_⟩
    obtain rfl := Except.ok.inj hcontext'
    exact ⟨Table.key_of_get? hcontext, h.contexts _ _ hcontext⟩
  · rw [hrun]
    obtain ⟨hkeeps, hsafe, hanswerable⟩ := q.visit_safe h.scenarios h.answerable hload hsave
    obtain ⟨-, hinsert, -⟩ := q.save_ok hsave
    refine ⟨h.step hkeeps (fun userId context hcontext => ?_) hanswerable, fun context hcontext => ?_⟩
    · rcases Table.of_get?_insert hinsert hcontext with hold | ⟨rfl, -⟩
      · exact Or.inl hold
      · exact Or.inr hsafe
    · obtain rfl := Except.ok.inj hcontext
      exact ⟨rfl, hsafe⟩

/-- What a selection names belongs together. -/
theorem SelectUserContext.load_ok (hplaced : ScenariosPlaced d) {q : SelectUserContext}
    {found : Selection} (h : q.load d = .ok found) :
    TenantSafe d q.user.id q.payload.workspaceId (found.repository.map (·.id))
      (found.scenario.map (·.id)) := by
  obtain ⟨_, hmember, h⟩ := Raise.bind_eq_ok.mp h
  obtain ⟨repository, hrepository, h⟩ := Raise.bind_eq_ok.mp h
  obtain ⟨scenario, hscenario, h⟩ := Raise.bind_eq_ok.mp h
  obtain rfl := Raise.pure_eq_ok.mp h
  have hmember := raiseIf_eq_ok.mp hmember
  rw [Bool.not_eq_true, Option.isNone_eq_false_iff, Option.isSome_iff_exists] at hmember
  have hnamed : ∀ row, repository = some row →
      d.repositories.get? row.id = some row ∧ row.workspaceId = q.payload.workspaceId := by
    intro row h
    obtain rfl := h
    exact repositoryForWorkspace_some hrepository
  -- the scenario is of the workspace, and of the repository if one is named
  have hfound : ∀ row, scenario = some row → d.scenarios.get? row.id = some row ∧
      row.workspaceId = q.payload.workspaceId ∧
      ∀ chosen, repository = some chosen → chosen.id = row.repositoryId := by
    intro row h
    obtain rfl := h
    unfold SelectUserContext.findScenario at hscenario
    cases hid : q.payload.scenarioId with
    | none => simp [hid] at hscenario
    | some id =>
      simp only [hid] at hscenario
      split at hscenario
      · next found hfind =>
        obtain rfl : found = row := Option.some.inj (Except.ok.inj hscenario)
        have hmatch := List.find?_some hfind
        simp only [Bool.and_eq_true, decide_eq_true_eq] at hmatch
        refine ⟨Table.get?_of_mem (List.mem_of_find?_eq_some hfind), hmatch.1.2, ?_⟩
        intro chosen h
        obtain rfl := h
        simpa [matchesOptional] using hmatch.2
      · cases hscenario
  have hchosen : ∀ row, SelectUserContext.chosenRepository d repository scenario = some row →
      d.repositories.get? row.id = some row ∧ row.workspaceId = q.payload.workspaceId := by
    intro row hrow
    cases hnone : repository with
    | some chosen =>
      rw [hnone] at hrow
      obtain rfl : chosen = row := by simpa [SelectUserContext.chosenRepository] using hrow
      exact hnamed chosen hnone
    | none =>
      cases hsome : scenario with
      | none => simp [SelectUserContext.chosenRepository, hnone, hsome] at hrow
      | some picked =>
        obtain ⟨hpicked, hworkspace, -⟩ := hfound picked hsome
        have hstored : d.repositories.get? picked.repositoryId = some row := by
          simpa [SelectUserContext.chosenRepository, hnone, hsome] using hrow
        obtain ⟨repository', hrepository', hplace⟩ := hplaced _ _ hpicked
        obtain rfl := Option.some.inj (hstored.symm.trans hrepository')
        refine ⟨?_, hplace.trans hworkspace⟩
        rw [Table.key_of_get? hstored, hstored]
  refine ⟨hmember, fun id hid => ?_, fun id hid => ?_⟩
  · obtain ⟨row, hrow, rfl⟩ := Option.map_eq_some_iff.mp hid
    exact ⟨row, hchosen row hrow⟩
  · obtain ⟨row, hrow, rfl⟩ := Option.map_eq_some_iff.mp hid
    obtain ⟨hstored, hworkspace, hnamedId⟩ := hfound row hrow
    refine ⟨row, hstored, hworkspace, ?_⟩
    cases hnone : repository with
    | some chosen =>
      show (SelectUserContext.chosenRepository d (some chosen) scenario).map (·.id) = _
      rw [SelectUserContext.chosenRepository, Option.map_some, hnamedId chosen hnone]
    | none =>
      obtain ⟨repository', hrepository', -⟩ := hplaced _ _ hstored
      have hscenario : scenario = some row := hrow
      show (SelectUserContext.chosenRepository d none scenario).map (·.id) = _
      rw [hscenario, SelectUserContext.chosenRepository, hrepository', Option.map_some,
        Table.key_of_get? hrepository']

/-- A user's context that is moved to a safe place is safe. -/
theorem TenantInv.move (h : TenantInv r) {userId workspaceId : String}
    {repositoryId scenarioId : Option String} {now : Time}
    (hsafe : TenantSafe r.database userId workspaceId repositoryId scenarioId) :
    TenantInv { r with
      database := setContext r.database userId
        (UserContext.moved workspaceId repositoryId scenarioId now)
        (UserContext.moved_userId _ _ _ _) } := by
  refine h.step ⟨fun _ _ hm => hm, fun _ _ hrow => hrow, rfl⟩ (fun id context hcontext => ?_)
    (h.answerable.step (fun _ _ hw => hw) (fun _ _ hm => Or.inl hm) fun id row hrow =>
      ⟨row, hrow, rfl⟩)
  rcases contexts_setContext hcontext with hold | ⟨row, hrow, rfl⟩
  · exact Or.inl hold
  · refine Or.inr ?_
    have hkey : row.userId = userId := Table.key_of_get? hrow
    subst hkey
    exact hsafe.keeps ⟨fun _ _ hm => hm, fun _ _ hrow => hrow, rfl⟩

/-- A selection is checked before it is stored. -/
theorem SelectUserContext.tenantInv (h : TenantInv r) (q : SelectUserContext) :
    TenantInv { r with database := ((selectUserContext q).run r.database).2 } := by
  rcases perform_store q.load q.save (fun found _ => .ok (contextResponse (some (q.context found))))
    r.database with hrun | ⟨found, d', hload, hsave, hrun⟩
  · rw [selectUserContext, hrun]
    exact h
  · rw [selectUserContext, hrun]
    have hsafe := q.load_ok h.scenarios hload
    unfold SelectUserContext.save at hsave
    cases hfound : found.context with
    | some context =>
      simp only [hfound] at hsave
      obtain rfl := Except.ok.inj hsave
      exact h.move hsafe
    | none =>
      simp only [hfound] at hsave
      obtain ⟨contexts, hcontexts, hsave⟩ := Raise.bind_eq_ok.mp hsave
      obtain rfl := Raise.pure_eq_ok.mp hsave
      refine h.step ⟨fun _ _ hm => hm, fun _ _ hrow => hrow, rfl⟩ (fun id context hcontext => ?_)
        (h.answerable.step (fun _ _ hw => hw) (fun _ _ hm => Or.inl hm) fun id row hrow =>
          ⟨row, hrow, rfl⟩)
      rcases Table.of_get?_insert (addRow_eq_ok.mp hcontexts) hcontext with hold | ⟨rfl, -⟩
      · exact Or.inl hold
      · exact Or.inr (hsafe.keeps ⟨fun _ _ hm => hm, fun _ _ hrow => hrow, rfl⟩)

/-- A scenario is activated only in the scope that was resolved for it. -/
theorem activateContextScenario_inv (h : TenantInv r) {scope : TenantScope} {scenario : Scenario}
    {now : Time}
    (hrouted : (ContextCall.activateContextScenario scope scenario now).routed r = true) :
    TenantInv { r with
      database := ((activateContextScenario scope scenario now).run r.database).2 } := by
  obtain ⟨hscope, hworkspace⟩ := Bool.and_eq_true_iff.mp hrouted
  obtain ⟨hscope, hscenario⟩ := Bool.and_eq_true_iff.mp hscope
  have hscope : scope ∈ r.scopes := of_decide_eq_true hscope
  have hscenario : r.database.scenarios.get? scenario.id = some scenario :=
    of_decide_eq_true hscenario
  have hworkspace : scenario.workspaceId = scope.workspaceId := of_decide_eq_true hworkspace
  unfold activateContextScenario
  rcases perform_store _ _ _ r.database with hrun | ⟨context, d', -, hsave, hrun⟩
  · rw [hrun]
    exact h
  · rw [hrun]
    obtain rfl := Except.ok.inj hsave
    refine h.move ⟨?_, fun id hid => ?_, fun id hid => ?_⟩
    · rw [hworkspace]
      exact (h.scopes scope hscope).member
    · obtain rfl := Option.some.inj hid
      exact h.scenarios _ _ hscenario
    · obtain rfl := Option.some.inj hid
      exact ⟨scenario, hscenario, rfl, rfl⟩

/-- A new repository may fill its creator's context. -/
theorem CreateRepository.save_ok {q : CreateRepository} {found : Option UserContext}
    (h : q.save host found d = .ok d') :
    d.repositories.insert (q.repository host) = some d'.repositories ∧
      d'.contexts = (if q.fillsContext found then
        setContext d q.user.id q.filled q.filled_userId else d).contexts ∧
      d'.workspaces = d.workspaces ∧ d'.memberships = d.memberships ∧
      d'.scenarios = d.scenarios ∧ d'.invitations = d.invitations := by
  obtain ⟨repositories, hrepositories, h⟩ := Raise.bind_eq_ok.mp h
  obtain rfl := Raise.pure_eq_ok.mp h
  cases q.fillsContext found with
  | true => exact ⟨addRow_eq_ok.mp hrepositories, rfl, rfl, rfl, rfl, rfl⟩
  | false => exact ⟨addRow_eq_ok.mp hrepositories, rfl, rfl, rfl, rfl, rfl⟩

/-- The first repository is filled in where none was chosen, so no scenario was. -/
theorem CreateRepository.tenantInv (h : TenantInv r) (q : CreateRepository) :
    TenantInv { r with database := ((createRepository host q).run r.database).2 } := by
  rcases perform_store (q.load host) (q.save host) (fun _ _ => .ok (q.repository host)) r.database
    with hrun | ⟨found, d', hload, hsave, hrun⟩
  · rw [createRepository, hrun]
    exact h
  · rw [createRepository, hrun]
    obtain ⟨hinsert, hcontexts, hworkspaces, hmemberships, hscenarios, hinvitations⟩ :=
      q.save_ok hsave
    have hkeeps : KeepsPlaces r.database d' :=
      ⟨fun key m hm => by rw [hmemberships, hm],
        fun id row hrow => Table.get?_of_insert hinsert hrow, hscenarios⟩
    refine h.step hkeeps (fun userId context hcontext => ?_)
      (h.answerable.step (fun id w hw => by rw [hworkspaces, hw])
        (fun key m hm => Or.inl (by rw [← hmemberships, hm]))
        fun id row hrow => ⟨row, by rw [← hinvitations, hrow], rfl⟩)
    rw [hcontexts] at hcontext
    -- the context is filled in only where it shows no repository yet
    cases hfills : q.fillsContext found with
    | false =>
      rw [hfills] at hcontext
      exact Or.inl hcontext
    | true =>
      rw [hfills] at hcontext
      rcases contexts_setContext hcontext with hold | ⟨row, hrow, rfl⟩
      · exact Or.inl hold
      · obtain ⟨_, -, hload⟩ := Raise.bind_eq_ok.mp hload
        obtain ⟨_, -, hload⟩ := Raise.bind_eq_ok.mp hload
        obtain rfl := Raise.pure_eq_ok.mp hload
        rw [CreateRepository.fillsContext, hrow, Option.any_some, Bool.and_eq_true,
          decide_eq_true_eq, Option.isNone_iff_eq_none] at hfills
        obtain ⟨hworkspace, hnone⟩ := hfills
        have hold := h.contexts _ row hrow
        refine Or.inr ⟨(hold.keeps hkeeps).member, fun id hid => ?_, fun id hid => ?_⟩
        · obtain rfl := Option.some.inj hid
          exact ⟨q.repository host, Table.get?_inserted hinsert rfl, hworkspace.symm⟩
        · -- a context without a repository shows no scenario either
          obtain ⟨_, -, -, hchosen⟩ := hold.scenario id hid
          rw [hnone] at hchosen
          cases hchosen

/-- A resolved scope is that of the context, and the user is a member there. -/
theorem scopeOf_ok {user : User} {minimumRole : String} {context : UserContext}
    {scope : TenantScope} (h : scopeOf user minimumRole context d = .ok scope) :
    scope.user = user ∧ scope.workspaceId = context.workspaceId ∧
      scope.repositoryId = context.repositoryId ∧ scope.scenarioId = context.scenarioId := by
  unfold scopeOf at h
  split at h
  · cases h
  · obtain ⟨_, -, h⟩ := Raise.bind_eq_ok.mp h
    obtain ⟨_, -, h⟩ := Raise.bind_eq_ok.mp h
    obtain ⟨_, -, h⟩ := Raise.bind_eq_ok.mp h
    obtain rfl := Raise.pure_eq_ok.mp h
    exact ⟨rfl, rfl, rfl, rfl⟩

/-- The scope is read off what `ensure_context` leaves. -/
theorem resolveTenantScope_run (minimumRole : String) (q : EnsureContext) (d : Database) :
    ((resolveTenantScope minimumRole q).run d).2 = ((ensureContext q).run d).2 ∧
      ∀ scope, ((resolveTenantScope minimumRole q).run d).1 = .ok scope →
        ∃ context, ((ensureContext q).run d).1 = .ok context ∧ scope.user = q.user ∧
          scope.workspaceId = context.workspaceId ∧
          scope.repositoryId = context.repositoryId ∧ scope.scenarioId = context.scenarioId := by
  cases hensure : ensureContext q (State.start d) with
  | mk result s =>
    cases result with
    | error e =>
      have hrun : resolveTenantScope minimumRole q (State.start d) = (.error e, s) :=
        bind_of_error hensure
      rw [run_eq hrun, run_eq hensure]
      exact ⟨rfl, nofun⟩
    | ok context =>
      have hrun : resolveTenantScope minimumRole q (State.start d) =
          (scopeOf q.user minimumRole context s.cur, s) :=
        bind_of_ok hensure
      rw [run_eq hrun, run_eq hensure]
      exact ⟨rfl, fun scope hscope => ⟨context, rfl, scopeOf_ok hscope⟩⟩

/-- A resolved scope is safe when it is handed out. -/
theorem resolveTenantScope_inv (h : TenantInv r) (minimumRole : String) (q : EnsureContext) :
    TenantInv ⟨((resolveTenantScope minimumRole q).run r.database).2,
      r.scopes ++ resolvedScopes ((resolveTenantScope minimumRole q).run r.database)⟩ := by
  obtain ⟨hstore, hscope⟩ := resolveTenantScope_run minimumRole q r.database
  obtain ⟨hinv, hsafe⟩ := ensureContext_inv h q
  rw [← hstore] at hinv hsafe
  refine ⟨hinv.contexts, fun scope hmem => ?_, hinv.scenarios, hinv.answerable⟩
  rcases List.mem_append.mp hmem with hold | hnew
  · exact hinv.scopes scope hold
  · cases hresult : (resolveTenantScope minimumRole q).run r.database with
    | mk result d' =>
      cases result with
      | error e =>
        rw [hresult] at hnew
        cases hnew
      | ok resolved =>
        rw [hresult] at hnew hscope hsafe
        obtain rfl := List.mem_singleton.mp hnew
        obtain ⟨context, hcontext, huser, hworkspace, hrepository, hscenario⟩ := hscope scope rfl
        obtain ⟨hid, hplace⟩ := hsafe context hcontext
        unfold ScopeSafe
        rw [huser, hworkspace, hrepository, hscenario, ← hid]
        exact hplace

/-- A rejected call leaves the database as it was. -/
theorem ContextCall.rejected (h : Answerable d) (c : ContextCall) {e : ServiceError}
    (hrejected : (c.run host d).1 = some e) : (c.run host d).2 = d := by
  -- The outcome forgets what a call answered, but keeps its error and its database.
  have houtcome : ∀ {α : Type} (x : Except ServiceError α × Database),
      (ContextCall.run.outcome x).1 = some e → x.1 = .error e ∧ (ContextCall.run.outcome x).2 = x.2 := by
    intro α x hx
    obtain ⟨result, d'⟩ := x
    cases result with
    | ok a => cases hx
    | error e' =>
      obtain rfl := Option.some.inj hx
      exact ⟨rfl, rfl⟩
  cases c with
  | createWorkspace q =>
    obtain ⟨herror, hstore⟩ := houtcome _ hrejected
    -- only an answer could fail after the save, and it reads rows that are there
    refine hstore.trans (perform_rejected (fun found t _ hsave => ?_) herror)
    obtain ⟨workspaces, -, -, hworkspaces, -, -, rfl, -⟩ := q.save_ok hsave
    exact workspaceSummary_ok (Table.get?_inserted hworkspaces rfl)
      (List.mem_append_right _ (List.mem_singleton_self _))
  | createRepository q =>
    obtain ⟨herror, hstore⟩ := houtcome _ hrejected
    exact hstore.trans (perform_rejected (fun _ _ _ _ => ⟨_, rfl⟩) herror)
  | acceptInvitation q =>
    obtain ⟨herror, hstore⟩ := houtcome _ hrejected
    exact hstore.trans (perform_rejected (fun _ _ hload hsave => q.answer_ok h hload hsave) herror)
  | ensureContext q =>
    obtain ⟨herror, hstore⟩ := houtcome _ hrejected
    rw [ContextCall.run, hstore]
    rcases q.run_cases d with ⟨e', hrun⟩ | ⟨context, -, hrun⟩ | ⟨visit, d', -, -, hrun⟩
    · rw [hrun]
    · rw [hrun]
    · rw [hrun] at herror
      cases herror
  | selectUserContext q =>
    obtain ⟨herror, hstore⟩ := houtcome _ hrejected
    exact hstore.trans (perform_rejected (fun _ _ _ _ => ⟨_, rfl⟩) herror)
  | activateContextScenario scope scenario now =>
    obtain ⟨herror, hstore⟩ := houtcome _ hrejected
    exact hstore.trans (perform_rejected (fun _ _ _ _ => ⟨_, rfl⟩) herror)

/-- Every routed call keeps the contexts safe. -/
theorem ContextCall.tenantInv (h : TenantInv r) (c : ContextCall) (hrouted : c.routed r = true) :
    TenantInv { r with database := (c.run host r.database).2 } := by
  have houtcome : ∀ {α : Type} (x : Except ServiceError α × Database),
      (ContextCall.run.outcome x).2 = x.2 := by
    intro α x
    obtain ⟨result, d'⟩ := x
    cases result with
    | ok a => rfl
    | error e => rfl
  cases c with
  | createWorkspace q => rw [ContextCall.run, houtcome]; exact q.tenantInv h
  | createRepository q => rw [ContextCall.run, houtcome]; exact q.tenantInv h
  | acceptInvitation q => rw [ContextCall.run, houtcome]; exact q.tenantInv h
  | ensureContext q => rw [ContextCall.run, houtcome]; exact (ensureContext_inv h q).1
  | selectUserContext q => rw [ContextCall.run, houtcome]; exact q.tenantInv h
  | activateContextScenario scope scenario now =>
    rw [ContextCall.run, houtcome]
    exact activateContextScenario_inv h hrouted

end Steps

/-! ## Contexts and scopes of every run -/

/-- In every run the stored contexts and the resolved scopes are safe, and a rejected
call changes nothing. -/
theorem tenant_context_safe {host : Host} {r : TenantState} (h : Reachable (tenantSystem host) r) :
    (∀ userId context, r.database.contexts.get? userId = some context →
        ContextSafe r.database context) ∧
      (∀ minimumRole q scope, ((resolveTenantScope minimumRole q).run r.database).1 = .ok scope →
        ScopeSafe ((resolveTenantScope minimumRole q).run r.database).2 scope) ∧
      ∀ c : ContextCall, ∀ e, (c.run host r.database).1 = some e →
        (c.run host r.database).2 = r.database := by
  have hinv : Invariant (tenantSystem host) (fun _ _ => True) TenantInv := by
    refine ⟨fun r hinit => hinit, fun r action r' hr _ hstep => ?_⟩
    cases action with
    | call c =>
      obtain ⟨hrouted, hsome⟩ := Option.ite_none_right_eq_some.mp hstep
      obtain rfl := Option.some.inj hsome
      exact c.tenantInv hr hrouted
    | resolve minimumRole q =>
      obtain rfl := Option.some.inj hstep
      exact resolveTenantScope_inv hr minimumRole q
  have hr := hinv.reachable h
  refine ⟨hr.contexts, fun minimumRole q scope hscope => ?_,
    fun c e hrejected => c.rejected hr.answerable hrejected⟩
  refine (resolveTenantScope_inv hr minimumRole q).scopes scope (List.mem_append_right _ ?_)
  rw [← Prod.mk.eta (p := (resolveTenantScope minimumRole q).run r.database), hscope]
  exact List.mem_singleton_self _

/-! A workspace, its first repository, and the scope that is resolved. -/

def contextRun : List TenantAction :=
  [.call (.createWorkspace ⟨alice, "Acme", "acme", "r-1", "w-1", "m-1", fun _ => 0⟩),
    .call (.createRepository
      ⟨alice, "w-1", "acme/shop", "main", "private", "r-2", "repo-1", fun _ => 1⟩),
    .resolve "viewer" ⟨alice, false, "m-2", fun _ => 2⟩]

/-- A user with one workspace and its repository. -/
theorem tenant_context_safe_shop :
    ∃ r, Reachable (tenantSystem asciiHost) r ∧
      r.database.contexts.get? "u-1" = some ⟨"u-1", "w-1", some "repo-1", none, 1⟩ ∧
      r.scopes = [⟨alice, "w-1", some "repo-1", none, "owner"⟩] ∧
      ContextSafe r.database ⟨"u-1", "w-1", some "repo-1", none, 1⟩ := by
  let r₀ : TenantState := ⟨Database.empty, []⟩
  have hends : ((tenantSystem asciiHost).run r₀ contextRun).map (fun r =>
      (r.database.contexts.get? "u-1", r.scopes)) =
      some (some ⟨"u-1", "w-1", some "repo-1", none, 1⟩,
        [⟨alice, "w-1", some "repo-1", none, "owner"⟩]) := by decide +kernel
  obtain ⟨r, hrun, hlast⟩ := Option.map_eq_some_iff.mp hends
  obtain ⟨hcontext, hscopes⟩ := Prod.mk.inj hlast
  have hstart : TenantInv r₀ := by
    refine ⟨fun id context hcontext => ?_, fun scope hscope => ?_, fun id row hrow => ?_,
      fun key m hm => ?_, fun id row hrow => ?_⟩
    · cases hcontext
    · cases hscope
    · cases hrow
    · cases hm
    · cases hrow
  have hreach : Reachable (tenantSystem asciiHost) r := .of_run (.init hstart) hrun
  exact ⟨r, hreach, hcontext, hscopes, (tenant_context_safe hreach).1 _ _ hcontext⟩

end DeployGuard.Service
