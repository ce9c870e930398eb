import DeployGuard.Lib.Session
import DeployGuard.Service.Engines

/-!
# Services: the tables

The rows the service modules read and write, with the columns they use, and the
database they live in. A table whose row identifiers are drawn with `uuid4` and
that has a unique constraint of its own is keyed by that constraint (the event
ledger, webhook deliveries, deployments); the others are keyed by `id`.

`DatabaseCall` is a service function: a call on a session of this store.
-/

namespace DeployGuard.Service

def legacyWorkspaceId : String := "00000000-0000-0000-0000-000000000002"
def legacyRepositoryId : String := "00000000-0000-0000-0000-000000000003"

structure Workspace where
  id : String
  name : String
  slug : String
  createdByUserId : String
  createdAt : Time
  updatedAt : Time
  deriving DecidableEq

structure WorkspaceMembership where
  id : String
  workspaceId : String
  userId : String
  role : String
  joinedAt : Time
  deriving DecidableEq

/-- The columns of `uq_workspace_member`. -/
def WorkspaceMembership.identity (row : WorkspaceMembership) : String × String :=
  (row.workspaceId, row.userId)

structure Repository where
  id : String
  workspaceId : String
  provider : String
  providerRepositoryId : String
  fullName : String
  defaultBranch : String
  visibility : String
  connectionState : String
  dataMode : String
  selected : Bool
  lastSyncedAt : Option Time
  createdAt : Time
  deriving DecidableEq

/-- A row of `services`. -/
structure ServiceCatalogEntry where
  id : String
  workspaceId : String
  name : String
  slug : String
  description : String
  tier : String
  lifecycle : String
  ownerTeam : String
  repositoryId : Option String
  dependencies : List String
  runbookUrl : Option String
  tags : List String
  createdAt : Time
  updatedAt : Time
  deriving DecidableEq

structure ProviderConnection where
  id : String
  workspaceId : String
  provider : String
  installationId : String
  externalAccountId : String
  externalAccountLogin : String
  externalAccountType : String
  connectionState : String
  permissions : Items
  repositorySelection : String
  createdByUserId : String
  createdAt : Time
  updatedAt : Time
  lastSyncedAt : Option Time
  errorCode : Option String
  deriving DecidableEq

/-- The state of an installation that was begun. -/
structure ProviderAuthorizationState where
  id : String
  stateHash : String
  provider : String
  workspaceId : String
  userId : String
  createdAt : Time
  expiresAt : Time
  consumedAt : Option Time
  deriving DecidableEq

structure WebhookDelivery where
  id : String
  provider : String
  deliveryId : String
  eventType : String
  installationId : Option String
  workspaceId : Option String
  repositoryId : Option String
  status : String
  createdAt : Time
  deriving DecidableEq

/-- The provider's name for a delivery. -/
def WebhookDelivery.identity (row : WebhookDelivery) : String × String :=
  (row.provider, row.deliveryId)

/-- A `service_graph`: its node and edge objects. -/
structure ServiceGraph where
  nodes : List Items
  edges : List Items
  updatedAt : Value
  deriving DecidableEq

structure Scenario where
  id : String
  workspaceId : String
  repositoryId : String
  dataMode : String
  isActive : Bool
  sortOrder : Int
  activeChangeId : Option String
  activeIncidentId : Option String
  serviceGraph : ServiceGraph
  deriving DecidableEq

/-- A row of `changes`. -/
structure ChangeRecord where
  id : String
  workspaceId : String
  repositoryId : String
  scenarioId : String
  dataMode : String
  analysisSchemaVersion : String
  engineVersion : String
  scoringPolicyVersion : String
  graphVersion : String
  title : String
  repository : String
  author : String
  commitSha : String
  branch : String
  createdAt : Time
  deploymentStatus : String
  deploymentEnvironment : String
  changedServices : List String
  filesChanged : Int
  linesAdded : Int
  linesDeleted : Int
  flags : List String
  testCoverage : Option ℚ
  rollbackReady : Option Bool
  observabilityScore : Option ℚ
  previousFailures : Option Int
  risk : Risk
  blastRadius : BlastRadius
  deriving DecidableEq

/-- An item of an incident's `evidence`. -/
structure Evidence where
  id : String
  type : String
  source : String
  timestamp : Time
  summary : String
  value : Value
  quality : ℚ
  serviceId : Option String
  supports : List String
  contradicts : List String
  deriving DecidableEq

/-- An item of an incident's `hypotheses`. -/
structure Hypothesis where
  id : String
  rank : Nat
  causeService : String
  cause : String
  confidence : ℚ
  score : Nat
  evidenceIds : List String
  counterEvidenceIds : List String
  reasoning : String
  nextStep : String
  status : String
  deriving DecidableEq

/-- A row of `incidents`. Its documents are as the schema of an incident reads
them; the timeline is kept as the objects stored. -/
structure IncidentRecord where
  id : String
  workspaceId : String
  repositoryId : String
  scenarioId : String
  dataMode : String
  analysisSchemaVersion : String
  engineVersion : String
  scoringPolicyVersion : String
  graphVersion : String
  title : String
  severity : String
  status : String
  assigneeUserId : Option String
  startedAt : Time
  resolvedAt : Option Time
  affectedServices : List String
  correlatedChangeId : Option String
  summary : String
  timeline : List Items
  evidence : List Evidence
  hypotheses : List Hypothesis
  deriving DecidableEq

/-- A row of the event ledger. -/
structure OperationalEvent where
  id : String
  providerEventId : String
  workspaceId : String
  repositoryId : Option String
  serviceId : Option String
  incidentId : Option String
  source : String
  eventType : String
  occurredAt : Time
  severity : String
  summary : String
  attributes : Items
  provenance : Items
  ingestionStatus : String
  ingestedAt : Time
  deriving DecidableEq

/-- The columns of `uq_operational_event_provider`. -/
def OperationalEvent.identity (row : OperationalEvent) : String × String × String :=
  (row.workspaceId, row.source, row.providerEventId)

/-- A row of `deployments`. -/
structure DeploymentRecord where
  id : String
  workspaceId : String
  repositoryId : String
  changeId : Option String
  provider : String
  providerDeploymentId : String
  environment : String
  commitSha : Option String
  ref : Option String
  status : String
  providerUrl : Option String
  serviceIds : List String
  provenance : Items
  lastEventId : Option String
  providerCreatedAt : Time
  providerUpdatedAt : Time
  finishedAt : Option Time
  version : Int
  createdAt : Time
  updatedAt : Time
  deriving DecidableEq

/-- The columns of `uq_deployment_workspace_provider_identity`. -/
def DeploymentRecord.identity (row : DeploymentRecord) : String × String × String :=
  (row.workspaceId, row.provider, row.providerDeploymentId)

/-- The Check Run of a commit, as far as it is known here. -/
structure GitHubCheckPublication where
  id : String
  workspaceId : String
  repositoryId : String
  changeId : String
  headSha : String
  externalId : String
  providerCheckId : Option String
  status : String
  conclusion : Option String
  detailsUrl : String
  attemptCount : Int
  lastErrorCode : Option String
  nextRetryAt : Option Time
  createdAt : Time
  updatedAt : Time
  publishedAt : Option Time
  deriving DecidableEq

/-- The columns of `uq_github_check_repository_head`. -/
def GitHubCheckPublication.identity (row : GitHubCheckPublication) : String × String :=
  (row.repositoryId, row.headSha)

structure WorkspaceRiskPolicy where
  workspaceId : String
  enabled : Bool
  warnThreshold : Int
  blockThreshold : Int
  requireTests : Bool
  requireRollback : Bool
  maxBlastRadius : Int
  version : Int
  deriving DecidableEq

/-- A row of the audit log. -/
structure AuditEvent where
  workspaceId : String
  actorUserId : Option String
  action : String
  resourceType : String
  resourceId : String
  requestId : String
  metadata : Items
  createdAt : Time
  deriving DecidableEq

/-- The database. -/
structure Store where
  workspaces : Table Workspace.id
  memberships : Table WorkspaceMembership.identity
  repositories : Table Repository.id
  services : Table ServiceCatalogEntry.id
  connections : Table ProviderConnection.id
  authorizationStates : Table ProviderAuthorizationState.stateHash
  scenarios : Table Scenario.id
  incidents : Table IncidentRecord.id
  changes : Table ChangeRecord.id
  events : Table OperationalEvent.identity
  deliveries : Table WebhookDelivery.identity
  deployments : Table DeploymentRecord.identity
  publications : Table GitHubCheckPublication.identity
  riskPolicies : Table WorkspaceRiskPolicy.workspaceId
  jobs : Jobs.JobTable
  auditEvents : List AuditEvent
  deriving DecidableEq

namespace Store

/-- A database without rows. -/
def empty : Store := ⟨∅, ∅, ∅, ∅, ∅, ∅, ∅, ∅, ∅, ∅, ∅, ∅, ∅, ∅, ∅, []⟩

/-- `audit(…)`. -/
def audit (entry : AuditEvent) (s : Store) : Store :=
  { s with auditEvents := s.auditEvents ++ [entry] }

end Store

/-- A service function on a database session. -/
abbrev DatabaseCall (α : Type) : Type := Session.Call Store ServiceError α

/-! ## Lookups -/

/-- `_repository_for_workspace`. -/
def repositoryForWorkspace (s : Store) (workspaceId : String) :
    Option String → Except ServiceError (Option Repository)
  | none => .ok none
  | some repositoryId =>
    match s.repositories.rows.find? fun row =>
        row.id = repositoryId ∧ row.workspaceId = workspaceId with
    | some repository => .ok (some repository)
    | none => .error (.domain "Repository not found" "repository_not_found" 404)

/-- `ROLE_LEVEL`. -/
def roleLevel : Dict String Int :=
  [("viewer", 10), ("responder", 20), ("admin", 30), ("owner", 40)]

/-- `ROLE_LEVEL[role]`. -/
def levelOf (role : String) : Except ServiceError Int :=
  match roleLevel.get? role with
  | some level => .ok level
  | none => .error (.keyError role)

/-- `membership_for`. -/
def membershipFor (s : Store) (userId workspaceId minimumRole : String) :
    Except ServiceError WorkspaceMembership :=
  match s.memberships.get? (workspaceId, userId) with
  | none => .error (.domain "Workspace not found" "workspace_not_found" 404)
  | some membership => do
    let level ← levelOf membership.role
    let minimum ← levelOf minimumRole
    Raise.raiseIf (level < minimum)
      (.domain "You do not have permission for this action" "forbidden" 403)
    pure membership

/-- `_service_for_workspace`. -/
def serviceForWorkspace (s : Store) (workspaceId serviceId : String) :
    Except ServiceError ServiceCatalogEntry :=
  match s.services.rows.find? fun row => row.id = serviceId ∧ row.workspaceId = workspaceId with
  | some service => .ok service
  | none => .error (.domain "Service not found" "service_not_found" 404)

end DeployGuard.Service
