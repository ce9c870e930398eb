import DeployGuard.Service.Webhook

/-!
# The GitHub connection

The provider services: an installation is begun, which stores the hash of a
state token, and completed by the callback that brings the token back; its
repositories are synchronised; it is disconnected. What GitHub answers is an
argument.
-/

namespace DeployGuard.Service

open Raise Session Session.Call

def providerAudit (workspaceId : String) (actorUserId : Option String)
    (action resourceId requestId : String) (metadata : Items) (now : Time) : AuditEvent where
  workspaceId := workspaceId
  actorUserId := actorUserId
  action := action
  resourceType := "provider_connection"
  resourceId := resourceId
  requestId := requestId
  metadata := metadata
  createdAt := now

/-- `GET …` through `github_client(settings)`: without an app there is no client. -/
def githubAnswer {α : Type} (available : Bool) (answer : Except ServiceError α) :
    Except ServiceError α := do
  raiseIf (available = false)
    (.domain "GitHub App is not configured" "github_app_not_configured" 503)
  answer

/-! ## Beginning -/

/-- A request of a member about the provider, and what it draws. -/
structure ProviderRequest where
  userId : String
  workspaceId : String
  requestId : String
  appAvailable : Bool
  newId : String
  now : Time

def newAuthorizationState (host : Host) (q : ProviderRequest) (rawState : String) :
    ProviderAuthorizationState where
  id := q.newId
  stateHash := tokenDigest host rawState
  provider := "github"
  workspaceId := q.workspaceId
  userId := q.userId
  createdAt := q.now
  expiresAt := q.now + minutes 10
  consumedAt := none

/-- `begin_github_installation`. -/
def beginGithubInstallation (host : Host) (q : ProviderRequest) (rawState : String) :
    DatabaseCall Time := do
  let _ ← query fun s => membershipFor s q.userId q.workspaceId "admin"
  lift (raiseIf (q.appAvailable = false)
    (.domain "GitHub App is not configured" "github_app_not_configured" 503))
  match ← read fun s => s.authorizationStates.insert (newAuthorizationState host q rawState) with
  | some states =>
    write fun s => { s with authorizationStates := states }.audit
      (providerAudit q.workspaceId (some q.userId) "provider.github.install_started" "github"
        q.requestId [] q.now)
    commit
    pure (q.now + minutes 10)
  | none => raise .integrityError

/-! ## Completing -/

/-- A callback of GitHub, with the moment its state is checked. -/
structure InstallationCallback where
  installationId : String
  rawState : String
  setupAction : String
  requestId : String
  appAvailable : Bool
  newId : String
  checkedAt : Time
  now : Time

/-- The state of a callback's token, if it is valid at the moment of the check. -/
def validState (host : Host) (cb : InstallationCallback) (s : Store) :
    Except ServiceError ProviderAuthorizationState :=
  match s.authorizationStates.get? (tokenDigest host cb.rawState) with
  | some state =>
    if state.provider = "github" ∧ state.consumedAt = none ∧ cb.checkedAt < state.expiresAt then
      .ok state
    else .error (.domain "GitHub installation state is invalid or expired"
      "invalid_provider_state" 400)
  | none => .error (.domain "GitHub installation state is invalid or expired"
      "invalid_provider_state" 400)

/-- The state token and the setup action of a callback. -/
def authorizeCallback (host : Host) (cb : InstallationCallback) (s : Store) :
    Except ServiceError ProviderAuthorizationState := do
  let state ← validState host cb s
  raiseIf (["install", "update"].contains cb.setupAction = false)
    (.domain "GitHub installation was not completed" "github_installation_incomplete" 400)
  pure state

/-- What a connection records of an installation. -/
structure InstallationAccount where
  accountId : String
  login : String
  accountType : String
  permissions : Items
  repositorySelection : String
  deriving DecidableEq

/-- The account of GitHub's answer. -/
def readInstallation (host : Host) (installation : Items) :
    Except ServiceError InstallationAccount := do
  let account ← asObject (getItem installation "account")
  raiseIf ((getItem account "id").truthy = false ∨ (getItem account "login").truthy = false)
    (.domain "GitHub installation account is incomplete" "github_installation_invalid" 502)
  pure
    { accountId := host.str (getItem account "id")
      login := host.str (getItem account "login")
      accountType := host.str (getItemD account "type" (.str "Account"))
      permissions := objectOrEmpty (getItem installation "permissions")
      repositorySelection :=
        host.str (getItemD installation "repository_selection" (.str "selected")) }

/-- An installation of another workspace is refused. -/
def checkInstallationFree (installationId workspaceId : String) (s : Store) :
    Except ServiceError Unit :=
  raiseIf ((s.connections.rows.find? fun row => row.installationId = installationId).any
      (fun row => row.workspaceId ≠ workspaceId) = true)
    (.domain "GitHub installation is already linked to another workspace"
      "github_installation_already_linked" 409)

/-- The connection of a workspace. -/
def workspaceConnection (s : Store) (workspaceId : String) : Option ProviderConnection :=
  s.connections.rows.find? fun row => row.workspaceId = workspaceId ∧ row.provider = "github"

/-- A signed webhook told of the installation. -/
def installationSigned (s : Store) (installationId : String) : Bool :=
  s.deliveries.rows.any fun row =>
    row.provider = "github" && row.installationId = some installationId &&
      isInstallationEvent row.eventType && ["verified", "verified_unmapped"].contains row.status

/-- `verified_state`. -/
def verifiedState (signed : Bool) : String :=
  if signed then "connected" else "pending_verification"

def newConnection (cb : InstallationCallback) (state : ProviderAuthorizationState)
    (account : InstallationAccount) (signed : Bool) : ProviderConnection where
  id := cb.newId
  workspaceId := state.workspaceId
  provider := "github"
  installationId := cb.installationId
  externalAccountId := account.accountId
  externalAccountLogin := account.login
  externalAccountType := account.accountType
  connectionState := verifiedState signed
  permissions := account.permissions
  repositorySelection := account.repositorySelection
  createdByUserId := state.userId
  createdAt := cb.now
  updatedAt := cb.now
  lastSyncedAt := none
  errorCode := none

def relinkConnection (cb : InstallationCallback) (account : InstallationAccount) (signed : Bool)
    (row : ProviderConnection) : ProviderConnection :=
  { row with
    installationId := cb.installationId
    externalAccountId := account.accountId
    externalAccountLogin := account.login
    externalAccountType := account.accountType
    connectionState := verifiedState signed
    permissions := account.permissions
    repositorySelection := account.repositorySelection
    updatedAt := cb.now
    errorCode := none }

@[simp] theorem relinkConnection_id (cb : InstallationCallback) (account : InstallationAccount)
    (signed : Bool) (row : ProviderConnection) :
    (relinkConnection cb account signed row).id = row.id := rfl

/-- `uq_workspace_provider_connection` and the uniqueness of `installation_id`. -/
def connectionsUnique (connections : Table ProviderConnection.id) : Bool :=
  (connections.rows.map fun row => (row.workspaceId, row.provider)).Nodup ∧
    (connections.rows.map (·.installationId)).Nodup

/-- The linked connection, added or set. -/
def linkRow (cb : InstallationCallback) (state : ProviderAuthorizationState)
    (account : InstallationAccount) (signed : Bool) (connections : Table ProviderConnection.id) :
    Option ProviderConnection →
      Except ServiceError (ProviderConnection × Table ProviderConnection.id)
  | none =>
    match connections.insert (newConnection cb state account signed) with
    | some connections => .ok (newConnection cb state account signed, connections)
    | none => .error .integrityError
  | some connection =>
    .ok (relinkConnection cb account signed connection,
      connections.updateWhere (fun row => row.id = connection.id)
        (relinkConnection cb account signed) (relinkConnection_id cb account signed))

/-- The connections with the installation linked. -/
def linkConnections (cb : InstallationCallback) (state : ProviderAuthorizationState)
    (account : InstallationAccount) (existing : Option ProviderConnection) (signed : Bool)
    (connections : Table ProviderConnection.id) :
    Except ServiceError (ProviderConnection × Table ProviderConnection.id) := do
  let linked ← linkRow cb state account signed connections existing
  raiseIf (connectionsUnique linked.2 = false) .integrityError
  pure linked

def consume (now : Time) (row : ProviderAuthorizationState) : ProviderAuthorizationState :=
  { row with consumedAt := some now }

@[simp] theorem consume_stateHash (now : Time) (row : ProviderAuthorizationState) :
    (consume now row).stateHash = row.stateHash := rfl

/-- What a callback that succeeds writes: the connection, the consumed state and
an audit entry. -/
def saveInstallation (cb : InstallationCallback) (state : ProviderAuthorizationState)
    (linked : ProviderConnection × Table ProviderConnection.id) (s : Store) : Store :=
  { s with
    connections := linked.2
    authorizationStates := s.authorizationStates.updateWhere
      (fun row => row.stateHash = state.stateHash) (consume cb.now) (consume_stateHash cb.now)
    }.audit
    (providerAudit state.workspaceId (some state.userId)
      (if linked.1.connectionState = "connected" then "provider.github.connected"
        else "provider.github.pending_verification")
      linked.1.id cb.requestId
      [("account_login", .str linked.1.externalAccountLogin),
        ("installation_id", .str cb.installationId)] cb.now)

/-- `complete_github_installation`. -/
def completeGithubInstallation (host : Host) (cb : InstallationCallback)
    (answer : Except ServiceError Items) : DatabaseCall ProviderConnection := do
  let state ← query (authorizeCallback host cb)
  let installation ← lift (githubAnswer cb.appAvailable answer)
  let account ← lift (readInstallation host installation)
  query (checkInstallationFree cb.installationId state.workspaceId)
  let existing ← read fun s => workspaceConnection s state.workspaceId
  let signed ← read fun s => installationSigned s cb.installationId
  let linked ← query fun s => linkConnections cb state account existing signed s.connections
  write (saveInstallation cb state linked)
  commit
  pure linked.1

/-! ## Repositories -/

/-- `github_connection`. -/
def githubConnection (s : Store) (userId workspaceId : String) :
    Except ServiceError ProviderConnection := do
  let _ ← membershipFor s userId workspaceId "viewer"
  match workspaceConnection s workspaceId with
  | some connection => pure connection
  | none => .error (.domain "GitHub App is not connected" "github_connection_not_found" 404)

/-- The member and the connection of an administrator's request. -/
def administeredConnection (q : ProviderRequest) (s : Store) :
    Except ServiceError ProviderConnection := do
  let _ ← membershipFor s q.userId q.workspaceId "admin"
  githubConnection s q.userId q.workspaceId

/-- `_visibility`. -/
def visibilityOf (host : Host) (repository : Items) : String :=
  let value := host.lower (host.str (firstTruthy [getItem repository "visibility", .str ""]))
  if ["public", "private", "internal"].contains value then value
  else if (getItem repository "private").truthy then "private" else "public"

/-- The accessible repositories by their provider id. -/
def repositoriesById (host : Host) (available : List Items) : Dict String Items :=
  Dict.ofItems ((available.filter fun item => (getItem item "id").truthy).map fun item =>
    (host.str (getItem item "id"), item))

def isWorkspaceRepository (workspaceId : String) (row : Repository) : Bool :=
  row.workspaceId = workspaceId ∧ row.provider = "github"

/-- What a repository takes over from the provider. -/
structure RepositorySource where
  fullName : String
  defaultBranch : String
  visibility : String

def readRepository (host : Host) (source : Items) : Except ServiceError RepositorySource := do
  let fullName ← requireItem source "full_name"
  pure
    { fullName := host.str fullName
      defaultBranch := host.str (firstTruthy [getItem source "default_branch", .str "main"])
      visibility := visibilityOf host source }

def importedRepository (q : ProviderRequest) (providerId newId : String) (source : RepositorySource) :
    Repository where
  id := newId
  workspaceId := q.workspaceId
  provider := "github"
  providerRepositoryId := providerId
  fullName := source.fullName
  defaultBranch := source.defaultBranch
  visibility := source.visibility
  connectionState := "connected"
  dataMode := "connected"
  selected := true
  lastSyncedAt := some q.now
  createdAt := q.now

def refreshRepository (q : ProviderRequest) (source : RepositorySource) (row : Repository) :
    Repository :=
  { row with
    fullName := source.fullName
    defaultBranch := source.defaultBranch
    visibility := source.visibility
    connectionState := "connected"
    dataMode := "connected"
    selected := true
    lastSyncedAt := some q.now }

@[simp] theorem refreshRepository_id (q : ProviderRequest) (source : RepositorySource)
    (row : Repository) : (refreshRepository q source row).id = row.id := rfl

/-- The scenario of a connected repository. -/
def connectedScenario (host : Host) (repository : Repository) (now : Time) : Scenario where
  id := s!"github-{repository.id}"
  workspaceId := repository.workspaceId
  repositoryId := repository.id
  dataMode := "connected"
  isActive := true
  sortOrder := 1
  activeChangeId := none
  activeIncidentId := none
  serviceGraph := ⟨[], [], .str (host.isoformat now)⟩

/-- `_ensure_connected_scenario`. -/
def ensureConnectedScenario (host : Host) (repository : Repository) (now : Time) :
    DatabaseCall Unit := do
  let known ← read fun s => s.scenarios.rows.any fun row =>
    row.workspaceId = repository.workspaceId && row.repositoryId = repository.id &&
      row.dataMode = "connected"
  if known then pure ()
  else
    match ← read fun s => s.scenarios.insert (connectedScenario host repository now) with
    | some scenarios => write fun s => { s with scenarios := scenarios }
    | none => raise .integrityError

/-- `session.add(Repository(…))` and its flush. -/
def addRepository (repository : Repository) : DatabaseCall Repository := do
  match ← read fun s => s.repositories.insert repository with
  | some repositories =>
    write fun s => { s with repositories := repositories }
    pure repository
  | none => raise .integrityError

def updateRepository (q : ProviderRequest) (source : RepositorySource) (repository : Repository) :
    DatabaseCall Repository := do
  write fun s => { s with
    repositories := s.repositories.updateWhere (fun row => row.id = repository.id)
      (refreshRepository q source) (refreshRepository_id q source) }
  pure (refreshRepository q source repository)

/-- The row of a requested repository, which may be known already. -/
def storeRepository (q : ProviderRequest) (existing : List Repository) (providerId newId : String)
    (source : RepositorySource) : DatabaseCall Repository :=
  match existing.find? fun row => row.providerRepositoryId = providerId with
  | none => addRepository (importedRepository q providerId newId source)
  | some repository => updateRepository q source repository

/-- One requested repository. -/
def syncRepository (host : Host) (q : ProviderRequest) (existing : List Repository)
    (byId : Dict String Items) (newId : String → String) (providerId : String) :
    DatabaseCall Unit := do
  let source ← lift (readRepository host ((byId.get? providerId).getD []))
  let repository ← storeRepository q existing providerId (newId providerId) source
  ensureConnectedScenario host repository q.now

/-- The requested repositories, one after another. -/
def syncAll (host : Host) (q : ProviderRequest) (existing : List Repository)
    (byId : Dict String Items) (newId : String → String) : List String → DatabaseCall Unit
  | [] => pure ()
  | providerId :: rest => do
    syncRepository host q existing byId newId providerId
    syncAll host q existing byId newId rest

def deselectRepository (row : Repository) : Repository := { row with selected := false }

@[simp] theorem deselectRepository_id (row : Repository) :
    (deselectRepository row).id = row.id := rfl

def touchConnection (now : Time) (row : ProviderConnection) : ProviderConnection :=
  { row with lastSyncedAt := some now, updatedAt := now }

@[simp] theorem touchConnection_id (now : Time) (row : ProviderConnection) :
    (touchConnection now row).id = row.id := rfl

/-- The repositories that were not requested, the connection and the audit entry. -/
def finishSync (q : ProviderRequest) (connection : ProviderConnection) (requested : List String)
    (s : Store) : Store :=
  { s with
    repositories := s.repositories.updateWhere
      (fun row => isWorkspaceRepository q.workspaceId row &&
        !requested.contains row.providerRepositoryId)
      deselectRepository deselectRepository_id
    connections := s.connections.updateWhere (fun row => row.id = connection.id)
      (touchConnection q.now) (touchConnection_id q.now) }.audit
    (providerAudit q.workspaceId (some q.userId) "provider.github.repositories_synced"
      connection.id q.requestId [("selected_count", .int requested.length)] q.now)

/-- `GitHubRepositorySyncResponse`. -/
structure RepositorySync where
  imported : Nat
  deselected : Nat
  syncedAt : Time
  deriving DecidableEq

def syncResponse (q : ProviderRequest) (existing : List Repository) (requested : List String) :
    RepositorySync where
  imported := requested.countP fun id => !existing.any fun row => row.providerRepositoryId = id
  deselected := existing.countP fun row =>
    row.selected && !requested.contains row.providerRepositoryId
  syncedAt := q.now

/-- `sync_github_repositories`. The identifiers of new rows are drawn by provider id. -/
def syncGithubRepositories (host : Host) (q : ProviderRequest) (repositoryIds : List String)
    (newId : String → String) (answer : Except ServiceError (List Items)) :
    DatabaseCall RepositorySync := do
  let connection ← query (administeredConnection q)
  let available ← lift (githubAnswer q.appAvailable answer)
  let byId := repositoriesById host available
  let requested := repositoryIds.dedup
  lift (raiseIf (requested.any (fun id => !byId.contains id) = true)
    (.domain "One or more repositories are not accessible to this installation"
      "github_repository_not_accessible" 400))
  let existing ← read fun s => s.repositories.select (isWorkspaceRepository q.workspaceId)
  syncAll host q existing byId newId requested
  write (finishSync q connection requested)
  commit
  pure (syncResponse q existing requested)

/-! ## Disconnecting -/

def revokeRepository (row : Repository) : Repository :=
  { row with connectionState := "revoked", selected := false }

@[simp] theorem revokeRepository_id (row : Repository) : (revokeRepository row).id = row.id := rfl

/-- What a disconnection writes. -/
def disconnect (q : ProviderRequest) (connection : ProviderConnection) (s : Store) : Store :=
  { s with
    connections := s.connections.updateWhere (fun row => row.id = connection.id)
      (setConnectionState "revoked" q.now) (setConnectionState_id "revoked" q.now)
    repositories := s.repositories.updateWhere (isWorkspaceRepository q.workspaceId)
      revokeRepository revokeRepository_id }.audit
    (providerAudit q.workspaceId (some q.userId) "provider.github.disconnected" connection.id
      q.requestId [] q.now)

/-- `disconnect_github`. -/
def disconnectGithub (q : ProviderRequest) : DatabaseCall ProviderConnection := do
  let connection ← query (administeredConnection q)
  write (disconnect q connection)
  commit
  pure (setConnectionState "revoked" q.now connection)

/-! ## A workspace -/

def acmeConnection : ProviderConnection where
  id := "pc-1"
  workspaceId := "w-1"
  provider := "github"
  installationId := "77"
  externalAccountId := "9"
  externalAccountLogin := "acme"
  externalAccountType := "Organization"
  connectionState := "connected"
  permissions := []
  repositorySelection := "selected"
  createdByUserId := "u-1"
  createdAt := 0
  updatedAt := 0
  lastSyncedAt := none
  errorCode := none

def acmeAdmin : WorkspaceMembership := ⟨"m-1", "w-1", "u-1", "admin", 0⟩

/-- A workspace with an administrator. -/
def acmeStore : Store :=
  { Store.empty with
    workspaces := ⟨[⟨"w-1", "Acme", "acme", "u-1", 0, 0⟩], by decide⟩
    memberships := ⟨[acmeAdmin], by decide⟩ }

/-- The same, with GitHub connected. -/
def linkedStore : Store := { acmeStore with connections := ⟨[acmeConnection], by decide⟩ }

def acmeRequest (now : Time) : ProviderRequest := ⟨"u-1", "w-1", "req-1", true, "row-1", now⟩

def acmeConfig : WebhookConfig := ⟨"secret", false, none⟩

def acmeCall (now : Time) : WebhookCall := ⟨now, "wd-1", "ev-1", "dp-1", "job-1", none, none, none⟩

def acmeCallback : InstallationCallback where
  installationId := "77"
  rawState := "token"
  setupAction := "install"
  requestId := "req-2"
  appAvailable := true
  newId := "pc-1"
  checkedAt := seconds 60
  now := seconds 61

/-- What GitHub says of the installation. -/
def acmeInstallation : Items := [("account", .dict [("id", .int 9), ("login", .str "acme")])]

end DeployGuard.Service
