import DeployGuard.Service.Analysis
import DeployGuard.Service.Contracts
import DeployGuard.Service.Deployment

/-!
# GitHub webhooks

`process_github_webhook` and the normalisation of a delivery into an operational
event. A delivery of a pull request commits five times before it is done (the
delivery row, the processing mark, the change, the scenario's pointer, the
event) and then once for the publication job together with the processed mark.
-/

namespace DeployGuard.Service

open Raise Session Session.Call

/-! ## Deliveries and calls -/

/-- A delivery as it arrives. -/
structure GithubDelivery where
  eventType : String
  deliveryId : String
  payload : Items
  signature : String
  rawBody : List UInt8
  deriving DecidableEq

/-- What the server is configured with. -/
structure WebhookConfig where
  secret : String
  allowSyntheticFallback : Bool
  settings : Option Settings

/-- What one call reads besides the delivery: its moment, the identifiers it
draws, and the metadata of the request. -/
structure WebhookCall where
  now : Time
  newDeliveryId : String
  newEventId : String
  newDeploymentId : String
  newJobId : String
  requestIdValue : Option String
  traceparent : Option String
  tracestate : Option String

/-- `GitHubWebhookResponse`. -/
structure WebhookResponse where
  status : String
  event : String
  deliveryId : String
  changeId : Option String
  detail : String
  deriving DecidableEq

def respond (d : GithubDelivery) (status detail : String) : WebhookResponse where
  status := status
  event := d.eventType
  deliveryId := d.deliveryId
  changeId := none
  detail := detail

/-! ## The signature -/

/-- `verify_github_signature`. -/
def verifyGithubSignature (host : Host) (secret : String) (rawBody : List UInt8)
    (signatureHeader : String) : Except ServiceError Bool :=
  if signatureHeader = "" ∨ secret = "" ∨ Text.startswith signatureHeader "sha256=" = false then
    .ok false
  else compareDigest (host.hmacSha256 (encode secret) rawBody)
    (String.ofList (signatureHeader.toList.drop 7))

def checkSignature (host : Host) (config : WebhookConfig) (d : GithubDelivery) :
    Except ServiceError Unit := do
  raiseIf (config.secret = "")
    (.domain "GitHub webhook ingestion is not configured" "github_webhook_not_configured" 503)
  let verified ← verifyGithubSignature host config.secret d.rawBody d.signature
  raiseIf (verified = false)
    (.domain "Invalid GitHub Webhook HMAC Signature" "invalid_signature" 401)

/-! ## The event of a delivery -/

/-- The objects of a payload the normalisation reads. -/
structure PayloadObjects where
  workflow : Items
  deploymentStatus : Items
  deployment : Items
  pullRequest : Items

def payloadObjects (payload : Items) : Except ServiceError PayloadObjects := do
  let workflow ← asObject (getItem payload "workflow_run")
  let deploymentStatus ← asObject (getItem payload "deployment_status")
  let deployment ← asObject (getItem payload "deployment")
  let pullRequest ← asObject (getItem payload "pull_request")
  pure { workflow, deploymentStatus, deployment, pullRequest }

/-- The first value that parses as a time. -/
def firstTimestamp (host : Host) : List Value → Except ServiceError (Option Time)
  | [] => .ok none
  | value :: rest => do
    let parsed ← timelineTimestamp host value
    if parsed = none then firstTimestamp host rest else pure parsed

/-- The time a payload carries, in the order of preference. -/
def payloadTimestamp (host : Host) (o : PayloadObjects) : Except ServiceError (Option Time) :=
  firstTimestamp host
    [getItem o.workflow "updated_at", getItem o.workflow "run_started_at",
      getItem o.deploymentStatus "created_at", getItem o.deployment "created_at",
      getItem o.pullRequest "updated_at"]

/-- The event's time at a moment: the payload's, unless there is none or it lies
more than five minutes ahead. -/
def eventTimestamp (carried : Option Time) (now : Time) : Time :=
  let timestamp := carried.getD now
  if now + minutes 5 < timestamp then now else timestamp

/-- A time that is not ahead of the clock is kept. -/
theorem eventTimestamp_carried {p now : Time} (h : p ≤ now + minutes 5) :
    eventTimestamp (some p) now = p := if_neg (not_lt.mpr h)

/-- `str(payload.get("action") or "")`. -/
def payloadAction (host : Host) (payload : Items) : String :=
  host.str (firstTruthy [getItem payload "action", .str ""])

def statusValue (host : Host) (o : PayloadObjects) (action : String) : String :=
  host.lower (host.str (firstTruthy [getItem o.workflow "conclusion", getItem o.workflow "status",
    getItem o.deploymentStatus "state", .str action, .str "received"]))

def severityOf (status : String) : String :=
  if ["failure", "failed", "error", "timed_out"].contains status then "error"
  else if ["cancelled", "stale", "inactive"].contains status then "warning"
  else "info"

/-- `value or source.get(key)`, where the source is looked at only if the value is falsy. -/
def orLookup (value source : Value) (key : String) : Except ServiceError Value :=
  if value.truthy then .ok value
  else do
    let items ← asObject source
    pure (getItem items key)

def displayName (host : Host) (o : PayloadObjects) (payload : Items) (repository : Repository) :
    Except ServiceError String := do
  let name ← orLookup (firstTruthy [getItem o.workflow "name", getItem o.deployment "environment"])
    (getItem payload "repository") "full_name"
  pure (Text.take 240 (host.str (firstTruthy [name, .str repository.fullName])))

def eventSummary (eventType action name status : String) : String :=
  let action := if action = "" then "" else s!" {action}"
  let words := Text.replace eventType "_" " "
  Text.take 1000 s!"GitHub {words}{action}: {name} ({status})."

/-- `value not in {None, ""}`, over the items of a dictionary: a value without
a hash raises. -/
def dropBlank : Items → Except ServiceError Items
  | [] => .ok []
  | (key, value) :: rest =>
    match value with
    | .list _ => .error (.typeError "unhashable type: 'list'")
    | .dict _ => .error (.typeError "unhashable type: 'dict'")
    | value => do
      let kept ← dropBlank rest
      pure (if value = .none ∨ value = .str "" then kept else (key, value) :: kept)

def eventAttributes (o : PayloadObjects) (action status : String) : Except ServiceError Items := do
  let head := getItem o.pullRequest "head"
  let commitSha ← orLookup
    (firstTruthy [getItem o.workflow "head_sha", getItem o.deployment "sha"]) head "sha"
  let branch ← orLookup (getItem o.workflow "head_branch") head "ref"
  dropBlank
    [("action", if action = "" then .none else .str action), ("status", .str status),
      ("workflow_id", getItem o.workflow "id"), ("workflow_name", getItem o.workflow "name"),
      ("workflow_url", getItem o.workflow "html_url"),
      ("deployment_id", getItem o.deployment "id"),
      ("environment", getItem o.deployment "environment"),
      ("commit_sha", commitSha), ("branch", branch)]

def githubProvenance (d : GithubDelivery) (connection : ProviderConnection)
    (repository : Repository) : Items :=
  [("provider", .str "github"), ("delivery_id", .str d.deliveryId),
    ("installation_id", .str connection.installationId), ("signature_verified", .bool true),
    ("provider_repository_id", .str repository.providerRepositoryId)]

/-- What a delivery says, but for the moment it is processed at. -/
structure NormalizedDelivery where
  carried : Option Time
  severity : String
  summary : String
  attributes : Items
  deriving DecidableEq

def normalizeDelivery (host : Host) (d : GithubDelivery) (repository : Repository) :
    Except ServiceError NormalizedDelivery := do
  let o ← payloadObjects d.payload
  let carried ← payloadTimestamp host o
  let action := payloadAction host d.payload
  let status := statusValue host o action
  let name ← displayName host o d.payload repository
  let attributes ← eventAttributes o action status
  pure
    { carried, attributes
      severity := severityOf status
      summary := eventSummary d.eventType action name status }

/-- The time a delivery carries. -/
def carriedTime (host : Host) (d : GithubDelivery) : Except ServiceError (Option Time) := do
  let o ← payloadObjects d.payload
  payloadTimestamp host o

theorem normalizeDelivery_carried {host : Host} {d : GithubDelivery} {repository : Repository}
    {n : NormalizedDelivery} (h : normalizeDelivery host d repository = .ok n) :
    carriedTime host d = .ok n.carried := by
  obtain ⟨o, ho, h⟩ := Raise.bind_eq_ok.mp h
  obtain ⟨carried, hcarried, h⟩ := Raise.bind_eq_ok.mp h
  obtain ⟨name, -, h⟩ := Raise.bind_eq_ok.mp h
  obtain ⟨attributes, -, h⟩ := Raise.bind_eq_ok.mp h
  obtain rfl := Raise.pure_eq_ok.mp h
  rw [carriedTime, ho]
  exact hcarried

/-- The event of a delivery at a moment. -/
def githubEvent (d : GithubDelivery) (connection : ProviderConnection) (repository : Repository)
    (n : NormalizedDelivery) (now : Time) : OperationalEventCreate where
  providerEventId := d.deliveryId
  repositoryId := some repository.id
  serviceId := none
  incidentId := none
  source := "github"
  eventType := d.eventType
  occurredAt := eventTimestamp n.carried now
  severity := n.severity
  summary := n.summary
  attributes := n.attributes
  provenance := githubProvenance d connection repository

/-- `_github_operational_event`. -/
def githubOperationalEvent (host : Host) (d : GithubDelivery) (connection : ProviderConnection)
    (repository : Repository) (call : WebhookCall) : DatabaseCall OperationalEvent := do
  let n ← lift (normalizeDelivery host d repository)
  let payload ← lift ((githubEvent d connection repository n call.now).validate host call.now)
  recordTrustedOperationalEvent host connection.workspaceId payload s!"github:{d.deliveryId}"
    call.newEventId call.now

/-! ## The delivery row -/

def deliveryKey (d : GithubDelivery) : String × String := ("github", d.deliveryId)

def setDeliveryStatus (status : String) (row : WebhookDelivery) : WebhookDelivery :=
  { row with status }

@[simp] theorem setDeliveryStatus_identity (status : String) (row : WebhookDelivery) :
    (setDeliveryStatus status row).identity = row.identity := rfl

/-- `delivery.status = …` on the row of a delivery, if it is there. -/
def markDelivery (d : GithubDelivery) (status : String) (s : Store) : Store :=
  { s with
    deliveries := s.deliveries.updateWhere (fun row => row.identity = deliveryKey d)
      (setDeliveryStatus status) (setDeliveryStatus_identity status) }

/-- A mark leaves the rows of other deliveries alone. -/
theorem get?_markDelivery (d : GithubDelivery) (status : String) (s : Store)
    (key : String × String) :
    (markDelivery d status s).deliveries.get? key = (s.deliveries.get? key).map fun row =>
      if key = deliveryKey d then setDeliveryStatus status row else row :=
  Table.get?_updateKey s.deliveries (deliveryKey d) _ (setDeliveryStatus_identity status) key

/-- `session.add(WebhookDelivery(…))`. -/
def addDelivery (row : WebhookDelivery) : DatabaseCall Unit := do
  match ← read fun s => s.deliveries.insert row with
  | some deliveries => write fun s => { s with deliveries := deliveries }
  | none => raise .integrityError

def isInstallationEvent (eventType : String) : Bool :=
  ["installation", "installation_repositories"].contains eventType

/-- The event families whose deliveries are processed again when they come again. -/
def isReconcilable (eventType : String) : Bool :=
  ["pull_request", "workflow_run", "deployment", "deployment_status"].contains eventType

def isMonitoredPullRequest (host : Host) (d : GithubDelivery) : Bool :=
  d.eventType == "pull_request" &&
    ["opened", "reopened", "synchronize", "ready_for_review"].contains
      (payloadAction host d.payload)

def isRunEvent (eventType : String) : Bool :=
  ["workflow_run", "deployment", "deployment_status"].contains eventType

def isDeploymentEvent (eventType : String) : Bool :=
  ["deployment", "deployment_status"].contains eventType

/-! ## Installation events -/

def setConnectionState (state : String) (now : Time) (row : ProviderConnection) :
    ProviderConnection :=
  { row with connectionState := state, updatedAt := now }

@[simp] theorem setConnectionState_id (state : String) (now : Time) (row : ProviderConnection) :
    (setConnectionState state now row).id = row.id := rfl

/-- The connection of an installation event in the state its action says. -/
def applyInstallation (connection : Option ProviderConnection) (action : String) (now : Time)
    (s : Store) : Store :=
  match connection with
  | none => s
  | some connection =>
    let state := if action = "deleted" ∨ action = "suspend" then "revoked" else "connected"
    { s with
      connections := s.connections.updateWhere (fun row => row.id = connection.id)
        (setConnectionState state now) (setConnectionState_id state now) }

def recordInstallation (host : Host) (d : GithubDelivery) (call : WebhookCall)
    (installationId : String) (connection : Option ProviderConnection) :
    DatabaseCall WebhookResponse := do
  write (applyInstallation connection (payloadAction host d.payload) call.now)
  addDelivery
    { id := call.newDeliveryId
      provider := "github"
      deliveryId := d.deliveryId
      eventType := d.eventType
      installationId := textOrNone installationId
      workspaceId := connection.map (·.workspaceId)
      repositoryId := none
      status := if connection = none then "verified_unmapped" else "verified"
      createdAt := call.now }
  commit
  pure (respond d "accepted" "Signed GitHub installation state was recorded.")

/-! ## Pull requests -/

/-- The names of the labels of a pull request. -/
def labelNames (host : Host) : Value → Except ServiceError (List String)
  | .list labels => .ok (labels.filterMap fun label =>
      match label with
      | .dict items =>
        if (getItem items "name").truthy then some (host.str (getItem items "name")) else none
      | _ => none)
  | .dict _ | .str _ => .ok []
  | _ => .error (.typeError "object is not iterable")

/-- `str(d.get(key))[:n] if d.get(key) else None`. -/
def optionalText (host : Host) (items : Items) (key : String) (n : Nat) : Option String :=
  if (getItem items key).truthy then some (Text.take n (host.str (getItem items key))) else none

/-- The request of a pull request. -/
def pullRequestRequest (host : Host) (d : GithubDelivery) (repository : Repository) :
    Except ServiceError AnalyzeChangeRequest := do
  let pr ← asObject (getItem d.payload "pull_request")
  let head ← asObject (getItem pr "head")
  let labels ← labelNames host (getItemD pr "labels" (.list []))
  let user ← asObject (getItem pr "user")
  let filesChanged ← toInt (firstTruthy [getItem pr "changed_files", .int 0])
  let linesAdded ← toInt (firstTruthy [getItem pr "additions", .int 0])
  let linesDeleted ← toInt (firstTruthy [getItem pr "deletions", .int 0])
  AnalyzeChangeRequest.validate
    { title := Text.take 240
        (host.str (firstTruthy [getItem pr "title", .str "Untitled pull request"]))
      repository := repository.fullName
      author := Text.take 160 (host.str (firstTruthy [getItem user "login", .str "unknown"]))
      commitSha := optionalText host head "sha" 64
      branch := optionalText host head "ref" 160
      filesChanged, linesAdded, linesDeleted
      changedServices := [repository.fullName]
      flags := labels.take 99 ++ ["provider-metadata-only"] }

/-- The scope a connection's pull requests are analysed in. -/
def connectedScope (connection : ProviderConnection) (repository : Repository) : AnalysisScope where
  workspaceId := some connection.workspaceId
  repositoryId := some repository.id

def setActiveChange (changeId : String) (row : Scenario) : Scenario :=
  { row with activeChangeId := some changeId }

@[simp] theorem setActiveChange_id (changeId : String) (row : Scenario) :
    (setActiveChange changeId row).id = row.id := rfl

/-- `scenario.active_change_id = change.id`. -/
def pointScenario (scenario : Scenario) (changeId : String) (s : Store) : Store :=
  { s with
    scenarios := s.scenarios.updateWhere (fun row => row.id = scenario.id)
      (setActiveChange changeId) (setActiveChange_id changeId) }

/-- `request_id or f"github:{delivery_id}"`. -/
def publicationRequestId (d : GithubDelivery) (call : WebhookCall) : String :=
  Text.orElse (call.requestIdValue.getD "") s!"github:{d.deliveryId}"

/-- The publication of the stored change, where the server has settings. -/
def queuePublication (host : Host) (config : WebhookConfig) (d : GithubDelivery)
    (call : WebhookCall) (connection : ProviderConnection) (repository : Repository)
    (changeId : String) : DatabaseCall (Option Jobs.BackgroundJob) := do
  match config.settings, ← read fun s => s.changes.get? changeId with
  | some settings, some change =>
    enqueueGithubCheckPublication host settings connection repository change
      { requestId := publicationRequestId d call
        traceparent := call.traceparent
        tracestate := call.tracestate
        newId := call.newJobId
        now := call.now }
  | _, _ => pure none

def pullRequestDetail (queued : Option Jobs.BackgroundJob) : String :=
  "Pull request metadata was analyzed in its connected repository context. Verification " ++
    "evidence remains unknown until a SHA-matched DeployGuard receipt exists." ++
    (if queued.isSome then " GitHub Check publication was durably queued." else "")

/-- The body of the `try` of a pull request. -/
def pullRequestBody (host : Host) (config : WebhookConfig) (d : GithubDelivery)
    (call : WebhookCall) (connection : ProviderConnection) (repository : Repository) :
    DatabaseCall WebhookResponse := do
  let request ← lift (pullRequestRequest host d repository)
  let change ← analyzeChange host request (connectedScope connection repository) call.now
  let scenario ← query fun s => activeScenario s (connectedScope connection repository)
  write (pointScenario scenario change.id)
  commit
  let _ ← githubOperationalEvent host d connection repository call
  let queued ← queuePublication host config d call connection repository change.id
  write (markDelivery d "processed")
  commit
  pure { respond d "accepted" (pullRequestDetail queued) with changeId := some change.id }

/-- What the `except` of a pull request commits. -/
def failDelivery (d : GithubDelivery) : DatabaseCall Unit := do
  write (markDelivery d "failed")
  commit

def processPullRequest (host : Host) (config : WebhookConfig) (d : GithubDelivery)
    (call : WebhookCall) (connection : ProviderConnection) (repository : Repository) :
    DatabaseCall WebhookResponse := do
  write (markDelivery d "processing")
  commit
  rescue (pullRequestBody host config d call connection repository) (failDelivery d)

/-! ## Workflow and deployment events -/

/-- The deployment call of a delivery. -/
def deploymentCall (d : GithubDelivery) (call : WebhookCall) (connection : ProviderConnection)
    (repository : Repository) (event : OperationalEvent) : DeploymentCall where
  workspaceId := connection.workspaceId
  repository := repository
  event := event
  deliveryId := d.deliveryId
  newId := call.newDeploymentId
  now := call.now

/-- The deployment of a deployment event. -/
def upsertDeploymentOf (host : Host) (d : GithubDelivery) (call : WebhookCall)
    (connection : ProviderConnection) (repository : Repository) (event : OperationalEvent) :
    DatabaseCall Unit := do
  if isDeploymentEvent d.eventType then
    let _ ← upsertGithubDeployment host d.payload
      (deploymentCall d call connection repository event)
    pure ()
  else pure ()

def processRunEvent (host : Host) (d : GithubDelivery) (call : WebhookCall)
    (connection : ProviderConnection) (repository : Repository) (duplicate : Bool) :
    DatabaseCall WebhookResponse := do
  let event ← githubOperationalEvent host d connection repository call
  upsertDeploymentOf host d call connection repository event
  write (markDelivery d "processed")
  commit
  pure (respond d "accepted" (if duplicate
    then "Duplicate delivery was reconciled with the event ledger."
    else "Verified provider event was durably recorded."))

/-! ## Connected installations -/

/-- The row of a delivery that is new. -/
def newDelivery (host : Host) (d : GithubDelivery) (call : WebhookCall) (installationId : String)
    (connection : ProviderConnection) (repository : Option Repository) : WebhookDelivery where
  id := call.newDeliveryId
  provider := "github"
  deliveryId := d.deliveryId
  eventType := d.eventType
  installationId := textOrNone installationId
  workspaceId := some connection.workspaceId
  repositoryId := repository.map (·.id)
  status :=
    if repository = none then "ignored"
    else if isMonitoredPullRequest host d || isRunEvent d.eventType then "processing"
    else "verified"
  createdAt := call.now

/-- A recorded delivery under another installation or repository is refused. -/
def checkDeliveryIdentity (installationId : String) (repository : Option Repository) :
    Option WebhookDelivery → Except ServiceError Unit
  | none => .ok ()
  | some row =>
    raiseIf (row.installationId ≠ textOrNone installationId ∨
        (row.repositoryId ≠ none ∧ repository ≠ none ∧ row.repositoryId ≠ repository.map (·.id)))
      (.domain "GitHub delivery identity does not match the recorded event"
        "github_delivery_identity_mismatch" 409)

/-- The delivery row, where there is none. -/
def addMissingDelivery (row : WebhookDelivery) : Option WebhookDelivery → DatabaseCall Unit
  | none => addDelivery row
  | some _ => pure ()

/-- The delivery row of a new delivery, and the first commit. -/
def recordDelivery (host : Host) (d : GithubDelivery) (call : WebhookCall)
    (installationId : String) (connection : ProviderConnection) (repository : Option Repository)
    (existing : Option WebhookDelivery) : DatabaseCall Unit := do
  addMissingDelivery (newDelivery host d call installationId connection repository) existing
  commit

/-- A delivery of a connected installation, with its row in place. -/
def processRecorded (host : Host) (config : WebhookConfig) (d : GithubDelivery)
    (call : WebhookCall) (connection : ProviderConnection) (repository : Option Repository)
    (duplicate : Bool) : DatabaseCall WebhookResponse := do
  match repository with
  | none => pure (respond d "ignored" "Repository is not selected for this workspace.")
  | some repository =>
    if isMonitoredPullRequest host d then
      processPullRequest host config d call connection repository
    else if isRunEvent d.eventType then
      processRunEvent host d call connection repository duplicate
    else
      pure (respond d "accepted" (if duplicate then "Duplicate delivery was already recorded."
        else "Verified provider event was durably recorded."))

def processConnected (host : Host) (config : WebhookConfig) (d : GithubDelivery)
    (call : WebhookCall) (installationId : String) (connection : ProviderConnection)
    (repository : Option Repository) (existing : Option WebhookDelivery) :
    DatabaseCall WebhookResponse := do
  lift (checkDeliveryIdentity installationId repository existing)
  if isMonitoredPullRequest host d && existing.any (·.status = "processed") then
    pure (respond d "accepted" "Duplicate delivery was already processed.")
  else do
    recordDelivery host d call installationId connection repository existing
    processRecorded host config d call connection repository existing.isSome

/-! ## Installations without a workspace -/

/-- `text[:n]` of a JSON value. -/
def sliceText (n : Nat) : Value → Except ServiceError String
  | .str text => .ok (Text.take n text)
  | .list _ => .error (.validation [("", "Input should be a valid string")])
  | _ => .error (.typeError "object is not subscriptable")

/-- `d.get(key, {})`, as what `.get` is then called on. -/
def requireObject (value : Value) : Except ServiceError Items :=
  match value with
  | .dict items => .ok items
  | _ => .error (.attributeError "object has no attribute 'get'")

/-- The synthetic request of an unlinked delivery. -/
def syntheticRequest (d : GithubDelivery) : Except ServiceError AnalyzeChangeRequest := do
  let pr ← requireObject (getItemD d.payload "pull_request" (.dict d.payload))
  let repository ← requireObject (getItemD d.payload "repository" (.dict []))
  let user ← requireObject (getItemD pr "user" (.dict []))
  let title ← sliceText 240 (getItemD pr "title" (.str "GitHub Webhook Event"))
  let repo ← sliceText 240 (getItemD repository "full_name" (.str "acme/checkout-platform"))
  let author ← sliceText 160 (getItemD user "login" (.str "github-app"))
  let filesChanged ← toInt (getItemD pr "changed_files" (.int 5))
  let linesAdded ← toInt (getItemD pr "additions" (.int 120))
  let linesDeleted ← toInt (getItemD pr "deletions" (.int 30))
  AnalyzeChangeRequest.validate
    { title, repository := repo, author, filesChanged, linesAdded, linesDeleted
      changedServices := ["checkout-api", "payment-adapter"]
      flags := ["config-change", "retry-policy"]
      testCoverage := some (3 / 4), rollbackReady := some true
      observabilityScore := some (9 / 10), previousFailures := some 1 }

def processUnlinked (host : Host) (config : WebhookConfig) (d : GithubDelivery)
    (call : WebhookCall) : DatabaseCall WebhookResponse := do
  lift (raiseIf (config.allowSyntheticFallback = false)
    (.domain "GitHub installation is not linked to a workspace"
      "github_installation_not_linked" 404))
  if ["pull_request", "workflow_run", "deployment_status"].contains d.eventType then
    let _ ← query fun s => activeScenario s {}
    let request ← lift (syntheticRequest d)
    let change ← analyzeChange host request {} call.now
    pure { respond d "accepted" s!"Webhook processed and change risk analyzed (Score: {change.risk.overallScore}/100)." with
      changeId := some change.id }
  else pure (respond d "ignored" s!"Event type '{d.eventType}' is not monitored.")

/-! ## The entry point -/

/-- The installation and the repository a payload names. -/
def payloadIds (host : Host) (payload : Items) : Except ServiceError (String × String) := do
  let installation ← asObject (getItem payload "installation")
  let repository ← asObject (getItem payload "repository")
  pure (host.str (firstTruthy [getItem installation "id", .str ""]),
    host.str (firstTruthy [getItem repository "id", .str ""]))

/-- The connection of an installation. -/
def findConnection (s : Store) (installationId : String) : Option ProviderConnection :=
  if installationId = "" then none
  else s.connections.rows.find? fun row =>
    row.provider = "github" ∧ row.installationId = installationId

/-- The selected repository of a connection. -/
def findRepository (s : Store) (connection : Option ProviderConnection)
    (providerRepositoryId : String) : Option Repository :=
  match connection with
  | none => none
  | some connection =>
    if providerRepositoryId = "" then none
    else s.repositories.rows.find? fun row =>
      row.workspaceId = connection.workspaceId ∧ row.provider = "github" ∧
        row.providerRepositoryId = providerRepositoryId ∧ row.selected

/-- A delivery whose installation and repository have been looked up. -/
def processLinked (host : Host) (config : WebhookConfig) (d : GithubDelivery) (call : WebhookCall)
    (installationId : String) (connection : Option ProviderConnection)
    (repository : Option Repository) (existing : Option WebhookDelivery) :
    DatabaseCall WebhookResponse :=
  if isInstallationEvent d.eventType then
    recordInstallation host d call installationId connection
  else
    match connection with
    | some connection =>
      processConnected host config d call installationId connection repository existing
    | none => processUnlinked host config d call

/-- `process_github_webhook`. -/
def processGithubWebhook (host : Host) (config : WebhookConfig) (d : GithubDelivery)
    (call : WebhookCall) : DatabaseCall WebhookResponse := do
  lift (checkSignature host config d)
  let existing ← read fun s => s.deliveries.get? (deliveryKey d)
  if existing.isSome && !isReconcilable d.eventType then
    pure (respond d "accepted" "Duplicate delivery was already recorded.")
  else do
    let ids ← lift (payloadIds host d.payload)
    let connection ← read fun s => findConnection s ids.1
    let repository ← read fun s => findRepository s connection ids.2
    processLinked host config d call ids.1 connection repository existing

/-! ## A connected delivery -/

/-- The delivery names a connection and a selected repository of it. -/
def Linked (host : Host) (d : GithubDelivery) (connection : ProviderConnection)
    (repository : Repository) (ids : String × String) (s : Store) : Prop :=
  payloadIds host d.payload = .ok ids ∧ findConnection s ids.1 = some connection ∧
    findRepository s (some connection) ids.2 = some repository

instance (host : Host) (d : GithubDelivery) (connection : ProviderConnection)
    (repository : Repository) (ids : String × String) (s : Store) :
    Decidable (Linked host d connection repository ids s) :=
  inferInstanceAs (Decidable (_ ∧ _ ∧ _))

/-- The identity of the event of a delivery. -/
def deliveryEventKey (d : GithubDelivery) (connection : ProviderConnection) : String × String × String :=
  (connection.workspaceId, "github", Text.trim d.deliveryId)

/-- The material of the event of a delivery at a moment. -/
def deliveryMaterial (host : Host) (d : GithubDelivery) (connection : ProviderConnection)
    (repository : Repository) (n : NormalizedDelivery) (now : Time) : EventMaterial :=
  let payload := (githubEvent d connection repository n now).stripped
  expectedMaterial host payload (trustedCall payload s!"github:{d.deliveryId}" "" now)
    (some repository.id)

section Connected

variable {host : Host} {config : WebhookConfig} {d : GithubDelivery} {call : WebhookCall}
  {connection : ProviderConnection} {repository : Repository} {ids : String × String}
  {n : NormalizedDelivery} {s : State Store}

theorem processGithubWebhook_linked (hsigned : checkSignature host config d = .ok ())
    (hlinked : Linked host d connection repository ids s.cur)
    (hevent : isReconcilable d.eventType = true) :
    processGithubWebhook host config d call s =
      processConnected host config d call ids.1 connection (some repository)
        (s.cur.deliveries.get? (deliveryKey d)) s := by
  obtain ⟨hids, hconnection, hrepository⟩ := hlinked
  have hinstallation : isInstallationEvent d.eventType = false := by
    simp only [isReconcilable, List.contains_eq_mem, List.mem_cons, List.not_mem_nil, or_false,
      decide_eq_true_eq] at hevent
    rcases hevent with h | h | h | h <;> rw [h] <;> rfl
  rw [processGithubWebhook, Call.lift_ok_bind hsigned, read_bind_apply]
  show (if _ then _ else _ : DatabaseCall _) s = _
  rw [if_neg (by simp [hevent]), Call.lift_ok_bind hids, read_bind_apply, read_bind_apply,
    hconnection, hrepository, processLinked, if_neg (by simp [hinstallation])]

/-- The repository of the event of a connected delivery is the one looked up. -/
theorem effective_linked {s : Store} (hlinked : Linked host d connection repository ids s)
    (now : Time) :
    effectiveEventRepositoryId s connection.workspaceId
      (githubEvent d connection repository n now).stripped = .ok (some repository.id) := by
  obtain ⟨-, -, hrepository⟩ := hlinked
  have hfind : s.repositories.rows.find? (fun row => row.id = repository.id ∧
      row.workspaceId = connection.workspaceId) = some repository := by
    unfold findRepository at hrepository
    dsimp only at hrepository
    split at hrepository
    · cases hrepository
    · have hmem := List.mem_of_find?_eq_some hrepository
      have hworkspace : repository.workspaceId = connection.workspaceId := by
        have h := List.find?_some hrepository
        simp only [decide_eq_true_eq] at h
        exact h.1
      cases hfind : s.repositories.rows.find? fun row => row.id = repository.id ∧
          row.workspaceId = connection.workspaceId with
      | none =>
        exact absurd (List.find?_eq_none.mp hfind repository hmem) (by simp [hworkspace])
      | some row =>
        have hid := List.find?_some hfind
        simp only [decide_eq_true_eq] at hid
        rw [s.repositories.eq_of_key_eq (List.mem_of_find?_eq_some hfind) hmem hid.1]
  have hlookup : repositoryForWorkspace s connection.workspaceId (some repository.id) =
      .ok (some repository) := by
    simp only [repositoryForWorkspace, hfind]
  show (repositoryForWorkspace s connection.workspaceId (some repository.id) >>= _) = _
  rw [hlookup]
  rfl

/-- What the schema asks of the event of a delivery depends on the moment only
through its time. -/
theorem wellFormed_githubEvent {t t' : Time}
    (h : (githubEvent d connection repository n t).WellFormed host) :
    (githubEvent d connection repository n t').WellFormed host := h

theorem identity_githubEvent (now : Time) (eventCall : EventCall) (repositoryId : Option String) :
    (newEvent host connection.workspaceId (githubEvent d connection repository n now).stripped
      eventCall repositoryId).identity = deliveryEventKey d connection := by
  have hsource : host.lower (Text.strip (Text.trim "github")) = "github" := by
    rw [host.lower_of_ascii (by decide)]
    decide
  show (connection.workspaceId, host.lower (Text.strip (Text.trim "github")), _) = _
  rw [hsource]
  rfl

/-- Two moments give the same material when they give the same time. -/
theorem deliveryMaterial_eq_iff {t t' : Time} :
    deliveryMaterial host d connection repository n t =
        deliveryMaterial host d connection repository n t' ↔
      eventTimestamp n.carried t = eventTimestamp n.carried t' := by
  constructor
  · exact fun h => congrArg EventMaterial.occurredAt h
  · intro h
    simp only [deliveryMaterial, expectedMaterial, OperationalEventCreate.stripped, githubEvent,
      trustedCall, h]

/-- A delivery that reads and passes the schema goes to the ledger. -/
theorem githubOperationalEvent_eq (hn : normalizeDelivery host d repository = .ok n)
    (hwell : (githubEvent d connection repository n call.now).WellFormed host)
    (htime : Admissible call.now (eventTimestamp n.carried call.now)) :
    githubOperationalEvent host d connection repository call s =
      recordTrustedOperationalEvent host connection.workspaceId
        (githubEvent d connection repository n call.now).stripped s!"github:{d.deliveryId}"
        call.newEventId call.now s := by
  rw [githubOperationalEvent, Call.lift_ok_bind hn, Call.lift_ok_bind
    (OperationalEventCreate.validate_eq_ok.mpr ⟨hwell, htime, rfl⟩)]

/-- A delivery that went to the ledger had read and passed the schema. -/
theorem githubOperationalEvent_ok {s' : State Store} {event : OperationalEvent}
    (h : githubOperationalEvent host d connection repository call s = (.ok event, s')) :
    ∃ n, normalizeDelivery host d repository = .ok n ∧
      (githubEvent d connection repository n call.now).WellFormed host ∧
      Admissible call.now (eventTimestamp n.carried call.now) := by
  obtain ⟨n, hn, h⟩ := Call.lift_bind_eq_ok.mp h
  obtain ⟨payload, hpayload, -⟩ := Call.lift_bind_eq_ok.mp h
  obtain ⟨hwell, htime, -⟩ := OperationalEventCreate.validate_eq_ok.mp hpayload
  exact ⟨n, hn, hwell, htime⟩

/-- What the ledger does with the event of a connected delivery: it adds it, or
finds it under its identity and compares the material. -/
theorem githubOperationalEvent_cases (hlinked : Linked host d connection repository ids s.cur)
    (hn : normalizeDelivery host d repository = .ok n)
    (hwell : (githubEvent d connection repository n call.now).WellFormed host)
    (htime : Admissible call.now (eventTimestamp n.carried call.now)) :
    (∃ event events entry, s.cur.events.get? (deliveryEventKey d connection) = none ∧
      event.identity = deliveryEventKey d connection ∧
      storedEventMaterial host event =
        deliveryMaterial host d connection repository n call.now ∧
      s.cur.events.insert event = some events ∧
      githubOperationalEvent host d connection repository call s =
        (.ok event, (s.written (addEvent events entry)).committed)) ∨
    (∃ event, s.cur.events.get? (deliveryEventKey d connection) = some event ∧
      storedEventMaterial host event =
        deliveryMaterial host d connection repository n call.now ∧
      githubOperationalEvent host d connection repository call s = (.ok event, s)) ∨
    (∃ event, s.cur.events.get? (deliveryEventKey d connection) = some event ∧
      storedEventMaterial host event ≠
        deliveryMaterial host d connection repository n call.now ∧
      githubOperationalEvent host d connection repository call s =
        (.error (.domain "Provider event ID was already used with different event data"
          "operational_event_idempotency_conflict" 409), s)) := by
  have heff := effective_linked (n := n) hlinked call.now
  let payload := (githubEvent d connection repository n call.now).stripped
  let eventCall := trustedCall payload s!"github:{d.deliveryId}" call.newEventId call.now
  -- The key does not depend on the clock, so a redelivery looks up the same row.
  have hkey : (newEvent host connection.workspaceId payload eventCall
      (some repository.id)).identity = deliveryEventKey d connection := identity_githubEvent ..
  rw [githubOperationalEvent_eq hn hwell htime]
  cases hget : s.cur.events.get? (deliveryEventKey d connection) with
  | none =>
    obtain ⟨events, hinsert, hrun⟩ :=
      recordEvent_new heff (show s.cur.events.get? (newEvent host connection.workspaceId payload
        eventCall (some repository.id)).identity = none from hkey.symm ▸ hget)
    exact Or.inl ⟨_, events, _, rfl, hkey, storedEventMaterial_newEvent.trans rfl, hinsert, hrun⟩
  | some event =>
    -- the stored material decides between a replay and a conflict
    by_cases hsame : storedEventMaterial host event =
        deliveryMaterial host d connection repository n call.now
    · exact Or.inr (Or.inl ⟨event, rfl, hsame,
        recordEvent_existing heff (hkey.symm ▸ hget) hsame⟩)
    · exact Or.inr (Or.inr ⟨event, rfl, hsame,
        recordEvent_conflict heff (hkey.symm ▸ hget) hsame⟩)

end Connected

/-! ## Attempts -/

/-- How an attempt at a delivery ends. -/
inductive Outcome where
  | completed
  /-- the process dies after so many commits -/
  | crashed (commits : Nat)
  /-- something raises in the `try` of a pull request, after so many commits there -/
  | failed (commits : Nat)
  deriving DecidableEq

/-- The `try` of the delivery is open: its row is there, marked as processing. -/
def inTry (host : Host) (d : GithubDelivery) (s : Store) : Bool :=
  isMonitoredPullRequest host d &&
    (s.deliveries.get? (deliveryKey d)).any (·.status = "processing")

/-- What an attempt leaves in the database. Two commits come before the `try`. -/
def attempt (host : Host) (config : WebhookConfig) (d : GithubDelivery) (call : WebhookCall)
    (s : Store) : Outcome → Option Store
  | .completed => some ((processGithubWebhook host config d call).run s).2
  | .crashed commits => ((processGithubWebhook host config d call).crashPoints s)[commits]?
  | .failed commits =>
    ((processGithubWebhook host config d call).crashPoints s)[commits + 2]?.bind fun t =>
      if inTry host d t then some (markDelivery d "failed" t) else none

/-- What a call commits whatever happens, and the mark of a failed `try` keeps,
holds after every attempt. -/
theorem attempt_keeps {host : Host} {config : WebhookConfig} {d : GithubDelivery}
    {call : WebhookCall} {I : Store → Prop} {s s' : Store} {outcome : Outcome}
    {Q : WebhookResponse → State Store → Prop} {E : ServiceError → Prop}
    (hsafe : Safe I (State.start s) (processGithubWebhook host config d call) Q E)
    (hfail : ∀ t, inTry host d t → I t → I (markDelivery d "failed" t)) (hs : I s)
    (h : attempt host config d call s outcome = some s') : I s' := by
  cases outcome with
  | completed =>
    obtain rfl := Option.some.inj h
    exact hsafe.run_base hs
  | crashed commits => exact hsafe.crashPoints hs (List.mem_of_getElem? h)
  | failed commits =>
    obtain ⟨t, ht, h⟩ := Option.bind_eq_some_iff.mp h
    have hI : I t := hsafe.crashPoints hs (List.mem_of_getElem? ht)
    by_cases htry : inTry host d t
    · obtain rfl : markDelivery d "failed" t = s' := by simpa [htry] using h
      exact hfail t htry hI
    · simp [htry] at h

end DeployGuard.Service
