import DeployGuard.Service.Event

/-!
# Deployments

`upsert_github_deployment`: a deployment webhook applied to the deployment row
and to the change it is matched with. A delivery is applied unless the row
already names it as its last, or has a later provider time.
-/

namespace DeployGuard.Service

open Raise Session Session.Call

/-- `GITHUB_DEPLOYMENT_STATUS`. -/
def githubDeploymentStatus : Dict String String :=
  [("created", "queued"), ("queued", "queued"), ("pending", "queued"),
    ("in_progress", "in_progress"), ("success", "succeeded"), ("failure", "failed"),
    ("error", "failed"), ("cancelled", "cancelled"), ("inactive", "inactive")]

/-- `LEGACY_DEPLOYMENT_STATUS`. -/
def legacyDeploymentStatus : Dict String String :=
  [("queued", "pending"), ("in_progress", "in_progress"), ("succeeded", "deployed"),
    ("failed", "failed"), ("cancelled", "cancelled"), ("inactive", "inactive"),
    ("unknown", "unknown")]

/-! ## Timestamps -/

/-- `datetime.fromisoformat(value.replace("Z", "+00:00"))` in UTC, for a text;
`none` where it is no date. -/
def parseIso (host : Host) (text : String) : Except ServiceError (Option Time) :=
  match host.fromisoformat (Text.replace text "Z" "+00:00") with
  | .invalid => .ok none
  | .outOfRange => .error .overflowError
  | .at t => .ok (some t)

/-- `_timeline_timestamp` of a JSON value. -/
def timelineTimestamp (host : Host) : Value → Except ServiceError (Option Time)
  | .str text => parseIso host text
  | _ => .ok none

/-- `_parse_timestamp` of a JSON value. -/
def parseTimestamp (host : Host) (value : Value) (fallback : Time) : Except ServiceError Time := do
  let parsed ← timelineTimestamp host value
  pure (parsed.getD fallback)

/-! ## What a delivery says -/

/-- `text or None`. -/
def textOrNone (text : String) : Option String := if text = "" then none else some text

/-- The fields of a deployment delivery. -/
structure DeploymentUpdate where
  providerDeploymentId : String
  status : String
  providerCreatedAt : Time
  providerUpdatedAt : Time
  commitSha : Option String
  ref : Option String
  environment : String
  providerUrl : Option String
  deriving DecidableEq

/-- `str(a or b or … or default).strip()`. -/
def strippedText (host : Host) (candidates : List Value) (default : String) : String :=
  Text.strip (host.str (firstTruthy (candidates ++ [.str default])))

/-- A value as an object, where anything else counts as empty. -/
def objectOrEmpty : Value → Items
  | .dict items => items
  | _ => []

/-- The fields of a delivery about the deployment `deployment`. -/
def readDeployment (host : Host) (payload deployment : Items) (eventTime : Time) :
    Except ServiceError DeploymentUpdate := do
  let status := objectOrEmpty (getItem payload "deployment_status")
  let rawStatus := Text.lower (strippedText host
    [getItem status "state", getItem deployment "state", getItem payload "action"] "unknown")
  let providerCreatedAt ← parseTimestamp host (getItem deployment "created_at") eventTime
  let providerUpdatedAt ← parseTimestamp host
    (firstTruthy [getItem status "created_at", getItem deployment "updated_at"]) eventTime
  pure
    { providerDeploymentId := strippedText host [getItem deployment "id"] ""
      status := (githubDeploymentStatus.get? rawStatus).getD "unknown"
      providerCreatedAt, providerUpdatedAt
      commitSha := textOrNone (Text.take 64
        (strippedText host [getItem deployment "sha", getItem status "sha"] ""))
      ref := textOrNone (Text.take 160 (strippedText host [getItem deployment "ref"] ""))
      environment := Text.orElse (Text.take 80 (strippedText host
        [getItem deployment "environment", getItem status "environment"] "unknown")) "unknown"
      providerUrl := textOrNone (Text.take 2048 (strippedText host
        [getItem status "environment_url", getItem status "log_url", getItem deployment "url"] "")) }

/-- The update of a delivery, if it names a deployment. -/
def deploymentUpdate (host : Host) (payload : Items) (eventTime : Time) :
    Except ServiceError (Option DeploymentUpdate) :=
  match getItem payload "deployment" with
  | .dict deployment =>
    if strippedText host [getItem deployment "id"] "" = "" then .ok none
    else do
      let update ← readDeployment host payload deployment eventTime
      pure (some update)
  | _ => .ok none

/-! ## The change and the services -/

/-- `ORDER BY created_at DESC, id DESC`. -/
def latestFirst (a b : ChangeRecord) : Prop :=
  b.createdAt < a.createdAt ∨ (a.createdAt = b.createdAt ∧ b.id ≤ a.id)

instance : DecidableRel latestFirst := fun a b =>
  inferInstanceAs (Decidable (b.createdAt < a.createdAt ∨ (a.createdAt = b.createdAt ∧ b.id ≤ a.id)))

/-- `_matched_change`. -/
def matchedChange (s : Store) (workspaceId repositoryId : String) (commitSha : Option String)
    (occurredAt : Time) : Option ChangeRecord :=
  match commitSha with
  | none => none
  | some sha =>
    ((s.changes.select fun row =>
      row.workspaceId = workspaceId ∧ row.repositoryId = repositoryId ∧
        Text.lower row.commitSha = Text.lower sha).insertionSort latestFirst).find?
      fun row => row.createdAt ≤ occurredAt

/-- `_service_ids`. -/
def serviceIds (s : Store) (workspaceId repositoryId : String) (change : Option ChangeRecord) :
    List String :=
  let known := ((s.services.select fun row =>
    row.workspaceId = workspaceId ∧ row.repositoryId = some repositoryId).insertionSort
      fun a b => a.id ≤ b.id).map (·.id)
  let changed := ((change.map (·.changedServices)).getD []).filter known.contains
  uniqueValues (if changed = [] then known else changed)

/-! ## The row -/

/-- The identity and scope of a call. -/
structure DeploymentCall where
  workspaceId : String
  repository : Repository
  event : OperationalEvent
  deliveryId : String
  newId : String
  now : Time

def isFinal (status : String) : Bool :=
  ["succeeded", "failed", "cancelled", "inactive"].contains status

/-- A new row. -/
def createdDeployment (u : DeploymentUpdate) (c : DeploymentCall) (change : Option ChangeRecord)
    (services : List String) : DeploymentRecord where
  id := c.newId
  workspaceId := c.workspaceId
  repositoryId := c.repository.id
  changeId := change.map (·.id)
  provider := "github"
  providerDeploymentId := u.providerDeploymentId
  environment := u.environment
  commitSha := u.commitSha
  ref := u.ref
  status := u.status
  providerUrl := u.providerUrl
  serviceIds := services
  provenance := [("provider", .str "github"),
    ("installation_id", getItem c.event.provenance "installation_id"),
    ("provider_repository_id", .str c.repository.providerRepositoryId),
    ("last_delivery_id", .str c.deliveryId)]
  lastEventId := some c.event.id
  providerCreatedAt := u.providerCreatedAt
  providerUpdatedAt := u.providerUpdatedAt
  finishedAt := if isFinal u.status then some u.providerUpdatedAt else none
  version := 1
  createdAt := c.now
  updatedAt := c.now

/-- A row after a delivery. -/
def updatedDeployment (u : DeploymentUpdate) (c : DeploymentCall) (change : Option ChangeRecord)
    (services : List String) (record : DeploymentRecord) : DeploymentRecord :=
  { record with
    changeId := (change.map (·.id)).or record.changeId
    environment := u.environment
    commitSha := u.commitSha.or record.commitSha
    ref := u.ref.or record.ref
    status := u.status
    providerUrl := u.providerUrl.or record.providerUrl
    serviceIds := if services = [] then record.serviceIds else services
    lastEventId := some c.event.id
    providerUpdatedAt := u.providerUpdatedAt
    finishedAt := if isFinal u.status then some u.providerUpdatedAt else none
    version := record.version + 1
    provenance := Dict.set record.provenance "last_delivery_id" (.str c.deliveryId)
    updatedAt := c.now }

@[simp] theorem updatedDeployment_identity (u : DeploymentUpdate) (c : DeploymentCall)
    (change : Option ChangeRecord) (services : List String) (record : DeploymentRecord) :
    (updatedDeployment u c change services record).identity = record.identity := rfl

/-- The row names the delivery as its last. -/
def isLastDelivery (record : DeploymentRecord) (deliveryId : String) : Bool :=
  getItem record.provenance "last_delivery_id" = .str deliveryId

/-- What a delivery sets on the change it is matched with. -/
def deployChange (u : DeploymentUpdate) (row : ChangeRecord) : ChangeRecord :=
  { row with
    deploymentEnvironment := u.environment
    deploymentStatus := (legacyDeploymentStatus.get? u.status).getD "" }

@[simp] theorem deployChange_id (u : DeploymentUpdate) (row : ChangeRecord) :
    (deployChange u row).id = row.id := rfl

/-- The changes with the matched one set. -/
def deployChanges (u : DeploymentUpdate) (change : Option ChangeRecord)
    (changes : Table ChangeRecord.id) : Table ChangeRecord.id :=
  match change with
  | none => changes
  | some change => changes.updateWhere (fun row => row.id = change.id) (deployChange u)
    (deployChange_id u)

def deploymentAudit (action : String) (u : DeploymentUpdate) (c : DeploymentCall)
    (record : DeploymentRecord) : AuditEvent where
  workspaceId := c.workspaceId
  actorUserId := none
  action := action
  resourceType := "deployment"
  resourceId := record.id
  requestId := s!"github:{c.deliveryId}"
  metadata := [("provider", .str "github"),
    ("provider_deployment_id", .str u.providerDeploymentId), ("status", .str u.status),
    ("change_id", match record.changeId with | some id => .str id | none => .none)]
  createdAt := c.now

def deploymentIdentity (u : DeploymentUpdate) (c : DeploymentCall) : String × String × String :=
  (c.workspaceId, "github", u.providerDeploymentId)

/-- The deployments and the matched change set, with an audit entry. -/
def setDeployments (deployments : Table DeploymentRecord.identity) (u : DeploymentUpdate)
    (change : Option ChangeRecord) (entry : AuditEvent) (s : Store) : Store :=
  { s with
    deployments := deployments
    changes := deployChanges u change s.changes }.audit entry

/-! ## The upsert -/

/-- The first delivery about a deployment. An integrity error means that another
session's row came first; the whole call is then made once more. -/
def createDeployment (u : DeploymentUpdate) (c : DeploymentCall) (change : Option ChangeRecord)
    (services : List String) (again : DatabaseCall (Option DeploymentRecord)) :
    DatabaseCall (Option DeploymentRecord) := do
  let record := createdDeployment u c change services
  match ← read fun s => s.deployments.insert record with
  | some deployments =>
    write (setDeployments deployments u change (deploymentAudit "deployment.created" u c record))
    commit
    pure (some record)
  | none =>
    rollback
    match ← read fun s => s.deployments.get? record.identity with
    | none => raise .integrityError
    | some _ => again

/-- A later delivery about a deployment. -/
def applyDeployment (u : DeploymentUpdate) (c : DeploymentCall) (change : Option ChangeRecord)
    (services : List String) (record : DeploymentRecord) :
    DatabaseCall (Option DeploymentRecord) := do
  lift (raiseIf (record.workspaceId ≠ c.workspaceId ∨ record.repositoryId ≠ c.repository.id)
    (.domain "Deployment identity does not match its recorded scope"
      "deployment_identity_mismatch" 409))
  write fun s => setDeployments
    (s.deployments.updateWhere (fun row => row.identity = record.identity)
      (updatedDeployment u c change services) (updatedDeployment_identity u c change services))
    u change (deploymentAudit "deployment.updated" u c
      (updatedDeployment u c change services record)) s
  commit
  pure (some (updatedDeployment u c change services record))

/-- A delivery with an update, on the row its deployment has. -/
def upsertRow (u : DeploymentUpdate) (c : DeploymentCall) (change : Option ChangeRecord)
    (services : List String) (again : DatabaseCall (Option DeploymentRecord)) :
    DatabaseCall (Option DeploymentRecord) := do
  match ← read fun s => s.deployments.get? (deploymentIdentity u c) with
  | none => createDeployment u c change services again
  | some record =>
    if isLastDelivery record c.deliveryId || u.providerUpdatedAt < record.providerUpdatedAt then
      pure (some record)
    else applyDeployment u c change services record

/-- One attempt of `upsert_github_deployment`. -/
def upsertOnce (host : Host) (payload : Items) (c : DeploymentCall)
    (again : DatabaseCall (Option DeploymentRecord)) : DatabaseCall (Option DeploymentRecord) := do
  match ← lift (deploymentUpdate host payload c.event.occurredAt) with
  | none => pure none
  | some u =>
    let change ← read fun s =>
      matchedChange s c.workspaceId c.repository.id u.commitSha u.providerUpdatedAt
    let services ← read fun s => serviceIds s c.workspaceId c.repository.id change
    upsertRow u c change services again

/-- `upsert_github_deployment`. -/
def upsertGithubDeployment (host : Host) (payload : Items) (c : DeploymentCall) :
    DatabaseCall (Option DeploymentRecord) :=
  upsertOnce host payload c (upsertOnce host payload c (raise .integrityError))

/-! ## What an upsert does -/

section Outcomes

variable {host : Host} {payload : Items} {u : DeploymentUpdate} {c : DeploymentCall}
  {change : Option ChangeRecord} {services : List String}
  {again : DatabaseCall (Option DeploymentRecord)} {s s' : State Store}
  {record : DeploymentRecord}

theorem upsertGithubDeployment_none
    (h : deploymentUpdate host payload c.event.occurredAt = .ok none) :
    upsertGithubDeployment host payload c s = (.ok none, s) := by
  rw [upsertGithubDeployment, upsertOnce, lift_ok_bind h]
  rfl

/-- A delivery with an update goes to the row of its deployment. -/
theorem upsertGithubDeployment_some
    (h : deploymentUpdate host payload c.event.occurredAt = .ok (some u)) :
    upsertGithubDeployment host payload c s =
      upsertRow u c (matchedChange s.cur c.workspaceId c.repository.id u.commitSha
          u.providerUpdatedAt)
        (serviceIds s.cur c.workspaceId c.repository.id
          (matchedChange s.cur c.workspaceId c.repository.id u.commitSha u.providerUpdatedAt))
        (upsertOnce host payload c (raise .integrityError)) s := by
  rw [upsertGithubDeployment, upsertOnce, lift_ok_bind h]
  rfl

/-- The deployment is new: no other session can have come first. -/
theorem upsertRow_created (h : s.cur.deployments.get? (deploymentIdentity u c) = none) :
    ∃ deployments, s.cur.deployments.insert (createdDeployment u c change services) =
        some deployments ∧
      upsertRow u c change services again s =
        (.ok (some (createdDeployment u c change services)),
          (s.written (setDeployments deployments u change (deploymentAudit "deployment.created" u c
            (createdDeployment u c change services)))).committed) := by
  obtain ⟨deployments, hinsert⟩ := Table.insert_of_free
    (r := createdDeployment u c change services) h
  refine ⟨deployments, hinsert, ?_⟩
  rw [upsertRow, read_bind_apply, h]
  show createDeployment _ _ _ _ _ _ = _
  rw [createDeployment, read_bind_apply, hinsert]
  rfl

/-- The delivery has been applied already, or is older than the row. -/
theorem upsertRow_kept (h : s.cur.deployments.get? (deploymentIdentity u c) = some record)
    (hkept : isLastDelivery record c.deliveryId ∨ u.providerUpdatedAt < record.providerUpdatedAt) :
    upsertRow u c change services again s = (.ok (some record), s) := by
  rw [upsertRow, read_bind_apply, h]
  show (if _ then _ else _ : DatabaseCall _) s = _
  rw [if_pos (by simpa using hkept)]
  rfl

/-- Any other delivery is applied to the row. -/
theorem upsertRow_later (h : s.cur.deployments.get? (deploymentIdentity u c) = some record)
    (hlast : isLastDelivery record c.deliveryId = false)
    (hnew : record.providerUpdatedAt ≤ u.providerUpdatedAt) :
    upsertRow u c change services again s = applyDeployment u c change services record s := by
  rw [upsertRow, read_bind_apply, h]
  show (if _ then _ else _ : DatabaseCall _) s = _
  rw [if_neg (by simpa [hlast] using hnew)]

/-- The row is another repository's. -/
theorem applyDeployment_mismatch (hscope : record.repositoryId ≠ c.repository.id) :
    applyDeployment u c change services record s =
      (.error (.domain "Deployment identity does not match its recorded scope"
        "deployment_identity_mismatch" 409), s) :=
  lift_error_bind (Raise.raiseIf_pos (Or.inr hscope) _)

/-- The row and the matched change are set, in one commit. -/
theorem applyDeployment_ok (change : Option ChangeRecord) (services : List String)
    (h : s.cur.deployments.get? (deploymentIdentity u c) = some record)
    (hscope : record.repositoryId = c.repository.id) :
    ∃ deployments, (∀ k, deployments.get? k = if k = deploymentIdentity u c
        then some (updatedDeployment u c change services record)
        else s.cur.deployments.get? k) ∧
      applyDeployment u c change services record s =
        (.ok (some (updatedDeployment u c change services record)),
          (s.written (setDeployments deployments u change (deploymentAudit "deployment.updated" u c
            (updatedDeployment u c change services record)))).committed) := by
  have hkey : record.identity = deploymentIdentity u c := Table.key_of_get? h
  refine ⟨s.cur.deployments.updateWhere (fun row => row.identity = record.identity) _
    (updatedDeployment_identity u c change services), fun k => ?_, ?_⟩
  · rw [Table.get?_updateKey, hkey]
    by_cases hk : k = deploymentIdentity u c
    · simp [hk, h]
    · simp [hk]
  · have hworkspace : record.workspaceId = c.workspaceId := congrArg Prod.fst hkey
    rw [applyDeployment, lift_ok_bind (Raise.raiseIf_neg (by simp [hworkspace, hscope]) _)]
    rfl

/-- After an upsert its deployment has a row, and the ledger is as it was. -/
theorem upsertRow_ok {result : Option DeploymentRecord}
    (h : upsertRow u c change services again s = (.ok result, s')) :
    s'.cur.events = s.cur.events ∧ s'.cur.deployments.get? (deploymentIdentity u c) ≠ none := by
  cases hget : s.cur.deployments.get? (deploymentIdentity u c) with
  | none =>
    obtain ⟨deployments, hinsert, hrun⟩ := upsertRow_created (s := s) hget
    rw [hrun] at h
    obtain ⟨-, rfl⟩ := Prod.mk.inj h
    refine ⟨rfl, ?_⟩
    show deployments.get? _ ≠ none
    rw [Table.get?_insert hinsert]
    exact fun hnone => Option.some_ne_none _ ((if_pos rfl).symm.trans hnone)
  | some record =>
    by_cases hkept : isLastDelivery record c.deliveryId ∨
        u.providerUpdatedAt < record.providerUpdatedAt
    · rw [upsertRow_kept hget hkept] at h
      obtain ⟨-, rfl⟩ := Prod.mk.inj h
      exact ⟨rfl, by simp [hget]⟩
    · obtain ⟨hlast, hnew⟩ := not_or.mp hkept
      rw [Bool.not_eq_true] at hlast
      rw [upsertRow_later hget hlast (not_lt.mp hnew)] at h
      by_cases hscope : record.repositoryId = c.repository.id
      · obtain ⟨deployments, hrow, hrun⟩ := applyDeployment_ok change services hget hscope
        rw [hrun] at h
        obtain ⟨-, rfl⟩ := Prod.mk.inj h
        refine ⟨rfl, ?_⟩
        show deployments.get? _ ≠ none
        rw [hrow, if_pos rfl]
        exact Option.some_ne_none _
      · rw [applyDeployment_mismatch hscope] at h
        cases h

end Outcomes

end DeployGuard.Service
