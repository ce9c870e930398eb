import DeployGuard.Lib.Number
import DeployGuard.Service.Provider

/-!
# The Check Run of a commit

`_publish_github_change_check`: what it reports of a change, the row that
remembers the Check Run of a commit, and the requests to GitHub. The database
and GitHub are two stores without a common transaction, so a call works on the
pair (`World`): its commits are the database's, and a request that takes effect
stays, whatever becomes of the call (`Call.external`).
-/

namespace DeployGuard.Service

open Raise Session Session.Call

/-! ## The report -/

/-- The policy of a workspace without a row of its own. -/
def defaultRiskPolicy (workspaceId : String) : WorkspaceRiskPolicy where
  workspaceId := workspaceId
  enabled := true
  warnThreshold := 60
  blockThreshold := 80
  requireTests := true
  requireRollback := true
  maxBlastRadius := 10
  version := 1

/-- The nodes of the blast radius with an impact. -/
def impactedServices (change : ChangeRecord) : Nat :=
  change.blastRadius.nodes.countP fun node => 0 < node.impactScore

def thresholdFindings (policy : WorkspaceRiskPolicy) (score : Int) : List String :=
  if policy.blockThreshold ≤ score then
    [s!"Risk score meets the escalation threshold ({policy.blockThreshold})."]
  else if policy.warnThreshold ≤ score then
    [s!"Risk score meets the review threshold ({policy.warnThreshold})."]
  else []

/-- `policy_findings`, as far as the policy goes. -/
def policyFindings (policy : WorkspaceRiskPolicy) (change : ChangeRecord) : List String :=
  if policy.enabled then
    thresholdFindings policy change.risk.overallScore ++
      (if policy.requireTests && change.testCoverage.all (· ≤ 0) then
        ["Required test coverage evidence is missing."] else []) ++
      (if policy.requireRollback && change.rollbackReady ≠ some true then
        ["Required rollback readiness is missing."] else []) ++
      (if policy.maxBlastRadius < impactedServices change then
        ["Blast radius exceeds the workspace maximum " ++
          s!"({impactedServices change}/{policy.maxBlastRadius} services)."] else [])
  else []

def receiptMissing (change : ChangeRecord) : Bool := change.dataMode = "connected"

def checkFindings (policy : WorkspaceRiskPolicy) (change : ChangeRecord) : List String :=
  (if receiptMissing change then
    ["No SHA-matched DeployGuard Evidence Receipt has been ingested; " ++
      "provider metadata is not executable verification evidence."] else []) ++
    policyFindings policy change

def checkConclusion (policy : WorkspaceRiskPolicy) (change : ChangeRecord) : String :=
  if checkFindings policy change ≠ [] ∨ receiptMissing change then "neutral" else "success"

def checkTitle (policy : WorkspaceRiskPolicy) (change : ChangeRecord) : String :=
  let score := change.risk.overallScore
  if receiptMissing change then "Evidence review required - receipt missing"
  else if policy.blockThreshold ≤ score ∧ policy.enabled then s!"Escalated review · risk {score}/100"
  else if checkConclusion policy change = "neutral" then s!"Review recommended · risk {score}/100"
  else s!"Normal review · risk {score}/100"

def summaryLines (policy : WorkspaceRiskPolicy) (change : ChangeRecord) : List String :=
  let score := change.risk.overallScore
  let level := change.risk.level
  let quality := Number.wholePercent change.risk.dataQuality
  let enabled := if policy.enabled then "enabled" else "disabled"
  let findings := checkFindings policy change
  [if receiptMissing change then s!"Metadata-derived risk prior: **{score}/100 ({level})**."
    else s!"Deterministic change risk: **{score}/100 ({level})**.",
    s!"Evidence quality: **{quality}**.",
    s!"Workspace policy: **v{policy.version} ({enabled})**."] ++
    (if findings = [] then [] else ["", "### Policy findings"] ++ findings.map ("- " ++ ·)) ++
    ["", "### Verify next"] ++
    (if change.risk.recommendations = [] then ["- Continue with the normal review path."]
      else change.risk.recommendations.map ("- " ++ ·)) ++
    ["", "DeployGuard provides decision support only. This check does not " ++
      "deploy, roll back, or remediate infrastructure."]

structure CheckReport where
  conclusion : String
  title : String
  summary : String
  deriving DecidableEq

def checkReport (policy : WorkspaceRiskPolicy) (change : ChangeRecord) : CheckReport where
  conclusion := checkConclusion policy change
  title := checkTitle policy change
  summary := "\n".intercalate (summaryLines policy change)

/-- A publication is asked for: what it is about, what the server is configured
with, and what the attempt draws. -/
structure CheckCall where
  connection : ProviderConnection
  repository : Repository
  change : ChangeRecord
  actorUserId : Option String
  requestId : String
  frontendPublicUrl : String
  appAvailable : Bool
  newId : String
  now : Time

namespace CheckCall

/-- The columns of `uq_github_check_repository_head`. -/
def key (q : CheckCall) : String × String := (q.repository.id, q.change.commitSha)

def detailsUrl (q : CheckCall) : String :=
  Text.rstripChar '/' q.frontendPublicUrl ++ "/?" ++ Text.urlencode
    [("view", "change_risk"), ("workspace", q.connection.workspaceId),
      ("repository", q.repository.id), ("scenario", q.change.scenarioId), ("change", q.change.id)]

end CheckCall

/-! ## GitHub's Check Runs -/

/-- A Check Run at GitHub. -/
structure CheckRun where
  id : Nat
  externalId : String
  headSha : String
  conclusion : String
  title : String
  summary : String
  detailsUrl : String
  deriving DecidableEq

/-- The id of a Check Run, as it stands in an answer's text and in a path. -/
def CheckRun.text (run : CheckRun) : String := toString run.id

/-- The database and GitHub. -/
structure World where
  store : Store
  checkRuns : List CheckRun
  deriving DecidableEq

/-- Code that works on the database and asks GitHub. -/
abbrev PublishCall (α : Type) : Type := Session.Call World ServiceError α

/-- `request_payload`. -/
structure CheckRequest where
  repositoryFullName : String
  headSha : String
  externalId : String
  conclusion : String
  title : String
  summary : String
  detailsUrl : String

/-- What becomes of a request that is to change something at GitHub. -/
structure RequestOutcome where
  effective : Bool
  answer : Except ServiceError Items

/-- How GitHub answers the requests of an attempt. -/
structure CheckAnswers where
  /-- to the list of the commit's Check Runs -/
  listed : Except ServiceError Items
  created : RequestOutcome
  newRunId : Nat
  /-- to the update of a Check Run -/
  updated : String → RequestOutcome

def checkInputInvalid : ServiceError :=
  .domain "GitHub check run input is invalid" "github_check_input_invalid" 400

/-- `_repository_parts`. -/
def repositoryParts (fullName : String) : Except ServiceError (String × String) := do
  let (owner, separator, repository) := Text.partition '/' fullName
  raiseIf (separator = false ∨ owner = "" ∨ repository = "" ∨ '/' ∈ repository.toList)
    checkInputInvalid
  pure (owner, repository)

/-- `re.fullmatch(r"[0-9a-fA-F]{7,64}", head_sha)`. -/
def isHeadSha (headSha : String) : Bool :=
  7 ≤ headSha.length && headSha.length ≤ 64 && headSha.toList.all isHexDigit

/-- What `_check_run_body` checks. -/
def checkRunBody (request : CheckRequest) : Except ServiceError Unit :=
  raiseIf (isHeadSha request.headSha = false ∨ Text.strip request.externalId = "" ∨
      ["action_required", "failure", "neutral", "success"].contains request.conclusion = false)
    checkInputInvalid

/-- A request to GitHub. -/
def sendRequest (outcome : RequestOutcome) (effect : World → World) : PublishCall Items := do
  external (if outcome.effective then effect else id)
  lift outcome.answer

def addCheckRun (id : Nat) (request : CheckRequest) (w : World) : World :=
  { w with
    checkRuns := w.checkRuns ++
      [{ id := id
         externalId := request.externalId
         headSha := request.headSha
         conclusion := request.conclusion
         title := Text.take 255 request.title
         summary := Text.take 65535 request.summary
         detailsUrl := request.detailsUrl }] }

def updateRun (id : String) (request : CheckRequest) (run : CheckRun) : CheckRun :=
  if run.text = id then
    { run with
      externalId := request.externalId
      conclusion := request.conclusion
      title := Text.take 255 request.title
      summary := Text.take 65535 request.summary
      detailsUrl := request.detailsUrl }
  else run

def setCheckRun (id : String) (request : CheckRequest) (w : World) : World :=
  { w with checkRuns := w.checkRuns.map (updateRun id request) }

/-- `create_check_run`. -/
def createCheckRun (answers : CheckAnswers) (request : CheckRequest) : PublishCall Items := do
  let _ ← lift (repositoryParts request.repositoryFullName)
  lift (checkRunBody request)
  sendRequest answers.created (addCheckRun answers.newRunId request)

/-- `text.isdigit()`, of ASCII text. -/
def isDigits (text : String) : Bool := text ≠ "" && text.toList.all Char.isDigit

/-- `update_check_run`. -/
def updateCheckRun (answers : CheckAnswers) (providerCheckId : String) (request : CheckRequest) :
    PublishCall Items := do
  let _ ← lift (repositoryParts request.repositoryFullName)
  lift (raiseIf (isDigits providerCheckId = false) checkInputInvalid)
  lift (checkRunBody request)
  sendRequest (answers.updated providerCheckId) (setCheckRun providerCheckId request)

/-- The record is an object with the external id. -/
def matchingRecord (host : Host) (externalId : String) : Value → Option Items
  | .dict record =>
    if host.str (firstTruthy [getItem record "external_id", .str ""]) = externalId then some record
    else none
  | _ => none

/-- The first record of a list of Check Runs with the external id. -/
def scanCheckRuns (host : Host) (externalId : String) (payload : Items) :
    Except ServiceError (Option Items) :=
  match getItem payload "check_runs" with
  | .list records => .ok (records.findSome? (matchingRecord host externalId))
  | _ => .error (.domain "GitHub returned an invalid Check Runs response"
      "github_api_invalid_response" 502)

/-- `find_check_run`. -/
def findCheckRun (host : Host) (fullName headSha externalId : String)
    (listed : Except ServiceError Items) : Except ServiceError (Option Items) := do
  let _ ← repositoryParts fullName
  raiseIf (isHeadSha headSha = false ∨ Text.strip externalId = "") checkInputInvalid
  let payload ← listed
  scanCheckRuns host externalId payload

/-! ## The publication row -/

def newPublication (q : CheckCall) (report : CheckReport) : GitHubCheckPublication where
  id := q.newId
  workspaceId := q.connection.workspaceId
  repositoryId := q.repository.id
  changeId := q.change.id
  headSha := q.change.commitSha
  externalId := q.newId
  providerCheckId := none
  status := "pending"
  conclusion := some report.conclusion
  detailsUrl := q.detailsUrl
  attemptCount := 0
  lastErrorCode := none
  nextRetryAt := none
  createdAt := q.now
  updatedAt := q.now
  publishedAt := none

def setPublications (publications : Table GitHubCheckPublication.identity) (w : World) : World :=
  { w with store := { w.store with publications := publications } }

/-- Columns are assigned on the publication with an id. -/
def updatePublication (id : String) (f : GitHubCheckPublication → GitHubCheckPublication)
    (hf : ∀ row, (f row).identity = row.identity) (w : World) : World :=
  setPublications (w.store.publications.updateWhere (fun row => row.id = id) f hf) w

/-- The publication of another writer, after the insert met the constraint. -/
def reloadPublication (q : CheckCall) : PublishCall GitHubCheckPublication := do
  rollback
  match ← read fun w => w.store.publications.get? q.key with
  | some publication => pure publication
  | none => raise .integrityError

/-- The stored publication of the commit, or a new one. -/
def ensurePublication (q : CheckCall) (report : CheckReport) :
    Option GitHubCheckPublication → PublishCall GitHubCheckPublication
  | some publication => pure publication
  | none => do
    match ← read fun w => w.store.publications.insert (newPublication q report) with
    | some publications =>
      write (setPublications publications)
      commit
      pure (newPublication q report)
    | none => reloadPublication q

def refreshPublication (q : CheckCall) (report : CheckReport) (row : GitHubCheckPublication) :
    GitHubCheckPublication :=
  { row with
    changeId := q.change.id
    conclusion := some report.conclusion
    detailsUrl := q.detailsUrl
    updatedAt := q.now }

@[simp] theorem refreshPublication_identity (q : CheckCall) (report : CheckReport)
    (row : GitHubCheckPublication) : (refreshPublication q report row).identity = row.identity := rfl

/-- The report goes into the publication. -/
def storeReport (q : CheckCall) (report : CheckReport) (publication : GitHubCheckPublication) :
    PublishCall GitHubCheckPublication := do
  write (updatePublication publication.id (refreshPublication q report)
    (refreshPublication_identity q report))
  commit
  pure (refreshPublication q report publication)

/-- `_github_check_publication`. -/
def githubCheckPublication (q : CheckCall) (report : CheckReport) :
    PublishCall GitHubCheckPublication := do
  let existing ← read fun w => w.store.publications.get? q.key
  let publication ← ensurePublication q report existing
  storeReport q report publication

/-! ## An attempt -/

def startAttempt (now : Time) (row : GitHubCheckPublication) : GitHubCheckPublication :=
  { row with
    status := "publishing"
    attemptCount := row.attemptCount + 1
    lastErrorCode := none
    nextRetryAt := none
    updatedAt := now }

@[simp] theorem startAttempt_identity (now : Time) (row : GitHubCheckPublication) :
    (startAttempt now row).identity = row.identity := rfl

/-- `GITHUB_CHECK_RETRYABLE_ERRORS`. -/
def isRetryableCheckError (code : String) : Bool :=
  ["github_api_error", "github_api_invalid_response", "github_api_unavailable",
    "github_check_publish_failed", "github_rate_limited", "github_token_exchange_failed"].contains
    code

/-- `_github_check_retry_delay`. -/
def githubCheckRetryDelay (attemptCount : Int) : Time :=
  seconds (min 3600 (30 * 2 ^ (min (max (attemptCount - 1) 0) 7).toNat))

def failAttempt (code : String) (now : Time) (row : GitHubCheckPublication) :
    GitHubCheckPublication :=
  { row with
    status := if isRetryableCheckError code then "retryable_failed" else "permanent_failed"
    lastErrorCode := some code
    nextRetryAt :=
      if isRetryableCheckError code then some (now + githubCheckRetryDelay row.attemptCount) else none
    updatedAt := now }

@[simp] theorem failAttempt_identity (code : String) (now : Time) (row : GitHubCheckPublication) :
    (failAttempt code now row).identity = row.identity := rfl

def setErrorCode (code : Option String) (now : Time) (row : ProviderConnection) :
    ProviderConnection :=
  { row with errorCode := code, updatedAt := now }

@[simp] theorem setErrorCode_id (code : Option String) (now : Time) (row : ProviderConnection) :
    (setErrorCode code now row).id = row.id := rfl

/-- The connection's error code is set, if it is there. -/
def noteError (q : CheckCall) (code : Option String) (s : Store) : Store :=
  { s with
    connections := s.connections.updateWhere (fun row => row.id = q.connection.id)
      (setErrorCode code q.now) (setErrorCode_id code q.now) }

def checkAudit (q : CheckCall) (workspaceId action : String) (metadata : Items) : AuditEvent where
  workspaceId := workspaceId
  actorUserId := q.actorUserId
  action := action
  resourceType := "change"
  resourceId := q.change.id
  requestId := q.requestId
  metadata := metadata
  createdAt := q.now

/-- The failure is noted at the connection and in the audit log, if the
connection is there. -/
def auditFailure (q : CheckCall) (publication : GitHubCheckPublication) (code : String)
    (s : Store) : Store :=
  match s.connections.get? q.connection.id with
  | none => s
  | some connection =>
    (noteError q (some code) s).audit
      (checkAudit q connection.workspaceId "provider.github.check_publish_failed"
        [("error_code", .str code), ("retryable", .bool (isRetryableCheckError code)),
          ("publication_id", .str publication.id)])

def onStore (f : Store → Store) (w : World) : World := { w with store := f w.store }

/-- What the `except` of an attempt commits. -/
def failPublication (q : CheckCall) (publication : GitHubCheckPublication) (code : String) :
    PublishCall Unit := do
  rollback
  write (updatePublication publication.id (failAttempt code q.now) (failAttempt_identity code q.now))
  write (onStore (auditFailure q publication code))
  commit

/-- The id of the Check Run, from the row or from GitHub: GitHub is asked when
an earlier attempt may have created one. -/
def recoverCheckId (host : Host) (q : CheckCall) (answers : CheckAnswers)
    (publication : GitHubCheckPublication) : PublishCall (Option String) := do
  if publication.providerCheckId = none ∧ 0 < publication.attemptCount then
    let recovered ← lift (findCheckRun host q.repository.fullName q.change.commitSha
      publication.externalId answers.listed)
    pure (recovered.map fun record => host.str (firstTruthy [getItem record "id", .str ""]))
  else pure publication.providerCheckId

def checkRequest (q : CheckCall) (report : CheckReport) (publication : GitHubCheckPublication) :
    CheckRequest where
  repositoryFullName := q.repository.fullName
  headSha := q.change.commitSha
  externalId := publication.externalId
  conclusion := report.conclusion
  title := report.title
  summary := report.summary
  detailsUrl := q.detailsUrl

/-- The Check Run that is known is updated, else one is created. -/
def putCheckRun (answers : CheckAnswers) (request : CheckRequest) (providerCheckId : Option String) :
    PublishCall Items :=
  if providerCheckId.getD "" ≠ "" then
    updateCheckRun answers (providerCheckId.getD "") request
  else createCheckRun answers request

/-- `str(result.get("id") or provider_check_id or "")`. -/
def answeredId (host : Host) (providerCheckId : Option String) (result : Items) : String :=
  host.str (firstTruthy [getItem result "id", (providerCheckId.map Value.str).getD .none, .str ""])

/-- The `try` of an attempt: the id of the Check Run, and GitHub's answer. -/
def sendCheckRun (host : Host) (q : CheckCall) (answers : CheckAnswers) (report : CheckReport)
    (publication : GitHubCheckPublication) : PublishCall (String × Items) := do
  let known ← recoverCheckId host q answers publication
  let result ← putCheckRun answers (checkRequest q report publication) known
  lift (raiseIf (answeredId host known result = "")
    (.domain "GitHub did not return a Check Run ID" "github_check_publish_failed" 502))
  pure (answeredId host known result, result)

def publishRow (q : CheckCall) (report : CheckReport) (providerCheckId : String)
    (row : GitHubCheckPublication) : GitHubCheckPublication :=
  { row with
    providerCheckId := some providerCheckId
    status := "published"
    conclusion := some report.conclusion
    detailsUrl := q.detailsUrl
    lastErrorCode := none
    nextRetryAt := none
    updatedAt := q.now
    publishedAt := some q.now }

@[simp] theorem publishRow_identity (q : CheckCall) (report : CheckReport) (providerCheckId : String)
    (row : GitHubCheckPublication) :
    (publishRow q report providerCheckId row).identity = row.identity := rfl

/-- `session.get(GitHubCheckPublication, publication.id)`. -/
def persistedPublication (publication : GitHubCheckPublication) (w : World) :
    Except ServiceError GitHubCheckPublication :=
  match w.store.publications.rows.find? fun row => row.id = publication.id with
  | some row => .ok row
  | none => .error (.domain "GitHub Check publication state was lost"
      "github_check_publication_missing" 500)

def auditPublished (q : CheckCall) (report : CheckReport) (publication : GitHubCheckPublication)
    (providerCheckId : String) (attemptCount : Int) (s : Store) : Store :=
  (noteError q none s).audit
    (checkAudit q publication.workspaceId "provider.github.check_published"
      [("provider_check_id", .str providerCheckId), ("publication_id", .str publication.id),
        ("conclusion", .str report.conclusion), ("risk_score", .int q.change.risk.overallScore),
        ("attempt_count", .int attemptCount)])

/-- `GitHubCheckRunResponse`. -/
structure CheckRunResponse where
  providerCheckId : String
  changeId : String
  status : String
  conclusion : String
  detailsUrl : String
  publishedAt : Time
  deriving DecidableEq

/-- The rest of an attempt after its `try`. -/
def finishPublication (host : Host) (q : CheckCall) (report : CheckReport)
    (publication : GitHubCheckPublication) (sent : String × Items) :
    PublishCall CheckRunResponse := do
  let persisted ← query (persistedPublication publication)
  write (updatePublication publication.id (publishRow q report sent.1)
    (publishRow_identity q report sent.1))
  write (onStore (auditPublished q report publication sent.1 persisted.attemptCount))
  commit
  pure
    { providerCheckId := sent.1
      changeId := q.change.id
      status := host.str (firstTruthy [getItem sent.2 "status", .str "completed"])
      conclusion := report.conclusion
      detailsUrl := q.detailsUrl
      publishedAt := q.now }

/-- What follows the `try`: only a `DomainError` is handled. -/
def concludeAttempt (host : Host) (q : CheckCall) (report : CheckReport)
    (publication : GitHubCheckPublication) :
    Except ServiceError (String × Items) → PublishCall CheckRunResponse
  | .ok sent => finishPublication host q report publication sent
  | .error (.domain detail code statusCode) => do
    failPublication q publication code
    raise (.domain detail code statusCode)
  | .error e => raise e

/-- `_publish_github_change_check`. -/
def publishGithubChangeCheck (host : Host) (q : CheckCall) (answers : CheckAnswers) :
    PublishCall CheckRunResponse := do
  let policy ← read fun w => w.store.riskPolicies.get? q.connection.workspaceId
  let report := checkReport (policy.getD (defaultRiskPolicy q.connection.workspaceId)) q.change
  let publication ← githubCheckPublication q report
  write (updatePublication publication.id (startAttempt q.now) (startAttempt_identity q.now))
  commit
  lift (raiseIf (q.appAvailable = false)
    (.domain "GitHub App is not configured" "github_app_not_configured" 503))
  let sent ← Call.attempt (sendCheckRun host q answers report publication)
  concludeAttempt host q report publication sent

end DeployGuard.Service
