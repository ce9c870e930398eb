import DeployGuard.Service.Store

/-!
# Job contracts and their producers

`GitHubCheckPublishPayload` with its trace context, and
`enqueue_github_check_publication`, which queues one publication for a connected
change: the idempotency key names the repository and the change, so a second
intent for the same change finds the first.
-/

namespace DeployGuard.Service

open Raise Session Session.Call

def githubCheckPublishJob : String := "github.check.publish.v1"

/-! ## Trace context -/

structure TraceContext where
  traceparent : String
  tracestate : Option String
  deriving DecidableEq

/-- `[0-9a-f]`. -/
def isLowerHex (c : Char) : Bool := c.isDigit || ('a' ≤ c && c ≤ 'f')

/-- The four fields of a `traceparent`, by the lengths the pattern gives them. -/
def traceparentFields (text : String) : Option (List (List Char)) :=
  let cs := text.toList
  let fields := [cs.take 2, (cs.drop 3).take 32, (cs.drop 36).take 16, (cs.drop 53).take 2]
  let separators := [(cs.drop 2).take 1, (cs.drop 35).take 1, (cs.drop 52).take 1]
  if cs.length = 55 ∧ separators.all (· = ['-']) ∧ fields.all (·.all isLowerHex) then some fields
  else none

/-- `validate_traceparent`; `none` is the `ValueError`. -/
def validateTraceparent (host : Host) (value : String) : Option String :=
  let normalized := host.lower (Text.strip value)
  match traceparentFields normalized with
  | some [version, traceId, parentId, _] =>
    if version = ['f', 'f'] ∨ traceId.all (· = '0') ∨ parentId.all (· = '0') then none
    else some normalized
  | _ => none

/-- `[a-z0-9]` and `[a-z0-9_\-*/]`. -/
def isKeyStart (c : Char) : Bool := c.isDigit || ('a' ≤ c && c ≤ 'z')

def isKeyChar (c : Char) : Bool := isKeyStart c || ['_', '-', '*', '/'].contains c

/-- A start character and at most `n` more. -/
def isKeyPart (n : Nat) : List Char → Bool
  | [] => false
  | c :: cs => isKeyStart c && cs.all isKeyChar && cs.length ≤ n

/-- `_TRACESTATE_KEY_RE.fullmatch`. -/
def isTracestateKey (key : List Char) : Bool :=
  isKeyPart 255 key ||
    (isKeyPart 240 (key.takeWhile (· ≠ '@')) && isKeyPart 13 ((key.dropWhile (· ≠ '@')).drop 1))

/-- Key and value of a member are admissible. -/
def isTracestateMember (seen : List (List Char)) (member : List Char) : Bool :=
  let key := member.takeWhile (· ≠ '=')
  let value := (member.dropWhile (· ≠ '=')).drop 1
  isTracestateKey key && !value.isEmpty && value.length ≤ 256 &&
    !(value.head?.any fun c => c = ' ' || c = '\t') &&
    !(value.getLast?.any fun c => c = ' ' || c = '\t') &&
    !value.contains '=' && !seen.contains key

/-- The members one after another, with the keys seen. -/
def checkTracestate (seen : List (List Char)) : List (List Char) → Bool
  | [] => true
  | member :: rest =>
    isTracestateMember seen member &&
      checkTracestate (member.takeWhile (· ≠ '=') :: seen) rest

/-- `validate_tracestate`; `none` is the `ValueError`. -/
def validateTracestate : Option String → Option (Option String)
  | none => some none
  | some value =>
    let normalized := Text.strip value
    let members := (normalized.toList.splitOn ',').map (Text.stripList Text.isspace)
    if normalized = "" then some none
    else if 512 < normalized.length ∨ normalized.toList.any (fun c => c.toNat < 32 || 126 < c.toNat)
      ∨ 32 < members.length ∨ checkTracestate [] members = false then none
    else some (some (",".intercalate (members.map String.ofList)))

/-- `validated_trace_context`: malformed metadata is dropped. -/
def validatedTraceContext (host : Host) (traceparent tracestate : Option String) :
    Option TraceContext := do
  let value ← traceparent
  if value = "" then none
  else
    let traceparent ← validateTraceparent host value
    let tracestate ← validateTracestate tracestate
    pure { traceparent, tracestate }

/-! ## The publication contract -/

/-- `GitHubCheckPublishPayload`. -/
structure GitHubCheckPublishPayload where
  schemaVersion : Int := 1
  connectionId : String
  repositoryId : String
  changeId : String
  traceContext : Option TraceContext
  deriving DecidableEq

/-- `validate_reference`. -/
def referenceErrors (loc value : String) : Schema.Errors :=
  Schema.field loc
    [(Text.strip value ≠ "" ∧ (Text.strip value).length ≤ 160,
      "Value error, job references must contain 1 to 160 characters")]

namespace GitHubCheckPublishPayload

def errors (p : GitHubCheckPublishPayload) : Schema.Errors :=
  referenceErrors "connection_id" p.connectionId ++
    referenceErrors "repository_id" p.repositoryId ++ referenceErrors "change_id" p.changeId

def validate (p : GitHubCheckPublishPayload) : Except ServiceError GitHubCheckPublishPayload :=
  if p.errors = [] then
    .ok { p with
      connectionId := Text.strip p.connectionId
      repositoryId := Text.strip p.repositoryId
      changeId := Text.strip p.changeId }
  else .error (.validation p.errors)

/-- `context.model_dump(exclude_none=True)`. -/
def traceItems (context : TraceContext) : Items :=
  ("traceparent", .str context.traceparent) ::
    (context.tracestate.map fun tracestate => ("tracestate", Value.str tracestate)).toList

/-- `contract.model_dump(mode="json", exclude_none=True)`. -/
def modelDump (p : GitHubCheckPublishPayload) : Items :=
  [("schema_version", .int p.schemaVersion), ("connection_id", .str p.connectionId),
    ("repository_id", .str p.repositoryId), ("change_id", .str p.changeId)] ++
    (p.traceContext.map fun context => ("trace_context", Value.dict (traceItems context))).toList

end GitHubCheckPublishPayload

/-! ## The producer -/

/-- The settings the producers read. -/
structure Settings where
  githubChecksEnabled : Bool
  deriving DecidableEq

/-- Checks are enabled and the connection may write them. -/
def checksWritable (settings : Settings) (connection : ProviderConnection) (host : Host) : Bool :=
  settings.githubChecksEnabled && connection.connectionState == "connected" &&
    Text.lower (host.str (getItemD connection.permissions "checks" (.str ""))) == "write"

/-- The change is a connected one of the connection's repository. -/
def changePublishable (connection : ProviderConnection) (repository : Repository)
    (change : ChangeRecord) : Bool :=
  repository.workspaceId == connection.workspaceId &&
    change.workspaceId == connection.workspaceId && change.repositoryId == repository.id &&
    repository.provider == "github" && repository.selected && change.dataMode == "connected"

/-- `f"github-check:{repository.id}:{change.id}"`. -/
def publicationKey (repository : Repository) (change : ChangeRecord) : String :=
  s!"github-check:{repository.id}:{change.id}"

/-- What an intent carries beside its references. -/
structure IntentContext where
  requestId : String
  traceparent : Option String
  tracestate : Option String
  newId : String
  now : Time

/-- The contract of a change's publication. -/
def publicationPayload (host : Host) (connection : ProviderConnection) (repository : Repository)
    (change : ChangeRecord) (context : IntentContext) : GitHubCheckPublishPayload where
  connectionId := connection.id
  repositoryId := repository.id
  changeId := change.id
  traceContext := validatedTraceContext host context.traceparent context.tracestate

def publicationArgs (connection : ProviderConnection) (repository : Repository)
    (change : ChangeRecord) (context : IntentContext) (contract : GitHubCheckPublishPayload) :
    Jobs.EnqueueArgs where
  jobType := githubCheckPublishJob
  payload := .dict contract.modelDump
  idempotencyKey := some (publicationKey repository change)
  workspaceId := some connection.workspaceId
  requestId := some context.requestId
  maxAttempts := 5
  commit := false
  newId := context.newId
  now := context.now

/-- `enqueue_job` on the session's view, without a commit. -/
def enqueueInSession (args : Jobs.EnqueueArgs) : DatabaseCall Jobs.BackgroundJob := do
  let queued ← query fun s => (Jobs.enqueueJob s.jobs args).mapError .queue
  write fun s => { s with jobs := queued.2 }
  pure queued.1

/-- `enqueue_github_check_publication`, in the caller's transaction. -/
def enqueueGithubCheckPublication (host : Host) (settings : Settings)
    (connection : ProviderConnection) (repository : Repository) (change : ChangeRecord)
    (context : IntentContext) : DatabaseCall (Option Jobs.BackgroundJob) := do
  if checksWritable settings connection host && changePublishable connection repository change then
    let contract ← lift (publicationPayload host connection repository change context).validate
    let job ← enqueueInSession (publicationArgs connection repository change context contract)
    pure (some job)
  else pure none

end DeployGuard.Service
