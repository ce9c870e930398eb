import DeployGuard.Lib.Raise
import DeployGuard.Lib.Table
import DeployGuard.Lib.Text
import DeployGuard.Lib.Value

/-!
# The job outbox: rows, errors and the payload check

`BackgroundJob` is the row of `background_jobs`, column by column, and the table
is keyed by `id`. The model follows the ORM in one respect that matters to every
concurrency result: a commit does not write an object back, it writes the
columns in which the object differs from what was loaded (`flush`). Columns that
a handler's session did not assign keep whatever another session stored there.

`validatePayload` is the queue's check on payloads and results: no key may look
like a credential at any depth, and the value must be JSON.
-/

namespace DeployGuard.Jobs

open Raise

inductive JobStatus where
  | queued
  | running
  | succeeded
  | failed
  | deadLetter
  deriving DecidableEq, Repr

/-- A row of `background_jobs`. -/
structure BackgroundJob where
  id : String
  jobType : String
  workspaceId : Option String
  payload : List (String × Value)
  idempotencyKey : Option String
  status : JobStatus
  attempts : Int
  maxAttempts : Int
  availableAt : Time
  lockedAt : Option Time
  lockedBy : Option String
  lastError : Option String
  result : Option (List (String × Value))
  requestId : Option String
  createdAt : Time
  updatedAt : Time
  completedAt : Option Time
  deriving DecidableEq

/-- `background_jobs`, with its primary key. -/
abbrev JobTable := Table BackgroundJob.id

/-- What a queue operation raises. -/
inductive QueueError where
  | valueError (message : String)
  | jobNotFound (jobId : String)
  | jobStateError (message : String)
  | integrityError
  deriving DecidableEq, Repr

/-! ## What a commit writes -/

/-- One column of an `UPDATE`: the object's value if the session changed it,
else what the row holds. -/
def column {α : Type} [DecidableEq α] (loaded object row : α) : α :=
  if object = loaded then row else object

@[simp] theorem column_self {α : Type} [DecidableEq α] (loaded row : α) :
    column loaded loaded row = row := if_pos rfl

/-- On a row that is still as it was loaded, a column ends up as the object has it. -/
@[simp] theorem column_fresh {α : Type} [DecidableEq α] (loaded object : α) :
    column loaded object loaded = object := by
  unfold column; split <;> simp_all

/-- A column the session moved away from the loaded value is written. -/
theorem column_of_ne {α : Type} [DecidableEq α] {loaded object : α} (row : α)
    (h : object ≠ loaded) : column loaded object row = object := if_neg h

/-- The `UPDATE … WHERE id = …` a commit emits for an object: the columns in
which it differs from the values it was loaded with. The primary key is the
row's own. -/
def flush (loaded object row : BackgroundJob) : BackgroundJob where
  id := row.id
  jobType := column loaded.jobType object.jobType row.jobType
  workspaceId := column loaded.workspaceId object.workspaceId row.workspaceId
  payload := column loaded.payload object.payload row.payload
  idempotencyKey := column loaded.idempotencyKey object.idempotencyKey row.idempotencyKey
  status := column loaded.status object.status row.status
  attempts := column loaded.attempts object.attempts row.attempts
  maxAttempts := column loaded.maxAttempts object.maxAttempts row.maxAttempts
  availableAt := column loaded.availableAt object.availableAt row.availableAt
  lockedAt := column loaded.lockedAt object.lockedAt row.lockedAt
  lockedBy := column loaded.lockedBy object.lockedBy row.lockedBy
  lastError := column loaded.lastError object.lastError row.lastError
  result := column loaded.result object.result row.result
  requestId := column loaded.requestId object.requestId row.requestId
  createdAt := column loaded.createdAt object.createdAt row.createdAt
  updatedAt := column loaded.updatedAt object.updatedAt row.updatedAt
  completedAt := column loaded.completedAt object.completedAt row.completedAt

@[simp] theorem flush_id (loaded object row : BackgroundJob) :
    (flush loaded object row).id = row.id := rfl

/-- Flushed onto the row it was loaded from, an object is stored as it stands. -/
theorem flush_fresh {loaded object : BackgroundJob} (h : object.id = loaded.id) :
    flush loaded object loaded = object := by
  cases object
  simp_all [flush]

/-- Flushing changes only the row with the object's key. -/
def flushRow (t : JobTable) (loaded object : BackgroundJob) : JobTable :=
  t.updateWhere (fun row => row.id = loaded.id) (flush loaded object)
    (flush_id loaded object)

theorem get?_flushRow (t : JobTable) (loaded object : BackgroundJob) (k : String) :
    (flushRow t loaded object).get? k =
      (t.get? k).map fun row => if k = loaded.id then flush loaded object row else row :=
  Table.get?_updateKey t loaded.id (flush loaded object) (flush_id loaded object) k

/-! ## The payload check -/

/-- The words of `_SENSITIVE_PAYLOAD_KEY`. -/
def sensitiveWords : List (List Char) :=
  ["token", "secret", "password", "passwd", "private_key", "api_key", "authorization",
    "credential"].map String.toList

/-- A pattern character against a text character under `re.IGNORECASE`: besides
its capital, `i`, `k` and `s` have the Unicode variants the engine folds to them. -/
def ignoreCase (w c : Char) : Bool :=
  c.toLower == w || (w == 'i' && (c.toNat == 0x130 || c.toNat == 0x131)) ||
    (w == 'k' && c.toNat == 0x212a) || (w == 's' && c.toNat == 0x17f)

/-- The word, then `(?:$|_)`: the end, a final newline or an underscore. -/
def wordThenBoundary : List Char → List Char → Bool
  | [], [] => true
  | [], c :: cs => c == '_' || (c == '\n' && cs.isEmpty)
  | _ :: _, [] => false
  | w :: ws, c :: cs => ignoreCase w c && wordThenBoundary ws cs

/-- `_SENSITIVE_PAYLOAD_KEY.search`; `start` says whether `(?:^|_)` matches here. -/
def searchSensitive (start : Bool) : List Char → Bool
  | [] => start && sensitiveWords.any fun w => wordThenBoundary w []
  | c :: cs =>
    (start && sensitiveWords.any fun w => wordThenBoundary w (c :: cs)) ||
      searchSensitive (c == '_') cs

/-- `re.sub(r"(?<!^)([A-Z])", r"_\1", key)`. -/
def normalizedKey : List Char → List Char
  | [] => []
  | c :: cs => c :: cs.flatMap fun d => if 'A' ≤ d ∧ d ≤ 'Z' then ['_', d] else [d]

def looksLikeCredential (key : String) : Bool :=
  searchSensitive true (normalizedKey key.toList)

mutual
/-- `json.dumps` accepts the value: an integer of too many digits has no text. -/
def dumps : Value → Bool
  | .object => false
  | .int n => Number.hasText n
  | .list xs => dumpsList xs
  | .dict items => dumpsItems items
  | _ => true

def dumpsList : List Value → Bool
  | [] => true
  | x :: xs => dumps x && dumpsList xs

def dumpsItems : List (String × Value) → Bool
  | [] => true
  | (_, x) :: xs => dumps x && dumpsItems xs
end

/-- The `json.dumps` at the end of `_validate_payload`. -/
def requireJson (path : String) (value : Value) : Except QueueError Unit :=
  raiseIf (¬dumps value) (.valueError s!"{path} must contain JSON-compatible values")

mutual
/-- `_validate_payload`. -/
def validatePayload (path : String) : Value → Except QueueError Unit
  | .dict items => do
    validateItems path items
    requireJson path (.dict items)
  | .list xs => do
    validateElements path 0 xs
    requireJson path (.list xs)
  | value => requireJson path value

def validateItems (path : String) : List (String × Value) → Except QueueError Unit
  | [] => .ok ()
  | (key, nested) :: rest => do
    raiseIf (looksLikeCredential key)
      (.valueError s!"{path}.{key} looks like a credential; store references, not secrets")
    validatePayload s!"{path}.{key}" nested
    validateItems path rest

def validateElements (path : String) (index : Nat) : List Value → Except QueueError Unit
  | [] => .ok ()
  | nested :: rest => do
    validatePayload s!"{path}[{index}]" nested
    validateElements path (index + 1) rest
end

end DeployGuard.Jobs
