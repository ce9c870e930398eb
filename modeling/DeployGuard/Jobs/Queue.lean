import DeployGuard.Jobs.Job
import Mathlib.Algebra.Ring.Int.Defs
import Mathlib.Tactic.Tauto

/-!
# The queue operations

`job_queue.py`, one definition per function. A `Session` is the identity map of
an ORM session: what `session.get` returns is the object the session already
holds, however old, and only otherwise a freshly read row. With
`expire_on_commit=False` a commit does not drop or refresh it. Every operation
takes the session and the table and gives both back; what it raises leaves both
as they were.

The clock (`now`), the new row's `id` and the page a `SELECT … ORDER BY` returns
are arguments. An operation that assigns columns of a loaded object is split
in two: the assignment (`requeueExpired`, `complete`, `fail`, `replay`), and the
`UPDATE` its commit emits (`flushRow`).
-/

namespace DeployGuard.Jobs

open Raise

def maxErrorLength : Nat := 4000
def defaultBackoffSeconds : Int := 30
def defaultMaxBackoffSeconds : Int := 3600

/-- The objects a session holds, by primary key. -/
abbrev Session := String → Option BackgroundJob

/-- A session that has loaded nothing. -/
def Session.fresh : Session := fun _ => none

/-- The session after it holds an object. -/
def Session.hold (s : Session) (job : BackgroundJob) : Session :=
  fun id => if id = job.id then some job else s id

/-- `_job_or_raise`: the identity map first, the database second. -/
def jobOrRaise (s : Session) (t : JobTable) (jobId : String) : Except QueueError BackgroundJob :=
  match s jobId with
  | some job => .ok job
  | none =>
    match t.get? jobId with
    | some row => .ok row
    | none => .error (.jobNotFound jobId)

/-! ## Enqueueing -/

/-- The arguments of `enqueue_job`, with the clock value and the identifier the
call draws. -/
structure EnqueueArgs where
  jobType : String
  payload : Value
  idempotencyKey : Option String := none
  workspaceId : Option String := none
  requestId : Option String := none
  availableAt : Option Time := none
  maxAttempts : Int := 5
  commit : Bool := true
  newId : String
  now : Time

def validateAttempts (maxAttempts : Int) : Except QueueError Unit :=
  raiseIf (¬(1 ≤ maxAttempts ∧ maxAttempts ≤ 100))
    (.valueError "max_attempts must be between 1 and 100")

/-- `key.strip()`, checked for length; no key is no check. -/
def normalizeKey : Option String → Except QueueError (Option String)
  | none => .ok none
  | some key => do
    let key := Text.strip key
    raiseIf (key = "" ∨ key.length > 160)
      (.valueError "idempotency_key must contain 1 to 160 characters")
    pure (some key)

/-- The payload as a JSON object. -/
def requireMapping : Value → Except QueueError (List (String × Value))
  | .dict items => .ok items
  | _ => .error (.valueError "payload must be a JSON object")

/-- What `enqueue_job` checks before it touches the database: the stripped type
and key, and the payload's items. -/
def validateEnqueue (a : EnqueueArgs) :
    Except QueueError (String × Option String × List (String × Value)) := do
  let normalizedType := Text.strip a.jobType
  raiseIf (normalizedType = "" ∨ normalizedType.length > 120)
    (.valueError "job_type must contain 1 to 120 characters")
  let idempotencyKey ← normalizeKey a.idempotencyKey
  validateAttempts a.maxAttempts
  let items ← requireMapping a.payload
  validatePayload "payload" (.dict items)
  pure (normalizedType, idempotencyKey, items)

/-- The row under an idempotency key. -/
def findByKey (t : JobTable) (key : String) : Option BackgroundJob :=
  t.rows.find? fun row => row.idempotencyKey = some key

/-- The row `enqueue_job` builds. -/
def newJob (a : EnqueueArgs) (jobType : String) (key : Option String)
    (items : List (String × Value)) : BackgroundJob where
  id := a.newId
  jobType := jobType
  workspaceId := a.workspaceId
  payload := items
  idempotencyKey := key
  status := .queued
  attempts := 0
  maxAttempts := a.maxAttempts
  availableAt := a.availableAt.getD a.now
  lockedAt := none
  lockedBy := none
  lastError := none
  result := none
  requestId := a.requestId
  createdAt := a.now
  updatedAt := a.now
  completedAt := none

/-- `INSERT INTO background_jobs`, with the primary key and the unique
constraint on `idempotency_key`. -/
def insertJob (t : JobTable) (job : BackgroundJob) : Option JobTable :=
  match job.idempotencyKey.bind (findByKey t) with
  | some _ => none
  | none => t.insert job

/-- `enqueue_job`. Without `commit` the insert belongs to the caller's
transaction and an integrity error is the caller's; with it, a lost race on the
key returns the winner. -/
def enqueueJob (t : JobTable) (a : EnqueueArgs) : Except QueueError (BackgroundJob × JobTable) := do
  let (jobType, key, items) ← validateEnqueue a
  match key.bind (findByKey t) with
  | some existing => pure (existing, t)
  | none =>
    let job := newJob a jobType key items
    match insertJob t job with
    | some t' => pure (job, t')
    | none =>
      -- a concurrent producer may have won the unique idempotency race
      match if a.commit then key.bind (findByKey t) else none with
      | some existing => pure (existing, t)
      | none => .error .integrityError

/-! ## Requeueing expired leases -/

/-- The `WHERE` of `requeue_expired_jobs`. -/
def expired (cutoff : Time) (row : BackgroundJob) : Bool :=
  row.status == .running && match row.lockedAt with
    | some lockedAt => lockedAt < cutoff
    | none => false

/-- What `requeue_expired_jobs` assigns to a job it loaded. -/
def requeueExpired (timestamp : Time) (job : BackgroundJob) : BackgroundJob :=
  let job := { job with
    lockedAt := none
    lockedBy := none
    updatedAt := timestamp
    lastError := some "worker lease expired" }
  if job.attempts ≥ job.maxAttempts then
    { job with status := .deadLetter, completedAt := some timestamp }
  else
    { job with status := .queued, availableAt := timestamp }

/-- The `UPDATE`s the commit of `requeue_expired_jobs` emits for the jobs it loaded. -/
def commitRequeue (timestamp : Time) (t : JobTable) (jobs : List BackgroundJob) : JobTable :=
  jobs.foldl (fun t job => flushRow t job (requeueExpired timestamp job)) t

/-- `requeue_expired_jobs`, in a session of its own. -/
def requeueExpiredJobs (leaseTimeout now : Time) (t : JobTable) : Nat × JobTable :=
  let jobs := t.select (expired (now - leaseTimeout))
  (jobs.length, commitRequeue now t jobs)

/-! ## Claiming -/

/-- The `WHERE` of the candidate query. -/
def ready (timestamp : Time) (row : BackgroundJob) : Bool :=
  row.status == .queued && row.availableAt ≤ timestamp

/-- `ORDER BY available_at, created_at`. -/
def claimOrder (a b : BackgroundJob) : Bool :=
  a.availableAt < b.availableAt || (a.availableAt == b.availableAt && a.createdAt ≤ b.createdAt)

/-- A page the candidate query may return. -/
abbrev IsReadyPage (timestamp : Time) (t : JobTable) (page : List BackgroundJob) : Prop :=
  t.IsPage (ready timestamp) claimOrder 20 page

/-- The `SET` of the guarded claim. -/
def claimed (timestamp : Time) (worker : String) (row : BackgroundJob) : BackgroundJob :=
  { row with
    status := .running
    attempts := row.attempts + 1
    lockedAt := some timestamp
    lockedBy := some worker
    updatedAt := timestamp }

@[simp] theorem claimed_id (timestamp : Time) (worker : String) (row : BackgroundJob) :
    (claimed timestamp worker row).id = row.id := rfl

/-- The `WHERE` of the guarded claim. -/
def claimGuard (timestamp : Time) (id : String) (row : BackgroundJob) : Bool :=
  row.id == id && ready timestamp row

/-- The guarded claim of one candidate: its effect and its row count. -/
def claimUpdate (timestamp : Time) (worker id : String) (t : JobTable) : JobTable × Nat :=
  (t.updateWhere (claimGuard timestamp id) (claimed timestamp worker) (claimed_id timestamp worker),
    t.rowcount (claimGuard timestamp id))

def normalizeWorker (workerId : String) : Except QueueError String := do
  let normalizedWorker := Text.strip workerId
  raiseIf (normalizedWorker = "" ∨ normalizedWorker.length > 160)
    (.valueError "worker_id must contain 1 to 160 characters")
  pure normalizedWorker

/-- The candidate loop: the first claim that matches a row is committed. -/
def claimFirst (timestamp : Time) (worker : String) (t : JobTable) :
    List BackgroundJob → Option (String × JobTable)
  | [] => none
  | candidate :: rest =>
    let (t', rowcount) := claimUpdate timestamp worker candidate.id t
    if rowcount > 0 then some (candidate.id, t') else claimFirst timestamp worker t rest

/-- `claim_next_job` over the page the candidate query returned; the job comes
back as `session.get(…, populate_existing=True)` reads it after the commit, and
the session holds it from then on. -/
def claimNextJob (s : Session) (t : JobTable) (page : List BackgroundJob) (workerId : String)
    (now : Time) : Except QueueError (Option BackgroundJob × Session × JobTable) := do
  let worker ← normalizeWorker workerId
  match claimFirst now worker t page with
  | none => pure (none, s, t)
  | some (id, t') =>
    match t'.get? id with
    | none => pure (none, s, t')
    | some job => pure (some job, s.hold job, t')

/-! ## Acknowledging and replaying -/

/-- What `complete_job` assigns. -/
def complete (timestamp : Time) (result : Option (List (String × Value))) (job : BackgroundJob) :
    BackgroundJob :=
  { job with
    status := .succeeded
    result := result
    lockedAt := none
    lockedBy := none
    updatedAt := timestamp
    completedAt := some timestamp }

/-- The check of `complete_job` on a result that is not `None`. -/
def validateResult : Option (List (String × Value)) → Except QueueError Unit
  | some items => validatePayload "result" (.dict items)
  | none => .ok ()

/-- `complete_job`. -/
def completeJob (s : Session) (t : JobTable) (jobId : String)
    (result : Option (List (String × Value))) (now : Time) :
    Except QueueError (BackgroundJob × Session × JobTable) := do
  let job ← jobOrRaise s t jobId
  raiseIf (job.status ≠ .running) (.jobStateError s!"job {jobId} is not running")
  validateResult result
  let done := complete now result job
  pure (done, s.hold done, flushRow t job done)

/-- The arguments of `fail_job` beside the job and the clock. -/
structure FailArgs where
  error : String
  retryable : Bool := true
  backoffSeconds : Int := defaultBackoffSeconds
  maxBackoffSeconds : Int := defaultMaxBackoffSeconds

/-- `error.strip()[:MAX_ERROR_LENGTH] or "job failed"`. -/
def clipError (error : String) : String :=
  Text.orElse (Text.take maxErrorLength (Text.strip error)) "job failed"

/-- The retry delay in seconds, doubled per attempt and capped. -/
def retryDelay (a : FailArgs) (attempts : Int) : Int :=
  min (a.backoffSeconds * 2 ^ (max (attempts - 1) 0).toNat) a.maxBackoffSeconds

/-- What `fail_job` assigns. -/
def fail (timestamp : Time) (a : FailArgs) (job : BackgroundJob) : BackgroundJob :=
  let job := { job with
    lastError := some (clipError a.error)
    lockedAt := none
    lockedBy := none
    updatedAt := timestamp }
  if a.retryable ∧ job.attempts < job.maxAttempts then
    { job with
      status := .queued
      availableAt := timestamp + seconds (retryDelay a job.attempts) }
  else if a.retryable then
    { job with status := .deadLetter, completedAt := some timestamp }
  else
    { job with status := .failed, completedAt := some timestamp }

/-- `fail_job`. -/
def failJob (s : Session) (t : JobTable) (jobId : String) (a : FailArgs) (now : Time) :
    Except QueueError (BackgroundJob × Session × JobTable) := do
  raiseIf (a.backoffSeconds < 0 ∨ a.maxBackoffSeconds < 0)
    (.valueError "backoff values cannot be negative")
  raiseIf (a.maxBackoffSeconds < a.backoffSeconds)
    (.valueError "max_backoff_seconds must be >= backoff_seconds")
  let job ← jobOrRaise s t jobId
  raiseIf (job.status ≠ .running) (.jobStateError s!"job {jobId} is not running")
  let failed := fail now a job
  pure (failed, s.hold failed, flushRow t job failed)

/-- What `replay_dead_letter_job` assigns. -/
def replay (timestamp : Time) (availableAt : Option Time) (job : BackgroundJob) : BackgroundJob :=
  { job with
    status := .queued
    attempts := 0
    availableAt := availableAt.getD timestamp
    lockedAt := none
    lockedBy := none
    lastError := none
    result := none
    updatedAt := timestamp
    completedAt := none }

/-- `replay_dead_letter_job`. -/
def replayDeadLetterJob (s : Session) (t : JobTable) (jobId : String) (availableAt : Option Time)
    (now : Time) : Except QueueError (BackgroundJob × Session × JobTable) := do
  let job ← jobOrRaise s t jobId
  raiseIf (job.status ≠ .failed ∧ job.status ≠ .deadLetter)
    (.jobStateError s!"job {jobId} is not replayable")
  let replayed := replay now availableAt job
  pure (replayed, s.hold replayed, flushRow t job replayed)

/-! ## What each operation can do

One lemma per operation says everything a successful call does to the table;
callers cite it and never unfold the operation. -/

/-- An accepted request has a positive attempt budget. -/
theorem validateEnqueue_ok {a : EnqueueArgs} {jobType : String} {key : Option String}
    {items : List (String × Value)} (h : validateEnqueue a = .ok (jobType, key, items)) :
    1 ≤ a.maxAttempts := by
  simp only [validateEnqueue, validateAttempts, bind_eq_ok, raiseIf_eq_ok, not_not] at h
  obtain ⟨_, _, _, _, _, hmax, _⟩ := h
  exact hmax.1

/-- The key is checked and stored without its outer blanks. -/
theorem validateEnqueue_key {a : EnqueueArgs} {jobType : String} {key : Option String}
    {items : List (String × Value)} (h : validateEnqueue a = .ok (jobType, key, items)) :
    key = a.idempotencyKey.map Text.strip := by
  obtain ⟨u, -, h⟩ := bind_eq_ok.mp h
  obtain ⟨key', hkey, h⟩ := bind_eq_ok.mp h
  obtain ⟨u, -, h⟩ := bind_eq_ok.mp h
  obtain ⟨items', -, h⟩ := bind_eq_ok.mp h
  obtain ⟨u, -, h⟩ := bind_eq_ok.mp h
  obtain ⟨-, hsame⟩ := Prod.mk.inj (pure_eq_ok.mp h)
  obtain ⟨rfl, -⟩ := Prod.mk.inj hsame
  unfold normalizeKey at hkey
  cases hargs : a.idempotencyKey with
  | none =>
    rw [hargs] at hkey
    exact (Except.ok.inj hkey).symm
  | some k =>
    rw [hargs] at hkey
    obtain ⟨u, -, hkey⟩ := bind_eq_ok.mp hkey
    exact (pure_eq_ok.mp hkey).symm

/-- A row found under a key carries it. -/
theorem findByKey_some {t : JobTable} {key : String} {row : BackgroundJob}
    (h : findByKey t key = some row) : row ∈ t.rows ∧ row.idempotencyKey = some key :=
  ⟨List.mem_of_find?_eq_some h, by simpa using List.find?_some h⟩

theorem findByKey_none {t : JobTable} {key : String} (h : findByKey t key = none) :
    ∀ row ∈ t.rows, row.idempotencyKey ≠ some key := by
  simpa [findByKey, List.find?_eq_none] using h

theorem findByKey_isSome {t : JobTable} {key : String} :
    (findByKey t key).isSome ↔ ∃ row ∈ t.rows, row.idempotencyKey = some key := by
  simp [findByKey]

/-- `enqueue_job` returns the row already stored under the key and changes
nothing, or it appends a new row under an identifier and a key nobody has. -/
theorem enqueueJob_ok {t t' : JobTable} {a : EnqueueArgs} {job : BackgroundJob}
    (h : enqueueJob t a = .ok (job, t')) :
    ∃ jobType key items, validateEnqueue a = .ok (jobType, key, items) ∧
      ((t' = t ∧ key.bind (findByKey t) = some job) ∨
       (job = newJob a jobType key items ∧ key.bind (findByKey t) = none ∧
        t.insert job = some t')) := by
  obtain ⟨⟨jobType, key, items⟩, hv, h⟩ := bind_eq_ok.mp h
  refine ⟨jobType, key, items, hv, ?_⟩
  dsimp only at h
  split at h
  · next existing hfound =>
    cases h
    exact Or.inl ⟨rfl, hfound⟩
  · next hnone =>
    split at h
    · next t'' hinsert =>
      cases h
      refine Or.inr ⟨rfl, hnone, ?_⟩
      simpa [insertJob, newJob, hnone] using hinsert
    · split at h
      · next existing hfound =>
        split at hfound
        · rw [hnone] at hfound; cases hfound
        · cases hfound
      · cases h

/-- No two rows share an idempotency key. -/
def UniqueKeys (t : JobTable) : Prop :=
  ∀ job ∈ t.rows, ∀ job' ∈ t.rows, ∀ key, job.idempotencyKey = some key →
    job'.idempotencyKey = some key → job = job'

theorem UniqueKeys.enqueueJob {t t' : JobTable} {a : EnqueueArgs} {job : BackgroundJob}
    (h : UniqueKeys t) (henqueue : enqueueJob t a = .ok (job, t')) : UniqueKeys t' := by
  obtain ⟨jobType, key, items, -, ⟨rfl, -⟩ | ⟨rfl, hfree, hinsert⟩⟩ := enqueueJob_ok henqueue
  · exact h
  · have hrows := (Table.insert_eq_some hinsert).2
    have hnew : ∀ row ∈ t.rows, ∀ k, row.idempotencyKey = some k → key ≠ some k := by
      intro row hrow k hk h
      obtain rfl := h
      exact findByKey_none hfree row hrow hk
    intro row hrow row' hrow' k hk hk'
    rw [hrows, List.mem_append, List.mem_singleton] at hrow hrow'
    rcases hrow with hrow | rfl
    · rcases hrow' with hrow' | rfl
      · exact h row hrow row' hrow' k hk hk'
      · exact absurd hk' (hnew row hrow k hk)
    · rcases hrow' with hrow' | rfl
      · exact absurd hk (hnew row' hrow' k hk')
      · rfl

/-- A key selects the row found under it and no other. -/
theorem UniqueKeys.select_key {t : JobTable} {key : String} {job : BackgroundJob}
    (h : UniqueKeys t) (hfind : findByKey t key = some job) :
    t.select (fun row => row.idempotencyKey = some key) = [job] := by
  obtain ⟨hmem, hkey⟩ := findByKey_some hfind
  refine Table.select_eq_singleton hmem (decide_eq_true hkey) fun row hrow hrowKey => ?_
  exact h row hrow job hmem key (of_decide_eq_true hrowKey) hkey

/-- With nothing loaded, the job is the stored row. -/
theorem jobOrRaise_fresh {t : JobTable} {jobId : String} {job : BackgroundJob}
    (h : jobOrRaise Session.fresh t jobId = .ok job) : t.get? jobId = some job := by
  unfold jobOrRaise Session.fresh at h
  dsimp only at h
  split at h
  · next row hrow => cases h; exact hrow
  · cases h

/-- An object flushed onto the row it was read from replaces that row and no other. -/
theorem get?_flushRow_fresh {t : JobTable} {jobId : String} {job object : BackgroundJob}
    (hrow : t.get? jobId = some job) (hid : object.id = job.id) (k : String) :
    (flushRow t job object).get? k = if k = jobId then some object else t.get? k := by
  rw [get?_flushRow, Table.key_of_get? hrow]
  by_cases hk : k = jobId
  · subst hk
    simp [hrow, flush_fresh hid]
  · simp [hk]

/-! ### Requeueing -/

/-- The commit of a requeue, read back by key: a row that was loaded gets the
object's changed columns, every other row stays. -/
theorem get?_commitRequeue (timestamp : Time) (jobs : List BackgroundJob)
    (hnodup : (jobs.map BackgroundJob.id).Nodup) (t : JobTable) (k : String) :
    (commitRequeue timestamp t jobs).get? k =
      match jobs.find? fun job => job.id = k with
      | some job => (t.get? k).map (flush job (requeueExpired timestamp job))
      | none => t.get? k := by
  unfold commitRequeue
  induction jobs generalizing t with
  | nil => rfl
  | cons job jobs ih =>
    obtain ⟨hfresh, hrest⟩ := List.nodup_cons.mp hnodup
    rw [List.foldl_cons, ih hrest, List.find?_cons, get?_flushRow]
    by_cases hk : job.id = k
    · -- the loaded object for `k` is this one, and no later one touches the row
      have hnone : jobs.find? (fun j => j.id = k) = none := by
        rw [List.find?_eq_none]
        intro j hj hjk
        exact hfresh (List.mem_map.mpr ⟨j, hj, by simpa [hk] using hjk⟩)
      simp [hk, hnone]
    · have hk' : ¬k = job.id := fun h => hk h.symm
      cases t.get? k <;> simp [hk, hk']

/-- `requeue_expired_jobs` as one step: expired running rows are requeued or
dead-lettered, every other row stays. -/
theorem get?_requeueExpiredJobs (leaseTimeout now : Time) (t : JobTable) (k : String) :
    (requeueExpiredJobs leaseTimeout now t).2.get? k =
      (t.get? k).map fun row =>
        if expired (now - leaseTimeout) row then requeueExpired now row else row := by
  have hnodup : ((t.select (expired (now - leaseTimeout))).map BackgroundJob.id).Nodup :=
    t.nodup.sublist (List.filter_sublist.map _)
  rw [show (requeueExpiredJobs leaseTimeout now t).2 =
    commitRequeue now t (t.select (expired (now - leaseTimeout))) from rfl,
    get?_commitRequeue _ _ hnodup]
  split
  · next job hjob =>
    have hid : job.id = k := by simpa using List.find?_some hjob
    obtain ⟨hmem, hexp⟩ := Table.mem_select.mp (List.mem_of_find?_eq_some hjob)
    have hrow : t.get? k = some job := hid ▸ Table.get?_of_mem hmem
    have hreq : (requeueExpired now job).id = job.id := by
      unfold requeueExpired; dsimp only; split <;> rfl
    rw [hrow, Option.map_some, Option.map_some, if_pos hexp, flush_fresh hreq]
  · next hnone =>
    cases hrow : t.get? k with
    | none => rfl
    | some row =>
      obtain ⟨hmem, hid⟩ := Table.get?_eq_some.mp hrow
      have hexp : ¬expired (now - leaseTimeout) row := by
        intro hexp
        exact List.find?_eq_none.mp hnone row (Table.mem_select.mpr ⟨hmem, hexp⟩)
          (by simpa using hid)
      rw [Option.map_some, if_neg hexp]

/-! ### Claiming -/

theorem ready_iff {timestamp : Time} {row : BackgroundJob} :
    ready timestamp row ↔ row.status = .queued ∧ row.availableAt ≤ timestamp := by
  simp [ready]

theorem get?_claimUpdate (timestamp : Time) (worker id : String) (t : JobTable) (k : String) :
    (claimUpdate timestamp worker id t).1.get? k =
      (t.get? k).map fun row =>
        if k = id ∧ ready timestamp row then claimed timestamp worker row else row := by
  rw [show (claimUpdate timestamp worker id t).1 = t.updateWhere (claimGuard timestamp id)
    (claimed timestamp worker) (claimed_id timestamp worker) from rfl, Table.get?_updateWhere]
  cases h : t.get? k with
  | none => rfl
  | some row =>
    have hk : row.id = k := Table.key_of_get? h
    simp [claimGuard, hk]

/-- The guarded claim matches a row exactly when the candidate is still ready. -/
theorem claimUpdate_rowcount {timestamp : Time} {worker id : String} {t : JobTable} :
    0 < (claimUpdate timestamp worker id t).2 ↔ ∃ row, t.get? id = some row ∧ ready timestamp row := by
  rw [show (claimUpdate timestamp worker id t).2 = t.rowcount (claimGuard timestamp id) from rfl,
    Table.rowcount_pos]
  constructor
  · intro h
    obtain ⟨row, hmem, hguard⟩ := h
    obtain ⟨hid, hready⟩ : row.id = id ∧ ready timestamp row := by
      simpa [claimGuard] using hguard
    exact ⟨row, hid ▸ Table.get?_of_mem hmem, hready⟩
  · intro h
    obtain ⟨row, hrow, hready⟩ := h
    exact ⟨row, Table.mem_of_get? hrow, by simp [claimGuard, Table.key_of_get? hrow, hready]⟩

/-- The candidate loop claims one row that is ready, and touches no other. -/
theorem claimFirst_some {timestamp : Time} {worker id : String} {t t' : JobTable}
    {page : List BackgroundJob} (h : claimFirst timestamp worker t page = some (id, t')) :
    ∃ row, t.get? id = some row ∧ ready timestamp row ∧
      ∀ k, t'.get? k = if k = id then some (claimed timestamp worker row) else t.get? k := by
  induction page with
  | nil => cases h
  | cons candidate rest ih =>
    unfold claimFirst at h
    dsimp only at h
    split at h
    · next hcount =>
      cases h
      obtain ⟨row, hrow, hready⟩ := claimUpdate_rowcount.mp hcount
      refine ⟨row, hrow, hready, fun k => ?_⟩
      rw [get?_claimUpdate]
      by_cases hk : k = candidate.id
      · subst hk; simp [hrow, hready]
      · simp [hk]
    · exact ih h

/-- `claim_next_job` finds nothing and changes nothing, or it takes one ready
row, which the session then holds as stored. -/
theorem claimNextJob_ok {s s' : Session} {t t' : JobTable} {page : List BackgroundJob}
    {workerId : String} {now : Time} {job? : Option BackgroundJob}
    (h : claimNextJob s t page workerId now = .ok (job?, s', t')) :
    (job? = none ∧ s' = s ∧ t' = t) ∨
    ∃ worker row, normalizeWorker workerId = .ok worker ∧ t.get? row.id = some row ∧
      ready now row ∧ job? = some (claimed now worker row) ∧
      s' = s.hold (claimed now worker row) ∧
      ∀ k, t'.get? k = if k = row.id then some (claimed now worker row) else t.get? k := by
  obtain ⟨worker, hworker, h⟩ := bind_eq_ok.mp h
  split at h
  · cases h
    exact Or.inl ⟨rfl, rfl, rfl⟩
  · next id t₁ hfirst =>
    obtain ⟨row, hrow, hready, hget⟩ := claimFirst_some hfirst
    have hid : row.id = id := Table.key_of_get? hrow
    subst hid
    have hself : t₁.get? row.id = some (claimed now worker row) := by rw [hget, if_pos rfl]
    rw [hself] at h
    cases h
    exact Or.inr ⟨worker, row, hworker, hrow, hready, rfl, rfl, hget⟩

/-! ### Acknowledging and replaying -/

theorem completeJob_ok {s s' : Session} {t t' : JobTable} {jobId : String}
    {result : Option (List (String × Value))} {now : Time} {done : BackgroundJob}
    (h : completeJob s t jobId result now = .ok (done, s', t')) :
    ∃ job, jobOrRaise s t jobId = .ok job ∧ job.status = .running ∧
      done = complete now result job ∧ s' = s.hold done ∧ t' = flushRow t job done := by
  simp only [completeJob, bind_eq_ok, raiseIf_eq_ok, not_not, pure_eq_ok, Prod.mk.injEq] at h
  obtain ⟨job, hjob, _, hrun, _, _, rfl, rfl, rfl⟩ := h
  exact ⟨job, hjob, hrun, rfl, rfl, rfl⟩

theorem failJob_ok {s s' : Session} {t t' : JobTable} {jobId : String} {a : FailArgs}
    {now : Time} {failed : BackgroundJob}
    (h : failJob s t jobId a now = .ok (failed, s', t')) :
    ∃ job, jobOrRaise s t jobId = .ok job ∧ job.status = .running ∧
      failed = fail now a job ∧ s' = s.hold failed ∧ t' = flushRow t job failed := by
  simp only [failJob, bind_eq_ok, raiseIf_eq_ok, not_not, pure_eq_ok, Prod.mk.injEq] at h
  obtain ⟨_, _, _, _, job, hjob, _, hrun, rfl, rfl, rfl⟩ := h
  exact ⟨job, hjob, hrun, rfl, rfl, rfl⟩

theorem replayDeadLetterJob_ok {s s' : Session} {t t' : JobTable} {jobId : String}
    {availableAt : Option Time} {now : Time} {replayed : BackgroundJob}
    (h : replayDeadLetterJob s t jobId availableAt now = .ok (replayed, s', t')) :
    ∃ job, jobOrRaise s t jobId = .ok job ∧ (job.status = .failed ∨ job.status = .deadLetter) ∧
      replayed = replay now availableAt job ∧ s' = s.hold replayed ∧
      t' = flushRow t job replayed := by
  simp only [replayDeadLetterJob, bind_eq_ok, raiseIf_eq_ok, pure_eq_ok, Prod.mk.injEq] at h
  obtain ⟨job, hjob, _, hstatus, rfl, rfl, rfl⟩ := h
  refine ⟨job, hjob, ?_, rfl, rfl, rfl⟩
  tauto

end DeployGuard.Jobs
