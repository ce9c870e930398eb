import DeployGuard.Jobs.Credentials
import DeployGuard.Lib.Dict
import DeployGuard.Lib.Session

/-!
# One execution of a job

`run_one_job` on the database of the queue and of the handlers. A handler is any
function: it works on the session that claimed the job, may commit, roll back or
leave writes behind, and returns or raises. What it leaves is what the acknowledgement
finds, and commits.

> `Settled`: the execution returns, the job runs no more, and of a handler that raised
> nothing is committed beside the failure record.

Neither half holds of every handler: the result is checked after the last `except`, and
nothing is rolled back before the failure is recorded. `Leaves` is what a handler has to
see to itself (`runOneJob_settles_iff`); a worker all of whose handlers do does not die of
a job (`loop_returns`). Between the claim and the acknowledgement nobody but the handler
writes to the database.
-/

namespace DeployGuard.Jobs

open Raise

variable {σ : Type}

/-- The jobs, and every other table. -/
structure QueueDatabase (σ : Type) where
  jobs : JobTable
  rest : σ

/-! ## Handlers -/

structure JobContext where
  jobId : String
  jobType : String
  workspaceId : Option String
  requestId : Option String
  attempt : Int

def jobContext (job : BackgroundJob) : JobContext where
  jobId := job.id
  jobType := job.jobType
  workspaceId := job.workspaceId
  requestId := job.requestId
  attempt := job.attempts

/-- What a handler returns: `None` or a mapping. -/
inductive HandlerOutput where
  | none
  | dict (items : List (String × Value))
  /-- a mapping that `json.dumps` refuses as a whole: it is no `dict` -/
  | mapping (items : List (String × Value))

inductive HandlerOutcome where
  | returned (output : HandlerOutput)
  /-- a `PermanentJobError` or another `Exception`, and its `str`; `none` if that raises -/
  | raised (permanent : Bool) (text : Option String)

/-- What can be done with a session. -/
inductive SessionHealth where
  | usable
  /-- a constraint refuses one of the writes when they are committed -/
  | refused
  /-- a flush failed, and nothing but a rollback is possible -/
  | inactive
  /-- the object of the job was expired and is in no session any more -/
  | detached
  deriving DecidableEq

/-- How a handler ended, and the session as it left it: a write is seen in the
session's view from where it is made, a deletion too. -/
structure HandlerEnd (σ : Type) where
  outcome : HandlerOutcome
  session : Session.State (QueueDatabase σ)
  health : SessionHealth

abbrev Handler (σ : Type) : Type :=
  List (String × Value) → JobContext → Session.State (QueueDatabase σ) → HandlerEnd σ

/-- An entry of `handlers`. -/
inductive Registration (σ : Type) where
  | callable (handler : Handler σ)
  | notCallable

/-! ## The execution -/

/-- What leaves `run_one_job`. -/
inductive RunError where
  | queue (error : QueueError)
  | pendingRollback
  | detachedInstance
  /-- raised by `str(exc)` -/
  | textError
  deriving DecidableEq

/-- `job.id` of an object that the handler may have expired. -/
def readId : SessionHealth → Except RunError Unit
  | .usable | .refused => .ok ()
  | .inactive => .error .pendingRollback
  | .detached => .error .detachedInstance

/-- `complete_job` with what a handler returned. -/
def completeOutput (jobId : String) (output : HandlerOutput) (now : Time) (t : JobTable) :
    Except QueueError (BackgroundJob × Session × JobTable) :=
  match output with
  | .none => completeJob Session.fresh t jobId none now
  | .dict items => completeJob Session.fresh t jobId (some items) now
  | .mapping items => do
    let job ← jobOrRaise Session.fresh t jobId
    raiseIf (job.status ≠ .running) (.jobStateError s!"job {jobId} is not running")
    validateItems "result" items
    .error (.valueError "result must contain JSON-compatible values")

/-- A queue operation on the session's view, and its commit. -/
def acknowledge (health : SessionHealth) (s : Session.State (QueueDatabase σ))
    (operation : JobTable → Except QueueError (BackgroundJob × Session × JobTable)) :
    Except RunError BackgroundJob × Session.State (QueueDatabase σ) :=
  match operation s.cur.jobs with
  | .error e => (.error (.queue e), s)
  | .ok (job, _, jobs) =>
    if health = .refused then (.error (.queue .integrityError), s.rolledBack)
    else (.ok job, (s.written fun store => { store with jobs := jobs }).committed)

/-- The branches behind the call of a handler. -/
def settleEnd (e : HandlerEnd σ) (jobId : String) (now : Time) :
    Except RunError BackgroundJob × Session.State (QueueDatabase σ) :=
  match readId e.health with
  | .error error => (.error error, e.session)
  | .ok () =>
    match e.outcome with
    | .returned output => acknowledge e.health e.session (completeOutput jobId output now)
    | .raised _ none => (.error .textError, e.session)
    | .raised permanent (some text) =>
      acknowledge e.health e.session fun t =>
        failJob Session.fresh t jobId { error := text, retryable := !permanent } now

/-- The handler that runs, with what it ends in. -/
def handlerEnd (handlers : Dict String (Registration σ)) (job : BackgroundJob)
    (s : Session.State (QueueDatabase σ)) : Option (HandlerEnd σ) :=
  match Dict.get? handlers job.jobType with
  | some (.callable handler) => some (handler job.payload (jobContext job) s)
  | _ => none

/-- What `run_one_job` does with a claimed job. -/
def settle (handlers : Dict String (Registration σ)) (job : BackgroundJob)
    (s : Session.State (QueueDatabase σ)) (now : Time) :
    Except RunError BackgroundJob × Session.State (QueueDatabase σ) :=
  match handlerEnd handlers job s with
  | some e => settleEnd e job.id now
  | none =>
    acknowledge .usable s fun t =>
      failJob Session.fresh t job.id
        { error := s!"no handler registered for job type {job.jobType}", retryable := false } now

/-- The session after the claim was committed. -/
def afterClaim (start : Session.State (QueueDatabase σ)) (jobs : JobTable) :
    Session.State (QueueDatabase σ) :=
  (start.written fun store => { store with jobs := jobs }).committed

/-- `run_one_job`. -/
def runOneJob (start : Session.State (QueueDatabase σ)) (page : List BackgroundJob)
    (workerId : String) (handlers : Dict String (Registration σ)) (claimTime settleTime : Time) :
    Except RunError (Option BackgroundJob) × Session.State (QueueDatabase σ) :=
  match claimNextJob Session.fresh start.cur.jobs page workerId claimTime with
  | .error e => (.error (.queue e), start)
  | .ok (none, _, _) => (.ok none, start)
  | .ok (some job, _, jobs) =>
    let (result, s) := settle handlers job (afterClaim start jobs) settleTime
    (result.map some, s)

/-! ## What is asked of an execution, and of a handler -/

/-- After is as before, with a failure recorded on the job's row. -/
def OnlyFailure (a : FailArgs) (now : Time) (jobId : String)
    (before after : QueueDatabase σ) : Prop :=
  after.rest = before.rest ∧ ∀ k, after.jobs.get? k =
    if k = jobId then (before.jobs.get? k).map (fail now a) else before.jobs.get? k

/-- An execution that claimed a job settles it. -/
structure Settled (jobId : String) (now : Time) (ended : Option (HandlerEnd σ))
    (result : Except RunError (Option BackgroundJob) × Session.State (QueueDatabase σ)) :
    Prop where
  returned : ∃ job, result.1 = .ok (some job) ∧ job.id = jobId
  stopped : ∀ row, result.2.base.jobs.get? jobId = some row → row.status ≠ .running
  /-- no write of a handler that raised is committed -/
  undone : ∀ e ∈ ended, ∀ permanent text, e.outcome = .raised permanent (some text) →
    OnlyFailure { error := text, retryable := !permanent } now jobId e.session.base result.2.base

/-- A result that the queue stores. -/
def HandlerOutput.Admissible : HandlerOutput → Prop
  | .none => True
  | .dict items => Unremarkable (.dict items) ∧ dumps (.dict items) = true
  | .mapping _ => False

/-- What a failure record leaves of a job; the columns it assigns are blanked. -/
def unassigned (a : FailArgs) (job : BackgroundJob) : BackgroundJob :=
  let retried := a.retryable ∧ job.attempts < job.maxAttempts
  { job with
    status := .running
    lockedAt := none
    lockedBy := none
    lastError := none
    updatedAt := 0
    availableAt := if retried then 0 else job.availableAt
    completedAt := if retried then job.completedAt else none }

/-- All that a session has not committed are columns of the job's row that a failure
record assigns. -/
def NothingLeft (a : FailArgs) (s : Session.State (QueueDatabase σ)) (jobId : String) : Prop :=
  s.cur.rest = s.base.rest ∧ (∀ k, k ≠ jobId → s.cur.jobs.get? k = s.base.jobs.get? k) ∧
    (s.cur.jobs.get? jobId).map (unassigned a) = (s.base.jobs.get? jobId).map (unassigned a)

/-- What a handler has to leave behind. -/
structure Leaves (e : HandlerEnd σ) (jobId : String) : Prop where
  usable : e.health = .usable
  running : ∃ row, e.session.cur.jobs.get? jobId = some row ∧ row.status = .running
  result : ∀ output, e.outcome = .returned output → output.Admissible
  failure : ∀ permanent text, e.outcome = .raised permanent text → ∃ message,
    text = some message ∧
      NothingLeft { error := message, retryable := !permanent } e.session jobId

/-! ## The acknowledgements -/

/-- Two jobs are the same after a failure iff they agree in what it leaves of them. -/
theorem fail_eq_fail {now : Time} {a : FailArgs} {job job' : BackgroundJob} :
    fail now a job = fail now a job' ↔ unassigned a job = unassigned a job' := by
  have hcolumns : ∀ f : BackgroundJob → BackgroundJob,
      (∀ j, (f j).attempts = j.attempts ∧ (f j).maxAttempts = j.maxAttempts) → f job = f job' →
      ((a.retryable = true ∧ job.attempts < job.maxAttempts) ↔
        (a.retryable = true ∧ job'.attempts < job'.maxAttempts)) := by
    intro f hf h
    rw [← (hf job).1, ← (hf job).2, h, (hf job').1, (hf job').2]
  have hfail : ∀ j, (fail now a j).attempts = j.attempts ∧ (fail now a j).maxAttempts = j.maxAttempts := by
    intro j
    unfold fail
    dsimp only
    split
    · exact ⟨rfl, rfl⟩
    · split
      · exact ⟨rfl, rfl⟩
      · exact ⟨rfl, rfl⟩
  constructor
  · intro h
    have hsame := hcolumns _ hfail h
    unfold fail at h
    unfold unassigned
    by_cases hretried : a.retryable = true ∧ job.attempts < job.maxAttempts
    · simp only [if_pos hretried, if_pos (hsame.mp hretried), BackgroundJob.mk.injEq] at h ⊢
      simp [h]
    · simp only [if_neg hretried, if_neg (mt hsame.mpr hretried)] at h ⊢
      split at h
      · simp only [BackgroundJob.mk.injEq] at h ⊢
        simp [h]
      · simp only [BackgroundJob.mk.injEq] at h ⊢
        simp [h]
  · intro h
    have hsame := hcolumns (unassigned a) (fun _ => ⟨rfl, rfl⟩) h
    unfold unassigned at h
    unfold fail
    by_cases hretried : a.retryable = true ∧ job.attempts < job.maxAttempts
    · simp only [if_pos hretried, if_pos (hsame.mp hretried), BackgroundJob.mk.injEq] at h ⊢
      simp [h]
    · simp only [if_neg hretried, if_neg (mt hsame.mpr hretried), BackgroundJob.mk.injEq] at h ⊢
      split
      · simp [h]
      · simp [h]

/-- What a queue operation on a running job gives back: the job as the operation leaves
it, stored in its row. -/
def acknowledged (f : BackgroundJob → BackgroundJob) (t : JobTable) (row : BackgroundJob) :
    BackgroundJob × Session × JobTable :=
  (f row, Session.fresh.hold (f row), flushRow t row (f row))

/-- The session shows the job as running. -/
def Running (t : JobTable) (jobId : String) (row : BackgroundJob) : Prop :=
  t.get? jobId = some row ∧ row.status = .running

/-- A session that holds nothing reads the table. -/
theorem jobOrRaise_fresh_eq_ok {t : JobTable} {jobId : String} {job : BackgroundJob} :
    jobOrRaise Session.fresh t jobId = .ok job ↔ t.get? jobId = some job := by
  constructor
  · exact jobOrRaise_fresh
  · intro h
    unfold jobOrRaise Session.fresh
    dsimp only
    rw [h]

/-- A failure is recorded for a running job. -/
theorem failJob_eq_ok {t : JobTable} {jobId text : String} {retryable : Bool} {now : Time}
    {r : BackgroundJob × Session × JobTable} :
    failJob Session.fresh t jobId { error := text, retryable := retryable } now = .ok r ↔
      ∃ row, Running t jobId row ∧
        acknowledged (fail now { error := text, retryable := retryable }) t row = r := by
  unfold failJob
  simp only [bind_eq_ok, raiseIf_eq_ok, jobOrRaise_fresh_eq_ok, pure_eq_ok, not_not]
  constructor
  · intro h
    obtain ⟨-, -, -, -, row, hrow, -, hrunning, hr⟩ := h
    exact ⟨row, ⟨hrow, hrunning⟩, hr⟩
  · intro h
    obtain ⟨row, ⟨hrow, hrunning⟩, hr⟩ := h
    exact ⟨(), by decide, (), by decide, row, hrow, (), hrunning, hr⟩

/-- A result is stored for a running job when it is admissible. -/
theorem completeJob_eq_ok {t : JobTable} {jobId : String}
    {result : Option (List (String × Value))} {now : Time}
    {r : BackgroundJob × Session × JobTable} :
    completeJob Session.fresh t jobId result now = .ok r ↔ validateResult result = .ok () ∧
      ∃ row, Running t jobId row ∧ acknowledged (complete now result) t row = r := by
  unfold completeJob
  simp only [bind_eq_ok, raiseIf_eq_ok, jobOrRaise_fresh_eq_ok, pure_eq_ok, not_not]
  constructor
  · intro h
    obtain ⟨row, hrow, _, hrunning, _, hresult, hr⟩ := h
    exact ⟨hresult, row, ⟨hrow, hrunning⟩, hr⟩
  · intro h
    obtain ⟨hresult, row, ⟨hrow, hrunning⟩, hr⟩ := h
    exact ⟨row, hrow, (), hrunning, (), hresult, hr⟩

/-- What `complete_job` stores of an output. -/
def HandlerOutput.stored : HandlerOutput → Option (List (String × Value))
  | .dict items => some items
  | .none | .mapping _ => .none

theorem completeOutput_eq_ok {t : JobTable} {jobId : String} {output : HandlerOutput} {now : Time}
    {r : BackgroundJob × Session × JobTable} :
    completeOutput jobId output now t = .ok r ↔ output.Admissible ∧
      ∃ row, Running t jobId row ∧ acknowledged (complete now output.stored) t row = r := by
  cases output with
  | none =>
    have hresult : validateResult none = .ok () ↔ HandlerOutput.none.Admissible :=
      iff_of_true rfl trivial
    exact completeJob_eq_ok.trans (and_congr_left fun _ => hresult)
  | dict items =>
    exact completeJob_eq_ok.trans (and_congr_left fun _ => validatePayload_eq_ok "result" _)
  | mapping items =>
    refine iff_of_false (fun h => ?_) fun h => h.1
    obtain ⟨row, -, h⟩ := bind_eq_ok.mp h
    obtain ⟨-, -, h⟩ := bind_eq_ok.mp h
    obtain ⟨-, -, h⟩ := bind_eq_ok.mp h
    cases h

section Acknowledge

variable {health : SessionHealth} {s s' : Session.State (QueueDatabase σ)}
  {operation : JobTable → Except QueueError (BackgroundJob × Session × JobTable)}
  {job : BackgroundJob} {jobId : String} {f : BackgroundJob → BackgroundJob}

/-- An acknowledgement returned: its operation did, and its commit was accepted. -/
theorem acknowledge_eq_ok : acknowledge health s operation = (.ok job, s') ↔
    health ≠ .refused ∧ ∃ held jobs, operation s.cur.jobs = .ok (job, held, jobs) ∧
      (s.written fun store => { store with jobs := jobs }).committed = s' := by
  unfold acknowledge
  cases hoperation : operation s.cur.jobs with
  | error e =>
    refine iff_of_false (fun h => by cases h) fun h => ?_
    obtain ⟨-, held, jobs, h, -⟩ := h
    cases h
  | ok r =>
    obtain ⟨done, held, jobs⟩ := r
    dsimp only
    by_cases hrefused : health = .refused
    · rw [if_pos hrefused]
      exact iff_of_false (fun h => by cases h) fun h => h.1 hrefused
    · rw [if_neg hrefused]
      constructor
      · intro h
        obtain ⟨hdone, hs⟩ := Prod.mk.inj h
        obtain rfl := Except.ok.inj hdone
        exact ⟨hrefused, held, jobs, rfl, hs⟩
      · intro h
        obtain ⟨-, held', jobs', h, rfl⟩ := h
        obtain ⟨rfl, hjobs⟩ := Prod.mk.inj (Except.ok.inj h)
        obtain ⟨-, rfl⟩ := Prod.mk.inj hjobs
        rfl

/-- The session after the job was changed in its view, and committed. -/
def settledSession (f : BackgroundJob → BackgroundJob) (s : Session.State (QueueDatabase σ))
    (row : BackgroundJob) : Session.State (QueueDatabase σ) :=
  (s.written fun store => { store with jobs := flushRow s.cur.jobs row (f row) }).committed

/-- An operation that acknowledges a running job if `admissible`, and else raises. -/
theorem acknowledge_of_spec {admissible : Prop}
    (hoperation : ∀ t r, operation t = .ok r ↔ admissible ∧
      ∃ row, Running t jobId row ∧ acknowledged f t row = r) :
    acknowledge health s operation = (.ok job, s') ↔ health ≠ .refused ∧ admissible ∧
      ∃ row, Running s.cur.jobs jobId row ∧ f row = job ∧ settledSession f s row = s' := by
  rw [acknowledge_eq_ok]
  constructor
  · intro h
    obtain ⟨hhealth, held, jobs, hok, hs⟩ := h
    obtain ⟨hadmissible, row, hrunning, hr⟩ := (hoperation _ _).mp hok
    obtain ⟨hjob, hr⟩ := Prod.mk.inj hr
    obtain ⟨-, rfl⟩ := Prod.mk.inj hr
    exact ⟨hhealth, hadmissible, row, hrunning, hjob, hs⟩
  · intro h
    obtain ⟨hhealth, hadmissible, row, hrunning, rfl, hs⟩ := h
    exact ⟨hhealth, _, _, (hoperation _ _).mpr ⟨hadmissible, row, hrunning, rfl⟩, hs⟩

variable {row : BackgroundJob}

/-- The row of the job is changed, and nothing else. -/
theorem get?_settledSession (h : Running s.cur.jobs jobId row) (hid : (f row).id = row.id)
    (k : String) : (settledSession f s row).base.jobs.get? k =
      if k = jobId then some (f row) else s.cur.jobs.get? k :=
  get?_flushRow_fresh h.1 hid k

end Acknowledge

/-- A failed job keeps its id and runs no more. -/
theorem fail_kept (now : Time) (a : FailArgs) (job : BackgroundJob) :
    (fail now a job).id = job.id ∧ (fail now a job).status ≠ .running := by
  unfold fail
  dsimp only
  split
  · exact ⟨rfl, by simp⟩
  · split
    · exact ⟨rfl, by simp⟩
    · exact ⟨rfl, by simp⟩

/-- A failure record is all that is committed iff nothing else was left to commit. -/
theorem onlyFailure_iff {s : Session.State (QueueDatabase σ)} {jobId : String} {row : BackgroundJob}
    (h : Running s.cur.jobs jobId row) (a : FailArgs) (now : Time) :
    OnlyFailure a now jobId s.base (settledSession (fail now a) s row).base ↔
      NothingLeft a s jobId := by
  have hget := get?_settledSession h (fail_kept now a row).1
  have hjob : some (fail now a row) = (s.base.jobs.get? jobId).map (fail now a) ↔
      (s.cur.jobs.get? jobId).map (unassigned a) =
        (s.base.jobs.get? jobId).map (unassigned a) := by
    rw [h.1, Option.map_some]
    cases s.base.jobs.get? jobId with
    | none => simp
    | some row' =>
      rw [Option.map_some, Option.map_some, Option.some.injEq, Option.some.injEq, fail_eq_fail]
  refine and_congr_right fun _ => ?_
  constructor
  · intro hafter
    refine ⟨fun k hk => ?_, hjob.mp ?_⟩
    · have hk' := hafter k
      rwa [hget, if_neg hk, if_neg hk] at hk'
    · have hk' := hafter jobId
      rwa [hget, if_pos rfl, if_pos rfl] at hk'
  · intro hleft k
    obtain ⟨hothers, hrow⟩ := hleft
    rw [hget]
    by_cases hk : k = jobId
    · subst hk
      rw [if_pos rfl, if_pos rfl]
      exact hjob.mpr hrow
    · rw [if_neg hk, if_neg hk]
      exact hothers k hk

/-! ## When a job is settled -/

/-- The acknowledged job is the one that was claimed, and it runs no more. -/
theorem settled_of_row {s : Session.State (QueueDatabase σ)} {jobId : String} {row : BackgroundJob}
    {f : BackgroundJob → BackgroundJob} (h : Running s.cur.jobs jobId row)
    (hid : (f row).id = row.id) (hstatus : (f row).status ≠ .running) :
    (f row).id = jobId ∧
      ∀ row', (settledSession f s row).base.jobs.get? jobId = some row' → row'.status ≠ .running := by
  refine ⟨hid.trans (Table.key_of_get? h.1), fun row' hrow' => ?_⟩
  rw [get?_settledSession h hid, if_pos rfl] at hrow'
  obtain rfl := Option.some.inj hrow'
  exact hstatus

/-- An execution without a handler settles the job. -/
theorem settled_without_handler {s : Session.State (QueueDatabase σ)} {jobId text : String}
    {row : BackgroundJob} (h : Running s.cur.jobs jobId row) (now : Time) :
    let result := acknowledge .usable s fun t =>
      failJob Session.fresh t jobId { error := text, retryable := false } now
    Settled jobId now (none : Option (HandlerEnd σ)) (result.1.map some, result.2) := by
  intro result
  obtain ⟨hid, hstatus⟩ := fail_kept now { error := text, retryable := false } row
  have hresult : result = (.ok (fail now { error := text, retryable := false } row),
      settledSession (fail now { error := text, retryable := false }) s row) :=
    (acknowledge_of_spec fun t r => failJob_eq_ok.trans (iff_of_eq (true_and _)).symm).mpr
      ⟨by decide, trivial, row, h, rfl, rfl⟩
  obtain ⟨hsame, hstopped⟩ := settled_of_row h hid hstatus
  rw [hresult]
  exact ⟨⟨_, rfl, hsame⟩, hstopped, fun e he => by cases he⟩

section HandlerEnd

variable {e : HandlerEnd σ} {jobId : String} {now : Time} {job : BackgroundJob}
  {s' : Session.State (QueueDatabase σ)}

/-- Whatever is acknowledged, the handler has to leave the session usable for it. -/
theorem readId_acknowledge {admissible : Prop} {f : BackgroundJob → BackgroundJob}
    {operation : JobTable → Except QueueError (BackgroundJob × Session × JobTable)}
    (hoperation : ∀ t r, operation t = .ok r ↔ admissible ∧
      ∃ row, Running t jobId row ∧ acknowledged f t row = r) :
    (match readId e.health with
      | .error error => (.error error, e.session)
      | .ok () => acknowledge e.health e.session operation) = (.ok job, s') ↔
      e.health = .usable ∧ admissible ∧ ∃ row, Running e.session.cur.jobs jobId row ∧
        f row = job ∧ settledSession f e.session row = s' := by
  cases hhealth : e.health with
  | usable =>
    have h : acknowledge .usable e.session operation = (.ok job, s') ↔ _ :=
      acknowledge_of_spec hoperation
    exact h.trans (and_congr_left fun _ => iff_of_true (by decide) rfl)
  | refused =>
    refine iff_of_false (fun h => ?_) fun h => by cases h.1
    exact ((acknowledge_of_spec hoperation).mp h).1 rfl
  | inactive => exact iff_of_false (fun h => by cases h) fun h => by cases h.1
  | detached => exact iff_of_false (fun h => by cases h) fun h => by cases h.1

/-- A handler that returned settles its job with what it returned. -/
theorem settleEnd_returned {output : HandlerOutput} (h : e.outcome = .returned output) :
    settleEnd e jobId now = (.ok job, s') ↔ e.health = .usable ∧ output.Admissible ∧
      ∃ row, Running e.session.cur.jobs jobId row ∧ complete now output.stored row = job ∧
        settledSession (complete now output.stored) e.session row = s' := by
  unfold settleEnd
  rw [h]
  exact readId_acknowledge fun t r => completeOutput_eq_ok

/-- A handler that raised settles its job with the error's text. -/
theorem settleEnd_raised {permanent : Bool} {text : String}
    (h : e.outcome = .raised permanent (some text)) :
    settleEnd e jobId now = (.ok job, s') ↔ e.health = .usable ∧ True ∧
      ∃ row, Running e.session.cur.jobs jobId row ∧
        fail now { error := text, retryable := !permanent } row = job ∧
        settledSession (fail now { error := text, retryable := !permanent }) e.session row = s' := by
  unfold settleEnd
  rw [h]
  exact readId_acknowledge fun t r => failJob_eq_ok.trans (iff_of_eq (true_and _)).symm

/-- An error without a text settles nothing. -/
theorem settleEnd_textless {permanent : Bool} (h : e.outcome = .raised permanent none) :
    settleEnd e jobId now ≠ (.ok job, s') := by
  unfold settleEnd
  rw [h]
  cases e.health with
  | usable | refused | inactive | detached => exact fun h => by cases h

/-- A job that was settled was acknowledged. -/
theorem ok_of_settled (h : Settled jobId now (some e)
    ((settleEnd e jobId now).1.map some, (settleEnd e jobId now).2)) :
    ∃ job, settleEnd e jobId now = (.ok job, (settleEnd e jobId now).2) := by
  obtain ⟨job, hjob, -⟩ := h.returned
  refine ⟨job, Prod.ext ?_ rfl⟩
  cases hresult : (settleEnd e jobId now).1 with
  | error error =>
    rw [hresult] at hjob
    cases hjob
  | ok job' =>
    rw [hresult] at hjob
    obtain rfl := Option.some.inj (Except.ok.inj hjob)
    rfl

/-- After a handler that returned, the result decides. -/
theorem settled_returned {output : HandlerOutput} (houtcome : e.outcome = .returned output) :
    Settled jobId now (some e)
      ((settleEnd e jobId now).1.map some, (settleEnd e jobId now).2) ↔ Leaves e jobId := by
  constructor
  · intro h
    obtain ⟨job, hjob⟩ := ok_of_settled h
    obtain ⟨husable, hadmissible, row, hrow, -⟩ := (settleEnd_returned houtcome).mp hjob
    refine ⟨husable, ⟨row, hrow⟩, fun output' h' => ?_, fun permanent text h' => ?_⟩
    · obtain rfl := HandlerOutcome.returned.inj (houtcome.symm.trans h')
      exact hadmissible
    · cases houtcome.symm.trans h'
  · intro h
    obtain ⟨row, hrow⟩ := h.running
    obtain ⟨hsame, hstopped⟩ := settled_of_row (f := complete now output.stored) hrow rfl
      (by simp [complete])
    rw [(settleEnd_returned houtcome).mpr
      ⟨h.usable, h.result output houtcome, row, hrow, rfl, rfl⟩]
    refine ⟨⟨_, rfl, hsame⟩, hstopped, fun e' he' permanent text h' => ?_⟩
    obtain rfl := Option.some.inj he'
    cases houtcome.symm.trans h'

/-- After a handler that raised, what it did not commit decides. -/
theorem settled_raised {permanent : Bool} {text : String}
    (houtcome : e.outcome = .raised permanent (some text)) :
    Settled jobId now (some e)
      ((settleEnd e jobId now).1.map some, (settleEnd e jobId now).2) ↔ Leaves e jobId := by
  constructor
  · intro h
    obtain ⟨job, hjob⟩ := ok_of_settled h
    obtain ⟨husable, -, row, hrow, -, hs⟩ := (settleEnd_raised houtcome).mp hjob
    refine ⟨husable, ⟨row, hrow⟩, fun output h' => ?_, fun permanent' text' h' => ?_⟩
    · cases houtcome.symm.trans h'
    · obtain ⟨rfl, rfl⟩ := HandlerOutcome.raised.inj (houtcome.symm.trans h')
      have hundone := h.undone e rfl permanent text houtcome
      rw [← hs] at hundone
      exact ⟨text, rfl, (onlyFailure_iff hrow _ now).mp hundone⟩
  · intro h
    obtain ⟨row, hrow⟩ := h.running
    obtain ⟨message, hmessage, hleft⟩ := h.failure permanent (some text) houtcome
    obtain rfl := Option.some.inj hmessage
    obtain ⟨hid, hstatus⟩ := fail_kept now { error := text, retryable := !permanent } row
    obtain ⟨hsame, hstopped⟩ := settled_of_row hrow hid hstatus
    rw [(settleEnd_raised houtcome).mpr ⟨h.usable, trivial, row, hrow, rfl, rfl⟩]
    refine ⟨⟨_, rfl, hsame⟩, hstopped, fun e' he' permanent' text' h' => ?_⟩
    obtain rfl := Option.some.inj he'
    obtain ⟨rfl, htext⟩ := HandlerOutcome.raised.inj (houtcome.symm.trans h')
    obtain rfl := Option.some.inj htext
    exact (onlyFailure_iff hrow _ now).mpr hleft

/-- A job is settled after its handler iff the handler left what the queue needs. -/
theorem settled_iff_leaves : Settled jobId now (some e)
      ((settleEnd e jobId now).1.map some, (settleEnd e jobId now).2) ↔ Leaves e jobId := by
  cases houtcome : e.outcome with
  | returned output => exact settled_returned houtcome
  | raised permanent text =>
    cases text with
    | none =>
      refine iff_of_false (fun h => ?_) fun h => ?_
      · obtain ⟨job, hjob⟩ := ok_of_settled h
        exact settleEnd_textless houtcome hjob
      · obtain ⟨message, hnone, -⟩ := h.failure permanent none houtcome
        cases hnone
    | some text => exact settled_raised houtcome

end HandlerEnd

/-- A job that the session shows as running is settled iff its handler, if it has one, leaves
what the queue needs. -/
theorem settle_iff {handlers : Dict String (Registration σ)} {job : BackgroundJob}
    {s : Session.State (QueueDatabase σ)} (hrow : Running s.cur.jobs job.id job) (now : Time) :
    Settled job.id now (handlerEnd handlers job s)
        ((settle handlers job s now).1.map some, (settle handlers job s now).2) ↔
      ∀ e ∈ handlerEnd handlers job s, Leaves e job.id := by
  unfold settle
  cases handlerEnd handlers job s with
  | none => exact iff_of_true (settled_without_handler hrow now) fun e he => by cases he
  | some e =>
    refine settled_iff_leaves.trans ⟨fun h e' he' => ?_, fun h => h e rfl⟩
    obtain rfl := Option.some.inj he'
    exact h

section Claimed

variable {start : Session.State (QueueDatabase σ)} {page : List BackgroundJob} {workerId : String}
  {handlers : Dict String (Registration σ)} {claimTime settleTime : Time} {job : BackgroundJob}
  {held : Session} {jobs : JobTable}

/-- The claimed job runs. -/
theorem running_afterClaim (hclaim : claimNextJob Session.fresh start.cur.jobs page workerId
    claimTime = .ok (some job, held, jobs)) :
    Running (afterClaim start jobs).cur.jobs job.id job := by
  obtain ⟨hnone, -⟩ | ⟨worker, row, -, -, -, hjob, -, hget⟩ := claimNextJob_ok hclaim
  · cases hnone
  · obtain rfl := Option.some.inj hjob
    exact ⟨(hget _).trans (if_pos rfl), rfl⟩

/-- A worker that got a job settles it. -/
theorem runOneJob_claimed (hclaim : claimNextJob Session.fresh start.cur.jobs page workerId
    claimTime = .ok (some job, held, jobs)) :
    runOneJob start page workerId handlers claimTime settleTime =
      ((settle handlers job (afterClaim start jobs) settleTime).1.map some,
        (settle handlers job (afterClaim start jobs) settleTime).2) := by
  unfold runOneJob
  rw [hclaim]

/-- A worker that got none does nothing. -/
theorem runOneJob_idle (hclaim : claimNextJob Session.fresh start.cur.jobs page workerId
    claimTime = .ok (none, held, jobs)) :
    runOneJob start page workerId handlers claimTime settleTime = (.ok none, start) := by
  unfold runOneJob
  rw [hclaim]

end Claimed

/-! ## The worker -/

/-- What one turn of the loop reads: the clock, three times, and the page of ready jobs. -/
structure Poll where
  requeueTime : Time
  page : List BackgroundJob
  claimTime : Time
  settleTime : Time

/-- The arguments of `run_worker`, beside the checks of its intervals. -/
structure WorkerArgs (σ : Type) where
  workerId : String
  handlers : Dict String (Registration σ)
  leaseTimeout : Time
  maxJobs : Option Nat
  exitWhenIdle : Bool

/-- One turn of the loop, in a session of its own. -/
def WorkerArgs.turn (w : WorkerArgs σ) (poll : Poll) (store : QueueDatabase σ) :
    Except RunError (Option BackgroundJob) × Session.State (QueueDatabase σ) :=
  let jobs := (requeueExpiredJobs w.leaseTimeout poll.requeueTime store.jobs).2
  runOneJob (afterClaim (.start store) jobs) poll.page w.workerId w.handlers poll.claimTime
    poll.settleTime

/-- The loop of `run_worker` until the event is set, which is after the last poll: the jobs
processed, and the database. What a turn raises ends it. -/
def WorkerArgs.loop (w : WorkerArgs σ) (processed : Nat) :
    List Poll → QueueDatabase σ → Except RunError Nat × QueueDatabase σ
  | [], store => (.ok processed, store)
  | poll :: polls, store =>
    match w.turn poll store with
    | (.error e, s) => (.error e, s.base)
    | (.ok job, s) =>
      let processed := if job.isSome then processed + 1 else processed
      if w.maxJobs.any (· ≤ processed) then (.ok processed, s.base)
      else if job.isNone && w.exitWhenIdle then (.ok processed, s.base)
      else w.loop processed polls s.base

/-- A handler that leaves what the queue needs whenever its job is running. -/
def Careful (handler : Handler σ) : Prop :=
  ∀ payload context s row, Running s.cur.jobs context.jobId row →
    Leaves (handler payload context s) context.jobId

/-- Under a worker's name of admissible length a claim does not raise. -/
theorem claimNextJob_returns {workerId worker : String}
    (s : Session) (t : JobTable) (page : List BackgroundJob)
    (hworker : normalizeWorker workerId = .ok worker) (now : Time) :
    ∃ r, claimNextJob s t page workerId now = .ok r := by
  unfold claimNextJob
  rw [hworker, bind_ok]
  split
  · exact ⟨_, rfl⟩
  · split
    · exact ⟨_, rfl⟩
    · exact ⟨_, rfl⟩

/-- A turn returns, and a job it claimed is no longer running. -/
theorem turn_returns {w : WorkerArgs σ} {worker : String}
    (hworker : normalizeWorker w.workerId = .ok worker)
    (hcareful : ∀ name handler, Dict.get? w.handlers name = some (.callable handler) →
      Careful handler) (poll : Poll) (store : QueueDatabase σ) :
    ∃ job, (w.turn poll store).1 = .ok job ∧ ∀ claimed ∈ job, ∀ row,
      (w.turn poll store).2.base.jobs.get? claimed.id = some row → row.status ≠ .running := by
  let start := afterClaim (.start store)
    (requeueExpiredJobs w.leaseTimeout poll.requeueTime store.jobs).2
  obtain ⟨⟨job, held, jobs⟩, hclaim⟩ := claimNextJob_returns Session.fresh start.cur.jobs
    poll.page hworker poll.claimTime
  cases job with
  | none =>
    have hturn : w.turn poll store = (.ok none, start) := runOneJob_idle hclaim
    rw [hturn]
    exact ⟨none, rfl, fun claimed hmem => by cases hmem⟩
  | some job =>
    have hleaves : ∀ e ∈ handlerEnd w.handlers job (afterClaim start jobs), Leaves e job.id := by
      intro e he
      unfold handlerEnd at he
      split at he
      · next handler hhandler =>
        obtain rfl := Option.some.inj he
        exact hcareful job.jobType handler hhandler _ (jobContext job) _ job
          (running_afterClaim hclaim)
      · cases he
    have hsettled := (settle_iff (running_afterClaim hclaim) poll.settleTime).mpr hleaves
    rw [← runOneJob_claimed hclaim] at hsettled
    obtain ⟨done, hdone, hid⟩ := hsettled.returned
    refine ⟨some done, hdone, fun claimed hmem row hrow => ?_⟩
    obtain rfl := Option.some.inj hmem
    exact hsettled.stopped row (hid ▸ hrow)

/-- With careful handlers the worker never dies of a job: its loop returns, whatever it polls. -/
theorem loop_returns {w : WorkerArgs σ} {worker : String}
    (hworker : normalizeWorker w.workerId = .ok worker)
    (hcareful : ∀ name handler, Dict.get? w.handlers name = some (.callable handler) →
      Careful handler) (polls : List Poll) (processed : Nat) (store : QueueDatabase σ) :
    ∃ n, (w.loop processed polls store).1 = .ok n := by
  induction polls generalizing processed store with
  | nil => exact ⟨processed, rfl⟩
  | cons poll polls ih =>
    obtain ⟨job, hjob, -⟩ := turn_returns hworker hcareful poll store
    obtain ⟨s, hturn⟩ : ∃ s, w.turn poll store = (.ok job, s) := ⟨_, Prod.ext hjob rfl⟩
    rw [WorkerArgs.loop, hturn]
    dsimp only
    generalize (if job.isSome = true then processed + 1 else processed) = processed'
    split
    · exact ⟨_, rfl⟩
    · split
      · exact ⟨_, rfl⟩
      · exact ih _ _

/-! ## Three handlers -/

end DeployGuard.Jobs
