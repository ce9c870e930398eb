import DeployGuard.Jobs.Queue
import DeployGuard.Lib.Transition
import Mathlib.Logic.Function.Basic
import Mathlib.Tactic.Linarith

/-!
# Lease exclusivity, statement by statement

The worker loop as the database sees it: `requeue_expired_jobs` is a `SELECT` of
expired rows and, some time later, the `UPDATE` its commit emits for the objects
it loaded; `claim_next_job` is a `SELECT` of candidates and one guarded `UPDATE`
per candidate. A worker's `Stage` is where it stands between two statements, and
the statements of different workers interleave in any order.

The claim's `UPDATE` repeats the candidate query's condition, so it never touches
a running row. The requeue's `UPDATE` has no condition beyond the primary key: it
takes away whatever lease the row carries by then. `staleRequeueRun` shows a job
requeued by one worker, claimed by it, and taken away by a second worker that had
selected the job before the first requeue (`stale_requeue_steals`).

Leases are exclusive in every run whose requeue commits find the lock they
selected (`LockUnchanged`): the invariant `LoadedExpired` keeps what the `SELECT`
knew, that the lock of a loaded row had outlived the timeout, up to the commit.
-/

namespace DeployGuard.Jobs

open Transition Raise

variable {W : Type} [DecidableEq W]

/-- Where a worker stands in the loop of `run_worker`. -/
inductive Stage where
  | idle
  | requeueSelect (timestamp : Time)
  | requeueCommit (timestamp : Time) (jobs : List BackgroundJob)
  | requeued
  | claimSelect (timestamp : Time) (worker : String)
  | claimUpdate (timestamp : Time) (worker : String) (candidates : List String)
  | reload (jobId : String)
  | handler (job : BackgroundJob)
  | stopped

/-- The clock, the table, and the stage of every worker. -/
structure Cluster (W : Type) where
  now : Time
  jobs : JobTable
  stage : W → Stage

def Cluster.goto (c : Cluster W) (w : W) (stage : Stage) : Cluster W :=
  { c with stage := Function.update c.stage w stage }

/-- A statement of one worker, or time passing. -/
inductive Statement (W : Type) where
  | tick (elapsed : Nat)
  | requeueClock (w : W)
  | requeueSelect (w : W)
  | requeueCommit (w : W)
  | claimClock (w : W)
  | claimSelect (w : W) (page : List BackgroundJob)
  | claimUpdate (w : W)
  | reload (w : W)
  | complete (w : W) (result : Option (List (String × Value)))
  | fail (w : W) (args : FailArgs)
  | restart (w : W)

/-- The worker whose `requeue_expired_jobs` or `claim_next_job` a statement is part of. -/
def Statement.queueStep : Statement W → Option W
  | .requeueClock w | .requeueSelect w | .requeueCommit w => some w
  | .claimClock w | .claimSelect w _ | .claimUpdate w | .reload w => some w
  | _ => none

/-- One statement. `workerId` is the identifier each worker was started with, and
the lease timeout is the fleet's. A worker may die at any moment and start over. -/
def clusterNext (workerId : W → String) (leaseTimeout : Time) (c : Cluster W) :
    Statement W → Option (Cluster W)
  | .tick elapsed => some { c with now := c.now + elapsed }
  | .requeueClock w =>
    match c.stage w with
    | .idle => some (c.goto w (.requeueSelect c.now))
    | _ => none
  | .requeueSelect w =>
    match c.stage w with
    | .requeueSelect timestamp =>
      let jobs := c.jobs.select (expired (timestamp - leaseTimeout))
      -- `if jobs: session.commit()`
      some (c.goto w (if jobs = [] then .requeued else .requeueCommit timestamp jobs))
    | _ => none
  | .requeueCommit w =>
    match c.stage w with
    | .requeueCommit timestamp jobs =>
      some { c.goto w .requeued with jobs := commitRequeue timestamp c.jobs jobs }
    | _ => none
  | .claimClock w =>
    match c.stage w with
    | .requeued =>
      match normalizeWorker (workerId w) with
      | .ok worker => some (c.goto w (.claimSelect c.now worker))
      | .error _ => some (c.goto w .stopped)
    | _ => none
  | .claimSelect w page =>
    match c.stage w with
    | .claimSelect timestamp worker =>
      if IsReadyPage timestamp c.jobs page then
        some (c.goto w (.claimUpdate timestamp worker (page.map BackgroundJob.id)))
      else none
    | _ => none
  | .claimUpdate w =>
    match c.stage w with
    | .claimUpdate _ _ [] => some (c.goto w .idle)
    | .claimUpdate timestamp worker (candidate :: rest) =>
      let (t, rowcount) := claimUpdate timestamp worker candidate c.jobs
      if rowcount > 0 then some { c.goto w (.reload candidate) with jobs := t }
      else some (c.goto w (.claimUpdate timestamp worker rest))
    | _ => none
  | .reload w =>
    match c.stage w with
    | .reload jobId =>
      match c.jobs.get? jobId with
      | some job => some (c.goto w (.handler job))
      | none => some (c.goto w .idle)
    | _ => none
  | .complete w result =>
    match c.stage w with
    | .handler job =>
      match completeJob (Session.fresh.hold job) c.jobs job.id result c.now with
      | .ok (_, _, t) => some { c.goto w .idle with jobs := t }
      | .error _ => some (c.goto w .stopped)
    | _ => none
  | .fail w args =>
    match c.stage w with
    | .handler job =>
      match failJob (Session.fresh.hold job) c.jobs job.id args c.now with
      | .ok (_, _, t) => some { c.goto w .idle with jobs := t }
      | .error _ => some (c.goto w .stopped)
    | _ => none
  | .restart w => some (c.goto w .idle)

/-- Any table and any clock value, every worker at the top of its loop. -/
def clusterSystem (workerId : W → String) (leaseTimeout : Time) :
    System (Cluster W) (Statement W) where
  init c := c.stage = fun _ => .idle
  next := clusterNext workerId leaseTimeout

section
variable (workerId : W → String) (leaseTimeout : Time)

/-- A worker holds a lease: the row is running under its name, and was locked
within the timeout of the current time. -/
structure HoldsLease (c : Cluster W) (w : W) (id : String) (row : BackgroundJob) : Prop where
  stored : c.jobs.get? id = some row
  running : row.status = .running
  lockedBy : ∃ worker, normalizeWorker (workerId w) = .ok worker ∧ row.lockedBy = some worker
  lockedAt : ∃ lockedAt, row.lockedAt = some lockedAt ∧ c.now - leaseTimeout ≤ lockedAt

/-- No statement of another worker's requeue or claim changes the status, the
owner or the attempts of a leased row. -/
def Exclusive (c : Cluster W) (op : Statement W) (c' : Cluster W) : Prop :=
  ∀ w id row, HoldsLease workerId leaseTimeout c w id row →
    ∀ w', op.queueStep = some w' → w' ≠ w →
      ∃ row', c'.jobs.get? id = some row' ∧ row'.status = row.status ∧
        row'.lockedBy = row.lockedBy ∧ row'.attempts = row.attempts
end

/-- A requeue commit finds every row it loaded under the lock it selected, or
not running at all. -/
def LockUnchanged (c : Cluster W) : Statement W → Prop
  | .requeueCommit w => ∀ timestamp jobs, c.stage w = .requeueCommit timestamp jobs →
      ∀ job ∈ jobs, ∀ row, c.jobs.get? job.id = some row → row.status = .running →
        row.lockedAt = job.lockedAt
  | _ => True

/-! ## What a pending requeue knows -/

/-- Every requeue under way read a clock that has been passed, and the objects
it loaded are distinct rows whose lock had outlived the timeout by then. -/
structure LoadedExpired (leaseTimeout : Time) (c : Cluster W) : Prop where
  clock : ∀ w timestamp, c.stage w = .requeueSelect timestamp → timestamp ≤ c.now
  loaded : ∀ w timestamp jobs, c.stage w = .requeueCommit timestamp jobs →
    timestamp ≤ c.now ∧ (jobs.map BackgroundJob.id).Nodup ∧
      ∀ job ∈ jobs, expired (timestamp - leaseTimeout) job

omit [DecidableEq W] in
/-- The invariant does not read the table. -/
theorem LoadedExpired.jobs {leaseTimeout : Time} {c : Cluster W} (h : LoadedExpired leaseTimeout c)
    (t : JobTable) : LoadedExpired leaseTimeout { c with jobs := t } := ⟨h.clock, h.loaded⟩

/-- A worker that moves to a stage with nothing loaded keeps the invariant. -/
theorem LoadedExpired.goto {leaseTimeout : Time} {c : Cluster W} (h : LoadedExpired leaseTimeout c)
    (w : W) {stage : Stage}
    (hclock : ∀ timestamp, stage = .requeueSelect timestamp → timestamp ≤ c.now)
    (hloaded : ∀ timestamp jobs, stage = .requeueCommit timestamp jobs →
      timestamp ≤ c.now ∧ (jobs.map BackgroundJob.id).Nodup ∧
        ∀ job ∈ jobs, expired (timestamp - leaseTimeout) job) :
    LoadedExpired leaseTimeout (c.goto w stage) := by
  refine ⟨fun w' timestamp hw' => ?_, fun w' timestamp jobs hw' => ?_⟩
  all_goals
    simp only [Cluster.goto] at hw' ⊢
    by_cases hww : w' = w
    · subst hww
      rw [Function.update_self] at hw'
      first
        | exact hclock _ hw'
        | exact hloaded _ _ hw'
    · rw [Function.update_of_ne hww] at hw'
      first
        | exact h.clock _ _ hw'
        | exact h.loaded _ _ _ hw'

theorem LoadedExpired.next {workerId : W → String} {leaseTimeout : Time} {c c' : Cluster W}
    {op : Statement W} (h : LoadedExpired leaseTimeout c)
    (hn : clusterNext workerId leaseTimeout c op = some c') : LoadedExpired leaseTimeout c' := by
  cases op with
  | tick elapsed =>
    cases hn
    refine ⟨fun w timestamp hw => ?_, fun w timestamp jobs hw => ?_⟩
    · -- the database clock only moves forward
      have := h.clock w timestamp hw
      exact this.trans (le_add_of_nonneg_right (Int.natCast_nonneg elapsed))
    · obtain ⟨hle, hrest⟩ := h.loaded w timestamp jobs hw
      exact ⟨hle.trans (le_add_of_nonneg_right (Int.natCast_nonneg elapsed)), hrest⟩
  | requeueClock w =>
    simp only [clusterNext] at hn
    split at hn
    · cases hn
      refine h.goto w (fun timestamp ht => ?_) (by simp)
      cases ht
      exact le_rfl
    · cases hn
  | requeueSelect w =>
    simp only [clusterNext] at hn
    split at hn
    · next timestamp hstage =>
      cases hn
      refine h.goto w (by split <;> simp) fun timestamp' jobs ht => ?_
      split at ht
      · cases ht
      · cases ht
        -- what the select returns is what its own condition let through
        refine ⟨h.clock w timestamp hstage, ?_, fun job hjob => (Table.mem_select.mp hjob).2⟩
        exact c.jobs.nodup.sublist (List.filter_sublist.map _)
    · cases hn
  | requeueCommit w =>
    simp only [clusterNext] at hn
    split at hn
    · cases hn
      -- the commit changes rows, not what other workers have loaded
      exact (h.goto w (by simp) (by simp)).jobs _
    · cases hn
  | claimClock w =>
    simp only [clusterNext] at hn
    split at hn
    · -- the claim holds a clock of its own, never the loaded rows
      split at hn <;> cases hn <;> exact h.goto w (by simp) (by simp)
    · cases hn
  | claimSelect w page =>
    simp only [clusterNext] at hn
    split at hn
    · split at hn
      · cases hn; exact h.goto w (by simp) (by simp)
      · cases hn
    · cases hn
  | claimUpdate w =>
    simp only [clusterNext] at hn
    split at hn
    · cases hn; exact h.goto w (by simp) (by simp)
    · split at hn
      · cases hn; exact (h.goto w (by simp) (by simp)).jobs _
      · cases hn; exact h.goto w (by simp) (by simp)
    · cases hn
  | reload w =>
    simp only [clusterNext] at hn
    split at hn
    · split at hn <;> cases hn <;> exact h.goto w (by simp) (by simp)
    · cases hn
  | complete w result =>
    simp only [clusterNext] at hn
    split at hn
    · split at hn
      · cases hn; exact (h.goto w (by simp) (by simp)).jobs _
      · cases hn; exact h.goto w (by simp) (by simp)
    · cases hn
  | fail w args =>
    simp only [clusterNext] at hn
    split at hn
    · split at hn
      · cases hn; exact (h.goto w (by simp) (by simp)).jobs _
      · cases hn; exact h.goto w (by simp) (by simp)
    · cases hn
  | restart w => cases hn; exact h.goto w (by simp) (by simp)

theorem clusterSystem_loadedExpired (workerId : W → String) (leaseTimeout : Time)
    (C : Cluster W → Statement W → Prop) :
    Invariant (clusterSystem workerId leaseTimeout) C (LoadedExpired leaseTimeout) where
  init c h0 := by
    have hidle : ∀ w, c.stage w = .idle := fun w => congrFun h0 w
    constructor
    · intro w timestamp hw; rw [hidle w] at hw; cases hw
    · intro w timestamp jobs hw; rw [hidle w] at hw; cases hw
  step _ _ _ h _ hn := h.next hn

/-! ## Exclusive leases -/

/-- The statements of a requeue or a claim either leave the table, or are the
requeue's commit, or the guarded claim of one candidate. -/
theorem clusterNext_queueStep {workerId : W → String} {leaseTimeout : Time} {c c' : Cluster W}
    {op : Statement W} {w : W} (hop : op.queueStep = some w)
    (hn : clusterNext workerId leaseTimeout c op = some c') :
    c'.jobs = c.jobs ∨
    (∃ timestamp jobs, op = .requeueCommit w ∧ c.stage w = .requeueCommit timestamp jobs ∧
      c'.jobs = commitRequeue timestamp c.jobs jobs) ∨
    ∃ timestamp worker id, c'.jobs = (claimUpdate timestamp worker id c.jobs).1 := by
  cases op with
  | requeueClock w' =>
    -- reading the clock and selecting write no row
    simp only [clusterNext] at hn
    split at hn <;> cases hn
    exact Or.inl rfl
  | requeueSelect w' =>
    simp only [clusterNext] at hn
    split at hn <;> cases hn
    exact Or.inl rfl
  | requeueCommit w' =>
    cases hop
    simp only [clusterNext] at hn
    split at hn
    · next timestamp jobs hstage =>
      cases hn
      exact Or.inr (Or.inl ⟨timestamp, jobs, rfl, hstage, rfl⟩)
    · cases hn
  | claimClock w' =>
    simp only [clusterNext] at hn
    split at hn
    · split at hn <;> cases hn <;> exact Or.inl rfl
    · cases hn
  | claimSelect w' page =>
    simp only [clusterNext] at hn
    split at hn
    · split at hn <;> cases hn
      exact Or.inl rfl
    · cases hn
  | claimUpdate w' =>
    simp only [clusterNext] at hn
    split at hn
    · cases hn; exact Or.inl rfl
    · split at hn
      · -- the conditional update is the one write of a claim
        cases hn; exact Or.inr (Or.inr ⟨_, _, _, rfl⟩)
      · cases hn; exact Or.inl rfl
    · cases hn
  | reload w' =>
    simp only [clusterNext] at hn
    split at hn
    · split at hn <;> cases hn <;> exact Or.inl rfl
    · cases hn
  -- the rest are no queue steps
  | tick => cases hop
  | complete => cases hop
  | fail => cases hop
  | restart => cases hop

/-- **Exclusive leases.** In every run whose requeue commits find the lock they
selected, no statement of another worker's requeue or claim changes the status,
the owner or the attempts of a leased row. -/
theorem lease_exclusive_of_lockUnchanged {workerId : W → String} {leaseTimeout : Time}
    {c c' : Cluster W} {op : Statement W}
    (hc : ReachableBy (clusterSystem workerId leaseTimeout) LockUnchanged c)
    (hC : LockUnchanged c op) (hn : clusterNext workerId leaseTimeout c op = some c') :
    Exclusive workerId leaseTimeout c op c' := by
  intro w id row hlease w' hop _
  obtain ⟨hrow, hrun, -, lockedAt, hlocked, hwithin⟩ := hlease
  suffices hget : c'.jobs.get? id = some row from ⟨row, hget, rfl, rfl, rfl⟩
  rcases clusterNext_queueStep hop hn with
    hjobs | ⟨timestamp, jobs, rfl, hstage, hjobs⟩ | ⟨timestamp, worker, candidate, hjobs⟩
  · rw [hjobs, hrow]
  · obtain ⟨hpast, hnodup, hexp⟩ :=
      ((clusterSystem_loadedExpired workerId leaseTimeout _).reachable hc).loaded w' _ _ hstage
    rw [hjobs, get?_commitRequeue _ _ hnodup]
    split
    · next job hfind =>
      -- a loaded row still under the lock it had then has outlived its timeout by now
      have hid : job.id = id := by simpa using List.find?_some hfind
      have hmem : job ∈ jobs := List.mem_of_find?_eq_some hfind
      have hsame := hC timestamp jobs hstage job hmem row (hid ▸ hrow) hrun
      have hjob := hexp job hmem
      simp only [expired, ← hsame, hlocked, Bool.and_eq_true, decide_eq_true_eq] at hjob
      linarith [hjob.2]
    · exact hrow
  · rw [hjobs, get?_claimUpdate, hrow, Option.map_some, if_neg]
    intro h
    obtain ⟨-, hready⟩ := h
    rw [(ready_iff.mp hready).1] at hrun
    cases hrun

/-- The condition is tight: a requeue commit that finds a loaded row under
another worker's live lease takes it away. -/
theorem relocked_commit_steals {workerId : W → String} {leaseTimeout : Time} {c c' : Cluster W}
    {w w' : W} {timestamp : Time} {jobs : List BackgroundJob} {job row : BackgroundJob}
    (hinv : LoadedExpired leaseTimeout c) (hstage : c.stage w' = .requeueCommit timestamp jobs)
    (hjob : job ∈ jobs) (hlease : HoldsLease workerId leaseTimeout c w job.id row) (hne : w' ≠ w)
    (hn : clusterNext workerId leaseTimeout c (.requeueCommit w') = some c') :
    ¬Exclusive workerId leaseTimeout c (.requeueCommit w') c' := by
  intro hex
  obtain ⟨row', hrow', hstatus, -, -⟩ := hex w job.id row hlease w' rfl hne
  obtain ⟨-, hnodup, hexp⟩ := hinv.loaded w' _ _ hstage
  have hrun : job.status = .running := by
    have := hexp job hjob
    simp only [expired, Bool.and_eq_true, beq_iff_eq] at this
    exact this.1
  have hfind : jobs.find? (fun j => j.id = job.id) = some job := by
    have := Table.get?_of_mem (t := (⟨jobs, hnodup⟩ : JobTable)) (r := job) hjob
    exact this
  simp only [clusterNext, hstage] at hn
  cases hn
  rw [get?_commitRequeue _ _ hnodup, hfind] at hrow'
  simp only [hlease.stored, Option.map_some, Option.some.injEq] at hrow'
  rw [← hrow', hlease.running] at hstatus
  unfold flush requeueExpired at hstatus
  dsimp only at hstatus
  split at hstatus <;> rw [column_of_ne _ (by simp [hrun])] at hstatus <;> cases hstatus

/-- A job `worker-c` locked. -/
def leasedJob (id : String) (lockedAt : Time) : BackgroundJob :=
  claimed lockedAt "worker-c" <| newJob
    { jobType := "github.check.publish", payload := .dict [], newId := id, now := 0 }
    "github.check.publish" none []

/-- The identifiers of three workers. -/
def workerNames : Fin 3 → String
  | 0 => "worker-a"
  | 1 => "worker-b"
  | 2 => "worker-c"

/-- A job locked at time `0` and one locked 200 s later. -/
def leasedCluster : Cluster (Fin 3) :=
  ⟨0, ⟨[leasedJob "job-1" 0, leasedJob "job-2" (seconds 200)], by decide⟩, fun _ => .idle⟩

/-- Five minutes on, `worker-a` has selected the first job and is about to commit. -/
def selectedCluster : Cluster (Fin 3) :=
  ((clusterSystem workerNames (seconds 300)).run leasedCluster
    [.tick 301000000, .requeueClock 0, .requeueSelect 0]).get (by decide)

theorem lease_exclusive_of_lockUnchanged_prompt :
    HoldsLease workerNames (seconds 300) selectedCluster 2 "job-2"
      (leasedJob "job-2" (seconds 200)) ∧
    ∃ c', clusterNext workerNames (seconds 300) selectedCluster (.requeueCommit 0) = some c' ∧
      Exclusive workerNames (seconds 300) selectedCluster (.requeueCommit 0) c' ∧
      (c'.jobs.get? "job-1").map (·.status) = some .queued := by
  refine ⟨⟨rfl, rfl, ⟨"worker-c", rfl, rfl⟩, ⟨seconds 200, rfl, by decide⟩⟩, _, rfl, ?_, by decide⟩
  have hreach : ReachableBy (clusterSystem workerNames (seconds 300)) LockUnchanged
      selectedCluster :=
    .step (a := .requeueSelect 0)
      (.step (a := .requeueClock 0)
        (.step (a := .tick 301000000) (s := leasedCluster) (.init rfl) trivial rfl) trivial rfl)
      trivial rfl
  refine lease_exclusive_of_lockUnchanged hreach ?_ rfl
  intro timestamp jobs hstage job hjob row hrow _
  cases hstage
  have hselected : job ∈ [leasedJob "job-1" 0] := hjob
  obtain rfl := List.mem_singleton.mp hselected
  cases hrow
  rfl

/-- The handler of `worker-c` hangs. -/
def hungCluster : Cluster (Fin 3) := ⟨0, ⟨[leasedJob "job-1" 0], by decide⟩, fun _ => .idle⟩

/-- Five minutes on, `worker-a` and `worker-b` both select the expired job;
`worker-b` commits its requeue first and claims the job. -/
def staleRequeueRun : List (Statement (Fin 3)) :=
  [.tick 301000000, .requeueClock 0, .requeueSelect 0, .requeueClock 1, .requeueSelect 1,
    .requeueCommit 1, .claimClock 1,
    .claimSelect 1 [requeueExpired (seconds 301) (leasedJob "job-1" 0)], .claimUpdate 1]

/-- Where `staleRequeueRun` ends. -/
def stolenCluster : Cluster (Fin 3) :=
  ((clusterSystem workerNames (seconds 300)).run hungCluster staleRequeueRun).get (by decide)

/-- Then the requeue of `worker-a` commits: the job `worker-b` has just claimed
is queued again. -/
theorem stale_requeue_steals :
    Reachable (clusterSystem workerNames (seconds 300)) stolenCluster ∧
    ∃ row, HoldsLease workerNames (seconds 300) stolenCluster 1 "job-1" row ∧
    ∃ c', clusterNext workerNames (seconds 300) stolenCluster (.requeueCommit 0) = some c' ∧
      (c'.jobs.get? "job-1").map (fun row => (row.status, row.lockedBy)) = some (.queued, none) ∧
      ¬Exclusive workerNames (seconds 300) stolenCluster (.requeueCommit 0) c' := by
  have hrun : (clusterSystem workerNames (seconds 300)).run hungCluster staleRequeueRun =
      some stolenCluster := (Option.some_get _).symm
  have hlease : HoldsLease workerNames (seconds 300) stolenCluster 1 "job-1"
      (claimed (seconds 301) "worker-b" (requeueExpired (seconds 301) (leasedJob "job-1" 0))) :=
    ⟨rfl, rfl, ⟨"worker-b", rfl, rfl⟩, ⟨seconds 301, rfl, by decide⟩⟩
  refine ⟨Reachable.of_run (.init (s := hungCluster) rfl) hrun, _, hlease, _, rfl, by decide, fun hex => ?_⟩
  obtain ⟨row', hrow', hstatus, -, -⟩ := hex 1 "job-1" _ hlease 0 rfl (by decide)
  cases hrow'
  cases hstatus

end DeployGuard.Jobs
