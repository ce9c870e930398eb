import DeployGuard.Jobs.Lifecycle
import DeployGuard.Lib.Wait

/-!
# A queued job is taken in its turn

`claim_next_job` reads its candidates oldest first and takes the first of them that is
still queued, so only the jobs before it in that order are taken before a job that waits.
`ahead` counts them. A call that runs after the job became available puts nothing before
it, and a claim takes one of the jobs ahead, or the job itself:

> `waiting_job_claimed`: as long as nobody has claimed the job, each claim call of the
> run has taken one of the jobs that were ahead of it.
-/

namespace DeployGuard.Jobs

open Raise Transition

/-- The row may be claimed before the job: it is queued and not later in the order of the
candidate query. -/
def isAhead (job row : BackgroundJob) : Bool :=
  row.status == .queued && row.id != job.id && claimOrder row job

/-- How many jobs may be claimed before this one. -/
def ahead (job : BackgroundJob) (t : JobTable) : Nat := t.rowcount (isAhead job)

/-- The call runs after `bound`, and what it puts into the queue becomes available after
`bound` as well. -/
def runsAfter (bound : Time) : QueueOp → Prop
  | .enqueue args => bound < args.availableAt.getD args.now
  | .claim _ _ now => bound ≤ now
  | .complete _ _ _ => True
  | .fail _ _ now => bound < now
  | .requeue _ now => bound < now
  | .replay _ availableAt now => bound < availableAt.getD now

/-- A worker with an acceptable name asks for a job. -/
def takesTurn : QueueOp → Bool
  | .claim workerId _ _ => (normalizeWorker workerId).toBool
  | _ => false

/-- The call is a claim, and it returns the job, claimed. -/
def claims (job : BackgroundJob) (h : History) : QueueOp → Prop
  | .claim workerId page now => ∃ worker s t, normalizeWorker workerId = .ok worker ∧
      claimNextJob Session.fresh h.jobs page workerId now = .ok (some (claimed now worker job), s, t)
  | _ => False

/-! ## What a call does to the jobs ahead -/

variable {job row : BackgroundJob} {t t' : JobTable}

theorem isAhead_iff : isAhead job row ↔
    row.status = .queued ∧ row.id ≠ job.id ∧ claimOrder row job := by
  simp [isAhead, and_assoc]

/-- What becomes available after the job is not ahead of it. -/
theorem not_isAhead_of_later (h : job.availableAt < row.availableAt) : ¬isAhead job row := by
  intro hahead
  obtain ⟨-, -, horder⟩ := isAhead_iff.mp hahead
  simp only [claimOrder, Bool.or_eq_true, Bool.and_eq_true, decide_eq_true_eq, beq_iff_eq] at horder
  rcases horder with hlt | ⟨heq, -⟩
  · exact absurd h (Int.not_lt.mpr (Int.le_of_lt hlt))
  · exact absurd h (heq ▸ Int.lt_irrefl _)

theorem not_isAhead_of_status (h : row.status ≠ .queued) : ¬isAhead job row :=
  fun hahead => h (isAhead_iff.mp hahead).1

/-- The job waits, and no more jobs are ahead of it than before. -/
structure StillWaits (job : BackgroundJob) (t t' : JobTable) : Prop where
  waits : t'.get? job.id = some job
  ahead_le : ahead job t' ≤ ahead job t

theorem StillWaits.refl (hjob : t.get? job.id = some job) : StillWaits job t t :=
  ⟨hjob, Nat.le_refl _⟩

/-- A write of another row that leaves it not ahead of the job. -/
theorem StillWaits.of_write {id : String} {object : BackgroundJob}
    (hget : ∀ k, t'.get? k = if k = id then some object else t.get? k)
    (hjob : t.get? job.id = some job) (hid : job.id ≠ id) (hobject : ¬isAhead job object) :
    StillWaits job t t' := by
  refine ⟨by rw [hget, if_neg hid, hjob], ?_⟩
  refine Table.rowcount_le_of_get? fun k row' hrow' hahead => ?_
  rw [hget] at hrow'
  split at hrow'
  · cases hrow'
    exact absurd hahead hobject
  · exact ⟨row', hrow', hahead⟩

theorem StillWaits.enqueueJob {args : EnqueueArgs} {stored : BackgroundJob}
    (hjob : t.get? job.id = some job) (hafter : job.availableAt < args.availableAt.getD args.now)
    (h : enqueueJob t args = .ok (stored, t')) : StillWaits job t t' := by
  obtain ⟨jobType, key, items, -, ⟨rfl, -⟩ | ⟨rfl, -, hinsert⟩⟩ := enqueueJob_ok h
  · exact .refl hjob
  · have habsent := (Table.insert_eq_some hinsert).1
    have hget : ∀ k, t'.get? k =
        if k = args.newId then some (newJob args jobType key items) else t.get? k := by
      intro k
      rw [Table.get?_insert hinsert, show (newJob args jobType key items).id = args.newId from rfl]
      by_cases hk : k = args.newId
      · rw [if_pos hk.symm, if_pos hk]
      · rw [if_neg fun h => hk h.symm, if_neg hk]
    have hlater : job.availableAt < (newJob args jobType key items).availableAt := hafter
    refine .of_write hget hjob (fun hid => ?_) (not_isAhead_of_later hlater)
    rw [show (newJob args jobType key items).id = args.newId from rfl, ← hid, hjob] at habsent
    cases habsent

theorem StillWaits.completeJob {jobId : String} {result : Option (List (String × Value))}
    {now : Time} {done : BackgroundJob} {s : Session} (hjob : t.get? job.id = some job)
    (hqueued : job.status = .queued) (h : completeJob .fresh t jobId result now = .ok (done, s, t')) :
    StillWaits job t t' := by
  obtain ⟨row, hrow, hrun, rfl, -, rfl⟩ := completeJob_ok h
  have hrow := jobOrRaise_fresh hrow
  refine .of_write (get?_flushRow_fresh hrow rfl) hjob ?_ (not_isAhead_of_status (by simp [complete]))
  intro hid
  rw [hid, hrow] at hjob
  cases hjob
  rw [hqueued] at hrun
  cases hrun

/-- A retry waits for no negative time. -/
theorem failJob_delay {s s' : Session} {jobId : String} {args : FailArgs} {now : Time}
    {failed : BackgroundJob} (h : failJob s t jobId args now = .ok (failed, s', t'))
    (attempts : Int) : 0 ≤ retryDelay args attempts := by
  simp only [failJob, bind_eq_ok, raiseIf_eq_ok, not_or, not_lt] at h
  obtain ⟨-, ⟨hbackoff, hmax⟩, -⟩ := h
  exact le_min (Int.mul_nonneg hbackoff (Int.pow_nonneg (by decide))) hmax

theorem StillWaits.failJob {jobId : String} {args : FailArgs} {now : Time}
    {failed : BackgroundJob} {s : Session} (hjob : t.get? job.id = some job)
    (hqueued : job.status = .queued) (hafter : job.availableAt < now)
    (h : failJob .fresh t jobId args now = .ok (failed, s, t')) : StillWaits job t t' := by
  have hdelay := failJob_delay h
  obtain ⟨row, hrow, hrun, rfl, -, rfl⟩ := failJob_ok h
  have hrow := jobOrRaise_fresh hrow
  have hid : (fail now args row).id = row.id := by
    unfold fail
    dsimp only
    split
    · rfl
    · split <;> rfl
  refine .of_write (get?_flushRow_fresh hrow hid) hjob ?_ ?_
  · intro hid
    rw [hid, hrow] at hjob
    cases hjob
    rw [hqueued] at hrun
    cases hrun
  · unfold fail
    dsimp only
    split
    · -- a retry becomes available after its delay
      refine not_isAhead_of_later ?_
      have hseconds : 0 ≤ seconds (retryDelay args row.attempts) :=
        Int.mul_nonneg (hdelay _) (by decide)
      exact Int.lt_of_lt_of_le hafter (Int.le_add_of_nonneg_right hseconds)
    · split
      · exact not_isAhead_of_status (by simp)
      · exact not_isAhead_of_status (by simp)

theorem StillWaits.replayDeadLetterJob {jobId : String} {availableAt : Option Time} {now : Time}
    {replayed : BackgroundJob} {s : Session} (hjob : t.get? job.id = some job)
    (hqueued : job.status = .queued) (hafter : job.availableAt < availableAt.getD now)
    (h : replayDeadLetterJob .fresh t jobId availableAt now = .ok (replayed, s, t')) :
    StillWaits job t t' := by
  obtain ⟨row, hrow, hdead, rfl, -, rfl⟩ := replayDeadLetterJob_ok h
  have hrow := jobOrRaise_fresh hrow
  have hlater : job.availableAt < (replay now availableAt row).availableAt := hafter
  refine .of_write (get?_flushRow_fresh hrow rfl) hjob ?_ (not_isAhead_of_later hlater)
  intro hid
  rw [hid, hrow] at hjob
  cases hjob
  rw [hqueued] at hdead
  rcases hdead with hdead | hdead <;> cases hdead

theorem StillWaits.requeueExpiredJobs {leaseTimeout now : Time} (hjob : t.get? job.id = some job)
    (hqueued : job.status = .queued) (hafter : job.availableAt < now) :
    StillWaits job t (requeueExpiredJobs leaseTimeout now t).2 := by
  have hget := get?_requeueExpiredJobs leaseTimeout now t
  have hexpired : ∀ row, expired (now - leaseTimeout) row → row.status = .running := by
    intro row hexpired
    simp only [expired, Bool.and_eq_true, beq_iff_eq] at hexpired
    exact hexpired.1
  refine ⟨?_, Table.rowcount_le_of_get? fun k row' hrow' hahead => ?_⟩
  · rw [hget, hjob, Option.map_some, if_neg]
    intro h
    rw [hexpired job h] at hqueued
    cases hqueued
  · rw [hget] at hrow'
    obtain ⟨row, hrow, hrow'⟩ := Option.map_eq_some_iff.mp hrow'
    split at hrow'
    · -- a lease that ran out is requeued now, or the job is dead
      subst hrow'
      refine absurd hahead ?_
      unfold requeueExpired
      dsimp only
      split
      · exact not_isAhead_of_status (by simp)
      · exact not_isAhead_of_later hafter
    · subst hrow'
      exact ⟨row, hrow, hahead⟩

/-! ## What a claim takes -/

/-- Where a job is ready, the page begins with a stored job that is ready too, and that is
the job or ahead of it. -/
theorem IsReadyPage.head {now : Time} {page : List BackgroundJob} (hpage : IsReadyPage now t page)
    (hjob : t.get? job.id = some job) (hready : ready now job) :
    ∃ first rest, page = first :: rest ∧ t.get? first.id = some first ∧ ready now first ∧
      (first = job ∨ isAhead job first) := by
  obtain ⟨hselect, -, horder, hlength, hrest⟩ := hpage
  have hmem : job ∈ t.select (ready now) := Table.mem_select.mpr ⟨Table.mem_of_get? hjob, hready⟩
  cases page with
  | nil =>
    have hpos := List.length_pos_of_mem hmem
    rw [List.length_nil] at hlength
    omega
  | cons first rest =>
    obtain ⟨hfirst, hfirstReady⟩ := Table.mem_select.mp (hselect first List.mem_cons_self)
    refine ⟨first, rest, rfl, Table.get?_of_mem hfirst, hfirstReady, ?_⟩
    by_cases hid : first.id = job.id
    · exact Or.inl (t.eq_of_key_eq hfirst (Table.mem_of_get? hjob) hid)
    · refine Or.inr (isAhead_iff.mpr ⟨(ready_iff.mp hfirstReady).1, hid, ?_⟩)
      by_cases hon : job.id ∈ (first :: rest).map BackgroundJob.id
      · obtain ⟨row, hrow, hkey⟩ := List.mem_map.mp hon
        obtain rfl : row = job :=
          t.eq_of_key_eq (Table.mem_select.mp (hselect row hrow)).1 (Table.mem_of_get? hjob) hkey
        rcases List.mem_cons.mp hrow with rfl | hrow
        · exact absurd rfl hid
        · exact (List.pairwise_cons.mp horder).1 row hrow
      · exact hrest job hmem hon first List.mem_cons_self

/-- A claim takes the head of the page where that is stored and ready. -/
theorem claimNextJob_head (s : Session) {first : BackgroundJob} (rest : List BackgroundJob)
    {workerId worker : String} {now : Time} (hworker : normalizeWorker workerId = .ok worker)
    (hfirst : t.get? first.id = some first) (hready : ready now first) :
    ∃ t', claimNextJob s t (first :: rest) workerId now =
        .ok (some (claimed now worker first), s.hold (claimed now worker first), t') ∧
      ∀ k, t'.get? k = if k = first.id then some (claimed now worker first) else t.get? k := by
  have hcount : 0 < (claimUpdate now worker first.id t).2 :=
    claimUpdate_rowcount.mpr ⟨first, hfirst, hready⟩
  have hget : ∀ k, (claimUpdate now worker first.id t).1.get? k =
      if k = first.id then some (claimed now worker first) else t.get? k := by
    intro k
    rw [get?_claimUpdate]
    by_cases hk : k = first.id
    · subst hk
      rw [hfirst, Option.map_some, if_pos ⟨rfl, hready⟩, if_pos rfl]
    · simp [hk]
  refine ⟨(claimUpdate now worker first.id t).1, ?_, hget⟩
  have htaken : claimFirst now worker t (first :: rest) =
      some (first.id, (claimUpdate now worker first.id t).1) := by
    unfold claimFirst
    dsimp only
    rw [if_pos hcount]
  simp only [claimNextJob, hworker, bind_ok, htaken]
  rw [hget, if_pos rfl]
  rfl

/-- **One call.** While the job waits, a call claims it, or leaves it waiting with the
jobs ahead fewer by the one a claim has taken. -/
theorem next_waits {h h' : History} {op : QueueOp} (hqueued : job.status = .queued)
    (hjob : h.jobs.get? job.id = some job) (hafter : runsAfter job.availableAt op)
    (hn : next h op = some h') :
    claims job h op ∨ (h'.jobs.get? job.id = some job ∧
      ahead job h'.jobs + (if takesTurn op then 1 else 0) ≤ ahead job h.jobs) := by
  have hstill : ∀ {t}, takesTurn op = false → h'.jobs = t → StillWaits job h.jobs t →
      claims job h op ∨ (h'.jobs.get? job.id = some job ∧
        ahead job h'.jobs + (if takesTurn op then 1 else 0) ≤ ahead job h.jobs) := by
    rintro t hturn rfl hwaits
    refine Or.inr ⟨hwaits.waits, ?_⟩
    rw [hturn]
    exact hwaits.ahead_le
  cases op with
  | enqueue args =>
    simp only [next] at hn
    split at hn
    · next stored t henqueue =>
      cases hn
      exact hstill rfl rfl (.enqueueJob hjob hafter henqueue)
    · cases hn
      exact hstill rfl rfl (.refl hjob)
  | complete jobId result now =>
    simp only [next] at hn
    split at hn
    · next done s t hdone =>
      cases hn
      exact hstill rfl rfl (.completeJob hjob hqueued hdone)
    · cases hn
      exact hstill rfl rfl (.refl hjob)
  | fail jobId args now =>
    simp only [next] at hn
    split at hn
    · next failed s t hfail =>
      cases hn
      exact hstill rfl rfl (.failJob hjob hqueued hafter hfail)
    · cases hn
      exact hstill rfl rfl (.refl hjob)
  | requeue leaseTimeout now =>
    cases hn
    exact hstill rfl rfl (.requeueExpiredJobs hjob hqueued hafter)
  | replay jobId availableAt now =>
    simp only [next] at hn
    split at hn
    · next replayed s t hreplay =>
      cases hn
      exact hstill rfl rfl (.replayDeadLetterJob hjob hqueued hafter hreplay)
    · cases hn
      exact hstill rfl rfl (.refl hjob)
  | claim workerId page now =>
    simp only [next] at hn
    split at hn
    · next hpage =>
      cases hworker : normalizeWorker workerId with
      | error e =>
        -- the worker's name is refused before the queue is read
        have hraised : claimNextJob Session.fresh h.jobs page workerId now = .error e := by
          simp only [claimNextJob, hworker]
          rfl
        rw [hraised] at hn
        cases hn
        exact hstill (by simp [takesTurn, hworker, Except.toBool]) rfl (.refl hjob)
      | ok worker =>
        have hready : ready now job := ready_iff.mpr ⟨hqueued, hafter⟩
        obtain ⟨first, rest, rfl, hfirst, hfirstReady, rfl | hahead⟩ := hpage.head hjob hready
        · obtain ⟨t', hclaim, -⟩ := claimNextJob_head .fresh rest hworker hfirst hfirstReady
          exact Or.inl ⟨worker, _, t', hworker, hclaim⟩
        · obtain ⟨t', hclaim, hget⟩ := claimNextJob_head .fresh rest hworker hfirst hfirstReady
          rw [hclaim] at hn
          cases hn
          have hid : job.id ≠ first.id := Ne.symm (isAhead_iff.mp hahead).2.1
          refine Or.inr ⟨by rw [hget, if_neg hid, hjob], ?_⟩
          -- the job that was taken is running, so it is ahead no more
          have hrunning : ¬isAhead job (claimed now worker first) :=
            not_isAhead_of_status (by simp [claimed])
          have hlt : ahead job t' < ahead job h.jobs := by
            refine Table.rowcount_lt_of_get? (fun k row' hrow' hahead' => ?_) hfirst hahead
              fun row' hrow' => ?_
            · rw [hget] at hrow'
              split at hrow'
              · cases hrow'
                exact absurd hahead' hrunning
              · exact ⟨row', hrow', hahead'⟩
            · rw [hget, if_pos rfl] at hrow'
              cases hrow'
              exact hrunning
          have hturn : takesTurn (.claim workerId (first :: rest) now) = true := by
            simp [takesTurn, hworker, Except.toBool]
          rw [hturn]
          exact hlt
    · cases hn

theorem wait_for_claim (hqueued : job.status = .queued) :
    Wait queueSystem (runsAfter job.availableAt) (fun h => h.jobs.get? job.id = some job)
      takesTurn (claims job) (fun h => ahead job h.jobs) where
  step _ _ _ hjob hafter hn := next_waits hqueued hjob hafter hn

/-- **A queued job is taken in its turn.** Take any table with a queued job, and any run
of the queue that goes on after the job became available. Either the job still waits, as
it was, and every claim of the run took one of the jobs ahead of it; or some claim of the
run returned it, and every claim before that took one of the jobs ahead. So the job is
claimed by the `ahead + 1`st claim at the latest. -/
theorem waiting_job_claimed {h h' : History} {ops : List QueueOp} {job : BackgroundJob}
    (hjob : job ∈ h.jobs.rows) (hqueued : job.status = .queued)
    (hafter : ∀ op ∈ ops, runsAfter job.availableAt op) (hrun : queueSystem.run h ops = some h') :
    (job ∈ h'.jobs.rows ∧ ahead job h'.jobs + ops.countP takesTurn ≤ ahead job h.jobs) ∨
    ∃ before op after t, ops = before ++ op :: after ∧ queueSystem.run h before = some t ∧
      job ∈ t.jobs.rows ∧ claims job t op ∧
      ahead job t.jobs + before.countP takesTurn ≤ ahead job h.jobs := by
  rcases (wait_for_claim hqueued).run ops h h' (Table.get?_of_mem hjob) hafter hrun with
    ⟨hwaits, hle⟩ | ⟨before, op, after, t, hops, hbefore, hwaits, hclaims, hle⟩
  · exact Or.inl ⟨Table.mem_of_get? hwaits, hle⟩
  · exact Or.inr ⟨before, op, after, t, hops, hbefore, Table.mem_of_get? hwaits, hclaims, hle⟩

/-- A request for a check run, with the clock value it is made at. -/
def checkRunArgs (newId : String) (now : Time) : EnqueueArgs :=
  { jobType := "github.check.publish", payload := .dict [("change_id", .str "chg-1")], newId, now }

/-- Two jobs, the second enqueued after the first. -/
def twoQueued : List QueueOp := [.enqueue (checkRunArgs "job-1" 0), .enqueue (checkRunArgs "job-2" 5)]

def queuedCheckRun (newId : String) (now : Time) : BackgroundJob :=
  newJob (checkRunArgs newId now) "github.check.publish" none [("change_id", .str "chg-1")]

/-- Two workers ask one after the other, then the first one acknowledges. -/
def twoClaims : List QueueOp :=
  [.claim "worker-a" [queuedCheckRun "job-1" 0, queuedCheckRun "job-2" 5] 10,
    .claim "worker-b" [queuedCheckRun "job-2" 5] 20,
    .complete "job-1" none 30]

/-- The second of two queued jobs is taken by the second claim. -/
theorem waiting_job_claimed_second :
    ∃ h h', queueSystem.run ⟨∅, []⟩ twoQueued = some h ∧ queueSystem.run h twoClaims = some h' ∧
      ahead (queuedCheckRun "job-2" 5) h.jobs = 1 ∧
      ∃ before op after t, twoClaims = before ++ op :: after ∧
        queueSystem.run h before = some t ∧ queuedCheckRun "job-2" 5 ∈ t.jobs.rows ∧
        claims (queuedCheckRun "job-2" 5) t op ∧
        ahead (queuedCheckRun "job-2" 5) t.jobs + before.countP takesTurn ≤ 1 := by
  let h := (queueSystem.run ⟨∅, []⟩ twoQueued).get (by decide)
  have hafter : ∀ op ∈ twoClaims, runsAfter (queuedCheckRun "job-2" 5).availableAt op := by
    simp [twoClaims, runsAfter, queuedCheckRun, newJob, checkRunArgs]
  have hahead : ahead (queuedCheckRun "job-2" 5) h.jobs = 1 := by decide
  have hjob : queuedCheckRun "job-2" 5 ∈ h.jobs.rows := by decide
  obtain ⟨h', hrun⟩ := Option.isSome_iff_exists.mp
    (show (queueSystem.run h twoClaims).isSome from by decide)
  refine ⟨h, h', (Option.some_get _).symm, hrun, hahead, ?_⟩
  rcases waiting_job_claimed hjob rfl hafter hrun with ⟨-, hle⟩ | htaken
  · rw [hahead] at hle
    have hturns : twoClaims.countP takesTurn = 2 := by decide
    omega
  · rw [hahead] at htaken
    exact htaken

end DeployGuard.Jobs
