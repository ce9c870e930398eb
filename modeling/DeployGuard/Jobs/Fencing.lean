import DeployGuard.Jobs.Lifecycle
import Mathlib.Logic.Function.Basic

/-!
# Acknowledgement fencing

A fleet of workers over one job table. Each queue operation is one atomic step;
what a worker carries from its claim to its acknowledgement is the session with
the job object it loaded, and `complete_job` and `fail_job` look at that object
(`session.get` answers from the identity map) and write without looking at the
row. `AckFenced` is what the acknowledgement is meant to guarantee: it changes a
row only while the row is running under the lease the worker claimed.

It does not guarantee that. `lateRun` is a handler that outlives its lease: the
job is requeued, another worker claims it, and the first worker's `complete_job`
marks that worker's running job succeeded (`late_ack_overwrites`). The runs in
which acknowledgements are fenced are those in which nobody acknowledges a job
that a requeue has found expired since he claimed it (`InTime`). A `Watched` fleet
remembers whose claims those are. Requeues are free, so the recovery of a crashed
worker's job is among these runs. The row of every other claim is, column for
column, the object its worker loaded (`HeldRow`), which is the invariant the proof
carries. One late acknowledgement is enough to break the guarantee
(`overtaken_ack_unfenced`).
-/

namespace DeployGuard.Jobs

open Transition Raise

variable {W : Type} [DecidableEq W]

/-- The table, and for each worker its session and the job object it is working
on: the one its last claim loaded. -/
structure Fleet (W : Type) where
  jobs : JobTable
  session : W → Session
  lease : W → Option BackgroundJob

/-- One atomic step of the fleet. -/
inductive FleetOp (W : Type) where
  | claim (w : W) (workerId : String) (page : List BackgroundJob) (now : Time)
  | requeue (leaseTimeout now : Time)
  | replay (jobId : String) (availableAt : Option Time) (now : Time)
  | complete (w : W) (result : Option (List (String × Value))) (now : Time)
  | fail (w : W) (args : FailArgs) (now : Time)

/-- The end of `run_one_job`: its session is closed with it. -/
def Fleet.release (f : Fleet W) (w : W) (jobs : JobTable) : Fleet W where
  jobs := jobs
  session := Function.update f.session w Session.fresh
  lease := Function.update f.lease w none

/-- A step. A claim opens a new session; an acknowledgement is a step of a
worker that holds a job, and ends `run_one_job` whether it raises or not. -/
def fleetNext (f : Fleet W) : FleetOp W → Option (Fleet W)
  | .claim w workerId page now =>
    if IsReadyPage now f.jobs page then
      match claimNextJob Session.fresh f.jobs page workerId now with
      | .ok (job?, session, t) =>
        some ⟨t, Function.update f.session w session, Function.update f.lease w job?⟩
      | .error _ => some f
    else none
  | .requeue leaseTimeout now =>
    some { f with jobs := (requeueExpiredJobs leaseTimeout now f.jobs).2 }
  | .replay jobId availableAt now =>
    match replayDeadLetterJob Session.fresh f.jobs jobId availableAt now with
    | .ok (_, _, t) => some { f with jobs := t }
    | .error _ => some f
  | .complete w result now =>
    match f.lease w with
    | none => none
    | some job =>
      match completeJob (f.session w) f.jobs job.id result now with
      | .ok (_, _, t) => some (f.release w t)
      | .error _ => some (f.release w f.jobs)
  | .fail w args now =>
    match f.lease w with
    | none => none
    | some job =>
      match failJob (f.session w) f.jobs job.id args now with
      | .ok (_, _, t) => some (f.release w t)
      | .error _ => some (f.release w f.jobs)

/-- Any table, nobody working. -/
def fleetSystem (W : Type) [DecidableEq W] : System (Fleet W) (FleetOp W) where
  init f := f.session = (fun _ => Session.fresh) ∧ f.lease = fun _ => none
  next := fleetNext

/-- The worker an acknowledgement belongs to. -/
def FleetOp.acknowledges : FleetOp W → Option W
  | .complete w _ _ | .fail w _ _ => some w
  | _ => none

/-- An acknowledgement by `w` changes a row only if the row is running under the
lease `w` claimed. -/
def AckFenced (f : Fleet W) (op : FleetOp W) (f' : Fleet W) : Prop :=
  ∀ w, op.acknowledges = some w → ∀ id row, f.jobs.get? id = some row →
    f'.jobs.get? id ≠ some row → ∃ job, f.lease w = some job ∧ job.id = id ∧
      row.status = .running ∧ row.lockedBy = job.lockedBy ∧ row.attempts = job.attempts

/-- A fleet, and of each worker whether a requeue has found the job it works on expired
since it claimed it. -/
structure Watched (W : Type) where
  fleet : Fleet W
  overtaken : W → Bool

/-- A requeue finds the job the worker works on expired. -/
def Fleet.finds (f : Fleet W) (leaseTimeout now : Time) (w : W) : Bool :=
  match f.lease w with
  | none => false
  | some job => ((f.jobs.get? job.id).map (expired (now - leaseTimeout))).getD false

/-- Who is overtaken after a step. A worker that claims or acknowledges starts anew. -/
def Watched.mark (s : Watched W) : FleetOp W → W → Bool
  | .claim w workerId page now =>
    match claimNextJob Session.fresh s.fleet.jobs page workerId now with
    | .ok _ => Function.update s.overtaken w false
    | .error _ => s.overtaken
  | .requeue leaseTimeout now => fun w => s.overtaken w || s.fleet.finds leaseTimeout now w
  | .replay .. => s.overtaken
  | .complete w .. | .fail w .. => Function.update s.overtaken w false

/-- A step of the fleet, watched. -/
def watchedNext (s : Watched W) (op : FleetOp W) : Option (Watched W) :=
  (fleetNext s.fleet op).map fun f => ⟨f, s.mark op⟩

/-- The fleet's own runs: the watch only remembers. -/
def watchedSystem (W : Type) [DecidableEq W] : System (Watched W) (FleetOp W) where
  init s := (fleetSystem W).init s.fleet ∧ s.overtaken = fun _ => false
  next := watchedNext

theorem watchedNext_eq_some {s s' : Watched W} {op : FleetOp W} :
    watchedNext s op = some s' ↔ fleetNext s.fleet op = some s'.fleet ∧ s'.overtaken = s.mark op := by
  unfold watchedNext
  rw [Option.map_eq_some_iff]
  constructor
  · rintro ⟨f, hf, rfl⟩
    exact ⟨hf, rfl⟩
  · rintro ⟨hf, hmark⟩
    exact ⟨s'.fleet, hf, by rw [← hmark]⟩

/-- Nobody acknowledges a job that a requeue has found expired since he claimed it. -/
def InTime (s : Watched W) (op : FleetOp W) : Prop :=
  ∀ w, op.acknowledges = some w → s.overtaken w = false

/-- What an acknowledgement does: the worker lets go of its job, and the table
either stays or gets the changed columns of the job object the session answers
with. -/
theorem fleetNext_ack {f f' : Fleet W} {op : FleetOp W} {w : W} (hop : op.acknowledges = some w)
    (hn : fleetNext f op = some f') :
    ∃ job, f.lease w = some job ∧ (f' = f.release w f.jobs ∨
      ∃ found object, jobOrRaise (f.session w) f.jobs job.id = .ok found ∧
        f' = f.release w (flushRow f.jobs found object)) := by
  cases op with
  | complete w' result now =>
    cases hop
    simp only [fleetNext] at hn
    split at hn
    · cases hn
    · next job hw =>
      refine ⟨job, hw, ?_⟩
      split at hn
      · next done s t hdone =>
        cases hn
        obtain ⟨found, hfound, -, -, -, rfl⟩ := completeJob_ok hdone
        -- the acknowledgement wrote through the row it found again
        exact Or.inr ⟨found, done, hfound, rfl⟩
      · -- the lease was lost: nothing is written
        cases hn; exact Or.inl rfl
  | fail w' args now =>
    cases hop
    simp only [fleetNext] at hn
    split at hn
    · cases hn
    · next job hw =>
      refine ⟨job, hw, ?_⟩
      split at hn
      · next failed s t hfail =>
        cases hn
        obtain ⟨found, hfound, -, -, -, rfl⟩ := failJob_ok hfail
        exact Or.inr ⟨found, failed, hfound, rfl⟩
      · cases hn; exact Or.inl rfl
  -- the rest acknowledge nothing
  | claim => cases hop
  | requeue => cases hop
  | replay => cases hop

/-! ## The invariant -/

/-- The worker works on the job, and no requeue has found it expired since. -/
def Watched.Holds (s : Watched W) (w : W) (job : BackgroundJob) : Prop :=
  s.overtaken w = false ∧ s.fleet.lease w = some job

/-- A job a worker holds is running, its row is the object the worker loaded,
and no other worker holds it. -/
structure HeldRow (s : Watched W) : Prop where
  row : ∀ w job, s.Holds w job → job.status = .running ∧ s.fleet.session w job.id = some job ∧
    s.fleet.jobs.get? job.id = some job
  unique : ∀ w w' job job', s.Holds w job → s.Holds w' job' → job.id = job'.id → w = w'

omit [DecidableEq W] in
/-- The invariant survives any change of the table that leaves alone the rows of those who
still hold theirs. -/
theorem HeldRow.of_jobs {s : Watched W} (h : HeldRow s) {t : JobTable} {late : W → Bool}
    (hlate : ∀ w, late w = false → s.overtaken w = false)
    (ht : ∀ w job, late w = false → s.Holds w job → t.get? job.id = some job) :
    HeldRow ⟨{ s.fleet with jobs := t }, late⟩ where
  row w job hw := by
    have hold : s.Holds w job := ⟨hlate w hw.1, hw.2⟩
    exact ⟨(h.row w job hold).1, (h.row w job hold).2.1, ht w job hw.1 hold⟩
  unique w w' job job' hw hw' :=
    h.unique w w' job job' ⟨hlate w hw.1, hw.2⟩ ⟨hlate w' hw'.1, hw'.2⟩

/-- A worker that stops working takes its job out of the invariant. -/
theorem HeldRow.release {s : Watched W} (h : HeldRow s) (w : W) {t : JobTable}
    (ht : ∀ w' job, w' ≠ w → s.Holds w' job → t.get? job.id = some job) :
    HeldRow ⟨s.fleet.release w t, Function.update s.overtaken w false⟩ := by
  have hholds : ∀ w' job,
      Watched.Holds ⟨s.fleet.release w t, Function.update s.overtaken w false⟩ w' job →
        w' ≠ w ∧ s.Holds w' job := by
    rintro w' job ⟨hlate, hlease⟩
    by_cases hww : w' = w
    · subst hww; simp [Fleet.release] at hlease
    · exact ⟨hww, by simpa [hww] using hlate, by simpa [Fleet.release, hww] using hlease⟩
  refine ⟨fun w' job hw' => ?_, fun w₁ w₂ job job' h₁ h₂ hid => ?_⟩
  · obtain ⟨hne, hold⟩ := hholds w' job hw'
    obtain ⟨hrun, hsession, -⟩ := h.row w' job hold
    refine ⟨hrun, ?_, ht w' job hne hold⟩
    simpa [Fleet.release, hne] using hsession
  · exact h.unique w₁ w₂ job job' (hholds w₁ job h₁).2 (hholds w₂ job' h₂).2 hid

omit [DecidableEq W] in
/-- An acknowledgement of the held job leaves the other held rows alone. -/
theorem HeldRow.other_row {s : Watched W} (h : HeldRow s) {w : W} {job object : BackgroundJob}
    (hw : s.Holds w job) : ∀ w' job', w' ≠ w → s.Holds w' job' →
      (flushRow s.fleet.jobs job object).get? job'.id = some job' := by
  intro w' job' hne hw'
  have hid : ¬job'.id = job.id := fun hid => hne (h.unique w' w job' job hw' hw hid)
  rw [get?_flushRow, (h.row w' job' hw').2.2, Option.map_some, if_neg hid]

omit [DecidableEq W] in
/-- The object `complete_job` and `fail_job` look at is the one the worker holds. -/
theorem HeldRow.jobOrRaise {s : Watched W} (h : HeldRow s) {w : W} {job found : BackgroundJob}
    (hw : s.Holds w job)
    (hfound : jobOrRaise (s.fleet.session w) s.fleet.jobs job.id = .ok found) : found = job := by
  unfold Jobs.jobOrRaise at hfound
  rw [(h.row w job hw).2.1] at hfound
  cases hfound
  rfl

/-- An acknowledgement in time keeps the invariant. -/
theorem HeldRow.ack {s s' : Watched W} {op : FleetOp W} (h : HeldRow s) {w : W}
    (hop : op.acknowledges = some w) (htime : s.overtaken w = false)
    (hmark : s.mark op = Function.update s.overtaken w false)
    (hn : watchedNext s op = some s') : HeldRow s' := by
  obtain ⟨f', late⟩ := s'
  obtain ⟨hstep, rfl⟩ := watchedNext_eq_some.mp hn
  rw [hmark]
  obtain ⟨job, hw, rfl | ⟨found, object, hfound, rfl⟩⟩ := fleetNext_ack hop hstep
  · exact h.release w fun w' job' _ hw' => (h.row w' job' hw').2.2
  · cases h.jobOrRaise ⟨htime, hw⟩ hfound
    exact h.release w (h.other_row ⟨htime, hw⟩)

/-- A claim keeps the invariant: the claimed row was queued, so it is none of the held rows. -/
theorem HeldRow.claim {s s' : Watched W} {w : W} {workerId : String} {page : List BackgroundJob}
    {now : Time} (h : HeldRow s) (hn : watchedNext s (.claim w workerId page now) = some s') :
    HeldRow s' := by
  obtain ⟨f', late⟩ := s'
  obtain ⟨hstep, rfl⟩ := watchedNext_eq_some.mp hn
  simp only [fleetNext] at hstep
  split at hstep
  · split at hstep
    · next job? session t hclaim =>
      cases hstep
      rw [show s.mark (.claim w workerId page now) = Function.update s.overtaken w false by
        simp only [Watched.mark, hclaim]]
      rcases claimNextJob_ok hclaim with ⟨rfl, rfl, rfl⟩ | ⟨worker, row, -, hrow, hready, rfl, rfl, hget⟩
      · exact h.release w fun w' job _ hw' => (h.row w' job hw').2.2
      · have hfree : ∀ w' job', s.Holds w' job' → job'.id ≠ row.id := by
          intro w' job' hw' hid
          obtain ⟨hrun, -, hheld⟩ := h.row w' job' hw'
          rw [hid, hrow, Option.some.injEq] at hheld
          rw [← hheld, (ready_iff.mp hready).1] at hrun
          cases hrun
        have hholds : ∀ w' job',
            Function.update s.overtaken w false w' = false →
            Function.update s.fleet.lease w (some (claimed now worker row)) w' = some job' →
            (w' = w ∧ job' = claimed now worker row) ∨ (w' ≠ w ∧ s.Holds w' job') := by
          intro w' job' hlate hw'
          by_cases hww : w' = w
          · subst hww
            rw [Function.update_self, Option.some.injEq] at hw'
            exact Or.inl ⟨rfl, hw'.symm⟩
          · rw [Function.update_of_ne hww] at hw' hlate
            exact Or.inr ⟨hww, hlate, hw'⟩
        refine ⟨fun w' job' hw' => ?_, fun w₁ w₂ job₁ job₂ h₁ h₂ hid => ?_⟩
        · rcases hholds w' job' hw'.1 hw'.2 with ⟨rfl, rfl⟩ | ⟨hww, hold⟩
          · refine ⟨rfl, ?_, by rw [hget, if_pos (claimed_id ..)]⟩
            simp [Session.hold]
          · obtain ⟨hrun, hsession, hheld⟩ := h.row w' job' hold
            refine ⟨hrun, by simpa [hww] using hsession, ?_⟩
            rw [hget, if_neg (hfree w' job' hold), hheld]
        · rcases hholds w₁ job₁ h₁.1 h₁.2 with ⟨rfl, rfl⟩ | ⟨-, hold₁⟩
          · rcases hholds w₂ job₂ h₂.1 h₂.2 with ⟨rfl, -⟩ | ⟨-, hold₂⟩
            · rfl
            · exact absurd hid.symm (hfree w₂ job₂ hold₂)
          · rcases hholds w₂ job₂ h₂.1 h₂.2 with ⟨rfl, rfl⟩ | ⟨-, hold₂⟩
            · exact absurd hid (hfree w₁ job₁ hold₁)
            · exact h.unique w₁ w₂ job₁ job₂ hold₁ hold₂ hid
    · next hclaim =>
      cases hstep
      rw [show s.mark (.claim w workerId page now) = s.overtaken by
        simp only [Watched.mark, hclaim]]
      exact h
  · cases hstep

/-- A requeue changes only the rows of those it overtakes. -/
theorem HeldRow.requeue {s s' : Watched W} {leaseTimeout now : Time} (h : HeldRow s)
    (hn : watchedNext s (.requeue leaseTimeout now) = some s') : HeldRow s' := by
  obtain ⟨f', late⟩ := s'
  obtain ⟨hstep, rfl⟩ := watchedNext_eq_some.mp hn
  cases hstep
  refine h.of_jobs (fun w hw => (Bool.or_eq_false_iff.mp hw).1) fun w job hw hold => ?_
  obtain ⟨-, -, hheld⟩ := h.row w job hold
  have hfinds : s.fleet.finds leaseTimeout now w = expired (now - leaseTimeout) job := by
    simp only [Fleet.finds, hold.2, hheld, Option.map_some, Option.getD_some]
  have hexpired : ¬expired (now - leaseTimeout) job = true := by
    rw [← hfinds, (Bool.or_eq_false_iff.mp hw).2]
    exact Bool.false_ne_true
  rw [get?_requeueExpiredJobs, hheld, Option.map_some, if_neg hexpired]

/-- A replay changes no held row: a replayable row is not running. -/
theorem HeldRow.replay {s s' : Watched W} {jobId : String} {availableAt : Option Time} {now : Time}
    (h : HeldRow s) (hn : watchedNext s (.replay jobId availableAt now) = some s') : HeldRow s' := by
  obtain ⟨f', late⟩ := s'
  obtain ⟨hstep, rfl⟩ := watchedNext_eq_some.mp hn
  simp only [fleetNext] at hstep
  split at hstep
  · next replayed session t hreplay =>
    cases hstep
    obtain ⟨job, hjob, hdead, rfl, -, rfl⟩ := replayDeadLetterJob_ok hreplay
    have hrow := jobOrRaise_fresh hjob
    refine h.of_jobs (fun _ => id) fun w held _ hw => ?_
    obtain ⟨hrun, -, hheld⟩ := h.row w held hw
    have hreplayed : (Jobs.replay now availableAt job).id = job.id := rfl
    rw [get?_flushRow_fresh hrow hreplayed, if_neg]
    · exact hheld
    · intro hid
      rw [hid, hrow, Option.some.injEq] at hheld
      rw [← hheld] at hrun
      rcases hdead with hdead | hdead <;> rw [hrun] at hdead <;> cases hdead
  · cases hstep
    exact h

theorem HeldRow.next {s s' : Watched W} {op : FleetOp W} (h : HeldRow s) (hC : InTime s op)
    (hn : watchedNext s op = some s') : HeldRow s' := by
  cases op with
  | claim w workerId page now => exact h.claim hn
  | requeue leaseTimeout now => exact h.requeue hn
  | replay jobId availableAt now => exact h.replay hn
  | complete w result now => exact h.ack rfl (hC w rfl) rfl hn
  | fail w args now => exact h.ack rfl (hC w rfl) rfl hn

theorem watchedSystem_heldRow : Invariant (watchedSystem W) InTime HeldRow where
  init s h0 := by
    obtain ⟨⟨-, hlease⟩, -⟩ := h0
    refine ⟨fun w job hw => ?_, fun w w' job job' hw => ?_⟩
    · rw [Watched.Holds, hlease] at hw
      cases hw.2
    · rw [Watched.Holds, hlease] at hw
      cases hw.2
  step _ _ _ h hC hn := h.next hC hn

/-! ## Fenced acknowledgements -/

/-- With the held row as loaded, the one row an acknowledgement in time can change is
the held one. -/
theorem HeldRow.ack_fenced {s : Watched W} {f' : Fleet W} {op : FleetOp W} (h : HeldRow s)
    (hC : InTime s op) (hn : fleetNext s.fleet op = some f') : AckFenced s.fleet op f' := by
  intro w hop id row hrow hchanged
  obtain ⟨job, hw, rfl | ⟨found, object, hfound, rfl⟩⟩ := fleetNext_ack hop hn
  · exact absurd hrow hchanged
  · have hold : s.Holds w job := ⟨hC w hop, hw⟩
    cases h.jobOrRaise hold hfound
    obtain ⟨hrun, -, hheld⟩ := h.row w job hold
    by_cases hid : id = job.id
    · subst hid
      rw [hrow, Option.some.injEq] at hheld
      subst hheld
      exact ⟨row, hw, rfl, hrun, rfl, rfl⟩
    · have hsame : (flushRow s.fleet.jobs job object).get? id = some row := by
        rw [get?_flushRow, hrow, Option.map_some, if_neg hid]
      exact absurd hsame hchanged

/-- **Fencing in time.** In every run in which nobody acknowledges a job that a requeue has
found expired since he claimed it, an acknowledgement changes a row only if the row is
running under the lease its worker claimed. -/
theorem ack_fenced_in_time {s s' : Watched W} {op : FleetOp W}
    (hs : ReachableBy (watchedSystem W) InTime s) (hC : InTime s op)
    (hn : watchedNext s op = some s') : AckFenced s.fleet op s'.fleet :=
  (watchedSystem_heldRow.reachable hs).ack_fenced hC (watchedNext_eq_some.mp hn).1

/-- A queued job. -/
def promptJob : BackgroundJob :=
  newJob { jobType := "github.check.publish", payload := .dict [], newId := "job-1", now := 0 }
    "github.check.publish" none []

/-- One queued job and no worker busy. -/
def fleetStart : Fleet Bool := ⟨⟨[promptJob], by simp⟩, fun _ => Session.fresh, fun _ => none⟩

/-- `worker-a` claims the job and dies; after five minutes the job is requeued and
claimed by `worker-b`. -/
def lateRun : List (FleetOp Bool) :=
  [.claim false "worker-a" [promptJob] 0,
    .requeue (seconds 300) (seconds 301),
    .claim true "worker-b" [requeueExpired (seconds 301) (claimed 0 "worker-a" promptJob)]
      (seconds 301)]

/-- Where `lateRun` ends, watched. -/
def recoveredFleet : Watched Bool :=
  ((watchedSystem Bool).run ⟨fleetStart, fun _ => false⟩ lateRun).get (by decide)

/-- `worker-b` completes the recovered job under its own lease. -/
theorem ack_fenced_in_time_recovered :
    ∃ s', watchedNext recoveredFleet (.complete true none (seconds 302)) = some s' ∧
      AckFenced recoveredFleet.fleet (.complete true none (seconds 302)) s'.fleet ∧
      s'.fleet.jobs.get? "job-1" ≠ recoveredFleet.fleet.jobs.get? "job-1" := by
  have hrun : (watchedSystem Bool).run ⟨fleetStart, fun _ => false⟩ lateRun = some recoveredFleet :=
    (Option.some_get _).symm
  have hreach : ReachableBy (watchedSystem Bool) InTime recoveredFleet := by
    refine ReachableBy.of_run (.init ⟨⟨rfl, rfl⟩, rfl⟩) (fun op hop s w hack => ?_) hrun
    simp only [lateRun, List.mem_cons, List.not_mem_nil, or_false] at hop
    rcases hop with rfl | rfl | rfl <;> cases hack
  have htime : InTime recoveredFleet (.complete true none (seconds 302)) := by
    intro w hack
    cases hack
    rfl
  exact ⟨_, rfl, ack_fenced_in_time hreach htime rfl, by decide⟩

/-! ## Overtaken handlers -/

/-- Requeueing leaves no row running. -/
theorem requeueExpired_not_running (timestamp : Time) (job : BackgroundJob) :
    (requeueExpired timestamp job).status ≠ .running := by
  unfold requeueExpired; dsimp only; split <;> simp

/-- The condition is tight: once a requeue overtakes a handler, completing the
job rewrites a row that is not running any more. -/
theorem overtaken_ack_unfenced {s : Watched W} (h : HeldRow s) {w : W} {job : BackgroundJob}
    (hw : s.Holds w job) {leaseTimeout now : Time}
    (hexp : expired (now - leaseTimeout) job) (now' : Time) :
    ∃ s' s'', watchedNext s (.requeue leaseTimeout now) = some s' ∧ ¬InTime s' (.complete w none now') ∧
      watchedNext s' (.complete w none now') = some s'' ∧
      ¬AckFenced s'.fleet (.complete w none now') s''.fleet := by
  obtain ⟨f, late⟩ := s
  obtain ⟨hrun, hsession, hheld⟩ := h.row w job hw
  dsimp only at hsession hheld
  have hlease : f.lease w = some job := hw.2
  have hrow : (requeueExpiredJobs leaseTimeout now f.jobs).2.get? job.id =
      some (requeueExpired now job) := by
    rw [get?_requeueExpiredJobs, hheld, Option.map_some, if_pos hexp]
  -- the session still answers with the running job it loaded
  have hack : completeJob (f.session w) (requeueExpiredJobs leaseTimeout now f.jobs).2 job.id none
      now' = .ok (complete now' none job, (f.session w).hold (complete now' none job),
        flushRow (requeueExpiredJobs leaseTimeout now f.jobs).2 job (complete now' none job)) := by
    simp only [completeJob, jobOrRaise, hsession, bind_ok, hrun, validateResult]
    rfl
  have hfinds : f.finds leaseTimeout now w = true := by
    simp only [Fleet.finds, hlease, hheld, Option.map_some, Option.getD_some]
    exact hexp
  have hcomplete : fleetNext { f with jobs := (requeueExpiredJobs leaseTimeout now f.jobs).2 }
      (.complete w none now') = some (f.release w
        (flushRow (requeueExpiredJobs leaseTimeout now f.jobs).2 job (complete now' none job))) := by
    simp only [fleetNext, hlease, hack]
    rfl
  refine ⟨⟨{ f with jobs := (requeueExpiredJobs leaseTimeout now f.jobs).2 }, _⟩, ⟨_, _⟩, rfl,
    fun htime => ?_, watchedNext_eq_some.mpr ⟨hcomplete, rfl⟩, fun hfenced => ?_⟩
  · have hlate := (Bool.or_eq_false_iff.mp (htime w rfl)).2
    cases hfinds.symm.trans hlate
  obtain ⟨_, _, _, hstill, _⟩ := hfenced w rfl job.id _ hrow (by
    show (flushRow _ job (complete now' none job)).get? job.id ≠ _
    rw [get?_flushRow, hrow, Option.map_some, if_pos rfl]
    intro heq
    have hstatus := congrArg BackgroundJob.status (Option.some.inj heq)
    rw [show (flush job (complete now' none job) (requeueExpired now job)).status = .succeeded from
      column_of_ne _ (by rw [hrun]; simp [complete])] at hstatus
    unfold requeueExpired at hstatus
    dsimp only at hstatus
    split at hstatus <;> cases hstatus)
  exact requeueExpired_not_running now job hstill

/-- Where `lateRun` ends. -/
def lateFleet : Fleet Bool := ((fleetSystem Bool).run fleetStart lateRun).get (by decide)

/-- `worker-a` has not died but outlived its lease, and now completes the job: the row
running under the lease of `worker-b` becomes succeeded. -/
theorem late_ack_overwrites :
    Reachable (fleetSystem Bool) lateFleet ∧
    (lateFleet.jobs.get? "job-1").map (fun row => (row.status, row.lockedBy, row.attempts)) =
      some (.running, some "worker-b", 2) ∧
    (lateFleet.lease false).map (fun job => (job.lockedBy, job.attempts)) =
      some (some "worker-a", 1) ∧
    ∃ f', fleetNext lateFleet (.complete false none (seconds 302)) = some f' ∧
      (f'.jobs.get? "job-1").map (·.status) = some .succeeded ∧
      ¬AckFenced lateFleet (.complete false none (seconds 302)) f' := by
  have hrun : (fleetSystem Bool).run fleetStart lateRun = some lateFleet :=
    (Option.some_get _).symm
  refine ⟨Reachable.of_run (.init ⟨rfl, rfl⟩) hrun, by decide, by decide, _, rfl, by decide,
    fun hfenced => ?_⟩
  obtain ⟨job, hjob, -, -, hlocked, -⟩ := hfenced false rfl "job-1" _ rfl (by decide)
  cases hjob
  exact absurd hlocked (by decide)

end DeployGuard.Jobs
