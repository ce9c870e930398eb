import DeployGuard.Jobs.Queue
import DeployGuard.Lib.Transition

/-!
# The job state machine

Runs of the six queue operations on a table that starts empty, each in a session
of its own, in any order, with any clock values and arguments. A `log` of what
the calls did is carried along so that "claims since the enqueue or the last
replay" is a count over the run and not a column.

`Move` is the whole state machine, one constructor per assignment the operations
make to a stored row, with the count next to the row. `next_spec` says that a
step moves every stored row by a `Move` and inserts at most one row; every
result below is a fact about `Move` and about `newJob`, carried along runs:

> `job_state_machine`: in every reachable state every row is `WellFormed`, its
> attempts are its claims, its intent is the one it was inserted with, and
> enqueueing under a key that is taken returns the row that has it.
-/

namespace DeployGuard.Jobs

open Transition

/-! ## Runs of the queue -/

/-- What a call did to a job's attempt budget. -/
inductive QueueEvent where
  | enqueued (jobId : String)
  | claimed (jobId : String)
  | replayed (jobId : String)
  deriving DecidableEq

/-- The claims of a job since it was enqueued or last replayed; the log is
newest first. -/
def claimsSince (jobId : String) : List QueueEvent → Nat
  | [] => 0
  | .claimed id :: log => claimsSince jobId log + if id = jobId then 1 else 0
  | .enqueued id :: log => if id = jobId then 0 else claimsSince jobId log
  | .replayed id :: log => if id = jobId then 0 else claimsSince jobId log

/-- The table and what happened to it. -/
structure History where
  jobs : JobTable
  log : List QueueEvent
  deriving DecidableEq

/-- One call of a queue operation with everything it depends on. -/
inductive QueueOp where
  | enqueue (args : EnqueueArgs)
  | claim (workerId : String) (page : List BackgroundJob) (now : Time)
  | complete (jobId : String) (result : Option (List (String × Value))) (now : Time)
  | fail (jobId : String) (args : FailArgs) (now : Time)
  | requeue (leaseTimeout now : Time)
  | replay (jobId : String) (availableAt : Option Time) (now : Time)

/-- A call of an operation. One that raises leaves the table alone; a claim is
only defined on a page the candidate query can return. -/
def next (h : History) : QueueOp → Option History
  | .enqueue args =>
    match enqueueJob h.jobs args with
    | .ok (job, t) =>
      some ⟨t, if h.jobs.get? job.id = none then .enqueued job.id :: h.log else h.log⟩
    | .error _ => some h
  | .claim workerId page now =>
    if IsReadyPage now h.jobs page then
      match claimNextJob Session.fresh h.jobs page workerId now with
      | .ok (some job, _, t) => some ⟨t, .claimed job.id :: h.log⟩
      | .ok (none, _, t) => some ⟨t, h.log⟩
      | .error _ => some h
    else none
  | .complete jobId result now =>
    match completeJob Session.fresh h.jobs jobId result now with
    | .ok (_, _, t) => some ⟨t, h.log⟩
    | .error _ => some h
  | .fail jobId args now =>
    match failJob Session.fresh h.jobs jobId args now with
    | .ok (_, _, t) => some ⟨t, h.log⟩
    | .error _ => some h
  | .requeue leaseTimeout now => some ⟨(requeueExpiredJobs leaseTimeout now h.jobs).2, h.log⟩
  | .replay jobId availableAt now =>
    match replayDeadLetterJob Session.fresh h.jobs jobId availableAt now with
    | .ok (job, _, t) => some ⟨t, .replayed job.id :: h.log⟩
    | .error _ => some h

/-- The queue, from an empty table. -/
def queueSystem : System History QueueOp where
  init h := h = ⟨∅, []⟩
  next := next

/-! ## The moves of a row -/

/-- What one call can do to a stored row and to its claim count. -/
inductive Move : BackgroundJob → Nat → BackgroundJob → Nat → Prop
  | stay (row n) : Move row n row n
  | claim (row n) (timestamp : Time) (worker : String) :
      row.status = .queued → Move row n (claimed timestamp worker row) (n + 1)
  | requeue (row n) (timestamp : Time) :
      row.status = .running → Move row n (requeueExpired timestamp row) n
  | complete (row n) (timestamp : Time) (result : Option (List (String × Value))) :
      row.status = .running → Move row n (complete timestamp result row) n
  | fail (row n) (timestamp : Time) (args : FailArgs) :
      row.status = .running → Move row n (fail timestamp args row) n
  | replay (row n) (timestamp : Time) (availableAt : Option Time) :
      row.status = .failed ∨ row.status = .deadLetter →
      Move row n (replay timestamp availableAt row) 0

/-- What a row promises at every moment of its life. -/
structure WellFormed (row : BackgroundJob) : Prop where
  budget : 1 ≤ row.maxAttempts
  running_iff : row.status = .running ↔ row.lockedAt.isSome ∧ row.lockedBy.isSome
  completed_iff : row.completedAt.isSome ↔
    row.status = .succeeded ∨ row.status = .failed ∨ row.status = .deadLetter
  result_succeeded : row.result.isSome → row.status = .succeeded
  attempts_nonneg : 0 ≤ row.attempts
  attempts_le : row.attempts ≤ row.maxAttempts
  running_claimed : row.status = .running → 1 ≤ row.attempts
  queued_budget : row.status = .queued → row.attempts < row.maxAttempts

/-- The columns fixed at insertion. -/
structure SameIntent (row row' : BackgroundJob) : Prop where
  jobType : row'.jobType = row.jobType
  payload : row'.payload = row.payload
  idempotencyKey : row'.idempotencyKey = row.idempotencyKey
  maxAttempts : row'.maxAttempts = row.maxAttempts

theorem SameIntent.refl (row : BackgroundJob) : SameIntent row row := ⟨rfl, rfl, rfl, rfl⟩

theorem SameIntent.trans {r₁ r₂ r₃ : BackgroundJob} (h₁ : SameIntent r₁ r₂)
    (h₂ : SameIntent r₂ r₃) : SameIntent r₁ r₃ where
  jobType := h₂.jobType.trans h₁.jobType
  payload := h₂.payload.trans h₁.payload
  idempotencyKey := h₂.idempotencyKey.trans h₁.idempotencyKey
  maxAttempts := h₂.maxAttempts.trans h₁.maxAttempts

/-- No call touches the intent of a stored row. -/
theorem Move.sameIntent {row row' : BackgroundJob} {n n' : Nat} (h : Move row n row' n') :
    SameIntent row row' := by
  cases h with
  | stay => exact SameIntent.refl _
  | claim => exact ⟨rfl, rfl, rfl, rfl⟩
  | requeue => unfold requeueExpired; dsimp only; split <;> exact ⟨rfl, rfl, rfl, rfl⟩
  | complete => exact ⟨rfl, rfl, rfl, rfl⟩
  | fail =>
    unfold Jobs.fail; dsimp only
    split
    · exact ⟨rfl, rfl, rfl, rfl⟩
    · split <;> exact ⟨rfl, rfl, rfl, rfl⟩
  | replay => exact ⟨rfl, rfl, rfl, rfl⟩

/-- A row that is queued or running has neither a completion time nor a result. -/
theorem WellFormed.open_row {row : BackgroundJob} (h : WellFormed row)
    (hs : row.status = .queued ∨ row.status = .running) :
    row.completedAt = none ∧ row.result = none := by
  constructor
  · rw [← Option.not_isSome_iff_eq_none, h.completed_iff]
    rcases hs with hs | hs <;> simp [hs]
  · rw [← Option.not_isSome_iff_eq_none]
    intro hr
    rw [h.result_succeeded hr] at hs
    simp at hs

/-- Each transition restores the joint invariant, and the claim count with it. -/
theorem Move.wellFormed {row row' : BackgroundJob} {n n' : Nat} (h : Move row n row' n')
    (hw : WellFormed row) (hn : row.attempts = n) : WellFormed row' ∧ row'.attempts = n' := by
  have hb := hw.budget
  have h0 := hw.attempts_nonneg
  cases h with
  | stay => exact ⟨hw, hn⟩
  | claim timestamp worker hq =>
    obtain ⟨hc, hr⟩ := hw.open_row (.inl hq)
    have hlt := hw.queued_budget hq
    refine ⟨⟨hb, ?_, ?_, ?_, ?_, ?_, ?_, ?_⟩, ?_⟩ <;> simp [claimed, hc, hr] <;> omega
  | requeue timestamp hrun =>
    obtain ⟨hc, hr⟩ := hw.open_row (.inr hrun)
    have hle := hw.attempts_le
    unfold requeueExpired; dsimp only
    split
    · refine ⟨⟨hb, ?_, ?_, ?_, ?_, ?_, ?_, ?_⟩, hn⟩ <;> simp [hr] <;> omega
    · refine ⟨⟨hb, ?_, ?_, ?_, ?_, ?_, ?_, ?_⟩, hn⟩ <;> simp [hc, hr] <;> omega
  | complete timestamp result hrun =>
    have hle := hw.attempts_le
    refine ⟨⟨hb, ?_, ?_, ?_, ?_, ?_, ?_, ?_⟩, hn⟩ <;> simp [Jobs.complete] <;> omega
  | fail timestamp args hrun =>
    obtain ⟨hc, hr⟩ := hw.open_row (.inr hrun)
    have hle := hw.attempts_le
    unfold Jobs.fail; dsimp only
    split
    · next hretry => refine ⟨⟨hb, ?_, ?_, ?_, ?_, ?_, ?_, ?_⟩, hn⟩ <;> simp [hc, hr] <;> omega
    · split
      · refine ⟨⟨hb, ?_, ?_, ?_, ?_, ?_, ?_, ?_⟩, hn⟩ <;> simp [hr] <;> omega
      · refine ⟨⟨hb, ?_, ?_, ?_, ?_, ?_, ?_, ?_⟩, hn⟩ <;> simp [hr] <;> omega
  | replay timestamp availableAt hdead =>
    refine ⟨⟨hb, ?_, ?_, ?_, ?_, ?_, ?_, ?_⟩, ?_⟩ <;> simp [Jobs.replay] <;> omega

/-- A new row starts well formed, with no claims. -/
theorem newJob_wellFormed {a : EnqueueArgs} {jobType : String} {key : Option String}
    {items : List (String × Value)} (hmax : 1 ≤ a.maxAttempts) :
    WellFormed (newJob a jobType key items) := by
  refine ⟨hmax, ?_, ?_, ?_, ?_, ?_, ?_, ?_⟩ <;> simp [newJob] <;> omega

/-! ## What a step can do -/

/-- A step moves every stored row by a `Move`; a row that appears is a new job
under a key nobody had, and at most one appears. -/
structure StepSpec (h h' : History) : Prop where
  kept : ∀ k row, h.jobs.get? k = some row → ∃ row', h'.jobs.get? k = some row' ∧
    Move row (claimsSince k h.log) row' (claimsSince k h'.log)
  fresh : ∀ k row', h.jobs.get? k = none → h'.jobs.get? k = some row' →
    claimsSince k h'.log = 0 ∧ ∃ a jobType key items,
      validateEnqueue a = .ok (jobType, key, items) ∧ row' = newJob a jobType key items ∧
      key.bind (findByKey h.jobs) = none
  one : ∀ k k' row row', h.jobs.get? k = none → h'.jobs.get? k = some row →
    h.jobs.get? k' = none → h'.jobs.get? k' = some row' → k = k'

/-- A step that neither inserts nor counts for other jobs, by what it does to
each stored row. -/
theorem StepSpec.of_kept {h h' : History}
    (hnone : ∀ k, h.jobs.get? k = none → h'.jobs.get? k = none)
    (hkept : ∀ k row, h.jobs.get? k = some row → ∃ row', h'.jobs.get? k = some row' ∧
      Move row (claimsSince k h.log) row' (claimsSince k h'.log)) : StepSpec h h' where
  kept := hkept
  fresh k row' h0 h1 := by rw [hnone k h0] at h1; cases h1
  one k k' row row' h0 h1 _ _ := by rw [hnone k h0] at h1; cases h1

theorem StepSpec.refl (h : History) : StepSpec h h :=
  .of_kept (fun _ h0 => h0) fun _ row h0 => ⟨row, h0, .stay ..⟩

/-- A write of one stored row that moves it, with the log entry that goes with it. -/
theorem StepSpec.of_write {h h' : History} {id : String} {row row' : BackgroundJob}
    (hrow : h.jobs.get? id = some row)
    (hget : ∀ k, h'.jobs.get? k = if k = id then some row' else h.jobs.get? k)
    (hother : ∀ k, k ≠ id → claimsSince k h'.log = claimsSince k h.log)
    (hmove : Move row (claimsSince id h.log) row' (claimsSince id h'.log)) : StepSpec h h' := by
  refine .of_kept (fun k h0 => ?_) fun k row₀ h0 => ?_
  · rw [hget, if_neg]
    · exact h0
    · intro h
      obtain rfl := h
      rw [hrow] at h0
      cases h0
  · by_cases hk : k = id
    · subst hk
      rw [hrow] at h0
      cases h0
      exact ⟨row', by rw [hget, if_pos rfl], hmove⟩
    · exact ⟨row₀, by rw [hget, if_neg hk, h0], by rw [hother k hk]; exact .stay ..⟩

/-- Everything a call can do, in one statement. -/
theorem next_spec {h h' : History} {op : QueueOp} (hn : next h op = some h') : StepSpec h h' := by
  cases op with
  | enqueue args =>
    simp only [next] at hn
    split at hn
    · next job t henq =>
      cases hn
      obtain ⟨jobType, key, items, hv, ⟨rfl, hfound⟩ | ⟨rfl, hnone, hinsert⟩⟩ := enqueueJob_ok henq
      · -- a duplicate intent: the row was there, so nothing is logged either
        obtain ⟨key', -, hkey⟩ := Option.bind_eq_some_iff.mp hfound
        have hstored : h.jobs.get? job.id ≠ none := by
          rw [Table.get?_of_mem (findByKey_some hkey).1]; simp
        rw [if_neg hstored]
        exact .refl h
      · have habsent := (Table.insert_eq_some hinsert).1
        have hget := Table.get?_insert hinsert
        rw [if_pos habsent]
        have hid : (newJob args jobType key items).id = args.newId := rfl
        rw [hid] at habsent hget ⊢
        have hnew : ∀ k row', h.jobs.get? k = none → t.get? k = some row' →
            k = args.newId ∧ row' = newJob args jobType key items := by
          intro k row' h0 h1
          rw [hget] at h1
          split at h1
          · next hk => cases h1; exact ⟨hk.symm, rfl⟩
          · rw [h0] at h1; cases h1
        refine ⟨fun k row h0 => ⟨row, ?_, ?_⟩, fun k row' h0 h1 => ?_,
          fun k k' row row' h0 h1 h0' h1' => ?_⟩
        · rw [hget, if_neg]
          · exact h0
          · intro h
            obtain rfl := h
            rw [habsent] at h0
            cases h0
        · have hk : args.newId ≠ k := by
            intro h
            obtain rfl := h
            rw [habsent] at h0
            cases h0
          rw [claimsSince, if_neg hk]
          exact .stay ..
        · obtain ⟨rfl, rfl⟩ := hnew k row' h0 h1
          exact ⟨by rw [claimsSince, if_pos rfl], args, jobType, key, items, hv, rfl, hnone⟩
        · rw [(hnew k row h0 h1).1, (hnew k' row' h0' h1').1]
    · cases hn; exact .refl h
  | claim workerId page now =>
    simp only [next] at hn
    split at hn
    · split at hn
      · next job s t hclaim =>
        cases hn
        rcases claimNextJob_ok hclaim with ⟨hjob, -⟩ | ⟨worker, row, -, hrow, hready, hjob, -, hget⟩
        · cases hjob
        · cases hjob
          refine .of_write hrow hget (fun k hk => ?_) ?_
          · rw [claimsSince, if_neg (by exact fun h => hk h.symm), Nat.add_zero]
          · rw [claimsSince, if_pos (by exact rfl)]
            exact .claim _ _ _ _ (ready_iff.mp hready).1
      · next s t hclaim =>
        cases hn
        rcases claimNextJob_ok hclaim with ⟨-, -, rfl⟩ | ⟨_, _, _, _, _, hjob, _⟩
        · exact .refl h
        · cases hjob
      · cases hn; exact .refl h
    · cases hn
  | complete jobId result now =>
    simp only [next] at hn
    split at hn
    · next done s t hdone =>
      cases hn
      obtain ⟨job, hjob, hrun, rfl, -, rfl⟩ := completeJob_ok hdone
      have hrow := jobOrRaise_fresh hjob
      exact .of_write hrow (get?_flushRow_fresh hrow rfl) (fun _ _ => rfl)
        (.complete _ _ _ _ hrun)
    · cases hn; exact .refl h
  | fail jobId args now =>
    simp only [next] at hn
    split at hn
    · next failed s t hfail =>
      cases hn
      obtain ⟨job, hjob, hrun, rfl, -, rfl⟩ := failJob_ok hfail
      have hrow := jobOrRaise_fresh hjob
      have hid : (fail now args job).id = job.id := by
        unfold fail; dsimp only
        split
        · rfl
        · split <;> rfl
      exact .of_write hrow (get?_flushRow_fresh hrow hid) (fun _ _ => rfl)
        (.fail _ _ _ _ hrun)
    · cases hn; exact .refl h
  | requeue leaseTimeout now =>
    cases hn
    have hget := get?_requeueExpiredJobs leaseTimeout now h.jobs
    refine .of_kept (fun k h0 => ?_) fun k row h0 => ?_
    · rw [hget, h0]; rfl
    · refine ⟨_, by rw [hget, h0]; rfl, ?_⟩
      dsimp only
      split
      · next hexp =>
        refine .requeue _ _ _ ?_
        simp only [expired, Bool.and_eq_true, beq_iff_eq] at hexp
        exact hexp.1
      · exact .stay ..
  | replay jobId availableAt now =>
    simp only [next] at hn
    split at hn
    · next replayed s t hreplay =>
      cases hn
      obtain ⟨job, hjob, hdead, rfl, -, rfl⟩ := replayDeadLetterJob_ok hreplay
      have hrow := jobOrRaise_fresh hjob
      have hid : (replay now availableAt job).id = jobId := by
        rw [← Table.key_of_get? hrow]; rfl
      refine .of_write hrow (get?_flushRow_fresh hrow rfl) (fun k hk => ?_) ?_
      · rw [hid, claimsSince, if_neg fun h => hk h.symm]
      · rw [hid, claimsSince, if_pos rfl]
        exact .replay _ _ _ _ hdead
    · cases hn; exact .refl h

/-! ## The invariant of a run -/

/-- Every row is well formed with its attempts counted, and no two rows share an
idempotency key. -/
structure Inv (h : History) : Prop where
  rows : ∀ k row, h.jobs.get? k = some row →
    WellFormed row ∧ row.attempts = claimsSince k h.log
  keys : ∀ k k' row row' key, h.jobs.get? k = some row → h.jobs.get? k' = some row' →
    row.idempotencyKey = some key → row'.idempotencyKey = some key → k = k'

theorem Inv.step {h h' : History} (hi : Inv h) (hs : StepSpec h h') : Inv h' := by
  have hrows : ∀ k row', h'.jobs.get? k = some row' →
      WellFormed row' ∧ row'.attempts = claimsSince k h'.log := by
    intro k row' h1
    cases h0 : h.jobs.get? k with
    | none =>
      obtain ⟨hc, a, jobType, key, items, hv, rfl, -⟩ := hs.fresh k row' h0 h1
      exact ⟨newJob_wellFormed (validateEnqueue_ok hv), by rw [hc]; rfl⟩
    | some row =>
      obtain ⟨row₁, hrow₁, hmove⟩ := hs.kept k row h0
      rw [hrow₁] at h1
      cases h1
      obtain ⟨hw, hn⟩ := hi.rows k row h0
      exact hmove.wellFormed hw hn
  -- a stored row keeps its key; a new row's key was free among the stored ones
  have hold : ∀ k row row', h.jobs.get? k = some row → h'.jobs.get? k = some row' →
      row'.idempotencyKey = row.idempotencyKey := by
    intro k row row' h0 h1
    obtain ⟨row₁, hrow₁, hmove⟩ := hs.kept k row h0
    rw [hrow₁] at h1
    cases h1
    exact hmove.sameIntent.idempotencyKey
  have hfree : ∀ k k' row row' key, h.jobs.get? k = some row → h.jobs.get? k' = none →
      h'.jobs.get? k' = some row' → row.idempotencyKey = some key →
      row'.idempotencyKey ≠ some key := by
    intro k k' row row' key h0 h0' h1' hkey hkey'
    obtain ⟨-, a, jobType, akey, items, -, rfl, hnone⟩ := hs.fresh k' row' h0' h1'
    rw [show (newJob a jobType akey items).idempotencyKey = akey from rfl] at hkey'
    rw [hkey'] at hnone
    exact findByKey_none hnone row (Table.mem_of_get? h0) hkey
  refine ⟨hrows, ?_⟩
  intro k k' row row' key h1 h1' hkey hkey'
  cases h0 : h.jobs.get? k with
  | none =>
    cases h0' : h.jobs.get? k' with
    | none => exact hs.one k k' row row' h0 h1 h0' h1'
    | some old' =>
      rw [hold k' old' row' h0' h1'] at hkey'
      exact absurd hkey (hfree k' k old' row key h0' h0 h1 hkey')
  | some old =>
    rw [hold k old row h0 h1] at hkey
    cases h0' : h.jobs.get? k' with
    | none => exact absurd hkey' (hfree k k' old row' key h0 h0' h1' hkey)
    | some old' =>
      rw [hold k' old' row' h0' h1'] at hkey'
      exact hi.keys k k' old old' key h0 h0' hkey hkey'

theorem queueSystem_inv : Invariant queueSystem (fun _ _ => True) Inv where
  init h h0 := by
    cases h0
    exact ⟨fun k row h => by simp at h, fun k k' row row' key h => by simp at h⟩
  step _ _ _ hi _ hn := hi.step (next_spec hn)

/-- Along a run, every row stays in the table with the intent it has. -/
theorem run_sameIntent {h h' : History} {ops : List QueueOp}
    (hrun : queueSystem.run h ops = some h') :
    ∀ k row, h.jobs.get? k = some row →
      ∃ row', h'.jobs.get? k = some row' ∧ SameIntent row row' := by
  refine System.run_induction (S := queueSystem)
    (R := fun h h' => ∀ k row, h.jobs.get? k = some row →
      ∃ row', h'.jobs.get? k = some row' ∧ SameIntent row row') ?_ ?_ hrun
  · exact fun _ _ row h0 => ⟨row, h0, .refl row⟩
  · intro h₁ h₂ op h₃ hR hn k row h0
    obtain ⟨row₂, h2, hsame⟩ := hR k row h0
    obtain ⟨row₃, h3, hmove⟩ := (next_spec hn).kept k row₂ h2
    exact ⟨row₃, h3, hsame.trans hmove.sameIntent⟩

/-- Enqueueing under a key some row carries returns that row and leaves the
table alone. -/
theorem enqueueJob_duplicate {h : History} (hi : Inv h) {a : EnqueueArgs} {jobType key : String}
    {items : List (String × Value)} (hv : validateEnqueue a = .ok (jobType, some key, items))
    {row : BackgroundJob} (hrow : row ∈ h.jobs.rows) (hkey : row.idempotencyKey = some key) :
    enqueueJob h.jobs a = .ok (row, h.jobs) := by
  have hfound : findByKey h.jobs key = some row := by
    cases hf : findByKey h.jobs key with
    | none => exact absurd hkey (findByKey_none hf row hrow)
    | some other =>
      obtain ⟨hmem, hkey'⟩ := findByKey_some hf
      have hid := hi.keys _ _ _ _ key (Table.get?_of_mem hmem) (Table.get?_of_mem hrow) hkey' hkey
      rw [h.jobs.eq_of_key_eq hmem hrow hid]
  simp only [enqueueJob, hv, Raise.bind_ok, Option.bind_some, hfound]
  rfl

/-- **The job state machine.** In every state a run of the queue operations
reaches from the empty table: every row is well formed; its attempts are its
successful claims since it was enqueued or last replayed, so those never exceed
its budget; whatever the run does next, the row keeps its type, payload,
idempotency key and budget; and enqueueing under its key returns it and changes
nothing. -/
theorem job_state_machine {ops : List QueueOp} {h : History}
    (hrun : queueSystem.run ⟨∅, []⟩ ops = some h) :
    (∀ row ∈ h.jobs.rows, WellFormed row ∧ row.attempts = claimsSince row.id h.log ∧
      (claimsSince row.id h.log : Int) ≤ row.maxAttempts) ∧
    (∀ ops' h', queueSystem.run h ops' = some h' → ∀ row ∈ h.jobs.rows,
      ∃ row' ∈ h'.jobs.rows, row'.id = row.id ∧ SameIntent row row') ∧
    (∀ a jobType key items, validateEnqueue a = .ok (jobType, some key, items) →
      ∀ row ∈ h.jobs.rows, row.idempotencyKey = some key →
        enqueueJob h.jobs a = .ok (row, h.jobs)) := by
  have hi : Inv h := queueSystem_inv.reachable (Reachable.of_run (.init rfl) hrun)
  refine ⟨fun row hrow => ?_, fun ops' h' hrun' row hrow => ?_,
    fun a jobType key items hv row hrow hkey => enqueueJob_duplicate hi hv hrow hkey⟩
  · obtain ⟨hw, hn⟩ := hi.rows row.id row (Table.get?_of_mem hrow)
    exact ⟨hw, hn, hn ▸ hw.attempts_le⟩
  · obtain ⟨row', hrow', hsame⟩ := run_sameIntent hrun' row.id row (Table.get?_of_mem hrow)
    exact ⟨row', Table.mem_of_get? hrow', Table.key_of_get? hrow', hsame⟩

/-- A job enqueued, claimed, failed, claimed again and completed. -/
def retriedRun : List QueueOp :=
  let args : EnqueueArgs :=
    { jobType := "github.check.publish", payload := .dict [("change_id", .str "chg-1")],
      idempotencyKey := some " chg-1 ", maxAttempts := 2, newId := "job-1", now := 0 }
  let job := newJob args "github.check.publish" (some "chg-1") [("change_id", .str "chg-1")]
  let error : FailArgs := { error := "timeout" }
  [.enqueue args, .claim "worker-a" [job] 10, .fail "job-1" error 20,
    .claim "worker-b" [fail 20 error (claimed 10 "worker-a" job)] 60000000,
    .complete "job-1" (some []) 60000001]

theorem job_state_machine_retriedRun :
    ∃ h, queueSystem.run ⟨∅, []⟩ retriedRun = some h ∧ h.jobs.rows.length = 1 ∧
      (∀ row ∈ h.jobs.rows, WellFormed row ∧ row.attempts = claimsSince row.id h.log ∧
        (claimsSince row.id h.log : Int) ≤ row.maxAttempts) := by
  have hlen : (queueSystem.run ⟨∅, []⟩ retriedRun).map (·.jobs.rows.length) = some 1 := by decide
  obtain ⟨h, hrun, hlen⟩ := Option.map_eq_some_iff.mp hlen
  exact ⟨h, hrun, hlen, (job_state_machine hrun).1⟩

end DeployGuard.Jobs
