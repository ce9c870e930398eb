import DeployGuard.Service.Mailing

/-!
# An invitation is mailed once

The queue gives the job of an invitation one attempt, and the handler records a delivery
before it contacts the server. Neither is enough alone: between the lookup and the record
a second execution of the same job would find no delivery either. `Calm` is the condition
that closes the gap: a job is not replayed while a worker is between its claim and its
record.

The workers that are there are early ones, of which no two have the same job, and critical
ones, of which no two have the same invitation (`Orderly`). What a statement of one worker
does to the others' knowledge goes through `StageKnown.jobs` and `StageKnown.mail`.

> `mailed_once`: in a calm run one message at most is handed over for an invitation, the
> invitation holds the digest of its token, and a job that succeeded has mailed it.
-/

namespace DeployGuard.Service

open Interleaving Raise Transition
open Jobs (BackgroundJob JobTable JobStatus EnqueueArgs FailArgs)

variable {W : Type} [DecidableEq W]

/-! ## Calm runs -/

/-- The job of a worker that has claimed it and recorded nothing yet. -/
def CourierStage.early : CourierStage → Option BackgroundJob
  | .claimed job _ => some job
  | .looking e | .unrecorded e => some e.job
  | _ => none

/-- A job is not replayed while a worker is between its claim and its record, and the
identifier drawn for an invitation has no blanks around it. -/
def Calm (r : PostOffice W) : PostAction W → Prop
  | .replay jobId _ _ => ∀ w job, (r.stage w).early = some job → job.id ≠ jobId
  | .invite q => Text.strip q.create.newId = q.create.newId
  | _ => True

/-! ## The invariant -/

/-- The job delivers an invitation email. -/
def IsMail (job : BackgroundJob) : Prop := job.jobType = invitationEmailDeliverJob

/-- What a stored job of the kind promises. -/
structure MailRow (w : MailWorld) (row : BackgroundJob) : Prop where
  budget : row.maxAttempts = 1
  nonneg : 0 ≤ row.attempts
  running : row.status = .running → 1 ≤ row.attempts
  addressee : ∃ id, deliverPayload row.payload = some id ∧
    (w.database.invitations.get? id).isSome ∧ (row.status = .succeeded → messagesFor w id ≠ [])

/-- No two jobs of the kind are for the same invitation. -/
def OneJobEach (t : JobTable) : Prop :=
  ∀ row ∈ t.rows, ∀ row' ∈ t.rows, IsMail row → IsMail row' →
    deliverPayload row.payload = deliverPayload row'.payload → row = row'

/-- A delivery that counts as sent has a message. -/
def SentRows (w : MailWorld) : Prop :=
  ∀ row ∈ w.database.invitationDeliveries.rows, row.status = "sent" →
    messagesFor w row.invitationId ≠ []

/-- A claimed job: its row is there with its type and payload. -/
structure Held (t : JobTable) (job : BackgroundJob) : Prop where
  running : job.status = .running
  lease : IsMail job → job.maxAttempts = 1 ∧ 1 ≤ job.attempts
  stored : ∃ row, t.get? job.id = some row ∧ row.jobType = job.jobType ∧ row.payload = job.payload

/-- The row of the job is not in the queue. -/
def Unqueued (t : JobTable) (job : BackgroundJob) : Prop :=
  ∀ row, t.get? job.id = some row → row.status ≠ .queued

namespace Errand

/-- The errand is for the invitation its job names. -/
def Addressed (e : Errand) : Prop :=
  IsMail e.job ∧ deliverPayload e.job.payload = some e.invitation.id

/-- The invitation has the digest it was loaded with. -/
def Loaded (e : Errand) (w : MailWorld) : Prop :=
  ∃ row, w.database.invitations.get? e.invitation.id = some row ∧
    row.tokenHash = e.invitation.tokenHash

/-- The delivery of this execution is recorded, for its invitation. -/
def OwnRow (e : Errand) (w : MailWorld) : Prop :=
  ∃ row, w.database.invitationDeliveries.get? e.attempt.newId = some row ∧
    row.invitationId = e.invitation.id

end Errand

/-- What holds of a worker at a stage. -/
def StageKnown (host : TokenHost) (p : Post) : CourierStage → Prop
  | .idle => True
  | .claimed job _ => Held p.jobs job ∧ Unqueued p.jobs job ∧ IsMail job
  | .looking e => Held p.jobs e.job ∧ Unqueued p.jobs e.job ∧ e.Addressed ∧ e.Loaded p.mail
  | .unrecorded e => Held p.jobs e.job ∧ Unqueued p.jobs e.job ∧ e.Addressed ∧ e.Loaded p.mail ∧
      messagesFor p.mail e.invitation.id = []
  | .recorded e => Held p.jobs e.job ∧ e.Addressed ∧ e.OwnRow p.mail ∧
      Begun host p.mail e.invitation.id e.claimToken
  | .answered e status _ => Held p.jobs e.job ∧ e.Addressed ∧ e.OwnRow p.mail ∧
      (status = "sent" → messagesFor p.mail e.invitation.id ≠ [])
  | .ended job outcome => Held p.jobs job ∧ (IsMail job → ∀ result, outcome = .ok result →
      ∃ id, deliverPayload job.payload = some id ∧ messagesFor p.mail id ≠ [])

namespace CourierStage

/-- The invitation whose digest the execution relies on. -/
def relies : CourierStage → Option String
  | .looking e | .unrecorded e | .recorded e => some e.invitation.id
  | _ => none

/-- The invitation of an execution between its lookup and its message. -/
def critical : CourierStage → Option String
  | .unrecorded e | .recorded e => some e.invitation.id
  | _ => none

end CourierStage

/-- The invariant of the office. -/
structure Orderly (host : TokenHost) (r : PostOffice W) : Prop where
  posted : Posted host r.store.mail
  rows : ∀ row ∈ r.store.jobs.rows, IsMail row → MailRow r.store.mail row
  one : OneJobEach r.store.jobs
  sent : SentRows r.store.mail
  stages : ∀ w, StageKnown host r.store (r.stage w)
  early : ∀ w w' job job', (r.stage w).early = some job → (r.stage w').early = some job' →
    job.id = job'.id → w = w'
  critical : ∀ w w' id, (r.stage w).critical = some id → (r.stage w').critical = some id → w = w'

/-! ## Steps of the queue -/

section Queue

variable {host : TokenHost} {t t' : JobTable} {w w' : MailWorld} {p : Post} {stage : CourierStage}
  {job row row' : BackgroundJob}

/-- Every row stays, with its intent. -/
def RowsKept (t t' : JobTable) : Prop :=
  ∀ k row, t.get? k = some row → ∃ row', t'.get? k = some row' ∧ Jobs.SameIntent row row'

/-- A job stays held while its row is kept. -/
theorem Held.mono (h : Held t job) (hkept : RowsKept t t') : Held t' job := by
  obtain ⟨row, hrow, htype, hpayload⟩ := h.stored
  obtain ⟨row', hrow', hintent⟩ := hkept job.id row hrow
  exact ⟨h.running, h.lease, row', hrow', hintent.jobType.trans htype,
    hintent.payload.trans hpayload⟩

/-- What is known at a stage stays known while the jobs keep their intent, where no job
that is held early returns to the queue. -/
theorem StageKnown.jobs (h : StageKnown host p stage) (hkept : RowsKept p.jobs t')
    (hearly : ∀ job, stage.early = some job → Unqueued t' job) :
    StageKnown host { p with jobs := t' } stage := by
  cases stage with
  | idle => trivial
  | claimed job x => exact ⟨h.1.mono hkept, hearly job rfl, h.2.2⟩
  | looking e => exact ⟨h.1.mono hkept, hearly e.job rfl, h.2.2⟩
  | unrecorded e => exact ⟨h.1.mono hkept, hearly e.job rfl, h.2.2⟩
  | recorded e => exact ⟨h.1.mono hkept, h.2⟩
  | answered e status errorCode => exact ⟨h.1.mono hkept, h.2⟩
  | ended job outcome => exact ⟨h.1.mono hkept, h.2⟩

/-- The job of an early stage is held, out of the queue and of the mail type. -/
theorem StageKnown.unqueued (h : StageKnown host p stage) (hjob : stage.early = some job) :
    Held p.jobs job ∧ Unqueued p.jobs job ∧ IsMail job := by
  cases stage with
  | claimed job x =>
    cases hjob
    exact h
  | looking e =>
    cases hjob
    exact ⟨h.1, h.2.1, h.2.2.1.1⟩
  | unrecorded e =>
    cases hjob
    exact ⟨h.1, h.2.1, h.2.2.1.1⟩
  | _ => cases hjob

/-- One job for each invitation remains so while no job is added. -/
theorem OneJobEach.mono (h : OneJobEach t) (hsame : Jobs.SameJobs t t') : OneJobEach t' := by
  intro row₁ h₁ row₂ h₂ hmail₁ hmail₂ hpayload
  obtain ⟨old₁, hold₁, hsame₁⟩ := hsame.back row₁.id row₁ (Table.get?_of_mem h₁)
  obtain ⟨old₂, hold₂, hsame₂⟩ := hsame.back row₂.id row₂ (Table.get?_of_mem h₂)
  rw [hsame₁.payload, hsame₂.payload] at hpayload
  have hold := h old₁ (Table.mem_of_get? hold₁) old₂ (Table.mem_of_get? hold₂)
    (hsame₁.jobType.symm.trans hmail₁) (hsame₂.jobType.symm.trans hmail₂) hpayload
  refine t'.eq_of_key_eq h₁ h₂ ?_
  rw [← Table.key_of_get? hold₁, ← Table.key_of_get? hold₂, hold]

/-- A step of the queue that is no enqueue, by what it does to each stored row: rows of
the kind keep what they promise, and a row comes back to the queue only if it is exempt. -/
structure QueueStep (w : MailWorld) (t t' : JobTable) (exempt : String → Prop) : Prop where
  same : Jobs.SameJobs t t'
  rows : ∀ k row row', t.get? k = some row → t'.get? k = some row' → IsMail row →
    MailRow w row → MailRow w row' ∧ (row'.status = .queued → row.status = .queued ∨ exempt k)

/-- A step of the queue leaves the mail rows well formed. -/
theorem QueueStep.mailRows {exempt : String → Prop} (h : QueueStep w t t' exempt)
    (hrows : ∀ row ∈ t.rows, IsMail row → MailRow w row) :
    ∀ row ∈ t'.rows, IsMail row → MailRow w row := by
  intro row' hrow' hmail
  obtain ⟨row, hrow, hintent⟩ := h.same.back row'.id row' (Table.get?_of_mem hrow')
  have hmail : IsMail row := hintent.jobType.symm.trans hmail
  exact (h.rows _ row row' hrow (Table.get?_of_mem hrow') hmail
    (hrows row (Table.mem_of_get? hrow) hmail)).1

/-- A held job is not queued again, unless it is the one the step exempts. -/
theorem QueueStep.unqueued {exempt : String → Prop} (h : QueueStep w t t' exempt)
    (hrows : ∀ row ∈ t.rows, IsMail row → MailRow w row) (hheld : Held t job)
    (hmail : IsMail job) (hunqueued : Unqueued t job) (hexempt : ¬exempt job.id) :
    Unqueued t' job := by
  intro row' hrow' hqueued
  obtain ⟨row, hrow, htype, -⟩ := hheld.stored
  have hrowMail : IsMail row := htype.trans hmail
  rcases (h.rows _ row row' hrow hrow' hrowMail (hrows row (Table.mem_of_get? hrow) hrowMail)).2
    hqueued with hqueued | hfree
  · exact hunqueued row hrow hqueued
  · exact hexempt hfree

/-- A step that rewrites rows in place. -/
theorem QueueStep.of_map {exempt : String → Prop} {f : String → BackgroundJob → BackgroundJob}
    (hget : ∀ k, t'.get? k = (t.get? k).map (f k))
    (hintent : ∀ k row, t.get? k = some row → Jobs.SameIntent row (f k row))
    (hmail : ∀ k row, t.get? k = some row → IsMail row → MailRow w row →
      MailRow w (f k row) ∧ ((f k row).status = .queued → row.status = .queued ∨ exempt k)) :
    QueueStep w t t' exempt := by
  refine ⟨⟨fun k row hrow => ?_, fun k row' hrow' => ?_⟩, fun k row row' hrow hrow' hisMail hrowOk => ?_⟩
  · exact ⟨f k row, by rw [hget, hrow, Option.map_some], hintent k row hrow⟩
  · rw [hget] at hrow'
    obtain ⟨row, hrow, rfl⟩ := Option.map_eq_some_iff.mp hrow'
    exact ⟨row, hrow, hintent k row hrow⟩
  · rw [hget, hrow, Option.map_some] at hrow'
    obtain rfl := Option.some.inj hrow'
    exact hmail k row hrow hisMail hrowOk

/-- Nothing happening is a step of the queue. -/
theorem QueueStep.refl : QueueStep w t t fun _ => False :=
  .of_map (f := fun _ row => row) (fun k => by simp) (fun _ row _ => .refl row)
    fun _ _ _ _ h => ⟨h, fun hqueued => Or.inl hqueued⟩

/-- A row that changes neither its budget nor its count, and is not made to succeed. -/
theorem MailRow.of_columns (h : MailRow w row) (hpayload : row'.payload = row.payload)
    (hbudget : row'.maxAttempts = row.maxAttempts) (hattempts : row'.attempts = row.attempts)
    (hrunning : row'.status ≠ .running)
    (hsucceeded : row'.status = .succeeded → ∀ id, deliverPayload row.payload = some id →
      messagesFor w id ≠ []) : MailRow w row' := by
  obtain ⟨id, hid, hstored, -⟩ := h.addressee
  refine ⟨hbudget.trans h.budget, hattempts ▸ h.nonneg, fun hrun => absurd hrun hrunning, id, ?_,
    hstored, fun hdone => hsucceeded hdone id hid⟩
  rw [hpayload, hid]

/-- A claim takes a queued row, and is otherwise a step that exempts nobody. -/
theorem claim_step {workerId : String} {page : List BackgroundJob} {now : Time}
    {s : Jobs.Session} (h : Jobs.claimNextJob .fresh t page workerId now = .ok (some job, s, t')) :
    ∃ worker row, t.get? row.id = some row ∧ row.status = .queued ∧
      job = Jobs.claimed now worker row ∧ QueueStep w t t' fun _ => False := by
  rcases Jobs.claimNextJob_ok h with ⟨hnone, -⟩ | ⟨worker, row, -, hrow, hready, hjob, -, hget⟩
  · cases hnone
  · refine ⟨worker, row, hrow, (Jobs.ready_iff.mp hready).1, Option.some.inj hjob, ?_⟩
    refine .of_map (f := fun k row₀ => if k = row.id then Jobs.claimed now worker row₀ else row₀)
      (fun k => ?_) (fun k row₀ _ => ?_) fun k row₀ hrow₀ _ hok => ?_
    · rw [hget]
      by_cases hk : k = row.id
      · subst hk
        rw [if_pos rfl, hrow, Option.map_some, if_pos rfl]
      · simp [hk]
    · split
      · exact ⟨rfl, rfl, rfl, rfl⟩
      · exact .refl row₀
    · split
      · obtain ⟨id, hid, hstored, -⟩ := hok.addressee
        have hnonneg := hok.nonneg
        refine ⟨⟨hok.budget, ?_, fun _ => ?_, id, hid, hstored, fun hdone => ?_⟩, fun hqueued => ?_⟩
        · simp only [Jobs.claimed]
          omega
        · simp only [Jobs.claimed]
          omega
        · cases hdone
        · cases hqueued
      · exact ⟨hok, fun hqueued => Or.inl hqueued⟩

/-- A lease that runs out ends a job of one attempt. -/
theorem requeue_step (leaseTimeout now : Time) :
    QueueStep w t (Jobs.requeueExpiredJobs leaseTimeout now t).2 fun _ => False := by
  refine .of_map (f := fun _ row =>
    if Jobs.expired (now - leaseTimeout) row then Jobs.requeueExpired now row else row)
    (fun k => Jobs.get?_requeueExpiredJobs leaseTimeout now t k) (fun k row _ => ?_)
    fun k row _ _ hok => ?_
  · split
    · unfold Jobs.requeueExpired
      dsimp only
      split <;> exact ⟨rfl, rfl, rfl, rfl⟩
    · exact .refl row
  · split
    · next hexpired =>
      have hrun : row.status = .running := by
        simp only [Jobs.expired, Bool.and_eq_true, beq_iff_eq] at hexpired
        exact hexpired.1
      have hspent : row.attempts ≥ row.maxAttempts := by
        rw [hok.budget]
        exact hok.running hrun
      unfold Jobs.requeueExpired
      dsimp only
      rw [if_pos hspent]
      exact ⟨hok.of_columns rfl rfl rfl (by simp) (by simp), by simp⟩
    · exact ⟨hok, fun hqueued => Or.inl hqueued⟩

/-- A replay exempts the one job it queues again. -/
theorem replay_step {jobId : String} {availableAt : Option Time} {now : Time} {s : Jobs.Session}
    (h : Jobs.replayDeadLetterJob .fresh t jobId availableAt now = .ok (job, s, t')) :
    QueueStep w t t' fun k => k = jobId := by
  obtain ⟨found, hfound, -, rfl, -, rfl⟩ := Jobs.replayDeadLetterJob_ok h
  have hrow := Jobs.jobOrRaise_fresh hfound
  refine .of_map (f := fun k row => if k = jobId then Jobs.replay now availableAt row else row)
    (fun k => ?_) (fun k row _ => ?_) fun k row _ _ hok => ?_
  · have hid : (Jobs.replay now availableAt found).id = found.id := rfl
    rw [Jobs.get?_flushRow_fresh hrow hid]
    by_cases hk : k = jobId
    · subst hk
      rw [if_pos rfl, hrow, Option.map_some, if_pos rfl]
    · simp [hk]
  · split
    · exact ⟨rfl, rfl, rfl, rfl⟩
    · exact .refl row
  · split
    · next hk =>
      obtain ⟨id, hid, hstored, -⟩ := hok.addressee
      refine ⟨⟨hok.budget, Int.le_refl 0, fun hrun => ?_, id, hid, hstored, fun hdone => ?_⟩,
        fun _ => Or.inr hk⟩
      · cases hrun
      · cases hdone
    · exact ⟨hok, fun hqueued => Or.inl hqueued⟩

/-- The object the session holds is the one that was claimed. -/
theorem jobOrRaise_hold (t : JobTable) (job : BackgroundJob) :
    Jobs.jobOrRaise (Jobs.Session.fresh.hold job) t job.id = .ok job := by
  simp [Jobs.jobOrRaise, Jobs.Session.hold]

/-- An acknowledgement writes the columns it assigned to the claimed job, whatever the row
has become. -/
theorem acknowledge_cases (t : JobTable) (job : BackgroundJob)
    (outcome : Except FailArgs (Option Items)) (now : Time) :
    acknowledge t job outcome now = t ∨
    (∃ result, outcome = .ok result ∧
      acknowledge t job outcome now = Jobs.flushRow t job (Jobs.complete now result job)) ∨
    ∃ args, outcome = .error args ∧
      acknowledge t job outcome now = Jobs.flushRow t job (Jobs.fail now args job) := by
  cases outcome with
  | ok result =>
    simp only [acknowledge]
    split
    · next done s t' hdone =>
      obtain ⟨found, hfound, -, rfl, -, rfl⟩ := Jobs.completeJob_ok hdone
      rw [jobOrRaise_hold] at hfound
      cases hfound
      exact Or.inr (Or.inl ⟨result, rfl, rfl⟩)
    · exact Or.inl rfl
  | error args =>
    simp only [acknowledge]
    split
    · next failed s t' hfail =>
      obtain ⟨found, hfound, -, rfl, -, rfl⟩ := Jobs.failJob_ok hfail
      rw [jobOrRaise_hold] at hfound
      cases hfound
      exact Or.inr (Or.inr ⟨args, rfl, rfl⟩)
    · exact Or.inl rfl

/-- A flush of an object with the claimed job's intent, count and final status. -/
theorem flush_step {object : BackgroundJob} (hheld : Held t job)
    (hobject : Jobs.SameIntent job object) (hattempts : object.attempts = job.attempts)
    (hstatus : IsMail job → object.status ≠ .running ∧ object.status ≠ .queued)
    (hdone : IsMail job → object.status = .succeeded →
      ∃ id, deliverPayload job.payload = some id ∧ messagesFor w id ≠ []) :
    QueueStep w t (Jobs.flushRow t job object) fun _ => False := by
  refine .of_map (f := fun k row => if k = job.id then Jobs.flush job object row else row)
    (fun k => Jobs.get?_flushRow t job object k) (fun k row _ => ?_) fun k row hrow hisMail hok => ?_
  · split
    · exact ⟨by simp [Jobs.flush, hobject.jobType], by simp [Jobs.flush, hobject.payload],
        by simp [Jobs.flush, hobject.idempotencyKey], by simp [Jobs.flush, hobject.maxAttempts]⟩
    · exact .refl row
  · split
    · next hk =>
      obtain ⟨stored, hstored, htype, hpayload⟩ := hheld.stored
      rw [hk, hstored] at hrow
      obtain rfl := Option.some.inj hrow
      have hjob : IsMail job := htype.symm.trans hisMail
      obtain ⟨hnotRunning, hnotQueued⟩ := hstatus hjob
      have hflushed : (Jobs.flush job object stored).status = object.status := by
        refine Jobs.column_of_ne _ ?_
        rw [hheld.running]
        exact hnotRunning
      refine ⟨hok.of_columns (by simp [Jobs.flush, hobject.payload])
        (by simp [Jobs.flush, hobject.maxAttempts]) (by simp [Jobs.flush, hattempts]) ?_ ?_, ?_⟩
      · rw [hflushed]
        exact hnotRunning
      · intro hsucceeded id hid
        rw [hflushed] at hsucceeded
        obtain ⟨id', hid', hmessages⟩ := hdone hjob hsucceeded
        rw [hpayload, hid'] at hid
        cases hid
        exact hmessages
      · rw [hflushed]
        intro hqueued
        exact absurd hqueued hnotQueued
    · exact ⟨hok, fun hqueued => Or.inl hqueued⟩

/-- An acknowledgement ends its own job. -/
theorem acknowledge_step {outcome : Except FailArgs (Option Items)} (hheld : Held t job)
    (hend : IsMail job → ∀ result, outcome = .ok result →
      ∃ id, deliverPayload job.payload = some id ∧ messagesFor w id ≠ []) (now : Time) :
    QueueStep w t (acknowledge t job outcome now) fun _ => False := by
  rcases acknowledge_cases t job outcome now with hsame | ⟨result, hok, hflush⟩ | ⟨args, herror, hflush⟩
  · rw [hsame]
    exact .refl
  · rw [hflush]
    refine flush_step hheld ⟨rfl, rfl, rfl, rfl⟩ rfl (fun _ => by simp [Jobs.complete])
      fun hmail _ => hend hmail result hok
  · rw [hflush]
    -- the attempt was the last, so the job is not retried
    have hlast : IsMail job → ¬(args.retryable ∧ job.attempts < job.maxAttempts) := by
      intro hmail h
      obtain ⟨hbudget, hattempts⟩ := hheld.lease hmail
      omega
    refine flush_step hheld ?_ ?_ ?_ ?_
    · unfold Jobs.fail
      dsimp only
      split
      · exact ⟨rfl, rfl, rfl, rfl⟩
      · split <;> exact ⟨rfl, rfl, rfl, rfl⟩
    · unfold Jobs.fail
      dsimp only
      split
      · rfl
      · split <;> rfl
    · intro hmail
      unfold Jobs.fail
      dsimp only
      rw [if_neg (hlast hmail)]
      split <;> simp
    · intro hmail hsucceeded
      unfold Jobs.fail at hsucceeded
      dsimp only at hsucceeded
      rw [if_neg (hlast hmail)] at hsucceeded
      split at hsucceeded <;> cases hsucceeded

end Queue

omit [DecidableEq W] in
/-- A step of the queue that leaves the workers where they are. -/
theorem Orderly.queueStep {host : TokenHost} {r : PostOffice W} {t' : JobTable}
    {exempt : String → Prop} (h : Orderly host r)
    (hstep : QueueStep r.store.mail r.store.jobs t' exempt)
    (hexempt : ∀ w job, (r.stage w).early = some job → ¬exempt job.id) :
    Orderly host { r with store := { r.store with jobs := t' } } where
  posted := h.posted
  rows := hstep.mailRows h.rows
  one := h.one.mono hstep.same
  sent := h.sent
  stages w := by
    refine (h.stages w).jobs hstep.same.kept fun job hjob => ?_
    obtain ⟨hheld, hunqueued, hmail⟩ := (h.stages w).unqueued hjob
    exact hstep.unqueued h.rows hheld hmail hunqueued (hexempt w job hjob)
  early := h.early
  critical := h.critical

/-! ## Steps of the mail -/

/-- The digest of an invitation stays. -/
def KeepsToken (w w' : MailWorld) (id : String) : Prop :=
  ∀ row, w.database.invitations.get? id = some row →
    ∃ row', w'.database.invitations.get? id = some row' ∧ row'.tokenHash = row.tokenHash

/-- What a statement never takes away. -/
structure Grown (w w' : MailWorld) : Prop where
  invitations : ∀ id, (w.database.invitations.get? id).isSome →
    (w'.database.invitations.get? id).isSome
  messages : ∀ id, messagesFor w id ≠ [] → messagesFor w' id ≠ []
  deliveries : ∀ k row, w.database.invitationDeliveries.get? k = some row →
    ∃ row', w'.database.invitationDeliveries.get? k = some row' ∧
      row'.invitationId = row.invitationId

section Mail

variable {host : TokenHost} {w w' : MailWorld} {p : Post} {stage : CourierStage} {e : Errand}
  {id : String}

/-- The mail world grows by nothing. -/
theorem Grown.refl (w : MailWorld) : Grown w w where
  invitations _ h := h
  messages _ h := h
  deliveries _ row h := ⟨row, h, rfl⟩

theorem KeepsToken.refl (w : MailWorld) (id : String) : KeepsToken w w id := fun row h => ⟨row, h, rfl⟩

/-- A delivery once attempted stays attempted. -/
theorem Grown.attempted (h : Grown w w') (hrecorded : Attempted w id) : Attempted w' id := by
  obtain ⟨row, hrow, hid⟩ := hrecorded
  obtain ⟨row', hrow', hsame⟩ := h.deliveries row.id row (Table.get?_of_mem hrow)
  exact ⟨row', Table.mem_of_get? hrow', hsame.trans hid⟩

/-- A token that is kept is still the one held. -/
theorem KeepsToken.holds {token : String} (h : KeepsToken w w' id)
    (hholds : HoldsToken host w id token) : HoldsToken host w' id token := by
  obtain ⟨row, hrow, htoken⟩ := hholds
  obtain ⟨row', hrow', hsame⟩ := h row hrow
  exact ⟨row', hrow', hsame.trans htoken⟩

/-- A mail row stays well formed while the world grows. -/
theorem MailRow.grown {row : BackgroundJob} (h : MailRow w row) (hgrown : Grown w w') :
    MailRow w' row := by
  obtain ⟨id, hid, hstored, hdone⟩ := h.addressee
  exact ⟨h.budget, h.nonneg, h.running, id, hid, hgrown.invitations id hstored,
    fun hsucceeded => hgrown.messages id (hdone hsucceeded)⟩

namespace Errand

/-- A loaded errand stays loaded while its token is kept. -/
theorem Loaded.keeps (h : e.Loaded w) (htoken : KeepsToken w w' e.invitation.id) : e.Loaded w' := by
  obtain ⟨row, hrow, hhash⟩ := h
  obtain ⟨row', hrow', hsame⟩ := htoken row hrow
  exact ⟨row', hrow', hsame.trans hhash⟩

/-- Its delivery row stays its own. -/
theorem OwnRow.grown (h : e.OwnRow w) (hgrown : Grown w w') : e.OwnRow w' := by
  obtain ⟨row, hrow, hid⟩ := h
  obtain ⟨row', hrow', hsame⟩ := hgrown.deliveries e.attempt.newId row hrow
  exact ⟨row', hrow', hsame.trans hid⟩

end Errand

/-- What is known at a stage stays known while the mail grows, where the digest it relies
on stays and no message comes into its critical section. -/
theorem StageKnown.mail (h : StageKnown host p stage) (hgrown : Grown p.mail w')
    (htoken : ∀ id, stage.relies = some id → KeepsToken p.mail w' id)
    (hmessages : ∀ id, stage.critical = some id → messagesFor w' id = messagesFor p.mail id) :
    StageKnown host { p with mail := w' } stage := by
  cases stage with
  | idle => trivial
  | claimed job x => exact h
  | looking e =>
    obtain ⟨hheld, hunqueued, haddressed, hloaded⟩ := h
    exact ⟨hheld, hunqueued, haddressed, hloaded.keeps (htoken _ rfl)⟩
  | unrecorded e =>
    obtain ⟨hheld, hunqueued, haddressed, hloaded, hnone⟩ := h
    exact ⟨hheld, hunqueued, haddressed, hloaded.keeps (htoken _ rfl),
      (hmessages _ rfl).trans hnone⟩
  | recorded e =>
    obtain ⟨hheld, haddressed, hown, hbegun⟩ := h
    exact ⟨hheld, haddressed, hown.grown hgrown, (hmessages _ rfl).trans hbegun.unsent,
      hgrown.attempted hbegun.recorded, (htoken _ rfl).holds hbegun.token⟩
  | answered e status errorCode =>
    obtain ⟨hheld, haddressed, hown, hsent⟩ := h
    exact ⟨hheld, haddressed, hown.grown hgrown, fun hstatus => hgrown.messages _ (hsent hstatus)⟩
  | ended job outcome =>
    obtain ⟨hheld, hdone⟩ := h
    refine ⟨hheld, fun hmail result hok => ?_⟩
    obtain ⟨id, hid, hmessages⟩ := hdone hmail result hok
    exact ⟨id, hid, hgrown.messages id hmessages⟩

/-! ### Recording, sending, settling -/

/-- An attempt that found its invitation has it named in its payload. -/
theorem reference_addressee {a : DeliveryAttempt} {invitation : Invitation}
    (h : a.reference host w = .ok invitation) : deliverPayload a.rawPayload = some invitation.id := by
  unfold DeliveryAttempt.reference at h
  split at h
  · cases h
  · next invitationId contextWorkspaceId hpayload =>
    obtain ⟨_, -, h⟩ := bind_eq_ok.mp h
    obtain ⟨_, -, h⟩ := bind_eq_ok.mp h
    split at h
    · cases h
    · next found hfound =>
      obtain ⟨_, -, h⟩ := bind_eq_ok.mp h
      obtain ⟨_, -, h⟩ := bind_eq_ok.mp h
      obtain rfl := pure_eq_ok.mp h
      rw [hpayload, Table.key_of_get? hfound]

/-- What the commit before the contact leaves. -/
structure RecordsDelivery (host : TokenHost) (e : Errand) (w w' : MailWorld) : Prop where
  sent : w'.sent = w.sent
  deliveries : w.database.invitationDeliveries.insert (e.attempt.delivery e.invitation) =
    some w'.database.invitationDeliveries
  others : ∀ id, id ≠ e.invitation.id →
    w'.database.invitations.get? id = w.database.invitations.get? id
  token : e.Loaded w → HoldsToken host w' e.invitation.id e.claimToken

/-- A delivery that could be recorded was not there before. -/
theorem Errand.record_ok (h : e.record host w = some w') : RecordsDelivery host e w w' := by
  unfold Errand.record at h
  split at h
  · next hsame =>
    obtain ⟨deliveries, hinsert, rfl⟩ := Option.map_eq_some_iff.mp h
    refine ⟨rfl, hinsert, fun _ _ => rfl, fun hloaded => ?_⟩
    obtain ⟨row, hrow, hhash⟩ := hloaded
    exact ⟨row, hrow, hhash.trans hsame⟩
  · obtain ⟨hsent, -, hinvitations⟩ := DeliveryAttempt.begin_cases h
    refine ⟨hsent, ?_, fun id hid => ?_, fun hloaded => ?_⟩
    · unfold DeliveryAttempt.begin at h
      dsimp only at h
      split at h
      · cases h
      · obtain ⟨deliveries, hinsert, rfl⟩ := Option.map_eq_some_iff.mp h
        exact hinsert
    · rw [hinvitations]
      cases w.database.invitations.get? id with
      | none => rfl
      | some row => rw [Option.map_some, if_neg hid]
    · obtain ⟨row, hrow, -⟩ := hloaded
      exact ⟨_, by rw [hinvitations, hrow, Option.map_some, if_pos rfl], rfl⟩

/-- One sending is one message to its own addressee. -/
theorem messagesFor_send {a : DeliveryAttempt} {invitation : Invitation} {claimToken : String} :
    messagesFor (a.send host invitation claimToken w) id = messagesFor w id ++
      if invitation.id = id then [⟨invitation.id, claimToken,
        inviteMessage host.toHost a.settings invitation claimToken⟩] else [] := by
  simp [messagesFor, DeliveryAttempt.send, List.filter_append, List.filter_cons]

/-- A message grows the world. -/
theorem grown_send {a : DeliveryAttempt} {invitation : Invitation} {claimToken : String} :
    Grown w (a.send host invitation claimToken w) where
  invitations _ h := h
  messages id h := by
    rw [messagesFor_send]
    intro hnil
    exact h (List.append_eq_nil_iff.mp hnil).1
  deliveries _ row h := ⟨row, h, rfl⟩

/-- Settling a delivery grows it as well. -/
theorem grown_settle {a : DeliveryAttempt} {status : String} {errorCode : Option String} :
    Grown w (a.settle status errorCode w) where
  invitations _ h := h
  messages _ h := h
  deliveries k row h := by
    rw [show (a.settle status errorCode w).database.invitationDeliveries.get? k = _ from
      Table.get?_updateKey _ a.newId _ (DeliveryAttempt.setResult_id _ _) k, h, Option.map_some]
    refine ⟨_, rfl, ?_⟩
    split <;> rfl

end Mail

/-! ## Steps of the office -/

section Office

variable {host : TokenHost} {r : PostOffice W} {w : W}

/-- A worker goes on to a stage, and the store is what it leaves. -/
theorem Orderly.write {stage : CourierStage} {p : Post} (h : Orderly host r)
    (hposted : Posted host p.mail) (hrows : ∀ row ∈ p.jobs.rows, IsMail row → MailRow p.mail row)
    (hone : OneJobEach p.jobs) (hsent : SentRows p.mail)
    (hothers : ∀ w', w' ≠ w → StageKnown host p (r.stage w')) (hown : StageKnown host p stage)
    (hearly : ∀ job, stage.early = some job → ∀ w' job', w' ≠ w →
      (r.stage w').early = some job' → job'.id ≠ job.id)
    (hcritical : ∀ id, stage.critical = some id → ∀ w', w' ≠ w →
      (r.stage w').critical ≠ some id) : Orderly host (r.write w stage p) := by
  refine ⟨hposted, hrows, hone, hsent, fun w' => ?_, fun w₁ w₂ job job' h₁ h₂ hid => ?_,
    fun w₁ w₂ id h₁ h₂ => ?_⟩
  · by_cases hw : w' = w
    · subst hw
      rw [Parties.write_self]
      exact hown
    · rw [Parties.write_ne _ _ _ hw]
      exact hothers w' hw
  · by_cases hw₁ : w₁ = w
    · subst hw₁
      by_cases hw₂ : w₂ = w₁
      · exact hw₂.symm
      · rw [Parties.write_self] at h₁
        rw [Parties.write_ne _ _ _ hw₂] at h₂
        exact absurd hid.symm (hearly job h₁ w₂ job' hw₂ h₂)
    · rw [Parties.write_ne _ _ _ hw₁] at h₁
      by_cases hw₂ : w₂ = w
      · subst hw₂
        rw [Parties.write_self] at h₂
        exact absurd hid (hearly job' h₂ w₁ job hw₁ h₁)
      · rw [Parties.write_ne _ _ _ hw₂] at h₂
        exact h.early w₁ w₂ job job' h₁ h₂ hid
  · by_cases hw₁ : w₁ = w
    · subst hw₁
      by_cases hw₂ : w₂ = w₁
      · exact hw₂.symm
      · rw [Parties.write_self] at h₁
        rw [Parties.write_ne _ _ _ hw₂] at h₂
        exact absurd h₂ (hcritical id h₁ w₂ hw₂)
    · rw [Parties.write_ne _ _ _ hw₁] at h₁
      by_cases hw₂ : w₂ = w
      · subst hw₂
        rw [Parties.write_self] at h₂
        exact absurd h₁ (hcritical id h₂ w₁ hw₁)
      · rw [Parties.write_ne _ _ _ hw₂] at h₂
        exact h.critical w₁ w₂ id h₁ h₂

/-- A worker goes on, early only if it was with that job, and into a critical section only
if nobody else is in it; the mail grows without touching what the others rely on. -/
theorem Orderly.goOn {stage : CourierStage} {mail : MailWorld} (h : Orderly host r)
    (hposted : Posted host mail) (hgrown : Grown r.store.mail mail) (hsent : SentRows mail)
    (htoken : ∀ w' id, w' ≠ w → (r.stage w').relies = some id → KeepsToken r.store.mail mail id)
    (hmessages : ∀ w' id, w' ≠ w → (r.stage w').critical = some id →
      messagesFor mail id = messagesFor r.store.mail id)
    (hown : StageKnown host { r.store with mail := mail } stage)
    (hearly : ∀ job, stage.early = some job → (r.stage w).early = some job)
    (hcritical : ∀ id, stage.critical = some id → ∀ w', w' ≠ w →
      (r.stage w').critical ≠ some id) : Orderly host (goOn r w stage mail) := by
  refine h.write hposted (fun row hrow hmail => (h.rows row hrow hmail).grown hgrown) h.one hsent
    (fun w' hw => (h.stages w').mail hgrown (fun id hid => htoken w' id hw hid)
      fun id hid => hmessages w' id hw hid) hown (fun job hjob w' job' hw hjob' hid => ?_) hcritical
  exact hw (h.early w' w job' job hjob' (hearly job hjob) hid)

/-- A worker goes on and leaves the store alone. -/
theorem Orderly.goTo {stage : CourierStage} (h : Orderly host r)
    (hown : StageKnown host r.store stage)
    (hearly : ∀ job, stage.early = some job → (r.stage w).early = some job)
    (hcritical : ∀ id, stage.critical = some id → ∀ w', w' ≠ w →
      (r.stage w').critical ≠ some id) : Orderly host (r.goTo w stage) := by
  show Orderly host (DeployGuard.Service.goOn r w stage r.store.mail)
  exact h.goOn h.posted (.refl _) h.sent (fun _ id _ _ => .refl _ id) (fun _ _ _ _ => rfl) hown
    hearly hcritical

omit [DecidableEq W] in
/-- Two workers that are early on jobs for the same invitation are one. -/
theorem Orderly.same_addressee (h : Orderly host r) {w₁ w₂ : W} {job₁ job₂ : BackgroundJob}
    (h₁ : (r.stage w₁).early = some job₁) (h₂ : (r.stage w₂).early = some job₂)
    (hsame : deliverPayload job₁.payload = deliverPayload job₂.payload) : w₁ = w₂ := by
  obtain ⟨hheld₁, -, hmail₁⟩ := (h.stages w₁).unqueued h₁
  obtain ⟨hheld₂, -, hmail₂⟩ := (h.stages w₂).unqueued h₂
  obtain ⟨row₁, hrow₁, htype₁, hpayload₁⟩ := hheld₁.stored
  obtain ⟨row₂, hrow₂, htype₂, hpayload₂⟩ := hheld₂.stored
  have hrow : row₁ = row₂ := h.one row₁ (Table.mem_of_get? hrow₁) row₂ (Table.mem_of_get? hrow₂)
    (htype₁.trans hmail₁) (htype₂.trans hmail₂) (by rw [hpayload₁, hpayload₂, hsame])
  refine h.early w₁ w₂ job₁ job₂ h₁ h₂ ?_
  rw [← Table.key_of_get? hrow₁, ← Table.key_of_get? hrow₂, hrow]

/-- A worker takes up a queued job. -/
theorem Orderly.claim {workerId : String} {page : List BackgroundJob} {now : Time}
    {x : Circumstances} {job : BackgroundJob} {s : Jobs.Session} {t : JobTable}
    (h : Orderly host r)
    (hclaim : Jobs.claimNextJob .fresh r.store.jobs page workerId now = .ok (some job, s, t)) :
    Orderly host (r.write w (takeUp job x) { r.store with jobs := t }) := by
  obtain ⟨worker, row, hrow, hqueued, hjob, hstep⟩ := claim_step (w := r.store.mail) hclaim
  have hget : t.get? job.id = some job := by
    rcases Jobs.claimNextJob_ok hclaim with ⟨hnone, -⟩ | ⟨worker', row', -, -, -, hjob', -, hget⟩
    · cases hnone
    · obtain rfl := Option.some.inj hjob'
      rw [hget]
      exact if_pos rfl
  have hheld : Held t job := by
    refine ⟨by rw [hjob]; rfl, fun hmail => ?_, job, hget, rfl, rfl⟩
    have hok := h.rows row (Table.mem_of_get? hrow) (by rw [hjob] at hmail; exact hmail)
    have hnonneg := hok.nonneg
    have hbudget := hok.budget
    rw [hjob]
    exact ⟨hbudget, by simp only [Jobs.claimed]; omega⟩
  have hunqueued : Unqueued t job := by
    intro row' hrow' hqueued'
    rw [hget] at hrow'
    obtain rfl := Option.some.inj hrow'
    rw [hheld.running] at hqueued'
    cases hqueued'
  refine h.write h.posted (hstep.mailRows h.rows) (h.one.mono hstep.same) h.sent
    (fun w' _ => ?_) ?_ ?_ ?_
  · refine (h.stages w').jobs hstep.same.kept fun job' hjob' => ?_
    obtain ⟨hheld', hunqueued', hmail'⟩ := (h.stages w').unqueued hjob'
    exact hstep.unqueued h.rows hheld' hmail' hunqueued' (by simp)
  · unfold takeUp
    split
    · next hmail => exact ⟨hheld, hunqueued, hmail⟩
    · next hforeign => exact ⟨hheld, fun hmail => absurd hmail hforeign⟩
  · -- the row was queued, and nobody is early with a queued row
    intro job' hjob' w' job'' _ hjob'' hid
    have hsame : job' = job := by
      unfold takeUp at hjob'
      split at hjob'
      · exact (Option.some.inj hjob').symm
      · cases hjob'
    obtain ⟨-, hunqueued', -⟩ := (h.stages w').unqueued hjob''
    refine hunqueued' row ?_ hqueued
    rw [hid, hsame, hjob]
    exact hrow
  · intro id hid
    unfold takeUp at hid
    split at hid <;> cases hid

/-- A worker reads the invitation its job names. -/
theorem Orderly.read {job : BackgroundJob} {x : Circumstances} (h : Orderly host r)
    (hw : r.stage w = .claimed job x) :
    Orderly host (r.goTo w (readInvitation host r.store.mail job x)) := by
  have hknown := h.stages w
  rw [hw] at hknown
  obtain ⟨hheld, hunqueued, hmail⟩ := hknown
  have hended : ∀ e : DeliveryError, Orderly host
      (r.goTo w (.ended job (.error (e.failArgs x.exceptionText)))) := by
    intro e
    exact h.goTo ⟨hheld, fun _ _ hok => by cases hok⟩ (fun _ hjob => by cases hjob)
      fun _ hid => by cases hid
  unfold readInvitation
  dsimp only
  split
  · exact hended _
  · next invitation hreference =>
    split
    · exact hended _
    · next claimToken hclaimToken =>
      refine h.goTo ⟨hheld, hunqueued, ⟨hmail, ?_⟩, ?_⟩ ?_ fun _ hid => by cases hid
      · exact reference_addressee hreference
      · exact ⟨invitation, reference_ok hreference, rfl⟩
      · intro job' hjob'
        rw [hw]
        exact hjob'

/-- A worker looks for the delivery's row. -/
theorem Orderly.find {e : Errand} (h : Orderly host r) (hw : r.stage w = .looking e) :
    Orderly host (r.goTo w (e.find r.store.mail)) := by
  have hknown := h.stages w
  rw [hw] at hknown
  obtain ⟨hheld, hunqueued, haddressed, hloaded⟩ := hknown
  unfold Errand.find
  split
  · next existing hfound =>
    split
    · next hsent =>
      -- the recorded delivery is sent, so there is a message
      have hmem := List.mem_of_head? hfound
      rw [List.mem_insertionSort, Table.mem_select] at hmem
      obtain ⟨hrow, hid⟩ := hmem
      have hmessages := h.sent existing hrow hsent
      rw [of_decide_eq_true hid] at hmessages
      exact h.goTo ⟨hheld, fun _ _ _ => ⟨_, haddressed.2, hmessages⟩⟩
        (fun _ hjob => by cases hjob) fun _ hid => by cases hid
    · exact h.goTo ⟨hheld, fun _ _ hok => by cases hok⟩ (fun _ hjob => by cases hjob)
        fun _ hid => by cases hid
  · next hnone =>
    have hnew := not_attempted_of_newestDelivery hnone
    have hunsent : messagesFor r.store.mail e.invitation.id = [] := by
      by_contra hne
      exact hnew ((h.posted e.invitation.id).recorded hne)
    refine h.goTo ⟨hheld, hunqueued, haddressed, hloaded, hunsent⟩ ?_ ?_
    · intro job hjob
      rw [hw]
      exact hjob
    · intro id hid w' hne hcritical
      obtain rfl : e.invitation.id = id := Option.some.inj hid
      have hknown' := h.stages w'
      cases hstage : r.stage w' with
      | unrecorded e' =>
        rw [hstage] at hknown' hcritical
        have hid' : e'.invitation.id = e.invitation.id := Option.some.inj hcritical
        have hearly' : (r.stage w').early = some e'.job := by rw [hstage]; rfl
        have hearly : (r.stage w).early = some e.job := by rw [hw]; rfl
        refine hne (h.same_addressee hearly' hearly ?_)
        rw [hknown'.2.2.1.2, haddressed.2, hid']
      | recorded e' =>
        rw [hstage] at hknown' hcritical
        have hid' : e'.invitation.id = e.invitation.id := Option.some.inj hcritical
        exact hnew (hid' ▸ hknown'.2.2.2.recorded)
      | _ =>
        rw [hstage] at hcritical
        cases hcritical

omit [DecidableEq W] in
/-- The digest of the invitation of an unrecorded errand is nobody else's to rely on. -/
theorem Orderly.relies_alone {e : Errand} (h : Orderly host r) (hw : r.stage w = .unrecorded e)
    {w' : W} (hne : w' ≠ w) : (r.stage w').relies ≠ some e.invitation.id := by
  intro hrelies
  have hknown := h.stages w
  have hknown' := h.stages w'
  rw [hw] at hknown
  have hearly : (r.stage w).early = some e.job := by rw [hw]; rfl
  have hcritical : (r.stage w).critical = some e.invitation.id := by rw [hw]; rfl
  cases hstage : r.stage w' with
  | looking e' =>
    rw [hstage] at hknown' hrelies
    have hid : e'.invitation.id = e.invitation.id := Option.some.inj hrelies
    have hearly' : (r.stage w').early = some e'.job := by rw [hstage]; rfl
    refine hne (h.same_addressee hearly' hearly ?_)
    rw [hknown'.2.2.1.2, hknown.2.2.1.2, hid]
  | unrecorded e' =>
    rw [hstage] at hrelies
    refine hne (h.critical w' w e.invitation.id ?_ hcritical)
    rw [hstage]
    exact hrelies
  | recorded e' =>
    rw [hstage] at hrelies
    refine hne (h.critical w' w e.invitation.id ?_ hcritical)
    rw [hstage]
    exact hrelies
  | _ =>
    rw [hstage] at hrelies
    cases hrelies

/-- A worker stores the row of a new delivery. -/
theorem Orderly.record {e : Errand} {mail : MailWorld} (h : Orderly host r)
    (hw : r.stage w = .unrecorded e) (hrecord : e.record host r.store.mail = some mail) :
    Orderly host (DeployGuard.Service.goOn r w (.recorded e) mail) := by
  have hknown := h.stages w
  rw [hw] at hknown
  obtain ⟨hheld, -, haddressed, hloaded, hunsent⟩ := hknown
  have hrecords := Errand.record_ok hrecord
  obtain ⟨hsent, hinsert, hothers, htoken⟩ := hrecords
  have hrows := (Table.insert_eq_some hinsert).2
  have hmessages : ∀ id, messagesFor mail id = messagesFor r.store.mail id := by
    intro id
    rw [messagesFor, hsent, messagesFor]
  have hkeeps : ∀ id, id ≠ e.invitation.id → KeepsToken r.store.mail mail id := by
    intro id hid row hrow
    exact ⟨row, by rw [hothers id hid, hrow], rfl⟩
  have hholds := htoken hloaded
  have hgrown : Grown r.store.mail mail := by
    refine ⟨fun id hid => ?_, fun id hne => by rw [hmessages]; exact hne, fun k row hrow => ?_⟩
    · by_cases hsame : id = e.invitation.id
      · obtain ⟨row, hrow, -⟩ := hholds
        rw [hsame, hrow]
        rfl
      · rw [hothers id hsame]
        exact hid
    · exact ⟨row, Table.get?_of_insert hinsert hrow, rfl⟩
  have hown : e.OwnRow mail := by
    refine ⟨e.attempt.delivery e.invitation, ?_, rfl⟩
    exact (Table.get?_insert hinsert _).trans (if_pos rfl)
  have hattempted : Attempted mail e.invitation.id := by
    obtain ⟨row, hrow, hid⟩ := hown
    exact ⟨row, Table.mem_of_get? hrow, hid⟩
  refine h.goOn (fun id => ?_) hgrown ?_ (fun w' id hne hid => ?_) (fun _ id _ _ => hmessages id)
    ⟨hheld, haddressed, hown, (hmessages _).trans hunsent, hattempted, hholds⟩
    (fun _ hjob => by cases hjob) ?_
  · by_cases hid : id = e.invitation.id
    · subst hid
      exact .of_none ((hmessages _).trans hunsent)
    · exact (h.posted id).keeps hsent hgrown.attempted fun token => (hkeeps id hid).holds
  · intro row hrow hstatus
    rw [hrows, List.mem_append, List.mem_singleton] at hrow
    rcases hrow with hrow | rfl
    · rw [hmessages]
      exact h.sent row hrow hstatus
    · simp [DeliveryAttempt.delivery] at hstatus
  · refine hkeeps id ?_
    intro hsame
    exact h.relies_alone hw hne (hsame ▸ hid)
  · intro id hid w' hne hcritical
    refine hne (h.critical w' w id hcritical ?_)
    rw [hw]
    exact hid

/-- A worker hands the message over: the one step that can mail. -/
theorem Orderly.contact {e : Errand} (h : Orderly host r) (hw : r.stage w = .recorded e) :
    Orderly host (DeployGuard.Service.goOn r w (e.contact host r.store.mail).2
      (e.contact host r.store.mail).1) := by
  have hknown := h.stages w
  rw [hw] at hknown
  obtain ⟨hheld, haddressed, hown, hbegun⟩ := hknown
  -- a stage after the session with the server, over whatever mail that left
  have hgo : ∀ (stage : CourierStage) (mail : MailWorld),
      mail = r.store.mail ∨ mail = e.attempt.send host e.invitation e.claimToken r.store.mail →
      StageKnown host { r.store with mail := mail } stage → stage.early = none →
      stage.critical = none → Orderly host (DeployGuard.Service.goOn r w stage mail) := by
    intro stage mail hmail hstage hearly hcritical
    have hrest : (∀ job, stage.early = some job → (r.stage w).early = some job) ∧
        ∀ id, stage.critical = some id → ∀ w', w' ≠ w → (r.stage w').critical ≠ some id := by
      rw [hearly, hcritical]
      exact ⟨fun _ hjob => (by cases hjob), fun _ hid => (by cases hid)⟩
    rcases hmail with rfl | rfl
    · exact h.goOn h.posted (.refl _) h.sent (fun _ id _ _ => .refl _ id) (fun _ _ _ _ => rfl)
        hstage hrest.1 hrest.2
    · refine h.goOn (h.posted.send hbegun.unsent hbegun.recorded hbegun.token) grown_send ?_
        (fun _ id _ _ => .refl r.store.mail id) ?_ hstage hrest.1 hrest.2
      · exact fun row hrow hstatus => grown_send.messages _ (h.sent row hrow hstatus)
      · intro w' id hne hid
        rw [messagesFor_send, if_neg, List.append_nil]
        intro hsame
        refine hne (h.critical w' w id hid ?_)
        rw [hw]
        exact congrArg some hsame
  have hfailed : ∀ caught mail, mail = r.store.mail ∨
      mail = e.attempt.send host e.invitation e.claimToken r.store.mail →
      Orderly host (DeployGuard.Service.goOn r w (e.failed caught) mail) := by
    intro caught mail hmail
    have hgrown : Grown r.store.mail mail := by
      rcases hmail with rfl | rfl
      · exact .refl _
      · exact grown_send
    unfold Errand.failed
    split
    · exact hgo _ mail hmail ⟨hheld, haddressed, hown.grown hgrown, by simp⟩ rfl rfl
    · exact hgo _ mail hmail ⟨hheld, fun _ _ hok => by cases hok⟩ rfl rfl
  unfold Errand.contact
  split
  · exact hfailed _ _ (Or.inl rfl)
  · exact hfailed _ _ (Or.inr rfl)
  · refine hgo _ _ (Or.inr rfl) ⟨hheld, haddressed, hown.grown grown_send, fun _ => ?_⟩ rfl rfl
    rw [messagesFor_send, if_pos rfl]
    simp

/-- A worker writes the outcome down. -/
theorem Orderly.settle {e : Errand} {status : String} {errorCode : Option String}
    (h : Orderly host r) (hw : r.stage w = .answered e status errorCode) :
    Orderly host (DeployGuard.Service.goOn r w (e.answer status)
      (e.attempt.settle status errorCode r.store.mail)) := by
  have hknown := h.stages w
  rw [hw] at hknown
  obtain ⟨hheld, haddressed, ⟨own, hown, hownId⟩, hmessages⟩ := hknown
  refine h.goOn h.posted.settle grown_settle (fun row hrow hstatus => ?_)
    (fun _ id _ _ => .refl r.store.mail id) (fun _ _ _ _ => rfl) ?_ ?_ ?_
  · -- the one row that changes is the execution's own
    rw [show (e.attempt.settle status errorCode r.store.mail).database.invitationDeliveries =
      r.store.mail.database.invitationDeliveries.updateWhere (fun row => row.id = e.attempt.newId)
        (DeliveryAttempt.setResult status errorCode) (DeliveryAttempt.setResult_id _ _) from rfl,
      Table.mem_updateWhere] at hrow
    obtain ⟨old, hold, hset⟩ := hrow
    by_cases hid : old.id = e.attempt.newId
    · obtain rfl : old = own := by
        refine Option.some.inj ((Table.get?_of_mem hold).symm.trans ?_)
        rw [hid]
        exact hown
      rw [if_pos (decide_eq_true hid)] at hset
      subst hset
      show messagesFor r.store.mail old.invitationId ≠ []
      rw [hownId]
      exact hmessages hstatus
    · rw [if_neg (by simpa using hid)] at hset
      subst hset
      exact h.sent old hold hstatus
  · unfold Errand.answer
    split
    · next hsent => exact ⟨hheld, fun _ _ _ => ⟨_, haddressed.2, hmessages hsent⟩⟩
    · exact ⟨hheld, fun _ _ hok => by cases hok⟩
  · intro job hjob
    unfold Errand.answer at hjob
    split at hjob <;> cases hjob
  · intro id hid
    unfold Errand.answer at hid
    split at hid <;> cases hid

/-- A worker reports its job as ended. -/
theorem Orderly.acknowledge {job : BackgroundJob} {outcome : Except FailArgs (Option Items)}
    (h : Orderly host r) (hw : r.stage w = .ended job outcome) (now : Time) :
    Orderly host (r.write w .idle
      { r.store with jobs := DeployGuard.Service.acknowledge r.store.jobs job outcome now }) := by
  have hknown := h.stages w
  rw [hw] at hknown
  have hstep := acknowledge_step hknown.1 hknown.2 now
  refine h.write h.posted (hstep.mailRows h.rows) (h.one.mono hstep.same) h.sent (fun w' _ => ?_)
    trivial (fun _ hjob => by cases hjob) fun _ hid => by cases hid
  refine (h.stages w').jobs hstep.same.kept fun job' hjob' => ?_
  obtain ⟨hheld, hunqueued, hmail⟩ := (h.stages w').unqueued hjob'
  exact hstep.unqueued h.rows hheld hmail hunqueued (by simp)

end Office

/-! ### Others at work -/

/-- What is done besides the deliveries: nothing is sent, digests and recorded deliveries
stay, and no delivery comes to count as sent. -/
structure MailQuiet (w w' : MailWorld) : Prop where
  sent : w'.sent = w.sent
  token : ∀ id, KeepsToken w w' id
  deliveries : ∀ k row, w.database.invitationDeliveries.get? k = some row →
    w'.database.invitationDeliveries.get? k = some row
  fresh : ∀ row ∈ w'.database.invitationDeliveries.rows,
    row ∈ w.database.invitationDeliveries.rows ∨ row.status ≠ "sent"

namespace MailQuiet

variable {host : TokenHost} {w w' : MailWorld}

/-- What is quiet mails nothing. -/
theorem messages (h : MailQuiet w w') (id : String) : messagesFor w' id = messagesFor w id := by
  rw [messagesFor, h.sent, messagesFor]

/-- It only adds to the world. -/
theorem grown (h : MailQuiet w w') : Grown w w' where
  invitations id hid := by
    obtain ⟨row, hrow⟩ := Option.isSome_iff_exists.mp hid
    obtain ⟨row', hrow', -⟩ := h.token id row hrow
    rw [hrow']
    rfl
  messages id hne := by
    rw [h.messages]
    exact hne
  deliveries k row hrow := ⟨row, h.deliveries k row hrow, rfl⟩

/-- It posts nothing. -/
theorem posted (h : MailQuiet w w') (hposted : Posted host w) : Posted host w' :=
  fun id => (hposted id).keeps h.sent h.grown.attempted fun _ => (h.token id).holds

/-- It records no delivery. -/
theorem sentRows (h : MailQuiet w w') (hsent : SentRows w) : SentRows w' := by
  intro row hrow hstatus
  rw [h.messages]
  rcases h.fresh row hrow with hold | hne
  · exact hsent row hold hstatus
  · exact absurd hstatus hne

end MailQuiet

section Others

variable {host : TokenHost} {r : PostOffice W} {t t' : JobTable}

/-- What the table gains by a call of `enqueue_job`: at most a fresh row of the request. -/
theorem enqueueJob_adds {a : EnqueueArgs} {job : BackgroundJob}
    (h : Jobs.enqueueJob t a = .ok (job, t')) :
    t' = t ∨ ∃ row, t.insert row = some t' ∧ row.jobType = Text.strip a.jobType ∧
      a.payload = .dict row.payload ∧ row.maxAttempts = a.maxAttempts ∧ row.attempts = 0 ∧
      row.status = .queued := by
  obtain ⟨jobType, key, items, hv, ⟨rfl, -⟩ | ⟨rfl, -, hinsert⟩⟩ := Jobs.enqueueJob_ok h
  · exact Or.inl rfl
  · obtain ⟨_, -, hv⟩ := bind_eq_ok.mp hv
    obtain ⟨_, -, hv⟩ := bind_eq_ok.mp hv
    obtain ⟨_, -, hv⟩ := bind_eq_ok.mp hv
    obtain ⟨items', hmapping, hv⟩ := bind_eq_ok.mp hv
    obtain ⟨_, -, hv⟩ := bind_eq_ok.mp hv
    obtain ⟨htype, hrest⟩ := Prod.mk.inj (pure_eq_ok.mp hv)
    obtain ⟨-, rfl⟩ := Prod.mk.inj hrest
    have hpayload : a.payload = .dict items' := by
      cases hvalue : a.payload with
      | dict items'' =>
        rw [hvalue] at hmapping
        rw [Except.ok.inj hmapping]
      | _ =>
        rw [hvalue] at hmapping
        cases hmapping
    exact Or.inr ⟨_, hinsert, htype.symm, hpayload, rfl, rfl, rfl⟩

/-- A new job leaves the rows it finds. -/
theorem rowsKept_insert {row : BackgroundJob} (h : t.insert row = some t') : RowsKept t t' :=
  fun _ old hold => ⟨old, Table.get?_of_insert h hold, .refl old⟩

theorem unqueued_insert {row job : BackgroundJob} (h : t.insert row = some t') (hheld : Held t job)
    (hunqueued : Unqueued t job) : Unqueued t' job := by
  intro row' hrow'
  obtain ⟨stored, hstored, -⟩ := hheld.stored
  rw [Table.get?_of_insert h hstored] at hrow'
  exact hunqueued row' (hstored.trans hrow')

omit [DecidableEq W] in
/-- Nothing changes but what others do to the mail. -/
theorem Orderly.quiet {mail : MailWorld} (h : Orderly host r) (hquiet : MailQuiet r.store.mail mail) :
    Orderly host { r with store := { r.store with mail := mail } } where
  posted := hquiet.posted h.posted
  rows row hrow hmail := (h.rows row hrow hmail).grown hquiet.grown
  one := h.one
  sent := hquiet.sentRows h.sent
  stages w := (h.stages w).mail hquiet.grown (fun id _ => hquiet.token id)
    fun id _ => hquiet.messages id
  early := h.early
  critical := h.critical

omit [DecidableEq W] in
/-- A job is added: one of another kind, or the first one for an invitation. -/
theorem Orderly.insertJob {row : BackgroundJob} (h : Orderly host r)
    (hinsert : r.store.jobs.insert row = some t') (hmail : IsMail row → MailRow r.store.mail row)
    (hfirst : IsMail row → ∀ old ∈ r.store.jobs.rows, IsMail old →
      deliverPayload old.payload ≠ deliverPayload row.payload) :
    Orderly host { r with store := { r.store with jobs := t' } } := by
  have hrows := (Table.insert_eq_some hinsert).2
  refine ⟨h.posted, fun row' hrow' => ?_, fun row₁ h₁ row₂ h₂ hmail₁ hmail₂ hsame => ?_, h.sent,
    fun w => ?_, h.early, h.critical⟩
  · rw [hrows, List.mem_append, List.mem_singleton] at hrow'
    rcases hrow' with hrow' | rfl
    · exact h.rows row' hrow'
    · exact hmail
  · rw [hrows, List.mem_append, List.mem_singleton] at h₁ h₂
    rcases h₁ with h₁ | rfl
    · rcases h₂ with h₂ | rfl
      · exact h.one row₁ h₁ row₂ h₂ hmail₁ hmail₂ hsame
      · exact absurd hsame (hfirst hmail₂ row₁ h₁ hmail₁)
    · rcases h₂ with h₂ | rfl
      · exact absurd hsame.symm (hfirst hmail₁ row₂ h₂ hmail₂)
      · rfl
  · refine (h.stages w).jobs (rowsKept_insert hinsert) fun job hjob => ?_
    obtain ⟨hheld, hunqueued, -⟩ := (h.stages w).unqueued hjob
    exact unqueued_insert hinsert hheld hunqueued

omit [DecidableEq W] in
/-- A job of another type does not touch the mail. -/
theorem Orderly.enqueue {args : EnqueueArgs} {job : BackgroundJob} (h : Orderly host r)
    (htype : Text.strip args.jobType ≠ invitationEmailDeliverJob)
    (henqueue : Jobs.enqueueJob r.store.jobs args = .ok (job, t')) :
    Orderly host { r with store := { r.store with jobs := t' } } := by
  rcases enqueueJob_adds henqueue with rfl | ⟨row, hinsert, hrowType, -⟩
  · exact h
  · have hforeign : ¬IsMail row := fun hmail => htype (hrowType.symm.trans hmail)
    exact h.insertJob hinsert (fun hmail => absurd hmail hforeign) fun hmail => absurd hmail hforeign

/-- The database after `create_invitation` has the new invitation and is else as it was. -/
theorem quiet_createInvitation {q : CreateInvitation} {rawToken : String} {w : MailWorld}
    {database : Database} (h : q.save host rawToken w.database = .ok database) :
    MailQuiet w { w with database := database } ∧ w.database.invitations.get? q.newId = none ∧
      (database.invitations.get? q.newId).isSome := by
  obtain ⟨_, -, h⟩ := bind_eq_ok.mp h
  obtain ⟨invitations, hadd, h⟩ := bind_eq_ok.mp h
  obtain rfl := pure_eq_ok.mp h
  have hinsert := addRow_eq_ok.mp hadd
  refine ⟨⟨rfl, fun id row hrow => ?_, fun _ _ hrow => hrow, fun _ hrow => Or.inl hrow⟩,
    (Table.insert_eq_some hinsert).1, ?_⟩
  · exact ⟨row, Table.get?_of_insert hinsert hrow, rfl⟩
  · refine Option.isSome_iff_exists.mpr ⟨q.invitation host rawToken, ?_⟩
    exact (Table.get?_insert hinsert _).trans (if_pos rfl)

/-- What the contract of an invitation is dumped to names the invitation. -/
theorem deliverPayload_contract {invitation : Invitation} {contract : InvitationEmailDeliverPayload}
    (hid : Text.strip invitation.id = invitation.id)
    (h : (invitationEmailPayload invitation).validate = .ok contract) :
    deliverPayload contract.modelDump = some invitation.id := by
  unfold InvitationEmailDeliverPayload.validate at h
  split at h
  · next hvalid =>
    obtain rfl := Except.ok.inj h
    have hvalid : invitation.id ≠ "" ∧ invitation.id.length ≤ 160 := by
      by_contra hne
      simp [InvitationEmailDeliverPayload.errors, invitationEmailPayload, Schema.field, hid, hne]
        at hvalid
    simp [deliverPayload, InvitationEmailDeliverPayload.modelDump, invitationEmailPayload, hid,
      getItemD, getItem, Value.lookup, List.lookup_cons, hvalid.1, hvalid.2]
  · cases h

omit [DecidableEq W] in
/-- The route leaves the office orderly: the invitation is new, so its job is the first. -/
theorem Orderly.invite {q : InvitationCreateRequest} {store : Post} (h : Orderly host r)
    (hid : Text.strip q.create.newId = q.create.newId)
    (hcreate : invitationCreate host q r.store = .ok store) :
    Orderly host { r with store := store } := by
  obtain ⟨_, -, hcreate⟩ := bind_eq_ok.mp hcreate
  obtain ⟨rawToken, -, hcreate⟩ := bind_eq_ok.mp hcreate
  obtain ⟨database, hsave, hcreate⟩ := bind_eq_ok.mp hcreate
  obtain ⟨hquiet, hnew, hthere⟩ := quiet_createInvitation hsave
  split at hcreate
  · obtain ⟨contract, hcontract, hcreate⟩ := bind_eq_ok.mp hcreate
    obtain ⟨⟨job, jobs⟩, henqueue, hcreate⟩ := bind_eq_ok.mp hcreate
    obtain rfl := pure_eq_ok.mp hcreate
    have henqueue := mapError_eq_ok.mp henqueue
    have hoffice := h.quiet hquiet
    rcases enqueueJob_adds henqueue with rfl | ⟨row, hinsert, -, hpayload, hbudget, hattempts, hqueued⟩
    · exact hoffice
    · have hitems : contract.modelDump = row.payload := Value.dict.inj hpayload
      have haddressee : deliverPayload row.payload = some q.create.newId := by
        rw [← hitems]
        have hnewId : Text.strip (q.create.invitation host rawToken).id =
            (q.create.invitation host rawToken).id := hid
        exact deliverPayload_contract hnewId hcontract
      refine hoffice.insertJob hinsert (fun _ => ?_) fun _ old hold hmail hsame => ?_
      · refine ⟨hbudget, by rw [hattempts], fun hrun => ?_, q.create.newId, haddressee, hthere,
          fun hdone => ?_⟩
        · rw [hqueued] at hrun
          cases hrun
        · rw [hqueued] at hdone
          cases hdone
      · -- the invitations of the jobs there are were stored before
        obtain ⟨id, hold', hstored, -⟩ := (h.rows old hold hmail).addressee
        rw [hold', haddressee] at hsame
        obtain rfl := Option.some.inj hsame
        rw [hnew] at hstored
        cases hstored
  · obtain ⟨deliveries, hadd, hcreate⟩ := bind_eq_ok.mp hcreate
    obtain rfl := pure_eq_ok.mp hcreate
    have hinsert := addRow_eq_ok.mp hadd
    have hquiet : MailQuiet r.store.mail { r.store.mail with
        database := { database with invitationDeliveries := deliveries } } := by
      refine ⟨rfl, hquiet.token, fun k row hrow => ?_, fun row hrow => ?_⟩
      · exact Table.get?_of_insert hinsert (hquiet.deliveries k row hrow)
      · rw [(Table.insert_eq_some hinsert).2, List.mem_append, List.mem_singleton] at hrow
        rcases hrow with hrow | rfl
        · exact hquiet.fresh row hrow
        · exact Or.inr (by simp [InvitationCreateRequest.localDelivery])
    exact h.quiet hquiet

/-- A call whose `save` leaves the deliveries alone leaves them alone as a whole. -/
theorem deliveries_perform {κ α : Type} {load : Database → Except ServiceError κ}
    {save : κ → Database → Except ServiceError Database}
    {answer : κ → Database → Except ServiceError α} {d : Database}
    (h : ∀ k d', save k d = .ok d' → d'.invitationDeliveries = d.invitationDeliveries) :
    ((perform load save answer).run d).2.invitationDeliveries = d.invitationDeliveries := by
  rcases perform_store load save answer d with hsame | ⟨k, d', -, hsave, hstore⟩
  · rw [hsame]
  · rw [hstore, h k d' hsave]

/-- The calls of the members record no delivery. -/
theorem deliveries_memberStep (host : TokenHost) (state : MemberState) (call : MemberCall) :
    (memberStep host state call).database.invitationDeliveries =
      state.database.invitationDeliveries := by
  cases call with
  | createWorkspace q =>
    refine deliveries_perform fun found d' hsave => ?_
    obtain ⟨_, -, hsave⟩ := bind_eq_ok.mp hsave
    obtain ⟨_, -, hsave⟩ := bind_eq_ok.mp hsave
    obtain ⟨_, -, hsave⟩ := bind_eq_ok.mp hsave
    obtain ⟨_, -, hsave⟩ := bind_eq_ok.mp hsave
    obtain rfl := pure_eq_ok.mp hsave
    rfl
  | createInvitation q =>
    refine deliveries_perform fun rawToken d' hsave => ?_
    obtain ⟨_, -, hsave⟩ := bind_eq_ok.mp hsave
    obtain ⟨_, -, hsave⟩ := bind_eq_ok.mp hsave
    obtain rfl := pure_eq_ok.mp hsave
    rfl
  | revokeInvitation q =>
    refine deliveries_perform fun invitation d' hsave => ?_
    obtain rfl := Except.ok.inj hsave
    rfl
  | acceptInvitation q =>
    refine deliveries_perform fun found d' hsave => ?_
    obtain ⟨_, -, hsave⟩ := bind_eq_ok.mp hsave
    obtain ⟨_, -, hsave⟩ := bind_eq_ok.mp hsave
    obtain rfl := pure_eq_ok.mp hsave
    rfl

/-- The calls of the members mail nothing themselves. -/
theorem quiet_memberStep (host : TokenHost) (w : MailWorld) (call : MemberCall) :
    MailQuiet w { w with database := (memberStep host ⟨w.database, []⟩ call).database } := by
  have hdeliveries := deliveries_memberStep host ⟨w.database, []⟩ call
  obtain ⟨-, htokens⟩ := Bool.and_eq_true_iff.mp (leavesMail_memberStep host ⟨w.database, []⟩ call)
  refine ⟨rfl, fun id row hrow => ?_, fun k row hrow => ?_, fun row hrow => Or.inl ?_⟩
  · have hany := List.all_eq_true.mp htokens row (Table.mem_of_get? hrow)
    rw [Table.key_of_get? hrow] at hany
    obtain ⟨row', hrow', hsame⟩ := (Option.any_eq_true _ _).mp hany
    exact ⟨row', hrow', of_decide_eq_true hsame⟩
  · rw [hdeliveries]
    exact hrow
  · rw [hdeliveries] at hrow
    exact hrow

/-- **One step.** -/
theorem Orderly.step {r' : PostOffice W} {a : PostAction W} (h : Orderly host r)
    (hcalm : Calm r a) (hn : postNext host r a = some r') : Orderly host r' := by
  cases a with
  | claim w workerId page now x =>
    simp only [postNext] at hn
    split at hn
    · split at hn
      · split at hn
        · next job s t hclaim =>
          obtain rfl := Option.some.inj hn
          exact h.claim hclaim
        · obtain rfl := Option.some.inj hn
          exact h
      · cases hn
    · cases hn
  | read w =>
    simp only [postNext] at hn
    split at hn
    · next job x hw =>
      obtain rfl := Option.some.inj hn
      exact h.read hw
    · cases hn
  | find w =>
    simp only [postNext] at hn
    split at hn
    · next e hw =>
      obtain rfl := Option.some.inj hn
      exact h.find hw
    · cases hn
  | record w =>
    simp only [postNext] at hn
    split at hn
    · next e hw =>
      split at hn
      · next mail hrecord =>
        obtain rfl := Option.some.inj hn
        exact h.record hw hrecord
      · obtain rfl := Option.some.inj hn
        have hknown := h.stages w
        rw [hw] at hknown
        exact h.goTo ⟨hknown.1, fun _ _ hok => by cases hok⟩ (fun _ hjob => by cases hjob)
          fun _ hid => by cases hid
    · cases hn
  | contact w =>
    simp only [postNext] at hn
    split at hn
    · next e hw =>
      obtain rfl := Option.some.inj hn
      exact h.contact hw
    · cases hn
  | settle w =>
    simp only [postNext] at hn
    split at hn
    · next e status errorCode hw =>
      obtain rfl := Option.some.inj hn
      exact h.settle hw
    · cases hn
  | acknowledge w now =>
    simp only [postNext] at hn
    split at hn
    · next job outcome hw =>
      obtain rfl := Option.some.inj hn
      exact h.acknowledge hw now
    · cases hn
  | crash w =>
    obtain rfl := Option.some.inj hn
    exact h.goTo trivial (fun _ hjob => by cases hjob) fun _ hid => by cases hid
  | requeue leaseTimeout now =>
    obtain rfl := Option.some.inj hn
    exact h.queueStep (requeue_step leaseTimeout now) (by simp)
  | replay jobId availableAt now =>
    simp only [postNext] at hn
    split at hn
    · next job s t hreplay =>
      obtain rfl := Option.some.inj hn
      exact h.queueStep (replay_step hreplay) hcalm
    · obtain rfl := Option.some.inj hn
      exact h
  | invite q =>
    simp only [postNext] at hn
    split at hn
    · next store hcreate =>
      obtain rfl := Option.some.inj hn
      exact h.invite hcalm hcreate
    · obtain rfl := Option.some.inj hn
      exact h
  | enqueue args =>
    simp only [postNext] at hn
    split at hn
    · cases hn
    · next htype =>
      split at hn
      · next job t henqueue =>
        obtain rfl := Option.some.inj hn
        exact h.enqueue htype henqueue
      · obtain rfl := Option.some.inj hn
        exact h
  | member call =>
    obtain rfl := Option.some.inj hn
    exact h.quiet (quiet_memberStep host r.store.mail call)

/-- The invariant of the whole post office. -/
theorem postOffice_orderly : Invariant (postOffice host (W := W)) Calm (Orderly host) where
  init r hinit := by
    obtain ⟨hjobs, hdeliveries, hsent, hstage⟩ := hinit
    have hnone : ∀ id, messagesFor r.store.mail id = [] := by
      intro id
      rw [messagesFor, hsent]
      rfl
    refine ⟨fun id => .of_none (hnone id), fun row hrow hmail => absurd hmail (hjobs row hrow),
      fun row hrow _ _ hmail => absurd hmail (hjobs row hrow), fun row hrow => ?_, fun w => ?_,
      fun w w' job _ hjob => ?_, fun w w' id hid => ?_⟩
    · rw [hdeliveries] at hrow
      cases hrow
    · rw [hstage]
      trivial
    · rw [hstage] at hjob
      cases hjob
    · rw [hstage] at hid
      cases hid
  step _ _ _ h hcalm hn := h.step hcalm hn

end Others

/-- **An invitation is mailed once.** In every calm run, whatever workers do side by side
and wherever they die: one message at most is handed over for an invitation; a message
handed over has a recorded delivery, and its token opens the invitation; a delivery that
counts as sent has its message; and so has a job that succeeded. -/
theorem mailed_once {host : TokenHost} {r : PostOffice W}
    (h : ReachableBy (postOffice host) Calm r) :
    (∀ id, (messagesFor r.store.mail id).length ≤ 1) ∧
    (∀ id, ∀ m ∈ messagesFor r.store.mail id, Attempted r.store.mail id ∧
      HoldsToken host r.store.mail id m.token ∧ m.Carries) ∧
    (∀ row ∈ r.store.mail.database.invitationDeliveries.rows, row.status = "sent" →
      (messagesFor r.store.mail row.invitationId).length = 1) ∧
    ∀ row ∈ r.store.jobs.rows, row.jobType = invitationEmailDeliverJob → row.status = .succeeded →
      ∃ id, deliverPayload row.payload = some id ∧ (messagesFor r.store.mail id).length = 1 := by
  have horderly : Orderly host r := postOffice_orderly.reachable h
  have hone : ∀ id, messagesFor r.store.mail id ≠ [] → (messagesFor r.store.mail id).length = 1 := by
    intro id hne
    have hle := (horderly.posted id).single
    have hpos := List.length_pos_iff.mpr hne
    omega
  refine ⟨fun id => (horderly.posted id).single, fun id m hm => ?_, fun row hrow hstatus => ?_,
    fun row hrow hmail hdone => ?_⟩
  · have hposted := horderly.posted id
    exact ⟨hposted.recorded (List.ne_nil_of_mem hm), (hposted.token m hm).1, (hposted.token m hm).2⟩
  · exact hone _ (horderly.sent row hrow hstatus)
  · obtain ⟨id, hid, -, hmessages⟩ := (horderly.rows row hrow hmail).addressee
    exact ⟨id, hid, hone id (hmessages hdone)⟩

/-! Bob is invited; the worker dies after it has contacted the server, and the job is
replayed. -/

def emptyOffice : PostOffice (Bool) := ⟨⟨∅, ⟨Database.empty, []⟩⟩, fun _ => .idle⟩

def mailBobRequest : InvitationCreateRequest :=
  ⟨mailSettings "the-first-secret-of-the-installation", inviteBob, "job-1", "d-0", 1⟩

/-- An execution on the job of Bob's invitation. -/
def mailBobNow (deliveryId : String) : Circumstances :=
  ⟨mailBob "the-first-secret-of-the-installation" deliveryId, "", .ok none⟩

/-- The job of Bob's invitation. -/
def bobJob : BackgroundJob :=
  let invitation := inviteBob.invitation tokenHost "token"
  let contract := invitationEmailPayload invitation
  Jobs.newJob (invitationEmailArgs invitation "r-2" false "job-1" 1 contract)
    invitationEmailDeliverJob (some "invitation-email:i-1") contract.modelDump

/-- The job after a claim at `claimed`, a lease that ran out and a replay at `now`. -/
def replayedJob (claimed now : Time) : BackgroundJob :=
  Jobs.replay now none (Jobs.requeueExpired (now - 1) (Jobs.claimed claimed "worker-a" bobJob))

def inviteAndClaim : List (PostAction (Bool)) :=
  [.member (.createWorkspace ⟨alice, "Acme", "acme", "r-1", "w-1", "m-1", fun _ => 0⟩),
    .invite mailBobRequest, .claim false "worker-a" [bobJob] 2 (mailBobNow "d-1"), .read false,
    .find false]

/-- The office when the worker is dead and its lease has run out. -/
def leaseOver : PostOffice (Bool) :=
  ((postOffice tokenHost).run emptyOffice
    (inviteAndClaim ++ [.record false, .contact false, .crash false, .requeue 5 9])).get
      (by decide +kernel)

/-- The office when the job was replayed and tried again. -/
def triedAgain : PostOffice (Bool) :=
  ((postOffice tokenHost).run leaseOver
    [.replay "job-1" none 10, .claim true "worker-b" [replayedJob 2 10] 11 (mailBobNow "d-2"),
      .read true, .find true, .acknowledge true 12]).get (by decide +kernel)

/-- A delivery that failed, was replayed and failed again. -/
theorem mailed_once_replayed :
    ReachableBy (postOffice tokenHost) Calm triedAgain ∧
      (triedAgain.store.jobs.rows.map (·.status)) = [.failed] ∧
      (messagesFor triedAgain.store.mail "i-1").length ≤ 1 := by
  have hinit : (postOffice tokenHost).init emptyOffice := ⟨by simp [emptyOffice], rfl, rfl, rfl⟩
  have hover : ReachableBy (postOffice tokenHost) Calm leaseOver := by
    refine .of_run (.init hinit) (fun a ha r => ?_) (Option.some_get _).symm
    simp only [inviteAndClaim, List.cons_append, List.nil_append, List.mem_cons,
      List.not_mem_nil, or_false] at ha
    rcases ha with rfl | rfl | rfl | rfl | rfl | rfl | rfl | rfl | rfl
    · trivial
    · show Text.strip "i-1" = "i-1"
      decide
    all_goals trivial
  have hreplay : ∃ r, (postOffice tokenHost).next leaseOver (.replay "job-1" none 10) = some r ∧
      (postOffice tokenHost).run r
        [.claim true "worker-b" [replayedJob 2 10] 11 (mailBobNow "d-2"), .read true, .find true,
          .acknowledge true 12] = some triedAgain :=
    System.run_cons_eq_some.mp (Option.some_get _).symm
  obtain ⟨r, hnext, hrest⟩ := hreplay
  have hcalm : Calm leaseOver (.replay "job-1" none 10) := by
    intro w job hjob
    have hidle : ∀ w, (leaseOver.stage w).early.isNone := by decide +kernel
    have hnone := hidle w
    rw [hjob] at hnone
    cases hnone
  have hreach : ReachableBy (postOffice tokenHost) Calm triedAgain := by
    refine .of_run (hover.step hcalm hnext) (fun a ha r => ?_) hrest
    simp only [List.mem_cons, List.not_mem_nil, or_false] at ha
    rcases ha with rfl | rfl | rfl | rfl <;> trivial
  exact ⟨hreach, by decide +kernel, (mailed_once hreach).1 "i-1"⟩

/-- Replayed while the first worker has looked but not recorded, the job is mailed twice. -/
theorem overlap_mails_twice :
    ∃ r : PostOffice (Bool), Reachable (postOffice tokenHost) r ∧
      (messagesFor r.store.mail "i-1").length = 2 := by
  have hends : ((postOffice tokenHost).run emptyOffice (inviteAndClaim ++
      [.requeue 5 9, .replay "job-1" none 10,
        .claim true "worker-b" [replayedJob 2 10] 11 (mailBobNow "d-2"), .read true, .find true,
        .record false, .record true, .contact false, .contact true])).map (fun r =>
      (messagesFor r.store.mail "i-1").length) = some 2 := by decide +kernel
  obtain ⟨r, hrun, hlast⟩ := Option.map_eq_some_iff.mp hends
  exact ⟨r, .of_run (.init ⟨by simp [emptyOffice], rfl, rfl, rfl⟩) hrun, hlast⟩

end DeployGuard.Service
