import DeployGuard.Jobs.Producers
import DeployGuard.Service.RoundTrip

/-!
# Invitation emails from the route to the mail server

The whole way of an invitation email, one step per statement: the route stores the
invitation and its job in one transaction, workers claim jobs, read the invitation, look
for a recorded delivery, record one, contact the mail server, store the outcome and
acknowledge. Any number of workers do this in any order; a worker may die anywhere, a
lease may run out under it, jobs may be replayed, other jobs are worked on as well.

> `execution_alone`: a worker whose statements nobody comes between does what the handler
> does as one call.
-/

namespace DeployGuard.Service

open Interleaving Raise Transition
open Jobs (BackgroundJob JobTable JobStatus EnqueueArgs FailArgs)

/-! ## The route -/

/-- The job table beside the database and the mail server. -/
structure Post where
  jobs : JobTable
  mail : MailWorld
  deriving DecidableEq

/-- A request to `invitation_create`, with what it draws. -/
structure InvitationCreateRequest where
  settings : MailSettings
  create : CreateInvitation
  newJobId : String
  newDeliveryId : String
  now : Time

/-- The row of `record_local_invitation_delivery`. -/
def InvitationCreateRequest.localDelivery (q : InvitationCreateRequest) : InvitationDelivery where
  id := q.newDeliveryId
  invitationId := q.create.newId
  provider := "development_outbox"
  status := "development_outbox"
  providerMessageId := none
  errorCode := none
  attemptedAt := q.now

/-- `invitation_create`: the invitation and its job, or its local delivery, in one commit. -/
def invitationCreate (host : TokenHost) (q : InvitationCreateRequest) (p : Post) :
    Except ServiceError Post := do
  let mode := q.settings.emailDeliveryMode host.toHost
  raiseIf (mode = "disabled")
    (.domain "Invitation delivery is not configured" "invitation_delivery_not_configured" 503)
  let rawToken ← q.create.load host p.mail.database
  let database ← q.create.save host rawToken p.mail.database
  if mode = "smtp" then
    let invitation := q.create.invitation host rawToken
    let contract ← (invitationEmailPayload invitation).validate
    let (_, jobs) ← (Jobs.enqueueJob p.jobs (invitationEmailArgs invitation q.create.requestId false
      q.newJobId q.now contract)).mapError .queue
    pure ⟨jobs, { p.mail with database := database }⟩
  else
    let deliveries ← addRow database.invitationDeliveries q.localDelivery
    pure ⟨p.jobs, { p.mail with database := { database with invitationDeliveries := deliveries } }⟩

/-! ## A worker -/

/-- What an execution meets besides the store: its settings, clock, drawn identifier and
server, the text of an exception that is not the handler's own, and for a job of another
type what its handler comes to. -/
structure Circumstances where
  attempt : DeliveryAttempt
  exceptionText : String
  foreign : Except FailArgs (Option Items)

/-- An execution that has read its invitation. -/
structure Errand where
  job : BackgroundJob
  attempt : DeliveryAttempt
  exceptionText : String
  invitation : Invitation
  claimToken : String

inductive CourierStage where
  | idle
  | claimed (job : BackgroundJob) (x : Circumstances)
  | looking (e : Errand)
  -- no delivery is recorded
  | unrecorded (e : Errand)
  | recorded (e : Errand)
  -- the session with the server is over, the delivery is to be set to its result
  | answered (e : Errand) (status : String) (errorCode : Option String)
  -- the handler has returned or raised
  | ended (job : BackgroundJob) (outcome : Except FailArgs (Option Items))

/-- What `run_one_job` makes of an exception of the handler. -/
def DeliveryError.failArgs (exceptionText : String) : DeliveryError → FailArgs
  | .permanent message | .uncertain message => { error := message, retryable := false }
  | .integrityError | .other => { error := exceptionText }

/-- The mapping the handler returns. -/
def DeliveryResult.items (result : DeliveryResult) : Items :=
  [("delivery_status", .str result.deliveryStatus), ("invitation_id", .str result.invitationId)]

/-- The handler's attempt at a job: the payload and the workspace are the job's. -/
def Circumstances.attemptAt (x : Circumstances) (job : BackgroundJob) : DeliveryAttempt :=
  { x.attempt with rawPayload := job.payload, contextWorkspaceId := job.workspaceId }

/-- A job is claimed; one of another type goes to its own handler. -/
def takeUp (job : BackgroundJob) (x : Circumstances) : CourierStage :=
  if job.jobType = invitationEmailDeliverJob then .claimed job x else .ended job x.foreign

/-- `handle` up to the lookup of a delivery. -/
def readInvitation (host : TokenHost) (w : MailWorld) (job : BackgroundJob) (x : Circumstances) :
    CourierStage :=
  let attempt := x.attemptAt job
  match attempt.reference host w with
  | .error e => .ended job (.error (e.failArgs x.exceptionText))
  | .ok invitation =>
    match attempt.claimToken host invitation with
    | .error e => .ended job (.error (e.failArgs x.exceptionText))
    | .ok claimToken => .looking ⟨job, attempt, x.exceptionText, invitation, claimToken⟩

namespace Errand

variable (e : Errand) (host : TokenHost)

def sent : CourierStage :=
  .ended e.job (.ok (some (DeliveryResult.items ⟨"sent", e.invitation.id⟩)))

def raised (error : DeliveryError) : CourierStage :=
  .ended e.job (.error (error.failArgs e.exceptionText))

/-- The lookup of a recorded delivery. -/
def find (w : MailWorld) : CourierStage :=
  match newestDelivery w e.invitation.id with
  | some existing =>
    if existing.status = "sent" then e.sent
    else e.raised (.uncertain s!"invitation delivery is already in '{existing.status}' state")
  | none => .unrecorded e

/-- The commit before the server is contacted. To assign the digest the invitation was
loaded with is no change, and no column of the invitation is written. -/
def record (w : MailWorld) : Option MailWorld :=
  if e.invitation.tokenHash = tokenDigest host.toHost e.claimToken then
    (w.database.invitationDeliveries.insert (e.attempt.delivery e.invitation)).map fun deliveries =>
      { w with database := { w.database with invitationDeliveries := deliveries } }
  else e.attempt.begin host e.invitation e.claimToken w

/-- An exception of the session with the server. -/
def failed (caught : Bool) : CourierStage :=
  if caught then .answered e "failed" (some "provider_unavailable") else e.raised .other

/-- The session with the server. -/
def contact (w : MailWorld) : MailWorld × CourierStage :=
  match e.attempt.smtp with
  | .failedBefore caught => (w, e.failed caught)
  | .failedAfter caught => (e.attempt.send host e.invitation e.claimToken w, e.failed caught)
  | .delivered => (e.attempt.send host e.invitation e.claimToken w, .answered e "sent" none)

/-- After the result is stored, the handler returns or raises. -/
def answer (status : String) : CourierStage :=
  if status = "sent" then e.sent
  else e.raised (.uncertain
    "SMTP delivery outcome is uncertain; issue a new invitation instead of retrying")

end Errand

/-- The end of `run_one_job`, by the session that holds the claimed job. An exception here
ends the worker and leaves the table alone. -/
def acknowledge (jobs : JobTable) (job : BackgroundJob) (outcome : Except FailArgs (Option Items))
    (now : Time) : JobTable :=
  let session := Jobs.Session.fresh.hold job
  match outcome with
  | .ok result =>
    match Jobs.completeJob session jobs job.id result now with
    | .ok (_, _, t) => t
    | .error _ => jobs
  | .error args =>
    match Jobs.failJob session jobs job.id args now with
    | .ok (_, _, t) => t
    | .error _ => jobs

/-! ## The system -/

inductive PostAction (W : Type) where
  | claim (w : W) (workerId : String) (page : List BackgroundJob) (now : Time) (x : Circumstances)
  | read (w : W)
  | find (w : W)
  | record (w : W)
  | contact (w : W)
  | settle (w : W)
  | acknowledge (w : W) (now : Time)
  | crash (w : W)
  | requeue (leaseTimeout now : Time)
  | replay (jobId : String) (availableAt : Option Time) (now : Time)
  | invite (q : InvitationCreateRequest)
  /-- a producer of other jobs -/
  | enqueue (args : EnqueueArgs)
  /-- a call that makes or settles invitations, or accepts one -/
  | member (call : MemberCall)

variable {W : Type} [DecidableEq W]

abbrev PostOffice (W : Type) := Parties W Post CourierStage

/-- A worker goes on to a stage, and the mail is what it leaves. -/
def goOn (r : PostOffice W) (w : W) (stage : CourierStage) (mail : MailWorld) : PostOffice W :=
  r.write w stage { r.store with mail := mail }

/-- A statement of the office. -/
def postNext (host : TokenHost) (r : PostOffice W) : PostAction W → Option (PostOffice W)
  | .claim w workerId page now x =>
    match r.stage w with
    | .idle =>
      if Jobs.IsReadyPage now r.store.jobs page then
        match Jobs.claimNextJob .fresh r.store.jobs page workerId now with
        | .ok (some job, _, t) => some (r.write w (takeUp job x) { r.store with jobs := t })
        | _ => some r
      else none
    | _ => none
  | .read w =>
    match r.stage w with
    | .claimed job x => some (r.goTo w (readInvitation host r.store.mail job x))
    | _ => none
  | .find w =>
    match r.stage w with
    | .looking e => some (r.goTo w (e.find r.store.mail))
    | _ => none
  | .record w =>
    match r.stage w with
    | .unrecorded e =>
      match e.record host r.store.mail with
      | some mail => some (goOn r w (.recorded e) mail)
      | none => some (r.goTo w (e.raised .integrityError))
    | _ => none
  | .contact w =>
    match r.stage w with
    | .recorded e =>
      some (goOn r w (e.contact host r.store.mail).2 (e.contact host r.store.mail).1)
    | _ => none
  | .settle w =>
    match r.stage w with
    | .answered e status errorCode =>
      some (goOn r w (e.answer status) (e.attempt.settle status errorCode r.store.mail))
    | _ => none
  | .acknowledge w now =>
    match r.stage w with
    | .ended job outcome =>
      some (r.write w .idle { r.store with jobs := acknowledge r.store.jobs job outcome now })
    | _ => none
  | .crash w => some (r.goTo w .idle)
  | .requeue leaseTimeout now =>
    let jobs := (Jobs.requeueExpiredJobs leaseTimeout now r.store.jobs).2
    some { r with store := { r.store with jobs := jobs } }
  | .replay jobId availableAt now =>
    match Jobs.replayDeadLetterJob .fresh r.store.jobs jobId availableAt now with
    | .ok (_, _, t) => some { r with store := { r.store with jobs := t } }
    | .error _ => some r
  | .invite q =>
    match invitationCreate host q r.store with
    | .ok store => some { r with store := store }
    | .error _ => some r
  | .enqueue args =>
    if Text.strip args.jobType = invitationEmailDeliverJob then none
    else
      match Jobs.enqueueJob r.store.jobs args with
      | .ok (_, t) => some { r with store := { r.store with jobs := t } }
      | .error _ => some r
  | .member call =>
    let database := (memberStep host ⟨r.store.mail.database, []⟩ call).database
    some { r with store := { r.store with mail := { r.store.mail with database := database } } }

/-- The office: no job of the kind, no delivery and no message at the start. -/
def postOffice (host : TokenHost) : System (PostOffice W) (PostAction W) where
  init r := (∀ row ∈ r.store.jobs.rows, row.jobType ≠ invitationEmailDeliverJob) ∧
    r.store.mail.database.invitationDeliveries.rows = [] ∧ r.store.mail.sent = [] ∧
    r.stage = fun _ => .idle
  next := postNext host

/-! ## An execution by itself -/

/-- What `run_one_job` gets from the handler. -/
def handlerOutcome (exceptionText : String) :
    Except DeliveryError DeliveryResult → Except FailArgs (Option Items)
  | .ok result => .ok (some result.items)
  | .error e => .error (e.failArgs exceptionText)

section Alone

variable {host : TokenHost} {r : PostOffice W} {w : W} {e : Errand} {s : Session.State MailWorld}

/-- The office after a worker's execution has ended as a call does. -/
def EndsAs (host : TokenHost) (r : PostOffice W) (w : W) (job : BackgroundJob) (text : String)
    (ended : Except DeliveryError DeliveryResult × Session.State MailWorld) : Prop :=
  ∃ steps r', (postOffice host).run r steps = some r' ∧
    r'.store = ⟨r.store.jobs, ended.2.base⟩ ∧
    r'.stage w = .ended job (handlerOutcome text ended.1)

theorem EndsAs.step {r' : PostOffice W} {a : PostAction W} {job : BackgroundJob} {text : String}
    {ended : Except DeliveryError DeliveryResult × Session.State MailWorld}
    (hn : postNext host r a = some r') (hjobs : r'.store.jobs = r.store.jobs)
    (h : EndsAs host r' w job text ended) : EndsAs host r w job text ended := by
  obtain ⟨steps, r'', hrun, hstore, hstage⟩ := h
  refine ⟨a :: steps, r'', System.run_cons_eq_some.mpr ⟨r', hn, hrun⟩, ?_, hstage⟩
  rw [hstore, hjobs]

theorem EndsAs.now {job : BackgroundJob} {text : String}
    {ended : Except DeliveryError DeliveryResult × Session.State MailWorld}
    (hmail : ended.2.base = r.store.mail)
    (hw : r.stage w = .ended job (handlerOutcome text ended.1)) :
    EndsAs host r w job text ended := ⟨[], r, rfl, by rw [hmail], hw⟩

theorem settled_alone {status : String} {errorCode : Option String}
    {ended : Except DeliveryError DeliveryResult × Session.State MailWorld}
    (hw : r.stage w = .answered e status errorCode)
    (hmail : ended.2.base = e.attempt.settle status errorCode r.store.mail)
    (hstage : e.answer status = .ended e.job (handlerOutcome e.exceptionText ended.1)) :
    EndsAs host r w e.job e.exceptionText ended := by
  have hn : postNext host r (.settle w) =
      some (goOn r w (e.answer status) (e.attempt.settle status errorCode r.store.mail)) := by
    simp only [postNext, hw]
  refine .step hn rfl (.now hmail ?_)
  rw [← hstage]
  exact Parties.write_self ..

theorem contact_alone (hw : r.stage w = .recorded e) (hbase : s.base = r.store.mail)
    (hcur : s.cur = r.store.mail) :
    EndsAs host r w e.job e.exceptionText (e.attempt.contact host e.invitation e.claimToken s) := by
  have hn : postNext host r (.contact w) = some (goOn r w (e.contact host r.store.mail).2
      (e.contact host r.store.mail).1) := by simp only [postNext, hw]
  refine .step hn rfl ?_
  -- the exception handler, from a session that holds the mail the worker sees
  have hfail : ∀ (r' : PostOffice W) (s' : Session.State MailWorld) (caught : Bool),
      r'.stage w = e.failed caught → s'.base = r'.store.mail → s'.cur = r'.store.mail →
      EndsAs host r' w e.job e.exceptionText (e.attempt.fail caught s') := by
    intro r' s' caught hstage hbase' hcur'
    cases caught with
    | true =>
      refine settled_alone hstage ?_ rfl
      show e.attempt.settle _ _ s'.cur = _
      rw [hcur']
    | false => exact .now hbase' hstage
  unfold Errand.contact DeliveryAttempt.contact
  cases hsmtp : e.attempt.smtp with
  | failedBefore caught =>
    exact hfail _ s caught (Parties.write_self ..) hbase hcur
  | failedAfter caught =>
    refine hfail _ (s.affected (e.attempt.send host e.invitation e.claimToken)) caught
      (Parties.write_self ..) ?_ ?_
    · show e.attempt.send host e.invitation e.claimToken s.base = _
      rw [hbase]
      rfl
    · show e.attempt.send host e.invitation e.claimToken s.cur = _
      rw [hcur]
      rfl
  | delivered =>
    refine settled_alone (Parties.write_self ..) ?_ rfl
    show e.attempt.settle _ _ (e.attempt.send host e.invitation e.claimToken s.cur) = _
    rw [hcur]
    rfl

/-- The digests of the invitations are unique. -/
def UniqueTokens (w : MailWorld) : Prop :=
  ∀ row ∈ w.database.invitations.rows, ∀ row' ∈ w.database.invitations.rows,
    row.tokenHash = row'.tokenHash → row.id = row'.id

/-- To write the digest that is there already writes nothing. -/
theorem record_eq_begin {mail : MailWorld} (htokens : UniqueTokens mail)
    (hget : mail.database.invitations.get? e.invitation.id = some e.invitation) :
    e.record host mail = e.attempt.begin host e.invitation e.claimToken mail := by
  unfold Errand.record
  split
  · next hsame =>
    have hmem := Table.mem_of_get? hget
    have hfree : ¬∃ row ∈ mail.database.invitations.rows, row.id ≠ e.invitation.id ∧
        row.tokenHash = tokenDigest host.toHost e.claimToken := by
      intro h
      obtain ⟨row, hrow, hne, hhash⟩ := h
      exact hne (htokens row hrow e.invitation hmem (hhash.trans hsame.symm))
    have hset : ∀ d : Database, d.invitations = mail.database.invitations →
        setInvitation d e.invitation.id
          (DeliveryAttempt.setToken (tokenDigest host.toHost e.claimToken))
          (DeliveryAttempt.setToken_id _) = d := by
      intro d hd
      have hrow : ∀ row ∈ d.invitations.rows, row.id = e.invitation.id →
          DeliveryAttempt.setToken (tokenDigest host.toHost e.claimToken) row = row := by
        intro row hrow hid
        obtain rfl := mail.database.invitations.eq_of_key_eq (hd ▸ hrow) hmem hid
        rw [DeliveryAttempt.setToken, ← hsame]
      have hrows : (setInvitation d e.invitation.id
          (DeliveryAttempt.setToken (tokenDigest host.toHost e.claimToken))
          (DeliveryAttempt.setToken_id _)).invitations = d.invitations := by
        refine Table.ext_rows ((List.map_congr_left fun row hmem => ?_).trans (List.map_id _))
        by_cases hid : row.id = e.invitation.id
        · rw [if_pos (decide_eq_true hid), hrow row hmem hid]
          rfl
        · rw [if_neg (by simpa using hid)]
          rfl
      exact congrArg (fun invitations => { d with invitations := invitations }) hrows
    unfold DeliveryAttempt.begin
    dsimp only
    rw [if_neg hfree]
    refine congrArg (Option.map · _) (funext fun deliveries => ?_)
    rw [hset]
    rfl
  · rfl

theorem EndsAs.congr {job : BackgroundJob} {text : String}
    {ended ended' : Except DeliveryError DeliveryResult × Session.State MailWorld}
    (h : EndsAs host r w job text ended) (hbase : ended'.2.base = ended.2.base)
    (hresult : handlerOutcome text ended'.1 = handlerOutcome text ended.1) :
    EndsAs host r w job text ended' := by
  obtain ⟨steps, r', hrun, hstore, hstage⟩ := h
  exact ⟨steps, r', hrun, by rw [hstore, hbase], by rw [hstage, hresult]⟩

theorem deliver_alone (hw : r.stage w = .looking e) (hbase : s.base = r.store.mail)
    (hcur : s.cur = r.store.mail) (htokens : UniqueTokens r.store.mail)
    (hget : r.store.mail.database.invitations.get? e.invitation.id = some e.invitation) :
    EndsAs host r w e.job e.exceptionText
      (e.attempt.deliverInvitationSmtp host e.invitation e.claimToken s) := by
  have hn : postNext host r (.find w) = some (r.goTo w (e.find r.store.mail)) := by
    simp only [postNext, hw]
  refine .step hn rfl ?_
  unfold DeliveryAttempt.deliverInvitationSmtp
  rw [Session.Call.read_bind_apply, hcur]
  cases hfound : newestDelivery r.store.mail e.invitation.id with
  | some existing =>
    by_cases hsent : existing.status = "sent"
    · have hfind : e.find r.store.mail = e.sent := by simp only [Errand.find, hfound, if_pos hsent]
      rw [hfind]
      dsimp only
      rw [if_pos hsent]
      exact .now hbase (Parties.goTo_self ..)
    · have hfind : e.find r.store.mail = e.raised (.uncertain
          s!"invitation delivery is already in '{existing.status}' state") := by
        simp only [Errand.find, hfound, if_neg hsent]
      rw [hfind]
      dsimp only
      rw [if_neg hsent]
      exact .now hbase (Parties.goTo_self ..)
  | none =>
    have hfind : e.find r.store.mail = .unrecorded e := by simp only [Errand.find, hfound]
    rw [hfind]
    dsimp only
    rw [Session.Call.read_bind_apply, hcur, ← record_eq_begin htokens hget]
    have hstage : (r.goTo w (.unrecorded e)).stage w = .unrecorded e := Parties.goTo_self ..
    cases hrecord : e.record host r.store.mail with
    | none =>
      have hnext : postNext host (r.goTo w (.unrecorded e)) (.record w) =
          some ((r.goTo w (.unrecorded e)).goTo w (e.raised .integrityError)) := by
        simp only [postNext, hstage, Parties.goTo_store, hrecord]
      exact .step hnext rfl (.now hbase (Parties.goTo_self ..))
    | some mail =>
      have hnext : postNext host (r.goTo w (.unrecorded e)) (.record w) =
          some (goOn (r.goTo w (.unrecorded e)) w (.recorded e) mail) := by
        simp only [postNext, hstage, Parties.goTo_store, hrecord]
      refine .step hnext rfl ?_
      dsimp only
      rw [Session.Call.write_bind_apply, Session.Call.commit_bind_apply]
      exact contact_alone (Parties.write_self ..) rfl rfl

/-- **An execution by itself is the call.** A worker whose statements nobody comes between
leaves the mail as `handle` leaves it and ends with what `handle` returns or raises. -/
theorem execution_alone {job : BackgroundJob} {x : Circumstances} (hw : r.stage w = .claimed job x)
    (htokens : UniqueTokens r.store.mail) :
    EndsAs host r w job x.exceptionText
      ((x.attemptAt job).handle host (Session.State.start r.store.mail)) := by
  have hn : postNext host r (.read w) =
      some (r.goTo w (readInvitation host r.store.mail job x)) := by
    simp only [postNext, hw]
  refine .step hn rfl ?_
  unfold DeliveryAttempt.handle
  cases hreference : (x.attemptAt job).reference host r.store.mail with
  | error error =>
    have hread : readInvitation host r.store.mail job x =
        .ended job (.error (error.failArgs x.exceptionText)) := by
      simp only [readInvitation, hreference]
    rw [hread, Session.Call.query_error_bind hreference]
    exact .now rfl (Parties.goTo_self ..)
  | ok invitation =>
    rw [Session.Call.query_ok_bind hreference]
    cases htoken : (x.attemptAt job).claimToken host invitation with
    | error error =>
      have hread : readInvitation host r.store.mail job x =
          .ended job (.error (error.failArgs x.exceptionText)) := by
        simp only [readInvitation, hreference, htoken]
      rw [hread, Session.Call.lift_error_bind rfl]
      exact .now rfl (Parties.goTo_self ..)
    | ok claimToken =>
      have hread : readInvitation host r.store.mail job x =
          .looking ⟨job, x.attemptAt job, x.exceptionText, invitation, claimToken⟩ := by
        simp only [readInvitation, hreference, htoken]
      rw [hread, Session.Call.lift_ok_bind rfl, Session.Call.attempt_bind_apply]
      let e : Errand := ⟨job, x.attemptAt job, x.exceptionText, invitation, claimToken⟩
      have hlooking : (r.goTo w (.looking e)).stage w = .looking e := Parties.goTo_self ..
      have hdeliver : EndsAs host (r.goTo w (.looking e)) w job x.exceptionText
          ((x.attemptAt job).deliverInvitationSmtp host invitation claimToken
            (Session.State.start r.store.mail)) :=
        deliver_alone hlooking rfl rfl htokens (reference_ok hreference)
      -- an uncertain delivery is raised as a permanent error, which fails the job alike
      generalize (x.attemptAt job).deliverInvitationSmtp host invitation claimToken
        (Session.State.start r.store.mail) = ended at hdeliver ⊢
      obtain ⟨result, s'⟩ := ended
      refine hdeliver.congr ?_ ?_
      · cases result with
        | ok result => rfl
        | error error => cases error <;> rfl
      · cases result with
        | ok result => rfl
        | error error => cases error <;> rfl

end Alone

end DeployGuard.Service
