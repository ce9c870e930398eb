import DeployGuard.Service.Members

/-!
# Invitation emails

The handler of `invitation.email.deliver`, on the database and a mail server that
keeps every message it was handed. SMTP has no way to repeat a message safely, so
the delivery is recorded before the server is contacted, and a recorded delivery is
never tried again:

> `Posted`: a message was handed over for an invitation only if a delivery is
> recorded, there is one message at most, and the invitation holds the digest of the
> token in it.

Every crash point of an execution has the property (`deliver_safe`), so every state
of a run of executions has it, whatever settings each of them runs with.
-/

namespace DeployGuard.Service

open Interleaving Raise Session Session.Call Transition

/-! ## The message -/

/-- The settings of an execution. -/
structure MailSettings where
  environment : String
  frontendPublicUrl : String
  smtpHost : String
  smtpFromEmail : String
  invitationTokenSecret : String

/-- `email_delivery_mode`. -/
def MailSettings.emailDeliveryMode (host : Host) (settings : MailSettings) : String :=
  if Text.strip settings.smtpHost ≠ "" ∧ Text.strip settings.smtpFromEmail ≠ "" then "smtp"
  else if host.lower (Text.strip settings.environment) ≠ "production" then "development_outbox"
  else "disabled"

structure EmailMessage where
  sender : String
  recipient : String
  subject : String
  text : String
  html : String
  deriving DecidableEq

/-- `invite_url`. -/
def inviteUrl (settings : MailSettings) (claimToken : String) : String :=
  let frontend := Text.rstripChar '/' settings.frontendPublicUrl
  s!"{frontend}/accept-invite?token={claimToken}"

def inviteMessage (host : Host) (settings : MailSettings) (invitation : Invitation)
    (claimToken : String) : EmailMessage where
  sender := settings.smtpFromEmail
  recipient := invitation.email
  subject := "You were invited to a DeployGuard workspace"
  text := "You have been invited to a DeployGuard workspace.\n\n" ++
    s!"Accept the invitation: {inviteUrl settings claimToken}\n\n" ++
    s!"This invitation expires at {host.isoformat invitation.expiresAt}."
  html := "<p>You have been invited to a DeployGuard workspace.</p>" ++
    s!"<p><a href=\"{inviteUrl settings claimToken}\">Accept invitation</a></p>" ++
    s!"<p>This invitation expires at {host.isoformat invitation.expiresAt}.</p>"

/-- A message `send_message` was called with. -/
structure SentMessage where
  invitationId : String
  token : String
  message : EmailMessage
  deriving DecidableEq

/-- The database and the mail server. -/
structure MailWorld where
  database : Database
  sent : List SentMessage
  deriving DecidableEq

/-- What becomes of the connection to the server. Only an `OSError` or an
`SMTPException` is caught. -/
inductive SmtpOutcome where
  /-- raised before `send_message` is reached -/
  | failedBefore (caught : Bool)
  /-- `send_message` was called, and it or the end of the session raised -/
  | failedAfter (caught : Bool)
  | delivered
  deriving DecidableEq

/-! ## The handler -/

/-- What the delivery raises. -/
inductive DeliveryError where
  | permanent (message : String)
  /-- `InvitationDeliveryUncertain` -/
  | uncertain (message : String)
  | integrityError
  /-- raised by the mail library and not caught -/
  | other
  deriving DecidableEq

abbrev MailCall (α : Type) : Type := Session.Call MailWorld DeliveryError α

structure DeliveryResult where
  deliveryStatus : String
  invitationId : String
  deriving DecidableEq

/-- One execution of the handler. -/
structure DeliveryAttempt where
  settings : MailSettings
  rawPayload : Items
  contextWorkspaceId : Option String
  newId : String
  clock : Nat → Time
  smtp : SmtpOutcome

/-- `InvitationEmailDeliverPayload.model_validate`, down to the identifier. -/
def deliverPayload (items : Items) : Option String :=
  if items.all fun item => item.1 = "schema_version" || item.1 = "invitation_id" then
    if getItemD items "schema_version" (.int 1) = .int 1 then
      match getItem items "invitation_id" with
      | .str value =>
        let normalized := Text.strip value
        if normalized ≠ "" ∧ normalized.length ≤ 160 then some normalized else none
      | _ => none
    else none
  else none

/-- `ORDER BY attempted_at DESC LIMIT 1`. -/
def newestDelivery (w : MailWorld) (invitationId : String) : Option InvitationDelivery :=
  ((w.database.invitationDeliveries.select fun row =>
    row.invitationId = invitationId).insertionSort fun a b => b.attemptedAt ≤ a.attemptedAt).head?

namespace DeliveryAttempt

variable (a : DeliveryAttempt) (host : TokenHost)

/-- The row that is stored before the server is contacted. -/
def delivery (invitation : Invitation) : InvitationDelivery where
  id := a.newId
  invitationId := invitation.id
  provider := "smtp"
  status := "publishing"
  providerMessageId := none
  errorCode := none
  attemptedAt := a.clock 1

def setToken (tokenHash : String) (row : Invitation) : Invitation :=
  { row with tokenHash := tokenHash }

/-- A new token is stored in the same row. -/
theorem setToken_id (tokenHash : String) (row : Invitation) : (setToken tokenHash row).id = row.id :=
  rfl

/-- The delivery and the digest of its token; `none` if a key is taken. -/
def begin (invitation : Invitation) (claimToken : String) (w : MailWorld) : Option MailWorld :=
  let tokenHash := tokenDigest host.toHost claimToken
  if ∃ row ∈ w.database.invitations.rows, row.id ≠ invitation.id ∧ row.tokenHash = tokenHash then
    none
  else
    (w.database.invitationDeliveries.insert (a.delivery invitation)).map fun deliveries =>
      { w with
        database := setInvitation { w.database with invitationDeliveries := deliveries }
          invitation.id (setToken tokenHash) (setToken_id _) }

def setResult (status : String) (errorCode : Option String) (row : InvitationDelivery) :
    InvitationDelivery :=
  { row with status := status, errorCode := errorCode }

theorem setResult_id (status : String) (errorCode : Option String) (row : InvitationDelivery) :
    (setResult status errorCode row).id = row.id := rfl

def settle (status : String) (errorCode : Option String) (w : MailWorld) : MailWorld :=
  { w with
    database := { w.database with
      invitationDeliveries := w.database.invitationDeliveries.updateWhere
        (fun row => row.id = a.newId) (setResult status errorCode) (setResult_id _ _) } }

/-- `client.send_message(message)`. -/
def send (invitation : Invitation) (claimToken : String) (w : MailWorld) : MailWorld :=
  { w with
    sent := w.sent ++ [⟨invitation.id, claimToken,
      inviteMessage host.toHost a.settings invitation claimToken⟩] }

/-- `except (OSError, smtplib.SMTPException)`. -/
def fail (caught : Bool) : MailCall DeliveryResult :=
  if caught then do
    write (a.settle "failed" (some "provider_unavailable"))
    commit
    raise (.uncertain
      "SMTP delivery outcome is uncertain; issue a new invitation instead of retrying")
  else raise .other

/-- The session with the server. -/
def contact (invitation : Invitation) (claimToken : String) : MailCall DeliveryResult :=
  match a.smtp with
  | .failedBefore caught => a.fail caught
  | .failedAfter caught => do
    external (a.send host invitation claimToken)
    a.fail caught
  | .delivered => do
    external (a.send host invitation claimToken)
    write (a.settle "sent" none)
    commit
    pure ⟨"sent", invitation.id⟩

/-- `deliver_invitation_smtp`. -/
def deliverInvitationSmtp (invitation : Invitation) (claimToken : String) :
    MailCall DeliveryResult := do
  match ← read fun w => newestDelivery w invitation.id with
  | some existing =>
    if existing.status = "sent" then pure ⟨"sent", invitation.id⟩
    else raise (.uncertain s!"invitation delivery is already in '{existing.status}' state")
  | none =>
    match ← read (a.begin host invitation claimToken) with
    | none => raise .integrityError
    | some recorded => do
      write fun _ => recorded
      commit
      a.contact host invitation claimToken

/-- The invitation the job is for, which is pending. -/
def reference (w : MailWorld) : Except DeliveryError Invitation :=
  match deliverPayload a.rawPayload, a.contextWorkspaceId with
  | none, _ => .error (.permanent "invitation.email.deliver payload failed contract validation")
  | some invitationId, contextWorkspaceId => do
    raiseIf (a.settings.emailDeliveryMode host.toHost ≠ "smtp")
      (.permanent "SMTP invitation delivery is disabled")
    raiseIf contextWorkspaceId.isNone
      (.permanent "invitation delivery job is missing workspace scope")
    match w.database.invitations.get? invitationId with
    | none =>
      .error (.permanent "invitation delivery references are missing or cross-tenant")
    | some invitation => do
      raiseIf (some invitation.workspaceId ≠ contextWorkspaceId)
        (.permanent "invitation delivery references are missing or cross-tenant")
      raiseIf (invitation.status ≠ "pending" ∨ invitation.expiresAt ≤ a.clock 0)
        (.permanent "invitation is no longer pending")
      pure invitation

/-- `derive_invitation_claim_token(…)` with its `except ValueError`. -/
def claimToken (invitation : Invitation) : Except DeliveryError String :=
  (deriveInvitationClaimToken host a.settings.invitationTokenSecret invitation.id).mapError
    fun _ => .permanent "SMTP invitation delivery secret is not configured"

/-- The inner `handle` of `invitation_email_delivery_handler`. -/
def handle : MailCall DeliveryResult := do
  let invitation ← query (a.reference host)
  let claimToken ← lift (a.claimToken host invitation)
  match ← attempt (a.deliverInvitationSmtp host invitation claimToken) with
  | .ok result => pure result
  | .error (.uncertain message) => raise (.permanent message)
  | .error e => raise e

end DeliveryAttempt

/-! ## Runs -/

inductive MailAction where
  /-- an execution to its end, or to the crash point with this number -/
  | execute (a : DeliveryAttempt) (crash : Option Nat)
  /-- work of others between two executions -/
  | other (database : Database)

/-- What others leave alone: that a delivery was recorded, and the token digests. -/
def leavesMail (d d' : Database) : Bool :=
  (d.invitationDeliveries.rows.all fun row =>
    d'.invitationDeliveries.rows.any fun row' => row'.invitationId = row.invitationId) &&
  d.invitations.rows.all fun row =>
    (d'.invitations.get? row.id).any fun row' => row'.tokenHash = row.tokenHash

/-- Executions one after another, each with settings of its own. -/
def mailSystem (host : TokenHost) : System MailWorld MailAction where
  init w := w.sent = []
  next w
    | .execute a none => some ((a.handle host).run w).2
    | .execute a (some n) => ((a.handle host).crashPoints w)[n]?
    | .other database =>
      if leavesMail w.database database then some { w with database := database } else none

/-! ## The invariant -/

section Posted

variable {host : TokenHost} {a : DeliveryAttempt} {w w' : MailWorld} {id : String}

/-- A delivery is recorded. -/
def Attempted (w : MailWorld) (id : String) : Prop :=
  ∃ row ∈ w.database.invitationDeliveries.rows, row.invitationId = id

/-- The invitation holds the digest of the token. -/
def HoldsToken (host : TokenHost) (w : MailWorld) (id token : String) : Prop :=
  ∃ row, w.database.invitations.get? id = some row ∧
    row.tokenHash = tokenDigest host.toHost token

/-- The messages for an invitation. -/
def messagesFor (w : MailWorld) (id : String) : List SentMessage :=
  w.sent.filter fun m => m.invitationId = id

/-- The token stands in the text. -/
def SentMessage.Carries (m : SentMessage) : Prop :=
  ∃ before after, m.message.text = before ++ m.token ++ after

/-- A message carries the token it was made for. -/
theorem inviteMessage_carries (host : Host) (settings : MailSettings) (invitation : Invitation)
    (claimToken : String) :
    SentMessage.Carries ⟨invitation.id, claimToken,
      inviteMessage host settings invitation claimToken⟩ := by
  refine ⟨"You have been invited to a DeployGuard workspace.\n\n" ++ ("Accept the invitation: " ++
    (Text.rstripChar '/' settings.frontendPublicUrl ++ "/accept-invite?token=")), "\n\n" ++
    s!"This invitation expires at {host.isoformat invitation.expiresAt}.", ?_⟩
  show "You have been invited to a DeployGuard workspace.\n\n" ++
    s!"Accept the invitation: {inviteUrl settings claimToken}\n\n" ++
    s!"This invitation expires at {host.isoformat invitation.expiresAt}." = _
  simp only [inviteUrl, toString, String.append_assoc]

structure PostedAt (host : TokenHost) (w : MailWorld) (id : String) : Prop where
  single : (messagesFor w id).length ≤ 1
  recorded : messagesFor w id ≠ [] → Attempted w id
  token : ∀ m ∈ messagesFor w id, HoldsToken host w id m.token ∧ m.Carries

def Posted (host : TokenHost) (w : MailWorld) : Prop := ∀ id, PostedAt host w id

/-- Nothing sent is nothing to account for. -/
theorem PostedAt.of_none (h : messagesFor w id = []) : PostedAt host w id := by
  refine ⟨by rw [h]; exact Nat.zero_le 1, fun hne => absurd h hne, fun m hm => ?_⟩
  rw [h] at hm
  cases hm

/-- Nothing is sent, recorded deliveries and digests stay. -/
theorem PostedAt.keeps (h : PostedAt host w id) (hsent : w'.sent = w.sent)
    (hrecorded : Attempted w id → Attempted w' id)
    (htoken : ∀ token, HoldsToken host w id token → HoldsToken host w' id token) :
    PostedAt host w' id := by
  have hsame : messagesFor w' id = messagesFor w id := by rw [messagesFor, hsent, messagesFor]
  refine ⟨hsame ▸ h.single, fun hne => hrecorded (h.recorded (hsame ▸ hne)), fun m hm => ?_⟩
  rw [hsame] at hm
  exact ⟨htoken _ (h.token m hm).1, (h.token m hm).2⟩

/-- The first message for an invitation. -/
theorem Posted.send {invitation : Invitation} {claimToken : String} (h : Posted host w)
    (hnone : messagesFor w invitation.id = []) (hrecorded : Attempted w invitation.id)
    (htoken : HoldsToken host w invitation.id claimToken) :
    Posted host (a.send host invitation claimToken w) := by
  intro id
  have hmessages : messagesFor (a.send host invitation claimToken w) id = messagesFor w id ++
      if invitation.id = id then [⟨invitation.id, claimToken,
        inviteMessage host.toHost a.settings invitation claimToken⟩] else [] := by
    simp [messagesFor, DeliveryAttempt.send, List.filter_append, List.filter_cons]
  by_cases hid : invitation.id = id
  · subst hid
    rw [hnone, if_pos rfl, List.nil_append] at hmessages
    refine ⟨by rw [hmessages]; exact le_refl 1, fun _ => hrecorded, fun m hm => ?_⟩
    rw [hmessages] at hm
    obtain rfl := List.mem_singleton.mp hm
    exact ⟨htoken, inviteMessage_carries ..⟩
  · rw [if_neg hid, List.append_nil] at hmessages
    have hat := h id
    refine ⟨hmessages ▸ hat.single, fun hne => hat.recorded (hmessages ▸ hne), fun m hm => ?_⟩
    rw [hmessages] at hm
    exact hat.token m hm

/-- Without a delivery nothing was attempted. -/
theorem not_attempted_of_newestDelivery (h : newestDelivery w id = none) : ¬ Attempted w id := by
  intro h
  obtain ⟨row, hrow, hid⟩ := h
  have hnil := List.head?_eq_none_iff.mp h
  have hmem : row ∈ w.database.invitationDeliveries.select fun row => row.invitationId = id :=
    Table.mem_select.mpr ⟨hrow, decide_eq_true hid⟩
  rw [← List.mem_insertionSort (fun a b : InvitationDelivery => b.attemptedAt ≤ a.attemptedAt),
    hnil] at hmem
  cases hmem

/-! ## Recording a delivery -/

/-- What `begin` leaves behind for the invitation it is for. -/
structure Begun (host : TokenHost) (w : MailWorld) (id token : String) : Prop where
  unsent : messagesFor w id = []
  recorded : Attempted w id
  token : HoldsToken host w id token

/-- Beginning a delivery stores its row and the token's digest, and sends nothing. -/
theorem DeliveryAttempt.begin_cases {invitation : Invitation} {claimToken : String}
    (h : a.begin host invitation claimToken w = some w') :
    w'.sent = w.sent ∧
      w'.database.invitationDeliveries.rows =
        w.database.invitationDeliveries.rows ++ [a.delivery invitation] ∧
      ∀ id, w'.database.invitations.get? id = (w.database.invitations.get? id).map fun row =>
        if id = invitation.id then setToken (tokenDigest host.toHost claimToken) row else row := by
  simp only [DeliveryAttempt.begin] at h
  split at h
  · cases h
  · obtain ⟨deliveries, hinsert, rfl⟩ := Option.map_eq_some_iff.mp h
    exact ⟨rfl, (Table.insert_eq_some hinsert).2, fun id => get?_setInvitation id⟩

/-- Recorded for the first time, so no message for it was handed over before. -/
theorem Posted.begin {invitation : Invitation} {claimToken : String} (h : Posted host w)
    (hnew : newestDelivery w invitation.id = none)
    (hget : w.database.invitations.get? invitation.id = some invitation)
    (hbegin : a.begin host invitation claimToken w = some w') :
    Posted host w' ∧ Begun host w' invitation.id claimToken := by
  obtain ⟨hsent, hdeliveries, hinvitations⟩ := DeliveryAttempt.begin_cases hbegin
  have hunsent : messagesFor w' invitation.id = [] := by
    rw [messagesFor, hsent]
    by_contra hne
    exact not_attempted_of_newestDelivery hnew ((h invitation.id).recorded hne)
  refine ⟨fun id => ?_, hunsent, ⟨a.delivery invitation, ?_, rfl⟩, ?_⟩
  · by_cases hid : id = invitation.id
    · subst hid
      exact .of_none hunsent
    · refine (h id).keeps hsent ?_ fun token => ?_
      · intro h
        obtain ⟨row, hrow, hrowId⟩ := h
        exact ⟨row, hdeliveries ▸ List.mem_append_left _ hrow, hrowId⟩
      · intro h
        obtain ⟨row, hrow, htoken⟩ := h
        exact ⟨row, by rw [hinvitations, hrow, Option.map_some, if_neg hid], htoken⟩
  · rw [hdeliveries]
    exact List.mem_append_right _ (List.mem_singleton_self _)
  · exact ⟨_, by rw [hinvitations, hget, Option.map_some, if_pos rfl], rfl⟩

/-- The result of a delivery changes neither its row's invitation nor a digest. -/
theorem Posted.settle {status : String} {errorCode : Option String} (h : Posted host w) :
    Posted host (a.settle status errorCode w) := by
  intro id
  refine (h id).keeps rfl ?_ fun token htoken => htoken
  intro h
  obtain ⟨row, hrow, hid⟩ := h
  refine ⟨_, List.mem_map_of_mem hrow, ?_⟩
  show (if decide (row.id = a.newId) = true then DeliveryAttempt.setResult status errorCode row else row).invitationId
    = id
  by_cases hrowId : row.id = a.newId
  · rw [if_pos (decide_eq_true hrowId)]
    exact hid
  · rw [if_neg (by simpa using hrowId)]
    exact hid

/-! ## An execution -/

section Execution

open DeliveryAttempt

variable {s : State MailWorld} {invitation : Invitation} {token : String}

/-- A failed delivery leaves what was posted alone. -/
theorem fail_safe {caught : Bool} :
    Safe (Posted host) s (a.fail caught) (fun _ _ => True) fun _ => True := by
  unfold DeliveryAttempt.fail
  cases caught with
  | false => exact Safe.raise trivial
  | true => exact Safe.write_bind Posted.settle (Safe.commit_bind (Safe.raise trivial))

/-- The message leaves from a session without pending writes. -/
theorem send_safe {β : Type} {rest : MailCall β} (hbase : s.base = s.cur)
    (hbegun : Begun host s.cur invitation.id token)
    (hrest : ∀ s', Safe (Posted host) s' rest (fun _ _ => True) fun _ => True) :
    Safe (Posted host) s (do external (a.send host invitation token); rest)
      (fun _ _ => True) fun _ => True := by
  have hsend : Posted host s.cur → Posted host (a.send host invitation token s.cur) :=
    fun h => h.send hbegun.unsent hbegun.recorded hbegun.token
  exact Safe.external_bind (by rw [hbase]; exact hsend) hsend (hrest _)

/-- The token a message carries is the one whose digest was committed. -/
theorem contact_safe (hbase : s.base = s.cur) (hbegun : Begun host s.cur invitation.id token) :
    Safe (Posted host) s (a.contact host invitation token) (fun _ _ => True) fun _ => True := by
  unfold DeliveryAttempt.contact
  cases a.smtp with
  | failedBefore caught => exact fail_safe
  | failedAfter caught => exact send_safe hbase hbegun fun _ => fail_safe
  | delivered =>
    exact send_safe hbase hbegun fun _ =>
      Safe.write_bind Posted.settle (Safe.commit_bind (Safe.pure trivial))

/-- A delivery as a whole keeps each message accounted for. -/
theorem deliver_safe (hget : s.cur.database.invitations.get? invitation.id = some invitation) :
    Safe (Posted host) s (a.deliverInvitationSmtp host invitation token) (fun _ _ => True)
      fun _ => True := by
  refine Safe.of_all fun hall => Safe.read_bind ?_
  cases hnew : newestDelivery s.cur invitation.id with
  | some existing =>
    show Safe _ _ (if existing.status = "sent" then _ else _) _ _
    split
    · exact Safe.pure trivial
    · exact Safe.raise trivial
  | none =>
    refine Safe.read_bind ?_
    cases hbegin : a.begin host invitation token s.cur with
    | none => exact Safe.raise trivial
    | some recorded =>
      obtain ⟨hposted, hbegun⟩ := hall.cur.begin hnew hget hbegin
      exact Safe.write_bind (fun _ => hposted) (Safe.commit_bind (contact_safe rfl hbegun))

/-- The reference names a stored invitation. -/
theorem reference_ok (h : a.reference host w = .ok invitation) :
    w.database.invitations.get? invitation.id = some invitation := by
  unfold DeliveryAttempt.reference at h
  split at h
  · cases h
  · obtain ⟨_, -, h⟩ := Raise.bind_eq_ok.mp h
    obtain ⟨_, -, h⟩ := Raise.bind_eq_ok.mp h
    split at h
    · cases h
    · next found hfound =>
      obtain ⟨_, -, h⟩ := Raise.bind_eq_ok.mp h
      obtain ⟨_, -, h⟩ := Raise.bind_eq_ok.mp h
      obtain rfl := Raise.pure_eq_ok.mp h
      rw [Table.key_of_get? hfound]
      exact hfound

theorem handle_safe :
    Safe (Posted host) s (a.handle host) (fun _ _ => True) fun _ => True := by
  refine Safe.query_bind (fun invitation hinvitation => ?_) fun _ _ => trivial
  refine Safe.lift_bind (fun token _ => ?_) fun _ _ => trivial
  refine Safe.attempt_bind (deliver_safe (reference_ok hinvitation)) (fun _ _ _ => Safe.pure trivial)
    fun e s' _ => ?_
  cases e with
  | uncertain message => exact Safe.raise trivial
  | permanent message => exact Safe.raise trivial
  | integrityError => exact Safe.raise trivial
  | other => exact Safe.raise trivial

end Execution

/-! ## Every run -/

/-- What leaves the mail alone keeps the messages accounted for. -/
theorem Posted.of_leavesMail {database : Database} (h : Posted host w)
    (hleaves : leavesMail w.database database) : Posted host { w with database := database } := by
  intro id
  obtain ⟨hdeliveries, htokens⟩ := Bool.and_eq_true_iff.mp hleaves
  refine (h id).keeps rfl ?_ fun token => ?_
  · intro h
    obtain ⟨row, hrow, hid⟩ := h
    obtain ⟨row', hrow', hsame⟩ := List.any_eq_true.mp (List.all_eq_true.mp hdeliveries row hrow)
    exact ⟨row', hrow', (of_decide_eq_true hsame).trans hid⟩
  · intro h
    obtain ⟨row, hrow, htoken⟩ := h
    have hany := List.all_eq_true.mp htokens row (Table.mem_of_get? hrow)
    rw [Table.key_of_get? hrow] at hany
    obtain ⟨row', hrow', hsame⟩ := (Option.any_eq_true _ _).mp hany
    exact ⟨row', hrow', (of_decide_eq_true hsame).trans htoken⟩

section Members

variable {d d' : Database}

/-- Deliveries and digests are all the mail is judged by. -/
theorem leavesMail_of (hdeliveries : d'.invitationDeliveries = d.invitationDeliveries)
    (htokens : ∀ id row, d.invitations.get? id = some row →
      ∃ row', d'.invitations.get? id = some row' ∧ row'.tokenHash = row.tokenHash) :
    leavesMail d d' := by
  refine Bool.and_eq_true_iff.mpr ⟨List.all_eq_true.mpr fun row hrow => ?_,
    List.all_eq_true.mpr fun row hrow => ?_⟩
  · rw [hdeliveries]
    exact List.any_eq_true.mpr ⟨row, hrow, decide_eq_true rfl⟩
  · obtain ⟨row', hrow', hsame⟩ := htokens row.id row (Table.get?_of_mem hrow)
    exact (Option.any_eq_true _ _).mpr ⟨row', hrow', decide_eq_true hsame⟩

/-- An invitation may change as long as its digest stays. -/
theorem leavesMail_setInvitation {id : String} {f : Invitation → Invitation}
    (hf : ∀ row, (f row).id = row.id)
    (hdeliveries : d'.invitationDeliveries = d.invitationDeliveries)
    (hinvitations : d'.invitations = (setInvitation d id f hf).invitations)
    (hhash : ∀ row, (f row).tokenHash = row.tokenHash) : leavesMail d d' := by
  refine leavesMail_of hdeliveries fun id' row hrow => ?_
  rw [hinvitations, get?_setInvitation, hrow, Option.map_some]
  refine ⟨_, rfl, ?_⟩
  by_cases hid : id' = id
  · rw [if_pos hid]
    exact hhash row
  · rw [if_neg hid]

/-- A call that is performed leaves the mail alone if what it saves does. -/
theorem leavesMail_perform {κ α : Type} {load : Database → Except ServiceError κ}
    {save : κ → Database → Except ServiceError Database}
    {answer : κ → Database → Except ServiceError α}
    (h : ∀ k t, save k d = .ok t → leavesMail d t) :
    leavesMail d ((perform load save answer).run d).2 := by
  rcases perform_store load save answer d with hsame | ⟨k, t, -, hsave, hstore⟩
  · rw [hsame]
    exact leavesMail_of rfl fun id row hrow => ⟨row, hrow, rfl⟩
  · rw [hstore]
    exact h k t hsave

/-- The calls that make and settle invitations are such work of others. -/
theorem leavesMail_memberStep (host : TokenHost) (r : MemberState) (call : MemberCall) :
    leavesMail r.database (memberStep host r call).database := by
  cases call with
  | createWorkspace q =>
    refine leavesMail_perform fun found t hsave => ?_
    obtain ⟨_, -, hsave⟩ := Raise.bind_eq_ok.mp hsave
    obtain ⟨_, -, hsave⟩ := Raise.bind_eq_ok.mp hsave
    obtain ⟨_, -, hsave⟩ := Raise.bind_eq_ok.mp hsave
    obtain ⟨_, -, hsave⟩ := Raise.bind_eq_ok.mp hsave
    obtain rfl := Raise.pure_eq_ok.mp hsave
    exact leavesMail_of rfl fun id row hrow => ⟨row, hrow, rfl⟩
  | createInvitation q =>
    refine leavesMail_perform fun rawToken t hsave => ?_
    obtain ⟨_, -, hsave⟩ := Raise.bind_eq_ok.mp hsave
    obtain ⟨invitations, hadd, hsave⟩ := Raise.bind_eq_ok.mp hsave
    obtain rfl := Raise.pure_eq_ok.mp hsave
    exact leavesMail_of rfl fun id row hrow =>
      ⟨row, Table.get?_of_insert (addRow_eq_ok.mp hadd) hrow, rfl⟩
  | revokeInvitation q =>
    refine leavesMail_perform fun invitation t hsave => ?_
    obtain rfl := Except.ok.inj hsave
    exact leavesMail_setInvitation (Invitation.revoked_id _) rfl rfl fun row => rfl
  | acceptInvitation q =>
    refine leavesMail_perform fun found t hsave => ?_
    obtain ⟨_, -, hsave⟩ := Raise.bind_eq_ok.mp hsave
    obtain ⟨_, -, hsave⟩ := Raise.bind_eq_ok.mp hsave
    obtain rfl := Raise.pure_eq_ok.mp hsave
    exact leavesMail_setInvitation (Invitation.accepted_id _) rfl rfl fun row => rfl

end Members

/-- In every run each message carries a token that was stored. -/
theorem posted_invariant (host : TokenHost) :
    Invariant (mailSystem host) (fun _ _ => True) (Posted host) where
  init w hinit id := .of_none (by rw [messagesFor, show w.sent = [] from hinit]; rfl)
  step w action w' h _ hstep := by
    cases action with
    | execute a crash =>
      cases crash with
      | none => exact Option.some.inj hstep ▸ Safe.run_base handle_safe h
      | some n => exact Safe.crashPoints handle_safe h (List.mem_of_getElem? hstep)
    | other database =>
      by_cases hleaves : leavesMail w.database database = true
      · rw [show (mailSystem host).next w (.other database) = _ from if_pos hleaves] at hstep
        exact Option.some.inj hstep ▸ h.of_leavesMail hleaves
      · rw [show (mailSystem host).next w (.other database) = _ from if_neg hleaves] at hstep
        cases hstep

/-- Whatever the executions, their crashes and their settings: one message at most is
handed over for an invitation, and the invitation holds the digest of its token. -/
theorem invitation_email_once {host : TokenHost} {w : MailWorld}
    (h : Reachable (mailSystem host) w) (id : String) :
    (messagesFor w id).length ≤ 1 ∧
      ∀ m ∈ messagesFor w id, HoldsToken host w id m.token ∧ m.Carries :=
  have hposted := (posted_invariant host).reachable h id
  ⟨hposted.single, hposted.token⟩

end Posted

/-! The process dies when the message has left, and the job is replayed after the secret
was rotated. -/

def mailSettings (secret : String) : MailSettings :=
  ⟨"production", "https://guard.test/", "smtp.test", "guard@guard.test", secret⟩

def mailBob (secret deliveryId : String) : DeliveryAttempt where
  settings := mailSettings secret
  rawPayload := [("schema_version", .int 1), ("invitation_id", .str "i-1")]
  contextWorkspaceId := some "w-1"
  newId := deliveryId
  clock _ := 5
  smtp := .delivered

def bobInvited : Database :=
  (([.createWorkspace ⟨alice, "Acme", "acme", "r-1", "w-1", "m-1", fun _ => 0⟩,
    .createInvitation inviteBob] : List MemberCall).foldl (memberStep tokenHost)
      ⟨Database.empty, []⟩).database

/-- An invitation whose job was replayed. -/
theorem invitation_email_once_replayed :
    ∃ w, Reachable (mailSystem tokenHost) w ∧
      (messagesFor w "i-1").map (·.message.recipient) = ["bob@acme.test"] ∧
      ∀ m ∈ messagesFor w "i-1", HoldsToken tokenHost w "i-1" m.token ∧ m.Carries := by
  let w₀ : MailWorld := ⟨bobInvited, []⟩
  have hends : ((mailSystem tokenHost).run w₀
      [.execute (mailBob "the-first-secret-of-the-installation" "d-1") (some 2),
        .execute (mailBob "the-other-secret-of-the-installation" "d-2") none]).map (fun w =>
      (messagesFor w "i-1").map (·.message.recipient)) = some ["bob@acme.test"] := by
    decide +kernel
  obtain ⟨w, hrun, hlast⟩ := Option.map_eq_some_iff.mp hends
  have hstart : (mailSystem tokenHost).init w₀ := rfl
  have hreach : Reachable (mailSystem tokenHost) w := .of_run (.init hstart) hrun
  exact ⟨w, hreach, hlast, (invitation_email_once hreach "i-1").2⟩

end DeployGuard.Service
