import DeployGuard.Lib.Interleaving
import DeployGuard.Service.Database

/-!
# Workspaces, invitations and roles

`create_workspace`, `create_invitation`, `revoke_invitation` and
`accept_invitation`. Each reads and checks, then writes and commits, so each is
given by its halves `load` and `save`, and `perform` is the call.
A call reads the clock more than once; `clock n` is what it shows the time after
`n` readings.

A role is never changed and a member never removed, so where a role comes from is
a matter of the row's insertion:

> `RolesExplained`: an owner created the workspace, and an administrator accepted
> an invitation that an owner of the workspace had issued.

`roles_explained` carries it over every run, with the list of the acceptances that
led to the database.
-/

namespace DeployGuard.Service

open Interleaving Raise Session Session.Call Transition

/-! ## Tokens -/

/-- A host with the digest the claim tokens are made of. -/
structure TokenHost extends Host where
  /-- `hmac.new(key, msg, hashlib.sha256).digest()` -/
  hmacDigest : List UInt8 → List UInt8 → List UInt8

def base64Digit (n : Nat) : Char :=
  ("ABCDEFGHIJKLMNOPQRSTUVWXYZabcdefghijklmnopqrstuvwxyz0123456789-_".toList[n % 64]?).getD 'A'

/-- `base64.urlsafe_b64encode(data).decode("ascii").rstrip("=")`, as characters. -/
def urlsafeBase64 : List UInt8 → List Char
  | a :: b :: c :: rest =>
    let n := a.toNat * 65536 + b.toNat * 256 + c.toNat
    base64Digit (n / 262144) :: base64Digit (n / 4096) :: base64Digit (n / 64) ::
      base64Digit n :: urlsafeBase64 rest
  | [a, b] =>
    let n := a.toNat * 1024 + b.toNat * 4
    [base64Digit (n / 4096), base64Digit (n / 64), base64Digit n]
  | [a] => [base64Digit (a.toNat / 4), base64Digit (a.toNat * 16)]
  | [] => []

def shortTokenSecret : ServiceError :=
  .valueError "invitation token secret must contain at least 32 characters"

/-- `derive_invitation_claim_token`. -/
def deriveInvitationClaimToken (host : TokenHost) (tokenSecret invitationId : String) :
    Except ServiceError String := do
  raiseIf (tokenSecret.length < 32) shortTokenSecret
  pure (String.ofList (urlsafeBase64
    (host.hmacDigest (encode tokenSecret) (encode s!"deployguard-invitation:{invitationId}"))))

/-! ## Requests -/

/-- The roles of an `InvitationCreate`. -/
def invitationRoles : List String := ["viewer", "responder", "admin"]

/-- There is an `@` with something before it, and a dot after the last one. -/
def isEmail (text : String) : Bool :=
  let parts := text.splitOn "@"
  2 ≤ parts.length && String.intercalate "@" parts.dropLast ≠ "" &&
    (parts.getLast?.getD "").toList.contains '.'

/-- `InvitationCreate`. -/
structure InvitationCreate where
  email : String
  role : String
  role_known : role ∈ invitationRoles

def invitationErrors (host : Host) (email role : String) : Schema.Errors :=
  Schema.field "email" [Schema.nonEmpty (Text.trim email), Schema.atMost 320 (Text.trim email),
    (isEmail (host.lower (Text.strip (Text.trim email))),
      "Value error, Enter a valid email address")] ++
  Schema.field "role"
    [(role ∈ invitationRoles, "Input should be 'viewer', 'responder' or 'admin'")]

/-- An invitation that passes its checks names a role the schema knows. -/
theorem role_of_invitationErrors {host : Host} {email role : String}
    (h : invitationErrors host email role = []) : role ∈ invitationRoles := by
  have hrole := Schema.field_eq_nil.mp (List.append_eq_nil_iff.mp h).2
  exact of_decide_eq_true (hrole _ (List.mem_singleton_self _))

/-- `InvitationCreate.model_validate`. -/
def InvitationCreate.validate (host : Host) (email role : String) :
    Except ServiceError InvitationCreate :=
  if h : invitationErrors host email role = [] then
    .ok ⟨host.lower (Text.strip (Text.trim email)), role, role_of_invitationErrors h⟩
  else .error (.validation (invitationErrors host email role))

/-- A call of `create_workspace`. -/
structure CreateWorkspace where
  user : User
  name : String
  slug : String
  requestId : String
  newId : String
  membershipId : String
  clock : Nat → Time

/-- A call of `create_invitation`; `urlsafeToken` is what `secrets.token_urlsafe(32)`
draws. -/
structure CreateInvitation where
  user : User
  workspaceId : String
  payload : InvitationCreate
  requestId : String
  ttlHours : Int
  tokenSecret : Option String
  newId : String
  urlsafeToken : String
  clock : Nat → Time

/-- A call of `revoke_invitation`. -/
structure RevokeInvitation where
  user : User
  workspaceId : String
  invitationId : String
  requestId : String
  clock : Nat → Time

/-- A call of `accept_invitation`. -/
structure AcceptInvitation where
  user : User
  rawToken : String
  requestId : String
  membershipId : String
  clock : Nat → Time

/-! ## Answers -/

structure WorkspaceSummary where
  id : String
  name : String
  slug : String
  role : String
  repositoryCount : Nat
  memberCount : Nat
  createdAt : Time
  deriving DecidableEq

def roleNames : List String := invitationRoles ++ ["owner"]

/-- `workspace_summary`. -/
def workspaceSummary (d : Database) (membership : WorkspaceMembership) :
    Except ServiceError WorkspaceSummary :=
  match d.workspaces.get? membership.workspaceId with
  | none => .error (.attributeError "'NoneType' object has no attribute 'id'")
  | some workspace => do
    raiseIf (membership.role ∉ roleNames) (.validation [("role",
      "Input should be 'owner', 'admin', 'responder' or 'viewer'")])
    pure {
      id := workspace.id
      name := workspace.name
      slug := workspace.slug
      role := membership.role
      repositoryCount := d.repositories.rowcount fun row => row.workspaceId = workspace.id
      memberCount := d.memberships.rowcount fun row => row.workspaceId = workspace.id
      createdAt := workspace.createdAt }

structure InvitationSummary where
  id : String
  workspaceId : String
  email : String
  role : String
  status : String
  createdAt : Time
  expiresAt : Time
  deriving DecidableEq

/-- `InvitationSummary.model_validate(record)`. -/
def Invitation.summary (record : Invitation) : InvitationSummary where
  id := record.id
  workspaceId := record.workspaceId
  email := record.email
  role := record.role
  status := record.status
  createdAt := record.createdAt
  expiresAt := record.expiresAt

/-- `invitation_summary`. -/
def invitationSummary (record : Invitation) (now : Time) : InvitationSummary :=
  { record.summary with
    status := if record.status = "pending" ∧ record.expiresAt ≤ now then "expired"
      else record.status }

/-! ## `create_workspace` -/

def memberAudit (user : User) (workspaceId action resourceType resourceId requestId : String)
    (metadata : Items) (now : Time) : AuditEvent where
  workspaceId := workspaceId
  actorUserId := some user.id
  action := action
  resourceType := resourceType
  resourceId := resourceId
  requestId := requestId
  metadata := metadata
  createdAt := now

namespace CreateWorkspace

variable (q : CreateWorkspace) (host : Host)

def storedSlug : String := host.lower (Text.strip q.slug)

def workspace : Workspace where
  id := q.newId
  name := Text.strip q.name
  slug := q.storedSlug host
  createdByUserId := q.user.id
  createdAt := q.clock 0
  updatedAt := q.clock 0

def membership : WorkspaceMembership where
  id := q.membershipId
  workspaceId := q.newId
  userId := q.user.id
  role := "owner"
  joinedAt := q.clock 0

def context : UserContext where
  userId := q.user.id
  workspaceId := q.newId
  repositoryId := none
  scenarioId := none
  updatedAt := q.clock 0

def slugTaken (d : Database) : Prop := ∃ row ∈ d.workspaces.rows, row.slug = q.storedSlug host

instance (d : Database) : Decidable (q.slugTaken host d) := by
  unfold slugTaken
  infer_instance

/-- The context that was found. -/
def load (d : Database) : Except ServiceError (Option UserContext) := do
  raiseIf (q.slugTaken host d)
    (.domain "Workspace slug is already in use" "workspace_slug_exists" 409)
  pure (d.contexts.get? q.user.id)

def save (found : Option UserContext) (d : Database) : Except ServiceError Database := do
  raiseIf (q.slugTaken host d) .integrityError
  let workspaces ← addRow d.workspaces (q.workspace host)
  let memberships ← addRow d.memberships q.membership
  let contexts ← addMissing d.contexts found q.context
  pure (Database.audit
    (memberAudit q.user q.newId "workspace.created" "workspace" q.newId q.requestId
      [("slug", .str (q.storedSlug host))] (q.clock 1))
    { d with workspaces := workspaces, memberships := memberships, contexts := contexts })

end CreateWorkspace

/-- `create_workspace`. -/
def createWorkspace (host : Host) (q : CreateWorkspace) : ServiceCall WorkspaceSummary :=
  perform (q.load host) (q.save host) fun _ d => workspaceSummary d q.membership

/-! ## `create_invitation` -/

def invitationPending : ServiceError :=
  .domain "A pending invitation already exists" "invitation_already_pending" 409

namespace CreateInvitation

variable (q : CreateInvitation) (host : TokenHost)

/-- The invited email belongs to a member. -/
def invitesMember (d : Database) : Prop :=
  ∃ existing, d.users.rows.find? (fun row => row.email = q.payload.email) = some existing ∧
    (d.memberships.get? (q.workspaceId, existing.id)).isSome

instance (d : Database) : Decidable (q.invitesMember d) :=
  match h : d.users.rows.find? fun row => row.email = q.payload.email with
  | none => isFalse fun ⟨_, hfound, _⟩ => by rw [h] at hfound; cases hfound
  | some existing =>
    if hmember : (d.memberships.get? (q.workspaceId, existing.id)).isSome then
      isTrue ⟨existing, h, hmember⟩
    else isFalse fun ⟨_, hfound, hsome⟩ => by
      obtain rfl := Option.some.inj (h.symm.trans hfound)
      exact hmember hsome

/-- `raw_token`. -/
def rawToken : Except ServiceError String :=
  match q.tokenSecret with
  | none => .ok q.urlsafeToken
  | some secret =>
    if secret = "" then .ok q.urlsafeToken
    else deriveInvitationClaimToken host secret q.newId

/-- The token of the new invitation. -/
def load (d : Database) : Except ServiceError String := do
  let caller ← membershipFor d.toStore q.user.id q.workspaceId "admin"
  raiseIf (q.payload.role = "admin" ∧ caller.role ≠ "owner")
    (.domain "Only owners can invite admins" "forbidden" 403)
  raiseIf (q.invitesMember d)
    (.domain "User is already a member" "member_already_exists" 409)
  raiseIf (∃ row ∈ d.invitations.rows, row.workspaceId = q.workspaceId ∧
    row.email = q.payload.email ∧ row.status = "pending" ∧ q.clock 0 < row.expiresAt)
    invitationPending
  q.rawToken host

def invitation (rawToken : String) : Invitation where
  id := q.newId
  workspaceId := q.workspaceId
  email := q.payload.email
  role := q.payload.role
  tokenHash := tokenDigest host.toHost rawToken
  status := "pending"
  invitedByUserId := q.user.id
  createdAt := q.clock 1
  expiresAt := q.clock 1 + seconds (q.ttlHours * 3600)
  acceptedAt := none
  revokedAt := none

def save (rawToken : String) (d : Database) : Except ServiceError Database := do
  raiseIf (∃ row ∈ d.invitations.rows, row.tokenHash = tokenDigest host.toHost rawToken)
    .integrityError
  let invitations ← addRow d.invitations (q.invitation host rawToken)
  pure (Database.audit
    (memberAudit q.user q.workspaceId "invitation.created" "invitation" q.newId q.requestId
      [("email", .str q.payload.email), ("role", .str q.payload.role)] (q.clock 2))
    { d with invitations := invitations })

end CreateInvitation

structure InvitationCreated extends InvitationSummary where
  deliveryMode : String
  deliveryStatus : String
  claimToken : String
  acceptPath : String
  deriving DecidableEq

def CreateInvitation.created (host : TokenHost) (q : CreateInvitation) (rawToken : String) :
    InvitationCreated where
  toInvitationSummary := (q.invitation host rawToken).summary
  deliveryMode := "development_outbox"
  deliveryStatus := "development_outbox"
  claimToken := rawToken
  acceptPath := s!"/accept-invite?token={rawToken}"

/-- `create_invitation`, and its commit by the call itself or by the route. -/
def createInvitation (host : TokenHost) (q : CreateInvitation) : ServiceCall InvitationCreated :=
  perform (q.load host) (q.save host) fun rawToken _ => .ok (q.created host rawToken)

/-! ## `revoke_invitation` -/

/-- `UPDATE` of an invitation by its identifier. -/
def setInvitation (d : Database) (id : String) (f : Invitation → Invitation)
    (hf : ∀ row, (f row).id = row.id) : Database :=
  { d with invitations := d.invitations.updateWhere (fun row => row.id = id) f hf }

def Invitation.revoked (now : Time) (row : Invitation) : Invitation :=
  { row with status := "revoked", revokedAt := some now }

def Invitation.accepted (now : Time) (row : Invitation) : Invitation :=
  { row with status := "accepted", acceptedAt := some now }

/-- Revoking keeps the row under its id. -/
@[simp] theorem Invitation.revoked_id (now : Time) (row : Invitation) :
    (row.revoked now).id = row.id := rfl

/-- Accepting keeps the row under its id. -/
@[simp] theorem Invitation.accepted_id (now : Time) (row : Invitation) :
    (row.accepted now).id = row.id := rfl

namespace RevokeInvitation

variable (q : RevokeInvitation)

/-- The invitation, which is pending. -/
def load (d : Database) : Except ServiceError Invitation := do
  let _ ← membershipFor d.toStore q.user.id q.workspaceId "admin"
  match d.invitations.get? q.invitationId with
  | none => .error (.domain "Invitation not found" "invitation_not_found" 404)
  | some invitation => do
    raiseIf (invitation.workspaceId ≠ q.workspaceId)
      (.domain "Invitation not found" "invitation_not_found" 404)
    raiseIf (invitation.status ≠ "pending")
      (.domain "Invitation is not pending" "invitation_not_pending" 409)
    pure invitation

def save (invitation : Invitation) (d : Database) : Except ServiceError Database :=
  .ok (Database.audit
    (memberAudit q.user q.workspaceId "invitation.revoked" "invitation" invitation.id q.requestId
      [] (q.clock 1))
    (setInvitation d invitation.id (Invitation.revoked (q.clock 0)) (Invitation.revoked_id _)))

end RevokeInvitation

/-- `revoke_invitation`. -/
def revokeInvitation (q : RevokeInvitation) : ServiceCall InvitationSummary :=
  perform q.load q.save fun invitation _ =>
    .ok (invitationSummary (invitation.revoked (q.clock 0)) (q.clock 2))

/-! ## `accept_invitation` -/

def invalidInvitation : ServiceError := .domain "Invitation is invalid" "invalid_invitation" 400

/-- What an acceptance has read. -/
structure AcceptedInvitation where
  invitation : Invitation
  membership : Option WorkspaceMembership
  context : Option UserContext
  deriving DecidableEq

namespace AcceptInvitation

variable (q : AcceptInvitation) (host : Host)

/-- The invitation of the token. -/
def find (d : Database) : Option Invitation :=
  d.invitations.rows.find? fun row => row.tokenHash = tokenDigest host q.rawToken

def load (d : Database) : Except ServiceError AcceptedInvitation :=
  match q.find host d with
  | none => .error invalidInvitation
  | some invitation => do
    raiseIf (invitation.status ≠ "pending" ∨ invitation.revokedAt.isSome ∨
      invitation.expiresAt ≤ q.clock 0 ∨ invitation.email ≠ q.user.email) invalidInvitation
    pure ⟨invitation, d.memberships.get? (invitation.workspaceId, q.user.id),
      d.contexts.get? q.user.id⟩

/-- The membership of the invited user. -/
def membership (invitation : Invitation) : WorkspaceMembership where
  id := q.membershipId
  workspaceId := invitation.workspaceId
  userId := q.user.id
  role := invitation.role
  joinedAt := q.clock 1

def context (invitation : Invitation) : UserContext where
  userId := q.user.id
  workspaceId := invitation.workspaceId
  repositoryId := none
  scenarioId := none
  updatedAt := q.clock 2

def save (found : AcceptedInvitation) (d : Database) : Except ServiceError Database := do
  let memberships ← addMissing d.memberships found.membership (q.membership found.invitation)
  let contexts ← addMissing d.contexts found.context (q.context found.invitation)
  pure (Database.audit
    (memberAudit q.user found.invitation.workspaceId "invitation.accepted" "invitation"
      found.invitation.id q.requestId [("role", .str found.invitation.role)] (q.clock 4))
    (setInvitation { d with memberships := memberships, contexts := contexts }
      found.invitation.id (Invitation.accepted (q.clock 3)) (Invitation.accepted_id _)))

end AcceptInvitation

/-- `accept_invitation`. -/
def acceptInvitation (host : Host) (q : AcceptInvitation) : ServiceCall WorkspaceSummary :=
  perform (q.load host) q.save fun found d =>
    workspaceSummary d (found.membership.getD (q.membership found.invitation))

/-! ## Runs -/

/-- Who accepted an invitation, and when. -/
structure Acceptance where
  invitationId : String
  userId : String
  email : String
  time : Time
  deriving DecidableEq

/-- The database, and the acceptances that led to it. -/
structure MemberState where
  database : Database
  accepted : List Acceptance

inductive MemberCall where
  | createWorkspace (q : CreateWorkspace)
  | createInvitation (q : CreateInvitation)
  | revokeInvitation (q : RevokeInvitation)
  | acceptInvitation (q : AcceptInvitation)

/-- The acceptance, if the call is one. -/
def AcceptInvitation.acceptances (host : Host) (q : AcceptInvitation) (d : Database) :
    List Acceptance :=
  match (Service.acceptInvitation host q).run d, q.find host d with
  | (.ok _, _), some invitation => [⟨invitation.id, q.user.id, q.user.email, q.clock 0⟩]
  | _, _ => []

/-- One call after another. -/
def memberStep (host : TokenHost) (r : MemberState) : MemberCall → MemberState
  | .createWorkspace q => ⟨((createWorkspace host.toHost q).run r.database).2, r.accepted⟩
  | .createInvitation q => ⟨((createInvitation host q).run r.database).2, r.accepted⟩
  | .revokeInvitation q => ⟨((revokeInvitation q).run r.database).2, r.accepted⟩
  | .acceptInvitation q =>
    ⟨((acceptInvitation host.toHost q).run r.database).2,
      r.accepted ++ q.acceptances host.toHost r.database⟩

/-- The workspaces and roles of the stored rows are known ones. -/
structure Answerable (d : Database) : Prop where
  members : ∀ key m, d.memberships.get? key = some m →
    (∃ w, d.workspaces.get? m.workspaceId = some w) ∧ m.role ∈ roleNames
  invitations : ∀ id invitation, d.invitations.get? id = some invitation →
    (∃ w, d.workspaces.get? invitation.workspaceId = some w) ∧ invitation.role ∈ invitationRoles

/-! ## Where a role comes from -/

def IsOwner (d : Database) (workspaceId userId : String) : Prop :=
  ∃ m, d.memberships.get? (workspaceId, userId) = some m ∧ m.role = "owner"

/-- The user accepted an invitation to be an administrator, which an owner issued. -/
def InvitedAsAdmin (r : MemberState) (m : WorkspaceMembership) : Prop :=
  ∃ a ∈ r.accepted, ∃ invitation, r.database.invitations.get? a.invitationId = some invitation ∧
    a.userId = m.userId ∧ invitation.workspaceId = m.workspaceId ∧ invitation.role = "admin" ∧
    IsOwner r.database m.workspaceId invitation.invitedByUserId

structure MemberExplained (r : MemberState) (m : WorkspaceMembership) : Prop where
  workspace : ∃ w, r.database.workspaces.get? m.workspaceId = some w
  role : m.role ∈ roleNames
  owner : m.role = "owner" → ∃ w, r.database.workspaces.get? m.workspaceId = some w ∧
    w.createdByUserId = m.userId
  admin : m.role = "admin" → InvitedAsAdmin r m

structure InvitationExplained (d : Database) (invitation : Invitation) : Prop where
  workspace : ∃ w, d.workspaces.get? invitation.workspaceId = some w
  role : invitation.role ∈ invitationRoles
  issuer : invitation.role = "admin" → IsOwner d invitation.workspaceId invitation.invitedByUserId

/-- The invitation is settled, and was accepted by the one invited, in time. -/
def AcceptanceExplained (d : Database) (a : Acceptance) : Prop :=
  ∃ invitation, d.invitations.get? a.invitationId = some invitation ∧
    invitation.status = "accepted" ∧ a.email = invitation.email ∧ a.time < invitation.expiresAt

structure RolesExplained (r : MemberState) : Prop where
  members : ∀ key m, r.database.memberships.get? key = some m → MemberExplained r m
  invitations : ∀ id invitation, r.database.invitations.get? id = some invitation →
    InvitationExplained r.database invitation
  acceptances : ∀ a ∈ r.accepted, AcceptanceExplained r.database a
  once : (r.accepted.map (·.invitationId)).Nodup

/-- Where every role is explained, a membership can be shown. -/
theorem RolesExplained.answerable {r : MemberState} (h : RolesExplained r) :
    Answerable r.database where
  members key m hm := ⟨(h.members key m hm).workspace, (h.members key m hm).role⟩
  invitations id row hrow := ⟨(h.invitations id row hrow).workspace, (h.invitations id row hrow).role⟩

/-- Any calls of any users, from a database whose roles are explained on. -/
def memberSystem (host : TokenHost) : System MemberState MemberCall where
  init := RolesExplained
  next r call := some (memberStep host r call)

/-! ## What a call leaves in place -/

/-- The columns of an invitation that no call changes. -/
def Invitation.terms (row : Invitation) : String × String × String × String × Time :=
  (row.workspaceId, row.email, row.role, row.invitedByUserId, row.expiresAt)

/-- Revoking does not touch whom, where and as what an invitation invites. -/
theorem Invitation.revoked_terms (now : Time) (row : Invitation) :
    (row.revoked now).terms = row.terms := rfl

theorem Invitation.accepted_terms (now : Time) (row : Invitation) :
    (row.accepted now).terms = row.terms := rfl

/-- Nothing is lost, and no acceptance undone. -/
structure Grows (d d' : Database) : Prop where
  workspaces : ∀ id w, d.workspaces.get? id = some w → d'.workspaces.get? id = some w
  memberships : ∀ key m, d.memberships.get? key = some m → d'.memberships.get? key = some m
  invitations : ∀ id row, d.invitations.get? id = some row →
    ∃ row', d'.invitations.get? id = some row' ∧ row'.terms = row.terms ∧
      (row.status = "accepted" → row'.status = "accepted")

section Grows

variable {d d' : Database} {r r' : MemberState} {m : WorkspaceMembership}

/-- A call that writes nothing lets the tables grow by nothing. -/
theorem Grows.refl (d : Database) : Grows d d :=
  ⟨fun _ _ h => h, fun _ _ h => h, fun _ row h => ⟨row, h, rfl, id⟩⟩

/-- The creator of a workspace stays its creator. -/
theorem IsOwner.grows {workspaceId userId : String} (h : IsOwner d workspaceId userId)
    (hd : Grows d d') : IsOwner d' workspaceId userId := by
  obtain ⟨m, hm, hrole⟩ := h
  exact ⟨m, hd.memberships _ m hm, hrole⟩

/-- What explains a membership is still there after the tables grew. -/
theorem MemberExplained.grows (h : MemberExplained r m) (hd : Grows r.database r'.database)
    (ha : ∀ a ∈ r.accepted, a ∈ r'.accepted) : MemberExplained r' m where
  workspace := by
    obtain ⟨w, hw⟩ := h.workspace
    exact ⟨w, hd.workspaces _ w hw⟩
  role := h.role
  owner := by
    intro hrole
    obtain ⟨w, hw, hcreated⟩ := h.owner hrole
    exact ⟨w, hd.workspaces _ w hw, hcreated⟩
  admin := by
    intro hrole
    obtain ⟨a, hmem, row, hrow, huser, hworkspace, hadmin, howner⟩ := h.admin hrole
    obtain ⟨row', hrow', hterms, -⟩ := hd.invitations _ row hrow
    simp only [Invitation.terms, Prod.mk.injEq] at hterms
    obtain ⟨hworkspace', -, hrole', hissuer, -⟩ := hterms
    refine ⟨a, ha a hmem, row', hrow', huser, ?_, ?_, ?_⟩
    · rw [hworkspace', hworkspace]
    · rw [hrole', hadmin]
    · rw [hissuer]
      exact howner.grows hd

theorem InvitationExplained.grows {row row' : Invitation} (h : InvitationExplained d row)
    (hd : Grows d d') (hterms : row'.terms = row.terms) : InvitationExplained d' row' := by
  simp only [Invitation.terms, Prod.mk.injEq] at hterms
  obtain ⟨hworkspace, -, hrole, hissuer, -⟩ := hterms
  refine ⟨?_, ?_, ?_⟩
  · obtain ⟨w, hw⟩ := h.workspace
    rw [hworkspace]
    exact ⟨w, hd.workspaces _ w hw⟩
  · rw [hrole]
    exact h.role
  · intro hadmin
    rw [hworkspace, hissuer]
    exact (h.issuer (hrole ▸ hadmin)).grows hd

/-- An acceptance keeps its invitation and its inviter. -/
theorem AcceptanceExplained.grows {a : Acceptance} (h : AcceptanceExplained d a)
    (hd : Grows d d') : AcceptanceExplained d' a := by
  obtain ⟨row, hrow, hstatus, hemail, htime⟩ := h
  obtain ⟨row', hrow', hterms, hkept⟩ := hd.invitations _ row hrow
  simp only [Invitation.terms, Prod.mk.injEq] at hterms
  obtain ⟨-, hemail', -, -, hexpires⟩ := hterms
  exact ⟨row', hrow', hkept hstatus, by rw [hemail', hemail], by rw [hexpires]; exact htime⟩

/-- A step that keeps what there is and adds explained rows. -/
theorem RolesExplained.grows (h : RolesExplained r) (hd : Grows r.database r'.database)
    (ha : ∀ a ∈ r.accepted, a ∈ r'.accepted)
    (hmembers : ∀ key m, r'.database.memberships.get? key = some m →
      r.database.memberships.get? key = some m ∨ MemberExplained r' m)
    (hinvitations : ∀ id row', r'.database.invitations.get? id = some row' →
      (∃ row, r.database.invitations.get? id = some row ∧ row'.terms = row.terms) ∨
        InvitationExplained r'.database row')
    (hnew : ∀ a ∈ r'.accepted, a ∈ r.accepted ∨ AcceptanceExplained r'.database a)
    (honce : (r'.accepted.map (·.invitationId)).Nodup) : RolesExplained r' where
  members := by
    intro key m hm
    rcases hmembers key m hm with hm | hm
    · exact (h.members key m hm).grows hd ha
    · exact hm
  invitations := by
    intro id row' hrow'
    rcases hinvitations id row' hrow' with ⟨row, hrow, hterms⟩ | hrow
    · exact (h.invitations id row hrow).grows hd hterms
    · exact hrow
  acceptances := by
    intro a hmem
    rcases hnew a hmem with hmem | hexplained
    · exact (h.acceptances a hmem).grows hd
    · exact hexplained
  once := honce

end Grows

/-! ## One call -/

section Calls

variable {host : TokenHost} {d d' : Database} {r : MemberState}

/-- A workspace is stored with its creator's membership and nothing of the other tables. -/
theorem CreateWorkspace.save_ok {host : Host} {q : CreateWorkspace} {found : Option UserContext}
    (h : q.save host found d = .ok d') :
    ∃ workspaces memberships contexts, d.workspaces.insert (q.workspace host) = some workspaces ∧
      d.memberships.insert q.membership = some memberships ∧
      addMissing d.contexts found q.context = .ok contexts ∧
      d'.workspaces = workspaces ∧ d'.memberships = memberships ∧ d'.contexts = contexts ∧
      d'.invitations = d.invitations ∧ d'.repositories = d.repositories ∧
      d'.scenarios = d.scenarios := by
  obtain ⟨_, -, h⟩ := Raise.bind_eq_ok.mp h
  obtain ⟨workspaces, hworkspaces, h⟩ := Raise.bind_eq_ok.mp h
  obtain ⟨memberships, hmemberships, h⟩ := Raise.bind_eq_ok.mp h
  obtain ⟨contexts, hcontexts, h⟩ := Raise.bind_eq_ok.mp h
  obtain rfl := Raise.pure_eq_ok.mp h
  exact ⟨workspaces, memberships, contexts, addRow_eq_ok.mp hworkspaces,
    addRow_eq_ok.mp hmemberships, hcontexts, rfl, rfl, rfl, rfl, rfl, rfl⟩

/-- A new invitation is the only row that is stored. -/
theorem CreateInvitation.save_ok {q : CreateInvitation} {rawToken : String}
    (h : q.save host rawToken d = .ok d') :
    ∃ invitations, d.invitations.insert (q.invitation host rawToken) = some invitations ∧
      d'.invitations = invitations ∧ d'.workspaces = d.workspaces ∧
      d'.memberships = d.memberships := by
  obtain ⟨_, -, h⟩ := Raise.bind_eq_ok.mp h
  obtain ⟨invitations, hinvitations, h⟩ := Raise.bind_eq_ok.mp h
  obtain rfl := Raise.pure_eq_ok.mp h
  exact ⟨invitations, addRow_eq_ok.mp hinvitations, rfl, rfl, rfl⟩

/-- Who issues an invitation for an administrator is an owner. -/
theorem CreateInvitation.load_ok {q : CreateInvitation} {rawToken : String}
    (h : q.load host d = .ok rawToken) :
    ∃ caller, d.memberships.get? (q.workspaceId, q.user.id) = some caller ∧
      (q.payload.role = "admin" → caller.role = "owner") := by
  obtain ⟨caller, hcaller, h⟩ := Raise.bind_eq_ok.mp h
  obtain ⟨_, howner, -⟩ := Raise.bind_eq_ok.mp h
  refine ⟨caller, get?_of_membershipFor hcaller, fun hadmin => ?_⟩
  exact not_not.mp fun hne => raiseIf_eq_ok.mp howner ⟨hadmin, hne⟩

/-- A revocation goes by a pending invitation of its own workspace. -/
theorem RevokeInvitation.load_ok {q : RevokeInvitation} {invitation : Invitation}
    (h : q.load d = .ok invitation) :
    d.invitations.get? q.invitationId = some invitation ∧ invitation.status = "pending" ∧
      invitation.workspaceId = q.workspaceId := by
  obtain ⟨_, -, h⟩ := Raise.bind_eq_ok.mp h
  cases hget : d.invitations.get? q.invitationId with
  | none =>
    rw [hget] at h
    cases h
  | some row =>
    rw [hget] at h
    obtain ⟨_, hworkspace, h⟩ := Raise.bind_eq_ok.mp h
    obtain ⟨_, hpending, h⟩ := Raise.bind_eq_ok.mp h
    obtain rfl := Raise.pure_eq_ok.mp h
    exact ⟨rfl, not_not.mp (raiseIf_eq_ok.mp hpending), not_not.mp (raiseIf_eq_ok.mp hworkspace)⟩

/-- A revocation sets the status of its row only. -/
theorem RevokeInvitation.save_ok {q : RevokeInvitation} {invitation : Invitation}
    (h : q.save invitation d = .ok d') :
    d'.workspaces = d.workspaces ∧ d'.memberships = d.memberships ∧
      d'.invitations = (setInvitation d invitation.id (Invitation.revoked (q.clock 0))
        (Invitation.revoked_id _)).invitations := by
  obtain rfl := Except.ok.inj h
  exact ⟨rfl, rfl, rfl⟩

/-- What an acceptance has checked. -/
structure AcceptInvitation.Checked (host : Host) (q : AcceptInvitation) (d : Database)
    (found : AcceptedInvitation) : Prop where
  find : q.find host d = some found.invitation
  stored : d.invitations.get? found.invitation.id = some found.invitation
  pending : found.invitation.status = "pending"
  email : found.invitation.email = q.user.email
  inTime : q.clock 0 < found.invitation.expiresAt
  membership : found.membership = d.memberships.get? (found.invitation.workspaceId, q.user.id)
  context : found.context = d.contexts.get? q.user.id

/-- The acceptance has checked everything it later writes from. -/
theorem AcceptInvitation.load_ok {host : Host} {q : AcceptInvitation} {found : AcceptedInvitation}
    (h : q.load host d = .ok found) : q.Checked host d found := by
  unfold AcceptInvitation.load at h
  cases hfind : q.find host d with
  | none =>
    rw [hfind] at h
    cases h
  | some row =>
    rw [hfind] at h
    obtain ⟨_, hvalid, h⟩ := Raise.bind_eq_ok.mp h
    obtain rfl := Raise.pure_eq_ok.mp h
    have hvalid := raiseIf_eq_ok.mp hvalid
    push Not at hvalid
    obtain ⟨hpending, -, htime, hemail⟩ := hvalid
    exact ⟨hfind, Table.get?_of_mem (List.mem_of_find?_eq_some hfind), hpending, hemail, htime, rfl,
      rfl⟩

/-- An acceptance adds the missing membership and context and sets the status of its row. -/
theorem AcceptInvitation.save_ok {q : AcceptInvitation} {found : AcceptedInvitation}
    (h : q.save found d = .ok d') :
    ∃ memberships contexts,
      addMissing d.memberships found.membership (q.membership found.invitation) =
        .ok memberships ∧
      addMissing d.contexts found.context (q.context found.invitation) = .ok contexts ∧
      d'.memberships = memberships ∧ d'.contexts = contexts ∧
      d'.invitations = (setInvitation d found.invitation.id (Invitation.accepted (q.clock 3))
        (Invitation.accepted_id _)).invitations ∧
      d'.workspaces = d.workspaces ∧ d'.repositories = d.repositories ∧
      d'.scenarios = d.scenarios := by
  obtain ⟨memberships, hmemberships, h⟩ := Raise.bind_eq_ok.mp h
  obtain ⟨contexts, hcontexts, h⟩ := Raise.bind_eq_ok.mp h
  obtain rfl := Raise.pure_eq_ok.mp h
  exact ⟨memberships, contexts, hmemberships, hcontexts, rfl, rfl, rfl, rfl, rfl, rfl⟩

/-- The rows of the invitations after an `UPDATE` of one of them. -/
theorem get?_setInvitation {id : String} {f : Invitation → Invitation}
    {hf : ∀ row, (f row).id = row.id} (id' : String) :
    (setInvitation d id f hf).invitations.get? id' =
      (d.invitations.get? id').map fun row => if id' = id then f row else row :=
  Table.get?_updateKey d.invitations id f hf id'

/-- Every other row is left as it is. -/
theorem mem_setInvitation {id : String} {f : Invitation → Invitation}
    {hf : ∀ row, (f row).id = row.id} {row' : Invitation} :
    row' ∈ (setInvitation d id f hf).invitations.rows ↔
      ∃ row ∈ d.invitations.rows, (if row.id = id then f row else row) = row' := by
  simp [setInvitation, Table.mem_updateWhere]

/-- Setting one row keeps the terms of all, and the status of those accepted before. -/
theorem grows_setInvitation {row : Invitation} {f : Invitation → Invitation}
    {hf : ∀ row, (f row).id = row.id} (hrow : d.invitations.get? row.id = some row)
    (hterms : (f row).terms = row.terms) (hpending : row.status = "pending") (id : String)
    (row₁ : Invitation) (h₁ : d.invitations.get? id = some row₁) :
    ∃ row', (setInvitation d row.id f hf).invitations.get? id = some row' ∧
      row'.terms = row₁.terms ∧ (row₁.status = "accepted" → row'.status = "accepted") := by
  rw [get?_setInvitation, h₁, Option.map_some]
  by_cases hid : id = row.id
  · subst hid
    obtain rfl : row = row₁ := Option.some.inj (hrow.symm.trans h₁)
    refine ⟨f row, by rw [if_pos rfl], hterms, fun haccepted => ?_⟩
    rw [hpending] at haccepted
    exact absurd haccepted (by decide)
  · exact ⟨row₁, by rw [if_neg hid], rfl, fun h => h⟩

/-- A row that is set was there before, with the same terms. -/
theorem of_get?_setInvitation {id id' : String} {f : Invitation → Invitation}
    {hf : ∀ row, (f row).id = row.id} (hterms : ∀ row, (f row).terms = row.terms)
    {row' : Invitation} (h : (setInvitation d id f hf).invitations.get? id' = some row') :
    ∃ row, d.invitations.get? id' = some row ∧ row'.terms = row.terms := by
  rw [get?_setInvitation] at h
  obtain ⟨row, hrow, rfl⟩ := Option.map_eq_some_iff.mp h
  refine ⟨row, hrow, ?_⟩
  by_cases hid : id' = id
  · rw [if_pos hid]
    exact hterms row
  · rw [if_neg hid]

/-- A summary is shown for every workspace that exists and every role the schema knows. -/
theorem workspaceSummary_ok {m : WorkspaceMembership} {w : Workspace}
    (hw : d.workspaces.get? m.workspaceId = some w) (hrole : m.role ∈ roleNames) :
    ∃ summary, workspaceSummary d m = .ok summary := by
  unfold workspaceSummary
  rw [hw]
  refine ⟨_, Raise.bind_eq_ok.mpr ⟨(), raiseIf_neg (not_not.mpr hrole) _, rfl⟩⟩

/-- The tables after a call: as they were, or as `save` left them. -/
theorem createWorkspace_store (host : Host) (q : CreateWorkspace) (d : Database) :
    ((createWorkspace host q).run d).2 = d ∨ ∃ found d', q.load host d = .ok found ∧
      q.save host found d = .ok d' ∧ ((createWorkspace host q).run d).2 = d' :=
  perform_store ..

/-- The tables after an invitation was asked for. -/
theorem createInvitation_store (host : TokenHost) (q : CreateInvitation) (d : Database) :
    ((createInvitation host q).run d).2 = d ∨ ∃ rawToken d', q.load host d = .ok rawToken ∧
      q.save host rawToken d = .ok d' ∧ ((createInvitation host q).run d).2 = d' :=
  perform_store ..

/-- The tables after a revocation was asked for. -/
theorem revokeInvitation_store (q : RevokeInvitation) (d : Database) :
    ((revokeInvitation q).run d).2 = d ∨ ∃ invitation d', q.load d = .ok invitation ∧
      q.save invitation d = .ok d' ∧ ((revokeInvitation q).run d).2 = d' :=
  perform_store ..

/-- Creating a workspace explains the one role it adds. -/
theorem CreateWorkspace.explained (h : RolesExplained r) (q : CreateWorkspace) :
    RolesExplained ⟨((createWorkspace host.toHost q).run r.database).2, r.accepted⟩ ∧
      Grows r.database ((createWorkspace host.toHost q).run r.database).2 := by
  rcases createWorkspace_store host.toHost q r.database with hrun | ⟨found, d', -, hsave, hrun⟩
  · rw [hrun]
    exact ⟨h, .refl _⟩
  · rw [hrun]
    obtain ⟨workspaces, memberships, contexts, hworkspaces, hmemberships, -, rfl, rfl, -,
      hinvitations, -, -⟩ := q.save_ok hsave
    have hgrows : Grows r.database d' := by
      refine ⟨fun id w hw => Table.get?_of_insert hworkspaces hw,
        fun key m hm => Table.get?_of_insert hmemberships hm, fun id row hrow => ?_⟩
      exact ⟨row, by rw [hinvitations, hrow], rfl, fun h => h⟩
    refine ⟨h.grows hgrows (fun a ha => ha) (fun key m hm => ?_) (fun id row hrow => ?_)
      (fun a ha => Or.inl ha) h.once, hgrows⟩
    · rcases Table.of_get?_insert hmemberships hm with hold | ⟨rfl, -⟩
      · exact Or.inl hold
      · -- the member added is the creator, as the owner
        have hw : d'.workspaces.get? q.newId = some (q.workspace host.toHost) :=
          Table.get?_inserted hworkspaces rfl
        have hrole : q.membership.role = "owner" := rfl
        refine Or.inr ⟨⟨_, hw⟩, by rw [hrole]; decide, fun _ => ⟨_, hw, rfl⟩, fun hadmin => ?_⟩
        rw [hrole] at hadmin
        exact absurd hadmin (by decide)
    · rw [hinvitations] at hrow
      exact Or.inl ⟨row, hrow, rfl⟩

/-- Inviting adds no role. -/
theorem CreateInvitation.explained (h : RolesExplained r) (q : CreateInvitation) :
    RolesExplained ⟨((createInvitation host q).run r.database).2, r.accepted⟩ ∧
      Grows r.database ((createInvitation host q).run r.database).2 := by
  rcases createInvitation_store host q r.database with hrun | ⟨rawToken, d', hload, hsave, hrun⟩
  · rw [hrun]
    exact ⟨h, .refl _⟩
  · rw [hrun]
    obtain ⟨invitations, hinvitations, rfl, hworkspaces, hmemberships⟩ := q.save_ok hsave
    have hgrows : Grows r.database d' := by
      refine ⟨fun id w hw => by rw [hworkspaces, hw], fun key m hm => by rw [hmemberships, hm],
        fun id row hrow => ?_⟩
      exact ⟨row, Table.get?_of_insert hinvitations hrow, rfl, fun h => h⟩
    refine ⟨h.grows hgrows (fun a ha => ha) (fun key m hm => ?_) (fun id row hrow => ?_)
      (fun a ha => Or.inl ha) h.once, hgrows⟩
    · rw [hmemberships] at hm
      exact Or.inl hm
    · rcases Table.of_get?_insert hinvitations hrow with hold | ⟨rfl, -⟩
      · exact Or.inl ⟨row, hold, rfl⟩
      · obtain ⟨caller, hcaller, howner⟩ := q.load_ok hload
        have hmember := h.members _ caller hcaller
        have hkey : caller.identity = (q.workspaceId, q.user.id) := Table.key_of_get? hcaller
        obtain ⟨w, hw⟩ := hmember.workspace
        rw [(Prod.mk.inj hkey).1] at hw
        refine Or.inr ⟨⟨w, hgrows.workspaces _ w hw⟩, q.payload.role_known, fun hadmin => ?_⟩
        exact ⟨caller, hgrows.memberships _ caller hcaller, howner hadmin⟩

/-- Revoking adds no role. -/
theorem RevokeInvitation.explained (h : RolesExplained r) (q : RevokeInvitation) :
    RolesExplained ⟨((revokeInvitation q).run r.database).2, r.accepted⟩ ∧
      Grows r.database ((revokeInvitation q).run r.database).2 := by
  rcases revokeInvitation_store q r.database with hrun | ⟨invitation, d', hload, hsave, hrun⟩
  · rw [hrun]
    exact ⟨h, .refl _⟩
  · rw [hrun]
    obtain ⟨hstored, hpending, -⟩ := q.load_ok hload
    obtain ⟨hworkspaces, hmemberships, hinvitations⟩ := q.save_ok hsave
    have hrow : r.database.invitations.get? invitation.id = some invitation := by
      rw [Table.key_of_get? hstored, hstored]
    have hgrows : Grows r.database d' := by
      refine ⟨fun id w hw => by rw [hworkspaces, hw], fun key m hm => by rw [hmemberships, hm], ?_⟩
      rw [hinvitations]
      exact grows_setInvitation hrow rfl hpending
    refine ⟨h.grows hgrows (fun a ha => ha) (fun key m hm => ?_) (fun id row hrow => ?_)
      (fun a ha => Or.inl ha) h.once, hgrows⟩
    · rw [hmemberships] at hm
      exact Or.inl hm
    · rw [hinvitations] at hrow
      exact Or.inl (of_get?_setInvitation (Invitation.revoked_terms _) hrow)

/-- An acceptance has an answer, once it has written. -/
theorem AcceptInvitation.answer_ok {host : Host} (h : Answerable d) {q : AcceptInvitation}
    {found : AcceptedInvitation} (hload : q.load host d = .ok found)
    (hsave : q.save found d = .ok d') :
    ∃ summary, workspaceSummary d' (found.membership.getD (q.membership found.invitation)) =
      .ok summary := by
  have hchecked := q.load_ok hload
  obtain ⟨hworkspace, hrole⟩ := h.invitations _ _ hchecked.stored
  obtain ⟨memberships, contexts, -, -, -, -, -, hworkspaces, -, -⟩ := q.save_ok hsave
  have hanswer : (∃ w, d'.workspaces.get?
      (found.membership.getD (q.membership found.invitation)).workspaceId = some w) ∧
      (found.membership.getD (q.membership found.invitation)).role ∈ roleNames := by
    rw [hworkspaces]
    cases hfound : found.membership with
    | none => exact ⟨hworkspace, List.mem_append_left _ hrole⟩
    | some m =>
      rw [hchecked.membership] at hfound
      exact h.members _ m hfound
  obtain ⟨⟨w, hw⟩, hrole⟩ := hanswer
  exact workspaceSummary_ok hw hrole

/-- An acceptance that does not return leaves the tables as they were. -/
theorem acceptInvitation_cases {host : Host} (h : Answerable d) (q : AcceptInvitation) :
    (∃ e, (acceptInvitation host q).run d = (.error e, d)) ∨
      ∃ found d' summary, q.Checked host d found ∧ q.save found d = .ok d' ∧
        (acceptInvitation host q).run d = (.ok summary, d') := by
  rcases perform_run (q.load host) q.save
    (fun found d => workspaceSummary d (found.membership.getD (q.membership found.invitation)))
    d with ⟨e, hrun⟩ | ⟨found, d', hload, hsave, hrun⟩
  · exact Or.inl ⟨e, hrun⟩
  · obtain ⟨summary, hsummary⟩ := q.answer_ok h hload hsave
    rw [hsummary] at hrun
    exact Or.inr ⟨found, d', summary, q.load_ok hload, hsave, hrun⟩

/-- Accepting explains the one role it may add by the invitation it was given. -/
theorem AcceptInvitation.explained (h : RolesExplained r) (q : AcceptInvitation) :
    RolesExplained ⟨((acceptInvitation host.toHost q).run r.database).2,
        r.accepted ++ q.acceptances host.toHost r.database⟩ ∧
      Grows r.database ((acceptInvitation host.toHost q).run r.database).2 := by
  unfold AcceptInvitation.acceptances
  rcases acceptInvitation_cases h.answerable q with
    ⟨e, hrun⟩ | ⟨found, d', summary, hchecked, hsave, hrun⟩
  · rw [hrun, List.append_nil]
    exact ⟨h, .refl _⟩
  · rw [hrun, hchecked.find]
    obtain ⟨memberships, contexts, hmemberships, -, rfl, -, hinvitations, hworkspaces, -, -⟩ :=
      q.save_ok hsave
    have hgrows : Grows r.database d' := by
      refine ⟨fun id w hw => by rw [hworkspaces, hw],
        fun key m hm => get?_of_addMissing hmemberships hm, ?_⟩
      rw [hinvitations]
      exact grows_setInvitation hchecked.stored rfl hchecked.pending
    have haccepted : d'.invitations.get? found.invitation.id =
        some (found.invitation.accepted (q.clock 3)) := by
      rw [hinvitations, get?_setInvitation, hchecked.stored, Option.map_some, if_pos rfl]
    have hinvitation := h.invitations _ _ hchecked.stored
    refine ⟨h.grows hgrows (fun a ha => List.mem_append_left _ ha) (fun key m hm => ?_)
      (fun id row hrow => ?_) (fun a ha => ?_) ?_, hgrows⟩
    · rcases of_get?_addMissing hmemberships hm with hold | ⟨-, rfl⟩
      · exact Or.inl hold
      · obtain ⟨w, hw⟩ := hinvitation.workspace
        refine Or.inr ⟨⟨w, hgrows.workspaces _ w hw⟩, List.mem_append_left _ hinvitation.role,
          fun howner => ?_, fun hadmin => ?_⟩
        · -- no invitation is for an owner
          have hrole : found.invitation.role ∈ invitationRoles := hinvitation.role
          rw [show found.invitation.role = "owner" from howner] at hrole
          exact absurd hrole (by decide)
        · exact ⟨_, List.mem_append_right _ (List.mem_singleton_self _), _, haccepted, rfl, rfl,
            hadmin, (hinvitation.issuer hadmin).grows hgrows⟩
    · rw [hinvitations] at hrow
      exact Or.inl (of_get?_setInvitation (Invitation.accepted_terms _) hrow)
    · rcases List.mem_append.mp ha with ha | ha
      · exact Or.inl ha
      · rw [List.mem_singleton.mp ha]
        exact Or.inr ⟨_, haccepted, rfl, hchecked.email.symm, hchecked.inTime⟩
    · rw [List.map_append, List.map_singleton]
      refine h.once.append (List.nodup_singleton _) (List.disjoint_singleton.mpr fun hmem => ?_)
      obtain ⟨a, ha, hid⟩ := List.mem_map.mp hmem
      -- what was accepted before is not pending
      obtain ⟨row, hrow, hstatus, -, -⟩ := h.acceptances a ha
      rw [hid, hchecked.stored, Option.some.injEq] at hrow
      rw [← hrow, hchecked.pending] at hstatus
      exact absurd hstatus (by decide)

/-- Every call keeps the roles explained. -/
theorem RolesExplained.step (h : RolesExplained r) (call : MemberCall) :
    RolesExplained (memberStep host r call) ∧
      Grows r.database (memberStep host r call).database := by
  cases call with
  | createWorkspace q => exact q.explained h
  | createInvitation q => exact q.explained h
  | revokeInvitation q => exact q.explained h
  | acceptInvitation q => exact q.explained h

end Calls

/-! ## Every role has its call -/

/-- In every run the roles are explained and an invitation is accepted once; no call
changes a membership; and whoever accepts is the one invited, in time. -/
theorem roles_explained {host : TokenHost} {r : MemberState}
    (h : Reachable (memberSystem host) r) :
    RolesExplained r ∧
      (∀ call r', (memberSystem host).next r call = some r' → ∀ key m,
        r.database.memberships.get? key = some m → r'.database.memberships.get? key = some m) ∧
      ∀ q summary d', (acceptInvitation host.toHost q).run r.database = (.ok summary, d') →
        ∃ invitation, q.find host.toHost r.database = some invitation ∧
          invitation.status = "pending" ∧ q.user.email = invitation.email ∧
          q.clock 0 < invitation.expiresAt := by
  have hinv : Invariant (memberSystem host) (fun _ _ => True) RolesExplained := by
    refine ⟨fun r hinit => hinit, fun r call r' hr _ hstep => ?_⟩
    obtain rfl := Option.some.inj hstep
    exact (hr.step call).1
  have hr := hinv.reachable h
  refine ⟨hr, fun call r' hstep key m hm => ?_, fun q summary d' hrun => ?_⟩
  · obtain rfl := Option.some.inj hstep
    exact (hr.step call).2.memberships key m hm
  · rcases acceptInvitation_cases hr.answerable q with
      ⟨e, herror⟩ | ⟨found, _, _, hchecked, -, -⟩
    · rw [hrun] at herror
      cases herror
    · exact ⟨_, hchecked.find, hchecked.pending, hchecked.email.symm, hchecked.inTime⟩

/-! An owner invites an administrator, who accepts twice. -/

def tokenHost : TokenHost :=
  { asciiHost with sha256 := fun text => "sha256:" ++ text, hmacDigest := fun _ msg => msg }

def alice : User := ⟨"u-1", "alice@acme.test", "Alice", "development", "development:alice", true, 0⟩

def bob : User := ⟨"u-2", "bob@acme.test", "Bob", "development", "development:bob", true, 0⟩

def inviteBob : CreateInvitation where
  user := alice
  workspaceId := "w-1"
  payload := ⟨"bob@acme.test", "admin", by decide⟩
  requestId := "r-2"
  ttlHours := 72
  tokenSecret := none
  newId := "i-1"
  urlsafeToken := "token"
  clock _ := 0

def inviteRun : List MemberCall :=
  [.createWorkspace ⟨alice, "Acme", "acme", "r-1", "w-1", "m-1", fun _ => 0⟩,
    .createInvitation inviteBob,
    .acceptInvitation ⟨bob, "token", "r-3", "m-2", fun _ => 5⟩,
    .acceptInvitation ⟨bob, "token", "r-4", "m-3", fun _ => 6⟩]

/-- A run in which an owner invites, the invited accepts, and both roles are explained. -/
theorem roles_explained_invited :
    ∃ r, Reachable (memberSystem tokenHost) r ∧
      r.accepted = [⟨"i-1", "u-2", "bob@acme.test", 5⟩] ∧
      (r.database.memberships.get? ("w-1", "u-2")).map (·.role) = some "admin" ∧
      RolesExplained r := by
  let r₀ : MemberState := ⟨Database.empty, []⟩
  have hends : ((memberSystem tokenHost).run r₀ inviteRun).map (fun r =>
      (r.accepted, (r.database.memberships.get? ("w-1", "u-2")).map (·.role))) =
      some ([⟨"i-1", "u-2", "bob@acme.test", 5⟩], some "admin") := by decide +kernel
  obtain ⟨r, hrun, hlast⟩ := Option.map_eq_some_iff.mp hends
  obtain ⟨haccepted, hrole⟩ := Prod.mk.inj hlast
  have hstart : RolesExplained r₀ := by
    refine ⟨fun key m hm => ?_, fun id row hrow => ?_, fun a ha => ?_, List.nodup_nil⟩
    · cases hm
    · cases hrow
    · cases ha
  have hreach : Reachable (memberSystem tokenHost) r := .of_run (.init hstart) hrun
  exact ⟨r, hreach, haccepted, hrole, (roles_explained hreach).1⟩

end DeployGuard.Service
