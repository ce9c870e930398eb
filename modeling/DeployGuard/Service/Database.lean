import DeployGuard.Service.Store

/-!
# Services: people, incidents' records and the whole database

The tables that come to those of `Store`: the users with their invitations and
contexts, and what is recorded about an incident. `ServiceCall` is a call on a
session of the whole database.

The setting for row security is left out. It narrows what a statement sees to the
workspace that was authorised just before, and the statements here name it anyway.
-/

namespace DeployGuard.Service

open Raise

structure User where
  id : String
  email : String
  displayName : String
  authProvider : String
  providerSubject : String
  isActive : Bool
  createdAt : Time
  deriving DecidableEq

structure UserContext where
  userId : String
  workspaceId : String
  repositoryId : Option String
  scenarioId : Option String
  updatedAt : Time
  deriving DecidableEq

/-- A row of `workspace_invitations`. -/
structure Invitation where
  id : String
  workspaceId : String
  email : String
  role : String
  tokenHash : String
  status : String
  invitedByUserId : String
  createdAt : Time
  expiresAt : Time
  acceptedAt : Option Time
  revokedAt : Option Time
  deriving DecidableEq

structure InvitationDelivery where
  id : String
  invitationId : String
  provider : String
  status : String
  providerMessageId : Option String
  errorCode : Option String
  attemptedAt : Time
  deriving DecidableEq

structure Notification where
  workspaceId : String
  userId : String
  kind : String
  title : String
  message : String
  resourceType : String
  resourceId : String
  createdAt : Time
  deriving DecidableEq

/-- A row of `incident_feedback`. -/
structure FeedbackRecord where
  id : Nat
  incidentId : String
  hypothesisId : String
  verdict : String
  note : String
  actorUserId : Option String
  actorDisplayName : Option String
  actorAuthProvider : Option String
  verificationResult : String
  verificationMethod : Option String
  verificationSummary : Option String
  verificationEvidenceIds : List String
  submittedAt : Time
  deriving DecidableEq

structure PostmortemSnapshotRecord where
  id : String
  workspaceId : String
  incidentId : String
  snapshotVersion : String
  contentMarkdown : String
  contentSha256 : String
  sourceFeedbackCount : Nat
  analysisSchemaVersion : String
  engineVersion : String
  createdByUserId : String
  createdByDisplayName : String
  createdByAuthProvider : String
  createdAt : Time
  deriving DecidableEq

structure DatasetConsentDecisionRecord where
  id : String
  workspaceId : String
  incidentId : String
  postmortemSnapshotId : String
  purpose : String
  decision : String
  termsVersion : String
  reason : String
  attestations : List String
  actorUserId : String
  actorDisplayName : String
  actorAuthProvider : String
  createdAt : Time
  deriving DecidableEq

/-- The whole database. -/
structure Database extends Store where
  users : Table User.id
  contexts : Table UserContext.userId
  invitations : Table Invitation.id
  invitationDeliveries : Table InvitationDelivery.id
  notifications : List Notification
  feedback : Table FeedbackRecord.id
  snapshots : Table PostmortemSnapshotRecord.id
  consents : Table DatasetConsentDecisionRecord.id
  deriving DecidableEq

namespace Database

/-- A database without rows. -/
def empty : Database := ⟨Store.empty, ∅, ∅, ∅, ∅, [], ∅, ∅, ∅⟩

/-- `audit(…)`. -/
def audit (entry : AuditEvent) (d : Database) : Database :=
  { d with auditEvents := d.auditEvents ++ [entry] }

end Database

abbrev ServiceCall (α : Type) : Type := Session.Call Database ServiceError α

/-- `session.add(row)` and its flush. -/
def addRow {κ ρ : Type} [DecidableEq κ] {key : ρ → κ} (table : Table key) (row : ρ) :
    Except ServiceError (Table key) :=
  match table.insert row with
  | some table => .ok table
  | none => .error .integrityError

theorem addRow_eq_ok {κ ρ : Type} [DecidableEq κ] {key : ρ → κ} {table table' : Table key}
    {row : ρ} : addRow table row = .ok table' ↔ table.insert row = some table' := by
  unfold addRow
  cases table.insert row with
  | none => exact ⟨nofun, nofun⟩
  | some added => rw [Except.ok.injEq, Option.some.injEq]

/-- `session.add(row)` where the row was found missing before. -/
def addMissing {κ ρ : Type} [DecidableEq κ] {key : ρ → κ} (table : Table key)
    (found : Option ρ) (row : ρ) : Except ServiceError (Table key) :=
  match found with
  | some _ => .ok table
  | none => addRow table row

theorem addMissing_eq_ok {κ ρ : Type} [DecidableEq κ] {key : ρ → κ} {table table' : Table key}
    {found : Option ρ} {row : ρ} (h : addMissing table found row = .ok table') :
    (∃ r, found = some r ∧ table' = table) ∨
      found = none ∧ table.insert row = some table' := by
  unfold addMissing at h
  cases found with
  | some r => exact Or.inl ⟨r, rfl, (Except.ok.inj h).symm⟩
  | none => exact Or.inr ⟨rfl, addRow_eq_ok.mp h⟩

/-- A row that is there now was there before, or is the one that was missing. -/
theorem of_get?_addMissing {κ ρ : Type} [DecidableEq κ] {key : ρ → κ} {table table' : Table key}
    {found : Option ρ} {row r : ρ} {k : κ} (h : addMissing table found row = .ok table')
    (hr : table'.get? k = some r) : table.get? k = some r ∨ found = none ∧ r = row := by
  rcases addMissing_eq_ok h with ⟨-, -, rfl⟩ | ⟨hfound, hinsert⟩
  · exact Or.inl hr
  · rcases Table.of_get?_insert hinsert hr with hold | ⟨hrow, -⟩
    · exact Or.inl hold
    · exact Or.inr ⟨hfound, hrow⟩

/-- No row is lost by it. -/
theorem get?_of_addMissing {κ ρ : Type} [DecidableEq κ] {key : ρ → κ} {table table' : Table key}
    {found : Option ρ} {row r : ρ} {k : κ} (h : addMissing table found row = .ok table')
    (hr : table.get? k = some r) : table'.get? k = some r := by
  rcases addMissing_eq_ok h with ⟨-, -, rfl⟩ | ⟨-, hinsert⟩
  · exact hr
  · exact Table.get?_of_insert hinsert hr

/-- Who is let in is a member, and the membership is returned. -/
theorem get?_of_membershipFor {s : Store} {userId workspaceId minimumRole : String}
    {m : WorkspaceMembership} (h : membershipFor s userId workspaceId minimumRole = .ok m) :
    s.memberships.get? (workspaceId, userId) = some m := by
  unfold membershipFor at h
  cases hget : s.memberships.get? (workspaceId, userId) with
  | none =>
    rw [hget] at h
    cases h
  | some row =>
    rw [hget] at h
    obtain ⟨_, -, h⟩ := Raise.bind_eq_ok.mp h
    obtain ⟨_, -, h⟩ := Raise.bind_eq_ok.mp h
    obtain ⟨_, -, h⟩ := Raise.bind_eq_ok.mp h
    rw [Raise.pure_eq_ok.mp h]

theorem repositoryForWorkspace_some {s : Store} {workspaceId : String} {wanted : Option String}
    {row : Repository} (h : repositoryForWorkspace s workspaceId wanted = .ok (some row)) :
    s.repositories.get? row.id = some row ∧ row.workspaceId = workspaceId := by
  cases wanted with
  | none => cases h
  | some id =>
    simp only [repositoryForWorkspace] at h
    split at h
    · next found hfind =>
      obtain rfl := Option.some.inj (Except.ok.inj h)
      have hmatch : found.id = id ∧ found.workspaceId = workspaceId := by
        simpa using List.find?_some hfind
      exact ⟨Table.get?_of_mem (List.mem_of_find?_eq_some hfind), hmatch.2⟩
    · cases h

end DeployGuard.Service
