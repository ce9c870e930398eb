import DeployGuard.Service.Members

/-!
# Acceptances and revocations side by side

Both calls look whether the invitation is pending when they read it, and set their
own status by the identifier alone when they commit. So the second of two calls
that have read settles what is settled already (`settled_twice`).

It is settled once in the runs whose commits find it pending
(`invitation_settled_once`); a commit that does not is the second to succeed.
-/

namespace DeployGuard.Service

open Interleaving Raise Transition

/-- A call that settles an invitation. -/
inductive SettleCall where
  | accept (q : AcceptInvitation)
  | revoke (q : RevokeInvitation)

/-- What it has read. -/
inductive SettleFound where
  | accept (found : AcceptedInvitation)
  | revoke (invitation : Invitation)
  deriving DecidableEq

namespace SettleCall

variable (host : Host)

def load (d : Database) : SettleCall → Except ServiceError SettleFound
  | accept q => (q.load host d).map .accept
  | revoke q => (q.load d).map .revoke

def save (d : Database) : SettleCall → SettleFound → Except ServiceError Database
  | accept q, .accept found => q.save found d
  | revoke q, .revoke invitation => q.save invitation d
  -- a call has read what its own kind reads
  | _, _ => .error .integrityError

/-- The call is about the invitation with this identifier and token. -/
def IsOn (id tokenHash : String) : SettleCall → Prop
  | accept q => tokenDigest host q.rawToken = tokenHash
  | revoke q => q.invitationId = id

def isRevoke : SettleCall → Bool
  | accept _ => false
  | revoke _ => true

/-- The status the call sets. -/
def settled : SettleCall → String
  | accept _ => "accepted"
  | revoke _ => "revoked"

end SettleCall

def SettleFound.invitation : SettleFound → Invitation
  | accept found => found.invitation
  | revoke invitation => invitation

section Settle

variable {ι : Type} [DecidableEq ι]

/-- The statements of the calls. -/
def settleProgram (host : Host) (call : ι → SettleCall) :
    ReadCommit.Program ι Database SettleFound ServiceError where
  read i d := (call i).load host d
  commit i found d := (call i).save d found

abbrev SettleState (ι : Type) := ReadCommit.State ι Database SettleFound ServiceError

/-- The invitation is there and has this status and the token. -/
def HasStatus (id status : String) (d : Database) : Prop :=
  ∃ row, d.invitations.get? id = some row ∧ row.status = status

/-- The token is that of the invitation, and of no other. -/
structure OwnToken (id tokenHash : String) (d : Database) : Prop where
  stored : ∃ row, d.invitations.get? id = some row
  unique : ∀ row ∈ d.invitations.rows, row.tokenHash = tokenHash → row.id = id

/-- Calls on an invitation that is pending. -/
def settleSystem (host : Host) (call : ι → SettleCall) (start : Database) :
    System (SettleState ι) (ReadCommit.Action ι) :=
  ReadCommit.system (settleProgram host call) (fun d => d = start)

/-- At most one call has succeeded; if it is a revocation, the members are those of
the start. -/
structure SettledOnce (call : ι → SettleCall) (start : Database) (r : SettleState ι) : Prop where
  once : ∀ i j, (r.stage i).isSucceeded = true → (r.stage j).isSucceeded = true → i = j
  members : ∀ i, (r.stage i).isSucceeded = true → (call i).isRevoke = true →
    r.store.memberships = start.memberships

/-- A commit finds the invitation still pending. -/
def FindsPending (id : String) (r : SettleState ι) : ReadCommit.Action ι → Prop
  | .read _ => True
  | .commit _ => HasStatus id "pending" r.store

/-! ## One call -/

variable {host : Host} {call : SettleCall} {id tokenHash : String} {d d' : Database}
  {found : SettleFound}

theorem HasStatus.unique {status status' : String} (h : HasStatus id status d)
    (h' : HasStatus id status' d) : status = status' := by
  obtain ⟨row, hrow, rfl⟩ := h
  obtain ⟨row', hrow', rfl⟩ := h'
  rw [hrow, Option.some.injEq] at hrow'
  rw [hrow']

theorem SettleCall.settled_ne_pending (call : SettleCall) : call.settled ≠ "pending" := by
  cases call with
  | accept q => show ("accepted" : String) ≠ "pending"; decide
  | revoke q => show ("revoked" : String) ≠ "pending"; decide

/-- A call on the invitation reads that one. -/
theorem SettleCall.load_ok (hon : call.IsOn host id tokenHash) (htoken : OwnToken id tokenHash d)
    (h : call.load host d = .ok found) : found.invitation.id = id := by
  cases call with
  | accept q =>
    cases hload : q.load host d with
    | error e =>
      rw [SettleCall.load, hload] at h
      cases h
    | ok accepted =>
      rw [SettleCall.load, hload] at h
      obtain rfl := Except.ok.inj h
      have hfind := (q.load_ok hload).find
      have hhash : accepted.invitation.tokenHash = tokenDigest host q.rawToken := by
        simpa using List.find?_some hfind
      exact htoken.unique _ (List.mem_of_find?_eq_some hfind) (hhash.trans hon)
  | revoke q =>
    cases hload : q.load d with
    | error e =>
      rw [SettleCall.load, hload] at h
      cases h
    | ok invitation =>
      rw [SettleCall.load, hload] at h
      obtain rfl := Except.ok.inj h
      exact (Table.key_of_get? (q.load_ok hload).1).trans hon

/-- What a commit does to the invitations and to the members. -/
theorem SettleCall.save_cases (h : call.save d found = .ok d') :
    ∃ f : Invitation → Invitation, ∃ hf : ∀ row, (f row).id = row.id,
      (∀ row, (f row).status = call.settled ∧ (f row).tokenHash = row.tokenHash) ∧
      d'.invitations = (setInvitation d found.invitation.id f hf).invitations ∧
      (call.isRevoke = true → d'.memberships = d.memberships) := by
  cases call with
  | accept q =>
    cases found with
    | accept accepted =>
      obtain ⟨_, _, -, -, -, -, hinvitations, -⟩ := q.save_ok h
      exact ⟨Invitation.accepted _, Invitation.accepted_id _, fun row => ⟨rfl, rfl⟩, hinvitations,
        nofun⟩
    | revoke invitation => cases h
  | revoke q =>
    cases found with
    | accept accepted => cases h
    | revoke invitation =>
      obtain ⟨-, hmemberships, hinvitations⟩ := q.save_ok h
      exact ⟨Invitation.revoked _, Invitation.revoked_id _, fun row => ⟨rfl, rfl⟩, hinvitations,
        fun _ => hmemberships⟩

theorem OwnToken.save (htoken : OwnToken id tokenHash d) (h : call.save d found = .ok d') :
    OwnToken id tokenHash d' := by
  obtain ⟨f, hf, hkept, hinvitations, -⟩ := call.save_cases h
  obtain ⟨row, hrow⟩ := htoken.stored
  refine ⟨⟨_, by rw [hinvitations, get?_setInvitation, hrow, Option.map_some]⟩, ?_⟩
  intro row' hrow' hhash
  rw [hinvitations] at hrow'
  obtain ⟨row₀, hrow₀, rfl⟩ := mem_setInvitation.mp hrow'
  by_cases hid : row₀.id = found.invitation.id
  · rw [if_pos hid] at hhash ⊢
    rw [hf]
    exact htoken.unique row₀ hrow₀ ((hkept row₀).2 ▸ hhash)
  · rw [if_neg hid] at hhash ⊢
    exact htoken.unique row₀ hrow₀ hhash

/-- A commit settles the invitation its call has read. -/
theorem HasStatus.save (htoken : OwnToken id tokenHash d) (hid : found.invitation.id = id)
    (h : call.save d found = .ok d') : HasStatus id call.settled d' := by
  obtain ⟨f, hf, hkept, hinvitations, -⟩ := call.save_cases h
  obtain ⟨row, hrow⟩ := htoken.stored
  refine ⟨f row, ?_, (hkept row).1⟩
  rw [hinvitations, get?_setInvitation, hrow, Option.map_some, if_pos hid.symm]

end Settle

/-! ## Runs -/

section Runs

variable {ι : Type} [DecidableEq ι] {host : Host} {call : ι → SettleCall} {start : Database}
  {id tokenHash : String} {r r' : SettleState ι}

/-- What the call leaves when it is made alone. -/
def SettleCall.alone (host : Host) (d : Database) : SettleCall → Database
  | .accept q => ((acceptInvitation host q).run d).2
  | .revoke q => ((revokeInvitation q).run d).2

/-- With nothing in between, the statements are the call. -/
theorem settle_alone {i : ι} (hi : r.stage i = .waiting) :
    ∃ steps r', (settleSystem host call start).run r steps = some r' ∧
      r'.store = (call i).alone host r.store ∧ (r'.stage i).live = false := by
  have hstatements : ∃ steps r', (settleSystem host call start).run r steps = some r' ∧
      r'.store = ((perform (fun d => (call i).load host d) (fun found d => (call i).save d found)
        fun _ _ => .ok ()).run r.store).2 ∧ (r'.stage i).live = false :=
    ReadCommit.perform_alone hi _
  obtain ⟨steps, r', hrun, hstore, hlive⟩ := hstatements
  refine ⟨steps, r', hrun, hstore.trans ?_, hlive⟩
  cases call i with
  | accept q => exact perform_map (fun _ => rfl) fun _ _ => rfl
  | revoke q => exact perform_map (fun _ => rfl) fun _ _ => rfl

/-- The invitation is pending and no call has succeeded, or one call has and it has
that call's status. -/
inductive SettleInv (call : ι → SettleCall) (start : Database) (id : String)
    (r : SettleState ι) : Prop
  | pending : HasStatus id "pending" r.store → (∀ i, (r.stage i).isSucceeded = false) →
      r.store.memberships = start.memberships → SettleInv call start id r
  | settled (i : ι) : HasStatus id (call i).settled r.store →
      (∀ j, (r.stage j).isSucceeded = true ↔ j = i) →
      ((call i).isRevoke = true → r.store.memberships = start.memberships) →
      SettleInv call start id r

omit [DecidableEq ι] in
theorem SettleInv.once (h : SettleInv call start id r) : SettledOnce call start r := by
  cases h with
  | pending _ hnone hmembers =>
    refine ⟨fun i j hi => ?_, fun i hi => ?_⟩
    · rw [hnone i] at hi
      cases hi
    · rw [hnone i] at hi
      cases hi
  | settled i _ hdone hmembers =>
    refine ⟨fun j k hj hk => ?_, fun j hj hrevoke => ?_⟩
    · rw [(hdone j).mp hj, (hdone k).mp hk]
    · obtain rfl := (hdone j).mp hj
      exact hmembers hrevoke

/-- A call that reads or fails changes nothing here. -/
theorem SettleInv.goTo {i : ι} {stage : ReadCommit.Stage SettleFound ServiceError}
    (h : SettleInv call start id r) (hbefore : (r.stage i).isSucceeded = false)
    (hafter : stage.isSucceeded = false) : SettleInv call start id (r.goTo i stage) := by
  have hsame : ∀ j, ((r.goTo i stage).stage j).isSucceeded = (r.stage j).isSucceeded := by
    intro j
    by_cases hj : j = i
    · subst hj
      rw [Parties.goTo_self, hbefore, hafter]
    · rw [Parties.goTo_ne _ _ hj]
  cases h with
  | pending hpending hnone hmembers =>
    exact .pending hpending (fun j => by rw [hsame, hnone]) hmembers
  | settled k hstatus hdone hmembers =>
    exact .settled k hstatus (fun j => by rw [hsame, hdone]) hmembers

/-- A commit that finds it pending is the first. -/
theorem SettleInv.commit {i : ι} {found : SettleFound} {d' : Database}
    (h : SettleInv call start id r) (hpending : HasStatus id "pending" r.store)
    (htoken : OwnToken id tokenHash r.store) (hid : found.invitation.id = id)
    (hsave : (call i).save r.store found = .ok d') :
    SettleInv call start id (r.write i .succeeded d') := by
  cases h with
  | pending _ hnone hmembers =>
    refine .settled i (.save htoken hid hsave) (fun j => ?_) (fun hrevoke => ?_)
    · by_cases hj : j = i
      · subst hj
        rw [Parties.write_self]
        exact iff_of_true rfl rfl
      · rw [Parties.write_ne _ _ _ hj, hnone j]
        exact iff_of_false nofun hj
    · obtain ⟨-, -, -, -, hkept⟩ := (call i).save_cases hsave
      rw [Parties.write_store, hkept hrevoke, hmembers]
  | settled k hstatus _ _ => exact absurd (hstatus.unique hpending) (call k).settled_ne_pending

/-- A commit that does not find it pending is the second. -/
theorem SettleInv.second {i : ι} {d' : Database} (h : SettleInv call start id r)
    (hpending : ¬HasStatus id "pending" r.store) (hi : (r.stage i).isSucceeded = false) :
    ¬SettledOnce call start (r.write i .succeeded d') := by
  intro honce
  cases h with
  | pending hstill _ _ => exact hpending hstill
  | settled k _ hdone _ =>
    have hk : k ≠ i := by
      intro h
      obtain rfl := h
      rw [(hdone k).mpr rfl] at hi
      cases hi
    refine hk (honce.once k i ?_ ?_)
    · rw [Parties.write_ne _ _ _ hk]
      exact (hdone k).mpr rfl
    · rw [Parties.write_self]
      rfl

/-- In the runs whose commits find the invitation pending it is settled once, and a
commit that succeeds keeps that so exactly if it does. -/
theorem invitation_settled_once (hstart : HasStatus id "pending" start)
    (htoken : OwnToken id tokenHash start) (hon : ∀ i, (call i).IsOn host id tokenHash)
    (h : ReachableBy (settleSystem host call start) (FindsPending id) r) :
    SettledOnce call start r ∧
      ∀ i r', (settleSystem host call start).next r (.commit i) = some r' →
        (r'.stage i).isSucceeded = true →
        (SettledOnce call start r' ↔ FindsPending id r (.commit i)) := by
  -- Whatever a call has read, it read this invitation.
  have hread : ∀ {r : SettleState ι}, ReachableBy (settleSystem host call start) (FindsPending id) r →
      OwnToken id tokenHash r.store ∧ ∀ i found, r.stage i = .holding found →
        found.invitation.id = id := by
    intro r hr
    obtain ⟨hstore, hfound⟩ := ReadCommit.read_from (J := OwnToken id tokenHash)
      (by rintro _ rfl; exact htoken) (fun i k s t hs hsave => hs.save hsave) hr
    refine ⟨hstore, fun i found hi => ?_⟩
    obtain ⟨d, hd, hload⟩ := hfound i found hi
    exact SettleCall.load_ok (hon i) hd hload
  -- The invariant: pending until the one commit, settled after it.
  have hinv : SettleInv call start id r := by
    induction h with
    | init hinit =>
      obtain ⟨rfl, hstage⟩ := hinit
      exact .pending hstart (fun i => by rw [hstage]; rfl) rfl
    | step hr hC hstep ih =>
      rcases ReadCommit.step_cases hstep with ⟨i, found, -, hi, -, rfl⟩ | ⟨i, e, -, hlive, rfl⟩ |
        ⟨i, found, d', rfl, hi, hsave, rfl⟩
      · exact ih.goTo (by rw [hi]; rfl) rfl
      · exact ih.goTo (ReadCommit.not_succeeded_of_live hlive) rfl
      · obtain ⟨hstore, hid⟩ := hread hr
        exact ih.commit hC hstore (hid i found hi) hsave
  refine ⟨hinv.once, fun i r' hstep hdone => ?_⟩
  rcases ReadCommit.step_cases hstep with ⟨j, found, haction, -⟩ | ⟨j, e, haction, -, rfl⟩ |
    ⟨j, found, d', haction, hi, hsave, rfl⟩
  · cases haction
  · obtain rfl : i = j := by
      rcases haction with haction | haction
      · cases haction
      · exact ReadCommit.Action.commit.inj haction
    rw [Parties.goTo_self] at hdone
    cases hdone
  · obtain rfl : i = j := ReadCommit.Action.commit.inj haction
    obtain ⟨hstore, hid⟩ := hread h
    constructor
    · -- a commit that finds it settled is the second one
      intro honce
      by_contra hpending
      exact hinv.second hpending (by rw [hi]; rfl) honce
    · intro hpending
      exact (hinv.commit hpending hstore (hid i found hi) hsave).once

end Runs

/-! An invitation is revoked by the owner and accepted by the one invited. -/

/-- Bob is invited. -/
def invitedStart : Database :=
  ((createInvitation tokenHost inviteBob).run
    ((createWorkspace tokenHost.toHost ⟨alice, "Acme", "acme", "r-1", "w-1", "m-1", fun _ => 0⟩).run
      Database.empty).2).2

def settleCalls : Bool → SettleCall
  | true => .revoke ⟨alice, "w-1", "i-1", "r-3", fun _ => 4⟩
  | false => .accept ⟨bob, "token", "r-4", "m-2", fun _ => 5⟩

theorem invitedStart_pending : HasStatus "i-1" "pending" invitedStart :=
  ⟨inviteBob.invitation tokenHost "token", by decide +kernel, rfl⟩

theorem invitedStart_ownToken : OwnToken "i-1" "sha256:token" invitedStart :=
  ⟨⟨inviteBob.invitation tokenHost "token", by decide +kernel⟩, by decide +kernel⟩

theorem settleCalls_isOn (i : Bool) :
    (settleCalls i).IsOn tokenHost.toHost "i-1" "sha256:token" := by
  cases i with
  | true => rfl
  | false => rfl

/-- A revocation that reads and commits before anybody accepts. -/
theorem invitation_settled_once_revoked :
    ∃ r, ReachableBy (settleSystem tokenHost.toHost settleCalls invitedStart)
        (FindsPending "i-1") r ∧
      (r.stage true).isSucceeded = true ∧ SettledOnce settleCalls invitedStart r := by
  let r₀ : SettleState Bool := ⟨invitedStart, fun _ => .waiting⟩
  let S := settleSystem tokenHost.toHost settleCalls invitedStart
  have hends : (((S.next r₀ (.read true)).bind fun r₁ => S.next r₁ (.commit true)).map
      fun r => (r.stage true).isSucceeded) = some true := by decide +kernel
  obtain ⟨r, hsteps, hdone⟩ := Option.map_eq_some_iff.mp hends
  obtain ⟨r₁, hread, hcommit⟩ := Option.bind_eq_some_iff.mp hsteps
  have hreach : ReachableBy S (FindsPending "i-1") r₁ :=
    .step (a := .read true) (.init ⟨rfl, rfl⟩) trivial hread
  have hpending : HasStatus "i-1" "pending" r₁.store := by
    rcases ReadCommit.step_cases hread with ⟨_, _, -, -, -, rfl⟩ | ⟨_, _, -, -, rfl⟩ |
      ⟨_, _, _, haction, -⟩
    · exact invitedStart_pending
    · exact invitedStart_pending
    · cases haction
  have hreach : ReachableBy S (FindsPending "i-1") r := .step (a := .commit true) hreach hpending hcommit
  exact ⟨r, hreach, hdone, (invitation_settled_once invitedStart_pending invitedStart_ownToken
    settleCalls_isOn hreach).1⟩

/-- Both read before either commits: both succeed, and the revoked invitation makes a
member. -/
theorem settled_twice :
    ∃ r, Reachable (settleSystem tokenHost.toHost settleCalls invitedStart) r ∧
      (r.stage true).isSucceeded = true ∧ (r.stage false).isSucceeded = true ∧
      (r.store.memberships.get? ("w-1", "u-2")).map (·.role) = some "admin" ∧
      ¬SettledOnce settleCalls invitedStart r := by
  let r₀ : SettleState Bool := ⟨invitedStart, fun _ => .waiting⟩
  have hends : ((settleSystem tokenHost.toHost settleCalls invitedStart).run r₀
      [.read true, .read false, .commit true, .commit false]).map (fun r =>
        ((r.stage true).isSucceeded, (r.stage false).isSucceeded,
          (r.store.memberships.get? ("w-1", "u-2")).map (·.role))) =
      some (true, true, some "admin") := by decide +kernel
  obtain ⟨r, hrun, hlast⟩ := Option.map_eq_some_iff.mp hends
  simp only [Prod.mk.injEq] at hlast
  obtain ⟨hrevoked, haccepted, hrole⟩ := hlast
  refine ⟨r, .of_run (.init ⟨rfl, rfl⟩) hrun, hrevoked, haccepted, hrole, fun honce => ?_⟩
  exact absurd (honce.once true false hrevoked haccepted) (by decide)

end DeployGuard.Service
