import DeployGuard.Lib.Interleaving
import DeployGuard.Service.Check

/-!
# Updates of the risk policy

`update_risk_policy` reads the policy of the workspace, adds the default one if
there is none, and writes where the version is still the one it read. Here the
statements of any number of updates interleave. A row that is inserted or updated
stays locked until its transaction ends, so an insert of the same key and an
update of the same row wait; a read does not wait and sees what was committed.

> `PolicyInv`: whoever holds the lock has added the default policy, where no row is
> committed, or has what was asked for on top of the committed policy, whose
> version it follows.

So the committed updates form one sequence, each on top of the one before
(`risk_policy_linearised`). With nobody else at work the statements do what the
function does as a whole (`updateRiskPolicy_alone`). The two timestamps of a row
are left out.
-/

namespace DeployGuard.Service

open Interleaving Raise Session Session.Call Transition

/-! ## The request -/

/-- The fields of a `RiskPolicyUpdate` as they come. -/
structure RiskPolicyFields where
  enabled : Bool
  warnThreshold : Int
  blockThreshold : Int
  requireTests : Bool
  requireRollback : Bool
  maxBlastRadius : Int
  version : Int
  deriving DecidableEq

namespace RiskPolicyFields

/-- The errors of the fields one by one. -/
def fieldErrors (f : RiskPolicyFields) : Schema.Errors :=
  Schema.field "warn_threshold" [Schema.ge 0 f.warnThreshold, Schema.le 100 f.warnThreshold] ++
    Schema.field "block_threshold" [Schema.ge 0 f.blockThreshold, Schema.le 100 f.blockThreshold] ++
    Schema.field "max_blast_radius"
      [Schema.ge 1 f.maxBlastRadius, Schema.le 10000 f.maxBlastRadius] ++
    Schema.field "version" [Schema.ge 2 f.version]

/-- `thresholds_are_ordered`, which runs when every field is valid. -/
def orderErrors (f : RiskPolicyFields) : Schema.Errors :=
  Schema.field "" [(f.warnThreshold < f.blockThreshold,
    "Value error, warn_threshold must be lower than block_threshold")]

end RiskPolicyFields

/-- `RiskPolicyUpdate`. -/
structure RiskPolicyUpdate extends RiskPolicyFields where
  valid : toRiskPolicyFields.fieldErrors = []
  ordered : warnThreshold < blockThreshold

/-- `RiskPolicyUpdate.model_validate`. -/
def RiskPolicyFields.validate (f : RiskPolicyFields) : Except ServiceError RiskPolicyUpdate :=
  if hvalid : f.fieldErrors = [] then
    if hordered : f.warnThreshold < f.blockThreshold then .ok ⟨f, hvalid, hordered⟩
    else .error (.validation f.orderErrors)
  else .error (.validation f.fieldErrors)

/-- A call of `update_risk_policy` for a workspace. -/
structure UpdateRiskPolicy where
  userId : String
  payload : RiskPolicyUpdate
  requestId : String
  now : Time

/-! ## One call -/

def versionMismatch (expected : Int) : ServiceError :=
  .domain s!"Risk policy version must be {expected}" "risk_policy_version_conflict" 409

def versionOvertaken : ServiceError :=
  .domain "Risk policy was updated by another request" "risk_policy_version_conflict" 409

/-- `session.add(WorkspaceRiskPolicy(…))` with the default policy, and its flush;
`none` if the key is taken. -/
def addDefaultPolicy (workspaceId : String) (s : Store) : Option Store :=
  (s.riskPolicies.insert (defaultRiskPolicy workspaceId)).map fun policies =>
    { s with riskPolicies := policies }

/-- The rows the guarded update matches. -/
def matchesVersion (workspaceId : String) (version : Int) (row : WorkspaceRiskPolicy) : Bool :=
  row.workspaceId = workspaceId && row.version = version

namespace UpdateRiskPolicy

variable (q : UpdateRiskPolicy)

/-- `SET` of the guarded update. -/
def assign (row : WorkspaceRiskPolicy) : WorkspaceRiskPolicy :=
  { row with
    enabled := q.payload.enabled
    warnThreshold := q.payload.warnThreshold
    blockThreshold := q.payload.blockThreshold
    requireTests := q.payload.requireTests
    requireRollback := q.payload.requireRollback
    maxBlastRadius := q.payload.maxBlastRadius
    version := q.payload.version }

/-- A policy stays its workspace's. -/
@[simp] theorem assign_workspaceId (row : WorkspaceRiskPolicy) :
    (q.assign row).workspaceId = row.workspaceId := rfl

/-- The version written is the one the payload names. -/
@[simp] theorem assign_version (row : WorkspaceRiskPolicy) :
    (q.assign row).version = q.payload.version := rfl

def audit (workspaceId : String) : AuditEvent where
  workspaceId := workspaceId
  actorUserId := some q.userId
  action := "risk_policy.updated"
  resourceType := "risk_policy"
  resourceId := workspaceId
  requestId := q.requestId
  metadata := [("version", .int q.payload.version)]
  createdAt := q.now

/-- The guarded update and the audit entry; `none` if not one row matched. -/
def apply (workspaceId : String) (record : WorkspaceRiskPolicy) (s : Store) : Option Store :=
  if s.riskPolicies.rowcount (matchesVersion workspaceId record.version) = 1 then
    some (Store.audit (q.audit workspaceId)
      { s with
        riskPolicies := s.riskPolicies.updateWhere (matchesVersion workspaceId record.version)
          q.assign q.assign_workspaceId })
  else none

end UpdateRiskPolicy

/-- The policy that was read, or the default one added. -/
def loadPolicy (workspaceId : String) : DatabaseCall WorkspaceRiskPolicy := do
  match ← read fun s => s.riskPolicies.get? workspaceId with
  | some row => pure row
  | none =>
    match ← read (addDefaultPolicy workspaceId) with
    | some added =>
      write fun _ => added
      pure (defaultRiskPolicy workspaceId)
    | none => raise .integrityError

/-- The rest of the call, with the policy at hand. -/
def replacePolicy (workspaceId : String) (q : UpdateRiskPolicy) (record : WorkspaceRiskPolicy) :
    DatabaseCall WorkspaceRiskPolicy := do
  lift (raiseIf (q.payload.version ≠ record.version + 1) (versionMismatch (record.version + 1)))
  match ← read (q.apply workspaceId record) with
  | some updated =>
    write fun _ => updated
    commit
    pure (q.assign record)
  | none =>
    rollback
    raise versionOvertaken

/-- `update_risk_policy`. -/
def updateRiskPolicy (workspaceId : String) (q : UpdateRiskPolicy) :
    DatabaseCall WorkspaceRiskPolicy := do
  let _ ← query fun s => membershipFor s q.userId workspaceId "admin"
  let record ← loadPolicy workspaceId
  replacePolicy workspaceId q record

/-! ## The statements of many calls -/

/-- How far an update has come; the row it read stays with it. -/
inductive PolicyStage where
  | waiting
  | absent
  | loaded (record : WorkspaceRiskPolicy)
  | updated (record : WorkspaceRiskPolicy)
  | failed (e : ServiceError)
  /-- the connection was lost, or a commit failed -/
  | aborted
  | succeeded (record : WorkspaceRiskPolicy)
  deriving DecidableEq

/-- What is committed, and the transaction that has the row of the workspace
locked, with the database as it sees it. -/
structure PolicyDatabase (ι : Type) where
  committed : Store
  lock : Option (ι × Store)

abbrev PolicyState (ι : Type) := Parties ι (PolicyDatabase ι) PolicyStage

inductive PolicyAction (ι : Type) where
  | load (i : ι)
  | insert (i : ι)
  | update (i : ι)
  | commit (i : ι)
  | abort (i : ι)
  deriving DecidableEq

def PolicyStage.live : PolicyStage → Bool
  | .waiting | .absent | .loaded _ | .updated _ => true
  | .failed _ | .aborted | .succeeded _ => false

def PolicyStage.isSucceeded : PolicyStage → Bool
  | .succeeded _ => true
  | _ => false

section Statements

variable {ι : Type} [DecidableEq ι]

/-- The transaction ends without effect. -/
def rollBack (r : PolicyState ι) (i : ι) (stage : PolicyStage) : PolicyState ι :=
  r.write i stage { r.store with lock := r.store.lock.filter fun held => held.1 ≠ i }

/-- What the first two statements find. -/
def loadedStage (workspaceId : String) (q : UpdateRiskPolicy) (s : Store) : PolicyStage :=
  match membershipFor s q.userId workspaceId "admin" with
  | .error e => .failed e
  | .ok _ =>
    match s.riskPolicies.get? workspaceId with
    | some row => .loaded row
    | none => .absent

/-- The default policy is added, or its key is taken. -/
def insertDefault (workspaceId : String) (r : PolicyState ι) (i : ι) : PolicyState ι :=
  match addDefaultPolicy workspaceId r.store.committed with
  | some added =>
    r.write i (.loaded (defaultRiskPolicy workspaceId)) { r.store with lock := some (i, added) }
  | none => rollBack r i (.failed .integrityError)

/-- The database as a transaction that may write the row sees it: with its own
writes, or as committed; `none` if it has to wait. -/
def writable (d : PolicyDatabase ι) (i : ι) : Option Store :=
  match d.lock with
  | some held => if held.1 = i then some held.2 else none
  | none => some d.committed

def guardedUpdate (workspaceId : String) (q : UpdateRiskPolicy) (r : PolicyState ι) (i : ι)
    (record : WorkspaceRiskPolicy) (seen : Store) : PolicyState ι :=
  match q.apply workspaceId record seen with
  | some updated => r.write i (.updated record) { r.store with lock := some (i, updated) }
  | none => rollBack r i (.failed versionOvertaken)

/-- The commit of the transaction that holds the lock. -/
def commitPolicy (q : UpdateRiskPolicy) (r : PolicyState ι) (i : ι) (record : WorkspaceRiskPolicy)
    (seen : Store) : PolicyState ι :=
  r.write i (.succeeded (q.assign record)) ⟨seen, none⟩

/-- Any number of updates of one workspace's policy, from a database on. -/
def riskPolicySystem (workspaceId : String) (call : ι → UpdateRiskPolicy) (start : Store) :
    System (PolicyState ι) (PolicyAction ι) where
  init r := r.store = ⟨start, none⟩ ∧ r.stage = fun _ => .waiting
  next r
    | .load i =>
      match r.stage i with
      | .waiting => some (r.goTo i (loadedStage workspaceId (call i) r.store.committed))
      | _ => none
    | .insert i =>
      match r.stage i, r.store.lock with
      | .absent, none => some (insertDefault workspaceId r i)
      | _, _ => none
    | .update i =>
      match r.stage i with
      | .loaded record =>
        if (call i).payload.version ≠ record.version + 1 then
          some (rollBack r i (.failed (versionMismatch (record.version + 1))))
        else (writable r.store i).map (guardedUpdate workspaceId (call i) r i record)
      | _ => none
    | .commit i =>
      match r.stage i, r.store.lock with
      | .updated record, some held =>
        if held.1 = i then some (commitPolicy (call i) r i record held.2) else none
      | _, _ => none
    | .abort i => if (r.stage i).live then some (rollBack r i .aborted) else none

/-! ## One step -/

/-- The policy of the workspace; without a row, the default one. -/
def currentPolicy (workspaceId : String) (s : Store) : WorkspaceRiskPolicy :=
  (s.riskPolicies.get? workspaceId).getD (defaultRiskPolicy workspaceId)

variable {w : String} {q : UpdateRiskPolicy} {record : WorkspaceRiskPolicy} {s seen : Store}
  {call : ι → UpdateRiskPolicy} {start : Store} {r r' : PolicyState ι} {action : PolicyAction ι}

/-- A default is added where there is no policy, and shows the thresholds that were shown
before. -/
theorem addDefaultPolicy_some (h : addDefaultPolicy w s = some seen) :
    s.riskPolicies.get? w = none ∧ currentPolicy w seen = currentPolicy w s := by
  obtain ⟨policies, hinsert, rfl⟩ := Option.map_eq_some_iff.mp h
  have hnone : s.riskPolicies.get? w = none := (Table.insert_eq_some hinsert).1
  refine ⟨hnone, ?_⟩
  have hget : policies.get? w = some (defaultRiskPolicy w) := Table.get?_inserted hinsert rfl
  show (policies.get? w).getD _ = (s.riskPolicies.get? w).getD _
  rw [hget, hnone]
  rfl

/-- An update that matched is on top of the policy it found, of the version read. -/
theorem apply_some (h : q.apply w record s = some seen) :
    (currentPolicy w s).version = record.version ∧
      currentPolicy w seen = q.assign (currentPolicy w s) := by
  obtain ⟨hcount, hseen⟩ := Option.ite_none_right_eq_some.mp h
  obtain ⟨row, hrow, hmatch⟩ := Table.rowcount_pos.mp (by rw [hcount]; exact Nat.one_pos)
  obtain ⟨hkey, hversion⟩ : row.workspaceId = w ∧ row.version = record.version := by
    simpa [matchesVersion] using hmatch
  have hget : s.riskPolicies.get? w = some row := Table.get?_eq_some.mpr ⟨hrow, hkey⟩
  have hcurrent : currentPolicy w s = row := by rw [currentPolicy, hget, Option.getD_some]
  refine ⟨by rw [hcurrent, hversion], ?_⟩
  obtain rfl := Option.some.inj hseen
  show ((s.riskPolicies.updateWhere _ _ q.assign_workspaceId).get? w).getD _ = _
  rw [Table.get?_updateWhere, hget, Option.map_some, if_pos hmatch, Option.getD_some, hcurrent]

/-- A step that ends no update well leaves what is committed as it is. -/
structure Quiet (r r' : PolicyState ι) : Prop where
  committed : r'.store.committed = r.store.committed
  succeeded : ∀ j, (r'.stage j).isSucceeded = (r.stage j).isSucceeded

/-- A statement that commits nothing is quiet. -/
theorem quiet_write {i : ι} {stage : PolicyStage} {d : PolicyDatabase ι}
    (hcommitted : d.committed = r.store.committed) (hbefore : (r.stage i).isSucceeded = false)
    (hafter : stage.isSucceeded = false) : Quiet r (r.write i stage d) := by
  refine ⟨hcommitted, fun j => ?_⟩
  by_cases hj : j = i
  · subst hj
    rw [Parties.write_self, hbefore, hafter]
  · rw [Parties.write_ne _ _ _ hj]

/-- Loading ends no call. -/
theorem loadedStage_quiet (q : UpdateRiskPolicy) (s : Store) :
    (loadedStage w q s).isSucceeded = false := by
  unfold loadedStage
  split
  · rfl
  · split
    · rfl
    · rfl

/-- Inserting a default is quiet, committed or not. -/
theorem insertDefault_quiet {i : ι} (hbefore : (r.stage i).isSucceeded = false) :
    Quiet r (insertDefault w r i) := by
  unfold insertDefault
  split
  · exact quiet_write rfl hbefore rfl
  · exact quiet_write rfl hbefore rfl

theorem guardedUpdate_quiet {i : ι} (hbefore : (r.stage i).isSucceeded = false) :
    Quiet r (guardedUpdate w q r i record seen) := by
  unfold guardedUpdate
  split
  · exact quiet_write rfl hbefore rfl
  · exact quiet_write rfl hbefore rfl

/-- A commit is by the holder of the lock. -/
theorem commit_step {i : ι} (h : (riskPolicySystem w call start).next r (.commit i) = some r') :
    ∃ record seen, r.stage i = .updated record ∧ r.store.lock = some (i, seen) ∧
      r' = commitPolicy (call i) r i record seen := by
  cases hi : r.stage i with
  | updated record =>
    cases hlock : r.store.lock with
    | none => simp [riskPolicySystem, hi, hlock] at h
    | some held =>
      obtain ⟨holder, seen⟩ := held
      by_cases hholder : holder = i
      · subst hholder
        obtain rfl : commitPolicy (call holder) r holder record seen = r' := by
          simpa [riskPolicySystem, hi, hlock] using h
        exact ⟨record, seen, rfl, rfl, rfl⟩
      · simp [riskPolicySystem, hi, hlock, hholder] at h
  | _ => simp [riskPolicySystem, hi] at h

/-- The other statements, one by one. -/
inductive Statement (w : String) (call : ι → UpdateRiskPolicy) (r : PolicyState ι) :
    PolicyState ι → Prop
  | load (i : ι) : r.stage i = .waiting →
      Statement w call r (r.goTo i (loadedStage w (call i) r.store.committed))
  | insert (i : ι) : r.stage i = .absent → r.store.lock = none →
      Statement w call r (insertDefault w r i)
  | update (i : ι) (record : WorkspaceRiskPolicy) (seen : Store) : r.stage i = .loaded record →
      (call i).payload.version = record.version + 1 → writable r.store i = some seen →
      Statement w call r (guardedUpdate w (call i) r i record seen)
  | rollBack (i : ι) (stage : PolicyStage) : (r.stage i).isSucceeded = false →
      stage.isSucceeded = false → Statement w call r (rollBack r i stage)

/-- A step is quiet, or is the commit of an update. -/
theorem riskPolicy_step (h : (riskPolicySystem w call start).next r action = some r') :
    Statement w call r r' ∨ ∃ i record seen, action = .commit i ∧ r.stage i = .updated record ∧
      r.store.lock = some (i, seen) ∧ r' = commitPolicy (call i) r i record seen := by
  cases action with
  | load i =>
    cases hi : r.stage i with
    | waiting =>
      obtain rfl : r.goTo i _ = r' := by simpa [riskPolicySystem, hi] using h
      exact Or.inl (.load i hi)
    | _ => simp [riskPolicySystem, hi] at h
  | insert i =>
    cases hi : r.stage i with
    | absent =>
      -- an insert waits for the lock
      cases hlock : r.store.lock with
      | some held => simp [riskPolicySystem, hi, hlock] at h
      | none =>
        obtain rfl : insertDefault w r i = r' := by simpa [riskPolicySystem, hi, hlock] using h
        exact Or.inl (.insert i hi hlock)
    | _ => simp [riskPolicySystem, hi] at h
  | update i =>
    cases hi : r.stage i with
    | loaded record =>
      -- a version that does not follow the loaded one rolls back before the update
      by_cases hversion : (call i).payload.version = record.version + 1
      · obtain ⟨seen, hseen, rfl⟩ : ∃ seen, writable r.store i = some seen ∧
            guardedUpdate w (call i) r i record seen = r' := by
          simpa [riskPolicySystem, hi, hversion] using h
        exact Or.inl (.update i record seen hi hversion hseen)
      · obtain rfl : rollBack r i _ = r' := by simpa [riskPolicySystem, hi, hversion] using h
        exact Or.inl (.rollBack i _ (by rw [hi]; rfl) rfl)
    | _ => simp [riskPolicySystem, hi] at h
  | commit i =>
    obtain ⟨record, seen, hi, hlock, rfl⟩ := commit_step h
    exact Or.inr ⟨i, record, seen, rfl, hi, hlock, rfl⟩
  | abort i =>
    cases hlive : (r.stage i).live with
    | false => simp [riskPolicySystem, hlive] at h
    | true =>
      obtain rfl : rollBack r i .aborted = r' := by simpa [riskPolicySystem, hlive] using h
      -- a call that has succeeded is no longer live
      refine Or.inl (.rollBack i _ ?_ rfl)
      cases hi : r.stage i with
      | succeeded record =>
        rw [hi] at hlive
        cases hlive
      | _ => rfl

/-- No statement but a commit changes what is committed. -/
theorem Statement.quiet (h : Statement w call r r') : Quiet r r' := by
  cases h with
  | load i hi => exact quiet_write rfl (by rw [hi]; rfl) (loadedStage_quiet ..)
  | insert i hi _ => exact insertDefault_quiet (by rw [hi]; rfl)
  | update i record seen hi _ _ => exact guardedUpdate_quiet (by rw [hi]; rfl)
  | rollBack i stage hbefore hafter => exact quiet_write rfl hbefore hafter

/-! ## The invariant -/

/-- What the holder of the lock has written, given its stage. -/
inductive Pending (w : String) (q : UpdateRiskPolicy) (s seen : Store) : PolicyStage → Prop
  | inserted (record : WorkspaceRiskPolicy) : currentPolicy w seen = currentPolicy w s →
      Pending w q s seen (.loaded record)
  | updated (record : WorkspaceRiskPolicy) :
      q.payload.version = (currentPolicy w s).version + 1 →
      currentPolicy w seen = q.assign (currentPolicy w s) → Pending w q s seen (.updated record)

structure PolicyInv (w : String) (call : ι → UpdateRiskPolicy) (r : PolicyState ι) : Prop where
  ordered : (currentPolicy w r.store.committed).warnThreshold <
    (currentPolicy w r.store.committed).blockThreshold
  pending : ∀ i seen, r.store.lock = some (i, seen) →
    Pending w (call i) r.store.committed seen (r.stage i)

/-- A step that takes no lock and commits nothing. -/
theorem PolicyInv.write {i : ι} {stage : PolicyStage} {d : PolicyDatabase ι}
    (h : PolicyInv w call r) (hcommitted : d.committed = r.store.committed)
    (hlock : ∀ j seen, d.lock = some (j, seen) → r.store.lock = some (j, seen) ∧ j ≠ i) :
    PolicyInv w call (r.write i stage d) := by
  refine ⟨?_, fun j seen hheld => ?_⟩
  · rw [Parties.write_store, hcommitted]
    exact h.ordered
  · obtain ⟨hbefore, hji⟩ := hlock j seen hheld
    rw [Parties.write_store, Parties.write_ne _ _ _ hji, hcommitted]
    exact h.pending j seen hbefore

/-- A step that takes the lock, or writes under it. -/
theorem PolicyInv.take {i : ι} {stage : PolicyStage} (h : PolicyInv w call r)
    (hpending : Pending w (call i) r.store.committed seen stage) :
    PolicyInv w call (r.write i stage { r.store with lock := some (i, seen) }) := by
  refine ⟨h.ordered, fun j seen' hheld => ?_⟩
  obtain ⟨rfl, rfl⟩ := Prod.mk.inj (Option.some.inj hheld)
  rw [Parties.write_self]
  exact hpending

/-- A rollback gives the lock back. -/
theorem PolicyInv.rollBack {i : ι} {stage : PolicyStage} (h : PolicyInv w call r) :
    PolicyInv w call (rollBack r i stage) := by
  refine h.write rfl fun j seen hheld => ?_
  obtain ⟨hbefore, hji⟩ := Option.filter_eq_some_iff.mp hheld
  exact ⟨hbefore, of_decide_eq_true hji⟩

/-- A waiting update holds no lock. -/
theorem PolicyInv.load {i : ι} {stage : PolicyStage} (h : PolicyInv w call r)
    (hi : r.stage i = .waiting) : PolicyInv w call (r.goTo i stage) := by
  refine h.write rfl fun j seen hheld => ⟨hheld, ?_⟩
  intro h
  obtain rfl := h
  have hpending := h.pending j seen hheld
  rw [hi] at hpending
  cases hpending

/-- An inserted default keeps the invariant. -/
theorem PolicyInv.insert {i : ι} (h : PolicyInv w call r) :
    PolicyInv w call (insertDefault w r i) := by
  unfold insertDefault
  split
  · next added hadded => exact h.take (.inserted _ (addDefaultPolicy_some hadded).2)
  · exact h.rollBack

/-- The guarded update applies to the current policy, if it applies at all. -/
theorem PolicyInv.update {i : ι} (h : PolicyInv w call r) (hi : r.stage i = .loaded record)
    (hversion : (call i).payload.version = record.version + 1)
    (hseen : writable r.store i = some seen) :
    PolicyInv w call (guardedUpdate w (call i) r i record seen) := by
  have hcurrent : currentPolicy w seen = currentPolicy w r.store.committed := by
    unfold writable at hseen
    cases hlock : r.store.lock with
    | none =>
      rw [hlock] at hseen
      rw [Option.some.inj hseen]
    | some held =>
      obtain ⟨holder, seen'⟩ := held
      rw [hlock] at hseen
      obtain ⟨hholder, hseen'⟩ := Option.ite_none_right_eq_some.mp hseen
      obtain rfl : holder = i := hholder
      obtain rfl : seen' = seen := Option.some.inj hseen'
      have hpending := h.pending holder seen' hlock
      rw [hi] at hpending
      cases hpending with
      | inserted _ hsame => exact hsame
  unfold guardedUpdate
  split
  · next updated happly =>
    obtain ⟨hread, hupdated⟩ := apply_some happly
    rw [hcurrent] at hread hupdated
    exact h.take (.updated _ (by rw [hread, hversion]) hupdated)
  · exact h.rollBack

/-- Every other statement does. -/
theorem Statement.inv (hr : PolicyInv w call r) (h : Statement w call r r') :
    PolicyInv w call r' := by
  cases h with
  | load i hi => exact hr.load hi
  | insert i _ _ => exact hr.insert
  | update i record seen hi hversion hseen => exact hr.update hi hversion hseen
  | rollBack i stage _ _ => exact hr.rollBack

omit [DecidableEq ι] in
/-- A commit puts the policy that was asked for on top of the current one. -/
theorem currentPolicy_commit {i : ι} (h : PolicyInv w call r) (hi : r.stage i = .updated record)
    (hlock : r.store.lock = some (i, seen)) :
    (call i).payload.version = (currentPolicy w r.store.committed).version + 1 ∧
      currentPolicy w seen = (call i).assign (currentPolicy w r.store.committed) := by
  have hpending := h.pending i seen hlock
  rw [hi] at hpending
  cases hpending with
  | updated _ hversion hcurrent => exact ⟨hversion, hcurrent⟩

theorem PolicyInv.commit {i : ι} (h : PolicyInv w call r) (hi : r.stage i = .updated record)
    (hlock : r.store.lock = some (i, seen)) :
    PolicyInv w call (commitPolicy (call i) r i record seen) := by
  obtain ⟨-, hcurrent⟩ := currentPolicy_commit h hi hlock
  refine ⟨?_, nofun⟩
  show (currentPolicy w seen).warnThreshold < (currentPolicy w seen).blockThreshold
  rw [hcurrent]
  exact (call i).payload.ordered

/-! ## The order of the commits -/

/-- The policy after updates that were committed in this order. -/
def policyAfter (w : String) (call : ι → UpdateRiskPolicy) (start : Store) (log : List ι) :
    WorkspaceRiskPolicy :=
  log.foldl (fun policy i => (call i).assign policy) (currentPolicy w start)

/-- The updates that succeeded, in the order of their commits: each was asked for on
top of the version the one before it left. -/
structure Linearised (w : String) (call : ι → UpdateRiskPolicy) (start : Store)
    (r : PolicyState ι) (log : List ι) : Prop where
  nodup : log.Nodup
  succeeded : ∀ i, i ∈ log ↔ (r.stage i).isSucceeded = true
  policy : currentPolicy w r.store.committed = policyAfter w call start log
  version : (currentPolicy w r.store.committed).version =
    (currentPolicy w start).version + log.length
  requested : ∀ k i, log[k]? = some i →
    (call i).payload.version = (policyAfter w call start (log.take k)).version + 1

namespace Linearised

variable {log : List ι}

omit [DecidableEq ι] in
/-- A quiet step adds nothing to the log. -/
theorem quiet (h : Linearised w call start r log) (hquiet : Quiet r r') :
    Linearised w call start r' log where
  nodup := h.nodup
  succeeded i := by rw [h.succeeded i, hquiet.succeeded i]
  policy := by rw [hquiet.committed, h.policy]
  version := by rw [hquiet.committed, h.version]
  requested := h.requested

/-- A commit appends its call: it saw the version it replaces. -/
theorem commit {i : ι} (h : Linearised w call start r log)
    (hi : r.stage i = .updated record)
    (hversion : (call i).payload.version = (currentPolicy w r.store.committed).version + 1)
    (hcurrent : currentPolicy w seen = (call i).assign (currentPolicy w r.store.committed)) :
    Linearised w call start (commitPolicy (call i) r i record seen) (log ++ [i]) := by
  -- The call is logged when it commits, and it has not committed yet.
  have hfresh : i ∉ log := by
    intro hmem
    have hdone := (h.succeeded i).mp hmem
    rw [hi] at hdone
    cases hdone
  refine ⟨?_, fun j => ?_, ?_, ?_, fun k j hk => ?_⟩
  · exact List.Nodup.append h.nodup (List.nodup_singleton i)
      (List.disjoint_singleton.mpr hfresh)
  · by_cases hj : j = i
    · subst hj
      simp [commitPolicy, PolicyStage.isSucceeded]
    · rw [List.mem_append, List.mem_singleton, or_iff_left hj, h.succeeded j, commitPolicy,
        Parties.write_ne _ _ _ hj]
  · -- the committed policy is the log played from the start
    show currentPolicy w seen = _
    rw [hcurrent, h.policy, policyAfter, policyAfter, List.foldl_append]
    rfl
  · show (currentPolicy w seen).version = _
    rw [hcurrent, UpdateRiskPolicy.assign_version, hversion, h.version, List.length_append,
      List.length_singleton]
    omega
  · -- the calls logged before keep their place; the new one is at the end
    by_cases hlt : k < log.length
    · rw [List.getElem?_append_left hlt] at hk
      rw [List.take_append_of_le_length hlt.le]
      exact h.requested k j hk
    · have hlen : k < (log ++ [i]).length := (List.getElem?_eq_some_iff.mp hk).1
      rw [List.length_append, List.length_singleton] at hlen
      obtain rfl : k = log.length := by omega
      rw [List.getElem?_concat_length, Option.some.injEq] at hk
      rw [List.take_left', ← hk, hversion, h.policy]
      rfl

end Linearised

/-- Either nothing is committed, or one update on top of the policy before it. -/
def Succeeds (w : String) (call : ι → UpdateRiskPolicy) (action : PolicyAction ι)
    (r r' : PolicyState ι) : Prop :=
  ∃ i, action = .commit i ∧ (r'.stage i).isSucceeded = true ∧
    (call i).payload.version = (currentPolicy w r.store.committed).version + 1 ∧
    currentPolicy w r'.store.committed = (call i).assign (currentPolicy w r.store.committed)

/-- Every step keeps the invariant, and is quiet or a success. -/
theorem PolicyInv.step (hr : PolicyInv w call r)
    (h : (riskPolicySystem w call start).next r action = some r') :
    PolicyInv w call r' ∧ (Quiet r r' ∨ Succeeds w call action r r') := by
  rcases riskPolicy_step h with hstatement | ⟨i, record, seen, rfl, hi, hlock, rfl⟩
  · exact ⟨hstatement.inv hr, Or.inl hstatement.quiet⟩
  · obtain ⟨hversion, hcurrent⟩ := currentPolicy_commit hr hi hlock
    refine ⟨hr.commit hi hlock, Or.inr ⟨i, rfl, ?_, hversion, hcurrent⟩⟩
    rw [commitPolicy, Parties.write_self]
    rfl

/-- The stored thresholds are ordered, as the check constraint of the table says. -/
def ThresholdOrder (w : String) (s : Store) : Prop :=
  ∀ row, s.riskPolicies.get? w = some row → row.warnThreshold < row.blockThreshold

/-- The thresholds in force are in order, stored or default. -/
theorem ThresholdOrder.current (h : ThresholdOrder w s) :
    (currentPolicy w s).warnThreshold < (currentPolicy w s).blockThreshold := by
  unfold currentPolicy
  cases hrow : s.riskPolicies.get? w with
  | none => show (60 : Int) < 80; decide
  | some row => exact h row hrow

theorem policyInv_linearised (hstart : ThresholdOrder w start) :
    Invariant (riskPolicySystem w call start) (fun _ _ => True)
      (fun r => PolicyInv w call r ∧ ∃ log, Linearised w call start r log) := by
  refine ⟨fun r hinit => ?_, fun r action r' hr _ hstep => ?_⟩
  · obtain ⟨hstore, hstage⟩ := hinit
    refine ⟨⟨?_, fun i seen hlock => ?_⟩, [], List.nodup_nil, fun i => ?_, ?_, ?_, nofun⟩
    · rw [hstore]
      exact hstart.current
    · rw [hstore] at hlock
      cases hlock
    · rw [hstage]
      simp [PolicyStage.isSucceeded]
    · rw [hstore]
      rfl
    · rw [hstore]
      simp
  · obtain ⟨hinv, log, hlog⟩ := hr
    rcases riskPolicy_step hstep with hstatement | ⟨i, record, seen, rfl, hi, hlock, rfl⟩
    · exact ⟨hstatement.inv hinv, log, hlog.quiet hstatement.quiet⟩
    · obtain ⟨hversion, hcurrent⟩ := currentPolicy_commit hinv hi hlock
      exact ⟨hinv.commit hi hlock, log ++ [i], hlog.commit hi hversion hcurrent⟩

/-! ## A call alone -/

/-- The stage a call that is over has come to. -/
def PolicyStage.ended : Except ServiceError WorkspaceRiskPolicy → PolicyStage
  | .ok record => .succeeded record
  | .error e => .failed e

/-- The statements of a call were taken one after another to its end. -/
def Alone (w : String) (call : ι → UpdateRiskPolicy) (start : Store) (r : PolicyState ι) (i : ι)
    (outcome : Except ServiceError WorkspaceRiskPolicy × Session.State Store) : Prop :=
  ∃ steps r', (riskPolicySystem w call start).run r steps = some r' ∧
    r'.store = ⟨outcome.2.base, none⟩ ∧ r'.stage i = .ended outcome.1

/-- What the rest of a lone run leads to. -/
theorem Alone.step {i : ι} {outcome : Except ServiceError WorkspaceRiskPolicy × Session.State Store}
    (hstep : (riskPolicySystem w call start).next r action = some r')
    (h : Alone w call start r' i outcome) : Alone w call start r i outcome := by
  obtain ⟨steps, last, hrun, hlast⟩ := h
  exact ⟨action :: steps, last, System.run_cons_eq_some.mpr ⟨r', hstep, hrun⟩, hlast⟩

/-- A run that has ended. -/
theorem Alone.done {i : ι} {outcome : Except ServiceError WorkspaceRiskPolicy × Session.State Store}
    (hstore : r.store = ⟨outcome.2.base, none⟩) (hstage : r.stage i = .ended outcome.1) :
    Alone w call start r i outcome :=
  ⟨[], r, rfl, hstore, hstage⟩

/-- The update and its commit, with nobody in between. -/
theorem replacePolicy_alone {i : ι} {st : Session.State Store} (hi : r.stage i = .loaded record)
    (hbase : r.store.committed = st.base) (hcur : writable r.store i = some st.cur)
    (hlock : (r.store.lock.filter fun held => held.1 ≠ i) = none) :
    Alone w call start r i (replacePolicy w (call i) record st) := by
  have hrolled : ∀ e, (rollBack r i (.failed e)).store = ⟨st.base, none⟩ := by
    intro e
    show PolicyDatabase.mk r.store.committed _ = _
    rw [hlock, hbase]
  unfold replacePolicy
  by_cases hversion : (call i).payload.version = record.version + 1
  · rw [lift_ok_bind (raiseIf_neg (not_not.mpr hversion) _), read_bind_apply]
    have hupdate : (riskPolicySystem w call start).next r (.update i) =
        some (guardedUpdate w (call i) r i record st.cur) := by
      simp [riskPolicySystem, hi, hversion, hcur]
    refine Alone.step hupdate ?_
    unfold guardedUpdate
    cases (call i).apply w record st.cur with
    | none => exact Alone.done (hrolled _) (Parties.write_self ..)
    | some updated =>
      let r' := r.write i (.updated record) { r.store with lock := some (i, updated) }
      have hcommit : (riskPolicySystem w call start).next r' (.commit i) =
          some (commitPolicy (call i) r' i record updated) := by
        simp [riskPolicySystem, r']
      exact Alone.step hcommit (Alone.done rfl (Parties.write_self ..))
  · rw [lift_error_bind (raiseIf_pos hversion _)]
    have hfailed : (riskPolicySystem w call start).next r (.update i) =
        some (rollBack r i (.failed (versionMismatch (record.version + 1)))) := by
      simp [riskPolicySystem, hi, hversion]
    exact Alone.step hfailed (Alone.done (hrolled _) (Parties.write_self ..))

/-- With no other call under way, the statements do what `update_risk_policy` does. -/
theorem updateRiskPolicy_alone {i : ι} (hi : r.stage i = .waiting)
    (hstore : r.store = ⟨s, none⟩) :
    Alone w call start r i (updateRiskPolicy w (call i) (State.start s)) := by
  have hload : (riskPolicySystem w call start).next r (.load i) =
      some (r.goTo i (loadedStage w (call i) s)) := by
    simp [riskPolicySystem, hi, hstore]
  refine Alone.step hload ?_
  unfold updateRiskPolicy loadedStage
  cases hmember : membershipFor s (call i).userId w "admin" with
  | error e =>
    rw [query_error_bind hmember]
    exact Alone.done hstore (Parties.goTo_self ..)
  | ok member =>
    rw [query_ok_bind hmember]
    cases hrow : s.riskPolicies.get? w with
    | some row =>
      have hloaded : loadPolicy w (State.start s) = (.ok row, State.start s) := by
        simp [loadPolicy, hrow]
      rw [bind_of_ok hloaded]
      -- the policy was there: what is left is the compare and set
      refine replacePolicy_alone (Parties.goTo_self ..) ?_ ?_ ?_
      · rw [Parties.goTo_store, hstore]
        rfl
      · rw [Parties.goTo_store, hstore]
        rfl
      · rw [Parties.goTo_store, hstore]
        rfl
    | none =>
      -- no policy yet: the default row is inserted first
      let r' := r.goTo i .absent
      have hinsert : (riskPolicySystem w call start).next r' (.insert i) =
          some (insertDefault w r' i) := by
        simp [riskPolicySystem, r', hstore]
      refine Alone.step hinsert ?_
      have hcommitted : r'.store.committed = s := by rw [Parties.goTo_store, hstore]
      unfold insertDefault
      rw [hcommitted]
      cases hadded : addDefaultPolicy w s with
      | none =>
        -- the insert fails only on a key already taken
        have hfailed : loadPolicy w (State.start s) = (.error .integrityError, State.start s) := by
          simp [loadPolicy, hrow, hadded, raise]
        rw [bind_of_error hfailed]
        refine Alone.done ?_ (Parties.write_self ..)
        show PolicyDatabase.mk r.store.committed (r.store.lock.filter _) = _
        rw [hstore]
        rfl
      | some added =>
        have hloaded : loadPolicy w (State.start s) =
            (.ok (defaultRiskPolicy w), (State.start s).written fun _ => added) := by
          simp [loadPolicy, hrow, hadded]
        rw [bind_of_ok hloaded]
        refine replacePolicy_alone (Parties.write_self ..) ?_ ?_ ?_
        · exact hcommitted
        · simp [writable]
        · simp

end Statements

/-! ## Updates one after another -/

/-- However the updates of a policy interleave, the successful ones follow one
another, and a step that is not a successful commit leaves everything as it is. -/
theorem risk_policy_linearised {ι : Type} [DecidableEq ι] {w : String}
    {call : ι → UpdateRiskPolicy} {start : Store} {r : PolicyState ι}
    (hstart : ThresholdOrder w start) (h : Reachable (riskPolicySystem w call start) r) :
    (∃ log, Linearised w call start r log) ∧
      ThresholdOrder w r.store.committed ∧
      ∀ action r', (riskPolicySystem w call start).next r action = some r' →
        Quiet r r' ∨ Succeeds w call action r r' := by
  obtain ⟨hinv, hlog⟩ := (policyInv_linearised hstart).reachable h
  refine ⟨hlog, fun row hrow => ?_, fun action r' hstep => (hinv.step hstep).2⟩
  have hordered := hinv.ordered
  rw [currentPolicy, hrow] at hordered
  exact hordered

/-! Two administrators set the first policy at once. -/

def policyWorkspace : Store :=
  { Store.empty with
    memberships :=
      ⟨[⟨"m-1", "w-1", "u-1", "admin", 0⟩, ⟨"m-2", "w-1", "u-2", "owner", 0⟩], by decide⟩ }

def cautious : RiskPolicyFields := ⟨true, 50, 90, true, false, 20, 2⟩

def lenient : RiskPolicyFields := ⟨true, 70, 90, true, false, 40, 2⟩

def firstPolicies : Bool → UpdateRiskPolicy
  | true => ⟨"u-1", ⟨lenient, by decide, by decide⟩, "r-1", 1⟩
  | false => ⟨"u-2", ⟨cautious, by decide, by decide⟩, "r-2", 2⟩

/-- The second finds no row either, and its insert comes after the first's commit. -/
def firstPolicyRace : List (PolicyAction Bool) :=
  [.load true, .insert true, .load false, .update true, .commit true, .insert false]

/-- Two calls that read the same version, of which one fails. -/
theorem risk_policy_linearised_race :
    ∃ r : PolicyState Bool, Reachable (riskPolicySystem "w-1" firstPolicies policyWorkspace) r ∧
      r.stage false = .failed .integrityError ∧
      (currentPolicy "w-1" r.store.committed).version = 2 ∧
      (∃ log, Linearised "w-1" firstPolicies policyWorkspace r log) ∧
      ThresholdOrder "w-1" r.store.committed := by
  let r₀ : PolicyState Bool := ⟨⟨policyWorkspace, none⟩, fun _ => .waiting⟩
  have hends : ((riskPolicySystem "w-1" firstPolicies policyWorkspace).run r₀
      firstPolicyRace).map (fun r => (r.stage false, (currentPolicy "w-1" r.store.committed).version))
      = some (.failed .integrityError, 2) := by decide +kernel
  obtain ⟨r, hrun, hlast⟩ := Option.map_eq_some_iff.mp hends
  obtain ⟨hstage, hversion⟩ := Prod.mk.inj hlast
  have hreach : Reachable (riskPolicySystem "w-1" firstPolicies policyWorkspace) r :=
    .of_run (.init ⟨rfl, rfl⟩) hrun
  have hstart : ThresholdOrder "w-1" policyWorkspace := by
    intro row hrow
    cases hrow
  obtain ⟨hlog, hordered, -⟩ := risk_policy_linearised hstart hreach
  exact ⟨r, hreach, hstage, hversion, hlog, hordered⟩

end DeployGuard.Service
