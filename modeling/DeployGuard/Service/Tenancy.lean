import DeployGuard.Lib.RowSecurity
import DeployGuard.Lib.Text
import DeployGuard.Lib.Transition

/-!
# Tenant context and row-level security

The policies of the migrations read the workspace from a setting that is local to a
transaction of a PostgreSQL connection. `set_tenant_context` writes the setting for the
transaction a session is in and keeps the workspace in `session.info`; a hook writes it
again whenever the session begins the next one. Connections come from a pool and go back
to it with each commit and rollback, so one connection serves many sessions.

`serverSystem` is any number of sessions over any number of connections, statement by
statement in any order. A transaction keeps its changes until its commit; a statement that
would change a row another transaction has changed waits, which is no step.

The policies guard nothing if the role is a superuser or owns the tables. What the startup
check makes of that is `requirePostgresqlRuntimeSecurity`.
-/

namespace DeployGuard.Service

open Raise RowSecurity Transition

/-! ## The policies -/

/-- A row of any table; a column it does not have is NULL. -/
structure Record where
  table : String
  id : String
  columns : List (String × String)
  deriving DecidableEq

abbrev RecordKey := String × String

def Record.key (row : Record) : RecordKey := (row.table, row.id)

def Record.column (row : Record) (name : String) : Option String := row.columns.lookup name

abbrev Records := Table Record.key

/-- `DIRECT_TENANT_TABLES`. -/
def directTenantTables : List String :=
  ["repositories", "scenarios", "changes", "incidents", "audit_events", "services",
    "workspace_risk_policies", "operational_events", "deployments", "postmortem_snapshots",
    "dataset_consent_decisions"]

/-- `INDIRECT_TENANT_TABLES`. -/
def indirectTenantTables : List String := ["incident_feedback"]

/-- A table the policies protect. -/
def tenantTables : List String := directTenantTables ++ indirectTenantTables

/-- `_IMMUTABLE_TABLES`. -/
def immutableTables : List String := ["postmortem_snapshots", "dataset_consent_decisions"]

/-- `NULLIF(current_setting('deployguard.workspace_id', true), '')`. -/
def currentWorkspace (setting : Option String) : Option String := setting.filter (· ≠ "")

/-- `_WORKSPACE_EXPRESSION`: a comparison with NULL is not true. -/
def workspaceExpression (current : Option String) (row : Record) : Bool :=
  current.isSome && row.column "workspace_id" == current

/-- `_FEEDBACK_EXPRESSION`. -/
def feedbackExpression (current : Option String) (t : Records) (row : Record) : Bool :=
  t.rows.any fun incident => incident.table == "incidents" &&
    row.column "incident_id" == some incident.id && workspaceExpression current incident

/-! ## The catalog -/

/-- A table and what the runtime role may do with it. -/
structure Relation where
  relname : String
  relrowsecurity : Bool
  hasPolicy : Bool
  /-- the role has the privileges of the table's owner -/
  isOwner : Bool
  /-- the role is a member of the owner -/
  canAssumeOwner : Bool
  owner_member : isOwner = true → canAssumeOwner = true
  hasRuntimeDml : Bool
  canTruncate : Bool

/-- What `pg_roles`, `pg_class` and `pg_policies` say about the runtime role. -/
structure Catalog where
  rolsuper : Bool
  rolbypassrls : Bool
  rolcreatedb : Bool
  rolcreaterole : Bool
  schemaCreate : Bool
  relations : List Relation

/-- `relname IN :protected`. -/
def Catalog.protectedRows (catalog : Catalog) : List Relation :=
  catalog.relations.filter fun relation =>
    relation.relname ∈ directTenantTables ++ indirectTenantTables

/-- `require_postgresql_runtime_security`. -/
def requirePostgresqlRuntimeSecurity (dialect : String) (catalog : Catalog) :
    Except String Unit := do
  raiseIf (dialect ≠ "postgresql") "Production runtime security requires PostgreSQL"
  raiseIf (catalog.rolsuper ∨ catalog.rolbypassrls ∨ catalog.rolcreatedb ∨ catalog.rolcreaterole)
    "Production database runtime role has unsafe attributes"
  raiseIf catalog.schemaCreate "Production database runtime role can create schema objects"
  let rows := catalog.protectedRows
  raiseIf (¬∀ name ∈ directTenantTables ++ indirectTenantTables, name ∈ rows.map Relation.relname)
    "Production RLS table set is incomplete"
  raiseIf (rows.any fun row => !row.relrowsecurity || row.canAssumeOwner || !row.hasPolicy ||
      !row.hasRuntimeDml || row.canTruncate)
    "Production database role or tenant RLS policy is unsafe"

/-- `row_security_active`: a superuser, a role that bypasses row security and the owner of a
table are not subject to its policies. -/
def Catalog.rowSecurityActive (catalog : Catalog) (relation : Relation) : Bool :=
  relation.relrowsecurity && !catalog.rolsuper && !catalog.rolbypassrls && !relation.isOwner

/-- Whether a statement of the runtime role may see or leave a row: what is not subject to
row security is open, and without a policy nothing is allowed. -/
def Catalog.allows (catalog : Catalog) (current : Option String) (t : Records) (row : Record) :
    Bool :=
  match catalog.relations.find? (fun relation => relation.relname = row.table) with
  | none => false
  | some relation =>
    if catalog.rowSecurityActive relation then
      relation.hasPolicy &&
        if row.table ∈ directTenantTables then workspaceExpression current row
        else if row.table ∈ indirectTenantTables then feedbackExpression current t row
        else false
    else true

/-- The guard of the database for a transaction with a setting; the triggers on the
immutable tables are the same for everyone. -/
def Catalog.guard (catalog : Catalog) (current : Option String) : Guard Record.key where
  allows := catalog.allows current
  fixed row := row.table ∈ immutableTables

/-! ## Sessions -/

/-- Where a session is: in no transaction, in one that has no connection yet, in one on a
connection, or in one that a refused statement has aborted. -/
inductive SessionStage (γ : Type) where
  | idle
  | begun
  | active (connection : γ)
  | aborted (connection : γ)
  deriving DecidableEq

def SessionStage.connection {γ : Type} : SessionStage γ → Option γ
  | .idle | .begun => none
  | .active c | .aborted c => some c

/-- A session. `info` is `session.info[TENANT_SESSION_INFO_KEY]`; `scopes` remembers the
workspaces for which statements of the transaction were executed. -/
structure TenantSession (γ : Type) where
  info : Option String
  stage : SessionStage γ
  pending : List (Change RecordKey Record)
  scopes : List String

/-- A session as `session_factory` makes it. -/
def TenantSession.fresh {γ : Type} : TenantSession γ := ⟨none, .idle, [], []⟩

/-- A session after the end of its transaction. -/
def TenantSession.ended {γ : Type} (s : TenantSession γ) : TenantSession γ :=
  { s with stage := .idle, pending := [], scopes := [] }

/-- The rows a statement of the session works on: what is committed, under its own changes. -/
def TenantSession.view {γ : Type} (s : TenantSession γ) (store : Records) : Records :=
  Change.applyAll store s.pending

/-- The database server, its connections and the sessions of the processes. `born` remembers
each row as it was when a statement first inserted it. -/
structure Server (ι γ : Type) where
  store : Records
  setting : γ → Option String
  holder : γ → Option ι
  lock : RecordKey → Option ι
  session : ι → Option (TenantSession γ)
  born : RecordKey → Option Record

/-- `_validate_workspace_id`. -/
def validateWorkspaceId (workspaceId : String) : Except String String := do
  let value := Text.strip workspaceId
  raiseIf (value = "" ∨ value.length > 36)
    "workspace_id must contain between 1 and 36 characters"
  pure value

/-- `_restore_tenant_context`: the setting of a connection on which a session begins. -/
def restoreTenantContext (info setting : Option String) : Option String :=
  match info with
  | some workspaceId => if workspaceId = "" then setting else some workspaceId
  | none => setting

/-- A local setting ends with its transaction. Where it was set once, the connection keeps
an empty text in its place. -/
def endOfTransaction (setting : Option String) : Option String := setting.map fun _ => ""

namespace Server

variable {ι γ : Type} [DecidableEq ι] [DecidableEq γ]

def setSession (r : Server ι γ) (i : ι) (s : TenantSession γ) : Server ι γ :=
  { r with session := Function.update r.session i (some s) }

/-- The session takes a connection out of the pool and begins on it. -/
def begin (r : Server ι γ) (i : ι) (s : TenantSession γ) (c : γ) : Server ι γ :=
  { r with
    setting := Function.update r.setting c (restoreTenantContext s.info (r.setting c))
    holder := Function.update r.holder c (some i)
    session := Function.update r.session i (some { s with stage := .active c }) }

/-- `session.connection()`: the connection of the session, with the server that has given it
out. The pool has only connections that nobody holds. -/
def connect (r : Server ι γ) (i : ι) (s : TenantSession γ) (c : γ) : Option (γ × Server ι γ) :=
  match s.stage with
  | .active c' => some (c', r)
  | .aborted _ => none
  | .idle | .begun => if r.holder c = none then some (c, r.begin i s c) else none

/-- `set_tenant_context`; where the session is in a transaction without a connection, `c` is
the one the pool gives it. -/
def setTenantContext (r : Server ι γ) (i : ι) (s : TenantSession γ) (workspaceId : String)
    (c : γ) : Option (Server ι γ) :=
  match validateWorkspaceId workspaceId with
  | .error _ => some r
  | .ok value =>
    let s := { s with info := some value }
    match s.stage with
    | .idle | .aborted _ => some (r.setSession i s)
    | .begun | .active _ =>
      match (r.setSession i s).connect i s c with
      | none => none
      | some (c', r') => some { r' with setting := Function.update r'.setting c' (some value) }

/-- The end of a transaction: its locks are released, and its connection goes back to the pool. -/
def release (r : Server ι γ) (i : ι) (s : TenantSession γ) : Server ι γ :=
  let r := { r with
    lock := fun k => (r.lock k).filter (· ≠ i)
    session := Function.update r.session i (some s.ended) }
  match s.stage.connection with
  | none => r
  | some c =>
    { r with
      setting := Function.update r.setting c (endOfTransaction (r.setting c))
      holder := Function.update r.holder c none }

/-- `session.commit()`. The commit of an aborted transaction is a rollback. -/
def commit (r : Server ι γ) (i : ι) (s : TenantSession γ) : Server ι γ :=
  match s.stage with
  | .active _ => { r with store := s.view r.store }.release i s
  | _ => r.release i s

/-- The changes of a statement wait for no other transaction. -/
def unlocked (r : Server ι γ) (i : ι) (changes : List (Change RecordKey Record)) : Bool :=
  changes.all fun change =>
    match r.lock (change.target Record.key) with
    | none => true
    | some j => j = i

/-- The session after a statement was answered. -/
def answered (r : Server ι γ) (i : ι) (s : TenantSession γ) (c : γ)
    (answer : Answer RecordKey Record) : Server ι γ :=
  let keys := answer.changes.map (Change.target Record.key)
  { r with
    lock := fun k => if k ∈ keys then some i else r.lock k
    session := Function.update r.session i (some { s with
      stage := .active c
      pending := s.pending ++ answer.changes
      scopes := s.info.toList ++ s.scopes })
    born := fun k => (r.born k).or
      ((answer.changes.find? fun change => change.target Record.key = k).bind Change.left) }

/-- A statement of a session: the connection it is executed on, and what the guard makes of it
there. -/
def ask (r : Server ι γ) (catalog : Catalog) (i : ι) (s : TenantSession γ) (c : γ)
    (statement : Statement Record.key) :
    Option (γ × Server ι γ × Except Refusal (Answer RecordKey Record)) :=
  (r.connect i s c).map fun connected =>
    (connected.1, connected.2, (catalog.guard (currentWorkspace (connected.2.setting connected.1))).execute
      (s.view r.store) statement)

/-- A statement of a session. A refusal aborts the transaction. -/
def execute (r : Server ι γ) (catalog : Catalog) (i : ι) (s : TenantSession γ) (c : γ)
    (statement : Statement Record.key) : Option (Server ι γ) :=
  match r.ask catalog i s c statement with
  | none => none
  | some (c', r', .error _) =>
    some (r'.setSession i { s with stage := .aborted c', pending := [], scopes := [] })
  | some (c', r', .ok answer) =>
    if r'.unlocked i answer.changes then some (r'.answered i s c' answer) else none

section Sessions

variable (r : Server ι γ) {i j : ι} (s : TenantSession γ) (c : γ)
  (answer : Answer RecordKey Record)

omit [DecidableEq γ] in
@[simp] theorem setSession_self : (r.setSession i s).session i = some s := Function.update_self ..

omit [DecidableEq γ] in
theorem setSession_ne (h : j ≠ i) : (r.setSession i s).session j = r.session j :=
  Function.update_of_ne h ..

@[simp] theorem begin_self :
    (r.begin i s c).session i = some { s with stage := .active c } := Function.update_self ..

theorem begin_ne (h : j ≠ i) : (r.begin i s c).session j = r.session j :=
  Function.update_of_ne h ..

omit [DecidableEq γ] in
theorem answered_ne (h : j ≠ i) : (r.answered i s c answer).session j = r.session j :=
  Function.update_of_ne h ..

end Sessions

end Server

/-- What a process does with its session; `c` is the connection the pool gives out. -/
inductive SessionAction (ι γ : Type) where
  | open (i : ι)
  | autobegin (i : ι)
  | setTenantContext (i : ι) (workspaceId : String) (c : γ)
  | execute (i : ι) (c : γ) (statement : Statement Record.key)
  | commit (i : ι)
  | rollback (i : ι)
  | close (i : ι)

/-- The session an action is about. -/
def SessionAction.party {ι γ : Type} : SessionAction ι γ → ι
  | .open i | .autobegin i | .setTenantContext i _ _ | .execute i _ _ | .commit i | .rollback i
  | .close i => i

/-- The sessions of any number of requests and jobs over one pool. -/
def serverSystem {ι γ : Type} [DecidableEq ι] [DecidableEq γ] (catalog : Catalog) :
    System (Server ι γ) (SessionAction ι γ) where
  init r := r.session = (fun _ => none) ∧ r.holder = (fun _ => none) ∧ r.lock = (fun _ => none) ∧
    (∀ c, currentWorkspace (r.setting c) = none) ∧ r.born = r.store.get?
  next r a :=
    match a, r.session a.party with
    | .open i, none => some (r.setSession i .fresh)
    | .autobegin i, some s =>
      match s.stage with
      | .idle => some (r.setSession i { s with stage := .begun })
      | _ => some r
    | .setTenantContext i workspaceId c, some s => r.setTenantContext i s workspaceId c
    | .execute i c statement, some s => r.execute catalog i s c statement
    | .commit i, some s => some (r.commit i s)
    | .rollback i, some s => some (r.release i s)
    | .close i, some s =>
      some { r.release i s with session := Function.update (r.release i s).session i none }
    | _, _ => none

end DeployGuard.Service
