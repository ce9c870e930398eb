import DeployGuard.Lib.Raise
import DeployGuard.Lib.Table
import DeployGuard.Lib.Text
import DeployGuard.Lib.Transition
import DeployGuard.Lib.Value

/-!
# The retention script

`retention_report.py` reports the rows of six operational tables that are older than a number
of days and, on request, deletes them. What it asks for before it deletes is `prepare`; from
there on `retentionSystem` is the script statement by statement, between the statements of
other sessions of the database. A statement may raise, and may have taken effect when it does;
a process that dies leaves the state it is in.

The state remembers the rows the script has deleted, as they were then, and the identifiers
each table has had. The script never reads the audit file, so its log is what the run itself
has appended.
-/

namespace DeployGuard.Operations

open Raise Transition

/-! ## The database -/

/-- A row as the script sees it: its identifier and its timestamps. -/
structure StoredRow where
  id : String
  timestamps : List (String × Time)
  deriving DecidableEq

/-- The value of a timestamp column; NULL is no value. -/
def StoredRow.timestamp (row : StoredRow) (column : String) : Option Time :=
  row.timestamps.lookup column

abbrev StoredRows := Table StoredRow.id

structure StoredTable where
  columns : List String
  rows : StoredRows

/-- The tables of a database, by name. -/
abbrev StoredDatabase := String → Option StoredTable

/-- The rows of a table that a statement on some of its columns works on; it raises where the
table or a column is missing. -/
def StoredDatabase.rowsWith (db : StoredDatabase) (table : String) (columns : List String) :
    Option StoredRows :=
  match db table with
  | none => none
  | some stored => if ∀ column ∈ columns, column ∈ stored.columns then some stored.rows else none

/-- A table with other rows. -/
def StoredDatabase.setRows (db : StoredDatabase) (table : String) (rows : StoredRows) :
    StoredDatabase :=
  fun name => if name = table then (db name).map fun stored => { stored with rows := rows }
    else db name

/-- `WHERE column < :cutoff`. -/
def expired (column : String) (cutoff : Time) (row : StoredRow) : Bool :=
  match row.timestamp column with
  | some t => t < cutoff
  | none => false

/-- `ORDER BY column, id`. How identifiers compare is up to the database. -/
def oldestFirst (column : String) (a b : StoredRow) : Bool :=
  match a.timestamp column, b.timestamp column with
  | some s, some t => s ≤ t
  | _, _ => true

/-! ## Before anything is deleted -/

/-- `RETENTION_TARGETS`. -/
def retentionTargets : List (String × String) :=
  [("audit_events", "created_at"), ("operational_events", "occurred_at"),
    ("notifications", "created_at"), ("webhook_deliveries", "created_at"),
    ("invitation_deliveries", "attempted_at"), ("provider_authorization_states", "created_at")]

def confirmation : String := "DELETE-EXPIRED-ROWS"

def auditConfirmation : String := "DELETE-EXPIRED-AUDIT-EVENTS"

/-- `RLS_PROTECTED_TARGETS`, sorted. -/
def rlsProtectedTargets : List String := ["audit_events", "operational_events"]

/-- The arguments of the command line; `choices` leaves only names of targets. -/
structure RetentionArgs where
  databaseUrl : Option String := none
  days : Int := 90
  table : List String := []
  choices : ∀ name ∈ table, name ∈ retentionTargets.map Prod.fst
  apply : Bool := false
  confirm : Option String := none
  confirmAudit : Option String := none
  batchSize : Int := 1000
  legalHoldFile : Option String := none
  auditLog : Option String := none
  operator : String := ""

/-- What the environment variables hold; empty is the same as unset. -/
structure RetentionEnvironment where
  retentionDatabaseUrl : String
  databaseUrl : String

inductive RetentionError where
  /-- an error `main` catches -/
  | caught (message : String)
  | uncaught
  deriving DecidableEq

/-- `datetime.fromisoformat(text.replace("Z", "+00:00"))`. -/
inductive ParsedMoment where
  | invalid
  | naive
  | aware (t : Time)
  deriving DecidableEq

/-- What the script takes from the library, the file system and the database server. -/
structure RetentionHost where
  fromisoformat : String → ParsedMoment
  repr : Value → String
  resolve : String → String
  /-- the JSON value in a file -/
  readJson : String → Except RetentionError Value
  auditId : Time → String
  /-- `create_engine(url).dialect.name` -/
  dialect : String → Except RetentionError String
  /-- `row_security_active(to_regclass(table))` -/
  rowSecurityActive : String → Bool

structure LegalHold where
  active : Bool
  reason : String
  expiresAt : Value
  expired : Bool
  path : String
  deriving DecidableEq

/-- When the hold ends: without `expires_at` it does not. -/
def holdExpired (host : RetentionHost) (expiresAt : Value) (now : Time) :
    Except RetentionError Bool :=
  if expiresAt.truthy then
    match host.fromisoformat (expiresAt.toStr host.repr) with
    | .invalid => .error (.caught "Invalid isoformat string")
    | .naive => .error (.caught "Legal-hold expires_at must include a timezone")
    | .aware expiry => .ok (expiry ≤ now)
  else .ok false

/-- `_legal_hold_state`. -/
def legalHoldState (host : RetentionHost) (path : String) (now : Time) :
    Except RetentionError LegalHold := do
  match ← host.readJson path with
  | .dict items =>
    match Value.lookup items "active" with
    | some (.bool active) => do
      let expiresAt := (Value.lookup items "expires_at").getD .none
      let expired ← holdExpired host expiresAt now
      let reason := (Value.lookup items "reason").getD .none
      pure {
        active := active && !expired
        reason := Text.strip (if reason.truthy then reason.toStr host.repr else "")
        expiresAt, expired
        path := host.resolve path }
    | _ => .error (.caught "Legal-hold file must contain an active boolean")
  | _ => .error (.caught "Legal-hold file must contain an active boolean")

/-- `a or b`, for texts. -/
def orText (a b : String) : String := if a ≠ "" then a else b

/-- `_database_url`. -/
def databaseUrl (value : Option String) (environment : RetentionEnvironment) :
    Except RetentionError String := do
  let url := Text.strip
    (orText (value.getD "") (orText environment.retentionDatabaseUrl environment.databaseUrl))
  raiseIf (url = "")
    (.caught "RETENTION_DATABASE_URL, DATABASE_URL, or --database-url is required")
  pure url

/-- `_assert_retention_access`. -/
def assertRetentionAccess (host : RetentionHost) (dialect : String) (tables : List String) :
    Except RetentionError Unit :=
  let blocked := (rlsProtectedTargets.filter (· ∈ tables)).filter host.rowSecurityActive
  raiseIf (dialect = "postgresql" ∧ blocked ≠ []) (.caught
    ("Retention would be filtered by tenant RLS for: " ++ ", ".intercalate blocked ++
      ". Use a short-lived audited RETENTION_DATABASE_URL."))

/-- The hold of the hold file, if one is named. -/
def readHold (host : RetentionHost) (args : RetentionArgs) (now : Time) :
    Except RetentionError (Option LegalHold) :=
  match args.legalHoldFile with
  | none => .ok none
  | some path => (legalHoldState host path now).map some

/-- What `--apply` asks for besides its confirmations. -/
def requireApply (args : RetentionArgs) : Option LegalHold → Except RetentionError Unit
  | none => .error (.caught "--apply requires --legal-hold-file")
  | some hold => do
    raiseIf hold.active (.caught "Retention apply is blocked by the active global legal hold")
    raiseIf args.auditLog.isNone (.caught "--apply requires --audit-log")
    raiseIf (Text.strip args.operator = "") (.caught "--apply requires --operator")

/-- The checks of `main` on its arguments. -/
def checkArguments (host : RetentionHost) (args : RetentionArgs) (now : Time) :
    Except RetentionError (Option LegalHold) := do
  raiseIf (args.days < 1) (.caught "--days must be at least 1")
  raiseIf (¬(1 ≤ args.batchSize ∧ args.batchSize ≤ 10000))
    (.caught "--batch-size must be between 1 and 10000")
  raiseIf (args.apply ∧ args.confirm ≠ some confirmation)
    (.caught s!"--apply requires --confirm {confirmation}")
  raiseIf (args.apply ∧ args.table = []) (.caught "--apply requires at least one explicit --table")
  raiseIf (args.apply ∧ "audit_events" ∈ args.table ∧ args.confirmAudit ≠ some auditConfirmation)
    (.caught s!"Deleting audit_events requires --confirm-audit {auditConfirmation}")
  let legalHold ← readHold host args now
  if args.apply then requireApply args legalHold else pure ()
  pure legalHold

/-- `0001-01-01`, the first moment of `datetime`. -/
def firstMoment : Time := seconds (-62135596800)

/-- `now - timedelta(days=days)`; what is out of range raises an `OverflowError`. -/
def cutoffOf (now : Time) (days : Int) : Except RetentionError Time := do
  let cutoff := now - seconds (days * 86400)
  raiseIf (999999999 < days ∨ cutoff < firstMoment) .uncaught
  pure cutoff

/-- What a run is going to do. -/
structure Plan where
  legalHold : Option LegalHold
  cutoff : Time
  tables : List String
  auditId : String
  deriving DecidableEq

/-- `main` up to its first effect. The clock is read for the hold, the cutoff and the audit. -/
def prepare (host : RetentionHost) (args : RetentionArgs) (environment : RetentionEnvironment)
    (holdNow now auditNow : Time) : Except RetentionError Plan := do
  let legalHold ← checkArguments host args holdNow
  let url ← databaseUrl args.databaseUrl environment
  raiseIf ((url.startsWith "postgresql://" ∨ url.startsWith "postgresql+") ∧
      args.databaseUrl.getD "" = "" ∧ environment.retentionDatabaseUrl = "")
    (.caught ("PostgreSQL retention requires --database-url or the dedicated " ++
      "RETENTION_DATABASE_URL maintenance credential"))
  let dialect ← host.dialect url
  let cutoff ← cutoffOf now args.days
  let tables := if args.table = [] then retentionTargets.map Prod.fst else args.table
  assertRetentionAccess host dialect tables
  pure { legalHold, cutoff, tables, auditId := host.auditId auditNow }

/-! ## The run -/

inductive ReportState where
  | missing
  | missingColumn
  | missingPrimaryKey
  | processed
  deriving DecidableEq, Repr

/-- An entry of `results`. -/
structure TableReport where
  table : String
  timestampColumn : String
  state : ReportState
  candidateRows : Nat
  deletedRows : Nat
  deriving DecidableEq

/-- A line of the deletion audit. -/
inductive AuditLine where
  | started (auditId operator : String) (cutoff : Time) (tables : List String) (timestamp : Time)
  | completed (auditId operator : String) (cutoff : Time) (results : List TableReport)
      (timestamp : Time)
  | failed (auditId operator errorType : String) (timestamp : Time)
  deriving DecidableEq

/-- The table the script is at, the tables before it and the tables after it. -/
structure Progress where
  table : String
  column : String
  todo : List String
  results : List TableReport
  deriving DecidableEq

/-- The next statement of the script. -/
inductive Stage where
  | preparing
  | opening (plan : Plan)
  | inspecting (plan : Plan) (todo : List String) (results : List TableReport)
  | counting (plan : Plan) (progress : Progress)
  | selecting (plan : Plan) (progress : Progress) (candidates deleted : Nat)
  | deleting (plan : Plan) (progress : Progress) (candidates deleted : Nat) (ids : List String)
  | printing (plan : Plan) (results : List TableReport)
  | failing (plan : Plan) (errorType : String)
  | exited (code : Nat)
  deriving DecidableEq

/-- What becomes of a statement. -/
inductive Outcome where
  | completes
  /-- it raises an error that `main` catches, before or after it took effect -/
  | raises (errorType : String) (effect : Bool)
  deriving DecidableEq

/-- The database, the lines appended to the audit file, and the script. -/
structure RetentionState where
  database : StoredDatabase
  log : List AuditLine
  stage : Stage
  deleted : List (String × StoredRow)
  seen : String → String → Bool

/-- The script's part of a step, and what the other sessions do in between. -/
inductive RetentionAction where
  | prepare (holdNow now auditNow : Time)
  /-- the next statement, with what a page query may return -/
  | statement (now : Time) (page : List StoredRow) (outcome : Outcome)
  /-- other sessions commit -/
  | others (database : StoredDatabase)

namespace RetentionState

variable (args : RetentionArgs) (s : RetentionState)

def goTo (stage : Stage) : RetentionState := { s with stage }

/-- The `except` of `main`: a run that has begun its audit closes it. -/
def raised (plan : Plan) (errorType : String) : RetentionState :=
  if args.apply then s.goTo (.failing plan errorType) else s.goTo (.exited 2)

/-- `_append_deletion_audit`. -/
def append (line : AuditLine) : RetentionState := { s with log := s.log ++ [line] }

/-- `_append_deletion_audit` with its outcome; `next` and `otherwise` are where it leads. -/
def appending (line : AuditLine) (next : Stage) (otherwise : RetentionState → String → RetentionState) :
    Outcome → RetentionState
  | .completes => (s.append line).goTo next
  | .raises errorType effect => otherwise (if effect then s.append line else s) errorType

/-- A statement that only reads. -/
def reading (plan : Plan) (next : Option Stage) : Outcome → RetentionState
  | .completes =>
    match next with
    | some stage => s.goTo stage
    | none => s.raised args plan "OperationalError"
  | .raises errorType _ => s.raised args plan errorType

/-- The report of a table is done. -/
def reported (plan : Plan) (progress : Progress) (state : ReportState) (candidates deleted : Nat) :
    Stage :=
  .inspecting plan progress.todo (progress.results ++
    [⟨progress.table, progress.column, state, candidates, deleted⟩])

/-- `_table_report` up to its count: what the catalog says about a table. -/
def inspect (plan : Plan) (progress : Progress) : Stage :=
  match s.database progress.table with
  | none => reported plan progress .missing 0 0
  | some stored =>
    if progress.column ∉ stored.columns then reported plan progress .missingColumn 0 0
    else if args.apply ∧ "id" ∉ stored.columns then reported plan progress .missingPrimaryKey 0 0
    else .counting plan progress

/-- `SELECT COUNT(*)`. -/
def count (plan : Plan) (progress : Progress) : Option Stage :=
  (s.database.rowsWith progress.table [progress.column]).map fun rows =>
    let candidates := rows.rowcount (expired progress.column plan.cutoff)
    if args.apply then .selecting plan progress candidates 0
    else reported plan progress .processed candidates 0

/-- `DELETE … WHERE id IN :row_ids` and its commit. -/
def delete (table : String) (rows : StoredRows) (ids : List String) : RetentionState :=
  { s with
    database := s.database.setRows table (rows.deleteWhere fun row => row.id ∈ ids)
    deleted := s.deleted ++ (rows.select fun row => row.id ∈ ids).map fun row => (table, row) }

/-- The next statement of the script. A page that the query cannot return is no step. -/
def statement (now : Time) (page : List StoredRow) (outcome : Outcome) : Option RetentionState :=
  match s.stage with
  | .preparing => none
  | .opening plan =>
    if args.apply then
      some (s.appending
        (.started plan.auditId (Text.strip args.operator) plan.cutoff plan.tables now)
        (.inspecting plan plan.tables []) (fun s _ => s.goTo (.exited 2)) outcome)
    else some (s.goTo (.inspecting plan plan.tables []))
  | .inspecting plan [] results =>
    if args.apply then
      some (s.appending
        (.completed plan.auditId (Text.strip args.operator) plan.cutoff results now)
        (.printing plan results) (fun s errorType => s.raised args plan errorType) outcome)
    else some (s.goTo (.printing plan results))
  | .inspecting plan (table :: todo) results =>
    let column := (retentionTargets.lookup table).getD ""
    some (s.reading args plan (some (s.inspect args plan ⟨table, column, todo, results⟩)) outcome)
  | .counting plan progress => some (s.reading args plan (s.count args plan progress) outcome)
  | .selecting plan progress candidates deleted =>
    if candidates ≤ deleted then some (s.goTo (reported plan progress .processed candidates deleted))
    else
      match s.database.rowsWith progress.table [progress.column, "id"] with
      | none => some (s.raised args plan "OperationalError")
      | some rows =>
        let limit := min args.batchSize.toNat (candidates - deleted)
        if rows.IsPage (expired progress.column plan.cutoff) (oldestFirst progress.column) limit
            page then
          let next := if page = [] then reported plan progress .processed candidates deleted
            else .deleting plan progress candidates deleted (page.map StoredRow.id)
          some (s.reading args plan (some next) outcome)
        else none
  | .deleting plan progress candidates deleted ids =>
    match s.database.rowsWith progress.table ["id"] with
    | none => some (s.raised args plan "OperationalError")
    | some rows =>
      let rowcount := rows.rowcount fun row => row.id ∈ ids
      match outcome with
      | .completes => some ((s.delete progress.table rows ids).goTo
          (.selecting plan progress candidates (deleted + rowcount)))
      | .raises errorType effect =>
        some ((if effect then s.delete progress.table rows ids else s).raised args plan errorType)
  | .printing plan _ => some (s.reading args plan (some (.exited 0)) outcome)
  | .failing plan errorType =>
    some (s.appending (.failed plan.auditId (Text.strip args.operator) errorType now) (.exited 2)
      (fun s _ => s.goTo (.exited 2)) outcome)
  | .exited _ => none

end RetentionState

/-- A run of the script on a database. -/
def retentionSystem (host : RetentionHost) (args : RetentionArgs)
    (environment : RetentionEnvironment) : System RetentionState RetentionAction where
  init s := s.stage = .preparing ∧ s.log = [] ∧ s.deleted = [] ∧
    ∀ table stored, s.database table = some stored → ∀ row ∈ stored.rows.rows,
      s.seen table row.id = true
  next s
    | .prepare holdNow now auditNow =>
      match s.stage with
      | .preparing =>
        match prepare host args environment holdNow now auditNow with
        | .ok plan => some (s.goTo (.opening plan))
        | .error (.caught _) => some (s.goTo (.exited 2))
        | .error .uncaught => some (s.goTo (.exited 1))
      | _ => none
    | .statement now page outcome => s.statement args now page outcome
    | .others database =>
      some { s with
        database
        seen := fun table id => s.seen table id ||
          match database table with
          | none => false
          | some stored => (stored.rows.get? id).isSome }

end DeployGuard.Operations
