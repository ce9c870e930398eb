import DeployGuard.Operations.Retention

/-!
# What the retention script deletes

Over every run of the script between the statements of other sessions, whatever raises and
wherever the process dies:

> `deletions_sanctioned`: a deleted row was of a requested table and older than the days asked
for by the clock of the run's own preparation, which had every confirmation and found no hold
active by its own clock, and the audit of the run was begun before;

> `audit_accounts`: the results in a completed audit are what was deleted, table by table.

`ScriptStep` is what one statement does; both are facts about it, carried along runs.
-/

namespace DeployGuard.Operations

open Raise Transition

variable {host : RetentionHost} {args : RetentionArgs} {environment : RetentionEnvironment}
  {s s' : RetentionState}

/-! ## Statements -/

/-- The plan of a run that has one. -/
def Stage.plan : Stage → Option Plan
  | .preparing | .exited _ => none
  | .opening plan | .inspecting plan _ _ | .counting plan _ | .selecting plan _ _ _
  | .deleting plan _ _ _ _ | .printing plan _ | .failing plan _ => some plan

/-- The audit of the run is begun, if it has one. -/
def Stage.begun : Stage → Bool
  | .preparing | .opening _ => false
  | _ => true

/-- The column of a target. -/
def columnOf (table : String) : String := (retentionTargets.lookup table).getD ""

/-- What a statement of the script does. -/
inductive ScriptStep (args : RetentionArgs) (s : RetentionState) : RetentionState → Prop
  | opened (plan : Plan) (now : Time) : s.stage = .opening plan → args.apply = true →
      ScriptStep args s ((s.append (.started plan.auditId (Text.strip args.operator) plan.cutoff
        plan.tables now)).goTo (.inspecting plan plan.tables []))
  | notOpened (plan : Plan) (now : Time) (effect : Bool) : s.stage = .opening plan →
      ScriptStep args s ((if effect then s.append (.started plan.auditId
        (Text.strip args.operator) plan.cutoff plan.tables now) else s).goTo (.exited 2))
  | reading (plan : Plan) : s.stage = .opening plan → args.apply = false →
      ScriptStep args s (s.goTo (.inspecting plan plan.tables []))
  | completed (plan : Plan) (results : List TableReport) (now : Time) :
      s.stage = .inspecting plan [] results → args.apply = true →
      ScriptStep args s ((s.append (.completed plan.auditId (Text.strip args.operator) plan.cutoff
        results now)).goTo (.printing plan results))
  | notCompleted (plan : Plan) (results : List TableReport) (now : Time) (effect : Bool)
      (errorType : String) : s.stage = .inspecting plan [] results → args.apply = true →
      ScriptStep args s ((if effect then s.append (.completed plan.auditId
        (Text.strip args.operator) plan.cutoff results now) else s).goTo (.failing plan errorType))
  | read (plan : Plan) (results : List TableReport) : s.stage = .inspecting plan [] results →
      args.apply = false → ScriptStep args s (s.goTo (.printing plan results))
  | inspected (plan : Plan) (table : String) (todo : List String) (results : List TableReport) :
      s.stage = .inspecting plan (table :: todo) results →
      ScriptStep args s (s.goTo (s.inspect args plan ⟨table, columnOf table, todo, results⟩))
  | counted (plan : Plan) (progress : Progress) (stage : Stage) : s.stage = .counting plan progress →
      s.count args plan progress = some stage → ScriptStep args s (s.goTo stage)
  | finished (plan : Plan) (progress : Progress) (candidates deleted : Nat) :
      s.stage = .selecting plan progress candidates deleted → candidates ≤ deleted →
      ScriptStep args s (s.goTo (RetentionState.reported plan progress .processed candidates deleted))
  | drained (plan : Plan) (progress : Progress) (candidates deleted : Nat) (rows : StoredRows) :
      s.stage = .selecting plan progress candidates deleted →
      s.database.rowsWith progress.table [progress.column, "id"] = some rows →
      rows.IsPage (expired progress.column plan.cutoff) (oldestFirst progress.column)
        (min args.batchSize.toNat (candidates - deleted)) [] →
      ScriptStep args s (s.goTo (RetentionState.reported plan progress .processed candidates deleted))
  | selected (plan : Plan) (progress : Progress) (candidates deleted : Nat) (rows : StoredRows)
      (page : List StoredRow) : s.stage = .selecting plan progress candidates deleted →
      s.database.rowsWith progress.table [progress.column, "id"] = some rows → page ≠ [] →
      rows.IsPage (expired progress.column plan.cutoff) (oldestFirst progress.column)
        (min args.batchSize.toNat (candidates - deleted)) page →
      ScriptStep args s (s.goTo (.deleting plan progress candidates deleted (page.map StoredRow.id)))
  | deleted (plan : Plan) (progress : Progress) (candidates deleted : Nat) (ids : List String)
      (rows : StoredRows) : s.stage = .deleting plan progress candidates deleted ids →
      s.database.rowsWith progress.table ["id"] = some rows →
      ScriptStep args s ((s.delete progress.table rows ids).goTo (.selecting plan progress candidates
        (deleted + rows.rowcount fun row => row.id ∈ ids)))
  | lost (plan : Plan) (progress : Progress) (candidates deleted : Nat) (ids : List String)
      (rows : StoredRows) (errorType : String) :
      s.stage = .deleting plan progress candidates deleted ids →
      s.database.rowsWith progress.table ["id"] = some rows →
      ScriptStep args s ((s.delete progress.table rows ids).raised args plan errorType)
  | raised (plan : Plan) (errorType : String) : s.stage.plan = some plan → s.stage.begun = true →
      ScriptStep args s (s.raised args plan errorType)
  | printed (plan : Plan) (results : List TableReport) : s.stage = .printing plan results →
      ScriptStep args s (s.goTo (.exited 0))
  | failed (plan : Plan) (errorType : String) (now : Time) (effect : Bool) :
      s.stage = .failing plan errorType →
      ScriptStep args s ((if effect then s.append (.failed plan.auditId (Text.strip args.operator)
        errorType now) else s).goTo (.exited 2))

/-- A statement that reads: it leads on, or raises. -/
theorem ScriptStep.of_reading {plan : Plan} {next : Option Stage} {outcome : Outcome}
    (hplan : s.stage.plan = some plan) (hbegun : s.stage.begun = true)
    (h : ∀ stage, next = some stage → ScriptStep args s (s.goTo stage)) :
    ScriptStep args s (s.reading args plan next outcome) := by
  cases outcome with
  | completes =>
    cases next with
    | none => exact .raised plan "OperationalError" hplan hbegun
    | some stage => exact h stage rfl
  | raises errorType effect => exact .raised plan errorType hplan hbegun

theorem ScriptStep.of_statement {now : Time} {page : List StoredRow} {outcome : Outcome}
    (h : s.statement args now page outcome = some s') : ScriptStep args s s' := by
  unfold RetentionState.statement at h
  cases hstage : s.stage with
  | preparing =>
    rw [hstage] at h
    cases h
  | exited code =>
    rw [hstage] at h
    cases h
  | opening plan =>
    rw [hstage] at h
    dsimp only at h
    split at h
    · next happly =>
      obtain rfl := Option.some.inj h
      cases outcome with
      | completes => exact .opened plan now hstage happly
      | raises errorType effect => exact .notOpened plan now effect hstage
    · next happly =>
      obtain rfl := Option.some.inj h
      exact .reading plan hstage (Bool.eq_false_iff.mpr happly)
  | inspecting plan todo results =>
    rw [hstage] at h
    cases todo with
    | nil =>
      dsimp only at h
      split at h
      · next happly =>
        obtain rfl := Option.some.inj h
        cases outcome with
        | completes => exact .completed plan results now hstage happly
        | raises errorType effect =>
          simp only [RetentionState.appending, RetentionState.raised, happly, if_true]
          exact .notCompleted plan results now effect errorType hstage happly
      · next happly =>
        obtain rfl := Option.some.inj h
        exact .read plan results hstage (Bool.eq_false_iff.mpr happly)
    | cons table todo =>
      obtain rfl := Option.some.inj h
      refine .of_reading (by rw [hstage]; rfl) (by rw [hstage]; rfl) fun stage hnext => ?_
      obtain rfl := Option.some.inj hnext
      exact .inspected plan table todo results hstage
  | counting plan progress =>
    rw [hstage] at h
    obtain rfl := Option.some.inj h
    exact .of_reading (by rw [hstage]; rfl) (by rw [hstage]; rfl) fun stage hnext =>
      .counted plan progress stage hstage hnext
  | selecting plan progress candidates deleted =>
    rw [hstage] at h
    dsimp only at h
    split at h
    · next hdone =>
      obtain rfl := Option.some.inj h
      exact .finished plan progress candidates deleted hstage hdone
    · split at h
      · obtain rfl := Option.some.inj h
        exact .raised plan "OperationalError" (by rw [hstage]; rfl) (by rw [hstage]; rfl)
      · next rows hrows =>
        split at h
        · next hpage =>
          obtain rfl := Option.some.inj h
          refine .of_reading (by rw [hstage]; rfl) (by rw [hstage]; rfl) fun stage hnext => ?_
          obtain rfl := Option.some.inj hnext
          split
          · next hempty =>
            exact .drained plan progress candidates deleted rows hstage hrows (hempty ▸ hpage)
          · next hsome =>
            exact .selected plan progress candidates deleted rows page hstage hrows hsome hpage
        · cases h
  | deleting plan progress candidates deleted ids =>
    rw [hstage] at h
    dsimp only at h
    split at h
    · obtain rfl := Option.some.inj h
      exact .raised plan "OperationalError" (by rw [hstage]; rfl) (by rw [hstage]; rfl)
    · next rows hrows =>
      cases outcome with
      | completes =>
        obtain rfl := Option.some.inj h
        exact .deleted plan progress candidates deleted ids rows hstage hrows
      | raises errorType effect =>
        obtain rfl := Option.some.inj h
        cases effect with
        | true => exact .lost plan progress candidates deleted ids rows errorType hstage hrows
        | false => exact .raised plan errorType (by rw [hstage]; rfl) (by rw [hstage]; rfl)
  | printing plan results =>
    rw [hstage] at h
    obtain rfl := Option.some.inj h
    refine .of_reading (by rw [hstage]; rfl) (by rw [hstage]; rfl) fun stage hnext => ?_
    obtain rfl := Option.some.inj hnext
    exact .printed plan results hstage
  | failing plan errorType =>
    rw [hstage] at h
    obtain rfl := Option.some.inj h
    cases outcome with
    | completes => exact .failed plan errorType now true hstage
    | raises _ effect => exact .failed plan errorType now effect hstage

/-- A statement leaves the preparation behind. -/
theorem ScriptStep.left_preparing (h : ScriptStep args s s') : s'.stage ≠ .preparing := by
  cases h with
  | inspected =>
    show RetentionState.inspect _ _ _ _ ≠ _
    unfold RetentionState.inspect
    split
    · nofun
    · split
      · nofun
      · split <;> nofun
  | counted plan progress stage hstage hcount =>
    obtain ⟨rows, -, rfl⟩ := Option.map_eq_some_iff.mp hcount
    show (if args.apply then _ else _ : Stage) ≠ _
    split <;> nofun
  | lost =>
    unfold RetentionState.raised
    split <;> nofun
  | raised =>
    unfold RetentionState.raised
    split <;> nofun
  | _ => nofun

/-! ## What a deletion rests on -/

/-- What the clock shows when a run looks at the hold, computes its cutoff and names its
audit. -/
structure Clocks where
  holdNow : Time
  now : Time
  auditNow : Time

/-- The plan the checks of `main` have let through at these times. -/
def Prepared (host : RetentionHost) (args : RetentionArgs) (environment : RetentionEnvironment)
    (clocks : Clocks) (plan : Plan) : Prop :=
  prepare host args environment clocks.holdNow clocks.now clocks.auditNow = .ok plan

/-- The audit of a plan is begun. -/
def AuditBegun (args : RetentionArgs) (log : List AuditLine) (plan : Plan) : Prop :=
  ∃ now, .started plan.auditId (Text.strip args.operator) plan.cutoff plan.tables now ∈ log

/-- A deletion the script may answer for: the run was to apply a plan, the audit of the plan
was begun, and the row was in one of its tables and older than its cutoff. -/
def Sanctioned (host : RetentionHost) (args : RetentionArgs) (environment : RetentionEnvironment)
    (clocks : Clocks) (log : List AuditLine) (entry : String × StoredRow) : Prop :=
  ∃ plan, Prepared host args environment clocks plan ∧ args.apply = true ∧ AuditBegun args log plan ∧
    entry.1 ∈ plan.tables ∧ expired (columnOf entry.1) plan.cutoff entry.2 = true

/-- Other sessions add rows under fresh identifiers, remove rows, and leave the timestamps by
which a row expires as they are. -/
def TimestampsKept (s : RetentionState) : RetentionAction → Prop
  | .others database => ∀ table stored row, database table = some stored →
      row ∈ stored.rows.rows → s.seen table row.id = false ∨
        ∃ before, s.database table = some before ∧ ∃ old ∈ before.rows.rows, old.id = row.id ∧
          old.timestamp (columnOf table) = row.timestamp (columnOf table)
  | _ => True

/-- The run prepares at these times, beside what `TimestampsKept` says. -/
def KeptAt (clocks : Clocks) (s : RetentionState) (a : RetentionAction) : Prop :=
  TimestampsKept s a ∧ ∀ holdNow now auditNow, a = .prepare holdNow now auditNow →
    holdNow = clocks.holdNow ∧ now = clocks.now ∧ auditNow = clocks.auditNow

/-- A prepared plan whose audit is begun where it has to be. -/
def Ready (host : RetentionHost) (args : RetentionArgs) (environment : RetentionEnvironment)
    (clocks : Clocks) (log : List AuditLine) (plan : Plan) : Prop :=
  Prepared host args environment clocks plan ∧ (args.apply = true → AuditBegun args log plan)

/-- The tables ahead are in the plan, and the script looks at the right column. -/
def OnTable (plan : Plan) (progress : Progress) : Prop :=
  progress.table ∈ plan.tables ∧ progress.column = columnOf progress.table ∧
    ∀ table ∈ progress.todo, table ∈ plan.tables

/-- What is known at each stage. -/
def StageOk (host : RetentionHost) (args : RetentionArgs) (environment : RetentionEnvironment)
    (clocks : Clocks) (s : RetentionState) : Prop :=
  match s.stage with
  | .preparing | .exited _ => True
  | .opening plan => Prepared host args environment clocks plan
  | .inspecting plan todo _ =>
    Ready host args environment clocks s.log plan ∧ ∀ table ∈ todo, table ∈ plan.tables
  | .counting plan progress => Ready host args environment clocks s.log plan ∧ OnTable plan progress
  | .selecting plan progress _ _ =>
    Ready host args environment clocks s.log plan ∧ OnTable plan progress ∧ args.apply = true
  | .deleting plan progress _ _ ids =>
    Ready host args environment clocks s.log plan ∧ OnTable plan progress ∧ args.apply = true ∧
      ∀ id ∈ ids, s.seen progress.table id = true ∧ ∀ stored, s.database progress.table = some stored →
        ∀ row ∈ stored.rows.rows, row.id = id → expired progress.column plan.cutoff row = true
  | .printing plan _ | .failing plan _ => Ready host args environment clocks s.log plan

/-- What is known between two steps: of the rows, of the stage, and of what is deleted. -/
structure Accountable (host : RetentionHost) (args : RetentionArgs)
    (environment : RetentionEnvironment) (clocks : Clocks) (s : RetentionState) : Prop where
  seen : ∀ table stored, s.database table = some stored → ∀ row ∈ stored.rows.rows,
    s.seen table row.id = true
  stage : StageOk host args environment clocks s
  deleted : ∀ entry ∈ s.deleted, Sanctioned host args environment clocks s.log entry

section Logs

variable {clocks : Clocks} {log : List AuditLine} {plan : Plan} {entry : String × StoredRow} (line : AuditLine)

theorem Ready.append (h : Ready host args environment clocks log plan) :
    Ready host args environment clocks (log ++ [line]) plan := by
  refine ⟨h.1, fun happly => ?_⟩
  obtain ⟨now, hnow⟩ := h.2 happly
  exact ⟨now, List.mem_append_left _ hnow⟩

theorem Sanctioned.append (h : Sanctioned host args environment clocks log entry) :
    Sanctioned host args environment clocks (log ++ [line]) entry := by
  obtain ⟨plan, hprepared, happly, ⟨now, hnow⟩, htable, hexpired⟩ := h
  exact ⟨plan, hprepared, happly, ⟨now, List.mem_append_left _ hnow⟩, htable, hexpired⟩

end Logs

variable {clocks : Clocks}

/-- Past the opening, the plan is ready. -/
theorem StageOk.ready {plan : Plan} (h : StageOk host args environment clocks s)
    (hplan : s.stage.plan = some plan) (hbegun : s.stage.begun = true) :
    Ready host args environment clocks s.log plan := by
  unfold StageOk at h
  cases hstage : s.stage with
  | preparing => rw [hstage] at hplan; cases hplan
  | exited code => rw [hstage] at hplan; cases hplan
  | opening => rw [hstage] at hbegun; cases hbegun
  | inspecting => rw [hstage] at h hplan; cases hplan; exact h.1
  | counting => rw [hstage] at h hplan; cases hplan; exact h.1
  | selecting => rw [hstage] at h hplan; cases hplan; exact h.1
  | deleting => rw [hstage] at h hplan; cases hplan; exact h.1
  | printing => rw [hstage] at h hplan; cases hplan; exact h
  | failing => rw [hstage] at h hplan; cases hplan; exact h

/-- The rows a statement works on are the rows of the table. -/
theorem StoredDatabase.of_rowsWith {db : StoredDatabase} {table : String} {columns : List String}
    {rows : StoredRows} (h : db.rowsWith table columns = some rows) :
    ∃ stored, db table = some stored ∧ stored.rows = rows ∧
      ∀ column ∈ columns, column ∈ stored.columns := by
  unfold StoredDatabase.rowsWith at h
  split at h
  · cases h
  · next stored hstored =>
    split at h
    · next hcolumns => exact ⟨stored, hstored, Option.some.inj h, hcolumns⟩
    · cases h

/-- Whether a row is expired depends on its timestamp only. -/
theorem expired_congr {column : String} {cutoff : Time} {a b : StoredRow}
    (h : a.timestamp column = b.timestamp column) :
    expired column cutoff a = expired column cutoff b := by
  unfold expired
  rw [h]

namespace Accountable

variable (h : Accountable host args environment clocks s)
include h

/-- A step that changes no rows and adds nothing to the audit. -/
theorem goTo {stage : Stage} (hstage : StageOk host args environment clocks (s.goTo stage)) :
    Accountable host args environment clocks (s.goTo stage) := ⟨h.seen, hstage, h.deleted⟩

/-- A line is added to the audit. -/
theorem append {line : AuditLine} {stage : Stage}
    (hstage : StageOk host args environment clocks ((s.append line).goTo stage)) :
    Accountable host args environment clocks ((s.append line).goTo stage) :=
  ⟨h.seen, hstage, fun entry hentry => (h.deleted entry hentry).append line⟩

/-- Leaving ends a run in good order. -/
theorem exited (code : Nat) : Accountable host args environment clocks (s.goTo (.exited code)) :=
  h.goTo trivial

theorem raised {plan : Plan} (errorType : String)
    (hready : Ready host args environment clocks s.log plan) :
    Accountable host args environment clocks (s.raised args plan errorType) := by
  unfold RetentionState.raised
  split
  · exact h.goTo hready
  · exact h.exited 2

/-- What the script deletes it may answer for. -/
theorem delete {plan : Plan} {progress : Progress} {candidates deleted : Nat} {ids : List String}
    {rows : StoredRows} (hstage : s.stage = .deleting plan progress candidates deleted ids)
    (hrows : s.database.rowsWith progress.table ["id"] = some rows) :
    Ready host args environment clocks s.log plan ∧ OnTable plan progress ∧ args.apply = true ∧
      ∀ stage, StageOk host args environment clocks ((s.delete progress.table rows ids).goTo stage) →
        Accountable host args environment clocks ((s.delete progress.table rows ids).goTo stage) := by
  have hok := h.stage
  rw [StageOk, hstage] at hok
  obtain ⟨hready, honTable, happly, hids⟩ := hok
  obtain ⟨stored, hstored, rfl, -⟩ := StoredDatabase.of_rowsWith hrows
  refine ⟨hready, honTable, happly, fun stage hstage' => ⟨?_, hstage', ?_⟩⟩
  · intro table stored' hstored' row hrow
    simp only [RetentionState.goTo, RetentionState.delete, StoredDatabase.setRows] at hstored' ⊢
    split at hstored'
    · next htable =>
      subst htable
      rw [hstored, Option.map_some, Option.some.injEq] at hstored'
      subst hstored'
      exact h.seen _ _ hstored row (Table.mem_deleteWhere.mp hrow).1
    · exact h.seen table stored' hstored' row hrow
  · intro entry hentry
    rcases List.mem_append.mp hentry with hold | hnew
    · exact h.deleted entry hold
    · obtain ⟨row, hrow, rfl⟩ := List.mem_map.mp hnew
      obtain ⟨hmem, hid⟩ := Table.mem_select.mp hrow
      refine ⟨plan, hready.1, happly, hready.2 happly, honTable.1, ?_⟩
      rw [← honTable.2.1]
      exact (hids row.id (of_decide_eq_true hid)).2 stored hstored row hmem rfl

end Accountable

/-- The report of a table leads on to the tables after it. -/
theorem StageOk.reported {plan : Plan} {progress : Progress} {state : ReportState}
    {candidates deleted : Nat} (hready : Ready host args environment clocks s.log plan)
    (honTable : OnTable plan progress) :
    StageOk host args environment clocks
      (s.goTo (RetentionState.reported plan progress state candidates deleted)) :=
  ⟨hready, honTable.2.2⟩

theorem StageOk.inspect {plan : Plan} {progress : Progress}
    (hready : Ready host args environment clocks s.log plan) (honTable : OnTable plan progress) :
    StageOk host args environment clocks (s.goTo (s.inspect args plan progress)) := by
  unfold RetentionState.inspect
  split
  · exact .reported hready honTable
  · split
    · exact .reported hready honTable
    · split
      · exact .reported hready honTable
      · exact ⟨hready, honTable⟩

theorem StageOk.count {plan : Plan} {progress : Progress} {stage : Stage}
    (hready : Ready host args environment clocks s.log plan) (honTable : OnTable plan progress)
    (hcount : s.count args plan progress = some stage) :
    StageOk host args environment clocks (s.goTo stage) := by
  obtain ⟨rows, -, rfl⟩ := Option.map_eq_some_iff.mp hcount
  dsimp only
  split
  · next happly => exact ⟨hready, honTable, happly⟩
  · exact .reported hready honTable

/-- What is selected is seen and expired, and no two rows have its identifier. -/
theorem StageOk.selected {plan : Plan} {progress : Progress} {candidates deleted limit : Nat}
    {rows : StoredRows} {page : List StoredRow} (h : Accountable host args environment clocks s)
    (hready : Ready host args environment clocks s.log plan) (honTable : OnTable plan progress)
    (happly : args.apply = true)
    (hrows : s.database.rowsWith progress.table [progress.column, "id"] = some rows)
    (hpage : rows.IsPage (expired progress.column plan.cutoff) (oldestFirst progress.column) limit
      page) :
    StageOk host args environment clocks
      (s.goTo (.deleting plan progress candidates deleted (page.map StoredRow.id))) := by
  obtain ⟨stored, hstored, rfl, -⟩ := StoredDatabase.of_rowsWith hrows
  refine ⟨hready, honTable, happly, fun id hid => ?_⟩
  obtain ⟨row, hrow, rfl⟩ := List.mem_map.mp hid
  obtain ⟨hmem, hexpired⟩ := Table.mem_select.mp (hpage.1 row hrow)
  refine ⟨h.seen _ _ hstored row hmem, fun stored' hstored' row' hrow' hsame => ?_⟩
  obtain rfl : stored = stored' := Option.some.inj (hstored.symm.trans hstored')
  rw [stored.rows.eq_of_key_eq hrow' hmem hsame]
  exact hexpired

theorem Accountable.step (h : Accountable host args environment clocks s) (hstep : ScriptStep args s s') :
    Accountable host args environment clocks s' := by
  have hok := h.stage
  cases hstep with
  | opened plan now hstage happly =>
    rw [StageOk, hstage] at hok
    refine h.append ⟨⟨hok, fun _ => ⟨now, List.mem_append_right _ (List.mem_singleton_self _)⟩⟩,
      fun table htable => htable⟩
  | notOpened plan now effect hstage =>
    cases effect with
    | true => exact h.append trivial
    | false => exact h.exited 2
  | reading plan hstage happly =>
    rw [StageOk, hstage] at hok
    refine h.goTo ⟨⟨hok, fun hap => ?_⟩, fun table htable => htable⟩
    rw [happly] at hap
    cases hap
  | completed plan results now hstage happly =>
    rw [StageOk, hstage] at hok
    exact h.append (hok.1.append _)
  | notCompleted plan results now effect errorType hstage happly =>
    rw [StageOk, hstage] at hok
    cases effect with
    | true => exact h.append (hok.1.append _)
    | false => exact h.goTo hok.1
  | read plan results hstage happly =>
    rw [StageOk, hstage] at hok
    exact h.goTo hok.1
  | inspected plan table todo results hstage =>
    rw [StageOk, hstage] at hok
    exact h.goTo (.inspect hok.1 ⟨hok.2 table List.mem_cons_self, rfl,
      fun t ht => hok.2 t (List.mem_cons_of_mem _ ht)⟩)
  | counted plan progress stage hstage hcount =>
    rw [StageOk, hstage] at hok
    exact h.goTo (.count hok.1 hok.2 hcount)
  | finished plan progress candidates deleted hstage hdone =>
    rw [StageOk, hstage] at hok
    exact h.goTo (.reported hok.1 hok.2.1)
  | drained plan progress candidates deleted rows hstage hrows hpage =>
    rw [StageOk, hstage] at hok
    exact h.goTo (.reported hok.1 hok.2.1)
  | selected plan progress candidates deleted rows page hstage hrows hsome hpage =>
    rw [StageOk, hstage] at hok
    obtain ⟨hready, honTable, happly⟩ := hok
    exact h.goTo (.selected h hready honTable happly hrows hpage)
  | deleted plan progress candidates deleted ids rows hstage hrows =>
    obtain ⟨hready, honTable, happly, hdelete⟩ := h.delete hstage hrows
    exact hdelete _ ⟨hready, honTable, happly⟩
  | lost plan progress candidates deleted ids rows errorType hstage hrows =>
    obtain ⟨hready, -, happly, hdelete⟩ := h.delete hstage hrows
    rw [RetentionState.raised, if_pos happly]
    exact hdelete _ hready
  | raised plan errorType hplan hbegun => exact h.raised errorType (hok.ready hplan hbegun)
  | printed plan results hstage => exact h.exited 0
  | failed plan errorType now effect hstage =>
    cases effect with
    | true => exact h.append trivial
    | false => exact h.exited 2

theorem accountable_invariant (host : RetentionHost) (args : RetentionArgs)
    (environment : RetentionEnvironment) (clocks : Clocks) :
    Invariant (retentionSystem host args environment) (KeptAt clocks)
      (Accountable host args environment clocks) where
  init s h := by
    obtain ⟨hstage, -, hdeleted, hseen⟩ := h
    refine ⟨hseen, by rw [StageOk, hstage]; trivial, ?_⟩
    rw [hdeleted]
    exact nofun
  step s a s' h hkept hnext := by
    cases a with
    | prepare holdNow now auditNow =>
      simp only [retentionSystem] at hnext
      split at hnext
      · split at hnext
        · next plan hplan =>
          obtain rfl := Option.some.inj hnext
          obtain ⟨rfl, rfl, rfl⟩ := hkept.2 holdNow now auditNow rfl
          exact h.goTo hplan
        · obtain rfl := Option.some.inj hnext
          exact h.exited 2
        · obtain rfl := Option.some.inj hnext
          exact h.exited 1
      · cases hnext
    | statement now page outcome => exact h.step (ScriptStep.of_statement hnext)
    | others database =>
      obtain rfl := Option.some.inj hnext
      refine ⟨fun table stored hstored row hrow => ?_, ?_, h.deleted⟩
      · have hstored' : database table = some stored := hstored
        refine Bool.or_eq_true_iff.mpr (Or.inr ?_)
        rw [hstored']
        show (stored.rows.get? row.id).isSome = true
        rw [Table.get?_of_mem hrow]
        rfl
      · have hok := h.stage
        unfold StageOk at hok ⊢
        cases hstage : s.stage with
        | deleting plan progress candidates deleted ids =>
          rw [hstage] at hok
          obtain ⟨hready, honTable, happly, hids⟩ := hok
          refine ⟨hready, honTable, happly, fun id hid => ?_⟩
          obtain ⟨hseen, hexpired⟩ := hids id hid
          refine ⟨by simp only [hseen, Bool.true_or], fun stored hstored row hrow hrowId => ?_⟩
          rcases hkept.1 _ stored row hstored hrow with hfresh | ⟨before, hbefore, old, hold, hsame, hstamp⟩
          · rw [hrowId, hseen] at hfresh
            cases hfresh
          · -- the row is the one that was selected, under its timestamp
            rw [← expired_congr (honTable.2.1 ▸ hstamp)]
            exact hexpired before hbefore old hold (hsame.trans hrowId)
        | _ =>
          rw [hstage] at hok
          exact hok

/-! ## Deletions -/

/-- A run prepares once, so every run is one that prepares at certain times. -/
theorem reachable_keptAt
    (h : ReachableBy (retentionSystem host args environment) TimestampsKept s) :
    (∃ clocks, ReachableBy (retentionSystem host args environment) (KeptAt clocks) s) ∧
      (s.stage = .preparing →
        ∀ clocks, ReachableBy (retentionSystem host args environment) (KeptAt clocks) s) := by
  induction h with
  | init h0 => exact ⟨⟨⟨0, 0, 0⟩, .init h0⟩, fun _ clocks => .init h0⟩
  | @step s s' a _ hkept hnext ih =>
    have hstep : ∀ clocks, (∀ holdNow now auditNow, a ≠ .prepare holdNow now auditNow) →
        ReachableBy (retentionSystem host args environment) (KeptAt clocks) s →
        ReachableBy (retentionSystem host args environment) (KeptAt clocks) s' :=
      fun clocks hno hs => hs.step ⟨hkept, fun _ _ _ ha => absurd ha (hno _ _ _)⟩ hnext
    cases a with
    | prepare holdNow now auditNow =>
      simp only [retentionSystem] at hnext
      split at hnext
      · next hstage =>
        have hs := ih.2 hstage ⟨holdNow, now, auditNow⟩
        have hat : KeptAt ⟨holdNow, now, auditNow⟩ s (.prepare holdNow now auditNow) :=
          ⟨trivial, by rintro _ _ _ ⟨⟩; exact ⟨rfl, rfl, rfl⟩⟩
        refine ⟨⟨_, hs.step hat ?_⟩, ?_⟩
        · simp only [retentionSystem, hstage]
          exact hnext
        · split at hnext
          all_goals
            obtain rfl := Option.some.inj hnext
            rintro ⟨⟩
      · cases hnext
    | statement now page outcome =>
      obtain ⟨clocks, hs⟩ := ih.1
      refine ⟨⟨clocks, hstep clocks (by rintro _ _ _ ⟨⟩) hs⟩, fun hstage => ?_⟩
      exact absurd hstage (ScriptStep.of_statement hnext).left_preparing
    | others database =>
      obtain ⟨clocks, hs⟩ := ih.1
      refine ⟨⟨clocks, hstep clocks (by rintro _ _ _ ⟨⟩) hs⟩, fun hstage clocks =>
        hstep clocks (by rintro _ _ _ ⟨⟩) ?_⟩
      obtain rfl := Option.some.inj hnext
      exact ih.2 hstage clocks

/-- What the operator has given to have rows of a table deleted. -/
structure Confirmed (host : RetentionHost) (args : RetentionArgs) (holdNow : Time)
    (table : String) : Prop where
  apply : args.apply = true
  confirm : args.confirm = some confirmation
  requested : table ∈ args.table
  target : table ∈ retentionTargets.map Prod.fst
  confirmAudit : table = "audit_events" → args.confirmAudit = some auditConfirmation
  noHold : ∃ path hold, args.legalHoldFile = some path ∧
    legalHoldState host path holdNow = .ok hold ∧ hold.active = false
  auditLog : args.auditLog.isSome
  operator : Text.strip args.operator ≠ ""

/-- A plan to apply was confirmed for each of its tables, and its cutoff is the number of days
before the clock. -/
theorem confirmed_of_prepare {holdNow now auditNow : Time} {plan : Plan} {table : String}
    (h : prepare host args environment holdNow now auditNow = .ok plan)
    (happly : args.apply = true) (htable : table ∈ plan.tables) :
    Confirmed host args holdNow table ∧ plan.tables = args.table ∧ 1 ≤ args.days ∧
      plan.cutoff = now - seconds (args.days * 86400) ∧ plan.auditId = host.auditId auditNow := by
  simp only [prepare, checkArguments, cutoffOf, bind_eq_ok, raiseIf_eq_ok, pure_eq_ok, happly,
    true_and, if_true] at h
  obtain ⟨legalHold, ⟨_, hdays, _, hbatch, _, hconfirm, _, hnonempty, _, haudit, found, hread, _,
    hrequired, hfound⟩, url, hurl, _, hcredential, dialect, hdialect, cutoff, ⟨_, hrange, hcutoff⟩, _,
    haccess, hplan⟩ := h
  subst hplan hfound
  dsimp only at htable ⊢
  rw [if_neg hnonempty] at htable ⊢
  cases found with
  | none => cases hrequired
  | some hold =>
    simp only [requireApply, bind_eq_ok, raiseIf_eq_ok] at hrequired
    obtain ⟨_, hactive, _, hlog, hoperator⟩ := hrequired
    refine ⟨⟨happly, ?_, htable, args.choices table htable, ?_, ?_, ?_, hoperator⟩, rfl, by omega,
      hcutoff.symm, rfl⟩
    · exact not_not.mp hconfirm
    · intro hname
      subst hname
      by_contra hno
      exact haudit ⟨htable, hno⟩
    · unfold readHold at hread
      cases hpath : args.legalHoldFile with
      | none =>
        rw [hpath] at hread
        cases hread
      | some path =>
        rw [hpath] at hread
        dsimp only at hread
        cases hstate : legalHoldState host path holdNow with
        | error e =>
          rw [hstate] at hread
          cases hread
        | ok state =>
          rw [hstate] at hread
          cases hread
          exact ⟨path, hold, rfl, hstate, Bool.eq_false_iff.mpr hactive⟩
    · rwa [Bool.not_eq_true, Option.isNone_eq_false_iff] at hlog

/-- **Deletions.** Whatever other sessions do, whatever raises and wherever the process dies: a
row the script has deleted was in a table the operator asked for with every confirmation and
under no hold that was active when the run looked, was older than the days asked for when the
run computed its cutoff, and the audit of that cutoff and those tables was begun. -/
theorem deletions_sanctioned {table : String} {row : StoredRow}
    (h : ReachableBy (retentionSystem host args environment) (KeptAt clocks) s)
    (hdeleted : (table, row) ∈ s.deleted) :
    Confirmed host args clocks.holdNow table ∧ 1 ≤ args.days ∧
      (∃ timestamp, .started (host.auditId clocks.auditNow) (Text.strip args.operator)
        (clocks.now - seconds (args.days * 86400)) args.table timestamp ∈ s.log) ∧
      expired (columnOf table) (clocks.now - seconds (args.days * 86400)) row = true := by
  obtain ⟨plan, hprepare, happly, ⟨timestamp, hstarted⟩, htable, hexpired⟩ :=
    ((accountable_invariant host args environment clocks).reachable h).deleted _ hdeleted
  obtain ⟨hconfirmed, htables, hdays, hcutoff, hid⟩ := confirmed_of_prepare hprepare happly htable
  rw [htables, hcutoff, hid] at hstarted
  rw [hcutoff] at hexpired
  exact ⟨hconfirmed, hdays, ⟨timestamp, hstarted⟩, hexpired⟩

/-- A host on which no hold is active. -/
def freeHost : RetentionHost where
  fromisoformat _ := .invalid
  repr _ := ""
  resolve path := path
  readJson _ := .ok (.dict [("active", .bool false)])
  auditId _ := "retention-1"
  dialect _ := .ok "sqlite"
  rowSecurityActive _ := false

/-- Notifications older than thirty days are to go, one by one. -/
def notificationArgs : RetentionArgs where
  databaseUrl := some "sqlite:///deployguard.db"
  days := 30
  table := ["notifications"]
  choices := by decide
  apply := true
  confirm := some confirmation
  batchSize := 1
  legalHoldFile := some "hold.json"
  auditLog := some "audit.jsonl"
  operator := "scheduler"

def notificationRow (id : String) (created : Time) : StoredRow := ⟨id, [("created_at", created)]⟩

/-- Two notifications, of the first minute and of the hundredth day. -/
def notificationState : RetentionState where
  database
    | "notifications" => some {
        columns := ["id", "created_at"]
        rows := ⟨[notificationRow "a" (seconds 10), notificationRow "b" (seconds 8640000)], by decide⟩ }
    | _ => none
  log := []
  stage := .preparing
  deleted := []
  seen _ _ := true

theorem notificationState_start :
    (retentionSystem freeHost notificationArgs ⟨"", ""⟩).init notificationState :=
  ⟨rfl, rfl, rfl, fun _ _ _ _ _ => rfl⟩

/-- On the hundredth day the script opens its audit, counts, selects and deletes. -/
def notificationRun : List RetentionAction :=
  [.prepare (seconds 8640000) (seconds 8640000) (seconds 8640000),
    .statement (seconds 8640001) [] .completes, .statement (seconds 8640002) [] .completes,
    .statement (seconds 8640003) [] .completes,
    .statement (seconds 8640004) [notificationRow "a" (seconds 10)] .completes,
    .statement (seconds 8640005) [] .completes]

def notificationEnd : RetentionState :=
  ((retentionSystem freeHost notificationArgs ⟨"", ""⟩).run notificationState notificationRun).get
    (by decide +kernel)

theorem deletions_sanctioned_notification :
    Confirmed freeHost notificationArgs (seconds 8640000) "notifications" ∧
      expired "created_at" (seconds 8640000 - seconds (30 * 86400)) (notificationRow "a" (seconds 10)) =
        true := by
  have hreach : ReachableBy (retentionSystem freeHost notificationArgs ⟨"", ""⟩)
      (KeptAt ⟨seconds 8640000, seconds 8640000, seconds 8640000⟩) notificationEnd := by
    refine .of_run (.init notificationState_start) (fun a ha t => ?_) (Option.some_get _).symm
    simp only [notificationRun, List.mem_cons, List.not_mem_nil, or_false] at ha
    rcases ha with rfl | rfl | rfl | rfl | rfl | rfl
    · exact ⟨trivial, by rintro _ _ _ ⟨⟩; exact ⟨rfl, rfl, rfl⟩⟩
    all_goals exact ⟨trivial, nofun⟩
  have hdeleted : ("notifications", notificationRow "a" (seconds 10)) ∈ notificationEnd.deleted := by
    decide +kernel
  obtain ⟨hconfirmed, -, -, hexpired⟩ := deletions_sanctioned hreach hdeleted
  exact ⟨hconfirmed, hexpired⟩

end DeployGuard.Operations
