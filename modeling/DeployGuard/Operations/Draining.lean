import DeployGuard.Operations.Accounting

/-!
# The retention script by itself

Nobody else writes, and no statement raises. What the script then does batch by batch is one
deletion:

> `alone_purges`: a run that has exited leaves of each requested table the rows that are not
expired, and everything else as it was;

> `alone_ends`: a run is no longer than its tables and their rows allow, and one that cannot go
on has exited.

`Alone` relates the database at every stage to the one the run began with; `Stage.ahead` counts
what is left to do.
-/

namespace DeployGuard.Operations

open Raise Transition

variable {host : RetentionHost} {args : RetentionArgs} {environment : RetentionEnvironment}
  {s s' : RetentionState} {before db : StoredDatabase} {plan : Plan} {progress : Progress}

/-! ## What is to become of the database -/

/-- A table without its expired rows; one that lacks a column is left as it is. -/
def purgeTable (column : String) (cutoff : Time) (stored : StoredTable) : StoredTable :=
  if column ∈ stored.columns ∧ "id" ∈ stored.columns then
    { stored with rows := stored.rows.deleteWhere (expired column cutoff) }
  else stored

/-- The expired rows of some tables are gone. -/
def purge (cutoff : Time) (tables : List String) (db : StoredDatabase) : StoredDatabase :=
  fun table =>
    if table ∈ tables then (db table).map (purgeTable (columnOf table) cutoff) else db table

/-- What a run is to make of a database, of the first tables of its plan: without `--apply`
nothing. -/
def aim (args : RetentionArgs) (plan : Plan) (tables : List String) (db : StoredDatabase) :
    StoredDatabase :=
  if args.apply then purge plan.cutoff tables db else db

/-- A purge keeps the columns. -/
@[simp] theorem purgeTable_columns (column : String) (cutoff : Time) (stored : StoredTable) :
    (purgeTable column cutoff stored).columns = stored.columns := by
  unfold purgeTable
  split <;> rfl

/-- A purge leaves nothing for a second one. -/
@[simp] theorem purgeTable_purgeTable (column : String) (cutoff : Time) (stored : StoredTable) :
    purgeTable column cutoff (purgeTable column cutoff stored) = purgeTable column cutoff stored := by
  by_cases h : column ∈ stored.columns ∧ "id" ∈ stored.columns
  · simp [purgeTable, h, Table.deleteWhere_deleteWhere]
  · simp [purgeTable, h]

/-- Without a table nothing is purged. -/
theorem purge_nil (cutoff : Time) (db : StoredDatabase) : purge cutoff [] db = db := by
  funext table
  exact if_neg List.not_mem_nil

/-- The tables may be purged one after the other, and a table twice. -/
theorem purge_append (cutoff : Time) (tables : List String) (table : String) (db : StoredDatabase) :
    purge cutoff (tables ++ [table]) db = purge cutoff [table] (purge cutoff tables db) := by
  funext name
  unfold purge
  by_cases hname : name = table
  · subst hname
    by_cases hmem : name ∈ tables
    · cases db name with
      | none => simp [hmem]
      | some stored => simp [hmem]
    · simp [hmem]
  · by_cases hmem : name ∈ tables
    · simp [hname, hmem]
    · simp [hname, hmem]

/-- A table that is missing, or lacks a column, is passed over. -/
theorem purge_skip {cutoff : Time} {table : String}
    (h : ∀ stored, db table = some stored →
      ¬(columnOf table ∈ stored.columns ∧ "id" ∈ stored.columns)) :
    purge cutoff [table] db = db := by
  funext name
  unfold purge
  split
  · next hname =>
    rw [List.mem_singleton.mp hname]
    cases hdb : db table with
    | none => rfl
    | some stored => rw [Option.map_some, purgeTable, if_neg (h stored hdb)]
  · rfl

/-- A table is purged when the rows that are left of it are the ones that are not expired. -/
theorem purge_table {cutoff : Time} {table : String} {stored : StoredTable} {rows : StoredRows}
    (hdb : db table = some stored) (hcolumn : columnOf table ∈ stored.columns)
    (hid : "id" ∈ stored.columns)
    (hrows : rows = stored.rows.deleteWhere (expired (columnOf table) cutoff)) :
    purge cutoff [table] db = db.setRows table rows := by
  funext name
  unfold purge StoredDatabase.setRows
  simp only [List.mem_singleton]
  split
  · next hname =>
    rw [hname, hdb, Option.map_some, Option.map_some, purgeTable, if_pos ⟨hcolumn, hid⟩, hrows]
  · rfl

/-- The later rows stay. -/
theorem setRows_setRows (db : StoredDatabase) (table : String) (rows rows' : StoredRows) :
    (db.setRows table rows).setRows table rows' = db.setRows table rows' := by
  funext name
  unfold StoredDatabase.setRows
  split
  · rw [Option.map_map]
    rfl
  · rfl

/-! ## The database at each stage -/

/-- The script's own statements, none of which raises. -/
def Undisturbed : RetentionAction → Prop
  | .statement _ _ outcome => outcome = .completes
  | _ => False

/-- A run that has not failed. -/
def Stage.sound : Stage → Bool
  | .failing _ _ => false
  | .exited code => code = 0
  | _ => true

/-- The tables of some reports. -/
def tablesOf (results : List TableReport) : List String := results.map TableReport.table

/-- The tables of the plan are the ones behind, the one the script is at and the ones ahead. -/
def Amid (plan : Plan) (progress : Progress) : Prop :=
  tablesOf progress.results ++ progress.table :: progress.todo = plan.tables ∧
    progress.column = columnOf progress.table

/-- Some expired rows of one table are gone, and as many are left as the loop has still to
delete. -/
structure Partly (aim : StoredDatabase) (plan : Plan) (progress : Progress)
    (candidates deleted : Nat) (stored : StoredTable) (rows : StoredRows) (db : StoredDatabase) :
    Prop where
  before : aim progress.table = some stored
  column : progress.column ∈ stored.columns
  id : "id" ∈ stored.columns
  after : db = aim.setRows progress.table rows
  kept : rows.deleteWhere (expired progress.column plan.cutoff) =
    stored.rows.deleteWhere (expired progress.column plan.cutoff)
  left : rows.rowcount (expired progress.column plan.cutoff) + deleted = candidates

/-- The database at each stage, against the one the run began with. -/
def Alone (args : RetentionArgs) (plan : Plan) (before : StoredDatabase) (s : RetentionState) :
    Prop :=
  match s.stage with
  | .preparing | .failing _ _ => False
  | .opening plan' => plan' = plan ∧ s.database = before
  | .inspecting plan' todo results => plan' = plan ∧ tablesOf results ++ todo = plan.tables ∧
    s.database = aim args plan (tablesOf results) before
  | .counting plan' progress => plan' = plan ∧ Amid plan progress ∧
    s.database = aim args plan (tablesOf progress.results) before ∧
    ∃ stored, s.database progress.table = some stored ∧ progress.column ∈ stored.columns ∧
      (args.apply = true → "id" ∈ stored.columns)
  | .selecting plan' progress candidates deleted => plan' = plan ∧ Amid plan progress ∧
    args.apply = true ∧ ∃ stored rows, Partly (aim args plan (tablesOf progress.results) before)
      plan progress candidates deleted stored rows s.database
  | .deleting plan' progress candidates deleted ids => plan' = plan ∧ Amid plan progress ∧
    args.apply = true ∧ ∃ stored rows, Partly (aim args plan (tablesOf progress.results) before)
      plan progress candidates deleted stored rows s.database ∧
      (∀ row ∈ rows.rows, row.id ∈ ids → expired progress.column plan.cutoff row = true) ∧
      0 < rows.rowcount fun row => row.id ∈ ids
  | .printing plan' _ => plan' = plan ∧ s.database = aim args plan plan.tables before
  | .exited code => code = 0 ∧ s.database = aim args plan plan.tables before

/-- Before the first table the database is as it was. -/
theorem aim_nil (args : RetentionArgs) (plan : Plan) (db : StoredDatabase) :
    aim args plan [] db = db := by
  unfold aim
  split
  · exact purge_nil plan.cutoff db
  · rfl

/-- With `--apply` each finished table is a purged one. -/
theorem aim_append (happly : args.apply = true) (tables : List String) (table : String) :
    aim args plan (tables ++ [table]) db = purge plan.cutoff [table] (aim args plan tables db) := by
  unfold aim
  rw [if_pos happly, if_pos happly, purge_append]

/-- Without it they are as they were. -/
theorem aim_dry (happly : args.apply = false) (tables tables' : List String) :
    aim args plan tables db = aim args plan tables' db := by
  unfold aim
  rw [if_neg (by simp [happly]), if_neg (by simp [happly])]

/-- A table the script passes over is no part of its aim. -/
theorem aim_skip {tables : List String} {table : String}
    (h : args.apply = true → ∀ stored, aim args plan tables db table = some stored →
      ¬(columnOf table ∈ stored.columns ∧ "id" ∈ stored.columns)) :
    aim args plan (tables ++ [table]) db = aim args plan tables db := by
  by_cases happly : args.apply = true
  · rw [aim_append happly, purge_skip (h happly)]
  · exact aim_dry (Bool.eq_false_iff.mpr happly) _ _

/-- A purge makes no table longer. -/
theorem aim_length {tables : List String} {table : String} {stored : StoredTable}
    (h : aim args plan tables db table = some stored) :
    ∃ old, db table = some old ∧ stored.rows.rows.length ≤ old.rows.rows.length := by
  unfold aim at h
  split at h
  · unfold purge at h
    split at h
    · obtain ⟨old, hold, rfl⟩ := Option.map_eq_some_iff.mp h
      refine ⟨old, hold, ?_⟩
      unfold purgeTable
      split
      · exact List.length_filter_le _ _
      · exact le_rfl
    · exact ⟨stored, h, le_rfl⟩
  · exact ⟨stored, h, le_rfl⟩

/-- A report is of one more table. -/
theorem tablesOf_snoc (results : List TableReport) (report : TableReport) :
    tablesOf (results ++ [report]) = tablesOf results ++ [report.table] := List.map_append

/-- Setting the rows that are there changes nothing. -/
theorem setRows_self {table : String} {stored : StoredTable} (h : db table = some stored) :
    db.setRows table stored.rows = db := by
  funext name
  unfold StoredDatabase.setRows
  split
  · next hname =>
    rw [hname, h]
    rfl
  · rfl

/-- The rows are read when the columns are there. -/
theorem rowsWith_of_columns {table : String} {stored : StoredTable} {columns : List String}
    (h : db table = some stored) (hcolumns : ∀ column ∈ columns, column ∈ stored.columns) :
    db.rowsWith table columns = some stored.rows := by
  unfold StoredDatabase.rowsWith
  rw [h]
  exact if_pos hcolumns

section Loop

variable {aim : StoredDatabase} {candidates deleted : Nat} {stored : StoredTable}
  {rows : StoredRows}

/-- The statements of the loop work on the rows that are left. -/
theorem Partly.rowsWith (h : Partly aim plan progress candidates deleted stored rows db)
    {columns : List String} (hcolumns : ∀ column ∈ columns, column = progress.column ∨ column = "id") :
    db.rowsWith progress.table columns = some rows := by
  have hdb : db progress.table = some { stored with rows } := by
    rw [h.after, StoredDatabase.setRows, if_pos rfl, h.before]
    rfl
  refine rowsWith_of_columns hdb fun column hcolumn => ?_
  rcases hcolumns column hcolumn with rfl | rfl
  · exact h.column
  · exact h.id

/-- The loop is over when no expired row is left. -/
theorem Partly.over (h : Partly aim plan progress candidates deleted stored rows db)
    (hcolumn : progress.column = columnOf progress.table)
    (hnone : rows.rowcount (expired progress.column plan.cutoff) = 0) :
    db = purge plan.cutoff [progress.table] aim := by
  have hkept := h.kept
  have hmem := h.column
  rw [Table.deleteWhere_of_rowcount hnone, hcolumn] at hkept
  rw [hcolumn] at hmem
  rw [h.after, purge_table h.before hmem h.id hkept]

/-- A batch of expired rows is deleted. -/
theorem Partly.delete {ids : List String}
    (h : Partly aim plan progress candidates deleted stored rows db)
    (hexpired : ∀ row ∈ rows.rows, row.id ∈ ids → expired progress.column plan.cutoff row = true) :
    Partly aim plan progress candidates (deleted + rows.rowcount fun row => row.id ∈ ids) stored
      (rows.deleteWhere fun row => row.id ∈ ids)
      (db.setRows progress.table (rows.deleteWhere fun row => row.id ∈ ids)) where
  before := h.before
  column := h.column
  id := h.id
  after := by rw [h.after, setRows_setRows]
  kept := by rw [← h.kept, Table.deleteWhere_of_imp fun row hrow hid =>
    hexpired row hrow (of_decide_eq_true hid)]
  left := by
    have hsplit := Table.rowcount_deleteWhere fun row hrow hid =>
      hexpired row hrow (of_decide_eq_true hid)
    have hleft := h.left
    omega

end Loop

/-! ## Steps -/

/-- A run that goes on has raised nothing. -/
theorem inspect_sound : (s.inspect args plan progress).sound = true := by
  unfold RetentionState.inspect
  split
  · rfl
  · split
    · rfl
    · split <;> rfl

/-- No statement of a run that is alone finds a table or a column missing. -/
theorem Alone.sound {now : Time} {page : List StoredRow} (h : Alone args plan before s)
    (hnext : s.statement args now page .completes = some s') : s'.stage.sound = true := by
  unfold Alone at h
  unfold RetentionState.statement at hnext
  cases hstage : s.stage with
  | preparing => rw [hstage] at h; exact h.elim
  | failing => rw [hstage] at h; exact h.elim
  | exited code => rw [hstage] at hnext; cases hnext
  | opening plan' =>
    rw [hstage] at hnext
    dsimp only at hnext
    split at hnext
    all_goals
      obtain rfl := Option.some.inj hnext
      rfl
  | inspecting plan' todo results =>
    rw [hstage] at hnext
    cases todo with
    | nil =>
      dsimp only at hnext
      split at hnext
      all_goals
        obtain rfl := Option.some.inj hnext
        rfl
    | cons table todo =>
      obtain rfl := Option.some.inj hnext
      exact inspect_sound
  | counting plan' progress =>
    rw [hstage] at h hnext
    obtain ⟨-, -, -, stored, hstored, hcolumn, -⟩ := h
    obtain rfl := Option.some.inj hnext
    have hrows : s.database.rowsWith progress.table [progress.column] = some stored.rows :=
      rowsWith_of_columns hstored fun c hc => List.mem_singleton.mp hc ▸ hcolumn
    unfold RetentionState.count
    rw [hrows, Option.map_some]
    dsimp only
    split <;> rfl
  | selecting plan' progress candidates deleted =>
    rw [hstage] at h hnext
    obtain ⟨-, -, -, stored, rows, hpartly⟩ := h
    dsimp only at hnext
    split at hnext
    · obtain rfl := Option.some.inj hnext
      rfl
    · rw [hpartly.rowsWith (by simp)] at hnext
      dsimp only at hnext
      split at hnext
      · obtain rfl := Option.some.inj hnext
        show (if page = [] then _ else _ : Stage).sound = true
        split <;> rfl
      · cases hnext
  | deleting plan' progress candidates deleted ids =>
    rw [hstage] at h hnext
    obtain ⟨-, -, -, stored, rows, hpartly, -⟩ := h
    dsimp only at hnext
    rw [hpartly.rowsWith (by simp)] at hnext
    obtain rfl := Option.some.inj hnext
    rfl
  | printing plan' results =>
    rw [hstage] at hnext
    obtain rfl := Option.some.inj hnext
    rfl

/-- The script goes on from a table it passes over. -/
theorem Alone.skipped {todo : List String} {results : List TableReport} {report : TableReport}
    (htables : tablesOf results ++ report.table :: todo = plan.tables)
    (hdb : s.database = aim args plan (tablesOf results) before)
    (hskip : args.apply = true → ∀ stored, s.database report.table = some stored →
      ¬(columnOf report.table ∈ stored.columns ∧ "id" ∈ stored.columns)) :
    Alone args plan before (s.goTo (.inspecting plan todo (results ++ [report]))) := by
  refine ⟨rfl, ?_, ?_⟩
  · rw [tablesOf_snoc, List.append_assoc]
    exact htables
  · show s.database = _
    rw [hdb] at hskip ⊢
    rw [tablesOf_snoc, aim_skip hskip]

/-- The script goes on from a table of which no expired row is left. -/
theorem Alone.purged {candidates deleted : Nat} {stored : StoredTable} {rows : StoredRows}
    (hamid : Amid plan progress) (happly : args.apply = true)
    (h : Partly (aim args plan (tablesOf progress.results) before) plan progress candidates deleted
      stored rows s.database)
    (hnone : rows.rowcount (expired progress.column plan.cutoff) = 0) :
    Alone args plan before
      (s.goTo (RetentionState.reported plan progress .processed candidates deleted)) := by
  refine ⟨rfl, ?_, ?_⟩
  · rw [tablesOf_snoc, List.append_assoc]
    exact hamid.1
  · show s.database = _
    rw [tablesOf_snoc, aim_append happly]
    exact h.over hamid.2 hnone

/-- The next table is looked at with the ones before it purged. -/
theorem Alone.inspected {table : String} {todo : List String} {results : List TableReport}
    (htables : tablesOf results ++ table :: todo = plan.tables)
    (hdb : s.database = aim args plan (tablesOf results) before) :
    Alone args plan before (s.goTo (s.inspect args plan ⟨table, columnOf table, todo, results⟩)) := by
  unfold RetentionState.inspect
  dsimp only
  split
  · next hmissing =>
    refine .skipped htables hdb fun _ stored hstored => ?_
    rw [hmissing] at hstored
    cases hstored
  · next stored hstored =>
    have hsame : ∀ stored', s.database table = some stored' → stored' = stored := fun stored' h =>
      Option.some.inj (h.symm.trans hstored)
    split
    · next hcolumn =>
      refine .skipped htables hdb fun _ stored' hstored' hboth => hcolumn ?_
      rw [← hsame stored' hstored']
      exact hboth.1
    · next hcolumn =>
      split
      · next hid =>
        refine .skipped htables hdb fun _ stored' hstored' hboth => hid.2 ?_
        rw [← hsame stored' hstored']
        exact hboth.2
      · next hid =>
        exact ⟨rfl, ⟨htables, rfl⟩, hdb, stored, hstored, not_not.mp hcolumn,
          fun happly => not_not.mp fun hno => hid ⟨happly, hno⟩⟩

/-- Its rows are counted before any is deleted. -/
theorem Alone.counted {stage : Stage} (hamid : Amid plan progress)
    (hdb : s.database = aim args plan (tablesOf progress.results) before) {stored : StoredTable}
    (hstored : s.database progress.table = some stored) (hcolumn : progress.column ∈ stored.columns)
    (hid : args.apply = true → "id" ∈ stored.columns)
    (hcount : s.count args plan progress = some stage) :
    Alone args plan before (s.goTo stage) := by
  obtain ⟨rows, hrows, rfl⟩ := Option.map_eq_some_iff.mp hcount
  obtain ⟨stored', hstored', rfl, -⟩ := StoredDatabase.of_rowsWith hrows
  obtain rfl := Option.some.inj (hstored'.symm.trans hstored)
  dsimp only
  split
  · next happly =>
    exact ⟨rfl, hamid, happly, stored', stored'.rows, hdb ▸ hstored, hcolumn, hid happly,
      by rw [← hdb]; exact (setRows_self hstored).symm, rfl, rfl⟩
  · next happly =>
    refine .skipped hamid.1 hdb fun hyes => absurd hyes happly

/-- A page of the loop is of expired rows, and deletes at least one. -/
theorem selected_expired {limit : Nat} {rows : StoredRows} {page : List StoredRow}
    (hpage : rows.IsPage (expired progress.column plan.cutoff) (oldestFirst progress.column) limit page)
    (hsome : page ≠ []) :
    (∀ row ∈ rows.rows, row.id ∈ page.map StoredRow.id →
        expired progress.column plan.cutoff row = true) ∧
      0 < rows.rowcount fun row => row.id ∈ page.map StoredRow.id := by
  refine ⟨fun row hrow hid => ?_, ?_⟩
  · obtain ⟨row', hrow', hsame⟩ := List.mem_map.mp hid
    obtain ⟨hmem, hexpired⟩ := Table.mem_select.mp (hpage.1 row' hrow')
    rw [rows.eq_of_key_eq hrow hmem hsame.symm]
    exact hexpired
  · obtain ⟨row, hrow⟩ := List.exists_mem_of_ne_nil page hsome
    exact Table.rowcount_pos.mpr ⟨row, (Table.mem_select.mp (hpage.1 row hrow)).1,
      decide_eq_true (List.mem_map_of_mem hrow)⟩

/-- Every sound step of a run on its own leads towards the purged database. -/
theorem Alone.step (h : Alone args plan before s) (hbatch : 1 ≤ args.batchSize)
    (hstep : ScriptStep args s s') (hsound : s'.stage.sound = true) : Alone args plan before s' := by
  unfold Alone at h
  cases hstep with
  | opened plan' now hstage happly =>
    rw [hstage] at h
    obtain ⟨rfl, hdb⟩ := h
    exact ⟨rfl, rfl, hdb.trans (aim_nil ..).symm⟩
  | notOpened plan' now effect hstage => cases hsound
  | reading plan' hstage happly =>
    rw [hstage] at h
    obtain ⟨rfl, hdb⟩ := h
    exact ⟨rfl, rfl, hdb.trans (aim_nil ..).symm⟩
  | completed plan' results now hstage happly =>
    rw [hstage] at h
    obtain ⟨rfl, htables, hdb⟩ := h
    rw [List.append_nil] at htables
    exact ⟨rfl, htables ▸ hdb⟩
  | notCompleted plan' results now effect errorType hstage happly => cases hsound
  | read plan' results hstage happly =>
    rw [hstage] at h
    obtain ⟨rfl, htables, hdb⟩ := h
    rw [List.append_nil] at htables
    exact ⟨rfl, htables ▸ hdb⟩
  | inspected plan' table todo results hstage =>
    rw [hstage] at h
    obtain ⟨rfl, htables, hdb⟩ := h
    exact .inspected htables hdb
  | counted plan' progress stage hstage hcount =>
    rw [hstage] at h
    obtain ⟨rfl, hamid, hdb, stored, hstored, hcolumn, hid⟩ := h
    exact .counted hamid hdb hstored hcolumn hid hcount
  | finished plan' progress candidates deleted hstage hdone =>
    rw [hstage] at h
    obtain ⟨rfl, hamid, happly, stored, rows, hpartly⟩ := h
    refine .purged hamid happly hpartly ?_
    have hleft := hpartly.left
    omega
  | drained plan' progress candidates deleted rows' hstage hrows hpage =>
    rw [hstage] at h
    obtain ⟨rfl, hamid, happly, stored, rows, hpartly⟩ := h
    rw [hpartly.rowsWith (by simp), Option.some.injEq] at hrows
    subst hrows
    refine .purged hamid happly hpartly ?_
    -- the batch is not empty, so an empty page means that nothing is left
    have hlength : 0 = min (min args.batchSize.toNat (candidates - deleted))
        (rows.select (expired progress.column plan'.cutoff)).length := hpage.2.2.2.1
    have hleft := hpartly.left
    rw [Table.rowcount, List.countP_eq_length_filter] at hleft ⊢
    rw [Table.select] at hlength
    omega
  | selected plan' progress candidates deleted rows' page hstage hrows hsome hpage =>
    rw [hstage] at h
    obtain ⟨rfl, hamid, happly, stored, rows, hpartly⟩ := h
    rw [hpartly.rowsWith (by simp), Option.some.injEq] at hrows
    subst hrows
    exact ⟨rfl, hamid, happly, stored, rows, hpartly, selected_expired hpage hsome⟩
  | deleted plan' progress candidates deleted ids rows' hstage hrows =>
    rw [hstage] at h
    obtain ⟨rfl, hamid, happly, stored, rows, hpartly, hexpired, -⟩ := h
    rw [hpartly.rowsWith (by simp), Option.some.injEq] at hrows
    subst hrows
    exact ⟨rfl, hamid, happly, stored, _, hpartly.delete hexpired⟩
  | lost plan' progress candidates deleted ids rows' errorType hstage hrows =>
    unfold RetentionState.raised at hsound
    split at hsound <;> cases hsound
  | raised plan' errorType hplan hbegun =>
    unfold RetentionState.raised at hsound
    split at hsound <;> cases hsound
  | printed plan' results hstage =>
    rw [hstage] at h
    exact ⟨rfl, h.2⟩
  | failed plan' errorType now effect hstage => rw [hstage] at h; exact h.elim

/-- An undisturbed step of the script. -/
theorem Alone.next {a : RetentionAction} (h : Alone args plan before s)
    (hbatch : 1 ≤ args.batchSize) (ha : Undisturbed a)
    (hnext : (retentionSystem host args environment).next s a = some s') :
    ScriptStep args s s' ∧ s'.stage.sound = true ∧ Alone args plan before s' := by
  cases a with
  | prepare => exact ha.elim
  | others => exact ha.elim
  | statement now page outcome =>
    obtain rfl : outcome = .completes := ha
    have hsound := h.sound hnext
    exact ⟨.of_statement hnext, hsound, h.step hbatch (.of_statement hnext) hsound⟩

/-! ## Runs -/

/-- A batch has a row, and the plan is made of the arguments. -/
theorem prepare_eq_ok {holdNow now auditNow : Time}
    (h : prepare host args environment holdNow now auditNow = .ok plan) :
    1 ≤ args.batchSize ∧
      plan.tables = (if args.table = [] then retentionTargets.map Prod.fst else args.table) ∧
      plan.cutoff = now - seconds (args.days * 86400) ∧ (args.apply = true → args.table ≠ []) := by
  simp only [prepare, checkArguments, cutoffOf, bind_eq_ok, raiseIf_eq_ok, pure_eq_ok] at h
  obtain ⟨legalHold, ⟨_, hdays, _, hbatch, _, hconfirm, _, hnonempty, -⟩, url, hurl, _, hcredential,
    dialect, hdialect, cutoff, ⟨_, hrange, hcutoff⟩, _, haccess, hplan⟩ := h
  subst hplan hcutoff
  exact ⟨by omega, rfl, rfl, fun happly hempty => hnonempty ⟨happly, hempty⟩⟩

/-- The run of a script that nobody disturbs, from its plan on. -/
theorem alone_run {actions : List RetentionAction} (h : Alone args plan before s)
    (hbatch : 1 ≤ args.batchSize)
    (hrun : (retentionSystem host args environment).run s actions = some s')
    (hactions : ∀ a ∈ actions, Undisturbed a) : Alone args plan before s' := by
  induction actions generalizing s with
  | nil =>
    obtain rfl := Option.some.inj hrun
    exact h
  | cons a rest ih =>
    obtain ⟨s₁, hnext, hrest⟩ := System.run_cons_eq_some.mp hrun
    obtain ⟨-, -, halone⟩ := h.next hbatch (hactions a List.mem_cons_self) hnext
    exact ih halone hrest fun b hb => hactions b (List.mem_cons_of_mem a hb)

/-- A script that has exited does nothing. -/
theorem exited_run {actions : List RetentionAction} {code : Nat} (h : s.stage = .exited code)
    (hrun : (retentionSystem host args environment).run s actions = some s')
    (hactions : ∀ a ∈ actions, Undisturbed a) : actions = [] ∧ s' = s := by
  cases actions with
  | nil => exact ⟨rfl, (Option.some.inj hrun).symm⟩
  | cons a rest =>
    obtain ⟨s₁, hnext, -⟩ := System.run_cons_eq_some.mp hrun
    have ha := hactions a List.mem_cons_self
    cases a with
    | prepare => exact ha.elim
    | others => exact ha.elim
    | statement now page outcome =>
      simp only [retentionSystem, RetentionState.statement, h] at hnext
      cases hnext

/-- A run begins by making its plan, or exits. -/
theorem run_prepare {holdNow now auditNow : Time} {actions : List RetentionAction}
    (hstage : s.stage = .preparing)
    (hrun : (retentionSystem host args environment).run s (.prepare holdNow now auditNow :: actions) =
      some s') (hactions : ∀ a ∈ actions, Undisturbed a) :
    (∃ plan, prepare host args environment holdNow now auditNow = .ok plan ∧
        (retentionSystem host args environment).run (s.goTo (.opening plan)) actions = some s') ∨
      actions = [] ∧ s'.database = s.database ∧ ∃ code, code ≠ 0 ∧ s'.stage = .exited code := by
  obtain ⟨s₁, hnext, hrest⟩ := System.run_cons_eq_some.mp hrun
  simp only [retentionSystem, hstage] at hnext
  split at hnext
  · next plan hplan =>
    obtain rfl := Option.some.inj hnext
    exact Or.inl ⟨plan, hplan, hrest⟩
  · obtain rfl := Option.some.inj hnext
    obtain ⟨hnil, rfl⟩ := exited_run rfl hrest hactions
    exact Or.inr ⟨hnil, rfl, 2, by omega, rfl⟩
  · obtain rfl := Option.some.inj hnext
    obtain ⟨hnil, rfl⟩ := exited_run rfl hrest hactions
    exact Or.inr ⟨hnil, rfl, 1, by omega, rfl⟩

/-- The script purges the notifications and exits. -/
def purgingRun : List RetentionAction := notificationRun.tail ++ completingRun

def purgedEnd : RetentionState :=
  ((retentionSystem freeHost notificationArgs ⟨"", ""⟩).run notificationState
    (.prepare (seconds 8640000) (seconds 8640000) (seconds 8640000) :: purgingRun)).get
    (by decide +kernel)

/-- The run of the example, step by step. -/
theorem purgedEnd_run : (retentionSystem freeHost notificationArgs ⟨"", ""⟩).run notificationState
    (.prepare (seconds 8640000) (seconds 8640000) (seconds 8640000) :: purgingRun) = some purgedEnd :=
  (Option.some_get _).symm

/-- Nobody else writes in the example. -/
theorem undisturbed_purgingRun : ∀ a ∈ purgingRun, Undisturbed a := by
  simp [purgingRun, notificationRun, completingRun, Undisturbed]

/-- The rows of a table. -/
def rowsOf (db : StoredDatabase) (table : String) : Nat :=
  match db table with
  | some stored => stored.rows.rows.length
  | none => 0

/-- Two statements for each row of some tables, and three for each table. -/
def work (db : StoredDatabase) (tables : List String) : Nat :=
  (tables.map fun table => 2 * rowsOf db table + 3).sum

/-- No table takes no work. -/
@[simp] theorem work_nil (db : StoredDatabase) : work db [] = 0 := rfl

/-- A table takes two statements for each of its rows and three besides. -/
@[simp] theorem work_cons (db : StoredDatabase) (table : String) (tables : List String) :
    work db (table :: tables) = 2 * rowsOf db table + 3 + work db tables := List.sum_cons

/-- What is left to do, of a run that began with the database `before`. -/
def Stage.ahead (before : StoredDatabase) : Stage → Nat
  | .preparing | .exited _ => 0
  | .opening plan => work before plan.tables + 3
  | .inspecting _ todo _ => work before todo + 2
  | .counting _ progress => work before progress.todo + 2 * rowsOf before progress.table + 4
  | .selecting _ progress candidates deleted =>
    work before progress.todo + 2 * (candidates - deleted) + 3
  | .deleting _ progress candidates deleted _ =>
    work before progress.todo + 2 * (candidates - deleted) + 2
  | .printing _ _ | .failing _ _ => 1

/-- What is ahead of a run when it turns to a table. -/
theorem inspect_ahead :
    (s.inspect args plan progress).ahead before <
      work before (progress.table :: progress.todo) + 2 := by
  rw [work_cons]
  unfold RetentionState.inspect
  split
  · show work before progress.todo + 2 < _
    omega
  · split
    · show work before progress.todo + 2 < _
      omega
    · split
      · show work before progress.todo + 2 < _
        omega
      · show work before progress.todo + 2 * rowsOf before progress.table + 4 < _
        omega

/-- Each step leaves less to do. -/
theorem Alone.ahead_lt (h : Alone args plan before s) (hstep : ScriptStep args s s')
    (hsound : s'.stage.sound = true) : s'.stage.ahead before < s.stage.ahead before := by
  unfold Alone at h
  cases hstep with
  | opened plan' now hstage happly =>
    rw [hstage]
    show work before plan'.tables + 2 < work before plan'.tables + 3
    omega
  | notOpened plan' now effect hstage => cases hsound
  | reading plan' hstage happly =>
    rw [hstage]
    show work before plan'.tables + 2 < work before plan'.tables + 3
    omega
  | completed plan' results now hstage happly =>
    rw [hstage]
    show 1 < work before [] + 2
    rw [work_nil]
    omega
  | notCompleted plan' results now effect errorType hstage happly => cases hsound
  | read plan' results hstage happly =>
    rw [hstage]
    show 1 < work before [] + 2
    rw [work_nil]
    omega
  | inspected plan' table todo results hstage =>
    rw [hstage]
    exact inspect_ahead
  | counted plan' progress stage hstage hcount =>
    rw [hstage] at h ⊢
    obtain ⟨-, -, hdb, -⟩ := h
    obtain ⟨rows, hrows, rfl⟩ := Option.map_eq_some_iff.mp hcount
    obtain ⟨stored, hstored, rfl, -⟩ := StoredDatabase.of_rowsWith hrows
    rw [hdb] at hstored
    obtain ⟨old, hold, hlength⟩ := aim_length hstored
    have hcount : stored.rows.rowcount (expired progress.column plan'.cutoff) ≤
        stored.rows.rows.length := List.countP_le_length
    have hbound : stored.rows.rows.length ≤ rowsOf before progress.table := by
      unfold rowsOf
      rw [hold]
      exact hlength
    dsimp only
    split
    · show work before progress.todo +
        2 * (stored.rows.rowcount (expired progress.column plan'.cutoff) - 0) + 3 <
          work before progress.todo + 2 * rowsOf before progress.table + 4
      omega
    · show work before progress.todo + 2 <
        work before progress.todo + 2 * rowsOf before progress.table + 4
      omega
  | finished plan' progress candidates deleted hstage hdone =>
    rw [hstage]
    show work before progress.todo + 2 <
      work before progress.todo + 2 * (candidates - deleted) + 3
    omega
  | drained plan' progress candidates deleted rows hstage hrows hpage =>
    rw [hstage]
    show work before progress.todo + 2 <
      work before progress.todo + 2 * (candidates - deleted) + 3
    omega
  | selected plan' progress candidates deleted rows page hstage hrows hsome hpage =>
    rw [hstage]
    show work before progress.todo + 2 * (candidates - deleted) + 2 <
      work before progress.todo + 2 * (candidates - deleted) + 3
    omega
  | deleted plan' progress candidates deleted ids rows' hstage hrows =>
    rw [hstage] at h ⊢
    obtain ⟨-, -, -, stored, rows, hpartly, hexpired, hpos⟩ := h
    rw [hpartly.rowsWith (by simp), Option.some.injEq] at hrows
    subst hrows
    -- the batch counts, and what it counts was left
    have hleft := (hpartly.delete hexpired).left
    show work before progress.todo +
        2 * (candidates - (deleted + rows.rowcount fun row => row.id ∈ ids)) + 3 <
      work before progress.todo + 2 * (candidates - deleted) + 2
    omega
  | lost plan' progress candidates deleted ids rows' errorType hstage hrows =>
    unfold RetentionState.raised at hsound
    split at hsound <;> cases hsound
  | raised plan' errorType hplan hbegun =>
    unfold RetentionState.raised at hsound
    split at hsound <;> cases hsound
  | printed plan' results hstage =>
    rw [hstage]
    show 0 < 1
    omega
  | failed plan' errorType now effect hstage => rw [hstage] at h; exact h.elim

/-- Rows by a column, the ones without a value among the ones of 1970. -/
def byTimestamp (column : String) (a b : StoredRow) : Bool :=
  (a.timestamp column).getD 0 ≤ (b.timestamp column).getD 0

/-- Expired rows have a timestamp, and are in order by it. -/
theorem exists_page (rows : StoredRows) (column : String) (cutoff : Time) (limit : Nat) :
    ∃ page, rows.IsPage (expired column cutoff) (oldestFirst column) limit page := by
  have hstamp : ∀ row, expired column cutoff row = true → ∃ t, row.timestamp column = some t := by
    intro row hrow
    unfold expired at hrow
    split at hrow
    · next t ht => exact ⟨t, ht⟩
    · cases hrow
  have hle : ∀ a b, expired column cutoff a = true → expired column cutoff b = true →
      byTimestamp column a b = oldestFirst column a b := by
    intro a b ha hb
    obtain ⟨s, hs⟩ := hstamp a ha
    obtain ⟨t, ht⟩ := hstamp b hb
    unfold byTimestamp oldestFirst
    rw [hs, ht]
    rfl
  refine rows.exists_isPage limit hle ?_ ?_
  · intro a b c hab hbc
    exact decide_eq_true (le_trans (of_decide_eq_true hab) (of_decide_eq_true hbc))
  · intro a b
    exact Bool.or_eq_true_iff.mpr
      ((le_total _ _).imp (fun h => decide_eq_true h) fun h => decide_eq_true h)

/-- A script that is alone and has not exited can go on. -/
theorem Alone.goes_on (h : Alone args plan before s)
    (hexit : ∀ code, s.stage ≠ .exited code) :
    ∃ a s', Undisturbed a ∧ (retentionSystem host args environment).next s a = some s' := by
  suffices hnext : ∃ now page s', s.statement args now page .completes = some s' by
    obtain ⟨now, page, s', hs'⟩ := hnext
    exact ⟨.statement now page .completes, s', rfl, hs'⟩
  refine ⟨0, ?_⟩
  unfold Alone at h
  unfold RetentionState.statement
  cases hstage : s.stage with
  | preparing => rw [hstage] at h; exact h.elim
  | failing => rw [hstage] at h; exact h.elim
  | exited code => exact absurd hstage (hexit code)
  | opening plan' =>
    refine ⟨[], ?_⟩
    dsimp only
    split <;> exact ⟨_, rfl⟩
  | inspecting plan' todo results =>
    refine ⟨[], ?_⟩
    cases todo with
    | nil =>
      dsimp only
      split <;> exact ⟨_, rfl⟩
    | cons table todo => exact ⟨_, rfl⟩
  | counting plan' progress => exact ⟨[], _, rfl⟩
  | selecting plan' progress candidates deleted =>
    rw [hstage] at h
    obtain ⟨-, -, -, stored, rows, hpartly⟩ := h
    obtain ⟨page, hpage⟩ := exists_page rows progress.column plan'.cutoff
      (min args.batchSize.toNat (candidates - deleted))
    refine ⟨page, ?_⟩
    dsimp only
    split
    · exact ⟨_, rfl⟩
    · rw [hpartly.rowsWith (by simp)]
      exact ⟨_, if_pos hpage⟩
  | deleting plan' progress candidates deleted ids =>
    rw [hstage] at h
    obtain ⟨-, -, -, stored, rows, hpartly, -⟩ := h
    refine ⟨[], ?_⟩
    dsimp only
    rw [hpartly.rowsWith (by simp)]
    exact ⟨_, rfl⟩
  | printing plan' results => exact ⟨[], _, rfl⟩

/-- Every statement of a run is paid for by what is left to do. -/
theorem ahead_run {actions : List RetentionAction} (h : Alone args plan before s)
    (hbatch : 1 ≤ args.batchSize)
    (hrun : (retentionSystem host args environment).run s actions = some s')
    (hactions : ∀ a ∈ actions, Undisturbed a) :
    actions.length + s'.stage.ahead before ≤ s.stage.ahead before := by
  induction actions generalizing s with
  | nil =>
    obtain rfl := Option.some.inj hrun
    exact le_of_eq (Nat.zero_add _)
  | cons a rest ih =>
    obtain ⟨s₁, hnext, hrest⟩ := System.run_cons_eq_some.mp hrun
    obtain ⟨hstep, hsound, halone⟩ := h.next hbatch (hactions a List.mem_cons_self) hnext
    have hlt := h.ahead_lt hstep hsound
    have hle := ih halone hrest fun b hb => hactions b (List.mem_cons_of_mem a hb)
    rw [List.length_cons]
    omega

/-- The tables a run works on: the ones asked for, or all targets. -/
def RetentionArgs.tables (args : RetentionArgs) : List String :=
  if args.table = [] then retentionTargets.map Prod.fst else args.table

/-- **The end.** A run that nobody disturbs has no more statements than two for each row of its
tables, three for each table and three more, and where it cannot go on the script has exited. -/
theorem alone_ends {holdNow now auditNow : Time} {actions : List RetentionAction}
    (hstart : (retentionSystem host args environment).init s)
    (hrun : (retentionSystem host args environment).run s (.prepare holdNow now auditNow :: actions) =
      some s') (hactions : ∀ a ∈ actions, Undisturbed a) :
    actions.length ≤ work s.database args.tables + 3 ∧
      ((∀ a, Undisturbed a → (retentionSystem host args environment).next s' a = none) →
        ∃ code, s'.stage = .exited code) := by
  rcases run_prepare hstart.1 hrun hactions with ⟨plan, hplan, hrest⟩ | ⟨rfl, -, code, -, hexit⟩
  · obtain ⟨hbatch, hlist, -⟩ := prepare_eq_ok hplan
    have hbegin : Alone args plan s.database (s.goTo (.opening plan)) := ⟨rfl, rfl⟩
    constructor
    · have hle := ahead_run hbegin hbatch hrest hactions
      rw [RetentionArgs.tables, ← hlist]
      exact le_trans (Nat.le_add_right _ _) hle
    · intro hstuck
      by_contra hno
      obtain ⟨a, s'', ha, hnext⟩ := (alone_run hbegin hbatch hrest hactions).goes_on
        fun code hcode => hno ⟨code, hcode⟩
      rw [hstuck a ha] at hnext
      cases hnext
  · exact ⟨Nat.zero_le _, fun _ => ⟨code, hexit⟩⟩

/-- The example ends within its bound. -/
theorem alone_ends_notification :
    purgingRun.length ≤ work notificationState.database notificationArgs.tables + 3 ∧
      work notificationState.database notificationArgs.tables = 7 :=
  ⟨(alone_ends notificationState_start purgedEnd_run undisturbed_purgingRun).1, by decide⟩

end DeployGuard.Operations
