import DeployGuard.Operations.Deletion
import Mathlib.Data.List.Perm.Subperm

/-!
# The deletion audit

The results the retention script prints and audits, counted against the rows it has deleted.
`Tally` is the count at every stage; a table's deletions are its reports so far and, for the
table the script is at, what its loop has counted.

> `audit_accounts`: a completed audit has the tables it was begun for, and its counts are what
was deleted; nothing is deleted after it, and a run that succeeds leaves two lines.
-/

namespace DeployGuard.Operations

open Transition

variable {host : RetentionHost} {args : RetentionArgs} {environment : RetentionEnvironment}
  {s s' : RetentionState}

/-- The rows deleted from a table. -/
def deletedFrom (deleted : List (String × StoredRow)) (table : String) : Nat :=
  deleted.countP fun entry => entry.1 = table

/-- The deletions the reports of a table add up to; a table may be asked for twice. -/
def reportedFrom (results : List TableReport) (table : String) : Nat :=
  ((results.filter fun report => report.table = table).map TableReport.deletedRows).sum

/-- The reports so far, the tables ahead and the deletions of the table in between. -/
structure Tally (plan : Plan) (deleted : List (String × StoredRow)) (results : List TableReport)
    (ahead : List String) (current : String → Nat) : Prop where
  tables : results.map TableReport.table ++ ahead = plan.tables
  rows : ∀ table, deletedFrom deleted table = reportedFrom results table + current table
  bounded : ∀ report ∈ results, report.deletedRows ≤ report.candidateRows

/-- The deletions of one table. -/
def only (table : String) (n : Nat) : String → Nat := fun t => if t = table then n else 0

/-- The audit of a run that has not come to its end. -/
def OpenLog (args : RetentionArgs) (log : List AuditLine) (plan : Plan) : Prop :=
  args.apply = false ∧ log = [] ∨ args.apply = true ∧ ∃ now, log =
    [.started plan.auditId (Text.strip args.operator) plan.cutoff plan.tables now]

/-- A completed audit has the tables it was begun for, and counts what was deleted. -/
def Balanced (log : List AuditLine) (deleted : List (String × StoredRow)) : Prop :=
  ∀ auditId operator cutoff results timestamp,
    .completed auditId operator cutoff results timestamp ∈ log →
    (∃ now, .started auditId operator cutoff (results.map TableReport.table) now ∈ log) ∧
      (∀ table, deletedFrom deleted table = reportedFrom results table) ∧
      ∀ report ∈ results, report.deletedRows ≤ report.candidateRows

/-- The audit of a run that has come to its end well. -/
def ClosedLog (args : RetentionArgs) (log : List AuditLine) : Prop :=
  args.apply = true → ∃ auditId cutoff results begun ended,
    log = [.started auditId (Text.strip args.operator) cutoff (results.map TableReport.table) begun,
      .completed auditId (Text.strip args.operator) cutoff results ended]

/-- What adds up at each stage. -/
def StageAccounts (args : RetentionArgs) (s : RetentionState) : Prop :=
  match s.stage with
  | .preparing | .opening _ => s.log = [] ∧ s.deleted = []
  | .inspecting plan todo results =>
    OpenLog args s.log plan ∧ Tally plan s.deleted results todo fun _ => 0
  | .counting plan progress => OpenLog args s.log plan ∧
    Tally plan s.deleted progress.results (progress.table :: progress.todo) fun _ => 0
  | .selecting plan progress candidates deleted => OpenLog args s.log plan ∧
    Tally plan s.deleted progress.results (progress.table :: progress.todo)
      (only progress.table deleted) ∧ deleted ≤ candidates
  | .deleting plan progress candidates deleted ids => OpenLog args s.log plan ∧
    Tally plan s.deleted progress.results (progress.table :: progress.todo)
      (only progress.table deleted) ∧ deleted + ids.length ≤ candidates ∧
      ids.length ≤ args.batchSize.toNat
  | .printing _ _ => Balanced s.log s.deleted ∧ ClosedLog args s.log
  | .failing _ _ => Balanced s.log s.deleted
  | .exited code => Balanced s.log s.deleted ∧ (code = 0 → ClosedLog args s.log)

theorem reportedFrom_append (results : List TableReport) (report : TableReport) (table : String) :
    reportedFrom (results ++ [report]) table =
      reportedFrom results table + only report.table report.deletedRows table := by
  unfold reportedFrom only
  rw [List.filter_append, List.map_append, List.sum_append]
  by_cases htable : report.table = table
  · simp [htable]
  · simp [htable, Ne.symm htable]

theorem deletedFrom_append (deleted : List (String × StoredRow)) (rows : List StoredRow)
    (table t : String) :
    deletedFrom (deleted ++ rows.map fun row => (table, row)) t =
      deletedFrom deleted t + only table rows.length t := by
  unfold deletedFrom only
  rw [List.countP_append, List.countP_map]
  by_cases ht : t = table
  · subst ht
    simp [Function.comp_def]
  · simp [Function.comp_def, ht, Ne.symm ht]

/-- The rows of a list of identifiers are no more than the identifiers. -/
theorem rowcount_le (rows : StoredRows) (ids : List String) :
    (rows.rowcount fun row => row.id ∈ ids) ≤ ids.length := by
  have hlength : (rows.rowcount fun row => row.id ∈ ids) =
      ((rows.select fun row => row.id ∈ ids).map StoredRow.id).length := by
    rw [List.length_map, Table.select, Table.rowcount, List.countP_eq_length_filter]
  have hnodup : ((rows.select fun row => row.id ∈ ids).map StoredRow.id).Nodup :=
    rows.nodup.sublist (List.filter_sublist.map _)
  rw [hlength]
  refine (List.subperm_of_subset hnodup fun id hid => ?_).length_le
  obtain ⟨row, hrow, rfl⟩ := List.mem_map.mp hid
  exact of_decide_eq_true (Table.mem_select.mp hrow).2

section Tallies

variable {plan : Plan} {progress : Progress} {deleted : List (String × StoredRow)}
  {candidates n : Nat}

/-- A report closes the count of its table. -/
theorem Tally.reported (h : Tally plan deleted progress.results (progress.table :: progress.todo)
      (only progress.table n)) (state : ReportState) (hn : n ≤ candidates) :
    Tally plan deleted
      (progress.results ++ [⟨progress.table, progress.column, state, candidates, n⟩])
      progress.todo fun _ => 0 where
  tables := by
    rw [← h.tables, List.map_append]
    simp
  rows table := by rw [reportedFrom_append, h.rows table, Nat.add_zero]
  bounded report hreport := by
    rcases List.mem_append.mp hreport with hold | hnew
    · exact h.bounded report hold
    · rw [List.mem_singleton.mp hnew]
      exact hn

theorem Tally.of_zero {results : List TableReport} {ahead : List String} {table : String}
    (h : Tally plan deleted results ahead fun _ => 0) :
    Tally plan deleted results ahead (only table 0) := by
  refine ⟨h.tables, fun t => ?_, h.bounded⟩
  rw [h.rows t, only, ite_self]

/-- A batch is added to the count of its table. -/
theorem Tally.delete {results : List TableReport} {ahead : List String} {table : String}
    {rows : List StoredRow} (h : Tally plan deleted results ahead (only table n)) :
    Tally plan (deleted ++ rows.map fun row => (table, row)) results ahead
      (only table (n + rows.length)) := by
  refine ⟨h.tables, fun t => ?_, h.bounded⟩
  rw [deletedFrom_append, h.rows t]
  unfold only
  split <;> omega

/-- A completed audit is balanced if its results add up. -/
theorem Tally.balanced {results : List TableReport} {now : Time} {log : List AuditLine}
    (h : Tally plan deleted results [] fun _ => 0) (happly : args.apply = true)
    (hlog : OpenLog args log plan) :
    Balanced (log ++ [.completed plan.auditId (Text.strip args.operator) plan.cutoff results now])
        deleted ∧
      ClosedLog args
        (log ++ [.completed plan.auditId (Text.strip args.operator) plan.cutoff results now]) := by
  rcases hlog with ⟨hno, -⟩ | ⟨-, begun, rfl⟩
  · rw [happly] at hno
    cases hno
  · have htables : results.map TableReport.table = plan.tables := by
      rw [← h.tables, List.append_nil]
    refine ⟨fun auditId operator cutoff results' timestamp hline => ?_, fun _ => ?_⟩
    · simp only [List.cons_append, List.nil_append, List.mem_cons, List.not_mem_nil, or_false,
        reduceCtorEq, false_or, AuditLine.completed.injEq] at hline
      obtain ⟨rfl, rfl, rfl, rfl, rfl⟩ := hline
      refine ⟨⟨begun, ?_⟩, fun table => by rw [h.rows table, Nat.add_zero], h.bounded⟩
      rw [htables]
      exact List.mem_cons_self
    · exact ⟨plan.auditId, plan.cutoff, results, begun, now, by rw [htables]; rfl⟩

end Tallies

/-- An audit that is not completed is balanced. -/
theorem OpenLog.balanced {log : List AuditLine} {plan : Plan} (h : OpenLog args log plan)
    (deleted : List (String × StoredRow)) : Balanced log deleted := by
  intro auditId operator cutoff results timestamp hline
  rcases h with ⟨-, rfl⟩ | ⟨-, now, rfl⟩
  · cases hline
  · cases List.mem_singleton.mp hline

/-- Nothing has been audited. -/
theorem balanced_nil (deleted : List (String × StoredRow)) : Balanced [] deleted := by
  intro auditId operator cutoff results timestamp hline
  cases hline

theorem Balanced.append {log : List AuditLine} {deleted : List (String × StoredRow)}
    {auditId operator errorType : String} {timestamp : Time} (h : Balanced log deleted) :
    Balanced (log ++ [.failed auditId operator errorType timestamp]) deleted := by
  intro auditId' operator' cutoff results timestamp' hline
  rcases List.mem_append.mp hline with hold | hnew
  · obtain ⟨⟨now, hnow⟩, hrest⟩ := h _ _ _ _ _ hold
    exact ⟨⟨now, List.mem_append_left _ hnow⟩, hrest⟩
  · cases List.mem_singleton.mp hnew

/-! ## Steps -/

/-- Where a run has not completed its audit, leaving it open is in balance. -/
theorem StageAccounts.balanced {plan : Plan} (h : StageAccounts args s)
    (hplan : s.stage.plan = some plan) (hbegun : s.stage.begun = true) :
    Balanced s.log s.deleted := by
  unfold StageAccounts at h
  cases hstage : s.stage with
  | preparing => rw [hstage] at hplan; cases hplan
  | exited code => rw [hstage] at hplan; cases hplan
  | opening => rw [hstage] at hbegun; cases hbegun
  | inspecting => rw [hstage] at h; exact h.1.balanced _
  | counting => rw [hstage] at h; exact h.1.balanced _
  | selecting => rw [hstage] at h; exact h.1.balanced _
  | deleting => rw [hstage] at h; exact h.1.balanced _
  | printing => rw [hstage] at h; exact h.1
  | failing => rw [hstage] at h; exact h

/-- A run that raises does not succeed. -/
theorem StageAccounts.raised {plan : Plan} {errorType : String} {state : RetentionState}
    (h : Balanced state.log state.deleted) :
    StageAccounts args (state.raised args plan errorType) := by
  unfold RetentionState.raised
  split
  · exact h
  · exact ⟨h, nofun⟩

theorem StageAccounts.step (h : StageAccounts args s) (hstep : ScriptStep args s s') :
    StageAccounts args s' := by
  have hok := h
  unfold StageAccounts at hok
  cases hstep with
  | opened plan now hstage happly =>
    rw [hstage] at hok
    refine ⟨Or.inr ⟨happly, now, ?_⟩, ⟨rfl, fun table => ?_, nofun⟩⟩
    · show s.log ++ _ = _
      rw [hok.1, List.nil_append]
    · show deletedFrom s.deleted table = _
      rw [hok.2]
      rfl
  | notOpened plan now effect hstage =>
    rw [hstage] at hok
    cases effect with
    | true =>
      refine ⟨fun auditId operator cutoff results timestamp hline => ?_, nofun⟩
      have hline' : AuditLine.completed auditId operator cutoff results timestamp ∈ s.log ++ _ :=
        hline
      rw [hok.1] at hline'
      cases List.mem_singleton.mp hline'
    | false =>
      refine ⟨fun auditId operator cutoff results timestamp hline => ?_, nofun⟩
      have hline' : AuditLine.completed auditId operator cutoff results timestamp ∈ s.log := hline
      rw [hok.1] at hline'
      cases hline'
  | reading plan hstage happly =>
    rw [hstage] at hok
    refine ⟨Or.inl ⟨happly, hok.1⟩, ⟨rfl, fun table => ?_, nofun⟩⟩
    show deletedFrom s.deleted table = _
    rw [hok.2]
    rfl
  | completed plan results now hstage happly =>
    rw [hstage] at hok
    exact hok.2.balanced happly hok.1
  | notCompleted plan results now effect errorType hstage happly =>
    rw [hstage] at hok
    cases effect with
    | true => exact (hok.2.balanced happly hok.1).1
    | false => exact hok.1.balanced _
  | read plan results hstage happly =>
    rw [hstage] at hok
    refine ⟨hok.1.balanced _, fun hap => ?_⟩
    rw [happly] at hap
    cases hap
  | inspected plan table todo results hstage =>
    rw [hstage] at hok
    obtain ⟨hlog, htally⟩ := hok
    unfold RetentionState.inspect
    split
    · exact ⟨hlog, htally.of_zero.reported .missing le_rfl⟩
    · split
      · exact ⟨hlog, htally.of_zero.reported .missingColumn le_rfl⟩
      · split
        · exact ⟨hlog, htally.of_zero.reported .missingPrimaryKey le_rfl⟩
        · exact ⟨hlog, htally⟩
  | counted plan progress stage hstage hcount =>
    rw [hstage] at hok
    obtain ⟨hlog, htally⟩ := hok
    obtain ⟨rows, -, rfl⟩ := Option.map_eq_some_iff.mp hcount
    dsimp only
    split
    · exact ⟨hlog, htally.of_zero, Nat.zero_le _⟩
    · exact ⟨hlog, htally.of_zero.reported .processed (Nat.zero_le _)⟩
  | finished plan progress candidates deleted hstage hdone =>
    rw [hstage] at hok
    exact ⟨hok.1, hok.2.1.reported .processed hok.2.2⟩
  | drained plan progress candidates deleted rows hstage hrows hpage =>
    rw [hstage] at hok
    exact ⟨hok.1, hok.2.1.reported .processed hok.2.2⟩
  | selected plan progress candidates deleted rows page hstage hrows hsome hpage =>
    rw [hstage] at hok
    obtain ⟨hlog, htally, hle⟩ := hok
    -- the limit of the page is what is left to delete, and one batch at most
    have hlength : page.length ≤ min args.batchSize.toNat (candidates - deleted) := by
      rw [hpage.2.2.2.1]
      exact Nat.min_le_left _ _
    refine ⟨hlog, htally, ?_, ?_⟩
    · rw [List.length_map]
      omega
    · rw [List.length_map]
      omega
  | deleted plan progress candidates deleted ids rows hstage hrows =>
    rw [hstage] at hok
    obtain ⟨hlog, htally, hle, -⟩ := hok
    have hrowcount := rowcount_le rows ids
    have hlength : (rows.rowcount fun row => row.id ∈ ids) =
        (rows.select fun row => row.id ∈ ids).length := by
      rw [Table.select, Table.rowcount, List.countP_eq_length_filter]
    refine ⟨hlog, ?_, by omega⟩
    rw [hlength]
    exact htally.delete
  | lost plan progress candidates deleted ids rows errorType hstage hrows =>
    rw [hstage] at hok
    exact .raised (hok.1.balanced _)
  | raised plan errorType hplan hbegun => exact .raised (h.balanced hplan hbegun)
  | printed plan results hstage =>
    rw [hstage] at hok
    exact ⟨hok.1, fun _ => hok.2⟩
  | failed plan errorType now effect hstage =>
    rw [hstage] at hok
    cases effect with
    | true => exact ⟨hok.append, nofun⟩
    | false => exact ⟨hok, nofun⟩

theorem accounts_invariant (host : RetentionHost) (args : RetentionArgs)
    (environment : RetentionEnvironment) (C : RetentionState → RetentionAction → Prop) :
    Invariant (retentionSystem host args environment) C (StageAccounts args) where
  init s h := by
    unfold StageAccounts
    rw [h.1]
    exact ⟨h.2.1, h.2.2.1⟩
  step s a s' h _ hnext := by
    cases a with
    | prepare holdNow now auditNow =>
      have hok := h
      unfold StageAccounts at hok
      simp only [retentionSystem] at hnext
      split at hnext
      · next hstage =>
        rw [hstage] at hok
        have hbalanced : Balanced s.log s.deleted := by
          rw [hok.1]
          exact balanced_nil _
        split at hnext
        · obtain rfl := Option.some.inj hnext
          exact hok
        · obtain rfl := Option.some.inj hnext
          exact ⟨hbalanced, fun hcode => absurd hcode (by omega)⟩
        · obtain rfl := Option.some.inj hnext
          exact ⟨hbalanced, fun hcode => absurd hcode (by omega)⟩
      · cases hnext
    | statement now page outcome => exact h.step (ScriptStep.of_statement hnext)
    | others database =>
      obtain rfl := Option.some.inj hnext
      exact h

/-- The lines of a run count what was deleted. -/
theorem StageAccounts.all_balanced (h : StageAccounts args s) : Balanced s.log s.deleted := by
  have hok := h
  unfold StageAccounts at hok
  cases hstage : s.stage with
  | preparing =>
    rw [hstage] at hok
    rw [hok.1]
    exact balanced_nil _
  | opening plan =>
    rw [hstage] at hok
    rw [hok.1]
    exact balanced_nil _
  | exited code =>
    rw [hstage] at hok
    exact hok.1
  | _ => exact h.balanced (by rw [hstage]; rfl) (by rw [hstage]; rfl)

/-- **The audit.** Whatever other sessions do and whatever raises: a completed audit has the
tables that were announced before, its counts are the rows that were deleted, table by table,
and no table lost more rows than its candidates. A run that succeeds leaves two lines. -/
theorem audit_accounts (h : Reachable (retentionSystem host args environment) s) :
    Balanced s.log s.deleted ∧ (s.stage = .exited 0 → ClosedLog args s.log) := by
  have haccounts := (accounts_invariant host args environment _).reachable h
  refine ⟨haccounts.all_balanced, fun hstage => ?_⟩
  unfold StageAccounts at haccounts
  rw [hstage] at haccounts
  exact haccounts.2 rfl

/-- The notification is gone; the script counts it, completes its audit and prints. -/
def completingRun : List RetentionAction :=
  [.statement (seconds 8640006) [] .completes, .statement (seconds 8640007) [] .completes,
    .statement (seconds 8640008) [] .completes]

def completedEnd : RetentionState :=
  ((retentionSystem freeHost notificationArgs ⟨"", ""⟩).run notificationEnd completingRun).get
    (by decide +kernel)

theorem audit_accounts_completed :
    ClosedLog notificationArgs completedEnd.log ∧
      Balanced completedEnd.log [("notifications", notificationRow "a" (seconds 10))] := by
  have hreach : Reachable (retentionSystem freeHost notificationArgs ⟨"", ""⟩) completedEnd :=
    .of_run (.of_run (.init notificationState_start) (Option.some_get _).symm)
      (Option.some_get _).symm
  have hstage : completedEnd.stage = .exited 0 := by decide +kernel
  have hdeleted : completedEnd.deleted = [("notifications", notificationRow "a" (seconds 10))] := by
    decide +kernel
  rw [← hdeleted]
  exact ⟨(audit_accounts hreach).2 hstage, (audit_accounts hreach).1⟩

end DeployGuard.Operations
