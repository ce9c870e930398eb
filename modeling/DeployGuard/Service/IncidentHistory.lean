import DeployGuard.Lib.Transition
import DeployGuard.Service.Incidents

/-!
# The history of an incident

`update_incident_lifecycle`, `add_incident_note` and `submit_feedback`, one call after
another, on any incident:

> `Advances`: the rank of the status does not fall, the timeline grows at its end, the
> resolution is dated as long as it was, and a resolved incident keeps its status,
> severity, assignee and date.

Every call advances the incident (`IncidentCall.advances`), so every run does
(`incident_advances`). That a call which raises has changed nothing is another matter:
an answer is built after the commit, and the documents it shows are free texts.
`raised_unchanged_iff` says for which calls it holds, and `incident_lifecycle_kept` puts
the two together for the runs of such calls.
-/

namespace DeployGuard.Service

open Interleaving Transition

/-! ## Runs -/

inductive IncidentCall where
  | updateIncidentLifecycle (q : UpdateIncidentLifecycle)
  | addIncidentNote (q : AddIncidentNote)
  | submitFeedback (q : SubmitFeedback)

/-- How a call went: the database before, whether it raised, and the database after. -/
structure CallRecord where
  before : Database
  raised : Bool
  after : Database

/-- The database, and the calls that led to it, the last one first. -/
structure IncidentHistory where
  database : Database
  calls : List CallRecord

def CallRecord.of {α : Type} (call : ServiceCall α) (d : Database) : CallRecord where
  before := d
  raised := (call.run d).1.toOption.isNone
  after := (call.run d).2

def IncidentCall.record (host : IncidentHost) : IncidentCall → Database → CallRecord
  | .updateIncidentLifecycle q => .of (Service.updateIncidentLifecycle host q)
  | .addIncidentNote q => .of (Service.addIncidentNote host q)
  | .submitFeedback q => .of (Service.submitFeedback host q)

/-- A call's record begins with the database it found. -/
theorem IncidentCall.record_before (host : IncidentHost) (call : IncidentCall) (d : Database) :
    (call.record host d).before = d := by
  cases call <;> rfl

/-- The date of the resolution is set exactly if the incident is resolved. -/
def ResolutionDated (host : IncidentHost) (row : IncidentRecord) : Prop :=
  row.resolvedAt.isSome ↔ IsResolved host row

/-- Calls in any order, on a database where the incident, if there, is dated. -/
def incidentSystem (host : IncidentHost) (id : String) : System IncidentHistory IncidentCall where
  init h := h.calls = [] ∧
    ∀ row, h.database.incidents.get? id = some row → ResolutionDated host row
  next h call :=
    let record := call.record host h.database
    some ⟨record.after, record :: h.calls⟩

/-! ## What a call may do to an incident -/

structure Advances (host : IncidentHost) (row row' : IncidentRecord) : Prop where
  rank : ∀ status, normalizeIncidentStatus host.toHost row.status = .ok status →
    ∃ status', normalizeIncidentStatus host.toHost row'.status = .ok status' ∧
      status.order ≤ status'.order
  timeline : row.timeline <+: row'.timeline
  dated : ResolutionDated host row → ResolutionDated host row'
  final : IsResolved host row → row'.status = row.status ∧ row'.severity = row.severity ∧
    row'.assigneeUserId = row.assigneeUserId ∧ row'.resolvedAt = row.resolvedAt

section Advances

variable {host : IncidentHost} {d : Database} {row row' row'' : IncidentRecord} {id : String}

/-- Where the columns of the lifecycle stay, the timeline is all there is to see. -/
theorem Advances.of_same (hstatus : row'.status = row.status)
    (hseverity : row'.severity = row.severity)
    (hassignee : row'.assigneeUserId = row.assigneeUserId)
    (hresolved : row'.resolvedAt = row.resolvedAt) (htimeline : row.timeline <+: row'.timeline) :
    Advances host row row' where
  rank status h := ⟨status, by rw [hstatus, h], le_refl _⟩
  timeline := htimeline
  dated h := by
    unfold ResolutionDated IsResolved
    rw [hstatus, hresolved]
    exact h
  final _ := ⟨hstatus, hseverity, hassignee, hresolved⟩

/-- A row that is left alone advances. -/
theorem Advances.refl (row : IncidentRecord) : Advances host row row :=
  .of_same rfl rfl rfl rfl (List.prefix_refl _)

/-- Advancing is transitive. -/
theorem Advances.trans (h : Advances host row row') (h' : Advances host row' row'') :
    Advances host row row'' where
  rank status hstatus := by
    obtain ⟨status', hstatus', hle⟩ := h.rank status hstatus
    obtain ⟨status'', hstatus'', hle'⟩ := h'.rank status' hstatus'
    exact ⟨status'', hstatus'', le_trans hle hle'⟩
  timeline := h.timeline.trans h'.timeline
  dated hdated := h'.dated (h.dated hdated)
  final hresolved := by
    obtain ⟨hstatus, hseverity, hassignee, hdate⟩ := h.final hresolved
    have hresolved' : IsResolved host row' := by
      unfold IsResolved
      rw [hstatus]
      exact hresolved
    obtain ⟨hstatus', hseverity', hassignee', hdate'⟩ := h'.final hresolved'
    exact ⟨hstatus'.trans hstatus, hseverity'.trans hseverity, hassignee'.trans hassignee,
      hdate'.trans hdate⟩

/-- An edit that passed the checks. -/
theorem UpdateIncidentLifecycle.advances {q : UpdateIncidentLifecycle} {edit : LifecycleChange}
    (h : q.edit host row d = .ok edit) :
    Advances host row (columns (q.edited host edit) row) := by
  obtain ⟨hpasses, hedited⟩ := edit_ok h
  obtain ⟨current, hcurrent, hunresolved, -⟩ := hpasses.status
  have hopen : ¬IsResolved host row := by
    intro hresolved
    exact hunresolved (Except.ok.inj (hcurrent.symm.trans hresolved))
  have htimeline : row.timeline <+: (columns (q.edited host edit) row).timeline := by
    show row.timeline <+: edit.record.timeline ++ _
    rw [hedited.timeline]
    exact List.prefix_append _ _
  rcases hedited.status with ⟨hstatus, hdate⟩ | ⟨before, status, hbefore, hlt, -, hstatus, hdate⟩
  · refine ⟨fun s hs => ⟨s, ?_, le_refl _⟩, htimeline, fun hdated => ?_, fun hresolved =>
      absurd hresolved hopen⟩
    · show normalizeIncidentStatus host.toHost edit.record.status = .ok s
      rw [hstatus, hs]
    · show edit.record.resolvedAt.isSome ↔
        normalizeIncidentStatus host.toHost edit.record.status = .ok .resolved
      rw [hstatus, hdate]
      exact hdated
  · have hread : normalizeIncidentStatus host.toHost edit.record.status = .ok status := by
      rw [hstatus, normalizeIncidentStatus_text]
    refine ⟨fun s hs => ⟨status, hread, ?_⟩, htimeline, fun hdated => ?_, fun hresolved =>
      absurd hresolved hopen⟩
    · obtain rfl := Except.ok.inj (hbefore.symm.trans hs)
      exact le_of_lt hlt
    · show edit.record.resolvedAt.isSome ↔
        normalizeIncidentStatus host.toHost edit.record.status = .ok .resolved
      rw [hread, hdate]
      by_cases hend : status = .resolved
      · simp [hend]
      · have hundated : row.resolvedAt.isSome = false := by
          simpa using fun hsome => hopen (hdated.mp hsome)
        simp [hend, hundated]

/-- The incident is still there and has advanced, or was never there. -/
structure Kept (host : IncidentHost) (id : String) (d d' : Database) : Prop where
  here : ∀ row, d.incidents.get? id = some row →
    ∃ row', d'.incidents.get? id = some row' ∧ Advances host row row'
  missing : d.incidents.get? id = none → d'.incidents.get? id = none

/-- Doing nothing keeps the incident. -/
theorem Kept.refl (d : Database) : Kept host id d d :=
  ⟨fun row hrow => ⟨row, hrow, .refl row⟩, fun hnone => hnone⟩

/-- Keeping is transitive. -/
theorem Kept.trans {d' d'' : Database} (h : Kept host id d d') (h' : Kept host id d' d'') :
    Kept host id d d'' := by
  refine ⟨fun row hrow => ?_, fun hnone => h'.missing (h.missing hnone)⟩
  obtain ⟨row', hrow', hadvances⟩ := h.here row hrow
  obtain ⟨row'', hrow'', hadvances'⟩ := h'.here row' hrow'
  exact ⟨row'', hrow'', hadvances.trans hadvances'⟩

/-- Writing one incident keeps them all, if that one advances. -/
theorem Kept.of_write {d' : Database} {record : IncidentRecord} {f : IncidentRecord → IncidentRecord}
    {p : Prop} [Decidable p] (hrecord : d.incidents.get? record.id = some record)
    (hget : d'.incidents.get? id = (d.incidents.get? id).map fun row =>
      if id = record.id ∧ p then f row else row)
    (hadvances : Advances host record (f record)) : Kept host id d d' := by
  refine ⟨fun row hrow => ?_, fun hnone => by rw [hget, hnone, Option.map_none]⟩
  rw [hget, hrow, Option.map_some]
  refine ⟨_, rfl, ?_⟩
  by_cases hwritten : id = record.id ∧ p
  · rw [if_pos hwritten]
    rw [hwritten.1, hrecord] at hrow
    exact Option.some.inj hrow ▸ hadvances
  · rw [if_neg hwritten]
    exact .refl row

/-- A lifecycle edit keeps what may not change. -/
theorem UpdateIncidentLifecycle.kept (q : UpdateIncidentLifecycle) :
    Kept host id d ((updateIncidentLifecycle host q).run d).2 := by
  rcases updateIncidentLifecycle_run host q d with ⟨-, e, hrun⟩ | ⟨record, edit, hload, hedit, hrun⟩
  · rw [hrun]
    exact .refl d
  · rw [hrun]
    by_cases hnil : edit.changes = []
    · rw [if_pos hnil]
      exact .refl d
    · rw [if_neg hnil]
      have hid := (edit_ok hedit).2.id
      have hrecord := load_ok hload
      rw [← Table.key_of_get? hrecord] at hrecord
      exact Kept.of_write (p := True) hrecord (by simp only [get?_save, hid, and_true])
        (UpdateIncidentLifecycle.advances hedit)

/-- A note keeps it. -/
theorem AddIncidentNote.kept (q : AddIncidentNote) :
    Kept host id d ((addIncidentNote host q).run d).2 := by
  rcases addIncidentNote_run host q d with ⟨e, hrun⟩ | ⟨record, event, hload, hrun⟩
  · rw [hrun]
    exact .refl d
  · rw [hrun]
    have hrecord := load_ok hload
    rw [← Table.key_of_get? hrecord] at hrecord
    exact Kept.of_write (p := True) (f := setTimeline (record.timeline ++ [q.entry host])) hrecord
      (by simp only [get?_save, and_true]) (.of_same rfl rfl rfl rfl (List.prefix_append _ _))

/-- Feedback keeps it. -/
theorem SubmitFeedback.kept (q : SubmitFeedback) :
    Kept host id d ((submitFeedback host q).run d).2 := by
  rcases submitFeedback_run host q d with ⟨e, hrun⟩ | ⟨incident, d', hload, hsave, hrun⟩
  · rw [hrun]
    exact .refl d
  · rw [hrun]
    have hrecord := (load_ok hload).1
    rw [← Table.key_of_get? hrecord] at hrecord
    exact Kept.of_write hrecord (by rw [(save_ok hsave).2.1, get?_flush])
      (.of_same rfl rfl rfl rfl (List.prefix_refl _))

theorem IncidentCall.kept (call : IncidentCall) :
    Kept host id d (call.record host d).after := by
  cases call with
  | updateIncidentLifecycle q => exact q.kept
  | addIncidentNote q => exact q.kept
  | submitFeedback q => exact q.kept

end Advances

/-! ## What a call that raises has changed -/

section Raised

variable {host : IncidentHost} {d : Database} {id : String}

/-- The answer to the call can be built from what is stored. Where it passes its checks
and has something to write, a lifecycle update finds a severity that is supported and a
timeline that can be shown, and a verdict finds an incident that can be shown. -/
def IncidentCall.Shows (host : IncidentHost) (id : String) (d : Database) : IncidentCall → Prop
  | .updateIncidentLifecycle q => q.incidentId = id → ∀ record, q.load d = .ok record →
      q.Passes host record d → q.Asks host record →
      (∃ severity, normalizeIncidentSeverity host.toHost record.severity = .ok severity) ∧
        ReadableTimeline host record.timeline
  | .addIncidentNote _ => True
  | .submitFeedback q => q.incidentId = id → ∀ record, q.load d = .ok record →
      d.feedback.get? q.newId = none → q.withVerdict record.hypotheses ≠ record.hypotheses →
      detailErrors host d record = []

/-- If the call raised, the incident is as it was. -/
def CallRecord.Clean (id : String) (c : CallRecord) : Prop :=
  c.raised = true → c.after.incidents.get? id = c.before.incidents.get? id

/-- A call raised when it did not return. -/
theorem CallRecord.raised_of {α : Type} {call : ServiceCall α} :
    (CallRecord.of call d).raised = true ↔ ¬∃ a, (call.run d).1 = .ok a := by
  unfold CallRecord.of
  cases (call.run d).1 with
  | ok a => simp [Except.toOption]
  | error e => simp [Except.toOption]

/-- A call that left everything as it was. -/
theorem CallRecord.clean_of_same {α : Type} {call : ServiceCall α} (h : (call.run d).2 = d) :
    (CallRecord.of call d).Clean id := by
  intro _
  show (call.run d).2.incidents.get? id = _
  rw [h]
  rfl

namespace UpdateIncidentLifecycle

variable {q : UpdateIncidentLifecycle} {record : IncidentRecord} {edit : LifecycleChange}

/-- What was edited can be shown exactly if what was stored can. -/
theorem lifecycleResponse_edited (h : q.edit host record d = .ok edit) :
    (∃ answer, lifecycleResponse host (q.edited host edit) = .ok answer) ↔
      (∃ severity, normalizeIncidentSeverity host.toHost record.severity = .ok severity) ∧
        ReadableTimeline host record.timeline := by
  obtain ⟨hpasses, hedited⟩ := edit_ok h
  have hstatus : ∃ status, normalizeIncidentStatus host.toHost edit.record.status = .ok status := by
    obtain ⟨current, hcurrent, -⟩ := hpasses.status
    rcases hedited.status with ⟨hsame, -⟩ | ⟨-, status, -, -, -, hset, -⟩
    · exact ⟨current, by rw [hsame, hcurrent]⟩
    · exact ⟨status, by rw [hset, normalizeIncidentStatus_text]⟩
  have hseverity : (∃ severity,
        normalizeIncidentSeverity host.toHost edit.record.severity = .ok severity) ↔
      ∃ severity, normalizeIncidentSeverity host.toHost record.severity = .ok severity := by
    rcases hedited.severity with hsame | ⟨severity, hset, hstored⟩
    · rw [hsame]
    · refine iff_of_true ⟨severity, ?_⟩ (hpasses.severity (by rw [hset]; rfl))
      rw [hstored, normalizeIncidentSeverity_stored]
  have htimeline : ReadableTimeline host (q.edited host edit).timeline ↔
      ReadableTimeline host record.timeline := by
    show ReadableTimeline host (edit.record.timeline ++ [_]) ↔ _
    rw [hedited.timeline, ReadableTimeline, List.forall_mem_append, List.forall_mem_singleton]
    exact and_iff_left timelineEventErrors_entry
  rw [lifecycleResponse_isOk, htimeline]
  constructor
  · intro h
    obtain ⟨_, hsupported, hreadable⟩ := h
    exact ⟨hseverity.mp hsupported, hreadable⟩
  · intro h
    obtain ⟨hsupported, hreadable⟩ := h
    exact ⟨hstatus, hseverity.mpr hsupported, hreadable⟩

/-- An edit that is saved shows in the timeline. -/
theorem get?_save_ne (hrecord : d.incidents.get? id = some record)
    (h : q.edit host record d = .ok edit) :
    (q.save host edit d).incidents.get? id ≠ d.incidents.get? id := by
  have hid : id = edit.record.id := by rw [(edit_ok h).2.id, Table.key_of_get? hrecord]
  rw [get?_save, hrecord, Option.map_some, if_pos hid]
  intro hsame
  have htimeline : edit.record.timeline ++ [_] = record.timeline :=
    congrArg IncidentRecord.timeline (Option.some.inj hsame)
  rw [(edit_ok h).2.timeline] at htimeline
  exact List.cons_ne_nil _ _ (List.append_right_eq_self.mp htimeline)

/-- An edit is clean when its answer can be shown. -/
theorem clean_iff : (CallRecord.of (updateIncidentLifecycle host q) d).Clean id ↔
    (IncidentCall.updateIncidentLifecycle q).Shows host id d := by
  rcases updateIncidentLifecycle_run host q d with
    ⟨hrejected, e, hrun⟩ | ⟨record, edit, hload, hedit, hrun⟩
  · -- refused before any write
    refine iff_of_true (CallRecord.clean_of_same (by rw [hrun])) ?_
    intro _ record hload hpasses _
    obtain ⟨edit, hedit⟩ := edit_isOk hpasses
    exact absurd ⟨record, edit, hload, hedit⟩ hrejected
  · have hrecord := load_ok hload
    by_cases hnil : edit.changes = []
    · -- nothing asked for differs: no write, and the answer is not needed
      rw [if_pos hnil] at hrun
      refine iff_of_true (CallRecord.clean_of_same (by rw [hrun])) ?_
      intro _ record' hload' _ hasks
      obtain rfl := Except.ok.inj (hload.symm.trans hload')
      exact absurd hnil ((edit_ok hedit).2.asks.mpr hasks)
    · rw [if_neg hnil] at hrun
      by_cases hid : q.incidentId = id
      · subst hid
        have hne := get?_save_ne hrecord hedit
        constructor
        · -- the row did change, so a clean call has answered
          intro hclean _ record' hload' _ _
          obtain rfl := Except.ok.inj (hload.symm.trans hload')
          refine (lifecycleResponse_edited hedit).mp ?_
          by_contra hraised
          refine hne ?_
          have hsame := hclean (CallRecord.raised_of.mpr (by rw [hrun]; exact hraised))
          rwa [show (CallRecord.of _ d).after = q.save host edit d by
            rw [CallRecord.of, hrun]] at hsame
        · intro hshows hraised
          obtain ⟨hpasses, hedited⟩ := edit_ok hedit
          have hanswer := (lifecycleResponse_edited hedit).mpr
            (hshows rfl record hload hpasses (hedited.asks.mp hnil))
          refine absurd hanswer ?_
          have hnone := CallRecord.raised_of.mp hraised
          rwa [hrun] at hnone
      · -- another incident: its row is not the one written
        refine iff_of_true (fun _ => ?_) (fun heq => absurd heq hid)
        rw [show (CallRecord.of (updateIncidentLifecycle host q) d).after = q.save host edit d by
          rw [CallRecord.of, hrun]]
        have hne : id ≠ edit.record.id := by
          rw [(edit_ok hedit).2.id, Table.key_of_get? hrecord]
          exact Ne.symm hid
        rw [get?_save]
        simp only [if_neg hne, Option.map_id']
        rfl

end UpdateIncidentLifecycle

/-- An answered call, or one that left everything as it was. -/
theorem AddIncidentNote.clean (q : AddIncidentNote) :
    (CallRecord.of (addIncidentNote host q) d).Clean id := by
  rcases addIncidentNote_run host q d with ⟨e, hrun⟩ | ⟨record, event, -, hrun⟩
  · exact CallRecord.clean_of_same (by rw [hrun])
  · intro hraised
    exact absurd ⟨event, by rw [hrun]⟩ (CallRecord.raised_of.mp hraised)

/-- Feedback is clean when its answer can be shown. -/
theorem SubmitFeedback.clean_iff {q : SubmitFeedback} :
    (CallRecord.of (submitFeedback host q) d).Clean id ↔
      (IncidentCall.submitFeedback q).Shows host id d := by
  cases hload : q.load d with
  | error e =>
    -- a call refused on load changes nothing, and shows nothing
    have hrun : (submitFeedback host q).run d = (.error e, d) := perform_load_error hload
    refine iff_of_true (CallRecord.clean_of_same (congrArg Prod.snd hrun)) ?_
    intro _ record hload'
    rw [hload] at hload'
    cases hload'
  | ok incident =>
    have hrecord := (load_ok hload).1
    cases hsave : q.save incident d with
    | error e =>
      have hrun : (submitFeedback host q).run d = (.error e, d) := perform_save_error hload hsave
      refine iff_of_true (CallRecord.clean_of_same (congrArg Prod.snd hrun)) ?_
      intro _ record _ hfree
      -- the save is refused only for a feedback id in use
      obtain ⟨d', hsaved⟩ := save_isOk incident hfree
      rw [hsave] at hsaved
      cases hsaved
    | ok d' =>
      have hrun : (submitFeedback host q).run d =
          (incidentDetail host d' (q.answered incident), d') := perform_ok hload hsave
      -- The call writes one field of one row.
      have hafter : (CallRecord.of (submitFeedback host q) d).after.incidents.get? id =
          (d.incidents.get? id).map fun row => if id = incident.id ∧
            q.withVerdict incident.hypotheses ≠ incident.hypotheses then
              setHypotheses (q.withVerdict incident.hypotheses) row else row := by
        rw [CallRecord.of, hrun, (save_ok hsave).2.1, get?_flush]
      by_cases hwrites : id = incident.id ∧
          q.withVerdict incident.hypotheses ≠ incident.hypotheses
      · obtain ⟨rfl, hchanged⟩ := hwrites
        rw [← Table.key_of_get? hrecord] at hrecord
        rw [hrecord, Option.map_some, if_pos ⟨rfl, hchanged⟩] at hafter
        -- Here the row changed, so the call is clean only if it answered.
        have hne : (CallRecord.of (submitFeedback host q) d).after.incidents.get? incident.id ≠
            d.incidents.get? incident.id := by
          rw [hafter, hrecord]
          exact fun hsame => hchanged (congrArg IncidentRecord.hypotheses (Option.some.inj hsame))
        have hanswer : (∃ a, ((submitFeedback host q).run d).1 = .ok a) ↔
            detailErrors host d incident = [] := by
          rw [hrun, incidentDetail_isOk, detailErrors_answered hsave]
        constructor
        · intro hclean _ record hload' _ _
          obtain rfl := Except.ok.inj (hload.symm.trans hload')
          by_contra herrors
          exact hne (hclean (CallRecord.raised_of.mpr (mt hanswer.mp herrors)))
        · intro hshows hraised
          have hfree := (Table.insert_eq_some (save_ok hsave).1).1
          exact absurd (hanswer.mpr (hshows (Table.key_of_get? (load_ok hload).1).symm incident hload
            hfree hchanged)) (CallRecord.raised_of.mp hraised)
      · refine iff_of_true (fun _ => ?_) ?_
        · rw [hafter]
          simp only [if_neg hwrites, Option.map_id']
          rfl
        · -- nothing was written to this incident: both sides are vacuous
          intro hid record hload' _ hchanged
          obtain rfl := Except.ok.inj (hload.symm.trans hload')
          exact absurd ⟨hid.symm.trans (Table.key_of_get? hrecord).symm, hchanged⟩ hwrites

/-- Any call is clean when its answer can be shown. -/
theorem IncidentCall.clean_iff {call : IncidentCall} :
    (call.record host d).Clean id ↔ call.Shows host id d := by
  cases call with
  | updateIncidentLifecycle q => exact UpdateIncidentLifecycle.clean_iff
  | addIncidentNote q => exact iff_of_true q.clean trivial
  | submitFeedback q => exact SubmitFeedback.clean_iff

end Raised

/-! ## Every run -/

section Runs

variable {host : IncidentHost} {id : String} {h : IncidentHistory}

/-- What is kept whatever the calls. -/
structure HistoryKept (host : IncidentHost) (id : String) (h : IncidentHistory) : Prop where
  dated : ∀ row, h.database.incidents.get? id = some row → ResolutionDated host row
  kept : ∀ c ∈ h.calls, Kept host id c.before h.database

/-- Every history keeps its incident. -/
theorem historyKept_invariant (C : IncidentHistory → IncidentCall → Prop) :
    Invariant (incidentSystem host id) C (HistoryKept host id) where
  init h hstart := by
    refine ⟨hstart.2, fun c hc => ?_⟩
    rw [hstart.1] at hc
    cases hc
  step h call h' hkept _ hstep := by
    obtain rfl := Option.some.inj hstep
    have hcall : Kept host id h.database (call.record host h.database).after := call.kept
    refine ⟨fun row' hrow' => ?_, fun c hc => ?_⟩
    · cases hrow : h.database.incidents.get? id with
      | none =>
        cases hrow'.symm.trans (hcall.missing hrow)
      | some row =>
        obtain ⟨row'', hrow'', hadvances⟩ := hcall.here row hrow
        obtain rfl := Option.some.inj (hrow'.symm.trans hrow'')
        exact hadvances.dated (hkept.dated row hrow)
    · rcases List.mem_cons.mp hc with rfl | hc
      · rw [call.record_before host]
        exact hcall
      · exact (hkept.kept c hc).trans hcall

/-- Whatever the calls, they keep the incident. -/
theorem incident_advances (hreach : Reachable (incidentSystem host id) h) :
    HistoryKept host id h :=
  (historyKept_invariant _).reachable hreach

/-- The lifecycle of an incident: it advances from call to call, and a call that raised
has not changed it. -/
structure LifecycleKept (host : IncidentHost) (id : String) (h : IncidentHistory) : Prop
    extends HistoryKept host id h where
  clean : ∀ c ∈ h.calls, c.Clean id

/-- In a run whose answers can be built, the lifecycle is kept. -/
theorem incident_lifecycle_kept (hreach : ReachableBy (incidentSystem host id)
    (fun h call => call.Shows host id h.database) h) : LifecycleKept host id h := by
  refine ⟨(historyKept_invariant _).reachable hreach, ?_⟩
  induction hreach with
  | init hstart =>
    intro c hc
    rw [hstart.1] at hc
    cases hc
  | step _ hshows hstep ih =>
    obtain rfl := Option.some.inj hstep
    intro c hc
    rcases List.mem_cons.mp hc with rfl | hc
    · exact IncidentCall.clean_iff.mpr hshows
    · exact ih c hc

end Runs

/-! An incident is acknowledged. With a severity that is stored as `SEV-2` the call is
answered; with `P1` the status is saved and the call raises. -/

def acknowledgedHistory (severity : String) : IncidentHistory :=
  let record := CallRecord.of
    (updateIncidentLifecycle incidentHost (setLifecycleStatus .acknowledged))
    (withIncident (checkoutIncident severity "open"))
  ⟨record.after, [record]⟩

/-- An open incident has no resolution to date. -/
theorem checkout_dated (severity : String) (row : IncidentRecord)
    (h : (withIncident (checkoutIncident severity "open")).incidents.get? "inc-1" = some row) :
    ResolutionDated incidentHost row := by
  obtain rfl : checkoutIncident severity "open" = row := Option.some.inj h
  exact iff_of_false Bool.false_ne_true fun hresolved => by
    have hopen : normalizeIncidentStatus incidentHost.toHost "open" = .ok .«open» :=
      normalizeIncidentStatus_text _ .«open»
    cases hopen.symm.trans hresolved

/-- An incident that was acknowledged. -/
theorem incident_lifecycle_kept_acknowledged :
    LifecycleKept incidentHost "inc-1" (acknowledgedHistory "SEV-2") ∧
      ((acknowledgedHistory "SEV-2").database.incidents.get? "inc-1").map (·.status) =
        some "acknowledged" := by
  have hstart : (incidentSystem incidentHost "inc-1").init
      ⟨withIncident (checkoutIncident "SEV-2" "open"), []⟩ := ⟨rfl, checkout_dated _⟩
  have hshows : (IncidentCall.updateIncidentLifecycle (setLifecycleStatus .acknowledged)).Shows
      incidentHost "inc-1" (withIncident (checkoutIncident "SEV-2" "open")) := by
    intro _ record hload _ _
    obtain rfl : checkoutIncident "SEV-2" "open" = record :=
      Option.some.inj (UpdateIncidentLifecycle.load_ok hload)
    exact ⟨⟨.sev2, normalizeIncidentSeverity_stored _ .sev2⟩, fun item hitem => by cases hitem⟩
  exact ⟨incident_lifecycle_kept ((ReachableBy.init hstart).step hshows rfl), by decide +kernel⟩

/-- A severity outside the four, acknowledged before the answer fails. -/
theorem acknowledged_then_raised :
    ∃ h, Reachable (incidentSystem incidentHost "inc-1") h ∧
      ¬LifecycleKept incidentHost "inc-1" h := by
  have hstart : (incidentSystem incidentHost "inc-1").init
      ⟨withIncident (checkoutIncident "P1" "open"), []⟩ := ⟨rfl, checkout_dated _⟩
  have hreach : Reachable (incidentSystem incidentHost "inc-1") (acknowledgedHistory "P1") :=
    (ReachableBy.init hstart).step
      (a := .updateIncidentLifecycle (setLifecycleStatus .acknowledged)) trivial rfl
  refine ⟨_, hreach, fun hkept => ?_⟩
  have hclean := hkept.clean _ (List.mem_singleton_self _)
  have hchanged := congrArg (Option.map (·.status)) (hclean (by decide +kernel))
  exact absurd hchanged (by decide +kernel)

end DeployGuard.Service
