import DeployGuard.Service.Incidents

/-!
# Verdicts and the statuses of hypotheses

`submit_feedback` appends a record and rewrites the incident's hypotheses as it read
them, with the verdict put in. The incident is read without a lock, so calls side by
side may write lists that are out of date:

> `Agrees`: the status of each hypothesis is the verdict of the last record for it, or
> what it was at the beginning if there is none.

`SubmitFeedback.agrees_iff` says when one commit keeps it, and `verdicts_agree` that it
holds in the runs of such commits. Calls one after another are such a run
(`current_of_read`).
-/

namespace DeployGuard.Service

open Interleaving Transition

/-! ## What the records say -/

/-- The verdict of the last record for the hypothesis, or its status as given. -/
def statusAfter (records : List FeedbackRecord) (hypothesis : Hypothesis) : String :=
  match (records.filter fun row => row.hypothesisId = hypothesis.id).getLast? with
  | some row => row.verdict
  | none => hypothesis.status

def hypothesesAfter (original : List Hypothesis) (records : List FeedbackRecord) :
    List Hypothesis :=
  original.map fun hypothesis => { hypothesis with status := statusAfter records hypothesis }

/-- The records of an incident, in the order of their commits. -/
def recordsFor (d : Database) (incidentId : String) : List FeedbackRecord :=
  d.feedback.rows.filter fun row => row.incidentId = incidentId

/-- The stored statuses are those the records say. -/
def Agrees (original : List Hypothesis) (id : String) (d : Database) : Prop :=
  ∀ row, d.incidents.get? id = some row →
    row.hypotheses = hypothesesAfter original (recordsFor d id)

section Records

variable {original : List Hypothesis} {records : List FeedbackRecord} {q : SubmitFeedback}
  {incident : IncidentRecord}

theorem statusAfter_append (record : FeedbackRecord) (hypothesis : Hypothesis) :
    statusAfter (records ++ [record]) hypothesis =
      if record.hypothesisId = hypothesis.id then record.verdict
      else statusAfter records hypothesis := by
  unfold statusAfter
  by_cases hid : record.hypothesisId = hypothesis.id
  · rw [if_pos hid, List.filter_append, List.filter_cons_of_pos (by simpa using hid),
      List.filter_nil, List.getLast?_concat]
  · rw [if_neg hid, List.filter_append, List.filter_cons_of_neg (by simpa using hid),
      List.filter_nil, List.append_nil]

/-- One more record puts its verdict into the list. -/
theorem hypothesesAfter_append :
    hypothesesAfter original (records ++ [q.record incident]) =
      q.withVerdict (hypothesesAfter original records) := by
  unfold hypothesesAfter SubmitFeedback.withVerdict
  rw [List.map_map]
  refine List.map_congr_left fun hypothesis _ => ?_
  rw [statusAfter_append]
  show _ = if hypothesis.id = q.request.hypothesisId then _ else _
  by_cases hid : hypothesis.id = q.request.hypothesisId
  · rw [if_pos hid, if_pos (show (q.record incident).hypothesisId = hypothesis.id from hid.symm)]
    rfl
  · rw [if_neg hid, if_neg (show ¬(q.record incident).hypothesisId = hypothesis.id from Ne.symm hid)]

end Records

/-! ## Side by side -/

section Race

variable {ι : Type} [DecidableEq ι]

abbrev FeedbackState (ι : Type) := ReadCommit.State ι Database IncidentRecord ServiceError

/-- The statements of each call. -/
def feedbackProgram (calls : ι → SubmitFeedback) :
    ReadCommit.Program ι Database IncidentRecord ServiceError where
  read i := (calls i).load
  commit i := (calls i).save

/-- The calls on a database whose statuses agree with the records it has. -/
def feedbackSystem (calls : ι → SubmitFeedback) (original : List Hypothesis) (id : String) :
    System (FeedbackState ι) (ReadCommit.Action ι) :=
  ReadCommit.system (feedbackProgram calls) (Agrees original id)

/-- What the call writes back is what is stored, apart from its own verdict; and a call
that read its verdict already, and writes nothing back, finds it stored. -/
def SubmitFeedback.WritesCurrent (q : SubmitFeedback) (snapshot : IncidentRecord)
    (d : Database) : Prop :=
  ∀ row, d.incidents.get? snapshot.id = some row →
    q.withVerdict row.hypotheses = if q.withVerdict snapshot.hypotheses = snapshot.hypotheses
      then row.hypotheses else q.withVerdict snapshot.hypotheses

/-- A commit for the incident that can be made writes what is current. -/
def WritesCurrent (calls : ι → SubmitFeedback) (id : String) (r : FeedbackState ι)
    (a : ReadCommit.Action ι) : Prop :=
  ∀ i snapshot, a = .commit i → r.stage i = .holding snapshot → snapshot.id = id →
    r.store.feedback.get? (calls i).newId = none → (calls i).WritesCurrent snapshot r.store

variable {calls : ι → SubmitFeedback} {original : List Hypothesis} {id : String}
  {r r' : FeedbackState ι} {q : SubmitFeedback} {snapshot : IncidentRecord} {d d' : Database}

theorem recordsFor_save (id : String) (h : q.save snapshot d = .ok d') :
    recordsFor d' id = recordsFor d id ++ if snapshot.id = id then [q.record snapshot] else [] := by
  unfold recordsFor
  rw [(Table.insert_eq_some (SubmitFeedback.save_ok h).1).2, List.filter_append]
  congr 1
  have hincident : (q.record snapshot).incidentId = snapshot.id := rfl
  by_cases hid : snapshot.id = id
  · rw [if_pos hid, List.filter_cons_of_pos (by simpa [hincident] using hid), List.filter_nil]
  · rw [if_neg hid, List.filter_cons_of_neg (by simpa [hincident] using hid), List.filter_nil]

/-- A commit for another incident. -/
theorem SubmitFeedback.agrees_other (h : q.save snapshot d = .ok d') (hid : snapshot.id ≠ id) :
    Agrees original id d' ↔ Agrees original id d := by
  unfold Agrees
  rw [recordsFor_save id h, if_neg hid, List.append_nil, (save_ok h).2.1]
  simp only [get?_flush, Ne.symm hid, false_and, if_false, Option.map_id']

/-- The commit keeps the agreement exactly if it writes what is current. -/
theorem SubmitFeedback.agrees_iff (hd : Agrees original snapshot.id d)
    (h : q.save snapshot d = .ok d') :
    Agrees original snapshot.id d' ↔ q.WritesCurrent snapshot d := by
  have hrecords := recordsFor_save snapshot.id h
  rw [if_pos rfl] at hrecords
  have hget : d'.incidents.get? snapshot.id = (d.incidents.get? snapshot.id).map fun row =>
      if q.withVerdict snapshot.hypotheses = snapshot.hypotheses then row
      else setHypotheses (q.withVerdict snapshot.hypotheses) row := by
    rw [(save_ok h).2.1, get?_flush]
    simp only [true_and, ite_not]
  unfold Agrees WritesCurrent
  rw [hget, hrecords, hypothesesAfter_append]
  cases hrow : d.incidents.get? snapshot.id with
  | none => simp
  | some row =>
    have hstored := hd row hrow
    rw [← hstored]
    simp only [Option.map_some, Option.some.injEq, forall_eq']
    split <;> exact eq_comm

/-- The step of one call. -/
theorem Agrees.save (hd : Agrees original id d) (h : q.save snapshot d = .ok d')
    (hcurrent : snapshot.id = id → q.WritesCurrent snapshot d) : Agrees original id d' := by
  by_cases hid : snapshot.id = id
  · subst hid
    exact (SubmitFeedback.agrees_iff hd h).mpr (hcurrent rfl)
  · exact (SubmitFeedback.agrees_other h hid).mpr hd

/-- In a run whose commits write what is current, the statuses are those of the last
records; and the next commit for the incident keeps that only if it does so too. -/
theorem verdicts_agree (h : ReachableBy (feedbackSystem calls original id)
    (WritesCurrent calls id) r) :
    Agrees original id r.store ∧
      ∀ i snapshot d', r.stage i = .holding snapshot → snapshot.id = id →
        (calls i).save snapshot r.store = .ok d' →
        (Agrees original id d' ↔ (calls i).WritesCurrent snapshot r.store) := by
  have hagrees : Agrees original id r.store := by
    induction h with
    | init hinit => exact hinit.1
    | step _ hC hstep ih =>
      rcases ReadCommit.step_cases hstep with ⟨i, snapshot, -, -, -, rfl⟩ | ⟨i, e, -, -, rfl⟩ |
        ⟨i, snapshot, d', rfl, hi, hsave, rfl⟩
      · exact ih
      · exact ih
      · have hfree := (Table.insert_eq_some (SubmitFeedback.save_ok hsave).1).1
        exact ih.save hsave fun hid => hC i snapshot rfl hi hid hfree
  refine ⟨hagrees, fun i snapshot d' _ hid hsave => ?_⟩
  subst hid
  exact SubmitFeedback.agrees_iff hagrees hsave

/-- A call that commits what it has just read writes what is current. -/
theorem current_of_read {i : ι} (h : (feedbackSystem calls original id).next r (.read i) = some r') :
    WritesCurrent calls id r' (.commit i) := by
  intro j snapshot hij hj _ _ row hrow
  obtain rfl : i = j := ReadCommit.Action.commit.inj hij
  rcases ReadCommit.step_cases h with ⟨k, held, hk, -, hload, rfl⟩ | ⟨k, e, hk, -, rfl⟩ |
    ⟨k, held, d', hk, -⟩
  · obtain rfl : i = k := ReadCommit.Action.read.inj hk
    rw [Parties.goTo_self, ReadCommit.Stage.holding.injEq] at hj
    subst hj
    have hstored := (SubmitFeedback.load_ok hload).1
    rw [← Table.key_of_get? hstored] at hstored
    obtain rfl : held = row := Option.some.inj (hstored.symm.trans hrow)
    split
    · next hsame => exact hsame
    · rfl
  · obtain rfl : i = k := by
      rcases hk with hk | hk
      · exact ReadCommit.Action.read.inj hk
      · cases hk
    rw [Parties.goTo_self] at hj
    cases hj
  · cases hk

end Race

/-! Two verdicts on two hypotheses of one incident. -/

theorem first_accepted : feedbackRequestErrors "h-1" "Seen in the traces." = [] := rfl

theorem second_accepted : feedbackRequestErrors "h-2" "Seen in the traces." = [] := rfl

def twoVerdicts : Bool → SubmitFeedback
  | true => judge "h-1" .confirmed 1 first_accepted
  | false => judge "h-2" .rejected 2 second_accepted

def checkoutHypotheses : List Hypothesis := [latency "h-1", latency "h-2"]

theorem checkout_agrees :
    Agrees checkoutHypotheses "inc-1" (withIncident (checkoutIncident "SEV-2" "open")) := by
  intro row hrow
  obtain rfl : checkoutIncident "SEV-2" "open" = row := Option.some.inj hrow
  rfl

def storedStatuses (r : FeedbackState Bool) : Option (List String) :=
  (r.store.incidents.get? "inc-1").map fun row => row.hypotheses.map (·.status)

/-- One after the other. -/
theorem verdicts_agree_in_turn :
    ∃ r, ReachableBy (feedbackSystem twoVerdicts checkoutHypotheses "inc-1")
        (WritesCurrent twoVerdicts "inc-1") r ∧
      storedStatuses r = some ["confirmed", "rejected"] ∧
      Agrees checkoutHypotheses "inc-1" r.store := by
  let S := feedbackSystem twoVerdicts checkoutHypotheses "inc-1"
  let r₀ : FeedbackState Bool :=
    ⟨withIncident (checkoutIncident "SEV-2" "open"), fun _ => .waiting⟩
  have hends : ((((S.next r₀ (.read true)).bind fun r₁ => S.next r₁ (.commit true)).bind
      fun r₂ => S.next r₂ (.read false)).bind fun r₃ => S.next r₃ (.commit false)).map
      storedStatuses = some (some ["confirmed", "rejected"]) := by decide +kernel
  obtain ⟨r, h₄, hstatuses⟩ := Option.map_eq_some_iff.mp hends
  obtain ⟨r₃, h₃, hcommit₂⟩ := Option.bind_eq_some_iff.mp h₄
  obtain ⟨r₂, h₂, hread₂⟩ := Option.bind_eq_some_iff.mp h₃
  obtain ⟨r₁, hread₁, hcommit₁⟩ := Option.bind_eq_some_iff.mp h₂
  have hreads : ∀ (r : FeedbackState Bool) i, WritesCurrent twoVerdicts "inc-1" r (.read i) :=
    fun r i j snapshot hij => by cases hij
  have hreach₁ : ReachableBy S (WritesCurrent twoVerdicts "inc-1") r₁ :=
    .step (.init ⟨checkout_agrees, rfl⟩) (hreads _ true) hread₁
  have hreach₂ := hreach₁.step (current_of_read hread₁) hcommit₁
  have hreach₃ := hreach₂.step (hreads _ false) hread₂
  have hreach := hreach₃.step (current_of_read hread₂) hcommit₂
  exact ⟨r, hreach, hstatuses, (verdicts_agree hreach).1⟩

/-- Both read before either commits: the second writes the first one's status back. -/
theorem verdict_lost :
    ∃ r, Reachable (feedbackSystem twoVerdicts checkoutHypotheses "inc-1") r ∧
      (∀ i, (r.stage i).isSucceeded = true) ∧
      storedStatuses r = some ["open", "rejected"] ∧
      ¬Agrees checkoutHypotheses "inc-1" r.store := by
  let r₀ : FeedbackState Bool :=
    ⟨withIncident (checkoutIncident "SEV-2" "open"), fun _ => .waiting⟩
  have hends : ((feedbackSystem twoVerdicts checkoutHypotheses "inc-1").run r₀
      [.read true, .read false, .commit true, .commit false]).map (fun r =>
        ((r.stage true).isSucceeded, (r.stage false).isSucceeded, storedStatuses r,
          (hypothesesAfter checkoutHypotheses (recordsFor r.store "inc-1")).map (·.status))) =
      some (true, true, some ["open", "rejected"], ["confirmed", "rejected"]) := by
    decide +kernel
  obtain ⟨r, hrun, hlast⟩ := Option.map_eq_some_iff.mp hends
  simp only [Prod.mk.injEq] at hlast
  obtain ⟨hfirst, hsecond, hstored, hrecorded⟩ := hlast
  refine ⟨r, .of_run (.init ⟨checkout_agrees, rfl⟩) hrun, ?_, hstored, fun hagrees => ?_⟩
  · intro i
    cases i with
    | true => exact hfirst
    | false => exact hsecond
  · obtain ⟨row, hrow, hstatuses⟩ := Option.map_eq_some_iff.mp hstored
    rw [hagrees row hrow, hrecorded] at hstatuses
    exact absurd hstatuses (by decide)

end DeployGuard.Service
