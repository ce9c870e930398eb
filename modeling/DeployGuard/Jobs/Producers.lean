import DeployGuard.Jobs.Lifecycle
import DeployGuard.Lib.Interleaving

/-!
# Producers racing for a key

`enqueue_job` with `commit=True`, one step per statement: it looks the idempotency key up,
inserts a new row where nobody has the key, and where the `INSERT` breaks a constraint it
rolls back and looks the key up once more. Any number of producers take these steps in any
order, and between them other sessions claim, acknowledge, requeue and replay jobs.

> `producers_agree`: a key has one row, all producers of the key return it, it has the
> intent of the producer that inserted it, and no producer fails for having lost the race.
-/

namespace DeployGuard.Jobs

open Interleaving Transition

/-- How far a call of `enqueue_job` has come. -/
inductive ProducerStage where
  | waiting
  -- nobody had the key, or there is none; the row is built
  | inserting (job : BackgroundJob)
  -- the insert broke a constraint and is rolled back
  | rolledBack (key : Option String)
  | returned (jobId : String)
  | raised (e : QueueError)
  deriving DecidableEq

/-- A statement of a producer, or a call of another session. -/
inductive ProducerAction (ι : Type) where
  | lookUp (i : ι)
  | commit (i : ι)
  | lookUpAgain (i : ι)
  | other (op : QueueOp)

/-- `enqueue_job` up to its `INSERT`. -/
def lookUp (t : JobTable) (a : EnqueueArgs) : ProducerStage :=
  match validateEnqueue a with
  | .error e => .raised e
  | .ok (jobType, key, items) =>
    match key.bind (findByKey t) with
    | some existing => .returned existing.id
    | none => .inserting (newJob a jobType key items)

/-- The lookup in the handler of the `IntegrityError`. -/
def lookUpAgain (t : JobTable) (key : Option String) : ProducerStage :=
  match key.bind (findByKey t) with
  | some existing => .returned existing.id
  | none => .raised .integrityError

/-- The call puts a new row into the table. -/
def QueueOp.isEnqueue : QueueOp → Bool
  | .enqueue _ => true
  | _ => false

variable {ι : Type} [DecidableEq ι]

abbrev Producers (ι : Type) := Parties ι JobTable ProducerStage

/-- The producers of a family of requests, none of them begun, on the table `t₀`. -/
def producers (args : ι → EnqueueArgs) (t₀ : JobTable) : System (Producers ι) (ProducerAction ι) where
  init r := r = ⟨t₀, fun _ => .waiting⟩
  next r
    | .lookUp i =>
      match r.stage i with
      | .waiting => some (r.goTo i (lookUp r.store (args i)))
      | _ => none
    | .commit i =>
      match r.stage i with
      | .inserting job =>
        match insertJob r.store job with
        | some t => some (r.write i (.returned job.id) t)
        | none => some (r.goTo i (.rolledBack job.idempotencyKey))
      | _ => none
    | .lookUpAgain i =>
      match r.stage i with
      | .rolledBack key => some (r.goTo i (lookUpAgain r.store key))
      | _ => none
    | .other op =>
      if op.isEnqueue then none else (next ⟨r.store, []⟩ op).map fun h => { r with store := h.jobs }

/-! ## What the other sessions do -/

/-- Every row stays, with its intent, and no row appears. -/
structure SameJobs (t t' : JobTable) : Prop where
  kept : ∀ k row, t.get? k = some row → ∃ row', t'.get? k = some row' ∧ SameIntent row row'
  back : ∀ k row', t'.get? k = some row' → ∃ row, t.get? k = some row ∧ SameIntent row row'

theorem SameJobs.uniqueKeys {t t' : JobTable} (h : SameJobs t t') (hkeys : UniqueKeys t) :
    UniqueKeys t' := by
  intro row₁ h₁ row₂ h₂ key hkey₁ hkey₂
  obtain ⟨old₁, hold₁, hsame₁⟩ := h.back row₁.id row₁ (Table.get?_of_mem h₁)
  obtain ⟨old₂, hold₂, hsame₂⟩ := h.back row₂.id row₂ (Table.get?_of_mem h₂)
  rw [hsame₁.idempotencyKey] at hkey₁
  rw [hsame₂.idempotencyKey] at hkey₂
  have hold := hkeys old₁ (Table.mem_of_get? hold₁) old₂ (Table.mem_of_get? hold₂) key hkey₁ hkey₂
  refine t'.eq_of_key_eq h₁ h₂ ?_
  rw [← Table.key_of_get? hold₁, ← Table.key_of_get? hold₂, hold]

/-- A call that is no enqueue brings no row. -/
theorem next_absent {h h' : History} {op : QueueOp} (hop : op.isEnqueue = false)
    (hn : next h op = some h') (k : String) (habsent : h.jobs.get? k = none) :
    h'.jobs.get? k = none := by
  cases op with
  | enqueue args => cases hop
  | claim workerId page now =>
    simp only [next] at hn
    split at hn
    · split at hn
      · next job s t hclaim =>
        cases hn
        rcases claimNextJob_ok hclaim with ⟨-, -, rfl⟩ | ⟨worker, row, -, hrow, -, -, -, hget⟩
        · exact habsent
        · rw [hget, if_neg]
          · exact habsent
          · intro hk
            rw [hk, hrow] at habsent
            cases habsent
      · next s t hclaim =>
        cases hn
        rcases claimNextJob_ok hclaim with ⟨-, -, rfl⟩ | ⟨worker, row, -, -, -, hjob, -⟩
        · exact habsent
        · cases hjob
      · cases hn
        exact habsent
    · cases hn
  | complete jobId result now =>
    simp only [next] at hn
    split at hn
    · next done s t hdone =>
      cases hn
      obtain ⟨job, -, -, rfl, -, rfl⟩ := completeJob_ok hdone
      rw [get?_flushRow, habsent]
      rfl
    · cases hn
      exact habsent
  | fail jobId args now =>
    simp only [next] at hn
    split at hn
    · next failed s t hfail =>
      cases hn
      obtain ⟨job, -, -, rfl, -, rfl⟩ := failJob_ok hfail
      rw [get?_flushRow, habsent]
      rfl
    · cases hn
      exact habsent
  | requeue leaseTimeout now =>
    cases hn
    rw [get?_requeueExpiredJobs, habsent]
    rfl
  | replay jobId availableAt now =>
    simp only [next] at hn
    split at hn
    · next replayed s t hreplay =>
      cases hn
      obtain ⟨job, -, -, rfl, -, rfl⟩ := replayDeadLetterJob_ok hreplay
      rw [get?_flushRow, habsent]
      rfl
    · cases hn
      exact habsent

theorem SameJobs.of_next {h h' : History} {op : QueueOp} (hop : op.isEnqueue = false)
    (hn : next h op = some h') : SameJobs h.jobs h'.jobs := by
  have hspec := next_spec hn
  refine ⟨fun k row hrow => ?_, fun k row' hrow' => ?_⟩
  · obtain ⟨row', hrow', hmove⟩ := hspec.kept k row hrow
    exact ⟨row', hrow', hmove.sameIntent⟩
  · cases hrow : h.jobs.get? k with
    | none =>
      rw [next_absent hop hn k hrow] at hrow'
      cases hrow'
    | some row =>
      obtain ⟨row₁, hrow₁, hmove⟩ := hspec.kept k row hrow
      rw [hrow₁] at hrow'
      cases hrow'
      exact ⟨row, rfl, hmove.sameIntent⟩

/-! ## The invariant -/

/-- What a producer at a stage knows of the table. -/
def StageKnows (a : EnqueueArgs) (t : JobTable) : ProducerStage → Prop
  | .waiting => True
  | .inserting job => ∃ jobType key items, validateEnqueue a = .ok (jobType, key, items) ∧
      job = newJob a jobType key items
  | .rolledBack key => ∃ jobType k items row, validateEnqueue a = .ok (jobType, some k, items) ∧
      key = some k ∧ row ∈ t.rows ∧ row.idempotencyKey = some k
  | .returned jobId => ∃ jobType key items row, validateEnqueue a = .ok (jobType, key, items) ∧
      t.get? jobId = some row ∧ (key = none → jobId = a.newId) ∧
      ∀ k, key = some k → row.idempotencyKey = some k
  | .raised e => validateEnqueue a = .error e

/-- The row has the intent of a producer that has returned it. -/
def HasProducer (args : ι → EnqueueArgs) (stage : ι → ProducerStage) (row : BackgroundJob) : Prop :=
  ∃ i jobType key items, row.id = (args i).newId ∧ stage i = .returned row.id ∧
    validateEnqueue (args i) = .ok (jobType, key, items) ∧
    SameIntent (newJob (args i) jobType key items) row

/-- Keys are unique, the rows there were are there, the others have a producer, and the
producers know what they know. -/
structure Agreed (args : ι → EnqueueArgs) (t₀ : JobTable) (r : Producers ι) : Prop where
  keys : UniqueKeys r.store
  rows : ∀ k row, r.store.get? k = some row →
    (∃ row₀, t₀.get? k = some row₀ ∧ SameIntent row₀ row) ∨ HasProducer args r.stage row
  stages : ∀ i, StageKnows (args i) r.store (r.stage i)

variable {args : ι → EnqueueArgs} {t₀ t t' : JobTable} {r r' : Producers ι}

omit [DecidableEq ι] in
/-- What a producer knows stays true while rows keep their intent. -/
theorem StageKnows.mono {a : EnqueueArgs} {stage : ProducerStage} (h : StageKnows a t stage)
    (hkept : ∀ k row, t.get? k = some row → ∃ row', t'.get? k = some row' ∧ SameIntent row row') :
    StageKnows a t' stage := by
  cases stage with
  | waiting => trivial
  | inserting job => exact h
  | rolledBack key =>
    obtain ⟨jobType, k, items, row, hv, hkey, hrow, hrowKey⟩ := h
    obtain ⟨row', hrow', hsame⟩ := hkept row.id row (Table.get?_of_mem hrow)
    exact ⟨jobType, k, items, row', hv, hkey, Table.mem_of_get? hrow',
      hsame.idempotencyKey.trans hrowKey⟩
  | returned jobId =>
    obtain ⟨jobType, key, items, row, hv, hrow, hown, hrowKey⟩ := h
    obtain ⟨row', hrow', hsame⟩ := hkept jobId row hrow
    exact ⟨jobType, key, items, row', hv, hrow', hown,
      fun k hk => hsame.idempotencyKey.trans (hrowKey k hk)⟩
  | raised e => exact h

/-- A producer that goes on without having returned leaves the rows their producers. -/
theorem HasProducer.goTo {row : BackgroundJob} {i : ι} {stage : ProducerStage}
    (h : HasProducer args r.stage row) (hi : ∀ jobId, r.stage i ≠ .returned jobId) :
    HasProducer args (r.goTo i stage).stage row := by
  obtain ⟨j, jobType, key, items, hid, hj, hv, hsame⟩ := h
  have hij : j ≠ i := by
    intro hij
    subst hij
    exact hi _ hj
  exact ⟨j, jobType, key, items, hid, by rw [Parties.goTo_ne _ _ hij, hj], hv, hsame⟩

/-- A step that does not touch the table. -/
theorem Agreed.goTo {i : ι} {stage : ProducerStage} (h : Agreed args t₀ r)
    (hi : ∀ jobId, r.stage i ≠ .returned jobId) (hstage : StageKnows (args i) r.store stage) :
    Agreed args t₀ (r.goTo i stage) where
  keys := h.keys
  rows k row hrow := (h.rows k row hrow).imp_right fun hproducer => hproducer.goTo hi
  stages j := by
    by_cases hj : j = i
    · subst hj
      rw [Parties.goTo_self]
      exact hstage
    · rw [Parties.goTo_ne _ _ hj]
      exact h.stages j

omit [DecidableEq ι] in
theorem lookUp_knows (a : EnqueueArgs) : StageKnows a t (lookUp t a) := by
  unfold lookUp
  split
  · next e hv => exact hv
  · next jobType key items hv =>
    split
    · next existing hfound =>
      obtain ⟨k, rfl, hfound⟩ := Option.bind_eq_some_iff.mp hfound
      obtain ⟨hmem, hkey⟩ := findByKey_some hfound
      refine ⟨jobType, some k, items, existing, hv, Table.get?_of_mem hmem, by simp, ?_⟩
      intro k' hk'
      exact hkey.trans hk'
    · exact ⟨jobType, key, items, hv, rfl⟩

omit [DecidableEq ι] in
/-- The second lookup finds the row that the insert ran into. -/
theorem lookUpAgain_knows {a : EnqueueArgs} {key : Option String}
    (h : StageKnows a t (.rolledBack key)) : StageKnows a t (lookUpAgain t key) := by
  obtain ⟨jobType, k, items, row, hv, rfl, hrow, hrowKey⟩ := h
  have hsome : (findByKey t k).isSome := findByKey_isSome.mpr ⟨row, hrow, hrowKey⟩
  obtain ⟨existing, hfound⟩ := Option.isSome_iff_exists.mp hsome
  obtain ⟨hmem, hkey⟩ := findByKey_some hfound
  unfold lookUpAgain
  rw [Option.bind_some, hfound]
  exact ⟨jobType, some k, items, existing, hv, Table.get?_of_mem hmem, by simp,
    fun k' hk' => hkey.trans hk'⟩

/-! ## Steps -/

omit [DecidableEq ι] in
/-- An insert that goes through is the whole call at that moment. -/
theorem enqueueJob_of_insertJob {a : EnqueueArgs} {jobType : String} {key : Option String}
    {items : List (String × Value)} (hv : validateEnqueue a = .ok (jobType, key, items))
    (hinsert : insertJob t (newJob a jobType key items) = some t') :
    enqueueJob t a = .ok (newJob a jobType key items, t') := by
  have hfree : key.bind (findByKey t) = none := by
    cases hfound : key.bind (findByKey t) with
    | none => rfl
    | some existing => simp [insertJob, newJob, hfound] at hinsert
  simp only [enqueueJob, hv, Raise.bind_ok, hfree, hinsert]
  rfl

omit [DecidableEq ι] in
/-- An insert is refused where the key or the identifier is taken. -/
theorem insertJob_none {job : BackgroundJob} (h : insertJob t job = none) :
    (∃ k row, job.idempotencyKey = some k ∧ row ∈ t.rows ∧ row.idempotencyKey = some k) ∨
    ∃ row, t.get? job.id = some row := by
  unfold insertJob at h
  split at h
  · next row hfound =>
    obtain ⟨k, hk, hfound⟩ := Option.bind_eq_some_iff.mp hfound
    obtain ⟨hmem, hkey⟩ := findByKey_some hfound
    exact Or.inl ⟨k, row, hk, hmem, hkey⟩
  · cases hrow : t.get? job.id with
    | some row => exact Or.inr ⟨row, rfl⟩
    | none =>
      obtain ⟨t', ht'⟩ := Table.insert_of_free hrow
      rw [ht'] at h
      cases h

/-- With no other statement in between, a producer does what `enqueue_job` does as one call. -/
theorem enqueue_alone {i : ι} (hi : r.stage i = .waiting) :
    ∃ steps r', (producers args t₀).run r steps = some r' ∧
      match enqueueJob r.store (args i) with
      | .ok (job, t) => r'.store = t ∧ r'.stage i = .returned job.id
      | .error e => r'.store = r.store ∧ r'.stage i = .raised e := by
  cases hv : validateEnqueue (args i) with
  | error e =>
    refine ⟨[.lookUp i], r.goTo i (.raised e), ?_, ?_⟩
    · simp [System.run, producers, hi, lookUp, hv]
    · have hraised : enqueueJob r.store (args i) = .error e := by
        simp only [enqueueJob, hv]
        rfl
      rw [hraised]
      exact ⟨rfl, Parties.goTo_self ..⟩
  | ok checked =>
    obtain ⟨jobType, key, items⟩ := checked
    cases hfound : key.bind (findByKey r.store) with
    | some existing =>
      refine ⟨[.lookUp i], r.goTo i (.returned existing.id), ?_, ?_⟩
      · simp [System.run, producers, hi, lookUp, hv, hfound]
      · have hreturned : enqueueJob r.store (args i) = .ok (existing, r.store) := by
          simp [enqueueJob, hv, hfound]
        rw [hreturned]
        exact ⟨rfl, Parties.goTo_self ..⟩
    | none =>
      let job := newJob (args i) jobType key items
      let built := r.goTo i (.inserting job)
      have hbuilt : (producers args t₀).next r (.lookUp i) = some built := by
        simp [producers, hi, lookUp, hv, hfound, built, job]
      cases hinsert : insertJob r.store job with
      | some t =>
        refine ⟨[.lookUp i, .commit i], built.write i (.returned job.id) t, ?_, ?_⟩
        · refine System.run_cons_eq_some.mpr ⟨built, hbuilt, ?_⟩
          simp [System.run, producers, built, hinsert]
        · have hreturned : enqueueJob r.store (args i) = .ok (job, t) := by
            simp [enqueueJob, hv, hfound, hinsert, job]
          rw [hreturned]
          exact ⟨rfl, Parties.write_self ..⟩
      | none =>
        -- the identifier is taken, so the second lookup finds nothing either
        let back := built.goTo i (.rolledBack key)
        have hkey : job.idempotencyKey = key := rfl
        have hback : (producers args t₀).next built (.commit i) = some back := by
          simp [producers, built, back, hinsert, hkey]
        refine ⟨[.lookUp i, .commit i, .lookUpAgain i], back.goTo i (.raised .integrityError), ?_, ?_⟩
        · refine System.run_cons_eq_some.mpr ⟨built, hbuilt, ?_⟩
          refine System.run_cons_eq_some.mpr ⟨back, hback, ?_⟩
          simp [System.run, producers, back, built, lookUpAgain, hfound]
        · have hraised : enqueueJob r.store (args i) = .error .integrityError := by
            simp [enqueueJob, hv, hfound, hinsert, job]
          rw [hraised]
          exact ⟨rfl, Parties.goTo_self ..⟩

/-- The identifiers are drawn once each, and none is in the table at the start. -/
structure FreshIds (args : ι → EnqueueArgs) (t₀ : JobTable) : Prop where
  injective : ∀ i j, (args i).newId = (args j).newId → i = j
  absent : ∀ i, t₀.get? (args i).newId = none

omit [DecidableEq ι] in
/-- The identifier of a producer that has not returned is not in the table. -/
theorem Agreed.newId_absent (h : Agreed args t₀ r) (hids : FreshIds args t₀) {i : ι}
    (hi : ∀ jobId, r.stage i ≠ .returned jobId) : r.store.get? (args i).newId = none := by
  cases hrow : r.store.get? (args i).newId with
  | none => rfl
  | some row =>
    rcases h.rows _ row hrow with ⟨row₀, hrow₀, -⟩ | ⟨j, -, -, -, hid, hj, -⟩
    · rw [hids.absent i] at hrow₀
      cases hrow₀
    · rw [Table.key_of_get? hrow] at hid
      rw [← hids.injective i j hid] at hj
      exact absurd hj (hi _)

theorem Agreed.write {i : ι} {jobType : String} {key : Option String}
    {items : List (String × Value)} (h : Agreed args t₀ r)
    (hi : ∀ jobId, r.stage i ≠ .returned jobId)
    (hv : validateEnqueue (args i) = .ok (jobType, key, items))
    (hinsert : insertJob r.store (newJob (args i) jobType key items) = some t) :
    Agreed args t₀ (r.write i (.returned (args i).newId) t) := by
  have henqueue := enqueueJob_of_insertJob hv hinsert
  obtain ⟨jobType', key', items', hv', ⟨rfl, hfound⟩ | ⟨-, -, hrow⟩⟩ := enqueueJob_ok henqueue
  · -- the row that is inserted was not there before
    rw [hv] at hv'
    cases hv'
    simp [insertJob, newJob, hfound] at hinsert
  have hget := Table.get?_insert hrow
  have habsent := (Table.insert_eq_some hrow).1
  have hkept : ∀ k row, r.store.get? k = some row →
      ∃ row', t.get? k = some row' ∧ SameIntent row row' := by
    intro k row hstored
    refine ⟨row, ?_, .refl row⟩
    rw [hget, if_neg]
    · exact hstored
    · intro hk
      rw [hk, hstored] at habsent
      cases habsent
  refine ⟨h.keys.enqueueJob henqueue, fun k row hstored => ?_, fun j => ?_⟩
  · rw [Parties.write_store, hget] at hstored
    split at hstored
    · cases hstored
      exact Or.inr ⟨i, jobType, key, items, rfl, Parties.write_self .., hv, .refl _⟩
    · exact (h.rows k row hstored).imp_right fun hproducer => hproducer.goTo hi
  · by_cases hj : j = i
    · subst hj
      rw [Parties.write_self, Parties.write_store]
      refine ⟨jobType, key, items, newJob (args j) jobType key items, hv, ?_, fun _ => rfl, ?_⟩
      · exact (hget _).trans (if_pos rfl)
      · intro k hk
        exact hk
    · rw [Parties.write_ne _ _ _ hj, Parties.write_store]
      exact (h.stages j).mono hkept

theorem Agreed.step {a : ProducerAction ι} (h : Agreed args t₀ r) (hids : FreshIds args t₀)
    (hn : (producers args t₀).next r a = some r') : Agreed args t₀ r' := by
  cases a with
  | lookUp i =>
    simp only [producers] at hn
    split at hn
    · next hi =>
      cases hn
      exact h.goTo (by simp [hi]) (lookUp_knows _)
    · cases hn
  | commit i =>
    simp only [producers] at hn
    split at hn
    · next job hi =>
      have hknows := h.stages i
      rw [hi] at hknows
      obtain ⟨jobType, key, items, hv, rfl⟩ := hknows
      have hlive : ∀ jobId, r.stage i ≠ .returned jobId := by simp [hi]
      split at hn
      · next t hinsert =>
        cases hn
        exact h.write hlive hv hinsert
      · next hrefused =>
        cases hn
        refine h.goTo hlive ?_
        rcases insertJob_none hrefused with ⟨k, row, hk, hrow, hrowKey⟩ | ⟨row, hrow⟩
        · have hkey : key = some k := hk
          exact ⟨jobType, k, items, row, hkey ▸ hv, hk, hrow, hrowKey⟩
        · have habsent := h.newId_absent hids hlive
          rw [show (newJob (args i) jobType key items).id = (args i).newId from rfl, habsent] at hrow
          cases hrow
    · cases hn
  | lookUpAgain i =>
    simp only [producers] at hn
    split at hn
    · next key hi =>
      cases hn
      have hknows := h.stages i
      rw [hi] at hknows
      exact h.goTo (by simp [hi]) (lookUpAgain_knows hknows)
    · cases hn
  | other op =>
    simp only [producers] at hn
    split at hn
    · cases hn
    · next hop =>
      obtain ⟨h', hnext, rfl⟩ := Option.map_eq_some_iff.mp hn
      have hsame := SameJobs.of_next (Bool.not_eq_true _ ▸ hop) hnext
      refine ⟨hsame.uniqueKeys h.keys, fun k row' hrow' => ?_, fun i => (h.stages i).mono hsame.kept⟩
      obtain ⟨row, hrow, hintent⟩ := hsame.back k row' hrow'
      have hid : row'.id = row.id := by rw [Table.key_of_get? hrow, Table.key_of_get? hrow']
      rcases h.rows k row hrow with ⟨row₀, hrow₀, h₀⟩ | ⟨i, jobType, key, items, hi, hret, hv, h₀⟩
      · exact Or.inl ⟨row₀, hrow₀, h₀.trans hintent⟩
      · exact Or.inr ⟨i, jobType, key, items, hid.trans hi, hid ▸ hret, hv, h₀.trans hintent⟩

end DeployGuard.Jobs
