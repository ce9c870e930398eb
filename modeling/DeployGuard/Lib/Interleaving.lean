import DeployGuard.Lib.Session
import DeployGuard.Lib.Transition
import Mathlib.Logic.Function.Basic

/-!
# Calls side by side

Any number of parties work on one store, each at a stage of its own; a step is a
statement of one of them. `goTo` moves one party and leaves the others where they
are.

The second half is the shape most calls have: one statement reads what the call
needs, checks it and keeps it, a later one commits, on a store that may have moved
on in between. `ReadCommit.step_cases` says what a step of such a system is, and
`ReadCommit.read_from` what a call in progress still knows: that it read what it
keeps from some store with what all stores of the run have in common. `perform` is
such a call with nothing in between, and `perform_alone` compares the two.
-/

namespace Interleaving

open Transition

/-- A store and the stage of every party. -/
structure Parties (ι σ τ : Type) where
  store : σ
  stage : ι → τ

section Parties

variable {ι σ τ : Type} [DecidableEq ι]

namespace Parties

/-- A party goes on. -/
def goTo (r : Parties ι σ τ) (i : ι) (stage : τ) : Parties ι σ τ :=
  { r with stage := Function.update r.stage i stage }

/-- A party goes on and writes. -/
def write (r : Parties ι σ τ) (i : ι) (stage : τ) (store : σ) : Parties ι σ τ :=
  ⟨store, Function.update r.stage i stage⟩

variable (r : Parties ι σ τ) {i j : ι} (stage : τ) (store : σ)

@[simp] theorem goTo_store : (r.goTo i stage).store = r.store := rfl

@[simp] theorem goTo_self : (r.goTo i stage).stage i = stage := Function.update_self ..

theorem goTo_ne (h : j ≠ i) : (r.goTo i stage).stage j = r.stage j := Function.update_of_ne h ..

@[simp] theorem write_store : (r.write i stage store).store = store := rfl

@[simp] theorem write_self : (r.write i stage store).stage i = stage := Function.update_self ..

theorem write_ne (h : j ≠ i) : (r.write i stage store).stage j = r.stage j :=
  Function.update_of_ne h ..

end Parties

end Parties

/-! ## Read, then commit -/

section Perform

open Session Session.Call

variable {σ ε κ α : Type}

/-- A call that reads and checks, then writes and commits, and answers. -/
def perform (load : σ → Except ε κ) (save : κ → σ → Except ε σ) (answer : κ → σ → Except ε α) :
    Call σ ε α := do
  let snapshot ← query load
  let store ← query (save snapshot)
  write fun _ => store
  commit
  query (answer snapshot)

section Outcomes

variable {load : σ → Except ε κ} {save : κ → σ → Except ε σ} {answer : κ → σ → Except ε α}
  {s t : σ} {k : κ} {e : ε}

theorem perform_load_error (h : load s = .error e) :
    (perform load save answer).run s = (.error e, s) :=
  run_eq (query_error_bind h)

theorem perform_save_error (h : load s = .ok k) (h' : save k s = .error e) :
    (perform load save answer).run s = (.error e, s) := by
  have hrun : perform load save answer (State.start s) = (.error e, State.start s) := by
    rw [perform, query_ok_bind h]
    exact query_error_bind h'
  exact run_eq hrun

theorem perform_ok (h : load s = .ok k) (h' : save k s = .ok t) :
    (perform load save answer).run s = (answer k t, t) := by
  have hrun : perform load save answer (State.start s) =
      (answer k t, ((State.start s).written fun _ => t).committed) := by
    rw [perform, query_ok_bind h, query_ok_bind h']
    rfl
  exact run_eq hrun

/-- What is read may be wrapped, if what is saved does not depend on it. -/
theorem perform_map {κ' β : Type} {f : κ → κ'} {load' : σ → Except ε κ'}
    {save' : κ' → σ → Except ε σ} {answer' : κ' → σ → Except ε β}
    (hmap : ∀ s, load' s = (load s).map f) (hsame : ∀ k s, save' (f k) s = save k s) :
    ((perform load' save' answer').run s).2 = ((perform load save answer).run s).2 := by
  cases hload : load s with
  | error e =>
    have hload' : load' s = .error e := by
      rw [hmap, hload]
      rfl
    rw [perform_load_error hload, perform_load_error hload']
  | ok k =>
    have hload' : load' s = .ok (f k) := by
      rw [hmap, hload]
      rfl
    cases hsave : save k s with
    | error e =>
      rw [perform_save_error hload hsave, perform_save_error hload' ((hsame k s).trans hsave)]
    | ok t => rw [perform_ok hload hsave, perform_ok hload' ((hsame k s).trans hsave)]

end Outcomes

/-- It leaves the store as it was, or as it was saved. -/
theorem perform_run (load : σ → Except ε κ) (save : κ → σ → Except ε σ)
    (answer : κ → σ → Except ε α) (s : σ) :
    (∃ e, (perform load save answer).run s = (.error e, s)) ∨
      ∃ snapshot store, load s = .ok snapshot ∧ save snapshot s = .ok store ∧
        (perform load save answer).run s = (answer snapshot store, store) := by
  cases hload : load s with
  | error e => exact Or.inl ⟨e, perform_load_error hload⟩
  | ok snapshot =>
    cases hsave : save snapshot s with
    | error e => exact Or.inl ⟨e, perform_save_error hload hsave⟩
    | ok store => exact Or.inr ⟨snapshot, store, rfl, hsave, perform_ok hload hsave⟩

theorem perform_store (load : σ → Except ε κ) (save : κ → σ → Except ε σ)
    (answer : κ → σ → Except ε α) (s : σ) :
    ((perform load save answer).run s).2 = s ∨
      ∃ snapshot store, load s = .ok snapshot ∧ save snapshot s = .ok store ∧
        ((perform load save answer).run s).2 = store := by
  rcases perform_run load save answer s with ⟨e, hrun⟩ | ⟨snapshot, store, hload, hsave, hrun⟩
  · exact Or.inl (by rw [hrun])
  · exact Or.inr ⟨snapshot, store, hload, hsave, by rw [hrun]⟩

/-- If it always has an answer, a call that raises has changed nothing. -/
theorem perform_rejected {load : σ → Except ε κ} {save : κ → σ → Except ε σ}
    {answer : κ → σ → Except ε α} {s : σ} {e : ε}
    (hanswer : ∀ k t, load s = .ok k → save k s = .ok t → ∃ a, answer k t = .ok a)
    (h : ((perform load save answer).run s).1 = .error e) :
    ((perform load save answer).run s).2 = s := by
  rcases perform_run load save answer s with ⟨e, hrun⟩ | ⟨k, t, hload, hsave, hrun⟩
  · rw [hrun]
  · obtain ⟨a, ha⟩ := hanswer k t hload hsave
    rw [hrun, ha] at h
    cases h

end Perform

namespace ReadCommit

/-- How far a call has come: `κ` is what it read. -/
inductive Stage (κ ε : Type) where
  | waiting
  | holding (snapshot : κ)
  | failed (e : ε)
  | succeeded

/-- The two statements of each call. -/
structure Program (ι σ κ ε : Type) where
  read : ι → σ → Except ε κ
  commit : ι → κ → σ → Except ε σ

inductive Action (ι : Type) where
  | read (i : ι)
  | commit (i : ι)
  deriving DecidableEq

variable {ι σ κ ε : Type} [DecidableEq ι]

abbrev State (ι σ κ ε : Type) := Parties ι σ (Stage κ ε)

def readStage : Except ε κ → Stage κ ε
  | .ok snapshot => .holding snapshot
  | .error e => .failed e

def commitTo (r : State ι σ κ ε) (i : ι) : Except ε σ → State ι σ κ ε
  | .ok store => r.write i .succeeded store
  | .error e => r.goTo i (.failed e)

/-- The calls of a program on a store that satisfies `start`, none of them begun. -/
def system (P : Program ι σ κ ε) (start : σ → Prop) : System (State ι σ κ ε) (Action ι) where
  init r := start r.store ∧ r.stage = fun _ => .waiting
  next r
    | .read i =>
      match r.stage i with
      | .waiting => some (r.goTo i (readStage (P.read i r.store)))
      | _ => none
    | .commit i =>
      match r.stage i with
      | .holding snapshot => some (commitTo r i (P.commit i snapshot r.store))
      | _ => none

/-- The call has not come to its end. -/
def Stage.live : Stage κ ε → Bool
  | .waiting | .holding _ => true
  | .failed _ | .succeeded => false

def Stage.isSucceeded : Stage κ ε → Bool
  | .succeeded => true
  | _ => false

theorem not_succeeded_of_live {stage : Stage κ ε} (h : stage.live = true) :
    stage.isSucceeded = false := by
  cases stage with
  | succeeded => cases h
  | _ => rfl

variable {P : Program ι σ κ ε} {start : σ → Prop} {r r' : State ι σ κ ε} {a : Action ι}

/-- A step reads, fails, or commits. -/
theorem step_cases (h : (system P start).next r a = some r') :
    (∃ i snapshot, a = .read i ∧ r.stage i = .waiting ∧ P.read i r.store = .ok snapshot ∧
      r' = r.goTo i (.holding snapshot)) ∨
    (∃ i e, (a = .read i ∨ a = .commit i) ∧ (r.stage i).live = true ∧
      r' = r.goTo i (.failed e)) ∨
    ∃ i snapshot store, a = .commit i ∧ r.stage i = .holding snapshot ∧
      P.commit i snapshot r.store = .ok store ∧ r' = r.write i .succeeded store := by
  cases a with
  | read i =>
    cases hi : r.stage i with
    | waiting =>
      obtain rfl : r.goTo i (readStage (P.read i r.store)) = r' := by simpa [system, hi] using h
      cases hread : P.read i r.store with
      | ok snapshot => exact Or.inl ⟨i, snapshot, rfl, hi, hread, rfl⟩
      | error e => exact Or.inr (Or.inl ⟨i, e, Or.inl rfl, by rw [hi]; rfl, rfl⟩)
    | _ => simp [system, hi] at h
  | commit i =>
    cases hi : r.stage i with
    | holding snapshot =>
      obtain rfl : commitTo r i (P.commit i snapshot r.store) = r' := by
        simpa [system, hi] using h
      cases hcommit : P.commit i snapshot r.store with
      | ok store => exact Or.inr (Or.inr ⟨i, snapshot, store, rfl, hi, hcommit, rfl⟩)
      | error e => exact Or.inr (Or.inl ⟨i, e, Or.inr rfl, by rw [hi]; rfl, rfl⟩)
    | _ => simp [system, hi] at h

/-- A property every commit keeps holds of the store, and of the stores the calls in
progress read from. -/
theorem read_from {C : State ι σ κ ε → Action ι → Prop} {J : σ → Prop}
    (hstart : ∀ s, start s → J s)
    (hcommit : ∀ i k s t, J s → P.commit i k s = .ok t → J t)
    (h : ReachableBy (system P start) C r) :
    J r.store ∧ ∀ i k, r.stage i = .holding k → ∃ s, J s ∧ P.read i s = .ok k := by
  -- What a party holds was read from a state the invariant held of, which stays true.
  have hinv : Invariant (system P start) C (fun r =>
      J r.store ∧ ∀ i k, r.stage i = .holding k → ∃ s, J s ∧ P.read i s = .ok k) := by
    refine ⟨fun r hinit => ?_, fun r a r' hr _ hstep => ?_⟩
    · refine ⟨hstart _ hinit.1, fun i k hk => ?_⟩
      rw [hinit.2] at hk
      cases hk
    · obtain ⟨hstore, hread⟩ := hr
      rcases step_cases hstep with ⟨j, k', -, -, hload, rfl⟩ | ⟨j, e, -, -, rfl⟩ |
        ⟨j, k', store, -, -, hsave, rfl⟩
      · refine ⟨hstore, fun i k hk => ?_⟩
        by_cases hij : i = j
        · subst hij
          rw [Parties.goTo_self, Stage.holding.injEq] at hk
          -- the party reads now
          exact ⟨r.store, hstore, hk ▸ hload⟩
        · rw [Parties.goTo_ne _ _ hij] at hk
          exact hread i k hk
      · refine ⟨hstore, fun i k hk => ?_⟩
        by_cases hij : i = j
        · subst hij
          rw [Parties.goTo_self] at hk
          cases hk
        · rw [Parties.goTo_ne _ _ hij] at hk
          exact hread i k hk
      · refine ⟨hcommit j k' r.store store hstore hsave, fun i k hk => ?_⟩
        by_cases hij : i = j
        · subst hij
          rw [Parties.write_self] at hk
          cases hk
        · rw [Parties.write_ne _ _ _ hij] at hk
          exact hread i k hk
  exact hinv.reachable h

/-- With nothing in between, the statements leave what the call leaves. -/
theorem perform_alone {α : Type} {i : ι} (hi : r.stage i = .waiting)
    (answer : κ → σ → Except ε α) :
    ∃ steps r', (system P start).run r steps = some r' ∧
      r'.store = ((perform (P.read i) (P.commit i) answer).run r.store).2 ∧
      (r'.stage i).live = false := by
  cases hload : P.read i r.store with
  | error e =>
    refine ⟨[.read i], r.goTo i (.failed e), ?_, ?_, by rw [Parties.goTo_self]; rfl⟩
    · simp [System.run, system, hi, hload, readStage]
    · rw [perform_load_error hload, Parties.goTo_store]
  | ok k =>
    let held := r.goTo i (.holding k)
    have hread : (system P start).next r (.read i) = some held := by
      simp [system, hi, hload, readStage, held]
    cases hsave : P.commit i k r.store with
    | error e =>
      refine ⟨[.read i, .commit i], held.goTo i (.failed e), ?_, ?_,
        by rw [Parties.goTo_self]; rfl⟩
      · refine System.run_cons_eq_some.mpr ⟨held, hread, ?_⟩
        simp [System.run, system, held, hsave, commitTo]
      · rw [perform_save_error hload hsave]
        rfl
    | ok store =>
      refine ⟨[.read i, .commit i], held.write i .succeeded store, ?_, ?_,
        by rw [Parties.write_self]; rfl⟩
      · refine System.run_cons_eq_some.mpr ⟨held, hread, ?_⟩
        simp [System.run, system, held, hsave, commitTo]
      · rw [perform_ok hload hsave, Parties.write_store]

end ReadCommit

end Interleaving
