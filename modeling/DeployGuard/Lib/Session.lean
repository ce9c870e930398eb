import Mathlib.Logic.Basic

/-!
# Calls on a database session, and their crash points

A call works on a session: `base` is the store the database holds, `cur` the
same store under the writes the session has not committed yet, and `log` every
store the call committed so far, the last one first. A process that dies leaves
the database in `base` as it was at that moment, which is the store the call
began with or one of its commits; so `log` is also the list of crash points.

> `Safe I s c Q E`: run from session `s`, the call commits only stores that
> satisfy `I`, and ends in `Q`, or raises an error in `E`.

`I` is what a crash may rely on. The rules below execute a call symbolically,
statement by statement; `Safe.bind` and `Safe.weaken` put a fact about a callee
to use.
-/

namespace Session

variable {σ ε α β : Type}

/-- A session: the database, the session's view of it, and the commits made. -/
structure State (σ : Type) where
  base : σ
  cur : σ
  log : List σ

/-- A session that has just been opened. -/
def State.start (store : σ) : State σ := ⟨store, store, []⟩

/-- `session.commit()`. -/
def State.committed (s : State σ) : State σ := ⟨s.cur, s.cur, s.cur :: s.log⟩

/-- `session.rollback()`. -/
def State.rolledBack (s : State σ) : State σ := { s with cur := s.base }

/-- A write of the session, not committed. -/
def State.written (s : State σ) (f : σ → σ) : State σ := { s with cur := f s.cur }

/-- An effect outside of the database, seen in both views at once. -/
def State.affected (s : State σ) (f : σ → σ) : State σ := ⟨f s.base, f s.cur, f s.base :: s.log⟩

@[simp] theorem State.start_cur (store : σ) : (State.start store).cur = store := rfl
@[simp] theorem State.start_base (store : σ) : (State.start store).base = store := rfl
@[simp] theorem State.committed_cur (s : State σ) : s.committed.cur = s.cur := rfl
@[simp] theorem State.committed_base (s : State σ) : s.committed.base = s.cur := rfl
@[simp] theorem State.rolledBack_cur (s : State σ) : s.rolledBack.cur = s.base := rfl
@[simp] theorem State.rolledBack_base (s : State σ) : s.rolledBack.base = s.base := rfl
@[simp] theorem State.written_cur (s : State σ) (f : σ → σ) : (s.written f).cur = f s.cur := rfl
@[simp] theorem State.written_base (s : State σ) (f : σ → σ) : (s.written f).base = s.base := rfl

@[simp] theorem State.affected_cur (s : State σ) (f : σ → σ) : (s.affected f).cur = f s.cur := rfl
@[simp] theorem State.affected_base (s : State σ) (f : σ → σ) : (s.affected f).base = f s.base := rfl

/-- Code that works on a session and may raise. -/
def Call (σ ε α : Type) : Type := State σ → Except ε α × State σ

namespace Call

instance : Monad (Call σ ε) where
  pure a := fun s => (.ok a, s)
  bind c f := fun s =>
    match c s with
    | (.ok a, s') => f a s'
    | (.error e, s') => (.error e, s')

/-- A step that does not touch the session. -/
def lift (x : Except ε α) : Call σ ε α := fun s => (x, s)

def raise (e : ε) : Call σ ε α := fun s => (.error e, s)

/-- What the session sees. -/
def read (f : σ → α) : Call σ ε α := fun s => (.ok (f s.cur), s)

/-- A lookup that may raise. -/
def query (f : σ → Except ε α) : Call σ ε α := fun s => (f s.cur, s)

def write (f : σ → σ) : Call σ ε Unit := fun s => (.ok (), s.written f)

def commit : Call σ ε Unit := fun s => (.ok (), s.committed)

def rollback : Call σ ε Unit := fun s => (.ok (), s.rolledBack)

/-- A call to the outside takes effect: it needs no commit, and no rollback takes
it back. The moment after it is a crash point. -/
def external (f : σ → σ) : Call σ ε Unit := fun s => (.ok (), s.affected f)

/-- `try: c`, with what was raised as a value. -/
def attempt (c : Call σ ε α) : Call σ ε (Except ε α) := fun s => (.ok (c s).1, (c s).2)

/-- `try: c` with `except: rollback; handler; raise`. -/
def rescue (c : Call σ ε α) (handler : Call σ ε Unit) : Call σ ε α := fun s =>
  match c s with
  | (.ok a, s') => (.ok a, s')
  | (.error e, s') => (do rollback; handler; raise e : Call σ ε α) s'

/-- The call in a session of its own: how it ended and what the database holds. -/
def run (c : Call σ ε α) (store : σ) : Except ε α × σ :=
  let (result, s) := c (State.start store)
  (result, s.base)

/-- The stores the call commits on a database, the last one first. -/
def commits (c : Call σ ε α) (store : σ) : List σ := (c (State.start store)).2.log

/-- What a crash may leave of the call: the database as it was, or as it was
after any of the commits, in their order. -/
def crashPoints (c : Call σ ε α) (store : σ) : List σ := store :: (c.commits store).reverse

/-- A call goes on with what its first part returned. -/
theorem bind_of_ok {c : Call σ ε α} {f : α → Call σ ε β} {s s' : State σ} {a : α}
    (h : c s = (.ok a, s')) : (c >>= f) s = f a s' := by
  show (match c s with
    | (.ok a, s') => f a s'
    | (.error e, s') => (.error e, s')) = _
  rw [h]

/-- An error ends the call where it was raised. -/
theorem bind_of_error {c : Call σ ε α} {f : α → Call σ ε β} {s s' : State σ} {e : ε}
    (h : c s = (.error e, s')) : (c >>= f) s = (.error e, s') := by
  show (match c s with
    | (.ok a, s') => f a s'
    | (.error e, s') => (.error e, s')) = _
  rw [h]

/-- A run is judged by what it committed. -/
theorem run_def (c : Call σ ε α) (store : σ) :
    c.run store = ((c (State.start store)).1, (c (State.start store)).2.base) := rfl

/-- A sequence of two parts returned: both did. -/
theorem bind_eq_ok {c : Call σ ε α} {f : α → Call σ ε β} {s s'' : State σ} {b : β} :
    (c >>= f) s = (.ok b, s'') ↔ ∃ a s', c s = (.ok a, s') ∧ f a s' = (.ok b, s'') := by
  cases hc : c s with
  | mk result s' =>
    cases result with
    | error e =>
      rw [bind_of_error hc]
      constructor
      · intro h
        cases h
      · intro h
        obtain ⟨a, t, ht, -⟩ := h
        cases ht
    | ok a =>
      rw [bind_of_ok hc]
      constructor
      · intro h
        exact ⟨a, s', rfl, h⟩
      · intro h
        obtain ⟨a', t, ht, h⟩ := h
        cases ht
        exact h

/-- A call that returned got past its query. -/
theorem query_bind_eq_ok {g : σ → Except ε α} {f : α → Call σ ε β} {s s' : State σ} {b : β} :
    (query g >>= f) s = (.ok b, s') ↔ ∃ a, g s.cur = .ok a ∧ f a s = (.ok b, s') := by
  rw [bind_eq_ok]
  constructor
  · intro h
    obtain ⟨a, t, ht, h⟩ := h
    obtain ⟨ha, rfl⟩ := Prod.mk.inj ht
    exact ⟨a, ha, h⟩
  · intro h
    obtain ⟨a, ha, h⟩ := h
    exact ⟨a, s, by rw [query, ha], h⟩

/-- A call that returned got past its check. -/
theorem lift_bind_eq_ok {x : Except ε α} {f : α → Call σ ε β} {s s' : State σ} {b : β} :
    (lift x >>= f) s = (.ok b, s') ↔ ∃ a, x = .ok a ∧ f a s = (.ok b, s') := by
  rw [show (lift x : Call σ ε α) = query (fun _ => x) from rfl, query_bind_eq_ok]

/-- Returning changes nothing. -/
theorem pure_eq_ok {a b : α} {s s' : State σ} :
    (pure a : Call σ ε α) s = (.ok b, s') ↔ a = b ∧ s = s' := by
  show ((.ok a : Except ε α), s) = (.ok b, s') ↔ _
  rw [Prod.mk.injEq, Except.ok.injEq]

/-- The run of a call whose outcome is known. -/
theorem run_eq {c : Call σ ε α} {store : σ} {s : State σ} {result : Except ε α}
    (h : c (State.start store) = (result, s)) : c.run store = (result, s.base) := by
  rw [run_def, h]

/-- `pure` returns in the state it was given. -/
@[simp] theorem pure_apply (a : α) (s : State σ) : (pure a : Call σ ε α) s = (.ok a, s) := rfl

/-- A read sees the transaction's own view. -/
@[simp] theorem read_bind_apply (g : σ → α) (f : α → Call σ ε β) (s : State σ) :
    (read g >>= f) s = f (g s.cur) s := rfl

/-- A write shows in the transaction's view. -/
@[simp] theorem write_bind_apply (g : σ → σ) (f : Unit → Call σ ε β) (s : State σ) :
    (write g >>= f) s = f () (s.written g) := rfl

/-- What follows a commit starts from the committed view. -/
@[simp] theorem commit_bind_apply (f : Unit → Call σ ε β) (s : State σ) :
    (commit >>= f) s = f () s.committed := rfl

/-- `try … except` goes on with the outcome, whatever it is. -/
@[simp] theorem attempt_bind_apply (c : Call σ ε α) (f : Except ε α → Call σ ε β) (s : State σ) :
    (attempt c >>= f) s = f (c s).1 (c s).2 := rfl

/-- A query that finds its row goes on with it. -/
theorem query_ok_bind {g : σ → Except ε α} {f : α → Call σ ε β} {s : State σ} {a : α}
    (h : g s.cur = .ok a) : (query g >>= f) s = f a s :=
  bind_of_ok (by rw [query, h])

/-- A query that raises ends the call with the store as it was. -/
theorem query_error_bind {g : σ → Except ε α} {f : α → Call σ ε β} {s : State σ} {e : ε}
    (h : g s.cur = .error e) : (query g >>= f) s = (.error e, s) :=
  bind_of_error (by rw [query, h])

/-- A check that passes leaves the rest of the call. -/
theorem lift_ok_bind {x : Except ε α} {f : α → Call σ ε β} {s : State σ} {a : α}
    (h : x = .ok a) : (lift x >>= f) s = f a s :=
  bind_of_ok (by rw [lift, h])

/-- A check that fails ends the call with the store as it was. -/
theorem lift_error_bind {x : Except ε α} {f : α → Call σ ε β} {s : State σ} {e : ε}
    (h : x = .error e) : (lift x >>= f) s = (.error e, s) :=
  bind_of_error (by rw [lift, h])

/-- The value of a sequence, where the second part's does not depend on the session. -/
theorem bind_fst {c : Call σ ε α} {f : α → Call σ ε β} {s : State σ} {x : Except ε α}
    {g : α → Except ε β} (hc : (c s).1 = x) (hf : ∀ a s', (f a s').1 = g a) :
    ((c >>= f) s).1 = x >>= g := by
  cases h : c s with
  | mk result s' =>
    rw [h] at hc
    subst hc
    cases result with
    | error e =>
      rw [bind_of_error h]
      rfl
    | ok a =>
      rw [bind_of_ok h]
      exact hf a s'

/-- A rescued call returned: nothing was raised in it. -/
theorem rescue_eq_ok {c : Call σ ε α} {handler : Call σ ε Unit} {s s' : State σ} {a : α} :
    rescue c handler s = (.ok a, s') ↔ c s = (.ok a, s') := by
  unfold rescue
  cases hc : c s with
  | mk result t =>
    cases result with
    | ok b => exact Iff.rfl
    | error e =>
      refine iff_of_false (fun h => ?_) (fun h => nomatch h)
      obtain ⟨_, _, -, h⟩ := bind_eq_ok.mp h
      obtain ⟨_, _, -, h⟩ := bind_eq_ok.mp h
      cases h

end Call

/-! ## Crash-safe execution -/

/-- What the database holds, the session sees and every commit satisfy `I`. -/
structure State.All (I : σ → Prop) (s : State σ) : Prop where
  base : I s.base
  cur : I s.cur
  log : ∀ t ∈ s.log, I t

/-- A transaction on a good store has two good views. -/
theorem State.All.start {I : σ → Prop} {store : σ} (h : I store) : (State.start store).All I :=
  ⟨h, h, nofun⟩

/-- Committing a good view leaves two good views. -/
theorem State.All.committed {I : σ → Prop} {s : State σ} (h : s.All I) : s.committed.All I :=
  ⟨h.cur, h.cur, by
    intro t ht
    rcases List.mem_cons.mp ht with rfl | ht
    · exact h.cur
    · exact h.log t ht⟩

theorem State.All.rolledBack {I : σ → Prop} {s : State σ} (h : s.All I) : s.rolledBack.All I :=
  ⟨h.base, h.base, h.log⟩

/-- A write that keeps the invariant keeps it in the view it changes. -/
theorem State.All.written {I : σ → Prop} {s : State σ} {f : σ → σ} (h : s.All I)
    (hf : I (f s.cur)) : (s.written f).All I :=
  ⟨h.base, hf, h.log⟩

/-- How a call may end. -/
def Ends (Q : α → State σ → Prop) (E : ε → Prop) : Except ε α × State σ → Prop
  | (.ok a, s) => Q a s
  | (.error e, _) => E e

/-- Run from `s`, the call commits only stores that satisfy `I`, and ends in `Q`
or raises an error in `E`. -/
def Safe (I : σ → Prop) (s : State σ) (c : Call σ ε α) (Q : α → State σ → Prop) (E : ε → Prop) :
    Prop :=
  s.All I → (c s).2.All I ∧ Ends Q E (c s)

namespace Safe

open Call

variable {I : σ → Prop} {s : State σ} {c : Call σ ε α} {f : α → Call σ ε β}
  {Q : α → State σ → Prop} {R : β → State σ → Prop} {E : ε → Prop}

/-- Returning is safe where the postcondition holds. -/
theorem pure {a : α} (h : Q a s) : Safe I s (Pure.pure a : Call σ ε α) Q E := fun hs => ⟨hs, h⟩

theorem raise {e : ε} (h : E e) : Safe I s (Call.raise e) Q E := fun hs => ⟨hs, h⟩

/-- The rest runs from where the first part ended. -/
theorem bind (h : Safe I s c (fun a s' => Safe I s' (f a) R E) E) : Safe I s (c >>= f) R E := by
  intro hs
  obtain ⟨hall, hend⟩ := h hs
  show ((match c s with
    | (.ok a, s') => f a s'
    | (.error e, s') => (.error e, s') : Except ε β × State σ)).2.All I ∧ Ends R E _
  cases hc : c s with
  | mk result s' =>
    rw [hc] at hall hend
    cases result with
    | error e => exact ⟨hall, by simpa [Bind.bind, hc, Ends] using hend⟩
    | ok a =>
      have h' := hend hall
      exact ⟨h'.1, by simpa [Bind.bind, hc] using h'.2⟩

/-- The rule of consequence. -/
theorem weaken {Q' : α → State σ → Prop} {E' : ε → Prop} (h : Safe I s c Q' E')
    (hQ : ∀ a s', s'.All I → Q' a s' → Q a s') (hE : ∀ e, E' e → E e) : Safe I s c Q E := by
  intro hs
  obtain ⟨hall, hend⟩ := h hs
  refine ⟨hall, ?_⟩
  cases hc : c s with
  | mk result s' =>
    rw [hc] at hall hend
    cases result with
    | error e => exact hE e hend
    | ok a => exact hQ a s' hall hend

/-- The rest runs from any session the first part may end in. -/
theorem seq (h : Safe I s c Q E) (hf : ∀ a s', s'.All I → Q a s' → Safe I s' (f a) R E) :
    Safe I s (c >>= f) R E := bind (h.weaken hf fun _ he => he)

/-- Only what the call does from the session matters. -/
theorem congr {c' : Call σ ε α} (h : c s = c' s) (h' : Safe I s c' Q E) : Safe I s c Q E := by
  unfold Safe
  rw [h]
  exact h'

/-- A call that is known to return. -/
theorem of_ok {a : α} {s' : State σ} (h : c s = (.ok a, s')) (hall : s.All I → s'.All I)
    (hQ : Q a s') : Safe I s c Q E := by
  unfold Safe
  rw [h]
  exact fun hs => ⟨hall hs, hQ⟩

/-- A property the session has may be used. -/
theorem of_all (h : s.All I → Safe I s c Q E) : Safe I s c Q E := fun hs => h hs hs

/-- A check is safe when both of its outcomes are. -/
theorem lift {x : Except ε α} (hok : ∀ a, x = .ok a → Q a s) (herr : ∀ e, x = .error e → E e) :
    Safe I s (Call.lift x) Q E := by
  refine fun hs => ⟨hs, ?_⟩
  cases hx : x with
  | error e => exact herr e hx
  | ok a => exact hok a hx

/-- A check in front of a call. -/
theorem lift_bind {x : Except ε α} (hok : ∀ a, x = .ok a → Safe I s (f a) R E)
    (herr : ∀ e, x = .error e → E e) : Safe I s (Call.lift x >>= f) R E := bind (lift hok herr)

/-- A check that is known to pass. -/
theorem lift_ok_bind {x : Except ε α} {a : α} (hx : x = .ok a) (h : Safe I s (f a) R E) :
    Safe I s (Call.lift x >>= f) R E := by
  subst hx
  exact bind fun hs => ⟨hs, h⟩

/-- A query in front of a call. -/
theorem query_bind {g : σ → Except ε α} (hok : ∀ a, g s.cur = .ok a → Safe I s (f a) R E)
    (herr : ∀ e, g s.cur = .error e → E e) : Safe I s (query g >>= f) R E := by
  refine bind fun hs => ⟨hs, ?_⟩
  cases hx : g s.cur with
  | error e => simpa [query, hx, Ends] using herr e hx
  | ok a => simpa [query, hx, Ends] using hok a hx

/-- A read in front of a call, which is safe for what is read. -/
theorem read_bind {g : σ → α} (h : Safe I s (f (g s.cur)) R E) : Safe I s (read g >>= f) R E :=
  bind fun hs => ⟨hs, h⟩

/-- A write is safe when it keeps the invariant. -/
theorem write {g : σ → σ} {Q : Unit → State σ → Prop} (hI : I s.cur → I (g s.cur))
    (h : Q () (s.written g)) : Safe I s (Call.write g) Q E := fun hs => ⟨hs.written (hI hs.cur), h⟩

/-- A write in front of a call. -/
theorem write_bind {g : σ → σ} {f : Unit → Call σ ε β} (hI : I s.cur → I (g s.cur))
    (h : Safe I (s.written g) (f ()) R E) : Safe I s (Call.write g >>= f) R E := bind (write hI h)

/-- A commit is safe: the view it commits is good. -/
theorem commit {Q : Unit → State σ → Prop} (h : Q () s.committed) : Safe I s Call.commit Q E :=
  fun hs => ⟨hs.committed, h⟩

/-- A commit in front of a call. -/
theorem commit_bind {f : Unit → Call σ ε β} (h : Safe I s.committed (f ()) R E) :
    Safe I s (Call.commit >>= f) R E := bind (commit h)

/-- A rollback in front of a call. -/
theorem rollback_bind {f : Unit → Call σ ε β} (h : Safe I s.rolledBack (f ()) R E) :
    Safe I s (rollback >>= f) R E :=
  bind fun hs => ⟨hs.rolledBack, h⟩

/-- An effect outside the transaction has to keep the invariant of both views. -/
theorem external {g : σ → σ} {Q : Unit → State σ → Prop} (hbase : I s.base → I (g s.base))
    (hcur : I s.cur → I (g s.cur)) (h : Q () (s.affected g)) :
    Safe I s (Call.external g) Q E := by
  refine fun hs => ⟨⟨hbase hs.base, hcur hs.cur, fun t ht => ?_⟩, h⟩
  rcases List.mem_cons.mp ht with rfl | ht
  · exact hbase hs.base
  · exact hs.log t ht

/-- Such an effect in front of a call. -/
theorem external_bind {g : σ → σ} {f : Unit → Call σ ε β} (hbase : I s.base → I (g s.base))
    (hcur : I s.cur → I (g s.cur)) (h : Safe I (s.affected g) (f ()) R E) :
    Safe I s (Call.external g >>= f) R E := bind (external hbase hcur h)

/-- Where the body raised, the rest starts in any session the body may have left. -/
theorem attempt_bind {f : Except ε α → Call σ ε β} {Q' : α → State σ → Prop} {E' : ε → Prop}
    (h : Safe I s c Q' E') (hok : ∀ a s', Q' a s' → Safe I s' (f (.ok a)) R E)
    (herr : ∀ e s', E' e → Safe I s' (f (.error e)) R E) :
    Safe I s (Call.attempt c >>= f) R E := by
  refine bind fun hs => ?_
  obtain ⟨hall, hend⟩ := h hs
  refine ⟨hall, ?_⟩
  unfold Call.attempt
  cases hc : c s with
  | mk result s' =>
    rw [hc] at hend
    cases result with
    | ok a => exact hok a s' hend
    | error e => exact herr e s' hend

/-- The handler starts on the last commit, whatever the body had reached. -/
theorem rescue {handler : Call σ ε Unit} {Q' : α → State σ → Prop} {E' : ε → Prop}
    (h : Safe I s c Q' E') (hQ : ∀ a s', Q' a s' → Q a s') (hE : ∀ e, E' e → E e)
    (hh : ∀ s' : State σ, s'.cur = s'.base → Safe I s' handler (fun _ _ => True) E) :
    Safe I s (Call.rescue c handler) Q E := by
  intro hs
  obtain ⟨hall, hend⟩ := h hs
  unfold Call.rescue
  cases hc : c s with
  | mk result s' =>
    rw [hc] at hall hend
    cases result with
    | ok a => exact ⟨hall, hQ a s' hend⟩
    | error e =>
      have h' : Safe I s' (do rollback; handler; Call.raise e : Call σ ε α) Q E :=
        rollback_bind (bind ((hh _ rfl).weaken (fun _ _ _ _ => raise (hE e hend)) fun _ he => he))
      exact h' hall

/-- What a safe call leaves in the database when it is run on its own. -/
theorem run_ok {store : σ} {a : α} (h : Safe I (State.start store) c Q E) (hI : I store)
    {store' : σ} (hrun : c.run store = (.ok a, store')) :
    I store' ∧ ∃ s', s'.base = store' ∧ Q a s' := by
  obtain ⟨hall, hend⟩ := h (.start hI)
  rw [run_def] at hrun
  cases hc : c (State.start store) with
  | mk result s' =>
    rw [hc] at hrun hall hend
    obtain ⟨rfl, rfl⟩ := Prod.mk.inj hrun
    exact ⟨hall.base, s', rfl, hend⟩

/-- A safe call that raises leaves a good store and an admitted error. -/
theorem run_error {store : σ} {e : ε} (h : Safe I (State.start store) c Q E) (hI : I store)
    {store' : σ} (hrun : c.run store = (.error e, store')) : I store' ∧ E e := by
  obtain ⟨hall, hend⟩ := h (.start hI)
  rw [run_def] at hrun
  cases hc : c (State.start store) with
  | mk result s' =>
    rw [hc] at hrun hall hend
    obtain ⟨rfl, rfl⟩ := Prod.mk.inj hrun
    exact ⟨hall.base, hend⟩

/-- Every crash point of a safe call satisfies the crash condition. -/
theorem crashPoints {store t : σ} (h : Safe I (State.start store) c Q E) (hI : I store)
    (ht : t ∈ c.crashPoints store) : I t := by
  rcases List.mem_cons.mp ht with rfl | ht
  · exact hI
  · exact (h (.start hI)).1.log t (List.mem_reverse.mp ht)

/-- A safe call leaves a good store however it ends. -/
theorem run_base {store : σ} (h : Safe I (State.start store) c Q E) (hI : I store) :
    I (c.run store).2 :=
  (h (.start hI)).1.base

end Safe

/-! ## What a call leaves alone -/

/-- The call keeps a part of the database, and of what the session sees, as it is. -/
def Call.Keeps {τ : Type} (part : σ → τ) (c : Call σ ε α) : Prop :=
  ∀ s, part (c s).2.base = part s.base ∧ part (c s).2.cur = part s.cur

namespace Call.Keeps

variable {τ : Type} {part : σ → τ}

/-- Returning keeps every part of the store. -/
theorem pure {a : α} : Call.Keeps part (Pure.pure a : Call σ ε α) := fun _ => ⟨rfl, rfl⟩

theorem lift {x : Except ε α} : Call.Keeps part (Call.lift x) := fun _ => ⟨rfl, rfl⟩

/-- An effect keeps the parts it does not touch. -/
theorem external {f : σ → σ} (h : ∀ store, part (f store) = part store) :
    Call.Keeps part (Call.external f : Call σ ε Unit) := fun s => ⟨h s.base, h s.cur⟩

/-- A call keeps what both of its halves keep. -/
theorem bind {c : Call σ ε α} {f : α → Call σ ε β} (hc : Call.Keeps part c)
    (hf : ∀ a, Call.Keeps part (f a)) : Call.Keeps part (c >>= f) := by
  intro s
  have hfirst := hc s
  cases h : c s with
  | mk result s' =>
    rw [h] at hfirst
    cases result with
    | error e =>
      rw [bind_of_error h]
      exact hfirst
    | ok a =>
      rw [bind_of_ok h]
      have hrest := hf a s'
      exact ⟨hrest.1.trans hfirst.1, hrest.2.trans hfirst.2⟩

end Call.Keeps

end Session
