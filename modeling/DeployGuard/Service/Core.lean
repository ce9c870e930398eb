import DeployGuard.Jobs.Queue
import DeployGuard.Lib.Dict
import DeployGuard.Lib.Json
import DeployGuard.Lib.Schema
import Mathlib.Data.List.Dedup

/-!
# Services: errors and the standard library

What the service modules raise, and what they take from Python's library. A
`Host` holds the library functions that depend on Unicode tables, calendars or
cryptography; `lower` carries what the services rely on, that it is the ASCII
lower case on ASCII text.
-/

namespace DeployGuard.Service

open Raise

/-- The exceptions of the service modules. -/
inductive ServiceError where
  /-- `DomainError(detail, code, status_code)` -/
  | domain (detail code : String) (statusCode : Nat)
  /-- `pydantic.ValidationError` -/
  | validation (errors : Schema.Errors)
  | queue (error : Jobs.QueueError)
  | attributeError (message : String)
  | typeError (message : String)
  | valueError (message : String)
  | keyError (key : String)
  | overflowError
  | recursionError
  | integrityError
  /-- an exception of another class -/
  | other (className : String)
  deriving DecidableEq

/-- `datetime.fromisoformat(text)` brought to UTC: no date, a date out of the
range of `datetime`, or a moment. -/
inductive IsoTime where
  | invalid
  | outOfRange
  | at (t : Time)
  deriving DecidableEq

/-- What the services take from Python's library. -/
structure Host where
  /-- `str(v)` of a value that is neither text, a bool, an integer nor `None` -/
  repr : Value → String
  /-- `float.__repr__` of a finite number -/
  floatRepr : ℚ → String
  /-- `text.lower()` -/
  lower : String → String
  lower_ascii : ∀ s : String, (∀ c ∈ s.toList, c.toNat < 128) → lower s = Text.lower s
  /-- `text.casefold()` -/
  casefold : String → String
  /-- `text.title()` -/
  title : String → String
  fromisoformat : String → IsoTime
  /-- `t.isoformat()` of a moment in UTC -/
  isoformat : Time → String
  /-- `hashlib.sha256(text.encode("utf-8")).hexdigest()` -/
  sha256 : String → String
  /-- `hmac.new(key, msg, hashlib.sha256).hexdigest()` -/
  hmacSha256 : List UInt8 → List UInt8 → String

/-- `lower_ascii`, with the text scanned. -/
theorem Host.lower_of_ascii (host : Host) {s : String}
    (h : s.toList.all (fun c => decide (c.toNat < 128)) = true) : host.lower s = Text.lower s :=
  host.lower_ascii s fun c hc => of_decide_eq_true (List.all_eq_true.mp h c hc)

/-- A host for ASCII text without dates, floats or digests. -/
def asciiHost : Host where
  repr _ := ""
  floatRepr _ := ""
  lower := Text.lower
  lower_ascii _ _ := rfl
  casefold := Text.lower
  title := id
  fromisoformat _ := .invalid
  isoformat _ := ""
  sha256 _ := ""
  hmacSha256 _ _ := ""

/-- `str(v)`. -/
def Host.str (host : Host) (value : Value) : String := value.toStr host.repr

@[simp] theorem Host.str_text (host : Host) (s : String) : host.str (.str s) = s := rfl

/-- `token_digest`. -/
def tokenDigest (host : Host) (token : String) : String := host.sha256 token

/-- `text.encode("utf-8")`. -/
def encode (text : String) : List UInt8 := text.toUTF8.data.toList

/-- `hmac.compare_digest` of two texts. -/
def compareDigest (a b : String) : Except ServiceError Bool :=
  if a.toList.all (·.toNat < 128) ∧ b.toList.all (·.toNat < 128) then .ok (a = b)
  else .error (.typeError "comparing strings with non-ASCII characters is not supported")

/-! ## Numbers -/

/-- `clamp(value, minimum, maximum)` of `engines.py`. -/
def clamp (value minimum maximum : ℚ) : ℚ := max minimum (min maximum value)

/-- `clamp` of a `float`: comparing with NaN leaves the maximum. -/
def clampFloat (value : FloatVal) (minimum maximum : ℚ) : ℚ :=
  match value with
  | .finite q => clamp q minimum maximum
  | .infinite negative => if negative then minimum else maximum
  | .nan => maximum

/-- `float(v)`. -/
def toFloat : Value → Except ServiceError FloatVal
  | .float x => .ok x
  | .bool b => .ok (.finite (if b then 1 else 0))
  | .int n =>
    if FloatVal.overflowBound ≤ |(n : ℚ)| then .error .overflowError
    else .ok (.finite (FloatVal.nearest n))
  | .str s =>
    match Number.parseFloat s with
    | some x => .ok x
    | none => .error (.valueError "could not convert string to float")
  | _ => .error (.typeError "float() argument must be a string or a real number")

/-- `int(v)`. A float is truncated towards zero. -/
def toInt : Value → Except ServiceError Int
  | .int n => .ok n
  | .bool b => .ok (if b then 1 else 0)
  | .float (.finite q) => .ok (q.num.tdiv q.den)
  | .float (.infinite _) => .error .overflowError
  | .float .nan => .error (.valueError "cannot convert float NaN to integer")
  | .str s =>
    match Number.parseInt s with
    | some n => .ok n
    | none => .error (.valueError "invalid literal for int() with base 10")
  | _ => .error (.typeError "int() argument must be a string or a real number")

/-! ## Reading JSON objects -/

/-- The items of a JSON object. -/
abbrev Items := List (String × Value)

/-- `d.get(key)`. -/
def getItem (items : Items) (key : String) : Value := (Value.lookup items key).getD .none

/-- `d.get(key, default)`. -/
def getItemD (items : Items) (key : String) (default : Value) : Value :=
  (Value.lookup items key).getD default

/-- `d[key]`. -/
def requireItem (items : Items) (key : String) : Except ServiceError Value :=
  match Value.lookup items key with
  | some value => .ok value
  | none => .error (.keyError key)

/-- A key that was set reads back. -/
theorem getItem_set (items : Items) (key : String) (value : Value) :
    getItem (Dict.set items key value) key = value := by
  unfold getItem Value.lookup
  induction items with
  | nil => simp [Dict.set]
  | cons item items ih =>
    obtain ⟨k, v⟩ := item
    by_cases hk : k = key
    · simp [Dict.set, hk]
    · rw [Dict.set, if_neg hk, List.lookup_cons, show (key == k) = false by simp [Ne.symm hk]]
      exact ih

/-- The first value in `a or b or …` that is truthy, else the last. -/
def firstTruthy : List Value → Value
  | [] => .none
  | [value] => value
  | value :: rest => if value.truthy then value else firstTruthy rest

theorem firstTruthy_cons (value next : Value) (rest : List Value) :
    firstTruthy (value :: next :: rest) =
      if value.truthy then value else firstTruthy (next :: rest) := by
  rw [firstTruthy]
  exact fun h => absurd h (List.cons_ne_nil next rest)

/-- `(v or {})`, as what `.get` is then called on. -/
def asObject (value : Value) : Except ServiceError Items :=
  match value with
  | .dict items => .ok items
  | value =>
    if value.truthy then .error (.attributeError "object has no attribute 'get'") else .ok []

/-- `sorted(set(xs))`. -/
def sortedSet (xs : List String) : List String := xs.dedup.insertionSort (· ≤ ·)

theorem mem_sortedSet {xs : List String} {x : String} : x ∈ sortedSet xs ↔ x ∈ xs := by
  rw [sortedSet, List.mem_insertionSort, List.mem_dedup]

/-- `list(dict.fromkeys(xs))`: the first occurrence of each. -/
def uniqueValues (xs : List String) : List String :=
  Dict.keys (xs.foldl (fun d x => Dict.set d x ()) ([] : Dict String Unit))

theorem mem_uniqueValues {xs : List String} {x : String} : x ∈ uniqueValues xs ↔ x ∈ xs := by
  have hfold : ∀ d : Dict String Unit,
      x ∈ Dict.keys (xs.foldl (fun d x => Dict.set d x ()) d) ↔ x ∈ xs ∨ x ∈ d.keys := by
    induction xs with
    | nil => exact fun d => ⟨Or.inr, fun h => h.resolve_left List.not_mem_nil⟩
    | cons y xs ih =>
      intro d
      rw [List.foldl_cons, ih, Dict.mem_keys_set, List.mem_cons, or_assoc, or_left_comm]
  rw [uniqueValues, hfold]
  exact ⟨fun h => h.resolve_right List.not_mem_nil, Or.inl⟩

end DeployGuard.Service
