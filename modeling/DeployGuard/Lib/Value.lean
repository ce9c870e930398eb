import DeployGuard.Lib.Number

/-!
# Python values

The values a JSON document, a YAML document or a keyword argument holds. A
dictionary is its items in insertion order; `object` stands for any value that
`json.dumps` refuses.
-/

/-- A Python value. -/
inductive Value where
  | none
  | bool (b : Bool)
  | int (n : Int)
  | float (x : FloatVal)
  | str (s : String)
  | list (xs : List Value)
  | dict (items : List (String × Value))
  | object
  deriving Inhabited

namespace Value

mutual
/-- Equality is decided along the structure, lists and items in step. -/
def decEq : (a b : Value) → Decidable (a = b)
  | .none, .none => isTrue rfl
  | .bool a, .bool b => decidable_of_iff (a = b) (by simp)
  | .int a, .int b => decidable_of_iff (a = b) (by simp)
  | .float a, .float b => decidable_of_iff (a = b) (by simp)
  | .str a, .str b => decidable_of_iff (a = b) (by simp)
  | .list xs, .list ys => @decidable_of_iff _ (xs = ys) (by simp) (decEqList xs ys)
  | .dict xs, .dict ys => @decidable_of_iff _ (xs = ys) (by simp) (decEqItems xs ys)
  | .object, .object => isTrue rfl
  | .none, .bool _ | .none, .int _ | .none, .float _ | .none, .str _ | .none, .list _
  | .none, .dict _ | .none, .object => isFalse nofun
  | .bool _, .none | .bool _, .int _ | .bool _, .float _ | .bool _, .str _ | .bool _, .list _
  | .bool _, .dict _ | .bool _, .object => isFalse nofun
  | .int _, .none | .int _, .bool _ | .int _, .float _ | .int _, .str _ | .int _, .list _
  | .int _, .dict _ | .int _, .object => isFalse nofun
  | .float _, .none | .float _, .bool _ | .float _, .int _ | .float _, .str _ | .float _, .list _
  | .float _, .dict _ | .float _, .object => isFalse nofun
  | .str _, .none | .str _, .bool _ | .str _, .int _ | .str _, .float _ | .str _, .list _
  | .str _, .dict _ | .str _, .object => isFalse nofun
  | .list _, .none | .list _, .bool _ | .list _, .int _ | .list _, .float _ | .list _, .str _
  | .list _, .dict _ | .list _, .object => isFalse nofun
  | .dict _, .none | .dict _, .bool _ | .dict _, .int _ | .dict _, .float _ | .dict _, .str _
  | .dict _, .list _ | .dict _, .object => isFalse nofun
  | .object, .none | .object, .bool _ | .object, .int _ | .object, .float _ | .object, .str _
  | .object, .list _ | .object, .dict _ => isFalse nofun

/-- Equality of two lists of values. -/
def decEqList : (xs ys : List Value) → Decidable (xs = ys)
  | [], [] => isTrue rfl
  | [], _ :: _ => isFalse nofun
  | _ :: _, [] => isFalse nofun
  | x :: xs, y :: ys =>
    @decidable_of_iff _ (x = y ∧ xs = ys) (by simp)
      (@instDecidableAnd _ _ (decEq x y) (decEqList xs ys))

/-- Equality of two lists of items. -/
def decEqItems : (xs ys : List (String × Value)) → Decidable (xs = ys)
  | [], [] => isTrue rfl
  | [], _ :: _ => isFalse nofun
  | _ :: _, [] => isFalse nofun
  | (j, x) :: xs, (k, y) :: ys =>
    @decidable_of_iff _ ((j = k ∧ x = y) ∧ xs = ys) (by simp)
      (@instDecidableAnd _ _ (@instDecidableAnd _ _ (instDecidableEqString j k) (decEq x y))
        (decEqItems xs ys))
end

instance : DecidableEq Value := decEq

/-- `bool(v)`. -/
def truthy : Value → Bool
  | .none => false
  | .bool b => b
  | .int n => n ≠ 0
  | .float x => x.truthy
  | .str s => s ≠ ""
  | .list xs => !xs.isEmpty
  | .dict items => !items.isEmpty
  | .object => true

/-- `str(v)`, where `repr` prints the values that are neither text, a bool, an
integer nor `None`. -/
def toStr (repr : Value → String) : Value → String
  | .str s => s
  | .int n => toString n
  | .bool b => if b then "True" else "False"
  | .none => "None"
  | value => repr value

/-- `items.get(key)`, for the items of a dictionary. -/
def lookup (items : List (String × Value)) (key : String) : Option Value :=
  items.lookup key

end Value

/-! ## Clock values -/

/-- A `datetime` in UTC, as microseconds since the epoch; a `timedelta` is a
difference of two. -/
abbrev Time := Int

/-- `timedelta(seconds=n)`. -/
def seconds (n : Int) : Time := n * 1000000
