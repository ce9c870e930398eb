import DeployGuard.Lib.Value
import Mathlib.Data.List.Sort

/-!
# `json.dumps`

The text `json.dumps` writes with `separators=(",", ":")`, with or without
`ensure_ascii`, and `sortKeys`, what `sort_keys=True` does first. How a finite
`float` prints is an argument (`float.__repr__`); a value `json.dumps` refuses
has no text.
-/

namespace Json

/-- Four lower-case hexadecimal digits after `\u`. -/
def unicodeEscape (n : Nat) : List Char :=
  '\\' :: 'u' :: [n / 4096 % 16, n / 256 % 16, n / 16 % 16, n % 16].map Nat.digitChar

/-- One character of a JSON string. -/
def escapeChar (ensureAscii : Bool) (c : Char) : List Char :=
  let n := c.toNat
  if n = 0x22 then ['\\', '\x22']
  else if n = 0x5c then ['\\', '\\']
  else if n = 0x0a then ['\\', 'n']
  else if n = 0x0d then ['\\', 'r']
  else if n = 0x09 then ['\\', 't']
  else if n = 0x0c then ['\\', 'f']
  else if n = 0x08 then ['\\', 'b']
  else if n < 0x20 then unicodeEscape n
  else if ensureAscii ∧ 0x7e < n then
    if n < 0x10000 then unicodeEscape n
    else unicodeEscape (0xd800 + (n - 0x10000) / 0x400) ++
      unicodeEscape (0xdc00 + (n - 0x10000) % 0x400)
  else [c]

def quote (ensureAscii : Bool) (s : String) : String :=
  "\"" ++ String.ofList (s.toList.flatMap (escapeChar ensureAscii)) ++ "\""

/-- A number as `json` prints it. -/
def floatText (repr : ℚ → String) : FloatVal → String
  | .finite q => repr q
  | .infinite negative => if negative then "-Infinity" else "Infinity"
  | .nan => "NaN"

mutual
/-- `json.dumps(v, ensure_ascii=…, separators=(",", ":"))`; `none` is the `TypeError`. -/
def dumps (repr : ℚ → String) (ensureAscii : Bool) : Value → Option String
  | .none => some "null"
  | .bool b => some (if b then "true" else "false")
  | .int n => some (toString n)
  | .float x => some (floatText repr x)
  | .str s => some (quote ensureAscii s)
  | .list xs => (dumpsList repr ensureAscii xs).map fun texts => "[" ++ ",".intercalate texts ++ "]"
  | .dict items =>
    (dumpsItems repr ensureAscii items).map fun texts => "\x7b" ++ ",".intercalate texts ++ "\x7d"
  | .object => none

def dumpsList (repr : ℚ → String) (ensureAscii : Bool) : List Value → Option (List String)
  | [] => some []
  | x :: xs => do
    let text ← dumps repr ensureAscii x
    let texts ← dumpsList repr ensureAscii xs
    pure (text :: texts)

def dumpsItems (repr : ℚ → String) (ensureAscii : Bool) :
    List (String × Value) → Option (List String)
  | [] => some []
  | (key, x) :: xs => do
    let text ← dumps repr ensureAscii x
    let texts ← dumpsItems repr ensureAscii xs
    pure ((quote ensureAscii key ++ ":" ++ text) :: texts)
end

/-- Items by key. -/
def byKey (a b : String × Value) : Prop := a.1 ≤ b.1

instance : DecidableRel byKey := fun a b => inferInstanceAs (Decidable (a.1 ≤ b.1))

mutual
/-- The value with the items of every object in the order of their keys. -/
def sortKeys : Value → Value
  | .list xs => .list (sortKeysList xs)
  | .dict items => .dict ((sortKeysItems items).insertionSort byKey)
  | v => v

def sortKeysList : List Value → List Value
  | [] => []
  | x :: xs => sortKeys x :: sortKeysList xs

def sortKeysItems : List (String × Value) → List (String × Value)
  | [] => []
  | (key, x) :: xs => (key, sortKeys x) :: sortKeysItems xs
end

/-- The length of a text in UTF-8. -/
def utf8Length (s : String) : Nat := s.utf8ByteSize

end Json
