import Mathlib.Algebra.Order.Floor.Semiring
import Mathlib.Data.Int.Log
import Mathlib.Data.Rat.Floor
import DeployGuard.Lib.Text

/-!
# Python numbers

A `float` is a rational, an infinity or NaN. `parseFloat` and `parseInt` are `float(text)`
and `int(text)`: a text of decimal digits of any script, read to the nearest double, half to
even; `none` is the `ValueError` they raise. Arithmetic on what was read is exact, and `round`
is the built-in's.
-/

/-- A Python `float`. -/
inductive FloatVal where
  | finite (q : ℚ)
  | infinite (negative : Bool)
  | nan
  deriving DecidableEq, Inhabited

namespace FloatVal

/-- `math.isfinite(x)`. -/
def isfinite : FloatVal → Bool
  | .finite _ => true
  | _ => false

/-- `x < y`: false when either side is NaN. -/
def lt : FloatVal → FloatVal → Bool
  | .finite p, .finite q => p < q
  | .finite _, .infinite negative => !negative
  | .infinite negative, .finite _ => negative
  | .infinite a, .infinite b => a && !b
  | _, _ => false

/-- `x <= y`: false when either side is NaN. -/
def le : FloatVal → FloatVal → Bool
  | .nan, _ | _, .nan => false
  | x, y => !lt y x

/-- `bool(x)`. -/
def truthy : FloatVal → Bool
  | .finite q => q ≠ 0
  | _ => true

end FloatVal

namespace Number

/-! ## Rounding -/

/-- The nearest integer, ties to the even one. -/
def halfEven (q : ℚ) : Int :=
  let fraction := q - ⌊q⌋
  if fraction < 1 / 2 then ⌊q⌋
  else if 1 / 2 < fraction then ⌊q⌋ + 1
  else if ⌊q⌋ % 2 = 0 then ⌊q⌋ else ⌊q⌋ + 1

theorem floor_le_halfEven (q : ℚ) : ⌊q⌋ ≤ halfEven q := by
  unfold halfEven
  dsimp only
  split_ifs <;> omega

theorem halfEven_le_floor_succ (q : ℚ) : halfEven q ≤ ⌊q⌋ + 1 := by
  unfold halfEven
  dsimp only
  split_ifs <;> omega

@[simp] theorem halfEven_intCast (n : Int) : halfEven (n : ℚ) = n := by
  rw [halfEven, Int.floor_intCast, sub_self]
  exact if_pos (by norm_num)

/-- Rounding keeps the order. -/
theorem halfEven_mono {p q : ℚ} (h : p ≤ q) : halfEven p ≤ halfEven q := by
  obtain hlt | heq := lt_or_eq_of_le (Int.floor_mono h)
  · calc halfEven p ≤ ⌊p⌋ + 1 := halfEven_le_floor_succ p
      _ ≤ ⌊q⌋ := hlt
      _ ≤ halfEven q := floor_le_halfEven q
  · -- between the same integers only the fraction decides
    have hfraction : p - ⌊p⌋ ≤ q - ⌊q⌋ := by
      rw [heq]
      exact sub_le_sub_right h _
    unfold halfEven
    dsimp only
    rw [heq] at hfraction ⊢
    split_ifs <;> first | omega | linarith

theorem le_halfEven {n : Int} {q : ℚ} (h : (n : ℚ) ≤ q) : n ≤ halfEven q := by
  have hle := halfEven_mono h
  rwa [halfEven_intCast] at hle

theorem halfEven_le {n : Int} {q : ℚ} (h : q ≤ (n : ℚ)) : halfEven q ≤ n := by
  have hle := halfEven_mono h
  rwa [halfEven_intCast] at hle

/-- An even shift does not change which way a tie goes. -/
theorem halfEven_add_even (q : ℚ) (n : Int) :
    halfEven (q + (2 * n : Int)) = halfEven q + 2 * n := by
  unfold halfEven
  dsimp only
  rw [Int.floor_add_intCast, Int.cast_add, add_sub_add_right_eq_sub]
  split_ifs <;> omega

end Number

namespace FloatVal

/-! ## Doubles -/

/-- The least magnitude that no longer rounds to a finite double. -/
def overflowBound : ℚ := 2 ^ 1024 - 2 ^ 970

/-- The distance between the doubles around a number: 53 bits from its first one on, but no less
than the least subnormal. -/
def ulp (q : ℚ) : ℚ := 2 ^ max (Int.log 2 |q| - 52) (-1074)

/-- The double next to a number, of two the even one. -/
def nearest (q : ℚ) : ℚ := Number.halfEven (q / ulp q) * ulp q

/-- The double a decimal literal denotes. -/
def ofRat (q : ℚ) : FloatVal :=
  if overflowBound ≤ |q| then .infinite (q < 0) else .finite (nearest q)

end FloatVal

namespace Number

/-! ## Reading numerals -/

/-- The zeros of the scripts with decimal digits in Unicode 15, which Python 3.12 has; the other
nine digits follow each. -/
def decimalZeros : List Nat :=
  [0x30, 0x660, 0x6f0, 0x7c0, 0x966, 0x9e6, 0xa66, 0xae6, 0xb66, 0xbe6, 0xc66, 0xce6, 0xd66,
    0xde6, 0xe50, 0xed0, 0xf20, 0x1040, 0x1090, 0x17e0, 0x1810, 0x1946, 0x19d0, 0x1a80, 0x1a90,
    0x1b50, 0x1bb0, 0x1c40, 0x1c50, 0xa620, 0xa8d0, 0xa900, 0xa9d0, 0xa9f0, 0xaa50, 0xabf0,
    0xff10, 0x104a0, 0x10d30, 0x11066, 0x110f0, 0x11136, 0x111d0, 0x112f0, 0x11450, 0x114d0,
    0x11650, 0x116c0, 0x11730, 0x118e0, 0x11950, 0x11c50, 0x11d50, 0x11da0, 0x11f50, 0x16a60,
    0x16ac0, 0x16b50, 0x1d7ce, 0x1d7d8, 0x1d7e2, 0x1d7ec, 0x1d7f6, 0x1e140, 0x1e2f0, 0x1e4f0,
    0x1e950, 0x1fbf0]

/-- `unicodedata.decimal(c)`. -/
def decimalValue (c : Char) : Option Nat :=
  (decimalZeros.find? fun first => first ≤ c.toNat && c.toNat < first + 10).map (c.toNat - ·)

/-- What `float` and `int` strip: of the white space below 128 only what C calls so. -/
def isNumberSpace (c : Char) : Bool :=
  Text.isspace c && !(0x1c ≤ c.toNat && c.toNat ≤ 0x1f)

/-- The characters of a text without the white space around them. -/
def stripped (text : String) : List Char := Text.stripList isNumberSpace text.toList

/-- The digits a numeral begins with, single underscores between digits
dropped, and what follows. -/
def takeDigits (afterDigit : Bool) : List Char → List Nat × List Char
  | '_' :: c :: cs =>
    match decimalValue c with
    | some digit =>
      if afterDigit then
        let (digits, rest) := takeDigits true cs
        (digit :: digits, rest)
      else ([], '_' :: c :: cs)
    | none => ([], '_' :: c :: cs)
  | c :: cs =>
    match decimalValue c with
    | some digit =>
      let (digits, rest) := takeDigits true cs
      (digit :: digits, rest)
    | none => ([], c :: cs)
  | [] => ([], [])

def ofDigits (digits : List Nat) : Nat := digits.foldl (fun n d => 10 * n + d) 0

/-- An optional sign, and what follows it. -/
def takeSign : List Char → Bool × List Char
  | '-' :: cs => (true, cs)
  | '+' :: cs => (false, cs)
  | cs => (false, cs)

/-- `sys.int_info.str_digits_check_threshold` aside, the digits `int` reads at most. -/
def maxStrDigits : Nat := 4300

/-- A whole text of digits. -/
def parseNat (cs : List Char) : Option Nat :=
  match takeDigits false cs with
  | ([], _) => none
  | (digits, []) => if digits.length ≤ maxStrDigits then some (ofDigits digits) else none
  | _ => none

/-- `int(text)`. -/
def parseInt (text : String) : Option Int :=
  let (negative, cs) := takeSign (stripped text)
  (parseNat cs).map fun n => if negative then -(n : Int) else n

/-- The exponent part of a numeral: nothing, or `e` and a signed integer. -/
def parseExponent : List Char → Option Int
  | [] => some 0
  | e :: cs =>
    if e = 'e' ∨ e = 'E' then
      let (negative, rest) := takeSign cs
      match takeDigits false rest with
      | ([], _) => none
      | (digits, []) => some (if negative then -(ofDigits digits : Int) else ofDigits digits)
      | _ => none
    else none

/-- A numeral without its sign. -/
def parseDecimal (cs : List Char) : Option ℚ :=
  let (whole, rest) := takeDigits false cs
  let (fraction, rest) := match rest with
    | '.' :: tail => takeDigits false tail
    | rest => ([], rest)
  if whole = [] ∧ fraction = [] then none
  else (parseExponent rest).map fun exponent =>
    let scale : Int := exponent - fraction.length
    mkRat (ofDigits (whole ++ fraction) * 10 ^ scale.toNat) (10 ^ (-scale).toNat)

/-- `float(text)`. -/
def parseFloat (text : String) : Option FloatVal :=
  let (negative, cs) := takeSign (stripped text)
  let word := String.ofList (cs.map Char.toLower)
  if word = "inf" ∨ word = "infinity" then some (.infinite negative)
  else if word = "nan" then some .nan
  else (parseDecimal cs).map fun q => .ofRat (if negative then -q else q)

/-- `str(n)` refuses an integer of more digits. -/
def hasText (n : Int) : Bool := (Nat.toDigits 10 n.natAbs).length ≤ maxStrDigits

/-! ## Rounded decimals -/

/-- `round(q, ndigits)`. -/
def round (q : ℚ) (ndigits : Nat) : ℚ := halfEven (q * 10 ^ ndigits) / 10 ^ ndigits

theorem round_mono {p q : ℚ} (h : p ≤ q) (ndigits : Nat) : round p ndigits ≤ round q ndigits := by
  have hpow : (0 : ℚ) < 10 ^ ndigits := by positivity
  have hscaled := halfEven_mono (mul_le_mul_of_nonneg_right h hpow.le)
  exact (div_le_div_iff_of_pos_right hpow).mpr (by exact_mod_cast hscaled)

/-- `f"{q:.0%}"`. -/
def wholePercent (q : ℚ) : String := toString (halfEven (q * 100)) ++ "%"

/-- `f"{q:.1%}"`. -/
def percent (q : ℚ) : String :=
  let tenths := (halfEven (q * 1000)).natAbs
  (if q < 0 then "-" else "") ++ toString (tenths / 10) ++ "." ++ toString (tenths % 10) ++ "%"

end Number
