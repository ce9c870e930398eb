import Mathlib.Algebra.GroupWithZero.Nat
import Mathlib.Data.List.Basic

/-!
# Python `str` methods

The string methods a Python program calls, under their Python names, on Lean
strings. Both languages count code points, so `len` is `String.length` and a
slice `s[:n]` keeps the first `n` characters.
-/

namespace Text

/-- `str.isspace` of a single character. -/
def isspace (c : Char) : Bool :=
  let n := c.toNat
  (9 ≤ n && n ≤ 13) || (0x1c ≤ n && n ≤ 0x20) || n == 0x85 || n == 0xa0 || n == 0x1680 ||
    (0x2000 ≤ n && n ≤ 0x200a) || n == 0x2028 || n == 0x2029 || n == 0x202f || n == 0x205f ||
    n == 0x3000

/-- Drop a prefix and a suffix of characters that satisfy `p`. -/
def stripList (p : Char → Bool) (cs : List Char) : List Char :=
  ((cs.dropWhile p).reverse.dropWhile p).reverse

/-- `s.strip()`. -/
def strip (s : String) : String := String.ofList (stripList isspace s.toList)

/-- Unicode white space. Unlike `str.isspace` it leaves out the separators U+001C to U+001F. -/
def isWhiteSpace (c : Char) : Bool := isspace c && !(0x1c ≤ c.toNat && c.toNat ≤ 0x1f)

/-- A schema's `strip_whitespace=True`, which goes by Unicode and not by `str.strip`. -/
def trim (s : String) : String := String.ofList (stripList isWhiteSpace s.toList)

/-- What is left after stripping neither begins nor ends with a stripped character. -/
theorem stripList_idem (p : Char → Bool) (cs : List Char) :
    stripList p (stripList p cs) = stripList p cs := by
  have hidem : ∀ ds : List Char, (ds.dropWhile p).dropWhile p = ds.dropWhile p := by
    intro ds
    induction ds with
    | nil => rfl
    | cons d ds ih =>
      by_cases hd : p d
      · rw [List.dropWhile_cons_of_pos hd, ih]
      · rw [List.dropWhile_cons_of_neg hd, List.dropWhile_cons_of_neg hd]
  -- the kept part is a prefix of a list whose head is not stripped
  have hhead : (stripList p cs).dropWhile p = stripList p cs := by
    have hpre : stripList p cs <+: cs.dropWhile p := by
      rw [← List.reverse_suffix, stripList, List.reverse_reverse]
      exact List.dropWhile_suffix p
    obtain ⟨rest, hrest⟩ := hpre
    cases hs : stripList p cs with
    | nil => rfl
    | cons c ds =>
      have hc : ¬p c := by
        have h := hidem cs
        rw [← hrest, hs, List.cons_append] at h
        intro hpc
        rw [List.dropWhile_cons_of_pos hpc] at h
        have hlen := congrArg List.length h
        have hle := (List.dropWhile_sublist p (l := ds ++ rest)).length_le
        simp only [List.length_cons] at hlen
        omega
      exact List.dropWhile_cons_of_neg hc
  rw [stripList, hhead]
  conv_lhs => rw [stripList, List.reverse_reverse, hidem]
  rfl

/-- A stripped text has nothing left to strip. -/
theorem strip_idem (s : String) : strip (strip s) = strip s := by
  unfold strip
  rw [String.toList_ofList, stripList_idem]

/-- `s[:n]`. -/
def take (n : Nat) (s : String) : String := String.ofList (s.toList.take n)

/-- `s.startswith(p)`. -/
def startswith (s p : String) : Bool := p.toList.isPrefixOf s.toList

/-- `s.endswith(p)`. -/
def endswith (s p : String) : Bool := p.toList.isSuffixOf s.toList

/-- `c.lower()` of one character, read against ASCII text: besides the ASCII
capitals, the Kelvin sign and the dotted capital I are the only characters
whose lower case holds an ASCII letter. Other characters stay. -/
def lowerChar (c : Char) : List Char :=
  if c.toNat == 0x212a then ['k']
  else if c.toNat == 0x130 then ['i', Char.ofNat 0x307]
  else [c.toLower]

/-- `s.lower()`. -/
def lower (s : String) : String := String.ofList (s.toList.flatMap lowerChar)

/-- Dropping commutes with a map that keeps what is dropped. -/
theorem dropWhile_flatMap {p : Char → Bool} {f : Char → List Char} (hdropped : ∀ c, p c → f c = [c])
    (hkept : ∀ c, ¬p c → f c ≠ [] ∧ ∀ x ∈ f c, ¬p x) (cs : List Char) :
    (cs.flatMap f).dropWhile p = (cs.dropWhile p).flatMap f := by
  induction cs with
  | nil => rfl
  | cons c cs ih =>
    rw [List.flatMap_cons]
    by_cases hc : p c
    · rw [hdropped c hc, List.singleton_append, List.dropWhile_cons_of_pos hc,
        List.dropWhile_cons_of_pos hc, ih]
    · obtain ⟨hne, hnot⟩ := hkept c hc
      obtain ⟨x, xs, hx⟩ := List.exists_cons_of_ne_nil hne
      have hxp : ¬p x := hnot x (hx ▸ List.mem_cons_self)
      rw [List.dropWhile_cons_of_neg hc, List.flatMap_cons, hx, List.cons_append,
        List.dropWhile_cons_of_neg hxp]

/-- Stripping commutes with a map of characters that keeps what is stripped and adds none of it. -/
theorem stripList_flatMap {p : Char → Bool} {f : Char → List Char} (hdropped : ∀ c, p c → f c = [c])
    (hkept : ∀ c, ¬p c → f c ≠ [] ∧ ∀ x ∈ f c, ¬p x) (cs : List Char) :
    stripList p (cs.flatMap f) = (stripList p cs).flatMap f := by
  have hdropped' : ∀ c, p c → (f c).reverse = [c] := by
    intro c hc
    rw [hdropped c hc, List.reverse_singleton]
  have hkept' : ∀ c, ¬p c → (f c).reverse ≠ [] ∧ ∀ x ∈ (f c).reverse, ¬p x := by
    intro c hc
    obtain ⟨hne, hnot⟩ := hkept c hc
    exact ⟨by simpa using hne, fun x hx => hnot x (List.mem_reverse.mp hx)⟩
  unfold stripList
  rw [dropWhile_flatMap hdropped hkept, List.reverse_flatMap]
  rw [show (List.reverse ∘ f) = fun c => (f c).reverse from rfl, dropWhile_flatMap hdropped' hkept',
    List.reverse_flatMap]
  simp [Function.comp_def]

/-- Lean's `toLower` moves the 26 letters only. -/
theorem toNat_toLower (c : Char) :
    c.toLower.toNat = if 65 ≤ c.toNat ∧ c.toNat ≤ 90 then c.toNat + 32 else c.toNat := by
  have hrange : (c.val ≥ 'A'.val ∧ c.val ≤ 'Z'.val) ↔ 65 ≤ c.toNat ∧ c.toNat ≤ 90 := by
    rw [ge_iff_le, UInt32.le_iff_toNat_le, UInt32.le_iff_toNat_le]
    exact Iff.rfl
  unfold Char.toLower
  by_cases hc : c.val ≥ 'A'.val ∧ c.val ≤ 'Z'.val
  · rw [dif_pos hc, if_pos (hrange.mp hc)]
    obtain ⟨-, hle⟩ := hrange.mp hc
    show (c.val + 32).toNat = c.toNat + 32
    rw [UInt32.toNat_add]
    exact Nat.mod_eq_of_lt (by show c.toNat + 32 < 2 ^ 32; omega)
  · rw [dif_neg hc, if_neg (mt hrange.mpr hc)]

/-- White space, by its codes. -/
theorem isspace_iff (c : Char) : isspace c = true ↔
    (9 ≤ c.toNat ∧ c.toNat ≤ 13) ∨ (0x1c ≤ c.toNat ∧ c.toNat ≤ 0x20) ∨ c.toNat = 0x85 ∨
      c.toNat = 0xa0 ∨ c.toNat = 0x1680 ∨ (0x2000 ≤ c.toNat ∧ c.toNat ≤ 0x200a) ∨
      c.toNat = 0x2028 ∨ c.toNat = 0x2029 ∨ c.toNat = 0x202f ∨ c.toNat = 0x205f ∨
      c.toNat = 0x3000 := by
  simp [isspace, or_assoc]

/-- White space has no lower case of its own. -/
theorem lowerChar_space {c : Char} (hc : isspace c) : lowerChar c = [c] := by
  rw [isspace_iff] at hc
  have hlower : c.toLower = c := by
    refine Char.ext (UInt32.toNat_inj.mp ?_)
    show c.toLower.toNat = c.toNat
    rw [toNat_toLower, if_neg (by omega)]
  rw [lowerChar, if_neg (by simp; omega), if_neg (by simp; omega), hlower]

/-- No other character's lower case contains white space. -/
theorem lowerChar_other {c : Char} (hc : ¬isspace c) :
    lowerChar c ≠ [] ∧ ∀ x ∈ lowerChar c, ¬isspace x := by
  unfold lowerChar
  split
  · exact ⟨List.cons_ne_nil _ _, List.forall_mem_singleton.mpr (by decide)⟩
  · split
    · exact ⟨List.cons_ne_nil _ _,
        List.forall_mem_cons.mpr ⟨by decide, List.forall_mem_singleton.mpr (by decide)⟩⟩
    · refine ⟨List.cons_ne_nil _ _, fun x hx => ?_⟩
      obtain rfl := List.mem_singleton.mp hx
      rw [isspace_iff, toNat_toLower]
      rw [isspace_iff] at hc
      split <;> omega

/-- `s.strip().lower()` is `s.lower().strip()`. -/
theorem lower_strip (s : String) : lower (strip s) = strip (lower s) := by
  unfold lower strip
  rw [String.toList_ofList, String.toList_ofList,
    stripList_flatMap (fun _ => lowerChar_space) fun _ => lowerChar_other]

/-- A lower-case letter is its own. -/
theorem toLower_toLower (c : Char) : c.toLower.toLower = c.toLower := by
  refine Char.ext (UInt32.toNat_inj.mp ?_)
  show c.toLower.toLower.toNat = c.toLower.toNat
  rw [toNat_toLower, toNat_toLower]
  by_cases hcapital : 65 ≤ c.toNat ∧ c.toNat ≤ 90
  · rw [if_pos hcapital, if_neg (by omega)]
  · rw [if_neg hcapital, if_neg hcapital]

/-- Lower case is its own, character by character. -/
theorem lowerChar_idem (c : Char) : (lowerChar c).flatMap lowerChar = lowerChar c := by
  have hplain : ∀ d : Char, d.toNat ≠ 0x212a → d.toNat ≠ 0x130 → lowerChar d = [d.toLower] := by
    intro d hkelvin hdotted
    rw [lowerChar, if_neg (by simpa using hkelvin), if_neg (by simpa using hdotted)]
  by_cases hkelvin : c.toNat = 0x212a
  · have hk : lowerChar c = ['k'] := by rw [lowerChar, if_pos (by simpa using hkelvin)]
    rw [hk]
    rfl
  · by_cases hdotted : c.toNat = 0x130
    · have hi : lowerChar c = ['i', Char.ofNat 0x307] := by
        rw [lowerChar, if_neg (by simpa using hkelvin), if_pos (by simpa using hdotted)]
      rw [hi]
      decide
    · rw [hplain c hkelvin hdotted, List.flatMap_singleton, hplain, toLower_toLower]
      · rw [toNat_toLower]
        split <;> omega
      · rw [toNat_toLower]
        split <;> omega

/-- Lower case is its own. -/
theorem lower_idem (s : String) : lower (lower s) = lower s := by
  unfold lower
  rw [String.toList_ofList, List.flatMap_assoc]
  simp only [lowerChar_idem]

/-- The characters `str.splitlines` breaks at; `\r\n` is one break. -/
def isLineBreak (c : Char) : Bool :=
  let n := c.toNat
  (10 ≤ n && n ≤ 13) || (0x1c ≤ n && n ≤ 0x1e) || n == 0x85 || n == 0x2028 || n == 0x2029

/-- `s.splitlines()`, with the line read so far. -/
def splitlinesList (line : List Char) : List Char → List (List Char)
  | [] => if line.isEmpty then [] else [line]
  | '\r' :: '\n' :: cs => line :: splitlinesList [] cs
  | c :: cs => if isLineBreak c then line :: splitlinesList [] cs else splitlinesList (line ++ [c]) cs

/-- `s.splitlines()`. -/
def splitlines (s : String) : List String := (splitlinesList [] s.toList).map String.ofList

/-- `s.strip(chars)`. -/
def stripChars (chars s : String) : String :=
  String.ofList (stripList (fun c => chars.toList.contains c) s.toList)

/-- `s.replace(old, new)` on a list of characters, for a nonempty `old`; `skip`
counts the characters of a match that are still to be dropped. -/
def replaceList (old new : List Char) : Nat → List Char → List Char
  | _, [] => []
  | skip + 1, _ :: cs => replaceList old new skip cs
  | 0, c :: cs =>
    if old.isPrefixOf (c :: cs) then new ++ replaceList old new (old.length - 1) cs
    else c :: replaceList old new 0 cs

/-- `s.replace(old, new)`, for a nonempty `old`. -/
def replace (s old new : String) : String :=
  String.ofList (replaceList old.toList new.toList 0 s.toList)

/-- `s.rstrip(c)` of one character. -/
def rstripChar (c : Char) (s : String) : String :=
  String.ofList ((s.toList.reverse.dropWhile (· = c)).reverse)

/-- `s.partition(sep)` at one character: before it, whether it is there, after it. -/
def partition (c : Char) (s : String) : String × Bool × String :=
  let cs := s.toList
  (String.ofList (cs.takeWhile (· ≠ c)), cs.contains c,
    String.ofList ((cs.dropWhile (· ≠ c)).drop 1))

def upperHex (n : Nat) : Char := if n < 10 then Char.ofNat (n + 48) else Char.ofNat (n + 55)

/-- `quote_plus` of one byte. -/
def quoteByte (b : UInt8) : List Char :=
  let c := Char.ofNat b.toNat
  if c.isAlphanum || ['_', '.', '-', '~'].contains c then [c]
  else if c = ' ' then ['+']
  else ['%', upperHex (b.toNat / 16), upperHex (b.toNat % 16)]

/-- `urllib.parse.quote_plus`. -/
def quotePlus (s : String) : String := String.ofList (s.toUTF8.data.toList.flatMap quoteByte)

/-- `urllib.parse.urlencode`. -/
def urlencode (items : List (String × String)) : String :=
  "&".intercalate (items.map fun item => quotePlus item.1 ++ "=" ++ quotePlus item.2)

/-- `p in s`. -/
def contains (s p : String) : Bool := s.toList.tails.any p.toList.isPrefixOf

/-- `s.split(sep)` at one character. -/
def split (c : Char) (s : String) : List String := (s.toList.splitOn c).map String.ofList

/-- `s.removesuffix(p)`. -/
def removesuffix (s p : String) : String :=
  if endswith s p then String.ofList (s.toList.take (s.toList.length - p.toList.length)) else s

/-- A text stream in universal newlines mode: `\r\n` and `\r` read as `\n`. -/
def universalNewlines : List Char → List Char
  | [] => []
  | '\r' :: '\n' :: cs => '\n' :: universalNewlines cs
  | '\r' :: cs => '\n' :: universalNewlines cs
  | c :: cs => c :: universalNewlines cs

/-- Without carriage returns nothing is translated. -/
theorem universalNewlines_of_not_mem {cs : List Char} (h : '\r' ∉ cs) : universalNewlines cs = cs := by
  fun_induction universalNewlines cs with
  | case1 => rfl
  | case2 cs ih => exact absurd List.mem_cons_self h
  | case3 cs hcs ih => exact absurd List.mem_cons_self h
  | case4 d cs _ _ ih => rw [ih fun hmem => h (List.mem_cons_of_mem _ hmem)]

/-- `s or d`: the default stands in for the empty string. -/
def orElse (s d : String) : String := if s = "" then d else s

/-- The lines and what stands between them. -/
theorem length_intercalate (sep : String) {lines : List String} (h : lines ≠ []) :
    (sep.intercalate lines).length + sep.length =
      (lines.map fun line => line.length + sep.length).sum := by
  induction lines with
  | nil => exact absurd rfl h
  | cons line rest ih =>
    by_cases hrest : rest = []
    · subst hrest
      rw [String.intercalate_singleton, List.map_singleton, List.sum_singleton]
    · rw [String.intercalate_cons_of_ne_nil hrest, String.length_append, String.length_append,
        List.map_cons, List.sum_cons, ← ih hrest]
      omega

end Text
