import Mathlib.Data.List.Infix

/-!
# `fnmatch.fnmatchcase`

Shell patterns as `fnmatch.translate` reads them: `*` is any run of characters,
the path separator included, `?` is one character, `[…]` a class, and a bracket
that is never closed stands for itself. In a class `x-y` is a range, an empty
range is dropped, and a leading `!` negates.
-/

namespace Fnmatch

/-- A member of a character class. -/
inductive ClassItem where
  | single (c : Char)
  | range (lo hi : Char)
  deriving DecidableEq, Repr

inductive Token where
  | star
  | any
  | lit (c : Char)
  | charClass (negated : Bool) (items : List ClassItem)
  deriving DecidableEq, Repr

/-- The text of a class after its `[`, and what follows the `]`. A `]` right at
the start, or right after `!`, does not close the class. -/
def takeClass (cs : List Char) : Option (List Char × List Char) :=
  let (bang, cs) := match cs with
    | '!' :: cs => (['!'], cs)
    | cs => ([], cs)
  let (bracket, cs) := match cs with
    | ']' :: cs => ([']'], cs)
    | cs => ([], cs)
  match cs.span (· ≠ ']') with
  | (body, ']' :: rest) => some (bang ++ bracket ++ body, rest)
  | _ => none

def classItems : List Char → List ClassItem
  | lo :: '-' :: hi :: cs => if lo ≤ hi then .range lo hi :: classItems cs else classItems cs
  | c :: cs => .single c :: classItems cs
  | [] => []

def charClass : List Char → Token
  | '!' :: cs => .charClass true (classItems cs)
  | cs =>
    match classItems cs with
    -- a `!` that comes first once empty ranges are gone negates as well
    | .single '!' :: items => .charClass true items
    | .range '!' hi :: items => .charClass true (.single '-' :: .single hi :: items)
    | items => .charClass false items

/-- `translate`, with fuel for the characters left to read. -/
def translate : Nat → List Char → List Token
  | 0, _ => []
  | _ + 1, [] => []
  | fuel + 1, '*' :: cs => .star :: translate fuel cs
  | fuel + 1, '?' :: cs => .any :: translate fuel cs
  | fuel + 1, '[' :: cs =>
    match takeClass cs with
    | some (body, rest) => charClass body :: translate fuel rest
    | none => .lit '[' :: translate fuel cs
  | fuel + 1, c :: cs => .lit c :: translate fuel cs

def ClassItem.mem (c : Char) : ClassItem → Bool
  | .single d => c = d
  | .range lo hi => lo ≤ c && c ≤ hi

/-- The tokens match the whole text. -/
def matchTokens : List Token → List Char → Bool
  | [], cs => cs.isEmpty
  | .star :: ts, cs => cs.tails.any (matchTokens ts)
  | .any :: ts, _ :: cs => matchTokens ts cs
  | .lit d :: ts, c :: cs => c = d && matchTokens ts cs
  | .charClass negated items :: ts, c :: cs =>
    (items.any (ClassItem.mem c) != negated) && matchTokens ts cs
  | _ :: _, [] => false

/-- `fnmatchcase(name, pattern)`. -/
def fnmatchcase (name pattern : String) : Bool :=
  matchTokens (translate pattern.length pattern.toList) name.toList

example : fnmatchcase "src/auth/login.py" "**/auth/**" := by decide

/-! ## What a pattern of literals and stars matches -/

theorem matchTokens_star {ts : List Token} {cs : List Char} :
    matchTokens (.star :: ts) cs = true ↔ ∃ rest, rest <:+ cs ∧ matchTokens ts rest = true := by
  simp [matchTokens]

/-- A literal run is a prefix, and the rest of the pattern matches what follows. -/
theorem matchTokens_lits {ts : List Token} {text cs : List Char} :
    matchTokens (text.map .lit ++ ts) cs = true ↔
      ∃ rest, cs = text ++ rest ∧ matchTokens ts rest = true := by
  induction text generalizing cs with
  | nil => simp
  | cons c text ih =>
    cases cs with
    | nil => simp [matchTokens]
    | cons d cs =>
      simp only [List.map_cons, List.cons_append, matchTokens, Bool.and_eq_true, decide_eq_true_eq,
        ih, List.cons.injEq]
      constructor
      · intro h
        obtain ⟨rfl, rest, rfl, hrest⟩ := h
        exact ⟨rest, ⟨rfl, rfl⟩, hrest⟩
      · intro h
        obtain ⟨rest, ⟨rfl, rfl⟩, hrest⟩ := h
        exact ⟨rfl, rest, rfl, hrest⟩

/-- Two stars take any rest. -/
theorem matchTokens_stars (cs : List Char) : matchTokens [.star, .star] cs = true :=
  matchTokens_star.mpr ⟨[], List.nil_suffix, by simp [matchTokens]⟩

/-- Two stars before a pattern let it begin anywhere. -/
theorem matchTokens_stars_cons {ts : List Token} {cs : List Char} :
    matchTokens (.star :: .star :: ts) cs = true ↔
      ∃ rest, rest <:+ cs ∧ matchTokens ts rest = true := by
  rw [matchTokens_star]
  constructor
  · intro h
    obtain ⟨rest, hrest, hmatch⟩ := h
    obtain ⟨rest', hrest', hmatch⟩ := matchTokens_star.mp hmatch
    exact ⟨rest', hrest'.trans hrest, hmatch⟩
  · intro h
    obtain ⟨rest, hrest, hmatch⟩ := h
    exact ⟨rest, hrest, matchTokens_star.mpr ⟨rest, List.suffix_refl rest, hmatch⟩⟩

/-- `text` alone. -/
theorem matchTokens_text {text cs : List Char} :
    matchTokens (text.map .lit) cs = true ↔ cs = text := by
  rw [← List.append_nil (text.map Token.lit), matchTokens_lits]
  simp [matchTokens]

/-- `text**`. -/
theorem matchTokens_prefix {text cs : List Char} :
    matchTokens (text.map .lit ++ [.star, .star]) cs = true ↔ text <+: cs := by
  rw [matchTokens_lits]
  constructor
  · intro h
    obtain ⟨rest, rfl, -⟩ := h
    exact List.prefix_append text rest
  · intro h
    obtain ⟨rest, rfl⟩ := h
    exact ⟨rest, rfl, matchTokens_stars rest⟩

/-- `**text`. -/
theorem matchTokens_suffix {text cs : List Char} :
    matchTokens (.star :: .star :: text.map .lit) cs = true ↔ text <:+ cs := by
  simp only [matchTokens_stars_cons, matchTokens_text, exists_eq_right]

/-- `**text**`. -/
theorem matchTokens_infix {text cs : List Char} :
    matchTokens (.star :: .star :: (text.map .lit ++ [.star, .star])) cs = true ↔ text <:+: cs := by
  simp only [matchTokens_stars_cons, matchTokens_prefix]
  constructor
  · intro h
    obtain ⟨rest, hrest, hprefix⟩ := h
    exact hprefix.isInfix.trans hrest.isInfix
  · intro h
    obtain ⟨before, after, rfl⟩ := h
    refine ⟨text ++ after, ?_, List.prefix_append text after⟩
    rw [List.append_assoc]
    exact List.suffix_append before _

end Fnmatch
