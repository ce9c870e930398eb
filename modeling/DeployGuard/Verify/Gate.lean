import DeployGuard.Verify.Engine
import Mathlib.Data.List.Dedup

/-!
# What the verify gate decides

The purpose of the gate, stated over the evidence as a set of items: what a policy
requires (`Requires`), which items violate it on their own (`ItemViolation`), when
a change is blocked (`Violated`) and when it passes (`Satisfied`). None of it
mentions an order, a reason or a loop.

A line rate is a float, and one that is NaN is neither below a threshold nor at it.

> `verifyChange_decides`: `verify_change` returns where the metrics it reads convert. What it
> returns is `PASS` where the policy is satisfied, and `BLOCK` only where it is violated; where
> no line rate is NaN, `PASS` iff satisfied, `BLOCK` iff violated, else `REVIEW`.
-/

namespace DeployGuard.Verify

open Raise

/-! ## The abstract gate -/

/-- Some item of the kind has the state. -/
def Has (evidence : List EvidenceItem) (kind : Kind) (state : EvidenceState) : Prop :=
  ∃ item ∈ evidence, item.kind = kind.name ∧ item.state = state

/-- The policy requires the kind; tests are waived for documentation where the
policy says so. -/
def Requires (change : GitChange) (policy : LoadedPolicy) (kind : Kind) : Prop :=
  policy.data.required kind ∧
    ¬(kind = .tests ∧ policy.data.skipForDocsOnly ∧ change.docsOnly)

/-- The line rate an item carries. -/
def EvidenceItem.LineRate (item : EvidenceItem) (rate : FloatVal) : Prop :=
  ∃ value, Value.lookup item.metrics "line_rate" = some value ∧ toFloat value = .ok rate

/-- A line rate the coverage check looks at. -/
structure EvidenceItem.Measures (item : EvidenceItem) (rate : FloatVal) : Prop where
  name : item.kind = Kind.coverage.name
  known : item.state ≠ .unknown
  carried : item.LineRate rate

/-- A changed path matches a pattern of the rule. -/
def Matches (change : GitChange) (rule : PathRule) : Prop :=
  ∃ path ∈ change.paths, ∃ pattern ∈ rule.patterns, Fnmatch.fnmatchcase path pattern

/-- An item that violates the policy whatever the other items are. -/
inductive ItemViolation (policy : LoadedPolicy) (item : EvidenceItem) : Prop
  | failed (kind : Kind) : kind = .tests ∨ kind = .build → item.kind = kind.name →
      item.state = .fail → ItemViolation policy item
  | coverage (rate : FloatVal) : item.Measures rate → 0 < policy.data.minimumLineRate →
      rate.lt (.finite policy.data.minimumLineRate) = true → ItemViolation policy item
  | security (severity : Severity) (n : Int) : item.kind = Kind.security.name →
      item.state ≠ .unknown → severity ∈ policy.data.blockSeverities →
      item.findings severity = .ok n → 0 < n → ItemViolation policy item

/-- A required kind has failed evidence and none that passes. -/
def RequirementFailed (change : GitChange) (policy : LoadedPolicy)
    (evidence : List EvidenceItem) (kind : Kind) : Prop :=
  Requires change policy kind ∧ Has evidence kind .fail ∧ ¬Has evidence kind .pass

/-- The objective block conditions. -/
def Violated (change : GitChange) (policy : LoadedPolicy) (evidence : List EvidenceItem) : Prop :=
  (∃ item ∈ evidence, ItemViolation policy item) ∨
    ∃ kind, RequirementFailed change policy evidence kind

/-- Everything the policy asks of the change. -/
structure Satisfied (change : GitChange) (policy : LoadedPolicy)
    (evidence : List EvidenceItem) : Prop where
  changed : change.paths ≠ []
  requirements : ∀ kind, Requires change policy kind → Has evidence kind .pass
  noFailure : ∀ kind, kind = .tests ∨ kind = .build → ¬Has evidence kind .fail
  coverage : 0 < policy.data.minimumLineRate → ∀ item ∈ evidence, ∀ rate, item.Measures rate →
    FloatVal.le (.finite policy.data.minimumLineRate) rate = true
  security : ∀ item ∈ evidence, item.kind = Kind.security.name → item.state ≠ .unknown →
    ∀ severity ∈ policy.data.blockSeverities, ∀ n, item.findings severity = .ok n → n ≤ 0
  rules : ∀ rule ∈ policy.data.pathRules, Matches change rule →
    ∀ kind ∈ rule.requiredEvidence, Has evidence kind .pass

/-- Under a threshold, no line rate the check looks at is NaN. -/
def ClearRates (policy : LoadedPolicy) (evidence : List EvidenceItem) : Prop :=
  0 < policy.data.minimumLineRate → ∀ item ∈ evidence, ¬item.Measures .nan

/-- A line rate is below the threshold. -/
def RateBelow (policy : LoadedPolicy) (evidence : List EvidenceItem) : Prop :=
  0 < policy.data.minimumLineRate ∧ ∃ item ∈ evidence, ∃ rate, item.Measures rate ∧
    rate.lt (.finite policy.data.minimumLineRate) = true

/-- A blocked severity is counted. -/
def FindingCounted (policy : LoadedPolicy) (evidence : List EvidenceItem) : Prop :=
  ∃ item ∈ evidence, item.kind = Kind.security.name ∧ item.state ≠ .unknown ∧
    ∃ severity ∈ policy.data.blockSeverities, ∃ n, item.findings severity = .ok n ∧ 0 < n

/-- What blocks apart from the coverage. -/
def Faulty (change : GitChange) (policy : LoadedPolicy) (evidence : List EvidenceItem) : Prop :=
  (∃ kind, (kind = .tests ∨ kind = .build) ∧ Has evidence kind .fail) ∨
    FindingCounted policy evidence ∨ ∃ kind, RequirementFailed change policy evidence kind

/-- Nothing the policy asks for is missing. -/
structure Complete (change : GitChange) (policy : LoadedPolicy)
    (evidence : List EvidenceItem) : Prop where
  changed : change.paths ≠ []
  requirements : ∀ kind, Requires change policy kind → Has evidence kind .pass
  rules : ∀ rule ∈ policy.data.pathRules, Matches change rule →
    ∀ kind ∈ rule.requiredEvidence, Has evidence kind .pass

variable {change : GitChange} {policy : LoadedPolicy} {evidence evidence' : List EvidenceItem}

/-- Nothing is missing where as much passes. -/
theorem Complete.of_has (h : Complete change policy evidence)
    (hpass : ∀ kind, Has evidence kind .pass → Has evidence' kind .pass) :
    Complete change policy evidence' where
  changed := h.changed
  requirements kind hreq := hpass kind (h.requirements kind hreq)
  rules rule hrule hmatch kind hkind := hpass kind (h.rules rule hrule hmatch kind hkind)

/-- An item carries one line rate at most. -/
theorem EvidenceItem.Measures.unique {item : EvidenceItem} {x y : FloatVal} (h : item.Measures x)
    (h' : item.Measures y) : x = y := by
  obtain ⟨value, hvalue, hx⟩ := h.carried
  obtain ⟨value', hvalue', hy⟩ := h'.carried
  rw [hvalue, Option.some.injEq] at hvalue'
  rw [← hvalue', hx, Except.ok.injEq] at hy
  exact hy

/-- A rate that reads as a number is not NaN. -/
theorem EvidenceItem.Readable.not_nan {item : EvidenceItem} (h : item.Readable) :
    ¬item.Measures .nan := by
  rintro ⟨hname, hknown, value, hvalue, hnan⟩
  obtain ⟨q, hq⟩ := h.lineRate hname hknown value hvalue
  rw [hq] at hnan
  cases hnan

/-- Where every item is readable no rate hides another. -/
theorem clearRates_of_readable (h : ∀ item ∈ evidence, item.Readable) :
    ClearRates policy evidence := fun _ item hitem => (h item hitem).not_nan

/-- The violations, sorted by check. -/
theorem violated_iff :
    Violated change policy evidence ↔ RateBelow policy evidence ∨ Faulty change policy evidence := by
  constructor
  · intro h
    obtain ⟨item, hitem, hviol⟩ | hfailed := h
    · cases hviol with
      | failed kind hkind hname hfail => exact Or.inr (Or.inl ⟨kind, hkind, item, hitem, hname, hfail⟩)
      | coverage rate hrate hpos hlt => exact Or.inl ⟨hpos, item, hitem, rate, hrate, hlt⟩
      | security severity n hname hknown hsev hn hpos =>
        exact Or.inr (Or.inr (Or.inl ⟨item, hitem, hname, hknown, severity, hsev, n, hn, hpos⟩))
    · exact Or.inr (Or.inr (Or.inr hfailed))
  · intro h
    obtain ⟨hpos, item, hitem, rate, hrate, hlt⟩ | hfaulty := h
    · exact Or.inl ⟨item, hitem, .coverage rate hrate hpos hlt⟩
    · obtain ⟨kind, hkind, item, hitem, hname, hfail⟩ | hcounted | hfailed := hfaulty
      · exact Or.inl ⟨item, hitem, .failed kind hkind hname hfail⟩
      · obtain ⟨item, hitem, hname, hknown, severity, hsev, n, hn, hpos⟩ := hcounted
        exact Or.inl ⟨item, hitem, .security severity n hname hknown hsev hn hpos⟩
      · exact Or.inr hfailed

/-- Against a number, NaN apart, `≤` is the negation of the opposite `<`. -/
theorem FloatVal.le_finite_iff {t : ℚ} {x : FloatVal} :
    FloatVal.le (.finite t) x = true ↔ x ≠ .nan ∧ ¬x.lt (.finite t) = true := by
  cases x <;> simp [FloatVal.le]

/-- The policy is satisfied if no rate is NaN, nothing violates it and nothing is missing. -/
theorem satisfied_iff :
    Satisfied change policy evidence ↔ ClearRates policy evidence ∧
      ¬Violated change policy evidence ∧ Complete change policy evidence := by
  rw [violated_iff, not_or]
  constructor
  · intro h
    refine ⟨fun hpos item hitem hnan => ?_, ⟨fun hbelow => ?_, fun hfaulty => ?_⟩,
      h.changed, h.requirements, h.rules⟩
    · exact (FloatVal.le_finite_iff.mp (h.coverage hpos item hitem _ hnan)).1 rfl
    · obtain ⟨hpos, item, hitem, rate, hrate, hlt⟩ := hbelow
      exact (FloatVal.le_finite_iff.mp (h.coverage hpos item hitem rate hrate)).2 hlt
    · obtain ⟨kind, hkind, hfail⟩ | hcounted | ⟨kind, hfailed⟩ := hfaulty
      · exact h.noFailure kind hkind hfail
      · obtain ⟨item, hitem, hname, hknown, severity, hsev, n, hn, hpos⟩ := hcounted
        exact absurd (h.security item hitem hname hknown severity hsev n hn) (not_le.mpr hpos)
      · exact hfailed.2.2 (h.requirements kind hfailed.1)
  · intro h
    obtain ⟨hclear, ⟨hbelow, hfaulty⟩, hcomplete⟩ := h
    refine ⟨hcomplete.changed, hcomplete.requirements, fun kind hkind hfail => ?_,
      fun hpos item hitem rate hrate => ?_, fun item hitem hname hknown severity hsev n hn => ?_,
      hcomplete.rules⟩
    · exact hfaulty (Or.inl ⟨kind, hkind, hfail⟩)
    · refine FloatVal.le_finite_iff.mpr ⟨?_, fun hlt => hbelow ⟨hpos, item, hitem, rate, hrate, hlt⟩⟩
      rintro rfl
      exact hclear hpos item hitem hrate
    · by_contra hpos
      exact hfaulty (Or.inr (Or.inl
        ⟨item, hitem, hname, hknown, severity, hsev, n, hn, not_le.mp hpos⟩))

/-! ## The loops -/

/-- `any(item.state == state for item in by_kind(kind))`. -/
theorem anyState_byKind {kind : Kind} {state : EvidenceState} :
    anyState (byKind evidence kind) state = true ↔ Has evidence kind state := by
  simp [anyState, byKind, Has]

/-- The items of a kind, by the kind's name. -/
theorem mem_byKind {kind : Kind} {item : EvidenceItem} :
    item ∈ byKind evidence kind ↔ item ∈ evidence ∧ item.kind = kind.name := by
  simp [byKind]

/-- No item is of the kind. -/
theorem byKind_eq_nil {kind : Kind} :
    byKind evidence kind = [] ↔ ∀ item ∈ evidence, item.kind ≠ kind.name := by
  simp [byKind, List.filter_eq_nil_iff]

/-- A kind without items is in no state. -/
theorem not_has_of_byKind_nil {kind : Kind} {state : EvidenceState}
    (h : byKind evidence kind = []) : ¬Has evidence kind state := by
  intro h
  obtain ⟨item, hitem, hname, -⟩ := h
  exact byKind_eq_nil.mp h item hitem hname

/-- What `_required` computes is whether the policy requires the kind. -/
theorem required_iff {kind : Kind} :
    required policy kind change.docsOnly = true ↔ Requires change policy kind := by
  unfold required Requires
  split
  · next hwaived => simp_all
  · next hwaived =>
    refine (and_iff_left fun hall => hwaived ?_).symm
    exact ⟨hall.1, hall.2.2, hall.2.1⟩

/-- The requirement loop on one kind: nothing if the requirement holds, a block
if it failed, a review if it is open. -/
theorem requirementReasons_cases (change : GitChange) (policy : LoadedPolicy)
    (evidence : List EvidenceItem) (kind : Kind) :
    (requirementReasons change policy evidence kind = ([], []) ∧
      (Requires change policy kind → Has evidence kind .pass)) ∨
    (∃ block, requirementReasons change policy evidence kind = ([block], []) ∧
      RequirementFailed change policy evidence kind) ∨
    ∃ review, requirementReasons change policy evidence kind = ([], [review]) ∧
      Requires change policy kind ∧ ¬Has evidence kind .fail ∧ ¬Has evidence kind .pass := by
  unfold requirementReasons RequirementFailed
  dsimp only
  split
  · next hmissing =>
    exact Or.inr (Or.inr ⟨_, rfl, required_iff.mp hmissing.1,
      not_has_of_byKind_nil hmissing.2, not_has_of_byKind_nil hmissing.2⟩)
  · next hpresent =>
    split
    · next hnone =>
      obtain ⟨hreq, -, hpass⟩ := hnone
      rw [← Bool.not_eq_true, anyState_byKind] at hpass
      split
      · next hfail =>
        exact Or.inr (Or.inl ⟨_, rfl, required_iff.mp hreq, anyState_byKind.mp hfail, hpass⟩)
      · next hfail =>
        rw [anyState_byKind] at hfail
        exact Or.inr (Or.inr ⟨_, rfl, required_iff.mp hreq, hfail, hpass⟩)
    · next hnone =>
      refine Or.inl ⟨rfl, fun hreq => ?_⟩
      by_contra hpass
      rw [← required_iff] at hreq
      refine hnone ⟨hreq, fun hnil => hpresent ⟨hreq, hnil⟩, ?_⟩
      rwa [← Bool.not_eq_true, anyState_byKind]

/-- A requirement blocks just when it failed. -/
theorem requirementReasons_fst_eq_nil {kind : Kind} :
    (requirementReasons change policy evidence kind).1 = [] ↔
      ¬RequirementFailed change policy evidence kind := by
  rcases requirementReasons_cases change policy evidence kind with
    ⟨heq, hmet⟩ | ⟨block, heq, hfailed⟩ | ⟨review, heq, -, hfail, -⟩
  · exact iff_of_true (by rw [heq]) fun hfailed => hfailed.2.2 (hmet hfailed.1)
  · exact iff_of_false (by simp [heq]) fun hnot => hnot hfailed
  · exact iff_of_true (by rw [heq]) fun hfailed => hfail hfailed.2.1

/-- A requirement adds no reason just when it is met. -/
theorem requirementReasons_eq_nil {kind : Kind} :
    requirementReasons change policy evidence kind = ([], []) ↔
      (Requires change policy kind → Has evidence kind .pass) := by
  rcases requirementReasons_cases change policy evidence kind with
    ⟨heq, hmet⟩ | ⟨block, heq, hreq, -, hpass⟩ | ⟨review, heq, hreq, -, hpass⟩
  · exact iff_of_true heq hmet
  · exact iff_of_false (by simp [heq]) fun hmet => hpass (hmet hreq)
  · exact iff_of_false (by simp [heq]) fun hmet => hpass (hmet hreq)

/-- Failures count for tests and the build, required or not. -/
theorem observedFailures_eq_nil :
    observedFailures evidence = [] ↔
      ∀ kind, kind = .tests ∨ kind = .build → ¬Has evidence kind .fail := by
  simp [observedFailures, anyState_byKind]

/-- A number that `y` does not undercut is below every bound `y` is below. -/
theorem FloatVal.lt_of_not_lt {x y t : FloatVal} (hx : x ≠ .nan) (hyx : y.lt x = false)
    (hyt : y.lt t = true) : x.lt t = true := by
  cases x with
  | nan => exact absurd rfl hx
  | finite p =>
    cases y <;> cases t <;> simp_all [FloatVal.lt]
    exact lt_of_le_of_lt hyx hyt
  | infinite a =>
    cases y <;> cases t <;> simp_all [FloatVal.lt]

/-- The comparison of doubles is transitive below a bound. -/
theorem FloatVal.lt_trans {x y t : FloatVal} (hxy : x.lt y = true) (hyt : y.lt t = true) :
    x.lt t = true := by
  cases x <;> cases y <;> cases t <;> simp_all [FloatVal.lt]
  exact hxy.trans hyt

/-- NaN stays the least of the rates that follow it. -/
theorem minRate_nan (rates : List FloatVal) : minRate .nan rates = .nan := by
  induction rates with
  | nil => rfl
  | cons rate rates ih =>
    have hskip : rate.lt .nan = false := by cases rate <;> rfl
    show minRate (if rate.lt .nan then rate else .nan) rates = .nan
    rw [hskip]
    exact ih

/-- From a number on, the least rate is below a bound iff one of them is. -/
theorem minRate_lt_iff {x : FloatVal} {xs : List FloatVal} (hx : x ≠ .nan) (t : FloatVal) :
    (minRate x xs).lt t = true ↔ ∃ y ∈ x :: xs, y.lt t = true := by
  induction xs generalizing x with
  | nil => simp [minRate]
  | cons y ys ih =>
    have hstep : minRate x (y :: ys) = minRate (if y.lt x then y else x) ys := rfl
    have hleast : (if y.lt x then y else x).lt t = true ↔ x.lt t = true ∨ y.lt t = true := by
      cases hlt : y.lt x with
      | true => exact (or_iff_right_of_imp (FloatVal.lt_trans hlt)).symm
      | false => exact (or_iff_left_of_imp (FloatVal.lt_of_not_lt hx hlt)).symm
    have hnan : (if y.lt x then y else x) ≠ .nan := by
      split
      · next hlt =>
        rintro rfl
        cases x <;> cases hlt
      · exact hx
    rw [hstep, ih hnan]
    simp only [List.mem_cons, exists_eq_or_imp, hleast, or_assoc]

/-- A metric converts to one rate. -/
theorem EvidenceItem.LineRate.unique {item : EvidenceItem} {x y : FloatVal}
    (hx : item.LineRate x) (hy : item.LineRate y) : x = y := by
  obtain ⟨value, hvalue, hx⟩ := hx
  obtain ⟨value', hvalue', hy⟩ := hy
  rw [hvalue, Option.some.injEq] at hvalue'
  rw [← hvalue', hx, Except.ok.injEq] at hy
  exact hy

/-- Without the metric an item has no rate. -/
theorem EvidenceItem.not_lineRate {item : EvidenceItem} {x : FloatVal}
    (h : Value.lookup item.metrics "line_rate" = none) : ¬item.LineRate x := by
  intro hx
  obtain ⟨value, hvalue, -⟩ := hx
  rw [h] at hvalue
  cases hvalue

/-- The comprehension passes its first item over or begins with its rate. -/
theorem coverageRates_cons_cases {item : EvidenceItem} {items : List EvidenceItem}
    {rates : List FloatVal} (h : coverageRates (item :: items) = .ok rates) :
    ((item.state ≠ .unknown → Value.lookup item.metrics "line_rate" = none) ∧
        coverageRates items = .ok rates) ∨
      ∃ rate rest, item.state ≠ .unknown ∧ item.LineRate rate ∧
        coverageRates items = .ok rest ∧ rates = rate :: rest := by
  rw [coverageRates] at h
  split at h
  · next hstate => exact .inl ⟨fun hknown => absurd hstate hknown, h⟩
  · next hnone _ => exact .inl ⟨fun _ => hnone, h⟩
  · next value hvalue hstate =>
    simp only [bind_eq_ok, pure_eq_ok] at h
    obtain ⟨rate, hrate, rest, hrest, rfl⟩ := h
    exact .inr ⟨rate, rest, fun hunknown => hstate hunknown, ⟨value, hvalue, hrate⟩, hrest, rfl⟩

/-- The comprehension returned: it collected the rate of every known item. -/
theorem coverageRates_mem {items : List EvidenceItem} {rates : List FloatVal}
    (h : coverageRates items = .ok rates) (x : FloatVal) :
    x ∈ rates ↔ ∃ item ∈ items, item.state ≠ .unknown ∧ item.LineRate x := by
  induction items generalizing rates with
  | nil =>
    cases h
    simp
  | cons item items ih =>
    simp only [List.mem_cons, exists_eq_or_imp]
    obtain ⟨hnone, hrest⟩ | ⟨rate, rest, hknown, hrate, hrest, rfl⟩ := coverageRates_cons_cases h
    · rw [ih hrest, or_iff_right]
      exact fun hitem => EvidenceItem.not_lineRate (hnone hitem.1) hitem.2
    · rw [List.mem_cons, ih hrest]
      refine or_congr_left ⟨fun hx => ?_, fun hitem => hitem.2.unique hrate⟩
      rw [hx]
      exact ⟨hknown, hrate⟩

/-- Where the rates convert, the comprehension returns. -/
theorem coverageRates_returns {items : List EvidenceItem}
    (h : ∀ item ∈ items, item.state ≠ .unknown →
      ∀ value, Value.lookup item.metrics "line_rate" = some value → ∃ x, toFloat value = .ok x) :
    ∃ rates, coverageRates items = .ok rates := by
  induction items with
  | nil => exact ⟨[], rfl⟩
  | cons item items ih =>
    obtain ⟨rates, hrates⟩ := ih fun i hi => h i (List.mem_cons_of_mem _ hi)
    rw [coverageRates]
    split
    · exact ⟨rates, hrates⟩
    · exact ⟨rates, hrates⟩
    · next state value hvalue hstate =>
      obtain ⟨x, hx⟩ := h item List.mem_cons_self (fun hunknown => hstate hunknown) value hvalue
      exact ⟨x :: rates, by rw [hx, hrates]; rfl⟩

/-- The reason of the coverage check. -/
def coverageReason (policy : LoadedPolicy) : Reason :=
  ("coverage-below-policy", s!"Observed line coverage is below the " ++
    s!"{Number.percent policy.data.minimumLineRate} policy threshold.")

/-- The rate the minimum begins with is NaN. -/
def NanFirst (evidence : List EvidenceItem) : Prop :=
  ∃ rates, coverageRates (byKind evidence .coverage) = .ok (.nan :: rates)

/-- The collected rates are those the check looks at. -/
theorem coverageRates_measures {rates : List FloatVal}
    (h : coverageRates (byKind evidence .coverage) = .ok rates) (x : FloatVal) :
    x ∈ rates ↔ ∃ item ∈ evidence, item.Measures x := by
  rw [coverageRates_mem h]
  constructor
  · intro h
    obtain ⟨item, hitem, hknown, hrate⟩ := h
    obtain ⟨hitem, hname⟩ := mem_byKind.mp hitem
    exact ⟨item, hitem, hname, hknown, hrate⟩
  · intro h
    obtain ⟨item, hitem, hrate⟩ := h
    exact ⟨item, mem_byKind.mpr ⟨hitem, hrate.name⟩, hrate.known, hrate.carried⟩

/-- The coverage check returned: it blocks iff a rate is below the threshold, unless the first
one is NaN. -/
theorem coverageBlocks_cases {blocks : List Reason}
    (h : coverageBlocks policy evidence = .ok blocks) :
    (RateBelow policy evidence ∧ ¬NanFirst evidence ∧ blocks = [coverageReason policy]) ∨
      ((¬RateBelow policy evidence ∨ NanFirst evidence) ∧ blocks = []) := by
  unfold coverageBlocks at h
  dsimp only at h
  by_cases hpos : 0 < policy.data.minimumLineRate
  · rw [if_pos hpos] at h
    obtain ⟨rates, hcollected, h⟩ := bind_eq_ok.mp h
    have hbelow : RateBelow policy evidence ↔
        ∃ rate ∈ rates, rate.lt (.finite policy.data.minimumLineRate) = true := by
      constructor
      · intro h
        obtain ⟨-, item, hitem, rate, hrate, hlt⟩ := h
        exact ⟨rate, (coverageRates_measures hcollected rate).mpr ⟨item, hitem, hrate⟩, hlt⟩
      · intro h
        obtain ⟨rate, hmem, hlt⟩ := h
        obtain ⟨item, hitem, hrate⟩ := (coverageRates_measures hcollected rate).mp hmem
        exact ⟨hpos, item, hitem, rate, hrate, hlt⟩
    cases rates with
    | nil =>
      cases h
      exact Or.inr ⟨Or.inl (by simp [hbelow]), rfl⟩
    | cons rate rates =>
      dsimp only at h
      by_cases hnan : rate = .nan
      · subst hnan
        rw [minRate_nan] at h
        cases h
        exact Or.inr ⟨Or.inr ⟨rates, hcollected⟩, rfl⟩
      · have hfirst : ¬NanFirst evidence := by
          intro hfirst
          obtain ⟨others, hothers⟩ := hfirst
          rw [hcollected, Except.ok.injEq] at hothers
          exact hnan (List.cons.inj hothers).1
        rw [hbelow, ← minRate_lt_iff hnan]
        split at h
        · next hlt =>
          cases h
          exact Or.inl ⟨hlt, hfirst, rfl⟩
        · next hlt =>
          cases h
          exact Or.inr ⟨Or.inl hlt, rfl⟩
  · rw [if_neg hpos] at h
    cases h
    exact Or.inr ⟨Or.inl fun hbelow => hpos hbelow.1, rfl⟩

/-- Without a NaN the check blocks iff a rate is below the threshold. -/
theorem coverageBlocks_clear (hclear : ClearRates policy evidence) {blocks : List Reason}
    (h : coverageBlocks policy evidence = .ok blocks) :
    (RateBelow policy evidence ∧ blocks = [coverageReason policy]) ∨
      (¬RateBelow policy evidence ∧ blocks = []) := by
  rcases coverageBlocks_cases h with ⟨hbelow, -, hblocks⟩ | ⟨hnot, hblocks⟩
  · exact Or.inl ⟨hbelow, hblocks⟩
  · refine Or.inr ⟨fun hbelow => ?_, hblocks⟩
    obtain hnot | ⟨rates, hrates⟩ := hnot
    · exact hnot hbelow
    · obtain ⟨item, hitem, hnan⟩ := (coverageRates_measures hrates .nan).mp List.mem_cons_self
      exact hclear hbelow.1 item hitem hnan

/-- Rates that convert are compared without an error. -/
theorem coverageBlocks_returns (policy : LoadedPolicy) (h : ∀ item ∈ evidence, item.Converts) :
    ∃ blocks, coverageBlocks policy evidence = .ok blocks := by
  unfold coverageBlocks
  dsimp only
  split
  · obtain ⟨rates, hrates⟩ := coverageRates_returns fun item hitem =>
      (h item (mem_byKind.mp hitem).1).lineRate (mem_byKind.mp hitem).2
    rw [hrates, bind_ok]
    split
    · split
      · exact ⟨_, rfl⟩
      · exact ⟨_, rfl⟩
    · exact ⟨_, rfl⟩
  · exact ⟨_, rfl⟩

/-- The search of an item's severities returned: it found a positive count iff
there is one. -/
theorem securityBlocks_iff {item : EvidenceItem} {severities : List Severity} {blocks : Bool}
    (h : securityBlocks item severities = .ok blocks) :
    blocks = true ↔ ∃ severity ∈ severities, ∃ n, item.findings severity = .ok n ∧ 0 < n := by
  induction severities with
  | nil =>
    cases h
    simp
  | cons severity severities ih =>
    simp only [securityBlocks, bind_eq_ok] at h
    obtain ⟨n, hn, h⟩ := h
    simp only [List.mem_cons, exists_eq_or_imp]
    split at h
    · next hpos =>
      cases h
      exact iff_of_true rfl (Or.inl ⟨n, hn, hpos⟩)
    · next hpos =>
      rw [ih h, or_iff_right]
      intro h
      obtain ⟨m, hm, hmpos⟩ := h
      rw [hn, Except.ok.injEq] at hm
      exact hpos (hm ▸ hmpos)

/-- A finding of a blocked severity in an item whose state is known. -/
theorem anySecurityBlocks_iff {blocked : List Severity} {items : List EvidenceItem} {blocks : Bool}
    (h : anySecurityBlocks blocked items = .ok blocks) :
    blocks = true ↔ ∃ item ∈ items, item.state ≠ .unknown ∧
      ∃ severity ∈ blocked, ∃ n, item.findings severity = .ok n ∧ 0 < n := by
  induction items with
  | nil =>
    cases h
    simp
  | cons item items ih =>
    rw [anySecurityBlocks] at h
    simp only [List.mem_cons, exists_eq_or_imp]
    split at h
    · next hstate =>
      rw [ih h, or_iff_right]
      exact fun hitem => hitem.1 hstate
    · next hstate =>
      obtain ⟨found, hfound, h⟩ := bind_eq_ok.mp h
      have hsome := securityBlocks_iff hfound
      cases found with
      | true =>
        cases h
        exact iff_of_true rfl (Or.inl ⟨hstate, hsome.mp rfl⟩)
      | false =>
        rw [ih h, or_iff_right]
        exact fun hitem => Bool.false_ne_true (hsome.mpr hitem.2)

/-- Counts that convert are compared without an error. -/
theorem securityBlocks_returns {item : EvidenceItem}
    (h : ∀ severity, ∃ n, item.findings severity = .ok n) (severities : List Severity) :
    ∃ blocks, securityBlocks item severities = .ok blocks := by
  induction severities with
  | nil => exact ⟨false, rfl⟩
  | cons severity severities ih =>
    obtain ⟨n, hn⟩ := h severity
    rw [securityBlocks, hn, bind_ok]
    split
    · exact ⟨true, rfl⟩
    · exact ih

/-- Only the items whose state is known are counted. -/
theorem anySecurityBlocks_returns (blocked : List Severity) {items : List EvidenceItem}
    (h : ∀ item ∈ items, item.state ≠ .unknown → ∀ severity, ∃ n, item.findings severity = .ok n) :
    ∃ blocks, anySecurityBlocks blocked items = .ok blocks := by
  induction items with
  | nil => exact ⟨false, rfl⟩
  | cons item items ih =>
    have hrest := ih fun i hi => h i (List.mem_cons_of_mem _ hi)
    rw [anySecurityBlocks]
    split
    · exact hrest
    · next hstate =>
      obtain ⟨found, hfound⟩ := securityBlocks_returns (h item List.mem_cons_self hstate) blocked
      rw [hfound, bind_ok]
      cases found with
      | true => exact ⟨true, rfl⟩
      | false => exact hrest

/-- The security check returned: it blocks iff an item counts findings of a blocked severity. -/
theorem securityReasons_eq_nil {blocks : List Reason}
    (h : securityReasons policy evidence = .ok blocks) :
    blocks = [] ↔ ¬FindingCounted policy evidence := by
  simp only [securityReasons, bind_eq_ok, pure_eq_ok] at h
  obtain ⟨found, hfound, rfl⟩ := h
  have hcounted : found = true ↔ FindingCounted policy evidence := by
    rw [anySecurityBlocks_iff hfound]
    constructor
    · intro h
      obtain ⟨item, hitem, hknown, severity, hsev, hn⟩ := h
      obtain ⟨hitem, hname⟩ := mem_byKind.mp hitem
      exact ⟨item, hitem, hname, hknown, severity, List.mem_dedup.mp hsev, hn⟩
    · intro h
      obtain ⟨item, hitem, hname, hknown, severity, hsev, hn⟩ := h
      exact ⟨item, mem_byKind.mpr ⟨hitem, hname⟩, hknown, severity, List.mem_dedup.mpr hsev, hn⟩
  rw [← hcounted]
  cases found <;> simp

/-- The reading of the findings, as a whole. -/
theorem securityReasons_returns (policy : LoadedPolicy) (h : ∀ item ∈ evidence, item.Converts) :
    ∃ blocks, securityReasons policy evidence = .ok blocks := by
  obtain ⟨found, hfound⟩ := anySecurityBlocks_returns policy.data.blockSeverities.dedup
    fun item hitem => (h item (mem_byKind.mp hitem).1).counts (mem_byKind.mp hitem).2
  unfold securityReasons
  rw [hfound]
  exact ⟨_, rfl⟩

/-- A path rule is satisfied when each kind it asks for has passed. -/
theorem ruleReviews_eq_nil {rule : PathRule} :
    ruleReviews evidence rule = [] ↔ ∀ kind ∈ rule.requiredEvidence, Has evidence kind .pass := by
  simp [ruleReviews, anyState_byKind]

/-! ## The decision -/

/-- Blocks win over reviews. -/
theorem conclude_decision (blocks reviews : List Reason) (matchedRules : List String) :
    (blocks ≠ [] ∧ (conclude blocks reviews matchedRules).decision = .block) ∨
    (blocks = [] ∧ reviews ≠ [] ∧ (conclude blocks reviews matchedRules).decision = .review) ∨
    (blocks = [] ∧ reviews = [] ∧ (conclude blocks reviews matchedRules).decision = .pass) := by
  unfold conclude
  by_cases hblocks : blocks = []
  · by_cases hreviews : reviews = []
    · exact Or.inr (Or.inr ⟨hblocks, hreviews, by simp [hblocks, hreviews]⟩)
    · exact Or.inr (Or.inl ⟨hblocks, hreviews, by simp [hblocks, hreviews]⟩)
  · exact Or.inl ⟨hblocks, by simp [hblocks]⟩

/-- What `_evaluate_decision` accumulates, past the coverage check: no other block iff nothing is
faulty, and then no review iff nothing is missing. -/
theorem evaluateDecision_cases {evaluation : Evaluation}
    (h : evaluateDecision change policy evidence = .ok evaluation) :
    ∃ below, coverageBlocks policy evidence = .ok below ∧
      ((evaluation.decision = .block ∧ (below ≠ [] ∨ Faulty change policy evidence)) ∨
        (evaluation.decision = .review ∧ below = [] ∧ ¬Faulty change policy evidence ∧
          ¬Complete change policy evidence) ∨
        (evaluation.decision = .pass ∧ below = [] ∧ ¬Faulty change policy evidence ∧
          Complete change policy evidence)) := by
  simp only [evaluateDecision, bind_eq_ok, pure_eq_ok] at h
  obtain ⟨below, hbelow, findings, hfindings, rfl⟩ := h
  refine ⟨below, hbelow, ?_⟩
  have hsec := securityReasons_eq_nil hfindings
  have hblocks : (Kind.all.map (requirementReasons change policy evidence)).flatMap Prod.fst ++
      observedFailures evidence ++ below ++ findings = [] ↔
        below = [] ∧ ¬Faulty change policy evidence := by
    simp only [List.append_eq_nil_iff, List.flatMap_eq_nil_iff, List.forall_mem_map,
      requirementReasons_fst_eq_nil, observedFailures_eq_nil, hsec, Kind.mem_all,
      forall_true_left, Faulty, not_or, not_exists, not_and]
    tauto
  -- Without a failed requirement the ones that are left all ask for a review.
  have hreviews (hfaulty : ¬Faulty change policy evidence) : noChangeReviews change ++
      (Kind.all.map (requirementReasons change policy evidence)).flatMap Prod.snd ++
      (matchingPathRules policy change.paths).flatMap (ruleReviews evidence) = [] ↔
        Complete change policy evidence := by
    have hreview : ∀ kind, (requirementReasons change policy evidence kind).2 = [] ↔
        (Requires change policy kind → Has evidence kind .pass) := by
      intro kind
      rw [← requirementReasons_eq_nil, Prod.ext_iff]
      exact (and_iff_right (requirementReasons_fst_eq_nil.mpr fun hfailed =>
        hfaulty (Or.inr (Or.inr ⟨kind, hfailed⟩)))).symm
    have hcomplete : Complete change policy evidence ↔ change.paths ≠ [] ∧
        (∀ kind, Requires change policy kind → Has evidence kind .pass) ∧
        ∀ rule ∈ policy.data.pathRules, Matches change rule →
          ∀ kind ∈ rule.requiredEvidence, Has evidence kind .pass :=
      ⟨fun h => ⟨h.changed, h.requirements, h.rules⟩, fun h => ⟨h.1, h.2.1, h.2.2⟩⟩
    rw [hcomplete]
    simp only [noChangeReviews, List.append_eq_nil_iff, List.flatMap_eq_nil_iff,
      List.forall_mem_map, hreview, ruleReviews_eq_nil, Kind.mem_all, forall_true_left,
      mem_matchingPathRules, and_imp, ite_eq_right_iff, reduceCtorEq, and_assoc, Matches, ne_eq]
  -- The decision reads off which of the two lists is empty.
  rcases conclude_decision _ _ _ with ⟨hne, hd⟩ | ⟨hnil, hne, hd⟩ | ⟨hnil, hnil', hd⟩
  · rw [ne_eq, hblocks, not_and_or, not_not] at hne
    exact Or.inl ⟨hd, hne⟩
  · obtain ⟨hnone, hfaulty⟩ := hblocks.mp hnil
    exact Or.inr (Or.inl ⟨hd, hnone, hfaulty, fun hcomplete => hne ((hreviews hfaulty).mpr hcomplete)⟩)
  · obtain ⟨hnone, hfaulty⟩ := hblocks.mp hnil
    exact Or.inr (Or.inr ⟨hd, hnone, hfaulty, (hreviews hfaulty).mp hnil'⟩)

/-- Metrics that convert are all the evaluation needs to return. -/
theorem evaluateDecision_returns (change : GitChange) (policy : LoadedPolicy)
    (h : ∀ item ∈ evidence, item.Converts) :
    ∃ evaluation, evaluateDecision change policy evidence = .ok evaluation := by
  obtain ⟨below, hbelow⟩ := coverageBlocks_returns policy h
  obtain ⟨findings, hfindings⟩ := securityReasons_returns policy h
  simp only [evaluateDecision, hbelow, hfindings, bind_ok]
  exact ⟨_, rfl⟩

/-- A change passes only with what is required of it, whatever the metrics hold. -/
theorem evaluateDecision_pass {evaluation : Evaluation}
    (h : evaluateDecision change policy evidence = .ok evaluation)
    (hpass : evaluation.decision = .pass) :
    (∀ kind, Requires change policy kind → Has evidence kind .pass) ∧
      ∀ rule ∈ matchingPathRules policy change.paths, ∀ kind ∈ rule.requiredEvidence,
        Has evidence kind .pass := by
  simp only [evaluateDecision, bind_eq_ok, pure_eq_ok] at h
  obtain ⟨below, -, findings, -, rfl⟩ := h
  rcases conclude_decision _ _ _ with ⟨-, hd⟩ | ⟨-, -, hd⟩ | ⟨hblocks, hreviews, -⟩
  · rw [hd] at hpass
    cases hpass
  · rw [hd] at hpass
    cases hpass
  · simp only [List.append_eq_nil_iff, List.flatMap_eq_nil_iff, List.forall_mem_map] at hblocks hreviews
    refine ⟨fun kind => requirementReasons_eq_nil.mp (Prod.ext ?_ ?_), fun rule hrule => ?_⟩
    · exact hblocks.1.1.1 kind (Kind.mem_all kind)
    · exact hreviews.1.2 kind (Kind.mem_all kind)
    · exact ruleReviews_eq_nil.mp (hreviews.2 rule hrule)

/-! ### Sorting and the receipt -/

/-- Sorting does not change which states the evidence has. -/
theorem has_mergeSort {kind : Kind} {state : EvidenceState} :
    Has (evidence.mergeSort itemLe) kind state ↔ Has evidence kind state := by
  simp [Has]

theorem rateBelow_mergeSort :
    RateBelow policy (evidence.mergeSort itemLe) ↔ RateBelow policy evidence := by
  simp only [RateBelow, List.mem_mergeSort]

theorem clearRates_mergeSort :
    ClearRates policy (evidence.mergeSort itemLe) ↔ ClearRates policy evidence := by
  simp only [ClearRates, List.mem_mergeSort]

theorem faulty_mergeSort :
    Faulty change policy (evidence.mergeSort itemLe) ↔ Faulty change policy evidence := by
  simp only [Faulty, FindingCounted, RequirementFailed, has_mergeSort, List.mem_mergeSort]

theorem complete_mergeSort :
    Complete change policy (evidence.mergeSort itemLe) ↔ Complete change policy evidence :=
  ⟨fun h => h.of_has fun _ => has_mergeSort.mp, fun h => h.of_has fun _ => has_mergeSort.mpr⟩

/-- A list of texts has a canonical form. -/
theorem canonical_strs (xs : List String) : canonical (strs xs) = true := by
  simp [strs, canonical, canonicalList_iff]

theorem canonical_optionalStr (s : Option String) : canonical (optionalStr s) = true := by
  cases s <;> rfl

/-- An item has a canonical form when its metrics have one. -/
theorem EvidenceItem.canonical_toDict {item : EvidenceItem}
    (h : canonicalItems item.metrics = true) : canonical item.toDict = true := by
  simp [EvidenceItem.toDict, canonical, canonicalItems, canonical_optionalStr, h]

/-- A receipt is canonical JSON as soon as the metrics it repeats are. -/
theorem canonical_receiptBody (change : GitChange) (policy : LoadedPolicy)
    (evaluation : Evaluation)
    (h : ∀ item ∈ evidence, canonicalItems item.metrics = true) :
    canonical (.dict (receiptBody change policy evidence evaluation)) = true := by
  have hevidence : canonicalList (evidence.map EvidenceItem.toDict) = true :=
    canonicalList_iff.mpr fun v hv => by
      obtain ⟨item, hitem, rfl⟩ := List.mem_map.mp hv
      exact EvidenceItem.canonical_toDict (h item hitem)
  simp [receiptBody, canonical, canonicalItems, canonical_strs, hevidence]

/-- Past the evaluation, `verify_change` only sorts and writes the receipt. -/
theorem verifyChange_of_evaluation (host : Host) {evaluation : Evaluation}
    (h : ∀ item ∈ evidence, canonicalItems item.metrics = true)
    (heval : evaluateDecision change policy (evidence.mergeSort itemLe) = .ok evaluation) :
    ∃ result, verifyChange host change policy evidence = .ok result ∧
      result.decision = evaluation.decision ∧
      result.reasonCodes = evaluation.reasons.map Prod.fst ∧
      result.reasons = evaluation.reasons.map Prod.snd := by
  have hjson : ∀ item ∈ evidence.mergeSort itemLe, canonicalItems item.metrics = true :=
    fun item hitem => h item (List.mem_mergeSort.mp hitem)
  have hbody := canonical_receiptBody change policy evaluation hjson
  unfold verifyChange receiptDigest
  simp only [heval, hbody, bind_ok, if_true]
  exact ⟨_, rfl, rfl, rfl, rfl⟩

/-- What `verify_change` passes has the required evidence. -/
theorem verifyChange_pass {host : Host} {result : VerificationResult}
    (h : verifyChange host change policy evidence = .ok result) (hpass : result.decision = .pass) :
    (∀ kind, Requires change policy kind → Has evidence kind .pass) ∧
      ∀ rule ∈ matchingPathRules policy change.paths, ∀ kind ∈ rule.requiredEvidence,
        Has evidence kind .pass := by
  simp only [verifyChange, bind_eq_ok, pure_eq_ok] at h
  obtain ⟨evaluation, heval, digest, -, rfl⟩ := h
  simpa only [has_mergeSort] using evaluateDecision_pass heval hpass

/-- Where the metrics convert, `verify_change` returns. -/
theorem verifyChange_returns (host : Host) (change : GitChange) (policy : LoadedPolicy)
    (h : ∀ item ∈ evidence, item.Converts) :
    ∃ result, verifyChange host change policy evidence = .ok result := by
  obtain ⟨evaluation, heval⟩ := evaluateDecision_returns change policy
    fun item hitem => h item (List.mem_mergeSort.mp hitem)
  obtain ⟨result, hresult, -⟩ := verifyChange_of_evaluation host
    (fun item hitem => (h item hitem).json) heval
  exact ⟨result, hresult⟩

/-- What `verify_change` decided, past the coverage check. -/
theorem verifyChange_decision {host : Host} {result : VerificationResult}
    (h : verifyChange host change policy evidence = .ok result) :
    ∃ below, coverageBlocks policy (evidence.mergeSort itemLe) = .ok below ∧
      ((result.decision = .block ∧ (below ≠ [] ∨ Faulty change policy evidence)) ∨
        (result.decision = .review ∧ below = [] ∧ ¬Faulty change policy evidence ∧
          ¬Complete change policy evidence) ∨
        (result.decision = .pass ∧ below = [] ∧ ¬Faulty change policy evidence ∧
          Complete change policy evidence)) := by
  simp only [verifyChange, bind_eq_ok, pure_eq_ok] at h
  obtain ⟨evaluation, heval, digest, -, rfl⟩ := h
  simpa only [faulty_mergeSort, complete_mergeSort] using evaluateDecision_cases heval

/-- Without a NaN, `verify_change` decides as the abstract gate. -/
theorem verifyChange_clear {host : Host} {result : VerificationResult}
    (h : verifyChange host change policy evidence = .ok result)
    (hclear : ClearRates policy evidence) :
    (result.decision = .block ∧ Violated change policy evidence) ∨
      (result.decision = .review ∧ ¬Violated change policy evidence ∧
        ¬Satisfied change policy evidence) ∨
      (result.decision = .pass ∧ Satisfied change policy evidence) := by
  obtain ⟨below, hbelow, hcases⟩ := verifyChange_decision h
  have hblocks : below = [] ↔ ¬RateBelow policy evidence := by
    rcases coverageBlocks_clear (clearRates_mergeSort.mpr hclear) hbelow with ⟨hlt, rfl⟩ | ⟨hlt, rfl⟩
    · exact iff_of_false (List.cons_ne_nil _ _) fun hnot => hnot (rateBelow_mergeSort.mp hlt)
    · exact iff_of_true rfl fun hbelow => hlt (rateBelow_mergeSort.mpr hbelow)
  rw [satisfied_iff, violated_iff]
  rcases hcases with ⟨hd, hblock⟩ | ⟨hd, hnone, hfaulty, hcomplete⟩ | ⟨hd, hnone, hfaulty, hcomplete⟩
  · refine Or.inl ⟨hd, hblock.imp_left fun hne => ?_⟩
    by_contra hnot
    exact hne (hblocks.mpr hnot)
  · have hnot := not_or.mpr ⟨hblocks.mp hnone, hfaulty⟩
    exact Or.inr (Or.inl ⟨hd, hnot, fun hsat => hcomplete hsat.2.2⟩)
  · exact Or.inr (Or.inr ⟨hd, hclear, not_or.mpr ⟨hblocks.mp hnone, hfaulty⟩, hcomplete⟩)

/-- On readable evidence `verify_change` returns, with the decision of the abstract gate. -/
theorem verifyChange_cases (host : Host) (change : GitChange) (policy : LoadedPolicy)
    (h : ∀ item ∈ evidence, item.Readable) :
    ∃ result, verifyChange host change policy evidence = .ok result ∧
      ((result.decision = .block ∧ Violated change policy evidence) ∨
        (result.decision = .review ∧ ¬Violated change policy evidence ∧
          ¬Satisfied change policy evidence) ∨
        (result.decision = .pass ∧ Satisfied change policy evidence)) := by
  obtain ⟨result, hresult⟩ := verifyChange_returns host change policy
    fun item hitem => (h item hitem).converts
  exact ⟨result, hresult, verifyChange_clear hresult (clearRates_of_readable h)⟩

/-- Readable evidence that satisfies the policy passes. -/
theorem verifyChange_passes (host : Host) (h : ∀ item ∈ evidence, item.Readable)
    (hsat : Satisfied change policy evidence) :
    ∃ result, verifyChange host change policy evidence = .ok result ∧ result.decision = .pass := by
  obtain ⟨result, hresult, ⟨-, hviol⟩ | ⟨-, -, hnot⟩ | ⟨hpass, -⟩⟩ :=
    verifyChange_cases host change policy h
  · exact absurd hviol (satisfied_iff.mp hsat).2.1
  · exact absurd hsat hnot
  · exact ⟨result, hresult, hpass⟩

/-- A code change with a passing test report and a measured line rate. -/
def testedChange : GitChange where
  repository := "acme/shop"
  baseSha := "b"
  headSha := "h"
  mergeBaseSha := "b"
  generatedAt := "2026-01-01T00:00:00+00:00"
  paths := ["src/cart.py"]
  filesChanged := 1
  linesAdded := 3
  linesDeleted := 1
  flags := []

def testedEvidence : List EvidenceItem :=
  [{ id := "tests-1", kind := "tests", state := .pass, source := "junit.xml", sourceSha := "h",
     artifactSha256 := none, summary := "3 tests passed; 0 skipped.",
     metrics := [("tests", .int 3), ("failures", .int 0)] },
   { id := "coverage-1", kind := "coverage", state := .pass, source := "coverage.xml",
     sourceSha := "h", artifactSha256 := none, summary := "Reported line coverage is 90.0%.",
     metrics := [("line_rate", .float (.finite (9 / 10)))] }]

/-- A host whose digests are blank: the gate only copies them into the receipt. -/
def blankHost : Host where
  sha256 _ := ""
  fromstring _ := .error .parseError
  loads _ := .error (.valueError "")
  decode _ := ""
  repr _ := ""
  digest _ := ""

/-- The built-in policy is satisfied where no path rule matches: it asks for tests
that passed, unless they are waived, and for nothing that failed. -/
theorem builtinPolicy_satisfied (hchanged : change.paths ≠ [])
    (hrules : matchingPathRules (builtinPolicy "") change.paths = [])
    (htests : change.docsOnly = true ∨ Has evidence .tests .pass)
    (hfailed : ∀ item ∈ evidence, item.state ≠ .fail)
    (hsecurity : ∀ item ∈ evidence, item.kind ≠ Kind.security.name) :
    Satisfied change (builtinPolicy "") evidence where
  changed := hchanged
  requirements := by
    intro kind ⟨hreq, hwaived⟩
    have hkind : kind = .tests := by simpa [builtinPolicy, defaultPolicy] using hreq
    subst hkind
    exact htests.resolve_left fun hdocs => hwaived ⟨rfl, rfl, hdocs⟩
  noFailure := by
    intro kind _ ⟨item, hitem, _, hfail⟩
    exact hfailed item hitem hfail
  coverage := fun hpos => absurd hpos (lt_irrefl 0)
  security := fun item hitem hname => absurd hname (hsecurity item hitem)
  rules := by
    intro rule hrule hmatch
    have hmem := mem_matchingPathRules.mpr ⟨hrule, hmatch⟩
    rw [hrules] at hmem
    cases hmem

/-- Tests and coverage satisfy the built-in policy where no path rule matches. -/
theorem testedEvidence_satisfied (hchanged : change.paths ≠ [])
    (hrules : matchingPathRules (builtinPolicy "") change.paths = []) :
    Satisfied change (builtinPolicy "") testedEvidence :=
  builtinPolicy_satisfied hchanged hrules (Or.inr ⟨_, List.mem_cons_self .., rfl, rfl⟩) (by decide)
    (by decide)

/-- The one item of the example states no rate. -/
theorem testedEvidence_readable : ∀ item ∈ testedEvidence, item.Readable := by
  intro item hitem
  simp only [testedEvidence, List.mem_cons, List.not_mem_nil, or_false] at hitem
  rcases hitem with rfl | rfl
  · exact ⟨rfl, fun hname => absurd hname (by decide), fun hname => absurd hname (by decide)⟩
  · refine ⟨rfl, fun _ _ value hvalue => ?_, fun hname => absurd hname (by decide)⟩
    obtain rfl := Option.some.inj hvalue
    exact ⟨9 / 10, rfl⟩

/-- Passing tests pass every change that no path rule of the built-in policy matches. -/
theorem testedEvidence_passes (hchanged : change.paths ≠ [])
    (hrules : matchingPathRules (builtinPolicy "") change.paths = []) :
    ∃ result, verifyChange blankHost change (builtinPolicy "") testedEvidence = .ok result ∧
      result.decision = .pass :=
  verifyChange_passes blankHost testedEvidence_readable (testedEvidence_satisfied hchanged hrules)

end DeployGuard.Verify
