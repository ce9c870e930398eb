import DeployGuard.Service.Engines
import Mathlib.Data.List.Dedup
import Mathlib.Data.List.Forall2
import Mathlib.Data.List.Perm.Subperm
import Mathlib.Tactic.Linarith

/-!
# Risk scores are monotone

A change that touches more, is tested or observed less, failed more often before or
has lost its rollback is not scored lower. Every dimension is a clamped and rounded
sum of terms that all go the same way, and the overall score is a sum of the rounded
dimensions with weights that are not negative.

> `calculateChangeRisk_mono`: no score and no level of the riskier change is lower, and
> all scores lie in 0…100.
-/

namespace DeployGuard.Service

variable {host : Host} {tiers : Dict String Value} {a b : RiskInput}

/-- `b` is the same change with more files, lines or failures, less coverage or
observability, more services, or without the rollback. -/
structure Riskier (a b : RiskInput) : Prop where
  files : a.filesChanged ≤ b.filesChanged
  lines : a.totalLines ≤ b.totalLines
  services : ∀ service ∈ a.changedServices, service ∈ b.changedServices
  flags : b.flags = a.flags
  coverage : Option.Rel (fun x y : ℚ => y ≤ x) a.testCoverage b.testCoverage
  rollback : b.rollbackReady = a.rollbackReady ∨
    (a.rollbackReady = some true ∧ b.rollbackReady = some false)
  observability : Option.Rel (fun x y : ℚ => y ≤ x) a.observabilityScore b.observabilityScore
  failures : Option.Rel (fun m n : Int => m ≤ n) a.previousFailures b.previousFailures

/-- The levels, from the lowest. -/
def riskLevels : List String := ["low", "moderate", "high", "critical"]

/-- No part of the second ledger is below the first. -/
structure NoLower (r r' : Risk) : Prop where
  overall : r.overallScore ≤ r'.overallScore
  level : riskLevels.idxOf r.level ≤ riskLevels.idxOf r'.level
  dimensions : List.Forall₂ (fun d d' : Dimension => d.key = d'.key ∧ d.score ≤ d'.score)
    r.dimensions r'.dimensions

/-- A score from 0 to 100. -/
def InRange (n : Int) : Prop := 0 ≤ n ∧ n ≤ 100

structure ScoresInRange (r : Risk) : Prop where
  overall : InRange r.overallScore
  dimensions : ∀ d ∈ r.dimensions, InRange d.score

/-! ## Scores -/

/-- Clamping is monotone. -/
theorem clamp_mono {p q : ℚ} (h : p ≤ q) (minimum maximum : ℚ) :
    clamp p minimum maximum ≤ clamp q minimum maximum :=
  max_le_max_left _ (min_le_min_left _ h)

/-- Rounding to a score is monotone. -/
theorem score_mono {p q : ℚ} (h : p ≤ q) : score p ≤ score q :=
  Number.halfEven_mono (clamp_mono h 0 100)

/-- A clamped number lies within the bounds. -/
theorem clamp_mem {q minimum maximum : ℚ} (h : minimum ≤ maximum) :
    minimum ≤ clamp q minimum maximum ∧ clamp q minimum maximum ≤ maximum :=
  ⟨le_max_left _ _, max_le h (min_le_left _ _)⟩

/-- A score lies between 0 and 100. -/
theorem score_inRange (q : ℚ) : InRange (score q) := by
  obtain ⟨hlow, hhigh⟩ := clamp_mem (q := q) (show (0 : ℚ) ≤ 100 by norm_num)
  exact ⟨Number.le_halfEven (by exact_mod_cast hlow), Number.halfEven_le (by exact_mod_cast hhigh)⟩

/-- The maximum bounds the list and is one of its elements. -/
theorem foldl_max (xs : List Int) (x : Int) : (∀ y ∈ x :: xs, y ≤ xs.foldl max x) ∧
    xs.foldl max x ∈ x :: xs := by
  induction xs generalizing x with
  | nil => exact ⟨fun y hy => (List.mem_singleton.mp hy).le, List.mem_cons_self⟩
  | cons z xs ih =>
    obtain ⟨hle, hmem⟩ := ih (max x z)
    rw [List.foldl_cons]
    have hmax := hle (max x z) List.mem_cons_self
    refine ⟨fun y hy => ?_, ?_⟩
    · obtain rfl | hy := List.mem_cons.mp hy
      · exact (le_max_left y z).trans hmax
      obtain rfl | hy := List.mem_cons.mp hy
      · exact (le_max_right x y).trans hmax
      · exact hle y (List.mem_cons_of_mem _ hy)
    · obtain heq | hmem := List.mem_cons.mp hmem
      · rw [heq]
        obtain hx | hz := max_choice x z
        · rw [hx]
          exact List.mem_cons_self
        · rw [hz]
          exact List.mem_cons_of_mem _ List.mem_cons_self
      · exact List.mem_cons_of_mem _ (List.mem_cons_of_mem _ hmem)

/-- More values that are not negative have no lower maximum. -/
theorem maxOrZero_mono {xs ys : List Int} (hsub : ∀ x ∈ xs, x ∈ ys) (hys : ∀ y ∈ ys, 0 ≤ y) :
    maxOrZero xs ≤ maxOrZero ys := by
  cases ys with
  | nil =>
    obtain rfl : xs = [] := List.eq_nil_iff_forall_not_mem.mpr fun x hx =>
      List.not_mem_nil (hsub x hx)
    exact le_rfl
  | cons y ys =>
    obtain ⟨hle, hmem⟩ := foldl_max ys y
    cases xs with
    | nil => exact hys _ hmem
    | cons x xs => exact hle _ (hsub _ (foldl_max xs x).2)

/-- No tier lowers a score. -/
theorem tierBonus_nonneg (number : Int) : 0 ≤ tierBonus number := by
  unfold tierBonus
  split_ifs <;> decide

/-! ## The dimensions -/

namespace Riskier

variable (h : Riskier a b)

include h

/-- A larger change has at least the size score. -/
theorem sizeScore : a.sizeScore ≤ b.sizeScore := by
  have hfiles : (max 0 a.filesChanged * 3 : Int) ≤ max 0 b.filesChanged * 3 := by
    have hle := h.files
    omega
  have hlines : (a.totalLines : ℚ) / 12 ≤ (b.totalLines : ℚ) / 12 := by
    have hle : (a.totalLines : ℚ) ≤ b.totalLines := by exact_mod_cast h.lines
    linarith
  exact score_mono (add_le_add (by exact_mod_cast hfiles) hlines)

/-- More services are counted. -/
theorem serviceCount : a.serviceCount ≤ b.serviceCount := by
  have hsub : a.changedServices.dedup.Subperm b.changedServices.dedup := by
    refine List.Nodup.subperm (List.nodup_dedup _) fun service hmem => ?_
    exact List.mem_dedup.mpr (h.services service (List.mem_dedup.mp hmem))
  exact Int.ofNat_le.mpr hsub.length_le

/-- A wider change has at least the scope score. -/
theorem scopeScore (host : Host) (tiers : Dict String Value) :
    a.scopeScore host tiers ≤ b.scopeScore host tiers := by
  have hcount := h.serviceCount
  have hbonus : maxOrZero (a.changedServices.map fun service =>
      tierBonus (tierNumber host ((tiers.get? service).getD .none))) ≤
        maxOrZero (b.changedServices.map fun service =>
          tierBonus (tierNumber host ((tiers.get? service).getD .none))) := by
    refine maxOrZero_mono (fun x hx => ?_) fun x hx => ?_
    · obtain ⟨service, hservice, rfl⟩ := List.mem_map.mp hx
      exact List.mem_map.mpr ⟨service, h.services service hservice, rfl⟩
    · obtain ⟨service, -, rfl⟩ := List.mem_map.mp hx
      exact tierBonus_nonneg _
  refine score_mono (Int.cast_le.mpr ?_)
  omega

/-- The flags are the same, and with them the type score. -/
theorem typeScore (host : Host) : b.typeScore host = a.typeScore host := by
  rw [RiskInput.typeScore, RiskInput.typeScore, RiskInput.normalizedFlags, RiskInput.normalizedFlags,
    h.flags]

/-- Less coverage raises the test score. -/
theorem testScore : a.testScore ≤ b.testScore := by
  have hcoverage := h.coverage
  unfold RiskInput.testScore RiskInput.coverage
  generalize a.testCoverage = x at hcoverage ⊢
  generalize b.testCoverage = y at hcoverage ⊢
  cases hcoverage with
  | none => exact le_rfl
  | some hle =>
    refine Number.halfEven_mono ?_
    have hclamp := clamp_mono hle 0 1
    linarith

/-- More failures raise the history score. -/
theorem historyScore : a.historyScore ≤ b.historyScore := by
  have hfailures := h.failures
  unfold RiskInput.historyScore
  generalize a.previousFailures = x at hfailures ⊢
  generalize b.previousFailures = y at hfailures ⊢
  cases hfailures with
  | none => exact le_rfl
  | some hle =>
    refine score_mono (Int.cast_le.mpr ?_)
    omega

/-- Less safety raises the safety score. -/
theorem safetyScore : a.safetyScore ≤ b.safetyScore := by
  have hobserved := h.observability
  unfold RiskInput.safetyScore RiskInput.observability
  refine score_mono (add_le_add ?_ ?_)
  · obtain hsame | ⟨hready, hmissing⟩ := h.rollback
    · rw [hsame]
    · rw [hready, hmissing]
      norm_num
  · generalize a.observabilityScore = x at hobserved ⊢
    generalize b.observabilityScore = y at hobserved ⊢
    cases hobserved with
    | none => exact le_rfl
    | some hle =>
      have hclamp := clamp_mono hle 0 1
      show (1 - clamp _ 0 1) * 35 ≤ (1 - clamp _ 0 1) * 35
      linarith

/-- Dimension by dimension, with the same weights. -/
theorem dimensions (host : Host) (tiers : Dict String Value) (p p' : String) :
    List.Forall₂ (fun d d' : Dimension => d.key = d'.key ∧ d.weight = d'.weight ∧ d.score ≤ d'.score)
      (a.dimensions host tiers p) (b.dimensions host tiers p') := by
  refine .cons ⟨rfl, rfl, h.sizeScore⟩ <| .cons ⟨rfl, rfl, h.scopeScore host tiers⟩ <|
    .cons ⟨rfl, rfl, ?_⟩ <| .cons ⟨rfl, rfl, h.testScore⟩ <|
      .cons ⟨rfl, rfl, h.historyScore⟩ <| .cons ⟨rfl, rfl, h.safetyScore⟩ .nil
  exact (h.typeScore host).ge

end Riskier

/-- `RISK_WEIGHTS` has no negative weight. -/
theorem riskWeight_nonneg (key : String) : 0 ≤ (riskWeights.get? key).getD 0 := by
  have hweights : ∀ item ∈ riskWeights, 0 ≤ item.2 := by
    intro item hitem
    simp only [riskWeights, List.mem_cons, List.not_mem_nil, or_false] at hitem
    obtain rfl | rfl | rfl | rfl | rfl | rfl := hitem <;> norm_num
  cases hget : riskWeights.get? key with
  | none => exact le_rfl
  | some w => exact hweights _ (Dict.mem_of_get? hget)

/-- No dimension has a negative weight. -/
theorem dimensions_weight (host : Host) (tiers : Dict String Value) (p : String) (a : RiskInput) :
    ∀ d ∈ a.dimensions host tiers p, 0 ≤ d.weight := by
  intro d hd
  simp only [RiskInput.dimensions, List.mem_cons, List.not_mem_nil, or_false] at hd
  obtain rfl | rfl | rfl | rfl | rfl | rfl := hd <;> exact riskWeight_nonneg _

/-- A weighted sum grows with its scores. -/
theorem weightedSum_mono {ds ds' : List Dimension}
    (h : List.Forall₂ (fun d d' : Dimension =>
      d.key = d'.key ∧ d.weight = d'.weight ∧ d.score ≤ d'.score) ds ds')
    (hweight : ∀ d ∈ ds, 0 ≤ d.weight) :
    (ds.map fun d => (d.score : ℚ) * d.weight).sum ≤ (ds'.map fun d => (d.score : ℚ) * d.weight).sum := by
  induction h with
  | nil => exact le_rfl
  | @cons d d' ds ds' hd _ ih =>
    obtain ⟨-, hsame, hle⟩ := hd
    have hrest := ih fun e he => hweight e (List.mem_cons_of_mem _ he)
    have hscore : (d.score : ℚ) ≤ d'.score := Int.cast_le.mpr hle
    have hterm := mul_le_mul_of_nonneg_right hscore (hweight d List.mem_cons_self)
    rw [List.map_cons, List.map_cons, List.sum_cons, List.sum_cons, ← hsame]
    exact add_le_add hterm hrest

/-- The overall score is a weighted sum of monotone dimensions. -/
theorem Riskier.overallScore (h : Riskier a b) (host : Host) (tiers : Dict String Value) :
    a.overallScore host tiers ≤ b.overallScore host tiers :=
  score_mono (weightedSum_mono (h.dimensions host tiers "" "") (dimensions_weight host tiers "" a))

/-- The place of a level. -/
theorem idxOf_riskLevel (overall : Int) : riskLevels.idxOf (RiskInput.riskLevel overall) =
    if overall < 25 then 0 else if overall < 50 then 1 else if overall < 70 then 2 else 3 := by
  unfold RiskInput.riskLevel
  split_ifs <;> rfl

/-- The levels follow the score. -/
theorem riskLevel_mono {m n : Int} (h : m ≤ n) :
    riskLevels.idxOf (RiskInput.riskLevel m) ≤ riskLevels.idxOf (RiskInput.riskLevel n) := by
  rw [idxOf_riskLevel, idxOf_riskLevel]
  split_ifs <;> omega

/-! ## The ledger -/

/-- The test score lies between 0 and 100. -/
theorem testScore_inRange (a : RiskInput) : InRange a.testScore := by
  unfold RiskInput.testScore RiskInput.coverage
  cases a.testCoverage with
  | none => exact ⟨by decide, by decide⟩
  | some x =>
    obtain ⟨hlow, hhigh⟩ := clamp_mem (q := x) (show (0 : ℚ) ≤ 1 by norm_num)
    refine ⟨Number.le_halfEven ?_, Number.halfEven_le ?_⟩
    · push_cast
      linarith
    · push_cast
      linarith

theorem historyScore_inRange (a : RiskInput) : InRange a.historyScore := by
  unfold RiskInput.historyScore
  cases a.previousFailures with
  | none => exact ⟨by decide, by decide⟩
  | some n => exact score_inRange _

/-- Every score of a result lies between 0 and 100. -/
theorem calculateChangeRisk_inRange (host : Host) (a : RiskInput) (tiers : Dict String Value)
    (evidencePrefix : String) : ScoresInRange (calculateChangeRisk host a tiers evidencePrefix) where
  overall := score_inRange _
  dimensions d hd := by
    simp only [calculateChangeRisk, RiskInput.dimensions, List.mem_cons, List.not_mem_nil,
      or_false] at hd
    obtain rfl | rfl | rfl | rfl | rfl | rfl := hd
    · exact score_inRange _
    · exact score_inRange _
    · exact score_inRange _
    · exact testScore_inRange a
    · exact historyScore_inRange a
    · exact score_inRange _

/-- A riskier change is not scored lower, and all scores lie in 0…100. -/
theorem calculateChangeRisk_mono (h : Riskier a b) (host : Host) (tiers : Dict String Value)
    (p p' : String) :
    NoLower (calculateChangeRisk host a tiers p) (calculateChangeRisk host b tiers p') ∧
      ScoresInRange (calculateChangeRisk host a tiers p) ∧
        ScoresInRange (calculateChangeRisk host b tiers p') := by
  refine ⟨⟨h.overallScore host tiers, riskLevel_mono (h.overallScore host tiers), ?_⟩,
    calculateChangeRisk_inRange host a tiers p, calculateChangeRisk_inRange host b tiers p'⟩
  exact (h.dimensions host tiers p p').imp fun d d' hd => ⟨hd.1, hd.2.2⟩

/-- One service and full coverage, against two services, half of it and no rollback. -/
def smallChange : RiskInput where
  filesChanged := 2
  linesAdded := 10
  linesDeleted := 0
  changedServices := ["api"]
  flags := ["docs-only"]
  testCoverage := some 1
  rollbackReady := some true
  observabilityScore := some 1
  previousFailures := some 0

def largeChange : RiskInput :=
  { smallChange with
    filesChanged := 40
    linesDeleted := 300
    changedServices := ["api", "cart"]
    testCoverage := some (1 / 2)
    rollbackReady := some false
    previousFailures := some 3 }

/-- A small change made larger in every measure. -/
theorem largeChange_noLower :
    NoLower (calculateChangeRisk asciiHost smallChange [] "small")
      (calculateChangeRisk asciiHost largeChange [] "large") := by
  have hriskier : Riskier smallChange largeChange := by
    refine ⟨by decide, by decide, by decide, rfl, .some ?_, Or.inr ⟨rfl, rfl⟩, .some ?_, .some ?_⟩
    · norm_num
    · norm_num
    · norm_num
  exact (calculateChangeRisk_mono hriskier asciiHost [] "small" "large").1

end DeployGuard.Service
