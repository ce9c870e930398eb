import DeployGuard.Lib.Sorted
import DeployGuard.Service.RiskScore

/-!
# Hypothesis ranking

`rank_hypotheses`, over exact rationals: every candidate cause is scored from the
evidence that supports it and the evidence that contradicts it, and the best few are
returned in order. What `item.get` leaves out has its default here.

> `counterEvidence_hurts`: counter-evidence against one candidate lowers nothing but
> that candidate, and what is returned does not depend on the order of the candidates;

> `supportingEvidence_helps`: supporting evidence never lowers a score.
-/

namespace DeployGuard.Service

/-- `EVIDENCE_TYPE_RELIABILITY`. -/
def evidenceTypeReliability : Dict String ℚ :=
  [("trace", 1), ("metric", 19 / 20), ("deployment", 23 / 25), ("config", 9 / 10), ("log", 17 / 20),
    ("topology", 3 / 4), ("human", 18 / 25)]

/-- An evidence item, as `rank_hypotheses` reads it. -/
structure RcaEvidence where
  id : String
  type : Option String := none
  quality : ℚ := 1 / 2
  supports : List String := []
  contradicts : List String := []
  deriving DecidableEq

/-- A candidate cause. -/
structure RcaCandidate where
  id : String
  causeService : String
  cause : String
  prior : ℚ := 1 / 2
  nextStep : String
  status : String := "unreviewed"
  deriving DecidableEq

/-- What `rank_hypotheses` returns of a candidate. -/
structure RankedHypothesis where
  id : String
  rank : Nat
  causeService : String
  cause : String
  confidence : ℚ
  score : Int
  evidenceIds : List String
  counterEvidenceIds : List String
  reasoning : String
  nextStep : String
  status : String
  deriving DecidableEq

/-- `strength(item)`. -/
def strength (host : Host) (item : RcaEvidence) : ℚ :=
  clamp item.quality 0 1 *
    (evidenceTypeReliability.get? (host.lower (item.type.getD ""))).getD (7 / 10)

def supporting (evidence : List RcaEvidence) (candidateId : String) : List RcaEvidence :=
  evidence.filter fun item => candidateId ∈ item.supports

def contradicting (evidence : List RcaEvidence) (candidateId : String) : List RcaEvidence :=
  evidence.filter fun item => candidateId ∈ item.contradicts

/-- `sum(strength(item) for item in items)`. -/
def totalStrength (host : Host) (items : List RcaEvidence) : ℚ := (items.map (strength host)).sum

/-- `len({str(item.get("type")) for item in items})`. -/
def distinctTypes (items : List RcaEvidence) : Nat :=
  (items.map fun item => item.type.getD "None").dedup.length

/-- The score, from the supporting and the contradicting items. -/
def causeScore (host : Host) (prior : ℚ) (support counter : List RcaEvidence) : Int :=
  score (clamp prior 0 1 * 25 + min 55 (totalStrength host support * 16) -
    min 45 (totalStrength host counter * 28) + min 10 ((distinctTypes support : ℚ) * 3) +
      min 6 ((support.length : ℚ) * (3 / 2)))

/-- The mean quality of the supporting items. -/
def averageQuality (support : List RcaEvidence) : ℚ :=
  if support = [] then 0 else (support.map fun item => item.quality).sum / support.length

/-- The confidence before it is clamped and rounded. -/
def rawConfidence (host : Host) (score : Int) (support counter : List RcaEvidence) : ℚ :=
  3 / 20 + 11 / 20 * (score / 100) + 3 / 20 * min 1 ((support.length : ℚ) / 2) +
    1 / 10 * averageQuality support - 3 / 25 * min 1 (totalStrength host counter)

def causeConfidence (host : Host) (score : Int) (support counter : List RcaEvidence) : ℚ :=
  Number.round (clamp (rawConfidence host score support counter) (1 / 20) (49 / 50)) 2

def causeReasoning (support counter : List RcaEvidence) : String :=
  (if support = [] then "No direct supporting evidence is currently available"
  else s!"{support.length} evidence item(s) support this cause" ++
    s!" across {distinctTypes support} evidence type(s)") ++
  (if counter = [] then "; no counter-evidence is currently recorded."
  else s!"; {counter.length} counter-evidence item(s) reduce confidence.")

/-- The entry of a candidate, not ranked yet. -/
def rankedEntry (host : Host) (evidence : List RcaEvidence) (candidate : RcaCandidate) :
    RankedHypothesis :=
  let support := supporting evidence candidate.id
  let counter := contradicting evidence candidate.id
  let score := causeScore host candidate.prior support counter
  { id := candidate.id
    rank := 0
    causeService := candidate.causeService
    cause := candidate.cause
    confidence := causeConfidence host score support counter
    score
    evidenceIds := support.map (·.id)
    counterEvidenceIds := counter.map (·.id)
    reasoning := causeReasoning support counter
    nextStep := candidate.nextStep
    status := candidate.status }

/-- `ranked.sort(key=lambda item: (-item["score"], item["id"]))`. -/
def rankOrder (entries : List RankedHypothesis) : List RankedHypothesis :=
  entries.insertionSort fun a b => -a.score < -b.score ∨ (-a.score = -b.score ∧ a.id ≤ b.id)

/-- `rank_hypotheses`. -/
def rankHypotheses (host : Host) (evidence : List RcaEvidence) (candidates : List RcaCandidate)
    (limit : Int := 3) : List RankedHypothesis :=
  ((rankOrder (candidates.map (rankedEntry host evidence))).take (max 0 limit).toNat).mapIdx
    fun index item => { item with rank := index + 1 }

/-! ## Strength -/

variable {host : Host} {candidates : List RcaCandidate} {c : RcaCandidate} {item : RcaEvidence}
  {support counter before after : List RcaEvidence}

/-- No evidence weighs less than nothing. -/
theorem strength_nonneg (host : Host) (item : RcaEvidence) : 0 ≤ strength host item := by
  have hreliability : ∀ entry ∈ evidenceTypeReliability, 0 ≤ entry.2 := by
    intro entry hentry
    simp only [evidenceTypeReliability, List.mem_cons, List.not_mem_nil, or_false] at hentry
    obtain rfl | rfl | rfl | rfl | rfl | rfl | rfl := hentry <;> norm_num
  have hquality := (clamp_mem (q := item.quality) (show (0 : ℚ) ≤ 1 by norm_num)).1
  refine mul_nonneg hquality ?_
  cases hget : evidenceTypeReliability.get? (host.lower (item.type.getD "")) with
  | none =>
    show (0 : ℚ) ≤ 7 / 10
    norm_num
  | some q => exact hreliability _ (Dict.mem_of_get? hget)

/-- The strengths add up. -/
theorem totalStrength_cons (host : Host) (item : RcaEvidence) (items : List RcaEvidence) :
    totalStrength host (item :: items) = strength host item + totalStrength host items := by
  rw [totalStrength, List.map_cons, List.sum_cons, totalStrength]

theorem totalStrength_perm {xs ys : List RcaEvidence} (h : xs.Perm ys) :
    totalStrength host xs = totalStrength host ys :=
  (h.map _).sum_eq

/-- More evidence is at least as strong. -/
theorem totalStrength_le_cons (host : Host) (item : RcaEvidence) (items : List RcaEvidence) :
    totalStrength host items ≤ totalStrength host (item :: items) := by
  rw [totalStrength_cons]
  exact le_add_of_nonneg_left (strength_nonneg host item)

/-- An item a filter keeps is one more of what it keeps, wherever the item stands. -/
theorem filter_insert {p : RcaEvidence → Bool} (h : p item = true) :
    ((before ++ item :: after).filter p).Perm (item :: (before ++ after).filter p) := by
  have hperm : (before ++ item :: after).Perm (item :: (before ++ after)) := List.perm_middle
  have hkept := hperm.filter p
  rwa [List.filter_cons_of_pos h] at hkept

/-- An item that does not pass the filter may as well not be there. -/
theorem filter_insert_not {p : RcaEvidence → Bool} (h : ¬p item = true) :
    (before ++ item :: after).filter p = (before ++ after).filter p := by
  rw [List.filter_append, List.filter_cons_of_neg h, List.filter_append]

/-- What supports a hypothesis is one item more. -/
theorem supporting_insert {id : String} (h : id ∈ item.supports) (before after : List RcaEvidence) :
    (supporting (before ++ item :: after) id).Perm (item :: supporting (before ++ after) id) :=
  filter_insert (decide_eq_true h)

/-- An item that does not support it changes nothing there. -/
theorem supporting_insert_not {id : String} (h : id ∉ item.supports)
    (before after : List RcaEvidence) :
    supporting (before ++ item :: after) id = supporting (before ++ after) id :=
  filter_insert_not fun hmem => h (of_decide_eq_true hmem)

/-- What contradicts it is one item more. -/
theorem contradicting_insert {id : String} (h : id ∈ item.contradicts)
    (before after : List RcaEvidence) :
    (contradicting (before ++ item :: after) id).Perm
      (item :: contradicting (before ++ after) id) :=
  filter_insert (decide_eq_true h)

/-- An item that does not contradict it changes nothing there. -/
theorem contradicting_insert_not {id : String} (h : id ∉ item.contradicts)
    (before after : List RcaEvidence) :
    contradicting (before ++ item :: after) id = contradicting (before ++ after) id :=
  filter_insert_not fun hmem => h (of_decide_eq_true hmem)

/-! ## Rank -/

/-- An entry that is placed before another. -/
def Before (a b : RankedHypothesis) : Prop :=
  Sorted.lexLe (fun e : RankedHypothesis => -e.score) (fun e => e.id) a b ∧ a.id ≠ b.id

instance (a b : RankedHypothesis) : Decidable (Before a b) :=
  inferInstanceAs (Decidable ((-a.score < -b.score ∨ (-a.score = -b.score ∧ a.id ≤ b.id)) ∧ a.id ≠ b.id))

/-- `Before` is the order of the sort keys, ids apart. -/
theorem before_iff {a b : RankedHypothesis} :
    Before a b ↔ (b.score < a.score ∨ (a.score = b.score ∧ a.id ≤ b.id)) ∧ a.id ≠ b.id :=
  and_congr_left fun _ => or_congr neg_lt_neg_iff (and_congr_left fun _ => neg_inj)

/-- Of two hypotheses one comes first. -/
theorem Before.asymm (a b : RankedHypothesis) (h : Before a b) : ¬Before b a :=
  fun h' => h.2 (Sorted.lexLe_antisymm h.1 h'.1).2

/-- How many entries are placed before one. -/
def place (entries : List RankedHypothesis) (entry : RankedHypothesis) : Nat :=
  entries.countP fun e => Before e entry

/-- Ranking loses no entry. -/
theorem rankOrder_perm (entries : List RankedHypothesis) : (rankOrder entries).Perm entries :=
  List.perm_insertionSort _ entries

/-- Distinct ids are ranked without ties. -/
theorem pairwise_rankOrder {entries : List RankedHypothesis} (h : (entries.map (·.id)).Nodup) :
    (rankOrder entries).Pairwise Before := by
  have hsorted : (rankOrder entries).Pairwise
      (Sorted.lexLe (fun e : RankedHypothesis => -e.score) (fun e => e.id)) :=
    Sorted.pairwise_insertionSort_lexLe _ _ entries
  have hnodup : ((rankOrder entries).map (·.id)).Nodup :=
    ((rankOrder_perm entries).map _).nodup_iff.mpr h
  exact hsorted.and (List.pairwise_map.mp hnodup)

/-- An entry's rank is the number of entries before it. -/
theorem place_rankOrder {entries : List RankedHypothesis} (h : (entries.map (·.id)).Nodup) {i : Nat}
    (hi : i < (rankOrder entries).length) : place entries (rankOrder entries)[i] = i := by
  have hcount := (rankOrder_perm entries).countP_eq fun e => Before e (rankOrder entries)[i]
  exact hcount.symm.trans (Sorted.countP_before Before.asymm (pairwise_rankOrder h) hi)

/-- An entry keeps its candidate's id. -/
theorem map_id_rankedEntry (host : Host) (evidence : List RcaEvidence)
    (candidates : List RcaCandidate) :
    (candidates.map (rankedEntry host evidence)).map (·.id) = candidates.map (·.id) := by
  rw [List.map_map]
  rfl

/-- Where a candidate is placed. -/
def placeOf (host : Host) (evidence : List RcaEvidence) (candidates : List RcaCandidate)
    (c : RcaCandidate) : Nat :=
  place (candidates.map (rankedEntry host evidence)) (rankedEntry host evidence c)

/-- What is returned, when no two candidates share an id: every candidate with fewer than
`limit` before it, ranked by how many there are. -/
theorem mem_rankHypotheses {evidence : List RcaEvidence} {limit : Int} {h : RankedHypothesis}
    (hunique : (candidates.map (·.id)).Nodup) :
    h ∈ rankHypotheses host evidence candidates limit ↔
      ∃ c ∈ candidates, placeOf host evidence candidates c < (max 0 limit).toNat ∧
        h = { rankedEntry host evidence c with rank := placeOf host evidence candidates c + 1 } := by
  have hids : ((candidates.map (rankedEntry host evidence)).map (·.id)).Nodup := by
    rwa [map_id_rankedEntry]
  have hperm := rankOrder_perm (candidates.map (rankedEntry host evidence))
  rw [rankHypotheses, List.mem_mapIdx]
  -- `take` and `mapIdx` keep the index of an entry, and its index is its place
  constructor
  · intro ⟨i, hi, heq⟩
    rw [List.length_take] at hi
    have hlength : i < (rankOrder (candidates.map (rankedEntry host evidence))).length := by omega
    have hplace := place_rankOrder hids hlength
    have hmem := hperm.mem_iff.mp (List.getElem_mem hlength)
    obtain ⟨c, hc, hentry⟩ := List.mem_map.mp hmem
    rw [← hentry] at hplace
    refine ⟨c, hc, ?_, ?_⟩
    · rw [placeOf, hplace]
      omega
    · rw [placeOf, hplace, hentry, ← heq, List.getElem_take]
  · intro ⟨c, hc, hlt, heq⟩
    have hmem := hperm.mem_iff.mpr (List.mem_map_of_mem hc)
    obtain ⟨i, hi, hentry⟩ := List.getElem_of_mem hmem
    have hplace := place_rankOrder hids hi
    rw [hentry] at hplace
    rw [placeOf, hplace] at hlt heq
    have htake : i < ((rankOrder (candidates.map (rankedEntry host evidence))).take
        (max 0 limit).toNat).length := by
      rw [List.length_take]
      omega
    refine ⟨i, htake, ?_⟩
    rw [heq, List.getElem_take, hentry]

/-- What is returned under the id of a candidate is that candidate's entry, ranked. -/
theorem entry_of_rankHypotheses {evidence : List RcaEvidence} {limit : Int} {h : RankedHypothesis}
    (hunique : (candidates.map (·.id)).Nodup) (hc : c ∈ candidates)
    (hmem : h ∈ rankHypotheses host evidence candidates limit) (hid : h.id = c.id) :
    ∃ rank, h = { rankedEntry host evidence c with rank } := by
  obtain ⟨d, hd, -, rfl⟩ := (mem_rankHypotheses hunique).mp hmem
  obtain rfl : d = c := List.inj_on_of_nodup_map hunique hd hc hid
  exact ⟨_, rfl⟩

/-- The order of the candidates does not matter, when no two of them share an id. -/
theorem rankHypotheses_perm {candidates' : List RcaCandidate}
    (hunique : (candidates.map (·.id)).Nodup) (hperm : candidates.Perm candidates') (host : Host)
    (evidence : List RcaEvidence) (limit : Int) :
    rankHypotheses host evidence candidates limit =
      rankHypotheses host evidence candidates' limit := by
  have hids : ((candidates.map (rankedEntry host evidence)).map (·.id)).Nodup := by
    rwa [map_id_rankedEntry]
  have hsame : rankOrder (candidates.map (rankedEntry host evidence)) =
      rankOrder (candidates'.map (rankedEntry host evidence)) :=
    Sorted.insertionSort_lexLe_congr (fun e : RankedHypothesis => -e.score) (fun e => e.id)
      (hperm.map _) fun a ha b hb _ hid => List.inj_on_of_nodup_map hids ha hb hid
  rw [rankHypotheses, hsame, rankHypotheses]

/-! ## Counter-evidence -/

/-- The item supports no candidate and contradicts none but `c`. -/
structure CountersOnly (candidates : List RcaCandidate) (item : RcaEvidence) (c : RcaCandidate) :
    Prop where
  supports : ∀ d ∈ candidates, d.id ∉ item.supports
  contradicts : ∀ d ∈ candidates, d.id ∈ item.contradicts → d = c

/-- From one evidence list to another nothing but the standing of `c` changes, and that
for the worse: of the entries the loop makes, and of what is returned. -/
structure HurtsOnly (host : Host) (candidates : List RcaCandidate) (limit : Int) (c : RcaCandidate)
    (evidence evidence' : List RcaEvidence) : Prop where
  score : (rankedEntry host evidence' c).score ≤ (rankedEntry host evidence c).score
  confidence : (rankedEntry host evidence' c).confidence ≤ (rankedEntry host evidence c).confidence
  others : ∀ d ∈ candidates, d ≠ c →
    (rankedEntry host evidence' d).score = (rankedEntry host evidence d).score ∧
      (rankedEntry host evidence' d).confidence = (rankedEntry host evidence d).confidence
  returned : ∀ h ∈ rankHypotheses host evidence candidates limit,
    ∀ h' ∈ rankHypotheses host evidence' candidates limit, h'.id = h.id →
      h'.score ≤ h.score ∧ h'.confidence ≤ h.confidence ∧
        (h.id ≠ c.id → h'.score = h.score ∧ h'.confidence = h.confidence)
  rank : ∀ h' ∈ rankHypotheses host evidence' candidates limit, h'.id = c.id →
    ∃ h ∈ rankHypotheses host evidence candidates limit, h.id = c.id ∧ h.rank ≤ h'.rank

/-- Stronger contradiction lowers the score. -/
theorem causeScore_counter {counter counter' : List RcaEvidence}
    (h : totalStrength host counter ≤ totalStrength host counter') (prior : ℚ)
    (support : List RcaEvidence) :
    causeScore host prior support counter' ≤ causeScore host prior support counter := by
  have hmin : min 45 (totalStrength host counter * 28) ≤ min 45 (totalStrength host counter' * 28) :=
    min_le_min_left 45 (mul_le_mul_of_nonneg_right h (by norm_num))
  refine score_mono ?_
  linarith

theorem causeConfidence_counter {counter counter' : List RcaEvidence} {score score' : Int}
    (h : totalStrength host counter ≤ totalStrength host counter') (hscore : score' ≤ score)
    (support : List RcaEvidence) :
    causeConfidence host score' support counter' ≤ causeConfidence host score support counter := by
  have hmin : min 1 (totalStrength host counter) ≤ min 1 (totalStrength host counter') :=
    min_le_min_left 1 h
  have hcast : (score' : ℚ) ≤ score := by exact_mod_cast hscore
  have hraw : rawConfidence host score' support counter' ≤ rawConfidence host score support counter := by
    unfold rawConfidence
    linarith
  exact Number.round_mono (clamp_mono hraw _ _) 2

/-- One item more only strengthens what contradicts. -/
theorem totalStrength_contradicting_le (host : Host) (before after : List RcaEvidence)
    (item : RcaEvidence) (id : String) :
    totalStrength host (contradicting (before ++ after) id) ≤
      totalStrength host (contradicting (before ++ item :: after) id) := by
  by_cases h : id ∈ item.contradicts
  · rw [totalStrength_perm (contradicting_insert h before after)]
    exact totalStrength_le_cons host item _
  · rw [contradicting_insert_not h]

/-- A candidate that loses score, while no other does, is placed no earlier. -/
theorem placeOf_mono {evidence evidence' : List RcaEvidence}
    (hscore : (rankedEntry host evidence' c).score ≤ (rankedEntry host evidence c).score)
    (hothers : ∀ d ∈ candidates, d ≠ c →
      (rankedEntry host evidence' d).score = (rankedEntry host evidence d).score) :
    placeOf host evidence candidates c ≤ placeOf host evidence' candidates c := by
  -- whatever was before `c` stays before it, so the count can only grow
  unfold placeOf place
  rw [List.countP_map, List.countP_map]
  refine List.countP_mono_left fun d hd hbefore => decide_eq_true ?_
  obtain ⟨hle, hne⟩ := before_iff.mp (of_decide_eq_true hbefore)
  have hsame := hothers d hd fun heq => hne (heq ▸ rfl)
  refine before_iff.mpr ⟨?_, hne⟩
  obtain hlt | ⟨heq, hid⟩ := hle
  · exact Or.inl (by omega)
  by_cases hdrop : (rankedEntry host evidence' c).score < (rankedEntry host evidence c).score
  · exact Or.inl (by omega)
  · exact Or.inr ⟨by omega, hid⟩

/-- Evidence that counters one candidate alone can only hurt it. -/
theorem CountersOnly.hurtsOnly (h : CountersOnly candidates item c)
    (hunique : (candidates.map (·.id)).Nodup) (hc : c ∈ candidates) (host : Host) (limit : Int)
    (before after : List RcaEvidence) :
    HurtsOnly host candidates limit c (before ++ after) (before ++ item :: after) := by
  have hsupport : ∀ d ∈ candidates,
      supporting (before ++ item :: after) d.id = supporting (before ++ after) d.id :=
    fun d hd => supporting_insert_not (h.supports d hd) before after
  have hmore := totalStrength_contradicting_le host before after item c.id
  have hscore : (rankedEntry host (before ++ item :: after) c).score ≤
      (rankedEntry host (before ++ after) c).score := by
    unfold rankedEntry
    rw [hsupport c hc]
    exact causeScore_counter hmore _ _
  have hothers : ∀ d ∈ candidates, d ≠ c →
      rankedEntry host (before ++ item :: after) d = rankedEntry host (before ++ after) d := by
    intro d hd hne
    have hcounter := contradicting_insert_not (fun hmem => hne (h.contradicts d hd hmem))
      before after
    unfold rankedEntry
    rw [hsupport d hd, hcounter]
  have hconfidence : (rankedEntry host (before ++ item :: after) c).confidence ≤
      (rankedEntry host (before ++ after) c).confidence := by
    have hless := causeConfidence_counter hmore hscore (supporting (before ++ after) c.id)
    unfold rankedEntry at hless ⊢
    rw [hsupport c hc] at hless ⊢
    exact hless
  refine ⟨hscore, hconfidence, fun d hd hne => ?_, fun h hmem h' hmem' hid => ?_,
    fun h' hmem hid => ?_⟩
  · rw [hothers d hd hne]
    exact ⟨rfl, rfl⟩
  · obtain ⟨d, hd, -, rfl⟩ := (mem_rankHypotheses hunique).mp hmem
    obtain ⟨rank, rfl⟩ := entry_of_rankHypotheses hunique hd hmem' hid
    by_cases hdc : d = c
    · subst hdc
      exact ⟨hscore, hconfidence, fun hne => absurd rfl hne⟩
    · rw [hothers d hd hdc]
      exact ⟨le_rfl, le_rfl, fun _ => ⟨rfl, rfl⟩⟩
  · obtain ⟨d, hd, hlt, rfl⟩ := (mem_rankHypotheses hunique).mp hmem
    obtain rfl : d = c := List.inj_on_of_nodup_map hunique hd hc hid
    have hplace := placeOf_mono hscore fun e he hne => by rw [hothers e he hne]
    refine ⟨_, (mem_rankHypotheses hunique).mpr ⟨d, hc, hplace.trans_lt hlt, rfl⟩, rfl, ?_⟩
    exact Nat.add_le_add_right hplace 1

/-- Counter-evidence hurts nothing but the candidate it is against, wherever it is put
among the evidence, and the order of the candidates does not matter. -/
theorem counterEvidence_hurts (hunique : (candidates.map (·.id)).Nodup) (host : Host) (limit : Int) :
    (∀ c ∈ candidates, ∀ item, CountersOnly candidates item c → ∀ before after,
      HurtsOnly host candidates limit c (before ++ after) (before ++ item :: after)) ∧
    ∀ evidence candidates', candidates.Perm candidates' →
      rankHypotheses host evidence candidates limit = rankHypotheses host evidence candidates' limit :=
  ⟨fun _ hc _ h before after => h.hurtsOnly hunique hc host limit before after,
    fun evidence _ hperm => rankHypotheses_perm hunique hperm host evidence limit⟩

/-- Two causes, and a log that speaks against the first. -/
def badDeploy : RcaCandidate where
  id := "h1"
  causeService := "api"
  cause := "Bad deploy"
  nextStep := "Roll back."

def slowCache : RcaCandidate :=
  { badDeploy with id := "h2", causeService := "cache", cause := "Slow cache" }

def counterLog : RcaEvidence where
  id := "e1"
  type := some "log"
  contradicts := ["h1"]

/-- A log that counters the bad deploy, with a second candidate it leaves alone. -/
theorem counterLog_hurts : HurtsOnly asciiHost [badDeploy, slowCache] 3 badDeploy [] [counterLog] := by
  have hcounters : CountersOnly [badDeploy, slowCache] counterLog badDeploy := by
    constructor <;> simp [badDeploy, slowCache, counterLog]
  exact (counterEvidence_hurts (by decide) asciiHost 3).1 badDeploy List.mem_cons_self counterLog
    hcounters [] []

/-! ## Supporting evidence -/

/-- A quality as the schemas admit it. -/
def IsQuality (q : ℚ) : Prop := 0 ≤ q ∧ q ≤ 1

/-- What an item that supports `c` does to its entry. The mean quality is a term of the
confidence, so an item below the mean can cost some of it, but no more than 0.04. -/
structure Helps (c : RcaCandidate) (item : RcaEvidence) (evidence evidence' : List RcaEvidence)
    (entry entry' : RankedHypothesis) : Prop where
  score : entry.score ≤ entry'.score
  good : averageQuality (supporting evidence c.id) ≤ item.quality →
    entry.confidence ≤ entry'.confidence
  few : (∀ e ∈ evidence', IsQuality e.quality) → (supporting evidence c.id).length ≤ 1 →
    entry.confidence ≤ entry'.confidence
  loss : (∀ e ∈ evidence', IsQuality e.quality) →
    entry.confidence - 1 / 25 ≤ entry'.confidence

/-- The kinds of evidence do not depend on the order. -/
theorem distinctTypes_perm {xs ys : List RcaEvidence} (h : xs.Perm ys) :
    distinctTypes xs = distinctTypes ys :=
  (h.map _).dedup.length_eq

/-- One item more shows at least as many kinds. -/
theorem distinctTypes_le_cons (item : RcaEvidence) (items : List RcaEvidence) :
    distinctTypes items ≤ distinctTypes (item :: items) := by
  have hsub : (items.map fun e => e.type.getD "None").dedup.Subperm
      ((item :: items).map fun e => e.type.getD "None").dedup := by
    refine List.Nodup.subperm (List.nodup_dedup _) fun name hmem => ?_
    rw [List.mem_dedup] at hmem ⊢
    exact List.mem_cons_of_mem _ hmem
  exact hsub.length_le

/-- The score does not depend on the order of the support. -/
theorem causeScore_perm {xs ys : List RcaEvidence} (h : xs.Perm ys) (host : Host) (prior : ℚ)
    (counter : List RcaEvidence) : causeScore host prior xs counter = causeScore host prior ys counter := by
  rw [causeScore, totalStrength_perm h, distinctTypes_perm h, h.length_eq, causeScore]

/-- Support never lowers the score. -/
theorem causeScore_le_cons (host : Host) (prior : ℚ) (item : RcaEvidence)
    (support counter : List RcaEvidence) :
    causeScore host prior support counter ≤ causeScore host prior (item :: support) counter := by
  have hstrength : min 55 (totalStrength host support * 16) ≤
      min 55 (totalStrength host (item :: support) * 16) :=
    min_le_min_left 55 (mul_le_mul_of_nonneg_right (totalStrength_le_cons host item support)
      (by norm_num))
  have htypes : min 10 ((distinctTypes support : ℚ) * 3) ≤
      min 10 ((distinctTypes (item :: support) : ℚ) * 3) := by
    have hle : (distinctTypes support : ℚ) ≤ distinctTypes (item :: support) := by
      exact_mod_cast distinctTypes_le_cons item support
    exact min_le_min_left 10 (mul_le_mul_of_nonneg_right hle (by norm_num))
  have hcount : min 6 ((support.length : ℚ) * (3 / 2)) ≤
      min 6 (((item :: support).length : ℚ) * (3 / 2)) := by
    rw [List.length_cons, Nat.cast_succ]
    exact min_le_min_left 6 (by linarith)
  refine score_mono ?_
  linarith

/-- The average does not depend on the order. -/
theorem averageQuality_perm {xs ys : List RcaEvidence} (h : xs.Perm ys) :
    averageQuality xs = averageQuality ys := by
  have hnil : xs = [] ↔ ys = [] := ⟨fun heq => List.nil_perm.mp (heq ▸ h), fun heq =>
    List.perm_nil.mp (heq ▸ h)⟩
  rw [averageQuality, averageQuality, (h.map _).sum_eq, h.length_eq, if_congr hnil rfl rfl]

/-- The average times the number of items is their sum, also for no items. -/
theorem averageQuality_mul (items : List RcaEvidence) :
    averageQuality items * items.length = (items.map fun e => e.quality).sum := by
  unfold averageQuality
  split
  · next hnil =>
    rw [hnil, zero_mul]
    rfl
  · next hne =>
    have hlength : (items.length : ℚ) ≠ 0 := by
      exact_mod_cast fun hzero => hne (List.length_eq_zero_iff.mp hzero)
    exact div_mul_cancel₀ _ hlength

/-- One item moves the mean by its distance from it, shared among all. -/
theorem averageQuality_cons (item : RcaEvidence) (items : List RcaEvidence) :
    (averageQuality (item :: items) - averageQuality items) * (items.length + 1) =
      item.quality - averageQuality items := by
  have hnew := averageQuality_mul (item :: items)
  have hold := averageQuality_mul items
  rw [List.length_cons, Nat.cast_succ, List.map_cons, List.sum_cons, ← hold] at hnew
  linarith

/-- What the number and the quality of the supporting items add to the confidence. -/
def supportTerm (items : List RcaEvidence) : ℚ :=
  3 / 20 * min 1 ((items.length : ℚ) / 2) + 1 / 10 * averageQuality items

theorem supportTerm_perm {xs ys : List RcaEvidence} (h : xs.Perm ys) :
    supportTerm xs = supportTerm ys := by
  rw [supportTerm, supportTerm, averageQuality_perm h, h.length_eq]

/-- The count's share grows up to two items. -/
theorem countTerm_le_cons (item : RcaEvidence) (items : List RcaEvidence) :
    min 1 ((items.length : ℚ) / 2) ≤ min 1 (((item :: items).length : ℚ) / 2) := by
  rw [List.length_cons, Nat.cast_succ]
  exact min_le_min_left 1 (by linarith)

/-- The average of admissible qualities is one. -/
theorem averageQuality_admissible {items : List RcaEvidence}
    (h : ∀ e ∈ items, IsQuality e.quality) : IsQuality (averageQuality items) := by
  induction items with
  | nil => exact ⟨le_rfl, zero_le_one⟩
  | cons item items ih =>
    obtain ⟨hlow, hhigh⟩ := ih fun e he => h e (List.mem_cons_of_mem _ he)
    obtain ⟨hitem, hitem'⟩ := h item List.mem_cons_self
    -- the mean moves towards the item and not past it
    have hmove := averageQuality_cons item items
    have hlength : (0 : ℚ) ≤ items.length := Nat.cast_nonneg _
    constructor
    · by_contra hneg
      nlinarith
    · by_contra hmore
      nlinarith

/-- An item of at least the average quality never lowers the term. -/
theorem supportTerm_good {items : List RcaEvidence} (h : averageQuality items ≤ item.quality) :
    supportTerm items ≤ supportTerm (item :: items) := by
  have hmove := averageQuality_cons item items
  have hlength : (0 : ℚ) ≤ items.length := Nat.cast_nonneg _
  have haverage : averageQuality items ≤ averageQuality (item :: items) := by
    by_contra hless
    nlinarith
  have hcount := countTerm_le_cons item items
  unfold supportTerm
  linarith

/-- A second item is worth more than the quality it can cost. -/
theorem supportTerm_few {items : List RcaEvidence} (hitem : IsQuality item.quality)
    (h : ∀ e ∈ items, IsQuality e.quality) (hfew : items.length ≤ 1) :
    supportTerm items ≤ supportTerm (item :: items) := by
  match items, hfew with
  | [], _ => exact supportTerm_good hitem.1
  | [first], _ =>
    -- 0.075 for the count, against at most 0.05 for the mean
    have hmove := averageQuality_cons item [first]
    have hfirst := averageQuality_admissible h
    unfold supportTerm
    simp only [List.length_cons, List.length_nil] at hmove ⊢
    norm_num at hmove ⊢
    linarith [hitem.1, hfirst.2]

/-- Any item lowers it by a twenty-fifth at most. -/
theorem supportTerm_loss {items : List RcaEvidence} (hitem : IsQuality item.quality)
    (h : ∀ e ∈ items, IsQuality e.quality) :
    supportTerm items - 1 / 25 ≤ supportTerm (item :: items) := by
  by_cases hfew : items.length ≤ 1
  · linarith [supportTerm_few hitem h hfew]
  -- among three or more the item weighs a third at most
  have hlength : (2 : ℚ) ≤ items.length := by exact_mod_cast Nat.lt_of_not_le hfew
  have hmove := averageQuality_cons item items
  have hmean := averageQuality_admissible h
  have haverage : averageQuality items - averageQuality (item :: items) ≤ 1 / 3 := by
    by_contra hless
    nlinarith [hitem.1, hmean.2]
  have hcount := countTerm_le_cons item items
  unfold supportTerm
  linarith

/-! ### Confidence -/

section Confidence

variable {loss : ℚ} {score score' : Int} {support' : List RcaEvidence}

/-- The confidence before clamping moves with the score and the term. -/
theorem rawConfidence_le (hscore : score ≤ score')
    (hterm : supportTerm support - loss ≤ supportTerm support') (host : Host)
    (counter : List RcaEvidence) :
    rawConfidence host score support counter - loss ≤ rawConfidence host score' support' counter := by
  have hcast : (score : ℚ) ≤ score' := by exact_mod_cast hscore
  unfold supportTerm at hterm
  unfold rawConfidence
  linarith

/-- Clamping keeps the order. -/
theorem causeConfidence_le (hscore : score ≤ score') (hterm : supportTerm support ≤ supportTerm support')
    (host : Host) (counter : List RcaEvidence) :
    causeConfidence host score support counter ≤ causeConfidence host score' support' counter := by
  have hterm' : supportTerm support - 0 ≤ supportTerm support' := by
    rw [sub_zero]
    exact hterm
  have hraw := rawConfidence_le hscore hterm' host counter
  rw [sub_zero] at hraw
  exact Number.round_mono (clamp_mono hraw _ _) 2

/-- Clamping does not widen a loss. -/
theorem clamp_sub_le {q minimum maximum : ℚ} (h : 0 ≤ loss) :
    clamp q minimum maximum - loss ≤ clamp (q - loss) minimum maximum := by
  unfold clamp
  rw [sub_le_iff_le_add]
  refine max_le ?_ ?_
  · exact (le_max_left _ _).trans (le_add_of_nonneg_right h)
  · refine le_trans ?_ (add_le_add_left (le_max_right _ _) loss)
    rw [← min_add_add_right, sub_add_cancel]
    exact min_le_min_right q (le_add_of_nonneg_right h)

/-- Four hundredths are an even number of them. -/
theorem round_sub (q : ℚ) : Number.round (q - 1 / 25) 2 = Number.round q 2 - 1 / 25 := by
  have hshift : (q - 1 / 25) * 10 ^ 2 = q * 10 ^ 2 + (2 * (-2) : Int) := by
    push_cast
    ring
  rw [Number.round, hshift, Number.halfEven_add_even, Number.round]
  push_cast
  ring

theorem causeConfidence_loss (hscore : score ≤ score')
    (hterm : supportTerm support - 1 / 25 ≤ supportTerm support') (host : Host)
    (counter : List RcaEvidence) :
    causeConfidence host score support counter - 1 / 25 ≤
      causeConfidence host score' support' counter := by
  have hraw := rawConfidence_le hscore hterm host counter
  unfold causeConfidence
  rw [← round_sub]
  refine Number.round_mono ?_ 2
  exact (clamp_sub_le (by norm_num)).trans (clamp_mono hraw _ _)

end Confidence

/-- An entry's confidence is computed from its own score. -/
theorem rankedEntry_confidence (host : Host) (evidence : List RcaEvidence) (c : RcaCandidate) :
    (rankedEntry host evidence c).confidence = causeConfidence host
      (rankedEntry host evidence c).score (supporting evidence c.id) (contradicting evidence c.id) :=
  rfl

/-- The loop's entry of a candidate gains from an item that supports it. -/
theorem rankedEntry_helps (hsupports : c.id ∈ item.supports)
    (hcontradicts : c.id ∉ item.contradicts) (host : Host) (before after : List RcaEvidence) :
    Helps c item (before ++ after) (before ++ item :: after)
      (rankedEntry host (before ++ after) c) (rankedEntry host (before ++ item :: after) c) := by
  have hperm := supporting_insert hsupports before after
  have hcounter := contradicting_insert_not hcontradicts before after
  -- The score is a clamped sum, and the item adds a term that is not negative.
  have hscore : (rankedEntry host (before ++ after) c).score ≤
      (rankedEntry host (before ++ item :: after) c).score := by
    have hle := causeScore_le_cons host c.prior item (supporting (before ++ after) c.id)
      (contradicting (before ++ after) c.id)
    unfold rankedEntry
    dsimp only
    rw [hcounter, causeScore_perm hperm]
    exact hle
  have hadmissible : (∀ e ∈ before ++ item :: after, IsQuality e.quality) →
      IsQuality item.quality ∧ ∀ e ∈ supporting (before ++ after) c.id, IsQuality e.quality := by
    intro hall
    refine ⟨hall item (List.mem_append_right _ List.mem_cons_self), fun e he => hall e ?_⟩
    have hmem := (List.mem_filter.mp he).1
    rw [List.mem_append] at hmem ⊢
    exact hmem.imp_right (List.mem_cons_of_mem _)
  -- The confidence grows with the score and with the mean quality of the support.
  have hconfidence : supportTerm (supporting (before ++ after) c.id) ≤
      supportTerm (item :: supporting (before ++ after) c.id) →
      (rankedEntry host (before ++ after) c).confidence ≤
        (rankedEntry host (before ++ item :: after) c).confidence := by
    intro hterm
    rw [← supportTerm_perm hperm] at hterm
    rw [rankedEntry_confidence, rankedEntry_confidence, hcounter]
    exact causeConfidence_le hscore hterm host _
  refine ⟨hscore, fun hgood => ?_, fun hall hfew => ?_, fun hall => ?_⟩
  · exact hconfidence (supportTerm_good hgood)
  · obtain ⟨hitem, hitems⟩ := hadmissible hall
    exact hconfidence (supportTerm_few hitem hitems hfew)
  · obtain ⟨hitem, hitems⟩ := hadmissible hall
    have hterm := supportTerm_loss hitem hitems
    rw [← supportTerm_perm hperm] at hterm
    rw [rankedEntry_confidence, rankedEntry_confidence, hcounter]
    exact causeConfidence_loss hscore hterm host _

/-- Supporting evidence never lowers the score, wherever it is put among the evidence: not of the
loop's entry, and not of what is returned of the candidate. -/
theorem supportingEvidence_helps (hsupports : c.id ∈ item.supports)
    (hcontradicts : c.id ∉ item.contradicts) (host : Host) (before after : List RcaEvidence) :
    Helps c item (before ++ after) (before ++ item :: after)
        (rankedEntry host (before ++ after) c) (rankedEntry host (before ++ item :: after) c) ∧
      ∀ candidates limit, (candidates.map RcaCandidate.id).Nodup → c ∈ candidates →
        ∀ h ∈ rankHypotheses host (before ++ after) candidates limit,
          ∀ h' ∈ rankHypotheses host (before ++ item :: after) candidates limit,
            h.id = c.id → h'.id = c.id → Helps c item (before ++ after) (before ++ item :: after) h h' := by
  have hhelps := rankedEntry_helps hsupports hcontradicts host before after
  refine ⟨hhelps, fun candidates limit hunique hc h hmem h' hmem' hid hid' => ?_⟩
  obtain ⟨rank, rfl⟩ := entry_of_rankHypotheses hunique hc hmem hid
  obtain ⟨rank', rfl⟩ := entry_of_rankHypotheses hunique hc hmem' hid'
  exact ⟨hhelps.score, hhelps.good, hhelps.few, hhelps.loss⟩

/-- Traces of the best and of no quality that support one cause. -/
def strongTrace : RcaEvidence where
  id := "e1"
  type := some "trace"
  quality := 1
  supports := ["h1"]

def secondTrace : RcaEvidence := { strongTrace with id := "e2" }

def weakTrace : RcaEvidence := { strongTrace with id := "e3", quality := 0 }

/-- A weak trace beside two strong ones. -/
theorem weakTrace_helps : Helps badDeploy weakTrace [strongTrace, secondTrace]
    [strongTrace, secondTrace, weakTrace] (rankedEntry asciiHost [strongTrace, secondTrace] badDeploy)
    (rankedEntry asciiHost [strongTrace, secondTrace, weakTrace] badDeploy) :=
  (supportingEvidence_helps (by decide) (by decide) asciiHost [strongTrace, secondTrace] []).1

/-- The weak trace adds to the score and takes from the confidence. -/
theorem weakTrace_dilutes :
    (badDeploy.id ∈ weakTrace.supports ∧ weakTrace.contradicts = [] ∧
      ∀ e ∈ [strongTrace, secondTrace, weakTrace], IsQuality e.quality) ∧
    (rankHypotheses asciiHost [strongTrace, secondTrace] [badDeploy]).map
        (fun h => (h.score, h.confidence)) = [(50, 17 / 25)] ∧
    (rankHypotheses asciiHost [strongTrace, secondTrace, weakTrace] [badDeploy]).map
        (fun h => (h.score, h.confidence)) = [(52, 13 / 20)] ∧
    (13 / 20 : ℚ) < 17 / 25 := by
  refine ⟨⟨by decide, rfl, ?_⟩, by decide +kernel, by decide +kernel, by norm_num⟩
  intro e he
  simp only [List.mem_cons, List.not_mem_nil, or_false] at he
  obtain rfl | rfl | rfl := he
  · exact ⟨zero_le_one, le_rfl⟩
  · exact ⟨zero_le_one, le_rfl⟩
  · exact ⟨le_rfl, zero_le_one⟩

end DeployGuard.Service
