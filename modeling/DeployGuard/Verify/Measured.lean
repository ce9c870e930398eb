import DeployGuard.Verify.Coverage
import Mathlib.Algebra.Order.BigOperators.Group.List

/-!
# Reports that measured nothing

A report holds observations of its kind: test cases, coverable lines, runs. An item
that passes should stand on one. `parse_junit` asks for it before it decides; the
parsers of coverage and of SARIF decide from totals, which begin at zero.

> `passesMeasured_iff`: what passes has measured something iff the artifact is no
> coverage report without lines and no SARIF log without runs.
-/

namespace DeployGuard.Verify

open Raise

/-- The lines of an LCOV file. -/
def lcovLines (host : Host) (path : Artifact) : List String :=
  Text.splitlines (host.decode path.raw)

def ObservesTests (host : Host) (path : Artifact) : Prop :=
  ∃ root, parseXml host path.raw path.name = .ok root ∧ root.iter "testcase" ≠ []

/-- A rate is stated, or a coverable line is listed or counted. -/
inductive ObservesLines (host : Host) (path : Artifact) : Prop
  | listed (line : String) : IsLcov path → line ∈ lcovLines host path → Text.startswith line "DA:" →
      ObservesLines host path
  | counted (text : String) (n : Int) : IsLcov path → text ∈ records "LF:" (lcovLines host path) →
      intOf text = .ok n → 0 < n → ObservesLines host path
  | cobertura (root : Element) : ¬IsLcov path → parseXml host path.raw path.name = .ok root →
      root.attrib.lookup "line-rate" ≠ none ∨ root.iter "line" ≠ [] → ObservesLines host path

def ObservesRuns (host : Host) (path : Artifact) : Prop :=
  ∃ payload runs, host.loads path.raw = .ok payload ∧
    getItem payload "runs" = some (.list runs) ∧ runs ≠ []

/-- No record of an LCOV file counts less than nothing. -/
def WellFormedLcov (host : Host) (path : Artifact) : Prop :=
  ∀ tag ∈ ["LF:", "LH:"], ∀ text ∈ records tag (lcovLines host path),
    ∀ n, intOf text = .ok n → 0 ≤ n

/-- Whatever the head, the item of each parser passes only on an observation. -/
structure PassesMeasured (host : Host) (path : Artifact) : Prop where
  tests : ∀ sha item, parseJunit host path (some sha) sha = .ok item → item.state = .pass →
    ObservesTests host path
  coverage : (IsLcov path → WellFormedLcov host path) → ∀ sha item,
    parseCoverage host path (some sha) sha = .ok item → item.state = .pass → ObservesLines host path
  security : ∀ sha item, parseSarif host path (some sha) sha = .ok item → item.state = .pass →
    ObservesRuns host path

/-- A coverage report in which nothing is coverable. -/
inductive EmptyCoverage (host : Host) (path : Artifact) : Prop
  | lcov : IsLcov path → (∀ line ∈ lcovLines host path, Text.startswith line "DA:" = false) →
      (∀ tag ∈ ["LF:", "LH:"], ∀ text ∈ records tag (lcovLines host path), intOf text = .ok 0) →
      EmptyCoverage host path
  | cobertura (root : Element) : ¬IsLcov path → parseXml host path.raw path.name = .ok root →
      root.localName = "coverage" → root.attrib.lookup "line-rate" = none → root.iter "line" = [] →
      EmptyCoverage host path

/-- A SARIF log without runs. -/
def EmptyLog (host : Host) (path : Artifact) : Prop :=
  ∃ payload, host.loads path.raw = .ok payload ∧
    getItem payload "version" = some (.str "2.1.0") ∧ getItem payload "runs" = some (.list [])

variable {host : Host} {path : Artifact}

/-! ## JUnit -/

theorem parseJunit_observes {sha : String} {item : EvidenceItem}
    (h : parseJunit host path (some sha) sha = .ok item) (hpass : item.state = .pass) :
    ObservesTests host path := by
  simp only [parseJunit, bind_eq_ok, pure_eq_ok] at h
  obtain ⟨raw, hraw, root, hroot, _, -, rfl⟩ := h
  obtain rfl := artifactBytes_eq_ok hraw
  refine ⟨root, hroot, fun hnone => ?_⟩
  simp [junitState, junitCounts, hnone] at hpass

/-! ## Coverage -/

/-- A coverage report that is read at all passes. -/
theorem parseCoverage_passes {rate : ℚ} {metrics : List (String × Value)}
    (hread : artifactBytes path = .ok path.raw)
    (hrate : coverageRate host path path.raw = .ok (rate, metrics)) (sha : String) :
    ∃ item, parseCoverage host path (some sha) sha = .ok item ∧ item.state = .pass := by
  unfold parseCoverage
  simp only [hread, bind_ok, hrate]
  exact ⟨_, rfl, by simp [coverageState]⟩

/-- Records that count nothing add up to nothing. -/
theorem mapM_zero {texts : List String} (h : ∀ text ∈ texts, intOf text = .ok 0) :
    ∃ counts, texts.mapM intOf = .ok counts ∧ counts.sum = 0 := by
  induction texts with
  | nil => exact ⟨[], rfl, rfl⟩
  | cons text texts ih =>
    obtain ⟨counts, hcounts, hsum⟩ := ih fun other hother => h other (List.mem_cons_of_mem _ hother)
    refine ⟨0 :: counts, mapM_cons_eq_ok.mpr ⟨0, counts, h text List.mem_cons_self, hcounts, rfl⟩, ?_⟩
    rw [List.sum_cons, hsum, add_zero]

theorem EmptyCoverage.rate (h : EmptyCoverage host path) :
    ∃ metrics, coverageRate host path path.raw = .ok (0, metrics) := by
  cases h with
  | lcov hlcov _ hzero =>
    obtain ⟨founds, hfounds, hfoundSum⟩ := mapM_zero (hzero "LF:" (by simp))
    obtain ⟨hits, hhits, hhitSum⟩ := mapM_zero (hzero "LH:" (by simp))
    have htotals : lcovTotals 0 0 (Text.splitlines (host.decode path.raw)) = .ok (0, 0) :=
      lcovTotals_eq_ok.mpr ⟨founds, hits, hfounds, hhits, by rw [hfoundSum, add_zero],
        by rw [hhitSum, add_zero]⟩
    rw [coverageRate_lcov hlcov, lcovRate, htotals]
    exact ⟨_, rfl⟩
  | cobertura root hlcov hroot hname hstated hnone =>
    rw [coverageRate_xml hlcov, hroot, bind_ok, coberturaRate, raiseIf_neg (not_not.mpr hname), bind_ok]
    simp only [hstated, hnone]
    exact ⟨_, rfl⟩

theorem intOf_zero {texts : List String} {counts : List Int} (h : texts.mapM intOf = .ok counts)
    (hzero : ∀ n ∈ counts, n = 0) : ∀ text ∈ texts, intOf text = .ok 0 := by
  intro text htext
  obtain ⟨n, hn, hcount⟩ := (mapM_mem h).1 text htext
  rw [hcount, hzero n hn]

/-- The records of an LCOV file without an observation count nothing. -/
theorem lcovRecords_zero {rate : ℚ} {metrics : List (String × Value)} (hlcov : IsLcov path)
    (hformed : WellFormedLcov host path) (hunobserved : ¬ObservesLines host path)
    (h : lcovRate path (host.decode path.raw) = .ok (rate, metrics)) :
    ∀ tag ∈ ["LF:", "LH:"], ∀ text ∈ records tag (lcovLines host path), intOf text = .ok 0 := by
  simp only [lcovRate, bind_eq_ok] at h
  obtain ⟨⟨found, hit⟩, htotals, _, -, _, hvalid, -⟩ := h
  rw [raiseIf_eq_ok] at hvalid
  obtain ⟨founds, hits, hfounds, hhits, hfound, hhit⟩ := lcovTotals_eq_ok.mp htotals
  rw [zero_add] at hfound hhit
  -- nothing is found, so nothing is hit
  have hfoundZero : ∀ n ∈ founds, n = 0 := by
    intro n hn
    obtain ⟨text, htext, hcount⟩ := (mapM_mem hfounds).2 n hn
    have hnonneg := hformed "LF:" (by simp) text htext n hcount
    have hpos : ¬0 < n := fun hpos => hunobserved (.counted text n hlcov htext hcount hpos)
    omega
  have hhitNonneg : ∀ n ∈ hits, 0 ≤ n := by
    intro n hn
    obtain ⟨text, htext, hcount⟩ := (mapM_mem hhits).2 n hn
    exact hformed "LH:" (by simp) text htext n hcount
  have hhitZero : ∀ n ∈ hits, n = 0 := by
    have hsum : founds.sum = 0 := List.sum_eq_zero hfoundZero
    exact fun n hn => List.all_zero_of_le_zero_le_of_sum_eq_zero hhitNonneg (by omega) hn
  intro tag htag
  rcases List.mem_cons.mp htag with rfl | htag
  · exact intOf_zero hfounds hfoundZero
  · obtain rfl := List.mem_singleton.mp htag
    exact intOf_zero hhits hhitZero

/-- A coverage report that is read without an observation is empty. -/
theorem coverageRate_observes {rate : ℚ} {metrics : List (String × Value)}
    (hformed : IsLcov path → WellFormedLcov host path)
    (h : coverageRate host path path.raw = .ok (rate, metrics)) :
    ObservesLines host path ∨ EmptyCoverage host path := by
  by_cases hlcov : IsLcov path
  · by_cases hobserved : ObservesLines host path
    · exact Or.inl hobserved
    · rw [coverageRate_lcov hlcov] at h
      refine Or.inr (.lcov hlcov (fun line hline => ?_)
        (lcovRecords_zero hlcov (hformed hlcov) hobserved h))
      rw [← Bool.not_eq_true]
      exact fun hlisted => hobserved (.listed line hlcov hline hlisted)
  · rw [coverageRate_xml hlcov, bind_eq_ok] at h
    obtain ⟨root, hroot, h⟩ := h
    simp only [coberturaRate, bind_eq_ok, raiseIf_eq_ok] at h
    obtain ⟨_, hname, -⟩ := h
    by_cases hobserved : root.attrib.lookup "line-rate" ≠ none ∨ root.iter "line" ≠ []
    · exact Or.inl (.cobertura root hlcov hroot hobserved)
    · rw [not_or, not_not, not_not] at hobserved
      exact Or.inr (.cobertura root hlcov hroot (not_not.mp hname) hobserved.1 hobserved.2)

theorem EmptyCoverage.wellFormed (h : EmptyCoverage host path) (hlcov : IsLcov path) :
    WellFormedLcov host path := by
  cases h with
  | lcov _ _ hzero =>
    intro tag htag text htext n hn
    rw [hzero tag htag text htext, Except.ok.injEq] at hn
    exact hn.le
  | cobertura _ hxml => exact absurd hlcov hxml

theorem EmptyCoverage.not_observes (h : EmptyCoverage host path) : ¬ObservesLines host path := by
  intro hobserved
  cases h with
  | lcov hlcov hnone hzero =>
    cases hobserved with
    | listed line _ hline hlisted =>
      rw [hnone line hline] at hlisted
      cases hlisted
    | counted text n _ htext hn hpos =>
      rw [hzero "LF:" (by simp) text htext, Except.ok.injEq] at hn
      exact hpos.ne hn
    | cobertura root hxml => exact hxml hlcov
  | cobertura root hxml hroot _ hstated hnone =>
    cases hobserved with
    | listed line hlcov => exact hxml hlcov
    | counted text n hlcov => exact hxml hlcov
    | cobertura root' _ hroot' hobserved =>
      rw [hroot, Except.ok.injEq] at hroot'
      subst hroot'
      exact hobserved.elim (fun hne => hne hstated) fun hne => hne hnone

/-! ## SARIF -/

theorem EmptyLog.not_observes (h : EmptyLog host path) : ¬ObservesRuns host path := by
  intro ⟨payload, runs, hpayload, hruns, hne⟩
  obtain ⟨payload', hpayload', -, hnone⟩ := h
  rw [hpayload, Except.ok.injEq] at hpayload'
  subst hpayload'
  rw [hruns, Option.some.injEq, Value.list.injEq] at hnone
  exact hne hnone

theorem EmptyLog.passes (hread : artifactBytes path = .ok path.raw) (h : EmptyLog host path)
    (sha : String) : ∃ item, parseSarif host path (some sha) sha = .ok item ∧ item.state = .pass := by
  obtain ⟨payload, hpayload, hversion, hruns⟩ := h
  have hseverities : sarifSeverities host path payload = .ok [] := by
    rw [sarifSeverities, raiseIf_neg (not_not.mpr hversion), bind_ok, hruns]
    rfl
  unfold parseSarif
  simp only [hread, bind_ok, hpayload, hseverities]
  exact ⟨_, rfl, by simp [sarifState]⟩

theorem parseSarif_observes {sha : String} {item : EvidenceItem}
    (h : parseSarif host path (some sha) sha = .ok item) :
    ObservesRuns host path ∨ EmptyLog host path := by
  simp only [parseSarif, bind_eq_ok, pure_eq_ok] at h
  obtain ⟨raw, hraw, payload, hpayload, severities, hseverities, -⟩ := h
  obtain rfl := artifactBytes_eq_ok hraw
  simp only [sarifSeverities, bind_eq_ok, raiseIf_eq_ok, not_not] at hseverities
  obtain ⟨_, hversion, hseverities⟩ := hseverities
  split at hseverities
  · next runs hruns =>
    by_cases hnone : runs = []
    · exact Or.inr ⟨payload, hpayload, hversion, hnone ▸ hruns⟩
    · exact Or.inl ⟨payload, runs, hpayload, hruns, hnone⟩
  · cases hseverities

/-! ## What passes -/

/-- **Nothing measured.** The items of an artifact pass only on observations iff it is
not an empty coverage report or an empty log that can be read. -/
theorem passesMeasured_iff (host : Host) (path : Artifact) :
    PassesMeasured host path ↔
      ¬(artifactBytes path = .ok path.raw ∧ (EmptyCoverage host path ∨ EmptyLog host path)) := by
  constructor
  · intro h h
    obtain ⟨hread, hempty | hempty⟩ := h
    · obtain ⟨metrics, hrate⟩ := hempty.rate
      obtain ⟨item, hitem, hpass⟩ := parseCoverage_passes hread hrate ""
      exact hempty.not_observes (h.coverage hempty.wellFormed "" item hitem hpass)
    · obtain ⟨item, hitem, hpass⟩ := hempty.passes hread ""
      exact hempty.not_observes (h.security "" item hitem hpass)
  · intro h
    refine ⟨fun sha item => parseJunit_observes, fun hformed sha item hitem _ => ?_,
      fun sha item hitem _ => ?_⟩
    · simp only [parseCoverage, bind_eq_ok] at hitem
      obtain ⟨raw, hraw, ⟨rate, metrics⟩, hrate, -⟩ := hitem
      obtain rfl := artifactBytes_eq_ok hraw
      exact (coverageRate_observes hformed hrate).resolve_right fun hempty => h ⟨hraw, Or.inl hempty⟩
    · have hread : artifactBytes path = .ok path.raw := by
        simp only [parseSarif, bind_eq_ok] at hitem
        obtain ⟨raw, hraw, -⟩ := hitem
        rw [hraw, artifactBytes_eq_ok hraw]
      exact (parseSarif_observes hitem).resolve_right fun hempty => h ⟨hread, Or.inr hempty⟩

/-- An LCOV file of one end-of-record line. -/
def emptyReport : Artifact where
  path := "/repo/lcov.info"
  name := "lcov.info"
  source := "lcov.info"
  isSymlink := false
  raw := toBytes "end_of_record\n"

/-- The item of the empty report passes. -/
theorem emptyReport_passes :
    ¬PassesMeasured asciiHost emptyReport ∧
      ∃ item, parseCoverage asciiHost emptyReport (some "h") "h" = .ok item ∧ item.state = .pass := by
  have hlcov : IsLcov emptyReport := Or.inl (by decide)
  have hread : artifactBytes emptyReport = .ok emptyReport.raw := by decide
  have hempty : EmptyCoverage asciiHost emptyReport := .lcov hlcov (by decide) (by decide)
  obtain ⟨metrics, hrate⟩ := hempty.rate
  refine ⟨fun h => ?_, parseCoverage_passes hread hrate "h"⟩
  obtain ⟨item, hitem, hpass⟩ := parseCoverage_passes hread hrate "h"
  have hrecords : records "LF:" (lcovLines asciiHost emptyReport) = [] := by decide
  have hlisted : ∀ line ∈ lcovLines asciiHost emptyReport, Text.startswith line "DA:" = false := by decide
  have hformed : WellFormedLcov asciiHost emptyReport := by
    intro tag htag
    have hnone : ∀ tag ∈ ["LF:", "LH:"], records tag (lcovLines asciiHost emptyReport) = [] := by decide
    rw [hnone tag htag]
    exact nofun
  cases h.coverage (fun _ => hformed) "h" item hitem hpass with
  | listed line _ hline hstarts => rw [hlisted line hline] at hstarts; cases hstarts
  | counted text n _ htext => rw [hrecords] at htext; cases htext
  | cobertura root hxml => exact hxml hlcov

end DeployGuard.Verify
