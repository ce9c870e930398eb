import DeployGuard.Verify.Collected

/-!
# The severities of a SARIF log

What `parse_sarif` counts, said over the log as a whole: its findings are the results
that are objects and not suppressed, each with the rules of its run, and the bucket of
a finding is a relation (`Bucket`). Rules are looked up by id only, and of the levels
only the result's own is read.

> `sarif_counts`: the item counts each finding once, in its bucket.
-/

namespace DeployGuard.Verify

open Raise

/-- A result, with the rules of its run's driver. -/
structure Finding where
  rules : List Value
  result : Value

/-- An object that is not suppressed. -/
def isFinding (result : Value) : Bool :=
  isDict result && !((getItem result "suppressions").getD .none).truthy

def driverOf (run : Value) : Value := (getItem ((getItem run "tool").getD .none) "driver").getD .none

def driverRules (run : Value) : List Value :=
  match iterate ((getItem (driverOf run) "rules").getD (.list [])) with
  | .ok rules => rules
  | .error _ => []

def resultsOf (run : Value) : List Value :=
  match getItem run "results" with
  | some (.list results) => results
  | _ => []

def runFindings (run : Value) : List Finding :=
  ((resultsOf run).filter isFinding).map fun result => { rules := driverRules run, result }

/-- The findings of a log, over its runs. -/
def findings (payload : Value) : List Finding :=
  match getItem payload "runs" with
  | some (.list runs) => runs.flatMap runFindings
  | _ => []

namespace Finding

/-- The rule with the result's id: of two, the later one. -/
def rule (host : Host) (finding : Finding) : Value :=
  ruleById host finding.rules (strOf host ((getItem finding.result "ruleId").getD (.str "")))

/-- The `security-severity` that counts: the result's own, else its rule's. -/
def score (host : Host) (finding : Finding) : Option Value :=
  match getItem (propertiesOf finding.result) "security-severity" with
  | some value => some value
  | none => getItem (propertiesOf (finding.rule host)) "security-severity"

/-- The result's own level, a warning if it has none. -/
def level (host : Host) (finding : Finding) : String :=
  Text.lower (strOf host ((getItem finding.result "level").getD (.str "warning")))

end Finding

/-- The bucket of a finding: of its score if that is a finite number, else of its level. -/
inductive Bucket (host : Host) (finding : Finding) : Severity → Prop
  | score (value : Value) (q : ℚ) : finding.score host = some value → toFloat value = .ok (.finite q) →
      Bucket host finding (scoreSeverity q)
  | level : (∀ value q, finding.score host = some value → toFloat value ≠ .ok (.finite q)) →
      Bucket host finding (levelSeverity (finding.level host))

/-- A finding has one bucket. -/
theorem Bucket.unique {host : Host} {finding : Finding} {a b : Severity} (ha : Bucket host finding a)
    (hb : Bucket host finding b) : a = b := by
  cases ha with
  | score value q hvalue hq =>
    cases hb with
    | score value' q' hvalue' hq' =>
      rw [hvalue, Option.some.injEq] at hvalue'
      subst hvalue'
      rw [hq, Except.ok.injEq, FloatVal.finite.injEq] at hq'
      rw [hq']
    | level hnone => exact absurd hq (hnone value q hvalue)
  | level hnone =>
    cases hb with
    | score value q hvalue hq => exact absurd hq (hnone value q hvalue)
    | level _ => rfl

variable {host : Host}

/-! ## The loops -/

theorem scoreOf_finite {raw : Value} {score : Option FloatVal} (h : scoreOf raw = .ok score) (q : ℚ) :
    score = some (.finite q) ↔ toFloat raw = .ok (.finite q) := by
  unfold scoreOf at h
  split at h
  · next hx =>
    cases h
    rw [hx, Option.some.injEq, Except.ok.injEq]
  · cases h
  · next e _ he =>
    cases h
    rw [he]
    exact ⟨nofun, nofun⟩

theorem getD_score (host : Host) (finding : Finding) :
    (getItem (propertiesOf finding.result) "security-severity").getD
      ((getItem (propertiesOf (finding.rule host)) "security-severity").getD .none) =
      (finding.score host).getD .none := by
  unfold Finding.score
  cases getItem (propertiesOf finding.result) "security-severity" <;> rfl

/-- `_sarif_severity` gives the bucket. -/
theorem sarifSeverity_bucket (finding : Finding) {severity : Severity}
    (h : sarifSeverity host finding.rules finding.result = .ok severity) :
    Bucket host finding severity := by
  have hscore := getD_score host finding
  simp only [sarifSeverity, bind_eq_ok] at h
  obtain ⟨score, hread, h⟩ := h
  rw [show ruleById host finding.rules
    (strOf host ((getItem finding.result "ruleId").getD (.str ""))) = finding.rule host from rfl,
    hscore] at hread
  have hfinite := scoreOf_finite hread
  cases hvalue : finding.score host with
  | none =>
    -- `float(None)` is no number
    have hnone : ∀ q, score ≠ some (.finite q) := by
      intro q hq
      have hnumber := (hfinite q).mp hq
      rw [hvalue] at hnumber
      cases hnumber
    split at h
    · next q => exact absurd rfl (hnone q)
    · cases h
      exact .level fun value q hsome => by rw [hvalue] at hsome; cases hsome
  | some value =>
    simp only [hvalue, Option.getD_some] at hfinite
    split at h
    · next q =>
      cases h
      exact .score value q hvalue ((hfinite q).mp rfl)
    · next hother =>
      cases h
      refine .level fun value' q hsome hnumber => ?_
      rw [hvalue, Option.some.injEq] at hsome
      subst hsome
      exact hother q ((hfinite q).mpr hnumber)

theorem resultSeverities_buckets {rules results : List Value} {severities : List Severity}
    (h : resultSeverities host rules results = .ok severities) :
    List.Forall₂ (Bucket host) ((results.filter isFinding).map fun result => ⟨rules, result⟩)
      severities := by
  induction results generalizing severities with
  | nil =>
    cases h
    exact .nil
  | cons result results ih =>
    rw [resultSeverities] at h
    have hcounted : isFinding result = true ↔
        isDict result = true ∧ ((getItem result "suppressions").getD .none).truthy = false := by
      simp [isFinding]
    by_cases hresult : isFinding result = true
    · rw [if_pos (hcounted.mp hresult)] at h
      simp only [bind_eq_ok, pure_eq_ok] at h
      obtain ⟨severity, hseverity, rest, hrest, rfl⟩ := h
      rw [List.filter_cons_of_pos hresult, List.map_cons]
      refine .cons ?_ (ih hrest)
      exact sarifSeverity_bucket ⟨rules, result⟩ hseverity
    · rw [if_neg (mt hcounted.mpr hresult)] at h
      rw [List.filter_cons_of_neg hresult]
      exact ih h

theorem runParts_ok {path : Artifact} {run driver : Value} {results : List Value}
    (h : runParts path run = .ok (driver, results)) :
    driver = driverOf run ∧ results = resultsOf run := by
  simp only [runParts, bind_eq_ok] at h
  obtain ⟨_, -, _, -, h⟩ := h
  unfold resultsOf
  cases hresults : getItem run "results" with
  | none =>
    rw [hresults] at h
    cases h
    exact ⟨rfl, rfl⟩
  | some value =>
    rw [hresults, Option.getD_some] at h
    cases value with
    | list xs =>
      cases h
      exact ⟨rfl, rfl⟩
    | none | bool | int | float | str | dict | object => cases h

theorem runSeverities_buckets {path : Artifact} {runs : List Value} {severities : List Severity}
    (h : runSeverities host path runs = .ok severities) :
    List.Forall₂ (Bucket host) (runs.flatMap runFindings) severities := by
  induction runs generalizing severities with
  | nil =>
    cases h
    exact .nil
  | cons run runs ih =>
    simp only [runSeverities, bind_eq_ok, pure_eq_ok] at h
    obtain ⟨⟨driver, results⟩, hparts, rules, hrules, found, hfound, rest, hrest, rfl⟩ := h
    obtain ⟨rfl, rfl⟩ := runParts_ok hparts
    have hdriver : driverRules run = rules := by
      rw [driverRules, hrules]
    rw [List.flatMap_cons]
    refine List.rel_append ?_ (ih hrest)
    rw [runFindings, hdriver]
    exact resultSeverities_buckets hfound

/-- The buckets share out what is counted. -/
theorem sum_count (severities : List Severity) :
    (Severity.all.map severities.count).sum = severities.length := by
  induction severities with
  | nil => rfl
  | cons severity severities ih =>
    rw [List.length_cons, ← ih]
    simp only [Severity.all, List.map_cons, List.map_nil, List.sum_cons, List.sum_nil, List.count_cons]
    cases severity <;> simp <;> omega

/-! ## The item -/

/-- **SARIF severities.** The item of a log has a bucket for each finding, in order:
each count is of the findings of its bucket, the counts add up to the findings, and so
does the total. -/
theorem sarif_counts {path : Artifact} {sourceSha : Option String} {expectedSha : String}
    {item : EvidenceItem} (h : parseSarif host path sourceSha expectedSha = .ok item) :
    ∃ payload buckets, host.loads path.raw = .ok payload ∧
      List.Forall₂ (Bucket host) (findings payload) buckets ∧
      (∀ severity, item.findings severity = .ok (buckets.count severity)) ∧
      (Severity.all.map buckets.count).sum = (findings payload).length ∧
      Value.lookup item.metrics "total" = some (.int (findings payload).length) := by
  simp only [parseSarif, bind_eq_ok, pure_eq_ok] at h
  obtain ⟨raw, hraw, payload, hpayload, severities, hseverities, rfl⟩ := h
  obtain rfl := artifactBytes_eq_ok hraw
  simp only [sarifSeverities, bind_eq_ok] at hseverities
  obtain ⟨_, -, hseverities⟩ := hseverities
  have hbuckets : List.Forall₂ (Bucket host) (findings payload) severities := by
    split at hseverities
    · next runs hruns =>
      have hfindings : findings payload = runs.flatMap runFindings := by
        simp only [findings, hruns]
      rw [hfindings]
      exact runSeverities_buckets hseverities
    · cases hseverities
  refine ⟨payload, severities, hpayload, hbuckets, findings_counts severities _ rfl, ?_, ?_⟩
  · rw [sum_count, hbuckets.length_eq]
  · rw [hbuckets.length_eq]
    rfl

theorem sarif_counts_finding :
    ∃ buckets, List.Forall₂ (Bucket sarifHost) (findings (sarifLog [.dict [("level", .str "error")]])) buckets ∧
      findingReport.findings .high = .ok (buckets.count .high) := by
  obtain ⟨payload, buckets, hpayload, hbuckets, hcounts, -⟩ := sarif_counts parseSarif_finding
  have hlog : payload = sarifLog [.dict [("level", .str "error")]] :=
    (Except.ok.inj hpayload).symm
  subst hlog
  exact ⟨buckets, hbuckets, hcounts .high⟩

/-- A score is read to the nearest double, which of this one is nine. -/
example : scoreOf (.str "8.9999999999999999") = .ok (some (.finite 9)) := by decide +kernel

/-! ### The default level of a rule -/

/-- The level of a finding as SARIF has it: the result's own, else its rule's default,
else a warning. -/
def Finding.effectiveLevel (host : Host) (finding : Finding) : Value :=
  match getItem finding.result "level" with
  | some level => level
  | none =>
    ((getItem (finding.rule host) "defaultConfiguration").bind fun configuration =>
      getItem configuration "level").getD (.str "warning")

/-- A result that leaves its level to its rule, whose default is an error. -/
def defaultLog : Value :=
  .dict [("version", .str "2.1.0"), ("runs", .list [.dict
    [("tool", .dict [("driver", .dict [("rules", .list [.dict [("id", .str "R1"),
      ("defaultConfiguration", .dict [("level", .str "error")])]])])]),
     ("results", .list [.dict [("ruleId", .str "R1")]])]])]

def defaultHost : Host := { blankHost with loads := fun _ => .ok defaultLog }

/-- The finding is an error, and is counted as a medium one. -/
theorem default_level_ignored :
    ∃ item finding, parseSarif defaultHost (sarifArtifact "scan.sarif" "") (some "h") "h" = .ok item ∧
      findings defaultLog = [finding] ∧ finding.score defaultHost = none ∧
      finding.effectiveLevel defaultHost = .str "error" ∧
      item.findings .high = .ok 0 ∧ item.findings .medium = .ok 1 :=
  ⟨_, _, rfl, rfl, by decide, by decide, by decide, by decide⟩

end DeployGuard.Verify
