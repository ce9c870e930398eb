import DeployGuard.Verify.Coverage
import Mathlib.Data.List.TakeWhile

/-!
# The verdict of a JUnit report

`parse_junit` accepts a root by the local part of its tag and then looks for test
cases, and for the failures of each, by whole tags. A report that puts its elements
in a namespace is accepted and read as one without test cases.

> `parseJunit_exact_iff`: an accepted report gets the verdict its local names give
> iff every test case, and of each outcome it has one child, is named without a
> namespace.
-/

namespace DeployGuard.Verify

open Raise

namespace Element

mutual
/-- An element and what it contains, in document order. -/
def nested : Element → List Element
  | mk tag attrib children => mk tag attrib children :: nestedList children

def nestedList : List Element → List Element
  | [] => []
  | e :: es => nested e ++ nestedList es
end

/-- The elements of a document with this local name, in any namespace. -/
def named (root : Element) (name : String) : List Element :=
  root.nested.filter fun e => e.localName = name

/-- Some child has this local name. -/
def hasNamed (e : Element) (name : String) : Bool :=
  e.children.any fun child => child.localName = name

mutual
theorem iter_eq (name : String) : ∀ e : Element,
    e.iter name = e.nested.filter fun d => d.tag = name
  | mk tag attrib children => by
    rw [iter, nested, List.filter_cons, iterList_eq name children]
    by_cases htag : tag = name
    · rw [if_pos htag]
      exact (if_pos (decide_eq_true htag)).symm
    · rw [if_neg htag]
      exact (if_neg fun h => htag (of_decide_eq_true h)).symm

theorem iterList_eq (name : String) : ∀ es : List Element,
    iterList name es = (nestedList es).filter fun d => d.tag = name
  | [] => rfl
  | e :: es => by
    rw [iterList, nestedList, List.filter_append, iter_eq name e, iterList_eq name es]
end

/-- A tag without a namespace is its own local name. -/
theorem localName_of_tag {e : Element} {name : String} (h : e.tag = name)
    (hname : '}' ∉ name.toList) : e.localName = name := by
  have hall : ∀ c ∈ name.toList.reverse, decide (c ≠ '}') = true := by
    intro c hc
    have hne : c ≠ '}' := fun heq => hname (heq ▸ List.mem_reverse.mp hc)
    exact decide_eq_true hne
  rw [localName, h, List.takeWhile_eq_self_iff.mpr hall, List.reverse_reverse, String.ofList_toList]

theorem hasNamed_of_has {e : Element} {name : String} (hname : '}' ∉ name.toList)
    (h : e.has name = true) : e.hasNamed name = true := by
  obtain ⟨child, hchild, htag⟩ := List.any_eq_true.mp h
  have hlocal := localName_of_tag (of_decide_eq_true htag) hname
  exact List.any_eq_true.mpr ⟨child, hchild, decide_eq_true hlocal⟩

end Element

/-- The outcomes a test case reports by a child of that name. -/
def outcomes : List String := ["failure", "error", "skipped"]

/-- The counts of a report by local names. -/
def namedCounts (root : Element) : JunitCounts :=
  let cases := root.named "testcase"
  { tests := cases.length
    failures := cases.countP fun case => case.hasNamed "failure"
    errors := cases.countP fun case => case.hasNamed "error"
    skipped := cases.countP fun case => case.hasNamed "skipped" }

/-- Some test case failed or errored. -/
def HasFailure (root : Element) : Prop :=
  ∃ case ∈ root.named "testcase", case.hasNamed "failure" ∨ case.hasNamed "error"

/-- The item says of the report what its local names say. -/
structure ExactVerdict (root : Element) (item : EvidenceItem) : Prop where
  fail : item.state = .fail ↔ HasFailure root
  unknown : item.state = .unknown ↔ root.named "testcase" = []
  pass : item.state = .pass ↔ root.named "testcase" ≠ [] ∧ ¬HasFailure root
  metrics : item.metrics =
    [("tests", .int (namedCounts root).tests), ("failures", .int (namedCounts root).failures),
      ("errors", .int (namedCounts root).errors), ("skipped", .int (namedCounts root).skipped)]

/-- No test case is in a namespace, and where one has an outcome some child says so
without a namespace. -/
def PlainNames (root : Element) : Prop :=
  ∀ case ∈ root.named "testcase",
    case.tag = "testcase" ∧ ∀ outcome ∈ outcomes, case.hasNamed outcome → case.has outcome

instance (root : Element) : Decidable (PlainNames root) :=
  inferInstanceAs (Decidable (∀ case ∈ root.named "testcase",
    case.tag = "testcase" ∧ ∀ outcome ∈ outcomes, case.hasNamed outcome → case.has outcome))

/-- Of two tests, one at least as strict as the other, both count the same iff they
agree. -/
theorem countP_eq_countP_iff {α : Type} {p q : α → Bool} {xs : List α}
    (h : ∀ x ∈ xs, p x → q x) : xs.countP p = xs.countP q ↔ ∀ x ∈ xs, q x → p x := by
  constructor
  · intro heq
    -- what the stricter test keeps is a part of the same length
    have hsub : xs.filter p = (xs.filter q).filter p := by
      rw [List.filter_filter]
      refine List.filter_congr fun x hx => ?_
      cases hp : p x with
      | false => rfl
      | true => rw [h x hx hp]; rfl
    have hlen : ((xs.filter q).filter p).length = (xs.filter q).length := by
      rw [← hsub, ← List.countP_eq_length_filter, ← List.countP_eq_length_filter, heq]
    intro x hx hqx
    exact List.length_filter_eq_length_iff.mp hlen x (List.mem_filter.mpr ⟨hx, hqx⟩)
  · intro hback
    exact List.countP_congr fun x hx => ⟨h x hx, hback x hx⟩

/-! ## The counts -/

section Counts

variable {root : Element}

/-- A test case by its whole tag is one by its local name. -/
theorem named_of_tag (e : Element) (h : decide (e.tag = "testcase") = true) :
    decide (e.localName = "testcase") = true :=
  decide_eq_true (Element.localName_of_tag (of_decide_eq_true h) (by decide))

theorem tests_eq_iff : (root.iter "testcase").length = (root.named "testcase").length ↔
    ∀ case ∈ root.named "testcase", case.tag = "testcase" := by
  rw [Element.iter_eq, Element.named, ← List.countP_eq_length_filter,
    ← List.countP_eq_length_filter, countP_eq_countP_iff fun e _ => named_of_tag e]
  constructor
  · intro h case hcase
    obtain ⟨hmem, hname⟩ := List.mem_filter.mp hcase
    exact of_decide_eq_true (h case hmem hname)
  · intro h e he hname
    exact decide_eq_true (h e (List.mem_filter.mpr ⟨he, hname⟩))

/-- Where no test case is in a namespace, the search finds them all. -/
theorem iter_eq_named (h : ∀ case ∈ root.named "testcase", case.tag = "testcase") :
    root.iter "testcase" = root.named "testcase" := by
  rw [Element.iter_eq, Element.named]
  refine List.filter_congr fun e he => ?_
  rw [Bool.eq_iff_iff]
  refine ⟨named_of_tag e, fun hname => ?_⟩
  exact decide_eq_true (h e (List.mem_filter.mpr ⟨he, hname⟩))

theorem hasNamed_of_outcome {outcome : String} (h : outcome ∈ outcomes) (case : Element)
    (hhas : case.has outcome = true) : case.hasNamed outcome = true := by
  have hplain : ∀ name ∈ outcomes, '}' ∉ name.toList := by decide
  exact Element.hasNamed_of_has (hplain outcome h) hhas

/-- The counts are exact iff the names are plain. -/
theorem junitCounts_eq_iff : junitCounts root = namedCounts root ↔ PlainNames root := by
  constructor
  · intro h
    have htag := tests_eq_iff.mp (congrArg JunitCounts.tests h)
    have hcounts := h
    simp only [junitCounts, namedCounts, iter_eq_named htag, JunitCounts.mk.injEq] at hcounts
    obtain ⟨-, hfailures, herrors, hskipped⟩ := hcounts
    intro case hcase
    refine ⟨htag case hcase, fun outcome houtcome => ?_⟩
    have hagree : (root.named "testcase").countP (fun case => case.has outcome) =
        (root.named "testcase").countP (fun case => case.hasNamed outcome) := by
      simp only [outcomes, List.mem_cons, List.not_mem_nil, or_false] at houtcome
      obtain rfl | rfl | rfl := houtcome
      · exact hfailures
      · exact herrors
      · exact hskipped
    exact (countP_eq_countP_iff fun case _ => hasNamed_of_outcome houtcome case).mp hagree case hcase
  · intro h
    have hagree : ∀ outcome ∈ outcomes, (root.named "testcase").countP (fun case => case.has outcome) =
        (root.named "testcase").countP (fun case => case.hasNamed outcome) :=
      fun outcome houtcome =>
        (countP_eq_countP_iff fun case _ => hasNamed_of_outcome houtcome case).mpr
          fun case hcase => (h case hcase).2 outcome houtcome
    simp only [junitCounts, namedCounts, iter_eq_named fun case hcase => (h case hcase).1,
      JunitCounts.mk.injEq, true_and]
    exact ⟨hagree "failure" (by decide), hagree "error" (by decide), hagree "skipped" (by decide)⟩

/-- The state, decided from exact counts. -/
theorem junitState_named (root : Element) (sha : String) :
    ((junitState (namedCounts root) (some sha) sha).1 = .fail ↔ HasFailure root) ∧
      ((junitState (namedCounts root) (some sha) sha).1 = .unknown ↔ root.named "testcase" = []) ∧
      ((junitState (namedCounts root) (some sha) sha).1 = .pass ↔
        root.named "testcase" ≠ [] ∧ ¬HasFailure root) := by
  have hfailure : (namedCounts root).failures ≠ 0 ∨ (namedCounts root).errors ≠ 0 ↔ HasFailure root := by
    simp only [namedCounts, HasFailure, ne_eq, List.countP_eq_zero, not_forall, not_not, exists_prop]
    constructor
    · intro h
      obtain ⟨case, hcase, hhas⟩ | ⟨case, hcase, hhas⟩ := h
      · exact ⟨case, hcase, .inl hhas⟩
      · exact ⟨case, hcase, .inr hhas⟩
    · intro h
      obtain ⟨case, hcase, hhas | hhas⟩ := h
      · exact .inl ⟨case, hcase, hhas⟩
      · exact .inr ⟨case, hcase, hhas⟩
  have hnone : (namedCounts root).tests = 0 ↔ root.named "testcase" = [] := List.length_eq_zero_iff
  -- A failing case is a case, so a suite without any is not failing.
  have hcases : HasFailure root → root.named "testcase" ≠ [] := by
    intro h hempty
    obtain ⟨case, hcase, -⟩ := h
    rw [hempty] at hcase
    exact absurd hcase List.not_mem_nil
  unfold junitState
  rw [if_neg (not_not.mpr rfl)]
  by_cases hempty : root.named "testcase" = []
  · have hfail : ¬HasFailure root := fun h => hcases h hempty
    rw [if_pos (hnone.mpr hempty)]
    simp [hempty, hfail]
  · rw [if_neg (mt hnone.mp hempty)]
    by_cases hfail : HasFailure root
    · rw [if_pos (hfailure.mpr hfail)]
      simp [hempty, hfail]
    · rw [if_neg (mt hfailure.mp hfail)]
      simp [hempty, hfail]

end Counts

/-! ## The item -/

section Item

variable {host : Host} {path : Artifact} {root : Element} {sha : String} {item : EvidenceItem}

/-- What an accepted report's item is built from. -/
theorem parseJunit_item (h : parseJunit host path (some sha) sha = .ok item)
    (hroot : host.fromstring path.raw = .ok root) :
    item.state = (junitState (junitCounts root) (some sha) sha).1 ∧
      item.metrics = [("tests", .int (junitCounts root).tests),
        ("failures", .int (junitCounts root).failures), ("errors", .int (junitCounts root).errors),
        ("skipped", .int (junitCounts root).skipped)] := by
  simp only [parseJunit, bind_eq_ok, pure_eq_ok] at h
  obtain ⟨raw, hraw, read, hread, _, -, rfl⟩ := h
  obtain rfl := artifactBytes_eq_ok hraw
  simp only [parseXml, bind_eq_ok, hroot, pure_eq_ok] at hread
  obtain ⟨_, -, rfl⟩ := hread
  exact ⟨rfl, rfl⟩

/-- An accepted report gets the verdict its local names give iff its names are
plain. -/
theorem parseJunit_exact_iff (h : parseJunit host path (some sha) sha = .ok item)
    (hroot : host.fromstring path.raw = .ok root) : ExactVerdict root item ↔ PlainNames root := by
  obtain ⟨hstate, hmetrics⟩ := parseJunit_item h hroot
  constructor
  · intro hexact
    have hcounts := hmetrics.symm.trans hexact.metrics
    simp only [List.cons.injEq, Prod.mk.injEq, true_and, Value.int.injEq, Int.natCast_inj,
      and_true] at hcounts
    obtain ⟨htests, hfailures, herrors, hskipped⟩ := hcounts
    apply junitCounts_eq_iff.mp
    cases hread : junitCounts root
    cases hnamed : namedCounts root
    simp_all
  · intro hplain
    have hcounts := junitCounts_eq_iff.mpr hplain
    rw [hcounts] at hstate hmetrics
    obtain ⟨hfail, hunknown, hpass⟩ := junitState_named root sha
    rw [← hstate] at hfail hunknown hpass
    exact ⟨hfail, hunknown, hpass, hmetrics⟩

end Item

/-- A suite of one failing test, under a namespace or under none. -/
def failingSuite (ns : String) : Element :=
  .mk (ns ++ "testsuite") [] [.mk (ns ++ "testcase") [] [.mk (ns ++ "failure") [] []]]

/-- A host on which every XML document is that suite. -/
def failingHost (ns : String) : Host :=
  { blankHost with fromstring := fun _ => .ok (failingSuite ns) }

def failingArtifact (text : String) : Artifact where
  path := "/repo/junit.xml"
  name := "junit.xml"
  source := "junit.xml"
  isSymlink := false
  raw := toBytes text

def plainReport : Artifact :=
  failingArtifact "<testsuite><testcase><failure/></testcase></testsuite>"

def namespacedReport : Artifact :=
  failingArtifact "<testsuite xmlns='urn:junit'><testcase><failure/></testcase></testsuite>"

/-- Without a namespace the report fails. -/
theorem plainReport_exact :
    ∃ item, parseJunit (failingHost "") plainReport (some "h") "h" = .ok item ∧
      item.state = .fail ∧ ExactVerdict (failingSuite "") item := by
  have hroot : (failingHost "").fromstring plainReport.raw = .ok (failingSuite "") := rfl
  have hplain : PlainNames (failingSuite "") := by decide
  have haccepted : ∃ item, parseJunit (failingHost "") plainReport (some "h") "h" = .ok item ∧
      item.state = .fail := ⟨_, rfl, rfl⟩
  obtain ⟨item, hitem, hfail⟩ := haccepted
  exact ⟨item, hitem, hfail, (parseJunit_exact_iff hitem hroot).mpr hplain⟩

/-- In a namespace it is accepted, and unknown. -/
theorem namespacedReport_unknown :
    ∃ item, parseJunit (failingHost "\x7burn:junit\x7d") namespacedReport (some "h") "h" = .ok item ∧
      item.state = .unknown ∧ HasFailure (failingSuite "\x7burn:junit\x7d") ∧
      ¬ExactVerdict (failingSuite "\x7burn:junit\x7d") item := by
  have hfailure : HasFailure (failingSuite "\x7burn:junit\x7d") :=
    ⟨_, List.mem_cons_self, .inl rfl⟩
  refine ⟨_, rfl, rfl, hfailure, fun h => ?_⟩
  exact EvidenceState.noConfusion (h.fail.mpr hfailure)

end DeployGuard.Verify
