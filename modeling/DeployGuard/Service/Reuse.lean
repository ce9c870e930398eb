import DeployGuard.Lib.Transition
import DeployGuard.Service.Analysis

/-!
# Reuse of stored analyses

A call of `analyze_change` that finds a change under its derived id returns it.
Here is when that change is the one the call would have computed.

The digest behind the id covers the workspace, the repository, the request, the
effective services, the topology and the engine versions. It leaves out which
scenario was selected, and twelve of its digits are kept. So the invariant
(`RunInv`) is about the calls made: every derived change is what an earlier
call computed. From it:

> `analysis_reuse_fresh`: in every run in which no call meets an id that an
> earlier call derived for another scenario or another document, every call
> returns what a fresh computation gives;

> `analyzeChange_stale`: a call that does meet the id of another scenario
> returns that scenario's change.
-/

namespace DeployGuard.Service

open Raise Session Session.Call Transition

/-! ## What the document determines -/

namespace AnalyzeChangeRequest

/-- An optional value is distinguished from its absence. -/
theorem optionalValue_inj {α : Type} {f : α → Value} (hf : ∀ x y, f x = f y → x = y)
    (hnone : ∀ x, f x ≠ .none) {x y : Option α} (h : optionalValue f x = optionalValue f y) :
    x = y := by
  cases x with
  | none =>
    cases y with
    | none => rfl
    | some y => exact absurd h.symm (hnone y)
  | some x =>
    cases y with
    | none => exact absurd h (hnone x)
    | some y => exact congrArg some (hf x y h)

/-- Lists of texts are distinguished. -/
theorem texts_inj {xs ys : List String} (h : texts xs = texts ys) : xs = ys := by
  have hmap : xs.map Value.str = ys.map Value.str := by simpa [texts] using h
  exact List.map_injective_iff.mpr (fun a b hab => by simpa using hab) hmap

/-- Two requests with one dump are read alike by the risk engine. -/
theorem riskInput_of_modelDump {r r' : AnalyzeChangeRequest} (h : r.modelDump = r'.modelDump)
    (services : List String) : r.riskInput services = r'.riskInput services := by
  simp only [modelDump, Value.dict.injEq, List.cons.injEq, Prod.mk.injEq, true_and, and_true,
    Value.int.injEq] at h
  obtain ⟨-, -, -, -, -, -, hfiles, hadded, hdeleted, -, hflags, hcoverage, hrollback, hobserved,
    hfailures⟩ := h
  unfold riskInput
  rw [hfiles, hadded, hdeleted, texts_inj hflags,
    optionalValue_inj (by simp) (by simp) hcoverage,
    optionalValue_inj (by simp) (by simp) hrollback,
    optionalValue_inj (by simp) (by simp) hobserved,
    optionalValue_inj (by simp) (by simp) hfailures]

end AnalyzeChangeRequest

section Documents

variable {host : Host} {a b : Analysis}

/-- On one topology, the document decides what the engines compute. -/
theorem runEngines_congr (hgraph : b.graph = a.graph) (hdoc : b.document host = a.document host)
    (hid : b.changeId host = a.changeId host) : runEngines host b = runEngines host a := by
  simp only [Analysis.document, Value.dict.injEq, List.cons.injEq, Prod.mk.injEq, true_and,
    and_true] at hdoc
  obtain ⟨-, -, hrequest, hservices, -⟩ := hdoc
  have hrisk := AnalyzeChangeRequest.riskInput_of_modelDump hrequest b.effectiveChangedServices
  have hroots := AnalyzeChangeRequest.texts_inj hservices
  unfold runEngines
  rw [hgraph, hid, hrisk, hroots]

/-- What a prepared analysis is made of. -/
theorem prepareAnalysis_ok {s : Store} {request : AnalyzeChangeRequest} {scope : AnalysisScope}
    (h : prepareAnalysis host s request scope = .ok a) :
    a.request = request ∧ activeScenario s scope = .ok a.scenario ∧
      a.graph = analysisTopology host (workspaceCatalog s a.scenario.workspaceId)
        a.scenario.serviceGraph := by
  obtain ⟨scenario, hscenario, h⟩ := Raise.bind_eq_ok.mp h
  obtain ⟨roots, -, h⟩ := Raise.bind_eq_ok.mp h
  obtain rfl := Raise.pure_eq_ok.mp h
  exact ⟨rfl, hscenario, rfl⟩

/-- A derived id. -/
def IsDerived (id : String) : Prop := Text.startswith id "chg-analysis-"

/-- An id computed from a digest is marked as one. -/
theorem changeId_isDerived : IsDerived (a.changeId host) := by
  unfold IsDerived Text.startswith Analysis.changeId
  rw [List.isPrefixOf_iff_prefix]
  show _ <+: String.toList ("chg-analysis-" ++ Text.take 12 (a.digest host))
  rw [String.toList_append]
  exact List.prefix_append ..

end Documents

/-! ## Runs -/

/-- A call of `analyze_change`. -/
structure AnalyzeCall where
  request : AnalyzeChangeRequest
  scope : AnalysisScope
  now : Time

/-- The database and the analyses of the calls that returned, the last one first. -/
structure AnalysisRun where
  store : Store
  history : List Analysis

/-- One call. -/
def analyzeStep (host : Host) (r : AnalysisRun) (call : AnalyzeCall) : AnalysisRun :=
  match prepareAnalysis host r.store call.request call.scope,
      (analyzeChange host call.request call.scope call.now).run r.store with
  | .ok a, (.ok _, store) => { store, history := a :: r.history }
  | _, (_, store) => { r with store }

/-- Runs of `analyze_change` on a database without derived changes. -/
def analysisSystem (host : Host) : System AnalysisRun AnalyzeCall where
  init r := r.history = [] ∧ ∀ change ∈ r.store.changes.rows, ¬IsDerived change.id
  next r call := some (analyzeStep host r call)

/-- No earlier call derived the id of this one for another scenario or, the kept
digits colliding, for another document. -/
def Distinguished (host : Host) (r : AnalysisRun) (call : AnalyzeCall) : Prop :=
  ∀ a, prepareAnalysis host r.store call.request call.scope = .ok a →
    ∀ b ∈ r.history, b.changeId host = a.changeId host →
      b.scenario.id = a.scenario.id ∧ b.document host = a.document host

/-- Every derived change is what an earlier call computed, on scenarios and a
catalog that are still in place. -/
structure RunInv (host : Host) (r : AnalysisRun) : Prop where
  scenario : ∀ b ∈ r.history, b.scenario ∈ r.store.scenarios.rows
  graph : ∀ b ∈ r.history, b.graph = analysisTopology host
    (workspaceCatalog r.store b.scenario.workspaceId) b.scenario.serviceGraph
  computed : ∀ change ∈ r.store.changes.rows, IsDerived change.id →
    ∃ b ∈ r.history, ∃ result now, runEngines host b = .ok result ∧
      change = newChange host b result now

section Step

variable {host : Host} {r : AnalysisRun} {call : AnalyzeCall}

/-- A call whose preparation raises does nothing. -/
theorem analyzeChange_error {e : ServiceError}
    (h : prepareAnalysis host r.store call.request call.scope = .error e) :
    (analyzeChange host call.request call.scope call.now).run r.store = (.error e, r.store) := by
  have hstart : analyzeChange host call.request call.scope call.now (State.start r.store) =
      (.error e, State.start r.store) := query_error_bind h
  exact run_eq hstart

/-- The three ways a prepared call ends. -/
theorem analyzeChange_cases {a : Analysis}
    (h : prepareAnalysis host r.store call.request call.scope = .ok a) :
    (∃ existing, r.store.changes.get? (a.changeId host) = some existing ∧
      (analyzeChange host call.request call.scope call.now).run r.store =
        (.ok existing, r.store)) ∨
    (∃ e, (analyzeChange host call.request call.scope call.now).run r.store =
      (.error e, r.store)) ∨
    (∃ result changes, runEngines host a = .ok result ∧
      r.store.changes.insert (newChange host a result call.now) = some changes ∧
      (analyzeChange host call.request call.scope call.now).run r.store =
        (.ok (newChange host a result call.now), { r.store with changes := changes })) := by
  have hrest : analyzeChange host call.request call.scope call.now (State.start r.store) =
      reuseOrCompute host a call.now (State.start r.store) := query_ok_bind h
  cases hget : r.store.changes.get? (a.changeId host) with
  | some existing =>
    exact .inl ⟨existing, rfl, run_eq (hrest.trans (reuseOrCompute_stored hget))⟩
  | none =>
    cases hcompute : computeChange host a call.now with
    | error e =>
      exact .inr (.inl ⟨e, run_eq (hrest.trans (reuseOrCompute_error hget hcompute))⟩)
    | ok record =>
      obtain ⟨result, hresult, rfl⟩ := computeChange_ok hcompute
      obtain ⟨changes, hinsert, hnew⟩ := reuseOrCompute_new (s := State.start r.store) hget hcompute
      exact .inr (.inr ⟨result, changes, hresult, hinsert, run_eq (hrest.trans hnew)⟩)

/-- A call keeps every stored change under the id of its analysis. -/
theorem RunInv.analyzeStep (hi : RunInv host r) : RunInv host (analyzeStep host r call) := by
  unfold Service.analyzeStep
  cases hprep : prepareAnalysis host r.store call.request call.scope with
  | error e =>
    rw [analyzeChange_error hprep]
    exact hi
  | ok a =>
    obtain ⟨-, hscenario, hgraph⟩ := prepareAnalysis_ok hprep
    -- the history grows by the analysis whether or not its change was there
    have hscenarios : ∀ b ∈ a :: r.history, b.scenario ∈ r.store.scenarios.rows :=
      List.forall_mem_cons.mpr ⟨(activeScenario_ok hscenario).1, hi.scenario⟩
    have hgraphs : ∀ b ∈ a :: r.history, b.graph = analysisTopology host
        (workspaceCatalog r.store b.scenario.workspaceId) b.scenario.serviceGraph :=
      List.forall_mem_cons.mpr ⟨hgraph, hi.graph⟩
    rcases analyzeChange_cases hprep with ⟨existing, -, hrun⟩ | ⟨e, hrun⟩ |
      ⟨result, changes, hresult, hinsert, hrun⟩ <;> rw [hrun]
    · refine ⟨hscenarios, hgraphs, fun change hchange hderived => ?_⟩
      obtain ⟨b, hb, hcomputed⟩ := hi.computed change hchange hderived
      exact ⟨b, List.mem_cons_of_mem _ hb, hcomputed⟩
    · exact hi
    · refine ⟨hscenarios, hgraphs, fun change hchange hderived => ?_⟩
      obtain ⟨-, hrows⟩ := Table.insert_eq_some hinsert
      rw [show ({ r.store with changes := changes } : Store).changes.rows =
        r.store.changes.rows ++ [newChange host a result call.now] from hrows,
        List.mem_append, List.mem_singleton] at hchange
      rcases hchange with hchange | rfl
      · obtain ⟨b, hb, hcomputed⟩ := hi.computed change hchange hderived
        exact ⟨b, List.mem_cons_of_mem _ hb, hcomputed⟩
      · exact ⟨a, List.mem_cons_self .., result, call.now, hresult, rfl⟩

end Step

theorem analysisSystem_inv (host : Host) (C : AnalysisRun → AnalyzeCall → Prop) :
    Invariant (analysisSystem host) C (RunInv host) where
  init := by
    intro r h
    obtain ⟨hhistory, hfree⟩ := h
    refine ⟨?_, ?_, fun change hchange hderived => absurd hderived (hfree change hchange)⟩ <;>
      simp [hhistory]
  step := by
    intro r call r' hi _ hstep
    obtain rfl := Option.some.inj hstep
    exact hi.analyzeStep

/-! ## The results -/

/-- The change is what a fresh computation of the analysis gives. -/
structure Fresh (host : Host) (a : Analysis) (change : ChangeRecord) : Prop where
  workspace : change.workspaceId = a.scenario.workspaceId
  repository : change.repositoryId = a.scenario.repositoryId
  scenario : change.scenarioId = a.scenario.id
  dataMode : change.dataMode = a.scenario.dataMode
  engines : runEngines host a = .ok (change.risk, change.blastRadius)

/-- In every run whose calls are distinguished, every call that returns gives
what a fresh computation in its scenario gives. -/
theorem analysis_reuse_fresh {host : Host} {r : AnalysisRun} {call : AnalyzeCall} {a : Analysis}
    {change : ChangeRecord} {store : Store}
    (hr : ReachableBy (analysisSystem host) (Distinguished host) r)
    (hdist : Distinguished host r call)
    (hprep : prepareAnalysis host r.store call.request call.scope = .ok a)
    (hrun : (analyzeChange host call.request call.scope call.now).run r.store =
      (.ok change, store)) :
    Fresh host a change := by
  have hi := (analysisSystem_inv host (Distinguished host)).reachable hr
  rcases analyzeChange_cases hprep with ⟨existing, hget, hcase⟩ | ⟨e, hcase⟩ |
    ⟨result, changes, hresult, -, hcase⟩ <;> rw [hcase] at hrun
  · obtain ⟨rfl, rfl⟩ : existing = change ∧ r.store = store := by simpa using hrun
    obtain ⟨hmem, hid⟩ := Table.get?_eq_some.mp hget
    obtain ⟨b, hb, result, now, hresult, rfl⟩ :=
      hi.computed existing hmem (hid ▸ changeId_isDerived)
    obtain ⟨hscenario, hdoc⟩ := hdist a hprep b hb hid
    -- the scenarios are rows of one table, so one id is one row
    obtain ⟨-, hactive, hgraph⟩ := prepareAnalysis_ok hprep
    have hsame : b.scenario = a.scenario :=
      r.store.scenarios.eq_of_key_eq (hi.scenario b hb) (activeScenario_ok hactive).1 hscenario
    have hgraphs : b.graph = a.graph := by rw [hi.graph b hb, hgraph, hsame]
    refine ⟨?_, ?_, ?_, ?_, ?_⟩
    · exact congrArg Scenario.workspaceId hsame
    · exact congrArg Scenario.repositoryId hsame
    · exact hscenario
    · exact congrArg Scenario.dataMode hsame
    · rw [← runEngines_congr hgraphs hdoc hid]
      exact hresult
  · cases hrun
  · obtain ⟨rfl, -⟩ : newChange host a result call.now = change ∧ _ = store := by simpa using hrun
    exact ⟨rfl, rfl, rfl, rfl, hresult⟩

/-- A call that meets the id of another scenario's change returns that change. -/
theorem analyzeChange_stale {host : Host} {r : AnalysisRun} {call : AnalyzeCall} {a : Analysis}
    {existing : ChangeRecord}
    (hprep : prepareAnalysis host r.store call.request call.scope = .ok a)
    (hget : r.store.changes.get? (a.changeId host) = some existing)
    (hother : existing.scenarioId ≠ a.scenario.id) :
    (analyzeChange host call.request call.scope call.now).run r.store = (.ok existing, r.store) ∧
      ¬Fresh host a existing := by
  have hrest : analyzeChange host call.request call.scope call.now (State.start r.store) =
      reuseOrCompute host a call.now (State.start r.store) := query_ok_bind hprep
  exact ⟨run_eq (hrest.trans (reuseOrCompute_stored hget)), fun hfresh => hother hfresh.scenario⟩

/-! ## Two scenarios on one topology -/

def checkoutGraph : ServiceGraph where
  nodes := [[("id", .str "checkout-api"), ("tier", .str "tier-1")]]
  edges := []
  updatedAt := .none

def rehearsalScenario : Scenario where
  id := "checkout-rehearsal"
  workspaceId := legacyWorkspaceId
  repositoryId := legacyRepositoryId
  dataMode := "synthetic"
  isActive := true
  sortOrder := 1
  activeChangeId := none
  activeIncidentId := none
  serviceGraph := checkoutGraph

/-- The same repository and topology with connected data. -/
def liveScenario : Scenario :=
  { rehearsalScenario with
    id := "checkout-live", dataMode := "connected", isActive := false, sortOrder := 2 }

def twoScenarios : Store :=
  { Store.empty with scenarios := ⟨[rehearsalScenario, liveScenario], by decide⟩ }

def retryLimitRequest : AnalyzeChangeRequest where
  title := "Raise the retry limit"
  repository := "acme/checkout"
  author := "dana"
  filesChanged := 2
  linesAdded := 24
  linesDeleted := 12
  changedServices := ["checkout-api"]

/-- The request in a named scenario. -/
def analyzeIn (scenarioId : String) : AnalyzeCall where
  request := retryLimitRequest
  scope := ⟨some legacyWorkspaceId, some legacyRepositoryId, some scenarioId⟩
  now := 0

/-- `asciiHost` with a digest that has no collisions and begins, on the one
document these calls have, as its SHA-256 does. -/
def digestHost : Host :=
  { asciiHost with sha256 := fun text => "8698444e52e3" ++ text }

/-- The example's digest distinguishes all texts. -/
theorem digestHost_injective : Function.Injective digestHost.sha256 := by
  intro x y h
  have happend : "8698444e52e3" ++ x = "8698444e52e3" ++ y := h
  simpa using happend

/-- The analysis of the request in one of the two scenarios. -/
def analysisIn (scenario : Scenario) : Analysis where
  request := retryLimitRequest
  scenario := scenario
  graph := checkoutGraph
  effectiveChangedServices := ["checkout-api"]

def blankRun : AnalysisRun := ⟨twoScenarios, []⟩

/-- The run after an analysis in the rehearsal scenario. -/
def rehearsed : AnalysisRun := analyzeStep digestHost blankRun (analyzeIn "checkout-rehearsal")

/-- The first request of the example. -/
theorem blankRun_prepare :
    prepareAnalysis digestHost blankRun.store (analyzeIn "checkout-rehearsal").request
      (analyzeIn "checkout-rehearsal").scope = .ok (analysisIn rehearsalScenario) := by
  decide +kernel

/-- Both analyses derive one id, and the rehearsal's change is stored under it. -/
theorem rehearsed_spec :
    ∃ change changes, change.id = (analysisIn liveScenario).changeId digestHost ∧
      change.scenarioId = "checkout-rehearsal" ∧ change.dataMode = "synthetic" ∧
      changes.get? change.id = some change ∧
      rehearsed = ⟨{ twoScenarios with changes := changes }, [analysisIn rehearsalScenario]⟩ := by
  have hengines : (runEngines digestHost (analysisIn rehearsalScenario)).toBool = true := by
    decide +kernel
  cases hresult : runEngines digestHost (analysisIn rehearsalScenario) with
  | error e => rw [hresult] at hengines; cases hengines
  | ok result =>
    have hcompute : computeChange digestHost (analysisIn rehearsalScenario) 0 =
        .ok (newChange digestHost (analysisIn rehearsalScenario) result 0) := by
      rw [computeChange, hresult]
      rfl
    obtain ⟨changes, hinsert, hnew⟩ :=
      reuseOrCompute_new (s := State.start twoScenarios) rfl hcompute
    have hcall : analyzeChange digestHost (analyzeIn "checkout-rehearsal").request
        (analyzeIn "checkout-rehearsal").scope (analyzeIn "checkout-rehearsal").now
          (State.start twoScenarios) =
        reuseOrCompute digestHost (analysisIn rehearsalScenario) 0 (State.start twoScenarios) :=
      query_ok_bind blankRun_prepare
    have hrun : (analyzeChange digestHost (analyzeIn "checkout-rehearsal").request
        (analyzeIn "checkout-rehearsal").scope (analyzeIn "checkout-rehearsal").now).run
          blankRun.store = (.ok (newChange digestHost (analysisIn rehearsalScenario) result 0),
            { twoScenarios with changes := changes }) := run_eq (hcall.trans hnew)
    refine ⟨newChange digestHost (analysisIn rehearsalScenario) result 0, changes, rfl, rfl, rfl,
      ?_, ?_⟩
    · rw [Table.get?_insert hinsert, if_pos rfl]
    · rw [rehearsed, analyzeStep, blankRun_prepare, hrun]
      rfl

/-- An analysis is prepared without looking at changes. -/
theorem prepareAnalysis_changes (host : Host) (s : Store) (changes : Table ChangeRecord.id)
    (request : AnalyzeChangeRequest) (scope : AnalysisScope) :
    prepareAnalysis host { s with changes := changes } request scope =
      prepareAnalysis host s request scope := rfl

/-- The same request prepared in the other scenario. -/
theorem live_prepare :
    prepareAnalysis digestHost twoScenarios (analyzeIn "checkout-live").request
      (analyzeIn "checkout-live").scope = .ok (analysisIn liveScenario) := by
  decide +kernel

/-- The example begins without changes. -/
theorem blankRun_init : (analysisSystem digestHost).init blankRun :=
  ⟨rfl, fun _ hchange => absurd hchange List.not_mem_nil⟩

/-- The run in which the first request was analysed. -/
theorem rehearsed_reachable :
    ReachableBy (analysisSystem digestHost) (Distinguished digestHost) rehearsed := by
  have hfirst : Distinguished digestHost blankRun (analyzeIn "checkout-rehearsal") :=
    fun a _ b hb => absurd hb List.not_mem_nil
  exact .step (.init blankRun_init) hfirst rfl

/-- After an analysis in the rehearsal scenario, the same request in the live
scenario comes back as the synthetic change of the rehearsal. -/
theorem live_analysis_returns_rehearsal :
    Function.Injective digestHost.sha256 ∧ Reachable (analysisSystem digestHost) rehearsed ∧
    ∃ change, (analyzeChange digestHost retryLimitRequest (analyzeIn "checkout-live").scope 0).run
        rehearsed.store = (.ok change, rehearsed.store) ∧
      prepareAnalysis digestHost rehearsed.store retryLimitRequest
        (analyzeIn "checkout-live").scope = .ok (analysisIn liveScenario) ∧
      change.scenarioId = "checkout-rehearsal" ∧ change.dataMode = "synthetic" ∧
      ¬Fresh digestHost (analysisIn liveScenario) change := by
  have hreach : Reachable (analysisSystem digestHost) rehearsed :=
    .step (.init blankRun_init) trivial rfl
  obtain ⟨change, changes, hid, hscenario, hmode, hget, hrehearsed⟩ := rehearsed_spec
  have hprep : prepareAnalysis digestHost rehearsed.store (analyzeIn "checkout-live").request
      (analyzeIn "checkout-live").scope = .ok (analysisIn liveScenario) := by
    rw [hrehearsed, prepareAnalysis_changes]
    exact live_prepare
  have hstored : rehearsed.store.changes.get? ((analysisIn liveScenario).changeId digestHost) =
      some change := by
    rw [hrehearsed, ← hid]
    exact hget
  have hother : change.scenarioId ≠ (analysisIn liveScenario).scenario.id := by
    rw [hscenario]
    decide
  obtain ⟨hrun, hstale⟩ := analyzeChange_stale hprep hstored hother
  exact ⟨digestHost_injective, hreach, change, hrun, hprep, hscenario, hmode, hstale⟩

/-- The same request again in the rehearsal scenario: reused, and fresh. -/
theorem analysis_reuse_fresh_rehearsal :
    ∃ change, ((analyzeChange digestHost retryLimitRequest
        (analyzeIn "checkout-rehearsal").scope 0).run rehearsed.store).1 = .ok change ∧
      Fresh digestHost (analysisIn rehearsalScenario) change := by
  obtain ⟨change, changes, hid, -, -, hget, hrehearsed⟩ := rehearsed_spec
  have hprep : prepareAnalysis digestHost rehearsed.store (analyzeIn "checkout-rehearsal").request
      (analyzeIn "checkout-rehearsal").scope = .ok (analysisIn rehearsalScenario) := by
    rw [hrehearsed, prepareAnalysis_changes]
    exact blankRun_prepare
  have hdist : Distinguished digestHost rehearsed (analyzeIn "checkout-rehearsal") := by
    intro a hprep' b hb _
    obtain rfl : analysisIn rehearsalScenario = a := by simpa using hprep.symm.trans hprep'
    rw [hrehearsed, List.mem_singleton] at hb
    subst hb
    exact ⟨rfl, rfl⟩
  have hstored : (State.start rehearsed.store).cur.changes.get?
      ((analysisIn rehearsalScenario).changeId digestHost) = some change := by
    rw [hrehearsed]
    exact hid ▸ hget
  have hrest : analyzeChange digestHost retryLimitRequest (analyzeIn "checkout-rehearsal").scope 0
      (State.start rehearsed.store) = (.ok change, State.start rehearsed.store) :=
    (query_ok_bind hprep).trans (reuseOrCompute_stored hstored)
  have hrun := run_eq hrest
  exact ⟨change, congrArg Prod.fst hrun,
    analysis_reuse_fresh rehearsed_reachable hdist hprep hrun⟩

end DeployGuard.Service
