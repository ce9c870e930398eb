import Mathlib.Data.List.MinMax
import DeployGuard.Service.Convergence
import DeployGuard.Service.Metrics

/-!
# What deployments record on their change

A delivery that is applied to its deployment also sets status and environment of
the change it is matched with, whatever another deployment recorded there.

> `ShowsChange`: in every state a run reaches, a change shows the last of its
> deliveries that was applied.

That is arrival order, not the provider's (`change_state_greatest_iff`), and a
change stops to count as a deployment when another deployment of it goes on, or
its own is superseded (`total_deployments_kept`).
-/

namespace DeployGuard.Service

open Transition Latest

variable {host : Host} {r r' : DeploymentRun host} {d e : DeploymentDelivery host}
  {a b : Arrival host} {c : String}

/-- What a delivery records on its change. -/
def changeState (d : DeploymentDelivery host) : String × String :=
  ((legacyDeploymentStatus.get? d.update.status).getD "", d.update.environment)

/-- The last delivery that was applied and matched with a change. -/
def lastApplied (c : String) (r : DeploymentRun host) : Option (Arrival host) :=
  lastWhere (fun older a => a.changeId = some c ∧
    applies (older.map Arrival.delivery) a.delivery = true) r.arrivals

/-- Changes show the last delivery that was applied. -/
def ShowsChange (r : DeploymentRun host) : Prop :=
  ∀ c a, lastApplied c r = some a →
    (r.store.changes.get? c).map deploymentState = some (changeState a.delivery)

/-! ## One step -/

section Step

variable {s : Store} {u : DeploymentUpdate} {change : ChangeRecord}

/-- The matched change is one of the database. -/
theorem matched_mem (h : d.matched s = some change) : change ∈ s.changes.rows := by
  unfold DeploymentDelivery.matched matchedChange at h
  cases hsha : d.update.commitSha with
  | none =>
    rw [hsha] at h
    cases h
  | some sha =>
    rw [hsha] at h
    have hmem := List.mem_of_find?_eq_some h
    rw [List.mem_insertionSort, Table.mem_select] at hmem
    exact hmem.1

theorem get?_deployChanges (k : String) :
    (deployChanges u (some change) s.changes).get? k =
      (s.changes.get? k).map fun row => if k = change.id then deployChange u row else row :=
  Table.get?_updateKey _ _ _ (deployChange_id u) k

/-- The matched change after a delivery. -/
theorem deployChanges_matched (h : change ∈ s.changes.rows) :
    (deployChanges u (some change) s.changes).get? change.id = some (deployChange u change) := by
  rw [get?_deployChanges, Table.get?_of_mem h, Option.map_some, if_pos rfl]

/-- The other changes. -/
theorem deployChanges_ne {matched : Option ChangeRecord} (h : matched.map (·.id) ≠ some c) :
    (deployChanges u matched s.changes).get? c = s.changes.get? c := by
  cases matched with
  | none => rfl
  | some change =>
    have hne : c ≠ change.id := by
      intro h
      obtain rfl := h
      exact h rfl
    rw [get?_deployChanges]
    simp only [if_neg hne, Option.map_id']

end Step

theorem lastApplied_pos (hc : (d.matched r.store).map (·.id) = some c)
    (h : applies r.deliveries d = true) :
    lastApplied c (r.deliver d) = some ⟨d, (d.matched r.store).map (·.id)⟩ :=
  lastWhere_cons_pos ⟨hc, h⟩

theorem lastApplied_ne (hc : (d.matched r.store).map (·.id) ≠ some c) :
    lastApplied c (r.deliver d) = lastApplied c r := lastWhere_cons_neg fun h => hc h.1

theorem lastApplied_kept (h : applies r.deliveries d = false) :
    lastApplied c (r.deliver d) = lastApplied c r :=
  lastWhere_cons_neg fun ha => Bool.false_ne_true (h.symm.trans ha.2)

/-- One more delivery. -/
theorem ShowsChange.deliver (hs : ShowsChange r) (ht : Tracks r) (hd : Consistent r d) :
    ShowsChange (r.deliver d) := by
  intro c a ha
  show ((d.deliver r.store).changes.get? c).map deploymentState = _
  rcases deliver_cases ht hd with ⟨happlies, record, -, -, hchanges, -⟩ | ⟨happlies, hstore⟩
  · rw [hchanges]
    by_cases hc : (d.matched r.store).map (·.id) = some c
    · -- the change the delivery is matched with
      rw [lastApplied_pos hc happlies] at ha
      cases ha
      obtain ⟨change, hmatched, rfl⟩ := Option.map_eq_some_iff.mp hc
      rw [hmatched, deployChanges_matched (matched_mem hmatched)]
      rfl
    · rw [lastApplied_ne hc] at ha
      rw [deployChanges_ne hc]
      exact hs c a ha
  · rw [lastApplied_kept happlies] at ha
    rw [hstore]
    exact hs c a ha

/-- The rest of the service keeps what a change shows. -/
theorem LeavesDeployments.change {s s' : Store} {state : String × String}
    (h : LeavesDeployments s s') (hstate : (s.changes.get? c).map deploymentState = some state) :
    (s'.changes.get? c).map deploymentState = some state := by
  obtain ⟨change, hget, rfl⟩ := Option.map_eq_some_iff.mp hstate
  obtain ⟨hmem, rfl⟩ := Table.get?_eq_some.mp hget
  exact h.2 change hmem

/-- Every state a consistent run reaches. -/
theorem showsChange_reachable (h : ReachableBy (deploymentSystem host) consistentStep r) :
    ShowsChange r := by
  refine (deployment_induction (I := fun r => Tracks r ∧ ShowsChange r)
    (fun s hempty => ⟨tracks_reachable (.init ⟨hempty, rfl⟩), fun c a ha => nomatch ha⟩)
    (fun r d hr hd => ⟨hr.1.deliver hd, hr.2.deliver hr.1 hd⟩)
    (fun r s' hr hleaves => ⟨hr.1.other hleaves, fun c a ha => ?_⟩) h).2
  exact hleaves.change (hr.2 c a ha)

/-! ## Order -/

/-- The deliveries matched with a change. -/
def linked (c : String) (r : DeploymentRun host) : List (DeploymentDelivery host) :=
  (r.arrivals.filter fun a => a.changeId = some c).map Arrival.delivery

/-- A deployment is linked to a change by all of its deliveries, or by none. -/
def LinkedWhole (c : String) (r : DeploymentRun host) : Prop :=
  ∀ a ∈ r.arrivals, ∀ b ∈ r.arrivals, b.delivery.key = a.delivery.key → a.changeId = some c →
    b.changeId = some c

instance (c : String) (r : DeploymentRun host) : Decidable (LinkedWhole c r) :=
  inferInstanceAs (Decidable (∀ a ∈ r.arrivals, ∀ b ∈ r.arrivals, _ → _ → _))

theorem mem_linked : d ∈ linked c r ↔ ∃ a ∈ r.arrivals, a.changeId = some c ∧ a.delivery = d := by
  simp only [linked, List.mem_map, List.mem_filter, decide_eq_true_eq, and_assoc]

/-- The linked delivery of the greatest provider time was applied when it came. -/
theorem greatest_applied (h : ReachableBy (deploymentSystem host) consistentStep r)
    (hwhole : LinkedWhole c r) (hdistinct : ((linked c r).map DeploymentDelivery.stamp).Nodup)
    (ha : a ∈ r.arrivals) (hc : a.changeId = some c)
    (hmax : ∀ e ∈ linked c r, e.stamp ≤ a.delivery.stamp) : ∃ last, lastApplied c r = some last := by
  obtain ⟨newer, older, hsplit⟩ := List.append_of_mem ha
  rw [lastApplied, hsplit]
  refine lastWhere_isSome ⟨hc, (Option.all_eq_true ..).mpr fun e he => decide_eq_true ?_⟩
  -- what the row showed was linked as well, so it is older, and no other delivery with the id
  obtain ⟨hmem, hkey⟩ := register_mem he
  obtain ⟨b, hb, rfl⟩ := List.mem_map.mp hmem
  have hbr : b ∈ r.arrivals := hsplit ▸ List.mem_append_right _ (List.mem_cons_of_mem _ hb)
  have hbc : b.changeId = some c := hwhole a ha b hbr hkey hc
  refine ⟨hmax _ (mem_linked.mpr ⟨b, hbr, hbc, rfl⟩), fun hid => ?_⟩
  have hsame : b.delivery.stamp = a.delivery.stamp := by
    have hconsistent := consistent_reachable h a.delivery (List.mem_map_of_mem ha) b.delivery
      (List.mem_map_of_mem hbr)
    exact congrArg DeploymentUpdate.providerUpdatedAt (hconsistent.2 hid).2
  rw [linked, hsplit, List.filter_append, List.filter_cons_of_pos (by simpa using hc),
    List.map_append, List.map_append, List.map_cons, List.map_cons] at hdistinct
  have hnot := (List.nodup_cons.mp (List.nodup_append.mp hdistinct).2.1).1
  refine hnot (List.mem_map.mpr ⟨b.delivery, ?_, hsame⟩)
  exact List.mem_map_of_mem (List.mem_filter.mpr ⟨hb, by simpa using hbc⟩)

/-- **Order.** In every consistent run, a change whose deliveries have distinct
provider times shows the state of the one with the greatest time just when the
last of them that was applied says the same as that one. -/
theorem change_state_greatest_iff
    (h : ReachableBy (deploymentSystem host) consistentStep r) (hwhole : LinkedWhole c r)
    (hne : linked c r ≠ []) (hdistinct : ((linked c r).map DeploymentDelivery.stamp).Nodup) :
    ∃ greatest ∈ linked c r, (∀ e ∈ linked c r, e.stamp ≤ greatest.stamp) ∧
      ((r.store.changes.get? c).map deploymentState = some (changeState greatest) ↔
        ∃ last, lastApplied c r = some last ∧
          changeState last.delivery = changeState greatest) := by
  obtain ⟨greatest, hmem, hmax⟩ : ∃ g ∈ linked c r, ∀ e ∈ linked c r, e.stamp ≤ g.stamp := by
    obtain ⟨g, hg⟩ := Option.ne_none_iff_exists'.mp (fun hnone =>
      hne (List.argmax_eq_none.mp hnone) : List.argmax DeploymentDelivery.stamp (linked c r) ≠ none)
    exact ⟨g, List.argmax_mem hg, fun e he => List.le_of_mem_argmax he hg⟩
  refine ⟨greatest, hmem, hmax, ?_⟩
  obtain ⟨a, ha, hc, rfl⟩ := mem_linked.mp hmem
  obtain ⟨last, hlast⟩ := greatest_applied h hwhole hdistinct ha hc hmax
  rw [showsChange_reachable h c last hlast, Option.some.injEq]
  constructor
  · exact fun heq => ⟨last, hlast, heq⟩
  · intro h
    obtain ⟨last', hlast', heq⟩ := h
    cases hlast.symm.trans hlast'
    exact heq

/-! A change that goes to staging and then, a minute later, to production. -/

def rolloutChange : ChangeRecord where
  id := "ch-1"
  workspaceId := "ws-1"
  repositoryId := "rep-1"
  scenarioId := "sc-1"
  dataMode := "connected"
  analysisSchemaVersion := "1"
  engineVersion := "1"
  scoringPolicyVersion := "1"
  graphVersion := "1"
  title := "Retry limit"
  repository := "acme/checkout"
  author := "dev"
  commitSha := "abc"
  branch := "main"
  createdAt := 0
  deploymentStatus := "not_deployed"
  deploymentEnvironment := "unknown"
  changedServices := []
  filesChanged := 1
  linesAdded := 1
  linesDeleted := 0
  flags := []
  testCoverage := none
  rollbackReady := none
  observabilityScore := none
  previousFailures := none
  risk := ⟨0, "low", 0, [], []⟩
  blastRadius := ⟨[], []⟩

def rolloutStore : Store := { Store.empty with changes := ⟨[rolloutChange], by decide⟩ }

def stagingSucceeded : DeploymentDelivery asciiHost where
  payload := rolloutPayload 6 "staging" "success"
  call := rolloutCall "d-3" 0
  update := rolloutUpdate "6" "staging" "succeeded" 0
  reads := by decide +kernel

/-- Both deliveries are the change's. Where staging comes in last, the change is
in staging; the production deployment is the later one. -/
theorem change_state_order_matters :
    ReachableBy (deploymentSystem asciiHost) consistentStep
      (twoDeliveries rolloutStore rolloutLater stagingSucceeded) ∧
    linked "ch-1" (twoDeliveries rolloutStore rolloutLater stagingSucceeded) =
      [stagingSucceeded, rolloutLater] ∧
    stagingSucceeded.stamp < rolloutLater.stamp ∧
    ((twoDeliveries rolloutStore rolloutLater stagingSucceeded).store.changes.get? "ch-1").map
      deploymentState = some ("deployed", "staging") ∧
    ((twoDeliveries rolloutStore stagingSucceeded rolloutLater).store.changes.get? "ch-1").map
      deploymentState = some ("deployed", "production") ∧
    changeState rolloutLater = ("deployed", "production") := by
  refine ⟨twoDeliveries_reachable rfl rfl (by decide), rfl, by decide +kernel⟩

theorem change_state_greatest_rollout :
    ∃ greatest ∈ linked "ch-1" (twoDeliveries rolloutStore stagingSucceeded rolloutLater),
      (∀ e ∈ linked "ch-1" (twoDeliveries rolloutStore stagingSucceeded rolloutLater),
        e.stamp ≤ greatest.stamp) ∧
      (((twoDeliveries rolloutStore stagingSucceeded rolloutLater).store.changes.get? "ch-1").map
          deploymentState = some (changeState greatest) ↔
        ∃ last, lastApplied "ch-1" (twoDeliveries rolloutStore stagingSucceeded rolloutLater) =
            some last ∧ changeState last.delivery = changeState greatest) := by
  have hlinked : linked "ch-1" (twoDeliveries rolloutStore stagingSucceeded rolloutLater) =
      [rolloutLater, stagingSucceeded] := rfl
  refine change_state_greatest_iff (twoDeliveries_reachable rfl rfl (by decide)) ?_
    (by simp [hlinked]) (by rw [hlinked]; decide +kernel)
  decide +kernel

/-! ## The metrics -/

section Metrics

variable {s : Store} {u : DeploymentUpdate} {matched : Option ChangeRecord}
  {workspaceId : Option String} {now : Time}

/-- What a delivery makes of a row. -/
def deployRow (u : DeploymentUpdate) (matched : Option ChangeRecord) (row : ChangeRecord) :
    ChangeRecord :=
  if matched.map (·.id) = some row.id then deployChange u row else row

theorem deployChanges_rows (t : Table ChangeRecord.id) :
    (deployChanges u matched t).rows = t.rows.map (deployRow u matched) := by
  cases matched with
  | none => exact (List.map_id' _).symm
  | some change =>
    refine List.map_congr_left fun row _ => ?_
    simp [deployRow, eq_comm]

/-- A delivery does not touch what the window is computed from. -/
theorem deployRow_window (u : DeploymentUpdate) (matched : Option ChangeRecord)
    (row : ChangeRecord) :
    (deployRow u matched row).workspaceId = row.workspaceId ∧
      (deployRow u matched row).dataMode = row.dataMode ∧
      (deployRow u matched row).createdAt = row.createdAt := by
  unfold deployRow
  split
  · exact ⟨rfl, rfl, rfl⟩
  · exact ⟨rfl, rfl, rfl⟩

theorem metricsCutoff_applied {s' : Store} {record : DeploymentRecord}
    (h : Applied d s s' record) : metricsCutoff s' workspaceId now = metricsCutoff s workspaceId now := by
  obtain ⟨-, hchanges, hincidents⟩ := h
  have hselect : (s'.changes.select fun row => inWorkspace workspaceId row.workspaceId) =
      (s.changes.select fun row => inWorkspace workspaceId row.workspaceId).map
        (deployRow d.update (d.matched s)) := by
    rw [Table.select, Table.select, hchanges, deployChanges_rows, List.filter_map]
    refine congrArg _ (List.filter_congr fun row _ => ?_)
    simp only [Function.comp, (deployRow_window _ _ row).1]
  have hmode : ChangeRecord.dataMode ∘ deployRow d.update (d.matched s) = ChangeRecord.dataMode :=
    funext fun row => (deployRow_window _ _ row).2.1
  have hcreated : ChangeRecord.createdAt ∘ deployRow d.update (d.matched s) =
      ChangeRecord.createdAt := funext fun row => (deployRow_window _ _ row).2.2
  rw [metricsCutoff, metricsCutoff, hselect, hincidents, windowEnd, windowEnd, List.map_map,
    List.map_map, hmode, hcreated]

/-- A success was applied and matched with the change. -/
def SuccessApplied (c : String) (r : DeploymentRun host) : Prop :=
  (lastWhere (fun older a => a.changeId = some c ∧
    applies (older.map Arrival.delivery) a.delivery = true ∧
    a.delivery.update.status = "succeeded") r.arrivals).isSome

/-- What is applied to a change that counts as deployed is a success itself. -/
def KeepsDeployed (r : DeploymentRun host) (d : DeploymentDelivery host) : Prop :=
  ∀ change, d.matched r.store = some change → isDeployed host change →
    applies r.deliveries d = true → d.update.status = "succeeded"

/-- The consistent runs in which no deployed change is set to something else. -/
def keepingStep (r : DeploymentRun host) : DeploymentStep host → Prop
  | .deliver d => Consistent r d ∧ KeepsDeployed r d
  | .other _ => True

/-- A change a success is recorded on counts as deployed. -/
theorem isDeployed_succeeded {change : ChangeRecord} (h : u.status = "succeeded") :
    isDeployed host (deployChange u change) := by
  show deployedStatuses.contains (host.lower ((legacyDeploymentStatus.get? u.status).getD "")) = true
  rw [h, show (legacyDeploymentStatus.get? "succeeded").getD "" = "deployed" from by decide,
    host.lower_of_ascii (by decide)]
  decide

theorem isDeployed_of_state {change change' : ChangeRecord}
    (h : deploymentState change' = deploymentState change) (hdeployed : isDeployed host change) :
    isDeployed host change' := by
  have hstatus : change'.deploymentStatus = change.deploymentStatus := congrArg Prod.fst h
  rwa [isDeployed, hstatus]

/-- The changes with a success are deployed. -/
def KeptDeployed (r : DeploymentRun host) : Prop :=
  ∀ c, SuccessApplied c r → ∃ change, r.store.changes.get? c = some change ∧
    isDeployed host change

/-- A success was applied: it is the new delivery, or one before it. -/
theorem successApplied_deliver (hc : SuccessApplied c (r.deliver d)) :
    ((d.matched r.store).map (·.id) = some c ∧ applies r.deliveries d = true ∧
      d.update.status = "succeeded") ∨ SuccessApplied c r := by
  by_cases h : (d.matched r.store).map (·.id) = some c ∧ applies r.deliveries d = true ∧
      d.update.status = "succeeded"
  · exact Or.inl h
  · refine Or.inr ?_
    unfold SuccessApplied at hc ⊢
    rwa [show (r.deliver d).arrivals = ⟨d, (d.matched r.store).map (·.id)⟩ :: r.arrivals from rfl,
      lastWhere_cons_neg h] at hc

theorem KeptDeployed.deliver (hk : KeptDeployed r) (ht : Tracks r) (hd : Consistent r d)
    (hkeeps : KeepsDeployed r d) : KeptDeployed (r.deliver d) := by
  intro c hc
  show ∃ change, (d.deliver r.store).changes.get? c = some change ∧ _
  have hbefore := successApplied_deliver hc
  rcases deliver_cases ht hd with ⟨happlies, record, -, -, hchanges, -⟩ | ⟨happlies, hstore⟩
  · rw [hchanges]
    by_cases hmatched : (d.matched r.store).map (·.id) = some c
    · obtain ⟨change, hchange, rfl⟩ := Option.map_eq_some_iff.mp hmatched
      rw [hchange, deployChanges_matched (matched_mem hchange)]
      refine ⟨_, rfl, isDeployed_succeeded ?_⟩
      rcases hbefore with ⟨-, -, hsucceeded⟩ | hbefore
      · exact hsucceeded
      · -- the change had its success before, so the delivery is one as well
        obtain ⟨change', hget, hdeployed⟩ := hk _ hbefore
        cases (Table.get?_of_mem (matched_mem hchange)).symm.trans hget
        exact hkeeps change hchange hdeployed happlies
    · rw [deployChanges_ne hmatched]
      exact hk c (hbefore.resolve_left fun h => hmatched h.1)
  · rw [hstore]
    exact hk c (hbefore.resolve_left fun h => Bool.false_ne_true (happlies.symm.trans h.2.1))

/-- Every state such a run reaches. -/
theorem keptDeployed_reachable (h : ReachableBy (deploymentSystem host) keepingStep r) :
    ReachableBy (deploymentSystem host) consistentStep r ∧ KeptDeployed r := by
  induction h with
  | init hinit =>
    refine ⟨.init hinit, fun c hc => ?_⟩
    unfold SuccessApplied at hc
    rw [hinit.2] at hc
    cases hc
  | @step r r' step _ hC hstep ih =>
    obtain ⟨hreach, hk⟩ := ih
    cases step with
    | deliver d =>
      obtain ⟨hd, hkeeps⟩ := hC
      cases hstep
      exact ⟨hreach.step (a := .deliver d) hd rfl, hk.deliver (tracks_reachable hreach) hd hkeeps⟩
    | other s' =>
      refine ⟨hreach.step (a := .other s') trivial hstep, fun c hc => ?_⟩
      by_cases hleaves : LeavesDeployments r.store s'
      · obtain rfl : { r with store := s' } = r' := by
          simpa [deploymentSystem, hleaves] using hstep
        obtain ⟨change, hget, hdeployed⟩ := hk c hc
        have hstate : (s'.changes.get? c).map deploymentState = some (deploymentState change) :=
          hleaves.change (congrArg (Option.map deploymentState) hget)
        obtain ⟨change', hget', heq⟩ := Option.map_eq_some_iff.mp hstate
        exact ⟨change', hget', isDeployed_of_state heq hdeployed⟩
      · simp [deploymentSystem, hleaves] at hstep

/-- The number of the counted changes, by row. -/
theorem length_countedChanges : (countedChanges host s workspaceId now).length =
    s.changes.rows.countP fun row =>
      isDeployed host row && inWindow workspaceId (metricsCutoff s workspaceId now) row := by
  rw [countedChanges, Table.select, List.filter_filter, List.countP_eq_length_filter]
  refine congrArg _ (List.filter_congr fun row _ => ?_)
  rw [inWindow, Bool.and_assoc, Bool.and_comm (inWorkspace ..)]

/-- A delivery that keeps deployed changes deployed does not lower the total. -/
theorem countedChanges_deliver (ht : Tracks r) (hd : Consistent r d) (hkeeps : KeepsDeployed r d) :
    (countedChanges host r.store workspaceId now).length ≤
      (countedChanges host (d.deliver r.store) workspaceId now).length := by
  rcases deliver_cases ht hd with ⟨happlies, record, -, happlied⟩ | ⟨-, hstore⟩
  · have hcutoff : metricsCutoff (d.deliver r.store) workspaceId now =
        metricsCutoff r.store workspaceId now := metricsCutoff_applied happlied
    rw [length_countedChanges, length_countedChanges, hcutoff, happlied.2.1, deployChanges_rows,
      List.countP_map]
    refine List.countP_mono_left fun row hrow hcounted => ?_
    obtain ⟨hdeployed, hwindow⟩ := (Bool.and_eq_true ..).mp hcounted
    obtain ⟨hworkspace, -, hcreated⟩ := deployRow_window d.update (d.matched r.store) row
    refine (Bool.and_eq_true ..).mpr ⟨?_, ?_⟩
    · by_cases hmatched : (d.matched r.store).map (·.id) = some row.id
      · obtain ⟨change, hchange, hid⟩ := Option.map_eq_some_iff.mp hmatched
        cases r.store.changes.eq_of_key_eq (matched_mem hchange) hrow hid
        rw [deployRow, if_pos hmatched]
        exact isDeployed_succeeded (hkeeps _ hchange hdeployed happlies)
      · rwa [deployRow, if_neg hmatched]
    · rwa [inWindow, hworkspace, hcreated]
  · rw [hstore]

/-- **The metrics.** In every state reached by a run in which nothing but a
success is applied to a deployed change, a change with a success counts as long
as it is in the window, and one more such delivery does not lower the total
that is reported. -/
theorem total_deployments_kept (h : ReachableBy (deploymentSystem host) keepingStep r)
    (workspaceId : Option String) (now : Time) :
    (∀ c, SuccessApplied c r → ∃ change, r.store.changes.get? c = some change ∧
      (inWindow workspaceId (metricsCutoff r.store workspaceId now) change →
        change ∈ countedChanges host r.store workspaceId now)) ∧
    ∀ d report report', keepingStep r (.deliver d) →
      getDoraMetrics host r.store workspaceId now = .ok report →
      getDoraMetrics host (d.deliver r.store) workspaceId now = .ok report' →
        report.totalDeployments ≤ report'.totalDeployments := by
  obtain ⟨hreach, hk⟩ := keptDeployed_reachable h
  constructor
  · intro c hc
    obtain ⟨change, hget, hdeployed⟩ := hk c hc
    exact ⟨change, hget, fun hwindow =>
      mem_countedChanges.mpr ⟨Table.mem_of_get? hget, hdeployed, hwindow⟩⟩
  · intro d report report' h hreport hreport'
    obtain ⟨hd, hkeeps⟩ := h
    rw [totalDeployments_eq hreport, totalDeployments_eq hreport']
    exact countedChanges_deliver (tracks_reachable hreach) hd hkeeps

end Metrics

/-- The production deployment is superseded, two minutes after it started. -/
def rolloutInactive : DeploymentDelivery asciiHost where
  payload := rolloutPayload 5 "production" "inactive"
  call := rolloutCall "d-4" (seconds 120)
  update := rolloutUpdate "5" "production" "inactive" (seconds 120)
  reads := by decide +kernel

/-- The deployment of the change was completed and counted, and is not any more. -/
theorem total_deployments_lost :
    ReachableBy (deploymentSystem asciiHost) consistentStep
      (twoDeliveries rolloutStore rolloutLater rolloutInactive) ∧
    SuccessApplied "ch-1" (twoDeliveries rolloutStore rolloutLater rolloutInactive) ∧
    inWindow none (metricsCutoff rolloutStore none (seconds 180)) rolloutChange ∧
    (getDoraMetrics asciiHost (rolloutLater.deliver rolloutStore) none (seconds 180)).map
      (·.totalDeployments) = .ok 1 ∧
    (getDoraMetrics asciiHost (twoDeliveries rolloutStore rolloutLater rolloutInactive).store none
      (seconds 180)).map (·.totalDeployments) = .ok 0 := by
  refine ⟨twoDeliveries_reachable rfl rfl (by decide), ?_⟩
  unfold SuccessApplied
  decide +kernel

theorem total_deployments_kept_rollout :
    ∃ change, (twoDeliveries rolloutStore stagingSucceeded rolloutLater).store.changes.get? "ch-1" =
        some change ∧
      (inWindow none (metricsCutoff (twoDeliveries rolloutStore stagingSucceeded
          rolloutLater).store none 0) change →
        change ∈ countedChanges asciiHost
          (twoDeliveries rolloutStore stagingSucceeded rolloutLater).store none 0) := by
  have hreach : ReachableBy (deploymentSystem asciiHost) keepingStep
      (twoDeliveries rolloutStore stagingSucceeded rolloutLater) :=
    .step (a := .deliver rolloutLater)
      (.step (a := .deliver stagingSucceeded) (.init ⟨rfl, rfl⟩)
        ⟨consistent_first, fun _ _ _ _ => rfl⟩ rfl)
      ⟨consistent_second rfl (by decide), fun _ _ _ _ => rfl⟩ rfl
  refine (total_deployments_kept hreach none 0).1 "ch-1" ?_
  unfold SuccessApplied
  decide +kernel

end DeployGuard.Service
