import DeployGuard.Lib.Latest
import DeployGuard.Lib.Transition
import DeployGuard.Service.Deployment

/-!
# Deployment records under reordering

Deliveries about deployments come in any order. The row of a deployment is a
last-writer-wins register over the provider's time: an older delivery is
dropped, and one that the row names as its last is not applied again.

> `Tracks`: in every state a run reaches, the row of each deployment shows what
> the register of its deliveries holds.

With distinct provider times that makes the row independent of the order
(`deployment_convergence`). With equal times the later arrival wins, and the row
no longer knows the earlier one as applied (`deployment_redelivery_iff`).
-/

namespace DeployGuard.Service

open Session Session.Call Transition Latest

/-! ## Deliveries -/

/-- A delivery that names a deployment, with what it says. -/
structure DeploymentDelivery (host : Host) where
  payload : Items
  call : DeploymentCall
  update : DeploymentUpdate
  reads : deploymentUpdate host payload call.event.occurredAt = .ok (some update)

namespace DeploymentDelivery

variable {host : Host}

/-- The deployment it is about. -/
def key (d : DeploymentDelivery host) : String × String × String :=
  deploymentIdentity d.update d.call

/-- The provider's time. -/
def stamp (d : DeploymentDelivery host) : Time := d.update.providerUpdatedAt

def deliveryId (d : DeploymentDelivery host) : String := d.call.deliveryId

/-- When the deployment was over, if the delivery says it is. -/
def finishedAt (d : DeploymentDelivery host) : Option Time :=
  if isFinal d.update.status then some d.stamp else none

/-- The change it is matched with in a store. -/
def matched (d : DeploymentDelivery host) (s : Store) : Option ChangeRecord :=
  matchedChange s d.call.workspaceId d.call.repository.id d.update.commitSha
    d.update.providerUpdatedAt

/-- The services it is about. -/
def services (d : DeploymentDelivery host) (s : Store) : List String :=
  serviceIds s d.call.workspaceId d.call.repository.id (d.matched s)

/-- What processing it leaves in the database. -/
def deliver (d : DeploymentDelivery host) (s : Store) : Store :=
  ((upsertGithubDeployment host d.payload d.call).run s).2

/-- A delivery commits what its upsert left. -/
theorem deliver_eq {d : DeploymentDelivery host} {s : Store} {t : State Store}
    {result : Except ServiceError (Option DeploymentRecord)}
    (h : upsertRow d.update d.call (d.matched s) (d.services s)
      (upsertOnce host d.payload d.call (raise .integrityError)) (State.start s) = (result, t)) :
    d.deliver s = t.base := by
  unfold deliver
  rw [run_eq ((upsertGithubDeployment_some (s := State.start s) d.reads).trans h)]

end DeploymentDelivery

/-- The row shows a delivery as the last one applied. -/
structure Reflects {host : Host} (record : DeploymentRecord) (d : DeploymentDelivery host) :
    Prop where
  status : record.status = d.update.status
  environment : record.environment = d.update.environment
  providerUpdatedAt : record.providerUpdatedAt = d.stamp
  finishedAt : record.finishedAt = d.finishedAt
  repositoryId : record.repositoryId = d.call.repository.id
  deliveryId : getItem record.provenance "last_delivery_id" = .str d.deliveryId

section Deliver

variable {host : Host} {d : DeploymentDelivery host} {s : Store} {record : DeploymentRecord}

/-- The row remembers the delivery it reflects. -/
theorem Reflects.isLastDelivery (h : Reflects record d) (deliveryId : String) :
    isLastDelivery record deliveryId = decide (d.deliveryId = deliveryId) := by
  unfold Service.isLastDelivery
  rw [h.deliveryId]
  simp

/-- A new row reflects its delivery. -/
theorem reflects_created (change : Option ChangeRecord) (services : List String) :
    Reflects (createdDeployment d.update d.call change services) d :=
  ⟨rfl, rfl, rfl, rfl, rfl, rfl⟩

/-- An updated row reflects the delivery that updated it. -/
theorem reflects_updated (change : Option ChangeRecord) (services : List String)
    (h : record.repositoryId = d.call.repository.id) :
    Reflects (updatedDeployment d.update d.call change services record) d :=
  ⟨rfl, rfl, rfl, rfl, h, getItem_set ..⟩

/-- What a delivery that is applied sets: its row, and the change it is matched with. -/
def Applied (d : DeploymentDelivery host) (s s' : Store) (record : DeploymentRecord) : Prop :=
  (∀ k, s'.deployments.get? k = if k = d.key then some record else s.deployments.get? k) ∧
    s'.changes = deployChanges d.update (d.matched s) s.changes ∧ s'.incidents = s.incidents

/-- The first delivery about a deployment. -/
theorem deliver_created (h : s.deployments.get? d.key = none) :
    ∃ record, record.version = 1 ∧ Reflects record d ∧ Applied d s (d.deliver s) record := by
  obtain ⟨deployments, hinsert, hrun⟩ := upsertRow_created (s := State.start s) (u := d.update)
    (c := d.call) h
  refine ⟨createdDeployment d.update d.call (d.matched s) (d.services s), rfl,
    reflects_created .., ?_⟩
  rw [DeploymentDelivery.deliver_eq hrun]
  refine ⟨fun k => ?_, rfl, rfl⟩
  show deployments.get? k = _
  by_cases hk : k = d.key
  · rw [if_pos hk]
    exact Table.get?_inserted hinsert hk.symm
  · rw [if_neg hk]
    exact (Table.get?_insert hinsert k).trans (if_neg (Ne.symm hk))

/-- A delivery the row names as its last, or that is older than the row. -/
theorem deliver_kept (h : s.deployments.get? d.key = some record)
    (hkept : isLastDelivery record d.deliveryId ∨ d.stamp < record.providerUpdatedAt) :
    d.deliver s = s :=
  DeploymentDelivery.deliver_eq (upsertRow_kept (s := State.start s) h hkept)

/-- Any other delivery of the row's repository is applied. -/
theorem deliver_applied (h : s.deployments.get? d.key = some record)
    (hlast : isLastDelivery record d.deliveryId = false)
    (hnew : record.providerUpdatedAt ≤ d.stamp)
    (hscope : record.repositoryId = d.call.repository.id) :
    ∃ record', record'.version = record.version + 1 ∧ Reflects record' d ∧
      Applied d s (d.deliver s) record' := by
  obtain ⟨deployments, hget, hrun⟩ :=
    applyDeployment_ok (s := State.start s) (d.matched s) (d.services s) h hscope
  refine ⟨updatedDeployment d.update d.call (d.matched s) (d.services s) record, rfl,
    reflects_updated _ _ hscope, ?_⟩
  rw [DeploymentDelivery.deliver_eq ((upsertRow_later (s := State.start s) h hlast hnew).trans
    hrun)]
  exact ⟨hget, rfl, rfl⟩

end Deliver

/-! ## Runs -/

/-- A delivery and the change it was matched with. -/
structure Arrival (host : Host) where
  delivery : DeploymentDelivery host
  changeId : Option String

/-- The database, and the deliveries that arrived, the newest first. -/
structure DeploymentRun (host : Host) where
  store : Store
  arrivals : List (Arrival host)

namespace DeploymentRun

variable {host : Host}

def deliveries (r : DeploymentRun host) : List (DeploymentDelivery host) :=
  r.arrivals.map Arrival.delivery

/-- The state after a delivery. -/
def deliver (r : DeploymentRun host) (d : DeploymentDelivery host) : DeploymentRun host where
  store := d.deliver r.store
  arrivals := ⟨d, (d.matched r.store).map (·.id)⟩ :: r.arrivals

end DeploymentRun

inductive DeploymentStep (host : Host) where
  | deliver (d : DeploymentDelivery host)
  | other (s' : Store)

/-- What the webhooks record of a deployment on its change. -/
def deploymentState (change : ChangeRecord) : String × String :=
  (change.deploymentStatus, change.deploymentEnvironment)

/-- The rest of the service leaves the deployments alone, and of the changes what
deployments record on them. -/
def LeavesDeployments (s s' : Store) : Prop :=
  s'.deployments = s.deployments ∧ ∀ change ∈ s.changes.rows,
    (s'.changes.get? change.id).map deploymentState = some (deploymentState change)

instance (s s' : Store) : Decidable (LeavesDeployments s s') :=
  inferInstanceAs (Decidable (_ ∧ _))

def deploymentSystem (host : Host) : System (DeploymentRun host) (DeploymentStep host) where
  init r := r.store.deployments = ∅ ∧ r.arrivals = []
  next r
    | .deliver d => some (r.deliver d)
    | .other s' => if LeavesDeployments r.store s' then some { r with store := s' } else none

/-- The deliveries about one deployment come from one repository, and a delivery
id names one delivery. -/
def Consistent {host : Host} (r : DeploymentRun host) (d : DeploymentDelivery host) : Prop :=
  ∀ e ∈ r.deliveries, (e.key = d.key → e.call.repository.id = d.call.repository.id) ∧
    (e.deliveryId = d.deliveryId → e.key = d.key ∧ e.update = d.update)

/-- The runs all of whose deliveries are consistent with those before. -/
def consistentStep {host : Host} (r : DeploymentRun host) : DeploymentStep host → Prop
  | .deliver d => Consistent r d
  | .other _ => True

/-- The delivery the row of a deployment should show. -/
def latestDelivery {host : Host} (k : String × String × String) (r : DeploymentRun host) :
    Option (DeploymentDelivery host) :=
  register DeploymentDelivery.key DeploymentDelivery.stamp k r.deliveries

/-- A delivery is applied after earlier ones: the row of its deployment is not
later, and names another delivery as its last. -/
def applies {host : Host} (older : List (DeploymentDelivery host)) (d : DeploymentDelivery host) :
    Bool :=
  (register DeploymentDelivery.key DeploymentDelivery.stamp d.key older).all fun e =>
    e.stamp ≤ d.stamp ∧ e.deliveryId ≠ d.deliveryId

/-- The row of each deployment shows what the register of its deliveries holds. -/
structure Tracks {host : Host} (r : DeploymentRun host) : Prop where
  free : ∀ k, latestDelivery k r = none → r.store.deployments.get? k = none
  row : ∀ k d, latestDelivery k r = some d →
    ∃ record, r.store.deployments.get? k = some record ∧ Reflects record d

section Runs

variable {host : Host} {r r' : DeploymentRun host} {d e : DeploymentDelivery host}

/-- A run remembers its deliveries, the latest first. -/
theorem deliveries_deliver (r : DeploymentRun host) (d : DeploymentDelivery host) :
    (r.deliver d).deliveries = d :: r.deliveries := rfl

/-- A delivery of another deployment does not matter. -/
theorem latestDelivery_ne {k : String × String × String} (hk : d.key ≠ k) :
    latestDelivery k (r.deliver d) = latestDelivery k r := register_cons_ne hk

/-- The latest delivery is one of the deployment's. -/
theorem latestDelivery_spec {k : String × String × String} (h : latestDelivery k r = some e) :
    e ∈ r.deliveries ∧ e.key = k := register_mem h

/-- A delivery that comes when its row is free, or is not older than what the row
shows, is the one to show next. -/
theorem latestDelivery_fresh (h : ∀ e, latestDelivery d.key r = some e → e.stamp ≤ d.stamp) :
    latestDelivery d.key (r.deliver d) = some d := register_cons_pos rfl (fresh_iff.mpr h)

/-- A stale delivery is not the latest. -/
theorem latestDelivery_stale (h : latestDelivery d.key r = some e) (hlt : d.stamp < e.stamp)
    (k : String × String × String) : latestDelivery k (r.deliver d) = latestDelivery k r := by
  refine register_cons_stale fun hfresh => ?_
  exact absurd (fresh_iff.mp hfresh e h) (not_le.mpr hlt)

/-- An applied delivery is tracked by the row. -/
theorem Tracks.applied {record : DeploymentRecord} (ht : Tracks r) (hrecord : Reflects record d)
    (happlied : Applied d r.store (d.deliver r.store) record)
    (hnew : ∀ e, latestDelivery d.key r = some e → e.stamp ≤ d.stamp) : Tracks (r.deliver d) := by
  have hlatest := latestDelivery_fresh hnew
  constructor
  · intro k hk
    show (d.deliver r.store).deployments.get? k = none
    rw [happlied.1]
    by_cases hkey : k = d.key
    · subst hkey
      rw [hlatest] at hk
      cases hk
    · rw [if_neg hkey]
      exact ht.free k ((latestDelivery_ne (Ne.symm hkey)).symm.trans hk)
  · intro k e hk
    show ∃ record, (d.deliver r.store).deployments.get? k = some record ∧ _
    rw [happlied.1]
    by_cases hkey : k = d.key
    · subst hkey
      cases hlatest.symm.trans hk
      exact ⟨record, if_pos rfl, hrecord⟩
    · rw [if_neg hkey]
      exact ht.row k e ((latestDelivery_ne (Ne.symm hkey)).symm.trans hk)

/-- A delivery the row names as its last shows as well as the one that was applied. -/
theorem Reflects.again {record : DeploymentRecord} (h : Reflects record e)
    (hupdate : e.update = d.update) (hid : e.deliveryId = d.deliveryId)
    (hscope : e.call.repository.id = d.call.repository.id) : Reflects record d where
  status := h.status.trans (congrArg DeploymentUpdate.status hupdate)
  environment := h.environment.trans (congrArg DeploymentUpdate.environment hupdate)
  providerUpdatedAt := h.providerUpdatedAt.trans
    (congrArg DeploymentUpdate.providerUpdatedAt hupdate)
  finishedAt := by
    rw [h.finishedAt, DeploymentDelivery.finishedAt, DeploymentDelivery.stamp, hupdate]
    rfl
  repositoryId := h.repositoryId.trans hscope
  deliveryId := hid ▸ h.deliveryId

/-- A delivery is applied, or changes nothing. -/
theorem deliver_cases (ht : Tracks r) (hd : Consistent r d) :
    (applies r.deliveries d = true ∧
      ∃ record, Reflects record d ∧ Applied d r.store (d.deliver r.store) record) ∨
    (applies r.deliveries d = false ∧ d.deliver r.store = r.store) := by
  cases hlatest : latestDelivery d.key r with
  | none =>
    obtain ⟨record, -, hrecord, happlied⟩ := deliver_created (ht.free _ hlatest)
    have happlies : applies r.deliveries d = true := by
      rw [applies, show register _ _ _ _ = _ from hlatest]
      rfl
    exact Or.inl ⟨happlies, record, hrecord, happlied⟩
  | some e =>
    obtain ⟨hmem, hkey⟩ := latestDelivery_spec hlatest
    obtain ⟨record, hrow, hrecord⟩ := ht.row _ _ hlatest
    have happlies : applies r.deliveries d = decide (e.stamp ≤ d.stamp ∧
        e.deliveryId ≠ d.deliveryId) := by
      rw [applies, show register _ _ _ _ = _ from hlatest]
      rfl
    -- The row carries the delivery that wrote it, so the code's test is on the register.
    have hlast : isLastDelivery record d.deliveryId = decide (e.deliveryId = d.deliveryId) :=
      hrecord.isLastDelivery _
    by_cases hkept : e.deliveryId = d.deliveryId ∨ d.stamp < e.stamp
    · -- the same delivery again, or an older one: the row is kept
      refine Or.inr ⟨?_, deliver_kept hrow ?_⟩
      · rw [happlies, decide_eq_false_iff_not]
        intro h
        obtain ⟨hle, hne⟩ := h
        exact hkept.elim hne (not_lt.mpr hle)
      · rw [hlast, hrecord.providerUpdatedAt, decide_eq_true_eq]
        exact hkept
    · -- a newer one: the row is rewritten
      obtain ⟨hne, hle⟩ := not_or.mp hkept
      obtain ⟨record', -, hrecord', happlied⟩ := deliver_applied hrow
        (hlast.trans (decide_eq_false hne)) (hrecord.providerUpdatedAt ▸ not_lt.mp hle)
        (hrecord.repositoryId.trans ((hd e hmem).1 hkey))
      exact Or.inl ⟨happlies.trans (decide_eq_true ⟨not_lt.mp hle, hne⟩), record', hrecord', happlied⟩

/-- A delivery that changes nothing is older than what its row shows, or says the same. -/
theorem Tracks.kept (ht : Tracks r) (hd : Consistent r d)
    (happlies : applies r.deliveries d = false) (hstore : d.deliver r.store = r.store) :
    Tracks (r.deliver d) := by
  obtain ⟨e, hlatest, hkept⟩ := (Option.all_eq_false ..).mp happlies
  have hlatest : latestDelivery d.key r = some e := hlatest
  obtain ⟨hmem, hkey⟩ := latestDelivery_spec hlatest
  obtain ⟨record, hrow, hrecord⟩ := ht.row _ _ hlatest
  have hrows : ∀ k, (r.deliver d).store.deployments.get? k = r.store.deployments.get? k := by
    intro k
    show (d.deliver r.store).deployments.get? k = _
    rw [hstore]
  by_cases hlt : d.stamp < e.stamp
  · have hstale := latestDelivery_stale hlatest hlt
    constructor
    · intro k hk
      exact (hrows k).trans (ht.free k ((hstale k).symm.trans hk))
    · intro k e' hk
      rw [hrows k]
      exact ht.row k e' ((hstale k).symm.trans hk)
  · -- it is the delivery the row names as its last
    have hsame : e.deliveryId = d.deliveryId := by
      by_contra hne
      simp [not_lt.mp hlt, hne] at hkept
    obtain ⟨-, hupdate⟩ := (hd e hmem).2 hsame
    have hnew : latestDelivery d.key (r.deliver d) = some d := by
      refine latestDelivery_fresh fun e' he' => ?_
      cases hlatest.symm.trans he'
      exact not_lt.mp hlt
    constructor
    · intro k hk
      rw [hrows k]
      by_cases hkd : d.key = k
      · subst hkd
        cases hnew.symm.trans hk
      · exact ht.free k ((latestDelivery_ne hkd).symm.trans hk)
    · intro k e' hk
      rw [hrows k]
      by_cases hkd : d.key = k
      · subst hkd
        cases hnew.symm.trans hk
        exact ⟨record, hrow, hrecord.again hupdate hsame ((hd e hmem).1 hkey)⟩
      · exact ht.row k e' ((latestDelivery_ne hkd).symm.trans hk)

/-- One more delivery. -/
theorem Tracks.deliver (ht : Tracks r) (hd : Consistent r d) : Tracks (r.deliver d) := by
  rcases deliver_cases ht hd with ⟨happlies, record, hrecord, happlied⟩ | ⟨happlies, hstore⟩
  · refine ht.applied hrecord happlied fun e he => ?_
    have hboth := (Option.all_eq_true ..).mp happlies e he
    exact (of_decide_eq_true hboth).1
  · exact ht.kept hd happlies hstore

/-- What holds before the first delivery, is kept by a consistent delivery and by
work that leaves the deployments alone, holds in every state a consistent run
reaches. -/
theorem deployment_induction {I : DeploymentRun host → Prop}
    (hinit : ∀ s, s.deployments = ∅ → I ⟨s, []⟩)
    (hdeliver : ∀ r d, I r → Consistent r d → I (r.deliver d))
    (hother : ∀ r s', I r → LeavesDeployments r.store s' → I { r with store := s' })
    (h : ReachableBy (deploymentSystem host) consistentStep r) : I r := by
  refine Invariant.reachable (S := deploymentSystem host) (C := consistentStep) ⟨?_, ?_⟩ h
  · intro r hr
    obtain ⟨s, arrivals⟩ := r
    obtain ⟨hempty, rfl⟩ := hr
    exact hinit s hempty
  · intro r step r' hI hC hstep
    cases step with
    | deliver d =>
      obtain rfl := Option.some.inj hstep
      exact hdeliver r d hI hC
    | other s' =>
      by_cases hleaves : LeavesDeployments r.store s'
      · obtain rfl : { r with store := s' } = r' := by
          simpa [deploymentSystem, hleaves] using hstep
        exact hother r s' hI hleaves
      · simp [deploymentSystem, hleaves] at hstep

/-- Work that leaves the deployments alone. -/
theorem Tracks.other {s' : Store} (ht : Tracks r) (h : LeavesDeployments r.store s') :
    Tracks { r with store := s' } := by
  obtain ⟨hsame, -⟩ := h
  constructor
  · intro k hk
    show s'.deployments.get? k = none
    rw [hsame]
    exact ht.free k hk
  · intro k d hk
    show ∃ record, s'.deployments.get? k = some record ∧ _
    rw [hsame]
    exact ht.row k d hk

/-- Every state a consistent run reaches. -/
theorem tracks_reachable (h : ReachableBy (deploymentSystem host) consistentStep r) : Tracks r := by
  refine deployment_induction (I := Tracks) (fun s hempty => ?_) (fun r d ht hd => ht.deliver hd)
    (fun r s' ht hleaves => ht.other hleaves) h
  constructor
  · intro k _
    show s.deployments.get? k = none
    rw [hempty]
    rfl
  · exact fun k d hk => nomatch (latestDelivery_spec hk).1

/-- The deliveries of a consistent run are consistent with all of it, those
before and those after. -/
theorem consistent_reachable (h : ReachableBy (deploymentSystem host) consistentStep r) :
    ∀ d ∈ r.deliveries, Consistent r d := by
  refine deployment_induction (I := fun r => ∀ d ∈ r.deliveries, Consistent r d)
    (fun s _ d hd => absurd hd List.not_mem_nil) (fun r d ih hd => ?_)
    (fun r s' ih _ => ih) h
  intro d' hd' e he
  rw [deliveries_deliver] at hd' he
  rcases List.mem_cons.mp hd' with rfl | hold'
  · rcases List.mem_cons.mp he with rfl | hold
    · exact ⟨fun _ => rfl, fun _ => ⟨rfl, rfl⟩⟩
    · exact hd e hold
  · rcases List.mem_cons.mp he with rfl | hold
    · obtain ⟨hscope, hid⟩ := hd d' hold'
      exact ⟨fun hk => (hscope hk.symm).symm, fun hi =>
        ⟨(hid hi.symm).1.symm, (hid hi.symm).2.symm⟩⟩
    · exact ih d' hold' e hold

end Runs

/-! ## Convergence -/

section Converge

variable {host : Host} {r r' : DeploymentRun host} {k : String × String × String}

/-- The deliveries about one deployment. -/
def DeploymentRun.about (r : DeploymentRun host) (k : String × String × String) :
    List (DeploymentDelivery host) :=
  r.deliveries.filter fun d => d.key = k

/-- The rows of one deployment. -/
def deploymentRows (s : Store) (k : String × String × String) : List DeploymentRecord :=
  s.deployments.select fun row => row.identity = k

/-- What a row shows of the deployment's state. -/
def shown (record : DeploymentRecord) : String × String × Time × Option Time :=
  (record.status, record.environment, record.providerUpdatedAt, record.finishedAt)

/-- What a delivery determines of it. -/
def determined (d : DeploymentDelivery host) : String × String × Time × Option Time :=
  (d.update.status, d.update.environment, d.update.providerUpdatedAt,
    if isFinal d.update.status then some d.update.providerUpdatedAt else none)

/-- What a row shows is determined by the delivery it reflects. -/
theorem Reflects.shown {record : DeploymentRecord} {d : DeploymentDelivery host}
    (h : Reflects record d) : shown record = determined d := by
  rw [Service.shown, h.status, h.environment, h.providerUpdatedAt, h.finishedAt]
  rfl

/-- The deliveries about one deployment. -/
theorem mem_about {d : DeploymentDelivery host} : d ∈ r.about k ↔ d ∈ r.deliveries ∧ d.key = k := by
  rw [DeploymentRun.about, List.mem_filter, decide_eq_true_eq]

/-- There is one row for a deployment. -/
theorem deploymentRows_eq {s : Store} {record : DeploymentRecord}
    (h : s.deployments.get? k = some record) : deploymentRows s k = [record] :=
  Table.select_key h

/-- The row shows the delivery of the greatest provider time. -/
theorem row_greatest (h : ReachableBy (deploymentSystem host) consistentStep r)
    (hne : r.about k ≠ []) :
    ∃ record, ∃ d ∈ r.about k, deploymentRows r.store k = [record] ∧
      (∀ e ∈ r.about k, e.stamp ≤ d.stamp) ∧ shown record = determined d := by
  obtain ⟨b, hb⟩ := List.exists_mem_of_ne_nil _ hne
  obtain ⟨hmem, hk⟩ := mem_about.mp hb
  obtain ⟨d, hd⟩ : ∃ d, latestDelivery k r = some d := register_isSome hmem hk
  obtain ⟨record, hrow, hrecord⟩ := (tracks_reachable h).row k d hd
  refine ⟨record, d, mem_about.mpr (latestDelivery_spec hd), deploymentRows_eq hrow, ?_,
    hrecord.shown⟩
  intro e he
  obtain ⟨hmem', hk'⟩ := mem_about.mp he
  exact register_le hd hmem' hk'

/-- **Convergence.** In every consistent run with distinct provider times, a
deployment that deliveries were about has exactly one row. It shows what the
delivery of the greatest provider time determines, and in every other run of
deliveries that say the same, in whatever order, it shows the same. -/
theorem deployment_convergence (h : ReachableBy (deploymentSystem host) consistentStep r)
    (hne : r.about k ≠ []) (hdistinct : ((r.about k).map DeploymentDelivery.stamp).Nodup) :
    ∃ record, ∃ d ∈ r.about k, deploymentRows r.store k = [record] ∧
      (∀ e ∈ r.about k, e.stamp ≤ d.stamp) ∧ shown record = determined d ∧
      ∀ r', ReachableBy (deploymentSystem host) consistentStep r' →
        ((r'.about k).map (·.update)).Perm ((r.about k).map (·.update)) →
          ∃ record', deploymentRows r'.store k = [record'] ∧ shown record' = shown record := by
  obtain ⟨record, d, hd, hrows, hmax, hshown⟩ := row_greatest h hne
  refine ⟨record, d, hd, hrows, hmax, hshown, fun r' h' hperm => ?_⟩
  have hne' : r'.about k ≠ [] := by
    intro hnil
    rw [hnil, List.map_nil, List.nil_perm, List.map_eq_nil_iff] at hperm
    exact hne hperm
  obtain ⟨record', d', hd', hrows', hmax', hshown'⟩ := row_greatest h' hne'
  refine ⟨record', hrows', ?_⟩
  -- each of the two says what one of the other run says, so they have the same time
  obtain ⟨e, he, hupdate⟩ := List.mem_map.mp (hperm.mem_iff.mp (List.mem_map_of_mem hd'))
  obtain ⟨e', he', hupdate'⟩ := List.mem_map.mp (hperm.mem_iff.mpr (List.mem_map_of_mem hd))
  have hle : d.stamp ≤ e.stamp := by
    have htime : e'.stamp = d.stamp := congrArg DeploymentUpdate.providerUpdatedAt hupdate'
    have htime' : e.stamp = d'.stamp := congrArg DeploymentUpdate.providerUpdatedAt hupdate
    rw [← htime, htime']
    exact hmax' e' he'
  have hsame : e = d := List.inj_on_of_nodup_map hdistinct he hd (le_antisymm (hmax e he) hle)
  rw [hshown, hshown']
  unfold determined
  rw [← hupdate, hsame]

end Converge

/-! A deployment that starts and is over a minute later. -/

def rolloutPayload (id : Int) (environment state : String) : Items :=
  [("deployment", .dict [("id", .int id), ("sha", .str "abc"), ("environment", .str environment)]),
    ("deployment_status", .dict [("state", .str state)])]

def rolloutUpdate (id environment status : String) (t : Time) : DeploymentUpdate where
  providerDeploymentId := id
  status := status
  providerCreatedAt := t
  providerUpdatedAt := t
  commitSha := some "abc"
  ref := none
  environment := environment
  providerUrl := none

def rolloutRepository : Repository where
  id := "rep-1"
  workspaceId := "ws-1"
  provider := "github"
  providerRepositoryId := "9"
  fullName := "acme/checkout"
  defaultBranch := "main"
  visibility := "private"
  connectionState := "connected"
  dataMode := "connected"
  selected := true
  lastSyncedAt := none
  createdAt := 0

/-- The ledger's event of a delivery, whose time the delivery falls back on. -/
def rolloutEvent (deliveryId : String) (t : Time) : OperationalEvent where
  id := deliveryId
  providerEventId := deliveryId
  workspaceId := "ws-1"
  repositoryId := some "rep-1"
  serviceId := none
  incidentId := none
  source := "github"
  eventType := "deployment_status"
  occurredAt := t
  severity := "info"
  summary := "deployment"
  attributes := []
  provenance := []
  ingestionStatus := "accepted"
  ingestedAt := t

def rolloutCall (deliveryId : String) (t : Time) : DeploymentCall where
  workspaceId := "ws-1"
  repository := rolloutRepository
  event := rolloutEvent deliveryId t
  deliveryId := deliveryId
  newId := deliveryId
  now := t

def rolloutStarted : DeploymentDelivery asciiHost where
  payload := rolloutPayload 5 "production" "in_progress"
  call := rolloutCall "d-1" 0
  update := rolloutUpdate "5" "production" "in_progress" 0
  reads := by decide +kernel

/-- The end of the deployment, at a moment. -/
def rolloutFinished (t : Time)
    (h : deploymentUpdate asciiHost (rolloutPayload 5 "production" "success") t =
      .ok (some (rolloutUpdate "5" "production" "succeeded" t))) : DeploymentDelivery asciiHost where
  payload := rolloutPayload 5 "production" "success"
  call := rolloutCall "d-2" t
  update := rolloutUpdate "5" "production" "succeeded" t
  reads := h

/-- The end a minute after the start. -/
def rolloutLater : DeploymentDelivery asciiHost :=
  rolloutFinished (seconds 60) (by decide +kernel)

/-- The end in the second of the start. -/
def rolloutAtOnce : DeploymentDelivery asciiHost := rolloutFinished 0 (by decide +kernel)

/-- Where two deliveries lead to. -/
def twoDeliveries {host : Host} (s : Store) (d e : DeploymentDelivery host) : DeploymentRun host :=
  ((⟨s, []⟩ : DeploymentRun host).deliver d).deliver e

section Two

variable {host : Host} {s : Store} {d e : DeploymentDelivery host}

/-- A first delivery contradicts no other. -/
theorem consistent_first : Consistent (⟨s, []⟩ : DeploymentRun host) d :=
  fun _ he => absurd he List.not_mem_nil

/-- Deliveries of one repository with ids of their own. -/
theorem consistent_second (hscope : d.call.repository.id = e.call.repository.id)
    (hid : d.deliveryId ≠ e.deliveryId) :
    Consistent ((⟨s, []⟩ : DeploymentRun host).deliver d) e := by
  intro d' hd'
  obtain rfl := List.mem_singleton.mp hd'
  exact ⟨fun _ => hscope, fun h => absurd h hid⟩

/-- Two deliveries of different ids make a run. -/
theorem twoDeliveries_reachable (hempty : s.deployments = ∅)
    (hscope : d.call.repository.id = e.call.repository.id) (hid : d.deliveryId ≠ e.deliveryId) :
    ReachableBy (deploymentSystem host) consistentStep (twoDeliveries s d e) :=
  .step (a := .deliver e) (.step (a := .deliver d) (.init ⟨hempty, rfl⟩) consistent_first rfl)
    (consistent_second hscope hid) rfl

end Two

/-- The start and the end of the deployment. -/
def rolloutRun (finished : DeploymentDelivery asciiHost) : DeploymentRun asciiHost :=
  twoDeliveries Store.empty rolloutStarted finished

/-- A rollout reported in the wrong order. -/
theorem deployment_convergence_rollout :
    ∃ record, ∃ d ∈ (rolloutRun rolloutLater).about rolloutStarted.key,
      deploymentRows (rolloutRun rolloutLater).store rolloutStarted.key = [record] ∧
        (∀ e ∈ (rolloutRun rolloutLater).about rolloutStarted.key, e.stamp ≤ d.stamp) ∧
        shown record = determined d := by
  have habout : (rolloutRun rolloutLater).about rolloutStarted.key =
      [rolloutLater, rolloutStarted] := rfl
  obtain ⟨record, d, hd, hrows, hmax, hshown, -⟩ :=
    deployment_convergence (k := rolloutStarted.key) (r := rolloutRun rolloutLater)
      (twoDeliveries_reachable rfl rfl (by decide)) (by simp [habout]) (by decide +kernel)
  exact ⟨record, d, hd, hrows, hmax, hshown⟩

/-! ## Redelivery -/

section Redeliver

variable {host : Host} {r : DeploymentRun host} {d again : DeploymentDelivery host}

/-- The same delivery once more: its identity and what it says are those of the
first time. -/
def SameDelivery (d again : DeploymentDelivery host) : Prop :=
  again.deliveryId = d.deliveryId ∧ again.key = d.key ∧ again.update = d.update ∧
    again.call.repository.id = d.call.repository.id

/-- Of the row of a deployment, what tells where the deployment stands. -/
def standing (s : Store) (k : String × String × String) :
    Option (String × Option Time × Time × Int) :=
  (s.deployments.get? k).map fun record =>
    (record.status, record.finishedAt, record.providerUpdatedAt, record.version)

/-- **Redelivery of a deployment event.** In every state a consistent run
reaches, processing one of its deliveries again leaves the standing of the
deployment as it is just when, of the deliveries of the greatest provider time,
the one that arrived last is later than it or is the delivery itself. -/
theorem deployment_redelivery_iff
    (h : ReachableBy (deploymentSystem host) consistentStep r) (hd : d ∈ r.deliveries)
    (hsame : SameDelivery d again) :
    standing (again.deliver r.store) d.key = standing r.store d.key ↔
      ∃ e, latestDelivery d.key r = some e ∧
        (d.stamp < e.stamp ∨ e.deliveryId = d.deliveryId) := by
  obtain ⟨hid, hkey, hupdate, hscope⟩ := hsame
  obtain ⟨e, he⟩ : ∃ e, latestDelivery d.key r = some e := register_isSome hd rfl
  obtain ⟨record, hrow, hrecord⟩ := (tracks_reachable h).row d.key e he
  have hrow' : r.store.deployments.get? again.key = some record := hkey ▸ hrow
  have hlater : again.stamp < record.providerUpdatedAt ↔ d.stamp < e.stamp := by
    rw [hrecord.providerUpdatedAt, DeploymentDelivery.stamp, hupdate]
    rfl
  have hlast : isLastDelivery record again.deliveryId = decide (e.deliveryId = d.deliveryId) := by
    rw [hrecord.isLastDelivery, hid]
  have honly : (∃ e, latestDelivery d.key r = some e ∧
        (d.stamp < e.stamp ∨ e.deliveryId = d.deliveryId)) ↔
      d.stamp < e.stamp ∨ e.deliveryId = d.deliveryId := by
    constructor
    · intro h
      obtain ⟨e', he', h⟩ := h
      cases he.symm.trans he'
      exact h
    · exact fun h => ⟨e, he, h⟩
  rw [honly]
  by_cases hkept : d.stamp < e.stamp ∨ e.deliveryId = d.deliveryId
  · refine iff_of_true ?_ hkept
    rw [deliver_kept hrow']
    rcases hkept with hkept | hkept
    · exact Or.inr (hlater.mpr hkept)
    · exact Or.inl (hlast.trans (decide_eq_true hkept))
  · -- the row does not know the delivery: it is applied, and that counts as a version
    obtain ⟨hnew, hother⟩ := not_or.mp hkept
    obtain ⟨hmem, hkey'⟩ := latestDelivery_spec he
    have hrepository : record.repositoryId = again.call.repository.id :=
      hrecord.repositoryId.trans
        (((consistent_reachable h d hd e hmem).1 hkey').trans hscope.symm)
    obtain ⟨record', hversion, -, happlied, -⟩ := deliver_applied hrow'
      (hlast.trans (decide_eq_false hother)) (not_lt.mp fun hlt => hnew (hlater.mp hlt)) hrepository
    refine iff_of_false (fun heq => ?_) hkept
    have hrecord' : (again.deliver r.store).deployments.get? d.key = some record' := by
      rw [happlied, if_pos hkey.symm]
    rw [standing, standing, hrow, hrecord', Option.map_some, Option.map_some,
      Option.some.injEq, Prod.mk.injEq, Prod.mk.injEq, Prod.mk.injEq] at heq
    rw [heq.2.2.2] at hversion
    omega

end Redeliver

/-- A deployment that is over in the second it started in: its first delivery
comes again and the deployment is in progress once more. -/
theorem deployment_redelivery_undoes :
    ReachableBy (deploymentSystem asciiHost) consistentStep (rolloutRun rolloutAtOnce) ∧
    rolloutStarted ∈ (rolloutRun rolloutAtOnce).deliveries ∧
    standing (rolloutRun rolloutAtOnce).store rolloutStarted.key =
      some ("succeeded", some 0, 0, 2) ∧
    standing (rolloutStarted.deliver (rolloutRun rolloutAtOnce).store) rolloutStarted.key =
      some ("in_progress", none, 0, 3) := by
  refine ⟨twoDeliveries_reachable rfl rfl (by decide), ?_, ?_⟩
  · exact List.mem_cons_of_mem _ (List.mem_cons_self ..)
  · decide +kernel

/-- A delivery of the rollout, once more. -/
theorem deployment_redelivery_rollout :
    standing (rolloutAtOnce.deliver (rolloutRun rolloutAtOnce).store) rolloutAtOnce.key =
      standing (rolloutRun rolloutAtOnce).store rolloutAtOnce.key := by
  exact (deployment_redelivery_iff (r := rolloutRun rolloutAtOnce)
    (twoDeliveries_reachable rfl rfl (by decide)) (List.mem_cons_self ..)
    ⟨rfl, rfl, rfl, rfl⟩).mpr ⟨rolloutAtOnce, rfl, Or.inr rfl⟩

end DeployGuard.Service
