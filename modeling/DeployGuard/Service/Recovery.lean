import DeployGuard.Service.Conflicts
import DeployGuard.Service.Redelivery
import DeployGuard.Service.Unverified

/-!
# Pull requests that crash

A monitored pull request takes six commits: its delivery row, the mark
`processing`, the change, the scenario's pointer, the event, and last the job
with the mark `processed`. An attempt may stop after any of them and the next one
begins again; four identities make it find what is there:

> the delivery by its delivery id, the change by the digest of the request and of
> what it is analysed on, the event by its ledger key and its material, the job by
> its idempotency key.

None of the commits changes what these are computed from: the scenario's pointer
is the only thing written that an analysis reads, and the digest leaves it out
(`changeId_congr`).
-/

namespace DeployGuard.Service

open Raise Session Session.Call Transition

/-! ## What a delivery leaves -/

/-- A delivery with the connection and the repository it is linked to. -/
structure LinkedDelivery where
  delivery : GithubDelivery
  connection : ProviderConnection
  repository : Repository
  ids : String × String

/-- `f"github-check:{repository.id}:{change.id}"`, as the queue stores it. -/
def publicationJobKey (repository : Repository) (changeId : String) : String :=
  Text.strip s!"github-check:{repository.id}:{changeId}"

namespace LinkedDelivery

variable (host : Host) (config : WebhookConfig) (l : LinkedDelivery) (s : Store)

/-- The analysis of its request, up to the lookup. -/
def analysis : Except ServiceError Analysis :=
  pullRequestRequest host l.delivery l.repository >>= fun request =>
    prepareAnalysis host s request (connectedScope l.connection l.repository)

/-- The id of the change of its request, where it can be analysed. -/
def changeId : Option String := (l.analysis host s).toOption.map (·.changeId host)

/-- The changes of its request. -/
def changes : List ChangeRecord := s.changes.select fun row => l.changeId host s = some row.id

/-- The events under its delivery id. -/
def events : List OperationalEvent :=
  s.events.select fun row => row.identity = deliveryEventKey l.delivery l.connection

/-- The publication jobs of a change. -/
def jobs (changeId : String) : List Jobs.BackgroundJob :=
  s.jobs.select fun job => job.idempotencyKey = some (publicationJobKey l.repository changeId)

/-- The delivery is processed. -/
def Processed : Prop :=
  (s.deliveries.get? (deliveryKey l.delivery)).map (·.status) = some "processed"

instance : Decidable (l.Processed s) := inferInstanceAs (Decidable (_ = _))

/-- A publication is due for the change: checks are enabled, the connection may
write them, and the change is a connected one. -/
def checkDue (change : ChangeRecord) : Bool :=
  config.settings.any (fun settings => checksWritable settings l.connection host) &&
    changePublishable l.connection l.repository change

end LinkedDelivery

/-! ## The catalog and the topology -/

/-- A scenario but for its pointer. -/
def unpointed (row : Scenario) : Scenario := { row with activeChangeId := none }

/-- The same services, and the same scenarios but for their pointers. -/
structure SameCatalog (s t : Store) : Prop where
  services : t.services = s.services
  scenarios : t.scenarios.rows.map unpointed = s.scenarios.rows.map unpointed

section Catalog

variable {host : Host} {s t : Store} {l : LinkedDelivery}

/-- A store has its own catalog. -/
theorem SameCatalog.refl (s : Store) : SameCatalog s s := ⟨rfl, rfl⟩

/-- Pointing a scenario at a change leaves the catalog alone. -/
theorem sameCatalog_pointScenario {scenario : Scenario} {id : String} :
    SameCatalog t (pointScenario scenario id t) := by
  refine ⟨rfl, ?_⟩
  show (t.scenarios.rows.map _).map unpointed = _
  rw [List.map_map]
  refine List.map_congr_left fun row _ => ?_
  by_cases hsame : row.id = scenario.id
  · rw [Function.comp, if_pos (decide_eq_true hsame)]
    rfl
  · rw [Function.comp, if_neg (by simpa using hsame)]

/-- The scenario chosen does not depend on where scenarios point. -/
theorem firstScenario_unpointed (s : Store) {p : Scenario → Bool}
    (hp : ∀ row, p (unpointed row) = p row) :
    (firstScenario s p).map unpointed =
      (((s.scenarios.rows.map unpointed).filter p).insertionSort scenarioOrder).head? := by
  have hfilter : (s.scenarios.rows.map unpointed).filter p =
      (s.scenarios.select p).map unpointed := by
    rw [List.filter_map, Table.select]
    exact congrArg _ (List.filter_congr fun row _ => hp row)
  rw [hfilter, firstScenario, ← List.head?_map, List.map_insertionSort scenarioOrder scenarioOrder]
  exact fun _ _ _ _ => Iff.rfl

/-- The scenario that is chosen is the same, but for its pointer. -/
theorem chosenScenario_congr (h : SameCatalog s t) (scope : AnalysisScope) :
    (chosenScenario t scope).map unpointed = (chosenScenario s scope).map unpointed := by
  have hfirst : ∀ p : Scenario → Bool, (∀ row, p (unpointed row) = p row) →
      (firstScenario t p).map unpointed = (firstScenario s p).map unpointed := by
    intro p hp
    rw [firstScenario_unpointed t hp, firstScenario_unpointed s hp, h.scenarios]
  have hfallback := hfirst (inScope scope) fun _ => rfl
  rw [chosenScenario, chosenScenario, Option.map_or, Option.map_or,
    hfirst (isChosen scope) fun _ => rfl]
  split
  · rw [hfallback]
  · rfl

/-- An analysis but for the pointer of its scenario. -/
def unpointedAnalysis (a : Analysis) : Analysis := { a with scenario := unpointed a.scenario }

/-- An analysis is prepared alike over one catalog. -/
theorem prepareAnalysis_congr (h : SameCatalog s t) (request : AnalyzeChangeRequest)
    (scope : AnalysisScope) : (prepareAnalysis host t request scope).map unpointedAnalysis =
      (prepareAnalysis host s request scope).map unpointedAnalysis := by
  have hchosen := chosenScenario_congr h scope
  unfold prepareAnalysis activeScenario
  cases hs : chosenScenario s scope with
  | none =>
    rw [hs, Option.map_none, Option.map_eq_none_iff] at hchosen
    rw [hchosen]
    rfl
  | some row =>
    rw [hs] at hchosen
    obtain ⟨row', ht, hrow⟩ := Option.map_eq_some_iff.mp hchosen
    rw [ht]
    have hworkspace : row'.workspaceId = row.workspaceId := (congrArg Scenario.workspaceId hrow :)
    have hgraph : row'.serviceGraph = row.serviceGraph := (congrArg Scenario.serviceGraph hrow :)
    have hcatalog : workspaceCatalog t row'.workspaceId = workspaceCatalog s row.workspaceId := by
      rw [workspaceCatalog, h.services, hworkspace, workspaceCatalog]
    rw [Raise.bind_ok, Raise.bind_ok]
    simp only [hcatalog, hgraph]
    cases effectiveRoots host (workspaceCatalog s row.workspaceId) scope.repositoryId
        request.changedServices with
    | error e => rfl
    | ok roots =>
      refine congrArg Except.ok ?_
      simp only [unpointedAnalysis, hrow]

/-- The change of a request is the same as long as the catalog and the topology are. -/
theorem LinkedDelivery.changeId_congr (h : SameCatalog s t) : l.changeId host t = l.changeId host s := by
  have hid : ∀ x : Except ServiceError Analysis, (x.map unpointedAnalysis).toOption.map
      (·.changeId host) = x.toOption.map (·.changeId host) := by
    intro x
    cases x <;> rfl
  unfold changeId analysis
  cases pullRequestRequest host l.delivery l.repository with
  | error e => rfl
  | ok request =>
    rw [Raise.bind_ok, Raise.bind_ok, ← hid, prepareAnalysis_congr h, hid]

end Catalog

/-! ## What attempts keep -/

/-- Rows are added after the others, and each of them meets `P`. -/
def Adds {ρ : Type} (P : ρ → Prop) (rows rows' : List ρ) : Prop :=
  ∃ added, rows' = rows ++ added ∧ ∀ row ∈ added, P row

/-- Nothing was added. -/
theorem Adds.refl {ρ : Type} {P : ρ → Prop} (rows : List ρ) : Adds P rows rows :=
  ⟨[], (List.append_nil rows).symm, nofun⟩

/-- One row was added, of the kind that may be. -/
theorem Adds.snoc {ρ : Type} {P : ρ → Prop} {rows rows' : List ρ} {row : ρ}
    (h : Adds P rows rows') (hrow : P row) : Adds P rows (rows' ++ [row]) := by
  obtain ⟨added, rfl, hadded⟩ := h
  refine ⟨added ++ [row], List.append_assoc .., fun other hother => ?_⟩
  rcases List.mem_append.mp hother with hother | hother
  · exact hadded other hother
  · exact List.mem_singleton.mp hother ▸ hrow

/-- The changes, events and jobs that are new are the delivery's own: the change
of its request, the event under its id, the publication of its change. -/
structure AddsOwn (host : Host) (l : LinkedDelivery) (s t : Store) : Prop where
  changeId : l.changeId host t = l.changeId host s
  changes : Adds (fun change => l.changeId host s = some change.id ∧
    change.workspaceId = l.connection.workspaceId ∧ change.repositoryId = l.repository.id)
    s.changes.rows t.changes.rows
  events : Adds (fun event => event.identity = deliveryEventKey l.delivery l.connection)
    s.events.rows t.events.rows
  jobs : Adds (fun job => ∃ id, l.changeId host s = some id ∧
    job.idempotencyKey = some (publicationJobKey l.repository id)) s.jobs.rows t.jobs.rows

namespace LinkedDelivery

variable (host : Host) (config : WebhookConfig) (l : LinkedDelivery) (p : Time) (s : Store)

/-- The change is the one of the request, and stored. -/
def Stored (change : ChangeRecord) : Prop :=
  l.changeId host s = some change.id ∧ s.changes.get? change.id = some change

/-- The ledger has an event under the delivery id. -/
def Logged : Prop := (s.events.get? (deliveryEventKey l.delivery l.connection)).isSome

/-- A publication of the change is queued, if one is due. -/
def Queued (change : ChangeRecord) : Prop :=
  l.checkDue host config change = true →
    (Jobs.findByKey s.jobs (publicationJobKey l.repository change.id)).isSome

/-- Everything the delivery should leave is there. -/
def Settled : Prop :=
  ∃ change, l.Stored host s change ∧ l.Logged s ∧ l.Queued host config s change

/-- What every attempt finds and leaves: the delivery is linked, a row and an
event it has are its own, and it is processed only if everything is there. -/
structure Resumable : Prop where
  linked : Linked host l.delivery l.connection l.repository l.ids s
  row : Matches l.delivery l.ids.1 l.repository s
  event : ∀ event, s.events.get? (deliveryEventKey l.delivery l.connection) = some event →
    ∃ n, normalizeDelivery host l.delivery l.repository = .ok n ∧ storedEventMaterial host event =
      deliveryMaterial host l.delivery l.connection l.repository n p
  keys : Jobs.UniqueKeys s.jobs
  settled : l.Processed s → l.Settled host config s

end LinkedDelivery

/-- The database in an attempt that began on `s`. -/
structure Progress (host : Host) (config : WebhookConfig) (l : LinkedDelivery) (p : Time)
    (s t : Store) : Prop where
  adds : AddsOwn host l s t
  resumable : l.Resumable host config p t

section Writes

variable {host : Host} {config : WebhookConfig} {l : LinkedDelivery} {p : Time} {s t t' : Store}
  {change : ChangeRecord}

/-- An attempt begins without progress. -/
theorem Progress.start (h : l.Resumable host config p s) : Progress host config l p s s :=
  ⟨⟨rfl, .refl _, .refl _, .refl _⟩, h⟩

/-- What is settled stays so while nothing is taken away. -/
theorem LinkedDelivery.Settled.mono (h : l.Settled host config t) (hcatalog : SameCatalog t t')
    (hchanges : ∀ id change, t.changes.get? id = some change → t'.changes.get? id = some change)
    (hevents : ∀ key event, t.events.get? key = some event → t'.events.get? key = some event)
    (hjobs : ∀ key, (Jobs.findByKey t.jobs key).isSome → (Jobs.findByKey t'.jobs key).isSome) :
    l.Settled host config t' := by
  obtain ⟨change, ⟨hid, hstored⟩, hlogged, hqueued⟩ := h
  obtain ⟨event, hevent⟩ := Option.isSome_iff_exists.mp hlogged
  refine ⟨change, ⟨(l.changeId_congr hcatalog).trans hid, hchanges _ _ hstored⟩, ?_,
    fun hdue => hjobs _ (hqueued hdue)⟩
  exact Option.isSome_iff_exists.mpr ⟨event, hevents _ _ hevent⟩

/-- A marked delivery is processed when it is marked so. -/
theorem Progress.processed_iff {status : String} {row : WebhookDelivery}
    (hrow : t.deliveries.get? (deliveryKey l.delivery) = some row) :
    l.Processed (markDelivery l.delivery status t) ↔ status = "processed" := by
  rw [LinkedDelivery.Processed, get?_markDelivery, hrow, Option.map_some, Option.map_some,
    Option.some.injEq, if_pos rfl]
  rfl

/-- The row of a delivery that was new. -/
theorem Progress.addDelivery {row : WebhookDelivery} {deliveries : Table WebhookDelivery.identity}
    (h : Progress host config l p s t) (hinsert : t.deliveries.insert row = some deliveries)
    (hkey : row.identity = deliveryKey l.delivery) (hstatus : row.status ≠ "processed")
    (hcheck : checkDeliveryIdentity l.ids.1 (some l.repository) (some row) = .ok ()) :
    Progress host config l p s { t with deliveries := deliveries } := by
  have hget : deliveries.get? (deliveryKey l.delivery) = some row :=
    Table.get?_inserted hinsert hkey
  have hid : l.changeId host { t with deliveries := deliveries } = l.changeId host t :=
    l.changeId_congr ⟨rfl, rfl⟩
  refine ⟨⟨hid.trans h.adds.changeId, h.adds.changes, h.adds.events, h.adds.jobs⟩,
    h.resumable.linked, ?_, h.resumable.event, h.resumable.keys, fun hprocessed => ?_⟩
  · show checkDeliveryIdentity l.ids.1 (some l.repository)
      (deliveries.get? (deliveryKey l.delivery)) = .ok ()
    rw [hget]
    exact hcheck
  · have hprocessed : (deliveries.get? (deliveryKey l.delivery)).map (·.status) =
        some "processed" := hprocessed
    rw [hget] at hprocessed
    exact absurd (Option.some.inj hprocessed) hstatus

/-- A mark of the delivery; `processed` once everything is there. -/
theorem Progress.markDelivery {status : String} (h : Progress host config l p s t)
    (hsettled : status = "processed" → l.Settled host config t) :
    Progress host config l p s (markDelivery l.delivery status t) := by
  have hcatalog : SameCatalog t (Service.markDelivery l.delivery status t) := ⟨rfl, rfl⟩
  refine ⟨⟨(l.changeId_congr hcatalog).trans h.adds.changeId, h.adds.changes, h.adds.events,
    h.adds.jobs⟩, h.resumable.linked, h.resumable.row.markDelivery, h.resumable.event,
    h.resumable.keys, fun hprocessed => ?_⟩
  cases hrow : t.deliveries.get? (deliveryKey l.delivery) with
  | none =>
    rw [LinkedDelivery.Processed, get?_markDelivery, hrow] at hprocessed
    cases hprocessed
  | some row =>
    have hstatus := (Progress.processed_iff hrow).mp hprocessed
    exact (hsettled hstatus).mono hcatalog (fun _ _ hget => hget) (fun _ _ hget => hget)
      fun _ hfind => hfind

/-- The change of the request, where there was none. -/
theorem Progress.addChange {changes : Table ChangeRecord.id} (h : Progress host config l p s t)
    (hinsert : t.changes.insert change = some changes) (hid : l.changeId host t = some change.id)
    (hworkspace : change.workspaceId = l.connection.workspaceId)
    (hrepository : change.repositoryId = l.repository.id) :
    Progress host config l p s { t with changes := changes } := by
  have hcatalog : SameCatalog t { t with changes := changes } := ⟨rfl, rfl⟩
  refine ⟨⟨(l.changeId_congr hcatalog).trans h.adds.changeId, ?_, h.adds.events, h.adds.jobs⟩, h.resumable.linked,
    h.resumable.row, h.resumable.event, h.resumable.keys, fun hprocessed => ?_⟩
  · show Adds _ _ changes.rows
    rw [(Table.insert_eq_some hinsert).2]
    exact h.adds.changes.snoc ⟨h.adds.changeId.symm.trans hid, hworkspace, hrepository⟩
  · exact (h.resumable.settled hprocessed).mono hcatalog
      (fun _ _ hget => Table.get?_of_insert hinsert hget) (fun _ _ hget => hget)
      fun _ hfind => hfind

/-- The pointer of a scenario. -/
theorem Progress.pointScenario {scenario : Scenario} {id : String}
    (h : Progress host config l p s t) :
    Progress host config l p s (pointScenario scenario id t) := by
  have hcatalog : SameCatalog t (Service.pointScenario scenario id t) := sameCatalog_pointScenario
  refine ⟨⟨(l.changeId_congr hcatalog).trans h.adds.changeId, h.adds.changes, h.adds.events,
    h.adds.jobs⟩, h.resumable.linked, h.resumable.row, h.resumable.event, h.resumable.keys,
    fun hprocessed => ?_⟩
  exact (h.resumable.settled hprocessed).mono hcatalog (fun _ _ hget => hget)
    (fun _ _ hget => hget) fun _ hfind => hfind

/-- The event of the delivery, where there was none. -/
theorem Progress.addEvent {event : OperationalEvent} {events : Table OperationalEvent.identity}
    {entry : AuditEvent} {n : NormalizedDelivery} (h : Progress host config l p s t)
    (hinsert : t.events.insert event = some events)
    (hkey : event.identity = deliveryEventKey l.delivery l.connection)
    (hn : normalizeDelivery host l.delivery l.repository = .ok n)
    (hmaterial : storedEventMaterial host event =
      deliveryMaterial host l.delivery l.connection l.repository n p) :
    Progress host config l p s (addEvent events entry t) := by
  have hcatalog : SameCatalog t (Service.addEvent events entry t) := ⟨rfl, rfl⟩
  refine ⟨⟨(l.changeId_congr hcatalog).trans h.adds.changeId, h.adds.changes, ?_,
    h.adds.jobs⟩, h.resumable.linked, h.resumable.row, fun stored hstored => ?_,
    h.resumable.keys, fun hprocessed => ?_⟩
  · show Adds _ _ events.rows
    rw [(Table.insert_eq_some hinsert).2]
    exact h.adds.events.snoc hkey
  · have hget : events.get? (deliveryEventKey l.delivery l.connection) = some event :=
      Table.get?_inserted hinsert hkey
    obtain rfl := Option.some.inj (hget.symm.trans hstored)
    exact ⟨n, hn, hmaterial⟩
  · exact (h.resumable.settled hprocessed).mono hcatalog (fun _ _ hget => hget)
      (fun _ _ hget => Table.get?_of_insert hinsert hget) fun _ hfind => hfind

/-- The queue after the publication of the request's change. -/
theorem Progress.enqueue {args : Jobs.EnqueueArgs} {job : Jobs.BackgroundJob} {jobs : Jobs.JobTable}
    {id : String} (h : Progress host config l p s t)
    (henqueue : Jobs.enqueueJob t.jobs args = .ok (job, jobs)) (hid : l.changeId host t = some id)
    (hkey : args.idempotencyKey.map Text.strip = some (publicationJobKey l.repository id)) :
    Progress host config l p s { t with jobs := jobs } ∧
      (Jobs.findByKey jobs (publicationJobKey l.repository id)).isSome := by
  have hcatalog : SameCatalog t { t with jobs := jobs } := ⟨rfl, rfl⟩
  have hkeys := h.resumable.keys.enqueueJob henqueue
  obtain ⟨jobType, key, items, hvalid, hcases⟩ := Jobs.enqueueJob_ok henqueue
  obtain rfl := (Jobs.validateEnqueue_key hvalid).trans hkey
  -- either way the rows there were are still there, and one of the key is
  obtain ⟨hadds, hfound, hkept⟩ : Adds (fun job => ∃ id, l.changeId host s = some id ∧
        job.idempotencyKey = some (publicationJobKey l.repository id)) s.jobs.rows jobs.rows ∧
      (Jobs.findByKey jobs (publicationJobKey l.repository id)).isSome ∧
      ∀ row ∈ t.jobs.rows, row ∈ jobs.rows := by
    rcases hcases with ⟨rfl, hfind⟩ | ⟨rfl, -, hinsert⟩
    · exact ⟨h.adds.jobs, Option.isSome_iff_exists.mpr ⟨job, hfind⟩, fun _ hrow => hrow⟩
    · have hrows := (Table.insert_eq_some hinsert).2
      have hnew : Jobs.newJob args jobType (some (publicationJobKey l.repository id)) items ∈
          jobs.rows := by
        rw [hrows]
        exact List.mem_append_right _ (List.mem_singleton.mpr rfl)
      refine ⟨?_, Jobs.findByKey_isSome.mpr ⟨_, hnew, rfl⟩, fun row hrow => ?_⟩
      · rw [hrows]
        exact h.adds.jobs.snoc ⟨id, h.adds.changeId.symm.trans hid, rfl⟩
      · rw [hrows]
        exact List.mem_append_left _ hrow
  refine ⟨⟨⟨(l.changeId_congr hcatalog).trans h.adds.changeId, h.adds.changes, h.adds.events,
    hadds⟩, h.resumable.linked, h.resumable.row, h.resumable.event, hkeys, fun hprocessed => ?_⟩,
    hfound⟩
  refine (h.resumable.settled hprocessed).mono hcatalog (fun _ _ hget => hget)
    (fun _ _ hget => hget) fun key hfind => ?_
  obtain ⟨row, hrow, hrowKey⟩ := Jobs.findByKey_isSome.mp hfind
  exact Jobs.findByKey_isSome.mpr ⟨row, hkept row hrow, hrowKey⟩

end Writes

/-! ## One attempt -/

/-- What an attempt has in its `try`, once the change is there. -/
structure Analyzed (host : Host) (l : LinkedDelivery) (change : ChangeRecord) (s : Store) :
    Prop where
  row : (s.deliveries.get? (deliveryKey l.delivery)).isSome
  stored : l.Stored host s change

section Attempt

variable {host : Host} {config : WebhookConfig} {l : LinkedDelivery} {p : Time} {s : Store}
  {call : WebhookCall} {t : State Store} {change : ChangeRecord}

/-- The call resumes: its commits are progress, and it raises no conflict. -/
abbrev Resumes {α : Type} (host : Host) (config : WebhookConfig) (l : LinkedDelivery) (p : Time)
    (s : Store) (t : State Store) (c : DatabaseCall α) (Q : α → State Store → Prop) : Prop :=
  Safe (Progress host config l p s) t c Q (fun e => isConflict e = false)

/-- The analysis finds its change again or stores it. -/
theorem analyzeChange_resumes {request : AnalyzeChangeRequest} {now : Time}
    (hrequest : pullRequestRequest host l.delivery l.repository = .ok request)
    (hrow : (t.cur.deliveries.get? (deliveryKey l.delivery)).isSome) :
    Resumes host config l p s t
      (analyzeChange host request (connectedScope l.connection l.repository) now)
      (fun change t' => Analyzed host l change t'.cur) := by
  refine Safe.query_bind (fun a ha => ?_) prepareAnalysis_noConflict
  have hid : l.changeId host t.cur = some (a.changeId host) := by
    rw [LinkedDelivery.changeId, LinkedDelivery.analysis, hrequest, Raise.bind_ok, ha]
    rfl
  refine Safe.read_bind ?_
  cases hget : t.cur.changes.get? (a.changeId host) with
  | some existing =>
    have hkey := Table.key_of_get? hget
    exact Safe.pure ⟨hrow, by rw [hid, hkey], by rw [hkey, hget]⟩
  | none =>
    refine Safe.lift_bind (fun record hrecord => ?_) computeChange_noConflict
    obtain ⟨result, -, rfl⟩ := computeChange_ok hrecord
    refine Safe.read_bind ?_
    cases hinsert : t.cur.changes.insert (newChange host a result now) with
    | none => exact Safe.raise rfl
    | some changes =>
      obtain ⟨scenario, hscenario, ha⟩ := Raise.bind_eq_ok.mp ha
      obtain ⟨roots, -, ha⟩ := Raise.bind_eq_ok.mp ha
      obtain rfl := Raise.pure_eq_ok.mp ha
      obtain ⟨hworkspace, hrepository⟩ :=
        (Bool.and_eq_true ..).mp (activeScenario_ok hscenario).2
      refine Safe.write_bind (fun h => h.addChange hinsert hid (of_decide_eq_true hworkspace).symm
        (of_decide_eq_true hrepository).symm) (Safe.commit_bind (Safe.pure ⟨hrow, ?_, ?_⟩))
      · exact (l.changeId_congr ⟨rfl, rfl⟩).trans hid
      · exact Table.get?_inserted hinsert rfl

/-- The event is found again or stored, its time being the delivery's own. -/
theorem githubOperationalEvent_resumes (hcarried : carriedTime host l.delivery = .ok (some p))
    (htime : Admissible call.now p) (hanalyzed : Analyzed host l change t.cur) :
    Resumes host config l p s t
      (githubOperationalEvent host l.delivery l.connection l.repository call)
      (fun _ t' => Analyzed host l change t'.cur ∧ l.Logged t'.cur) := by
  refine Safe.of_all fun hall => Safe.lift_bind (fun n hn => ?_) normalizeDelivery_noConflict
  refine Safe.lift_bind (fun payload hpayload => ?_) validateEvent_noConflict
  obtain ⟨hwell, hadmissible, rfl⟩ := OperationalEventCreate.validate_eq_ok.mp hpayload
  refine Safe.congr (githubOperationalEvent_eq hn hwell hadmissible).symm ?_
  -- the clock does not show: the time is the carried one at every moment
  have hsame : deliveryMaterial host l.delivery l.connection l.repository n call.now =
      deliveryMaterial host l.delivery l.connection l.repository n p := by
    have hn' : n.carried = some p :=
      Except.ok.inj ((normalizeDelivery_carried hn).symm.trans hcarried)
    rw [deliveryMaterial_eq_iff, hn', eventTimestamp_carried htime.1, eventTimestamp_carried]
    exact le_add_of_nonneg_right (by decide)
  rcases githubOperationalEvent_cases hall.cur.resumable.linked hn hwell hadmissible with
    ⟨event, events, entry, -, hkey, hmaterial, hinsert, hrun⟩ | ⟨event, hget, -, hrun⟩ |
    ⟨event, hget, hne, -⟩
  · refine Safe.of_ok hrun (fun hs => (hs.written ?_).committed) ⟨⟨hanalyzed.row, ?_⟩, ?_⟩
    · exact hs.cur.addEvent hinsert hkey hn (hmaterial.trans hsame)
    · exact ⟨(l.changeId_congr ⟨rfl, rfl⟩).trans hanalyzed.stored.1, hanalyzed.stored.2⟩
    · exact Option.isSome_iff_exists.mpr ⟨event, Table.get?_inserted hinsert hkey⟩
  · exact Safe.of_ok hrun (fun hs => hs) ⟨hanalyzed, Option.isSome_iff_exists.mpr ⟨event, hget⟩⟩
  · obtain ⟨n', hn', hmaterial⟩ := hall.cur.resumable.event event hget
    obtain rfl := Except.ok.inj (hn.symm.trans hn')
    exact absurd (hmaterial.trans hsame.symm) hne

/-- The publication is queued once. -/
theorem queuePublication_resumes (hanalyzed : Analyzed host l change t.cur)
    (hlogged : l.Logged t.cur) :
    Resumes host config l p s t
      (queuePublication host config l.delivery call l.connection l.repository change.id)
      (fun _ t' => Analyzed host l change t'.cur ∧ l.Settled host config t'.cur) := by
  -- Where no check is due there is nothing to queue.
  have hidle : l.checkDue host config change = false →
      Analyzed host l change t.cur ∧ l.Settled host config t.cur := fun hdue =>
    ⟨hanalyzed, change, hanalyzed.stored, hlogged, fun h => absurd (hdue.symm.trans h) nofun⟩
  refine Safe.read_bind ?_
  rw [hanalyzed.stored.2]
  cases hsettings : config.settings with
  | none => exact Safe.pure (hidle (by rw [LinkedDelivery.checkDue, hsettings]; rfl))
  | some settings =>
    have hdue : l.checkDue host config change =
        (checksWritable settings l.connection host &&
          changePublishable l.connection l.repository change) := by
      rw [LinkedDelivery.checkDue, hsettings]
      rfl
    show Safe _ t (enqueueGithubCheckPublication host settings l.connection l.repository change _)
      _ _
    unfold enqueueGithubCheckPublication
    rw [← hdue]
    by_cases hwanted : l.checkDue host config change = true
    · rw [if_pos hwanted]
      refine Safe.lift_bind (fun contract _ => ?_) validatePublication_noConflict
      refine Safe.seq (Q := fun _ t' => Analyzed host l change t'.cur ∧
        l.Settled host config t'.cur) ?_ fun _ _ _ h => Safe.pure h
      -- the job is keyed by the change, so queueing it again finds the one queued before
      refine Safe.of_all fun hall => Safe.query_bind (fun queued hqueued => ?_) queueError_noConflict
      have henqueue := Raise.mapError_eq_ok.mp hqueued
      obtain ⟨-, hqueued⟩ := hall.cur.enqueue henqueue hanalyzed.stored.1 rfl
      have hstored : l.Stored host { t.cur with jobs := queued.2 } change :=
        ⟨(l.changeId_congr ⟨rfl, rfl⟩).trans hanalyzed.stored.1, hanalyzed.stored.2⟩
      refine Safe.write_bind (fun h => (h.enqueue henqueue hanalyzed.stored.1 rfl).1) ?_
      exact Safe.pure ⟨⟨hanalyzed.row, hstored⟩, change, hstored, hlogged, fun _ => hqueued⟩
    · rw [if_neg hwanted]
      exact Safe.pure (hidle (Bool.not_eq_true _ ▸ hwanted))

/-- The work of a pull request resumes as a whole. -/
theorem pullRequestBody_resumes (hcarried : carriedTime host l.delivery = .ok (some p))
    (htime : Admissible call.now p)
    (hrow : (t.cur.deliveries.get? (deliveryKey l.delivery)).isSome) :
    Resumes host config l p s t
      (pullRequestBody host config l.delivery call l.connection l.repository)
      (fun _ t' => l.Processed t'.base) := by
  refine Safe.lift_bind (fun request hrequest => ?_) pullRequestRequest_noConflict
  refine Safe.seq (analyzeChange_resumes hrequest hrow) fun change t₁ _ hanalyzed => ?_
  refine Safe.query_bind (fun scenario _ => ?_) activeScenario_noConflict
  refine Safe.write_bind (fun h => h.pointScenario) (Safe.commit_bind ?_)
  have hpointed : Analyzed host l change (pointScenario scenario change.id t₁.cur) :=
    ⟨hanalyzed.row, (l.changeId_congr sameCatalog_pointScenario).trans hanalyzed.stored.1,
      hanalyzed.stored.2⟩
  refine Safe.seq (githubOperationalEvent_resumes hcarried htime hpointed) ?_
  intro event t₂ _ h
  obtain ⟨hanalyzed₂, hlogged⟩ := h
  refine Safe.seq (queuePublication_resumes hanalyzed₂ hlogged) ?_
  intro queued t₃ _ h
  obtain ⟨hanalyzed₃, hsettled⟩ := h
  refine Safe.write_bind (fun h => h.markDelivery fun _ => hsettled) (Safe.commit_bind ?_)
  obtain ⟨row, hget⟩ := Option.isSome_iff_exists.mp hanalyzed₃.row
  exact Safe.pure ((Progress.processed_iff hget).mpr rfl)

/-- An attempt that gets to its end leaves the delivery processed. -/
theorem processPullRequest_resumes (hcarried : carriedTime host l.delivery = .ok (some p))
    (htime : Admissible call.now p)
    (hrow : (t.cur.deliveries.get? (deliveryKey l.delivery)).isSome) :
    Resumes host config l p s t
      (processPullRequest host config l.delivery call l.connection l.repository)
      (fun _ t' => l.Processed t'.base) := by
  refine Safe.write_bind (fun h => h.markDelivery nofun) (Safe.commit_bind ?_)
  refine Safe.rescue (pullRequestBody_resumes hcarried htime ?_) (fun _ _ h => h)
    (fun _ he => he) ?_
  · obtain ⟨row, hget⟩ := Option.isSome_iff_exists.mp hrow
    show ((markDelivery l.delivery "processing" t.cur).deliveries.get? _).isSome
    rw [get?_markDelivery, hget]
    rfl
  · exact fun _ _ => Safe.write_bind (fun h => h.markDelivery nofun) (Safe.commit trivial)

/-- The first commit: the delivery has a row from then on. -/
theorem recordDelivery_resumes (hmonitored : isMonitoredPullRequest host l.delivery = true) :
    Resumes host config l p s t
      (recordDelivery host l.delivery call l.ids.1 l.connection (some l.repository)
        (t.cur.deliveries.get? (deliveryKey l.delivery)))
      (fun _ t' => (t'.cur.deliveries.get? (deliveryKey l.delivery)).isSome) := by
  refine Safe.seq (Q := fun _ t' => (t'.cur.deliveries.get? (deliveryKey l.delivery)).isSome) ?_
    fun _ _ _ hrow => Safe.commit hrow
  cases hget : t.cur.deliveries.get? (deliveryKey l.delivery) with
  | some row => exact Safe.pure (by rw [hget]; rfl)
  | none =>
    refine Safe.read_bind ?_
    cases hinsert : t.cur.deliveries.insert
        (newDelivery host l.delivery call l.ids.1 l.connection (some l.repository)) with
    | none => exact Safe.raise rfl
    | some deliveries =>
      have hstatus : (newDelivery host l.delivery call l.ids.1 l.connection
          (some l.repository)).status = "processing" := by simp [newDelivery, hmonitored]
      refine Safe.write (fun h => h.addDelivery hinsert rfl ?_ ?_) ?_
      · rw [hstatus]
        decide
      · exact Raise.raiseIf_neg (by simp [newDelivery]) _
      · exact Option.isSome_iff_exists.mpr ⟨_, Table.get?_inserted hinsert rfl⟩

/-- Wherever an attempt stops the next one can resume, and what it adds is the
delivery's own. One that returns leaves the delivery processed, and none raises a
conflict. -/
theorem processGithubWebhook_resumes (hsigned : checkSignature host config l.delivery = .ok ())
    (hmonitored : isMonitoredPullRequest host l.delivery = true)
    (hcarried : carriedTime host l.delivery = .ok (some p)) (htime : Admissible call.now p)
    (h : l.Resumable host config p s) :
    Resumes host config l p s (State.start s) (processGithubWebhook host config l.delivery call)
      (fun _ t' => l.Processed t'.base) := by
  have hevent := isReconcilable_of_monitored (Or.inl hmonitored)
  refine Safe.congr (processGithubWebhook_linked hsigned h.linked hevent) ?_
  refine Safe.lift_ok_bind h.row ?_
  by_cases hprocessed : (s.deliveries.get? (deliveryKey l.delivery)).any
      (fun row => decide (row.status = "processed")) = true
  · rw [State.start_cur, if_pos (by rw [hmonitored, hprocessed]; rfl)]
    refine Safe.pure ?_
    obtain ⟨row, hget, hstatus⟩ := (Option.any_eq_true ..).mp hprocessed
    show (s.deliveries.get? (deliveryKey l.delivery)).map (·.status) = some "processed"
    rw [hget, Option.map_some, of_decide_eq_true hstatus]
  · rw [State.start_cur, if_neg (by rw [hmonitored, Bool.true_and]; exact hprocessed)]
    refine Safe.seq (recordDelivery_resumes hmonitored) fun _ t' _ hrow => ?_
    have hrecorded : processRecorded host config l.delivery call l.connection (some l.repository)
        (s.deliveries.get? (deliveryKey l.delivery)).isSome =
          processPullRequest host config l.delivery call l.connection l.repository :=
      if_pos hmonitored
    rw [hrecorded]
    exact processPullRequest_resumes hcarried htime hrow

end Attempt

/-! ## Runs of attempts -/

/-- The database between two attempts, whether one has returned, and whether one
has raised a conflict. -/
structure RecoveryRun where
  store : Store
  completed : Bool
  conflict : Bool

/-- An attempt, with its clock and the identifiers it draws, or other work. -/
inductive RecoveryStep where
  | attempt (call : WebhookCall) (outcome : Outcome)
  | other (store : Store)

/-- How an attempt ended that was not stopped. -/
def attemptResult (host : Host) (config : WebhookConfig) (d : GithubDelivery) (call : WebhookCall)
    (s : Store) : Outcome → Option (Except ServiceError WebhookResponse)
  | .completed => some ((processGithubWebhook host config d call).run s).1
  | .crashed _ | .failed _ => none

def hasReturned : Option (Except ServiceError WebhookResponse) → Bool
  | some (.ok _) => true
  | _ => false

def hasConflicted : Option (Except ServiceError WebhookResponse) → Bool
  | some (.error e) => isConflict e
  | _ => false

/-- Attempts at one delivery after another, on a database that has not seen it. -/
def recoverySystem (host : Host) (config : WebhookConfig) (l : LinkedDelivery) :
    System RecoveryRun RecoveryStep where
  init r := Linked host l.delivery l.connection l.repository l.ids r.store ∧
    r.store.deliveries.get? (deliveryKey l.delivery) = none ∧
    r.store.events.get? (deliveryEventKey l.delivery l.connection) = none ∧
    Jobs.UniqueKeys r.store.jobs ∧ r.completed = false ∧ r.conflict = false
  next r
    | .attempt call outcome =>
      let result := attemptResult host config l.delivery call r.store outcome
      (attempt host config l.delivery call r.store outcome).map fun store =>
        { store
          completed := r.completed || hasReturned result
          conflict := r.conflict || hasConflicted result }
    | .other store => some { r with store }

/-- What the rest of the service may do meanwhile: the connections, the
repositories, the catalog and the topology stay as they are, the row and the
event of the delivery are left alone, its change and its job are not taken away. -/
structure Apart (host : Host) (config : WebhookConfig) (l : LinkedDelivery) (s t : Store) :
    Prop where
  connections : t.connections = s.connections
  repositories : t.repositories = s.repositories
  catalog : SameCatalog s t
  delivery : t.deliveries.get? (deliveryKey l.delivery) = s.deliveries.get? (deliveryKey l.delivery)
  event : t.events.get? (deliveryEventKey l.delivery l.connection) =
    s.events.get? (deliveryEventKey l.delivery l.connection)
  change : ∀ change, l.Stored host s change → ∃ change', l.Stored host t change' ∧
    l.checkDue host config change' = l.checkDue host config change
  keys : Jobs.UniqueKeys t.jobs
  jobs : ∀ key, (Jobs.findByKey s.jobs key).isSome → (Jobs.findByKey t.jobs key).isSome

/-- The schema accepts the carried time at the moment of every attempt. -/
def AcceptedStep (host : Host) (config : WebhookConfig) (l : LinkedDelivery) (p : Time)
    (r : RecoveryRun) : RecoveryStep → Prop
  | .attempt call _ => Admissible call.now p
  | .other store => Apart host config l r.store store

section Runs

variable {host : Host} {config : WebhookConfig} {l : LinkedDelivery} {p : Time}
  {r r' : RecoveryRun} {s t : Store}

/-- What others do elsewhere leaves the delivery resumable. -/
theorem Apart.resumable (h : Apart host config l s t) (hs : l.Resumable host config p s) :
    l.Resumable host config p t := by
  refine ⟨?_, ?_, ?_, h.keys, fun hprocessed => ?_⟩
  · obtain ⟨hids, hconnection, hrepository⟩ := hs.linked
    refine ⟨hids, ?_, ?_⟩
    · rw [findConnection, h.connections]
      exact hconnection
    · rw [findRepository, h.repositories]
      exact hrepository
  · rw [Matches, h.delivery]
    exact hs.row
  · rw [h.event]
    exact hs.event
  · rw [LinkedDelivery.Processed, h.delivery] at hprocessed
    obtain ⟨change, hstored, hlogged, hqueued⟩ := hs.settled hprocessed
    obtain ⟨change', hstored', hdue⟩ := h.change change hstored
    have hid : change'.id = change.id := by
      have hsame := (l.changeId_congr h.catalog).symm.trans hstored'.1
      exact Option.some.inj (hsame.symm.trans hstored.1)
    refine ⟨change', hstored', by rw [LinkedDelivery.Logged, h.event]; exact hlogged, ?_⟩
    intro hdue'
    rw [hid]
    exact h.jobs _ (hqueued (hdue ▸ hdue'))

/-- What holds between the attempts. -/
structure RecoveryInv (host : Host) (config : WebhookConfig) (l : LinkedDelivery) (p : Time)
    (r : RecoveryRun) : Prop where
  resumable : l.Resumable host config p r.store
  completed : r.completed = true → l.Processed r.store
  conflict : r.conflict = false

/-- What one attempt adds is the delivery's own. -/
theorem attempt_progress {call : WebhookCall} {outcome : Outcome}
    (hsigned : checkSignature host config l.delivery = .ok ())
    (hmonitored : isMonitoredPullRequest host l.delivery = true)
    (hcarried : carriedTime host l.delivery = .ok (some p)) (htime : Admissible call.now p)
    (hs : l.Resumable host config p s)
    (h : attempt host config l.delivery call s outcome = some t) :
    Progress host config l p s t :=
  attempt_keeps (processGithubWebhook_resumes hsigned hmonitored hcarried htime hs)
    (fun _ _ ht => ht.markDelivery nofun) (.start hs) h

/-- An attempt that returned left the delivery processed; one that raised, raised
no conflict. -/
theorem attempt_result {call : WebhookCall} {outcome : Outcome}
    (hsigned : checkSignature host config l.delivery = .ok ())
    (hmonitored : isMonitoredPullRequest host l.delivery = true)
    (hcarried : carriedTime host l.delivery = .ok (some p)) (htime : Admissible call.now p)
    (hs : l.Resumable host config p s)
    (h : attempt host config l.delivery call s outcome = some t) :
    (hasReturned (attemptResult host config l.delivery call s outcome) = true → l.Processed t) ∧
      hasConflicted (attemptResult host config l.delivery call s outcome) = false := by
  have hsafe : Resumes host config l p s (State.start s)
      (processGithubWebhook host config l.delivery call) (fun _ t' => l.Processed t'.base) :=
    processGithubWebhook_resumes hsigned hmonitored hcarried htime hs
  cases outcome with
  | crashed _ => exact ⟨nofun, rfl⟩
  | failed _ => exact ⟨nofun, rfl⟩
  | completed =>
    obtain rfl := Option.some.inj h
    cases hrun : (processGithubWebhook host config l.delivery call).run s with
    | mk result store =>
      unfold attemptResult
      rw [hrun]
      cases result with
      | error e => exact ⟨nofun, (hsafe.run_error (.start hs) hrun).2⟩
      | ok response =>
        obtain ⟨-, s', rfl, hprocessed⟩ := hsafe.run_ok (.start hs) hrun
        exact ⟨fun _ => hprocessed, rfl⟩

/-- Every accepted step keeps the recovery's invariant. -/
theorem recoveryInv_step {step : RecoveryStep}
    (hsigned : checkSignature host config l.delivery = .ok ())
    (hmonitored : isMonitoredPullRequest host l.delivery = true)
    (hcarried : carriedTime host l.delivery = .ok (some p)) (h : RecoveryInv host config l p r)
    (haccepted : AcceptedStep host config l p r step)
    (hnext : (recoverySystem host config l).next r step = some r') :
    RecoveryInv host config l p r' := by
  cases step with
  | other store =>
    obtain rfl := Option.some.inj hnext
    refine ⟨haccepted.resumable h.resumable, fun hcompleted => ?_, h.conflict⟩
    rw [LinkedDelivery.Processed, haccepted.delivery]
    exact h.completed hcompleted
  | attempt call outcome =>
    obtain ⟨store, hattempt, rfl⟩ := Option.map_eq_some_iff.mp hnext
    have hprogress := attempt_progress hsigned hmonitored hcarried haccepted h.resumable hattempt
    obtain ⟨hreturned, hconflict⟩ :=
      attempt_result hsigned hmonitored hcarried haccepted h.resumable hattempt
    refine ⟨hprogress.resumable, fun hcompleted => ?_, ?_⟩
    · rcases (Bool.or_eq_true ..).mp hcompleted with hbefore | hnow
      · -- it was processed before, and stays so
        obtain ⟨row, hrow, hstatus⟩ := Option.map_eq_some_iff.mp (h.completed hbefore)
        show (store.deliveries.get? (deliveryKey l.delivery)).map (·.status) = some "processed"
        rw [(attempt_persists hattempt).processed _ row hrow hstatus, Option.map_some, hstatus]
      · exact hreturned hnow
    · show (r.conflict || hasConflicted _) = false
      rw [h.conflict, hconflict]
      rfl

theorem recoveryInv_reachable (hsigned : checkSignature host config l.delivery = .ok ())
    (hmonitored : isMonitoredPullRequest host l.delivery = true)
    (hcarried : carriedTime host l.delivery = .ok (some p))
    (h : ReachableBy (recoverySystem host config l) (AcceptedStep host config l p) r) :
    RecoveryInv host config l p r := by
  refine Invariant.reachable ⟨fun r hinit => ?_, fun r step r' hr haccepted hnext =>
    recoveryInv_step hsigned hmonitored hcarried hr haccepted hnext⟩ h
  obtain ⟨hlinked, hnew, hunseen, hkeys, hcompleted, hconflict⟩ := hinit
  refine ⟨⟨hlinked, ?_, fun event hevent => ?_, hkeys, fun hprocessed => ?_⟩, fun h => ?_, hconflict⟩
  · rw [Matches, hnew]
    rfl
  · rw [hunseen] at hevent
    cases hevent
  · rw [LinkedDelivery.Processed, hnew] at hprocessed
    cases hprocessed
  · rw [hcompleted] at h
    cases h

/-- What is settled is there exactly once. -/
theorem LinkedDelivery.Settled.once (h : l.Settled host config s) (hkeys : Jobs.UniqueKeys s.jobs) :
    ∃ change event, l.changes host s = [change] ∧ l.events s = [event] ∧
      (l.checkDue host config change = true → ∃ job, l.jobs s change.id = [job]) := by
  obtain ⟨change, ⟨hid, hstored⟩, hlogged, hqueued⟩ := h
  obtain ⟨event, hevent⟩ := Option.isSome_iff_exists.mp hlogged
  refine ⟨change, event, ?_, Table.select_key hevent, fun hdue => ?_⟩
  · have hmem := Table.mem_of_get? hstored
    refine Table.select_eq_singleton hmem (decide_eq_true hid) fun row hrow hsame => ?_
    exact s.changes.eq_of_key_eq hrow hmem
      (Option.some.inj ((of_decide_eq_true hsame).symm.trans hid))
  · obtain ⟨job, hjob⟩ := Option.isSome_iff_exists.mp (hqueued hdue)
    exact ⟨job, hkeys.select_key hjob⟩

/-- **Pull request recovery.** Attempts at a monitored delivery follow one
another, each of them completed, crashed after any commit or failed anywhere in
its `try`, while the rest of the service leaves alone what they rely on. In every
state they reach there is at most one change of the request, one event of the
delivery and one publication of the change, no attempt has raised a conflict, and
what the next attempt adds is the delivery's own. Once an attempt has returned,
the delivery is processed and each of them is there. -/
theorem pull_request_recovery (hsigned : checkSignature host config l.delivery = .ok ())
    (hmonitored : isMonitoredPullRequest host l.delivery = true)
    (hcarried : carriedTime host l.delivery = .ok (some p))
    (h : ReachableBy (recoverySystem host config l) (AcceptedStep host config l p) r) :
    (l.changes host r.store).length ≤ 1 ∧ (l.events r.store).length ≤ 1 ∧
      (∀ id, (l.jobs r.store id).length ≤ 1) ∧ r.conflict = false ∧
      (r.completed = true → l.Processed r.store ∧ ∃ change event,
        l.changes host r.store = [change] ∧ l.events r.store = [event] ∧
          (l.checkDue host config change = true → ∃ job, l.jobs r.store change.id = [job])) ∧
      ∀ call outcome store, Admissible call.now p →
        attempt host config l.delivery call r.store outcome = some store →
          AddsOwn host l r.store store := by
  have hinv := recoveryInv_reachable hsigned hmonitored hcarried h
  have hkeys := hinv.resumable.keys
  refine ⟨Table.length_select_le_one ?_, Table.length_select_le_one ?_, fun id =>
    Table.length_select_le_one ?_, hinv.conflict, fun hcompleted => ?_, ?_⟩
  · intro row hrow row' hrow' hid hid'
    have hsame := (of_decide_eq_true hid).symm.trans (of_decide_eq_true hid')
    exact Table.eq_of_key_eq _ hrow hrow' (Option.some.inj hsame)
  · intro row hrow row' hrow' hkey hkey'
    exact Table.eq_of_key_eq _ hrow hrow' ((of_decide_eq_true hkey).trans
      (of_decide_eq_true hkey').symm)
  · intro job hjob job' hjob' hkey hkey'
    exact hkeys job hjob job' hjob' _ (of_decide_eq_true hkey) (of_decide_eq_true hkey')
  · have hprocessed := hinv.completed hcompleted
    exact ⟨hprocessed, (hinv.resumable.settled hprocessed).once hkeys⟩
  · intro call outcome store htime hattempt
    exact (attempt_progress hsigned hmonitored hcarried htime hinv.resumable hattempt).adds

end Runs

/-! ## A worker that dies before the last commit -/

/-- A `pull_request` delivery of the repository. -/
def pullDelivery : GithubDelivery :=
  { runDelivery with
    eventType := "pull_request"
    payload := [("action", .str "opened"), ("installation", .dict [("id", .int 7)]),
      ("repository", .dict [("id", .int 9)]),
      ("pull_request", .dict [("title", .str "Retry limit"), ("changed_files", .int 1),
        ("updated_at", .str "1970-01-01T00:00:00Z")])] }

/-- The delivery of a connection that may write checks. -/
def pullLinked : LinkedDelivery where
  delivery := pullDelivery
  connection := { checkoutConnection with permissions := [("checks", .str "write")] }
  repository := checkoutRepository
  ids := ("7", "9")

def pullConfig : WebhookConfig := { webhookConfig with settings := some ⟨true⟩ }

def checkoutScenario : Scenario where
  id := "sc-1"
  workspaceId := "ws-1"
  repositoryId := "rep-1"
  dataMode := "connected"
  isActive := true
  sortOrder := 0
  activeChangeId := none
  activeIncidentId := none
  serviceGraph := ⟨[], [], .none⟩

def pullStore : Store :=
  { checkoutStore with
    connections := ⟨[pullLinked.connection], by decide⟩
    scenarios := ⟨[checkoutScenario], by decide⟩ }

/-- The first attempt dies with the event stored; the second, a minute later, returns. -/
def pullSteps : List RecoveryStep :=
  [.attempt (webhookCall 0) (.crashed 5), .attempt (webhookCall (seconds 60)) .completed]

def pullRun : RecoveryRun :=
  ((recoverySystem epochHost pullConfig pullLinked).run ⟨pullStore, false, false⟩ pullSteps).getD
    ⟨pullStore, false, false⟩

/-- A pull request whose first attempt died. -/
theorem pull_request_recovery_retried :
    pullRun.completed = true ∧ pullRun.conflict = false ∧ pullLinked.Processed pullRun.store ∧
      ∃ change event job, pullLinked.changes epochHost pullRun.store = [change] ∧
        pullLinked.events pullRun.store = [event] ∧
        pullLinked.jobs pullRun.store change.id = [job] := by
  have hend : ((recoverySystem epochHost pullConfig pullLinked).run ⟨pullStore, false, false⟩
      pullSteps).any (fun r => r.completed && r.store.changes.rows.all fun change =>
        pullLinked.checkDue epochHost pullConfig change) = true := by decide +kernel
  obtain ⟨r, hrun, hr⟩ := (Option.any_eq_true ..).mp hend
  obtain ⟨hcompleted, hdue⟩ := (Bool.and_eq_true ..).mp hr
  have hreach : ReachableBy (recoverySystem epochHost pullConfig pullLinked)
      (AcceptedStep epochHost pullConfig pullLinked 0) r := by
    have hkeys : Jobs.UniqueKeys pullStore.jobs := fun _ hjob => absurd hjob List.not_mem_nil
    refine ReachableBy.of_run (.init ⟨by decide +kernel, rfl, rfl, hkeys, rfl, rfl⟩) ?_ hrun
    intro step hstep t
    rw [pullSteps, List.mem_cons, List.mem_singleton] at hstep
    rcases hstep with rfl | rfl
    · exact ⟨by decide, by decide⟩
    · exact ⟨by decide, by decide⟩
  obtain ⟨-, -, -, hconflict, hend, -⟩ := pull_request_recovery (by decide +kernel)
    (by decide +kernel) (by decide +kernel) hreach
  obtain ⟨hprocessed, change, event, hchanges, hevents, hjobs⟩ := hend hcompleted
  have hmem : change ∈ r.store.changes.rows :=
    (Table.mem_select.mp (hchanges ▸ List.mem_singleton_self change)).1
  obtain ⟨job, hjob⟩ := hjobs (List.all_eq_true.mp hdue change hmem)
  rw [show pullRun = r by rw [pullRun, hrun, Option.getD_some]]
  exact ⟨hcompleted, hconflict, hprocessed, change, event, job, hchanges, hevents, hjob⟩

end DeployGuard.Service
