import Mathlib.Data.List.Dedup
import DeployGuard.Service.Redelivery
import DeployGuard.Service.Revocation

/-!
# Connections that are not connected

A connection waits for a signed installation event (`pending_verification`), or
is revoked. Neither the webhook branches nor the synchronisation look at the
state: what keeps a delivery from being processed is that its repository is not
selected, and synchronisation selects repositories in any state.
-/

namespace DeployGuard.Service

open Raise Session Session.Call Transition

/-- The delivery is of an installation whose connection is not connected. -/
structure Unverified (host : Host) (d : GithubDelivery) (connection : ProviderConnection)
    (ids : String × String) (s : Store) : Prop where
  reads : payloadIds host d.payload = .ok ids
  found : findConnection s ids.1 = some connection
  state : connection.connectionState ≠ "connected"

/-- No change, event, deployment or job is new or different. -/
def Untouched (s s' : Store) : Prop := Unaffected s s' ∧ s'.deployments = s.deployments

theorem Untouched.refl (s : Store) : Untouched s s := ⟨⟨rfl, rfl, rfl⟩, rfl⟩

/-- The delivery is of a repository that is not selected, or of a kind that is
only recorded. -/
def Passive (host : Host) (d : GithubDelivery) (connection : ProviderConnection)
    (ids : String × String) (s : Store) : Prop :=
  findRepository s (some connection) ids.2 = none ∨
    (isMonitoredPullRequest host d = false ∧ isRunEvent d.eventType = false)

/-! ## Webhooks -/

section Webhooks

variable {host : Host} {config : WebhookConfig} {d : GithubDelivery} {call : WebhookCall}
  {connection : ProviderConnection} {ids : String × String} {s : Store}

theorem addDelivery_untouched {t : State Store} {row : WebhookDelivery} :
    Safe (Untouched s) t (addDelivery row) (fun _ _ => True) (fun _ => True) := by
  refine Safe.read_bind ?_
  split
  · exact Safe.write (fun h => h) trivial
  · exact Safe.raise trivial

/-- A passive delivery leaves its row and nothing else. -/
theorem processGithubWebhook_passive (hevent : isInstallationEvent d.eventType = false)
    (hunverified : Unverified host d connection ids s) (hpassive : Passive host d connection ids s) :
    Safe (Untouched s) (State.start s) (processGithubWebhook host config d call)
      (fun _ _ => True) (fun _ => True) := by
  refine Safe.lift_bind (fun _ _ => Safe.read_bind ?_) fun _ _ => trivial
  split
  · exact Safe.pure trivial
  · refine Safe.lift_ok_bind hunverified.reads (Safe.read_bind (Safe.read_bind ?_))
    rw [State.start_cur, hunverified.found, processLinked, if_neg (by simp [hevent])]
    refine Safe.lift_bind (fun _ _ => ?_) fun _ _ => trivial
    split
    · exact Safe.pure trivial
    · refine Safe.seq (Q := fun _ _ => True) ?_ fun _ t _ _ => ?_
      · refine Safe.seq (Q := fun _ _ => True) ?_ fun _ _ _ _ => Safe.commit trivial
        cases s.deliveries.get? (deliveryKey d) with
        | none => exact addDelivery_untouched
        | some row => exact Safe.pure trivial
      · rcases hpassive with hrepository | ⟨hmonitored, hrun⟩
        · rw [hrepository]
          exact Safe.pure trivial
        · unfold processRecorded
          split
          · exact Safe.pure trivial
          · rw [if_neg (by simp [hmonitored]), if_neg (by simp [hrun])]
            exact Safe.pure trivial

/-- A publication writes the queue at most. -/
theorem enqueueGithubCheckPublication_ok {settings : Settings} {repository : Repository}
    {change : ChangeRecord} {context : IntentContext} {t t' : State Store}
    {queued : Option Jobs.BackgroundJob}
    (h : enqueueGithubCheckPublication host settings connection repository change context t =
      (.ok queued, t')) : ∃ jobs, t' = t.written fun s => { s with jobs := jobs } := by
  unfold enqueueGithubCheckPublication at h
  by_cases hwanted : (checksWritable settings connection host &&
      changePublishable connection repository change) = true
  · rw [if_pos hwanted] at h
    obtain ⟨contract, -, h⟩ := Call.lift_bind_eq_ok.mp h
    obtain ⟨job, t₁, hjob, h⟩ := Call.bind_eq_ok.mp h
    obtain ⟨queue, -, hjob⟩ := Call.query_bind_eq_ok.mp hjob
    obtain ⟨-, rfl⟩ := Prod.mk.inj hjob
    obtain ⟨-, rfl⟩ := Call.pure_eq_ok.mp h
    exact ⟨queue.2, rfl⟩
  · rw [if_neg hwanted] at h
    obtain ⟨-, rfl⟩ := Call.pure_eq_ok.mp h
    exact ⟨t.cur.jobs, rfl⟩

theorem queuePublication_ok {repository : Repository} {changeId : String} {t t' : State Store}
    {queued : Option Jobs.BackgroundJob}
    (h : queuePublication host config d call connection repository changeId t =
      (.ok queued, t')) : ∃ jobs, t' = t.written fun s => { s with jobs := jobs } := by
  rw [queuePublication, read_bind_apply] at h
  cases hsettings : config.settings with
  | none =>
    rw [hsettings] at h
    obtain ⟨-, rfl⟩ := Call.pure_eq_ok.mp h
    exact ⟨t.cur.jobs, rfl⟩
  | some settings =>
    cases hchange : t.cur.changes.get? changeId with
    | none =>
      rw [hsettings, hchange] at h
      obtain ⟨-, rfl⟩ := Call.pure_eq_ok.mp h
      exact ⟨t.cur.jobs, rfl⟩
    | some change =>
      rw [hsettings, hchange] at h
      exact enqueueGithubCheckPublication_ok h

/-- A pull request whose processing returned has its event in the ledger. -/
theorem pullRequestBody_stored {repository : Repository} {t t' : State Store}
    {response : WebhookResponse} (hlinked : Linked host d connection repository ids t.cur)
    (h : pullRequestBody host config d call connection repository t = (.ok response, t')) :
    ∃ event, t'.base.events.get? (deliveryEventKey d connection) = some event := by
  obtain ⟨request, -, h⟩ := Call.lift_bind_eq_ok.mp h
  obtain ⟨change, t₁, hchange, h⟩ := Call.bind_eq_ok.mp h
  obtain ⟨scenario, -, h⟩ := Call.query_bind_eq_ok.mp h
  rw [write_bind_apply, commit_bind_apply] at h
  obtain ⟨event, t₂, hevent, h⟩ := Call.bind_eq_ok.mp h
  obtain ⟨queued, t₃, hqueued, h⟩ := Call.bind_eq_ok.mp h
  rw [write_bind_apply, commit_bind_apply] at h
  obtain ⟨-, rfl⟩ := Call.pure_eq_ok.mp h
  obtain ⟨jobs, rfl⟩ := queuePublication_ok hqueued
  have hlinked₁ : Linked host d connection repository ids
      (t₁.written (pointScenario scenario change.id)).committed.cur := by
    obtain ⟨a, -, ⟨-, rfl⟩ | ⟨changes, -, -, rfl⟩⟩ := analyzeChange_ok hchange
    · exact hlinked
    · exact hlinked
  obtain ⟨n, -, -, hget, -⟩ := githubOperationalEvent_stored hlinked₁ hevent
  exact ⟨event, hget⟩

theorem isReconcilable_of_monitored
    (h : isMonitoredPullRequest host d = true ∨ isRunEvent d.eventType = true) :
    isReconcilable d.eventType = true := by
  rcases h with h | h
  · rw [isMonitoredPullRequest, Bool.and_eq_true, beq_iff_eq] at h
    rw [h.1]
    rfl
  · exact (isReconcilable_of_isRunEvent host h).1

/-- A new delivery of a selected repository that is monitored and whose
processing returned has its event in the ledger. -/
theorem processGithubWebhook_stored {repository : Repository} {s' : State Store}
    {response : WebhookResponse} (hlinked : Linked host d connection repository ids s)
    (hmonitored : isMonitoredPullRequest host d = true ∨ isRunEvent d.eventType = true)
    (hnew : s.deliveries.get? (deliveryKey d) = none)
    (h : processGithubWebhook host config d call (State.start s) = (.ok response, s')) :
    ∃ event, s'.base.events.get? (deliveryEventKey d connection) = some event := by
  have hevent := isReconcilable_of_monitored hmonitored
  by_cases hrun : isRunEvent d.eventType = true
  · obtain ⟨n, event, -, -, hrecorded⟩ := (firstCall_ok hlinked hevent h).2 hrun
    exact ⟨event, hrecorded.stored⟩
  · have hpull : isMonitoredPullRequest host d = true := hmonitored.resolve_right hrun
    rw [processGithubWebhook_linked (processGithubWebhook_signed h) hlinked hevent,
      State.start_cur, hnew] at h
    obtain ⟨u, -, h⟩ := Call.lift_bind_eq_ok.mp h
    have h : (recordDelivery host d call ids.1 connection (some repository) none >>= fun _ =>
        processRecorded host config d call connection (some repository) false) (State.start s) =
          (.ok response, s') := by
      rw [← h]
      show _ = (if _ then _ else _ : DatabaseCall _) _
      rw [if_neg (by simp)]
      rfl
    obtain ⟨u, t, hrecord, h⟩ := Call.bind_eq_ok.mp h
    obtain ⟨deliveries, hcur⟩ := recordDelivery_ok hrecord
    have hlinked₁ : Linked host d connection repository ids t.cur := by
      rw [hcur]
      exact hlinked
    rw [show processRecorded host config d call connection (some repository) false =
      processPullRequest host config d call connection repository from if_pos hpull,
      processPullRequest, write_bind_apply, commit_bind_apply] at h
    exact pullRequestBody_stored (t := (t.written (markDelivery d "processing")).committed)
      hlinked₁ (Call.rescue_eq_ok.mp h)

/-- A new delivery whose processing returned and touched nothing is passive. -/
theorem passive_of_untouched {s' : Store} {response : WebhookResponse}
    (hunverified : Unverified host d connection ids s)
    (hnew : s.deliveries.get? (deliveryKey d) = none)
    (hunseen : s.events.get? (deliveryEventKey d connection) = none)
    (hrun : (processGithubWebhook host config d call).run s = (.ok response, s'))
    (h : Untouched s s') : Passive host d connection ids s := by
  by_contra hactive
  obtain ⟨hrepository, hmonitored⟩ := not_or.mp hactive
  obtain ⟨repository, hrepository⟩ := Option.ne_none_iff_exists'.mp hrepository
  have hmonitored : isMonitoredPullRequest host d = true ∨ isRunEvent d.eventType = true := by
    by_contra hneither
    rw [not_or, Bool.not_eq_true, Bool.not_eq_true] at hneither
    exact hmonitored hneither
  have hlinked : Linked host d connection repository ids s :=
    ⟨hunverified.reads, hunverified.found, hrepository⟩
  rw [run_def] at hrun
  obtain ⟨hresult, rfl⟩ := Prod.mk.inj hrun
  obtain ⟨event, hevent⟩ := processGithubWebhook_stored hlinked hmonitored hnew
    (Prod.ext hresult rfl)
  rw [h.1.1, hunseen] at hevent
  cases hevent

end Webhooks

/-! ## Synchronisation -/

/-- The repository is in use: selected and connected. -/
def InUse (row : Repository) : Prop := row.selected = true ∧ row.connectionState = "connected"

instance (row : Repository) : Decidable (InUse row) := inferInstanceAs (Decidable (_ ∧ _))

/-- A row of the workspace for the provider's id is in use. -/
def Imported (workspaceId providerId : String) (s : Store) : Prop :=
  ∃ row ∈ s.repositories.rows, isWorkspaceRepository workspaceId row = true ∧
    row.providerRepositoryId = providerId ∧ InUse row

/-- The rows found at the start are still there, under the names they had. -/
def StillListed (existing : List Repository) (s : Store) : Prop :=
  ∀ row ∈ existing, ∃ row' ∈ s.repositories.rows, row'.id = row.id ∧
    row'.workspaceId = row.workspaceId ∧ row'.provider = row.provider ∧
    row'.providerRepositoryId = row.providerRepositoryId

section Sync

variable {host : Host} {q : ProviderRequest} {existing : List Repository}

/-- What one more synchronised repository does to the rows. -/
structure Imports (q : ProviderRequest) (existing : List Repository) (providerId : String)
    (s s' : Store) : Prop where
  listed : StillListed existing s'
  imported : Imported q.workspaceId providerId s'
  kept : ∀ id, Imported q.workspaceId id s → Imported q.workspaceId id s'

theorem importedRepository_inUse {providerId newId : String} {source : RepositorySource} :
    isWorkspaceRepository q.workspaceId (importedRepository q providerId newId source) = true ∧
      (importedRepository q providerId newId source).providerRepositoryId = providerId ∧
      InUse (importedRepository q providerId newId source) :=
  ⟨by simp [isWorkspaceRepository, importedRepository], rfl, rfl, rfl⟩

theorem addRepository_imports {providerId newId : String} {source : RepositorySource}
    {t t' : State Store} {repository : Repository} (hlisted : StillListed existing t.cur)
    (h : addRepository (importedRepository q providerId newId source) t = (.ok repository, t')) :
    Imports q existing providerId t.cur t'.cur := by
  let row := importedRepository q providerId newId source
  rw [addRepository, read_bind_apply] at h
  cases hinsert : t.cur.repositories.insert row with
  | none =>
    rw [hinsert] at h
    cases h
  | some repositories =>
    rw [hinsert] at h
    obtain ⟨-, rfl⟩ := Prod.mk.inj h
    have hrows : ((t.written fun s => { s with repositories := repositories }).cur).repositories.rows
        = t.cur.repositories.rows ++ [row] := (Table.insert_eq_some hinsert).2
    refine ⟨fun old hold => ?_, ?_, fun id => ?_⟩
    · obtain ⟨row', hrow', hsame⟩ := hlisted old hold
      exact ⟨row', hrows ▸ List.mem_append_left _ hrow', hsame⟩
    · exact ⟨row, hrows ▸ List.mem_append_right _ (List.mem_singleton.mpr rfl),
        importedRepository_inUse⟩
    · intro h
      obtain ⟨row', hrow', hsame⟩ := h
      exact ⟨row', hrows ▸ List.mem_append_left _ hrow', hsame⟩

/-- A refresh leaves the names of a row alone. -/
theorem refreshRepository_names (q : ProviderRequest) (source : RepositorySource)
    (old row : Repository) :
    let row' := if row.id = old.id then refreshRepository q source row else row
    row'.id = row.id ∧ row'.workspaceId = row.workspaceId ∧ row'.provider = row.provider ∧
      row'.providerRepositoryId = row.providerRepositoryId := by
  intro row'
  by_cases hid : row.id = old.id
  · rw [show row' = refreshRepository q source row from if_pos hid]
    exact ⟨rfl, rfl, rfl, rfl⟩
  · rw [show row' = row from if_neg hid]
    exact ⟨rfl, rfl, rfl, rfl⟩

theorem updateRepository_imports {providerId : String} {source : RepositorySource}
    {t t' : State Store} {old repository : Repository} (hlisted : StillListed existing t.cur)
    (hold : old ∈ existing) (hworkspaceOld : isWorkspaceRepository q.workspaceId old = true)
    (hproviderOld : old.providerRepositoryId = providerId)
    (h : updateRepository q source old t = (.ok repository, t')) :
    Imports q existing providerId t.cur t'.cur := by
  obtain ⟨-, rfl⟩ := Prod.mk.inj h
  -- The update is a map over the rows, which keeps every name.
  let refreshed (row : Repository) :=
    if row.id = old.id then refreshRepository q source row else row
  have hmem : ∀ row ∈ t.cur.repositories.rows, refreshed row ∈
      (t.cur.repositories.updateWhere (fun row => row.id = old.id)
        (refreshRepository q source) (refreshRepository_id q source)).rows := by
    intro row hrow
    rw [Table.mem_updateWhere]
    simp only [decide_eq_true_eq]
    exact ⟨row, hrow, rfl⟩
  refine ⟨fun other hother => ?_, ?_, fun id => ?_⟩
  · obtain ⟨row, hrow, hid, hworkspace, hprovider, hproviderId⟩ := hlisted other hother
    obtain ⟨hid', hworkspace', hprovider', hproviderId'⟩ :=
      refreshRepository_names q source old row
    exact ⟨refreshed row, hmem row hrow, hid'.trans hid, hworkspace'.trans hworkspace,
      hprovider'.trans hprovider, hproviderId'.trans hproviderId⟩
  · -- the row of the listed repository is refreshed, hence in use
    obtain ⟨row, hrow, hid, hworkspace, hprovider, hproviderId⟩ := hlisted old hold
    have hrefreshed : refreshed row = refreshRepository q source row := if_pos hid
    refine ⟨refreshed row, hmem row hrow, ?_, ?_, ?_⟩
    · rw [hrefreshed]
      simp only [isWorkspaceRepository, decide_eq_true_eq] at hworkspaceOld ⊢
      exact ⟨hworkspace.trans hworkspaceOld.1, hprovider.trans hworkspaceOld.2⟩
    · rw [hrefreshed]
      exact hproviderId.trans hproviderOld
    · rw [hrefreshed]
      exact ⟨rfl, rfl⟩
  · intro h
    obtain ⟨row, hrow, hworkspace, hproviderId, hinUse⟩ := h
    obtain ⟨-, hworkspace', hprovider', hproviderId'⟩ :=
      refreshRepository_names q source old row
    refine ⟨refreshed row, hmem row hrow, ?_, hproviderId'.trans hproviderId, ?_⟩
    · simp only [isWorkspaceRepository, decide_eq_true_eq] at hworkspace ⊢
      exact ⟨hworkspace'.trans hworkspace.1, hprovider'.trans hworkspace.2⟩
    · -- a row in use stays in use, refreshed or not
      by_cases hid : row.id = old.id
      · rw [show refreshed row = refreshRepository q source row from if_pos hid]
        exact ⟨rfl, rfl⟩
      · rw [show refreshed row = row from if_neg hid]
        exact hinUse

theorem storeRepository_imports {providerId newId : String} {source : RepositorySource}
    {t t' : State Store} {repository : Repository}
    (hexisting : ∀ row ∈ existing, isWorkspaceRepository q.workspaceId row = true)
    (hlisted : StillListed existing t.cur)
    (h : storeRepository q existing providerId newId source t = (.ok repository, t')) :
    Imports q existing providerId t.cur t'.cur := by
  unfold storeRepository at h
  cases hfind : existing.find? fun row => row.providerRepositoryId = providerId with
  | none =>
    rw [hfind] at h
    exact addRepository_imports hlisted h
  | some old =>
    rw [hfind] at h
    have hold : old ∈ existing := List.mem_of_find?_eq_some hfind
    have hproviderId : old.providerRepositoryId = providerId := by
      simpa using List.find?_some hfind
    exact updateRepository_imports hlisted hold (hexisting old hold) hproviderId h

/-- A scenario that is ensured leaves the repositories alone. -/
theorem ensureConnectedScenario_ok {repository : Repository} {now : Time} {t t' : State Store}
    (h : ensureConnectedScenario host repository now t = (.ok (), t')) :
    t'.cur.repositories = t.cur.repositories := by
  rw [ensureConnectedScenario, read_bind_apply] at h
  by_cases hknown : (t.cur.scenarios.rows.any fun row =>
      row.workspaceId = repository.workspaceId && row.repositoryId = repository.id &&
        row.dataMode = "connected") = true
  · rw [if_pos hknown] at h
    obtain ⟨-, rfl⟩ := Call.pure_eq_ok.mp h
    rfl
  · rw [if_neg hknown, read_bind_apply] at h
    cases hinsert : t.cur.scenarios.insert (connectedScenario host repository now) with
    | some scenarios =>
      rw [hinsert] at h
      obtain ⟨-, rfl⟩ := Prod.mk.inj h
      rfl
    | none =>
      rw [hinsert] at h
      cases h

theorem Imports.congr {providerId : String} {s s' s'' : Store}
    (h : Imports q existing providerId s s') (heq : s''.repositories = s'.repositories) :
    Imports q existing providerId s s'' where
  listed row hrow := by
    rw [heq]
    exact h.listed row hrow
  imported := by
    rw [Imported, heq]
    exact h.imported
  kept id hid := by
    rw [Imported, heq]
    exact h.kept id hid

theorem syncRepository_imports {byId : Dict String Items} {newId : String → String}
    {providerId : String} {t t' : State Store}
    (hexisting : ∀ row ∈ existing, isWorkspaceRepository q.workspaceId row = true)
    (hlisted : StillListed existing t.cur)
    (h : syncRepository host q existing byId newId providerId t = (.ok (), t')) :
    Imports q existing providerId t.cur t'.cur := by
  obtain ⟨source, -, h⟩ := Call.lift_bind_eq_ok.mp h
  obtain ⟨repository, t₁, hstore, h⟩ := Call.bind_eq_ok.mp h
  exact (storeRepository_imports hexisting hlisted hstore).congr (ensureConnectedScenario_ok h)

/-- After the loop every requested repository is in use. -/
theorem syncAll_imports {byId : Dict String Items} {newId : String → String}
    {requested : List String} {t t' : State Store}
    (hexisting : ∀ row ∈ existing, isWorkspaceRepository q.workspaceId row = true)
    (hlisted : StillListed existing t.cur)
    (h : syncAll host q existing byId newId requested t = (.ok (), t')) :
    (∀ id ∈ requested, Imported q.workspaceId id t'.cur) ∧
      ∀ id, Imported q.workspaceId id t.cur → Imported q.workspaceId id t'.cur := by
  induction requested generalizing t with
  | nil =>
    obtain ⟨-, rfl⟩ := Call.pure_eq_ok.mp h
    exact ⟨nofun, fun _ h => h⟩
  | cons providerId rest ih =>
    obtain ⟨u, t₁, hsync, h⟩ := Call.bind_eq_ok.mp h
    have hone := syncRepository_imports hexisting hlisted hsync
    obtain ⟨hrest, hkept⟩ := ih hone.listed h
    refine ⟨fun id hid => ?_, fun id hid => hkept id (hone.kept id hid)⟩
    rcases List.mem_cons.mp hid with rfl | hid
    · exact hkept id hone.imported
    · exact hrest id hid

/-- The repositories of the workspace after the last write of a synchronisation:
those requested are in use as before it, the others are not selected. -/
theorem finishSync_inUse (q : ProviderRequest) (connection : ProviderConnection)
    (requested : List String) (s : Store) :
    (∀ id ∈ requested, Imported q.workspaceId id s →
      Imported q.workspaceId id (finishSync q connection requested s)) ∧
    ∀ row ∈ (finishSync q connection requested s).repositories.rows,
      isWorkspaceRepository q.workspaceId row = true → row.selected = true →
        row.providerRepositoryId ∈ requested := by
  have hmem : ∀ row', row' ∈ (finishSync q connection requested s).repositories.rows ↔
      ∃ row ∈ s.repositories.rows, (if (isWorkspaceRepository q.workspaceId row &&
        !requested.contains row.providerRepositoryId) = true then deselectRepository row
        else row) = row' := by
    intro row'
    show row' ∈ (s.repositories.updateWhere _ deselectRepository deselectRepository_id).rows ↔ _
    rw [Table.mem_updateWhere]
  constructor
  · intro id hid h
    obtain ⟨row, hrow, hworkspace, rfl, hinUse⟩ := h
    refine ⟨row, (hmem row).mpr ⟨row, hrow, if_neg ?_⟩, hworkspace, rfl, hinUse⟩
    simp [hid]
  · intro row' hrow' hworkspace hselected
    obtain ⟨row, hrow, rfl⟩ := (hmem row').mp hrow'
    by_cases hout : (isWorkspaceRepository q.workspaceId row &&
        !requested.contains row.providerRepositoryId) = true
    · rw [if_pos hout] at hselected
      cases hselected
    · rw [if_neg hout] at hworkspace ⊢
      simpa [hworkspace] using hout

/-- A synchronisation that returned leaves no repository of the workspace in use
exactly if it was asked for none. -/
theorem syncGithubRepositories_inUse {repositoryIds : List String} {newId : String → String}
    {answer : Except ServiceError (List Items)} {s s' : Store} {response : RepositorySync}
    (h : (syncGithubRepositories host q repositoryIds newId answer).run s = (.ok response, s')) :
    (∀ row ∈ s'.repositories.rows, isWorkspaceRepository q.workspaceId row = true → ¬InUse row) ↔
      repositoryIds = [] := by
  rw [run_def] at h
  obtain ⟨hresult, rfl⟩ := Prod.mk.inj h
  obtain ⟨t, ht⟩ : ∃ t, syncGithubRepositories host q repositoryIds newId answer (State.start s) =
      (.ok response, t) := ⟨_, Prod.ext hresult rfl⟩
  rw [ht]
  obtain ⟨connection, -, ht⟩ := Call.query_bind_eq_ok.mp ht
  obtain ⟨available, -, ht⟩ := Call.lift_bind_eq_ok.mp ht
  obtain ⟨u, -, ht⟩ := Call.lift_bind_eq_ok.mp ht
  rw [read_bind_apply] at ht
  obtain ⟨u, t₁, hall, ht⟩ := Call.bind_eq_ok.mp ht
  obtain ⟨-, rfl⟩ := Prod.mk.inj ht
  obtain ⟨himported, -⟩ := syncAll_imports
    (fun row hrow => (Table.mem_select.mp hrow).2)
    (fun row hrow => ⟨row, (Table.mem_select.mp hrow).1, rfl, rfl, rfl, rfl⟩) hall
  obtain ⟨hkept, hselected⟩ := finishSync_inUse q connection repositoryIds.dedup t₁.cur
  constructor
  · intro hnone
    by_contra hsome
    obtain ⟨id, hid⟩ := List.exists_mem_of_ne_nil repositoryIds hsome
    have hid : id ∈ repositoryIds.dedup := List.mem_dedup.mpr hid
    obtain ⟨row, hrow, hworkspace, -, hinUse⟩ := hkept id hid (himported id hid)
    exact hnone row hrow hworkspace hinUse
  · intro h row hrow hworkspace hinUse
    obtain rfl := h
    have hmem := hselected row hrow hworkspace hinUse.1
    simp at hmem

end Sync

/-- **Unverified connections.** Whatever becomes of an attempt at a passive
delivery, nothing is touched; a new delivery that is processed touches nothing
exactly if it is passive; and a synchronisation leaves no repository of the
connection in use exactly if it is asked for none. -/
theorem unverified_untouched_iff {host : Host} {config : WebhookConfig} {d : GithubDelivery}
    {call : WebhookCall} {connection : ProviderConnection} {ids : String × String} {s : Store}
    (hevent : isInstallationEvent d.eventType = false)
    (hunverified : Unverified host d connection ids s) :
    (∀ outcome s', attempt host config d call s outcome = some s' →
      Passive host d connection ids s → Untouched s s') ∧
    (∀ response s', s.deliveries.get? (deliveryKey d) = none →
      s.events.get? (deliveryEventKey d connection) = none →
      (processGithubWebhook host config d call).run s = (.ok response, s') →
        (Untouched s s' ↔ Passive host d connection ids s)) ∧
    ∀ q repositoryIds newId answer response s', q.workspaceId = connection.workspaceId →
      (syncGithubRepositories host q repositoryIds newId answer).run s = (.ok response, s') →
        ((∀ row ∈ s'.repositories.rows,
          isWorkspaceRepository connection.workspaceId row = true → ¬InUse row) ↔
            repositoryIds = []) := by
  refine ⟨fun outcome s' hattempt hpassive => ?_, fun response s' hnew hunseen hrun => ?_,
    fun q repositoryIds newId answer response s' hworkspace hrun => ?_⟩
  · exact attempt_keeps (processGithubWebhook_passive hevent hunverified hpassive)
      (fun t _ ht => ht) (.refl s) hattempt
  · constructor
    · exact passive_of_untouched hunverified hnew hunseen hrun
    · intro hpassive
      have hkept : Untouched s ((processGithubWebhook host config d call).run s).2 :=
        (processGithubWebhook_passive hevent hunverified hpassive).run_base (.refl s)
      rwa [hrun] at hkept
  · rw [← hworkspace]
    exact syncGithubRepositories_inUse hrun

/-! ## A connection that is still pending -/

/-- What GitHub says of the repositories. -/
def acmeRepositories : List Items := [[("id", .int 101), ("full_name", .str "acme/shop")]]

/-- An administrator installs the app and selects a repository; no webhook of
the installation has come in. -/
def pendingSteps : List RevocationStep :=
  [.beginInstallation (acmeRequest 0) "token", .complete acmeCallback (.ok acmeInstallation),
    .sync (acmeRequest (seconds 70)) ["101"] id (.ok acmeRepositories)]

def pendingRun : Option RevocationState :=
  (revocationSystem asciiHost).run ⟨acmeStore, []⟩ pendingSteps

/-- A run in the repository. -/
def shopRun : GithubDelivery where
  eventType := "workflow_run"
  deliveryId := "d-2"
  payload := [("installation", .dict [("id", .int 77)]), ("repository", .dict [("id", .int 101)]),
    ("workflow_run", .dict [("name", .str "ci")])]
  signature := "sha256="
  rawBody := []

def shopCall : WebhookCall := acmeCall (seconds 80)

/-- The connection is pending, its repository is in use all the same, and the
event of the run goes into the ledger. -/
theorem unverified_processed :
    ∃ r connection, Reachable (revocationSystem asciiHost) r ∧
      connection.connectionState = "pending_verification" ∧
      Unverified asciiHost shopRun connection ("77", "101") r.store ∧
      isInstallationEvent shopRun.eventType = false ∧
      checkSignature asciiHost acmeConfig shopRun = .ok () ∧
      (∃ row ∈ r.store.repositories.rows,
        isWorkspaceRepository connection.workspaceId row = true ∧ InUse row) ∧
      ¬Untouched r.store
        ((processGithubWebhook asciiHost acmeConfig shopRun shopCall).run r.store).2 := by
  obtain ⟨r, hrun⟩ : ∃ r, pendingRun = some r := Option.isSome_iff_exists.mp (by decide +kernel)
  have hstate : pendingRun.any (fun r =>
      (findConnection r.store "77").map (·.connectionState) = some "pending_verification" ∧
      (∃ row ∈ r.store.repositories.rows, isWorkspaceRepository "w-1" row = true ∧ InUse row) ∧
      (findConnection r.store "77").map (·.workspaceId) = some "w-1" ∧
      r.store.events.rows = [] ∧
      ((processGithubWebhook asciiHost acmeConfig shopRun shopCall).run
        r.store).2.events.rows ≠ []) = true := by decide +kernel
  rw [hrun] at hstate
  obtain ⟨hpending, hinUse, hworkspace, hbefore, hafter⟩ :=
    of_decide_eq_true (show decide _ = true from hstate)
  obtain ⟨connection, hfound, hpending⟩ := Option.map_eq_some_iff.mp hpending
  rw [hfound, Option.map_some, Option.some.injEq] at hworkspace
  rw [← hworkspace] at hinUse
  refine ⟨r, connection, Reachable.of_run (.init (show _ = _ from rfl)) hrun, hpending,
    ⟨by decide +kernel, hfound, by rw [hpending]; decide⟩, rfl, by decide +kernel, hinUse, ?_⟩
  intro huntouched
  rw [huntouched.1.1, hbefore] at hafter
  exact hafter rfl

def revokedConnection : ProviderConnection := { acmeConnection with connectionState := "revoked" }

def revokedStore : Store := { acmeStore with connections := ⟨[revokedConnection], by decide⟩ }

/-- The run of a repository that is not selected, with the connection revoked. -/
theorem unverified_untouched_revoked :
    Untouched revokedStore
      ((processGithubWebhook asciiHost acmeConfig shopRun shopCall).run revokedStore).2 := by
  have hunverified : Unverified asciiHost shopRun revokedConnection ("77", "101") revokedStore :=
    ⟨by decide +kernel, by decide +kernel, by decide⟩
  exact (unverified_untouched_iff (by decide) hunverified).1 .completed _ rfl
    (Or.inl (by decide +kernel))

end DeployGuard.Service
