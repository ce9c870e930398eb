import DeployGuard.Service.Webhook

/-!
# What a webhook leaves alone

The webhooks of an installation's activity write changes, scenarios, events,
deliveries, deployments, jobs and the audit log. The rest of the database, with
the connections and the repositories, is written by installation events only,
and of it only the state of the connection they name
(`processGithubWebhook_connections`).
-/

namespace DeployGuard.Service

open Raise Session Session.Call

/-- The database without what the activity of an installation writes. -/
def directory (s : Store) : Store :=
  { s with
    scenarios := ∅
    changes := ∅
    events := ∅
    deliveries := ∅
    deployments := ∅
    jobs := ∅
    auditEvents := [] }

/-- The same workspaces, members, repositories, services, connections and so on. -/
def SameDirectory (s t : Store) : Prop := directory t = directory s

namespace SameDirectory

variable {s t : Store}

/-- A store has its own directory. -/
theorem refl (s : Store) : SameDirectory s s := rfl

/-- The connections are the same. -/
theorem connections (h : SameDirectory s t) : t.connections = s.connections :=
  (congrArg Store.connections (show directory t = directory s from h) :)

/-- The repositories are the same. -/
theorem repositories (h : SameDirectory s t) : t.repositories = s.repositories :=
  (congrArg Store.repositories (show directory t = directory s from h) :)

end SameDirectory

section Calls

variable {host : Host} {config : WebhookConfig} {d : GithubDelivery} {call : WebhookCall}
  {connection : ProviderConnection} {repository : Repository} {s₀ : Store} {s : State Store}

/-- The call leaves the directory as it is. -/
abbrev KeepsDirectory {α : Type} (s₀ : Store) (s : State Store) (c : DatabaseCall α) : Prop :=
  Safe (SameDirectory s₀) s c (fun _ _ => True) (fun _ => True)

/-- An analysis leaves the directory alone. -/
theorem analyzeChange_directory {request : AnalyzeChangeRequest} {scope : AnalysisScope}
    {now : Time} : KeepsDirectory s₀ s (analyzeChange host request scope now) := by
  refine Safe.query_bind (fun a _ => Safe.read_bind ?_) fun _ _ => trivial
  split
  · exact Safe.pure trivial
  · refine Safe.lift_bind (fun record _ => Safe.read_bind ?_) fun _ _ => trivial
    split
    · exact Safe.write_bind (fun h => h) (Safe.commit_bind (Safe.pure trivial))
    · exact Safe.raise trivial

/-- An event leaves it alone. -/
theorem githubOperationalEvent_directory :
    KeepsDirectory s₀ s (githubOperationalEvent host d connection repository call) := by
  refine Safe.lift_bind (fun n _ => ?_) fun _ _ => trivial
  refine Safe.lift_bind (fun payload _ => ?_) fun _ _ => trivial
  exact recordEvent_keeps fun t record events entry h _ => h

/-- A queued publication leaves it alone. -/
theorem queuePublication_directory {changeId : String} :
    KeepsDirectory s₀ s (queuePublication host config d call connection repository changeId) := by
  refine Safe.read_bind ?_
  split
  · unfold enqueueGithubCheckPublication
    split
    · refine Safe.lift_bind (fun contract _ => ?_) fun _ _ => trivial
      refine Safe.seq (Q := fun _ _ => True) ?_ fun _ _ _ _ => Safe.pure trivial
      refine Safe.query_bind (fun queued _ => ?_) fun _ _ => trivial
      exact Safe.write_bind (fun h => h) (Safe.pure trivial)
    · exact Safe.pure trivial
  · exact Safe.pure trivial

/-- A deployment's row leaves it alone. -/
theorem upsertRow_directory {u : DeploymentUpdate} {c : DeploymentCall}
    {change : Option ChangeRecord} {services : List String}
    {again : DatabaseCall (Option DeploymentRecord)} (hagain : ∀ s, KeepsDirectory s₀ s again) :
    KeepsDirectory s₀ s (upsertRow u c change services again) := by
  refine Safe.read_bind ?_
  split
  · refine Safe.read_bind ?_
    split
    · exact Safe.write_bind (fun h => h) (Safe.commit_bind (Safe.pure trivial))
    · refine Safe.rollback_bind (Safe.read_bind ?_)
      split
      · exact Safe.raise trivial
      · exact hagain _
  · split
    · exact Safe.pure trivial
    · refine Safe.lift_bind (fun _ _ => ?_) fun _ _ => trivial
      exact Safe.write_bind (fun h => h) (Safe.commit_bind (Safe.pure trivial))

/-- One try of the upsert leaves it alone. -/
theorem upsertOnce_directory {payload : Items} {c : DeploymentCall}
    {again : DatabaseCall (Option DeploymentRecord)} (hagain : ∀ s, KeepsDirectory s₀ s again) :
    KeepsDirectory s₀ s (upsertOnce host payload c again) := by
  refine Safe.lift_bind (fun update _ => ?_) fun _ _ => trivial
  split
  · exact Safe.pure trivial
  · exact Safe.read_bind (Safe.read_bind (upsertRow_directory hagain))

/-- A run's delivery leaves it alone. -/
theorem processRunEvent_directory {duplicate : Bool} :
    KeepsDirectory s₀ s (processRunEvent host d call connection repository duplicate) := by
  refine Safe.seq githubOperationalEvent_directory fun event s₁ _ _ => ?_
  refine Safe.seq (Q := fun _ _ => True) ?_ fun _ s₂ _ _ => ?_
  · unfold upsertDeploymentOf
    split
    · refine Safe.seq (upsertOnce_directory ?_) fun _ _ _ _ => Safe.pure trivial
      exact fun _ => upsertOnce_directory fun _ => Safe.raise trivial
    · exact Safe.pure trivial
  · exact Safe.write_bind (fun h => h) (Safe.commit_bind (Safe.pure trivial))

/-- The work of a pull request leaves it alone. -/
theorem pullRequestBody_directory :
    KeepsDirectory s₀ s (pullRequestBody host config d call connection repository) := by
  refine Safe.lift_bind (fun request _ => ?_) fun _ _ => trivial
  refine Safe.seq analyzeChange_directory fun change s₁ _ _ => ?_
  refine Safe.query_bind (fun scenario _ => ?_) fun _ _ => trivial
  refine Safe.write_bind (fun h => h) (Safe.commit_bind ?_)
  refine Safe.seq githubOperationalEvent_directory fun event s₂ _ _ => ?_
  refine Safe.seq queuePublication_directory fun queued s₃ _ _ => ?_
  exact Safe.write_bind (fun h => h) (Safe.commit_bind (Safe.pure trivial))

/-- A pull request leaves it alone however it ends. -/
theorem processPullRequest_directory :
    KeepsDirectory s₀ s (processPullRequest host config d call connection repository) := by
  refine Safe.write_bind (fun h => h) (Safe.commit_bind ?_)
  refine Safe.rescue pullRequestBody_directory (fun _ _ _ => trivial) (fun _ _ => trivial) ?_
  exact fun s' _ => Safe.write_bind (fun h => h) (Safe.commit trivial)

/-- A delivery's row leaves it alone. -/
theorem addDelivery_directory {row : WebhookDelivery} : KeepsDirectory s₀ s (addDelivery row) := by
  refine Safe.read_bind ?_
  split
  · exact Safe.write (fun h => h) trivial
  · exact Safe.raise trivial

/-- A delivery of a known installation leaves it alone. -/
theorem processConnected_directory {installationId : String} {repository : Option Repository}
    {existing : Option WebhookDelivery} :
    KeepsDirectory s₀ s
      (processConnected host config d call installationId connection repository existing) := by
  refine Safe.lift_bind (fun _ _ => ?_) fun _ _ => trivial
  split
  · exact Safe.pure trivial
  · refine Safe.seq (Q := fun _ _ => True) ?_ fun _ s₁ _ _ => ?_
    · refine Safe.seq (Q := fun _ _ => True) ?_ fun _ _ _ _ => Safe.commit trivial
      cases existing with
      | none => exact addDelivery_directory
      | some row => exact Safe.pure trivial
    · unfold processRecorded
      split
      · exact Safe.pure trivial
      · split
        · exact processPullRequest_directory
        · split
          · exact processRunEvent_directory
          · exact Safe.pure trivial

/-- A delivery of no installation leaves it alone. -/
theorem processUnlinked_directory : KeepsDirectory s₀ s (processUnlinked host config d call) := by
  refine Safe.lift_bind (fun _ _ => ?_) fun _ _ => trivial
  split
  · refine Safe.query_bind (fun _ _ => ?_) fun _ _ => trivial
    refine Safe.lift_bind (fun _ _ => ?_) fun _ _ => trivial
    exact Safe.seq analyzeChange_directory fun _ _ _ _ => Safe.pure trivial
  · exact Safe.pure trivial

/-- The activity of an installation. -/
theorem processGithubWebhook_directory (hevent : isInstallationEvent d.eventType = false) :
    KeepsDirectory s₀ s (processGithubWebhook host config d call) := by
  refine Safe.lift_bind (fun _ _ => Safe.read_bind ?_) fun _ _ => trivial
  split
  · exact Safe.pure trivial
  · refine Safe.lift_bind (fun ids _ => Safe.read_bind (Safe.read_bind ?_)) fun _ _ => trivial
    unfold processLinked
    rw [if_neg (by simp [hevent])]
    split
    · exact processConnected_directory
    · exact processUnlinked_directory

end Calls

/-! ## Installation events -/

section Installation

variable {host : Host} {config : WebhookConfig} {d : GithubDelivery} {call : WebhookCall} {s : Store}

/-- The connection an installation event sets the state of: the event is signed
and new, and names it. -/
def affectedConnection (host : Host) (config : WebhookConfig) (d : GithubDelivery) (s : Store) :
    Option ProviderConnection :=
  if isInstallationEvent d.eventType ∧ checkSignature host config d = .ok () ∧
      s.deliveries.get? (deliveryKey d) = none then
    match payloadIds host d.payload with
    | .ok ids => findConnection s ids.1
    | .error _ => none
  else none

/-- Installation deliveries are not reconciled. -/
theorem isReconcilable_installation (h : isInstallationEvent d.eventType = true) :
    isReconcilable d.eventType = false := by
  simp only [isInstallationEvent, List.contains_eq_mem, List.mem_cons, List.not_mem_nil, or_false,
    decide_eq_true_eq] at h
  rcases h with h | h <;> rw [h] <;> rfl

/-- An installation event that is new and names its installation. -/
theorem recordInstallation_run (host : Host) (call : WebhookCall) (installationId : String)
    (connection : Option ProviderConnection)
    (hnew : s.deliveries.get? (deliveryKey d) = none) :
    ∃ deliveries, recordInstallation host d call installationId connection (State.start s) =
      (.ok (respond d "accepted" "Signed GitHub installation state was recorded."),
        (((State.start s).written (applyInstallation connection (payloadAction host d.payload)
          call.now)).written fun t => { t with deliveries := deliveries }).committed) := by
  let row : WebhookDelivery :=
    { id := call.newDeliveryId
      provider := "github"
      deliveryId := d.deliveryId
      eventType := d.eventType
      installationId := textOrNone installationId
      workspaceId := connection.map (·.workspaceId)
      repositoryId := none
      status := if connection = none then "verified_unmapped" else "verified"
      createdAt := call.now }
  -- The installation touches no delivery row, so the key is still free.
  have hsame : (applyInstallation connection (payloadAction host d.payload) call.now s).deliveries =
      s.deliveries := by
    cases connection with
    | none => rfl
    | some connection => rfl
  obtain ⟨deliveries, hinsert⟩ := Table.insert_of_free (t := s.deliveries) (r := row) hnew
  refine ⟨deliveries, ?_⟩
  have hadd : addDelivery row ((State.start s).written
      (applyInstallation connection (payloadAction host d.payload) call.now)) =
      (.ok (), ((State.start s).written (applyInstallation connection
        (payloadAction host d.payload) call.now)).written
          fun t => { t with deliveries := deliveries }) := by
    rw [addDelivery, read_bind_apply, State.written_cur, State.start_cur, hsame, hinsert]
    rfl
  rw [recordInstallation, write_bind_apply]
  show (addDelivery row >>= _) _ = _
  rw [Call.bind_of_ok hadd]
  rfl

/-- A webhook sets the state of the connection an installation event names, and
writes nothing else of the connections. -/
theorem processGithubWebhook_connections :
    ((processGithubWebhook host config d call).run s).2.connections =
      (applyInstallation (affectedConnection host config d s) (payloadAction host d.payload)
        call.now s).connections := by
  by_cases hevent : isInstallationEvent d.eventType = true
  · have hrun : ∀ {result t}, processGithubWebhook host config d call (State.start s) = (result, t) →
        ((processGithubWebhook host config d call).run s).2 = t.base := fun h => by rw [run_eq h]
    -- A refused signature ends the call before any read.
    cases hsigned : checkSignature host config d with
    | error e =>
      rw [hrun (Call.lift_error_bind hsigned), affectedConnection, if_neg (by simp [hsigned])]
      rfl
    | ok u =>
      have hread : processGithubWebhook host config d call (State.start s) = _ :=
        Call.lift_ok_bind hsigned
      rw [read_bind_apply] at hread
      cases hdelivery : s.deliveries.get? (deliveryKey d) with
      | some row =>
        -- A delivery seen before is answered from its row.
        have hdup : processGithubWebhook host config d call (State.start s) =
            (.ok (respond d "accepted" "Duplicate delivery was already recorded."),
              State.start s) := by
          rw [hread]
          show (if _ then _ else _ : DatabaseCall _) _ = _
          rw [State.start_cur, hdelivery, if_pos (by simp [isReconcilable_installation hevent])]
          rfl
        rw [hrun hdup, affectedConnection, if_neg (by simp [hdelivery])]
        rfl
      | none =>
        -- A new delivery reads the payload, then records the installation.
        have hnew : processGithubWebhook host config d call (State.start s) =
            (Call.lift (payloadIds host d.payload) >>= fun ids =>
              recordInstallation host d call ids.1 (findConnection s ids.1)) (State.start s) := by
          rw [hread]
          show (if _ then _ else _ : DatabaseCall _) _ = _
          rw [State.start_cur, hdelivery, if_neg (by simp)]
          cases hids : payloadIds host d.payload with
          | error e => rfl
          | ok ids =>
            rw [Call.lift_ok_bind rfl, Call.lift_ok_bind rfl, read_bind_apply, read_bind_apply]
            show (if _ then _ else _ : DatabaseCall _) _ = _
            rw [if_pos hevent]
            rfl
        rw [affectedConnection, if_pos ⟨hevent, hsigned, hdelivery⟩]
        cases hids : payloadIds host d.payload with
        | error e =>
          rw [hids] at hnew
          rw [hrun (hnew.trans (Call.lift_error_bind rfl))]
          rfl
        | ok ids =>
          rw [hids, Call.lift_ok_bind rfl] at hnew
          obtain ⟨deliveries, hrecord⟩ := recordInstallation_run host call ids.1
            (findConnection s ids.1) hdelivery
          rw [hrun (hnew.trans hrecord)]
          rfl
  · rw [Bool.not_eq_true] at hevent
    -- No other event touches the directory.
    have hkept : SameDirectory s ((processGithubWebhook host config d call).run s).2 :=
      (processGithubWebhook_directory (s := State.start s) hevent).run_base (.refl s)
    rw [hkept.connections, affectedConnection, if_neg (by simp [hevent])]
    rfl

end Installation

end DeployGuard.Service
