import DeployGuard.Lib.Transition
import DeployGuard.Service.Webhook

/-!
# Redelivered webhooks

A delivery that was recorded as processed comes again. For a pull request
nothing happens. For the other families the event and the deployment are gone
through once more, and the second time need not agree with the first:

> the material of an event contains its time, which is the clock's where the
> payload carries none (or one too far ahead): the ledger answers with a
> conflict;

> a deployment row remembers only the last delivery applied to it, so an earlier
> one with the same provider time is applied again.

`redelivery_idempotent_iff` says exactly when neither happens, after any run of
the service.
-/

namespace DeployGuard.Service

open Raise Session Session.Call Transition

/-! ## What every call keeps -/

/-- A condition on the store that the webhook code keeps: it looks at
deliveries, events and deployments only, and survives what is done to them. -/
structure Stable (d : GithubDelivery) (I : Store → Prop) : Prop where
  frame : ∀ {t t'}, I t → t'.deliveries = t.deliveries → t'.events = t.events →
    t'.deployments = t.deployments → I t'
  event : ∀ {t record events}, t.events.insert record = some events → I t →
    I { t with events := events }
  newDeployment : ∀ {t record deployments}, t.deployments.insert record = some deployments →
    I t → I { t with deployments := deployments }
  deployment : ∀ {t} (p : DeploymentRecord → Bool) (f : DeploymentRecord → DeploymentRecord)
    (hf : ∀ row, (f row).identity = row.identity), I t →
    I { t with deployments := t.deployments.updateWhere p f hf }
  processed : ∀ {t}, I t → I (markDelivery d "processed" t)

section Keeps

variable {host : Host} {config : WebhookConfig} {d : GithubDelivery} {call : WebhookCall}
  {connection : ProviderConnection} {repository : Repository} {I : Store → Prop}
  {s : State Store}

/-- An analysis writes changes only. -/
theorem analyzeChange_keeps {request : AnalyzeChangeRequest} {scope : AnalysisScope} {now : Time}
    (h : ∀ t changes, I t → I { t with changes := changes }) :
    Safe I s (analyzeChange host request scope now) (fun _ _ => True) (fun _ => True) := by
  refine Safe.query_bind (fun a _ => ?_) fun _ _ => trivial
  refine Safe.read_bind ?_
  split
  · exact Safe.pure trivial
  · refine Safe.lift_bind (fun record _ => ?_) fun _ _ => trivial
    refine Safe.read_bind ?_
    split
    · exact Safe.write_bind (fun ht => h _ _ ht) (Safe.commit_bind (Safe.pure trivial))
    · exact Safe.raise trivial

/-- Queueing a publication writes jobs only. -/
theorem queuePublication_keeps {changeId : String} (h : ∀ t jobs, I t → I { t with jobs := jobs }) :
    Safe I s (queuePublication host config d call connection repository changeId)
      (fun _ _ => True) (fun _ => True) := by
  refine Safe.read_bind ?_
  split
  · unfold enqueueGithubCheckPublication
    split
    · refine Safe.lift_bind (fun contract _ => ?_) fun _ _ => trivial
      refine Safe.seq (Q := fun _ _ => True) ?_ fun _ _ _ _ => Safe.pure trivial
      refine Safe.query_bind (fun queued _ => ?_) fun _ _ => trivial
      exact Safe.write_bind (fun ht => h _ _ ht) (Safe.pure trivial)
    · exact Safe.pure trivial
  · exact Safe.pure trivial

namespace Stable

/-- The event of a delivery leaves what is stable alone. -/
theorem githubOperationalEvent (h : Stable d I) :
    Safe I s (githubOperationalEvent host d connection repository call) (fun _ _ => True)
      (fun _ => True) := by
  refine Safe.lift_bind (fun n _ => ?_) fun _ _ => trivial
  refine Safe.lift_bind (fun payload _ => ?_) fun _ _ => trivial
  refine recordEvent_keeps fun t record events entry ht hinsert => ?_
  exact h.frame (h.event hinsert ht) rfl rfl rfl

/-- The deployment row is written without touching it. -/
theorem upsertRow (h : Stable d I) {u : DeploymentUpdate} {c : DeploymentCall}
    {change : Option ChangeRecord} {services : List String}
    {again : DatabaseCall (Option DeploymentRecord)}
    (hagain : ∀ s, Safe I s again (fun _ _ => True) (fun _ => True)) :
    Safe I s (upsertRow u c change services again) (fun _ _ => True) (fun _ => True) := by
  refine Safe.read_bind ?_
  split
  · refine Safe.read_bind ?_
    split
    · next deployments hinsert =>
      refine Safe.write_bind (fun ht => ?_) (Safe.commit_bind (Safe.pure trivial))
      exact h.frame (h.newDeployment hinsert ht) rfl rfl rfl
    · refine Safe.rollback_bind (Safe.read_bind ?_)
      split
      · exact Safe.raise trivial
      · exact hagain _
  · next record _ =>
    split
    · exact Safe.pure trivial
    · refine Safe.lift_bind (fun _ _ => ?_) fun _ _ => trivial
      refine Safe.write_bind (fun ht => ?_) (Safe.commit_bind (Safe.pure trivial))
      exact h.frame (h.deployment _ _ (updatedDeployment_identity u c change services) ht)
        rfl rfl rfl

/-- One try of the upsert does not touch it. -/
theorem upsertOnce (h : Stable d I) {payload : Items} {c : DeploymentCall}
    {again : DatabaseCall (Option DeploymentRecord)}
    (hagain : ∀ s, Safe I s again (fun _ _ => True) (fun _ => True)) :
    Safe I s (upsertOnce host payload c again) (fun _ _ => True) (fun _ => True) := by
  refine Safe.lift_bind (fun update _ => ?_) fun _ _ => trivial
  split
  · exact Safe.pure trivial
  · exact Safe.read_bind (Safe.read_bind (h.upsertRow hagain))

/-- The deployment of a delivery does not touch it. -/
theorem upsertDeploymentOf (h : Stable d I) {event : OperationalEvent} :
    Safe I s (upsertDeploymentOf host d call connection repository event) (fun _ _ => True)
      (fun _ => True) := by
  unfold Service.upsertDeploymentOf
  split
  · refine Safe.seq (h.upsertOnce ?_) fun _ _ _ _ => Safe.pure trivial
    exact fun _ => h.upsertOnce fun _ => Safe.raise trivial
  · exact Safe.pure trivial

/-- A run's delivery does not touch it. -/
theorem processRunEvent (h : Stable d I) {duplicate : Bool} :
    Safe I s (processRunEvent host d call connection repository duplicate) (fun _ _ => True)
      (fun _ => True) := by
  refine Safe.seq h.githubOperationalEvent fun event s₁ _ _ => ?_
  refine Safe.seq h.upsertDeploymentOf fun _ s₂ _ _ => ?_
  exact Safe.write_bind h.processed (Safe.commit_bind (Safe.pure trivial))

/-- The work of a pull request does not touch it. -/
theorem pullRequestBody (h : Stable d I) :
    Safe I s (pullRequestBody host config d call connection repository) (fun _ _ => True)
      (fun _ => True) := by
  refine Safe.lift_bind (fun request _ => ?_) fun _ _ => trivial
  refine Safe.seq (analyzeChange_keeps fun t changes ht => h.frame ht rfl rfl rfl)
    fun change s₁ _ _ => ?_
  refine Safe.query_bind (fun scenario _ => ?_) fun _ _ => trivial
  refine Safe.write_bind (fun ht => h.frame ht rfl rfl rfl) (Safe.commit_bind ?_)
  refine Safe.seq h.githubOperationalEvent fun event s₂ _ _ => ?_
  refine Safe.seq (queuePublication_keeps fun t jobs ht => h.frame ht rfl rfl rfl)
    fun queued s₃ _ _ => ?_
  exact Safe.write_bind h.processed (Safe.commit_bind (Safe.pure trivial))

/-- A pull request also marks its delivery as processing, and as failed. -/
theorem processPullRequest (h : Stable d I) (hmark : ∀ t status, I t → I (markDelivery d status t)) :
    Safe I s (processPullRequest host config d call connection repository) (fun _ _ => True)
      (fun _ => True) := by
  refine Safe.write_bind (fun ht => hmark _ _ ht) (Safe.commit_bind ?_)
  refine Safe.rescue h.pullRequestBody (fun _ _ _ => trivial) (fun _ _ => trivial) ?_
  exact fun s' _ => Safe.write_bind (fun ht => hmark _ _ ht) (Safe.commit trivial)

/-- The delivery's row is inserted where that keeps the invariant. -/
theorem addDelivery {row : WebhookDelivery}
    (hadd : ∀ {t deliveries}, t.deliveries.insert row = some deliveries → I t →
      I { t with deliveries := deliveries }) :
    Safe I s (addDelivery row) (fun _ _ => True) (fun _ => True) := by
  refine Safe.read_bind ?_
  split
  · next deliveries hinsert => exact Safe.write (fun ht => hadd hinsert ht) trivial
  · exact Safe.raise trivial

/-- A delivery of a known installation keeps what its own row's insertion and marks keep. -/
theorem processConnected (h : Stable d I) {installationId : String}
    {repository : Option Repository} {existing : Option WebhookDelivery}
    (hadd : ∀ {t deliveries}, t.deliveries.insert
        (newDelivery host d call installationId connection repository) = some deliveries →
      I t → I { t with deliveries := deliveries })
    (hmark : existing.any (·.status = "processed") = false →
      ∀ t status, I t → I (markDelivery d status t)) :
    Safe I s (processConnected host config d call installationId connection repository existing)
      (fun _ _ => True) (fun _ => True) := by
  refine Safe.lift_bind (fun _ _ => ?_) fun _ _ => trivial
  split
  · exact Safe.pure trivial
  · next hfresh =>
    refine Safe.seq (Q := fun _ _ => True) ?_ fun _ s₁ _ _ => ?_
    · refine Safe.seq (Q := fun _ _ => True) ?_ fun _ _ _ _ => Safe.commit trivial
      cases existing with
      | none => exact addDelivery hadd
      | some row => exact Safe.pure trivial
    · unfold processRecorded
      split
      · exact Safe.pure trivial
      · split
        · next hmonitored =>
          refine h.processPullRequest (hmark ?_)
          simpa [hmonitored] using hfresh
        · split
          · exact h.processRunEvent
          · exact Safe.pure trivial

/-- The whole of `process_github_webhook`. Only a delivery that is not recorded as
processed is marked as anything else. -/
theorem processGithubWebhook (h : Stable d I)
    (hadd : ∀ {t row deliveries}, row.identity = deliveryKey d →
      t.deliveries.insert row = some deliveries → I t → I { t with deliveries := deliveries })
    (hmark : (s.cur.deliveries.get? (deliveryKey d)).any (·.status = "processed") = false →
      ∀ t status, I t → I (markDelivery d status t)) :
    Safe I s (processGithubWebhook host config d call) (fun _ _ => True) (fun _ => True) := by
  refine Safe.lift_bind (fun _ _ => ?_) fun _ _ => trivial
  refine Safe.read_bind ?_
  split
  · exact Safe.pure trivial
  · refine Safe.lift_bind (fun ids _ => ?_) fun _ _ => trivial
    refine Safe.read_bind (Safe.read_bind ?_)
    unfold processLinked
    split
    · refine Safe.write_bind (fun ht => ?_) ?_
      · unfold applyInstallation
        split <;> exact h.frame ht rfl rfl rfl
      · refine Safe.seq (addDelivery fun hinsert ht => hadd rfl hinsert ht) fun _ _ _ _ => ?_
        exact Safe.commit_bind (Safe.pure trivial)
    · split
      · exact h.processConnected (fun hinsert ht => hadd rfl hinsert ht) hmark
      · refine Safe.lift_bind (fun _ _ => ?_) fun _ _ => trivial
        split
        · refine Safe.query_bind (fun _ _ => ?_) fun _ _ => trivial
          refine Safe.lift_bind (fun _ _ => ?_) fun _ _ => trivial
          exact Safe.seq (analyzeChange_keeps fun t changes ht => h.frame ht rfl rfl rfl)
            fun _ _ _ _ => Safe.pure trivial
        · exact Safe.pure trivial

end Stable

end Keeps

/-! ## What no step takes back -/

/-- Events stay as they are, processed deliveries stay as they are, and
deployments keep their row. -/
structure Persists (s s' : Store) : Prop where
  events : ∀ key event, s.events.get? key = some event → s'.events.get? key = some event
  processed : ∀ key row, s.deliveries.get? key = some row → row.status = "processed" →
    s'.deliveries.get? key = some row
  deployments : ∀ key, s'.deployments.get? key = none → s.deployments.get? key = none

namespace Persists

/-- A store persists as it is. -/
theorem refl (s : Store) : Persists s s :=
  ⟨fun _ _ h => h, fun _ _ h _ => h, fun _ h => h⟩

/-- Persisting is transitive. -/
theorem trans {s t u : Store} (h : Persists s t) (h' : Persists t u) : Persists s u :=
  ⟨fun key event hget => h'.events key event (h.events key event hget),
    fun key row hget hrow => h'.processed key row (h.processed key row hget hrow) hrow,
    fun key hget => h.deployments key (h'.deployments key hget)⟩

/-- A row that is inserted stands beside the others. -/
theorem addDelivery {s t : Store} {row : WebhookDelivery}
    {deliveries : Table WebhookDelivery.identity} (h : t.deliveries.insert row = some deliveries)
    (ht : Persists s t) : Persists s { t with deliveries := deliveries } := by
  refine ⟨ht.events, fun key old hget hold => ?_, ht.deployments⟩
  exact Table.get?_of_insert h (ht.processed key old hget hold)

/-- A processed delivery may only be marked as processed. -/
theorem markDelivery {s t : Store} {d : GithubDelivery} {status : String}
    (h : ∀ row, s.deliveries.get? (deliveryKey d) = some row → row.status = "processed" →
      status = "processed")
    (ht : Persists s t) : Persists s (markDelivery d status t) := by
  refine ⟨ht.events, fun key row hget hrow => ?_, ht.deployments⟩
  rw [get?_markDelivery, ht.processed key row hget hrow, Option.map_some]
  by_cases hkey : key = deliveryKey d
  · subst hkey
    rw [if_pos rfl, h row hget hrow, setDeliveryStatus, ← hrow]
  · rw [if_neg hkey]

/-- What persists is stable under a delivery. -/
theorem stable (s : Store) (d : GithubDelivery) : Stable d (Persists s) where
  frame := by
    intro t t' ht hdeliveries hevents hdeployments
    exact ⟨hevents ▸ ht.events, hdeliveries ▸ ht.processed, hdeployments ▸ ht.deployments⟩
  event := by
    intro t record events hinsert ht
    exact ⟨fun key event hget => Table.get?_of_insert hinsert (ht.events key event hget),
      ht.processed, ht.deployments⟩
  newDeployment := by
    intro t record deployments hinsert ht
    refine ⟨ht.events, ht.processed, fun key hget => ht.deployments key ?_⟩
    have hget : deployments.get? key = none := hget
    rw [Table.get?_insert hinsert] at hget
    by_cases hkey : record.identity = key
    · rw [if_pos hkey] at hget
      cases hget
    · rwa [if_neg hkey] at hget
  deployment := by
    intro t p f hf ht
    refine ⟨ht.events, ht.processed, fun key hget => ht.deployments key ?_⟩
    have hget : (t.deployments.updateWhere p f hf).get? key = none := hget
    rwa [Table.get?_updateWhere, Option.map_eq_none_iff] at hget
  processed := fun ht => ht.markDelivery fun _ _ _ => rfl

end Persists

/-! ## The service as a system -/

/-- A step of the service: an attempt at a delivery, or anything else. The
remaining code adds events and alters none, and leaves deliveries and
deployments to the webhooks. -/
inductive ServiceStep where
  | webhook (config : WebhookConfig) (d : GithubDelivery) (call : WebhookCall) (outcome : Outcome)
  | other (s' : Store)

/-- What the rest of the service may do. -/
def OtherWork (s s' : Store) : Prop :=
  LedgerExtends s s' ∧ s'.deliveries = s.deliveries ∧ s'.deployments = s.deployments

instance (s s' : Store) : Decidable (OtherWork s s') := inferInstanceAs (Decidable (_ ∧ _ ∧ _))

def webhookSystem (host : Host) : System Store ServiceStep where
  init s := s = Store.empty
  next s
    | .webhook config d call outcome => attempt host config d call s outcome
    | .other s' => if OtherWork s s' then some s' else none

/-- Rows persist through an attempt however it ends. -/
theorem attempt_persists {host : Host} {config : WebhookConfig} {d : GithubDelivery}
    {call : WebhookCall} {outcome : Outcome} {s s' : Store}
    (h : attempt host config d call s outcome = some s') : Persists s s' := by
  refine attempt_keeps ((Persists.stable s d).processGithubWebhook (fun _ hinsert ht =>
    ht.addDelivery hinsert) fun hfresh t status ht => ?_) (fun t htry ht => ?_) (.refl s) h
  · refine ht.markDelivery fun row hrow hprocessed => ?_
    rw [show (State.start s).cur = s from rfl, hrow] at hfresh
    simp [hprocessed] at hfresh
  · -- inside the `try` the row is not processed, so it was not at the start either
    refine ht.markDelivery fun row hrow hprocessed => ?_
    rw [inTry, ht.processed _ row hrow hprocessed] at htry
    simp [hprocessed] at htry

/-- A run takes nothing back. -/
theorem webhookSystem_persists {host : Host} {s s' : Store} {steps : List ServiceStep}
    (hrun : (webhookSystem host).run s steps = some s') : Persists s s' := by
  refine System.run_induction Persists.refl ?_ hrun
  intro s t step u hst hstep
  cases step with
  | webhook config d call outcome => exact hst.trans (attempt_persists hstep)
  | other u' =>
    by_cases hother : OtherWork t u'
    · obtain rfl : u' = u := by simpa [webhookSystem, hother] using hstep
      obtain ⟨hledger, hdeliveries, hdeployments⟩ := hother
      refine hst.trans ⟨fun key event hget => hledger.get? hget, ?_, ?_⟩
      · rw [hdeliveries]
        exact fun _ _ hget _ => hget
      · rw [hdeployments]
        exact fun _ hget => hget
    · simp [webhookSystem, hother] at hstep

/-! ## The first call -/

section First

variable {host : Host} {config : WebhookConfig} {d : GithubDelivery} {call : WebhookCall}
  {connection : ProviderConnection} {repository : Repository} {ids : String × String}

/-- The row of the deployment an update is about. -/
def deploymentRow (s : Store) (connection : ProviderConnection) (u : DeploymentUpdate) :
    Option DeploymentRecord :=
  s.deployments.get? (connection.workspaceId, "github", u.providerDeploymentId)

/-- What a delivery of a run event has left in the database: its event, with the
material of that moment, and the row of its deployment. -/
structure Recorded (host : Host) (d : GithubDelivery) (connection : ProviderConnection)
    (repository : Repository) (now : Time) (n : NormalizedDelivery) (event : OperationalEvent)
    (s : Store) : Prop where
  stored : s.events.get? (deliveryEventKey d connection) = some event
  material : storedEventMaterial host event = deliveryMaterial host d connection repository n now
  deployment : isDeploymentEvent d.eventType → ∃ update,
    deploymentUpdate host d.payload event.occurredAt = .ok update ∧
      ∀ u, update = some u → deploymentRow s connection u ≠ none

/-- A recorded event carries the delivery's time. -/
theorem Recorded.occurredAt {now : Time} {n : NormalizedDelivery} {event : OperationalEvent}
    {s : Store} (h : Recorded host d connection repository now n event s) :
    event.occurredAt = eventTimestamp n.carried now :=
  congrArg EventMaterial.occurredAt h.material

/-- A recorded event stays recorded. -/
theorem Recorded.persists {now : Time} {n : NormalizedDelivery} {event : OperationalEvent}
    {s s' : Store} (h : Recorded host d connection repository now n event s)
    (hs : Persists s s') : Recorded host d connection repository now n event s' := by
  refine ⟨hs.events _ _ h.stored, h.material, fun hdeployment => ?_⟩
  obtain ⟨update, hupdate, hrow⟩ := h.deployment hdeployment
  exact ⟨update, hupdate, fun u hu hnone => hrow u hu (hs.deployments _ hnone)⟩

/-- An upsert that returned read its delivery, and its deployment has a row. -/
theorem upsertDeploymentOf_ok {event : OperationalEvent} {s s' : State Store}
    (h : upsertDeploymentOf host d call connection repository event s = (.ok (), s')) :
    s'.cur.events = s.cur.events ∧ (isDeploymentEvent d.eventType → ∃ update,
      deploymentUpdate host d.payload event.occurredAt = .ok update ∧
        ∀ u, update = some u → deploymentRow s'.cur connection u ≠ none) := by
  unfold upsertDeploymentOf at h
  split at h
  · obtain ⟨result, s₁, hupsert, h⟩ := Call.bind_eq_ok.mp h
    obtain ⟨-, rfl⟩ := Call.pure_eq_ok.mp h
    obtain ⟨update, hupdate, h⟩ := Call.lift_bind_eq_ok.mp hupsert
    cases update with
    | none =>
      obtain ⟨-, rfl⟩ := Call.pure_eq_ok.mp h
      exact ⟨rfl, fun _ => ⟨none, hupdate, nofun⟩⟩
    | some u =>
      obtain ⟨hevents, hrow⟩ := upsertRow_ok h
      refine ⟨hevents, fun _ => ⟨some u, hupdate, ?_⟩⟩
      intro u' h
      cases h
      exact hrow
  · next hdeployment =>
    obtain ⟨-, rfl⟩ := Call.pure_eq_ok.mp h
    exact ⟨rfl, fun hd => absurd hd hdeployment⟩

/-- The event of a delivery is in the ledger once it has been through it. -/
theorem githubOperationalEvent_stored {s s' : State Store} {event : OperationalEvent}
    (hlinked : Linked host d connection repository ids s.cur)
    (h : githubOperationalEvent host d connection repository call s = (.ok event, s')) :
    ∃ n, normalizeDelivery host d repository = .ok n ∧
      (githubEvent d connection repository n call.now).WellFormed host ∧
      s'.cur.events.get? (deliveryEventKey d connection) = some event ∧
      storedEventMaterial host event =
        deliveryMaterial host d connection repository n call.now := by
  obtain ⟨n, hn, hwell, htime⟩ := githubOperationalEvent_ok h
  refine ⟨n, hn, hwell, ?_⟩
  rcases githubOperationalEvent_cases hlinked hn hwell htime with
    ⟨event', events, entry, -, hkey, hmaterial, hinsert, hrun⟩ | ⟨event', hget, hmaterial, hrun⟩ |
    ⟨event', -, -, hrun⟩
  · obtain ⟨heq, rfl⟩ := Prod.mk.inj (hrun.symm.trans h)
    obtain rfl := Except.ok.inj heq
    exact ⟨Table.get?_inserted hinsert hkey, hmaterial⟩
  · obtain ⟨heq, rfl⟩ := Prod.mk.inj (hrun.symm.trans h)
    obtain rfl := Except.ok.inj heq
    exact ⟨hget, hmaterial⟩
  · cases hrun.symm.trans h

/-- A run event that was processed is recorded. -/
theorem processRunEvent_ok {s s' : State Store} {response : WebhookResponse} {duplicate : Bool}
    (hlinked : Linked host d connection repository ids s.cur)
    (h : processRunEvent host d call connection repository duplicate s = (.ok response, s')) :
    ∃ n event, normalizeDelivery host d repository = .ok n ∧
      (githubEvent d connection repository n call.now).WellFormed host ∧
      Recorded host d connection repository call.now n event s'.base := by
  obtain ⟨event, s₁, hevent, h⟩ := Call.bind_eq_ok.mp h
  obtain ⟨u, s₂, hupsert, h⟩ := Call.bind_eq_ok.mp h
  obtain ⟨n, hn, hwell, hget, hmaterial⟩ := githubOperationalEvent_stored hlinked hevent
  obtain ⟨hevents, hdeployment⟩ := upsertDeploymentOf_ok hupsert
  rw [write_bind_apply, commit_bind_apply] at h
  obtain ⟨-, rfl⟩ := Call.pure_eq_ok.mp h
  refine ⟨n, event, hn, hwell, ?_⟩
  refine ⟨?_, hmaterial, hdeployment⟩
  show s₂.cur.events.get? _ = _
  rw [hevents]
  exact hget

/-- The row of the delivery, if there is one, names the installation and the
repository it came from. -/
def Matches (d : GithubDelivery) (installationId : String) (repository : Repository)
    (s : Store) : Prop :=
  checkDeliveryIdentity installationId (some repository) (s.deliveries.get? (deliveryKey d)) =
    .ok ()

/-- Marking a delivery does not change what it matches. -/
theorem Matches.markDelivery {installationId status : String} {s : Store}
    (h : Matches d installationId repository s) :
    Matches d installationId repository (markDelivery d status s) := by
  unfold Matches at h ⊢
  rw [get?_markDelivery]
  cases hrow : s.deliveries.get? (deliveryKey d) with
  | none => rfl
  | some row =>
    rw [hrow] at h
    rw [Option.map_some, if_pos rfl]
    exact h

/-- What a delivery matches is stable under deliveries. -/
theorem Matches.stable (d : GithubDelivery) (installationId : String) (repository : Repository) :
    Stable d (Matches d installationId repository) where
  frame := by
    intro t t' ht hdeliveries _ _
    unfold Matches
    rw [hdeliveries]
    exact ht
  event := fun _ ht => ht
  newDeployment := fun _ ht => ht
  deployment := fun _ _ _ ht => ht
  processed := fun ht => ht.markDelivery

/-- A call that returned leaves a row that matches. -/
theorem processConnected_matches {s : Store} {s' : State Store} {response : WebhookResponse}
    {installationId : String}
    (h : processConnected host config d call installationId connection (some repository)
      (s.deliveries.get? (deliveryKey d)) (State.start s) = (.ok response, s')) :
    Matches d installationId repository s'.base := by
  obtain ⟨u, hcheck, -⟩ := Call.lift_bind_eq_ok.mp h
  have hsafe : Safe (Matches d installationId repository) (State.start s)
      (processConnected host config d call installationId connection (some repository)
        (s.deliveries.get? (deliveryKey d))) (fun _ _ => True) (fun _ => True) := by
    refine (Matches.stable d installationId repository).processConnected ?_
      fun _ _ _ ht => ht.markDelivery
    intro t deliveries hinsert _
    have hnew : deliveries.get? (deliveryKey d) =
        some (newDelivery host d call installationId connection (some repository)) :=
      Table.get?_inserted hinsert rfl
    show checkDeliveryIdentity installationId (some repository)
      (deliveries.get? (deliveryKey d)) = .ok ()
    rw [hnew]
    exact Raise.raiseIf_neg (by simp [newDelivery]) _
  exact (hsafe.run_ok hcheck (run_eq h)).1

/-- A run's delivery is reconciled and is no pull request. -/
theorem isReconcilable_of_isRunEvent (host : Host) (h : isRunEvent d.eventType = true) :
    isReconcilable d.eventType = true ∧ isMonitoredPullRequest host d = false := by
  simp only [isRunEvent, List.contains_eq_mem, List.mem_cons, List.not_mem_nil, or_false,
    decide_eq_true_eq] at h
  unfold isMonitoredPullRequest
  rcases h with h | h | h <;> rw [h] <;> exact ⟨rfl, rfl⟩

/-- A run event of a connected delivery is gone through whether or not it is recorded. -/
theorem processConnected_run {s : State Store} {installationId : String}
    {existing : Option WebhookDelivery} (hrun : isRunEvent d.eventType = true)
    (hcheck : checkDeliveryIdentity installationId (some repository) existing = .ok ()) :
    processConnected host config d call installationId connection (some repository) existing s =
      (recordDelivery host d call installationId connection (some repository) existing >>= fun _ =>
        processRunEvent host d call connection repository existing.isSome) s := by
  obtain ⟨-, hmonitored⟩ := isReconcilable_of_isRunEvent host hrun
  have hrecorded : processRecorded host config d call connection (some repository)
      existing.isSome = processRunEvent host d call connection repository existing.isSome := by
    rw [processRecorded]
    show (if _ then _ else _) = _
    rw [if_neg (by simp [hmonitored]), if_pos hrun]
  rw [processConnected, Call.lift_ok_bind hcheck]
  show (if _ then _ else _ : DatabaseCall _) s = _
  rw [if_neg (by simp [hmonitored]), hrecorded]

/-- The first commit touches the delivery's row at most. -/
theorem recordDelivery_ok {s s' : State Store} {installationId : String}
    {repository : Option Repository} {existing : Option WebhookDelivery}
    (h : recordDelivery host d call installationId connection repository existing s = (.ok (), s')) :
    ∃ deliveries, s'.cur = { s.cur with deliveries := deliveries } := by
  obtain ⟨u, s₁, hadd, h⟩ := Call.bind_eq_ok.mp h
  obtain ⟨-, rfl⟩ := Prod.mk.inj h
  cases existing with
  | some row =>
    obtain ⟨-, rfl⟩ := Call.pure_eq_ok.mp hadd
    exact ⟨s.cur.deliveries, rfl⟩
  | none =>
    rw [addMissingDelivery, addDelivery, read_bind_apply] at hadd
    cases hinsert : s.cur.deliveries.insert
        (newDelivery host d call installationId connection repository) with
    | some deliveries =>
      rw [hinsert] at hadd
      obtain ⟨-, rfl⟩ := Prod.mk.inj hadd
      exact ⟨deliveries, rfl⟩
    | none =>
      rw [hinsert] at hadd
      cases hadd

/-- A call that returned had a valid signature. -/
theorem processGithubWebhook_signed {s s' : State Store} {response : WebhookResponse}
    (h : processGithubWebhook host config d call s = (.ok response, s')) :
    checkSignature host config d = .ok () := by
  obtain ⟨u, hsigned, -⟩ := Call.lift_bind_eq_ok.mp h
  exact hsigned

/-- A reconcilable delivery that was accepted left a row that matches, and a run
event left what it records. -/
theorem firstCall_ok {s : Store} {s' : State Store} {response : WebhookResponse}
    (hlinked : Linked host d connection repository ids s)
    (hevent : isReconcilable d.eventType = true)
    (h : processGithubWebhook host config d call (State.start s) = (.ok response, s')) :
    Matches d ids.1 repository s'.base ∧
      (isRunEvent d.eventType = true → ∃ n event, normalizeDelivery host d repository = .ok n ∧
        (githubEvent d connection repository n call.now).WellFormed host ∧
        Recorded host d connection repository call.now n event s'.base) := by
  rw [processGithubWebhook_linked (processGithubWebhook_signed h) hlinked hevent] at h
  refine ⟨processConnected_matches h, fun hrun => ?_⟩
  obtain ⟨u, hcheck, -⟩ := Call.lift_bind_eq_ok.mp h
  rw [processConnected_run hrun hcheck] at h
  obtain ⟨u, s₁, hrecord, h⟩ := Call.bind_eq_ok.mp h
  obtain ⟨deliveries, hcur⟩ := recordDelivery_ok hrecord
  have hlinked₁ : Linked host d connection repository ids s₁.cur := by
    rw [hcur]
    exact hlinked
  exact processRunEvent_ok hlinked₁ h

end First

/-! ## The redelivery -/

section Again

variable {host : Host} {config : WebhookConfig} {d : GithubDelivery} {call again : WebhookCall}
  {connection : ProviderConnection} {repository : Repository} {ids : String × String}

/-- The ledger, the changes and the jobs are as they were. -/
def Unaffected (s s' : Store) : Prop :=
  s'.events = s.events ∧ s'.changes = s.changes ∧ s'.jobs = s.jobs

/-- The delivery is accepted, without an effect. -/
def AcceptedIdle (host : Host) (config : WebhookConfig) (d : GithubDelivery) (call : WebhookCall)
    (s : Store) : Prop :=
  ∃ response s', (processGithubWebhook host config d call).run s = (.ok response, s') ∧
    response.status = "accepted" ∧ Unaffected s s'

/-- The change matched with an update differs from it. -/
def DiffersFrom (u : DeploymentUpdate) (change : ChangeRecord) : Prop :=
  change.deploymentEnvironment ≠ u.environment ∨
    change.deploymentStatus ≠ (legacyDeploymentStatus.get? u.status).getD ""

/-- The deployment has been given to another delivery since, of no later provider
time than the update, and the update would change something: the row is another
repository's, or the matched change differs. -/
def Overwrites (s : Store) (d : GithubDelivery) (connection : ProviderConnection)
    (repository : Repository) (u : DeploymentUpdate) : Prop :=
  ∃ record, deploymentRow s connection u = some record ∧
    isLastDelivery record d.deliveryId = false ∧
    record.providerUpdatedAt ≤ u.providerUpdatedAt ∧
    (record.repositoryId ≠ repository.id ∨
      ∃ change, matchedChange s connection.workspaceId repository.id u.commitSha
        u.providerUpdatedAt = some change ∧ DiffersFrom u change)

/-- When a redelivery is accepted without an effect. -/
def RepeatCondition (host : Host) (d : GithubDelivery) (connection : ProviderConnection)
    (repository : Repository) (first again : Time) (s : Store) : Prop :=
  isRunEvent d.eventType = true → ∃ p, carriedTime host d = .ok (some p) ∧
    p ≤ first + minutes 5 ∧ again - days 366 ≤ p ∧
    (isDeploymentEvent d.eventType = true → ∀ u, deploymentUpdate host d.payload p = .ok (some u) →
      ¬Overwrites s d connection repository u)

/-- At a later moment the time is the same and still admitted just when the
payload carries it and it was not too far ahead. -/
theorem eventTimestamp_again {carried : Option Time} {first again : Time} (h : first < again) :
    (eventTimestamp carried again = eventTimestamp carried first ∧
        Admissible again (eventTimestamp carried again)) ↔
      ∃ p, carried = some p ∧ p ≤ first + minutes 5 ∧ again - days 366 ≤ p := by
  have hminutes : 0 < minutes 5 := by decide
  cases carried with
  | none =>
    -- without a time of its own the event takes the receipt's, which has moved
    have hnow : ∀ t : Time, eventTimestamp none t = t := by
      intro t
      show (if t + minutes 5 < t then t else t) = t
      rw [ite_self]
    rw [hnow, hnow]
    constructor
    · intro h
      obtain ⟨heq, -⟩ := h
      exact absurd heq h.ne'
    · intro h
      obtain ⟨p, hp, -⟩ := h
      cases hp
  | some p =>
    -- the first receipt believed the time; so does every later one
    by_cases hfirst : p ≤ first + minutes 5
    · rw [eventTimestamp_carried hfirst, eventTimestamp_carried (by linarith)]
      constructor
      · intro h
        obtain ⟨-, hadmissible⟩ := h
        exact ⟨p, rfl, hfirst, hadmissible.2⟩
      · intro h
        obtain ⟨p', hp, -, hold⟩ := h
        cases hp
        exact ⟨rfl, by linarith, hold⟩
    · -- the first receipt replaced a time too far ahead by its own
      have hthen : eventTimestamp (some p) first = first := if_pos (not_le.mp hfirst)
      rw [hthen]
      constructor
      · intro h
        obtain ⟨heq, -⟩ := h
        by_cases hnow : p ≤ again + minutes 5
        · rw [eventTimestamp_carried hnow] at heq
          exact absurd heq (by linarith)
        · rw [show eventTimestamp (some p) again = again from if_pos (not_le.mp hnow)] at heq
          exact absurd heq h.ne'
      · intro h
        obtain ⟨p', hp, hle, -⟩ := h
        cases hp
        exact absurd hle hfirst

/-- Setting the matched change leaves the changes as they are just when it does
not differ. -/
theorem deployChanges_eq_iff {u : DeploymentUpdate} {change : ChangeRecord}
    {changes : Table ChangeRecord.id} (h : change ∈ changes.rows) :
    deployChanges u (some change) changes = changes ↔ ¬DiffersFrom u change := by
  have hset : deployChange u change = change ↔ ¬DiffersFrom u change := by
    unfold DiffersFrom deployChange
    cases change
    simp [eq_comm, and_comm]
  rw [← hset]
  constructor
  · intro heq
    have hget := congrArg (fun t => Table.get? t change.id) heq
    rw [Table.get?_of_mem h] at hget
    unfold deployChanges at hget
    dsimp only at hget
    rw [Table.get?_updateWhere, Table.get?_of_mem h] at hget
    simpa using hget
  · intro heq
    have hrows : (deployChanges u (some change) changes).rows = changes.rows := by
      show changes.rows.map _ = _
      conv_rhs => rw [← List.map_id changes.rows]
      refine List.map_congr_left fun row hrow => ?_
      by_cases hid : row.id = change.id
      · rw [changes.eq_of_key_eq hrow h hid, if_pos (by simp)]
        exact heq
      · rw [if_neg (by simpa using hid)]
        rfl
    cases hchanges : deployChanges u (some change) changes
    rw [hchanges] at hrows
    cases changes
    cases hrows
    rfl

/-- The change matched is a stored one. -/
theorem matchedChange_mem {s : Store} {workspaceId repositoryId : String} {sha : Option String}
    {t : Time} {change : ChangeRecord}
    (h : matchedChange s workspaceId repositoryId sha t = some change) : change ∈ s.changes.rows := by
  unfold matchedChange at h
  split at h
  · cases h
  · exact (Table.mem_select.mp ((List.mem_insertionSort _).mp (List.mem_of_find?_eq_some h))).1

/-- The upsert of a recorded delivery leaves changes and jobs alone just when it
would not overwrite a later delivery. -/
theorem upsertDeploymentOf_again (call : WebhookCall) {event : OperationalEvent} {s : State Store}
    (hrecorded : isDeploymentEvent d.eventType = true → ∃ update,
      deploymentUpdate host d.payload event.occurredAt = .ok update ∧
        ∀ u, update = some u → deploymentRow s.cur connection u ≠ none) :
    (∃ s', upsertDeploymentOf host d call connection repository event s = (.ok (), s') ∧
        Unaffected s.cur s'.cur) ↔
      (isDeploymentEvent d.eventType = true → ∀ u,
        deploymentUpdate host d.payload event.occurredAt = .ok (some u) →
          ¬Overwrites s.cur d connection repository u) := by
  unfold upsertDeploymentOf
  by_cases hdeployment : isDeploymentEvent d.eventType = true
  · rw [if_pos hdeployment]
    obtain ⟨update, hupdate, hrow⟩ := hrecorded hdeployment
    cases update with
    | none =>
      have hupsert := upsertGithubDeployment_none (s := s)
        (c := deploymentCall d call connection repository event) hupdate
      constructor
      · intro _ _ u hu
        rw [hupdate] at hu
        cases hu
      · exact fun _ => ⟨s, bind_of_ok hupsert, rfl, rfl, rfl⟩
    | some u =>
      let c := deploymentCall d call connection repository event
      have hupsert := upsertGithubDeployment_some (s := s) (c := c) hupdate
      obtain ⟨record, hrecord⟩ : ∃ record,
          s.cur.deployments.get? (deploymentIdentity u c) = some record :=
        Option.ne_none_iff_exists'.mp (hrow u rfl)
      have honly : (isDeploymentEvent d.eventType = true → ∀ u',
          deploymentUpdate host d.payload event.occurredAt = .ok (some u') →
            ¬Overwrites s.cur d connection repository u') ↔
          ¬Overwrites s.cur d connection repository u := by
        constructor
        · exact fun h => h hdeployment u hupdate
        · intro h _ u' hu'
          rw [hupdate] at hu'
          cases hu'
          exact h
      rw [honly]
      by_cases hkept : isLastDelivery record d.deliveryId ∨
          u.providerUpdatedAt < record.providerUpdatedAt
      · -- the row names the delivery as its last, or has a later provider time
        constructor
        · intro _ h
          obtain ⟨record', hrecord', hlast, hnew, -⟩ := h
          cases hrecord.symm.trans hrecord'
          rcases hkept with hkept | hkept
          · rw [hlast] at hkept
            cases hkept
          · exact absurd hkept (not_lt.mpr hnew)
        · intro _
          exact ⟨s, bind_of_ok (hupsert.trans (upsertRow_kept hrecord hkept)), rfl, rfl, rfl⟩
      · obtain ⟨hlast, hnew⟩ := not_or.mp hkept
        rw [Bool.not_eq_true] at hlast
        have hlater := hupsert.trans (upsertRow_later hrecord hlast (not_lt.mp hnew))
        have hoverwrites : Overwrites s.cur d connection repository u ↔
            record.repositoryId ≠ repository.id ∨
              ∃ change, matchedChange s.cur connection.workspaceId repository.id u.commitSha
                u.providerUpdatedAt = some change ∧ DiffersFrom u change := by
          constructor
          · intro h
            obtain ⟨record', hrecord', -, -, h⟩ := h
            cases hrecord.symm.trans hrecord'
            exact h
          · exact fun h => ⟨record, hrecord, hlast, not_lt.mp hnew, h⟩
        rw [hoverwrites]
        by_cases hscope : record.repositoryId = repository.id
        · -- the update is applied: what it does to the changes decides
          obtain ⟨deployments, -, hrun⟩ := applyDeployment_ok
            (matchedChange s.cur connection.workspaceId repository.id u.commitSha
              u.providerUpdatedAt) _ hrecord hscope
          have hend := bind_of_ok (f := fun _ => pure ()) (hlater.trans hrun)
          have hchanges : deployChanges u (matchedChange s.cur connection.workspaceId repository.id
              u.commitSha u.providerUpdatedAt) s.cur.changes = s.cur.changes ↔
              ¬∃ change, matchedChange s.cur connection.workspaceId repository.id u.commitSha
                u.providerUpdatedAt = some change ∧ DiffersFrom u change := by
            cases hmatched : matchedChange s.cur connection.workspaceId repository.id u.commitSha
                u.providerUpdatedAt with
            | none => simp [deployChanges]
            | some change =>
              rw [deployChanges_eq_iff (matchedChange_mem hmatched)]
              simp
          rw [or_iff_right (not_not.mpr hscope), ← hchanges]
          constructor
          · intro h
            obtain ⟨s', hs', -, heq, -⟩ := h
            cases hend.symm.trans hs'
            exact heq
          · exact fun heq => ⟨_, hend, rfl, heq, rfl⟩
        · have hend := bind_of_error (f := fun _ => pure ())
            (hlater.trans (applyDeployment_mismatch hscope))
          constructor
          · intro h
            obtain ⟨s', hs', -⟩ := h
            cases hend.symm.trans hs'
          · exact fun h => absurd (Or.inl hscope) h
  · rw [if_neg hdeployment]
    exact ⟨fun _ h => absurd h hdeployment, fun _ => ⟨s, rfl, rfl, rfl, rfl⟩⟩

section Ledger

variable {s : State Store} {n : NormalizedDelivery} {event : OperationalEvent} {first : Time}

/-- With the time it had the event is found, and nothing is written. -/
theorem githubOperationalEvent_again (hlinked : Linked host d connection repository ids s.cur)
    (hn : normalizeDelivery host d repository = .ok n)
    (hwell : (githubEvent d connection repository n first).WellFormed host)
    (hrecorded : Recorded host d connection repository first n event s.cur)
    (hsame : eventTimestamp n.carried again.now = eventTimestamp n.carried first)
    (hadmissible : Admissible again.now (eventTimestamp n.carried again.now)) :
    githubOperationalEvent host d connection repository again s = (.ok event, s) := by
  rcases githubOperationalEvent_cases hlinked hn (wellFormed_githubEvent hwell) hadmissible with
    ⟨event', events, entry, hfree, -⟩ | ⟨event', hget, -, hrun⟩ | ⟨event', hget, hne, -⟩
  · rw [hrecorded.stored] at hfree
    cases hfree
  · cases hrecorded.stored.symm.trans hget
    exact hrun
  · cases hrecorded.stored.symm.trans hget
    exact absurd (hrecorded.material.trans (deliveryMaterial_eq_iff.mpr hsame.symm)) hne

/-- A call that was accepted again had the time of the first. -/
theorem githubOperationalEvent_again_ok {s' : State Store} {event' : OperationalEvent}
    (hlinked : Linked host d connection repository ids s.cur)
    (hn : normalizeDelivery host d repository = .ok n)
    (hrecorded : Recorded host d connection repository first n event s.cur)
    (h : githubOperationalEvent host d connection repository again s = (.ok event', s')) :
    eventTimestamp n.carried again.now = eventTimestamp n.carried first ∧
      Admissible again.now (eventTimestamp n.carried again.now) := by
  obtain ⟨n', hn', hwell, hadmissible⟩ := githubOperationalEvent_ok h
  cases hn.symm.trans hn'
  refine ⟨?_, hadmissible⟩
  rcases githubOperationalEvent_cases hlinked hn hwell hadmissible with
    ⟨event', events, entry, hfree, -⟩ | ⟨event', hget, hmaterial, -⟩ | ⟨event', hget, -, hrun⟩
  · rw [hrecorded.stored] at hfree
    cases hfree
  · cases hrecorded.stored.symm.trans hget
    exact deliveryMaterial_eq_iff.mp (hmaterial.symm.trans hrecorded.material)
  · cases hrun.symm.trans h

/-- A run event that is recorded goes through again without an effect just under
the condition. -/
theorem processRunEvent_again (hlinked : Linked host d connection repository ids s.cur)
    (hn : normalizeDelivery host d repository = .ok n)
    (hwell : (githubEvent d connection repository n first).WellFormed host)
    (hrecorded : Recorded host d connection repository first n event s.cur)
    (hlater : first < again.now) :
    (∃ response s', processRunEvent host d again connection repository true s =
        (.ok response, s') ∧ response.status = "accepted" ∧ Unaffected s.cur s'.base) ↔
      ∃ p, carriedTime host d = .ok (some p) ∧ p ≤ first + minutes 5 ∧
        again.now - days 366 ≤ p ∧ (isDeploymentEvent d.eventType = true → ∀ u,
          deploymentUpdate host d.payload p = .ok (some u) →
            ¬Overwrites s.cur d connection repository u) := by
  have hcarried := normalizeDelivery_carried hn
  have hoccurred := hrecorded.occurredAt
  constructor
  · intro h
    obtain ⟨response, s', h, -, hunaffected⟩ := h
    -- the event step answers only if the time read again is the recorded one
    obtain ⟨event', s₁, hevent, h⟩ := Call.bind_eq_ok.mp h
    obtain ⟨hsame, hadmissible⟩ := githubOperationalEvent_again_ok hlinked hn hrecorded hevent
    cases (githubOperationalEvent_again hlinked hn hwell hrecorded hsame hadmissible).symm.trans
      hevent
    obtain ⟨u, s₂, hupsert, h⟩ := Call.bind_eq_ok.mp h
    rw [write_bind_apply, commit_bind_apply] at h
    obtain ⟨-, rfl⟩ := Call.pure_eq_ok.mp h
    obtain ⟨p, hp, hfirst, hold⟩ := (eventTimestamp_again hlater).mp ⟨hsame, hadmissible⟩
    -- a time within the first receipt's tolerance was recorded as it was sent
    have htime : event.occurredAt = p := by
      rw [hoccurred, hp]
      exact if_neg (not_lt.mpr hfirst)
    refine ⟨p, hp ▸ hcarried, hfirst, hold, ?_⟩
    rw [← htime]
    exact (upsertDeploymentOf_again again hrecorded.deployment).mp ⟨s₂, hupsert, hunaffected⟩
  · -- conversely the event is found unchanged, and the upsert overwrites nothing
    intro h
    obtain ⟨p, hp, hfirst, hold, hoverwrites⟩ := h
    have hcarried' : n.carried = some p := Except.ok.inj (hcarried.symm.trans hp)
    obtain ⟨hsame, hadmissible⟩ := (eventTimestamp_again hlater).mpr ⟨p, hcarried', hfirst, hold⟩
    have htime : event.occurredAt = p := by
      rw [hoccurred, hcarried']
      exact if_neg (not_lt.mpr hfirst)
    rw [← htime] at hoverwrites
    obtain ⟨s₂, hupsert, hunaffected⟩ :=
      (upsertDeploymentOf_again again hrecorded.deployment).mpr hoverwrites
    refine ⟨respond d "accepted" "Duplicate delivery was reconciled with the event ledger.",
      (s₂.written (markDelivery d "processed")).committed, ?_, rfl, hunaffected⟩
    · rw [processRunEvent, bind_of_ok (githubOperationalEvent_again hlinked hn hwell hrecorded
        hsame hadmissible), bind_of_ok hupsert, write_bind_apply, commit_bind_apply]
      rfl

end Ledger

/-- A pull request that was processed comes back without a commit that changes
anything. -/
theorem processConnected_again {s : Store} {installationId : String} {row : WebhookDelivery}
    (hrun : isRunEvent d.eventType = false)
    (hprocessed : row.status = "processed")
    (hcheck : checkDeliveryIdentity installationId (some repository) (some row) = .ok ()) :
    ∃ response s', processConnected host config d again installationId connection
        (some repository) (some row) (State.start s) = (.ok response, s') ∧
      response.status = "accepted" ∧ s'.base = s := by
  rw [processConnected, Call.lift_ok_bind hcheck]
  by_cases hmonitored : isMonitoredPullRequest host d
  · rw [if_pos (by simp [hmonitored, hprocessed])]
    exact ⟨_, _, rfl, rfl, rfl⟩
  · rw [if_neg (by simp [hmonitored])]
    have hrecorded : processRecorded host config d again connection (some repository) true =
        pure (respond d "accepted" "Duplicate delivery was already recorded.") := by
      rw [processRecorded]
      show (if _ then _ else _) = _
      rw [if_neg hmonitored, if_neg (by simp [hrun])]
      rfl
    refine ⟨respond d "accepted" "Duplicate delivery was already recorded.",
      (State.start s).committed, ?_, rfl, rfl⟩
    show (recordDelivery host d again installationId connection (some repository) (some row) >>=
      fun _ => processRecorded host config d again connection (some repository) true) _ = _
    rw [hrecorded]
    rfl

/-- **Redelivery.** A delivery that a call recorded as processed is gone through
again later, after any run of the service and with its connection and repository
as they were. It is accepted without an effect just under the condition: for a
pull request always; for a run event, if the payload carries a time that was not
too far ahead the first time and is not too old the second, and no deployment
would be set back. -/
theorem redelivery_idempotent_iff {config' : WebhookConfig} {s₁ s₁' s₂ : Store}
    {response : WebhookResponse} {row : WebhookDelivery} {steps : List ServiceStep}
    (hlinked₁ : Linked host d connection repository ids s₁)
    (hfirst : (processGithubWebhook host config d call).run s₁ = (.ok response, s₁'))
    (hrow : s₁'.deliveries.get? (deliveryKey d) = some row) (hprocessed : row.status = "processed")
    (hrun : (webhookSystem host).run s₁' steps = some s₂)
    (hlinked₂ : Linked host d connection repository ids s₂)
    (hsigned : checkSignature host config' d = .ok ()) (hlater : call.now < again.now) :
    AcceptedIdle host config' d again s₂ ↔
      RepeatCondition host d connection repository call.now again.now s₂ := by
  have hpersists := webhookSystem_persists hrun
  have hrow₂ : s₂.deliveries.get? (deliveryKey d) = some row :=
    hpersists.processed _ row hrow hprocessed
  cases hend : processGithubWebhook host config d call (State.start s₁) with
  | mk result t =>
    rw [run_eq hend] at hfirst
    obtain ⟨rfl, rfl⟩ := Prod.mk.inj hfirst
    by_cases hevent : isReconcilable d.eventType = true
    · obtain ⟨hmatches, hrecorded⟩ := firstCall_ok hlinked₁ hevent hend
      have hcheck : checkDeliveryIdentity ids.1 (some repository) (some row) = .ok () := by
        rw [← hrow]
        exact hmatches
      have hagain : processGithubWebhook host config' d again (State.start s₂) = _ :=
        processGithubWebhook_linked hsigned hlinked₂ hevent
      rw [show (State.start s₂).cur.deliveries.get? (deliveryKey d) = some row from hrow₂] at hagain
      by_cases hkind : isRunEvent d.eventType = true
      · obtain ⟨n, event, hn, hwell, hrec⟩ := hrecorded hkind
        rw [processConnected_run hkind hcheck] at hagain
        have hagain : processGithubWebhook host config' d again (State.start s₂) =
            processRunEvent host d again connection repository true (State.start s₂).committed :=
          hagain
        have hiff := processRunEvent_again (s := (State.start s₂).committed) hlinked₂ hn hwell
          (hrec.persists hpersists) hlater
        refine Iff.trans ?_ (hiff.trans ⟨fun h _ => h, fun h => h hkind⟩)
        constructor
        · intro h
          obtain ⟨response', s', hs', haccepted, hunaffected⟩ := h
          cases hend' : processGithubWebhook host config' d again (State.start s₂) with
          | mk result t' =>
            rw [run_eq hend'] at hs'
            obtain ⟨rfl, rfl⟩ := Prod.mk.inj hs'
            exact ⟨response', t', hagain.symm.trans hend', haccepted, hunaffected⟩
        · intro h
          obtain ⟨response', t', ht', haccepted, hunaffected⟩ := h
          exact ⟨response', t'.base, run_eq (hagain.trans ht'), haccepted, hunaffected⟩
      · rw [Bool.not_eq_true] at hkind
        obtain ⟨response', t', ht', haccepted, hbase⟩ :=
          processConnected_again hkind hprocessed hcheck
        refine iff_of_true ⟨response', t'.base, run_eq (hagain.trans ht'), haccepted, ?_⟩
          fun h => absurd h (by simp [hkind])
        rw [hbase]
        exact ⟨rfl, rfl, rfl⟩
    · -- other families are recognised before anything is looked up
      have hkind : ¬isRunEvent d.eventType = true :=
        fun h => hevent (isReconcilable_of_isRunEvent host h).1
      have hagain : processGithubWebhook host config' d again (State.start s₂) =
          (.ok (respond d "accepted" "Duplicate delivery was already recorded."),
            State.start s₂) := by
        rw [processGithubWebhook, Call.lift_ok_bind hsigned, read_bind_apply]
        show (if _ then _ else _ : DatabaseCall _) _ = _
        rw [show (State.start s₂).cur.deliveries.get? (deliveryKey d) = some row from hrow₂,
          if_pos (by simp [hevent])]
        rfl
      exact iff_of_true ⟨_, _, run_eq hagain, rfl, rfl, rfl, rfl⟩ fun h => absurd h hkind

end Again

/-! ## A run without a time -/

/-- The connection and the repository of the deliveries below. -/
def checkoutConnection : ProviderConnection where
  id := "con-1"
  workspaceId := "ws-1"
  provider := "github"
  installationId := "7"
  externalAccountId := "1"
  externalAccountLogin := "acme"
  externalAccountType := "Organization"
  connectionState := "connected"
  permissions := []
  repositorySelection := "selected"
  createdByUserId := "usr-1"
  createdAt := 0
  updatedAt := 0
  lastSyncedAt := none
  errorCode := none

def checkoutRepository : Repository where
  id := "rep-1"
  workspaceId := "ws-1"
  provider := "github"
  providerRepositoryId := "9"
  fullName := "acme/checkout"
  defaultBranch := "main"
  visibility := "private"
  connectionState := "connected"
  dataMode := "connected"
  selected := true
  lastSyncedAt := none
  createdAt := 0

/-- A database with the connection and the repository, where no webhook has come in. -/
def checkoutStore : Store :=
  { Store.empty with
    connections := ⟨[checkoutConnection], by decide⟩
    repositories := ⟨[checkoutRepository], by decide⟩ }

/-- A `workflow_run` delivery whose payload carries no time. -/
def runDelivery : GithubDelivery where
  eventType := "workflow_run"
  deliveryId := "d-1"
  payload := [("installation", .dict [("id", .int 7)]), ("repository", .dict [("id", .int 9)]),
    ("workflow_run", .dict [("name", .str "ci")])]
  signature := "sha256="
  rawBody := []

def webhookConfig : WebhookConfig where
  secret := "s"
  allowSyntheticFallback := false
  settings := none

def webhookCall (now : Time) : WebhookCall where
  now := now
  newDeliveryId := "row-1"
  newEventId := "event-1"
  newDeploymentId := "dep-1"
  newJobId := "job-1"
  requestIdValue := none
  traceparent := none
  tracestate := none

/-- The database after the first processing. -/
def recordedStore : Store :=
  ((processGithubWebhook asciiHost webhookConfig runDelivery (webhookCall 0)).run checkoutStore).2

def recordedResponse : WebhookResponse :=
  respond runDelivery "accepted" "Verified provider event was durably recorded."

/-- The first call is accepted and records the delivery as processed. A minute
later, with nothing changed, it is refused. -/
theorem redelivery_without_time_refused :
    (processGithubWebhook asciiHost webhookConfig runDelivery (webhookCall 0)).run checkoutStore =
      (.ok recordedResponse, recordedStore) ∧
    (recordedStore.deliveries.get? ("github", "d-1")).map (·.status) = some "processed" ∧
    Linked asciiHost runDelivery checkoutConnection checkoutRepository ("7", "9") checkoutStore ∧
    Linked asciiHost runDelivery checkoutConnection checkoutRepository ("7", "9") recordedStore ∧
    ¬AcceptedIdle asciiHost webhookConfig runDelivery (webhookCall (seconds 60)) recordedStore := by
  have hrun : ((processGithubWebhook asciiHost webhookConfig runDelivery (webhookCall 0)).run
        checkoutStore).1 = .ok recordedResponse ∧
      (recordedStore.deliveries.get? ("github", "d-1")).map (·.status) = some "processed" ∧
      Linked asciiHost runDelivery checkoutConnection checkoutRepository ("7", "9")
        recordedStore ∧
      ((processGithubWebhook asciiHost webhookConfig runDelivery
        (webhookCall (seconds 60))).run recordedStore).1 = .error (.domain
          "Provider event ID was already used with different event data"
          "operational_event_idempotency_conflict" 409) := by decide +kernel
  obtain ⟨hfirst, hstatus, hlinked, hagain⟩ := hrun
  refine ⟨by rw [← hfirst, recordedStore], hstatus, by decide +kernel, hlinked, ?_⟩
  intro h
  obtain ⟨response, s', hrun, -⟩ := h
  rw [hrun] at hagain
  cases hagain

/-- The same delivery with the time of its run. -/
def datedDelivery : GithubDelivery :=
  { runDelivery with
    payload := [("installation", .dict [("id", .int 7)]), ("repository", .dict [("id", .int 9)]),
      ("workflow_run", .dict [("updated_at", .str "1970-01-01T00:00:00Z")])] }

/-- A host that knows the first moment of the epoch. -/
def epochHost : Host :=
  { asciiHost with
    fromisoformat := fun text =>
      if text = "1970-01-01T00:00:00+00:00" then .at 0 else .invalid }

def datedStore : Store :=
  ((processGithubWebhook epochHost webhookConfig datedDelivery (webhookCall 0)).run checkoutStore).2

theorem redelivery_idempotent_dated :
    AcceptedIdle epochHost webhookConfig datedDelivery (webhookCall (seconds 60)) datedStore := by
  have hend : ((processGithubWebhook epochHost webhookConfig datedDelivery
        (webhookCall 0)).run checkoutStore).1 = .ok recordedResponse ∧
      (datedStore.deliveries.get? (deliveryKey datedDelivery)).map (·.status) =
        some "processed" ∧
      Linked epochHost datedDelivery checkoutConnection checkoutRepository ("7", "9")
        datedStore := by decide +kernel
  obtain ⟨haccepted, hstatus, hlinked₂⟩ := hend
  have hfirst : (processGithubWebhook epochHost webhookConfig datedDelivery (webhookCall 0)).run
      checkoutStore = (.ok recordedResponse, datedStore) := by rw [← haccepted, datedStore]
  obtain ⟨row, hrow, hprocessed⟩ := Option.map_eq_some_iff.mp hstatus
  have hlinked : Linked epochHost datedDelivery checkoutConnection checkoutRepository ("7", "9")
      checkoutStore := by decide +kernel
  have hrun : (webhookSystem epochHost).run datedStore [] = some datedStore := rfl
  refine (redelivery_idempotent_iff hlinked hfirst hrow hprocessed hrun hlinked₂
    (by decide +kernel) (by decide)).mpr ?_
  exact fun _ => ⟨0, by decide +kernel, by decide, by decide, fun h => absurd h (by decide)⟩

end DeployGuard.Service
