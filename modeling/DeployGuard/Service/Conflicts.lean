import DeployGuard.Service.Webhook

/-!
# Idempotency conflicts

An event whose identity was used with other material is answered with a conflict.
It is the ledger alone that answers so: what reads a delivery, validates a request,
prepares and computes an analysis or enqueues a job raises other errors.
-/

namespace DeployGuard.Service

open Raise

/-- The error of an event whose identity was used with other material. -/
def isConflict : ServiceError → Bool
  | .domain _ code _ => code == "operational_event_idempotency_conflict"
  | _ => false

/-- What is raised is no conflict. -/
abbrev NoConflict {α : Type} (x : Except ServiceError α) : Prop :=
  OnlyRaises (fun e => isConflict e = false) x

variable {host : Host}

/-! ## Reading values -/

/-- Reading an object raises no conflict. -/
theorem asObject_noConflict {value : Value} : NoConflict (asObject value) := by
  unfold asObject
  split
  · exact .ok
  · split
    · exact .error rfl
    · exact .ok

/-- Converting to an integer raises no conflict. -/
theorem toInt_noConflict {value : Value} : NoConflict (toInt value) := by
  unfold toInt
  split
  · exact .ok
  · exact .ok
  · exact .ok
  · exact .error rfl
  · exact .error rfl
  · split
    · exact .ok
    · exact .error rfl
  · exact .error rfl

/-- Converting to a number raises none. -/
theorem toFloat_noConflict {value : Value} : NoConflict (toFloat value) := by
  unfold toFloat
  split
  · exact .ok
  · exact .ok
  · split
    · exact .error rfl
    · exact .ok
  · split
    · exact .ok
    · exact .error rfl
  · exact .error rfl

/-- A missing key is a `KeyError`. -/
theorem requireItem_noConflict {items : Items} {key : String} :
    NoConflict (requireItem items key) := by
  unfold requireItem
  split
  · exact .ok
  · exact .error rfl

/-! ## Reading deliveries -/

/-- A timestamp that does not parse is a `ValueError`. -/
theorem timelineTimestamp_noConflict {value : Value} : NoConflict (timelineTimestamp host value) := by
  unfold timelineTimestamp
  split
  · unfold parseIso
    split
    · exact .ok
    · exact .error rfl
    · exact .ok
  · exact .ok

/-- Taking the first timestamp that parses raises no conflict. -/
theorem firstTimestamp_noConflict {values : List Value} : NoConflict (firstTimestamp host values) := by
  induction values with
  | nil => exact .ok
  | cons value rest ih =>
    refine .bind timelineTimestamp_noConflict fun parsed => ?_
    split
    · exact ih
    · exact .pure

theorem payloadObjects_noConflict {payload : Items} : NoConflict (payloadObjects payload) :=
  .bind asObject_noConflict fun _ => .bind asObject_noConflict fun _ =>
    .bind asObject_noConflict fun _ => .bind asObject_noConflict fun _ => .pure

/-- Looking a field up behind `or` raises no conflict. -/
theorem orLookup_noConflict {value source : Value} {key : String} :
    NoConflict (orLookup value source key) := by
  unfold orLookup
  split
  · exact .ok
  · exact .bind asObject_noConflict fun _ => .pure

theorem dropBlank_noConflict {items : Items} : NoConflict (dropBlank items) := by
  induction items with
  | nil => exact .ok
  | cons item rest ih =>
    obtain ⟨key, value⟩ := item
    unfold dropBlank
    split
    · exact .error rfl
    · exact .error rfl
    · exact .bind ih fun _ => .pure

/-- A delivery of the wrong shape is an error of its shape. -/
theorem normalizeDelivery_noConflict {d : GithubDelivery} {repository : Repository} :
    NoConflict (normalizeDelivery host d repository) := by
  refine .bind payloadObjects_noConflict fun o => ?_
  refine .bind firstTimestamp_noConflict fun carried => ?_
  refine .bind (.bind orLookup_noConflict fun _ => .pure) fun name => ?_
  refine .bind ?_ fun attributes => .pure
  exact .bind orLookup_noConflict fun _ => .bind orLookup_noConflict fun _ =>
    dropBlank_noConflict

/-- Reading the labels of a pull request raises no conflict. -/
theorem labelNames_noConflict {value : Value} : NoConflict (labelNames host value) := by
  unfold labelNames
  split
  · exact .ok
  · exact .ok
  · exact .ok
  · exact .error rfl

/-- Building the request of an analysis raises no conflict. -/
theorem pullRequestRequest_noConflict {d : GithubDelivery} {repository : Repository} :
    NoConflict (pullRequestRequest host d repository) := by
  refine .bind asObject_noConflict fun pr => .bind asObject_noConflict fun head => ?_
  refine .bind labelNames_noConflict fun labels => .bind asObject_noConflict fun user => ?_
  refine .bind toInt_noConflict fun filesChanged => .bind toInt_noConflict fun added => ?_
  refine .bind toInt_noConflict fun deleted => ?_
  unfold AnalyzeChangeRequest.validate
  split
  · exact .ok
  · exact .error rfl

/-- An event that fails its schema is a validation error. -/
theorem validateEvent_noConflict {now : Time} {e : OperationalEventCreate} :
    NoConflict (e.validate host now) := by
  unfold OperationalEventCreate.validate
  split
  · exact .ok
  · exact .error rfl

/-- A publication that fails its schema is a validation error. -/
theorem validatePublication_noConflict {p : GitHubCheckPublishPayload} : NoConflict p.validate := by
  unfold GitHubCheckPublishPayload.validate
  split
  · exact .ok
  · exact .error rfl

/-! ## Preparing and computing an analysis -/

/-- A scenario that is not there is not found. -/
theorem activeScenario_noConflict {s : Store} {scope : AnalysisScope} :
    NoConflict (activeScenario s scope) := by
  unfold activeScenario
  split
  · exact .ok
  · exact .error rfl

/-- Nothing an analysis does before its lookup raises a conflict. -/
theorem prepareAnalysis_noConflict {s : Store} {request : AnalyzeChangeRequest}
    {scope : AnalysisScope} : NoConflict (prepareAnalysis host s request scope) := by
  refine .bind activeScenario_noConflict fun scenario => .bind ?_ fun roots => .pure
  unfold effectiveRoots
  split
  · exact .ok
  · exact .bind (.raiseIf rfl) fun _ => .pure

theorem requireTexts_noConflict {key : String} {items : List Items} :
    NoConflict (requireTexts host key items) := by
  induction items with
  | nil => exact .ok
  | cons item rest ih =>
    exact .bind requireItem_noConflict fun _ => .bind ih fun _ => .pure

/-- An edge whose confidence does not convert raises no conflict. -/
theorem relax_noConflict {known : Dict String Items} {source : Reached} {s : Search} {edge : Edge} :
    NoConflict (relax known source s edge) := by
  unfold relax
  split
  · exact .pure
  · exact .bind toFloat_noConflict fun _ => .pure

/-- Following the edges out of a service raises no conflict. -/
theorem relaxAll_noConflict {known : Dict String Items} {source : String} {s : Search}
    {edges : List Edge} : NoConflict (relaxAll known source s edges) := by
  induction edges generalizing s with
  | nil => exact .ok
  | cons edge edges ih =>
    unfold relaxAll
    split
    · exact .error rfl
    · exact .bind relax_noConflict fun _ => ih

/-- The whole search raises no conflict. -/
theorem search_noConflict {known : Dict String Items} {edges : List Edge} {maxHops fuel : Nat}
    {s : Search} : NoConflict (search known edges maxHops fuel s) := by
  induction fuel generalizing s with
  | zero => exact .ok
  | succ fuel ih =>
    unfold search
    split
    · exact .ok
    · split
      · exact .error rfl
      · split
        · exact ih
        · exact .bind relaxAll_noConflict fun _ => ih

theorem blastEdges_noConflict {reached : Dict String Reached} {edges : List Edge} :
    NoConflict (blastEdges reached edges) := by
  induction edges with
  | nil => exact .ok
  | cons edge edges ih =>
    unfold blastEdges
    split
    · exact .bind toFloat_noConflict fun _ => .bind ih fun _ => .pure
    · exact ih

/-- The engines raise no conflict together. -/
theorem runEngines_noConflict {a : Analysis} : NoConflict (runEngines host a) := by
  refine .bind requireTexts_noConflict fun ids => .bind ?_ fun blastRadius => .pure
  refine .bind requireTexts_noConflict fun ids => .bind ?_ fun edges => ?_
  · exact .bind requireTexts_noConflict fun _ => .bind requireTexts_noConflict fun _ => .pure
  · exact .bind search_noConflict fun found => .bind blastEdges_noConflict fun _ => .pure

/-- Nothing an analysis does behind its lookup raises a conflict. -/
theorem computeChange_noConflict {a : Analysis} {now : Time} :
    NoConflict (computeChange host a now) :=
  .bind runEngines_noConflict fun _ => .pure

/-! ## Enqueueing -/

/-- An error of the queue is passed on under its own name. -/
theorem queueError_noConflict {α : Type} {x : Except Jobs.QueueError α} :
    NoConflict (x.mapError .queue) := by
  cases x with
  | error e => exact .error rfl
  | ok a => exact .ok

end DeployGuard.Service
