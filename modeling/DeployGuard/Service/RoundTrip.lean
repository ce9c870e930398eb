import DeployGuard.Lib.Fields
import DeployGuard.Service.Contracts
import DeployGuard.Service.Invitations
import DeployGuard.Service.Publishing
import DeployGuard.Jobs.Credentials

/-!
# Contracts from the producer to the worker

A producer dumps a contract into the payload of a job, and the worker validates the
payload again. The validators rewrite what they are given: references and trace headers
are stripped, a `traceparent` is put in lower case, the members of a `tracestate` are
stripped one by one and joined again. A second pass finds nothing left to rewrite:

> `validateTraceparent_idem`, `validateTracestate_idem`: what a validator returns it
> accepts as it is;

> `contracts_roundTrip`: every contract a producer builds passes the queue's check and
> is the one the worker reads.
-/

namespace DeployGuard.Service

open Text

/-! ## The contract of an invitation email -/

def invitationEmailDeliverJob : String := "invitation.email.deliver.v1"

/-- `InvitationEmailDeliverPayload`. -/
structure InvitationEmailDeliverPayload where
  schemaVersion : Int := 1
  invitationId : String
  deriving DecidableEq

namespace InvitationEmailDeliverPayload

/-- `validate_invitation_reference`. -/
def errors (p : InvitationEmailDeliverPayload) : Schema.Errors :=
  Schema.field "invitation_id"
    [(Text.strip p.invitationId ≠ "" ∧ (Text.strip p.invitationId).length ≤ 160,
      "Value error, invitation_id must contain 1 to 160 characters")]

def validate (p : InvitationEmailDeliverPayload) :
    Except ServiceError InvitationEmailDeliverPayload :=
  if p.errors = [] then .ok { p with invitationId := Text.strip p.invitationId }
  else .error (.validation p.errors)

/-- `contract.model_dump(mode="json")`. -/
def modelDump (p : InvitationEmailDeliverPayload) : Items :=
  [("schema_version", .int p.schemaVersion), ("invitation_id", .str p.invitationId)]

end InvitationEmailDeliverPayload

def invitationEmailPayload (invitation : Invitation) : InvitationEmailDeliverPayload where
  invitationId := invitation.id

/-- What `enqueue_invitation_email_delivery` hands to `enqueue_job`. -/
def invitationEmailArgs (invitation : Invitation) (requestId : String) (commit : Bool)
    (newId : String) (now : Time) (contract : InvitationEmailDeliverPayload) :
    Jobs.EnqueueArgs where
  jobType := invitationEmailDeliverJob
  payload := .dict contract.modelDump
  idempotencyKey := some s!"invitation-email:{invitation.id}"
  workspaceId := some invitation.workspaceId
  requestId := some requestId
  maxAttempts := 1
  commit := commit
  newId := newId
  now := now

/-! ## Payloads in the worker

`none` is a `ValidationError`, of which the worker's handlers keep nothing. -/

/-- `extra="forbid"`. -/
def onlyFields (names : List String) (items : Items) : Bool :=
  items.all fun item => names.contains item.1

/-- `Literal[1] = 1`. -/
def versionField (items : Items) : Option Int :=
  if getItemD items "schema_version" (.int 1) = .int 1 then some 1 else none

/-- A field of type `str`. -/
def textField (items : Items) (name : String) : Option String :=
  match getItem items name with
  | .str value => some value
  | _ => none

/-- A field of type `str | None = None`. -/
def optionalTextField (items : Items) (name : String) : Option (Option String) :=
  match getItem items name with
  | .none => some none
  | .str value => some (some value)
  | _ => none

/-- `TraceContext.model_validate`. -/
def TraceContext.modelValidate (host : Host) (items : Items) : Option TraceContext :=
  if onlyFields ["traceparent", "tracestate"] items then do
    let traceparent ← (textField items "traceparent").bind (validateTraceparent host)
    let tracestate ← (optionalTextField items "tracestate").bind validateTracestate
    pure { traceparent, tracestate }
  else none

/-- `trace_context: TraceContext | None = None`. -/
def traceContextField (host : Host) (items : Items) : Option (Option TraceContext) :=
  match getItem items "trace_context" with
  | .none => some none
  | .dict context => (TraceContext.modelValidate host context).map some
  | _ => none

/-- `GitHubCheckPublishPayload.model_validate`. -/
def GitHubCheckPublishPayload.modelValidate (host : Host) (items : Items) :
    Option GitHubCheckPublishPayload :=
  if onlyFields ["schema_version", "connection_id", "repository_id", "change_id",
      "trace_context"] items then do
    let schemaVersion ← versionField items
    let connectionId ← textField items "connection_id"
    let repositoryId ← textField items "repository_id"
    let changeId ← textField items "change_id"
    let traceContext ← traceContextField host items
    let contract : GitHubCheckPublishPayload :=
      { schemaVersion, connectionId, repositoryId, changeId, traceContext }
    contract.validate.toOption
  else none

/-- `InvitationEmailDeliverPayload.model_validate`. -/
def InvitationEmailDeliverPayload.modelValidate (items : Items) :
    Option InvitationEmailDeliverPayload :=
  if onlyFields ["schema_version", "invitation_id"] items then do
    let schemaVersion ← versionField items
    let invitationId ← textField items "invitation_id"
    let contract : InvitationEmailDeliverPayload := { schemaVersion, invitationId }
    contract.validate.toOption
  else none

/-- The invitation the delivery handler reads off a payload is the contract's. -/
theorem deliverPayload_eq (items : Items) :
    deliverPayload items =
      (InvitationEmailDeliverPayload.modelValidate items).map (·.invitationId) := by
  have hfields : (items.all fun item => item.1 = "schema_version" || item.1 = "invitation_id") =
      onlyFields ["schema_version", "invitation_id"] items := by
    unfold onlyFields
    congr 1
    funext item
    rw [Bool.eq_iff_iff]
    simp
  unfold deliverPayload InvitationEmailDeliverPayload.modelValidate
  rw [hfields]
  split
  · rw [versionField, textField]
    split
    · cases getItem items "invitation_id" with
      | str value =>
        simp only [Option.bind_eq_bind, Option.bind_some]
        rw [InvitationEmailDeliverPayload.validate, InvitationEmailDeliverPayload.errors]
        by_cases hvalue : Text.strip value ≠ "" ∧ (Text.strip value).length ≤ 160
        · simp [Schema.field, hvalue, Except.toOption]
        · simp [Schema.field, hvalue, Except.toOption]
      | _ => rfl
    · rfl
  · rfl

/-! ## A `traceparent` -/

/-- A lower-case hexadecimal digit, by its code. -/
theorem toNat_of_isLowerHex {c : Char} (h : isLowerHex c = true) :
    (48 ≤ c.toNat ∧ c.toNat ≤ 57) ∨ (97 ≤ c.toNat ∧ c.toNat ≤ 102) := by
  rw [isLowerHex, Bool.or_eq_true, Bool.and_eq_true, decide_eq_true_eq, decide_eq_true_eq] at h
  obtain h | ⟨hlow, hhigh⟩ := h
  · have h := Char.isDigit_iff_toNat.mp h
    exact Or.inl h
  · rw [Char.le_def, UInt32.le_iff_toNat_le] at hlow hhigh
    exact Or.inr ⟨hlow, hhigh⟩

/-- A character lies in one part or in the other. -/
theorem mem_take_or_mem_drop {c : Char} {cs : List Char} (n : Nat) (h : c ∈ cs) :
    c ∈ cs.take n ∨ c ∈ cs.drop n := by
  rw [← List.mem_append, List.take_append_drop]
  exact h

/-- Fields and separators are all there is of the text. -/
theorem mem_of_traceparentFields {text : String} {fields : List (List Char)}
    (h : traceparentFields text = some fields) {c : Char} (hc : c ∈ text.toList) :
    isLowerHex c = true ∨ c = '-' := by
  unfold traceparentFields at h
  dsimp only at h
  split at h
  · next hshape =>
    obtain ⟨hlength, hseparators, hfields⟩ := hshape
    simp only [List.all_cons, List.all_nil, Bool.and_true, Bool.and_eq_true, decide_eq_true_eq,
      List.all_eq_true] at hseparators hfields
    obtain ⟨hversion, htrace, hparent, hflags⟩ := hfields
    obtain ⟨hsep₁, hsep₂, hsep₃⟩ := hseparators
    have hend : text.toList.drop 55 = [] := List.drop_eq_nil_of_le (by omega)
    -- the seven pieces, one after another
    obtain hc | hc := mem_take_or_mem_drop 2 hc
    · exact Or.inl (hversion c hc)
    obtain hc | hc := mem_take_or_mem_drop 1 hc
    · exact Or.inr (List.mem_singleton.mp (hsep₁ ▸ hc))
    rw [List.drop_drop] at hc
    obtain hc | hc := mem_take_or_mem_drop 32 hc
    · exact Or.inl (htrace c hc)
    rw [List.drop_drop] at hc
    obtain hc | hc := mem_take_or_mem_drop 1 hc
    · exact Or.inr (List.mem_singleton.mp (hsep₂ ▸ hc))
    rw [List.drop_drop] at hc
    obtain hc | hc := mem_take_or_mem_drop 16 hc
    · exact Or.inl (hparent c hc)
    rw [List.drop_drop] at hc
    obtain hc | hc := mem_take_or_mem_drop 1 hc
    · exact Or.inr (List.mem_singleton.mp (hsep₃ ▸ hc))
    rw [List.drop_drop] at hc
    obtain hc | hc := mem_take_or_mem_drop 2 hc
    · exact Or.inl (hflags c hc)
    rw [List.drop_drop, hend] at hc
    exact absurd hc List.not_mem_nil
  · cases h

/-- A `traceparent` is made of such digits and hyphens. -/
theorem toNat_of_traceparentFields {text : String} {fields : List (List Char)}
    (h : traceparentFields text = some fields) {c : Char} (hc : c ∈ text.toList) :
    c.toNat = 45 ∨ (48 ≤ c.toNat ∧ c.toNat ≤ 57) ∨ (97 ≤ c.toNat ∧ c.toNat ≤ 102) := by
  obtain hhex | rfl := mem_of_traceparentFields h hc
  · exact Or.inr (toNat_of_isLowerHex hhex)
  · exact Or.inl rfl

/-- Nothing is stripped off fields of lower-case digits, and nothing lowered. -/
theorem normalized_of_traceparentFields (host : Host) {text : String}
    {fields : List (List Char)} (h : traceparentFields text = some fields) :
    host.lower (Text.strip text) = text := by
  have hcode := fun c hc => toNat_of_traceparentFields h (c := c) hc
  have hspace : ∀ c ∈ text.toList, isspace c = false := by
    intro c hc
    have hc := hcode c hc
    rw [Bool.eq_false_iff, ne_eq, isspace_iff]
    omega
  rw [strip_eq_self hspace, host.lower_ascii text fun c hc => by have hc := hcode c hc; omega]
  refine lower_eq_self fun c hc => ?_
  have hc := hcode c hc
  omega

/-- A `traceparent` is accepted in lower case, stripped and with its fields in order. -/
theorem validateTraceparent_eq_some {host : Host} {value w : String} :
    validateTraceparent host value = some w ↔ host.lower (Text.strip value) = w ∧
      ∃ version traceId parentId flags, traceparentFields w = some [version, traceId, parentId, flags] ∧
        ¬(version = ['f', 'f'] ∨ traceId.all (· = '0') ∨ parentId.all (· = '0')) := by
  unfold validateTraceparent
  dsimp only
  constructor
  · intro h
    split at h
    · next version traceId parentId flags hfields =>
      split at h
      · cases h
      · next hvalid =>
        obtain rfl := Option.some.inj h
        exact ⟨rfl, version, traceId, parentId, flags, hfields, hvalid⟩
    · cases h
  · intro h
    obtain ⟨hnormalized, version, traceId, parentId, flags, hfields, hvalid⟩ := h
    rw [hnormalized, hfields]
    exact if_neg hvalid

/-- What was accepted is accepted as it is. -/
theorem validateTraceparent_idem {host : Host} {value w : String}
    (h : validateTraceparent host value = some w) : validateTraceparent host w = some w := by
  obtain ⟨-, version, traceId, parentId, flags, hfields, hvalid⟩ := validateTraceparent_eq_some.mp h
  exact validateTraceparent_eq_some.mpr ⟨normalized_of_traceparentFields host hfields, version,
    traceId, parentId, flags, hfields, hvalid⟩

/-! ## A `tracestate` -/

/-- Joining texts is joining their characters. -/
theorem intercalate_ofList (fields : List (List Char)) :
    ",".intercalate (fields.map String.ofList) = String.ofList (join ',' fields) := by
  refine String.toList_inj.mp ?_
  rw [String.toList_intercalate, String.toList_ofList, List.map_map, join]
  simp [Function.comp_def]

/-- A member has a key, so it is not empty. -/
theorem ne_nil_of_checkTracestate {members seen : List (List Char)}
    (h : checkTracestate seen members = true) : ∀ member ∈ members, member ≠ [] := by
  induction members generalizing seen with
  | nil => exact fun member hmember => absurd hmember List.not_mem_nil
  | cons member rest ih =>
    rw [checkTracestate, Bool.and_eq_true] at h
    refine List.forall_mem_cons.mpr ⟨?_, ih h.2⟩
    rintro rfl
    exact absurd h.1 (by simp [isTracestateMember, isTracestateKey, isKeyPart])

/-- The checks of a `tracestate` that is not empty. -/
def TracestateOk (text : List Char) (members : List (List Char)) : Prop :=
  text.length ≤ 512 ∧ (∀ c ∈ text, 32 ≤ c.toNat ∧ c.toNat ≤ 126) ∧ members.length ≤ 32 ∧
    checkTracestate [] members = true

/-- A part of an admissible text is admissible. -/
theorem TracestateOk.sublist {text part : List Char} {members : List (List Char)}
    (h : TracestateOk text members) (hpart : part.Sublist text) : TracestateOk part members := by
  obtain ⟨hlength, hprintable, hchecked⟩ := h
  exact ⟨hpart.length_le.trans hlength, fun c hc => hprintable c (hpart.subset hc), hchecked⟩

/-- The conditions under which a `tracestate` is refused are those of `TracestateOk`. -/
theorem not_tracestateOk {text : String} {members : List (List Char)} :
    (512 < text.length ∨ (text.toList.any fun c => c.toNat < 32 || 126 < c.toNat) = true ∨
      32 < members.length ∨ checkTracestate [] members = false) ↔
      ¬TracestateOk text.toList members := by
  have hany : (text.toList.any fun c => c.toNat < 32 || 126 < c.toNat) = true ↔
      ¬∀ c ∈ text.toList, 32 ≤ c.toNat ∧ c.toNat ≤ 126 := by
    simp only [List.any_eq_true, Bool.or_eq_true, decide_eq_true_eq, not_forall, exists_prop]
    refine exists_congr fun c => and_congr_right fun _ => ?_
    omega
  rw [hany, TracestateOk, not_and_or, not_and_or, not_and_or, Bool.not_eq_true, not_le, not_le,
    String.length_toList]

/-- A `tracestate` is accepted with its members stripped. -/
theorem validateTracestate_eq_some {value : String} {w : Option String} :
    validateTracestate (some value) = some w ↔
      let text := (Text.strip value).toList
      let members := fieldsOf isspace ',' text
      (text = [] ∧ w = none) ∨
        (text ≠ [] ∧ TracestateOk text members ∧ some (String.ofList (join ',' members)) = w) := by
  unfold validateTracestate
  dsimp only
  rw [intercalate_ofList, show ((Text.strip value).toList.splitOn ',').map (stripList isspace) =
    fieldsOf isspace ',' (Text.strip value).toList from rfl]
  have hempty : Text.strip value = "" ↔ (Text.strip value).toList = [] := by
    rw [← String.toList_inj]
    rfl
  split
  · next hnil =>
    have hnil := hempty.mp hnil
    constructor
    · intro h
      exact Or.inl ⟨hnil, (Option.some.inj h).symm⟩
    · intro h
      obtain ⟨-, rfl⟩ | ⟨hne, -⟩ := h
      · rfl
      · exact absurd hnil hne
  · next hnil =>
    have hne := mt hempty.mpr hnil
    split
    · next hrefused =>
      have hrefused := not_tracestateOk.mp hrefused
      constructor
      · intro h
        cases h
      · intro h
        obtain ⟨hnil, -⟩ | ⟨-, hok, -⟩ := h
        · exact absurd hnil hne
        · exact absurd hok hrefused
    · next hadmitted =>
      have hok := not_not.mp (mt not_tracestateOk.mpr hadmitted)
      constructor
      · intro h
        exact Or.inr ⟨hne, hok, Option.some.inj h⟩
      · intro h
        obtain ⟨hnil, -⟩ | ⟨-, -, h⟩ := h
        · exact absurd hnil hne
        · exact congrArg some h

/-- Members that were read and joined are read again as the same members. -/
theorem validateTracestate_idem {value w : Option String} (h : validateTracestate value = some w) :
    validateTracestate w = some w := by
  cases value with
  | none =>
    obtain rfl := Option.some.inj h
    rfl
  | some value =>
    obtain ⟨-, rfl⟩ | ⟨-, hok, rfl⟩ := validateTracestate_eq_some.mp h
    · rfl
    have hfields := isFields_fieldsOf (ne_nil_of_checkTracestate hok.2.2.2)
    have hjoin := hok.sublist (join_fieldsOf_sublist isspace ',' (Text.strip value).toList)
    have hstrip : Text.strip (String.ofList (join ',' (fieldsOf isspace ','
        (Text.strip value).toList))) =
          String.ofList (join ',' (fieldsOf isspace ',' (Text.strip value).toList)) := by
      rw [Text.strip, String.toList_ofList, hfields.stripList_join]
    refine validateTracestate_eq_some.mpr (Or.inr ?_)
    rw [hstrip, String.toList_ofList, hfields.fieldsOf_join]
    exact ⟨hfields.join_ne_nil, hjoin, rfl⟩

/-! ## Contracts -/

/-- A contract that its validators leave as it is. -/
structure GitHubCheckPublishPayload.Normal (host : Host) (p : GitHubCheckPublishPayload) :
    Prop where
  version : p.schemaVersion = 1
  references : p.validate = .ok p
  trace : ∀ context ∈ p.traceContext,
    validateTraceparent host context.traceparent = some context.traceparent ∧
      validateTracestate context.tracestate = some context.tracestate

/-- A stripped reference has the same errors. -/
theorem referenceErrors_strip (loc value : String) :
    referenceErrors loc (Text.strip value) = referenceErrors loc value := by
  rw [referenceErrors, strip_idem, referenceErrors]

/-- A contract that was validated validates to itself. -/
theorem GitHubCheckPublishPayload.validate_idem {p p' : GitHubCheckPublishPayload}
    (h : p.validate = .ok p') :
    p'.validate = .ok p' ∧ p'.schemaVersion = p.schemaVersion ∧
      p'.traceContext = p.traceContext := by
  unfold GitHubCheckPublishPayload.validate at h
  split at h
  · next herrors =>
    obtain rfl := Except.ok.inj h
    refine ⟨?_, rfl, rfl⟩
    have herrors' : GitHubCheckPublishPayload.errors { p with
        connectionId := Text.strip p.connectionId
        repositoryId := Text.strip p.repositoryId
        changeId := Text.strip p.changeId } = [] := by
      unfold GitHubCheckPublishPayload.errors
      dsimp only
      rw [referenceErrors_strip, referenceErrors_strip, referenceErrors_strip]
      exact herrors
    rw [GitHubCheckPublishPayload.validate, if_pos herrors']
    dsimp only
    rw [strip_idem, strip_idem, strip_idem]
  · cases h

theorem normal_of_validatedTraceContext {host : Host} {traceparent tracestate : Option String}
    {context : TraceContext} (h : validatedTraceContext host traceparent tracestate = some context) :
    validateTraceparent host context.traceparent = some context.traceparent ∧
      validateTracestate context.tracestate = some context.tracestate := by
  unfold validatedTraceContext at h
  obtain ⟨value, -, h⟩ := Option.bind_eq_some_iff.mp h
  split at h
  · cases h
  · obtain ⟨parent, hparent, h⟩ := Option.bind_eq_some_iff.mp h
    obtain ⟨state, hstate, h⟩ := Option.bind_eq_some_iff.mp h
    obtain rfl := Option.some.inj h
    exact ⟨validateTraceparent_idem hparent, validateTracestate_idem hstate⟩

/-- The contract of a publication is in its normal form. -/
theorem normal_publicationPayload {host : Host} {connection : ProviderConnection}
    {repository : Repository} {change : ChangeRecord} {context : IntentContext}
    {contract : GitHubCheckPublishPayload}
    (h : (publicationPayload host connection repository change context).validate = .ok contract) :
    contract.Normal host := by
  obtain ⟨hreferences, hversion, htrace⟩ := GitHubCheckPublishPayload.validate_idem h
  refine ⟨hversion, hreferences, fun trace hmem => ?_⟩
  rw [htrace] at hmem
  exact normal_of_validatedTraceContext hmem

/-- The worker reads a dumped trace context as it was. -/
theorem modelValidate_traceItems {host : Host} {context : TraceContext}
    (hparent : validateTraceparent host context.traceparent = some context.traceparent)
    (hstate : validateTracestate context.tracestate = some context.tracestate) :
    TraceContext.modelValidate host (GitHubCheckPublishPayload.traceItems context) =
      some context := by
  obtain ⟨traceparent, tracestate⟩ := context
  obtain ⟨honly, hfield, hoptional⟩ : onlyFields ["traceparent", "tracestate"]
        (GitHubCheckPublishPayload.traceItems ⟨traceparent, tracestate⟩) = true ∧
      textField (GitHubCheckPublishPayload.traceItems ⟨traceparent, tracestate⟩) "traceparent" =
        some traceparent ∧
      optionalTextField (GitHubCheckPublishPayload.traceItems ⟨traceparent, tracestate⟩)
        "tracestate" = some tracestate := by
    cases tracestate with
    | none => exact ⟨rfl, rfl, rfl⟩
    | some tracestate => exact ⟨rfl, rfl, rfl⟩
  unfold TraceContext.modelValidate
  rw [if_pos honly, hfield, hoptional, Option.bind_some, Option.bind_some, hparent, hstate]
  rfl

/-- A normal trace context reads back from its dump. -/
theorem traceContextField_modelDump {host : Host} {p : GitHubCheckPublishPayload}
    (h : p.Normal host) : traceContextField host p.modelDump = some p.traceContext := by
  have htrace := h.trace
  obtain ⟨version, connectionId, repositoryId, changeId, trace⟩ := p
  cases trace with
  | none => rfl
  | some context =>
    obtain ⟨hparent, hstate⟩ := htrace context rfl
    have hitem : getItem (GitHubCheckPublishPayload.modelDump ⟨version, connectionId, repositoryId,
        changeId, some context⟩) "trace_context" =
        .dict (GitHubCheckPublishPayload.traceItems context) := rfl
    rw [traceContextField, hitem]
    exact congrArg (Option.map some) (modelValidate_traceItems hparent hstate)

/-- A dump has no fields but the contract's. -/
theorem onlyFields_modelDump (p : GitHubCheckPublishPayload) :
    onlyFields ["schema_version", "connection_id", "repository_id", "change_id", "trace_context"]
      p.modelDump = true := by
  obtain ⟨version, connectionId, repositoryId, changeId, trace⟩ := p
  cases trace with
  | none => rfl
  | some context => rfl

/-- A dumped contract is read field by field as it was. -/
theorem GitHubCheckPublishPayload.modelValidate_modelDump {host : Host}
    {p : GitHubCheckPublishPayload} (h : p.Normal host) :
    GitHubCheckPublishPayload.modelValidate host p.modelDump = some p := by
  have hversion : versionField p.modelDump = some p.schemaVersion := by
    rw [versionField, h.version]
    exact if_pos (congrArg Value.int h.version)
  have hconnection : textField p.modelDump "connection_id" = some p.connectionId := rfl
  have hrepository : textField p.modelDump "repository_id" = some p.repositoryId := rfl
  have hchange : textField p.modelDump "change_id" = some p.changeId := rfl
  unfold GitHubCheckPublishPayload.modelValidate
  rw [if_pos (onlyFields_modelDump p), hversion, hconnection, hrepository, hchange,
    traceContextField_modelDump h]
  simp only [Option.bind_eq_bind, Option.bind_some]
  exact congrArg Except.toOption h.references

/-- The other contract validates to itself as well. -/
theorem InvitationEmailDeliverPayload.validate_idem {p p' : InvitationEmailDeliverPayload}
    (h : p.validate = .ok p') :
    p'.validate = .ok p' ∧ p'.schemaVersion = p.schemaVersion := by
  unfold InvitationEmailDeliverPayload.validate at h
  split at h
  · next herrors =>
    obtain rfl := Except.ok.inj h
    have herrors' : InvitationEmailDeliverPayload.errors
        { p with invitationId := Text.strip p.invitationId } = [] := by
      unfold InvitationEmailDeliverPayload.errors
      rw [strip_idem]
      exact herrors
    refine ⟨?_, rfl⟩
    rw [InvitationEmailDeliverPayload.validate, if_pos herrors']
    dsimp only
    rw [strip_idem]
  · cases h

theorem InvitationEmailDeliverPayload.modelValidate_modelDump {p : InvitationEmailDeliverPayload}
    (hversion : p.schemaVersion = 1) (h : p.validate = .ok p) :
    InvitationEmailDeliverPayload.modelValidate p.modelDump = some p := by
  have honly : onlyFields ["schema_version", "invitation_id"] p.modelDump = true := rfl
  have hversion' : versionField p.modelDump = some p.schemaVersion := by
    rw [versionField, hversion]
    exact if_pos (congrArg Value.int hversion)
  have hinvitation : textField p.modelDump "invitation_id" = some p.invitationId := rfl
  unfold InvitationEmailDeliverPayload.modelValidate
  rw [if_pos honly, hversion', hinvitation]
  simp only [Option.bind_eq_bind, Option.bind_some]
  exact congrArg Except.toOption h

/-! ## The queue's check -/

/-- The keys of both contracts, and those of a trace context. -/
theorem looksLikeCredential_fields : ∀ name ∈ ["schema_version", "connection_id", "repository_id",
    "change_id", "trace_context", "traceparent", "tracestate", "invitation_id"],
    Jobs.looksLikeCredential name = false := by decide

/-- An object passes if its keys are those of a contract and its values pass. -/
theorem validatePayload_fields {path : String} {items : Items}
    (h : ∀ item ∈ items, item.1 ∈ ["schema_version", "connection_id", "repository_id",
      "change_id", "trace_context", "traceparent", "tracestate", "invitation_id"] ∧
      Jobs.validatePayload path item.2 = .ok ()) :
    Jobs.validatePayload path (.dict items) = .ok () := by
  rw [Jobs.validatePayload_eq_ok, Jobs.unremarkable_dict]
  refine ⟨fun item hitem => ?_, Jobs.dumpsItems_eq_true.mpr fun item hitem => ?_⟩
  · obtain ⟨hname, hvalue⟩ := h item hitem
    exact ⟨looksLikeCredential_fields _ hname, ((Jobs.validatePayload_eq_ok _ _).mp hvalue).1⟩
  · exact ((Jobs.validatePayload_eq_ok _ _).mp (h item hitem).2).2

/-- A trace context looks like no credential. -/
theorem validatePayload_traceItems (context : TraceContext) :
    Jobs.validatePayload "payload" (.dict (GitHubCheckPublishPayload.traceItems context)) =
      .ok () := by
  obtain ⟨traceparent, tracestate⟩ := context
  refine validatePayload_fields (List.forall_mem_cons.mpr ⟨⟨by simp, rfl⟩, ?_⟩)
  cases tracestate with
  | none => exact fun item hitem => absurd hitem List.not_mem_nil
  | some tracestate => exact List.forall_mem_singleton.mpr ⟨by simp, rfl⟩

theorem validatePayload_version : Jobs.validatePayload "payload" (.int 1) = .ok () :=
  Jobs.requireJson_eq_ok.mpr (by decide)

theorem GitHubCheckPublishPayload.validatePayload_modelDump {p : GitHubCheckPublishPayload}
    (hversion : p.schemaVersion = 1) :
    Jobs.validatePayload "payload" (.dict p.modelDump) = .ok () := by
  obtain ⟨version, connectionId, repositoryId, changeId, trace⟩ := p
  obtain rfl : version = 1 := hversion
  refine validatePayload_fields (List.forall_mem_append.mpr ⟨?_, ?_⟩)
  · simp only [List.forall_mem_cons]
    exact ⟨⟨by simp, validatePayload_version⟩, ⟨by simp, rfl⟩, ⟨by simp, rfl⟩, ⟨by simp, rfl⟩,
      fun item hitem => absurd hitem List.not_mem_nil⟩
  · cases trace with
    | none => exact fun item hitem => absurd hitem List.not_mem_nil
    | some context =>
      exact List.forall_mem_singleton.mpr ⟨by simp, validatePayload_traceItems context⟩

theorem InvitationEmailDeliverPayload.validatePayload_modelDump
    {p : InvitationEmailDeliverPayload} (hversion : p.schemaVersion = 1) :
    Jobs.validatePayload "payload" (.dict p.modelDump) = .ok () := by
  obtain ⟨version, invitationId⟩ := p
  obtain rfl : version = 1 := hversion
  refine validatePayload_fields (List.forall_mem_cons.mpr ⟨⟨by simp, validatePayload_version⟩, ?_⟩)
  exact List.forall_mem_singleton.mpr ⟨by simp, rfl⟩

/-- **Contracts round trip.** A contract that a producer builds, whatever headers came
with the request, is dumped into a payload that the queue's check passes and in which
the worker finds the same contract. The validators of both trace headers accept what
they return as it is. -/
theorem contracts_roundTrip (host : Host) :
    (∀ connection repository change context contract,
      (publicationPayload host connection repository change context).validate = .ok contract →
      Jobs.validatePayload "payload"
          (publicationArgs connection repository change context contract).payload = .ok () ∧
        ∃ items, (publicationArgs connection repository change context contract).payload =
            .dict items ∧
          GitHubCheckPublishPayload.modelValidate host items = some contract) ∧
    (∀ invitation requestId commit newId now contract,
      (invitationEmailPayload invitation).validate = .ok contract →
      Jobs.validatePayload "payload"
          (invitationEmailArgs invitation requestId commit newId now contract).payload = .ok () ∧
        ∃ items, (invitationEmailArgs invitation requestId commit newId now contract).payload =
            .dict items ∧
          InvitationEmailDeliverPayload.modelValidate items = some contract) ∧
    (∀ value w, validateTraceparent host value = some w → validateTraceparent host w = some w) ∧
    (∀ value w, validateTracestate value = some w → validateTracestate w = some w) := by
  refine ⟨?_, ?_, fun _ _ => validateTraceparent_idem, fun _ _ => validateTracestate_idem⟩
  · intro connection repository change context contract h
    have hnormal := normal_publicationPayload h
    exact ⟨GitHubCheckPublishPayload.validatePayload_modelDump hnormal.version,
      contract.modelDump, rfl, GitHubCheckPublishPayload.modelValidate_modelDump hnormal⟩
  · intro invitation requestId commit newId now contract h
    obtain ⟨hcontract, hversion⟩ := InvitationEmailDeliverPayload.validate_idem h
    exact ⟨InvitationEmailDeliverPayload.validatePayload_modelDump hversion, contract.modelDump, rfl,
      InvitationEmailDeliverPayload.modelValidate_modelDump hversion hcontract⟩

/-- Headers with blanks and capitals. -/
def blankHeaders : IntentContext where
  requestId := "req-1"
  traceparent := some " 00-0AF7651916CD43DD8448EB211C80319C-B7AD6B7169203331-01"
  tracestate := some "rojo=00f0 ,congo=t61 "
  newId := "job-1"
  now := 0

def shopContract : GitHubCheckPublishPayload where
  connectionId := acmeConnection.id
  repositoryId := shopRepository.id
  changeId := shopChange.id
  traceContext := some ⟨"00-0af7651916cd43dd8448eb211c80319c-b7ad6b7169203331-01",
    some "rojo=00f0,congo=t61"⟩

/-- A publication without trace headers. -/
theorem blankHeaders_roundTrip :
    Jobs.validatePayload "payload" (publicationArgs acmeConnection shopRepository shopChange
        blankHeaders shopContract).payload = .ok () ∧
      ∃ items, (publicationArgs acmeConnection shopRepository shopChange blankHeaders
        shopContract).payload = .dict items ∧
        GitHubCheckPublishPayload.modelValidate asciiHost items = some shopContract :=
  (contracts_roundTrip asciiHost).1 acmeConnection shopRepository shopChange blankHeaders
    shopContract (by decide)

end DeployGuard.Service
