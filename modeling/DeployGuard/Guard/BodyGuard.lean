import DeployGuard.Guard.RateLimit
import DeployGuard.Lib.Json
import DeployGuard.Lib.Raise

/-!
# The body guard

`RequestGuardMiddleware.__call__`: a declared length is checked, the body of a writing
request is read to its end, counting, and only then the wrapped application is called,
with a `receive` of its own that replays what was read. Everything that can be
observed of a call is a list of events: what reaches the client, the call of the
application, and each message it receives. What the application does is a list of
actions, and what it makes of a message does not matter here.

> `bodyGuard_transparent`: the application is called iff the declared length and the
> received one are within the limit, a 400 or 413 is all that happens otherwise, and
> what the application receives is what was delivered.
-/

namespace DeployGuard.Guard

open Raise

/-! ## Messages -/

/-- ASCII text as bytes. -/
def bytes (text : String) : List UInt8 := text.toList.map fun c => UInt8.ofNat c.toNat

/-- A message `receive()` returns. -/
structure Message where
  type : String
  body : Option (List UInt8)
  moreBody : Option Bool
  deriving DecidableEq

/-- `message.get("body", b"")`. -/
def Message.chunk (message : Message) : List UInt8 := message.body.getD []

/-- `message["type"] == "http.request"`. -/
def Message.isRequest (message : Message) : Bool := message.type == "http.request"

/-- The message is the last one of a body: a final chunk, or no chunk at all. -/
def Message.isLast (message : Message) : Bool :=
  !message.isRequest || !message.moreBody.getD false

/-- What the message adds to the body. -/
def Message.data (message : Message) : List UInt8 := if message.isRequest then message.chunk else []

/-- The body that messages carry. -/
def bodyOf (messages : List Message) : List UInt8 := messages.flatMap Message.data

abbrev Header := List UInt8 × List UInt8

/-- A message the client is sent. -/
inductive Response where
  | start (status : Nat) (headers : List Header)
  | body (payload : List UInt8) (moreBody : Option Bool)
  deriving DecidableEq

/-- What can be observed of a call of the guard. -/
inductive Event where
  | sent (message : Response)
  | invoked
  | received (message : Message)
  deriving DecidableEq

/-- What the application does with the two callables it is given. -/
inductive AppAction where
  | receive
  | send (message : Response)
  deriving DecidableEq

def AppAction.isReceive : AppAction → Bool
  | .receive => true
  | .send _ => false

/-- The messages the application received, in order. -/
def receivedBy (events : List Event) : List Message :=
  events.filterMap fun event => match event with
    | .received message => some message
    | _ => none

/-! ## Headers -/

/-- `dict(scope.get("headers", [])).get(name)`. -/
def Scope.header (scope : Scope) (name : String) : Option (List UInt8) :=
  (Dict.ofItems scope.headers).get? (bytes name)

/-- The characters `int` skips around the digits of bytes. -/
def isByteSpace (c : Char) : Bool := (9 ≤ c.toNat && c.toNat ≤ 13) || c == ' '

/-- `int(content_length)` of bytes; `none` is the `ValueError`. -/
def readInt (value : List UInt8) : Option Int :=
  let cs := Text.stripList isByteSpace (value.map fun b => Char.ofNat b.toNat)
  let (negative, digits) := Number.takeSign cs
  (Number.parseNat digits).map fun n => if negative then -(n : Int) else n

/-- `_request_id`, with the identifier a new one would have. -/
def requestId (scope : Scope) (newId : String) : String :=
  let supplied := (scope.header "x-request-id").getD []
  let ascii := supplied.filter fun b => b.toNat < 128
  let candidate := Text.strip (String.ofList (ascii.map fun b => Char.ofNat b.toNat))
  if candidate ≠ "" ∧ candidate.length ≤ 80 ∧
      candidate.toList.all (fun c => c.isAlphanum || ['.', ':', '_', '-'].contains c) then candidate
  else newId

/-! ## Rejections -/

/-- A response of the guard's own. -/
structure Rejection where
  status : Nat
  code : String
  detail : String
  headers : List Header := []
  deriving DecidableEq

def invalidContentLength : Rejection where
  status := 400
  code := "invalid_content_length"
  detail := "Content-Length must be a valid integer"

def requestBodyTooLarge : Rejection where
  status := 413
  code := "request_body_too_large"
  detail := "Request body exceeds the configured limit"

def rateLimitExceeded (window : String) : Rejection where
  status := 429
  code := "rate_limit_exceeded"
  detail := "Too many requests; retry after the configured window"
  headers := [(bytes "retry-after", bytes window)]

/-- The body of a rejection. -/
def Rejection.payload (rejection : Rejection) : List UInt8 :=
  bytes ((Json.dumps (fun _ => "") true
    (.dict [("detail", .str rejection.detail), ("code", .str rejection.code)])).getD "")

/-- `_json_error`. -/
def jsonError (requestId : String) (rejection : Rejection) : List Event :=
  [.sent (.start rejection.status
      ([(bytes "content-type", bytes "application/json"),
        (bytes "content-length", bytes (toString rejection.payload.length)),
        (bytes "x-request-id", bytes requestId),
        (bytes "x-content-type-options", bytes "nosniff")] ++ rejection.headers)),
    .sent (.body rejection.payload none)]

/-! ## The call -/

/-- How reading a body ends: with all of it, over the limit, or not yet. -/
inductive Buffering where
  | complete (buffered : List Message)
  | tooLarge
  | waiting
  deriving DecidableEq

/-- `replay_receive` once everything buffered has been handed out. -/
def endOfBody : Message := ⟨"http.request", some [], some false⟩

/-- `replay_receive`: what it returns, and what is still buffered. -/
def replayReceive : List Message → Message × List Message
  | message :: buffered => (message, buffered)
  | [] => (endOfBody, [])

/-- The server's own `receive`; it waits where nothing more has come. -/
def serverReceive : List Message → Option (Message × List Message)
  | message :: incoming => some (message, incoming)
  | [] => none

/-- `send_with_headers`. -/
def sendWithHeaders (requestId : String) : Response → Response
  | .start status headers => .start status (headers ++
      [(bytes "x-request-id", bytes requestId), (bytes "x-content-type-options", bytes "nosniff")])
  | message => message

/-- The application, on a `receive` over some messages and a `send`. -/
def runApp (receive : List Message → Option (Message × List Message)) (send : Response → Response) :
    List Message → List AppAction → List Event
  | _, [] => []
  | messages, .send message :: actions =>
    .sent (send message) :: runApp receive send messages actions
  | messages, .receive :: actions => match receive messages with
    | some (message, messages) => .received message :: runApp receive send messages actions
    | none => []

namespace RequestGuard

variable {τ : Type} (guard : RequestGuard τ)

/-- The check of a declared length. -/
def checkDeclared (scope : Scope) : Except Rejection Unit :=
  match scope.header "content-length" with
  | none => .ok ()
  | some contentLength => match readInt contentLength with
    | none => .error invalidContentLength
    | some declaredSize => raiseIf (declaredSize > guard.maxBodyBytes) requestBodyTooLarge

/-- The loop that reads a body, with what it has buffered and counted so far. -/
def bufferBody (buffered : List Message) (receivedBytes : Nat) : List Message → Buffering
  | [] => .waiting
  | message :: incoming =>
    let buffered := buffered ++ [message]
    if message.isRequest then
      let receivedBytes := receivedBytes + message.chunk.length
      if receivedBytes > guard.maxBodyBytes then .tooLarge
      else if message.moreBody.getD false then bufferBody buffered receivedBytes incoming
      else .complete buffered
    else .complete buffered

variable [Clock τ] [ToString τ]

/-- `__call__`: the events of a request, and the buckets it leaves. -/
def call (scope : Scope) (incoming : List Message) (now : τ) (buckets : Buckets τ)
    (newId : String) (actions : List AppAction) : List Event × Buckets τ :=
  if scope.type ≠ "http" then (.invoked :: runApp serverReceive id incoming actions, buckets)
  else
    let requestId := requestId scope newId
    let invoke (receive : List Message → Option (Message × List Message))
        (messages : List Message) : List Event × Buckets τ :=
      let (limited, buckets) := guard.isRateLimited dropStale scope scope.pathText
        scope.methodText now buckets
      if limited then
        (jsonError requestId (rateLimitExceeded (toString guard.rateLimitWindowSeconds)), buckets)
      else (.invoked :: runApp receive (sendWithHeaders requestId) messages actions, buckets)
    match guard.checkDeclared scope with
    | .error rejection => (jsonError requestId rejection, buckets)
    | .ok () =>
      if scope.methodText ∈ writeMethods then
        match guard.bufferBody [] 0 incoming with
        | .complete buffered => invoke (fun messages => some (replayReceive messages)) buffered
        | .tooLarge => (jsonError requestId requestBodyTooLarge, buckets)
        | .waiting => ([], buckets)
      else invoke serverReceive incoming

end RequestGuard

/-! ## Reading a body -/

/-- Messages that make up one body: its chunks, the last of them final, or cut off by a
message of another type. -/
def Delivered (messages : List Message) : Prop :=
  ∃ chunks last, messages = chunks ++ [last] ∧ (∀ message ∈ chunks, message.isLast = false) ∧
    last.isLast = true

theorem bodyOf_append (messages messages' : List Message) :
    bodyOf (messages ++ messages') = bodyOf messages ++ bodyOf messages' := List.flatMap_append ..

section Buffering

variable {τ : Type} {guard : RequestGuard τ} {message : Message} {buffered incoming : List Message}
  {receivedBytes : Nat}

/-- A chunk with more to come is counted and read past. -/
theorem bufferBody_chunk (h : message.isLast = false) :
    guard.bufferBody buffered receivedBytes (message :: incoming) =
      if guard.maxBodyBytes < receivedBytes + message.data.length then .tooLarge
      else guard.bufferBody (buffered ++ [message]) (receivedBytes + message.data.length)
        incoming := by
  obtain ⟨hrequest, hmore⟩ : message.isRequest = true ∧ message.moreBody.getD false = true := by
    simpa [Message.isLast] using h
  rw [RequestGuard.bufferBody, Message.data, if_pos hrequest, if_pos hrequest]
  dsimp only
  rw [if_pos hmore]

/-- The last message is counted, and nothing is read after it. -/
theorem bufferBody_last (h : message.isLast = true)
    (hwithin : receivedBytes ≤ guard.maxBodyBytes) :
    guard.bufferBody buffered receivedBytes (message :: incoming) =
      if guard.maxBodyBytes < receivedBytes + message.data.length then .tooLarge
      else .complete (buffered ++ [message]) := by
  rw [RequestGuard.bufferBody, Message.data]
  cases hrequest : message.isRequest with
  | false =>
    -- no chunk: nothing is counted, and what was counted before was within the limit
    rw [if_neg Bool.false_ne_true, if_neg Bool.false_ne_true, List.length_nil, Nat.add_zero,
      if_neg (Nat.not_lt.mpr hwithin)]
  | true =>
    have hmore : ¬message.moreBody.getD false = true := by
      simpa [Message.isLast, hrequest] using h
    rw [if_pos rfl, if_pos rfl]
    dsimp only
    rw [if_neg hmore]

/-- A delivered body is buffered message by message, unless it is over the limit;
what comes after it is left unread. -/
theorem bufferBody_delivered {messages : List Message} (h : Delivered messages)
    (hwithin : receivedBytes ≤ guard.maxBodyBytes) (later : List Message) :
    guard.bufferBody buffered receivedBytes (messages ++ later) =
      if guard.maxBodyBytes < receivedBytes + (bodyOf messages).length then .tooLarge
      else .complete (buffered ++ messages) := by
  obtain ⟨chunks, last, rfl, hchunks, hlast⟩ := h
  induction chunks generalizing buffered receivedBytes with
  | nil =>
    rw [List.nil_append, List.singleton_append, bufferBody_last hlast hwithin]
    simp [bodyOf]
  | cons message chunks ih =>
    obtain ⟨hmessage, hrest⟩ := List.forall_mem_cons.mp hchunks
    have hlength : receivedBytes + (bodyOf (message :: chunks ++ [last])).length =
        receivedBytes + message.data.length + (bodyOf (chunks ++ [last])).length := by
      rw [List.cons_append, bodyOf, List.flatMap_cons, List.length_append, bodyOf]
      omega
    rw [List.cons_append, List.cons_append, bufferBody_chunk hmessage, ← List.cons_append, hlength]
    by_cases hover : guard.maxBodyBytes < receivedBytes + message.data.length
    · -- over the limit already, and the count never falls
      rw [if_pos hover, if_pos (by omega)]
    · rw [if_neg hover, ih (Nat.not_lt.mp hover) hrest, List.append_assoc, List.singleton_append,
        List.cons_append]

end Buffering

/-! ## What the application receives -/

/-- A buffered body is replayed in order, and empty final chunks follow it. -/
theorem receivedBy_replay (send : Response → Response) (actions : List AppAction)
    (buffered : List Message) :
    receivedBy (runApp (fun messages => some (replayReceive messages)) send buffered actions) =
      (buffered ++ List.replicate (actions.countP AppAction.isReceive) endOfBody).take
        (actions.countP AppAction.isReceive) := by
  induction actions generalizing buffered with
  | nil => rw [List.countP_nil, List.take_zero]; rfl
  | cons action actions ih =>
    cases action with
    | send message =>
      rw [List.countP_cons_of_neg (by simp [AppAction.isReceive])]
      exact ih buffered
    | receive =>
      rw [List.countP_cons_of_pos rfl]
      cases buffered with
      | nil =>
        show endOfBody :: receivedBy (runApp _ send [] actions) = _
        rw [ih, List.nil_append, List.nil_append, List.replicate_succ, List.take_succ_cons]
      | cons message buffered =>
        show message :: receivedBy (runApp _ send buffered actions) = _
        -- one final chunk more or less at the end is not reached
        have hspare : (buffered ++ List.replicate (actions.countP AppAction.isReceive) endOfBody ++
            [endOfBody]).take (actions.countP AppAction.isReceive) =
            (buffered ++ List.replicate (actions.countP AppAction.isReceive) endOfBody).take
              (actions.countP AppAction.isReceive) := by
          apply List.take_append_of_le_length
          rw [List.length_append, List.length_replicate]
          omega
        rw [ih, List.cons_append, List.take_succ_cons, List.replicate_succ', ← List.append_assoc,
          hspare]

theorem bodyOf_replicate (n : Nat) : bodyOf (List.replicate n endOfBody) = [] := by
  rw [bodyOf, List.flatMap_eq_nil_iff]
  intro message hmessage
  rw [List.eq_of_mem_replicate hmessage]
  rfl

/-! ## The guard is transparent -/

/-- No length is declared, or an integer within the limit. -/
def RequestGuard.DeclaresWithin {τ : Type} (guard : RequestGuard τ) (scope : Scope) : Prop :=
  ∀ value, scope.header "content-length" = some value →
    ∃ size, readInt value = some size ∧ size ≤ guard.maxBodyBytes

/-- The check of the declared length lets through what it should, and answers the rest. -/
theorem checkDeclared_cases {τ : Type} (guard : RequestGuard τ) (scope : Scope) :
    (guard.checkDeclared scope = .ok () ∧ guard.DeclaresWithin scope) ∨
      ∃ rejection, guard.checkDeclared scope = .error rejection ∧ ¬guard.DeclaresWithin scope ∧
        (rejection.status = 400 ∨ rejection.status = 413) := by
  unfold RequestGuard.checkDeclared RequestGuard.DeclaresWithin
  cases scope.header "content-length" with
  | none => exact Or.inl ⟨rfl, fun value hvalue => by cases hvalue⟩
  | some value =>
    dsimp only
    cases hread : readInt value with
    | none =>
      refine Or.inr ⟨_, rfl, fun hwithin => ?_, Or.inl rfl⟩
      obtain ⟨size, hsize, -⟩ := hwithin value rfl
      rw [hread] at hsize
      cases hsize
    | some size =>
      by_cases hover : size > guard.maxBodyBytes
      · refine Or.inr ⟨_, raiseIf_pos hover _, fun hwithin => ?_, Or.inr rfl⟩
        obtain ⟨size', hsize, hle⟩ := hwithin value rfl
        rw [hread] at hsize
        obtain rfl := Option.some.inj hsize
        exact absurd hle (not_le.mpr hover)
      · refine Or.inl ⟨raiseIf_neg hover _, fun value' hvalue => ?_⟩
        obtain rfl := Option.some.inj hvalue
        exact ⟨size, hread, not_lt.mp hover⟩

section Call

variable {τ : Type} [Clock τ] [ToString τ] {guard : RequestGuard τ} {scope : Scope}
  {messages later : List Message} {now : τ} {buckets : Buckets τ} {newId : String}
  {actions : List AppAction}

/-- A writing request is rejected with a 400 or 413, or passed on to the limiter with
exactly the body that was delivered. -/
theorem call_cases (hhttp : scope.type = "http") (hwrite : scope.methodText ∈ writeMethods)
    (hdelivered : Delivered messages)
    (hpasses : (guard.isRateLimited dropStale scope scope.pathText scope.methodText now
      buckets).1 = false) :
    ((guard.DeclaresWithin scope ∧ (bodyOf messages).length ≤ guard.maxBodyBytes) ∧
      (guard.call scope (messages ++ later) now buckets newId actions).1 =
        .invoked :: runApp (fun messages => some (replayReceive messages))
          (sendWithHeaders (requestId scope newId)) messages actions) ∨
    ∃ rejection, ¬(guard.DeclaresWithin scope ∧
        (bodyOf messages).length ≤ guard.maxBodyBytes) ∧
      (rejection.status = 400 ∨ rejection.status = 413) ∧
      (guard.call scope (messages ++ later) now buckets newId actions).1 =
        jsonError (requestId scope newId) rejection := by
  unfold RequestGuard.call
  rw [if_neg (not_not.mpr hhttp)]
  dsimp only
  obtain ⟨hdeclared, hwithin⟩ | ⟨rejection, hdeclared, hnot, hstatus⟩ :=
    checkDeclared_cases guard scope
  · rw [hdeclared]
    dsimp only
    rw [if_pos hwrite, bufferBody_delivered hdelivered (Nat.zero_le _), Nat.zero_add,
      List.nil_append]
    by_cases hover : guard.maxBodyBytes < (bodyOf messages).length
    · rw [if_pos hover]
      exact Or.inr ⟨requestBodyTooLarge, fun h => absurd h.2 (Nat.not_le.mpr hover), Or.inr rfl, rfl⟩
    · rw [if_neg hover, hpasses]
      exact Or.inl ⟨⟨hwithin, Nat.not_lt.mp hover⟩, rfl⟩
  · rw [hdeclared]
    exact Or.inr ⟨rejection, fun h => hnot h.1, hstatus, rfl⟩

/-- **The body guard.** Of a writing request that is not limited, whatever its chunks:
the application is called iff the declared length is absent or an integer within the
limit and what was received is within it too. Otherwise a 400 or 413 is all that
happens. A called application receives the delivered messages in order, each once, and
then empty final chunks; once it has read on to the end, it has the body. -/
theorem bodyGuard_transparent (hhttp : scope.type = "http")
    (hwrite : scope.methodText ∈ writeMethods) (hdelivered : Delivered messages)
    (hpasses : (guard.isRateLimited dropStale scope scope.pathText scope.methodText now
      buckets).1 = false) :
    let events := (guard.call scope (messages ++ later) now buckets newId actions).1
    (.invoked ∈ events ↔
      guard.DeclaresWithin scope ∧ (bodyOf messages).length ≤ guard.maxBodyBytes) ∧
    (.invoked ∉ events → ∃ rejection : Rejection,
      (rejection.status = 400 ∨ rejection.status = 413) ∧
      events = jsonError (requestId scope newId) rejection) ∧
    (.invoked ∈ events →
      let reads := actions.countP AppAction.isReceive
      receivedBy events = (messages ++ List.replicate reads endOfBody).take reads ∧
      (messages.length ≤ reads → bodyOf (receivedBy events) = bodyOf messages)) := by
  intro events
  obtain ⟨hwithin, hevents⟩ | ⟨rejection, hnot, hstatus, hevents⟩ :
      ((guard.DeclaresWithin scope ∧ (bodyOf messages).length ≤ guard.maxBodyBytes) ∧
        events = .invoked :: _) ∨ ∃ rejection, _ ∧ _ ∧ events = jsonError _ rejection :=
    call_cases hhttp hwrite hdelivered hpasses
  · have hinvoked : Event.invoked ∈ events := hevents ▸ List.mem_cons_self
    have hreceived : receivedBy events =
        (messages ++ List.replicate (actions.countP AppAction.isReceive) endOfBody).take
          (actions.countP AppAction.isReceive) := by
      rw [hevents]
      exact receivedBy_replay (sendWithHeaders (requestId scope newId)) actions messages
    refine ⟨iff_of_true hinvoked hwithin, fun hnot => absurd hinvoked hnot,
      fun _ => ⟨hreceived, fun hreads => ?_⟩⟩
    -- past the delivered messages there are only empty chunks
    rw [hreceived, List.take_append, List.take_of_length_le hreads, bodyOf_append,
      List.take_replicate, bodyOf_replicate, List.append_nil]
  · have hnone : Event.invoked ∉ events := by
      rw [hevents]
      simp [jsonError]
    exact ⟨iff_of_false hnone hnot, fun _ => ⟨rejection, hstatus, hevents⟩,
      fun hinvoked => absurd hinvoked hnone⟩

end Call

/-- An upload of three bytes, declared as such. -/
def uploadScope : Scope where
  type := "http"
  method := some "PUT"
  path := some "/api/v1/changes"
  headers := [(bytes "content-length", bytes " 3")]
  client := none

/-- The upload in three chunks, the second of them empty. -/
def upload : List Message :=
  [⟨"http.request", some [1, 2], some true⟩, ⟨"http.request", none, some true⟩,
    ⟨"http.request", some [3], none⟩]

theorem upload_replayed :
    let events := (loginGuard.call uploadScope (upload ++ []) 0 [] "" [.receive, .receive,
      .receive]).1
    .invoked ∈ events ∧ bodyOf (receivedBy events) = [1, 2, 3] := by
  have hdelivered : Delivered upload := ⟨upload.take 2, ⟨"http.request", some [3], none⟩, rfl,
    by decide, rfl⟩
  have hdeclared : loginGuard.DeclaresWithin uploadScope := by
    have hheader : uploadScope.header "content-length" = some (bytes " 3") := by decide
    intro value hvalue
    obtain rfl := Option.some.inj (hheader.symm.trans hvalue)
    exact ⟨3, by decide, by decide⟩
  intro events
  obtain ⟨hiff, -, hreplayed⟩ := @bodyGuard_transparent Int _ _ loginGuard uploadScope upload [] 0
    [] "" [.receive, .receive, .receive] rfl (by decide) hdelivered rfl
  have hinvoked : Event.invoked ∈ events := hiff.mpr ⟨hdeclared, by decide⟩
  exact ⟨hinvoked, (hreplayed hinvoked).2 (by decide)⟩

end DeployGuard.Guard
