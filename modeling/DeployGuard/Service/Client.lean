import DeployGuard.Service.Publishing

/-!
# The GitHub client

`GitHubAppClient` below the requests of `Service.Check`: the App's JWT, the
installation token, and what sending one request comes to (`Exchange`). An answer
that is no JSON object surfaces as the `AttributeError` of the `.get` that follows.

> `contained_answer`: a client method returns an object or raises a `DomainError`
> iff every step it takes does.
-/

namespace DeployGuard.Service

open Raise

/-- The GitHub App's settings, and what `jwt.encode` makes of its private key: a
token, or the class of what it raises. -/
structure GithubApp where
  appId : String
  slug : String
  privateKey : String
  jwt : Except String String

/-- `settings.github_app_available()`. -/
def GithubApp.available (app : GithubApp) : Bool :=
  [app.appId, app.slug, app.privateKey].all fun value => Text.strip value ≠ ""

/-- What sending a request and reading its answer comes to. -/
inductive Exchange where
  /-- `HTTPError`, with its `Retry-After` and `X-RateLimit-Remaining` -/
  | httpError (status : Nat) (retryAfter rateLimitRemaining : Option String)
  /-- `URLError`, `TimeoutError` or `JSONDecodeError` -/
  | unavailable
  /-- an exception of another class, as reading or decoding the body raises them -/
  | raised (className : String)
  /-- a body that is JSON -/
  | answered (payload : Value)

/-- The code of an HTTP status that is an error. -/
def httpErrorCode (status : Nat) (retryAfter rateLimitRemaining : Option String) : String :=
  if status ∈ [403, 429] ∧ (retryAfter.getD "" ≠ "" ∨ rateLimitRemaining = some "0") then
    "github_rate_limited"
  else if 500 ≤ status ∨ status ∈ [408, 409, 425] then "github_api_unavailable"
  else "github_api_rejected"

/-- `_request`. -/
def clientRequest : Exchange → Except ServiceError Value
  | .httpError status retryAfter rateLimitRemaining =>
    .error (.domain s!"GitHub API request failed with status {status}"
      (httpErrorCode status retryAfter rateLimitRemaining) 502)
  | .unavailable => .error (.domain "GitHub API is unavailable" "github_api_unavailable" 502)
  | .raised className => .error (.other className)
  | .answered payload => .ok payload

/-- What `.get` is called on. -/
def objectOf : Value → Except ServiceError Items
  | .dict items => .ok items
  | _ => .error (.attributeError "object has no attribute 'get'")

/-- `_app_jwt`. -/
def appJwt (app : GithubApp) : Except ServiceError String := do
  raiseIf (app.appId = "" ∨ app.privateKey = "")
    (.domain "GitHub App is not configured" "github_app_not_configured" 503)
  app.jwt.mapError .other

/-- The token in the answer to a token exchange. -/
def readToken (payload : Items) : Except ServiceError String :=
  match getItem payload "token" with
  | .str token =>
    if token ≠ "" then .ok token
    else .error (.domain "GitHub did not return an installation token"
      "github_token_exchange_failed" 502)
  | _ => .error (.domain "GitHub did not return an installation token"
      "github_token_exchange_failed" 502)

/-- `_installation_token`. -/
def installationToken (app : GithubApp) (exchange : Exchange) : Except ServiceError String := do
  let _ ← appJwt app
  let payload ← clientRequest exchange
  let payload ← objectOf payload
  readToken payload

/-- A request of the client: the exchange for a token, and then its own. -/
structure Sent where
  token : Exchange
  request : Exchange

/-- The answer of a client method, as an object. -/
def clientAnswer (app : GithubApp) (sent : Sent) : Except ServiceError Items := do
  let _ ← installationToken app sent.token
  let payload ← clientRequest sent.request
  objectOf payload

/-- The network during an attempt: what each request comes to, and whether a
request that is sent takes effect. -/
structure Network where
  listed : Sent
  created : Sent
  createdEffective : Bool
  newRunId : Nat
  updated : String → Sent
  updatedEffective : String → Bool

/-- The answers the client gets from the network. A request that is not sent, for
want of a token, has no effect. -/
def clientAnswers (app : GithubApp) (net : Network) : CheckAnswers where
  listed := clientAnswer app net.listed
  created :=
    { effective := (installationToken app net.created.token).toBool && net.createdEffective
      answer := clientAnswer app net.created }
  newRunId := net.newRunId
  updated id :=
    { effective := (installationToken app (net.updated id).token).toBool && net.updatedEffective id
      answer := clientAnswer app (net.updated id) }

/-! ## What a `DomainError` covers -/

def ServiceError.isDomain : ServiceError → Bool
  | .domain .. => true
  | _ => false

/-- Nothing but a `DomainError` is raised. -/
abbrev Contained {α : Type} (x : Except ServiceError α) : Prop :=
  OnlyRaises (fun e => e.isDomain = true) x

/-- Whatever the exchange comes to, the client reads an object or raises a `DomainError`. -/
def Exchange.Handled : Exchange → Prop
  | .httpError .. | .unavailable | .answered (.dict _) => True
  | .raised _ | .answered _ => False

/-- The token exchange hands out a token. -/
def Exchange.GivesToken : Exchange → Prop
  | .answered (.dict payload) => ∃ token, getItem payload "token" = .str token ∧ token ≠ ""
  | _ => False

/-- The private key signs, and each exchange the method gets to is handled. -/
structure Sent.Handled (app : GithubApp) (sent : Sent) : Prop where
  signs : app.appId ≠ "" → app.privateKey ≠ "" → ∃ token, app.jwt = .ok token
  token : app.appId ≠ "" → app.privateKey ≠ "" → sent.token.Handled
  request : app.appId ≠ "" → app.privateKey ≠ "" → sent.token.GivesToken → sent.request.Handled

theorem contained_bind {α β : Type} {x : Except ServiceError α} {f : α → Except ServiceError β} :
    Contained (x >>= f) ↔ Contained x ∧ ∀ a, x = .ok a → Contained (f a) :=
  onlyRaises_bind

/-- After a step that raises nothing but a `DomainError`, the rest decides. -/
theorem contained_bind_of {α β : Type} {x : Except ServiceError α} {f : α → Except ServiceError β}
    (hx : Contained x) : Contained (x >>= f) ↔ ∀ a, x = .ok a → Contained (f a) := by
  rw [contained_bind, and_iff_right hx]

theorem contained_request {exchange : Exchange} :
    Contained (clientRequest exchange >>= objectOf) ↔ exchange.Handled := by
  rcases exchange with _ | _ | className | payload
  · exact iff_of_true (.error rfl) trivial
  · exact iff_of_true (.error rfl) trivial
  · exact iff_of_false (fun h => Bool.false_ne_true (h _ rfl)) id
  · cases payload with
    | dict items => exact iff_of_true .ok trivial
    | _ => exact iff_of_false (fun h => Bool.false_ne_true (h _ rfl)) id

theorem contained_readToken {payload : Items} : Contained (readToken payload) := by
  unfold readToken
  split
  · split
    · exact .ok
    · exact .error rfl
  · exact .error rfl

/-- The App's id and key are there, and the key signs. -/
theorem appJwt_ok {app : GithubApp} {jwt : String} :
    appJwt app = .ok jwt ↔ (app.appId ≠ "" ∧ app.privateKey ≠ "") ∧ app.jwt = .ok jwt := by
  simp only [appJwt, bind_eq_ok, raiseIf_eq_ok, not_or, mapError_eq_ok, exists_const, ne_eq]

theorem readToken_ok {payload : Items} {token : String} :
    readToken payload = .ok token ↔ getItem payload "token" = .str token ∧ token ≠ "" := by
  unfold readToken
  split
  · next text htext =>
    split
    · next hne =>
      rw [Except.ok.injEq, htext, Value.str.injEq]
      exact ⟨fun h => ⟨h, h ▸ hne⟩, And.left⟩
    · next hne =>
      refine iff_of_false nofun ?_
      intro h
      obtain ⟨heq, hne'⟩ := h
      rw [htext, Value.str.injEq] at heq
      exact hne fun hempty => hne' (heq ▸ hempty)
  · next hnot =>
    refine iff_of_false nofun ?_
    intro h
    obtain ⟨heq, -⟩ := h
    exact hnot token heq

/-- A token is handed out iff the App signs and the exchange gives one. -/
theorem installationToken_isOk {app : GithubApp} {exchange : Exchange} :
    (∃ token, installationToken app exchange = .ok token) ↔
      (∃ jwt, appJwt app = .ok jwt) ∧ exchange.GivesToken := by
  simp only [installationToken, bind_eq_ok]
  constructor
  · intro h
    obtain ⟨token, jwt, hjwt, payload, hpayload, items, hitems, htoken⟩ := h
    refine ⟨⟨jwt, hjwt⟩, ?_⟩
    cases exchange with
    | answered payload' =>
      obtain rfl := Except.ok.inj hpayload
      cases payload' with
      | dict items' =>
        obtain rfl := Except.ok.inj hitems
        exact ⟨token, readToken_ok.mp htoken⟩
      | _ => cases hitems
    | _ => cases hpayload
  · intro h
    obtain ⟨⟨jwt, hjwt⟩, hgiven⟩ := h
    cases exchange with
    | answered payload =>
      cases payload with
      | dict items =>
        obtain ⟨token, htoken⟩ := hgiven
        exact ⟨token, jwt, hjwt, .dict items, rfl, items, rfl, readToken_ok.mpr htoken⟩
      | _ => cases hgiven
    | _ => cases hgiven

theorem contained_appJwt {app : GithubApp} :
    Contained (appJwt app) ↔
      (app.appId ≠ "" → app.privateKey ≠ "" → ∃ token, app.jwt = .ok token) := by
  by_cases hkeys : app.appId = "" ∨ app.privateKey = ""
  · refine iff_of_true ?_ fun hid hkey => absurd hkeys (not_or.mpr ⟨hid, hkey⟩)
    rw [appJwt, raiseIf_pos hkeys]
    exact .error rfl
  · obtain ⟨hid, hkey⟩ := not_or.mp hkeys
    rw [appJwt, raiseIf_neg hkeys, bind_ok]
    cases hjwt : app.jwt with
    | ok token => exact iff_of_true .ok fun _ _ => ⟨token, rfl⟩
    | error className =>
      refine iff_of_false (fun h => Bool.false_ne_true (h _ rfl)) fun h => ?_
      obtain ⟨token, htoken⟩ := h hid hkey
      cases htoken

theorem contained_installationToken {app : GithubApp} {exchange : Exchange} :
    Contained (installationToken app exchange) ↔ (app.appId ≠ "" → app.privateKey ≠ "" →
      (∃ token, app.jwt = .ok token) ∧ exchange.Handled) := by
  have hsplit : installationToken app exchange =
      appJwt app >>= fun _ => (clientRequest exchange >>= objectOf) >>= readToken := by
    simp only [installationToken, bind_assoc]
  have hread : Contained ((clientRequest exchange >>= objectOf) >>= readToken) ↔
      exchange.Handled := by
    rw [contained_bind, contained_request]
    exact and_iff_left fun payload _ => contained_readToken
  rw [hsplit, contained_bind, contained_appJwt, hread]
  constructor
  · intro h hid hkey
    obtain ⟨hsigns, hexchange⟩ := h
    obtain ⟨token, htoken⟩ := hsigns hid hkey
    exact ⟨⟨token, htoken⟩, hexchange token (appJwt_ok.mpr ⟨⟨hid, hkey⟩, htoken⟩)⟩
  · intro h
    refine ⟨fun hid hkey => (h hid hkey).1, fun jwt hjwt => ?_⟩
    obtain ⟨⟨hid, hkey⟩, -⟩ := appJwt_ok.mp hjwt
    exact (h hid hkey).2

/-- A client method raises nothing but a `DomainError` iff the key signs and each
exchange it gets to is handled. -/
theorem contained_answer {app : GithubApp} {sent : Sent} :
    Contained (clientAnswer app sent) ↔ sent.Handled app := by
  rw [clientAnswer, contained_bind, contained_installationToken, contained_request]
  constructor
  · intro h
    obtain ⟨htoken, hrequest⟩ := h
    refine ⟨fun hid hkey => (htoken hid hkey).1, fun hid hkey => (htoken hid hkey).2,
      fun hid hkey hgiven => ?_⟩
    obtain ⟨jwt, hjwt⟩ := (htoken hid hkey).1
    obtain ⟨token, htoken⟩ := installationToken_isOk.mpr
      ⟨⟨jwt, appJwt_ok.mpr ⟨⟨hid, hkey⟩, hjwt⟩⟩, hgiven⟩
    exact hrequest token htoken
  · intro h
    refine ⟨fun hid hkey => ⟨h.signs hid hkey, h.token hid hkey⟩, fun token htoken => ?_⟩
    obtain ⟨⟨jwt, hjwt⟩, hgiven⟩ := installationToken_isOk.mp ⟨token, htoken⟩
    obtain ⟨⟨hid, hkey⟩, -⟩ := appJwt_ok.mp hjwt
    exact h.request hid hkey hgiven

end DeployGuard.Service
