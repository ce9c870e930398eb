import DeployGuard.Identity.Settings
import DeployGuard.Lib.Interleaving
import DeployGuard.Lib.Unique

/-!
# Who is let in

The users and their access tokens, and the requests that let somebody in: an access token of the
identity provider, a development session and its token, and the request without credentials of a
development process. A request is a program of statements, one step each, so that `loginSystem`
has every order in which the statements of any number of requests can fall.

The columns that are unique are so in the type. An operator may deactivate a user or revoke a
token at any time; no request does.
-/

namespace DeployGuard.Identity

open DeployGuard.Service Interleaving Raise Transition

/-! ## Users and tokens -/

structure AccessToken where
  id : String
  userId : String
  tokenHash : String
  provider : String
  createdAt : Time
  expiresAt : Time
  revokedAt : Option Time
  deriving DecidableEq

/-- The tables `users` and `access_tokens`. -/
structure Accounts where
  users : Table User.id
  emails : users.Unique User.email
  subjects : users.Unique User.providerSubject
  tokens : Table AccessToken.id
  hashes : tokens.Unique AccessToken.tokenHash

namespace Accounts

variable (a : Accounts)

/-- `INSERT INTO users`. -/
def insertUser (user : User) : Except ServiceError Accounts :=
  if h : a.users.findBy User.email user.email = none ∧
      a.users.findBy User.providerSubject user.providerSubject = none then
    match hinsert : a.users.insert user with
    | some users => .ok { a with
        users
        emails := a.emails.insert h.1 hinsert
        subjects := a.subjects.insert h.2 hinsert }
    | none => .error .integrityError
  else .error .integrityError

/-- The row under the new values of the columns that are written. -/
def renamed (email displayName : Option String) (row : User) : User :=
  { row with email := email.getD row.email, displayName := displayName.getD row.displayName }

/-- `UPDATE users SET … WHERE id = …`, of the columns that changed. A row that is gone raises. -/
def updateUser (id : String) (email displayName : Option String) : Except ServiceError Accounts :=
  if (a.users.get? id).isNone then .error (.other "StaleDataError")
  else if h : ∀ row ∈ a.users.rows, row.id = id → ∀ other ∈ a.users.rows, other.id ≠ id →
      other.email ≠ (renamed email displayName row).email then
    .ok { a with
      users := a.users.updateWhere (fun row => row.id = id) (renamed email displayName) fun _ => rfl
      emails := a.emails.updateKey h
      subjects := a.subjects.updateWhere fun _ => rfl }
  else .error .integrityError

/-- `INSERT INTO access_tokens`. -/
def insertToken (row : AccessToken) : Except ServiceError Accounts :=
  if h : a.tokens.findBy AccessToken.tokenHash row.tokenHash = none then
    match hinsert : a.tokens.insert row with
    | some tokens => .ok { a with tokens, hashes := a.hashes.insert h hinsert }
    | none => .error .integrityError
  else .error .integrityError

/-- An operator sets `is_active`. -/
def setActive (id : String) (active : Bool) : Accounts :=
  { a with
    users := a.users.updateWhere (fun row => row.id = id) (fun row => { row with isActive := active })
      fun _ => rfl
    emails := a.emails.updateWhere fun _ => rfl
    subjects := a.subjects.updateWhere fun _ => rfl }

/-- An operator revokes a token. -/
def revoke (id : String) (now : Time) : Accounts :=
  { a with
    tokens := a.tokens.updateWhere (fun row => row.id = id)
      (fun row => { row with revokedAt := some now }) fun _ => rfl
    hashes := a.hashes.updateWhere fun _ => rfl }

end Accounts

/-! ## Access tokens of the identity provider -/

structure OIDCIdentity where
  issuer : String
  subject : String
  email : String
  emailVerified : Bool
  displayName : String
  deriving DecidableEq

/-- What an identity provider and its library answer: the claims of a token whose signature,
issuer, audience and times are good. -/
abbrev TokenDecoder := String → Option Items

def invalidAccessToken : ServiceError :=
  .domain "Invalid or expired access token" "invalid_access_token" 401

/-- `email.split("@", 1)[0]`. -/
def localPart (email : String) : String := String.ofList (email.toList.takeWhile (· ≠ '@'))

/-- `OIDCVerifier.verify`. -/
def verify (host : Host) (decode : TokenDecoder) (token : String) :
    Except ServiceError OIDCIdentity :=
  match decode token with
  | none => .error invalidAccessToken
  | some claims => do
    let email := host.lower (Text.strip (host.str (getItemD claims "email" (.str ""))))
    raiseIf (email = "" ∨ '@' ∉ email.toList)
      (.domain "The identity token does not contain an email address" "oidc_email_required" 401)
    raiseIf (getItem claims "email_verified" ≠ .bool true)
      (.domain "A verified email address is required" "oidc_email_not_verified" 401)
    let displayName := Text.strip (host.str (firstTruthy
      [getItem claims "name", getItem claims "preferred_username", .str (localPart email)]))
    let issuer ← requireItem claims "iss"
    let subject ← requireItem claims "sub"
    pure {
      issuer := host.str issuer
      subject := host.str subject
      email
      emailVerified := true
      displayName := Text.take 160 displayName }

/-- `_oidc_subject`. -/
def oidcSubject (host : Host) (identity : OIDCIdentity) : String :=
  "oidc:" ++ host.sha256 (identity.issuer ++ "\x00" ++ identity.subject)

/-! ## Requests -/

/-- `HTTPAuthorizationCredentials`. -/
structure Credentials where
  scheme : String
  credentials : String
  deriving DecidableEq

inductive Request where
  /-- `POST /auth/development-session` -/
  | development (email displayName : Option String)
  /-- a route of `get_current_user` -/
  | current (credentials : Option Credentials)
  /-- a route of `get_legacy_user` -/
  | legacy (credentials : Option Credentials)
  deriving DecidableEq

/-- On what grounds a user is let in. -/
inductive Grounds where
  | identity (identity : OIDCIdentity)
  | token (text : String) (row : AccessToken) (now : Time)
  | anonymous
  deriving DecidableEq

/-- The next statement of a request, with what it has read, or its end. -/
inductive Stage where
  | waiting
  -- `_synchronize_oidc_user`
  | bySubject (identity : OIDCIdentity)
  | byEmail (identity : OIDCIdentity)
  | create (identity : OIDCIdentity)
  | conflicting (identity : OIDCIdentity) (user : User)
  | rename (identity : OIDCIdentity) (user : User)
  -- `authenticate_token`
  | byToken (text : String)
  | owner (text : String) (row : AccessToken) (now : Time)
  -- `ensure_development_user`
  | anonymousBySubject
  | anonymousByEmail
  | anonymousCreate
  -- `create_development_session`
  | sessionByEmail (email displayName : String)
  | issue (user : User) (isNew : Bool)
  | admitted (user : User) (grounds : Grounds)
  | issued (user : User) (row : AccessToken) (text : String)
  | refused (e : ServiceError)
  deriving DecidableEq

def authenticationRequired : ServiceError :=
  .domain "Authentication is required" "authentication_required" 401

def userInactive : ServiceError := .domain "User is inactive" "user_inactive" 403

def emailConflict : ServiceError :=
  .domain "This email is already associated with another identity" "identity_email_conflict" 409

/-- `normalize_email`. -/
def normalizeEmail (host : Host) (value : String) : String := host.lower (Text.strip value)

/-- `resolve_authenticated_user` up to its first statement. -/
def resolve (host : Host) (settings : Settings) (decode : TokenDecoder) :
    Option Credentials → Stage
  | none => .refused authenticationRequired
  | some credentials =>
    if host.lower credentials.scheme ≠ "bearer" then .refused authenticationRequired
    else
      match settings.authProvider with
      | .development =>
        if settings.developmentAuthAvailable host then .byToken credentials.credentials
        else .refused authenticationRequired
      | .oidc =>
        match verify host decode credentials.credentials with
        | .ok identity => .bySubject identity
        | .error e => .refused e
      | .disabled => .refused authenticationRequired

/-- `development_session` up to its first statement. -/
def openSession (host : Host) (settings : Settings) (email displayName : Option String) : Stage :=
  if settings.developmentAuthAvailable host then
    let address := normalizeEmail host (orText (email.getD "") settings.developmentUserEmail)
    let name := orText (displayName.getD "")
      (if email.isNone then settings.developmentUserName else localPart address)
    .sessionByEmail (normalizeEmail host address) name
  else .refused (.domain "Development identity provider is disabled" "development_auth_disabled" 404)
where
  /-- `a or b`, for texts. -/
  orText (a b : String) : String := if a ≠ "" then a else b

/-- A request up to its first statement. -/
def begin (host : Host) (settings : Settings) (decode : TokenDecoder) : Request → Stage
  | .development email displayName => openSession host settings email displayName
  | .current credentials => resolve host settings decode credentials
  | .legacy none =>
    if settings.developmentAuthAvailable host then .anonymousBySubject
    else .refused authenticationRequired
  | .legacy (some credentials) => resolve host settings decode (some credentials)

/-- What a statement draws: identifiers, a token and the clock. -/
structure Drawn where
  id : String
  tokenId : String
  text : String
  clock : Nat → Time

/-- The end of a request that has its user. -/
def admitTo (user : User) (grounds : Grounds) : Stage :=
  if user.isActive then .admitted user grounds else .refused userInactive

/-- A statement that writes: what it leaves, or what it raises. -/
def written (a : Accounts) (result : Except ServiceError Accounts) (next : Stage) :
    Accounts × Stage :=
  match result with
  | .ok a' => (a', next)
  | .error e => (a, .refused e)

section Statements

variable (host : Host) (settings : Settings)

def oidcUser (identity : OIDCIdentity) (drawn : Drawn) : User where
  id := drawn.id
  email := identity.email
  displayName := identity.displayName
  authProvider := "oidc"
  providerSubject := oidcSubject host identity
  isActive := true
  createdAt := drawn.clock 0

/-- A user of the development provider. -/
def developmentUser (email displayName : String) (drawn : Drawn) : User where
  id := drawn.id
  email
  displayName := if Text.strip displayName ≠ "" then Text.strip displayName else localPart email
  authProvider := "development"
  providerSubject := "development:" ++ email
  isActive := true
  createdAt := drawn.clock 0

/-- The user of requests without credentials. -/
def anonymousEmail : String := normalizeEmail host settings.developmentUserEmail

/-- The user a name or an email of the identity provider is written to, as the session has it. -/
def renamedUser (identity : OIDCIdentity) (user : User) : User :=
  { user with email := identity.email, displayName := identity.displayName }

def accessToken (user : User) (drawn : Drawn) : AccessToken where
  id := drawn.tokenId
  userId := user.id
  tokenHash := tokenDigest host drawn.text
  provider := "development"
  createdAt := drawn.clock 2
  expiresAt := drawn.clock 1 + seconds (settings.accessTokenTtlHours * 3600)
  revokedAt := none

/-- A value that is written only if it has changed. -/
def changed (old new : String) : Option String := if old ≠ new then some new else none

/-- The next statement of a request; its end has none. -/
def statement (a : Accounts) (drawn : Drawn) : Stage → Option (Accounts × Stage)
  | .waiting | .admitted _ _ | .issued _ _ _ | .refused _ => none
  | .bySubject identity =>
    match a.users.findBy User.providerSubject (oidcSubject host identity) with
    | none => some (a, .byEmail identity)
    | some user =>
      if user.email ≠ identity.email ∨ user.displayName ≠ identity.displayName then
        some (a, .conflicting identity user)
      else some (a, admitTo user (.identity identity))
  | .byEmail identity =>
    match a.users.findBy User.email identity.email with
    | none => some (a, .create identity)
    | some _ => some (a, .refused emailConflict)
  | .create identity =>
    let user := oidcUser host identity drawn
    some (written a (a.insertUser user) (admitTo user (.identity identity)))
  | .conflicting identity user =>
    if ∃ row ∈ a.users.rows, row.email = identity.email ∧ row.id ≠ user.id then
      some (a, .refused emailConflict)
    else some (a, .rename identity user)
  | .rename identity user =>
    some (written a
      (a.updateUser user.id (changed user.email identity.email)
        (changed user.displayName identity.displayName))
      (admitTo (renamedUser identity user) (.identity identity)))
  | .byToken text =>
    match a.tokens.findBy AccessToken.tokenHash (tokenDigest host text) with
    | none => some (a, .refused invalidAccessToken)
    | some row =>
      if row.revokedAt.isSome ∨ row.expiresAt ≤ drawn.clock 0 then
        some (a, .refused invalidAccessToken)
      else some (a, .owner text row (drawn.clock 0))
  | .owner text row now =>
    match a.users.get? row.userId with
    | none => some (a, .refused invalidAccessToken)
    | some user =>
      if user.isActive then some (a, .admitted user (.token text row now))
      else some (a, .refused invalidAccessToken)
  | .anonymousBySubject =>
    match a.users.findBy User.providerSubject ("development:" ++ anonymousEmail host settings) with
    | none => some (a, .anonymousByEmail)
    | some user => some (a, admitTo user .anonymous)
  | .anonymousByEmail =>
    match a.users.findBy User.email (anonymousEmail host settings) with
    | none => some (a, .anonymousCreate)
    -- the user is returned without a look at `is_active`
    | some user => some (a, .admitted user .anonymous)
  | .anonymousCreate =>
    let user := developmentUser (anonymousEmail host settings) settings.developmentUserName drawn
    some (written a (a.insertUser user) (admitTo user .anonymous))
  | .sessionByEmail email displayName =>
    match a.users.findBy User.email email with
    | none => some (a, .issue (developmentUser email displayName drawn) true)
    | some user =>
      if user.isActive then some (a, .issue user false) else some (a, .refused userInactive)
  | .issue user isNew =>
    let row := accessToken host settings user drawn
    let flushed := if isNew then a.insertUser user else .ok a
    some (written a (flushed >>= fun a => a.insertToken row) (.issued user row drawn.text))

end Statements

/-! ## Requests side by side -/

abbrev Logins (ι : Type) := Parties ι Accounts Stage

inductive LoginAction (ι : Type) where
  | begin (i : ι) (request : Request)
  | statement (i : ι) (drawn : Drawn)
  | setActive (userId : String) (active : Bool)
  | revoke (tokenId : String) (now : Time)

/-- Any number of requests, and operators. -/
def loginSystem {ι : Type} [DecidableEq ι] (host : Host) (settings : Settings)
    (decode : TokenDecoder) : System (Logins ι) (LoginAction ι) where
  init r := r.stage = fun _ => .waiting
  next r
    | .begin i request =>
      match r.stage i with
      | .waiting => some (r.goTo i (begin host settings decode request))
      | _ => none
    | .statement i drawn =>
      match statement host settings r.store drawn (r.stage i) with
      | some (store, stage) => some (r.write i stage store)
      | none => none
    | .setActive userId active => some { r with store := r.store.setActive userId active }
    | .revoke tokenId now => some { r with store := r.store.revoke tokenId now }

end DeployGuard.Identity
