import DeployGuard.Identity.Accounts

/-!
# On what grounds

Over every order of the statements of any number of requests, with operators in between:

> `admissions_grounded`: a user that was let in is the user of the access token, of the
development token or of the configured address, and active, but for that address;

> `identities_bound`: a subject of the identity provider is always let in as the same user, and
no other subject as that user;

> `tokens_bound`: a development token lets in the user it was issued to, until it expires;

> `production_verified`: a production process lets in verified identities only.

`StageOk` is what each request knows, against tables that only grow (`Extends`).
-/

namespace DeployGuard.Identity

open DeployGuard.Service Interleaving Raise Transition

variable {ι : Type} [DecidableEq ι] {host : Host} {settings : Settings} {decode : TokenDecoder}
  {a a' a'' : Accounts} {user : User}

/-! ## Writes -/

/-- A new user leaves the tokens alone. -/
theorem insertUser_ok (h : a.insertUser user = .ok a') :
    a.users.insert user = some a'.users ∧ a'.tokens = a.tokens := by
  unfold Accounts.insertUser at h
  split at h
  · split at h
    · next users hinsert =>
      obtain rfl := Except.ok.inj h
      exact ⟨hinsert, rfl⟩
    · cases h
  · cases h

/-- A new token leaves the users alone. -/
theorem insertToken_ok {row : AccessToken} (h : a.insertToken row = .ok a') :
    a.tokens.insert row = some a'.tokens ∧ a'.users = a.users := by
  unfold Accounts.insertToken at h
  split at h
  · split at h
    · next tokens hinsert =>
      obtain rfl := Except.ok.inj h
      exact ⟨hinsert, rfl⟩
    · cases h
  · cases h

/-- Renaming touches one user's address and name. -/
theorem updateUser_ok {id : String} {email displayName : Option String}
    (h : a.updateUser id email displayName = .ok a') :
    a'.tokens = a.tokens ∧ ∀ k, a'.users.get? k = (a.users.get? k).map fun row =>
      if k = id then Accounts.renamed email displayName row else row := by
  unfold Accounts.updateUser at h
  split at h
  · cases h
  · split at h
    · obtain rfl := Except.ok.inj h
      exact ⟨rfl, Table.get?_updateKey a.users id (Accounts.renamed email displayName) fun _ => rfl⟩
    · cases h

/-! ## Tables that grow -/

/-- A row of a user under what may be written to it. -/
def SameUser (row row' : User) : Prop :=
  row'.id = row.id ∧ row'.authProvider = row.authProvider ∧
    row'.providerSubject = row.providerSubject ∧ row'.createdAt = row.createdAt

/-- A token under what an operator may do to it. -/
def SameToken (row row' : AccessToken) : Prop :=
  row'.id = row.id ∧ row'.userId = row.userId ∧ row'.tokenHash = row.tokenHash ∧
    row'.expiresAt = row.expiresAt

/-- No user and no token is lost, or becomes another's. -/
structure Extends (a a' : Accounts) : Prop where
  users : ∀ id row, a.users.get? id = some row → ∃ row', a'.users.get? id = some row' ∧ SameUser row row'
  tokens : ∀ id row, a.tokens.get? id = some row →
    ∃ row', a'.tokens.get? id = some row' ∧ SameToken row row'

/-- A row is of its own user. -/
theorem SameUser.refl (row : User) : SameUser row row := ⟨rfl, rfl, rfl, rfl⟩

/-- A row is of its own token. -/
theorem SameToken.refl (row : AccessToken) : SameToken row row := ⟨rfl, rfl, rfl, rfl⟩

theorem SameToken.trans {s t u : AccessToken} (h : SameToken s t) (h' : SameToken t u) :
    SameToken s u :=
  ⟨h'.1.trans h.1, h'.2.1.trans h.2.1, h'.2.2.1.trans h.2.2.1, h'.2.2.2.trans h.2.2.2⟩

/-- The accounts extend themselves. -/
theorem Extends.refl (a : Accounts) : Extends a a :=
  ⟨fun _ row h => ⟨row, h, .refl row⟩, fun _ row h => ⟨row, h, .refl row⟩⟩

/-- A new user extends the accounts. -/
theorem extends_insertUser (h : a.insertUser user = .ok a') : Extends a a' := by
  obtain ⟨hinsert, htokens⟩ := insertUser_ok h
  refine ⟨fun id row hrow => ⟨row, Table.get?_of_insert hinsert hrow, .refl row⟩, fun id row hrow => ?_⟩
  rw [htokens]
  exact ⟨row, hrow, .refl row⟩

theorem extends_insertToken {row : AccessToken} (h : a.insertToken row = .ok a') : Extends a a' := by
  obtain ⟨hinsert, husers⟩ := insertToken_ok h
  refine ⟨fun id row hrow => ?_, fun id row hrow => ⟨row, Table.get?_of_insert hinsert hrow, .refl row⟩⟩
  rw [husers]
  exact ⟨row, hrow, .refl row⟩

theorem extends_updateUser {id : String} {email displayName : Option String}
    (h : a.updateUser id email displayName = .ok a') : Extends a a' := by
  obtain ⟨htokens, hget⟩ := updateUser_ok h
  refine ⟨fun k row hrow => ⟨_, by rw [hget, hrow]; rfl, ?_⟩, fun k row hrow => ?_⟩
  · split <;> exact .refl row
  · rw [htokens]
    exact ⟨row, hrow, .refl row⟩

theorem extends_setActive (a : Accounts) (id : String) (active : Bool) :
    Extends a (a.setActive id active) := by
  refine ⟨fun k row hrow => ?_, fun k row hrow => ⟨row, hrow, .refl row⟩⟩
  have hget : (a.setActive id active).users.get? k =
      some (if k = id then { row with isActive := active } else row) := by
    rw [Accounts.setActive, Table.get?_updateKey, hrow]
    rfl
  refine ⟨_, hget, ?_⟩
  split <;> exact .refl row

theorem extends_revoke (a : Accounts) (id : String) (now : Time) : Extends a (a.revoke id now) := by
  refine ⟨fun k row hrow => ⟨row, hrow, .refl row⟩, fun k row hrow => ?_⟩
  have hget : (a.revoke id now).tokens.get? k =
      some (if k = id then { row with revokedAt := some now } else row) := by
    rw [Accounts.revoke, Table.get?_updateKey, hrow]
    rfl
  refine ⟨_, hget, ?_⟩
  split <;> exact .refl row

/-! ## What a request knows -/

/-- The user has a row, whatever its name and email are by now. -/
def Known (a : Accounts) (user : User) : Prop :=
  ∃ row, a.users.get? user.id = some row ∧ row.providerSubject = user.providerSubject

/-- The token has a row. -/
def KnownToken (a : Accounts) (row : AccessToken) : Prop :=
  ∃ row', a.tokens.get? row.id = some row' ∧ SameToken row row'

/-- An identity the provider vouches for. -/
def Verified (host : Host) (settings : Settings) (decode : TokenDecoder) (identity : OIDCIdentity) :
    Prop :=
  settings.authProvider = .oidc ∧ ∃ text, verify host decode text = .ok identity

/-- A token that was good at some time. -/
structure TokenGood (host : Host) (settings : Settings) (a : Accounts) (text : String)
    (row : AccessToken) (now : Time) : Prop where
  available : settings.developmentAuthAvailable host = true
  known : KnownToken a row
  digest : row.tokenHash = tokenDigest host text
  unrevoked : row.revokedAt = none
  unexpired : now < row.expiresAt

/-- What speaks for letting a user in. -/
def Grounded (host : Host) (settings : Settings) (decode : TokenDecoder) (a : Accounts)
    (user : User) : Grounds → Prop
  | .identity identity => Verified host settings decode identity ∧ user.isActive = true ∧
    user.providerSubject = oidcSubject host identity ∧ user.email = identity.email ∧
    user.displayName = identity.displayName
  | .token text row now => TokenGood host settings a text row now ∧ user.isActive = true ∧
    row.userId = user.id
  | .anonymous => settings.developmentAuthAvailable host = true ∧
    (user.isActive = true ∨ user.email = anonymousEmail host settings)

def StageOk (host : Host) (settings : Settings) (decode : TokenDecoder) (a : Accounts) :
    Stage → Prop
  | .waiting | .refused _ => True
  | .bySubject identity | .byEmail identity | .create identity =>
    Verified host settings decode identity
  | .conflicting identity user | .rename identity user =>
    Verified host settings decode identity ∧ Known a user ∧
      user.providerSubject = oidcSubject host identity
  | .owner text row now => TokenGood host settings a text row now
  | .byToken _ | .anonymousBySubject | .anonymousByEmail | .anonymousCreate | .sessionByEmail _ _ =>
    settings.developmentAuthAvailable host = true
  | .issue user isNew => settings.developmentAuthAvailable host = true ∧
    (isNew = false → Known a user)
  | .admitted user grounds => Known a user ∧ Grounded host settings decode a user grounds
  | .issued user row text => settings.developmentAuthAvailable host = true ∧ Known a user ∧
    KnownToken a row ∧ row.userId = user.id ∧ row.tokenHash = tokenDigest host text

/-- A user once known stays known. -/
theorem Known.mono (h : Known a user) (hext : Extends a a') : Known a' user := by
  obtain ⟨row, hrow, hsubject⟩ := h
  obtain ⟨row', hrow', hsame⟩ := hext.users _ _ hrow
  exact ⟨row', hrow', hsame.2.2.1.trans hsubject⟩

theorem KnownToken.mono {row : AccessToken} (h : KnownToken a row) (hext : Extends a a') :
    KnownToken a' row := by
  obtain ⟨row', hrow', hsame⟩ := h
  obtain ⟨row'', hrow'', hsame'⟩ := hext.tokens _ _ hrow'
  exact ⟨row'', hrow'', hsame.trans hsame'⟩

/-- What was established of a token still holds. -/
theorem TokenGood.mono {text : String} {row : AccessToken} {now : Time}
    (h : TokenGood host settings a text row now) (hext : Extends a a') :
    TokenGood host settings a' text row now := { h with known := h.known.mono hext }

theorem StageOk.mono {stage : Stage} (h : StageOk host settings decode a stage)
    (hext : Extends a a') : StageOk host settings decode a' stage := by
  cases stage with
  | conflicting identity user => exact ⟨h.1, h.2.1.mono hext, h.2.2⟩
  | rename identity user => exact ⟨h.1, h.2.1.mono hext, h.2.2⟩
  | owner text row now => exact TokenGood.mono h hext
  | issue user isNew => exact ⟨h.1, fun hnew => (h.2 hnew).mono hext⟩
  | admitted user grounds =>
    refine ⟨h.1.mono hext, ?_⟩
    cases grounds with
    | token text row now => exact ⟨h.2.1.mono hext, h.2.2⟩
    | _ => exact h.2
  | issued user row text => exact ⟨h.1, h.2.1.mono hext, h.2.2.1.mono hext, h.2.2.2⟩
  | _ => exact h

/-- A stored user is known. -/
theorem known_of_mem (h : user ∈ a.users.rows) : Known a user := ⟨user, Table.get?_of_mem h, rfl⟩

/-- A user just inserted is known. -/
theorem known_insertUser (h : a.insertUser user = .ok a') : Known a' user :=
  ⟨user, Table.get?_inserted (insertUser_ok h).1 rfl, rfl⟩

/-- Who is looked at and is active is let in. -/
theorem stageOk_admit {grounds : Grounds} (hknown : Known a user)
    (h : user.isActive = true → Grounded host settings decode a user grounds) :
    StageOk host settings decode a (admitTo user grounds) := by
  unfold admitTo
  split
  · next hactive => exact ⟨hknown, h hactive⟩
  · trivial

/-- A write that raises leaves the request refused; one that does not leads on. -/
theorem written_cases {result : Except ServiceError Accounts} {next stage : Stage}
    (h : written a result next = (a', stage)) :
    result = .ok a' ∧ stage = next ∨ a' = a ∧ ∃ e, stage = .refused e := by
  unfold written at h
  split at h
  · obtain ⟨rfl, rfl⟩ := Prod.mk.inj h
    exact Or.inl ⟨rfl, rfl⟩
  · obtain ⟨rfl, rfl⟩ := Prod.mk.inj h
    exact Or.inr ⟨rfl, _, rfl⟩

/-! ## Statements -/

/-- Before any statement a request has established what its credentials say. -/
theorem stageOk_resolve (credentials : Option Credentials) :
    StageOk host settings decode a (resolve host settings decode credentials) := by
  unfold resolve
  split
  · trivial
  · split
    · trivial
    · split
      · split
        · next havailable => exact havailable
        · trivial
      · next hprovider =>
        split
        · next identity hverify => exact ⟨hprovider, _, hverify⟩
        · trivial
      · trivial

theorem stageOk_begin (request : Request) :
    StageOk host settings decode a (begin host settings decode request) := by
  cases request with
  | development email displayName =>
    show StageOk host settings decode a (openSession host settings email displayName)
    unfold openSession
    split
    · next havailable => exact havailable
    · trivial
  | current credentials => exact stageOk_resolve credentials
  | legacy credentials =>
    cases credentials with
    | some credentials => exact stageOk_resolve (some credentials)
    | none =>
      dsimp only [begin]
      split
      · next havailable => exact havailable
      · trivial

/-- A statement loses nothing, and the request knows what it needs to go on. -/
theorem statement_ok {drawn : Drawn} {stage stage' : Stage}
    (h : StageOk host settings decode a stage)
    (hnext : statement host settings a drawn stage = some (a', stage')) :
    Extends a a' ∧ StageOk host settings decode a' stage' := by
  cases stage with
  | waiting => cases hnext
  | admitted user grounds => cases hnext
  | issued user row text => cases hnext
  | refused e => cases hnext
  | bySubject identity =>
    dsimp only [statement] at hnext
    split at hnext
    · obtain ⟨rfl, rfl⟩ := Prod.mk.inj (Option.some.inj hnext)
      exact ⟨.refl a, h⟩
    · next user hfound =>
      have hknown := known_of_mem (Table.mem_of_findBy hfound)
      have hsubject := Table.column_of_findBy hfound
      split at hnext
      · obtain ⟨rfl, rfl⟩ := Prod.mk.inj (Option.some.inj hnext)
        exact ⟨.refl a, h, hknown, hsubject⟩
      · next hsame =>
        obtain ⟨rfl, rfl⟩ := Prod.mk.inj (Option.some.inj hnext)
        obtain ⟨hemail, hname⟩ := not_or.mp hsame
        exact ⟨.refl a, stageOk_admit hknown fun hactive =>
          ⟨h, hactive, hsubject, not_not.mp hemail, not_not.mp hname⟩⟩
  | byEmail identity =>
    dsimp only [statement] at hnext
    split at hnext
    · obtain ⟨rfl, rfl⟩ := Prod.mk.inj (Option.some.inj hnext)
      exact ⟨.refl a, h⟩
    · obtain ⟨rfl, rfl⟩ := Prod.mk.inj (Option.some.inj hnext)
      exact ⟨.refl a, trivial⟩
  | create identity =>
    rcases written_cases (Option.some.inj hnext) with ⟨hinsert, rfl⟩ | ⟨rfl, e, rfl⟩
    · exact ⟨extends_insertUser hinsert, stageOk_admit (known_insertUser hinsert) fun hactive =>
        ⟨h, hactive, rfl, rfl, rfl⟩⟩
    · exact ⟨.refl _, trivial⟩
  | conflicting identity user =>
    dsimp only [statement] at hnext
    split at hnext
    · obtain ⟨rfl, rfl⟩ := Prod.mk.inj (Option.some.inj hnext)
      exact ⟨.refl a, trivial⟩
    · obtain ⟨rfl, rfl⟩ := Prod.mk.inj (Option.some.inj hnext)
      exact ⟨.refl a, h⟩
  | rename identity user =>
    obtain ⟨hverified, hknown, hsubject⟩ := h
    rcases written_cases (Option.some.inj hnext) with ⟨hupdate, rfl⟩ | ⟨rfl, e, rfl⟩
    · have hext := extends_updateUser hupdate
      have hknown' : Known a' (renamedUser identity user) := hknown.mono hext
      exact ⟨hext, stageOk_admit hknown' fun hactive => ⟨hverified, hactive, hsubject, rfl, rfl⟩⟩
    · exact ⟨.refl _, trivial⟩
  | byToken text =>
    dsimp only [statement] at hnext
    split at hnext
    · obtain ⟨rfl, rfl⟩ := Prod.mk.inj (Option.some.inj hnext)
      exact ⟨.refl a, trivial⟩
    · next row hfound =>
      split at hnext
      · obtain ⟨rfl, rfl⟩ := Prod.mk.inj (Option.some.inj hnext)
        exact ⟨.refl a, trivial⟩
      · next hgood =>
        obtain ⟨rfl, rfl⟩ := Prod.mk.inj (Option.some.inj hnext)
        obtain ⟨hrevoked, hexpired⟩ := not_or.mp hgood
        refine ⟨.refl a, h, ⟨row, Table.get?_of_mem (Table.mem_of_findBy hfound), .refl row⟩,
          Table.column_of_findBy hfound, ?_, lt_of_not_ge hexpired⟩
        exact Option.not_isSome_iff_eq_none.mp hrevoked
  | owner text row now =>
    dsimp only [statement] at hnext
    split at hnext
    · obtain ⟨rfl, rfl⟩ := Prod.mk.inj (Option.some.inj hnext)
      exact ⟨.refl a, trivial⟩
    · next user hfound =>
      split at hnext
      · next hactive =>
        obtain ⟨rfl, rfl⟩ := Prod.mk.inj (Option.some.inj hnext)
        exact ⟨.refl a, known_of_mem (Table.mem_of_get? hfound), h, hactive,
          (Table.key_of_get? hfound).symm⟩
      · obtain ⟨rfl, rfl⟩ := Prod.mk.inj (Option.some.inj hnext)
        exact ⟨.refl a, trivial⟩
  | anonymousBySubject =>
    dsimp only [statement] at hnext
    split at hnext
    · obtain ⟨rfl, rfl⟩ := Prod.mk.inj (Option.some.inj hnext)
      exact ⟨.refl a, h⟩
    · next user hfound =>
      obtain ⟨rfl, rfl⟩ := Prod.mk.inj (Option.some.inj hnext)
      exact ⟨.refl a, stageOk_admit (known_of_mem (Table.mem_of_findBy hfound)) fun hactive =>
        ⟨h, Or.inl hactive⟩⟩
  | anonymousByEmail =>
    dsimp only [statement] at hnext
    split at hnext
    · obtain ⟨rfl, rfl⟩ := Prod.mk.inj (Option.some.inj hnext)
      exact ⟨.refl a, h⟩
    · next user hfound =>
      obtain ⟨rfl, rfl⟩ := Prod.mk.inj (Option.some.inj hnext)
      exact ⟨.refl a, known_of_mem (Table.mem_of_findBy hfound), h,
        Or.inr (Table.column_of_findBy hfound)⟩
  | anonymousCreate =>
    rcases written_cases (Option.some.inj hnext) with ⟨hinsert, rfl⟩ | ⟨rfl, e, rfl⟩
    · exact ⟨extends_insertUser hinsert, stageOk_admit (known_insertUser hinsert) fun hactive =>
        ⟨h, Or.inl hactive⟩⟩
    · exact ⟨.refl _, trivial⟩
  | sessionByEmail email displayName =>
    dsimp only [statement] at hnext
    split at hnext
    · obtain ⟨rfl, rfl⟩ := Prod.mk.inj (Option.some.inj hnext)
      exact ⟨.refl a, h, fun hnew => Bool.noConfusion hnew⟩
    · next user hfound =>
      split at hnext
      · obtain ⟨rfl, rfl⟩ := Prod.mk.inj (Option.some.inj hnext)
        exact ⟨.refl a, h, fun _ => known_of_mem (Table.mem_of_findBy hfound)⟩
      · obtain ⟨rfl, rfl⟩ := Prod.mk.inj (Option.some.inj hnext)
        exact ⟨.refl a, trivial⟩
  | issue user isNew =>
    obtain ⟨havailable, hknown⟩ := h
    rcases written_cases (Option.some.inj hnext) with ⟨hwrite, rfl⟩ | ⟨rfl, e, rfl⟩
    · obtain ⟨a₁, huser, htoken⟩ := bind_eq_ok.mp hwrite
      have hext := extends_insertToken htoken
      have huser' : Extends a a₁ ∧ Known a₁ user := by
        cases isNew with
        | true => exact ⟨extends_insertUser huser, known_insertUser huser⟩
        | false =>
          obtain rfl := Except.ok.inj huser
          exact ⟨.refl _, hknown rfl⟩
      refine ⟨⟨fun id row hrow => ?_, fun id row hrow => ?_⟩, havailable, huser'.2.mono hext,
        ⟨_, Table.get?_inserted (insertToken_ok htoken).1 rfl, .refl _⟩, rfl, rfl⟩
      · rw [(insertToken_ok htoken).2]
        exact huser'.1.users id row hrow
      · obtain ⟨row', hrow', hsame⟩ := huser'.1.tokens id row hrow
        exact ⟨row', Table.get?_of_insert (insertToken_ok htoken).1 hrow', hsame⟩
    · exact ⟨.refl _, trivial⟩

/-! ## Runs -/

/-- In every interleaving each request stays grounded. -/
theorem login_invariant (host : Host) (settings : Settings) (decode : TokenDecoder)
    (C : Logins ι → LoginAction ι → Prop) :
    Invariant (loginSystem host settings decode) C
      fun r => ∀ i, StageOk host settings decode r.store (r.stage i) where
  init r h i := by
    rw [congrFun h i]
    trivial
  step r action r' h _ hnext := by
    cases action with
    | begin i request =>
      simp only [loginSystem] at hnext
      split at hnext
      · obtain rfl := Option.some.inj hnext
        intro j
        by_cases hj : j = i
        · subst hj
          rw [Parties.goTo_self]
          exact stageOk_begin request
        · rw [Parties.goTo_ne _ _ hj]
          exact h j
      · cases hnext
    | statement i drawn =>
      simp only [loginSystem] at hnext
      split at hnext
      · next store stage hstatement =>
        obtain rfl := Option.some.inj hnext
        obtain ⟨hext, hstage⟩ := statement_ok (h i) hstatement
        intro j
        by_cases hj : j = i
        · subst hj
          rw [Parties.write_self]
          exact hstage
        · rw [Parties.write_ne _ _ _ hj]
          exact (h j).mono hext
      · cases hnext
    | setActive userId active =>
      obtain rfl := Option.some.inj hnext
      exact fun j => (h j).mono (extends_setActive ..)
    | revoke tokenId now =>
      obtain rfl := Option.some.inj hnext
      exact fun j => (h j).mono (extends_revoke ..)

variable {r : Logins ι} {i j : ι}

/-! ### Alice logs in twice -/

/-- A host whose digest is the text. -/
def plainDigestHost : Host := { asciiHost with sha256 := id }

/-- An identity provider with two tokens of one subject, the second under a longer name. -/
def aliceTokens : TokenDecoder
  | "token-1" => some [("iss", .str "https://identity.example"), ("sub", .str "7"),
      ("email", .str " Alice@acme.test"), ("email_verified", .bool true), ("name", .str "Alice")]
  | "token-2" => some [("iss", .str "https://identity.example"), ("sub", .str "7"),
      ("email", .str "alice@acme.test"), ("email_verified", .bool true), ("name", .str "Alice Smith")]
  | _ => none

def aliceIdentity (name : String) : OIDCIdentity :=
  ⟨"https://identity.example", "7", "alice@acme.test", true, name⟩

def aliceUser (name : String) : User where
  id := "u-1"
  email := "alice@acme.test"
  displayName := name
  authProvider := "oidc"
  providerSubject := oidcSubject plainDigestHost (aliceIdentity name)
  isActive := true
  createdAt := 0

def drawnAt (t : Time) : Drawn := ⟨"u-1", "t-1", "secret", fun _ => t⟩

def noLogins : Logins Bool :=
  ⟨⟨∅, List.nodup_nil, List.nodup_nil, ∅, List.nodup_nil⟩, fun _ => .waiting⟩

/-- A service before its first request is an initial state. -/
theorem noLogins_start : (loginSystem host settings decode).init noLogins := rfl

/-- The first request creates the user; the second is about to write the longer name. -/
def aliceRun : List (LoginAction Bool) :=
  [.begin true (.current (some ⟨"Bearer", "token-1"⟩)),
    .begin false (.legacy (some ⟨"bearer", "token-2"⟩)), .statement true (drawnAt 0),
    .statement true (drawnAt 0), .statement true (drawnAt 0), .statement false (drawnAt 0),
    .statement false (drawnAt 0)]

def aliceBefore : Logins Bool :=
  ((loginSystem plainDigestHost productionSettings aliceTokens).run noLogins aliceRun).get
    (by decide +kernel)

def aliceAfter : Logins Bool :=
  ((loginSystem plainDigestHost productionSettings aliceTokens).next aliceBefore
    (.statement false (drawnAt 0))).get (by decide +kernel)

/-- Both logins have inserted or looked up their user. -/
theorem reachable_aliceBefore :
    Reachable (loginSystem plainDigestHost productionSettings aliceTokens) aliceBefore :=
  .of_run (.init noLogins_start) (Option.some_get _).symm

/-- Both logins have been admitted. -/
theorem reachable_aliceAfter :
    Reachable (loginSystem plainDigestHost productionSettings aliceTokens) aliceAfter :=
  .step reachable_aliceBefore trivial (Option.some_get _).symm

/-- The first login was admitted under the name its token carried. -/
theorem aliceAfter_first :
    aliceAfter.stage true = .admitted (aliceUser "Alice") (.identity (aliceIdentity "Alice")) := by
  decide +kernel

/-- The second login was admitted under the name of a later token. -/
theorem aliceAfter_second : aliceAfter.stage false =
    .admitted (aliceUser "Alice Smith") (.identity (aliceIdentity "Alice Smith")) := by
  decide +kernel

/-! ### Grounds -/

/-- **Grounds.** Whoever is let in, in whatever order requests and operators take their turns, is
the active user of the identity the provider vouches for, under its email and name, or of a
development token that was neither revoked nor expired when it was read, or the user with the
configured address of a development process. -/
theorem admissions_grounded {grounds : Grounds}
    (h : Reachable (loginSystem host settings decode) r)
    (hi : r.stage i = .admitted user grounds) :
    Known r.store user ∧ Grounded host settings decode r.store user grounds := by
  have hstage := (login_invariant host settings decode _).reachable h i
  rw [hi] at hstage
  exact hstage

/-- The first of two logins of one subject. -/
theorem admissions_grounded_alice : Grounded plainDigestHost productionSettings aliceTokens
    aliceAfter.store (aliceUser "Alice") (.identity (aliceIdentity "Alice")) :=
  (admissions_grounded reachable_aliceAfter aliceAfter_first).2

/-- Who has a row has one user only, and no two users have one subject. -/
theorem Known.id_iff {u v : User} (hu : Known a u) (hv : Known a v) :
    u.providerSubject = v.providerSubject ↔ u.id = v.id := by
  obtain ⟨row, hrow, hsubject⟩ := hu
  obtain ⟨row', hrow', hsubject'⟩ := hv
  constructor
  · intro h
    have hsame : row = row' := a.subjects.eq (Table.mem_of_get? hrow) (Table.mem_of_get? hrow')
      (hsubject.trans (h.trans hsubject'.symm))
    rw [← Table.key_of_get? hrow, ← Table.key_of_get? hrow', hsame]
  · intro h
    rw [h, hrow'] at hrow
    rw [← hsubject, ← hsubject', Option.some.inj hrow]

/-- **Identities.** Two requests with access tokens of the identity provider are let in as one
user if and only if their subject is one, however their statements fall, whatever becomes of
their emails and names. -/
theorem identities_bound {u v : User} {identity identity' : OIDCIdentity}
    (h : Reachable (loginSystem host settings decode) r)
    (hi : r.stage i = .admitted u (.identity identity))
    (hj : r.stage j = .admitted v (.identity identity')) :
    oidcSubject host identity = oidcSubject host identity' ↔ u.id = v.id := by
  obtain ⟨hu, -, -, hsubject, -⟩ := admissions_grounded h hi
  obtain ⟨hv, -, -, hsubject', -⟩ := admissions_grounded h hj
  rw [← hsubject, ← hsubject']
  exact hu.id_iff hv

/-- Two logins of one subject are of one user. -/
theorem identities_bound_alice : (aliceUser "Alice").id = (aliceUser "Alice Smith").id :=
  (identities_bound reachable_aliceAfter aliceAfter_first aliceAfter_second).mp rfl

/-- Tokens with one digest are one row. -/
theorem KnownToken.same {row row' : AccessToken} (h : KnownToken a row) (h' : KnownToken a row')
    (hdigest : row.tokenHash = row'.tokenHash) :
    row.userId = row'.userId ∧ row.expiresAt = row'.expiresAt := by
  obtain ⟨stored, hstored, hsame⟩ := h
  obtain ⟨stored', hstored', hsame'⟩ := h'
  have heq : stored = stored' := a.hashes.eq (Table.mem_of_get? hstored) (Table.mem_of_get? hstored')
    (by rw [hsame.2.2.1, hsame'.2.2.1, hdigest])
  subst heq
  exact ⟨hsame.2.1.symm.trans hsame'.2.1, hsame.2.2.2.symm.trans hsame'.2.2.2⟩

/-- **Tokens.** A development token lets in the user whose session it was issued to, and nobody
once it has expired. -/
theorem tokens_bound {u v : User} {row row' : AccessToken} {text text' : String} {now : Time}
    (h : Reachable (loginSystem host settings decode) r)
    (hi : r.stage i = .issued u row text) (hj : r.stage j = .admitted v (.token text' row' now))
    (hsame : tokenDigest host text = tokenDigest host text') :
    v.id = u.id ∧ now < row.expiresAt := by
  have hissued := (login_invariant host settings decode _).reachable h i
  rw [hi] at hissued
  obtain ⟨-, -, hknown, howner, hdigest⟩ := hissued
  obtain ⟨-, hgood, -, howner'⟩ := admissions_grounded h hj
  obtain ⟨huser, hexpires⟩ := hknown.same hgood.known
    (hdigest.trans (hsame.trans hgood.digest.symm))
  refine ⟨?_, ?_⟩
  · rw [← howner', ← huser, howner]
  · rw [hexpires]
    exact hgood.unexpired

/-- A session of the local user, and a request with its token. -/
def sessionRun : List (LoginAction Bool) :=
  [.begin true (.development none none), .statement true (drawnAt 0), .statement true (drawnAt 0),
    .begin false (.current (some ⟨"Bearer", "secret"⟩)), .statement false (drawnAt 5),
    .statement false (drawnAt 6)]

def developmentSettings : Settings :=
  { productionSettings with environment := "development", authProvider := .development }

def localUser : User where
  id := "u-1"
  email := "owner@deployguard.local"
  displayName := "Local workspace owner"
  authProvider := "development"
  providerSubject := "development:owner@deployguard.local"
  isActive := true
  createdAt := 0

def sessionToken : AccessToken :=
  ⟨"t-1", "u-1", "secret", "development", 0, seconds 43200, none⟩

def sessionEnd : Logins Bool :=
  ((loginSystem plainDigestHost developmentSettings aliceTokens).run noLogins sessionRun).get
    (by decide +kernel)

/-- A session of the local user that has not expired. -/
theorem tokens_bound_session : localUser.id = localUser.id ∧ (5 : Time) < sessionToken.expiresAt := by
  have hreach : Reachable (loginSystem plainDigestHost developmentSettings aliceTokens) sessionEnd :=
    .of_run (.init noLogins_start) (Option.some_get _).symm
  have hissued : sessionEnd.stage true = .issued localUser sessionToken "secret" := by
    decide +kernel
  have hadmitted : sessionEnd.stage false =
      .admitted localUser (.token "secret" sessionToken 5) := by decide +kernel
  exact tokens_bound hreach hissued hadmitted rfl

/-- What the claims of an accepted token say. -/
theorem verify_ok {text : String} {identity : OIDCIdentity}
    (h : verify host decode text = .ok identity) :
    ∃ claims, decode text = some claims ∧ getItem claims "email_verified" = .bool true ∧
      identity.email = normalizeEmail host (host.str (getItemD claims "email" (.str ""))) ∧
      '@' ∈ identity.email.toList := by
  unfold verify at h
  split at h
  · cases h
  · next claims hdecode =>
    simp only [bind_eq_ok, raiseIf_eq_ok, pure_eq_ok] at h
    obtain ⟨_, hemail, _, hverified, issuer, -, subject, -, rfl⟩ := h
    exact ⟨claims, hdecode, not_not.mp hverified, rfl, not_not.mp (not_or.mp hemail).2⟩

/-- **Production.** Whatever its other settings are, a production process issues no token, and
lets in nobody but active users under the verified address of an access token its identity
provider vouches for. -/
theorem production_verified (hproduction : settings.production host = true)
    (h : Reachable (loginSystem host settings decode) r) (i : ι) :
    (∀ user row text, r.stage i ≠ .issued user row text) ∧
      ∀ user grounds, r.stage i = .admitted user grounds → user.isActive = true ∧
        ∃ text claims, decode text = some claims ∧ getItem claims "email_verified" = .bool true ∧
          user.email = normalizeEmail host (host.str (getItemD claims "email" (.str ""))) ∧
          '@' ∈ user.email.toList := by
  have hno : settings.developmentAuthAvailable host = false := by
    unfold Settings.developmentAuthAvailable
    rw [hproduction, Bool.not_true, Bool.and_false]
  refine ⟨fun user row text hi => ?_, fun user grounds hi => ?_⟩
  · have hissued := (login_invariant host settings decode _).reachable h i
    rw [hi] at hissued
    have havailable : settings.developmentAuthAvailable host = true := hissued.1
    rw [hno] at havailable
    cases havailable
  · obtain ⟨-, hgrounds⟩ := admissions_grounded h hi
    cases grounds with
    | identity identity =>
      obtain ⟨⟨-, text, hverify⟩, hactive, -, hemail, -⟩ := hgrounds
      obtain ⟨claims, hdecode, hverified, haddress, hat⟩ := verify_ok hverify
      rw [hemail]
      exact ⟨hactive, text, claims, hdecode, hverified, haddress, hat⟩
    | token text row now =>
      have havailable := hgrounds.1.available
      rw [hno] at havailable
      cases havailable
    | anonymous =>
      have havailable := hgrounds.1
      rw [hno] at havailable
      cases havailable

/-- In production the login was verified. -/
theorem production_verified_alice : ∃ text claims, aliceTokens text = some claims ∧
    getItem claims "email_verified" = .bool true := by
  have hsafe := (production_verified (by decide +kernel) reachable_aliceAfter true).2 _ _ aliceAfter_first
  obtain ⟨-, text, claims, hdecode, hverified, -⟩ := hsafe
  exact ⟨text, claims, hdecode, hverified⟩

/-! ## What a request writes -/

/-- What a statement can write. -/
inductive Written (a : Accounts) : Stage → Accounts → Prop
  | nothing (stage : Stage) : Written a stage a
  | user (stage : Stage) (user : User) (a' : Accounts) : a.insertUser user = .ok a' →
      Written a stage a'
  | rename (identity : OIDCIdentity) (user : User) (a' : Accounts) :
      a.updateUser user.id (changed user.email identity.email)
        (changed user.displayName identity.displayName) = .ok a' →
      Written a (.rename identity user) a'
  | token (stage : Stage) (flushed : Accounts) (row : AccessToken) (a' : Accounts) :
      (flushed = a ∨ ∃ user, a.insertUser user = .ok flushed) → flushed.insertToken row = .ok a' →
      Written a stage a'

/-- What a statement writes is known from the stage it ran in. -/
theorem Written.of_statement {drawn : Drawn} {stage stage' : Stage}
    (h : statement host settings a drawn stage = some (a', stage')) : Written a stage a' := by
  cases stage with
  | create identity =>
    rcases written_cases (Option.some.inj h) with ⟨hinsert, -⟩ | ⟨rfl, -⟩
    · exact .user _ _ _ hinsert
    · exact .nothing _
  | rename identity user =>
    rcases written_cases (Option.some.inj h) with ⟨hupdate, -⟩ | ⟨rfl, -⟩
    · exact .rename identity user _ hupdate
    · exact .nothing _
  | anonymousCreate =>
    rcases written_cases (Option.some.inj h) with ⟨hinsert, -⟩ | ⟨rfl, -⟩
    · exact .user _ _ _ hinsert
    · exact .nothing _
  | issue user isNew =>
    rcases written_cases (Option.some.inj h) with ⟨hwrite, -⟩ | ⟨rfl, -⟩
    · obtain ⟨flushed, hflushed, htoken⟩ := bind_eq_ok.mp hwrite
      refine .token _ flushed _ _ ?_ htoken
      cases isNew with
      | true => exact Or.inr ⟨user, hflushed⟩
      | false => exact Or.inl (Except.ok.inj hflushed).symm
    · exact .nothing _
  | _ =>
    -- the other statements read
    dsimp only [statement] at h
    repeat' split at h
    all_goals cases h <;> exact .nothing _

/-- What an own access token may make of a user: its email and its name. -/
def Renamed (identity : OIDCIdentity) (row row' : User) : Prop :=
  ∃ email ∈ [row.email, identity.email], ∃ displayName ∈ [row.displayName, identity.displayName],
    row' = { row with email, displayName }

/-- A rename writes what differs from the identity. -/
theorem renamed_changed (identity : OIDCIdentity) (user row : User) :
    Renamed identity row (Accounts.renamed (changed user.email identity.email)
      (changed user.displayName identity.displayName) row) := by
  have hmem : ∀ old new value : String, (changed old new).getD value ∈ [value, new] := by
    intro old new value
    unfold changed
    split
    · exact List.mem_cons_of_mem _ List.mem_cons_self
    · exact List.mem_cons_self
  exact ⟨_, hmem .., _, hmem .., rfl⟩

/-- A statement keeps every user's row, but for the one it renames. -/
theorem Written.user_row {stage : Stage} {id : String} {row : User} (h : Written a stage a')
    (hrow : a.users.get? id = some row) : ∃ row', a'.users.get? id = some row' ∧
      (row' = row ∨ ∃ identity user, stage = .rename identity user ∧ user.id = id ∧
        Renamed identity row row') := by
  cases h with
  | nothing => exact ⟨row, hrow, Or.inl rfl⟩
  | user stage user _ hinsert =>
    exact ⟨row, Table.get?_of_insert (insertUser_ok hinsert).1 hrow, Or.inl rfl⟩
  | rename identity user _ hupdate =>
    obtain ⟨-, hget⟩ := updateUser_ok hupdate
    refine ⟨_, by rw [hget, hrow]; rfl, ?_⟩
    split
    · next hid => exact Or.inr ⟨identity, user, rfl, hid.symm, renamed_changed identity user row⟩
    · exact Or.inl rfl
  | token stage flushed token _ hflushed htoken =>
    rw [(insertToken_ok htoken).2]
    rcases hflushed with rfl | ⟨user, huser⟩
    · exact ⟨row, hrow, Or.inl rfl⟩
    · exact ⟨row, Table.get?_of_insert (insertUser_ok huser).1 hrow, Or.inl rfl⟩

/-- A statement keeps every token. -/
theorem Written.token_row {stage : Stage} {id : String} {row : AccessToken} (h : Written a stage a')
    (hrow : a.tokens.get? id = some row) : a'.tokens.get? id = some row := by
  cases h with
  | nothing => exact hrow
  | user stage user _ hinsert =>
    rw [(insertUser_ok hinsert).2]
    exact hrow
  | rename identity user _ hupdate =>
    rw [(updateUser_ok hupdate).1]
    exact hrow
  | token stage flushed token _ hflushed htoken =>
    refine Table.get?_of_insert (insertToken_ok htoken).1 ?_
    rcases hflushed with rfl | ⟨user, huser⟩
    · exact hrow
    · rw [(insertUser_ok huser).2]
      exact hrow

/-! ### What a request presented -/

/-- The credentials a request carries. -/
def Request.credentials : Request → Option Credentials
  | .development _ _ => none
  | .current credentials | .legacy credentials => credentials

/-- The identity a request is about to let in, or has let in. -/
def Stage.identity : Stage → Option OIDCIdentity
  | .bySubject identity | .byEmail identity | .create identity | .conflicting identity _
  | .rename identity _ | .admitted _ (.identity identity) => some identity
  | _ => none

/-- One of the requests begun at `i` carried a bearer token that verifies as this identity. A
request begins once, so it is the one that is under way there. -/
def Presented (host : Host) (decode : TokenDecoder) (actions : List (LoginAction ι)) (i : ι)
    (identity : OIDCIdentity) : Prop :=
  ∃ request credentials, .begin i request ∈ actions ∧ request.credentials = some credentials ∧
    host.lower credentials.scheme = "bearer" ∧
    verify host decode credentials.credentials = .ok identity

/-- An admission on an identity is an admission on that identity. -/
theorem identity_admitTo {grounds : Grounds} {identity : OIDCIdentity}
    (h : (admitTo user grounds).identity = some identity) : grounds = .identity identity := by
  unfold admitTo at h
  split at h
  · cases grounds <;> cases h
    rfl
  · cases h

/-- A request takes its identity from its own credentials. -/
theorem identity_begin {request : Request} {identity : OIDCIdentity}
    (h : (begin host settings decode request).identity = some identity) :
    ∃ credentials, request.credentials = some credentials ∧
      host.lower credentials.scheme = "bearer" ∧
      verify host decode credentials.credentials = .ok identity := by
  have hresolve : ∀ credentials : Option Credentials,
      (resolve host settings decode credentials).identity = some identity →
      ∃ given, credentials = some given ∧ host.lower given.scheme = "bearer" ∧
        verify host decode given.credentials = .ok identity := by
    intro credentials hstage
    unfold resolve at hstage
    split at hstage
    · cases hstage
    · next given =>
      split at hstage
      · cases hstage
      · next hscheme =>
        split at hstage
        · split at hstage <;> cases hstage
        · split at hstage
          · next found hverify =>
            cases hstage
            exact ⟨given, rfl, not_not.mp hscheme, hverify⟩
          · cases hstage
        · cases hstage
  cases request with
  | development email displayName =>
    unfold begin openSession at h
    dsimp only at h
    split at h <;> cases h
  | current credentials => exact hresolve credentials h
  | legacy credentials =>
    cases credentials with
    | some given => exact hresolve (some given) h
    | none =>
      unfold begin at h
      dsimp only at h
      split at h <;> cases h

/-- A statement goes on with the identity the request has. -/
theorem identity_statement {drawn : Drawn} {stage stage' : Stage} {identity : OIDCIdentity}
    (hnext : statement host settings a drawn stage = some (a', stage'))
    (h : stage'.identity = some identity) : stage.identity = some identity := by
  have hadmit : ∀ {user : User} {grounds : Grounds}, stage' = admitTo user grounds →
      grounds = .identity identity := by
    rintro user grounds rfl
    exact identity_admitTo h
  cases stage with
  | create given =>
    rcases written_cases (Option.some.inj hnext) with ⟨-, hstage⟩ | ⟨-, e, rfl⟩
    · cases hadmit hstage
      rfl
    · cases h
  | rename given found =>
    rcases written_cases (Option.some.inj hnext) with ⟨-, hstage⟩ | ⟨-, e, rfl⟩
    · cases hadmit hstage
      rfl
    · cases h
  | anonymousCreate =>
    rcases written_cases (Option.some.inj hnext) with ⟨-, hstage⟩ | ⟨-, e, rfl⟩
    · cases hadmit hstage
    · cases h
  | issue found isNew =>
    rcases written_cases (Option.some.inj hnext) with ⟨-, rfl⟩ | ⟨-, e, rfl⟩ <;> cases h
  | bySubject given =>
    dsimp only [statement] at hnext
    repeat' split at hnext
    · obtain ⟨-, rfl⟩ := Prod.mk.inj (Option.some.inj hnext)
      exact h
    · obtain ⟨-, rfl⟩ := Prod.mk.inj (Option.some.inj hnext)
      exact h
    · obtain ⟨-, hstage⟩ := Prod.mk.inj (Option.some.inj hnext)
      cases hadmit hstage.symm
      rfl
  | anonymousBySubject =>
    dsimp only [statement] at hnext
    split at hnext
    · obtain ⟨-, rfl⟩ := Prod.mk.inj (Option.some.inj hnext)
      cases h
    · obtain ⟨-, hstage⟩ := Prod.mk.inj (Option.some.inj hnext)
      cases hadmit hstage.symm
  | _ =>
    -- the other statements refuse, or hand the identity on
    dsimp only [statement] at hnext
    repeat' split at hnext
    all_goals cases hnext <;> first | exact h | cases h

/-- What the run so far has begun speaks for every identity of its requests, and goes on to. -/
theorem presented_run (begun : List (LoginAction ι)) {actions : List (LoginAction ι)}
    {r r' : Logins ι}
    (hrun : (loginSystem host settings decode).run r actions = some r')
    (h : ∀ i identity, (r.stage i).identity = some identity →
      Presented host decode begun i identity) :
    ∀ i identity, (r'.stage i).identity = some identity →
      Presented host decode (begun ++ actions) i identity := by
  induction actions generalizing r begun with
  | nil =>
    obtain rfl := Option.some.inj hrun
    rwa [List.append_nil]
  | cons action actions ih =>
    obtain ⟨r₁, hnext, hrest⟩ := System.run_cons_eq_some.mp hrun
    rw [← List.singleton_append, ← List.append_assoc]
    refine ih _ hrest fun i identity hidentity => ?_
    have hearlier : (r.stage i).identity = some identity →
        Presented host decode (begun ++ [action]) i identity := by
      intro hi
      obtain ⟨request, credentials, hbegun, hrequest⟩ := h i identity hi
      exact ⟨request, credentials, List.mem_append_left _ hbegun, hrequest⟩
    cases action with
    | begin j request =>
      simp only [loginSystem] at hnext
      split at hnext
      · obtain rfl := Option.some.inj hnext
        by_cases hj : i = j
        · subst hj
          rw [Parties.goTo_self] at hidentity
          obtain ⟨credentials, hrequest⟩ := identity_begin hidentity
          exact ⟨request, credentials, List.mem_append_right _ (List.mem_singleton.mpr rfl), hrequest⟩
        · rw [Parties.goTo_ne _ _ hj] at hidentity
          exact hearlier hidentity
      · cases hnext
    | statement j drawn =>
      simp only [loginSystem] at hnext
      split at hnext
      · next store stage hstatement =>
        obtain rfl := Option.some.inj hnext
        by_cases hj : i = j
        · subst hj
          rw [Parties.write_self] at hidentity
          exact hearlier (identity_statement hstatement hidentity)
        · rw [Parties.write_ne _ _ _ hj] at hidentity
          exact hearlier hidentity
      · cases hnext
    | setActive userId active =>
      obtain rfl := Option.some.inj hnext
      exact hearlier hidentity
    | revoke tokenId now =>
      obtain rfl := Option.some.inj hnext
      exact hearlier hidentity

/-- From empty requests on, every identity of a request was presented. -/
theorem presented_of_run {r₀ : Logins ι} {actions : List (LoginAction ι)} {i : ι}
    {identity : OIDCIdentity} (hstart : (loginSystem host settings decode).init r₀)
    (hrun : (loginSystem host settings decode).run r₀ actions = some r)
    (h : (r.stage i).identity = some identity) : Presented host decode actions i identity := by
  refine presented_run [] hrun (fun j identity' hj => ?_) i identity h
  rw [congrFun hstart j] at hj
  cases hj

/-- **Whose account.** A user's row stays, and changes only by an operator who sets whether it is
active, or by a request that is at its `UPDATE` of this user and has presented an access token of
the user's own subject, whose email and name it may write. A token stays, and changes only by an
operator who revokes it. -/
theorem accounts_kept {r₀ r' : Logins ι} {actions : List (LoginAction ι)} {action : LoginAction ι}
    (hstart : (loginSystem host settings decode).init r₀)
    (hrun : (loginSystem host settings decode).run r₀ actions = some r)
    (hnext : (loginSystem host settings decode).next r action = some r') :
    (∀ id row, r.store.users.get? id = some row → ∃ row', r'.store.users.get? id = some row' ∧
      (row' = row ∨ (∃ active, action = .setActive id active ∧ row' = { row with isActive := active }) ∨
        ∃ i drawn identity user, action = .statement i drawn ∧
          r.stage i = .rename identity user ∧ user.id = id ∧ settings.authProvider = .oidc ∧
          Presented host decode actions i identity ∧
          row.providerSubject = oidcSubject host identity ∧ Renamed identity row row')) ∧
    ∀ id row, r.store.tokens.get? id = some row → ∃ row', r'.store.tokens.get? id = some row' ∧
      (row' = row ∨ ∃ now, action = .revoke id now ∧ row' = { row with revokedAt := some now }) := by
  cases action with
  | begin i request =>
    simp only [loginSystem] at hnext
    split at hnext
    · obtain rfl := Option.some.inj hnext
      exact ⟨fun id row hrow => ⟨row, hrow, Or.inl rfl⟩, fun id row hrow => ⟨row, hrow, Or.inl rfl⟩⟩
    · cases hnext
  | setActive userId active =>
    obtain rfl := Option.some.inj hnext
    refine ⟨fun id row hrow => ?_, fun id row hrow => ⟨row, hrow, Or.inl rfl⟩⟩
    have hget : (r.store.setActive userId active).users.get? id =
        some (if id = userId then { row with isActive := active } else row) := by
      rw [Accounts.setActive, Table.get?_updateKey, hrow]
      rfl
    refine ⟨_, hget, ?_⟩
    split
    · next hid => exact Or.inr (Or.inl ⟨active, by rw [hid], rfl⟩)
    · exact Or.inl rfl
  | revoke tokenId now =>
    obtain rfl := Option.some.inj hnext
    refine ⟨fun id row hrow => ⟨row, hrow, Or.inl rfl⟩, fun id row hrow => ?_⟩
    have hget : (r.store.revoke tokenId now).tokens.get? id =
        some (if id = tokenId then { row with revokedAt := some now } else row) := by
      rw [Accounts.revoke, Table.get?_updateKey, hrow]
      rfl
    refine ⟨_, hget, ?_⟩
    split
    · next hid => exact Or.inr ⟨now, by rw [hid], rfl⟩
    · exact Or.inl rfl
  | statement i drawn =>
    simp only [loginSystem] at hnext
    split at hnext
    · next store stage hstatement =>
      obtain rfl := Option.some.inj hnext
      have hwritten := Written.of_statement hstatement
      rw [Parties.write_store]
      refine ⟨fun id row hrow => ?_, fun id row hrow => ⟨row, hwritten.token_row hrow, Or.inl rfl⟩⟩
      obtain ⟨row', hrow', hsame | ⟨identity, user, hstage, hid, hrenamed⟩⟩ := hwritten.user_row hrow
      · exact ⟨row', hrow', Or.inl hsame⟩
      · have hok := (login_invariant host settings decode _).reachable
          (Reachable.of_run (.init hstart) hrun) i
        rw [hstage] at hok
        obtain ⟨hverified, ⟨stored, hstored, hsubject⟩, hfound⟩ := hok
        -- the row is the one whose subject the request found
        rw [hid, hrow, Option.some.injEq] at hstored
        refine ⟨row', hrow', Or.inr (Or.inr ⟨i, drawn, identity, user, rfl, hstage, hid, hverified.1,
          ?_, hstored ▸ hsubject.trans hfound, hrenamed⟩)⟩
        exact presented_of_run hstart hrun (by rw [hstage]; rfl)
    · cases hnext

/-- The second request writes the longer name. -/
theorem accounts_kept_alice : ∃ row, aliceAfter.store.users.get? "u-1" = some row := by
  have hrow : aliceBefore.store.users.get? "u-1" = some (aliceUser "Alice") := by decide +kernel
  obtain ⟨row, hget, -⟩ :=
    (accounts_kept noLogins_start (Option.some_get _).symm (Option.some_get _).symm).1 "u-1" (aliceUser "Alice") hrow
  exact ⟨row, hget⟩

end DeployGuard.Identity
