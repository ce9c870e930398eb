import DeployGuard.Service.Contracts
import DeployGuard.Service.Invitations

/-!
# The settings of the API

The settings that decide who is let in and how invitations are sent, and the validators they
pass when the process starts. `load` is the settings class on what the environment holds.

> `settings_accepted`: settings that were accepted are accepted again as they are, and in
production have everything a production process relies on.
-/

namespace DeployGuard.Identity

open DeployGuard.Service Raise

inductive AuthProvider where
  | development
  | oidc
  | disabled
  deriving DecidableEq, Repr

structure Settings where
  environment : String
  databaseUrl : String
  runMigrationsOnStartup : Bool
  seedSyntheticData : Bool
  githubWebhookSecret : String
  telemetryIngestToken : String
  authProvider : AuthProvider
  developmentUserEmail : String
  developmentUserName : String
  accessTokenTtlHours : Int
  oidcIssuer : String
  oidcAudience : String
  oidcClientId : String
  oidcJwksUrl : String
  oidcAlgorithms : List String
  frontendPublicUrl : String
  githubAppId : String
  githubAppSlug : String
  githubAppPrivateKey : String
  githubChecksEnabled : Bool
  smtpHost : String
  smtpFromEmail : String
  smtpUseTls : Bool
  invitationTokenSecret : String
  corsOrigins : List String
  deriving DecidableEq

namespace Settings

/-- `environment.strip().lower() == "production"`. -/
def production (host : Host) (s : Settings) : Bool :=
  host.lower (Text.strip s.environment) = "production"

/-- `development_auth_available`. -/
def developmentAuthAvailable (host : Host) (s : Settings) : Bool :=
  s.authProvider = .development && !s.production host

/-- `github_app_available`. -/
def githubAppAvailable (s : Settings) : Bool :=
  [s.githubAppId, s.githubAppSlug, s.githubAppPrivateKey].all fun value => Text.strip value ≠ ""

/-- What the delivery of an email reads. -/
def mail (s : Settings) : MailSettings where
  environment := s.environment
  frontendPublicUrl := s.frontendPublicUrl
  smtpHost := s.smtpHost
  smtpFromEmail := s.smtpFromEmail
  invitationTokenSecret := s.invitationTokenSecret

end Settings

/-! ## Validators -/

/-- `normalize_database_url`. -/
def normalizeDatabaseUrl (value : String) : String :=
  if Text.startswith value "postgres://" then
    "postgresql+psycopg://" ++ String.ofList (value.toList.drop "postgres://".length)
  else if Text.startswith value "postgresql://" then
    "postgresql+psycopg://" ++ String.ofList (value.toList.drop "postgresql://".length)
  else value

/-- A list in the environment, or in the program. -/
inductive ListSetting where
  | text (s : String)
  | items (xs : List String)

/-- `[item.strip() for item in value.split(",") if item.strip()]`. -/
def commaSeparated (s : String) : List String :=
  ((Text.split ',' s).map Text.strip).filter (· ≠ "")

/-- `parse_oidc_algorithms`. -/
def parseOidcAlgorithms : ListSetting → List String
  | .text s => commaSeparated s
  | .items xs => xs

/-- `parse_cors_origins`. -/
def parseCorsOrigins : ListSetting → List String
  | .text s => commaSeparated s
  | .items xs => xs

/-- A text that begins a JSON array is left as it is, and the schema takes no text. -/
def corsErrors : ListSetting → Schema.Errors
  | .text s => Schema.field "cors_origins"
    [(!Text.startswith (String.ofList (s.toList.dropWhile Text.isspace)) "[",
      "Input should be a valid list")]
  | .items _ => []

/-- The settings of the identity provider that are missing. -/
def missingOidc (s : Settings) : List String :=
  ([("OIDC_ISSUER", s.oidcIssuer), ("OIDC_AUDIENCE", s.oidcAudience),
    ("OIDC_JWKS_URL", s.oidcJwksUrl)].filter fun pair => Text.strip pair.2 = "").map Prod.fst

/-- Some of the values are set, and not all of them. -/
def partlySet (values : List String) : Prop :=
  (∃ value ∈ values, Text.strip value ≠ "") ∧ ¬∀ value ∈ values, Text.strip value ≠ ""

instance (values : List String) : Decidable (partlySet values) := by
  unfold partlySet
  infer_instance

/-- The part of `validate_auth_configuration` on production. -/
def validateProduction (host : Host) (s : Settings) : Except String Unit := do
  let production := s.production host
  raiseIf (production ∧ s.authProvider ≠ .oidc) "Production requires AUTH_PROVIDER=oidc"
  raiseIf (production ∧ s.seedSyntheticData) "Production cannot enable SEED_SYNTHETIC_DATA"
  raiseIf (production ∧ ¬Text.startswith s.databaseUrl "postgresql+psycopg://")
    "Production requires PostgreSQL through psycopg"
  raiseIf (production ∧ s.runMigrationsOnStartup)
    ("Production requires RUN_MIGRATIONS_ON_STARTUP=false; " ++
      "use the isolated migration release job")
  raiseIf (production ∧ ¬Text.startswith s.frontendPublicUrl "https://")
    "Production FRONTEND_PUBLIC_URL must use HTTPS"
  raiseIf (production ∧ ∃ origin ∈ s.corsOrigins,
      ¬Text.startswith origin "https://" ∨ '*' ∈ origin.toList)
    "Production CORS_ORIGINS must be explicit HTTPS origins"
  raiseIf (production ∧ s.telemetryIngestToken ≠ "" ∧ s.telemetryIngestToken.length < 32)
    ("Production TELEMETRY_INGEST_TOKEN must be at least " ++
      "32 characters because it is the collector credential root")

/-- `oidc_client_id`, which is the audience unless it is set. -/
def withClientId (s : Settings) : Settings :=
  if Text.strip s.oidcClientId = "" then { s with oidcClientId := s.oidcAudience } else s

/-- The part of `validate_auth_configuration` on the identity provider. -/
def validateOidc (host : Host) (s : Settings) : Except String Settings :=
  if s.authProvider = .oidc then do
    let s := withClientId s
    raiseIf (missingOidc s ≠ [])
      ("OIDC configuration is incomplete: " ++ ", ".intercalate (missingOidc s))
    raiseIf (s.oidcAlgorithms = []) "OIDC_ALGORITHMS cannot be empty"
    raiseIf (s.production host ∧ (¬Text.startswith s.oidcIssuer "https://" ∨
        ¬Text.startswith s.oidcJwksUrl "https://"))
      "Production OIDC issuer and JWKS URL must use HTTPS"
    pure s
  else pure s

/-- The part of `validate_auth_configuration` on GitHub and email. -/
def validateProviders (host : Host) (s : Settings) : Except String Unit := do
  raiseIf (partlySet [s.githubAppId, s.githubAppSlug, s.githubAppPrivateKey])
    "GitHub App configuration is incomplete"
  raiseIf (s.githubChecksEnabled ∧ ¬s.githubAppAvailable)
    "GITHUB_CHECKS_ENABLED requires complete GitHub App configuration"
  raiseIf (s.production host ∧ s.githubWebhookSecret ≠ "" ∧ s.githubWebhookSecret.length < 32)
    "Production GITHUB_WEBHOOK_SECRET must be at least 32 characters"
  raiseIf (partlySet [s.smtpHost, s.smtpFromEmail]) "SMTP configuration is incomplete"
  raiseIf (s.production host ∧ Text.strip s.smtpHost ≠ "" ∧ ¬s.smtpUseTls)
    "Production SMTP requires SMTP_USE_TLS=true"
  raiseIf (Text.strip s.smtpHost ≠ "" ∧ s.invitationTokenSecret.length < 32)
    "SMTP delivery requires an INVITATION_TOKEN_SECRET of at least 32 characters"

/-- `validate_auth_configuration`. -/
def validateAuthConfiguration (host : Host) (s : Settings) : Except String Settings := do
  validateProduction host s
  let s ← validateOidc host s
  validateProviders host s
  pure s

def fieldErrors (raw : Settings) (corsOrigins : ListSetting) : Schema.Errors :=
  Schema.field "access_token_ttl_hours"
    [Schema.ge 1 raw.accessTokenTtlHours, Schema.le 168 raw.accessTokenTtlHours] ++
  corsErrors corsOrigins

/-- The fields as the model reads them. -/
def parsed (raw : Settings) (corsOrigins oidcAlgorithms : ListSetting) : Settings :=
  { raw with
    databaseUrl := normalizeDatabaseUrl raw.databaseUrl
    corsOrigins := parseCorsOrigins corsOrigins
    oidcAlgorithms := parseOidcAlgorithms oidcAlgorithms }

/-- `Settings(…)`: the fields, then the model. -/
def load (host : Host) (raw : Settings) (corsOrigins oidcAlgorithms : ListSetting) :
    Except Schema.Errors Settings := do
  raiseIf (fieldErrors raw corsOrigins ≠ []) (fieldErrors raw corsOrigins)
  (validateAuthConfiguration host (parsed raw corsOrigins oidcAlgorithms)).mapError fun message =>
    [("", "Value error, " ++ message)]

/-! ## What was accepted -/

variable {host : Host} {s t : Settings} {corsOrigins oidcAlgorithms : ListSetting}

/-- A URL of the driver stays as it is. -/
theorem normalizeDatabaseUrl_driver (rest : String) :
    normalizeDatabaseUrl ("postgresql+psycopg://" ++ rest) = "postgresql+psycopg://" ++ rest := by
  have hpostgres : Text.startswith ("postgresql+psycopg://" ++ rest) "postgres://" = false := by
    rw [Text.startswith, String.toList_append]
    rfl
  have hpostgresql : Text.startswith ("postgresql+psycopg://" ++ rest) "postgresql://" = false := by
    rw [Text.startswith, String.toList_append]
    rfl
  rw [normalizeDatabaseUrl, hpostgres, hpostgresql]
  rfl

theorem normalizeDatabaseUrl_idem (value : String) :
    normalizeDatabaseUrl (normalizeDatabaseUrl value) = normalizeDatabaseUrl value := by
  have hcases : (∃ rest, normalizeDatabaseUrl value = "postgresql+psycopg://" ++ rest) ∨
      normalizeDatabaseUrl value = value := by
    unfold normalizeDatabaseUrl
    split
    · exact Or.inl ⟨_, rfl⟩
    · split
      · exact Or.inl ⟨_, rfl⟩
      · exact Or.inr rfl
  rcases hcases with ⟨rest, hrest⟩ | hsame
  · rw [hrest, normalizeDatabaseUrl_driver]
  · rw [hsame, hsame]

theorem withClientId_idem (s : Settings) (h : Text.strip s.oidcAudience ≠ "") :
    withClientId (withClientId s) = withClientId s := by
  unfold withClientId
  by_cases hclient : Text.strip s.oidcClientId = ""
  · rw [if_pos hclient]
    exact if_neg h
  · rw [if_neg hclient, if_neg hclient]

/-- Where the audience is set, the settings of the identity provider are all set. -/
theorem missingOidc_eq_nil : missingOidc s = [] ↔ Text.strip s.oidcIssuer ≠ "" ∧
    Text.strip s.oidcAudience ≠ "" ∧ Text.strip s.oidcJwksUrl ≠ "" := by
  unfold missingOidc
  rw [List.map_eq_nil_iff, List.filter_eq_nil_iff]
  simp

/-- The identity provider changes no setting but the client's identifier. -/
theorem validateOidc_ok (h : validateOidc host s = .ok t) :
    validateOidc host t = .ok t ∧ (t = s ∨ t = { s with oidcClientId := s.oidcAudience }) := by
  unfold validateOidc at h
  split at h
  · next hprovider =>
    simp only [bind_eq_ok, raiseIf_eq_ok, pure_eq_ok] at h
    obtain ⟨_, hmissing, _, halgorithms, _, hhttps, rfl⟩ := h
    have haudience : Text.strip (withClientId s).oidcAudience ≠ "" :=
      (missingOidc_eq_nil.mp (not_not.mp hmissing)).2.1
    have hsame : (withClientId s).oidcAudience = s.oidcAudience ∧
        (withClientId s).authProvider = s.authProvider ∧
        (withClientId s = s ∨ withClientId s = { s with oidcClientId := s.oidcAudience }) := by
      unfold withClientId
      split
      · exact ⟨rfl, rfl, Or.inr rfl⟩
      · exact ⟨rfl, rfl, Or.inl rfl⟩
    refine ⟨?_, hsame.2.2⟩
    unfold validateOidc
    rw [if_pos (hsame.2.1.trans hprovider), withClientId_idem s (hsame.1 ▸ haudience)]
    simp only [bind_eq_ok, raiseIf_eq_ok, pure_eq_ok]
    exact ⟨(), hmissing, (), halgorithms, (), hhttps, trivial⟩
  · next hprovider =>
    obtain rfl := pure_eq_ok.mp h
    exact ⟨if_neg hprovider, Or.inl rfl⟩

theorem validateAuthConfiguration_ok (h : validateAuthConfiguration host s = .ok t) :
    validateProduction host t = .ok () ∧ validateOidc host t = .ok t ∧
      validateProviders host t = .ok () ∧
      (t = s ∨ t = { s with oidcClientId := s.oidcAudience }) := by
  simp only [validateAuthConfiguration, bind_eq_ok, pure_eq_ok] at h
  obtain ⟨⟨⟩, hproduction, t', hoidc, ⟨⟩, hproviders, rfl⟩ := h
  obtain ⟨hagain, hsame⟩ := validateOidc_ok hoidc
  refine ⟨?_, hagain, hproviders, hsame⟩
  -- the client's identifier is not among what the other parts look at
  rcases hsame with rfl | rfl
  · exact hproduction
  · exact hproduction

theorem load_ok (h : load host s corsOrigins oidcAlgorithms = .ok t) :
    fieldErrors s corsOrigins = [] ∧
      validateAuthConfiguration host (parsed s corsOrigins oidcAlgorithms) = .ok t := by
  simp only [load, bind_eq_ok, raiseIf_eq_ok] at h
  obtain ⟨_, hfields, h⟩ := h
  refine ⟨not_not.mp hfields, ?_⟩
  cases hmodel : validateAuthConfiguration host (parsed s corsOrigins oidcAlgorithms) with
  | error message =>
    rw [hmodel] at h
    cases h
  | ok t' =>
    rw [hmodel] at h
    exact congrArg Except.ok (Except.ok.inj h)

theorem load_idem (h : load host s corsOrigins oidcAlgorithms = .ok t) :
    load host t (.items t.corsOrigins) (.items t.oidcAlgorithms) = .ok t := by
  obtain ⟨hfields, hmodel⟩ := load_ok h
  obtain ⟨hproduction, hoidc, hproviders, hsame⟩ := validateAuthConfiguration_ok hmodel
  obtain ⟨hurl, httl⟩ : normalizeDatabaseUrl t.databaseUrl = t.databaseUrl ∧
      t.accessTokenTtlHours = s.accessTokenTtlHours := by
    rcases hsame with rfl | rfl
    all_goals exact ⟨normalizeDatabaseUrl_idem _, rfl⟩
  have hparsed : parsed t (.items t.corsOrigins) (.items t.oidcAlgorithms) = t := by
    unfold parsed
    rw [hurl]
    rfl
  have hno : fieldErrors t (.items t.corsOrigins) = [] := by
    unfold fieldErrors at hfields ⊢
    rw [httl, (List.append_eq_nil_iff.mp hfields).1]
    rfl
  have hagain : validateAuthConfiguration host t = .ok t := by
    simp only [validateAuthConfiguration, bind_eq_ok, pure_eq_ok]
    exact ⟨(), hproduction, t, hoidc, (), hproviders, rfl⟩
  rw [load, raiseIf_neg (not_not.mpr hno), hparsed, hagain]
  rfl

/-- What a production process relies on. A claim token of an invitation can be made wherever one
is sent. -/
structure ProductionSafe (host : Host) (s : Settings) : Prop where
  provider : s.authProvider = .oidc
  client : Text.strip s.oidcIssuer ≠ "" ∧ Text.strip s.oidcAudience ≠ "" ∧
    Text.strip s.oidcJwksUrl ≠ "" ∧ Text.strip s.oidcClientId ≠ "" ∧ s.oidcAlgorithms ≠ []
  database : Text.startswith s.databaseUrl "postgresql+psycopg://" = true ∧
    s.runMigrationsOnStartup = false ∧ s.seedSyntheticData = false
  https : ∀ url ∈ [s.frontendPublicUrl, s.oidcIssuer, s.oidcJwksUrl] ++ s.corsOrigins,
    Text.startswith url "https://" = true
  origins : ∀ origin ∈ s.corsOrigins, '*' ∉ origin.toList
  secrets : ∀ secret ∈ [s.telemetryIngestToken, s.githubWebhookSecret],
    secret = "" ∨ 32 ≤ secret.length
  checks : s.githubChecksEnabled = true → s.githubAppAvailable = true
  mail : s.mail.emailDeliveryMode host = "disabled" ∨
    s.mail.emailDeliveryMode host = "smtp" ∧ s.smtpUseTls = true ∧
      ∀ (tokenHost : TokenHost) (id : String), ∃ token,
        deriveInvitationClaimToken tokenHost s.invitationTokenSecret id = .ok token

theorem clientId_of_validateOidc (hprovider : s.authProvider = .oidc)
    (h : validateOidc host s = .ok s) : Text.strip s.oidcClientId ≠ "" := by
  unfold validateOidc at h
  rw [if_pos hprovider] at h
  simp only [bind_eq_ok, raiseIf_eq_ok, pure_eq_ok] at h
  obtain ⟨_, hmissing, _, -, _, -, hsame⟩ := h
  rw [hsame] at hmissing
  intro hclient
  have haudience := (missingOidc_eq_nil.mp (not_not.mp hmissing)).2.1
  rw [withClientId, if_pos hclient] at hsame
  rw [← congrArg Settings.oidcClientId hsame] at hclient
  exact haudience hclient

theorem mail_of_validateProviders (hproduction : s.production host = true)
    (h : validateProviders host s = .ok ()) :
    s.mail.emailDeliveryMode host = "disabled" ∨
      s.mail.emailDeliveryMode host = "smtp" ∧ s.smtpUseTls = true ∧
        ∀ (tokenHost : TokenHost) (id : String), ∃ token,
          deriveInvitationClaimToken tokenHost s.invitationTokenSecret id = .ok token := by
  simp only [validateProviders, bind_eq_ok, raiseIf_eq_ok] at h
  obtain ⟨_, happ, _, hchecks, _, hwebhook, _, hsmtp, _, htls, hsecret⟩ := h
  unfold MailSettings.emailDeliveryMode
  split
  · next hset =>
    refine Or.inr ⟨rfl, ?_, fun tokenHost id => ?_⟩
    · by_contra hno
      exact htls ⟨hproduction, hset.1, hno⟩
    · unfold deriveInvitationClaimToken
      rw [raiseIf_neg fun hshort => hsecret ⟨hset.1, hshort⟩]
      exact ⟨_, rfl⟩
  · exact Or.inl (if_neg fun hno => hno (of_decide_eq_true hproduction))

theorem productionSafe_of_valid (hproduction : s.production host = true)
    (hvalid : validateProduction host s = .ok ()) (hoidc : validateOidc host s = .ok s)
    (hproviders : validateProviders host s = .ok ()) : ProductionSafe host s := by
  have hmail := mail_of_validateProviders hproduction hproviders
  simp only [validateProduction, hproduction, true_and, bind_eq_ok, raiseIf_eq_ok] at hvalid
  obtain ⟨_, hprovider, _, hseed, _, hdatabase, _, hmigrations, _, hfrontend, _, horigins, htelemetry⟩ :=
    hvalid
  have hprovider : s.authProvider = .oidc := not_not.mp hprovider
  have hclient := clientId_of_validateOidc hprovider hoidc
  unfold validateOidc at hoidc
  rw [if_pos hprovider] at hoidc
  simp only [bind_eq_ok, raiseIf_eq_ok, pure_eq_ok] at hoidc
  obtain ⟨_, hmissing, _, halgorithms, _, hhttps, hsame⟩ := hoidc
  rw [hsame] at hmissing halgorithms hhttps
  simp only [validateProviders, hproduction, true_and, bind_eq_ok, raiseIf_eq_ok] at hproviders
  obtain ⟨_, happ, _, hchecks, _, hwebhook, -⟩ := hproviders
  obtain ⟨hissuer, haudience, hjwks⟩ := missingOidc_eq_nil.mp (not_not.mp hmissing)
  refine ⟨hprovider, ⟨hissuer, haudience, hjwks, hclient, halgorithms⟩,
    ⟨not_not.mp hdatabase, Bool.eq_false_iff.mpr hmigrations, Bool.eq_false_iff.mpr hseed⟩,
    fun url hurl => ?_, fun origin horigin hstar => ?_, fun secret hsecret => ?_, fun henabled => ?_,
    hmail⟩
  · by_contra hno
    simp only [List.mem_append, List.mem_cons, List.not_mem_nil, or_false] at hurl
    rcases hurl with (rfl | rfl | rfl) | horigin
    · exact hfrontend hno
    · exact hhttps ⟨hproduction, Or.inl hno⟩
    · exact hhttps ⟨hproduction, Or.inr hno⟩
    · exact horigins ⟨url, horigin, Or.inl hno⟩
  · exact horigins ⟨origin, horigin, Or.inr hstar⟩
  · by_contra hno
    obtain ⟨hset, hshort⟩ := not_or.mp hno
    simp only [List.mem_cons, List.not_mem_nil, or_false] at hsecret
    rcases hsecret with rfl | rfl
    · exact htelemetry ⟨hset, Nat.lt_of_not_le hshort⟩
    · exact hwebhook ⟨hset, Nat.lt_of_not_le hshort⟩
  · by_contra hno
    exact hchecks ⟨henabled, hno⟩

/-- **Accepted settings.** Settings that were accepted are accepted again as they are, and in
production they are what production relies on. -/
theorem settings_accepted (h : load host s corsOrigins oidcAlgorithms = .ok t) :
    load host t (.items t.corsOrigins) (.items t.oidcAlgorithms) = .ok t ∧
      (t.production host = true → ProductionSafe host t) := by
  refine ⟨load_idem h, fun hproduction => ?_⟩
  obtain ⟨hvalid, hoidc, hproviders, -⟩ := validateAuthConfiguration_ok (load_ok h).2
  exact productionSafe_of_valid hproduction hvalid hoidc hproviders

/-- The environment of a production process. -/
def productionEnvironment : Settings where
  environment := " Production"
  databaseUrl := "postgresql://deployguard:secret@db/deployguard"
  runMigrationsOnStartup := false
  seedSyntheticData := false
  githubWebhookSecret := ""
  telemetryIngestToken := ""
  authProvider := .oidc
  developmentUserEmail := "owner@deployguard.local"
  developmentUserName := "Local workspace owner"
  accessTokenTtlHours := 12
  oidcIssuer := "https://identity.example"
  oidcAudience := "deployguard-api"
  oidcClientId := ""
  oidcJwksUrl := "https://identity.example/.well-known/jwks.json"
  oidcAlgorithms := []
  frontendPublicUrl := "https://deployguard.example"
  githubAppId := ""
  githubAppSlug := ""
  githubAppPrivateKey := ""
  githubChecksEnabled := false
  smtpHost := "smtp.example"
  smtpFromEmail := "deployguard@example.com"
  smtpUseTls := true
  invitationTokenSecret := "0123456789abcdef0123456789abcdef"
  corsOrigins := []

/-- What is made of it. -/
def productionSettings : Settings :=
  { productionEnvironment with
    databaseUrl := "postgresql+psycopg://deployguard:secret@db/deployguard"
    oidcClientId := "deployguard-api"
    oidcAlgorithms := ["RS256"]
    corsOrigins := ["https://deployguard.example"] }

theorem productionSettings_load : load asciiHost productionEnvironment
    (.text " https://deployguard.example ,") (.text "RS256") = .ok productionSettings := by
  decide +kernel

theorem settings_accepted_production : ProductionSafe asciiHost productionSettings :=
  (settings_accepted productionSettings_load).2 (by decide +kernel)

end DeployGuard.Identity
