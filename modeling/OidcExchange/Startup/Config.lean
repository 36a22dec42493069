import OidcExchange.Browser.Load
import OidcExchange.Data.Decimal
import OidcExchange.GitHub.Policy

/-!
# The configuration

`src/config.rs`: the configuration is read from the environment of the process, one
variable after the other, and the first variable that is missing or wrong is reported.
-/

namespace OidcExchange.Startup

open OidcExchange.Browser OidcExchange.GitHub OidcExchange.Jwks

/-- `env::VarError` -/
inductive VarError where
  | notPresent
  | notUnicode
  deriving DecidableEq

/-- `env::var`; the environment does not change while the process runs. -/
abbrev Environment :=
  String → Except VarError String

inductive ConfigError where
  | missing (name : String)
  | invalidIssuer
  | invalidOutputAudience
  | invalidGitHubExchangeAudience
  | invalidExpectedPolicyVersion
  | invalidListenAddress
  | invalidKeyExpiryReadinessThreshold
  | invalidGitHubJwksMaxStaleness
  | invalidWorkloadListenAddress
  | conflictingListenAddresses
  | invalidWorkloadEnabled
  | invalidGenericOidcEnabled
  | invalidWorkloadOutputAudience
  | invalidBrowserHop1Enabled
  | browserHop1RequiresWorkload
  | invalidBrowserHop1StewardIssuer
  | invalidBrowserHop1OutputAudience
  deriving DecidableEq

structure GenericOidcConfig where
  policyFile : String
  additionalCaFile : Option String
  deriving DecidableEq

structure WorkloadConfig (A : Type) where
  listenAddress : A
  inputAudience : String
  outputAudience : String
  policyFile : String
  rsaKeyringFile : String
  tlsCertificateFile : String
  tlsPrivateKeyFile : String
  deriving DecidableEq

structure BrowserHop1Config where
  stewardIssuer : String
  assertionAudience : String
  stewardJwksFile : String
  outputAudience : String
  deriving DecidableEq

/-- `Config` with socket addresses `A`.  Durations are in seconds. -/
structure Config (A : Type) where
  issuerUrl : String
  githubExchangeAudience : String
  expectedPolicyVersion : String
  outputAudience : String
  policyFile : String
  keyringFile : String
  replayLeaseNamespace : String
  listenAddress : A
  tokenTtl : Nat
  keyExpiryReadinessThreshold : Nat
  githubJwksMaxStaleness : Nat
  genericOidc : Option GenericOidcConfig
  workload : Option (WorkloadConfig A)
  browserHop1 : Option BrowserHop1Config
  deriving DecidableEq

/-- The parsers of URLs and of socket addresses. -/
structure ConfigLibrary (A : Type) where
  parseUrl : String → Option Url
  parseAddress : String → Option A

def defaultJwksMaxStalenessSeconds : Nat := 21600

/-- `env::var(name).unwrap_or_else(|_| default)` -/
def varOr (env : Environment) (name default : String) : String :=
  match env name with
  | .ok value => value
  | .error _ => default

def required (env : Environment) (name : String) : Except ConfigError String :=
  match env name with
  | .error _ => .error (.missing name)
  | .ok value =>
      if Text.isEmpty (Text.trim value) then .error (.missing name) else .ok (Text.trim value)

/-- `result.map_err(|_| failure)?` of a parser. -/
def orElse {α : Type} (value : Option α) (failure : ConfigError) : Except ConfigError α :=
  match value with
  | some value => .ok value
  | none => .error failure

def ensure (holds : Bool) (failure : ConfigError) : Except ConfigError Unit :=
  if holds then .ok () else .error failure

/-- The switch of an optional profile. -/
def enabled (env : Environment) (name : String) (failure : ConfigError) :
    Except ConfigError Bool :=
  match env name with
  | .ok value =>
      if value = "true" then .ok true else if value = "false" then .ok false else .error failure
  | .error .notPresent => .ok false
  | .error .notUnicode => .error failure

def validHttpsUrl (parseUrl : String → Option Url) (value : String) : Bool :=
  (parseUrl value).any plainHttps

def validIssuerUrl (parseUrl : String → Option Url) (value : String) : Bool :=
  match Text.splitOnce value "://" with
  | none => false
  | some (_, authority) =>
      !Text.contains authority "/" && decide (Text.len value ≤ 2048) &&
        (parseUrl value).any plainHttps

def validExchangeAudience (value : String) : Bool :=
  !Text.isEmpty value && decide (Text.len value ≤ 255) && Text.all value Text.isAsciiGraphic

def validGithubJwksMaxStaleness (seconds : Nat) : Bool :=
  decide (600 ≤ seconds) && decide (seconds ≤ 604800)

def supportedPolicyVersion (value : String) : Bool :=
  value == policyVersion || value == sourceAuthPolicyVersion

/-- A number of seconds: `parse::<u64>().ok().filter(valid)`. -/
def parseSeconds (value : String) (valid : Nat → Bool) : Option Nat :=
  (Decimal.parse (2 ^ 64) value).toOption.filter valid

variable {A : Type}

section Reading

variable [DecidableEq A]

def WorkloadConfig.fromEnv (library : ConfigLibrary A) (env : Environment)
    (publicListenAddress : A) : Except ConfigError (Option (WorkloadConfig A)) := do
  if ← enabled env "WORKLOAD_EXCHANGE_ENABLED" .invalidWorkloadEnabled then
    let outputAudience ← required env "WORKLOAD_OUTPUT_AUDIENCE"
    ensure (outputAudience == "openshell-api") .invalidWorkloadOutputAudience
    let listenAddress ←
      orElse (library.parseAddress (varOr env "WORKLOAD_LISTEN_ADDRESS" "0.0.0.0:8443"))
        .invalidWorkloadListenAddress
    let inputAudience ← required env "WORKLOAD_INPUT_AUDIENCE"
    let policyFile ← required env "WORKLOAD_POLICY_FILE"
    let rsaKeyringFile ← required env "WORKLOAD_RSA_KEYRING_FILE"
    let tlsCertificateFile ← required env "TLS_CERTIFICATE_FILE"
    let tlsPrivateKeyFile ← required env "TLS_PRIVATE_KEY_FILE"
    ensure (decide (listenAddress ≠ publicListenAddress)) .conflictingListenAddresses
    return some
      { listenAddress, inputAudience, outputAudience, policyFile, rsaKeyringFile,
        tlsCertificateFile, tlsPrivateKeyFile }
  else
    return none

def BrowserHop1Config.fromEnv (library : ConfigLibrary A) (env : Environment)
    (workloadEnabled : Bool) : Except ConfigError (Option BrowserHop1Config) := do
  if ← enabled env "BROWSER_HOP1_ENABLED" .invalidBrowserHop1Enabled then
    ensure workloadEnabled .browserHop1RequiresWorkload
    let stewardIssuer ← required env "BROWSER_HOP1_STEWARD_ISSUER"
    let stewardIssuer := Text.trimEndMatches stewardIssuer '/'
    ensure (validHttpsUrl library.parseUrl stewardIssuer) .invalidBrowserHop1StewardIssuer
    let outputAudience ← required env "BROWSER_HOP1_OUTPUT_AUDIENCE"
    ensure (validHttpsUrl library.parseUrl outputAudience) .invalidBrowserHop1OutputAudience
    let assertionAudience ← required env "BROWSER_HOP1_ASSERTION_AUDIENCE"
    let stewardJwksFile ← required env "BROWSER_HOP1_STEWARD_JWKS_FILE"
    return some { stewardIssuer, assertionAudience, stewardJwksFile, outputAudience }
  else
    return none

def GenericOidcConfig.fromEnv (env : Environment) :
    Except ConfigError (Option GenericOidcConfig) := do
  if ← enabled env "GENERIC_OIDC_ENABLED" .invalidGenericOidcEnabled then
    let policyFile ← required env "GENERIC_OIDC_POLICY_FILE"
    return some
      { policyFile, additionalCaFile := (required env "GENERIC_OIDC_ADDITIONAL_CA_FILE").toOption }
  else
    return none

def Config.fromEnv (library : ConfigLibrary A) (env : Environment) :
    Except ConfigError (Config A) := do
  let issuerUrl ← required env "ISSUER_URL"
  let issuerUrl := (Text.stripSuffix issuerUrl "/").getD issuerUrl
  ensure (validIssuerUrl library.parseUrl issuerUrl) .invalidIssuer
  let outputAudience ← required env "OUTPUT_AUDIENCE"
  ensure (outputAudience == "steward-task-api") .invalidOutputAudience
  let listenAddress ←
    orElse (library.parseAddress (varOr env "LISTEN_ADDRESS" "0.0.0.0:8080")) .invalidListenAddress
  let workload ← WorkloadConfig.fromEnv library env listenAddress
  let browserHop1 ← BrowserHop1Config.fromEnv library env workload.isSome
  let genericOidc ← GenericOidcConfig.fromEnv env
  let githubExchangeAudience ← required env "GITHUB_EXCHANGE_AUDIENCE"
  ensure (validExchangeAudience githubExchangeAudience) .invalidGitHubExchangeAudience
  let expectedPolicyVersion := varOr env "EXPECTED_POLICY_VERSION" policyVersion
  ensure (supportedPolicyVersion expectedPolicyVersion) .invalidExpectedPolicyVersion
  let keyExpiryReadinessThreshold ←
    orElse
      (parseSeconds (varOr env "KEY_EXPIRY_READINESS_THRESHOLD_SECONDS" "604800") fun seconds =>
        decide (120 ≤ seconds) && decide (seconds ≤ 31536000))
      .invalidKeyExpiryReadinessThreshold
  let githubJwksMaxStaleness ←
    orElse
      (parseSeconds
        (varOr env "GITHUB_JWKS_MAX_STALENESS_SECONDS" (toString defaultJwksMaxStalenessSeconds))
        validGithubJwksMaxStaleness)
      .invalidGitHubJwksMaxStaleness
  let policyFile ← required env "POLICY_FILE"
  let keyringFile ← required env "KEYRING_FILE"
  let replayLeaseNamespace ← required env "REPLAY_LEASE_NAMESPACE"
  pure
    { issuerUrl, githubExchangeAudience, expectedPolicyVersion, outputAudience, policyFile,
      keyringFile, replayLeaseNamespace, listenAddress, tokenTtl := 120,
      keyExpiryReadinessThreshold, githubJwksMaxStaleness, genericOidc, workload, browserHop1 }

end Reading

/-! ## What an accepted configuration promises -/

/-- The value of a required variable: trimmed and not empty. -/
def Given (env : Environment) (name value : String) : Prop :=
  ∃ raw, env name = .ok raw ∧ value = Text.trim raw ∧ Text.isEmpty value = false

structure WorkloadConfig.Sound (env : Environment) (publicListenAddress : A)
    (config : WorkloadConfig A) : Prop where
  enabled : env "WORKLOAD_EXCHANGE_ENABLED" = .ok "true"
  outputAudience : config.outputAudience = "openshell-api"
  listenAddress : config.listenAddress ≠ publicListenAddress
  inputAudience : Given env "WORKLOAD_INPUT_AUDIENCE" config.inputAudience
  policyFile : Given env "WORKLOAD_POLICY_FILE" config.policyFile
  rsaKeyringFile : Given env "WORKLOAD_RSA_KEYRING_FILE" config.rsaKeyringFile
  tlsCertificateFile : Given env "TLS_CERTIFICATE_FILE" config.tlsCertificateFile
  tlsPrivateKeyFile : Given env "TLS_PRIVATE_KEY_FILE" config.tlsPrivateKeyFile

structure BrowserHop1Config.Sound (parseUrl : String → Option Url) (env : Environment)
    (config : BrowserHop1Config) : Prop where
  enabled : env "BROWSER_HOP1_ENABLED" = .ok "true"
  stewardIssuer : validHttpsUrl parseUrl config.stewardIssuer = true
  outputAudience : validHttpsUrl parseUrl config.outputAudience = true
  assertionAudience : Given env "BROWSER_HOP1_ASSERTION_AUDIENCE" config.assertionAudience
  stewardJwksFile : Given env "BROWSER_HOP1_STEWARD_JWKS_FILE" config.stewardJwksFile

structure GenericOidcConfig.Sound (env : Environment) (config : GenericOidcConfig) : Prop where
  enabled : env "GENERIC_OIDC_ENABLED" = .ok "true"
  policyFile : Given env "GENERIC_OIDC_POLICY_FILE" config.policyFile
  additionalCaFile : ∀ path, config.additionalCaFile = some path →
    Given env "GENERIC_OIDC_ADDITIONAL_CA_FILE" path

structure Config.Sound (library : ConfigLibrary A) (env : Environment) (config : Config A) :
    Prop where
  issuerUrl : validIssuerUrl library.parseUrl config.issuerUrl = true
  githubExchangeAudience : validExchangeAudience config.githubExchangeAudience = true
  expectedPolicyVersion : supportedPolicyVersion config.expectedPolicyVersion = true
  outputAudience : config.outputAudience = "steward-task-api"
  policyFile : Given env "POLICY_FILE" config.policyFile
  keyringFile : Given env "KEYRING_FILE" config.keyringFile
  replayLeaseNamespace : Given env "REPLAY_LEASE_NAMESPACE" config.replayLeaseNamespace
  tokenTtl : config.tokenTtl = 120
  readinessThreshold : 120 ≤ config.keyExpiryReadinessThreshold ∧
    config.keyExpiryReadinessThreshold ≤ 31536000
  maxStaleness : 600 ≤ config.githubJwksMaxStaleness ∧ config.githubJwksMaxStaleness ≤ 604800
  genericOidc : ∀ oidc, config.genericOidc = some oidc → oidc.Sound env
  workload : ∀ workload, config.workload = some workload →
    workload.Sound env config.listenAddress
  browserHop1 : ∀ browser, config.browserHop1 = some browser →
    config.workload.isSome = true ∧ browser.Sound library.parseUrl env

section Sound

variable {library : ConfigLibrary A} {env : Environment}

theorem required_eq_ok_iff {name value : String} :
    required env name = .ok value ↔ Given env name value := by
  unfold required Given
  cases env name with
  | error failure => simp
  | ok raw =>
      dsimp only
      split
      · rename_i empty
        simp only [reduceCtorEq, Except.ok.injEq, exists_eq_left', false_iff, not_and]
        rintro rfl
        simp [empty]
      · rename_i present
        simp only [Except.ok.injEq, exists_eq_left']
        constructor
        · rintro rfl
          exact ⟨rfl, by simpa using present⟩
        · rintro ⟨rfl, _⟩
          rfl

theorem ensure_eq_ok_iff {holds : Bool} {failure : ConfigError} {result : Unit} :
    ensure holds failure = .ok result ↔ holds = true := by
  cases holds with
  | false => simp [ensure]
  | true => simp [ensure]

theorem orElse_eq_ok_iff {α : Type} {value : Option α} {failure : ConfigError} {result : α} :
    orElse value failure = .ok result ↔ value = some result := by
  cases value with
  | none => simp [orElse]
  | some value => simp [orElse]

theorem enabled_eq_true {name : String} {failure : ConfigError}
    (accepted : enabled env name failure = .ok true) : env name = .ok "true" := by
  unfold enabled at accepted
  split at accepted
  · rename_i value found
    split at accepted
    · rename_i same
      rw [found, same]
    · split at accepted
      · simp at accepted
      · contradiction
  · simp at accepted
  · contradiction

theorem parseSeconds_eq_some {value : String} {valid : Nat → Bool} {seconds : Nat}
    (parsed : parseSeconds value valid = some seconds) : valid seconds = true :=
  (Option.filter_eq_some_iff.mp parsed).2

theorem BrowserHop1Config.fromEnv_sound {workloadEnabled : Bool} {config : BrowserHop1Config}
    (accepted : BrowserHop1Config.fromEnv library env workloadEnabled = .ok (some config)) :
    workloadEnabled = true ∧ config.Sound library.parseUrl env := by
  simp only [BrowserHop1Config.fromEnv, bind_eq_ok_iff] at accepted
  rcases accepted with ⟨switch, switched, accepted⟩
  cases switch with
  | false => cases accepted
  | true =>
      simp only [if_true, bind_eq_ok_iff, required_eq_ok_iff, ensure_eq_ok_iff] at accepted
      rcases accepted with ⟨_, workload, stewardIssuer, _, _, issuer, outputAudience, _, _, output,
        assertionAudience, assertion, stewardJwksFile, jwks, made⟩
      cases made
      exact ⟨workload, enabled_eq_true switched, issuer, output, assertion, jwks⟩

theorem GenericOidcConfig.fromEnv_sound {config : GenericOidcConfig}
    (accepted : GenericOidcConfig.fromEnv env = .ok (some config)) : config.Sound env := by
  simp only [GenericOidcConfig.fromEnv, bind_eq_ok_iff] at accepted
  rcases accepted with ⟨switch, switched, accepted⟩
  cases switch with
  | false => cases accepted
  | true =>
      simp only [if_true, bind_eq_ok_iff, required_eq_ok_iff] at accepted
      rcases accepted with ⟨policyFile, policy, made⟩
      cases made
      refine ⟨enabled_eq_true switched, policy, fun path present => ?_⟩
      apply required_eq_ok_iff.mp
      cases read : required env "GENERIC_OIDC_ADDITIONAL_CA_FILE" with
      | error failure => simp [read, Except.toOption] at present
      | ok value => simpa [read, Except.toOption] using present

variable [DecidableEq A]

theorem WorkloadConfig.fromEnv_sound {address : A} {config : WorkloadConfig A}
    (accepted : WorkloadConfig.fromEnv library env address = .ok (some config)) :
    config.Sound env address := by
  simp only [WorkloadConfig.fromEnv, bind_eq_ok_iff] at accepted
  rcases accepted with ⟨switch, switched, accepted⟩
  cases switch with
  | false => cases accepted
  | true =>
      simp only [if_true, bind_eq_ok_iff, required_eq_ok_iff, ensure_eq_ok_iff,
        beq_iff_eq, decide_eq_true_eq] at accepted
      rcases accepted with ⟨outputAudience, _, _, output, listenAddress, _, inputAudience, input,
        policyFile, policy, rsaKeyringFile, keyring, tlsCertificateFile, certificate,
        tlsPrivateKeyFile, privateKey, _, different, made⟩
      cases made
      exact ⟨enabled_eq_true switched, output, different, input, policy, keyring, certificate,
        privateKey⟩

/-- Every accepted configuration is sound. -/
theorem Config.fromEnv_sound {config : Config A}
    (accepted : Config.fromEnv library env = .ok config) : config.Sound library env := by
  simp only [Config.fromEnv, bind_eq_ok_iff, required_eq_ok_iff, ensure_eq_ok_iff,
    orElse_eq_ok_iff, beq_iff_eq] at accepted
  rcases accepted with ⟨_, _, _, issuer, outputAudience, _, _, output, listenAddress, _, workload,
    workloadRead, browserHop1, browserRead, genericOidc, oidcRead, githubExchangeAudience, _, _,
    audience, _, version, readinessThreshold, threshold, maxStaleness, staleness, policyFile,
    policy, keyringFile, keyring, replayLeaseNamespace, lease, made⟩
  cases made
  have thresholdBounds := parseSeconds_eq_some threshold
  have stalenessBounds := parseSeconds_eq_some staleness
  simp only [Bool.and_eq_true, decide_eq_true_eq] at thresholdBounds
  simp only [validGithubJwksMaxStaleness, Bool.and_eq_true, decide_eq_true_eq] at stalenessBounds
  refine ⟨issuer, audience, version, output, policy, keyring, lease, rfl, thresholdBounds,
    stalenessBounds, ?_, ?_, ?_⟩
  · rintro oidc rfl
    exact GenericOidcConfig.fromEnv_sound oidcRead
  · rintro config rfl
    exact WorkloadConfig.fromEnv_sound workloadRead
  · rintro browser rfl
    exact BrowserHop1Config.fromEnv_sound browserRead

end Sound

end OidcExchange.Startup
