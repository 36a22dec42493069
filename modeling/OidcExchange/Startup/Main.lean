import OidcExchange.Browser.Load
import OidcExchange.Http.Handlers
import OidcExchange.Keys.Readiness
import OidcExchange.Oidc.Policy
import OidcExchange.Process.Trace
import OidcExchange.Startup.Config
import OidcExchange.Workload.Validation

/-!
# The start of the process

`main` of `src/main.rs` as a program over what it reads, what it connects to and what it
serves.  A step that fails is logged with the name of its stage, and the process ends.

Left out: the texts of the errors, the messages about progress, and the signals that end
a served process.
-/

namespace OidcExchange.Startup

open OidcExchange.Browser OidcExchange.GitHub OidcExchange.Http OidcExchange.Jwks
  OidcExchange.Keys OidcExchange.Oidc OidcExchange.Process OidcExchange.Service
  OidcExchange.Workload

/-- What the private listener is started with; Steward's verifier belongs to the browser
service. -/
structure PrivateListener (A E R K : Type) where
  address : A
  state : WorkloadAppState E R
  steward : Option (StewardBrowserAssertionVerifier K)

/-- What the process serves. -/
structure Deployment (A E R K : Type) where
  address : A
  state : AppState E R
  maxStaleness : Nat
  workload : Option (PrivateListener A E R K)

/-- The libraries and the pure parts of the services. -/
structure StartupLibrary (A E R K : Type) extends ConfigLibrary A, KeyLibrary E R where
  parseTime : String → Option DateTime
  sha256 : List UInt8 → List UInt8
  projectedClaims : String → Option ProjectedTokenClaims

/-- The operations of the start with certificates `T`. -/
inductive Op (A E R K T : Type) where
  | installDefaultProvider
  /-- `log_startup_failure` -/
  | logStartupFailure (stage : String)
  | utcNow
  | readPolicy (path : String)
  | readOidcPolicy (path : String)
  | readWorkloadPolicy (path : String)
  | readKeyring (path : String)
  | readStewardJwks (path : String)
  | readAdditionalCa (path : String)
  /-- `KubernetesLeaseReplayLedger::in_cluster` after its first check. -/
  | leaseClient (replayNamespace : String)
  /-- `KubernetesTokenReviewer::in_cluster` -/
  | tokenReviewClient
  /-- `jwks_client` -/
  | jwksClient
  | warmUp
  | spawnRefresh
  | discoveryClient (additionalCa : List T)
  | spawnOidcRefresh
  | tlsIdentity (certificateFile privateKeyFile : String)
  | bind (address : A)
  | serve (deployment : Deployment A E R K)

/-- What an operation returns; `none` and `false` are failures.  A file that can be opened
need not hold a document. -/
@[reducible]
def Answer {A E R K T : Type} : Op A E R K T → Type
  | .logStartupFailure _ => Unit
  | .utcNow => DateTime
  | .readPolicy _ => Option Policy
  | .readOidcPolicy _ => Option OidcPolicy
  | .readWorkloadPolicy _ => Option WorkloadPolicy
  | .readKeyring _ => Option (Option Json)
  | .readStewardJwks _ => Option (List (Jwk K))
  | .readAdditionalCa _ => Option (List T)
  | .spawnRefresh => Unit
  | .spawnOidcRefresh => Unit
  | _ => Bool

inductive StartupError where
  | provider
  | failed (stage : String)
  | server
  deriving DecidableEq

section Main

variable {A E R K T : Type}

abbrev StartupProgram (A E R K T α : Type) :=
  Program (@Answer A E R K T) α

/-- A fallible part whose error text is left out. -/
abbrev Fallible (A E R K T α : Type) :=
  StartupProgram A E R K T (Except Unit α)

def refused {ε α : Type} : Except ε α → Except Unit α
  | .ok value => .ok value
  | .error _ => .error ()

/-- `.inspect_err(|failure| log_startup_failure(stage, failure))?` -/
def step {α : Type} (stage : String) (program : Fallible A E R K T α) :
    StartupProgram A E R K T (Except StartupError α) :=
  program.bind fun
    | .ok value => .done (.ok value)
    | .error () => .call (.logStartupFailure stage) fun _ => .done (.error (.failed stage))

/-- An operation that may fail. -/
def attempt (op : Op A E R K T) (succeeded : Answer op → Bool) : Fallible A E R K T Unit :=
  .call op fun answer => .done (if succeeded answer then .ok () else .error ())

/-- A document that is read and then checked. -/
def readChecked {P : Type} (op : Op A E R K T) (document : Answer op → Option P)
    (check : P → Except Unit Unit) : Fallible A E R K T P :=
  .call op fun answer =>
    match document answer with
    | none => .done (.error ())
    | some value => .done ((check value).map fun _ => value)

/-- `Policy::load` -/
def loadPolicy (path : String) : Fallible A E R K T Policy :=
  readChecked (.readPolicy path) id fun policy =>
    if supportedPolicyVersion policy.version then refused policy.validate else .error ()

/-- `OidcPolicy::load` -/
def loadOidcPolicy (parseUrl : String → Option Url) (path : String) :
    Fallible A E R K T OidcPolicy :=
  readChecked (.readOidcPolicy path) id fun policy => refused (policy.validate parseUrl)

/-- `WorkloadPolicy::load` -/
def loadWorkloadPolicy (path : String) : Fallible A E R K T WorkloadPolicy :=
  readChecked (.readWorkloadPolicy path) id fun policy => refused policy.validate

/-- `load_with_readiness_threshold`, whose argument `Utc::now()` is evaluated first. -/
def loadKeyring {S : Type} (parseTime : String → Option DateTime) (format : KeyFormat S)
    (path : String) (thresholdSeconds : Nat) : Fallible A E R K T (KeyRing S) :=
  .call .utcNow fun now =>
    .call (.readKeyring path) fun
      | none => .done (.error ())
      | some tree =>
          .done (refused
            (loadWithReadinessThreshold parseTime format tree now (thresholdSeconds * 1000000000)))

/-- The loader of Steward's keys opens the file after its first check. -/
def loadSteward (parseUrl : String → Option Url) (config : BrowserHop1Config) :
    Fallible A E R K T (StewardBrowserAssertionVerifier K) :=
  if !validHttpsIssuer parseUrl config.stewardIssuer ||
      Text.isEmpty config.assertionAudience then
    .done (.error ())
  else
    .call (.readStewardJwks config.stewardJwksFile) fun document =>
      .done (refused (ofDocument config.stewardIssuer config.assertionAudience document))

def isAsciiLowercase (c : Char) : Bool :=
  decide ('a' ≤ c) && decide (c ≤ 'z')

def validDnsLabel (value : String) : Bool :=
  !Text.isEmpty value && decide (Text.len value ≤ 63) && !Text.startsWith value "-" &&
    !Text.endsWith value "-" &&
    Text.all value fun c => isAsciiLowercase c || Text.isAsciiDigit c || c == '-'

/-- `KubernetesLeaseReplayLedger::in_cluster` -/
def leaseLedger (replayNamespace : String) : Fallible A E R K T Unit :=
  if validDnsLabel replayNamespace then attempt (.leaseClient replayNamespace) id
  else .done (.error ())

/-- The configuration, the policy and the keys of the GitHub profile. -/
structure Core (A E : Type) where
  config : Config A
  policy : Policy
  keys : KeyRing E

variable [DecidableEq A] (library : StartupLibrary A E R K) (env : Environment)

/-- `main` up to the first refresh. -/
def startCore : StartupProgram A E R K T (Except StartupError (Core A E)) :=
  (step "configuration"
    (.done (refused (Config.fromEnv library.toConfigLibrary env)))).bindOk fun config =>
  (step "GitHub authorization policy" (loadPolicy config.policyFile)).bindOk fun policy =>
  (step "GitHub authorization policy contract"
    (.done (if policy.version ≠ config.expectedPolicyVersion then .error () else .ok ()))).bindOk
    fun _ =>
  (step "ES256 signing keyring"
    (loadKeyring library.parseTime (es256Format library.toKeyLibrary) config.keyringFile
      config.keyExpiryReadinessThreshold)).bindOk fun keys =>
  (step "Kubernetes Lease replay ledger" (leaseLedger config.replayLeaseNamespace)).bindOk
    fun _ =>
  (step "GitHub JWKS verifier" (attempt .jwksClient id)).bindOk fun _ =>
  (step "GitHub JWKS warm-up" (attempt .warmUp id)).bindOk fun _ =>
    .call .spawnRefresh fun _ => .done (.ok { config, policy, keys })

def Core.service (core : Core A E) : ExchangeService where
  policy := core.policy
  issuer := core.config.issuerUrl
  outputAudience := core.config.outputAudience
  tokenTtl := core.config.tokenTtl

/-- The additional certificates, if a file is configured. -/
def additionalCa (config : GenericOidcConfig) :
    StartupProgram A E R K T (Except StartupError (List T)) :=
  match config.additionalCaFile with
  | none => .done (.ok [])
  | some path =>
      step "generic OIDC additional CA bundle"
        (readChecked (.readAdditionalCa path) id fun _ => .ok ())

/-- The generic OIDC service.  The verifiers are a map by issuers. -/
def startOidc (core : Core A E) :
    StartupProgram A E R K T (Except StartupError (Option OidcState)) :=
  match core.config.genericOidc with
  | none => .done (.ok none)
  | some config =>
      (step "generic OIDC authorization policy"
        (loadOidcPolicy library.parseUrl config.policyFile)).bindOk fun policy =>
      (additionalCa config).bindOk fun certificates =>
      (step "generic OIDC verifier configuration"
        (match refused (policy.validate library.parseUrl) with
          | .error () => .done (.error ())
          | .ok () => attempt (.discoveryClient certificates) id)).bindOk fun _ =>
        .done (.ok (some
          { service :=
              { sha256 := library.sha256
                policy := policy
                issuer := core.config.issuerUrl
                outputAudience := core.config.outputAudience
                tokenTtl := core.config.tokenTtl }
            providerCount := (policy.providers.map OidcProviderPolicy.issuer).dedup.length }))

/-- The refresh of the providers, if there are any. -/
def spawnOidcRefresh (oidc : Option OidcState) :
    StartupProgram A E R K T (Except StartupError Unit) :=
  match oidc with
  | none => .done (.ok ())
  | some _ => .call .spawnOidcRefresh fun _ => .done (.ok ())

/-- The browser service and the verifier it is given. -/
def startBrowser (core : Core A E) (policy : WorkloadPolicy) :
    StartupProgram A E R K T
      (Except StartupError
        (Option (BrowserHop1State E × StewardBrowserAssertionVerifier K))) :=
  match core.config.browserHop1 with
  | none => .done (.ok none)
  | some browser =>
      (step "Steward browser-assertion JWKS" (loadSteward library.parseUrl browser)).bindOk
        fun verifier =>
          .done (.ok (some
            ({ service :=
                { policy := policy
                  issuer := core.config.issuerUrl
                  outputAudience := browser.outputAudience
                  tokenTtl := 60 }
               keys := core.keys }, verifier)))

/-- The process without the private listener. -/
def servePublic (core : Core A E) (oidc : Option OidcState) :
    StartupProgram A E R K T (Except StartupError Unit) :=
  (step "public listener" (attempt (.bind core.config.listenAddress) id)).bindOk fun _ =>
  (spawnOidcRefresh oidc).bindOk fun _ =>
    .call (.serve
      { address := core.config.listenAddress
        state :=
          { service := core.service
            audience := core.config.githubExchangeAudience
            keys := core.keys
            workload := none
            oidc := oidc }
        maxStaleness := core.config.githubJwksMaxStaleness
        workload := none }) fun served =>
      .done (if served then .ok () else .error .server)

def Core.workloadState (core : Core A E) (workload : WorkloadConfig A) (keys : KeyRing R)
    (policy : WorkloadPolicy) : WorkloadState E R where
  service :=
    { projectedClaims := library.projectedClaims
      policy := policy
      issuer := core.config.issuerUrl
      inputAudience := workload.inputAudience
      outputAudience := workload.outputAudience
      taskOutputAudience := core.config.outputAudience
      tokenTtl := core.config.tokenTtl }
  keys := keys
  taskKeys := core.keys

/-- What is served with the private listener. -/
def Core.deployment (core : Core A E) (oidc : Option OidcState) (workload : WorkloadConfig A)
    (state : WorkloadState E R)
    (browser : Option (BrowserHop1State E × StewardBrowserAssertionVerifier K)) :
    Deployment A E R K where
  address := core.config.listenAddress
  state :=
    { service := core.service
      audience := core.config.githubExchangeAudience
      keys := core.keys
      workload := some state
      oidc := oidc }
  maxStaleness := core.config.githubJwksMaxStaleness
  workload := some
    { address := workload.listenAddress
      state := { workload := state, browserHop1 := browser.map Prod.fst }
      steward := browser.map Prod.snd }

/-- The process with the private listener. -/
def serveBoth (core : Core A E) (oidc : Option OidcState) (workload : WorkloadConfig A) :
    StartupProgram A E R K T (Except StartupError Unit) :=
  (step "workload RS256 signing keyring"
    (loadKeyring library.parseTime (rsaFormat library.toKeyLibrary) workload.rsaKeyringFile
      core.config.keyExpiryReadinessThreshold)).bindOk fun keys =>
  (step "signing key separation"
    (.done (refused (ensureDisjointFrom keys core.keys)))).bindOk fun _ =>
  (step "Kubernetes TokenReview client" (attempt .tokenReviewClient id)).bindOk fun _ =>
  (step "workload authorization policy" (loadWorkloadPolicy workload.policyFile)).bindOk
    fun policy =>
  (step "workload TLS identity"
    (attempt (.tlsIdentity workload.tlsCertificateFile workload.tlsPrivateKeyFile) id)).bindOk
    fun _ =>
  (step "public listener" (attempt (.bind core.config.listenAddress) id)).bindOk fun _ =>
  (spawnOidcRefresh oidc).bindOk fun _ =>
  (startBrowser library core policy).bindOk fun browser =>
    .call (.serve (core.deployment oidc workload
      (core.workloadState library workload keys policy) browser)) fun served =>
      .done (if served then .ok () else .error .server)

def main : StartupProgram A E R K T (Except StartupError Unit) :=
  .call .installDefaultProvider fun
    | false => .done (.error .provider)
    | true =>
        (startCore library env).bindOk fun core =>
        (startOidc library core).bindOk fun oidc =>
          match core.config.workload with
          | none => servePublic core oidc
          | some workload => serveBoth library core oidc workload

end Main

end OidcExchange.Startup
