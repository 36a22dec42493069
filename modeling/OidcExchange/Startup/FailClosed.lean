import OidcExchange.Keys.Publication
import OidcExchange.Process.Sequential
import OidcExchange.Startup.Main

/-!
# The start fails closed

Nothing is served before everything that it rests on has been read, checked and
connected.  What is served is consistent: the services share their issuer and keys, the
policies are valid, and the bounds hold that the rest of the development assumes.
-/

namespace OidcExchange.Startup

open OidcExchange.Browser OidcExchange.GitHub OidcExchange.Http OidcExchange.Jwks
  OidcExchange.Keys OidcExchange.Oidc OidcExchange.Process OidcExchange.Service
  OidcExchange.Workload

variable {A E R K T : Type}

/-- The operations of a start, with their answers. -/
abbrev History (A E R K T : Type) :=
  List (Event (@Answer A E R K T))

/-- A key ring that was read and loaded at a clock reading of the start. -/
def LoadedAt {S : Type} (parseTime : String → Option DateTime) (format : KeyFormat S)
    (path : String) (thresholdSeconds : Nat) (history : History A E R K T) (ring : KeyRing S) :
    Prop :=
  ∃ now tree, (⟨.utcNow, now⟩ : Event (@Answer A E R K T)) ∈ history ∧
    (⟨.readKeyring path, some tree⟩ : Event (@Answer A E R K T)) ∈ history ∧
    loadWithReadinessThreshold parseTime format tree now (thresholdSeconds * 1000000000) = .ok ring

/-- The operation was answered so. -/
def Answered (history : History A E R K T) (op : Op A E R K T) (answer : Answer op) : Prop :=
  (⟨op, answer⟩ : Event (@Answer A E R K T)) ∈ history

section Facts

variable [DecidableEq A] (library : StartupLibrary A E R K) (env : Environment)
  (history : History A E R K T)

/-- What has happened before the issuer may do anything. -/
structure Core.Started (core : Core A E) : Prop where
  config : Config.fromEnv library.toConfigLibrary env = .ok core.config
  policyRead : Answered history (.readPolicy core.config.policyFile) (some core.policy)
  policyValid : core.policy.validate = .ok ()
  policyVersion : core.policy.version = core.config.expectedPolicyVersion
  keys : LoadedAt library.parseTime (es256Format library.toKeyLibrary) core.config.keyringFile
    core.config.keyExpiryReadinessThreshold history core.keys
  leaseNamespace : validDnsLabel core.config.replayLeaseNamespace = true
  leaseClient : Answered history (.leaseClient core.config.replayLeaseNamespace) true
  warm : Answered history .warmUp true

/-- What has happened before the generic OIDC service is used. -/
structure OidcStarted (core : Core A E) (config : GenericOidcConfig) (oidc : OidcState) :
    Prop where
  enabled : core.config.genericOidc = some config
  policyRead : Answered history (.readOidcPolicy config.policyFile) (some oidc.service.policy)
  policyValid : oidc.service.policy.validate library.parseUrl = .ok ()
  issuer : oidc.service.issuer = core.config.issuerUrl
  outputAudience : oidc.service.outputAudience = core.config.outputAudience
  tokenTtl : oidc.service.tokenTtl = core.config.tokenTtl
  providerCount : oidc.providerCount =
    (oidc.service.policy.providers.map OidcProviderPolicy.issuer).dedup.length

/-- What has happened before the browser service is used. -/
structure BrowserStarted (core : Core A E) (policy : WorkloadPolicy) (config : BrowserHop1Config)
    (state : BrowserHop1State E) (steward : StewardBrowserAssertionVerifier K) : Prop where
  enabled : core.config.browserHop1 = some config
  documentRead : ∃ document, Answered history (.readStewardJwks config.stewardJwksFile) document ∧
    Browser.load library.parseUrl config.stewardIssuer config.assertionAudience document =
      .ok steward
  state : state = ⟨⟨policy, core.config.issuerUrl, config.outputAudience, 60⟩, core.keys⟩

/-- What has happened before the private listener is opened. -/
structure WorkloadStarted (core : Core A E) (config : WorkloadConfig A)
    (listener : PrivateListener A E R K) : Prop where
  enabled : core.config.workload = some config
  address : listener.address = config.listenAddress
  keys : LoadedAt library.parseTime (rsaFormat library.toKeyLibrary) config.rsaKeyringFile
    core.config.keyExpiryReadinessThreshold history listener.state.workload.keys
  disjoint : ensureDisjointFrom listener.state.workload.keys core.keys = .ok ()
  reviewer : Answered history .tokenReviewClient true
  policyRead : Answered history (.readWorkloadPolicy config.policyFile)
    (some listener.state.workload.service.policy)
  policyValid : listener.state.workload.service.policy.validate = .ok ()
  tls : Answered history (.tlsIdentity config.tlsCertificateFile config.tlsPrivateKeyFile) true
  state : listener.state.workload = core.workloadState library config
    listener.state.workload.keys listener.state.workload.service.policy
  browser : ∀ state, listener.state.browserHop1 = some state → ∃ browser steward,
    listener.steward = some steward ∧
      BrowserStarted library history core listener.state.workload.service.policy browser state
        steward

/-- What has happened before a deployment is served. -/
structure Deployed (deployment : Deployment A E R K) : Prop where
  core : ∃ core, core.Started library env history ∧
    deployment.address = core.config.listenAddress ∧
    deployment.state.service = core.service ∧
    deployment.state.audience = core.config.githubExchangeAudience ∧
    deployment.state.keys = core.keys ∧
    deployment.maxStaleness = core.config.githubJwksMaxStaleness ∧
    (∀ oidc, deployment.state.oidc = some oidc →
      ∃ config, OidcStarted library history core config oidc) ∧
    deployment.state.workload = deployment.workload.map (·.state.workload) ∧
    ∀ listener, deployment.workload = some listener →
      ∃ config, WorkloadStarted library history core config listener
  bound : Answered history (.bind deployment.address) true

/-- The operation is the last one of a start. -/
def Op.ends : Op A E R K T → Bool
  | .logStartupFailure _ | .serve _ => true
  | _ => false

/-- The start is still going on. -/
def Quiet : Prop :=
  ∀ event ∈ history, event.1.ends = false

/-- Nothing follows a logged failure or a served deployment, and a deployment is served
only after everything it rests on. -/
def Allows : Op A E R K T → Prop
  | .serve deployment => Quiet history ∧ Deployed library env history deployment
  | _ => Quiet history

/-- The last operation before the process ends. -/
def Ends : Except StartupError Unit → Prop
  | .ok () => ∃ earlier deployment, history = earlier ++ [⟨.serve deployment, true⟩] ∧ Quiet earlier
  | .error .server => ∃ earlier deployment,
      history = earlier ++ [⟨.serve deployment, false⟩] ∧ Quiet earlier
  | .error (.failed stage) => ∃ earlier,
      history = earlier ++ [⟨.logStartupFailure stage, ()⟩] ∧ Quiet earlier
  | .error .provider => history = [⟨.installDefaultProvider, false⟩]

end Facts

/-! ## The parts of the start -/

section Parts

variable {α β : Type} {history later : History A E R K T}

/-- A fallible part goes on quietly, and its result has the property. -/
def Yields (result : History A E R K T → α → Prop) (history later : History A E R K T)
    (outcome : Except Unit α) : Prop :=
  Quiet later ∧ history <+: later ∧ ∀ value, outcome = .ok value → result later value

/-- A step goes on quietly, or its failure has ended the start. -/
def Passes (result : History A E R K T → α → Prop) (history later : History A E R K T) :
    Except StartupError α → Prop
  | .ok value => Quiet later ∧ history <+: later ∧ result later value
  | .error failure => Ends later (.error failure)

theorem Quiet.snoc (quiet : Quiet history) {op : Op A E R K T} (plain : op.ends = false)
    (answer : Answer op) : Quiet (history ++ [⟨op, answer⟩]) := by
  intro event member
  rcases List.mem_append.mp member with member | member
  · exact quiet event member
  · rw [List.mem_singleton.mp member]
    exact plain

theorem answered_snoc (history : History A E R K T) {op : Op A E R K T} (answer : Answer op) :
    Answered (history ++ [⟨op, answer⟩]) op answer :=
  List.mem_append_right _ List.mem_cons_self

theorem Answered.mono {op : Op A E R K T} {answer : Answer op}
    (answered : Answered history op answer) (extended : history <+: later) :
    Answered later op answer :=
  extended.subset answered

theorem LoadedAt.mono {S : Type} {parseTime : String → Option DateTime} {format : KeyFormat S}
    {path : String} {thresholdSeconds : Nat} {ring : KeyRing S}
    (loaded : LoadedAt parseTime format path thresholdSeconds history ring)
    (extended : history <+: later) :
    LoadedAt parseTime format path thresholdSeconds later ring := by
  rcases loaded with ⟨now, tree, clock, read, accepted⟩
  exact ⟨now, tree, extended.subset clock, extended.subset read, accepted⟩

variable [DecidableEq A] {library : StartupLibrary A E R K} {env : Environment}
  {result : History A E R K T → α → Prop} {target : History A E R K T → β → Prop}

theorem Quiet.allows (quiet : Quiet history) {op : Op A E R K T} (plain : op.ends = false) :
    Allows library env history op := by
  cases op with
  | serve deployment => contradiction
  | _ => exact quiet

theorem attempt_lawful {op : Op A E R K T} {succeeded : Answer op → Bool} (quiet : Quiet history)
    (plain : op.ends = false) :
    (attempt op succeeded).Lawful (Allows library env)
      (Yields (fun later _ => ∃ answer, succeeded answer = true ∧ Answered later op answer) history)
      history := by
  refine ⟨quiet.allows plain, fun answer => ⟨quiet.snoc plain answer, List.prefix_append _ _, ?_⟩⟩
  intro _ passed
  refine ⟨answer, ?_, answered_snoc history answer⟩
  by_contra failed
  rw [if_neg failed] at passed
  contradiction

end Parts

/-! ## The whole start -/

section Whole

variable [DecidableEq A] {library : StartupLibrary A E R K} {env : Environment}
  {history : History A E R K T}

theorem Core.Started.mono {core : Core A E} {later : History A E R K T}
    (started : core.Started library env history) (extended : history <+: later) :
    core.Started library env later where
  config := started.config
  policyRead := started.policyRead.mono extended
  policyValid := started.policyValid
  policyVersion := started.policyVersion
  keys := started.keys.mono extended
  leaseNamespace := started.leaseNamespace
  leaseClient := started.leaseClient.mono extended
  warm := started.warm.mono extended

omit [DecidableEq A] in
theorem OidcStarted.mono {core : Core A E} {config : GenericOidcConfig} {oidc : OidcState}
    {later : History A E R K T} (started : OidcStarted library history core config oidc)
    (extended : history <+: later) : OidcStarted library later core config oidc where
  enabled := started.enabled
  policyRead := started.policyRead.mono extended
  policyValid := started.policyValid
  issuer := started.issuer
  outputAudience := started.outputAudience
  tokenTtl := started.tokenTtl
  providerCount := started.providerCount

variable {core : Core A E} {oidc : Option OidcState}

omit [DecidableEq A] in
theorem quiet_nil : Quiet ([] : History A E R K T) :=
  fun _ member => absurd member List.not_mem_nil

end Whole

/-! ## What is served -/

/-- While the key ring is ready, its current key outlives every token signed with it. -/
def KeepsTokens {S : Type} (ring : KeyRing S) : Prop :=
  leastReadinessThreshold ≤ ring.readinessThreshold ∧
    ∀ now later, ring.isReadyAt now = true → later ≤ now.addSeconds Keys.tokenTtl →
      later < ring.currentNotAfter

/-- The browser service is an extension of the other services. -/
structure BrowserSound (parseUrl : String → Option Url) (issuer : String) (keys : KeyRing E)
    (policy : WorkloadPolicy) (state : BrowserHop1State E)
    (steward : Option (StewardBrowserAssertionVerifier K)) : Prop where
  issuer : state.service.issuer = issuer
  keys : state.keys = keys
  policy : state.service.policy = policy
  tokenTtl : state.service.tokenTtl = 60
  outputAudience : validHttpsUrl parseUrl state.service.outputAudience = true
  steward : ∃ verifier, steward = some verifier ∧
    validHttpsIssuer parseUrl verifier.issuer = true ∧ ∃ kid key,
      verifier.keys.lookup kid = some key

structure PrivateListener.Sound (parseUrl : String → Option Url) (deployment : Deployment A E R K)
    (listener : PrivateListener A E R K) : Prop where
  address : listener.address ≠ deployment.address
  published : deployment.state.workload = some listener.state.workload
  issuer : listener.state.workload.service.issuer = deployment.state.service.issuer
  taskKeys : listener.state.workload.taskKeys = deployment.state.keys
  taskOutputAudience : listener.state.workload.service.taskOutputAudience =
    deployment.state.service.outputAudience
  outputAudience : listener.state.workload.service.outputAudience = "openshell-api"
  inputAudience : Text.isEmpty listener.state.workload.service.inputAudience = false
  tokenTtl : listener.state.workload.service.tokenTtl = 120
  policy : listener.state.workload.service.policy.validate = .ok ()
  keepsTokens : KeepsTokens listener.state.workload.keys
  disjoint : ∀ kid ∈ listener.state.workload.keys.keys.keys, kid ∉ deployment.state.keys.keys.keys
  browser : ∀ state, listener.state.browserHop1 = some state →
    BrowserSound parseUrl deployment.state.service.issuer deployment.state.keys
      listener.state.workload.service.policy state listener.steward

structure Deployment.Sound (parseUrl : String → Option Url) (deployment : Deployment A E R K) :
    Prop where
  issuer : validIssuerUrl parseUrl deployment.state.service.issuer = true
  outputAudience : deployment.state.service.outputAudience = "steward-task-api"
  audience : validExchangeAudience deployment.state.audience = true
  tokenTtl : deployment.state.service.tokenTtl = 120
  policy : deployment.state.service.policy.validate = .ok ()
  keepsTokens : KeepsTokens deployment.state.keys
  maxStaleness : 600 ≤ deployment.maxStaleness ∧ deployment.maxStaleness ≤ 604800
  oidc : ∀ oidc, deployment.state.oidc = some oidc →
    oidc.service.policy.validate parseUrl = .ok () ∧
      oidc.providerCount = oidc.service.policy.providers.length ∧
      oidc.service.issuer = deployment.state.service.issuer ∧
      oidc.service.outputAudience = deployment.state.service.outputAudience ∧
      oidc.service.tokenTtl = 120
  hidden : deployment.workload = none → deployment.state.workload = none
  workload : ∀ listener, deployment.workload = some listener → listener.Sound parseUrl deployment

section Served

variable [DecidableEq A] {library : StartupLibrary A E R K} {env : Environment}
  {history : History A E R K T} {core : Core A E}

omit [DecidableEq A] in
theorem LoadedAt.keepsTokens {S : Type} {parseTime : String → Option DateTime}
    {format : KeyFormat S} {path : String} {thresholdSeconds : Nat} {ring : KeyRing S}
    (loaded : LoadedAt parseTime format path thresholdSeconds history ring)
    (minimum : 120 ≤ thresholdSeconds) : KeepsTokens ring := by
  rcases loaded with ⟨now, tree, _, _, accepted⟩
  rcases loadWithReadinessThreshold_eq_ok_iff.mp accepted with ⟨_, file, _, _, accepted⟩
  rcases KeyRingFile.load_eq_ok_loop accepted with ⟨_, _, _, threshold⟩
  have least : leastReadinessThreshold ≤ ring.readinessThreshold := by
    rw [threshold, leastReadinessThreshold]
    exact Nat.mul_le_mul_right _ minimum
  exact ⟨least, fun _ _ ready within => KeyRing.lt_notAfter_of_isReadyAt least ready within⟩

theorem Core.Started.sound (started : core.Started library env history) :
    core.config.Sound library.toConfigLibrary env :=
  Config.fromEnv_sound started.config

omit [DecidableEq A] in
theorem OidcStarted.providers {config : GenericOidcConfig} {oidc : OidcState}
    (started : OidcStarted library history core config oidc) :
    oidc.providerCount = oidc.service.policy.providers.length := by
  have valid := OidcPolicy.validate_eq_ok_iff.mp started.policyValid
  have distinct : (oidc.service.policy.providers.map OidcProviderPolicy.issuer).Nodup :=
    List.pairwise_map.mpr valid.issuers
  rw [started.providerCount, List.dedup_eq_self.mpr distinct, List.length_map]

omit [DecidableEq A] in
theorem BrowserStarted.sound {policy : WorkloadPolicy} {config : BrowserHop1Config}
    {state : BrowserHop1State E} {steward : StewardBrowserAssertionVerifier K}
    (started : BrowserStarted library history core policy config state steward)
    (configured : config.Sound library.parseUrl env) :
    BrowserSound library.parseUrl core.config.issuerUrl core.keys policy state (some steward) := by
  rcases started.documentRead with ⟨document, _, loaded⟩
  rw [started.state]
  refine ⟨rfl, rfl, rfl, rfl, configured.outputAudience, steward, rfl, ?_⟩
  cases document with
  | none =>
      unfold Browser.load at loaded
      split at loaded
      · contradiction
      · contradiction
  | some jwks =>
      by_cases source : (validHttpsIssuer library.parseUrl config.stewardIssuer &&
          !Text.isEmpty config.assertionAudience) = true
      · rw [load_eq source] at loaded
        rcases ofDocument_lookup loaded with ⟨⟨issuer, _⟩, _⟩
        rcases ofDocument_eq_ok_iff.mp loaded with ⟨keys, _, filled, rfl⟩
        exact ⟨(Bool.and_eq_true _ _ |>.mp source).1, keys_ne_nil_iff.mp filled⟩
      · rw [load_of_invalid source] at loaded
        contradiction

/-- Whatever is served is sound. -/
theorem Deployed.sound {deployment : Deployment A E R K}
    (deployed : Deployed library env history deployment) :
    deployment.Sound library.parseUrl := by
  rcases deployed.core with ⟨core, started, address, service, audience, keys, maxStaleness, oidc,
    workload, listeners⟩
  have configured := started.sound
  constructor
  · rw [service]
    exact configured.issuerUrl
  · rw [service]
    exact configured.outputAudience
  · rw [audience]
    exact configured.githubExchangeAudience
  · rw [service]
    exact configured.tokenTtl
  · rw [service]
    exact started.policyValid
  · rw [keys]
    exact started.keys.keepsTokens configured.readinessThreshold.1
  · rw [maxStaleness]
    exact configured.maxStaleness
  · intro state present
    rcases oidc state present with ⟨config, oidcStarted⟩
    rw [service]
    exact ⟨oidcStarted.policyValid, oidcStarted.providers, oidcStarted.issuer,
      oidcStarted.outputAudience, oidcStarted.tokenTtl.trans configured.tokenTtl⟩
  · intro absent
    rw [workload, absent]
    rfl
  · intro listener present
    rcases listeners listener present with ⟨config, workloadStarted⟩
    have workloadConfigured := configured.workload config workloadStarted.enabled
    have state := workloadStarted.state
    constructor
    · rw [workloadStarted.address, address]
      exact workloadConfigured.listenAddress
    · rw [workload, present]
      rfl
    · rw [service, state]
      rfl
    · rw [keys, state]
      rfl
    · rw [service, state]
      rfl
    · rw [state]
      exact workloadConfigured.outputAudience
    · rw [state]
      exact workloadConfigured.inputAudience.choose_spec.2.2
    · rw [state]
      exact configured.tokenTtl
    · exact workloadStarted.policyValid
    · exact workloadStarted.keys.keepsTokens configured.readinessThreshold.1
    · rw [keys]
      exact ensureDisjointFrom_eq_ok_iff.mp workloadStarted.disjoint
    · intro browserState browserPresent
      rcases workloadStarted.browser browserState browserPresent with
        ⟨browserConfig, steward, given, browserStarted⟩
      rw [service, keys, given]
      exact browserStarted.sound (configured.browserHop1 browserConfig browserStarted.enabled).2

theorem Allows.quiet {op : Op A E R K T} (allowed : Allows library env history op) :
    Quiet history := by
  cases op with
  | serve deployment => exact allowed.1
  | _ => exact allowed

end Served

/-! ## A start that serves -/

def sampleEnvironment : Environment := fun name =>
  match ([("ISSUER_URL", "https://identity.example.com/"), ("OUTPUT_AUDIENCE", "steward-task-api"),
      ("GITHUB_EXCHANGE_AUDIENCE", "identity"), ("POLICY_FILE", "/etc/policy.json"),
      ("EXPECTED_POLICY_VERSION", sourceAuthPolicyVersion), ("KEYRING_FILE", " /etc/keys.json "),
      ("REPLAY_LEASE_NAMESPACE", "replay")] : List (String × String)).lookup name with
  | some value => .ok value
  | none => .error .notPresent

/-- Socket addresses are their own texts. -/
def sampleLibrary : StartupLibrary String (List UInt8) Nat Unit where
  parseUrl := sampleParseUrl
  parseAddress := some
  toKeyLibrary := sampleKeys
  parseTime := sampleTime
  sha256 := id
  projectedClaims _ := none

def sampleConfig : Config String where
  issuerUrl := "https://identity.example.com"
  githubExchangeAudience := "identity"
  expectedPolicyVersion := sourceAuthPolicyVersion
  outputAudience := "steward-task-api"
  policyFile := "/etc/policy.json"
  keyringFile := "/etc/keys.json"
  replayLeaseNamespace := "replay"
  listenAddress := "0.0.0.0:8080"
  tokenTtl := 120
  keyExpiryReadinessThreshold := 604800
  githubJwksMaxStaleness := 21600
  genericOidc := none
  workload := none
  browserHop1 := none

def sampleCore : Core String (List UInt8) where
  config := sampleConfig
  policy := GitHub.samplePolicy
  keys := { sampleKeyRing.ring with readinessThreshold := 604800 * 1000000000 }

def sampleDeployment : Deployment String (List UInt8) Nat Unit where
  address := "0.0.0.0:8080"
  state :=
    { service := sampleCore.service
      audience := "identity"
      keys := sampleCore.keys
      workload := none
      oidc := none }
  maxStaleness := 21600
  workload := none

/-- The operations of the start. -/
def sampleEvents : History String (List UInt8) Nat Unit Unit :=
  [⟨.installDefaultProvider, true⟩, ⟨.readPolicy "/etc/policy.json", some GitHub.samplePolicy⟩,
    ⟨.utcNow, ⟨1000000500000000⟩⟩, ⟨.readKeyring "/etc/keys.json", some (some sampleEs256)⟩,
    ⟨.leaseClient "replay", true⟩, ⟨.jwksClient, true⟩, ⟨.warmUp, true⟩, ⟨.spawnRefresh, ()⟩,
    ⟨.bind "0.0.0.0:8080", true⟩]

theorem sampleEvents_path :
    ∃ next, (main sampleLibrary sampleEnvironment).Path sampleEvents
      (.call (.serve sampleDeployment) next) := by
  have configured : Config.fromEnv sampleLibrary.toConfigLibrary sampleEnvironment =
      .ok sampleConfig := by decide +kernel
  have version : supportedPolicyVersion GitHub.samplePolicy.version = true := by decide
  have valid : GitHub.samplePolicy.validate = .ok () := by decide +kernel
  have contracted : ¬ GitHub.samplePolicy.version ≠ sampleConfig.expectedPolicyVersion := by decide
  have loaded : loadWithReadinessThreshold sampleTime (es256Format sampleKeys) (some sampleEs256)
      ⟨1000000500000000⟩ (604800 * 1000000000) = .ok sampleCore.keys := rfl
  have label : validDnsLabel "replay" = true := by decide
  suffices reached : ∃ target, (main sampleLibrary sampleEnvironment).Path sampleEvents target ∧
      ∃ next, target = .call (.serve sampleDeployment) next by
    rcases reached with ⟨_, path, next, rfl⟩
    exact ⟨next, path⟩
  unfold main
  apply Program.Path.exists_step_and
  unfold startCore
  rw [configured]
  apply Program.Path.exists_step_and
  simp only [id, version, valid, refused, if_true, Except.map, Program.bind_done, step,
    Program.bindOk_ok, if_neg contracted]
  apply Program.Path.exists_step_and
  apply Program.Path.exists_step_and
  simp only [sampleLibrary, sampleConfig, loaded, Program.bind_done, leaseLedger, label, if_true]
  apply Program.Path.exists_step_and
  apply Program.Path.exists_step_and
  apply Program.Path.exists_step_and
  apply Program.Path.exists_step_and
  apply Program.Path.exists_step_and
  exact ⟨_, .refl _, _, rfl⟩

end OidcExchange.Startup
