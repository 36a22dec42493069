import OidcExchange.Http.Exposition
import OidcExchange.Http.Message
import OidcExchange.Keys.Publication
import OidcExchange.Service.Exchange

/-!
# The handlers

The handlers of `src/http.rs` as programs over the operations of the exchange services, the
readiness checks of their dependencies and the readings of the metrics.
-/

namespace OidcExchange.Http

open OidcExchange.GitHub OidcExchange.Jwks OidcExchange.Keys OidcExchange.Process
  OidcExchange.Replay OidcExchange.Service OidcExchange.Workload

/-- The operations of the handlers. -/
inductive Op where
  | service (op : Service.Op)
  | utcNow
  /-- `GitHubVerifier::check_ready` -/
  | checkVerifier
  /-- `ReplayLedger::check_ready`, of the ledger of this service. -/
  | checkLedger (profile : Profile)
  | load (profile : Profile) (counter : Counter)
  | refreshFailures
  | cacheAgeSeconds
  | durationSnapshot
  | readyProviderCount
  | providerReadiness

@[reducible]
def Answer : Op → Type
  | .service op => Service.Answer op
  | .utcNow => DateTime
  | .checkVerifier => Except VerifyError Unit
  | .checkLedger _ => Except ReplayError Unit
  | .load _ _ => Nat
  | .refreshFailures => Nat
  | .cacheAgeSeconds => Nat
  | .durationSnapshot => Durations
  | .readyProviderCount => Nat
  | .providerReadiness => List (String × Bool)

abbrev HttpProgram (α : Type) :=
  Program Answer α

/-- An exchange as part of a handler. -/
def serviceProgram {α : Type} (program : ServiceProgram α) : HttpProgram α :=
  program.interpret fun op => .call (.service op) .done

def utcNow : HttpProgram DateTime :=
  .call .utcNow .done

def checkVerifier : HttpProgram (Except VerifyError Unit) :=
  .call .checkVerifier .done

def checkLedger (profile : Profile) : HttpProgram (Except ReplayError Unit) :=
  .call (.checkLedger profile) .done

def load (profile : Profile) (counter : Counter) : HttpProgram Nat :=
  .call (.load profile counter) .done

def refreshFailures : HttpProgram Nat :=
  .call .refreshFailures .done

def cacheAgeSeconds : HttpProgram Nat :=
  .call .cacheAgeSeconds .done

def durationSnapshot : HttpProgram Durations :=
  .call .durationSnapshot .done

def readyProviderCount : HttpProgram Nat :=
  .call .readyProviderCount .done

def providerReadiness : HttpProgram (List (String × Bool)) :=
  .call .providerReadiness .done

/-- The workload service with its key rings. -/
structure WorkloadState (E R : Type) where
  service : WorkloadExchangeService
  keys : KeyRing R
  taskKeys : KeyRing E

/-- The generic OIDC service; its verifier has this many providers. -/
structure OidcState where
  service : OidcExchangeService
  providerCount : Nat

structure BrowserHop1State (E : Type) where
  service : BrowserHop1ExchangeService
  keys : KeyRing E

/-- `AppState`; `audience` is the one of the GitHub verifier. -/
structure AppState (E R : Type) where
  service : ExchangeService
  audience : String
  keys : KeyRing E
  workload : Option (WorkloadState E R)
  oidc : Option OidcState

structure WorkloadAppState (E R : Type) where
  workload : WorkloadState E R
  browserHop1 : Option (BrowserHop1State E)

/-- What the handlers use of the libraries: the signing library, the orders in which the key
maps are iterated, and the printing of seconds. -/
structure Platform (E R C : Type) where
  library : SigningLibrary E R C
  iterate : KeyRing E → List (Sigma fun _ : String => E)
  iterateRsa : KeyRing R → List (Sigma fun _ : String => R)
  seconds : Nat → String

section Handlers

variable {E R C : Type}

/-- The response to the result of an exchange, the same in all four handlers. -/
def exchangeResponse (tokenTtl : Nat) : Except ExchangeError String → Response
  | .ok token => tokenResponse token tokenTtl
  | .error .unauthorized => oauthError 401 "invalid_token"
  | .error .unavailable => oauthError 503 "temporarily_unavailable"

def exchange (state : AppState E R) (request : Request) : HttpProgram Response :=
  match bearerAssertion request.headers with
  | none => return oauthError 401 "invalid_token"
  | some assertion => do
      let result ← serviceProgram (state.service.exchange assertion)
      return exchangeResponse state.service.tokenTtl result

def workloadExchange (state : WorkloadAppState E R) (request : Request) : HttpProgram Response :=
  if request.body.isEmpty = false then
    return oauthError 400 "invalid_request"
  else
    match bearerAssertion request.headers with
    | none => return oauthError 401 "invalid_token"
    | some assertion => do
        let result ← serviceProgram (state.workload.service.exchange assertion)
        return exchangeResponse state.workload.service.tokenTtl result

/-- `std::str::from_utf8` -/
def fromUtf8 (bytes : List UInt8) : Option String :=
  String.fromUTF8? ⟨bytes.toArray⟩

def browserHop1Exchange (state : WorkloadAppState E R) (request : Request) :
    HttpProgram Response :=
  match state.browserHop1 with
  | none => return .ofStatus 404
  | some browserHop1 =>
      if (request.headers.get "content-type").bind headerText ≠ some "application/jwt" then
        return oauthError 400 "invalid_request"
      else
        match bearerAssertion request.headers with
        | none => return oauthError 401 "invalid_token"
        | some workloadAssertion =>
            match (fromUtf8 request.body).filter fun assertion => !Text.isEmpty assertion with
            | none => return oauthError 400 "invalid_request"
            | some assertion => do
                match ← serviceProgram
                    (review workloadAssertion state.workload.service.inputAudience) with
                | .error .invalid => return oauthError 401 "invalid_token"
                | .error .unavailable => return oauthError 503 "temporarily_unavailable"
                | .ok username => do
                    let result ← serviceProgram (browserHop1.service.exchange username assertion)
                    return exchangeResponse browserHop1.service.tokenTtl result

def discovery (state : AppState E R) : HttpProgram Response :=
  return {
    status := 200
    headers := []
    body := .discovery
      { issuer := state.service.issuer
        jwksUri := state.service.issuer ++ "/jwks.json"
        tokenEndpoint := state.service.issuer ++ "/v1/exchange"
        githubOidcExchangeEndpoint := state.service.issuer ++ "/v1/exchange"
        githubOidcAudience := state.audience
        identityContractsSupported := [identityContract, sourceAuthIdentityContract]
        policyVersionsSupported := [policyVersion, sourceAuthPolicyVersion]
        responseTypesSupported := ["id_token"]
        subjectTypesSupported := ["public"]
        idTokenSigningAlgValuesSupported :=
          if state.workload.isSome then ["ES256", "RS256"] else ["ES256"]
        genericOidcExchangeEndpoint :=
          if state.oidc.isSome then some (state.service.issuer ++ "/v1/oidc/exchange")
          else none } }

/-- The handler of `/jwks.json`. -/
def jwks (platform : Platform E R C) (state : AppState E R) : HttpProgram Response :=
  return {
    status := 200
    headers := []
    body := .jwks (jwksDocument platform.library (platform.iterate state.keys)
      (state.workload.map fun workload => platform.iterateRsa workload.keys)) }

def noContent : HttpProgram Response :=
  return .ofStatus 204

/-- One check of a readiness handler. -/
def failedCheck (failed : Bool) (name : String) (failedChecks : List String) : List String :=
  if failed then failedChecks ++ [name] else failedChecks

def isErr {ε α : Type} : Except ε α → Bool
  | .error _ => true
  | .ok _ => false

def readiness (state : AppState E R) : HttpProgram Response := do
  let now ← utcNow
  let failedChecks := failedCheck (!state.keys.isReadyAt now) "github_signing_key" []
  let verifier ← checkVerifier
  let failedChecks := failedCheck (isErr verifier) "github_jwks" failedChecks
  let ledger ← checkLedger .github
  let failedChecks := failedCheck (isErr ledger) "replay_ledger" failedChecks
  let failedChecks :=
    failedCheck (state.workload.any fun workload => !workload.keys.isReadyAt now)
      "workload_signing_key" failedChecks
  return readinessResponse failedChecks

def workloadReadiness (state : WorkloadAppState E R) : HttpProgram Response := do
  let now ← utcNow
  let failedChecks := failedCheck (!state.workload.keys.isReadyAt now) "workload_signing_key" []
  let failedChecks :=
    failedCheck (!state.workload.taskKeys.isReadyAt now) "task_signing_key" failedChecks
  let ledger ← checkLedger .workload
  let failedChecks := failedCheck (isErr ledger) "replay_ledger" failedChecks
  let failedChecks :=
    failedCheck (state.browserHop1.any fun browser => !browser.keys.isReadyAt now)
      "browser_signing_key" failedChecks
  return readinessResponse failedChecks

/-- The metrics of the generic OIDC service. -/
def appendOidcMetrics (oidc : OidcState) (output : String) : HttpProgram String := do
  let requests ← load .oidc .requests
  let issued ← load .oidc .issued
  let denied ← load .oidc .denied
  let replayed ← load .oidc .replayed
  let errors ← load .oidc .errors
  let output := appendMetric output "github_oidc_exchange_generic_oidc_requests_total"
    "Generic OIDC exchange requests received." "counter" requests
  let output := appendMetric output "github_oidc_exchange_generic_oidc_issued_total"
    "Generic OIDC exchanges that issued a token." "counter" issued
  let output := appendMetric output "github_oidc_exchange_generic_oidc_denied_total"
    "Generic OIDC exchanges denied with an authentication response." "counter" denied
  let output := appendMetric output "github_oidc_exchange_generic_oidc_replayed_total"
    "Generic OIDC assertions denied because their replay identity was already used." "counter"
    replayed
  let output := appendMetric output "github_oidc_exchange_generic_oidc_errors_total"
    "Generic OIDC exchanges that failed because a dependency was unavailable." "counter" errors
  let output := appendMetric output "github_oidc_exchange_generic_oidc_providers"
    "Configured generic OIDC providers." "gauge" oidc.providerCount
  let ready ← readyProviderCount
  let output := appendMetric output "github_oidc_exchange_generic_oidc_ready_providers"
    "Generic OIDC providers with a usable signing-key set." "gauge" ready
  let readiness ← providerReadiness
  return appendProviderReadiness output readiness

/-- The metrics of the workload service. -/
def appendWorkloadMetrics (now : DateTime) (workload : WorkloadState E R) (output : String) :
    HttpProgram String := do
  let requests ← load .workload .requests
  let issued ← load .workload .issued
  let denied ← load .workload .denied
  let errors ← load .workload .errors
  let output := appendMetric output "github_oidc_exchange_workload_requests_total"
    "Kubernetes workload exchange requests received." "counter" requests
  let output := appendMetric output "github_oidc_exchange_workload_issued_total"
    "Kubernetes workload exchanges that issued a token." "counter" issued
  let output := appendMetric output "github_oidc_exchange_workload_denied_total"
    "Kubernetes workload exchanges denied with an authentication response." "counter" denied
  let output := appendMetric output "github_oidc_exchange_workload_errors_total"
    "Kubernetes workload exchanges that failed because a dependency was unavailable." "counter"
    errors
  return appendMetric output "github_oidc_exchange_workload_signing_key_seconds_until_expiry"
    "Seconds until the active workload exchange signing key expires." "gauge"
    (workload.keys.currentKeySecondsUntilExpiry now)

/-- The metrics of a service that may be disabled. -/
def appendIfEnabled {σ : Type} (append : σ → String → HttpProgram String) :
    Option σ → String → HttpProgram String
  | none, output => return output
  | some service, output => append service output

def metrics (platform : Platform E R C) (state : AppState E R) : HttpProgram Response := do
  let now ← utcNow
  let requests ← load .github .requests
  let output := appendMetric "" "github_oidc_exchange_requests_total"
    "GitHub OIDC exchange requests received." "counter" requests
  let issued ← load .github .issued
  let output := appendMetric output "github_oidc_exchange_issued_total"
    "GitHub OIDC exchanges that issued a token." "counter" issued
  let denied ← load .github .denied
  let output := appendMetric output "github_oidc_exchange_denied_total"
    "GitHub OIDC exchanges denied with an authentication response." "counter" denied
  let replayed ← load .github .replayed
  let output := appendMetric output "github_oidc_exchange_replayed_total"
    "GitHub OIDC assertions denied because their JTI was already used." "counter" replayed
  let errors ← load .github .errors
  let output := appendMetric output "github_oidc_exchange_errors_total"
    "GitHub OIDC exchanges that failed because a dependency was unavailable." "counter" errors
  let failures ← refreshFailures
  let output := appendMetric output "github_oidc_exchange_jwks_refresh_failures_total"
    "GitHub JWKS refresh attempts that failed." "counter" failures
  let age ← cacheAgeSeconds
  let output := appendMetric output "github_oidc_exchange_jwks_age_seconds"
    "Seconds since the last successful GitHub JWKS refresh." "gauge" age
  let output := appendMetric output "github_oidc_exchange_signing_key_seconds_until_expiry"
    "Seconds until the active GitHub exchange signing key expires." "gauge"
    (state.keys.currentKeySecondsUntilExpiry now)
  let durations ← durationSnapshot
  let output := appendDurationHistogram platform.seconds output durations
  let output ← appendIfEnabled appendOidcMetrics state.oidc output
  let output ← appendIfEnabled (appendWorkloadMetrics now) state.workload output
  return {
    status := 200
    headers := []
    body := .metrics output }

end Handlers

end OidcExchange.Http
