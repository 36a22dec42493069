import OidcExchange.GitHub.Policy
import OidcExchange.Jwks.Cache
import OidcExchange.Oidc.Claims
import OidcExchange.Process.Program
import OidcExchange.Replay.Lease

/-!
# The exchange services

The four `exchange` functions as programs over the operations of their
dependencies: verification, TokenReview, the replay ledger, the clock, the
signer and the counters.  Policies are pure and are evaluated in place.  Log
records, which nothing reads back, are left out.
-/

namespace OidcExchange.Service

open OidcExchange.GitHub OidcExchange.Jwks OidcExchange.Oidc OidcExchange.Process
  OidcExchange.Replay OidcExchange.Workload

/-- `ExchangeError`, `OidcExchangeError`, `WorkloadExchangeError` and
`BrowserHop1ExchangeError`, which have the same two values. -/
inductive ExchangeError where
  | unauthorized
  | unavailable
  deriving DecidableEq

inductive BrowserHop1Operation where
  | githubOauthConnect
  | other
  deriving DecidableEq

structure BrowserHop1RequestClaims where
  iss : String
  sub : String
  aud : String
  exp : Int
  iat : Int
  nbf : Int
  jti : String
  email : String
  emailVerified : Bool
  operation : BrowserHop1Operation
  operationId : String
  deriving DecidableEq

def browserHop1IssuerRole : String := "browser-hop1-issuer"

def sourceProvenanceContract : String := "steward.source-provenance/v1"

def workloadIdentityContract : String := "openshell-workload-v1"

def identityBrowserHop1Contract : String := "steward-browser-mcp-hop1-v1"

structure SourceRepository where
  id : String
  ownerId : String
  name : String
  deriving DecidableEq

structure SourceRun where
  id : String
  attempt : Nat
  deriving DecidableEq

structure SourceWorkflow where
  workflowRef : String
  sha : String
  deriving DecidableEq

structure SourceProvenance where
  contractVersion : String
  provider : String
  repository : SourceRepository
  triggeredSha : String
  run : SourceRun
  event : String
  gitRef : String
  actorId : String
  actor : String
  callerWorkflow : SourceWorkflow
  reusableWorkflow : SourceWorkflow
  deriving DecidableEq

structure OutputClaims where
  iss : String
  sub : String
  aud : List String
  exp : Nat
  iat : Nat
  nbf : Nat
  jti : String
  actorLogin : Option String
  email : Option String
  emailVerified : Option Bool
  groups : Option (List String)
  identityContract : String
  sourceProvenance : SourceProvenance
  deriving DecidableEq

/-- `OidcTaskOutputClaims` and `WorkloadTaskOutputClaims`, which have the same
fields. -/
structure TaskOutputClaims where
  iss : String
  sub : String
  aud : List String
  exp : Nat
  iat : Nat
  nbf : Nat
  jti : String
  email : String
  emailVerified : Bool
  groups : List String
  identityContract : String
  deriving DecidableEq

structure WorkloadOutputClaims where
  iss : String
  sub : String
  aud : List String
  exp : Nat
  iat : Nat
  nbf : Nat
  jti : String
  roles : List String
  identityContract : String
  deriving DecidableEq

structure BrowserHop1OutputClaims where
  iss : String
  sub : String
  aud : List String
  exp : Nat
  iat : Nat
  nbf : Nat
  jti : String
  email : String
  emailVerified : Bool
  operation : BrowserHop1Operation
  operationId : String
  identityContract : String
  deriving DecidableEq

/-- The claims that a service signs.  Workload roles are signed by the RSA key
ring, everything else by the ES256 key ring. -/
inductive Document where
  | github (claims : OutputClaims)
  | oidcTask (claims : TaskOutputClaims)
  | workload (claims : WorkloadOutputClaims)
  | workloadTask (claims : TaskOutputClaims)
  | browserHop1 (claims : BrowserHop1OutputClaims)
  deriving DecidableEq

inductive Profile where
  | github
  | oidc
  | workload
  | browserHop1
  deriving DecidableEq

/-- The outcome counters of `Metrics`. -/
inductive Counter where
  | requests
  | issued
  | denied
  | replayed
  | errors
  deriving DecidableEq

/-- The operations that an exchange performs on its dependencies. -/
inductive Op where
  | verify (assertion : String)
  | verifyOidc (assertion : String)
  | review (token audience : String)
  | verifyBrowserHop1 (assertion : String)
  | useOnce (jti : String) (expiresAt : Int)
  | currentTimestamp
  | newUuid
  | sign (document : Document)
  | count (profile : Profile) (counter : Counter)
  deriving DecidableEq

/-- What a dependency returns.  A TokenReview selects a username, a signature is
`none` when signing failed. -/
@[reducible]
def Answer : Op → Type
  | .verify _ => Except VerifyError GitHubClaims
  | .verifyOidc _ => Except VerifyError OidcClaims
  | .review _ _ => Except ReviewError String
  | .verifyBrowserHop1 _ => Option BrowserHop1RequestClaims
  | .useOnce _ _ => Except ReplayError Unit
  | .currentTimestamp => Nat
  | .newUuid => String
  | .sign _ => Option String
  | .count _ _ => Unit

/-- A program of the services. -/
abbrev ServiceProgram (α : Type) :=
  Program Answer α

def verify (assertion : String) : ServiceProgram (Except VerifyError GitHubClaims) :=
  .call (.verify assertion) .done

def verifyOidc (assertion : String) : ServiceProgram (Except VerifyError OidcClaims) :=
  .call (.verifyOidc assertion) .done

def review (token audience : String) : ServiceProgram (Except ReviewError String) :=
  .call (.review token audience) .done

def verifyBrowserHop1 (assertion : String) :
    ServiceProgram (Option BrowserHop1RequestClaims) :=
  .call (.verifyBrowserHop1 assertion) .done

def useOnce (jti : String) (expiresAt : Int) : ServiceProgram (Except ReplayError Unit) :=
  .call (.useOnce jti expiresAt) .done

/-- `get_current_timestamp` -/
def currentTimestamp : ServiceProgram Nat :=
  .call .currentTimestamp .done

/-- `Uuid::new_v4` -/
def newUuid : ServiceProgram String :=
  .call .newUuid .done

def sign (document : Document) : ServiceProgram (Option String) :=
  .call (.sign document) .done

/-- `fetch_add(1)` -/
def count (profile : Profile) (counter : Counter) : ServiceProgram Unit :=
  .call (.count profile counter) .done

/-- Count the outcome and return the error. -/
def refuse (profile : Profile) (counter : Counter) (failure : ExchangeError) :
    ServiceProgram (Except ExchangeError String) := do
  count profile counter
  return .error failure

/-- Sign the document; a failure is an outage. -/
def issue (profile : Profile) (document : Document) :
    ServiceProgram (Except ExchangeError String) := do
  match ← sign document with
  | none => refuse profile .errors .unavailable
  | some token =>
      count profile .issued
      return .ok token

def typedGitSha1 (value : String) : String :=
  "git:sha1:" ++ value

/-- `SourceProvenance::from` -/
def SourceProvenance.ofClaims (claims : GitHubClaims) : SourceProvenance where
  contractVersion := sourceProvenanceContract
  provider := "github"
  repository :=
    { id := claims.repositoryId
      ownerId := claims.repositoryOwnerId
      name := claims.repository }
  triggeredSha := typedGitSha1 claims.sha
  run := { id := claims.runId, attempt := claims.runAttempt }
  event := claims.eventName
  gitRef := claims.gitRef
  actorId := claims.actorId
  actor := claims.actor
  callerWorkflow :=
    { workflowRef := claims.workflowRef, sha := typedGitSha1 claims.workflowSha }
  reusableWorkflow :=
    { workflowRef := claims.jobWorkflowRef, sha := typedGitSha1 claims.jobWorkflowSha }

/-- `ExchangeService` -/
structure ExchangeService where
  policy : Policy
  issuer : String
  outputAudience : String
  tokenTtl : Nat

def ExchangeService.exchange (service : ExchangeService) (assertion : String) :
    ServiceProgram (Except ExchangeError String) := do
  count .github .requests
  match ← verify assertion with
  | .error .invalid => refuse .github .denied .unauthorized
  | .error .keysUnavailable => refuse .github .errors .unavailable
  | .ok claims =>
      match service.policy.authorize claims with
      | .error _ => refuse .github .denied .unauthorized
      | .ok identity =>
          match ← useOnce claims.jti claims.exp with
          | .error .replayed => refuse .github .replayed .unauthorized
          | .error .unavailable => refuse .github .errors .unavailable
          | .error (.configuration _) => refuse .github .errors .unavailable
          | .ok () =>
              let now ← currentTimestamp
              let jti ← newUuid
              issue .github
                (.github
                  { iss := service.issuer
                    sub := identity.subject
                    aud := [service.outputAudience]
                    exp := now + service.tokenTtl
                    iat := now
                    nbf := now - 5
                    jti := jti
                    actorLogin := identity.actorLogin
                    email := identity.email
                    emailVerified := identity.emailVerified
                    groups := identity.groups
                    identityContract := identity.identityContract
                    sourceProvenance := .ofClaims claims })

/-- The groups of a task token. -/
def taskGroups (task : WorkloadTaskBinding) : List String :=
  ["agents.apelogic.ai/service-principal:" ++ task.service,
    "agents.apelogic.ai/canonical-user:" ++ task.ownerCanonicalUserId,
    "agents.apelogic.ai/task-owner:" ++ task.ownerEmail]

/-- `OidcExchangeService`, with the hash function that it calls. -/
structure OidcExchangeService where
  sha256 : List UInt8 → List UInt8
  policy : OidcPolicy
  issuer : String
  outputAudience : String
  tokenTtl : Nat

def OidcExchangeService.exchange (service : OidcExchangeService) (assertion : String) :
    ServiceProgram (Except ExchangeError String) := do
  count .oidc .requests
  match ← verifyOidc assertion with
  | .error .invalid => refuse .oidc .denied .unauthorized
  | .error .keysUnavailable => refuse .oidc .errors .unavailable
  | .ok claims =>
      match service.policy.authorize claims with
      | .error _ => refuse .oidc .denied .unauthorized
      | .ok task =>
          match replayIdentifier service.sha256 claims with
          | none => refuse .oidc .denied .unauthorized
          | some replay =>
              match ← useOnce replay claims.expiresAt with
              | .error .replayed => do
                  count .oidc .replayed
                  refuse .oidc .denied .unauthorized
              | .error .unavailable => refuse .oidc .errors .unavailable
              | .error (.configuration _) => refuse .oidc .errors .unavailable
              | .ok () =>
                  let now ← currentTimestamp
                  let jti ← newUuid
                  issue .oidc
                    (.oidcTask
                      { iss := service.issuer
                        sub := providerScopedSubject service.sha256 claims
                        aud := [service.outputAudience]
                        exp := now + service.tokenTtl
                        iat := now
                        nbf := now - 5
                        jti := jti
                        email := task.ownerEmail
                        emailVerified := true
                        groups := taskGroups task
                        identityContract := identityContract })

/-- `now as i64` -/
def asI64 (now : Nat) : Int :=
  Int.bmod now (2 ^ 64)

/-- `WorkloadExchangeService`, with `insecure_decode::<ProjectedTokenClaims>`. -/
structure WorkloadExchangeService where
  projectedClaims : String → Option ProjectedTokenClaims
  policy : WorkloadPolicy
  issuer : String
  inputAudience : String
  outputAudience : String
  taskOutputAudience : String
  tokenTtl : Nat

/-- The check of the projected claims of a task token. -/
def projectedClaimsValid (claims : ProjectedTokenClaims) (now : Nat) : Bool :=
  !(!boundedNonWhitespace claims.jti 128 || decide (claims.exp ≤ asI64 now))

def WorkloadExchangeService.exchange (service : WorkloadExchangeService) (assertion : String) :
    ServiceProgram (Except ExchangeError String) := do
  count .workload .requests
  match ← review assertion service.inputAudience with
  | .error .invalid => refuse .workload .denied .unauthorized
  | .error .unavailable => refuse .workload .errors .unavailable
  | .ok username =>
      match service.policy.authorize username with
      | .error _ => refuse .workload .denied .unauthorized
      | .ok identity =>
          let now ← currentTimestamp
          match identity.task with
          | some task =>
              match service.projectedClaims assertion with
              | none => refuse .workload .denied .unauthorized
              | some claims =>
                  if projectedClaimsValid claims now = false then
                    refuse .workload .denied .unauthorized
                  else
                    match ← useOnce claims.jti claims.exp with
                    | .error .replayed => refuse .workload .denied .unauthorized
                    | .error .unavailable => refuse .workload .errors .unavailable
                    | .error (.configuration _) => refuse .workload .errors .unavailable
                    | .ok () =>
                        let jti ← newUuid
                        issue .workload
                          (.workloadTask
                            { iss := service.issuer
                              sub := identity.subject
                              aud := [service.taskOutputAudience]
                              exp := now + service.tokenTtl
                              iat := now
                              nbf := now - 5
                              jti := jti
                              email := task.ownerEmail
                              emailVerified := true
                              groups := taskGroups task
                              identityContract := identityContract })
          | none =>
              let jti ← newUuid
              issue .workload
                (.workload
                  { iss := service.issuer
                    sub := identity.subject
                    aud := [service.outputAudience]
                    exp := now + service.tokenTtl
                    iat := now
                    nbf := now - 5
                    jti := jti
                    roles := identity.roles
                    identityContract := workloadIdentityContract })

/-- `BrowserHop1ExchangeService` -/
structure BrowserHop1ExchangeService where
  policy : WorkloadPolicy
  issuer : String
  outputAudience : String
  tokenTtl : Nat

def BrowserHop1ExchangeService.exchange (service : BrowserHop1ExchangeService)
    (workloadUsername assertion : String) :
    ServiceProgram (Except ExchangeError String) := do
  count .browserHop1 .requests
  match service.policy.authorize workloadUsername with
  | .error _ => refuse .browserHop1 .denied .unauthorized
  | .ok caller =>
      if caller.roles.any (fun role => role == browserHop1IssuerRole) = false then
        refuse .browserHop1 .denied .unauthorized
      else
        match ← verifyBrowserHop1 assertion with
        | none => refuse .browserHop1 .denied .unauthorized
        | some request =>
            match ← useOnce ("browser-hop1:" ++ request.jti) request.exp with
            | .error .replayed => refuse .browserHop1 .replayed .unauthorized
            | .error .unavailable => refuse .browserHop1 .errors .unavailable
            | .error (.configuration _) => refuse .browserHop1 .errors .unavailable
            | .ok () =>
                let now ← currentTimestamp
                let jti ← newUuid
                issue .browserHop1
                  (.browserHop1
                    { iss := service.issuer
                      sub := request.sub
                      aud := [service.outputAudience]
                      exp := now + service.tokenTtl
                      iat := now
                      nbf := now - 5
                      jti := jti
                      email := request.email
                      emailVerified := true
                      operation := request.operation
                      operationId := request.operationId
                      identityContract := identityBrowserHop1Contract })

/-- A request to one of the services. -/
inductive Request where
  | github (service : ExchangeService) (assertion : String)
  | oidc (service : OidcExchangeService) (assertion : String)
  | workload (service : WorkloadExchangeService) (assertion : String)
  | browserHop1 (service : BrowserHop1ExchangeService) (workloadUsername assertion : String)

def Request.profile : Request → Profile
  | .github _ _ => .github
  | .oidc _ _ => .oidc
  | .workload _ _ => .workload
  | .browserHop1 _ _ _ => .browserHop1

def Request.exchange : Request → ServiceProgram (Except ExchangeError String)
  | .github service assertion => service.exchange assertion
  | .oidc service assertion => service.exchange assertion
  | .workload service assertion => service.exchange assertion
  | .browserHop1 service workloadUsername assertion => service.exchange workloadUsername assertion

end OidcExchange.Service
