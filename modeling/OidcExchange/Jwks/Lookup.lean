import OidcExchange.Data.Text
import OidcExchange.Jwks.Cache
import OidcExchange.Process.Program

/-!
# Key lookups and refreshes

The key lookups of `GitHubVerifier` and of `ProviderVerifier` and the refreshes
behind them, as programs over the clock, the `RwLock` of the cache, the `Mutex`
of the refresh marks and the HTTP client.  A guard is released where Rust drops
it.  The assignment of a new cache reads the clock before it takes the write
lock, since the assigned value is evaluated first.
-/

namespace OidcExchange.Jwks

open OidcExchange.Process

/-- The signature algorithms that matter for a JWK. -/
inductive KeyAlgorithm where
  | rs256
  | other (name : String)
  deriving DecidableEq

inductive PublicKeyUse where
  | signature
  | encryption
  | other (name : String)
  deriving DecidableEq

/-- One key of a document, with what `DecodingKey::from_jwk` makes of it. -/
structure Jwk (K : Type) where
  keyId : Option String
  keyAlgorithm : Option KeyAlgorithm
  publicKeyUse : Option PublicKeyUse
  decodingKey : Option K

structure DiscoveryDocument where
  issuer : String
  jwksUri : String

/-- The parts of a URL that the verifier reads. -/
structure Url where
  scheme : String
  host : Option String
  portOrKnownDefault : Option Nat
  username : String
  password : Option String
  query : Option String
  fragment : Option String

/-- The head of an HTTP response. -/
structure Response where
  status : Nat
  contentLength : Option Nat

/-- The library functions behind a refresh. -/
structure JwksLibrary (K : Type) where
  parseJwks : List UInt8 → Option (List (Jwk K))
  parseDiscovery : List UInt8 → Option DiscoveryDocument
  parseUrl : String → Option Url

/-- A verifier with its hard-staleness bound: the GitHub verifier with the URL of
the JWKS, or the verifier of one provider. -/
inductive Verifier where
  | github (jwksUrl : String) (maxStaleness : Nat)
  | provider (issuer : String) (maxStaleness : Nat)

def Verifier.maxStaleness : Verifier → Nat
  | .github _ maxStaleness => maxStaleness
  | .provider _ maxStaleness => maxStaleness

/-- The operations of lookups and refreshes.  `startSoft` and `startForced` set
the attempt marks. -/
inductive Op (K : Type) where
  | utcNow
  | readLock
  | readUnlock
  | lock
  | unlock
  | startSoft (now : Int)
  | startForced (now : Int)
  | setForcedFailed (failed : Bool)
  | send (url : String)
  | readBody
  | install (cache : KeyCache K)
  | countFailure

@[reducible]
def Answer (K : Type) : Op K → Type
  | .utcNow => Int
  | .readLock => KeyCache K
  | .lock => RefreshState
  | .send _ => Option Response
  | .readBody => Option (List UInt8)
  | _ => Unit

variable {K : Type}

abbrev KeyProgram (K α : Type) :=
  Program (Answer K) α

/-- `Utc::now().timestamp()` -/
def utcNow : KeyProgram K Int :=
  .call .utcNow .done

def readLock : KeyProgram K (KeyCache K) :=
  .call .readLock .done

def readUnlock : KeyProgram K Unit :=
  .call .readUnlock .done

def lock : KeyProgram K RefreshState :=
  .call .lock .done

def unlock : KeyProgram K Unit :=
  .call .unlock .done

def startSoft (now : Int) : KeyProgram K Unit :=
  .call (.startSoft now) .done

def startForced (now : Int) : KeyProgram K Unit :=
  .call (.startForced now) .done

def setForcedFailed (failed : Bool) : KeyProgram K Unit :=
  .call (.setForcedFailed failed) .done

def send (url : String) : KeyProgram K (Option Response) :=
  .call (.send url) .done

/-- The body of the response, all chunks together. -/
def readBody : KeyProgram K (Option (List UInt8)) :=
  .call .readBody .done

def install (cache : KeyCache K) : KeyProgram K Unit :=
  .call (.install cache) .done

def countFailure : KeyProgram K Unit :=
  .call .countFailure .done

/-- `error_for_status` refuses 4xx and 5xx. -/
def errorForStatus (status : Nat) : Bool :=
  decide (400 ≤ status) && decide (status < 600)

/-- The usable RS256 signature keys of a document; a later key replaces an earlier
one of the same ID. -/
def usableKeys (document : List (Jwk K)) : AList fun _ : String => K :=
  document.foldl
    (fun keys jwk =>
      match jwk.keyId with
      | none => keys
      | some kid =>
          if jwk.keyAlgorithm = some .rs256 ∧ jwk.publicKeyUse = some .signature then
            match jwk.decodingKey with
            | none => keys
            | some key => keys.insert kid key
          else
            keys)
    ∅

/-- The end of `refresh_now`: a document without usable keys is refused. -/
def installKeys (document : List (Jwk K)) : KeyProgram K (Except VerifyError Unit) := do
  let keys := usableKeys document
  if keys.entries.isEmpty then
    return .error .keysUnavailable
  else
    let now ← utcNow
    install ⟨keys, now⟩
    return .ok ()

/-- A response that is not an error. -/
def sendOk (url : String) : KeyProgram K (Except VerifyError Response) := do
  match ← send url with
  | none => return .error .keysUnavailable
  | some response =>
      if errorForStatus response.status then
        return .error .keysUnavailable
      else
        return .ok response

/-- A body that `parse` decodes. -/
def decodeBody {α : Type} (maximum : Option Nat) (parse : List UInt8 → Option α) :
    KeyProgram K (Except VerifyError α) := do
  match ← readBody with
  | none => return .error .keysUnavailable
  | some body =>
      if maximum.any fun maximum => decide (body.length > maximum) then
        return .error .keysUnavailable
      else
        match parse body with
        | none => return .error .keysUnavailable
        | some value => return .ok value

namespace GitHubVerifier

def refreshNow (library : JwksLibrary K) (jwksUrl : String) :
    KeyProgram K (Except VerifyError Unit) :=
  (sendOk jwksUrl).bindOk fun _ =>
    (decodeBody none library.parseJwks).bindOk installKeys

end GitHubVerifier

def maxDiscoveryBytes : Nat := 64 * 1024

def maxJwksBytes : Nat := 1024 * 1024

/-- `fetch_json` -/
def fetchJson {α : Type} (uri : String) (maximum : Nat) (parse : List UInt8 → Option α) :
    KeyProgram K (Except VerifyError α) :=
  (sendOk uri).bindOk fun response =>
    if response.contentLength.any fun length => decide (length > maximum) then
      return .error .keysUnavailable
    else
      decodeBody (some maximum) parse

def validIssuerEndpoint (library : JwksLibrary K) (value : String) : Bool :=
  decide (Text.len value ≤ 2048) &&
    (library.parseUrl value).any fun url =>
      url.scheme == "https" && url.host.isSome && Text.isEmpty url.username &&
        url.password.isNone && url.query.isNone && url.fragment.isNone

def sameOrigin (library : JwksLibrary K) (left right : String) : Bool :=
  match library.parseUrl left, library.parseUrl right with
  | some left, some right =>
      left.scheme == right.scheme && left.host == right.host &&
        left.portOrKnownDefault == right.portOrKnownDefault
  | _, _ => false

def validDiscovery (library : JwksLibrary K) (configuredIssuer : String)
    (discovery : DiscoveryDocument) : Bool :=
  discovery.issuer == configuredIssuer && validIssuerEndpoint library discovery.jwksUri &&
    sameOrigin library configuredIssuer discovery.jwksUri

namespace ProviderVerifier

def refreshNow (library : JwksLibrary K) (issuer : String) :
    KeyProgram K (Except VerifyError Unit) :=
  (fetchJson (issuer ++ "/.well-known/openid-configuration") maxDiscoveryBytes
      library.parseDiscovery).bindOk fun discovery =>
    if validDiscovery library issuer discovery = false then
      return .error .invalid
    else
      (fetchJson discovery.jwksUri maxJwksBytes library.parseJwks).bindOk installKeys

end ProviderVerifier

namespace GitHubVerifier

/-- The method `cache_age_seconds`. -/
def cacheAge : KeyProgram K Nat := do
  let cache ← readLock
  let now ← utcNow
  readUnlock
  return cacheAgeSeconds cache.fetchedAt now

def recordRefreshFailure : KeyProgram K Unit := do
  countFailure
  let _ ← cacheAge
  return ()

def runRefresh (library : JwksLibrary K) (jwksUrl : String) :
    KeyProgram K (Except VerifyError Unit) := do
  match ← refreshNow library jwksUrl with
  | .ok () => return .ok ()
  | .error failure =>
      recordRefreshFailure
      return .error failure

def warmUp (library : JwksLibrary K) (jwksUrl : String) :
    KeyProgram K (Except VerifyError Unit) := do
  let _ ← lock
  let result ← runRefresh library jwksUrl
  unlock
  return result

def refreshSoftIfDue (library : JwksLibrary K) (jwksUrl : String) :
    KeyProgram K (Except VerifyError Unit) := do
  let refresh ← lock
  let now ← utcNow
  let age ← cacheAge
  if age < jwksSoftRefreshSeconds ∨ attemptedRecently refresh.lastSoftAttempt now = true then
    unlock
    return .ok ()
  else
    startSoft now
    let result ← runRefresh library jwksUrl
    unlock
    return result

def refreshForUnknownKidIfDue (library : JwksLibrary K) (jwksUrl kid : String) :
    KeyProgram K (Except VerifyError Unit) := do
  let refresh ← lock
  let now ← utcNow
  let cache ← readLock
  readUnlock
  if kid ∈ cache.keys then
    unlock
    return .ok ()
  else if attemptedRecently refresh.lastForcedAttempt now = true then
    unlock
    return if refresh.lastForcedFailed then .error .keysUnavailable else .ok ()
  else
    startForced now
    let result ← runRefresh library jwksUrl
    setForcedFailed (match result with | .ok () => false | .error _ => true)
    unlock
    return result

/-- What the last look at the cache decides. -/
def lastLook (maxStaleness : Nat) (kid : String) (cache : KeyCache K) (now : Int)
    (refreshResult : Except VerifyError Unit) : Except VerifyError K :=
  if cacheIsUsable cache now maxStaleness then
    match cache.keys.lookup kid with
    | some key => .ok key
    | none =>
        match refreshResult with
        | .ok () => .error .invalid
        | .error failure => .error failure
  else
    match refreshResult with
    | .ok () => .error .keysUnavailable
    | .error failure => .error failure

def key (library : JwksLibrary K) (jwksUrl : String) (maxStaleness : Nat) (kid : String) :
    KeyProgram K (Except VerifyError K) := do
  let cache ← readLock
  let now ← utcNow
  match (if cacheIsUsable cache now maxStaleness then cache.keys.lookup kid else none) with
  | some key =>
      readUnlock
      return .ok key
  | none =>
      readUnlock
      if kid ∈ cache.keys then
        return .error .keysUnavailable
      else
        let refreshResult ← refreshForUnknownKidIfDue library jwksUrl kid
        let cache ← readLock
        let now ← utcNow
        readUnlock
        return lastLook maxStaleness kid cache now refreshResult

end GitHubVerifier

namespace ProviderVerifier

def refreshForUnknownKidIfDue (library : JwksLibrary K) (issuer : String) :
    KeyProgram K (Except VerifyError Unit) := do
  let refresh ← lock
  let now ← utcNow
  if attemptedRecently refresh.lastForcedAttempt now = true then
    unlock
    return .error .keysUnavailable
  else
    startForced now
    let result ← refreshNow library issuer
    unlock
    return result

def refreshSoftIfDue (library : JwksLibrary K) (issuer : String) :
    KeyProgram K (Except VerifyError Unit) := do
  let refresh ← lock
  let now ← utcNow
  let cache ← readLock
  readUnlock
  if cacheAgeSeconds cache.fetchedAt now < jwksSoftRefreshSeconds ∨
      attemptedRecently refresh.lastSoftAttempt now = true then
    unlock
    return .ok ()
  else
    startSoft now
    let result ← refreshNow library issuer
    unlock
    return result

/-- What the last look at the cache decides. -/
def lastLook (maxStaleness : Nat) (kid : String) (cache : KeyCache K) (now : Int) :
    Except VerifyError K :=
  if cacheIsUsable cache now maxStaleness = false then
    .error .keysUnavailable
  else
    match cache.keys.lookup kid with
    | some key => .ok key
    | none => .error .invalid

def key (library : JwksLibrary K) (issuer : String) (maxStaleness : Nat) (kid : String) :
    KeyProgram K (Except VerifyError K) := do
  let now ← utcNow
  let cache ← readLock
  match (if cacheIsUsable cache now maxStaleness then cache.keys.lookup kid else none) with
  | some key =>
      readUnlock
      return .ok key
  | none =>
      readUnlock
      if cacheIsUsable cache now maxStaleness = false ∧ cache.keys.entries.isEmpty = false then
        return .error .keysUnavailable
      else
        (refreshForUnknownKidIfDue library issuer).bindOk fun _ => do
          let cache ← readLock
          let now ← utcNow
          readUnlock
          return lastLook maxStaleness kid cache now

end ProviderVerifier

/-- The tasks of a verifier: a lookup, an iteration of the refresh loop, or the
warm-up.  A provider has no warm-up of its own; its loop starts with a refresh. -/
inductive Job where
  | lookup (kid : String)
  | softRefresh
  | warmUp

/-- The program of a task; a refresh returns no key. -/
def Job.program (library : JwksLibrary K) (verifier : Verifier) (job : Job) :
    KeyProgram K (Except VerifyError (Option K)) :=
  match verifier, job with
  | .github jwksUrl maxStaleness, .lookup kid =>
      (GitHubVerifier.key library jwksUrl maxStaleness kid).bindOk fun key =>
        return .ok (some key)
  | .github jwksUrl _, .softRefresh =>
      (GitHubVerifier.refreshSoftIfDue library jwksUrl).bindOk fun _ => return .ok none
  | .github jwksUrl _, .warmUp =>
      (GitHubVerifier.warmUp library jwksUrl).bindOk fun _ => return .ok none
  | .provider issuer maxStaleness, .lookup kid =>
      (ProviderVerifier.key library issuer maxStaleness kid).bindOk fun key =>
        return .ok (some key)
  | .provider issuer _, _ =>
      (ProviderVerifier.refreshSoftIfDue library issuer).bindOk fun _ => return .ok none

end OidcExchange.Jwks
