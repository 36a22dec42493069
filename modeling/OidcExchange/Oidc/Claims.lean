import Mathlib.Data.List.AList
import OidcExchange.Data.DateTime
import OidcExchange.Workload.Policy

/-!
# Claims and bindings of generic OIDC assertions

The claims that `src/oidc.rs` keeps of a verified assertion, the bindings that
select a task for them, and the identifiers that are hashed from them.
-/

namespace OidcExchange.Oidc

open OidcExchange.Workload

/-- `serde_json::Value`.  An integer lies in the range of `i64` or of `u64`;
nothing reads the value of any other number. -/
inductive Json where
  | null
  | bool (value : Bool)
  | integer (value : Int)
  | float
  | string (value : String)
  | array (values : List Json)
  | object (entries : List (String × Json))

/-- `Value::as_str` -/
def Json.asStr : Json → Option String
  | .string value => some value
  | _ => none

structure OidcBinding where
  claims : AList fun _ : String => String
  task : WorkloadTaskBinding

structure OidcProviderPolicy where
  issuer : String
  audience : String
  bindings : List OidcBinding

structure OidcPolicy where
  version : String
  providers : List OidcProviderPolicy

inductive OidcPolicyError where
  | invalid (message : String)
  | unauthorized
  deriving DecidableEq

structure OidcClaims where
  issuer : String
  subject : String
  expiresAt : Int
  issuedAt : Int
  jti : Option String
  buildNumber : Option Nat
  values : AList fun _ : String => Json

/-- Every claim of the binding is present as exactly that string. -/
def OidcBinding.accepts (binding : OidcBinding) (claims : OidcClaims) : Bool :=
  binding.claims.entries.all fun entry =>
    ((claims.values.lookup entry.1).bind Json.asStr) == some entry.2

def OidcPolicy.authorize (policy : OidcPolicy) (claims : OidcClaims) :
    Except OidcPolicyError WorkloadTaskBinding :=
  match policy.providers.find? fun provider => provider.issuer == claims.issuer with
  | none => .error .unauthorized
  | some provider =>
      match provider.bindings.filter fun binding => binding.accepts claims with
      | [binding] => .ok binding.task
      | _ => .error .unauthorized

/-- `u64::to_be_bytes` -/
def toBeBytes (value : Nat) : List UInt8 :=
  [7, 6, 5, 4, 3, 2, 1, 0].map fun place => UInt8.ofNat (value / 256 ^ place)

/-- The bytes that `write_replay_component` adds to the hasher. -/
def replayComponent (value : String) : List UInt8 :=
  toBeBytes (Text.len value) ++ value.toUTF8.data.toList

/-- `format!("{:x}", hasher.finalize())` -/
def hexDigest (sha256 : List UInt8 → List UInt8) (bytes : List UInt8) : String :=
  String.ofList ((sha256 bytes).flatMap Text.hexByte)

def replayIdentifier (sha256 : List UInt8 → List UInt8) (claims : OidcClaims) :
    Option String :=
  match claims.jti with
  | some jti =>
      some ("oidc-" ++ hexDigest sha256
        (replayComponent claims.issuer ++ replayComponent "jti" ++ replayComponent jti))
  | none =>
      match claims.buildNumber with
      | none => none
      | some buildNumber =>
          some ("oidc-" ++ hexDigest sha256
            (replayComponent claims.issuer ++ replayComponent "jenkins-build" ++
              replayComponent claims.subject ++ replayComponent (toString claims.issuedAt) ++
              replayComponent (Nat.repr buildNumber)))

def providerScopedSubject (sha256 : List UInt8 → List UInt8) (claims : OidcClaims) : String :=
  "oidc:" ++ hexDigest sha256
    (replayComponent claims.issuer ++ replayComponent claims.subject)

end OidcExchange.Oidc
