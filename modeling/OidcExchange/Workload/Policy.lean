import Mathlib.Data.List.Sort
import OidcExchange.Data.Text

/-!
# Workload policies

The identities of `src/workload.rs` that a TokenReview username may select, and
the task that an identity may be bound to.
-/

namespace OidcExchange.Workload

structure WorkloadTaskBinding where
  service : String
  ownerCanonicalUserId : String
  ownerEmail : String
  deriving DecidableEq

structure WorkloadIdentity where
  username : String
  subject : String
  roles : List String
  task : Option WorkloadTaskBinding
  deriving DecidableEq

structure WorkloadPolicy where
  version : String
  identities : List WorkloadIdentity

inductive WorkloadPolicyError where
  | invalid (message : String)
  | unauthorized
  deriving DecidableEq

/-- The identity with exactly this username, with its roles sorted. -/
def WorkloadPolicy.authorize (policy : WorkloadPolicy) (username : String) :
    Except WorkloadPolicyError WorkloadIdentity :=
  match policy.identities.filter fun identity => identity.username == username with
  | [identity] => .ok { identity with roles := identity.roles.insertionSort (· ≤ ·) }
  | _ => .error .unauthorized

def boundedNonWhitespace (value : String) (maximum : Nat) : Bool :=
  !Text.isEmpty value && decide (Text.len value ≤ maximum) &&
    !Text.any value Text.isWhitespace

/-- `ProjectedTokenClaims`, the claims that are read from a projected token. -/
structure ProjectedTokenClaims where
  jti : String
  exp : Int
  deriving DecidableEq

inductive ReviewError where
  | invalid
  | unavailable
  deriving DecidableEq

end OidcExchange.Workload
