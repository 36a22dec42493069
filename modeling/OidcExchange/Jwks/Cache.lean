import Mathlib.Data.List.AList
import OidcExchange.Data.DateTime

/-!
# Cached verification keys

The key cache and the refresh marks that `GitHubVerifier` and each
`ProviderVerifier` keep, with the age tests on them.  The two verifiers define
them alike; only the GitHub verifier reads `last_forced_failed`.
-/

namespace OidcExchange.Jwks

/-- `VerifyError` and `OidcVerifyError`; the texts of an outage only reach the
log. -/
inductive VerifyError where
  | invalid
  | keysUnavailable
  deriving DecidableEq

/-- `KeyCache`; it starts empty with `fetched_at` 0. -/
structure KeyCache (K : Type) where
  keys : AList fun _ : String => K
  fetchedAt : Int

/-- `RefreshState`; the marks are 0 until the first attempt. -/
structure RefreshState where
  lastSoftAttempt : Int
  lastForcedAttempt : Int
  lastForcedFailed : Bool

def KeyCache.empty {K : Type} : KeyCache K where
  keys := ∅
  fetchedAt := 0

def RefreshState.start : RefreshState where
  lastSoftAttempt := 0
  lastForcedAttempt := 0
  lastForcedFailed := false

def jwksRefreshRetrySeconds : Int := 30

def jwksSoftRefreshSeconds : Nat := 300

/-- `u64::MAX` -/
def u64Max : Nat := 18446744073709551615

def attemptedRecently (lastAttempt now : Int) : Bool :=
  decide (lastAttempt > 0) &&
    decide (saturatingSub now lastAttempt < jwksRefreshRetrySeconds)

def cacheAgeSeconds (fetchedAt now : Int) : Nat :=
  if fetchedAt ≤ 0 then u64Max else (saturatingSub now fetchedAt).toNat

def cacheIsUsable {K : Type} (cache : KeyCache K) (now : Int) (maxStaleness : Nat) : Bool :=
  !cache.keys.entries.isEmpty && decide (cacheAgeSeconds cache.fetchedAt now ≤ maxStaleness)

end OidcExchange.Jwks
