import OidcExchange.GitHub.Verify
import OidcExchange.Service.Exchange

/-!
# Verification of browser assertions

`StewardBrowserAssertionVerifier::verify` of `src/browser_hop1.rs`.  Its keys are
read once, when it is loaded, so it waits for nothing; it reads the clock when the
token library validates the assertion and once more for its own checks.
-/

namespace OidcExchange.Browser

open OidcExchange.GitHub OidcExchange.Service

def maxAssertionBytes : Nat := 8 * 1024

def maxAssertionLifetimeSeconds : Int := 60

def clockSkewSeconds : Int := 5

def operationId (value : String) : Bool :=
  match Text.stripPrefix value "op_" with
  | none => false
  | some suffix => Text.len suffix == 32 && Text.all suffix Text.isLowerHex

/-- The functions of `jsonwebtoken` with keys `K`: `accepts` is the verdict of its
signature check and validation at a clock second for an issuer and an audience. -/
structure TokenLibrary (K : Type) where
  decodeHeader : String → Option Header
  accepts : Int → String → String → String → K → Bool
  payload : String → Option BrowserHop1RequestClaims

structure StewardBrowserAssertionVerifier (K : Type) where
  issuer : String
  audience : String
  keys : AList fun _ : String => K

variable {K : Type}

/-- `decode::<BrowserHop1RequestClaims>` at the clock second `second`. -/
def TokenLibrary.decode (tokens : TokenLibrary K) (second : Int)
    (issuer audience assertion : String) (key : K) : Option BrowserHop1RequestClaims :=
  if tokens.accepts second issuer audience assertion key then tokens.payload assertion else none

/-- The checks of `verify` on the decoded claims at the clock second `now`. -/
def claimsValid (issuer audience : String) (now : Int) (claims : BrowserHop1RequestClaims) :
    Bool :=
  match checkedSub claims.exp claims.iat with
  | none => false
  | some lifetime =>
      !(claims.iss != issuer || claims.aud != audience || decide (lifetime ≤ 0) ||
        decide (lifetime > maxAssertionLifetimeSeconds) ||
        decide (claims.iat > now + clockSkewSeconds) || decide (claims.nbf > claims.iat) ||
        !canonicalUserId claims.sub || !canonicalEmail claims.email || !claims.emailVerified ||
        Text.isEmpty claims.jti || !operationId claims.operationId ||
        claims.operation != .githubOauthConnect)

/-- `verify` when the library validates at `second` and the own checks run at `now`. -/
def StewardBrowserAssertionVerifier.verify (tokens : TokenLibrary K)
    (verifier : StewardBrowserAssertionVerifier K) (second now : Int) (assertion : String) :
    Option BrowserHop1RequestClaims :=
  if Text.isEmpty assertion || decide (Text.len assertion > maxAssertionBytes) then
    none
  else
    match tokens.decodeHeader assertion with
    | none => none
    | some header =>
        if header.alg != .es256 || header.typ != some "JWT" then
          none
        else
          match header.kid with
          | none => none
          | some kid =>
              match verifier.keys.lookup kid with
              | none => none
              | some key =>
                  match tokens.decode second verifier.issuer verifier.audience assertion key with
                  | none => none
                  | some claims =>
                      if claimsValid verifier.issuer verifier.audience now claims then
                        some claims
                      else
                        none

/-- Accepted claims live for at most a minute and are not issued later than 5 s from now. -/
theorem claimsValid_times {issuer audience : String} {now : Int}
    {claims : BrowserHop1RequestClaims} (valid : claimsValid issuer audience now claims = true) :
    claims.exp ≤ claims.iat + 60 ∧ claims.iat ≤ now + 5 := by
  unfold claimsValid at valid
  split at valid
  · contradiction
  rename_i lifetime subtracted
  rcases checkedI64_eq_some_iff.mp subtracted with ⟨rfl, _⟩
  simp only [Bool.not_eq_true', Bool.or_eq_false_iff, decide_eq_false_iff_not] at valid
  rw [maxAssertionLifetimeSeconds, clockSkewSeconds] at valid
  omega

/-- The subject of accepted claims is a canonical user ID. -/
theorem canonicalUserId_of_claimsValid {issuer audience : String} {now : Int}
    {claims : BrowserHop1RequestClaims} (valid : claimsValid issuer audience now claims = true) :
    canonicalUserId claims.sub = true := by
  unfold claimsValid at valid
  split at valid
  · contradiction
  · simp only [Bool.not_eq_true', Bool.or_eq_false_iff, Bool.not_eq_false'] at valid
    exact valid.1.1.1.1.1.2

variable {tokens : TokenLibrary K} {verifier : StewardBrowserAssertionVerifier K}
  {second now : Int} {assertion : String} {claims : BrowserHop1RequestClaims}

/-- Accepted assertions were accepted by the token library, and their claims passed
the own checks. -/
theorem StewardBrowserAssertionVerifier.of_verify
    (accepted : verifier.verify tokens second now assertion = some claims) :
    (∃ key, tokens.decode second verifier.issuer verifier.audience assertion key = some claims) ∧
      claimsValid verifier.issuer verifier.audience now claims = true := by
  unfold StewardBrowserAssertionVerifier.verify at accepted
  split at accepted
  · contradiction
  split at accepted
  · contradiction
  split at accepted
  · contradiction
  split at accepted
  · contradiction
  split at accepted
  · contradiction
  split at accepted
  · contradiction
  rename_i key _ decodedClaims decoded
  split at accepted
  · rename_i valid
    cases accepted
    exact ⟨⟨_, decoded⟩, valid⟩
  · contradiction

theorem StewardBrowserAssertionVerifier.canonicalUserId_of_verify
    (accepted : verifier.verify tokens second now assertion = some claims) :
    canonicalUserId claims.sub = true :=
  canonicalUserId_of_claimsValid (StewardBrowserAssertionVerifier.of_verify accepted).2

end OidcExchange.Browser
