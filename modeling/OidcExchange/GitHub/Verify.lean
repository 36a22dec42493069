import OidcExchange.GitHub.Claims
import OidcExchange.Jwks.Cache
import OidcExchange.Process.Program

/-!
# Verification of GitHub assertions

`GitHubVerifier::verify` as a program over the key lookup, the token library and
the clock.
-/

namespace OidcExchange.GitHub

open OidcExchange.Jwks OidcExchange.Process

/-- The signature algorithms of `jsonwebtoken`. -/
inductive Algorithm where
  | hs256
  | hs384
  | hs512
  | es256
  | es384
  | rs256
  | rs384
  | rs512
  | ps256
  | ps384
  | ps512
  | edDsa
  deriving DecidableEq

structure Header where
  alg : Algorithm
  typ : Option String
  kid : Option String
  deriving DecidableEq

/-- The functions of `jsonwebtoken` with keys `K`.  The claims that `decode`
returns are those written in the assertion; `accepts` is the verdict of its
signature check and validation at a clock second. -/
structure JwtLibrary (K : Type) where
  decodeHeader : String → Option Header
  payload : String → Option GitHubClaims
  accepts : Int → String → String → K → Bool

/-- `decode::<GitHubClaims>` at the clock second `now`. -/
def JwtLibrary.decode {K : Type} (library : JwtLibrary K) (now : Int)
    (audience assertion : String) (key : K) : Option GitHubClaims :=
  if library.accepts now audience assertion key then library.payload assertion else none

/-- The operations that `verify` awaits or that read the clock. -/
inductive VerifyOp (K : Type) where
  | key (kid : String)
  | decode (audience assertion : String) (key : K)
  | utcTimestamp

@[reducible]
def VerifyAnswer (K : Type) : VerifyOp K → Type
  | .key _ => Except VerifyError K
  | .decode _ _ _ => Option GitHubClaims
  | .utcTimestamp => Int

def maxAssertionBytes : Nat := 32 * 1024

/-- A program of the verifier. -/
abbrev VerifyProgram (K α : Type) :=
  Program (VerifyAnswer K) α

/-- `self.key(&kid)` -/
def lookupKey {K : Type} (kid : String) : VerifyProgram K (Except VerifyError K) :=
  .call (.key kid) .done

def decode {K : Type} (audience assertion : String) (key : K) :
    VerifyProgram K (Option GitHubClaims) :=
  .call (.decode audience assertion key) .done

/-- `Utc::now().timestamp()` -/
def utcTimestamp {K : Type} : VerifyProgram K Int :=
  .call .utcTimestamp .done

def verify {K : Type} (library : JwtLibrary K) (audience assertion : String) :
    VerifyProgram K (Except VerifyError GitHubClaims) :=
  if Text.isEmpty assertion || decide (Text.len assertion > maxAssertionBytes) then
    return .error .invalid
  else
    match library.decodeHeader assertion with
    | none => return .error .invalid
    | some header =>
        if header.alg != .rs256 || header.typ != some "JWT" then
          return .error .invalid
        else
          match header.kid with
          | none => return .error .invalid
          | some kid =>
              (lookupKey kid).bindOk fun key => do
                match ← decode audience assertion key with
                | none => return .error .invalid
                | some claims =>
                    let now ← utcTimestamp
                    if claimsValid audience now claims then
                      return .ok claims
                    else
                      return .error .invalid

/-- An assertion in the right form is accepted if the library returns claims that pass the own
checks. -/
theorem verify_path {K : Type} {library : JwtLibrary K} {audience assertion kid : String}
    {header : Header} (nonempty : Text.isEmpty assertion = false)
    (bounded : Text.len assertion ≤ maxAssertionBytes)
    (decoded : library.decodeHeader assertion = some header) (alg : header.alg = .rs256)
    (typ : header.typ = some "JWT") (named : header.kid = some kid) {now : Int}
    {claims : GitHubClaims} (valid : claimsValid audience now claims = true) (key : K) :
    Program.Path (verify library audience assertion)
      [⟨.key kid, .ok key⟩, ⟨.decode audience assertion key, some claims⟩, ⟨.utcTimestamp, now⟩]
      (.done (.ok claims)) := by
  have short : ¬Text.len assertion > maxAssertionBytes := by omega
  simp only [verify, nonempty, short, decoded, alg, typ, named, decide_false, Bool.or_self,
    bne_self_eq_false, Bool.false_eq_true, ↓reduceIte]
  refine .step (.step (.step ?_))
  simp only [Program.bind_done, valid, ↓reduceIte]
  exact .refl _

end OidcExchange.GitHub
