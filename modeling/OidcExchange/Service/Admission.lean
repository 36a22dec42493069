import OidcExchange.Browser.Verify
import OidcExchange.Oidc.Replay
import OidcExchange.Service.SingleIssuance

/-!
# Admission of verified expiries

The verifiers bound the lifetime of an assertion and how far its issue may lie ahead of
the clock, and the token library refuses expired ones but for a leeway.  Within 269 s of
the validation the ledger accepts whatever expiry has passed them.
-/

namespace OidcExchange.Service

open OidcExchange.Oidc OidcExchange.Process OidcExchange.Replay
open OidcExchange.GitHub (GitHubClaims JwtLibrary VerifyAnswer)

/-! ## The bounds of the verifiers -/

/-- The expiry lies after the reading of the token library, up to a leeway of 30 s, and at most
660 s after the reading of the own checks. -/
structure TimelyExpiry (expiresAt second now : Int) : Prop where
  lower : second - 30 ≤ expiresAt
  upper : expiresAt ≤ now + 660

/-- The library validates at `second`, and the own checks read `now`. -/
def ValidatesAt {K : Type} (library : JwtLibrary K) (second now : Int) :
    Event (VerifyAnswer K) → Prop
  | ⟨.key _, _⟩ => True
  | ⟨.decode audience assertion key, claims⟩ =>
      claims = library.decode second audience assertion key
  | ⟨.utcTimestamp, answer⟩ => answer = now

/-- `jsonwebtoken` with the leeway of the browser verifier. -/
def RejectsExpiredBrowser {K : Type} (tokens : Browser.TokenLibrary K) : Prop :=
  ∀ now issuer audience assertion key claims,
    tokens.accepts now issuer audience assertion key = true →
    tokens.payload assertion = some claims → ¬ claims.exp < now - Browser.clockSkewSeconds

/-- What an accepted GitHub assertion has passed. -/
theorem github_verified {K : Type} {library : JwtLibrary K} {second now : Int}
    {audience assertion : String} {events : List (Event (VerifyAnswer K))} {claims : GitHubClaims}
    (answered : ∀ event ∈ events, ValidatesAt library second now event)
    (accepted : Program.Path (GitHub.verify library audience assertion) events
      (.done (.ok claims))) :
    (∃ key, library.decode second audience assertion key = some claims) ∧
      GitHub.claimsValid audience now claims = true := by
  unfold GitHub.verify at accepted
  split at accepted
  · cases accepted.eq_of_done
  split at accepted
  · cases accepted.eq_of_done
  split at accepted
  · cases accepted.eq_of_done
  split at accepted
  · cases accepted.eq_of_done
  rcases accepted.exists_of_call with ⟨(_ | key), afterKey, rfl, found⟩
  · cases found.eq_of_done
  rcases found.exists_of_call with ⟨decoded, afterDecode, rfl, checks⟩
  have decodedAt := answered ⟨.decode audience assertion key, decoded⟩ (by simp)
  cases decoded with
  | none => cases checks.eq_of_done
  | some checked =>
      rcases checks.exists_of_call with ⟨reading, rest, rfl, returns⟩
      have read : reading = now := answered ⟨.utcTimestamp, reading⟩ (by simp)
      subst read
      dsimp only [Program.bind_done] at returns
      split at returns
      · rename_i valid
        cases returns.eq_of_done
        exact ⟨⟨key, decodedAt.symm⟩, valid⟩
      · cases returns.eq_of_done

theorem github_timely {K : Type} {library : JwtLibrary K} (rejects : RejectsExpired library)
    {second now : Int} {audience assertion : String} {events : List (Event (VerifyAnswer K))}
    {claims : GitHubClaims} (answered : ∀ event ∈ events, ValidatesAt library second now event)
    (accepted : Program.Path (GitHub.verify library audience assertion) events
      (.done (.ok claims))) : TimelyExpiry claims.exp second now := by
  rcases github_verified answered accepted with ⟨⟨key, decoded⟩, valid⟩
  rw [JwtLibrary.decode, Option.ite_none_right_eq_some] at decoded
  have live := rejects _ _ _ _ _ decoded.1 decoded.2
  rcases GitHub.claimsValid_times valid with ⟨lifetime, issued⟩
  constructor <;> omega

theorem oidc_timely {now : Int} {values : AList fun _ : String => Json}
    {issuer audience : String} {claims : OidcClaims}
    (accepted : validatedClaims now values issuer audience = .ok claims) :
    TimelyExpiry claims.expiresAt now now := by
  rcases validatedClaims_times accepted with ⟨live, lifetime, issued⟩
  constructor <;> omega

theorem browser_timely {K : Type} {tokens : Browser.TokenLibrary K}
    (rejects : RejectsExpiredBrowser tokens)
    {verifier : Browser.StewardBrowserAssertionVerifier K} {second now : Int}
    {assertion : String} {claims : BrowserHop1RequestClaims}
    (accepted : verifier.verify tokens second now assertion = some claims) :
    TimelyExpiry claims.exp second now := by
  rcases Browser.StewardBrowserAssertionVerifier.of_verify accepted with ⟨⟨key, decoded⟩, valid⟩
  rw [Browser.TokenLibrary.decode, Option.ite_none_right_eq_some] at decoded
  have live := rejects _ _ _ _ _ _ decoded.1 decoded.2
  rcases Browser.claimsValid_times valid with ⟨lifetime, issued⟩
  rw [Browser.clockSkewSeconds] at live
  constructor <;> omega

/-! ## The ledger -/

/-- Within 269 s of the validation a timely expiry is admitted. -/
theorem TimelyExpiry.admits {platform : Platform} {expiresAt second now : Int}
    {reading : DateTime} (timely : TimelyExpiry expiresAt second now)
    (reads : platform.ReadsBack reading) (later : DateTime.ofSeconds now ≤ reading)
    (soon : reading < DateTime.ofSeconds (second + 269)) (name : String) :
    Admits platform expiresAt reading name := by
  have lower := timely.lower
  have upper := timely.upper
  apply admits_of_lt reads
  · simp only [DateTime.lt_iff, DateTime.ofSeconds, nanosPerSecond] at soon ⊢
    omega
  · simp only [DateTime.le_iff, DateTime.ofSeconds, nanosPerSecond] at later
    rw [DateTime.timestamp, nanosPerSecond]
    omega

/-- Whatever expiry a verifier accepts, the ledger admits it at every reading within 269 s of
the validation, and its lease ends within the last second of the retention period. -/
theorem ledger_admits_verified (platform : Platform) (second now : Int) (reading : DateTime)
    (reads : platform.ReadsBack reading) (later : DateTime.ofSeconds now ≤ reading)
    (soon : reading < DateTime.ofSeconds (second + 269)) (name : String) :
    (∀ {K : Type} (library : JwtLibrary K), RejectsExpired library →
      ∀ audience assertion events claims, (∀ event ∈ events, ValidatesAt library second now event) →
        Program.Path (GitHub.verify library audience assertion) events (.done (.ok claims)) →
          Admits platform claims.exp reading name) ∧
    (∀ values issuer audience claims, second ≤ now →
      validatedClaims now values issuer audience = .ok claims →
        Admits platform claims.expiresAt reading name) ∧
    (∀ {K : Type} (tokens : Browser.TokenLibrary K), RejectsExpiredBrowser tokens →
      ∀ (verifier : Browser.StewardBrowserAssertionVerifier K) assertion claims,
        verifier.verify tokens second now assertion = some claims →
          Admits platform claims.exp reading name) := by
  refine ⟨?_, ?_, ?_⟩
  · intro K library rejects audience assertion events claims answered accepted
    exact (github_timely rejects answered accepted).admits reads later soon name
  · intro values issuer audience claims ordered accepted
    have timely := oidc_timely accepted
    have lower := timely.lower
    have bounds : TimelyExpiry claims.expiresAt second now := ⟨by omega, timely.upper⟩
    exact bounds.admits reads later soon name
  · intro K tokens rejects verifier assertion claims accepted
    exact (browser_timely rejects accepted).admits reads later soon name

/-- The reading of the samples, 900 s and a part that its text cuts off. -/
def fractionReading : DateTime := ⟨900123456789⟩

/-- A platform that knows this reading. -/
def fractionPlatform : Platform where
  sha256 := Replay.sampleSha256
  toRfc3339Micros _ := "1970-01-01T00:15:00.123456Z"
  parseFromRfc3339 text :=
    if text = "1970-01-01T00:15:00.123456Z" then some ⟨900123456000⟩ else none
  itemUrl := some

def sampleAssertion : BrowserHop1RequestClaims where
  iss := "https://steward.example.com"
  sub := "usr_0123456789abcdef0123456789abcdef"
  aud := "https://identity.example.com"
  exp := 940
  iat := 890
  nbf := 890
  jti := "a"
  email := "dev@example.com"
  emailVerified := true
  operation := .githubOauthConnect
  operationId := "op_0123456789abcdef0123456789abcdef"

def sampleTokens : Browser.TokenLibrary Unit where
  decodeHeader _ := some { alg := .es256, typ := some "JWT", kid := some "key" }
  accepts now _ _ _ _ := decide (now ≤ sampleAssertion.exp + 5)
  payload _ := some sampleAssertion

def sampleVerifier : Browser.StewardBrowserAssertionVerifier Unit where
  issuer := "https://steward.example.com"
  audience := "https://identity.example.com"
  keys := AList.singleton "key" ()

theorem ledger_admits_verified_sample :
    Admits fractionPlatform GitHub.sampleClaims.exp fractionReading "replay-a" ∧
      Admits fractionPlatform sampleVerified.expiresAt fractionReading "replay-a" ∧
      Admits fractionPlatform sampleAssertion.exp fractionReading "replay-a" := by
  have reads : fractionPlatform.ReadsBack fractionReading := ⟨by decide, by decide, rfl⟩
  have rejects : RejectsExpiredBrowser sampleTokens := by
    intro now issuer audience assertion key claims accepted payload
    cases payload
    have inTime : now ≤ sampleAssertion.exp + 5 := of_decide_eq_true accepted
    rw [Browser.clockSkewSeconds]
    omega
  have path : Program.Path (GitHub.verify sampleLibrary "exchange" "assertion")
      [⟨.key "key", .ok ()⟩, ⟨.decode "exchange" "assertion" (), some GitHub.sampleClaims⟩,
        ⟨.utcTimestamp, (900 : Int)⟩] (.done (.ok GitHub.sampleClaims)) :=
    GitHub.verify_path rfl (by decide) rfl rfl rfl rfl GitHub.claimsValid_sampleClaims ()
  have admits := ledger_admits_verified fractionPlatform 900 900 fractionReading reads (by decide)
    (by decide) "replay-a"
  refine ⟨?_, ?_, ?_⟩
  · apply admits.1 sampleLibrary rejectsExpired_sampleLibrary _ _ _ _ _ path
    intro event member
    simp only [List.mem_cons, List.not_mem_nil, or_false] at member
    rcases member with rfl | rfl | rfl
    · trivial
    · rfl
    · rfl
  · exact admits.2.1 samplePayload "https://login.example.com" "exchange" sampleVerified le_rfl rfl
  · exact admits.2.2 sampleTokens rejects sampleVerifier "assertion" sampleAssertion
      (by decide +kernel)

end OidcExchange.Service
