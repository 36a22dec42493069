import OidcExchange.GitHub.Verify
import OidcExchange.Oidc.Policy
import OidcExchange.Process.Trace

/-!
# Verification of generic OIDC assertions

`OidcVerifierSet::verify` as a program over the key lookup of the provider that
the unverified issuer selects, the token library and the clock, and the checks of
`validated_claims` on what the library has decoded.
-/

namespace OidcExchange.Oidc

open OidcExchange.GitHub OidcExchange.Jwks OidcExchange.Process

/-- `u64::MAX` as an integer. -/
def u64MaxInt : Int := 18446744073709551615

/-- `Value::as_i64` -/
def Json.asI64 : Json → Option Int
  | .integer value => checkedI64 value
  | _ => none

/-- `Value::as_u64` -/
def Json.asU64 : Json → Option Nat
  | .integer value => if 0 ≤ value ∧ value ≤ u64MaxInt then some value.toNat else none
  | _ => none

def exactAudience (value : Option Json) (expected : String) : Bool :=
  match value with
  | some (.string actual) => actual == expected
  | some (.array [actual]) => actual.asStr.any fun actual => actual == expected
  | _ => false

def claimString (values : AList fun _ : String => Json) (name : String) :
    Except VerifyError String :=
  match (values.lookup name).bind Json.asStr with
  | none => .error .invalid
  | some value => .ok value

def claimI64 (values : AList fun _ : String => Json) (name : String) : Except VerifyError Int :=
  match (values.lookup name).bind Json.asI64 with
  | none => .error .invalid
  | some value => .ok value

/-- The claim `jti`, which may be absent but not anything other than a string. -/
def claimJti (values : AList fun _ : String => Json) : Except VerifyError (Option String) :=
  match values.lookup "jti" with
  | none => .ok none
  | some value =>
      match value.asStr with
      | none => .error .invalid
      | some jti => .ok (some jti)

def maxSourceLifetimeSeconds : Int := 600

/-- A check of the claims. -/
def ensure (holds : Bool) : Except VerifyError Unit :=
  if holds then .ok () else .error .invalid

/-- `expires_at.checked_sub(issued_at)` -/
def sourceLifetime (expiresAt issuedAt : Int) : Except VerifyError Int :=
  match checkedSub expiresAt issuedAt with
  | none => .error .invalid
  | some lifetime => .ok lifetime

/-- The checks of `validated_claims` at the clock second `now`. -/
def validatedClaims (now : Int) (values : AList fun _ : String => Json)
    (issuer audience : String) : Except VerifyError OidcClaims := do
  let actualIssuer ← claimString values "iss"
  let subject ← claimString values "sub"
  let expiresAt ← claimI64 values "exp"
  let issuedAt ← claimI64 values "iat"
  let lifetime ← sourceLifetime expiresAt issuedAt
  ensure
    (!(actualIssuer != issuer || !exactAudience (values.lookup "aud") audience ||
      !boundedGraphic subject 2048 || decide (lifetime ≤ 0) ||
      decide (lifetime > maxSourceLifetimeSeconds) || decide (expiresAt ≤ now) ||
      decide (issuedAt > now + 30)))
  let jti ← claimJti values
  ensure (!jti.any fun value => !boundedGraphic value 128)
  let buildNumber := (values.lookup "build_number").bind Json.asU64
  ensure (!(jti.isNone && buildNumber.isNone))
  .ok
    { issuer := actualIssuer
      subject := subject
      expiresAt := expiresAt
      issuedAt := issuedAt
      jti := jti
      buildNumber := buildNumber
      values := values }

/-- The functions of `jsonwebtoken` with keys `K`: `signed` is its signature check,
`validates` the check of the claims at a clock second against an issuer and an
audience.  `payload` is the object of the claims that are written in the assertion. -/
structure TokenLibrary (K : Type) where
  decodeHeader : String → Option Header
  unverifiedIssuer : String → Option String
  signed : String → K → Bool
  validates : Int → String → String → String → Bool
  payload : String → Option (AList fun _ : String => Json)

/-- `decode::<Value>` followed by `as_object`, at the clock second `now`. -/
def TokenLibrary.decode {K : Type} (tokens : TokenLibrary K) (now : Int)
    (issuer audience assertion : String) (key : K) : Option (AList fun _ : String => Json) :=
  if tokens.signed assertion key && tokens.validates now issuer audience assertion then
    tokens.payload assertion
  else
    none

/-- `ProviderVerifier` without its cache and its refresh marks, which are the state
of the lookups. -/
structure ProviderVerifier where
  issuer : String
  audience : String
  maxStaleness : Nat

/-- `OidcVerifierSet` -/
structure OidcVerifierSet where
  providers : AList fun _ : String => ProviderVerifier

/-- The verifiers of `discover_with_additional_ca`, once the policy is validated. -/
def OidcVerifierSet.ofProviders (maxStaleness : Nat) (providers : List OidcProviderPolicy) :
    OidcVerifierSet where
  providers := providers.foldl
    (fun verifiers configured => verifiers.insert configured.issuer
      { issuer := configured.issuer
        audience := configured.audience
        maxStaleness := maxStaleness })
    ∅

def OidcVerifierSet.discover (parseUrl : String → Option Url) (maxStaleness : Nat)
    (policy : OidcPolicy) : Except VerifyError OidcVerifierSet :=
  match policy.validate parseUrl with
  | .error _ => .error .invalid
  | .ok () => .ok (.ofProviders maxStaleness policy.providers)

variable {K : Type}

/-- What `verify` reads of the assertion before it looks up a key: the key ID and the
provider of the issuer. -/
def OidcVerifierSet.select (tokens : TokenLibrary K) (verifiers : OidcVerifierSet)
    (assertion : String) : Option (String × ProviderVerifier) :=
  if Text.isEmpty assertion || decide (Text.len assertion > maxAssertionBytes) then
    none
  else
    match tokens.decodeHeader assertion with
    | none => none
    | some header =>
        if header.alg != .rs256 || header.typ != some "JWT" then
          none
        else
          match header.kid with
          | none => none
          | some kid =>
              match tokens.unverifiedIssuer assertion with
              | none => none
              | some issuer =>
                  match verifiers.providers.lookup issuer with
                  | none => none
                  | some provider => some (kid, provider)

/-- What `verify` does once it has the key. -/
def ProviderVerifier.checkWith (tokens : TokenLibrary K) (provider : ProviderVerifier)
    (assertion : String) (key : K) : KeyProgram K (Except VerifyError OidcClaims) := do
  let second ← utcNow
  match tokens.decode second provider.issuer provider.audience assertion key with
  | none => return .error .invalid
  | some values =>
      let now ← utcNow
      return validatedClaims now values provider.issuer provider.audience

def OidcVerifierSet.verify (library : JwksLibrary K) (tokens : TokenLibrary K)
    (verifiers : OidcVerifierSet) (assertion : String) :
    KeyProgram K (Except VerifyError OidcClaims) :=
  match verifiers.select tokens assertion with
  | none => return .error .invalid
  | some (kid, provider) =>
      (Jwks.ProviderVerifier.key library provider.issuer provider.maxStaleness kid).bindOk
        fun key => provider.checkWith tokens assertion key

/-! ## What the checks establish -/

/-- Claims that `validated_claims` has accepted. -/
structure OidcClaims.Validated (claims : OidcClaims) (issuer audience : String) : Prop where
  issuer : claims.issuer = issuer
  audience : exactAudience (claims.values.lookup "aud") audience = true
  subject : boundedGraphic claims.subject 2048 = true
  issuedAt : i64Min ≤ claims.issuedAt ∧ claims.issuedAt ≤ i64Max
  jti : ∀ jti, claims.jti = some jti → boundedGraphic jti 128 = true
  buildNumber : ∀ number, claims.buildNumber = some number → number < 2 ^ 64
  identified : claims.jti = none → claims.buildNumber ≠ none

theorem claimI64_eq_ok {values : AList fun _ : String => Json} {name : String} {value : Int}
    (found : claimI64 values name = .ok value) : i64Min ≤ value ∧ value ≤ i64Max := by
  unfold claimI64 at found
  split at found
  · contradiction
  · rename_i actual bound
    cases found
    rcases Option.bind_eq_some_iff.mp bound with ⟨json, _, integer⟩
    cases json with
    | integer number =>
        rcases checkedI64_eq_some_iff.mp integer with ⟨rfl, bounds⟩
        exact bounds
    | _ => contradiction

theorem asU64_lt {json : Json} {number : Nat} (unsigned : json.asU64 = some number) :
    number < 2 ^ 64 := by
  cases json with
  | integer value =>
      by_cases inRange : 0 ≤ value ∧ value ≤ u64MaxInt
      · rw [Json.asU64, if_pos inRange, Option.some.injEq] at unsigned
        rw [u64MaxInt] at inRange
        omega
      · rw [Json.asU64, if_neg inRange] at unsigned
        contradiction
  | _ => contradiction

theorem ensure_eq_ok_iff {holds : Bool} {result : Unit} :
    ensure holds = .ok result ↔ holds = true := by
  cases holds with
  | false => simp [ensure]
  | true => simp [ensure]

theorem validatedClaims_eq_ok {now : Int} {values : AList fun _ : String => Json}
    {issuer audience : String} {claims : OidcClaims}
    (accepted : validatedClaims now values issuer audience = .ok claims) :
    claims.Validated issuer audience ∧ claims.values = values := by
  simp only [validatedClaims, bind_eq_ok_iff, ensure_eq_ok_iff] at accepted
  rcases accepted with ⟨actualIssuer, _, subject, _, expiresAt, _, issuedAt, issued, lifetime, _, _,
    checked, jti, _, _, jtiChecked, _, identified, result⟩
  cases result
  simp only [Bool.not_eq_true', Bool.or_eq_false_iff, bne_eq_false_iff_eq,
    Bool.not_eq_false'] at checked
  rcases checked with ⟨⟨⟨⟨⟨⟨sameIssuer, audienceExact⟩, subjectBounded⟩, _⟩, _⟩, _⟩, _⟩
  constructor
  · constructor
    · exact sameIssuer
    · exact audienceExact
    · exact subjectBounded
    · exact claimI64_eq_ok issued
    · intro value present
      dsimp only at present
      simpa [present] using jtiChecked
    · intro number present
      rcases Option.bind_eq_some_iff.mp present with ⟨json, _, unsigned⟩
      exact asU64_lt unsigned
    · intro absent
      dsimp only at absent ⊢
      intro none
      rw [absent, none] at identified
      contradiction
  · rfl

/-- Accepted claims have not expired, live for at most ten minutes and are not issued later than
30 s from now. -/
theorem validatedClaims_times {now : Int} {values : AList fun _ : String => Json}
    {issuer audience : String} {claims : OidcClaims}
    (accepted : validatedClaims now values issuer audience = .ok claims) :
    now < claims.expiresAt ∧ claims.expiresAt ≤ claims.issuedAt + 600 ∧
      claims.issuedAt ≤ now + 30 := by
  simp only [validatedClaims, bind_eq_ok_iff, ensure_eq_ok_iff] at accepted
  rcases accepted with ⟨_, _, _, _, expiresAt, _, issuedAt, _, lifetime, subtracted, _, checked, _, _,
    _, _, _, _, result⟩
  cases result
  unfold sourceLifetime at subtracted
  split at subtracted
  · contradiction
  rename_i difference subtracts
  cases subtracted
  rcases checkedI64_eq_some_iff.mp subtracts with ⟨rfl, _⟩
  simp only [Bool.not_eq_true', Bool.or_eq_false_iff, decide_eq_false_iff_not] at checked
  rw [maxSourceLifetimeSeconds] at checked
  dsimp only
  omega

/-- Claims that `validated_claims` has accepted for a provider of a valid policy. -/
def OidcClaims.Verified (parseUrl : String → Option Url) (claims : OidcClaims) : Prop :=
  ∃ policy : OidcPolicy, policy.validate parseUrl = .ok () ∧
    ∃ provider ∈ policy.providers, ∃ now values,
      validatedClaims now values provider.issuer provider.audience = .ok claims

theorem OidcClaims.Verified.validated {parseUrl : String → Option Url} {claims : OidcClaims}
    (verified : claims.Verified parseUrl) :
    ∃ provider : OidcProviderPolicy, provider.Valid parseUrl ∧
      claims.Validated provider.issuer provider.audience := by
  rcases verified with ⟨policy, valid, provider, member, now, values, accepted⟩
  exact ⟨provider, (OidcPolicy.validate_eq_ok_iff.mp valid).providers provider member,
    (validatedClaims_eq_ok accepted).1⟩

/-- The verifiers of a policy are those of its providers. -/
theorem OidcVerifierSet.ofProviders_lookup {maxStaleness : Nat}
    {providers : List OidcProviderPolicy} {issuer : String} {verifier : ProviderVerifier}
    (found : (OidcVerifierSet.ofProviders maxStaleness providers).providers.lookup issuer =
      some verifier) :
    ∃ provider ∈ providers, provider.issuer = issuer ∧
      verifier = ⟨provider.issuer, provider.audience, maxStaleness⟩ := by
  unfold OidcVerifierSet.ofProviders at found
  dsimp only at found
  induction providers using List.reverseRecOn with
  | nil => simp at found
  | append_singleton earlier provider inductionHypothesis =>
      rw [List.foldl_append, List.foldl_cons, List.foldl_nil] at found
      by_cases same : issuer = provider.issuer
      · rw [same, AList.lookup_insert, Option.some.injEq] at found
        exact ⟨provider, by simp, same.symm, found.symm⟩
      · rw [AList.lookup_insert_ne same] at found
        rcases inductionHypothesis found with ⟨configured, member, rest⟩
        exact ⟨configured, List.mem_append_left _ member, rest⟩

theorem OidcVerifierSet.discover_eq_ok {parseUrl : String → Option Url} {maxStaleness : Nat}
    {policy : OidcPolicy} {verifiers : OidcVerifierSet}
    (discovered : OidcVerifierSet.discover parseUrl maxStaleness policy = .ok verifiers) :
    policy.validate parseUrl = .ok () ∧
      verifiers = OidcVerifierSet.ofProviders maxStaleness policy.providers := by
  unfold OidcVerifierSet.discover at discovered
  split at discovered
  · contradiction
  · rename_i valid
    cases discovered
    exact ⟨valid, rfl⟩

theorem OidcVerifierSet.select_eq_some {tokens : TokenLibrary K} {verifiers : OidcVerifierSet}
    {assertion kid : String} {provider : ProviderVerifier}
    (selected : verifiers.select tokens assertion = some (kid, provider)) :
    ∃ issuer, tokens.unverifiedIssuer assertion = some issuer ∧
      verifiers.providers.lookup issuer = some provider := by
  unfold OidcVerifierSet.select at selected
  split at selected
  · contradiction
  split at selected
  · contradiction
  split at selected
  · contradiction
  split at selected
  · contradiction
  split at selected
  · contradiction
  rename_i issuer issuerEq
  split at selected
  · contradiction
  rename_i found
  cases selected
  exact ⟨issuer, issuerEq, found⟩

theorem lawful_unit {α : Type} (program : KeyProgram K α) (history : List (Event (Answer K))) :
    program.Lawful (fun _ _ => True) (fun _ _ => True) history := by
  induction program generalizing history with
  | done result => trivial
  | call op next inductionHypothesis =>
      exact ⟨trivial, fun answer => inductionHypothesis answer _⟩

/-- Whatever the keys and the clock are, an accepted assertion has verified claims. -/
theorem OidcVerifierSet.verify_verified {parseUrl : String → Option Url} {maxStaleness : Nat}
    {policy : OidcPolicy} {verifiers : OidcVerifierSet} {library : JwksLibrary K}
    {tokens : TokenLibrary K} {assertion : String} {events : List (Event (Answer K))}
    {claims : OidcClaims}
    (discovered : OidcVerifierSet.discover parseUrl maxStaleness policy = .ok verifiers)
    (accepted : Program.Path (verifiers.verify library tokens assertion) events
      (.done (.ok claims))) : claims.Verified parseUrl := by
  rcases OidcVerifierSet.discover_eq_ok discovered with ⟨valid, rfl⟩
  have lawful : (OidcVerifierSet.verify library tokens
      (.ofProviders maxStaleness policy.providers) assertion).Lawful (fun _ _ => True)
      (fun _ result => ∀ claims, result = .ok claims → claims.Verified parseUrl) [] := by
    unfold OidcVerifierSet.verify
    split
    · intro claims impossible
      contradiction
    · rename_i kid provider selected
      rcases OidcVerifierSet.select_eq_some selected with ⟨issuer, _, found⟩
      rcases OidcVerifierSet.ofProviders_lookup found with ⟨configured, member, _, rfl⟩
      apply (lawful_unit _ _).bindOk
      · intro history failure _ claims impossible
        contradiction
      · intro history key _
        refine ⟨trivial, fun second => ?_⟩
        dsimp only [Program.bind_done]
        split
        · intro claims impossible
          contradiction
        · rename_i values _
          refine ⟨trivial, fun now => ?_⟩
          intro claims accepted
          exact ⟨policy, valid, configured, member, now, values, accepted⟩
  exact lawful.result accepted claims rfl

end OidcExchange.Oidc
