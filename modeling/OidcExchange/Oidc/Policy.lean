import OidcExchange.Data.SinglePass
import OidcExchange.GitHub.Policy
import OidcExchange.Jwks.Lookup
import OidcExchange.Oidc.Claims

/-!
# The policy of generic OIDC providers

`OidcPolicy::validate` of `src/oidc.rs` and what it guarantees to `authorize`:
issuers are unique, and of the bindings of one provider no two can match the same
claims.
-/

namespace OidcExchange.Oidc

open OidcExchange.GitHub OidcExchange.Jwks OidcExchange.Workload

def oidcPolicyVersion : String := "github-oidc-exchange.apelogic.io/oidc-policy-v1"

def boundedGraphic (value : String) (maximum : Nat) : Bool :=
  boundedAscii value maximum

/-- The characters of a host name. -/
def isHostCharacter (c : Char) : Bool :=
  Text.isAsciiAlphanumeric c || c == '.' || c == '-'

def validIssuer (parseUrl : String → Option Url) (value : String) : Bool :=
  decide (Text.len value ≤ 2048) && !Text.endsWith value "/" &&
    (parseUrl value).any fun url =>
      url.scheme == "https" &&
        (url.host.any fun host => !Text.isEmpty host && Text.all host isHostCharacter) &&
        url.portOrKnownDefault == some 443 && Text.isEmpty url.username &&
        url.password.isNone && url.query.isNone && url.fragment.isNone

def validClaimName (value : String) : Bool :=
  boundedGraphic value 128 && !Text.any value fun c => c == '.' || c == '[' || c == ']'

def validTaskBinding (task : WorkloadTaskBinding) : Bool :=
  boundedGraphic task.service 128 && canonicalUserId task.ownerCanonicalUserId &&
    task.ownerEmail == Text.toAsciiLowercase task.ownerEmail &&
    !Text.any task.ownerEmail Text.isWhitespace &&
    match Text.splitOnce task.ownerEmail "@" with
    | none => false
    | some (name, domain) => !Text.isEmpty name && Text.contains domain "."

def claimBindingsOverlap (left right : AList fun _ : String => String) : Bool :=
  !left.entries.any fun entry =>
    (right.lookup entry.1).any fun rightValue => rightValue != entry.2

/-- The claims that the provider checks itself. -/
def reservedClaims : List String := ["iss", "aud", "exp", "iat", "nbf", "jti"]

/-- What `validate` checks of a binding on its own. -/
def OidcBinding.sound (binding : OidcBinding) : Bool :=
  !binding.claims.entries.isEmpty && decide (binding.claims.entries.length ≤ 16) &&
    ((binding.claims.lookup "sub").any fun value => boundedGraphic value 2048) &&
    (!binding.claims.entries.any fun entry =>
      !validClaimName entry.1 || !boundedGraphic entry.2 2048 ||
        reservedClaims.contains entry.1) &&
    validTaskBinding binding.task

/-- The loop of `validate` over the bindings of a provider, with the claims seen so
far. -/
def validateBindings :
    List OidcBinding → List (AList fun _ : String => String) → Except OidcPolicyError Unit
  | [], _ => .ok ()
  | binding :: bindings, seen =>
      if (seen.any fun existing => claimBindingsOverlap existing binding.claims) ||
          !binding.sound then
        .error (.invalid
          "bindings require unique exact claims including sub and a valid task owner")
      else
        validateBindings bindings (binding.claims :: seen)

/-- What `validate` checks of a provider before its bindings. -/
def OidcProviderPolicy.sound (parseUrl : String → Option Url) (provider : OidcProviderPolicy) :
    Bool :=
  validIssuer parseUrl provider.issuer && boundedGraphic provider.audience 255 &&
    !provider.bindings.isEmpty && decide (provider.bindings.length ≤ 256)

/-- The loop of `validate` over the providers, with the issuers seen so far. -/
def validateProviders (parseUrl : String → Option Url) :
    List OidcProviderPolicy → List String → Except OidcPolicyError Unit
  | [], _ => .ok ()
  | provider :: providers, issuers =>
      if !provider.sound parseUrl || issuers.contains provider.issuer then
        .error (.invalid
          "providers require unique HTTPS issuers, exact audiences, and bindings")
      else
        match validateBindings provider.bindings [] with
        | .error failure => .error failure
        | .ok () => validateProviders parseUrl providers (provider.issuer :: issuers)

def OidcPolicy.validate (parseUrl : String → Option Url) (policy : OidcPolicy) :
    Except OidcPolicyError Unit :=
  if policy.version ≠ oidcPolicyVersion then
    .error (.invalid "unsupported version")
  else if policy.providers.isEmpty || decide (policy.providers.length > 32) then
    .error (.invalid "providers must contain between 1 and 32 entries")
  else
    validateProviders parseUrl policy.providers []

/-! ## Overlapping bindings -/

/-- The claim object has every one of these claims as exactly that string. -/
def Satisfies (values : AList fun _ : String => Json) (claims : AList fun _ : String => String) :
    Prop :=
  ∀ name value, claims.lookup name = some value → values.lookup name = some (.string value)

theorem Json.asStr_eq_some_iff {json : Json} {value : String} :
    json.asStr = some value ↔ json = .string value := by
  cases json with
  | string other => simp [Json.asStr]
  | _ => simp [Json.asStr]

theorem OidcBinding.accepts_iff {binding : OidcBinding} {claims : OidcClaims} :
    binding.accepts claims = true ↔ Satisfies claims.values binding.claims := by
  have found : ∀ name value,
      (claims.values.lookup name).bind Json.asStr = some value ↔
        claims.values.lookup name = some (.string value) := by
    intro name value
    rw [Option.bind_eq_some_iff]
    constructor
    · rintro ⟨json, lookup, text⟩
      rw [lookup, Json.asStr_eq_some_iff.mp text]
    · intro lookup
      exact ⟨_, lookup, rfl⟩
  rw [OidcBinding.accepts, List.all_eq_true]
  constructor
  · intro accepted name value lookup
    have matched := accepted ⟨name, value⟩ (AList.mem_lookup_iff.mp lookup)
    exact (found name value).mp (beq_iff_eq.mp matched)
  · rintro satisfied ⟨name, value⟩ member
    rw [beq_iff_eq]
    exact (found name value).mpr (satisfied name value (AList.mem_lookup_iff.mpr member))

/-- Two maps overlap when they agree wherever both are defined. -/
theorem claimBindingsOverlap_iff_agree {left right : AList fun _ : String => String} :
    claimBindingsOverlap left right = true ↔
      ∀ name leftValue rightValue, left.lookup name = some leftValue →
        right.lookup name = some rightValue → leftValue = rightValue := by
  rw [claimBindingsOverlap, Bool.not_eq_true', List.any_eq_false]
  constructor
  · intro agree name leftValue rightValue inLeft inRight
    have same := agree ⟨name, leftValue⟩ (AList.mem_lookup_iff.mp inLeft)
    simp only [inRight, Option.any_some, bne_iff_ne, ne_eq, not_not] at same
    exact same.symm
  · rintro agree ⟨name, leftValue⟩ member
    cases inRight : right.lookup name with
    | none => simp
    | some rightValue =>
        have same := agree name leftValue rightValue (AList.mem_lookup_iff.mpr member) inRight
        simp [same]

/-- The claim object that has exactly these claims, as strings. -/
def claimObject (claims : AList fun _ : String => String) : AList fun _ : String => Json where
  entries := claims.entries.map (.map id fun _ => Json.string)
  nodupKeys := List.NodupKeys.map₂ _ claims.entries claims.nodupKeys

theorem lookup_claimObject (claims : AList fun _ : String => String) (name : String) :
    (claimObject claims).lookup name = (claims.lookup name).map Json.string :=
  List.dlookup_map₂ name

/-- Bindings overlap exactly if some claim object satisfies both. -/
theorem claimBindingsOverlap_iff {left right : AList fun _ : String => String} :
    claimBindingsOverlap left right = true ↔
      ∃ values, Satisfies values left ∧ Satisfies values right := by
  rw [claimBindingsOverlap_iff_agree]
  constructor
  · intro agree
    refine ⟨claimObject (left ∪ right), ?_, ?_⟩
    · intro name value lookup
      rw [lookup_claimObject, AList.lookup_union_left (AList.lookup_isSome.mp (by simp [lookup])),
        lookup]
      rfl
    · intro name value lookup
      rw [lookup_claimObject]
      cases inLeft : left.lookup name with
      | none =>
          rw [AList.lookup_union_right (AList.lookup_eq_none.mp inLeft), lookup]
          rfl
      | some leftValue =>
          rw [AList.lookup_union_left (AList.lookup_isSome.mp (by simp [inLeft])), inLeft,
            agree name leftValue value inLeft lookup]
          rfl
  · rintro ⟨values, leftSatisfied, rightSatisfied⟩ name leftValue rightValue inLeft inRight
    have same := leftSatisfied name leftValue inLeft
    rw [rightSatisfied name rightValue inRight, Option.some.injEq, Json.string.injEq] at same
    exact same.symm

theorem claimBindingsOverlap_symm {left right : AList fun _ : String => String}
    (overlap : claimBindingsOverlap left right = true) :
    claimBindingsOverlap right left = true := by
  rcases claimBindingsOverlap_iff.mp overlap with ⟨values, leftSatisfied, rightSatisfied⟩
  exact claimBindingsOverlap_iff.mpr ⟨values, rightSatisfied, leftSatisfied⟩

/-! ## What validation guarantees -/

theorem validateBindings_singlePass :
    SinglePass
      (fun bindings seen => validateBindings bindings (seen.map OidcBinding.claims) = .ok ())
      (fun binding => binding.sound = true)
      fun first second => claimBindingsOverlap first.claims second.claims = true where
  nil _ := rfl
  cons binding bindings seen := by
    rw [validateBindings, List.any_map]
    split
    · rename_i refused
      rw [Bool.or_eq_true, List.any_eq_true, Bool.not_eq_true'] at refused
      constructor
      · intro impossible
        contradiction
      · rintro ⟨sound, apart, _⟩
        rcases refused with ⟨existing, member, overlap⟩ | unsound
        · exact absurd overlap (apart existing member)
        · rw [sound] at unsound
          contradiction
    · rename_i accepted
      rw [Bool.or_eq_true, not_or, List.any_eq_true, Bool.not_eq_true', Bool.not_eq_false]
        at accepted
      constructor
      · intro rest
        exact ⟨accepted.2, fun existing member overlap =>
          accepted.1 ⟨existing, member, overlap⟩, rest⟩
      · rintro ⟨_, _, rest⟩
        exact rest

/-- What `validate` checks of a provider on its own, its bindings included. -/
def OidcProviderPolicy.Valid (parseUrl : String → Option Url) (provider : OidcProviderPolicy) :
    Prop :=
  provider.sound parseUrl = true ∧ validateBindings provider.bindings [] = .ok ()

theorem validateProviders_singlePass (parseUrl : String → Option Url) :
    SinglePass
      (fun providers seen =>
        validateProviders parseUrl providers (seen.map OidcProviderPolicy.issuer) = .ok ())
      (fun provider => provider.Valid parseUrl)
      fun first second => first.issuer = second.issuer where
  nil _ := rfl
  cons provider providers seen := by
    rw [validateProviders]
    split
    · rename_i refused
      rw [Bool.or_eq_true, Bool.not_eq_true', List.contains_iff_mem, List.mem_map] at refused
      constructor
      · intro impossible
        contradiction
      · rintro ⟨valid, apart, _⟩
        rcases refused with unsound | ⟨earlier, member, same⟩
        · rw [valid.1] at unsound
          contradiction
        · exact absurd same (apart earlier member)
    · rename_i accepted
      rw [Bool.or_eq_true, not_or, Bool.not_eq_true', Bool.not_eq_false, List.contains_iff_mem,
        List.mem_map] at accepted
      cases bindings : validateBindings provider.bindings [] with
      | error failure => simp [OidcProviderPolicy.Valid, bindings]
      | ok =>
          constructor
          · intro rest
            exact ⟨⟨accepted.1, bindings⟩, fun earlier member same =>
              accepted.2 ⟨earlier, member, same⟩, rest⟩
          · rintro ⟨_, _, rest⟩
            exact rest

/-- Exactly the policies that pass `validate`. -/
structure OidcPolicy.Valid (parseUrl : String → Option Url) (policy : OidcPolicy) : Prop where
  version : policy.version = oidcPolicyVersion
  nonempty : policy.providers ≠ []
  bounded : policy.providers.length ≤ 32
  providers : ∀ provider ∈ policy.providers, provider.Valid parseUrl
  issuers : policy.providers.Pairwise fun first second => first.issuer ≠ second.issuer

variable {parseUrl : String → Option Url} {policy : OidcPolicy} {provider : OidcProviderPolicy}
  {claims : OidcClaims}

theorem OidcPolicy.validate_eq_ok_iff :
    policy.validate parseUrl = .ok () ↔ policy.Valid parseUrl := by
  have loop := (validateProviders_singlePass parseUrl).accepts_nil_iff policy.providers
  rw [OidcPolicy.validate]
  split
  · rename_i otherVersion
    constructor
    · intro impossible
      contradiction
    · intro valid
      exact absurd valid.version otherVersion
  rename_i sameVersion
  rw [not_not] at sameVersion
  split
  · rename_i count
    rw [Bool.or_eq_true, List.isEmpty_iff, decide_eq_true_iff] at count
    constructor
    · intro impossible
      contradiction
    · intro valid
      rcases count with empty | many
      · exact absurd empty valid.nonempty
      · exact absurd valid.bounded (not_le_of_gt many)
  rename_i count
  rw [Bool.or_eq_true, not_or, List.isEmpty_iff, decide_eq_true_iff, not_lt] at count
  constructor
  · intro accepted
    rcases loop.mp accepted with ⟨providers, issuers⟩
    exact ⟨sameVersion, count.1, count.2, providers, issuers⟩
  · intro valid
    exact loop.mpr ⟨valid.providers, valid.issuers⟩

/-- A valid policy has at most one provider for an issuer. -/
theorem OidcPolicy.Valid.filter_issuer (valid : policy.Valid parseUrl)
    (member : provider ∈ policy.providers) :
    policy.providers.filter (fun other => other.issuer == provider.issuer) = [provider] := by
  have unique : (policy.providers.filter fun other => other.issuer == provider.issuer).length ≤
      1 := by
    apply length_filter_le_one valid.issuers
    intro first second firstIssuer secondIssuer
    rw [beq_iff_eq] at firstIssuer secondIssuer
    exact firstIssuer.trans secondIssuer.symm
  exact filter_eq_singleton unique member (beq_self_eq_true _)

theorem OidcPolicy.Valid.find?_issuer (valid : policy.Valid parseUrl)
    (member : provider ∈ policy.providers) :
    policy.providers.find? (fun other => other.issuer == provider.issuer) = some provider := by
  rw [← List.head?_filter, valid.filter_issuer member]
  rfl

/-- At most one binding of a valid provider accepts the claims. -/
theorem OidcProviderPolicy.Valid.accepting_length_le_one (valid : provider.Valid parseUrl)
    (claims : OidcClaims) :
    (provider.bindings.filter fun binding => binding.accepts claims).length ≤ 1 := by
  have loop := (validateBindings_singlePass.accepts_nil_iff provider.bindings).mp valid.2
  apply length_filter_le_one loop.2
  intro first second firstAccepts secondAccepts
  exact claimBindingsOverlap_iff.mpr ⟨claims.values, OidcBinding.accepts_iff.mp firstAccepts,
    OidcBinding.accepts_iff.mp secondAccepts⟩

/-- A valid policy authorizes the task of the binding that the claims satisfy. -/
theorem OidcPolicy.Valid.authorize_eq_ok_iff (valid : policy.Valid parseUrl)
    {task : WorkloadTaskBinding} :
    policy.authorize claims = .ok task ↔
      ∃ provider ∈ policy.providers, provider.issuer = claims.issuer ∧
        ∃ binding ∈ provider.bindings, Satisfies claims.values binding.claims ∧
          binding.task = task := by
  constructor
  · intro authorized
    unfold OidcPolicy.authorize at authorized
    split at authorized
    · contradiction
    rename_i provider found
    have issuer := List.find?_some found
    rw [beq_iff_eq] at issuer
    split at authorized
    · rename_i binding matching
      have member : binding ∈ provider.bindings.filter fun binding => binding.accepts claims := by
        rw [matching]
        exact List.mem_singleton_self binding
      rw [List.mem_filter] at member
      cases authorized
      exact ⟨provider, List.mem_of_find?_eq_some found, issuer, binding, member.1,
        OidcBinding.accepts_iff.mp member.2, rfl⟩
    · contradiction
  · rintro ⟨provider, member, issuer, binding, bound, satisfied, rfl⟩
    have found := valid.find?_issuer member
    rw [issuer] at found
    have matching := filter_eq_singleton
      ((valid.providers provider member).accepting_length_le_one claims) bound
      (OidcBinding.accepts_iff.mpr satisfied)
    simp only [OidcPolicy.authorize, found, matching]

/-- The overlap test rejects exactly the ambiguous pairs of bindings, and so the
bindings of a valid policy are matched exactly and without ambiguity. -/
theorem oidc_bindings_exact (parseUrl : String → Option Url) :
    (∀ left right, claimBindingsOverlap left right = true ↔
      ∃ values, Satisfies values left ∧ Satisfies values right) ∧
    (∀ left right, claimBindingsOverlap left right = claimBindingsOverlap right left) ∧
    ∀ policy : OidcPolicy, policy.validate parseUrl = .ok () → ∀ claims : OidcClaims,
      (∀ provider ∈ policy.providers, provider.issuer = claims.issuer →
        (provider.bindings.filter fun binding => binding.accepts claims).length ≤ 1) ∧
      ∀ task, policy.authorize claims = .ok task ↔
        ∃ provider ∈ policy.providers, provider.issuer = claims.issuer ∧
          ∃ binding ∈ provider.bindings, Satisfies claims.values binding.claims ∧
            binding.task = task := by
  refine ⟨fun _ _ => claimBindingsOverlap_iff, ?_, ?_⟩
  · intro left right
    rw [Bool.eq_iff_iff]
    exact ⟨claimBindingsOverlap_symm, claimBindingsOverlap_symm⟩
  · intro policy accepted claims
    have valid := OidcPolicy.validate_eq_ok_iff.mp accepted
    constructor
    · intro provider member _
      exact (valid.providers provider member).accepting_length_le_one claims
    · intro task
      exact valid.authorize_eq_ok_iff

/-- The parts of the URL of the sample issuer. -/
def sampleUrl (_ : String) : Option Url :=
  some
    { scheme := "https", host := some "login.example.com", portOrKnownDefault := some 443,
      username := "", password := none, query := none, fragment := none }

def sampleTask : WorkloadTaskBinding where
  service := "ci"
  ownerCanonicalUserId := "usr_0123456789abcdef0123456789abcdef"
  ownerEmail := "dev@example.com"

/-- A provider with two bindings that differ in the branch. -/
def samplePolicy : OidcPolicy where
  version := oidcPolicyVersion
  providers :=
    [{ issuer := "https://login.example.com"
       audience := "exchange"
       bindings :=
         [{ claims := AList.insert "branch" "main" (AList.singleton "sub" "job")
            task := sampleTask },
           { claims := AList.insert "branch" "next" (AList.singleton "sub" "job")
             task := { sampleTask with service := "next" } }] }]

def sampleClaims : OidcClaims where
  issuer := "https://login.example.com"
  subject := "job"
  expiresAt := 1000
  issuedAt := 800
  jti := some "a"
  buildNumber := none
  values := AList.insert "branch" (.string "main") (AList.singleton "sub" (.string "job"))

theorem oidc_bindings_exact_sample :
    samplePolicy.validate sampleUrl = .ok () ∧
      samplePolicy.authorize sampleClaims = .ok sampleTask := by
  have valid : samplePolicy.validate sampleUrl = .ok () := by decide +kernel
  refine ⟨valid, ?_⟩
  apply (((oidc_bindings_exact sampleUrl).2.2 samplePolicy valid sampleClaims).2 sampleTask).mpr
  refine ⟨_, List.mem_cons_self, rfl, _, List.mem_cons_self, ?_, rfl⟩
  exact OidcBinding.accepts_iff.mp (by decide +kernel)

end OidcExchange.Oidc
