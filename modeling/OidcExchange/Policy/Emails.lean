import OidcExchange.Browser.Verify
import OidcExchange.Data.Substrings
import OidcExchange.GitHub.Validation
import OidcExchange.Oidc.Policy
import OidcExchange.Workload.Validation

/-!
# Verified email addresses

The policies and the browser assertions check the addresses that they vouch for in
four places.  All of them look at the first `@` only.
-/

namespace OidcExchange

open OidcExchange.Browser OidcExchange.GitHub OidcExchange.Jwks OidcExchange.Oidc
  OidcExchange.Service OidcExchange.Workload

/-- A single address in its canonical form. -/
structure CanonicalAddress (email : String) : Prop where
  parts : ∃ name domain, email = name ++ "@" ++ domain ∧ '@' ∉ name.toList ∧
    '@' ∉ domain.toList ∧ name ≠ "" ∧ domain ≠ ""
  noWhitespace : ∀ c ∈ email.toList, Text.isWhitespace c = false
  lowercase : ∀ c ∈ email.toList, ¬('A' ≤ c ∧ c ≤ 'Z')

/-- The first `@` is the only one. -/
def FirstAtOnly (email : String) : Prop :=
  ∀ name domain, Text.splitOnce email "@" = some (name, domain) → '@' ∉ domain.toList

/-- What all the checks of addresses have in common. -/
structure CheckedAddress (email : String) : Prop where
  split : ∃ name domain, Text.splitOnce email "@" = some (name, domain) ∧ name ≠ "" ∧ domain ≠ ""
  noWhitespace : Text.any email Text.isWhitespace = false
  lowercase : email = Text.toAsciiLowercase email

/-! ## One address -/

variable {email : String}

theorem splitOnce_at {name domain : String} :
    Text.splitOnce email "@" = some (name, domain) ↔
      email = name ++ "@" ++ domain ∧ '@' ∉ name.toList :=
  Text.splitOnce_singleton_eq_some_iff rfl

theorem not_upper_of_toAsciiLowercase (same : email = Text.toAsciiLowercase email) :
    ∀ c ∈ email.toList, ¬('A' ≤ c ∧ c ≤ 'Z') := by
  have fixed := String.toList_inj.mpr same
  rw [Text.toAsciiLowercase, String.toList_ofList] at fixed
  intro c member upper
  have kept := List.map_inj_left.mp (fixed.symm.trans (List.map_id _).symm) c member
  simp only [upper.1, upper.2, decide_true, Bool.and_self, if_true, id_eq] at kept
  have moved : ∀ code < 91, 65 ≤ code → (Char.ofNat (code + 32)).toNat ≠ code := by decide
  exact moved c.toNat (Nat.lt_succ_of_le upper.2) upper.1 (congrArg Char.toNat kept)

/-- A checked address is canonical exactly if no `@` follows the first one. -/
theorem CheckedAddress.canonical_iff (checked : CheckedAddress email) :
    CanonicalAddress email ↔ FirstAtOnly email := by
  rcases checked.split with ⟨name, domain, found, nonempty, domainNonempty⟩
  have parts := splitOnce_at.mp found
  constructor
  · intro canonical name' domain' found'
    rcases canonical.parts with ⟨first, rest, emailEq, firstFree, restFree, _, _⟩
    have same := splitOnce_at.mpr ⟨emailEq, firstFree⟩
    rw [found', Option.some.injEq, Prod.mk.injEq] at same
    rw [same.2]
    exact restFree
  · intro only
    have free : ∀ c ∈ email.toList, Text.isWhitespace c = false := by
      simpa [Text.any] using checked.noWhitespace
    exact ⟨⟨name, domain, parts.1, parts.2, only name domain found, nonempty, domainNonempty⟩,
      free, not_upper_of_toAsciiLowercase checked.lowercase⟩

/-! ## The four checks -/

theorem checked_of_canonicalEmail (valid : GitHub.canonicalEmail email = true) :
    CheckedAddress email := by
  rw [GitHub.canonicalEmail] at valid
  split at valid
  · contradiction
  · rename_i name domain found
    simp only [Text.isEmpty, Bool.and_eq_true, Bool.not_eq_true', beq_iff_eq] at valid
    rcases valid with ⟨⟨⟨nonempty, domainNonempty⟩, noWhitespace⟩, lowercase⟩
    exact ⟨⟨name, domain, found, by simpa using nonempty, by simpa using domainNonempty⟩,
      noWhitespace, lowercase⟩

/-- A domain with a dot is not empty. -/
theorem nonempty_of_dotted {domain : String} (dotted : Text.contains domain "." = true) :
    domain ≠ "" := by
  rintro rfl
  contradiction

theorem checked_of_workloadEmail (valid : Workload.canonicalEmail email = true) :
    CheckedAddress email := by
  rw [Workload.canonicalEmail] at valid
  split at valid
  · contradiction
  · rename_i name domain found
    simp only [Text.isEmpty, Bool.and_eq_true, Bool.not_eq_true', beq_iff_eq] at valid
    rcases valid with ⟨⟨⟨nonempty, dotted⟩, noWhitespace⟩, lowercase⟩
    exact ⟨⟨name, domain, found, by simpa using nonempty, nonempty_of_dotted dotted⟩,
      noWhitespace, lowercase⟩

theorem checked_of_validTaskBinding {task : WorkloadTaskBinding}
    (valid : validTaskBinding task = true) : CheckedAddress task.ownerEmail := by
  simp only [validTaskBinding, Bool.and_eq_true, Bool.not_eq_true', beq_iff_eq] at valid
  rcases valid with ⟨⟨⟨_, lowercase⟩, noWhitespace⟩, parts⟩
  split at parts
  · contradiction
  · rename_i name domain found
    simp only [Text.isEmpty, Bool.and_eq_true, Bool.not_eq_true'] at parts
    exact ⟨⟨name, domain, found, by simpa using parts.1, nonempty_of_dotted parts.2⟩,
      noWhitespace, lowercase⟩

/-- The actors of a valid policy have checked addresses that end in an allowed
domain. -/
theorem actors_of_validate {policy : Policy} (valid : policy.validate = .ok ())
    {actors : AList fun _ : String => Actor} (configured : policy.actors = some actors) :
    ∃ domains, policy.allowedEmailDomains = some domains ∧
      ∀ entry ∈ actors.entries, GitHub.canonicalEmail entry.2.email = true ∧
        ∃ domain ∈ domains, Text.endsWith entry.2.email ("@" ++ domain) = true := by
  rcases Policy.validate_eq_ok_iff.mp valid with ⟨_, _, _, five, six⟩
  have sound : ∃ domains bounded, policy.allowedEmailDomains = some domains ∧
      validateActors actors (some domains) bounded = .ok () := by
    by_cases version : policy.version = policyVersion
    · rcases Policy.validateV5_eq_ok_iff.mp (five version) with
        ⟨_, domains, actors', domainsEq, _, actorsEq, _, accepted, _⟩
      rw [configured, Option.some.injEq] at actorsEq
      exact ⟨domains, false, domainsEq, actorsEq ▸ accepted⟩
    · rcases Policy.validateV6_eq_ok_iff.mp (six version) with ⟨_, _, bundle, _⟩
      rcases Policy.validateBundle_eq_ok configured bundle with ⟨_, domains, domainsEq, accepted⟩
      exact ⟨domains, true, domainsEq, accepted⟩
  rcases sound with ⟨domains, bounded, domainsEq, accepted⟩
  refine ⟨domains, domainsEq, fun entry member => ?_⟩
  have sound := (validateActors_eq_ok_iff.mp accepted).1 entry member
  exact ⟨sound.2.2.1, sound.2.2.2.2 domains rfl⟩

theorem tasks_of_validate {policy : WorkloadPolicy} (valid : policy.validate = .ok ())
    {identity : WorkloadIdentity} (member : identity ∈ policy.identities)
    {task : WorkloadTaskBinding} (bound : identity.task = some task) :
    CheckedAddress task.ownerEmail := by
  rcases WorkloadPolicy.validate_eq_ok_iff.mp valid with ⟨_, _, loop⟩
  have sound := ((validateIdentities_singlePass.accepts_nil_iff policy.identities).mp loop).1
  have taskValid := (sound identity member).task task bound
  simp only [WorkloadTaskBinding.valid, Bool.and_eq_true] at taskValid
  exact checked_of_workloadEmail taskValid.2

theorem bindings_of_validate {parseUrl : String → Option Url} {policy : OidcPolicy}
    (valid : policy.validate parseUrl = .ok ()) {provider : OidcProviderPolicy}
    (member : provider ∈ policy.providers) {binding : OidcBinding}
    (bound : binding ∈ provider.bindings) : CheckedAddress binding.task.ownerEmail := by
  have providers := (OidcPolicy.validate_eq_ok_iff.mp valid).providers provider member
  have loop := (validateBindings_singlePass.accepts_nil_iff provider.bindings).mp providers.2
  have sound := loop.1 binding bound
  simp only [OidcBinding.sound, Bool.and_eq_true] at sound
  exact checked_of_validTaskBinding sound.2

theorem assertion_of_claimsValid {issuer audience : String} {now : Int}
    {claims : BrowserHop1RequestClaims}
    (valid : Browser.claimsValid issuer audience now claims = true) :
    CheckedAddress claims.email := by
  unfold Browser.claimsValid at valid
  split at valid
  · contradiction
  · simp only [Bool.not_eq_true', Bool.or_eq_false_iff, Bool.not_eq_false'] at valid
    exact checked_of_canonicalEmail valid.1.1.1.1.2

/-! ## All emails -/

/-- The part after the `@` is an allowed domain. -/
def AllowedDomain (policy : Policy) (email : String) : Prop :=
  ∃ domains, policy.allowedEmailDomains = some domains ∧
    ∃ name domain, email = name ++ "@" ++ domain ∧ '@' ∉ domain.toList ∧ domain ∈ domains

/-- An address with one `@` that ends in an allowed domain has that domain. -/
theorem allowedDomain_of_canonical {policy : Policy} {domains : List String}
    (configured : policy.allowedEmailDomains = some domains) (canonical : CanonicalAddress email)
    {domain : String} (member : domain ∈ domains)
    (ends : Text.endsWith email ("@" ++ domain) = true) : AllowedDomain policy email := by
  rcases canonical.parts with ⟨name, rest, emailEq, nameFree, restFree, _, _⟩
  rw [Text.endsWith_iff] at ends
  rcases ends with ⟨before, joined⟩
  have same : name.toList ++ '@' :: rest.toList = before ++ '@' :: domain.toList := by
    rw [emailEq] at joined
    simpa using joined.symm
  have cut := (List.append_cons_inj_of_notMem nameFree restFree).mp same
  have domainEq : domain = rest := String.toList_inj.mp cut.2.2.symm
  exact ⟨domains, configured, name, rest, emailEq, restFree, domainEq ▸ member⟩

/-- **Verified addresses are canonical exactly if no `@` follows their first one.** -/
theorem emails_canonical_iff {K : Type} (policy : Policy) (workloadPolicy : WorkloadPolicy)
    (oidcPolicy : OidcPolicy) (parseUrl : String → Option Url) (tokens : Browser.TokenLibrary K)
    (verifier : StewardBrowserAssertionVerifier K) :
    (policy.validate = .ok () → ∀ actors, policy.actors = some actors →
      ∀ entry ∈ actors.entries,
        CanonicalAddress entry.2.email ∧ AllowedDomain policy entry.2.email ↔
          FirstAtOnly entry.2.email) ∧
    (workloadPolicy.validate = .ok () → ∀ identity ∈ workloadPolicy.identities,
      ∀ task, identity.task = some task →
        (CanonicalAddress task.ownerEmail ↔ FirstAtOnly task.ownerEmail)) ∧
    (oidcPolicy.validate parseUrl = .ok () → ∀ provider ∈ oidcPolicy.providers,
      ∀ binding ∈ provider.bindings,
        (CanonicalAddress binding.task.ownerEmail ↔ FirstAtOnly binding.task.ownerEmail)) ∧
    ∀ second now assertion claims,
      verifier.verify tokens second now assertion = some claims →
        (CanonicalAddress claims.email ↔ FirstAtOnly claims.email) := by
  refine ⟨?_, ?_, ?_, ?_⟩
  · intro valid actors configured entry member
    rcases actors_of_validate valid configured with ⟨domains, domainsEq, checked⟩
    rcases checked entry member with ⟨canonicalEmail, domain, allowed, ends⟩
    have canonical := (checked_of_canonicalEmail canonicalEmail).canonical_iff
    constructor
    · intro both
      exact canonical.mp both.1
    · intro only
      have address := canonical.mpr only
      exact ⟨address, allowedDomain_of_canonical domainsEq address allowed ends⟩
  · intro valid identity member task bound
    exact (tasks_of_validate valid member bound).canonical_iff
  · intro valid provider member binding bound
    exact (bindings_of_validate valid member bound).canonical_iff
  · intro second now assertion claims accepted
    have valid := (StewardBrowserAssertionVerifier.of_verify accepted).2
    exact (assertion_of_claimsValid valid).canonical_iff

/-- The sample actor with this address. -/
def actorWithEmail (email : String) : Actor where
  email := email
  canonicalUserId := "usr_0123456789abcdef0123456789abcdef"
  verified := true

/-- The sample policy with this address of its actor. -/
def policyWithEmail (email : String) : Policy :=
  { GitHub.samplePolicy with actors := some (AList.singleton "42" (actorWithEmail email)) }

/-- A token library that accepts nothing. -/
def rejectingTokens : Browser.TokenLibrary Unit where
  decodeHeader _ := none
  accepts _ _ _ _ _ := false
  payload _ := none

theorem emails_canonical_sample :
    CanonicalAddress "dev@example.com" ∧
      AllowedDomain (policyWithEmail "dev@example.com") "dev@example.com" := by
  have valid : (policyWithEmail "dev@example.com").validate = .ok () := by decide +kernel
  have all := emails_canonical_iff (policyWithEmail "dev@example.com")
    { version := workloadPolicyVersion, identities := [] } Oidc.samplePolicy sampleUrl
    rejectingTokens { issuer := "", audience := "", keys := ∅ }
  apply (all.1 valid _ rfl ⟨"42", actorWithEmail "dev@example.com"⟩ List.mem_cons_self).mpr
  intro name domain found
  have parts : Text.splitOnce "dev@example.com" "@" = some ("dev", "example.com") := by
    decide +kernel
  cases found.symm.trans parts
  decide

/-- An address in a foreign domain that ends in the allowed one. -/
theorem second_at_accepted :
    (policyWithEmail "root@evil.test@example.com").validate = .ok () ∧
      (policyWithEmail "root@evil.test@example.com").actors =
        some (AList.singleton "42" (actorWithEmail "root@evil.test@example.com")) ∧
      ¬CanonicalAddress (actorWithEmail "root@evil.test@example.com").email := by
  refine ⟨by decide +kernel, rfl, ?_⟩
  rintro ⟨⟨name, domain, parts, nameFree, domainFree, _, _⟩, _, _⟩
  have one : (name ++ "@" ++ domain).toList.count '@' = 1 := by
    simp [List.count_eq_zero.mpr nameFree, List.count_eq_zero.mpr domainFree]
  rw [← parts] at one
  exact absurd one (by decide)

end OidcExchange
