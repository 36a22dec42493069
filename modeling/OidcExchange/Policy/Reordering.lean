import OidcExchange.GitHub.Identity
import OidcExchange.Oidc.Policy
import OidcExchange.Workload.Validation

/-!
# The order of the entries of a policy

The rules of a GitHub policy, the providers and bindings of an OIDC policy and the
identities of a workload policy are lists, and the actors are a map without an
order.  Validation accepts a reordered policy exactly if it accepts the original.
A valid policy authorizes the same in every order; only the providers of an OIDC
policy need the validation for that, since the first one with the issuer decides.
-/

namespace OidcExchange

/-! ## GitHub policies -/

namespace GitHub

/-- The same policy with its rules and its actors in another order. -/
structure Policy.Reordered (policy other : Policy) : Prop where
  version : policy.version = other.version
  serviceGroup : policy.serviceGroup = other.serviceGroup
  actingGroupPrefix : policy.actingGroupPrefix = other.actingGroupPrefix
  allowedEmailDomains : policy.allowedEmailDomains = other.allowedEmailDomains
  repositories : policy.repositories.Perm other.repositories
  actors : Option.Rel (fun actors others => actors.entries.Perm others.entries)
    policy.actors other.actors

theorem validateActors_iff_of_perm {actors others : AList fun _ : String => Actor}
    {domains : Option (List String)} {bounded : Bool}
    (permutation : actors.entries.Perm others.entries) :
    validateActors actors domains bounded = .ok () ↔
      validateActors others domains bounded = .ok () :=
  (validateActorEntries_singlePass domains bounded).accepts_iff_of_perm Eq.symm permutation

theorem validateRulesV5_iff_of_perm {repositories others : List RepositoryPolicy}
    (permutation : repositories.Perm others) :
    validateRulesV5 repositories [] = .ok () ↔ validateRulesV5 others [] = .ok () :=
  validateRulesV5_singlePass.accepts_iff_of_perm Eq.symm permutation

theorem validateRulesV6_iff_of_perm {repositories others : List RepositoryPolicy}
    (permutation : repositories.Perm others) :
    validateRulesV6 repositories [] [] = .ok () ↔ validateRulesV6 others [] [] = .ok () :=
  validateRulesV6_singlePass.accepts_iff_of_perm Overlaps.symm permutation

theorem entries_eq_nil_iff_of_perm {actors others : AList fun _ : String => Actor}
    (permutation : actors.entries.Perm others.entries) :
    actors.entries = [] ↔ others.entries = [] := by
  rw [← List.length_eq_zero_iff, ← List.length_eq_zero_iff, permutation.length_eq]

namespace Policy.Reordered

variable {policy other : Policy} {claims : GitHubClaims}

/-- The actors are either absent in both or reordered. -/
theorem actors_cases (reordered : policy.Reordered other) :
    (policy.actors = none ∧ other.actors = none) ∨
      ∃ actors others, policy.actors = some actors ∧ other.actors = some others ∧
        actors.entries.Perm others.entries := by
  have related := reordered.actors
  cases configured : policy.actors with
  | none =>
      cases configuredToo : other.actors with
      | none => exact Or.inl ⟨rfl, rfl⟩
      | some others =>
          rw [configured, configuredToo] at related
          cases related
  | some actors =>
      cases configuredToo : other.actors with
      | none =>
          rw [configured, configuredToo] at related
          cases related
      | some others =>
          rw [configured, configuredToo] at related
          cases related with
          | some permutation => exact Or.inr ⟨actors, others, rfl, rfl, permutation⟩

theorem validateV5_iff (reordered : policy.Reordered other) :
    policy.validateV5 = .ok () ↔ other.validateV5 = .ok () := by
  rw [validateV5_eq_ok_iff, validateV5_eq_ok_iff, reordered.actingGroupPrefix,
    reordered.allowedEmailDomains, validateRulesV5_iff_of_perm reordered.repositories]
  rcases reordered.actors_cases with
    ⟨absent, absentToo⟩ | ⟨actors, others, configured, configuredToo, permutation⟩
  · simp [absent, absentToo]
  · simp [configured, configuredToo, entries_eq_nil_iff_of_perm permutation,
      validateActors_iff_of_perm permutation]

theorem validateBundle_iff (reordered : policy.Reordered other) :
    policy.validateBundle = .ok () ↔ other.validateBundle = .ok () := by
  unfold validateBundle
  rw [reordered.actingGroupPrefix, reordered.allowedEmailDomains]
  rcases reordered.actors_cases with
    ⟨absent, absentToo⟩ | ⟨actors, others, configured, configuredToo, permutation⟩
  · rw [absent, absentToo]
  · rw [configured, configuredToo]
    cases other.allowedEmailDomains with
    | none => simp
    | some domains =>
        cases other.actingGroupPrefix with
        | none => simp
        | some actingGroupPrefix =>
            simp [check_eq_ok_iff, require_eq_ok_iff, entries_eq_nil_iff_of_perm permutation,
              validateActors_iff_of_perm permutation]

theorem validateV6_iff (reordered : policy.Reordered other) :
    policy.validateV6 = .ok () ↔ other.validateV6 = .ok () := by
  rw [validateV6_eq_ok_iff, validateV6_eq_ok_iff, reordered.actingGroupPrefix,
    reordered.allowedEmailDomains, reordered.validateBundle_iff,
    validateRulesV6_iff_of_perm reordered.repositories]

theorem validate_iff (reordered : policy.Reordered other) :
    policy.validate = .ok () ↔ other.validate = .ok () := by
  have nonempty : policy.repositories ≠ [] ↔ other.repositories ≠ [] := by
    rw [← List.length_pos_iff, ← List.length_pos_iff, reordered.repositories.length_eq]
  rw [Policy.validate_eq_ok_iff, Policy.validate_eq_ok_iff, reordered.version,
    reordered.serviceGroup, nonempty, reordered.validateV5_iff, reordered.validateV6_iff]

theorem lookup_eq (reordered : policy.Reordered other) (actorId : String) :
    (policy.actors.bind fun actors => actors.lookup actorId) =
      other.actors.bind fun actors => actors.lookup actorId := by
  rcases reordered.actors_cases with
    ⟨absent, absentToo⟩ | ⟨actors, others, configured, configuredToo, permutation⟩
  · rw [absent, absentToo]
  · rw [configured, configuredToo]
    exact AList.perm_lookup permutation

theorem authorizeV5_eq (reordered : policy.Reordered other) :
    policy.authorizeV5 claims = other.authorizeV5 claims := by
  have rules := reordered.repositories.filter fun repository => repository.matchesV5 claims
  unfold authorizeV5
  rw [reordered.lookup_eq, reordered.actingGroupPrefix, reordered.serviceGroup]
  split
  · rfl
  · rcases eq_or_two_of_perm rules with same | ⟨_, _, _, _, _, _, first, second⟩
    · rw [same]
    · rw [first, second]

theorem grantV6_eq (reordered : policy.Reordered other) :
    policy.grantV6 claims = other.grantV6 claims := by
  unfold grantV6
  rw [reordered.actingGroupPrefix, reordered.serviceGroup]
  rcases reordered.actors_cases with
    ⟨absent, absentToo⟩ | ⟨actors, others, configured, configuredToo, permutation⟩
  · rw [absent, absentToo]
  · rw [configured, configuredToo]
    simp only [AList.perm_lookup permutation]

theorem authorizeV6_eq (reordered : policy.Reordered other) :
    policy.authorizeV6 claims = other.authorizeV6 claims := by
  have rules := reordered.repositories.filter fun repository => repository.matchesV6 claims
  unfold authorizeV6
  rw [reordered.grantV6_eq]
  split
  · rfl
  · rcases eq_or_two_of_perm rules with same | ⟨_, _, _, _, _, _, first, second⟩
    · rw [same]
    · rw [first, second]

theorem authorize_eq (reordered : policy.Reordered other) (claims : GitHubClaims) :
    policy.authorize claims = other.authorize claims := by
  unfold Policy.authorize
  rw [reordered.version, reordered.authorizeV5_eq, reordered.authorizeV6_eq]

end Policy.Reordered

end GitHub

/-! ## OIDC policies -/

namespace Oidc

open OidcExchange.Jwks

/-- The same provider with its bindings in another order. -/
structure OidcProviderPolicy.Reordered (provider other : OidcProviderPolicy) : Prop where
  issuer : provider.issuer = other.issuer
  audience : provider.audience = other.audience
  bindings : provider.bindings.Perm other.bindings

/-- The same policy with its providers and their bindings in another order. -/
structure OidcPolicy.Reordered (policy other : OidcPolicy) : Prop where
  version : policy.version = other.version
  providers : ∃ providers, policy.providers.Perm providers ∧
    List.Forall₂ OidcProviderPolicy.Reordered providers other.providers

theorem OidcProviderPolicy.Reordered.valid_iff {parseUrl : String → Option Url}
    {provider other : OidcProviderPolicy} (reordered : provider.Reordered other) :
    provider.Valid parseUrl ↔ other.Valid parseUrl := by
  have loop := validateBindings_singlePass.accepts_iff_of_perm claimBindingsOverlap_symm
    reordered.bindings
  have nonempty : provider.bindings.isEmpty = other.bindings.isEmpty := by
    rw [Bool.eq_iff_iff, List.isEmpty_iff_length_eq_zero, List.isEmpty_iff_length_eq_zero,
      reordered.bindings.length_eq]
  rw [OidcProviderPolicy.Valid, OidcProviderPolicy.Valid, OidcProviderPolicy.sound,
    OidcProviderPolicy.sound, reordered.issuer, reordered.audience, nonempty,
    reordered.bindings.length_eq]
  exact and_congr_right fun _ => loop

namespace OidcPolicy.Reordered

variable {parseUrl : String → Option Url} {policy other : OidcPolicy} {claims : OidcClaims}

theorem length_eq (reordered : policy.Reordered other) :
    policy.providers.length = other.providers.length := by
  rcases reordered.providers with ⟨providers, permutation, replaced⟩
  rw [permutation.length_eq, replaced.length_eq]

theorem validateProviders_iff (reordered : policy.Reordered other) :
    validateProviders parseUrl policy.providers [] = .ok () ↔
      validateProviders parseUrl other.providers [] = .ok () := by
  rcases reordered.providers with ⟨providers, permutation, replaced⟩
  have pass := validateProviders_singlePass parseUrl
  have permuted := pass.accepts_iff_of_perm Eq.symm permutation
  have exchanged := pass.accepts_iff_of_forall₂
    OidcProviderPolicy.Reordered.valid_iff
    (fun similar similarSeen => by rw [similar.issuer, similarSeen.issuer]) replaced
    List.Forall₂.nil
  exact permuted.trans exchanged

theorem validate_iff (reordered : policy.Reordered other) :
    policy.validate parseUrl = .ok () ↔ other.validate parseUrl = .ok () := by
  have empty : policy.providers.isEmpty = other.providers.isEmpty := by
    rw [Bool.eq_iff_iff, List.isEmpty_iff_length_eq_zero, List.isEmpty_iff_length_eq_zero,
      reordered.length_eq]
  unfold OidcPolicy.validate
  rw [reordered.version, empty, reordered.length_eq]
  split
  · rfl
  · split
    · rfl
    · exact reordered.validateProviders_iff

/-- Both policies have the same providers up to the order of the bindings. -/
theorem exists_provider_iff (reordered : policy.Reordered other)
    {holds : OidcProviderPolicy → Prop}
    (same : ∀ {provider other}, provider.Reordered other → (holds provider ↔ holds other)) :
    (∃ provider ∈ policy.providers, holds provider) ↔
      ∃ provider ∈ other.providers, holds provider := by
  rcases reordered.providers with ⟨providers, permutation, replaced⟩
  have permuted : (∃ provider ∈ policy.providers, holds provider) ↔
      ∃ provider ∈ providers, holds provider := by
    simp only [permutation.mem_iff]
  rw [permuted]
  clear permuted permutation
  generalize other.providers = others at replaced ⊢
  induction replaced with
  | nil => rfl
  | cons similar _ inductionHypothesis =>
      rw [List.exists_mem_cons_iff, List.exists_mem_cons_iff]
      exact or_congr (same similar) inductionHypothesis

end OidcPolicy.Reordered

theorem OidcPolicy.authorize_eq_error {policy : OidcPolicy} {claims : OidcClaims}
    {failure : OidcPolicyError} (refused : policy.authorize claims = .error failure) :
    failure = .unauthorized := by
  unfold OidcPolicy.authorize at refused
  split at refused
  · cases refused
    rfl
  · split at refused
    · contradiction
    · cases refused
      rfl

/-- A valid policy authorizes the same in every order. -/
theorem OidcPolicy.Reordered.authorize_eq {parseUrl : String → Option Url}
    {policy other : OidcPolicy} (reordered : policy.Reordered other)
    (valid : policy.validate parseUrl = .ok ()) (claims : OidcClaims) :
    policy.authorize claims = other.authorize claims := by
  have same : ∀ task, policy.authorize claims = .ok task ↔ other.authorize claims = .ok task := by
    intro task
    rw [(OidcPolicy.validate_eq_ok_iff.mp valid).authorize_eq_ok_iff,
      (OidcPolicy.validate_eq_ok_iff.mp (reordered.validate_iff.mp valid)).authorize_eq_ok_iff]
    apply reordered.exists_provider_iff
    intro provider replacement similar
    simp only [similar.issuer, similar.bindings.mem_iff]
  cases authorized : policy.authorize claims with
  | ok task => exact ((same task).mp authorized).symm
  | error failure =>
      cases authorizedToo : other.authorize claims with
      | ok task =>
          rw [(same task).mpr authorizedToo] at authorized
          contradiction
      | error otherFailure =>
          rw [OidcPolicy.authorize_eq_error authorized,
            OidcPolicy.authorize_eq_error authorizedToo]

end Oidc

/-! ## Workload policies -/

namespace Workload

/-- The same policy with its identities in another order. -/
structure WorkloadPolicy.Reordered (policy other : WorkloadPolicy) : Prop where
  version : policy.version = other.version
  identities : policy.identities.Perm other.identities

namespace WorkloadPolicy.Reordered

variable {policy other : WorkloadPolicy}

theorem validate_iff (reordered : policy.Reordered other) :
    policy.validate = .ok () ↔ other.validate = .ok () := by
  have loop := validateIdentities_singlePass.accepts_iff_of_perm
    (fun clash => clash.imp Eq.symm Eq.symm) reordered.identities
  have nonempty : policy.identities ≠ [] ↔ other.identities ≠ [] := by
    rw [← List.length_pos_iff, ← List.length_pos_iff, reordered.identities.length_eq]
  rw [WorkloadPolicy.validate_eq_ok_iff, WorkloadPolicy.validate_eq_ok_iff, reordered.version,
    nonempty]
  exact and_congr_right fun _ => and_congr_right fun _ => loop

theorem authorize_eq (reordered : policy.Reordered other) (username : String) :
    policy.authorize username = other.authorize username := by
  have matching := reordered.identities.filter fun identity => identity.username == username
  unfold WorkloadPolicy.authorize
  rcases eq_or_two_of_perm matching with same | ⟨_, _, _, _, _, _, first, second⟩
  · rw [same]
  · rw [first, second]

end WorkloadPolicy.Reordered

end Workload

/-! ## All policies -/

end OidcExchange
