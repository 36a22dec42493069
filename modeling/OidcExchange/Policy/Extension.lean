import OidcExchange.Policy.Reordering

/-!
# Extending a policy

A policy is extended by rules, bindings, identities and actors.  If validation accepts the
result then the claims that no addition concerns are decided as before, and what was
authorized stays authorized with the same identity.  The exception are the rules of a
GitHub policy of version 5, which may overlap: an added rule that matches takes the
authorization away.
-/

namespace OidcExchange

universe u

section Matching

variable {α : Type u} {entries added larger : List α} {belongs : α → Bool} {entry : α}

/-- The one match among the entries is the one match of the larger list exactly if no
addition matches. -/
theorem filter_larger_iff (permutation : larger.Perm (entries ++ added))
    (single : entries.filter belongs = [entry]) :
    larger.filter belongs = [entry] ↔ ∀ other ∈ added, belongs other = false := by
  have matching := permutation.filter belongs
  rw [List.filter_append, single] at matching
  constructor
  · intro unique other member
    rw [unique] at matching
    have length := matching.length_eq
    rw [List.length_append, List.length_singleton, Nat.left_eq_add,
      List.length_eq_zero_iff] at length
    exact Bool.eq_false_iff.mpr (List.filter_eq_nil_iff.mp length other member)
  · intro apart
    have none : added.filter belongs = [] :=
      List.filter_eq_nil_iff.mpr fun other member => Bool.eq_false_iff.mp (apart other member)
    rw [none, List.append_nil] at matching
    exact List.perm_singleton.mp matching

/-- Where no addition matches, the matches are the same up to their order. -/
theorem filter_larger_perm (permutation : larger.Perm (entries ++ added))
    (apart : ∀ other ∈ added, belongs other = false) :
    (larger.filter belongs).Perm (entries.filter belongs) := by
  have none : added.filter belongs = [] :=
    List.filter_eq_nil_iff.mpr fun other member => Bool.eq_false_iff.mp (apart other member)
  have matching := permutation.filter belongs
  rwa [List.filter_append, none, List.append_nil] at matching

/-- An addition cannot match beside an entry if at most one of them may. -/
theorem added_apart (permutation : larger.Perm (entries ++ added))
    (unique : (larger.filter belongs).length ≤ 1) (single : entries.filter belongs = [entry]) :
    ∀ other ∈ added, belongs other = false := by
  have present : entry ∈ entries.filter belongs := single ▸ List.mem_cons_self
  rcases List.mem_filter.mp present with ⟨member, belong⟩
  have stays : entry ∈ larger := permutation.mem_iff.mpr (List.mem_append_left _ member)
  exact (filter_larger_iff permutation single).mp (filter_eq_singleton unique stays belong)

end Matching

/-! ## GitHub policies -/

namespace GitHub

/-- What the version of a policy asks of a rule. -/
def RepositoryPolicy.matchesFor (repository : RepositoryPolicy) (version : String)
    (claims : GitHubClaims) : Bool :=
  if version = policyVersion then repository.matchesV5 claims else repository.matchesV6 claims

/-- The policy with more rules and with more actors, if it has any. -/
structure Policy.ExtendedBy (policy larger : Policy) (rules : List RepositoryPolicy) : Prop where
  version : policy.version = larger.version
  serviceGroup : policy.serviceGroup = larger.serviceGroup
  actingGroupPrefix : policy.actingGroupPrefix = larger.actingGroupPrefix
  repositories : larger.repositories.Perm (policy.repositories ++ rules)
  actors : Option.Rel (fun actors others => ∀ actorId actor,
    actors.lookup actorId = some actor → others.lookup actorId = some actor)
    policy.actors larger.actors

/-- The policy has actors, but not this one. -/
def Policy.Unmapped (policy : Policy) (claims : GitHubClaims) : Prop :=
  ∃ actors, policy.actors = some actors ∧ actors.lookup claims.actorId = none

namespace Policy.ExtendedBy

variable {policy larger : Policy} {rules : List RepositoryPolicy} {claims : GitHubClaims}
  {identity : Identity}

theorem lookup_eq (extended : policy.ExtendedBy larger rules)
    (mapped : ¬ policy.Unmapped claims) :
    (larger.actors.bind fun actors => actors.lookup claims.actorId) =
      policy.actors.bind fun actors => actors.lookup claims.actorId := by
  have related := extended.actors
  cases before : policy.actors with
  | none =>
      rw [before] at related
      cases after : larger.actors with
      | none => rfl
      | some others =>
          rw [after] at related
          cases related
  | some actors =>
      rw [before] at related
      cases after : larger.actors with
      | none =>
          rw [after] at related
          cases related
      | some others =>
          rw [after] at related
          cases related with
          | some keeps =>
              cases found : actors.lookup claims.actorId with
              | none => exact absurd ⟨actors, before, found⟩ mapped
              | some actor => simp [found, keeps claims.actorId actor found]

theorem grantV6_eq (extended : policy.ExtendedBy larger rules)
    (mapped : ¬ policy.Unmapped claims) : larger.grantV6 claims = policy.grantV6 claims := by
  have same := extended.lookup_eq mapped
  have related := extended.actors
  unfold Policy.grantV6
  rw [← extended.serviceGroup, ← extended.actingGroupPrefix]
  cases before : policy.actors with
  | none =>
      rw [before] at related
      cases after : larger.actors with
      | none => rfl
      | some others =>
          rw [after] at related
          cases related
  | some actors =>
      rw [before] at related
      cases after : larger.actors with
      | none =>
          rw [after] at related
          cases related
      | some others =>
          rw [before, after, Option.bind_some, Option.bind_some] at same
          dsimp only
          rw [same]

/-- The matching rule and the actor decide. -/
theorem authorize_eq (extended : policy.ExtendedBy larger rules)
    (mapped : ¬ policy.Unmapped claims)
    (same : larger.repositories.filter (fun rule => rule.matchesFor policy.version claims) =
      policy.repositories.filter fun rule => rule.matchesFor policy.version claims) :
    larger.authorize claims = policy.authorize claims := by
  unfold Policy.authorize
  rw [← extended.version]
  by_cases version : policy.version = policyVersion
  · simp only [RepositoryPolicy.matchesFor, if_pos version] at same
    rw [if_pos version, if_pos version, Policy.authorizeV5, Policy.authorizeV5,
      extended.lookup_eq mapped, same, extended.serviceGroup, extended.actingGroupPrefix]
  · simp only [RepositoryPolicy.matchesFor, if_neg version] at same
    rw [if_neg version, if_neg version, Policy.authorizeV6, Policy.authorizeV6,
      extended.grantV6_eq mapped, same]

end Policy.ExtendedBy

namespace Policy

variable {policy larger : Policy} {rules : List RepositoryPolicy} {claims : GitHubClaims}
  {identity : Identity}

/-- Whoever is authorized is authorized by one rule and is mapped. -/
theorem exists_rule_of_authorize (authorized : policy.authorize claims = .ok identity) :
    (∃ rule, policy.repositories.filter
      (fun rule => rule.matchesFor policy.version claims) = [rule]) ∧
      ¬ policy.Unmapped claims := by
  unfold authorize at authorized
  by_cases version : policy.version = policyVersion
  · rw [if_pos version, authorizeV5] at authorized
    simp only [RepositoryPolicy.matchesFor, if_pos version]
    split at authorized
    · contradiction
    · next actor found =>
        constructor
        · split at authorized
          · next rule matching => exact ⟨rule, matching⟩
          · contradiction
        · rintro ⟨actors, configured, absent⟩
          simp [configured, absent] at found
  · rw [if_neg version] at authorized
    simp only [RepositoryPolicy.matchesFor, if_neg version]
    split at authorized
    · rcases authorizeV6_eq_ok_iff.mp authorized with
        ⟨_, matching, email, emailVerified, groups, granted, _⟩
      refine ⟨matching, ?_⟩
      rintro ⟨actors, configured, absent⟩
      simp [grantV6, configured, absent] at granted
    · contradiction

/-- A valid policy of version 6 has at most one match. -/
theorem unique_of_validate (valid : policy.validate = .ok ())
    (version : policy.version ≠ policyVersion) (claims : GitHubClaims) :
    (policy.repositories.filter
      fun rule => rule.matchesFor policy.version claims).length ≤ 1 := by
  have current : policy.version = sourceAuthPolicyVersion :=
    ((validate_eq_ok_iff.mp valid).1).resolve_left version
  simp only [RepositoryPolicy.matchesFor, if_neg version]
  exact matching_length_le_one claims (validate_v6_eq_ok current valid).2

end Policy

/-- What was authorized stays authorized, and what is authorized now was so before or
concerns an addition. -/
theorem Policy.ExtendedBy.authorize_iff {policy larger : Policy} {rules : List RepositoryPolicy}
    (extended : policy.ExtendedBy larger rules) (valid : larger.validate = .ok ())
    (claims : GitHubClaims) (identity : Identity) :
    (policy.authorize claims = .ok identity →
      (larger.authorize claims = .ok identity ↔ (policy.version = policyVersion →
        ∀ rule ∈ rules, rule.matchesV5 claims = false))) ∧
    (larger.authorize claims = .ok identity → policy.authorize claims = .ok identity ∨
      (∃ rule ∈ rules, rule.matchesFor policy.version claims = true) ∨
        policy.Unmapped claims) := by
  constructor
  · intro authorized
    rcases Policy.exists_rule_of_authorize authorized with ⟨⟨rule, single⟩, mapped⟩
    have decided : larger.authorize claims = .ok identity ↔
        ∀ other ∈ rules, other.matchesFor policy.version claims = false := by
      rw [← filter_larger_iff extended.repositories single]
      constructor
      · intro stays
        rcases (Policy.exists_rule_of_authorize stays).1 with ⟨other, alone⟩
        rw [← extended.version] at alone
        have present : rule ∈ larger.repositories.filter
            (fun rule => rule.matchesFor policy.version claims) := by
          have member : rule ∈ policy.repositories.filter
              (fun rule => rule.matchesFor policy.version claims) := single ▸ List.mem_cons_self
          rcases List.mem_filter.mp member with ⟨member, matching⟩
          exact List.mem_filter.mpr
            ⟨extended.repositories.mem_iff.mpr (List.mem_append_left _ member), matching⟩
        rw [alone, List.mem_singleton] at present
        rw [alone, present]
      · intro alone
        rw [extended.authorize_eq mapped (alone.trans single.symm)]
        exact authorized
    rw [decided]
    by_cases version : policy.version = policyVersion
    · simp only [RepositoryPolicy.matchesFor, if_pos version]
      exact ⟨fun apart _ => apart, fun apart => apart version⟩
    · have unique := Policy.unique_of_validate valid (extended.version ▸ version) claims
      rw [← extended.version] at unique
      exact ⟨fun _ isV5 => absurd isV5 version,
        fun _ => added_apart extended.repositories unique single⟩
  · intro authorized
    by_cases mapped : policy.Unmapped claims
    · exact Or.inr (Or.inr mapped)
    by_cases concerned : ∃ rule ∈ rules, rule.matchesFor policy.version claims = true
    · exact Or.inr (Or.inl concerned)
    have apart : ∀ rule ∈ rules, rule.matchesFor policy.version claims = false :=
      fun rule member => Bool.eq_false_iff.mpr fun matching => concerned ⟨rule, member, matching⟩
    rcases (Policy.exists_rule_of_authorize authorized).1 with ⟨rule, alone⟩
    rw [← extended.version] at alone
    have matching := filter_larger_perm extended.repositories apart
    rw [alone] at matching
    have single := List.singleton_perm.mp matching
    left
    rw [← extended.authorize_eq mapped (alone.trans single)]
    exact authorized

end GitHub

/-! ## OIDC policies -/

namespace Oidc

/-- The policy binds these claims of the issuer. -/
def OidcPolicy.Binds (policy : OidcPolicy) (issuer : String) (binding : OidcBinding) : Prop :=
  ∃ provider ∈ policy.providers, provider.issuer = issuer ∧ binding ∈ provider.bindings

/-- The policy with more bindings, be it of the same or of further providers. -/
def OidcPolicy.ExtendedBy (policy larger : OidcPolicy) (bindings : List (String × OidcBinding)) :
    Prop :=
  ∀ issuer binding, larger.Binds issuer binding ↔
    policy.Binds issuer binding ∨ (issuer, binding) ∈ bindings

theorem OidcPolicy.Valid.authorize_iff_binds {parseUrl : String → Option Jwks.Url}
    {policy : OidcPolicy} (valid : policy.Valid parseUrl) {claims : OidcClaims}
    {task : Workload.WorkloadTaskBinding} :
    policy.authorize claims = .ok task ↔
      ∃ binding, policy.Binds claims.issuer binding ∧
        Satisfies claims.values binding.claims ∧ binding.task = task := by
  rw [valid.authorize_eq_ok_iff]
  constructor
  · rintro ⟨provider, member, sameIssuer, binding, bound, satisfied, sameTask⟩
    exact ⟨binding, ⟨provider, member, sameIssuer, bound⟩, satisfied, sameTask⟩
  · rintro ⟨binding, ⟨provider, member, sameIssuer, bound⟩, satisfied, sameTask⟩
    exact ⟨provider, member, sameIssuer, binding, bound, satisfied, sameTask⟩

/-- What was authorized stays authorized, and what is authorized now was so before or
satisfies an additional binding of its issuer. -/
theorem OidcPolicy.ExtendedBy.authorize_imp {parseUrl : String → Option Jwks.Url}
    {policy larger : OidcPolicy} {bindings : List (String × OidcBinding)}
    (extended : policy.ExtendedBy larger bindings) (valid : policy.Valid parseUrl)
    (validLarger : larger.Valid parseUrl) (claims : OidcClaims)
    (task : Workload.WorkloadTaskBinding) :
    (policy.authorize claims = .ok task → larger.authorize claims = .ok task) ∧
    (larger.authorize claims = .ok task → policy.authorize claims = .ok task ∨
      ∃ binding, (claims.issuer, binding) ∈ bindings ∧
        Satisfies claims.values binding.claims) := by
  rw [valid.authorize_iff_binds, validLarger.authorize_iff_binds]
  constructor
  · rintro ⟨binding, bound, satisfied, sameTask⟩
    exact ⟨binding, (extended _ _).mpr (Or.inl bound), satisfied, sameTask⟩
  · rintro ⟨binding, bound, satisfied, sameTask⟩
    rcases (extended _ _).mp bound with bound | added
    · exact Or.inl ⟨binding, bound, satisfied, sameTask⟩
    · exact Or.inr ⟨binding, added, satisfied⟩

end Oidc

/-! ## Workload policies -/

namespace Workload

/-- A valid policy has at most one identity with a username. -/
theorem WorkloadPolicy.unique_of_validate {policy : WorkloadPolicy}
    (valid : policy.validate = .ok ()) (username : String) :
    (policy.identities.filter fun identity => identity.username == username).length ≤ 1 := by
  have apart := ((validateIdentities_singlePass.accepts_nil_iff _).mp
    (WorkloadPolicy.validate_eq_ok_iff.mp valid).2.2).2
  apply length_filter_le_one apart
  intro first second isFirst isSecond
  left
  rw [beq_iff_eq] at isFirst isSecond
  rw [isFirst, isSecond]

/-- The identity with the username is the one that is authorized. -/
theorem WorkloadPolicy.authorize_eq_ok_iff {policy : WorkloadPolicy} {username : String}
    {authorized : WorkloadIdentity} :
    policy.authorize username = .ok authorized ↔
      ∃ identity,
        policy.identities.filter (fun identity => identity.username == username) = [identity] ∧
          authorized = { identity with roles := identity.roles.insertionSort (· ≤ ·) } := by
  unfold authorize
  split
  · next identity single =>
      rw [single]
      simp [eq_comm]
  · next several =>
      constructor
      · intro authorized
        contradiction
      · rintro ⟨identity, single, _⟩
        exact absurd single (several identity)

/-- What was authorized stays authorized, and what is authorized now was so before or has
the username of an additional identity. -/
theorem WorkloadPolicy.authorize_imp_of_perm {policy larger : WorkloadPolicy}
    {identities : List WorkloadIdentity}
    (permutation : larger.identities.Perm (policy.identities ++ identities))
    (valid : larger.validate = .ok ()) (username : String) (identity : WorkloadIdentity) :
    (policy.authorize username = .ok identity → larger.authorize username = .ok identity) ∧
    (larger.authorize username = .ok identity → policy.authorize username = .ok identity ∨
      ∃ added ∈ identities, added.username = username) := by
  rw [authorize_eq_ok_iff, authorize_eq_ok_iff]
  constructor
  · rintro ⟨entry, single, sorted⟩
    have apart := added_apart permutation (unique_of_validate valid username) single
    exact ⟨entry, (filter_larger_iff permutation single).mpr apart, sorted⟩
  · rintro ⟨entry, alone, sorted⟩
    by_cases concerned : ∃ added ∈ identities, added.username = username
    · exact Or.inr concerned
    have apart : ∀ added ∈ identities, (added.username == username) = false := by
      intro added member
      rw [beq_eq_false_iff_ne]
      exact fun same => concerned ⟨added, member, same⟩
    have matching := filter_larger_perm permutation apart
    rw [alone] at matching
    exact Or.inl ⟨entry, (List.singleton_perm.mp matching).symm, sorted⟩

end Workload

/-- **Extending a valid policy changes nothing that the additions do not concern.**  The
rules of a GitHub policy of version 5 may overlap, and there an added rule that matches
takes the authorization away. -/
theorem policy_extension_local (parseUrl : String → Option Jwks.Url) :
    (∀ (policy larger : GitHub.Policy) rules, policy.ExtendedBy larger rules →
      larger.validate = .ok () → ∀ claims identity,
        (policy.authorize claims = .ok identity →
          (larger.authorize claims = .ok identity ↔
            (policy.version = GitHub.policyVersion →
              ∀ rule ∈ rules, rule.matchesV5 claims = false))) ∧
        (larger.authorize claims = .ok identity → policy.authorize claims = .ok identity ∨
          (∃ rule ∈ rules, rule.matchesFor policy.version claims = true) ∨
            policy.Unmapped claims)) ∧
    (∀ (policy larger : Oidc.OidcPolicy) bindings, policy.ExtendedBy larger bindings →
      policy.validate parseUrl = .ok () → larger.validate parseUrl = .ok () →
        ∀ claims task,
          (policy.authorize claims = .ok task → larger.authorize claims = .ok task) ∧
          (larger.authorize claims = .ok task → policy.authorize claims = .ok task ∨
            ∃ binding, (claims.issuer, binding) ∈ bindings ∧
              Oidc.Satisfies claims.values binding.claims)) ∧
    ∀ (policy larger : Workload.WorkloadPolicy) identities,
      larger.identities.Perm (policy.identities ++ identities) → larger.validate = .ok () →
        ∀ username identity,
          (policy.authorize username = .ok identity →
            larger.authorize username = .ok identity) ∧
          (larger.authorize username = .ok identity →
            policy.authorize username = .ok identity ∨
              ∃ added ∈ identities, added.username = username) := by
  refine ⟨fun policy larger rules extended valid => extended.authorize_iff valid, ?_, ?_⟩
  · intro policy larger bindings extended valid validLarger
    rw [Oidc.OidcPolicy.validate_eq_ok_iff] at valid validLarger
    exact extended.authorize_imp valid validLarger
  · intro policy larger identities permutation valid
    exact Workload.WorkloadPolicy.authorize_imp_of_perm permutation valid

/-- A rule that overlaps with the one of the shared policy. -/
def overlappingRules : List GitHub.RepositoryPolicy :=
  GitHub.sharedPolicy.repositories.map fun rule =>
    { rule with events := some ["push", "release"] }

def broaderPolicy : GitHub.Policy :=
  { GitHub.sharedPolicy with
    repositories := GitHub.sharedPolicy.repositories ++ overlappingRules }

/-- Version 5 accepts a second rule for the pushes to a repository, and then authorizes
nobody there any more. -/
theorem policy_extension_local_sample :
    broaderPolicy.validate = .ok () ∧
    ∃ identity, GitHub.sharedPolicy.authorize GitHub.sampleClaims = .ok identity ∧
      broaderPolicy.authorize GitHub.sampleClaims ≠ .ok identity := by
  have valid : broaderPolicy.validate = .ok () := by decide +kernel
  have extended : GitHub.sharedPolicy.ExtendedBy broaderPolicy overlappingRules :=
    ⟨rfl, rfl, rfl, .refl _, .some fun _ _ found => found⟩
  refine ⟨valid, _, rfl, fun stays => ?_⟩
  have decided := ((policy_extension_local fun _ => none).1 _ _ _ extended valid
    GitHub.sampleClaims _).1 rfl
  have apart := decided.mp stays rfl _ List.mem_cons_self
  revert apart
  decide

end OidcExchange
