import OidcExchange.GitHub.Policy

/-!
# What the loops of the policy validation accept

`validate_v5`, `validate_v6` and `validate_actors` compare every entry with the
entries before it.  Each of them accepts exactly the lists whose entries are sound
and of which no two clash, so their verdict does not depend on the order.
-/

namespace OidcExchange.GitHub

/-- A check before the rest of a validation. -/
theorem check_eq_ok_iff {ε α : Type} {check : Except ε Unit} {next : Unit → Except ε α}
    {result : α} :
    check >>= next = .ok result ↔ check = .ok () ∧ next () = .ok result := by
  rw [bind_eq_ok_iff]
  constructor
  · rintro ⟨⟨⟩, checked, rest⟩
    exact ⟨checked, rest⟩
  · rintro ⟨checked, rest⟩
    exact ⟨(), checked, rest⟩

/-! ## Actors -/

/-- What `validate_actors` checks of a mapping on its own. -/
def ActorSound (allowedEmailDomains : Option (List String)) (boundedIds : Bool)
    (entry : Sigma fun _ : String => Actor) : Prop :=
  (if boundedIds then numericIdentifier entry.1 else decimalIdentifier entry.1) = true ∧
    entry.2.verified = true ∧ canonicalEmail entry.2.email = true ∧
      canonicalUserId entry.2.canonicalUserId = true ∧
        ∀ domains, allowedEmailDomains = some domains →
          ∃ domain ∈ domains, Text.endsWith entry.2.email ("@" ++ domain) = true

theorem validateActorEntries_singlePass (allowedEmailDomains : Option (List String))
    (boundedIds : Bool) :
    SinglePass
      (fun entries seen => validateActorEntries allowedEmailDomains boundedIds entries
        (seen.map fun entry => entry.2.canonicalUserId) = .ok ())
      (ActorSound allowedEmailDomains boundedIds)
      fun first second => first.2.canonicalUserId = second.2.canonicalUserId where
  nil _ := rfl
  cons entry entries seen := by
    rcases entry with ⟨actorId, actor⟩
    cases allowedEmailDomains with
    | none =>
        simp [validateActorEntries, check_eq_ok_iff, require_eq_ok_iff, ActorSound, and_assoc,
          Sigma.forall]
    | some domains =>
        simp [validateActorEntries, check_eq_ok_iff, require_eq_ok_iff, ActorSound, and_assoc,
          Sigma.forall]

/-- The mappings that `validate_actors` accepts. -/
theorem validateActors_eq_ok_iff {actors : AList fun _ : String => Actor}
    {allowedEmailDomains : Option (List String)} {boundedIds : Bool} :
    validateActors actors allowedEmailDomains boundedIds = .ok () ↔
      (∀ entry ∈ actors.entries, ActorSound allowedEmailDomains boundedIds entry) ∧
        actors.entries.Pairwise fun first second =>
          first.2.canonicalUserId ≠ second.2.canonicalUserId :=
  (validateActorEntries_singlePass allowedEmailDomains boundedIds).accepts_nil_iff actors.entries

/-! ## Rules of version 5 -/

theorem requiredSelector_eq_ok_iff {name : String} {selector : Option (List String)}
    {values : List String} :
    requiredSelector name selector = .ok values ↔
      selector = some values ∧ requireValues name values = .ok () := by
  cases selector with
  | none => simp [requiredSelector]
  | some configured =>
      simp only [requiredSelector, check_eq_ok_iff, Option.some.injEq]
      constructor
      · rintro ⟨valid, ⟨⟩⟩
        exact ⟨rfl, valid⟩
      · rintro ⟨rfl, valid⟩
        exact ⟨valid, rfl⟩

/-- What `validate_v5` checks of a rule on its own. -/
structure RepositoryPolicy.SoundV5 (repository : RepositoryPolicy) : Prop where
  ids : validateRepositoryIds repository false = .ok ()
  workflowRefs : repository.jobWorkflowRefs = none
  workflowShas : repository.jobWorkflowShas = none
  subjects : ∃ values, repository.subjects = some values ∧
    requireValues "subjects" values = .ok () ∧ validateSubjects values = .ok ()
  events : ∃ values, repository.events = some values ∧ requireValues "events" values = .ok ()
  refs : ∃ values, repository.refs = some values ∧ requireValues "refs" values = .ok ()

/-- What `validate_v5` compares of two rules. -/
def RepositoryPolicy.ruleV5 (repository : RepositoryPolicy) :
    String × String × List String × List String × List String :=
  (repository.ownerId, repository.repositoryId, repository.subjects.getD [],
    repository.events.getD [], repository.refs.getD [])

theorem validateRulesV5_singlePass :
    SinglePass
      (fun repositories seen =>
        validateRulesV5 repositories (seen.map RepositoryPolicy.ruleV5) = .ok ())
      RepositoryPolicy.SoundV5 fun first second => first.ruleV5 = second.ruleV5 where
  nil _ := rfl
  cons repository repositories seen := by
    simp only [validateRulesV5, bind_eq_ok_iff, require_eq_ok_iff,
      requiredSelector_eq_ok_iff, Bool.not_eq_true', Bool.or_eq_false_iff, Option.isSome_eq_false_iff,
      Option.isNone_iff_eq_none, List.contains_eq_mem, decide_eq_false_iff_not]
    constructor
    · rintro ⟨_, ids, _, ⟨workflowRefs, workflowShas⟩, subjects, ⟨subjectsEq, subjectsValid⟩, events,
        ⟨eventsEq, eventsValid⟩, refs, ⟨refsEq, refsValid⟩, _, fresh, _, subjectsExact, rest⟩
      have ruleEq : repository.ruleV5 =
          (repository.ownerId, repository.repositoryId, subjects, events, refs) := by
        simp [RepositoryPolicy.ruleV5, subjectsEq, eventsEq, refsEq]
      refine ⟨⟨ids, workflowRefs, workflowShas, ⟨subjects, subjectsEq, subjectsValid, subjectsExact⟩,
        ⟨events, eventsEq, eventsValid⟩, ⟨refs, refsEq, refsValid⟩⟩, ?_, ?_⟩
      · intro earlier member same
        rw [← ruleEq, ← same] at fresh
        exact fresh (List.mem_map_of_mem member)
      · rw [List.map_cons, ruleEq]
        exact rest
    · rintro ⟨⟨ids, workflowRefs, workflowShas, ⟨subjects, subjectsEq, subjectsValid, subjectsExact⟩,
        ⟨events, eventsEq, eventsValid⟩, ⟨refs, refsEq, refsValid⟩⟩, apart, rest⟩
      have ruleEq : repository.ruleV5 =
          (repository.ownerId, repository.repositoryId, subjects, events, refs) := by
        simp [RepositoryPolicy.ruleV5, subjectsEq, eventsEq, refsEq]
      refine ⟨(), ids, (), ⟨workflowRefs, workflowShas⟩, subjects, ⟨subjectsEq, subjectsValid⟩,
        events, ⟨eventsEq, eventsValid⟩, refs, ⟨refsEq, refsValid⟩, (), ?_, (), subjectsExact, ?_⟩
      · rw [← ruleEq]
        intro seen
        rcases List.mem_map.mp seen with ⟨earlier, member, same⟩
        exact apart earlier member same
      · rw [List.map_cons, ruleEq] at rest
        exact rest

/-! ## Rules of version 6 -/

/-- What `validate_v6` checks of a rule on its own. -/
structure RepositoryPolicy.SoundV6 (repository : RepositoryPolicy) : Prop where
  ids : validateRepositoryIds repository true = .ok ()
  subjects : validateSelector "subjects" repository.subjects validateSubjects = .ok ()
  events : validateSelector "events" repository.events (fun _ => .ok ()) = .ok ()
  refs : validateSelector "refs" repository.refs (fun _ => .ok ()) = .ok ()
  workflowRefs : validateSelector "job_workflow_refs" repository.jobWorkflowRefs
    validateWorkflowRefs = .ok ()
  workflowShas : validateSelector "job_workflow_shas" repository.jobWorkflowShas
    validateWorkflowShas = .ok ()

/-- The exact rules among those that `validate_v6` has seen. -/
def exactRules (seen : List RepositoryPolicy) : List (String × String) :=
  (seen.filter fun rule => rule.repositoryId != "*").map fun rule =>
    (rule.ownerId, rule.repositoryId)

/-- The owners of the wildcard rules among those that `validate_v6` has seen. -/
def wildcardOwners (seen : List RepositoryPolicy) : List String :=
  (seen.filter fun rule => rule.repositoryId == "*").map RepositoryPolicy.ownerId

/-- The test for ambiguity finds every overlap with the rules seen so far. -/
theorem separate_iff {seen : List RepositoryPolicy} {repository : RepositoryPolicy} :
    Separate (exactRules seen) (wildcardOwners seen) repository ↔
      ∀ earlier ∈ seen, ¬ Overlaps earlier repository := by
  constructor
  · rintro ⟨scope, wildcard, exact⟩ earlier member ⟨sameOwner, overlap⟩
    by_cases earlierWildcard : earlier.repositoryId = "*"
    · apply scope
      exact List.mem_map.mpr ⟨earlier, List.mem_filter.mpr ⟨member, by simpa using earlierWildcard⟩,
        sameOwner⟩
    have seenExact : (earlier.ownerId, earlier.repositoryId) ∈ exactRules seen :=
      List.mem_map.mpr ⟨earlier, List.mem_filter.mpr ⟨member, by simpa using earlierWildcard⟩, rfl⟩
    by_cases isWildcard : repository.repositoryId = "*"
    · exact wildcard isWildcard _ seenExact sameOwner
    · rcases overlap with same | same | same
      · exact earlierWildcard same
      · exact isWildcard same
      · rw [sameOwner, same] at seenExact
        exact exact isWildcard seenExact
  · intro apart
    constructor
    · intro seenScope
      rcases List.mem_map.mp seenScope with ⟨earlier, member, sameOwner⟩
      rw [List.mem_filter, beq_iff_eq] at member
      exact apart earlier member.1 ⟨sameOwner, Or.inl member.2⟩
    · intro isWildcard configured seenExact sameOwner
      rcases List.mem_map.mp seenExact with ⟨earlier, member, rfl⟩
      exact apart earlier (List.mem_filter.mp member).1 ⟨sameOwner, Or.inr (Or.inl isWildcard)⟩
    · intro _ seenExact
      rcases List.mem_map.mp seenExact with ⟨earlier, member, same⟩
      rw [Prod.mk.injEq] at same
      exact apart earlier (List.mem_filter.mp member).1 ⟨same.1, Or.inr (Or.inr same.2)⟩

theorem validateRulesV6_singlePass :
    SinglePass
      (fun repositories seen =>
        validateRulesV6 repositories (exactRules seen) (wildcardOwners seen) = .ok ())
      RepositoryPolicy.SoundV6 Overlaps where
  nil _ := rfl
  cons repository repositories seen := by
    rw [← separate_iff]
    constructor
    · intro valid
      rcases validateRulesV6_cons valid with ⟨separate, afterWildcard, afterExact⟩
      simp only [validateRulesV6, check_eq_ok_iff] at valid
      rcases valid with ⟨ids, -, subjects, events, refs, workflowRefs, workflowShas, -⟩
      refine ⟨⟨ids, subjects, events, refs, workflowRefs, workflowShas⟩, separate, ?_⟩
      by_cases wildcard : repository.repositoryId = "*"
      · simpa [exactRules, wildcardOwners, wildcard] using afterWildcard wildcard
      · simpa [exactRules, wildcardOwners, wildcard] using afterExact wildcard
    · rintro ⟨⟨ids, subjects, events, refs, workflowRefs, workflowShas⟩, separate, rest⟩
      simp only [validateRulesV6, check_eq_ok_iff, require_eq_ok_iff]
      refine ⟨ids, ?_, subjects, events, refs, workflowRefs, workflowShas, ?_⟩
      · by_cases wildcard : repository.repositoryId = "*"
        · simpa [wildcard, separate.scope] using separate.wildcard wildcard
        · simpa [wildcard, separate.scope] using separate.exact wildcard
      · by_cases wildcard : repository.repositoryId = "*"
        · simpa [exactRules, wildcardOwners, wildcard] using rest
        · simpa [exactRules, wildcardOwners, wildcard] using rest

theorem Overlaps.symm {first second : RepositoryPolicy} (overlap : Overlaps first second) :
    Overlaps second first := by
  rcases overlap with ⟨sameOwner, wildcard | wildcard | same⟩
  · exact ⟨sameOwner.symm, Or.inr (Or.inl wildcard)⟩
  · exact ⟨sameOwner.symm, Or.inl wildcard⟩
  · exact ⟨sameOwner.symm, Or.inr (Or.inr same.symm)⟩

/-! ## Policies -/

namespace Policy

variable {policy : Policy}

theorem validate_eq_ok_iff :
    policy.validate = .ok () ↔
      (policy.version = policyVersion ∨ policy.version = sourceAuthPolicyVersion) ∧
        (Text.startsWith policy.serviceGroup servicePrefix = true ∧
          policy.serviceGroup ≠ servicePrefix) ∧
        policy.repositories ≠ [] ∧
        (policy.version = policyVersion → policy.validateV5 = .ok ()) ∧
        (policy.version ≠ policyVersion → policy.validateV6 = .ok ()) := by
  by_cases version : policy.version = policyVersion
  · simp [validate, check_eq_ok_iff, require_eq_ok_iff, version]
  · simp [validate, check_eq_ok_iff, require_eq_ok_iff, version]

theorem validateV5_eq_ok_iff :
    policy.validateV5 = .ok () ↔
      policy.actingGroupPrefix = some actingPrefix ∧
      ∃ domains actors, policy.allowedEmailDomains = some domains ∧
        validateDomains domains = .ok () ∧ policy.actors = some actors ∧
          actors.entries ≠ [] ∧ validateActors actors (some domains) false = .ok () ∧
            validateRulesV5 policy.repositories [] = .ok () := by
  cases acting : policy.actingGroupPrefix with
  | none => simp [validateV5, acting]
  | some actingGroupPrefix =>
      cases domains : policy.allowedEmailDomains with
      | none => simp [validateV5, acting, domains, bind_eq_ok_iff]
      | some configuredDomains =>
          cases actors : policy.actors with
          | none => simp [validateV5, acting, domains, actors, bind_eq_ok_iff]
          | some configuredActors =>
              cases empty : configuredActors.entries.isEmpty with
              | true =>
                  have nil : configuredActors.entries = [] := List.isEmpty_iff.mp empty
                  simp [validateV5, acting, domains, actors, bind_eq_ok_iff, Option.filter, nil]
              | false =>
                  have nonempty : configuredActors.entries ≠ [] :=
                    List.isEmpty_eq_false_iff.mp empty
                  simp [validateV5, acting, domains, actors, check_eq_ok_iff, require_eq_ok_iff,
                    Option.filter, nonempty]

theorem validateV6_eq_ok_iff :
    policy.validateV6 = .ok () ↔
      (∀ configured, policy.actingGroupPrefix = some configured → configured = actingPrefix) ∧
        validateConfiguredDomains policy.allowedEmailDomains = .ok () ∧
          policy.validateBundle = .ok () ∧ validateRulesV6 policy.repositories [] [] = .ok () := by
  simp only [validateV6, check_eq_ok_iff, require_eq_ok_iff]
  cases policy.actingGroupPrefix with
  | none => simp
  | some configured => simp

/-- The rules of a valid policy of version 5, each of them sound. -/
theorem soundV5_of_validateV5 (valid : policy.validateV5 = .ok ()) :
    ∀ repository ∈ policy.repositories, repository.SoundV5 := by
  rcases validateV5_eq_ok_iff.mp valid with ⟨_, _, _, _, _, _, _, _, rules⟩
  exact ((validateRulesV5_singlePass.accepts_nil_iff policy.repositories).mp rules).1

end Policy

end OidcExchange.GitHub
