import OidcExchange.GitHub.Validation

/-!
# The identity that a policy selects

An authorized identity is that of the mapped actor: nothing else of the claims
chooses the subject, the email or the groups, and no two actors share a canonical
user.  A policy that is valid in version 5 and in version 6 authorizes the same
claims in both.
-/

namespace OidcExchange.GitHub

/-! ## Migration from version 5 to version 6 -/

theorem decimalIdentifier_wildcard : decimalIdentifier "*" = false := by decide

/-- The rules of version 5 match the same claims in version 6. -/
theorem RepositoryPolicy.SoundV5.matchesV6_eq {repository : RepositoryPolicy}
    (sound : repository.SoundV5) (claims : GitHubClaims) :
    repository.matchesV6 claims = repository.matchesV5 claims := by
  rcases sound.subjects with ⟨subjects, subjectsEq, _⟩
  rcases sound.events with ⟨events, eventsEq, _⟩
  rcases sound.refs with ⟨refs, refsEq, _⟩
  have exact : repository.repositoryId ≠ "*" := by
    intro wildcard
    have ids := sound.ids
    simp [validateRepositoryIds, require_eq_ok_iff, wildcard, decimalIdentifier_wildcard] at ids
  have exactBool : (repository.repositoryId == "*") = false := beq_eq_false_iff_ne.mpr exact
  simp [matchesV5, matchesV6, subjectsEq, eventsEq, refsEq, sound.workflowRefs, sound.workflowShas,
    selectorMatches, optionalSelectorMatches, exactBool]

namespace Policy

variable {policy : Policy} {claims : GitHubClaims}

theorem authorize_of_v5 (version : policy.version = policyVersion) :
    policy.authorize claims = policy.authorizeV5 claims := by
  rw [authorize, if_pos version]

theorem authorize_of_v6 (version : policy.version = sourceAuthPolicyVersion) :
    policy.authorize claims = policy.authorizeV6 claims := by
  have otherVersion : sourceAuthPolicyVersion ≠ policyVersion := by decide
  rw [authorize, version, if_neg otherVersion, if_pos rfl]

/-- An identity of version 5 needs a verified actor, one matching rule and the acting
prefix. -/
theorem authorizeV5_eq_ok {identity : Identity}
    (authorized : policy.authorizeV5 claims = .ok identity) :
    ∃ actors actor actingGroupPrefix, ∃ repository : RepositoryPolicy,
      policy.actors = some actors ∧ actors.lookup claims.actorId = some actor ∧
      actor.verified = true ∧ policy.actingGroupPrefix = some actingGroupPrefix ∧
      identity =
        { actorId := claims.actorId
          actorLogin := none
          email := some actor.email
          emailVerified := some true
          subject := "github-actions:actor:" ++ claims.actorId
          groups := some (sortGroups
            [policy.serviceGroup, actingGroupPrefix ++ actor.email,
              canonicalUserPrefix ++ actor.canonicalUserId])
          identityContract := GitHub.identityContract
          repository := repository.ownerId ++ "/" ++ repository.repositoryId
          workflowRef := claims.workflowRef
          jobWorkflowRef := claims.jobWorkflowRef } := by
  unfold authorizeV5 at authorized
  cases configured : policy.actors with
  | none => simp [configured] at authorized
  | some actors =>
      cases found : actors.lookup claims.actorId with
      | none => simp [configured, found] at authorized
      | some actor =>
          cases verified : actor.verified with
          | false => simp [configured, found, verified, Option.filter] at authorized
          | true =>
              simp only [configured, found, verified, Option.filter, Option.bind_some,
                ↓reduceIte] at authorized
              split at authorized
              · next repository _ =>
                  split at authorized
                  · contradiction
                  · next actingGroupPrefix acting =>
                      cases authorized
                      exact ⟨actors, actor, actingGroupPrefix, repository, rfl, found, verified,
                        acting, rfl⟩
              · contradiction

/-- The identity that version 6 makes of one of version 5. -/
def migrated (claims : GitHubClaims) (identity : Identity) : Identity :=
  { identity with
    actorLogin := some claims.actor
    identityContract := sourceAuthIdentityContract }

/-- A policy that both versions accept maps verified actors with numeric IDs. -/
theorem authorizeV6_eq_map {actors : AList fun _ : String => Actor}
    (sound : ∀ repository ∈ policy.repositories, repository.SoundV5)
    (configured : policy.actors = some actors)
    (acting : policy.actingGroupPrefix = some actingPrefix)
    (numeric : ∀ actorId actor, actors.lookup actorId = some actor →
      numericIdentifier actorId = true ∧ actor.verified = true) :
    policy.authorizeV6 claims = (policy.authorizeV5 claims).map (migrated claims) := by
  have sameRules : policy.repositories.filter (fun repository => repository.matchesV6 claims) =
      policy.repositories.filter fun repository => repository.matchesV5 claims := by
    apply List.filter_congr
    intro repository member
    exact (sound repository member).matchesV6_eq claims
  cases found : actors.lookup claims.actorId with
  | none =>
      have rejected : policy.authorizeV5 claims = .error .unauthorized := by
        simp [authorizeV5, configured, found]
      rw [rejected, authorizeV6, grantV6, configured]
      simp only [found, Option.filter_none]
      split
      · rfl
      · split <;> rfl
  | some actor =>
      rcases numeric claims.actorId actor found with ⟨numericActor, verified⟩
      have kept : (some actor).filter (fun actor => actor.verified) = some actor := by
        simp [Option.filter, verified]
      cases matching :
          policy.repositories.filter (fun repository => repository.matchesV5 claims) with
      | nil =>
          simp [authorizeV5, authorizeV6, configured, found, kept, matching, sameRules,
            numericActor, Except.map]
      | cons repository rest =>
          cases rest with
          | cons second rest =>
              simp [authorizeV5, authorizeV6, configured, found, kept, matching, sameRules,
                numericActor, Except.map]
          | nil =>
              have member : repository ∈
                  policy.repositories.filter fun repository => repository.matchesV5 claims := by
                rw [matching]
                exact List.mem_singleton_self repository
              have matched := (List.mem_filter.mp member).2
              simp only [RepositoryPolicy.matchesV5, Bool.and_eq_true, beq_iff_eq] at matched
              rcases matched with ⟨⟨⟨⟨owner, id⟩, _⟩, _⟩, _⟩
              simp [authorizeV5, authorizeV6, grantV6, configured, found, kept, matching,
                sameRules, numericActor, acting, verified, owner, id, migrated, Except.map]

/-- The same document under another version. -/
def withVersion (policy : Policy) (version : String) : Policy :=
  { policy with version := version }

/-- The actors that both validations accept. -/
theorem numeric_of_validateBundle {actors : AList fun _ : String => Actor}
    (configured : policy.actors = some actors) (bundle : policy.validateBundle = .ok ()) :
    ∀ actorId actor, actors.lookup actorId = some actor →
      numericIdentifier actorId = true ∧ actor.verified = true := by
  intro actorId actor found
  rcases validateBundle_eq_ok configured bundle with ⟨_, domains, _, valid⟩
  rcases (validateActors_eq_ok_iff.mp valid).1 ⟨actorId, actor⟩ (AList.mem_lookup_iff.mp found) with
    ⟨numeric, verified, _⟩
  exact ⟨numeric, verified⟩

theorem authorize_withVersion_eq_map
    (validV5 : (policy.withVersion policyVersion).validate = .ok ())
    (validV6 : (policy.withVersion sourceAuthPolicyVersion).validate = .ok ()) :
    (policy.withVersion sourceAuthPolicyVersion).authorize claims =
      ((policy.withVersion policyVersion).authorize claims).map (migrated claims) := by
  have v5 := (validate_eq_ok_iff.mp validV5).2.2.2.1 rfl
  have otherVersion : sourceAuthPolicyVersion ≠ policyVersion := by decide
  have v6 := (validate_eq_ok_iff.mp validV6).2.2.2.2 otherVersion
  rcases validateV5_eq_ok_iff.mp v5 with ⟨acting, _, actors, _, _, configured, _⟩
  rcases validateV6_eq_ok_iff.mp v6 with ⟨_, _, bundle, _⟩
  have isV5 : (policy.withVersion policyVersion).version = policyVersion := rfl
  have isV6 : (policy.withVersion sourceAuthPolicyVersion).version = sourceAuthPolicyVersion := rfl
  have mapped : policy.authorizeV6 claims = (policy.authorizeV5 claims).map (migrated claims) :=
    authorizeV6_eq_map (soundV5_of_validateV5 v5) configured acting
      (numeric_of_validateBundle configured bundle)
  rw [authorize_of_v5 isV5, authorize_of_v6 isV6]
  exact mapped

/-- A document that passes validation in both versions authorizes the same claims in
both, with identities that differ only in the login and the contract. -/
theorem authorize_v5_v6_agree
    (validV5 : (policy.withVersion policyVersion).validate = .ok ())
    (validV6 : (policy.withVersion sourceAuthPolicyVersion).validate = .ok ())
    (claims : GitHubClaims) :
    ((∃ identity, (policy.withVersion policyVersion).authorize claims = .ok identity) ↔
      ∃ identity, (policy.withVersion sourceAuthPolicyVersion).authorize claims =
        .ok identity) ∧
    ∀ before after, (policy.withVersion policyVersion).authorize claims = .ok before →
      (policy.withVersion sourceAuthPolicyVersion).authorize claims = .ok after →
        after.actorId = before.actorId ∧ after.subject = before.subject ∧
        after.email = before.email ∧ after.emailVerified = before.emailVerified ∧
        after.groups = before.groups ∧ after.repository = before.repository ∧
        after.workflowRef = before.workflowRef ∧ after.jobWorkflowRef = before.jobWorkflowRef ∧
        (before.actorLogin = none ∧ after.actorLogin = some claims.actor) ∧
        (before.identityContract = GitHub.identityContract ∧
          after.identityContract = sourceAuthIdentityContract) := by
  rw [authorize_withVersion_eq_map validV5 validV6]
  cases authorized : (policy.withVersion policyVersion).authorize claims with
  | error failure => simp [Except.map]
  | ok identity =>
      constructor
      · constructor
        · intro _
          exact ⟨migrated claims identity, rfl⟩
        · intro _
          exact ⟨identity, rfl⟩
      · intro before after beforeEq afterEq
        cases beforeEq
        cases afterEq
        have isV5 : (policy.withVersion policyVersion).version = policyVersion := rfl
        rw [authorize_of_v5 isV5] at authorized
        rcases authorizeV5_eq_ok authorized with ⟨_, _, _, _, _, _, _, _, rfl⟩
        simp [migrated]

end Policy

/-- A document of version 5 that is valid in version 6 as well, with two actors. -/
def sharedPolicy : Policy where
  version := policyVersion
  serviceGroup := "agents.apelogic.ai/service-principal:ci"
  actingGroupPrefix := some actingPrefix
  allowedEmailDomains := some ["example.com"]
  repositories :=
    [{ ownerId := "7", repositoryId := "11", subjects := some ["repo:octo/app:ref:refs/heads/main"],
       events := some ["push"], refs := some ["refs/heads/main"], jobWorkflowRefs := none,
       jobWorkflowShas := none }]
  actors := some (AList.insert "43"
    { email := "ops@example.com"
      canonicalUserId := "usr_fedcba9876543210fedcba9876543210"
      verified := true }
    (AList.singleton "42"
      { email := "dev@example.com"
        canonicalUserId := "usr_0123456789abcdef0123456789abcdef"
        verified := true }))

theorem sharedPolicy_valid : sharedPolicy.validate = .ok () := by
  decide +kernel

theorem Policy.authorize_v5_v6_agree_sample :
    (sharedPolicy.withVersion policyVersion).validate = .ok () ∧
    (sharedPolicy.withVersion sourceAuthPolicyVersion).validate = .ok () ∧
    ∃ before after, (sharedPolicy.withVersion policyVersion).authorize sampleClaims = .ok before ∧
      (sharedPolicy.withVersion sourceAuthPolicyVersion).authorize sampleClaims = .ok after ∧
      after.subject = before.subject ∧ after.groups = before.groups := by
  have validV5 : (sharedPolicy.withVersion policyVersion).validate = .ok () := sharedPolicy_valid
  have validV6 : (sharedPolicy.withVersion sourceAuthPolicyVersion).validate = .ok () := by
    decide +kernel
  rcases authorize_v5_v6_agree validV5 validV6 sampleClaims with ⟨both, agree⟩
  have accepted : ∃ identity,
      (sharedPolicy.withVersion policyVersion).authorize sampleClaims = .ok identity :=
    ⟨_, rfl⟩
  rcases both.mp accepted with ⟨after, authorizedAfter⟩
  rcases accepted with ⟨before, authorizedBefore⟩
  rcases agree before after authorizedBefore authorizedAfter with ⟨_, subject, _, _, groups, _⟩
  exact ⟨validV5, validV6, before, after, authorizedBefore, authorizedAfter, subject, groups⟩

/-! ## Actors and identities -/

namespace Policy

variable {policy : Policy} {claims : GitHubClaims}

/-- The subject is that of the actor, with or without a mapping. -/
theorem subject_of_authorize {identity : Identity}
    (authorized : policy.authorize claims = .ok identity) :
    identity.subject = "github-actions:actor:" ++ claims.actorId := by
  unfold authorize at authorized
  split at authorized
  · rcases authorizeV5_eq_ok authorized with ⟨_, _, _, _, _, _, _, _, rfl⟩
    rfl
  · split at authorized
    · rcases authorizeV6_eq_ok_iff.mp authorized with ⟨_, _, _, _, _, _, rfl⟩
      rfl
    · contradiction

/-- The mapping of an actor of a valid policy, and what it gives the identity. -/
structure Mapped (policy : Policy) (claims : GitHubClaims) (identity : Identity)
    (actors : AList fun _ : String => Actor) (actor : Actor) : Prop where
  configured : policy.actors = some actors
  found : actors.lookup claims.actorId = some actor
  subject : identity.subject = "github-actions:actor:" ++ claims.actorId
  email : identity.email = some actor.email
  emailVerified : identity.emailVerified = some true
  groups : identity.groups = some (sortGroups
    [policy.serviceGroup, actingPrefix ++ actor.email,
      canonicalUserPrefix ++ actor.canonicalUserId])

/-- A valid policy with actors authorizes mapped actors only. -/
theorem exists_mapped (valid : policy.validate = .ok ())
    (bundle : policy.version = policyVersion ∨ policy.actors ≠ none) {identity : Identity}
    (authorized : policy.authorize claims = .ok identity) :
    ∃ actors actor, policy.Mapped claims identity actors actor := by
  rcases validate_eq_ok_iff.mp valid with ⟨supported, _, _, v5, v6⟩
  by_cases version : policy.version = policyVersion
  · rcases validateV5_eq_ok_iff.mp (v5 version) with ⟨acting, _⟩
    rw [authorize_of_v5 version] at authorized
    rcases authorizeV5_eq_ok authorized with
      ⟨actors, actor, actingGroupPrefix, _, configured, found, _, actingEq, rfl⟩
    rw [acting, Option.some.injEq] at actingEq
    rw [← actingEq]
    exact ⟨actors, actor, configured, found, rfl, rfl, rfl, rfl⟩
  · have sourceAuth : policy.version = sourceAuthPolicyVersion :=
      supported.resolve_left version
    rcases validateV6_eq_ok_iff.mp (v6 version) with ⟨_, _, bundleValid, _⟩
    rw [authorize_of_v6 sourceAuth] at authorized
    rcases authorizeV6_eq_ok_iff.mp authorized with ⟨_, _, _, _, _, granted, rfl⟩
    rcases (grantV6_eq_ok_iff bundleValid).mp granted with
      ⟨absent, _⟩ | ⟨actors, actor, configured, found, grantEq⟩
    · exact absurd absent (bundle.resolve_left version)
    · cases grantEq
      exact ⟨actors, actor, configured, found, rfl, rfl, rfl, rfl⟩

/-- Two actors of a valid policy have different canonical users. -/
theorem canonicalUserId_ne (valid : policy.validate = .ok ())
    {actors : AList fun _ : String => Actor} (configured : policy.actors = some actors)
    {firstId secondId : String} {first second : Actor}
    (foundFirst : actors.lookup firstId = some first)
    (foundSecond : actors.lookup secondId = some second) (different : firstId ≠ secondId) :
    first.canonicalUserId ≠ second.canonicalUserId := by
  have unique : (actors.entries.map fun entry => entry.2.canonicalUserId).Nodup := by
    rw [List.Nodup, List.pairwise_map]
    rcases validate_eq_ok_iff.mp valid with ⟨_, _, _, v5, v6⟩
    by_cases version : policy.version = policyVersion
    · rcases validateV5_eq_ok_iff.mp (v5 version) with
        ⟨_, _, validated, _, _, validatedEq, _, validActors, _⟩
      rw [configured, Option.some.injEq] at validatedEq
      rw [validatedEq]
      exact (validateActors_eq_ok_iff.mp validActors).2
    · rcases validateV6_eq_ok_iff.mp (v6 version) with ⟨_, _, bundle, _⟩
      rcases validateBundle_eq_ok configured bundle with ⟨_, _, _, validActors⟩
      exact (validateActors_eq_ok_iff.mp validActors).2
  intro same
  have sameEntry := List.inj_on_of_nodup_map unique (AList.mem_lookup_iff.mp foundFirst)
    (AList.mem_lookup_iff.mp foundSecond) same
  exact different (congrArg Sigma.fst sameEntry)

end Policy

/-- The groups of an identity that name a canonical user. -/
def Identity.canonicalUserGroups (identity : Identity) : List String :=
  (identity.groups.getD []).filter fun group => Text.startsWith group canonicalUserPrefix

/-- The identity of a mapped actor names the canonical user of the actor and no
other. -/
theorem Policy.Mapped.canonicalUserGroups_eq {policy : Policy} {claims : GitHubClaims}
    {identity : Identity} {actors : AList fun _ : String => Actor} {actor : Actor}
    (mapped : policy.Mapped claims identity actors actor) (valid : policy.validate = .ok ()) :
    identity.canonicalUserGroups = [canonicalUserPrefix ++ actor.canonicalUserId] := by
  have service : Text.startsWith policy.serviceGroup canonicalUserPrefix = false :=
    Text.startsWith_eq_false (validate_eq_ok_iff.mp valid).2.1.1 (by decide) (by decide)
  have acting : Text.startsWith (actingPrefix ++ actor.email) canonicalUserPrefix = false :=
    Text.startsWith_eq_false (Text.startsWith_append _ _) (by decide) (by decide)
  have canonical : Text.startsWith (canonicalUserPrefix ++ actor.canonicalUserId)
      canonicalUserPrefix = true := Text.startsWith_append _ _
  have sorted := (sortGroups_perm [policy.serviceGroup, actingPrefix ++ actor.email,
    canonicalUserPrefix ++ actor.canonicalUserId]).filter
      fun group => Text.startsWith group canonicalUserPrefix
  rw [List.filter_cons_of_neg (by simp [service]), List.filter_cons_of_neg (by simp [acting]),
    List.filter_cons_of_pos (by simp [canonical]), List.filter_nil,
    List.perm_singleton] at sorted
  rw [Identity.canonicalUserGroups, mapped.groups]
  exact sorted

/-- The actor alone selects the identity, whatever the repositories, rules, subjects,
events, references, logins and workflows are, and different actors have different
subjects and different canonical users. -/
theorem Policy.identity_of_actor {policy : Policy} (valid : policy.validate = .ok ())
    (bundle : policy.version = policyVersion ∨ policy.actors ≠ none)
    {first second : GitHubClaims} {firstIdentity secondIdentity : Identity}
    (firstAuthorized : policy.authorize first = .ok firstIdentity)
    (secondAuthorized : policy.authorize second = .ok secondIdentity) :
    (first.actorId = second.actorId →
      firstIdentity.subject = secondIdentity.subject ∧
      firstIdentity.email = secondIdentity.email ∧
      firstIdentity.emailVerified = secondIdentity.emailVerified ∧
      firstIdentity.groups = secondIdentity.groups) ∧
    (first.actorId ≠ second.actorId →
      firstIdentity.subject ≠ secondIdentity.subject ∧
      ∃ firstGroup secondGroup, firstIdentity.canonicalUserGroups = [firstGroup] ∧
        secondIdentity.canonicalUserGroups = [secondGroup] ∧ firstGroup ≠ secondGroup) := by
  rcases exists_mapped valid bundle firstAuthorized with ⟨actors, firstActor, firstMapped⟩
  rcases exists_mapped valid bundle secondAuthorized with ⟨others, secondActor, secondMapped⟩
  have sameActors : others = actors := by
    have configured := secondMapped.configured
    rw [firstMapped.configured, Option.some.injEq] at configured
    exact configured.symm
  subst sameActors
  constructor
  · intro same
    have sameActor : firstActor = secondActor := by
      have found := firstMapped.found
      rw [same, secondMapped.found, Option.some.injEq] at found
      exact found.symm
    subst sameActor
    rw [firstMapped.subject, secondMapped.subject, firstMapped.email, secondMapped.email,
      firstMapped.emailVerified, secondMapped.emailVerified, firstMapped.groups,
      secondMapped.groups, same]
    exact ⟨rfl, rfl, rfl, rfl⟩
  · intro different
    constructor
    · rw [firstMapped.subject, secondMapped.subject]
      intro same
      exact different (String.append_right_inj _ |>.mp same)
    · refine ⟨_, _, firstMapped.canonicalUserGroups_eq valid,
        secondMapped.canonicalUserGroups_eq valid, ?_⟩
      intro same
      exact canonicalUserId_ne valid firstMapped.configured firstMapped.found secondMapped.found
        different (String.append_right_inj _ |>.mp same)

/-- The claims of another actor. -/
def otherActorClaims : GitHubClaims :=
  { sampleClaims with actorId := "43" }

theorem Policy.identity_of_actor_sample :
    sharedPolicy.validate = .ok () ∧
    ∃ first second, sharedPolicy.authorize sampleClaims = .ok first ∧
      sharedPolicy.authorize otherActorClaims = .ok second ∧ first.subject ≠ second.subject := by
  have first : ∃ identity, sharedPolicy.authorize sampleClaims = .ok identity := ⟨_, rfl⟩
  have second : ∃ identity, sharedPolicy.authorize otherActorClaims = .ok identity := ⟨_, rfl⟩
  rcases first with ⟨firstIdentity, firstAuthorized⟩
  rcases second with ⟨secondIdentity, secondAuthorized⟩
  have different : sampleClaims.actorId ≠ otherActorClaims.actorId := by decide
  have identities := identity_of_actor sharedPolicy_valid (Or.inl rfl) firstAuthorized
    secondAuthorized
  exact ⟨sharedPolicy_valid, firstIdentity, secondIdentity, firstAuthorized, secondAuthorized,
    (identities.2 different).1⟩

end OidcExchange.GitHub
