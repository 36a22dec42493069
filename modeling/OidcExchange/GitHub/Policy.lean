import Mathlib.Data.List.AList
import Mathlib.Data.List.Dedup
import Mathlib.Data.List.Sort
import Mathlib.Data.String.Basic
import OidcExchange.Data.SinglePass
import OidcExchange.GitHub.Claims

/-!
# The GitHub policy

`Policy` of `src/policy.rs`: which repositories and actors may exchange an
assertion, and the identity that they obtain.  A policy is validated once, when
it is loaded; `authorize` runs for every exchange and relies on the validation.
-/

namespace OidcExchange.GitHub

def policyVersion : String := "github-oidc-exchange.apelogic.io/v5"

def sourceAuthPolicyVersion : String := "github-oidc-exchange.apelogic.io/v6"

def identityContract : String := "steward-task-v2"

def sourceAuthIdentityContract : String := "steward-task-v3"

def servicePrefix : String := "agents.apelogic.ai/service-principal:"

def actingPrefix : String := "agents.apelogic.ai/acting-user:"

def canonicalUserPrefix : String := "agents.apelogic.ai/canonical-user:"

structure RepositoryPolicy where
  ownerId : String
  repositoryId : String
  subjects : Option (List String)
  events : Option (List String)
  refs : Option (List String)
  jobWorkflowRefs : Option (List String)
  jobWorkflowShas : Option (List String)
  deriving DecidableEq

structure Actor where
  email : String
  canonicalUserId : String
  verified : Bool
  deriving DecidableEq

structure Policy where
  version : String
  serviceGroup : String
  actingGroupPrefix : Option String
  allowedEmailDomains : Option (List String)
  repositories : List RepositoryPolicy
  actors : Option (AList fun _ : String => Actor)

structure Identity where
  actorId : String
  actorLogin : Option String
  email : Option String
  emailVerified : Option Bool
  subject : String
  groups : Option (List String)
  identityContract : String
  repository : String
  workflowRef : String
  jobWorkflowRef : String
  deriving DecidableEq

inductive PolicyError where
  | invalid (message : String)
  | unauthorized
  deriving DecidableEq

/-- A check that fails with a message. -/
def require (holds : Bool) (message : String) : Except PolicyError Unit :=
  if holds then .ok () else .error (.invalid message)

def requireValues (name : String) (values : List String) : Except PolicyError Unit :=
  require
    (!(values.isEmpty || values.dedup.length != values.length || values.any Text.isEmpty))
    (name ++ " must contain unique non-empty values")

def requiredSelector (name : String) (selector : Option (List String)) :
    Except PolicyError (List String) := do
  match selector with
  | none => .error (.invalid (name ++ " is required by policy v5"))
  | some values =>
      requireValues name values
      return values

def validateRepositoryIds (repository : RepositoryPolicy) (bounded : Bool) :
    Except PolicyError Unit :=
  let validNumeric := if bounded then numericIdentifier else decimalIdentifier
  let repositoryValid :=
    validNumeric repository.repositoryId || bounded && repository.repositoryId == "*"
  require (!(!validNumeric repository.ownerId || !repositoryValid))
    "repository numeric IDs are required"

def validateWorkflowRefs (workflowRefs : List String) : Except PolicyError Unit :=
  require
    (!workflowRefs.any fun workflowRef =>
      decide (Text.len workflowRef > 2048) || !Text.all workflowRef Text.isAsciiGraphic ||
        !Text.contains workflowRef "/.github/workflows/" || !Text.contains workflowRef "@")
    "job_workflow_refs must contain exact GitHub workflow references"

def validateWorkflowShas (workflowShas : List String) : Except PolicyError Unit :=
  require
    (!workflowShas.any fun sha => Text.len sha != 40 || !Text.all sha Text.isLowerHex)
    "job_workflow_shas must contain exact lowercase Git SHA-1 values"

def validateDomains (domains : List String) : Except PolicyError Unit := do
  requireValues "allowed_email_domains" domains
  require
    (!domains.any fun domain =>
      Text.startsWith domain "." || Text.endsWith domain "." || !Text.contains domain "." ||
        domain != Text.toAsciiLowercase domain)
    "allowed_email_domains must contain canonical DNS domain names"

/-- The domains of `validate_v6`, which may be absent. -/
def validateConfiguredDomains : Option (List String) → Except PolicyError Unit
  | some domains => validateDomains domains
  | none => .ok ()

def validateSubjects (subjects : List String) : Except PolicyError Unit :=
  require
    (!subjects.any fun subject =>
      !Text.startsWith subject "repo:" || decide (Text.len subject > 2048) ||
        !Text.all subject Text.isAsciiGraphic)
    "subjects must be exact GitHub repo subjects"

def canonicalEmail (value : String) : Bool :=
  match Text.splitOnce value "@" with
  | none => false
  | some (name, domain) =>
      !Text.isEmpty name && !Text.isEmpty domain && !Text.any value Text.isWhitespace &&
        value == Text.toAsciiLowercase value

def canonicalUserId (value : String) : Bool :=
  match Text.stripPrefix value "usr_" with
  | none => false
  | some suffix => Text.len suffix == 32 && Text.all suffix Text.isLowerHex

/-- The loop of `validate_actors` over the mappings, with the canonical user IDs
seen so far. -/
def validateActorEntries (allowedEmailDomains : Option (List String)) (boundedIds : Bool) :
    List (Sigma fun _ : String => Actor) → List String → Except PolicyError Unit
  | [], _ => .ok ()
  | ⟨actorId, actor⟩ :: entries, canonicalUserIds => do
      let domainAllowed :=
        match allowedEmailDomains with
        | none => true
        | some domains => domains.any fun domain => Text.endsWith actor.email ("@" ++ domain)
      let actorIdValid :=
        if boundedIds then numericIdentifier actorId else decimalIdentifier actorId
      require
        (!(!actorIdValid || !actor.verified || !canonicalEmail actor.email ||
          !canonicalUserId actor.canonicalUserId || !domainAllowed))
        ("actor mappings require a numeric ID, verified canonical email, " ++
          "and opaque canonical user ID")
      require (!canonicalUserIds.contains actor.canonicalUserId)
        "canonical user IDs must be unique across actor mappings"
      validateActorEntries allowedEmailDomains boundedIds entries
        (actor.canonicalUserId :: canonicalUserIds)

def validateActors (actors : AList fun _ : String => Actor)
    (allowedEmailDomains : Option (List String)) (boundedIds : Bool) :
    Except PolicyError Unit :=
  validateActorEntries allowedEmailDomains boundedIds actors.entries []

/-- The repository loop of `validate_v5`, with the rules seen so far. -/
def validateRulesV5 :
    List RepositoryPolicy →
      List (String × String × List String × List String × List String) →
        Except PolicyError Unit
  | [], _ => .ok ()
  | repository :: repositories, repositoryRules => do
      validateRepositoryIds repository false
      require (!(repository.jobWorkflowRefs.isSome || repository.jobWorkflowShas.isSome))
        "job workflow selectors are supported only by policy v6"
      let subjects ← requiredSelector "subjects" repository.subjects
      let events ← requiredSelector "events" repository.events
      let refs ← requiredSelector "refs" repository.refs
      let rule := (repository.ownerId, repository.repositoryId, subjects, events, refs)
      require (!repositoryRules.contains rule) "duplicate repository authorization rule"
      validateSubjects subjects
      validateRulesV5 repositories (rule :: repositoryRules)

/-- The check of one optional selector of `validate_v6`. -/
def validateSelector (name : String) (selector : Option (List String))
    (validate : List String → Except PolicyError Unit) : Except PolicyError Unit := do
  match selector with
  | none => .ok ()
  | some values =>
      requireValues name values
      validate values

/-- The repository loop of `validate_v6`, with the exact rules and the owner
scopes seen so far. -/
def validateRulesV6 :
    List RepositoryPolicy → List (String × String) → List String → Except PolicyError Unit
  | [], _, _ => .ok ()
  | repository :: repositories, repositoryIds, ownerScopes => do
      validateRepositoryIds repository true
      let ownerId := repository.ownerId
      let repositoryId := repository.repositoryId
      let ambiguous :=
        if repositoryId = "*" then
          ownerScopes.contains ownerId ||
            repositoryIds.any fun configured => configured.1 == ownerId
        else
          ownerScopes.contains ownerId || repositoryIds.contains (ownerId, repositoryId)
      require (!ambiguous) "duplicate or ambiguous repository rule"
      validateSelector "subjects" repository.subjects validateSubjects
      validateSelector "events" repository.events fun _ => .ok ()
      validateSelector "refs" repository.refs fun _ => .ok ()
      validateSelector "job_workflow_refs" repository.jobWorkflowRefs validateWorkflowRefs
      validateSelector "job_workflow_shas" repository.jobWorkflowShas validateWorkflowShas
      if repositoryId = "*" then
        validateRulesV6 repositories repositoryIds (ownerId :: ownerScopes)
      else
        validateRulesV6 repositories ((ownerId, repositoryId) :: repositoryIds) ownerScopes

namespace Policy

def validateV5 (policy : Policy) : Except PolicyError Unit := do
  match policy.actingGroupPrefix with
  | none => .error (.invalid "acting_group_prefix is required by policy v5")
  | some actingGroupPrefix =>
      require (actingGroupPrefix == actingPrefix)
        "acting_group_prefix does not match the Steward contract"
      match policy.allowedEmailDomains with
      | none => .error (.invalid "allowed_email_domains is required by policy v5")
      | some allowedEmailDomains =>
          validateDomains allowedEmailDomains
          match policy.actors.filter fun actors => !actors.entries.isEmpty with
          | none => .error (.invalid "actors must be non-empty in policy v5")
          | some actors =>
              validateActors actors (some allowedEmailDomains) false
              validateRulesV5 policy.repositories []

/-- The actor bundle of `validate_v6`: configured as a whole or not at all. -/
def validateBundle (policy : Policy) : Except PolicyError Unit := do
  match policy.actors, policy.allowedEmailDomains, policy.actingGroupPrefix with
  | none, none, none => .ok ()
  | some actors, some domains, some actingGroupPrefix =>
      require (actingGroupPrefix == actingPrefix)
        ("actors, allowed_email_domains, and acting_group_prefix " ++
          "must be configured together")
      require (!actors.entries.isEmpty) "actors must be non-empty when configured"
      validateActors actors (some domains) true
  | _, _, _ =>
      .error (.invalid ("actors, allowed_email_domains, and acting_group_prefix " ++
        "must be configured together"))

def validateV6 (policy : Policy) : Except PolicyError Unit := do
  require (!policy.actingGroupPrefix.any fun configured => configured != actingPrefix)
    "acting_group_prefix does not match the Steward contract"
  validateConfiguredDomains policy.allowedEmailDomains
  policy.validateBundle
  validateRulesV6 policy.repositories [] []

def validate (policy : Policy) : Except PolicyError Unit := do
  require (policy.version == policyVersion || policy.version == sourceAuthPolicyVersion)
    "unsupported policy version"
  require
    (!(!Text.startsWith policy.serviceGroup servicePrefix ||
      policy.serviceGroup == servicePrefix))
    "service_group must use the Steward service-principal prefix"
  require (!policy.repositories.isEmpty) "repositories must be non-empty"
  if policy.version = policyVersion then
    policy.validateV5
  else
    policy.validateV6

end Policy

def selectorMatches (selector : Option (List String)) (wanted : String) : Bool :=
  match selector with
  | none => false
  | some values => values.any (· == wanted)

def optionalSelectorMatches (selector : Option (List String)) (wanted : String) : Bool :=
  match selector with
  | none => true
  | some values => values.any (· == wanted)

/-- `Vec<String>::sort` -/
def sortGroups (groups : List String) : List String :=
  groups.insertionSort (· ≤ ·)

namespace RepositoryPolicy

/-- The filter of `authorize_v5`. -/
def matchesV5 (repository : RepositoryPolicy) (claims : GitHubClaims) : Bool :=
  repository.ownerId == claims.repositoryOwnerId &&
    repository.repositoryId == claims.repositoryId &&
    selectorMatches repository.subjects claims.sub &&
    selectorMatches repository.events claims.eventName &&
    selectorMatches repository.refs claims.gitRef

/-- The filter of `authorize_v6`. -/
def matchesV6 (repository : RepositoryPolicy) (claims : GitHubClaims) : Bool :=
  repository.ownerId == claims.repositoryOwnerId &&
    (repository.repositoryId == "*" || repository.repositoryId == claims.repositoryId) &&
    optionalSelectorMatches repository.subjects claims.sub &&
    optionalSelectorMatches repository.events claims.eventName &&
    optionalSelectorMatches repository.refs claims.gitRef &&
    optionalSelectorMatches repository.jobWorkflowRefs claims.jobWorkflowRef &&
    optionalSelectorMatches repository.jobWorkflowShas claims.jobWorkflowSha

end RepositoryPolicy

namespace Policy

def authorizeV5 (policy : Policy) (claims : GitHubClaims) : Except PolicyError Identity :=
  match (policy.actors.bind fun actors => actors.lookup claims.actorId).filter
      (fun actor => actor.verified) with
  | none => .error .unauthorized
  | some actor =>
      match policy.repositories.filter fun repository => repository.matchesV5 claims with
      | [repository] =>
          match policy.actingGroupPrefix with
          | none => .error .unauthorized
          | some actingGroupPrefix =>
              .ok
                { actorId := claims.actorId
                  actorLogin := none
                  email := some actor.email
                  emailVerified := some actor.verified
                  subject := "github-actions:actor:" ++ claims.actorId
                  groups := some (sortGroups
                    [policy.serviceGroup, actingGroupPrefix ++ actor.email,
                      canonicalUserPrefix ++ actor.canonicalUserId])
                  identityContract := GitHub.identityContract
                  repository := repository.ownerId ++ "/" ++ repository.repositoryId
                  workflowRef := claims.workflowRef
                  jobWorkflowRef := claims.jobWorkflowRef }
      | _ => .error .unauthorized

/-- The email, its verification and the groups that `authorize_v6` grants. -/
def grantV6 (policy : Policy) (claims : GitHubClaims) :
    Except PolicyError (Option String × Option Bool × Option (List String)) :=
  match policy.actors with
  | none => .ok (none, none, none)
  | some actors =>
      match (actors.lookup claims.actorId).filter (fun actor => actor.verified) with
      | none => .error .unauthorized
      | some actor =>
          match policy.actingGroupPrefix with
          | none => .error .unauthorized
          | some actingGroupPrefix =>
              .ok (some actor.email, some true, some (sortGroups
                [policy.serviceGroup, actingGroupPrefix ++ actor.email,
                  canonicalUserPrefix ++ actor.canonicalUserId]))

def authorizeV6 (policy : Policy) (claims : GitHubClaims) : Except PolicyError Identity :=
  if numericIdentifier claims.actorId = false then
    .error .unauthorized
  else
    match policy.repositories.filter fun repository => repository.matchesV6 claims with
    | [_] =>
        match policy.grantV6 claims with
        | .error failure => .error failure
        | .ok (email, emailVerified, groups) =>
            .ok
              { actorId := claims.actorId
                actorLogin := some claims.actor
                email := email
                emailVerified := emailVerified
                subject := "github-actions:actor:" ++ claims.actorId
                groups := groups
                identityContract := sourceAuthIdentityContract
                repository := claims.repositoryOwnerId ++ "/" ++ claims.repositoryId
                workflowRef := claims.workflowRef
                jobWorkflowRef := claims.jobWorkflowRef }
    | _ => .error .unauthorized

def authorize (policy : Policy) (claims : GitHubClaims) : Except PolicyError Identity :=
  if policy.version = policyVersion then
    policy.authorizeV5 claims
  else if policy.version = sourceAuthPolicyVersion then
    policy.authorizeV6 claims
  else
    .error .unauthorized

end Policy

/-! ## What validation guarantees -/

theorem bind_eq_ok_iff {ε α β : Type} {first : Except ε α} {next : α → Except ε β} {result : β} :
    first >>= next = .ok result ↔ ∃ value, first = .ok value ∧ next value = .ok result := by
  cases first with
  | error failure =>
      constructor
      · intro impossible
        contradiction
      · rintro ⟨value, impossible, _⟩
        contradiction
  | ok value =>
      constructor
      · intro continued
        exact ⟨value, rfl, continued⟩
      · rintro ⟨_, same, continued⟩
        cases same
        exact continued

theorem require_eq_ok_iff {holds : Bool} {message : String} {result : Unit} :
    require holds message = .ok result ↔ holds = true := by
  cases holds with
  | false => simp [require]
  | true => simp [require]

/-- Two rules that some repository could match both. -/
def Overlaps (first second : RepositoryPolicy) : Prop :=
  first.ownerId = second.ownerId ∧
    (first.repositoryId = "*" ∨ second.repositoryId = "*" ∨
      first.repositoryId = second.repositoryId)

/-- Rules that match the same claims overlap. -/
theorem RepositoryPolicy.overlaps_of_matchesV6 {first second : RepositoryPolicy}
    {claims : GitHubClaims} (firstMatches : first.matchesV6 claims = true)
    (secondMatches : second.matchesV6 claims = true) : Overlaps first second := by
  simp only [RepositoryPolicy.matchesV6, Bool.and_eq_true, Bool.or_eq_true, beq_iff_eq]
    at firstMatches secondMatches
  rcases firstMatches with ⟨⟨⟨⟨⟨⟨firstOwner, firstId⟩, _⟩, _⟩, _⟩, _⟩, _⟩
  rcases secondMatches with ⟨⟨⟨⟨⟨⟨secondOwner, secondId⟩, _⟩, _⟩, _⟩, _⟩, _⟩
  refine ⟨firstOwner.trans secondOwner.symm, ?_⟩
  rcases firstId with firstId | firstId
  · exact Or.inl firstId
  rcases secondId with secondId | secondId
  · exact Or.inr (Or.inl secondId)
  · exact Or.inr (Or.inr (firstId.trans secondId.symm))

/-- The rule overlaps with none of the exact rules and owner scopes seen so
far. -/
structure Separate (repositoryIds : List (String × String)) (ownerScopes : List String)
    (repository : RepositoryPolicy) : Prop where
  scope : repository.ownerId ∉ ownerScopes
  wildcard : repository.repositoryId = "*" →
    ∀ configured ∈ repositoryIds, configured.1 ≠ repository.ownerId
  exact : repository.repositoryId ≠ "*" →
    (repository.ownerId, repository.repositoryId) ∉ repositoryIds

/-- One round of the loop of `validate_v6`. -/
theorem validateRulesV6_cons {repository : RepositoryPolicy}
    {repositories : List RepositoryPolicy} {repositoryIds : List (String × String)}
    {ownerScopes : List String}
    (valid : validateRulesV6 (repository :: repositories) repositoryIds ownerScopes = .ok ()) :
    Separate repositoryIds ownerScopes repository ∧
      (repository.repositoryId = "*" →
        validateRulesV6 repositories repositoryIds (repository.ownerId :: ownerScopes) =
          .ok ()) ∧
      (repository.repositoryId ≠ "*" →
        validateRulesV6 repositories
          ((repository.ownerId, repository.repositoryId) :: repositoryIds) ownerScopes =
            .ok ()) := by
  simp only [validateRulesV6, bind_eq_ok_iff, require_eq_ok_iff] at valid
  rcases valid with ⟨_, _, _, unambiguous, _, _, _, _, _, _, _, _, _, _, rest⟩
  by_cases wildcard : repository.repositoryId = "*"
  · simp only [wildcard, ↓reduceIte, Bool.not_eq_true', Bool.or_eq_false_iff,
      List.contains_eq_mem, decide_eq_false_iff_not, List.any_eq_false, beq_iff_eq]
      at unambiguous rest
    refine ⟨⟨unambiguous.1, fun _ => unambiguous.2, fun different => absurd wildcard different⟩,
      fun _ => rest, fun different => absurd wildcard different⟩
  · simp only [wildcard, ↓reduceIte, Bool.not_eq_true', Bool.or_eq_false_iff,
      List.contains_eq_mem, decide_eq_false_iff_not] at unambiguous rest
    exact ⟨⟨unambiguous.1, fun same => absurd same wildcard, fun _ => unambiguous.2⟩,
      fun same => absurd same wildcard, fun _ => rest⟩

/-- The rules that pass the loop of `validate_v6` overlap neither with what was
seen before nor with each other. -/
theorem validateRulesV6_separate {repositories : List RepositoryPolicy}
    {repositoryIds : List (String × String)} {ownerScopes : List String}
    (valid : validateRulesV6 repositories repositoryIds ownerScopes = .ok ()) :
    repositories.Pairwise (fun first second => ¬ Overlaps first second) ∧
      ∀ repository ∈ repositories, Separate repositoryIds ownerScopes repository := by
  induction repositories generalizing repositoryIds ownerScopes with
  | nil => simp
  | cons repository repositories inductionHypothesis =>
      rcases validateRulesV6_cons valid with ⟨separate, afterWildcard, afterExact⟩
      rw [List.pairwise_cons]
      by_cases wildcard : repository.repositoryId = "*"
      · rcases inductionHypothesis (afterWildcard wildcard) with ⟨pairwise, later⟩
        refine ⟨⟨?_, pairwise⟩, ?_⟩
        · rintro other member ⟨sameOwner, _⟩
          exact (later other member).scope (by simp [sameOwner])
        · intro other member
          rcases List.mem_cons.mp member with rfl | member
          · exact separate
          · have apart := later other member
            exact ⟨fun seen => apart.scope (List.mem_cons_of_mem _ seen), apart.wildcard,
              apart.exact⟩
      · rcases inductionHypothesis (afterExact wildcard) with ⟨pairwise, later⟩
        refine ⟨⟨?_, pairwise⟩, ?_⟩
        · rintro other member ⟨sameOwner, overlap⟩
          have apart := later other member
          by_cases otherWildcard : other.repositoryId = "*"
          · exact apart.wildcard otherWildcard _ List.mem_cons_self sameOwner
          · rcases overlap with same | same | same
            · exact wildcard same
            · exact otherWildcard same
            · exact apart.exact otherWildcard (by simp [sameOwner, same])
        · intro other member
          rcases List.mem_cons.mp member with rfl | member
          · exact separate
          · have apart := later other member
            exact ⟨apart.scope,
              fun same configured seen => apart.wildcard same configured
                (List.mem_cons_of_mem _ seen),
              fun different seen => apart.exact different (List.mem_cons_of_mem _ seen)⟩

/-- An actor that passes validation is verified. -/
theorem verified_of_validateActorEntries {domains : Option (List String)} {bounded : Bool}
    {entries : List (Sigma fun _ : String => Actor)} {seen : List String}
    (valid : validateActorEntries domains bounded entries seen = .ok ()) :
    ∀ entry ∈ entries, entry.2.verified = true := by
  induction entries generalizing seen with
  | nil => simp
  | cons entry entries inductionHypothesis =>
      rcases entry with ⟨actorId, actor⟩
      simp only [validateActorEntries, bind_eq_ok_iff, require_eq_ok_iff] at valid
      rcases valid with ⟨_, sound, _, _, rest⟩
      intro other member
      rcases List.mem_cons.mp member with rfl | member
      · simp only [Bool.not_eq_true', Bool.or_eq_false_iff, Bool.not_eq_false'] at sound
        exact sound.1.1.1.2
      · exact inductionHypothesis rest other member

namespace Policy

variable {policy : Policy} {claims : GitHubClaims}

/-- What `validate` establishes for a policy of version 6. -/
theorem validate_v6_eq_ok (version : policy.version = sourceAuthPolicyVersion)
    (valid : policy.validate = .ok ()) :
    policy.validateBundle = .ok () ∧ validateRulesV6 policy.repositories [] [] = .ok () := by
  have otherVersion : policy.version ≠ policyVersion := by
    rw [version]
    decide
  simp only [validate, validateV6, bind_eq_ok_iff, otherVersion, ↓reduceIte] at valid
  rcases valid with ⟨_, _, _, _, _, _, _, _, _, _, _, bundle, rules⟩
  exact ⟨bundle, rules⟩

/-- At most one rule of a valid policy matches. -/
theorem matching_length_le_one (claims : GitHubClaims)
    (rules : validateRulesV6 policy.repositories [] [] = .ok ()) :
    (policy.repositories.filter fun repository => repository.matchesV6 claims).length ≤ 1 := by
  apply length_filter_le_one (validateRulesV6_separate rules).1
  intro first second firstMatches secondMatches
  exact RepositoryPolicy.overlaps_of_matchesV6 firstMatches secondMatches

/-- A configured bundle passes the checks of its actors. -/
theorem validateBundle_eq_ok {actors : AList fun _ : String => Actor}
    (configured : policy.actors = some actors) (bundle : policy.validateBundle = .ok ()) :
    policy.actingGroupPrefix = some actingPrefix ∧
      ∃ domains, policy.allowedEmailDomains = some domains ∧
        validateActors actors (some domains) true = .ok () := by
  unfold validateBundle at bundle
  rw [configured] at bundle
  cases domains : policy.allowedEmailDomains with
  | none => simp [domains] at bundle
  | some configuredDomains =>
      cases acting : policy.actingGroupPrefix with
      | none => simp [domains, acting] at bundle
      | some actingGroupPrefix =>
          simp only [domains, acting, bind_eq_ok_iff, require_eq_ok_iff, beq_iff_eq] at bundle
          rcases bundle with ⟨_, rfl, _, _, entries⟩
          exact ⟨rfl, configuredDomains, rfl, entries⟩

/-- Every actor of a configured bundle is verified. -/
theorem verified_of_validateBundle {actors : AList fun _ : String => Actor}
    (configured : policy.actors = some actors) (bundle : policy.validateBundle = .ok ())
    {actorId : String} {actor : Actor} (found : actors.lookup actorId = some actor) :
    actor.verified = true := by
  rcases validateBundle_eq_ok configured bundle with ⟨_, _, _, entries⟩
  exact verified_of_validateActorEntries entries ⟨actorId, actor⟩ (AList.mem_lookup_iff.mp found)

end Policy

/-! ## What a valid policy authorizes -/

/-- A present selector contains the claim. -/
def Selects (selector : Option (List String)) (claim : String) : Prop :=
  ∀ values, selector = some values → claim ∈ values

/-- The rule covers the claims. -/
structure Covers (repository : RepositoryPolicy) (claims : GitHubClaims) : Prop where
  owner : repository.ownerId = claims.repositoryOwnerId
  scope : repository.repositoryId = claims.repositoryId ∨ repository.repositoryId = "*"
  subjects : Selects repository.subjects claims.sub
  events : Selects repository.events claims.eventName
  refs : Selects repository.refs claims.gitRef
  jobWorkflowRefs : Selects repository.jobWorkflowRefs claims.jobWorkflowRef
  jobWorkflowShas : Selects repository.jobWorkflowShas claims.jobWorkflowSha

theorem optionalSelectorMatches_iff {selector : Option (List String)} {claim : String} :
    optionalSelectorMatches selector claim = true ↔ Selects selector claim := by
  cases selector with
  | none => simp [optionalSelectorMatches, Selects]
  | some values => simp [optionalSelectorMatches, Selects]

theorem RepositoryPolicy.matchesV6_iff {repository : RepositoryPolicy}
    {claims : GitHubClaims} : repository.matchesV6 claims = true ↔ Covers repository claims := by
  simp only [matchesV6, Bool.and_eq_true, Bool.or_eq_true, beq_iff_eq,
    optionalSelectorMatches_iff]
  constructor
  · rintro ⟨⟨⟨⟨⟨⟨owner, scope⟩, subjects⟩, events⟩, refs⟩, workflowRefs⟩, workflowShas⟩
    exact ⟨owner, scope.symm, subjects, events, refs, workflowRefs, workflowShas⟩
  · rintro ⟨owner, scope, subjects, events, refs, workflowRefs, workflowShas⟩
    exact ⟨⟨⟨⟨⟨⟨owner, scope.symm⟩, subjects⟩, events⟩, refs⟩, workflowRefs⟩, workflowShas⟩

/-- The email, its verification and the groups of an identity come from the
mapped actor when actors are configured, and are all absent otherwise. -/
def GrantsBundle (policy : Policy) (claims : GitHubClaims) (identity : Identity) : Prop :=
  match policy.actors with
  | none => identity.email = none ∧ identity.emailVerified = none ∧ identity.groups = none
  | some actors => ∃ actor groups, actors.lookup claims.actorId = some actor ∧
      identity.email = some actor.email ∧ identity.emailVerified = some true ∧
        identity.groups = some groups ∧ groups.Pairwise (· ≤ ·) ∧
          groups.Perm [policy.serviceGroup, actingPrefix ++ actor.email,
            canonicalUserPrefix ++ actor.canonicalUserId]

namespace Policy

variable {policy : Policy} {claims : GitHubClaims}

/-- The actor bundle of a valid policy is granted exactly to mapped actors. -/
theorem grantV6_eq_ok_iff (bundle : policy.validateBundle = .ok ())
    {grant : Option String × Option Bool × Option (List String)} :
    policy.grantV6 claims = .ok grant ↔
      (policy.actors = none ∧ grant = (none, none, none)) ∨
      ∃ actors actor, policy.actors = some actors ∧
        actors.lookup claims.actorId = some actor ∧
          grant = (some actor.email, some true, some (sortGroups
            [policy.serviceGroup, actingPrefix ++ actor.email,
              canonicalUserPrefix ++ actor.canonicalUserId])) := by
  unfold grantV6
  cases configured : policy.actors with
  | none => simp [eq_comm]
  | some actors =>
      have prefixed := (validateBundle_eq_ok configured bundle).1
      cases mapped : actors.lookup claims.actorId with
      | none => simp [mapped]
      | some actor =>
          have kept : (some actor).filter (fun actor => actor.verified) = some actor := by
            simp [Option.filter, verified_of_validateBundle configured bundle mapped]
          simp [mapped, kept, prefixed, eq_comm]

/-- An identity of version 6 needs a numeric actor, one matching rule and the
grant of the actor bundle, which it carries. -/
theorem authorizeV6_eq_ok_iff {identity : Identity} :
    policy.authorizeV6 claims = .ok identity ↔
      numericIdentifier claims.actorId = true ∧
      (∃ repository,
        policy.repositories.filter (fun repository => repository.matchesV6 claims) =
          [repository]) ∧
      ∃ email emailVerified groups,
        policy.grantV6 claims = .ok (email, emailVerified, groups) ∧
        identity =
          { actorId := claims.actorId
            actorLogin := some claims.actor
            email := email
            emailVerified := emailVerified
            subject := "github-actions:actor:" ++ claims.actorId
            groups := groups
            identityContract := sourceAuthIdentityContract
            repository := claims.repositoryOwnerId ++ "/" ++ claims.repositoryId
            workflowRef := claims.workflowRef
            jobWorkflowRef := claims.jobWorkflowRef } := by
  unfold authorizeV6
  cases numeric : numericIdentifier claims.actorId with
  | false => simp
  | true =>
      cases matching :
          policy.repositories.filter (fun repository => repository.matchesV6 claims) with
      | nil => simp
      | cons first rest =>
          cases rest with
          | cons second rest => simp
          | nil =>
              cases granted : policy.grantV6 claims with
              | error failure => simp
              | ok grant =>
                  rcases grant with ⟨email, emailVerified, groups⟩
                  simp [eq_comm]

theorem sortGroups_perm (groups : List String) : (sortGroups groups).Perm groups :=
  List.perm_insertionSort _ groups

theorem sortGroups_pairwise (groups : List String) :
    (sortGroups groups).Pairwise (· ≤ ·) :=
  List.pairwise_insertionSort _ groups

/-- Actors are mapped to groups by the documented prefix. -/
theorem actingGroupPrefix_of_bundle (bundle : policy.validateBundle = .ok ())
    (configured : policy.actors ≠ none) : policy.actingGroupPrefix = some actingPrefix := by
  rcases Option.ne_none_iff_exists'.mp configured with ⟨actors, actorsEq⟩
  exact (validateBundle_eq_ok actorsEq bundle).1

/-- A grant is made unless the actors are configured and this one is not among them. -/
theorem exists_grantV6_iff (bundle : policy.validateBundle = .ok ()) :
    (∃ grant, policy.grantV6 claims = .ok grant) ↔
      ∀ actors, policy.actors = some actors →
        ∃ actor, actors.lookup claims.actorId = some actor := by
  constructor
  · rintro ⟨grant, granted⟩ actors actorsEq
    rcases (grantV6_eq_ok_iff bundle).mp granted with ⟨none, _⟩ | ⟨actors', actor, some, found, _⟩
    · rw [actorsEq] at none
      contradiction
    · rw [actorsEq, Option.some.injEq] at some
      exact ⟨actor, some ▸ found⟩
  · intro mapped
    cases actorsEq : policy.actors with
    | none => exact ⟨_, (grantV6_eq_ok_iff bundle).mpr (Or.inl ⟨actorsEq, rfl⟩)⟩
    | some actors =>
        rcases mapped actors actorsEq with ⟨actor, found⟩
        exact ⟨_, (grantV6_eq_ok_iff bundle).mpr (Or.inr ⟨actors, actor, actorsEq, found, rfl⟩)⟩

/-- If at most one rule matches, one does exactly if some rule covers the claims. -/
theorem exists_matching_iff
    (unique :
      (policy.repositories.filter fun repository => repository.matchesV6 claims).length ≤ 1) :
    (∃ rule,
      policy.repositories.filter (fun repository => repository.matchesV6 claims) = [rule]) ↔
      ∃ repository ∈ policy.repositories, Covers repository claims := by
  constructor
  · rintro ⟨repository, matching⟩
    have member : repository ∈
        policy.repositories.filter fun repository => repository.matchesV6 claims := by
      rw [matching]
      exact List.mem_singleton_self repository
    rcases List.mem_filter.mp member with ⟨configured, matched⟩
    exact ⟨repository, configured, RepositoryPolicy.matchesV6_iff.mp matched⟩
  · rintro ⟨repository, configured, covers⟩
    have member : repository ∈
        policy.repositories.filter fun repository => repository.matchesV6 claims :=
      List.mem_filter.mpr ⟨configured, RepositoryPolicy.matchesV6_iff.mpr covers⟩
    exact List.length_eq_one_iff.mp (le_antisymm unique (List.length_pos_of_mem member))

/-- An authorized identity carries the bundle of its actor. -/
theorem grantsBundle_of_authorizeV6 (bundle : policy.validateBundle = .ok ())
    {identity : Identity} (authorized : policy.authorizeV6 claims = .ok identity) :
    GrantsBundle policy claims identity := by
  rcases authorizeV6_eq_ok_iff.mp authorized with
    ⟨_, _, email, emailVerified, groups, granted, rfl⟩
  rw [GrantsBundle]
  rcases (grantV6_eq_ok_iff bundle).mp granted with
    ⟨actorsEq, grantEq⟩ | ⟨actors, actor, actorsEq, found, grantEq⟩
  · cases grantEq
    rw [actorsEq]
    exact ⟨rfl, rfl, rfl⟩
  · cases grantEq
    rw [actorsEq]
    exact ⟨actor, _, found, rfl, rfl, rfl, sortGroups_pairwise _, sortGroups_perm _⟩

/-- A policy of version 6 that passes validation is unambiguous and authorizes
exactly what its rules cover.  At most one rule matches and the acting prefix is
present whenever actors are, so neither the second match nor the missing prefix
can be the reason for a rejection. -/
theorem authorize_v6_exact (version : policy.version = sourceAuthPolicyVersion)
    (valid : policy.validate = .ok ()) (claims : GitHubClaims) :
    (policy.repositories.filter fun repository => repository.matchesV6 claims).length ≤ 1 ∧
    (policy.actors ≠ none → policy.actingGroupPrefix = some actingPrefix) ∧
    ((∃ identity, policy.authorize claims = .ok identity) ↔
      (∃ n, 0 < n ∧ n < 10 ^ 20 ∧ claims.actorId = Nat.repr n) ∧
      (∃ repository ∈ policy.repositories, Covers repository claims) ∧
      ∀ actors, policy.actors = some actors →
        ∃ actor, actors.lookup claims.actorId = some actor) ∧
    ∀ identity, policy.authorize claims = .ok identity → GrantsBundle policy claims identity := by
  rcases validate_v6_eq_ok version valid with ⟨bundle, rules⟩
  have otherVersion : sourceAuthPolicyVersion ≠ policyVersion := by decide
  have authorizeEq : policy.authorize claims = policy.authorizeV6 claims := by
    rw [authorize, version, if_neg otherVersion, if_pos rfl]
  have unique := matching_length_le_one claims rules
  rw [authorizeEq]
  refine ⟨unique, actingGroupPrefix_of_bundle bundle, ?_,
    fun identity authorized => grantsBundle_of_authorizeV6 bundle authorized⟩
  rw [← numericIdentifier_iff, ← exists_matching_iff unique, ← exists_grantV6_iff bundle]
  constructor
  · rintro ⟨identity, authorized⟩
    rcases authorizeV6_eq_ok_iff.mp authorized with
      ⟨numeric, matching, email, emailVerified, groups, granted, _⟩
    exact ⟨numeric, matching, _, granted⟩
  · rintro ⟨numeric, matching, ⟨email, emailVerified, groups⟩, granted⟩
    exact ⟨_, authorizeV6_eq_ok_iff.mpr
      ⟨numeric, matching, email, emailVerified, groups, granted, rfl⟩⟩

end Policy

/-- A policy with one owner-wide rule, one exact rule and one mapped actor. -/
def samplePolicy : Policy where
  version := sourceAuthPolicyVersion
  serviceGroup := "agents.apelogic.ai/service-principal:ci"
  actingGroupPrefix := some actingPrefix
  allowedEmailDomains := some ["example.com"]
  repositories :=
    [{ ownerId := "7", repositoryId := "*", subjects := none, events := some ["push"],
       refs := none, jobWorkflowRefs := none, jobWorkflowShas := none },
      { ownerId := "8", repositoryId := "21", subjects := some ["repo:octo/tools:pull_request"],
        events := none, refs := none, jobWorkflowRefs := none, jobWorkflowShas := none }]
  actors := some (AList.singleton "42"
    { email := "dev@example.com"
      canonicalUserId := "usr_0123456789abcdef0123456789abcdef"
      verified := true })

/-- A push to a repository of the owner 7 by the actor 42. -/
def sampleClaims : GitHubClaims where
  iss := githubIssuer
  sub := "repo:octo/app:ref:refs/heads/main"
  aud := .one "exchange"
  exp := 1000
  iat := 800
  nbf := 800
  jti := "a"
  actorId := "42"
  actor := "dev"
  repository := "octo/app"
  repositoryId := "11"
  repositoryOwnerId := "7"
  sha := "0123456789abcdef0123456789abcdef01234567"
  runId := "9"
  runAttempt := 1
  workflowRef := "octo/app/.github/workflows/ci.yml@refs/heads/main"
  workflowSha := "0123456789abcdef0123456789abcdef01234567"
  jobWorkflowRef := "octo/app/.github/workflows/ci.yml@refs/heads/main"
  jobWorkflowSha := "0123456789abcdef0123456789abcdef01234567"
  eventName := "push"
  gitRef := "refs/heads/main"

theorem claimsValid_sampleClaims : claimsValid "exchange" 900 sampleClaims = true := by
  decide +kernel

namespace Policy

theorem authorize_v6_exact_sample :
    samplePolicy.version = sourceAuthPolicyVersion ∧ samplePolicy.validate = .ok () ∧
      ∃ identity, samplePolicy.authorize sampleClaims = .ok identity ∧
        GrantsBundle samplePolicy sampleClaims identity := by
  have valid : samplePolicy.validate = .ok () := by decide +kernel
  have exact := authorize_v6_exact rfl valid sampleClaims
  have covered : ∃ identity, samplePolicy.authorize sampleClaims = .ok identity := by
    apply exact.2.2.1.mpr
    refine ⟨⟨42, by decide, by decide, rfl⟩, ⟨_, List.mem_cons_self, ?_⟩, ?_⟩
    · exact RepositoryPolicy.matchesV6_iff.mp (by decide)
    · intro actors configured
      cases configured
      exact ⟨_, rfl⟩
  rcases covered with ⟨identity, authorized⟩
  exact ⟨rfl, valid, identity, authorized, exact.2.2.2 identity authorized⟩

end Policy

end OidcExchange.GitHub
