import OidcExchange.Data.SinglePass
import OidcExchange.GitHub.Policy
import OidcExchange.Workload.Policy

/-!
# Validation of workload policies

`WorkloadPolicy::validate` of `src/workload.rs`: every username names one service
account, and the subject repeats its namespace and its name.
-/

namespace OidcExchange.Workload

open OidcExchange.GitHub (canonicalUserId)

def workloadPolicyVersion : String := "github-oidc-exchange.apelogic.io/workload-policy-v1"

def serviceAccountPrefix : String := "system:serviceaccount:"

def subjectPrefix : String := "kubernetes:serviceaccount:"

def canonicalEmail (value : String) : Bool :=
  match Text.splitOnce value "@" with
  | none => false
  | some (name, domain) =>
      !Text.isEmpty name && Text.contains domain "." && !Text.any value Text.isWhitespace &&
        value == Text.toAsciiLowercase value

/-- The test on the roles of an identity. -/
def WorkloadIdentity.rolesValid (identity : WorkloadIdentity) : Bool :=
  !(identity.roles.isEmpty && identity.task.isNone ||
    identity.roles.dedup.length != identity.roles.length ||
    identity.roles.any fun role =>
      Text.isEmpty role || Text.any role Text.isWhitespace || Text.any role (· == '*'))

/-- The test on the task of an identity. -/
def WorkloadTaskBinding.valid (task : WorkloadTaskBinding) : Bool :=
  boundedNonWhitespace task.service 128 && canonicalUserId task.ownerCanonicalUserId &&
    canonicalEmail task.ownerEmail

/-- The loop of `validate`, with the usernames and the subjects seen so far. -/
def validateIdentities :
    List WorkloadIdentity → List String → List String → Except WorkloadPolicyError Unit
  | [], _, _ => .ok ()
  | identity :: identities, usernames, subjects =>
      match Text.stripPrefix identity.username serviceAccountPrefix with
      | none =>
          .error (.invalid "usernames must be exact Kubernetes service-account usernames")
      | some suffix =>
          match Text.split suffix ':' with
          | [space, serviceAccount] =>
              if Text.isEmpty space || Text.isEmpty serviceAccount ||
                  Text.any identity.username (· == '*') ||
                  identity.subject != subjectPrefix ++ space ++ ":" ++ serviceAccount ||
                  usernames.contains identity.username || subjects.contains identity.subject then
                .error (.invalid
                  "workload usernames and subjects must be exact, unique, and corresponding")
              else if !identity.rolesValid then
                .error (.invalid
                  "roles must contain unique non-empty exact values for non-task identities")
              else if identity.task.any fun task => !task.valid then
                .error (.invalid
                  "task bindings require an exact service, canonical user ID, and owner email")
              else
                validateIdentities identities (identity.username :: usernames)
                  (identity.subject :: subjects)
          | _ =>
              .error (.invalid
                "usernames must contain one namespace and service-account name")

def WorkloadPolicy.validate (policy : WorkloadPolicy) : Except WorkloadPolicyError Unit :=
  if policy.version ≠ workloadPolicyVersion ∨ policy.identities.isEmpty then
    .error (.invalid "unsupported or empty workload policy")
  else
    validateIdentities policy.identities [] []

/-! ## What validation guarantees -/

/-- The namespace and the name of the service account of a username. -/
def serviceAccountName (username : String) : Option (String × String) :=
  match Text.stripPrefix username serviceAccountPrefix with
  | none => none
  | some suffix =>
      match Text.split suffix ':' with
      | [space, serviceAccount] => some (space, serviceAccount)
      | _ => none

/-- What `validate` checks of an identity on its own. -/
structure WorkloadIdentity.Sound (identity : WorkloadIdentity) : Prop where
  names : ∃ space serviceAccount,
    serviceAccountName identity.username = some (space, serviceAccount) ∧
      Text.isEmpty space = false ∧ Text.isEmpty serviceAccount = false ∧
        identity.subject = subjectPrefix ++ space ++ ":" ++ serviceAccount
  exact : Text.any identity.username (· == '*') = false
  roles : identity.rolesValid = true
  task : ∀ task, identity.task = some task → task.valid = true

/-- The checks of an identity whose username names this service account. -/
theorem WorkloadIdentity.sound_iff {identity : WorkloadIdentity} {space serviceAccount : String}
    (named : serviceAccountName identity.username = some (space, serviceAccount)) :
    identity.Sound ↔
      (Text.isEmpty space = false ∧ Text.isEmpty serviceAccount = false ∧
        identity.subject = subjectPrefix ++ space ++ ":" ++ serviceAccount) ∧
      Text.any identity.username (· == '*') = false ∧ identity.rolesValid = true ∧
        ∀ task, identity.task = some task → task.valid = true := by
  constructor
  · rintro ⟨⟨_, _, namedToo, names⟩, exact, roles, task⟩
    rw [named, Option.some.injEq, Prod.mk.injEq] at namedToo
    rcases namedToo with ⟨rfl, rfl⟩
    exact ⟨names, exact, roles, task⟩
  · rintro ⟨names, exact, roles, task⟩
    exact ⟨⟨space, serviceAccount, named, names⟩, exact, roles, task⟩

/-- One round of the loop of `validate`. -/
theorem validateIdentities_cons_eq_ok_iff {identity : WorkloadIdentity}
    {identities : List WorkloadIdentity} {usernames subjects : List String} :
    validateIdentities (identity :: identities) usernames subjects = .ok () ↔
      identity.Sound ∧ identity.username ∉ usernames ∧ identity.subject ∉ subjects ∧
        validateIdentities identities (identity.username :: usernames)
          (identity.subject :: subjects) = .ok () := by
  rw [validateIdentities]
  cases stripped : Text.stripPrefix identity.username serviceAccountPrefix with
  | none =>
      have unnamed : ¬ identity.Sound := by
        rintro ⟨⟨_, _, named, _⟩, _⟩
        simp [serviceAccountName, stripped] at named
      simp [unnamed]
  | some suffix =>
      dsimp only
      split
      · rename_i space serviceAccount parts
        have named : serviceAccountName identity.username = some (space, serviceAccount) := by
          simp [serviceAccountName, stripped, parts]
        rw [WorkloadIdentity.sound_iff named]
        split
        · rename_i refused
          simp only [Bool.or_eq_true, bne_iff_ne, List.contains_iff_mem] at refused
          simp only [reduceCtorEq, false_iff]
          rintro ⟨⟨⟨spaceName, accountName, subject⟩, exact, _⟩, newUsername, newSubject, _⟩
          simp [spaceName, accountName, subject, exact, newUsername] at refused
          exact newSubject (subject ▸ refused)
        · rename_i accepted
          simp only [Bool.or_eq_true, not_or, Bool.not_eq_true, bne_eq_false_iff_eq,
            List.contains_eq_mem, decide_eq_false_iff_not] at accepted
          rcases accepted with
            ⟨⟨⟨⟨⟨spaceName, accountName⟩, exact⟩, subject⟩, newUsername⟩, newSubject⟩
          cases identity.rolesValid with
          | false => simp
          | true =>
              cases bound : identity.task with
              | none => simp [spaceName, accountName, exact, ← subject, newUsername, newSubject]
              | some task =>
                  cases taskValid : task.valid with
                  | false => simp [taskValid]
                  | true =>
                      simp [taskValid, spaceName, accountName, exact, ← subject, newUsername,
                        newSubject]
      · rename_i others
        have unnamed : ¬ identity.Sound := by
          rintro ⟨⟨space, serviceAccount, named, _⟩, _⟩
          simp [serviceAccountName, stripped] at named
        simp [unnamed]

theorem validateIdentities_singlePass :
    SinglePass
      (fun identities seen => validateIdentities identities
        (seen.map WorkloadIdentity.username) (seen.map WorkloadIdentity.subject) = .ok ())
      WorkloadIdentity.Sound
      fun first second => first.username = second.username ∨ first.subject = second.subject where
  nil _ := rfl
  cons identity identities seen := by
    rw [validateIdentities_cons_eq_ok_iff]
    simp only [List.mem_map, not_exists, not_and, not_or, List.map_cons]
    constructor
    · rintro ⟨sound, newUsername, newSubject, rest⟩
      exact ⟨sound, fun earlier member => ⟨newUsername earlier member, newSubject earlier member⟩,
        rest⟩
    · rintro ⟨sound, apart, rest⟩
      exact ⟨sound, fun earlier member => (apart earlier member).1,
        fun earlier member => (apart earlier member).2, rest⟩

/-- Exactly the policies that pass `validate`. -/
theorem WorkloadPolicy.validate_eq_ok_iff {policy : WorkloadPolicy} :
    policy.validate = .ok () ↔
      policy.version = workloadPolicyVersion ∧ policy.identities ≠ [] ∧
        validateIdentities policy.identities [] [] = .ok () := by
  simp only [WorkloadPolicy.validate, List.isEmpty_iff]
  split
  · rename_i refused
    constructor
    · intro impossible
      contradiction
    · rintro ⟨version, nonempty, _⟩
      exact absurd refused (by simp [version, nonempty])
  · rename_i accepted
    rw [not_or, not_not] at accepted
    simp [accepted]

/-- The subject of a sound identity repeats what follows the prefix of its username. -/
theorem WorkloadIdentity.Sound.subject_eq {identity : WorkloadIdentity} (sound : identity.Sound) :
    ∃ account, identity.username = serviceAccountPrefix ++ account ∧
      identity.subject = subjectPrefix ++ account := by
  rcases sound.names with ⟨space, serviceAccount, named, _, _, subject⟩
  unfold serviceAccountName at named
  split at named
  · contradiction
  rename_i suffix stripped
  split at named
  · rename_i parts
    cases named
    have joined := Text.eq_of_split_eq_pair parts
    refine ⟨suffix, Text.stripPrefix_eq_some_iff.mp stripped, ?_⟩
    rw [subject, joined, String.append_assoc, String.append_assoc, String.append_assoc]
    rfl
  · contradiction

/-- A valid policy derives the subject of an identity from its username. -/
theorem WorkloadPolicy.subject_of_authorize {policy : WorkloadPolicy}
    (valid : policy.validate = .ok ()) {username : String} {identity : WorkloadIdentity}
    (authorized : policy.authorize username = .ok identity) :
    ∃ account, username = serviceAccountPrefix ++ account ∧
      identity.subject = subjectPrefix ++ account := by
  rcases WorkloadPolicy.validate_eq_ok_iff.mp valid with ⟨_, _, loop⟩
  have sound := ((validateIdentities_singlePass.accepts_nil_iff policy.identities).mp loop).1
  unfold WorkloadPolicy.authorize at authorized
  split at authorized
  · rename_i configured matching
    have member : configured ∈
        policy.identities.filter fun identity => identity.username == username := by
      rw [matching]
      exact List.mem_singleton_self configured
    rw [List.mem_filter, beq_iff_eq] at member
    cases authorized
    rcases (sound configured member.1).subject_eq with ⟨account, usernameEq, subjectEq⟩
    exact ⟨account, member.2 ▸ usernameEq, subjectEq⟩
  · contradiction

end OidcExchange.Workload
