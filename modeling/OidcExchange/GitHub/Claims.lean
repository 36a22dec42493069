import Mathlib.Data.List.Sort
import OidcExchange.Data.DateTime
import OidcExchange.Data.Decimal

/-!
# Claims of GitHub assertions

The claims that a GitHub Actions assertion carries, and the checks that
`src/github.rs` makes on them after the signature has been verified.
-/

namespace OidcExchange.GitHub

def githubIssuer : String := "https://token.actions.githubusercontent.com"

/-- `Audience`: a string, a list of strings, or nothing. -/
inductive Audience where
  | one (value : String)
  | many (values : List String)
  | missing
  deriving DecidableEq

/-- `GitHubClaims`.  The numbers are `i64`, the attempt is a `u32`. -/
structure GitHubClaims where
  iss : String
  sub : String
  aud : Audience
  exp : Int
  iat : Int
  nbf : Int
  jti : String
  actorId : String
  actor : String
  repository : String
  repositoryId : String
  repositoryOwnerId : String
  sha : String
  runId : String
  runAttempt : Nat
  workflowRef : String
  workflowSha : String
  jobWorkflowRef : String
  jobWorkflowSha : String
  eventName : String
  gitRef : String
  deriving DecidableEq

def Audience.isExactly (audience : Audience) (expected : String) : Bool :=
  match audience with
  | .one value => value == expected
  | .many [value] => value == expected
  | .many _ => false
  | .missing => false

def decimalIdentifier (value : String) : Bool :=
  !Text.isEmpty value && Text.all value Text.isAsciiDigit

def numericIdentifier (value : String) : Bool :=
  decide (Text.len value ≤ 20) && decimalIdentifier value && value != "0" &&
    !Text.startsWith value "0"

def boundedAscii (value : String) (maximum : Nat) : Bool :=
  !Text.isEmpty value && decide (Text.len value ≤ maximum) &&
    Text.all value Text.isAsciiGraphic

/-- The characters of repository and workflow names. -/
def isSlugCharacter (c : Char) : Bool :=
  Text.isAsciiAlphanumeric c || c == '-' || c == '_' || c == '.'

def githubSlug (value : String) : Bool :=
  !Text.isEmpty value && decide (Text.len value ≤ 100) && value != "." && value != ".." &&
    Text.all value isSlugCharacter

def githubRepository (value : String) : Bool :=
  match Text.split value '/' with
  | [owner, repository] =>
      githubSlug owner && githubSlug repository && repository != "." && repository != ".."
  | _ => false

def gitSha1 (value : String) : Bool :=
  Text.len value == 40 && Text.all value Text.isLowerHex

/-- The characters that Git forbids in references. -/
def isForbiddenInRef (c : Char) : Bool :=
  c == '~' || c == '^' || c == ':' || c == '?' || c == '*' || c == '['

def validGitRef (value : String) : Bool :=
  boundedAscii value 2048 &&
    (["refs/heads/", "refs/tags/", "refs/pull/"].any fun kind =>
      match Text.stripPrefix value kind with
      | some rest => !Text.isEmpty rest
      | none => false) &&
    !Text.endsWith value "/" && !Text.endsWith value "." && !Text.contains value ".." &&
    !Text.contains value "@\x7b" && !Text.contains value "//" && !Text.contains value "\\" &&
    !Text.any value isForbiddenInRef &&
    (Text.split value '/').all fun component =>
      !Text.startsWith component "." && !Text.endsWith component ".lock"

def workflowReference (value : String) (expectedRepository : Option String)
    (resolvedSha : String) : Bool :=
  if !boundedAscii value 2048 then
    false
  else
    match Text.splitOnce value "/.github/workflows/" with
    | none => false
    | some (repository, workflowAndRef) =>
        if !githubRepository repository ||
            expectedRepository.any (fun expected => expected != repository) then
          false
        else
          match Text.rsplitOnce workflowAndRef '@' with
          | none => false
          | some (workflow, gitRef) =>
              !Text.isEmpty workflow && decide (Text.len workflow ≤ 255) &&
                (Text.endsWith workflow ".yml" || Text.endsWith workflow ".yaml") &&
                Text.all workflow isSlugCharacter &&
                (validGitRef gitRef || gitSha1 gitRef && gitRef == resolvedSha)

def provenanceConsistent (claims : GitHubClaims) : Bool :=
  match Text.splitOnce claims.repository "/" with
  | none => false
  | some (owner, repository) =>
      let standardPrefix := "repo:" ++ claims.repository ++ ":"
      let numericPrefix := "repo:" ++ owner ++ "@" ++ claims.repositoryOwnerId ++ "/" ++
        repository ++ "@" ++ claims.repositoryId ++ ":"
      let suffix := (Text.stripPrefix claims.sub standardPrefix).or
        (Text.stripPrefix claims.sub numericPrefix)
      match suffix.filter (fun suffix => boundedAscii suffix 1024) with
      | none => false
      | some suffix =>
          let subjectMatchesRef :=
            match Text.stripPrefix suffix "ref:" with
            | none => true
            | some subjectRef => subjectRef == claims.gitRef
          let pullRequestMatchesRef := suffix != "pull_request" ||
            Text.startsWith claims.gitRef "refs/pull/" && Text.endsWith claims.gitRef "/merge"
          subjectMatchesRef && pullRequestMatchesRef &&
            workflowReference claims.workflowRef (some claims.repository) claims.workflowSha &&
            workflowReference claims.jobWorkflowRef none claims.jobWorkflowSha

/-- The checks of `verify` after the token has been decoded, at the clock second
`now`. -/
def claimsValid (audience : String) (now : Int) (claims : GitHubClaims) : Bool :=
  match checkedSub claims.exp claims.iat with
  | none => false
  | some lifetime =>
      !(claims.iss != githubIssuer || !claims.aud.isExactly audience ||
        decide (lifetime ≤ 0) || decide (lifetime > 600) || decide (claims.iat > now + 30) ||
        decide (claims.nbf > claims.iat) || Text.isEmpty claims.sub ||
        Text.isEmpty claims.jti || !numericIdentifier claims.actorId ||
        !boundedAscii claims.actor 128 || !githubRepository claims.repository ||
        !numericIdentifier claims.repositoryId || !numericIdentifier claims.repositoryOwnerId ||
        !gitSha1 claims.sha || !numericIdentifier claims.runId || claims.runAttempt == 0 ||
        !boundedAscii claims.workflowRef 2048 || !gitSha1 claims.workflowSha ||
        !boundedAscii claims.jobWorkflowRef 2048 || !gitSha1 claims.jobWorkflowSha ||
        !boundedAscii claims.eventName 255 || !validGitRef claims.gitRef ||
        !provenanceConsistent claims)

/-- Accepted claims live for at most ten minutes and are not issued later than 30 s from now. -/
theorem claimsValid_times {audience : String} {now : Int} {claims : GitHubClaims}
    (valid : claimsValid audience now claims = true) :
    claims.exp ≤ claims.iat + 600 ∧ claims.iat ≤ now + 30 := by
  unfold claimsValid at valid
  split at valid
  · contradiction
  rename_i lifetime subtracted
  rcases checkedI64_eq_some_iff.mp subtracted with ⟨rfl, _⟩
  simp only [Bool.not_eq_true', Bool.or_eq_false_iff, decide_eq_false_iff_not] at valid
  omega

/-- A numeric identifier is the decimal notation of a positive number of at most
20 digits. -/
theorem numericIdentifier_iff {value : String} :
    numericIdentifier value = true ↔ ∃ n, 0 < n ∧ n < 10 ^ 20 ∧ value = Nat.repr n := by
  simp only [numericIdentifier, decimalIdentifier, Text.isEmpty, Text.all, Bool.and_eq_true,
    Bool.not_eq_true', decide_eq_true_eq, bne_iff_ne, List.all_eq_true]
  constructor
  · rintro ⟨⟨⟨bound, nonempty, digits⟩, _⟩, leading⟩
    rw [Text.len_of_digits digits] at bound
    rw [Text.startsWith_zero, beq_eq_false_iff_ne] at leading
    have denotes : Decimal.Denotes value.toList (Nat.ofDigitChars 10 value.toList 0) :=
      ⟨List.isEmpty_eq_false_iff.mp nonempty, digits, fun zero => absurd zero leading, rfl⟩
    refine ⟨_, denotes.pos leading, (denotes.length_le_iff (by decide)).mp bound, ?_⟩
    rw [← String.toList_inj, Nat.toList_repr]
    exact Decimal.denotes_iff.mp denotes
  · rintro ⟨n, positive, small, rfl⟩
    have denotes : Decimal.Denotes (Nat.repr n).toList n := by
      rw [Nat.toList_repr]
      exact Decimal.denotes_toDigits n
    have leading : (Nat.repr n).toList.head? ≠ some '0' := by
      rw [Nat.toList_repr]
      exact Decimal.head?_toDigits_ne_zero positive
    refine ⟨⟨⟨?_, List.isEmpty_eq_false_iff.mpr denotes.nonempty, denotes.isDigit⟩, ?_⟩, ?_⟩
    · rw [Text.len_of_digits denotes.isDigit]
      exact (denotes.length_le_iff (by decide)).mpr small
    · intro zero
      rw [zero] at leading
      exact leading rfl
    · rw [Text.startsWith_zero, beq_eq_false_iff_ne]
      exact leading

end OidcExchange.GitHub
