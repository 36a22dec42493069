import OidcExchange.Process.Trace
import OidcExchange.Workload.Policy

/-!
# The Kubernetes TokenReview

`KubernetesTokenReviewer` of `src/workload.rs`: what is posted to the API server and which of
its responses select a username.
-/

namespace OidcExchange.Workload

open OidcExchange.Process

structure TokenReviewSpec where
  token : String
  audiences : List String
  deriving DecidableEq

structure TokenReviewRequest where
  apiVersion : String
  kind : String
  spec : TokenReviewSpec
  deriving DecidableEq

structure TokenReviewUser where
  username : Option String

structure TokenReviewStatus where
  authenticated : Option Bool
  audiences : Option (List String)
  user : Option TokenReviewUser

structure TokenReviewResponse where
  status : Option TokenReviewStatus

namespace TokenReview

/-- `MAX_ASSERTION_BYTES` -/
def maxAssertionBytes : Nat := 32 * 1024

/-- The operations of a review: the credential file is read, and the request is posted with the
credential as its bearer token. -/
inductive Op where
  | readCredential
  | post (credential : String) (request : TokenReviewRequest)
  deriving DecidableEq

/-- A response is its HTTP status with the decoded body; `none` stands for a request that failed
and for a body that cannot be decoded. -/
@[reducible]
def Answer : Op → Type
  | .readCredential => Option String
  | .post _ _ => Option (Nat × Option TokenReviewResponse)

def request (token audience : String) : TokenReviewRequest where
  apiVersion := "authentication.k8s.io/v1"
  kind := "TokenReview"
  spec := { token := token, audiences := [audience] }

end TokenReview

def validateTokenReview (response : TokenReviewResponse) (audience : String) :
    Except ReviewError String :=
  match response.status with
  | none => .error .invalid
  | some status =>
      if status.authenticated ≠ some true ∨ status.audiences ≠ some [audience] then
        .error .invalid
      else
        match (status.user.bind TokenReviewUser.username).filter
            fun username => !Text.isEmpty username with
        | none => .error .invalid
        | some username => .ok username

/-- The response to the posted review.  A status from 400 to 599 is an error. -/
def reviewResult (audience : String) :
    Option (Nat × Option TokenReviewResponse) → Except ReviewError String
  | some (status, some response) =>
      if 400 ≤ status ∧ status < 600 then
        .error .unavailable
      else
        validateTokenReview response audience
  | _ => .error .unavailable

namespace TokenReview

/-- `review` of the Kubernetes reviewer. -/
def review (token audience : String) : Program Answer (Except ReviewError String) :=
  if Text.isEmpty token || decide (Text.len token > maxAssertionBytes) || Text.isEmpty audience then
    return .error .invalid
  else
    .call .readCredential fun
      | none => return .error .unavailable
      | some text =>
          if Text.isEmpty (Text.trim text) then
            return .error .unavailable
          else
            .call (.post (Text.trim text) (request token audience)) fun response =>
              return reviewResult audience response

end TokenReview

theorem validateTokenReview_ne_unavailable {response : TokenReviewResponse} {audience : String} :
    validateTokenReview response audience ≠ .error .unavailable := by
  unfold validateTokenReview
  split
  · exact nofun
  · split
    · exact nofun
    · split
      · exact nofun
      · exact nofun

/-- The response authenticates exactly this audience and names this user. -/
def TokenReviewResponse.Confirms (response : TokenReviewResponse) (audience username : String) :
    Prop :=
  username ≠ "" ∧ ∃ status user, response.status = some status ∧
    status.authenticated = some true ∧ status.audiences = some [audience] ∧
    status.user = some user ∧ user.username = some username

theorem validateTokenReview_eq_ok_iff {response : TokenReviewResponse}
    {audience username : String} :
    validateTokenReview response audience = .ok username ↔
      response.Confirms audience username := by
  rcases response with ⟨_ | ⟨authenticated, audiences, user⟩⟩
  · simp [validateTokenReview, TokenReviewResponse.Confirms]
  · by_cases exact : authenticated ≠ some true ∨ audiences ≠ some [audience]
    · simp only [validateTokenReview, TokenReviewResponse.Confirms, if_pos exact, reduceCtorEq,
        false_iff]
      rintro ⟨_, status, reviewed, ⟨⟩, authentic, single, _⟩
      exact exact.elim (fun other => other authentic) fun other => other single
    · simp only [not_or, not_not] at exact
      rcases exact with ⟨rfl, rfl⟩
      simp only [validateTokenReview, TokenReviewResponse.Confirms, ne_eq, not_true_eq_false,
        or_self, if_false]
      cases named : (user.bind TokenReviewUser.username).filter
          fun username => !Text.isEmpty username with
      | none =>
          simp only [reduceCtorEq, false_iff]
          rintro ⟨nonempty, status, reviewed, ⟨⟩, _, _, rfl, selected⟩
          simp [selected, ← Text.isEmpty_eq_true_iff] at named nonempty
          simp [named] at nonempty
      | some name =>
          rcases Option.filter_eq_some_iff.mp named with ⟨selected, nonempty⟩
          rcases Option.bind_eq_some_iff.mp selected with ⟨reviewed, rfl, selected⟩
          rw [Bool.not_eq_true', ← Bool.not_eq_true, Text.isEmpty_eq_true_iff] at nonempty
          constructor
          · rintro ⟨⟩
            exact ⟨nonempty, _, reviewed, rfl, rfl, rfl, rfl, selected⟩
          · rintro ⟨_, status, other, ⟨⟩, _, _, ⟨⟩, same⟩
            exact congrArg Except.ok (Option.some.inj (selected.symm.trans same))

namespace TokenReview

/-- The token and the audience of a review that is sent. -/
structure Presentable (token audience : String) : Prop where
  token_ne : token ≠ ""
  token_le : Text.len token ≤ maxAssertionBytes
  audience_ne : audience ≠ ""

/-- The API server has answered without an error status. -/
def Answered (answer : Option (Nat × Option TokenReviewResponse))
    (response : TokenReviewResponse) : Prop :=
  ∃ status, answer = some (status, some response) ∧ ¬(400 ≤ status ∧ status < 600)

/-- The completed reviews.  The credential that is posted is neither blank nor padded. -/
inductive Reviews (token audience : String) :
    List (Event Answer) → Except ReviewError String → Prop
  | unpresentable (unpresentable : ¬ Presentable token audience) :
      Reviews token audience [] (.error .invalid)
  | blank {text : Option String} (presentable : Presentable token audience)
      (blank : ∀ content, text = some content → Text.trim content = "") :
      Reviews token audience [⟨.readCredential, text⟩] (.error .unavailable)
  | unanswered {text : String} {answer : Option (Nat × Option TokenReviewResponse)}
      (presentable : Presentable token audience) (credential : Text.trim text ≠ "")
      (unanswered : ∀ response, ¬ Answered answer response) :
      Reviews token audience [⟨.readCredential, some text⟩,
        ⟨.post (Text.trim text) (request token audience), answer⟩] (.error .unavailable)
  | unconfirmed {text : String} {answer : Option (Nat × Option TokenReviewResponse)}
      {response : TokenReviewResponse} (presentable : Presentable token audience)
      (credential : Text.trim text ≠ "") (answered : Answered answer response)
      (unconfirmed : ∀ username, ¬ response.Confirms audience username) :
      Reviews token audience [⟨.readCredential, some text⟩,
        ⟨.post (Text.trim text) (request token audience), answer⟩] (.error .invalid)
  | confirmed {text username : String} {answer : Option (Nat × Option TokenReviewResponse)}
      {response : TokenReviewResponse} (presentable : Presentable token audience)
      (credential : Text.trim text ≠ "") (answered : Answered answer response)
      (confirms : response.Confirms audience username) :
      Reviews token audience [⟨.readCredential, some text⟩,
        ⟨.post (Text.trim text) (request token audience), answer⟩] (.ok username)

theorem presentable_iff {token audience : String} :
    ¬(Text.isEmpty token || decide (Text.len token > maxAssertionBytes) ||
      Text.isEmpty audience) = true ↔ Presentable token audience := by
  rw [Bool.or_eq_true, Bool.or_eq_true, decide_eq_true_eq, Text.isEmpty_eq_true_iff,
    Text.isEmpty_eq_true_iff, not_or, not_or, Nat.not_lt]
  constructor
  · rintro ⟨⟨tokenNe, tokenLe⟩, audienceNe⟩
    exact ⟨tokenNe, tokenLe, audienceNe⟩
  · rintro ⟨tokenNe, tokenLe, audienceNe⟩
    exact ⟨⟨tokenNe, tokenLe⟩, audienceNe⟩

/-- A posted review ends as the response says. -/
theorem reviews_of_answer {token audience text : String} (presentable : Presentable token audience)
    (credential : Text.trim text ≠ "") (answer : Option (Nat × Option TokenReviewResponse)) :
    Reviews token audience [⟨.readCredential, some text⟩,
      ⟨.post (Text.trim text) (request token audience), answer⟩] (reviewResult audience answer) := by
  rcases answer with _ | ⟨status, _ | response⟩
  · exact .unanswered presentable credential fun _ ⟨_, answered, _⟩ => nomatch answered
  · exact .unanswered presentable credential fun _ ⟨_, answered, _⟩ => nomatch answered
  · by_cases failed : 400 ≤ status ∧ status < 600
    · simp only [reviewResult, if_pos failed]
      refine .unanswered presentable credential ?_
      rintro _ ⟨_, ⟨⟩, passed⟩
      exact passed failed
    · simp only [reviewResult, if_neg failed]
      have answered : Answered (some (status, some response)) response := ⟨status, rfl, failed⟩
      cases valid : validateTokenReview response audience with
      | ok username =>
          exact .confirmed presentable credential answered
            (validateTokenReview_eq_ok_iff.mp valid)
      | error failure =>
          have unconfirmed : ∀ username, ¬ response.Confirms audience username := by
            intro username confirms
            rw [validateTokenReview_eq_ok_iff.mpr confirms] at valid
            exact nomatch valid
          cases failure with
          | invalid => exact .unconfirmed presentable credential answered unconfirmed
          | unavailable => exact absurd valid validateTokenReview_ne_unavailable

/-- What a review may do after the given operations. -/
def Posts (token audience : String) (before : List (Event Answer)) : Op → Prop
  | .readCredential => Presentable token audience
  | .post credential posted => Presentable token audience ∧ credential ≠ "" ∧
      posted = request token audience ∧ ∃ text, before = [⟨.readCredential, some text⟩]

/-- Every review is one of these, wherever it is cut off. -/
theorem review_lawful (token audience : String) :
    (review token audience).Lawful (Posts token audience) (Reviews token audience) [] := by
  unfold review
  split
  · next rejected =>
    exact .unpresentable fun presentable => presentable_iff.mpr presentable rejected
  · next accepted =>
    have presentable : Presentable token audience := presentable_iff.mp accepted
    refine ⟨presentable, ?_⟩
    rintro (_ | text)
    · exact .blank presentable nofun
    · dsimp only
      generalize blankEq : Text.isEmpty (Text.trim text) = blank
      cases blank with
      | true =>
          refine .blank presentable ?_
          rintro _ ⟨⟩
          exact Text.isEmpty_eq_true_iff.mp blankEq
      | false =>
          have credential : Text.trim text ≠ "" := fun empty =>
            Bool.false_ne_true (blankEq.symm.trans (Text.isEmpty_eq_true_iff.mpr empty))
          exact ⟨⟨presentable, credential, rfl, text, rfl⟩,
            reviews_of_answer presentable credential⟩

/-- A review that is posted. -/
theorem review_path {token audience text : String} (presentable : Presentable token audience)
    (credential : Text.trim text ≠ "") (answer : Option (Nat × Option TokenReviewResponse)) :
    Program.Path (review token audience)
      [⟨.readCredential, some text⟩, ⟨.post (Text.trim text) (request token audience), answer⟩]
      (.done (reviewResult audience answer)) := by
  unfold review
  rw [if_neg (presentable_iff.mpr presentable)]
  refine .step ?_
  simp only [if_neg (Text.isEmpty_eq_true_iff.not.mpr credential)]
  exact .step (.refl _)

end TokenReview

end OidcExchange.Workload
