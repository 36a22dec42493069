import OidcExchange.Http.Listener
import OidcExchange.Process.Interpret
import OidcExchange.Service.Subjects
import OidcExchange.Workload.TokenReview

/-!
# The private listener over the TokenReview API

The private listener with its reviews carried out against the API server.  At most one review
is posted for a request, for the presented assertion, and nothing is consumed or signed before
the API server has confirmed a user whom the policy of the exchange admits.
-/

namespace OidcExchange.Http

open OidcExchange.Process OidcExchange.Process.Program OidcExchange.Service OidcExchange.Workload

/-- The operations of a listener and those of its reviews. -/
inductive LinkedOp where
  | http (op : Op)
  | review (op : TokenReview.Op)

@[reducible]
def LinkedAnswer : LinkedOp → Type
  | .http op => Answer op
  | .review op => TokenReview.Answer op

/-- A review as part of a listener. -/
def reviewProgram {α : Type} (program : Program TokenReview.Answer α) : Program LinkedAnswer α :=
  program.interpret fun op => .call (.review op) .done

/-- A TokenReview is carried out, every other operation stays. -/
def linked : (op : Op) → Program LinkedAnswer (Answer op)
  | .service (.review token audience) => reviewProgram (TokenReview.review token audience)
  | op => .call (.http op) .done

/-- The API server has confirmed this user for this token and audience. -/
def Confirmed (token audience username : String) (events : List (Event LinkedAnswer)) : Prop :=
  ∃ credential answer response,
    (⟨.review (.post credential (TokenReview.request token audience)), answer⟩ :
      Event LinkedAnswer) ∈ events ∧
    TokenReview.Answered answer response ∧ response.Confirms audience username

def isPost : Event LinkedAnswer → Bool
  | ⟨.review (.post _ _), _⟩ => true
  | _ => false

/-- The operations that consume a replay key or sign. -/
def isEffect : Service.Op → Bool
  | .useOnce _ _ => true
  | .sign _ => true
  | _ => false

section Events

theorem serviceEvents_append {first second : List (Event Answer)} :
    serviceEvents (first ++ second) = serviceEvents first ++ serviceEvents second := by
  induction first with
  | nil => rfl
  | cons event first inductionHypothesis =>
      rcases event with ⟨op, answer⟩
      cases op with
      | service op => exact congrArg (List.cons _) inductionHypothesis
      | _ => exact inductionHypothesis

theorem mem_serviceEvents_iff {op : Service.Op} {answer : Service.Answer op}
    {events : List (Event Answer)} :
    (⟨op, answer⟩ : Event Service.Answer) ∈ serviceEvents events ↔
      (⟨.service op, answer⟩ : Event Answer) ∈ events := by
  induction events with
  | nil => simp [serviceEvents]
  | cons event events inductionHypothesis =>
      rcases event with ⟨other, given⟩
      cases other with
      | service other => simp [serviceEvents, inductionHypothesis]
      | _ => simp [serviceEvents, inductionHypothesis]

/-- The operations of one review. -/
theorem linked_review_path {token audience : String} {events : List (Event LinkedAnswer)}
    {target : Program LinkedAnswer (Except ReviewError String)}
    (path : Path (linked (.service (.review token audience))) events target) :
    ∃ (source : List (Event TokenReview.Answer)) (rest : _),
      events = source.map (fun event => ⟨.review event.1, event.2⟩) ∧
      Path (TokenReview.review token audience) source rest ∧
      ∀ result, target = .done result → rest = .done result := by
  rcases Path.of_relabel path with ⟨source, rest, eventsEq, sourcePath, rfl⟩
  refine ⟨source, rest, eventsEq, ?_, ?_⟩
  · rwa [List.map_id''] at sourcePath
    exact fun _ => rfl
  · intro result completed
    cases rest with
    | done result =>
        cases completed
        rfl
    | call op next => exact nomatch completed

theorem linked_review_run {token audience : String} {source : List (Event TokenReview.Answer)}
    {result : Except ReviewError String}
    (path : Path (TokenReview.review token audience) source (.done result)) :
    Path (linked (.service (.review token audience)))
      (source.map fun event => (⟨.review event.1, event.2⟩ : Event LinkedAnswer))
      (.done result) := by
  change Path (reviewProgram (TokenReview.review token audience)) _ _
  generalize TokenReview.review token audience = program at path ⊢
  generalize targetEq : Program.done result = target at path
  induction path with
  | refl program =>
      subst targetEq
      exact .refl _
  | step rest inductionHypothesis => exact .step (inductionHypothesis targetEq)

/-- An operation that is carried out by a program of its own. -/
def isReview : Op → Bool
  | .service (.review _ _) => true
  | _ => false

theorem linked_eq_call {op : Op} (other : isReview op = false) :
    linked op = .call (.http op) .done := by
  cases op with
  | service op =>
      cases op with
      | review token audience => exact nomatch other
      | _ => rfl
  | _ => rfl

/-- The operations of a listener over a review. -/
def linkedEvents (review : List (Event TokenReview.Answer)) (rest : List (Event Answer)) :
    List (Event LinkedAnswer) :=
  review.map (fun event => ⟨.review event.1, event.2⟩) ++
    rest.map fun event => ⟨.http event.1, event.2⟩

theorem expands_linkedEvents {token audience username : String}
    {review : List (Event TokenReview.Answer)} {rest : List (Event Answer)}
    (reviewed : Path (TokenReview.review token audience) review (.done (.ok username)))
    (unreviewed : ∀ event ∈ rest, isReview event.1 = false) :
    Expands linked (⟨.service (.review token audience), .ok username⟩ :: rest)
      (linkedEvents review rest) := by
  refine .cons (linked_review_run reviewed) ?_
  induction rest with
  | nil => exact .nil
  | cons event rest inductionHypothesis =>
      have run : Path (linked event.1) [⟨.http event.1, event.2⟩] (.done event.2) := by
        rw [linked_eq_call (unreviewed event List.mem_cons_self)]
        exact .step (.refl _)
      exact .cons run (inductionHypothesis fun later mem =>
        unreviewed later (List.mem_cons_of_mem _ mem))

end Events

section Private

variable {E R : Type} {state : WorkloadAppState E R} {request : Request}
  {source : List (Event Answer)}

/-- The policy of the exchange that the request asks for admits this user. -/
def WorkloadAppState.Admits (state : WorkloadAppState E R) (request : Request)
    (username : String) : Prop :=
  (request.path = "/v1/workload/exchange" ∧
      ∃ identity, state.workload.service.policy.authorize username = .ok identity) ∨
    request.path = "/v1/browser-hop1/exchange" ∧
      ∃ browser caller, state.browserHop1 = some browser ∧
        browser.service.policy.authorize username = .ok caller ∧
        browserHop1IssuerRole ∈ caller.roles

/-- A workload exchange consumes and signs for the reviewed user only. -/
theorem reviewed_of_effect {service : WorkloadExchangeService} {assertion : String}
    {lifetime : Nat} {events : List (Event Service.Answer)} {op : Service.Op}
    {answer : Service.Answer op} {target : HttpProgram Response} (effect : isEffect op = true)
    (conducted : Conducted (.workload service assertion) lifetime (events ++ [⟨op, answer⟩])
      target) :
    ∃ username identity,
      (⟨.review assertion service.inputAudience, .ok username⟩ : Event Service.Answer) ∈ events ∧
      service.policy.authorize username = .ok identity := by
  have used : ∀ before jti expiresAt given after,
      events ++ [⟨op, answer⟩] = before ++ ⟨.useOnce jti expiresAt, given⟩ :: after →
        ∃ username identity,
          (⟨.review assertion service.inputAudience, .ok username⟩ : Event Service.Answer) ∈
            before ∧ service.policy.authorize username = .ok identity := by
    intro before jti expiresAt given after eventsEq
    rcases conducted.admitted before jti expiresAt given after eventsEq with
      ⟨username, identity, task, claims, now, reviewed, authorized, -⟩
    exact ⟨username, identity, mem_of_answerTo reviewed, authorized⟩
  cases op with
  | useOnce jti expiresAt => exact used events jti expiresAt answer [] rfl
  | sign document =>
      rcases conducted.signed events document answer [] rfl with
        ⟨jti, expiresAt, consumed⟩ | ⟨identity, selected, -⟩
      · rcases List.append_of_mem consumed with ⟨before, after, rfl⟩
        rcases used before jti expiresAt (.ok ()) (after ++ [⟨.sign document, answer⟩])
          (by simp) with ⟨username, identity, mem, authorized⟩
        exact ⟨username, identity, List.mem_append_left _ mem, authorized⟩
      · unfold WorkloadExchangeService.selected at selected
        split at selected
        · next username reviewed =>
          split at selected
          · next identity authorized =>
            exact ⟨username, identity, mem_of_answerTo reviewed, authorized⟩
          · exact nomatch selected
        · exact nomatch selected
  | _ => exact nomatch effect

/-- A browser exchange consumes and signs for a caller with the role of an issuer only. -/
theorem caller_of_effect {service : BrowserHop1ExchangeService} {username assertion : String}
    {lifetime : Nat} {events : List (Event Service.Answer)} {op : Service.Op}
    {answer : Service.Answer op} {target : HttpProgram Response} (effect : isEffect op = true)
    (conducted : Conducted (.browserHop1 service username assertion) lifetime
      (events ++ [⟨op, answer⟩]) target) :
    ∃ caller, service.policy.authorize username = .ok caller ∧
      browserHop1IssuerRole ∈ caller.roles := by
  have used : ∀ before jti expiresAt given after,
      events ++ [⟨op, answer⟩] = before ++ ⟨.useOnce jti expiresAt, given⟩ :: after →
        ∃ caller, service.policy.authorize username = .ok caller ∧
          browserHop1IssuerRole ∈ caller.roles := by
    intro before jti expiresAt given after eventsEq
    rcases conducted.admitted before jti expiresAt given after eventsEq with
      ⟨caller, claims, authorized, role, -⟩
    exact ⟨caller, authorized, role⟩
  cases op with
  | useOnce jti expiresAt => exact used events jti expiresAt answer [] rfl
  | sign document =>
      rcases conducted.signed events document answer [] rfl with
        ⟨jti, expiresAt, consumed⟩ | impossible
      · rcases List.append_of_mem consumed with ⟨before, after, rfl⟩
        exact used before jti expiresAt (.ok ()) (after ++ [⟨.sign document, answer⟩]) (by simp)
      · exact impossible.elim
  | _ => exact nomatch effect

/-- The last operation of a reviewed exchange is its review or comes after it. -/
theorem Reviewed.last {assertion audience : String} {asked : String → Service.Request}
    {lifetime : Nat} {events : List (Event Service.Answer)} {op : Service.Op}
    {answer : Service.Answer op} {target : HttpProgram Response}
    (reviewed : Reviewed assertion audience asked lifetime (events ++ [⟨op, answer⟩]) target) :
    (events = [] ∧ op = .review assertion audience) ∨
      ∃ username rest, events = ⟨.review assertion audience, .ok username⟩ :: rest ∧
        Conducted (asked username) lifetime (rest ++ [⟨op, answer⟩]) target := by
  generalize allEq : events ++ [(⟨op, answer⟩ : Event Service.Answer)] = all at reviewed
  cases reviewed with
  | waiting unanswered => exact absurd allEq (List.append_ne_nil_of_right_ne_nil _ nofun)
  | invalid status withheld =>
      rcases List.append_eq_singleton_iff.mp allEq with ⟨rfl, last⟩ | ⟨_, impossible⟩
      · cases last
        exact Or.inl ⟨rfl, rfl⟩
      · exact nomatch impossible
  | unavailable status withheld =>
      rcases List.append_eq_singleton_iff.mp allEq with ⟨rfl, last⟩ | ⟨_, impossible⟩
      · cases last
        exact Or.inl ⟨rfl, rfl⟩
      · exact nomatch impossible
  | accepted conducted =>
      cases events with
      | nil =>
          cases allEq
          exact Or.inl ⟨rfl, rfl⟩
      | cons event rest =>
          cases allEq
          exact Or.inr ⟨_, rest, rfl, conducted⟩

/-- Before anything is consumed or signed, the presented assertion has been reviewed. -/
theorem reviewed_before_effect {op : Service.Op} {answer : Service.Answer op}
    {target : HttpProgram Response} (effect : isEffect op = true)
    (path : Path (serve (workloadRouter state) request) (source ++ [⟨.service op, answer⟩])
      target) :
    ∃ token username, bearerAssertion request.headers = some token ∧
      state.Admits request username ∧
      (⟨.service (.review token state.workload.service.inputAudience), .ok username⟩ :
        Event Answer) ∈ source := by
  have met := private_listener path
  cases demanded : state.demand request with
  | none =>
      rw [demanded] at met
      have empty := met.1
      rw [serviceEvents_append] at empty
      exact nomatch (List.append_eq_nil_iff.mp empty).2
  | some demand =>
      rw [demanded] at met
      rcases WorkloadAppState.demand_eq_some demanded with ⟨-, assertion, bearer,
        ⟨location, -, rfl⟩ | ⟨location, -, -, browser, enabled, presented, -, rfl⟩⟩
      · simp only [Demand.Met, serviceEvents_append] at met
        rcases reviewed_of_effect effect met with ⟨username, identity, mem, authorized⟩
        exact ⟨assertion, username, bearer, Or.inl ⟨location, identity, authorized⟩,
          mem_serviceEvents_iff.mp mem⟩
      · simp only [Demand.Met, serviceEvents_append] at met
        rcases Reviewed.last met with ⟨-, rfl⟩ | ⟨username, rest, eventsEq, conducted⟩
        · exact nomatch effect
        · rcases caller_of_effect effect conducted with ⟨caller, authorized, role⟩
          refine ⟨assertion, username, bearer,
            Or.inr ⟨location, browser, caller, enabled, authorized, role⟩, ?_⟩
          apply mem_serviceEvents_iff.mp
          rw [eventsEq]
          exact List.mem_cons_self

/-- A review is the first operation after the counting of the request, if any. -/
theorem review_presented {token audience : String} {answer : Except ReviewError String}
    {target : HttpProgram Response}
    (path : Path (serve (workloadRouter state) request)
      (source ++ [⟨.service (.review token audience), answer⟩]) target) :
    bearerAssertion request.headers = some token ∧
      audience = state.workload.service.inputAudience ∧
      (serviceEvents source = [] ∨ serviceEvents source = [⟨.count .workload .requests, ()⟩]) := by
  have met := private_listener path
  cases demanded : state.demand request with
  | none =>
      rw [demanded] at met
      have empty := met.1
      rw [serviceEvents_append] at empty
      exact nomatch (List.append_eq_nil_iff.mp empty).2
  | some demand =>
      rw [demanded] at met
      rcases WorkloadAppState.demand_eq_some demanded with ⟨-, assertion, bearer,
        ⟨location, -, rfl⟩ | ⟨location, -, -, browser, enabled, presented, -, rfl⟩⟩
      · simp only [Demand.Met, serviceEvents_append] at met
        rcases met.presented (serviceEvents source) (.review token audience) answer [] rfl with
          ⟨service, same, audienceEq, counted⟩
        cases same
        exact ⟨bearer, audienceEq, Or.inr counted⟩
      · simp only [Demand.Met, serviceEvents_append] at met
        rcases Reviewed.last met with ⟨empty, same⟩ | ⟨username, rest, eventsEq, conducted⟩
        · cases same
          exact ⟨bearer, rfl, Or.inl empty⟩
        · rcases conducted.presented rest (.review token audience) answer [] rfl with
            ⟨service, impossible, -⟩
          exact nomatch impossible

end Private

section Linked

variable {E R : Type} {state : WorkloadAppState E R} {request : Request}
  {events before after : List (Event LinkedAnswer)}

theorem linked_cases (op : Op) :
    (∃ token audience, op = .service (.review token audience)) ∨
      linked op = .call (.http op) .done := by
  cases review : isReview op with
  | false => exact Or.inr (linked_eq_call review)
  | true =>
      unfold isReview at review
      split at review
      · exact Or.inl ⟨_, _, rfl⟩
      · exact nomatch review

/-- The last operation of a part of a listener's operation is that operation or belongs to its
review. -/
theorem linked_last {op : Op} {inner : List (Event LinkedAnswer)} {event : Event LinkedAnswer}
    {remainder : Program LinkedAnswer (Answer op)}
    (run : Path (linked op) (inner ++ [event]) remainder) :
    (∃ token audience source last, op = .service (.review token audience) ∧
      TokenReview.Posts token audience source last ∧
      inner = source.map (fun event => ⟨.review event.1, event.2⟩) ∧ event.1 = .review last) ∨
    (inner = [] ∧ event.1 = .http op) := by
  rcases linked_cases op with ⟨token, audience, rfl⟩ | single
  · rcases linked_review_path run with ⟨source, rest, eventsEq, path, -⟩
    rcases List.append_eq_map_iff.mp eventsEq with ⟨front, back, rfl, rfl, backEq⟩
    rcases List.map_eq_singleton_iff.mp backEq with ⟨last, rfl, rfl⟩
    have posts := (TokenReview.review_lawful token audience).operation path
    exact Or.inl ⟨token, audience, front, last.1, rfl, posts, rfl, rfl⟩
  · rw [single] at run
    generalize allEq : inner ++ [event] = all at run
    cases run with
    | refl => exact absurd allEq (List.append_ne_nil_of_right_ne_nil _ nofun)
    | step rest =>
        have last := rest.events_eq_nil
        subst last
        rcases List.append_eq_singleton_iff.mp allEq with ⟨rfl, same⟩ | ⟨_, impossible⟩
        · cases same
          exact Or.inr ⟨rfl, rfl⟩
        · exact nomatch impossible

/-- A review that has selected a user has been confirmed. -/
theorem confirmed_of_review {token audience username : String} {source : List (Event Answer)}
    (expands : Expands linked source events)
    (mem : (⟨.service (.review token audience), .ok username⟩ : Event Answer) ∈ source) :
    Confirmed token audience username events := by
  rcases expands.block mem with ⟨block, run, included⟩
  rcases linked_review_path run with ⟨reviewed, rest, rfl, path, completed⟩
  rw [completed _ rfl] at path
  have reviews := (TokenReview.review_lawful token audience).result path
  cases reviews with
  | @confirmed text _ answer response presentable credential answered confirms =>
      refine ⟨Text.trim text, answer, response, included _ ?_, answered, confirms⟩
      exact List.mem_map.mpr ⟨_, List.mem_cons_of_mem _ List.mem_cons_self, rfl⟩

/-- Operations without a review post nothing. -/
theorem isPost_eq_false_of_expands {source : List (Event Answer)}
    (expands : Expands linked source events)
    (unreviewed : ∀ token audience answer,
      (⟨.service (.review token audience), answer⟩ : Event Answer) ∉ source) :
    ∀ event ∈ events, isPost event = false := by
  intro event mem
  rcases expands.exists_of_mem mem with ⟨op, answer, block, present, run, inside⟩
  rcases linked_cases op with ⟨token, audience, rfl⟩ | single
  · exact absurd present (unreviewed token audience answer)
  · rw [single] at run
    rcases run.exists_of_call with ⟨given, _, rfl, rest⟩
    rw [rest.events_eq_nil] at inside
    rw [List.mem_singleton.mp inside]
    rfl

theorem mem_of_signAnswer {events : List (Event Service.Answer)} {answer : Option String}
    (signed : signAnswer events = some answer) :
    ∃ document, (⟨.sign document, answer⟩ : Event Service.Answer) ∈ events := by
  induction events with
  | nil => exact nomatch signed
  | cons event events inductionHypothesis =>
      rcases event with ⟨op, given⟩
      cases op with
      | sign document =>
          cases signed
          exact ⟨document, List.mem_cons_self⟩
      | _ =>
          rcases inductionHypothesis signed with ⟨document, mem⟩
          exact ⟨document, List.mem_cons_of_mem _ mem⟩

/-- A token that leaves the private listener has been signed for its request. -/
theorem signed_of_granted {source : List (Event Answer)} {response : Response}
    {token tokenType : String} {expiresIn : Nat}
    (path : Path (serve (workloadRouter state) request) source (.done response))
    (granted : response.grants token tokenType expiresIn) :
    ∃ document, (⟨.service (.sign document), some token⟩ : Event Answer) ∈ source := by
  have ofConducted : ∀ {asked lifetime events} {target : HttpProgram Response},
      Conducted asked lifetime events target → target = .done response →
        ∃ document, (⟨.sign document, some token⟩ : Event Service.Answer) ∈ events := by
    intro asked lifetime events target conducted completed
    have reports := conducted.answered response completed
    have success : response.status = 200 := by
      by_contra refused
      exact reports.withheld refused _ _ _ granted
    rcases reports.token success with ⟨signed, signedEq, body⟩
    rw [Response.grants, body] at granted
    cases granted
    exact mem_of_signAnswer signedEq
  have met := private_listener path
  cases demanded : state.demand request with
  | none =>
      rw [demanded] at met
      exact absurd granted (met.2 response rfl _ _ _)
  | some demand =>
      rw [demanded] at met
      cases demand with
      | exchange asked lifetime =>
          rcases ofConducted met rfl with ⟨document, mem⟩
          exact ⟨document, mem_serviceEvents_iff.mp mem⟩
      | reviewed assertion audience asked lifetime =>
          simp only [Demand.Met] at met
          generalize servicesEq : serviceEvents source = services at met
          cases met with
          | waiting unanswered => exact absurd rfl (unanswered response)
          | invalid status withheld => exact absurd granted (withheld _ _ _)
          | unavailable status withheld => exact absurd granted (withheld _ _ _)
          | accepted conducted =>
              rcases ofConducted conducted rfl with ⟨document, mem⟩
              refine ⟨document, mem_serviceEvents_iff.mp ?_⟩
              rw [servicesEq]
              exact List.mem_cons_of_mem _ mem

/-- What the private listener does for a request against the API server. -/
structure ConfirmedLaw (state : WorkloadAppState E R) (request : Request)
    (events : List (Event LinkedAnswer)) (target : Program LinkedAnswer Response) : Prop where
  posted : ∀ before credential review answer after,
    events = before ++ ⟨.review (.post credential review), answer⟩ :: after →
      ∃ token, bearerAssertion request.headers = some token ∧ credential ≠ "" ∧
        TokenReview.Presentable token state.workload.service.inputAudience ∧
        review = TokenReview.request token state.workload.service.inputAudience
  once : ∀ before event after, events = before ++ event :: after → isPost event = true →
    ∀ earlier ∈ before, isPost earlier = false
  confirmed : ∀ before op answer after,
    events = before ++ ⟨.http (.service op), answer⟩ :: after → isEffect op = true →
      ∃ token username, bearerAssertion request.headers = some token ∧
        state.Admits request username ∧
        Confirmed token state.workload.service.inputAudience username before
  signed : ∀ response token tokenType expiresIn, target = .done response →
    response.grants token tokenType expiresIn →
      ∃ document, ⟨.http (.service (.sign document)), some token⟩ ∈ events

theorem posted_of_path {target : Program LinkedAnswer Response} {credential : String}
    {review : TokenReviewRequest} {answer : Option (Nat × Option TokenReviewResponse)}
    (path : Path ((serve (workloadRouter state) request).interpret linked)
      (before ++ ⟨.review (.post credential review), answer⟩ :: after) target) :
    (∃ token, bearerAssertion request.headers = some token ∧ credential ≠ "" ∧
      TokenReview.Presentable token state.workload.service.inputAudience ∧
      review = TokenReview.request token state.workload.service.inputAudience) ∧
    ∀ earlier ∈ before, isPost earlier = false := by
  rcases path.origin with
    ⟨source, op, next, expanded, inner, remainder, sourcePath, expands, rfl, run⟩
  rcases linked_last run with
    ⟨token, audience, reads, last, rfl, posts, rfl, same⟩ | ⟨-, other⟩
  · cases same
    rcases posts with ⟨presentable, credentialNe, rfl, text, rfl⟩
    rcases review_presented (sourcePath.snoc (.error .invalid)) with ⟨bearer, rfl, counted⟩
    refine ⟨⟨token, bearer, credentialNe, presentable, rfl⟩, ?_⟩
    have unreviewed : ∀ token audience answer,
        (⟨.service (.review token audience), answer⟩ : Event Answer) ∉ source := by
      intro token audience answer mem
      have mem := mem_serviceEvents_iff.mpr mem
      rcases counted with counted | counted <;> rw [counted] at mem <;> simp at mem
    intro earlier mem
    rcases List.mem_append.mp mem with mem | mem
    · exact isPost_eq_false_of_expands expands unreviewed earlier mem
    · rw [List.mem_singleton.mp mem]
      rfl
  · exact nomatch other

theorem confirmed_of_path {target : Program LinkedAnswer Response} {op : Service.Op}
    {answer : Service.Answer op} (effect : isEffect op = true)
    (path : Path ((serve (workloadRouter state) request).interpret linked)
      (before ++ ⟨.http (.service op), answer⟩ :: after) target) :
    ∃ token username, bearerAssertion request.headers = some token ∧
      state.Admits request username ∧
      Confirmed token state.workload.service.inputAudience username before := by
  rcases path.origin with
    ⟨source, other, next, expanded, inner, remainder, sourcePath, expands, rfl, run⟩
  rcases linked_last run with
    ⟨token, audience, reads, last, rfl, posts, rfl, same⟩ | ⟨rfl, same⟩
  · exact nomatch same
  · cases same
    have extended : Path (serve (workloadRouter state) request)
        (source ++ [⟨.service op, answer⟩]) (next answer) :=
      sourcePath.snoc (show Answer (.service op) from answer)
    rcases reviewed_before_effect effect extended with
      ⟨token, username, bearer, admitted, mem⟩
    rw [List.append_nil]
    exact ⟨token, username, bearer, admitted, confirmed_of_review expands mem⟩

/-- On every path of the private listener, at most one review is posted, for the presented
assertion; nothing is consumed or signed before the API server has confirmed a user whom the
policy admits, and every token that is granted has been signed. -/
theorem confirmed_before_effects (state : WorkloadAppState E R) (request : Request)
    (events : List (Event LinkedAnswer)) (target : Program LinkedAnswer Response)
    (path : Path ((serve (workloadRouter state) request).interpret linked) events target) :
    ConfirmedLaw state request events target := by
  constructor
  · rintro before credential review answer after rfl
    exact (posted_of_path path).1
  · rintro before ⟨op, answer⟩ after rfl isPosted
    cases op with
    | http op => exact nomatch isPosted
    | review op =>
        cases op with
        | readCredential => exact nomatch isPosted
        | post credential review => exact (posted_of_path path).2
  · rintro before op answer after rfl effect
    exact confirmed_of_path effect path
  · rintro response token tokenType expiresIn rfl granted
    rcases path.exists_source with ⟨source, sourcePath, expands⟩
    rcases signed_of_granted sourcePath granted with ⟨document, mem⟩
    rcases expands.block mem with ⟨block, run, included⟩
    rcases run.exists_of_call with ⟨given, _, rfl, rest⟩
    cases rest with
    | refl => exact ⟨document, included _ List.mem_cons_self⟩

end Linked

/-- The API server confirms the user of the sample. -/
def sampleReview : TokenReviewResponse where
  status := some
    { authenticated := some true
      audiences := some ["identity"]
      user := some { username := some "system:serviceaccount:steward:web" } }

/-- The review of the sample is posted with the content of a padded credential file. -/
theorem confirmed_before_effects_sample :
    ∃ events response,
      (⟨.http (.service (.sign (.browserHop1 sampleClaims))), some "token"⟩ :
        Event LinkedAnswer) ∈ events ∧
      ConfirmedLaw sampleWorkloadState sampleBrowserPost events (.done response) := by
  have presentable : TokenReview.Presentable "assertion" "identity" :=
    ⟨by decide, by decide, by decide⟩
  have credential : Text.trim "credential\n" ≠ "" := by decide
  have reviewed := TokenReview.review_path presentable credential (some (201, some sampleReview))
  have confirmed : reviewResult "identity" (some (201, some sampleReview)) =
      .ok "system:serviceaccount:steward:web" := by
    decide
  rw [confirmed] at reviewed
  have path := sampleEvents_path.expand (expands_linkedEvents reviewed (by decide))
  refine ⟨_, tokenResponse "token" 120, ?_, confirmed_before_effects _ _ _ _ path⟩
  refine List.mem_append_right _ (List.mem_map.mpr
    ⟨⟨.service (.sign (.browserHop1 sampleClaims)), some "token"⟩, ?_, rfl⟩)
  simp

end OidcExchange.Http
