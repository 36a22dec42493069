import OidcExchange.Http.Router
import OidcExchange.Service.Stages

/-!
# Exchanges behind a listener

What it means that a listener conducts an exchange: the operations of the services are those
of the exchange, and the response reports its stages.  A handler that conducts none leaves the
services alone and grants no token.
-/

namespace OidcExchange.Http

open OidcExchange.Process OidcExchange.Process.Program OidcExchange.Service

/-- The operations of the exchange services. -/
def serviceEvents : List (Event Answer) → List (Event Service.Answer)
  | [] => []
  | ⟨.service op, answer⟩ :: events => ⟨op, answer⟩ :: serviceEvents events
  | ⟨.utcNow, _⟩ :: events | ⟨.checkVerifier, _⟩ :: events | ⟨.checkLedger _, _⟩ :: events
  | ⟨.load _ _, _⟩ :: events | ⟨.refreshFailures, _⟩ :: events
  | ⟨.cacheAgeSeconds, _⟩ :: events | ⟨.durationSnapshot, _⟩ :: events
  | ⟨.readyProviderCount, _⟩ :: events | ⟨.providerReadiness, _⟩ :: events =>
      serviceEvents events

/-- The response carries a token. -/
def Response.grants (response : Response) (token tokenType : String) (expiresIn : Nat) : Prop :=
  response.body = .token token tokenType expiresIn

/-- What the response to a conducted exchange says of its stages. -/
structure Reports (asked : Service.Request) (lifetime : Nat)
    (events : List (Event Service.Answer)) (response : Response) : Prop where
  granted : response.status = 200 ↔
    ∀ stage ∈ asked.stages events, asked.outcome events stage = some .passed
  denied : response.status = 401 ↔
    FirstFailure (asked.outcome events) (asked.stages events) .rejected
  failed : response.status = 503 ↔
    FirstFailure (asked.outcome events) (asked.stages events) .unavailable
  token : response.status = 200 →
    ∃ token, signAnswer events = some (some token) ∧ response.grants token "Bearer" lifetime
  withheld : response.status ≠ 200 →
    ∀ token tokenType expiresIn, ¬ response.grants token tokenType expiresIn
  noStore : response.headers.lookup "cache-control" = some "no-store"

/-- An exchange verifies what was presented to it, and only a workload exchange begins with a
TokenReview. -/
def Presented (asked : Service.Request) (before : List (Event Service.Answer)) :
    Service.Op → Prop
  | .verify assertion => ∃ service, asked = .github service assertion
  | .verifyOidc assertion => ∃ service, asked = .oidc service assertion
  | .review assertion audience => ∃ service, asked = .workload service assertion ∧
      audience = service.inputAudience ∧ before = [⟨.count .workload .requests, ()⟩]
  | .verifyBrowserHop1 assertion =>
      ∃ service username, asked = .browserHop1 service username assertion
  | _ => True

/-- The operations of the services are those of one exchange. -/
structure Conducted (asked : Service.Request) (lifetime : Nat)
    (events : List (Event Service.Answer)) (target : HttpProgram Response) : Prop where
  presented : ∀ before op answer after, events = before ++ ⟨op, answer⟩ :: after →
    Presented asked before op
  once : events.countP isUse ≤ 1
  admitted : ∀ before jti expiresAt answer after,
    events = before ++ ⟨.useOnce jti expiresAt, answer⟩ :: after →
      asked.Admits before jti expiresAt
  signed : ∀ before document answer after,
    events = before ++ ⟨.sign document, answer⟩ :: after →
      (∃ jti expiresAt, ⟨.useOnce jti expiresAt, .ok ()⟩ ∈ before) ∨ asked.RoleProfile before
  answered : ∀ response, target = .done response → Reports asked lifetime events response

/-- The exchange is asked for on behalf of the workload that a TokenReview selects. -/
inductive Reviewed (assertion audience : String) (asked : String → Service.Request)
    (lifetime : Nat) : List (Event Service.Answer) → HttpProgram Response → Prop
  | waiting {target : HttpProgram Response} (unanswered : ∀ response, target ≠ .done response) :
      Reviewed assertion audience asked lifetime [] target
  | invalid {response : Response} (status : response.status = 401)
      (withheld : ∀ token tokenType expiresIn, ¬ response.grants token tokenType expiresIn) :
      Reviewed assertion audience asked lifetime
        [⟨.review assertion audience, .error .invalid⟩] (.done response)
  | unavailable {response : Response} (status : response.status = 503)
      (withheld : ∀ token tokenType expiresIn, ¬ response.grants token tokenType expiresIn) :
      Reviewed assertion audience asked lifetime
        [⟨.review assertion audience, .error .unavailable⟩] (.done response)
  | accepted {username : String} {events : List (Event Service.Answer)}
      {target : HttpProgram Response}
      (conducted : Conducted (asked username) lifetime events target) :
      Reviewed assertion audience asked lifetime
        (⟨.review assertion audience, .ok username⟩ :: events) target

/-- The exchange that a request asks for. -/
inductive Demand where
  | exchange (asked : Service.Request) (lifetime : Nat)
  | reviewed (assertion audience : String) (asked : String → Service.Request) (lifetime : Nat)

/-- What the operations of the services and the response must be for a demand. -/
def Demand.Met (events : List (Event Answer)) (target : HttpProgram Response) :
    Option Demand → Prop
  | none => serviceEvents events = [] ∧
      ∀ response, target = .done response →
        ∀ token tokenType expiresIn, ¬ response.grants token tokenType expiresIn
  | some (.exchange asked lifetime) => Conducted asked lifetime (serviceEvents events) target
  | some (.reviewed assertion audience asked lifetime) =>
      Reviewed assertion audience asked lifetime (serviceEvents events) target

section Signed

variable {asked : Service.Request} {history : List (Event Service.Answer)} {profile : Profile}

/-- A token is the one that the signer has returned. -/
def SignedToken (events : List (Event Service.Answer))
    (result : Except ExchangeError String) : Prop :=
  ∀ token, result = .ok token → signAnswer events = some (some token)

theorem signed_refuse {counter : Counter} {failure : ExchangeError} :
    (refuse profile counter failure).Lawful (Presented asked) SignedToken history :=
  ⟨trivial, fun _ _ issued => nomatch issued⟩

theorem signed_issue {document : Document}
    (first : ∀ token, signAnswer (history ++ [⟨.sign document, some token⟩] ++
      [⟨.count profile .issued, ()⟩]) = some (some token)) :
    (issue profile document).Lawful (Presented asked) SignedToken history := by
  refine ⟨trivial, ?_⟩
  rintro (_ | token)
  · exact signed_refuse
  · refine ⟨trivial, ?_⟩
    rintro _ _ ⟨⟩
    exact first token

theorem github_signed (service : ExchangeService) (assertion : String) :
    (service.exchange assertion).Lawful (Presented (.github service assertion)) SignedToken
      [] := by
  refine ⟨trivial, fun _ => ⟨⟨service, rfl⟩, ?_⟩⟩
  rintro ((_ | _) | claims)
  · exact signed_refuse
  · exact signed_refuse
  cases authorized : service.policy.authorize claims with
  | error failure =>
      simp only [Program.bind_done, authorized]
      exact signed_refuse
  | ok identity =>
      simp only [Program.bind_done, authorized]
      refine ⟨trivial, ?_⟩
      rintro ((_ | _ | detail) | _)
      · exact signed_refuse
      · exact signed_refuse
      · exact signed_refuse
      · exact ⟨trivial, fun _ => ⟨trivial, fun _ => signed_issue fun _ => rfl⟩⟩

theorem oidc_signed (service : OidcExchangeService) (assertion : String) :
    (service.exchange assertion).Lawful (Presented (.oidc service assertion)) SignedToken
      [] := by
  refine ⟨trivial, fun _ => ⟨⟨service, rfl⟩, ?_⟩⟩
  rintro ((_ | _) | claims)
  · exact signed_refuse
  · exact signed_refuse
  cases authorized : service.policy.authorize claims with
  | error failure =>
      simp only [Program.bind_done, authorized]
      exact signed_refuse
  | ok task =>
      cases identified : Oidc.replayIdentifier service.sha256 claims with
      | none =>
          simp only [Program.bind_done, authorized, identified]
          exact signed_refuse
      | some replay =>
          simp only [Program.bind_done, authorized, identified]
          refine ⟨trivial, ?_⟩
          rintro ((_ | _ | detail) | _)
          · exact ⟨trivial, fun _ => signed_refuse⟩
          · exact signed_refuse
          · exact signed_refuse
          · exact ⟨trivial, fun _ => ⟨trivial, fun _ => signed_issue fun _ => rfl⟩⟩

theorem workload_signed (service : WorkloadExchangeService) (assertion : String) :
    (service.exchange assertion).Lawful (Presented (.workload service assertion)) SignedToken
      [] := by
  refine ⟨trivial, fun _ => ⟨⟨service, rfl, rfl, rfl⟩, ?_⟩⟩
  rintro ((_ | _) | username)
  · exact signed_refuse
  · exact signed_refuse
  cases authorized : service.policy.authorize username with
  | error failure =>
      simp only [Program.bind_done, authorized]
      exact signed_refuse
  | ok identity =>
      simp only [Program.bind_done, authorized]
      refine ⟨trivial, fun now => ?_⟩
      cases profile : identity.task with
      | none =>
          simp only [Program.bind_done]
          exact ⟨trivial, fun _ => signed_issue fun _ => rfl⟩
      | some task =>
          cases projected : service.projectedClaims assertion with
          | none =>
              simp only [Program.bind_done]
              exact signed_refuse
          | some claims =>
              simp only [Program.bind_done]
              cases valid : projectedClaimsValid claims now with
              | false => exact signed_refuse
              | true =>
                  refine ⟨trivial, ?_⟩
                  rintro ((_ | _ | detail) | _)
                  · exact signed_refuse
                  · exact signed_refuse
                  · exact signed_refuse
                  · exact ⟨trivial, fun _ => signed_issue fun _ => rfl⟩

theorem browserHop1_signed (service : BrowserHop1ExchangeService)
    (workloadUsername assertion : String) :
    (service.exchange workloadUsername assertion).Lawful
      (Presented (.browserHop1 service workloadUsername assertion)) SignedToken [] := by
  refine ⟨trivial, fun _ => ?_⟩
  cases authorized : service.policy.authorize workloadUsername with
  | error failure =>
      simp only [Program.bind_done]
      exact signed_refuse
  | ok caller =>
      simp only [Program.bind_done]
      cases role : caller.roles.any fun role => role == browserHop1IssuerRole with
      | false => exact signed_refuse
      | true =>
          refine ⟨⟨service, workloadUsername, rfl⟩, ?_⟩
          rintro (_ | claims)
          · exact signed_refuse
          · refine ⟨trivial, ?_⟩
            rintro ((_ | _ | detail) | _)
            · exact signed_refuse
            · exact signed_refuse
            · exact signed_refuse
            · exact ⟨trivial, fun _ => ⟨trivial, fun _ => signed_issue fun _ => rfl⟩⟩

/-- Whatever the services answer, an exchange verifies what was presented, and its token is the
one that was signed. -/
theorem exchange_signed (asked : Service.Request) :
    asked.exchange.Lawful (Presented asked) SignedToken [] := by
  cases asked with
  | github service assertion => exact github_signed service assertion
  | oidc service assertion => exact oidc_signed service assertion
  | workload service assertion => exact workload_signed service assertion
  | browserHop1 service workloadUsername assertion =>
      exact browserHop1_signed service workloadUsername assertion

end Signed

section Conduct

variable {events : List (Event Answer)} {target : HttpProgram Response}

/-- What an exchange does on a listener is a path of the exchange. -/
theorem serviceProgram_path {α : Type} {program : ServiceProgram α} {respond : α → Response}
    (path : Path ((serviceProgram program).bind fun result => .done (respond result)) events
      target) :
    ∃ rest, Path program (serviceEvents events) rest ∧
      target = (serviceProgram rest).bind fun result => .done (respond result) := by
  induction program generalizing events with
  | done result =>
      cases path with
      | refl => exact ⟨_, .refl _, rfl⟩
  | call op next inductionHypothesis =>
      cases path with
      | refl => exact ⟨_, .refl _, rfl⟩
      | step rest =>
          rcases inductionHypothesis _ rest with ⟨remaining, path, targetEq⟩
          exact ⟨remaining, .step path, targetEq⟩

/-- A layer and the removal of the body change neither the status nor the token. -/
structure Response.Carries (response original : Response) : Prop where
  status : response.status = original.status
  body : response.body = original.body
  cacheControl :
    response.headers.lookup "cache-control" = original.headers.lookup "cache-control"

theorem Response.setIfNotPresent_carries {response : Response} {name value : String}
    (different : name ≠ "cache-control") :
    (response.setIfNotPresent name value).Carries response := by
  unfold Response.setIfNotPresent
  split
  · exact ⟨rfl, rfl, rfl⟩
  · refine ⟨rfl, rfl, ?_⟩
    rw [List.lookup_append, List.lookup_cons, beq_eq_false_iff_ne.mpr different.symm,
      List.lookup_nil, Option.or_none]

theorem Response.Carries.trans {first second third : Response} (left : first.Carries second)
    (right : second.Carries third) : first.Carries third :=
  ⟨left.status.trans right.status, left.body.trans right.body,
    left.cacheControl.trans right.cacheControl⟩

theorem Route.layered_carries (route : Route) (response : Response) :
    (route.layered response).Carries response := by
  unfold Route.layered
  split
  · exact (Response.setIfNotPresent_carries (by decide)).trans
      ((Response.setIfNotPresent_carries (by decide)).trans
        (Response.setIfNotPresent_carries (by decide)))
  · exact ⟨rfl, rfl, rfl⟩

/-- The response to the result of an exchange reports its stages. -/
theorem reports_of_path {asked : Service.Request} {lifetime : Nat}
    {events : List (Event Service.Answer)} {result : Except ExchangeError String}
    {response : Response} (carries : response.Carries (exchangeResponse lifetime result))
    (path : Path asked.exchange events (.done result)) :
    Reports asked lifetime events response := by
  have law := stageLaw_of_path path
  have signed := (exchange_signed asked).result path
  have issued := law.issued result rfl
  have unavailable := law.unavailable result rfl
  have unauthorized := law.unauthorized result rfl
  rcases carries with ⟨status, body, cacheControl⟩
  cases result with
  | ok token =>
      refine ⟨?_, ?_, ?_, ?_, ?_, cacheControl⟩
      · rw [← issued, status]
        exact ⟨fun _ => ⟨token, rfl⟩, fun _ => rfl⟩
      · rw [← unauthorized, status]
        simp [exchangeResponse, tokenResponse]
      · rw [← unavailable, status]
        simp [exchangeResponse, tokenResponse]
      · intro _
        exact ⟨token, signed token rfl, body⟩
      · intro refused
        exact absurd status refused
  | error failure =>
      have withheld : ∀ token tokenType expiresIn,
          ¬ response.grants token tokenType expiresIn := by
        intro token tokenType expiresIn granted
        rw [Response.grants, body] at granted
        cases failure with
        | unauthorized => exact nomatch granted
        | unavailable => exact nomatch granted
      refine ⟨?_, ?_, ?_, ?_, fun _ => withheld, ?_⟩
      · rw [← issued, status]
        cases failure <;> simp [exchangeResponse, oauthError]
      · rw [← unauthorized, status]
        cases failure <;> simp [exchangeResponse, oauthError]
      · rw [← unavailable, status]
        cases failure <;> simp [exchangeResponse, oauthError]
      · intro granted
        rw [status] at granted
        cases failure <;> simp [exchangeResponse, oauthError] at granted
      · rw [cacheControl]
        cases failure <;> rfl

theorem conducted_of_path {asked : Service.Request} {lifetime : Nat}
    {respond : Except ExchangeError String → Response}
    (carries : ∀ result, (respond result).Carries (exchangeResponse lifetime result))
    (path : Path ((serviceProgram asked.exchange).bind fun result => .done (respond result))
      events target) :
    Conducted asked lifetime (serviceEvents events) target := by
  rcases serviceProgram_path path with ⟨rest, conducted, rfl⟩
  have law := stageLaw_of_path conducted
  refine ⟨?_, law.once, law.admitted, law.signed, ?_⟩
  · rintro before op answer after eventsEq
    rw [eventsEq] at conducted
    exact (exchange_signed asked).operation conducted
  intro response completed
  cases rest with
  | call op next => exact nomatch completed
  | done result =>
      cases completed
      exact reports_of_path (carries result) conducted

end Conduct

section Quiet

variable {program : HttpProgram Response} {history events : List (Event Answer)}

/-- The operation belongs to an exchange. -/
def Op.isService : Op → Bool
  | .service _ => true
  | _ => false

/-- The program leaves the services alone and grants no token. -/
abbrev Quiet (program : HttpProgram Response) (history : List (Event Answer)) : Prop :=
  program.Lawful (fun _ op => op.isService = false)
    (fun _ response => ∀ token tokenType expiresIn, ¬ response.grants token tokenType expiresIn)
    history

theorem serviceEvents_eq_nil (foreign : ∀ event ∈ events, event.1.isService = false) :
    serviceEvents events = [] := by
  induction events with
  | nil => rfl
  | cons event events inductionHypothesis =>
      have rest := inductionHypothesis fun later mem => foreign later (List.mem_cons_of_mem _ mem)
      have head := foreign event List.mem_cons_self
      rcases event with ⟨op, answer⟩
      cases op with
      | service op => exact nomatch head
      | _ => exact rest

theorem Quiet.met {target : HttpProgram Response} (quiet : Quiet program [])
    (path : Path program events target) : Demand.Met events target none := by
  refine ⟨serviceEvents_eq_nil ?_, ?_⟩
  · intro event mem
    rcases List.append_of_mem mem with ⟨before, after, rfl⟩
    exact quiet.operation path
  · rintro response rfl
    exact quiet.result path

theorem Quiet.respond {route : Route} {request : Request}
    (quiet : route.overflows request = false → Quiet (route.handler request) history) :
    Quiet (route.respond request) history := by
  have inner : Quiet (route.extract request) history := by
    unfold Route.extract
    cases overflows : route.overflows request with
    | true => exact fun _ _ _ granted => nomatch granted
    | false => exact quiet overflows
  refine Lawful.bind inner ?_
  intro history response withheld token tokenType expiresIn granted
  apply withheld token tokenType expiresIn
  rwa [Response.grants, (route.layered_carries response).body] at granted

/-- A request is quiet if the handler that it reaches is. -/
theorem Quiet.serve {routes : List Route} {request : Request}
    (quiet : ∀ route ∈ routes, route.path = request.path →
      route.accepts request.method = true → route.overflows request = false →
        Quiet (route.handler request) []) :
    Quiet (Http.serve routes request) [] := by
  unfold Http.serve
  split
  · exact fun _ _ _ granted => nomatch granted
  · next route found =>
    have mem := List.mem_of_find?_eq_some found
    have samePath : route.path = request.path := by simpa using List.find?_some found
    split
    · exact fun _ _ _ granted => nomatch granted
    · next accepted =>
      have responds : Quiet (route.respond request) [] :=
        Quiet.respond (quiet route mem samePath (by simpa using accepted))
      refine Lawful.bind responds ?_
      intro history response withheld
      by_cases head : request.method = .head
      · rw [if_pos head]
        exact fun _ _ _ granted => nomatch granted
      · rw [if_neg head]
        exact withheld

end Quiet

/-- A request that reaches a handler is answered by it, with the layers of its route. -/
theorem serve_eq_bind {routes : List Route} {request : Request} {route : Route}
    (found : routes.find? (fun route => route.path == request.path) = some route)
    (accepted : route.accepts request.method = true) (fits : route.overflows request = false)
    (notHead : request.method ≠ .head) :
    serve routes request =
      (route.handler request).bind fun response => .done (route.layered response) := by
  simp [serve, found, accepted, Route.respond, Route.extract, fits, notHead, Program.bind_assoc]

end OidcExchange.Http
