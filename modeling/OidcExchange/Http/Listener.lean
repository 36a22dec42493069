import OidcExchange.Http.Conduct
import OidcExchange.Service.Admission
import OidcExchange.Service.ReplayKeys

/-!
# What a listener does for a request

The exchange that a request asks for, read off the request alone.  On both listeners the
services do what is asked for, and every other request leaves them alone.
-/

namespace OidcExchange.Http

open OidcExchange.Process OidcExchange.Process.Program OidcExchange.Service

section Demands

variable {E R : Type}

/-- On the public listener an exchange is asked for by a POST with a bearer assertion, for the
generic OIDC exchange without a body. -/
def AppState.demand (state : AppState E R) (request : Request) : Option Demand :=
  if request.method ≠ .post then
    none
  else if request.path = "/v1/exchange" then
    (bearerAssertion request.headers).map fun assertion =>
      .exchange (.github state.service assertion) state.service.tokenTtl
  else if request.path = "/v1/oidc/exchange" ∧ request.body = [] then
    state.oidc.bind fun oidc =>
      (bearerAssertion request.headers).map fun assertion =>
        .exchange (.oidc oidc.service assertion) oidc.service.tokenTtl
  else
    none

/-- On the private listener the workload exchange is asked for without a body, and the browser
exchange by a body of at most two mebibytes that is the browser's assertion. -/
def WorkloadAppState.demand (state : WorkloadAppState E R) (request : Request) :
    Option Demand :=
  if request.method ≠ .post then
    none
  else if request.path = "/v1/workload/exchange" ∧ request.body = [] then
    (bearerAssertion request.headers).map fun assertion =>
      .exchange (.workload state.workload.service assertion) state.workload.service.tokenTtl
  else if request.path = "/v1/browser-hop1/exchange" ∧
      (request.headers.get "content-type").bind headerText = some "application/jwt" ∧
      request.body.length ≤ defaultBodyLimit then
    state.browserHop1.bind fun browser =>
      (bearerAssertion request.headers).bind fun workloadAssertion =>
        ((fromUtf8 request.body).filter fun assertion => !Text.isEmpty assertion).map
          fun assertion =>
            .reviewed workloadAssertion state.workload.service.inputAudience
              (fun username => .browserHop1 browser.service username assertion)
              browser.service.tokenTtl
  else
    none

end Demands

section Samples

/-- The bytes of an ASCII text. -/
def asciiBytes (text : String) : List UInt8 :=
  text.toList.map fun c => UInt8.ofNat c.toNat

def samplePost (path : String) (body : List UInt8) : Request where
  method := .post
  path := path
  headers := [("authorization", asciiBytes "Bearer  assertion"),
    ("content-type", asciiBytes "application/jwt")]
  body := body

theorem samplePost_bearer (path : String) (body : List UInt8) :
    bearerAssertion (samplePost path body).headers = some "assertion" :=
  bearerAssertion_eq_some_iff.mpr ⟨by decide, _, " assertion", rfl, by decide, by decide⟩

def samplePlatform : Platform (List UInt8) Nat String where
  library := Keys.sampleSigning
  iterate ring := ring.keys.entries
  iterateRsa ring := ring.keys.entries
  seconds _ := "0.000000"

end Samples

section PublicListener

variable {E R C : Type} {platform : Platform E R C} {state : AppState E R} {request : Request}
  {history events : List (Event Answer)} {target : HttpProgram Response}

theorem readinessResponse_withholds {failedChecks : List String} {token tokenType : String}
    {expiresIn : Nat} : ¬ (readinessResponse failedChecks).grants token tokenType expiresIn := by
  unfold readinessResponse
  split
  · exact fun granted => nomatch granted
  · exact fun granted => nomatch granted

/-- What a demand on the public listener asks for. -/
theorem AppState.demand_eq_some {demand : Demand} (demanded : state.demand request = some demand) :
    request.method = .post ∧ ∃ assertion, bearerAssertion request.headers = some assertion ∧
      ((request.path = "/v1/exchange" ∧
          demand = .exchange (.github state.service assertion) state.service.tokenTtl) ∨
        (request.path = "/v1/oidc/exchange" ∧ request.body = [] ∧
          ∃ oidc, state.oidc = some oidc ∧
            demand = .exchange (.oidc oidc.service assertion) oidc.service.tokenTtl)) := by
  unfold AppState.demand at demanded
  split at demanded
  · exact nomatch demanded
  · next posted =>
    refine ⟨not_not.mp posted, ?_⟩
    split at demanded
    · next path =>
      rcases Option.map_eq_some_iff.mp demanded with ⟨assertion, bearer, rfl⟩
      exact ⟨assertion, bearer, Or.inl ⟨path, rfl⟩⟩
    · split at demanded
      · next generic =>
        rcases Option.bind_eq_some_iff.mp demanded with ⟨oidc, enabled, demanded⟩
        rcases Option.map_eq_some_iff.mp demanded with ⟨assertion, bearer, rfl⟩
        exact ⟨assertion, bearer, Or.inr ⟨generic.1, generic.2, oidc, enabled, rfl⟩⟩
      · exact nomatch demanded

end PublicListener

section PrivateListener

variable {E R : Type} {state : WorkloadAppState E R} {request : Request}
  {history events : List (Event Answer)} {target : HttpProgram Response}

theorem quiet_workloadReadiness : Quiet (workloadReadiness state) history :=
  ⟨rfl, fun _ => ⟨rfl, fun _ _ _ _ => readinessResponse_withholds⟩⟩

theorem quiet_workloadExchange
    (unasked : request.body = [] → bearerAssertion request.headers = none) :
    Quiet (workloadExchange state request) history := by
  unfold workloadExchange
  split
  · exact fun _ _ _ granted => nomatch granted
  · next empty =>
    rw [unasked (by simpa using empty)]
    exact fun _ _ _ granted => nomatch granted

/-- The assertion of the browser in the body of a request. -/
def browserAssertion (request : Request) : Option String :=
  (fromUtf8 request.body).filter fun assertion => !Text.isEmpty assertion

theorem quiet_browserHop1Exchange
    (unasked : (request.headers.get "content-type").bind headerText = some "application/jwt" →
      ∀ browser, state.browserHop1 = some browser →
        bearerAssertion request.headers = none ∨ browserAssertion request = none) :
    Quiet (browserHop1Exchange state request) history := by
  unfold browserHop1Exchange
  split
  · exact fun _ _ _ granted => nomatch granted
  · next browser enabled =>
    split
    · exact fun _ _ _ granted => nomatch granted
    · next typed =>
      split
      · exact fun _ _ _ granted => nomatch granted
      · next workloadAssertion bearer =>
        rcases unasked (not_not.mp typed) browser enabled with absent | absent
        · exact nomatch bearer.symm.trans absent
        · unfold browserAssertion at absent
          rw [absent]
          exact fun _ _ _ granted => nomatch granted

theorem WorkloadAppState.demand_workload (posted : request.method = .post)
    (path : request.path = "/v1/workload/exchange") (empty : request.body = []) :
    state.demand request = (bearerAssertion request.headers).map fun assertion =>
      .exchange (.workload state.workload.service assertion)
        state.workload.service.tokenTtl := by
  simp [WorkloadAppState.demand, posted, path, empty]

theorem WorkloadAppState.demand_browser (posted : request.method = .post)
    (path : request.path = "/v1/browser-hop1/exchange")
    (typed : (request.headers.get "content-type").bind headerText = some "application/jwt")
    (fits : request.body.length ≤ defaultBodyLimit) :
    state.demand request = state.browserHop1.bind fun browser =>
      (bearerAssertion request.headers).bind fun workloadAssertion =>
        (browserAssertion request).map fun assertion =>
          .reviewed workloadAssertion state.workload.service.inputAudience
            (fun username => .browserHop1 browser.service username assertion)
            browser.service.tokenTtl := by
  simp [WorkloadAppState.demand, posted, path, typed, fits, browserAssertion]

theorem quiet_workloadRouter (unasked : state.demand request = none) :
    Quiet (serve (workloadRouter state) request) [] := by
  apply Quiet.serve
  intro route mem path accepted fits
  have routes : route ∈ [_, _, _] ∨ route ∈ _ := List.mem_append.mp mem
  simp only [List.mem_cons, List.not_mem_nil, or_false] at routes
  rcases routes with (rfl | rfl | rfl) | browser
  · have posted : request.method = .post := by simpa [Route.accepts] using accepted
    apply quiet_workloadExchange
    intro empty
    rwa [WorkloadAppState.demand_workload posted path.symm empty,
      Option.map_eq_none_iff] at unasked
  · exact fun _ _ _ granted => nomatch granted
  · exact quiet_workloadReadiness
  · cases enabled : state.browserHop1 with
    | none => simp [enabled] at browser
    | some service =>
        simp only [enabled, Option.isSome_some, if_true, List.mem_singleton] at browser
        subst browser
        have posted : request.method = .post := by simpa [Route.accepts] using accepted
        have bounded : request.body.length ≤ defaultBodyLimit := by
          simpa [Route.overflows] using fits
        apply quiet_browserHop1Exchange
        intro typed browser found
        rw [WorkloadAppState.demand_browser posted path.symm typed bounded, found,
          Option.bind_some] at unasked
        cases bearer : bearerAssertion request.headers with
        | none => exact Or.inl rfl
        | some workloadAssertion =>
            rw [bearer, Option.bind_some, Option.map_eq_none_iff] at unasked
            exact Or.inr unasked

/-- What a demand on the private listener asks for. -/
theorem WorkloadAppState.demand_eq_some {demand : Demand}
    (demanded : state.demand request = some demand) :
    request.method = .post ∧ ∃ assertion, bearerAssertion request.headers = some assertion ∧
      ((request.path = "/v1/workload/exchange" ∧ request.body = [] ∧
          demand = .exchange (.workload state.workload.service assertion)
            state.workload.service.tokenTtl) ∨
        (request.path = "/v1/browser-hop1/exchange" ∧
          (request.headers.get "content-type").bind headerText = some "application/jwt" ∧
          request.body.length ≤ defaultBodyLimit ∧
          ∃ browser, state.browserHop1 = some browser ∧
            ∃ presented, browserAssertion request = some presented ∧
              demand = .reviewed assertion state.workload.service.inputAudience
                (fun username => .browserHop1 browser.service username presented)
                browser.service.tokenTtl)) := by
  unfold WorkloadAppState.demand at demanded
  split at demanded
  · exact nomatch demanded
  · next posted =>
    refine ⟨not_not.mp posted, ?_⟩
    split at demanded
    · next workload =>
      rcases Option.map_eq_some_iff.mp demanded with ⟨assertion, bearer, rfl⟩
      exact ⟨assertion, bearer, Or.inl ⟨workload.1, workload.2, rfl⟩⟩
    · split at demanded
      · next hop =>
        rcases Option.bind_eq_some_iff.mp demanded with ⟨browser, enabled, demanded⟩
        rcases Option.bind_eq_some_iff.mp demanded with ⟨assertion, bearer, demanded⟩
        rcases Option.map_eq_some_iff.mp demanded with ⟨presented, decoded, rfl⟩
        exact ⟨assertion, bearer, Or.inr
          ⟨hop.1, hop.2.1, hop.2.2, browser, enabled, presented, decoded, rfl⟩⟩
      · exact nomatch demanded

/-- What follows the TokenReview of a browser exchange. -/
def afterReview (asked : String → Service.Request) (lifetime : Nat) :
    Except Workload.ReviewError String → HttpProgram Response
  | .error .invalid => .done (oauthError 401 "invalid_token")
  | .error .unavailable => .done (oauthError 503 "temporarily_unavailable")
  | .ok username => (serviceProgram (asked username).exchange).bind fun result =>
      .done (exchangeResponse lifetime result)

theorem reviewed_of_path {assertion audience : String} {asked : String → Service.Request}
    {lifetime : Nat} {layered : Response → Response}
    (carries : ∀ response, (layered response).Carries response)
    (path : Path ((serviceProgram (review assertion audience)).bind fun result =>
      (afterReview asked lifetime result).bind fun response => .done (layered response)) events
        target) :
    Reviewed assertion audience asked lifetime (serviceEvents events) target := by
  cases path with
  | refl =>
      refine .waiting ?_
      rintro _ ⟨⟩
  | @step _ _ answer events _ rest =>
      rcases answer with (_ | _) | username
      · cases rest with
        | refl =>
            refine .invalid (carries _).status fun _ _ _ granted => ?_
            rw [Response.grants, (carries _).body] at granted
            cases granted
      · cases rest with
        | refl =>
            refine .unavailable (carries _).status fun _ _ _ granted => ?_
            rw [Response.grants, (carries _).body] at granted
            cases granted
      · simp only [interpret, afterReview, Program.bind_done, Program.bind_assoc] at rest
        exact .accepted (conducted_of_path (fun result => carries _) rest)

/-- On every path of the private listener the services do what the request asks for. -/
theorem private_listener (path : Path (serve (workloadRouter state) request) events target) :
    Demand.Met events target (state.demand request) := by
  cases demanded : state.demand request with
  | none => exact (quiet_workloadRouter demanded).met path
  | some demand =>
      rcases WorkloadAppState.demand_eq_some demanded with ⟨posted, assertion, bearer,
        ⟨location, empty, rfl⟩ |
          ⟨location, typed, fits, browser, enabled, presented, decoded, rfl⟩⟩
      · have found : (workloadRouter state).find? (fun route => route.path == request.path) =
            some ⟨.post, "/v1/workload/exchange", some (8 * 1024), true,
              workloadExchange state⟩ := by
          simp [workloadRouter, location]
        rw [serve_eq_bind found (by simp [Route.accepts, posted])
          (by simp [Route.overflows, empty]) (by simp [posted])] at path
        simp only [workloadExchange, empty, List.isEmpty_nil, Bool.true_eq_false, if_false,
          bearer, monad_bind_eq_bind, pure_eq_done, Program.bind_assoc,
          Program.bind_done] at path
        exact conducted_of_path (fun result => Route.layered_carries _ _) path
      · have found : (workloadRouter state).find? (fun route => route.path == request.path) =
            some ⟨.post, "/v1/browser-hop1/exchange", some defaultBodyLimit, false,
              browserHop1Exchange state⟩ := by
          simp [workloadRouter, location, enabled]
        rw [serve_eq_bind found (by simp [Route.accepts, posted])
          (by simp [Route.overflows, fits]) (by simp [posted])] at path
        unfold browserAssertion at decoded
        simp only [browserHop1Exchange, enabled, typed, ne_eq, not_true_eq_false, if_false,
          bearer, decoded, monad_bind_eq_bind, pure_eq_done, Program.bind_assoc] at path
        exact reviewed_of_path (Route.layered_carries _) path

/-- A workload that may start browser exchanges. -/
def issuerPolicy : Workload.WorkloadPolicy where
  version := Workload.workloadPolicyVersion
  identities :=
    [{ username := "system:serviceaccount:steward:web"
       subject := "kubernetes:serviceaccount:steward:web"
       roles := [browserHop1IssuerRole]
       task := none }]

theorem authorize_issuer :
    issuerPolicy.authorize "system:serviceaccount:steward:web" =
      .ok
        { username := "system:serviceaccount:steward:web"
          subject := "kubernetes:serviceaccount:steward:web"
          roles := [browserHop1IssuerRole]
          task := none } := by
  decide +kernel

/-- The browser service of the samples. -/
def sampleBrowser : BrowserHop1State (List UInt8) where
  service :=
    { policy := issuerPolicy
      issuer := "https://identity.example.com"
      outputAudience := "steward-mcp"
      tokenTtl := 120 }
  keys := Keys.sampleKeyRing.ring

/-- A private listener with both exchanges. -/
def sampleWorkloadState : WorkloadAppState (List UInt8) Nat where
  workload :=
    { service := runnerService "a"
      keys :=
        { currentKid := "first"
          currentNotBefore := .ofSeconds 0
          currentNotAfter := .ofSeconds 2000
          readinessThreshold := 0
          keys := AList.singleton "first" Keys.sampleModulus }
      taskKeys := Keys.sampleKeyRing.ring }
  browserHop1 := some sampleBrowser

/-- The claims of the token that the browser exchange signs. -/
def sampleClaims : BrowserHop1OutputClaims where
  iss := "https://identity.example.com"
  sub := sampleAssertion.sub
  aud := ["steward-mcp"]
  exp := 1020
  iat := 900
  nbf := 895
  jti := "uuid"
  email := sampleAssertion.email
  emailVerified := true
  operation := sampleAssertion.operation
  operationId := sampleAssertion.operationId
  identityContract := identityBrowserHop1Contract

/-- The operations of a browser exchange. -/
def sampleEvents : List (Event Answer) :=
  [⟨.service (.review "assertion" "identity"), .ok "system:serviceaccount:steward:web"⟩,
    ⟨.service (.count .browserHop1 .requests), ()⟩,
    ⟨.service (.verifyBrowserHop1 "jwt"), some sampleAssertion⟩,
    ⟨.service (.useOnce "browser-hop1:a" 940), .ok ()⟩,
    ⟨.service .currentTimestamp, (900 : Nat)⟩, ⟨.service .newUuid, "uuid"⟩,
    ⟨.service (.sign (.browserHop1 sampleClaims)), some "token"⟩,
    ⟨.service (.count .browserHop1 .issued), ()⟩]

def sampleBrowserPost : Request :=
  samplePost "/v1/browser-hop1/exchange" (asciiBytes "jwt")

theorem sampleBrowserPost_typed :
    (sampleBrowserPost.headers.get "content-type").bind headerText = some "application/jwt" := by
  decide

theorem sampleBrowserPost_presented : browserAssertion sampleBrowserPost = some "jwt" := by
  decide +kernel

theorem sampleEvents_path :
    Path (serve (workloadRouter sampleWorkloadState) sampleBrowserPost) sampleEvents
      (.done (tokenResponse "token" 120)) := by
  have bearer : bearerAssertion sampleBrowserPost.headers = some "assertion" :=
    samplePost_bearer _ _
  have presented := sampleBrowserPost_presented
  have found : (workloadRouter sampleWorkloadState).find?
      (fun route => route.path == sampleBrowserPost.path) =
        some ⟨.post, "/v1/browser-hop1/exchange", some defaultBodyLimit, false,
          browserHop1Exchange sampleWorkloadState⟩ := by
    simp [workloadRouter, sampleBrowserPost, samplePost, sampleWorkloadState]
  rw [serve_eq_bind found rfl (by decide) (by decide)]
  unfold browserAssertion at presented
  simp only [browserHop1Exchange, sampleWorkloadState, sampleBrowserPost_typed, ne_eq,
    not_true_eq_false, if_false, bearer, presented, monad_bind_eq_bind, pure_eq_done,
    Program.bind_assoc]
  refine .step (.step ?_)
  simp only [sampleBrowser, Program.bind_done, authorize_issuer]
  exact .step (.step (.step (.step (.step (.step (.refl _))))))

theorem private_listener_sample :
    ∃ response, response.status = 200 ∧
      Demand.Met sampleEvents (.done response)
        (some (.reviewed "assertion" "identity"
          (fun username => .browserHop1 sampleBrowser.service username "jwt") 120)) := by
  have demanded : sampleWorkloadState.demand sampleBrowserPost =
      some (.reviewed "assertion" "identity"
        (fun username => .browserHop1 sampleBrowser.service username "jwt") 120) := by
    rw [WorkloadAppState.demand_browser rfl rfl sampleBrowserPost_typed (by decide),
      sampleBrowserPost_presented, show bearerAssertion sampleBrowserPost.headers = _ from
        samplePost_bearer _ _]
    rfl
  refine ⟨tokenResponse "token" 120, rfl, ?_⟩
  rw [← demanded]
  exact private_listener sampleEvents_path

end PrivateListener

end OidcExchange.Http
