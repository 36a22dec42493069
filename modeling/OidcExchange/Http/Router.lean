import OidcExchange.Http.Handlers

/-!
# The routers

The routes of the two listeners and how a request is dispatched to them.  A layer covers
the routes that exist when it is added, and the route of the browser exchange is added after
the layers of its listener.
-/

namespace OidcExchange.Http

open OidcExchange.Process

/-- The limit of the framework for a body that a handler reads, where no layer sets one. -/
def defaultBodyLimit : Nat := 2097152

/-- A route with the layers that cover it.  `bodyLimit` is the limit for the body of the
handlers that read it. -/
structure Route where
  method : Method
  path : String
  bodyLimit : Option Nat
  secured : Bool
  handler : Request → HttpProgram Response

/-- A route for GET also answers HEAD. -/
def Route.accepts (route : Route) (method : Method) : Bool :=
  decide (method = route.method ∨ route.method = .get ∧ method = .head)

/-- The body is larger than the handler reads. -/
def Route.overflows (route : Route) (request : Request) : Bool :=
  route.bodyLimit.any fun limit => decide (limit < request.body.length)

def Route.layered (route : Route) (response : Response) : Response :=
  if route.secured then response.secured else response

/-- The handler with the extraction of the body. -/
def Route.extract (route : Route) (request : Request) : HttpProgram Response :=
  if route.overflows request then
    return .refusal 413
  else
    route.handler request

def Route.respond (route : Route) (request : Request) : HttpProgram Response := do
  let response ← route.extract request
  return route.layered response

/-- The response to HEAD has no body. -/
def Response.withoutBody (response : Response) : Response :=
  { response with body := .empty }

def serve (routes : List Route) (request : Request) : HttpProgram Response :=
  match routes.find? fun route => route.path == request.path with
  | none => return .refusal 404
  | some route =>
      if route.accepts request.method = false then
        return .refusal 405
      else do
        let response ← route.respond request
        return if request.method = .head then response.withoutBody else response

section Listeners

variable {E R C : Type}

/-- `build_workload_router` -/
def workloadRouter (state : WorkloadAppState E R) : List Route :=
  [⟨.post, "/v1/workload/exchange", some (8 * 1024), true, workloadExchange state⟩,
    ⟨.get, "/healthz", none, true, fun _ => noContent⟩,
    ⟨.get, "/readyz", none, true, fun _ => workloadReadiness state⟩] ++
  if state.browserHop1.isSome then
    [⟨.post, "/v1/browser-hop1/exchange", some defaultBodyLimit, false,
      browserHop1Exchange state⟩]
  else
    []

end Listeners

end OidcExchange.Http
