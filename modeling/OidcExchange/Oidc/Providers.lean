import OidcExchange.Jwks.Machine
import OidcExchange.Oidc.Verify
import OidcExchange.Process.Labelled

/-!
# Concurrent verification for several providers

The calls of `OidcVerifierSet::verify` and the loop that refreshes all providers,
over one key cache and one set of refresh marks for each provider.  A round of
the loop spawns a refresh for every provider and waits for all of them; then the
loop sleeps for a time that is left open.  The providers share the clock and the
HTTP client, which may answer a request in any way.

Authorization reads the policy and the claims only and takes no step here.
-/

namespace OidcExchange.Oidc

open OidcExchange.Jwks OidcExchange.Process

/-- The tasks of a verifier set: the calls `ι` of `verify`, and the refresh of a
provider in a round of the loop. -/
inductive Task (ι : Type) where
  | verify (call : ι)
  | refresh (round : Nat) (issuer : String)
  deriving DecidableEq

inductive Outcome where
  | verified (result : Except VerifyError OidcClaims)
  | refreshed (result : Except VerifyError Unit)

/-- A verifier set with the libraries that it uses and the assertions that its calls
present. -/
structure Deployment (ι K : Type) where
  library : JwksLibrary K
  tokens : TokenLibrary K
  verifiers : OidcVerifierSet
  assertions : ι → String

variable {ι K : Type}

namespace Deployment

/-- The issuer of the provider whose cache and marks the task uses. -/
def home (deployment : Deployment ι K) : Task ι → Option String
  | .verify call =>
      (deployment.verifiers.select deployment.tokens (deployment.assertions call)).map
        fun selected => selected.2.issuer
  | .refresh _ issuer =>
      (deployment.verifiers.providers.lookup issuer).map fun provider => provider.issuer

def program (deployment : Deployment ι K) : Task ι → KeyProgram K Outcome
  | .verify call =>
      (deployment.verifiers.verify deployment.library deployment.tokens
        (deployment.assertions call)).bind fun result => .done (.verified result)
  | .refresh _ issuer =>
      (Jwks.ProviderVerifier.refreshSoftIfDue deployment.library issuer).bind fun result =>
        .done (.refreshed result)

end Deployment

/-- The caches and marks of all providers, and where `run_refresh_loop` stands: in
the given round, or in the sleep after it. -/
structure Providers (ι K : Type) where
  worlds : String → World (Task ι) K
  round : Nat
  sleeping : Bool

/-- Nothing is cached, and the loop begins its first round. -/
def Providers.start (clock : Int) : Providers ι K where
  worlds _ := .start clock
  round := 0
  sleeping := false

def Providers.setWorld (state : Providers ι K) (issuer : String) (world : World (Task ι) K) :
    Providers ι K :=
  { state with worlds := Function.update state.worlds issuer world }

def Providers.setClock (state : Providers ι K) (clock : Int) : Providers ι K :=
  { state with worlds := fun issuer => { state.worlds issuer with clock := clock } }

/-- A call may come at any time; a refresh runs once its round has begun. -/
def Task.begun (round : Nat) : Task ι → Prop
  | .verify _ => True
  | .refresh own _ => own ≤ round

/-- What `join_next` waits for: the task has returned or was dropped. -/
def ended : Option (KeyProgram K Outcome) → Prop
  | some (.call _ _) => False
  | _ => True

inductive Action (ι K : Type) where
  | perform (task : Task ι) (event : Event (Answer K))
  | cancel (task : Task ι) (op : Op K)
  | clock (now : Int)
  | joined
  | woken

/-- The calls and refreshes with the state that they share. -/
abbrev Pool (ι K : Type) :=
  Config (Task ι) (Answer K) (Providers ι K) Outcome

namespace Deployment

/-- Before the first step. -/
def start (deployment : Deployment ι K) (clock : Int) : Pool ι K :=
  .initial (.start clock) deployment.program

/-- One step of the deployment.  A task acts on the provider that it belongs to. -/
inductive Step [DecidableEq ι] (deployment : Deployment ι K) :
    Pool ι K → Action ι K → Pool ι K → Prop
  | perform {config : Pool ι K} {task : Task ι} {issuer : String} {op : Op K}
      {next : Answer K op → KeyProgram K Outcome} {answer : Answer K op}
      {world : World (Task ι) K}
      (home : deployment.home task = some issuer) (begun : task.begun config.shared.round)
      (running : config.tasks task = some (.call op next))
      (effect : Jwks.perform task (config.shared.worlds issuer) op answer world) :
      Step deployment config (.perform task ⟨op, answer⟩)
        (config.resume task ⟨op, answer⟩ (config.shared.setWorld issuer world) (next answer))
  | cancel {config : Pool ι K} {task : Task ι} {issuer : String} {op : Op K}
      {next : Answer K op → KeyProgram K Outcome}
      (home : deployment.home task = some issuer) (begun : task.begun config.shared.round)
      (running : config.tasks task = some (.call op next)) (waiting : awaits op = true) :
      Step deployment config (.cancel task op)
        (config.drop task
          (config.shared.setWorld issuer ((config.shared.worlds issuer).abandon task)))
  | clock {config : Pool ι K} (now : Int) :
      Step deployment config (.clock now) { config with shared := config.shared.setClock now }
  | joined {config : Pool ι K} (awake : config.shared.sleeping = false)
      (all : ∀ issuer ∈ deployment.verifiers.providers,
        ended (config.tasks (.refresh config.shared.round issuer))) :
      Step deployment config .joined
        { config with shared := { config.shared with sleeping := true } }
  | woken {config : Pool ι K} (asleep : config.shared.sleeping = true) :
      Step deployment config .woken
        { config with
          shared := { config.shared with round := config.shared.round + 1, sleeping := false } }

/-- The action is one of the provider, of the clock or of the loop. -/
def concerns (deployment : Deployment ι K) (issuer : String) : Action ι K → Bool
  | .perform task _ => deployment.home task == some issuer
  | .cancel task _ => deployment.home task == some issuer
  | .clock _ => true
  | .joined => true
  | .woken => true

end Deployment

/-- The same policy with one of its providers only. -/
def OidcPolicy.only (policy : OidcPolicy) (issuer : String) : OidcPolicy :=
  { policy with providers := policy.providers.filter fun provider => provider.issuer == issuer }

end OidcExchange.Oidc
