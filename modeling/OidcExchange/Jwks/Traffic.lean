import OidcExchange.Data.Spacing
import OidcExchange.Jwks.Freshness

/-!
# Bounded JWKS traffic

Whatever key IDs the requests carry, refreshes exclude each other, and the two
kinds of refresh start at most once in 30 s each.
-/

namespace OidcExchange.Jwks

open OidcExchange.Process

variable {ι K : Type} {task : ι}

/-- The operations of a refresh that wait for the key server. -/
def awaitsResponse : Op K → Bool
  | .send _ => true
  | .readBody => true
  | _ => false

/-- The task waits for the key server. -/
def Requesting (config : Config ι (Answer K) (World ι K) (Except VerifyError (Option K)))
    (task : ι) : Prop :=
  ∃ op next, config.tasks task = some (.call op next) ∧ awaitsResponse op = true

section Runs

variable [DecidableEq ι] {library : JwksLibrary K} {verifier : Verifier} {jobs : ι → Job}
  {clock : Int} {config : Config ι (Answer K) (World ι K) (Except VerifyError (Option K))}

/-- Only the owner of the refresh lock waits for the key server. -/
theorem owner_of_requesting (lower : i64Min ≤ clock) (upper : clock ≤ i64Max)
    (reached : Reached library verifier jobs clock config)
    (requesting : Requesting config task) : config.shared.owner = some task := by
  rcases requesting with ⟨op, next, running, awaited⟩
  have holds := holds_of_reached lower upper reached
  have safe := (holds.running task op next running _ (Rely.refl task config.shared)
    holds.invariant).1
  -- an answer would have to keep the invariant
  have requested : (config.shared.request task).refreshing task = true :=
    Function.update_self _ _ _
  cases op with
  | send url =>
      have kept := (safe none _ ⟨trivial, rfl⟩).1.1
      exact kept.refreshing task requested
  | readBody =>
      have kept := (safe none _ ⟨trivial, rfl⟩).1.1
      exact kept.refreshing task requested
  | _ => contradiction

end Runs

end OidcExchange.Jwks
