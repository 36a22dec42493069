import Mathlib.Algebra.BigOperators.Fin
import Mathlib.Data.Fin.VecNotation
import Mathlib.Data.UInt
import OidcExchange.Process.Guard
import OidcExchange.Service.Concurrent
import OidcExchange.Service.Counters

/-!
# Accounting for every exchange

The caller of an exchange may drop it wherever it awaits a dependency.  Every exchange that
has ended is counted and, at the GitHub service, timed exactly once, also a dropped one.
-/

namespace OidcExchange.Service

open OidcExchange.Process
open scoped UInt64.CommRing

/-! ## The timer -/

/-- The atomic cells of the duration histogram in `Metrics`. -/
inductive DurationCell where
  | count
  | sumMicros
  | bucket (index : Fin 8)
  deriving DecidableEq

/-- `EXCHANGE_DURATION_BUCKET_SECONDS` in nanoseconds.  A duration in seconds is compared as
the closest floating-point number, and no two durations around a bound share theirs. -/
def exchangeDurationBucketNanos : Fin 8 → Nat :=
  ![10000000, 25000000, 50000000, 100000000, 250000000, 500000000, 1000000000, 5000000000]

/-- The operations of the timer: a reading of the monotonic clock, in nanoseconds, and
`fetch_add`. -/
inductive TimerOp where
  | instant
  | fetchAdd (cell : DurationCell) (amount : UInt64)

@[reducible]
def TimerAnswer : TimerOp → Type
  | .instant => Nat
  | .fetchAdd _ _ => Unit

/-- `elapsed.as_micros().min(u128::from(u64::MAX)) as u64` -/
def micros (elapsed : Nat) : UInt64 :=
  UInt64.ofNat (min (elapsed / 1000) (2 ^ 64 - 1))

/-- The loop over the buckets. -/
def observeBuckets (elapsed : Nat) : List (Fin 8) → Program TimerAnswer Unit
  | [] => .done ()
  | index :: rest =>
      if elapsed ≤ exchangeDurationBucketNanos index then
        .call (.fetchAdd (.bucket index) 1) fun _ => observeBuckets elapsed rest
      else
        observeBuckets elapsed rest

def observeDuration (elapsed : Nat) : Program TimerAnswer Unit :=
  .call (.fetchAdd .count 1) fun _ =>
    .call (.fetchAdd .sumMicros (micros elapsed)) fun _ =>
      observeBuckets elapsed (List.finRange 8)

/-- `ExchangeTimer::drop` -/
def exchangeTimerDrop (started : Nat) : Program TimerAnswer Unit :=
  .call .instant fun ended => observeDuration (ended - started)

/-- The operations of an exchange that may be dropped. -/
abbrev MeteredAnswer := GuardedAnswer Answer TimerAnswer

/-- The timer is started after the first operation, which counts the request. -/
def timed {α : Type} : ServiceProgram α → Program MeteredAnswer (Option α)
  | .done result => .done (some result)
  | .call op next =>
      .call (.sync op) fun answer =>
        .call (.own .instant) fun started =>
          (next answer).guarded awaited (exchangeTimerDrop started)

/-- An exchange with its timer, if its service has one. -/
def Request.droppable (request : Request) :
    Program MeteredAnswer (Option (Except ExchangeError String)) :=
  match request with
  | .github service assertion => timed (service.exchange assertion)
  | .oidc service assertion => (service.exchange assertion).guarded awaited (.done ())
  | .workload service assertion => (service.exchange assertion).guarded awaited (.done ())
  | .browserHop1 service workloadUsername assertion =>
      (service.exchange workloadUsername assertion).guarded awaited (.done ())

/-- `Metrics` of every service; only the GitHub service has durations. -/
structure Meters where
  metrics : Metrics
  durations : DurationCell → UInt64

def Meters.zero : Meters :=
  ⟨fun _ _ => 0, fun _ => 0⟩

/-- `fetch_add` wraps around. -/
def meterPerform (before : Meters) : (op : GuardedOp Op TimerOp) → MeteredAnswer op → Meters → Prop
  | .sync op, answer, after => ∃ metrics, countPerform before.metrics op answer metrics ∧
      after = { before with metrics := metrics }
  | .await op, some answer, after => ∃ metrics, countPerform before.metrics op answer metrics ∧
      after = { before with metrics := metrics }
  | .await _, none, after => after = before
  | .own .instant, _, after => after = before
  | .own (.fetchAdd cell amount), _, after =>
      after = { before with
        durations := Function.update before.durations cell (before.durations cell + amount) }

/-- Exchanges of all services over arbitrary dependencies.  They are dropped only where they
await an operation. -/
def meters {ι : Type} : Machine ι MeteredAnswer Meters where
  perform _ := meterPerform
  cancel _ _ _ _ := False
  environment before after := after = before

/-! ## What one exchange adds -/

/-- What a timer operation adds to a cell. -/
@[simp]
def added (cell : DurationCell) : Event TimerAnswer → UInt64
  | ⟨.fetchAdd other amount, _⟩ => if other = cell then amount else 0
  | ⟨.instant, _⟩ => 0

/-- What one exchange of this duration adds to a cell. -/
def observed (elapsed : Nat) : DurationCell → UInt64
  | .count => 1
  | .sumMicros => micros elapsed
  | .bucket index => if elapsed ≤ exchangeDurationBucketNanos index then 1 else 0

/-- The clock readings of a history. -/
def instants (events : List (Event TimerAnswer)) : List Nat :=
  events.filterMap fun
    | ⟨.instant, reading⟩ => some reading
    | _ => none

/-- The duration of an exchange, from its two clock readings. -/
def elapsed (events : List (Event MeteredAnswer)) : Nat :=
  match instants (events.filterMap Program.own?) with
  | [started, ended] => ended - started
  | _ => 0

/-- What the loop over these buckets adds to a cell. -/
theorem tally_observeBuckets {duration : Nat} {indices : List (Fin 8)}
    {events : List (Event TimerAnswer)}
    (path : (observeBuckets duration indices).Path events (.done ())) (cell : DurationCell) :
    instants events = [] ∧ tally (added cell) events = (indices.map fun index =>
      if .bucket index = cell then observed duration cell else 0).sum := by
  induction indices generalizing events with
  | nil =>
      cases path
      exact ⟨rfl, rfl⟩
  | cons index rest inductionHypothesis =>
      rw [observeBuckets] at path
      rw [List.map_cons, List.sum_cons]
      split at path
      · rename_i reached
        cases path with
        | step path =>
            rcases inductionHypothesis path with ⟨quiet, total⟩
            refine ⟨quiet, ?_⟩
            rw [tally_cons, total]
            by_cases same : .bucket index = cell
            · subst same
              simp [observed, reached]
            · simp [same]
      · rename_i missed
        rcases inductionHypothesis path with ⟨quiet, total⟩
        refine ⟨quiet, ?_⟩
        rw [total]
        by_cases same : .bucket index = cell
        · subst same
          simp [observed, missed]
        · simp [same]

/-- The destructor reads the clock once and adds one observation. -/
theorem tally_exchangeTimerDrop {started : Nat} {events : List (Event TimerAnswer)}
    (path : (exchangeTimerDrop started).Path events (.done ())) :
    ∃ ended, instants events = [ended] ∧
      ∀ cell, tally (added cell) events = observed (ended - started) cell := by
  cases path with
  | @step _ _ ended _ _ path =>
      cases path with
      | step path =>
          cases path with
          | step path =>
              refine ⟨ended, ?_, fun cell => ?_⟩
              · exact congrArg (ended :: ·) (tally_observeBuckets path .count).1
              · have buckets := (tally_observeBuckets path cell).2
                rw [← Fin.sum_univ_def] at buckets
                rw [tally_cons, tally_cons, tally_cons, buckets]
                cases cell with
                | count => simp [observed]
                | sumMicros => simp [observed]
                | bucket index => simp

section Exchange

variable {request : Request} {outcome : Option (Except ExchangeError String)}
  {events : List (Event MeteredAnswer)}

/-- The operations of the exchange itself in a history. -/
abbrev sourceEvents (events : List (Event MeteredAnswer)) : List (Event Answer) :=
  events.filterMap Program.source?

/-- The operations of the timer in a history. -/
abbrev timerEvents (events : List (Event MeteredAnswer)) : List (Event TimerAnswer) :=
  events.filterMap Program.own?

/-- What an exchange that has ended has counted, and what its timer has observed. -/
structure Ended (request : Request) (outcome : Option (Except ExchangeError String))
    (events : List (Event MeteredAnswer)) : Prop where
  returned : outcome ≠ none → Counts request (sourceEvents events)
  dropped : outcome = none → marks (sourceEvents events) = [(request.profile, .requests)] ∧
    useAnswer (sourceEvents events) = none
  timed : request.profile = .github → ∀ cell,
    tally (added cell) (timerEvents events) = observed (elapsed events) cell
  untimed : request.profile ≠ .github → timerEvents events = []

/-- What the law of an exchange says of one that has ended. -/
theorem Ended.of_exited {rest : ServiceProgram (Except ExchangeError String)}
    (path : request.exchange.Path (sourceEvents events) rest)
    (exited : Program.Exited awaited rest outcome)
    (timed : request.profile = .github → ∀ cell,
      tally (added cell) (timerEvents events) = observed (elapsed events) cell)
    (untimed : request.profile ≠ .github → timerEvents events = []) :
    Ended request outcome events := by
  have lawful := request.exchange_counts.path path
  cases exited with
  | returned result => exact ⟨fun _ => lawful, nofun, timed, untimed⟩
  | dropped awaits => exact ⟨fun none => absurd rfl none, fun _ => lawful.1 awaits, timed, untimed⟩

/-- An exchange without a timer. -/
theorem Ended.of_guarded (other : request.profile ≠ .github)
    (path : (request.exchange.guarded awaited (Program.done () : Program TimerAnswer Unit)).Path
      events (.done outcome)) : Ended request outcome events := by
  rcases Program.Path.of_guarded path with ⟨rest, path, exited, last, destructed⟩
  exact .of_exited path exited (fun same => absurd same other) fun _ => destructed.events_eq_nil

/-- A timed program runs up to its return or its drop and is observed once. -/
theorem path_of_timed {α : Type} {op : Op} {next : Answer op → ServiceProgram α}
    {outcome : Option α} (path : (timed (.call op next)).Path events (.done outcome)) :
    ∃ rest, (Program.call op next).Path (sourceEvents events) rest ∧
      Program.Exited awaited rest outcome ∧
      ∀ cell, tally (added cell) (timerEvents events) = observed (elapsed events) cell := by
  rcases Program.Path.exists_of_call path with ⟨counted, later, rfl, begun⟩
  rcases Program.Path.exists_of_call begun with ⟨started, guarded, rfl, running⟩
  rcases Program.Path.of_guarded running with ⟨rest, source, exited, last, destructed⟩
  rcases tally_exchangeTimerDrop destructed with ⟨ended, readings, observes⟩
  refine ⟨rest, .step source, exited, fun cell => ?_⟩
  have both : instants (timerEvents (⟨.sync op, counted⟩ :: ⟨.own .instant, started⟩ :: guarded)) =
      [started, ended] := congrArg (started :: ·) readings
  rw [elapsed, both]
  exact ((tally_cons _ _ _).trans (zero_add _)).trans (observes cell)

theorem Request.ended (path : request.droppable.Path events (.done outcome)) :
    Ended request outcome events := by
  cases request with
  | github service assertion =>
      rcases path_of_timed path with ⟨rest, source, exited, observes⟩
      exact .of_exited source exited (fun _ => observes) fun other => absurd rfl other
  | oidc service assertion => exact .of_guarded nofun path
  | workload service assertion => exact .of_guarded nofun path
  | browserHop1 service workloadUsername assertion => exact .of_guarded nofun path

end Exchange

/-! ## Any number of exchanges -/

theorem meters_addsUp_metrics {ι : Type} (profile : Profile) (counter : Counter) :
    AddsUp (meters : Machine ι MeteredAnswer Meters) (fun state => state.metrics profile counter)
      (fun event => (Program.source? event).elim 0 (markWeight profile counter)) where
  perform := by
    intro task before op answer after effect
    cases op with
    | sync op =>
        rcases effect with ⟨metrics, counts, rfl⟩
        exact countPerform_weight counts profile counter
    | await op =>
        cases answer with
        | none =>
            cases effect
            rfl
        | some answer =>
            rcases effect with ⟨metrics, counts, rfl⟩
            exact countPerform_weight counts profile counter
    | own op =>
        cases op with
        | instant =>
            cases effect
            rfl
        | fetchAdd cell amount =>
            cases effect
            rfl
  cancel := False.elim
  environment same := by rw [show _ = _ from same]

theorem meters_addsUp_durations {ι : Type} (cell : DurationCell) :
    AddsUp (meters : Machine ι MeteredAnswer Meters) (fun state => state.durations cell)
      (fun event => (Program.own? event).elim 0 (added cell)) where
  perform := by
    intro task before op answer after effect
    cases op with
    | sync op =>
        rcases effect with ⟨metrics, _, rfl⟩
        exact (add_zero _).symm
    | await op =>
        cases answer with
        | none =>
            cases effect
            exact (add_zero _).symm
        | some answer =>
            rcases effect with ⟨metrics, _, rfl⟩
            exact (add_zero _).symm
    | own op =>
        cases op with
        | instant =>
            cases effect
            exact (add_zero _).symm
        | fetchAdd other amount =>
            cases effect
            by_cases same : other = cell
            · subst same
              simp
            · simp [same, Function.update_of_ne (Ne.symm same)]
  cancel := False.elim
  environment same := by rw [show _ = _ from same]

section Balance

variable {request : Request} {outcome : Option (Except ExchangeError String)}
  {events : List (Event MeteredAnswer)}

/-- One exchange counts one request of its profile. -/
theorem Ended.requests (ended : Ended request outcome events) (profile : Profile) :
    (marks (sourceEvents events)).count (profile, .requests) =
      if request.profile = profile then 1 else 0 := by
  cases outcome with
  | none =>
      rw [(ended.dropped rfl).1]
      simp [List.count_singleton]
  | some result =>
      cases ended.returned nofun with
      | once outcome counted isOutcome workload unreplayed =>
          rw [counted]
          simp [List.count_cons, isOutcome]
      | twice oidc counted replayed =>
          rw [counted, oidc]
          simp [List.count_cons]

/-- One exchange counts one outcome, or it was dropped. -/
theorem Ended.balance (ended : Ended request outcome events) (profile : Profile) :
    (marks (sourceEvents events)).count (profile, .requests) +
        (if profile = .oidc ∧ ReplayedOidc request (sourceEvents events) then 1 else 0) =
      (marks (sourceEvents events)).count (profile, .issued) +
        (marks (sourceEvents events)).count (profile, .denied) +
        (marks (sourceEvents events)).count (profile, .replayed) +
        (marks (sourceEvents events)).count (profile, .errors) +
        (if request.profile = profile ∧ outcome = none then 1 else 0) := by
  cases outcome with
  | some result =>
      rw [(ended.returned nofun).balance profile, if_neg (by simp), Nat.add_zero]
  | none =>
      rcases ended.dropped rfl with ⟨counted, unused⟩
      have single : ¬(profile = .oidc ∧ ReplayedOidc request (sourceEvents events)) := by
        rintro ⟨_, _, replayed⟩
        rw [unused] at replayed
        contradiction
      rw [if_neg single, counted]
      by_cases same : request.profile = profile
      · simp [same]
      · simp [same]

end Balance

/-- The task holds an exchange that was dropped. -/
def isDropped {α : Type} : Option (Program MeteredAnswer (Option α)) → Bool
  | some (.done none) => true
  | _ => false

section Runs

variable {ι : Type} [DecidableEq ι] [Fintype ι] {requests : ι → Request}
  {config : Config ι MeteredAnswer Meters (Option (Except ExchangeError String))}

/-- Every exchange is accounted for in the metrics. -/
structure Accounted (requests : ι → Request)
    (config : Config ι MeteredAnswer Meters (Option (Except ExchangeError String))) : Prop where
  counted : ∀ profile, config.shared.metrics profile .requests =
    (Finset.univ.filter fun task => (requests task).profile = profile).card
  outcomes : ∀ profile, config.shared.metrics profile .requests +
      (Finset.univ.filter fun task => profile = .oidc ∧
        ReplayedOidc (requests task) (sourceEvents (config.history task))).card =
    config.shared.metrics profile .issued + config.shared.metrics profile .denied +
      config.shared.metrics profile .replayed + config.shared.metrics profile .errors +
      (Finset.univ.filter fun task =>
        (requests task).profile = profile ∧ isDropped (config.tasks task) = true).card
  durations : ∀ cell, config.shared.durations cell =
    ∑ task, if (requests task).profile = .github then
      observed (elapsed (config.history task)) cell else 0
  timed : config.shared.durations .count =
    UInt64.ofNat (config.shared.metrics .github .requests)

/-- **Every exchange is counted once, timed once and has one outcome unless its caller
dropped it.**  The exception is a replayed source of the OIDC service, which has two. -/
theorem exchanges_accounted
    (run : Steps meters (.initial Meters.zero fun task => (requests task).droppable) config)
    (finished : ∀ task, ∃ outcome, config.tasks task = some (.done outcome)) :
    Accounted requests config := by
  choose outcome done using finished
  have ended : ∀ task, Ended (requests task) (outcome task) (config.history task) :=
    fun task => Request.ended (path_of_steps run (done task))
  have metricsEq : ∀ profile counter, config.shared.metrics profile counter =
      ∑ task, (marks (sourceEvents (config.history task))).count (profile, counter) := by
    intro profile counter
    rw [(meters_addsUp_metrics profile counter).steps run]
    refine (Nat.zero_add _).trans (Finset.sum_congr rfl fun task _ => ?_)
    rw [tally_filterMap, tally_markWeight]
  have durationsEq : ∀ cell, config.shared.durations cell =
      ∑ task, if (requests task).profile = .github then
        observed (elapsed (config.history task)) cell else 0 := by
    intro cell
    rw [(meters_addsUp_durations cell).steps run]
    refine (zero_add _).trans (Finset.sum_congr rfl fun task _ => ?_)
    rw [tally_filterMap]
    by_cases github : (requests task).profile = .github
    · rw [if_pos github]
      exact (ended task).timed github cell
    · rw [if_neg github, show List.filterMap _ _ = [] from (ended task).untimed github]
      rfl
  have requestsEq : ∀ profile, config.shared.metrics profile .requests =
      (Finset.univ.filter fun task => (requests task).profile = profile).card := by
    intro profile
    rw [metricsEq, Finset.card_filter]
    exact Finset.sum_congr rfl fun task _ => (ended task).requests profile
  refine ⟨requestsEq, ?_, durationsEq, ?_⟩
  · intro profile
    have droppedEq : ∀ task, (isDropped (config.tasks task) = true) = (outcome task = none) := by
      intro task
      rw [done task]
      cases outcome task <;> simp [isDropped]
    simp only [droppedEq, Finset.card_filter, metricsEq, ← Finset.sum_add_distrib]
    exact Finset.sum_congr rfl fun task _ => (ended task).balance profile
  · have cast : ∀ n : Nat, UInt64.ofNat n = (n : UInt64) := fun _ => rfl
    rw [durationsEq, requestsEq, Finset.card_filter, cast, Nat.cast_sum]
    refine Finset.sum_congr rfl fun task _ => ?_
    rw [Nat.cast_ite, Nat.cast_one, Nat.cast_zero]
    rfl

end Runs

/-- One assertion is rejected at once, the other exchange is dropped while it verifies. -/
theorem exchanges_accounted_sample : ∃ config,
    Steps meters (.initial Meters.zero fun task => (sampleRequests task).droppable) config ∧
      config.tasks true = some (.done none) ∧ Accounted sampleRequests config := by
  let invalid : MeteredAnswer (.await (.verify "assertion")) := some (.error .invalid)
  let unanswered : MeteredAnswer (.await (.verify "forged")) := none
  have run : ∃ config,
      Steps meters (.initial Meters.zero fun task => (sampleRequests task).droppable) config ∧
        config.tasks false = some (.done (some (.error .unauthorized))) ∧
        config.tasks true = some (.done none) := by
    refine Steps.reach_perform false rfl () ⟨_, rfl, rfl⟩ ?_
    refine Steps.reach_perform false rfl (0 : Nat) rfl ?_
    refine Steps.reach_perform true rfl () ⟨_, rfl, rfl⟩ ?_
    refine Steps.reach_perform true rfl (0 : Nat) rfl ?_
    refine Steps.reach_perform false rfl invalid ⟨_, rfl, rfl⟩ ?_
    refine Steps.reach_perform true rfl unanswered rfl ?_
    refine Steps.reach_perform false rfl () ⟨_, rfl, rfl⟩ ?_
    refine Steps.reach_perform false rfl (6000000000 : Nat) rfl ?_
    refine Steps.reach_perform false rfl () rfl ?_
    refine Steps.reach_perform false rfl () rfl ?_
    refine Steps.reach_perform true rfl (7000000000 : Nat) rfl ?_
    refine Steps.reach_perform true rfl () rfl ?_
    refine Steps.reach_perform true rfl () rfl ?_
    exact ⟨_, .refl _, rfl, rfl⟩
  rcases run with ⟨config, run, rejected, dropped⟩
  refine ⟨config, run, dropped, exchanges_accounted run ?_⟩
  rintro (_ | _)
  · exact ⟨_, rejected⟩
  · exact ⟨_, dropped⟩

end OidcExchange.Service
