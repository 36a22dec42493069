import OidcExchange.Oidc.Policy
import OidcExchange.Process.Sequential
import OidcExchange.Process.Totals
import OidcExchange.Process.Trace
import OidcExchange.Service.Stages

/-!
# Outcome counters

The counters of the services after any number of concurrent exchanges.  Each
exchange counts one request and its outcome, so the counters of a profile are the
totals of what its exchanges have counted.
-/

namespace OidcExchange.Service

open OidcExchange.Oidc OidcExchange.Process OidcExchange.Replay

/-- `Metrics` of every service: how often each counter was incremented. -/
abbrev Metrics := Profile → Counter → Nat

/-- `fetch_add(1)` on one counter. -/
def Metrics.increment (metrics : Metrics) (profile : Profile) (counter : Counter) : Metrics :=
  fun profile' counter' =>
    if profile' = profile ∧ counter' = counter then
      metrics profile' counter' + 1
    else
      metrics profile' counter'

/-- Only `fetch_add` moves the counters.  Every dependency may answer anything. -/
def countPerform (before : Metrics) : (op : Op) → Answer op → Metrics → Prop
  | .count profile counter, _, after => after = before.increment profile counter
  | _, _, after => after = before

/-- The services with their counters over arbitrary dependencies. -/
def metered {ι : Type} : Machine ι Answer Metrics where
  perform _ := countPerform
  cancel _ before _ after := after = before
  environment before after := after = before

/-- What an operation counts. -/
@[simp]
def mark? : Event Answer → Option (Profile × Counter)
  | ⟨.count profile counter, _⟩ => some (profile, counter)
  | _ => none

/-- What a history has counted. -/
abbrev marks (events : List (Event Answer)) : List (Profile × Counter) :=
  events.filterMap mark?

/-- What an operation adds to a counter. -/
def markWeight (profile : Profile) (counter : Counter) (event : Event Answer) : Nat :=
  if mark? event = some (profile, counter) then 1 else 0

theorem countPerform_weight {before after : Metrics} {op : Op} {answer : Answer op}
    (effect : countPerform before op answer after) (profile : Profile) (counter : Counter) :
    after profile counter = before profile counter + markWeight profile counter ⟨op, answer⟩ := by
  cases op with
  | count profile' counter' =>
      rw [show after = before.increment profile' counter' from effect, Metrics.increment,
        markWeight]
      simp only [mark?, Option.some.injEq, Prod.mk.injEq, eq_comm]
      split
      · rfl
      · rfl
  | _ => exact congrFun (congrFun effect profile) counter

theorem metered_addsUp {ι : Type} (profile : Profile) (counter : Counter) :
    AddsUp (metered : Machine ι Answer Metrics) (fun metrics => metrics profile counter)
      (markWeight profile counter) where
  perform effect := countPerform_weight effect profile counter
  cancel same := congrFun (congrFun same profile) counter
  environment same := congrFun (congrFun same profile) counter

theorem tally_markWeight (profile : Profile) (counter : Counter) (events : List (Event Answer)) :
    tally (markWeight profile counter) events = (marks events).count (profile, counter) := by
  induction events with
  | nil => rfl
  | cons event events inductionHypothesis =>
      rw [tally_cons, inductionHypothesis, markWeight]
      simp only [marks, List.filterMap_cons]
      cases marked : mark? event with
      | none => simp
      | some mark =>
          rw [List.count_cons, Nat.add_comm]
          simp [beq_iff_eq]

/-- What a finished exchange has counted: its request and one outcome, except that an
OIDC exchange whose replay key was consumed has counted two. -/
inductive Counts (request : Request) (events : List (Event Answer)) : Prop
  | once (outcome : Counter)
      (counted : marks events = [(request.profile, .requests), (request.profile, outcome)])
      (isOutcome : outcome ≠ .requests)
      (workload : request.profile = .workload → outcome ≠ .replayed)
      (unreplayed : request.profile = .oidc → useAnswer events ≠ some (.error .replayed))
  | twice (oidc : request.profile = .oidc)
      (counted : marks events = [(.oidc, .requests), (.oidc, .replayed), (.oidc, .denied)])
      (replayed : useAnswer events = some (.error .replayed))

/-! ## One exchange -/

/-- The operations that an exchange awaits, where its caller may drop it. -/
def awaited : Op → Bool
  | .verify _ => true
  | .verifyOidc _ => true
  | .review _ _ => true
  | .useOnce _ _ => true
  | _ => false

/-- Where an exchange waits it has counted its request and no outcome yet, and its replay key
has not been consumed. -/
def Pending (request : Request) (events : List (Event Answer)) (op : Op) : Prop :=
  awaited op = true → marks events = [(request.profile, .requests)] ∧ useAnswer events = none

section Law

variable {request : Request} {history : List (Event Answer)}

theorem counts_refuse {counter : Counter} {failure : ExchangeError} {profile : Profile}
    (counts : Counts request (history ++ [⟨.count profile counter, ()⟩])) :
    (refuse profile counter failure).Lawful (Pending request)
      (fun events _ => Counts request events) history :=
  ⟨nofun, fun _ => counts⟩

theorem counts_issue {document : Document} {profile : Profile}
    (failed : Counts request
      (history ++ [⟨.sign document, none⟩] ++ [⟨.count profile .errors, ()⟩]))
    (issued : ∀ token, Counts request
      (history ++ [⟨.sign document, some token⟩] ++ [⟨.count profile .issued, ()⟩])) :
    (issue profile document).Lawful (Pending request) (fun events _ => Counts request events)
      history := by
  refine ⟨nofun, ?_⟩
  rintro (_ | token)
  · exact counts_refuse failed
  · exact ⟨nofun, fun _ => issued token⟩

theorem ExchangeService.exchange_counts (service : ExchangeService) (assertion : String) :
    (service.exchange assertion).Lawful (Pending (.github service assertion))
      (fun events _ => Counts (.github service assertion) events) [] := by
  have once : ∀ {events : List (Event Answer)} (outcome : Counter),
      marks events = [(.github, .requests), (.github, outcome)] → outcome ≠ .requests →
        Counts (.github service assertion) events :=
    fun outcome counted isOutcome => .once outcome counted isOutcome nofun nofun
  refine ⟨nofun, fun _ => ⟨fun _ => ⟨rfl, rfl⟩, ?_⟩⟩
  rintro ((_ | _) | claims)
  · exact counts_refuse (once .denied rfl nofun)
  · exact counts_refuse (once .errors rfl nofun)
  cases authorized : service.policy.authorize claims with
  | error failure =>
      simp only [Program.bind_done, authorized]
      exact counts_refuse (once .denied rfl nofun)
  | ok identity =>
      simp only [Program.bind_done, authorized]
      refine ⟨fun _ => ⟨rfl, rfl⟩, ?_⟩
      rintro ((_ | _ | detail) | _)
      · exact counts_refuse (once .replayed rfl nofun)
      · exact counts_refuse (once .errors rfl nofun)
      · exact counts_refuse (once .errors rfl nofun)
      · refine ⟨nofun, fun now => ⟨nofun, fun jti => ?_⟩⟩
        apply counts_issue
        · exact once .errors rfl nofun
        · exact fun token => once .issued rfl nofun

theorem OidcExchangeService.exchange_counts (service : OidcExchangeService) (assertion : String) :
    (service.exchange assertion).Lawful (Pending (.oidc service assertion))
      (fun events _ => Counts (.oidc service assertion) events) [] := by
  have once : ∀ {events : List (Event Answer)} (outcome : Counter),
      marks events = [(.oidc, .requests), (.oidc, outcome)] → outcome ≠ .requests →
        useAnswer events ≠ some (.error .replayed) → Counts (.oidc service assertion) events :=
    fun outcome counted isOutcome unreplayed =>
      .once outcome counted isOutcome nofun fun _ => unreplayed
  refine ⟨nofun, fun _ => ⟨fun _ => ⟨rfl, rfl⟩, ?_⟩⟩
  rintro ((_ | _) | claims)
  · exact counts_refuse (once .denied rfl nofun nofun)
  · exact counts_refuse (once .errors rfl nofun nofun)
  cases authorized : service.policy.authorize claims with
  | error failure =>
      simp only [Program.bind_done, authorized]
      exact counts_refuse (once .denied rfl nofun nofun)
  | ok task =>
      cases identified : replayIdentifier service.sha256 claims with
      | none =>
          simp only [Program.bind_done, authorized, identified]
          exact counts_refuse (once .denied rfl nofun nofun)
      | some replay =>
          simp only [Program.bind_done, authorized, identified]
          refine ⟨fun _ => ⟨rfl, rfl⟩, ?_⟩
          rintro ((_ | _ | detail) | _)
          · exact ⟨nofun, fun _ => counts_refuse (.twice rfl rfl rfl)⟩
          · exact counts_refuse (once .errors rfl nofun (by simp))
          · exact counts_refuse (once .errors rfl nofun (by simp))
          · refine ⟨nofun, fun now => ⟨nofun, fun jti => ?_⟩⟩
            apply counts_issue
            · exact once .errors rfl nofun (by simp)
            · exact fun token => once .issued rfl nofun (by simp)

theorem WorkloadExchangeService.exchange_counts (service : WorkloadExchangeService)
    (assertion : String) :
    (service.exchange assertion).Lawful (Pending (.workload service assertion))
      (fun events _ => Counts (.workload service assertion) events) [] := by
  have once : ∀ {events : List (Event Answer)} (outcome : Counter),
      marks events = [(.workload, .requests), (.workload, outcome)] → outcome ≠ .requests →
        outcome ≠ .replayed → Counts (.workload service assertion) events :=
    fun outcome counted isOutcome unreplayed =>
      .once outcome counted isOutcome (fun _ => unreplayed) nofun
  refine ⟨nofun, fun _ => ⟨fun _ => ⟨rfl, rfl⟩, ?_⟩⟩
  rintro ((_ | _) | username)
  · exact counts_refuse (once .denied rfl nofun nofun)
  · exact counts_refuse (once .errors rfl nofun nofun)
  cases authorized : service.policy.authorize username with
  | error failure =>
      simp only [Program.bind_done, authorized]
      exact counts_refuse (once .denied rfl nofun nofun)
  | ok identity =>
      simp only [Program.bind_done, authorized]
      refine ⟨nofun, fun now => ?_⟩
      cases profile : identity.task with
      | none =>
          simp only [Program.bind_done]
          refine ⟨nofun, fun jti => ?_⟩
          apply counts_issue
          · exact once .errors rfl nofun nofun
          · exact fun token => once .issued rfl nofun nofun
      | some task =>
          cases projected : service.projectedClaims assertion with
          | none =>
              simp only [Program.bind_done]
              exact counts_refuse (once .denied rfl nofun nofun)
          | some claims =>
              simp only [Program.bind_done]
              cases valid : projectedClaimsValid claims now with
              | false =>
                  simp only [↓reduceIte]
                  exact counts_refuse (once .denied rfl nofun nofun)
              | true =>
                  simp only [Bool.true_eq_false, ↓reduceIte]
                  refine ⟨fun _ => ⟨rfl, rfl⟩, ?_⟩
                  rintro ((_ | _ | detail) | _)
                  · exact counts_refuse (once .denied rfl nofun nofun)
                  · exact counts_refuse (once .errors rfl nofun nofun)
                  · exact counts_refuse (once .errors rfl nofun nofun)
                  · refine ⟨nofun, fun jti => ?_⟩
                    apply counts_issue
                    · exact once .errors rfl nofun nofun
                    · exact fun token => once .issued rfl nofun nofun

theorem BrowserHop1ExchangeService.exchange_counts (service : BrowserHop1ExchangeService)
    (workloadUsername assertion : String) :
    (service.exchange workloadUsername assertion).Lawful
      (Pending (.browserHop1 service workloadUsername assertion))
      (fun events _ => Counts (.browserHop1 service workloadUsername assertion) events) [] := by
  have once : ∀ {events : List (Event Answer)} (outcome : Counter),
      marks events = [(.browserHop1, .requests), (.browserHop1, outcome)] → outcome ≠ .requests →
        Counts (.browserHop1 service workloadUsername assertion) events :=
    fun outcome counted isOutcome => .once outcome counted isOutcome nofun nofun
  refine ⟨nofun, fun _ => ?_⟩
  cases authorized : service.policy.authorize workloadUsername with
  | error failure =>
      simp only [Program.bind_done]
      exact counts_refuse (once .denied rfl nofun)
  | ok caller =>
      simp only [Program.bind_done]
      cases role : caller.roles.any (fun role => role == browserHop1IssuerRole) with
      | false =>
          simp only [↓reduceIte]
          exact counts_refuse (once .denied rfl nofun)
      | true =>
          simp only [Bool.true_eq_false, ↓reduceIte]
          refine ⟨fun _ => ⟨rfl, rfl⟩, ?_⟩
          rintro (_ | request)
          · exact counts_refuse (once .denied rfl nofun)
          · refine ⟨fun _ => ⟨rfl, rfl⟩, ?_⟩
            rintro ((_ | _ | detail) | _)
            · exact counts_refuse (once .replayed rfl nofun)
            · exact counts_refuse (once .errors rfl nofun)
            · exact counts_refuse (once .errors rfl nofun)
            · refine ⟨nofun, fun now => ⟨nofun, fun jti => ?_⟩⟩
              apply counts_issue
              · exact once .errors rfl nofun
              · exact fun token => once .issued rfl nofun

theorem Request.exchange_counts (request : Request) :
    request.exchange.Lawful (Pending request) (fun events _ => Counts request events) [] := by
  cases request with
  | github service assertion => exact service.exchange_counts assertion
  | oidc service assertion => exact service.exchange_counts assertion
  | workload service assertion => exact service.exchange_counts assertion
  | browserHop1 service workloadUsername assertion =>
      exact service.exchange_counts workloadUsername assertion

end Law

/-! ## Any number of exchanges -/

/-- Requests are the sum of their outcomes. -/
def Partitioned (metrics : Metrics) (profile : Profile) : Prop :=
  metrics profile .requests = metrics profile .issued + metrics profile .denied +
    metrics profile .replayed + metrics profile .errors

/-- An OIDC exchange whose replay key was consumed. -/
def ReplayedOidc (request : Request) (events : List (Event Answer)) : Prop :=
  request.profile = .oidc ∧ useAnswer events = some (.error .replayed)

instance (request : Request) (events : List (Event Answer)) :
    Decidable (ReplayedOidc request events) :=
  inferInstanceAs (Decidable (_ ∧ _))

variable {request : Request} {events : List (Event Answer)}

/-- One exchange counts one outcome for its request, and one more for a replayed
source of the OIDC service. -/
theorem Counts.balance (counts : Counts request events) (profile : Profile) :
    (marks events).count (profile, .requests) +
        (if profile = .oidc ∧ ReplayedOidc request events then 1 else 0) =
      (marks events).count (profile, .issued) + (marks events).count (profile, .denied) +
        (marks events).count (profile, .replayed) + (marks events).count (profile, .errors) := by
  cases counts with
  | once outcome counted isOutcome workload unreplayed =>
      have single : ¬ReplayedOidc request events := fun replayed =>
        unreplayed replayed.1 replayed.2
      rw [counted, if_neg fun both => single both.2]
      by_cases same : request.profile = profile
      · rw [same]
        cases outcome with
        | requests => contradiction
        | _ => simp
      · simp [same]
  | twice oidc counted replayed =>
      rw [counted]
      by_cases same : profile = .oidc
      · rw [if_pos ⟨same, oidc, replayed⟩, same]
        rfl
      · rw [if_neg fun both => same both.1]
        simp [Ne.symm same]

/-- Workload exchanges count a replayed source as denied. -/
theorem Counts.workload_replayed (counts : Counts request events) :
    (marks events).count (.workload, .replayed) = 0 := by
  cases counts with
  | once outcome counted isOutcome workload unreplayed =>
      rw [counted]
      by_cases same : request.profile = .workload
      · simp [workload same]
      · simp [same]
  | twice oidc counted replayed =>
      rw [counted]
      rfl

section Runs

variable {ι : Type} [DecidableEq ι] [Fintype ι] {requests : ι → Request}
  {config : Config ι Answer Metrics (Except ExchangeError String)}

/-- The counters are the totals of what the exchanges have counted. -/
theorem metrics_eq_sum
    (run : Steps metered (.initial (fun _ _ => 0) fun task => (requests task).exchange) config)
    (profile : Profile) (counter : Counter) :
    config.shared profile counter =
      ∑ task, (marks (config.history task)).count (profile, counter) := by
  rw [(metered_addsUp profile counter).steps run, Nat.zero_add]
  exact Finset.sum_congr rfl fun task _ => tally_markWeight profile counter _

/-- **The outcome counters partition the requests of every service, except that the
OIDC service counts a replayed source twice.** -/
theorem outcomes_partition_requests
    (run : Steps metered (.initial (fun _ _ => 0) fun task => (requests task).exchange) config)
    (finished : ∀ task, ∃ result, config.tasks task = some (.done result)) :
    Partitioned config.shared .github ∧ Partitioned config.shared .browserHop1 ∧
      config.shared .workload .requests = config.shared .workload .issued +
        config.shared .workload .denied + config.shared .workload .errors ∧
      (Partitioned config.shared .oidc ↔
        ∀ task, ¬ReplayedOidc (requests task) (config.history task)) := by
  have counts : ∀ task, Counts (requests task) (config.history task) := by
    intro task
    rcases finished task with ⟨result, done⟩
    exact (requests task).exchange_counts.result (path_of_steps run done)
  have balance : ∀ profile, config.shared profile .requests +
      ∑ task, (if profile = .oidc ∧ ReplayedOidc (requests task) (config.history task)
        then 1 else 0) =
      config.shared profile .issued + config.shared profile .denied +
        config.shared profile .replayed + config.shared profile .errors := by
    intro profile
    simp only [metrics_eq_sum run, ← Finset.sum_add_distrib]
    exact Finset.sum_congr rfl fun task _ => (counts task).balance profile
  have partitioned : ∀ profile, profile ≠ .oidc → Partitioned config.shared profile := by
    intro profile other
    have total := balance profile
    simp only [other, false_and, if_false, Finset.sum_const_zero, Nat.add_zero] at total
    exact total
  have replayed : config.shared .workload .replayed = 0 := by
    rw [metrics_eq_sum run]
    exact Finset.sum_eq_zero fun task _ => (counts task).workload_replayed
  refine ⟨partitioned _ nofun, partitioned _ nofun, ?_, ?_⟩
  · have total := partitioned .workload nofun
    rw [Partitioned, replayed, Nat.add_zero] at total
    exact total
  · have total := balance .oidc
    simp only [true_and] at total
    rw [Partitioned, ← total, eq_comm, Nat.add_eq_left, Finset.sum_eq_zero_iff]
    simp

end Runs

/-- An OIDC service whose digests stand for themselves. -/
def sampleOidcService : OidcExchangeService where
  sha256 := id
  policy := Oidc.samplePolicy
  issuer := "https://identity.example.com"
  outputAudience := "steward"
  tokenTtl := 120

/-- One exchange of an assertion at this service. -/
def oidcRequest (_ : Unit) : Request :=
  .oidc sampleOidcService "assertion"

/-- The one exchange runs to its end. -/
theorem exists_run_of_path {events : List (Event Answer)} {result : Except ExchangeError String}
    (path : (oidcRequest ()).exchange.Path events (.done result)) {metrics : Metrics}
    (moves : Moves (metered : Machine Unit Answer Metrics) () events (fun _ _ => 0) metrics) :
    ∃ config, Steps metered
        (.initial (fun _ _ => 0) fun task => (oidcRequest task).exchange) config ∧
      config.shared = metrics ∧ config.tasks () = some (.done result) ∧
        config.history () = events := by
  have running : (Config.initial (fun _ _ => 0 : Metrics)
      fun task => (oidcRequest task).exchange).tasks () = some (oidcRequest ()).exchange := rfl
  rcases path.steps running moves with ⟨config, run, shared, done, history, _⟩
  exact ⟨config, run, shared, done, history⟩

theorem outcomes_partition_requests_sample :
    ∃ config, Steps metered
        (.initial (fun _ _ => 0) fun task => (oidcRequest task).exchange) config ∧
      config.tasks () = some (.done (.error .unauthorized)) ∧
        Partitioned config.shared .oidc := by
  have path : (oidcRequest ()).exchange.Path
      [⟨.count .oidc .requests, ()⟩, ⟨.verifyOidc "assertion", .error .invalid⟩,
        ⟨.count .oidc .denied, ()⟩] (.done (.error .unauthorized)) :=
    .step (.step (.step (.refl _)))
  rcases exists_run_of_path path ⟨_, rfl, _, rfl, _, rfl, rfl⟩ with
    ⟨config, run, shared, done, history⟩
  refine ⟨config, run, done, ?_⟩
  apply (outcomes_partition_requests run fun _ => ⟨_, done⟩).2.2.2.mpr
  intro task replayed
  rw [show config.history task = _ from history] at replayed
  simp [ReplayedOidc] at replayed

/-- One replayed OIDC source: one request, one denied and one replayed. -/
theorem replayed_source_counts_twice :
    ∃ config, Steps metered
        (.initial (fun _ _ => 0) fun task => (oidcRequest task).exchange) config ∧
      config.tasks () = some (.done (.error .unauthorized)) ∧
        config.shared .oidc .requests = 1 ∧ config.shared .oidc .denied = 1 ∧
          config.shared .oidc .replayed = 1 ∧ ¬Partitioned config.shared .oidc := by
  have authorized : Oidc.samplePolicy.authorize Oidc.sampleClaims = .ok Oidc.sampleTask := by
    decide +kernel
  have identified : ∃ key, replayIdentifier id Oidc.sampleClaims = some key := ⟨_, rfl⟩
  rcases identified with ⟨key, identified⟩
  have path : ∃ target, (oidcRequest ()).exchange.Path
      [⟨.count .oidc .requests, ()⟩, ⟨.verifyOidc "assertion", .ok Oidc.sampleClaims⟩,
        ⟨.useOnce key 1000, .error .replayed⟩, ⟨.count .oidc .replayed, ()⟩,
        ⟨.count .oidc .denied, ()⟩] target ∧ target = .done (.error .unauthorized) := by
    apply Program.Path.exists_step_and
    apply Program.Path.exists_step_and
    simp only [Program.bind_done, sampleOidcService, authorized, identified]
    exact ⟨_, .step (.step (.step (.refl _))), rfl⟩
  rcases path with ⟨_, path, rfl⟩
  rcases exists_run_of_path path ⟨_, rfl, _, rfl, _, rfl, _, rfl, _, rfl, rfl⟩ with
    ⟨config, run, shared, done, _⟩
  refine ⟨config, run, done, ?_⟩
  rw [shared]
  refine ⟨rfl, rfl, rfl, ?_⟩
  rw [Partitioned]
  decide

end OidcExchange.Service
