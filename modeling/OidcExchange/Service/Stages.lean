import OidcExchange.Process.Pool
import OidcExchange.Process.Trace
import OidcExchange.Service.Exchange

/-!
# The stages of an exchange

Every exchange is a sequence of stages, in an order of its own.  A stage is
read off the operations of the exchange and their answers.  The law of the
services: the ledger is used once, after everything that may reject the request;
nothing is signed before the ledger has accepted, except for workload roles; and
the result is decided by the first stage that has not passed.
-/

namespace OidcExchange.Service

open OidcExchange.Jwks OidcExchange.Oidc OidcExchange.Process OidcExchange.Replay
  OidcExchange.Workload

/-- How a stage ends. -/
inductive Outcome where
  | passed
  | rejected
  | unavailable
  deriving DecidableEq

inductive Stage where
  | verification
  | authorization
  | role
  | replayIdentity
  | projectedClaims
  | consumption
  | signing
  deriving DecidableEq

@[simp]
def verifyOutcome {α : Type} : Except VerifyError α → Outcome
  | .ok _ => .passed
  | .error .invalid => .rejected
  | .error .keysUnavailable => .unavailable

@[simp]
def reviewOutcome : Except ReviewError String → Outcome
  | .ok _ => .passed
  | .error .invalid => .rejected
  | .error .unavailable => .unavailable

@[simp]
def ledgerOutcome : Except ReplayError Unit → Outcome
  | .ok () => .passed
  | .error .replayed => .rejected
  | .error _ => .unavailable

@[simp]
def signOutcome : Option String → Outcome
  | some _ => .passed
  | none => .unavailable

/-- A policy either grants something or rejects. -/
@[simp]
def policyOutcome {ε α : Type} : Except ε α → Outcome
  | .ok _ => .passed
  | .error _ => .rejected

/-- A check either passes or rejects. -/
@[simp]
def checkOutcome (holds : Bool) : Outcome :=
  if holds then .passed else .rejected

/-- What the ledger answered to the first `use_once`. -/
@[simp]
def useAnswer : List (Event Answer) → Option (Except ReplayError Unit)
  | [] => none
  | ⟨.useOnce _ _, answer⟩ :: _ => some answer
  | _ :: events => useAnswer events

/-- What the signer answered to the first document. -/
@[simp]
def signAnswer : List (Event Answer) → Option (Option String)
  | [] => none
  | ⟨.sign _, answer⟩ :: _ => some answer
  | _ :: events => signAnswer events

/-- The identity that the TokenReview and the policy have selected. -/
@[simp]
def WorkloadExchangeService.selected (service : WorkloadExchangeService) (assertion : String)
    (events : List (Event Answer)) : Option WorkloadIdentity :=
  match answerTo (Op.review assertion service.inputAudience) events with
  | some (.ok username) =>
      match service.policy.authorize username with
      | .ok identity => some identity
      | .error _ => none
  | _ => none

namespace Request

/-- How a stage has ended, if the exchange has reached it. -/
@[simp]
def outcome (events : List (Event Answer)) : Request → Stage → Option Outcome
  | .github _ assertion, .verification =>
      (answerTo (Op.verify assertion) events).map verifyOutcome
  | .github service assertion, .authorization =>
      match answerTo (Op.verify assertion) events with
      | some (.ok claims) => some (policyOutcome (service.policy.authorize claims))
      | _ => none
  | .oidc _ assertion, .verification =>
      (answerTo (Op.verifyOidc assertion) events).map verifyOutcome
  | .oidc service assertion, .authorization =>
      match answerTo (Op.verifyOidc assertion) events with
      | some (.ok claims) => some (policyOutcome (service.policy.authorize claims))
      | _ => none
  | .oidc service assertion, .replayIdentity =>
      match answerTo (Op.verifyOidc assertion) events with
      | some (.ok claims) =>
          some (checkOutcome (replayIdentifier service.sha256 claims).isSome)
      | _ => none
  | .workload service assertion, .verification =>
      (answerTo (Op.review assertion service.inputAudience) events).map reviewOutcome
  | .workload service assertion, .authorization =>
      match answerTo (Op.review assertion service.inputAudience) events with
      | some (.ok username) => some (policyOutcome (service.policy.authorize username))
      | _ => none
  | .workload service assertion, .projectedClaims =>
      match answerTo Op.currentTimestamp events with
      | some now => some (checkOutcome ((service.projectedClaims assertion).any
          fun claims => projectedClaimsValid claims now))
      | none => none
  | .browserHop1 service workloadUsername _, .authorization =>
      some (policyOutcome (service.policy.authorize workloadUsername))
  | .browserHop1 service workloadUsername _, .role =>
      match service.policy.authorize workloadUsername with
      | .ok caller => some (checkOutcome (caller.roles.any (· == browserHop1IssuerRole)))
      | .error _ => none
  | .browserHop1 _ _ assertion, .verification =>
      (answerTo (Op.verifyBrowserHop1 assertion) events).map
        fun answer => checkOutcome answer.isSome
  | _, .consumption => (useAnswer events).map ledgerOutcome
  | _, .signing => (signAnswer events).map signOutcome
  | _, _ => none

/-- The exchange is a workload exchange without a task. -/
def RoleProfile (events : List (Event Answer)) : Request → Prop
  | .workload service assertion =>
      ∃ identity, service.selected assertion events = some identity ∧ identity.task = none
  | _ => False

/-- The stages of an exchange in their order.  A workload identity without a task
does not use the ledger. -/
@[simp]
def stages (events : List (Event Answer)) : Request → List Stage
  | .github _ _ => [.verification, .authorization, .consumption, .signing]
  | .oidc _ _ => [.verification, .authorization, .replayIdentity, .consumption, .signing]
  | .workload service assertion =>
      match (service.selected assertion events).map (·.task) with
      | some none => [.verification, .authorization, .signing]
      | _ => [.verification, .authorization, .projectedClaims, .consumption, .signing]
  | .browserHop1 _ _ _ => [.authorization, .role, .verification, .consumption, .signing]

/-- The stages before the ledger have passed, for this replay key and expiry. -/
def Admits (events : List (Event Answer)) (jti : String) (expiresAt : Int) : Request → Prop
  | .github service assertion =>
      ∃ claims identity, answerTo (Op.verify assertion) events = some (.ok claims) ∧
        service.policy.authorize claims = .ok identity ∧
        jti = claims.jti ∧ expiresAt = claims.exp
  | .oidc service assertion =>
      ∃ claims task, answerTo (Op.verifyOidc assertion) events = some (.ok claims) ∧
        service.policy.authorize claims = .ok task ∧
        replayIdentifier service.sha256 claims = some jti ∧ expiresAt = claims.expiresAt
  | .workload service assertion =>
      ∃ username identity task claims now,
        answerTo (Op.review assertion service.inputAudience) events = some (.ok username) ∧
        service.policy.authorize username = .ok identity ∧ identity.task = some task ∧
        answerTo Op.currentTimestamp events = some now ∧
        service.projectedClaims assertion = some claims ∧
        projectedClaimsValid claims now = true ∧
        jti = claims.jti ∧ expiresAt = claims.exp
  | .browserHop1 service workloadUsername assertion =>
      ∃ caller claims, service.policy.authorize workloadUsername = .ok caller ∧
        browserHop1IssuerRole ∈ caller.roles ∧
        answerTo (Op.verifyBrowserHop1 assertion) events = some (some claims) ∧
        jti = "browser-hop1:" ++ claims.jti ∧ expiresAt = claims.exp

/-- The operations that the law allows after the given ones. -/
def Allows (request : Request) (before : List (Event Answer)) : Op → Prop
  | .useOnce jti expiresAt => useAnswer before = none ∧ request.Admits before jti expiresAt
  | .sign _ => useAnswer before = some (.ok ()) ∨ request.RoleProfile before
  | _ => True

end Request

/-- What the outcomes of the stages decide: the first that has not passed, and
success if all have. -/
@[simp]
def verdict : List (Option Outcome) → Option (Except ExchangeError Unit)
  | [] => some (.ok ())
  | some .passed :: outcomes => verdict outcomes
  | some .rejected :: _ => some (.error .unauthorized)
  | some .unavailable :: _ => some (.error .unavailable)
  | none :: _ => none

/-- The result without the token. -/
@[simp]
def withoutToken : Except ExchangeError String → Except ExchangeError Unit
  | .ok _ => .ok ()
  | .error failure => .error failure

/-- The result agrees with the stages. -/
@[simp]
def Request.Decides (request : Request) (events : List (Event Answer))
    (result : Except ExchangeError String) : Prop :=
  verdict ((request.stages events).map (request.outcome events)) =
    some (withoutToken result)

section Law

variable {request : Request} {history : List (Event Answer)} {profile : Profile}

theorem lawful_refuse {counter : Counter} {failure : ExchangeError}
    (decides : request.Decides (history ++ [⟨.count profile counter, ()⟩]) (.error failure)) :
    (refuse profile counter failure).Lawful request.Allows request.Decides history :=
  ⟨trivial, fun _ => decides⟩

theorem lawful_issue {document : Document} (allowed : request.Allows history (.sign document))
    (failed : request.Decides
      (history ++ [⟨.sign document, none⟩] ++ [⟨.count profile .errors, ()⟩])
      (.error .unavailable))
    (issued : ∀ token, request.Decides
      (history ++ [⟨.sign document, some token⟩] ++ [⟨.count profile .issued, ()⟩])
      (.ok token)) :
    (issue profile document).Lawful request.Allows request.Decides history := by
  refine ⟨allowed, ?_⟩
  rintro (_ | token)
  · exact lawful_refuse failed
  · exact ⟨trivial, fun _ => issued token⟩

theorem ExchangeService.exchange_lawful (service : ExchangeService) (assertion : String) :
    (service.exchange assertion).Lawful (Request.github service assertion).Allows
      (Request.github service assertion).Decides [] := by
  refine ⟨trivial, fun _ => ⟨trivial, ?_⟩⟩
  rintro ((_ | _) | claims)
  · exact lawful_refuse (by simp)
  · exact lawful_refuse (by simp)
  cases authorized : service.policy.authorize claims with
  | error failure =>
      simp only [Program.bind_done, authorized]
      exact lawful_refuse (by simp [authorized])
  | ok identity =>
      simp only [Program.bind_done, authorized]
      refine ⟨⟨rfl, claims, identity, by simp, authorized, rfl, rfl⟩, ?_⟩
      rintro ((_ | _ | detail) | _)
      · exact lawful_refuse (by simp [authorized])
      · exact lawful_refuse (by simp [authorized])
      · exact lawful_refuse (by simp [authorized])
      · refine ⟨trivial, fun now => ⟨trivial, fun jti => ?_⟩⟩
        apply lawful_issue
        · exact Or.inl rfl
        · simp [authorized]
        · intro token
          simp [authorized]

theorem OidcExchangeService.exchange_lawful (service : OidcExchangeService)
    (assertion : String) :
    (service.exchange assertion).Lawful (Request.oidc service assertion).Allows
      (Request.oidc service assertion).Decides [] := by
  refine ⟨trivial, fun _ => ⟨trivial, ?_⟩⟩
  rintro ((_ | _) | claims)
  · exact lawful_refuse (by simp)
  · exact lawful_refuse (by simp)
  cases authorized : service.policy.authorize claims with
  | error failure =>
      simp only [Program.bind_done, authorized]
      exact lawful_refuse (by simp [authorized])
  | ok task =>
      cases identified : replayIdentifier service.sha256 claims with
      | none =>
          simp only [Program.bind_done, authorized, identified]
          exact lawful_refuse (by simp [authorized, identified])
      | some replay =>
          simp only [Program.bind_done, authorized, identified]
          refine ⟨⟨rfl, claims, task, by simp, authorized, identified, rfl⟩, ?_⟩
          rintro ((_ | _ | detail) | _)
          · exact ⟨trivial, fun _ => lawful_refuse (by simp [authorized, identified])⟩
          · exact lawful_refuse (by simp [authorized, identified])
          · exact lawful_refuse (by simp [authorized, identified])
          · refine ⟨trivial, fun now => ⟨trivial, fun jti => ?_⟩⟩
            apply lawful_issue
            · exact Or.inl rfl
            · simp [authorized, identified]
            · intro token
              simp [authorized, identified]

theorem WorkloadExchangeService.exchange_lawful (service : WorkloadExchangeService)
    (assertion : String) :
    (service.exchange assertion).Lawful (Request.workload service assertion).Allows
      (Request.workload service assertion).Decides [] := by
  refine ⟨trivial, fun _ => ⟨trivial, ?_⟩⟩
  rintro ((_ | _) | username)
  · exact lawful_refuse (by simp)
  · exact lawful_refuse (by simp)
  cases authorized : service.policy.authorize username with
  | error failure =>
      simp only [Program.bind_done, authorized]
      exact lawful_refuse (by simp [authorized])
  | ok identity =>
      simp only [Program.bind_done, authorized]
      refine ⟨trivial, fun now => ?_⟩
      cases profile : identity.task with
      | none =>
          simp only [Program.bind_done]
          refine ⟨trivial, fun jti => ?_⟩
          apply lawful_issue
          · exact Or.inr ⟨identity, by simp [authorized], profile⟩
          · simp [authorized, profile]
          · intro token
            simp [authorized, profile]
      | some task =>
          cases projected : service.projectedClaims assertion with
          | none =>
              simp only [Program.bind_done]
              exact lawful_refuse (by simp [authorized, profile, projected])
          | some claims =>
              simp only [Program.bind_done]
              cases valid : projectedClaimsValid claims now with
              | false =>
                  simp only [↓reduceIte]
                  exact lawful_refuse (by simp [authorized, profile, projected, valid])
              | true =>
                  simp only [Bool.true_eq_false, ↓reduceIte]
                  refine ⟨⟨rfl, username, identity, task, claims, now, by simp, authorized,
                    profile, by simp, projected, valid, rfl, rfl⟩, ?_⟩
                  rintro ((_ | _ | detail) | _)
                  · exact lawful_refuse (by simp [authorized, profile, projected, valid])
                  · exact lawful_refuse (by simp [authorized, profile, projected, valid])
                  · exact lawful_refuse (by simp [authorized, profile, projected, valid])
                  · refine ⟨trivial, fun jti => ?_⟩
                    apply lawful_issue
                    · exact Or.inl rfl
                    · simp [authorized, profile, projected, valid]
                    · intro token
                      simp [authorized, profile, projected, valid]

theorem BrowserHop1ExchangeService.exchange_lawful (service : BrowserHop1ExchangeService)
    (workloadUsername assertion : String) :
    (service.exchange workloadUsername assertion).Lawful
      (Request.browserHop1 service workloadUsername assertion).Allows
      (Request.browserHop1 service workloadUsername assertion).Decides [] := by
  refine ⟨trivial, fun _ => ?_⟩
  cases authorized : service.policy.authorize workloadUsername with
  | error failure =>
      simp only [Program.bind_done]
      exact lawful_refuse (by simp [authorized])
  | ok caller =>
      simp only [Program.bind_done]
      cases role : caller.roles.any fun role => role == browserHop1IssuerRole with
      | false =>
          simp only [↓reduceIte]
          exact lawful_refuse (by simp [authorized, role])
      | true =>
          have member : browserHop1IssuerRole ∈ caller.roles := by simpa using role
          simp only [Bool.true_eq_false, ↓reduceIte]
          refine ⟨trivial, ?_⟩
          rintro (_ | claims)
          · exact lawful_refuse (by simp [authorized, role])
          · refine ⟨⟨rfl, caller, claims, authorized, member, by simp, rfl, rfl⟩, ?_⟩
            rintro ((_ | _ | detail) | _)
            · exact lawful_refuse (by simp [authorized, role])
            · exact lawful_refuse (by simp [authorized, role])
            · exact lawful_refuse (by simp [authorized, role])
            · refine ⟨trivial, fun now => ⟨trivial, fun jti => ?_⟩⟩
              apply lawful_issue
              · exact Or.inl rfl
              · simp [authorized, role]
              · intro token
                simp [authorized, role]

/-- Every exchange keeps the law, whatever its dependencies answer. -/
theorem Request.exchange_lawful (request : Request) :
    request.exchange.Lawful request.Allows request.Decides [] := by
  cases request with
  | github service assertion => exact service.exchange_lawful assertion
  | oidc service assertion => exact service.exchange_lawful assertion
  | workload service assertion => exact service.exchange_lawful assertion
  | browserHop1 service workloadUsername assertion =>
      exact service.exchange_lawful workloadUsername assertion

end Law

section Verdict

variable {outcome : Stage → Option Outcome} {stages : List Stage}

/-- The stages are passed up to one that ends with `failure`. -/
def FirstFailure (outcome : Stage → Option Outcome) (stages : List Stage)
    (failure : Outcome) : Prop :=
  ∃ earlier stage later, stages = earlier ++ stage :: later ∧
    (∀ passed ∈ earlier, outcome passed = some .passed) ∧ outcome stage = some failure

theorem firstFailure_cons {stage : Stage} {failure : Outcome} :
    FirstFailure outcome (stage :: stages) failure ↔
      outcome stage = some failure ∨
        outcome stage = some .passed ∧ FirstFailure outcome stages failure := by
  constructor
  · rintro ⟨_ | ⟨first, earlier⟩, failing, later, split, passed, failed⟩
    · cases split
      exact Or.inl failed
    · cases split
      rw [List.forall_mem_cons] at passed
      exact Or.inr ⟨passed.1, earlier, failing, later, rfl, passed.2, failed⟩
  · rintro (failed | ⟨first, earlier, failing, later, rfl, passed, failed⟩)
    · exact ⟨[], stage, stages, rfl, by simp, failed⟩
    · refine ⟨stage :: earlier, failing, later, rfl, ?_, failed⟩
      rw [List.forall_mem_cons]
      exact ⟨first, passed⟩

theorem not_firstFailure_nil {failure : Outcome} : ¬ FirstFailure outcome [] failure := by
  rintro ⟨earlier, stage, later, split, _⟩
  simp at split

/-- Success means that every stage has passed. -/
theorem verdict_eq_ok_iff :
    verdict (stages.map outcome) = some (.ok ()) ↔
      ∀ stage ∈ stages, outcome stage = some .passed := by
  induction stages with
  | nil => simp
  | cons stage stages inductionHypothesis =>
      rw [List.map_cons, List.forall_mem_cons]
      rcases outcome stage with _ | _ | _ | _
      · simp
      · simp [inductionHypothesis]
      · simp
      · simp

/-- The outcome that an error reports. -/
@[simp]
def failedOutcome : ExchangeError → Outcome
  | .unauthorized => .rejected
  | .unavailable => .unavailable

/-- An error reports the first stage that has not passed. -/
theorem verdict_eq_error_iff (failure : ExchangeError) :
    verdict (stages.map outcome) = some (.error failure) ↔
      FirstFailure outcome stages (failedOutcome failure) := by
  induction stages with
  | nil => simp [not_firstFailure_nil]
  | cons stage stages inductionHypothesis =>
      rw [List.map_cons, firstFailure_cons]
      rcases outcome stage with _ | _ | _ | _
      · simp
      · cases failure <;> simp [inductionHypothesis]
      · cases failure <;> simp
      · cases failure <;> simp

end Verdict

section Uses

variable {request : Request} {events later : List (Event Answer)} {jti : String}
  {expiresAt : Int}

/-- The operation is a `use_once`. -/
def isUse : Event Answer → Bool
  | ⟨.useOnce _ _, _⟩ => true
  | _ => false

theorem useAnswer_eq_none_iff :
    useAnswer events = none ↔ ∀ event ∈ events, isUse event = false := by
  induction events with
  | nil => simp
  | cons event events inductionHypothesis =>
      rcases event with ⟨op, answer⟩
      cases op <;> simp [isUse, inductionHypothesis]

theorem mem_of_useAnswer {answer : Except ReplayError Unit}
    (used : useAnswer events = some answer) :
    ∃ jti expiresAt, (⟨.useOnce jti expiresAt, answer⟩ : Event Answer) ∈ events := by
  induction events with
  | nil => contradiction
  | cons event events inductionHypothesis =>
      rcases event with ⟨op, received⟩
      by_cases isUse : ∃ jti expiresAt, op = .useOnce jti expiresAt
      · rcases isUse with ⟨jti, expiresAt, rfl⟩
        rw [useAnswer, Option.some.injEq] at used
        subst used
        exact ⟨jti, expiresAt, List.mem_cons_self⟩
      · have skipped : useAnswer (⟨op, received⟩ :: events) = useAnswer events := by
          cases op <;> simp_all
        rw [skipped] at used
        rcases inductionHypothesis used with ⟨jti, expiresAt, member⟩
        exact ⟨jti, expiresAt, List.mem_cons_of_mem _ member⟩

/-- Of the uses of which none follows another there is at most one. -/
theorem countP_isUse_le_one
    (first : ∀ before event after, events = before ++ event :: after → isUse event = true →
      ∀ earlier ∈ before, isUse earlier = false) :
    events.countP isUse ≤ 1 := by
  induction events with
  | nil => simp
  | cons event events inductionHypothesis =>
      cases used : isUse event with
      | false =>
          rw [List.countP_cons_of_neg (by simp [used])]
          apply inductionHypothesis
          intro before other after split isUse earlier member
          exact first (event :: before) other after (by rw [split, List.cons_append]) isUse
            earlier (List.mem_cons_of_mem _ member)
      | true =>
          have none : events.countP isUse = 0 := by
            rw [List.countP_eq_zero]
            intro other member otherUsed
            rcases List.append_of_mem member with ⟨before, after, split⟩
            have contrary := first (event :: before) other after
              (by rw [split, List.cons_append]) otherUsed event List.mem_cons_self
            rw [used] at contrary
            contradiction
          rw [List.countP_cons_of_pos used, none]

/-- An admission is not lost by further operations. -/
theorem Request.Admits.append (admitted : request.Admits events jti expiresAt) :
    request.Admits (events ++ later) jti expiresAt := by
  cases request with
  | github service assertion =>
      rcases admitted with ⟨claims, identity, verified, rest⟩
      exact ⟨claims, identity, answerTo_append later verified, rest⟩
  | oidc service assertion =>
      rcases admitted with ⟨claims, task, verified, rest⟩
      exact ⟨claims, task, answerTo_append later verified, rest⟩
  | workload service assertion =>
      rcases admitted with ⟨username, identity, task, claims, now, reviewed, authorized, profile,
        clock, rest⟩
      exact ⟨username, identity, task, claims, now, answerTo_append later reviewed, authorized,
        profile, answerTo_append later clock, rest⟩
  | browserHop1 service workloadUsername assertion =>
      rcases admitted with ⟨caller, claims, authorized, role, verified, rest⟩
      exact ⟨caller, claims, authorized, role, answerTo_append later verified, rest⟩

/-- A request for workload roles is not admitted to the ledger. -/
theorem Request.RoleProfile.not_admits (profile : request.RoleProfile events) :
    ¬ request.Admits events jti expiresAt := by
  intro admitted
  cases request with
  | workload service assertion =>
      rcases profile with ⟨selected, selectedEq, roles⟩
      rcases admitted with ⟨username, identity, task, _, _, reviewed, authorized, bound, _⟩
      rw [WorkloadExchangeService.selected, reviewed] at selectedEq
      simp only [authorized, Option.some.injEq] at selectedEq
      rw [← selectedEq, bound] at roles
      contradiction
  | github => exact profile
  | oidc => exact profile
  | browserHop1 => exact profile

end Uses

/-- The law of the services for what an exchange has done so far. -/
structure StageLaw (request : Request) (events : List (Event Answer))
    (target : ServiceProgram (Except ExchangeError String)) : Prop where
  once : events.countP isUse ≤ 1
  admitted : ∀ before jti expiresAt answer after,
    events = before ++ ⟨.useOnce jti expiresAt, answer⟩ :: after →
      request.Admits before jti expiresAt
  signed : ∀ before document answer after,
    events = before ++ ⟨.sign document, answer⟩ :: after →
      (∃ jti expiresAt, ⟨.useOnce jti expiresAt, .ok ()⟩ ∈ before) ∨ request.RoleProfile before
  roleProfile : request.RoleProfile events → ∀ event ∈ events, isUse event = false
  issued : ∀ result, target = .done result → ((∃ token, result = .ok token) ↔
    ∀ stage ∈ request.stages events, request.outcome events stage = some .passed)
  unavailable : ∀ result, target = .done result → (result = .error .unavailable ↔
    FirstFailure (request.outcome events) (request.stages events) .unavailable)
  unauthorized : ∀ result, target = .done result → (result = .error .unauthorized ↔
    FirstFailure (request.outcome events) (request.stages events) .rejected)

theorem stageLaw_of_path {request : Request} {events : List (Event Answer)}
    {target : ServiceProgram (Except ExchangeError String)}
    (path : Program.Path request.exchange events target) : StageLaw request events target := by
  have lawful := request.exchange_lawful
  have admitted : ∀ before jti expiresAt answer after,
      events = before ++ ⟨.useOnce jti expiresAt, answer⟩ :: after →
        useAnswer before = none ∧ request.Admits before jti expiresAt := by
    rintro before jti expiresAt answer after rfl
    exact lawful.operation path
  have decided : ∀ result, target = .done result →
      verdict ((request.stages events).map (request.outcome events)) =
        some (withoutToken result) := by
    rintro result rfl
    exact lawful.result path
  refine ⟨?_, ?_, ?_, ?_, ?_, ?_, ?_⟩
  · apply countP_isUse_le_one
    rintro before ⟨op, answer⟩ after split used
    cases op with
    | useOnce jti expiresAt =>
        exact useAnswer_eq_none_iff.mp (admitted before jti expiresAt answer after split).1
    | _ => contradiction
  · intro before jti expiresAt answer after split
    exact (admitted before jti expiresAt answer after split).2
  · rintro before document answer after rfl
    have allowed : request.Allows before (.sign document) := lawful.operation path
    rcases allowed with used | profile
    · exact Or.inl (mem_of_useAnswer used)
    · exact Or.inr profile
  · rintro profile ⟨op, answer⟩ member
    cases op with
    | useOnce jti expiresAt =>
        rcases List.append_of_mem member with ⟨before, after, split⟩
        have admits := (admitted before jti expiresAt answer after split).2
        rw [split] at profile
        exact absurd admits.append profile.not_admits
    | _ => rfl
  · intro result returned
    rw [← verdict_eq_ok_iff, decided result returned]
    cases result <;> simp
  · intro result returned
    apply Iff.trans _ (verdict_eq_error_iff .unavailable)
    rw [decided result returned]
    cases result <;> simp
  · intro result returned
    apply Iff.trans _ (verdict_eq_error_iff .unauthorized)
    rw [decided result returned]
    cases result <;> simp

end OidcExchange.Service
