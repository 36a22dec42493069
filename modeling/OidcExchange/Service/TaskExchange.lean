import OidcExchange.Keys.Publication
import OidcExchange.Replay.Refinement
import OidcExchange.Service.ReplayKeys

/-!
# Task tokens from healthy dependencies

A workload exchange for a task token, with every dependency in good health: TokenReview
answers, the ledger runs against a server that answers every request, and the signing
key is inside its window.  The exchange itself bounds the expiry of the projected token
only from below; the ledger also bounds it from above and reports what it cannot retain
as an outage.
-/

namespace OidcExchange.Service

open OidcExchange.Keys OidcExchange.Process OidcExchange.Replay
open OidcExchange.Workload

/-- Healthy dependencies, and the clock readings of one exchange: `checkedAt` is read for its
own checks, `usedAt` by the ledger, and `signedAt` by the key ring. -/
structure Healthy {E R : Type} (parseTime : String → Option DateTime)
    (keys : KeyLibrary E R) where
  platform : Platform
  reviews : String → String → Except ReviewError String
  taskKeys : LoadedKeyRing parseTime (es256Format keys)
  library : SigningLibrary E R Document
  checkedAt : Nat
  usedAt : DateTime
  signedAt : DateTime
  address : ∀ jti, platform.itemUrl (leaseName platform jti) = some (leaseName platform jti)
  inWindow : taskKeys.ring.currentNotBefore ≤ signedAt ∧ signedAt < taskKeys.ring.currentNotAfter
  toDer : ∀ key, ∃ der, library.toPkcs8Der key = some der
  encodes : ∀ header claims der, ∃ token, library.encode header claims der = some token

variable {E R : Type} {parseTime : String → Option DateTime} {keys : KeyLibrary E R}

namespace Healthy

/-- One operation of the exchange.  A use of the ledger runs its program against the server. -/
def perform (healthy : Healthy parseTime keys) (before : World Unit Unit) :
    (op : Op) → Answer op → World Unit Unit → Prop
  | .review token audience, answer, after =>
      answer = healthy.reviews token audience ∧ after = before
  | .currentTimestamp, answer, after => answer = healthy.checkedAt ∧ after = before
  | .useOnce jti expiresAt, answer, after =>
      Executes (exactApi healthy.platform) () (Replay.useOnce healthy.platform jti expiresAt)
        { before with clock := healthy.usedAt } after answer
  | .sign document, answer, after =>
      answer = (healthy.taskKeys.ring.signAt healthy.library (es256Signing healthy.library)
        document healthy.signedAt).toOption ∧ after = before
  | _, _, after => after = before

def services (healthy : Healthy parseTime keys) : Machine Unit Answer (World Unit Unit) where
  perform _ := healthy.perform
  cancel _ _ _ _ := False
  environment _ _ := False

/-- The key ring signs whatever it is given. -/
theorem signs (healthy : Healthy parseTime keys) (document : Document) :
    ∃ token, healthy.taskKeys.ring.signAt healthy.library (es256Signing healthy.library) document
      healthy.signedAt = .ok token := by
  rcases healthy.taskKeys.current_lookup with ⟨key, found⟩
  rcases healthy.toDer key with ⟨der, encodedKey⟩
  rcases healthy.encodes (healthy.taskKeys.ring.header (es256Signing healthy.library)) document der
    with ⟨token, encoded⟩
  exact ⟨token, KeyRing.signAt_ok healthy.inWindow.1 healthy.inWindow.2 found encodedKey encoded⟩

/-- Every operation is answered. -/
theorem progress (healthy : Healthy parseTime keys) (before : World Unit Unit) (op : Op)
    (unbounded : before.verifiedAt () = none) :
    ∃ answer after, healthy.services.perform () before op answer after ∧
      after.verifiedAt () = none := by
  cases op with
  | verify assertion => exact ⟨.error .invalid, before, rfl, unbounded⟩
  | verifyOidc assertion => exact ⟨.error .invalid, before, rfl, unbounded⟩
  | review token audience => exact ⟨_, before, ⟨rfl, rfl⟩, unbounded⟩
  | verifyBrowserHop1 assertion => exact ⟨none, before, rfl, unbounded⟩
  | useOnce jti expiresAt =>
      have start : ({ before with clock := healthy.usedAt } : World Unit Unit).verifiedAt () = none ∧
          ({ before with clock := healthy.usedAt } : World Unit Unit).clock = healthy.usedAt :=
        ⟨unbounded, rfl⟩
      rcases exists_executes (Replay.useOnce healthy.platform jti expiresAt) _
        (exactApi_progress healthy.usedAt) start with ⟨after, answer, executes, still, _⟩
      exact ⟨answer, after, executes, still⟩
  | currentTimestamp => exact ⟨_, before, ⟨rfl, rfl⟩, unbounded⟩
  | newUuid => exact ⟨"", before, rfl, unbounded⟩
  | sign document => exact ⟨_, before, ⟨rfl, rfl⟩, unbounded⟩
  | count profile counter => exact ⟨(), before, rfl, unbounded⟩

end Healthy

/-- The projected token passes the checks of the exchange: TokenReview accepts it for a username
that the policy maps to a task, and its claims are valid. -/
structure PassesChecks (healthy : Healthy parseTime keys) (service : WorkloadExchangeService)
    (assertion : String) (claims : ProjectedTokenClaims) : Prop where
  mapped : ∃ username identity task,
    healthy.reviews assertion service.inputAudience = .ok username ∧
      service.policy.authorize username = .ok identity ∧ identity.task = some task
  decoded : service.projectedClaims assertion = some claims
  valid : projectedClaimsValid claims healthy.checkedAt = true

/-- The ledger has recorded uses of other keys only, at the latest when it reads the clock. -/
structure UnusedKey (healthy : Healthy parseTime keys) (world : World Unit Unit) (jti : String) :
    Prop where
  entries : ∃ entries, Agrees healthy.platform entries world ∧
    entries (leaseName healthy.platform jti) = none
  past : world.clock ≤ healthy.usedAt
  unbounded : world.verifiedAt () = none

/-- The exchange finishes, and always with a token. -/
def Served (healthy : Healthy parseTime keys) (service : WorkloadExchangeService)
    (assertion : String) (world : World Unit Unit) : Prop :=
  (∃ after result, Executes healthy.services () (service.exchange assertion) world after result) ∧
    ∀ after result, Executes healthy.services () (service.exchange assertion) world after result →
      ∃ token, result = .ok token

section Run

variable {healthy : Healthy parseTime keys} {service : WorkloadExchangeService}
  {assertion : String} {claims : ProjectedTokenClaims} {world : World Unit Unit}

/-- An unused key is accepted exactly if its expiry can be retained. -/
theorem useOnce_ensures (unused : UnusedKey healthy world claims.jti) :
    Ensures (exactApi healthy.platform) ()
      (Replay.useOnce healthy.platform claims.jti claims.exp)
      { world with clock := healthy.usedAt } fun _ result =>
        (Retainable claims.exp healthy.usedAt.timestamp ∧ result = .ok ()) ∨
          (¬Retainable claims.exp healthy.usedAt.timestamp ∧ result = .error .unavailable) := by
  rcases unused.entries with ⟨entries, agrees, absent⟩
  apply (useOnceWith_ensures healthy.address keepsEntries_cleanupOne claims.jti claims.exp
    (agrees.later unused.past)).mono
  rintro after _ ⟨rfl, -⟩
  rw [← preparedLease_isOk_iff healthy.platform claims.jti, abstractUse]
  cases prepared : preparedLease healthy.platform claims.jti claims.exp healthy.usedAt with
  | error failure => simp
  | ok lease => simp [absent]

/-- The run of the exchange: everything but the ledger lets it pass. -/
theorem exchange_ensures (passes : PassesChecks healthy service assertion claims)
    (unused : UnusedKey healthy world claims.jti) :
    Ensures healthy.services () (service.exchange assertion) world fun _ result =>
      (Retainable claims.exp healthy.usedAt.timestamp ∧ ∃ token, result = .ok token) ∨
        (¬Retainable claims.exp healthy.usedAt.timestamp ∧ result = .error .unavailable) := by
  rcases passes.mapped with ⟨username, identity, task, reviewed, authorized, bound⟩
  apply ensures_call
  rintro _ _ rfl
  apply ensures_call
  rintro _ _ ⟨rfl, rfl⟩
  simp only [Program.bind_done, reviewed, authorized]
  apply ensures_call
  rintro _ _ ⟨rfl, rfl⟩
  simp only [Program.bind_done, bound, passes.decoded, passes.valid, Bool.true_eq_false,
    ↓reduceIte]
  apply ensures_call
  intro answer used executes
  rcases (useOnce_ensures unused).result used answer executes with
    ⟨retainable, rfl⟩ | ⟨refused, rfl⟩
  · apply ensures_call
    intro uuid _ same
    apply ensures_call
    rintro _ _ ⟨rfl, rfl⟩
    rcases healthy.signs _ with ⟨token, signed⟩
    rw [signed]
    apply ensures_call
    rintro _ _ rfl
    exact ensures_done (Or.inl ⟨retainable, token, rfl⟩)
  · apply ensures_call
    rintro _ _ rfl
    exact ensures_done (Or.inr ⟨refused, rfl⟩)

theorem exists_exchange (unbounded : world.verifiedAt () = none) :
    ∃ after result,
      Executes healthy.services () (service.exchange assertion) world after result := by
  rcases exists_executes (service.exchange assertion) (fun world => world.verifiedAt () = none)
    (fun before op => healthy.progress before op) unbounded with ⟨after, result, executes, _⟩
  exact ⟨after, result, executes⟩

/-- With healthy dependencies, a task exchange whose checks pass is served exactly if the ledger
can retain the expiry of the projected token. -/
theorem task_exchange_served_iff (passes : PassesChecks healthy service assertion claims)
    (unused : UnusedKey healthy world claims.jti) :
    Served healthy service assertion world ↔
      Retainable claims.exp healthy.usedAt.timestamp := by
  have exists_run : ∃ after result,
      Executes healthy.services () (service.exchange assertion) world after result :=
    exists_exchange unused.unbounded
  constructor
  · rintro ⟨-, served⟩
    rcases exists_run with ⟨after, result, executes⟩
    rcases served after result executes with ⟨token, rfl⟩
    rcases (exchange_ensures passes unused).result after _ executes with
      ⟨retainable, _⟩ | ⟨_, impossible⟩
    · exact retainable
    · contradiction
  · intro retainable
    refine ⟨exists_run, ?_⟩
    intro after result executes
    rcases (exchange_ensures passes unused).result after result executes with
      ⟨_, token⟩ | ⟨refused, _⟩
    · exact token
    · contradiction

end Run

/-- A platform that knows the digest of the key `a` and the second 1000000. -/
def taskPlatform : Platform where
  sha256 := Replay.sampleSha256
  toRfc3339Micros _ := "1970-01-12T13:46:40.000000Z"
  parseFromRfc3339 text :=
    if text = "1970-01-12T13:46:40.000000Z" then some (.ofSeconds 1000000) else none
  itemUrl := some

/-- Healthy dependencies at the second 1000000. -/
def taskHealthy : Healthy sampleTime sampleKeys where
  platform := taskPlatform
  reviews token audience :=
    if token = "projected" ∧ audience = "identity" then
      .ok "system:serviceaccount:build:runner"
    else
      .error .invalid
  taskKeys := sampleKeyRing
  library := sampleSigning
  checkedAt := 1000000
  usedAt := .ofSeconds 1000000
  signedAt := .ofSeconds 1000000
  address _ := rfl
  inWindow := by decide
  toDer _ := ⟨_, rfl⟩
  encodes _ _ _ := ⟨_, rfl⟩

/-- The workload service with projected tokens of this expiry. -/
def taskService (expiresAt : Int) : WorkloadExchangeService :=
  { runnerService "a" with projectedClaims := fun _ => some { jti := "a", exp := expiresAt } }

theorem taskService_passesChecks {expiresAt : Int}
    (valid : projectedClaimsValid { jti := "a", exp := expiresAt } 1000000 = true) :
    PassesChecks taskHealthy (taskService expiresAt) "projected"
      { jti := "a", exp := expiresAt } where
  mapped := ⟨_, _, _, rfl, authorize_runner, rfl⟩
  decoded := rfl
  valid := valid

theorem taskHealthy_unusedKey (jti : String) :
    UnusedKey taskHealthy (.start (.ofSeconds 1000000)) jti :=
  ⟨⟨_, agrees_start _, rfl⟩, by decide, rfl⟩

theorem task_exchange_served_iff_sample :
    Served taskHealthy (taskService 1000100) "projected" (.start (.ofSeconds 1000000)) := by
  have passes : PassesChecks taskHealthy (taskService 1000100) "projected"
      { jti := "a", exp := 1000100 } := taskService_passesChecks (by decide +kernel)
  exact (task_exchange_served_iff passes (taskHealthy_unusedKey "a")).mpr
    ⟨by decide, by decide, by decide⟩

/-- A projected token that lives for an hour. -/
theorem hour_token_unavailable :
    PassesChecks taskHealthy (taskService 1003600) "projected" { jti := "a", exp := 1003600 } ∧
      UnusedKey taskHealthy (.start (.ofSeconds 1000000)) "a" ∧
      ∃ after, Executes taskHealthy.services () ((taskService 1003600).exchange "projected")
        (.start (.ofSeconds 1000000)) after (.error .unavailable) := by
  have passes : PassesChecks taskHealthy (taskService 1003600) "projected"
      { jti := "a", exp := 1003600 } := taskService_passesChecks (by decide +kernel)
  have unused := taskHealthy_unusedKey "a"
  have runs : ∃ after result, Executes taskHealthy.services ()
      ((taskService 1003600).exchange "projected") (.start (.ofSeconds 1000000)) after result :=
    exists_exchange unused.unbounded
  refine ⟨passes, unused, ?_⟩
  rcases runs with ⟨after, result, executes⟩
  rcases (exchange_ensures passes unused).result after result executes with
    ⟨retainable, _⟩ | ⟨_, rfl⟩
  · exact absurd retainable.bounded (by decide)
  · exact ⟨after, executes⟩

end OidcExchange.Service
