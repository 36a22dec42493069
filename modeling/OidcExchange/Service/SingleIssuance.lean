import OidcExchange.GitHub.Verify
import OidcExchange.Replay.AtMostOnce
import OidcExchange.Service.Exchange

/-!
# Single issuance of the GitHub exchange

The GitHub exchange with its verifier and the Kubernetes ledger in place of the
abstract dependencies, run by any number of replicas on one clock.  Other
services may use the same ledger meanwhile.

A lease outlives its assertion by at least 299 s.  The verifier accepts an
assertion up to 30 s after its expiry, and a lease is written less than 269 s
after that, so no second exchange of the assertion can find the lease expired.
-/

namespace OidcExchange.Service

open OidcExchange.GitHub OidcExchange.Process OidcExchange.Replay
open OidcExchange.Jwks (VerifyError)

/-- The operations of a GitHub exchange besides those of the ledger. -/
inductive ExchangeOp (K : Type) where
  | verifier (op : VerifyOp K)
  | service (op : Op)

@[reducible]
def ExchangeAnswer (K : Type) : ExchangeOp K → Type
  | .verifier op => VerifyAnswer K op
  | .service op => Answer op

variable {ι ρ K : Type}

/-- The verifier and the ledger behind the operations of the services. -/
def linked (platform : Platform) (library : JwtLibrary K) (audience : String) :
    (op : Op) → LedgerProgram (ExchangeAnswer K) (Answer op)
  | .verify assertion =>
      (GitHub.verify library audience assertion).interpret fun op =>
        .call (.other (.verifier op)) .done
  | .useOnce jti expiresAt => Replay.useOnce platform jti expiresAt
  | op => .call (.other (.service op)) .done

/-- What a replica does: a GitHub exchange, or a use of the ledger by another
service. -/
inductive Work where
  | exchange (service : ExchangeService) (audience assertion : String)
  | use (jti : String) (expiresAt : Int)

/-- The program of a piece of work; only an exchange returns a token. -/
def Work.program (platform : Platform) (library : JwtLibrary K) :
    Work → LedgerProgram (ExchangeAnswer K) (Option (Except ExchangeError String))
  | .exchange service audience assertion =>
      ((service.exchange assertion).interpret (linked platform library audience)).bind
        fun result => .done (some result)
  | .use jti expiresAt => (Replay.useOnce platform jti expiresAt).bind fun _ => .done none

/-- What is answered besides the ledger's operations.  Key lookups and signatures
may be answered in any way; verification reads the common clock. -/
def exchangeAnswers (library : JwtLibrary K) (clock : DateTime) :
    (op : ExchangeOp K) → ExchangeAnswer K op → Prop
  | .verifier (.decode audience assertion key), answer =>
      answer = library.decode clock.timestamp audience assertion key
  | .verifier .utcTimestamp, answer => answer = clock.timestamp
  | _, _ => True

/-- The decoding of the assertion starts the delay bound of the exchange. -/
def startsDelay : ExchangeOp K → Bool
  | .verifier (.decode _ _ _) => true
  | _ => false

/-- The replicas on one non-decreasing clock. -/
def oneClock (platform : Platform) (library : JwtLibrary K) (replica : ι → ρ)
    (foreign : String → Prop) : Setting ι ρ (ExchangeAnswer K) where
  platform := platform
  replica := replica
  foreign := foreign
  clockMay earlier later := earlier ≤ later
  answers := exchangeAnswers library
  verifies := startsDelay

/-- `jsonwebtoken` with a leeway of 30 s: no assertion is accepted that expired
more than 30 s before. -/
def RejectsExpired (library : JwtLibrary K) : Prop :=
  ∀ now audience assertion key claims, library.accepts now audience assertion key = true →
    library.payload assertion = some claims → ¬ claims.exp < now - 30

section Safety

variable {platform : Platform} {library : JwtLibrary K} {replica : ι → ρ}
  {foreign : String → Prop} {world : World ι ρ} {caller : ι}

/-- The call has not started to use the ledger. -/
def Unused [DecidableEq ι] (caller : ι) (world : World ι ρ) : Prop :=
  world.reading caller = none ∧ world.deleteCount caller = 0

/-- The call has verified claims at a second at which they had not expired. -/
def Verified (caller : ι) (claims : GitHubClaims) (world : World ι ρ) : Prop :=
  ∃ second, world.verifiedAt caller = some second ∧ ¬ claims.exp < second - 30

theorem framed_verified {claims : GitHubClaims} :
    Framed (ρ := ρ) caller (Verified caller claims) := by
  rintro before after moved ⟨second, verified, valid⟩
  exact ⟨second, moved.verifiedAt.trans verified, valid⟩

/-- An exchange that returns a token has verified the claims of its assertion in
time and has used their replay key. -/
def Issues (S : Setting ι ρ (ExchangeAnswer K)) (library : JwtLibrary K) (caller : ι)
    (assertion : String) (world : World ι ρ) : Prop :=
  ∃ claims, library.payload assertion = some claims ∧ Verified caller claims world ∧
    Used S caller claims.jti claims.exp world

theorem framed_issues {S : Setting ι ρ (ExchangeAnswer K)} {assertion : String} :
    Framed caller (Issues S library caller assertion) := by
  rintro before after moved ⟨claims, payload, verified, used⟩
  exact ⟨claims, payload, framed_verified before after moved verified,
    framed_used before after moved used⟩

variable [DecidableEq ι]

theorem kept_unused : Kept (ρ := ρ) caller (Unused caller) := by
  rintro before after moved ⟨reading, none⟩
  have bound := moved.deleteCount
  exact ⟨moved.reading.trans reading, by omega⟩

variable [DecidableEq ρ]

/-- An operation of the services neither starts the delay nor concerns the
ledger. -/
theorem service_safe {α : Type} {fact : World ι ρ → Prop} {post : World ι ρ → α → Prop}
    (op : Op) {next : Answer op → LedgerProgram (ExchangeAnswer K) α}
    (kept : Kept caller fact) (holds : fact world)
    (rest : ∀ answer after, fact after →
      (discipline (oneClock platform library replica foreign)).Safe caller post (next answer)
        after) :
    (discipline (oneClock platform library replica foreign)).Safe caller post
      (.call (.other (.service op)) next) world := by
  apply safe_call_kept (S := oneClock platform library replica foreign) (.other (.service op))
    kept holds rfl (fun _ _ _ => trivial)
  intro before answer after holds _
  exact rest answer after holds

/-- A successful verification returns the claims of the assertion, in time. -/
theorem verify_safe (rejects : RejectsExpired library) (audience assertion : String)
    (unused : Unused caller world) :
    (discipline (oneClock platform library replica foreign)).Safe caller
      (fun world result => Unused caller world ∧ ∀ claims, result = .ok claims →
        library.payload assertion = some claims ∧ Verified caller claims world)
      (linked platform library audience (.verify assertion)) world := by
  rw [linked, GitHub.verify]
  split
  · exact ⟨unused, by simp⟩
  split
  · exact ⟨unused, by simp⟩
  split
  · exact ⟨unused, by simp⟩
  split
  · exact ⟨unused, by simp⟩
  rename_i kid _
  apply safe_call_kept (S := oneClock platform library replica foreign)
    (.other (.verifier (.key kid))) kept_unused unused rfl (fun _ _ _ => trivial)
  rintro before (_ | key) after unused effect
  · exact ⟨unused, by simp⟩
  apply safe_call
  · intro before _ _
    exact trivial
  rintro before answer after moved - ⟨decoded, rfl⟩
  have unused : Unused caller (before.verified caller) := kept_unused after before moved unused
  rcases answer with _ | claims
  · exact ⟨unused, by simp⟩
  have decoded : library.decode before.clock.timestamp audience assertion key = some claims :=
    decoded.symm
  rw [JwtLibrary.decode, Option.ite_none_right_eq_some] at decoded
  have verified : Verified caller claims (before.verified caller) :=
    ⟨before.clock.timestamp, Function.update_self _ _ _,
      rejects _ _ _ _ _ decoded.1 decoded.2⟩
  apply safe_call_kept (S := oneClock platform library replica foreign)
    (.other (.verifier .utcTimestamp)) (kept_unused.and framed_verified.kept) ⟨unused, verified⟩
    rfl (fun _ _ _ => trivial)
  rintro before now after ⟨unused, verified⟩ effect
  dsimp only [Program.bind_done]
  split
  · refine ⟨unused, ?_⟩
    rintro _ ⟨⟩
    exact ⟨decoded.2, verified⟩
  · exact ⟨unused, by simp⟩

/-- A refused exchange has issued nothing. -/
theorem refuse_safe {audience assertion : String} (counter : Counter) (failure : ExchangeError) :
    (discipline (oneClock platform library replica foreign)).Safe caller
      (fun world result => ∀ token, result = .ok token →
        Issues (oneClock platform library replica foreign) library caller assertion world)
      ((refuse .github counter failure).interpret (linked platform library audience)) world := by
  have kept : Kept (ρ := ρ) caller fun _ => True := fun _ _ _ _ => trivial
  apply service_safe (.count .github counter) kept trivial
  intro answer after _ token impossible
  contradiction

theorem exchange_safe (rejects : RejectsExpired library) (service : ExchangeService)
    (audience assertion : String) (unused : Unused caller world) :
    (discipline (oneClock platform library replica foreign)).Safe caller
      (fun world result => ∀ token, result = .ok token →
        Issues (oneClock platform library replica foreign) library caller assertion world)
      ((service.exchange assertion).interpret (linked platform library audience)) world := by
  apply service_safe (.count .github .requests) kept_unused unused
  intro _ world unused
  apply (verify_safe rejects audience assertion unused).bind
  rintro world ((_ | _) | claims) ⟨unused, verified⟩
  · exact refuse_safe .denied .unauthorized
  · exact refuse_safe .errors .unavailable
  rcases verified claims rfl with ⟨payload, verified⟩
  cases authorized : service.policy.authorize claims with
  | error failure =>
      simp only [Program.bind_done, authorized]
      exact refuse_safe .denied .unauthorized
  | ok identity =>
      simp only [Program.bind_done, authorized]
      apply (useOnce_safe (S := oneClock platform library replica foreign) claims.jti claims.exp
        framed_verified (fun _ known => known) verified
        unused.1 unused.2).bind
      rintro world ((_ | _ | _) | _) accepted
      · exact refuse_safe .replayed .unauthorized
      · exact refuse_safe .errors .unavailable
      · exact refuse_safe .errors .unavailable
      · have issues : Issues (oneClock platform library replica foreign) library caller assertion
            world := ⟨claims, payload, accepted rfl⟩
        apply service_safe .currentTimestamp framed_issues.kept issues
        intro now world issues
        apply service_safe .newUuid framed_issues.kept issues
        intro jti world issues
        apply service_safe (.sign _) framed_issues.kept issues
        rintro (_ | token) world issues
        · exact refuse_safe .errors .unavailable
        · apply service_safe (.count .github .issued) framed_issues.kept issues
          intro _ world issues _ _
          exact issues

/-- What is known when a piece of work returns. -/
def Work.Returned (S : Setting ι ρ (ExchangeAnswer K)) (library : JwtLibrary K) (caller : ι)
    (world : World ι ρ) (result : Option (Except ExchangeError String)) : Work → Prop
  | .exchange _ _ assertion => ∀ token, result = some (.ok token) →
      Issues S library caller assertion world
  | .use _ _ => True

theorem Work.program_safe (rejects : RejectsExpired library) (work : Work)
    (unused : Unused caller world) :
    (discipline (oneClock platform library replica foreign)).Safe caller
      (fun world result =>
        work.Returned (oneClock platform library replica foreign) library caller world result)
      (work.program platform library) world := by
  cases work with
  | exchange service audience assertion =>
      apply (exchange_safe rejects service audience assertion unused).bind
      intro world result issues token returned
      exact issues token (Option.some.inj returned)
  | use jti expiresAt =>
      have framed : Framed (ρ := ρ) caller fun _ => True := fun _ _ _ _ => trivial
      apply (useOnce_safe (S := oneClock platform library replica foreign) jti expiresAt framed
        (fun _ _ => trivial) trivial unused.1 unused.2).bind
      intro world result _
      exact trivial

end Safety

section Runs

variable {platform : Platform} {library : JwtLibrary K} {replica : ι → ρ}
  {foreign : String → Prop} {work : ι → Work} {clock : DateTime}

/-- The clock does not run backwards. -/
theorem le_of_clockMay {earlier later : DateTime}
    (moves : Relation.ReflTransGen
      (oneClock (ι := ι) platform library replica foreign).clockMay earlier later) :
    earlier ≤ later := by
  induction moves with
  | refl => exact le_refl earlier.nanos
  | tail _ last inductionHypothesis =>
      have moved : _ ≤ _ := last
      rw [DateTime.le_iff] at *
      exact inductionHypothesis.trans moved

/-- A lease written by an exchange of the assertion cannot be outlived by another
exchange of it. -/
theorem not_outlived {earlier later : ι} {name : String} {expiresAt second : Int}
    {world : World ι ρ} (verified : world.verifiedAt later = some second)
    (valid : ¬ expiresAt < second - 30) :
    ¬ Outlived (oneClock platform library replica foreign) world name expiresAt earlier
      later := by
  rintro ⟨older, newer, _, expiry, _, retained, ⟨_, now, _, ended, moves⟩, inTime⟩
  have written := inTime second verified
  have monotone := le_of_clockMay moves
  rw [DateTime.le_iff] at retained ended monotone
  rw [DateTime.lt_iff] at written
  simp only [DateTime.ofSeconds, nanosPerSecond] at retained written
  omega

variable [DecidableEq ι] [DecidableEq ρ]
  {config : Config ι (Replay.Answer (ExchangeAnswer K)) (World ι ρ)
    (Option (Except ExchangeError String))}

/-- The pools that the replicas can reach. -/
def Replicas (platform : Platform) (library : JwtLibrary K) (replica : ι → ρ)
    (foreign : String → Prop) (work : ι → Work) (clock : DateTime)
    (config : Config ι (Replay.Answer (ExchangeAnswer K)) (World ι ρ)
      (Option (Except ExchangeError String))) : Prop :=
  Steps (api (oneClock platform library replica foreign))
    (.initial (.start clock) fun task => (work task).program platform library) config

/-- The exchange `task` was presented an assertion with this `jti` and expiry and
has answered with a token. -/
def Answered (library : JwtLibrary K) (work : ι → Work)
    (config : Config ι (Replay.Answer (ExchangeAnswer K)) (World ι ρ)
      (Option (Except ExchangeError String))) (task : ι) (jti : String) (expiresAt : Int) : Prop :=
  ∃ service audience assertion claims token,
    work task = .exchange service audience assertion ∧
      library.payload assertion = some claims ∧ claims.jti = jti ∧ claims.exp = expiresAt ∧
        config.tasks task = some (.done (some (.ok token)))

/-- An answered exchange has verified the assertion in time and used its key. -/
theorem issues_of_replicas (rejects : RejectsExpired library)
    (run : Replicas platform library replica foreign work clock config) :
    LedgerInvariant (oneClock platform library replica foreign) config.shared ∧
      ∀ task jti expiresAt, Answered library work config task jti expiresAt →
        Used (oneClock platform library replica foreign) task jti expiresAt config.shared ∧
          ∃ second, config.shared.verifiedAt task = some second ∧
            ¬ expiresAt < second - 30 := by
  have start : LedgerInvariant (oneClock platform library replica foreign) (.start clock) :=
    .start clock
  have safe : ∀ task, (discipline (oneClock platform library replica foreign)).Safe task
      (fun world result => (work task).Returned (oneClock platform library replica foreign)
        library task world result)
      ((work task).program platform library) (.start clock) :=
    fun task => (work task).program_safe rejects ⟨rfl, rfl⟩
  have stable : ∀ task, (discipline (oneClock platform library replica foreign)).Stable task
      (fun world result => (work task).Returned (oneClock platform library replica foreign)
        library task world result) := by
    intro task before after result moved returned
    cases workEq : work task with
    | exchange service audience assertion =>
        rw [workEq] at returned
        intro token ok
        exact framed_issues.kept before after moved (returned token ok)
    | use jti expiresAt => exact trivial
  refine ⟨((Discipline.Holds.initial start safe).steps run).invariant, ?_⟩
  rintro task _ _ ⟨service, audience, assertion, claims, token, workEq, payload, rfl, rfl, done⟩
  have returned : (work task).Returned (oneClock platform library replica foreign) library task
      config.shared (some (.ok token)) :=
    Discipline.settled_of_steps stable start safe run task _ done
  rw [workEq] at returned
  rcases returned token rfl with ⟨claims', payload', verified, used⟩
  rw [payload, Option.some.injEq] at payload'
  subst payload'
  exact ⟨used, verified⟩

/-- An assertion is answered with a token by at most one exchange, whatever the
replicas, the other services and the network do. -/
theorem single_issuance (faithful : Faithful platform foreign) (rejects : RejectsExpired library)
    (run : Replicas platform library replica foreign work clock config) {first second : ι}
    {jti : String} {expiresAt : Int}
    (firstAnswered : Answered library work config first jti expiresAt)
    (secondAnswered : Answered library work config second jti expiresAt) :
    first = second := by
  rcases issues_of_replicas rejects run with ⟨invariant, issued⟩
  rcases issued _ _ _ firstAnswered with ⟨firstUsed, _, firstVerified, firstValid⟩
  rcases issued _ _ _ secondAnswered with ⟨secondUsed, _, secondVerified, secondValid⟩
  by_contra different
  rcases outlived_of_used faithful invariant different firstUsed secondUsed with
    outlived | outlived
  · exact not_outlived secondVerified secondValid outlived
  · exact not_outlived firstVerified firstValid outlived

def sampleLibrary : JwtLibrary Unit where
  decodeHeader _ := some { alg := .rs256, typ := some "JWT", kid := some "key" }
  payload _ := some sampleClaims
  accepts now _ _ _ := decide (now ≤ sampleClaims.exp + 30)

theorem rejectsExpired_sampleLibrary : RejectsExpired sampleLibrary := by
  intro now audience assertion key claims accepted payload
  cases payload
  have inTime : now ≤ sampleClaims.exp + 30 := of_decide_eq_true accepted
  omega

def sampleWork (_ : Bool) : Work :=
  .exchange
    { policy := samplePolicy
      issuer := "https://identity.example.com"
      outputAudience := "steward"
      tokenTtl := 120 }
    "exchange" "assertion"

/-- Of two exchanges of one assertion the first is answered; then the second is
not. -/
theorem single_issuance_sample :
    ∃ config, Replicas samplePlatform sampleLibrary (fun _ : Bool => ()) (fun _ => False)
        sampleWork (.ofSeconds 900) config ∧
      Answered sampleLibrary sampleWork config false "a" 1000 ∧
      ¬ Answered sampleLibrary sampleWork config true "a" 1000 := by
  have run : ∃ config, Replicas samplePlatform sampleLibrary (fun _ : Bool => ())
        (fun _ => False) sampleWork (.ofSeconds 900) config ∧
      config.tasks false = some (.done (some (.ok "token"))) := by
    refine Steps.reach_perform false rfl () ⟨trivial, rfl⟩ ?_
    refine Steps.reach_perform false rfl (.ok ()) ⟨trivial, rfl⟩ ?_
    refine Steps.reach_perform false rfl (some sampleClaims) ⟨rfl, rfl⟩ ?_
    refine Steps.reach_perform false rfl (900 : Int) ⟨rfl, rfl⟩ ?_
    -- the ledger creates the lease; its cleanup gets no page
    refine Steps.reach_perform false rfl (DateTime.ofSeconds 900) ⟨rfl, rfl⟩ ?_
    refine Steps.reach_perform false rfl (some "token") rfl ?_
    refine Steps.reach_perform false rfl (some 201)
      (Or.inl ⟨rfl, .post "1" (Store.Versioned.fresh_of_notMem (by decide)) ?_ rfl⟩) ?_
    · rintro second ⟨⟩
      decide
    refine Steps.reach_perform false rfl none ⟨rfl, rfl⟩ ?_
    refine Steps.reach_perform false rfl (some "token") rfl ?_
    refine Steps.reach_perform false rfl none rfl ?_
    refine Steps.reach_perform false rfl () rfl ?_
    refine Steps.reach_perform false rfl (900 : Nat) ⟨trivial, rfl⟩ ?_
    refine Steps.reach_perform false rfl "uuid" ⟨trivial, rfl⟩ ?_
    refine Steps.reach_perform false rfl (some "token") ⟨trivial, rfl⟩ ?_
    refine Steps.reach_perform false rfl () ⟨trivial, rfl⟩ ?_
    exact ⟨_, .refl _, rfl⟩
  rcases run with ⟨config, run, done⟩
  have answered : Answered sampleLibrary sampleWork config false "a" 1000 :=
    ⟨_, _, _, _, _, rfl, rfl, rfl, rfl, done⟩
  refine ⟨config, run, answered, ?_⟩
  intro again
  have same := single_issuance faithful_samplePlatform rejectsExpired_sampleLibrary run answered
    again
  contradiction

end Runs

end OidcExchange.Service
