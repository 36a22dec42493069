import OidcExchange.Service.Stages

/-!
# Concurrent exchanges

Any number of exchanges over one replay ledger.  The ledger may be anything: its
states, its answers and what a dropped `use_once` leaves behind are arbitrary.
-/

namespace OidcExchange.Service

open OidcExchange.Process OidcExchange.Replay

variable {ι σ : Type}

/-- The transitions of a replay ledger: before, replay key, expiry, answer,
after. -/
abbrev LedgerRelation (σ : Type) :=
  σ → String → Int → Except ReplayError Unit → σ → Prop

/-- Only `use_once` moves the ledger. -/
def perform (ledger : LedgerRelation σ) (before : σ) : (op : Op) → Answer op → σ → Prop
  | .useOnce jti expiresAt, answer, after => ledger before jti expiresAt answer after
  | _, _, after => after = before

/-- The services over a ledger.  A `use_once` that is dropped may still take
effect. -/
def services (ledger : LedgerRelation σ) : Machine ι Answer σ where
  perform _ := perform ledger
  cancel _ before op after := after = before ∨
    ∃ jti expiresAt answer, op = .useOnce jti expiresAt ∧
      ledger before jti expiresAt answer after
  environment before after := after = before

variable [DecidableEq ι] {ledger : LedgerRelation σ} {requests : ι → Request} {start : σ}
  {config target : Config ι Answer σ (Except ExchangeError String)}

/-- An exchange that is about to use the ledger has not used it and is admitted. -/
theorem admits_of_running {task : ι} {jti : String} {expiresAt : Int}
    {next : Except ReplayError Unit → ServiceProgram (Except ExchangeError String)}
    (run : Steps (services ledger) (.initial start fun task => (requests task).exchange) config)
    (running : config.tasks task = some (.call (.useOnce jti expiresAt) next)) :
    useAnswer (config.history task) = none ∧
      (requests task).Admits (config.history task) jti expiresAt :=
  (Program.Lawful.path (requests task).exchange_lawful (path_of_steps run running)).1

/-- A step that moves the ledger belongs to an exchange that has been admitted. -/
theorem admits_of_step {label : Label ι Answer}
    (run : Steps (services ledger) (.initial start fun task => (requests task).exchange) config)
    (step : Step (services ledger) config label target)
    (moved : target.shared ≠ config.shared) :
    ∃ task jti expiresAt, (requests task).Admits (config.history task) jti expiresAt ∧
      ((∃ answer, label = .perform task ⟨.useOnce jti expiresAt, answer⟩) ∨
        label = .cancel task (.useOnce jti expiresAt)) := by
  cases step with
  | @perform task op next answer shared running effect =>
      cases op with
      | useOnce jti expiresAt =>
          exact ⟨task, jti, expiresAt, (admits_of_running run running).2, Or.inl ⟨answer, rfl⟩⟩
      | _ => exact absurd effect moved
  | @cancel task op next shared running dropped =>
      rcases dropped with same | ⟨jti, expiresAt, answer, rfl, _⟩
      · exact absurd same moved
      · exact ⟨task, jti, expiresAt, (admits_of_running run running).2, Or.inr rfl⟩
  | environment same => exact absurd same moved

/-- Histories only grow. -/
theorem history_of_step {label : Label ι Answer} (step : Step (services ledger) config label target)
    (task : ι) : ∃ later, target.history task = config.history task ++ later := by
  cases step with
  | @perform performer op next answer shared running effect =>
      by_cases same : task = performer
      · subst same
        exact ⟨_, Config.resume_history_self⟩
      · exact ⟨[], by rw [Config.resume_history_of_ne same, List.append_nil]⟩
  | cancel => exact ⟨[], (List.append_nil _).symm⟩
  | environment => exact ⟨[], (List.append_nil _).symm⟩

/-- As long as no request is admitted, the ledger is as it was. -/
theorem shared_eq_start
    (run : Steps (services ledger) (.initial start fun task => (requests task).exchange) config)
    (none : ∀ task jti expiresAt,
      ¬ (requests task).Admits (config.history task) jti expiresAt) :
    config.shared = start := by
  induction run with
  | refl => rfl
  | @tail source _ run last inductionHypothesis =>
      rcases last with ⟨label, step⟩
      have noneBefore : ∀ task jti expiresAt,
          ¬ (requests task).Admits (source.history task) jti expiresAt := by
        intro task jti expiresAt admitted
        rcases history_of_step step task with ⟨later, grown⟩
        apply none task jti expiresAt
        rw [grown]
        exact admitted.append
      rw [← inductionHypothesis noneBefore]
      by_contra moved
      rcases admits_of_step run step moved with ⟨task, jti, expiresAt, admitted, _⟩
      exact noneBefore task jti expiresAt admitted

/-- Every exchange keeps the stage law whatever its dependencies answer, and
across any interleaving only admitted exchanges move the ledger: requests that
are not verified and authorized leave the consumed keys as they were. -/
theorem exchange_stages
    (run : Steps (services ledger) (.initial start fun task => (requests task).exchange) config) :
    (∀ request events program, Program.Path (Request.exchange request) events program →
      StageLaw request events program) ∧
    (∀ label target, Step (services ledger) config label target →
      target.shared ≠ config.shared →
        ∃ task jti expiresAt, (requests task).Admits (config.history task) jti expiresAt ∧
          ((∃ answer, label = .perform task ⟨.useOnce jti expiresAt, answer⟩) ∨
            label = .cancel task (.useOnce jti expiresAt))) ∧
    ((∀ task jti expiresAt, ¬ (requests task).Admits (config.history task) jti expiresAt) →
      config.shared = start) :=
  ⟨fun _ _ _ path => stageLaw_of_path path,
    fun _ _ step moved => admits_of_step run step moved,
    shared_eq_start run⟩

/-- A ledger of consumed keys. -/
def consumedKeys : LedgerRelation (List String) := fun before jti _ answer after =>
  jti ∉ before ∧ answer = .ok () ∧ after = jti :: before ∨
    jti ∈ before ∧ answer = .error .replayed ∧ after = before

def sampleService : ExchangeService where
  policy := GitHub.samplePolicy
  issuer := "https://identity.example.com"
  outputAudience := "steward"
  tokenTtl := 120

def sampleRequests : Bool → Request
  | false => .github sampleService "assertion"
  | true => .github sampleService "forged"

/-- A genuine assertion is exchanged while a forged one is rejected. -/
theorem exchange_stages_sample :
    ∃ config, Steps (services consumedKeys)
        (.initial [] fun task => (sampleRequests task).exchange) config ∧
      config.tasks true = some (.done (.error .unauthorized)) ∧ config.shared = ["a"] ∧
      StageLaw (sampleRequests false) (config.history false) (.done (.ok "token")) := by
  have run : ∃ config, Steps (services consumedKeys)
        (.initial [] fun task => (sampleRequests task).exchange) config ∧
      config.tasks true = some (.done (.error .unauthorized)) ∧ config.shared = ["a"] ∧
      config.tasks false = some (.done (.ok "token")) := by
    refine Steps.reach_perform false rfl () rfl ?_
    refine Steps.reach_perform true rfl () rfl ?_
    refine Steps.reach_perform true rfl (.error .invalid) rfl ?_
    refine Steps.reach_perform false rfl (.ok GitHub.sampleClaims) rfl ?_
    refine Steps.reach_perform false rfl (.ok ()) (Or.inl ⟨List.not_mem_nil, rfl, rfl⟩) ?_
    refine Steps.reach_perform true rfl () rfl ?_
    refine Steps.reach_perform false rfl (900 : Nat) rfl ?_
    refine Steps.reach_perform false rfl "uuid" rfl ?_
    refine Steps.reach_perform false rfl (some "token") rfl ?_
    refine Steps.reach_perform false rfl () rfl ?_
    exact ⟨_, .refl _, rfl, rfl, rfl⟩
  rcases run with ⟨config, run, rejected, consumed, issued⟩
  exact ⟨config, run, rejected, consumed,
    (exchange_stages run).1 _ _ _ (path_of_steps run issued)⟩

end OidcExchange.Service
