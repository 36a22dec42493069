import OidcExchange.Process.Pool

/-!
# Uninterrupted executions

`Executes M task program before after result` says that the task can run the
program from `before` to its result in `after` without any other step in
between.  `Moves` is the same along given operations; a path of a program that
moves the state is a run of every pool that holds the program.
-/

namespace OidcExchange.Process

universe u v w x

variable {ι : Type x} {Op : Type u} {Answer : Op → Type v} {σ : Type w} {α β ε : Type v}

/-- The task runs the program alone. -/
def Executes (M : Machine ι Answer σ) (task : ι) : Program Answer α → σ → σ → α → Prop
  | .done result, before, after, outcome => before = after ∧ result = outcome
  | .call op next, before, after, outcome =>
      ∃ answer middle, M.perform task before op answer middle ∧
        Executes M task (next answer) middle after outcome

variable {M : Machine ι Answer σ} {task : ι}

@[simp]
theorem executes_done_iff {result outcome : α} {before after : σ} :
    Executes M task (.done result) before after outcome ↔
      before = after ∧ result = outcome :=
  Iff.rfl

@[simp]
theorem executes_call_iff {op : Op} {next : Answer op → Program Answer α} {before after : σ}
    {outcome : α} :
    Executes M task (.call op next) before after outcome ↔
      ∃ answer middle, M.perform task before op answer middle ∧
        Executes M task (next answer) middle after outcome :=
  Iff.rfl

/-- A composition runs its parts one after the other. -/
theorem executes_bind_iff {program : Program Answer α} {next : α → Program Answer β}
    {before after : σ} {outcome : β} :
    Executes M task (program.bind next) before after outcome ↔
      ∃ middle result, Executes M task program before middle result ∧
        Executes M task (next result) middle after outcome := by
  induction program generalizing before with
  | done result =>
      simp only [Program.bind_done, executes_done_iff]
      constructor
      · intro rest
        exact ⟨before, result, ⟨rfl, rfl⟩, rest⟩
      · rintro ⟨middle, result, ⟨rfl, rfl⟩, rest⟩
        exact rest
  | call op rest inductionHypothesis =>
      simp only [Program.bind_call, executes_call_iff, inductionHypothesis]
      constructor
      · rintro ⟨answer, state, effect, middle, result, first, second⟩
        exact ⟨middle, result, ⟨answer, state, effect, first⟩, second⟩
      · rintro ⟨middle, result, ⟨answer, state, effect, first⟩, second⟩
        exact ⟨answer, state, effect, middle, result, first, second⟩

/-- Every uninterrupted execution from `before` meets `post`. -/
structure Ensures (M : Machine ι Answer σ) (task : ι) (program : Program Answer α)
    (before : σ) (post : σ → α → Prop) : Prop where
  result : ∀ after outcome, Executes M task program before after outcome → post after outcome

section Ensures

variable {program : Program Answer α} {before : σ} {post middle : σ → α → Prop}

theorem ensures_done {result : α} (holds : post before result) :
    Ensures M task (.done result) before post := by
  constructor
  rintro after outcome ⟨rfl, rfl⟩
  exact holds

theorem ensures_call {op : Op} {next : Answer op → Program Answer α}
    (rest : ∀ answer after, M.perform task before op answer after →
      Ensures M task (next answer) after post) :
    Ensures M task (.call op next) before post := by
  constructor
  rintro after outcome ⟨answer, state, effect, remaining⟩
  exact (rest answer state effect).result after outcome remaining

theorem Ensures.mono (ensures : Ensures M task program before middle)
    (weaken : ∀ after outcome, middle after outcome → post after outcome) :
    Ensures M task program before post :=
  ⟨fun after outcome executes => weaken after outcome (ensures.result after outcome executes)⟩

theorem Ensures.bind {next : α → Program Answer β} {target : σ → β → Prop}
    (first : Ensures M task program before middle)
    (second : ∀ state result, middle state result →
      Ensures M task (next result) state target) :
    Ensures M task (program.bind next) before target := by
  constructor
  intro after outcome executes
  rcases executes_bind_iff.mp executes with ⟨state, result, begun, rest⟩
  exact (second state result (first.result state result begun)).result after outcome rest

theorem Ensures.bindOk {program : Program Answer (Except ε α)}
    {next : α → Program Answer (Except ε β)} {middle : σ → Except ε α → Prop}
    {target : σ → Except ε β → Prop} (first : Ensures M task program before middle)
    (failed : ∀ state failure, middle state (.error failure) → target state (.error failure))
    (second : ∀ state result, middle state (.ok result) →
      Ensures M task (next result) state target) :
    Ensures M task (program.bindOk next) before target := by
  apply first.bind
  rintro state (failure | result) holds
  · exact ensures_done (failed state failure holds)
  · exact second state result holds

end Ensures

/-- A program can be executed wherever each of its operations can be answered. -/
theorem exists_executes (program : Program Answer α) (enabled : σ → Prop)
    (progress : ∀ before op, enabled before →
      ∃ answer after, M.perform task before op answer after ∧ enabled after)
    {before : σ} (start : enabled before) :
    ∃ after outcome, Executes M task program before after outcome ∧ enabled after := by
  induction program generalizing before with
  | done result => exact ⟨before, result, ⟨rfl, rfl⟩, start⟩
  | call op next inductionHypothesis =>
      rcases progress before op start with ⟨answer, state, effect, still⟩
      rcases inductionHypothesis answer still with ⟨after, outcome, rest, done⟩
      exact ⟨after, outcome, ⟨answer, state, effect, rest⟩, done⟩

/-- Follow a path by answering the next operation. -/
theorem Program.Path.exists_step {op : Op} {next : Answer op → Program Answer α}
    {answer : Answer op} {events : List (Event Answer)}
    (rest : ∃ target, (next answer).Path events target) :
    ∃ target, (Program.call op next).Path (⟨op, answer⟩ :: events) target := by
  rcases rest with ⟨target, path⟩
  exact ⟨target, .step path⟩

/-- Follow a path to a program with a given property. -/
theorem Program.Path.exists_step_and {op : Op} {next : Answer op → Program Answer α}
    {answer : Answer op} {events : List (Event Answer)} {goal : Program Answer α → Prop}
    (rest : ∃ target, (next answer).Path events target ∧ goal target) :
    ∃ target, (Program.call op next).Path (⟨op, answer⟩ :: events) target ∧ goal target := by
  rcases rest with ⟨target, path, reached⟩
  exact ⟨target, .step path, reached⟩

/-- The operations of one task, performed alone, move the shared state. -/
def Moves (M : Machine ι Answer σ) (task : ι) : List (Event Answer) → σ → σ → Prop
  | [], before, after => before = after
  | event :: events, before, after =>
      ∃ middle, M.perform task before event.1 event.2 middle ∧ Moves M task events middle after

/-- Operations are performed one list after the other. -/
theorem Moves.append {first second : List (Event Answer)} {before middle after : σ}
    (moves : Moves M task first before middle) (rest : Moves M task second middle after) :
    Moves M task (first ++ second) before after := by
  induction first generalizing before with
  | nil =>
      cases moves
      exact rest
  | cons event events inductionHypothesis =>
      rcases moves with ⟨state, effect, remaining⟩
      exact ⟨state, effect, inductionHypothesis remaining⟩

/-- A completed path that a task can follow alone is an uninterrupted execution. -/
theorem Program.Path.executes {program : Program Answer α} {outcome : α}
    {events : List (Event Answer)} (path : program.Path events (.done outcome)) {before after : σ}
    (moves : Moves M task events before after) : Executes M task program before after outcome := by
  generalize targetEq : Program.done outcome = target at path
  induction path generalizing before with
  | refl program =>
      subst targetEq
      exact ⟨moves, rfl⟩
  | step rest inductionHypothesis =>
      rcases moves with ⟨middle, effect, remaining⟩
      exact ⟨_, middle, effect, inductionHypothesis remaining targetEq⟩

/-- A path that a task can follow alone is a run of every relation that includes the
steps of the task. -/
theorem Program.Path.reaches [DecidableEq ι] {program target : Program Answer α}
    {events : List (Event Answer)} {relation : Config ι Answer σ α → Config ι Answer σ α → Prop}
    (includes : ∀ source event final, Step M source (.perform task event) final →
      relation source final)
    (path : program.Path events target) {after : σ} {config : Config ι Answer σ α}
    (running : config.tasks task = some program)
    (moves : Moves M task events config.shared after) :
    ∃ final, Relation.ReflTransGen relation config final ∧ final.shared = after ∧
      final.tasks task = some target ∧ final.history task = config.history task ++ events ∧
      ∀ other, other ≠ task → final.tasks other = config.tasks other ∧
        final.history other = config.history other := by
  induction path generalizing config with
  | refl program =>
      exact ⟨config, .refl, moves, running, (List.append_nil _).symm, fun _ _ => ⟨rfl, rfl⟩⟩
  | step rest inductionHypothesis =>
      obtain ⟨middle, effect, remaining⟩ := moves
      have first := includes _ _ _ (Step.perform running effect)
      rcases inductionHypothesis Config.resume_tasks_self remaining with
        ⟨final, run, shared, tasks, history, others⟩
      refine ⟨final, .head first run, shared, tasks, ?_, ?_⟩
      · rw [history, Config.resume_history_self, List.append_assoc, List.singleton_append]
      · intro other different
        rcases others other different with ⟨sameTask, sameHistory⟩
        rw [sameTask, sameHistory]
        exact ⟨Config.resume_tasks_of_ne different, Config.resume_history_of_ne different⟩

/-- A path that a task can follow alone is a run of the pool. -/
theorem Program.Path.steps [DecidableEq ι] {program target : Program Answer α}
    {events : List (Event Answer)} (path : program.Path events target) {after : σ}
    {config : Config ι Answer σ α} (running : config.tasks task = some program)
    (moves : Moves M task events config.shared after) :
    ∃ final, Steps M config final ∧ final.shared = after ∧
      final.tasks task = some target ∧ final.history task = config.history task ++ events ∧
      ∀ other, other ≠ task → final.tasks other = config.tasks other ∧
        final.history other = config.history other :=
  path.reaches (fun _ event _ step => ⟨.perform task event, step⟩) running moves

end OidcExchange.Process
