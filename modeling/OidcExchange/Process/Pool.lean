import Mathlib.Logic.Function.Basic
import Mathlib.Logic.Relation
import OidcExchange.Process.Program

/-!
# Pools of concurrent programs

A machine says how one operation of one task acts on a shared state, what
happens when a task is dropped while it awaits an operation, and how the
environment may move on its own.  A pool runs arbitrarily many programs against
one shared state; each step answers one operation of one task, drops one task,
or moves the environment, in any order.

Every task is present from the start.  A task that is spawned later is one
whose first operation is performed later.
-/

namespace OidcExchange.Process

universe u v w x

/-- The shared-state semantics of an operation signature.  All components are
relations, so an operation may be blocked or have several outcomes. -/
structure Machine (ι : Type x) {Op : Type u} (Answer : Op → Type v) (σ : Type w) where
  /-- `perform task before op answer after` -/
  perform : ι → σ → (op : Op) → Answer op → σ → Prop
  /-- `cancel task before op after`: the task is dropped while it awaits `op`. -/
  cancel : ι → σ → Op → σ → Prop
  environment : σ → σ → Prop

namespace Machine

variable {ι : Type x} {Op : Type u} {Answer : Op → Type v} {σ : Type w}

/-- The same machine, limited to the operations and drops that meet a condition
on the state before them. -/
def restrict (M : Machine ι Answer σ) (mayPerform mayCancel : ι → σ → Op → Prop) :
    Machine ι Answer σ where
  perform task before op answer after :=
    mayPerform task before op ∧ M.perform task before op answer after
  cancel task before op after :=
    mayCancel task before op ∧ M.cancel task before op after
  environment := M.environment

end Machine

/-- A pool of tasks over a shared state.  A dropped task is `none`; `history`
lists the operations each task has performed, oldest first. -/
structure Config (ι : Type x) {Op : Type u} (Answer : Op → Type v) (σ : Type w)
    (α : Type v) where
  shared : σ
  tasks : ι → Option (Program Answer α)
  history : ι → List (Event Answer)

/-- The pool in which no task has performed anything yet. -/
def Config.initial {ι : Type x} {Op : Type u} {Answer : Op → Type v} {σ : Type w}
    {α : Type v} (shared : σ) (programs : ι → Program Answer α) :
    Config ι Answer σ α where
  shared := shared
  tasks task := some (programs task)
  history _ := []

/-- What a pool step did. -/
inductive Label (ι : Type x) {Op : Type u} (Answer : Op → Type v) where
  | perform (task : ι) (event : Event Answer)
  | cancel (task : ι) (op : Op)
  | environment

section Pool

variable {ι : Type x} [DecidableEq ι] {Op : Type u} {Answer : Op → Type v}
  {σ : Type w} {α : Type v}

namespace Config

/-- The task continues with `next` after `event` moved the shared state. -/
def resume (config : Config ι Answer σ α) (task : ι) (event : Event Answer)
    (shared : σ) (next : Program Answer α) : Config ι Answer σ α where
  shared := shared
  tasks := Function.update config.tasks task (some next)
  history := Function.update config.history task (config.history task ++ [event])

/-- The task is dropped. -/
def drop (config : Config ι Answer σ α) (task : ι) (shared : σ) :
    Config ι Answer σ α where
  shared := shared
  tasks := Function.update config.tasks task none
  history := config.history

variable {config : Config ι Answer σ α} {task other : ι} {event : Event Answer}
  {shared : σ} {next : Program Answer α}

@[simp]
theorem resume_shared : (config.resume task event shared next).shared = shared :=
  rfl

@[simp]
theorem resume_tasks_self : (config.resume task event shared next).tasks task = some next :=
  Function.update_self _ _ _

theorem resume_tasks_of_ne (different : other ≠ task) :
    (config.resume task event shared next).tasks other = config.tasks other :=
  Function.update_of_ne different _ _

@[simp]
theorem resume_history_self :
    (config.resume task event shared next).history task = config.history task ++ [event] :=
  Function.update_self _ _ _

theorem resume_history_of_ne (different : other ≠ task) :
    (config.resume task event shared next).history other = config.history other :=
  Function.update_of_ne different _ _

@[simp]
theorem drop_shared : (config.drop task shared).shared = shared :=
  rfl

@[simp]
theorem drop_tasks_self : (config.drop task shared).tasks task = none :=
  Function.update_self _ _ _

theorem drop_tasks_of_ne (different : other ≠ task) :
    (config.drop task shared).tasks other = config.tasks other :=
  Function.update_of_ne different _ _

@[simp]
theorem drop_history : (config.drop task shared).history = config.history :=
  rfl

end Config

/-- One step of a pool. -/
inductive Step (M : Machine ι Answer σ) :
    Config ι Answer σ α → Label ι Answer → Config ι Answer σ α → Prop
  | perform {config : Config ι Answer σ α} {task : ι} {op : Op}
      {next : Answer op → Program Answer α} {answer : Answer op} {shared : σ}
      (running : config.tasks task = some (.call op next))
      (effect : M.perform task config.shared op answer shared) :
      Step M config (.perform task ⟨op, answer⟩)
        (config.resume task ⟨op, answer⟩ shared (next answer))
  | cancel {config : Config ι Answer σ α} {task : ι} {op : Op}
      {next : Answer op → Program Answer α} {shared : σ}
      (running : config.tasks task = some (.call op next))
      (dropped : M.cancel task config.shared op shared) :
      Step M config (.cancel task op) (config.drop task shared)
  | environment {config : Config ι Answer σ α} {shared : σ}
      (moved : M.environment config.shared shared) :
      Step M config .environment { config with shared := shared }

/-- Finitely many steps in any order. -/
def Steps (M : Machine ι Answer σ) : Config ι Answer σ α → Config ι Answer σ α → Prop :=
  Relation.ReflTransGen fun source target => ∃ label, Step M source label target

/-- `task` returns `result` in this very step. -/
def Returns (M : Machine ι Answer σ) (source : Config ι Answer σ α) (task : ι)
    (result : α) (target : Config ι Answer σ α) : Prop :=
  ∃ event, Step M source (.perform task event) target ∧
    target.tasks task = some (.done result)

namespace Steps

variable {M : Machine ι Answer σ}

theorem refl (config : Config ι Answer σ α) : Steps M config config :=
  Relation.ReflTransGen.refl

theorem tail {source middle target : Config ι Answer σ α} {label : Label ι Answer}
    (first : Steps M source middle) (last : Step M middle label target) :
    Steps M source target :=
  Relation.ReflTransGen.tail first ⟨label, last⟩

theorem trans {source middle target : Config ι Answer σ α}
    (first : Steps M source middle) (second : Steps M middle target) :
    Steps M source target :=
  Relation.ReflTransGen.trans first second

/-- A property kept by every step is kept by every run. -/
theorem invariant (property : Config ι Answer σ α → Prop)
    (step : ∀ {source label target}, property source →
      Step M source label target → property target)
    {source target : Config ι Answer σ α} (run : Steps M source target)
    (start : property source) : property target := by
  induction run with
  | refl => exact start
  | tail _ last inductionHypothesis =>
      obtain ⟨_, last⟩ := last
      exact step inductionHypothesis last

variable {goal : Config ι Answer σ α → Prop} {config : Config ι Answer σ α}

/-- Reach a goal by letting a task perform its next operation. -/
theorem reach_perform (task : ι) {op : Op} {next : Answer op → Program Answer α}
    (running : config.tasks task = some (.call op next)) (answer : Answer op) {shared : σ}
    (effect : M.perform task config.shared op answer shared)
    (rest : ∃ target, Steps M (config.resume task ⟨op, answer⟩ shared (next answer)) target ∧
      goal target) :
    ∃ target, Steps M config target ∧ goal target := by
  rcases rest with ⟨target, run, reached⟩
  exact ⟨target, ((refl config).tail (.perform running effect)).trans run, reached⟩

/-- Reach a goal by dropping a task. -/
theorem reach_cancel (task : ι) {op : Op} {next : Answer op → Program Answer α}
    (running : config.tasks task = some (.call op next)) {shared : σ}
    (dropped : M.cancel task config.shared op shared)
    (rest : ∃ target, Steps M (config.drop task shared) target ∧ goal target) :
    ∃ target, Steps M config target ∧ goal target := by
  rcases rest with ⟨target, run, reached⟩
  exact ⟨target, ((refl config).tail (.cancel running dropped)).trans run, reached⟩

/-- Reach a goal by a move of the environment. -/
theorem reach_environment {shared : σ} (moved : M.environment config.shared shared)
    (rest : ∃ target, Steps M { config with shared := shared } target ∧ goal target) :
    ∃ target, Steps M config target ∧ goal target := by
  rcases rest with ⟨target, run, reached⟩
  exact ⟨target, ((refl config).tail (.environment moved)).trans run, reached⟩

end Steps

/-- Take one step by letting a task perform its next operation. -/
theorem Step.exists_perform {M : Machine ι Answer σ} {goal : Config ι Answer σ α → Prop}
    {config : Config ι Answer σ α} (task : ι) {op : Op} {next : Answer op → Program Answer α}
    (running : config.tasks task = some (.call op next)) (answer : Answer op) {shared : σ}
    (effect : M.perform task config.shared op answer shared)
    (reached : goal (config.resume task ⟨op, answer⟩ shared (next answer))) :
    ∃ label target, Step M config label target ∧ goal target :=
  ⟨_, _, .perform running effect, reached⟩

/-- Return by performing the last operation. -/
theorem Returns.of_perform {M : Machine ι Answer σ} {config : Config ι Answer σ α} (task : ι)
    {op : Op} {next : Answer op → Program Answer α}
    (running : config.tasks task = some (.call op next)) (answer : Answer op) {shared : σ}
    (effect : M.perform task config.shared op answer shared) {result : α}
    (finished : next answer = .done result) :
    Returns M config task result (config.resume task ⟨op, answer⟩ shared (next answer)) :=
  ⟨_, .perform running effect, by rw [Config.resume_tasks_self, finished]⟩

/-- A restriction that forbids nothing keeps every step. -/
theorem Step.restrict {M : Machine ι Answer σ} {mayPerform mayCancel : ι → σ → Op → Prop}
    {source target : Config ι Answer σ α} {label : Label ι Answer}
    (step : Step M source label target) (performs : ∀ task state op, mayPerform task state op)
    (cancels : ∀ task state op, mayCancel task state op) :
    Step (M.restrict mayPerform mayCancel) source label target := by
  cases step with
  | perform running effect => exact .perform running ⟨performs _ _ _, effect⟩
  | cancel running dropped => exact .cancel running ⟨cancels _ _ _, dropped⟩
  | environment moved => exact .environment moved

theorem Steps.restrict {M : Machine ι Answer σ} {mayPerform mayCancel : ι → σ → Op → Prop}
    {source target : Config ι Answer σ α} (run : Steps M source target)
    (performs : ∀ task state op, mayPerform task state op)
    (cancels : ∀ task state op, mayCancel task state op) :
    Steps (M.restrict mayPerform mayCancel) source target := by
  induction run with
  | refl => exact Steps.refl source
  | tail _ last inductionHypothesis =>
      rcases last with ⟨label, step⟩
      exact inductionHypothesis.tail (step.restrict performs cancels)

/-- The task's own history is a path of the program it was given. -/
theorem path_of_steps {M : Machine ι Answer σ} {shared : σ}
    {programs : ι → Program Answer α} {config : Config ι Answer σ α}
    (run : Steps M (Config.initial shared programs) config) {task : ι}
    {program : Program Answer α} (present : config.tasks task = some program) :
    (programs task).Path (config.history task) program := by
  have followed : ∀ task program, config.tasks task = some program →
      (programs task).Path (config.history task) program := by
    refine run.invariant (fun config => ∀ task program, config.tasks task = some program →
      (programs task).Path (config.history task) program) ?_ ?_
    · intro source label target inductionHypothesis step task program present
      cases step with
      | @perform performer op next answer shared running effect =>
          by_cases same : task = performer
          · subst same
            rw [Config.resume_tasks_self, Option.some.injEq] at present
            subst present
            rw [Config.resume_history_self]
            exact (inductionHypothesis _ _ running).snoc answer
          · rw [Config.resume_tasks_of_ne same] at present
            rw [Config.resume_history_of_ne same]
            exact inductionHypothesis _ _ present
      | @cancel dropped op next shared running effect =>
          by_cases same : task = dropped
          · subst same
            simp at present
          · rw [Config.drop_tasks_of_ne same] at present
            exact inductionHypothesis _ _ present
      | environment moved => exact inductionHypothesis _ _ present
    · intro task program present
      cases present
      exact .refl _
  exact followed task program present

/-- The history of every task, also of a dropped one, is a path of its program. -/
theorem exists_path_of_steps {M : Machine ι Answer σ} {shared : σ}
    {programs : ι → Program Answer α} {config : Config ι Answer σ α}
    (run : Steps M (Config.initial shared programs) config) (task : ι) :
    ∃ rest, (programs task).Path (config.history task) rest := by
  induction run with
  | refl => exact ⟨_, .refl _⟩
  | @tail source target first last inductionHypothesis =>
      rcases last with ⟨label, last⟩
      cases last with
      | @perform performer op next answer shared running effect =>
          by_cases same : task = performer
          · subst same
            rw [Config.resume_history_self]
            exact ⟨_, (path_of_steps first running).snoc answer⟩
          · rw [Config.resume_history_of_ne same]
            exact inductionHypothesis
      | cancel running dropped => exact inductionHypothesis
      | environment moved => exact inductionHypothesis

end Pool

end OidcExchange.Process
