import Mathlib.Data.DFinsupp.WellFounded
import OidcExchange.Process.Pool

/-!
# Protocols of tasks

A protocol says which operations a task may start in which local state, for example
with which guards in its hands.  That a program keeps a protocol is checked along its
text and composes along `bind`.  If the shared state tells the local state of every
task, then every reachable pool is on track.

A pool of finitely many tasks in which some task can always move can be run until
every task has returned.
-/

namespace OidcExchange.Process

universe u v w x y

variable {ι : Type x} {Op : Type u} {Answer : Op → Type v} {σ : Type w} {L : Type y}
  {α β ε : Type v}

/-- The local state after an operation, if the operation may be started at all. -/
abbrev Protocol (Op : Type u) (L : Type y) :=
  L → Op → Option L

namespace Program

/-- The program keeps the protocol and ends in the local state `target`. -/
def Leads (protocol : Protocol Op L) (target : L) : Program Answer α → L → Prop
  | .done _, state => state = target
  | .call op next, state => ∃ after, protocol state op = some after ∧
      ∀ answer, Leads protocol target (next answer) after

variable {protocol : Protocol Op L} {source middle target : L}

theorem leads_done (result : α) :
    (Program.done result : Program Answer α).Leads protocol target target :=
  rfl

theorem leads_call {op : Op} {next : Answer op → Program Answer α} {after : L}
    (allowed : protocol source op = some after)
    (rest : ∀ answer, (next answer).Leads protocol target after) :
    (Program.call op next).Leads protocol target source :=
  ⟨after, allowed, rest⟩

/-- The rule of sequential composition. -/
theorem Leads.bind {program : Program Answer α} {next : α → Program Answer β}
    (first : program.Leads protocol middle source)
    (second : ∀ result, (next result).Leads protocol target middle) :
    (program.bind next).Leads protocol target source := by
  induction program generalizing source with
  | done result =>
      cases first
      exact second result
  | call op rest inductionHypothesis =>
      rcases first with ⟨after, allowed, rest⟩
      exact ⟨after, allowed, fun answer => inductionHypothesis answer (rest answer)⟩

/-- The rule of fallible sequential composition: an error has to end where the whole
program ends. -/
theorem Leads.bindOk {program : Program Answer (Except ε α)}
    {next : α → Program Answer (Except ε β)} (first : program.Leads protocol target source)
    (second : ∀ result, (next result).Leads protocol target target) :
    (program.bindOk next).Leads protocol target source := by
  apply first.bind
  intro result
  cases result with
  | error failure => exact leads_done _
  | ok result => exact second result

end Program

/-- The shared state tells the local state of every task.  A task that is dropped is
idle. -/
structure Tracks (M : Machine ι Answer σ) (protocol : Protocol Op L) (idle : L)
    (localState : σ → ι → L) : Prop where
  perform : ∀ {task before op answer after next}, M.perform task before op answer after →
    protocol (localState before task) op = some next → localState after task = next ∧
      ∀ other, other ≠ task → localState after other = localState before other
  cancel : ∀ {task before op after}, M.cancel task before op after →
    localState after task = idle ∧
      ∀ other, other ≠ task → localState after other = localState before other
  environment : ∀ {before after}, M.environment before after →
    ∀ task, localState after task = localState before task

/-- Every task keeps the protocol from its local state on and will be idle in the
end. -/
structure OnTrack (protocol : Protocol Op L) (idle : L) (localState : σ → ι → L)
    (config : Config ι Answer σ α) : Prop where
  dropped : ∀ task, config.tasks task = none → localState config.shared task = idle
  running : ∀ task program, config.tasks task = some program →
    program.Leads protocol idle (localState config.shared task)

section Tracking

variable {M : Machine ι Answer σ} {protocol : Protocol Op L} {idle : L}
  {localState : σ → ι → L} {source target : Config ι Answer σ α}

theorem OnTrack.initial {shared : σ} {programs : ι → Program Answer α}
    (start : ∀ task, localState shared task = idle)
    (leads : ∀ task, (programs task).Leads protocol idle idle) :
    OnTrack protocol idle localState (Config.initial shared programs) where
  dropped task gone := by contradiction
  running task program present := by
    cases present
    rw [Config.initial, start]
    exact leads task

variable [DecidableEq ι]

theorem OnTrack.step (tracks : Tracks M protocol idle localState) {label : Label ι Answer}
    (onTrack : OnTrack protocol idle localState source) (step : Step M source label target) :
    OnTrack protocol idle localState target := by
  cases step with
  | @perform mover op next answer shared running effect =>
      rcases onTrack.running mover _ running with ⟨after, allowed, rest⟩
      rcases tracks.perform effect allowed with ⟨own, others⟩
      constructor
      · intro task gone
        have different : task ≠ mover := by
          rintro rfl
          simp at gone
        rw [Config.resume_tasks_of_ne different] at gone
        exact (others task different).trans (onTrack.dropped task gone)
      · intro task program present
        by_cases same : task = mover
        · subst same
          rw [Config.resume_tasks_self, Option.some.injEq] at present
          subst present
          rw [Config.resume_shared, own]
          exact rest answer
        · rw [Config.resume_tasks_of_ne same] at present
          rw [Config.resume_shared, others task same]
          exact onTrack.running task program present
  | @cancel victim op next shared running dropped =>
      rcases tracks.cancel dropped with ⟨own, others⟩
      constructor
      · intro task gone
        by_cases same : task = victim
        · subst same
          exact own
        · rw [Config.drop_tasks_of_ne same] at gone
          exact (others task same).trans (onTrack.dropped task gone)
      · intro task program present
        have different : task ≠ victim := by
          rintro rfl
          simp at present
        rw [Config.drop_tasks_of_ne different] at present
        rw [Config.drop_shared, others task different]
        exact onTrack.running task program present
  | environment moved =>
      constructor
      · intro task gone
        exact (tracks.environment moved task).trans (onTrack.dropped task gone)
      · intro task program present
        rw [tracks.environment moved task]
        exact onTrack.running task program present

/-- Every reachable pool is on track. -/
theorem OnTrack.steps (tracks : Tracks M protocol idle localState)
    (onTrack : OnTrack protocol idle localState source) (run : Steps M source target) :
    OnTrack protocol idle localState target :=
  run.invariant (OnTrack protocol idle localState) (fun held step => held.step tracks step) onTrack

end Tracking

/-! ## Completion -/

/-- The task has performed one operation. -/
def Shrinks (later earlier : Option (Program Answer α)) : Prop :=
  ∃ op next answer, earlier = some (.call op next) ∧ later = some (next answer)

theorem wellFounded_shrinks : WellFounded (@Shrinks Op Answer α) := by
  constructor
  intro task
  cases task with
  | none =>
      constructor
      rintro later ⟨op, next, answer, impossible, _⟩
      contradiction
  | some program =>
      induction program with
      | done result =>
          constructor
          rintro later ⟨op, next, answer, impossible, _⟩
          cases impossible
      | call op next inductionHypothesis =>
          constructor
          rintro later ⟨op, next, answer, same, rfl⟩
          cases same
          exact inductionHypothesis answer

/-- Every task that was not dropped has returned, and none is left. -/
structure AllReturned (source target : Config ι Answer σ α) : Prop where
  returned : ∀ task, source.tasks task ≠ none → ∃ result, target.tasks task = some (.done result)
  idle : ∀ task op next, target.tasks task ≠ some (.call op next)

variable [DecidableEq ι] {M : Machine ι Answer σ}

theorem AllReturned.of_resume {source target : Config ι Answer σ α} {mover : ι}
    {event : Event Answer} {shared : σ} {next program : Program Answer α}
    (running : source.tasks mover = some program)
    (returned : AllReturned (source.resume mover event shared next) target) :
    AllReturned source target := by
  refine ⟨?_, returned.idle⟩
  intro task present
  apply returned.returned task
  by_cases same : task = mover
  · subst same
    simp
  · rwa [Config.resume_tasks_of_ne same]

/-- If some task can move as long as one is running, then the pool can be run to its
end by the operations of its tasks. -/
theorem exists_completion [Finite ι] {invariant : Config ι Answer σ α → Prop}
    (kept : ∀ {source label target}, invariant source → Step M source label target →
      invariant target)
    (progress : ∀ {config task op next}, invariant config →
      config.tasks task = some (.call op next) → ∃ mover op next answer shared,
        config.tasks mover = some (.call op next) ∧
          M.perform mover config.shared op answer shared)
    {config : Config ι Answer σ α} (start : invariant config) :
    ∃ target, Steps M config target ∧ invariant target ∧ AllReturned config target := by
  -- every step shrinks one task and leaves the others alone
  have wellFounded := Pi.Lex.wellFounded (WellOrderingRel (α := ι))
    fun _ : ι => @wellFounded_shrinks Op Answer α
  induction tasksEq : config.tasks using wellFounded.induction generalizing config with
  | _ tasks inductionHypothesis =>
      subst tasksEq
      by_cases idle : ∃ task op next, config.tasks task = some (.call op next)
      · rcases idle with ⟨task, op, next, running⟩
        rcases progress start running with ⟨mover, op, next, answer, shared, present, effect⟩
        have step := Step.perform present effect
        have smaller : Pi.Lex WellOrderingRel (fun {_} => Shrinks)
            (config.resume mover ⟨op, answer⟩ shared (next answer)).tasks config.tasks := by
          refine ⟨mover, ?_, op, next, answer, present, Config.resume_tasks_self⟩
          intro other before
          apply Config.resume_tasks_of_ne
          rintro rfl
          exact irrefl other before
        rcases inductionHypothesis _ smaller (kept start step) rfl with
          ⟨target, run, holds, returned⟩
        exact ⟨target, .head ⟨_, step⟩ run, holds, returned.of_resume present⟩
      · refine ⟨config, .refl config, start, ?_, ?_⟩
        · intro task present
          rcases found : config.tasks task with _ | program
          · contradiction
          · cases program with
            | done result => exact ⟨result, rfl⟩
            | call op next => exact absurd ⟨task, op, next, found⟩ idle
        · intro task op next running
          exact idle ⟨task, op, next, running⟩

end OidcExchange.Process
