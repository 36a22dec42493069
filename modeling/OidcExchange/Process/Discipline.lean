import OidcExchange.Process.Pool

/-!
# Rely and guarantee for pools of programs

A discipline splits the correctness of a pool into one obligation for each
task.  Every task promises that its own steps stay within its guarantee, and
may rely on the steps of all other tasks staying within its rely.  `Safe` is the
obligation of one program, defined by recursion on the program tree, so it is
established by following the program text and composes along `bind`.

The main rule, `Discipline.Holds.steps`, is proved once: if every task is safe
at the start then the shared invariant and the safety of every task hold in
every reachable configuration.
-/

namespace OidcExchange.Process

universe u v w x

variable {ι : Type x} {Op : Type u} {Answer : Op → Type v} {σ : Type w}

/-- An invariant of the shared state with the rely and guarantee of each
task. -/
structure Discipline (M : Machine ι Answer σ) where
  invariant : σ → Prop
  rely : ι → σ → σ → Prop
  guarantee : ι → σ → σ → Prop
  rely_refl : ∀ task state, rely task state state
  rely_trans : ∀ {task first second third}, rely task first second →
    rely task second third → rely task first third
  guarantee_invariant : ∀ {task before after}, invariant before →
    guarantee task before after → invariant after
  guarantee_rely : ∀ {task other before after}, task ≠ other → invariant before →
    guarantee task before after → rely other before after
  environment_invariant : ∀ {before after}, invariant before →
    M.environment before after → invariant after
  environment_rely : ∀ {task before after}, invariant before →
    M.environment before after → rely task before after

namespace Discipline

variable {M : Machine ι Answer σ} (D : Discipline M) {α β ε : Type v}

/-- The obligation of `task` when it still has to execute the program: each
operation, performed in any state the others may have produced meanwhile, stays
within the guarantee and leaves a safe remainder; a result meets `post` in the
state in which it is returned. -/
def Safe (task : ι) (post : σ → α → Prop) : Program Answer α → σ → Prop
  | .done result, state => post state result
  | .call op next, state => ∀ before, D.rely task state before → D.invariant before →
      (∀ answer after, M.perform task before op answer after →
        D.guarantee task before after ∧ Safe task post (next answer) after) ∧
      ∀ after, M.cancel task before op after → D.guarantee task before after

/-- A postcondition that the steps of other tasks cannot falsify. -/
def Stable (task : ι) (post : σ → α → Prop) : Prop :=
  ∀ before after result, D.rely task before after → post before result → post after result

variable {D} {task : ι} {post middle : σ → α → Prop}

theorem safe_done {result : α} {state : σ} (holds : post state result) :
    D.Safe task post (.done result) state :=
  holds

/-- Safety of a program that has not finished survives the steps of others. -/
theorem Safe.call_of_rely {op : Op} {next : Answer op → Program Answer α} {before after : σ}
    (safe : D.Safe task post (.call op next) before) (moved : D.rely task before after) :
    D.Safe task post (.call op next) after :=
  fun state later valid => safe state (D.rely_trans moved later) valid

theorem Safe.mono {program : Program Answer α} {state : σ}
    (safe : D.Safe task middle program state)
    (weaken : ∀ state result, middle state result → post state result) :
    D.Safe task post program state := by
  induction program generalizing state with
  | done result => exact weaken state result safe
  | call op next inductionHypothesis =>
      intro before moved valid
      obtain ⟨performed, dropped⟩ := safe before moved valid
      refine ⟨?_, dropped⟩
      intro answer after effect
      obtain ⟨promised, rest⟩ := performed answer after effect
      exact ⟨promised, inductionHypothesis answer rest⟩

/-- The rule of sequential composition. -/
theorem Safe.bind {program : Program Answer α} {next : α → Program Answer β}
    {target : σ → β → Prop} {state : σ}
    (first : D.Safe task middle program state)
    (second : ∀ state result, middle state result → D.Safe task target (next result) state) :
    D.Safe task target (program.bind next) state := by
  induction program generalizing state with
  | done result => exact second state result first
  | call op rest inductionHypothesis =>
      intro before moved valid
      obtain ⟨performed, dropped⟩ := first before moved valid
      refine ⟨?_, dropped⟩
      intro answer after effect
      obtain ⟨promised, remaining⟩ := performed answer after effect
      exact ⟨promised, inductionHypothesis answer remaining⟩

/-- The rule of fallible sequential composition. -/
theorem Safe.bindOk {program : Program Answer (Except ε α)}
    {next : α → Program Answer (Except ε β)}
    {middle : σ → Except ε α → Prop} {target : σ → Except ε β → Prop} {state : σ}
    (first : D.Safe task middle program state)
    (failed : ∀ state failure, middle state (.error failure) → target state (.error failure))
    (second : ∀ state result, middle state (.ok result) →
      D.Safe task target (next result) state) :
    D.Safe task target (program.bindOk next) state := by
  refine first.bind ?_
  intro state result holds
  cases result with
  | error failure => exact failed state failure holds
  | ok result => exact second state result holds

variable {posts : ι → σ → α → Prop}

variable (D) in
/-- The invariant holds and every task that is still running is safe. -/
structure Holds (posts : ι → σ → α → Prop) (config : Config ι Answer σ α) : Prop where
  invariant : D.invariant config.shared
  running : ∀ task op next, config.tasks task = some (.call op next) →
    D.Safe task (posts task) (.call op next) config.shared

/-- At the start it is enough that every program is safe. -/
theorem Holds.initial {shared : σ} {programs : ι → Program Answer α}
    (invariant : D.invariant shared)
    (safe : ∀ task, D.Safe task (posts task) (programs task) shared) :
    D.Holds posts (Config.initial shared programs) where
  invariant := invariant
  running task op next present := by
    have programEq : programs task = .call op next := Option.some.inj present
    have safe := safe task
    rwa [programEq] at safe

variable [DecidableEq ι]

/-- What the performing task has established when its step is over. -/
theorem Holds.performed {source target : Config ι Answer σ α} {task : ι}
    {event : Event Answer} {program : Program Answer α}
    (holds : D.Holds posts source) (step : Step M source (.perform task event) target)
    (present : target.tasks task = some program) :
    D.Safe task (posts task) program target.shared := by
  cases step with
  | perform running effect =>
      rw [Config.resume_tasks_self, Option.some.injEq] at present
      subst present
      have safe := holds.running _ _ _ running
      exact ((safe _ (D.rely_refl _ _) holds.invariant).1 _ _ effect).2

/-- A result meets its postcondition in the step that returns it. -/
theorem Holds.returns {source target : Config ι Answer σ α} {task : ι} {result : α}
    (holds : D.Holds posts source) (returned : Returns M source task result target) :
    posts task target.shared result := by
  obtain ⟨_, step, present⟩ := returned
  exact holds.performed step present

private theorem Holds.of_guarantee {source target : Config ι Answer σ α}
    (holds : D.Holds posts source) (task : ι)
    (promised : D.guarantee task source.shared target.shared)
    (own : ∀ op next, target.tasks task = some (.call op next) →
      D.Safe task (posts task) (.call op next) target.shared)
    (others : ∀ other, other ≠ task → target.tasks other = source.tasks other) :
    D.Holds posts target where
  invariant := D.guarantee_invariant holds.invariant promised
  running other op next present := by
    by_cases same : other = task
    · subst same
      exact own op next present
    · rw [others other same] at present
      exact (holds.running other op next present).call_of_rely
        (D.guarantee_rely (Ne.symm same) holds.invariant promised)

theorem Holds.step {source target : Config ι Answer σ α} {label : Label ι Answer}
    (holds : D.Holds posts source) (step : Step M source label target) :
    D.Holds posts target := by
  cases step with
  | @perform task op next answer shared running effect =>
      have safe := holds.running _ _ _ running
      have promised := ((safe _ (D.rely_refl _ _) holds.invariant).1 _ _ effect).1
      refine holds.of_guarantee task promised ?_ ?_
      · intro op next present
        exact holds.performed (.perform running effect) present
      · intro other different
        exact Config.resume_tasks_of_ne different
  | @cancel task op next shared running dropped =>
      have safe := holds.running _ _ _ running
      have promised := (safe _ (D.rely_refl _ _) holds.invariant).2 _ dropped
      refine holds.of_guarantee task promised ?_ ?_
      · intro op next present
        simp at present
      · intro other different
        exact Config.drop_tasks_of_ne different
  | environment moved =>
      refine ⟨D.environment_invariant holds.invariant moved, ?_⟩
      intro task op next present
      exact (holds.running task op next present).call_of_rely
        (D.environment_rely holds.invariant moved)

/-- The rely–guarantee rule for whole runs. -/
theorem Holds.steps {source target : Config ι Answer σ α}
    (holds : D.Holds posts source) (run : Steps M source target) :
    D.Holds posts target :=
  run.invariant (D.Holds posts) (fun holds step => holds.step step) holds

/-- A relation that the guarantees and the environment keep relates the states before
and after every run. -/
theorem Holds.evolves (related : σ → σ → Prop) (reflexive : ∀ state, related state state)
    (transitive : ∀ {first second third}, related first second → related second third →
      related first third)
    (guaranteed : ∀ {task before after}, D.invariant before → D.guarantee task before after →
      related before after)
    (moved : ∀ {before after}, D.invariant before → M.environment before after →
      related before after)
    {source target : Config ι Answer σ α} (holds : D.Holds posts source)
    (run : Steps M source target) : related source.shared target.shared := by
  have both : D.Holds posts target ∧ related source.shared target.shared := by
    refine run.invariant (fun config => D.Holds posts config ∧
      related source.shared config.shared) ?_ ⟨holds, reflexive _⟩
    rintro before label after ⟨holds, sofar⟩ step
    refine ⟨holds.step step, transitive sofar ?_⟩
    cases step with
    | perform running effect =>
        have safe := holds.running _ _ _ running
        exact guaranteed holds.invariant
          ((safe _ (D.rely_refl _ _) holds.invariant).1 _ _ effect).1
    | cancel running dropped =>
        have safe := holds.running _ _ _ running
        exact guaranteed holds.invariant
          ((safe _ (D.rely_refl _ _) holds.invariant).2 _ dropped)
    | environment effect => exact moved holds.invariant effect
  exact both.2

/-- Every result returned so far meets its postcondition now. -/
def Settled (posts : ι → σ → α → Prop) (config : Config ι Answer σ α) : Prop :=
  ∀ task result, config.tasks task = some (.done result) →
    posts task config.shared result

theorem Settled.step {source target : Config ι Answer σ α} {label : Label ι Answer}
    (stable : ∀ task, D.Stable task (posts task)) (holds : D.Holds posts source)
    (settled : Settled posts source) (step : Step M source label target) :
    Settled posts target := by
  intro returned result present
  cases step with
  | @perform task op next answer shared running effect =>
      by_cases same : returned = task
      · subst same
        exact holds.performed (.perform running effect) present
      · have safe := holds.running _ _ _ running
        have promised := ((safe _ (D.rely_refl _ _) holds.invariant).1 _ _ effect).1
        rw [Config.resume_tasks_of_ne same] at present
        exact stable returned _ _ result
          (D.guarantee_rely (Ne.symm same) holds.invariant promised)
          (settled returned result present)
  | @cancel task op next shared running dropped =>
      by_cases same : returned = task
      · subst same
        simp at present
      · have safe := holds.running _ _ _ running
        have promised := (safe _ (D.rely_refl _ _) holds.invariant).2 _ dropped
        rw [Config.drop_tasks_of_ne same] at present
        exact stable returned _ _ result
          (D.guarantee_rely (Ne.symm same) holds.invariant promised)
          (settled returned result present)
  | environment moved =>
      exact stable returned _ _ result (D.environment_rely holds.invariant moved)
        (settled returned result present)

/-- Stable postconditions of safe programs hold of every result in every
reachable configuration. -/
theorem settled_of_steps {shared : σ} {programs : ι → Program Answer α}
    {config : Config ι Answer σ α} (stable : ∀ task, D.Stable task (posts task))
    (invariant : D.invariant shared)
    (safe : ∀ task, D.Safe task (posts task) (programs task) shared)
    (run : Steps M (Config.initial shared programs) config) :
    Settled posts config := by
  have both : D.Holds posts config ∧ Settled posts config := by
    refine run.invariant (fun config => D.Holds posts config ∧ Settled posts config) ?_ ?_
    · rintro source label target ⟨holds, settled⟩ step
      exact ⟨holds.step step, settled.step stable holds step⟩
    · refine ⟨.initial invariant safe, ?_⟩
      intro task result present
      have programEq : programs task = .done result := Option.some.inj present
      have safe := safe task
      rwa [programEq] at safe
  exact both.2

end Discipline

end OidcExchange.Process
