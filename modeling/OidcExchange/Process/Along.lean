import OidcExchange.Process.Discipline

/-!
# What holds while a task waits

`Safe` speaks about the steps and the result of a task.  `Along` adds what holds
at every point at which the task waits for an operation, in whatever state the
others have produced meanwhile.  It too follows the program text, composes along
`bind`, and is carried along runs once and for all.
-/

namespace OidcExchange.Process

namespace Discipline

universe u v w x

variable {ι : Type x} {Op : Type u} {Answer : Op → Type v} {σ : Type w} {α β ε : Type v}
  {M : Machine ι Answer σ}

/-- `point` holds of the rest of the program wherever the task waits, and the result
meets `post`. -/
def Along (D : Discipline M) (task : ι) (point : Program Answer α → σ → Prop)
    (post : σ → α → Prop) : Program Answer α → σ → Prop
  | .done result, state => post state result
  | .call op next, state => ∀ before, D.rely task state before → D.invariant before →
      point (.call op next) before ∧
        ∀ answer after, M.perform task before op answer after →
          D.Along task point post (next answer) after

variable {D : Discipline M} {task : ι} {point : Program Answer α → σ → Prop}
  {post : σ → α → Prop} {posts : ι → σ → α → Prop}

/-- The rule of sequential composition, for points that do not look at the
program. -/
theorem Along.bind {quiet : σ → Prop} {middle : σ → α → Prop} {program : Program Answer α}
    {point : Program Answer β → σ → Prop} {target : σ → β → Prop}
    {next : α → Program Answer β} {state : σ}
    (first : D.Along task (fun _ => quiet) middle program state)
    (weaken : ∀ program state, quiet state → point program state)
    (second : ∀ state result, middle state result →
      D.Along task point target (next result) state) :
    D.Along task point target (program.bind next) state := by
  induction program generalizing state with
  | done result => exact second state result first
  | call op rest inductionHypothesis =>
      intro before moved valid
      rcases first before moved valid with ⟨still, performed⟩
      refine ⟨weaken _ before still, ?_⟩
      intro answer after effect
      exact inductionHypothesis answer (performed answer after effect)

/-- The rule of fallible sequential composition. -/
theorem Along.bindOk {quiet : σ → Prop} {middle : σ → Except ε α → Prop}
    {program : Program Answer (Except ε α)} {point : Program Answer (Except ε β) → σ → Prop}
    {target : σ → Except ε β → Prop} {next : α → Program Answer (Except ε β)} {state : σ}
    (first : D.Along task (fun _ => quiet) middle program state)
    (weaken : ∀ program state, quiet state → point program state)
    (failed : ∀ state failure, middle state (.error failure) → target state (.error failure))
    (second : ∀ state result, middle state (.ok result) →
      D.Along task point target (next result) state) :
    D.Along task point target (program.bindOk next) state := by
  apply first.bind weaken
  intro state result known
  cases result with
  | error failure => exact failed state failure known
  | ok result => exact second state result known

/-- A safe program is safe wherever it waits. -/
theorem Safe.along {quiet : σ → Prop} {program : Program Answer α} {state : σ}
    (safe : D.Safe task post program state) :
    D.Along task (fun rest state => quiet state ∨ D.Safe task post rest state)
      (fun state result => quiet state ∨ post state result) program state := by
  induction program generalizing state with
  | done result => exact Or.inr safe
  | call op next inductionHypothesis =>
      intro before moved valid
      refine ⟨Or.inr (safe.call_of_rely moved), ?_⟩
      intro answer after effect
      exact inductionHypothesis answer ((safe before moved valid).1 answer after effect).2

/-- `later` holds of the rest of the program when the task has performed the first
operation that meets `trigger`. -/
def Once (D : Discipline M) (task : ι) (trigger : Op → Prop)
    (later : Program Answer α → σ → Prop) : Program Answer α → σ → Prop
  | .done _, _ => True
  | .call op next, state => ∀ before, D.rely task state before → D.invariant before →
      ∀ answer after, M.perform task before op answer after →
        (trigger op → later (next answer) after) ∧
          (¬ trigger op → D.Once task trigger later (next answer) after)

/-- No operation so far meets `trigger`. -/
def Untriggered (trigger : Op → Prop) (events : List (Event Answer)) : Prop :=
  ∀ event ∈ events, ¬ trigger event.1

/-- Before the trigger, or after it. -/
def Phase (D : Discipline M) (task : ι) (trigger : Op → Prop)
    (point : Program Answer α → σ → Prop) (post : σ → α → Prop) (history : List (Event Answer))
    (program : Program Answer α) (state : σ) : Prop :=
  Untriggered trigger history ∧ D.Once task trigger (D.Along task point post) program state ∨
    D.Along task point post program state

variable [DecidableEq ι]

/-- A property of a task's history, of the rest of its program and of the state holds
along a run if the task's own steps and what others may do keep it. -/
theorem Holds.follow {property : List (Event Answer) → Program Answer α → σ → Prop}
    {source target : Config ι Answer σ α} (holds : D.Holds posts source)
    (own : ∀ history op next before answer after, D.invariant before →
      property history (.call op next) before → M.perform task before op answer after →
        property (history ++ [⟨op, answer⟩]) (next answer) after)
    (others : ∀ history op next before after, D.rely task before after →
      property history (.call op next) before → property history (.call op next) after)
    (known : ∀ op next, source.tasks task = some (.call op next) →
      property (source.history task) (.call op next) source.shared)
    (run : Steps M source target) :
    ∀ op next, target.tasks task = some (.call op next) →
      property (target.history task) (.call op next) target.shared := by
  induction run with
  | refl => exact known
  | @tail middle target first last inductionHypothesis =>
      rcases last with ⟨label, last⟩
      have holds := holds.steps first
      intro op next present
      cases last with
      | @perform performer _ _ answer shared running effect =>
          by_cases same : task = performer
          · subst same
            rw [Config.resume_tasks_self, Option.some.injEq] at present
            have kept := own _ _ _ _ answer shared holds.invariant
              (inductionHypothesis _ _ running) effect
            rw [present] at kept
            rw [Config.resume_history_self]
            exact kept
          · rw [Config.resume_tasks_of_ne same] at present
            rw [Config.resume_history_of_ne same]
            have safe := holds.running _ _ _ running
            have promised := ((safe _ (D.rely_refl _ _) holds.invariant).1 _ _ effect).1
            exact others _ _ _ _ _ (D.guarantee_rely (Ne.symm same) holds.invariant promised)
              (inductionHypothesis _ _ present)
      | @cancel dropped _ _ shared running effect =>
          by_cases same : task = dropped
          · subst same
            simp at present
          · rw [Config.drop_tasks_of_ne same] at present
            have safe := holds.running _ _ _ running
            have promised := (safe _ (D.rely_refl _ _) holds.invariant).2 _ effect
            exact others _ _ _ _ _ (D.guarantee_rely (Ne.symm same) holds.invariant promised)
              (inductionHypothesis _ _ present)
      | environment moved =>
          exact others _ _ _ _ _ (D.environment_rely holds.invariant moved)
            (inductionHypothesis _ _ present)

/-- After the trigger the rest of the task is as announced, in every run. -/
theorem Once.steps {trigger : Op → Prop} {source target : Config ι Answer σ α}
    (holds : D.Holds posts source)
    (once : ∀ op next, source.tasks task = some (.call op next) →
      D.Once task trigger (D.Along task point post) (.call op next) source.shared)
    (fresh : source.history task = []) (run : Steps M source target) {op : Op}
    {next : Answer op → Program Answer α} (present : target.tasks task = some (.call op next))
    (triggered : ¬ Untriggered trigger (target.history task)) :
    D.Along task point post (.call op next) target.shared := by
  have own : ∀ history op next before answer after, D.invariant before →
      Phase D task trigger point post history (.call op next) before →
        M.perform task before op answer after →
          Phase D task trigger point post (history ++ [⟨op, answer⟩]) (next answer) after := by
    intro history op next before answer after valid known effect
    rcases known with ⟨none, once⟩ | along
    · have rest := once before (D.rely_refl _ _) valid answer after effect
      by_cases now : trigger op
      · exact Or.inr (rest.1 now)
      · refine Or.inl ⟨?_, rest.2 now⟩
        intro event member
        rcases List.mem_append.mp member with member | member
        · exact none event member
        · rw [List.mem_singleton] at member
          rw [member]
          exact now
    · exact Or.inr ((along before (D.rely_refl _ _) valid).2 answer after effect)
  have others : ∀ history op next before after, D.rely task before after →
      Phase D task trigger point post history (.call op next) before →
        Phase D task trigger point post history (.call op next) after := by
    intro history op next before after moved known
    rcases known with ⟨none, once⟩ | along
    · exact Or.inl ⟨none, fun state later => once state (D.rely_trans moved later)⟩
    · exact Or.inr fun state later => along state (D.rely_trans moved later)
  have start : ∀ op next, source.tasks task = some (.call op next) →
      Phase D task trigger point post (source.history task) (.call op next) source.shared := by
    intro op next present
    refine Or.inl ⟨?_, once op next present⟩
    simp [Untriggered, fresh]
  rcases holds.follow own others start run op next present with ⟨none, -⟩ | along
  · exact absurd none triggered
  · exact along

/-- One task may be held to another postcondition from now on. -/
theorem Holds.refocus {config : Config ι Answer σ α} (holds : D.Holds posts config)
    (safe : ∀ op next, config.tasks task = some (.call op next) →
      D.Safe task post (.call op next) config.shared) :
    D.Holds (Function.update posts task post) config where
  invariant := holds.invariant
  running other op next present := by
    by_cases same : other = task
    · subst same
      rw [Function.update_self]
      exact safe op next present
    · rw [Function.update_of_ne same]
      exact holds.running other op next present

/-- After the trigger the task is safe wherever the state is not quiet; so it meets
`post` when it returns after such a state. -/
theorem Once.returns {trigger : Op → Prop} {quiet : σ → Prop}
    {source middle last target : Config ι Answer σ α} {result : α}
    (holds : D.Holds posts source)
    (once : ∀ op next, source.tasks task = some (.call op next) →
      D.Once task trigger
        (D.Along task (fun rest state => quiet state ∨ D.Safe task post rest state)
          fun state result => quiet state ∨ post state result)
        (.call op next) source.shared)
    (fresh : source.history task = []) (first : Steps M source middle)
    (triggered : ¬ Untriggered trigger (middle.history task)) (second : Steps M middle last)
    (returned : Returns M last task result target) :
    quiet middle.shared ∨ post target.shared result := by
  by_cases still : quiet middle.shared
  · exact Or.inl still
  have safe : ∀ op next, middle.tasks task = some (.call op next) →
      D.Safe task post (.call op next) middle.shared := by
    intro op next present
    have along := Once.steps holds once fresh first present triggered
    have waiting := along _ (D.rely_refl _ _) (holds.steps first).invariant
    exact waiting.1.resolve_left still
  have settled := (((holds.steps first).refocus safe).steps second).returns returned
  rw [Function.update_self] at settled
  exact Or.inr settled

end Discipline

end OidcExchange.Process
