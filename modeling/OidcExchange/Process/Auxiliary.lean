import OidcExchange.Process.Pool

/-!
# Auxiliary variables

A variable that no program reads may be added to the shared state of a pool and be
updated by every performed operation.  The pool with the variable has a run for every
run of the original pool, so an invariant may speak about the variable.
-/

namespace OidcExchange.Process

universe u v w x

variable {ι : Type x} {Op : Type u} {Answer : Op → Type v} {σ γ : Type w} {α : Type v}

/-- The machine with a variable that records the performed operations. -/
def Machine.withAuxiliary (M : Machine ι Answer σ) (record : ι → Event Answer → γ → γ) :
    Machine ι Answer (σ × γ) where
  perform task before op answer after :=
    M.perform task before.1 op answer after.1 ∧ after.2 = record task ⟨op, answer⟩ before.2
  cancel task before op after :=
    M.cancel task before.1 op after.1 ∧ after.2 = before.2
  environment before after :=
    M.environment before.1 after.1 ∧ after.2 = before.2

/-- The same pool with a value of the variable. -/
def Config.withAuxiliary (config : Config ι Answer σ α) (value : γ) :
    Config ι Answer (σ × γ) α where
  shared := (config.shared, value)
  tasks := config.tasks
  history := config.history

variable [DecidableEq ι] {M : Machine ι Answer σ} {record : ι → Event Answer → γ → γ}
  {source target : Config ι Answer σ α}

theorem Step.withAuxiliary {label : Label ι Answer} (step : Step M source label target)
    (value : γ) :
    ∃ next, Step (M.withAuxiliary record) (source.withAuxiliary value) label
      (target.withAuxiliary next) := by
  cases step with
  | @perform task op next answer shared running effect =>
      have both : (M.withAuxiliary record).perform task (source.withAuxiliary value).shared op
          answer (shared, record task ⟨op, answer⟩ value) := ⟨effect, rfl⟩
      exact ⟨record task ⟨op, answer⟩ value, Step.perform running both⟩
  | @cancel task op next shared running dropped =>
      have both : (M.withAuxiliary record).cancel task (source.withAuxiliary value).shared op
          (shared, value) := ⟨dropped, rfl⟩
      exact ⟨value, Step.cancel running both⟩
  | @environment shared moved =>
      have both : (M.withAuxiliary record).environment (source.withAuxiliary value).shared
          (shared, value) := ⟨moved, rfl⟩
      exact ⟨value, Step.environment both⟩

/-- Every run is a run of the pool with the variable. -/
theorem Steps.withAuxiliary (run : Steps M source target)
    (record : ι → Event Answer → γ → γ) (value : γ) :
    ∃ last, Steps (M.withAuxiliary record) (source.withAuxiliary value)
      (target.withAuxiliary last) := by
  induction run with
  | refl => exact ⟨value, Steps.refl _⟩
  | tail _ last inductionHypothesis =>
      rcases inductionHypothesis with ⟨between, run⟩
      rcases last with ⟨label, last⟩
      rcases last.withAuxiliary between with ⟨next, step⟩
      exact ⟨next, run.tail step⟩

end OidcExchange.Process
