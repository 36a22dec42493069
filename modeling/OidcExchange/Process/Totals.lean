import Mathlib.Algebra.BigOperators.Group.Finset.Piecewise
import Mathlib.Data.Fintype.Basic
import OidcExchange.Process.Pool

/-!
# Totals over a pool

A reading of the shared state to which every performed operation adds its weight,
and which nothing else changes, is at any time the sum of the weights in the
histories of the tasks.
-/

namespace OidcExchange.Process

universe u v w x

open scoped BigOperators

variable {ι : Type x} [DecidableEq ι] [Fintype ι] {Op : Type u} {Answer : Op → Type v}
  {σ : Type w} {α : Type v} {N : Type*} [AddCommMonoid N] {M : Machine ι Answer σ}

/-- The weight of a history. -/
def tally (weight : Event Answer → N) (events : List (Event Answer)) : N :=
  (events.map weight).sum

omit [DecidableEq ι] [Fintype ι] in
@[simp]
theorem tally_nil (weight : Event Answer → N) : tally weight [] = 0 :=
  rfl

omit [DecidableEq ι] [Fintype ι] in
@[simp]
theorem tally_append (weight : Event Answer → N) (first second : List (Event Answer)) :
    tally weight (first ++ second) = tally weight first + tally weight second := by
  simp [tally]

omit [DecidableEq ι] [Fintype ι] in
@[simp]
theorem tally_cons (weight : Event Answer → N) (event : Event Answer)
    (events : List (Event Answer)) :
    tally weight (event :: events) = weight event + tally weight events := by
  simp [tally]

omit [DecidableEq ι] [Fintype ι] in
/-- Weights of the images of some events. -/
theorem tally_filterMap {Op' : Type*} {Answer' : Op' → Type*}
    (part : Event Answer → Option (Event Answer')) (weight : Event Answer' → N)
    (events : List (Event Answer)) :
    tally (fun event => (part event).elim 0 weight) events =
      tally weight (events.filterMap part) := by
  induction events with
  | nil => rfl
  | cons event events inductionHypothesis =>
      rw [tally_cons, inductionHypothesis, List.filterMap_cons]
      cases part event with
      | none => exact zero_add _
      | some image => exact (tally_cons weight image _).symm

/-- A reading of the shared state that adds up the weights of the operations. -/
structure AddsUp (M : Machine ι Answer σ) (reading : σ → N) (weight : Event Answer → N) :
    Prop where
  perform : ∀ {task before op answer after}, M.perform task before op answer after →
    reading after = reading before + weight ⟨op, answer⟩
  cancel : ∀ {task before op after}, M.cancel task before op after →
    reading after = reading before
  environment : ∀ {before after}, M.environment before after → reading after = reading before

/-- The total of the histories. -/
def total (weight : Event Answer → N) (config : Config ι Answer σ α) : N :=
  ∑ task, tally weight (config.history task)

theorem total_resume (weight : Event Answer → N) (config : Config ι Answer σ α) (task : ι)
    (event : Event Answer) (shared : σ) (next : Program Answer α) :
    total weight (config.resume task event shared next) = total weight config + weight event := by
  have single : ∀ other, tally weight ((config.resume task event shared next).history other) =
      tally weight (config.history other) + if other = task then weight event else 0 := by
    intro other
    by_cases same : other = task
    · subst same
      simp
    · rw [Config.resume_history_of_ne same, if_neg same, add_zero]
  rw [total, total, Finset.sum_congr rfl fun other _ => single other, Finset.sum_add_distrib,
    Finset.sum_ite_eq' Finset.univ task, if_pos (Finset.mem_univ task)]

/-- One step changes the reading and the total by the same weight. -/
theorem AddsUp.step {reading : σ → N} {weight : Event Answer → N}
    (adds : AddsUp M reading weight) {source target : Config ι Answer σ α}
    {label : Label ι Answer} (step : Step M source label target) {start : N}
    (before : reading source.shared = start + total weight source) :
    reading target.shared = start + total weight target := by
  cases step with
  | perform running effect =>
      rw [total_resume, ← add_assoc, ← before]
      exact adds.perform effect
  | cancel running dropped =>
      exact (adds.cancel dropped).trans before
  | environment moved =>
      exact (adds.environment moved).trans before

/-- Along a whole run the reading is the total of the histories. -/
theorem AddsUp.steps {reading : σ → N} {weight : Event Answer → N}
    (adds : AddsUp M reading weight) {shared : σ} {programs : ι → Program Answer α}
    {config : Config ι Answer σ α} (run : Steps M (Config.initial shared programs) config) :
    reading config.shared = reading shared + total weight config := by
  apply run.invariant fun config => reading config.shared = reading shared + total weight config
  · intro source label target before step
    exact adds.step step before
  · simp [total, Config.initial]

end OidcExchange.Process
