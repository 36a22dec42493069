import Mathlib.Data.List.Basic

/-!
# Runs with labels

Runs of a labelled transition relation, with the labels of their steps and the
states that they pass.  Deleting steps from a run is justified by unwinding: a
deleted step must not change what the smaller system sees, and a kept step must
be possible there and have the same effect on it.
-/

namespace OidcExchange.Process

universe u v w

variable {σ : Type u} {Λ : Type v}

/-- The steps from one state to another, with their labels in order. -/
inductive Run (next : σ → Λ → σ → Prop) : σ → List Λ → σ → Prop
  | refl (state : σ) : Run next state [] state
  | step {source middle target : σ} {label : Λ} {labels : List Λ}
      (first : next source label middle) (rest : Run next middle labels target) :
      Run next source (label :: labels) target

/-- The run passes a state with the property. -/
def Visits (next : σ → Λ → σ → Prop) (source : σ) (labels : List Λ) (target : σ)
    (property : σ → Prop) : Prop :=
  ∃ earlier later middle, labels = earlier ++ later ∧ Run next source earlier middle ∧
    Run next middle later target ∧ property middle

variable {next : σ → Λ → σ → Prop} {source middle target : σ} {label : Λ} {labels : List Λ}
  {property : σ → Prop}

/-- A property kept by every step is kept by every run. -/
theorem Run.invariant (property : σ → Prop)
    (keeps : ∀ {source label target}, property source →
      next source label target → property target)
    (run : Run next source labels target) (start : property source) : property target := by
  induction run with
  | refl state => exact start
  | step first rest inductionHypothesis => exact inductionHypothesis (keeps start first)

theorem Visits.head (holds : property source) (run : Run next source labels target) :
    Visits next source labels target property :=
  ⟨[], labels, source, rfl, .refl source, run, holds⟩

theorem Visits.mono {weaker : σ → Prop} (visits : Visits next source labels target property)
    (weaken : ∀ state, property state → weaker state) :
    Visits next source labels target weaker := by
  rcases visits with ⟨earlier, later, state, split, before, after, holds⟩
  exact ⟨earlier, later, state, split, before, after, weaken state holds⟩

theorem Visits.later (first : next source label middle)
    (visits : Visits next middle labels target property) :
    Visits next source (label :: labels) target property := by
  rcases visits with ⟨earlier, later, state, rfl, before, after, holds⟩
  exact ⟨label :: earlier, later, state, rfl, .step first before, after, holds⟩

/-- What holds after a run has held from the start, or some step of the run brought
it about. -/
theorem Run.visits_of_gained (gained : σ → Prop)
    (gains : ∀ {source label target}, next source label target → gained target →
      gained source ∨ property source)
    (run : Run next source labels target) (now : gained target) :
    gained source ∨ Visits next source labels target property := by
  induction run with
  | refl state => exact Or.inl now
  | step first rest inductionHypothesis =>
      rcases inductionHypothesis now with already | visits
      · rcases gains first already with already | holds
        · exact Or.inl already
        · exact Or.inr (.head holds (.step first rest))
      · exact Or.inr (visits.later first)

/-- Begin a run by a step. -/
theorem Run.reach {goal : σ → Prop} (first : next source label middle)
    (rest : ∃ labels target, Run next middle labels target ∧ goal target) :
    ∃ labels target, Run next source labels target ∧ goal target := by
  rcases rest with ⟨labels, target, run, reached⟩
  exact ⟨label :: labels, target, .step first run, reached⟩

/-- A property kept by every step with an allowed label is kept by every run of them. -/
theorem Run.invariant_of_allowed (property : σ → Prop) (allowed : Λ → Prop)
    (keeps : ∀ {source label target}, property source → allowed label →
      next source label target → property target)
    (run : Run next source labels target) (all : ∀ label ∈ labels, allowed label)
    (start : property source) : property target := by
  induction run with
  | refl state => exact start
  | step first rest inductionHypothesis =>
      exact inductionHypothesis (fun label member => all label (List.mem_cons_of_mem _ member))
        (keeps start (all _ List.mem_cons_self) first)

/-- Where every label can be followed from every state, so can every list of them. -/
theorem Run.exists_of_total (total : ∀ source label, ∃ target, next source label target)
    (source : σ) (labels : List Λ) : ∃ target, Run next source labels target := by
  induction labels generalizing source with
  | nil => exact ⟨source, .refl source⟩
  | cons label labels inductionHypothesis =>
      rcases total source label with ⟨middle, first⟩
      rcases inductionHypothesis middle with ⟨target, rest⟩
      exact ⟨target, .step first rest⟩

/-- A long enough run ends in a state that is not busy, if no step makes a state busy and
every step to a busy state decreases a measure. -/
theorem Run.settles {busy : σ → Prop} {allowed : Λ → Prop} (measure : σ → Nat)
    (keeps : ∀ {source label target}, property source → allowed label →
      next source label target → property target)
    (decreases : ∀ {source label target}, property source → allowed label →
      next source label target → busy target → busy source ∧ measure target < measure source)
    (run : Run next source labels target) (start : property source)
    (all : ∀ label ∈ labels, allowed label) (enough : measure source < labels.length) :
    ¬ busy target := by
  have bounded : busy target → busy source ∧ measure target + labels.length ≤ measure source := by
    clear enough
    induction run with
    | refl state => exact fun busyTarget => ⟨busyTarget, Nat.le_refl _⟩
    | step first rest inductionHypothesis =>
        intro busyTarget
        have allowedFirst := all _ List.mem_cons_self
        have allowedRest := fun label member => all label (List.mem_cons_of_mem _ member)
        rcases inductionHypothesis (keeps start allowedFirst first) allowedRest busyTarget with
          ⟨busyMiddle, remaining⟩
        rcases decreases start allowedFirst first busyMiddle with ⟨busySource, less⟩
        rw [List.length_cons]
        exact ⟨busySource, by omega⟩
  intro busyTarget
  have remaining := (bounded busyTarget).2
  omega

/-- The unwinding conditions for deleting the steps that are not `kept`. -/
structure Unwinds {τ : Type w} (full : σ → Λ → σ → Prop) (part : τ → Λ → τ → Prop)
    (kept : Λ → Bool) (agrees : σ → τ → Prop) : Prop where
  delete : ∀ {source label target seen}, agrees source seen → full source label target →
    kept label = false → agrees target seen
  keep : ∀ {source label target seen}, agrees source seen → full source label target →
    kept label = true → ∃ after, part seen label after ∧ agrees target after

/-- What is left of a run after the deletion is a run of the smaller system. -/
theorem Run.delete {τ : Type w} {part : τ → Λ → τ → Prop} {kept : Λ → Bool}
    {agrees : σ → τ → Prop} {seen : τ} (unwinds : Unwinds next part kept agrees)
    (run : Run next source labels target) (start : agrees source seen) :
    ∃ after, Run part seen (labels.filter kept) after ∧ agrees target after := by
  induction run generalizing seen with
  | refl state => exact ⟨seen, .refl seen, start⟩
  | @step source middle target label labels first rest inductionHypothesis =>
      by_cases keeps : kept label = true
      · rcases unwinds.keep start first keeps with ⟨between, step, agreed⟩
        rcases inductionHypothesis agreed with ⟨after, run, agreed⟩
        rw [List.filter_cons_of_pos keeps]
        exact ⟨after, .step step run, agreed⟩
      · rw [List.filter_cons_of_neg keeps]
        exact inductionHypothesis (unwinds.delete start first (Bool.eq_false_iff.mpr keeps))

end OidcExchange.Process
