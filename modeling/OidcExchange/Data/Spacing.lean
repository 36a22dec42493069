import Mathlib.Data.Int.Basic
import Mathlib.Data.List.Pairwise
import Mathlib.Tactic.Linarith

/-!
# Events that keep their distance

A list of instants, newest first, in which every two are at least `gap` apart
puts boundedly many of them into any window.
-/

namespace OidcExchange

variable {gap : Nat} {starts : List Int}

/-- Every two instants are at least `gap` apart; the newest stands first. -/
def Apart (gap : Nat) (starts : List Int) : Prop :=
  starts.Pairwise fun newer older : Int => older + gap ≤ newer

/-- Each further instant takes up another `gap` of the range. -/
theorem Apart.length_mul_le {first last : Int} (apart : Apart gap starts)
    (range : first ≤ last + gap) (inside : ∀ start ∈ starts, first ≤ start ∧ start ≤ last) :
    starts.length * gap ≤ last + gap - first := by
  induction starts generalizing last with
  | nil =>
      rw [List.length_nil, Nat.cast_zero, zero_mul]
      linarith
  | cons newest starts inductionHypothesis =>
      have newestInside := inside newest List.mem_cons_self
      rcases List.pairwise_cons.mp apart with ⟨before, apart⟩
      have older : starts.length * gap ≤ newest - gap + gap - first := by
        apply inductionHypothesis apart
        · linarith
        · intro start member
          have gapBefore := before start member
          exact ⟨(inside start (List.mem_cons_of_mem _ member)).1, by linarith⟩
      rw [List.length_cons, Nat.cast_add, Nat.cast_one, add_mul, one_mul]
      linarith

/-- A window of `seconds` holds at most one instant for each full `gap`, and one
more. -/
theorem Apart.countP_le (apart : Apart gap starts) (positive : 0 < gap) (start : Int)
    (seconds : Nat) :
    starts.countP (fun instant => decide (start ≤ instant ∧ instant ≤ start + seconds)) ≤
      seconds / gap + 1 := by
  rw [List.countP_eq_length_filter, ← Nat.add_div_right seconds positive,
    Nat.le_div_iff_mul_le positive]
  have inside : ∀ instant ∈ starts.filter fun instant =>
      decide (start ≤ instant ∧ instant ≤ start + seconds),
      start ≤ instant ∧ instant ≤ start + seconds := by
    intro instant member
    exact of_decide_eq_true (List.mem_filter.mp member).2
  have apart : Apart gap (starts.filter fun instant =>
      decide (start ≤ instant ∧ instant ≤ start + seconds)) :=
    List.Pairwise.filter _ apart
  have bound := apart.length_mul_le (by linarith) inside
  zify
  linarith

end OidcExchange
