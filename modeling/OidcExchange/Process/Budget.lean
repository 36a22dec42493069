import OidcExchange.Process.Program

/-!
# Budgets for the operations of a program

`Within weight left budget` bounds the total weight of the operations on every path of a
program, whatever they are answered and wherever the program is cut off, and says what is
left of the budget for each result.  What one program leaves is the budget of the next.
-/

namespace OidcExchange.Process.Program

universe u v

variable {Op : Type u} {Answer : Op → Type v} {α β ε : Type v} {weight : Op → Nat}
  {left : α → Nat} {budget : Nat}

/-- Every path performs operations of total weight at most `budget`, and a result leaves
`left` of it. -/
def Within (weight : Op → Nat) (left : α → Nat) : Nat → Program Answer α → Prop
  | budget, .done result => left result ≤ budget
  | budget, .call op next => weight op ≤ budget ∧
      ∀ answer, Within weight left (budget - weight op) (next answer)

theorem within_done {result : α} (le : left result ≤ budget) :
    (Program.done result : Program Answer α).Within weight left budget :=
  le

/-- An operation takes its weight from the budget. -/
theorem within_call {op : Op} {next : Answer op → Program Answer α}
    (rest : ∀ answer, (next answer).Within weight left budget) :
    (Program.call op next).Within weight left (budget + weight op) := by
  refine ⟨Nat.le_add_left _ _, ?_⟩
  intro answer
  rw [Nat.add_sub_cancel_right]
  exact rest answer

theorem Within.mono {program : Program Answer α} {larger : Nat}
    (within : program.Within weight left budget) (le : budget ≤ larger) :
    program.Within weight left larger := by
  induction program generalizing budget larger with
  | done result => exact Nat.le_trans within le
  | call op next inductionHypothesis =>
      refine ⟨Nat.le_trans within.1 le, ?_⟩
      intro answer
      exact inductionHypothesis answer (within.2 answer) (Nat.sub_le_sub_right le _)

/-- The rule of sequential composition. -/
theorem Within.bind {program : Program Answer α} {next : α → Program Answer β}
    {target : β → Nat} (within : program.Within weight left budget)
    (rest : ∀ result, (next result).Within weight target (left result)) :
    (program.bind next).Within weight target budget := by
  induction program generalizing budget with
  | done result => exact (rest result).mono within
  | call op further inductionHypothesis =>
      exact ⟨within.1, fun answer => inductionHypothesis answer (within.2 answer)⟩

/-- The rule of fallible sequential composition. -/
theorem Within.bindOk {program : Program Answer (Except ε α)}
    {next : α → Program Answer (Except ε β)} {left : Except ε α → Nat}
    {target : Except ε β → Nat} (within : program.Within weight left budget)
    (failed : ∀ failure, target (.error failure) ≤ left (.error failure))
    (rest : ∀ result, (next result).Within weight target (left (.ok result))) :
    (program.bindOk next).Within weight target budget := by
  apply within.bind
  intro result
  cases result with
  | error failure => exact failed failure
  | ok result => exact rest result

/-- What a path has spent. -/
def spent (weight : Op → Nat) : List (Event Answer) → Nat
  | [] => 0
  | event :: events => weight event.1 + spent weight events

/-- No path overspends. -/
theorem Within.path {program target : Program Answer α} {events : List (Event Answer)}
    (within : program.Within weight left budget) (path : Path program events target) :
    spent weight events ≤ budget := by
  induction path generalizing budget with
  | refl program => exact Nat.zero_le _
  | step rest inductionHypothesis =>
      have later := inductionHypothesis (within.2 _)
      exact Nat.add_le_of_le_sub' within.1 later

end OidcExchange.Process.Program
