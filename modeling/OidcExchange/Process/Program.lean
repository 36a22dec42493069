import Mathlib.Logic.Basic

/-!
# Programs over an operation signature

An asynchronous function is modelled by the tree of its external operations:
either it has finished with a result, or it awaits the answer to one operation
and continues with whatever that answer is.  The tree is well founded, so a
program always finishes once every operation it performs is answered.

A `Path` records the operations of one execution together with their answers.
Nothing is assumed about the answers; the machines of `Process.Pool` restrict
them.
-/

namespace OidcExchange.Process

universe u v

/-- A program performs operations from `Op` and receives `Answer op` for each
of them. -/
inductive Program {Op : Type u} (Answer : Op → Type v) (α : Type v) where
  | done (result : α)
  | call (op : Op) (next : Answer op → Program Answer α)

/-- One performed operation with the answer it received. -/
abbrev Event {Op : Type u} (Answer : Op → Type v) :=
  Sigma Answer

namespace Program

variable {Op : Type u} {Answer : Op → Type v} {α β γ ε : Type v}

/-- Sequential composition. -/
def bind : Program Answer α → (α → Program Answer β) → Program Answer β
  | .done result, next => next result
  | .call op rest, next => .call op fun answer => (rest answer).bind next

instance : Monad (Program Answer) where
  pure := .done
  bind := bind

/-- Sequential composition of fallible programs: an error ends the
composition. -/
def bindOk (program : Program Answer (Except ε α))
    (next : α → Program Answer (Except ε β)) : Program Answer (Except ε β) :=
  program.bind fun
    | .error failure => .done (.error failure)
    | .ok result => next result

@[simp]
theorem bind_done (result : α) (next : α → Program Answer β) :
    (Program.done result : Program Answer α).bind next = next result :=
  rfl

@[simp]
theorem bind_call (op : Op) (rest : Answer op → Program Answer α)
    (next : α → Program Answer β) :
    (Program.call op rest).bind next = .call op fun answer => (rest answer).bind next :=
  rfl

@[simp]
theorem pure_eq_done (result : α) :
    (pure result : Program Answer α) = .done result :=
  rfl

@[simp]
theorem monad_bind_eq_bind (program : Program Answer α)
    (next : α → Program Answer β) :
    program >>= next = program.bind next :=
  rfl

@[simp]
theorem bindOk_error (failure : ε) (next : α → Program Answer (Except ε β)) :
    (Program.done (.error failure) : Program Answer (Except ε α)).bindOk next =
      .done (.error failure) :=
  rfl

@[simp]
theorem bindOk_ok (result : α) (next : α → Program Answer (Except ε β)) :
    (Program.done (.ok result) : Program Answer (Except ε α)).bindOk next = next result :=
  rfl

theorem bind_assoc (program : Program Answer α) (first : α → Program Answer β)
    (second : β → Program Answer γ) :
    (program.bind first).bind second =
      program.bind fun result => (first result).bind second := by
  induction program with
  | done result => rfl
  | call op rest inductionHypothesis =>
      simp only [bind_call, inductionHypothesis]

theorem bindOk_assoc (program : Program Answer (Except ε α))
    (first : α → Program Answer (Except ε β)) (second : β → Program Answer (Except ε γ)) :
    (program.bindOk first).bindOk second =
      program.bindOk fun result => (first result).bindOk second := by
  rw [bindOk, bindOk, bindOk, bind_assoc]
  congr 1
  funext result
  cases result with
  | error failure => rfl
  | ok result => rfl

/-- Replace every operation by the program that a handler gives for it. -/
def interpret {Op' : Type u} {Answer' : Op' → Type v}
    (handler : (op : Op) → Program Answer' (Answer op)) :
    Program Answer α → Program Answer' α
  | .done result => .done result
  | .call op next => (handler op).bind fun answer => (next answer).interpret handler

/-- `Path program events target`: answering the operations of `program` by
`events` leaves `target` to be executed. -/
inductive Path : Program Answer α → List (Event Answer) → Program Answer α → Prop
  | refl (program : Program Answer α) : Path program [] program
  | step {op : Op} {next : Answer op → Program Answer α} {answer : Answer op}
      {events : List (Event Answer)} {target : Program Answer α}
      (rest : Path (next answer) events target) :
      Path (.call op next) (⟨op, answer⟩ :: events) target

/-- Begin a path by an answer. -/
theorem Path.reach {op : Op} {next : Answer op → Program Answer α} {target : Program Answer α}
    {goal : List (Event Answer) → Prop} (answer : Answer op)
    (rest : ∃ events, Path (next answer) events target ∧ goal (⟨op, answer⟩ :: events)) :
    ∃ events, Path (.call op next) events target ∧ goal events := by
  rcases rest with ⟨events, path, reached⟩
  exact ⟨_, .step path, reached⟩

/-- One more answered operation extends a path at its end. -/
theorem Path.snoc {program : Program Answer α} {events : List (Event Answer)}
    {op : Op} {next : Answer op → Program Answer α} (answer : Answer op)
    (path : Path program events (.call op next)) :
    Path program (events ++ [⟨op, answer⟩]) (next answer) := by
  generalize targetEq : Program.call op next = target at path
  induction path with
  | refl program =>
      subst targetEq
      exact .step (.refl _)
  | step rest inductionHypothesis =>
      exact .step (inductionHypothesis targetEq)

/-- A path of a composition ends in the first program or goes through its result. -/
theorem Path.of_bind {program : Program Answer α} {next : α → Program Answer β}
    {events : List (Event Answer)} {target : Program Answer β}
    (path : Path (program.bind next) events target) :
    (∃ rest, Path program events rest ∧ target = rest.bind next) ∨
      ∃ result before after, events = before ++ after ∧ Path program before (.done result) ∧
        Path (next result) after target := by
  induction program generalizing events with
  | done result => exact Or.inr ⟨result, [], events, rfl, .refl _, path⟩
  | call op further inductionHypothesis =>
      cases path with
      | refl => exact Or.inl ⟨_, .refl _, rfl⟩
      | step rest =>
          rcases inductionHypothesis _ rest with
            ⟨remaining, path, targetEq⟩ | ⟨result, before, after, rfl, path, further⟩
          · exact Or.inl ⟨remaining, .step path, targetEq⟩
          · exact Or.inr ⟨result, _ :: before, after, rfl, .step path, further⟩

/-- A path goes through every part of its operations. -/
theorem Path.split {program target : Program Answer α} {before after : List (Event Answer)}
    (path : Path program (before ++ after) target) :
    ∃ middle, Path program before middle ∧ Path middle after target := by
  induction before generalizing program with
  | nil => exact ⟨program, .refl _, path⟩
  | cons event before inductionHypothesis =>
      cases path with
      | step rest =>
          rcases inductionHypothesis rest with ⟨middle, first, second⟩
          exact ⟨middle, .step first, second⟩

theorem Path.events_eq_nil {result : α} {target : Program Answer α}
    {events : List (Event Answer)} (path : Path (.done result) events target) : events = [] := by
  cases path
  rfl

/-- A completed program performs nothing more. -/
theorem Path.eq_of_done {result other : α} {events : List (Event Answer)}
    (path : Path (.done result) events (.done other : Program Answer α)) : result = other := by
  cases path
  rfl

/-- A path that completes begins with an answer to the first operation. -/
theorem Path.exists_of_call {op : Op} {next : Answer op → Program Answer α} {result : α}
    {events : List (Event Answer)}
    (path : Path (.call op next) events (.done result)) :
    ∃ answer rest, events = ⟨op, answer⟩ :: rest ∧ Path (next answer) rest (.done result) := by
  cases path with
  | step rest => exact ⟨_, _, rfl, rest⟩

end Program

end OidcExchange.Process
