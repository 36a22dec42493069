import OidcExchange.Process.Program

/-!
# Laws of the operations of one program

A law says which operation a program may perform after which history, and which
result may end which history.  `Lawful` is checked by following the program
text; it then holds of every path, also of one that was cut off.
-/

namespace OidcExchange.Process.Program

universe u v

variable {Op : Type u} {Answer : Op → Type v} {α : Type v}
  {allowed : List (Event Answer) → Op → Prop} {final : List (Event Answer) → α → Prop}

/-- After `history`, every further operation of the program is allowed by what
precedes it, and every result is right for the whole history. -/
def Lawful (allowed : List (Event Answer) → Op → Prop)
    (final : List (Event Answer) → α → Prop) :
    Program Answer α → List (Event Answer) → Prop
  | .done result, history => final history result
  | .call op next, history => allowed history op ∧
      ∀ answer, Lawful allowed final (next answer) (history ++ [⟨op, answer⟩])

/-- A path of a lawful program leaves a lawful program. -/
theorem Lawful.path {program target : Program Answer α} {history events : List (Event Answer)}
    (lawful : program.Lawful allowed final history) (path : Path program events target) :
    target.Lawful allowed final (history ++ events) := by
  induction path generalizing history with
  | refl program =>
      rw [List.append_nil]
      exact lawful
  | step rest inductionHypothesis =>
      rw [List.append_cons]
      exact inductionHypothesis (lawful.2 _)

/-- A weaker condition on the result also holds. -/
theorem Lawful.mono {target : List (Event Answer) → α → Prop} {program : Program Answer α}
    {history : List (Event Answer)} (lawful : program.Lawful allowed final history)
    (weaken : ∀ history result, final history result → target history result) :
    program.Lawful allowed target history := by
  induction program generalizing history with
  | done result => exact weaken history result lawful
  | call op next inductionHypothesis =>
      exact ⟨lawful.1, fun answer => inductionHypothesis answer (lawful.2 answer)⟩

/-- The rule of sequential composition. -/
theorem Lawful.bind {β : Type v} {program : Program Answer α} {next : α → Program Answer β}
    {target : List (Event Answer) → β → Prop} {history : List (Event Answer)}
    (first : program.Lawful allowed final history)
    (second : ∀ history result, final history result →
      (next result).Lawful allowed target history) :
    (program.bind next).Lawful allowed target history := by
  induction program generalizing history with
  | done result => exact second history result first
  | call op rest inductionHypothesis =>
      exact ⟨first.1, fun answer => inductionHypothesis answer (first.2 answer)⟩

/-- The rule of fallible sequential composition. -/
theorem Lawful.bindOk {β ε : Type v} {program : Program Answer (Except ε α)}
    {next : α → Program Answer (Except ε β)}
    {middle : List (Event Answer) → Except ε α → Prop}
    {target : List (Event Answer) → Except ε β → Prop} {history : List (Event Answer)}
    (first : program.Lawful allowed middle history)
    (failed : ∀ history failure, middle history (.error failure) →
      target history (.error failure))
    (second : ∀ history result, middle history (.ok result) →
      (next result).Lawful allowed target history) :
    (program.bindOk next).Lawful allowed target history := by
  apply first.bind
  intro history result known
  cases result with
  | error failure => exact failed history failure known
  | ok result => exact second history result known

/-- Every operation on a path is allowed by the operations before it. -/
theorem Lawful.operation {program target : Program Answer α}
    {history before after : List (Event Answer)} {event : Event Answer}
    (lawful : program.Lawful allowed final history)
    (path : Path program (before ++ event :: after) target) :
    allowed (history ++ before) event.1 := by
  induction before generalizing program history with
  | nil =>
      cases path with
      | step rest =>
          rw [List.append_nil]
          exact lawful.1
  | cons first before inductionHypothesis =>
      cases path with
      | step rest =>
          have later := inductionHypothesis (lawful.2 _) rest
          rwa [List.append_assoc] at later

/-- The result of a completed path is right for its operations. -/
theorem Lawful.result {program : Program Answer α} {events : List (Event Answer)} {result : α}
    (lawful : program.Lawful allowed final []) (path : Path program events (.done result)) :
    final events result :=
  lawful.path path

end OidcExchange.Process.Program

namespace OidcExchange.Process

universe u v

variable {Op : Type u} {Answer : Op → Type v} [DecidableEq Op] {op other : Op}
  {events : List (Event Answer)}

/-- The first answer that an operation received. -/
def answerTo (op : Op) : List (Event Answer) → Option (Answer op)
  | [] => none
  | event :: events => if same : event.1 = op then some (same ▸ event.2) else answerTo op events

@[simp]
theorem answerTo_cons_self (answer : Answer op) :
    answerTo op (⟨op, answer⟩ :: events) = some answer :=
  dif_pos rfl

@[simp]
theorem answerTo_cons_of_ne (answer : Answer other) (different : other ≠ op) :
    answerTo op (⟨other, answer⟩ :: events) = answerTo op events :=
  dif_neg different

/-- A first answer stays the first answer. -/
theorem answerTo_append {answer : Answer op} (later : List (Event Answer))
    (found : answerTo op events = some answer) :
    answerTo op (events ++ later) = some answer := by
  induction events with
  | nil => contradiction
  | cons event events inductionHypothesis =>
      rw [List.cons_append, answerTo] at *
      by_cases same : event.1 = op
      · rw [dif_pos same] at *
        exact found
      · rw [dif_neg same] at *
        exact inductionHypothesis found

end OidcExchange.Process
