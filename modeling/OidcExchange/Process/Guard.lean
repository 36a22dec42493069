import OidcExchange.Process.Program

/-!
# Programs with a drop guard

A program may own a value with a destructor.  The destructor runs when the program returns,
and also when its caller drops it, which can happen wherever the program awaits an operation
and nowhere else.  Either way the destructor runs exactly once, after everything else.
-/

namespace OidcExchange.Process

universe u v

/-- The operations of a program with a guard: those that return at once, those that are
awaited, and those of the destructor. -/
inductive GuardedOp (Op Own : Type u) where
  | sync (op : Op)
  | await (op : Op)
  | own (op : Own)

/-- The answer to an awaited operation is `none` if the program is dropped there. -/
@[reducible]
def GuardedAnswer {Op Own : Type u} (Answer : Op → Type v) (OwnAnswer : Own → Type v) :
    GuardedOp Op Own → Type v
  | .sync op => Answer op
  | .await op => Option (Answer op)
  | .own op => OwnAnswer op

namespace Program

variable {Op Own : Type u} {Answer : Op → Type v} {OwnAnswer : Own → Type v} {α β γ : Type v}

/-- The destructor among the other operations. -/
def own (Answer : Op → Type v) (program : Program OwnAnswer α) :
    Program (GuardedAnswer Answer OwnAnswer) α :=
  program.interpret fun op => .call (.own op) .done

/-- The program with its destructor; the result is `none` if it was dropped. -/
def guarded : Program Answer α → (Op → Bool) → Program OwnAnswer γ →
    Program (GuardedAnswer Answer OwnAnswer) (Option α)
  | .done result, _, destructor => (destructor.own Answer).bind fun _ => .done (some result)
  | .call op next, awaited, destructor =>
      if awaited op then
        .call (.await op) fun answer =>
          answer.elim ((destructor.own Answer).bind fun _ => .done none) fun answer =>
            (next answer).guarded awaited destructor
      else
        .call (.sync op) fun answer => (next answer).guarded awaited destructor

/-- What an event says about the program itself. -/
@[simp]
def source? : Event (GuardedAnswer Answer OwnAnswer) → Option (Event Answer)
  | ⟨.sync op, answer⟩ => some ⟨op, answer⟩
  | ⟨.await op, some answer⟩ => some ⟨op, answer⟩
  | _ => none

/-- What an event says about the destructor. -/
@[simp]
def own? : Event (GuardedAnswer Answer OwnAnswer) → Option (Event OwnAnswer)
  | ⟨.own op, answer⟩ => some ⟨op, answer⟩
  | _ => none

variable {awaited : Op → Bool} {events : List (Event (GuardedAnswer Answer OwnAnswer))}

/-- The destructor runs to its end and performs nothing else. -/
theorem Path.of_own {destructor : Program OwnAnswer γ} {result outcome : β}
    (path : Path ((destructor.own Answer).bind fun _ => .done result) events (.done outcome)) :
    outcome = result ∧ events.filterMap source? = [] ∧
      ∃ last, Path destructor (events.filterMap own?) (.done last) := by
  induction destructor generalizing events with
  | done last =>
      cases path
      exact ⟨rfl, rfl, last, .refl _⟩
  | call op next inductionHypothesis =>
      cases path with
      | step rest =>
          rcases inductionHypothesis _ rest with ⟨same, quiet, last, path⟩
          exact ⟨same, quiet, last, .step path⟩

/-- The program has returned, or it was dropped at an awaited operation. -/
inductive Exited (awaited : Op → Bool) : Program Answer α → Option α → Prop
  | returned (result : α) : Exited awaited (.done result) (some result)
  | dropped {op : Op} {next : Answer op → Program Answer α} (awaits : awaited op = true) :
      Exited awaited (.call op next) none

/-- Every completed run is a run of the program up to its return or its drop, and one whole
run of the destructor. -/
theorem Path.of_guarded {destructor : Program OwnAnswer γ} {program : Program Answer α}
    {outcome : Option α} (path : Path (program.guarded awaited destructor) events (.done outcome)) :
    ∃ rest, Path program (events.filterMap source?) rest ∧ Exited awaited rest outcome ∧
      ∃ last, Path destructor (events.filterMap own?) (.done last) := by
  induction program generalizing events with
  | done result =>
      rcases Path.of_own path with ⟨rfl, quiet, last, destructed⟩
      rw [quiet]
      exact ⟨_, .refl _, .returned result, last, destructed⟩
  | call op next inductionHypothesis =>
      rw [guarded] at path
      split at path
      · rename_i awaits
        cases path with
        | @step _ _ answer later _ rest =>
            cases answer with
            | none =>
                rcases Path.of_own rest with ⟨rfl, quiet, last, destructed⟩
                have nothing : (⟨.await op, none⟩ :: later).filterMap source? = [] := quiet
                rw [nothing]
                exact ⟨_, .refl _, .dropped awaits, last, destructed⟩
            | some answer =>
                rcases inductionHypothesis answer rest with ⟨target, path, exited, destructed⟩
                exact ⟨target, .step path, exited, destructed⟩
      · cases path with
        | step rest =>
            rcases inductionHypothesis _ rest with ⟨target, path, exited, destructed⟩
            exact ⟨target, .step path, exited, destructed⟩

end Program

end OidcExchange.Process
