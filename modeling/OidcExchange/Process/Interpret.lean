import OidcExchange.Process.Program

/-!
# The operations of an interpreted program

When every operation of a program is carried out by a program of its own, a run expands the
answered operations of the source program, one after the other, and stops inside the program
of at most one more.
-/

namespace OidcExchange.Process.Program

universe u v

variable {Op Op' : Type u} {Answer : Op → Type v} {Answer' : Op' → Type v} {α : Type v}
  {handler : (op : Op) → Program Answer' (Answer op)}

/-- Each answered operation is expanded to a completed run of its handler. -/
inductive Expands (handler : (op : Op) → Program Answer' (Answer op)) :
    List (Event Answer) → List (Event Answer') → Prop
  | nil : Expands handler [] []
  | cons {op : Op} {answer : Answer op} {block expanded : List (Event Answer')}
      {source : List (Event Answer)} (run : Path (handler op) block (.done answer))
      (rest : Expands handler source expanded) :
      Expands handler (⟨op, answer⟩ :: source) (block ++ expanded)

/-- A completed run completes the source program. -/
theorem Path.exists_source {program : Program Answer α} {events : List (Event Answer')}
    {result : α} (path : Path (program.interpret handler) events (.done result)) :
    ∃ source, Path program source (.done result) ∧ Expands handler source events := by
  induction program generalizing events with
  | done result =>
      cases path with
      | refl => exact ⟨[], .refl _, .nil⟩
  | call op next inductionHypothesis =>
      rcases Path.of_bind path with ⟨rest, run, targetEq⟩ | ⟨answer, block, events, rfl, run, path⟩
      · cases rest with
        | call op rest => exact nomatch targetEq
        | done answer =>
            have completed : Path ((next answer).interpret handler) [] (.done result) := by
              rw [targetEq]
              exact .refl _
            rcases inductionHypothesis answer completed with ⟨source, sourcePath, expands⟩
            rw [← List.append_nil events]
            exact ⟨_, .step sourcePath, .cons run expands⟩
      · rcases inductionHypothesis answer path with ⟨source, sourcePath, expands⟩
        exact ⟨_, .step sourcePath, .cons run expands⟩

theorem Path.trans {program middle target : Program Answer α} {before after : List (Event Answer)}
    (first : Path program before middle) (second : Path middle after target) :
    Path program (before ++ after) target := by
  induction first with
  | refl program => exact second
  | step rest inductionHypothesis => exact .step (inductionHypothesis second)

theorem Path.bind {β : Type v} {program : Program Answer α} {next : α → Program Answer β}
    {events : List (Event Answer)} {rest : Program Answer α} (path : Path program events rest) :
    Path (program.bind next) events (rest.bind next) := by
  induction path with
  | refl program => exact .refl _
  | step rest inductionHypothesis => exact .step inductionHypothesis

/-- Runs of the handlers make up a run of the interpreted program. -/
theorem Path.expand {program target : Program Answer α} {source : List (Event Answer)}
    {expanded : List (Event Answer')} (path : Path program source target)
    (expands : Expands handler source expanded) :
    Path (program.interpret handler) expanded (target.interpret handler) := by
  induction path generalizing expanded with
  | refl program =>
      cases expands with
      | nil => exact .refl _
  | step rest inductionHypothesis =>
      cases expands with
      | cons run expands => exact run.bind.trans (inductionHypothesis expands)

/-- The completed run that an operation of the source was expanded to. -/
theorem Expands.block {source : List (Event Answer)} {expanded : List (Event Answer')}
    {op : Op} {answer : Answer op} (expands : Expands handler source expanded)
    (mem : (⟨op, answer⟩ : Event Answer) ∈ source) :
    ∃ block, Path (handler op) block (.done answer) ∧ ∀ event ∈ block, event ∈ expanded := by
  induction expands with
  | nil => exact absurd mem List.not_mem_nil
  | cons run rest inductionHypothesis =>
      rcases List.mem_cons.mp mem with same | later
      · cases same
        exact ⟨_, run, fun event inside => List.mem_append_left _ inside⟩
      · rcases inductionHypothesis later with ⟨block, run, included⟩
        exact ⟨block, run, fun event inside => List.mem_append_right _ (included event inside)⟩

/-- The operation of the source that an operation was expanded from. -/
theorem Expands.exists_of_mem {source : List (Event Answer)} {expanded : List (Event Answer')}
    {event : Event Answer'} (expands : Expands handler source expanded) (mem : event ∈ expanded) :
    ∃ op answer block, (⟨op, answer⟩ : Event Answer) ∈ source ∧
      Path (handler op) block (.done answer) ∧ event ∈ block := by
  induction expands with
  | nil => exact absurd mem List.not_mem_nil
  | cons run rest inductionHypothesis =>
      rcases List.mem_append.mp mem with inside | later
      · exact ⟨_, _, _, List.mem_cons_self, run, inside⟩
      · rcases inductionHypothesis later with ⟨op, answer, block, before, run, inside⟩
        exact ⟨op, answer, block, List.mem_cons_of_mem _ before, run, inside⟩

/-- Renaming the operations renames the operations of every path. -/
theorem Path.of_relabel {relabel : Op → Op'} {answers : (op : Op) → Answer' (relabel op) → Answer op}
    {program : Program Answer α} {events : List (Event Answer')} {target : Program Answer' α}
    (path : Path (program.interpret fun op => .call (relabel op) fun answer =>
      .done (answers op answer)) events target) :
    ∃ (source : List (Sigma fun op => Answer' (relabel op))) (rest : Program Answer α),
      events = source.map (fun event => ⟨relabel event.1, event.2⟩) ∧
      Path program (source.map fun event => ⟨event.1, answers event.1 event.2⟩) rest ∧
      target = rest.interpret fun op => .call (relabel op) fun answer =>
        .done (answers op answer) := by
  induction program generalizing events with
  | done result =>
      cases path with
      | refl => exact ⟨[], _, rfl, .refl _, rfl⟩
  | call op next inductionHypothesis =>
      cases path with
      | refl => exact ⟨[], _, rfl, .refl _, rfl⟩
      | @step _ _ answer _ _ path =>
          rcases inductionHypothesis _ path with ⟨source, rest, rfl, path, targetEq⟩
          exact ⟨⟨op, answer⟩ :: source, rest, rfl, .step path, targetEq⟩

/-- Every operation of an interpreted program belongs to one operation of the source program,
and the operations of the source before it have been carried out. -/
theorem Path.origin {program : Program Answer α} {before after : List (Event Answer')}
    {event : Event Answer'} {target : Program Answer' α}
    (path : Path (program.interpret handler) (before ++ event :: after) target) :
    ∃ source op next expanded inner remainder,
      Path program source (.call op next) ∧ Expands handler source expanded ∧
      before = expanded ++ inner ∧ Path (handler op) (inner ++ [event]) remainder := by
  induction program generalizing before with
  | done result => exact absurd path.events_eq_nil (List.append_ne_nil_of_right_ne_nil _ nofun)
  | call op next inductionHypothesis =>
      rcases Path.of_bind path with ⟨rest, run, -⟩ | ⟨answer, block, events, eventsEq, run, path⟩
      · rw [List.append_cons] at run
        rcases run.split with ⟨remainder, run, -⟩
        exact ⟨[], op, next, [], before, remainder, .refl _, .nil, rfl, run⟩
      · rcases List.append_eq_append_iff.mp eventsEq.symm with
          ⟨later, rfl, rfl⟩ | ⟨front, rfl, frontEq⟩
        · -- the event follows the block
          rcases inductionHypothesis answer path with
            ⟨source, other, further, expanded, inner, remainder, sourcePath, expands, rfl, run'⟩
          exact ⟨_, other, further, block ++ expanded, inner, remainder, .step sourcePath,
            .cons run expands, (List.append_assoc _ _ _).symm, run'⟩
        · cases front with
          | nil =>
              rw [List.nil_append] at frontEq
              subst frontEq
              rw [← List.nil_append (event :: after)] at path
              rcases inductionHypothesis answer path with
                ⟨source, other, further, expanded, inner, remainder, sourcePath, expands, nilEq,
                  run'⟩
              refine ⟨_, other, further, _, inner, remainder, .step sourcePath,
                .cons run expands, ?_, run'⟩
              rw [List.append_nil, List.append_assoc, ← nilEq, List.append_nil]
          | cons first front =>
              cases frontEq
              rw [List.append_cons] at run
              rcases run.split with ⟨remainder, run, -⟩
              exact ⟨[], op, next, [], before, remainder, .refl _, .nil, rfl, run⟩

end OidcExchange.Process.Program
