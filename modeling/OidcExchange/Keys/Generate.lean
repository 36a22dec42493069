import OidcExchange.Keys.Commands
import OidcExchange.Process.Trace

/-!
# Concurrent generations

Any number of `generate` processes on one path, beside programs that create files.  The
last check of the path and the rename are two operations.  Between them the path may
appear, and then the rename replaces what is there.
-/

namespace OidcExchange.Keys

open OidcExchange.Oidc OidcExchange.Process

/-! ## The operations of one process -/

/-- The place is a temporary file of the process. -/
def Draft (location : Location) (history : List (Event Answer)) (place : Location) : Prop :=
  ∃ uuid, place = location.temp uuid ∧ (⟨.newUuid, uuid⟩ : Event Answer) ∈ history

/-- The last operation has found nothing at the path. -/
def Checked (location : Location) (history : List (Event Answer)) : Prop :=
  ∃ earlier, history = earlier ++ [⟨.symlinkMetadata location, none⟩]

/-- A process writes its temporary files only, until it renames one of them right after
it has found nothing at the path. -/
def GenerateAllows (location : Location) (history : List (Event Answer)) : Op → Prop
  | .createNew place _ => Draft location history place
  | .writeDocument place _ => Draft location history place
  | .writeNewline place => Draft location history place
  | .removeFile place => Draft location history place
  | .rename source target => target = location ∧ Draft location history source ∧
      Checked location history
  | _ => True

/-- The process has put its file in place. -/
def Renamed (location : Location) (history : List (Event Answer)) : Prop :=
  ∃ source, (⟨.rename source location, true⟩ : Event Answer) ∈ history

section Law

variable {E R : Type} {library : ToolLibrary E R} {location place : Location}
  {history later : List (Event Answer)}

theorem Draft.mono (draft : Draft location history place) (extends_ : history <+: later) :
    Draft location later place := by
  rcases draft with ⟨uuid, same, member⟩
  exact ⟨uuid, same, extends_.subset member⟩

theorem Renamed.append (renamed : Renamed location history) (events : List (Event Answer)) :
    Renamed location (history ++ events) := by
  rcases renamed with ⟨source, member⟩
  exact ⟨source, List.mem_append_left _ member⟩

theorem attempt_lawful {op : Op} {succeeded : Answer op → Bool}
    (allowed : GenerateAllows location history op) :
    (attempt op succeeded).Lawful (GenerateAllows location)
      (fun later result => history <+: later ∧ (result = .ok () →
        ∃ answer, succeeded answer = true ∧ (⟨op, answer⟩ : Event Answer) ∈ later)) history := by
  refine ⟨allowed, fun answer => ⟨List.prefix_append _ _, ?_⟩⟩
  intro ok
  refine ⟨answer, ?_, by simp⟩
  by_contra failed
  rw [if_neg failed] at ok
  contradiction

theorem validatePrivate_lawful {algorithm : Algorithm} :
    (validatePrivate library place algorithm).Lawful (GenerateAllows location)
      (fun later _ => history <+: later) history := by
  have metadata : (validatePrivateMetadata place).Lawful (GenerateAllows location)
      (fun later _ => history <+: later) history := by
    refine ⟨trivial, ?_⟩
    rintro (_ | metadata)
    · exact List.prefix_append _ _
    · dsimp only
      split
      · exact List.prefix_append _ _
      · exact List.prefix_append _ _
  apply metadata.bindOk
  · intro later failure extended
    exact extended
  · intro later _ extended
    refine ⟨trivial, fun now => ⟨trivial, fun content => ?_⟩⟩
    have reached : history <+: later ++ [⟨.utcNow, now⟩] ++ [⟨.read place, content⟩] :=
      (extended.trans (List.prefix_append _ _)).trans (List.prefix_append _ _)
    dsimp only
    split
    · exact reached
    · exact reached

theorem refuseOverwrite_lawful {text : String} :
    (refuseOverwrite location false text).Lawful (GenerateAllows location)
      (fun later result => history <+: later ∧ (result = .ok () → Checked location later))
      history := by
  refine ⟨trivial, ?_⟩
  rintro (_ | metadata)
  · exact ⟨List.prefix_append _ _, fun _ => ⟨history, rfl⟩⟩
  · exact ⟨List.prefix_append _ _, nofun⟩

theorem newKey_lawful {algorithm : Algorithm} {kid : String} {validityDays : Nat} :
    (newKey library algorithm kid validityDays).Lawful (GenerateAllows location)
      (fun _ _ => True) history := by
  refine ⟨trivial, fun now => ?_⟩
  dsimp only
  split
  · refine ⟨trivial, ?_⟩
    rintro (_ | material)
    · trivial
    · trivial
  · trivial

theorem writeTemp_lawful {document : Json} {temp : Location}
    (draft : Draft location history temp) :
    (writeTemp library location temp document false).Lawful (GenerateAllows location)
      (fun later result => history <+: later ∧ (result = .ok () → Renamed location later))
      history := by
  have failedEarly : ∀ {later : List (Event Answer)} {failure : Failure}, history <+: later →
      history <+: later ∧
        ((.error failure : Except Failure Unit) = .ok () → Renamed location later) :=
    fun extended => ⟨extended, nofun⟩
  have mayCreate : GenerateAllows location history (.createNew temp 0o600) := draft
  apply (attempt_lawful mayCreate).bindOk
  · exact fun later failure extended => failedEarly extended.1
  rintro created _ ⟨toCreated, _⟩
  have mayWrite : GenerateAllows location created (.writeDocument temp document) :=
    draft.mono toCreated
  apply (attempt_lawful mayWrite).bindOk
  · exact fun later failure extended => failedEarly (toCreated.trans extended.1)
  rintro written _ ⟨extended, _⟩
  have toWritten := toCreated.trans extended
  have mayEnd : GenerateAllows location written (.writeNewline temp) := draft.mono toWritten
  apply (attempt_lawful mayEnd).bindOk
  · exact fun later failure extended => failedEarly (toWritten.trans extended.1)
  rintro ended _ ⟨extended, _⟩
  have toEnded := toWritten.trans extended
  have maySync : GenerateAllows location ended (.syncAll temp) := trivial
  apply (attempt_lawful maySync).bindOk
  · exact fun later failure extended => failedEarly (toEnded.trans extended.1)
  rintro synced _ ⟨extended, _⟩
  have toSynced := toEnded.trans extended
  apply validatePrivate_lawful.bindOk
  · exact fun later failure extended => failedEarly (toSynced.trans extended)
  rintro validated _ extended
  have toValidated := toSynced.trans extended
  apply refuseOverwrite_lawful.bindOk
  · exact fun later failure extended => failedEarly (toValidated.trans extended.1)
  rintro checked _ ⟨extended, isChecked⟩
  have toChecked := toValidated.trans extended
  have allowed : GenerateAllows location checked (.rename temp location) :=
    ⟨rfl, draft.mono toChecked, isChecked rfl⟩
  refine ⟨allowed, fun answer => ⟨toChecked.trans (List.prefix_append _ _), ?_⟩⟩
  intro ok
  cases answer with
  | false => contradiction
  | true => exact ⟨temp, List.mem_append_right _ (List.mem_singleton_self _)⟩

theorem writePrivate_lawful {document : Json} :
    (writePrivate library location document false).Lawful (GenerateAllows location)
      (fun later result => result = .ok () → Renamed location later) history := by
  refine ⟨trivial, ?_⟩
  rintro (_ | _)
  · nofun
  apply refuseOverwrite_lawful.bindOk
  · nofun
  rintro checked _ _
  refine ⟨trivial, fun uuid => ?_⟩
  have draft : Draft location (checked ++ [⟨.newUuid, uuid⟩]) (location.temp uuid) :=
    ⟨uuid, rfl, List.mem_append_right _ (List.mem_singleton_self _)⟩
  apply (writeTemp_lawful draft).bind
  rintro later (failure | _) ⟨extended, renamed⟩
  · exact ⟨draft.mono extended, fun _ => nofun⟩
  · exact fun _ => renamed rfl

/-- The law of a `generate` process. -/
theorem generate_lawful (generation : Generation) :
    (run library location generation.command).Lawful (GenerateAllows location)
      (fun later result => result = .ok () → Renamed location later) [] := by
  unfold run
  split
  · nofun
  have executed : (execute library location generation.command).Lawful (GenerateAllows location)
      (fun later result => result = .ok () → Renamed location later) [] := by
    apply refuseOverwrite_lawful.bindOk
    · nofun
    rintro checked _ _
    apply newKey_lawful.bindOk
    · nofun
    rintro made key _
    exact writePrivate_lawful
  apply executed.bindOk
  · nofun
  rintro later _ renamed
  refine ⟨trivial, fun printed => ?_⟩
  exact fun _ => (renamed rfl).append _

end Law

/-! ## What an operation does to the path -/

section Effects

variable {lossy : Prop} {umask : Nat} {location : Location} {before after : World} {op : Op}
  {answer : Answer op}

theorem uuids_of_perform (effect : perform lossy umask before op answer after) :
    ∀ uuid ∈ before.uuids, uuid ∈ after.uuids := by
  intro uuid member
  cases op with
  | symlinkMetadata place => exact effect.1 ▸ member
  | isDir parent => exact (show after = before from effect) ▸ member
  | read place => exact effect.1 ▸ member
  | createNew place mode =>
      rcases effect with ⟨_, rfl⟩ | ⟨_, _, rfl⟩
      · exact member
      · exact member
  | writeDocument place document =>
      rcases effect with ⟨node, _, ⟨_, rfl⟩ | ⟨_, raw, rfl⟩⟩
      · exact member
      · exact member
  | writeNewline place =>
      rcases effect with ⟨_, rfl⟩ | ⟨node, _, _, rfl⟩
      · exact member
      · exact member
  | syncAll place => exact (show after = before from effect) ▸ member
  | rename source target =>
      rcases effect with ⟨_, rfl⟩ | ⟨node, _, _, _, rfl⟩
      · exact member
      · exact member
  | removeFile place =>
      rcases effect with ⟨_, rfl⟩ | ⟨_, rfl⟩
      · exact member
      · exact member
  | utcNow => exact (show after = _ from effect) ▸ member
  | newUuid => exact effect.2 ▸ List.mem_cons_of_mem _ member
  | randomKey algorithm => exact effect.1 ▸ member
  | print => exact (show after = before from effect) ▸ member

/-- Only a rename onto the path changes what is there. -/
theorem nodes_of_perform {history : List (Event Answer)}
    (allowed : GenerateAllows location history op)
    (drafts : ∀ place, Draft location history place → place ≠ location)
    (effect : perform lossy umask before op answer after) :
    after.nodes location = before.nodes location ∨
      (∃ source, (⟨op, answer⟩ : Event Answer) = ⟨.rename source location, true⟩) ∧
        after.nodes location ≠ none := by
  cases op with
  | symlinkMetadata place => exact Or.inl (effect.1 ▸ rfl)
  | isDir parent => exact Or.inl ((show after = before from effect) ▸ rfl)
  | read place => exact Or.inl (effect.1 ▸ rfl)
  | createNew place mode =>
      rcases effect with ⟨_, rfl⟩ | ⟨_, _, rfl⟩
      · exact Or.inl rfl
      · exact Or.inl (World.put_nodes_of_ne (Ne.symm (drafts place allowed)))
  | writeDocument place document =>
      rcases effect with ⟨node, _, ⟨_, rfl⟩ | ⟨_, raw, rfl⟩⟩
      · exact Or.inl (World.put_nodes_of_ne (Ne.symm (drafts place allowed)))
      · exact Or.inl (World.put_nodes_of_ne (Ne.symm (drafts place allowed)))
  | writeNewline place =>
      rcases effect with ⟨_, rfl⟩ | ⟨node, _, _, rfl⟩
      · exact Or.inl rfl
      · exact Or.inl (World.put_nodes_of_ne (Ne.symm (drafts place allowed)))
  | syncAll place => exact Or.inl ((show after = before from effect) ▸ rfl)
  | rename source target =>
      rcases allowed with ⟨rfl, _, _⟩
      rcases effect with ⟨_, rfl⟩ | ⟨node, _, rfl, _, rfl⟩
      · exact Or.inl rfl
      · refine Or.inr ⟨⟨source, rfl⟩, ?_⟩
        rw [World.put_nodes_self]
        nofun
  | removeFile place =>
      rcases effect with ⟨_, rfl⟩ | ⟨_, rfl⟩
      · exact Or.inl rfl
      · exact Or.inl (World.put_nodes_of_ne (Ne.symm (drafts place allowed)))
  | utcNow => exact Or.inl ((show after = _ from effect) ▸ rfl)
  | newUuid => exact Or.inl (effect.2 ▸ rfl)
  | randomKey algorithm => exact Or.inl (effect.1 ▸ rfl)
  | print => exact Or.inl ((show after = before from effect) ▸ rfl)

end Effects

/-! ## Interleavings -/

section Runs

variable {E R ι : Type}

/-- The process has made its last check and is about to rename onto the path. -/
def Armed (location : Location) (config : Config ι Answer World (Except Failure Unit))
    (task : ι) : Prop :=
  ∃ source next, config.tasks task = some (.call (.rename source location) next)

/-- The process that takes a step. -/
def actor : Label ι Answer → Option ι
  | .perform task _ => some task
  | .cancel task _ => some task
  | .environment => none

/-- While a process stands between its last check and its rename, nobody else makes the
path appear. -/
def Undisturbed (location : Location) (source : Config ι Answer World (Except Failure Unit))
    (label : Label ι Answer) (target : Config ι Answer World (Except Failure Unit)) : Prop :=
  ∀ task, Armed location source task → source.shared.nodes location = none →
    target.shared.nodes location ≠ none → actor label = some task

variable [DecidableEq ι]

/-- Runs of undisturbed steps, in which `symlink_metadata` finds what is there. -/
def UndisturbedSteps (location : Location) (umask : Nat) :
    Config ι Answer World (Except Failure Unit) → Config ι Answer World (Except Failure Unit) →
      Prop :=
  Relation.ReflTransGen fun source target => ∃ label,
    Step (fileSystem False umask) source label target ∧ Undisturbed location source label target

/-- What holds between the steps of an undisturbed run. -/
structure Guarded (location : Location) (start : World)
    (config : Config ι Answer World (Except Failure Unit)) : Prop where
  fresh : ∀ task uuid, (⟨.newUuid, uuid⟩ : Event Answer) ∈ config.history task →
    uuid ∉ start.uuids
  known : ∀ uuid ∈ start.uuids, uuid ∈ config.shared.uuids
  armed : ∀ task, Armed location config task → config.shared.nodes location = none
  placed : ∀ task, Renamed location (config.history task) → config.shared.nodes location ≠ none
  unique : ∀ first second, Renamed location (config.history first) →
    Renamed location (config.history second) → first = second

variable {library : ToolLibrary E R} {location : Location} {umask : Nat}
  {generations : ι → Generation} {start : World}
  {config target : Config ι Answer World (Except Failure Unit)}

theorem UndisturbedSteps.steps {source : Config ι Answer World (Except Failure Unit)}
    (run : UndisturbedSteps location umask source target) :
    Steps (fileSystem False umask) source target := by
  induction run with
  | refl => exact .refl _
  | tail _ last inductionHypothesis =>
      rcases last with ⟨label, step, _⟩
      exact inductionHypothesis.tail step

omit [DecidableEq ι] in
theorem Guarded.drafts {task : ι} (guarded : Guarded location start config)
    (distinct : ∀ uuid, location.temp uuid = location → uuid ∈ start.uuids) :
    ∀ place, Draft location (config.history task) place → place ≠ location := by
  rintro place ⟨uuid, rfl, member⟩ collides
  exact guarded.fresh task uuid member (distinct uuid collides)

theorem allows_of_running
    (run : Steps (fileSystem False umask)
      (.initial start fun task => Keys.run library location (generations task).command) config)
    {task : ι} {op : Op} {next : Answer op → ToolProgram Unit}
    (running : config.tasks task = some (.call op next)) :
    GenerateAllows location (config.history task) op :=
  ((generate_lawful (generations task)).path (path_of_steps run running)).1

/-- An armed process has just found nothing at the path. -/
theorem checked_of_armed
    (run : Steps (fileSystem False umask)
      (.initial start fun task => Keys.run library location (generations task).command) config)
    {task : ι} (armed : Armed location config task) : Checked location (config.history task) := by
  rcases armed with ⟨source, next, running⟩
  exact (allows_of_running run running).2.2

/-- A step of one process: what it does to the path. -/
theorem Guarded.nodes_of_effect {task : ι} {op : Op} {next : Answer op → ToolProgram Unit}
    {answer : Answer op} {shared : World} (guarded : Guarded location start config)
    (distinct : ∀ uuid, location.temp uuid = location → uuid ∈ start.uuids)
    (run : Steps (fileSystem False umask)
      (.initial start fun task => Keys.run library location (generations task).command) config)
    (running : config.tasks task = some (.call op next))
    (effect : perform False umask config.shared op answer shared) :
    shared.nodes location = config.shared.nodes location ∨
      Armed location config task ∧ shared.nodes location ≠ none := by
  rcases nodes_of_perform (allows_of_running run running) (guarded.drafts distinct) effect with
    same | ⟨⟨source, renames⟩, placed⟩
  · exact Or.inl same
  · cases renames
    exact Or.inr ⟨⟨source, next, running⟩, placed⟩

/-- Nothing at the path is removed or replaced. -/
theorem Guarded.stays {label : Label ι Answer} (guarded : Guarded location start config)
    (distinct : ∀ uuid, location.temp uuid = location → uuid ∈ start.uuids)
    (run : Steps (fileSystem False umask)
      (.initial start fun task => Keys.run library location (generations task).command) config)
    (step : Step (fileSystem False umask) config label target) {node : Node}
    (present : config.shared.nodes location = some node) :
    target.shared.nodes location = some node := by
  have acts : ∀ {task : ι} {op : Op} {next : Answer op → ToolProgram Unit} {answer : Answer op}
      {shared : World}, config.tasks task = some (.call op next) →
      perform False umask config.shared op answer shared →
      shared.nodes location = some node := by
    intro task op next answer shared running effect
    rcases guarded.nodes_of_effect distinct run running effect with same | ⟨armed, _⟩
    · rw [same, present]
    · rw [guarded.armed task armed] at present
      contradiction
  cases step with
  | perform running effect => exact acts running effect
  | cancel running dropped =>
      rcases dropped with rfl | ⟨answer, effect⟩
      · exact present
      · exact acts running effect
  | environment moved =>
      rcases moved with ⟨place, created, absent, rfl⟩
      have different : location ≠ place := by
        rintro rfl
        rw [present] at absent
        contradiction
      dsimp only
      rw [World.put_nodes_of_ne different, present]

omit [DecidableEq ι] in
/-- Nothing appears behind the back of an armed process. -/
theorem Guarded.absent {label : Label ι Answer} (guarded : Guarded location start config)
    (undisturbed : Undisturbed location config label target) {task : ι}
    (armed : Armed location config task) (other : actor label ≠ some task) :
    target.shared.nodes location = none := by
  by_contra appeared
  exact other (undisturbed task armed (guarded.armed task armed) appeared)

/-- What was put in place is still there. -/
theorem Guarded.placed_of_step {label : Label ι Answer} (guarded : Guarded location start config)
    (distinct : ∀ uuid, location.temp uuid = location → uuid ∈ start.uuids)
    (run : Steps (fileSystem False umask)
      (.initial start fun task => Keys.run library location (generations task).command) config)
    (step : Step (fileSystem False umask) config label target) {task : ι}
    (renamed : Renamed location (config.history task)) : target.shared.nodes location ≠ none := by
  rcases Option.ne_none_iff_exists'.mp (guarded.placed task renamed) with ⟨node, present⟩
  rw [guarded.stays distinct run step present]
  nofun

theorem renamed_append_singleton {history : List (Event Answer)} {event : Event Answer}
    (renamed : Renamed location (history ++ [event])) :
    Renamed location history ∨ ∃ source, event = ⟨.rename source location, true⟩ := by
  rcases renamed with ⟨source, member⟩
  rw [List.mem_append, List.mem_singleton] at member
  rcases member with earlier | last
  · exact Or.inl ⟨source, earlier⟩
  · exact Or.inr ⟨source, last.symm⟩

/-- A rename that is recorded after an operation was recorded before it, or is that
operation. -/
theorem renamed_resume {task other : ι} {event : Event Answer} {shared : World}
    {next : ToolProgram Unit}
    (renamed : Renamed location ((config.resume task event shared next).history other)) :
    Renamed location (config.history other) ∨
      other = task ∧ ∃ source, event = ⟨.rename source location, true⟩ := by
  by_cases same : other = task
  · subst same
    rw [Config.resume_history_self] at renamed
    exact (renamed_append_singleton renamed).imp_right fun last => ⟨rfl, last⟩
  · rw [Config.resume_history_of_ne same] at renamed
    exact Or.inl renamed

/-- A process that may rename next has just found nothing at the path; the others see no
file appear. -/
theorem Guarded.armed_perform {task : ι} {op : Op} {next : Answer op → ToolProgram Unit}
    {answer : Answer op} {shared : World} (guarded : Guarded location start config)
    (run : Steps (fileSystem False umask)
      (.initial start fun task => Keys.run library location (generations task).command) config)
    (running : config.tasks task = some (.call op next))
    (effect : Keys.perform False umask config.shared op answer shared)
    (undisturbed : Undisturbed location config (.perform task ⟨op, answer⟩)
      (config.resume task ⟨op, answer⟩ shared (next answer))) {other : ι}
    (armed : Armed location (config.resume task ⟨op, answer⟩ shared (next answer)) other) :
    (config.resume task ⟨op, answer⟩ shared (next answer)).shared.nodes location = none := by
  have step : Step (fileSystem False umask) config (.perform task ⟨op, answer⟩)
      (config.resume task ⟨op, answer⟩ shared (next answer)) := .perform running effect
  by_cases same : other = task
  · subst same
    rcases checked_of_armed (run.tail step) armed with ⟨earlier, ended⟩
    rw [Config.resume_history_self] at ended
    have last := List.append_inj_right' ended rfl
    rw [List.singleton_inj] at last
    cases last
    rcases effect with ⟨rfl, found | ⟨impossible, _⟩⟩
    · exact Option.map_eq_none_iff.mp found.symm
    · exact impossible.elim
  · have armedBefore : Armed location config other := by
      rcases armed with ⟨source, rest, waiting⟩
      rw [Config.resume_tasks_of_ne same] at waiting
      exact ⟨source, rest, waiting⟩
    apply guarded.absent undisturbed armedBefore
    intro acts
    exact same (Option.some.inj acts).symm

/-- One operation of a process keeps the guard. -/
theorem Guarded.perform {task : ι} {op : Op} {next : Answer op → ToolProgram Unit}
    {answer : Answer op} {shared : World} (guarded : Guarded location start config)
    (distinct : ∀ uuid, location.temp uuid = location → uuid ∈ start.uuids)
    (run : Steps (fileSystem False umask)
      (.initial start fun task => Keys.run library location (generations task).command) config)
    (running : config.tasks task = some (.call op next))
    (effect : Keys.perform False umask config.shared op answer shared)
    (undisturbed : Undisturbed location config (.perform task ⟨op, answer⟩)
      (config.resume task ⟨op, answer⟩ shared (next answer))) :
    Guarded location start (config.resume task ⟨op, answer⟩ shared (next answer)) := by
  have first : ∀ {other : ι} {source : Location},
      (⟨op, answer⟩ : Event Answer) = ⟨.rename source location, true⟩ →
      ¬ Renamed location (config.history other) := by
    intro other source last renamed
    cases last
    exact guarded.placed other renamed (guarded.armed task ⟨source, next, running⟩)
  constructor
  case fresh =>
    intro other uuid member
    by_cases same : other = task
    · subst same
      rw [Config.resume_history_self, List.mem_append, List.mem_singleton] at member
      rcases member with earlier | last
      · exact guarded.fresh other uuid earlier
      · cases last
        exact fun reserved => effect.1 (guarded.known uuid reserved)
    · rw [Config.resume_history_of_ne same] at member
      exact guarded.fresh other uuid member
  case known =>
    intro uuid reserved
    exact uuids_of_perform effect uuid (guarded.known uuid reserved)
  case armed =>
    intro other armed
    exact guarded.armed_perform run running effect undisturbed armed
  case placed =>
    intro other renamed
    rcases renamed_resume renamed with earlier | ⟨_, source, last⟩
    · exact guarded.placed_of_step distinct run (.perform running effect) earlier
    · cases last
      rcases effect with ⟨impossible, _⟩ | ⟨node, _, _, _, rfl⟩
      · contradiction
      · rw [Config.resume_shared, World.put_nodes_self]
        nofun
  case unique =>
    intro one two oneRenamed twoRenamed
    rcases renamed_resume oneRenamed with oneEarlier | ⟨oneSame, _, last⟩
    · rcases renamed_resume twoRenamed with twoEarlier | ⟨_, _, last⟩
      · exact guarded.unique one two oneEarlier twoEarlier
      · exact absurd oneEarlier (first last)
    · rcases renamed_resume twoRenamed with twoEarlier | ⟨twoSame, _, _⟩
      · exact absurd twoEarlier (first last)
      · rw [oneSame, twoSame]

theorem Guarded.step {label : Label ι Answer} (guarded : Guarded location start config)
    (distinct : ∀ uuid, location.temp uuid = location → uuid ∈ start.uuids)
    (run : Steps (fileSystem False umask)
      (.initial start fun task => Keys.run library location (generations task).command) config)
    (step : Step (fileSystem False umask) config label target)
    (undisturbed : Undisturbed location config label target) : Guarded location start target := by
  have stays : ∀ task, Renamed location (config.history task) →
      target.shared.nodes location ≠ none :=
    fun _ renamed => guarded.placed_of_step distinct run step renamed
  cases step with
  | perform running effect => exact guarded.perform distinct run running effect undisturbed
  | @cancel task op next shared running dropped =>
      constructor
      case fresh => exact guarded.fresh
      case known =>
        intro uuid reserved
        rcases dropped with rfl | ⟨answer, effect⟩
        · exact guarded.known uuid reserved
        · exact uuids_of_perform effect uuid (guarded.known uuid reserved)
      case armed =>
        rintro other ⟨source, rest, waiting⟩
        have different : other ≠ task := by
          rintro rfl
          rw [Config.drop_tasks_self] at waiting
          contradiction
        rw [Config.drop_tasks_of_ne different] at waiting
        apply guarded.absent undisturbed ⟨source, rest, waiting⟩
        intro acts
        exact different (Option.some.inj acts).symm
      case placed => exact stays
      case unique => exact guarded.unique
  | environment moved =>
      constructor
      case fresh => exact guarded.fresh
      case known =>
        rcases moved with ⟨place, node, _, rfl⟩
        exact guarded.known
      case armed =>
        intro other armed
        exact guarded.absent undisturbed armed nofun
      case placed => exact stays
      case unique => exact guarded.unique

theorem guarded_of_run
    (distinct : ∀ uuid, location.temp uuid = location → uuid ∈ start.uuids)
    (run : UndisturbedSteps location umask
      (.initial start fun task => Keys.run library location (generations task).command) config) :
    Guarded location start config := by
  induction run with
  | refl =>
      constructor
      case fresh => nofun
      case known => exact fun _ reserved => reserved
      case armed =>
        intro task armed
        have begin_ : Steps (fileSystem False umask)
            (.initial start fun task => Keys.run library location (generations task).command)
            (.initial start fun task => Keys.run library location (generations task).command) :=
          .refl _
        rcases checked_of_armed begin_ armed with ⟨earlier, impossible⟩
        simp [Config.initial] at impossible
      case placed => nofun
      case unique => nofun
  | tail before last inductionHypothesis =>
      rcases last with ⟨label, step, undisturbed⟩
      exact inductionHypothesis.step distinct (UndisturbedSteps.steps before) step undisturbed

/-- In a run in which nobody makes the path appear while a `generate` process stands between
its last check and its rename, nothing at the path is ever replaced and at most one process
succeeds. -/
theorem generate_never_overwrites
    (distinct : ∀ uuid, location.temp uuid = location → uuid ∈ start.uuids)
    (run : UndisturbedSteps location umask
      (.initial start fun task => Keys.run library location (generations task).command) config) :
    (∀ label target node, Step (fileSystem False umask) config label target →
      config.shared.nodes location = some node → target.shared.nodes location = some node) ∧
    ∀ first second, config.tasks first = some (.done (.ok ())) →
      config.tasks second = some (.done (.ok ())) → first = second := by
  have guarded := guarded_of_run distinct run
  constructor
  · intro label target node step present
    exact guarded.stays distinct run.steps step present
  · intro first second firstDone secondDone
    have succeeded : ∀ task, config.tasks task = some (.done (.ok ())) →
        Renamed location (config.history task) := fun task done =>
      (generate_lawful (generations task)).result (path_of_steps run.steps done) rfl
    exact guarded.unique first second (succeeded first firstDone) (succeeded second secondDone)

end Runs

/-- A single process generates a key ring; nothing replaces it. -/
theorem generate_never_overwrites_sample :
    ∃ (config : Config Unit Answer World (Except Failure Unit)) (node : Node),
      UndisturbedSteps sampleLocation 0
        (.initial emptyWorld fun _ =>
          run sampleLibrary sampleLocation (sampleGeneration "first").command) config ∧
      config.tasks () = some (.done (.ok ())) ∧
      config.shared.nodes sampleLocation = some node ∧
      ∀ label target, Step (fileSystem False 0) config label target →
        target.shared.nodes sampleLocation = some node := by
  have named : validateKid "first" = true := by decide +kernel
  have makes := sample_makes named (by decide +kernel)
  have unlike : Text.startsWith sampleLocation.name ".keyring-" = false := by decide
  have absent : ∀ location, emptyWorld.nodes location = none := fun _ => rfl
  have new : "a" ∉ emptyWorld.uuids := List.not_mem_nil
  rcases generate_succeeds () makes (absent _) new (absent _) (Location.temp_ne unlike) with
    ⟨events, after, path, moves, placed⟩
  have running : (Config.initial emptyWorld fun _ : Unit =>
      run sampleLibrary sampleLocation (sampleGeneration "first").command).tasks () =
        some (run sampleLibrary sampleLocation (sampleGeneration "first").command) := rfl
  have alone : ∀ source event final, Step (fileSystem False 0) source (.perform () event) final →
      ∃ label, Step (fileSystem False 0) source label final ∧
        Undisturbed sampleLocation source label final :=
    fun _ event _ step => ⟨.perform () event, step, fun _ _ _ _ => rfl⟩
  rcases path.reaches alone running moves with ⟨config, reached, shared, tasks, _⟩
  rw [← shared] at placed
  have guaranteed := generate_never_overwrites
    (fun _ same => absurd same (Location.temp_ne unlike)) reached
  exact ⟨config, _, reached, tasks, placed, fun label target step =>
    guaranteed.1 label target _ step placed⟩

/-! ## A race -/

section Race

variable {E R ι : Type} {library : ToolLibrary E R} {location temp : Location} {document : Json}
  {config later : Config ι Answer World (Except Failure Unit)} {task : ι}

/-- The last operation of a process. -/
def reporting : ToolProgram Unit :=
  .call .print fun printed => .done (if printed then .ok () else .error .panic)

/-- The process has written a document to its temporary file and renames it next. -/
structure AwaitsRename (location temp : Location) (document : Json)
    (config : Config ι Answer World (Except Failure Unit)) (task : ι) : Prop where
  node : config.shared.nodes temp = some ⟨.file, 0o600, .document document true⟩
  waits : ∃ next, config.tasks task = some (.call (.rename temp location) next) ∧
    next true = reporting

/-- A process stays before its rename while others leave its file alone. -/
theorem AwaitsRename.stays (awaits : AwaitsRename location temp document config task)
    (nodes : later.shared.nodes temp = config.shared.nodes temp)
    (tasks : later.tasks task = config.tasks task) :
    AwaitsRename location temp document later task := by
  constructor
  · rw [nodes]
    exact awaits.node
  · rw [tasks]
    exact awaits.waits

variable [DecidableEq ι]

/-- A process that meets no failure and no file comes to its rename. -/
theorem exists_awaitsRename {generation : Generation} {now : DateTime} {material uuid : String}
    (makes : generation.Makes library now material document)
    (starts : config.tasks task = some (run library location generation.command))
    (absent : config.shared.nodes location = none) (new : uuid ∉ config.shared.uuids)
    (free : config.shared.nodes (location.temp uuid) = none)
    (different : location.temp uuid ≠ location) :
    ∃ later, Steps (fileSystem False 0) config later ∧
      AwaitsRename location (location.temp uuid) document later task ∧
      later.shared.nodes location = none ∧ later.shared.uuids = uuid :: config.shared.uuids ∧
      (∀ other, other ≠ location.temp uuid →
        later.shared.nodes other = config.shared.nodes other) ∧
      ∀ other, other ≠ task → later.tasks other = config.tasks other := by
  rcases run_draft location uuid makes with ⟨_, path, next, rfl, prints⟩
  rcases draft_moves task generation now material document absent new free different with
    ⟨world, moves, stillAbsent, draft, uuids, _, nodes⟩
  rcases path.steps starts moves with ⟨later, reached, rfl, waits, _, rest⟩
  exact ⟨later, reached, ⟨draft, next, waits, prints⟩, stillAbsent, uuids, nodes,
    fun other different => (rest other different).1⟩

/-- The rename puts the document at the path, whatever file is there. -/
theorem AwaitsRename.rename (awaits : AwaitsRename location temp document config task)
    (replaceable : ∀ present, config.shared.nodes location = some present →
      present.fileType ≠ .directory) :
    ∃ later, Step (fileSystem False 0) config
        (.perform task ⟨.rename temp location, true⟩) later ∧
      later.shared.nodes location = some ⟨.file, 0o600, .document document true⟩ ∧
      (∀ other, other ≠ temp → other ≠ location →
        later.shared.nodes other = config.shared.nodes other) ∧
      later.tasks task = some reporting ∧
      ∀ other, other ≠ task → later.tasks other = config.tasks other := by
  rcases awaits.waits with ⟨next, waits, prints⟩
  have effect : perform False 0 config.shared (.rename temp location) true
      ((config.shared.put temp none).put location
        (some ⟨.file, 0o600, .document document true⟩)) :=
    Or.inr ⟨_, awaits.node, rfl, replaceable, rfl⟩
  refine ⟨_, .perform waits effect, World.put_nodes_self, ?_, ?_, ?_⟩
  · intro other notTemp notLocation
    exact (World.put_nodes_of_ne notLocation).trans (World.put_nodes_of_ne notTemp)
  · rw [Config.resume_tasks_self, prints]
  · intro other different
    exact Config.resume_tasks_of_ne different

/-- A process that only has to report its success can end with it. -/
theorem exists_reported (reports : config.tasks task = some reporting) :
    ∃ later, Steps (fileSystem False 0) config later ∧
      later.tasks task = some (.done (.ok ())) ∧
      ∀ other, other ≠ task → later.tasks other = config.tasks other := by
  apply Steps.reach_perform task reports true rfl
  exact ⟨_, .refl _, Config.resume_tasks_self, fun other => Config.resume_tasks_of_ne⟩

end Race

/-- Two processes with different key IDs. -/
def rivals : Bool → Generation
  | false => sampleGeneration "first"
  | true => sampleGeneration "second"

/-- Both processes find nothing at the path in their last check.  Then both rename: the
second replaces the key ring of the first, and both report success. -/
theorem generate_overwrites :
    ∃ (appeared replaced final : Config Bool Answer World (Except Failure Unit)) (node : Node),
      Steps (fileSystem False 0)
        (.initial emptyWorld fun task =>
          run sampleLibrary sampleLocation (rivals task).command) appeared ∧
      appeared.shared.nodes sampleLocation = some node ∧
      Step (fileSystem False 0) appeared
        (.perform true ⟨.rename (sampleLocation.temp "b") sampleLocation, true⟩) replaced ∧
      replaced.shared.nodes sampleLocation ≠ some node ∧
      Steps (fileSystem False 0) replaced final ∧
      final.tasks false = some (.done (.ok ())) ∧ final.tasks true = some (.done (.ok ())) := by
  have firstNamed : validateKid "first" = true := by decide +kernel
  have secondNamed : validateKid "second" = true := by decide +kernel
  have unlike : Text.startsWith sampleLocation.name ".keyring-" = false := by decide
  have absent : ∀ location, emptyWorld.nodes location = none := fun _ => rfl
  have otherTemp : sampleLocation.temp "b" ≠ sampleLocation.temp "a" := by decide
  have firstMakes := sample_makes firstNamed (by decide +kernel)
  have secondMakes := sample_makes secondNamed (by decide +kernel)
  let initial : Config Bool Answer World (Except Failure Unit) :=
    .initial emptyWorld fun task => run sampleLibrary sampleLocation (rivals task).command
  have firstStarts : initial.tasks false =
      some (run sampleLibrary sampleLocation (sampleGeneration "first").command) := rfl
  -- the first process comes to its rename, and so does the second
  have firstNew : "a" ∉ initial.shared.uuids := List.not_mem_nil
  rcases exists_awaitsRename firstMakes firstStarts (absent _) firstNew (absent _)
    (Location.temp_ne unlike) with
    ⟨one, firstRun, firstAwaits, firstAbsent, firstUuids, firstNodes, firstRest⟩
  have secondNew : "b" ∉ one.shared.uuids := by
    rw [firstUuids, List.mem_cons, not_or]
    exact ⟨by decide, List.not_mem_nil⟩
  rcases exists_awaitsRename secondMakes (firstRest true (by decide)) firstAbsent secondNew
    ((firstNodes _ otherTemp).trans (absent _)) (Location.temp_ne unlike) with
    ⟨two, secondRun, secondAwaits, secondAbsent, _, secondNodes, secondRest⟩
  have stillAwaits :=
    firstAwaits.stays (secondNodes _ (Ne.symm otherTemp)) (secondRest false (by decide))
  -- both renames go through
  rcases stillAwaits.rename (by rw [secondAbsent]; nofun) with
    ⟨appeared, appears, placed, appearedNodes, firstReports, appearedRest⟩
  have secondWaits := secondAwaits.stays
    (appearedNodes _ otherTemp (Location.temp_ne unlike)) (appearedRest true (by decide))
  rcases secondWaits.rename (by rw [placed]; rintro _ ⟨⟩; nofun) with
    ⟨replaced, replaces, overwritten, _, secondReports, replacedRest⟩
  have differ : replaced.shared.nodes sampleLocation ≠
      some ⟨.file, 0o600, .document (sampleDocument "first") true⟩ := by
    rw [overwritten]
    simp [sampleDocument, generatedDocument]
  -- both processes report success
  rcases exists_reported ((replacedRest false (by decide)).trans firstReports) with
    ⟨reported, firstEnds, firstDone, reportedRest⟩
  rcases exists_reported ((reportedRest true (by decide)).trans secondReports) with
    ⟨final, secondEnds, secondDone, finalRest⟩
  exact ⟨appeared, replaced, final, _, (firstRun.trans secondRun).tail appears, placed, replaces,
    differ, firstEnds.trans secondEnds, (finalRest false (by decide)).trans firstDone, secondDone⟩

end OidcExchange.Keys
