import OidcExchange.Keys.Generate
import OidcExchange.Process.Auxiliary
import OidcExchange.Process.Discipline

/-!
# Processes that are killed

Any number of processes of the keyring tool run against one file system, and each may be
killed at any of its operations.  A process only changes the temporary files whose
identifiers it drew itself, and puts nothing in place but a document that the loader has
accepted.  Who drew an identifier is an auxiliary variable.
-/

namespace OidcExchange.Keys

open OidcExchange.Oidc OidcExchange.Process

/-- The process that drew an identifier. -/
abbrev Owners (ι : Type) :=
  String → Option ι

/-- The process that draws an identifier owns it. -/
def Owners.record {ι : Type} (task : ι) : Event Answer → Owners ι → Owners ι
  | ⟨.newUuid, uuid⟩, owners => Function.update owners uuid (some task)
  | _, owners => owners

/-- A complete document in a private file, which the loader has accepted. -/
def Node.Accepted {E R : Type} (library : ToolLibrary E R) (node : Node) : Prop :=
  node.Private ∧ ∃ document algorithm now, node.content = .document document true ∧
    loadContent library algorithm now (some node.content) = .ok ()

/-- No identifier that is still to be drawn names the file of a process. -/
def Apart {ι : Type} (locations : ι → Location) (used : List String) : Prop :=
  ∀ task other uuid, (locations task).temp uuid = locations other → uuid ∈ used

/-- The place is not a temporary file of an identifier that is still to be drawn. -/
def Ordinary {ι : Type} (locations : ι → Location) (used : List String) (place : Location) :
    Prop :=
  ∀ task uuid, (locations task).temp uuid = place → uuid ∈ used

/-- A file stays as it is, or is replaced by an accepted one if it is the file of a
process. -/
def Preserved {ι E R : Type} (library : ToolLibrary E R) (locations : ι → Location)
    (used : List String) (before after : World) : Prop :=
  ∀ place node, before.nodes place = some node → Ordinary locations used place →
    ∃ current, after.nodes place = some current ∧
      (current = node ∨ (∃ task, locations task = place) ∧ current.Accepted library)

section Processes

variable {ι E R : Type} {library : ToolLibrary E R} {locations : ι → Location}
  {used : List String} {lossy : Prop} {umask : Nat} {task : ι}

theorem temp_injective {first second : Location} {uuid other : String}
    (same : first.temp uuid = second.temp other) : uuid = other := by
  have names : ".keyring-" ++ uuid ++ ".tmp" = ".keyring-" ++ other ++ ".tmp" :=
    congrArg Location.name same
  have lists := congrArg String.toList names
  simpa [String.toList_append, String.ext_iff] using lists

/-- Every owned identifier was drawn from the unused ones. -/
structure Tended (used : List String) (state : World × Owners ι) : Prop where
  drawn : ∀ uuid task, state.2 uuid = some task → uuid ∈ state.1.uuids ∧ uuid ∉ used
  used : ∀ uuid ∈ used, uuid ∈ state.1.uuids

/-- The temporary files of the process stay as they are. -/
def Untouched (locations : ι → Location) (task : ι) (before after : World × Owners ι) : Prop :=
  ∀ uuid, before.2 uuid = some task → after.2 uuid = some task ∧
    ∀ node, before.1.nodes ((locations task).temp uuid) = some node →
      after.1.nodes ((locations task).temp uuid) = some node

/-- The place is a temporary file of the process. -/
def Owns (locations : ι → Location) (state : World × Owners ι) (task : ι) (place : Location) :
    Prop :=
  ∃ uuid, state.2 uuid = some task ∧ place = (locations task).temp uuid

/-- The process draws new identifiers and changes its temporary files, and its file only
to an accepted one. -/
structure Proper (library : ToolLibrary E R) (locations : ι → Location) (task : ι)
    (before after : World × Owners ι) : Prop where
  uuids : ∀ uuid ∈ before.1.uuids, uuid ∈ after.1.uuids
  owners : ∀ uuid, after.2 uuid = before.2 uuid ∨
    uuid ∉ before.1.uuids ∧ uuid ∈ after.1.uuids
  nodes : ∀ place, after.1.nodes place = before.1.nodes place ∨
    Owns locations before task place ∨
    place = locations task ∧ ∃ node, after.1.nodes place = some node ∧ node.Accepted library

/-- The operations that a process may perform so that its step is proper. -/
def MayPerform (library : ToolLibrary E R) (locations : ι → Location) (task : ι)
    (state : World × Owners ι) : Op → Prop
  | .createNew place _ => Owns locations state task place
  | .writeDocument place _ => Owns locations state task place
  | .writeNewline place => Owns locations state task place
  | .removeFile place => Owns locations state task place
  | .rename source target => Owns locations state task source ∧ target = locations task ∧
      ∀ node, state.1.nodes source = some node → node.Accepted library
  | _ => True

theorem untouched_refl (task : ι) (state : World × Owners ι) :
    Untouched locations task state state :=
  fun _ owned => ⟨owned, fun _ present => present⟩

theorem Untouched.trans {first second third : World × Owners ι}
    (start : Untouched locations task first second)
    (rest : Untouched locations task second third) : Untouched locations task first third := by
  intro uuid owned
  rcases start uuid owned with ⟨still, kept⟩
  rcases rest uuid still with ⟨owned, keptAgain⟩
  exact ⟨owned, fun node present => keptAgain node (kept node present)⟩

/-- A file that is put at one place changes no other place. -/
theorem nodes_of_put {world : World} {location : Location} {node : Option Node}
    {holds : Location → Prop} (here : holds location) (place : Location) :
    (world.put location node).nodes place = world.nodes place ∨ holds place := by
  by_cases same : place = location
  · exact Or.inr (same ▸ here)
  · exact Or.inl (World.put_nodes_of_ne same)

/-- An allowed operation draws new identifiers only, and changes only what it may. -/
theorem changes_of_perform {before after : World × Owners ι} {op : Op} {answer : Answer op}
    (may : MayPerform library locations task before op)
    (performed : perform lossy umask before.1 op answer after.1) :
    (∀ uuid ∈ before.1.uuids, uuid ∈ after.1.uuids) ∧
      ∀ place, after.1.nodes place = before.1.nodes place ∨ Owns locations before task place ∨
        place = locations task ∧
          ∃ node, after.1.nodes place = some node ∧ node.Accepted library := by
  have put {location : Location} {node : Option Node} (owns : Owns locations before task location)
      (eq : after.1 = before.1.put location node) :
      (∀ uuid ∈ before.1.uuids, uuid ∈ after.1.uuids) ∧
        ∀ place, after.1.nodes place = before.1.nodes place ∨ Owns locations before task place ∨
          place = locations task ∧
            ∃ node, after.1.nodes place = some node ∧ node.Accepted library := by
    rw [eq]
    refine ⟨fun _ member => member, fun place => ?_⟩
    exact (nodes_of_put owns place).imp_right Or.inl
  have still (nodes : after.1.nodes = before.1.nodes)
      (uuids : ∀ uuid ∈ before.1.uuids, uuid ∈ after.1.uuids) :
      (∀ uuid ∈ before.1.uuids, uuid ∈ after.1.uuids) ∧
        ∀ place, after.1.nodes place = before.1.nodes place ∨ Owns locations before task place ∨
          place = locations task ∧
            ∃ node, after.1.nodes place = some node ∧ node.Accepted library :=
    ⟨uuids, fun place => Or.inl (congrFun nodes place)⟩
  have same (eq : after.1 = before.1) := still (congrArg World.nodes eq)
    (fun uuid member => congrArg World.uuids eq ▸ member)
  cases op with
  | symlinkMetadata location => exact same performed.1
  | isDir parent => exact same performed
  | read location => exact same performed.1
  | createNew location mode =>
      rcases performed with ⟨_, eq⟩ | ⟨_, _, eq⟩
      · exact same eq
      · exact put may eq
  | writeDocument location document =>
      rcases performed with ⟨node, _, ⟨_, eq⟩ | ⟨_, raw, eq⟩⟩
      · exact put may eq
      · exact put may eq
  | writeNewline location =>
      rcases performed with ⟨_, eq⟩ | ⟨node, _, _, eq⟩
      · exact same eq
      · exact put may eq
  | syncAll location => exact same performed
  | rename source target =>
      rcases may with ⟨owns, rfl, accepted⟩
      rcases performed with ⟨_, eq⟩ | ⟨node, present, _, _, eq⟩
      · exact same eq
      · rw [eq]
        refine ⟨fun _ member => member, fun place => ?_⟩
        by_cases here : place = locations task
        · subst here
          exact Or.inr (Or.inr ⟨rfl, node, World.put_nodes_self, accepted node present⟩)
        · rw [World.put_nodes_of_ne here]
          exact (nodes_of_put owns place).imp_right Or.inl
  | removeFile location =>
      rcases performed with ⟨_, eq⟩ | ⟨_, eq⟩
      · exact same eq
      · exact put may eq
  | utcNow =>
      rw [show after.1 = { before.1 with clock := answer } from performed] at still ⊢
      exact still rfl fun _ member => member
  | newUuid =>
      rw [performed.2] at still ⊢
      exact still rfl fun _ member => List.mem_cons_of_mem _ member
  | randomKey algorithm => exact same performed.1
  | print => exact same performed

/-- An operation that is performed gives identifiers only to its process. -/
theorem owners_of_perform {before after : World × Owners ι} {op : Op} {answer : Answer op}
    (performed : perform lossy umask before.1 op answer after.1)
    (recorded : after.2 = Owners.record task ⟨op, answer⟩ before.2) (uuid : String) :
    after.2 uuid = before.2 uuid ∨ uuid ∉ before.1.uuids ∧ uuid ∈ after.1.uuids := by
  rw [recorded]
  cases op with
  | newUuid =>
      rcases performed with ⟨fresh, eq⟩
      rw [eq]
      by_cases same : uuid = answer
      · subst same
        exact Or.inr ⟨fresh, List.mem_cons_self⟩
      · exact Or.inl (Function.update_of_ne same _ _)
  | _ => exact Or.inl rfl

/-- The file system with the owners of the identifiers. -/
abbrev ownedFileSystem (ι : Type) (lossy : Prop) (umask : Nat) :
    Machine ι Answer (World × Owners ι) :=
  (fileSystem lossy umask).withAuxiliary Owners.record

theorem proper_of_perform {before after : World × Owners ι} {op : Op} {answer : Answer op}
    (may : MayPerform library locations task before op)
    (performed : (ownedFileSystem ι lossy umask).perform task before op answer after) :
    Proper library locations task before after where
  uuids := (changes_of_perform may performed.1).1
  owners := owners_of_perform performed.1 performed.2
  nodes := (changes_of_perform may performed.1).2

/-- A process that is killed may have performed its operation or not. -/
theorem proper_of_cancel {before after : World × Owners ι} {op : Op}
    (may : MayPerform library locations task before op)
    (dropped : (ownedFileSystem ι lossy umask).cancel task before op after) :
    Proper library locations task before after := by
  rcases dropped with ⟨same | ⟨answer, performed⟩, owners⟩
  · exact ⟨fun _ member => same ▸ member, fun _ => Or.inl (congrFun owners _),
      fun place => Or.inl (congrFun (congrArg World.nodes same) place)⟩
  · rcases changes_of_perform may performed with ⟨uuids, nodes⟩
    exact ⟨uuids, fun _ => Or.inl (congrFun owners _), nodes⟩

theorem Proper.owner {before after : World × Owners ι} {uuid : String} {owner : ι}
    (proper : Proper library locations task before after) (tended : Tended used before)
    (owned : before.2 uuid = some owner) : after.2 uuid = some owner := by
  rcases proper.owners uuid with same | ⟨fresh, _⟩
  · exact same.trans owned
  · exact absurd (tended.drawn uuid owner owned).1 fresh

theorem Proper.tended {before after : World × Owners ι} (tended : Tended used before)
    (proper : Proper library locations task before after) : Tended used after where
  drawn uuid owner owned := by
    rcases proper.owners uuid with same | ⟨fresh, drawn⟩
    · rcases tended.drawn uuid owner (same.symm.trans owned) with ⟨drawn, unused⟩
      exact ⟨proper.uuids uuid drawn, unused⟩
    · exact ⟨drawn, fun member => fresh (tended.used uuid member)⟩
  used uuid member := proper.uuids uuid (tended.used uuid member)

/-- A proper step leaves the temporary files of the other processes alone. -/
theorem Proper.untouched (apart : Apart locations used) {other : ι}
    {before after : World × Owners ι} (different : task ≠ other) (tended : Tended used before)
    (proper : Proper library locations task before after) :
    Untouched locations other before after := by
  intro uuid owned
  refine ⟨proper.owner tended owned, fun node present => ?_⟩
  rcases proper.nodes ((locations other).temp uuid) with same | ⟨mine, ownedToo, names⟩ | ⟨names, _⟩
  · exact same.trans present
  · rw [temp_injective names, ownedToo] at owned
    exact absurd (Option.some.inj owned) different
  · exact absurd (apart other task uuid names) (tended.drawn uuid other owned).2

theorem Proper.preserved {before after : World × Owners ι} (tended : Tended used before)
    (proper : Proper library locations task before after) :
    Preserved library locations used before.1 after.1 := by
  intro place node present ordinary
  rcases proper.nodes place with same | ⟨uuid, owned, rfl⟩ | ⟨rfl, current, placed, accepted⟩
  · exact ⟨node, same.trans present, Or.inl rfl⟩
  · exact absurd (ordinary task uuid rfl) (tended.drawn uuid task owned).2
  · exact ⟨current, placed, Or.inr ⟨⟨task, rfl⟩, accepted⟩⟩

/-- Other programs only create files. -/
theorem kept_of_environment {before after : World × Owners ι}
    (moved : (ownedFileSystem ι lossy umask).environment before after) {place : Location}
    {node : Node} (present : before.1.nodes place = some node) :
    after.1.nodes place = some node := by
  rcases moved with ⟨⟨location, created, absent, eq⟩, _⟩
  have different : place ≠ location := by
    rintro rfl
    rw [absent] at present
    contradiction
  rw [eq, World.put_nodes_of_ne different]
  exact present

theorem uuids_of_environment {before after : World × Owners ι}
    (moved : (ownedFileSystem ι lossy umask).environment before after) :
    after.1.uuids = before.1.uuids := by
  rcases moved with ⟨⟨location, created, _, eq⟩, _⟩
  rw [eq]
  rfl

/-- The processes own their temporary files. -/
def ownership (library : ToolLibrary E R) (lossy : Prop) (umask : Nat)
    (apart : Apart locations used) : Discipline (ownedFileSystem ι lossy umask) where
  invariant := Tended used
  rely := Untouched locations
  guarantee := Proper library locations
  rely_refl := untouched_refl
  rely_trans first second := first.trans second
  guarantee_invariant := Proper.tended
  guarantee_rely := Proper.untouched apart
  environment_invariant tended moved := by
    refine ⟨fun uuid owner owned => ?_, fun uuid member => ?_⟩
    · rw [moved.2] at owned
      rw [uuids_of_environment moved]
      exact tended.drawn uuid owner owned
    · rw [uuids_of_environment moved]
      exact tended.used uuid member
  environment_rely _ moved uuid owned :=
    ⟨(congrFun moved.2 uuid).trans owned, fun _ present => kept_of_environment moved present⟩

variable {apart : Apart locations used} {α : Type}

/-- The rule for one operation of a process. -/
theorem safe_call {op : Op} {next : Answer op → Program Answer α} {state : World × Owners ι}
    {post : World × Owners ι → α → Prop}
    (step : ∀ before, Untouched locations task state before →
      MayPerform library locations task before op ∧
        ∀ answer after, (ownedFileSystem ι lossy umask).perform task before op answer after →
          (ownership library lossy umask apart).Safe task post (next answer) after) :
    (ownership library lossy umask apart).Safe task post (.call op next) state := by
  intro before moved _
  rcases step before moved with ⟨may, rest⟩
  constructor
  · intro answer after performed
    exact ⟨proper_of_perform may performed, rest answer after performed⟩
  · intro after dropped
    exact proper_of_cancel may dropped

/-- The operations that change neither a file nor an owner. -/
def Op.reads : Op → Bool
  | .symlinkMetadata _ | .isDir _ | .read _ | .syncAll _ | .utcNow | .randomKey _ | .print => true
  | _ => false

theorem untouched_of_reads {before after : World × Owners ι} {op : Op} {answer : Answer op}
    (reads : op.reads = true)
    (performed : (ownedFileSystem ι lossy umask).perform task before op answer after) :
    Untouched locations task before after := by
  have same : after.1.nodes = before.1.nodes ∧ after.2 = before.2 := by
    rcases performed with ⟨performed, recorded⟩
    cases op with
    | symlinkMetadata location => exact ⟨congrArg World.nodes performed.1, recorded⟩
    | isDir parent => exact ⟨congrArg World.nodes performed, recorded⟩
    | read location => exact ⟨congrArg World.nodes performed.1, recorded⟩
    | syncAll location => exact ⟨congrArg World.nodes performed, recorded⟩
    | utcNow =>
        have timed : after.1 = { before.1 with clock := answer } := performed
        exact ⟨by rw [timed], recorded⟩
    | randomKey algorithm => exact ⟨congrArg World.nodes performed.1, recorded⟩
    | print => exact ⟨congrArg World.nodes performed, recorded⟩
    | _ => contradiction
  intro uuid owned
  rw [same.1, same.2]
  exact ⟨owned, fun _ present => present⟩

/-- The rule for an operation that only reads. -/
theorem safe_reads {op : Op} {next : Answer op → Program Answer α} {state : World × Owners ι}
    {post : World × Owners ι → α → Prop} (reads : op.reads = true)
    (rest : ∀ before answer after, Untouched locations task state before →
      perform lossy umask before.1 op answer after.1 → Untouched locations task state after →
        (ownership library lossy umask apart).Safe task post (next answer) after) :
    (ownership library lossy umask apart).Safe task post (.call op next) state := by
  apply safe_call
  intro before moved
  refine ⟨?_, fun answer after performed => ?_⟩
  · cases op <;> trivial
  · exact rest before answer after moved performed.1
      (moved.trans (untouched_of_reads reads performed))

/-- A program of the process that leaves its temporary files alone. -/
abbrev Gentle (library : ToolLibrary E R) (lossy : Prop) (umask : Nat)
    (apart : Apart locations used) (task : ι) (program : ToolProgram α)
    (state : World × Owners ι) : Prop :=
  (ownership library lossy umask apart).Safe task
    (fun after _ => Untouched locations task state after) program state

/-- What is read of a temporary file of the process is that file. -/
theorem safe_validatePrivateMetadata {location : Location} {state : World × Owners ι} :
    (ownership library lossy umask apart).Safe task
      (fun after outcome => Untouched locations task state after ∧
        (outcome = .ok () → ∀ node, Owns locations state task location →
          state.1.nodes location = some node → node.Private))
      (validatePrivateMetadata location) state := by
  apply safe_reads rfl
  rintro before answer after moved ⟨_, answered⟩ still
  cases answer with
  | none => exact ⟨still, nofun⟩
  | some metadata =>
      dsimp only
      split
      · exact ⟨still, nofun⟩
      · rename_i proper
        refine ⟨still, ?_⟩
        rintro _ node ⟨uuid, owned, rfl⟩ present
        have same := (moved uuid owned).2 node present
        rw [same] at answered
        have eq : metadata = node.metadata := by
          rcases answered with answered | ⟨_, answered⟩
          · exact Option.some.inj answered
          · contradiction
        rw [eq] at proper
        push Not at proper
        exact ⟨proper.1, proper.2.2⟩

/-- A temporary file that is found valid is private and accepted by the loader. -/
theorem safe_validatePrivate {location : Location} {algorithm : Algorithm}
    {state : World × Owners ι} :
    (ownership library lossy umask apart).Safe task
      (fun after outcome => Untouched locations task state after ∧
        (outcome = .ok () → ∀ node, Owns locations state task location →
          state.1.nodes location = some node → node.Private ∧
            ∃ now, loadContent library algorithm now (some node.content) = .ok ()))
      (validatePrivate library location algorithm) state := by
  apply safe_validatePrivateMetadata.bindOk
  · rintro after failure ⟨still, _⟩
    exact ⟨still, nofun⟩
  rintro middle _ ⟨still, isPrivate⟩
  apply safe_reads rfl
  intro _ now timed _ _ stillTimed
  apply safe_reads rfl
  rintro before content after moved ⟨_, answered⟩ stillRead
  have untouched := (still.trans stillTimed).trans stillRead
  have untouchedBefore := (still.trans stillTimed).trans moved
  cases loaded : loadContent library algorithm now content with
  | error failure =>
      exact ⟨untouched, nofun⟩
  | ok result =>
      refine ⟨untouched, fun _ node owns present => ?_⟩
      have nodePrivate := isPrivate rfl node owns present
      refine ⟨nodePrivate, now, ?_⟩
      rcases owns with ⟨uuid, owned, rfl⟩
      rcases nodePrivate.read ((untouchedBefore uuid owned).2 node present) answered with
        rfl | rfl
      · contradiction
      · exact loaded

theorem gentle_validatePrivate {location : Location} {algorithm : Algorithm}
    {state : World × Owners ι} :
    Gentle library lossy umask apart task (validatePrivate library location algorithm) state :=
  safe_validatePrivate.mono fun _ _ holds => holds.1

theorem gentle_newKey {algorithm : Algorithm} {kid : String} {validityDays : Nat}
    {state : World × Owners ι} :
    Gentle library lossy umask apart task (newKey library algorithm kid validityDays) state := by
  apply safe_reads rfl
  intro _ now _ _ _ still
  split
  · apply safe_reads rfl
    intro _ material _ _ _ stillDrawn
    cases material with
    | none => exact still.trans stillDrawn
    | some material => exact still.trans stillDrawn
  · exact still

theorem gentle_refuseOverwrite {location : Location} {replace : Bool} {text : String}
    {state : World × Owners ι} :
    Gentle library lossy umask apart task (refuseOverwrite location replace text) state := by
  unfold refuseOverwrite
  cases replace with
  | true => exact untouched_refl task state
  | false =>
      apply safe_reads rfl
      intro _ metadata _ _ _ still
      cases metadata with
      | none => exact still
      | some metadata => exact still

theorem gentle_edit {algorithm : Algorithm} {document : Json} {keys : List Json}
    {action : Action} {state : World × Owners ι} :
    Gentle library lossy umask apart task (edit library algorithm document keys action) state := by
  cases action with
  | generate kid validityDays => exact untouched_refl task state
  | validate => exact untouched_refl task state
  | add kid validityDays =>
      dsimp only [edit]
      split
      · exact untouched_refl task state
      · exact gentle_newKey.bindOk (fun _ _ still => still) fun _ _ still => still
  | activate kid =>
      dsimp only [edit]
      split
      · exact untouched_refl task state
      · exact untouched_refl task state
  | retire kid =>
      dsimp only [edit]
      split
      · exact untouched_refl task state
      split
      · exact untouched_refl task state
      · exact untouched_refl task state

/-- The rule for a single operation whose failure ends the command. -/
theorem safe_attempt {op : Op} {succeeded : Answer op → Bool} {state : World × Owners ι}
    {post : World × Owners ι → Except Failure Unit → Prop}
    (step : ∀ before, Untouched locations task state before →
      MayPerform library locations task before op ∧
        ∀ answer after, (ownedFileSystem ι lossy umask).perform task before op answer after →
          post after (if succeeded answer then .ok () else .error (.error .io))) :
    (ownership library lossy umask apart).Safe task post (attempt op succeeded) state :=
  safe_call step

/-- The process owns the identifier, and after a success its temporary file has the
content. -/
def Drafts (locations : ι → Location) (task : ι) (uuid : String) (content : Content)
    (state : World × Owners ι) (outcome : Except Failure Unit) : Prop :=
  state.2 uuid = some task ∧ (outcome = .ok () → ∃ node,
    state.1.nodes ((locations task).temp uuid) = some node ∧ node.content = content)

theorem Drafts.moved {uuid : String} {content : Content} {before after : World × Owners ι}
    {outcome : Except Failure Unit} (drafts : Drafts locations task uuid content before outcome)
    (moved : Untouched locations task before after) :
    Drafts locations task uuid content after outcome := by
  rcases moved uuid drafts.1 with ⟨owned, kept⟩
  refine ⟨owned, fun succeeded => ?_⟩
  rcases drafts.2 succeeded with ⟨node, present, same⟩
  exact ⟨node, kept node present, same⟩

variable {uuid : String} {document : Json} {state : World × Owners ι}

theorem Drafts.of_put {world : World} {node : Node} {content : Content}
    {after : World × Owners ι} {outcome : Except Failure Unit} (owned : after.2 uuid = some task)
    (eq : after.1 = world.put ((locations task).temp uuid) (some node))
    (same : node.content = content) : Drafts locations task uuid content after outcome :=
  ⟨owned, fun _ => ⟨node, by rw [eq]; exact World.put_nodes_self, same⟩⟩

theorem safe_createNew (owned : state.2 uuid = some task) :
    (ownership library lossy umask apart).Safe task
      (Drafts locations task uuid (.bytes []))
      (attempt (.createNew ((locations task).temp uuid) 0o600) id) state := by
  apply safe_attempt
  intro before moved
  refine ⟨⟨uuid, (moved uuid owned).1, rfl⟩, ?_⟩
  rintro created after ⟨performed, recorded⟩
  have still : after.2 uuid = some task := (congrFun recorded uuid).trans (moved uuid owned).1
  rcases performed with ⟨rfl, _⟩ | ⟨rfl, _, eq⟩
  · exact ⟨still, nofun⟩
  · exact .of_put still eq rfl

theorem safe_writeDocument
    (drafts : Drafts locations task uuid (.bytes []) state (.ok ())) :
    (ownership library lossy umask apart).Safe task
      (Drafts locations task uuid (.document document false))
      (attempt (.writeDocument ((locations task).temp uuid) document) id) state := by
  apply safe_attempt
  intro before moved
  refine ⟨⟨uuid, (drafts.moved moved).1, rfl⟩, ?_⟩
  rintro written after ⟨performed, recorded⟩
  have still : after.2 uuid = some task :=
    (congrFun recorded uuid).trans (drafts.moved moved).1
  rcases performed with ⟨node, _, ⟨rfl, eq⟩ | ⟨rfl, _, _⟩⟩
  · exact .of_put still eq rfl
  · exact ⟨still, nofun⟩

theorem safe_writeNewline
    (drafts : Drafts locations task uuid (.document document false) state (.ok ())) :
    (ownership library lossy umask apart).Safe task
      (Drafts locations task uuid (.document document true))
      (attempt (.writeNewline ((locations task).temp uuid)) id) state := by
  apply safe_attempt
  intro before moved
  rcases drafts.moved moved with ⟨owned, placed⟩
  rcases placed rfl with ⟨draft, present, content⟩
  refine ⟨⟨uuid, owned, rfl⟩, ?_⟩
  rintro written after ⟨performed, recorded⟩
  have still : after.2 uuid = some task := (congrFun recorded uuid).trans owned
  rcases performed with ⟨rfl, _⟩ | ⟨node, found, rfl, eq⟩
  · exact ⟨still, nofun⟩
  · rw [present, Option.some.injEq] at found
    subst found
    refine .of_put still eq ?_
    rw [content]
    rfl

/-- Only a validated draft is put in place. -/
theorem safe_rename {node : Node} (owned : state.2 uuid = some task)
    (present : state.1.nodes ((locations task).temp uuid) = some node)
    (accepted : node.Accepted library) :
    (ownership library lossy umask apart).Safe task
      (fun after _ => after.2 uuid = some task)
      (attempt (.rename ((locations task).temp uuid) (locations task)) id) state := by
  apply safe_attempt
  intro before moved
  rcases moved uuid owned with ⟨still, kept⟩
  refine ⟨⟨⟨uuid, still, rfl⟩, rfl, fun other found => ?_⟩, ?_⟩
  · rw [kept node present, Option.some.injEq] at found
    exact found ▸ accepted
  · rintro renamed after ⟨_, recorded⟩
    exact (congrFun recorded uuid).trans still

theorem safe_writeTemp {replace : Bool} (owned : state.2 uuid = some task) :
    (ownership library lossy umask apart).Safe task
      (fun after _ => after.2 uuid = some task)
      (writeTemp library (locations task) ((locations task).temp uuid) document replace)
      state := by
  apply (safe_createNew owned).bindOk (fun _ _ drafts => drafts.1)
  intro created _ drafts
  apply (safe_writeDocument drafts).bindOk (fun _ _ drafts => drafts.1)
  intro written _ drafts
  apply (safe_writeNewline drafts).bindOk (fun _ _ drafts => drafts.1)
  intro ended _ drafts
  have synced : Gentle library lossy umask apart task
      (attempt (.syncAll ((locations task).temp uuid)) id) ended :=
    safe_reads rfl fun _ _ _ _ _ still => still
  apply synced.bindOk (fun _ _ still => (still uuid drafts.1).1)
  intro flushed _ still
  have flushedDrafts := drafts.moved still
  rcases flushedDrafts.2 rfl with ⟨node, present, content⟩
  apply safe_validatePrivate.bindOk
  · rintro after failure ⟨still, _⟩
    exact (still uuid flushedDrafts.1).1
  rintro validated _ ⟨stillValidated, valid⟩
  rcases valid rfl node ⟨uuid, flushedDrafts.1, rfl⟩ present with ⟨isPrivate, now, loaded⟩
  have accepted : node.Accepted library := ⟨isPrivate, document, _, now, content, loaded⟩
  rcases stillValidated uuid flushedDrafts.1 with ⟨ownedValidated, keptValidated⟩
  apply gentle_refuseOverwrite.bindOk (fun _ _ still => (still uuid ownedValidated).1)
  intro free _ stillFree
  rcases stillFree uuid ownedValidated with ⟨ownedFree, keptFree⟩
  exact safe_rename ownedFree (keptFree node (keptValidated node present)) accepted

theorem safe_writePrivate {replace : Bool} :
    (ownership library lossy umask apart).Safe task (fun _ _ => True)
      (writePrivate library (locations task) document replace) state := by
  apply safe_reads rfl
  intro _ isDir _ _ _ _
  cases isDir with
  | false => trivial
  | true =>
      apply gentle_refuseOverwrite.bindOk (fun _ _ _ => trivial)
      intro free _ _
      apply safe_call
      intro before _
      refine ⟨trivial, ?_⟩
      rintro uuid after ⟨_, recorded⟩
      have owned : after.2 uuid = some task := by
        rw [recorded]
        exact Function.update_self _ _ _
      apply (safe_writeTemp owned).bind
      intro placed outcome stillOwned
      cases outcome with
      | ok result => trivial
      | error failure =>
          apply safe_call
          intro before moved
          exact ⟨⟨uuid, (moved uuid stillOwned).1, rfl⟩, fun _ _ _ => trivial⟩

theorem safe_editKeys {algorithm : Algorithm} {action : Action} :
    (ownership library lossy umask apart).Safe task (fun _ _ => True)
      (editKeys library (locations task) algorithm action) state := by
  apply gentle_validatePrivate.bindOk (fun _ _ _ => trivial)
  intro valid _ _
  apply safe_reads rfl
  intro _ content _ _ _ _
  cases content with
  | none => trivial
  | some content =>
      dsimp only
      cases library.fromSlice content with
      | none => trivial
      | some document =>
          dsimp only
          cases keysOf document with
          | error failure => trivial
          | ok keys =>
              exact gentle_edit.bindOk (fun _ _ _ => trivial) fun _ _ _ => safe_writePrivate

theorem safe_execute {command : Command} :
    (ownership library lossy umask apart).Safe task (fun _ _ => True)
      (execute library (locations task) command) state := by
  rcases command with ⟨algorithm, action⟩
  cases action with
  | generate kid validityDays =>
      apply gentle_refuseOverwrite.bindOk (fun _ _ _ => trivial)
      intro free _ _
      exact gentle_newKey.bindOk (fun _ _ _ => trivial) fun _ _ _ => safe_writePrivate
  | validate => exact safe_validatePrivate.mono fun _ _ _ => trivial
  | add kid validityDays => exact safe_editKeys
  | activate kid => exact safe_editKeys
  | retire kid => exact safe_editKeys

/-- Every process keeps the discipline. -/
theorem safe_run {command : Command} :
    (ownership library lossy umask apart).Safe task (fun _ _ => True)
      (run library (locations task) command) state := by
  unfold run
  split
  · trivial
  · apply safe_execute.bindOk (fun _ _ _ => trivial)
    intro executed _ _
    apply safe_reads rfl
    intros
    trivial

end Processes

/-- In every reachable state, whatever processes were killed at whatever operations, a
file that existed earlier still exists.  It is unchanged, or it is the file of a process
and holds a complete document in a private file that the loader accepted. -/
theorem keyring_never_torn {ι E R : Type} [DecidableEq ι] {library : ToolLibrary E R}
    {lossy : Prop} {umask : Nat} {locations : ι → Location} {commands : ι → Command}
    {start : World} (apart : Apart locations start.uuids)
    {earlier later : Config ι Answer World (Except Failure Unit)}
    (started : Steps (fileSystem lossy umask)
      (.initial start fun task => run library (locations task) (commands task)) earlier)
    (went : Steps (fileSystem lossy umask) earlier later) :
    Preserved library locations start.uuids earlier.shared later.shared := by
  let posts : ι → World × Owners ι → Except Failure Unit → Prop := fun _ _ _ => True
  have tended : Tended start.uuids (start, fun _ : String => (none : Option ι)) :=
    ⟨nofun, fun _ member => member⟩
  have holds : (ownership library lossy umask apart).Holds posts
      ((Config.initial start fun task => run library (locations task)
        (commands task)).withAuxiliary fun _ => none) :=
    .initial tended fun task => safe_run
  rcases started.withAuxiliary Owners.record fun _ => none with ⟨owners, first⟩
  rcases went.withAuxiliary Owners.record owners with ⟨last, second⟩
  refine (holds.steps first).evolves (fun before after =>
    Preserved library locations start.uuids before.1 after.1) ?_ ?_ ?_ ?_ second
  · intro state place node present _
    exact ⟨node, present, Or.inl rfl⟩
  · intro first second third before after place node present ordinary
    rcases before place node present ordinary with ⟨middle, presentMiddle, change⟩
    rcases after place middle presentMiddle ordinary with ⟨current, presentLast, same | replaced⟩
    · exact ⟨current, presentLast, same ▸ change⟩
    · exact ⟨current, presentLast, Or.inr replaced⟩
  · intro task before after tended proper
    exact proper.preserved tended
  · intro before after _ moved place node present _
    exact ⟨node, kept_of_environment moved present, Or.inl rfl⟩

/-- Two generations come to their renames.  The first puts its key ring in place.  The
second is killed in its rename, which has replaced that key ring. -/
theorem keyring_never_torn_sample :
    ∃ (earlier later : Config Bool Answer World (Except Failure Unit)) (node : Node),
      earlier.shared.nodes sampleLocation = some node ∧ later.tasks true = none ∧
      later.shared.nodes sampleLocation ≠ some node ∧
      ∃ current, later.shared.nodes sampleLocation = some current ∧
        current.Accepted sampleLibrary := by
  have unlike : Text.startsWith sampleLocation.name ".keyring-" = false := by decide
  have absent : ∀ location, emptyWorld.nodes location = none := fun _ => rfl
  have otherTemp : sampleLocation.temp "b" ≠ sampleLocation.temp "a" := by decide
  have firstMakes : (rivals false).Makes sampleLibrary sampleNow sampleSeed
      (sampleDocument "first") := sample_makes (by decide +kernel) (by decide +kernel)
  have secondMakes : (rivals true).Makes sampleLibrary sampleNow sampleSeed
      (sampleDocument "second") := sample_makes (by decide +kernel) (by decide +kernel)
  let initial : Config Bool Answer World (Except Failure Unit) :=
    .initial emptyWorld fun task => run sampleLibrary sampleLocation (rivals task).command
  have firstNew : "a" ∉ initial.shared.uuids := List.not_mem_nil
  rcases exists_awaitsRename firstMakes rfl (absent _) firstNew (absent _)
    (Location.temp_ne unlike) with
    ⟨one, firstRun, firstAwaits, firstAbsent, firstUuids, firstNodes, firstRest⟩
  have secondNew : "b" ∉ one.shared.uuids := by
    rw [firstUuids, List.mem_cons, not_or]
    exact ⟨by decide, List.not_mem_nil⟩
  rcases exists_awaitsRename secondMakes (firstRest true (by decide)) firstAbsent secondNew
    ((firstNodes _ otherTemp).trans (absent _)) (Location.temp_ne unlike) with
    ⟨two, secondRun, secondAwaits, secondAbsent, _, secondNodes, secondRest⟩
  have stillAwaits :=
    firstAwaits.stays (secondNodes _ (Ne.symm otherTemp)) (secondRest false (by decide))
  rcases stillAwaits.rename (by rw [secondAbsent]; nofun) with
    ⟨earlier, appears, placed, appearedNodes, _, appearedRest⟩
  have secondWaits := secondAwaits.stays
    (appearedNodes _ otherTemp (Location.temp_ne unlike)) (appearedRest true (by decide))
  rcases secondWaits.waits with ⟨next, waits, _⟩
  -- the rename takes effect, but its process does not see that
  let replaced : World := (earlier.shared.put (sampleLocation.temp "b") none).put sampleLocation
    (some ⟨.file, 0o600, .document (sampleDocument "second") true⟩)
  have effect : perform False 0 earlier.shared (.rename (sampleLocation.temp "b") sampleLocation)
      true replaced :=
    Or.inr ⟨_, secondWaits.node, rfl, by rw [placed]; rintro _ ⟨⟩; nofun, rfl⟩
  have killed : Step (fileSystem False 0) earlier
      (.cancel true (.rename (sampleLocation.temp "b") sampleLocation))
      (earlier.drop true replaced) := .cancel waits (Or.inr ⟨true, effect⟩)
  have differ : (earlier.drop true replaced).shared.nodes sampleLocation ≠
      some ⟨.file, 0o600, .document (sampleDocument "first") true⟩ := by
    rw [Config.drop_shared, World.put_nodes_self]
    simp [sampleDocument, generatedDocument]
  have apart : Apart (fun _ : Bool => sampleLocation) emptyWorld.uuids :=
    fun _ _ _ same => absurd same (Location.temp_ne unlike)
  have kept := keyring_never_torn apart ((firstRun.trans secondRun).tail appears)
    ((Steps.refl _).tail killed)
  rcases kept sampleLocation _ placed (fun _ _ same => absurd same (Location.temp_ne unlike)) with
    ⟨current, present, same | ⟨_, accepted⟩⟩
  · exact absurd (same ▸ present) differ
  · exact ⟨earlier, _, _, placed, Config.drop_tasks_self, differ, current, present, accepted⟩

end OidcExchange.Keys
