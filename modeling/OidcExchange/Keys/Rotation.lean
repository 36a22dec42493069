import OidcExchange.Keys.Commands

/-!
# Sequences of commands

Commands of the keyring tool on one path, one after the other, from any file or none.
Each of them is an abstract operation on the key ring or leaves the file as it was.
-/

namespace OidcExchange.Keys

open OidcExchange.Oidc OidcExchange.Process

section Sessions

variable {E R : Type} {lossy : Prop} {umask : Nat} {library : ToolLibrary E R}
  {location : Location} {algorithm : Algorithm}

/-- One command from one world to another. -/
structure Execution where
  command : Command
  before : World
  after : World
  outcome : Except Failure Unit

/-- Commands on one path, one after the other.  Between two commands anything may happen
except that somebody else writes the path. -/
inductive Session (library : ToolLibrary E R) (location : Location) (lossy : Prop) (umask : Nat) :
    World → List Execution → Prop
  | nil (world : World) : Session library location lossy umask world []
  | cons {execution : Execution} {next : World} {executions : List Execution}
      (executes : Executes (fileSystem lossy umask) () (run library location execution.command)
        execution.before execution.after execution.outcome)
      (untouched : next.nodes location = execution.after.nodes location)
      (uuids : ∀ uuid ∈ execution.after.uuids, uuid ∈ next.uuids)
      (rest : Session library location lossy umask next executions) :
      Session library location lossy umask execution.before (execution :: executions)

variable {start : World} {executions : List Execution}

theorem Session.refines (session : Session library location lossy umask start executions)
    (distinct : ∀ uuid, location.temp uuid = location → uuid ∈ start.uuids) :
    ∀ execution ∈ executions, Refines library location execution.command execution.before
      execution.after execution.outcome := by
  induction session with
  | nil => nofun
  | @cons execution next executions executes untouched uuids rest inductionHypothesis =>
      have refines := (run_ensures distinct).result _ _ executes
      rw [List.forall_mem_cons]
      refine ⟨refines, inductionHypothesis ?_⟩
      intro uuid same
      exact uuids uuid (refines.uuids uuid (distinct uuid same))

/-- The next command finds what the one before it has left. -/
theorem Session.handover (session : Session library location lossy umask start executions)
    {earlier later : List Execution} {first second : Execution}
    (split : executions = earlier ++ first :: second :: later) :
    second.before.nodes location = first.after.nodes location := by
  induction session generalizing earlier with
  | nil => simp at split
  | @cons execution next executions executes untouched uuids rest inductionHypothesis =>
      cases earlier with
      | nil =>
          rw [List.nil_append, List.cons.injEq] at split
          rcases split with ⟨rfl, rfl⟩
          cases rest with
          | cons => exact untouched
      | cons head earlier =>
          rw [List.cons_append, List.cons.injEq] at split
          exact inductionHypothesis split.2

/-- The text at the path as a tree. -/
def treeAt (library : ToolLibrary E R) (location : Location) (world : World) : Option Json :=
  (world.nodes location).bind fun node => library.tree node.content

theorem keyringAt_of_load {K : Type} {format : KeyFormat K} {world : World} {now : DateTime}
    {ring : KeyRing K} (field : format.materialField = materialField algorithm)
    (loaded : load library.parseTime format (treeAt library location world) now = .ok ring) :
    ∃ file, keyringAt library algorithm location world = some file ∧
      ∀ kid key, ring.keys.lookup kid = some key ↔ format.Published file.keys now kid key := by
  rcases load_eq_ok_iff.mp loaded with ⟨tree, file, read, deserialized, checked⟩
  rcases Option.bind_eq_some_iff.mp read with ⟨node, present, treeEq⟩
  rw [field] at deserialized
  exact ⟨file, (keyringAt_eq present treeEq).trans deserialized,
    (KeyRingFile.load_eq_ok checked).published⟩

/-- The actions that only add keys or choose among them. -/
def Action.keepsKeys : Action → Bool
  | .add _ _ => true
  | .activate _ => true
  | _ => false

theorem Effect.keys_subset {file after : KeyRingFile} {action : Action}
    (effect : Effect algorithm (some file) after action) (keeps : action.keepsKeys = true) :
    file.keys ⊆ after.keys := by
  cases action with
  | add kid validityDays =>
      rcases effect with ⟨_, key, same, _, _, rfl⟩
      cases same
      exact List.subset_append_left _ _
  | activate kid =>
      rcases effect with ⟨_, same, _, rfl⟩
      cases same
      exact fun _ member => member
  | _ => contradiction

/-- What was published stays published. -/
theorem Completed.publishes {K : Type} {format : KeyFormat K} {command : Command}
    {before after : World} {now : DateTime} {ring ringAfter : KeyRing K}
    (completed : Completed library location command before after)
    (keeps : command.action.keepsKeys = true)
    (field : format.materialField = materialField command.algorithm)
    (loaded : load library.parseTime format (treeAt library location before) now = .ok ring)
    (loadedAfter : load library.parseTime format (treeAt library location after) now =
      .ok ringAfter)
    {kid : String} {key : K} (published : ring.keys.lookup kid = some key) :
    ringAfter.keys.lookup kid = some key := by
  rcases keyringAt_of_load field loaded with ⟨file, present, keys⟩
  rcases keyringAt_of_load field loadedAfter with ⟨fileAfter, presentAfter, keysAfter⟩
  rcases completed.changed with ⟨changed, changedAt, _, effect⟩
  rw [presentAfter, Option.some.injEq] at changedAt
  subst changedAt
  rw [present] at effect
  rcases (keys kid key).mp published with ⟨spec, member, rest⟩
  exact (keysAfter kid key).mpr ⟨spec, effect.keys_subset keeps member, rest⟩

/-- Choosing another current key and the former one again restores the document. -/
theorem setField_restores {document : Json} {file : KeyRingFile} {other : String}
    (deserialized : KeyRingFile.deserialize library.parseTime (materialField algorithm) document =
      some file) :
    setField (setField document "current_kid" (.string other)) "current_kid"
      (.string file.currentKid) = document := by
  cases document with
  | object entries =>
      rcases KeyRingFile.deserialize_object_eq_some_iff.mp deserialized with ⟨_, _, current, _⟩
      rw [setField, setField, setEntry_setEntry, setEntry_of_lookup current]
  | _ => rfl

/-- The document at the path is the one that the loader has read. -/
theorem documentAt_of_keyringAt {world : World} {file : KeyRingFile}
    (present : keyringAt library algorithm location world = some file) :
    ∃ document, documentAt library location world = some document ∧
      KeyRingFile.deserialize library.parseTime (materialField algorithm) document = some file := by
  rcases Option.bind_eq_some_iff.mp present with ⟨node, nodeEq, rest⟩
  rcases Option.bind_eq_some_iff.mp rest with ⟨tree, read, deserialized⟩
  exact ⟨tree, (documentAt_eq nodeEq).trans (fromSlice_of_deserialize read deserialized),
    deserialized⟩

/-- The keyring tool refines the abstract operations and fails atomically.  In every
sequence of commands on a path: a command that returns an error leaves the file as it was; a
command that succeeds leaves a private file that the loader accepts at its last clock
reading and that is changed exactly as the action says; `add` and `activate` keep what is
published; and activating the former key again restores the document. -/
theorem keyring_tool_refines (session : Session library location lossy umask start executions)
    (distinct : ∀ uuid, location.temp uuid = location → uuid ∈ start.uuids) :
    (∀ execution ∈ executions,
      Refines library location execution.command execution.before execution.after
        execution.outcome) ∧
    (∀ execution ∈ executions, execution.outcome = .ok () →
      execution.command.action.keepsKeys = true →
      ∀ (K : Type) (format : KeyFormat K) now ring ringAfter,
        format.materialField = materialField execution.command.algorithm →
        load library.parseTime format (treeAt library location execution.before) now = .ok ring →
        load library.parseTime format (treeAt library location execution.after) now =
          .ok ringAfter →
        ∀ kid key, ring.keys.lookup kid = some key → ringAfter.keys.lookup kid = some key) ∧
    (∀ earlier first second later, executions = earlier ++ first :: second :: later →
      first.outcome = .ok () → second.outcome = .ok () →
      ∀ other file, first.command.action = .activate other →
        keyringAt library first.command.algorithm location first.before = some file →
        second.command.action = .activate file.currentKid →
        documentAt library location second.after = documentAt library location first.before) := by
  have refines := session.refines distinct
  refine ⟨refines, ?_, ?_⟩
  · intro execution member succeeded keeps K format now ring ringAfter field loaded loadedAfter
      kid key published
    exact ((refines execution member).completed succeeded).publishes keeps field loaded
      loadedAfter published
  · intro earlier first second later split firstSucceeded secondSucceeded other file firstAction
      present secondAction
    have firstMember : first ∈ executions := by simp [split]
    have secondMember : second ∈ executions := by simp [split]
    have firstEffect := ((refines first firstMember).completed firstSucceeded).activated other
      firstAction
    have secondEffect := ((refines second secondMember).completed secondSucceeded).activated
      file.currentKid secondAction
    have between : documentAt library location second.before =
        documentAt library location first.after := by
      rw [documentAt, documentAt, session.handover split]
    rcases documentAt_of_keyringAt present with ⟨document, documentEq, deserialized⟩
    rw [secondEffect, between, firstEffect, documentEq, Option.map_some, Option.map_some,
      setField_restores deserialized]

end Sessions

/-- The text at the path of the samples does not name a temporary file. -/
theorem sampleLocation_distinct {uuids : List String} (uuid : String)
    (same : sampleLocation.temp uuid = sampleLocation) : uuid ∈ uuids :=
  absurd same (Location.temp_ne (by decide))

/-- A key ring is generated, and then a key is activated that is not there. -/
theorem exists_sample_session :
    ∃ first second : Execution,
      Session sampleLibrary sampleLocation False 0 emptyWorld [first, second] ∧
      first.outcome = .ok () ∧
      second.outcome = .error (.error (.message "key ID is not present")) ∧
      first.after.nodes sampleLocation =
        some ⟨.file, 0o600, .document (sampleDocument "first") true⟩ := by
  have named : validateKid "first" = true := by decide +kernel
  have makes := sample_makes named (by decide +kernel)
  have unlike : Text.startsWith sampleLocation.name ".keyring-" = false := by decide
  have absent : ∀ location, emptyWorld.nodes location = none := fun _ => rfl
  have new : "a" ∉ emptyWorld.uuids := List.not_mem_nil
  rcases generate_succeeds () makes (absent _) new (absent _) (Location.temp_ne unlike) with
    ⟨events, after, path, moves, placed⟩
  have missing : Program.Path (run sampleLibrary sampleLocation ⟨.es256, .activate "missing"⟩)
      [⟨.symlinkMetadata sampleLocation, some ⟨.file, 0o600⟩⟩, ⟨.utcNow, sampleNow⟩,
        ⟨.read sampleLocation, some (.document (sampleDocument "first") true)⟩,
        ⟨.read sampleLocation, some (.document (sampleDocument "first") true)⟩]
      (.done (.error (.error (.message "key ID is not present")))) :=
    .step (.step (.step (.step (.refl _))))
  have reads : Moves (fileSystem False 0) ()
      [⟨.symlinkMetadata sampleLocation, some ⟨.file, 0o600⟩⟩, ⟨.utcNow, sampleNow⟩,
        ⟨.read sampleLocation, some (.document (sampleDocument "first") true)⟩,
        ⟨.read sampleLocation, some (.document (sampleDocument "first") true)⟩] after
      { after with clock := sampleNow } :=
    ⟨_, ⟨rfl, Or.inl (by rw [placed]; rfl)⟩, _, rfl, _, ⟨rfl, Or.inr ⟨_, placed, fun _ => rfl⟩⟩, _,
      ⟨rfl, Or.inr ⟨_, placed, fun _ => rfl⟩⟩, rfl⟩
  let first : Execution := ⟨(sampleGeneration "first").command, emptyWorld, after, .ok ()⟩
  let second : Execution := ⟨⟨.es256, .activate "missing"⟩, after,
    { after with clock := sampleNow }, .error (.error (.message "key ID is not present"))⟩
  have firstRuns : Executes (fileSystem False 0) () (run sampleLibrary sampleLocation first.command)
      first.before first.after first.outcome := path.executes moves
  have secondRuns : Executes (fileSystem False 0) ()
      (run sampleLibrary sampleLocation second.command) second.before second.after
      second.outcome := missing.executes reads
  exact ⟨first, second,
    .cons firstRuns rfl (fun _ member => member)
      (.cons secondRuns rfl (fun _ member => member) (.nil second.after)),
    rfl, rfl, placed⟩

theorem keyring_tool_refines_sample :
    ∃ first second : Execution,
      Session sampleLibrary sampleLocation False 0 emptyWorld [first, second] ∧
      Completed sampleLibrary sampleLocation first.command first.before first.after ∧
      second.outcome = .error (.error (.message "key ID is not present")) ∧
      second.after.nodes sampleLocation = second.before.nodes sampleLocation := by
  rcases exists_sample_session with ⟨first, second, session, succeeded, failed, _⟩
  have refines := (keyring_tool_refines session sampleLocation_distinct).1
  exact ⟨first, second, session, (refines first (by simp)).completed succeeded, failed,
    (refines second (by simp)).failed _ failed⟩

end OidcExchange.Keys
