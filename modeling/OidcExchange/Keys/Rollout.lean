import OidcExchange.Keys.Readiness
import OidcExchange.Keys.Rotation

/-!
# Rolling out a key ring

Commands change the file, and replicas load copies of it that were taken anywhere between
the commands, so that during a rollout replicas with different copies serve together.
What one of them signs the others can verify, as long as no command in between has
replaced the key.
-/

namespace OidcExchange.Keys

open OidcExchange.GitHub (Header)
open OidcExchange.Oidc OidcExchange.Process

/-! ## What an action leaves alone -/

/-- The actions that may add, remove or exchange the key with this ID. -/
def Action.replacesKey (kid : String) : Action → Bool
  | .generate _ _ => true
  | .validate => false
  | .add other _ => other == kid
  | .activate _ => false
  | .retire other => other == kid

/-- The actions that may choose another current key. -/
def Action.choosesKey : Action → Bool
  | .generate _ _ => true
  | .activate _ => true
  | _ => false

/-- Both files have the same keys with this ID. -/
def KeyRingFile.SameKey (kid : String) (file other : KeyRingFile) : Prop :=
  ∀ spec : KeySpec, spec.kid = kid → (spec ∈ file.keys ↔ spec ∈ other.keys)

theorem KeyRingFile.SameKey.symm {kid : String} {file other : KeyRingFile}
    (same : file.SameKey kid other) : other.SameKey kid file :=
  fun spec named => (same spec named).symm

theorem KeyRingFile.SameKey.notMem {kid : String} {file other : KeyRingFile}
    (same : file.SameKey kid other) (absent : kid ∉ file.keys.map KeySpec.kid) :
    kid ∉ other.keys.map KeySpec.kid := by
  intro present
  rcases List.mem_map.mp present with ⟨spec, member, named⟩
  exact absent (List.mem_map.mpr ⟨spec, (same spec named).mpr member, named⟩)

section Effects

variable {algorithm : Algorithm} {file after : KeyRingFile} {action : Action} {kid : String}

theorem Effect.sameKey (effect : Effect algorithm (some file) after action)
    (spared : action.replacesKey kid = false) : file.SameKey kid after := by
  intro spec named
  cases action with
  | generate => contradiction
  | validate =>
      cases effect
      rfl
  | add other validityDays =>
      rcases effect with ⟨_, key, same, _, rfl, rfl⟩
      cases same
      have different : spec ≠ key := by
        rintro rfl
        simp [Action.replacesKey, named] at spared
      simp [different]
  | activate other =>
      rcases effect with ⟨_, same, _, rfl⟩
      cases same
      rfl
  | retire other =>
      rcases effect with ⟨_, front, key, back, same, _, rfl, listed, rfl⟩
      cases same
      have different : spec ≠ key := by
        rintro rfl
        simp [Action.replacesKey, named] at spared
      simp [listed, different]

theorem Effect.currentKid_eq (effect : Effect algorithm (some file) after action)
    (spared : action.choosesKey = false) : after.currentKid = file.currentKid := by
  cases action with
  | generate => contradiction
  | validate =>
      cases effect
      rfl
  | add other validityDays =>
      rcases effect with ⟨_, key, same, _, _, rfl⟩
      cases same
      rfl
  | activate => contradiction
  | retire other =>
      rcases effect with ⟨_, front, key, back, same, _, _, _, rfl⟩
      cases same
      rfl

/-- Retired keys are gone. -/
theorem Effect.retired (effect : Effect algorithm (some file) after (.retire kid))
    (distinct : (file.keys.map KeySpec.kid).Nodup) : kid ∉ after.keys.map KeySpec.kid := by
  rcases effect with ⟨_, front, key, back, same, _, rfl, listed, rfl⟩
  cases same
  rw [listed, List.map_append, List.map_cons, List.nodup_middle, List.nodup_cons] at distinct
  rw [List.map_append]
  exact distinct.1

end Effects

section Files

variable {E R ι : Type} {lossy : Prop} {umask : Nat} {task : ι} {library : ToolLibrary E R}
  {location : Location} {algorithm other : Algorithm} {world before after : World}
  {file otherFile : KeyRingFile} {command : Command}

theorem version_injective (same : version algorithm = version other) : algorithm = other := by
  cases algorithm <;> cases other <;> first | rfl | exact absurd same (by decide)

/-- The two algorithms read the version and the current ID of a file alike. -/
theorem keyringAt_agree (present : keyringAt library algorithm location world = some file)
    (otherPresent : keyringAt library other location world = some otherFile) :
    file.version = otherFile.version ∧ file.currentKid = otherFile.currentKid := by
  rcases Option.bind_eq_some_iff.mp present with ⟨node, nodeEq, rest⟩
  rcases Option.bind_eq_some_iff.mp rest with ⟨tree, read, deserialized⟩
  rw [keyringAt_eq nodeEq read] at otherPresent
  rcases KeyRingFile.structFields_of_deserialize deserialized with ⟨_, fields, _⟩
  rcases KeyRingFile.structFields_of_deserialize otherPresent with ⟨_, otherFields, _⟩
  rw [fields] at otherFields
  simp only [Option.some.injEq, List.cons.injEq, Json.string.injEq] at otherFields
  exact ⟨otherFields.1, otherFields.2.1⟩

/-- Every action but `generate` finds a file and leaves its version. -/
theorem Effect.version_eq {previous : Option KeyRingFile} {next : KeyRingFile} {action : Action}
    (effect : Effect algorithm previous next action)
    (edits : ∀ kid validityDays, action ≠ .generate kid validityDays) :
    ∃ file, previous = some file ∧ next.version = file.version := by
  cases action with
  | generate kid validityDays => exact absurd rfl (edits kid validityDays)
  | validate => exact ⟨next, effect, rfl⟩
  | add kid validityDays =>
      rcases effect with ⟨file, _, found, _, _, rfl⟩
      exact ⟨file, found, rfl⟩
  | activate kid =>
      rcases effect with ⟨file, found, _, rfl⟩
      exact ⟨file, found, rfl⟩
  | retire kid =>
      rcases effect with ⟨file, _, _, _, found, _, _, _, rfl⟩
      exact ⟨file, found, rfl⟩

/-- A command that edits a file is one for the algorithm of this file. -/
theorem Completed.effect (completed : Completed library location command before after)
    (edits : ∀ kid validityDays, command.action ≠ .generate kid validityDays)
    (present : keyringAt library algorithm location before = some file)
    (isVersion : file.version = version algorithm) :
    ∃ next, keyringAt library algorithm location after = some next ∧
      next.version = version algorithm ∧ Effect algorithm (some file) next command.action := by
  rcases completed.changed with ⟨next, changed, valid, effect⟩
  rcases effect.version_eq edits with ⟨previous, found, sameVersion⟩
  have agree := (keyringAt_agree present found).1
  have sameAlgorithm : algorithm = command.algorithm := by
    apply version_injective
    rw [← isVersion, agree, ← sameVersion, valid.version]
  subst sameAlgorithm
  rw [present] at effect
  exact ⟨next, changed, valid.version, effect⟩

/-- The file of a `retire` that succeeds was valid before. -/
theorem retire_validates {kid : String} :
    Ensures (fileSystem lossy umask) task (run library location ⟨algorithm, .retire kid⟩) before
      fun _ outcome => outcome = .ok () → ∃ file now,
        keyringAt library algorithm location before = some file ∧ file.Valid algorithm now := by
  unfold run
  split
  · exact ensures_done nofun
  have edits : Ensures (fileSystem lossy umask) task
      (editKeys library location algorithm (.retire kid)) before
      fun _ outcome => outcome = .ok () → ∃ file now,
        keyringAt library algorithm location before = some file ∧ file.Valid algorithm now := by
    apply validatePrivate_ensures.bindOk
    · exact fun _ _ _ => nofun
    · rintro state _ ⟨_, valid⟩
      rcases valid rfl with ⟨node, present, _, loaded⟩
      rcases loadContent_eq_ok loaded with ⟨tree, file, read, deserialized, fileValid⟩
      exact ⟨fun _ _ _ _ => ⟨file, _, (keyringAt_eq present read).trans deserialized, fileValid⟩⟩
  apply edits.bindOk
  · exact fun _ _ _ => nofun
  · exact fun _ _ valid => ⟨fun _ _ _ _ => valid rfl⟩

end Files

/-! ## The copies of a session -/

section Copies

variable {E R : Type} {lossy : Prop} {umask : Nat} {library : ToolLibrary E R}
  {location : Location} {algorithm : Algorithm} {start : World} {executions : List Execution}
  {done first last : Nat} {execution : Execution} {file : KeyRingFile}

/-- The command has returned an error; then it has left the file alone. -/
def Execution.Failed (execution : Execution) : Prop :=
  ∃ error, execution.outcome = .error (.error error)

/-- The world in which the file is found after the first `done` commands. -/
def worldAfter (start : World) (executions : List Execution) (done : Nat) : World :=
  ((executions.take done).getLast?.map Execution.after).getD start

/-- Every command from `first` on and before `last` has failed or is one of those. -/
def Spares (executions : List Execution) (spares : Action → Bool) (first last : Nat) : Prop :=
  ∀ done execution, first ≤ done → done < last → executions[done]? = some execution →
    execution.Failed ∨ spares execution.command.action = true

variable (start) in
theorem worldAfter_succ (performed : executions[done]? = some execution) :
    worldAfter start executions (done + 1) = execution.after := by
  simp [worldAfter, List.take_add_one, performed]

/-- After the last command nothing changes. -/
theorem worldAfter_end (ended : executions[done]? = none) :
    worldAfter start executions (done + 1) = worldAfter start executions done := by
  simp [worldAfter, List.take_add_one, ended]

theorem Session.executes (session : Session library location lossy umask start executions) :
    ∀ execution ∈ executions, Executes (fileSystem lossy umask) ()
      (run library location execution.command) execution.before execution.after
      execution.outcome := by
  induction session with
  | nil => nofun
  | cons executes _ _ _ inductionHypothesis =>
      exact List.forall_mem_cons.mpr ⟨executes, inductionHypothesis⟩

/-- Every command finds the file as the commands before it have left it. -/
theorem Session.before_nodes (session : Session library location lossy umask start executions)
    (performed : executions[done]? = some execution) :
    execution.before.nodes location = (worldAfter start executions done).nodes location := by
  rcases List.getElem?_eq_some_iff.mp performed with ⟨bound, rfl⟩
  cases done with
  | zero =>
      cases session with
      | nil => contradiction
      | cons => rfl
  | succ done =>
      have earlier : executions[done]? = some executions[done] :=
        List.getElem?_eq_getElem (Nat.lt_of_succ_lt bound)
      rw [worldAfter_succ _ earlier]
      have split : executions =
          executions.take done ++ executions[done] :: executions[done + 1] ::
            executions.drop (done + 2) := by
        rw [List.getElem_cons_drop, List.getElem_cons_drop, List.take_append_drop]
      exact session.handover split

theorem keyringAt_congr {world other : World}
    (same : world.nodes location = other.nodes location) :
    keyringAt library algorithm location world = keyringAt library algorithm location other := by
  rw [keyringAt, keyringAt, same]

variable {spares : Action → Bool}

/-- The file in this world is the given one or the effect of a spared action on it. -/
def Revised (library : ToolLibrary E R) (location : Location) (algorithm : Algorithm)
    (spares : Action → Bool) (file : KeyRingFile) (world : World) : Prop :=
  ∃ next, keyringAt library algorithm location world = some next ∧
    next.version = version algorithm ∧
    (next = file ∨ ∃ action, spares action = true ∧ Effect algorithm (some file) next action)

/-- What one command does to a copy: nothing, or the effect of a spared action. -/
theorem Session.revised (session : Session library location lossy umask start executions)
    (distinct : ∀ uuid, location.temp uuid = location → uuid ∈ start.uuids)
    (edits : ∀ kid validityDays, spares (.generate kid validityDays) = false)
    (spared : ∀ execution, executions[done]? = some execution →
      execution.Failed ∨ spares execution.command.action = true)
    (present : keyringAt library algorithm location (worldAfter start executions done) = some file)
    (isVersion : file.version = version algorithm) :
    Revised library location algorithm spares file (worldAfter start executions (done + 1)) := by
  cases performed : executions[done]? with
  | none =>
      rw [worldAfter_end performed]
      exact ⟨file, present, isVersion, Or.inl rfl⟩
  | some execution =>
      rw [worldAfter_succ _ performed]
      have refines := session.refines distinct execution (List.mem_of_getElem? performed)
      rw [← keyringAt_congr (session.before_nodes performed)] at present
      have unchanged (same : execution.after.nodes location = execution.before.nodes location) :
          Revised library location algorithm spares file execution.after :=
        ⟨file, (keyringAt_congr same).trans present, isVersion, Or.inl rfl⟩
      rcases spared execution performed with ⟨error, failed⟩ | spare
      · exact unchanged (refines.failed error failed)
      have changed (completed : Completed library location execution.command execution.before
          execution.after) : Revised library location algorithm spares file execution.after := by
        have notGenerate : ∀ kid validityDays,
            execution.command.action ≠ .generate kid validityDays := by
          intro kid validityDays same
          rw [same, edits] at spare
          contradiction
        rcases completed.effect notGenerate present isVersion with
          ⟨next, presentAfter, nextVersion, effect⟩
        exact ⟨next, presentAfter, nextVersion, Or.inr ⟨_, spare, effect⟩⟩
      cases outcome : execution.outcome with
      | ok result => exact changed (refines.completed outcome)
      | error failure =>
          cases failure with
          | error error => exact unchanged (refines.failed error outcome)
          | panic =>
              rcases refines.panicked outcome with same | completed
              · exact unchanged same
              · exact changed completed

/-- What the spared actions keep holds of every later copy. -/
theorem Session.keeps (session : Session library location lossy umask start executions)
    (distinct : ∀ uuid, location.temp uuid = location → uuid ∈ start.uuids)
    (edits : ∀ kid validityDays, spares (.generate kid validityDays) = false)
    {property : KeyRingFile → Prop}
    (step : ∀ file next action, spares action = true → property file →
      Effect algorithm (some file) next action → property next)
    (ordered : first ≤ last) (spared : Spares executions spares first last)
    (present : keyringAt library algorithm location (worldAfter start executions first) = some file)
    (isVersion : file.version = version algorithm) (holds : property file) :
    ∃ next, keyringAt library algorithm location (worldAfter start executions last) = some next ∧
      next.version = version algorithm ∧ property next := by
  induction last, ordered using Nat.le_induction with
  | base => exact ⟨file, present, isVersion, holds⟩
  | succ last ordered inductionHypothesis =>
      have earlier : Spares executions spares first last :=
        fun done execution after before => spared done execution after (Nat.lt_succ_of_lt before)
      rcases inductionHypothesis earlier with ⟨middle, middlePresent, middleVersion, middleHolds⟩
      have current : ∀ execution, executions[last]? = some execution →
          execution.Failed ∨ spares execution.command.action = true :=
        fun execution => spared last execution ordered (Nat.lt_succ_self last)
      rcases session.revised distinct edits current middlePresent middleVersion with
        ⟨next, nextPresent, nextVersion, rfl | ⟨action, spare, effect⟩⟩
      · exact ⟨next, nextPresent, nextVersion, middleHolds⟩
      · exact ⟨next, nextPresent, nextVersion, step middle next action spare middleHolds effect⟩

end Copies

/-! ## Replicas -/

section Replicas

variable {E R C K : Type} {lossy : Prop} {umask : Nat} {library : ToolLibrary E R}
  {location : Location} {algorithm : Algorithm} {start : World} {executions : List Execution}
  {format : KeyFormat K} {encoder : SigningLibrary E R C} {signing : SigningFormat K}

/-- The loader reads the key rings of this algorithm. -/
structure KeyFormat.IsFor (format : KeyFormat K) (algorithm : Algorithm) : Prop where
  version : format.version = Keys.version algorithm
  materialField : format.materialField = Keys.materialField algorithm

/-- A replica, or a verifier to which the published keys are handed over.  Its copy of the
file was taken after the first `done` commands. -/
structure Replica (K : Type) where
  done : Nat
  loadedAt : DateTime
  readinessThreshold : Nat
  ring : KeyRing K

/-- The replica has loaded its key ring from its copy. -/
def Replica.Loads (replica : Replica K) (library : ToolLibrary E R) (location : Location)
    (start : World) (executions : List Execution) (format : KeyFormat K) : Prop :=
  loadWithReadinessThreshold library.parseTime format
      (treeAt library location (worldAfter start executions replica.done)) replica.loadedAt
      replica.readinessThreshold = .ok replica.ring

/-- The token names the key that has signed it, and the key ring publishes this key and no
other under that ID. -/
def Verifiable (encoder : SigningLibrary E R C) (signing : SigningFormat K) (ring : KeyRing K)
    (claims : C) (token : String) : Prop :=
  ∃ kid key der jwk, signing.toDer key = some der ∧
    encoder.encode { alg := signing.algorithm, typ := some "JWT", kid := some kid } claims der =
      some token ∧
    signing.publicJwk kid key = some jwk ∧ jwkKid jwk = kid ∧ ring.Publishes signing jwk

/-- What a rollout of one kind of key ring guarantees. -/
structure RotatesSafely (library : ToolLibrary E R) (location : Location) (start : World)
    (executions : List Execution) (format : KeyFormat K) (encoder : SigningLibrary E R C)
    (signing : SigningFormat K) : Prop where
  /-- Until it expires, a token of a ready replica can be verified by every other one that has
  loaded by then, if no command between their copies replaces the key. -/
  verifiable : ∀ (signer other : Replica K) (now : DateTime) (claims : C) (token : String),
    signer.Loads library location start executions format →
    other.Loads library location start executions format →
    leastReadinessThreshold ≤ signer.readinessThreshold → signer.ring.isReadyAt now = true →
    signer.ring.signAt encoder signing claims now = .ok token →
    Spares executions (fun action => !action.replacesKey signer.ring.currentKid)
      (min signer.done other.done) (max signer.done other.done) →
    other.loadedAt ≤ now.addSeconds tokenTtl →
      Verifiable encoder signing other.ring claims token
  /-- Later copies sign with the activated key until another one is chosen. -/
  activated : ∀ (replica : Replica K) (done : Nat) (execution : Execution) (kid : String),
    replica.Loads library location start executions format →
    executions[done]? = some execution → execution.command.action = .activate kid →
    execution.outcome = .ok () → done < replica.done →
    Spares executions (fun action => !action.choosesKey) (done + 1) replica.done →
      replica.ring.currentKid = kid
  /-- Later copies publish nothing under a retired ID until it is used again. -/
  retired : ∀ (replica : Replica K) (done : Nat) (execution : Execution) (kid : String),
    replica.Loads library location start executions format →
    executions[done]? = some execution → execution.command.action = .retire kid →
    execution.outcome = .ok () → done < replica.done →
    Spares executions (fun action => !action.replacesKey kid) (done + 1) replica.done →
      ∀ iteration, replica.ring.Iterates iteration →
        ∀ jwk ∈ jwks signing iteration, jwkKid jwk ≠ kid

theorem Replica.Loads.file {replica : Replica K} (isFor : format.IsFor algorithm)
    (loads : replica.Loads library location start executions format) :
    ∃ file, keyringAt library algorithm location (worldAfter start executions replica.done) =
        some file ∧ file.version = version algorithm ∧
      file.load format replica.loadedAt replica.readinessThreshold = .ok replica.ring := by
  rcases loadWithReadinessThreshold_eq_ok_iff.mp loads with
    ⟨tree, file, read, deserialized, loaded⟩
  rcases Option.bind_eq_some_iff.mp read with ⟨node, present, treeEq⟩
  rw [isFor.materialField] at deserialized
  refine ⟨file, (keyringAt_eq present treeEq).trans deserialized, ?_, loaded⟩
  rw [(KeyRingFile.load_eq_ok loaded).version, isFor.version]

/-- A key that no command between two copies replaces is the same in both. -/
theorem Session.sameKey (session : Session library location lossy umask start executions)
    (distinct : ∀ uuid, location.temp uuid = location → uuid ∈ start.uuids) {kid : String}
    {first last : Nat} {file other : KeyRingFile} (ordered : first ≤ last)
    (spared : Spares executions (fun action => !action.replacesKey kid) first last)
    (present : keyringAt library algorithm location (worldAfter start executions first) = some file)
    (otherPresent : keyringAt library algorithm location (worldAfter start executions last) =
      some other)
    (isVersion : file.version = version algorithm) : file.SameKey kid other := by
  have keeps := session.keeps distinct (fun _ _ => rfl)
    (fun middle next action spare (same : file.SameKey kid middle) effect spec named =>
      (same spec named).trans (effect.sameKey (Bool.not_eq_true' _ ▸ spare) spec named))
    ordered spared present isVersion fun _ _ => Iff.rfl
  rcases keeps with ⟨next, nextPresent, _, same⟩
  rw [otherPresent, Option.some.injEq] at nextPresent
  exact nextPresent ▸ same

theorem KeyRing.verifiable {file otherFile : KeyRingFile} {now loadedAt otherLoadedAt : DateTime}
    {threshold otherThreshold : Nat} {ring otherRing : KeyRing K} {claims : C} {token : String}
    (loaded : file.load format loadedAt threshold = .ok ring)
    (otherLoaded : otherFile.load format otherLoadedAt otherThreshold = .ok otherRing)
    (shared : file.SameKey ring.currentKid otherFile) (encodes : signing.Encodes)
    (signed : ring.signAt encoder signing claims now = .ok token)
    (lasts : otherLoadedAt < ring.currentNotAfter) :
    Verifiable encoder signing otherRing claims token := by
  have sharedKey : ∀ spec ∈ file.keys, spec.kid = file.currentKid → spec ∈ otherFile.keys := by
    intro spec member current
    rw [(KeyRingFile.load_eq_ok loaded).currentKid] at shared
    exact (shared spec current).mp member
  rcases KeyRingFile.lookup_reloaded loaded otherLoaded sharedKey lasts with ⟨key, found, refound⟩
  rcases KeyRing.signAt_eq_ok signed with ⟨signingKey, der, signingFound, encodedKey, encoded⟩
  rw [found, Option.some.injEq] at signingFound
  subst signingFound
  rcases encodes ring.currentKid key with ⟨jwk, published⟩
  exact ⟨ring.currentKid, key, der, jwk, encodedKey, encoded, published,
    (signing.tagged published).kid, KeyRing.publishes_of_lookup refound published⟩

/-- A key that was retired is not in the file any more. -/
theorem Session.retired_absent (session : Session library location lossy umask start executions)
    (distinct : ∀ uuid, location.temp uuid = location → uuid ∈ start.uuids)
    {execution : Execution} {kid : String} (member : execution ∈ executions)
    (retires : execution.command.action = .retire kid) (succeeded : execution.outcome = .ok ()) :
    ∃ file, keyringAt library execution.command.algorithm location execution.after = some file ∧
      file.version = version execution.command.algorithm ∧ kid ∉ file.keys.map KeySpec.kid := by
  have completed := (session.refines distinct execution member).completed succeeded
  have executes := session.executes execution member
  rcases execution with ⟨⟨algorithm, action⟩, before, after, outcome⟩
  cases retires
  rcases completed.changed with ⟨file, present, valid, effect⟩
  rcases retire_validates.result _ _ executes succeeded with
    ⟨previous, now, found, previousValid⟩
  dsimp only at effect
  rw [found] at effect
  exact ⟨file, present, valid.version, effect.retired previousValid.distinct⟩

theorem Session.rotatesSafely (session : Session library location lossy umask start executions)
    (distinct : ∀ uuid, location.temp uuid = location → uuid ∈ start.uuids)
    (isFor : format.IsFor algorithm) (encodes : signing.Encodes) :
    RotatesSafely library location start executions format encoder signing := by
  constructor
  · intro signer other now claims token loads otherLoads minimum ready signed spared within
    rcases loads.file isFor with ⟨file, present, isVersion, loaded⟩
    rcases otherLoads.file isFor with ⟨otherFile, otherPresent, otherVersion, otherLoaded⟩
    rcases KeyRingFile.load_eq_ok_loop loaded with ⟨_, _, _, sameThreshold⟩
    rw [← sameThreshold] at minimum
    have lasts := KeyRing.lt_notAfter_of_isReadyAt minimum ready within
    have shared : file.SameKey signer.ring.currentKid otherFile := by
      rcases le_total signer.done other.done with ordered | ordered
      · rw [min_eq_left ordered, max_eq_right ordered] at spared
        exact session.sameKey distinct ordered spared present otherPresent isVersion
      · rw [min_eq_right ordered, max_eq_left ordered] at spared
        exact (session.sameKey distinct ordered spared otherPresent present otherVersion).symm
    exact KeyRing.verifiable loaded otherLoaded shared encodes signed lasts
  · intro replica done execution kid loads performed activates succeeded after spared
    rcases loads.file isFor with ⟨file, present, isVersion, loaded⟩
    have completed := (session.refines distinct execution
      (List.mem_of_getElem? performed)).completed succeeded
    rcases completed.changed with ⟨chosen, chosenPresent, valid, effect⟩
    rw [activates] at effect
    rcases effect with ⟨_, _, _, rfl⟩
    rw [← worldAfter_succ start performed] at chosenPresent
    rcases session.keeps distinct (fun _ _ => rfl)
        (fun middle next action spare (same : middle.currentKid = kid) effect =>
          (effect.currentKid_eq (Bool.not_eq_true' _ ▸ spare)).trans same)
        after spared chosenPresent valid.version rfl with ⟨last, lastPresent, _, same⟩
    rw [(KeyRingFile.load_eq_ok loaded).currentKid, (keyringAt_agree present lastPresent).2, same]
  · intro replica done execution kid loads performed retires succeeded after spared iteration
      iterates jwk member named
    rcases loads.file isFor with ⟨file, present, isVersion, loaded⟩
    rcases session.retired_absent distinct (List.mem_of_getElem? performed) retires succeeded with
      ⟨left, leftPresent, leftVersion, absent⟩
    rw [← worldAfter_succ start performed] at leftPresent
    rcases session.keeps distinct (fun _ _ => rfl)
        (fun middle next action spare (absent : kid ∉ middle.keys.map KeySpec.kid) effect =>
          (effect.sameKey (Bool.not_eq_true' _ ▸ spare)).notMem absent)
        after spared leftPresent leftVersion absent with
      ⟨last, lastPresent, lastVersion, stillAbsent⟩
    have sameAlgorithm : algorithm = execution.command.algorithm := by
      apply version_injective
      rw [← isVersion, (keyringAt_agree present lastPresent).1, lastVersion]
    subst sameAlgorithm
    rw [present, Option.some.injEq] at lastPresent
    subst lastPresent
    rcases iterates.mem_jwks_iff.mp member with ⟨other, key, found, published⟩
    rw [(signing.tagged published).kid] at named
    subst named
    rcases ((KeyRingFile.load_eq_ok loaded).published other key).mp found with
      ⟨spec, specMember, specNamed, _⟩
    exact stillAbsent (List.mem_map.mpr ⟨spec, specMember, specNamed⟩)

/-- Rotating keys needs no outage.  In every sequence of commands on a file, whichever of them
fail, and for replicas that load copies of the file from anywhere in between: what a ready
replica signs every other one verifies until the token expires, if no command between their
copies replaces the key; an activated key signs until another one is chosen; and a retired
key is not published until its ID is used again. -/
theorem key_rotation_safe (session : Session library location lossy umask start executions)
    (distinct : ∀ uuid, location.temp uuid = location → uuid ∈ start.uuids)
    (encoder : SigningLibrary E R C) (coordinates : encoder.HasCoordinates) :
    RotatesSafely library location start executions (es256Format library.toKeyLibrary) encoder
        (es256Signing encoder) ∧
      RotatesSafely library location start executions (rsaFormat library.toKeyLibrary) encoder
        (rsaSigning encoder) := by
  have es256 : (es256Format library.toKeyLibrary).IsFor .es256 := ⟨rfl, rfl⟩
  have rsa : (rsaFormat library.toKeyLibrary).IsFor .rsa := ⟨rfl, rfl⟩
  exact ⟨session.rotatesSafely distinct es256 (es256Signing_encodes coordinates),
    session.rotatesSafely distinct rsa (rsaSigning_encodes encoder)⟩

end Replicas

/-- Nothing is signed: a token is the key ID and the claims. -/
def sampleEncoder : SigningLibrary Unit Unit String where
  toPkcs8Der _ := some [0]
  toPkcs1Der _ := some [0]
  coordinates _ := (some [0], some [0])
  modulus _ := [0]
  exponent _ := [0]
  base64Url _ := "AA"
  encode header claims _ := some (header.kid.getD "" ++ "." ++ claims)

theorem sample_treeAt {world : World} (placed : world.nodes sampleLocation =
      some ⟨.file, 0o600, .document (sampleDocument "first") true⟩) :
    treeAt sampleLibrary sampleLocation world = some (sampleDocument "first") := by
  rw [treeAt, placed]
  rfl

theorem sampleDocument_signs : ∃ ring,
    loadWithReadinessThreshold sampleLibrary.parseTime (es256Format sampleLibrary.toKeyLibrary)
      (some (sampleDocument "first")) sampleNow leastReadinessThreshold = .ok ring ∧
    (ring.isReadyAt sampleNow && (ring.signAt sampleEncoder (es256Signing sampleEncoder) "claims"
      sampleNow).toOption == some "first.claims") = true :=
  exists_ok_of_any _ (by decide +kernel)

/-- One replica has loaded the file before a command that fails, the other one after it. -/
theorem key_rotation_safe_sample : ∃ signer other : Replica Unit,
    signer.done = 1 ∧ other.done = 2 ∧
      Verifiable sampleEncoder (es256Signing sampleEncoder) other.ring "claims" "first.claims" := by
  rcases exists_sample_session with ⟨first, second, session, _, failed, placed⟩
  rcases sampleDocument_signs with ⟨ring, loaded, signs⟩
  rw [Bool.and_eq_true] at signs
  have signed : ring.signAt sampleEncoder (es256Signing sampleEncoder) "claims" sampleNow =
      .ok "first.claims" := by
    cases signing : ring.signAt sampleEncoder (es256Signing sampleEncoder) "claims" sampleNow with
    | error failure => simp [signing, Except.toOption] at signs
    | ok token => simpa [signing, Except.toOption] using signs.2
  have stays : second.after.nodes sampleLocation = first.after.nodes sampleLocation := by
    have refines := session.refines sampleLocation_distinct second (by simp)
    rw [refines.failed _ failed]
    have split : [first, second] = [] ++ first :: second :: [] := rfl
    exact session.handover split
  let signer : Replica Unit := ⟨1, sampleNow, leastReadinessThreshold, ring⟩
  let other : Replica Unit := ⟨2, sampleNow, leastReadinessThreshold, ring⟩
  have signerLoads : signer.Loads sampleLibrary sampleLocation emptyWorld [first, second]
      (es256Format sampleLibrary.toKeyLibrary) := by
    rw [← sample_treeAt placed] at loaded
    exact loaded
  have otherLoads : other.Loads sampleLibrary sampleLocation emptyWorld [first, second]
      (es256Format sampleLibrary.toKeyLibrary) := by
    rw [← sample_treeAt (stays.trans placed)] at loaded
    exact loaded
  have spared : Spares [first, second] (fun action => !action.replacesKey ring.currentKid)
      (min signer.done other.done) (max signer.done other.done) := by
    intro done execution from_first before_last performed
    have second_only : done = 1 := by
      simp only [signer, other] at from_first before_last
      omega
    subst second_only
    cases performed
    exact Or.inl ⟨_, failed⟩
  have within : sampleNow ≤ sampleNow.addSeconds tokenTtl := by decide
  have rotates := (key_rotation_safe session sampleLocation_distinct sampleEncoder
    fun _ => ⟨_, _, rfl⟩).1
  exact ⟨signer, other, rfl, rfl, rotates.verifiable signer other sampleNow "claims" "first.claims"
    signerLoads otherLoads le_rfl signs.1 signed spared within⟩

end OidcExchange.Keys
