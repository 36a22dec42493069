import OidcExchange.Keys.Tool
import OidcExchange.Process.Sequential

/-!
# Commands of the keyring tool

Every command either fails and leaves its file as it was, or it leaves a file that the
loader accepts at the last clock reading of the command, changed as the abstract
operation says.  Failures may strike at every operation.
-/

namespace OidcExchange.Keys

open OidcExchange.Oidc OidcExchange.Process

/-! ## The programs one by one -/

section Programs

variable {E R ι : Type} {lossy : Prop} {umask : Nat} {task : ι} {library : ToolLibrary E R}
  {location temp : Location} {before : World}

/-- A regular file that only its owner may access. -/
def Node.Private (node : Node) : Prop :=
  node.fileType = .file ∧ node.mode &&& 0o777 = 0o600

/-- The world differs at most in its clock. -/
def World.Still (before after : World) : Prop :=
  after.nodes = before.nodes ∧ after.uuids = before.uuids

section Results

variable {α : Type} {start : World} {made : α → Prop}

/-- A program that ends in a failure has made nothing. -/
theorem ensures_failed {failure : Failure} (still : start.Still before) :
    Ensures (fileSystem lossy umask) task (.done (.error failure) : ToolProgram α) before
      fun after outcome => start.Still after ∧ ∀ result, outcome = .ok result → made result := by
  apply ensures_done
  exact ⟨still, nofun⟩

/-- A program that ends in a result has made this result only. -/
theorem ensures_made {result : α} (still : start.Still before) (holds : made result) :
    Ensures (fileSystem lossy umask) task (.done (.ok result) : ToolProgram α) before
      fun after outcome => start.Still after ∧ ∀ result, outcome = .ok result → made result := by
  apply ensures_done
  refine ⟨still, ?_⟩
  rintro _ ⟨⟩
  exact holds

end Results

theorem validatePrivateMetadata_ensures :
    Ensures (fileSystem lossy umask) task (validatePrivateMetadata location) before
      fun after outcome => after = before ∧
        (outcome = .ok () → ∃ node, before.nodes location = some node ∧ node.Private) := by
  apply ensures_call
  rintro answer after ⟨rfl, answered⟩
  cases answer with
  | none =>
      apply ensures_done
      exact ⟨rfl, nofun⟩
  | some metadata =>
      have found : ∃ node, after.nodes location = some node ∧ metadata = node.metadata := by
        rcases answered with found | ⟨_, impossible⟩
        · rcases Option.map_eq_some_iff.mp found.symm with ⟨node, present, same⟩
          exact ⟨node, present, same.symm⟩
        · contradiction
      rcases found with ⟨node, present, rfl⟩
      dsimp only
      split
      · apply ensures_done
        exact ⟨rfl, nofun⟩
      · rename_i accepted
        apply ensures_done
        rw [not_or, not_or, not_not, not_not] at accepted
        exact ⟨rfl, fun _ => ⟨node, present, accepted.1, accepted.2.2⟩⟩

/-- A private file is read as it is, if it is read. -/
theorem Node.Private.read {node : Node} {answer : Option Content} (isPrivate : node.Private)
    (present : before.nodes location = some node)
    (answered : answer = none ∨ ∃ other, before.nodes location = some other ∧
      (other.fileType = .file → answer = some other.content)) :
    answer = none ∨ answer = some node.content := by
  rcases answered with unread | ⟨other, otherPresent, read⟩
  · exact Or.inl unread
  · rw [present, Option.some.injEq] at otherPresent
    subst otherPresent
    exact Or.inr (read isPrivate.1)

/-- A file that is valid was private and is accepted at the last clock reading. -/
theorem validatePrivate_ensures {algorithm : Algorithm} :
    Ensures (fileSystem lossy umask) task (validatePrivate library location algorithm) before
      fun after outcome => before.Still after ∧
        (outcome = .ok () → ∃ node, before.nodes location = some node ∧ node.Private ∧
          loadContent library algorithm after.clock (some node.content) = .ok ()) := by
  apply validatePrivateMetadata_ensures.bindOk
  · rintro state failure ⟨rfl, _⟩
    exact ⟨⟨rfl, rfl⟩, nofun⟩
  · rintro state _ ⟨rfl, valid⟩
    rcases valid rfl with ⟨node, present, isPrivate⟩
    apply ensures_call
    rintro now _ rfl
    apply ensures_call
    rintro content after ⟨rfl, answered⟩
    split
    · apply ensures_done
      exact ⟨⟨rfl, rfl⟩, nofun⟩
    · rename_i loaded
      apply ensures_done
      refine ⟨⟨rfl, rfl⟩, fun _ => ⟨node, present, isPrivate, ?_⟩⟩
      rcases isPrivate.read present answered with rfl | rfl
      · contradiction
      · exact loaded

theorem newKey_ensures {algorithm : Algorithm} {kid : String} {validityDays : Nat} :
    Ensures (fileSystem lossy umask) task (newKey library algorithm kid validityDays) before
      fun after outcome => before.Still after ∧
        ∀ key, outcome = .ok key →
          ∃ material notBefore notAfter,
            key = keyValue library algorithm kid material notBefore notAfter := by
  apply ensures_call
  rintro now _ rfl
  split
  · rename_i notBefore notAfter _ _
    apply ensures_call
    rintro answer _ ⟨rfl, _⟩
    cases answer with
    | none => exact ensures_failed ⟨rfl, rfl⟩
    | some material =>
        apply ensures_made ⟨rfl, rfl⟩
        exact ⟨material, notBefore, notAfter, rfl⟩
  · exact ensures_failed ⟨rfl, rfl⟩

theorem refuseOverwrite_ensures {replace : Bool} {text : String} :
    Ensures (fileSystem lossy umask) task (refuseOverwrite location replace text) before
      fun after _ => after = before := by
  unfold refuseOverwrite
  split
  · apply ensures_done
    rfl
  · apply ensures_call
    rintro answer after ⟨rfl, _⟩
    cases answer with
    | none =>
        apply ensures_done
        rfl
    | some metadata =>
        apply ensures_done
        rfl

theorem attempt_ensures {op : Op} {succeeded : Answer op → Bool}
    {post : World → Except Failure Unit → Prop}
    (holds : ∀ answer after, perform lossy umask before op answer after →
      post after (if succeeded answer then .ok () else .error (.error .io))) :
    Ensures (fileSystem lossy umask) task (attempt op succeeded) before post := by
  apply ensures_call
  intro answer after effect
  exact ensures_done (holds answer after effect)

/-- The file at the path is as before, the temporary one is the given one. -/
structure World.Drafted (before after : World) (location temp : Location) (node : Node) : Prop where
  target : after.nodes location = before.nodes location
  draft : after.nodes temp = some node
  uuids : after.uuids = before.uuids

@[simp]
theorem World.put_nodes_self {world : World} {node : Option Node} :
    (world.put location node).nodes location = node :=
  Function.update_self _ _ _

theorem World.put_nodes_of_ne {world : World} {other : Location} {node : Option Node}
    (different : other ≠ location) : (world.put location node).nodes other = world.nodes other :=
  Function.update_of_ne different _ _

theorem World.Drafted.put {after : World} {node next : Node}
    (drafted : before.Drafted after location temp node) (different : temp ≠ location) :
    before.Drafted (after.put temp (some next)) location temp next where
  target := by
    rw [World.put_nodes_of_ne (Ne.symm different)]
    exact drafted.target
  draft := World.put_nodes_self
  uuids := drafted.uuids

/-- The world after an attempt to put a new file in place: as before at the path, unless
the document is there and is accepted. -/
structure World.Written (before after : World) (library : ToolLibrary E R) (location : Location)
    (document : Json) (outcome : Except Failure Unit) : Prop where
  uuids : ∀ uuid ∈ before.uuids, uuid ∈ after.uuids
  failed : ∀ failure, outcome = .error failure → after.nodes location = before.nodes location
  placed : outcome = .ok () → ∃ node, after.nodes location = some node ∧ node.Private ∧
    node.content = .document document true ∧
    loadContent library (if fieldIs document "version" keyringVersion then .es256 else .rsa)
      after.clock (some node.content) = .ok ()

theorem World.Drafted.written {after : World} {node : Node} {document : Json} {failure : Failure}
    (drafted : before.Drafted after location temp node) :
    before.Written after library location document (.error failure) where
  uuids _ member := drafted.uuids ▸ member
  failed _ _ := drafted.target
  placed := nofun

theorem World.Drafted.still {state after : World} {node : Node}
    (drafted : before.Drafted state location temp node) (still : state.Still after) :
    before.Drafted after location temp node where
  target := still.1 ▸ drafted.target
  draft := still.1 ▸ drafted.draft
  uuids := still.2.trans drafted.uuids

/-! Each operation on the temporary file leaves a draft, whether it succeeds or not. -/

theorem createNew_ensures (different : temp ≠ location) :
    Ensures (fileSystem lossy umask) task (attempt (.createNew temp 0o600) id) before
      fun after outcome => (after = before ∧ ∃ failure, outcome = .error failure) ∨
        outcome = .ok () ∧ ∃ node, before.Drafted after location temp node ∧
          node.content = .bytes [] := by
  apply attempt_ensures
  rintro answer after (⟨rfl, rfl⟩ | ⟨rfl, absent, rfl⟩)
  · exact Or.inl ⟨rfl, _, rfl⟩
  · refine Or.inr ⟨rfl, _, ⟨?_, World.put_nodes_self, rfl⟩, rfl⟩
    exact World.put_nodes_of_ne (Ne.symm different)

theorem writeDocument_ensures {state : World} {node : Node} {document : Json}
    (drafted : before.Drafted state location temp node) (different : temp ≠ location) :
    Ensures (fileSystem lossy umask) task (attempt (.writeDocument temp document) id) state
      fun after outcome => ∃ next, before.Drafted after location temp next ∧
        (outcome = .ok () → next.content = .document document false) := by
  apply attempt_ensures
  rintro answer after ⟨current, present, ⟨rfl, rfl⟩ | ⟨rfl, raw, rfl⟩⟩
  · exact ⟨_, drafted.put different, fun _ => rfl⟩
  · exact ⟨_, drafted.put different, nofun⟩

theorem writeNewline_ensures {state : World} {node : Node} {document : Json}
    (drafted : before.Drafted state location temp node)
    (content : node.content = .document document false) (different : temp ≠ location) :
    Ensures (fileSystem lossy umask) task (attempt (.writeNewline temp) id) state
      fun after outcome => ∃ next, before.Drafted after location temp next ∧
        (outcome = .ok () → next.content = .document document true) := by
  apply attempt_ensures
  rintro answer after (⟨rfl, rfl⟩ | ⟨current, present, rfl, rfl⟩)
  · exact ⟨_, drafted, nofun⟩
  · have same : current = node := Option.some.inj (present.symm.trans drafted.draft)
    refine ⟨_, drafted.put different, fun _ => ?_⟩
    dsimp only
    rw [same, content, Content.appendNewline]

theorem syncAll_ensures :
    Ensures (fileSystem lossy umask) task (attempt (.syncAll temp) id) before
      fun after _ => after = before := by
  apply attempt_ensures
  rintro answer after rfl
  rfl

/-- The last step puts the validated draft in place, or fails and leaves the path as it
is. -/
theorem rename_ensures {state : World} {node : Node} {document : Json}
    (drafted : before.Drafted state location temp node) (isPrivate : node.Private)
    (content : node.content = .document document true)
    (loaded : loadContent library
      (if fieldIs document "version" keyringVersion then .es256 else .rsa) state.clock
        (some node.content) = .ok ()) :
    Ensures (fileSystem lossy umask) task (attempt (.rename temp location) id) state
      fun after outcome => before.Written after library location document outcome := by
  apply attempt_ensures
  rintro answer after (⟨rfl, rfl⟩ | ⟨moved, source, rfl, _, rfl⟩)
  · exact drafted.written
  · have sameNode : moved = node := Option.some.inj (source.symm.trans drafted.draft)
    subst sameNode
    constructor
    · intro uuid member
      exact drafted.uuids ▸ member
    · nofun
    · intro _
      exact ⟨moved, World.put_nodes_self, isPrivate, content, loaded⟩

theorem writeTemp_ensures {document : Json} {replace : Bool} (different : temp ≠ location) :
    Ensures (fileSystem lossy umask) task (writeTemp library location temp document replace) before
      fun after outcome => before.Written after library location document outcome := by
  apply (createNew_ensures different).bindOk
  · rintro state failure (⟨rfl, _⟩ | ⟨impossible, _⟩)
    · exact ⟨fun _ member => member, fun _ _ => rfl, nofun⟩
    · contradiction
  rintro state _ (⟨_, _, impossible⟩ | ⟨_, node, drafted, _⟩)
  · contradiction
  apply (writeDocument_ensures drafted different).bindOk
  · rintro state failure ⟨next, drafted, _⟩
    exact drafted.written
  rintro state _ ⟨next, drafted, content⟩
  apply (writeNewline_ensures drafted (content rfl) different).bindOk
  · rintro state failure ⟨next, drafted, _⟩
    exact drafted.written
  rintro state _ ⟨next, drafted, content⟩
  apply syncAll_ensures.bindOk
  · rintro _ failure rfl
    exact drafted.written
  rintro _ _ rfl
  apply validatePrivate_ensures.bindOk
  · rintro after failure ⟨still, _⟩
    exact (drafted.still still).written
  rintro validated _ ⟨still, valid⟩
  rcases valid rfl with ⟨current, present, isPrivate, loaded⟩
  have same : current = next := Option.some.inj (present.symm.trans drafted.draft)
  subst same
  apply refuseOverwrite_ensures.bindOk
  · rintro _ failure rfl
    exact (drafted.still still).written
  rintro _ _ rfl
  exact rename_ensures (drafted.still still) isPrivate (content rfl) loaded

theorem writePrivate_ensures {document : Json} {replace : Bool}
    (distinct : ∀ uuid, location.temp uuid = location → uuid ∈ before.uuids) :
    Ensures (fileSystem lossy umask) task (writePrivate library location document replace) before
      fun after outcome => before.Written after library location document outcome := by
  have refused : ∀ failure, before.Written before library location document (.error failure) :=
    fun failure => ⟨fun _ member => member, fun _ _ => rfl, nofun⟩
  apply ensures_call
  rintro answer _ rfl
  cases answer with
  | false =>
      apply ensures_done
      exact refused _
  | true =>
      apply refuseOverwrite_ensures.bindOk
      · rintro _ failure rfl
        exact refused failure
      rintro _ _ rfl
      apply ensures_call
      rintro uuid state ⟨new, rfl⟩
      have different : location.temp uuid ≠ location := fun same => new (distinct uuid same)
      apply (writeTemp_ensures different).bind
      rintro written (failure | _) result
      · apply ensures_call
        intro removed after effect
        apply ensures_done
        have sameTarget : after.nodes location = written.nodes location ∧
            after.uuids = written.uuids := by
          rcases effect with ⟨_, rfl⟩ | ⟨_, rfl⟩
          · exact ⟨rfl, rfl⟩
          · exact ⟨World.put_nodes_of_ne (Ne.symm different), rfl⟩
        constructor
        · intro other member
          rw [sameTarget.2]
          exact result.uuids other (List.mem_cons_of_mem _ member)
        · intro _ _
          rw [sameTarget.1]
          exact result.failed failure rfl
        · nofun
      · apply ensures_done
        exact ⟨fun other member => result.uuids other (List.mem_cons_of_mem _ member), nofun,
          result.placed⟩

end Programs

/-! ## The abstract operations -/

/-- What the loader checks of a file at `now`. -/
structure KeyRingFile.Valid (file : KeyRingFile) (algorithm : Algorithm) (now : DateTime) :
    Prop where
  version : file.version = Keys.version algorithm
  distinct : (file.keys.map KeySpec.kid).Nodup
  current : ∃ key ∈ file.keys, key.kid = file.currentKid ∧ key.notBefore ≤ now ∧
    now < key.notAfter

/-- How an action changes a key ring. -/
def Effect (algorithm : Algorithm) (before : Option KeyRingFile) (after : KeyRingFile) :
    Action → Prop
  | .generate kid _ => ∃ key : KeySpec, key.kid = kid ∧ after = ⟨version algorithm, kid, [key]⟩
  | .validate => before = some after
  | .add kid _ => ∃ (file : KeyRingFile) (key : KeySpec), before = some file ∧
      kid ∉ file.keys.map KeySpec.kid ∧ key.kid = kid ∧
      after = { file with keys := file.keys ++ [key] }
  | .activate kid => ∃ file : KeyRingFile, before = some file ∧ kid ∈ file.keys.map KeySpec.kid ∧
      after = { file with currentKid := kid }
  | .retire kid => ∃ (file : KeyRingFile) (front : List KeySpec) (key : KeySpec)
      (back : List KeySpec), before = some file ∧ file.currentKid ≠ kid ∧ key.kid = kid ∧
      file.keys = front ++ key :: back ∧ after = { file with keys := front ++ back }

section Effects

variable {E R : Type} {library : ToolLibrary E R} {algorithm : Algorithm}

theorem plainField_materialField : PlainField (materialField algorithm) := by
  unfold PlainField
  cases algorithm <;> decide

theorem valid_of_load {K : Type} {format : KeyFormat K} {tree : Option Json} {now : DateTime}
    (sameVersion : format.version = version algorithm)
    (sameField : format.materialField = materialField algorithm)
    (accepted : (load library.parseTime format tree now).map (fun _ => ()) = .ok ()) :
    ∃ text file, tree = some text ∧
      KeyRingFile.deserialize library.parseTime (materialField algorithm) text = some file ∧
      file.Valid algorithm now := by
  cases loaded : load library.parseTime format tree now with
  | error failure =>
      rw [loaded] at accepted
      contradiction
  | ok ring =>
      rcases load_eq_ok_iff.mp loaded with ⟨text, file, read, deserialized, checked⟩
      have guaranteed := KeyRingFile.load_eq_ok checked
      exact ⟨text, file, read, sameField ▸ deserialized, sameVersion ▸ guaranteed.version,
        guaranteed.distinct, guaranteed.current⟩

/-- What is accepted is a valid file. -/
theorem loadContent_eq_ok {now : DateTime} {content : Content}
    (accepted : loadContent library algorithm now (some content) = .ok ()) :
    ∃ tree file, library.tree content = some tree ∧
      KeyRingFile.deserialize library.parseTime (materialField algorithm) tree = some file ∧
      file.Valid algorithm now := by
  cases algorithm with
  | es256 => exact valid_of_load rfl rfl accepted
  | rsa => exact valid_of_load rfl rfl accepted

/-- The tool reads the document that the loader has accepted. -/
theorem fromSlice_of_deserialize {content : Content} {tree : Json} {file : KeyRingFile}
    (read : library.tree content = some tree)
    (deserialized : KeyRingFile.deserialize library.parseTime (materialField algorithm) tree =
      some file) :
    library.fromSlice content = some tree := by
  cases content with
  | bytes raw =>
      have parsed : library.parse raw = some tree := read
      rw [ToolLibrary.fromSlice, parsed, Option.map_some,
        KeyRingFile.toValue_of_deserialize plainField_materialField deserialized]
  | document value newline => exact read

theorem exists_spec_of_mem {trees : List Json} {specs : List KeySpec}
    (listed : deserializeKeys library.parseTime (materialField algorithm) trees = some specs)
    {tree : Json} (member : tree ∈ trees) :
    ∃ spec ∈ specs,
      KeySpec.deserialize library.parseTime (materialField algorithm) tree = some spec := by
  rcases List.append_of_mem member with ⟨front, back, rfl⟩
  rcases deserializeKeys_append_eq_some_iff.mp listed with ⟨_, _, _, rest, rfl⟩
  rcases deserializeKeys_cons_eq_some_iff.mp rest with ⟨spec, _, deserialized, _, rfl⟩
  exact ⟨spec, List.mem_append_right _ List.mem_cons_self, deserialized⟩

theorem fieldIs_keyValue {kid material : String} {notBefore notAfter : DateTime} :
    fieldIs (keyValue library algorithm kid material notBefore notAfter) "kid" kid = true := by
  simp [fieldIs, keyValue]

/-- The search passes over keys of other IDs. -/
theorem filter_fieldIs_eq_self {keys : List Json} {specs : List KeySpec} {kid : String}
    (listed : deserializeKeys library.parseTime (materialField algorithm) keys = some specs)
    (others : ∀ other ∈ specs, other.kid ≠ kid) :
    keys.filter (fun key => !fieldIs key "kid" kid) = keys := by
  rw [List.filter_eq_self]
  intro key member
  rcases exists_spec_of_mem listed member with ⟨spec, specMember, read⟩
  rw [Bool.not_eq_true', ← Bool.not_eq_true]
  intro found
  exact others spec specMember (KeySpec.kid_of_fieldIs read found)

/-- The key that is retired is the only one that the search finds. -/
theorem filter_fieldIs {keys : List Json} {specs : List KeySpec} {kid : String}
    (listed : deserializeKeys library.parseTime (materialField algorithm) keys = some specs)
    (distinct : (specs.map KeySpec.kid).Nodup)
    (present : (keys.any fun key => fieldIs key "kid" kid) = true) :
    ∃ front spec back, spec.kid = kid ∧ specs = front ++ spec :: back ∧
      deserializeKeys library.parseTime (materialField algorithm)
        (keys.filter fun key => !fieldIs key "kid" kid) = some (front ++ back) := by
  rcases List.any_eq_true.mp present with ⟨key, member, found⟩
  rcases List.append_of_mem member with ⟨front, back, rfl⟩
  rcases deserializeKeys_append_eq_some_iff.mp listed with ⟨frontSpecs, _, frontListed, rest, rfl⟩
  rcases deserializeKeys_cons_eq_some_iff.mp rest with
    ⟨spec, backSpecs, deserialized, backListed, rfl⟩
  have named := KeySpec.kid_of_fieldIs deserialized found
  have others : ∀ other ∈ frontSpecs ++ backSpecs, other.kid ≠ kid := by
    rw [List.map_append, List.map_cons, List.nodup_middle, List.nodup_cons] at distinct
    intro other otherMember same
    apply distinct.1
    rw [named, ← same, ← List.map_append]
    exact List.mem_map_of_mem otherMember
  have keptFront := filter_fieldIs_eq_self frontListed fun other otherMember =>
    others other (List.mem_append_left _ otherMember)
  have keptBack := filter_fieldIs_eq_self backListed fun other otherMember =>
    others other (List.mem_append_right _ otherMember)
  refine ⟨frontSpecs, spec, backSpecs, named, rfl, ?_⟩
  rw [List.filter_append, List.filter_cons_of_neg (by simp [found]), keptFront, keptBack]
  exact deserializeKeys_append_eq_some_iff.mpr ⟨frontSpecs, backSpecs, frontListed, backListed, rfl⟩

/-- What `edit` returns. -/
def Edited (library : ToolLibrary E R) (algorithm : Algorithm) (document : Json)
    (keys : List Json) (edited : Json) : Action → Prop
  | .add kid _ => ∃ material notBefore notAfter, edited = setField document "keys"
      (.array (keys ++ [keyValue library algorithm kid material notBefore notAfter]))
  | .activate kid => (keys.any fun key => fieldIs key "kid" kid) = true ∧
      edited = setField document "current_kid" (.string kid)
  | .retire kid => fieldIs document "current_kid" kid = false ∧
      (keys.any fun key => fieldIs key "kid" kid) = true ∧
      edited = setField document "keys" (.array (keys.filter fun key => !fieldIs key "kid" kid))
  | _ => False

theorem object_of_keysOf {document : Json} {keys : List Json} (found : keysOf document = .ok keys) :
    ∃ entries, document = .object entries ∧ entries.lookup "keys" = some (.array keys) := by
  unfold keysOf at found
  split at found
  · rename_i entries
    split at found
    · rename_i present
      cases found
      exact ⟨entries, rfl, present⟩
    · contradiction
  · contradiction
  · contradiction

/-- An accepted document with another list of keys keeps its other fields. -/
theorem deserialize_setField_keys {entries : List (String × Json)} {keys : List Json}
    {file after : KeyRingFile}
    (deserialized : KeyRingFile.deserialize library.parseTime (materialField algorithm)
      (.object entries) = some file)
    (accepted : KeyRingFile.deserialize library.parseTime (materialField algorithm)
      (setField (.object entries) "keys" (.array keys)) = some after) :
    ∃ specs, after = { file with keys := specs } ∧
      deserializeKeys library.parseTime (materialField algorithm) keys = some specs := by
  rcases KeyRingFile.deserialize_object_eq_some_iff.mp deserialized with
    ⟨_, version, currentKid, _, _, _⟩
  rcases KeyRingFile.deserialize_object_eq_some_iff.mp accepted with
    ⟨_, newVersion, newKid, newKeys, newKeysEq, newListed⟩
  rcases after with ⟨afterVersion, afterKid, specs⟩
  simp only [lookup_setEntry, version, currentKid, String.reduceEq, ↓reduceIte,
    Option.some.injEq, Json.string.injEq, Json.array.injEq] at newVersion newKid newKeysEq
  subst newVersion newKid newKeysEq
  exact ⟨specs, rfl, newListed⟩

/-- An accepted document with another current ID keeps its keys. -/
theorem deserialize_setField_currentKid {entries : List (String × Json)} {kid : String}
    {file after : KeyRingFile}
    (deserialized : KeyRingFile.deserialize library.parseTime (materialField algorithm)
      (.object entries) = some file)
    (accepted : KeyRingFile.deserialize library.parseTime (materialField algorithm)
      (setField (.object entries) "current_kid" (.string kid)) = some after) :
    after = { file with currentKid := kid } := by
  rcases KeyRingFile.deserialize_object_eq_some_iff.mp deserialized with
    ⟨_, version, _, keys, keysEq, listed⟩
  rcases KeyRingFile.deserialize_object_eq_some_iff.mp accepted with
    ⟨_, newVersion, newKid, newKeys, newKeysEq, newListed⟩
  rcases after with ⟨afterVersion, afterKid, specs⟩
  simp only [lookup_setEntry, version, keysEq, String.reduceEq, ↓reduceIte,
    Option.some.injEq, Json.string.injEq, Json.array.injEq] at newVersion newKid newKeysEq
  subst newVersion newKid newKeysEq
  rw [listed, Option.some.injEq] at newListed
  rw [newListed]

/-- An edit of an accepted document that is accepted again is the abstract operation. -/
theorem Edited.effect {document edited : Json} {keys : List Json} {action : Action}
    {file after : KeyRingFile} (edit : Edited library algorithm document keys edited action)
    (found : keysOf document = .ok keys)
    (deserialized : KeyRingFile.deserialize library.parseTime (materialField algorithm) document =
      some file)
    (distinct : (file.keys.map KeySpec.kid).Nodup)
    (accepted : KeyRingFile.deserialize library.parseTime (materialField algorithm) edited =
      some after)
    (distinctAfter : (after.keys.map KeySpec.kid).Nodup) :
    Effect algorithm (some file) after action := by
  rcases object_of_keysOf found with ⟨entries, rfl, keysEq⟩
  rcases KeyRingFile.deserialize_object_eq_some_iff.mp deserialized with
    ⟨_, _, currentKid, _, sameKeys, listed⟩
  rw [keysEq, Option.some.injEq, Json.array.injEq] at sameKeys
  subst sameKeys
  cases action with
  | add kid validityDays =>
      rcases edit with ⟨material, notBefore, notAfter, rfl⟩
      rcases deserialize_setField_keys deserialized accepted with ⟨specs, rfl, newListed⟩
      rcases deserializeKeys_append_eq_some_iff.mp newListed with
        ⟨front, back, frontListed, backListed, rfl⟩
      rw [listed, Option.some.injEq] at frontListed
      subst frontListed
      rcases deserializeKeys_cons_eq_some_iff.mp backListed with ⟨key, _, read, last, rfl⟩
      cases last
      have named := KeySpec.kid_of_fieldIs read fieldIs_keyValue
      have absent : kid ∉ file.keys.map KeySpec.kid := by
        rw [List.map_append, List.nodup_append] at distinctAfter
        intro member
        exact distinctAfter.2.2 kid member kid (by simp [named]) rfl
      exact ⟨file, key, rfl, absent, named, rfl⟩
  | activate kid =>
      rcases edit with ⟨present, rfl⟩
      rcases List.any_eq_true.mp present with ⟨key, member, foundKey⟩
      rcases exists_spec_of_mem listed member with ⟨spec, specMember, read⟩
      refine ⟨file, rfl, ?_, deserialize_setField_currentKid deserialized accepted⟩
      exact List.mem_map.mpr ⟨spec, specMember, KeySpec.kid_of_fieldIs read foundKey⟩
  | retire kid =>
      rcases edit with ⟨notCurrent, present, rfl⟩
      rcases deserialize_setField_keys deserialized accepted with ⟨specs, rfl, newListed⟩
      rcases filter_fieldIs listed distinct present with ⟨front, key, back, named, split, kept⟩
      have sameKeys : specs = front ++ back := Option.some.inj (newListed.symm.trans kept)
      have other : file.currentKid ≠ kid := by
        rw [fieldIs, currentKid] at notCurrent
        exact beq_eq_false_iff_ne.mp notCurrent
      exact ⟨file, front, key, back, rfl, other, named, split, by rw [sameKeys]⟩
  | generate kid validityDays => exact edit.elim
  | validate => exact edit.elim

/-- A generated document that is accepted is the abstract operation. -/
theorem generated_effect {kid material : String} {notBefore notAfter : DateTime}
    {validityDays : Nat} {before : Option KeyRingFile} {after : KeyRingFile}
    (accepted : KeyRingFile.deserialize library.parseTime (materialField algorithm)
      (generatedDocument algorithm kid
        (keyValue library algorithm kid material notBefore notAfter)) = some after) :
    Effect algorithm before after (.generate kid validityDays) := by
  rcases KeyRingFile.deserialize_object_eq_some_iff.mp accepted with
    ⟨_, newVersion, newKid, newKeys, newKeysEq, newListed⟩
  rcases after with ⟨afterVersion, afterKid, afterKeys⟩
  simp only [List.lookup_cons, String.reduceBEq, beq_self_eq_true, Option.some.injEq,
    Json.string.injEq, Json.array.injEq] at newVersion newKid newKeysEq
  subst newVersion newKid newKeysEq
  rcases deserializeKeys_cons_eq_some_iff.mp newListed with ⟨key, _, read, last, listed⟩
  cases last
  exact ⟨key, KeySpec.kid_of_fieldIs read fieldIs_keyValue, by rw [← listed]⟩

end Effects

/-! ## Whole commands -/

section Commands

variable {E R ι : Type} {lossy : Prop} {umask : Nat} {task : ι} {library : ToolLibrary E R}
  {location : Location} {algorithm : Algorithm} {before after : World}

/-- The key ring that the loader reads at the path. -/
def keyringAt (library : ToolLibrary E R) (algorithm : Algorithm) (location : Location)
    (world : World) : Option KeyRingFile :=
  (world.nodes location).bind fun node =>
    (library.tree node.content).bind fun tree =>
      KeyRingFile.deserialize library.parseTime (materialField algorithm) tree

/-- The document that the tool reads at the path. -/
def documentAt (library : ToolLibrary E R) (location : Location) (world : World) : Option Json :=
  (world.nodes location).bind fun node => library.fromSlice node.content

theorem keyringAt_eq {node : Node} {tree : Json} (present : after.nodes location = some node)
    (read : library.tree node.content = some tree) :
    keyringAt library algorithm location after =
      KeyRingFile.deserialize library.parseTime (materialField algorithm) tree := by
  rw [keyringAt, present, Option.bind_some, read, Option.bind_some]

theorem documentAt_eq {node : Node} (present : after.nodes location = some node) :
    documentAt library location after = library.fromSlice node.content := by
  rw [documentAt, present, Option.bind_some]

/-- What a command has achieved: a private file that the loader accepts at the last clock
reading, with different key IDs and a current key in its window, changed as the action
says. -/
structure Completed (library : ToolLibrary E R) (location : Location) (command : Command)
    (before after : World) : Prop where
  stored : ∃ node, after.nodes location = some node ∧ node.Private ∧
    loadContent library command.algorithm after.clock (some node.content) = .ok ()
  changed : ∃ file, keyringAt library command.algorithm location after = some file ∧
    file.Valid command.algorithm after.clock ∧
    Effect command.algorithm (keyringAt library command.algorithm location before) file
      command.action
  activated : ∀ kid, command.action = .activate kid →
    documentAt library location after =
      (documentAt library location before).map fun document =>
        setField document "current_kid" (.string kid)

/-- The outcome of a command up to its final message. -/
structure Executed (library : ToolLibrary E R) (location : Location) (command : Command)
    (before after : World) (outcome : Except Failure Unit) : Prop where
  uuids : ∀ uuid ∈ before.uuids, uuid ∈ after.uuids
  failed : ∀ failure, outcome = .error failure → after.nodes location = before.nodes location
  completed : outcome = .ok () → Completed library location command before after

theorem edit_ensures {document : Json} {keys : List Json} {action : Action} :
    Ensures (fileSystem lossy umask) task (edit library algorithm document keys action) before
      fun after outcome => before.Still after ∧
        ∀ edited, outcome = .ok edited →
          Edited library algorithm document keys edited action := by
  cases action with
  | add kid validityDays =>
      rw [edit]
      split
      · exact ensures_failed ⟨rfl, rfl⟩
      · apply newKey_ensures.bindOk
        · rintro state failure ⟨still, _⟩
          exact ⟨still, nofun⟩
        · rintro state key ⟨still, made⟩
          rcases made key rfl with ⟨material, notBefore, notAfter, rfl⟩
          apply ensures_made still
          exact ⟨material, notBefore, notAfter, rfl⟩
  | activate kid =>
      rw [edit]
      split
      · exact ensures_failed ⟨rfl, rfl⟩
      · rename_i present
        apply ensures_made ⟨rfl, rfl⟩
        exact ⟨Bool.not_eq_false _ ▸ present, rfl⟩
  | retire kid =>
      rw [edit]
      split
      · exact ensures_failed ⟨rfl, rfl⟩
      · rename_i notCurrent
        split
        · exact ensures_failed ⟨rfl, rfl⟩
        · rename_i present
          apply ensures_made ⟨rfl, rfl⟩
          exact ⟨Bool.eq_false_iff.mpr notCurrent, Bool.not_eq_false _ ▸ present, rfl⟩
  | generate kid validityDays => exact ensures_failed ⟨rfl, rfl⟩
  | validate => exact ensures_failed ⟨rfl, rfl⟩

/-- The tool validates a document under the algorithm of its version. -/
theorem algorithm_of_version {entries : List (String × Json)}
    (lookup : entries.lookup "version" = some (.string (version algorithm))) :
    (if fieldIs (.object entries) "version" keyringVersion then Algorithm.es256 else .rsa) =
      algorithm := by
  rw [fieldIs, lookup]
  cases algorithm <;> decide

/-- An edit keeps the version. -/
theorem Edited.version_eq {entries : List (String × Json)} {edited : Json} {keys : List Json}
    {action : Action} (edit : Edited library algorithm (.object entries) keys edited action) :
    ∃ newEntries, edited = .object newEntries ∧
      newEntries.lookup "version" = entries.lookup "version" := by
  cases action with
  | add kid validityDays =>
      rcases edit with ⟨material, notBefore, notAfter, rfl⟩
      exact ⟨_, rfl, by simp [lookup_setEntry]⟩
  | activate kid =>
      rcases edit with ⟨_, rfl⟩
      exact ⟨_, rfl, by simp [lookup_setEntry]⟩
  | retire kid =>
      rcases edit with ⟨_, _, rfl⟩
      exact ⟨_, rfl, by simp [lookup_setEntry]⟩
  | generate kid validityDays => exact edit.elim
  | validate => exact edit.elim

theorem Executed.of_failure {command : Command} {failure : Failure}
    (uuids : ∀ uuid ∈ before.uuids, uuid ∈ after.uuids)
    (same : after.nodes location = before.nodes location) :
    Executed library location command before after (.error failure) where
  uuids := uuids
  failed _ _ := same
  completed := nofun

theorem World.Still.executed {command : Command} {failure : Failure} (still : before.Still after) :
    Executed library location command before after (.error failure) :=
  .of_failure (fun _ member => still.2 ▸ member) (by rw [still.1])

/-- A document that was put in place completes the command if it has the effect. -/
theorem World.Written.executed {command : Command} {start state : World} {document : Json}
    {outcome : Except Failure Unit}
    (written : state.Written after library location document outcome) (still : start.Still state)
    (sameAlgorithm : (if fieldIs document "version" keyringVersion then Algorithm.es256 else .rsa) =
      command.algorithm)
    (effect : ∀ file, KeyRingFile.deserialize library.parseTime
        (materialField command.algorithm) document = some file →
      file.Valid command.algorithm after.clock →
      Effect command.algorithm (keyringAt library command.algorithm location start) file
        command.action)
    (activated : ∀ kid, command.action = .activate kid →
      some document = (documentAt library location start).map fun document =>
        setField document "current_kid" (.string kid)) :
    Executed library location command start after outcome where
  uuids uuid member := written.uuids uuid (still.2 ▸ member)
  failed failure failed := by rw [written.failed failure failed, still.1]
  completed succeeded := by
    rcases written.placed succeeded with ⟨node, present, isPrivate, content, loaded⟩
    rw [sameAlgorithm] at loaded
    rcases loadContent_eq_ok loaded with ⟨tree, file, read, deserialized, valid⟩
    have sameTree : document = tree := by
      rw [content] at read
      exact Option.some.inj read
    subst sameTree
    constructor
    · exact ⟨node, present, isPrivate, loaded⟩
    · exact ⟨file, (keyringAt_eq present read).trans deserialized, valid,
        effect file deserialized valid⟩
    · intro kid action
      rw [documentAt_eq present, content, ← activated kid action]
      rfl

theorem generate_ensures {kid : String} {validityDays : Nat}
    (distinct : ∀ uuid, location.temp uuid = location → uuid ∈ before.uuids) :
    Ensures (fileSystem lossy umask) task (generate library location algorithm kid validityDays)
      before fun after outcome =>
        Executed library location ⟨algorithm, .generate kid validityDays⟩ before after outcome := by
  apply refuseOverwrite_ensures.bindOk
  · rintro _ failure rfl
    exact World.Still.executed ⟨rfl, rfl⟩
  rintro _ _ rfl
  apply newKey_ensures.bindOk
  · rintro state failure ⟨still, _⟩
    exact still.executed
  rintro state key ⟨still, made⟩
  rcases made key rfl with ⟨material, notBefore, notAfter, rfl⟩
  have distinctState : ∀ uuid, location.temp uuid = location → uuid ∈ state.uuids :=
    fun uuid same => still.2 ▸ distinct uuid same
  apply (writePrivate_ensures distinctState).mono
  intro after outcome written
  apply written.executed still
  · exact algorithm_of_version rfl
  · intro file accepted _
    exact generated_effect accepted
  · nofun

theorem editKeys_ensures {action : Action}
    (distinct : ∀ uuid, location.temp uuid = location → uuid ∈ before.uuids) :
    Ensures (fileSystem lossy umask) task (editKeys library location algorithm action) before
      fun after outcome => Executed library location ⟨algorithm, action⟩ before after outcome := by
  apply validatePrivate_ensures.bindOk
  · rintro state failure ⟨still, _⟩
    exact still.executed
  rintro state _ ⟨still, valid⟩
  rcases valid rfl with ⟨node, present, isPrivate, loaded⟩
  rcases loadContent_eq_ok loaded with ⟨tree, file, read, deserialized, fileValid⟩
  apply ensures_call
  rintro answer _ ⟨rfl, answered⟩
  rw [still.1] at answered
  rcases isPrivate.read present answered with rfl | rfl
  · apply ensures_done
    exact still.executed
  · have sliced := fromSlice_of_deserialize read deserialized
    dsimp only
    rw [sliced]
    dsimp only
    cases found : keysOf tree with
    | error failure =>
        apply ensures_done
        exact still.executed
    | ok keys =>
        apply edit_ensures.bindOk
        · rintro after failure ⟨stillMore, _⟩
          exact World.Still.executed
            ⟨stillMore.1.trans still.1, stillMore.2.trans still.2⟩
        rintro later edited ⟨stillMore, edit⟩
        have stillLater : before.Still later :=
          ⟨stillMore.1.trans still.1, stillMore.2.trans still.2⟩
        have distinctLater : ∀ uuid, location.temp uuid = location → uuid ∈ later.uuids :=
          fun uuid same => stillLater.2 ▸ distinct uuid same
        apply (writePrivate_ensures distinctLater).mono
        intro after outcome written
        rcases object_of_keysOf found with ⟨entries, rfl, _⟩
        rcases KeyRingFile.deserialize_object_eq_some_iff.mp deserialized with
          ⟨_, versionEq, _, _⟩
        rcases (edit edited rfl).version_eq with ⟨newEntries, rfl, sameVersion⟩
        apply written.executed stillLater
        · apply algorithm_of_version
          rw [sameVersion, versionEq, fileValid.version]
        · intro newFile accepted newValid
          rw [keyringAt_eq present read, deserialized]
          exact (edit _ rfl).effect found deserialized fileValid.distinct accepted
            newValid.distinct
        · rintro kid rfl
          rcases edit _ rfl with ⟨_, same⟩
          rw [documentAt_eq present, sliced, same, Option.map_some]

theorem execute_ensures {command : Command}
    (distinct : ∀ uuid, location.temp uuid = location → uuid ∈ before.uuids) :
    Ensures (fileSystem lossy umask) task (execute library location command) before
      fun after outcome => Executed library location command before after outcome := by
  rcases command with ⟨algorithm, action⟩
  cases action with
  | generate kid validityDays => exact generate_ensures distinct
  | validate =>
      apply validatePrivate_ensures.mono
      rintro after (failure | _) ⟨still, valid⟩
      · exact still.executed
      · constructor
        · exact fun uuid member => still.2 ▸ member
        · nofun
        · intro _
          rcases valid rfl with ⟨node, present, isPrivate, loaded⟩
          rcases loadContent_eq_ok loaded with ⟨tree, file, read, deserialized, fileValid⟩
          have stays : after.nodes location = some node := still.1 ▸ present
          constructor
          · exact ⟨node, stays, isPrivate, loaded⟩
          · exact ⟨file, (keyringAt_eq stays read).trans deserialized, fileValid,
              (keyringAt_eq present read).trans deserialized⟩
          · nofun
  | add kid validityDays => exact editKeys_ensures distinct
  | activate kid => exact editKeys_ensures distinct
  | retire kid => exact editKeys_ensures distinct

/-- What a command guarantees.  An error is returned only if nothing has changed; a panic
may also come from the final message. -/
structure Refines (library : ToolLibrary E R) (location : Location) (command : Command)
    (before after : World) (outcome : Except Failure Unit) : Prop where
  uuids : ∀ uuid ∈ before.uuids, uuid ∈ after.uuids
  failed : ∀ error, outcome = .error (.error error) → after.nodes location = before.nodes location
  panicked : outcome = .error .panic → after.nodes location = before.nodes location ∨
    Completed library location command before after
  completed : outcome = .ok () → Completed library location command before after

theorem run_ensures {command : Command}
    (distinct : ∀ uuid, location.temp uuid = location → uuid ∈ before.uuids) :
    Ensures (fileSystem lossy umask) task (run library location command) before
      fun after outcome => Refines library location command before after outcome := by
  unfold run
  split
  · apply ensures_done
    exact ⟨fun _ member => member, fun _ _ => rfl, nofun, nofun⟩
  · apply (execute_ensures distinct).bindOk
    · intro state failure executed
      have same := executed.failed failure rfl
      exact ⟨executed.uuids, fun _ _ => same, fun _ => Or.inl same, nofun⟩
    · intro state _ executed
      apply ensures_call
      rintro printed _ rfl
      apply ensures_done
      have completed := executed.completed rfl
      cases printed with
      | true => exact ⟨executed.uuids, nofun, nofun, fun _ => completed⟩
      | false => exact ⟨executed.uuids, nofun, fun _ => Or.inr completed, nofun⟩

end Commands

/-! ## A generation that meets no failure -/

/-- The parameters of one `generate` process. -/
structure Generation where
  algorithm : Algorithm
  kid : String
  validityDays : Nat

def Generation.command (generation : Generation) : Command :=
  ⟨generation.algorithm, .generate generation.kid generation.validityDays⟩

/-- The operations of a generation up to its rename. -/
def draftEvents (location : Location) (generation : Generation) (now : DateTime)
    (material uuid : String) (document : Json) : List (Event Answer) :=
  [⟨.symlinkMetadata location, none⟩, ⟨.utcNow, now⟩,
    ⟨.randomKey generation.algorithm, some material⟩, ⟨.isDir location.parent, true⟩,
    ⟨.symlinkMetadata location, none⟩, ⟨.newUuid, uuid⟩,
    ⟨.createNew (location.temp uuid) 0o600, true⟩,
    ⟨.writeDocument (location.temp uuid) document, true⟩,
    ⟨.writeNewline (location.temp uuid), true⟩, ⟨.syncAll (location.temp uuid), true⟩,
    ⟨.symlinkMetadata (location.temp uuid), some ⟨.file, 0o600⟩⟩, ⟨.utcNow, now⟩,
    ⟨.read (location.temp uuid), some (.document document true)⟩,
    ⟨.symlinkMetadata location, none⟩]

section Generations

variable {E R : Type} {library : ToolLibrary E R} {location : Location}

/-- At `now` and with this key the generation makes the document, which is accepted. -/
structure Generation.Makes (generation : Generation) (library : ToolLibrary E R) (now : DateTime)
    (material : String) (document : Json) : Prop where
  named : validateKid generation.kid = true
  made : ∃ notBefore notAfter, now.checkedAddSeconds (-300) = some notBefore ∧
    now.checkedAddSeconds (generation.validityDays * 86400) = some notAfter ∧
    document = generatedDocument generation.algorithm generation.kid
      (keyValue library generation.algorithm generation.kid material notBefore notAfter)
  accepted : loadContent library generation.algorithm now (some (.document document true)) = .ok ()

/-- Such a generation arrives at its rename, and then at its final message. -/
theorem run_draft (location : Location) (uuid : String) {generation : Generation} {now : DateTime}
    {material : String} {document : Json} (makes : generation.Makes library now material document) :
    ∃ target, Program.Path (run library location generation.command)
        (draftEvents location generation now material uuid document) target ∧
      ∃ next, target = .call (.rename (location.temp uuid) location) next ∧
        next true = .call .print fun printed =>
          .done (if printed then .ok () else .error .panic) := by
  rcases makes with ⟨named, ⟨notBefore, notAfter, starts, ends, made⟩, accepted⟩
  have algorithmEq : (if fieldIs document "version" keyringVersion then Algorithm.es256 else .rsa) =
      generation.algorithm := by
    rw [made]
    exact algorithm_of_version rfl
  have valid : generation.command.action.kid.all validateKid = true := named
  unfold run
  rw [valid, if_neg (by decide)]
  apply Program.Path.exists_step_and
  apply Program.Path.exists_step_and
  dsimp only
  rw [starts, ends]
  apply Program.Path.exists_step_and
  apply Program.Path.exists_step_and
  apply Program.Path.exists_step_and
  apply Program.Path.exists_step_and
  rw [show generation.command.algorithm = generation.algorithm from rfl, ← made]
  apply Program.Path.exists_step_and
  apply Program.Path.exists_step_and
  apply Program.Path.exists_step_and
  apply Program.Path.exists_step_and
  apply Program.Path.exists_step_and
  apply Program.Path.exists_step_and
  rw [algorithmEq]
  apply Program.Path.exists_step_and
  dsimp only
  rw [accepted]
  apply Program.Path.exists_step_and
  exact ⟨_, .refl _, _, rfl, rfl⟩
/-- Its operations can be performed if neither the path nor the temporary file exists. -/
theorem draft_moves {ι : Type} (task : ι) (generation : Generation) (now : DateTime)
    (material : String) {uuid : String} (document : Json) {world : World}
    (absent : world.nodes location = none) (new : uuid ∉ world.uuids)
    (free : world.nodes (location.temp uuid) = none) (different : location.temp uuid ≠ location) :
    ∃ after, Moves (fileSystem False 0) task
        (draftEvents location generation now material uuid document) world after ∧
      after.nodes location = none ∧
      after.nodes (location.temp uuid) = some ⟨.file, 0o600, .document document true⟩ ∧
      after.uuids = uuid :: world.uuids ∧ after.clock = now ∧
      ∀ other, other ≠ location.temp uuid → after.nodes other = world.nodes other := by
  let timed : World := { world with clock := now }
  let named : World := { timed with uuids := uuid :: world.uuids }
  let created := named.put (location.temp uuid) (some ⟨.file, 0o600, .bytes []⟩)
  let written := created.put (location.temp uuid)
    (some ⟨.file, 0o600, .document document false⟩)
  let ended := written.put (location.temp uuid) (some ⟨.file, 0o600, .document document true⟩)
  have others : ∀ other, other ≠ location.temp uuid → ended.nodes other = world.nodes other := by
    intro other distinct
    rw [World.put_nodes_of_ne distinct, World.put_nodes_of_ne distinct,
      World.put_nodes_of_ne distinct]
  have stillAbsent : ended.nodes location = none :=
    (others location (Ne.symm different)).trans absent
  refine ⟨ended, ?_, stillAbsent, World.put_nodes_self, rfl, rfl, others⟩
  refine ⟨world, ⟨rfl, Or.inl (by rw [absent]; rfl)⟩, timed, rfl, timed, ⟨rfl, nofun⟩, timed, rfl,
    timed, ⟨rfl, Or.inl (by rw [absent]; rfl)⟩, named, ⟨new, rfl⟩, created,
    Or.inr ⟨rfl, free, rfl⟩, written, ⟨_, World.put_nodes_self, Or.inl ⟨rfl, rfl⟩⟩, ended,
    Or.inr ⟨_, World.put_nodes_self, rfl, rfl⟩, ended, rfl, ended,
    ⟨rfl, Or.inl (by rw [World.put_nodes_self]; rfl)⟩, ended, rfl, ended,
    ⟨rfl, Or.inr ⟨_, World.put_nodes_self, fun _ => rfl⟩⟩, ended,
    ⟨rfl, Or.inl (by rw [stillAbsent]; rfl)⟩, rfl⟩

/-- A generation succeeds if it meets no failure and no file. -/
theorem generate_succeeds {ι : Type} (task : ι) {generation : Generation} {now : DateTime}
    {material uuid : String} {document : Json} {world : World}
    (makes : generation.Makes library now material document)
    (absent : world.nodes location = none) (new : uuid ∉ world.uuids)
    (free : world.nodes (location.temp uuid) = none) (different : location.temp uuid ≠ location) :
    ∃ events after, (run library location generation.command).Path events (.done (.ok ())) ∧
      Moves (fileSystem False 0) task events world after ∧
      after.nodes location = some ⟨.file, 0o600, .document document true⟩ := by
  rcases run_draft location uuid makes with ⟨_, drafting, next, rfl, printing⟩
  rcases draft_moves task generation now material document absent new free different with
    ⟨drafted, moves, stillAbsent, draft, _⟩
  have renamed := drafting.snoc true
  rw [printing] at renamed
  have renames : Moves (fileSystem False 0) task
      [⟨.rename (location.temp uuid) location, true⟩, ⟨.print, true⟩] drafted
      ((drafted.put (location.temp uuid) none).put location
        (some ⟨.file, 0o600, .document document true⟩)) := by
    refine ⟨_, Or.inr ⟨_, draft, rfl, ?_, rfl⟩, _, rfl, rfl⟩
    rw [stillAbsent]
    nofun
  have performed := moves.append renames
  rw [List.append_cons] at performed
  exact ⟨_, _, renamed.snoc true, performed, World.put_nodes_self⟩

end Generations

/-- A temporary file never stands at a path that is not named like one. -/
theorem Location.temp_ne {location : Location} {uuid : String}
    (unlike : Text.startsWith location.name ".keyring-" = false) :
    location.temp uuid ≠ location := by
  intro same
  have named : ".keyring-" ++ (uuid ++ ".tmp") = location.name := by
    rw [← String.append_assoc]
    exact congrArg Location.name same
  have starts := Text.startsWith_append ".keyring-" (uuid ++ ".tmp")
  rw [named, unlike] at starts
  contradiction

/-- The seed of thirty-two bytes that are one. -/
def sampleSeed : String := "AQEBAQEBAQEBAQEBAQEBAQEBAQEBAQEBAQEBAQEBAQE="

/-- Libraries that know one seed and the instants of the samples. -/
def sampleLibrary : ToolLibrary Unit Unit where
  base64 text := if text = sampleSeed then some (List.replicate 32 1) else none
  secretKey _ := some ()
  fromPkcs8Pem _ := none
  bits _ := 3072
  validate _ := true
  parse _ := none
  parseTime text :=
    if text = "1970-01-12T13:41:40Z" then some (.ofSeconds 999700)
    else if text = "1970-04-12T13:46:40Z" then some (.ofSeconds 8776000)
    else none
  formatTime instant :=
    if instant = .ofSeconds 999700 then "1970-01-12T13:41:40Z" else "1970-04-12T13:46:40Z"

def sampleLocation : Location := ⟨"/etc/issuer", "keyring.json"⟩

def sampleNow : DateTime := .ofSeconds 1000000

def sampleGeneration (kid : String) : Generation := ⟨.es256, kid, 90⟩

/-- The document of a generation at `sampleNow`. -/
def sampleDocument (kid : String) : Json :=
  generatedDocument .es256 kid
    (keyValue sampleLibrary .es256 kid sampleSeed (.ofSeconds 999700) (.ofSeconds 8776000))

/-- No file exists. -/
def emptyWorld : World := ⟨fun _ => none, [], .ofSeconds 0⟩

theorem sample_makes {kid : String} (named : validateKid kid = true)
    (accepted : loadContent sampleLibrary .es256 sampleNow
      (some (.document (sampleDocument kid) true)) = .ok ()) :
    (sampleGeneration kid).Makes sampleLibrary sampleNow sampleSeed (sampleDocument kid) := by
  have starts : sampleNow.checkedAddSeconds (-300) = some (.ofSeconds 999700) := by decide
  have ends : sampleNow.checkedAddSeconds ((90 : Nat) * 86400) = some (.ofSeconds 8776000) := by
    decide
  exact ⟨named, ⟨_, _, starts, ends, rfl⟩, accepted⟩

end OidcExchange.Keys
