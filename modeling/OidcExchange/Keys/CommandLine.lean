import OidcExchange.Data.Decimal
import OidcExchange.Data.Substrings
import OidcExchange.Keys.Rollout

/-!
# The command line of the keyring tool

`run` of `src/bin/keyring-tool.rs` from its arguments, with `export-jwks`.  The arguments
either spell one command on one file or are refused before anything is done.
-/

namespace OidcExchange.Keys

open OidcExchange.Oidc OidcExchange.Process

/-! ## The arguments -/

def usage : String :=
  "usage: keyring-tool (generate|add)-(es256|rsa) FILE KID [--valid-for-days DAYS]\n" ++
    "       keyring-tool (validate)-(es256|rsa) FILE\n" ++
    "       keyring-tool (activate|retire)-(es256|rsa) FILE KID\n" ++
    "       keyring-tool export-jwks FILE"

/-- What the arguments ask for, with the path they give. -/
inductive Invocation where
  | exportJwks (path : String)
  | command (path : String) (command : Command)
  deriving DecidableEq

def Invocation.path : Invocation → String
  | .exportJwks path => path
  | .command path _ => path

def Algorithm.name : Algorithm → String
  | .es256 => "es256"
  | .rsa => "rsa"

def readAlgorithm (text : String) : Except ToolError Algorithm :=
  if text = "es256" then .ok .es256
  else if text = "rsa" then .ok .rsa
  else .error (.message "algorithm must be es256 or rsa")

/-- `parse::<u16>().ok().filter(|days| (1..=3_650).contains(days))` -/
def readDays (text : String) : Option Nat :=
  (Decimal.parse (2 ^ 16) text).toOption.filter fun days =>
    decide (1 ≤ days) && decide (days ≤ 3650)

/-- The key ID and the validity of `generate` and `add`, from the arguments after the file. -/
def readValidity : List String → Except ToolError (String × Nat)
  | [kid] => .ok (kid, 90)
  | [kid, option, text] =>
      if option = "--valid-for-days" then
        match readDays text with
        | some days => .ok (kid, days)
        | none => .error (.message "--valid-for-days must be an integer from 1 through 3650")
      else
        .error (.message usage)
  | _ => .error (.message usage)

/-- The key ID of `activate` and `retire`. -/
def readKid : List String → Except ToolError String
  | [kid] => .ok kid
  | _ => .error (.message usage)

/-- `match action`, on the arguments after the file. -/
def readAction (action : String) (rest : List String) : Except ToolError Action :=
  if action = "validate" then
    if rest = [] then .ok .validate else .error (.message usage)
  else if action = "activate" then (readKid rest).map .activate
  else if action = "retire" then (readKid rest).map .retire
  else if action = "generate" then
    (readValidity rest).map fun validity => .generate validity.1 validity.2
  else if action = "add" then (readValidity rest).map fun validity => .add validity.1 validity.2
  else .error (.message "unknown command")

/-- The beginning of `run`, up to the check of the key ID. -/
def readArguments : List String → Except ToolError Invocation
  | command :: path :: rest =>
      if command = "export-jwks" then
        if rest = [] then .ok (.exportJwks path) else .error (.message usage)
      else
        match Text.rsplitOnce command '-' with
        | none => .error (.message "command must end in -es256 or -rsa")
        | some (action, algorithm) =>
            match readAlgorithm algorithm with
            | .error error => .error error
            | .ok algorithm =>
                (readAction action rest).map fun action => .command path ⟨algorithm, action⟩
  | _ => .error (.message usage)

/-- The arguments after the key ID that give this validity. -/
inductive SpellsDays : List String → Nat → Prop
  | default : SpellsDays [] 90
  | given {text : String} {days : Nat} (numeral : Decimal.parse (2 ^ 16) text = .ok days)
      (least : 1 ≤ days) (most : days ≤ 3650) : SpellsDays ["--valid-for-days", text] days

/-- The name of an action and the arguments after the file. -/
inductive SpellsAction : String → List String → Action → Prop
  | validate : SpellsAction "validate" [] .validate
  | activate (kid : String) : SpellsAction "activate" [kid] (.activate kid)
  | retire (kid : String) : SpellsAction "retire" [kid] (.retire kid)
  | generate {kid : String} {rest : List String} {days : Nat} (spells : SpellsDays rest days) :
      SpellsAction "generate" (kid :: rest) (.generate kid days)
  | add {kid : String} {rest : List String} {days : Nat} (spells : SpellsDays rest days) :
      SpellsAction "add" (kid :: rest) (.add kid days)

/-- The lines of the usage text. -/
inductive Spells : List String → Invocation → Prop
  | exportJwks (path : String) : Spells ["export-jwks", path] (.exportJwks path)
  | command {name path : String} {rest : List String} {action : Action} (algorithm : Algorithm)
      (spells : SpellsAction name rest action) :
      Spells ((name ++ "-" ++ algorithm.name) :: path :: rest) (.command path ⟨algorithm, action⟩)

section Arguments

variable {rest : List String} {kid name : String} {action : Action} {invocation : Invocation}

theorem readDays_eq_some_iff {text : String} {days : Nat} :
    readDays text = some days ↔
      Decimal.parse (2 ^ 16) text = .ok days ∧ 1 ≤ days ∧ days ≤ 3650 := by
  rw [readDays, Option.filter_eq_some_iff]
  cases parsed : Decimal.parse (2 ^ 16) text with
  | error kind => simp [Except.toOption]
  | ok value => simp [Except.toOption]

theorem readKid_eq_ok_iff : readKid rest = .ok kid ↔ rest = [kid] := by
  unfold readKid
  split
  · simp
  · rename_i other
    constructor
    · intro impossible
      contradiction
    · rintro rfl
      exact absurd rfl (other kid)

theorem readValidity_eq_ok_iff {days : Nat} :
    readValidity rest = .ok (kid, days) ↔ ∃ more, rest = kid :: more ∧ SpellsDays more days := by
  constructor
  · intro read
    unfold readValidity at read
    split at read
    · cases read
      exact ⟨[], rfl, .default⟩
    · split at read
      · rename_i option
        subst option
        split at read
        · rename_i found
          cases read
          rcases readDays_eq_some_iff.mp found with ⟨numeral, least, most⟩
          exact ⟨_, rfl, .given numeral least most⟩
        · contradiction
      · contradiction
    · contradiction
  · rintro ⟨more, rfl, spells⟩
    cases spells with
    | default => rfl
    | given numeral least most =>
        rw [readValidity, if_pos rfl, readDays_eq_some_iff.mpr ⟨numeral, least, most⟩]

theorem Except.map_eq_ok_iff {ε α β : Type} {result : Except ε α} {change : α → β} {value : β} :
    result.map change = .ok value ↔ ∃ source, result = .ok source ∧ change source = value := by
  cases result with
  | error failure => simp [Except.map]
  | ok source => simp [Except.map]

theorem readAction_eq_ok_iff :
    readAction name rest = .ok action ↔ SpellsAction name rest action := by
  constructor
  · intro read
    unfold readAction at read
    split at read
    · rename_i validates
      split at read
      · rename_i ended
        cases read
        rw [validates, ended]
        exact .validate
      · contradiction
    split at read
    · rename_i activates
      rcases Except.map_eq_ok_iff.mp read with ⟨kid, found, rfl⟩
      rw [activates, readKid_eq_ok_iff.mp found]
      exact .activate kid
    split at read
    · rename_i retires
      rcases Except.map_eq_ok_iff.mp read with ⟨kid, found, rfl⟩
      rw [retires, readKid_eq_ok_iff.mp found]
      exact .retire kid
    split at read
    · rename_i generates
      rcases Except.map_eq_ok_iff.mp read with ⟨⟨kid, days⟩, found, rfl⟩
      rcases readValidity_eq_ok_iff.mp found with ⟨more, rfl, spells⟩
      rw [generates]
      exact .generate spells
    split at read
    · rename_i adds
      rcases Except.map_eq_ok_iff.mp read with ⟨⟨kid, days⟩, found, rfl⟩
      rcases readValidity_eq_ok_iff.mp found with ⟨more, rfl, spells⟩
      rw [adds]
      exact .add spells
    · contradiction
  · intro spells
    cases spells with
    | validate => rfl
    | activate kid => rfl
    | retire kid => rfl
    | generate spells =>
        rw [readAction, if_neg (by decide), if_neg (by decide), if_neg (by decide), if_pos rfl,
          readValidity_eq_ok_iff.mpr ⟨_, rfl, spells⟩]
        rfl
    | add spells =>
        rw [readAction, if_neg (by decide), if_neg (by decide), if_neg (by decide),
          if_neg (by decide), if_pos rfl, readValidity_eq_ok_iff.mpr ⟨_, rfl, spells⟩]
        rfl

theorem readAlgorithm_eq_ok_iff {algorithm : Algorithm} {text : String} :
    readAlgorithm text = .ok algorithm ↔ text = algorithm.name := by
  constructor
  · intro read
    unfold readAlgorithm at read
    split at read
    · rename_i named
      cases read
      exact named
    split at read
    · rename_i named
      cases read
      exact named
    · contradiction
  · rintro rfl
    cases algorithm <;> rfl

/-- A command is split at the dash before its algorithm. -/
theorem rsplitOnce_command_iff {command : String} {algorithm : Algorithm} :
    Text.rsplitOnce command '-' = some (name, algorithm.name) ↔
      command = name ++ "-" ++ algorithm.name := by
  have free : '-' ∉ algorithm.name.toList := by cases algorithm <;> decide
  rw [Text.rsplitOnce_eq_some_iff, ← String.toList_inj]
  simp [free]

theorem command_ne_exportJwks {algorithm : Algorithm} :
    name ++ "-" ++ algorithm.name ≠ "export-jwks" := by
  intro same
  have parts := rsplitOnce_command_iff.mpr same.symm
  have split : Text.rsplitOnce "export-jwks" '-' = some ("export", "jwks") := by decide
  rw [split, Option.some.injEq, Prod.mk.injEq] at parts
  have unlike : "jwks" ≠ algorithm.name := by cases algorithm <;> decide
  exact unlike parts.2

/-- The arguments are accepted exactly in the forms of the usage text. -/
theorem readArguments_eq_ok_iff {args : List String} :
    readArguments args = .ok invocation ↔ Spells args invocation := by
  constructor
  · intro read
    unfold readArguments at read
    split at read
    · split at read
      · rename_i exports
        split at read
        · rename_i ended
          cases read
          rw [exports, ended]
          exact .exportJwks _
        · contradiction
      · split at read
        · contradiction
        · rename_i action algorithmName parts
          split at read
          · contradiction
          · rename_i algorithm found
            rcases Except.map_eq_ok_iff.mp read with ⟨action, spells, rfl⟩
            rw [readAlgorithm_eq_ok_iff.mp found] at parts
            rw [rsplitOnce_command_iff.mp parts]
            exact .command algorithm (readAction_eq_ok_iff.mp spells)
    · contradiction
  · intro spells
    cases spells with
    | exportJwks path => rfl
    | command algorithm spells =>
        have named := readAlgorithm_eq_ok_iff.mpr (rfl : algorithm.name = algorithm.name)
        rw [readArguments, if_neg command_ne_exportJwks, rsplitOnce_command_iff.mpr rfl]
        simp only [named, readAction_eq_ok_iff.mpr spells]
        rfl

end Arguments

/-! ## The process -/

section Programs

variable {E R C K : Type}

/-- `document["version"].as_str()` -/
def versionOf : Json → Option String
  | .object entries =>
      match entries.lookup "version" with
      | some (.string version) => some version
      | _ => none
  | _ => none

/-- `to_writer_pretty` and the final newline on the standard output. -/
def writeJwks (set : JwkSet) : ToolProgram JwkSet :=
  .call .print fun
    | false => .done (.error (.error .json))
    | true =>
        .call .print fun
          | false => .done (.error (.error .io))
          | true => .done (.ok set)

/-- `load(path, Utc::now())?.jwks()`, written to the standard output. -/
def exportRing (library : ToolLibrary E R) (location : Location) (format : KeyFormat K)
    (publish : KeyRing K → JwkSet) : ToolProgram JwkSet :=
  .call .utcNow fun now =>
    .call (.read location) fun
      | none => .done (.error (.error (.keyring .unreadable)))
      | some content =>
          match load library.parseTime format (library.tree content) now with
          | .error failure => .done (.error (.error (.keyring failure)))
          | .ok ring => writeJwks (publish ring)

/-- The libraries that encode public keys, and the orders in which key maps are iterated. -/
structure Publisher (E R C : Type) where
  library : SigningLibrary E R C
  iterate : KeyRing E → List (Sigma fun _ : String => E)
  iterateRsa : KeyRing R → List (Sigma fun _ : String => R)
  iterates : ∀ ring : KeyRing E, ring.Iterates (iterate ring)
  iteratesRsa : ∀ ring : KeyRing R, ring.Iterates (iterateRsa ring)

/-- `export_jwks`, with the set that it has written. -/
def exportJwks (library : ToolLibrary E R) (publisher : Publisher E R C) (location : Location) :
    ToolProgram JwkSet :=
  (validatePrivateMetadata location).bindOk fun _ =>
    .call (.read location) fun
      | none => .done (.error (.error .io))
      | some content =>
          match library.fromSlice content with
          | none => .done (.error (.error .json))
          | some document =>
              match versionOf document with
              | none => fail "keyring version is missing"
              | some version =>
                  if version = keyringVersion then
                    exportRing library location (es256Format library.toKeyLibrary) fun ring =>
                      jwks (es256Signing publisher.library) (publisher.iterate ring)
                  else if version = rsaKeyringVersion then
                    exportRing library location (rsaFormat library.toKeyLibrary) fun ring =>
                      jwks (rsaSigning publisher.library) (publisher.iterateRsa ring)
                  else
                    fail "unsupported keyring version"

/-- `main` up to its exit, with the set that `export-jwks` has written; `locate` finds the
parent directory and the last component of a path. -/
def keyringTool (library : ToolLibrary E R) (publisher : Publisher E R C)
    (locate : String → Location) (args : List String) : ToolProgram (Option JwkSet) :=
  match readArguments args with
  | .error error => .done (.error (.error error))
  | .ok (.exportJwks path) =>
      (exportJwks library publisher (locate path)).bindOk fun set => .done (.ok (some set))
  | .ok (.command path command) =>
      (run library (locate path) command).bindOk fun _ => .done (.ok none)

/-- The exit code of the process. -/
def exitCode {α : Type} : Except Failure α → Nat
  | .ok _ => 0
  | .error (.error _) => 1
  | .error .panic => 101

end Programs

section Reports

variable {E R C K ι : Type} {lossy : Prop} {umask : Nat} {task : ι} {library : ToolLibrary E R}
  {publisher : Publisher E R C} {location : Location} {locate : String → Location}
  {args : List String} {before after : World}

/-- The set is what a key ring of one kind publishes that is loaded from the file at `now`. -/
def Exported (library : ToolLibrary E R) (encoder : SigningLibrary E R C) (location : Location)
    (before : World) (now : DateTime) (set : JwkSet) : Prop :=
  (∃ ring iteration, load library.parseTime (es256Format library.toKeyLibrary)
      (treeAt library location before) now = .ok ring ∧
    ring.Iterates iteration ∧ set = jwks (es256Signing encoder) iteration) ∨
  ∃ ring iteration, load library.parseTime (rsaFormat library.toKeyLibrary)
      (treeAt library location before) now = .ok ring ∧
    ring.Iterates iteration ∧ set = jwks (rsaSigning encoder) iteration

/-- What a process of the tool guarantees. -/
structure Reports (library : ToolLibrary E R) (encoder : SigningLibrary E R C)
    (locate : String → Location) (args : List String) (before after : World)
    (outcome : Except Failure (Option JwkSet)) : Prop where
  refused : (∀ invocation, ¬Spells args invocation) → exitCode outcome = 1 ∧ after = before
  failed : ∀ invocation, Spells args invocation → exitCode outcome = 1 →
    after.nodes (locate invocation.path) = before.nodes (locate invocation.path)
  exported : ∀ path, Spells args (.exportJwks path) → before.Still after ∧
    ∀ written, outcome = .ok written → ∃ set, written = some set ∧
      Exported library encoder (locate path) before after.clock set
  completed : ∀ path command, Spells args (.command path command) →
    ∀ written, outcome = .ok written → written = none ∧
      Completed library (locate path) command before after

theorem writeJwks_ensures {set : JwkSet} :
    Ensures (fileSystem lossy umask) task (writeJwks set) before
      fun after outcome => after = before ∧ ∀ written, outcome = .ok written → written = set := by
  apply ensures_call
  rintro (_ | _) after rfl
  · exact ensures_done ⟨rfl, nofun⟩
  · apply ensures_call
    rintro (_ | _) last rfl
    · exact ensures_done ⟨rfl, nofun⟩
    · apply ensures_done
      refine ⟨rfl, ?_⟩
      rintro _ ⟨⟩
      rfl

theorem exportRing_ensures {format : KeyFormat K} {publish : KeyRing K → JwkSet} {node : Node}
    (present : before.nodes location = some node) (isPrivate : node.Private) :
    Ensures (fileSystem lossy umask) task (exportRing library location format publish) before
      fun after outcome => before.Still after ∧ ∀ written, outcome = .ok written →
        ∃ ring, load library.parseTime format (treeAt library location before) after.clock =
          .ok ring ∧ written = publish ring := by
  apply ensures_call
  rintro now _ rfl
  apply ensures_call
  rintro content after ⟨rfl, answered⟩
  rcases isPrivate.read present answered with rfl | rfl
  · exact ensures_done ⟨⟨rfl, rfl⟩, nofun⟩
  dsimp only
  split
  · exact ensures_done ⟨⟨rfl, rfl⟩, nofun⟩
  · rename_i ring loaded
    have tree : treeAt library location before = library.tree node.content := by
      rw [treeAt, present, Option.bind_some]
    apply writeJwks_ensures.mono
    rintro after outcome ⟨rfl, wrote⟩
    rw [tree]
    exact ⟨⟨rfl, rfl⟩, fun written returned => ⟨ring, loaded, wrote written returned⟩⟩

theorem exportJwks_ensures :
    Ensures (fileSystem lossy umask) task (exportJwks library publisher location) before
      fun after outcome => before.Still after ∧ ∀ written, outcome = .ok written →
        Exported library publisher.library location before after.clock written := by
  apply validatePrivateMetadata_ensures.bindOk
  · rintro state failure ⟨rfl, _⟩
    exact ⟨⟨rfl, rfl⟩, nofun⟩
  rintro state _ ⟨rfl, valid⟩
  rcases valid rfl with ⟨node, present, isPrivate⟩
  apply ensures_call
  rintro content after ⟨rfl, _⟩
  cases content with
  | none => exact ensures_done ⟨⟨rfl, rfl⟩, nofun⟩
  | some content =>
      dsimp only
      split
      · exact ensures_done ⟨⟨rfl, rfl⟩, nofun⟩
      split
      · exact ensures_done ⟨⟨rfl, rfl⟩, nofun⟩
      split
      · apply (exportRing_ensures present isPrivate).mono
        rintro after outcome ⟨still, wrote⟩
        refine ⟨still, fun written returned => ?_⟩
        rcases wrote written returned with ⟨ring, loaded, writtenEq⟩
        exact Or.inl ⟨ring, _, loaded, publisher.iterates ring, writtenEq⟩
      split
      · apply (exportRing_ensures present isPrivate).mono
        rintro after outcome ⟨still, wrote⟩
        refine ⟨still, fun written returned => ?_⟩
        rcases wrote written returned with ⟨ring, loaded, writtenEq⟩
        exact Or.inr ⟨ring, _, loaded, publisher.iteratesRsa ring, writtenEq⟩
      · exact ensures_done ⟨⟨rfl, rfl⟩, nofun⟩

/-- Arguments have one meaning. -/
theorem Spells.unique {first second : Invocation} (one : Spells args first)
    (other : Spells args second) : first = second := by
  have read := readArguments_eq_ok_iff.mpr one
  rw [readArguments_eq_ok_iff.mpr other, Except.ok.injEq] at read
  exact read.symm

theorem Reports.of_export {path : String} {outcome : Except Failure (Option JwkSet)}
    (spells : Spells args (.exportJwks path)) (still : before.Still after)
    (exported : ∀ written, outcome = .ok written → ∃ set, written = some set ∧
      Exported library publisher.library (locate path) before after.clock set) :
    Reports library publisher.library locate args before after outcome where
  refused none := absurd spells (none _)
  failed _ _ _ := by rw [still.1]
  exported other otherSpells := by
    cases spells.unique otherSpells
    exact ⟨still, exported⟩
  completed other command otherSpells := by
    cases spells.unique otherSpells

theorem Reports.of_command {path : String} {command : Command}
    {outcome : Except Failure (Option JwkSet)} (spells : Spells args (.command path command))
    (failed : exitCode outcome = 1 → after.nodes (locate path) = before.nodes (locate path))
    (completed : ∀ written, outcome = .ok written → written = none ∧
      Completed library (locate path) command before after) :
    Reports library publisher.library locate args before after outcome where
  refused none := absurd spells (none _)
  failed other otherSpells := by
    cases spells.unique otherSpells
    exact failed
  exported other otherSpells := by
    cases spells.unique otherSpells
  completed other command otherSpells := by
    cases spells.unique otherSpells
    exact completed

/-- The process of the keyring tool does what its arguments spell.  They are accepted exactly
in the forms of the usage text, and all others are refused before anything is done.  An exit
with code 1 leaves the file as it was; otherwise a command that returns has completed, and
`export-jwks` has changed nothing and written what the file publishes. -/
theorem command_line_exact (library : ToolLibrary E R) (publisher : Publisher E R C)
    (locate : String → Location) (args : List String)
    (distinct : ∀ invocation, Spells args invocation → ∀ uuid,
      (locate invocation.path).temp uuid = locate invocation.path → uuid ∈ before.uuids) :
    (∀ invocation, readArguments args = .ok invocation ↔ Spells args invocation) ∧
    Ensures (fileSystem lossy umask) task (keyringTool library publisher locate args) before
      fun after outcome =>
        Reports library publisher.library locate args before after outcome := by
  refine ⟨fun _ => readArguments_eq_ok_iff, ?_⟩
  unfold keyringTool
  cases read : readArguments args with
  | error error =>
      have unspelled : ∀ invocation, ¬Spells args invocation := by
        intro invocation spells
        rw [readArguments_eq_ok_iff.mpr spells] at read
        contradiction
      apply ensures_done
      exact ⟨fun _ => ⟨rfl, rfl⟩, fun _ _ _ => rfl, fun _ spells => absurd spells (unspelled _),
        fun _ _ spells => absurd spells (unspelled _)⟩
  | ok invocation =>
      have spells := readArguments_eq_ok_iff.mp read
      cases invocation with
      | exportJwks path =>
          apply exportJwks_ensures.bindOk
          · rintro state failure ⟨still, _⟩
            exact .of_export spells still nofun
          · rintro state set ⟨still, exported⟩
            apply ensures_done
            apply Reports.of_export spells still
            rintro _ ⟨⟩
            exact ⟨set, rfl, exported set rfl⟩
      | command path command =>
          apply (run_ensures (distinct _ spells)).bindOk
          · intro state failure refines
            apply Reports.of_command spells
            · intro exits
              cases failure with
              | error error => exact refines.failed error rfl
              | panic => contradiction
            · nofun
          · intro state _ refines
            apply ensures_done
            apply Reports.of_command spells
            · intro exits
              contradiction
            · rintro _ ⟨⟩
              exact ⟨rfl, refines.completed rfl⟩

end Reports

def samplePublisher : Publisher Unit Unit String where
  library := sampleEncoder
  iterate ring := ring.keys.entries
  iterateRsa ring := ring.keys.entries
  iterates _ := List.Perm.refl _
  iteratesRsa _ := List.Perm.refl _

/-- The generated key ring of the samples is exported. -/
theorem command_line_exact_sample : ∃ before after set,
    Executes (fileSystem False 0) () (keyringTool sampleLibrary samplePublisher
      (fun _ => sampleLocation) ["export-jwks", "keyring.json"]) before after (.ok (some set)) ∧
    Exported sampleLibrary sampleEncoder sampleLocation before after.clock set ∧
    set.map jwkKid = ["first"] := by
  rcases exists_sample_session with ⟨first, second, session, _, _, placed⟩
  have loads : ∃ ring, load sampleLibrary.parseTime (es256Format sampleLibrary.toKeyLibrary)
      (some (sampleDocument "first")) sampleNow = .ok ring ∧
      ((jwks (es256Signing sampleEncoder) ring.keys.entries).map jwkKid == ["first"]) = true :=
    exists_ok_of_any _ (by decide +kernel)
  rcases loads with ⟨ring, loaded, named⟩
  let events : List (Event Answer) :=
    [⟨.symlinkMetadata sampleLocation, some ⟨.file, 0o600⟩⟩,
      ⟨.read sampleLocation, some (.document (sampleDocument "first") true)⟩, ⟨.utcNow, sampleNow⟩,
      ⟨.read sampleLocation, some (.document (sampleDocument "first") true)⟩, ⟨.print, true⟩,
      ⟨.print, true⟩]
  have path : ∃ target, Program.Path (keyringTool sampleLibrary samplePublisher
      (fun _ => sampleLocation) ["export-jwks", "keyring.json"]) events target ∧
      target = .done (.ok (some (jwks (es256Signing sampleEncoder) ring.keys.entries))) := by
    apply Program.Path.exists_step_and
    apply Program.Path.exists_step_and
    apply Program.Path.exists_step_and
    apply Program.Path.exists_step_and
    dsimp only [ToolLibrary.tree]
    rw [loaded]
    apply Program.Path.exists_step_and
    apply Program.Path.exists_step_and
    exact ⟨_, .refl _, rfl⟩
  rcases path with ⟨_, path, rfl⟩
  have moves : Moves (fileSystem False 0) () events first.after
      { first.after with clock := sampleNow } :=
    ⟨_, ⟨rfl, Or.inl (by rw [placed]; rfl)⟩, _, ⟨rfl, Or.inr ⟨_, placed, fun _ => rfl⟩⟩, _, rfl, _,
      ⟨rfl, Or.inr ⟨_, placed, fun _ => rfl⟩⟩, _, rfl, _, rfl, rfl⟩
  have executes := path.executes moves
  have reports := (command_line_exact sampleLibrary samplePublisher (fun _ => sampleLocation)
    ["export-jwks", "keyring.json"] fun _ _ => sampleLocation_distinct).2.result _ _ executes
  rcases (reports.exported "keyring.json" (.exportJwks _)).2 _ rfl with ⟨set, same, exported⟩
  cases same
  exact ⟨_, _, _, executes, exported, beq_iff_eq.mp named⟩

end OidcExchange.Keys
