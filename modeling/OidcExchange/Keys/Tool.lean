import OidcExchange.Keys.KeyRing
import OidcExchange.Process.Pool

/-!
# The keyring tool

`src/bin/keyring-tool.rs` as programs over the operations of a file system, a clock and
a random generator.  Every operation may fail.  A file that `to_writer_pretty` has
written is kept as the document that was written, so it reads back as such.

Left out: what is printed.  The arguments and `export-jwks`, which writes no file, are in
`Keys.CommandLine`.
-/

namespace OidcExchange.Keys

open OidcExchange.Oidc OidcExchange.Process

inductive Algorithm where
  | es256
  | rsa
  deriving DecidableEq

/-- A path: its parent directory and its last component. -/
structure Location where
  parent : String
  name : String
  deriving DecidableEq

inductive FileType where
  | file
  | directory
  | symlink
  | other
  deriving DecidableEq

structure Metadata where
  fileType : FileType
  mode : Nat
  deriving DecidableEq

/-- What a file holds: some bytes, or a document that was written with or without the
final newline. -/
inductive Content where
  | bytes (raw : List UInt8)
  | document (value : Json) (newline : Bool)

/-- Anything that may stand at a path. -/
structure Node where
  fileType : FileType
  mode : Nat
  content : Content

def Node.metadata (node : Node) : Metadata :=
  ⟨node.fileType, node.mode⟩

/-- The libraries of the tool: key decoding, the JSON parser and the texts of instants. -/
structure ToolLibrary (E R : Type) extends KeyLibrary E R where
  parse : List UInt8 → Option Json
  parseTime : String → Option DateTime
  formatTime : DateTime → String

variable {E R : Type}

/-- The text of a file as a tree. -/
def ToolLibrary.tree (library : ToolLibrary E R) : Content → Option Json
  | .bytes raw => library.parse raw
  | .document value _ => some value

/-- `serde_json::from_slice::<Value>` -/
def ToolLibrary.fromSlice (library : ToolLibrary E R) : Content → Option Json
  | .bytes raw => (library.parse raw).map toValue
  | .document value _ => some value

/-- The errors of the tool by where their text comes from. -/
inductive ToolError where
  | message (text : String)
  | io
  | json
  | keyring (failure : KeyError)
  | generation
  deriving DecidableEq

/-- A command either returns an error or panics. -/
inductive Failure where
  | error (error : ToolError)
  | panic
  deriving DecidableEq

/-- The operations of the tool. -/
inductive Op where
  | symlinkMetadata (location : Location)
  | isDir (parent : String)
  | read (location : Location)
  | createNew (location : Location) (mode : Nat)
  | writeDocument (location : Location) (document : Json)
  | writeNewline (location : Location)
  | syncAll (location : Location)
  | rename (source target : Location)
  | removeFile (location : Location)
  | utcNow
  | newUuid
  | randomKey (algorithm : Algorithm)
  | print

/-- What an operation returns; `none` and `false` are failures. -/
@[reducible]
def Answer : Op → Type
  | .symlinkMetadata _ => Option Metadata
  | .isDir _ => Bool
  | .read _ => Option Content
  | .createNew _ _ => Bool
  | .writeDocument _ _ => Bool
  | .writeNewline _ => Bool
  | .syncAll _ => Bool
  | .rename _ _ => Bool
  | .removeFile _ => Bool
  | .utcNow => DateTime
  | .newUuid => String
  | .randomKey _ => Option String
  | .print => Bool

/-- A fallible program of the tool. -/
abbrev ToolProgram (α : Type) :=
  Program Answer (Except Failure α)

def fail {α : Type} (text : String) : ToolProgram α :=
  .done (.error (.error (.message text)))

/-- An operation whose failure ends the command. -/
def attempt (op : Op) (succeeded : Answer op → Bool) : ToolProgram Unit :=
  .call op fun answer => .done (if succeeded answer then .ok () else .error (.error .io))

def validateKid (kid : String) : Bool :=
  !(Text.isEmpty kid || decide (Text.len kid > 64) ||
    !Text.all kid fun c => Text.isAsciiAlphanumeric c || c == '.' || c == '_' || c == '-')

def version : Algorithm → String
  | .es256 => keyringVersion
  | .rsa => rsaKeyringVersion

def materialField : Algorithm → String
  | .es256 => "seed"
  | .rsa => "private_key_pkcs8_pem"

/-- The entry that `new_key` returns. -/
def keyValue (library : ToolLibrary E R) (algorithm : Algorithm) (kid material : String)
    (before after : DateTime) : Json :=
  .object
    [("kid", .string kid), (materialField algorithm, .string material),
      ("not_before", .string (library.formatTime before)),
      ("not_after", .string (library.formatTime after))]

def newKey (library : ToolLibrary E R) (algorithm : Algorithm) (kid : String)
    (validityDays : Nat) : ToolProgram Json :=
  .call .utcNow fun now =>
    match now.checkedAddSeconds (-300), now.checkedAddSeconds (validityDays * 86400) with
    | some before, some after =>
        .call (.randomKey algorithm) fun
          | none => .done (.error (.error .generation))
          | some material => .done (.ok (keyValue library algorithm kid material before after))
    | _, _ => .done (.error .panic)

def validatePrivateMetadata (location : Location) : ToolProgram Unit :=
  .call (.symlinkMetadata location) fun
    | none => .done (.error (.error .io))
    | some metadata =>
        if metadata.fileType ≠ .file ∨ metadata.fileType = .symlink ∨
            metadata.mode &&& 0o777 ≠ 0o600 then
          fail "keyring must be a regular mode-0600 file"
        else
          .done (.ok ())

/-- `KeyRing::load` or `RsaKeyRing::load` of what was read, without the key ring. -/
def loadContent (library : ToolLibrary E R) (algorithm : Algorithm) (now : DateTime)
    (content : Option Content) : Except KeyError Unit :=
  match content with
  | none => .error .unreadable
  | some content =>
      match algorithm with
      | .es256 =>
          (load library.parseTime (es256Format library.toKeyLibrary) (library.tree content) now).map
            fun _ => ()
      | .rsa =>
          (load library.parseTime (rsaFormat library.toKeyLibrary) (library.tree content) now).map
            fun _ => ()

def validatePrivate (library : ToolLibrary E R) (location : Location) (algorithm : Algorithm) :
    ToolProgram Unit :=
  (validatePrivateMetadata location).bindOk fun _ =>
    .call .utcNow fun now =>
      .call (.read location) fun content =>
        match loadContent library algorithm now content with
        | .error failure => .done (.error (.error (.keyring failure)))
        | .ok () => .done (.ok ())

/-- `if !replace && fs::symlink_metadata(path).is_ok()` with the error of that check. -/
def refuseOverwrite (location : Location) (replace : Bool) (text : String) : ToolProgram Unit :=
  if replace then
    .done (.ok ())
  else
    .call (.symlinkMetadata location) fun
      | some _ => fail text
      | none => .done (.ok ())

/-- The path of the temporary file. -/
def Location.temp (location : Location) (uuid : String) : Location :=
  ⟨location.parent, ".keyring-" ++ uuid ++ ".tmp"⟩

/-- The steps of `write_private` that are followed by a removal if they fail. -/
def writeTemp (library : ToolLibrary E R) (location temp : Location) (document : Json)
    (replace : Bool) : ToolProgram Unit :=
  (attempt (.createNew temp 0o600) id).bindOk fun _ =>
    (attempt (.writeDocument temp document) id).bindOk fun _ =>
      (attempt (.writeNewline temp) id).bindOk fun _ =>
        (attempt (.syncAll temp) id).bindOk fun _ =>
          (validatePrivate library temp
            (if fieldIs document "version" keyringVersion then .es256 else .rsa)).bindOk fun _ =>
            (refuseOverwrite location replace
              "target appeared while generating; refusing overwrite").bindOk fun _ =>
              attempt (.rename temp location) id

def writePrivate (library : ToolLibrary E R) (location : Location) (document : Json)
    (replace : Bool) : ToolProgram Unit :=
  .call (.isDir location.parent) fun
    | false => fail "keyring parent directory does not exist"
    | true =>
        (refuseOverwrite location replace
          "target keyring already exists; refusing overwrite").bindOk fun _ =>
          .call .newUuid fun uuid =>
            (writeTemp library location (location.temp uuid) document replace).bind fun
              | .error failure =>
                  .call (.removeFile (location.temp uuid)) fun _ => .done (.error failure)
              | .ok () => .done (.ok ())

inductive Action where
  | generate (kid : String) (validityDays : Nat)
  | validate
  | add (kid : String) (validityDays : Nat)
  | activate (kid : String)
  | retire (kid : String)
  deriving DecidableEq

structure Command where
  algorithm : Algorithm
  action : Action
  deriving DecidableEq

/-- `document["keys"].as_array_mut()`; a value that is neither an object nor null cannot
be indexed. -/
def keysOf : Json → Except Failure (List Json)
  | .object entries =>
      match entries.lookup "keys" with
      | some (.array keys) => .ok keys
      | _ => .error (.error (.message "keys must be an array"))
  | .null => .error (.error (.message "keys must be an array"))
  | _ => .error .panic

/-- `document[key] = value` on an object. -/
def setField (document : Json) (key : String) (value : Json) : Json :=
  match document with
  | .object entries => .object (setEntry key value entries)
  | other => other

/-- The document of a generated key ring. -/
def generatedDocument (algorithm : Algorithm) (kid : String) (key : Json) : Json :=
  .object
    [("version", .string (version algorithm)), ("current_kid", .string kid),
      ("keys", .array [key])]

def generate (library : ToolLibrary E R) (location : Location) (algorithm : Algorithm)
    (kid : String) (validityDays : Nat) : ToolProgram Unit :=
  (refuseOverwrite location false
    "target keyring already exists; refusing overwrite").bindOk fun _ =>
    (newKey library algorithm kid validityDays).bindOk fun key =>
      writePrivate library location (generatedDocument algorithm kid key) false

/-- The edited document of `add`, `activate` and `retire`. -/
def edit (library : ToolLibrary E R) (algorithm : Algorithm) (document : Json)
    (keys : List Json) : Action → ToolProgram Json
  | .add kid validityDays =>
      if keys.any fun key => fieldIs key "kid" kid then
        fail "key ID already exists"
      else
        (newKey library algorithm kid validityDays).bindOk fun key =>
          .done (.ok (setField document "keys" (.array (keys ++ [key]))))
  | .activate kid =>
      if (keys.any fun key => fieldIs key "kid" kid) = false then
        fail "key ID is not present"
      else
        .done (.ok (setField document "current_kid" (.string kid)))
  | .retire kid =>
      if fieldIs document "current_kid" kid then
        fail "cannot retire the current signing key"
      else if (keys.any fun key => fieldIs key "kid" kid) = false then
        fail "key ID is not present"
      else
        .done (.ok (setField document "keys"
          (.array (keys.filter fun key => !fieldIs key "kid" kid))))
  | _ => .done (.error .panic)

def editKeys (library : ToolLibrary E R) (location : Location) (algorithm : Algorithm)
    (action : Action) : ToolProgram Unit :=
  (validatePrivate library location algorithm).bindOk fun _ =>
    .call (.read location) fun
      | none => .done (.error (.error .io))
      | some content =>
          match library.fromSlice content with
          | none => .done (.error (.error .json))
          | some document =>
              match keysOf document with
              | .error failure => .done (.error failure)
              | .ok keys =>
                  (edit library algorithm document keys action).bindOk fun edited =>
                    writePrivate library location edited true

def Action.kid : Action → Option String
  | .generate kid _ => some kid
  | .validate => none
  | .add kid _ => some kid
  | .activate kid => some kid
  | .retire kid => some kid

/-- The command without the final message. -/
def execute (library : ToolLibrary E R) (location : Location) (command : Command) :
    ToolProgram Unit :=
  match command.action with
  | .generate kid validityDays => generate library location command.algorithm kid validityDays
  | .validate => validatePrivate library location command.algorithm
  | action => editKeys library location command.algorithm action

/-- `run`; a failure to print the final message is a panic. -/
def run (library : ToolLibrary E R) (location : Location) (command : Command) :
    ToolProgram Unit :=
  if command.action.kid.all validateKid = false then
    fail "KID must be 1-64 ASCII letters, digits, dot, underscore, or hyphen"
  else
    (execute library location command).bindOk fun _ =>
      .call .print fun printed => .done (if printed then .ok () else .error .panic)

/-! ## The file system -/

/-- The files, the identifiers that were handed out and the last clock reading. -/
structure World where
  nodes : Location → Option Node
  uuids : List String
  clock : DateTime

def World.put (world : World) (location : Location) (node : Option Node) : World :=
  { world with nodes := Function.update world.nodes location node }

/-- The newline is written at the end. -/
def Content.appendNewline : Content → Content
  | .bytes raw => .bytes (raw ++ [10])
  | .document value _ => .document value true

/-- The effect of one operation.  `lossy` says whether `symlink_metadata` may fail on a
path that exists; every other operation may fail at any time.  A write that fails may
leave any bytes.  A rename either replaces its target by its source or does nothing. -/
def perform (lossy : Prop) (umask : Nat) (before : World) :
    (op : Op) → Answer op → World → Prop
  | .symlinkMetadata location, answer, after => after = before ∧
      (answer = (before.nodes location).map Node.metadata ∨ lossy ∧ answer = none)
  | .isDir _, _, after => after = before
  | .read location, answer, after => after = before ∧
      (answer = none ∨ ∃ node, before.nodes location = some node ∧
        (node.fileType = .file → answer = some node.content))
  | .createNew location mode, answer, after =>
      (answer = false ∧ after = before) ∨
        (answer = true ∧ before.nodes location = none ∧
          after = before.put location (some ⟨.file, mode &&& (mode ^^^ umask), .bytes []⟩))
  | .writeDocument location document, answer, after =>
      ∃ node, before.nodes location = some node ∧
        ((answer = true ∧
            after = before.put location (some { node with content := .document document false })) ∨
          (answer = false ∧
            ∃ raw, after = before.put location (some { node with content := .bytes raw })))
  | .writeNewline location, answer, after =>
      (answer = false ∧ after = before) ∨
        ∃ node, before.nodes location = some node ∧ answer = true ∧
          after = before.put location
            (some { node with content := node.content.appendNewline })
  | .syncAll _, _, after => after = before
  | .rename source target, answer, after =>
      (answer = false ∧ after = before) ∨
        ∃ node, before.nodes source = some node ∧ answer = true ∧
          (∀ present, before.nodes target = some present → present.fileType ≠ .directory) ∧
          after = (before.put source none).put target (some node)
  | .removeFile location, answer, after =>
      (answer = false ∧ after = before) ∨ (answer = true ∧ after = before.put location none)
  | .utcNow, answer, after => after = { before with clock := answer }
  | .newUuid, answer, after =>
      answer ∉ before.uuids ∧ after = { before with uuids := answer :: before.uuids }
  | .randomKey algorithm, answer, after =>
      after = before ∧ (algorithm = .es256 → answer ≠ none)
  | .print, _, after => after = before

/-- The processes of one machine.  A process may be killed at any operation, and other
programs may create files. -/
def fileSystem {ι : Type} (lossy : Prop) (umask : Nat) : Machine ι Answer World where
  perform _ := perform lossy umask
  cancel _ before op after := after = before ∨ ∃ answer, perform lossy umask before op answer after
  environment before after := ∃ location node,
    before.nodes location = none ∧ after = before.put location (some node)

end OidcExchange.Keys
