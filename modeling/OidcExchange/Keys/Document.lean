import Mathlib.Data.List.Perm.Basic
import OidcExchange.Oidc.Claims

/-!
# Keyring documents

A keyring file is read in two ways.  The loader deserializes its text into a typed
file and refuses unknown, repeated and missing fields.  The keyring tool edits the
`serde_json::Value` of the same text, in which of repeated entries the last one stays.
On a text that the loader accepts the two readings agree.

A text is given by its tree, whose objects list their entries as they are written.
-/

namespace OidcExchange.Keys

open OidcExchange.Oidc

/-- `Map::insert`.  Nothing reads the order of the entries. -/
def setEntry (key : String) (value : Json) : List (String × Json) → List (String × Json)
  | [] => [(key, value)]
  | entry :: entries =>
      if entry.1 = key then (key, value) :: entries else entry :: setEntry key value entries

mutual

/-- The `Value` of a text. -/
def toValue : Json → Json
  | .null => .null
  | .bool value => .bool value
  | .integer value => .integer value
  | .float => .float
  | .string value => .string value
  | .array values => .array (toValues values)
  | .object entries => .object (toEntries entries [])

def toValues : List Json → List Json
  | [] => []
  | value :: values => toValue value :: toValues values

/-- The entries that are collected from an object, in front of them the earlier ones. -/
def toEntries : List (String × Json) → List (String × Json) → List (String × Json)
  | [], collected => collected
  | (key, value) :: entries, collected =>
      toEntries entries (setEntry key (toValue value) collected)

end

/-- `value[key] == text`, where a missing entry is null. -/
def fieldIs (value : Json) (key text : String) : Bool :=
  match value with
  | .object entries =>
      match entries.lookup key with
      | some (.string found) => found == text
      | _ => false
  | _ => false

/-- The fields of a struct, in the order of their declaration.  An object has each of
them once and nothing else; an array lists them. -/
def structFields (names : List String) : Json → Option (List Json)
  | .object entries =>
      if (entries.map Prod.fst).Perm names then
        some (names.map fun name => (entries.lookup name).getD .null)
      else
        none
  | .array values => if values.length = names.length then some values else none
  | _ => none

/-- `KeySpec` and `RsaKeySpec`, whose second field is the private key as a text. -/
structure KeySpec where
  kid : String
  material : String
  notBefore : DateTime
  notAfter : DateTime
  deriving DecidableEq

/-- `KeyRingFile` and `RsaKeyRingFile` -/
structure KeyRingFile where
  version : String
  currentKid : String
  keys : List KeySpec
  deriving DecidableEq

section Deserialize

variable (parseTime : String → Option DateTime) (materialField : String)

def KeySpec.deserialize (tree : Json) : Option KeySpec :=
  match structFields ["kid", materialField, "not_before", "not_after"] tree with
  | some [.string kid, .string material, .string notBefore, .string notAfter] =>
      match parseTime notBefore, parseTime notAfter with
      | some notBefore, some notAfter => some ⟨kid, material, notBefore, notAfter⟩
      | _, _ => none
  | _ => none

def deserializeKeys : List Json → Option (List KeySpec)
  | [] => some []
  | tree :: trees =>
      match KeySpec.deserialize parseTime materialField tree, deserializeKeys trees with
      | some spec, some specs => some (spec :: specs)
      | _, _ => none

def KeyRingFile.deserialize (tree : Json) : Option KeyRingFile :=
  match structFields ["version", "current_kid", "keys"] tree with
  | some [.string version, .string currentKid, .array keys] =>
      match deserializeKeys parseTime materialField keys with
      | some keys => some ⟨version, currentKid, keys⟩
      | none => none
  | _ => none

end Deserialize

/-! ## Entries of an object -/

section Entries

variable {key other : String} {value previous : Json} {entries collected : List (String × Json)}

theorem lookup_setEntry :
    (setEntry key value entries).lookup other =
      if other = key then some value else entries.lookup other := by
  induction entries with
  | nil =>
      by_cases same : other = key
      · simp [setEntry, same]
      · simp [setEntry, List.lookup_cons, same, beq_eq_false_iff_ne.mpr same]
  | cons entry entries inductionHypothesis =>
      rcases entry with ⟨name, current⟩
      by_cases found : name = key
      · subst found
        by_cases same : other = name
        · simp [setEntry, same]
        · simp [setEntry, List.lookup_cons, same, beq_eq_false_iff_ne.mpr same]
      · rw [setEntry, if_neg found]
        by_cases same : other = name
        · subst same
          simp [found]
        · simp [List.lookup_cons, beq_eq_false_iff_ne.mpr same, inductionHypothesis]

theorem setEntry_of_notMem (absent : key ∉ entries.map Prod.fst) :
    setEntry key value entries = entries ++ [(key, value)] := by
  induction entries with
  | nil => rfl
  | cons entry entries inductionHypothesis =>
      rw [List.map_cons, List.mem_cons, not_or] at absent
      rw [setEntry, if_neg (Ne.symm absent.1), inductionHypothesis absent.2, List.cons_append]

/-- Of two writes of the same entry the second one counts. -/
theorem setEntry_setEntry :
    setEntry key value (setEntry key previous entries) = setEntry key value entries := by
  induction entries with
  | nil => simp [setEntry]
  | cons entry entries inductionHypothesis =>
      by_cases found : entry.1 = key
      · simp [setEntry, found]
      · simp [setEntry, found, inductionHypothesis]

/-- Writing what is there changes nothing. -/
theorem setEntry_of_lookup (present : entries.lookup key = some value) :
    setEntry key value entries = entries := by
  induction entries with
  | nil => contradiction
  | cons entry entries inductionHypothesis =>
      rcases entry with ⟨name, current⟩
      by_cases found : name = key
      · subst found
        rw [List.lookup_cons_self, Option.some.injEq] at present
        rw [setEntry, if_pos rfl, present]
      · rw [List.lookup_cons, beq_eq_false_iff_ne.mpr (Ne.symm found)] at present
        rw [setEntry, if_neg found, inductionHypothesis present]

theorem lookup_of_mem (distinct : (entries.map Prod.fst).Nodup) (member : (key, value) ∈ entries) :
    entries.lookup key = some value := by
  induction entries with
  | nil => contradiction
  | cons entry entries inductionHypothesis =>
      rw [List.map_cons, List.nodup_cons] at distinct
      rcases List.mem_cons.mp member with rfl | later
      · exact List.lookup_cons_self
      · have different : key ≠ entry.1 := by
          intro same
          apply distinct.1
          exact List.mem_map.mpr ⟨(key, value), later, same⟩
        rw [List.lookup_cons, beq_eq_false_iff_ne.mpr different]
        exact inductionHypothesis distinct.2 later

/-- Entries with different keys are collected as they are. -/
theorem toEntries_eq_append (distinct : ((collected ++ entries).map Prod.fst).Nodup)
    (values : ∀ entry ∈ entries, toValue entry.2 = entry.2) :
    toEntries entries collected = collected ++ entries := by
  induction entries generalizing collected with
  | nil => rw [toEntries, List.append_nil]
  | cons entry entries inductionHypothesis =>
      rcases entry with ⟨name, current⟩
      have absent : name ∉ collected.map Prod.fst := by
        rw [List.map_append, List.nodup_append] at distinct
        intro member
        exact distinct.2.2 name member name List.mem_cons_self rfl
      rw [List.append_cons] at distinct ⊢
      rw [toEntries, values _ List.mem_cons_self, setEntry_of_notMem absent]
      exact inductionHypothesis distinct fun entry member =>
        values entry (List.mem_cons_of_mem _ member)

end Entries

theorem toValues_eq_self {values : List Json} (same : ∀ value ∈ values, toValue value = value) :
    toValues values = values := by
  induction values with
  | nil => rfl
  | cons value values inductionHypothesis =>
      rw [toValues, same value List.mem_cons_self,
        inductionHypothesis fun value member => same value (List.mem_cons_of_mem _ member)]

/-- A struct whose fields are their own values is its own value. -/
theorem toValue_of_structFields {names : List String} (distinct : names.Nodup) {tree : Json}
    {values : List Json} (accepted : structFields names tree = some values)
    (same : ∀ value ∈ values, toValue value = value) : toValue tree = tree := by
  cases tree with
  | object entries =>
      rw [structFields] at accepted
      split at accepted
      · rename_i complete
        cases accepted
        have distinctKeys : (entries.map Prod.fst).Nodup := complete.nodup_iff.mpr distinct
        have sameEntries : ∀ entry ∈ entries, toValue entry.2 = entry.2 := by
          rintro ⟨name, value⟩ member
          apply same
          have named : name ∈ names := complete.mem_iff.mp (List.mem_map_of_mem member)
          rw [List.mem_map]
          exact ⟨name, named, by rw [lookup_of_mem distinctKeys member, Option.getD_some]⟩
        rw [toValue, @toEntries_eq_append entries [] distinctKeys sameEntries, List.nil_append]
      · contradiction
  | array elements =>
      rw [structFields] at accepted
      split at accepted
      · cases accepted
        rw [toValue, toValues_eq_self same]
      · contradiction
  | _ => contradiction

/-! ## Accepted documents -/

section Accepted

variable {parseTime : String → Option DateTime} {materialField : String}

/-- The fields of an accepted key are strings. -/
theorem KeySpec.structFields_of_deserialize {tree : Json} {spec : KeySpec}
    (accepted : KeySpec.deserialize parseTime materialField tree = some spec) :
    ∃ notBefore notAfter,
      structFields ["kid", materialField, "not_before", "not_after"] tree =
        some [.string spec.kid, .string spec.material, .string notBefore, .string notAfter] := by
  unfold KeySpec.deserialize at accepted
  split at accepted
  · rename_i kid material notBefore notAfter fields
    split at accepted
    · cases accepted
      exact ⟨notBefore, notAfter, fields⟩
    · contradiction
  · contradiction

/-- The key that the tool finds by its ID is the key with that ID. -/
theorem KeySpec.kid_of_fieldIs {tree : Json} {spec : KeySpec} {kid : String}
    (accepted : KeySpec.deserialize parseTime materialField tree = some spec)
    (found : fieldIs tree "kid" kid = true) : spec.kid = kid := by
  rcases KeySpec.structFields_of_deserialize accepted with ⟨notBefore, notAfter, fields⟩
  cases tree with
  | object entries =>
      rw [structFields] at fields
      split at fields
      · rw [Option.some.injEq, List.map_cons, List.cons.injEq] at fields
        rw [fieldIs] at found
        split at found
        · rename_i text present
          rw [present, Option.getD_some, Json.string.injEq] at fields
          rw [← fields.1]
          exact beq_iff_eq.mp found
        · contradiction
      · contradiction
  | _ => contradiction

/-- A name of a key field is not one of the others. -/
def PlainField (materialField : String) : Prop :=
  ["kid", materialField, "not_before", "not_after"].Nodup

theorem KeySpec.toValue_of_deserialize (plain : PlainField materialField) {tree : Json}
    {spec : KeySpec} (accepted : KeySpec.deserialize parseTime materialField tree = some spec) :
    toValue tree = tree := by
  rcases KeySpec.structFields_of_deserialize accepted with ⟨notBefore, notAfter, fields⟩
  apply toValue_of_structFields plain fields
  intro value member
  simp only [List.mem_cons, List.not_mem_nil, or_false] at member
  rcases member with rfl | rfl | rfl | rfl <;> rfl

theorem deserializeKeys_cons_eq_some_iff {tree : Json} {trees : List Json} {specs : List KeySpec} :
    deserializeKeys parseTime materialField (tree :: trees) = some specs ↔
      ∃ spec rest, KeySpec.deserialize parseTime materialField tree = some spec ∧
        deserializeKeys parseTime materialField trees = some rest ∧ specs = spec :: rest := by
  rw [deserializeKeys]
  split
  · rename_i spec rest first others
    simp [first, others, eq_comm]
  · rename_i failed
    constructor
    · intro impossible
      contradiction
    · rintro ⟨spec, rest, first, others, _⟩
      exact absurd others (failed spec rest first)

theorem deserializeKeys_append_eq_some_iff {first second : List Json} {specs : List KeySpec} :
    deserializeKeys parseTime materialField (first ++ second) = some specs ↔
      ∃ front back, deserializeKeys parseTime materialField first = some front ∧
        deserializeKeys parseTime materialField second = some back ∧ specs = front ++ back := by
  induction first generalizing specs with
  | nil => simp [deserializeKeys, eq_comm]
  | cons tree trees inductionHypothesis =>
      rw [List.cons_append, deserializeKeys_cons_eq_some_iff]
      simp only [deserializeKeys_cons_eq_some_iff, inductionHypothesis]
      constructor
      · rintro ⟨spec, rest, head, ⟨front, back, tail, others, rfl⟩, rfl⟩
        exact ⟨spec :: front, back, ⟨spec, front, head, tail, rfl⟩, others, rfl⟩
      · rintro ⟨_, back, ⟨spec, front, head, tail, rfl⟩, others, rfl⟩
        exact ⟨spec, front ++ back, head, ⟨front, back, tail, others, rfl⟩, rfl⟩

theorem toValue_of_deserializeKeys (plain : PlainField materialField) {trees : List Json}
    {specs : List KeySpec}
    (accepted : deserializeKeys parseTime materialField trees = some specs) :
    ∀ tree ∈ trees, toValue tree = tree := by
  induction trees generalizing specs with
  | nil =>
      intro tree member
      contradiction
  | cons first trees inductionHypothesis =>
      rcases deserializeKeys_cons_eq_some_iff.mp accepted with ⟨spec, rest, head, tail, rfl⟩
      rw [List.forall_mem_cons]
      exact ⟨KeySpec.toValue_of_deserialize plain head, inductionHypothesis tail⟩

theorem KeyRingFile.structFields_of_deserialize {tree : Json} {file : KeyRingFile}
    (accepted : KeyRingFile.deserialize parseTime materialField tree = some file) :
    ∃ keys, structFields ["version", "current_kid", "keys"] tree =
        some [.string file.version, .string file.currentKid, .array keys] ∧
      deserializeKeys parseTime materialField keys = some file.keys := by
  unfold KeyRingFile.deserialize at accepted
  split at accepted
  · rename_i version currentKid keys fields
    split at accepted
    · rename_i specs listed
      cases accepted
      exact ⟨keys, fields, listed⟩
    · contradiction
  · contradiction

/-- The tool edits what the loader has read. -/
theorem KeyRingFile.toValue_of_deserialize (plain : PlainField materialField) {tree : Json}
    {file : KeyRingFile}
    (accepted : KeyRingFile.deserialize parseTime materialField tree = some file) :
    toValue tree = tree := by
  rcases KeyRingFile.structFields_of_deserialize accepted with ⟨keys, fields, listed⟩
  apply toValue_of_structFields (by decide) fields
  intro value member
  simp only [List.mem_cons, List.not_mem_nil, or_false] at member
  rcases member with rfl | rfl | rfl
  · rfl
  · rfl
  · rw [toValue, toValues_eq_self (toValue_of_deserializeKeys plain listed)]

/-- What the loader reads of an object. -/
theorem KeyRingFile.deserialize_object_eq_some_iff {entries : List (String × Json)}
    {file : KeyRingFile} :
    KeyRingFile.deserialize parseTime materialField (.object entries) = some file ↔
      (entries.map Prod.fst).Perm ["version", "current_kid", "keys"] ∧
      entries.lookup "version" = some (.string file.version) ∧
      entries.lookup "current_kid" = some (.string file.currentKid) ∧
      ∃ keys, entries.lookup "keys" = some (.array keys) ∧
        deserializeKeys parseTime materialField keys = some file.keys := by
  constructor
  · intro accepted
    rcases KeyRingFile.structFields_of_deserialize accepted with ⟨keys, fields, listed⟩
    rw [structFields] at fields
    split at fields
    · rename_i complete
      simp only [List.map_cons, List.map_nil, Option.some.injEq, List.cons.injEq, and_true] at fields
      rcases fields with ⟨version, currentKid, keysEq⟩
      have read : ∀ {name : String} {value : Json}, (entries.lookup name).getD .null = value →
          value ≠ .null → entries.lookup name = some value := by
        intro name value found notNull
        cases present : entries.lookup name with
        | none =>
            rw [present, Option.getD_none] at found
            exact absurd found.symm notNull
        | some current =>
            rw [present, Option.getD_some] at found
            rw [found]
      exact ⟨complete, read version nofun, read currentKid nofun, keys, read keysEq nofun, listed⟩
    · contradiction
  · rintro ⟨complete, version, currentKid, keys, keysEq, listed⟩
    simp [KeyRingFile.deserialize, structFields, complete, version, currentKid, keysEq, listed]

end Accepted

end OidcExchange.Keys
