import OidcExchange.Data.Substrings
import OidcExchange.GitHub.Claims

/-!
# Git references

The checks of `valid_git_ref` on a whole string are a grammar of its components:
Git's own rules for reference names, restricted to visible ASCII and to three
namespaces.
-/

namespace OidcExchange.GitHub

/-- The characters of a reference besides its separators. -/
def RefCharacter (c : Char) : Prop :=
  0x21 ≤ c.toNat ∧ c.toNat ≤ 0x7e ∧ c ∉ "~^:?*[\\".toList

/-- A component of a Git reference. -/
structure RefComponent (component : String) : Prop where
  nonempty : component ≠ ""
  visible : ∀ c ∈ component.toList, RefCharacter c
  leading : ¬".".toList <+: component.toList
  unlocked : ¬".lock".toList <:+ component.toList
  noRange : ¬"..".toList <:+: component.toList
  noReflog : ¬"@\x7b".toList <:+: component.toList

/-- The grammar of Git references in the namespaces of branches, tags and pull
requests. -/
structure GitRef (value : String) : Prop where
  bounded : Text.len value ≤ 2048
  namespaced : ∃ kind ∈ ["heads", "tags", "pull"], ∃ rest,
    rest ≠ [] ∧ Text.split value '/' = "refs" :: kind :: rest
  component : ∀ component ∈ Text.split value '/', RefComponent component
  undotted : ∀ last ∈ (Text.split value '/').getLast?, ¬".".toList <:+ last.toList

theorem refCharacter_iff {c : Char} :
    RefCharacter c ↔
      Text.isAsciiGraphic c = true ∧ isForbiddenInRef c = false ∧ c ≠ '\\' := by
  have listed : "~^:?*[\\".toList = ['~', '^', ':', '?', '*', '[', '\\'] := rfl
  simp [RefCharacter, listed, Text.isAsciiGraphic, isForbiddenInRef, and_assoc]

variable {value : String}

theorem stripped_iff {kind : String} :
    (match Text.stripPrefix value kind with
      | some rest => !Text.isEmpty rest
      | none => false) = true ↔
      ∃ rest, rest ≠ [] ∧ value.toList = kind.toList ++ rest := by
  constructor
  · intro stripped
    split at stripped
    · rename_i rest restEq
      rw [Text.stripPrefix_eq_some_iff] at restEq
      refine ⟨rest.toList, ?_, by simp [restEq]⟩
      simpa [Text.isEmpty] using stripped
    · contradiction
  · rintro ⟨rest, nonempty, parts⟩
    have restEq : Text.stripPrefix value kind = some (String.ofList rest) := by
      rw [Text.stripPrefix_eq_some_iff, ← String.toList_inj, parts]
      simp
    simpa [restEq, Text.isEmpty] using nonempty

/-- The tests of `valid_git_ref` as statements about the characters. -/
theorem validGitRef_iff_characters :
    validGitRef value = true ↔
      Text.len value ≤ 2048 ∧
        (∃ kind ∈ ["heads", "tags", "pull"], ∃ rest,
          rest ≠ [] ∧ value.toList = "refs".toList ++ '/' :: (kind.toList ++ '/' :: rest)) ∧
        (∀ c ∈ value.toList, RefCharacter c) ∧
        ¬['/'] <:+ value.toList ∧ ¬['/', '/'] <:+: value.toList ∧
        ¬".".toList <:+ value.toList ∧ ¬"..".toList <:+: value.toList ∧
        ¬"@\x7b".toList <:+: value.toList ∧
        ∀ component ∈ value.toList.splitOn '/',
          ¬".".toList <+: component ∧ ¬".lock".toList <:+ component := by
  have visible : (∀ c ∈ value.toList, RefCharacter c) ↔
      (∀ c ∈ value.toList, Text.isAsciiGraphic c = true) ∧
        (∀ c ∈ value.toList, isForbiddenInRef c = false) ∧ ¬['\\'] <:+: value.toList := by
    simp only [refCharacter_iff, List.singleton_infix_iff]
    grind
  have namespaced : (∃ kind ∈ ["refs/heads/", "refs/tags/", "refs/pull/"], ∃ rest,
      rest ≠ [] ∧ value.toList = kind.toList ++ rest) ↔
      ∃ kind ∈ ["heads", "tags", "pull"], ∃ rest,
        rest ≠ [] ∧ value.toList = "refs".toList ++ '/' :: (kind.toList ++ '/' :: rest) := by
    simp
  have components : ((Text.split value '/').all fun component =>
      !Text.startsWith component "." && !Text.endsWith component ".lock") = true ↔
      ∀ component ∈ value.toList.splitOn '/',
        ¬".".toList <+: component ∧ ¬".lock".toList <:+ component := by
    simp only [Text.split, Text.splitList_eq_splitOn, List.all_map, List.all_eq_true,
      Function.comp_apply, Bool.and_eq_true, Bool.not_eq_true', ← Bool.not_eq_true,
      Text.startsWith_iff, Text.endsWith_iff, String.toList_ofList]
  simp only [validGitRef, boundedAscii, Text.all, Text.any, Bool.and_eq_true, components,
    Bool.not_eq_true', ← Bool.not_eq_true, Text.endsWith_iff, Text.contains_iff,
    decide_eq_true_eq, List.any_eq_true, List.all_eq_true, visible, ← namespaced, and_assoc]
  constructor
  · rintro ⟨_, bounded, graphic, ⟨kind, member, stripped⟩, slash, dot, range, reflog, slashes,
      backslash, forbidden, each⟩
    exact ⟨bounded, ⟨kind, member, stripped_iff.mp stripped⟩, graphic,
      fun c member bad => forbidden ⟨c, member, bad⟩, backslash, slash, slashes, dot, range,
      reflog, each⟩
  · rintro ⟨bounded, ⟨kind, member, rest, nonempty, parts⟩, graphic, forbidden, backslash, slash,
      slashes, dot, range, reflog, each⟩
    have notEmpty : ¬Text.isEmpty value = true := by
      simp [Text.isEmpty, parts, nonempty]
    have allowed : ¬∃ c, c ∈ value.toList ∧ isForbiddenInRef c = true := by
      rintro ⟨c, member, bad⟩
      exact forbidden c member bad
    exact ⟨notEmpty, bounded, graphic, ⟨kind, member, stripped_iff.mpr ⟨rest, nonempty, parts⟩⟩,
      slash, dot, range, reflog, slashes, backslash, allowed, each⟩

/-- What follows `refs/heads/` and its like, in characters and in components. -/
theorem namespaced_iff {kind whole : List Char} (free : '/' ∉ kind)
    (nonempty : [] ∉ whole.splitOn '/') :
    (∃ rest, rest ≠ [] ∧ whole = "refs".toList ++ '/' :: (kind ++ '/' :: rest)) ↔
      ∃ rest, rest ≠ [] ∧ whole.splitOn '/' = "refs".toList :: kind :: rest := by
  have base : '/' ∉ "refs".toList := by decide
  constructor
  · rintro ⟨rest, _, rfl⟩
    rw [List.splitOn_append_cons_self_of_not_mem base,
      List.splitOn_append_cons_self_of_not_mem free]
    exact ⟨rest.splitOn '/', List.splitOn_ne_nil '/' rest, rfl⟩
  · rintro ⟨rest, notNil, parts⟩
    cases rest with
    | nil => contradiction
    | cons next others =>
        rcases Separated.splitOn_eq_cons_cons_iff.mp parts with ⟨_, afterBase, wholeEq, parts'⟩
        rcases Separated.splitOn_eq_cons_cons_iff.mp parts' with ⟨_, rest, afterEq, parts''⟩
        refine ⟨rest, ?_, by rw [wholeEq, afterEq]⟩
        rintro rfl
        rw [List.splitOn_nil] at parts''
        rw [parts, ← parts''] at nonempty
        simp at nonempty

/-- The grammar on lists of characters. -/
theorem gitRef_iff_components :
    GitRef value ↔
      Text.len value ≤ 2048 ∧
        (∃ kind ∈ ["heads", "tags", "pull"], ∃ rest,
          rest ≠ [] ∧ value.toList.splitOn '/' = "refs".toList :: kind.toList :: rest) ∧
        (∀ component ∈ value.toList.splitOn '/', RefComponent (String.ofList component)) ∧
        ∀ last ∈ (value.toList.splitOn '/').getLast?, ¬".".toList <:+ last := by
  have components : Text.split value '/' = (value.toList.splitOn '/').map String.ofList := by
    rw [Text.split, Text.splitList_eq_splitOn]
  constructor
  · rintro ⟨bounded, ⟨kind, member, rest, nonempty, parts⟩, each, undotted⟩
    rw [Text.split_eq_iff] at parts
    rw [components] at each undotted
    refine ⟨bounded, ⟨kind, member, rest.map String.toList, by simpa using nonempty, parts⟩,
      fun component inside => each _ (List.mem_map_of_mem inside), fun last lastEq => ?_⟩
    have inside : String.ofList last ∈ ((value.toList.splitOn '/').map String.ofList).getLast? := by
      rw [List.getLast?_map]
      exact Option.mem_map_of_mem _ lastEq
    simpa using undotted _ inside
  · rintro ⟨bounded, ⟨kind, member, rest, nonempty, parts⟩, each, undotted⟩
    constructor
    · exact bounded
    · refine ⟨kind, member, rest.map String.ofList, by simpa using nonempty, ?_⟩
      rw [components, parts]
      simp
    · rw [components]
      simpa using each
    · rw [components, List.getLast?_map]
      simpa using undotted

/-- The rules of a component on its characters. -/
theorem refComponent_ofList_iff {component : List Char} :
    RefComponent (String.ofList component) ↔
      component ≠ [] ∧ (∀ c ∈ component, RefCharacter c) ∧ ¬".".toList <+: component ∧
        ¬".lock".toList <:+ component ∧ ¬"..".toList <:+: component ∧
        ¬"@\x7b".toList <:+: component := by
  have empty : String.ofList component = "" ↔ component = [] := by
    rw [← String.toList_inj, String.toList_ofList, String.toList_empty]
  have characters : (String.ofList component).toList = component := String.toList_ofList
  constructor
  · rintro ⟨nonempty, visible, leading, unlocked, noRange, noReflog⟩
    rw [characters] at visible leading unlocked noRange noReflog
    exact ⟨fun none => nonempty (empty.mpr none), visible, leading, unlocked, noRange, noReflog⟩
  · rintro ⟨nonempty, visible, leading, unlocked, noRange, noReflog⟩
    constructor
    · exact fun none => nonempty (empty.mp none)
    all_goals rw [characters]
    · exact visible
    · exact leading
    · exact unlocked
    · exact noRange
    · exact noReflog

/-- `valid_git_ref` accepts the grammar and nothing else. -/
theorem validGitRef_iff : validGitRef value = true ↔ GitRef value := by
  have separates : RefCharacter '/' := by
    rw [refCharacter_iff]
    decide
  have range : "..".toList <:+: value.toList ↔
      ∃ component ∈ value.toList.splitOn '/', "..".toList <:+: component :=
    Separated.isInfix_iff (by decide)
  have reflog : "@\x7b".toList <:+: value.toList ↔
      ∃ component ∈ value.toList.splitOn '/', "@\x7b".toList <:+: component :=
    Separated.isInfix_iff (by decide)
  have dot : ".".toList <:+ value.toList ↔
      ∃ last ∈ (value.toList.splitOn '/').getLast?, ".".toList <:+ last :=
    Separated.isSuffix_iff (by decide)
  have kindFree : ∀ kind ∈ ["heads", "tags", "pull"], '/' ∉ kind.toList := by decide
  rw [validGitRef_iff_characters, gitRef_iff_components, Separated.forall_mem_iff separates, range,
    reflog, dot]
  simp only [refComponent_ofList_iff]
  constructor
  · rintro ⟨bounded, ⟨kind, member, rest, restNonempty, parts⟩, visible, slash, slashes, noDot,
      noRange, noReflog, each⟩
    have nonempty : [] ∉ value.toList.splitOn '/' := by
      rw [Separated.nil_notMem_splitOn_iff]
      refine ⟨?_, ?_, slash, slashes⟩ <;> rw [parts] <;> simp
    refine ⟨bounded, ⟨kind, member, (namespaced_iff (kindFree kind member) nonempty).mp
      ⟨rest, restNonempty, parts⟩⟩, ?_, fun last lastEq ends => noDot ⟨last, lastEq, ends⟩⟩
    intro component inside
    exact ⟨fun none => nonempty (none ▸ inside), visible component inside,
      (each component inside).1, (each component inside).2,
      fun bad => noRange ⟨component, inside, bad⟩, fun bad => noReflog ⟨component, inside, bad⟩⟩
  · rintro ⟨bounded, ⟨kind, member, rest, restNonempty, parts⟩, each, undotted⟩
    have nonempty : [] ∉ value.toList.splitOn '/' :=
      fun inside => (each [] inside).1 rfl
    have separated := Separated.nil_notMem_splitOn_iff.mp nonempty
    refine ⟨bounded, ⟨kind, member, (namespaced_iff (kindFree kind member) nonempty).mpr
      ⟨rest, restNonempty, parts⟩⟩, fun component inside => (each component inside).2.1,
      separated.2.2.1, separated.2.2.2, ?_, ?_, ?_, ?_⟩
    · rintro ⟨last, lastEq, ends⟩
      exact undotted last lastEq ends
    · rintro ⟨component, inside, bad⟩
      exact (each component inside).2.2.2.2.1 bad
    · rintro ⟨component, inside, bad⟩
      exact (each component inside).2.2.2.2.2 bad
    · intro component inside
      exact ⟨(each component inside).2.2.1, (each component inside).2.2.2.1⟩

end OidcExchange.GitHub
