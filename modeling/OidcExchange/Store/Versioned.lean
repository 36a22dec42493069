import Mathlib.Data.List.Basic
import Mathlib.Data.List.Nodup
import Mathlib.Logic.Function.Basic

/-!
# Versioned object stores

A store keeps at most one object under each name and gives every write a version
that is used only once.  The complete list of writes is part of the store, newest
first, so that a reader who has seen a version can say which object it denotes
and whether the name has been written since.

The two facts that matter about the list are fields of the structure: what is
current under a name is its newest write, and no version occurs twice.
-/

namespace OidcExchange.Store

universe u v w

/-- One write. -/
structure Record (N : Type u) (V : Type v) (O : Type w) where
  name : N
  version : V
  object : O

variable {N : Type u} {V : Type v} {O : Type w} [DecidableEq N]

/-- The newest write under a name in a newest-first list. -/
def newest (records : List (Record N V O)) (name : N) : Option (Record N V O) :=
  records.find? fun record => record.name = name

/-- A store with the history of its writes. -/
structure Versioned (N : Type u) (V : Type v) (O : Type w) [DecidableEq N] where
  current : N → Option (V × O)
  written : List (Record N V O)
  newest_of_current : ∀ {name version object}, current name = some (version, object) →
    newest written name = some ⟨name, version, object⟩
  version_nodup : (written.map Record.version).Nodup

namespace Versioned

/-- The store without any object or history. -/
def empty : Versioned N V O where
  current _ := none
  written := []
  newest_of_current := by
    intro name version object present
    contradiction
  version_nodup := List.nodup_nil

/-- The version has not been used by any write. -/
def Fresh (store : Versioned N V O) (version : V) : Prop :=
  ∀ record ∈ store.written, record.version ≠ version

/-- The write is still what the store holds under its name. -/
def IsCurrent (store : Versioned N V O) (record : Record N V O) : Prop :=
  store.current record.name = some (record.version, record.object)

/-- Write an object under a fresh version, replacing what the name held. -/
def write (store : Versioned N V O) (name : N) (version : V) (object : O)
    (fresh : store.Fresh version) : Versioned N V O where
  current := Function.update store.current name (some (version, object))
  written := ⟨name, version, object⟩ :: store.written
  newest_of_current := by
    intro other otherVersion otherObject present
    by_cases same : other = name
    · subst same
      simp only [Function.update_self, Option.some.injEq, Prod.mk.injEq] at present
      rcases present with ⟨rfl, rfl⟩
      simp [newest]
    · rw [Function.update_of_ne same] at present
      have earlier := store.newest_of_current present
      simpa [newest, Ne.symm same] using earlier
  version_nodup := by
    rw [List.map_cons, List.nodup_cons]
    refine ⟨?_, store.version_nodup⟩
    intro used
    rcases List.mem_map.mp used with ⟨record, member, versionEq⟩
    exact fresh record member versionEq

/-- Remove what a name holds. -/
def remove (store : Versioned N V O) (name : N) : Versioned N V O where
  current := Function.update store.current name none
  written := store.written
  newest_of_current := by
    intro other version object present
    by_cases same : other = name
    · subst same
      simp at present
    · rw [Function.update_of_ne same] at present
      exact store.newest_of_current present
  version_nodup := store.version_nodup

variable {store : Versioned N V O} {record other : Record N V O} {name : N}
  {version : V} {object : O}

@[simp]
theorem written_write (fresh : store.Fresh version) :
    (store.write name version object fresh).written =
      ⟨name, version, object⟩ :: store.written :=
  rfl

theorem fresh_of_notMem (unused : version ∉ store.written.map Record.version) :
    store.Fresh version := by
  intro record member same
  exact unused (List.mem_map.mpr ⟨record, member, same⟩)

/-- A write empties no name. -/
theorem current_write_ne_none {other : N} (fresh : store.Fresh version)
    (present : store.current other ≠ none) :
    (store.write name version object fresh).current other ≠ none := by
  by_cases same : other = name
  · simp [write, same]
  · simpa [write, Function.update_of_ne same] using present

/-- A removal empties only its own name. -/
theorem current_remove_of_ne {other : N} (different : other ≠ name) :
    (store.remove name).current other = store.current other :=
  Function.update_of_ne different _ _

theorem IsCurrent.mem (isCurrent : store.IsCurrent record) : record ∈ store.written :=
  List.mem_of_find?_eq_some (store.newest_of_current isCurrent)

/-- A name holds one write. -/
theorem IsCurrent.eq_of_current (isCurrent : store.IsCurrent record)
    (current : store.current name = some (version, object)) (nameEq : record.name = name) :
    record = ⟨name, version, object⟩ := by
  subst nameEq
  rw [IsCurrent, current, Option.some.injEq, Prod.mk.injEq] at isCurrent
  rcases record with ⟨recordName, recordVersion, recordObject⟩
  rcases isCurrent with ⟨rfl, rfl⟩
  rfl

/-- A version denotes one write. -/
theorem eq_of_version_eq (left : record ∈ store.written) (right : other ∈ store.written)
    (versionEq : record.version = other.version) : record = other :=
  List.inj_on_of_nodup_map store.version_nodup left right versionEq

theorem isCurrent_write_iff (fresh : store.Fresh version) :
    (store.write name version object fresh).IsCurrent record ↔
      record = ⟨name, version, object⟩ ∨ record.name ≠ name ∧ store.IsCurrent record := by
  rcases record with ⟨recordName, recordVersion, recordObject⟩
  by_cases same : recordName = name
  · subst same
    simp [IsCurrent, write, eq_comm]
  · simp [IsCurrent, write, same]

theorem isCurrent_remove_iff :
    (store.remove name).IsCurrent record ↔ record.name ≠ name ∧ store.IsCurrent record := by
  by_cases same : record.name = name
  · simp [IsCurrent, remove, same]
  · simp [IsCurrent, remove, same]

/-- The name of a current write has not been written since any moment at which
that write was already there. -/
theorem IsCurrent.untouched {later earlier : List (Record N V O)}
    (isCurrent : store.IsCurrent record) (split : store.written = later ++ earlier)
    (present : record ∈ earlier) : ∀ newer ∈ later, newer.name ≠ record.name := by
  intro newer member sameName
  have found : newest store.written record.name = some record :=
    store.newest_of_current isCurrent
  have inLater : record ∈ later := by
    cases firstLater : newest later record.name with
    | none =>
        rw [newest, List.find?_eq_none] at firstLater
        exact absurd sameName (by simpa using firstLater newer member)
    | some first =>
        rw [newest, split, List.find?_append, ← newest, firstLater] at found
        have firstEq : first = record := Option.some.inj found
        subst firstEq
        exact List.mem_of_find?_eq_some firstLater
  have nodup := store.version_nodup
  rw [split, List.map_append, List.nodup_append] at nodup
  exact nodup.2.2 _ (List.mem_map_of_mem inLater) _ (List.mem_map_of_mem present) rfl

/-- `newer` was written after `older`. -/
def WrittenAfter (store : Versioned N V O) (newer older : Record N V O) : Prop :=
  ∃ later earlier, store.written = later ++ older :: earlier ∧ newer ∈ later

/-- The order of two writes is settled for good. -/
theorem WrittenAfter.of_suffix {later : Versioned N V O} {newer older : Record N V O}
    (after : store.WrittenAfter newer older) (grown : store.written <:+ later.written) :
    later.WrittenAfter newer older := by
  rcases after with ⟨between, earlier, split, member⟩
  rcases grown with ⟨added, writtenEq⟩
  refine ⟨added ++ between, earlier, ?_, List.mem_append_right _ member⟩
  rw [← writtenEq, split, List.append_assoc]

/-- Two different writes happened one after the other. -/
theorem writtenAfter_total (left : record ∈ store.written) (right : other ∈ store.written)
    (different : record ≠ other) :
    store.WrittenAfter record other ∨ store.WrittenAfter other record := by
  rcases List.append_of_mem left with ⟨later, earlier, split⟩
  rw [split, List.mem_append, List.mem_cons] at right
  rcases right with inLater | same | inEarlier
  · exact Or.inr ⟨later, earlier, split, inLater⟩
  · exact absurd same.symm different
  · rcases List.append_of_mem inEarlier with ⟨between, oldest, splitEarlier⟩
    refine Or.inl ⟨later ++ record :: between, oldest, ?_, by simp⟩
    rw [split, splitEarlier]
    simp

theorem writtenAfter_write_iff (fresh : store.Fresh version) {newer older : Record N V O} :
    (store.write name version object fresh).WrittenAfter newer older ↔
      newer = ⟨name, version, object⟩ ∧ older ∈ store.written ∨
        store.WrittenAfter newer older := by
  constructor
  · rintro ⟨later, earlier, split, member⟩
    cases later with
    | nil => contradiction
    | cons first later =>
        rw [written_write, List.cons_append, List.cons.injEq] at split
        rcases split with ⟨rfl, split⟩
        rcases List.mem_cons.mp member with rfl | member
        · exact Or.inl ⟨rfl, by simp [split]⟩
        · exact Or.inr ⟨later, earlier, split, member⟩
  · rintro (⟨rfl, member⟩ | ⟨later, earlier, split, member⟩)
    · rcases List.append_of_mem member with ⟨later, earlier, split⟩
      exact ⟨⟨name, version, object⟩ :: later, earlier, by simp [split], List.mem_cons_self⟩
    · exact ⟨⟨name, version, object⟩ :: later, earlier, by simp [split],
        List.mem_cons_of_mem _ member⟩

end Versioned

end OidcExchange.Store
