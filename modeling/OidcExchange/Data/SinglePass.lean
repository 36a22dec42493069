import Mathlib.Data.List.Basic

/-!
# Checks in a single pass

A loop that checks each entry on its own and against the entries before it
accepts exactly the lists whose entries are all sound and of which no two clash.
If clashing is symmetric then the order of the entries does not matter.
-/

namespace OidcExchange

universe u

variable {α : Type u} {accepts : List α → List α → Prop} {sound : α → Prop}
  {clash : α → α → Prop}

/-- `accepts entries seen` is a loop over `entries` that has already seen `seen`. -/
structure SinglePass (accepts : List α → List α → Prop) (sound : α → Prop)
    (clash : α → α → Prop) : Prop where
  nil : ∀ seen, accepts [] seen
  cons : ∀ entry entries seen, accepts (entry :: entries) seen ↔
    sound entry ∧ (∀ earlier ∈ seen, ¬ clash earlier entry) ∧ accepts entries (entry :: seen)

namespace SinglePass

theorem accepts_iff (pass : SinglePass accepts sound clash) (entries seen : List α) :
    accepts entries seen ↔
      (∀ entry ∈ entries, sound entry) ∧
        (∀ entry ∈ entries, ∀ earlier ∈ seen, ¬ clash earlier entry) ∧
          entries.Pairwise fun earlier entry => ¬ clash earlier entry := by
  induction entries generalizing seen with
  | nil => simp [pass.nil seen]
  | cons entry entries inductionHypothesis =>
      rw [pass.cons, inductionHypothesis, List.pairwise_cons]
      simp only [List.forall_mem_cons]
      constructor
      · rintro ⟨entrySound, apart, sound, later, pairwise⟩
        exact ⟨⟨entrySound, sound⟩, ⟨apart, fun other member => (later other member).2⟩,
          fun other member => (later other member).1, pairwise⟩
      · rintro ⟨⟨entrySound, sound⟩, ⟨apart, others⟩, later, pairwise⟩
        exact ⟨entrySound, apart, sound,
          fun other member => ⟨later other member, others other member⟩, pairwise⟩

/-- A loop that has seen nothing yet. -/
theorem accepts_nil_iff (pass : SinglePass accepts sound clash) (entries : List α) :
    accepts entries [] ↔ (∀ entry ∈ entries, sound entry) ∧
      entries.Pairwise fun earlier entry => ¬ clash earlier entry := by
  rw [pass.accepts_iff]
  simp

theorem accepts_iff_of_perm (pass : SinglePass accepts sound clash)
    (symmetric : ∀ {first second}, clash first second → clash second first)
    {first second : List α} (permutation : first.Perm second) :
    accepts first [] ↔ accepts second [] := by
  have pairwise := permutation.pairwise_iff
    (R := fun earlier entry => ¬ clash earlier entry) fun apart clashing =>
      apart (symmetric clashing)
  rw [pass.accepts_nil_iff, pass.accepts_nil_iff, pairwise]
  constructor
  · rintro ⟨sound, apart⟩
    exact ⟨fun entry member => sound entry (permutation.mem_iff.mpr member), apart⟩
  · rintro ⟨sound, apart⟩
    exact ⟨fun entry member => sound entry (permutation.mem_iff.mp member), apart⟩

/-- Entries may be replaced by others that are as sound and clash with the same. -/
theorem accepts_iff_of_forall₂ (pass : SinglePass accepts sound clash) {similar : α → α → Prop}
    (sameSound : ∀ {first second}, similar first second → (sound first ↔ sound second))
    (sameClash : ∀ {first second earlier later}, similar first second → similar earlier later →
      (clash earlier first ↔ clash later second)) {first second : List α}
    (replaced : List.Forall₂ similar first second) {seen seenToo : List α}
    (replacedSeen : List.Forall₂ similar seen seenToo) :
    accepts first seen ↔ accepts second seenToo := by
  induction replaced generalizing seen seenToo with
  | nil => exact ⟨fun _ => pass.nil seenToo, fun _ => pass.nil seen⟩
  | @cons entry replacement entries replacements similarEntry _ inductionHypothesis =>
      have apart : (∀ earlier ∈ seen, ¬ clash earlier entry) ↔
          ∀ earlier ∈ seenToo, ¬ clash earlier replacement := by
        clear inductionHypothesis
        induction replacedSeen with
        | nil => simp
        | cons similarSeen _ inductionHypothesis =>
            rw [List.forall_mem_cons, List.forall_mem_cons, inductionHypothesis,
              sameClash similarEntry similarSeen]
      rw [pass.cons, pass.cons, sameSound similarEntry, apart,
        inductionHypothesis (List.Forall₂.cons similarEntry replacedSeen)]

end SinglePass

/-- Lists in different orders that differ have two entries or more. -/
theorem eq_or_two_of_perm {first second : List α} (permutation : first.Perm second) :
    first = second ∨ ∃ firstEntry firstNext firstRest secondEntry secondNext secondRest,
      first = firstEntry :: firstNext :: firstRest ∧
        second = secondEntry :: secondNext :: secondRest := by
  cases first with
  | nil => exact Or.inl permutation.nil_eq
  | cons entry rest =>
      cases rest with
      | nil => exact Or.inl (List.singleton_perm.mp permutation)
      | cons next rest =>
          cases second with
          | nil => simp at permutation
          | cons other others =>
              cases others with
              | nil => simp at permutation
              | cons => exact Or.inr ⟨_, _, _, _, _, _, rfl, rfl⟩

/-- At most one of several entries without a clash has a property that makes entries
clash. -/
theorem length_filter_le_one {entries : List α} {belongs : α → Bool}
    (apart : entries.Pairwise fun first second => ¬ clash first second)
    (clashing : ∀ first second, belongs first = true → belongs second = true →
      clash first second) : (entries.filter belongs).length ≤ 1 := by
  have apart := apart.filter belongs
  cases found : entries.filter belongs with
  | nil => simp
  | cons first rest =>
      cases rest with
      | nil => simp
      | cons second rest =>
          have belong : ∀ entry ∈ first :: second :: rest, belongs entry = true := by
            intro entry member
            rw [← found] at member
            exact (List.mem_filter.mp member).2
          rw [found, List.pairwise_cons] at apart
          exact absurd (clashing first second (belong first (by simp)) (belong second (by simp)))
            (apart.1 second List.mem_cons_self)

theorem filter_eq_singleton {entries : List α} {belongs : α → Bool} {entry : α}
    (unique : (entries.filter belongs).length ≤ 1) (member : entry ∈ entries)
    (belong : belongs entry = true) : entries.filter belongs = [entry] := by
  have found : entry ∈ entries.filter belongs := List.mem_filter.mpr ⟨member, belong⟩
  cases filtered : entries.filter belongs with
  | nil =>
      rw [filtered] at found
      contradiction
  | cons first rest =>
      cases rest with
      | nil =>
          rw [filtered, List.mem_singleton] at found
          rw [found]
      | cons second rest =>
          rw [filtered] at unique
          simp at unique

end OidcExchange
