import OidcExchange.Data.Separated
import OidcExchange.Data.Text

/-!
# Substrings

What the searches of `Text` find: prefixes, suffixes and substrings as relations
between lists of characters, and the first or last occurrence at which a text is
split.
-/

namespace OidcExchange.Text

variable {value text first rest : String} {separator : Char}

theorem startsWith_iff : startsWith value text = true ↔ text.toList <+: value.toList := by
  rw [startsWith, List.isPrefixOf_iff_prefix]

theorem endsWith_iff : endsWith value text = true ↔ text.toList <:+ value.toList := by
  rw [endsWith, List.isSuffixOf_iff_suffix]

/-! ## The first occurrence -/

theorem splitOnceList_eq_some {pattern whole before after : List Char}
    (found : splitOnceList pattern whole = some (before, after)) :
    whole = before ++ pattern ++ after ∧
      ∀ before' after', whole = before' ++ pattern ++ after' → before <+: before' := by
  induction whole generalizing before with
  | nil =>
      rw [splitOnceList] at found
      split at found
      · rename_i empty
        cases found
        rw [List.isEmpty_iff] at empty
        exact ⟨by simp [empty], fun _ _ _ => List.nil_prefix⟩
      · contradiction
  | cons c whole inductionHypothesis =>
      rw [splitOnceList] at found
      split at found
      · rename_i starts
        cases found
        rw [List.isPrefixOf_iff_prefix] at starts
        exact ⟨(List.prefix_iff_eq_append.mp starts).symm, fun _ _ _ => List.nil_prefix⟩
      · rename_i different
        rw [List.isPrefixOf_iff_prefix] at different
        rw [Option.map_eq_some_iff] at found
        rcases found with ⟨⟨before', after'⟩, found, same⟩
        cases same
        rcases inductionHypothesis found with ⟨parts, least⟩
        refine ⟨by simp [parts], ?_⟩
        intro other otherRest otherParts
        cases other with
        | nil =>
            rw [otherParts] at different
            exact absurd (by simp) different
        | cons c' other =>
            rw [List.cons_append, List.cons_append, List.cons.injEq] at otherParts
            rw [otherParts.1, List.cons_prefix_cons]
            exact ⟨rfl, least other otherRest otherParts.2⟩

theorem isSome_splitOnceList_iff {pattern whole : List Char} :
    (splitOnceList pattern whole).isSome = true ↔ pattern <:+: whole := by
  induction whole with
  | nil =>
      rw [splitOnceList, List.infix_nil]
      cases pattern <;> simp
  | cons c whole inductionHypothesis =>
      rw [splitOnceList, List.infix_cons_iff, ← inductionHypothesis]
      split
      · rename_i starts
        simp [List.isPrefixOf_iff_prefix.mp starts]
      · rename_i different
        rw [List.isPrefixOf_iff_prefix] at different
        simp [different]

theorem contains_iff : contains value text = true ↔ text.toList <:+: value.toList :=
  isSome_splitOnceList_iff

/-- The parts around the first occurrence. -/
theorem splitOnceList_eq_some_iff {pattern whole before after : List Char} :
    splitOnceList pattern whole = some (before, after) ↔
      whole = before ++ pattern ++ after ∧
        ∀ before' after', whole = before' ++ pattern ++ after' → before <+: before' := by
  constructor
  · exact splitOnceList_eq_some
  · rintro ⟨parts, least⟩
    have occurs : (splitOnceList pattern whole).isSome = true :=
      isSome_splitOnceList_iff.mpr ⟨before, after, parts.symm⟩
    rcases Option.isSome_iff_exists.mp occurs with ⟨⟨before', after'⟩, found⟩
    rcases splitOnceList_eq_some found with ⟨parts', least'⟩
    have same : before' = before :=
      (least' before after parts).eq_of_length_le (least before' after' parts').length_le
    rw [parts, same] at parts'
    rw [found, same, List.append_cancel_left parts']

theorem splitOnce_eq_some_iff :
    splitOnce value text = some (first, rest) ↔
      value = first ++ text ++ rest ∧
        ∀ first' rest', value = first' ++ text ++ rest' → first.toList <+: first'.toList := by
  rw [splitOnce, Option.map_eq_some_iff]
  constructor
  · rintro ⟨⟨before, after⟩, found, same⟩
    cases same
    rcases splitOnceList_eq_some_iff.mp found with ⟨parts, least⟩
    constructor
    · rw [← String.toList_inj, parts]
      simp
    · intro first' rest' same
      rw [String.toList_ofList]
      apply least first'.toList rest'.toList
      simp [same]
  · rintro ⟨parts, least⟩
    refine ⟨(first.toList, rest.toList), splitOnceList_eq_some_iff.mpr ⟨?_, ?_⟩, by simp⟩
    · simp [parts]
    · intro before after same
      have least := least (String.ofList before) (String.ofList after)
      rw [String.toList_ofList] at least
      apply least
      rw [← String.toList_inj, same]
      simp

/-! ## Splitting at a character -/

/-- The first part is the one without the separator. -/
theorem splitOnceList_singleton_eq_some_iff {whole before after : List Char} :
    splitOnceList [separator] whole = some (before, after) ↔
      whole = before ++ separator :: after ∧ separator ∉ before := by
  rw [splitOnceList_eq_some_iff, List.append_assoc, List.singleton_append]
  apply and_congr_right
  intro parts
  constructor
  · intro least member
    rcases List.eq_append_cons_of_mem member with ⟨earlier, later, beforeEq, _⟩
    have shorter := (least earlier (later ++ separator :: after) (by simp [parts, beforeEq])).length_le
    rw [beforeEq, List.length_append, List.length_cons] at shorter
    omega
  · intro free before' after' same
    rw [parts, List.append_assoc, List.singleton_append] at same
    have starts : before <+: before' ++ separator :: after' := by
      rw [← same]
      exact List.prefix_append before _
    exact (Separated.isPrefix_append_cons_iff free).mp starts

theorem splitOnce_singleton_eq_some_iff (single : text.toList = [separator]) :
    splitOnce value text = some (first, rest) ↔
      value = first ++ text ++ rest ∧ separator ∉ first.toList := by
  have parts : value = first ++ text ++ rest ↔
      value.toList = first.toList ++ separator :: rest.toList := by
    rw [← String.toList_inj, String.toList_append, String.toList_append, single]
    simp
  rw [splitOnce, Option.map_eq_some_iff, single, parts]
  constructor
  · rintro ⟨⟨before, after⟩, found, same⟩
    cases same
    rw [splitOnceList_singleton_eq_some_iff] at found
    simpa using found
  · intro found
    exact ⟨(first.toList, rest.toList), splitOnceList_singleton_eq_some_iff.mpr found, by simp⟩

/-- `rsplit_once` leaves no separator in the second part. -/
theorem rsplitOnce_eq_some_iff :
    rsplitOnce value separator = some (first, rest) ↔
      value.toList = first.toList ++ separator :: rest.toList ∧ separator ∉ rest.toList := by
  have reversed : ∀ {before after : List Char},
      value.toList.reverse = before ++ separator :: after ↔
        value.toList = after.reverse ++ separator :: before.reverse := by
    intro before after
    rw [List.reverse_eq_iff]
    simp
  rw [rsplitOnce, Option.map_eq_some_iff]
  constructor
  · rintro ⟨⟨before, after⟩, found, same⟩
    cases same
    rw [splitOnceList_singleton_eq_some_iff, reversed] at found
    simpa using found
  · rintro ⟨parts, free⟩
    refine ⟨(rest.toList.reverse, first.toList.reverse), ?_, by simp⟩
    rw [splitOnceList_singleton_eq_some_iff, reversed]
    simpa using ⟨parts, free⟩

end OidcExchange.Text
