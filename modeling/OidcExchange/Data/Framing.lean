import Mathlib.Data.List.Basic

/-!
# Self-delimiting codes

A code is self-delimiting on some values if whatever follows the code of such a
value can be told apart from it.  A concatenation of such codes then determines
the values.  Codes of a fixed width are self-delimiting, and so are values behind
a header of a fixed width that states their length.
-/

namespace OidcExchange

universe u v

variable {α : Type u} {β : Type v} {code : α → List β} {admissible : α → Prop}

/-- The code of an admissible value can be split off from what follows it. -/
structure SelfDelimiting (code : α → List β) (admissible : α → Prop) : Prop where
  nonempty : ∀ value, code value ≠ []
  separates : ∀ {first second firstRest secondRest}, admissible first → admissible second →
    code first ++ firstRest = code second ++ secondRest → first = second ∧ firstRest = secondRest

/-- Concatenated codes determine the values and their number. -/
theorem SelfDelimiting.flatMap_inj (delimiting : SelfDelimiting code admissible)
    {first second : List α} (firstAdmissible : ∀ value ∈ first, admissible value)
    (secondAdmissible : ∀ value ∈ second, admissible value)
    (same : first.flatMap code = second.flatMap code) : first = second := by
  induction first generalizing second with
  | nil =>
      cases second with
      | nil => rfl
      | cons value rest =>
          have empty : code value = [] := by
            rw [List.flatMap_nil, List.flatMap_cons] at same
            exact (List.append_eq_nil_iff.mp same.symm).1
          exact absurd empty (delimiting.nonempty value)
  | cons value rest inductionHypothesis =>
      cases second with
      | nil =>
          have empty : code value = [] := by
            rw [List.flatMap_nil, List.flatMap_cons] at same
            exact (List.append_eq_nil_iff.mp same).1
          exact absurd empty (delimiting.nonempty value)
      | cons otherValue otherRest =>
          rw [List.forall_mem_cons] at firstAdmissible secondAdmissible
          rw [List.flatMap_cons, List.flatMap_cons] at same
          rcases delimiting.separates firstAdmissible.1 secondAdmissible.1 same with
            ⟨sameValue, sameRest⟩
          rw [sameValue, inductionHypothesis firstAdmissible.2 secondAdmissible.2 sameRest]

/-- An injective code of a fixed positive width. -/
theorem SelfDelimiting.of_width {width : Nat} (positive : 0 < width)
    (length : ∀ value, (code value).length = width) (injective : Function.Injective code) :
    SelfDelimiting code fun _ => True where
  nonempty value := by
    intro empty
    have none := length value
    rw [empty, List.length_nil] at none
    omega
  separates := by
    intro first second firstRest secondRest _ _ same
    rcases List.append_inj same ((length first).trans (length second).symm) with
      ⟨sameCode, sameRest⟩
    exact ⟨injective sameCode, sameRest⟩

/-- Headers of one positive width that tell lengths below the limit apart. -/
structure LengthHeader (α : Type u) where
  encode : Nat → List α
  width : Nat
  limit : Nat
  positive : 0 < width
  length_encode : ∀ length, (encode length).length = width
  encode_inj : ∀ {first second}, first < limit → second < limit →
    encode first = encode second → first = second

/-- A value behind the header of its length. -/
def LengthHeader.frame (header : LengthHeader α) (value : List α) : List α :=
  header.encode value.length ++ value

theorem LengthHeader.frame_selfDelimiting (header : LengthHeader α) :
    SelfDelimiting header.frame fun value => value.length < header.limit where
  nonempty value := by
    intro empty
    have none := header.length_encode value.length
    rw [(List.append_eq_nil_iff.mp empty).1, List.length_nil] at none
    have positive := header.positive
    omega
  separates := by
    intro first second firstRest secondRest firstShort secondShort same
    rw [frame, frame, List.append_assoc, List.append_assoc] at same
    have sameWidth : (header.encode first.length).length =
        (header.encode second.length).length := by
      rw [header.length_encode, header.length_encode]
    rcases List.append_inj same sameWidth with ⟨sameHeader, sameBody⟩
    exact List.append_inj sameBody (header.encode_inj firstShort secondShort sameHeader)

end OidcExchange
