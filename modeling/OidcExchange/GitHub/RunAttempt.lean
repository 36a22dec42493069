import OidcExchange.GitHub.Claims

/-!
# The attempt of a run

`run_attempt` is a `u32` in the claims and a string in the assertion.  The module
`numeric_string` writes it as its decimal numeral and reads the canonical numerals of
`u32` only, so each attempt has one representation.
-/

namespace OidcExchange.GitHub.NumericString

open OidcExchange.Decimal

/-- `serialize`, for a serializer with this `serialize_str`. -/
def serialize {σ : Type} (serializeStr : String → σ) (value : UInt32) : σ :=
  serializeStr (Nat.repr value.toNat)

/-- The test of `deserialize` before the string is parsed. -/
def isNoncanonical (value : String) : Bool :=
  Text.isEmpty value || decide (Text.len value > 10) || !Text.all value Text.isAsciiDigit ||
    decide (Text.len value > 1) && Text.startsWith value "0"

/-- The text of `deserialize` for a string that fails its test. -/
def notCanonical : String := "numeric claim must use canonical u32 decimal notation"

/-- `deserialize`, for what `String::deserialize` returns.  `custom` makes an error of its
text. -/
def deserialize {ε : Type} (custom : String → ε) (deserialized : Except ε String) :
    Except ε UInt32 :=
  match deserialized with
  | .error failure => .error failure
  | .ok value =>
      if isNoncanonical value then
        .error (custom notCanonical)
      else
        match parse UInt32.size value with
        | .error failure => .error (custom failure.text)
        | .ok attempt => .ok (UInt32.ofNat attempt)

variable {ε : Type} {custom : String → ε} {value : String} {attempt : UInt32}

/-- The test lets the canonical numerals of at most ten digits pass. -/
theorem isNoncanonical_eq_false_iff :
    isNoncanonical value = false ↔ ∃ n, Denotes value.toList n ∧ n < 10 ^ 10 := by
  simp only [isNoncanonical, Bool.or_eq_false_iff, Bool.and_eq_false_iff, Bool.not_eq_false',
    Text.all, List.all_eq_true, decide_eq_false_iff_not, not_lt, and_assoc]
  constructor
  · rintro ⟨nonempty, short, digits, leading⟩
    rw [Text.len_of_digits digits] at short leading
    have denotes : Denotes value.toList (Nat.ofDigitChars 10 value.toList 0) := by
      refine ⟨List.isEmpty_eq_false_iff.mp nonempty, digits, ?_, rfl⟩
      intro zero
      rw [Text.startsWith_zero, zero] at leading
      have single : value.toList.length ≤ 1 := leading.resolve_right (by decide)
      exact eq_singleton_of_head? zero single
    exact ⟨_, denotes, (denotes.length_le_iff (by decide)).mp short⟩
  · rintro ⟨n, denotes, small⟩
    rw [Text.len_of_digits denotes.isDigit]
    refine ⟨List.isEmpty_eq_false_iff.mpr denotes.nonempty,
      (denotes.length_le_iff (by decide)).mpr small, denotes.isDigit, ?_⟩
    rw [Text.startsWith_zero]
    by_cases zero : value.toList.head? = some '0'
    · rw [denotes.leading zero]
      exact Or.inl le_rfl
    · exact Or.inr (beq_eq_false_iff_ne.mpr zero)

/-- What `deserialize` makes of a string: the number of its numeral, an overflow above
`u32::MAX`, or the error of the test. -/
theorem deserialize_cases (custom : String → ε) (value : String) :
    (∃ n, Denotes value.toList n ∧ n < 10 ^ 10 ∧
      deserialize custom (.ok value) =
        if n < UInt32.size then .ok (UInt32.ofNat n)
        else .error (custom IntErrorKind.posOverflow.text)) ∨
    (¬∃ n, Denotes value.toList n ∧ n < 10 ^ 10) ∧
      deserialize custom (.ok value) = .error (custom notCanonical) := by
  rw [← isNoncanonical_eq_false_iff, Bool.not_eq_false, deserialize]
  cases tested : isNoncanonical value with
  | true => exact Or.inr ⟨rfl, rfl⟩
  | false =>
      rcases isNoncanonical_eq_false_iff.mp tested with ⟨n, denotes, small⟩
      refine Or.inl ⟨n, denotes, small, ?_⟩
      rw [parse_of_denotes (by decide) denotes]
      by_cases fits : n < UInt32.size
      · simp [fits]
      · simp [fits]

/-- `deserialize` accepts precisely the canonical numeral of the attempt that it returns. -/
theorem deserialize_eq_ok_iff :
    deserialize custom (.ok value) = .ok attempt ↔ Denotes value.toList attempt.toNat := by
  have range : attempt.toNat < UInt32.size := attempt.toNat_lt
  have short : attempt.toNat < 10 ^ 10 := range.trans (by decide)
  rcases deserialize_cases custom value with ⟨n, denotes, _, result⟩ | ⟨refused, result⟩
  · rw [result]
    constructor
    · intro accepted
      split at accepted
      · rename_i fits
        cases accepted
        rw [UInt32.toNat_ofNat_of_lt' fits]
        exact denotes
      · contradiction
    · intro denotes'
      have same : n = attempt.toNat := denotes.value.symm.trans denotes'.value
      subst same
      rw [if_pos range, UInt32.ofNat_toNat]
  · rw [result]
    constructor
    · nofun
    · intro denotes
      exact absurd ⟨_, denotes, short⟩ refused

example : ["+1", "01", "00000000001", "4294967296"].all fun value =>
    (deserialize id (.ok value)).toOption.isNone := by decide +kernel

theorem deserialize_serialize (custom : String → ε) (attempt : UInt32) :
    deserialize custom (serialize .ok attempt) = .ok attempt := by
  rw [serialize, deserialize_eq_ok_iff, Nat.toList_repr]
  exact denotes_toDigits attempt.toNat

/-- An accepted string is what `serialize` writes. -/
theorem eq_repr_of_deserialize (accepted : deserialize custom (.ok value) = .ok attempt) :
    value = Nat.repr attempt.toNat := by
  rw [← String.toList_inj, Nat.toList_repr]
  exact denotes_iff.mp (deserialize_eq_ok_iff.mp accepted)

/-- The attempt of valid claims is a numeric identifier, as their run ID is. -/
theorem numericIdentifier_of_claimsValid {audience : String} {now : Int} {claims : GitHubClaims}
    (accepted : deserialize custom (.ok value) = .ok attempt)
    (read : claims.runAttempt = attempt.toNat) (valid : claimsValid audience now claims = true) :
    numericIdentifier value = true := by
  have nonzero : claims.runAttempt ≠ 0 := by
    intro zero
    unfold claimsValid at valid
    split at valid
    · contradiction
    · simp [zero] at valid
  rw [numericIdentifier_iff]
  have positive : 0 < attempt.toNat := Nat.pos_of_ne_zero (read ▸ nonzero)
  have small : attempt.toNat < 10 ^ 20 := attempt.toNat_lt.trans (by decide)
  exact ⟨attempt.toNat, positive, small, eq_repr_of_deserialize accepted⟩

/-- **Reading an attempt is the exact inverse of writing it.** -/
theorem exact_inverse (custom : String → ε) :
    (∀ attempt, deserialize custom (serialize .ok attempt) = .ok attempt) ∧
    (∀ value attempt, deserialize custom (.ok value) = .ok attempt ↔
      Denotes value.toList attempt.toNat) ∧
    (∀ value, (∃ attempt, deserialize custom (.ok value) = .ok attempt) ↔
      ∃ n < 2 ^ 32, Denotes value.toList n) ∧
    (∀ value attempt, deserialize custom (.ok value) = .ok attempt →
      serialize (.ok : String → Except ε String) attempt = .ok value) ∧
    ∀ first second attempt, deserialize custom (.ok first) = .ok attempt →
      deserialize custom (.ok second) = .ok attempt → first = second := by
  refine ⟨deserialize_serialize custom, fun _ _ => deserialize_eq_ok_iff, ?_, ?_, ?_⟩
  · intro value
    constructor
    · rintro ⟨attempt, accepted⟩
      exact ⟨attempt.toNat, attempt.toNat_lt, deserialize_eq_ok_iff.mp accepted⟩
    · rintro ⟨n, fits, denotes⟩
      refine ⟨UInt32.ofNat n, deserialize_eq_ok_iff.mpr ?_⟩
      rw [UInt32.toNat_ofNat_of_lt' fits]
      exact denotes
  · intro value attempt accepted
    rw [serialize, ← eq_repr_of_deserialize accepted]
  · intro first second attempt firstAccepted secondAccepted
    rw [eq_repr_of_deserialize firstAccepted, eq_repr_of_deserialize secondAccepted]

/-- The largest attempt is read back from its numeral. -/
theorem exact_inverse_sample :
    deserialize id (.ok "4294967295") = .ok 4294967295 ∧
      serialize (.ok : String → Except String String) 4294967295 = .ok "4294967295" := by
  have exact := exact_inverse (id : String → String)
  have digits : ∀ c ∈ "4294967295".toList, Text.isAsciiDigit c = true :=
    List.all_eq_true.mp (by decide)
  have accepted : deserialize id (.ok "4294967295") = .ok 4294967295 :=
    (exact.2.1 "4294967295" 4294967295).mpr ⟨by decide, digits, by decide, rfl⟩
  exact ⟨accepted, exact.2.2.2.1 _ _ accepted⟩

end OidcExchange.GitHub.NumericString
