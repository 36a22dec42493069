import Mathlib.Data.List.Basic
import Mathlib.Data.List.DropRight
import Mathlib.Data.String.Basic
import Mathlib.Tactic.IntervalCases

/-!
# Text operations

The operations on `str` and on bytes that the program uses, on the characters of
a string.  A test that all bytes lie in a class of ASCII bytes is a test that all
characters do, since the bytes of any other character are not ASCII.
-/

namespace OidcExchange.Text

/-- `char::is_whitespace`, the Unicode property `White_Space`. -/
def isWhitespace (c : Char) : Bool :=
  let code := c.toNat
  (0x09 ≤ code && code ≤ 0x0d) || code == 0x20 || code == 0x85 || code == 0xa0 ||
    code == 0x1680 || (0x2000 ≤ code && code ≤ 0x200a) || code == 0x2028 ||
    code == 0x2029 || code == 0x202f || code == 0x205f || code == 0x3000

/-- `u8::is_ascii_digit` -/
def isAsciiDigit (c : Char) : Bool :=
  '0' ≤ c && c ≤ '9'

/-- `u8::is_ascii_graphic` -/
def isAsciiGraphic (c : Char) : Bool :=
  0x21 ≤ c.toNat && c.toNat ≤ 0x7e

/-- `u8::is_ascii_alphanumeric` -/
def isAsciiAlphanumeric (c : Char) : Bool :=
  isAsciiDigit c || ('a' ≤ c && c ≤ 'z') || ('A' ≤ c && c ≤ 'Z')

/-- `byte.is_ascii_digit() || (b'a'..=b'f').contains(&byte)` -/
def isLowerHex (c : Char) : Bool :=
  isAsciiDigit c || ('a' ≤ c && c ≤ 'f')

/-- `value.bytes().all(class)` -/
def all (value : String) (belongs : Char → Bool) : Bool :=
  value.toList.all belongs

/-- `value.bytes().any(class)` -/
def any (value : String) (belongs : Char → Bool) : Bool :=
  value.toList.any belongs

/-- `str::len`, the number of UTF-8 bytes. -/
def len (value : String) : Nat :=
  (value.toList.map Char.utf8Size).sum

/-- `str::is_empty` -/
def isEmpty (value : String) : Bool :=
  value.toList.isEmpty

theorem isEmpty_eq_true_iff {value : String} : isEmpty value = true ↔ value = "" := by
  rw [isEmpty, List.isEmpty_iff, String.toList_eq_nil_iff]

/-- `value.trim().is_empty()` -/
def isBlank (value : String) : Bool :=
  all value isWhitespace

/-- `str::trim` -/
def trim (value : String) : String :=
  String.ofList ((value.toList.dropWhile isWhitespace).rdropWhile isWhitespace)

/-- `str::starts_with` -/
def startsWith (value text : String) : Bool :=
  text.toList.isPrefixOf value.toList

/-- `str::ends_with` -/
def endsWith (value text : String) : Bool :=
  text.toList.isSuffixOf value.toList

/-- `str::strip_prefix` -/
def stripPrefix (value text : String) : Option String :=
  if startsWith value text then
    some (String.ofList (value.toList.drop text.toList.length))
  else
    none

/-- `str::strip_suffix` -/
def stripSuffix (value text : String) : Option String :=
  if endsWith value text then
    some (String.ofList (value.toList.take (value.toList.length - text.toList.length)))
  else
    none

/-- `str::trim_end_matches` for one character -/
def trimEndMatches (value : String) (c : Char) : String :=
  String.ofList (value.toList.rdropWhile fun other => other == c)

/-- The part before the first occurrence of `text` and the part after it. -/
def splitOnceList (text : List Char) : List Char → Option (List Char × List Char)
  | [] => if text.isEmpty then some ([], []) else none
  | c :: rest =>
      if text.isPrefixOf (c :: rest) then
        some ([], (c :: rest).drop text.length)
      else
        (splitOnceList text rest).map fun parts => (c :: parts.1, parts.2)

/-- `str::split_once` -/
def splitOnce (value text : String) : Option (String × String) :=
  (splitOnceList text.toList value.toList).map fun parts =>
    (String.ofList parts.1, String.ofList parts.2)

/-- `str::rsplit_once` at a character. -/
def rsplitOnce (value : String) (separator : Char) : Option (String × String) :=
  (splitOnceList [separator] value.toList.reverse).map fun parts =>
    (String.ofList parts.2.reverse, String.ofList parts.1.reverse)

/-- `str::contains` -/
def contains (value text : String) : Bool :=
  (splitOnceList text.toList value.toList).isSome

/-- `format!("{byte:02x}")` -/
def hexByte (byte : UInt8) : List Char :=
  [Nat.digitChar (byte.toNat / 16), Nat.digitChar (byte.toNat % 16)]

/-- The components of a list between the separators. -/
def splitList (separator : Char) : List Char → List (List Char)
  | [] => [[]]
  | c :: rest =>
      if c = separator then
        [] :: splitList separator rest
      else
        match splitList separator rest with
        | [] => [[c]]
        | component :: components => (c :: component) :: components

/-- `str::split` at a character. -/
def split (value : String) (separator : Char) : List String :=
  (splitList separator value.toList).map String.ofList

/-- `str::to_ascii_lowercase` -/
def toAsciiLowercase (value : String) : String :=
  String.ofList (value.toList.map fun c =>
    if 'A' ≤ c && c ≤ 'Z' then Char.ofNat (c.toNat + 32) else c)

/-! ## Lengths and bytes -/

theorem len_eq_utf8ByteSize (value : String) : len value = value.utf8ByteSize := by
  have size := String.utf8ByteSize_ofList value.toList
  rw [String.ofList_toList] at size
  rw [size, len]
  induction value.toList with
  | nil => rfl
  | cons c rest inductionHypothesis =>
      rw [List.map_cons, List.sum_cons, inductionHypothesis, String.utf8Len_cons, Nat.add_comm]

@[simp]
theorem len_append (first second : String) : len (first ++ second) = len first + len second := by
  simp [len]

/-- `str::as_bytes` -/
def asBytes (value : String) : List UInt8 :=
  value.toUTF8.data.toList

theorem length_asBytes (value : String) : (asBytes value).length = len value := by
  rw [len_eq_utf8ByteSize]
  rfl

theorem asBytes_injective : Function.Injective asBytes := by
  intro first second same
  apply String.toByteArray_inj.mp
  exact ByteArray.ext (Array.toList_inj.mp same)

/-! ## Prefixes -/

theorem startsWith_append (text rest : String) : startsWith (text ++ rest) text = true := by
  simp [startsWith, List.isPrefixOf_iff_prefix]

theorem stripPrefix_eq_some_iff {value text rest : String} :
    stripPrefix value text = some rest ↔ value = text ++ rest := by
  rw [stripPrefix]
  split
  · rename_i starts
    rw [startsWith, List.isPrefixOf_iff_prefix] at starts
    rcases starts with ⟨tail, tailEq⟩
    rw [Option.some.injEq, ← tailEq, List.drop_left, ← String.toList_inj, ← String.toList_inj,
      String.toList_append, String.toList_ofList, ← tailEq, List.append_cancel_left_eq]
  · rename_i different
    constructor
    · intro impossible
      contradiction
    · rintro rfl
      exact absurd (startsWith_append text rest) different

/-- Of two prefixes of a text, one begins with the other. -/
theorem startsWith_total {value first second : String}
    (startsFirst : startsWith value first = true)
    (startsSecond : startsWith value second = true) :
    startsWith first second = true ∨ startsWith second first = true := by
  simp only [startsWith, List.isPrefixOf_iff_prefix] at startsFirst startsSecond ⊢
  exact (List.prefix_or_prefix_of_prefix startsFirst startsSecond).symm

theorem startsWith_eq_false {value first second : String}
    (startsFirst : startsWith value first = true)
    (forward : startsWith first second = false)
    (backward : startsWith second first = false) : startsWith value second = false := by
  cases startsSecond : startsWith value second with
  | false => rfl
  | true =>
      rcases startsWith_total startsFirst startsSecond with starts | starts
      · rw [forward] at starts
        contradiction
      · rw [backward] at starts
        contradiction

/-! ## Components -/

theorem splitList_eq_splitOn (separator : Char) (characters : List Char) :
    splitList separator characters = characters.splitOn separator := by
  induction characters with
  | nil => rw [splitList, List.splitOn_nil]
  | cons c rest inductionHypothesis =>
      rw [splitList, List.splitOn_cons_eq_if_modifyHead, inductionHypothesis]
      simp only [beq_iff_eq]
      split
      · rfl
      · cases components : rest.splitOn separator with
        | nil => exact absurd components (List.splitOn_ne_nil separator rest)
        | cons => rfl

/-- The components of a text are those of its characters. -/
theorem split_eq_iff {value : String} {separator : Char} {components : List String} :
    split value separator = components ↔
      value.toList.splitOn separator = components.map String.toList := by
  have back : ∀ characters : List (List Char),
      (characters.map String.ofList).map String.toList = characters := by
    intro characters
    simp [List.map_map, Function.comp_def]
  rw [split, splitList_eq_splitOn]
  constructor
  · rintro rfl
    rw [back]
  · intro same
    rw [same, List.map_map]
    simp [Function.comp_def]

/-- A text with exactly two components. -/
theorem eq_of_split_eq_pair {value first second : String} {separator : Char}
    (parts : split value separator = [first, second]) :
    value = first ++ String.singleton separator ++ second := by
  have joined : [separator].intercalate (value.toList.splitOn separator) = value.toList :=
    List.intercalate_splitOn separator
  rw [split_eq_iff.mp parts] at joined
  rw [← String.toList_inj, ← joined]
  simp

/-! ## Decimal numerals -/

theorem isAsciiDigit_iff {c : Char} :
    isAsciiDigit c = true ↔ ∃ d, d < 10 ∧ c = Nat.digitChar d := by
  constructor
  · intro digit
    simp only [isAsciiDigit, Bool.and_eq_true, decide_eq_true_eq, Char.le_def,
      UInt32.le_iff_toNat_le] at digit
    have low : 48 ≤ c.toNat := digit.1
    have high : c.toNat ≤ 57 := digit.2
    have same : c = Char.ofNat c.toNat := (Char.ofNat_toNat c).symm
    refine ⟨c.toNat - 48, by omega, ?_⟩
    rw [same]
    generalize c.toNat = code at low high
    interval_cases code <;> decide
  · rintro ⟨d, small, rfl⟩
    interval_cases d <;> decide

theorem startsWith_zero {value : String} :
    startsWith value "0" = (value.toList.head? == some '0') := by
  have zero : "0".toList = ['0'] := rfl
  rw [startsWith, zero]
  cases value.toList with
  | nil => rfl
  | cons first rest =>
      rw [List.head?_cons, List.isPrefixOf_cons_cons, List.isPrefixOf_nil_left, Bool.and_true,
        Bool.eq_iff_iff, beq_iff_eq, beq_iff_eq, Option.some.injEq, eq_comm]

/-- Digits take one byte each. -/
theorem len_of_digits {value : String}
    (digits : ∀ c ∈ value.toList, isAsciiDigit c = true) : len value = value.toList.length := by
  have ones : value.toList.map Char.utf8Size = value.toList.map fun _ => 1 := by
    apply List.map_congr_left
    intro c member
    rcases isAsciiDigit_iff.mp (digits c member) with ⟨d, small, rfl⟩
    interval_cases d <;> decide
  rw [len, ones]
  simp

theorem isAsciiDigit_of_mem_toDigits {n : Nat} {c : Char} (member : c ∈ Nat.toDigits 10 n) :
    isAsciiDigit c = true := by
  have digit : c.isDigit = true :=
    Nat.isDigit_of_mem_toDigits (by decide) (by decide) member
  rw [Char.isDigit_iff_toNat] at digit
  simp only [isAsciiDigit, Bool.and_eq_true, decide_eq_true_eq, Char.le_def,
    UInt32.le_iff_toNat_le]
  exact digit

/-- Decimal numerals of different integers differ. -/
theorem toString_int_injective : Function.Injective (toString : Int → String) := by
  have natural : ∀ {first second : Nat}, first.repr = second.repr → first = second := by
    intro first second same
    rw [← String.toList_inj, Nat.toList_repr, Nat.toList_repr] at same
    rw [← Nat.ofDigitChars_ten_toDigits (n := first), same, Nat.ofDigitChars_ten_toDigits]
  -- the numeral of a negative number starts with its sign, which is not a digit
  have signed : ∀ {first second : Nat}, first.repr ≠ "-" ++ second.repr := by
    intro first second same
    have sign : '-' ∈ Nat.toDigits 10 first := by
      rw [← Nat.toList_repr, same]
      simp
    have digit := isAsciiDigit_of_mem_toDigits sign
    contradiction
  intro first second same
  rw [Int.toString_eq_repr, Int.toString_eq_repr, Int.repr_eq_if, Int.repr_eq_if] at same
  split at same
  · split at same
    · have sameMagnitude := natural same
      omega
    · exact absurd same signed
  · split at same
    · exact absurd same.symm signed
    · have sameMagnitude := natural ((String.append_right_inj _).mp same)
      omega

theorem len_repr (n : Nat) : len n.repr = (Nat.toDigits 10 n).length := by
  rw [← Nat.toList_repr]
  apply len_of_digits
  intro c member
  rw [Nat.toList_repr] at member
  exact isAsciiDigit_of_mem_toDigits member

/-- A 64-bit integer takes at most 20 characters. -/
theorem len_toString_int_le {value : Int} (bound : value.natAbs < 10 ^ 19) :
    len (toString value) ≤ 20 := by
  have magnitude : ∀ n : Nat, n < 10 ^ 19 → len n.repr ≤ 19 := by
    intro n small
    rw [len_repr]
    exact (Nat.length_toDigits_le_iff (by decide) (by decide)).mpr small
  rw [Int.toString_eq_repr, Int.repr_eq_if]
  split
  · have short := magnitude value.toNat (by omega)
    omega
  · have short := magnitude (-value).toNat (by omega)
    have sign : len "-" = 1 := by decide
    rw [len_append]
    omega

/-! ## Hexadecimal digits -/

theorem hexByte_injective : Function.Injective hexByte := by
  have digit : ∀ first < 16, ∀ second < 16,
      Nat.digitChar first = Nat.digitChar second → first = second := by decide
  intro first second same
  rw [hexByte, hexByte, List.cons.injEq, List.cons.injEq] at same
  have firstBound := first.toNat_lt
  have secondBound := second.toNat_lt
  have high := digit _ (by omega) _ (by omega) same.1
  have low := digit _ (by omega) _ (by omega) same.2.1
  apply UInt8.toNat_inj.mp
  omega

theorem length_hexByte (byte : UInt8) : (hexByte byte).length = 2 := rfl

/-- The list neither begins nor ends with a white space. -/
structure Trimmed (text : List Char) : Prop where
  head : ∀ c ∈ text.head?, isWhitespace c = false
  last : ∀ c ∈ text.getLast?, isWhitespace c = false

theorem dropWhile_eq_self {text : List Char}
    (head : ∀ c ∈ text.head?, isWhitespace c = false) : text.dropWhile isWhitespace = text := by
  cases text with
  | nil => rfl
  | cons c rest =>
      apply List.dropWhile_cons_of_neg
      rw [head c rfl]
      decide

/-- A non-empty text is what is left between white space. -/
theorem trim_eq_iff {value text : String} (nonempty : text ≠ "") :
    trim value = text ↔ Trimmed text.toList ∧ ∃ before after,
      value.toList = before ++ (text.toList ++ after) ∧
        (∀ c ∈ before, isWhitespace c = true) ∧ ∀ c ∈ after, isWhitespace c = true := by
  constructor
  · rintro rfl
    have textEq : (trim value).toList =
        (value.toList.dropWhile isWhitespace).rdropWhile isWhitespace := by
      rw [trim, String.toList_ofList]
    have kept : (value.toList.dropWhile isWhitespace).rdropWhile isWhitespace ≠ [] := by
      rw [← textEq]
      simpa using nonempty
    rw [textEq]
    refine ⟨⟨?_, ?_⟩, value.toList.takeWhile isWhitespace,
      (value.toList.dropWhile isWhitespace).rtakeWhile isWhitespace, ?_, ?_, ?_⟩
    · intro c first
      have begins : (value.toList.dropWhile isWhitespace).head? = some c := by
        rw [← List.rdropWhile_append_rtakeWhile (p := isWhitespace)
          (l := value.toList.dropWhile isWhitespace), List.head?_append_of_ne_nil _ kept]
        exact first
      have stops := List.head?_dropWhile_not isWhitespace value.toList
      rwa [begins] at stops
    · intro c last
      have ends := List.rdropWhile_last_not isWhitespace _ kept
      rw [Option.mem_def, List.getLast?_eq_getLast_of_ne_nil kept, Option.some.injEq] at last
      rwa [last, Bool.not_eq_true] at ends
    · rw [List.rdropWhile_append_rtakeWhile, List.takeWhile_append_dropWhile]
    · intro c member
      exact List.mem_takeWhile_imp member
    · intro c member
      exact List.mem_rtakeWhile_imp member
  · rintro ⟨⟨head, last⟩, before, after, valueEq, allBefore, allAfter⟩
    have nonempty : text.toList ≠ [] := by simpa using nonempty
    have start : value.toList.dropWhile isWhitespace = text.toList ++ after := by
      rw [valueEq, List.dropWhile_append_of_pos allBefore]
      apply dropWhile_eq_self
      intro c first
      exact head c (by rwa [List.head?_append_of_ne_nil _ nonempty] at first)
    rw [trim, start, List.rdropWhile, List.reverse_append, List.dropWhile_append_of_pos,
      dropWhile_eq_self, List.reverse_reverse, String.ofList_toList]
    · intro c first
      rw [List.head?_reverse] at first
      exact last c first
    · intro c member
      exact allAfter c (List.mem_reverse.mp member)

end OidcExchange.Text
