import Mathlib.Data.List.Infix

/-!
# Lists with separators

A list is its components with separators between them.  A word without
separators occurs in the list exactly if it occurs in a component, and the first
separator determines what stands on its two sides.
-/

namespace OidcExchange.Separated

variable {α : Type*} {separator : α} {first rest word whole : List α}

/-! ## Both sides of a separator -/

/-- The first separator determines the parts. -/
theorem append_cons_inj {first' rest' : List α} (free : separator ∉ first)
    (free' : separator ∉ first') :
    first ++ separator :: rest = first' ++ separator :: rest' ↔ first = first' ∧ rest = rest' := by
  induction first generalizing first' with
  | nil =>
      cases first' with
      | nil => simp
      | cons c first' =>
          have different : separator ≠ c := fun same => free' (same ▸ List.mem_cons_self)
          simp [different]
  | cons c first inductionHypothesis =>
      rw [List.mem_cons, not_or] at free
      cases first' with
      | nil => simp [Ne.symm free.1]
      | cons c' first' =>
          rw [List.mem_cons, not_or] at free'
          simp [inductionHypothesis free.2 free'.2, and_assoc]

theorem isPrefix_append_cons_iff (free : separator ∉ word) :
    word <+: first ++ separator :: rest ↔ word <+: first := by
  induction first generalizing word with
  | nil =>
      cases word with
      | nil => simp
      | cons c word =>
          have different : c ≠ separator := fun same => free (same ▸ List.mem_cons_self)
          simp [List.cons_prefix_cons, different]
  | cons c first inductionHypothesis =>
      cases word with
      | nil => simp
      | cons c' word =>
          rw [List.mem_cons, not_or] at free
          simp [List.cons_prefix_cons, inductionHypothesis free.2]

/-- A word without separators stands on one side of a separator. -/
theorem isInfix_append_cons_iff (free : separator ∉ word) :
    word <:+: first ++ separator :: rest ↔ word <:+: first ∨ word <:+: rest := by
  induction first with
  | nil =>
      have starts : word <+: separator :: rest ↔ word = [] := by
        rw [← List.nil_append (separator :: rest), isPrefix_append_cons_iff free, List.prefix_nil]
      rw [List.nil_append, List.infix_cons_iff, starts, List.infix_nil]
  | cons c first inductionHypothesis =>
      have starts : word <+: c :: (first ++ separator :: rest) ↔ word <+: c :: first := by
        rw [← List.cons_append, isPrefix_append_cons_iff free]
      rw [List.cons_append, List.infix_cons_iff, starts, inductionHypothesis, List.infix_cons_iff,
        or_assoc]

/-- A word without separators ends the part after a separator. -/
theorem isSuffix_append_cons_iff (free : separator ∉ word) :
    word <:+ first ++ separator :: rest ↔ word <:+ rest := by
  have proper : ∀ before : List α, word ≠ before ++ separator :: rest := by
    rintro before rfl
    exact free (by simp)
  induction first with
  | nil => simpa [List.suffix_cons_iff] using fun same => absurd same (proper [])
  | cons c first inductionHypothesis =>
      have longer := proper (c :: first)
      rw [List.cons_append] at longer
      rw [List.cons_append, List.suffix_cons_iff, or_iff_right longer]
      exact inductionHypothesis

/-- Two separators in a row stand after the first separator, or the first one is
followed by the other. -/
theorem pair_isInfix_append_cons_iff (free : separator ∉ first) :
    [separator, separator] <:+: first ++ separator :: rest ↔
      [separator] <+: rest ∨ [separator, separator] <:+: rest := by
  induction first with
  | nil => simp [List.infix_cons_iff, List.cons_prefix_cons]
  | cons c first inductionHypothesis =>
      rw [List.mem_cons, not_or] at free
      simp [List.infix_cons_iff, List.cons_prefix_cons, free.1, inductionHypothesis free.2]

/-! ## Components -/

variable [DecidableEq α]

/-- A list is one component, or it has a component before its first separator
and components after it. -/
theorem splitOn_induction {motive : List α → List (List α) → Prop}
    (single : ∀ component, separator ∉ component → motive component [component])
    (cons : ∀ component rest, separator ∉ component → motive rest (rest.splitOn separator) →
      motive (component ++ separator :: rest) (component :: rest.splitOn separator))
    (whole : List α) :
    motive whole (whole.splitOn separator) := by
  by_cases member : separator ∈ whole
  · rcases List.eq_append_cons_of_mem member with ⟨component, rest, wholeEq, free⟩
    have shorter : rest.length < whole.length := by
      rw [wholeEq, List.length_append, List.length_cons]
      omega
    rw [wholeEq, List.splitOn_append_cons_self_of_not_mem free]
    exact cons component rest free (splitOn_induction single cons rest)
  · rw [List.splitOn_eq_singleton member]
    exact single whole member
termination_by whole.length

/-- A list with at least two components is the first one, a separator and the list
of the others. -/
theorem splitOn_eq_cons_cons_iff {next : List α} {others : List (List α)} :
    whole.splitOn separator = first :: next :: others ↔
      separator ∉ first ∧
        ∃ rest, whole = first ++ separator :: rest ∧ rest.splitOn separator = next :: others := by
  apply splitOn_induction (motive := fun whole components =>
    components = first :: next :: others ↔ separator ∉ first ∧
      ∃ rest, whole = first ++ separator :: rest ∧ rest.splitOn separator = next :: others)
  · intro component free
    constructor
    · intro impossible
      simp at impossible
    · rintro ⟨_, rest, rfl, _⟩
      exact absurd (by simp) free
  · intro component rest free _
    rw [List.cons.injEq]
    constructor
    · rintro ⟨rfl, parts⟩
      exact ⟨free, rest, rfl, parts⟩
    · rintro ⟨free', rest', same, parts⟩
      rcases (append_cons_inj free free').mp same with ⟨rfl, rfl⟩
      exact ⟨rfl, parts⟩

/-- A class of elements with the separator holds the list exactly if it holds its
components. -/
theorem forall_mem_iff {belongs : α → Prop} (separates : belongs separator) :
    (∀ c ∈ whole, belongs c) ↔
      ∀ component ∈ whole.splitOn separator, ∀ c ∈ component, belongs c := by
  apply splitOn_induction (motive := fun whole components =>
    (∀ c ∈ whole, belongs c) ↔ ∀ component ∈ components, ∀ c ∈ component, belongs c)
  · simp
  · intro component rest free inductionHypothesis
    simp [or_imp, forall_and, separates, inductionHypothesis]

theorem isInfix_iff (free : separator ∉ word) :
    word <:+: whole ↔ ∃ component ∈ whole.splitOn separator, word <:+: component := by
  apply splitOn_induction (motive := fun whole components =>
    word <:+: whole ↔ ∃ component ∈ components, word <:+: component)
  · simp
  · intro component rest _ inductionHypothesis
    rw [isInfix_append_cons_iff free, inductionHypothesis, List.exists_mem_cons_iff]

/-- A word without separators ends the list exactly if it ends the last
component. -/
theorem isSuffix_iff (free : separator ∉ word) :
    word <:+ whole ↔ ∃ component ∈ (whole.splitOn separator).getLast?, word <:+ component := by
  apply splitOn_induction (motive := fun whole components =>
    word <:+ whole ↔ ∃ component ∈ components.getLast?, word <:+ component)
  · simp
  · intro component rest _ inductionHypothesis
    rw [isSuffix_append_cons_iff free, inductionHypothesis,
      List.getLast?_cons_of_ne_nil (List.splitOn_ne_nil separator rest)]

/-- No component is empty exactly if the list is not, and separators stand neither
at its ends nor next to each other. -/
theorem nil_notMem_splitOn_iff :
    [] ∉ whole.splitOn separator ↔
      whole ≠ [] ∧ ¬[separator] <+: whole ∧ ¬[separator] <:+ whole ∧
        ¬[separator, separator] <:+: whole := by
  apply splitOn_induction (motive := fun whole components =>
    [] ∉ components ↔ whole ≠ [] ∧ ¬[separator] <+: whole ∧ ¬[separator] <:+ whole ∧
      ¬[separator, separator] <:+: whole)
  · intro component free
    have starts : ¬[separator] <+: component := fun starts => free (starts.subset (by simp))
    have ends : ¬[separator] <:+ component := fun ends => free (ends.subset (by simp))
    have inside : ¬[separator, separator] <:+: component :=
      fun inside => free (inside.subset (by simp))
    simp [starts, ends, inside, eq_comm]
  · intro component rest free inductionHypothesis
    have starts : [separator] <+: component ++ separator :: rest ↔ component = [] := by
      cases component with
      | nil => simp
      | cons c component =>
          rw [List.mem_cons, not_or] at free
          simp [List.cons_prefix_cons, free.1]
    have ends : [separator] <:+ component ++ separator :: rest ↔
        rest = [] ∨ [separator] <:+ rest := by
      cases rest using List.reverseRecOn with
      | nil => simp
      | append_singleton rest last =>
          rw [← List.cons_append, ← List.append_assoc, List.suffix_concat_iff,
            List.suffix_concat_iff]
          simp [List.singleton_eq_append_iff]
    rw [List.mem_cons, not_or, inductionHypothesis, pair_isInfix_append_cons_iff free, starts, ends]
    simp [eq_comm]
    tauto

end OidcExchange.Separated
