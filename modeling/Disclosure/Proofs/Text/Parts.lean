import Disclosure.Text.Blank
import Mathlib.Data.List.TakeWhile

/-!
# The parts of a text

A text that is written by hand is cut at separators, and the blanks around its parts
are dropped.  Each of these is a relation between a text and its parts that says how
the text can be put together again; the functions compute the only parts that there
are.
-/

namespace Disclosure.Text

variable {separator : Char} {chars core left right : List Char}

/-! ## Trimming -/

/-- There is no blank at either end. -/
structure Trimmed (chars : List Char) : Prop where
  first : ∀ char ∈ chars.head?, isBlank char = false
  last : ∀ char ∈ chars.getLast?, isBlank char = false

/-- The core is the text without the blanks around it. -/
structure Trims (chars core : List Char) : Prop where
  trimmed : Trimmed core
  around : ∃ left right, chars = left ++ (core ++ right) ∧
    (∀ char ∈ left, isBlank char = true) ∧ ∀ char ∈ right, isBlank char = true

theorem Trimmed.of_all (solid : (chars.all fun char => !isBlank char) = true) :
    Trimmed chars := by
  simp only [List.all_eq_true, Bool.not_eq_true'] at solid
  exact ⟨fun char found => solid char (List.mem_of_head? found),
    fun char found => solid char (List.mem_of_getLast? found)⟩

theorem Trimmed.trims (trimmed : Trimmed chars) : Trims chars chars :=
  ⟨trimmed, [], [], by simp⟩

theorem dropBlanks_append (blank : ∀ char ∈ left, isBlank char = true)
    (rest : List Char) :
    dropBlanks (left ++ rest) = dropBlanks rest :=
  List.dropWhile_append_of_pos blank

theorem dropBlanks_of_first (first : ∀ char ∈ chars.head?, isBlank char = false) :
    dropBlanks chars = chars := by
  cases chars with
  | nil => rfl
  | cons char chars =>
    have notBlank := first char rfl
    exact List.dropWhile_cons_of_neg (by simp [notBlank])

theorem first_dropBlanks (chars : List Char) :
    ∀ char ∈ (dropBlanks chars).head?, isBlank char = false := by
  intro char found
  have first := List.head?_dropWhile_not isBlank chars
  rw [dropBlanks, Option.mem_def] at found
  rw [found] at first
  exact first

/-- The text is some blanks and the rest of it. -/
theorem exists_blanks (chars : List Char) :
    ∃ left, chars = left ++ dropBlanks chars ∧
      ∀ char ∈ left, isBlank char = true :=
  ⟨_, List.takeWhile_append_dropWhile.symm, fun _ => List.mem_takeWhile_imp⟩

theorem trims_trimChars (chars : List Char) : Trims chars (trimChars chars) := by
  rcases exists_blanks chars with ⟨left, begins, blankLeft⟩
  rcases exists_blanks (dropBlanks chars).reverse with ⟨right, ends, blankRight⟩
  have middle : dropBlanks chars = trimChars chars ++ right.reverse := by
    rw [trimChars, ← List.reverse_append, ← ends, List.reverse_reverse]
  refine ⟨⟨?_, ?_⟩, left, right.reverse, middle ▸ begins, blankLeft, ?_⟩
  · intro char found
    refine first_dropBlanks chars char ?_
    rw [middle, List.head?_append, Option.mem_def.mp found]
    rfl
  · rw [trimChars, List.getLast?_reverse]
    exact first_dropBlanks _
  · exact fun char member => blankRight char (List.mem_reverse.mp member)

theorem trimChars_eq_iff : trimChars chars = core ↔ Trims chars core := by
  constructor
  · rintro rfl
    exact trims_trimChars chars
  · rintro ⟨trimmed, left, right, rfl, blankLeft, blankRight⟩
    rw [trimChars, dropBlanks_append blankLeft]
    cases core with
    | nil =>
      rw [List.nil_append, ← List.append_nil right, dropBlanks_append blankRight]
      rfl
    | cons char core =>
      have blankToo : ∀ char ∈ right.reverse, isBlank char = true :=
        fun char member => blankRight char (List.mem_reverse.mp member)
      have begins : dropBlanks (char :: core ++ right) = char :: core ++ right :=
        dropBlanks_of_first trimmed.first
      have ends : dropBlanks (char :: core).reverse = (char :: core).reverse := by
        refine dropBlanks_of_first ?_
        rw [List.head?_reverse]
        exact trimmed.last
      rw [begins, List.reverse_append, dropBlanks_append blankToo, ends,
        List.reverse_reverse]

/-! ## Splitting -/

/-- The parts have no separator in them, and the text is these parts with separators
in between. -/
structure Splits (separator : Char) (chars : List Char)
    (parts : List (List Char)) : Prop where
  some : parts ≠ []
  clean : ∀ part ∈ parts, separator ∉ part
  joined : [separator].intercalate parts = chars

theorem splitChars_eq_splitOn (separator : Char) (chars : List Char) :
    splitChars separator chars = chars.splitOn separator := by
  induction chars with
  | nil => rfl
  | cons char chars ih =>
    rw [splitChars, ih, List.splitOn_cons_eq_if_modifyHead]
    simp only [beq_iff_eq]
    split
    · rfl
    · cases parted : chars.splitOn separator with
      | nil => exact absurd parted (List.splitOn_ne_nil separator chars)
      | cons part parts => rfl

theorem not_mem_of_mem_splitChars {part : List Char}
    (among : part ∈ splitChars separator chars) : separator ∉ part := by
  induction chars generalizing part with
  | nil =>
    rw [splitChars, List.mem_singleton] at among
    rw [among]
    exact List.not_mem_nil
  | cons char chars ih =>
    rw [splitChars] at among
    split at among
    next =>
      rcases List.mem_cons.mp among with rfl | later
      · exact List.not_mem_nil
      · exact ih later
    next other =>
      split at among
      next none => exact absurd none (splitChars_ne_nil separator chars)
      next first parts parted =>
        rw [parted] at ih
        rcases List.mem_cons.mp among with rfl | later
        · have clean := ih (List.mem_cons_self ..)
          simp [Ne.symm other, clean]
        · exact ih (List.mem_cons_of_mem _ later)

theorem splitChars_eq_iff {parts : List (List Char)} :
    splitChars separator chars = parts ↔ Splits separator chars parts := by
  constructor
  · rintro rfl
    refine ⟨splitChars_ne_nil _ _, fun _ => not_mem_of_mem_splitChars, ?_⟩
    rw [splitChars_eq_splitOn, List.intercalate_splitOn]
  · rintro ⟨some, clean, rfl⟩
    rw [splitChars_eq_splitOn, List.splitOn_intercalate separator clean some]

/-! ## Cutting -/

theorem cutChars_eq_some_iff :
    cutChars separator chars = some (left, right) ↔
      chars = left ++ separator :: right ∧ separator ∉ left := by
  induction chars generalizing left with
  | nil => simp [cutChars]
  | cons char chars ih =>
    rw [cutChars]
    by_cases here : char = separator
    · subst here
      rw [if_pos rfl]
      constructor
      · intro cut
        cases cut
        exact ⟨rfl, List.not_mem_nil⟩
      · rintro ⟨text, clean⟩
        cases left with
        | nil =>
          cases text
          rfl
        | cons first left =>
          cases text
          simp at clean
    · rw [if_neg here]
      constructor
      · intro cut
        rcases Option.map_eq_some_iff.mp cut with ⟨⟨before, after⟩, rest, same⟩
        cases same
        rcases ih.mp rest with ⟨rfl, clean⟩
        exact ⟨rfl, by simp [Ne.symm here, clean]⟩
      · rintro ⟨text, clean⟩
        cases left with
        | nil =>
          cases text
          exact absurd rfl here
        | cons first left =>
          cases text
          rw [ih.mpr ⟨rfl, fun among => clean (List.mem_cons_of_mem _ among)⟩]
          rfl

theorem cutChars_eq_none_iff :
    cutChars separator chars = none ↔ separator ∉ chars := by
  induction chars with
  | nil => simp [cutChars]
  | cons char chars ih =>
    rw [cutChars]
    by_cases here : char = separator
    · simp [here]
    · simp [here, Ne.symm here, ih]

end Disclosure.Text
