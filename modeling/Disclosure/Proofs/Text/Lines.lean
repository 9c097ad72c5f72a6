import Disclosure.Proofs.Text.Parts

/-!
# Texts that can be taken apart again

What is put together from parts can be read back where the parts show by their
characters how far they go: a numeral ends before the first character that is no
digit, and a line at the line end.
-/

namespace Disclosure.Text

/-! ## Runs of characters -/

section Runs

variable {within : Char → Bool} {run other tail rest : List Char}

/-- A run of characters of one class goes up to the first character of another. -/
theorem takeWhile_run (all : ∀ char ∈ run, within char = true)
    (ends : ∀ char ∈ tail.head?, within char = false) :
    (run ++ tail).takeWhile within = run := by
  rw [List.takeWhile_append_of_pos all]
  cases tail with
  | nil => simp
  | cons char tail => simp [ends char rfl]

theorem append_inj_of_runs (all : ∀ char ∈ run, within char = true)
    (allToo : ∀ char ∈ other, within char = true)
    (ends : ∀ char ∈ tail.head?, within char = false)
    (endsToo : ∀ char ∈ rest.head?, within char = false)
    (same : run ++ tail = other ++ rest) : run = other ∧ tail = rest := by
  have runs := congrArg (List.takeWhile within) same
  rw [takeWhile_run all ends, takeWhile_run allToo endsToo] at runs
  subst runs
  exact ⟨rfl, List.append_cancel_left same⟩

end Runs

/-! ## Numerals -/

theorem toDigits_injective {first second : Nat}
    (same : Nat.toDigits 10 first = Nat.toDigits 10 second) : first = second := by
  have read := congrArg (fun digits => Nat.ofDigitChars 10 digits 0) same
  simpa only [Nat.ofDigitChars_ten_toDigits] using read

theorem isDigit_of_mem_toDigits {number : Nat} :
    ∀ char ∈ Nat.toDigits 10 number, char.isDigit = true :=
  fun _ => Nat.isDigit_of_mem_toDigits (by decide) (by decide)

theorem not_mem_toDigits {mark : Char} (noDigit : mark.isDigit = false)
    (number : Nat) : mark ∉ Nat.toDigits 10 number := by
  intro among
  have digit := isDigit_of_mem_toDigits mark among
  rw [noDigit] at digit
  cases digit

/-- A number can be read off the beginning of a text. -/
theorem number_append_inj {first second : Nat} {tail rest : List Char}
    (ends : ∀ char ∈ tail.head?, char.isDigit = false)
    (endsToo : ∀ char ∈ rest.head?, char.isDigit = false)
    (same : Nat.toDigits 10 first ++ tail = Nat.toDigits 10 second ++ rest) :
    first = second ∧ tail = rest := by
  rcases append_inj_of_runs isDigit_of_mem_toDigits isDigit_of_mem_toDigits ends
    endsToo same with ⟨digits, others⟩
  exact ⟨toDigits_injective digits, others⟩

/-- A number can be read off the end of a text, whatever comes before the mark in
front of it. -/
theorem append_number_inj {first second : Nat} {mark : Char} {left right : List Char}
    (noDigit : mark.isDigit = false)
    (same : left ++ mark :: Nat.toDigits 10 first =
      right ++ mark :: Nat.toDigits 10 second) :
    left = right ∧ first = second := by
  have reversed := congrArg List.reverse same
  simp only [List.reverse_append, List.reverse_cons, List.append_assoc,
    List.singleton_append] at reversed
  have digits (number : Nat) :
      ∀ char ∈ (Nat.toDigits 10 number).reverse, char.isDigit = true :=
    fun char among => isDigit_of_mem_toDigits char (List.mem_reverse.mp among)
  have ends (before : List Char) :
      ∀ char ∈ (mark :: before).head?, char.isDigit = false := by
    intro char found
    cases found
    exact noDigit
  rcases append_inj_of_runs (digits first) (digits second) (ends _) (ends _)
    reversed with ⟨digits, others⟩
  rw [List.reverse_inj] at digits
  rw [List.cons.injEq, List.reverse_inj] at others
  exact ⟨others.2, toDigits_injective digits⟩

/-! ## Lines -/

/-- The text goes on in one line. -/
def OneLine (text : String) : Prop := '\n' ∉ text.toList

instance (text : String) : Decidable (OneLine text) :=
  inferInstanceAs (Decidable ('\n' ∉ text.toList))

theorem oneLine_append {left right : String} :
    OneLine (left ++ right) ↔ OneLine left ∧ OneLine right := by
  simp [OneLine]

section Lines

variable {lines others : List String}

theorem splits_lines (some : lines ≠ []) (each : ∀ line ∈ lines, OneLine line) :
    Splits '\n' ("\n".intercalate lines).toList (lines.map String.toList) where
  some := by simpa using some
  clean := by
    intro part among
    rcases List.mem_map.mp among with ⟨line, member, rfl⟩
    exact each line member
  joined := by
    rw [String.toList_intercalate]
    rfl

/-- Lines can be told from the text that they make up. -/
theorem lines_inj (some : lines ≠ []) (someToo : others ≠ [])
    (each : ∀ line ∈ lines, OneLine line) (eachToo : ∀ line ∈ others, OneLine line)
    (same : "\n".intercalate lines = "\n".intercalate others) : lines = others := by
  have parts := splitChars_eq_iff.mpr (splits_lines some each)
  rw [same, splitChars_eq_iff.mpr (splits_lines someToo eachToo)] at parts
  exact ((List.map_inj_right fun _ _ => String.toList_inj.mp).mp parts).symm

end Lines

end Disclosure.Text
