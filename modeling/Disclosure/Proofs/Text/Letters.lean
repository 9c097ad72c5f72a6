import Disclosure.Text.Blank
import Mathlib.Data.List.Forall2

/-!
# Letters up to case

Codes may be typed with large or small letters.  When two characters are the same
letter is said by their places in the alphabet; texts are compared letter by letter,
and the comparison that makes all letters small decides just that.
-/

namespace Disclosure.Text

/-- The large and the small form of one letter between A and Z. -/
structure LargeOf (large small : Char) : Prop where
  first : 'A' ≤ large
  last : large ≤ 'Z'
  shifted : small.toNat = large.toNat + 32

/-- The same character, or the same letter in the other case. -/
def SameLetter (left right : Char) : Prop :=
  left = right ∨ LargeOf left right ∨ LargeOf right left

/-- Texts that have the same letters and differ in their case at most. -/
def SameLetters (left right : String) : Prop :=
  List.Forall₂ SameLetter left.toList right.toList

theorem largeOf_iff {large small : Char} :
    LargeOf large small ↔
      (65 ≤ large.toNat ∧ large.toNat ≤ 90) ∧ small.toNat = large.toNat + 32 :=
  ⟨fun largeOf => ⟨⟨largeOf.first, largeOf.last⟩, largeOf.shifted⟩,
    fun ⟨⟨first, last⟩, shifted⟩ => ⟨first, last, shifted⟩⟩

theorem toNat_toLower (char : Char) :
    char.toLower.toNat =
      if 65 ≤ char.toNat ∧ char.toNat ≤ 90 then char.toNat + 32
      else char.toNat := by
  split
  next large =>
    have moved : char.toLower = _ := dif_pos large
    rw [moved]
    have bounded : char.val.toNat ≤ 90 := large.2
    have room : char.val.toNat + 32 < 2 ^ 32 := by omega
    change (char.val + 32).toNat = char.val.toNat + 32
    rw [UInt32.toNat_add]
    exact Nat.mod_eq_of_lt room
  next other =>
    have kept : char.toLower = char := dif_neg other
    rw [kept]

theorem toLower_eq_toLower_iff {left right : Char} :
    left.toLower = right.toLower ↔ SameLetter left right := by
  rw [SameLetter, largeOf_iff, largeOf_iff, ← Char.toNat_inj, ← Char.toNat_inj,
    toNat_toLower, toNat_toLower]
  split <;> split <;> omega

theorem sameFolded_iff {left right : String} :
    sameFolded left right = true ↔ SameLetters left right := by
  rw [sameFolded, beq_iff_eq, ← List.forall₂_eq_eq_eq, List.forall₂_map_left_iff,
    List.forall₂_map_right_iff]
  simp only [toLower_eq_toLower_iff]
  rfl

end Disclosure.Text
