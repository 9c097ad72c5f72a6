import Disclosure.Random.Draw

/-!
# What is drawn from a list

Whatever the stream yields, a chosen item is one of the list, and a shuffled list
holds the same items as before.
-/

namespace Disclosure.RandomStream

theorem swapIfInBounds_perm {α : Type} (items : Array α) (left right : Nat) :
    (items.swapIfInBounds left right).Perm items := by
  rw [Array.swapIfInBounds_def]
  split
  · split
    · exact Array.swap_perm ..
    · exact Array.Perm.refl items
  · exact Array.Perm.refl items

theorem shuffleFrom_perm {α : Type} (last : Nat) (items : Array α)
    (stream : RandomStream) :
    (shuffleFrom last items stream).1.Perm items := by
  induction last generalizing items stream with
  | zero => exact Array.Perm.refl items
  | succ last ih =>
    rw [shuffleFrom]
    apply (ih _ _).trans
    exact swapIfInBounds_perm items (last + 1) _

theorem shuffle_perm {α : Type} (stream : RandomStream) (items : List α) :
    (stream.shuffle items).1.Perm items := by
  have permuted := shuffleFrom_perm (items.length - 1) items.toArray stream
  simpa [shuffle] using permuted.toList

theorem mem_of_choose {α : Type} {stream : RandomStream} {items : List α}
    {item : α}
    (chosen : (stream.choose items).1 = some item) :
    item ∈ items := by
  cases items with
  | nil => cases chosen
  | cons first rest => exact List.mem_of_getElem? chosen

end Disclosure.RandomStream
