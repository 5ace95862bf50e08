/-
# Base.Threshold -- the first rung of a descending ladder

A ladder is a list whose thresholds strictly descend.  The first rung a value
clears is the one with the greatest threshold it clears, and a ladder with a rung
at or below every value has one for each of them.
-/
import Mathlib

namespace Atrium.Base

set_option autoImplicit false

section Ladder

variable {α β : Type} [LinearOrder β] {f : α → β} {l : List α} {x : β} {a : α}

/-- The first rung whose threshold is at most `x`. -/
def firstCleared (f : α → β) (l : List α) (x : β) : Option α := l.find? fun a => decide (f a ≤ x)

theorem firstCleared_mem (found : firstCleared f l x = some a) : a ∈ l ∧ f a ≤ x :=
  ⟨List.mem_of_find?_eq_some found, by simpa using List.find?_some found⟩

/-- **The first is the greatest.** -/
theorem firstCleared_greatest (descending : l.IsChain fun a b => f b < f a)
    (found : firstCleared f l x = some a) {b : α} (among : b ∈ l) (cleared : f b ≤ x) :
    f b ≤ f a := by
  have : IsTrans α fun a b => f b < f a := ⟨fun _ _ _ first second => second.trans first⟩
  have pairwise := List.isChain_iff_pairwise.mp descending
  clear descending
  induction l with
  | nil => cases among
  | cons c l ih =>
      rw [List.pairwise_cons] at pairwise
      by_cases clears : f c ≤ x
      · have first : c = a := by simpa [firstCleared, clears] using found
        subst first
        rcases List.mem_cons.mp among with rfl | later
        · exact le_refl _
        · exact (pairwise.1 b later).le
      · have skip : firstCleared f l x = some a := by simpa [firstCleared, clears] using found
        rcases List.mem_cons.mp among with rfl | later
        · exact absurd cleared clears
        · exact ih skip later pairwise.2

end Ladder

end Atrium.Base
