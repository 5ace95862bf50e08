/-
# Base.WaitsFor -- locks, and who waits for whom

Parties hold locks and want others.  One waits for another that holds what it wants.
Where every lock that is waited for comes after all that the waiting party holds, the
waits form no cycle, however many parties there are.
-/
import Mathlib.Logic.Relation
import Mathlib.Order.Basic

namespace Atrium.Base

set_option autoImplicit false

section WaitsFor

variable {τ ℓ β : Type}

/-- No party is its own successor. -/
def Acyclic (r : τ → τ → Prop) : Prop := ∀ t, ¬ Relation.TransGen r t t

theorem not_acyclic_of_mutual {r : τ → τ → Prop} {a b : τ} (one : r a b) (other : r b a) :
    ¬ Acyclic r :=
  fun acyclic => acyclic a (.tail (.single one) other)

variable (holds wants : τ → ℓ → Prop)

def WaitsFor (t t' : τ) : Prop := t ≠ t' ∧ ∃ l, wants t l ∧ holds t' l

variable {holds wants}

/-- **Locks taken in order** are waited for without a cycle. -/
theorem acyclic_of_ordered [Preorder β] (rank : ℓ → β)
    (ordered : ∀ t t' l l', t ≠ t' → wants t l → holds t' l → holds t l' → rank l' < rank l) :
    Acyclic (WaitsFor holds wants) := by
  -- Along the waits, what is held at the end comes no earlier than what is wanted first.
  have along : ∀ {t t'}, Relation.TransGen (WaitsFor holds wants) t t' →
      ∃ u l l', t ≠ u ∧ wants t l ∧ holds u l ∧ holds t' l' ∧ rank l ≤ rank l' := by
    intro t t' waits
    induction waits with
    | single waits =>
        obtain ⟨differ, l, wanted, held⟩ := waits
        exact ⟨_, l, l, differ, wanted, held, held, le_refl _⟩
    | tail _ waits ih =>
        obtain ⟨u, l, l', differ, wanted, taken, held, below⟩ := ih
        obtain ⟨differ', l'', wanted', held'⟩ := waits
        have next := ordered _ _ l'' l' differ' wanted' held' held
        exact ⟨u, l, l'', differ, wanted, taken, held', le_trans below (le_of_lt next)⟩
  intro t cycle
  obtain ⟨u, l, l', differ, wanted, taken, held, below⟩ := along cycle
  exact absurd (ordered t u l l' differ wanted taken held) (not_lt_of_ge below)

end WaitsFor

end Atrium.Base
