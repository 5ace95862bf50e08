/-
# Base.Raises -- the errors a transaction can abort with

`Raises P x` bounds them: whenever `x` aborts, `P` holds of the error.  The bound of a
transaction comes from the bounds of its statements, one rule a statement.
-/
import Atrium.Base.Transaction

namespace Atrium.Base.Tx

set_option autoImplicit false

variable {ε σ α β : Type} {P : ε → Prop}

/-- Every error of `x` is within `P`. -/
def Raises (P : ε → Prop) (x : Tx ε σ α) : Prop := ∀ s e, x s = .error e → P e

namespace Raises

protected theorem pure (a : α) : Raises P (pure a : Tx ε σ α) := by
  intro s e failed
  exact (pure_error.mp failed).elim

protected theorem read (f : σ → α) : Raises P (read f : Tx ε σ α) := by
  intro s e failed
  cases failed

protected theorem write (f : σ → σ) : Raises P (write f : Tx ε σ Unit) := by
  intro s e failed
  exact (write_error.mp failed).elim

protected theorem abort {e : ε} (within : P e) : Raises P (abort e : Tx ε σ α) := by
  intro s e' failed
  exact abort_error.mp failed ▸ within

protected theorem fetch (f : σ → Option α) {e : ε} (within : P e) :
    Raises P (fetch f e : Tx ε σ α) := by
  intro s e' failed
  exact (fetch_error.mp failed).2 ▸ within

protected theorem bind {x : Tx ε σ α} {f : α → Tx ε σ β} (first : Raises P x)
    (next : ∀ a, Raises P (f a)) : Raises P (x >>= f) := by
  intro s e failed
  rcases bind_error.mp failed with failed | ⟨a, t, -, failed⟩
  · exact first s e failed
  · exact next a t e failed

protected theorem ite {c : Prop} [Decidable c] {x y : Tx ε σ α} (yes : Raises P x)
    (no : Raises P y) : Raises P (if c then x else y) := by
  split
  · exact yes
  · exact no

end Raises

end Atrium.Base.Tx
