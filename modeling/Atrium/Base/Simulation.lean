/-
# Base.Simulation -- two transactions that agree on what matters

`Sim R Q x y`: started in stores related by `R`, both abort, or both return with
results related by `Q` and stores related by `R`.  With `R` "equal but for some
columns" it says that the columns do not influence the rest.

One rule a statement.  A proof that two transactions agree follows their text.
-/
import Atrium.Base.Transaction

namespace Atrium.Base

set_option autoImplicit false

variable {ε σ τ α β γ δ : Type}

def Sim (R : σ → τ → Prop) (Q : α → β → Prop) (x : Tx ε σ α) (y : Tx ε τ β) : Prop :=
  ∀ s t, R s t → (∃ e e', x s = .error e ∧ y t = .error e') ∨
    ∃ a b s' t', x s = .ok (a, s') ∧ y t = .ok (b, t') ∧ Q a b ∧ R s' t'

namespace Sim

variable {R : σ → τ → Prop} {Q : α → β → Prop} {S : γ → δ → Prop}

theorem ret {a : α} {b : β} (same : Q a b) :
    Sim R Q (pure a : Tx ε σ α) (pure b : Tx ε τ β) := fun s t related =>
  .inr ⟨a, b, s, t, rfl, rfl, same, related⟩

theorem abort (e e' : ε) : Sim R Q (Tx.abort e) (Tx.abort e') := fun _ _ _ =>
  .inl ⟨e, e', rfl, rfl⟩

theorem read {f : σ → α} {g : τ → β} (same : ∀ s t, R s t → Q (f s) (g t)) :
    Sim R Q (Tx.read f : Tx ε σ α) (Tx.read g) := fun s t related =>
  .inr ⟨f s, g t, s, t, rfl, rfl, same s t related, related⟩

theorem write {Q : Unit → Unit → Prop} {f : σ → σ} {g : τ → τ} (holds : Q () ())
    (kept : ∀ s t, R s t → R (f s) (g t)) :
    Sim R Q (Tx.write f : Tx ε σ Unit) (Tx.write g) := fun s t related =>
  .inr ⟨(), (), f s, g t, rfl, rfl, holds, kept s t related⟩

theorem fetch {f : σ → Option α} {g : τ → Option β} {e e' : ε}
    (same : ∀ s t, R s t → Option.Rel Q (f s) (g t)) : Sim R Q (Tx.fetch f e) (Tx.fetch g e') := by
  intro s t related
  have both := same s t related
  cases left : f s with
  | none =>
      rw [left] at both
      cases right : g t with
      | none => exact .inl ⟨e, e', by simp [Tx.fetch, left], by simp [Tx.fetch, right]⟩
      | some b =>
          rw [right] at both
          cases both
  | some a =>
      rw [left] at both
      cases right : g t with
      | none =>
          rw [right] at both
          cases both
      | some b =>
          rw [right] at both
          cases both with
          | some same =>
              exact .inr ⟨a, b, s, t, by simp [Tx.fetch, left], by simp [Tx.fetch, right], same,
                related⟩

theorem fetchEq {f : σ → Option α} {g : τ → Option α} {e e' : ε}
    (same : ∀ s t, R s t → f s = g t) : Sim R Eq (Tx.fetch f e) (Tx.fetch g e') := by
  refine fetch fun s t related => ?_
  rw [same s t related]
  cases g t with
  | none => exact .none
  | some a => exact .some rfl

theorem bind {x : Tx ε σ α} {y : Tx ε τ β} {f : α → Tx ε σ γ} {g : β → Tx ε τ δ}
    (first : Sim R Q x y) (rest : ∀ a b, Q a b → Sim R S (f a) (g b)) :
    Sim R S (x >>= f) (y >>= g) := by
  intro s t related
  rcases first s t related with ⟨e, e', left, right⟩ | ⟨a, b, s', t', left, right, same, after⟩
  · exact .inl ⟨e, e', by rw [Tx.bind_run, left], by rw [Tx.bind_run, right]⟩
  · rw [Tx.bind_run, Tx.bind_run, left, right]
    exact rest a b same s' t' after

theorem ite {c c' : Prop} [Decidable c] [Decidable c'] {x x' : Tx ε σ α} {y y' : Tx ε τ β}
    (same : c ↔ c') (yes : Sim R Q x y) (no : Sim R Q x' y') :
    Sim R Q (if c then x else x') (if c' then y else y') := by
  by_cases holds : c
  · rw [if_pos holds, if_pos (same.mp holds)]
    exact yes
  · rw [if_neg holds, if_neg fun h => holds (same.mpr h)]
    exact no

theorem rethrow {as as' : ε → ε} {x : Tx ε σ α} {y : Tx ε τ β} (both : Sim R Q x y) :
    Sim R Q (Tx.rethrow as x) (Tx.rethrow as' y) := by
  intro s t related
  rcases both s t related with ⟨e, e', left, right⟩ | ⟨a, b, s', t', left, right, rest⟩
  · exact .inl ⟨as e, as' e', by simp [Tx.rethrow, left], by simp [Tx.rethrow, right]⟩
  · exact .inr ⟨a, b, s', t', by simp [Tx.rethrow, left], by simp [Tx.rethrow, right], rest⟩

/-- Both return, with related results, or neither does. -/
theorem of_returns {x : Tx ε σ α} {y : Tx ε τ β}
    (forth : ∀ s t a s', R s t → x s = .ok (a, s') → ∃ b t', y t = .ok (b, t') ∧ Q a b ∧ R s' t')
    (back : ∀ s t b t', R s t → y t = .ok (b, t') → ∃ a s', x s = .ok (a, s')) : Sim R Q x y := by
  intro s t related
  cases left : x s with
  | ok r =>
      obtain ⟨b, t', right, same, after⟩ := forth s t r.1 r.2 related left
      exact .inr ⟨r.1, b, r.2, t', rfl, right, same, after⟩
  | error e =>
      cases right : y t with
      | error e' => exact .inl ⟨e, e', rfl, rfl⟩
      | ok r =>
          obtain ⟨a, s', returned⟩ := back s t r.1 r.2 related right
          rw [left] at returned
          cases returned

/-- **Commit**: related stores before, related stores after. -/
theorem commit {x : Tx ε σ α} {y : Tx ε τ β} (both : Sim R Q x y) {s : σ} {t : τ}
    (related : R s t) : R (x.commit s) (y.commit t) := by
  rcases both s t related with ⟨e, e', left, right⟩ | ⟨a, b, s', t', left, right, -, after⟩
  · rw [Tx.commit_of_error left, Tx.commit_of_error right]
    exact related
  · rw [Tx.commit_of_ok left, Tx.commit_of_ok right]
    exact after

end Sim

end Atrium.Base
