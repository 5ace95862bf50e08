/-
# Base.Queue -- a queue that is served in rounds

A round elects the first `batch` items that wait and tries each of them in turn; every
other step of the system may come between, other workers' tries included.  Where no step
adds an item in front of the old ones and a try takes an old item out, a round takes out
the first `batch` of the old ones, so `n` rounds clear `n * batch` of them
(`Serves.cleared`).
-/
import Atrium.Base.Run

namespace Atrium.Base

set_option autoImplicit false

section Queue

variable {σ α κ : Type} (step : α → σ → Option σ) (waiting : σ → List κ) (tries : α → Option κ)
  (batch : Nat)

/-- The items a round tries. -/
def elected (s : σ) : List κ := (waiting s).take batch

/-- A run in which the worker tries the items it elected at its start, in order. -/
def Round (C : α → σ → Prop) (s s' : σ) : Prop :=
  ∃ as, run step as s = some s' ∧ Along step C as s ∧ as.filterMap tries = elected waiting batch s

/-- Rounds, each from where the one before it ended. -/
def Rounds (C : α → σ → Prop) : Nat → σ → σ → Prop
  | 0, s, s' => s' = s
  | n + 1, s, s' => ∃ t, Round step waiting tries batch C s t ∧ Rounds C n t s'

variable {step waiting tries batch}

/-- The old items of a queue, in the states that matter, and how steps leave them. -/
structure Serves (step : α → σ → Option σ) (waiting : σ → List κ) (tries : α → Option κ)
    (C : α → σ → Prop) (I : σ → Prop) (old : σ → List κ) : Prop where
  kept : ∀ a s s', step a s = some s' → C a s → I s → I s'
  nodup : ∀ s, (old s).Nodup
  first : ∀ s, old s <+: waiting s
  fewer : ∀ a s s', step a s = some s' → C a s → I s → old s' ⊆ old s
  finishes : ∀ a s s' k, step a s = some s' → C a s → I s → tries a = some k → k ∉ old s'

namespace Serves

variable {C : α → σ → Prop} {I : σ → Prop} {old : σ → List κ}

/-- A run keeps the old items out that it has tried. -/
theorem run_tried (serves : Serves step waiting tries C I old) :
    ∀ {as : List α} {s s' : σ}, run step as s = some s' → Along step C as s → I s →
      I s' ∧ old s' ⊆ old s ∧ ∀ k ∈ as.filterMap tries, k ∉ old s'
  | [], s, s', ran, _, inv => by
      cases ran
      exact ⟨inv, List.Subset.refl _, by simp⟩
  | a :: as, s, s', ran, along, inv => by
      obtain ⟨t, stepped, rest⟩ := Option.bind_eq_some_iff.mp ran
      obtain ⟨inv', fewer, tried⟩ := run_tried serves rest (along.2 t stepped)
        (serves.kept a s t stepped along.1 inv)
      refine ⟨inv', List.Subset.trans fewer (serves.fewer a s t stepped along.1 inv), fun k among => ?_⟩
      rw [List.filterMap_cons] at among
      cases own : tries a with
      | none =>
          rw [own] at among
          exact tried k among
      | some k' =>
          rw [own] at among
          rcases List.mem_cons.mp among with rfl | among
          · exact fun waits => serves.finishes a s t k stepped along.1 inv own (fewer waits)
          · exact tried k among

/-- A round takes out the first of the old items. -/
theorem round (serves : Serves step waiting tries C I old) {s s' : σ} (inv : I s)
    (ran : Round step waiting tries batch C s s') :
    I s' ∧ (old s').length ≤ (old s).length - batch := by
  obtain ⟨as, ran, along, tried⟩ := ran
  obtain ⟨inv', fewer, gone⟩ := serves.run_tried ran along inv
  refine ⟨inv', ?_⟩
  have rest : old s' ⊆ (old s).drop batch := by
    intro k waits
    have was := fewer waits
    rw [← List.take_append_drop batch (old s), List.mem_append] at was
    refine was.resolve_left fun front => gone k ?_ waits
    rw [tried]
    exact ((serves.first s).take batch).subset front
  have short := ((serves.nodup s').subperm rest).length_le
  rwa [List.length_drop] at short

/-- **Rounds clear the queue.** -/
theorem cleared (serves : Serves step waiting tries C I old) {n : Nat} {s s' : σ} (inv : I s)
    (ran : Rounds step waiting tries batch C n s s') (enough : (old s).length ≤ n * batch) :
    I s' ∧ old s' = [] := by
  induction n generalizing s with
  | zero =>
      subst ran
      exact ⟨inv, List.length_eq_zero_iff.mp (by omega)⟩
  | succ n ih =>
      obtain ⟨t, first, rest⟩ := ran
      obtain ⟨inv', short⟩ := serves.round inv first
      refine ih inv' rest ?_
      rw [Nat.succ_mul] at enough
      omega

end Serves

end Queue

end Atrium.Base
