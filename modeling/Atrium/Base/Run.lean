/-
# Base.Run -- runs of a guarded step function

A system is a partial step function: `step a s = none` when action `a` is not
enabled in `s`.  A run is a list of actions, each enabled where it is taken.

Two rules are enough for everything below.  `run_keeps` carries an invariant
through any run; `run_keeps_along` carries one through the runs whose every step
meets a condition, the form a property takes that holds of some runs only.  For
two machines that answer every call, `answers_agree` is the same rule in lockstep.
-/
import Mathlib

namespace Atrium.Base

set_option autoImplicit false

section Run

variable {σ α : Type} (step : α → σ → Option σ)

def run : List α → σ → Option σ
  | [], s => some s
  | a :: as, s => (step a s).bind (run as)

@[simp] theorem run_nil (s : σ) : run step [] s = some s := rfl

@[simp] theorem run_cons (a : α) (as : List α) (s : σ) :
    run step (a :: as) s = (step a s).bind (run step as) := rfl

theorem run_append (as bs : List α) (s : σ) :
    run step (as ++ bs) s = (run step as s).bind (run step bs) := by
  induction as generalizing s with
  | nil => rfl
  | cons a as ih =>
      simp only [List.cons_append, run_cons, Option.bind_assoc]
      congr 1
      funext t
      exact ih t

/-- A state some run from `init` ends in. -/
def Reachable (init s : σ) : Prop := ∃ as, run step as init = some s

variable {step}

/-- **The invariant rule.**  What every enabled step keeps, every run keeps. -/
theorem run_keeps {I : σ → Prop} (keeps : ∀ a s s', step a s = some s' → I s → I s') :
    ∀ {as : List α} {s s' : σ}, run step as s = some s' → I s → I s'
  | [], s, s', ran, holds => by
      cases ran
      exact holds
  | a :: as, s, s', ran, holds => by
      obtain ⟨t, stepped, rest⟩ := Option.bind_eq_some_iff.mp ran
      exact run_keeps keeps rest (keeps a s t stepped holds)

theorem Reachable.invariant {I : σ → Prop} {init s : σ} (reached : Reachable step init s)
    (base : I init) (keeps : ∀ a s s', step a s = some s' → I s → I s') : I s := by
  obtain ⟨as, ran⟩ := reached
  exact run_keeps keeps ran base

/-! ## Runs under a condition -/

variable (step)

/-- Every step of the run meets `C` in the state it is taken in. -/
def Along (C : α → σ → Prop) : List α → σ → Prop
  | [], _ => True
  | a :: as, s => C a s ∧ ∀ t, step a s = some t → Along C as t

instance decidableAlong {C : α → σ → Prop} [∀ a s, Decidable (C a s)] :
    ∀ as s, Decidable (Along step C as s)
  | [], _ => isTrue trivial
  | a :: as, s =>
      match stepped : step a s with
      | none => decidable_of_iff (C a s) ⟨fun h => ⟨h, fun t next => by simp [stepped] at next⟩, And.left⟩
      | some t =>
          have : Decidable (Along step C as t) := decidableAlong as t
          decidable_of_iff (C a s ∧ Along step C as t)
            ⟨fun h => ⟨h.1, fun u next => by rw [stepped] at next; cases next; exact h.2⟩,
              fun h => ⟨h.1, h.2 t stepped⟩⟩

/-- A state some run from `init` ends in, every step of which meets `C`. -/
def ReachableAlong (C : α → σ → Prop) (init s : σ) : Prop :=
  ∃ as, run step as init = some s ∧ Along step C as init

variable {step}

theorem run_keeps_along {C : α → σ → Prop} {I : σ → Prop}
    (keeps : ∀ a s s', step a s = some s' → C a s → I s → I s') :
    ∀ {as : List α} {s s' : σ}, run step as s = some s' → Along step C as s → I s → I s'
  | [], s, s', ran, _, holds => by
      cases ran
      exact holds
  | a :: as, s, s', ran, along, holds => by
      obtain ⟨t, stepped, rest⟩ := Option.bind_eq_some_iff.mp ran
      exact run_keeps_along keeps rest (along.2 t stepped) (keeps a s t stepped along.1 holds)

theorem ReachableAlong.invariant {C : α → σ → Prop} {I : σ → Prop} {init s : σ}
    (reached : ReachableAlong step C init s) (base : I init)
    (keeps : ∀ a s s', step a s = some s' → C a s → I s → I s') : I s := by
  obtain ⟨as, ran, along⟩ := reached
  exact run_keeps_along keeps ran along base

theorem ReachableAlong.reachable {C : α → σ → Prop} {init s : σ}
    (reached : ReachableAlong step C init s) : Reachable step init s :=
  ⟨reached.choose, reached.choose_spec.1⟩

end Run

/-! ## Machines that answer -/

section Answers

variable {σ τ α β : Type}

/-- What a machine answers to a sequence of calls. -/
def answers (call : α → σ → β × σ) : List α → σ → List β
  | [], _ => []
  | a :: as, s => (call a s).1 :: answers call as (call a s).2

/-- The machine as a system that takes every call. -/
def calls (call : α → σ → β × σ) (a : α) (s : σ) : Option σ := some (call a s).2

/-- **The lockstep rule.**  Two machines kept in a relation by every call that meets `C`,
and answering it alike, answer every such sequence alike. -/
theorem answers_agree {R : σ → τ → Prop} {C : α → τ → Prop} {left : α → σ → β × σ}
    {right : α → τ → β × τ}
    (lockstep : ∀ a s t, C a t → R s t → (left a s).1 = (right a t).1 ∧ R (left a s).2 (right a t).2) :
    ∀ {as : List α} {s : σ} {t : τ}, R s t → Along (calls right) C as t →
      answers left as s = answers right as t
  | [], _, _, _, _ => rfl
  | a :: as, s, t, related, along => by
      obtain ⟨same, after⟩ := lockstep a s t along.1 related
      have rest := answers_agree lockstep after (along.2 _ rfl)
      rw [answers, answers, same, rest]

end Answers

end Atrium.Base
