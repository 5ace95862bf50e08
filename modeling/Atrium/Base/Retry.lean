/-
# Base.Retry -- programs that throw, and running one again

An `Act` returns or throws, and what it did to its state stays done either way.  `retry`
runs numbered acts one after the other while they fail in a way worth another run.

What a retry does is told by its runs as if each came after the one before: `outcome` is
how run `j` ends there, `after` the state it leaves.  `retry_ends` names the run a retry
stops at, `retry_stops` says which run that is.
-/
import Mathlib

namespace Atrium.Base

set_option autoImplicit false

/-- A program over a state `σ`: it returns an `α` or throws an `ε`, and leaves a state. -/
def Act (ε σ α : Type) := σ → Except ε α × σ

namespace Act

variable {ε σ α β : Type}

instance : Monad (Act ε σ) where
  pure a := fun s => (.ok a, s)
  bind x f := fun s =>
    match x s with
    | (.ok a, t) => f a t
    | (.error e, t) => (.error e, t)

def raise (e : ε) : Act ε σ α := fun s => (.error e, s)

/-- `try`/`catch`: the handler goes on from the state the throw left. -/
def handle (x : Act ε σ α) (handler : ε → Act ε σ α) : Act ε σ α := fun s =>
  match x s with
  | (.ok a, t) => (.ok a, t)
  | (.error e, t) => handler e t

@[simp] theorem pure_run (a : α) (s : σ) : (pure a : Act ε σ α) s = (.ok a, s) := rfl

@[simp] theorem raise_run (e : ε) (s : σ) : (raise e : Act ε σ α) s = (.error e, s) := rfl

theorem bind_run (x : Act ε σ α) (f : α → Act ε σ β) (s : σ) :
    (x >>= f) s = match x s with
      | (.ok a, t) => f a t
      | (.error e, t) => (.error e, t) := rfl

theorem handle_run (x : Act ε σ α) (handler : ε → Act ε σ α) (s : σ) :
    handle x handler s = match x s with
      | (.ok a, t) => (.ok a, t)
      | (.error e, t) => handler e t := rfl

/-! ## Running again -/

/-- Run number `attempt` and on, `left` of them, while one fails and `again` says so. -/
def retry (again : ε → Bool) (run : ℕ → Act ε σ α) : (left attempt : ℕ) → (last : ε) → Act ε σ α
  | 0, _, last => raise last
  | left + 1, attempt, _ => handle (run attempt) fun e =>
      if again e then retry again run left (attempt + 1) e else raise e

/-- The state once the first `j` runs are done. -/
def after (run : ℕ → Act ε σ α) (s : σ) : ℕ → σ
  | 0 => s
  | j + 1 => (run j (after run s j)).2

/-- How run `j` ends, after those before it. -/
def outcome (run : ℕ → Act ε σ α) (s : σ) (j : ℕ) : Except ε α := (run j (after run s j)).1

/-- A failure worth another run. -/
def Again (again : ε → Bool) (o : Except ε α) : Prop := ∃ e, o = .error e ∧ again e = true

theorem not_again_ok {again : ε → Bool} {a : α} : ¬ Again again (.ok a : Except ε α) := by
  rintro ⟨e, same, -⟩
  cases same

theorem again_error {again : ε → Bool} {e : ε} :
    Again again (.error e : Except ε α) ↔ again e = true := by
  constructor
  · rintro ⟨e', same, worth⟩
    obtain rfl := Except.error.inj same
    exact worth
  · exact fun worth => ⟨e, rfl, worth⟩

section Retry

variable {again : ε → Bool} {run : ℕ → Act ε σ α} {s : σ}

theorem run_after (run : ℕ → Act ε σ α) (s : σ) (j : ℕ) :
    run j (after run s j) = (outcome run s j, after run s (j + 1)) := rfl

/-- The run a retry reaches ends it, unless it fails in a way worth another. -/
theorem retry_step (left attempt : ℕ) (last : ε) :
    (¬ Again again (outcome run s attempt) ∧
      retry again run (left + 1) attempt last (after run s attempt) =
        (outcome run s attempt, after run s (attempt + 1))) ∨
    ∃ e, outcome run s attempt = .error e ∧ again e = true ∧
      retry again run (left + 1) attempt last (after run s attempt) =
        retry again run left (attempt + 1) e (after run s (attempt + 1)) := by
  rw [retry, handle_run, run_after run s attempt]
  cases ended : outcome run s attempt with
  | ok a => exact .inl ⟨not_again_ok, rfl⟩
  | error e =>
      cases worth : again e with
      | true =>
          refine .inr ⟨e, rfl, worth, ?_⟩
          show (if again e = true then _ else _ : Act ε σ α) _ = _
          rw [if_pos worth]
      | false =>
          have spent : ¬ again e = true := by rw [worth]; exact Bool.false_ne_true
          refine .inl ⟨fun once_more => spent (again_error.mp once_more), ?_⟩
          show (if again e = true then _ else _ : Act ε σ α) _ = _
          rw [if_neg spent, raise_run]

variable (again run s) in
theorem retry_from (left : ℕ) : ∀ (attempt : ℕ) (last : ε),
    ∃ k, attempt ≤ k ∧ k ≤ attempt + left ∧
      (∀ j, attempt ≤ j → j < k → Again again (outcome run s j)) ∧
      (k < attempt + left → ¬ Again again (outcome run s k)) ∧
      retry again run (left + 1) attempt last (after run s attempt) =
        (outcome run s k, after run s (k + 1)) := by
  induction left with
  | zero =>
      intro attempt last
      refine ⟨attempt, le_rfl, le_rfl, fun j from_ before => by omega, fun short => by omega, ?_⟩
      rcases retry_step 0 attempt last with ⟨-, ends⟩ | ⟨e, failed, -, goes⟩
      · exact ends
      · rw [goes, failed]
        rfl
  | succ left ih =>
      intro attempt last
      rcases retry_step (left + 1) attempt last with ⟨stops, ends⟩ | ⟨e, failed, worth, goes⟩
      · exact ⟨attempt, le_rfl, by omega, fun j from_ before => by omega, fun _ => stops, ends⟩
      · obtain ⟨k, from_, within, before, stops, ends⟩ := ih (attempt + 1) e
        refine ⟨k, by omega, by omega, ?_, fun short => stops (by omega), goes.trans ends⟩
        intro j later early
        rcases Nat.eq_or_lt_of_le later with rfl | later
        · exact ⟨e, failed, worth⟩
        · exact before j later early

variable (again run s) in
/-- **A retry ends with one of its runs**, after failures worth another run, and only for
want of runs with such a failure. -/
theorem retry_ends {attempts : ℕ} (some_ : 0 < attempts) (last : ε) :
    ∃ k < attempts, (∀ j < k, Again again (outcome run s j)) ∧
      (k + 1 < attempts → ¬ Again again (outcome run s k)) ∧
      retry again run attempts 0 last s = (outcome run s k, after run s (k + 1)) := by
  obtain ⟨left, rfl⟩ : ∃ left, attempts = left + 1 := ⟨attempts - 1, by omega⟩
  obtain ⟨k, -, within, before, stops, ends⟩ :=
    retry_from again run s left 0 last
  exact ⟨k, by omega, fun j early => before j (Nat.zero_le j) early,
    fun short => stops (by omega), ends⟩

/-- Only one run is stopped at. -/
theorem stop_unique {attempts k k' : ℕ} (within : k < attempts) (within' : k' < attempts)
    (before : ∀ j < k, Again again (outcome run s j))
    (before' : ∀ j < k', Again again (outcome run s j))
    (stops : ¬ Again again (outcome run s k))
    (stops' : k' + 1 < attempts → ¬ Again again (outcome run s k')) : k' = k := by
  rcases Nat.lt_trichotomy k' k with less | same | more
  · exact absurd (before k' less) (stops' (by omega))
  · exact same
  · exact absurd (before' k more) stops

end Retry

end Act

end Atrium.Base
