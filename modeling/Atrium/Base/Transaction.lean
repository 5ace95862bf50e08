/-
# Base.Transaction -- transactions that return or roll back

A transaction reads and writes a store and either returns a value or aborts
with an error.  An aborted transaction leaves no trace: `Tx.commit` is the store
afterwards, and it is the old store when the run aborted.

Every rule below is an inversion: from a run that returned, what each of its
statements returned.  A proof about a transaction is a chain of these, one per
statement, and never unfolds the monad.
-/
import Mathlib

namespace Atrium.Base

set_option autoImplicit false

/-- A transaction over a store `σ`: it returns an `α`, or aborts with an `ε`. -/
abbrev Tx (ε σ α : Type) := StateT σ (Except ε) α

namespace Tx

variable {ε σ α β : Type}

/-- Abort: the caller sees the error, the store sees nothing. -/
def abort (e : ε) : Tx ε σ α := fun _ => .error e

def read (f : σ → α) : Tx ε σ α := fun s => .ok (f s, s)

def write (f : σ → σ) : Tx ε σ Unit := fun s => .ok ((), f s)

/-- Read something that has to be there. -/
def fetch (f : σ → Option α) (missing : ε) : Tx ε σ α := fun s =>
  match f s with
  | some a => .ok (a, s)
  | none => .error missing

/-- Rethrow an abort as another error. -/
def rethrow (as : ε → ε) (x : Tx ε σ α) : Tx ε σ α := fun s =>
  match x s with
  | .ok r => .ok r
  | .error e => .error (as e)

/-- The store once the transaction has ended. -/
def commit (x : Tx ε σ α) (s : σ) : σ :=
  match x s with
  | .ok r => r.2
  | .error _ => s

/-! ## Running a statement -/

@[simp] theorem read_bind {f : σ → α} {k : α → Tx ε σ β} {s : σ} :
    (read f >>= k) s = k (f s) s := rfl

@[simp] theorem write_bind {f : σ → σ} {k : Unit → Tx ε σ β} {s : σ} :
    (write f >>= k) s = k () (f s) := rfl

theorem bind_of_ok {x : Tx ε σ α} {f : α → Tx ε σ β} {s t : σ} {a : α}
    (returned : x s = .ok (a, t)) : (x >>= f) s = f a t := by
  show StateT.bind x f s = _
  unfold StateT.bind
  rw [returned]
  rfl

/-- A bind, run: the first half aborts, or the second half goes on from its store. -/
theorem bind_run {x : Tx ε σ α} {f : α → Tx ε σ β} {s : σ} :
    (x >>= f) s = match x s with
      | .ok r => f r.1 r.2
      | .error e => .error e := by
  show StateT.bind x f s = _
  unfold StateT.bind
  cases x s <;> rfl

theorem fetch_bind {f : σ → Option α} {e : ε} {k : α → Tx ε σ β} {s : σ} :
    (fetch f e >>= k) s = match f s with
      | some a => k a s
      | none => .error e := by
  rw [bind_run, fetch]
  cases f s <;> rfl

@[simp] theorem abort_bind {e : ε} {k : α → Tx ε σ β} {s : σ} :
    (abort e >>= k) s = .error e := rfl

/-! ## Inversion of a run that returned -/

@[simp] theorem bind_ok {x : Tx ε σ α} {f : α → Tx ε σ β} {s s' : σ} {b : β} :
    (x >>= f) s = .ok (b, s') ↔ ∃ a t, x s = .ok (a, t) ∧ f a t = .ok (b, s') := by
  show StateT.bind x f s = .ok (b, s') ↔ _
  unfold StateT.bind
  cases hx : x s with
  | error e => simp [bind, Except.bind]
  | ok r =>
      obtain ⟨a, t⟩ := r
      simp only [bind, Except.bind, Except.ok.injEq, Prod.mk.injEq]
      exact ⟨fun h => ⟨a, t, ⟨rfl, rfl⟩, h⟩, fun ⟨_, _, ⟨rfl, rfl⟩, h⟩ => h⟩

@[simp] theorem pure_ok {a b : α} {s s' : σ} :
    (pure a : Tx ε σ α) s = .ok (b, s') ↔ a = b ∧ s = s' := by
  show (.ok (a, s) : Except ε (α × σ)) = .ok (b, s') ↔ _
  simp

@[simp] theorem abort_ok {e : ε} {a : α} {s s' : σ} :
    (abort e : Tx ε σ α) s = .ok (a, s') ↔ False := by
  simp [abort]

@[simp] theorem read_ok {f : σ → α} {a : α} {s s' : σ} :
    (read f : Tx ε σ α) s = .ok (a, s') ↔ f s = a ∧ s = s' := by
  simp [read]

@[simp] theorem write_ok {f : σ → σ} {u : Unit} {s s' : σ} :
    (write f : Tx ε σ Unit) s = .ok (u, s') ↔ f s = s' := by
  simp [write]

@[simp] theorem fetch_ok {f : σ → Option α} {e : ε} {a : α} {s s' : σ} :
    (fetch f e : Tx ε σ α) s = .ok (a, s') ↔ f s = some a ∧ s = s' := by
  unfold fetch
  cases f s <;> simp

@[simp] theorem rethrow_ok {as : ε → ε} {x : Tx ε σ α} {s : σ} {r : α × σ} :
    rethrow as x s = .ok r ↔ x s = .ok r := by
  unfold rethrow
  cases x s <;> simp

@[simp] theorem ite_ok {c : Prop} [Decidable c] {x y : Tx ε σ α} {s : σ} {r : α × σ} :
    (if c then x else y) s = .ok r ↔ (c ∧ x s = .ok r) ∨ (¬ c ∧ y s = .ok r) := by
  by_cases h : c <;> simp [h]

theorem map_ok {x : Except ε α} {f : α → β} {b : β} :
    x.map f = .ok b ↔ ∃ a, x = .ok a ∧ f a = b := by
  cases x <;> simp [Except.map]

/-! ## Inversion of a run that aborted -/

theorem bind_error {x : Tx ε σ α} {f : α → Tx ε σ β} {s : σ} {e : ε} :
    (x >>= f) s = .error e ↔ x s = .error e ∨ ∃ a t, x s = .ok (a, t) ∧ f a t = .error e := by
  rw [bind_run]
  cases ran : x s with
  | error e' => simp
  | ok r =>
      obtain ⟨a, t⟩ := r
      simp

theorem abort_error {e e' : ε} {s : σ} : (abort e : Tx ε σ α) s = .error e' ↔ e = e' := by
  simp [abort]

theorem write_error {f : σ → σ} {s : σ} {e : ε} :
    (write f : Tx ε σ Unit) s = .error e ↔ False := by
  simp [write]

theorem fetch_error {f : σ → Option α} {missing e : ε} {s : σ} :
    (fetch f missing : Tx ε σ α) s = .error e ↔ f s = none ∧ missing = e := by
  unfold fetch
  cases f s <;> simp

theorem pure_error {a : α} {s : σ} {e : ε} : (pure a : Tx ε σ α) s = .error e ↔ False := by
  show (.ok (a, s) : Except ε (α × σ)) = .error e ↔ _
  simp

theorem ite_error {c : Prop} [Decidable c] {x y : Tx ε σ α} {s : σ} {e : ε} :
    (if c then x else y) s = .error e ↔ (c ∧ x s = .error e) ∨ (¬ c ∧ y s = .error e) := by
  by_cases h : c <;> simp [h]

/-! ## Commit -/

theorem commit_of_ok {x : Tx ε σ α} {s s' : σ} {a : α} (returned : x s = .ok (a, s')) :
    x.commit s = s' := by
  simp [commit, returned]

theorem commit_of_error {x : Tx ε σ α} {s : σ} {e : ε} (aborted : x s = .error e) :
    x.commit s = s := by
  simp [commit, aborted]

/-- A transaction either aborted and changed nothing, or returned. -/
theorem commit_cases (x : Tx ε σ α) (s : σ) :
    x.commit s = s ∨ ∃ a s', x s = .ok (a, s') ∧ x.commit s = s' := by
  cases h : x s with
  | error e => exact .inl (commit_of_error h)
  | ok r => exact .inr ⟨r.1, r.2, rfl, commit_of_ok h⟩

end Tx

end Atrium.Base
