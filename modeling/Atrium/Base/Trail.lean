/-
# Base.Trail -- a path, recorded edge by edge

A log that is extended by one edge whenever a value changes, and by nothing when
it does not, is a path from the first value to the last.  `Trail.extend` is that
step; a run lemma is an induction over it.
-/
import Mathlib

namespace Atrium.Base

set_option autoImplicit false

variable {α : Type}

/-- The edges lead from `a` to `b`, each related by `R`. -/
def Trail (R : α → α → Prop) : α → List (α × α) → α → Prop
  | a, [], b => a = b
  | a, e :: es, b => e.1 = a ∧ R a e.2 ∧ Trail R e.2 es b

/-- The edge of a change, if it is one. -/
def changeOf [DecidableEq α] (a b : α) : List (α × α) := if a = b then [] else [(a, b)]

namespace Trail

variable {R : α → α → Prop}

theorem append {a b c : α} {es fs : List (α × α)} (first : Trail R a es b)
    (second : Trail R b fs c) : Trail R a (es ++ fs) c := by
  induction es generalizing a with
  | nil =>
      cases first
      exact second
  | cons e es ih => exact ⟨first.1, first.2.1, ih first.2.2⟩

/-- The end of a path is where its last edge leads. -/
theorem last {a b : α} {es : List (α × α)} (path : Trail R a es b) :
    (es.getLast?.map Prod.snd).getD a = b := by
  induction es generalizing a with
  | nil => exact path
  | cons e es ih =>
      have rest := ih path.2.2
      rw [List.getLast?_cons]
      cases tail : es.getLast? with
      | none =>
          rw [tail] at rest
          exact rest
      | some last =>
          rw [tail] at rest
          exact rest

/-- No path leaves a final value. -/
theorem of_final {z b : α} {es : List (α × α)} (final : ∀ c, ¬ R z c) (path : Trail R z es b) :
    es = [] ∧ b = z := by
  cases es with
  | nil => exact ⟨rfl, path.symm⟩
  | cons e es => exact absurd path.2.1 (final _)

variable [DecidableEq α]

theorem changeOf_self (a : α) : changeOf a a = [] := by simp [changeOf]

theorem changeOf_ne {a b : α} (differ : a ≠ b) : changeOf a b = [(a, b)] := by
  simp [changeOf, differ]

theorem of_change {a b : α} (legal : a ≠ b → R a b) : Trail R a (changeOf a b) b := by
  by_cases same : a = b
  · subst same
    rw [changeOf_self]
    rfl
  · rw [changeOf_ne same]
    exact ⟨rfl, legal same, rfl⟩

/-- One step of the log. -/
theorem extend {a b c : α} {es : List (α × α)} (path : Trail R a es b) (legal : b ≠ c → R b c) :
    Trail R a (es ++ changeOf b c) c :=
  path.append (of_change legal)

/-- **A final value is entered once**, by a path that ends at it and did not start there. -/
theorem count_final {z a b : α} {es : List (α × α)} (final : ∀ c, ¬ R z c)
    (path : Trail R a es b) :
    (es.map Prod.snd).count z = if b = z ∧ a ≠ z then 1 else 0 := by
  induction es generalizing a with
  | nil =>
      obtain rfl : a = b := path
      simp
  | cons e es ih =>
      obtain ⟨rfl, leads, rest⟩ := path
      have open_ : e.1 ≠ z := by
        rintro rfl
        exact final _ leads
      rw [List.map_cons, List.count_cons, ih rest]
      by_cases entered : e.2 = z
      · rw [entered] at rest
        obtain ⟨-, rfl⟩ := of_final final rest
        simp [entered, open_]
      · simp [entered, open_]

end Trail

/-! ## Rows judged by what stands before them -/

/-- Every row of the log meets `P` with the rows before it. -/
def EachAfter {β : Type} (P : List β → β → Prop) (log : List β) : Prop :=
  ∀ before row after, log = before ++ row :: after → P before row

namespace EachAfter

variable {β : Type} {P : List β → β → Prop}

theorem nil : EachAfter P [] := by
  intro before row after split
  simp at split

theorem append {log rows : List β} (logged : EachAfter P log)
    (added : EachAfter (fun before => P (log ++ before)) rows) : EachAfter P (log ++ rows) := by
  intro before row after split
  rcases List.append_eq_append_iff.mp split with ⟨extra, rfl, inside⟩ | ⟨extra, inside, behind⟩
  · exact added extra row after inside
  · cases extra with
    | nil =>
        rw [List.append_nil] at inside
        subst inside
        have first : P (log ++ []) row := added [] row after behind.symm
        rwa [List.append_nil] at first
    | cons first extra =>
        obtain ⟨rfl, -⟩ := List.cons_eq_cons.mp behind
        exact logged before row extra inside

end EachAfter

end Atrium.Base
