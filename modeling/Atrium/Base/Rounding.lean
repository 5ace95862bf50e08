/-
# Base.Rounding -- the arithmetic of non-negative floating-point numbers

A number is a non-negative rational or infinity, and an operation is the exact one, rounded.
Of the rounding only this is used: it is monotone, keeps the integers up to `2 ^ 53`, and keeps
what it returned.  So a number computed from integers is the exact one or neither is less than
`2 ^ 53` (`Near`), and a minimum with a safe integer is exact (`Near.min_eq`).
-/
import Mathlib

namespace Atrium.Base

set_option autoImplicit false

/-- A number that is not negative, or infinity. -/
abbrev Number := WithTop ℚ≥0

def whole (n : Nat) : Number := ((n : ℚ≥0) : Number)

/-- The last integer up to which all are numbers of the arithmetic. -/
def safe : Nat := 2 ^ 53

/-- How an exact result is rounded; `⊤` is an overflow. -/
structure Rounding where
  round : ℚ≥0 → Number
  monotone : Monotone round
  exact : ∀ n : Nat, n ≤ safe → round n = whole n
  stable : ∀ x y : ℚ≥0, round x = y → round y = y

namespace Rounding

variable (r : Rounding)

def add : Number → Number → Number
  | some x, some y => r.round (x + y)
  | _, _ => ⊤

/-- A difference, and zero where that would be negative.  No infinity is taken from another. -/
def sub : Number → Number → Number
  | some x, some y => r.round (x - y)
  | ⊤, some _ => ⊤
  | _, ⊤ => 0

/-- A product of numbers of which none is zero where the other is infinite. -/
def mul : Number → Number → Number
  | some x, some y => r.round (x * y)
  | _, _ => ⊤

/-- `none` is NaN; the divisor is not zero. -/
def div : Number → Number → Option Number
  | some x, some y => some (r.round (x / y))
  | some _, ⊤ => some 0
  | ⊤, some _ => some ⊤
  | ⊤, ⊤ => none

/-- Left to right, from zero. -/
def sum (l : List (Number)) : Number := l.foldl r.add 0

variable {r}

/-- A result of the arithmetic. -/
def Kept (r : Rounding) (x : Number) : Prop := ∀ q : ℚ≥0, x = q → r.round q = q

theorem kept_zero : r.Kept 0 := by
  intro q same
  have zero : q = 0 := WithTop.coe_injective same.symm
  have exact_ := r.exact 0 (Nat.zero_le _)
  rw [zero]
  simpa [whole] using exact_

theorem kept_add (x y : Number) : r.Kept (r.add x y) := by
  intro q same
  match x, y with
  | some x, some y => exact r.stable (x + y) q same
  | some x, ⊤ => cases same
  | ⊤, some y => cases same
  | ⊤, ⊤ => cases same

theorem add_mono {x x' : Number} (le : x ≤ x') (y : Number) : r.add x y ≤ r.add x' y := by
  match x, x', y with
  | _, ⊤, _ => exact le_top
  | some x, some x', some y =>
      exact r.monotone (add_le_add_left (WithTop.coe_le_coe.mp le) y)
  | some x, some x', ⊤ => exact le_rfl
  | ⊤, some x', _ => cases not_le_of_gt (WithTop.coe_lt_top x') le

theorem le_add {x : Number} (kept : r.Kept x) (y : Number) : x ≤ r.add x y := by
  match x, y with
  | some x, some y =>
      have same : r.round x = x := kept x rfl
      have more := r.monotone (le_self_add : x ≤ x + y)
      rw [same] at more
      exact more
  | some x, ⊤ => exact le_top
  | ⊤, y => exact le_of_eq rfl

/-- **Fewer numbers have a smaller sum.** -/
theorem foldl_sublist_le {l l' : List (Number)} (sub : l.Sublist l') :
    ∀ {x x' : Number}, x ≤ x' → r.Kept x' → l.foldl r.add x ≤ l'.foldl r.add x' := by
  induction sub with
  | slnil =>
      intro x x' le kept
      exact le
  | cons y sub ih =>
      intro x x' le kept
      exact ih (le.trans (le_add kept y)) (kept_add x' y)
  | cons_cons y sub ih =>
      intro x x' le kept
      exact ih (add_mono le y) (kept_add x' y)

theorem sum_sublist_le {l l' : List (Number)} (sub : l.Sublist l') : r.sum l ≤ r.sum l' :=
  foldl_sublist_le sub le_rfl kept_zero

theorem mul_mono {m n : Nat} (le : m ≤ n) (x : Number) :
    r.mul (whole m) x ≤ r.mul (whole n) x := by
  match x with
  | some x =>
      refine r.monotone ?_
      have cast : (m : ℚ≥0) ≤ n := by exact_mod_cast le
      exact mul_le_mul_left cast x
  | ⊤ => exact le_rfl

/-- A quotient is NaN where both are infinite. -/
theorem div_eq_none {x y : Number} : r.div x y = none ↔ x = ⊤ ∧ y = ⊤ := by
  match x, y with
  | some x, some y => exact iff_of_false (by rintro ⟨⟩) (by rintro ⟨⟨⟩, -⟩)
  | some x, ⊤ => exact iff_of_false (by rintro ⟨⟩) (by rintro ⟨⟨⟩, -⟩)
  | ⊤, some y => exact iff_of_false (by rintro ⟨⟩) (by rintro ⟨-, ⟨⟩⟩)
  | ⊤, ⊤ => exact iff_of_true rfl ⟨rfl, rfl⟩

end Rounding

/-! ## Integers -/

theorem whole_le {m n : Nat} : whole m ≤ whole n ↔ m ≤ n := by
  simp [whole]

theorem whole_lt {m n : Nat} : whole m < whole n ↔ m < n := by
  simp [whole]

theorem whole_zero : whole 0 = 0 := by
  simp [whole]

theorem whole_injective : Function.Injective whole := by
  intro m n same
  exact le_antisymm (whole_le.mp same.le) (whole_le.mp same.ge)

theorem whole_min (m n : Nat) : min (whole m) (whole n) = whole (min m n) :=
  ((monotone_nat_of_le_succ fun n => whole_le.mpr n.le_succ).map_min).symm

/-- The number is that integer, or both are past the safe ones. -/
def Near (n : Nat) (x : Number) : Prop := x = whole n ∨ (safe < n ∧ whole safe ≤ x)

namespace Near

variable {r : Rounding} {n : Nat} {x : Number}

theorem exact (n : Nat) : Near n (whole n) := .inl rfl

theorem of_round (n : Nat) : Near n (r.round n) := by
  rcases le_or_gt n safe with small | large
  · exact .inl (r.exact n small)
  · have cast : ((safe : Nat) : ℚ≥0) ≤ n := by exact_mod_cast large.le
    refine .inr ⟨large, ?_⟩
    rw [← r.exact safe le_rfl]
    exact r.monotone cast

/-- **A minimum with a safe integer is exact.** -/
theorem min_eq (near : Near n x) {m : Nat} (small : m ≤ safe) :
    min x (whole m) = whole (min n m) := by
  rcases near with rfl | ⟨large, most⟩
  · exact whole_min n m
  · rw [min_eq_right ((whole_le.mpr small).trans most), min_eq_right (small.trans large.le)]

theorem pos_iff (near : Near n x) : 0 < x ↔ 0 < n := by
  have zero := whole_zero
  rcases near with rfl | ⟨large, most⟩
  · rw [← zero, whole_lt]
  · have some_ : 0 < safe := by decide
    rw [← zero]
    exact iff_of_true ((whole_lt.mpr some_).trans_le most) (some_.trans large)

theorem add (near : Near n x) (m : Nat) : Near (n + m) (r.add x (whole m)) := by
  rcases near with rfl | ⟨large, most⟩
  · have sum : r.add (whole n) (whole m) = r.round ((n + m : Nat) : ℚ≥0) := by
      rw [Nat.cast_add]
      rfl
    rw [sum]
    exact of_round (n + m)
  · refine .inr ⟨large.trans_le (Nat.le_add_right n m), ?_⟩
    match x with
    | ⊤ => exact le_top
    | some q =>
        have least : ((safe : Nat) : ℚ≥0) ≤ q := WithTop.coe_le_coe.mp most
        rw [← r.exact safe le_rfl]
        exact r.monotone (least.trans le_self_add)

theorem sub (m n : Nat) : Near (m - n) (r.sub (whole m) (whole n)) := by
  have difference : r.sub (whole m) (whole n) = r.round ((m - n : Nat) : ℚ≥0) := by
    rw [Nat.cast_tsub]
    rfl
  rw [difference]
  exact of_round (m - n)

theorem safe_eq (near : Near n x) (small : n ≤ safe) : x = whole n :=
  near.resolve_right fun past => absurd past.1 (not_lt.mpr small)

theorem foldl (near : Near n x) (l : List Nat) :
    Near (n + l.sum) ((l.map whole).foldl r.add x) := by
  induction l generalizing n x with
  | nil => exact near
  | cons m l ih =>
      have rest := ih (near.add (r := r) m)
      rwa [Nat.add_assoc, ← List.sum_cons] at rest

theorem sum (l : List Nat) : Near l.sum (r.sum (l.map whole)) := by
  have all := foldl (r := r) (exact 0) l
  rw [Nat.zero_add, whole_zero] at all
  exact all

end Near

namespace Rounding

variable {r : Rounding}

theorem add_whole {m n : Nat} (small : m + n ≤ safe) : r.add (whole m) (whole n) = whole (m + n) := by
  have sum : r.add (whole m) (whole n) = r.round ((m + n : Nat) : ℚ≥0) := by
    rw [Nat.cast_add]
    rfl
  rw [sum, r.exact _ small]

theorem sub_whole {m n : Nat} (small : m ≤ safe) : r.sub (whole m) (whole n) = whole (m - n) := by
  have difference : r.sub (whole m) (whole n) = r.round ((m - n : Nat) : ℚ≥0) := by
    rw [Nat.cast_tsub]
    rfl
  rw [difference, r.exact _ ((Nat.sub_le m n).trans small)]

end Rounding

end Atrium.Base
