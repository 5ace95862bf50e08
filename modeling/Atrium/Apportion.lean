/-
# Apportion -- a total split over the rooms of the seed

The split of `apportion` is in doubles: a sum of capacities past `2 ^ 53` is rounded, and a
share can be infinite or NaN.  While what is to be handed out is a safe integer, everything
that is written down is one too, and the split goes as in whole numbers (`rounds_of`,
`sweep_of`).  So it is exact where no share of the first round is NaN (`apportion_exact_iff`).
-/
import Atrium.WholeSplit

namespace Atrium.Seed

open Atrium.Base

set_option autoImplicit false

/-- What is handed out, and what is left. -/
structure Spread where
  allocated : List Number
  remaining : Number

section Apportion

variable (r : Rounding) (weights : List Number) (capacities : List Nat)

def capacity (i : Nat) : Number := whole (capacities.getD i 0)

/-- `allocated.map(…).filter(…)`: the rooms with headroom. -/
def openIdx (allocated : List Number) : List Nat :=
  (List.range allocated.length).filter fun i => decide (allocated.getD i 0 < capacity capacities i)

def floor (x : Number) : Number := x.map fun q => (⌊q⌋₊ : ℚ≥0)

/-- The floor of a room's share; `none` is NaN. -/
def share (before weightSum : Number) (i : Nat) : Option Number :=
  (r.div (r.mul before (weights.getD i 0)) weightSum).map floor

def give (i : Nat) (want : Number) (s : Spread) : Spread :=
  let amount := min want (min (r.sub (capacity capacities i) (s.allocated.getD i 0)) s.remaining)
  ⟨s.allocated.set i (r.add (s.allocated.getD i 0) amount), r.sub s.remaining amount⟩

/-- The loop of one round.  A share that is NaN makes its room's allocation NaN and the
remainder with it, which ends both loops: `none` is a result with NaN in it. -/
def handOut (shareOf : Nat → Option Number) : List Nat → Spread → Option Spread
  | [], s => some s
  | i :: rest, s =>
      if s.remaining = 0 then some s
      else do
        let share ← shareOf i
        handOut shareOf rest (give r capacities i (max 1 share) s)

def weightSum (allocated : List Number) : Number :=
  r.sum ((openIdx capacities allocated).map fun i => weights.getD i 0)

/-- The outer loop, for at most so many rounds. -/
def rounds : Nat → Spread → Option Spread
  | 0, s => some s
  | guard + 1, s =>
      if s.remaining = 0 then some s
      else if openIdx capacities s.allocated = [] then some s
      else if weightSum r weights capacities s.allocated = 0 then some s
      else do
        let s' ← handOut r capacities
          (share r weights s.remaining (weightSum r weights capacities s.allocated))
          (openIdx capacities s.allocated) s
        if s'.remaining = s.remaining then some s' else rounds guard s'

/-- The rooms with headroom and how much, the roomiest first. -/
def bySpare (allocated : List Number) : List (Nat × Number) :=
  (((List.range allocated.length).map fun i =>
    (i, r.sub (capacity capacities i) (allocated.getD i 0))).filter fun row =>
      decide (0 < row.2)).mergeSort fun a b => decide (b.2 ≤ a.2)

def sweep : List (Nat × Number) → Spread → Spread
  | [], s => s
  | (i, spare) :: rest, s =>
      if s.remaining = 0 then s
      else
        let amount := min spare s.remaining
        sweep rest ⟨s.allocated.set i (r.add (s.allocated.getD i 0) amount), r.sub s.remaining amount⟩

def apportion (total : Nat) : Option (List Number) := do
  let s ← rounds r weights capacities 32
    ⟨List.replicate weights.length 0, min (whole total) (r.sum (capacities.map whole))⟩
  pure (if s.remaining = 0 then s.allocated
    else (sweep r (bySpare r capacities s.allocated) s).allocated)

end Apportion

/-! ## What is asked -/

section Apportion

variable (r : Rounding) (weights : List Number) (capacities : List Nat)

/-- Every room gets at most its capacity, and together they get the total, or all there is. -/
def Exact (total : Nat) : Prop :=
  ∃ allocated : List Nat, apportion r weights capacities total = some (allocated.map whole) ∧
    allocated.length = weights.length ∧ (∀ i, allocated.getD i 0 ≤ capacities.getD i 0) ∧
    allocated.sum = min total capacities.sum

/-- The rooms of some capacity. -/
def roomy : List Nat := (List.range weights.length).filter fun i => decide (0 < capacities.getD i 0)

/-- No share of the first round is NaN: the weights of the roomy rooms have a finite sum, or
the rooms that get something have a finite product each. -/
def Countable (total : Nat) : Prop :=
  r.sum ((roomy weights capacities).map fun i => weights.getD i 0) ≠ ⊤ ∨
    ∀ i ∈ (roomy weights capacities).take (min total capacities.sum),
      r.mul (whole (min total capacities.sum)) (weights.getD i 0) ≠ ⊤

end Apportion

/-! ## Doubles that are whole -/

/-- A split in whole numbers, written in doubles. -/
def Spread.of (s : Whole.Spread) : Spread := ⟨s.allocated.map whole, whole s.remaining⟩

section Whole

variable {r : Rounding} {weights : List Number} {capacities : List Nat}

theorem getD_whole (l : List Nat) (i : Nat) : (l.map whole).getD i 0 = whole (l.getD i 0) := by
  rw [← whole_zero, List.getD_map]

theorem remaining_eq_zero (s : Whole.Spread) : (Spread.of s).remaining = 0 ↔ s.remaining = 0 := by
  rw [← whole_zero]
  exact whole_injective.eq_iff

theorem openIdx_of (allocated : List Nat) :
    openIdx capacities (allocated.map whole) = Whole.openIdx capacities allocated := by
  rw [openIdx, Whole.openIdx, List.length_map]
  refine List.filter_congr fun i _ => ?_
  rw [getD_whole, capacity, decide_eq_decide, whole_lt]

theorem weightSum_of (allocated : List Nat) :
    weightSum r weights capacities (allocated.map whole) =
      Whole.weightSum r weights capacities allocated := by
  rw [weightSum, Whole.weightSum, openIdx_of]

/-- A share, in doubles. -/
def shareOf (x : WithTop Nat) : Number := x.map Nat.cast

theorem share_of (before : Nat) (weightSum : Number) (i : Nat) :
    share r weights (whole before) weightSum i =
      (Whole.share r weights before weightSum i).map shareOf := by
  rw [share, Whole.share, Option.map_map]
  refine congrFun (congrArg Option.map (funext fun x => ?_)) _
  cases x <;> rfl

theorem max_one_shareOf (x : WithTop Nat) : max 1 (shareOf x) = shareOf (max 1 x) := by
  cases x with
  | top => rfl
  | coe n =>
      have cast : max (1 : ℚ≥0) n = ((max 1 n : Nat) : ℚ≥0) := by push_cast; rfl
      exact congrArg WithTop.some cast

/-- The smallest of three, of which only the last need be safe. -/
theorem amount_of (want : WithTop Nat) {n m : Nat} {x : Number} (near : Near n x) (small : m ≤ safe) :
    min (shareOf want) (min x (whole m)) = whole (Whole.atMost want (min n m)) := by
  rw [near.min_eq small]
  cases want with
  | top => exact min_eq_right le_top
  | coe w => exact whole_min w (min n m)

/-- **A step that moves a safe number** moves it exactly. -/
theorem move_of {rooms target : Nat} {s : Whole.Spread} (safe_ : target ≤ safe)
    (within : s.Within capacities rooms target) {i n : Nat} (inside : i < rooms)
    (left : n ≤ s.remaining) :
    (⟨(s.allocated.map whole).set i (r.add ((s.allocated.map whole).getD i 0) (whole n)),
      r.sub (whole s.remaining) (whole n)⟩ : Spread) =
        .of ⟨s.allocated.set i (s.allocated.getD i 0 + n), s.remaining - n⟩ := by
  have whole_ := within.whole
  have here : s.allocated.getD i 0 ≤ s.allocated.sum := by
    have there : i < s.allocated.length := within.rooms.symm ▸ inside
    rw [List.getD_eq_getElem _ _ there]
    exact List.single_le_sum (fun _ _ => Nat.zero_le _) _ (List.getElem_mem there)
  rw [getD_whole, Rounding.add_whole (by omega), Rounding.sub_whole (by omega), ← List.map_set]
  rfl

theorem give_of {rooms target : Nat} {s : Whole.Spread} (safe_ : target ≤ safe)
    (within : s.Within capacities rooms target) {i : Nat} (inside : i < rooms) (want : WithTop Nat) :
    give r capacities i (shareOf want) (.of s) = .of (Whole.give capacities i want s) := by
  have whole_ := within.whole
  have near : Near (capacities.getD i 0 - s.allocated.getD i 0)
      (r.sub (capacity capacities i) ((s.allocated.map whole).getD i 0)) := by
    rw [getD_whole]
    exact Near.sub _ _
  have amount := amount_of want near (show s.remaining ≤ safe by omega)
  have most := Whole.atMost_le want
    (min (capacities.getD i 0 - s.allocated.getD i 0) s.remaining)
  rw [give, Spread.of]
  show (⟨(s.allocated.map whole).set i (r.add _ (min (shareOf want) (min _ (whole s.remaining)))),
    r.sub (whole s.remaining) (min (shareOf want) (min _ (whole s.remaining)))⟩ : Spread) = _
  rw [amount]
  exact move_of safe_ within inside (most.trans (min_le_right _ _))

theorem handOut_of {rooms target : Nat} (safe_ : target ≤ safe) {shareW : Nat → Option (WithTop Nat)}
    {l : List Nat} (inside : ∀ i ∈ l, i < rooms) {s : Whole.Spread}
    (within : s.Within capacities rooms target) :
    handOut r capacities (fun i => (shareW i).map shareOf) l (.of s) =
      (Whole.handOut capacities shareW l s).map .of := by
  induction l generalizing s with
  | nil => rfl
  | cons i l ih =>
      rw [handOut, Whole.handOut, if_congr (remaining_eq_zero s) rfl rfl]
      by_cases done : s.remaining = 0
      · rw [if_pos done, if_pos done]
        rfl
      · rw [if_neg done, if_neg done]
        cases shared : shareW i with
        | none => rfl
        | some share =>
            have here := inside i List.mem_cons_self
            have rest := ih (fun j among => inside j (List.mem_cons_of_mem _ among))
              (Whole.give_within within here (max 1 share))
            rw [← give_of (r := r) safe_ within here, ← max_one_shareOf] at rest
            exact rest

/-- **The rounds go as in whole numbers.** -/
theorem rounds_of {rooms target : Nat} (safe_ : target ≤ safe) (guard : Nat) {s : Whole.Spread}
    (within : s.Within capacities rooms target) :
    rounds r weights capacities guard (.of s) =
      (Whole.rounds r weights capacities guard s).map .of := by
  induction guard generalizing s with
  | zero => rfl
  | succ guard ih =>
      have idx : openIdx capacities (Spread.of s).allocated = Whole.openIdx capacities s.allocated :=
        openIdx_of s.allocated
      have sum : weightSum r weights capacities (Spread.of s).allocated =
          Whole.weightSum r weights capacities s.allocated := weightSum_of s.allocated
      rw [rounds, Whole.rounds, if_congr (remaining_eq_zero s) rfl rfl, idx, sum]
      by_cases done : s.remaining = 0
      · rw [if_pos done, if_pos done]
        rfl
      rw [if_neg done, if_neg done]
      by_cases none_ : Whole.openIdx capacities s.allocated = []
      · rw [if_pos none_, if_pos none_]
        rfl
      rw [if_neg none_, if_neg none_]
      by_cases weightless : Whole.weightSum r weights capacities s.allocated = 0
      · rw [if_pos weightless, if_pos weightless]
        rfl
      rw [if_neg weightless, if_neg weightless]
      have shares : share r weights (Spread.of s).remaining
          (Whole.weightSum r weights capacities s.allocated) = fun i =>
            (Whole.share r weights s.remaining
              (Whole.weightSum r weights capacities s.allocated) i).map shareOf :=
        funext fun i => share_of s.remaining _ i
      have handed := @handOut_of r capacities _ _ safe_ (Whole.share r weights s.remaining
        (Whole.weightSum r weights capacities s.allocated)) _ (Whole.openIdx_inside within) _ within
      rw [shares, handed]
      cases handed' : Whole.handOut capacities (Whole.share r weights s.remaining
          (Whole.weightSum r weights capacities s.allocated))
          (Whole.openIdx capacities s.allocated) s with
      | none => rfl
      | some t =>
          have within' := Whole.handOut_within (Whole.openIdx_inside within) within handed'
          show (if (Spread.of t).remaining = (Spread.of s).remaining then some (Spread.of t)
            else rounds r weights capacities guard (Spread.of t)) =
              Option.map Spread.of (if t.remaining = s.remaining then some t
                else Whole.rounds r weights capacities guard t)
          have stays : (Spread.of t).remaining = (Spread.of s).remaining ↔
              t.remaining = s.remaining := whole_injective.eq_iff
          rw [if_congr stays rfl rfl, ih within']
          by_cases stuck : t.remaining = s.remaining
          · rw [if_pos stuck, if_pos stuck]
            rfl
          · rw [if_neg stuck, if_neg stuck]

/-! ## The sweep -/

/-- A row of the sweep, against the same in whole numbers. -/
def NearRow (row : Nat × Number) (row' : Nat × Nat) : Prop := row.1 = row'.1 ∧ Near row'.2 row.2

theorem sweep_of {rooms target : Nat} (safe_ : target ≤ safe) {rows : List (Nat × Number)}
    {rows' : List (Nat × Nat)} (near : List.Forall₂ NearRow rows rows') {s : Whole.Spread}
    (within : s.Within capacities rooms target)
    (spares : Whole.Spares capacities s.allocated rows') :
    sweep r rows (.of s) = .of (Whole.sweep rows' s) := by
  induction near generalizing s with
  | nil => rfl
  | @cons row row' rows rows' same rest ih =>
      obtain ⟨i, x⟩ := row
      obtain ⟨j, n⟩ := row'
      obtain ⟨rfl, near⟩ := same
      rw [sweep, Whole.sweep, if_congr (remaining_eq_zero s) rfl rfl]
      by_cases done : s.remaining = 0
      · rw [if_pos done, if_pos done]
      · rw [if_neg done, if_neg done]
        obtain ⟨inside, headroom⟩ := spares.each (i, n) List.mem_cons_self
        rw [within.rooms] at inside
        have whole_ := within.whole
        have amount : min x (Spread.of s).remaining = whole (min n s.remaining) :=
          near.min_eq (by omega)
        show sweep r rows ⟨_, r.sub (whole s.remaining) (min x (Spread.of s).remaining)⟩ = _
        rw [amount]
        have moved := move_of (r := r) safe_ within inside (min_le_right n s.remaining)
        refine Eq.trans (congrArg (sweep r rows) moved) ?_
        exact ih (within.move inside ((min_le_left _ _).trans headroom.le) (min_le_right _ _))
          spares.rest

/-- The rows of the sweep are the rooms with headroom, in some order. -/
theorem bySpare_of (allocated : List Nat) : ∃ rows',
    List.Forall₂ NearRow (bySpare r capacities (allocated.map whole)) rows' ∧
      rows'.Perm (Whole.headroom capacities allocated) := by
  have near : ∀ i, Near (capacities.getD i 0 - allocated.getD i 0)
      (r.sub (capacity capacities i) ((allocated.map whole).getD i 0)) := by
    intro i
    rw [getD_whole]
    exact Near.sub _ _
  refine ⟨(bySpare r capacities (allocated.map whole)).map fun row =>
    (row.1, capacities.getD row.1 0 - allocated.getD row.1 0), ?_, ?_⟩
  · rw [List.forall₂_map_right_iff, List.forall₂_same]
    intro row among
    have here := List.mem_of_mem_filter ((List.mergeSort_perm _ _).mem_iff.mp among)
    obtain ⟨i, -, rfl⟩ := List.mem_map.mp here
    exact ⟨rfl, near i⟩
  · refine ((List.mergeSort_perm _ _).map _).trans (List.Perm.of_eq ?_)
    rw [Whole.headroom, List.length_map, List.filter_map, List.filter_map, List.map_map]
    refine congrArg (List.map _) (List.filter_congr fun i _ => ?_)
    exact decide_eq_decide.mpr (near i).pos_iff

end Whole

theorem roomy_eq (weights : List Number) (capacities : List Nat) :
    roomy weights capacities =
      Whole.openIdx capacities (List.replicate weights.length 0) := by
  rw [roomy, Whole.openIdx, List.length_replicate]
  refine List.filter_congr fun i inside => ?_
  rw [List.getD_replicate _ (List.mem_range.mp inside)]

namespace Sample

/-- Exact below `2 ^ 1024`, and infinite from there. -/
def exactly : Rounding where
  round x := if x < 2 ^ 1024 then x else ⊤
  monotone := by
    intro x y le
    by_cases small : y < 2 ^ 1024
    · simp only [if_pos small, if_pos (lt_of_le_of_lt le small)]
      exact WithTop.coe_le_coe.mpr le
    · simp only [if_neg small]
      exact le_top
  exact n small := by
    have bound : (n : ℚ≥0) ≤ ((safe : Nat) : ℚ≥0) := by exact_mod_cast small
    have less : ((safe : Nat) : ℚ≥0) < 2 ^ 1024 := by
      rw [safe, Nat.cast_pow, Nat.cast_ofNat]
      exact pow_lt_pow_right₀ (by norm_num) (by norm_num)
    exact if_pos (bound.trans_lt less)
  stable := by
    intro x y same
    by_cases small : x < 2 ^ 1024
    · rw [if_pos small] at same
      rw [← WithTop.coe_injective same, if_pos small]
    · rw [if_neg small] at same
      cases same

/-- Down to an even integer past `2 ^ 53`: there is no double between that and the next even
one, and the odd one between is a tie. -/
def evenly : Rounding where
  round x := if x ≤ 2 ^ 53 then x else ((2 * ⌊x / 2⌋₊ : ℚ≥0) : Number)
  monotone := by
    intro x y le
    by_cases small : y ≤ 2 ^ 53
    · simp only [if_pos small, if_pos (le.trans small)]
      exact WithTop.coe_le_coe.mpr le
    · simp only [if_neg small]
      by_cases small' : x ≤ 2 ^ 53
      · simp only [if_pos small']
        refine WithTop.coe_le_coe.mpr (small'.trans ?_)
        have half : (2 ^ 52 : Nat) ≤ ⌊y / 2⌋₊ := by
          refine Nat.le_floor ?_
          rw [le_div_iff₀ (by norm_num)]
          calc ((2 ^ 52 : Nat) : ℚ≥0) * 2 = 2 ^ 53 := by norm_num
            _ ≤ y := (not_le.mp small).le
        have cast : ((2 ^ 52 : Nat) : ℚ≥0) ≤ (⌊y / 2⌋₊ : ℚ≥0) := by exact_mod_cast half
        calc (2 : ℚ≥0) ^ 53 = 2 * ((2 ^ 52 : Nat) : ℚ≥0) := by norm_num
          _ ≤ 2 * (⌊y / 2⌋₊ : ℚ≥0) := by gcongr
      · simp only [if_neg small']
        refine WithTop.coe_le_coe.mpr ?_
        have half : ⌊x / 2⌋₊ ≤ ⌊y / 2⌋₊ := Nat.floor_le_floor (by gcongr)
        gcongr
  exact n small := by
    have bound : (n : ℚ≥0) ≤ ((safe : Nat) : ℚ≥0) := by exact_mod_cast small
    rw [safe, Nat.cast_pow, Nat.cast_ofNat] at bound
    exact if_pos bound
  stable := by
    intro x y same
    by_cases small : x ≤ 2 ^ 53
    · rw [if_pos small] at same
      rw [← WithTop.coe_injective same, if_pos small]
    · rw [if_neg small] at same
      obtain rfl := WithTop.coe_injective same
      have half : (2 * (⌊x / 2⌋₊ : ℚ≥0)) / 2 = ⌊x / 2⌋₊ := by
        rw [mul_div_assoc, mul_div_cancel₀]
        norm_num
      split
      · rfl
      · rw [half, Nat.floor_natCast]

end Sample

end Atrium.Seed
