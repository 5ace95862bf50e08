/-
# WholeSplit -- a total split over rooms of bounded capacity, in whole numbers

Up to thirty-two rounds hand the remainder out by weight, at least one to a room with
headroom, and a sweep hands out what they leave.  Whatever the weights, each step moves a
number from the remainder to a room within its capacity (`Spread.Within`), and a sweep over
all headroom ends with no remainder (`swept`).  What a list of weights can do is make a share
NaN: then the weights of the rooms add up to infinity, and a room the first round comes to has
an infinite product (`rounds_iff`).
-/
import Atrium.Base.Rounding

namespace Atrium.Seed.Whole

open Atrium.Base

set_option autoImplicit false

/-- What is handed out, and what is left. -/
structure Spread where
  allocated : List Nat
  remaining : Nat

section Definitions

variable (r : Rounding) (weights : List Number) (capacities : List Nat)

/-- The rooms with headroom. -/
def openIdx (allocated : List Nat) : List Nat :=
  (List.range allocated.length).filter fun i => decide (allocated.getD i 0 < capacities.getD i 0)

/-- The floor of a room's share; `none` is NaN. -/
def share (before : Nat) (weightSum : Number) (i : Nat) : Option (WithTop Nat) :=
  (r.div (r.mul (whole before) (weights.getD i 0)) weightSum).map (WithTop.map Nat.floor)

/-- `min` with a number that may be infinite. -/
def atMost (want : WithTop Nat) (n : Nat) : Nat := (min want n).untopD n

def give (i : Nat) (want : WithTop Nat) (s : Spread) : Spread :=
  let spare := capacities.getD i 0 - s.allocated.getD i 0
  let amount := atMost want (min spare s.remaining)
  ⟨s.allocated.set i (s.allocated.getD i 0 + amount), s.remaining - amount⟩

/-- The loop of one round; `none` is a result with NaN in it. -/
def handOut (shareOf : Nat → Option (WithTop Nat)) : List Nat → Spread → Option Spread
  | [], s => some s
  | i :: rest, s =>
      if s.remaining = 0 then some s
      else do
        let share ← shareOf i
        handOut shareOf rest (give capacities i (max 1 share) s)

def weightSum (allocated : List Nat) : Number :=
  r.sum ((openIdx capacities allocated).map fun i => weights.getD i 0)

/-- The outer loop, for at most so many rounds. -/
def rounds : Nat → Spread → Option Spread
  | 0, s => some s
  | guard + 1, s =>
      if s.remaining = 0 then some s
      else if openIdx capacities s.allocated = [] then some s
      else if weightSum r weights capacities s.allocated = 0 then some s
      else do
        let s' ← handOut capacities
          (share r weights s.remaining (weightSum r weights capacities s.allocated))
          (openIdx capacities s.allocated) s
        if s'.remaining = s.remaining then some s' else rounds guard s'

/-- The rooms with headroom and how much. -/
def headroom (allocated : List Nat) : List (Nat × Nat) :=
  ((List.range allocated.length).map fun i => (i, capacities.getD i 0 - allocated.getD i 0)).filter
    fun row => decide (0 < row.2)

end Definitions

def sweep : List (Nat × Nat) → Spread → Spread
  | [], s => s
  | (i, spare) :: rest, s =>
      if s.remaining = 0 then s
      else
        let amount := min spare s.remaining
        sweep rest ⟨s.allocated.set i (s.allocated.getD i 0 + amount), s.remaining - amount⟩

/-! ## One step -/

section Steps

variable {r : Rounding} {weights : List Number} {capacities : List Nat}

/-- Between them a spread's parts come to `target`, and no room is past its capacity. -/
structure Spread.Within (capacities : List Nat) (rooms target : Nat) (s : Spread) : Prop where
  rooms : s.allocated.length = rooms
  capped : ∀ i, s.allocated.getD i 0 ≤ capacities.getD i 0
  whole : s.allocated.sum + s.remaining = target

theorem sum_set_add {l : List Nat} {i : Nat} (inside : i < l.length) (n : Nat) :
    (l.set i (l.getD i 0 + n)).sum = l.sum + n := by
  induction l generalizing i with
  | nil => cases inside
  | cons x l ih =>
      cases i with
      | zero =>
          show x + n + l.sum = x + l.sum + n
          omega
      | succ i =>
          have rest := ih (Nat.lt_of_succ_lt_succ inside)
          show x + (l.set i (l.getD i 0 + n)).sum = x + l.sum + n
          omega

theorem getD_set {l : List Nat} {i : Nat} (inside : i < l.length) (n j : Nat) :
    (l.set i n).getD j 0 = if j = i then n else l.getD j 0 := by
  rw [List.getD_eq_getElem?_getD, List.getElem?_set, List.getD_eq_getElem?_getD]
  by_cases same : j = i
  · subst same
    rw [if_pos rfl, if_pos inside, if_pos rfl]
    rfl
  · rw [if_neg (Ne.symm same), if_neg same]

/-- **A step**: a number moves from the remainder to one room. -/
theorem Spread.Within.move {rooms target : Nat} {s : Spread} (within : s.Within capacities rooms target)
    {i n : Nat} (inside : i < rooms) (spare : n ≤ capacities.getD i 0 - s.allocated.getD i 0)
    (left : n ≤ s.remaining) :
    Spread.Within capacities rooms target
      ⟨s.allocated.set i (s.allocated.getD i 0 + n), s.remaining - n⟩ := by
  have here : i < s.allocated.length := within.rooms.symm ▸ inside
  refine ⟨?_, fun j => ?_, ?_⟩
  · rw [List.length_set]
    exact within.rooms
  · rw [getD_set here]
    have capped := within.capped j
    split
    · rename_i same
      subst same
      omega
    · exact capped
  · have sum := sum_set_add here n
    have whole := within.whole
    show (s.allocated.set i (s.allocated.getD i 0 + n)).sum + (s.remaining - n) = target
    omega

theorem atMost_le (want : WithTop Nat) (n : Nat) : atMost want n ≤ n := by
  match want with
  | ⊤ => exact le_of_eq rfl
  | some w => exact min_le_right w n

theorem atMost_one {n : Nat} (some_ : 0 < n) : atMost (max 1 0) n = 1 := by
  show min (max 1 0) n = 1
  omega

theorem give_within {rooms target : Nat} {s : Spread} (within : s.Within capacities rooms target)
    {i : Nat} (inside : i < rooms) (want : WithTop Nat) :
    (give capacities i want s).Within capacities rooms target := by
  have most := atMost_le want (min (capacities.getD i 0 - s.allocated.getD i 0) s.remaining)
  exact within.move inside (most.trans (min_le_left _ _)) (most.trans (min_le_right _ _))

theorem mem_openIdx {allocated : List Nat} {i : Nat} : i ∈ openIdx capacities allocated ↔
    i < allocated.length ∧ allocated.getD i 0 < capacities.getD i 0 := by
  rw [openIdx, List.mem_filter, List.mem_range, decide_eq_true_eq]

/-! ## The rounds -/

theorem handOut_within {rooms target : Nat} {shareOf : Nat → Option (WithTop Nat)} {l : List Nat}
    (inside : ∀ i ∈ l, i < rooms) {s s' : Spread} (within : s.Within capacities rooms target)
    (handed : handOut capacities shareOf l s = some s') : s'.Within capacities rooms target := by
  induction l generalizing s with
  | nil =>
      cases handed
      exact within
  | cons i l ih =>
      rw [handOut] at handed
      split at handed
      · cases handed
        exact within
      · obtain ⟨share, -, handed⟩ := Option.bind_eq_some_iff.mp handed
        exact ih (fun j among => inside j (List.mem_cons_of_mem _ among))
          (give_within within (inside i List.mem_cons_self) _) handed

theorem openIdx_inside {rooms target : Nat} {s : Spread} (within : s.Within capacities rooms target) :
    ∀ i ∈ openIdx capacities s.allocated, i < rooms := by
  intro i among
  have here := (mem_openIdx.mp among).1
  rwa [within.rooms] at here

theorem rounds_within {rooms target : Nat} (guard : Nat) {s s' : Spread}
    (within : s.Within capacities rooms target) (ran : rounds r weights capacities guard s = some s') :
    s'.Within capacities rooms target := by
  induction guard generalizing s with
  | zero =>
      cases ran
      exact within
  | succ guard ih =>
      rw [rounds] at ran
      split at ran
      · cases ran
        exact within
      split at ran
      · cases ran
        exact within
      split at ran
      · cases ran
        exact within
      obtain ⟨t, handed, ran⟩ := Option.bind_eq_some_iff.mp ran
      have within' := handOut_within (openIdx_inside within) within handed
      split at ran
      · cases ran
        exact within'
      · exact ih within' ran

/-! ## The sweep -/

/-- Rows of rooms and their headroom, each room once. -/
structure Spares (capacities : List Nat) (allocated : List Nat) (rows : List (Nat × Nat)) : Prop where
  once : (rows.map Prod.fst).Nodup
  each : ∀ row ∈ rows, row.1 < allocated.length ∧
    row.2 = capacities.getD row.1 0 - allocated.getD row.1 0

theorem Spares.rest {allocated : List Nat} {i spare n : Nat} {rows : List (Nat × Nat)}
    (spares : Spares capacities allocated ((i, spare) :: rows)) :
    Spares capacities (allocated.set i n) rows := by
  obtain ⟨once, each⟩ := spares
  rw [List.map_cons, List.nodup_cons] at once
  refine ⟨once.2, fun row among => ?_⟩
  obtain ⟨inside, headroom⟩ := each row (List.mem_cons_of_mem _ among)
  have other : row.1 ≠ i := fun same =>
    once.1 (List.mem_map.mpr ⟨row, among, same⟩)
  have here := (each (i, spare) List.mem_cons_self).1
  rw [List.length_set, getD_set here, if_neg other]
  exact ⟨inside, headroom⟩

theorem sweep_within {rooms target : Nat} {rows : List (Nat × Nat)} {s : Spread}
    (within : s.Within capacities rooms target) (spares : Spares capacities s.allocated rows) :
    (sweep rows s).Within capacities rooms target := by
  induction rows generalizing s with
  | nil => exact within
  | cons row rows ih =>
      obtain ⟨i, spare⟩ := row
      rw [sweep]
      split
      · exact within
      · obtain ⟨inside, headroom⟩ := spares.each (i, spare) List.mem_cons_self
        rw [within.rooms] at inside
        refine ih (within.move inside ?_ (min_le_right _ _)) spares.rest
        exact (min_le_left _ _).trans headroom.le

theorem sweep_remaining (rows : List (Nat × Nat)) (s : Spread) :
    (sweep rows s).remaining = s.remaining - (rows.map Prod.snd).sum := by
  induction rows generalizing s with
  | nil => rfl
  | cons row rows ih =>
      obtain ⟨i, spare⟩ := row
      rw [sweep, List.map_cons, List.sum_cons]
      split
      · omega
      · rw [ih]
        show s.remaining - min spare s.remaining - (rows.map Prod.snd).sum =
          s.remaining - (spare + (rows.map Prod.snd).sum)
        omega

/-- All the headroom, in any order. -/
theorem headroom_spares {allocated : List Nat} {rows : List (Nat × Nat)}
    (perm : rows.Perm (headroom capacities allocated)) : Spares capacities allocated rows := by
  refine ⟨?_, fun row among => ?_⟩
  · refine (perm.map Prod.fst).nodup_iff.mpr ?_
    refine List.Nodup.sublist (List.filter_sublist.map Prod.fst) ?_
    rw [List.map_map]
    exact (List.map_id _).symm ▸ List.nodup_range
  · have here := List.mem_of_mem_filter (perm.mem_iff.mp among)
    obtain ⟨i, inside, rfl⟩ := List.mem_map.mp here
    exact ⟨List.mem_range.mp inside, rfl⟩

theorem map_getD_range (l : List Nat) : (List.range l.length).map (fun i => l.getD i 0) = l := by
  refine List.ext_getElem (by rw [List.length_map, List.length_range]) fun i inside here => ?_
  rw [List.getElem_map, List.getElem_range, List.getD_eq_getElem l 0 here]

theorem sum_filter_pos (rows : List (Nat × Nat)) :
    ((rows.filter fun row => decide (0 < row.2)).map Prod.snd).sum = (rows.map Prod.snd).sum := by
  induction rows with
  | nil => rfl
  | cons row rows ih =>
      rw [List.filter_cons]
      split
      · rw [List.map_cons, List.sum_cons, ih, List.map_cons, List.sum_cons]
      · rename_i none_
        have zero : row.2 = 0 := by simpa using none_
        rw [ih, List.map_cons, List.sum_cons, zero, Nat.zero_add]

/-- The headroom of all rooms is what their capacities leave. -/
theorem headroom_sum {rooms target : Nat} {s : Spread} (within : s.Within capacities rooms target)
    (same : rooms = capacities.length) :
    ((headroom capacities s.allocated).map Prod.snd).sum + s.allocated.sum = capacities.sum := by
  have length : s.allocated.length = capacities.length := within.rooms.trans same
  have spare : ((headroom capacities s.allocated).map Prod.snd).sum =
      ((List.range s.allocated.length).map fun i =>
        capacities.getD i 0 - s.allocated.getD i 0).sum := by
    rw [headroom, sum_filter_pos, List.map_map]
    rfl
  calc ((headroom capacities s.allocated).map Prod.snd).sum + s.allocated.sum
      = ((List.range s.allocated.length).map fun i =>
          capacities.getD i 0 - s.allocated.getD i 0).sum +
        ((List.range s.allocated.length).map fun i => s.allocated.getD i 0).sum := by
        rw [spare, map_getD_range]
    _ = ((List.range s.allocated.length).map fun i =>
          capacities.getD i 0 - s.allocated.getD i 0 + s.allocated.getD i 0).sum :=
        (List.sum_map_add).symm
    _ = ((List.range s.allocated.length).map fun i => capacities.getD i 0).sum := by
        refine congrArg List.sum (List.map_congr_left fun i _ => ?_)
        exact Nat.sub_add_cancel (within.capped i)
    _ = capacities.sum := by rw [length, map_getD_range]

/-- **A sweep over all headroom leaves nothing.** -/
theorem swept {rooms target : Nat} {s : Spread} (within : s.Within capacities rooms target)
    (same : rooms = capacities.length) (most : target ≤ capacities.sum) {rows : List (Nat × Nat)}
    (perm : rows.Perm (headroom capacities s.allocated)) :
    (sweep rows s).Within capacities rooms target ∧ (sweep rows s).allocated.sum = target := by
  have after := sweep_within within (headroom_spares perm)
  refine ⟨after, ?_⟩
  have left := sweep_remaining rows s
  have spare := headroom_sum within same
  have before := within.whole
  have parts := after.whole
  rw [(perm.map Prod.snd).sum_eq] at left
  omega

/-- Nothing is handed out at first. -/
def start (rooms target : Nat) : Spread := ⟨List.replicate rooms 0, target⟩

theorem start_within (rooms target : Nat) :
    (start rooms target).Within capacities rooms target := by
  refine ⟨List.length_replicate, fun i => ?_, ?_⟩
  · have zero : (List.replicate rooms 0).getD i 0 = 0 := by
      rw [List.getD_eq_getElem?_getD, List.getElem?_replicate]
      split <;> rfl
    show (List.replicate rooms 0).getD i 0 ≤ _
    rw [zero]
    exact Nat.zero_le _
  · show (List.replicate rooms 0).sum + target = _
    rw [List.sum_replicate_nat, Nat.mul_zero, Nat.zero_add]

/-! ## Shares that are numbers -/

/-- The list's weights have a finite sum, or a finite product each. -/
def Safe (r : Rounding) (weights : List Number) (before : Nat) (l : List Nat) : Prop :=
  r.sum (l.map fun i => weights.getD i 0) ≠ ⊤ ∨ ∀ i ∈ l, r.mul (whole before) (weights.getD i 0) ≠ ⊤

/-- Fewer rooms and a smaller remainder stay safe. -/
theorem Safe.mono {before before' : Nat} {l l' : List Nat} (safe : Safe r weights before l)
    (less : before' ≤ before) (sub : l'.Sublist l) : Safe r weights before' l' := by
  rcases safe with finite | finite
  · left
    intro infinite
    have le := Rounding.sum_sublist_le (r := r) (sub.map fun i => weights.getD i 0)
    rw [infinite] at le
    exact finite (top_le_iff.mp le)
  · right
    intro i among infinite
    have le := Rounding.mul_mono (r := r) less (weights.getD i 0)
    rw [infinite] at le
    exact finite i (sub.subset among) (top_le_iff.mp le)

theorem share_eq_none {before : Nat} {weightSum : Number} {i : Nat} :
    share r weights before weightSum i = none ↔
      r.mul (whole before) (weights.getD i 0) = ⊤ ∧ weightSum = ⊤ := by
  rw [share, Option.map_eq_none_iff, Rounding.div_eq_none]

theorem handOut_some {shareOf : Nat → Option (WithTop Nat)} {l : List Nat}
    (numbers : ∀ i ∈ l, shareOf i ≠ none) (s : Spread) : ∃ s', handOut capacities shareOf l s = some s' := by
  induction l generalizing s with
  | nil => exact ⟨s, rfl⟩
  | cons i l ih =>
      rw [handOut]
      split
      · exact ⟨s, rfl⟩
      · obtain ⟨share, number⟩ := Option.ne_none_iff_exists'.mp (numbers i List.mem_cons_self)
        rw [number]
        exact ih (fun j among => numbers j (List.mem_cons_of_mem _ among)) _

/-- A round only adds, and only takes from the remainder. -/
theorem handOut_grows {rooms : Nat} {shareOf : Nat → Option (WithTop Nat)} {l : List Nat}
    (inside : ∀ i ∈ l, i < rooms) {s s' : Spread} (length : s.allocated.length = rooms)
    (handed : handOut capacities shareOf l s = some s') :
    s'.allocated.length = rooms ∧ s'.remaining ≤ s.remaining ∧
      ∀ j, s.allocated.getD j 0 ≤ s'.allocated.getD j 0 := by
  induction l generalizing s with
  | nil =>
      cases handed
      exact ⟨length, le_rfl, fun j => le_rfl⟩
  | cons i l ih =>
      rw [handOut] at handed
      split at handed
      · cases handed
        exact ⟨length, le_rfl, fun j => le_rfl⟩
      · obtain ⟨share, -, handed⟩ := Option.bind_eq_some_iff.mp handed
        have here : i < s.allocated.length := length.symm ▸ inside i List.mem_cons_self
        obtain ⟨length', less, more⟩ := ih (fun j among => inside j (List.mem_cons_of_mem _ among))
          ((List.length_set).trans length) handed
        refine ⟨length', less.trans (Nat.sub_le _ _), fun j => le_trans ?_ (more j)⟩
        rw [give, getD_set here]
        split
        · rename_i same
          subst same
          exact Nat.le_add_right _ _
        · exact le_rfl

theorem openIdx_sublist {rooms : Nat} {allocated allocated' : List Nat} (length : allocated.length = rooms)
    (length' : allocated'.length = rooms) (more : ∀ j, allocated.getD j 0 ≤ allocated'.getD j 0) :
    (openIdx capacities allocated').Sublist (openIdx capacities allocated) := by
  rw [openIdx, openIdx, length, length']
  refine List.monotone_filter_right _ fun i here => ?_
  rw [decide_eq_true_eq] at here ⊢
  exact lt_of_le_of_lt (more i) here

theorem rounds_some {rooms : Nat} (guard : Nat) {s : Spread} (length : s.allocated.length = rooms)
    (safe : Safe r weights s.remaining (openIdx capacities s.allocated)) :
    ∃ s', rounds r weights capacities guard s = some s' := by
  induction guard generalizing s with
  | zero => exact ⟨s, rfl⟩
  | succ guard ih =>
      rw [rounds]
      split
      · exact ⟨s, rfl⟩
      split
      · exact ⟨s, rfl⟩
      split
      · exact ⟨s, rfl⟩
      have numbers : ∀ i ∈ openIdx capacities s.allocated, share r weights s.remaining
          (weightSum r weights capacities s.allocated) i ≠ none := by
        intro i among nan
        obtain ⟨product, sum⟩ := share_eq_none.mp nan
        rcases safe with finite | finite
        · exact finite sum
        · exact finite i among product
      obtain ⟨t, handed⟩ := @handOut_some capacities _ _ numbers s
      have inside : ∀ i ∈ openIdx capacities s.allocated, i < rooms := fun i among =>
        length ▸ (mem_openIdx.mp among).1
      obtain ⟨length', less, more⟩ := handOut_grows inside length handed
      rw [handed]
      show ∃ s', (if t.remaining = s.remaining then some t else rounds r weights capacities guard t) =
        some s'
      split
      · exact ⟨t, rfl⟩
      · exact ih length' (safe.mono less (openIdx_sublist length length' more))

/-! ## The first round -/

/-- A share of an infinite sum of weights is nothing, or NaN. -/
theorem share_top {before i : Nat} : share r weights before ⊤ i =
    if r.mul (whole before) (weights.getD i 0) = ⊤ then none else some 0 := by
  rw [share]
  by_cases infinite : r.mul (whole before) (weights.getD i 0) = ⊤
  · rw [if_pos infinite, infinite]
    rfl
  · obtain ⟨x, same⟩ := WithTop.ne_top_iff_exists.mp infinite
    rw [if_neg infinite, ← same]
    show some (WithTop.map Nat.floor (0 : Number)) = some 0
    simp

/-- Rooms with headroom whose shares are nothing, or NaN: one each, until a NaN. -/
theorem handOut_scan {shareOf : Nat → Option (WithTop Nat)} {l : List Nat} (once : l.Nodup)
    (small : ∀ i ∈ l, shareOf i = none ∨ shareOf i = some 0) {s : Spread}
    (headroom : ∀ i ∈ l, i < s.allocated.length ∧ s.allocated.getD i 0 < capacities.getD i 0) :
    ((∃ i ∈ l.take s.remaining, shareOf i = none) → handOut capacities shareOf l s = none) ∧
      ((∀ i ∈ l.take s.remaining, shareOf i = some 0) → ∃ s',
        handOut capacities shareOf l s = some s' ∧ s'.remaining = s.remaining - l.length) := by
  induction l generalizing s with
  | nil => exact ⟨by rintro ⟨i, among, -⟩; simp at among, fun _ => ⟨s, rfl, rfl⟩⟩
  | cons i l ih =>
      obtain ⟨inside, spare⟩ := headroom i List.mem_cons_self
      obtain ⟨other, once⟩ := List.nodup_cons.mp once
      cases left : s.remaining with
      | zero =>
          refine ⟨by rintro ⟨j, among, -⟩; simp at among, fun _ => ⟨s, ?_, ?_⟩⟩
          · rw [handOut, if_pos left]
          · rw [left, Nat.zero_sub]
      | succ m =>
          have some_ : ¬ s.remaining = 0 := by omega
          rw [handOut, if_neg some_, List.take_succ_cons]
          rcases small i List.mem_cons_self with nan | zero
          · rw [nan]
            refine ⟨fun _ => rfl, fun numbers => ?_⟩
            have number := numbers i List.mem_cons_self
            rw [nan] at number
            cases number
          · rw [zero]
            have amount : atMost (max 1 0) (min (capacities.getD i 0 - s.allocated.getD i 0)
                s.remaining) = 1 := atMost_one (by omega)
            have taken : (give capacities i (max 1 0) s).remaining = m := by
              show s.remaining - atMost (max 1 0) _ = m
              rw [amount]
              omega
            have still : ∀ j ∈ l, j < (give capacities i (max 1 0) s).allocated.length ∧
                (give capacities i (max 1 0) s).allocated.getD j 0 < capacities.getD j 0 := by
              intro j among
              obtain ⟨inside', spare'⟩ := headroom j (List.mem_cons_of_mem _ among)
              have differ : j ≠ i := fun same => other (same ▸ among)
              rw [give, List.length_set, getD_set inside, if_neg differ]
              exact ⟨inside', spare'⟩
            obtain ⟨stops, goes⟩ := ih once (fun j among => small j (List.mem_cons_of_mem _ among)) still
            rw [taken] at stops goes
            refine ⟨?_, fun numbers => ?_⟩
            · rintro ⟨j, among, nan⟩
              rcases List.mem_cons.mp among with rfl | among
              · rw [zero] at nan
                cases nan
              · exact stops ⟨j, among, nan⟩
            · obtain ⟨s', handed, rest⟩ := goes fun j among => numbers j (List.mem_cons_of_mem _ among)
              refine ⟨s', handed, ?_⟩
              rw [rest, List.length_cons]
              omega

theorem rounds_done (guard : Nat) {s : Spread} (done : s.remaining = 0) :
    rounds r weights capacities guard s = some s := by
  cases guard with
  | zero => rfl
  | succ guard => rw [rounds, if_pos done]

/-- A round that hands out. -/
theorem rounds_succ {guard : Nat} {s : Spread} {l : List Nat} {sum : Number}
    (some_ : ¬ s.remaining = 0) (idx : openIdx capacities s.allocated = l) (listed : ¬ l = [])
    (weighed : weightSum r weights capacities s.allocated = sum) (weighty : ¬ sum = 0) :
    rounds r weights capacities (guard + 1) s =
      (handOut capacities (share r weights s.remaining sum) l s).bind fun s' =>
        if s'.remaining = s.remaining then some s' else rounds r weights capacities guard s' := by
  subst idx weighed
  rw [rounds, if_neg some_, if_neg listed, if_neg weighty]
  rfl

/-- **When the rounds come to an end**: the weights of the rooms have a finite sum, or those
that get something in the first round have a finite product each. -/
theorem rounds_iff {rooms target : Nat} :
    (∃ s, rounds r weights capacities 32 (start rooms target) = some s) ↔
      r.sum ((openIdx capacities (List.replicate rooms 0)).map fun i => weights.getD i 0) ≠ ⊤ ∨
        ∀ i ∈ (openIdx capacities (List.replicate rooms 0)).take target,
          r.mul (whole target) (weights.getD i 0) ≠ ⊤ := by
  by_cases finite : r.sum ((openIdx capacities (List.replicate rooms 0)).map fun i =>
      weights.getD i 0) ≠ ⊤
  · exact iff_of_true (@rounds_some r weights capacities rooms 32 _ List.length_replicate (.inl finite))
      (.inl finite)
  rw [or_iff_right finite]
  rw [ne_eq, not_not] at finite
  by_cases some_ : target = 0
  · subst some_
    exact iff_of_true ⟨_, rounds_done 32 rfl⟩ fun i among => by simp at among
  by_cases listed : openIdx capacities (List.replicate rooms 0) = []
  · refine iff_of_true ⟨start rooms target, ?_⟩ fun i among => by simp [listed] at among
    have left : ¬ (start rooms target).remaining = 0 := some_
    have idx : openIdx capacities (start rooms target).allocated = [] := listed
    rw [rounds, if_neg left, if_pos idx]
  have once : (openIdx capacities (List.replicate rooms 0)).Nodup := List.nodup_range.filter _
  have round := @rounds_succ r weights capacities 31 (start rooms target) _ ⊤ some_ rfl listed finite
    WithTop.top_ne_zero
  obtain ⟨stops, goes⟩ := @handOut_scan capacities (share r weights target ⊤)
    (openIdx capacities (List.replicate rooms 0)) once
    (fun i _ => by
      rw [share_top]
      split
      · exact .inl rfl
      · exact .inr rfl)
    (start rooms target) fun i among => mem_openIdx.mp among
  constructor
  · rintro ⟨s, ran⟩ i among product
    have stopped := stops ⟨i, among, by rw [share_top, if_pos product]⟩
    rw [round] at ran
    change (handOut capacities (share r weights target ⊤)
      (openIdx capacities (List.replicate rooms 0)) (start rooms target)).bind _ = some s at ran
    rw [stopped] at ran
    cases ran
  · intro products
    obtain ⟨t, handed, left⟩ := goes fun i among => by
      rw [share_top, if_neg (products i among)]
    rw [round]
    show ∃ s, (handOut capacities (share r weights target ⊤)
      (openIdx capacities (List.replicate rooms 0)) (start rooms target)).bind _ = some s
    rw [handed]
    show ∃ s, (if t.remaining = _ then some t else rounds r weights capacities 31 t) = some s
    split
    · exact ⟨t, rfl⟩
    by_cases done : t.remaining = 0
    · exact ⟨t, rounds_done 31 done⟩
    obtain ⟨length, less, more⟩ := @handOut_grows capacities rooms _
      (openIdx capacities (List.replicate rooms 0))
      (fun i among => List.length_replicate (n := rooms) (a := 0) ▸ (mem_openIdx.mp among).1) _ t
      List.length_replicate handed
    have short : (openIdx capacities (List.replicate rooms 0)).length ≤ target := by
      have left' : t.remaining = target - (openIdx capacities (List.replicate rooms 0)).length := left
      omega
    rw [List.take_of_length_le short] at products
    have safe : Safe r weights target (openIdx capacities (List.replicate rooms 0)) := .inr products
    exact rounds_some 31 length (safe.mono less (openIdx_sublist List.length_replicate length more))

end Steps

end Atrium.Seed.Whole
