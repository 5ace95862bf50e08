/-
# Base.Interval -- what disjoint intervals of integers can amount to

An interval is a pair of its first integer and the one past its last.  Intervals inside a
finite set amount to their depth summed over it (`sum_depth`), and intervals that do not meet
have depth at most one (`Apart.depth_le`).  So disjoint intervals, each inside one of some
others, and the gaps they leave in these amount to what the others do (`total_add_gaps`),
whether or not those overlap.
-/
import Mathlib

namespace Atrium.Base

set_option autoImplicit false

structure Interval where
  first : Int
  past : Int

namespace Interval

/-- How long an interval is; one that ends before it begins is empty. -/
def size (i : Interval) : Int := max 0 (i.past - i.first)

def total (l : List Interval) : Int := (l.map size).sum

def holds (i : Interval) (n : Int) : Prop := i.first ≤ n ∧ n < i.past

instance (i : Interval) (n : Int) : Decidable (i.holds n) := inferInstanceAs (Decidable (_ ∧ _))

def Apart (i j : Interval) : Prop := i.past ≤ j.first ∨ j.past ≤ i.first

def Inside (i j : Interval) : Prop := j.first ≤ i.first ∧ i.past ≤ j.past

/-! ## Depth -/

/-- How many of the intervals hold an integer. -/
def depth (l : List Interval) (n : Int) : Nat := l.countP fun i => decide (i.holds n)

theorem depth_cons (i : Interval) (l : List Interval) (n : Int) :
    depth (i :: l) n = (if i.holds n then 1 else 0) + depth l n := by
  rw [depth, List.countP_cons, depth, add_comm]
  simp

theorem depth_pos {l : List Interval} {n : Int} : 0 < depth l n ↔ ∃ i ∈ l, i.holds n := by
  simp [depth, List.countP_pos_iff]

/-- Inside a set, an interval is as long as the integers of the set it holds. -/
theorem sum_holds {i : Interval} {s : Finset Int} (within : ∀ n, i.holds n → n ∈ s) :
    ((∑ n ∈ s, if i.holds n then 1 else 0 : Nat) : Int) = i.size := by
  have held : s.filter i.holds = Finset.Ico i.first i.past := by
    ext n
    rw [Finset.mem_filter, Finset.mem_Ico]
    exact ⟨fun both => both.2, fun here => ⟨within n here, here⟩⟩
  rw [Finset.sum_boole, Nat.cast_id, held, Int.card_Ico, size, Int.toNat_eq_max, max_comm]

/-- **What intervals amount to**, counted integer by integer. -/
theorem sum_depth {l : List Interval} {s : Finset Int}
    (within : ∀ i ∈ l, ∀ n, i.holds n → n ∈ s) : ((∑ n ∈ s, depth l n : Nat) : Int) = total l := by
  induction l with
  | nil => simp [depth, total]
  | cons i l ih =>
      have rest := ih fun j among => within j (List.mem_cons_of_mem _ among)
      have here := sum_holds (within i List.mem_cons_self)
      simp only [depth_cons, Finset.sum_add_distrib]
      rw [total, List.map_cons, List.sum_cons, Nat.cast_add, here, rest, total]

/-- Intervals that do not meet hold an integer once. -/
theorem Apart.depth_le {l : List Interval} (apart : l.Pairwise Apart) (n : Int) : depth l n ≤ 1 := by
  induction l with
  | nil => exact Nat.zero_le 1
  | cons i l ih =>
      obtain ⟨first, rest⟩ := List.pairwise_cons.mp apart
      rw [depth_cons]
      by_cases here : i.holds n
      · have alone : depth l n = 0 := by
          by_contra some_
          obtain ⟨j, among, there⟩ := depth_pos.mp (Nat.pos_of_ne_zero some_)
          unfold holds at here there
          rcases first j among with before | after <;> omega
        simp [here, alone]
      · simp only [here, if_false, Nat.zero_add]
        exact ih rest

/-! ## Gaps -/

/-- What some intervals leave of others: at each integer of the set, how many of the others
hold it beyond those of the first. -/
def gaps (others l : List Interval) (s : Finset Int) : Nat := ∑ n ∈ s, (depth others n - depth l n)

/-- **Disjoint intervals inside others, and the gaps between them.** -/
theorem total_add_gaps {l others : List Interval} {s : Finset Int} (apart : l.Pairwise Apart)
    (inside : ∀ i ∈ l, ∃ j ∈ others, i.Inside j)
    (within : ∀ j ∈ others, ∀ n, j.holds n → n ∈ s) :
    total l + gaps others l s = total others := by
  have contained : ∀ i ∈ l, ∀ n, i.holds n → ∃ j ∈ others, j.holds n := by
    intro i among n here
    obtain ⟨j, other, inner⟩ := inside i among
    exact ⟨j, other, inner.1.trans here.1, lt_of_lt_of_le here.2 inner.2⟩
  have covered : ∀ n, depth l n ≤ depth others n := by
    intro n
    rcases Nat.eq_zero_or_pos (depth l n) with none_ | some_
    · omega
    · obtain ⟨i, among, here⟩ := depth_pos.mp some_
      exact (Apart.depth_le apart n).trans (depth_pos.mpr (contained i among n here))
  have first := sum_depth (l := l) (s := s) fun i among n here => by
    obtain ⟨j, other, there⟩ := contained i among n here
    exact within j other n there
  rw [← first, ← sum_depth within, gaps, ← Nat.cast_add, ← Finset.sum_add_distrib]
  refine congrArg Nat.cast (Finset.sum_congr rfl fun n _ => ?_)
  exact Nat.add_sub_of_le (covered n)

end Interval

end Atrium.Base
