/-
# Base.Paging -- pages of a list, cut by an offset and a limit

The pages of one list come to the list (`flatMap_page`).  Where each page is cut from an
order of its own, all by one key, the pages come to each entry once exactly where no cut
falls inside a group of entries with one key (`pages_once_iff`): inside such a group two
orders may swap the entries on either side of the cut.
-/
import Mathlib

namespace Atrium.Base.Paging

set_option autoImplicit false

variable {α β : Type*} [LinearOrder β] {f : α → β}

/-- `LIMIT size OFFSET n * size`. -/
def page (l : List α) (size n : Nat) : List α := (l.drop (n * size)).take size

/-- Ordered by a key; entries with one key stand as they come. -/
def Ordered (f : α → β) (l : List α) : Prop := l.Pairwise fun x y => f x ≤ f y

/-- No cut between two pages falls inside a group of entries with one key. -/
def Parted (f : α → β) (size : Nat) (l : List α) : Prop :=
  ∀ (t : β) (n : Nat), l.countP (fun x => decide (f x < t)) < n * size →
    l.countP (fun x => decide (f x ≤ t)) ≤ n * size

theorem take_page (l : List α) (size n : Nat) :
    l.take ((n + 1) * size) = l.take (n * size) ++ page l size n := by
  rw [Nat.succ_mul, List.take_add, page]

/-- **The pages of one list.** -/
theorem flatMap_page (l : List α) (size m : Nat) :
    (List.range m).flatMap (page l size) = l.take (m * size) := by
  induction m with
  | zero => simp
  | succ m ih =>
      rw [List.range_succ, List.flatMap_append, ih, take_page]
      simp

theorem Parted.perm {size : Nat} {l l' : List α} (parted : Parted f size l) (perm : l.Perm l') :
    Parted f size l' := by
  intro t n
  rw [← perm.countP_eq, ← perm.countP_eq]
  exact parted t n

/-! ## Where no cut is inside a group -/

theorem Ordered.take_countP {l : List α} (ordered : Ordered f l) (t : β) :
    l.take (l.countP fun x => decide (f x ≤ t)) = l.filter fun x => decide (f x ≤ t) := by
  induction l with
  | nil => rfl
  | cons a l ih =>
      obtain ⟨least, rest⟩ := List.pairwise_cons.mp ordered
      by_cases low : f a ≤ t
      · have here : decide (f a ≤ t) = true := decide_eq_true low
        rw [List.countP_cons_of_pos (p := fun x => decide (f x ≤ t)) here,
          List.filter_cons_of_pos (p := fun x => decide (f x ≤ t)) here, List.take_succ_cons, ih rest]
      · -- All that follows is higher still.
        have none_ : ∀ x ∈ a :: l, ¬ decide (f x ≤ t) = true := by
          intro x among
          rw [decide_eq_true_eq]
          rcases List.mem_cons.mp among with rfl | among
          · exact low
          · exact fun high => low (le_trans (least x among) high)
        rw [List.countP_eq_zero.mpr none_, List.filter_eq_nil_iff.mpr none_, List.take_zero]

/-- Entries up to an index count at most so many, if the entry there is not below. -/
theorem Ordered.countP_lt_le {l : List α} (ordered : Ordered f l) {i : Nat} (here : i < l.length) :
    (l.countP fun x => decide (f x < f l[i])) ≤ i := by
  have rest : (l.drop i).countP (fun x => decide (f x < f l[i])) = 0 := by
    rw [List.countP_eq_zero]
    intro x among
    obtain ⟨j, bound, rfl⟩ := List.mem_iff_getElem.mp among
    rw [List.getElem_drop, decide_eq_true_eq, not_lt]
    rcases Nat.eq_zero_or_pos j with rfl | later
    · exact le_rfl
    · exact List.pairwise_iff_getElem.mp ordered i (i + j) here _ (by omega)
  have split := @List.countP_append _ (fun x => decide (f x < f l[i])) (l.take i) (l.drop i)
  rw [List.take_append_drop, rest] at split
  have most := List.countP_le_length (p := fun x => decide (f x < f l[i])) (l := l.take i)
  rw [List.length_take] at most
  omega

/-- Entries up to an index count at least so many, if the entry there is not above. -/
theorem Ordered.lt_countP {l : List α} (ordered : Ordered f l) {i : Nat} (here : i < l.length)
    {t : β} (low : f l[i] ≤ t) : i < l.countP fun x => decide (f x ≤ t) := by
  have first : (l.take (i + 1)).countP (fun x => decide (f x ≤ t)) = (l.take (i + 1)).length := by
    rw [List.countP_eq_length]
    intro x among
    obtain ⟨j, bound, rfl⟩ := List.mem_iff_getElem.mp among
    rw [List.length_take] at bound
    rw [List.getElem_take, decide_eq_true_eq]
    rcases Nat.lt_or_eq_of_le (show j ≤ i by omega) with earlier | rfl
    · exact le_trans (List.pairwise_iff_getElem.mp ordered j i (by omega) here earlier) low
    · exact low
  have split := @List.countP_append _ (fun x => decide (f x ≤ t)) (l.take (i + 1)) (l.drop (i + 1))
  rw [List.take_append_drop, first, List.length_take] at split
  omega

/-- A cut that is inside no group is at a key. -/
theorem Parted.cut {size : Nat} {l : List α} (parted : Parted f size l) (ordered : Ordered f l)
    {n : Nat} (positive : 0 < n * size) (inside : n * size < l.length) :
    ∃ t, l.countP (fun x => decide (f x ≤ t)) = n * size := by
  have here : n * size - 1 < l.length := by omega
  have below := ordered.countP_lt_le here
  have above := ordered.lt_countP here le_rfl
  have most := parted (f l[n * size - 1]) n (by omega)
  exact ⟨f l[n * size - 1], by omega⟩

theorem Parted.take_perm {size : Nat} {l l' : List α} (parted : Parted f size l)
    (ordered : Ordered f l) (ordered' : Ordered f l') (perm : l.Perm l') (n : Nat) :
    (l.take (n * size)).Perm (l'.take (n * size)) := by
  rcases Nat.eq_zero_or_pos (n * size) with zero | positive
  · rw [zero, List.take_zero, List.take_zero]
  · rcases Nat.lt_or_ge (n * size) l.length with inside | past
    · obtain ⟨t, cut⟩ := parted.cut ordered positive inside
      have cut' : l'.countP (fun x => decide (f x ≤ t)) = n * size := by
        rw [← perm.countP_eq, cut]
      have first := ordered.take_countP t
      have second := ordered'.take_countP t
      rw [cut] at first
      rw [cut'] at second
      rw [first, second]
      exact perm.filter _
    · rw [List.take_of_length_le past, List.take_of_length_le (perm.length_eq ▸ past)]
      exact perm

/-- The entries of a page do not depend on the order. -/
theorem Parted.page_perm {size : Nat} {l l' : List α} (parted : Parted f size l)
    (ordered : Ordered f l) (ordered' : Ordered f l') (perm : l.Perm l') (n : Nat) :
    (page l size n).Perm (page l' size n) := by
  have before := parted.take_perm ordered ordered' perm n
  have until_ := parted.take_perm ordered ordered' perm (n + 1)
  rw [take_page, take_page] at until_
  have same := until_.trans (before.symm.append_right (page l' size n))
  exact (List.perm_append_left_iff _).mp same

/-! ## Where a cut is inside a group -/

/-- Two neighbours with one key, swapped. -/
theorem exists_swap {l : List α} (ordered : Ordered f l) {k : Nat} (inside : k + 1 < l.length)
    (tie : f l[k] = f l[k + 1]) :
    ∃ l' : List α, l'.Perm l ∧ Ordered f l' ∧ l'[k + 1]? = some l[k] := by
  have split : l = l.take k ++ l[k] :: l[k + 1] :: l.drop (k + 2) := by
    conv_lhs => rw [← List.take_append_drop k l, List.drop_eq_getElem_cons (by omega : k < l.length),
      List.drop_eq_getElem_cons inside]
  have length : (l.take k).length = k := by
    rw [List.length_take]
    omega
  generalize l.take k = first at split length
  generalize l.drop (k + 2) = rest at split
  generalize l[k] = a at split tie ⊢
  generalize l[k + 1] = b at split tie
  subst split
  refine ⟨first ++ b :: a :: rest, (List.Perm.swap a b rest).append_left first, ?_, ?_⟩
  · simp only [Ordered, List.pairwise_append, List.pairwise_cons, List.mem_cons, forall_eq_or_imp]
      at ordered ⊢
    obtain ⟨one, ⟨⟨-, two⟩, three, four⟩, five⟩ := ordered
    refine ⟨one, ⟨⟨tie.ge, three⟩, two, four⟩, fun x among => ?_⟩
    obtain ⟨left, right, later⟩ := five x among
    exact ⟨right, left, later⟩
  · rw [List.getElem?_append_right (by omega), length]
    simp

/-- A cut inside a group loses one of its entries, if the next page has them swapped. -/
theorem not_parted {size : Nat} {l : List α} (ordered : Ordered f l) (inside : ¬ Parted f size l) :
    ∃ (n : Nat) (l' : List α) (a : α), n * size < l.length ∧ l'.Perm l ∧ Ordered f l' ∧
      a ∈ l.take (n * size) ∧ a ∈ page l' size n := by
  unfold Parted at inside
  push Not at inside
  obtain ⟨t, n, before, after⟩ := inside
  have most := List.countP_le_length (p := fun x => decide (f x ≤ t)) (l := l)
  obtain ⟨k, cut⟩ : ∃ k, n * size = k + 1 := ⟨n * size - 1, by omega⟩
  rw [cut] at before after
  have here : k + 1 < l.length := by omega
  -- The entries on either side of the cut have the key of the group.
  have low : t ≤ f l[k] := by
    by_contra less
    rw [not_le] at less
    have first : (l.take (k + 1)).countP (fun x => decide (f x < t)) = (l.take (k + 1)).length := by
      rw [List.countP_eq_length]
      intro x among
      obtain ⟨j, bound, rfl⟩ := List.mem_iff_getElem.mp among
      rw [List.length_take] at bound
      rw [List.getElem_take, decide_eq_true_eq]
      rcases Nat.lt_or_eq_of_le (show j ≤ k by omega) with earlier | rfl
      · exact lt_of_le_of_lt (List.pairwise_iff_getElem.mp ordered j k (by omega) (by omega) earlier) less
      · exact less
    have split := @List.countP_append _ (fun x => decide (f x < t)) (l.take (k + 1)) (l.drop (k + 1))
    rw [List.take_append_drop, first, List.length_take] at split
    omega
  have high : f l[k + 1] ≤ t := by
    by_contra more
    rw [not_le] at more
    have fewer := ordered.countP_lt_le here
    have within : l.countP (fun x => decide (f x ≤ t)) ≤ l.countP (fun x => decide (f x < f l[k + 1])) := by
      apply List.countP_mono_left
      intro x _ least
      rw [decide_eq_true_eq] at least ⊢
      exact lt_of_le_of_lt least more
    omega
  have between : f l[k] ≤ f l[k + 1] := List.pairwise_iff_getElem.mp ordered k (k + 1) _ here (by omega)
  obtain ⟨l', perm, ordered', swapped⟩ := exists_swap ordered here
    (le_antisymm between (le_trans high low))
  have positive : 0 < size := Nat.pos_of_ne_zero fun zero => by rw [zero] at cut; omega
  refine ⟨n, l', l[k], by omega, perm, ordered', ?_, ?_⟩
  · rw [cut]
    exact List.mem_take_iff_getElem.mpr ⟨k, by omega, rfl⟩
  · rw [page, cut]
    apply List.mem_of_getElem? (i := 0)
    rw [List.getElem?_take_of_lt positive, List.getElem?_drop, Nat.add_zero, swapped]

/-- **When pages cut from any orders come to each entry once.** -/
theorem pages_once_iff {size m : Nat} {l : List α} (nodup : l.Nodup) (enough : l.length ≤ m * size) :
    (∀ orders : Nat → List α, (∀ n, (orders n).Perm l ∧ Ordered f (orders n)) →
        ((List.range m).flatMap fun n => page (orders n) size n).Perm l) ↔ Parted f size l := by
  constructor
  · intro once
    let sorted := l.insertionSort (Order.Preimage f (· ≤ ·))
    have perm : sorted.Perm l := List.perm_insertionSort _ _
    have ordered : Ordered f sorted := List.pairwise_insertionSort (Order.Preimage f (· ≤ ·)) l
    by_contra inside
    obtain ⟨n, l', a, bound, perm', ordered', before, again⟩ :=
      not_parted ordered fun parted => inside (parted.perm perm)
    -- Up to the cut the pages come from the one order, then from the other.
    have pages := once (fun i => if i < n then sorted else l') fun i => by
      split_ifs
      · exact ⟨perm, ordered⟩
      · exact ⟨perm'.trans perm, ordered'⟩
    have apart := (List.nodup_flatMap.mp (pages.nodup_iff.mpr nodup)).2
    rw [← flatMap_page, List.mem_flatMap] at before
    obtain ⟨i, earlier, here⟩ := before
    rw [List.mem_range] at earlier
    have last : n < m := by
      by_contra far
      have length := perm.length_eq
      have reach := Nat.mul_le_mul_right size (not_lt.mp far)
      omega
    have disjoint := List.pairwise_iff_getElem.mp apart i n (by rw [List.length_range]; omega)
      (by rw [List.length_range]; omega) earlier
    rw [List.getElem_range, List.getElem_range] at disjoint
    simp only [Function.onFun, if_pos earlier, if_neg (lt_irrefl n)] at disjoint
    exact disjoint here again
  · intro parted orders each
    have first := each 0
    have pages : ((List.range m).flatMap fun n => page (orders n) size n).Perm
        ((List.range m).flatMap (page (orders 0) size)) := by
      apply List.Perm.flatMap_left
      intro n _
      exact (parted.perm (each n).1.symm).page_perm (each n).2 first.2
        ((each n).1.trans first.1.symm) n
    rw [flatMap_page, List.take_of_length_le (first.1.length_eq ▸ enough)] at pages
    exact pages.trans first.1

end Atrium.Base.Paging
