/-
# Base.SweepLine -- the running total of interval events bounds usage everywhere

Weighted half-open intervals over an ordered time.  `usage` is the weight in use
at an instant; `peak` is the largest running total of the events, one acquire and
one release per interval, in time order with releases first at an instant.

`usage_le_peak` and `peak_attained` hold for any event order of that kind, and
`usage_window` says that clipping the intervals to a window changes usage nowhere in
the window: `peak_window_isGreatest` puts them together.
-/
import Mathlib

namespace Atrium.Base

set_option autoImplicit false

structure Span (T : Type) where
  start : T
  stop : T
  weight : Int

/-- One boundary: `acquire` is true where the weight is taken. -/
structure Boundary (T : Type) where
  time : T
  acquire : Bool
  delta : Int

namespace SweepLine

variable {T : Type} [LinearOrder T]

def covers (x : Span T) (t : T) : Bool := decide (x.start ≤ t ∧ t < x.stop)

/-- The weight in use at `t`. -/
def usage (xs : List (Span T)) (t : T) : Int :=
  (xs.map fun x => if covers x t then x.weight else 0).sum

def boundaries (xs : List (Span T)) : List (Boundary T) :=
  (xs.map fun x => ⟨x.start, true, x.weight⟩) ++ xs.map fun x => ⟨x.stop, false, -x.weight⟩

/-- Time order, releases before acquires at one instant. -/
def precedes (e f : Boundary T) : Prop :=
  e.time < f.time ∨ (e.time = f.time ∧ (e.acquire = true → f.acquire = true))

instance : DecidableRel (precedes (T := T)) := fun _ _ => inferInstanceAs (Decidable (_ ∨ _))

instance : Std.Total (precedes (T := T)) where
  total e f := by
    rcases lt_trichotomy e.time f.time with h | h | h
    · exact .inl (.inl h)
    · cases he : e.acquire <;> cases hf : f.acquire <;> simp [precedes, h, he, hf]
    · exact .inr (.inl h)

instance : IsTrans (Boundary T) precedes where
  trans e f g := by
    rintro (h | ⟨h, i⟩) (h' | ⟨h', i'⟩)
    · exact .inl (h.trans h')
    · exact .inl (h' ▸ h)
    · exact .inl (h ▸ h')
    · exact .inr ⟨h.trans h', i' ∘ i⟩

/-- The totals after each entry of a list of changes. -/
def runningTotals : Int → List Int → List Int
  | _, [] => []
  | acc, d :: ds => (acc + d) :: runningTotals (acc + d) ds

/-- `COALESCE(MAX(running total), 0)`. -/
def peak (es : List (Boundary T)) : Int :=
  (runningTotals 0 (es.map Boundary.delta)).max?.getD 0

/-! ## Running totals -/

theorem sum_mem_runningTotals {ds es : List Int} (acc : Int) (nonempty : ds ≠ []) :
    acc + ds.sum ∈ runningTotals acc (ds ++ es) := by
  induction ds generalizing acc with
  | nil => exact absurd rfl nonempty
  | cons d ds ih =>
      simp only [List.cons_append, runningTotals, List.sum_cons, List.mem_cons]
      cases ds with
      | nil => simp
      | cons d' ds =>
          refine .inr ?_
          rw [← add_assoc]
          exact ih (acc + d) (by simp)

omit [LinearOrder T] in
theorem le_peak {es : List (Boundary T)} {v : Int}
    (total : v ∈ runningTotals 0 (es.map Boundary.delta)) : v ≤ peak es := by
  unfold peak
  cases h : (runningTotals 0 (es.map Boundary.delta)).max? with
  | none =>
      rw [List.max?_eq_none_iff] at h
      rw [h] at total
      cases total
  | some m => exact (List.max?_eq_some_iff.mp h).2 v total

omit [LinearOrder T] in
/-- Every prefix of the events stays below the peak, once the peak is not negative. -/
theorem initial_le_peak {es fs gs : List (Boundary T)} (split : es = fs ++ gs)
    (nonneg : 0 ≤ peak es) : (fs.map Boundary.delta).sum ≤ peak es := by
  by_cases nonempty : fs.map Boundary.delta = []
  · simpa [nonempty] using nonneg
  · apply le_peak
    rw [split, List.map_append]
    have total := @sum_mem_runningTotals _ (gs.map Boundary.delta) 0 nonempty
    simpa using total

/-! ## Usage is a prefix of the sorted events -/

omit [LinearOrder T] in
theorem sum_boundaries (xs : List (Span T)) :
    ((boundaries xs).map Boundary.delta).sum = 0 := by
  simp only [boundaries, List.map_append, List.map_map, List.sum_append, Function.comp_def]
  induction xs with
  | nil => rfl
  | cons x xs ih =>
      simp only [List.map_cons, List.sum_cons]
      omega

omit [LinearOrder T] in
theorem peak_nonneg {xs : List (Span T)} {es : List (Boundary T)}
    (events : es.Perm (boundaries xs)) : 0 ≤ peak es := by
  cases es with
  | nil => simp [peak, runningTotals]
  | cons e es =>
      apply le_peak
      have total : (((e :: es).map Boundary.delta).sum) = 0 := by
        rw [(events.map Boundary.delta).sum_eq, sum_boundaries]
      have last := @sum_mem_runningTotals ((e :: es).map Boundary.delta) [] 0 (by simp)
      rw [List.append_nil, total, add_zero] at last
      exact last

/-- The events up to an instant are a prefix of the sorted ones. -/
theorem split_at {es : List (Boundary T)} (t : T) (sorted : es.Pairwise precedes) :
    es = es.filter (fun e => decide (e.time ≤ t)) ++ es.filter (fun e => decide (t < e.time)) := by
  induction es with
  | nil => rfl
  | cons e es ih =>
      rw [List.pairwise_cons] at sorted
      by_cases early : e.time ≤ t
      · simp only [List.filter_cons, early, decide_true, if_true, not_lt.mpr early, decide_false,
          List.cons_append]
        exact congrArg (e :: ·) (ih sorted.2)
      · have late : t < e.time := not_le.mp early
        have none_early : es.filter (fun f => decide (f.time ≤ t)) = [] := by
          rw [List.filter_eq_nil_iff]
          intro f here
          have order : e.time ≤ f.time := by
            rcases sorted.1 f here with h | ⟨h, -⟩
            · exact h.le
            · exact h.le
          simpa using late.trans_le order
        have all_late : es.filter (fun f => decide (t < f.time)) = es := by
          have := ih sorted.2
          rw [none_early, List.nil_append] at this
          exact this.symm
        simp [early, late, none_early, all_late]

theorem usage_eq_sum {xs : List (Span T)} (proper : ∀ x ∈ xs, x.start < x.stop) (t : T) :
    usage xs t =
      (((boundaries xs).filter fun e => decide (e.time ≤ t)).map Boundary.delta).sum := by
  simp only [usage, boundaries, List.filter_append, List.map_append, List.sum_append]
  induction xs with
  | nil => rfl
  | cons x xs ih =>
      have order := proper x List.mem_cons_self
      have rest := ih fun y here => proper y (List.mem_cons_of_mem x here)
      rw [List.map_cons, List.sum_cons, rest]
      by_cases started : x.start ≤ t <;> by_cases stopped : x.stop ≤ t
      · simp [covers, started, stopped, not_lt.mpr stopped]
        omega
      · simp [covers, started, stopped, not_le.mp stopped]
        omega
      · exact absurd (order.le.trans stopped) started
      · simp [covers, started, stopped]

/-- **The sweep line bounds usage.**  The peak of the sorted events is at least the
weight in use at every instant. -/
theorem usage_le_peak {xs : List (Span T)} {es : List (Boundary T)}
    (proper : ∀ x ∈ xs, x.start < x.stop) (events : es.Perm (boundaries xs))
    (sorted : es.Pairwise precedes) (t : T) : usage xs t ≤ peak es := by
  have same := ((events.filter fun e => decide (e.time ≤ t)).map Boundary.delta).sum_eq
  rw [usage_eq_sum proper, ← same]
  exact initial_le_peak (split_at t sorted) (peak_nonneg events)

/-! ## The peak is attained -/

theorem precedes_time {e f : Boundary T} (order : precedes e f) : e.time ≤ f.time := by
  rcases order with earlier | ⟨same, -⟩
  · exact earlier.le
  · exact same.le

omit [LinearOrder T] in
theorem mem_runningTotals {ds : List Int} {acc v : Int} (total : v ∈ runningTotals acc ds) :
    ∃ front back, ds = front ++ back ∧ v = acc + front.sum := by
  induction ds generalizing acc with
  | nil => cases total
  | cons d ds ih =>
      simp only [runningTotals, List.mem_cons] at total
      rcases total with rfl | later
      · exact ⟨[d], ds, rfl, by simp⟩
      · obtain ⟨front, back, rfl, rfl⟩ := ih later
        exact ⟨d :: front, back, rfl, by simp [add_assoc]⟩

omit [LinearOrder T] in
/-- The peak is the total of some prefix of the events. -/
theorem peak_initial (es : List (Boundary T)) :
    ∃ fs gs, es = fs ++ gs ∧ peak es = (fs.map Boundary.delta).sum := by
  unfold peak
  cases h : (runningTotals 0 (es.map Boundary.delta)).max? with
  | none => exact ⟨[], es, rfl, rfl⟩
  | some m =>
      obtain ⟨front, back, split, total⟩ := mem_runningTotals (List.max?_eq_some_iff.mp h).1
      obtain ⟨fs, gs, rfl, rfl, rfl⟩ := List.map_eq_append_iff.mp split
      exact ⟨fs, gs, rfl, by simpa using total⟩

omit [LinearOrder T] in
theorem mem_boundaries {xs : List (Span T)} {e : Boundary T} (here : e ∈ boundaries xs) :
    ∃ x ∈ xs, e = ⟨x.start, true, x.weight⟩ ∨ e = ⟨x.stop, false, -x.weight⟩ := by
  simp only [boundaries, List.mem_append, List.mem_map] at here
  rcases here with ⟨x, among, rfl⟩ | ⟨x, among, rfl⟩
  · exact ⟨x, among, .inl rfl⟩
  · exact ⟨x, among, .inr rfl⟩

/-- A prefix that ends in an acquire is below the usage at that instant: what the events
of the instant still add is taken, not released. -/
theorem acquired_le_usage {xs : List (Span T)} {fs gs : List (Boundary T)} {e : Boundary T}
    (proper : ∀ x ∈ xs, x.start < x.stop) (positive : ∀ x ∈ xs, 0 ≤ x.weight)
    (events : (fs ++ e :: gs).Perm (boundaries xs)) (sorted : (fs ++ e :: gs).Pairwise precedes)
    (acquire : e.acquire = true) :
    ((fs ++ [e]).map Boundary.delta).sum ≤ usage xs e.time := by
  have total := ((events.filter fun f => decide (f.time ≤ e.time)).map Boundary.delta).sum_eq
  obtain ⟨-, sortedTail, before⟩ := List.pairwise_append.mp sorted
  have early : fs.filter (fun f => decide (f.time ≤ e.time)) = fs := by
    refine List.filter_eq_self.mpr fun f here => ?_
    exact decide_eq_true (precedes_time (before f here e List.mem_cons_self))
  have rest : 0 ≤ ((gs.filter fun f => decide (f.time ≤ e.time)).map Boundary.delta).sum := by
    refine List.sum_nonneg fun d here => ?_
    obtain ⟨f, among, rfl⟩ := List.mem_map.mp here
    obtain ⟨after, time⟩ := List.mem_filter.mp among
    have taken : f.acquire = true := by
      rcases (List.pairwise_cons.mp sortedTail).1 f after with later | ⟨-, also⟩
      · exact absurd (of_decide_eq_true time) (not_le.mpr later)
      · exact also acquire
    have listed : f ∈ boundaries xs := events.mem_iff.mp (by simp [after])
    obtain ⟨x, own, rfl | rfl⟩ := mem_boundaries listed
    · exact positive x own
    · exact absurd taken Bool.false_ne_true
  have kept : (e :: gs).filter (fun f => decide (f.time ≤ e.time)) =
      e :: gs.filter fun f => decide (f.time ≤ e.time) := List.filter_cons_of_pos (by simp)
  rw [usage_eq_sum proper, ← total, List.filter_append, early, kept]
  simp only [List.map_append, List.map_cons, List.map_nil, List.sum_append, List.sum_cons,
    List.sum_nil]
  omega

/-- Every prefix is empty in total or below the usage at the start of an interval. -/
theorem initial_le_usage {xs : List (Span T)} {fs gs : List (Boundary T)}
    (proper : ∀ x ∈ xs, x.start < x.stop) (positive : ∀ x ∈ xs, 0 ≤ x.weight)
    (events : (fs ++ gs).Perm (boundaries xs)) (sorted : (fs ++ gs).Pairwise precedes) :
    (fs.map Boundary.delta).sum ≤ 0 ∨
      ∃ x ∈ xs, (fs.map Boundary.delta).sum ≤ usage xs x.start := by
  induction fs using List.reverseRecOn generalizing gs with
  | nil => exact .inl le_rfl
  | append_singleton fs e ih =>
      rw [List.append_assoc, List.singleton_append] at events sorted
      have listed : e ∈ boundaries xs := events.mem_iff.mp (by simp)
      obtain ⟨x, own, rfl | rfl⟩ := mem_boundaries listed
      · exact .inr ⟨x, own, acquired_le_usage proper positive events sorted rfl⟩
      · -- A release only lowers the total: the shorter prefix already bounds it.
        have weight := positive x own
        have shorter : ((fs ++ [(⟨x.stop, false, -x.weight⟩ : Boundary T)]).map
            Boundary.delta).sum ≤ (fs.map Boundary.delta).sum := by
          simp only [List.map_append, List.map_cons, List.map_nil, List.sum_append, List.sum_cons,
            List.sum_nil]
          omega
        rcases ih events sorted with low | ⟨y, among, bound⟩
        · exact .inl (shorter.trans low)
        · exact .inr ⟨y, among, shorter.trans bound⟩

/-- **The peak is the largest usage.**  It is attained at the start of an interval,
unless nothing is ever in use. -/
theorem peak_attained {xs : List (Span T)} {es : List (Boundary T)}
    (proper : ∀ x ∈ xs, x.start < x.stop) (positive : ∀ x ∈ xs, 0 ≤ x.weight)
    (events : es.Perm (boundaries xs)) (sorted : es.Pairwise precedes) :
    peak es = 0 ∨ ∃ x ∈ xs, peak es = usage xs x.start := by
  obtain ⟨fs, gs, rfl, total⟩ := peak_initial es
  rcases initial_le_usage proper positive events sorted with low | ⟨x, among, bound⟩
  · exact .inl (le_antisymm (total ▸ low) (peak_nonneg events))
  · exact .inr ⟨x, among, le_antisymm (total ▸ bound) (usage_le_peak proper events sorted _)⟩

theorem usage_nonneg {xs : List (Span T)} (positive : ∀ x ∈ xs, 0 ≤ x.weight) (t : T) :
    0 ≤ usage xs t := by
  refine List.sum_nonneg fun d here => ?_
  obtain ⟨x, among, rfl⟩ := List.mem_map.mp here
  split_ifs
  · exact positive x among
  · exact le_rfl

/-! ## Windows -/

def clip (s e : T) (x : Span T) : Span T := ⟨max x.start s, min x.stop e, x.weight⟩

/-- The intervals that meet `[s, e)`, cut to it. -/
def window (s e : T) (xs : List (Span T)) : List (Span T) :=
  (xs.filter fun x => decide (x.start < e ∧ s < x.stop)).map (clip s e)

theorem window_proper {s e : T} (nonempty : s < e) {xs : List (Span T)}
    (proper : ∀ x ∈ xs, x.start < x.stop) : ∀ x ∈ window s e xs, x.start < x.stop := by
  intro x here
  simp only [window, List.mem_map, List.mem_filter, decide_eq_true_eq] at here
  obtain ⟨y, ⟨among, meets⟩, rfl⟩ := here
  exact max_lt (lt_min (proper y among) meets.1) (lt_min meets.2 nonempty)

theorem usage_window {s e t : T} (inside : s ≤ t ∧ t < e) (xs : List (Span T)) :
    usage (window s e xs) t = usage xs t := by
  simp only [usage, window]
  induction xs with
  | nil => rfl
  | cons x xs ih =>
      rw [List.map_cons, List.sum_cons, ← ih]
      by_cases meets : x.start < e ∧ s < x.stop
      · have same : covers (clip s e x) t = covers x t := by
          simp [covers, clip, inside.1, inside.2]
        have weight : (clip s e x).weight = x.weight := rfl
        simp [meets, same, weight]
      · have outside : covers x t = false := by
          simp only [covers, decide_eq_false_iff_not]
          exact fun ⟨low, high⟩ => meets ⟨low.trans_lt inside.2, inside.1.trans_lt high⟩
        simp [meets, outside]

/-- **The clipped sweep is the maximum over the window.** -/
theorem peak_window_isGreatest {s e : T} (nonempty : s < e) {xs : List (Span T)}
    {es : List (Boundary T)} (proper : ∀ x ∈ xs, x.start < x.stop)
    (positive : ∀ x ∈ xs, 0 ≤ x.weight) (events : es.Perm (boundaries (window s e xs)))
    (sorted : es.Pairwise precedes) : IsGreatest (usage xs '' Set.Ico s e) (peak es) := by
  have cut := window_proper nonempty proper
  have weights : ∀ x ∈ window s e xs, 0 ≤ x.weight := by
    intro x here
    obtain ⟨y, among, rfl⟩ := List.mem_map.mp here
    exact positive y (List.mem_of_mem_filter among)
  constructor
  · rcases peak_attained cut weights events sorted with idle | ⟨x, here, attained⟩
    · have low := usage_le_peak cut events sorted s
      have high := usage_nonneg weights s
      refine ⟨s, ⟨le_rfl, nonempty⟩, ?_⟩
      rw [← usage_window ⟨le_rfl, nonempty⟩]
      omega
    · have inside : s ≤ x.start ∧ x.start < e := by
        have order := cut x here
        obtain ⟨y, -, rfl⟩ := List.mem_map.mp here
        exact ⟨le_max_right _ _, order.trans_le (min_le_right _ _)⟩
      exact ⟨x.start, inside, by rw [attained, usage_window inside]⟩
  · rintro _ ⟨t, inside, rfl⟩
    rw [← usage_window inside]
    exact usage_le_peak cut events sorted t

end SweepLine

end Atrium.Base
