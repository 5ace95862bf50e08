/-
# Base.Aggregate -- sums over the rows a query selects

A filtered sum is a sum of `if`s, where sums add up row by row.  `sum_join` is the rule
for a join: over keys that differ, the sum of the rows that have one of them is the sum,
key by key, of the rows that have it.  Where only one row meets a condition, that row is
what the query selects.
-/
import Mathlib
import Atrium.Base.Table

namespace Atrium.Base.Aggregate

set_option autoImplicit false

variable {α κ M : Type} [AddCommMonoid M]

theorem sum_filter (l : List α) (p : α → Bool) (f : α → M) :
    ((l.filter p).map f).sum = (l.map fun x => if p x then f x else 0).sum := by
  induction l with
  | nil => rfl
  | cons x l ih =>
      by_cases here : p x
      · simp [here, ih]
      · simp [here, ih]

theorem sum_sub {G : Type} [AddCommGroup G] (l : List α) (f g : α → G) :
    (l.map fun x => f x - g x).sum = (l.map f).sum - (l.map g).sum := by
  induction l with
  | nil => simp
  | cons x l ih =>
      simp only [List.map_cons, List.sum_cons]
      rw [ih, add_sub_add_comm]

/-- A row counts once among keys that differ. -/
theorem sum_at_key [DecidableEq κ] {keys : List κ} (distinct : keys.Nodup) (k : κ) (m : M) :
    (keys.map fun k' => if k = k' then m else 0).sum = if k ∈ keys then m else 0 := by
  induction keys with
  | nil => rfl
  | cons first keys ih =>
      obtain ⟨absent, distinct⟩ := List.nodup_cons.mp distinct
      rw [List.map_cons, List.sum_cons, ih distinct]
      by_cases own : k = first
      · subst own
        simp [absent]
      · simp [own]

/-- **Sum over a join.** -/
theorem sum_join [DecidableEq κ] {keys : List κ} (distinct : keys.Nodup) (rows : List α)
    (key : α → κ) (f : α → M) :
    ((rows.filter fun x => key x ∈ keys).map f).sum =
      (keys.map fun k => ((rows.filter fun x => key x = k).map f).sum).sum := by
  induction rows with
  | nil => simp
  | cons x rows ih =>
      have split : ∀ k, (((x :: rows).filter fun y => key y = k).map f).sum =
          (if key x = k then f x else 0) + ((rows.filter fun y => key y = k).map f).sum := by
        intro k
        rw [sum_filter, sum_filter, List.map_cons, List.sum_cons]
        simp
      simp only [split]
      rw [List.sum_map_add, sum_at_key distinct, ← ih, sum_filter, sum_filter, List.map_cons,
        List.sum_cons]
      simp

/-- The rows of each group make up all of them. -/
theorem sum_groups [DecidableEq κ] (rows : List α) (key : α → κ) (f : α → M) :
    (((rows.map key).dedup).map fun k => ((rows.filter fun x => key x = k).map f).sum).sum =
      (rows.map f).sum := by
  rw [← sum_join (List.nodup_dedup _), List.filter_eq_self.mpr]
  intro x among
  simpa using ⟨x, among, rfl⟩

/-- A condition on one row selects that row. -/
theorem select_singleton {ρ : Type} [DecidableEq κ] {t : Table κ ρ} {p : κ → ρ → Bool} {k : κ}
    {r : ρ} (here : t.get? k = some r) (holds : p k r = true)
    (only : ∀ k' r', t.get? k' = some r' → p k' r' = true → k' = k) : t.select p = [(k, r)] := by
  have among : (k, r) ∈ t.select p := Table.mem_select.mpr ⟨here, holds⟩
  have alone : ∀ row ∈ t.select p, row = (k, r) := by
    rintro ⟨k', r'⟩ other
    obtain ⟨here', holds'⟩ := Table.mem_select.mp other
    obtain rfl := only k' r' here' holds'
    cases here.symm.trans here'
    rfl
  have distinct : (t.select p).Nodup := t.unique.of_map.filter _
  generalize t.select p = rows at among alone distinct
  rcases rows with _ | ⟨x, _ | ⟨y, rest⟩⟩
  · cases among
  · rw [alone x (by simp)]
  · have same := (alone x (by simp)).trans (alone y (by simp)).symm
    simp [same] at distinct

end Atrium.Base.Aggregate
