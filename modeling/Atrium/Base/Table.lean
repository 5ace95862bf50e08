/-
# Base.Table -- tables with a primary key

A table is a list of keyed rows in which no key stands twice.  The key's
uniqueness is a field, so no operation below can lose it: `Table.insert?` refuses
a key that is present, and `Table.update` rewrites rows in place.

Everything a proof needs about a point lookup is the simp set of `Table.get?`;
`Table.mem_rows` carries a fact about lookups to the row list and back, for
queries that range over the whole table.
-/
import Mathlib

namespace Atrium.Base

set_option autoImplicit false

structure Table (κ ρ : Type) where
  rows : List (κ × ρ)
  unique : (rows.map Prod.fst).Nodup

namespace Table

variable {κ ρ : Type}

@[ext] theorem ext {t u : Table κ ρ} (rows : t.rows = u.rows) : t = u := by
  cases t
  cases u
  simpa using rows

def empty : Table κ ρ := ⟨[], List.nodup_nil⟩

/-- Rewrite every row in place; keys do not move. -/
def update (t : Table κ ρ) (f : κ → ρ → ρ) : Table κ ρ where
  rows := t.rows.map fun row => (row.1, f row.1 row.2)
  unique := by
    simpa [List.map_map, Function.comp_def] using t.unique

@[simp] theorem update_rows (t : Table κ ρ) (f : κ → ρ → ρ) :
    (t.update f).rows = t.rows.map fun row => (row.1, f row.1 row.2) := rfl

theorem update_update (t : Table κ ρ) (f g : κ → ρ → ρ) :
    (t.update f).update g = t.update fun k r => g k (f k r) := by
  ext1
  simp [Function.comp_def]

/-- The rows a query selects, in the order they stand in. -/
def select (t : Table κ ρ) (p : κ → ρ → Bool) : List (κ × ρ) :=
  t.rows.filter fun row => p row.1 row.2

section Keyed

variable [DecidableEq κ]

def get? (t : Table κ ρ) (k : κ) : Option ρ :=
  (t.rows.find? fun row => row.1 = k).map Prod.snd

/-- Rewrite the row at one key, if there is one. -/
def modify (t : Table κ ρ) (k : κ) (f : ρ → ρ) : Table κ ρ :=
  t.update fun k' r => if k' = k then f r else r

/-- Add a row; a key that is present is refused. -/
def insert? (t : Table κ ρ) (k : κ) (r : ρ) : Option (Table κ ρ) :=
  if fresh : k ∉ t.rows.map Prod.fst then
    some ⟨t.rows ++ [(k, r)], by
      rw [List.map_append, List.map_singleton]
      exact t.unique.append (List.nodup_singleton k) (by simpa using fresh)⟩
  else none

/-- Drop the row at one key. -/
def remove (t : Table κ ρ) (k : κ) : Table κ ρ where
  rows := t.rows.filter fun row => decide (row.1 ≠ k)
  unique := t.unique.sublist (List.filter_sublist.map Prod.fst)

/-- The rows that meet a condition. -/
def keep (t : Table κ ρ) (p : κ → ρ → Bool) : Table κ ρ where
  rows := t.rows.filter fun row => p row.1 row.2
  unique := t.unique.sublist (List.filter_sublist.map Prod.fst)

/-- Set the row at one key, whether it is there or not. -/
def put (t : Table κ ρ) (k : κ) (r : ρ) : Table κ ρ where
  rows := (t.remove k).rows ++ [(k, r)]
  unique := by
    rw [List.map_append, List.map_singleton]
    refine (t.remove k).unique.append (List.nodup_singleton k) ?_
    simp only [remove, List.disjoint_singleton, List.mem_map, List.mem_filter, decide_eq_true_eq]
    rintro ⟨row, ⟨-, differ⟩, same⟩
    exact differ same

/-! ## Lookups -/

@[simp] theorem get?_empty (k : κ) : (empty : Table κ ρ).get? k = none := rfl

theorem mem_rows {t : Table κ ρ} {k : κ} {r : ρ} : (k, r) ∈ t.rows ↔ t.get? k = some r := by
  obtain ⟨rows, unique⟩ := t
  simp only [get?]
  induction rows with
  | nil => simp
  | cons row rows ih =>
      obtain ⟨k', r'⟩ := row
      simp only [List.map_cons, List.nodup_cons, List.mem_map, not_exists, not_and] at unique
      by_cases same : k' = k
      · subst same
        have absent : (k', r) ∉ rows := fun h => unique.1 (k', r) h rfl
        simp [absent, eq_comm]
      · have differ : (k, r) ≠ (k', r') := fun h => same (congrArg Prod.fst h).symm
        simpa [List.find?_cons, same, differ] using ih unique.2

theorem get?_isSome {t : Table κ ρ} {k : κ} :
    (t.get? k).isSome ↔ k ∈ t.rows.map Prod.fst := by
  simp only [Option.isSome_iff_exists, ← mem_rows, List.mem_map, Prod.exists]
  constructor
  · rintro ⟨r, here⟩
    exact ⟨k, r, here, rfl⟩
  · rintro ⟨k', r, here, rfl⟩
    exact ⟨r, here⟩

theorem get?_eq_none {t : Table κ ρ} {k : κ} :
    t.get? k = none ↔ k ∉ t.rows.map Prod.fst := by
  rw [← get?_isSome]
  simp

theorem mem_select {t : Table κ ρ} {p : κ → ρ → Bool} {k : κ} {r : ρ} :
    (k, r) ∈ t.select p ↔ t.get? k = some r ∧ p k r = true := by
  simp [select, List.mem_filter, mem_rows]

@[simp] theorem get?_update (t : Table κ ρ) (f : κ → ρ → ρ) (k : κ) :
    (t.update f).get? k = (t.get? k).map (f k) := by
  obtain ⟨rows, unique⟩ := t
  simp only [get?, update_rows]
  clear unique
  induction rows with
  | nil => rfl
  | cons row rows ih =>
      obtain ⟨k', r'⟩ := row
      by_cases same : k' = k
      · subst same
        simp
      · simpa [List.find?_cons, same] using ih

theorem get?_modify (t : Table κ ρ) (k k' : κ) (f : ρ → ρ) :
    (t.modify k f).get? k' = (t.get? k').map fun r => if k' = k then f r else r := by
  simp [modify]

@[simp] theorem get?_modify_self (t : Table κ ρ) (k : κ) (f : ρ → ρ) :
    (t.modify k f).get? k = (t.get? k).map f := by
  simp [get?_modify]

@[simp] theorem get?_modify_ne (t : Table κ ρ) {k k' : κ} (f : ρ → ρ) (ne : k' ≠ k) :
    (t.modify k f).get? k' = t.get? k' := by
  simp [get?_modify, ne]

theorem get?_modify_some {t : Table κ ρ} {k k' : κ} {f : ρ → ρ} {r : ρ} :
    (t.modify k f).get? k' = some r ↔
      ∃ r₀, t.get? k' = some r₀ ∧ (if k' = k then f r₀ else r₀) = r := by
  simp [get?_modify]

@[simp] theorem get?_modify_none {t : Table κ ρ} {k k' : κ} {f : ρ → ρ} :
    (t.modify k f).get? k' = none ↔ t.get? k' = none := by
  simp [get?_modify]

theorem modify_modify (t : Table κ ρ) (k : κ) (f g : ρ → ρ) :
    (t.modify k f).modify k g = t.modify k (g ∘ f) := by
  unfold modify
  rw [update_update]
  congr 1
  funext k' r
  by_cases same : k' = k <;> simp [same]

theorem modify_absent {t : Table κ ρ} {k : κ} (absent : t.get? k = none) (f : ρ → ρ) :
    t.modify k f = t := by
  ext1
  have missing := get?_eq_none.mp absent
  simp only [modify, update_rows]
  conv_rhs => rw [← List.map_id t.rows]
  apply List.map_congr_left
  intro row here
  have differ : row.1 ≠ k := fun same => missing (same ▸ List.mem_map_of_mem here)
  simp [differ]

/-- A rewrite that changes nothing a projection sees leaves the projection of
every lookup alone. -/
theorem map_get?_modify {γ : Type} {t : Table κ ρ} {k : κ} {f : ρ → ρ} {g : ρ → γ}
    (same : ∀ r, g (f r) = g r) (k' : κ) :
    ((t.modify k f).get? k').map g = (t.get? k').map g := by
  rw [get?_modify, Option.map_map]
  congr 1
  funext r
  by_cases h : k' = k <;> simp [h, same]

/-! ## Insertion -/

theorem insert?_some {t u : Table κ ρ} {k : κ} {r : ρ} (inserted : t.insert? k r = some u) :
    t.get? k = none ∧ u.rows = t.rows ++ [(k, r)] := by
  unfold insert? at inserted
  split at inserted
  · rename_i fresh
    cases inserted
    exact ⟨get?_eq_none.mpr fresh, rfl⟩
  · cases inserted

theorem insert?_of_fresh {t : Table κ ρ} {k : κ} (fresh : t.get? k = none) (r : ρ) :
    ∃ u, t.insert? k r = some u := by
  refine ⟨⟨t.rows ++ [(k, r)], ?_⟩, ?_⟩
  · rw [List.map_append, List.map_singleton]
    exact t.unique.append (List.nodup_singleton k) (by simpa using get?_eq_none.mp fresh)
  · simp only [insert?, get?_eq_none.mp fresh, not_false_eq_true, dite_true]

theorem insert?_none {t : Table κ ρ} {k : κ} {r : ρ} :
    t.insert? k r = none ↔ (t.get? k).isSome := by
  rw [get?_isSome]
  by_cases fresh : k ∉ t.rows.map Prod.fst
  · simp only [insert?, fresh, not_false_eq_true, dite_true, reduceCtorEq]
  · simp only [insert?, fresh, dite_false, true_iff]
    exact not_not.mp fresh

theorem get?_insert? {t u : Table κ ρ} {k : κ} {r : ρ} (inserted : t.insert? k r = some u)
    (k' : κ) : u.get? k' = if k' = k then some r else t.get? k' := by
  obtain ⟨fresh, rows⟩ := insert?_some inserted
  simp only [get?, rows, List.find?_append]
  by_cases same : k' = k
  · subst same
    have miss : t.rows.find? (fun row => decide (row.1 = k')) = none := by
      simpa [get?] using fresh
    simp [miss]
  · simp [same, Ne.symm same]

/-! ## Setting and dropping -/

theorem get?_remove (t : Table κ ρ) (k k' : κ) :
    (t.remove k).get? k' = if k' = k then none else t.get? k' := by
  obtain ⟨rows, unique⟩ := t
  simp only [get?, remove, List.find?_filter]
  by_cases same : k' = k
  · subst same
    simp
  · simp only [same, if_false]
    congr 2
    funext row
    by_cases here : row.1 = k' <;> simp [here, same]

theorem get?_put (t : Table κ ρ) (k k' : κ) (r : ρ) :
    (t.put k r).get? k' = if k' = k then some r else t.get? k' := by
  have dropped := get?_remove t k k'
  simp only [get?] at dropped ⊢
  simp only [put, List.find?_append]
  by_cases same : k' = k
  · subst same
    simp only [if_true] at dropped
    rw [Option.map_eq_none_iff.mp dropped]
    simp
  · have differ : k ≠ k' := fun h => same h.symm
    simp only [same, if_false] at dropped
    simp [same, differ, dropped]

/-! ## Keeping the rows that meet a condition -/

theorem get?_keep (t : Table κ ρ) (p : κ → ρ → Bool) (k : κ) :
    (t.keep p).get? k = (t.get? k).filter (p k) := by
  ext r
  rw [← mem_rows, Option.filter_eq_some_iff, ← mem_rows]
  simp [keep]

/-- An update that leaves the condition alone commutes with it. -/
theorem keep_modify (t : Table κ ρ) {p : κ → ρ → Bool} (k : κ) {f : ρ → ρ}
    (same : ∀ r, p k (f r) = p k r) : (t.modify k f).keep p = (t.keep p).modify k f := by
  ext1
  simp only [keep, modify, update_rows, List.filter_map]
  congr 1
  refine List.filter_congr fun row _ => ?_
  by_cases own : row.1 = k
  · simp [own, same]
  · simp [own]

/-- An update of a row that is not kept is not seen. -/
theorem keep_modify_unmet (t : Table κ ρ) {p : κ → ρ → Bool} {k : κ} (f : ρ → ρ)
    (unmet : ∀ r, p k r = false) : (t.modify k f).keep p = t.keep p := by
  rw [keep_modify t k (fun r => by rw [unmet, unmet])]
  refine modify_absent ?_ f
  rw [get?_keep]
  exact Option.filter_eq_none_iff.mpr fun r _ => by simp [unmet]

theorem keep_insert? {t u : Table κ ρ} {p : κ → ρ → Bool} {k : κ} {r : ρ}
    (inserted : t.insert? k r = some u) (meets : p k r = true) :
    (t.keep p).insert? k r = some (u.keep p) := by
  obtain ⟨fresh, rows⟩ := insert?_some inserted
  have absent : (t.keep p).get? k = none := by rw [get?_keep, fresh, Option.filter_none]
  obtain ⟨v, kept⟩ := insert?_of_fresh absent r
  rw [kept]
  congr 1
  ext1
  rw [(insert?_some kept).2]
  simp [keep, rows, meets]

/-- A row that does not meet the condition is not missed. -/
theorem keep_insert?_unmet {t u : Table κ ρ} {p : κ → ρ → Bool} {k : κ} {r : ρ}
    (inserted : t.insert? k r = some u) (unmet : p k r = false) : u.keep p = t.keep p := by
  ext1
  simp [keep, (insert?_some inserted).2, unmet]

/-- A query that selects kept rows only does not see the others. -/
theorem select_keep {t : Table κ ρ} {p q : κ → ρ → Bool}
    (within : ∀ k r, t.get? k = some r → q k r = true → p k r = true) :
    (t.keep p).select q = t.select q := by
  simp only [select, keep, List.filter_filter]
  refine List.filter_congr fun row here => ?_
  cases selected : q row.1 row.2 with
  | false => simp
  | true => simp [within row.1 row.2 (mem_rows.mp here) selected]

/-! ## How many rows -/

@[simp] theorem length_modify (t : Table κ ρ) (k : κ) (f : ρ → ρ) :
    (t.modify k f).rows.length = t.rows.length := by
  simp [modify]

theorem length_insert? {t u : Table κ ρ} {k : κ} {r : ρ} (inserted : t.insert? k r = some u) :
    u.rows.length = t.rows.length + 1 := by
  simp [(insert?_some inserted).2]

theorem length_put_fresh {t : Table κ ρ} {k : κ} (fresh : t.get? k = none) (r : ρ) :
    (t.put k r).rows.length = t.rows.length + 1 := by
  have whole : (t.remove k).rows = t.rows := by
    refine List.filter_eq_self.mpr fun row here => ?_
    have missing := get?_eq_none.mp fresh
    have differ : row.1 ≠ k := fun same => missing (same ▸ List.mem_map_of_mem here)
    simp [differ]
  simp [put, whole]

/-! ## Uniqueness of a further column -/

/-- No two rows hold the same value in a nullable column. -/
def UniqueOn {γ : Type} (t : Table κ ρ) (col : ρ → Option γ) : Prop :=
  ∀ k r k' r' c, t.get? k = some r → t.get? k' = some r' →
    col r = some c → col r' = some c → k = k'

/-- No row but the one at `k` holds `c` in a nullable column. -/
def free {γ : Type} [DecidableEq γ] (t : Table κ ρ) (col : ρ → Option γ) (k : κ) (c : γ) : Bool :=
  t.rows.all fun row => decide (row.1 = k ∨ col row.2 ≠ some c)

theorem free_iff {γ : Type} [DecidableEq γ] {t : Table κ ρ} {col : ρ → Option γ} {k : κ} {c : γ} :
    t.free col k c = true ↔ ∀ k' r, t.get? k' = some r → col r = some c → k' = k := by
  simp only [free, List.all_eq_true, decide_eq_true_eq, Prod.forall, mem_rows]
  constructor
  · intro h k' r here holds
    exact (h k' r here).resolve_right (fun differ => differ holds)
  · intro h k' r here
    by_cases holds : col r = some c
    · exact .inl (h k' r here holds)
    · exact .inr holds

/-- Every value in the column was in the same row before, or is new in the row at `k`. -/
theorem UniqueOn.renew {γ : Type} [DecidableEq γ] {t u : Table κ ρ} {col : ρ → Option γ} {k : κ}
    (unique : t.UniqueOn col)
    (old : ∀ k' r c, u.get? k' = some r → col r = some c →
      (∃ r', t.get? k' = some r' ∧ col r' = some c) ∨ (k' = k ∧ t.free col k c = true)) :
    u.UniqueOn col := by
  intro k₁ r₁ k₂ r₂ c here₁ here₂ holds₁ holds₂
  rcases old k₁ r₁ c here₁ holds₁ with ⟨s₁, before₁, had₁⟩ | ⟨rfl, free⟩
  · rcases old k₂ r₂ c here₂ holds₂ with ⟨s₂, before₂, had₂⟩ | ⟨rfl, free⟩
    · exact unique k₁ s₁ k₂ s₂ c before₁ before₂ had₁ had₂
    · exact free_iff.mp free k₁ s₁ before₁ had₁
  · rcases old k₂ r₂ c here₂ holds₂ with ⟨s₂, before₂, had₂⟩ | ⟨rfl, -⟩
    · exact (free_iff.mp free k₂ s₂ before₂ had₂).symm
    · rfl

/-- An update that leaves the column, or takes a value no other row holds. -/
theorem UniqueOn.modify {γ : Type} [DecidableEq γ] {t : Table κ ρ} {col : ρ → Option γ} {k : κ}
    {f : ρ → ρ} (unique : t.UniqueOn col)
    (fits : ∀ r, t.get? k = some r → col (f r) = col r ∨ (col (f r)).all (t.free col k) = true) :
    (t.modify k f).UniqueOn col := by
  refine unique.renew (k := k) fun k' r c here holds => ?_
  obtain ⟨r', before, rfl⟩ := Option.map_eq_some_iff.mp (get?_modify t k k' f ▸ here)
  by_cases own : k' = k
  · subst own
    simp only [if_true] at holds
    rcases fits r' before with same | free
    · exact .inl ⟨r', before, same ▸ holds⟩
    · rw [holds, Option.all_some] at free
      exact .inr ⟨rfl, free⟩
  · simp only [own, if_false] at holds
    exact .inl ⟨r', before, holds⟩

theorem UniqueOn.insert {γ : Type} [DecidableEq γ] {t u : Table κ ρ} {col : ρ → Option γ} {k : κ}
    {r : ρ} (unique : t.UniqueOn col) (inserted : t.insert? k r = some u)
    (fits : (col r).all (t.free col k) = true) : u.UniqueOn col := by
  refine unique.renew (k := k) fun k' r' c here holds => ?_
  rw [get?_insert? inserted] at here
  by_cases own : k' = k
  · rw [if_pos own] at here
    cases here
    rw [holds, Option.all_some] at fits
    exact .inr ⟨own, fits⟩
  · rw [if_neg own] at here
    exact .inl ⟨r', here, holds⟩

end Keyed

end Table

end Atrium.Base
