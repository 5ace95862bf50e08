/-
# TextColumns -- what Postgres takes of a string of the runtime

A string of the runtime is a list of UTF-16 units.  The driver sends it as UTF-8, where a
surrogate without its other half becomes U+FFFD; a text column refuses the NUL character.
A jsonb column is sent `JSON.stringify`, which keeps both as escapes, and refuses both.
-/
import Atrium.Schema

namespace Atrium

open Atrium.Base

set_option autoImplicit false

/-! ## Text parameters -/

def hasNul (text : String) : Bool := text.toList.contains (Char.ofNat 0)

/-- A text of the query's parameters that Postgres refuses. -/
def refuseNul (texts : List String) : Transaction Unit :=
  if texts.any hasNul then Tx.abort (.database "22021") else pure ()

theorem refuseNul_ok {texts : List String} {db db' : Db} {u : Unit} :
    refuseNul texts db = .ok (u, db') ↔ (∀ text ∈ texts, hasNul text = false) ∧ db = db' := by
  unfold refuseNul
  by_cases some_ : texts.any hasNul = true
  · rw [if_pos some_]
    refine iff_of_false (by simp) fun none_ => ?_
    obtain ⟨text, among, nul⟩ := List.any_eq_true.mp some_
    rw [none_.1 text among] at nul
    cases nul
  · rw [if_neg some_]
    simp only [List.any_eq_true, not_exists, not_and, Bool.not_eq_true] at some_
    simp only [Tx.pure_ok, true_and]
    exact ⟨fun same => ⟨some_, same⟩, And.right⟩

theorem refuseNul_error {texts : List String} {db : Db} {e : ApiError} :
    refuseNul texts db = .error e ↔ (∃ text ∈ texts, hasNul text = true) ∧ e = .database "22021" := by
  unfold refuseNul
  rw [Tx.ite_error, Tx.abort_error, Tx.pure_error, List.any_eq_true]
  simp only [and_false, or_false, eq_comm]

/-! ## Strings of the runtime -/

abbrev Utf16 := List UInt16

def highSurrogate (u : UInt16) : Bool := decide (0xD800 ≤ u ∧ u ≤ 0xDBFF)

def lowSurrogate (u : UInt16) : Bool := decide (0xDC00 ≤ u ∧ u ≤ 0xDFFF)

/-- A unit that stands alone. -/
def loneChar (u : UInt16) : Char :=
  if highSurrogate u || lowSurrogate u then Char.ofNat 0xFFFD else Char.ofNat u.toNat

def pairChar (u v : UInt16) : Char :=
  Char.ofNat (0x10000 + (u.toNat - 0xD800) * 0x400 + (v.toNat - 0xDC00))

namespace Utf16

def chars : Utf16 → List Char
  | [] => []
  | [u] => [loneChar u]
  | u :: v :: rest =>
      if highSurrogate u && lowSurrogate v then pairChar u v :: chars rest
      else loneChar u :: chars (v :: rest)

/-- The text the driver sends. -/
def text (units : Utf16) : String := String.ofList (chars units)

/-- No surrogate stands without its other half. -/
def isWellFormed : Utf16 → Bool
  | [] => true
  | [u] => !(highSurrogate u || lowSurrogate u)
  | u :: v :: rest =>
      if highSurrogate u && lowSurrogate v then isWellFormed rest
      else !(highSurrogate u || lowSurrogate u) && isWellFormed (v :: rest)

/-- A jsonb column takes a string of these units. -/
def jsonb (units : Utf16) : Bool := !hasNul units.text && units.isWellFormed

end Utf16

/-- A string of a jsonb parameter that Postgres refuses. -/
def refuseJsonb (units : Option Utf16) : Transaction Unit :=
  if units.any fun u => hasNul u.text then Tx.abort (.database "22P05")
  else if units.any fun u => !u.isWellFormed then Tx.abort (.database "22P02")
  else pure ()

theorem refuseJsonb_run {units : Option Utf16} (taken : ∀ u, units = some u → u.jsonb = true)
    (db : Db) : refuseJsonb units db = .ok ((), db) := by
  cases units with
  | none => rfl
  | some u =>
      have both := taken u rfl
      simp only [Utf16.jsonb, Bool.and_eq_true, Bool.not_eq_true'] at both
      simp only [refuseJsonb, Option.any_some, both, Bool.not_true, Bool.false_eq_true, if_false]
      rfl

theorem refuseJsonb_refused {u : Utf16} (refused : u.jsonb = false) (db : Db) :
    refuseJsonb (some u) db = .error (.database "22P05") ∨
      refuseJsonb (some u) db = .error (.database "22P02") := by
  cases nul : hasNul u.text with
  | true =>
      left
      simp [refuseJsonb, nul, Tx.abort]
  | false =>
      right
      rw [Utf16.jsonb, nul] at refused
      have lone : u.isWellFormed = false := by simpa using refused
      simp [refuseJsonb, nul, lone, Tx.abort]

end Atrium
