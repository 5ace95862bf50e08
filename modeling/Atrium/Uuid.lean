/-
# Uuid -- ids as Postgres compares them and as text spells them

A `uuid` column compares by value: 128 bits.  Its text has thirty-two
hexadecimal digits in groups of 8-4-4-4-12, and either letter case is accepted
wherever one is read, so one value has many spellings.  `uuidOf` reads a
spelling, `Uuid.text` writes the lower-case one that Postgres writes.

A `UuidText` is a path parameter behind `ParseUUIDPipe`: text that spells a
uuid, carried with the value it spells.
-/
import Mathlib

namespace Atrium

set_option autoImplicit false

abbrev Uuid := BitVec 128

instance : LawfulBEq Uuid := inferInstance

def hexValue (c : Char) : Option Nat :=
  if '0' ≤ c ∧ c ≤ '9' then some (c.toNat - '0'.toNat)
  else if 'a' ≤ c ∧ c ≤ 'f' then some (c.toNat - 'a'.toNat + 10)
  else if 'A' ≤ c ∧ c ≤ 'F' then some (c.toNat - 'A'.toNat + 10)
  else none

/-- Read `n` hexadecimal digits onto `acc`. -/
def readHex : Nat → Nat → List Char → Option (Nat × List Char)
  | 0, acc, cs => some (acc, cs)
  | _ + 1, _, [] => none
  | n + 1, acc, c :: cs =>
      match hexValue c with
      | some v => readHex n (acc * 16 + v) cs
      | none => none

/-- Read groups of digits with a hyphen between them, up to the end. -/
def readGroups : List Nat → Nat → List Char → Option Nat
  | [], acc, cs => if cs = [] then some acc else none
  | [n], acc, cs =>
      match readHex n acc cs with
      | some (acc', []) => some acc'
      | _ => none
  | n :: groups, acc, cs =>
      match readHex n acc cs with
      | some (acc', '-' :: cs') => readGroups groups acc' cs'
      | _ => none

/-- `/^[0-9a-f]{8}-[0-9a-f]{4}-[0-9a-f]{4}-[0-9a-f]{4}-[0-9a-f]{12}$/i`, and the
value the match spells. -/
def uuidOf (s : String) : Option Uuid :=
  (readGroups [8, 4, 4, 4, 12] 0 s.toList).map (BitVec.ofNat 128)

def isUuid (s : String) : Bool := (uuidOf s).isSome

/-- What zod's `uuid()` lets through: the nil and the max uuid, and every spelling with
a version digit from 1 to 8 and a variant digit of 8, 9, a or b. -/
def isRfcUuid (s : String) : Bool :=
  isUuid s && (s == "00000000-0000-0000-0000-000000000000" ||
    s == "ffffffff-ffff-ffff-ffff-ffffffffffff" ||
    ((s.toList[14]?.any fun c => '1' ≤ c && c ≤ '8') &&
      s.toList[19]?.any fun c => ['8', '9', 'a', 'b', 'A', 'B'].contains c))

theorem isUuid_of_rfc {s : String} (holds : isRfcUuid s = true) : isUuid s = true := by
  simp only [isRfcUuid, Bool.and_eq_true] at holds
  exact holds.1

def hexDigit (n : Nat) : Char :=
  if n < 10 then Char.ofNat ('0'.toNat + n) else Char.ofNat ('a'.toNat + (n - 10))

/-- The `count` lowest hexadecimal digits of `n`, highest first. -/
def hexDigits : Nat → Nat → List Char
  | 0, _ => []
  | count + 1, n => hexDigits count (n / 16) ++ [hexDigit (n % 16)]

def uuidChars (n : Nat) : List Char :=
  hexDigits 8 (n / 16 ^ 24) ++ '-' :: (hexDigits 4 (n / 16 ^ 20) ++ '-' ::
    (hexDigits 4 (n / 16 ^ 16) ++ '-' :: (hexDigits 4 (n / 16 ^ 12) ++ '-' :: hexDigits 12 n)))

/-- The text Postgres writes for a uuid. -/
def Uuid.text (u : Uuid) : String := String.ofList (uuidChars u.toNat)

/-! ## The text of a uuid spells it -/

theorem hexValue_hexDigit {v : Nat} (digit : v < 16) : hexValue (hexDigit v) = some v := by
  revert v
  decide

theorem readHex_add (m n acc : Nat) (cs : List Char) :
    readHex (m + n) acc cs = (readHex m acc cs).bind fun r => readHex n r.1 r.2 := by
  induction m generalizing acc cs with
  | zero => simp [readHex]
  | succ m ih =>
      rw [Nat.succ_add]
      cases cs with
      | nil => rfl
      | cons c cs =>
          simp only [readHex]
          cases hexValue c with
          | none => rfl
          | some v => exact ih _ cs

theorem readHex_hexDigits (count n acc : Nat) (cs : List Char) :
    readHex count acc (hexDigits count n ++ cs) =
      some (acc * 16 ^ count + n % 16 ^ count, cs) := by
  induction count generalizing n cs with
  | zero => simp [hexDigits, readHex, Nat.mod_one]
  | succ count ih =>
      have split : n % 16 ^ (count + 1) = n % 16 + 16 * (n / 16 % 16 ^ count) := by
        rw [Nat.pow_succ', Nat.mod_mul]
      rw [readHex_add, hexDigits, List.append_assoc, ih, split]
      simp only [List.singleton_append, Option.bind_some, readHex,
        hexValue_hexDigit (Nat.mod_lt n (by decide : 0 < 16))]
      congr 2
      ring

theorem readHex_group (count n acc : Nat) :
    readHex count acc (hexDigits count n) = some (acc * 16 ^ count + n % 16 ^ count, []) := by
  simpa using readHex_hexDigits count n acc []

/-- **Round trip.**  The text Postgres writes for a uuid reads back as it. -/
theorem uuidOf_text (u : Uuid) : uuidOf u.text = some u := by
  have bound : u.toNat < 2 ^ 128 := u.isLt
  have value : readGroups [8, 4, 4, 4, 12] 0 (uuidChars u.toNat) = some u.toNat := by
    simp only [uuidChars, readGroups, readHex_hexDigits, readHex_group]
    congr 1
    omega
  simp [uuidOf, Uuid.text, value]

theorem Uuid.text_injective {u v : Uuid} (same : u.text = v.text) : u = v := by
  simpa [uuidOf_text] using congrArg uuidOf same

/-- A path parameter that `ParseUUIDPipe` let through: the text as it came, and
the id it spells. -/
structure UuidText where
  text : String
  value : Uuid
  spells : uuidOf text = some value

/-- The text an id leaves the database in. -/
def Uuid.path (u : Uuid) : UuidText := ⟨u.text, u, uuidOf_text u⟩

@[simp] theorem Uuid.path_value (u : Uuid) : u.path.value = u := rfl

example : uuidOf "0000000a-0000-0000-0000-00000000000B" =
    uuidOf "0000000A-0000-0000-0000-00000000000b" := by decide

end Atrium
