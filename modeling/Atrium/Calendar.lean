/-
# Calendar -- instants as the text `toISOString` writes, and back

A day number and a date of the Gregorian calendar determine each other
(`dayOf_civilOf`), counted in eras of 400 years that begin in March, so that the
leap day is the last of its year.  `toISOString` writes the date and the time of an
instant in fixed fields, and `new Date` reads the instant back (`dateOf_toISOString`)
over the whole range of a `Date`.
-/
import Atrium.Schema

namespace Atrium

set_option autoImplicit false

/-! ## Days and dates -/

structure CivilDate where
  year : Int
  month : Int
  day : Int
  deriving DecidableEq

/-- The day of the era: how many days it began ago. -/
def dayOfEra (days : Int) : Int := (days + 719468) % 146097

/-- The year of the era, from the day of the era. -/
def yearOfEra (doe : Int) : Int := (doe - doe / 1460 + doe / 36524 - doe / 146096) / 365

/-- The day of the year that begins in March. -/
def dayOfYear (doe : Int) : Int :=
  doe - (365 * yearOfEra doe + yearOfEra doe / 4 - yearOfEra doe / 100)

/-- The date of a day of a year that begins in March. -/
def marchDate (marchYear doy : Int) : CivilDate :=
  let mp := (5 * doy + 2) / 153
  let month := if mp < 10 then mp + 3 else mp - 9
  ⟨if month ≤ 2 then marchYear + 1 else marchYear, month, doy - (153 * mp + 2) / 5 + 1⟩

/-- The date of a day counted from 1970-01-01. -/
def civilOf (days : Int) : CivilDate :=
  marchDate (yearOfEra (dayOfEra days) + (days + 719468) / 146097 * 400)
    (dayOfYear (dayOfEra days))

/-- The day of a date, counted from 1970-01-01. -/
def dayOf (year month day : Int) : Int :=
  let marchYear := if month ≤ 2 then year - 1 else year
  let mp := if month ≤ 2 then month + 9 else month - 3
  let yoe := marchYear % 400
  marchYear / 400 * 146097 + (yoe * 365 + yoe / 4 - yoe / 100 + (153 * mp + 2) / 5 + day - 1) -
    719468

theorem yearOfEra_bounds {doe : Int} (least : 0 ≤ doe) (most : doe < 146097) :
    0 ≤ yearOfEra doe ∧ yearOfEra doe < 400 := by
  unfold yearOfEra
  omega

theorem dayOfYear_bounds {doe : Int} (least : 0 ≤ doe) (most : doe < 146097) :
    0 ≤ dayOfYear doe ∧ dayOfYear doe ≤ 365 := by
  unfold dayOfYear
  obtain ⟨yoe, year⟩ : ∃ yoe, yoe = yearOfEra doe := ⟨_, rfl⟩
  rw [← year]
  unfold yearOfEra at year
  -- The three corrections take few values each; with them fixed the goal is linear.
  have centuries : doe / 36524 = 0 ∨ doe / 36524 = 1 ∨ doe / 36524 = 2 ∨ doe / 36524 = 3 ∨
      doe / 36524 = 4 := by omega
  have eras : doe / 146096 = 0 ∨ doe / 146096 = 1 := by omega
  have hundreds : yoe / 100 = 0 ∨ yoe / 100 = 1 ∨ yoe / 100 = 2 ∨ yoe / 100 = 3 := by omega
  rcases centuries with c | c | c | c | c <;> rcases eras with e | e <;>
    rcases hundreds with h | h | h | h <;> rw [c, e] at year <;> rw [h] <;> omega

theorem dayOfEra_bounds (days : Int) : 0 ≤ dayOfEra days ∧ dayOfEra days < 146097 := by
  unfold dayOfEra
  omega

theorem marchDate_bounds (marchYear : Int) {doy : Int} (first : 0 ≤ doy) (last : doy ≤ 365) :
    1 ≤ (marchDate marchYear doy).month ∧ (marchDate marchYear doy).month ≤ 12 ∧
      1 ≤ (marchDate marchYear doy).day ∧ (marchDate marchYear doy).day ≤ 31 := by
  simp only [marchDate]
  split_ifs <;> omega

theorem dayOf_marchDate (marchYear : Int) {doy : Int} (first : 0 ≤ doy) (last : doy ≤ 365) :
    dayOf (marchDate marchYear doy).year (marchDate marchYear doy).month
        (marchDate marchYear doy).day =
      marchYear / 400 * 146097 + (marchYear % 400 * 365 + marchYear % 400 / 4 -
        marchYear % 400 / 100 + doy) - 719468 := by
  by_cases early : (5 * doy + 2) / 153 < 10
  · have month : ¬ (5 * doy + 2) / 153 + 3 ≤ 2 := by omega
    simp only [marchDate, dayOf, early, month, if_true, if_false]
    rw [add_sub_cancel_right]
    omega
  · have month : (5 * doy + 2) / 153 - 9 ≤ 2 := by omega
    simp only [marchDate, dayOf, early, month, if_true, if_false]
    rw [add_sub_cancel_right, sub_add_cancel]
    omega

theorem civilOf_bounds (days : Int) : 1 ≤ (civilOf days).month ∧ (civilOf days).month ≤ 12 ∧
    1 ≤ (civilOf days).day ∧ (civilOf days).day ≤ 31 := by
  obtain ⟨least, most⟩ := dayOfEra_bounds days
  obtain ⟨first, last⟩ := dayOfYear_bounds least most
  exact marchDate_bounds _ first last

/-- **Days and dates.** -/
theorem dayOf_civilOf (days : Int) :
    dayOf (civilOf days).year (civilOf days).month (civilOf days).day = days := by
  obtain ⟨least, most⟩ := dayOfEra_bounds days
  obtain ⟨first, last⟩ := dayOfYear_bounds least most
  obtain ⟨low, high⟩ := yearOfEra_bounds least most
  have era : (yearOfEra (dayOfEra days) + (days + 719468) / 146097 * 400) / 400 =
      (days + 719468) / 146097 := by omega
  have year : (yearOfEra (dayOfEra days) + (days + 719468) / 146097 * 400) % 400 =
      yearOfEra (dayOfEra days) := by omega
  have doy : dayOfYear (dayOfEra days) = dayOfEra days - (365 * yearOfEra (dayOfEra days) +
    yearOfEra (dayOfEra days) / 4 - yearOfEra (dayOfEra days) / 100) := rfl
  have doe : dayOfEra days = (days + 719468) % 146097 := rfl
  unfold civilOf
  rw [dayOf_marchDate _ first last, era, year, doy]
  omega

/-! ## Writing an instant -/

/-- `n` in decimal, zero-padded to `width` digits. -/
def padded (width : Nat) (n : Int) : String :=
  let digits := toString n.toNat
  String.ofList (List.replicate (width - digits.length) '0') ++ digits

/-- The year of an ISO text: four digits, or a sign and six. -/
def isoYear (year : Int) : String :=
  if 0 ≤ year ∧ year ≤ 9999 then padded 4 year
  else if 0 ≤ year then "+" ++ padded 6 year
  else "-" ++ padded 6 (-year)

/-- `toISOString()` of a date in range. -/
def toISOString (t : Instant) : String :=
  let date := civilOf (t / 86400000)
  let ms := t % 86400000
  isoYear date.year ++ "-" ++ padded 2 date.month ++ "-" ++ padded 2 date.day ++ "T" ++
    padded 2 (ms / 3600000) ++ ":" ++ padded 2 (ms / 60000 % 60) ++ ":" ++
    padded 2 (ms / 1000 % 60) ++ "." ++ padded 3 (ms % 1000) ++ "Z"

/-- What a `Date` can hold; `toISOString` throws on anything else. -/
def Instant.isDate (t : Instant) : Bool :=
  decide (-8640000000000000 ≤ t ∧ t ≤ 8640000000000000)

/-! ## Reading it back -/

/-- The number that `width` decimal digits spell, and what follows its end mark. -/
def readField (width : Nat) (mark : Char) (cs : List Char) : Option (Int × List Char) :=
  let digits := cs.take width
  match cs.drop width with
  | c :: rest =>
      if digits.length = width ∧ digits.all Char.isDigit ∧ c = mark then
        some (Nat.ofDigitChars 10 digits 0, rest)
      else none
  | [] => none

def readYear : List Char → Option (Int × List Char)
  | '+' :: cs => readField 6 '-' cs
  | '-' :: cs => (readField 6 '-' cs).map fun r => (-r.1, r.2)
  | cs => readField 4 '-' cs

/-- The instant at which the clock of UTC reads this. -/
def utcInstant (year month day hour minute second : Int) : Instant :=
  (((dayOf year month day * 24 + hour) * 60 + minute) * 60 + second) * 1000

/-- `new Date(text).getTime()`, for a text as `toISOString` writes one. -/
def dateOf (text : String) : Option Instant := do
  let (year, cs) ← readYear text.toList
  let (month, cs) ← readField 2 '-' cs
  let (day, cs) ← readField 2 'T' cs
  let (hour, cs) ← readField 2 ':' cs
  let (minute, cs) ← readField 2 ':' cs
  let (second, cs) ← readField 2 '.' cs
  let (ms, cs) ← readField 3 'Z' cs
  if cs = [] ∧ 1 ≤ month ∧ month ≤ 12 ∧ 1 ≤ day ∧ day ≤ 31 ∧ hour < 24 ∧ minute < 60 ∧ second < 60
  then some (utcInstant year month day hour minute second + ms) else none

/-! ## The fields -/

theorem padded_toList (width : Nat) (n : Int) : (padded width n).toList =
    List.replicate (width - (Nat.toDigits 10 n.toNat).length) '0' ++ Nat.toDigits 10 n.toNat := by
  have digits : toString n.toNat = String.ofList (Nat.toDigits 10 n.toNat) :=
    Nat.toString_eq_ofList_toDigits
  simp only [padded, digits, String.toList_append, String.toList_ofList, String.length_ofList]

theorem padded_digits (width : Nat) (n : Int) :
    ∀ c ∈ (padded width n).toList, c.isDigit = true := by
  intro c among
  rw [padded_toList, List.mem_append] at among
  rcases among with zero | digit
  · rw [List.eq_of_mem_replicate zero]
    decide
  · exact Nat.isDigit_of_mem_toDigits (by decide) (by decide) digit

theorem padded_length {width : Nat} {n : Int} (wide : 0 < width) (most : n < 10 ^ width) :
    (padded width n).toList.length = width := by
  have fits : (Nat.toDigits 10 n.toNat).length ≤ width := by
    rw [Nat.length_toDigits_le_iff (by decide) wide, Int.toNat_lt' (Nat.pow_pos (by decide))]
    exact_mod_cast most
  simp only [padded_toList, List.length_append, List.length_replicate]
  omega

/-- A field that is wide enough for its number reads back as it. -/
theorem readField_padded {width : Nat} {n : Int} (wide : 0 < width) (least : 0 ≤ n)
    (most : n < 10 ^ width) (mark : Char) (rest : List Char) :
    readField width mark ((padded width n).toList ++ mark :: rest) = some (n, rest) := by
  have length := padded_length wide most
  have digits := List.all_eq_true.mpr (padded_digits width n)
  have value : Nat.ofDigitChars 10 (padded width n).toList 0 = n.toNat := by
    simp [padded_toList, Nat.ofDigitChars_append]
  unfold readField
  rw [List.take_left' length, List.drop_left' length]
  simp only [length, digits, value, true_and, if_true, Int.toNat_of_nonneg least]

theorem readYear_digit {c : Char} (digit : c.isDigit = true) (cs : List Char) :
    readYear (c :: cs) = readField 4 '-' (c :: cs) := by
  unfold readYear
  split
  · rename_i same
    cases same
    simp at digit
  · rename_i same
    cases same
    simp at digit
  · rfl

theorem readYear_isoYear {year : Int} (least : -1000000 < year) (most : year < 1000000)
    (rest : List Char) : readYear ((isoYear year).toList ++ '-' :: rest) = some (year, rest) := by
  unfold isoYear
  by_cases short : 0 ≤ year ∧ year ≤ 9999
  · have read := @readField_padded 4 year (by decide) short.1 (by omega) '-' rest
    have length := @padded_length 4 year (by decide) (by omega)
    have digits := padded_digits 4 year
    rw [if_pos short]
    cases text : (padded 4 year).toList with
    | nil => simp [text] at length
    | cons c cs =>
        rw [text] at read digits
        rw [List.cons_append, readYear_digit (digits c List.mem_cons_self)]
        exact read
  · rw [if_neg short]
    by_cases positive : 0 ≤ year
    · have plus : "+".toList = ['+'] := rfl
      have read := @readField_padded 6 year (by decide) positive (by omega) '-' rest
      rw [if_pos positive, String.toList_append, plus, List.cons_append, List.nil_append,
        List.cons_append]
      simp only [readYear, read]
    · have minus : "-".toList = ['-'] := rfl
      have read := @readField_padded 6 (-year) (by decide) (by omega) (by omega) '-' rest
      rw [if_neg positive, String.toList_append, minus, List.cons_append, List.nil_append,
        List.cons_append]
      simp only [readYear, read, Option.map_some, neg_neg]

/-! ## The round trip -/

theorem civilOf_year (days : Int) (least : -200000000 ≤ days) (most : days ≤ 200000000) :
    -1000000 < (civilOf days).year ∧ (civilOf days).year < 1000000 := by
  obtain ⟨low, high⟩ := yearOfEra_bounds (dayOfEra_bounds days).1 (dayOfEra_bounds days).2
  simp only [civilOf, marchDate]
  split_ifs <;> omega

theorem toISOString_toList (t : Instant) : (toISOString t).toList =
    (isoYear (civilOf (t / 86400000)).year).toList ++ '-' ::
      ((padded 2 (civilOf (t / 86400000)).month).toList ++ '-' ::
        ((padded 2 (civilOf (t / 86400000)).day).toList ++ 'T' ::
          ((padded 2 (t % 86400000 / 3600000)).toList ++ ':' ::
            ((padded 2 (t % 86400000 / 60000 % 60)).toList ++ ':' ::
              ((padded 2 (t % 86400000 / 1000 % 60)).toList ++ '.' ::
                ((padded 3 (t % 86400000 % 1000)).toList ++ 'Z' :: [])))))) := by
  have marks : "-".toList = ['-'] ∧ "T".toList = ['T'] ∧ ":".toList = [':'] ∧ ".".toList = ['.'] ∧
      "Z".toList = ['Z'] := ⟨rfl, rfl, rfl, rfl, rfl⟩
  simp only [toISOString, String.toList_append, marks, List.append_assoc, List.cons_append,
    List.nil_append]

/-- **Round trip.**  A date's text reads back as its instant. -/
theorem dateOf_toISOString {t : Int} (inRange : Instant.isDate t = true) :
    dateOf (toISOString t) = some t := by
  obtain ⟨least, most⟩ : -8640000000000000 ≤ t ∧ t ≤ 8640000000000000 := of_decide_eq_true inRange
  obtain ⟨month, month', day, day'⟩ := civilOf_bounds (t / 86400000)
  obtain ⟨year, year'⟩ := civilOf_year (t / 86400000) (by omega) (by omega)
  have date := dayOf_civilOf (t / 86400000)
  unfold dateOf
  rw [toISOString_toList]
  simp only [readYear_isoYear year year', Option.bind_eq_bind, Option.bind_some]
  rw [readField_padded (by decide) (by omega) (by omega)]
  simp only [Option.bind_some]
  rw [readField_padded (by decide) (by omega) (by omega)]
  simp only [Option.bind_some]
  rw [readField_padded (by decide) (by omega) (by omega)]
  simp only [Option.bind_some]
  rw [readField_padded (by decide) (by omega) (by omega)]
  simp only [Option.bind_some]
  rw [readField_padded (by decide) (by omega) (by omega)]
  simp only [Option.bind_some]
  rw [readField_padded (by decide) (by omega) (by omega)]
  simp only [Option.bind_some, utcInstant, date]
  rw [if_pos ⟨trivial, month, month', day, day', by omega, by omega, by omega⟩]
  have whole : (((t / 86400000 * 24 + t % 86400000 / 3600000) * 60 + t % 86400000 / 60000 % 60) * 60 +
      t % 86400000 / 1000 % 60) * 1000 + t % 86400000 % 1000 = t := by omega
  exact congrArg some whole

example : toISOString 1718454645123 = "2024-06-15T12:30:45.123Z" := by decide

end Atrium
