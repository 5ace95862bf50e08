/-
# WallClock -- a clock the reader typed, and the instant it means

The console asks for a local date and a local time, and the API takes an instant.  Both
directions go through the numeric `Date`: `wallClockToInstant` builds one from the fields,
and `instantToWallClock` reads the fields back.  The `Date` rolls fields out of range over,
takes the first of two instants that show one reading, and reads a skipped one with the
offset before the jump (`TimeZone.utc`).

So a typed pair comes back when it names a date and a time of the clock, and an instant
comes back when it is the first to show its reading (`wallClock_roundTrip_iff`).
-/
import Atrium.TimeZone

namespace Atrium

open Atrium.Base.StepFunction

set_option autoImplicit false

/-! ## The local `Date` -/

namespace TimeZone

variable {z : TimeZone}

/-- The instant of a local reading: the first that shows it, or, where the clock skips it,
the one it comes to with the offset before the jump. -/
def utc (z : TimeZone) (reading : Int) : Int :=
  let early := reading - z.offset (reading - dayMs)
  let late := reading - z.offset (reading + dayMs)
  if z.wall early = reading ∨ z.wall late ≠ reading then early else late

/-- The clock skips the reading, by a jump of less than a minute. -/
def SkipsBriefly (z : TimeZone) (reading : Int) : Prop :=
  ∃ at_ : Int, z.wall (at_ - 1) < reading ∧ reading < z.wall at_ ∧
    z.offset at_ - z.offset (at_ - 1) < 60000

section Around

variable {reading at_ before after : Int} (near : z.Around reading at_ before after)

include near

theorem Around.utc : z.utc reading =
    if reading - before < at_ ∨ reading - after < at_ then reading - before
    else reading - after := by
  have low := abs_lt.mp near.early
  have high := abs_lt.mp near.late
  have first := near.step (reading - 86400000) (by omega) (by omega)
  have last := near.step (reading + 86400000) (by omega) (by omega)
  unfold TimeZone.utc
  simp only [dayMs, near.wall_eq_iff, ne_eq]
  rw [first, last]
  -- A jump that is not within a day leaves one offset in sight.
  by_cases early : reading - 86400000 < at_
  · by_cases late : reading + 86400000 < at_
    · rw [if_pos early, if_pos late]
      split_ifs <;> omega
    · rw [if_pos early, if_neg late]
      split_ifs <;> omega
  · have late : ¬ reading + 86400000 < at_ := by omega
    rw [if_neg early, if_neg late]
    split_ifs <;> omega

/-- What the clock shows at the instant of a reading. -/
theorem Around.wall_utc : z.wall (z.utc reading) =
    if at_ ≤ reading - before ∧ reading - after < at_ then reading - before + after
    else reading := by
  have low := abs_lt.mp near.early
  rw [near.utc]
  by_cases first : reading - before < at_
  · rw [if_pos (.inl first), if_neg (fun skipped => absurd first (not_lt.mpr skipped.1))]
    exact near.wall_eq_iff.mpr (.inl ⟨rfl, first⟩)
  · by_cases second : reading - after < at_
    · rw [if_pos (.inr second), if_pos ⟨not_lt.mp first, second⟩]
      show reading - before + z.offset (reading - before) = reading - before + after
      rw [near.step _ (by omega) (by omega), if_neg first]
    · rw [if_neg (not_or.mpr ⟨first, second⟩), if_neg (fun skipped => second skipped.2)]
      exact near.wall_eq_iff.mpr (.inr ⟨rfl, not_lt.mp second⟩)

/-- Across a jump that skips the reading, the offsets are the two around it. -/
theorem Around.skip_eq {t : Int} (least : z.wall (t - 1) < reading) (most : reading < z.wall t) :
    t = at_ ∧ z.offset (t - 1) = before ∧ z.offset t = after := by
  have near_ := z.wall_near (t - 1)
  have near' := z.wall_near t
  have jump : Jump z.offset t := by
    intro same
    simp only [wall, same] at least most
    omega
  exact near.jump_eq (by omega) (by omega) jump

theorem Around.skipsBriefly (first : at_ ≤ reading - before) (second : reading - after < at_) :
    z.SkipsBriefly reading ↔ after - before < 60000 := by
  have low := abs_lt.mp near.early
  have high := abs_lt.mp near.late
  have previous := near.step (at_ - 1) (by omega) (by omega)
  have here := near.step at_ (by omega) (by omega)
  rw [if_pos (by omega)] at previous
  rw [if_neg (lt_irrefl _)] at here
  constructor
  · rintro ⟨t, least, most, brief⟩
    obtain ⟨-, sameBefore, sameAfter⟩ := near.skip_eq least most
    rw [sameBefore, sameAfter] at brief
    exact brief
  · intro brief
    refine ⟨at_, ?_, ?_, ?_⟩
    · rw [wall, previous]
      omega
    · rw [wall, here]
      omega
    · rw [previous, here]
      exact brief

end Around

variable (z) in
/-- The first instant that shows a reading, where one does. -/
theorem isLeast_utc {reading : Int} (occurs : ∃ t, z.wall t = reading) :
    IsLeast {t : Int | z.wall t = reading} (z.utc reading) := by
  obtain ⟨at_, before, after, near⟩ := z.around reading
  obtain ⟨t, here⟩ := occurs
  have shown := near.wall_eq_iff.mp here
  have value := near.utc
  constructor
  · show z.wall (z.utc reading) = reading
    rw [near.wall_utc, if_neg (by omega)]
  · intro t' there
    have shown' := near.wall_eq_iff.mp there
    rw [value]
    split_ifs <;> omega

variable (z) in
/-- **The reading comes back**: to the minute, the instant of a reading shows it when some
instant does, or when the jump that skips it is shorter than a minute. -/
theorem wall_utc_iff {reading : Int} (minute : reading % 60000 = 0) :
    z.wall (z.utc reading) / 60000 = reading / 60000 ↔
      (∃ t, z.wall t = reading) ∨ z.SkipsBriefly reading := by
  obtain ⟨at_, before, after, near⟩ := z.around reading
  rw [near.wall_utc]
  by_cases skipped : at_ ≤ reading - before ∧ reading - after < at_
  · rw [if_pos skipped, near.skipsBriefly skipped.1 skipped.2]
    have none_ : ¬ ∃ t, z.wall t = reading := by
      rintro ⟨t, here⟩
      have shown := near.wall_eq_iff.mp here
      omega
    constructor
    · intro same
      exact .inr (by omega)
    · rintro (occurs | brief)
      · exact absurd occurs none_
      · omega
  · rw [if_neg skipped]
    refine iff_of_true rfl (.inl ?_)
    by_cases first : reading - before < at_
    · exact ⟨_, near.wall_eq_iff.mpr (.inl ⟨rfl, first⟩)⟩
    · exact ⟨_, near.wall_eq_iff.mpr (.inr ⟨rfl, by omega⟩)⟩

/-- The instant is the first to show its reading. -/
def First (z : TimeZone) (t : Int) : Prop := ∀ t' : Int, t' < t → z.wall t' ≠ z.wall t

/-- The instant comes after a jump, by less than the jump is long, and the clock shows as
much past the whole minute. -/
def JustAfter (z : TimeZone) (t : Int) : Prop :=
  ∃ at_ : Int, at_ ≤ t ∧ t < at_ + (z.offset at_ - z.offset (at_ - 1)) ∧
    z.wall t % 60000 = z.offset at_ - z.offset (at_ - 1)

variable (z) in
/-- **The instant comes back** from the whole minute its clock shows. -/
theorem utc_wall_iff (t : Int) : z.utc (z.wall t / 60000 * 60000) = t ↔
    (z.wall t % 60000 = 0 ∧ z.First t) ∨ z.JustAfter t := by
  obtain ⟨reading, named⟩ : ∃ reading, reading = z.wall t / 60000 * 60000 := ⟨_, rfl⟩
  obtain ⟨at_, before, after, near⟩ := z.around reading
  have low := abs_lt.mp near.early
  have high := abs_lt.mp near.late
  have value := near.utc
  have shown := near.wall_utc
  rw [← named]
  constructor
  · intro back
    rw [back] at value shown
    by_cases skipped : at_ ≤ reading - before ∧ reading - after < at_
    · have previous := near.step (at_ - 1) (by omega) (by omega)
      have here := near.step at_ (by omega) (by omega)
      rw [if_pos (by omega)] at previous
      rw [if_neg (lt_irrefl _)] at here
      rw [if_pos skipped] at shown
      rw [if_pos (.inr skipped.2)] at value
      refine .inr ⟨at_, by omega, ?_, ?_⟩
      · rw [here, previous]
        omega
      · rw [here, previous]
        omega
    · rw [if_neg skipped] at shown
      refine .inl ⟨by omega, ?_⟩
      intro t' earlier same
      have least := (z.isLeast_utc ⟨t, shown⟩).2 (same.trans shown)
      rw [back] at least
      omega
  · rintro (⟨whole, first⟩ | ⟨jump, least, most, past⟩)
    · have same : z.wall t = reading := by omega
      have found := z.isLeast_utc ⟨t, same⟩
      have most : z.utc reading ≤ t := found.2 same
      by_contra other
      have earlier : z.utc reading < t := lt_of_le_of_ne most other
      exact first _ earlier (found.1.trans same.symm)
    · have offset : z.offset t = z.offset jump := by
        refine (Calm.value ?_ least le_rfl)
        intro s after_ before_ jump'
        have apart := z.isolated jump s (by intro same; omega) jump' after_
        omega
      have here : z.wall t = t + z.offset jump := by rw [wall, offset]
      have bound := abs_lt.mp (z.bounded jump)
      have bound' := abs_lt.mp (z.bounded (jump - 1))
      obtain ⟨rfl, sameBefore, sameAfter⟩ := near.jump_eq (t := jump) (by omega) (by omega)
        (by intro same; omega)
      rw [value, if_pos (by omega)]
      omega

/-- The day of a date, counted from 1970-01-01; a month out of range is one of another year. -/
def makeDay (year month day : Int) : Int :=
  dayOf (year + (month - 1) / 12) ((month - 1) % 12 + 1) day

/-- What the fields read; a year below 100 is one of the twentieth century. -/
def localReading (year month day hour minute : Int) : Int :=
  ((makeDay (if 0 ≤ year ∧ year ≤ 99 then 1900 + year else year) month day * 24 + hour) * 60 +
    minute) * 60000

/-- `new Date(year, month - 1, day, hour, minute, 0, 0)`, where that is a date in range. -/
def date (z : TimeZone) (year month day hour minute : Int) : Option Instant :=
  let t := z.utc (localReading year month day hour minute)
  if Instant.isDate t then some t else none

end TimeZone

/-! ## The two functions -/

structure WallClock where
  /-- `YYYY-MM-DD`, as a `date` input produces. -/
  date : String
  /-- `HH:MM`, 24 hour. -/
  time : String
  deriving DecidableEq

/-- `Partial<WallClock>`. -/
structure PartialWallClock where
  date : Option String
  time : Option String

def WallClock.full (wall : WallClock) : PartialWallClock := ⟨some wall.date, some wall.time⟩

/-- `Number(text)`, for a text of decimal digits. -/
def numberOf (digits : List Char) : Option Int :=
  if digits.all Char.isDigit then some (Nat.ofDigitChars 10 digits 0) else none

def wallClockToInstant (z : TimeZone) (wall : PartialWallClock) : Option String :=
  match wall.date, wall.time with
  | some date, some time =>
      if date = "" ∨ time = "" then none
      else
        match (date.toList.splitOn '-').map numberOf, (time.toList.splitOn ':').map numberOf with
        | [some year, some month, some day], some hour :: some minute :: _ =>
            (z.date year month day hour minute).map toISOString
        | _, _ => none
  | _, _ => none

/-- The texts of a local date and time; the year is not padded. -/
def WallClock.ofParts (p : LocalParts) : WallClock where
  date := toString p.year ++ "-" ++ padded 2 p.month ++ "-" ++ padded 2 p.day
  time := padded 2 p.hour ++ ":" ++ padded 2 p.minute

def instantToWallClock (z : TimeZone) (iso : String) : Option WallClock :=
  (dateOf iso).map fun t => .ofParts (z.clock t)

/-- A date of the form `YYYY-MM-DD` and a time of the form `HH:MM`. -/
structure TypedClock where
  year : Fin 10000
  month : Fin 100
  day : Fin 100
  hour : Fin 100
  minute : Fin 100

def TypedClock.wallClock (typed : TypedClock) : WallClock where
  date := padded 4 typed.year ++ "-" ++ padded 2 typed.month ++ "-" ++ padded 2 typed.day
  time := padded 2 typed.hour ++ ":" ++ padded 2 typed.minute

/-- The reading of the fields, taken as they are. -/
def TypedClock.reading (typed : TypedClock) : Int :=
  utcInstant typed.year typed.month typed.day typed.hour typed.minute 0

/-! ## The texts -/

theorem numberOf_padded (width : Nat) {n : Int} (least : 0 ≤ n) :
    numberOf (padded width n).toList = some n := by
  have digits := List.all_eq_true.mpr (padded_digits width n)
  have value : Nat.ofDigitChars 10 (padded width n).toList 0 = n.toNat := by
    simp [padded_toList, Nat.ofDigitChars_append]
  rw [numberOf, if_pos digits, value, Int.toNat_of_nonneg least]

theorem toString_year {year : Int} (least : 0 ≤ year) : toString year = padded 1 year := by
  obtain ⟨n, rfl⟩ := Int.eq_ofNat_of_zero_le least
  have nonempty : 0 < (Nat.toDigits 10 n).length := by
    rw [← not_le, Nat.le_zero, List.length_eq_zero_iff]
    exact Nat.toDigits_ne_nil
  have text : (toString (n : Int)).toList = Nat.toDigits 10 n := by
    show (toString n).toList = _
    rw [Nat.toString_eq_ofList_toDigits, String.toList_ofList]
  rw [← String.toList_inj, padded_toList, text, Int.toNat_natCast,
    Nat.sub_eq_zero_of_le nonempty, List.replicate_zero, List.nil_append]

/-- A year is written with four digits from 1000 on. -/
theorem toString_year_iff {year : Nat} (most : year < 10000) :
    toString (year : Int) = padded 4 year ↔ 1000 ≤ year := by
  have long : 3 < (Nat.toDigits 10 year).length ↔ 1000 ≤ year := by
    rw [← not_le, Nat.length_toDigits_le_iff (by decide) (by decide)]
    omega
  rw [toString_year (by omega), ← String.toList_inj, padded_toList, padded_toList,
    List.append_cancel_right_eq, Int.toNat_natCast, List.replicate_inj]
  omega

theorem not_mem_padded {mark : Char} (other : mark.isDigit = false) (width : Nat) (n : Int) :
    mark ∉ (padded width n).toList := by
  intro among
  rw [padded_digits width n mark among] at other
  cases other

theorem dateParts_padded (w : Nat) (year month day : Int) :
    (padded w year ++ "-" ++ padded 2 month ++ "-" ++ padded 2 day).toList.splitOn '-' =
      [(padded w year).toList, (padded 2 month).toList, (padded 2 day).toList] := by
  have mark : "-".toList = ['-'] := rfl
  have clean := @not_mem_padded '-' rfl
  simp only [String.toList_append, mark, List.append_assoc, List.cons_append, List.nil_append]
  rw [List.splitOn_append_cons_self_of_not_mem (clean w year),
    List.splitOn_append_cons_self_of_not_mem (clean 2 month), List.splitOn_eq_singleton (clean 2 day)]

theorem timeParts_padded (hour minute : Int) :
    (padded 2 hour ++ ":" ++ padded 2 minute).toList.splitOn ':' =
      [(padded 2 hour).toList, (padded 2 minute).toList] := by
  have mark : ":".toList = [':'] := rfl
  have clean := @not_mem_padded ':' rfl
  simp only [String.toList_append, mark, List.append_assoc, List.cons_append, List.nil_append]
  rw [List.splitOn_append_cons_self_of_not_mem (clean 2 hour),
    List.splitOn_eq_singleton (clean 2 minute)]

/-- The sign of a year before the first is one more separator. -/
theorem dateParts_negative {year : Int} (negative : year < 0) (month day : Int) :
    (toString year ++ "-" ++ padded 2 month ++ "-" ++ padded 2 day).toList.splitOn '-' =
      [[], (padded 1 (-year)).toList, (padded 2 month).toList, (padded 2 day).toList] := by
  have sign : (toString year).toList = '-' :: (padded 1 (-year)).toList := by
    obtain ⟨n, rfl⟩ := Int.eq_negSucc_of_lt_zero negative
    rw [← toString_year (by omega), Int.neg_negSucc]
    show ("-" ++ toString (n + 1)).toList = '-' :: (toString (n + 1)).toList
    rw [String.toList_append]
    rfl
  have mark : "-".toList = ['-'] := rfl
  have clean := @not_mem_padded '-' rfl
  simp only [String.toList_append, mark, sign, List.append_assoc, List.cons_append, List.nil_append]
  have first := @List.splitOn_append_cons_self_of_not_mem _ [] _ _ '-' List.not_mem_nil
  simp only [List.nil_append] at first
  rw [first, List.splitOn_append_cons_self_of_not_mem (clean 1 (-year)),
    List.splitOn_append_cons_self_of_not_mem (clean 2 month), List.splitOn_eq_singleton (clean 2 day)]

theorem wallClockToInstant_padded (z : TimeZone) (w : Nat) {year month day hour minute : Int}
    (years : 0 ≤ year) (months : 0 ≤ month) (days : 0 ≤ day) (hours : 0 ≤ hour)
    (minutes : 0 ≤ minute) :
    wallClockToInstant z
      ⟨some (padded w year ++ "-" ++ padded 2 month ++ "-" ++ padded 2 day),
        some (padded 2 hour ++ ":" ++ padded 2 minute)⟩ =
      (z.date year month day hour minute).map toISOString := by
  have typed : ¬ (padded w year ++ "-" ++ padded 2 month ++ "-" ++ padded 2 day = "" ∨
      padded 2 hour ++ ":" ++ padded 2 minute = "") := by
    simp [String.append_eq_empty_iff]
  simp only [wallClockToInstant, if_neg typed, dateParts_padded, timeParts_padded, List.map_cons,
    List.map_nil, numberOf_padded _ years, numberOf_padded _ months, numberOf_padded _ days,
    numberOf_padded _ hours, numberOf_padded _ minutes]

/-- The texts of a local date are read back, unless the sign of a year before the first
leaves the date in four parts. -/
theorem wallClockToInstant_ofParts (z : TimeZone) {p : LocalParts} (months : 0 ≤ p.month)
    (days : 0 ≤ p.day) (hours : 0 ≤ p.hour) (minutes : 0 ≤ p.minute) :
    wallClockToInstant z (WallClock.ofParts p).full =
      if p.year < 0 then none
      else (z.date p.year p.month p.day p.hour p.minute).map toISOString := by
  by_cases negative : p.year < 0
  · have sign : numberOf [] = some 0 := rfl
    have number := numberOf_padded 1 (show 0 ≤ -p.year by omega)
    rw [if_pos negative]
    simp only [WallClock.full, WallClock.ofParts, wallClockToInstant, dateParts_negative negative,
      timeParts_padded, List.map_cons, List.map_nil, sign, number, numberOf_padded 2 months,
      numberOf_padded 2 days, ite_self]
  · have year : 0 ≤ p.year := not_lt.mp negative
    rw [if_neg negative, ← wallClockToInstant_padded z 1 year months days hours minutes,
      ← toString_year year]
    rfl

theorem padded_inj {width : Nat} {m n : Int} (least : 0 ≤ m) (least' : 0 ≤ n)
    (same : (padded width m).toList = (padded width n).toList) : m = n := by
  have number := numberOf_padded width least
  rw [same, numberOf_padded width least'] at number
  exact (Option.some.inj number).symm

/-- **What a clock has to show for its texts to be the typed ones.** -/
theorem ofParts_eq_iff (typed : TypedClock) {p : LocalParts} (months : 0 ≤ p.month)
    (days : 0 ≤ p.day) (hours : 0 ≤ p.hour) (minutes : 0 ≤ p.minute) :
    WallClock.ofParts p = typed.wallClock ↔ 1000 ≤ typed.year.val ∧
      p.year = typed.year.val ∧ p.month = typed.month.val ∧ p.day = typed.day.val ∧
      p.hour = typed.hour.val ∧ p.minute = typed.minute.val := by
  constructor
  · intro same
    have dates := congrArg (fun w : WallClock => w.date.toList.splitOn '-') same
    have times := congrArg (fun w : WallClock => w.time.toList.splitOn ':') same
    simp only [WallClock.ofParts, TypedClock.wallClock, dateParts_padded] at dates
    simp only [WallClock.ofParts, TypedClock.wallClock, timeParts_padded] at times
    by_cases negative : p.year < 0
    · rw [dateParts_negative negative] at dates
      exact absurd (congrArg List.length dates) (by simp)
    · have positive : 0 ≤ p.year := not_lt.mp negative
      rw [toString_year positive, dateParts_padded] at dates
      simp only [List.cons.injEq, and_true] at dates times
      obtain ⟨years, months', days'⟩ := dates
      have year : p.year = typed.year.val := by
        have number := numberOf_padded 1 positive
        rw [years, numberOf_padded 4 (by omega)] at number
        exact (Option.some.inj number).symm
      rw [year, ← toString_year (by omega), String.toList_inj,
        toString_year_iff typed.year.isLt] at years
      exact ⟨years, year, padded_inj months (by omega) months', padded_inj days (by omega) days',
        padded_inj hours (by omega) times.1, padded_inj minutes (by omega) times.2⟩
  · rintro ⟨long, year, month, day, hour, minute⟩
    simp only [WallClock.ofParts, TypedClock.wallClock, year, month, day, hour, minute,
      (toString_year_iff typed.year.isLt).mpr long]

/-! ## Where they are inverse -/

theorem TimeZone.utc_near (z : TimeZone) (reading : Int) :
    reading - 86400000 < z.utc reading ∧ z.utc reading < reading + 86400000 := by
  have early := abs_lt.mp (z.bounded (reading - dayMs))
  have late := abs_lt.mp (z.bounded (reading + dayMs))
  have cases_ : z.utc reading = reading - z.offset (reading - dayMs) ∨
      z.utc reading = reading - z.offset (reading + dayMs) := by
    unfold TimeZone.utc
    simp only
    split_ifs
    · exact .inl rfl
    · exact .inr rfl
  rcases cases_ with value | value <;> rw [value] <;> constructor <;> linarith

theorem TimeZone.makeDay_bounds {year month day : Int} (years : 0 ≤ year ∧ year < 10000)
    (months : 0 ≤ month ∧ month < 100) (days : 0 ≤ day ∧ day < 100) :
    -1000000 < makeDay year month day ∧ makeDay year month day < 4000000 := by
  simp only [makeDay, dayOf]
  split_ifs <;> omega

/-- The reading that the `Date` is built from. -/
def TypedClock.rolled (typed : TypedClock) : Int :=
  TimeZone.localReading typed.year.val typed.month.val typed.day.val typed.hour.val typed.minute.val

/-- Four digits of a year are far inside the range of a `Date`. -/
theorem TypedClock.isDate (z : TimeZone) (typed : TypedClock) :
    Instant.isDate (z.utc typed.rolled) = true := by
  have bounds : -100000000000000 < typed.rolled ∧ typed.rolled < 400000000000000 := by
    have day := @TimeZone.makeDay_bounds
      (if 0 ≤ (typed.year.val : Int) ∧ (typed.year.val : Int) ≤ 99 then 1900 + typed.year.val
        else typed.year.val) typed.month.val typed.day.val
      (by split_ifs <;> omega) (by omega) (by omega)
    rw [TypedClock.rolled, TimeZone.localReading]
    omega
  have near := z.utc_near typed.rolled
  apply decide_eq_true
  show -8640000000000000 ≤ z.utc typed.rolled ∧ z.utc typed.rolled ≤ 8640000000000000
  omega

/-- The fields of a reading, taken as a local date, read what it shows to the minute. -/
theorem localReading_utcZone {x : Int} (modern : 100 ≤ (utcZone x).year) :
    TimeZone.localReading (utcZone x).year (utcZone x).month (utcZone x).day (utcZone x).hour
      (utcZone x).minute = x / 60000 * 60000 := by
  have bounds := civilOf_bounds (x / 86400000)
  have day := dayOf_civilOf (x / 86400000)
  have month : 1 ≤ (utcZone x).month ∧ (utcZone x).month ≤ 12 := ⟨bounds.1, bounds.2.1⟩
  have year : (utcZone x).year + ((utcZone x).month - 1) / 12 = (utcZone x).year := by omega
  have month' : ((utcZone x).month - 1) % 12 + 1 = (utcZone x).month := by omega
  have fields : ∀ x : Int, ((x / 86400000 * 24 + x % 86400000 / 3600000) * 60 +
      x % 86400000 / 60000 % 60) * 60000 = x / 60000 * 60000 := by omega
  rw [TimeZone.localReading, if_neg (by omega), TimeZone.makeDay, year, month']
  simp only [utcZone, day]
  exact fields x

/-- The pair comes back from the instant it is accepted for. -/
def RoundTrips (z : TimeZone) (wall : WallClock) : Prop :=
  ∀ iso, wallClockToInstant z wall.full = some iso → instantToWallClock z iso = some wall

/-- The instant comes back from the pair that names it. -/
def ComesBack (z : TimeZone) (t : Instant) : Prop :=
  ∃ wall, instantToWallClock z (toISOString t) = some wall ∧
    wallClockToInstant z wall.full = some (toISOString t)

/-- The fields are those of a date of the calendar, in a year of four digits, and of a time
of its day. -/
def TypedClock.Real (typed : TypedClock) : Prop :=
  1000 ≤ typed.year.val ∧ (∃ day, civilOf day = ⟨typed.year.val, typed.month.val, typed.day.val⟩) ∧
    typed.hour.val < 24 ∧ typed.minute.val < 60

theorem instantToWallClock_text {z : TimeZone} {t : Int} (inRange : Instant.isDate t = true) :
    instantToWallClock z (toISOString t) = some (.ofParts (utcZone (z.wall t))) := by
  rw [instantToWallClock, dateOf_toISOString inRange]
  rfl

theorem utcZone_nonneg (x : Int) : 0 ≤ (utcZone x).month ∧ 0 ≤ (utcZone x).day ∧
    0 ≤ (utcZone x).hour ∧ 0 ≤ (utcZone x).minute := by
  have bounds := civilOf_bounds (x / 86400000)
  refine ⟨by exact le_trans (by decide) bounds.1, by exact le_trans (by decide) bounds.2.2.1, ?_, ?_⟩
  · show 0 ≤ x % 86400000 / 3600000
    omega
  · show 0 ≤ x % 86400000 / 60000 % 60
    omega

theorem TypedClock.rolled_eq {typed : TypedClock} (year : 1000 ≤ typed.year.val)
    (month : 1 ≤ typed.month.val ∧ typed.month.val ≤ 12) : typed.rolled = typed.reading := by
  have sameYear : (typed.year.val : Int) + ((typed.month.val : Int) - 1) / 12 = typed.year.val := by
    omega
  have sameMonth : ((typed.month.val : Int) - 1) % 12 + 1 = typed.month.val := by omega
  rw [rolled, TimeZone.localReading, if_neg (by omega), TimeZone.makeDay, sameYear, sameMonth,
    reading, utcInstant]
  omega

/-- **A typed clock comes back** when its fields are real and the clock shows them. -/
theorem TypedClock.roundTrips_iff (z : TimeZone) (typed : TypedClock) :
    RoundTrips z typed.wallClock ↔
      typed.Real ∧ ((∃ t, z.wall t = typed.reading) ∨ z.SkipsBriefly typed.reading) := by
  have accepted : wallClockToInstant z typed.wallClock.full =
      some (toISOString (z.utc typed.rolled)) := by
    have inRange := typed.isDate z
    have date : z.date typed.year.val typed.month.val typed.day.val typed.hour.val
        typed.minute.val = some (z.utc typed.rolled) := by
      rw [TimeZone.date]
      exact if_pos inRange
    have fields := @wallClockToInstant_padded z 4 typed.year.val typed.month.val typed.day.val
      typed.hour.val typed.minute.val (by omega) (by omega) (by omega) (by omega) (by omega)
    rw [date] at fields
    exact fields
  obtain ⟨W, shown⟩ : ∃ W, W = z.wall (z.utc typed.rolled) := ⟨_, rfl⟩
  have back : RoundTrips z typed.wallClock ↔ WallClock.ofParts (utcZone W) = typed.wallClock := by
    have read := instantToWallClock_text (z := z) (typed.isDate z)
    rw [← shown] at read
    constructor
    · intro trip
      have same := trip _ accepted
      rw [read] at same
      exact Option.some.inj same
    · intro same iso taken
      rw [accepted] at taken
      rw [← Option.some.inj taken, read, same]
  obtain ⟨months, days, hours, minutes⟩ := utcZone_nonneg W
  rw [back, ofParts_eq_iff typed months days hours minutes]
  constructor
  · rintro ⟨long, year, month, day, hour, minute⟩
    have read := localReading_utcZone (x := W) (by omega)
    have bounds := civilOf_bounds (W / 86400000)
    have inYear : 1 ≤ (utcZone W).month ∧ (utcZone W).month ≤ 12 := ⟨bounds.1, bounds.2.1⟩
    have calendar := typed.rolled_eq long (by omega)
    have hour' : (utcZone W).hour = W % 86400000 / 3600000 := rfl
    have minute' : (utcZone W).minute = W % 86400000 / 60000 % 60 := rfl
    rw [year, month, day, hour, minute] at read
    have rolled : typed.rolled = W / 60000 * 60000 := read
    have same : z.wall (z.utc typed.rolled) / 60000 = typed.rolled / 60000 := by omega
    rw [z.wall_utc_iff (by omega), calendar] at same
    refine ⟨⟨long, ⟨W / 86400000, ?_⟩, by omega, by omega⟩, same⟩
    rw [← year, ← month, ← day]
    rfl
  · rintro ⟨⟨long, ⟨n, named⟩, hour, minute⟩, occurs⟩
    have bounds := civilOf_bounds n
    have date := dayOf_civilOf n
    rw [named] at bounds date
    have inYear : 1 ≤ (typed.month.val : Int) ∧ (typed.month.val : Int) ≤ 12 :=
      ⟨bounds.1, bounds.2.1⟩
    have calendar := typed.rolled_eq long (by omega)
    have value : typed.reading = ((n * 24 + typed.hour.val) * 60 + typed.minute.val) * 60000 := by
      rw [TypedClock.reading, utcInstant, date]
      omega
    rw [← calendar, ← z.wall_utc_iff (by omega), ← shown, calendar, value] at occurs
    have onDay : W / 86400000 = n := by omega
    have year' : (utcZone W).year = (civilOf (W / 86400000)).year := rfl
    have month' : (utcZone W).month = (civilOf (W / 86400000)).month := rfl
    have day' : (utcZone W).day = (civilOf (W / 86400000)).day := rfl
    rw [onDay, named] at year' month' day'
    refine ⟨long, year', month', day', ?_, ?_⟩
    · show W % 86400000 / 3600000 = _
      omega
    · show W % 86400000 / 60000 % 60 = _
      omega

/-- A year below 100 is taken for one of the twentieth century, which is far from its own. -/
theorem utc_early {z : TimeZone} {t : Int} (least : 0 ≤ (utcZone (z.wall t)).year)
    (early : (utcZone (z.wall t)).year < 100) :
    z.utc (TimeZone.localReading (utcZone (z.wall t)).year (utcZone (z.wall t)).month
      (utcZone (z.wall t)).day (utcZone (z.wall t)).hour (utcZone (z.wall t)).minute) ≠ t := by
  obtain ⟨W, named⟩ : ∃ W, W = z.wall t := ⟨_, rfl⟩
  rw [← named] at least early ⊢
  have bounds := civilOf_bounds (W / 86400000)
  have month : 1 ≤ (utcZone W).month ∧ (utcZone W).month ≤ 12 := ⟨bounds.1, bounds.2.1⟩
  have day : 1 ≤ (utcZone W).day ∧ (utcZone W).day ≤ 31 := ⟨bounds.2.2.1, bounds.2.2.2⟩
  obtain ⟨-, -, hour, minute⟩ := utcZone_nonneg W
  have here : dayOf (utcZone W).year (utcZone W).month (utcZone W).day = W / 86400000 :=
    dayOf_civilOf _
  have before := dayOf_lt_of_year early month (n := 1) (by decide) day (e := 1) (by decide)
  have hundred : dayOf 100 1 1 = -683003 := by decide
  have after := @dayOf_lt_of_year 1899 (1900 + (utcZone W).year) 12 (utcZone W).month 31
    (utcZone W).day (by omega) (by decide) month (by decide) day
  have century : dayOf 1899 12 31 = -25568 := by decide
  have year' : 1900 + (utcZone W).year + ((utcZone W).month - 1) / 12 = 1900 + (utcZone W).year := by
    omega
  have month' : ((utcZone W).month - 1) % 12 + 1 = (utcZone W).month := by omega
  obtain ⟨reading, read⟩ : ∃ reading, reading = TimeZone.localReading (utcZone W).year
    (utcZone W).month (utcZone W).day (utcZone W).hour (utcZone W).minute := ⟨_, rfl⟩
  have near := z.utc_near reading
  have wall := z.wall_near t
  rw [← read]
  rw [TimeZone.localReading, if_pos ⟨least, by omega⟩, TimeZone.makeDay, year', month'] at read
  omega

/-- A date has its text to itself. -/
theorem dateText_iff {u t : Int} (inRange : Instant.isDate t = true) :
    (if Instant.isDate u = true then some u else none).map toISOString = some (toISOString t) ↔
      u = t := by
  constructor
  · intro same
    by_cases held : Instant.isDate u = true
    · rw [if_pos held, Option.map_some, Option.some.injEq] at same
      have read := dateOf_toISOString held
      rw [same, dateOf_toISOString inRange] at read
      exact (Option.some.inj read).symm
    · rw [if_neg held] at same
      cases same
  · rintro rfl
    rw [if_pos inRange, Option.map_some]

/-- **An instant comes back** when it is the first that its clock shows so. -/
theorem comesBack_iff (z : TimeZone) {t : Int} (inRange : Instant.isDate t = true) :
    ComesBack z t ↔ 100 ≤ (utcZone (z.wall t)).year ∧
      ((z.wall t % 60000 = 0 ∧ z.First t) ∨ z.JustAfter t) := by
  obtain ⟨months, days, hours, minutes⟩ := utcZone_nonneg (z.wall t)
  have back : ComesBack z t ↔
      wallClockToInstant z (WallClock.ofParts (utcZone (z.wall t))).full = some (toISOString t) := by
    rw [ComesBack, instantToWallClock_text inRange]
    simp
  rw [back, wallClockToInstant_ofParts z months days hours minutes]
  by_cases negative : (utcZone (z.wall t)).year < 0
  · rw [if_pos negative]
    refine iff_of_false ?_ (by omega)
    intro taken
    cases taken
  · rw [if_neg negative, TimeZone.date, dateText_iff inRange]
    by_cases modern : 100 ≤ (utcZone (z.wall t)).year
    · rw [localReading_utcZone modern, z.utc_wall_iff t]
      simp only [modern, true_and]
    · exact iff_of_false (utc_early (not_lt.mp negative) (not_le.mp modern))
        (fun served => modern served.1)

/-- **Where the two are inverse.**  A typed clock comes back exactly when it names a date in
a year of four digits and a time of that day that the clock shows, or skips by less than a
minute; an instant exactly when its year is not taken for one of the twentieth century and
it is the first that its clock shows so, on the minute, or just after such a short jump. -/
theorem wallClock_roundTrip_iff (z : TimeZone) (typed : TypedClock) (t : Int)
    (inRange : Instant.isDate t = true) :
    (RoundTrips z typed.wallClock ↔
      typed.Real ∧ ((∃ t, z.wall t = typed.reading) ∨ z.SkipsBriefly typed.reading)) ∧
    (ComesBack z t ↔ 100 ≤ (utcZone (z.wall t)).year ∧
      ((z.wall t % 60000 = 0 ∧ z.First t) ∨ z.JustAfter t)) :=
  ⟨typed.roundTrips_iff z, comesBack_iff z inRange⟩

/-- Half past two of a summer afternoon comes back, both ways. -/
theorem wallClock_roundTrip_june : RoundTrips Sample.london ⟨"2025-06-15", "14:30"⟩ ∧
    ComesBack Sample.london 1749994200000 := by
  have settled := wallClock_roundTrip_iff Sample.london ⟨2025, 6, 15, 14, 30⟩ 1749994200000
    (by decide)
  refine ⟨settled.1.mpr ⟨⟨by decide, ⟨20254, by decide⟩, by decide, by decide⟩,
    .inl ⟨1749994200000, by decide⟩⟩, settled.2.mpr ⟨by decide, .inl ⟨by decide, ?_⟩⟩⟩
  intro t earlier
  rw [Sample.london_wall, Sample.london_wall]
  split_ifs <;> omega

/-- Half past one of the night the clock goes forward is read back as half past two. -/
theorem wallClock_roundTrip_refuted : ¬ ∀ (z : TimeZone) (typed : TypedClock) (t : Int),
    Instant.isDate t = true → t % 60000 = 0 → RoundTrips z typed.wallClock ∧ ComesBack z t := by
  intro claim
  have trip := (claim Sample.london ⟨2025, 3, 30, 1, 30⟩ 0 (by decide) (by decide)).1
  have accepted : wallClockToInstant Sample.london
      (TypedClock.wallClock ⟨2025, 3, 30, 1, 30⟩).full = some "2025-03-30T01:30:00.000Z" := by
    decide +kernel
  have back : instantToWallClock Sample.london "2025-03-30T01:30:00.000Z" =
      some ⟨"2025-03-30", "02:30"⟩ := by decide +kernel
  have same := trip _ accepted
  rw [back] at same
  exact absurd same (by decide +kernel)

end Atrium
