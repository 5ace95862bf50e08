/-
# LocalDays -- the walk over a zone's calendar

The walk of `openWindowsBetween` steps from noon to noon.  Near a transition of at most two
hours a noon is still resolved to the middle of its own day (`Mild.resolve_near`), so each
step advances by one date (`nextLocalDay_clock`) and the walk visits the dates from that of
its first instant on (`localDays_clock`).  Dates are counted as days from 1970-01-01.
-/
import Atrium.TimeZone

namespace Atrium

open Atrium.Base.StepFunction

set_option autoImplicit false

/-! ## Dates -/

/-- The day before a year that begins in March. -/
def marchStart (marchYear : Int) : Int :=
  365 * marchYear + marchYear / 4 - marchYear / 100 + marchYear / 400 - 719468

theorem day_of_march (days : Int) : ∃ marchYear doy, 0 ≤ doy ∧ doy ≤ 365 ∧
    civilOf days = marchDate marchYear doy ∧ days = marchStart marchYear + doy := by
  obtain ⟨least, most⟩ := dayOfEra_bounds days
  obtain ⟨first, last⟩ := dayOfYear_bounds least most
  refine ⟨_, _, first, last, rfl, ?_⟩
  have date := dayOf_civilOf days
  unfold civilOf at date
  rw [dayOf_marchDate _ first last] at date
  have fourth : ∀ y : Int, y / 4 = y / 400 * 100 + y % 400 / 4 := by omega
  have hundredth : ∀ y : Int, y / 100 = y / 400 * 4 + y % 400 / 100 := by omega
  unfold marchStart
  rw [fourth, hundredth]
  omega

def dateKey (date : CivilDate) : Int := date.year * 10000 + date.month * 100 + date.day

theorem dateKey_marchDate_lt {y y' doy doy' : Int} (first : 0 ≤ doy) (last : doy ≤ 365)
    (first' : 0 ≤ doy') (last' : doy' ≤ 365) (earlier : y < y' ∨ y = y' ∧ doy < doy') :
    dateKey (marchDate y doy) < dateKey (marchDate y' doy') := by
  simp only [dateKey, marchDate]
  rcases earlier with year | ⟨rfl, day⟩
  · split_ifs <;> omega
  · rcases eq_or_lt_of_le (show (5 * doy + 2) / 153 ≤ (5 * doy' + 2) / 153 by omega) with same | later
    · rw [same]
      omega
    · split_ifs <;> omega

theorem dateKey_lt {n m : Int} (earlier : n < m) : dateKey (civilOf n) < dateKey (civilOf m) := by
  obtain ⟨y, doy, first, last, date, day⟩ := day_of_march n
  obtain ⟨y', doy', first', last', date', day'⟩ := day_of_march m
  rw [date, date']
  refine dateKey_marchDate_lt first last first' last' ?_
  unfold marchStart at day day'
  omega

/-- The day of a reading. -/
def dayOfReading (reading : Int) : Int := reading / 86400000

/-- 1970-01-01 was a Thursday. -/
def weekdayOf (day : Int) : Weekday := (utcZone (day * 86400000)).weekday

/-- What a walk looks at of a reading. -/
def LocalParts.localDate (p : LocalParts) : CivilDate × Weekday := (⟨p.year, p.month, p.day⟩, p.weekday)

def localDateOf (day : Int) : CivilDate × Weekday := (civilOf day, weekdayOf day)

theorem localDate_utcZone (x : Int) : (utcZone x).localDate = localDateOf (dayOfReading x) := by
  have day : x / 86400000 * 86400000 / 86400000 = x / 86400000 := by omega
  simp only [LocalParts.localDate, localDateOf, dayOfReading, weekdayOf, utcZone, day]

theorem dateKey_of_localDate {p : LocalParts} {day : Int} (reads : p.localDate = localDateOf day) :
    p.dateKey = dateKey (civilOf day) := by
  have date : (⟨p.year, p.month, p.day⟩ : CivilDate) = civilOf day := congrArg Prod.fst reads
  rw [← date]
  rfl

/-- A time of a day from the year 100 on, as `Date.UTC` takes it. -/
theorem dateUTC_civilOf {day : Int} (modern : yearHundred ≤ day * 86400000) (hour minute : Int) :
    dateUTC (civilOf day).year (civilOf day).month (civilOf day).day hour minute 0 =
      day * 86400000 + (hour * 60 + minute) * 60000 := by
  have exact_ : day * 86400000 / 86400000 = day := by omega
  have year : 100 ≤ (civilOf (day * 86400000 / 86400000)).year := year_of_le modern
  have sum : ∀ day hour minute : Int, (((day * 24 + hour) * 60 + minute) * 60 + 0) * 1000 =
      day * 86400000 + (hour * 60 + minute) * 60000 := by
    intro day hour minute
    ring
  rw [exact_] at year
  rw [dateUTC_of_year year, utcInstant, dayOf_civilOf]
  exact sum day hour minute

/-- The reading at which a date begins, as the code reads the date. -/
def startOf (day : Int) : Int :=
  dateUTC (civilOf day).year (civilOf day).month (civilOf day).day 0 0 0

/-- The times of a date, counted from its start. -/
theorem dateUTC_startOf (day : Int) : ∃ n : Int, startOf day = n * 86400000 ∧
    ∀ hour minute : Int, dateUTC (civilOf day).year (civilOf day).month (civilOf day).day hour minute 0 =
      n * 86400000 + (hour * 60 + minute) * 60000 := by
  have sum : ∀ n hour minute : Int, (((n * 24 + hour) * 60 + minute) * 60 + 0) * 1000 =
      n * 86400000 + (hour * 60 + minute) * 60000 := by
    intro n hour minute
    ring
  refine ⟨_, ?_, fun hour minute => sum _ hour minute⟩
  rw [startOf, dateUTC, utcInstant, sum, zero_mul, zero_add, zero_mul, add_zero]

/-- A date of the first century is taken for one of the twentieth. -/
theorem startOf_early {day : Int} (era : yearOne ≤ day * 86400000)
    (early : day * 86400000 < yearHundred) : year1901 ≤ startOf day := by
  have exact_ : day * 86400000 / 86400000 = day := by omega
  have year : (utcZone (day * 86400000)).year = (civilOf day).year := by
    show (civilOf (day * 86400000 / 86400000)).year = _
    rw [exact_]
  obtain ⟨first, last⟩ := year_early era early
  rw [year] at first last
  have bounds := civilOf_bounds day
  exact dateUTC_early first last ⟨bounds.1, bounds.2.1⟩ ⟨bounds.2.2.1, bounds.2.2.2⟩ le_rfl le_rfl

/-- So many days from a first one. -/
def daysFrom : Int → Nat → List Int
  | _, 0 => []
  | day, n + 1 => day :: daysFrom (day + 1) n

theorem mem_daysFrom {first day : Int} {n : Nat} :
    day ∈ daysFrom first n ↔ first ≤ day ∧ day < first + n := by
  induction n generalizing first with
  | zero =>
      simp only [daysFrom, List.not_mem_nil, false_iff]
      omega
  | succ n ih =>
      simp only [daysFrom, List.mem_cons, ih]
      omega

theorem length_daysFrom (first : Int) (n : Nat) : (daysFrom first n).length = n := by
  induction n generalizing first with
  | zero => rfl
  | succ n ih => rw [daysFrom, List.length_cons, ih]

/-! ## Clocks with short transitions -/

namespace TimeZone

variable {z : TimeZone}

theorem Mild.drift (mild : z.Mild) {s t : Int} (before : s ≤ t + 172800000)
    (after : t ≤ s + 172800000) : |z.offset s - z.offset t| ≤ 7200000 := by
  rcases le_total s t with earlier | later
  · rw [abs_sub_comm]
    exact z.isolated.drift mild earlier after
  · exact z.isolated.drift mild later before

/-- **A reading is resolved to an instant that reads the same within two hours.** -/
theorem Mild.resolve_near (mild : z.Mild) (reading : Int) :
    reading - 7200000 ≤ z.wall (z.resolve reading) ∧
      z.wall (z.resolve reading) ≤ reading + 7200000 := by
  obtain ⟨guess, near, resolved⟩ : ∃ guess : Int, |guess - reading| < 86400000 ∧
      z.resolve reading = reading - z.offset guess := by
    refine ⟨_, ?_, rfl⟩
    have bound := abs_lt.mp (z.bounded (reading - z.offset reading))
    rw [abs_lt]
    constructor <;> omega
  have bound := abs_lt.mp (z.bounded guess)
  have near' := abs_lt.mp near
  have drift := abs_le.mp (mild.drift (s := reading - z.offset guess) (t := guess)
    (by omega) (by omega))
  rw [resolved, wall]
  constructor <;> linarith [drift.1, drift.2]

/-- A clock is never set back by more than two hours. -/
theorem Mild.wall_le (mild : z.Mild) {s t : Int} (earlier : s ≤ t) :
    z.wall s ≤ z.wall t + 7200000 := by
  by_cases close : t ≤ s + 172800000
  · have drift := abs_le.mp (mild.drift (s := s) (t := t) (by omega) close)
    rw [wall, wall]
    linarith [drift.2]
  · have near := (z.wall_near s).2
    have near' := (z.wall_near t).1
    omega

/-- What a day of the clock lasts. -/
theorem Mild.wall_day (mild : z.Mild) (t : Int) :
    z.wall t + 86400000 - 7200000 ≤ z.wall (t + 86400000) ∧
      z.wall (t + 86400000) ≤ z.wall t + 86400000 + 7200000 := by
  have drift := abs_le.mp (mild.drift (s := t + 86400000) (t := t) (by omega) (by omega))
  rw [wall, wall]
  constructor <;> linarith [drift.1, drift.2]

/-! ## Steps of the walk -/

/-- **One step advances by one date**, short or long as the day may be. -/
theorem Mild.nextLocalDay (mild : z.Mild) {year month day n : Int}
    (noon : dateUTC year month day 12 0 0 = n * 86400000 + 43200000)
    (modern : yearHundred + 172800000 ≤ n * 86400000) :
    Atrium.nextLocalDay z.clock year month day = civilOf (n + 1) := by
  have near := mild.resolve_near (n * 86400000 + 43200000)
  have lasts := mild.wall_day (z.resolve (n * 86400000 + 43200000))
  have later : addMinutes (z.resolve (n * 86400000 + 43200000)) (24 * 60) =
      z.resolve (n * 86400000 + 43200000) + 86400000 := rfl
  have date : z.wall (z.resolve (n * 86400000 + 43200000) + 86400000) / 86400000 = n + 1 := by
    omega
  rw [Atrium.nextLocalDay, fromLocalParts_clock (by rw [noon]; omega), noon, later,
    toLocalParts_clock, ← date]
  rfl

theorem Mild.nextCursor (mild : z.Mild) {p : LocalParts} {n : Int}
    (noon : dateUTC p.year p.month p.day 12 0 0 = n * 86400000 + 43200000)
    (modern : yearHundred + 172800000 ≤ n * 86400000) :
    (Atrium.nextCursor z.clock p).localDate = localDateOf (n + 1) := by
  have near := mild.resolve_near ((n + 1) * 86400000 + (12 * 60 + 0) * 60000)
  have noon' := @dateUTC_civilOf (n + 1) (by omega) 12 0
  have date : dayOfReading (z.wall (z.resolve ((n + 1) * 86400000 + (12 * 60 + 0) * 60000))) =
      n + 1 := by
    unfold dayOfReading
    omega
  rw [Atrium.nextCursor, mild.nextLocalDay noon modern,
    fromLocalParts_clock (by rw [noon']; omega), noon', toLocalParts_clock, localDate_utcZone, date]

/-- **The walk visits the dates in order, each once.** -/
theorem Mild.localDays (mild : z.Mild) (last : Int) : ∀ (fuel : Nat) (first : Int) (p : LocalParts),
    p.localDate = localDateOf first → yearHundred + 172800000 ≤ first * 86400000 →
      (Atrium.localDays z.clock (dateKey (civilOf last)) fuel p).map LocalParts.localDate =
        (daysFrom first (min fuel (last + 1 - first).toNat)).map localDateOf
  | 0, first, p, _, _ => by
      rw [Nat.zero_min]
      rfl
  | fuel + 1, first, p, reads, modern => by
      rw [Atrium.localDays, dateKey_of_localDate reads]
      by_cases past : last < first
      · have none_ : (last + 1 - first).toNat = 0 := by omega
        rw [if_pos (dateKey_lt past), none_, Nat.min_zero]
        rfl
      · have within : ¬ dateKey (civilOf last) < dateKey (civilOf first) := by
          rcases eq_or_lt_of_le (not_lt.mp past) with same | later
          · rw [same]
            exact lt_irrefl _
          · exact lt_asymm (dateKey_lt later)
        have count : (last + 1 - first).toNat = (last + 1 - (first + 1)).toNat + 1 := by omega
        have date : (⟨p.year, p.month, p.day⟩ : CivilDate) = civilOf first :=
          congrArg Prod.fst reads
        have noon := @dateUTC_civilOf first (by omega) 12 0
        rw [← date] at noon
        rw [if_neg within, count, Nat.succ_min_succ, daysFrom, List.map_cons, List.map_cons, reads,
          mild.localDays last fuel (first + 1) _ (mild.nextCursor noon modern) (by omega)]

end TimeZone

end Atrium
