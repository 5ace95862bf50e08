/-
# TimeZone -- the wall clock of a zone, and its inverse

What the runtime's time zone data says of one zone is an offset from UTC at each instant,
a step function whose jumps are days apart.  The reading of a clock is the instant, in
milliseconds, at which a clock of UTC would show the same (`TimeZone.wall`).

`fromLocalParts` corrects a first guess three times (`TimeZone.resolve`).  A reading that
occurs once is found.  One that occurs twice or never is resolved by the side of the
transition on which it lies when it is read as UTC (`inverts_iff`).
-/
import Atrium.Base.StepFunction
import Atrium.OperatingHours

namespace Atrium

open Atrium.Base.StepFunction

set_option autoImplicit false

/-! ## Readings -/

theorem utcInstant_utcZone (x : Int) : utcInstant (utcZone x).year (utcZone x).month (utcZone x).day
    (utcZone x).hour (utcZone x).minute (utcZone x).second = x / 1000 * 1000 := by
  have date := dayOf_civilOf (x / 86400000)
  have fields : ∀ x : Int, (((x / 86400000 * 24 + x % 86400000 / 3600000) * 60 +
      x % 86400000 / 60000 % 60) * 60 + x % 86400000 / 1000 % 60) * 1000 = x / 1000 * 1000 := by
    omega
  simp only [utcInstant, utcZone, date]
  exact fields x

theorem dayOf_lt_of_year {y y' m n d e : Int} (earlier : y < y') (month : 1 ≤ m ∧ m ≤ 12)
    (month' : 1 ≤ n ∧ n ≤ 12) (day : 1 ≤ d ∧ d ≤ 31) (day' : 1 ≤ e ∧ e ≤ 31) :
    dayOf y m d < dayOf y' n e := by
  simp only [dayOf]
  split_ifs <;> omega

def dayMs : Int := 86400000

def yearOne : Int := utcInstant 1 1 1 0 0 0

/-- From here on a year has three digits, and `Date.UTC` takes it as it is. -/
def yearHundred : Int := utcInstant 100 1 1 0 0 0

/-- The start of the twentieth century. -/
def year1901 : Int := utcInstant 1901 1 1 0 0 0

theorem yearOne_eq : yearOne = -719162 * 86400000 := by decide

theorem yearHundred_eq : yearHundred = -683003 * 86400000 := by decide

theorem year1901_eq : year1901 = -25202 * 86400000 := by decide

theorem year_of_le {x : Int} (after : yearHundred ≤ x) : 100 ≤ (utcZone x).year := by
  rw [yearHundred_eq] at after
  by_contra early
  have bounds := civilOf_bounds (x / 86400000)
  have before := dayOf_lt_of_year (not_le.mp early) ⟨bounds.1, bounds.2.1⟩ (n := 1) (by decide)
    ⟨bounds.2.2.1, bounds.2.2.2⟩ (e := 1) (by decide)
  have start : dayOf 100 1 1 = -683003 := by decide
  have day : dayOf (utcZone x).year (civilOf (x / 86400000)).month (civilOf (x / 86400000)).day =
      x / 86400000 := dayOf_civilOf _
  omega

theorem dateUTC_of_year {year : Int} (wide : 100 ≤ year) (month day hour minute second : Int) :
    dateUTC year month day hour minute second = utcInstant year month day hour minute second := by
  rw [dateUTC, if_neg (by omega)]

/-- The years from which `Date.UTC` makes years of the twentieth century. -/
theorem year_early {x : Int} (era : yearOne ≤ x) (early : x < yearHundred) :
    1 ≤ (utcZone x).year ∧ (utcZone x).year ≤ 99 := by
  have first : dayOf 1 1 1 = -719162 := by decide
  have last : dayOf 99 12 31 = -683004 := by decide
  have bounds := civilOf_bounds (x / 86400000)
  have day : dayOf (utcZone x).year (civilOf (x / 86400000)).month (civilOf (x / 86400000)).day =
      x / 86400000 := dayOf_civilOf _
  rw [yearHundred_eq] at early
  rw [yearOne_eq] at era
  constructor
  · by_contra none_
    have before := dayOf_lt_of_year (not_le.mp none_) ⟨bounds.1, bounds.2.1⟩ (n := 1) (by decide)
      ⟨bounds.2.2.1, bounds.2.2.2⟩ (e := 1) (by decide)
    omega
  · by_contra wide
    have after := dayOf_lt_of_year (not_le.mp wide) (m := 12) (by decide) ⟨bounds.1, bounds.2.1⟩
      (d := 31) (by decide) ⟨bounds.2.2.1, bounds.2.2.2⟩
    omega

theorem dateUTC_early {y m d h mi : Int} (first : 1 ≤ y) (last : y ≤ 99) (month : 1 ≤ m ∧ m ≤ 12)
    (day : 1 ≤ d ∧ d ≤ 31) (hour : 0 ≤ h) (minute : 0 ≤ mi) :
    year1901 ≤ dateUTC y m d h mi 0 := by
  have late := @dayOf_lt_of_year 1900 (1900 + y) 12 m 31 d (by omega) (by decide) month (by decide) day
  have start : dayOf 1900 12 31 = -25203 := by decide
  rw [dateUTC, if_pos ⟨by omega, last⟩, year1901_eq]
  show -25202 * 86400000 ≤ (((dayOf (1900 + y) m d * 24 + h) * 60 + mi) * 60 + 0) * 1000
  omega

theorem toLocalParts_utc (x : Int) : toLocalParts utcZone x = utcZone x := by
  have hour : x % 86400000 / 3600000 % 24 = x % 86400000 / 3600000 := by omega
  simp only [toLocalParts, utcZone, hour]

/-- Two instants that a clock of UTC shows alike are in one second. -/
theorem utcZone_inj {x y : Int} : utcZone x = utcZone y ↔ x / 1000 = y / 1000 := by
  constructor
  · intro same
    have read : x / 1000 * 1000 = y / 1000 * 1000 := by
      rw [← utcInstant_utcZone x, same]
      exact utcInstant_utcZone y
    omega
  · intro same
    have day : x / 86400000 = y / 86400000 := by omega
    have hour : x % 86400000 / 3600000 = y % 86400000 / 3600000 := by omega
    have minute : x % 86400000 / 60000 % 60 = y % 86400000 / 60000 % 60 := by omega
    have second : x % 86400000 / 1000 % 60 = y % 86400000 / 1000 % 60 := by omega
    simp only [utcZone, day, hour, minute, second]

/-! ## Zones -/

/-- The offset from UTC at each instant: whole seconds, less than a day, and changed on
whole seconds that are two days apart. -/
structure TimeZone where
  offset : Instant → Int
  whole : ∀ t, offset t % 1000 = 0
  bounded : ∀ t, |offset t| < 86400000
  seconds : ∀ t, offset t = offset (t / 1000 * 1000)
  isolated : Isolated offset 172800000

namespace TimeZone

/-- The zone that changes its offset once. -/
def single (at_ before after : Int) (whole : at_ % 1000 = 0 ∧ before % 1000 = 0 ∧ after % 1000 = 0)
    (bounded : |before| < 86400000 ∧ |after| < 86400000) : TimeZone where
  offset t := if t < at_ then before else after
  whole t := by
    show (if t < at_ then before else after) % 1000 = 0
    split_ifs
    · exact whole.2.1
    · exact whole.2.2
  bounded t := by
    show |if t < at_ then before else after| < 86400000
    split_ifs
    · exact bounded.1
    · exact bounded.2
  seconds t := by
    have same : t < at_ ↔ t / 1000 * 1000 < at_ := by
      have floor : ∀ t at_ : Int, at_ % 1000 = 0 → (t < at_ ↔ t / 1000 * 1000 < at_) := by omega
      exact floor t at_ whole.1
    simp only [same]
  isolated := by
    have only : ∀ t, Jump (fun t => if t < at_ then before else after) t → t = at_ := by
      intro t jump
      simp only [Jump] at jump
      split_ifs at jump with first second
      · exact absurd rfl jump
      · exact absurd (by omega) second
      · omega
      · exact absurd rfl jump
    intro s t jump jump' earlier
    rw [only s jump, only t jump'] at earlier
    exact absurd earlier (lt_irrefl _)

variable (z : TimeZone)

/-- The reading of the zone's clock. -/
def wall (t : Instant) : Int := t + z.offset t

def clock : Zone := fun t => utcZone (z.wall t)

/-- No jump of the clock is longer than two hours. -/
def Mild : Prop := StepsBy z.offset 7200000

variable {z}

theorem toLocalParts_clock (t : Instant) : toLocalParts z.clock t = utcZone (z.wall t) :=
  toLocalParts_utc (z.wall t)

theorem zoneOffsetMs_clock {t : Instant} (after : yearHundred ≤ z.wall t) :
    zoneOffsetMs z.clock t = z.offset t := by
  have floor : ∀ {t o : Int}, o % 1000 = 0 → (t + o) / 1000 * 1000 - t / 1000 * 1000 = o := by omega
  simp only [zoneOffsetMs, toLocalParts_clock]
  rw [dateUTC_of_year (year_of_le after), utcInstant_utcZone]
  exact floor (z.whole t)

/-! ## The corrections -/

variable (z) in
/-- Where the corrections of a reading end. -/
def resolve (reading : Int) : Instant :=
  reading - z.offset (reading - z.offset (reading - z.offset reading))

theorem wall_near (t : Int) : t - 86400000 < z.wall t ∧ z.wall t < t + 86400000 := by
  have bound := abs_lt.mp (z.bounded t)
  simp only [wall]
  constructor <;> linarith [bound.1, bound.2]

theorem correctOffset_clock {target : Int} (after : yearHundred + 172800000 ≤ target) :
    correctOffset z.clock target 3 target = z.resolve target := by
  -- Every guess is within a day of the target.
  have guess : ∀ u : Int, target - 86400000 < u → zoneOffsetMs z.clock u = z.offset u := by
    intro u near
    refine zoneOffsetMs_clock ?_
    have wall := (z.wall_near u).1
    omega
  have near : ∀ u : Int, target - 86400000 < target - z.offset u := by
    intro u
    have bound := (abs_lt.mp (z.bounded u)).2
    omega
  simp only [correctOffset, guess target (by omega), guess _ (near _), resolve]
  split_ifs with first second third
  · rw [first, first, first]
  · rw [second, second]
  · rw [third]
  · rfl

theorem fromLocalParts_clock {year month day hour minute : Int}
    (after : yearHundred + 172800000 ≤ dateUTC year month day hour minute 0) :
    fromLocalParts z.clock year month day hour minute =
      z.resolve (dateUTC year month day hour minute 0) :=
  correctOffset_clock after

/-- The offset near a reading: `at_` parts what it is before from what it is after. -/
structure Around (z : TimeZone) (reading at_ before after : Int) : Prop where
  step : ∀ t, reading - 86400000 ≤ t → t ≤ reading + 86400000 →
    z.offset t = if t < at_ then before else after
  early : |before| < 86400000
  late : |after| < 86400000

variable (z) in
/-- Near a reading the offset changes once at most. -/
theorem around (reading : Int) : ∃ at_ before after, z.Around reading at_ before after := by
  obtain ⟨at_, split⟩ :=
    @Isolated.split _ _ z.isolated (reading - 86400000) (reading + 86400000) (by omega) (by omega)
  refine ⟨at_, z.offset (reading - 86400000), z.offset (reading + 86400000), ?_,
    z.bounded _, z.bounded _⟩
  intro t least most
  split_ifs with first
  · exact split.early t least first
  · exact split.late t (not_lt.mp first) most

/-- What the corrections come to, by the side of the transition on which the reading and its
two candidates lie. -/
theorem Around.resolve {reading at_ before after : Int} (near : z.Around reading at_ before after) :
    z.resolve reading =
      if reading < at_ then
        if reading - before < at_ ∨ reading - after < at_ then reading - before
        else reading - after
      else if at_ ≤ reading - after ∨ at_ ≤ reading - before then reading - after
      else reading - before := by
  have corrected : ∀ u : Int, z.offset (reading - z.offset u) =
      if reading - z.offset u < at_ then before else after := by
    intro u
    have bound := abs_lt.mp (z.bounded u)
    exact near.step _ (by omega) (by omega)
  have guess := near.step reading (by omega) (by omega)
  unfold TimeZone.resolve
  rw [corrected, corrected, guess]
  split_ifs <;> first | rfl | (exfalso; omega)

/-! ## The inverse -/

variable (z) in
/-- The clock shows the reading, to the second. -/
def Shows (t : Instant) (reading : Int) : Prop := toLocalParts z.clock t = utcZone reading

variable (z) in
/-- `fromLocalParts` of the fields of a reading. -/
def instantOf (reading : Int) : Instant :=
  fromLocalParts z.clock (utcZone reading).year (utcZone reading).month (utcZone reading).day
    (utcZone reading).hour (utcZone reading).minute

variable (z) in
/-- What the documentation says of it: the first instant that shows the reading, and the
first one past it where none does. -/
def Inverts (reading : Int) : Prop :=
  ((∃ t, z.Shows t reading) → IsLeast {t : Int | z.Shows t reading} (z.instantOf reading)) ∧
    ((¬ ∃ t, z.Shows t reading) → IsLeast {t : Int | reading < z.wall t} (z.instantOf reading))

variable (z) in
/-- The readings the corrections resolve as documented: those that occur once; those that
occur twice and are before the transition when they are read as UTC; and of those that
are skipped the first, in a zone behind UTC. -/
def Resolvable (reading : Int) : Prop :=
  (∃ t : Int, z.wall t = reading ∧ ∀ t' : Int, z.wall t' = reading → t' = t) ∨
    (∃ t t' : Int, t < t' ∧ z.wall t = reading ∧ z.wall t' = reading ∧ z.offset reading = z.offset t) ∨
    ∃ at_ : Int, z.offset (at_ - 1) < z.offset at_ ∧ z.offset (at_ - 1) < 0 ∧
      reading = at_ + z.offset (at_ - 1)

theorem shows_of_wall {t : Int} {reading : Int} (at_ : z.wall t = reading) : z.Shows t reading := by
  rw [Shows, toLocalParts_clock, at_]

/-- What shows a reading is less than a second past an instant that is exactly there. -/
theorem wall_of_shows {t reading : Int} (second : reading % 1000 = 0) (shows_ : z.Shows t reading) :
    z.wall (t / 1000 * 1000) = reading := by
  rw [Shows, toLocalParts_clock, utcZone_inj] at shows_
  have floor : ∀ {t o r : Int}, o % 1000 = 0 → r % 1000 = 0 → (t + o) / 1000 = r / 1000 →
      t / 1000 * 1000 + o = r := by omega
  rw [wall, ← z.seconds t]
  exact floor (z.whole t) second shows_

theorem isLeast_shows {s reading : Int} (second : reading % 1000 = 0) :
    IsLeast {t : Int | z.Shows t reading} s ↔ IsLeast {t : Int | z.wall t = reading} s := by
  have down : ∀ t : Int, t / 1000 * 1000 ≤ t := by omega
  constructor
  · rintro ⟨here, least⟩
    have exact_ := wall_of_shows second here
    have same : s / 1000 * 1000 = s := le_antisymm (down s) (least (shows_of_wall exact_))
    rw [same] at exact_
    exact ⟨exact_, fun t' there => least (shows_of_wall there)⟩
  · rintro ⟨here, least⟩
    exact ⟨shows_of_wall here, fun t' there => le_trans (least (wall_of_shows second there)) (down t')⟩

theorem exists_shows {reading : Int} (second : reading % 1000 = 0) :
    (∃ t, z.Shows t reading) ↔ ∃ t, z.wall t = reading :=
  ⟨fun ⟨_, here⟩ => ⟨_, wall_of_shows second here⟩, fun ⟨t, here⟩ => ⟨t, shows_of_wall here⟩⟩

section Around

variable {reading at_ before after : Int} (near : z.Around reading at_ before after)

include near

theorem Around.wall_eq_iff {t : Int} : z.wall t = reading ↔
    (t = reading - before ∧ t < at_) ∨ (t = reading - after ∧ at_ ≤ t) := by
  constructor
  · intro here
    have bound := z.wall_near t
    have offset := near.step t (by omega) (by omega)
    rw [wall, offset] at here
    split_ifs at here with first
    · exact .inl ⟨by omega, first⟩
    · exact .inr ⟨by omega, not_lt.mp first⟩
  · have low := abs_lt.mp near.early
    have high := abs_lt.mp near.late
    rintro (⟨rfl, first⟩ | ⟨rfl, second⟩)
    · rw [wall, near.step _ (by omega) (by omega), if_pos first]
      exact sub_add_cancel reading before
    · rw [wall, near.step _ (by omega) (by omega), if_neg (not_lt.mpr second)]
      exact sub_add_cancel reading after

/-- A transition a day from the reading is the one that parts the offsets. -/
theorem Around.jump_eq {t : Int} (least : reading - 86400000 < t) (most : t ≤ reading + 86400000)
    (jump : Jump z.offset t) : t = at_ ∧ z.offset (t - 1) = before ∧ z.offset t = after := by
  have here := near.step t (by omega) most
  have previous := near.step (t - 1) (by omega) (by omega)
  rw [Jump, here, previous] at jump
  by_cases first : t < at_
  · rw [if_pos first, if_pos (by omega)] at jump
    exact absurd rfl jump
  · by_cases second : t - 1 < at_
    · rw [if_neg first] at here
      rw [if_pos second] at previous
      exact ⟨by omega, previous, here⟩
    · rw [if_neg first, if_neg second] at jump
      exact absurd rfl jump

/-- The reading occurs on one side only. -/
theorem Around.once (one : reading - before < at_ ↔ reading - after < at_) :
    IsLeast {t : Int | z.wall t = reading} (z.resolve reading) ∧ z.Resolvable reading := by
  have value : z.wall (z.resolve reading) = reading ∧
      ∀ t, z.wall t = reading → t = z.resolve reading := by
    rw [near.wall_eq_iff, near.resolve]
    by_cases early : reading - before < at_
    · have early' := one.mp early
      have late' := not_le.mpr early'
      simp only [early, early', late', true_or, if_true, false_or]
      rw [if_neg (not_le.mpr early), ite_self]
      refine ⟨.inl ⟨rfl, early⟩, fun t here => ?_⟩
      rcases near.wall_eq_iff.mp here with ⟨same, -⟩ | ⟨rfl, second⟩
      · exact same
      · omega
    · have late' := (not_congr one).mp early
      simp only [early, late', or_self, if_false, not_lt.mp late', true_or, if_true, ite_self]
      refine ⟨.inr ⟨trivial, trivial⟩, fun t here => ?_⟩
      rcases near.wall_eq_iff.mp here with ⟨rfl, first⟩ | ⟨same, -⟩
      · omega
      · exact same
  exact ⟨⟨value.1, fun t here => (value.2 t here).ge⟩, .inl ⟨_, value⟩⟩

/-- The reading occurs on both sides: the first guess picks one. -/
theorem Around.twice (first : reading - before < at_) (second : at_ ≤ reading - after) :
    (IsLeast {t : Int | z.wall t = reading} (z.resolve reading) ↔ reading < at_) ∧
      (z.Resolvable reading ↔ reading < at_) := by
  have here : z.wall (reading - before) = reading := near.wall_eq_iff.mpr (.inl ⟨rfl, first⟩)
  have there : z.wall (reading - after) = reading := near.wall_eq_iff.mpr (.inr ⟨rfl, second⟩)
  have guess := near.step reading (by omega) (by omega)
  constructor
  · rw [near.resolve]
    constructor
    · rintro ⟨-, least⟩
      by_contra late
      have low : reading - after ≤ reading - before := by
        rw [if_neg late, if_pos (.inl second)] at least
        exact least here
      omega
    · intro early
      rw [if_pos early, if_pos (.inl first)]
      refine ⟨here, fun t at_ => ?_⟩
      rcases near.wall_eq_iff.mp at_ with ⟨rfl, -⟩ | ⟨rfl, -⟩
      · exact le_rfl
      · omega
  · constructor
    · rintro (⟨t, -, only⟩ | ⟨t, t', earlier, at_, at', offset⟩ | ⟨jump, rises, behind, skipped⟩)
      · have same := only _ here
        rw [← only _ there] at same
        omega
      · rw [guess] at offset
        by_contra late
        rw [if_neg late] at offset
        have same : t = reading - after := by
          rw [wall, ← offset] at at_
          omega
        rcases near.wall_eq_iff.mp at' with ⟨rfl, -⟩ | ⟨rfl, -⟩ <;> omega
      · have bound := abs_lt.mp (z.bounded (jump - 1))
        obtain ⟨rfl, previous, -⟩ := near.jump_eq (t := jump) (by omega) (by omega) rises.ne'
        rw [previous] at skipped
        omega
    · intro early
      refine .inr (.inl ⟨_, _, by omega, here, there, ?_⟩)
      rw [guess, if_pos early, near.step _ (by have := abs_lt.mp near.early; omega)
        (by have := abs_lt.mp near.early; omega), if_pos first]

/-- **What the corrections make of a reading** shows it, or else the reading is skipped and
they end on the wrong side of the transition. -/
theorem Around.wall_resolve : z.wall (z.resolve reading) = reading ∨
    (at_ ≤ reading - before ∧ reading - after < at_ ∧
      ((reading - before = z.resolve reading ∧
          z.wall (z.resolve reading) = reading + (after - before)) ∨
        (reading - after = z.resolve reading ∧
          z.wall (z.resolve reading) = reading - (after - before)))) := by
  have low := abs_lt.mp near.early
  have high := abs_lt.mp near.late
  have first := near.step (reading - before) (by omega) (by omega)
  have second := near.step (reading - after) (by omega) (by omega)
  rcases lt_or_ge (reading - before) at_ with early | late
  · -- Before the transition the first candidate shows the reading.
    rw [if_pos early] at first
    rcases lt_or_ge (reading - after) at_ with early' | late'
    · exact .inl (near.once (iff_of_true early early')).1.1
    · rw [if_neg (not_lt.mpr late')] at second
      rw [near.resolve]
      refine .inl ?_
      split_ifs <;> first | (rw [wall, first]; omega) | (rw [wall, second]; omega)
  · rw [if_neg (not_lt.mpr late)] at first
    rcases lt_or_ge (reading - after) at_ with early' | late'
    · rw [if_pos early'] at second
      refine .inr ⟨late, early', ?_⟩
      rw [near.resolve]
      split_ifs
      · exact .inl ⟨rfl, by rw [wall, first]; omega⟩
      · omega
      · exact .inr ⟨rfl, by rw [wall, second]; omega⟩
      · omega
    · exact .inl (near.once (iff_of_false (not_lt.mpr late) (not_lt.mpr late'))).1.1

/-- Around a transition that skips a reading the offset stays for two days. -/
theorem Around.calm (late : at_ ≤ reading - before) (early : reading - after < at_) :
    Calm z.offset (at_ - 172800000) (at_ - 1) ∧ Calm z.offset at_ (at_ + 172799999) := by
  have low := abs_lt.mp near.early
  have high := abs_lt.mp near.late
  have here := near.step at_ (by omega) (by omega)
  have previous := near.step (at_ - 1) (by omega) (by omega)
  rw [if_neg (lt_irrefl _)] at here
  rw [if_pos (by omega)] at previous
  have jump : Jump z.offset at_ := by
    rw [Jump, here, previous]
    omega
  constructor
  · intro t after_ before_ other
    have apart := z.isolated t at_ other jump (by omega)
    omega
  · intro t after_ before_ other
    have apart := z.isolated at_ t jump other after_
    omega

/-- The reading is skipped. -/
theorem Around.skipped (late : at_ ≤ reading - before) (early : reading - after < at_) :
    (IsLeast {t : Int | reading < z.wall t} (z.resolve reading) ↔
      reading < at_ ∧ reading - before = at_) ∧
      (z.Resolvable reading ↔ reading < at_ ∧ reading - before = at_) := by
  have none_ : ∀ t, z.wall t ≠ reading := by
    intro t here
    rcases near.wall_eq_iff.mp here with ⟨rfl, first⟩ | ⟨rfl, second⟩ <;> omega
  have low := abs_lt.mp near.early
  have high := abs_lt.mp near.late
  have past : IsLeast {t : Int | reading < z.wall t} at_ := by
    constructor
    · show reading < z.wall at_
      rw [wall, near.step at_ (by omega) (by omega), if_neg (lt_irrefl _)]
      omega
    · intro t (after_ : reading < z.wall t)
      by_contra before_
      have bound := z.wall_near t
      have offset := near.step t (by omega) (by omega)
      rw [wall, offset, if_pos (not_le.mp before_)] at after_
      omega
  constructor
  · have resolved := near.resolve
    constructor
    · intro least
      have same := least.unique past
      rw [same] at resolved
      by_cases first : reading < at_
      · rw [if_pos first, if_pos (.inr early)] at resolved
        exact ⟨first, resolved.symm⟩
      · have last : at_ = reading - after := by
          rw [if_neg first, if_pos (.inr late)] at resolved
          exact resolved
        omega
    · rintro ⟨first, same⟩
      rw [resolved, if_pos first, if_pos (.inr early), same]
      exact past
  · constructor
    · rintro (⟨t, at_, -⟩ | ⟨t, t', -, at_, -⟩ | ⟨jump, rises, behind, skip⟩)
      · exact absurd at_ (none_ t)
      · exact absurd at_ (none_ t)
      · have bound := abs_lt.mp (z.bounded (jump - 1))
        obtain ⟨rfl, previous, -⟩ := near.jump_eq (t := jump) (by omega) (by omega) rises.ne'
        rw [previous] at skip behind
        omega
    · rintro ⟨first, same⟩
      have previous := near.step (at_ - 1) (by omega) (by omega)
      have here := near.step at_ (by omega) (by omega)
      rw [if_pos (by omega)] at previous
      rw [if_neg (by omega)] at here
      exact .inr (.inr ⟨at_, by omega, by omega, by omega⟩)

end Around

theorem instantOf_modern {reading : Int} (minute : reading % 60000 = 0)
    (modern : yearHundred + 172800000 ≤ reading) : z.instantOf reading = z.resolve reading := by
  have second : (utcZone reading).second = 0 := by
    show reading % 86400000 / 1000 % 60 = 0
    omega
  have target : dateUTC (utcZone reading).year (utcZone reading).month (utcZone reading).day
      (utcZone reading).hour (utcZone reading).minute 0 = reading := by
    have whole : reading / 1000 * 1000 = reading := by omega
    have read := utcInstant_utcZone reading
    rw [second, whole] at read
    rw [dateUTC_of_year (year_of_le (by omega)), read]
  rw [instantOf, fromLocalParts_clock (by rw [target]; exact modern), target]

/-- A reading of the first century is looked for in the twentieth. -/
theorem instantOf_early {reading : Int} (era : yearOne ≤ reading)
    (early : reading < yearHundred) :
    year1901 - 86400000 < z.instantOf reading := by
  have bounds := civilOf_bounds (reading / 86400000)
  obtain ⟨first, last⟩ := year_early era early
  have hour : 0 ≤ (utcZone reading).hour := by
    show 0 ≤ reading % 86400000 / 3600000
    omega
  have minute : 0 ≤ (utcZone reading).minute := by
    show 0 ≤ reading % 86400000 / 60000 % 60
    omega
  have late : year1901 ≤ dateUTC (utcZone reading).year (utcZone reading).month
      (utcZone reading).day (utcZone reading).hour (utcZone reading).minute 0 :=
    dateUTC_early first last ⟨bounds.1, bounds.2.1⟩ ⟨bounds.2.2.1, bounds.2.2.2⟩ hour minute
  rw [instantOf, fromLocalParts_clock (le_trans (by decide) late)]
  generalize dateUTC _ _ _ _ _ 0 = target at late ⊢
  have bound := abs_lt.mp (z.bounded (target - z.offset (target - z.offset target)))
  unfold resolve
  linarith [bound.2]

/-- **Which readings are inverted as documented**: of those with a year that `Date.UTC` takes
as it is, the ones that the first guess serves. -/
theorem inverts_iff (z : TimeZone) (reading : Int) (minute : reading % 60000 = 0)
    (era : yearOne ≤ reading)
    (away : reading < yearHundred ∨ yearHundred + 2 * dayMs ≤ reading) :
    z.Inverts reading ↔ yearHundred ≤ reading ∧ z.Resolvable reading := by
  rcases away with early | modern
  · have hundred := yearHundred_eq
    have late := instantOf_early (z := z) era early
    rw [year1901_eq] at late
    have wall := z.wall_near (z.instantOf reading)
    refine iff_of_false ?_ fun served => absurd served.1 (not_le.mpr early)
    rintro ⟨found, past⟩
    by_cases occurs : ∃ t, z.Shows t reading
    · have here := (isLeast_shows (by omega)).mp (found occurs)
      have same : z.wall (z.instantOf reading) = reading := here.1
      linarith [wall.1]
    · have there : reading < z.wall (reading + 86400000) := by
        linarith [(z.wall_near (reading + 86400000)).1]
      have least : z.instantOf reading ≤ reading + 86400000 := (past occurs).2 there
      linarith
  · rw [dayMs] at modern
    have value := instantOf_modern (z := z) minute (by omega)
    have second : reading % 1000 = 0 := by omega
    obtain ⟨at_, before, after, near⟩ := z.around reading
    rw [Inverts, exists_shows second, isLeast_shows second, value]
    have reached : yearHundred ≤ reading := by omega
    simp only [reached, true_and]
    by_cases one : reading - before < at_ ↔ reading - after < at_
    · obtain ⟨least, served⟩ := near.once one
      exact iff_of_true ⟨fun _ => least, fun none_ => absurd ⟨_, least.1⟩ none_⟩ served
    · by_cases first : reading - before < at_
      · have second_ : at_ ≤ reading - after := not_lt.mp fun both => one (iff_of_true first both)
        obtain ⟨least, served⟩ := near.twice first second_
        have occurs : ∃ t, z.wall t = reading :=
          ⟨_, near.wall_eq_iff.mpr (.inl ⟨rfl, first⟩)⟩
        rw [served, ← least]
        exact ⟨fun inverts => inverts.1 occurs,
          fun least => ⟨fun _ => least, fun none_ => absurd occurs none_⟩⟩
      · have second_ : reading - after < at_ := by
          by_contra both
          exact one (iff_of_false first both)
        obtain ⟨least, served⟩ := near.skipped (not_lt.mp first) second_
        have none_ : ¬ ∃ t, z.wall t = reading := by
          rintro ⟨t, here⟩
          rcases near.wall_eq_iff.mp here with ⟨rfl, early⟩ | ⟨rfl, late⟩
          · exact first early
          · exact absurd late (not_le.mpr second_)
        rw [served, ← least]
        exact ⟨fun inverts => inverts.2 none_,
          fun least => ⟨fun occurs => absurd occurs none_, fun _ => least⟩⟩

end TimeZone

namespace Sample

/-- London around the last Sunday of March 2025: at 01:00 UTC its clock goes forward. -/
def london : TimeZone := .single 1743296400000 0 3600000 (by decide) (by decide)

theorem london_wall (t : Int) :
    london.wall t = t + if t < 1743296400000 then 0 else 3600000 := rfl

end Sample

/-- Noon of that day is read by one instant. -/
theorem TimeZone.inverts_noon : Sample.london.Inverts 1743336000000 := by
  refine (TimeZone.inverts_iff Sample.london 1743336000000 (by decide) (by decide)
    (.inr (by decide))).mpr ⟨by decide, .inl ⟨1743332400000, by decide, fun t here => ?_⟩⟩
  rw [Sample.london_wall] at here
  split_ifs at here <;> omega

/-- Half past one does not occur that day, and resolves to half past midnight. -/
theorem TimeZone.inverts_refuted :
    ¬ ∀ (z : TimeZone) (reading : Int), reading % 60000 = 0 → z.Inverts reading := by
  intro claim
  obtain ⟨-, past⟩ := claim Sample.london 1743298200000 (by decide)
  have none_ : ¬ ∃ t, Sample.london.Shows t 1743298200000 := by
    rw [TimeZone.exists_shows (by decide)]
    rintro ⟨t, here⟩
    rw [Sample.london_wall] at here
    split_ifs at here <;> omega
  have resolved : Sample.london.instantOf 1743298200000 = 1743294600000 := by decide +kernel
  have least := (past none_).1
  rw [resolved] at least
  exact absurd least (by decide)

end Atrium
