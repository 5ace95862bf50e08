/-
# OpenWindows -- the windows of a range cover the open time

A date's window in terms of readings (`windowForLocalDate_clock`), and membership in the
windows of a range (`mem_openWindowsBetween`).  Where no transition is near, a window is the
stretch of the wall clock that the stored hours name (`window_contains`), so an instant is
in some window exactly where the hours of its date, or the overnight rest of the date
before, are open at its reading (`covers_iff`).
-/
import Atrium.LocalDays

namespace Atrium

open Atrium.Base.StepFunction

set_option autoImplicit false

/-! ## The window of a date -/

/-- The minutes a weekday's entry means, where both of its texts are readings of a clock. -/
def OperatingHours.minutesOn (hours : OperatingHours) (weekday : Weekday) : Option (Int × Int) := do
  let spec ← hours.on weekday
  let openMinutes ← parseClock spec.opens
  let closeMinutes ← parseClock spec.closes
  pure (openMinutes, closeMinutes)

theorem parseClock_bounds {text : String} {minutes : Int} (parsed : parseClock text = some minutes) :
    0 ≤ minutes ∧ minutes ≤ 1440 := by
  unfold parseClock at parsed
  split at parsed
  · dsimp only at parsed
    split_ifs at parsed with digits outside
    cases parsed
    push Not at outside
    omega
  · cases parsed

theorem minutesOn_bounds {hours : OperatingHours} {weekday : Weekday} {openMinutes closeMinutes : Int}
    (parsed : hours.minutesOn weekday = some (openMinutes, closeMinutes)) :
    (0 ≤ openMinutes ∧ openMinutes ≤ 1440) ∧ 0 ≤ closeMinutes ∧ closeMinutes ≤ 1440 := by
  simp only [OperatingHours.minutesOn, Option.bind_eq_bind, Option.bind_eq_some_iff,
    Option.pure_def, Option.some.injEq, Prod.mk.injEq] at parsed
  obtain ⟨spec, -, o, opens, c, closes, rfl, rfl⟩ := parsed
  exact ⟨parseClock_bounds opens, parseClock_bounds closes⟩

namespace TimeZone

variable (z : TimeZone)

/-- The window of the day that starts at the reading `day * 86400000`. -/
def window (day openMinutes closeMinutes : Int) : OpenWindow :=
  let opensAt := z.resolve (day * 86400000 + openMinutes * 60000)
  if closeMinutes ≤ openMinutes then
    ⟨opensAt, z.resolve ((day + 1) * 86400000 + closeMinutes % 1440 * 60000)⟩
  else
    let closesAt := z.resolve (day * 86400000 + closeMinutes % 1440 * 60000)
    if closesAt ≤ opensAt then ⟨opensAt, z.resolve ((day + 1) * 86400000)⟩ else ⟨opensAt, closesAt⟩

variable {z}

theorem windowForLocalDate_clock (hours : OperatingHours) {year month date day : Int}
    (reads : ∀ hour minute : Int, dateUTC year month date hour minute 0 =
      day * 86400000 + (hour * 60 + minute) * 60000)
    (modern : yearHundred + 172800000 ≤ day * 86400000)
    (next : nextLocalDay z.clock year month date = civilOf (day + 1)) (weekday : Weekday) :
    windowForLocalDate hours z.clock year month date weekday =
      (hours.minutesOn weekday).map fun minutes => z.window day minutes.1 minutes.2 := by
  have reads' := @dateUTC_civilOf (day + 1) (by omega)
  -- Every time of the two days is resolved by the corrections.
  have here : ∀ minutes : Int, 0 ≤ minutes → fromLocalParts z.clock year month date (minutes / 60)
      (minutes % 60) = z.resolve (day * 86400000 + minutes * 60000) := by
    intro minutes least
    have whole : minutes / 60 * 60 + minutes % 60 = minutes := by omega
    rw [fromLocalParts_clock (by rw [reads]; omega), reads, whole]
  have wrapped : ∀ minutes : Int, minutes / 60 % 24 * 60 + minutes % 60 = minutes % 1440 := by omega
  have there : ∀ minutes : Int, fromLocalParts z.clock year month date (minutes / 60 % 24)
      (minutes % 60) = z.resolve (day * 86400000 + minutes % 1440 * 60000) := by
    intro minutes
    rw [fromLocalParts_clock (by rw [reads]; omega), reads, wrapped]
  have after : ∀ minutes : Int, fromLocalParts z.clock (civilOf (day + 1)).year
      (civilOf (day + 1)).month (civilOf (day + 1)).day (minutes / 60 % 24) (minutes % 60) =
        z.resolve ((day + 1) * 86400000 + minutes % 1440 * 60000) := by
    intro minutes
    rw [fromLocalParts_clock (by rw [reads']; omega), reads', wrapped]
  have midnight : fromLocalParts z.clock (civilOf (day + 1)).year (civilOf (day + 1)).month
      (civilOf (day + 1)).day 0 0 = z.resolve ((day + 1) * 86400000) := by
    rw [fromLocalParts_clock (by rw [reads']; omega), reads']
    norm_num
  unfold windowForLocalDate OperatingHours.minutesOn
  cases hours.on weekday with
  | none => rfl
  | some spec =>
      cases opens : parseClock spec.opens with
      | none => simp [opens]
      | some openMinutes =>
          cases closes : parseClock spec.closes with
          | none => simp [opens, closes]
          | some closeMinutes =>
              have least := (parseClock_bounds opens).1
              by_cases overnight : closeMinutes ≤ openMinutes
              · simp [opens, closes, overnight, next, here _ least, after, window]
              · simp only [opens, closes, Option.bind_eq_bind, Option.bind_some, overnight,
                  decide_false, if_false, Bool.false_eq_true, here _ least, there, next, midnight,
                  true_and, Option.pure_def, Option.map_some, window]
                split_ifs <;> rfl

/-! ## The windows of a range -/

variable (z) in
/-- The window of a date that a walk visits, `none` where the venue is closed. -/
def windowOfDate (hours : OperatingHours) (date : CivilDate × Weekday) : Option OpenWindow :=
  windowForLocalDate hours z.clock date.1.year date.1.month date.1.day date.2

variable (z) in
def windowOn (hours : OperatingHours) (day : Int) : Option OpenWindow :=
  z.windowOfDate hours (localDateOf day)

variable (z) in
/-- The date of an instant. -/
def dayAt (t : Int) : Int := dayOfReading (z.wall t)

theorem windowForLocalDay_clock (hours : OperatingHours) (t : Int) :
    windowForLocalDay hours z.clock t = z.windowOn hours (z.dayAt t) := by
  have date := localDate_utcZone (z.wall t)
  simp only [LocalParts.localDate, localDateOf, Prod.mk.injEq] at date
  obtain ⟨civil, weekday⟩ := date
  rw [windowForLocalDay, toLocalParts_clock, windowOn, windowOfDate, localDateOf, dayAt, ← civil,
    ← weekday]

theorem Mild.windowOn (mild : z.Mild) (hours : OperatingHours) {day : Int}
    (modern : yearHundred + 172800000 ≤ day * 86400000) :
    z.windowOn hours day =
      (hours.minutesOn (weekdayOf day)).map fun minutes => z.window day minutes.1 minutes.2 :=
  have noon := @dateUTC_civilOf day (by omega) 12 0
  windowForLocalDate_clock hours (dateUTC_civilOf (by omega)) modern (mild.nextLocalDay noon modern) _

/-- The first and the last date of the walk of a range. -/
abbrev firstDay (z : TimeZone) (source : Int) : Int := z.dayAt (source - 86400000)

abbrev lastDay (z : TimeZone) (target : Int) : Int := z.dayAt (target + 86400000)

variable (z) in
/-- The days the walk of a range visits, with so much fuel. -/
def walk (source target : Instant) (fuel : Nat) : List LocalParts :=
  localDays z.clock (toLocalParts z.clock (addMinutes target (24 * 60))).dateKey fuel
    (toLocalParts z.clock (addMinutes source (-24 * 60)))

theorem dayBefore (t : Int) : addMinutes t (-24 * 60) = t - 86400000 := by
  show t + -24 * 60 * 60000 = t - 86400000
  omega

theorem dayAfter (t : Int) : addMinutes t (24 * 60) = t + 86400000 := rfl

theorem Mild.walk_dates (mild : z.Mild) {source : Int} (target : Int)
    (modern : yearHundred + 172800000 ≤ z.firstDay source * 86400000) (fuel : Nat) :
    (z.walk source target fuel).map LocalParts.localDate =
      (daysFrom (z.firstDay source)
        (min fuel (z.lastDay target + 1 - z.firstDay source).toNat)).map localDateOf := by
  have last := dateKey_of_localDate (localDate_utcZone (z.wall (target + 86400000)))
  rw [TimeZone.walk, dayBefore, dayAfter, toLocalParts_clock, toLocalParts_clock, last]
  exact mild.localDays _ fuel _ _ (localDate_utcZone _) modern

/-- A window of a range is that of a date the walk visits. -/
theorem mem_openWindowsBetween {hours : OperatingHours} {source target : Int} {w : OpenWindow} :
    w ∈ openWindowsBetween hours z.clock source target ↔
      ∃ date ∈ (z.walk source target 800).map LocalParts.localDate,
        z.windowOfDate hours date = some w ∧ source < w.closesAt ∧ w.opensAt < target := by
  rw [openWindowsBetween, List.mem_insertionSort, List.mem_filterMap]
  simp only [List.mem_map, exists_exists_and_eq_and, Option.filter_eq_some_iff, decide_eq_true_eq]
  rfl

/-- **What the windows of a range are.** -/
theorem Mild.mem_openWindowsBetween (mild : z.Mild) {hours : OperatingHours} {source target : Int}
    (modern : yearHundred + 172800000 ≤ z.firstDay source * 86400000) {w : OpenWindow} :
    w ∈ openWindowsBetween hours z.clock source target ↔
      ∃ day, z.firstDay source ≤ day ∧ day ≤ z.lastDay target ∧ day < z.firstDay source + 800 ∧
        z.windowOn hours day = some w ∧ source < w.closesAt ∧ w.opensAt < target := by
  rw [TimeZone.mem_openWindowsBetween, mild.walk_dates _ modern 800]
  simp only [List.mem_map, mem_daysFrom, exists_exists_and_eq_and]
  constructor
  · rintro ⟨day, within, here, overlaps⟩
    exact ⟨day, within.1, by omega, by omega, here, overlaps⟩
  · rintro ⟨day, first, last, guard_, here, overlaps⟩
    exact ⟨day, by omega, here, overlaps⟩

/-! ## Away from transitions -/

variable (z) in
/-- No transition within two days of an instant. -/
def CalmAt (t : Int) : Prop :=
  ∀ s, t - 172800000 ≤ s → s ≤ t + 172800000 → z.offset s = z.offset t

theorem CalmAt.resolve {t : Int} (calm : z.CalmAt t) (reading : Int)
    (near : |reading - z.wall t| ≤ 86400000) : z.resolve reading = reading - z.offset t := by
  obtain ⟨low, high⟩ := abs_le.mp near
  have wall := z.wall_near t
  have first := calm reading (by omega) (by omega)
  have settled : z.offset (reading - z.offset t) = z.offset t := by
    unfold TimeZone.wall at low high
    exact calm _ (by omega) (by omega)
  rw [TimeZone.resolve, first, settled, settled]

/-- **Before or after**: an instant away from transitions compares with a resolved reading as
its own reading does, however far that is. -/
theorem CalmAt.resolve_le_iff {t : Int} (calm : z.CalmAt t) (mild : z.Mild) (reading : Int) :
    z.resolve reading ≤ t ↔ reading ≤ z.wall t := by
  have near := mild.resolve_near reading
  by_cases close : |reading - z.wall t| ≤ 86400000
  · rw [calm.resolve _ close, TimeZone.wall]
    constructor <;> intro h <;> linarith
  · rw [abs_le, not_and_or, not_le, not_le] at close
    rcases close with before | after
    · refine iff_of_true ?_ (by omega)
      by_contra later
      have order := mild.wall_le (le_of_not_ge later)
      omega
    · refine iff_of_false (fun earlier => ?_) (by omega)
      have order := mild.wall_le earlier
      omega

theorem CalmAt.lt_resolve_iff {t : Int} (calm : z.CalmAt t) (mild : z.Mild) (reading : Int) :
    t < z.resolve reading ↔ z.wall t < reading := by
  have order := calm.resolve_le_iff mild reading
  constructor
  · intro before
    by_contra after
    exact absurd (order.mpr (not_lt.mp after)) (not_le.mpr before)
  · intro before
    by_contra after
    exact absurd (order.mp (not_lt.mp after)) (not_le.mpr before)

/-- **A window is the stretch of the wall clock its minutes name**: to the close, on the next
day where the close is not after the open. -/
theorem CalmAt.window_contains {t : Int} (calm : z.CalmAt t) (mild : z.Mild)
    (day : Int) {openMinutes closeMinutes : Int} (least : 0 ≤ openMinutes) (most : openMinutes < 1440)
    (least' : 0 ≤ closeMinutes) (most' : closeMinutes ≤ 1440) :
    ((z.window day openMinutes closeMinutes).opensAt ≤ t ∧
        t < (z.window day openMinutes closeMinutes).closesAt) ↔
      day * 86400000 + openMinutes * 60000 ≤ z.wall t ∧
        z.wall t < (if closeMinutes ≤ openMinutes then day + 1 else day) * 86400000 +
          closeMinutes * 60000 := by
  have opens := calm.resolve_le_iff mild (day * 86400000 + openMinutes * 60000)
  unfold window
  by_cases overnight : closeMinutes ≤ openMinutes
  · have wrapped : closeMinutes % 1440 = closeMinutes := by omega
    simp only [if_pos overnight, wrapped, opens, calm.lt_resolve_iff mild]
  · simp only [if_neg overnight]
    have closes := calm.lt_resolve_iff mild (day * 86400000 + closeMinutes % 1440 * 60000)
    have midnight := calm.lt_resolve_iff mild ((day + 1) * 86400000)
    have opened := calm.resolve (day * 86400000 + openMinutes * 60000)
    have closed := calm.resolve (day * 86400000 + closeMinutes % 1440 * 60000)
    simp only [abs_le] at opened closed
    by_cases early : z.resolve (day * 86400000 + closeMinutes % 1440 * 60000) ≤
        z.resolve (day * 86400000 + openMinutes * 60000)
    · simp only [if_pos early, opens, midnight]
      refine and_congr_right fun after => ?_
      by_cases full : closeMinutes = 1440
      · rw [full]
        constructor <;> intro h <;> omega
      · -- A close within the day is after the open wherever the day is near.
        have wrapped : closeMinutes % 1440 = closeMinutes := by omega
        rw [wrapped] at early closes closed
        constructor
        · intro within
          rw [opened (by omega), closed (by omega)] at early
          exact absurd (show closeMinutes ≤ openMinutes by linarith) overnight
        · omega
    · simp only [if_neg early, opens, closes]
      refine and_congr_right fun after => ?_
      by_cases full : closeMinutes = 1440
      · rw [full] at early closed ⊢
        constructor
        · omega
        · intro within
          have zero : (1440 : Int) % 1440 * 60000 = 0 := rfl
          rw [opened (by omega), closed (by omega), zero] at early
          exact absurd (by linarith) early
      · have wrapped : closeMinutes % 1440 = closeMinutes := by omega
        rw [wrapped]

end TimeZone

/-! ## The open time -/

/-- Is the venue open at a reading: by the hours of its date, or by the overnight rest of
those of the date before? -/
def OperatingHours.openAt (hours : OperatingHours) (reading : Int) : Prop :=
  (∃ minutes, hours.minutesOn (weekdayOf (dayOfReading reading)) = some minutes ∧
    minutes.1 * 60000 ≤ reading % dayMs ∧
      (minutes.2 ≤ minutes.1 ∨ reading % dayMs < minutes.2 * 60000)) ∨
    ∃ minutes, hours.minutesOn (weekdayOf (dayOfReading reading - 1)) = some minutes ∧
      minutes.2 ≤ minutes.1 ∧ reading % dayMs < minutes.2 * 60000

instance : Std.Total byOpening where
  total v w := le_total v.opensAt w.opensAt

instance : IsTrans OpenWindow byOpening where
  trans _ _ _ := le_trans

/-- A walk that has come to its end goes no further. -/
theorem localDays_of_short {zone : Zone} {stopKey : Int} : ∀ (fuel : Nat) (p : LocalParts) (more : Nat),
    (localDays zone stopKey fuel p).length < fuel →
      localDays zone stopKey (fuel + more) p = localDays zone stopKey fuel p
  | 0, _, _, short => absurd short (Nat.not_lt_zero _)
  | fuel + 1, p, more, short => by
      rw [Nat.add_right_comm, localDays, localDays]
      rw [localDays] at short
      split_ifs at short ⊢ with past
      · rfl
      · rw [localDays_of_short fuel _ more (by simpa using short)]

namespace TimeZone

variable {z : TimeZone}

/-- The windows of a range cover the open time: the walk visits every date from that of the
day before to that of the day after, once and in order, and its guard never ends it; the
windows are sorted; and away from transitions they are the open time. -/
structure Covers (z : TimeZone) (hours : OperatingHours) (source target : Int) : Prop where
  visits : (z.walk source target 800).map LocalParts.localDate =
    (daysFrom (z.firstDay source) (z.lastDay target + 1 - z.firstDay source).toNat).map localDateOf
  uncut : ∀ more, z.walk source target (800 + more) = z.walk source target 800
  sorted : (openWindowsBetween hours z.clock source target).Pairwise byOpening
  open_ : Calm z.offset (source - 172800000) (target + 172800000) →
    (∀ weekday minutes, hours.minutesOn weekday = some minutes → minutes.1 < 1440) →
      ∀ t : Int, source ≤ t → t < target →
        ((∃ w ∈ openWindowsBetween hours z.clock source target, w.opensAt ≤ t ∧ t < w.closesAt) ↔
          hours.openAt (z.wall t))

theorem firstDay_modern {source : Int} (modern : yearHundred + 3 * dayMs ≤ z.wall (source - 86400000)) :
    yearHundred + 172800000 ≤ z.firstDay source * 86400000 := by
  unfold firstDay dayAt dayOfReading
  rw [dayMs] at modern
  omega

theorem days_le {source target : Int} (short : target - source ≤ 366 * dayMs) :
    (z.lastDay target + 1 - z.firstDay source).toNat < 800 := by
  have before := (z.wall_near (source - 86400000)).1
  have after := (z.wall_near (target + 86400000)).2
  unfold lastDay firstDay dayAt dayOfReading
  rw [dayMs] at short
  omega

/-- Some window of the walk contains an instant exactly where the hours are open. -/
theorem Mild.open_iff (mild : z.Mild) {hours : OperatingHours} {source target : Int}
    (short : target - source ≤ 366 * dayMs)
    (modern : yearHundred + 3 * dayMs ≤ z.wall (source - 86400000))
    (calm : Calm z.offset (source - 172800000) (target + 172800000))
    (early : ∀ weekday minutes, hours.minutesOn weekday = some minutes → minutes.1 < 1440)
    {t : Int} (after : source ≤ t) (before : t < target) :
    (∃ w ∈ openWindowsBetween hours z.clock source target, w.opensAt ≤ t ∧ t < w.closesAt) ↔
      hours.openAt (z.wall t) := by
  have calmAt : z.CalmAt t := fun s low high =>
    calm.same (by omega) (by omega) (by omega) (by omega)
  have first := firstDay_modern modern
  have few := days_le (z := z) short
  -- The dates of the instant and of the day before are visited.
  have start := calm.same (s := source - 86400000) (t := t) (by omega) (by omega) (by omega) (by omega)
  have stop := calm.same (s := target + 86400000) (t := t) (by omega) (by omega) (by omega) (by omega)
  have low : z.firstDay source ≤ dayOfReading (z.wall t) - 1 := by
    unfold firstDay dayAt dayOfReading wall
    rw [start]
    omega
  have high : dayOfReading (z.wall t) ≤ z.lastDay target := by
    unfold lastDay dayAt dayOfReading wall
    rw [stop]
    omega
  have window : ∀ day, z.firstDay source ≤ day →
      ((∃ w, z.windowOn hours day = some w ∧ w.opensAt ≤ t ∧ t < w.closesAt) ↔
        ∃ minutes, hours.minutesOn (weekdayOf day) = some minutes ∧
          day * 86400000 + minutes.1 * 60000 ≤ z.wall t ∧
            z.wall t < (if minutes.2 ≤ minutes.1 then day + 1 else day) * 86400000 +
              minutes.2 * 60000) := by
    intro day visited
    rw [mild.windowOn hours (by omega)]
    have contains : ∀ minutes, hours.minutesOn (weekdayOf day) = some minutes → _ :=
      fun minutes parsed =>
        have bounds := minutesOn_bounds parsed
        calmAt.window_contains mild day bounds.1.1 (early _ _ parsed) bounds.2.1 bounds.2.2
    constructor
    · rintro ⟨w, here, within⟩
      obtain ⟨minutes, parsed, rfl⟩ := Option.map_eq_some_iff.mp here
      exact ⟨minutes, parsed, (contains minutes parsed).mp within⟩
    · rintro ⟨minutes, parsed, within⟩
      exact ⟨_, by rw [parsed, Option.map_some], (contains minutes parsed).mpr within⟩
  have few' : z.lastDay target < z.firstDay source + 800 := by omega
  simp only [mild.mem_openWindowsBetween first]
  constructor
  · rintro ⟨w, ⟨day, visited, -, -, here, -⟩, within⟩
    obtain ⟨minutes, parsed, opened, closed⟩ := (window day visited).mp ⟨w, here, within⟩
    obtain ⟨opens, closes⟩ := minutesOn_bounds parsed
    have soon := early _ _ parsed
    unfold OperatingHours.openAt dayMs
    rcases eq_or_ne day (dayOfReading (z.wall t)) with rfl | other
    · refine .inl ⟨minutes, parsed, ?_⟩
      unfold dayOfReading at opened closed
      split_ifs at closed <;> omega
    · -- Only the overnight rest of the day before reaches this date.
      have yesterday : day = dayOfReading (z.wall t) - 1 := by
        unfold dayOfReading at other ⊢
        split_ifs at closed <;> omega
      subst yesterday
      refine .inr ⟨minutes, parsed, ?_⟩
      unfold dayOfReading at opened closed
      split_ifs at closed <;> omega
  · rintro (⟨minutes, parsed, opened, closed⟩ | ⟨minutes, parsed, overnight, closed⟩)
    · obtain ⟨opens, closes⟩ := minutesOn_bounds parsed
      obtain ⟨w, here, within⟩ := (window (dayOfReading (z.wall t)) (by omega)).mpr
        ⟨minutes, parsed, by
          unfold dayOfReading
          unfold dayMs at opened closed
          split_ifs <;> omega⟩
      exact ⟨w, ⟨_, by omega, high, by omega, here, lt_of_le_of_lt after within.2,
        lt_of_le_of_lt within.1 before⟩, within⟩
    · obtain ⟨opens, closes⟩ := minutesOn_bounds parsed
      have soon := early _ _ parsed
      obtain ⟨w, here, within⟩ := (window (dayOfReading (z.wall t) - 1) low).mpr
        ⟨minutes, parsed, by
          unfold dayOfReading
          unfold dayMs at closed
          rw [if_pos overnight]
          omega⟩
      exact ⟨w, ⟨_, low, by omega, by omega, here, lt_of_le_of_lt after within.2,
        lt_of_le_of_lt within.1 before⟩, within⟩

theorem Mild.firstDay_lt_lastDay (mild : z.Mild) {source target : Int} (ordered : source < target) :
    z.firstDay source < z.lastDay target := by
  have today := (mild.wall_day (source - 86400000)).1
  have tomorrow := (mild.wall_day source).1
  have later := mild.wall_le (s := source + 86400000) (t := target + 86400000) (by omega)
  rw [sub_add_cancel] at today
  unfold lastDay firstDay dayAt dayOfReading
  omega

/-- Before the year 100 the walk leaves its century at the first step. -/
theorem Mild.walk_early (mild : z.Mild) {source target : Int} (ordered : source < target)
    (era : yearOne ≤ z.firstDay source * 86400000)
    (early : z.firstDay source * 86400000 < yearHundred) :
    ∃ n, year1901 ≤ n * 86400000 ∧ ∀ fuel, (z.walk source target (fuel + 1)).map LocalParts.localDate =
      localDateOf (z.firstDay source) ::
        (daysFrom (n + 1) (min fuel (z.lastDay target - n).toNat)).map localDateOf := by
  obtain ⟨n, start, reads⟩ := dateUTC_startOf (z.firstDay source)
  have late := startOf_early era early
  rw [start] at late
  have hundred := yearHundred_eq
  have century := year1901_eq
  refine ⟨n, late, fun fuel => ?_⟩
  have date := localDate_utcZone (z.wall (source - 86400000))
  have civil : (⟨(utcZone (z.wall (source - 86400000))).year, (utcZone (z.wall (source - 86400000))).month,
      (utcZone (z.wall (source - 86400000))).day⟩ : CivilDate) = civilOf (z.firstDay source) :=
    congrArg Prod.fst date
  have noon : dateUTC (utcZone (z.wall (source - 86400000))).year
      (utcZone (z.wall (source - 86400000))).month (utcZone (z.wall (source - 86400000))).day 12 0 0 =
        n * 86400000 + 43200000 := by
    have same := reads 12 0
    rw [← civil] at same
    rw [same]
    norm_num
  have next := mild.nextCursor noon (by omega)
  have rest := mild.localDays (z.lastDay target) fuel (n + 1) _ next (by omega)
  have start : (utcZone (z.wall (source - 86400000))).dateKey = dateKey (civilOf (z.firstDay source)) :=
    dateKey_of_localDate date
  have stop : (utcZone (z.wall (target + 86400000))).dateKey = dateKey (civilOf (z.lastDay target)) :=
    dateKey_of_localDate (localDate_utcZone _)
  have key : ¬ dateKey (civilOf (z.lastDay target)) < dateKey (civilOf (z.firstDay source)) :=
    lt_asymm (dateKey_lt (mild.firstDay_lt_lastDay ordered))
  have count : z.lastDay target + 1 - (n + 1) = z.lastDay target - n := by omega
  rw [TimeZone.walk, dayBefore, dayAfter, toLocalParts_clock, toLocalParts_clock, stop,
    Atrium.localDays, start, if_neg key, List.map_cons, rest, date, count]
  rfl

theorem Mild.not_covers (mild : z.Mild) {hours : OperatingHours} {source target : Int}
    (ordered : source < target) (short : target - source ≤ 366 * dayMs)
    (era : yearOne ≤ z.wall (source - 86400000))
    (early : z.wall (source - 86400000) < yearHundred) : ¬ z.Covers hours source target := by
  intro covers
  have within := mild.firstDay_lt_lastDay ordered
  have hundred := yearHundred_eq
  have century := year1901_eq
  have first := yearOne_eq
  have last : z.lastDay target * 86400000 ≤ target + 172800000 := by
    have near := (z.wall_near (target + 86400000)).2
    unfold lastDay dayAt dayOfReading
    omega
  have before := (z.wall_near (source - 86400000)).1
  have start : z.firstDay source = z.wall (source - 86400000) / 86400000 := rfl
  rw [dayMs] at short
  obtain ⟨n, late, walked⟩ := mild.walk_early ordered (by omega) (by omega)
  have none_ : (z.lastDay target - n).toNat = 0 := by omega
  have dates := covers.visits
  rw [walked 799, none_, Nat.min_zero] at dates
  have lengths := congrArg List.length dates
  rw [List.length_cons, List.length_map, List.length_map, length_daysFrom, length_daysFrom] at lengths
  omega

/-- **The windows of a range cover the open time exactly from the year 100 on**, for any zone
whose transitions are of at most two hours. -/
theorem covers_iff (z : TimeZone) (mild : z.Mild) (hours : OperatingHours) (source target : Int)
    (ordered : source < target) (short : target - source ≤ 366 * dayMs)
    (era : yearOne ≤ z.wall (source - 86400000))
    (away : z.wall (source - 86400000) < yearHundred ∨
      yearHundred + 3 * dayMs ≤ z.wall (source - 86400000)) :
    z.Covers hours source target ↔ yearHundred ≤ z.wall (source - 86400000) := by
  have few := days_le (z := z) short
  rcases away with early | modern
  · exact iff_of_false (mild.not_covers ordered short era early) (not_le.mpr early)
  · have first := firstDay_modern modern
    have visits := mild.walk_dates target first 800
    rw [Nat.min_eq_right (by omega)] at visits
    refine iff_of_true
      { visits := visits
        uncut := fun more => localDays_of_short 800 _ more ?_
        sorted := List.pairwise_insertionSort _ _
        open_ := fun calm early t => mild.open_iff short modern calm early } ?_
    · have dates := congrArg List.length visits
      rw [List.length_map, List.length_map, length_daysFrom] at dates
      exact lt_of_eq_of_lt dates few
    · rw [dayMs] at modern
      omega

theorem single_mild {at_ before after : Int} {whole : at_ % 1000 = 0 ∧ before % 1000 = 0 ∧ after % 1000 = 0}
    {bounded : |before| < 86400000 ∧ |after| < 86400000} (short : |after - before| ≤ 7200000) :
    (single at_ before after whole bounded).Mild := by
  intro t
  show |(if t < at_ then before else after) - if t - 1 < at_ then before else after| ≤ 7200000
  rw [abs_le] at short ⊢
  split_ifs <;> omega

end TimeZone

namespace Sample

/-- Open on Friday nights. -/
def fridays : OperatingHours := ⟨none, none, none, none, none, some ⟨"18:00", "02:00"⟩, none⟩

end Sample

/-- The last week of March 2025 in London. -/
theorem TimeZone.covers_march : Sample.london.Covers Sample.fridays 1742947200000 1743552000000 :=
  (TimeZone.covers_iff Sample.london (TimeZone.single_mild (by decide)) Sample.fridays 1742947200000
    1743552000000 (by decide) (by decide) (by decide) (.inr (by decide))).mpr (by decide)

/-- A day of June in the year 50: the walk goes on in 1950. -/
theorem TimeZone.covers_refuted : ¬ ∀ (z : TimeZone) (hours : OperatingHours) (source target : Int),
    z.Mild → source < target → target - source ≤ 366 * dayMs → z.Covers hours source target := by
  intro claim
  have mild : Sample.london.Mild := TimeZone.single_mild (by decide)
  exact mild.not_covers (by decide) (by decide) (by decide) (by decide)
    (claim Sample.london Sample.fridays (utcInstant 50 6 1 0 0 0) (utcInstant 50 6 2 0 0 0) mild
      (by decide) (by decide))

end Atrium
