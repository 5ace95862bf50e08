/-
# HoursAgreement -- two readings of the opening hours

`isWithinOperatingHours` looks at the window of the local date of a period's start and at
that of the instant 24 hours before; `openWindowsBetween` walks the calendar.  The two
differ in two places (`agree_iff`): on the date between those two, which a short day leaves
out, and on the next date, whose opening a transition at midnight can set back.  Away from
transitions they agree (`Mild.agree_calm`).
-/
import Atrium.OpenWindows

namespace Atrium

open Atrium.Base.StepFunction

set_option autoImplicit false

namespace TimeZone

variable {z : TimeZone} {hours : OperatingHours}

variable (z) in
/-- The whole period is inside the window of a date. -/
def Fits (hours : OperatingHours) (day startsAt endsAt : Int) : Prop :=
  ∃ w, z.windowOn hours day = some w ∧ w.opensAt ≤ startsAt ∧ endsAt ≤ w.closesAt

variable (z) in
/-- The two readings agree on a period. -/
def Agree (hours : OperatingHours) (startsAt endsAt : Int) : Prop :=
  isWithinOperatingHours hours z.clock startsAt endsAt = true ↔
    ∃ w ∈ openWindowsBetween hours z.clock startsAt endsAt, w.opensAt ≤ startsAt ∧ endsAt ≤ w.closesAt

variable (z) in
/-- The period is inside the window of the date it starts on or of the date 24 hours before;
or it is in that of neither the next date, nor the one between those two. -/
def SameDates (hours : OperatingHours) (startsAt endsAt : Int) : Prop :=
  z.Fits hours (z.dayAt startsAt) startsAt endsAt ∨
    z.Fits hours (z.dayAt (startsAt - 86400000)) startsAt endsAt ∨
    (¬ z.Fits hours (z.dayAt startsAt + 1) startsAt endsAt ∧
      (z.dayAt (startsAt - 86400000) + 2 = z.dayAt startsAt →
        ¬ z.Fits hours (z.dayAt startsAt - 1) startsAt endsAt))

theorem within_iff {startsAt endsAt : Int} :
    isWithinOperatingHours hours z.clock startsAt endsAt = true ↔
      z.Fits hours (z.dayAt startsAt) startsAt endsAt ∨
        z.Fits hours (z.dayAt (startsAt - 86400000)) startsAt endsAt := by
  have candidate : ∀ w : Option OpenWindow,
      (w.any fun w => decide (w.opensAt ≤ startsAt ∧ endsAt ≤ w.closesAt)) = true ↔
        ∃ w', w = some w' ∧ w'.opensAt ≤ startsAt ∧ endsAt ≤ w'.closesAt := by
    intro w
    cases w <;> simp
  rw [isWithinOperatingHours, dayBefore, windowForLocalDay_clock, windowForLocalDay_clock]
  simp only [List.any_cons, List.any_nil, Bool.or_false, Bool.or_eq_true, candidate]
  rfl

theorem window_opensAt (day openMinutes closeMinutes : Int) :
    (z.window day openMinutes closeMinutes).opensAt =
      z.resolve (day * 86400000 + openMinutes * 60000) := by
  unfold window
  dsimp only
  split_ifs <;> rfl

/-- A window that opens by an instant is of no date after the next. -/
theorem Mild.fits_date (mild : z.Mild) {day startsAt endsAt : Int}
    (modern : yearHundred + 172800000 ≤ day * 86400000) (fits : z.Fits hours day startsAt endsAt) :
    day * 86400000 ≤ z.wall startsAt + 14400000 := by
  obtain ⟨w, here, opens, -⟩ := fits
  rw [mild.windowOn hours modern] at here
  obtain ⟨minutes, parsed, rfl⟩ := Option.map_eq_some_iff.mp here
  have least := (minutesOn_bounds parsed).1.1
  rw [window_opensAt] at opens
  have near := mild.resolve_near (day * 86400000 + minutes.1 * 60000)
  have order := mild.wall_le opens
  omega

/-- The date of an instant and that of 24 hours before are at most two apart. -/
theorem Mild.dates_close (mild : z.Mild) (t : Int) :
    z.dayAt (t - 86400000) ≤ z.dayAt t ∧ z.dayAt t ≤ z.dayAt (t - 86400000) + 2 := by
  have lasts := mild.wall_day (t - 86400000)
  rw [sub_add_cancel] at lasts
  unfold dayAt dayOfReading
  omega

/-- **What each reading looks at.** -/
theorem Mild.some_window_iff (mild : z.Mild) {startsAt endsAt : Int} (ordered : startsAt < endsAt)
    (modern : yearHundred + 172800000 ≤ z.firstDay startsAt * 86400000) :
    (∃ w ∈ openWindowsBetween hours z.clock startsAt endsAt,
        w.opensAt ≤ startsAt ∧ endsAt ≤ w.closesAt) ↔
      z.Fits hours (z.dayAt startsAt) startsAt endsAt ∨
        z.Fits hours (z.dayAt (startsAt - 86400000)) startsAt endsAt ∨
        z.Fits hours (z.dayAt startsAt + 1) startsAt endsAt ∨
        (z.dayAt (startsAt - 86400000) + 2 = z.dayAt startsAt ∧
          z.Fits hours (z.dayAt startsAt - 1) startsAt endsAt) := by
  obtain ⟨low, high⟩ := mild.dates_close startsAt
  have start : z.firstDay startsAt = z.dayAt (startsAt - 86400000) := rfl
  have stays := mild.wall_le (s := startsAt + 86400000) (t := endsAt + 86400000) (by omega)
  have lasts := (mild.wall_day startsAt).1
  -- Any date that the period fits, from the first to the next, is visited.
  have visited : ∀ day, z.firstDay startsAt ≤ day → day ≤ z.dayAt startsAt + 1 →
      z.Fits hours day startsAt endsAt →
        ∃ w ∈ openWindowsBetween hours z.clock startsAt endsAt,
          w.opensAt ≤ startsAt ∧ endsAt ≤ w.closesAt := by
    intro day first last fits
    have date := mild.fits_date (by omega) fits
    obtain ⟨w, here, opens, closes⟩ := fits
    refine ⟨w, (mild.mem_openWindowsBetween modern).mpr ⟨day, first, ?_, by omega, here,
      lt_of_lt_of_le ordered closes, lt_of_le_of_lt opens ordered⟩, opens, closes⟩
    unfold lastDay dayAt dayOfReading
    omega
  constructor
  · rintro ⟨w, among, opens, closes⟩
    obtain ⟨day, first, -, -, here, -⟩ := (mild.mem_openWindowsBetween modern).mp among
    have fits : z.Fits hours day startsAt endsAt := ⟨w, here, opens, closes⟩
    have date := mild.fits_date (by omega) fits
    have last : day ≤ z.dayAt startsAt + 1 := by
      unfold dayAt dayOfReading
      omega
    rcases eq_or_ne day (z.dayAt startsAt) with rfl | other
    · exact .inl fits
    · rcases eq_or_ne day (z.dayAt (startsAt - 86400000)) with rfl | other'
      · exact .inr (.inl fits)
      · rcases eq_or_ne day (z.dayAt startsAt + 1) with rfl | other''
        · exact .inr (.inr (.inl fits))
        · have between : day = z.dayAt startsAt - 1 := by
            omega
          subst between
          exact .inr (.inr (.inr ⟨by omega, fits⟩))
  · rintro (fits | fits | fits | ⟨short, fits⟩)
    · exact visited _ low (by omega) fits
    · exact visited _ start.le (by omega) fits
    · exact visited _ (by omega) le_rfl fits
    · exact visited _ (by omega) (by omega) fits

/-! ## The first century -/

theorem lt_window_opensAt (day closeMinutes : Int) {openMinutes : Int} (least : 0 ≤ openMinutes) :
    day * 86400000 - 86400000 < (z.window day openMinutes closeMinutes).opensAt := by
  have bound := (abs_lt.mp (z.bounded (day * 86400000 + openMinutes * 60000 -
    z.offset (day * 86400000 + openMinutes * 60000 - z.offset (day * 86400000 + openMinutes * 60000))))).2
  rw [window_opensAt, TimeZone.resolve]
  linarith

/-- A date that is taken for one of the twentieth century opens in that. -/
theorem Mild.opens_late (mild : z.Mild) {day : Int} (era : yearOne ≤ day * 86400000)
    (early : day * 86400000 < yearHundred) {w : OpenWindow} (here : z.windowOn hours day = some w) :
    year1901 - 86400000 < w.opensAt := by
  have hundred := yearHundred_eq
  have century := year1901_eq
  have late := startOf_early era early
  obtain ⟨n, start, reads⟩ := dateUTC_startOf day
  rw [start] at late
  have noon : dateUTC (civilOf day).year (civilOf day).month (civilOf day).day 12 0 0 =
      n * 86400000 + 43200000 := by
    rw [reads]
    norm_num
  have window : z.windowOn hours day = (hours.minutesOn (weekdayOf day)).map fun minutes =>
      z.window n minutes.1 minutes.2 :=
    windowForLocalDate_clock hours reads (by omega) (mild.nextLocalDay noon (by omega)) _
  rw [window] at here
  obtain ⟨minutes, parsed, rfl⟩ := Option.map_eq_some_iff.mp here
  have opens := lt_window_opensAt (z := z) n minutes.2
    (minutesOn_bounds parsed).1.1
  linarith

theorem Mild.windows_late (mild : z.Mild) {source target : Int} (ordered : source < target)
    (era : yearOne ≤ z.firstDay source * 86400000)
    (early : z.firstDay source * 86400000 < yearHundred) {w : OpenWindow}
    (among : w ∈ openWindowsBetween hours z.clock source target) : year1901 - 86400000 < w.opensAt := by
  have hundred := yearHundred_eq
  have century := year1901_eq
  obtain ⟨n, late, walked⟩ := mild.walk_early ordered era early
  obtain ⟨date, visited, here, -⟩ := TimeZone.mem_openWindowsBetween.mp among
  rw [walked 799, List.mem_cons, List.mem_map] at visited
  rcases visited with rfl | ⟨day, within, rfl⟩
  · exact mild.opens_late era early here
  · have after := (mem_daysFrom.mp within).1
    have stored : z.windowOn hours day = some w := here
    rw [mild.windowOn hours (by omega)] at stored
    obtain ⟨minutes, parsed, rfl⟩ := Option.map_eq_some_iff.mp stored
    have opens := lt_window_opensAt (z := z) day minutes.2
      (minutesOn_bounds parsed).1.1
    linarith

/-- **Where the two readings agree**: for any zone whose transitions are of at most two hours,
and any hours and period. -/
theorem agree_iff (z : TimeZone) (mild : z.Mild) (hours : OperatingHours) (startsAt endsAt : Int)
    (ordered : startsAt < endsAt) (era : yearOne + 2 * dayMs ≤ startsAt)
    (away : startsAt + 3 * dayMs ≤ yearHundred ∨ yearHundred + 5 * dayMs ≤ startsAt) :
    z.Agree hours startsAt endsAt ↔ z.SameDates hours startsAt endsAt := by
  have before := z.wall_near (startsAt - 86400000)
  have here := z.wall_near startsAt
  obtain ⟨low, high⟩ := mild.dates_close startsAt
  rw [dayMs] at era away
  rw [Agree, within_iff, SameDates]
  rcases away with early | modern
  · have century := year1901_eq
    have hundred := yearHundred_eq
    have one := yearOne_eq
    -- Every window near a date of the first century opens in the twentieth.
    have none_ : ∀ day, z.dayAt (startsAt - 86400000) ≤ day → day ≤ z.dayAt startsAt + 1 →
        ¬ z.Fits hours day startsAt endsAt := by
      rintro day first last ⟨w, stored, opens, -⟩
      unfold dayAt dayOfReading at first last
      have late := mild.opens_late (by omega) (by omega) stored
      linarith
    have missing : ¬ ∃ w ∈ openWindowsBetween hours z.clock startsAt endsAt,
        w.opensAt ≤ startsAt ∧ endsAt ≤ w.closesAt := by
      rintro ⟨w, among, opens, -⟩
      have start : z.firstDay startsAt = z.wall (startsAt - 86400000) / 86400000 := rfl
      have late := mild.windows_late ordered (by omega) (by omega) among
      linarith
    have today := none_ _ low (by omega)
    have yesterday := none_ _ le_rfl (by omega)
    have tomorrow := none_ (z.dayAt startsAt + 1) (by omega) le_rfl
    refine iff_of_true (iff_of_false ?_ missing) (.inr (.inr ⟨tomorrow, fun short => ?_⟩))
    · rintro (fits | fits)
      · exact today fits
      · exact yesterday fits
    · exact none_ _ (by omega) (by omega)
  · have first : yearHundred + 172800000 ≤ z.firstDay startsAt * 86400000 := by
      unfold firstDay dayAt dayOfReading
      omega
    rw [mild.some_window_iff ordered first]
    constructor
    · intro agree
      by_cases today : z.Fits hours (z.dayAt startsAt) startsAt endsAt
      · exact .inl today
      · by_cases yesterday : z.Fits hours (z.dayAt (startsAt - 86400000)) startsAt endsAt
        · exact .inr (.inl yesterday)
        · refine .inr (.inr ⟨fun tomorrow => ?_, fun short between => ?_⟩)
          · exact (agree.mpr (.inr (.inr (.inl tomorrow)))).elim today yesterday
          · exact (agree.mpr (.inr (.inr (.inr ⟨short, between⟩)))).elim today yesterday
    · intro same
      constructor
      · rintro (today | yesterday)
        · exact .inl today
        · exact .inr (.inl yesterday)
      · rintro (today | yesterday | tomorrow | ⟨short, between⟩)
        · exact .inl today
        · exact .inr yesterday
        · rcases same with today | yesterday | ⟨none_, -⟩
          · exact .inl today
          · exact .inr yesterday
          · exact absurd tomorrow none_
        · rcases same with today | yesterday | ⟨-, none_⟩
          · exact .inl today
          · exact .inr yesterday
          · exact absurd between (none_ short)

/-- Away from transitions the two readings agree. -/
theorem Mild.agree_calm (mild : z.Mild) {startsAt endsAt : Int} (ordered : startsAt < endsAt)
    (modern : yearHundred + 5 * dayMs ≤ startsAt) (calm : z.CalmAt startsAt) :
    z.Agree hours startsAt endsAt := by
  have before := z.wall_near (startsAt - 86400000)
  rw [dayMs] at modern
  have first : yearHundred + 172800000 ≤ z.firstDay startsAt * 86400000 := by
    unfold firstDay dayAt dayOfReading
    omega
  have day := calm (startsAt - 86400000) (by omega) (by omega)
  have apart : z.dayAt (startsAt - 86400000) + 1 = z.dayAt startsAt := by
    unfold dayAt dayOfReading wall
    rw [day]
    omega
  have tomorrow : ¬ z.Fits hours (z.dayAt startsAt + 1) startsAt endsAt := by
    rintro ⟨w, here, opens, -⟩
    have start : z.firstDay startsAt = z.dayAt (startsAt - 86400000) := rfl
    rw [mild.windowOn hours (by omega)] at here
    obtain ⟨minutes, parsed, rfl⟩ := Option.map_eq_some_iff.mp here
    have least := (minutesOn_bounds parsed).1.1
    rw [window_opensAt, calm.resolve_le_iff mild] at opens
    unfold dayAt dayOfReading at opens
    omega
  rw [Agree, within_iff, mild.some_window_iff ordered first]
  constructor
  · rintro (fits | fits)
    · exact .inl fits
    · exact .inr (.inl fits)
  · rintro (fits | fits | fits | ⟨short, -⟩)
    · exact .inl fits
    · exact .inr fits
    · exact absurd fits tomorrow
    · omega

end TimeZone

namespace Sample

/-- New York around the second Sunday of March 2025: at 07:00 UTC its clock goes forward. -/
def newYork : TimeZone := .single 1741503600000 (-18000000) (-14400000) (by decide) (by decide)

theorem newYork_mild : newYork.Mild := TimeZone.single_mild (by decide)

/-- Open on Sunday nights. -/
def sundays : OperatingHours := ⟨some ⟨"18:00", "02:00"⟩, none, none, none, none, none, none⟩

end Sample

/-- The night of a Sunday of June 2025, from ten to eleven. -/
theorem TimeZone.agree_june : Sample.newYork.Agree Sample.sundays 1749434400000 1749438000000 :=
  (TimeZone.agree_iff Sample.newYork Sample.newYork_mild Sample.sundays 1749434400000 1749438000000
    (by decide) (by decide) (.inr (by decide))).mpr
    (.inl ⟨_, rfl, by decide, by decide⟩)

/-- Half past midnight after the short Sunday: 24 hours before was a Saturday. -/
theorem TimeZone.agree_refuted : ¬ ∀ (z : TimeZone) (hours : OperatingHours) (startsAt endsAt : Int),
    z.Mild → startsAt < endsAt → z.Agree hours startsAt endsAt := by
  intro claim
  have agree := claim Sample.newYork Sample.sundays 1741581000000 1741584600000 Sample.newYork_mild
    (by decide)
  have listed : (openWindowsBetween Sample.sundays Sample.newYork.clock 1741581000000 1741584600000).any
      (fun w => decide (w.opensAt ≤ 1741581000000 ∧ 1741584600000 ≤ w.closesAt)) = true := by
    decide +kernel
  have refused : isWithinOperatingHours Sample.sundays Sample.newYork.clock 1741581000000
      1741584600000 = false := by
    decide +kernel
  obtain ⟨w, among, contains⟩ := List.any_eq_true.mp listed
  have accepted := agree.mpr ⟨w, among, of_decide_eq_true contains⟩
  rw [refused] at accepted
  cases accepted

end Atrium
