/-
# UsableHours -- from a stored entry to a window

The schema takes any two texts for a day's hours, and a second parser decides what they
mean.  A date's window is not empty exactly where both are readings of a clock and the
venue does not open at 24:00 to close at midnight (`usable_iff`).
-/
import Atrium.OpenWindows

namespace Atrium

set_option autoImplicit false

namespace TimeZone

variable {z : TimeZone}

variable (z) in
/-- No transition from three days before a reading to four days after it. -/
def CalmAround (reading : Int) : Prop :=
  ∀ s, reading - 259200000 ≤ s → s ≤ reading + 345600000 → z.offset s = z.offset reading

theorem CalmAround.resolve {start : Int} (calm : z.CalmAround start) (reading : Int)
    (after : start - 86400000 ≤ reading) (before : reading ≤ start + 172800000) :
    z.resolve reading = reading - z.offset start := by
  have bound := abs_lt.mp (z.bounded start)
  have first := calm reading (by omega) (by omega)
  have settled := calm (reading - z.offset start) (by omega) (by omega)
  rw [TimeZone.resolve, first, settled, settled]

theorem CalmAround.nextLocalDay {year month date n : Int} (calm : z.CalmAround (n * 86400000))
    (noon : dateUTC year month date 12 0 0 = n * 86400000 + 43200000)
    (modern : yearHundred + 172800000 ≤ n * 86400000) :
    Atrium.nextLocalDay z.clock year month date = civilOf (n + 1) := by
  have bound := abs_lt.mp (z.bounded (n * 86400000))
  have resolved := calm.resolve (n * 86400000 + 43200000) (by omega) (by omega)
  have later : addMinutes (n * 86400000 + 43200000 - z.offset (n * 86400000)) (24 * 60) =
      n * 86400000 + 43200000 - z.offset (n * 86400000) + 86400000 := rfl
  have offset := calm (n * 86400000 + 43200000 - z.offset (n * 86400000) + 86400000)
    (by omega) (by omega)
  have date : z.wall (n * 86400000 + 43200000 - z.offset (n * 86400000) + 86400000) / 86400000 =
      n + 1 := by
    rw [wall, offset]
    omega
  rw [Atrium.nextLocalDay, fromLocalParts_clock (by rw [noon]; omega), noon, resolved, later,
    toLocalParts_clock, ← date]
  rfl

/-- Away from transitions a window is empty only between two midnights that are one. -/
theorem CalmAround.window_open {n openMinutes closeMinutes : Int}
    (calm : z.CalmAround (n * 86400000)) (opens : 0 ≤ openMinutes ∧ openMinutes ≤ 1440)
    (closes : 0 ≤ closeMinutes ∧ closeMinutes ≤ 1440) :
    (z.window n openMinutes closeMinutes).opensAt < (z.window n openMinutes closeMinutes).closesAt ↔
      ¬ (openMinutes = 1440 ∧ closeMinutes % 1440 = 0) := by
  have opened := calm.resolve (n * 86400000 + openMinutes * 60000) (by omega) (by omega)
  have tomorrow := calm.resolve ((n + 1) * 86400000 + closeMinutes % 1440 * 60000)
    (by omega) (by omega)
  have closed := calm.resolve (n * 86400000 + closeMinutes % 1440 * 60000)
    (by omega) (by omega)
  have midnight := calm.resolve ((n + 1) * 86400000) (by omega) (by omega)
  have cancel : ∀ x y : Int, x - z.offset (n * 86400000) < y - z.offset (n * 86400000) ↔ x < y :=
    fun x y => sub_lt_sub_iff_right _
  have cancel' : ∀ x y : Int, x - z.offset (n * 86400000) ≤ y - z.offset (n * 86400000) ↔ x ≤ y :=
    fun x y => sub_le_sub_iff_right _
  unfold window
  rw [opened, tomorrow, closed, midnight]
  simp only [cancel']
  split_ifs with overnight early
  · rw [cancel]
    omega
  · rw [cancel]
    omega
  · rw [cancel]
    omega

end TimeZone

/-- **A day configured as open is open**: exactly where its texts are two readings of a clock
and it does not open at 24:00 to close at midnight. -/
theorem TimeZone.usable_iff (z : TimeZone) (hours : OperatingHours) (day : Int)
    (era : yearHundred + 2 * dayMs ≤ startOf day) (calm : z.CalmAround (startOf day)) :
    (∃ w, z.windowOn hours day = some w ∧ w.opensAt < w.closesAt) ↔
      ∃ minutes, hours.minutesOn (weekdayOf day) = some minutes ∧
        ¬ (minutes.1 = 1440 ∧ minutes.2 % 1440 = 0) := by
  obtain ⟨n, start, reads⟩ := dateUTC_startOf day
  rw [dayMs] at era
  rw [start] at era calm
  have noon : dateUTC (civilOf day).year (civilOf day).month (civilOf day).day 12 0 0 =
      n * 86400000 + 43200000 := by
    rw [reads]
    norm_num
  have window : z.windowOn hours day = (hours.minutesOn (weekdayOf day)).map fun minutes =>
      z.window n minutes.1 minutes.2 :=
    windowForLocalDate_clock hours reads (by omega) (calm.nextLocalDay noon (by omega)) _
  rw [window]
  constructor
  · rintro ⟨w, here, lasts⟩
    obtain ⟨minutes, parsed, rfl⟩ := Option.map_eq_some_iff.mp here
    obtain ⟨opens, closes⟩ := minutesOn_bounds parsed
    exact ⟨minutes, parsed, (calm.window_open opens closes).mp lasts⟩
  · rintro ⟨minutes, parsed, usable⟩
    obtain ⟨opens, closes⟩ := minutesOn_bounds parsed
    exact ⟨_, by rw [parsed, Option.map_some], (calm.window_open opens closes).mpr usable⟩

namespace Sample

/-- Mondays from nine to five, the nine written with one digit. -/
def mondays : Json :=
  .obj [("sun", .null), ("mon", .obj [("open", .str "9:00"), ("close", .str "17:00")]),
    ("tue", .null), ("wed", .null), ("thu", .null), ("fri", .null), ("sat", .null)]

end Sample

/-- A Friday of June 2025. -/
theorem TimeZone.usable_friday :
    ∃ w, Sample.london.windowOn Sample.fridays 20245 = some w ∧ w.opensAt < w.closesAt := by
  refine (TimeZone.usable_iff Sample.london Sample.fridays 20245 (by decide) ?_).mpr
    ⟨(1080, 120), by decide, by decide⟩
  intro s low high
  show (if s < 1743296400000 then 0 else 3600000) = 3600000
  have start : startOf 20245 = 20245 * 86400000 := by decide
  rw [start] at low
  rw [if_neg (by omega)]

/-- The entry is accepted, and the day is closed. -/
theorem TimeZone.usable_refuted : ¬ ∀ (raw : Json) (hours : OperatingHours) (z : TimeZone) (day : Int),
    parseOperatingHours raw = some hours → z.CalmAround (startOf day) →
      (hours.on (weekdayOf day)).isSome →
        ∃ w, z.windowOn hours day = some w ∧ w.opensAt < w.closesAt := by
  intro claim
  have calm : Sample.london.CalmAround (startOf 20241) := by
    intro s low high
    show (if s < 1743296400000 then 0 else 3600000) = 3600000
    have start : startOf 20241 = 20241 * 86400000 := by decide
    rw [start] at low
    rw [if_neg (by omega)]
  obtain ⟨w, here, -⟩ := claim Sample.mondays ⟨none, some ⟨"9:00", "17:00"⟩, none, none, none, none, none⟩
    Sample.london 20241 (by rfl) calm (by decide)
  have none_ : Sample.london.windowOn ⟨none, some ⟨"9:00", "17:00"⟩, none, none, none, none, none⟩
    20241 = none := by rfl
  rw [none_] at here
  cases here

end Atrium
