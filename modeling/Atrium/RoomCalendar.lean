/-
# RoomCalendar -- the seeded bookings of one room

The seed walks a room's calendar with a cursor: each turn of the loop comes to the opening
of the cursor's date, draws a duration, and takes the stretch where it ends by closing, or
else goes to a later morning (`turn_cases`).  A first walk counts the stretches, and a
second one takes so many of them, by a stride.

The cursor only goes forward, so the bookings are fifteen minutes apart, and the stride
takes exactly as many as it is asked for.  What a walk can get wrong is the hours: opening
and closing are resolved as the corrections do it, and between the two the clock can show
another time (`legal_iff`).
-/
import Atrium.BookingStateMachine
import Atrium.OpenWindows

namespace Atrium.Seed

open Atrium.Base.StepFunction

set_option autoImplicit false

/-! ## The walk -/

/-- The hours of an open day, as `operatingHours` writes them: whole, and closing after
opening, at 23:00 at the latest. -/
structure WholeHours where
  opens : Nat
  closes : Nat
  ordered : opens < closes
  latest : closes ≤ 23

/-- Per weekday, `none` where the venue is closed. -/
abbrev WeeklyHours := Weekday → Option WholeHours

/-- `state / 0x1_0000_0000`: what a generator of `makeRng` returns. -/
abbrev Draw := Fin 4294967296

/-- `lo + Math.floor(rng() * (hi - lo + 1))`. -/
def intBetween (draw : Draw) (lo hi : Nat) : Nat := lo + draw.val * (hi - lo + 1) / 4294967296

structure Slot where
  startsAt : Int
  endsAt : Int
  deriving DecidableEq

/-- `00:00 local on the day after`, from the date of twelve hours later. -/
def nextLocalMorning (zone : Zone) (instant : Instant) : Instant :=
  let noon := addMinutes instant (12 * 60)
  let p := toLocalParts zone noon
  fromLocalParts zone p.year p.month (p.day + 1) 0 0

/-- What one turn of the loop yields, whether it draws, and where it leaves the cursor. -/
structure Turn where
  slot : Option Slot
  draws : Bool
  cursor : Int

/-- The body of the loop of `candidateSlots`. -/
def turn (zone : Zone) (hours : WeeklyHours) (draw : Draw) (cursor : Int) : Turn :=
  let p := toLocalParts zone cursor
  match hours p.weekday with
  | none => ⟨none, false, nextLocalMorning zone cursor⟩
  | some day =>
      let dayOpen : Int := fromLocalParts zone p.year p.month p.day day.opens 0
      let dayClose : Int := fromLocalParts zone p.year p.month p.day ((day.closes : Int) % 24) 0
      let start := if cursor < dayOpen then dayOpen else cursor
      if dayClose ≤ start then ⟨none, false, nextLocalMorning zone start⟩
      else
        -- One to four hours, on the grid.
        let endsAt : Int := addMinutes start (intBetween draw 2 8 * 30)
        if dayClose < endsAt then ⟨none, true, nextLocalMorning zone start⟩
        else ⟨some ⟨start, endsAt⟩, true, addMinutes endsAt 15⟩

def guardLimit : Nat := 4000000

section Walk

variable (zone : Zone) (hours : WeeklyHours) (geometry : Nat → Draw) (rangeEnd : Int)

/-- The loop: so many turns at most, after so many draws. -/
def slotsFrom : Nat → Nat → Int → List Slot
  | 0, _, _ => []
  | guard + 1, drawn, cursor =>
      if cursor < rangeEnd then
        let t := turn zone hours (geometry drawn) cursor
        t.slot.toList ++ slotsFrom guard (if t.draws then drawn + 1 else drawn) t.cursor
      else []

variable (rangeStart : Int)

def candidateSlots : List Slot := slotsFrom zone hours geometry rangeEnd guardLimit 0 rangeStart

def countRoomSlots : Nat := (candidateSlots zone hours geometry rangeEnd rangeStart).length

/-- The emitting loop, at candidate `index` with so many drafts. -/
def takeSlots (want capacity : Nat) : Nat → Nat → List Slot → List Slot
  | _, _, [] => []
  | index, emitted, slot :: rest =>
      if index * want / capacity < (index + 1) * want / capacity then
        if want ≤ emitted then []
        else slot :: takeSlots want capacity (index + 1) (emitted + 1) rest
      else takeSlots want capacity (index + 1) emitted rest

/-- The periods of the drafts. -/
def walkRoomCalendar (target capacity : Nat) : List Slot :=
  if target = 0 ∨ capacity = 0 then []
  else takeSlots (min target capacity) capacity 0 0
    (candidateSlots zone hours geometry rangeEnd rangeStart)

end Walk

/-! ## The stride -/

/-- **The stride takes what it is asked for**: after `index` candidates it has taken the
floor of their share, and all of them have the whole of it. -/
theorem takeSlots_length {want capacity : Nat} (fits : want ≤ capacity) (some_ : 0 < capacity) :
    ∀ (slots : List Slot) (index : Nat), index + slots.length = capacity →
      (takeSlots want capacity index (index * want / capacity) slots).length +
        index * want / capacity = want := by
  intro slots
  induction slots with
  | nil =>
      intro index ends
      have all : index = capacity := ends
      rw [takeSlots, all, Nat.mul_div_cancel_left _ some_]
      exact Nat.zero_add _
  | cons slot rest ih =>
      intro index ends
      have later : index + 1 + rest.length = capacity := by
        rw [List.length_cons] at ends
        omega
      have next := ih (index + 1) later
      have grows : index * want / capacity ≤ (index + 1) * want / capacity :=
        Nat.div_le_div_right (Nat.mul_le_mul_right _ (Nat.le_succ _))
      have step : (index + 1) * want / capacity ≤ index * want / capacity + 1 := by
        rw [← Nat.add_div_right _ some_, Nat.add_mul, Nat.one_mul]
        exact Nat.div_le_div_right (Nat.add_le_add_left fits _)
      rw [takeSlots]
      by_cases take_ : index * want / capacity < (index + 1) * want / capacity
      · have one : (index + 1) * want / capacity = index * want / capacity + 1 := by omega
        rw [one] at next
        rw [if_pos take_, if_neg (by omega), List.length_cons]
        omega
      · have same : (index + 1) * want / capacity = index * want / capacity := by omega
        rw [same] at next
        rw [if_neg take_]
        exact next

theorem takeSlots_sublist (want capacity : Nat) : ∀ (slots : List Slot) (index emitted : Nat),
    (takeSlots want capacity index emitted slots).Sublist slots := by
  intro slots
  induction slots with
  | nil => exact fun index emitted => List.Sublist.slnil
  | cons slot rest ih =>
      intro index emitted
      rw [takeSlots]
      split_ifs
      · exact List.nil_sublist _
      · exact (ih _ _).cons_cons slot
      · exact (ih _ _).cons slot

section Walk

variable {zone : Zone} {hours : WeeklyHours} {geometry : Nat → Draw} {rangeEnd rangeStart : Int}
  {target : Nat}

theorem walkRoomCalendar_sublist (capacity : Nat) :
    (walkRoomCalendar zone hours geometry rangeEnd rangeStart target capacity).Sublist
      (candidateSlots zone hours geometry rangeEnd rangeStart) := by
  rw [walkRoomCalendar]
  split_ifs
  · exact List.nil_sublist _
  · exact takeSlots_sublist _ _ _ _ _

theorem walkRoomCalendar_length :
    (walkRoomCalendar zone hours geometry rangeEnd rangeStart target
      (countRoomSlots zone hours geometry rangeEnd rangeStart)).length =
      min target (countRoomSlots zone hours geometry rangeEnd rangeStart) := by
  rw [walkRoomCalendar]
  by_cases none_ : target = 0 ∨ countRoomSlots zone hours geometry rangeEnd rangeStart = 0
  · rw [if_pos none_, List.length_nil]
    omega
  · have some_ : 0 < countRoomSlots zone hours geometry rangeEnd rangeStart := by omega
    have taken := takeSlots_length (min_le_right target _) some_
      (candidateSlots zone hours geometry rangeEnd rangeStart) 0 (Nat.zero_add _)
    rw [Nat.zero_mul, Nat.zero_div] at taken
    rw [if_neg none_]
    exact taken

/-- With a target that leaves none out, every candidate is taken. -/
theorem walkRoomCalendar_all (enough : countRoomSlots zone hours geometry rangeEnd rangeStart ≤ target) :
    walkRoomCalendar zone hours geometry rangeEnd rangeStart target
        (countRoomSlots zone hours geometry rangeEnd rangeStart) =
      candidateSlots zone hours geometry rangeEnd rangeStart := by
  refine (walkRoomCalendar_sublist _).eq_of_length ?_
  rw [walkRoomCalendar_length, min_eq_right enough]
  rfl

end Walk

/-! ## One turn -/

section Turn

variable (z : TimeZone)

/-- The resolved opening and closing of a date. -/
def opening (day : Int) (h : WholeHours) : Int := z.resolve (day * 86400000 + h.opens * 3600000)

def closing (day : Int) (h : WholeHours) : Int := z.resolve (day * 86400000 + h.closes * 3600000)

/-- The resolved midnight after the date of twelve hours later. -/
def morning (t : Int) : Int := z.resolve ((z.dayAt (t + 43200000) + 1) * 86400000)

/-- Where a turn that comes to an open date begins. -/
def start (cursor : Int) (h : WholeHours) : Int := max cursor (opening z (z.dayAt cursor) h)

/-- The duration drawn, in milliseconds. -/
def length (draw : Draw) : Int := intBetween draw 2 8 * 1800000

/-- From here on every date the walk comes to has a year that `Date.UTC` takes as it is. -/
def Modern (t : Int) : Prop := yearHundred + 4 * dayMs ≤ t

instance : DecidablePred Modern := fun t =>
  inferInstanceAs (Decidable (yearHundred + 4 * dayMs ≤ t))

variable {z}

theorem length_bounds (draw : Draw) : 3600000 ≤ length draw ∧ length draw ≤ 14400000 := by
  have bound := draw.isLt
  unfold length intBetween
  omega

theorem Modern.day {t : Int} (modern : Modern t) :
    yearHundred + 172800000 ≤ z.dayAt t * 86400000 := by
  have wall := (z.wall_near t).1
  unfold Modern dayMs at modern
  unfold TimeZone.dayAt dayOfReading
  omega

theorem Modern.later {t u : Int} (modern : Modern t) (later : t ≤ u) : Modern u :=
  le_trans modern later

theorem civilOf_dayAt (t : Int) : (utcZone (z.wall t)).year = (civilOf (z.dayAt t)).year ∧
    (utcZone (z.wall t)).month = (civilOf (z.dayAt t)).month ∧
    (utcZone (z.wall t)).day = (civilOf (z.dayAt t)).day ∧
    (utcZone (z.wall t)).weekday = weekdayOf (z.dayAt t) := by
  have date := localDate_utcZone (z.wall t)
  simp only [LocalParts.localDate, localDateOf, Prod.mk.injEq] at date
  exact ⟨rfl, rfl, rfl, date.2⟩

theorem fromLocalParts_hour {t : Int} (modern : Modern t) {hour : Int} (least : 0 ≤ hour) :
    fromLocalParts z.clock (utcZone (z.wall t)).year (utcZone (z.wall t)).month
      (utcZone (z.wall t)).day hour 0 = z.resolve (z.dayAt t * 86400000 + hour * 3600000) := by
  obtain ⟨year, month, day, -⟩ := civilOf_dayAt (z := z) t
  have after := modern.day (z := z)
  have target : dateUTC (utcZone (z.wall t)).year (utcZone (z.wall t)).month
      (utcZone (z.wall t)).day hour 0 0 = z.dayAt t * 86400000 + hour * 3600000 := by
    rw [year, month, day, dateUTC_civilOf (by omega)]
    show (_ : Int) = _
    ring
  rw [TimeZone.fromLocalParts_clock (by rw [target]; omega), target]

theorem nextLocalMorning_clock {t : Int} (modern : Modern t) :
    nextLocalMorning z.clock t = morning z t := by
  have noon : addMinutes t (12 * 60) = t + 43200000 := rfl
  have after := (modern.later (show t ≤ t + 43200000 by omega)).day (z := z)
  obtain ⟨year, month, day, -⟩ := civilOf_dayAt (z := z) (t + 43200000)
  have next : ∀ y m d : Int, dayOf y m (d + 1) = dayOf y m d + 1 := by
    intro y m d
    simp only [dayOf]
    omega
  have exact_ : z.dayAt (t + 43200000) * 86400000 / 86400000 = z.dayAt (t + 43200000) := by omega
  have wide : 100 ≤ (civilOf (z.dayAt (t + 43200000))).year := by
    have bound := year_of_le (x := z.dayAt (t + 43200000) * 86400000) (by omega)
    rw [utcZone, exact_] at bound
    exact bound
  have target : dateUTC (utcZone (z.wall (t + 43200000))).year
      (utcZone (z.wall (t + 43200000))).month ((utcZone (z.wall (t + 43200000))).day + 1) 0 0 0 =
      (z.dayAt (t + 43200000) + 1) * 86400000 := by
    rw [year, month, day, dateUTC_of_year wide, utcInstant, next, dayOf_civilOf]
    show (_ : Int) = _
    ring
  rw [nextLocalMorning, noon, TimeZone.toLocalParts_clock,
    TimeZone.fromLocalParts_clock (by rw [target]; omega), target]
  rfl

/-- **A morning is later**, by more than an hour, whatever jumps of two hours lie between. -/
theorem morning_late (mild : z.Mild) (t : Int) : t + 4500000 ≤ morning z t := by
  have near := (mild.resolve_near ((z.dayAt (t + 43200000) + 1) * 86400000)).1
  have drift := abs_le.mp (mild.drift (s := t + 43200000) (t := t) (by omega) (by omega))
  have drift' := abs_le.mp (mild.drift (s := t + 4500000) (t := t) (by omega) (by omega))
  have day : z.wall (t + 43200000) < (z.dayAt (t + 43200000) + 1) * 86400000 := by
    unfold TimeZone.dayAt dayOfReading
    omega
  by_contra before
  have order := mild.wall_le (not_le.mp before).le
  unfold morning at order
  simp only [TimeZone.wall] at near day order
  omega

theorem morning_gt (mild : z.Mild) (t : Int) : t < morning z t :=
  lt_of_lt_of_le (by omega) (morning_late mild t)

/-- **What a turn does.** -/
theorem turn_cases {cursor : Int} (modern : Modern cursor) (hours : WeeklyHours) (draw : Draw) :
    (hours (weekdayOf (z.dayAt cursor)) = none ∧
      turn z.clock hours draw cursor = ⟨none, false, morning z cursor⟩) ∨
    ∃ h, hours (weekdayOf (z.dayAt cursor)) = some h ∧
      ((closing z (z.dayAt cursor) h ≤ start z cursor h ∧
          turn z.clock hours draw cursor = ⟨none, false, morning z (start z cursor h)⟩) ∨
        (start z cursor h < closing z (z.dayAt cursor) h ∧
          closing z (z.dayAt cursor) h < start z cursor h + length draw ∧
          turn z.clock hours draw cursor = ⟨none, true, morning z (start z cursor h)⟩) ∨
        (start z cursor h + length draw ≤ closing z (z.dayAt cursor) h ∧
          turn z.clock hours draw cursor =
            ⟨some ⟨start z cursor h, start z cursor h + length draw⟩, true,
              start z cursor h + length draw + 900000⟩)) := by
  obtain ⟨-, -, -, weekday⟩ := civilOf_dayAt (z := z) cursor
  cases open_ : hours (weekdayOf (z.dayAt cursor)) with
  | none =>
      refine .inl ⟨rfl, ?_⟩
      rw [turn, TimeZone.toLocalParts_clock]
      simp only [weekday, open_, nextLocalMorning_clock modern]
  | some h =>
      refine .inr ⟨h, rfl, ?_⟩
      have latest := h.latest
      have hour : ((h.closes : Int) % 24) = h.closes := by omega
      have opens : fromLocalParts z.clock (utcZone (z.wall cursor)).year
          (utcZone (z.wall cursor)).month (utcZone (z.wall cursor)).day h.opens 0 =
          opening z (z.dayAt cursor) h := fromLocalParts_hour modern (by omega)
      have closes : fromLocalParts z.clock (utcZone (z.wall cursor)).year
          (utcZone (z.wall cursor)).month (utcZone (z.wall cursor)).day h.closes 0 =
          closing z (z.dayAt cursor) h := fromLocalParts_hour modern (by omega)
      have first : (if cursor < opening z (z.dayAt cursor) h then opening z (z.dayAt cursor) h
          else cursor) = start z cursor h := by
        unfold start
        split_ifs <;> omega
      have later : nextLocalMorning z.clock (start z cursor h) = morning z (start z cursor h) :=
        nextLocalMorning_clock (modern.later (le_max_left _ _))
      have ends : addMinutes (start z cursor h) ((intBetween draw 2 8 : Int) * 30) =
          start z cursor h + length draw := by
        unfold addMinutes length
        ring
      have value : turn z.clock hours draw cursor =
          if closing z (z.dayAt cursor) h ≤ start z cursor h then
            ⟨none, false, morning z (start z cursor h)⟩
          else if closing z (z.dayAt cursor) h < start z cursor h + length draw then
            ⟨none, true, morning z (start z cursor h)⟩
          else ⟨some ⟨start z cursor h, start z cursor h + length draw⟩, true,
            start z cursor h + length draw + 900000⟩ := by
        rw [turn, TimeZone.toLocalParts_clock]
        simp only [weekday, open_, hour, opens, closes, first, later, ends]
        rfl
      rw [value]
      split_ifs with shut unfit
      · exact .inl ⟨shut, rfl⟩
      · exact .inr (.inl ⟨not_le.mp shut, unfit, rfl⟩)
      · exact .inr (.inr ⟨not_lt.mp unfit, rfl⟩)

end Turn

/-! ## The run -/

section Run

variable {z : TimeZone} {hours : WeeklyHours} {geometry : Nat → Draw} {rangeEnd : Int}

/-- A turn leaves the cursor later, and fifteen minutes past what it yields. -/
theorem turn_later (mild : z.Mild) {cursor : Int} (modern : Modern cursor) (draw : Draw) :
    cursor < (turn z.clock hours draw cursor).cursor ∧
      ∀ slot, (turn z.clock hours draw cursor).slot = some slot →
        cursor ≤ slot.startsAt ∧ slot.startsAt < slot.endsAt ∧
          (turn z.clock hours draw cursor).cursor = slot.endsAt + 900000 := by
  have bound := length_bounds draw
  rcases turn_cases (z := z) modern hours draw with ⟨-, value⟩ | ⟨h, -, shut | unfit | fit⟩
  · rw [value]
    exact ⟨morning_gt mild cursor, fun slot none_ => nomatch none_⟩
  · obtain ⟨-, value⟩ := shut
    rw [value]
    exact ⟨lt_of_le_of_lt (le_max_left _ _) (morning_gt mild _), fun slot none_ => nomatch none_⟩
  · obtain ⟨-, -, value⟩ := unfit
    rw [value]
    exact ⟨lt_of_le_of_lt (le_max_left _ _) (morning_gt mild _), fun slot none_ => nomatch none_⟩
  · obtain ⟨-, value⟩ := fit
    have reached : cursor ≤ start z cursor h := le_max_left _ _
    rw [value]
    refine ⟨show cursor < start z cursor h + length draw + 900000 by omega, ?_⟩
    intro slot same
    obtain rfl := Option.some.inj same
    exact ⟨reached, show start z cursor h < start z cursor h + length draw by omega, rfl⟩

/-- **What a walk yields** is what some turn yields, at the cursor or later and within the
range. -/
theorem mem_slotsFrom (mild : z.Mild) {slot : Slot} : ∀ (guard_ drawn : Nat) (cursor : Int),
    Modern cursor → slot ∈ slotsFrom z.clock hours geometry rangeEnd guard_ drawn cursor →
      ∃ c d, cursor ≤ c ∧ c < rangeEnd ∧ (turn z.clock hours (geometry d) c).slot = some slot
  | 0, _, _, _, among => nomatch among
  | guard_ + 1, drawn, cursor, modern, among => by
      rw [slotsFrom] at among
      split_ifs at among with inside
      · have later := (@turn_later z hours mild _ modern (geometry drawn)).1
        rcases List.mem_append.mp among with here | there
        · exact ⟨cursor, drawn, le_rfl, inside, Option.mem_toList.mp here⟩
        · obtain ⟨c, d, after, before, yields⟩ :=
            mem_slotsFrom mild guard_ _ _ (modern.later later.le) there
          exact ⟨c, d, le_trans later.le after, before, yields⟩
      · exact nomatch among

/-- The second begins fifteen minutes after the first ends, or later. -/
def Slot.before (a b : Slot) : Prop := a.startsAt < b.startsAt ∧ a.endsAt + 900000 ≤ b.startsAt

/-- **The bookings of a walk are in order, and fifteen minutes apart.** -/
theorem slotsFrom_ordered (mild : z.Mild) : ∀ (guard_ drawn : Nat) (cursor : Int), Modern cursor →
    (slotsFrom z.clock hours geometry rangeEnd guard_ drawn cursor).Pairwise Slot.before
  | 0, _, _, _ => List.Pairwise.nil
  | guard_ + 1, drawn, cursor, modern => by
      rw [slotsFrom]
      split_ifs with inside
      · obtain ⟨later, yields⟩ := @turn_later z hours mild _ modern (geometry drawn)
        have rest := slotsFrom_ordered mild guard_
          (if (turn z.clock hours (geometry drawn) cursor).draws then drawn + 1 else drawn)
          (turn z.clock hours (geometry drawn) cursor).cursor (modern.later later.le)
        show List.Pairwise Slot.before ((turn z.clock hours (geometry drawn) cursor).slot.toList ++ _)
        cases slot : (turn z.clock hours (geometry drawn) cursor).slot with
        | none => exact rest
        | some first =>
            obtain ⟨-, lasts, clears⟩ := yields first slot
            refine List.Pairwise.cons ?_ rest
            intro next among
            obtain ⟨c, d, after, -, yielded⟩ := mem_slotsFrom mild _ _ _ (modern.later later.le) among
            have reached := ((@turn_later z hours mild _ (modern.later (le_trans later.le after))
              (geometry d)).2 next yielded).1
            exact ⟨by omega, by omega⟩
      · exact List.Pairwise.nil

/-- The hours of the date are open at the reading. -/
def openOn (hours : WeeklyHours) (day reading : Int) : Prop :=
  ∃ h, hours (weekdayOf day) = some h ∧ day * 86400000 + h.opens * 3600000 ≤ reading ∧
    reading < day * 86400000 + h.closes * 3600000

variable (z hours) in
/-- Throughout, the clock shows a time in the hours of the date the booking starts on. -/
def Slot.Inside (slot : Slot) : Prop :=
  ∀ t, slot.startsAt ≤ t → t < slot.endsAt → openOn hours (z.dayAt slot.startsAt) (z.wall t)

/-- The booking is for the period. -/
def Slot.isOf (slot : Slot) (b : Booking) : Prop :=
  b.startsAt = slot.startsAt ∧ b.endsAt = slot.endsAt

/-- The seeded calendar of a room is exact and legal. -/
structure Legal (z : TimeZone) (hours : WeeklyHours) (bookings : List Slot) (target capacity : Nat) :
    Prop where
  exact_ : bookings.length = min target capacity
  ordered : bookings.Pairwise Slot.before
  inside : ∀ slot ∈ bookings, slot.Inside z hours
  excluded : bookings.Pairwise fun v w =>
    ∀ b c : Booking, v.isOf b → w.isOf c → b.overlaps c = false

variable (z hours) in
/-- **The clock shows the hours** of a date: from its opening as it is resolved, or from a
later instant of the date, to its closing as it is resolved, where these are an hour apart. -/
def ShowsHours (day : Int) (h : WholeHours) : Prop :=
  ∀ c t : Int, z.dayAt c = day → start z c h + 3600000 ≤ closing z day h →
    start z c h ≤ t → t < closing z day h → openOn hours (z.dayAt (start z c h)) (z.wall t)

theorem Slot.before.excluded {v w : Slot} (before : v.before w) {b c : Booking} (first : v.isOf b)
    (second : w.isOf c) : b.overlaps c = false := by
  have clears : v.endsAt + 15 * 60 * 1000 ≤ w.startsAt := before.2
  apply decide_eq_false
  rintro ⟨-, -, meets⟩
  have late : w.startsAt < v.endsAt + 15 * 60 * 1000 := by
    rw [← second.1, ← first.2]
    exact meets
  omega

/-- A range within some dates. -/
def Within (z : TimeZone) (rangeStart rangeEnd : Int) (days : Set Int) : Prop :=
  ∀ t, rangeStart ≤ t → t < rangeEnd → z.dayAt t ∈ days

/-- Where the clock shows the hours on every open date of the range, the calendar is legal. -/
theorem legal_of_shows (mild : z.Mild) (geometry : Nat → Draw) {rangeStart : Int}
    (modern : Modern rangeStart) {days : Set Int} (within : Within z rangeStart rangeEnd days)
    (shows_ : ∀ day ∈ days, ∀ h, hours (weekdayOf day) = some h → ShowsHours z hours day h)
    (target : Nat) :
    Legal z hours (walkRoomCalendar z.clock hours geometry rangeEnd rangeStart target
        (countRoomSlots z.clock hours geometry rangeEnd rangeStart)) target
      (countRoomSlots z.clock hours geometry rangeEnd rangeStart) := by
  have taken := @walkRoomCalendar_sublist z.clock hours geometry rangeEnd rangeStart target
    (countRoomSlots z.clock hours geometry rangeEnd rangeStart)
  have ordered := (@slotsFrom_ordered z hours geometry rangeEnd mild guardLimit 0 rangeStart
    modern).sublist taken
  refine ⟨walkRoomCalendar_length, ordered, ?_, ordered.imp fun before b c => before.excluded⟩
  intro slot among
  obtain ⟨c, d, after, before, yields⟩ := mem_slotsFrom mild _ _ _ modern (taken.subset among)
  have bound := length_bounds (geometry d)
  rcases turn_cases (z := z) (modern.later after) hours (geometry d) with
    ⟨-, value⟩ | ⟨h, open_, ⟨-, value⟩ | ⟨-, -, value⟩ | ⟨ends, value⟩⟩
  · rw [value] at yields
    cases yields
  · rw [value] at yields
    cases yields
  · rw [value] at yields
    cases yields
  · rw [value] at yields
    obtain rfl := Option.some.inj yields
    intro t least (most : t < start z c h + length (geometry d))
    have shown := shows_ _ (within c after before) h open_
    exact shown c t rfl (by omega) least (by omega)

theorem slotsFrom_past {cursor : Int} (past : rangeEnd ≤ cursor) (guard_ drawn : Nat) :
    slotsFrom z.clock hours geometry rangeEnd guard_ drawn cursor = [] := by
  cases guard_ with
  | zero => rfl
  | succ guard_ => exact if_neg (not_lt.mpr past)

theorem legal_of_empty {rangeStart : Int} {target : Nat} (empty : rangeEnd ≤ rangeStart) :
    Legal z hours (walkRoomCalendar z.clock hours geometry rangeEnd rangeStart target
        (countRoomSlots z.clock hours geometry rangeEnd rangeStart)) target
      (countRoomSlots z.clock hours geometry rangeEnd rangeStart) := by
  have none_ : countRoomSlots z.clock hours geometry rangeEnd rangeStart = 0 := by
    rw [countRoomSlots, candidateSlots, slotsFrom_past empty, List.length_nil]
  have nothing : walkRoomCalendar z.clock hours geometry rangeEnd rangeStart target
      (countRoomSlots z.clock hours geometry rangeEnd rangeStart) = [] := by
    rw [walkRoomCalendar, if_pos (.inr none_)]
  refine ⟨walkRoomCalendar_length, ?_, ?_, ?_⟩
  · rw [nothing]
    exact List.Pairwise.nil
  · rw [nothing]
    exact fun slot among => absurd among List.not_mem_nil
  · rw [nothing]
    exact List.Pairwise.nil

/-- A walk whose range ends after its first instant has one turn. -/
theorem candidateSlots_one (mild : z.Mild) {c : Int} (modern : Modern c) (draw : Draw) {slot : Slot}
    (yields : (turn z.clock hours draw c).slot = some slot) :
    candidateSlots z.clock hours (fun _ => draw) (c + 1) c = [slot] := by
  have later := (@turn_later z hours mild _ modern draw).1
  have one : ∀ guard_, slotsFrom z.clock hours (fun _ => draw) (c + 1) (guard_ + 1) 0 c = [slot] := by
    intro guard_
    rw [slotsFrom, if_pos (lt_add_one c)]
    show (turn z.clock hours draw c).slot.toList ++ _ = _
    rw [yields, slotsFrom_past (by omega)]
    rfl
  exact one 3999999

variable (z) in
/-- The clock shows the opening and the closing of a date where they are resolved, and does
not change its offset between them. -/
def Plain (day : Int) (h : WholeHours) : Prop :=
  z.wall (opening z day h) = day * 86400000 + h.opens * 3600000 ∧
    z.wall (closing z day h) = day * 86400000 + h.closes * 3600000 ∧
      Calm z.offset (opening z day h) (closing z day h)

/-- Away from transitions the clock shows the hours. -/
theorem Plain.shows {day : Int} {h : WholeHours} (plain : Plain z day h)
    (open_ : hours (weekdayOf day) = some h) : ShowsHours z hours day h := by
  intro c t date fits least most
  obtain ⟨opens, closes, calm⟩ := plain
  have latest := h.latest
  have first : opening z day h ≤ start z c h := date ▸ le_max_right c _
  have shown : ∀ t, start z c h ≤ t → t < closing z day h →
      day * 86400000 + h.opens * 3600000 ≤ z.wall t ∧
        z.wall t < day * 86400000 + h.closes * 3600000 := by
    intro t least most
    have early := calm.value (show opening z day h ≤ t by omega) (by omega)
    have late := calm.value (show opening z day h ≤ closing z day h by omega) le_rfl
    rw [TimeZone.wall] at opens closes ⊢
    omega
  have same : z.dayAt (start z c h) = day := by
    have here := shown (start z c h) le_rfl (by omega)
    unfold TimeZone.dayAt dayOfReading
    omega
  rw [same]
  exact ⟨h, open_, shown t least most⟩

/-- **A turn stays on its date**, where more than an hour is left to it.  An opening is
resolved to another date only by a jump over midnight: back before the date, where the date's
own instants are all later, or two hours on from 22:00, where closing is an hour away. -/
theorem start_date (mild : z.Mild) {c : Int} {h : WholeHours}
    (more : start z c h + 3600000 < closing z (z.dayAt c) h) :
    z.dayAt (start z c h) = z.dayAt c := by
  have ordered := h.ordered
  have latest := h.latest
  obtain ⟨day, date⟩ : ∃ day, day = z.dayAt c := ⟨_, rfl⟩
  have here : day * 86400000 ≤ z.wall c := by
    rw [date]
    unfold TimeZone.dayAt dayOfReading
    omega
  rcases le_or_gt (opening z (z.dayAt c) h) c with reached | ahead
  · rw [start, max_eq_left reached]
  · have begins : start z c h = opening z (z.dayAt c) h := max_eq_right ahead.le
    rw [begins] at more ⊢
    rw [← date] at more ahead ⊢
    have opens := mild.resolve_near (day * 86400000 + h.opens * 3600000)
    have closes := mild.resolve_near (day * 86400000 + h.closes * 3600000)
    obtain ⟨at_, before, after, near⟩ := z.around (day * 86400000 + h.opens * 3600000)
    have resolved := near.wall_resolve
    unfold opening at ahead more ⊢
    unfold closing at more
    obtain ⟨begin_, isOpening⟩ : ∃ t : Int, z.resolve (day * 86400000 + h.opens * 3600000) = t := ⟨_, rfl⟩
    obtain ⟨end_, isClosing⟩ : ∃ t : Int, z.resolve (day * 86400000 + h.closes * 3600000) = t := ⟨_, rfl⟩
    rw [isOpening] at resolved opens ahead more ⊢
    rw [isClosing] at closes more
    suffices on : day * 86400000 ≤ z.wall begin_ ∧ z.wall begin_ < day * 86400000 + 86400000 by
      unfold TimeZone.dayAt dayOfReading
      omega
    rcases resolved with shown | ⟨late, early, ⟨same, later⟩ | ⟨same, earlier⟩⟩
    · omega
    · -- Past the gap the clock goes on for two days, and closing is an hour away.
      refine ⟨by omega, ?_⟩
      by_contra over_
      have calm := (near.calm late early).2
      have shows_ : ∀ t, begin_ ≤ t → t ≤ at_ + 172799999 → z.wall t = z.wall begin_ + (t - begin_) := by
        intro t least most
        have stays : z.offset t = z.offset begin_ := calm.same (by omega) (by omega) most (by omega)
        unfold TimeZone.wall
        omega
      rcases le_or_gt end_ (at_ + 172799999) with soon | far
      · have ends := shows_ end_ (by omega) soon
        omega
      · have turns := mild.wall_le far.le
        rw [shows_ _ (by omega) le_rfl] at turns
        omega
    · -- Before the gap the clock has run for two days, and the date has not begun.
      refine ⟨?_, by omega⟩
      by_contra under
      have calm := (near.calm late early).1
      have shows_ : ∀ t, at_ - 172800000 ≤ t → t ≤ begin_ → z.wall t = z.wall begin_ - (begin_ - t) := by
        intro t least most
        have stays : z.offset t = z.offset begin_ :=
          calm.same least (by omega) (by omega) (by omega)
        unfold TimeZone.wall
        omega
      rcases le_or_gt (at_ - 172800000) c with soon | far
      · have begins := shows_ c soon ahead.le
        omega
      · have turns := mild.wall_le far.le
        rw [shows_ _ le_rfl (by omega)] at turns
        omega

/-- What a calendar of one booking needs: the hour from where a turn begins. -/
theorem inside_of_legal (mild : z.Mild) {days : Set Int}
    (legal : ∀ (geometry : Nat → Draw) (rangeStart rangeEnd : Int) (target : Nat),
      Within z rangeStart rangeEnd days →
        Legal z hours (walkRoomCalendar z.clock hours geometry rangeEnd rangeStart target
            (countRoomSlots z.clock hours geometry rangeEnd rangeStart)) target
          (countRoomSlots z.clock hours geometry rangeEnd rangeStart))
    {c : Int} (modern : Modern c) (among : z.dayAt c ∈ days) {h : WholeHours}
    (open_ : hours (weekdayOf (z.dayAt c)) = some h)
    (fits : start z c h + 3600000 ≤ closing z (z.dayAt c) h) :
    Slot.Inside z hours ⟨start z c h, start z c h + 3600000⟩ := by
  have hour : length 0 = 3600000 := by decide
  have one := @candidateSlots_one z hours mild _ modern 0 ⟨start z c h, start z c h + 3600000⟩ (by
    rcases turn_cases (z := z) modern hours 0 with
      ⟨shut, -⟩ | ⟨h', open', ⟨late, -⟩ | ⟨-, unfit, -⟩ | ⟨-, value⟩⟩
    · rw [shut] at open_
      cases open_
    · obtain rfl := Option.some.inj (open_.symm.trans open')
      omega
    · obtain rfl := Option.some.inj (open_.symm.trans open')
      omega
    · obtain rfl := Option.some.inj (open_.symm.trans open')
      rw [value, hour])
  have within : Within z c (c + 1) days := by
    intro t least most
    obtain rfl : t = c := by omega
    exact among
  have count : countRoomSlots z.clock hours (fun _ => 0) (c + 1) c = 1 := by
    rw [countRoomSlots, one, List.length_singleton]
  have inside := (legal (fun _ => 0) c (c + 1) 1 within).inside
  rw [walkRoomCalendar_all (by rw [count]), one] at inside
  exact inside _ (List.mem_singleton.mpr rfl)

/-- The dates from the sixth day of the year 100 on, on which every instant is modern. -/
def ModernDay (day : Int) : Prop := yearHundred + 5 * dayMs ≤ day * dayMs

theorem ModernDay.modern {c : Int} (modern : ModernDay (z.dayAt c)) : Modern c := by
  have near := (z.wall_near c).2
  have date : z.dayAt c * 86400000 ≤ z.wall c := by
    unfold TimeZone.dayAt dayOfReading
    omega
  unfold ModernDay dayMs at modern
  unfold Modern dayMs
  omega

end Run

namespace Sample

/-- From nine to five every day. -/
def nineToFive : WeeklyHours := fun _ => some ⟨9, 17, by decide, by decide⟩

/-- From one in the night to ten every day. -/
def oneToTen : WeeklyHours := fun _ => some ⟨1, 10, by decide, by decide⟩

theorem london_offset (t : Int) :
    Sample.london.offset t = if t < 1743296400000 then 0 else 3600000 := rfl

theorem london_resolve (reading : Int) (away : reading < 1743296400000 ∨ 1743303600000 ≤ reading) :
    Sample.london.resolve reading =
      if reading < 1743296400000 then reading else reading - 3600000 := by
  simp only [TimeZone.resolve, london_offset]
  rcases away with early | late
  · rw [if_pos early]
    split_ifs <;> show (_ : Int) = _ <;> omega
  · rw [if_neg (by omega)]
    split_ifs <;> show (_ : Int) = _ <;> omega

/-- London changes its clock in the night. -/
theorem london_plain (day : Int) (h : WholeHours) (open_ : nineToFive (weekdayOf day) = some h) :
    Plain Sample.london day h := by
  obtain rfl := Option.some.inj open_
  have opens := london_resolve (day * 86400000 + (9 : Nat) * 3600000) (by omega)
  have closes := london_resolve (day * 86400000 + (17 : Nat) * 3600000) (by omega)
  unfold Plain opening closing
  rw [opens, closes]
  refine ⟨?_, ?_, fun t after before jump => ?_⟩
  · simp only [TimeZone.wall, london_offset]
    split_ifs <;> omega
  · simp only [TimeZone.wall, london_offset]
    split_ifs <;> omega
  · simp only [Jump, london_offset] at jump
    split_ifs at after before jump <;> omega

end Sample

end Atrium.Seed
