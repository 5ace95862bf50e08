/-
# LocalMornings -- the days a seeded calendar skips

`nextLocalMorning` goes to the midnight after the date that it is twelve hours later.  From
a morning that is the next midnight; from noon on it is one too late, and the date between
is skipped (`first_iff`).  A walk leaves a date when the next duration does not fit, so a
room's calendar has a booking at the opening of each open date, whatever is drawn, exactly
where four hours fit and no bookings can fill an earlier date until so late
(`mornings_iff`).  A venue that is open past noon can always be booked until then
(`not_leftEarly`).
-/
import Atrium.RoomCalendar

namespace Atrium.Seed

open Atrium.Base.StepFunction

set_option autoImplicit false

section Midnight

variable {z : TimeZone}

variable (z) in
/-- One instant shows the reading. -/
def Once (reading : Int) : Prop := ∃ m : Int, z.wall m = reading ∧ ∀ t : Int, z.wall t = reading → t = m

/-- **Before or after**: an instant compares with a reading that occurs once as its own
reading does. -/
theorem Once.resolve {reading : Int} (once : Once z reading) : z.wall (z.resolve reading) = reading ∧
    ∀ t : Int, @LE.le Int _ (z.resolve reading) t ↔ reading ≤ z.wall t := by
  obtain ⟨at_, before, after, near⟩ := z.around reading
  have low := abs_lt.mp near.early
  have high := abs_lt.mp near.late
  obtain ⟨m, here, only⟩ := once
  have shown := near.wall_eq_iff.mp here
  have one : reading - before < at_ ↔ reading - after < at_ := by
    constructor
    · intro first
      by_contra second
      have same := only _ (near.wall_eq_iff.mpr (.inl ⟨rfl, first⟩))
      have same' := only _ (near.wall_eq_iff.mpr (.inr ⟨rfl, not_lt.mp second⟩))
      omega
    · intro second
      by_contra first
      omega
  have found : z.resolve reading = m := only _ (near.once one).1.1
  rw [found]
  refine ⟨here, fun t => ?_⟩
  show m ≤ t ↔ reading ≤ z.wall t
  have wall := z.wall_near t
  by_cases close : reading - 86400000 ≤ t ∧ t ≤ reading + 86400000
  · have offset := near.step t close.1 close.2
    rw [TimeZone.wall, offset]
    split_ifs <;> omega
  · omega

variable (z) in
/-- No transition skips or repeats a midnight. -/
def NoneAtMidnight : Prop := ∀ day : Int, Once z (day * 86400000)

variable (z) in
def midnight (day : Int) : Int := z.resolve (day * 86400000)

/-- **A date lasts from its midnight to the next.** -/
theorem midnight_le_iff (midnights : NoneAtMidnight z) (day t : Int) :
    midnight z day ≤ t ↔ day ≤ z.dayAt t := by
  rw [midnight, (midnights day).resolve.2 t]
  unfold TimeZone.dayAt dayOfReading
  omega

theorem lt_midnight_iff (midnights : NoneAtMidnight z) (day t : Int) :
    t < midnight z day ↔ z.dayAt t < day := by
  rw [← not_le, midnight_le_iff midnights, not_le]

theorem midnight_lt (midnights : NoneAtMidnight z) {day day' : Int} (earlier : day < day') :
    midnight z day < midnight z day' := by
  rw [lt_midnight_iff midnights]
  have shown : z.wall (midnight z day) = day * 86400000 := (midnights day).resolve.1
  unfold TimeZone.dayAt dayOfReading
  rw [shown]
  omega

theorem midnight_mono (midnights : NoneAtMidnight z) {day day' : Int} (order : day ≤ day') :
    midnight z day ≤ midnight z day' := by
  rcases eq_or_lt_of_le order with rfl | earlier
  · exact le_rfl
  · exact (midnight_lt midnights earlier).le

/-- The midnights of the local clock. -/
theorem midnight_iff (midnights : NoneAtMidnight z) (s : Int) :
    z.wall s % 86400000 = 0 ↔ s = midnight z (z.dayAt s) := by
  obtain ⟨m, here, only⟩ := midnights (z.dayAt s)
  have shown : z.wall (midnight z (z.dayAt s)) = z.dayAt s * 86400000 := (midnights _).resolve.1
  constructor
  · intro whole
    have same : z.wall s = z.dayAt s * 86400000 := by
      unfold TimeZone.dayAt dayOfReading
      omega
    exact (only s same).trans (only _ shown).symm
  · intro same
    rw [← same] at shown
    omega

/-- **The first midnight after an instant** is the next one exactly where twelve hours later
it is the same date. -/
theorem first_iff (midnights : NoneAtMidnight z) (t : Int) :
    IsLeast {s : Int | t < s ∧ z.wall s % 86400000 = 0} (morning z t) ↔
      z.dayAt (t + 43200000) = z.dayAt t := by
  have value : morning z t = midnight z (z.dayAt (t + 43200000) + 1) := rfl
  have first : IsLeast {s : Int | t < s ∧ z.wall s % 86400000 = 0} (midnight z (z.dayAt t + 1)) := by
    constructor
    · refine ⟨(lt_midnight_iff midnights _ t).mpr (lt_add_one _), ?_⟩
      rw [midnight, (midnights _).resolve.1]
      omega
    · rintro s ⟨after, whole⟩
      rw [midnight_le_iff midnights]
      by_contra early
      have here := (midnight_iff midnights s).mp whole
      have before := (midnight_le_iff midnights (z.dayAt s) t).mpr (by omega)
      omega
  rw [value]
  constructor
  · intro least
    have same := least.unique first
    by_contra other
    rcases lt_or_gt_of_ne other with earlier | later
    · exact absurd same (midnight_lt midnights (by omega)).ne
    · exact absurd same (midnight_lt midnights (by omega)).ne'
  · intro same
    rw [same]
    exact first

end Midnight

/-! ## Leaving a date -/

section Leaving

variable (z : TimeZone) (hours : WeeklyHours)

/-- On each open date opening and closing are resolved to that date, with the turnaround, an
hour apart or more. -/
structure Regular : Prop where
  opens : ∀ day h, hours (weekdayOf day) = some h → midnight z day ≤ opening z day h
  closes : ∀ day h, hours (weekdayOf day) = some h → closing z day h + 900000 < midnight z (day + 1)
  lasts : ∀ day h, hours (weekdayOf day) = some h → opening z day h + 3600000 ≤ closing z day h

/-- So many bookings of one to four hours, of so many half hours together, with a quarter of
an hour after each, take the venue from `source` to `t`, the last of them ended by closing. -/
def Booked (close source : Int) (bookings halves : Nat) (t : Int) : Prop :=
  2 * bookings ≤ halves ∧ halves ≤ 8 * bookings ∧
    t = source + halves * 1800000 + bookings * 900000 ∧ (0 < bookings → t ≤ close + 900000)

/-- From `c` a room's day can end at `t`: the venue is closed, or some bookings lead there
and four hours more do not fit. -/
def Leaves (c t : Int) : Prop :=
  match hours (weekdayOf (z.dayAt c)) with
  | none => t = c
  | some h => ∃ bookings halves, Booked (closing z (z.dayAt c) h) (start z c h) bookings halves t ∧
      closing z (z.dayAt c) h < t + 14400000

/-- Where a walk comes to a date: the start of the range, and the midnights after it. -/
def Visit (rangeStart c : Int) : Prop := c = rangeStart ∨ ∃ d, c = midnight z d ∧ rangeStart ≤ c

variable {z hours}

theorem Leaves.closed {c t : Int} (shut : hours (weekdayOf (z.dayAt c)) = none) :
    Leaves z hours c t ↔ t = c := by
  rw [Leaves, shut]

theorem Leaves.open_ {c t : Int} {h : WholeHours} (open_ : hours (weekdayOf (z.dayAt c)) = some h) :
    Leaves z hours c t ↔ ∃ bookings halves,
      Booked (closing z (z.dayAt c) h) (start z c h) bookings halves t ∧
        closing z (z.dayAt c) h < t + 14400000 := by
  rw [Leaves, open_]

/-- **A turn yields or leaves.** -/
theorem turn_leaving {cursor : Int} (modern : Modern cursor) (draw : Draw) :
    (∃ t, cursor ≤ t ∧ ((hours (weekdayOf (z.dayAt cursor)) = none ∧ t = cursor) ∨
        ∃ h, hours (weekdayOf (z.dayAt cursor)) = some h ∧ t = start z cursor h ∧
          closing z (z.dayAt cursor) h < t + length draw) ∧
      (turn z.clock hours draw cursor).slot = none ∧
        (turn z.clock hours draw cursor).cursor = morning z t) ∨
    ∃ h, hours (weekdayOf (z.dayAt cursor)) = some h ∧
      start z cursor h + length draw ≤ closing z (z.dayAt cursor) h ∧
        turn z.clock hours draw cursor = ⟨some ⟨start z cursor h, start z cursor h + length draw⟩,
          true, start z cursor h + length draw + 900000⟩ := by
  have bound := length_bounds draw
  have reached : ∀ h, cursor ≤ start z cursor h := fun h => le_max_left _ _
  rcases turn_cases (z := z) modern hours draw with
    ⟨shut, value⟩ | ⟨h, open_, ⟨late, value⟩ | ⟨-, unfit, value⟩ | ⟨ends, value⟩⟩
  · refine .inl ⟨cursor, le_rfl, .inl ⟨shut, rfl⟩, ?_, ?_⟩ <;> rw [value]
  · refine .inl ⟨start z cursor h, reached h, .inr ⟨h, open_, rfl, by omega⟩, ?_, ?_⟩ <;> rw [value]
  · refine .inl ⟨start z cursor h, reached h, .inr ⟨h, open_, rfl, unfit⟩, ?_, ?_⟩ <;> rw [value]
  · exact .inr ⟨h, open_, ends, value⟩

/-- A turn takes 75 minutes at least. -/
theorem turn_advances (mild : z.Mild) {cursor : Int} (modern : Modern cursor) (draw : Draw) :
    cursor + 4500000 ≤ (turn z.clock hours draw cursor).cursor := by
  have bound := length_bounds draw
  rcases @turn_leaving z hours _ modern draw with
    ⟨t, after, -, -, value⟩ | ⟨h, -, -, value⟩
  · have late := morning_late mild t
    omega
  · have reached : cursor ≤ start z cursor h := le_max_left _ _
    rw [value]
    show cursor + 4500000 ≤ start z cursor h + length draw + 900000
    omega

/-- A turn that does not draw does the same whatever would be drawn. -/
theorem turn_blind {zone : Zone} {cursor : Int} {draw : Draw}
    (still : (turn zone hours draw cursor).draws = false) (draw' : Draw) :
    turn zone hours draw' cursor = turn zone hours draw cursor := by
  unfold turn at still ⊢
  dsimp only at still ⊢
  split at still
  · rfl
  · split_ifs at still ⊢ <;> rfl

/-- What a walk yields begins at the cursor or later. -/
theorem slotsFrom_after (mild : z.Mild) {geometry : Nat → Draw} {rangeEnd cursor : Int}
    (modern : Modern cursor) {guard_ drawn : Nat} {slot : Slot}
    (among : slot ∈ slotsFrom z.clock hours geometry rangeEnd guard_ drawn cursor) :
    cursor ≤ slot.startsAt := by
  obtain ⟨c, d, after, -, yielded⟩ := mem_slotsFrom mild _ _ _ modern among
  exact le_trans after ((@turn_later z hours mild _ (modern.later after) (geometry d)).2 slot yielded).1

theorem length_halves (draw : Draw) : ∃ halves : Nat, 2 ≤ halves ∧ halves ≤ 8 ∧
    length draw = halves * 1800000 := by
  have bound := length_bounds draw
  unfold length at bound ⊢
  exact ⟨intBetween draw 2 8, by omega, by omega, rfl⟩

/-- Every duration of the grid is drawn. -/
theorem exists_draw {halves : Nat} (least : 2 ≤ halves) (most : halves ≤ 8) :
    ∃ draw : Draw, length draw = halves * 1800000 := by
  refine ⟨⟨((halves - 2) * 4294967296 + 6) / 7, by omega⟩, ?_⟩
  unfold length intBetween
  dsimp only
  omega

section Regular

variable (regular : Regular z hours) (midnights : NoneAtMidnight z)

include regular midnights

/-- A booking that is over by closing, and the turnaround, are over on the date. -/
theorem same_date {c t : Int} {h : WholeHours} (open_ : hours (weekdayOf (z.dayAt c)) = some h)
    (after : c ≤ t) (before : t ≤ closing z (z.dayAt c) h + 900000) : z.dayAt t = z.dayAt c := by
  have closes := regular.closes _ h open_
  have least := (midnight_le_iff midnights (z.dayAt c) t).mp
    (le_trans ((midnight_le_iff midnights (z.dayAt c) c).mpr le_rfl) after)
  have most := (lt_midnight_iff midnights (z.dayAt c + 1) t).mp (by omega)
  omega

end Regular

/-! ## What every stream keeps -/

theorem start_early {c day : Int} {h : WholeHours} (date : z.dayAt c = day)
    (early : c ≤ opening z day h) : start z c h = opening z day h := by
  unfold start
  rw [date, max_eq_right early]

/-- The cursor is where some bookings lead from a visit, on the visit's date. -/
def On (z : TimeZone) (hours : WeeklyHours) (rangeStart c cursor : Int) : Prop :=
  Visit z rangeStart c ∧ z.dayAt c = z.dayAt cursor ∧ (cursor = c ∨
    ∃ h bookings halves, hours (weekdayOf (z.dayAt c)) = some h ∧ 0 < bookings ∧
      Booked (closing z (z.dayAt c) h) (start z c h) bookings halves cursor)

/-- The turn of a cursor on a date begins where some bookings lead. -/
theorem On.booked {rangeStart c cursor : Int} (on : On z hours rangeStart c cursor) {h : WholeHours}
    (open_ : hours (weekdayOf (z.dayAt cursor)) = some h) : ∃ bookings halves,
      Booked (closing z (z.dayAt c) h) (start z c h) bookings halves (start z cursor h) := by
  obtain ⟨-, date, rfl | ⟨h', bookings, halves, open', some_, booked⟩⟩ := on
  · exact ⟨0, 0, le_rfl, le_rfl, by push_cast; ring, fun none_ => absurd none_ (lt_irrefl 0)⟩
  · rw [date] at open'
    obtain rfl := Option.some.inj (open_.symm.trans open')
    have begins : opening z (z.dayAt cursor) h ≤ start z c h := date ▸ le_max_right c _
    have later : start z c h ≤ cursor := by
      obtain ⟨-, -, place, -⟩ := booked
      omega
    have here : start z cursor h = cursor := max_eq_left (le_trans begins later)
    rw [here]
    exact ⟨bookings, halves, booked⟩

theorem On.leaves {rangeStart c cursor t : Int} (on : On z hours rangeStart c cursor) {draw : Draw}
    (left : (hours (weekdayOf (z.dayAt cursor)) = none ∧ t = cursor) ∨
      ∃ h, hours (weekdayOf (z.dayAt cursor)) = some h ∧ t = start z cursor h ∧
        closing z (z.dayAt cursor) h < t + length draw) : Leaves z hours c t := by
  obtain ⟨-, date, place⟩ := id on
  rcases left with ⟨shut, rfl⟩ | ⟨h, open_, rfl, unfit⟩
  · rcases place with rfl | ⟨h', -, -, open', -⟩
    · exact (Leaves.closed shut).mpr rfl
    · rw [date, shut] at open'
      cases open'
  · obtain ⟨bookings, halves, booked⟩ := on.booked open_
    have bound := length_bounds draw
    refine (Leaves.open_ (date ▸ open_)).mpr ⟨bookings, halves, booked, ?_⟩
    rw [date]
    omega

theorem On.next (regular : Regular z hours) (midnights : NoneAtMidnight z)
    {rangeStart c cursor : Int} (on : On z hours rangeStart c cursor)
    {h : WholeHours} (open_ : hours (weekdayOf (z.dayAt cursor)) = some h) {draw : Draw}
    (fits : start z cursor h + length draw ≤ closing z (z.dayAt cursor) h) :
    On z hours rangeStart c (start z cursor h + length draw + 900000) := by
  obtain ⟨bookings, halves, least, most, place, -⟩ := on.booked open_
  obtain ⟨drawn, low, high, lasts⟩ := length_halves draw
  obtain ⟨visit, date, -⟩ := on
  have reached : cursor ≤ start z cursor h := le_max_left _ _
  have bound := length_bounds draw
  have same := same_date regular midnights open_
    (show cursor ≤ start z cursor h + length draw + 900000 by omega) (by omega)
  refine ⟨visit, date.trans same.symm, .inr ⟨h, bookings + 1, halves + drawn, date ▸ open_,
    Nat.succ_pos _, by omega, by omega, ?_, fun _ => ?_⟩⟩
  · rw [place, lasts]
    push_cast
    ring
  · rw [date]
    omega

/-- **No harm, no loss**: a walk that can leave no date so late that it misses the open
`day` takes a period at its opening, whatever is drawn. -/
theorem slots_at_openings (mild : z.Mild) (regular : Regular z hours) (midnights : NoneAtMidnight z)
    {rangeStart rangeEnd : Int} {day : Int} {h : WholeHours}
    (open_ : hours (weekdayOf day) = some h) (before : midnight z (day + 1) ≤ rangeEnd)
    (fits : opening z day h + 14400000 ≤ closing z day h)
    (kept : ∀ c t, Visit z rangeStart c → z.dayAt c < day → Leaves z hours c t →
      z.dayAt (t + 43200000) < day) (geometry : Nat → Draw) :
    ∀ (guard_ drawn : Nat) (cursor : Int), Modern cursor → rangeStart ≤ cursor →
      cursor ≤ midnight z day → rangeEnd ≤ cursor + guard_ * 4500000 →
      (∃ c, On z hours rangeStart c cursor) →
      ∃ slot ∈ slotsFrom z.clock hours geometry rangeEnd guard_ drawn cursor,
        slot.startsAt = opening z day h
  | 0, drawn, cursor, _, _, early, enough, _ => by
      have next := midnight_lt midnights (lt_add_one day)
      omega
  | guard_ + 1, drawn, cursor, modern, after, early, enough, ⟨c, on⟩ => by
      have next := midnight_lt midnights (lt_add_one day)
      have inside : cursor < rangeEnd := by omega
      have advances := @turn_advances z hours mild _ modern (geometry drawn)
      have bound := length_bounds (geometry drawn)
      rw [slotsFrom, if_pos inside]
      simp only [List.mem_append]
      by_cases here : cursor = midnight z day
      · -- The turn begins at the opening, and the duration fits.
        have date : z.dayAt cursor = day := by
          have least := (midnight_le_iff midnights day cursor).mp here.ge
          have most := (lt_midnight_iff midnights (day + 1) cursor).mp (by omega)
          omega
        have begins := start_early date (here ▸ regular.opens day h open_)
        rcases @turn_leaving z hours _ modern (geometry drawn) with
          ⟨t, -, ⟨shut, -⟩ | ⟨h', open', rfl, unfit⟩, -⟩ | ⟨h', open', -, yields⟩
        · rw [date, open_] at shut
          cases shut
        · rw [date] at open' unfit
          obtain rfl := Option.some.inj (open_.symm.trans open')
          omega
        · rw [date] at open'
          obtain rfl := Option.some.inj (open_.symm.trans open')
          rw [yields]
          exact ⟨_, .inl (List.mem_singleton.mpr rfl), begins⟩
      · have date : z.dayAt cursor < day := (lt_midnight_iff midnights day cursor).mp (by omega)
        have reached : (turn z.clock hours (geometry drawn) cursor).cursor ≤ midnight z day ∧
            ∃ c, On z hours rangeStart c (turn z.clock hours (geometry drawn) cursor).cursor := by
          rcases @turn_leaving z hours _ modern (geometry drawn) with
            ⟨t, -, left, -, value⟩ | ⟨h', open', ends, value⟩
          · have skipped := kept c t on.1 (on.2.1 ▸ date) (on.leaves left)
            rw [value] at advances ⊢
            refine ⟨midnight_mono midnights (show z.dayAt (t + 43200000) + 1 ≤ day by omega),
              morning z t, ?_⟩
            exact ⟨.inr ⟨z.dayAt (t + 43200000) + 1, rfl, by omega⟩, rfl, .inl rfl⟩
          · have closes := regular.closes _ h' open'
            have order := midnight_mono midnights (show z.dayAt cursor + 1 ≤ day by omega)
            rw [value]
            refine ⟨?_, c, on.next regular midnights open' ends⟩
            show start z cursor h' + length (geometry drawn) + 900000 ≤ midnight z day
            omega
        obtain ⟨slot, among, starts⟩ := slots_at_openings mild regular midnights open_ before fits kept
          geometry guard_ _ _ (modern.later (by omega)) (by omega) reached.1
          (by push_cast at enough; omega) reached.2
        exact ⟨slot, .inr among, starts⟩

/-! ## What some stream loses -/

section Lost

variable {rangeEnd : Int}

/-- The stream goes on as `geometry` until it has drawn so often, and it has a shortest
duration; on it the walk yields nothing that begins at the instant. -/
def Loses (z : TimeZone) (hours : WeeklyHours) (rangeEnd : Int) (geometry : Nat → Draw)
    (guard_ drawn : Nat) (cursor missed : Int) : Prop :=
  ∃ stream : Nat → Draw, (∀ i, i < drawn → stream i = geometry i) ∧ (∃ i, stream i = 0) ∧
    ∀ slot ∈ slotsFrom z.clock hours stream rangeEnd guard_ drawn cursor, slot.startsAt ≠ missed

/-- A turn that leaves the date for a later morning. -/
theorem lost_of_morning (mild : z.Mild) {geometry : Nat → Draw} {cursor : Int}
    (modern : Modern cursor) (drawn : Nat) {missed t : Int} {draw : Draw} (after : cursor ≤ t)
    (none_ : (turn z.clock hours draw cursor).slot = none)
    (value : (turn z.clock hours draw cursor).cursor = morning z t) (late : missed < morning z t) :
    ∀ guard_, Loses z hours rangeEnd geometry guard_ drawn cursor missed := by
  intro guard_
  refine ⟨Function.update (Function.update geometry drawn draw) (drawn + 1) 0, ?_,
    ⟨drawn + 1, Function.update_self _ _ _⟩, ?_⟩
  · intro i earlier
    rw [Function.update_of_ne (by omega), Function.update_of_ne (by omega)]
  · have drew : Function.update (Function.update geometry drawn draw) (drawn + 1) 0 drawn = draw := by
      rw [Function.update_of_ne (by omega), Function.update_self]
    have next := lt_of_le_of_lt after (morning_gt mild t)
    cases guard_ with
    | zero => exact fun slot among => absurd among List.not_mem_nil
    | succ guard_ =>
        intro slot among
        rw [slotsFrom] at among
        split_ifs at among with inside
        · rw [drew] at among
          simp only [none_, value, Option.toList_none, List.nil_append] at among
          have reached := slotsFrom_after mild (modern.later next.le) among
          omega
        · exact absurd among List.not_mem_nil

/-- **Some stream books the date until it is late.** -/
theorem lost_of_booked (mild : z.Mild) (regular : Regular z hours) (midnights : NoneAtMidnight z)
    {missed : Int} : ∀ (bookings halves : Nat) {geometry : Nat → Draw} {cursor t : Int}
      {h : WholeHours} (_ : Modern cursor) (_ : hours (weekdayOf (z.dayAt cursor)) = some h)
      (_ : Booked (closing z (z.dayAt cursor) h) (start z cursor h) bookings halves t)
      (_ : closing z (z.dayAt cursor) h < t + 14400000) (_ : missed < morning z t)
      (_ : bookings = 0 ∨ closing z (z.dayAt cursor) h ≤ missed) (guard_ drawn : Nat),
      Loses z hours rangeEnd geometry guard_ drawn cursor missed
  | 0, halves, geometry, cursor, t, h, modern, open_, ⟨_, most, place, _⟩, unfit, late, _, guard_,
      drawn => by
      obtain rfl : halves = 0 := by omega
      have here : t = start z cursor h := by
        rw [place]
        push_cast
        ring
      obtain ⟨draw, lasts⟩ := exists_draw (show 2 ≤ 8 by decide) le_rfl
      rcases @turn_leaving z hours _ modern draw with
        ⟨t', after, ⟨shut, -⟩ | ⟨h', open', rfl, -⟩, none_, value⟩ | ⟨h', open', fits, -⟩
      · rw [shut] at open_
        cases open_
      · obtain rfl := Option.some.inj (open_.symm.trans open')
        rw [here] at late
        exact lost_of_morning mild modern drawn after none_ value late guard_
      · obtain rfl := Option.some.inj (open_.symm.trans open')
        rw [here] at unfit
        rw [lasts] at fits
        omega
  | bookings + 1, halves, geometry, cursor, t, h, modern, open_, ⟨least, most, place, ends⟩, unfit,
      late, far, guard_, drawn => by
      have closes := ends (Nat.succ_pos _)
      have missed_ : closing z (z.dayAt cursor) h ≤ missed := by omega
      -- The first booking is as short as the others allow.
      obtain ⟨first, low, high, rest, rest'⟩ : ∃ first : Nat, 2 ≤ first ∧ first ≤ 8 ∧
          2 * bookings + first ≤ halves ∧ halves ≤ 8 * bookings + first := by
        rcases le_or_gt halves (8 * bookings + 2) with few | many
        · exact ⟨2, le_rfl, by omega, by omega, few⟩
        · exact ⟨halves - 8 * bookings, by omega, by omega, by omega, by omega⟩
      obtain ⟨others, rfl⟩ := Nat.exists_eq_add_of_le (show first ≤ halves by omega)
      obtain ⟨draw, lasts⟩ := exists_draw low high
      have reached : cursor ≤ start z cursor h := le_max_left _ _
      have begins : opening z (z.dayAt cursor) h ≤ start z cursor h := le_max_right _ _
      push_cast at place
      rcases @turn_leaving z hours _ modern draw with
        ⟨t', -, ⟨shut, -⟩ | ⟨h', open', rfl, unfit'⟩, -⟩ | ⟨h', open', fits, value⟩
      · rw [shut] at open_
        cases open_
      · obtain rfl := Option.some.inj (open_.symm.trans open')
        omega
      · obtain rfl := Option.some.inj (open_.symm.trans open')
        obtain ⟨next, isNext⟩ : ∃ next : Int, next = start z cursor h + length draw + 900000 :=
          ⟨_, rfl⟩
        rw [← isNext] at value
        have date : z.dayAt next = z.dayAt cursor :=
          same_date regular midnights open_ (by omega) (by omega)
        have here : start z next h = next := by
          rw [start, date]
          exact max_eq_left (by omega)
        cases guard_ with
        | zero =>
            refine ⟨Function.update geometry drawn 0, fun i earlier => ?_,
              ⟨drawn, Function.update_self _ _ _⟩, fun slot among => absurd among List.not_mem_nil⟩
            rw [Function.update_of_ne (by omega)]
        | succ guard_ =>
            have booked : Booked (closing z (z.dayAt next) h) (start z next h) bookings others t := by
              rw [here, date]
              exact ⟨by omega, by omega, by omega, fun _ => closes⟩
            obtain ⟨stream, agrees, short, loses⟩ := @lost_of_booked mild regular midnights _
              bookings others (Function.update geometry drawn draw) next t h (modern.later (by omega))
              (date.symm ▸ open_) booked (date.symm ▸ unfit) late (.inr (date.symm ▸ missed_)) guard_
              (drawn + 1)
            have drew : stream drawn = draw := by
              rw [agrees drawn (lt_add_one _), Function.update_self]
            refine ⟨stream, fun i earlier => ?_, short, fun slot among => ?_⟩
            · rw [agrees i (by omega), Function.update_of_ne (by omega)]
            · rw [slotsFrom] at among
              split_ifs at among with inside
              · rw [drew, value] at among
                rcases List.mem_cons.mp among with rfl | later
                · show start z cursor h ≠ missed
                  omega
                · exact loses slot later
              · exact absurd among List.not_mem_nil

/-- **Some stream books a date the walk comes to**: one on which it takes a period at the
opening of `day` can be changed from that draw on, and the date booked until it is late. -/
theorem lost_of_opening (mild : z.Mild) (regular : Regular z hours) (midnights : NoneAtMidnight z)
    {day : Int} {h : WholeHours} (open_ : hours (weekdayOf day) = some h) {missed t : Int}
    {bookings halves : Nat} (booked : Booked (closing z day h) (opening z day h) bookings halves t)
    (unfit : closing z day h < t + 14400000) (late : missed < morning z t)
    (far : bookings = 0 ∨ closing z day h ≤ missed) (after : opening z day h ≤ missed)
    {geometry : Nat → Draw} : ∀ (guard_ drawn : Nat) {cursor : Int} (_ : Modern cursor)
      (_ : ∃ slot ∈ slotsFrom z.clock hours geometry rangeEnd guard_ drawn cursor,
        slot.startsAt = opening z day h),
      Loses z hours rangeEnd geometry guard_ drawn cursor missed
  | 0, _, _, _, ⟨_, among, _⟩ => absurd among List.not_mem_nil
  | guard_ + 1, drawn, cursor, modern, ⟨slot, among, begins⟩ => by
      have inside : cursor < rangeEnd := by
        by_contra past
        rw [slotsFrom, if_neg past] at among
        exact absurd among List.not_mem_nil
      obtain ⟨later, yields⟩ := @turn_later z hours mild _ modern (geometry drawn)
      have modern' := modern.later later.le
      rw [slotsFrom, if_pos inside] at among
      rcases List.mem_append.mp among with here | there
      · -- The turn takes the period: it is on the date, and begins at its opening.
        have opens := regular.opens day h open_
        have closes := regular.closes day h open_
        have lasts := regular.lasts day h open_
        rcases @turn_leaving z hours _ modern (geometry drawn) with
          ⟨-, -, -, none_, -⟩ | ⟨h', open', fits, value⟩
        · rw [none_] at here
          exact absurd here List.not_mem_nil
        · rw [value] at here
          obtain rfl := List.mem_singleton.mp here
          change start z cursor h' = opening z day h at begins
          have reached : cursor ≤ start z cursor h' := le_max_left _ _
          have bound := length_bounds (geometry drawn)
          have least := (lt_midnight_iff midnights (day + 1) cursor).mp (by omega)
          have most := same_date regular midnights open' reached (by omega)
          rw [begins] at most
          have date : z.dayAt cursor = day := by
            have low := (midnight_le_iff midnights day (opening z day h)).mp opens
            omega
          rw [date] at open'
          obtain rfl := Option.some.inj (open_.symm.trans open')
          refine lost_of_booked mild regular midnights bookings halves modern (date.symm ▸ open_) ?_
            (date.symm ▸ unfit) late (date.symm ▸ far) (guard_ + 1) drawn
          rw [begins, date]
          exact booked
      · -- The turn comes before, and does the same on every stream that agrees so far.
        obtain ⟨stream, agrees, short, loses⟩ := lost_of_opening mild regular midnights open_ booked
          unfit late far after guard_ _ modern' ⟨slot, there, begins⟩
        have same : turn z.clock hours (stream drawn) cursor =
            turn z.clock hours (geometry drawn) cursor := by
          cases draws : (turn z.clock hours (geometry drawn) cursor).draws with
          | false => exact turn_blind draws _
          | true => rw [agrees drawn (by rw [draws]; exact lt_add_one _)]
        refine ⟨stream, fun i earlier => agrees i (by split_ifs <;> omega), short, ?_⟩
        intro other among'
        rw [slotsFrom, if_pos inside] at among'
        simp only [same] at among'
        rcases List.mem_append.mp among' with first | rest
        · have reached := slotsFrom_after mild modern' there
          obtain ⟨-, ends, clears⟩ := yields other (Option.mem_toList.mp first)
          omega
        · exact loses other rest

end Lost

end Leaving

section Mornings

variable (z : TimeZone) (hours : WeeklyHours)

/-- Each open date of the range that the shortest duration drawn fits has a period at its
opening. -/
def SkipsNone (geometry : Nat → Draw) (rangeStart rangeEnd : Int) : Prop :=
  ∀ day h, hours (weekdayOf day) = some h → rangeStart ≤ midnight z day →
    midnight z (day + 1) ≤ rangeEnd →
    (∃ i, opening z day h + length (geometry i) ≤ closing z day h) →
      ∃ slot ∈ candidateSlots z.clock hours geometry rangeEnd rangeStart,
        slot.startsAt = opening z day h

/-- **No date is left late**: four hours fit each open date of the range, and from no earlier
date of it can the day end so late that the open date is the one twelve hours later. -/
def LeftEarly (rangeStart rangeEnd : Int) : Prop :=
  ∀ day h, hours (weekdayOf day) = some h → rangeStart ≤ midnight z day →
    midnight z (day + 1) ≤ rangeEnd →
      opening z day h + 14400000 ≤ closing z day h ∧
        ∀ c t, Visit z rangeStart c → z.dayAt c < day → Leaves z hours c t →
          z.dayAt (t + 43200000) < day

theorem dayAt_midnight (midnights : NoneAtMidnight z) (d : Int) : z.dayAt (midnight z d) = d := by
  have shown : z.wall (midnight z d) = d * 86400000 := (midnights d).resolve.1
  unfold TimeZone.dayAt dayOfReading
  omega

/-- It is the same date at noon. -/
theorem dayAt_noon (mild : z.Mild) (midnights : NoneAtMidnight z) (d : Int) :
    z.dayAt (midnight z d + 43200000) = d := by
  have shown : z.wall (midnight z d) = d * 86400000 := (midnights d).resolve.1
  have drift := abs_le.mp (mild.drift (s := midnight z d + 43200000) (t := midnight z d)
    (by omega) (by omega))
  unfold TimeZone.wall at shown
  unfold TimeZone.dayAt dayOfReading TimeZone.wall
  omega

/-- A day that four hours fit can end after closing: the bookings and the quarters of an hour
fill it to the last quarter. -/
theorem leaves_after_closing {c : Int} {h : WholeHours}
    (open_ : hours (weekdayOf (z.dayAt c)) = some h)
    (fits : start z c h + 14400000 ≤ closing z (z.dayAt c) h) :
    ∃ t, closing z (z.dayAt c) h < t ∧ Leaves z hours c t := by
  obtain ⟨room, lasts⟩ := Int.le.dest fits
  -- So many quarters, and a number of bookings of their parity that can take them.
  obtain ⟨quarters, least, most⟩ : ∃ quarters : Nat, room + 14400000 < quarters * 900000 ∧
      quarters * 900000 ≤ room + 14400000 + 900000 :=
    ⟨(room + 14400000) / 900000 + 1, by omega, by omega⟩
  obtain ⟨bookings, halves, total, low, high⟩ : ∃ bookings halves : Nat,
      2 * halves + bookings = quarters ∧ 2 * bookings ≤ halves ∧ halves ≤ 8 * bookings := by
    rcases Nat.even_or_odd' (quarters - (quarters / 17 + 1)) with ⟨halves, even | odd⟩
    · exact ⟨quarters / 17 + 1, halves, by omega, by omega, by omega⟩
    · exact ⟨quarters / 17 + 2, halves, by omega, by omega, by omega⟩
  refine ⟨start z c h + halves * 1800000 + bookings * 900000, by omega, ?_⟩
  exact (Leaves.open_ open_).mpr ⟨bookings, halves, ⟨low, high, rfl, fun _ => by omega⟩, by omega⟩

/-- **An afternoon costs the day after it**: where a date of the range is open for four hours
or more and until noon or later, some stream skips an open date that follows. -/
theorem not_leftEarly (midnights : NoneAtMidnight z) (regular : Regular z hours)
    {rangeStart rangeEnd d : Int} {h h' : WholeHours} (open_ : hours (weekdayOf d) = some h)
    (open' : hours (weekdayOf (d + 1)) = some h') (after : rangeStart ≤ midnight z d)
    (before : midnight z (d + 1 + 1) ≤ rangeEnd)
    (fits : opening z d h + 14400000 ≤ closing z d h)
    (afternoon : midnight z (d + 1) ≤ closing z d h + 43200000) :
    ¬ LeftEarly z hours rangeStart rangeEnd := by
  intro early
  have date := dayAt_midnight z midnights d
  have here := start_early date (regular.opens d h open_)
  obtain ⟨t, late, leaves⟩ := leaves_after_closing z hours (date.symm ▸ open_)
    (by rw [here, date]; exact fits)
  rw [date] at late
  have next := midnight_lt midnights (lt_add_one d)
  have kept := (early (d + 1) h' open' (by omega) before).2 (midnight z d) t (.inr ⟨d, rfl, after⟩)
    (by omega) leaves
  rw [← lt_midnight_iff midnights] at kept
  omega

/-- A date before, left so late that twelve hours on it is the open date or later: where the
walk comes to the openings of its range, some stream skips that date. -/
theorem loses_of_leaves (mild : z.Mild) (midnights : NoneAtMidnight z) (regular : Regular z hours)
    {rangeStart rangeEnd : Int} (modern : Modern rangeStart) {day : Int} {h : WholeHours}
    (open_ : hours (weekdayOf day) = some h) (before : midnight z (day + 1) ≤ rangeEnd)
    (visited : ∀ d h', hours (weekdayOf d) = some h' → rangeStart ≤ midnight z d →
      midnight z (d + 1) ≤ rangeEnd →
      ∃ slot ∈ slotsFrom z.clock hours (fun _ => 0) rangeEnd guardLimit 0 rangeStart,
        slot.startsAt = opening z d h') {c t : Int} (visit : Visit z rangeStart c)
    (earlier : z.dayAt c < day) (leaves : Leaves z hours c t)
    (late : day ≤ z.dayAt (t + 43200000)) :
    Loses z hours rangeEnd (fun _ => 0) guardLimit 0 rangeStart (opening z day h) := by
  have opens := regular.opens day h open_
  have closes := regular.closes day h open_
  have lasts := regular.lasts day h open_
  have next : opening z day h < morning z t := by
    have order := midnight_mono midnights
      (show day + 1 ≤ z.dayAt (t + 43200000) + 1 by omega)
    exact lt_of_lt_of_le (by omega) order
  cases shut : hours (weekdayOf (z.dayAt c)) with
  | none =>
      obtain rfl := (Leaves.closed shut).mp leaves
      rcases visit with rfl | ⟨d, rfl, -⟩
      · rcases @turn_leaving z hours _ modern 0 with
          ⟨t, reached, ⟨-, rfl⟩ | ⟨h', open', -⟩, none', value⟩ | ⟨h', open', -⟩
        · exact lost_of_morning mild modern 0 reached none' value next guardLimit
        · rw [shut] at open'
          cases open'
        · rw [shut] at open'
          cases open'
      · rw [dayAt_noon z mild midnights] at late
        rw [dayAt_midnight z midnights] at earlier
        omega
  | some h' =>
      obtain ⟨bookings, halves, booked, unfit⟩ := (Leaves.open_ shut).mp leaves
      have closes' := regular.closes _ h' shut
      have order := midnight_mono midnights (show z.dayAt c + 1 ≤ day by omega)
      rcases visit with rfl | ⟨d, rfl, from_⟩
      · exact lost_of_booked mild regular midnights bookings halves modern shut booked unfit next
          (.inr (by omega)) guardLimit 0
      · have date := dayAt_midnight z midnights d
        have lasts' := regular.lasts _ h' shut
        rw [start_early date (regular.opens _ _ (date ▸ shut))] at booked
        rw [date] at shut closes' order booked unfit lasts'
        exact lost_of_opening mild regular midnights shut booked unfit next
          (.inr (by omega)) (by omega) guardLimit 0 modern (visited d h' shut from_ (by omega))

/-- Where no stream skips a date, none is left late. -/
theorem leftEarly_of_skipsNone (mild : z.Mild) (midnights : NoneAtMidnight z)
    (regular : Regular z hours) {rangeStart rangeEnd : Int} (modern : Modern rangeStart)
    (none_ : ∀ geometry, SkipsNone z hours geometry rangeStart rangeEnd) :
    LeftEarly z hours rangeStart rangeEnd := by
  intro day h open_ after before
  have hour : length 0 = 3600000 := by decide
  have kept : ¬ Loses z hours rangeEnd (fun _ => 0) guardLimit 0 rangeStart (opening z day h) := by
    rintro ⟨stream, -, ⟨i, shortest⟩, loses⟩
    obtain ⟨slot, among, begins⟩ := none_ stream day h open_ after before
      ⟨i, by rw [shortest, hour]; exact regular.lasts day h open_⟩
    exact loses slot among begins
  have visited : ∀ d h', hours (weekdayOf d) = some h' → rangeStart ≤ midnight z d →
      midnight z (d + 1) ≤ rangeEnd →
      ∃ slot ∈ slotsFrom z.clock hours (fun _ => 0) rangeEnd guardLimit 0 rangeStart,
        slot.startsAt = opening z d h' := by
    intro d h' open' after' before'
    refine none_ (fun _ => 0) d h' open' after' before' ⟨0, ?_⟩
    rw [hour]
    exact regular.lasts d h' open'
  constructor
  · by_contra unfit
    refine kept (lost_of_opening mild regular midnights open_ ⟨le_rfl, le_rfl, ?_, ?_⟩
      (not_le.mp unfit) (morning_gt mild _) (.inl rfl) le_rfl guardLimit 0 modern
      (visited day h open_ after before))
    · push_cast
      ring
    · exact fun none_ => absurd none_ (lt_irrefl 0)
  · intro c t visit earlier leaves
    by_contra late
    exact kept (loses_of_leaves z hours mild midnights regular modern open_ before visited visit
      earlier leaves (not_lt.mp late))

end Mornings

namespace Sample

/-- From seven to eleven every day. -/
def sevenToEleven : WeeklyHours := fun _ => some ⟨7, 11, by decide, by decide⟩

theorem london_once (day : Int) : Once Sample.london (day * 86400000) := by
  by_cases early : day ≤ 20177
  · refine ⟨day * 86400000, ?_, fun t here => ?_⟩
    · rw [Sample.london_wall, if_pos (by omega)]
      omega
    · rw [Sample.london_wall] at here
      split_ifs at here <;> omega
  · refine ⟨day * 86400000 - 3600000, ?_, fun t here => ?_⟩
    · rw [Sample.london_wall, if_neg (by omega)]
      omega
    · rw [Sample.london_wall] at here
      split_ifs at here <;> omega

/-- Four hours of the morning fit exactly, and it is over before noon. -/
theorem london_regular : Regular Sample.london sevenToEleven ∧ ∀ day : Int, ∀ h,
    sevenToEleven (weekdayOf day) = some h →
      opening Sample.london day h + 14400000 ≤ closing Sample.london day h ∧
        closing Sample.london day h + 900000 + 43200000 < midnight Sample.london (day + 1) := by
  have opens := fun day : Int => london_resolve (day * 86400000 + (7 : Nat) * 3600000) (by omega)
  have closes := fun day : Int => london_resolve (day * 86400000 + (11 : Nat) * 3600000) (by omega)
  have starts := fun day : Int => london_resolve (day * 86400000) (by omega)
  have value : ∀ (day : Int) h, sevenToEleven (weekdayOf day) = some h →
      midnight Sample.london day ≤ opening Sample.london day h ∧
        opening Sample.london day h + 14400000 ≤ closing Sample.london day h ∧
          closing Sample.london day h + 900000 + 43200000 < midnight Sample.london (day + 1) := by
    intro day h open_
    obtain rfl := Option.some.inj open_
    unfold midnight opening closing
    rw [opens day, closes day, starts day, starts (day + 1)]
    refine ⟨?_, ?_, ?_⟩
    · split_ifs <;> omega
    · split_ifs <;> omega
    · split_ifs <;> omega
  refine ⟨⟨fun day h open_ => (value day h open_).1, fun day h open_ => ?_, fun day h open_ => ?_⟩,
    fun day h open_ => (value day h open_).2⟩
  · have bound := (value day h open_).2.2
    omega
  · have bound := (value day h open_).2.1
    omega

/-- Two days of June 2025, open from seven to eleven: no walk on them comes to noon. -/
theorem june_leftEarly : LeftEarly Sample.london sevenToEleven 1749942000000 1750114800000 := by
  have midnights := london_once
  obtain ⟨regular, mornings⟩ := london_regular
  intro day h open_ after before
  refine ⟨(mornings day h open_).1, fun c t visit earlier leaves => ?_⟩
  obtain ⟨d, rfl⟩ : ∃ d, c = midnight Sample.london d := by
    rcases visit with rfl | ⟨d, here, -⟩
    · exact ⟨20254, by decide⟩
    · exact ⟨d, here⟩
  have date := dayAt_midnight Sample.london midnights d
  rw [date] at earlier
  have morning_ := mornings d _ rfl
  obtain ⟨bookings, halves, ⟨-, most, place, ends⟩, -⟩ := (Leaves.open_ rfl).mp leaves
  rw [start_early date (regular.opens d _ rfl)] at place
  rw [date] at ends
  have over_ : t ≤ closing Sample.london d ⟨7, 11, by decide, by decide⟩ + 900000 := by
    rcases Nat.eq_zero_or_pos bookings with rfl | some_
    · obtain rfl : halves = 0 := by omega
      push_cast at place
      omega
    · exact ends some_
  have same := (lt_midnight_iff midnights (d + 1) (t + 43200000)).mp (by omega)
  omega

end Sample

end Atrium.Seed
