/-
# AllFreeSlots -- every slot that can be held is listed, once

The windows of neighbouring days may overlap, and a start that is offered in two of them is
listed twice and out of order.  A start that can be held is listed unless the clock was set
back across a midnight in the day before the range, or the configured turnaround is longer
than the constraint's (`free_slots_complete_iff`).
-/
import Atrium.FreeSlots
import Atrium.HoursAgreement

namespace Atrium

open Atrium.Base Atrium.Base.StepFunction

set_option autoImplicit false

/-! ## The order of the list -/

def FreeSlot.before (a b : FreeSlot) : Prop := a.startsAt < b.startsAt

instance : DecidableRel FreeSlot.before := fun _ _ => inferInstanceAs (Decidable (_ < _))

/-- A start that the walk of a window comes to and lists. -/
structure Offered (turnaround duration : Int) (busy : List BusyInterval)
    (source target earliest : Instant) (w : OpenWindow) (t : Instant) : Prop where
  reached : Reached source w t
  listed : Listed turnaround duration busy target earliest w t

section Windows

variable {turnaround duration : Int} {busy : List BusyInterval} {source target earliest : Instant}

theorem mem_window {w : OpenWindow} {slot : FreeSlot} :
    slot ∈ enumerateWindow turnaround duration busy target earliest w (rounds source w)
        (firstCursor source w) ↔
      ∃ t, slot = ⟨t, addMinutes t duration⟩ ∧
        Offered turnaround duration busy source target earliest w t := by
  rw [mem_enumerateWindow]
  constructor
  · rintro ⟨k, bound, early, rfl, listed⟩
    exact ⟨_, rfl, reached_iff.mpr ⟨k, bound, early, rfl⟩, listed⟩
  · rintro ⟨t, rfl, offered⟩
    obtain ⟨k, bound, early, rfl⟩ := reached_iff.mp offered.reached
    exact ⟨k, bound, early, rfl, offered.listed⟩

/-- The list of one window ascends. -/
theorem enumerateWindow_ascending {w : OpenWindow} : ∀ (n : Nat) (cursor : Instant),
    (enumerateWindow turnaround duration busy target earliest w n cursor).Pairwise FreeSlot.before
  | 0, _ => List.Pairwise.nil
  | n + 1, cursor => by
      have rest := enumerateWindow_ascending (w := w) n (addMinutes cursor 30)
      have later : ∀ slot ∈ enumerateWindow turnaround duration busy target earliest w n
          (addMinutes cursor 30), cursor < slot.startsAt := by
        intro slot among
        obtain ⟨k, -, -, rfl, -⟩ := mem_enumerateWindow.mp among
        have forward : (0 : Int) ≤ k * gridMs := by
          simp only [gridMs]
          positivity
        show cursor < cursor + 30 * 60000 + k * gridMs
        linarith
      have here : ∀ free : Prop, ∀ [Decidable free],
          (if free then [(⟨cursor, addMinutes cursor duration⟩ : FreeSlot)] else []).Pairwise
              FreeSlot.before ∧
            ∀ slot ∈ if free then [(⟨cursor, addMinutes cursor duration⟩ : FreeSlot)] else [],
              slot.startsAt = cursor := by
        intro free _
        split_ifs
        · exact ⟨List.pairwise_singleton _ _, by simp⟩
        · exact ⟨List.Pairwise.nil, by simp⟩
      unfold enumerateWindow
      simp only
      split
      · exact List.Pairwise.nil
      · split
        · exact (here _).1
        · refine List.pairwise_append.mpr ⟨(here _).1, rest, fun a first b after => ?_⟩
          have start := (here _).2 a first
          exact lt_of_eq_of_lt start (later b after)

/-- A start of a later window that is not after one of an earlier window is offered in both. -/
theorem Offered.shared {v w : OpenWindow} (order : byOpening v w) {s t : Instant}
    (first : Offered turnaround duration busy source target earliest v s)
    (second : Offered turnaround duration busy source target earliest w t) (back : t ≤ s) :
    Offered turnaround duration busy source target earliest v t := by
  have opened : v.opensAt ≤ w.opensAt := order
  have within := second.reached.within
  have early : t = firstCursor source v ∨ t < v.closesAt := by
    rcases eq_or_lt_of_le back with rfl | earlier
    · exact first.reached.early
    · -- The earlier window's walk passes `t` on its way to `s`.
      rcases first.reached.early with start | open_
      · have least := (ceilToGrid_spec (max v.opensAt source)).2.2
        have grid := second.reached.onGrid
        have grid' := first.reached.onGrid
        have after : max v.opensAt source ≤ t := max_le
          (le_trans opened (le_trans (le_max_left _ _) within)) (le_trans (le_max_right _ _) within)
        have step : t + gridMs ≤ s := by
          have multiple : ∀ {s t : Int}, s % 1800000 = 0 → t % 1800000 = 0 → t < s →
              t + 1800000 ≤ s := by omega
          exact multiple grid' grid earlier
        have bound : s < max v.opensAt source + gridMs := start ▸ least
        linarith
      · exact .inr (lt_trans earlier open_)
  have inWindow : addMinutes t duration ≤ v.closesAt := by
    have last := first.listed.inWindow
    simp only [addMinutes] at last ⊢
    linarith
  exact
    { reached :=
        { onGrid := second.reached.onGrid
          within := max_le (le_trans opened (le_trans (le_max_left _ _) within))
            (le_trans (le_max_right _ _) within)
          early := early }
      listed :=
        { inWindow := inWindow
          inRange := second.listed.inRange
          clear := second.listed.clear
          ahead := second.listed.ahead } }

/-- **The list ascends exactly where no start is offered in two windows.** -/
theorem ascending_iff {windows : List OpenWindow} (sorted : windows.Pairwise byOpening) :
    (windows.flatMap fun w => enumerateWindow turnaround duration busy target earliest w
        (rounds source w) (firstCursor source w)).Pairwise FreeSlot.before ↔
      windows.Pairwise fun v w => ∀ t,
        ¬ (Offered turnaround duration busy source target earliest v t ∧
          Offered turnaround duration busy source target earliest w t) := by
  rw [List.pairwise_flatMap]
  constructor
  · rintro ⟨-, ordered⟩
    refine ordered.imp fun {v w} before t both => ?_
    have first := mem_window.mpr ⟨t, rfl, both.1⟩
    have second := mem_window.mpr ⟨t, rfl, both.2⟩
    exact lt_irrefl _ (before _ first _ second)
  · intro parted
    refine ⟨fun w _ => enumerateWindow_ascending _ _, ?_⟩
    refine (sorted.and parted).imp fun {v w} both x here y there => ?_
    obtain ⟨s, rfl, first⟩ := mem_window.mp here
    obtain ⟨t, rfl, second⟩ := mem_window.mp there
    by_contra back
    exact both.2 t ⟨first.shared both.1 second (not_lt.mp back), second⟩

end Windows

/-! ## The dates of a start -/

namespace TimeZone

variable {z : TimeZone} {hours : OperatingHours}

/-- A reading is resolved exactly where the offset holds for two hours on either side. -/
theorem Mild.resolve_steady (mild : z.Mild) (reading : Int) {c : Int}
    (steady : ∀ s, reading - c - 7200000 ≤ s → s ≤ reading - c + 7200000 → z.offset s = c) :
    z.resolve reading = reading - c := by
  have here := steady (reading - c) (by omega) (by omega)
  have bound := abs_lt.mp (z.bounded (reading - c))
  rw [here] at bound
  have drift := abs_le.mp (mild.drift (s := reading) (t := reading - c) (by omega) (by omega))
  rw [here] at drift
  have second := steady (reading - z.offset reading) (by omega) (by omega)
  rw [resolve, second, here]

/-- After a clock was set back across a midnight, a start whose date 24 hours before is not
visited fits the window of no visited date but its own. -/
theorem Mild.fits_own (mild : z.Mild) {source t endsAt k : Int} (after : source ≤ t)
    (back : z.dayAt (t - 86400000) < z.firstDay source) (modern : yearHundred + 172800000 ≤ k * 86400000)
    (visited : z.firstDay source ≤ k) (fits : z.Fits hours k t endsAt) : k = z.dayAt t := by
  have first : z.firstDay source * 86400000 ≤ z.wall (source - 86400000) := by
    unfold firstDay dayAt dayOfReading
    omega
  have last : z.wall (t - 86400000) < z.firstDay source * 86400000 := by
    have day : z.wall (t - 86400000) / 86400000 < z.firstDay source := back
    omega
  have close : t - 86400000 ≤ source - 86400000 + 172800000 := by
    by_contra far
    have low := (z.wall_near (t - 86400000)).1
    have high := (z.wall_near (source - 86400000)).2
    omega
  obtain ⟨at_, split⟩ := @Isolated.split _ _ z.isolated (source - 86400000) (t - 86400000) (by omega) close
  have differ : z.offset (source - 86400000) ≠ z.offset (t - 86400000) := by
    intro same
    unfold wall at first last
    omega
  obtain ⟨jump, begin_, end_⟩ := split.jump differ
  -- From the transition on the offset holds for two days.
  have calm : Calm z.offset at_ (at_ + 172800000 - 1) := by
    intro s later soon jump'
    have apart := z.isolated at_ s jump jump' later
    omega
  have value : ∀ s, at_ ≤ s → s ≤ at_ + 172800000 - 1 → z.offset s = z.offset at_ :=
    fun s later soon => calm.value later soon
  have early := split.early (at_ - 1) (by omega) (by omega)
  have drop := abs_le.mp (mild.drift (s := at_ - 1) (t := at_) (by omega) (by omega))
  have previous := value (t - 86400000) end_ (by unfold wall at first last; omega)
  have soon : t - 86400000 < at_ + 7200000 := by
    unfold wall at first last
    omega
  have here := value t (by omega) (by omega)
  have own : z.dayAt t = z.firstDay source := by
    unfold dayAt dayOfReading
    unfold wall at first last ⊢
    omega
  have date := mild.fits_date modern fits
  by_contra other
  have next : k = z.dayAt t + 1 := by
    unfold dayAt dayOfReading at own other ⊢
    omega
  obtain ⟨w, stored, opens, -⟩ := fits
  rw [mild.windowOn hours modern] at stored
  obtain ⟨minutes, parsed, rfl⟩ := Option.map_eq_some_iff.mp stored
  have least := (minutesOn_bounds parsed).1.1
  rw [window_opensAt] at opens
  have near := mild.resolve_near (k * 86400000 + minutes.1 * 60000)
  have order := mild.wall_le opens
  have reading : z.wall t = t + z.offset at_ := by rw [wall, here]
  have beyond : z.wall t < k * 86400000 := by
    unfold dayAt dayOfReading at next
    omega
  have steady := mild.resolve_steady (k * 86400000 + minutes.1 * 60000) (c := z.offset at_)
    fun s low high => value s (by omega) (by omega)
  rw [steady] at opens
  linarith

/-- **When a period that is inside the hours is inside a window of the range.** -/
theorem Mild.visited_iff (mild : z.Mild) {source target t endsAt : Int} (ordered : t < endsAt)
    (after : source ≤ t) (before : endsAt ≤ target) (short : target - source ≤ 31 * 86400000)
    (modern : yearHundred + 172800000 ≤ z.firstDay source * 86400000)
    (inside : z.Fits hours (z.dayAt t) t endsAt ∨ z.Fits hours (z.dayAt (t - 86400000)) t endsAt) :
    (∃ w ∈ openWindowsBetween hours z.clock source target, w.opensAt ≤ t ∧ endsAt ≤ w.closesAt) ↔
      z.Fits hours (z.dayAt t) t endsAt ∨ z.firstDay source ≤ z.dayAt (t - 86400000) := by
  obtain ⟨low, high⟩ := mild.dates_close t
  have first := mild.wall_le (s := source - 86400000) (t := t - 86400000) (by omega)
  have last := mild.wall_le (s := t + 86400000) (t := target + 86400000) (by omega)
  have yesterday := (mild.wall_day (t - 86400000)).1
  have tomorrow := (mild.wall_day t).1
  rw [sub_add_cancel] at yesterday
  have start := (z.wall_near (source - 86400000)).1
  have here := (z.wall_near t).2
  -- A date from the first to that of the start is visited.
  have reached : ∀ day, z.firstDay source ≤ day → day ≤ z.dayAt t → z.Fits hours day t endsAt →
      ∃ w ∈ openWindowsBetween hours z.clock source target, w.opensAt ≤ t ∧ endsAt ≤ w.closesAt := by
    rintro day from_ until_ ⟨w, stored, opens, closes⟩
    refine ⟨w, (mild.mem_openWindowsBetween modern).mpr ⟨day, from_, ?_, ?_, stored,
      lt_of_le_of_lt after (lt_of_lt_of_le ordered closes),
      lt_of_le_of_lt opens (lt_of_lt_of_le ordered before)⟩, opens, closes⟩
    · unfold lastDay dayAt dayOfReading at *
      omega
    · unfold firstDay dayAt dayOfReading at *
      omega
  constructor
  · rintro ⟨w, among, opens, closes⟩
    obtain ⟨day, from_, -, -, stored, -⟩ := (mild.mem_openWindowsBetween modern).mp among
    have fits : z.Fits hours day t endsAt := ⟨w, stored, opens, closes⟩
    rcases le_or_gt (z.firstDay source) (z.dayAt (t - 86400000)) with visited | back
    · exact .inr visited
    · have own := mild.fits_own after back (by omega) from_ fits
      subst own
      exact .inl fits
  · intro visited
    have own : z.firstDay source ≤ z.dayAt t := by
      unfold firstDay dayAt dayOfReading
      omega
    rcases inside with today | before_
    · exact reached _ own le_rfl today
    · rcases visited with today | from_
      · exact reached _ own le_rfl today
      · exact reached _ from_ low before_

end TimeZone

/-! ## The endpoint and the hold path -/

namespace RoomOffer

variable {env : Env} {db : Db} {roomId : UuidText}

/-- Every start of the range that can be held is listed once, and the list ascends. -/
structure Lists (offer : RoomOffer env db roomId) (query : AvailabilityQuery)
    (principal : AuthPrincipal) (now : Instant) (slots : List FreeSlot) : Prop where
  complete : ∀ t, query.source ≤ t → addMinutes t (offer.duration query) ≤ query.target →
    Holdable env db roomId principal now ⟨t, addMinutes t (offer.duration query)⟩ →
      slots.count ⟨t, addMinutes t (offer.duration query)⟩ = 1
  ascending : slots.Pairwise FreeSlot.before

/-- No start is offered in two windows; and a start that can be held is inside the window of
its own date, or the date 24 hours before is visited, and no busy interval begins between
the constraint's turnaround and the configured one. -/
structure Parted (offer : RoomOffer env db roomId) (z : TimeZone) (turnaround : Int)
    (query : AvailabilityQuery) (principal : AuthPrincipal) (now : Instant) : Prop where
  once : (openWindowsBetween offer.hours z.clock query.source query.target).Pairwise fun v w =>
    ∀ t, ¬ (Offered turnaround (offer.duration query) (offer.busy query now) query.source query.target
        (addMinutes now minLeadMinutes) v t ∧
      Offered turnaround (offer.duration query) (offer.busy query now) query.source query.target
        (addMinutes now minLeadMinutes) w t)
  visited : ∀ t, query.source ≤ t → addMinutes t (offer.duration query) ≤ query.target →
    Holdable env db roomId principal now ⟨t, addMinutes t (offer.duration query)⟩ →
      z.Fits offer.hours (z.dayAt t) t (addMinutes t (offer.duration query)) ∨
        z.firstDay query.source ≤ z.dayAt (t - dayMs)
  turned : ∀ t, query.source ≤ t → addMinutes t (offer.duration query) ≤ query.target →
    Holdable env db roomId principal now ⟨t, addMinutes t (offer.duration query)⟩ →
      ∀ b ∈ offer.busy query now, t < b.target →
        addMinutes (addMinutes t (offer.duration query)) 15 ≤ b.source →
          addMinutes (addMinutes t (offer.duration query)) turnaround ≤ b.source

/-- What a holdable start has passed. -/
structure Passed (offer : RoomOffer env db roomId) (query : AvailabilityQuery) (now t : Instant) :
    Prop where
  onGrid : t % gridMs = 0
  lasts : 60 ≤ offer.duration query
  ahead : addMinutes now minLeadMinutes ≤ t
  hours : isWithinOperatingHours offer.hours offer.zone t (addMinutes t (offer.duration query)) = true
  clear : ∀ b ∈ offer.busy query now,
    ¬ (b.source < addMinutes (addMinutes t (offer.duration query)) 15 ∧ t < b.target)

theorem mem_busy (offer : RoomOffer env db roomId) {query : AvailabilityQuery} {now : Instant}
    {interval : BusyInterval} (among : interval ∈ offer.busy query now) :
    ∃ id b, db.bookings.get? id = some b ∧ b.roomId = roomId.value ∧ b.live now = true ∧
      interval = ⟨b.startsAt, b.slotEnd⟩ := by
  obtain ⟨⟨id, b⟩, row, rfl⟩ := List.mem_map.mp among
  rw [List.mem_insertionSort, busyRows, Table.mem_select] at row
  simp only [Bool.and_eq_true, decide_eq_true_eq] at row
  exact ⟨id, b, row.1, row.2.1.1, row.2.1.2, rfl⟩

theorem passed (offer : RoomOffer env db roomId) {query : AvailabilityQuery}
    {principal : AuthPrincipal} {now t : Instant}
    (holdable : Holdable env db roomId principal now ⟨t, addMinutes t (offer.duration query)⟩) :
    offer.Passed query now t := by
  obtain ⟨accepted, ctx, opened, free⟩ := holdable
  obtain ⟨opens, within⟩ := (offer.openHold_iff rfl).mp ⟨ctx, opened⟩
  obtain ⟨onGrid, -, least, -⟩ := of_decide_eq_true accepted
  have lasts : 60 ≤ offer.duration query := by
    have minutes : ∀ {t d : Int}, t + 60 * 60 * 1000 ≤ t + d * 60000 → 60 ≤ d := by omega
    exact minutes least
  refine
    { onGrid := onGrid
      lasts := lasts
      ahead := ?_
      hours := within
      clear := ?_ }
  · have lead : ¬ t - now < minLeadMinutes * 60000 := opens.early
    rw [not_lt] at lead
    show now + minLeadMinutes * 60000 ≤ t
    linarith
  · rintro interval among ⟨starts, ends⟩
    obtain ⟨id, b, stored, inRoom, live, rfl⟩ := offer.mem_busy among
    obtain ⟨active, fresh⟩ := fresh_of_live live
    exact (roomConflicts_cleared rfl now).mp free id b stored inRoom active fresh ⟨starts, ends⟩

/-- A start that can be held is listed where a window of the range has it and the
configured turnaround asks no more. -/
theorem mem_slots_iff (offer : RoomOffer env db roomId) {z : TimeZone} (zone : offer.zone = z.clock)
    {turnaround : Int} {query : AvailabilityQuery} {now t : Instant} (after : query.source ≤ t)
    (before : addMinutes t (offer.duration query) ≤ query.target)
    (passed : offer.Passed query now t) :
    (⟨t, addMinutes t (offer.duration query)⟩ : FreeSlot) ∈
        enumerate turnaround offer.hours offer.zone query.source query.target (offer.duration query)
          (offer.busy query now) (addMinutes now minLeadMinutes) ↔
      (∃ w ∈ openWindowsBetween offer.hours z.clock query.source query.target,
          w.opensAt ≤ t ∧ addMinutes t (offer.duration query) ≤ w.closesAt) ∧
        ∀ b ∈ offer.busy query now, t < b.target →
          addMinutes (addMinutes t (offer.duration query)) 15 ≤ b.source →
            addMinutes (addMinutes t (offer.duration query)) turnaround ≤ b.source := by
  have later : t < addMinutes t (offer.duration query) := by
    have lasts := passed.lasts
    show t < t + offer.duration query * 60000
    linarith
  have clear : clashes (offer.busy query now) t
        (addMinutes (addMinutes t (offer.duration query)) turnaround) = false ↔
      ∀ b ∈ offer.busy query now, t < b.target →
        addMinutes (addMinutes t (offer.duration query)) 15 ≤ b.source →
          addMinutes (addMinutes t (offer.duration query)) turnaround ≤ b.source := by
    simp only [clashes, List.any_eq_false, decide_eq_true_eq, not_and, not_lt]
    constructor
    · intro free b among ends _
      by_contra early
      exact absurd (free b among (not_le.mp early)) (not_le.mpr ends)
    · intro turned b among starts
      by_contra ends
      rw [not_le] at ends
      have first := not_lt.mp fun soon => passed.clear b among ⟨soon, ends⟩
      exact absurd (turned b among ends first) (not_le.mpr starts)
  rw [mem_enumerate, zone]
  constructor
  · rintro ⟨t', same, w, window, reached, listed⟩
    cases same
    exact ⟨⟨w, window, le_trans (le_max_left _ _) reached.within, listed.inWindow⟩, clear.mp listed.clear⟩
  · rintro ⟨⟨w, window, opens, closes⟩, turned⟩
    exact ⟨t, rfl, w, window,
      { onGrid := passed.onGrid
        within := max_le opens after
        early := .inr (lt_of_lt_of_le later closes) },
      { inWindow := closes
        inRange := before
        clear := clear.mpr turned
        ahead := passed.ahead }⟩

end RoomOffer

/-- **When availability lists every start that can be held, once and in order.** -/
theorem free_slots_complete_iff {env : Env} {turnaround : Int} {db db' : Db} {roomId : UuidText}
    (offer : RoomOffer env db roomId) (z : TimeZone) (mild : z.Mild) (zone : offer.zone = z.clock)
    (query : AvailabilityQuery) (principal : AuthPrincipal) (now : Instant)
    (era : yearHundred + 40 * dayMs ≤ now) {r : RoomAvailability}
    (returned : forRoom env turnaround roomId query now db = .ok (r, db')) :
    offer.Lists query principal now r.freeSlots ↔ offer.Parted z turnaround query principal now := by
  obtain ⟨-, -, slots⟩ := forRoom_ok offer returned
  have ordered : r.freeSlots.Pairwise FreeSlot.before ↔
      (openWindowsBetween offer.hours z.clock query.source query.target).Pairwise fun v w =>
        ∀ t, ¬ (Offered turnaround (offer.duration query) (offer.busy query now) query.source
            query.target (addMinutes now minLeadMinutes) v t ∧
          Offered turnaround (offer.duration query) (offer.busy query now) query.source query.target
            (addMinutes now minLeadMinutes) w t) := by
    rw [slots, enumerate, zone]
    exact ascending_iff (List.pairwise_insertionSort _ _)
  have once : r.freeSlots.Pairwise FreeSlot.before → r.freeSlots.Nodup := by
    intro ascending
    refine ascending.imp ?_
    rintro a b before rfl
    exact lt_irrefl _ before
  have listed : ∀ t, query.source ≤ t → addMinutes t (offer.duration query) ≤ query.target →
      Holdable env db roomId principal now ⟨t, addMinutes t (offer.duration query)⟩ →
        ((⟨t, addMinutes t (offer.duration query)⟩ : FreeSlot) ∈ r.freeSlots ↔
          (z.Fits offer.hours (z.dayAt t) t (addMinutes t (offer.duration query)) ∨
            z.firstDay query.source ≤ z.dayAt (t - dayMs)) ∧
          ∀ b ∈ offer.busy query now, t < b.target →
            addMinutes (addMinutes t (offer.duration query)) 15 ≤ b.source →
              addMinutes (addMinutes t (offer.duration query)) turnaround ≤ b.source) := by
    intro t after before holdable
    have passed := offer.passed holdable
    have inside := passed.hours
    rw [zone, TimeZone.within_iff] at inside
    have lasts := passed.lasts
    have ahead : now + minLeadMinutes * 60000 ≤ t := passed.ahead
    have until_ : t + offer.duration query * 60000 ≤ query.target := before
    have bounded := query.bounded
    have lead : (0 : Int) ≤ minLeadMinutes := by decide
    have modern : yearHundred + 172800000 ≤ z.firstDay query.source * 86400000 := by
      have start := (z.wall_near (query.source - 86400000)).1
      have late : yearHundred + 8 * 86400000 ≤ query.source := by
        rw [dayMs] at era
        linarith
      unfold TimeZone.firstDay TimeZone.dayAt dayOfReading
      omega
    have ordered : t < addMinutes t (offer.duration query) := by
      show t < t + offer.duration query * 60000
      linarith
    rw [slots, offer.mem_slots_iff zone after before passed,
      mild.visited_iff ordered after before (by linarith) modern inside]
    rfl
  constructor
  · intro lists
    have present : ∀ t, query.source ≤ t → addMinutes t (offer.duration query) ≤ query.target →
        Holdable env db roomId principal now ⟨t, addMinutes t (offer.duration query)⟩ → _ :=
      fun t after before holdable => (listed t after before holdable).mp
        (List.count_pos_iff.mp ((lists.complete t after before holdable).symm ▸ Nat.one_pos))
    exact
      { once := ordered.mp lists.ascending
        visited := fun t after before holdable => (present t after before holdable).1
        turned := fun t after before holdable => (present t after before holdable).2 }
  · intro parted
    have ascending := ordered.mpr parted.once
    refine ⟨fun t after before holdable => ?_, ascending⟩
    have among := (listed t after before holdable).mpr
      ⟨parted.visited t after before holdable, parted.turned t after before holdable⟩
    exact List.count_eq_one_of_mem (once ascending) among

namespace Sample

def utc : TimeZone := .single 0 0 0 (by decide) (by decide)

def utcEnv : Env := { Env.default with timeZone := fun _ => some utc.clock }

/-- Open on Mondays until Tuesday noon, and on Tuesdays from nine. -/
def overnight : Json :=
  .obj [("sun", .null), ("mon", .obj [("open", .str "18:00"), ("close", .str "12:00")]),
    ("tue", .obj [("open", .str "09:00"), ("close", .str "17:00")]),
    ("wed", .null), ("thu", .null), ("fri", .null), ("sat", .null)]

def overnightVenue : Venue := { venue with operatingHours := overnight }

def overnightDb : Db := { db with venues := ⟨[(1, overnightVenue)], List.nodup_singleton 1⟩ }

theorem hour_bounded : ∀ d, some (60 : Int) = some d → 60 ≤ d ∧ d ≤ 480 := by
  rintro d ⟨⟩
  decide

/-- Two hours of a Tuesday of June 2025, from one on. -/
def tuesday : AvailabilityQuery :=
  ⟨1749560400000, 1749567600000, some 60, of_decide_eq_true rfl, of_decide_eq_true rfl, hour_bounded⟩

/-- Three hours of that morning. -/
def tuesdayMorning : AvailabilityQuery :=
  ⟨1749546000000, 1749556800000, some 60, of_decide_eq_true rfl, of_decide_eq_true rfl, hour_bounded⟩

def overnightOffer : RoomOffer utcEnv overnightDb (Uuid.path room) where
  room := roomRow
  venue := overnightVenue
  hours := ⟨none, some ⟨"18:00", "12:00"⟩, some ⟨"09:00", "17:00"⟩, none, none, none, none⟩
  zone := utc.clock
  roomFound := rfl
  venueFound := rfl
  hoursParsed := rfl
  zoneKnown := rfl

end Sample

/-- In the afternoon only the Tuesday's own window is open: three starts, and each that can
be held is listed once. -/
theorem free_slots_complete_tuesday :
    ∃ r, forRoom Sample.utcEnv 15 (Uuid.path Sample.room) Sample.tuesday 1749427200000 Sample.overnightDb =
        .ok (r, Sample.overnightDb) ∧
      r.freeSlots.length = 3 ∧
      Sample.overnightOffer.Lists Sample.tuesday Sample.customer 1749427200000 r.freeSlots := by
  obtain ⟨r, returned, slots⟩ : ∃ r,
      forRoom Sample.utcEnv 15 (Uuid.path Sample.room) Sample.tuesday 1749427200000 Sample.overnightDb =
          .ok (r, Sample.overnightDb) ∧ r.freeSlots.length = 3 :=
    ⟨_, rfl, by decide +kernel⟩
  have few : (openWindowsBetween Sample.overnightOffer.hours Sample.utc.clock Sample.tuesday.source
      Sample.tuesday.target).length = 1 := by
    decide +kernel
  refine ⟨r, returned, slots, (free_slots_complete_iff Sample.overnightOffer Sample.utc
    (TimeZone.single_mild (by decide)) rfl Sample.tuesday Sample.customer 1749427200000 (by decide)
    returned).mpr ?_⟩
  obtain ⟨w, only⟩ := List.length_eq_one_iff.mp few
  refine
    { once := by rw [only]; exact List.pairwise_singleton _ _
      visited := fun t after _ _ => .inr ?_
      turned := fun t _ _ _ b among => absurd among List.not_mem_nil }
  have steady : ∀ s, Sample.utc.offset s = 0 := fun s => ite_self _
  have late : (1749560400000 : Int) ≤ t := after
  show (1749560400000 - 86400000 + Sample.utc.offset _) / 86400000 ≤
    (t - dayMs + Sample.utc.offset _) / 86400000
  rw [steady, steady, dayMs]
  omega

/-- In the morning the Monday's window is open as well: its starts from nine on are listed twice. -/
theorem free_slots_repeated :
    ¬ ∀ (env : Env) (turnaround : Int) (db db' : Db) (roomId : UuidText)
      (offer : RoomOffer env db roomId) (z : TimeZone) (query : AvailabilityQuery)
      (principal : AuthPrincipal) (now : Instant) (r : RoomAvailability),
      z.Mild → offer.zone = z.clock → forRoom env turnaround roomId query now db = .ok (r, db') →
        offer.Lists query principal now r.freeSlots := by
  intro claim
  obtain ⟨r, returned, unsorted⟩ : ∃ r,
      forRoom Sample.utcEnv 15 (Uuid.path Sample.room) Sample.tuesdayMorning 1749427200000
          Sample.overnightDb = .ok (r, Sample.overnightDb) ∧ ¬ r.freeSlots.Pairwise FreeSlot.before :=
    ⟨_, rfl, by decide +kernel⟩
  exact unsorted (claim Sample.utcEnv 15 Sample.overnightDb Sample.overnightDb (Uuid.path Sample.room)
    Sample.overnightOffer Sample.utc Sample.tuesdayMorning Sample.customer 1749427200000 r
    (TimeZone.single_mild (by decide)) rfl returned).ascending

end Atrium
