/-
# Utilisation -- the booked minutes of a report against its open minutes

The open minutes are the venue's windows clipped to the range, once for each room in the
report; the booked minutes are whole bookings, taken by their start.  Inside the range the
bookings of a room are disjoint intervals in the clipped windows, so they and the gaps they
leave come to the open time of the room (`room_add_idle`).  What bookings take of the time
after the range has to fit into these gaps (`utilisation_iff`).
-/
import Atrium.Base.Interval
import Atrium.MoneyKept

namespace Atrium

open Atrium.Base

set_option autoImplicit false

/-! ## One room -/

/-- The windows the report counts. -/
def windowsOf (env : Env) (venue : Venue) (query : RevenueReportQuery) : List OpenWindow :=
  match parseOperatingHours venue.operatingHours, env.timeZone venue.timezone with
  | some hours, some zone => openWindowsBetween hours zone query.source query.target
  | _, _ => []

def OpenWindow.clipped (query : RevenueReportQuery) (w : OpenWindow) : Interval :=
  ⟨max w.opensAt query.source, min w.closesAt query.target⟩

def Booking.period (b : Booking) : Interval := ⟨b.startsAt, b.endsAt⟩

/-- What of a booking is before the end of the range. -/
def Booking.clipped (query : RevenueReportQuery) (b : Booking) : Interval :=
  ⟨b.startsAt, min b.endsAt query.target⟩

/-- Open time of the range, in milliseconds. -/
def openTime (query : RevenueReportQuery) (windows : List OpenWindow) : Int :=
  Interval.total (windows.map (OpenWindow.clipped query))

/-- A booking is of a room and ends after it starts, each one the venue is owed for is inside
one of the windows, and those of one room do not meet. -/
structure Orderly (db : Db) (venueId : Uuid) (query : RevenueReportQuery)
    (windows : List OpenWindow) : Prop where
  rooms : ∀ id b, db.bookings.get? id = some b → (db.rooms.get? b.roomId).isSome
  lasts : ∀ id b, db.bookings.get? id = some b → b.startsAt < b.endsAt
  inside : ∀ id b, db.bookings.get? id = some b → inRange venueId query b = true →
    earned b = true → ∃ w ∈ windows, w.opensAt ≤ b.startsAt ∧ b.endsAt ≤ w.closesAt
  apart : ∀ id id' b b', db.bookings.get? id = some b → db.bookings.get? id' = some b' →
    id ≠ id' → b.roomId = b'.roomId → earned b = true → earned b' = true →
      b.period.Apart b'.period

/-- No booking that counts goes on past the end of the range. -/
def EndsInRange (db : Db) (venueId : Uuid) (query : RevenueReportQuery) : Prop :=
  ∀ id b, db.bookings.get? id = some b → inRange venueId query b = true → earned b = true →
    b.endsAt ≤ query.target

/-- Each booking that counts lasts whole minutes, or the open time is not rounded down. -/
def WholeMinutes (db : Db) (venueId : Uuid) (query : RevenueReportQuery)
    (windows : List OpenWindow) : Prop :=
  (∀ id b, db.bookings.get? id = some b → inRange venueId query b = true → earned b = true →
    (b.endsAt - b.startsAt) % 60000 = 0) ∨
    openTime query windows ≤ 60000 * mathRound ((openTime query windows : ℚ) / 60000)

/-- The bookings of a room that count. -/
def earnedOf (db : Db) (venueId : Uuid) (query : RevenueReportQuery) (roomId : Uuid) :
    List (Uuid × Booking) :=
  ((bookingsInRange db venueId query).filter fun row => earned row.2).filter fun row =>
    row.2.roomId = roomId

def duration (row : Uuid × Booking) : Int := row.2.endsAt - row.2.startsAt

/-- What a booking takes of the range. -/
def taken (query : RevenueReportQuery) (row : Uuid × Booking) : Int :=
  min row.2.endsAt query.target - row.2.startsAt

/-- What it takes of the time after. -/
def past (query : RevenueReportQuery) (row : Uuid × Booking) : Int :=
  max 0 (row.2.endsAt - query.target)

/-- The open time a room's bookings leave: at each instant of the range, the windows it is in,
but for the one the room is booked in. -/
noncomputable def idleOf (db : Db) (venueId : Uuid) (query : RevenueReportQuery) (windows : List OpenWindow)
    (roomId : Uuid) : Int :=
  Interval.gaps (windows.map (OpenWindow.clipped query))
    ((earnedOf db venueId query roomId).map fun row => row.2.clipped query)
    (Finset.Ico query.source query.target)

theorem mem_earnedOf {db : Db} {venueId roomId : Uuid} {query : RevenueReportQuery}
    {row : Uuid × Booking} : row ∈ earnedOf db venueId query roomId ↔
      (db.bookings.get? row.1 = some row.2 ∧ inRange venueId query row.2 = true) ∧
        earned row.2 = true ∧ row.2.roomId = roomId := by
  rw [earnedOf, List.mem_filter, List.mem_filter, bookingsInRange, Table.mem_select,
    decide_eq_true_eq, and_assoc]

section Room

variable {db : Db} {venueId : Uuid} {query : RevenueReportQuery} {windows : List OpenWindow}

theorem earnedOf_apart (orderly : Orderly db venueId query windows) (roomId : Uuid) :
    ((earnedOf db venueId query roomId).map fun row => row.2.clipped query).Pairwise
      Interval.Apart := by
  have keys : (earnedOf db venueId query roomId).Pairwise fun r s => r.1 ≠ s.1 := by
    have distinct := nodup_bookingsInRange db venueId query
    rw [List.Nodup, List.pairwise_map] at distinct
    exact distinct.sublist (List.filter_sublist.trans List.filter_sublist)
  rw [List.pairwise_map]
  refine keys.imp_of_mem fun first second differ => ?_
  obtain ⟨⟨found, -⟩, earns, room⟩ := mem_earnedOf.mp first
  obtain ⟨⟨found', -⟩, earns', room'⟩ := mem_earnedOf.mp second
  rcases orderly.apart _ _ _ _ found found' differ (room.trans room'.symm) earns earns' with
    before | after
  · exact .inl ((min_le_left _ _).trans before)
  · exact .inr ((min_le_left _ _).trans after)

/-- **The bookings of one room, as far as the range goes, and its idle time are its open
time.** -/
theorem room_add_idle (orderly : Orderly db venueId query windows) (roomId : Uuid) :
    ((earnedOf db venueId query roomId).map (taken query)).sum +
      idleOf db venueId query windows roomId = openTime query windows := by
  have counted : ∀ row ∈ earnedOf db venueId query roomId,
      query.source ≤ row.2.startsAt ∧ row.2.startsAt < query.target ∧
        row.2.startsAt < row.2.endsAt := by
    intro row member
    obtain ⟨⟨found, here⟩, -⟩ := mem_earnedOf.mp member
    obtain ⟨-, starts, before⟩ := of_decide_eq_true here
    exact ⟨starts, before, orderly.lasts _ _ found⟩
  have parts := @Interval.total_add_gaps _ (windows.map (OpenWindow.clipped query))
    (Finset.Ico query.source query.target) (earnedOf_apart orderly roomId) ?_ ?_
  · rw [openTime, idleOf, ← parts, Interval.total, List.map_map]
    refine congrArg (· + _) (congrArg List.sum (List.map_congr_left fun row member => ?_))
    obtain ⟨-, before, lasts⟩ := counted row member
    exact (max_eq_right (sub_nonneg.mpr (le_min lasts.le before.le))).symm
  · intro period among
    obtain ⟨row, member, rfl⟩ := List.mem_map.mp among
    obtain ⟨⟨found, here⟩, earns, -⟩ := mem_earnedOf.mp member
    obtain ⟨w, listed, opens, closes⟩ := orderly.inside _ _ found here earns
    exact ⟨w.clipped query, List.mem_map_of_mem listed, max_le opens (counted row member).1,
      min_le_min_right _ closes⟩
  · intro window among n here
    obtain ⟨w, -, rfl⟩ := List.mem_map.mp among
    exact Finset.mem_Ico.mpr ⟨(le_max_right _ _).trans here.1, here.2.trans_le (min_le_right _ _)⟩

/-- The bookings of one room amount to no more than the open time. -/
theorem room_le_open (orderly : Orderly db venueId query windows)
    (ends : EndsInRange db venueId query) (roomId : Uuid) :
    ((earnedOf db venueId query roomId).map duration).sum ≤ openTime query windows := by
  rw [← room_add_idle orderly roomId]
  have within : (earnedOf db venueId query roomId).map duration =
      (earnedOf db venueId query roomId).map (taken query) := by
    refine List.map_congr_left fun row member => ?_
    obtain ⟨⟨found, here⟩, earns, -⟩ := mem_earnedOf.mp member
    rw [duration, taken, min_eq_left (ends _ _ found here earns)]
  have most : 0 ≤ idleOf db venueId query windows roomId := Int.natCast_nonneg _
  rw [within]
  exact le_add_of_nonneg_right most

/-- In minutes, rounded as the report rounds them. -/
theorem room_le_minutes (orderly : Orderly db venueId query windows)
    (ends : EndsInRange db venueId query) (whole : WholeMinutes db venueId query windows)
    (roomId : Uuid) :
    ((earnedOf db venueId query roomId).map duration).sum ≤
      60000 * mathRound ((openTime query windows : ℚ) / 60000) := by
  have most := room_le_open orderly ends roomId
  rcases whole with minutes | rounded
  · have down : openTime query windows / 60000 ≤ mathRound ((openTime query windows : ℚ) / 60000) := by
      rw [mathRound, Int.le_floor]
      have floor : ((openTime query windows / 60000 : Int) : ℚ) ≤ (openTime query windows : ℚ) / 60000 := by
        have exact_ := Int.ediv_mul_le (openTime query windows) (show (60000 : Int) ≠ 0 by decide)
        rw [le_div_iff₀ (by norm_num)]
        exact_mod_cast exact_
      linarith
    have divides : (60000 : Int) ∣ ((earnedOf db venueId query roomId).map duration).sum := by
      refine List.dvd_sum fun d among => ?_
      obtain ⟨row, member, rfl⟩ := List.mem_map.mp among
      obtain ⟨⟨found, here⟩, earns, -⟩ := mem_earnedOf.mp member
      exact Int.dvd_of_emod_eq_zero (minutes _ _ found here earns)
    omega
  · omega

end Room

/-! ## The report -/

theorem mapM_length {α β : Type} {f : α → Transaction β} : ∀ {l : List α} {found : List β}
    {db db' : Db}, l.mapM f db = .ok (found, db') → found.length = l.length
  | [], _, _, _, returned => by
      rw [List.mapM_nil, Tx.pure_ok] at returned
      rw [← returned.1]
      rfl
  | a :: l, _, _, _, returned => by
      simp only [List.mapM_cons, Tx.bind_ok, Tx.pure_ok] at returned
      obtain ⟨b, mid, -, found, mid', rest, rfl, -⟩ := returned
      rw [List.length_cons, List.length_cons, mapM_length rest]

/-- The rooms with a booking in range. -/
def roomsInRange (db : Db) (venueId : Uuid) (query : RevenueReportQuery) : List Uuid :=
  (db.rooms.rows.map Prod.fst).filter fun roomId =>
    (bookingsInRange db venueId query).any fun row => decide (row.2.roomId = roomId)

theorem byRoom_length {venueId : Uuid} {query : RevenueReportQuery} {found : List RoomRevenue}
    {db db' : Db} (returned : byRoom venueId query db = .ok (found, db')) :
    found.length = (roomsInRange db venueId query).length := by
  simp only [byRoom, Tx.bind_ok, Tx.read_ok, Tx.pure_ok] at returned
  obtain ⟨rooms, _, ⟨rfl, rfl⟩, rows, _, ⟨rfl, rfl⟩, unsorted, _, ran, rfl, -⟩ := returned
  have same : ∀ roomId : Uuid, (!((bookingsInRange db venueId query).filter fun row =>
      decide (row.2.roomId = roomId)).isEmpty) =
      (bookingsInRange db venueId query).any fun row => decide (row.2.roomId = roomId) := by
    intro roomId
    rw [Bool.eq_iff_iff]
    simp
  rw [List.length_insertionSort, mapM_length ran, roomsInRange, List.filter_map, List.filter_map,
    List.length_map, List.length_map]
  refine congrArg List.length (List.filter_congr fun room _ => ?_)
  exact same room.1

theorem totals_booked {venueId : Uuid} {query : RevenueReportQuery} {r : RevenueTotals} {db db' : Db}
    (returned : totals venueId query db = .ok (r, db')) :
    r.bookedMinutes = wholeMinutes
      (((bookingsInRange db venueId query).filter fun row => earned row.2).map duration).sum := by
  simp only [totals, countOf, bookedMinutes, Tx.bind_ok, Tx.read_ok, Tx.pure_ok,
    castInt_ok] at returned
  unfold duration
  grind

theorem openMinutes_ok {env : Env} {venue : Venue} {query : RevenueReportQuery} {n : Nat}
    {minutes : Int} {db db' : Db} (returned : openMinutes env venue query n db = .ok (minutes, db')) :
    minutes = mathRound ((openTime query (windowsOf env venue query) : ℚ) / 60000) * n := by
  have nothing : mathRound (((Interval.total [] : Int) : ℚ) / 60000) = 0 := by
    simp only [Interval.total, List.map_nil, List.sum_nil, mathRound]
    norm_num
  rw [openMinutes] at returned
  by_cases none_ : n = 0
  · rw [if_pos none_, Tx.pure_ok] at returned
    rw [← returned.1, none_, Nat.cast_zero, mul_zero]
  · rw [if_neg none_] at returned
    cases hours : parseOperatingHours venue.operatingHours with
    | none =>
        simp only [hours, Tx.pure_ok] at returned
        simp only [windowsOf, hours, openTime, List.map_nil, nothing, zero_mul]
        exact returned.1.symm
    | some hours' =>
        cases zone : env.timeZone venue.timezone with
        | none =>
            simp only [hours, zone, Tx.abort_ok] at returned
        | some zone' =>
            simp only [hours, zone, Tx.pure_ok] at returned
            simp only [windowsOf, hours, zone, openTime, Interval.total, List.map_map]
            exact returned.1.symm

/-- Rows by room: each booking that counts is of one of the rooms in range. -/
theorem sum_by_room {db : Db} {venueId : Uuid} {query : RevenueReportQuery}
    {windows : List OpenWindow} (orderly : Orderly db venueId query windows)
    (amount : Uuid × Booking → Int) :
    (((bookingsInRange db venueId query).filter fun row => earned row.2).map amount).sum =
      ((roomsInRange db venueId query).map fun roomId =>
        ((earnedOf db venueId query roomId).map amount).sum).sum := by
  have distinct : (roomsInRange db venueId query).Nodup := db.rooms.unique.sublist List.filter_sublist
  have joined := Aggregate.sum_join distinct
    ((bookingsInRange db venueId query).filter fun row => earned row.2) (fun row => row.2.roomId)
    amount
  rw [List.filter_eq_self.mpr ?_] at joined
  · exact joined
  · intro row among
    have here := (List.mem_filter.mp among).1
    obtain ⟨room, held⟩ := Option.isSome_iff_exists.mp
      (orderly.rooms _ _ (Table.mem_select.mp here).1)
    rw [decide_eq_true_eq, roomsInRange, List.mem_filter, List.any_eq_true]
    exact ⟨List.mem_map.mpr ⟨_, Table.mem_rows.mpr held, rfl⟩, row, here, decide_eq_true rfl⟩

/-- What the bookings of the range take of the time after its end. -/
def overtime (db : Db) (venueId : Uuid) (query : RevenueReportQuery) : Int :=
  (((bookingsInRange db venueId query).filter fun row => earned row.2).map (past query)).sum

/-- The idle time of the rooms in the report. -/
noncomputable def idle (db : Db) (venueId : Uuid) (query : RevenueReportQuery)
    (windows : List OpenWindow) : Int :=
  ((roomsInRange db venueId query).map (idleOf db venueId query windows)).sum

/-- What rounding to minutes adds to the open time, for all rooms of the report. -/
def roundedUp (db : Db) (venueId : Uuid) (query : RevenueReportQuery) (windows : List OpenWindow) :
    Int :=
  (roomsInRange db venueId query).length *
    (60000 * mathRound ((openTime query windows : ℚ) / 60000) - openTime query windows)

theorem openTime_rounded (query : RevenueReportQuery) (windows : List OpenWindow) :
    0 ≤ mathRound ((openTime query windows : ℚ) / 60000) := by
  have least : 0 ≤ openTime query windows := by
    refine List.sum_nonneg fun n among => ?_
    obtain ⟨i, -, rfl⟩ := List.mem_map.mp among
    exact le_max_left _ _
  have ratio : (0 : ℚ) ≤ (openTime query windows : ℚ) / 60000 :=
    div_nonneg (by exact_mod_cast least) (by norm_num)
  rw [mathRound, Int.le_floor, Int.cast_zero]
  linarith

section Totals

variable {db : Db} {venueId : Uuid} {query : RevenueReportQuery} {windows : List OpenWindow}

/-- A booking's time is what it takes of the range and what it takes of the time after. -/
theorem sum_durations (l : List (Uuid × Booking)) :
    (l.map duration).sum = (l.map (taken query)).sum + (l.map (past query)).sum := by
  rw [← List.sum_map_add]
  refine congrArg List.sum (List.map_congr_left fun row _ => ?_)
  unfold duration taken past
  omega

/-- **All rooms together**: the bookings and the idle time are the open time of each room. -/
theorem taken_add_idle (orderly : Orderly db venueId query windows) :
    (((bookingsInRange db venueId query).filter fun row => earned row.2).map (taken query)).sum +
        idle db venueId query windows =
      (roomsInRange db venueId query).length * openTime query windows := by
  rw [sum_by_room orderly (taken query), idle, ← List.sum_map_add, ← nsmul_eq_mul,
    ← List.length_map (fun roomId => ((earnedOf db venueId query roomId).map (taken query)).sum +
      idleOf db venueId query windows roomId)]
  refine List.sum_eq_card_nsmul _ _ fun amount among => ?_
  obtain ⟨roomId, -, rfl⟩ := List.mem_map.mp among
  exact room_add_idle orderly roomId

/-- **The bookings of a range fit into its open time**, where none that counts goes on past
its end, and minutes are whole. -/
theorem durations_le (orderly : Orderly db venueId query windows)
    (ends : EndsInRange db venueId query) (whole : WholeMinutes db venueId query windows) :
    (((bookingsInRange db venueId query).filter fun row => earned row.2).map duration).sum ≤
      (roomsInRange db venueId query).length *
        (60000 * mathRound ((openTime query windows : ℚ) / 60000)) := by
  have bounded := List.sum_le_card_nsmul ((roomsInRange db venueId query).map fun roomId =>
    ((earnedOf db venueId query roomId).map duration).sum)
    (60000 * mathRound ((openTime query windows : ℚ) / 60000)) (by
      intro amount among
      obtain ⟨roomId, -, rfl⟩ := List.mem_map.mp among
      exact room_le_minutes orderly ends whole roomId)
  rwa [List.length_map, nsmul_eq_mul, ← sum_by_room orderly duration] at bounded

end Totals

namespace Sample

/-- Half an hour, from ten. -/
def halfHour : RevenueReportQuery := ⟨36000000, 37800000, by decide, by decide⟩

/-- The room, booked and paid for from ten to eleven. -/
def bookedHour : Db := selling (sold .confirmed) (paidFor .succeeded 0)

theorem bookedHour_row {id : Uuid} {b : Booking} (found : bookedHour.bookings.get? id = some b) :
    id = 7 ∧ b = sold .confirmed := by
  have row : (id, b) ∈ [((7 : Uuid), sold .confirmed)] := Table.mem_rows.mpr found
  rw [List.mem_singleton, Prod.mk.injEq] at row
  exact row

theorem bookedHour_orderly {query : RevenueReportQuery} {windows : List OpenWindow}
    (inside : ∃ w ∈ windows, w.opensAt ≤ 36000000 ∧ 39600000 ≤ w.closesAt) :
    Orderly bookedHour 1 query windows := by
  refine ⟨fun id b found => ?_, fun id b found => ?_, fun id b found _ _ => ?_,
    fun id id' b b' found found' differ => ?_⟩
  · obtain ⟨-, rfl⟩ := bookedHour_row found
    rfl
  · obtain ⟨-, rfl⟩ := bookedHour_row found
    decide
  · obtain ⟨-, rfl⟩ := bookedHour_row found
    exact inside
  · exact absurd ((bookedHour_row found).1.trans (bookedHour_row found').1.symm) differ

/-- The sample venue is open around the clock. -/
theorem bookedHour_inside (query : RevenueReportQuery)
    (listed : (windowsOf .default venue query).map (fun w => (w.opensAt, w.closesAt)) =
      [(0, 86400000)]) :
    ∃ w ∈ windowsOf .default venue query, w.opensAt ≤ 36000000 ∧ 39600000 ≤ w.closesAt := by
  have among : ((0 : Instant), (86400000 : Instant)) ∈
      (windowsOf .default venue query).map (fun w => (w.opensAt, w.closesAt)) := by
    rw [listed]
    exact List.mem_singleton.mpr rfl
  obtain ⟨w, member, ends⟩ := List.mem_map.mp among
  rw [Prod.mk.injEq] at ends
  exact ⟨w, member, by rw [ends.1]; decide, by rw [ends.2]; decide⟩

end Sample

end Atrium
