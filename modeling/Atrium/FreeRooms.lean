/-
# FreeRooms -- the rooms free for a window, against the exclusion constraint

`freeRoomIds` restates the constraint as a query, and the two read the staleness of a hold
differently: the query leaves out a hold whose deadline is this very instant, and the expiry
before an insert does not touch it.  The rooms returned are those an insert would find free
exactly where no such hold stands alone in the window (`freeRoomIds_iff`).
-/
import Atrium.BookingView
import Atrium.FreeSlots

namespace Atrium

open Atrium.Base

set_option autoImplicit false

/-! ## The query -/

/-- The rooms of the list that an active booking keeps from the window.  A range that ends
where it begins is empty, and meets nothing. -/
def busyRooms (db : Db) (roomIds : List Uuid) (source occupiedEnd now : Instant) : List Uuid :=
  (db.bookings.select fun _ b => decide (b.roomId ∈ roomIds) && b.live now &&
    decide (source < occupiedEnd ∧ b.startsAt < occupiedEnd ∧ source < b.slotEnd)).map
      fun row => row.2.roomId

/-- Which of the rooms have no active booking in the window.  The database refuses an instant
whose text it does not read, and a range whose end is before its beginning. -/
def freeRoomIds (turnaround : Int) (roomIds : List Uuid) (source target now : Instant) :
    Transaction (Finset Uuid) :=
  if roomIds = [] then pure ∅
  else do
    let occupiedEnd := addMinutes target turnaround
    if (Instant.isTimestamp source && Instant.isTimestamp occupiedEnd) = false then
      Tx.abort (.database "22008")
    if occupiedEnd < source then Tx.abort (.database "22000")
    let busy ← Tx.read (busyRooms · roomIds source occupiedEnd now)
    pure (roomIds.filter fun id => id ∉ busy).toFinset

/-- The database reads the window, or is not asked. -/
def Readable (turnaround : Int) (roomIds : List Uuid) (source target : Instant) : Prop :=
  roomIds = [] ∨
    (Instant.isTimestamp source = true ∧ Instant.isTimestamp (addMinutes target turnaround) = true)

/-! ## The insert -/

/-- The window as the hold path inserts it: the room's stale holds are expired first. -/
def insertHeld (room : Uuid) (id : Uuid) (now : Instant) (values : NewBooking) : Transaction Booking := do
  let _ ← expireStaleHoldsForRoom room now
  createHeld id now values systemActor "hold.created"

/-- No HELD booking of the room for the window violates the exclusion constraint. -/
def Admits (db : Db) (room : Uuid) (source target now : Instant) : Prop :=
  ∀ (id : Uuid) (values : NewBooking), values.roomId = room → values.startsAt = source →
    values.endsAt = target → insertHeld room id now values db ≠ .error (.database "23P01")

/-- The rooms returned are those of the list whose window the constraint admits. -/
def ReturnsAdmitted (db : Db) (roomIds : List Uuid) (source target now : Instant) : Prop :=
  ∃ free, freeRoomIds 15 roomIds source target now db = .ok (free, db) ∧
    ∀ room, room ∈ free ↔ room ∈ roomIds ∧ Admits db room source target now

/-- A booking of a room with its turnaround meets a window with its own. -/
def Booking.meets (b : Booking) (source target : Instant) : Prop :=
  b.startsAt < addMinutes target 15 ∧ source < b.slotEnd

section Window

variable {db : Db} {room : Uuid} {source target now : Instant}

theorem insertHeld_run (id : Uuid) (values : NewBooking) :
    insertHeld room id now values db =
      createHeld id now values systemActor "hold.created" (clearedView db room now) := rfl

/-- When an insert meets the exclusion constraint. -/
theorem createHeld_refused_iff (id : Uuid) (values : NewBooking) (view : Db) :
    createHeld id now values systemActor "hold.created" view = .error (.database "23P01") ↔
      fitsBigint values.totalMinor = true ∧ values.startsAt < values.endsAt ∧
        roomConflicts view (values.row now) ≠ [] := by
  have inserted : createHeld id now values systemActor "hold.created" view =
      .error (.database "23P01") ↔
        insertBooking id (values.row now) view = .error (.database "23P01") := by
    simp only [createHeld, Tx.bind_error, insertAudit, Tx.write_error, Tx.pure_error, and_false,
      exists_false, or_false]
  have total : (values.row now).totalMinor = values.totalMinor := rfl
  have starts : (values.row now).startsAt = values.startsAt := rfl
  have ends : (values.row now).endsAt = values.endsAt := rfl
  rw [inserted, insertBooking_run, total, starts, ends]
  by_cases wide : fitsBigint values.totalMinor = false
  · rw [if_pos wide, wide]
    simp
  rw [if_neg wide]
  by_cases empty : values.endsAt ≤ values.startsAt
  · rw [if_pos empty]
    simp [not_lt.mpr empty]
  rw [if_neg empty]
  have fits : fitsBigint values.totalMinor = true := Bool.eq_true_of_not_eq_false wide
  by_cases taken : roomConflicts view (values.row now) ≠ []
  · rw [if_pos taken]
    exact iff_of_true rfl ⟨fits, not_le.mp empty, taken⟩
  · rw [if_neg taken]
    refine iff_of_false ?_ fun refused => taken refused.2.2
    cases view.bookings.insert? id (values.row now) with
    | none => simp
    | some bookings =>
        by_cases user : (values.row now).userId ∈ view.users <;> simp [user]

/-- **What the constraint asks of a window.** -/
theorem admits_iff (ordered : source < target) :
    Admits db room source target now ↔
      ∀ id b, db.bookings.get? id = some b → b.roomId = room → b.active = true →
        stale b now = false → ¬ b.meets source target := by
  have conflicts : ∀ values : NewBooking, values.roomId = room → values.startsAt = source →
      values.endsAt = target → (roomConflicts (clearedView db room now) (values.row now) = [] ↔
        ∀ id b, db.bookings.get? id = some b → b.roomId = room → b.active = true →
          stale b now = false → ¬ b.meets source target) := by
    rintro values inRoom rfl rfl
    have cleared := @RoomOffer.roomConflicts_cleared db (Uuid.path room) (values.row now)
      (by rw [Uuid.path_value]; exact inRoom) now
    rw [Uuid.path_value] at cleared
    exact cleared
  constructor
  · intro admits
    refine (conflicts ⟨room, room, room, source, target, now, 0, "PKR"⟩ rfl rfl rfl).mp ?_
    by_contra taken
    exact admits room _ rfl rfl rfl ((createHeld_refused_iff room _ _).mpr ⟨rfl, ordered, taken⟩)
  · rintro free id values inRoom starts ends refused
    rw [insertHeld_run, createHeld_refused_iff] at refused
    exact refused.2.2 ((conflicts values inRoom starts ends).mpr free)

/-! ## What the query returns -/

theorem mem_busyRooms {roomIds : List Uuid} {occupiedEnd : Instant} (proper : source < occupiedEnd) :
    room ∈ busyRooms db roomIds source occupiedEnd now ↔
      room ∈ roomIds ∧ ∃ id b, db.bookings.get? id = some b ∧ b.roomId = room ∧ b.live now = true ∧
        b.startsAt < occupiedEnd ∧ source < b.slotEnd := by
  simp only [busyRooms, List.mem_map, Prod.exists, Table.mem_select, Bool.and_eq_true,
    decide_eq_true_eq]
  constructor
  · rintro ⟨id, b, ⟨stored, ⟨listed, live⟩, -, meets⟩, rfl⟩
    exact ⟨listed, id, b, stored, rfl, live, meets⟩
  · rintro ⟨listed, id, b, stored, rfl, live, meets⟩
    exact ⟨id, b, ⟨stored, ⟨listed, live⟩, proper, meets⟩, rfl⟩

/-- **What the query returns**: the rooms of the list that no live booking keeps from the window. -/
theorem freeRoomIds_run {turnaround : Int} {roomIds : List Uuid} (ordered : source < target)
    (forward : 0 ≤ turnaround) (readable : Readable turnaround roomIds source target) :
    ∃ free, freeRoomIds turnaround roomIds source target now db = .ok (free, db) ∧
      ∀ room, room ∈ free ↔ room ∈ roomIds ∧
        ¬ ∃ id b, db.bookings.get? id = some b ∧ b.roomId = room ∧ b.live now = true ∧
          b.startsAt < addMinutes target turnaround ∧ source < b.slotEnd := by
  have proper : source < addMinutes target turnaround := by
    show source < target + turnaround * 60000
    have later : 0 ≤ turnaround * 60000 := by omega
    linarith
  have valid : ¬ addMinutes target turnaround < source := not_lt.mpr proper.le
  by_cases none_ : roomIds = []
  · subst none_
    refine ⟨∅, rfl, fun room => ?_⟩
    simp
  · obtain ⟨first, second⟩ := readable.resolve_left none_
    have read : ¬ (Instant.isTimestamp source &&
        Instant.isTimestamp (addMinutes target turnaround)) = false := by
      rw [first, second]
      decide
    refine ⟨(roomIds.filter fun id =>
        id ∉ busyRooms db roomIds source (addMinutes target turnaround) now).toFinset, ?_, fun room => ?_⟩
    · rw [freeRoomIds, if_neg none_]
      simp only [if_neg read, if_neg valid]
      rfl
    · simp only [List.mem_toFinset, List.mem_filter, decide_eq_true_eq, mem_busyRooms proper]
      constructor
      · rintro ⟨listed, free⟩
        exact ⟨listed, fun busy => free ⟨listed, busy⟩⟩
      · rintro ⟨listed, free⟩
        exact ⟨listed, fun busy => free busy.2⟩

/-- A query that answers has been read. -/
theorem readable_of_run {turnaround : Int} {roomIds : List Uuid} {free : Finset Uuid} {db' : Db}
    (returned : freeRoomIds turnaround roomIds source target now db = .ok (free, db')) :
    Readable turnaround roomIds source target := by
  by_cases none_ : roomIds = []
  · exact .inl none_
  · rw [freeRoomIds, if_neg none_] at returned
    by_cases unread : (Instant.isTimestamp source &&
        Instant.isTimestamp (addMinutes target turnaround)) = false
    · simp only [if_pos unread] at returned
      cases returned
    · rw [Bool.not_eq_false, Bool.and_eq_true] at unread
      exact .inr unread

end Window

/-- **When the query is the constraint**: the database reads the window, and a hold of the
window whose deadline is this very instant never stands alone. -/
theorem freeRoomIds_iff (db : Db) (roomIds : List Uuid) (source target now : Instant)
    (ordered : source < target) :
    ReturnsAdmitted db roomIds source target now ↔
      Readable 15 roomIds source target ∧
      ∀ room ∈ roomIds,
        (∃ id b, db.bookings.get? id = some b ∧ b.roomId = room ∧ b.status = .held ∧
          b.expiresAt = some now ∧ b.meets source target) →
        ∃ id b, db.bookings.get? id = some b ∧ b.roomId = room ∧ b.live now = true ∧
          b.meets source target := by
  constructor
  · rintro ⟨free', returned', admitted⟩
    have readable := readable_of_run returned'
    obtain ⟨free, returned, members⟩ :=
      @freeRoomIds_run db source target now 15 roomIds ordered (by decide) readable
    cases returned.symm.trans returned'
    simp only [members, admits_iff ordered] at admitted
    refine ⟨readable, ?_⟩
    rintro room listed ⟨id, b, stored, inRoom, held, due, meets⟩
    by_contra alone
    have free' := ((admitted room).mp ⟨listed, alone⟩).2
    refine free' id b stored inRoom ?_ ?_ meets
    · rw [Booking.active, held]
      rfl
    · rw [stale, Booking.lapsedBefore, due]
      simp
  · rintro ⟨readable, accompanied⟩
    obtain ⟨free, returned, members⟩ :=
      @freeRoomIds_run db source target now 15 roomIds ordered (by decide) readable
    refine ⟨free, returned, fun room => ?_⟩
    rw [members, admits_iff ordered]
    constructor
    · rintro ⟨listed, alone⟩
      refine ⟨listed, fun id b stored inRoom active fresh meets => ?_⟩
      rcases RoomOffer.live_or_due active fresh with live | ⟨held, due⟩
      · exact alone ⟨id, b, stored, inRoom, live, meets⟩
      · exact alone (accompanied room listed ⟨id, b, stored, inRoom, held, due, meets⟩)
    · rintro ⟨listed, free'⟩
      refine ⟨listed, ?_⟩
      rintro ⟨id, b, stored, inRoom, live, meets⟩
      obtain ⟨active, fresh⟩ := RoomOffer.fresh_of_live live
      exact free' id b stored inRoom active fresh meets

namespace Sample

/-- The hall, held for an hour until midnight. -/
def heldToMidnight : Db :=
  { db with bookings := ⟨[(8,
      { venueId := 1, roomId := room, userId := 5, startsAt := 43200000, endsAt := 46800000
        status := .held, expiresAt := some 0, rearmCount := 0, policySnapshot := none
        totalMinor := 10000, currency := "PKR", createdAt := 0, updatedAt := 0 })],
      List.nodup_singleton 8⟩ }

end Sample

/-- The hall is sold for the hour, and the other room is free. -/
theorem freeRoomIds_sold :
    ReturnsAdmitted Sample.soldAfter [Sample.room, Sample.otherRoom] 43200000 46800000 0 := by
  refine (freeRoomIds_iff _ _ _ _ _ (by decide)).mpr ⟨.inr (by decide +kernel), ?_⟩
  rintro room - ⟨id, b, stored, -, held, -⟩
  have row := Table.mem_rows.mpr stored
  cases List.mem_singleton.mp row
  cases held

/-- At midnight the hall is returned, and the hold still counts against an insert. -/
theorem freeRoomIds_due :
    ¬ ∀ (db : Db) (roomIds : List Uuid) (source target now : Instant), source < target →
      Readable 15 roomIds source target → ReturnsAdmitted db roomIds source target now := by
  intro claim
  obtain ⟨free, returned, admitted⟩ := claim Sample.heldToMidnight [Sample.room] 43200000 46800000 0
    (by decide) (.inr (by decide +kernel))
  obtain ⟨free', returned', members⟩ := @freeRoomIds_run Sample.heldToMidnight 43200000 46800000 0
    15 [Sample.room] (by decide) (by decide) (.inr (by decide +kernel))
  cases returned.symm.trans returned'
  have listed : Sample.room ∈ free := by
    refine (members Sample.room).mpr ⟨List.mem_singleton.mpr rfl, ?_⟩
    rintro ⟨id, b, stored, -, live, -⟩
    have row := Table.mem_rows.mpr stored
    cases List.mem_singleton.mp row
    cases live
  have free_ := (admits_iff (by decide)).mp ((admitted Sample.room).mp listed).2
  exact free_ 8 _ rfl rfl rfl rfl (by constructor <;> decide)

end Atrium
