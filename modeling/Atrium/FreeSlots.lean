/-
# FreeSlots -- a free slot, submitted as a hold

The availability endpoint and the hold path each have their own copy of the booking
rules.  A start that availability lets through (`RoomOffer.Offers`) is one the hold
lets through exactly where it also meets what only the hold path asks for
(`RoomOffer.Keeps`): the half-hour grid at its end, the least duration, the farthest
lead, the window of its own local day or of the day 24 hours before, and no booking
that the busy query has left out.
-/
import Atrium.Hold
import Atrium.Availability

namespace Atrium

open Atrium.Base

set_option autoImplicit false

/-! ## The hold of a slot -/

/-- The slot as the body of a room-only hold. -/
def FreeSlot.body (slot : FreeSlot) (roomId : UuidText) : HoldBody :=
  ⟨roomId, slot.startsAt, slot.endsAt, []⟩

/-- The database a hold of the room inserts into: its first statement has expired the
room's stale holds. -/
def clearedView (db : Db) (roomId : Uuid) (now : Instant) : Db :=
  db.expire (staleHoldsOfRoom db roomId now) now systemActor "hold.expired.in_transaction"

/-- Submitted at `now`, the slot passes the hold schema and the venue's rules, and the
room's exclusion constraint admits its row. -/
def Holdable (env : Env) (db : Db) (roomId : UuidText) (principal : AuthPrincipal) (now : Instant)
    (slot : FreeSlot) : Prop :=
  ∃ accepted : (slot.body roomId).accepted = true, ∃ ctx,
    openHold env ⟨slot.body roomId, accepted⟩ now db = .ok (ctx, db) ∧
      roomConflicts (clearedView db roomId.value now)
        ((heldValues env ⟨slot.body roomId, accepted⟩ ctx principal.userId now []).row now) = []

/-- **A holdable slot is held**, unless its total leaves `bigint`, its key is taken or the
user is gone. -/
theorem Holdable.hold {env : Env} {db : Db} {roomId : UuidText} {principal : AuthPrincipal}
    {now : Instant} {slot : FreeSlot} (holdable : Holdable env db roomId principal now slot)
    {id : Uuid} (fresh : db.bookings.get? id = none) (user : principal.userId ∈ db.users) :
    ∃ input ctx, input.toHoldBody = slot.body roomId ∧
      (fitsBigint (heldRow env input ctx principal ⟨id, now, now⟩ []).totalMinor = true →
        ∃ b db', hold env input principal now ⟨id, now, now⟩ db = .ok (b, db')) := by
  obtain ⟨accepted, ctx, opened, free⟩ := holdable
  refine ⟨⟨slot.body roomId, accepted⟩, ctx, rfl, fun fits => ?_⟩
  have view : (clearedView db roomId.value now).bookings.get? id = none := by
    rw [clearedView, Db.expire_bookings, Table.get?_update, fresh]
    rfl
  have run : Atrium.hold env ⟨slot.body roomId, accepted⟩ principal now ⟨id, now, now⟩ db =
      insertHold env ⟨slot.body roomId, accepted⟩ ctx principal ⟨id, now, now⟩ []
        (clearedView db roomId.value now) := by
    rw [Atrium.hold, Tx.bind_of_ok opened]
    rfl
  rw [run]
  have insertion := insertHold_insertion env ⟨slot.body roomId, accepted⟩ ctx principal
    ⟨id, now, now⟩ [] (clearedView db roomId.value now)
  generalize insertHold env ⟨slot.body roomId, accepted⟩ ctx principal ⟨id, now, now⟩ []
    (clearedView db roomId.value now) = result at insertion
  cases insertion with
  | overflow wide => exact absurd (wide.symm.trans fits) Bool.false_ne_true
  | taken e _ conflicts => exact absurd free conflicts
  | present here => exact absurd view here
  | stranger unknown => exact absurd user unknown
  | unpositive _ _ _ unpositive => exact absurd (by intro _ among; cases among) unpositive
  | inserted bookings => exact ⟨_, _, rfl⟩

/-! ## The two sets of rules -/

namespace RoomOffer

variable {env : Env} {db : Db} {roomId : UuidText}

/-- What availability asks of a start. -/
structure Offers (offer : RoomOffer env db roomId) (query : AvailabilityQuery) (now t : Instant) :
    Prop where
  ahead : addMinutes now minLeadMinutes ≤ t
  inRange : addMinutes t (offer.duration query) ≤ query.target
  window : ∃ w ∈ openWindowsBetween offer.hours offer.zone query.source query.target,
    Reached query.source w t ∧ addMinutes t (offer.duration query) ≤ w.closesAt
  clear : ∀ id b, db.bookings.get? id = some b → b.roomId = roomId.value → b.live now = true →
    b.startsAt < query.target → query.source < b.slotEnd →
      ¬ (b.startsAt < addMinutes (addMinutes t (offer.duration query)) 15 ∧ t < b.slotEnd)

/-- A booking the constraint would still count and the busy query leaves out: one that
starts after the range, or a hold whose deadline is this very instant. -/
def unseen (query : AvailabilityQuery) (now : Instant) (b : Booking) : Prop :=
  b.active = true ∧ stale b now = false ∧
    (query.target ≤ b.startsAt ∨ (b.status = .held ∧ b.expiresAt = some now))

/-- What only the hold path asks. -/
structure Keeps (offer : RoomOffer env db roomId) (query : AvailabilityQuery) (now t : Instant) :
    Prop where
  spelled : isRfcUuid roomId.text = true
  grid : offer.duration query % 30 = 0
  least : 60 ≤ offer.duration query ∧ offer.room.minDurationMinutes ≤ offer.duration query
  most : offer.duration query ≤ 480
  near : t - now ≤ maxLeadDays * 24 * 60 * 60000
  hours : isWithinOperatingHours offer.hours offer.zone t (addMinutes t (offer.duration query)) = true
  clear : ∀ id b, db.bookings.get? id = some b → b.roomId = roomId.value → unseen query now b →
    ¬ (b.startsAt < addMinutes (addMinutes t (offer.duration query)) 15 ∧ t < b.slotEnd)

/-! ## What availability lists -/

theorem clashes_iff (offer : RoomOffer env db roomId) (query : AvailabilityQuery) (now : Instant)
    {cursor occupiedEnd : Instant} :
    clashes (offer.busy query now) cursor occupiedEnd = false ↔
      ∀ id b, db.bookings.get? id = some b → b.roomId = roomId.value → b.live now = true →
        b.startsAt < query.target → query.source < b.slotEnd →
          ¬ (b.startsAt < occupiedEnd ∧ cursor < b.slotEnd) := by
  have rows : ∀ row, row ∈ (busyRows db roomId.value query now).insertionSort byStart ↔
      db.bookings.get? row.1 = some row.2 ∧ row.2.roomId = roomId.value ∧ row.2.live now = true ∧
        row.2.startsAt < query.target ∧ query.source < row.2.slotEnd := by
    intro row
    rw [List.mem_insertionSort, busyRows, Table.mem_select]
    simp only [Bool.and_eq_true, decide_eq_true_eq, and_assoc]
  simp only [clashes, busy, List.any_map, List.any_eq_false, Function.comp_apply,
    decide_eq_true_eq, Prod.forall, rows]
  grind

/-- **The free slots** are the starts that are offered. -/
theorem mem_freeSlots {turnaround : Int} {query : AvailabilityQuery} {now : Instant} {db' : Db}
    {r : RoomAvailability} (offer : RoomOffer env db roomId) (standard : turnaround = 15)
    (returned : forRoom env turnaround roomId query now db = .ok (r, db')) {slot : FreeSlot} :
    slot ∈ r.freeSlots ↔ ∃ t, slot = ⟨t, addMinutes t (offer.duration query)⟩ ∧
      offer.Offers query now t := by
  obtain ⟨-, -, slots⟩ := forRoom_ok offer returned
  subst standard
  rw [slots, mem_enumerate]
  constructor
  · rintro ⟨t, rfl, w, window, reached, listed⟩
    exact ⟨t, rfl, listed.ahead, listed.inRange, ⟨w, window, reached, listed.inWindow⟩,
      (offer.clashes_iff query now).mp listed.clear⟩
  · rintro ⟨t, rfl, offered⟩
    obtain ⟨w, window, reached, inWindow⟩ := offered.window
    exact ⟨t, rfl, w, window, reached, inWindow, offered.inRange,
      (offer.clashes_iff query now).mpr offered.clear, offered.ahead⟩

/-! ## What the hold path lets through -/

/-- The venue's rules, on a room that can be offered. -/
theorem openHold_iff (offer : RoomOffer env db roomId) {input : HoldInput} {now : Instant}
    (own : input.roomId = roomId) :
    (∃ ctx, openHold env input now db = .ok (ctx, db)) ↔
      Opens input now db offer.room offer.venue offer.hours ∧
        isWithinOperatingHours offer.hours offer.zone input.startsAt input.endsAt = true := by
  subst own
  have opening := openHold_opening env input now db
  generalize openHold env input now db = result at opening
  cases opening with
  | refused e _ closed =>
      refine iff_of_false (by rintro ⟨ctx, returned⟩; cases returned) fun ⟨opens, within⟩ => ?_
      obtain ⟨zone, known, outside⟩ := closed _ _ _ opens
      cases offer.zoneKnown.symm.trans known
      rw [within] at outside
      cases outside
  | unzoned room venue hours message opens unknown =>
      refine iff_of_false (by rintro ⟨ctx, returned⟩; cases returned) fun ⟨opens', _⟩ => ?_
      obtain ⟨-, rfl, -⟩ := opens'.unique opens
      rw [offer.zoneKnown] at unknown
      cases unknown
  | opened room venue hours zone opens known within =>
      refine iff_of_true ⟨_, rfl⟩ ?_
      cases offer.roomFound.symm.trans opens.inRoom
      cases offer.venueFound.symm.trans opens.atVenue
      cases offer.hoursParsed.symm.trans opens.open_
      cases offer.zoneKnown.symm.trans known
      exact ⟨opens, within⟩

/-- The schema, on the body of an offered slot. -/
theorem body_accepted_iff {slot : FreeSlot} (onGrid : slot.startsAt % gridMs = 0) {duration : Int}
    (lasts : slot.endsAt = addMinutes slot.startsAt duration) :
    (slot.body roomId).accepted = true ↔
      isRfcUuid roomId.text = true ∧ duration % 30 = 0 ∧ 60 ≤ duration ∧ duration ≤ 480 := by
  have minutes : ∀ {s e d : Int}, s % 1800000 = 0 → e = s + d * 60000 →
      ((s % 1800000 = 0 ∧ e % 1800000 = 0 ∧ s + 3600000 ≤ e ∧ e ≤ s + 28800000) ↔
        (d % 30 = 0 ∧ 60 ≤ d ∧ d ≤ 480)) := by
    omega
  have times := minutes onGrid lasts
  simp only [HoldBody.accepted, FreeSlot.body, decide_eq_true_eq, List.length_nil, List.not_mem_nil,
    false_implies, implies_true, List.map_nil, List.nodup_nil, and_true, Nat.zero_le]
  constructor
  · rintro ⟨starts, ends, least, most, spelled⟩
    exact ⟨spelled, times.mp ⟨starts, ends, least, most⟩⟩
  · rintro ⟨spelled, rest⟩
    obtain ⟨starts, ends, least, most⟩ := times.mpr rest
    exact ⟨starts, ends, least, most, spelled⟩

/-- The rows the exclusion constraint sets against a hold of the room. -/
theorem roomConflicts_cleared {row : Booking} (own : row.roomId = roomId.value) (now : Instant) :
    roomConflicts (clearedView db roomId.value now) row = [] ↔
      ∀ id b, db.bookings.get? id = some b → b.roomId = roomId.value → b.active = true →
        stale b now = false → ¬ (b.startsAt < row.slotEnd ∧ row.startsAt < b.slotEnd) := by
  have rows : ∀ id, (clearedView db roomId.value now).bookings.get? id =
      (db.bookings.get? id).map fun b =>
        if id ∈ staleHoldsOfRoom db roomId.value now then
          { b with status := .expired, updatedAt := now } else b := by
    intro id
    rw [clearedView, Db.expire_bookings, Table.get?_update]
  rw [List.eq_nil_iff_forall_not_mem]
  simp only [roomConflicts, Table.mem_select, Prod.forall, rows, Bool.and_eq_true, not_and,
    Booking.overlaps, decide_eq_true_eq, own]
  constructor
  · intro free id b here inRoom active fresh starts ends
    have kept : id ∉ staleHoldsOfRoom db roomId.value now := by
      intro gone
      obtain ⟨b', here', -, held, lapsed⟩ := mem_staleHoldsOfRoom.mp gone
      cases here.symm.trans here'
      simp [stale, held, lapsed] at fresh
    refine free id b ?_ active inRoom starts ends
    rw [here, Option.map_some, if_neg kept]
  · intro free id c stored active inRoom starts
    obtain ⟨b, here, rfl⟩ := Option.map_eq_some_iff.mp stored
    by_cases gone : id ∈ staleHoldsOfRoom db roomId.value now
    · rw [if_pos gone] at active
      cases active
    · rw [if_neg gone] at active inRoom starts ⊢
      have fresh : stale b now = false := by
        rw [Bool.eq_false_iff]
        intro old
        simp only [stale, Bool.and_eq_true, decide_eq_true_eq] at old
        exact gone (mem_staleHoldsOfRoom.mpr ⟨b, here, inRoom, old⟩)
      exact free id b here inRoom active fresh starts

/-- A counted row that is not live is a hold whose deadline is now. -/
theorem live_or_due {b : Booking} {now : Instant} (active : b.active = true)
    (fresh : stale b now = false) :
    b.live now = true ∨ (b.status = .held ∧ b.expiresAt = some now) := by
  by_cases held : b.status = .held
  · simp only [stale, held, decide_true, Bool.true_and, Booking.lapsedBefore] at fresh
    simp only [Booking.live, active, held, decide_true, Bool.true_and, Booking.lapsedAt]
    cases due : b.expiresAt with
    | none => exact .inl rfl
    | some e =>
        simp only [due, decide_eq_false_iff_not, not_lt] at fresh
        rcases eq_or_lt_of_le fresh with rfl | later
        · exact .inr ⟨trivial, rfl⟩
        · exact .inl (by simp [later])
  · simp [Booking.live, active, held]

theorem fresh_of_live {b : Booking} {now : Instant} (live : b.live now = true) :
    b.active = true ∧ stale b now = false := by
  simp only [Booking.live, Bool.and_eq_true, Bool.not_eq_true'] at live
  refine ⟨live.1, Bool.eq_false_iff.mpr fun old => ?_⟩
  simp only [stale, Bool.and_eq_true, decide_eq_true_eq, Booking.lapsedBefore] at old
  have due := live.2
  simp only [old.1, decide_true, Bool.true_and, Booking.lapsedAt] at due
  cases deadline : b.expiresAt with
  | none => simp [deadline] at old
  | some e =>
      simp only [deadline, decide_eq_true_eq, decide_eq_false_iff_not, not_le] at old due
      exact lt_asymm old.2 due

/-- The rows the constraint counts and the rows availability has looked at differ by the
unseen ones. -/
theorem clear_iff (offer : RoomOffer env db roomId) {query : AvailabilityQuery} {now t : Instant}
    (offered : offer.Offers query now t) :
    (∀ id b, db.bookings.get? id = some b → b.roomId = roomId.value → b.active = true →
      stale b now = false →
        ¬ (b.startsAt < addMinutes (addMinutes t (offer.duration query)) 15 ∧ t < b.slotEnd)) ↔
      ∀ id b, db.bookings.get? id = some b → b.roomId = roomId.value → unseen query now b →
        ¬ (b.startsAt < addMinutes (addMinutes t (offer.duration query)) 15 ∧ t < b.slotEnd) := by
  constructor
  · intro counted id b here inRoom left
    exact counted id b here inRoom left.1 left.2.1
  · rintro rest id b here inRoom active fresh ⟨starts, ends⟩
    rcases live_or_due active fresh with live | due
    · by_cases before : b.startsAt < query.target
      · obtain ⟨w, -, reached, -⟩ := offered.window
        have after : query.source ≤ t := le_trans (le_max_right _ _) reached.within
        exact offered.clear id b here inRoom live before (lt_of_le_of_lt after ends) ⟨starts, ends⟩
      · exact rest id b here inRoom ⟨active, fresh, .inl (not_lt.mp before)⟩ ⟨starts, ends⟩
    · exact rest id b here inRoom ⟨active, fresh, .inr due⟩ ⟨starts, ends⟩

/-- **A free slot can be held exactly where the hold path's own rules are met too.** -/
theorem holdable_iff (offer : RoomOffer env db roomId) {query : AvailabilityQuery}
    {principal : AuthPrincipal} {now t : Instant}
    (fits : offer.duration query ≤ offer.room.maxDurationMinutes)
    (offered : offer.Offers query now t) :
    Holdable env db roomId principal now ⟨t, addMinutes t (offer.duration query)⟩ ↔
      offer.Keeps query now t := by
  obtain ⟨w, -, reached, -⟩ := offered.window
  have lasts : (addMinutes t (offer.duration query) - t) / 60000 = offer.duration query := by
    have exact_ : ∀ {s d : Int}, (s + d * 60000 - s) / 60000 = d := by omega
    exact exact_
  have lead : ¬ t - now < minLeadMinutes * 60000 := by
    have ahead := offered.ahead
    simp only [addMinutes] at ahead
    rw [not_lt]
    linarith
  have schema : ((⟨t, addMinutes t (offer.duration query)⟩ : FreeSlot).body roomId).accepted = true ↔ _ :=
    body_accepted_iff reached.onGrid rfl
  constructor
  · rintro ⟨accepted, ctx, opened, free⟩
    obtain ⟨spelled, grid, least, most⟩ := schema.mp accepted
    obtain ⟨opens, hours⟩ := (offer.openHold_iff rfl).mp ⟨ctx, opened⟩
    have duration : ¬ ((addMinutes t (offer.duration query) - t) / 60000 <
          offer.room.minDurationMinutes ∨ offer.room.maxDurationMinutes <
          (addMinutes t (offer.duration query) - t) / 60000) :=
      opens.duration
    rw [lasts] at duration
    exact
      { spelled := spelled
        grid := grid
        least := ⟨least, not_lt.mp fun short => duration (.inl short)⟩
        most := most
        near := not_lt.mp opens.late
        hours := hours
        clear := (offer.clear_iff offered).mp ((roomConflicts_cleared rfl now).mp free) }
  · intro keeps
    have accepted := schema.mpr ⟨keeps.spelled, keeps.grid, keeps.least.1, keeps.most⟩
    have opens : Opens ⟨_, accepted⟩ now db offer.room offer.venue offer.hours :=
      { inRoom := offer.roomFound
        atVenue := offer.venueFound
        open_ := offer.hoursParsed
        early := lead
        late := not_lt.mpr keeps.near
        duration := by
          have span : ¬ (offer.duration query < offer.room.minDurationMinutes ∨
              offer.room.maxDurationMinutes < offer.duration query) :=
            not_or.mpr ⟨not_lt.mpr keeps.least.2, not_lt.mpr fits⟩
          rwa [← lasts] at span }
    obtain ⟨ctx, opened⟩ := (offer.openHold_iff rfl).mpr ⟨opens, keeps.hours⟩
    exact ⟨accepted, ctx, opened,
      (roomConflicts_cleared rfl now).mpr ((offer.clear_iff offered).mpr keeps.clear)⟩

end RoomOffer

/-- An answer was read off a room that can be offered. -/
theorem forRoom_offer {env : Env} {turnaround : Int} {db db' : Db} {roomId : UuidText}
    {query : AvailabilityQuery} {now : Instant} {r : RoomAvailability}
    (returned : forRoom env turnaround roomId query now db = .ok (r, db')) :
    Nonempty (RoomOffer env db roomId) := by
  simp only [forRoom, busyIntervals, Tx.bind_ok, Tx.fetch_ok, Tx.read_ok, Tx.ite_ok, Tx.abort_ok,
    Tx.pure_ok] at returned
  obtain ⟨room, _, ⟨inRoom, rfl⟩, venue, _, ⟨atVenue, rfl⟩, hours, _, ⟨parsed, rfl⟩, rest⟩ := returned
  rcases rest with ⟨-, _, _, none_, -⟩ | ⟨-, _, _, ⟨-, rfl⟩, zone, _, ⟨known, -⟩, -⟩
  · cases none_
  · exact ⟨⟨room, venue, hours, zone, inRoom, atVenue, parsed, known⟩⟩

/-- **Availability is sound exactly where each start it lets through meets what only the
hold path asks.** -/
theorem free_slots_sound_iff {env : Env} {db db' : Db} {roomId : UuidText}
    (query : AvailabilityQuery) (principal : AuthPrincipal) (now : Instant) {r : RoomAvailability}
    (returned : forRoom env 15 roomId query now db = .ok (r, db')) :
    (∀ slot ∈ r.freeSlots, Holdable env db roomId principal now slot) ↔
      ∀ (offer : RoomOffer env db roomId) (t : Instant),
        offer.Offers query now t → offer.Keeps query now t := by
  constructor
  · intro sound offer t offered
    obtain ⟨-, fits, -⟩ := forRoom_ok offer returned
    refine (offer.holdable_iff fits offered).mp (sound _ ?_)
    exact (offer.mem_freeSlots rfl returned).mpr ⟨t, rfl, offered⟩
  · intro kept slot listed
    obtain ⟨offer⟩ := forRoom_offer returned
    obtain ⟨-, fits, -⟩ := forRoom_ok offer returned
    obtain ⟨t, rfl, offered⟩ := (offer.mem_freeSlots rfl returned).mp listed
    exact (offer.holdable_iff fits offered).mpr (kept offer t offered)

namespace Sample

/-- Two hours of one morning. -/
def morning : AvailabilityQuery :=
  ⟨36000000, 43200000, some 60, by decide, by decide, by rintro d ⟨⟩; decide⟩

/-- The hall, sold for the hour after the range. -/
def soldAfter : Db :=
  { db with bookings := ⟨[(8,
      { venueId := 1, roomId := room, userId := 5, startsAt := 43200000, endsAt := 46800000
        status := .confirmed, expiresAt := none, rearmCount := 0, policySnapshot := none
        totalMinor := 10000, currency := "PKR", createdAt := 0, updatedAt := 0 })], by decide⟩ }

end Sample

/-- An empty morning: three starts, and each can be held. -/
theorem free_slots_sound_morning :
    ∃ r, forRoom .default 15 (Uuid.path Sample.room) Sample.morning 0 Sample.db = .ok (r, Sample.db) ∧
      r.freeSlots.length = 3 ∧
      ∀ slot ∈ r.freeSlots, Holdable .default Sample.db (Uuid.path Sample.room) Sample.customer 0 slot := by
  obtain ⟨r, returned, slots⟩ : ∃ r,
      forRoom .default 15 (Uuid.path Sample.room) Sample.morning 0 Sample.db = .ok (r, Sample.db) ∧
        r.freeSlots = [36000000, 37800000, 39600000].map fun t => ⟨t, t + 3600000⟩ :=
    ⟨_, rfl, by decide +kernel⟩
  refine ⟨r, returned, by rw [slots]; rfl, ?_⟩
  refine (free_slots_sound_iff Sample.morning Sample.customer 0 returned).mpr fun offer t offered => ?_
  have among : t ∈ [36000000, 37800000, 39600000] := by
    have listed := (offer.mem_freeSlots rfl returned).mpr ⟨t, rfl, offered⟩
    rw [slots] at listed
    obtain ⟨t', here, same⟩ := List.mem_map.mp listed
    cases same
    exact here
  obtain ⟨room, venue, hours, zone, roomFound, venueFound, hoursParsed, zoneKnown⟩ := offer
  cases roomFound
  cases venueFound
  cases hoursParsed
  cases zoneKnown
  clear offered
  have near : ∀ t ∈ [36000000, 37800000, 39600000],
      t - 0 ≤ maxLeadDays * 24 * 60 * 60000 := by decide
  have open_ : ∀ t ∈ [36000000, 37800000, 39600000],
      (parseOperatingHours Sample.openAlways).any fun hours =>
        isWithinOperatingHours hours utcZone t (addMinutes t 60) := by decide +kernel
  exact
    { spelled := by decide +kernel
      grid := by decide
      least := by decide
      most := by decide
      near := near t among
      hours := open_ t among
      clear := fun _ _ here => by cases here }

/-- The room is sold from the end of the range: the last start is listed, and its
turnaround runs into the booking. -/
theorem free_slot_refused :
    ¬ ∀ (env : Env) (db db' : Db) (roomId : UuidText) (query : AvailabilityQuery)
      (principal : AuthPrincipal) (now : Instant) (r : RoomAvailability),
      forRoom env 15 roomId query now db = .ok (r, db') →
        ∀ slot ∈ r.freeSlots, Holdable env db roomId principal now slot := by
  intro claim
  obtain ⟨r, returned, listed⟩ : ∃ r,
      forRoom .default 15 (Uuid.path Sample.room) Sample.morning 0 Sample.soldAfter = .ok (r, Sample.soldAfter) ∧
        (⟨39600000, 43200000⟩ : FreeSlot) ∈ r.freeSlots :=
    ⟨_, rfl, by decide +kernel⟩
  obtain ⟨_, _, -, free⟩ := claim .default Sample.soldAfter Sample.soldAfter (Uuid.path Sample.room)
    Sample.morning Sample.customer 0 r returned _ listed
  refine (RoomOffer.roomConflicts_cleared rfl 0).mp free 8 _ rfl rfl rfl rfl ⟨?_, ?_⟩
  · show (43200000 : Int) < 43200000 + 15 * 60 * 1000
    decide
  · show (39600000 : Int) < 46800000 + 15 * 60 * 1000
    decide

end Atrium
