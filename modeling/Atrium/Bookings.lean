/-
# Bookings -- hold, checkout and cancel

`holdOnce` and `checkout` read before they lock, so each is written as the
statements up to such a read and the rest of the transaction as a function of
what was read.  The whole is their composition; an interleaving of several
requests runs the parts (`Atrium.Api`).
-/
import Atrium.EquipmentAvailability
import Atrium.OperatingHours

namespace Atrium

open Atrium.Base

set_option autoImplicit false

structure Env where
  holdTtlSeconds : Int
  checkoutRearmSeconds : Int
  maxHoldRearms : Int
  maxHoldLifetimeSeconds : Int
  chargePollAfterSeconds : Int
  refundPollAfterSeconds : Int
  paygateSecret : Option String
  /-- The time zones the runtime knows, and their wall clocks. -/
  timeZone : String → Option Zone

/-- The values the environment schema defaults to, with a secret configured, on a
runtime that knows UTC alone. -/
def Env.default : Env where
  holdTtlSeconds := 480
  checkoutRearmSeconds := 600
  maxHoldRearms := 2
  maxHoldLifetimeSeconds := 1800
  chargePollAfterSeconds := 100
  refundPollAfterSeconds := 45
  paygateSecret := some "secret"
  timeZone := fun name => if name = "UTC" then some utcZone else none

/-! ## The hold request -/

structure LineItem where
  equipmentTypeId : String
  quantity : Int
  deriving DecidableEq

structure HoldBody where
  roomId : UuidText
  startsAt : Instant
  endsAt : Instant
  lineItems : List LineItem

def thirtyMinutesMs : Int := 30 * 60 * 1000

/-- `HoldSchema`: uuids, the half-hour grid, one to eight hours, and at most fifty line
items of distinct ids. -/
def HoldBody.accepted (body : HoldBody) : Bool :=
  decide (body.startsAt % thirtyMinutesMs = 0 ∧ body.endsAt % thirtyMinutesMs = 0 ∧
    body.startsAt + 60 * 60000 ≤ body.endsAt ∧ body.endsAt ≤ body.startsAt + 480 * 60000 ∧
    isRfcUuid body.roomId.text ∧ body.lineItems.length ≤ 50 ∧
    (∀ item ∈ body.lineItems, isRfcUuid item.equipmentTypeId ∧
      0 < item.quantity ∧ item.quantity ≤ 1000) ∧
    (body.lineItems.map LineItem.equipmentTypeId).Nodup)

/-- A request body the schema let through. -/
structure HoldInput extends HoldBody where
  accepted : toHoldBody.accepted = true

namespace HoldInput

theorem ordered (input : HoldInput) : input.startsAt < input.endsAt := by
  have holds := input.accepted
  simp only [HoldBody.accepted, decide_eq_true_eq] at holds
  obtain ⟨-, -, least, -⟩ := holds
  linarith

/-- The keys of the `Map` of requested quantities. -/
def ids (input : HoldInput) : List String := input.lineItems.map LineItem.equipmentTypeId

/-- `requested.get(key)`. -/
def requested (input : HoldInput) (key : String) : Option Int :=
  (input.lineItems.find? fun item => item.equipmentTypeId = key).map LineItem.quantity

end HoldInput

structure RoomContext where
  venueId : Uuid
  hourlyRateMinor : Minor
  minDurationMinutes : Int
  maxDurationMinutes : Int
  timezone : String
  overbookingBufferPct : Nat
  hours : OperatingHours
  currency : String

/-- The room and its venue, read before the transaction opens. -/
def loadRoomContext (roomId : UuidText) : Transaction RoomContext := do
  let room ← Tx.fetch (·.rooms.get? roomId.value) (.notFound "No such room")
  let venue ← Tx.fetch (·.venues.get? room.venueId) (.notFound "No such room")
  let hours ← Tx.fetch (fun _ => parseOperatingHours venue.operatingHours)
    (.unbookable "This venue has no usable operating hours configured" (.venue room.venueId))
  pure
    { venueId := room.venueId
      hourlyRateMinor := room.hourlyRateMinor
      minDurationMinutes := room.minDurationMinutes
      maxDurationMinutes := room.maxDurationMinutes
      timezone := venue.timezone
      overbookingBufferPct := venue.overbookingBufferPct
      hours := hours
      currency := "PKR" }

def minLeadMinutes : Int := 60

def maxLeadDays : Int := 90

/-- The rules that need the venue.  A time zone the runtime does not know throws. -/
def assertBookable (env : Env) (input : HoldInput) (ctx : RoomContext) (now : Instant) :
    Transaction Unit :=
  if input.startsAt - now < minLeadMinutes * 60000 then
    Tx.abort (.unbookable ("Bookings must start at least " ++ toString minLeadMinutes ++
      " minutes ahead") (.start input.startsAt))
  else if maxLeadDays * 24 * 60 * 60000 < input.startsAt - now then
    Tx.abort (.unbookable ("Bookings may not start more than " ++ toString maxLeadDays ++
      " days ahead") (.start input.startsAt))
  else
    let durationMinutes := (input.endsAt - input.startsAt) / 60000
    if durationMinutes < ctx.minDurationMinutes ∨ ctx.maxDurationMinutes < durationMinutes then
      Tx.abort (.unbookable ("This room takes bookings between " ++
        toString ctx.minDurationMinutes ++ " and " ++ toString ctx.maxDurationMinutes ++
        " minutes") (.duration durationMinutes))
    else
      match env.timeZone ctx.timezone with
      | none => Tx.abort (.internal ("Invalid time zone specified: " ++ ctx.timezone))
      | some zone =>
          if isWithinOperatingHours ctx.hours zone input.startsAt input.endsAt then pure ()
          else Tx.abort (.unbookable "Requested period is outside this venue’s operating hours"
            (.hours ctx.timezone input.startsAt input.endsAt))

/-- What a hold decides before its transaction opens. -/
def openHold (env : Env) (input : HoldInput) (now : Instant) : Transaction RoomContext := do
  let ctx ← loadRoomContext input.roomId
  assertBookable env input ctx now
  pure ctx

/-! ## Equipment admission -/

structure PricedItem where
  equipmentTypeId : Uuid
  quantity : Int
  rateMinor : Minor
  lineTotalMinor : Minor

/-- `BigInt(Math.round(hours * 2))`: the period in half hours. -/
def halfHours (startsAt endsAt : Instant) : Int := ((endsAt - startsAt) * 2 + 1800000) / 3600000

/-- Lock the requested types; every one must exist and belong to the room's venue. -/
def lockRequested (input : HoldInput) (ctx : RoomContext) :
    Transaction (List (Uuid × EquipmentType)) := do
  let locked ← lockEquipmentTypes input.ids
  if locked.length = input.ids.length then
    let foreign := locked.filter fun row => decide (row.2.venueId ≠ ctx.venueId)
    if foreign = [] then pure locked
    else Tx.abort (.unprocessable "Equipment must belong to the same venue as the room"
      (foreign.map (·.1.text)))
  else
    Tx.abort (.unprocessable "Unknown equipment type"
      (input.ids.filter fun id => id ∉ locked.map (·.1.text)))

/-- The row's excess over its ceiling, if the request would exceed it. -/
def shortfall (input : HoldInput) (ctx : RoomContext) (peaks : String → Option Int)
    (row : Uuid × EquipmentType) : Option Shortfall :=
  let want := (input.requested row.1.text).getD 0
  let peak := (peaks row.1.text).getD 0
  let ceiling := admissionCeiling row.2.unitsOwned ctx.overbookingBufferPct
  if ceiling < peak + want then
    some ⟨row.1, row.2.name, want, peak, ceiling, peak + want - ceiling⟩
  else none

def Shortfall.message (s : Shortfall) : String :=
  s.name ++ ": requested " ++ toString s.requested ++ ", " ++ toString s.peakInUse ++
    " already reserved at peak against a ceiling of " ++ toString s.ceiling ++
    " — short by " ++ toString s.shortBy

def pricedItem (input : HoldInput) (row : Uuid × EquipmentType) : PricedItem :=
  let quantity := (input.requested row.1.text).getD 0
  { equipmentTypeId := row.1
    quantity := quantity
    rateMinor := row.2.hourlyRateMinor
    lineTotalMinor :=
      (halfHours input.startsAt input.endsAt * row.2.hourlyRateMinor * quantity).tdiv 2 }

/-- Admit or refuse the locked types against their peak concurrent usage. -/
def admitLocked (input : HoldInput) (ctx : RoomContext) (now : Instant)
    (locked : List (Uuid × EquipmentType)) : Transaction (List PricedItem) := do
  let peaks ← peakConcurrentUsage input.ids input.startsAt input.endsAt now
  let shortfalls := locked.filterMap (shortfall input ctx peaks)
  if shortfalls = [] then pure (locked.map (pricedItem input))
  else Tx.abort (.conflict (String.intercalate "; " (shortfalls.map Shortfall.message))
    (.shortfalls shortfalls))

def admitEquipment (input : HoldInput) (ctx : RoomContext) (now : Instant) :
    Transaction (List PricedItem) := do
  if input.lineItems = [] then pure []
  else
    let locked ← lockRequested input ctx
    admitLocked input ctx now locked

/-! ## The hold -/

/-- The generated key and the two instants a hold reads: the transaction's own,
and `Date.now()` where the deadline is set. -/
structure HoldStamp where
  id : Uuid
  startedAt : Instant
  now : Instant

def heldValues (env : Env) (input : HoldInput) (ctx : RoomContext) (userId : Uuid)
    (now : Instant) (priced : List PricedItem) : NewBooking where
  venueId := ctx.venueId
  roomId := input.roomId.value
  userId := userId
  startsAt := input.startsAt
  endsAt := input.endsAt
  expiresAt := now + env.holdTtlSeconds * 1000
  totalMinor :=
    (ctx.hourlyRateMinor * halfHours input.startsAt input.endsAt).tdiv 2 +
      (priced.map PricedItem.lineTotalMinor).sum
  currency := ctx.currency

/-- `INSERT INTO booking_line_items`, with its check on the quantity. -/
def insertLineItems (bookingId : Uuid) (priced : List PricedItem) : Transaction Unit := do
  if priced.all fun item => 0 < item.quantity then
    Tx.write fun db =>
      { db with bookingLineItems := db.bookingLineItems ++ priced.map fun item =>
          ⟨bookingId, item.equipmentTypeId, item.quantity, item.rateMinor⟩ }
  else Tx.abort (.database "23514")

/-- SQLSTATE 23P01 becomes the 409 of a taken slot. -/
def slotTaken (input : HoldInput) : ApiError → ApiError
  | .database "23P01" => .conflict
      "That room is already booked for an overlapping period, including the 15-minute turnaround."
      (.slot input.roomId.text input.startsAt input.endsAt "no_room_overlap")
  | e => e

/-- The room decision: one insert, no conflict query before it. -/
def insertHold (env : Env) (input : HoldInput) (ctx : RoomContext) (principal : AuthPrincipal)
    (stamp : HoldStamp) (priced : List PricedItem) : Transaction Booking := do
  let booking ← Tx.rethrow (slotTaken input)
    (createHeld stamp.id stamp.startedAt
      (heldValues env input ctx principal.userId stamp.now priced)
      ⟨.user, some principal.userId⟩ "hold.created")
  insertLineItems stamp.id priced
  pure booking

/-- What a hold commits: the expiries of its first statement, then the insert. -/
def finishHold (env : Env) (input : HoldInput) (ctx : RoomContext) (principal : AuthPrincipal)
    (stamp : HoldStamp) (expired : List Uuid) (priced : List PricedItem) : Transaction Booking := do
  Tx.write (·.expire expired stamp.startedAt systemActor "hold.expired.in_transaction")
  insertHold env input ctx principal stamp priced

/-- One attempt at the hold transaction. -/
def holdOnce (env : Env) (input : HoldInput) (ctx : RoomContext) (principal : AuthPrincipal)
    (stamp : HoldStamp) : Transaction Booking := do
  let _ ← expireStaleHoldsForRoom input.roomId.value stamp.startedAt
  let priced ← admitEquipment input ctx stamp.startedAt
  insertHold env input ctx principal stamp priced

/-- Create a hold: the venue's rules, read at `now`, then the transaction. -/
def hold (env : Env) (input : HoldInput) (principal : AuthPrincipal) (now : Instant)
    (stamp : HoldStamp) : Transaction Booking := do
  let ctx ← openHold env input now
  holdOnce env input ctx principal stamp

/-! ## Checkout re-arm -/

/-- The tenant filter of the booking routes. -/
def bookingScope (principal : AuthPrincipal) (b : Booking) : Except ApiError Bool :=
  match principal.role with
  | .platformAdmin => .ok true
  | .venueAdmin | .venueStaff =>
      match principal.venueId with
      | some venueId => .ok (decide (b.venueId = venueId))
      | none => .error (.forbidden "Token has no venue scope")
  | .customer => .ok (decide (b.userId = principal.userId))

/-- A booking the principal is allowed to act on. -/
def loadOwnedBooking (bookingId : UuidText) (principal : AuthPrincipal) : Transaction Booking :=
  fun db =>
    match db.bookings.get? bookingId.value with
    | some b =>
        match bookingScope principal b with
        | .ok true => .ok (b, db)
        | .ok false => .error (.notFound "Not Found")
        | .error e => .error e
    | none =>
        match principal.role, principal.venueId with
        | .venueAdmin, none | .venueStaff, none =>
            .error (.forbidden "Token has no venue scope")
        | _, _ => .error (.notFound "Not Found")

/-- What checkout does once it has the row, which it has not locked. -/
def checkoutLoaded (env : Env) (bookingId : UuidText) (principal : AuthPrincipal)
    (booking : Booking) (now : Instant) : Transaction Booking := do
  if ¬ booking.active ∨ booking.status = .confirmed then
    Tx.abort (.conflict ("Cannot check out a booking in state " ++ booking.status.label)
      (.state bookingId.text booking.status))
  else if booking.lapsedAt now then
    -- The transition is rolled back with the transaction the throw ends.
    let _ ← transition now
      { bookingId := bookingId, target := .expired, actor := systemActor
        reason := "hold.expired.on_checkout"
        expectedFrom := some [.held, .pendingPayment], patch := .empty }
    Tx.abort (.conflict "This hold has expired. Create a new one."
      (.state bookingId.text .expired))
  else if env.maxHoldRearms ≤ booking.rearmCount then
    Tx.abort (.conflict
      ("Checkout may be re-entered at most " ++ toString env.maxHoldRearms ++ " times")
      (.rearm bookingId.text booking.rearmCount))
  else
    let lifetimeCap := booking.createdAt + env.maxHoldLifetimeSeconds * 1000
    let requested := now + env.checkoutRearmSeconds * 1000
    if lifetimeCap ≤ now then
      Tx.abort (.conflict
        ("A hold may not live beyond " ++ toString (env.maxHoldLifetimeSeconds / 60) ++ " minutes")
        (.lifetime bookingId.text))
    else
      recordSideEffect now
        { bookingId := bookingId, actor := ⟨.user, some principal.userId⟩
          reason := "hold.rearmed", expectedFrom := some [.held, .pendingPayment]
          patch := { BookingPatch.empty with
            expiresAt := some (some (min requested lifetimeCap))
            rearmCount := some (booking.rearmCount + 1) } }

/-- Re-arm the hold to `now + CHECKOUT_REARM_SECONDS`, within its bounds. -/
def checkout (env : Env) (bookingId : UuidText) (principal : AuthPrincipal) (now : Instant) :
    Transaction Booking := do
  let booking ← loadOwnedBooking bookingId principal
  checkoutLoaded env bookingId principal booking now

/-! ## Cancel -/

/-- Cancel a booking: the state only. -/
def cancel (bookingId : UuidText) (reason : String) (principal : AuthPrincipal) (now : Instant) :
    Transaction Booking := do
  let _ ← loadOwnedBooking bookingId principal
  transition now
    { bookingId := bookingId.value.path, target := .cancelled
      actor := ⟨.user, some principal.userId⟩, reason := reason
      expectedFrom := none, patch := .empty }

/-! ## The sweeper -/

/-- `HoldSweeper`'s `BATCH_SIZE`. -/
def sweeperBatchSize : Nat := 500

/-- One sweep, by the replica that won the advisory lock. -/
def sweeperTick (now : Instant) (locked : List Uuid) : Transaction (List Uuid) :=
  expireStaleHolds sweeperBatchSize now locked

/-! ## What a returned call has done -/

theorem insertLineItems_ok {bookingId : Uuid} {priced : List PricedItem} {db db' : Db} {u : Unit} :
    insertLineItems bookingId priced db = .ok (u, db') ↔
      (∀ item ∈ priced, 0 < item.quantity) ∧
        db' = { db with bookingLineItems := db.bookingLineItems ++ priced.map fun item =>
          ⟨bookingId, item.equipmentTypeId, item.quantity, item.rateMinor⟩ } := by
  simp only [insertLineItems, Tx.ite_ok, Tx.write_ok, Tx.abort_ok, List.all_eq_true,
    decide_eq_true_eq]
  grind

theorem insertHold_ok {env : Env} {input : HoldInput} {ctx : RoomContext}
    {principal : AuthPrincipal} {stamp : HoldStamp} {priced : List PricedItem} {db db' : Db}
    {b : Booking} (returned : insertHold env input ctx principal stamp priced db = .ok (b, db')) :
    let row := (heldValues env input ctx principal.userId stamp.now priced).row stamp.startedAt
    b = row ∧ roomConflicts db row = [] ∧ (∀ item ∈ priced, 0 < item.quantity) ∧
      ∃ bookings, db.bookings.insert? stamp.id row = some bookings ∧
        db' = { db with
          bookings := bookings
          auditEvents := db.auditEvents ++
            [⟨stamp.id, ⟨.user, some principal.userId⟩, .draft, .held, "hold.created"⟩]
          bookingLineItems := db.bookingLineItems ++ priced.map fun item =>
            ⟨stamp.id, item.equipmentTypeId, item.quantity, item.rateMinor⟩ } := by
  simp only [insertHold, Tx.bind_ok, Tx.rethrow_ok, Tx.pure_ok] at returned
  obtain ⟨b', t, created, _, t', items, rfl, rfl⟩ := returned
  obtain ⟨rfl, -, conflicts, bookings, fresh, rfl⟩ := createHeld_ok created
  obtain ⟨positive, rfl⟩ := insertLineItems_ok.mp items
  exact ⟨rfl, conflicts, positive, bookings, fresh, rfl⟩

theorem lockRequested_ok {input : HoldInput} {ctx : RoomContext}
    {locked : List (Uuid × EquipmentType)} {db db' : Db}
    (returned : lockRequested input ctx db = .ok (locked, db')) :
    db' = db ∧ (locked.map Prod.fst).Nodup ∧ ∀ id row, (id, row) ∈ locked →
      db.equipmentTypes.get? id = some row ∧ id ∈ input.ids.filterMap uuidOf ∧
        row.venueId = ctx.venueId := by
  simp only [lockRequested, Tx.bind_ok, Tx.ite_ok, Tx.pure_ok, Tx.abort_ok, and_false,
    or_false] at returned
  obtain ⟨locked', t, read, -, own, rfl, rfl⟩ := returned
  obtain ⟨rfl, nodup, rows⟩ := lockEquipmentTypes_ok read
  refine ⟨rfl, nodup, fun id row here => ⟨(rows id row here).1, (rows id row here).2, ?_⟩⟩
  have := List.filter_eq_nil_iff.mp own (id, row) here
  simpa using this

/-- The admission decision, read off an admitted hold: each line item fits over the
peak of its type. -/
theorem admitLocked_ok {input : HoldInput} {ctx : RoomContext} {now : Instant}
    {locked : List (Uuid × EquipmentType)} {priced : List PricedItem} {db db' : Db}
    (returned : admitLocked input ctx now locked db = .ok (priced, db')) :
    db' = db ∧ priced = locked.map (pricedItem input) ∧
      ∃ peaks, peakConcurrentUsage input.ids input.startsAt input.endsAt now db = .ok (peaks, db) ∧
        ∀ row ∈ locked, (peaks row.1.text).getD 0 + (pricedItem input row).quantity ≤
          admissionCeiling row.2.unitsOwned ctx.overbookingBufferPct := by
  simp only [admitLocked, Tx.bind_ok, Tx.ite_ok, Tx.pure_ok, Tx.abort_ok, and_false,
    or_false] at returned
  obtain ⟨peaks, t, read, fit, rfl, rfl⟩ := returned
  obtain rfl := peakConcurrentUsage_keeps read
  refine ⟨rfl, rfl, peaks, read, fun row here => ?_⟩
  have none_short := List.filterMap_eq_nil_iff.mp fit row here
  simp only [shortfall] at none_short
  split at none_short
  · cases none_short
  · rename_i fits
    exact not_lt.mp fits

theorem loadOwnedBooking_ok {bookingId : UuidText} {principal : AuthPrincipal} {b : Booking}
    {db db' : Db} (returned : loadOwnedBooking bookingId principal db = .ok (b, db')) :
    db' = db ∧ db.bookings.get? bookingId.value = some b := by
  unfold loadOwnedBooking at returned
  grind

/-- The row a re-arm leaves. -/
def rearmed (env : Env) (booking : Booking) (now : Instant) (b : Booking) : Booking :=
  { b with
    expiresAt := some (min (now + env.checkoutRearmSeconds * 1000)
      (booking.createdAt + env.maxHoldLifetimeSeconds * 1000))
    rearmCount := booking.rearmCount + 1
    updatedAt := now }

/-- A checkout that returned re-armed the row as it stood when it was locked. -/
theorem checkoutLoaded_ok {env : Env} {bookingId : UuidText} {principal : AuthPrincipal}
    {booking b' : Booking} {now : Instant} {db db' : Db}
    (returned : checkoutLoaded env bookingId principal booking now db = .ok (b', db')) :
    booking.lapsedAt now = false ∧ booking.rearmCount < env.maxHoldRearms ∧
      now < booking.createdAt + env.maxHoldLifetimeSeconds * 1000 ∧
      ∃ b, db.bookings.get? bookingId.value = some b ∧ b.status ∈ [.held, .pendingPayment] ∧
        db' = (db.modifyBooking bookingId.value (rearmed env booking now)).audit
          ⟨bookingId.value, ⟨.user, some principal.userId⟩, b.status, b.status,
            "hold.rearmed"⟩ := by
  simp only [checkoutLoaded, Tx.bind_ok, Tx.ite_ok, Tx.abort_ok, and_false, false_or,
    exists_false, recordSideEffect_ok, Option.some.injEq, forall_eq'] at returned
  obtain ⟨-, live, rearms, capped, b, found, status, -, rfl⟩ := returned
  exact ⟨by simpa using live, not_le.mp rearms, not_le.mp capped, b, found, status, rfl⟩

theorem cancel_ok {bookingId : UuidText} {reason : String} {principal : AuthPrincipal}
    {now : Instant} {b' : Booking} {db db' : Db}
    (returned : cancel bookingId reason principal now db = .ok (b', db')) :
    ∃ b, db.bookings.get? bookingId.value = some b ∧
      (b.status = .held ∨ b.status = .confirmed) ∧
      b' = { b with status := .cancelled, updatedAt := now } ∧
      db' = (db.modifyBooking bookingId.value fun b =>
          { b with status := .cancelled, updatedAt := now }).audit
        ⟨bookingId.value, ⟨.user, some principal.userId⟩, b.status, .cancelled, reason⟩ := by
  simp only [cancel, Tx.bind_ok, transition_ok, Uuid.path_value] at returned
  obtain ⟨_, t, loaded, b, found, -, legal, rfl, rfl⟩ := returned
  obtain ⟨rfl, -⟩ := loadOwnedBooking_ok loaded
  refine ⟨b, found, ?_, rfl, rfl⟩
  cases h : b.status <;> simp_all [legalTransitions]

end Atrium
