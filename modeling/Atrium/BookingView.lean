/-
# BookingView -- what the booking routes answer

`findOne` and `list` as the JSON they send: every field listed, money as decimal text,
instants as `toISOString` writes them.  A member of `findOne` is written by
`toISOString()`, which throws on an instant no `Date` can hold; a row of `list` goes
through `JSON.stringify`, which writes `null` there.
-/
import Atrium.Payments

namespace Atrium

open Atrium.Base

set_option autoImplicit false

/-! ## Members -/

def PaymentStatus.label : PaymentStatus → String
  | .pending => "PENDING"
  | .succeeded => "SUCCEEDED"
  | .failed => "FAILED"
  | .refunded => "REFUNDED"

namespace Json

/-- `value ?? null`. -/
def orNull : Option String → Json
  | some s => .str s
  | none => .null

/-- `amount.toString()`: a bigint as JSON carries it. -/
def minor (amount : Minor) : Json := .str (toString amount)

def int (n : Int) : Json := .num n

/-- A `Date`, as `JSON.stringify` writes it. -/
def date (t : Instant) : Json := if Instant.isDate t then .str (toISOString t) else .null

end Json

/-- `date.toISOString()`. -/
def isoText (t : Instant) : Transaction String :=
  if Instant.isDate t then pure (toISOString t) else Tx.abort (.internal "Invalid time value")

/-- `date?.toISOString() ?? null`. -/
def isoTextOrNull : Option Instant → Transaction Json
  | some t => do
      let text ← isoText t
      pure (.str text)
  | none => pure .null

/-! ## The tenant filter -/

/-- The tenant filter as a predicate, for a query over many bookings. -/
def scopeFilter (principal : AuthPrincipal) : Transaction (Booking → Bool) :=
  match principal.role, principal.venueId with
  | .platformAdmin, _ => pure fun _ => true
  | .venueAdmin, some venueId | .venueStaff, some venueId => pure fun b => decide (b.venueId = venueId)
  | .venueAdmin, none | .venueStaff, none => Tx.abort (.forbidden "Token has no venue scope")
  | .customer, _ => pure fun b => decide (b.userId = principal.userId)

/-! ## One booking -/

/-- The room, and the venue the room is in. -/
def viewContext (db : Db) (roomId : Uuid) : Option (Room × Venue) := do
  let room ← db.rooms.get? roomId
  let venue ← db.venues.get? room.venueId
  some (room, venue)

/-- The line items of a booking, each with its type. -/
def viewItems (db : Db) (bookingId : Uuid) : List (BookingLineItem × EquipmentType) :=
  db.bookingLineItems.filterMap fun item =>
    if item.bookingId = bookingId then
      (db.equipmentTypes.get? item.equipmentTypeId).map fun type => (item, type)
    else none

/-- `ORDER BY created_at DESC`. -/
def newestFirst (p q : Uuid × Payment) : Prop := q.2.createdAt ≤ p.2.createdAt

instance : DecidableRel newestFirst := fun _ _ => inferInstanceAs (Decidable (_ ≤ _))

/-- The newest payment of a booking. -/
def viewPayment (db : Db) (bookingId : Uuid) : Option (Uuid × Payment) :=
  ((db.payments.select fun _ p => decide (p.bookingId = bookingId)).insertionSort newestFirst).head?

def itemJson (row : BookingLineItem × EquipmentType) : Json :=
  .obj [("equipment_type_id", .str row.1.equipmentTypeId.text), ("name", .str row.2.name),
    ("quantity", .int row.1.quantity), ("rate_minor", .minor row.1.rateMinor)]

def paymentJson : Option (Uuid × Payment) → Transaction Json
  | some (id, p) => do
      let updatedAt ← isoText p.updatedAt
      pure (.obj [("payment_id", .str id.text), ("charge_id", .orNull p.chargeId),
        ("status", .str p.status.label), ("amount_minor", .minor p.amountMinor),
        ("refunded_minor", .minor p.refundedMinor), ("refund_id", .orNull p.refundId),
        ("failure_reason", .orNull p.failureReason), ("updated_at", .str updatedAt)])
  | none => pure .null

/-- The answer of `findOne`, from what its four reads give. -/
def bookingJson (bookingId : Uuid) (booking : Booking) (context : Option (Room × Venue))
    (items : List (BookingLineItem × EquipmentType)) (payment : Option (Uuid × Payment)) :
    Transaction Json := do
  let startsAt ← isoText booking.startsAt
  let endsAt ← isoText booking.endsAt
  let expiresAt ← isoTextOrNull booking.expiresAt
  let createdAt ← isoText booking.createdAt
  let updatedAt ← isoText booking.updatedAt
  let paid ← paymentJson payment
  pure (.obj [("id", .str bookingId.text), ("venue_id", .str booking.venueId.text),
    ("venue_name", .orNull (context.map fun c => c.2.name)),
    ("room_id", .str booking.roomId.text), ("room_name", .orNull (context.map fun c => c.1.name)),
    ("timezone", .str ((context.map fun c => c.2.timezone).getD "UTC")),
    ("user_id", .str booking.userId.text), ("status", .str booking.status.label),
    ("starts_at", .str startsAt), ("ends_at", .str endsAt), ("expires_at", expiresAt),
    ("rearm_count", .int booking.rearmCount),
    ("policy_snapshot", booking.policySnapshot.getD .null),
    ("total_minor", .minor booking.totalMinor), ("currency", .str booking.currency),
    ("created_at", .str createdAt), ("updated_at", .str updatedAt),
    ("line_items", .arr (items.map itemJson)), ("payment", paid)])

/-- One booking with its line items and its payment. -/
def findOne (bookingId : UuidText) (principal : AuthPrincipal) : Transaction Json := do
  let booking ← loadOwnedBooking bookingId principal
  let context ← Tx.read (viewContext · booking.roomId)
  let items ← Tx.read (viewItems · bookingId.value)
  let payment ← Tx.read (viewPayment · bookingId.value)
  bookingJson bookingId.value booking context items payment

/-! ## Many bookings -/

/-- `ListBookingsSchema`; the page counts from one. -/
structure ListBookingsQuery where
  status : Option BookingStatus
  from_ : Option Instant
  to_ : Option Instant
  page : Nat
  pageSize : Nat
  paged : 1 ≤ page
  sized : 1 ≤ pageSize ∧ pageSize ≤ 100

/-- The filters of the query, beside the tenant's. -/
def ListBookingsQuery.admits (query : ListBookingsQuery) (b : Booking) : Bool :=
  query.status.all (fun status => decide (b.status = status)) &&
    query.from_.all (fun t => decide (t ≤ b.startsAt)) &&
    query.to_.all (fun t => decide (b.startsAt ≤ t))

/-- Postgres reads the text of an instant of the years from 1 to 9999. -/
def Instant.isTimestamp (t : Instant) : Bool :=
  decide (1 ≤ (civilOf (t / 86400000)).year ∧ (civilOf (t / 86400000)).year ≤ 9999)

def ListBookingsQuery.readable (query : ListBookingsQuery) : Bool :=
  query.from_.all Instant.isTimestamp && query.to_.all Instant.isTimestamp

/-- A booking, with the room and the venue that join it. -/
structure ListedBooking where
  id : Uuid
  booking : Booking
  room : Room
  venue : Venue

/-- `ORDER BY starts_at DESC`. -/
def laterFirst (p q : ListedBooking) : Prop := q.booking.startsAt ≤ p.booking.startsAt

instance : DecidableRel laterFirst := fun _ _ => inferInstanceAs (Decidable (_ ≤ _))

def matchingBookings (db : Db) (inScope : Booking → Bool) (query : ListBookingsQuery) :
    List (Uuid × Booking) :=
  db.bookings.select fun _ b => inScope b && query.admits b

def joinRow (db : Db) (row : Uuid × Booking) : Option ListedBooking := do
  let room ← db.rooms.get? row.2.roomId
  let venue ← db.venues.get? row.2.venueId
  some ⟨row.1, row.2, room, venue⟩

structure BookingPage where
  data : List ListedBooking
  page : Nat
  pageSize : Nat
  total : Nat

/-- The bookings the principal may see, a page at a time.  `inOrder` is the order in which the
database returns the rows of this query. -/
def list (inOrder : List ListedBooking → List ListedBooking) (query : ListBookingsQuery)
    (principal : AuthPrincipal) : Transaction BookingPage := do
  let inScope ← scopeFilter principal
  if query.readable = false then Tx.abort (.database "22008")
  let rows ← Tx.read fun db => inOrder ((matchingBookings db inScope query).filterMap (joinRow db))
  let total ← Tx.read fun db => (matchingBookings db inScope query).length
  pure ⟨(rows.drop ((query.page - 1) * query.pageSize)).take query.pageSize, query.page,
    query.pageSize, total⟩

def ListedBooking.json (row : ListedBooking) : Json :=
  .obj [("id", .str row.id.text), ("venue_id", .str row.booking.venueId.text),
    ("room_id", .str row.booking.roomId.text), ("room_name", .str row.room.name),
    ("venue_name", .str row.venue.name), ("timezone", .str row.venue.timezone),
    ("user_id", .str row.booking.userId.text), ("starts_at", .date row.booking.startsAt),
    ("ends_at", .date row.booking.endsAt), ("status", .str row.booking.status.label),
    ("expires_at", (row.booking.expiresAt.map Json.date).getD .null),
    ("rearm_count", .int row.booking.rearmCount), ("total_minor", .minor row.booking.totalMinor),
    ("currency", .str row.booking.currency), ("created_at", .date row.booking.createdAt)]

def BookingPage.json (answer : BookingPage) : Json :=
  .obj [("data", .arr (answer.data.map ListedBooking.json)), ("page", .num answer.page),
    ("page_size", .num answer.pageSize), ("total", .num answer.total)]

/-! ## What a returned answer has read -/

theorem isoText_ok {t : Int} {text : String} {db db' : Db} :
    isoText t db = .ok (text, db') ↔ Instant.isDate t = true ∧ toISOString t = text ∧ db = db' := by
  simp only [isoText, Tx.ite_ok, Tx.pure_ok, Tx.abort_ok, and_false, or_false]

end Atrium
