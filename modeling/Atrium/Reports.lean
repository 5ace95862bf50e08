/-
# Reports -- a venue's revenue over a range, and the platform's totals

`revenue` takes its gross from the bookings that are CONFIRMED or COMPLETED and its
refunds from every payment of every booking in range.  So a booking that has been
refunded is out of the gross and still in the refunds.

Minutes are exact here; Postgres divides with sixteen digits, which is the same on the
half-hour grid.  `min` and the text orders are those of the `C` collation.
-/
import Atrium.Base.Binary64
import Atrium.Bookings
import Atrium.Reconciliation

namespace Atrium

open Atrium.Base

set_option autoImplicit false

/-! ## The query -/

structure RevenueReportQuery where
  source : Instant
  target : Instant
  ordered : source < target
  bounded : target - source ≤ 366 * 24 * 60 * 60 * 1000

/-- `b.venue_id = … AND b.starts_at >= … AND b.starts_at < …`. -/
def inRange (venueId : Uuid) (query : RevenueReportQuery) (b : Booking) : Bool :=
  decide (b.venueId = venueId ∧ query.source ≤ b.startsAt ∧ b.startsAt < query.target)

def bookingsInRange (db : Db) (venueId : Uuid) (query : RevenueReportQuery) :
    List (Uuid × Booking) :=
  db.bookings.select fun _ b => inRange venueId query b

/-- `b.status IN ('CONFIRMED','COMPLETED')`. -/
def earned (b : Booking) : Bool := decide (b.status = .confirmed ∨ b.status = .completed)

/-- `x::int`. -/
def castInt (n : Int) : Transaction Int :=
  if fitsInt n then pure n else Tx.abort (.database "22003")

/-! ## The aggregates -/

structure RevenueTotals where
  bookings : Int
  confirmed : Int
  completed : Int
  cancelled : Int
  refunded : Int
  expired : Int
  failed : Int
  grossMinor : Minor
  bookedMinutes : Int
  currency : Option String

def grossMinor (rows : List (Uuid × Booking)) : Minor :=
  ((rows.filter fun row => earned row.2).map fun row => row.2.totalMinor).sum

/-- Milliseconds to whole minutes, halves away from zero, as `numeric::int` rounds. -/
def wholeMinutes (ms : Int) : Int := if 0 ≤ ms then (ms + 30000) / 60000 else -((-ms + 30000) / 60000)

def bookedMinutes (rows : List (Uuid × Booking)) : Transaction Int :=
  castInt (wholeMinutes
    ((rows.filter fun row => earned row.2).map fun row => row.2.endsAt - row.2.startsAt).sum)

/-- `min(b.currency)`. -/
def leastCurrency (rows : List (Uuid × Booking)) : Option String :=
  rows.foldl (fun least row =>
    match least with
    | some c => some (if row.2.currency < c then row.2.currency else c)
    | none => some row.2.currency) none

def countOf (status : BookingStatus) (rows : List (Uuid × Booking)) : Transaction Int :=
  castInt (rows.countP fun row => row.2.status = status)

/-- Counts, gross and booked minutes in one pass over `bookings`. -/
def totals (venueId : Uuid) (query : RevenueReportQuery) : Transaction RevenueTotals := do
  let rows ← Tx.read (bookingsInRange · venueId query)
  let bookings ← castInt rows.length
  let confirmed ← countOf .confirmed rows
  let completed ← countOf .completed rows
  let cancelled ← countOf .cancelled rows
  let refunded ← countOf .refunded rows
  let expired ← countOf .expired rows
  let failed ← countOf .failed rows
  let minutes ← bookedMinutes rows
  pure ⟨bookings, confirmed, completed, cancelled, refunded, expired, failed, grossMinor rows,
    minutes, leastCurrency rows⟩

/-- `payments p JOIN bookings b ON b.id = p.booking_id`, over the bookings in range. -/
def paymentsInRange (db : Db) (venueId : Uuid) (query : RevenueReportQuery) :
    List (Uuid × Payment) :=
  db.payments.select fun _ p => (db.bookings.get? p.bookingId).any (inRange venueId query)

/-- What the provider gave back, over the bookings in range. -/
def refunded (venueId : Uuid) (query : RevenueReportQuery) : Transaction Minor :=
  Tx.read fun db => refundedSum (paymentsInRange db venueId query)

structure RoomRevenue where
  roomId : Uuid
  roomName : String
  bookings : Int
  bookedMinutes : Int
  grossMinor : Minor

/-- `ORDER BY 5 DESC, b.room_id`: the fifth column is the gross as text. -/
def byGrossText (r s : RoomRevenue) : Prop :=
  toString s.grossMinor < toString r.grossMinor ∨
    (toString s.grossMinor = toString r.grossMinor ∧ r.roomId ≤ s.roomId)

instance : DecidableRel byGrossText := fun _ _ => inferInstanceAs (Decidable (_ ∨ _))

/-- Per room with a booking in range. -/
def byRoom (venueId : Uuid) (query : RevenueReportQuery) : Transaction (List RoomRevenue) := do
  let rooms ← Tx.read (·.rooms.rows)
  let rows ← Tx.read (bookingsInRange · venueId query)
  let groups := (rooms.map fun room => (room, rows.filter fun row => row.2.roomId = room.1)).filter
    fun group => !group.2.isEmpty
  let found ← groups.mapM fun (room, rows) => do
    let bookings ← castInt rows.length
    let minutes ← bookedMinutes rows
    pure (⟨room.1, room.2.name, bookings, minutes, grossMinor rows⟩ : RoomRevenue)
  pure (found.insertionSort byGrossText)

structure DayRevenue where
  day : String
  bookings : Int
  grossMinor : Minor

/-- Per venue-local calendar day.  `localDay` is what Postgres makes of
`to_char(date_trunc('day', t AT TIME ZONE timezone), 'YYYY-MM-DD')`, `none` where it
does not know the zone. -/
def byDay (localDay : String → Instant → Option String) (venueId : Uuid)
    (query : RevenueReportQuery) (timezone : String) : Transaction (List DayRevenue) := do
  let rows ← Tx.read (bookingsInRange · venueId query)
  let dated ← rows.mapM fun row =>
    Tx.fetch (fun _ => (localDay timezone row.2.startsAt).map fun day => (day, row))
      (.database "22023")
  let days := (dated.map Prod.fst).dedup.insertionSort (· ≤ ·)
  days.mapM fun day => do
    let rows := (dated.filter fun entry => entry.1 = day).map Prod.snd
    let bookings ← castInt rows.length
    pure ⟨day, bookings, grossMinor rows⟩

/-- `Math.round` of a rational. -/
def mathRound (x : ℚ) : Int := ⌊x + 1 / 2⌋

/-- Open minutes of the range, times the rooms that appear in the report. -/
def openMinutes (env : Env) (venue : Venue) (query : RevenueReportQuery) (roomCount : Nat) :
    Transaction Int :=
  if roomCount = 0 then pure 0
  else
    match parseOperatingHours venue.operatingHours with
    | none => pure 0
    | some hours =>
        match env.timeZone venue.timezone with
        | none => Tx.abort (.internal ("Invalid time zone specified: " ++ venue.timezone))
        | some zone =>
            let clipped := (openWindowsBetween hours zone query.source query.target).map fun w =>
              max 0 (min w.closesAt query.target - max w.opensAt query.source)
            pure (mathRound ((clipped.sum : ℚ) / 60000) * roomCount)

/-! ## The report -/

structure RevenueReport where
  venueId : Uuid
  venueName : String
  timezone : String
  currency : Option String
  source : Instant
  target : Instant
  totals : RevenueTotals
  refundedMinor : Minor
  netMinor : Minor
  openMinutes : Int
  utilisationPct : Option ℚ
  byRoom : List RoomRevenue
  byDay : List DayRevenue

/-- `Math.round((booked / open) * 1000) / 10`, in doubles. -/
def utilisation (booked open_ : Int) : Option ℚ :=
  if 0 < open_ then
    some (Binary64.round
      (mathRound (Binary64.round (Binary64.round (booked / open_) * 1000)) / 10))
  else none

/-- Revenue and utilisation for the caller's venue over a range. -/
def revenue (env : Env) (localDay : String → Instant → Option String) (principal : AuthPrincipal)
    (query : RevenueReportQuery) : Transaction RevenueReport := do
  let venueId ← Tx.fetch (fun _ => principal.venueId) (.notFound "Not Found")
  let venue ← Tx.fetch (·.venues.get? venueId) (.notFound "Not Found")
  let sums ← totals venueId query
  let refundedMinor ← refunded venueId query
  let rooms ← byRoom venueId query
  let days ← byDay localDay venueId query venue.timezone
  let minutes ← openMinutes env venue query rooms.length
  pure
    { venueId := venueId
      venueName := venue.name
      timezone := venue.timezone
      currency := sums.currency
      source := query.source
      target := query.target
      totals := sums
      refundedMinor := refundedMinor
      netMinor := sums.grossMinor - refundedMinor
      openMinutes := minutes
      utilisationPct := utilisation sums.bookedMinutes minutes
      byRoom := rooms
      byDay := days }

end Atrium
