/-
# Routes -- the booking and venue routes as processes

A request passes `RolesGuard` and runs one committed transaction after another; between two
of them it is a `Stage` that holds what it has read.  Checkout and pay read without a lock,
so each is split there.  What a request is given from outside (generated keys, the instants
it reads, what the provider answers to what it is sent) comes with the request.

Creating a hold is not among these routes: whether a slot is free is for everyone to see.
-/
import Atrium.Reports
import Atrium.VenuesAdmin

namespace Atrium.Routes

open Atrium.Base

set_option autoImplicit false

/-! ## Requests -/

/-- What one pay request is given: `charge` is the provider's answer to what it is asked. -/
structure Paying where
  stamp : PayStamp
  charge : ChargeRequest → Except ApiError String
  boundAt : Instant

/-- What one cancellation is given; `choice` is the payment that `LIMIT 1` returns, `refusal`
the driver's message where the refund's id is refused. -/
structure Settling where
  now : Instant
  choice : Uuid
  settledAt : Instant
  refund : RefundInstruction → Except String String
  refusal : String
  recordedAt : Instant

inductive Request where
  | settings
  | updateSettings (input : UpdateVenueSettingsInput)
  | listRooms
  | createRoom (id : Uuid) (input : CreateRoomInput)
  | updateRoom (roomId : Uuid) (input : UpdateRoomInput)
  | createEquipmentType (id : Uuid) (input : CreateEquipmentTypeInput)
  | updateEquipmentType (id : Uuid) (input : UpdateEquipmentTypeInput)
  | listEquipment
  | equipmentType (id : Uuid)
  | policy
  | replacePolicy (id : Uuid) (tiers : Tiers) (now : Instant)
  | revenue (query : RevenueReportQuery)
  | bookings (query : ListBookingsQuery)
  | booking (bookingId : UuidText)
  | checkout (bookingId : UuidText) (now : Instant)
  | cancel (bookingId : UuidText) (reason : String) (settling : Settling)
  | pay (bookingId : UuidText) (paying : Paying)

namespace Request

/-- `@Roles`: none where any role may call. -/
def roles : Request → List UserRole
  | settings | listRooms | revenue _ => [.venueAdmin, .venueStaff]
  | updateSettings _ | createRoom .. | updateRoom .. | createEquipmentType ..
  | updateEquipmentType .. | replacePolicy .. => [.venueAdmin]
  | listEquipment | equipmentType _ | policy => [.venueAdmin, .venueStaff, .platformAdmin]
  | bookings _ | booking _ | checkout .. | cancel .. | pay .. => []

/-- `RolesGuard`. -/
def canActivate (r : Request) (role : UserRole) : Bool := r.roles.isEmpty || r.roles.contains role

end Request

/-! ## Answers -/

inductive Answer where
  | json (body : Json)
  | report (report : RevenueReport)
  | cancelled (bookingId : Uuid) (status : BookingStatus) (refund : Option RefundBreakdown)

def presentPayment (payment : Uuid × Payment) (outcome : String) : Json :=
  .obj [("payment_id", .str payment.1.text), ("booking_id", .str payment.2.bookingId.text),
    ("charge_id", .orNull payment.2.chargeId), ("status", .str payment.2.status.label),
    ("amount_minor", .minor payment.2.amountMinor), ("refunded_minor", .minor payment.2.refundedMinor),
    ("idempotency_key", .str payment.2.idempotencyKey), ("outcome", .str outcome)]

/-- What a re-armed hold is answered with. -/
def presentHold (bookingId : UuidText) (booking : Booking) : Transaction Json := do
  let expiresAt ← isoTextOrNull booking.expiresAt
  pure (.obj [("id", .str bookingId.value.text), ("status", .str booking.status.label),
    ("expires_at", expiresAt), ("rearm_count", .int booking.rearmCount),
    ("total_minor", .minor booking.totalMinor), ("currency", .str booking.currency)])

/-! ## Stages -/

/-- A cancelled booking whose refund is owed: what it will be answered with, and what the
provider is sent. -/
structure Owed where
  bookingId : Uuid
  status : BookingStatus
  breakdown : RefundBreakdown
  instruction : RefundInstruction

def Owed.answer (owed : Owed) : Answer := .cancelled owed.bookingId owed.status (some owed.breakdown)

inductive Stage where
  | asked (r : Request)
  /-- Settings committed, and the row not presented yet. -/
  | presenting (row : Uuid × Venue)
  | updatingRoom (venueId roomId : Uuid) (input : UpdateRoomInput) (existing : Room)
  | checkingOut (bookingId : UuidText) (booking : Booking) (now : Instant)
  | checkedOut (bookingId : UuidText) (booking : Booking)
  | settling (bookingId : Uuid) (status : BookingStatus) (given : Settling)
  | refunding (owed : Owed) (given : Settling)
  | refundFailed (owed : Owed) (message : String) (given : Settling)
  | paying (bookingId : UuidText) (booking : Booking) (given : Paying)
  | payingRead (bookingId : UuidText) (booking : Booking) (existing : Option (Uuid × Payment))
      (given : Paying)
  /-- Committed, and the provider called. -/
  | charging (request : ChargeRequest) (payment : Uuid × Payment) (given : Paying)
  /-- Another had bound a charge. -/
  | rereading (payment : Uuid × Payment)

/-- A transaction of the booking routes. -/
def lift {α : Type} (x : Transaction α) : VenueTx α := x.mapError .api

def answering (x : VenueTx Json) : VenueTx (Answer ⊕ Stage) := do
  let body ← x
  pure (.inl (.json body))

section Run

variable (env : Env) (localDay : String → Instant → Option String)
  (inOrder : List ListedBooking → List ListedBooking) (principal : AuthPrincipal)

/-- The first transaction of a request that may be made. -/
def Request.run : Request → VenueTx (Answer ⊕ Stage)
  | .settings => answering (VenuesAdmin.settings principal)
  | .updateSettings input => do
      let row ← VenuesAdmin.updateSettings input principal
      pure (.inr (.presenting row))
  | .listRooms => answering (VenuesAdmin.listRooms principal)
  | .createRoom id input => answering (VenuesAdmin.createRoom id input principal)
  | .updateRoom roomId input => do
      let found ← VenuesAdmin.findRoom roomId input principal
      pure (.inr (.updatingRoom found.1 roomId input found.2))
  | .createEquipmentType id input => answering (VenuesAdmin.createEquipmentType id input principal)
  | .updateEquipmentType id input => answering (VenuesAdmin.updateEquipmentType id input principal)
  | .listEquipment => answering (Equipment.list principal)
  | .equipmentType id => answering (Equipment.findOne id principal)
  | .policy => answering (Policies.current principal)
  | .replacePolicy id tiers now => answering (Policies.replace id tiers now principal)
  | .revenue query => do
      let report ← lift (Atrium.revenue env localDay principal query)
      pure (.inl (.report report))
  | .bookings query => do
      let page ← lift (list inOrder query principal)
      pure (.inl (.json page.json))
  | .booking bookingId => answering (lift (findOne bookingId principal))
  | .checkout bookingId now => do
      let booking ← lift (loadOwnedBooking bookingId principal)
      pure (.inr (.checkingOut bookingId booking now))
  | .cancel bookingId reason given => do
      let booking ← lift (Atrium.cancel bookingId reason principal given.now)
      pure (.inr (.settling bookingId.value booking.status given))
  | .pay bookingId given => do
      let booking ← lift (loadOwned bookingId principal)
      pure (.inr (.paying bookingId booking given))

/-- `settleCancellation`, up to the call of the provider. -/
def settle (bookingId : Uuid) (status : BookingStatus) (given : Settling) :
    VenueTx (Answer ⊕ Stage) := do
  let settled ← lift (settleCancellation bookingId given.choice given.settledAt)
  match settled with
  | none => pure (.inl (.cancelled bookingId status none))
  | some (instruction, breakdown) =>
      -- `settleRefund` returns at once where there is nothing to send.
      if instruction.amountMinor ≤ 0 then
        pure (.inl (.cancelled bookingId status (some breakdown)))
      else pure (.inr (.refunding ⟨bookingId, status, breakdown, instruction⟩ given))

/-- `settleRefund`: whatever is thrown is written down and not rethrown. -/
def refund (owed : Owed) (given : Settling) : VenueTx (Answer ⊕ Stage) :=
  match given.refund owed.instruction with
  | .ok refundId => do
      let bound ← Tx.attempt (refundAccepted owed.instruction.paymentId refundId given.recordedAt)
      match bound with
      | .ok _ => pure (.inl owed.answer)
      | .error _ => pure (.inr (.refundFailed owed given.refusal given))
  | .error message => pure (.inr (.refundFailed owed message given))

/-- The guarded update once the provider has answered, and the row it returns. -/
def bindAccepted (request : ChargeRequest) (payment : Uuid × Payment) (given : Paying) :
    VenueTx (Answer ⊕ Stage) :=
  match given.charge request with
  | .error e => Tx.abort (.api e)
  | .ok chargeId => do
      let row ← Tx.read (·.payments.get? payment.1)
      lift (bindCharge payment.1 chargeId given.boundAt)
      match row.filter fun p => decide (p.chargeId = none) with
      | some unbound => pure (.inl (.json (presentPayment
          (payment.1, adopted chargeId given.boundAt unbound) "accepted")))
      | none => pure (.inr (.rereading payment))

/-- The next transaction of a request. -/
def Stage.run : Stage → VenueTx (Answer ⊕ Stage)
  | .asked r =>
      if r.canActivate principal.role then r.run env localDay inOrder principal
      else Tx.abort (.api (.forbidden "Insufficient role"))
  | .presenting row => answering (present row)
  | .updatingRoom venueId roomId input existing =>
      answering (VenuesAdmin.updateRoomLoaded venueId roomId input existing)
  | .checkingOut bookingId booking now => do
      let rearmed ← lift (checkoutLoaded env bookingId principal booking now)
      pure (.inr (.checkedOut bookingId rearmed))
  | .checkedOut bookingId booking => answering (lift (presentHold bookingId booking))
  | .settling bookingId status given => settle bookingId status given
  | .refunding owed given => refund owed given
  | .refundFailed owed message given => do
      let _ ← (Tx.attempt (refundRejected owed.instruction.paymentId message given.recordedAt) :
        VenueTx _)
      pure (.inl owed.answer)
  | .paying bookingId booking given => do
      let existing ← Tx.read (paymentByKey · (chargeKey bookingId.text))
      pure (.inr (.payingRead bookingId booking existing given))
  | .payingRead bookingId booking existing given => do
      let prepared ← lift (payLoaded bookingId principal booking existing given.stamp)
      match prepared with
      | .settled payment => pure (.inl (.json (presentPayment payment "replayed")))
      | .charge booking payment =>
          pure (.inr (.charging (chargeRequest bookingId booking payment) payment given))
  | .charging request payment given => bindAccepted request payment given
  | .rereading payment => do
      let current ← Tx.read (·.payments.get? payment.1)
      pure (.inl (.json (presentPayment (payment.1, current.getD payment.2) "accepted")))

end Run

end Atrium.Routes
