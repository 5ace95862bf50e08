/-
# Schema -- the tables, and the errors a request can end in

One structure a table, with the columns the modelled code reads or writes.
Money is in minor units and instants are in milliseconds; both are `Int`, as the
code's `bigint` amounts and `Date` times never leave the range where that
matters.  `raw_body` keeps what `JSON.parse` makes of the stored bytes, `none`
where it throws: the bytes themselves are read by nothing else.
-/
import Atrium.Base.Table
import Atrium.Base.Transaction
import Atrium.Json
import Atrium.Uuid

namespace Atrium

open Atrium.Base

set_option autoImplicit false

abbrev Instant := Int
abbrev Minor := Int

/-- What a `bigint` column holds. -/
def fitsBigint (n : Int) : Bool := decide (-9223372036854775808 ≤ n ∧ n ≤ 9223372036854775807)

/-- What a cast to `int` lets through. -/
def fitsInt (n : Int) : Bool := decide (-2147483648 ≤ n ∧ n ≤ 2147483647)

/-! ## Enumerations -/

inductive BookingStatus where
  | draft
  | held
  | pendingPayment
  | confirmed
  | completed
  | expired
  | failed
  | cancelled
  | refunded
  deriving DecidableEq, Repr

def BookingStatus.label : BookingStatus → String
  | .draft => "DRAFT"
  | .held => "HELD"
  | .pendingPayment => "PENDING_PAYMENT"
  | .confirmed => "CONFIRMED"
  | .completed => "COMPLETED"
  | .expired => "EXPIRED"
  | .failed => "FAILED"
  | .cancelled => "CANCELLED"
  | .refunded => "REFUNDED"

/-- `ACTIVE_BOOKING_STATUSES`: what `no_room_overlap` covers. -/
def activeBookingStatuses : List BookingStatus := [.held, .pendingPayment, .confirmed]

inductive PaymentStatus where
  | pending
  | succeeded
  | failed
  | refunded
  deriving DecidableEq, Repr

/-- `SUPPORTED_EVENTS`. -/
inductive EventName where
  | chargeSucceeded
  | chargeFailed
  | refundSucceeded
  deriving DecidableEq, Repr

def EventName.label : EventName → String
  | .chargeSucceeded => "charge.succeeded"
  | .chargeFailed => "charge.failed"
  | .refundSucceeded => "refund.succeeded"

def EventName.ofLabel (s : String) : Option EventName :=
  [EventName.chargeSucceeded, .chargeFailed, .refundSucceeded].find? fun e => e.label = s

theorem EventName.ofLabel_label (e : EventName) : EventName.ofLabel e.label = some e := by
  cases e <;> decide

inductive AuditActorType where
  | user
  | system
  | paygate
  deriving DecidableEq, Repr

inductive UserRole where
  | customer
  | venueStaff
  | venueAdmin
  | platformAdmin
  deriving DecidableEq, Repr

/-! ## Rows -/

structure Venue where
  name : String
  city : String
  timezone : String
  operatingHours : Json
  overbookingBufferPct : Nat
  createdAt : Instant
  /-- `venues_overbooking_buffer_ck`. -/
  bufferBounded : overbookingBufferPct ≤ 10

structure Room where
  venueId : Uuid
  name : String
  capacity : Int
  hourlyRateMinor : Minor
  amenities : List String
  minDurationMinutes : Int
  maxDurationMinutes : Int

structure EquipmentType where
  venueId : Uuid
  name : String
  hourlyRateMinor : Minor
  /-- `equipment_types_units_ck` keeps it from going below zero. -/
  unitsOwned : Nat

structure CancellationPolicy where
  /-- `none` is the platform's own policy. -/
  venueId : Option Uuid
  tiers : Json
  createdAt : Instant

structure Booking where
  venueId : Uuid
  roomId : Uuid
  userId : Uuid
  startsAt : Instant
  endsAt : Instant
  status : BookingStatus
  expiresAt : Option Instant
  rearmCount : Int
  policySnapshot : Option Json
  totalMinor : Minor
  currency : String
  createdAt : Instant
  updatedAt : Instant

structure BookingLineItem where
  bookingId : Uuid
  equipmentTypeId : Uuid
  quantity : Int
  rateMinor : Minor
  deriving DecidableEq

structure Payment where
  bookingId : Uuid
  idempotencyKey : String
  chargeId : Option String
  amountMinor : Minor
  status : PaymentStatus
  refundId : Option String
  refundIdempotencyKey : Option String
  refundedMinor : Minor
  failureReason : Option String
  createdAt : Instant
  updatedAt : Instant
  deriving DecidableEq

/-- A business effect that was applied, once. -/
structure PaymentEvent where
  chargeId : String
  event : EventName
  deriving DecidableEq

structure WebhookDelivery where
  deliveryId : String
  chargeId : Option String
  reference : Option String
  event : Option String
  signatureValid : Bool
  rawBody : Option Json
  receivedAt : Instant
  processedAt : Option Instant
  error : Option String

structure Actor where
  type : AuditActorType
  id : Option Uuid
  deriving DecidableEq

def systemActor : Actor := ⟨.system, none⟩

def paygateActor : Actor := ⟨.paygate, none⟩

structure AuditEvent where
  bookingId : Uuid
  actor : Actor
  fromState : BookingStatus
  toState : BookingStatus
  reason : String
  deriving DecidableEq

/-- The API's database. -/
structure Db where
  venues : Table Uuid Venue
  rooms : Table Uuid Room
  equipmentTypes : Table Uuid EquipmentType
  /-- The ids in `users`; no modelled function reads another column. -/
  users : List Uuid
  cancellationPolicies : Table Uuid CancellationPolicy
  bookings : Table Uuid Booking
  bookingLineItems : List BookingLineItem
  payments : Table Uuid Payment
  paymentEvents : List PaymentEvent
  webhookDeliveries : Table Uuid WebhookDelivery
  auditEvents : List AuditEvent

/-! ## The caller -/

structure AuthPrincipal where
  userId : Uuid
  role : UserRole
  venueId : Option Uuid

/-! ## Errors -/

structure Shortfall where
  equipmentTypeId : Uuid
  name : String
  requested : Int
  peakInUse : Int
  ceiling : Int
  shortBy : Int
  deriving DecidableEq

/-- What a 409 says beside its message. -/
inductive ConflictDetail where
  | none
  | state (bookingId : String) (currentStatus : BookingStatus)
  | transition (bookingId : String) (currentStatus attemptedStatus : BookingStatus)
      (legalNext : List BookingStatus)
  | rearm (bookingId : String) (rearmCount : Int)
  | lifetime (bookingId : String)
  | slot (roomId : String) (startsAt endsAt : Instant) (constraint : String)
  | shortfalls (rows : List Shortfall)
  deriving DecidableEq

/-- What a 422 about the venue's rules says beside its message. -/
inductive RuleDetail where
  | venue (venueId : Uuid)
  | start (startsAt : Instant)
  | duration (durationMinutes : Int)
  | hours (timezone : String) (startsAt endsAt : Instant)
  deriving DecidableEq

inductive ApiError where
  | unauthorized (message : String)
  | forbidden (message : String)
  | notFound (message : String)
  | conflict (message : String) (detail : ConflictDetail)
  | unprocessable (message : String) (ids : List String)
  | unbookable (message : String) (detail : RuleDetail)
  | unavailable (message : String) (remedy : Option String)
  /-- A constraint or a cast that nothing catches: a 500 with its SQLSTATE. -/
  | database (sqlstate : String)
  /-- Anything else thrown: a 500. -/
  | internal (message : String)
  deriving DecidableEq

abbrev Transaction (α : Type) := Tx ApiError Db α

end Atrium
