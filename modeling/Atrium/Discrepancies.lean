/-
# Discrepancies -- the checks of the reconciliation report

Each check is a query for one way the live path could have lost money; the report is all
of their rows.  Six of the nine look at the payments created in the range, joined with
their bookings, one row at a time: `paymentDiscrepancies` is such a check, and each of the
six is it with its own condition, amount and detail.

`run` counts all rows by kind and lists the newest `limit` of them.  Rows observed at one
instant are listed here in the order of the union; the query leaves that order open.
-/
import Atrium.Reconciliation

namespace Atrium

open Atrium.Base

set_option autoImplicit false

inductive DiscrepancyKind where
  | captureWithoutConfirmation
  | confirmationWithoutCapture
  | doubleCapture
  | refundWithoutCapture
  | refundInitiatedNotSettled
  | refundAcceptedNotSettled
  | chargeAcceptedNotSettled
  | overRefunded
  | unmatchedDelivery
  deriving DecidableEq

def DiscrepancyKind.label : DiscrepancyKind → String
  | .captureWithoutConfirmation => "capture_without_confirmation"
  | .confirmationWithoutCapture => "confirmation_without_capture"
  | .doubleCapture => "double_capture"
  | .refundWithoutCapture => "refund_without_capture"
  | .refundInitiatedNotSettled => "refund_initiated_not_settled"
  | .refundAcceptedNotSettled => "refund_accepted_not_settled"
  | .chargeAcceptedNotSettled => "charge_accepted_not_settled"
  | .overRefunded => "over_refunded"
  | .unmatchedDelivery => "unmatched_delivery"

structure Discrepancy where
  kind : DiscrepancyKind
  bookingId : Option Uuid
  chargeId : Option String
  amountMinor : Option Minor
  detail : String
  observedAt : Instant
  deriving DecidableEq

/-- The range and the grace of a report, and the instant it is run at. -/
structure ReconciliationQuery where
  source : Instant
  target : Instant
  graceSeconds : Nat
  now : Instant

namespace ReconciliationQuery

variable (q : ReconciliationQuery)

/-- `t >= … AND t < …`. -/
def covers (t : Instant) : Bool := decide (q.source ≤ t ∧ t < q.target)

/-- `t < now() - interval '… seconds'`. -/
def overdue (t : Instant) : Bool := decide (t < q.now - (q.graceSeconds : Int) * 1000)

/-! ## Payments -/

/-- The `settled` rows: the payments of the range, with their bookings. -/
def settled (db : Db) : List ((Uuid × Payment) × Booking) :=
  (paymentsCreated db q.source q.target).filterMap fun row =>
    (db.bookings.get? row.2.bookingId).map fun b => (row, b)

/-- A check that looks at one payment at a time. -/
def paymentDiscrepancies (db : Db) (kind : DiscrepancyKind) (holds : Payment → Booking → Bool)
    (amount : Payment → Minor) (detail : Payment → Booking → String) : List Discrepancy :=
  ((q.settled db).filter fun row => holds row.1.2 row.2).map fun row =>
    ⟨kind, some row.1.2.bookingId, row.1.2.chargeId, some (amount row.1.2), detail row.1.2 row.2,
      row.1.2.updatedAt⟩

def captureWithoutConfirmation (db : Db) : List Discrepancy :=
  q.paymentDiscrepancies db .captureWithoutConfirmation
    (fun p b => decide (p.status = .succeeded ∧ b.status ≠ .confirmed ∧ b.status ≠ .completed) &&
      q.overdue p.updatedAt)
    Payment.amountMinor
    (fun _ b => "charge captured but booking is " ++ b.status.label ++ " and no refund has settled")

/-- `EXISTS (… e.charge_id = … AND e.event = 'charge.succeeded')`. -/
def captureRecorded (db : Db) (p : Payment) : Bool :=
  p.chargeId.any fun c => decide ((⟨c, .chargeSucceeded⟩ : PaymentEvent) ∈ db.paymentEvents)

def refundWithoutCapture (db : Db) : List Discrepancy :=
  q.paymentDiscrepancies db .refundWithoutCapture
    (fun p _ => decide (p.status = .refunded ∨ 0 < p.refundedMinor) && !captureRecorded db p)
    Payment.refundedMinor
    (fun _ _ => "refund recorded but no capture event exists for this charge")

def refundInitiatedNotSettled (db : Db) : List Discrepancy :=
  q.paymentDiscrepancies db .refundInitiatedNotSettled
    (fun p _ => p.refundIdempotencyKey.isSome && p.refundId.isNone &&
      decide (p.status ≠ .refunded) && q.overdue p.updatedAt)
    Payment.amountMinor
    (fun _ _ => "a refund key was minted but the provider returned no refund id")

def refundAcceptedNotSettled (db : Db) : List Discrepancy :=
  q.paymentDiscrepancies db .refundAcceptedNotSettled
    (fun p _ => p.refundId.isSome && decide (p.status ≠ .refunded) && q.overdue p.updatedAt)
    Payment.amountMinor
    (fun p _ => "the provider accepted refund " ++ p.refundId.getD "" ++
      " but no settlement has been recorded")

def chargeAcceptedNotSettled (db : Db) : List Discrepancy :=
  q.paymentDiscrepancies db .chargeAcceptedNotSettled
    (fun p _ => decide (p.status = .pending) && p.chargeId.isSome && q.overdue p.updatedAt)
    Payment.amountMinor
    (fun p _ => "the provider accepted charge " ++ p.chargeId.getD "" ++
      " and no outcome has been recorded" ++ (p.failureReason.map (" (" ++ · ++ ")")).getD "")

def overRefunded (db : Db) : List Discrepancy :=
  q.paymentDiscrepancies db .overRefunded
    (fun p _ => decide (p.amountMinor < p.refundedMinor))
    Payment.refundedMinor
    (fun p _ => "refunded " ++ toString p.refundedMinor ++ " against a charge of " ++
      toString p.amountMinor)

/-! ## Bookings, groups and deliveries -/

def confirmationWithoutCapture (db : Db) : List Discrepancy :=
  (db.bookings.select fun id b =>
    decide (b.status = .confirmed ∨ b.status = .completed) && q.covers b.updatedAt &&
      q.overdue b.updatedAt &&
      (db.payments.select fun _ p => decide (p.bookingId = id) && captured p).isEmpty).map fun row =>
    ⟨.confirmationWithoutCapture, some row.1, none, some row.2.totalMinor,
      "booking is " ++ row.2.status.label ++ " with no settled payment", row.2.updatedAt⟩

/-- `GROUP BY booking_id HAVING COUNT(*) > 1`. -/
def doubleCapture (db : Db) : List Discrepancy :=
  let rows := ((q.settled db).map Prod.fst).filter fun row => captured row.2
  let groups := (rows.map fun row => row.2.bookingId).dedup.map fun bookingId =>
    (bookingId, rows.filter fun row => row.2.bookingId = bookingId)
  (groups.filter fun group => 1 < group.2.length).map fun group =>
    ⟨.doubleCapture, some group.1, none, some (group.2.map fun row => row.2.amountMinor).sum,
      "booking has " ++ toString group.2.length ++ " settled payments",
      ((group.2.map fun row => row.2.updatedAt).max?).getD 0⟩

def unmatchedDelivery (db : Db) : List Discrepancy :=
  (db.webhookDeliveries.select fun _ d =>
    d.signatureValid && d.processedAt.isNone && q.covers d.receivedAt &&
      q.overdue d.receivedAt).map fun row =>
    ⟨.unmatchedDelivery, none, row.2.chargeId, none,
      "signed delivery still unapplied" ++ (row.2.error.map (" (" ++ · ++ ")")).getD "" ++
        (row.2.reference.map (", reference " ++ ·)).getD "", row.2.receivedAt⟩

/-- `UNION ALL` of the checks. -/
def discrepancies (db : Db) : List Discrepancy :=
  q.captureWithoutConfirmation db ++ q.confirmationWithoutCapture db ++ q.doubleCapture db ++
    q.refundWithoutCapture db ++ q.refundInitiatedNotSettled db ++
    q.refundAcceptedNotSettled db ++ q.chargeAcceptedNotSettled db ++ q.overRefunded db ++
    q.unmatchedDelivery db

end ReconciliationQuery

/-! ## The report -/

structure ReconciliationReport where
  graceSeconds : Nat
  discrepancyCount : Nat
  returned : Nat
  truncated : Bool
  byKind : List (String × Nat)
  discrepancies : List Discrepancy
  totals : ReconciliationTotals

/-- `SELECT kind, COUNT(*) … GROUP BY kind`. -/
def countsByKind (rows : List Discrepancy) : List (DiscrepancyKind × Nat) :=
  (rows.map Discrepancy.kind).dedup.map fun kind =>
    (kind, rows.countP fun row => row.kind = kind)

def latestObserved (d e : Discrepancy) : Prop := e.observedAt ≤ d.observedAt

instance : DecidableRel latestObserved := fun _ _ => inferInstanceAs (Decidable (_ ≤ _))

def ReconciliationQuery.run (q : ReconciliationQuery) (limit : Nat) (db : Db) :
    ReconciliationReport :=
  let union := q.discrepancies db
  let counts := countsByKind union
  let rows := (union.insertionSort latestObserved).take limit
  let total := (counts.map Prod.snd).sum
  { graceSeconds := q.graceSeconds
    discrepancyCount := total
    returned := rows.length
    truncated := decide (rows.length < total)
    byKind := counts.map fun row => (row.1.label, row.2)
    discrepancies := rows
    totals := reconciliationTotals db q.source q.target }

end Atrium
