/-
# Reconciliation -- the platform's own account of its money

The totals of the report: what was captured and what was given back over the payments
of a range, and how many bookings and payments that is.
-/
import Atrium.Schema

namespace Atrium

open Atrium.Base

set_option autoImplicit false

/-- `p.status IN ('SUCCEEDED','REFUNDED')`. -/
def captured (p : Payment) : Bool := decide (p.status = .succeeded ∨ p.status = .refunded)

/-- `SUM(p.amount_minor) FILTER (WHERE p.status IN ('SUCCEEDED','REFUNDED'))`. -/
def capturedSum (rows : List (Uuid × Payment)) : Minor :=
  ((rows.filter fun row => captured row.2).map fun row => row.2.amountMinor).sum

/-- `SUM(p.refunded_minor)`. -/
def refundedSum (rows : List (Uuid × Payment)) : Minor :=
  (rows.map fun row => row.2.refundedMinor).sum

/-- `p.created_at >= … AND p.created_at < …`. -/
def paymentsCreated (db : Db) (source target : Instant) : List (Uuid × Payment) :=
  db.payments.select fun _ p => decide (source ≤ p.createdAt ∧ p.createdAt < target)

structure ReconciliationTotals where
  capturedMinor : Minor
  refundedMinor : Minor
  confirmedBookings : Nat
  settledPayments : Nat

def reconciliationTotals (db : Db) (source target : Instant) : ReconciliationTotals :=
  let payments := paymentsCreated db source target
  { capturedMinor := capturedSum payments
    refundedMinor := refundedSum payments
    confirmedBookings := (db.bookings.select fun _ b =>
      decide (b.status = .confirmed ∧ source ≤ b.updatedAt ∧ b.updatedAt < target)).length
    settledPayments := payments.countP fun row => captured row.2 }

end Atrium
