/-
# Paygate.Ledger -- what the provider records, and what its operations answer

The types both ledgers share: the chaos plan drawn from an Idempotency-Key, the
charges and refunds they hand out, the idempotency records, and the inputs and
results of `Ledger`.  A ledger's generated id and its clock are inputs of every
operation, so that one operation can be put to both ledgers.

Deliveries and the attempt counter are the deliverer's and are left out: no
operation below reads them.
-/
import Atrium.Schema

namespace Atrium.Paygate

open Atrium.Base

set_option autoImplicit false

/-! ## The chaos plan -/

inductive TimingBranch where
  | raceOnResponse
  | delayed
  | normal
  deriving DecidableEq, Repr

structure ChaosPlan where
  enabled : Bool
  transientFailure : Bool
  timing : TimingBranch
  duplicateDelivery : Bool
  firstDelayMs : Nat
  duplicateGapMs : Nat
  clockSkewSeconds : Nat
  deriving DecidableEq, Repr

/-- `IMPORTED_PLAN`, and `NO_CHAOS`. -/
def importedPlan : ChaosPlan where
  enabled := false
  transientFailure := false
  timing := .normal
  duplicateDelivery := false
  firstDelayMs := 0
  duplicateGapMs := 0
  clockSkewSeconds := 0

/-! ## Charges, refunds and keys -/

inductive ChargeStatus where
  | processing
  | succeeded
  | failed
  deriving DecidableEq, Repr

inductive RefundStatus where
  | processing
  | succeeded
  deriving DecidableEq, Repr

structure Charge where
  id : String
  reference : String
  amountMinor : Minor
  currency : String
  idempotencyKey : String
  correlationId : Option String
  status : ChargeStatus
  createdAt : Instant
  occurredAt : Option Instant
  materialised : Bool
  refundedMinor : Minor
  plan : ChaosPlan
  refundIds : List String
  deriving DecidableEq, Repr

structure Refund where
  id : String
  chargeId : String
  reference : String
  amountMinor : Minor
  idempotencyKey : String
  correlationId : Option String
  status : RefundStatus
  createdAt : Instant
  occurredAt : Option Instant
  materialised : Bool
  plan : ChaosPlan
  deriving DecidableEq, Repr

inductive Scope where
  | charge
  | refund
  deriving DecidableEq, Repr

inductive KeyOutcome where
  | accepted
  | failed500
  deriving DecidableEq, Repr

structure IdempotencyRecord where
  scope : Scope
  key : String
  resourceId : String
  fingerprint : String
  outcome : KeyOutcome
  firstSeenAt : Instant
  replays : Nat
  deriving DecidableEq, Repr

/-! ## Inputs and results -/

structure OpenChargeInput where
  reference : String
  amountMinor : Minor
  currency : String
  idempotencyKey : String
  fingerprint : String
  correlationId : Option String
  plan : ChaosPlan
  deriving DecidableEq, Repr

inductive OpenChargeResult where
  | created (charge : Charge)
  | replayed (charge : Charge) (record : IdempotencyRecord)
  | fingerprintMismatch
  deriving DecidableEq, Repr

structure OpenRefundInput where
  chargeId : String
  amountMinor : Minor
  idempotencyKey : String
  fingerprint : String
  correlationId : Option String
  plan : ChaosPlan
  deriving DecidableEq, Repr

inductive OpenRefundResult where
  | created (refund : Refund)
  | replayed (refund : Refund) (record : IdempotencyRecord)
  | fingerprintMismatch
  | unknownCharge
  | notRefundable (status : ChargeStatus)
  | exceedsCharge (chargeAmountMinor refundedMinor : Minor)
  deriving DecidableEq, Repr

structure ImportedCharge where
  id : String
  reference : String
  amountMinor : Minor
  currency : String
  idempotencyKey : String
  status : ChargeStatus
  createdAt : Instant
  occurredAt : Instant
  refundedMinor : Minor
  deriving DecidableEq, Repr

/-- What an operation throws: a `new Error(…)`, or what Postgres refuses. -/
inductive LedgerError where
  | thrown (message : String)
  | checkViolation
  | uniqueViolation
  | valueTooLong
  deriving DecidableEq, Repr

def recordHasNoCharge (id : String) : LedgerError :=
  .thrown ("idempotency record has no charge " ++ id)

def recordHasNoRefund (id : String) : LedgerError :=
  .thrown ("idempotency record has no refund " ++ id)

/-! ## The operations -/

/-- A call of `Ledger`, with the id the ledger generates for it. -/
inductive Op where
  | openCharge (chargeId : String) (input : OpenChargeInput)
  | recoverFromTransientFailure (chargeId key : String) (correlationId : Option String)
  | materialiseCharge (chargeId : String) (status : ChargeStatus) (occurredAt : Instant)
  | openRefund (refundId : String) (input : OpenRefundInput)
  | materialiseRefund (refundId : String) (occurredAt : Instant)
  | importCharges (rows : List ImportedCharge)
  | getCharge (id : String)
  | getRefund (id : String)
  | refundsFor (chargeId : String)
  | counts
  deriving DecidableEq, Repr

inductive Answer where
  | openedCharge (result : OpenChargeResult)
  | openedRefund (result : OpenRefundResult)
  | charge (found : Option Charge)
  | refund (found : Option Refund)
  | refunds (found : List Refund)
  | counted (charges refunds : Nat)
  | imported (written : Nat)
  | done
  deriving DecidableEq, Repr

/-! ## Inputs to try things on -/

namespace Sample

def chargeOf (key : String) (amountMinor : Minor) : OpenChargeInput where
  reference := "booking"
  amountMinor := amountMinor
  currency := "USD"
  idempotencyKey := key
  fingerprint := key
  correlationId := none
  plan := importedPlan

def refundOf (chargeId key : String) (amountMinor : Minor) : OpenRefundInput where
  chargeId := chargeId
  amountMinor := amountMinor
  idempotencyKey := key
  fingerprint := key
  correlationId := none
  plan := importedPlan

end Sample

end Atrium.Paygate
