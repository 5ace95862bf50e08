/-
# Paygate.Memory -- `MemoryLedger`

Three maps and no transaction: an operation that throws keeps what it had written
before it threw.  Operations answer what the caller holds at that moment; the
source hands out the stored objects themselves.
-/
import Atrium.Paygate.Ledger

namespace Atrium.Paygate

open Atrium.Base

set_option autoImplicit false

/-- The maps of `MemoryLedger`; a slot is `scope:key`. -/
structure MemoryLedger where
  charges : Table String Charge
  refunds : Table String Refund
  idempotency : Table (Scope × String) IdempotencyRecord

namespace MemoryLedger

def empty : MemoryLedger := ⟨.empty, .empty, .empty⟩

def setCharge (m : MemoryLedger) (charge : Charge) : MemoryLedger :=
  { m with charges := m.charges.put charge.id charge }

def setRefund (m : MemoryLedger) (refund : Refund) : MemoryLedger :=
  { m with refunds := m.refunds.put refund.id refund }

def setRecord (m : MemoryLedger) (record : IdempotencyRecord) : MemoryLedger :=
  { m with idempotency := m.idempotency.put (record.scope, record.key) record }

/-- `existing.replays += 1`. -/
def bump (m : MemoryLedger) (slot : Scope × String) : MemoryLedger :=
  { m with idempotency := m.idempotency.modify slot fun r => { r with replays := r.replays + 1 } }

def openCharge (chargeId : String) (input : OpenChargeInput) (now : Instant) (m : MemoryLedger) :
    Except LedgerError OpenChargeResult × MemoryLedger :=
  match m.idempotency.get? (.charge, input.idempotencyKey) with
  | some existing =>
      if existing.fingerprint ≠ input.fingerprint then (.ok .fingerprintMismatch, m)
      else
        match m.charges.get? existing.resourceId with
        | none =>
            (.error (recordHasNoCharge existing.resourceId), m.bump (.charge, input.idempotencyKey))
        | some charge =>
            (.ok (.replayed charge { existing with replays := existing.replays + 1 }),
              m.bump (.charge, input.idempotencyKey))
  | none =>
      let charge : Charge :=
        { id := chargeId
          reference := input.reference
          amountMinor := input.amountMinor
          currency := input.currency
          idempotencyKey := input.idempotencyKey
          correlationId := input.correlationId
          status := .processing
          createdAt := now
          occurredAt := none
          materialised := false
          refundedMinor := 0
          plan := input.plan
          refundIds := [] }
      (.ok (.created charge),
        (m.setCharge charge).setRecord
          { key := input.idempotencyKey
            scope := .charge
            resourceId := chargeId
            fingerprint := input.fingerprint
            outcome := if input.plan.transientFailure then .failed500 else .accepted
            firstSeenAt := now
            replays := 0 })

def materialiseCharge (chargeId : String) (status : ChargeStatus) (occurredAt : Instant)
    (m : MemoryLedger) : Option Charge × MemoryLedger :=
  match m.charges.get? chargeId with
  | none => (none, m)
  | some charge =>
      if charge.materialised then (none, m)
      else
        let settle (charge : Charge) : Charge :=
          { charge with materialised := true, status, occurredAt := some occurredAt }
        (some (settle charge), { m with charges := m.charges.modify chargeId settle })

/-- `!charge.correlation_id`: absent, or the empty string. -/
def lacksCorrelation (charge : Charge) : Bool :=
  charge.correlationId = none ∨ charge.correlationId = some ""

def recoverFromTransientFailure (chargeId key : String) (correlationId : Option String)
    (m : MemoryLedger) : MemoryLedger :=
  { m with
    idempotency := m.idempotency.modify (.charge, key) fun r => { r with outcome := .accepted }
    charges := m.charges.modify chargeId fun charge =>
      if lacksCorrelation charge then { charge with correlationId } else charge }

def openRefund (refundId : String) (input : OpenRefundInput) (now : Instant) (m : MemoryLedger) :
    Except LedgerError OpenRefundResult × MemoryLedger :=
  match m.idempotency.get? (.refund, input.idempotencyKey) with
  | some existing =>
      if existing.fingerprint ≠ input.fingerprint then (.ok .fingerprintMismatch, m)
      else
        match m.refunds.get? existing.resourceId with
        | none =>
            (.error (recordHasNoRefund existing.resourceId), m.bump (.refund, input.idempotencyKey))
        | some refund =>
            (.ok (.replayed refund { existing with replays := existing.replays + 1 }),
              m.bump (.refund, input.idempotencyKey))
  | none =>
      match m.charges.get? input.chargeId with
      | none => (.ok .unknownCharge, m)
      | some charge =>
          if charge.materialised = false then (.ok .unknownCharge, m)
          else if charge.status ≠ .succeeded then (.ok (.notRefundable charge.status), m)
          else if charge.refundedMinor + input.amountMinor > charge.amountMinor then
            (.ok (.exceedsCharge charge.amountMinor charge.refundedMinor), m)
          else
            let refund : Refund :=
              { id := refundId
                chargeId := charge.id
                reference := charge.reference
                amountMinor := input.amountMinor
                idempotencyKey := input.idempotencyKey
                correlationId := input.correlationId <|> charge.correlationId
                status := .processing
                createdAt := now
                occurredAt := none
                materialised := false
                plan := input.plan }
            (.ok (.created refund),
              { m.setRefund refund with
                charges := m.charges.modify input.chargeId fun charge =>
                  { charge with
                    refundIds := charge.refundIds ++ [refundId]
                    refundedMinor := charge.refundedMinor + input.amountMinor } }.setRecord
                { key := input.idempotencyKey
                  scope := .refund
                  resourceId := refundId
                  fingerprint := input.fingerprint
                  outcome := .accepted
                  firstSeenAt := now
                  replays := 0 })

def materialiseRefund (refundId : String) (occurredAt : Instant) (m : MemoryLedger) :
    Option Refund × MemoryLedger :=
  match m.refunds.get? refundId with
  | none => (none, m)
  | some refund =>
      if refund.materialised then (none, m)
      else
        let settle (refund : Refund) : Refund :=
          { refund with materialised := true, status := .succeeded, occurredAt := some occurredAt }
        (some (settle refund), { m with refunds := m.refunds.modify refundId settle })

def importCharge (m : MemoryLedger) (row : ImportedCharge) : MemoryLedger :=
  if (m.charges.get? row.id).isSome then m
  else
    (m.setCharge
      { id := row.id
        reference := row.reference
        amountMinor := row.amountMinor
        currency := row.currency
        idempotencyKey := row.idempotencyKey
        correlationId := none
        status := row.status
        createdAt := row.createdAt
        occurredAt := some row.occurredAt
        materialised := true
        refundedMinor := row.refundedMinor
        plan := importedPlan
        refundIds := [] }).setRecord
      { key := row.idempotencyKey
        scope := .charge
        resourceId := row.id
        fingerprint := "imported"
        outcome := .accepted
        firstSeenAt := row.createdAt
        replays := 0 }

/-- Every row counts as written, also the ones that were there. -/
def importCharges (rows : List ImportedCharge) (m : MemoryLedger) : Nat × MemoryLedger :=
  (rows.length, rows.foldl importCharge m)

def refundsFor (chargeId : String) (m : MemoryLedger) : List Refund :=
  match m.charges.get? chargeId with
  | none => []
  | some charge => charge.refundIds.filterMap m.refunds.get?

/-- One call: what it answers or throws, and the ledger after it. -/
def call (op : Op) (now : Instant) (m : MemoryLedger) : Except LedgerError Answer × MemoryLedger :=
  match op with
  | .openCharge chargeId input =>
      let (result, after) := m.openCharge chargeId input now
      (result.map .openedCharge, after)
  | .recoverFromTransientFailure chargeId key correlationId =>
      (.ok .done, m.recoverFromTransientFailure chargeId key correlationId)
  | .materialiseCharge chargeId status occurredAt =>
      let (settled, after) := m.materialiseCharge chargeId status occurredAt
      (.ok (.charge settled), after)
  | .openRefund refundId input =>
      let (result, after) := m.openRefund refundId input now
      (result.map .openedRefund, after)
  | .materialiseRefund refundId occurredAt =>
      let (settled, after) := m.materialiseRefund refundId occurredAt
      (.ok (.refund settled), after)
  | .importCharges rows =>
      let (written, after) := m.importCharges rows
      (.ok (.imported written), after)
  | .getCharge id => (.ok (.charge (m.charges.get? id)), m)
  | .getRefund id => (.ok (.refund (m.refunds.get? id)), m)
  | .refundsFor chargeId => (.ok (.refunds (m.refundsFor chargeId)), m)
  | .counts => (.ok (.counted m.charges.rows.length m.refunds.rows.length), m)

end MemoryLedger

end Atrium.Paygate
