/-
# Paygate.Postgres -- `PostgresLedger`

Each table is a keyed table, and the constraints of `0001_ledger.sql` are checked
where a statement writes.  `openCharge` and `openRefund` are single transactions
that claim the key first; a refusal is an answer, so the claim of a refused refund
is committed.  `importCharges` is no transaction: every statement of every batch
commits on its own.
-/
import Atrium.Paygate.Ledger

namespace Atrium.Paygate

open Atrium.Base

set_option autoImplicit false

/-! ## Rows -/

/-- `paygate_charges`, keyed by `id`. -/
structure ChargeRow where
  reference : String
  amountMinor : Minor
  currency : String
  idempotencyKey : String
  correlationId : Option String
  status : ChargeStatus
  createdAt : Instant
  occurredAt : Option Instant
  materialised : Bool
  refundedMinor : Minor
  plan : ChaosPlan
  deriving DecidableEq, Repr

/-- `paygate_refunds`, keyed by `id`. -/
structure RefundRow where
  chargeId : String
  reference : String
  amountMinor : Minor
  idempotencyKey : String
  correlationId : Option String
  status : RefundStatus
  createdAt : Instant
  occurredAt : Option Instant
  materialised : Bool
  plan : ChaosPlan
  deriving DecidableEq, Repr

/-- `paygate_idempotency`, keyed by `(scope, key)`. -/
structure IdempotencyRow where
  resourceId : String
  fingerprint : String
  outcome : KeyOutcome
  firstSeenAt : Instant
  replays : Nat
  deriving DecidableEq, Repr

structure PostgresLedger where
  charges : Table String ChargeRow
  refunds : Table String RefundRow
  idempotency : Table (Scope × String) IdempotencyRow

abbrev LedgerTx := Tx LedgerError PostgresLedger

def toCharge (id : String) (row : ChargeRow) (refundIds : List String) : Charge where
  id := id
  reference := row.reference
  amountMinor := row.amountMinor
  currency := row.currency
  idempotencyKey := row.idempotencyKey
  correlationId := row.correlationId
  status := row.status
  createdAt := row.createdAt
  occurredAt := row.occurredAt
  materialised := row.materialised
  refundedMinor := row.refundedMinor
  plan := row.plan
  refundIds := refundIds

def toRefund (id : String) (row : RefundRow) : Refund where
  id := id
  chargeId := row.chargeId
  reference := row.reference
  amountMinor := row.amountMinor
  idempotencyKey := row.idempotencyKey
  correlationId := row.correlationId
  status := row.status
  createdAt := row.createdAt
  occurredAt := row.occurredAt
  materialised := row.materialised
  plan := row.plan

def toIdempotency (slot : Scope × String) (row : IdempotencyRow) : IdempotencyRecord where
  key := slot.2
  scope := slot.1
  resourceId := row.resourceId
  fingerprint := row.fingerprint
  outcome := row.outcome
  firstSeenAt := row.firstSeenAt
  replays := row.replays

/-! ## Constraints -/

/-- The checks of `paygate_charges`, `paygate_charges_not_over_refunded` among them. -/
def ChargeRow.checked (row : ChargeRow) : Bool :=
  decide (0 < row.amountMinor ∧ 0 ≤ row.refundedMinor ∧ row.refundedMinor ≤ row.amountMinor)

def RefundRow.checked (row : RefundRow) : Bool := decide (0 < row.amountMinor)

/-- A text assigned to a `char(3)`: padded, and refused when more than blanks would be cut. -/
def char3 (s : String) : Option String :=
  if s.length ≤ 3 then some (s.pushn ' ' (3 - s.length))
  else if (s.toList.drop 3).all (· = ' ') then some (String.ofList (s.toList.take 3))
  else none

/-! ## Statements -/

namespace PostgresLedger

def empty : PostgresLedger := ⟨.empty, .empty, .empty⟩

/-- `INSERT INTO paygate_idempotency … ON CONFLICT (scope, key) DO NOTHING RETURNING`. -/
def claim (slot : Scope × String) (row : IdempotencyRow) : LedgerTx Bool := fun db =>
  match db.idempotency.insert? slot row with
  | some idempotency => .ok (true, { db with idempotency })
  | none => .ok (false, db)

/-- `UPDATE paygate_idempotency SET replays = replays + 1`. -/
def bump (slot : Scope × String) (db : PostgresLedger) : PostgresLedger :=
  { db with idempotency := db.idempotency.modify slot fun r => { r with replays := r.replays + 1 } }

/-- `INSERT INTO paygate_charges`. -/
def insertCharge (id : String) (row : ChargeRow) : LedgerTx ChargeRow := fun db =>
  match char3 row.currency with
  | none => .error .valueTooLong
  | some currency =>
      let row := { row with currency }
      if row.checked = false then .error .checkViolation
      else if db.charges.free (some ·.idempotencyKey) id row.idempotencyKey = false then
        .error .uniqueViolation
      else
        match db.charges.insert? id row with
        | none => .error .uniqueViolation
        | some charges => .ok (row, { db with charges })

/-- `INSERT INTO paygate_refunds`; the charge it names was just read under lock. -/
def insertRefund (id : String) (row : RefundRow) : LedgerTx RefundRow := fun db =>
  if row.checked = false then .error .checkViolation
  else if db.refunds.free (some ·.idempotencyKey) id row.idempotencyKey = false then
    .error .uniqueViolation
  else
    match db.refunds.insert? id row with
    | none => .error .uniqueViolation
    | some refunds => .ok (row, { db with refunds })

/-- `UPDATE paygate_charges SET refunded_minor = refunded_minor + $2 WHERE id = $1`. -/
def addRefunded (id : String) (amountMinor : Minor) : LedgerTx Unit := fun db =>
  let grown (row : ChargeRow) := { row with refundedMinor := row.refundedMinor + amountMinor }
  if (db.charges.get? id).all fun row => (grown row).checked then
    .ok ((), { db with charges := db.charges.modify id grown })
  else .error .checkViolation

/-! ## Charges -/

def chargeClaim (chargeId : String) (input : OpenChargeInput) (now : Instant) : IdempotencyRow where
  resourceId := chargeId
  fingerprint := input.fingerprint
  outcome := if input.plan.transientFailure then .failed500 else .accepted
  firstSeenAt := now
  replays := 0

def openedRow (input : OpenChargeInput) (now : Instant) : ChargeRow where
  reference := input.reference
  amountMinor := input.amountMinor
  currency := input.currency
  idempotencyKey := input.idempotencyKey
  correlationId := input.correlationId
  status := .processing
  createdAt := now
  occurredAt := none
  materialised := false
  refundedMinor := 0
  plan := input.plan

/-- The key was taken: answer the charge it resolved to the first time round. -/
def replayCharge (input : OpenChargeInput) : LedgerTx OpenChargeResult := do
  let slot := (Scope.charge, input.idempotencyKey)
  let record ← Tx.fetch (·.idempotency.get? slot)
    (.thrown "idempotency row vanished between insert and select")
  if record.fingerprint ≠ input.fingerprint then
    pure .fingerprintMismatch
  else
    Tx.write (bump slot)
    let charge ← Tx.fetch (·.charges.get? record.resourceId) (recordHasNoCharge record.resourceId)
    pure (.replayed (toCharge record.resourceId charge [])
      (toIdempotency slot { record with replays := record.replays + 1 }))

def openCharge (chargeId : String) (input : OpenChargeInput) (now : Instant) :
    LedgerTx OpenChargeResult := do
  let claimed ← claim (.charge, input.idempotencyKey) (chargeClaim chargeId input now)
  if claimed = false then
    replayCharge input
  else
    let row ← insertCharge chargeId (openedRow input now)
    pure (.created (toCharge chargeId row []))

/-- `UPDATE … WHERE id = $1 AND materialised = false RETURNING *`. -/
def materialiseCharge (chargeId : String) (status : ChargeStatus) (occurredAt : Instant)
    (db : PostgresLedger) : Option Charge × PostgresLedger :=
  let settle (row : ChargeRow) : ChargeRow :=
    { row with materialised := true, status, occurredAt := some occurredAt }
  match db.charges.get? chargeId with
  | none => (none, db)
  | some row =>
      if row.materialised then (none, db)
      else
        (some (toCharge chargeId (settle row) []),
          { db with charges := db.charges.modify chargeId settle })

def recoverFromTransientFailure (chargeId key : String) (correlationId : Option String)
    (db : PostgresLedger) : PostgresLedger :=
  { db with
    idempotency := db.idempotency.modify (.charge, key) fun r => { r with outcome := .accepted }
    charges := db.charges.modify chargeId fun row =>
      { row with correlationId := row.correlationId <|> correlationId } }

/-! ## Refunds -/

/-- What the charge row, read `FOR UPDATE`, makes of a refund: refused, or reserved. -/
def refusal (input : OpenRefundInput) : Option ChargeRow → Option OpenRefundResult
  | none => some .unknownCharge
  | some charge =>
      if charge.materialised = false then some .unknownCharge
      else if charge.status ≠ .succeeded then some (.notRefundable charge.status)
      else if charge.refundedMinor + input.amountMinor > charge.amountMinor then
        some (.exceedsCharge charge.amountMinor charge.refundedMinor)
      else none

def refundRow (input : OpenRefundInput) (charge : ChargeRow) (now : Instant) : RefundRow where
  chargeId := input.chargeId
  reference := charge.reference
  amountMinor := input.amountMinor
  idempotencyKey := input.idempotencyKey
  correlationId := input.correlationId <|> charge.correlationId
  status := .processing
  createdAt := now
  occurredAt := none
  materialised := false
  plan := input.plan

def refundClaim (refundId : String) (input : OpenRefundInput) (now : Instant) : IdempotencyRow where
  resourceId := refundId
  fingerprint := input.fingerprint
  outcome := .accepted
  firstSeenAt := now
  replays := 0

/-- The key was taken: answer what the winner wrote. -/
def replayRefund (input : OpenRefundInput) : LedgerTx OpenRefundResult := do
  let slot := (Scope.refund, input.idempotencyKey)
  let record ← Tx.fetch (·.idempotency.get? slot)
    (.thrown "idempotency row vanished between insert and select")
  if record.fingerprint ≠ input.fingerprint then
    pure .fingerprintMismatch
  else
    Tx.write (bump slot)
    let refund ← Tx.fetch (·.refunds.get? record.resourceId) (recordHasNoRefund record.resourceId)
    pure (.replayed (toRefund record.resourceId refund)
      (toIdempotency slot { record with replays := record.replays + 1 }))

/-- The charge is locked and has room: the refund row, and the charge's running total. -/
def reserve (refundId : String) (input : OpenRefundInput) (charge : ChargeRow) (now : Instant) :
    LedgerTx OpenRefundResult := do
  let row ← insertRefund refundId (refundRow input charge now)
  addRefunded input.chargeId input.amountMinor
  pure (.created (toRefund refundId row))

/-- A locked charge decides the refund. -/
def decideRefund (refundId : String) (input : OpenRefundInput) (charge : Option ChargeRow)
    (now : Instant) : LedgerTx OpenRefundResult :=
  match refusal input charge, charge with
  | some refused, _ => pure refused
  | none, some charge => reserve refundId input charge now
  | none, none => pure .unknownCharge

def openRefund (refundId : String) (input : OpenRefundInput) (now : Instant) :
    LedgerTx OpenRefundResult := do
  let claimed ← claim (.refund, input.idempotencyKey) (refundClaim refundId input now)
  if claimed = false then
    replayRefund input
  else
    let charge ← Tx.read (·.charges.get? input.chargeId)
    decideRefund refundId input charge now

def materialiseRefund (refundId : String) (occurredAt : Instant) (db : PostgresLedger) :
    Option Refund × PostgresLedger :=
  let settle (row : RefundRow) : RefundRow :=
    { row with materialised := true, status := .succeeded, occurredAt := some occurredAt }
  match db.refunds.get? refundId with
  | none => (none, db)
  | some row =>
      if row.materialised then (none, db)
      else
        (some (toRefund refundId (settle row)),
          { db with refunds := db.refunds.modify refundId settle })

/-! ## Bulk import -/

def importedRow (row : ImportedCharge) : ChargeRow where
  reference := row.reference
  amountMinor := row.amountMinor
  currency := row.currency
  idempotencyKey := row.idempotencyKey
  correlationId := none
  status := row.status
  createdAt := row.createdAt
  occurredAt := some row.occurredAt
  materialised := true
  refundedMinor := row.refundedMinor
  plan := importedPlan

/-- `ON CONFLICT (id) DO NOTHING`: the types and checks are tried before the conflict is
looked for, and a taken idempotency key is no conflict of this clause. -/
def importRow (row : ImportedCharge) : LedgerTx Bool := fun db =>
  match char3 row.currency with
  | none => .error .valueTooLong
  | some currency =>
      if { importedRow row with currency }.checked = false then .error .checkViolation
      else if (db.charges.get? row.id).isSome then .ok (false, db)
      else (insertCharge row.id (importedRow row) db).map fun r => (true, r.2)

/-- The first statement of a batch, and its `rowCount`. -/
def importRows : List ImportedCharge → LedgerTx Nat
  | [] => pure 0
  | row :: rows => do
      let written ← importRow row
      let rest ← importRows rows
      pure ((if written then 1 else 0) + rest)

def importedClaim (row : ImportedCharge) : IdempotencyRow where
  resourceId := row.id
  fingerprint := "imported"
  outcome := .accepted
  firstSeenAt := row.createdAt
  replays := 0

/-- The second statement of a batch: a taken key is left alone. -/
def importKeys (batch : List ImportedCharge) (db : PostgresLedger) : PostgresLedger :=
  batch.foldl (fun db row =>
    match db.idempotency.insert? (.charge, row.idempotencyKey) (importedClaim row) with
    | some idempotency => { db with idempotency }
    | none => db) db

/-- The batches in turn; one that is refused keeps the ones before it. -/
def importBatches : List (List ImportedCharge) → PostgresLedger →
    Except LedgerError Nat × PostgresLedger
  | [], db => (.ok 0, db)
  | batch :: batches, db =>
      match importRows batch db with
      | .error e => (.error e, db)
      | .ok (written, imported) =>
          let (rest, after) := importBatches batches (importKeys batch imported)
          (rest.map (written + ·), after)

/-- Slices of `size` items, the last one shorter. -/
def chunk {α : Type} (size : Nat) (positive : 0 < size) : List α → List (List α)
  | [] => []
  | item :: items =>
      (item :: items).take size :: chunk size positive ((item :: items).drop size)
termination_by items => items.length
decreasing_by
  simp only [List.length_drop, List.length_cons]
  omega

theorem chunk_flatten {α : Type} (size : Nat) (positive : 0 < size) (items : List α) :
    (chunk size positive items).flatten = items := by
  fun_induction chunk size positive items with
  | case1 => rfl
  | case2 item items ih => rw [List.flatten_cons, ih, List.take_append_drop]

theorem batch_pos : 0 < 500 := by decide

def importCharges (rows : List ImportedCharge) (db : PostgresLedger) :
    Except LedgerError Nat × PostgresLedger := importBatches (chunk 500 batch_pos rows) db

/-! ## Reads -/

/-- `ORDER BY created_at, id`. -/
def openedBefore (r s : String × RefundRow) : Bool :=
  decide (r.2.createdAt < s.2.createdAt ∨ (r.2.createdAt = s.2.createdAt ∧ r.1 ≤ s.1))

def refundsOf (chargeId : String) (db : PostgresLedger) : List (String × RefundRow) :=
  (db.refunds.select fun _ row => decide (row.chargeId = chargeId)).mergeSort openedBefore

def refundIdsFor (chargeId : String) (db : PostgresLedger) : List String :=
  (db.refundsOf chargeId).map Prod.fst

def getCharge (id : String) (db : PostgresLedger) : Option Charge :=
  (db.charges.get? id).map fun row => toCharge id row (db.refundIdsFor id)

def getRefund (id : String) (db : PostgresLedger) : Option Refund :=
  (db.refunds.get? id).map (toRefund id)

def refundsFor (chargeId : String) (db : PostgresLedger) : List Refund :=
  (db.refundsOf chargeId).map fun row => toRefund row.1 row.2

/-- A transaction's answer, and the ledger once it has committed or rolled back. -/
def transaction {α : Type} (x : LedgerTx α) (db : PostgresLedger) :
    Except LedgerError α × PostgresLedger :=
  match x db with
  | .ok (a, after) => (.ok a, after)
  | .error e => (.error e, db)

/-- One call: what it answers or throws, and the ledger after it. -/
def call (op : Op) (now : Instant) (db : PostgresLedger) :
    Except LedgerError Answer × PostgresLedger :=
  match op with
  | .openCharge chargeId input =>
      let (result, after) := transaction (openCharge chargeId input now) db
      (result.map .openedCharge, after)
  | .recoverFromTransientFailure chargeId key correlationId =>
      (.ok .done, db.recoverFromTransientFailure chargeId key correlationId)
  | .materialiseCharge chargeId status occurredAt =>
      let (settled, after) := db.materialiseCharge chargeId status occurredAt
      (.ok (.charge settled), after)
  | .openRefund refundId input =>
      let (result, after) := transaction (openRefund refundId input now) db
      (result.map .openedRefund, after)
  | .materialiseRefund refundId occurredAt =>
      let (settled, after) := db.materialiseRefund refundId occurredAt
      (.ok (.refund settled), after)
  | .importCharges rows =>
      let (written, after) := db.importCharges rows
      (written.map .imported, after)
  | .getCharge id => (.ok (.charge (db.getCharge id)), db)
  | .getRefund id => (.ok (.refund (db.getRefund id)), db)
  | .refundsFor chargeId => (.ok (.refunds (db.refundsFor chargeId)), db)
  | .counts => (.ok (.counted db.charges.rows.length db.refunds.rows.length), db)

/-! ## The refunds of one charge -/

/-- The refunds of a charge, in the order they were written. -/
def opened (db : PostgresLedger) (chargeId : String) : List (String × RefundRow) :=
  db.refunds.select fun _ row => decide (row.chargeId = chargeId)

theorem mem_opened {db : PostgresLedger} {chargeId id : String} {row : RefundRow} :
    (id, row) ∈ db.opened chargeId ↔ db.refunds.get? id = some row ∧ row.chargeId = chargeId := by
  simp [opened, Table.mem_select]

theorem opened_insert {db : PostgresLedger} {id : String} {row : RefundRow}
    {refunds : Table String RefundRow} (inserted : db.refunds.insert? id row = some refunds)
    (chargeId : String) : ({ db with refunds } : PostgresLedger).opened chargeId =
      db.opened chargeId ++ if row.chargeId = chargeId then [(id, row)] else [] := by
  simp only [opened, Table.select, (Table.insert?_some inserted).2, List.filter_append]
  by_cases own : row.chargeId = chargeId
  · simp [own]
  · simp [own]

/-- A rewrite in place moves no row of the list. -/
theorem opened_modify (db : PostgresLedger) (refundId : String) {f : RefundRow → RefundRow}
    (charge : ∀ row, (f row).chargeId = row.chargeId) (chargeId : String) :
    ({ db with refunds := db.refunds.modify refundId f } : PostgresLedger).opened chargeId =
      (db.opened chargeId).map fun row => (row.1, if row.1 = refundId then f row.2 else row.2) := by
  simp only [opened, Table.select, Table.modify, Table.update_rows, List.filter_map]
  congr 1
  refine List.filter_congr fun row _ => ?_
  by_cases own : row.1 = refundId
  · simp [own, charge]
  · simp [own]

/-! ## What the statements return -/

section Statements

variable {db : PostgresLedger} {slot : Scope × String}

theorem claim_fresh {row : IdempotencyRow} {idempotency : Table (Scope × String) IdempotencyRow}
    (inserted : db.idempotency.insert? slot row = some idempotency) :
    claim slot row db = .ok (true, { db with idempotency }) := by
  simp [claim, inserted]

theorem claim_taken {row record : IdempotencyRow}
    (taken : db.idempotency.get? slot = some record) : claim slot row db = .ok (false, db) := by
  have refused : db.idempotency.insert? slot row = none := by
    rw [Table.insert?_none, taken, Option.isSome_some]
  simp [claim, refused]

theorem insertCharge_ok {id : String} {row : ChargeRow} {r : ChargeRow × PostgresLedger} :
    insertCharge id row db = .ok r ↔ ∃ currency charges, char3 row.currency = some currency ∧
      { row with currency }.checked = true ∧
      db.charges.free (some ·.idempotencyKey) id row.idempotencyKey = true ∧
      db.charges.insert? id { row with currency } = some charges ∧
      r = ({ row with currency }, { db with charges }) := by
  unfold insertCharge
  cases typed : char3 row.currency with
  | none => simp
  | some currency =>
      cases checks : ({ row with currency } : ChargeRow).checked
      · simp [checks]
      cases unique : db.charges.free (some ·.idempotencyKey) id row.idempotencyKey
      · simp [checks, unique]
      cases inserted : db.charges.insert? id { row with currency } with
      | none => simp [checks, unique, inserted]
      | some charges => simpa [checks, unique, inserted] using eq_comm

theorem insertRefund_ok {id : String} {row : RefundRow} {r : RefundRow × PostgresLedger} :
    insertRefund id row db = .ok r ↔ ∃ refunds, row.checked = true ∧
      db.refunds.free (some ·.idempotencyKey) id row.idempotencyKey = true ∧
      db.refunds.insert? id row = some refunds ∧ r = (row, { db with refunds }) := by
  unfold insertRefund
  cases checks : row.checked
  · simp
  cases unique : db.refunds.free (some ·.idempotencyKey) id row.idempotencyKey
  · simp
  cases inserted : db.refunds.insert? id row with
  | none => simp
  | some refunds => simpa using eq_comm

theorem addRefunded_ok {id : String} {amountMinor : Minor} {r : Unit × PostgresLedger} :
    addRefunded id amountMinor db = .ok r ↔
      (∀ row, db.charges.get? id = some row →
        { row with refundedMinor := row.refundedMinor + amountMinor }.checked = true) ∧
      r = ((), { db with charges := db.charges.modify id fun row =>
        { row with refundedMinor := row.refundedMinor + amountMinor } }) := by
  unfold addRefunded
  cases db.charges.get? id with
  | none => simpa using eq_comm
  | some row =>
      cases checks : ({ row with refundedMinor := row.refundedMinor + amountMinor } : ChargeRow).checked
      · simp [checks]
      · simpa [checks] using eq_comm

theorem openCharge_taken {chargeId : String} {input : OpenChargeInput} {now : Instant}
    {record : IdempotencyRow}
    (taken : db.idempotency.get? (.charge, input.idempotencyKey) = some record) :
    openCharge chargeId input now db =
      if record.fingerprint ≠ input.fingerprint then .ok (.fingerprintMismatch, db)
      else match db.charges.get? record.resourceId with
        | none => .error (recordHasNoCharge record.resourceId)
        | some row => .ok (.replayed (toCharge record.resourceId row [])
            (toIdempotency (.charge, input.idempotencyKey)
              { record with replays := record.replays + 1 }),
            bump (.charge, input.idempotencyKey) db) := by
  unfold openCharge replayCharge
  rw [Tx.bind_of_ok (claim_taken taken), if_pos rfl, Tx.fetch_bind]
  simp only [taken]
  by_cases same : record.fingerprint = input.fingerprint
  · rw [if_neg (not_not.mpr same), if_neg (not_not.mpr same), Tx.write_bind, Tx.fetch_bind]
    have unmoved : (bump (.charge, input.idempotencyKey) db).charges = db.charges := rfl
    rw [unmoved]
    cases db.charges.get? record.resourceId <;> rfl
  · rw [if_pos same, if_pos same]
    rfl

theorem openCharge_fresh {chargeId : String} {input : OpenChargeInput} {now : Instant}
    {idempotency : Table (Scope × String) IdempotencyRow}
    (inserted : db.idempotency.insert? (.charge, input.idempotencyKey)
      (chargeClaim chargeId input now) = some idempotency) :
    openCharge chargeId input now db =
      (insertCharge chargeId (openedRow input now) { db with idempotency }).map fun r =>
        (.created (toCharge chargeId r.1 []), r.2) := by
  unfold openCharge
  rw [Tx.bind_of_ok (claim_fresh inserted), if_neg Bool.true_eq_false.mp]
  rw [Tx.bind_run]
  cases insertCharge chargeId (openedRow input now) { db with idempotency } <;> rfl

theorem openRefund_taken {refundId : String} {input : OpenRefundInput} {now : Instant}
    {record : IdempotencyRow}
    (taken : db.idempotency.get? (.refund, input.idempotencyKey) = some record) :
    openRefund refundId input now db =
      if record.fingerprint ≠ input.fingerprint then .ok (.fingerprintMismatch, db)
      else match db.refunds.get? record.resourceId with
        | none => .error (recordHasNoRefund record.resourceId)
        | some row => .ok (.replayed (toRefund record.resourceId row)
            (toIdempotency (.refund, input.idempotencyKey)
              { record with replays := record.replays + 1 }),
            bump (.refund, input.idempotencyKey) db) := by
  unfold openRefund replayRefund
  rw [Tx.bind_of_ok (claim_taken taken), if_pos rfl, Tx.fetch_bind]
  simp only [taken]
  by_cases same : record.fingerprint = input.fingerprint
  · rw [if_neg (not_not.mpr same), if_neg (not_not.mpr same), Tx.write_bind, Tx.fetch_bind]
    have unmoved : (bump (.refund, input.idempotencyKey) db).refunds = db.refunds := rfl
    rw [unmoved]
    cases db.refunds.get? record.resourceId <;> rfl
  · rw [if_pos same, if_pos same]
    rfl

theorem openRefund_fresh {refundId : String} {input : OpenRefundInput} {now : Instant}
    {idempotency : Table (Scope × String) IdempotencyRow}
    (inserted : db.idempotency.insert? (.refund, input.idempotencyKey)
      (refundClaim refundId input now) = some idempotency) :
    openRefund refundId input now db =
      decideRefund refundId input (db.charges.get? input.chargeId) now { db with idempotency } := by
  unfold openRefund
  rw [Tx.bind_of_ok (claim_fresh inserted), if_neg Bool.true_eq_false.mp, Tx.read_bind]

theorem importRows_cons (row : ImportedCharge) (rows : List ImportedCharge) :
    importRows (row :: rows) db = match importRow row db with
      | .error e => .error e
      | .ok r => (importRows rows r.2).map fun rest => ((if r.1 then 1 else 0) + rest.1, rest.2) := by
  rw [importRows, Tx.bind_run]
  cases importRow row db with
  | error e => rfl
  | ok r =>
      simp only [Tx.bind_run]
      cases importRows rows r.2 <;> rfl

/-- **A reservation writes two rows or nothing.** -/
theorem reserve_ok {refundId : String} {input : OpenRefundInput} {charge : ChargeRow}
    {now : Instant} {r : OpenRefundResult × PostgresLedger} :
    reserve refundId input charge now db = .ok r ↔ ∃ refunds,
      (refundRow input charge now).checked = true ∧
      db.refunds.free (some ·.idempotencyKey) refundId input.idempotencyKey = true ∧
      db.refunds.insert? refundId (refundRow input charge now) = some refunds ∧
      (∀ row, db.charges.get? input.chargeId = some row →
        { row with refundedMinor := row.refundedMinor + input.amountMinor }.checked = true) ∧
      r = (.created (toRefund refundId (refundRow input charge now)),
        { db with
          refunds
          charges := db.charges.modify input.chargeId fun row =>
            { row with refundedMinor := row.refundedMinor + input.amountMinor } }) := by
  obtain ⟨result, after⟩ := r
  simp only [reserve, Tx.bind_ok, insertRefund_ok, addRefunded_ok, Tx.pure_ok]
  constructor
  · rintro ⟨row, mid, ⟨refunds, checks, unique, inserted, written⟩, ⟨⟩, last, ⟨fits, grown⟩, rfl, rfl⟩
    cases written
    cases grown
    exact ⟨refunds, checks, unique, inserted, fits, rfl⟩
  · rintro ⟨refunds, checks, unique, inserted, fits, same⟩
    cases same
    exact ⟨_, _, ⟨refunds, checks, unique, inserted, rfl⟩, (), _, ⟨fits, rfl⟩, rfl, rfl⟩

/-- What a locked charge row makes of a refund: nothing is written, or it had the room and
the refund row and the running total are. -/
theorem decideRefund_ok {refundId : String} {input : OpenRefundInput} {charge : Option ChargeRow}
    {now : Instant} {r : OpenRefundResult × PostgresLedger}
    (decided : decideRefund refundId input charge now db = .ok r) :
    r.2 = db ∨ ∃ row refunds, charge = some row ∧ row.materialised = true ∧
      row.status = .succeeded ∧
      db.refunds.free (some ·.idempotencyKey) refundId input.idempotencyKey = true ∧
      db.refunds.insert? refundId (refundRow input row now) = some refunds ∧
      (∀ row', db.charges.get? input.chargeId = some row' →
        { row' with refundedMinor := row'.refundedMinor + input.amountMinor }.checked = true) ∧
      r.2 = { db with
        refunds
        charges := db.charges.modify input.chargeId fun row =>
          { row with refundedMinor := row.refundedMinor + input.amountMinor } } := by
  unfold decideRefund at decided
  cases refused : refusal input charge with
  | some result =>
      simp only [refused] at decided
      exact .inl (Tx.pure_ok.mp decided).2.symm
  | none =>
      cases charge with
      | none => cases refused
      | some row =>
          simp only [refused] at decided
          obtain ⟨refunds, -, free, inserted, fits, rfl⟩ := reserve_ok.mp decided
          simp only [refusal] at refused
          split at refused
          · cases refused
          rename_i materialised
          split at refused
          · cases refused
          rename_i status
          exact .inr ⟨row, refunds, rfl, by simpa using materialised, not_not.mp status, free,
            inserted, fits, rfl⟩

/-! ## What the transactions answer -/

/-- How an `openCharge` that did not throw ended. -/
inductive ChargeOpened (chargeId : String) (input : OpenChargeInput) (now : Instant)
    (db : PostgresLedger) : OpenChargeResult → PostgresLedger → Prop where
  | mismatch (record : IdempotencyRow)
      (taken : db.idempotency.get? (.charge, input.idempotencyKey) = some record) :
      ChargeOpened chargeId input now db .fingerprintMismatch db
  | replayed (record : IdempotencyRow) (row : ChargeRow)
      (taken : db.idempotency.get? (.charge, input.idempotencyKey) = some record)
      (owner : db.charges.get? record.resourceId = some row) :
      ChargeOpened chargeId input now db
        (.replayed (toCharge record.resourceId row [])
          (toIdempotency (.charge, input.idempotencyKey)
            { record with replays := record.replays + 1 }))
        (bump (.charge, input.idempotencyKey) db)
  | created (currency : String) (charges : Table String ChargeRow)
      (idempotency : Table (Scope × String) IdempotencyRow)
      (claimed : db.idempotency.insert? (.charge, input.idempotencyKey)
        (chargeClaim chargeId input now) = some idempotency)
      (inserted : db.charges.insert? chargeId { openedRow input now with currency } = some charges) :
      ChargeOpened chargeId input now db
        (.created (toCharge chargeId { openedRow input now with currency } []))
        { db with charges, idempotency }

theorem openCharge_opened {chargeId : String} {input : OpenChargeInput} {now : Instant}
    {result : OpenChargeResult} {db' : PostgresLedger}
    (ran : openCharge chargeId input now db = .ok (result, db')) :
    ChargeOpened chargeId input now db result db' := by
  cases taken : db.idempotency.get? (.charge, input.idempotencyKey) with
  | some record =>
      rw [openCharge_taken taken] at ran
      split at ran
      · cases ran
        exact .mismatch record taken
      · cases owner : db.charges.get? record.resourceId with
        | none =>
            rw [owner] at ran
            cases ran
        | some row =>
            rw [owner] at ran
            cases ran
            exact .replayed record row taken owner
  | none =>
      obtain ⟨idempotency, claimed⟩ :=
        Table.insert?_of_fresh taken (chargeClaim chargeId input now)
      rw [openCharge_fresh claimed] at ran
      obtain ⟨r, written, same⟩ := Tx.map_ok.mp ran
      obtain ⟨currency, charges, -, -, -, inserted, rfl⟩ := insertCharge_ok.mp written
      cases same
      exact .created currency charges idempotency claimed inserted

/-- How an `openRefund` that did not throw ended. -/
inductive RefundOpened (refundId : String) (input : OpenRefundInput) (now : Instant)
    (db : PostgresLedger) : OpenRefundResult → PostgresLedger → Prop where
  | mismatch (record : IdempotencyRow)
      (taken : db.idempotency.get? (.refund, input.idempotencyKey) = some record) :
      RefundOpened refundId input now db .fingerprintMismatch db
  | replayed (record : IdempotencyRow) (row : RefundRow)
      (taken : db.idempotency.get? (.refund, input.idempotencyKey) = some record)
      (owner : db.refunds.get? record.resourceId = some row) :
      RefundOpened refundId input now db
        (.replayed (toRefund record.resourceId row)
          (toIdempotency (.refund, input.idempotencyKey)
            { record with replays := record.replays + 1 }))
        (bump (.refund, input.idempotencyKey) db)
  /-- Refused, with the claim of the key kept. -/
  | refused (result : OpenRefundResult) (idempotency : Table (Scope × String) IdempotencyRow)
      (claimed : db.idempotency.insert? (.refund, input.idempotencyKey)
        (refundClaim refundId input now) = some idempotency)
      (why : refusal input (db.charges.get? input.chargeId) = some result) :
      RefundOpened refundId input now db result { db with idempotency }
  | created (charge : ChargeRow) (refunds : Table String RefundRow)
      (idempotency : Table (Scope × String) IdempotencyRow)
      (claimed : db.idempotency.insert? (.refund, input.idempotencyKey)
        (refundClaim refundId input now) = some idempotency)
      (found : db.charges.get? input.chargeId = some charge)
      (room : refusal input (some charge) = none)
      (inserted : db.refunds.insert? refundId (refundRow input charge now) = some refunds) :
      RefundOpened refundId input now db
        (.created (toRefund refundId (refundRow input charge now)))
        { refunds
          idempotency
          charges := db.charges.modify input.chargeId fun row =>
            { row with refundedMinor := row.refundedMinor + input.amountMinor } }

theorem openRefund_opened {refundId : String} {input : OpenRefundInput} {now : Instant}
    {result : OpenRefundResult} {db' : PostgresLedger}
    (ran : openRefund refundId input now db = .ok (result, db')) :
    RefundOpened refundId input now db result db' := by
  cases taken : db.idempotency.get? (.refund, input.idempotencyKey) with
  | some record =>
      rw [openRefund_taken taken] at ran
      split at ran
      · cases ran
        exact .mismatch record taken
      · cases owner : db.refunds.get? record.resourceId with
        | none =>
            rw [owner] at ran
            cases ran
        | some row =>
            rw [owner] at ran
            cases ran
            exact .replayed record row taken owner
  | none =>
      obtain ⟨idempotency, claimed⟩ :=
        Table.insert?_of_fresh taken (refundClaim refundId input now)
      rw [openRefund_fresh claimed] at ran
      unfold decideRefund at ran
      cases why : refusal input (db.charges.get? input.chargeId) with
      | some refused =>
          simp only [why] at ran
          obtain ⟨rfl, rfl⟩ := Tx.pure_ok.mp ran
          exact .refused refused idempotency claimed why
      | none =>
          cases found : db.charges.get? input.chargeId with
          | none =>
              rw [found] at why
              cases why
          | some charge =>
              rw [found] at why
              simp only [found, why] at ran
              obtain ⟨refunds, -, -, inserted, -, same⟩ := reserve_ok.mp ran
              cases same
              exact .created charge refunds idempotency claimed found why inserted

end Statements

end PostgresLedger

end Atrium.Paygate
