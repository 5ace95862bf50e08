/-
# Payments -- the money path, outbound and inbound

Outbound, `pay` commits the payment row and its key before the provider is
called; the row it decides on is read without a lock, so what follows the read is
`payLoaded`.  Inbound, a delivery is recorded by `ingest` and applied later by
`applyInTransaction`, where the insert into `payment_events` is the gate of every
effect; the polls pass the same gate.  `settleCancellation` and the two outcomes
of a refund call are the remaining transactions.
-/
import Atrium.Bookings
import Atrium.PaymentEffects

namespace Atrium

open Atrium.Base

set_option autoImplicit false

/-! ## Lookups -/

def paymentByKey (db : Db) (key : String) : Option (Uuid × Payment) :=
  (db.payments.select fun _ p => decide (p.idempotencyKey = key)).head?

def paymentByChargeId (db : Db) (chargeId : String) : Option (Uuid × Payment) :=
  (db.payments.select fun _ p => decide (p.chargeId = some chargeId)).head?

/-- `LIMIT 1` without an order: `choice` is the row Postgres would return, if it
qualifies. -/
def capturedPayment (db : Db) (bookingId choice : Uuid) : Option (Uuid × Payment) :=
  let rows := db.payments.select fun _ p => decide (p.bookingId = bookingId ∧ p.status = .succeeded)
  (rows.find? fun row => row.1 = choice).or rows.head?

/-! ## Outbound: pay -/

/-- The tenant filter of the pay route: a principal without its venue sees nothing. -/
def paymentScope (principal : AuthPrincipal) (b : Booking) : Bool :=
  match principal.role with
  | .platformAdmin => true
  | .venueAdmin | .venueStaff =>
      match principal.venueId with
      | some venueId => decide (b.venueId = venueId)
      | none => false
  | .customer => decide (b.userId = principal.userId)

def loadOwned (bookingId : UuidText) (principal : AuthPrincipal) : Transaction Booking :=
  Tx.fetch (fun db => (db.bookings.get? bookingId.value).filter (paymentScope principal))
    (.notFound "Not Found")

/-- The generated key and the instants one pay transaction reads. -/
structure PayStamp where
  paymentId : Uuid
  startedAt : Instant
  now : Instant

inductive Prepared where
  | settled (payment : Uuid × Payment)
  | charge (booking : Booking) (payment : Uuid × Payment)

def newPayment (bookingId : Uuid) (key : String) (amountMinor : Minor) (createdAt : Instant) :
    Payment where
  bookingId := bookingId
  idempotencyKey := key
  chargeId := none
  amountMinor := amountMinor
  status := .pending
  refundId := none
  refundIdempotencyKey := none
  refundedMinor := 0
  failureReason := none
  createdAt := createdAt
  updatedAt := createdAt

/-- `INSERT … ON CONFLICT (idempotency_key) DO NOTHING`. -/
def insertPayment (paymentId : Uuid) (p : Payment) : Transaction Unit := do
  let existing ← Tx.read (paymentByKey · p.idempotencyKey)
  match existing with
  | some _ => pure ()
  | none => do
      let payments ← Tx.fetch (fun db => db.payments.insert? paymentId p) (.database "23505")
      Tx.write fun db => { db with payments := payments }

/-- What pay does with a booking it may charge: the payment row first, then the
move of a held booking. -/
def recordPayment (bookingId : UuidText) (principal : AuthPrincipal) (booking : Booking)
    (stamp : PayStamp) : Transaction Prepared := do
  insertPayment stamp.paymentId
    (newPayment bookingId.value (chargeKey bookingId.text) booking.totalMinor stamp.startedAt)
  let payment ← Tx.fetch (paymentByKey · (chargeKey bookingId.text))
    (.conflict "Could not record the payment attempt" .none)
  if booking.status = .held then
    let _ ← transition stamp.now
      { bookingId := bookingId, target := .pendingPayment
        actor := ⟨.user, some principal.userId⟩, reason := "payment.initiated"
        expectedFrom := some [.held], patch := .empty }
    pure (.charge booking payment)
  else pure (.charge booking payment)

/-- The pay transaction once it has read the booking and the payment, neither of
which it has locked. -/
def payLoaded (bookingId : UuidText) (principal : AuthPrincipal) (booking : Booking)
    (existing : Option (Uuid × Payment)) (stamp : PayStamp) : Transaction Prepared := do
  match existing.filter fun payment => decide (payment.2.status ≠ .pending) with
  | some payment => pure (.settled payment)
  | none =>
      if booking.status = .held ∧ booking.lapsedAt stamp.now then
        -- The transition is rolled back with the transaction the throw ends.
        let _ ← transition stamp.now
          { bookingId := bookingId, target := .expired, actor := systemActor
            reason := "hold.expired.on_pay", expectedFrom := some [.held], patch := .empty }
        Tx.abort (.conflict "This hold has expired and cannot be paid for. Create a new one."
          (.state bookingId.text .expired))
      else if booking.status = .held ∨ booking.status = .pendingPayment then
        recordPayment bookingId principal booking stamp
      else
        Tx.abort (.conflict ("Cannot pay for a booking in state " ++ booking.status.label)
          (.state bookingId.text booking.status))

/-- The transaction of one pay request, up to the call of the provider. -/
def payPrepare (bookingId : UuidText) (principal : AuthPrincipal) (stamp : PayStamp) :
    Transaction Prepared := do
  let booking ← loadOwned bookingId principal
  let existing ← Tx.read (paymentByKey · (chargeKey bookingId.text))
  payLoaded bookingId principal booking existing stamp

/-- What the provider is asked to charge. -/
structure ChargeRequest where
  idempotencyKey : String
  reference : String
  amountMinor : Minor
  currency : String
  deriving DecidableEq

def chargeRequest (bookingId : UuidText) (booking : Booking) (payment : Uuid × Payment) :
    ChargeRequest :=
  ⟨chargeKey bookingId.text, bookingId.text, payment.2.amountMinor, booking.currency⟩

/-- Set the charge id, where the payment has none. -/
def adopted (chargeId : String) (now : Instant) (p : Payment) : Payment :=
  if p.chargeId = none then { p with chargeId := some chargeId, updatedAt := now } else p

/-- The guarded update once the provider has answered. -/
def bindCharge (paymentId : Uuid) (chargeId : String) (now : Instant) : Transaction Unit :=
  updatePayment paymentId (adopted chargeId now)

/-! ## Inbound: recording a delivery -/

structure WebhookFields where
  chargeId : Option String
  reference : Option String
  event : Option String
  refundId : Option String
  amountMinor : Option Int

/-- The members of a body the code reads; `none` is the `TypeError` of `null`. -/
def readFields : Json → Option WebhookFields
  | .null => none
  | body => some
      { chargeId := Json.asString (body.get? "charge_id")
        reference := Json.asString (body.get? "reference")
        event := Json.asString (body.get? "event")
        refundId := Json.asString (body.get? "refund_id")
        amountMinor := Json.asRounded (body.get? "amount_minor") }

def supportedEvent (event : String) : Bool := (EventName.ofLabel event).isSome

/-- What a webhook request carries: whether its signature is over these bytes,
what `JSON.parse` makes of them, and the delivery id, from the header or generated. -/
structure WebhookRequest where
  signed : Bool
  body : Option Json
  deliveryId : String

inductive IngestStatus where
  | rejected
  | accepted (rowId : Option Uuid)
  | duplicate
  deriving DecidableEq

/-- `INSERT … ON CONFLICT (delivery_id) DO NOTHING RETURNING id`. -/
def recordDelivery (rowId : Uuid) (row : WebhookDelivery) : Transaction (Option Uuid) := do
  let known ← Tx.read fun db =>
    (db.webhookDeliveries.select fun _ d => decide (d.deliveryId = row.deliveryId)).head?
  match known with
  | some _ => pure none
  | none => do
      let deliveries ← Tx.fetch (fun db => db.webhookDeliveries.insert? rowId row)
        (.database "23505")
      Tx.write fun db => { db with webhookDeliveries := deliveries }
      pure (some rowId)

def deliveryRow (request : WebhookRequest) (fields : Option WebhookFields) (error : Option String)
    (processed : Bool) (now : Instant) : WebhookDelivery where
  deliveryId := request.deliveryId
  chargeId := fields.bind WebhookFields.chargeId
  reference := fields.bind WebhookFields.reference
  event := fields.bind WebhookFields.event
  signatureValid := request.signed
  rawBody := request.body
  receivedAt := now
  processedAt := if processed then some now else none
  error := error

/-- Record an inbound delivery.  A bad signature is recorded and then refused, so
it is an answer here and not an abort. -/
def ingest (env : Env) (request : WebhookRequest) (rowId : Uuid) (now : Instant) :
    Transaction IngestStatus := do
  if env.paygateSecret.getD "" = "" then
    Tx.abort (.unavailable "PAYGATE_SECRET is not configured" none)
  else if request.signed = false then
    let _ ← recordDelivery rowId (deliveryRow request none (some "invalid_signature") true now)
    pure .rejected
  else
    match request.body with
    | none => do
        let _ ← recordDelivery rowId (deliveryRow request none (some "unparseable_body") true now)
        pure (.accepted none)
    | some body => do
        let fields ← Tx.fetch (fun _ => readFields body) (.internal "TypeError")
        let unsupported := fields.event.any fun event => !supportedEvent event
        let row ← recordDelivery rowId (deliveryRow request (some fields)
          (if unsupported then some "unsupported_event" else none) unsupported now)
        match row with
        | none => pure .duplicate
        | some id => pure (.accepted (some id))

/-! ## Inbound: applying a delivery -/

/-- A delivery the worker can act on. -/
structure WebhookEvent where
  chargeId : String
  event : EventName
  reference : Option String
  refundId : Option String
  amountMinor : Option Int

/-- `none` where the charge id or a supported event is missing. -/
def WebhookFields.supported (fields : WebhookFields) : Option WebhookEvent :=
  match fields.chargeId, fields.event.bind EventName.ofLabel with
  | some chargeId, some event =>
      some ⟨chargeId, event, fields.reference, fields.refundId, fields.amountMinor⟩
  | _, _ => none

@[simps] def Db.modifyDelivery (db : Db) (id : Uuid) (f : WebhookDelivery → WebhookDelivery) : Db :=
  { db with webhookDeliveries := db.webhookDeliveries.modify id f }

@[simps] def Db.claim (db : Db) (e : PaymentEvent) : Db :=
  { db with paymentEvents := db.paymentEvents ++ [e] }

def finishDelivery (rowId : Uuid) (now : Instant) (error : Option String) : Transaction Unit :=
  Tx.write (·.modifyDelivery rowId fun d => { d with processedAt := some now, error := error })

/-- The row and key a reference names, if the reference is a uuid. -/
def paymentByReference (db : Db) (reference : String) : Option (Uuid × Payment) :=
  match uuidOf reference with
  | some bookingId =>
      (db.payments.select fun _ p =>
        decide (p.bookingId = bookingId ∧ p.idempotencyKey = chargeKey reference)).head?
  | none => none

/-- Claim the pending payment for a booking by reference. -/
def adoptChargeByReference (reference chargeId : String) (now : Instant) :
    Transaction (Option (Uuid × Payment)) := do
  let found ← Tx.read (paymentByReference · reference)
  match found with
  | none => pure none
  | some row =>
      if row.2.chargeId = none then do
        updatePayment row.1 (adopted chargeId now)
        pure (some (row.1, adopted chargeId now row.2))
      else pure (if row.2.chargeId = some chargeId then some row else none)

/-- `charge_id` first; `reference` second. -/
def findPayment (e : WebhookEvent) (now : Instant) : Transaction (Option (Uuid × Payment)) := do
  let found ← Tx.read (paymentByChargeId · e.chargeId)
  match found, e.reference with
  | some payment, _ => pure (some payment)
  | none, some reference => adoptChargeByReference reference e.chargeId now
  | none, none => pure none

/-- `INSERT INTO payment_events … ON CONFLICT DO NOTHING`: did this insert win? -/
def claimEvent (e : PaymentEvent) : Transaction Bool := do
  let taken ← Tx.read fun db => decide (e ∈ db.paymentEvents)
  if taken then pure false
  else do
    Tx.write (·.claim e)
    pure true

/-- The effect of an event whose claim won. -/
def applyEffect (payment : Uuid × Payment) (e : WebhookEvent) (now : Instant) :
    Transaction (Option RefundInstruction) :=
  match e.event with
  | .chargeSucceeded => onChargeSucceeded payment e.chargeId now
  | .chargeFailed => do
      onChargeFailed payment now
      pure none
  | .refundSucceeded => do
      onRefundSucceeded payment e.refundId e.amountMinor now
      pure none

/-- What applying an event came to. -/
inductive Verdict where
  | unknownCharge
  | duplicateEffect
  | applied (instruction : Option RefundInstruction)

/-- From the parsed event to its effect, all but the delivery's own row. -/
def applyEvent (e : WebhookEvent) (now : Instant) : Transaction Verdict := do
  let found ← findPayment e now
  match found with
  | none => pure .unknownCharge
  | some payment => do
      let claimed ← claimEvent ⟨e.chargeId, e.event⟩
      if claimed then do
        let instruction ← applyEffect payment e now
        pure (.applied instruction)
      else pure .duplicateEffect

/-- The verdict, written on the delivery's row. -/
def settleDelivery (rowId : Uuid) (e : WebhookEvent) (now : Instant) (verdict : Verdict) :
    Transaction (Option RefundInstruction) :=
  match verdict with
  | .unknownCharge => do
      -- Stays unprocessed: the drainer retries it.
      Tx.write (·.modifyDelivery rowId fun d =>
        { d with chargeId := some e.chargeId, reference := e.reference
                 error := some "unknown_charge" })
      pure none
  | .duplicateEffect => do
      finishDelivery rowId now (some "duplicate_effect")
      pure none
  | .applied instruction => do
      finishDelivery rowId now none
      pure instruction

/-- `JSON.parse(delivery.rawBody)` and the members read off it; either may throw. -/
def deliveryFields (d : WebhookDelivery) : Option WebhookFields := d.rawBody.bind readFields

/-- Apply one recorded delivery. -/
def applyInTransaction (rowId : Uuid) (now : Instant) : Transaction (Option RefundInstruction) := do
  let found ← Tx.read fun db =>
    (db.webhookDeliveries.get? rowId).filter fun d => d.processedAt.isNone
  match found with
  | none => pure none
  | some delivery => do
      let fields ← Tx.fetch (fun _ => deliveryFields delivery) (.internal "SyntaxError")
      match fields.supported with
      | none => do
          finishDelivery rowId now (some "unsupported_event")
          pure none
      | some e => do
          let verdict ← applyEvent e now
          settleDelivery rowId e now verdict

/-! ## Refunds -/

/-- Set the refund id, where the payment has none. -/
def boundRefund (refundId : String) (now : Instant) (p : Payment) : Payment :=
  if p.refundId = none then { p with refundId := some refundId, updatedAt := now } else p

/-- The provider accepted the refund. -/
def refundAccepted (paymentId : Uuid) (refundId : String) (now : Instant) : Transaction Unit :=
  updatePayment paymentId (boundRefund refundId now)

/-- The refund call failed, for the reason given. -/
def refundRejected (paymentId : Uuid) (message : String) (now : Instant) : Transaction Unit :=
  updatePayment paymentId fun p =>
    { p with failureReason := some ("refund rejected: " ++ message), updatedAt := now }

structure SplitTotals where
  roomMinor : Minor
  equipmentMinor : Minor

/-- Split a booking total back into its room and equipment components. -/
def splitTotals (db : Db) (bookingId : Uuid) (booking : Booking) : SplitTotals :=
  let items := db.bookingLineItems.filter fun item => item.bookingId = bookingId
  let half := halfHours booking.startsAt booking.endsAt
  let equipment := (items.map fun item => (half * item.rateMinor * item.quantity).tdiv 2).sum
  ⟨max 0 (booking.totalMinor - equipment), equipment⟩

/-- The refund a cancellation of this row is worth under its snapshot. -/
def cancellationRefund (db : Db) (bookingId : Uuid) (booking : Booking) (tiers : Tiers)
    (now : Instant) : Except ApiError RefundBreakdown :=
  let split := splitTotals db bookingId booking
  computeRefund split.roomMinor split.equipmentMinor tiers.list booking.startsAt now

/-- `parseSnapshot`, where it returns. -/
def readSnapshot (value : Option Json) : Transaction (Option PolicySnapshot) :=
  if snapshotThrows value then Tx.abort (.internal noLastTier) else pure (parseSnapshot value)

/-- The money half of a cancellation. `choice` is the payment `LIMIT 1` returns. -/
def settleCancellation (bookingId choice : Uuid) (now : Instant) :
    Transaction (Option (RefundInstruction × RefundBreakdown)) := do
  let found ← lockBooking bookingId
  match found with
  | none => pure none
  | some booking => do
      let captured ← Tx.read (capturedPayment · bookingId choice)
      match captured with
      | none => pure none
      | some payment =>
          match payment.2.chargeId, payment.2.refundIdempotencyKey with
          | some chargeId, none => do
              let parsed ← readSnapshot booking.policySnapshot
              match parsed with
              | none => pure none
              | some snapshot => do
                  let worth ← Tx.read fun db =>
                    cancellationRefund db bookingId booking snapshot.tiers now
                  match worth with
                  | .error e => Tx.abort e
                  | .ok breakdown => do
                      updatePayment payment.1 (mintRefundKey (refundKey chargeId) now)
                      insertAudit ⟨bookingId, systemActor, booking.status, booking.status,
                        "refund.initiated.cancellation"⟩
                      pure (some (⟨payment.1, chargeId, bookingId, breakdown.totalRefundMinor,
                        refundKey chargeId, "cancellation"⟩, breakdown))
          | _, _ => pure none

/-! ## The polls -/

/-- The rows `settleAcceptedCharges` may select. -/
def chargesToPoll (env : Env) (db : Db) (now : Instant) : List (Uuid × Payment) :=
  db.payments.select fun _ p => decide (p.status = .pending ∧ p.chargeId ≠ none ∧
    p.createdAt < now - env.chargePollAfterSeconds * 1000)

/-- The rows `settleAcceptedRefunds` may select. -/
def refundsToPoll (env : Env) (db : Db) (now : Instant) : List (Uuid × Payment) :=
  db.payments.select fun _ p => decide (p.refundId ≠ none ∧ p.status ≠ .refunded ∧
    p.updatedAt < now - env.refundPollAfterSeconds * 1000)

/-- A poll's answer for a charge, through the same gate a delivery passes.  The
payment is the row the poll selected; the pair says whether this call applied it. -/
def settleCharge (payment : Uuid × Payment) (chargeId : String) (captured : Bool) (now : Instant) :
    Transaction (Bool × Option RefundInstruction) := do
  let claimed ← claimEvent ⟨chargeId, if captured then .chargeSucceeded else .chargeFailed⟩
  if claimed then
    if captured then do
      let instruction ← onChargeSucceeded payment chargeId now
      pure (true, instruction)
    else do
      onChargeFailed payment now
      pure (true, none)
  else pure (false, none)

/-- The provider does not recognise the charge: no state change, a reason. -/
def chargeUnknown (paymentId : Uuid) (now : Instant) : Transaction Unit :=
  updatePayment paymentId fun p =>
    { p with
      failureReason := some "provider does not recognise this charge id. It was issued by the provider, so this is unexplained rather than absent — reconciliation reports it as charge_accepted_not_settled."
      updatedAt := now }

/-- A poll's answer for a settled refund. -/
def settleRefundPoll (payment : Uuid × Payment) (chargeId : String) (refundId : Option String)
    (amountMinor : Int) (now : Instant) : Transaction Bool := do
  let claimed ← claimEvent ⟨chargeId, .refundSucceeded⟩
  if claimed then do
    onRefundSucceeded payment refundId (some amountMinor) now
    pure true
  else pure false

/-! ## What a returned call has done -/

/-- A payment row under `p`'s key stands in `db'`: the one that was there, or `p`. -/
def PaymentRecorded (db : Db) (paymentId : Uuid) (p : Payment) (db' : Db) : Prop :=
  ((∃ row, paymentByKey db p.idempotencyKey = some row) ∧ db' = db) ∨
    (paymentByKey db p.idempotencyKey = none ∧
      ∃ payments, db.payments.insert? paymentId p = some payments ∧
        db' = { db with payments := payments })

theorem insertPayment_ok {paymentId : Uuid} {p : Payment} {db db' : Db} {u : Unit}
    (returned : insertPayment paymentId p db = .ok (u, db')) :
    PaymentRecorded db paymentId p db' := by
  cases existing : paymentByKey db p.idempotencyKey with
  | some row =>
      simp only [insertPayment, Tx.read_bind, existing, Tx.pure_ok] at returned
      exact .inl ⟨⟨row, existing⟩, returned.2.symm⟩
  | none =>
      simp only [insertPayment, Tx.read_bind, existing, Tx.bind_ok, Tx.fetch_ok,
        Tx.write_ok] at returned
      obtain ⟨payments, _, ⟨inserted, rfl⟩, rfl⟩ := returned
      exact .inr ⟨existing, payments, inserted, rfl⟩

/-- A pay transaction that returned: a replay that changed nothing, or a payment
under the request's key with, for a booking read as held, its move. -/
theorem payLoaded_ok {bookingId : UuidText} {principal : AuthPrincipal} {booking : Booking}
    {existing : Option (Uuid × Payment)} {stamp : PayStamp} {db db' : Db} {r : Prepared}
    (returned : payLoaded bookingId principal booking existing stamp db = .ok (r, db')) :
    (db' = db ∧ ∃ payment, existing = some payment ∧ r = .settled payment) ∨
    ∃ recorded payment,
      PaymentRecorded db stamp.paymentId (newPayment bookingId.value (chargeKey bookingId.text)
        booking.totalMinor stamp.startedAt) recorded ∧
      paymentByKey recorded (chargeKey bookingId.text) = some payment ∧
      r = .charge booking payment ∧
      ((booking.status = .held ∧ booking.lapsedAt stamp.now = false ∧
          (∃ b, db.bookings.get? bookingId.value = some b ∧ b.status = .held) ∧
          db' = recorded.move bookingId.value .held (movedRow .pendingPayment stamp.now)
            .pendingPayment ⟨.user, some principal.userId⟩ "payment.initiated") ∨
        (booking.status = .pendingPayment ∧ db' = recorded)) := by
  unfold payLoaded at returned
  cases settled : existing.filter fun payment => decide (payment.2.status ≠ .pending) with
  | some payment =>
      simp only [settled, Tx.pure_ok] at returned
      exact .inl ⟨returned.2.symm, payment, (Option.filter_eq_some_iff.mp settled).1,
        returned.1.symm⟩
  | none =>
      simp only [settled, Tx.ite_ok, Tx.bind_ok, Tx.abort_ok, and_false, false_or, exists_false,
        or_false] at returned
      obtain ⟨live, status, recorded⟩ := returned
      simp only [recordPayment, Tx.bind_ok, Tx.fetch_ok] at recorded
      obtain ⟨_, t, inserted, payment, _, ⟨found, rfl⟩, rest⟩ := recorded
      have kept : t.bookings = db.bookings := by
        rcases insertPayment_ok inserted with ⟨-, rfl⟩ | ⟨-, _, -, rfl⟩ <;> rfl
      refine .inr ⟨t, payment, insertPayment_ok inserted, found, ?_⟩
      by_cases held : booking.status = .held
      · simp only [held, if_true, Tx.bind_ok, transition_ok, Tx.pure_ok, Option.some.injEq,
          forall_eq', List.mem_singleton] at rest
        obtain ⟨_, _, ⟨b, here, status', -, rfl, rfl⟩, rfl, rfl⟩ := rest
        rw [kept] at here
        refine ⟨rfl, .inl ⟨held, by simpa [held] using live, ⟨b, here, status'⟩, ?_⟩⟩
        simp only [Db.move, status']
        rfl
      · simp only [held, if_false, Tx.pure_ok] at rest
        exact ⟨rest.1.symm, .inr ⟨status.resolve_left held, rest.2.symm⟩⟩

theorem recordDelivery_ok {rowId : Uuid} {row : WebhookDelivery} {db db' : Db}
    {r : Option Uuid} (returned : recordDelivery rowId row db = .ok (r, db')) :
    (r = none ∧ db' = db ∧ ∃ id d, db.webhookDeliveries.get? id = some d ∧
        d.deliveryId = row.deliveryId) ∨
      (r = some rowId ∧ ∃ deliveries, db.webhookDeliveries.insert? rowId row = some deliveries ∧
        db' = { db with webhookDeliveries := deliveries }) := by
  cases known : (db.webhookDeliveries.select fun _ d =>
      decide (d.deliveryId = row.deliveryId)).head? with
  | some found =>
      simp only [recordDelivery, Tx.read_bind, known, Tx.pure_ok] at returned
      have here := Table.mem_select.mp (List.mem_of_head? known)
      exact .inl ⟨returned.1.symm, returned.2.symm, found.1, found.2, here.1, by simpa using here.2⟩
  | none =>
      simp only [recordDelivery, Tx.read_bind, known, Tx.bind_ok, Tx.fetch_ok, Tx.write_ok,
        Tx.pure_ok] at returned
      obtain ⟨deliveries, _, ⟨inserted, rfl⟩, _, _, rfl, rfl, rfl⟩ := returned
      exact .inr ⟨rfl, deliveries, inserted, rfl⟩

/-- The fields of a request's body, when its signature is good and they can be read. -/
def signedFields (request : WebhookRequest) : Option WebhookFields :=
  if request.signed then request.body.bind readFields else none

/-- A webhook request that was answered recorded at most its own row. -/
theorem ingest_ok {env : Env} {request : WebhookRequest} {rowId : Uuid} {now : Instant}
    {db db' : Db} {r : IngestStatus} (returned : ingest env request rowId now db = .ok (r, db')) :
    db' = db ∨ ∃ error processed deliveries,
      db.webhookDeliveries.insert? rowId
        (deliveryRow request (signedFields request) error processed now) = some deliveries ∧
      db' = { db with webhookDeliveries := deliveries } ∧
      (request.signed = true → processed = false → ∃ body fields,
        request.body = some body ∧ readFields body = some fields) ∧
      (request.signed = true → processed = true →
        (signedFields request).bind WebhookFields.supported = none) := by
  unfold ingest at returned
  rw [Tx.ite_ok, Tx.ite_ok] at returned
  rcases returned with ⟨-, failed⟩ | ⟨-, ⟨unsigned, returned⟩ | ⟨signed, returned⟩⟩
  · simp at failed
  · simp only [Tx.bind_ok, Tx.pure_ok] at returned
    obtain ⟨_, _, recorded, -, rfl⟩ := returned
    rcases recordDelivery_ok recorded with ⟨-, rfl, -⟩ | ⟨-, deliveries, inserted, rfl⟩
    · exact .inl rfl
    · refine .inr ⟨_, _, deliveries, by simpa [signedFields, unsigned] using inserted, rfl, ?_, ?_⟩
        <;> simp [unsigned]
  · have good : request.signed = true := by simpa using signed
    cases body : request.body with
    | none =>
        simp only [body, Tx.bind_ok, Tx.pure_ok] at returned
        obtain ⟨_, _, recorded, -, rfl⟩ := returned
        rcases recordDelivery_ok recorded with ⟨-, rfl, -⟩ | ⟨-, deliveries, inserted, rfl⟩
        · exact .inl rfl
        · refine .inr ⟨_, _, deliveries, by simpa [signedFields, body] using inserted, rfl, ?_, ?_⟩
            <;> simp [signedFields, body]
    | some j =>
        simp only [body, Tx.bind_ok, Tx.fetch_ok] at returned
        obtain ⟨fields, _, ⟨read, rfl⟩, row, t, recorded, rest⟩ := returned
        have kept : db' = t := by
          cases row with
          | none => exact (Tx.pure_ok.mp rest).2.symm
          | some id => exact (Tx.pure_ok.mp rest).2.symm
        subst kept
        have known : signedFields request = some fields := by
          simp [signedFields, good, body, read]
        rcases recordDelivery_ok recorded with ⟨-, rfl, -⟩ | ⟨-, deliveries, inserted, rfl⟩
        · exact .inl rfl
        · refine .inr ⟨_, _, deliveries, by rw [known]; exact inserted, rfl, ?_, ?_⟩
          · exact fun _ _ => ⟨j, fields, rfl, read⟩
          · intro _ unsupported
            rw [known, Option.bind_some]
            simp only [Option.any_eq_true, supportedEvent, Bool.not_eq_true',
              Option.isSome_eq_false_iff, Option.isNone_iff_eq_none] at unsupported
            obtain ⟨event, present, unknown⟩ := unsupported
            simp [WebhookFields.supported, present, unknown]

/-! ## One event, applied -/

theorem paymentByKey_some {db : Db} {key : String} {row : Uuid × Payment}
    (found : paymentByKey db key = some row) :
    db.payments.get? row.1 = some row.2 ∧ row.2.idempotencyKey = key := by
  simpa using Table.mem_select.mp (List.mem_of_head? found)

theorem paymentByKey_none {db : Db} {key : String} (missing : paymentByKey db key = none)
    {id : Uuid} {p : Payment} (here : db.payments.get? id = some p) : p.idempotencyKey ≠ key := by
  intro same
  have among := Table.mem_select (p := fun _ p => decide (p.idempotencyKey = key)).mpr
    ⟨here, by simpa using same⟩
  rw [List.head?_eq_none_iff.mp missing] at among
  cases among

theorem paymentByChargeId_some {db : Db} {chargeId : String} {row : Uuid × Payment}
    (found : paymentByChargeId db chargeId = some row) :
    db.payments.get? row.1 = some row.2 ∧ row.2.chargeId = some chargeId := by
  simpa using Table.mem_select.mp (List.mem_of_head? found)

theorem paymentByChargeId_none {db : Db} {chargeId : String}
    (missing : paymentByChargeId db chargeId = none) {id : Uuid} {p : Payment}
    (here : db.payments.get? id = some p) : p.chargeId ≠ some chargeId := by
  intro same
  have among := Table.mem_select (p := fun _ p => decide (p.chargeId = some chargeId)).mpr
    ⟨here, by simpa using same⟩
  rw [List.head?_eq_none_iff.mp missing] at among
  cases among

theorem paymentByReference_some {db : Db} {reference : String} {row : Uuid × Payment}
    (found : paymentByReference db reference = some row) :
    db.payments.get? row.1 = some row.2 ∧ uuidOf reference = some row.2.bookingId ∧
      row.2.idempotencyKey = chargeKey reference := by
  unfold paymentByReference at found
  cases spelled : uuidOf reference with
  | none => simp [spelled] at found
  | some bookingId =>
      simp only [spelled] at found
      have here := Table.mem_select.mp (List.mem_of_head? found)
      simp only [decide_eq_true_eq] at here
      exact ⟨here.1, by rw [here.2.1], here.2.2⟩

/-- How an event finds its payment: none, the one with its charge id, or a pending
one its reference names, which it adopts. -/
theorem findPayment_ok {e : WebhookEvent} {now : Instant} {db db' : Db}
    {r : Option (Uuid × Payment)} (returned : findPayment e now db = .ok (r, db')) :
    (r = none ∧ db' = db ∧ paymentByChargeId db e.chargeId = none) ∨
    (∃ row, r = some row ∧ db' = db ∧ db.payments.get? row.1 = some row.2 ∧
      row.2.chargeId = some e.chargeId) ∨
    (∃ row reference, e.reference = some reference ∧
      paymentByChargeId db e.chargeId = none ∧ paymentByReference db reference = some row ∧
      row.2.chargeId = none ∧ r = some (row.1, adopted e.chargeId now row.2) ∧
      paymentFits db row.1 (adopted e.chargeId now row.2) = true ∧
      db' = db.modifyPayment row.1 (adopted e.chargeId now)) := by
  cases found : paymentByChargeId db e.chargeId with
  | some row =>
      simp only [findPayment, Tx.read_bind, found, Tx.pure_ok] at returned
      have here := paymentByChargeId_some found
      exact .inr (.inl ⟨row, returned.1.symm, returned.2.symm, here.1, here.2⟩)
  | none =>
      cases named : e.reference with
      | none =>
          simp only [findPayment, Tx.read_bind, found, named, Tx.pure_ok] at returned
          exact .inl ⟨returned.1.symm, returned.2.symm, rfl⟩
      | some reference =>
          simp only [findPayment, Tx.read_bind, found, named, adoptChargeByReference] at returned
          cases adopt : paymentByReference db reference with
          | none =>
              simp only [adopt, Tx.pure_ok] at returned
              exact .inl ⟨returned.1.symm, returned.2.symm, rfl⟩
          | some row =>
              simp only [adopt] at returned
              have here := paymentByReference_some adopt
              by_cases unbound : row.2.chargeId = none
              · simp only [unbound, if_true, Tx.bind_ok, updatePayment_ok, Tx.pure_ok] at returned
                obtain ⟨_, _, ⟨fits, rfl⟩, rfl, rfl⟩ := returned
                exact .inr (.inr ⟨row, reference, rfl, rfl, adopt, unbound, rfl,
                  fits row.2 here.1, rfl⟩)
              · simp only [unbound, if_false, Tx.pure_ok] at returned
                obtain ⟨rfl, rfl⟩ := returned
                by_cases own : row.2.chargeId = some e.chargeId
                · exact absurd own (paymentByChargeId_none found here.1)
                · exact .inl ⟨by simp [own], rfl, rfl⟩

theorem claimEvent_ok {e : PaymentEvent} {db db' : Db} {won : Bool} :
    claimEvent e db = .ok (won, db') ↔
      (won = false ∧ e ∈ db.paymentEvents ∧ db' = db) ∨
        (won = true ∧ e ∉ db.paymentEvents ∧ db' = db.claim e) := by
  by_cases taken : e ∈ db.paymentEvents
  · simp only [claimEvent, Tx.read_bind, taken, decide_true, if_true, Tx.pure_ok]
    grind
  · simp only [claimEvent, Tx.read_bind, taken, decide_false, Bool.false_eq_true, if_false,
      Tx.write_bind, Tx.pure_ok]
    grind

/-- The gate and what follows it: an event no one had applied, claimed and applied
to a payment in one transaction. -/
def Applied (payment : Uuid × Payment) (e : WebhookEvent) (now : Instant) (db : Db)
    (r : Option RefundInstruction) (db' : Db) : Prop :=
  ⟨e.chargeId, e.event⟩ ∉ db.paymentEvents ∧
    applyEffect payment e now (db.claim ⟨e.chargeId, e.event⟩) = .ok (r, db')

/-- What an applied event has done, over the database with its claim. -/
inductive Consequence (payment : Uuid × Payment) (e : WebhookEvent) (now : Instant) (db : Db) :
    Option RefundInstruction → Db → Prop
  | confirmed (b : Booking) (snapshot : PolicySnapshot) :
      e.event = .chargeSucceeded →
      (∀ p, db.payments.get? payment.1 = some p →
        paymentFits db payment.1 (markSucceeded e.chargeId now p) = true) →
      db.bookings.get? payment.2.bookingId = some b → b.status = .pendingPayment →
      b.lapsedAt now = false →
      Consequence payment e now db none
        ((db.modifyPayment payment.1 (markSucceeded e.chargeId now)).move payment.2.bookingId
          .pendingPayment (confirmedRow snapshot now) .confirmed paygateActor "payment.captured")
  | late (b : Booking) :
      e.event = .chargeSucceeded →
      (∀ p, db.payments.get? payment.1 = some p →
        paymentFits db payment.1 (markSucceeded e.chargeId now p) = true) →
      db.bookings.get? payment.2.bookingId = some b →
      ¬ (b.status = .pendingPayment ∧ b.lapsedAt now = false) →
      Consequence payment e now db
        (some ⟨payment.1, e.chargeId, payment.2.bookingId, payment.2.amountMinor,
          refundKey e.chargeId, "hold_not_confirmable"⟩)
        (lateCharge db payment e.chargeId now b.status)
  | declined (b : Booking) :
      e.event = .chargeFailed →
      db.bookings.get? payment.2.bookingId = some b → b.status = .pendingPayment →
      Consequence payment e now db none
        ((db.modifyPayment payment.1 (markFailed now)).move payment.2.bookingId .pendingPayment
          (movedRow .failed now) .failed paygateActor "payment.declined")
  | declinedIdle :
      e.event = .chargeFailed →
      (∀ b, db.bookings.get? payment.2.bookingId = some b → b.status ≠ .pendingPayment) →
      Consequence payment e now db none (db.modifyPayment payment.1 (markFailed now))
  | refunded (b : Booking) :
      e.event = .refundSucceeded →
      (∀ p, db.payments.get? payment.1 = some p → paymentFits db payment.1
        (refundedPayment payment e.refundId e.amountMinor now p) = true) →
      db.bookings.get? payment.2.bookingId = some b → b.status = .cancelled →
      Consequence payment e now db none
        ((db.modifyPayment payment.1 (refundedPayment payment e.refundId e.amountMinor now)).move
          payment.2.bookingId .cancelled (movedRow .refunded now) .refunded paygateActor
          "refund.settled")
  | refundedTerminal (b : Booking) :
      e.event = .refundSucceeded →
      (∀ p, db.payments.get? payment.1 = some p → paymentFits db payment.1
        (refundedPayment payment e.refundId e.amountMinor now p) = true) →
      db.bookings.get? payment.2.bookingId = some b → b.status ≠ .cancelled →
      Consequence payment e now db none
        ((db.modifyPayment payment.1 (refundedPayment payment e.refundId e.amountMinor now)).audit
          ⟨payment.2.bookingId, paygateActor, b.status, b.status,
            "refund.settled.terminal_booking"⟩)
  | refundedOrphan :
      e.event = .refundSucceeded →
      (∀ p, db.payments.get? payment.1 = some p → paymentFits db payment.1
        (refundedPayment payment e.refundId e.amountMinor now p) = true) →
      db.bookings.get? payment.2.bookingId = none →
      Consequence payment e now db none
        (db.modifyPayment payment.1 (refundedPayment payment e.refundId e.amountMinor now))

theorem Applied.consequence {payment : Uuid × Payment} {e : WebhookEvent} {now : Instant}
    {db db' : Db} {r : Option RefundInstruction} (applied : Applied payment e now db r db') :
    Consequence payment e now (db.claim ⟨e.chargeId, e.event⟩) r db' := by
  obtain ⟨-, ran⟩ := applied
  cases name : e.event with
  | chargeSucceeded =>
      simp only [applyEffect, name] at ran
      obtain ⟨fits, b, found, ⟨pending, live, rfl, snapshot, rfl⟩ | ⟨late, rfl, rfl⟩⟩ :=
        onChargeSucceeded_ok ran
      · exact .confirmed b snapshot name fits found pending live
      · exact .late b name fits found late
  | chargeFailed =>
      simp only [applyEffect, name, Tx.bind_ok, Tx.pure_ok] at ran
      obtain ⟨_, _, ran, rfl, rfl⟩ := ran
      rcases onChargeFailed_ok ran with ⟨⟨b, found, pending⟩, rfl⟩ | ⟨idle, rfl⟩
      · exact .declined b name found pending
      · exact .declinedIdle name idle
  | refundSucceeded =>
      simp only [applyEffect, name, Tx.bind_ok, Tx.pure_ok] at ran
      obtain ⟨_, _, ran, rfl, rfl⟩ := ran
      obtain ⟨fits, ⟨⟨b, found, cancelled⟩, rfl⟩ | ⟨b, found, other, rfl⟩ | ⟨orphan, rfl⟩⟩ :=
        onRefundSucceeded_ok ran
      · exact .refunded b name fits found cancelled
      · exact .refundedTerminal b name fits found other
      · exact .refundedOrphan name fits orphan

theorem applyEvent_ok {e : WebhookEvent} {now : Instant} {db db' : Db} {verdict : Verdict}
    (returned : applyEvent e now db = .ok (verdict, db')) :
    ∃ found t, findPayment e now db = .ok (found, t) ∧
      ((found = none ∧ verdict = .unknownCharge ∧ db' = t) ∨
        (found.isSome ∧ verdict = .duplicateEffect ∧ db' = t ∧
          ⟨e.chargeId, e.event⟩ ∈ t.paymentEvents) ∨
        (∃ payment r, found = some payment ∧ verdict = .applied r ∧
          Applied payment e now t r db')) := by
  simp only [applyEvent, Tx.bind_ok] at returned
  obtain ⟨found, t, looked, rest⟩ := returned
  refine ⟨found, t, looked, ?_⟩
  cases found with
  | none =>
      obtain ⟨rfl, rfl⟩ := Tx.pure_ok.mp rest
      exact .inl ⟨rfl, rfl, rfl⟩
  | some payment =>
      simp only [Tx.bind_ok, claimEvent_ok] at rest
      obtain ⟨won, u, ⟨rfl, taken, rfl⟩ | ⟨rfl, fresh, rfl⟩, rest⟩ := rest
      · simp only [Bool.false_eq_true, if_false, Tx.pure_ok] at rest
        exact .inr (.inl ⟨rfl, rest.1.symm, rest.2.symm, taken⟩)
      · simp only [if_true, Tx.bind_ok, Tx.pure_ok] at rest
        obtain ⟨r, u, applied, rfl, rfl⟩ := rest
        exact .inr (.inr ⟨payment, r, rfl, rfl, fresh, applied⟩)

/-- A delivery that was processed: nothing to do, unsupported, or its event's
verdict written on its row. -/
theorem applyInTransaction_ok {rowId : Uuid} {now : Instant} {db db' : Db}
    {r : Option RefundInstruction} (returned : applyInTransaction rowId now db = .ok (r, db')) :
    (r = none ∧ db' = db ∧
        ∀ d, db.webhookDeliveries.get? rowId = some d → d.processedAt ≠ none) ∨
    ∃ d fields, db.webhookDeliveries.get? rowId = some d ∧ d.processedAt = none ∧
      deliveryFields d = some fields ∧
      ((fields.supported = none ∧ r = none ∧
          db' = db.modifyDelivery rowId fun d =>
            { d with processedAt := some now, error := some "unsupported_event" }) ∨
        ∃ e verdict t, fields.supported = some e ∧ applyEvent e now db = .ok (verdict, t) ∧
          settleDelivery rowId e now verdict t = .ok (r, db')) := by
  simp only [applyInTransaction, Tx.read_bind] at returned
  cases found : (db.webhookDeliveries.get? rowId).filter fun d => d.processedAt.isNone with
  | none =>
      simp only [found, Tx.pure_ok] at returned
      refine .inl ⟨returned.1.symm, returned.2.symm, fun d here unprocessed => ?_⟩
      simp [here, unprocessed] at found
  | some d =>
      simp only [found, Tx.bind_ok, Tx.fetch_ok] at returned
      obtain ⟨here, unprocessed⟩ := Option.filter_eq_some_iff.mp found
      obtain ⟨fields, _, ⟨read, rfl⟩, rest⟩ := returned
      refine .inr ⟨d, fields, here, by simpa using unprocessed, read, ?_⟩
      cases supported : fields.supported with
      | none =>
          simp only [supported, finishDelivery, Tx.write_bind, Tx.pure_ok] at rest
          exact .inl ⟨rfl, rest.1.symm, rest.2.symm⟩
      | some e =>
          simp only [supported, Tx.bind_ok] at rest
          obtain ⟨verdict, t, applied, settled⟩ := rest
          exact .inr ⟨e, verdict, t, rfl, applied, settled⟩

/-- The row a verdict leaves a delivery in. -/
def settledRow (e : WebhookEvent) (now : Instant) (verdict : Verdict) (d : WebhookDelivery) :
    WebhookDelivery :=
  match verdict with
  | .unknownCharge =>
      { d with chargeId := some e.chargeId, reference := e.reference, error := some "unknown_charge" }
  | .duplicateEffect => { d with processedAt := some now, error := some "duplicate_effect" }
  | .applied _ => { d with processedAt := some now, error := none }

def Verdict.instruction : Verdict → Option RefundInstruction
  | .applied r => r
  | _ => none

theorem settleDelivery_ok {rowId : Uuid} {e : WebhookEvent} {now : Instant} {verdict : Verdict}
    {db db' : Db} {r : Option RefundInstruction} :
    settleDelivery rowId e now verdict db = .ok (r, db') ↔
      r = verdict.instruction ∧ db' = db.modifyDelivery rowId (settledRow e now verdict) := by
  cases verdict <;>
    simp only [settleDelivery, finishDelivery, Tx.write_bind, Tx.pure_ok, Verdict.instruction,
      eq_comm (a := db'), eq_comm (a := r)] <;> rfl

/-! ## Settlements and polls -/

theorem settleCharge_ok {payment : Uuid × Payment} {chargeId : String} {captured : Bool}
    {now : Instant} {db db' : Db} {r : Bool × Option RefundInstruction}
    (returned : settleCharge payment chargeId captured now db = .ok (r, db')) :
    let e : WebhookEvent :=
      ⟨chargeId, if captured then .chargeSucceeded else .chargeFailed, none, none, none⟩
    (r = (false, none) ∧ db' = db ∧ ⟨e.chargeId, e.event⟩ ∈ db.paymentEvents) ∨
      (∃ instruction, r = (true, instruction) ∧ Applied payment e now db instruction db') := by
  simp only [settleCharge, Tx.bind_ok, claimEvent_ok] at returned
  obtain ⟨won, t, ⟨rfl, taken, rfl⟩ | ⟨rfl, fresh, rfl⟩, rest⟩ := returned
  · simp only [Bool.false_eq_true, if_false, Tx.pure_ok] at rest
    exact .inl ⟨rest.1.symm, rest.2.symm, taken⟩
  · refine .inr ?_
    cases captured with
    | true =>
        simp only [if_true, Tx.bind_ok, Tx.pure_ok] at rest
        obtain ⟨instruction, _, applied, rfl, rfl⟩ := rest
        exact ⟨instruction, rfl, fresh, applied⟩
    | false =>
        simp only [if_true, Bool.false_eq_true, if_false, Tx.bind_ok, Tx.pure_ok] at rest
        obtain ⟨u, _, applied, rfl, rfl⟩ := rest
        refine ⟨none, rfl, fresh, ?_⟩
        simp only [applyEffect, Bool.false_eq_true, if_false, Tx.bind_ok, Tx.pure_ok]
        exact ⟨u, _, applied, trivial, rfl⟩

theorem settleRefundPoll_ok {payment : Uuid × Payment} {chargeId : String}
    {refundId : Option String} {amountMinor : Int} {now : Instant} {db db' : Db} {r : Bool}
    (returned : settleRefundPoll payment chargeId refundId amountMinor now db = .ok (r, db')) :
    let e : WebhookEvent := ⟨chargeId, .refundSucceeded, none, refundId, some amountMinor⟩
    (r = false ∧ db' = db ∧ ⟨e.chargeId, e.event⟩ ∈ db.paymentEvents) ∨
      (r = true ∧ Applied payment e now db none db') := by
  simp only [settleRefundPoll, Tx.bind_ok, claimEvent_ok] at returned
  obtain ⟨won, t, ⟨rfl, taken, rfl⟩ | ⟨rfl, fresh, rfl⟩, rest⟩ := returned
  · simp only [Bool.false_eq_true, if_false, Tx.pure_ok] at rest
    exact .inl ⟨rest.1.symm, rest.2.symm, taken⟩
  · simp only [if_true, Tx.bind_ok, Tx.pure_ok] at rest
    obtain ⟨u, _, applied, rfl, rfl⟩ := rest
    refine .inr ⟨rfl, fresh, ?_⟩
    simp only [applyEffect, Tx.bind_ok, Tx.pure_ok]
    exact ⟨u, _, applied, trivial, rfl⟩

theorem capturedPayment_some {db : Db} {bookingId choice : Uuid} {row : Uuid × Payment}
    (found : capturedPayment db bookingId choice = some row) :
    db.payments.get? row.1 = some row.2 ∧ row.2.bookingId = bookingId ∧
      row.2.status = .succeeded := by
  simp only [capturedPayment] at found
  have among : row ∈ db.payments.select fun _ p =>
      decide (p.bookingId = bookingId ∧ p.status = .succeeded) := by
    rcases Option.or_eq_some_iff.mp found with here | ⟨-, here⟩
    · exact List.mem_of_find?_eq_some here
    · exact List.mem_of_head? here
  have holds := Table.mem_select.mp among
  simp only [decide_eq_true_eq] at holds
  exact ⟨holds.1, holds.2.1, holds.2.2⟩

/-- The money half of a cancellation: nothing, or the key of the one captured
payment minted with the refund its snapshot gives. -/
theorem settleCancellation_ok {bookingId choice : Uuid} {now : Instant} {db db' : Db}
    {r : Option (RefundInstruction × RefundBreakdown)}
    (returned : settleCancellation bookingId choice now db = .ok (r, db')) :
    (r = none ∧ db' = db) ∨
    ∃ booking payment chargeId snapshot breakdown,
      db.bookings.get? bookingId = some booking ∧
      capturedPayment db bookingId choice = some payment ∧
      payment.2.chargeId = some chargeId ∧ payment.2.refundIdempotencyKey = none ∧
      parseSnapshot booking.policySnapshot = some snapshot ∧
      cancellationRefund db bookingId booking snapshot.tiers now = .ok breakdown ∧
      r = some (⟨payment.1, chargeId, bookingId, breakdown.totalRefundMinor, refundKey chargeId,
        "cancellation"⟩, breakdown) ∧
      paymentFits db payment.1 (mintRefundKey (refundKey chargeId) now payment.2) = true ∧
      db' = (db.modifyPayment payment.1 (mintRefundKey (refundKey chargeId) now)).audit
        ⟨bookingId, systemActor, booking.status, booking.status, "refund.initiated.cancellation"⟩ := by
  simp only [settleCancellation, lockBooking, Tx.read_bind] at returned
  cases here : db.bookings.get? bookingId with
  | none =>
      simp only [here, Tx.pure_ok] at returned
      exact .inl ⟨returned.1.symm, returned.2.symm⟩
  | some booking =>
      simp only [here, Tx.read_bind] at returned
      cases captured : capturedPayment db bookingId choice with
      | none =>
          simp only [captured, Tx.pure_ok] at returned
          exact .inl ⟨returned.1.symm, returned.2.symm⟩
      | some payment =>
          simp only [captured] at returned
          have row := (capturedPayment_some captured).1
          cases charged : payment.2.chargeId with
          | none =>
              simp only [charged, Tx.pure_ok] at returned
              exact .inl ⟨returned.1.symm, returned.2.symm⟩
          | some chargeId =>
              cases minted : payment.2.refundIdempotencyKey with
              | some key =>
                  simp only [charged, minted, Tx.pure_ok] at returned
                  exact .inl ⟨returned.1.symm, returned.2.symm⟩
              | none =>
                  simp only [charged, minted, readSnapshot, Tx.bind_ok, Tx.ite_ok, Tx.abort_ok,
                    Tx.pure_ok, and_false, false_or] at returned
                  obtain ⟨_, _, ⟨-, rfl, rfl⟩, returned⟩ := returned
                  cases parsed : parseSnapshot booking.policySnapshot with
                  | none =>
                      simp only [parsed, Tx.pure_ok] at returned
                      exact .inl ⟨returned.1.symm, returned.2.symm⟩
                  | some snapshot =>
                      simp only [parsed, Tx.read_bind] at returned
                      cases worth : cancellationRefund db bookingId booking snapshot.tiers now with
                      | error e => simp [worth] at returned
                      | ok breakdown =>
                          simp only [worth, Tx.bind_ok, updatePayment_ok, insertAudit, Tx.write_ok,
                            Tx.pure_ok] at returned
                          obtain ⟨_, _, ⟨fits, rfl⟩, _, _, rfl, rfl, rfl⟩ := returned
                          exact .inr ⟨booking, payment, chargeId, snapshot, breakdown, rfl, rfl,
                            charged, minted, parsed, worth, rfl, fits _ row, rfl⟩

end Atrium
