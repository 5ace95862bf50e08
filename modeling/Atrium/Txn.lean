/-
# Txn -- the transactions the API commits

Every change of the database is one of these, run to its end and committed, or
nothing.  A `Txn` carries all its transaction reads besides the tables: the
request, the generated keys, the instants, and for `hold`, `checkout` and `pay`
what an earlier statement of the same transaction read without a lock.

`Effect` is what a returned transaction has done, guards included, one constructor
an effect.  Invariants are proved from it, by cases; nothing unfolds `Txn.run`.
-/
import Atrium.Payments

namespace Atrium

open Atrium.Base

set_option autoImplicit false

inductive Txn where
  | hold (input : HoldInput) (ctx : RoomContext) (principal : AuthPrincipal) (stamp : HoldStamp)
      (expired : List Uuid) (priced : List PricedItem)
  | checkout (bookingId : UuidText) (principal : AuthPrincipal) (booking : Booking) (now : Instant)
  | pay (bookingId : UuidText) (principal : AuthPrincipal) (booking : Booking)
      (existing : Option (Uuid × Payment)) (stamp : PayStamp)
  | bindCharge (paymentId : Uuid) (chargeId : String) (now : Instant)
  | cancel (bookingId : UuidText) (reason : String) (principal : AuthPrincipal) (now : Instant)
  | settleCancellation (bookingId choice : Uuid) (now : Instant)
  | deliver (request : WebhookRequest) (rowId : Uuid) (now : Instant)
  | apply (rowId : Uuid) (now : Instant)
  | settleCharge (payment : Uuid × Payment) (chargeId : String) (captured : Bool) (now : Instant)
  | chargeUnknown (paymentId : Uuid) (now : Instant)
  | settleRefund (payment : Uuid × Payment) (chargeId : String) (refundId : Option String)
      (amountMinor : Int) (now : Instant)
  | refundAccepted (paymentId : Uuid) (refundId : String) (now : Instant)
  | refundRejected (paymentId : Uuid) (message : String) (now : Instant)
  | sweep (now : Instant) (locked : List Uuid)
  | addPolicy (id : Uuid) (venueId : Option Uuid) (tiers : Tiers) (now : Instant)

/-- What a committed transaction hands to the rest of its request. -/
inductive Outcome where
  | done
  | charge (request : ChargeRequest) (paymentId : Uuid)
  | cancelled (bookingId : Uuid)
  | refund (instruction : RefundInstruction)
  deriving DecidableEq

def refundOutcome : Option RefundInstruction → Outcome
  | some instruction => .refund instruction
  | none => .done

def preparedOutcome (bookingId : UuidText) : Prepared → Outcome
  | .settled _ => .done
  | .charge booking payment => .charge (chargeRequest bookingId booking payment) payment.1

/-- A venue's or the platform's new policy, validated before it is written. -/
def addPolicy (id : Uuid) (venueId : Option Uuid) (tiers : Tiers) (now : Instant) :
    Transaction Unit := do
  let policies ← Tx.fetch
    (fun db => db.cancellationPolicies.insert? id ⟨venueId, tiers.toJson, now⟩) (.database "23505")
  Tx.write fun db => { db with cancellationPolicies := policies }

namespace Txn

def run (env : Env) : Txn → Transaction Outcome
  | .hold input ctx principal stamp expired priced => do
      let _ ← finishHold env input ctx principal stamp expired priced
      pure .done
  | .checkout bookingId principal booking now => do
      let _ ← checkoutLoaded env bookingId principal booking now
      pure .done
  | .pay bookingId principal booking existing stamp => do
      let prepared ← payLoaded bookingId principal booking existing stamp
      pure (preparedOutcome bookingId prepared)
  | .bindCharge paymentId chargeId now => do
      Atrium.bindCharge paymentId chargeId now
      pure .done
  | .cancel bookingId reason principal now => do
      let _ ← Atrium.cancel bookingId reason principal now
      pure (.cancelled bookingId.value)
  | .settleCancellation bookingId choice now => do
      let settled ← Atrium.settleCancellation bookingId choice now
      pure (refundOutcome (settled.map Prod.fst))
  | .deliver request rowId now => do
      let _ ← ingest env request rowId now
      pure .done
  | .apply rowId now => do
      let instruction ← applyInTransaction rowId now
      pure (refundOutcome instruction)
  | .settleCharge payment chargeId captured now => do
      let settled ← Atrium.settleCharge payment chargeId captured now
      pure (refundOutcome settled.2)
  | .chargeUnknown paymentId now => do
      Atrium.chargeUnknown paymentId now
      pure .done
  | .settleRefund payment chargeId refundId amountMinor now => do
      let _ ← settleRefundPoll payment chargeId refundId amountMinor now
      pure .done
  | .refundAccepted paymentId refundId now => do
      Atrium.refundAccepted paymentId refundId now
      pure .done
  | .refundRejected paymentId message now => do
      Atrium.refundRejected paymentId message now
      pure .done
  | .sweep now locked => do
      let _ ← sweeperTick now locked
      pure .done
  | .addPolicy id venueId tiers now => do
      Atrium.addPolicy id venueId tiers now
      pure .done

/-- The bookings a transaction locks, beside those a bulk expiry updates. -/
def locks (db : Db) : Txn → List Uuid
  | .checkout bookingId .. | .pay bookingId .. | .cancel bookingId .. => [bookingId.value]
  | .settleCancellation bookingId .. => [bookingId]
  | .settleCharge payment .. | .settleRefund payment .. => [payment.2.bookingId]
  | .apply rowId now =>
      match (db.webhookDeliveries.get? rowId).bind deliveryFields with
      | some fields =>
          match fields.supported with
          | some e =>
              match findPayment e now db with
              | .ok (some payment, _) => [payment.2.bookingId]
              | _ => []
          | none => []
      | none => []
  | _ => []

/-- The payment it writes a reason on. -/
def explains : Txn → Option Uuid
  | .chargeUnknown paymentId _ | .refundRejected paymentId .. => some paymentId
  | _ => none

/-- The database once the transaction has ended, committed or rolled back. -/
def commit (env : Env) (t : Txn) (db : Db) : Db := (t.run env).commit db

end Txn

/-! ## What a returned transaction has done -/

/-- A payment update that leaves the columns every invariant reads. -/
def noted (p q : Payment) : Prop :=
  ∃ reason now, q = { p with failureReason := reason, updatedAt := now }

/-- The database with a hold's own expiries. -/
def expiredView (db : Db) (stamp : HoldStamp) (expired : List Uuid) : Db :=
  db.expire expired stamp.startedAt systemActor "hold.expired.in_transaction"

def heldRow (env : Env) (input : HoldInput) (ctx : RoomContext) (principal : AuthPrincipal)
    (stamp : HoldStamp) (priced : List PricedItem) : Booking :=
  (heldValues env input ctx principal.userId stamp.now priced).row stamp.startedAt

/-- The database a hold commits, over the view with its expiries. -/
@[simps] def Db.hold (view : Db) (bookings : Table Uuid Booking) (id userId : Uuid)
    (priced : List PricedItem) : Db :=
  { view with
    bookings := bookings
    auditEvents := view.auditEvents ++ [⟨id, ⟨.user, some userId⟩, .draft, .held, "hold.created"⟩]
    bookingLineItems := view.bookingLineItems ++ priced.map fun item =>
      ⟨id, item.equipmentTypeId, item.quantity, item.rateMinor⟩ }

inductive Effect (env : Env) : Txn → Db → Db → Outcome → Prop
  /-- A replay, a lost gate, a delivery already processed, nothing to refund. -/
  | nothing (t : Txn) (db : Db) : Effect env t db db .done
  | held (input : HoldInput) (ctx : RoomContext) (principal : AuthPrincipal) (stamp : HoldStamp)
      (expired : List Uuid) (priced : List PricedItem) (db : Db) (bookings : Table Uuid Booking) :
      roomConflicts (expiredView db stamp expired) (heldRow env input ctx principal stamp priced) =
        [] →
      (∀ item ∈ priced, 0 < item.quantity) →
      (expiredView db stamp expired).bookings.insert? stamp.id
        (heldRow env input ctx principal stamp priced) = some bookings →
      Effect env (.hold input ctx principal stamp expired priced) db
        ((expiredView db stamp expired).hold bookings stamp.id principal.userId priced) .done
  | rearmed (bookingId : UuidText) (principal : AuthPrincipal) (booking : Booking) (now : Instant)
      (db : Db) (b : Booking) :
      booking.lapsedAt now = false → booking.rearmCount < env.maxHoldRearms →
      now < booking.createdAt + env.maxHoldLifetimeSeconds * 1000 →
      db.bookings.get? bookingId.value = some b → b.status ∈ [.held, .pendingPayment] →
      Effect env (.checkout bookingId principal booking now) db
        ((db.modifyBooking bookingId.value (rearmed env booking now)).audit
          ⟨bookingId.value, ⟨.user, some principal.userId⟩, b.status, b.status, "hold.rearmed"⟩)
        .done
  | paid (bookingId : UuidText) (principal : AuthPrincipal) (booking : Booking)
      (existing : Option (Uuid × Payment)) (stamp : PayStamp) (db recorded db' : Db)
      (payment : Uuid × Payment) :
      PaymentRecorded db stamp.paymentId (newPayment bookingId.value (chargeKey bookingId.text)
        booking.totalMinor stamp.startedAt) recorded →
      paymentByKey recorded (chargeKey bookingId.text) = some payment →
      (booking.status = .held ∧ booking.lapsedAt stamp.now = false ∧
          (∃ b, db.bookings.get? bookingId.value = some b ∧ b.status = .held) ∧
          db' = recorded.move bookingId.value .held (movedRow .pendingPayment stamp.now)
            .pendingPayment ⟨.user, some principal.userId⟩ "payment.initiated") ∨
        (booking.status = .pendingPayment ∧ db' = recorded) →
      Effect env (.pay bookingId principal booking existing stamp) db db'
        (.charge (chargeRequest bookingId booking payment) payment.1)
  | bound (paymentId : Uuid) (chargeId : String) (now : Instant) (db : Db) :
      (∀ p, db.payments.get? paymentId = some p →
        paymentFits db paymentId (adopted chargeId now p) = true) →
      Effect env (.bindCharge paymentId chargeId now) db
        (db.modifyPayment paymentId (adopted chargeId now)) .done
  | cancelled (bookingId : UuidText) (reason : String) (principal : AuthPrincipal) (now : Instant)
      (db : Db) (b : Booking) :
      db.bookings.get? bookingId.value = some b → (b.status = .held ∨ b.status = .confirmed) →
      Effect env (.cancel bookingId reason principal now) db
        (db.move bookingId.value b.status (movedRow .cancelled now) .cancelled
          ⟨.user, some principal.userId⟩ reason) (.cancelled bookingId.value)
  | refundMinted (bookingId choice : Uuid) (now : Instant) (db : Db) (booking : Booking)
      (payment : Uuid × Payment) (chargeId : String) (snapshot : PolicySnapshot)
      (breakdown : RefundBreakdown) :
      db.bookings.get? bookingId = some booking →
      capturedPayment db bookingId choice = some payment →
      payment.2.chargeId = some chargeId → payment.2.refundIdempotencyKey = none →
      parseSnapshot booking.policySnapshot = some snapshot →
      cancellationRefund db bookingId booking snapshot.tiers now = .ok breakdown →
      paymentFits db payment.1 (mintRefundKey (refundKey chargeId) now payment.2) = true →
      Effect env (.settleCancellation bookingId choice now) db
        ((db.modifyPayment payment.1 (mintRefundKey (refundKey chargeId) now)).audit
          ⟨bookingId, systemActor, booking.status, booking.status,
            "refund.initiated.cancellation"⟩)
        (.refund ⟨payment.1, chargeId, bookingId, breakdown.totalRefundMinor, refundKey chargeId,
          "cancellation"⟩)
  | delivered (request : WebhookRequest) (rowId : Uuid) (now : Instant) (db : Db)
      (error : Option String) (processed : Bool) (deliveries : Table Uuid WebhookDelivery) :
      db.webhookDeliveries.insert? rowId
        (deliveryRow request (signedFields request) error processed now) = some deliveries →
      (request.signed = true → processed = false → ∃ body fields,
        request.body = some body ∧ readFields body = some fields) →
      (request.signed = true → processed = true →
        (signedFields request).bind WebhookFields.supported = none) →
      Effect env (.deliver request rowId now) db { db with webhookDeliveries := deliveries } .done
  | unsupported (rowId : Uuid) (now : Instant) (db : Db) (d : WebhookDelivery)
      (fields : WebhookFields) :
      db.webhookDeliveries.get? rowId = some d → d.processedAt = none →
      deliveryFields d = some fields → fields.supported = none →
      Effect env (.apply rowId now) db
        (db.modifyDelivery rowId fun d =>
          { d with processedAt := some now, error := some "unsupported_event" }) .done
  /-- An event whose payment is not known, or whose effect was applied before. -/
  | lost (rowId : Uuid) (now : Instant) (db t : Db) (d : WebhookDelivery) (fields : WebhookFields)
      (e : WebhookEvent) (found : Option (Uuid × Payment)) (verdict : Verdict) :
      db.webhookDeliveries.get? rowId = some d → d.processedAt = none →
      deliveryFields d = some fields → fields.supported = some e →
      findPayment e now db = .ok (found, t) →
      (found = none ∧ verdict = .unknownCharge) ∨
        (found.isSome ∧ verdict = .duplicateEffect ∧ ⟨e.chargeId, e.event⟩ ∈ t.paymentEvents) →
      Effect env (.apply rowId now) db (t.modifyDelivery rowId (settledRow e now verdict)) .done
  | applied (rowId : Uuid) (now : Instant) (db t u : Db) (d : WebhookDelivery)
      (fields : WebhookFields) (e : WebhookEvent) (payment : Uuid × Payment)
      (r : Option RefundInstruction) :
      db.webhookDeliveries.get? rowId = some d → d.processedAt = none →
      deliveryFields d = some fields → fields.supported = some e →
      findPayment e now db = .ok (some payment, t) → Applied payment e now t r u →
      Effect env (.apply rowId now) db
        (u.modifyDelivery rowId (settledRow e now (.applied r))) (refundOutcome r)
  | polledCharge (payment : Uuid × Payment) (chargeId : String) (captured : Bool) (now : Instant)
      (db db' : Db) (r : Option RefundInstruction) :
      Applied payment
        ⟨chargeId, if captured then .chargeSucceeded else .chargeFailed, none, none, none⟩
        now db r db' →
      Effect env (.settleCharge payment chargeId captured now) db db' (refundOutcome r)
  | polledRefund (payment : Uuid × Payment) (chargeId : String) (refundId : Option String)
      (amountMinor : Int) (now : Instant) (db db' : Db) :
      Applied payment ⟨chargeId, .refundSucceeded, none, refundId, some amountMinor⟩
        now db none db' →
      Effect env (.settleRefund payment chargeId refundId amountMinor now) db db' .done
  /-- A reason written on a payment, and nothing else. -/
  | explained (t : Txn) (paymentId : Uuid) (f : Payment → Payment) (db : Db) :
      (∀ p, noted p (f p)) → t.explains = some paymentId →
      Effect env t db (db.modifyPayment paymentId f) .done
  | refundBound (paymentId : Uuid) (refundId : String) (now : Instant) (db : Db) :
      (∀ p, db.payments.get? paymentId = some p → paymentFits db paymentId
        (boundRefund refundId now p) = true) →
      Effect env (.refundAccepted paymentId refundId now) db
        (db.modifyPayment paymentId (boundRefund refundId now)) .done
  | swept (now : Instant) (locked : List Uuid) (db : Db) :
      Effect env (.sweep now locked) db
        (db.expire (staleHolds db sweeperBatchSize now locked) now systemActor
          "hold.expired.sweeper") .done
  | policyAdded (id : Uuid) (venueId : Option Uuid) (tiers : Tiers) (now : Instant) (db : Db)
      (policies : Table Uuid CancellationPolicy) :
      Effect env (.addPolicy id venueId tiers now) db
        { db with cancellationPolicies := policies } .done

namespace Txn

theorem run_effect {env : Env} {t : Txn} {db db' : Db} {out : Outcome}
    (returned : t.run env db = .ok (out, db')) : Effect env t db db' out := by
  cases t with
  | hold input ctx principal stamp expired priced =>
      simp only [run, finishHold, Tx.bind_ok, Tx.write_bind, Tx.pure_ok] at returned
      obtain ⟨_, _, inserted, rfl, rfl⟩ := returned
      obtain ⟨-, conflicts, positive, bookings, fresh, rfl⟩ := insertHold_ok inserted
      exact .held input ctx principal stamp expired priced db bookings conflicts positive fresh
  | checkout bookingId principal booking now =>
      simp only [run, Tx.bind_ok, Tx.pure_ok] at returned
      obtain ⟨_, _, ran, rfl, rfl⟩ := returned
      obtain ⟨live, rearms, capped, b, found, status, rfl⟩ := checkoutLoaded_ok ran
      exact .rearmed bookingId principal booking now db b live rearms capped found status
  | pay bookingId principal booking existing stamp =>
      simp only [run, Tx.bind_ok, Tx.pure_ok] at returned
      obtain ⟨_, _, ran, rfl, rfl⟩ := returned
      rcases payLoaded_ok ran with ⟨rfl, payment, -, rfl⟩ |
        ⟨recorded, payment, inserted, found, rfl, moved⟩
      · exact .nothing _ _
      · exact .paid bookingId principal booking existing stamp db recorded _ payment inserted
          found moved
  | bindCharge paymentId chargeId now =>
      simp only [run, Atrium.bindCharge, Tx.bind_ok, Tx.pure_ok, updatePayment_ok] at returned
      obtain ⟨_, _, ⟨fits, rfl⟩, rfl, rfl⟩ := returned
      exact .bound paymentId chargeId now db fits
  | cancel bookingId reason principal now =>
      simp only [run, Tx.bind_ok, Tx.pure_ok] at returned
      obtain ⟨_, _, ran, rfl, rfl⟩ := returned
      obtain ⟨b, found, status, -, rfl⟩ := cancel_ok ran
      exact .cancelled bookingId reason principal now db b found status
  | settleCancellation bookingId choice now =>
      simp only [run, Tx.bind_ok, Tx.pure_ok] at returned
      obtain ⟨_, _, ran, rfl, rfl⟩ := returned
      rcases settleCancellation_ok ran with ⟨rfl, rfl⟩ | ⟨booking, payment, chargeId, snapshot,
        breakdown, here, captured, charged, unminted, parsed, worth, rfl, fits, rfl⟩
      · exact .nothing _ _
      · exact .refundMinted bookingId choice now db booking payment chargeId snapshot breakdown
          here captured charged unminted parsed worth fits
  | deliver request rowId now =>
      simp only [run, Tx.bind_ok, Tx.pure_ok] at returned
      obtain ⟨_, _, ran, rfl, rfl⟩ := returned
      rcases ingest_ok ran with rfl | ⟨error, processed, deliveries, inserted, rfl, read, done⟩
      · exact .nothing _ _
      · exact .delivered request rowId now db error processed deliveries inserted read done
  | apply rowId now =>
      simp only [run, Tx.bind_ok, Tx.pure_ok] at returned
      obtain ⟨_, _, ran, rfl, rfl⟩ := returned
      rcases applyInTransaction_ok ran with ⟨rfl, rfl, -⟩ | ⟨d, fields, here, unprocessed, read,
        ⟨unsupported, rfl, rfl⟩ | ⟨e, verdict, t, supported, event, settled⟩⟩
      · exact .nothing _ _
      · exact .unsupported rowId now db d fields here unprocessed read unsupported
      · obtain ⟨rfl, rfl⟩ := settleDelivery_ok.mp settled
        obtain ⟨found, t', looked, ⟨rfl, rfl, rfl⟩ | ⟨known, rfl, rfl, taken⟩ |
          ⟨payment, r, rfl, rfl, effect⟩⟩ := applyEvent_ok event
        · exact .lost rowId now db _ d fields e none .unknownCharge here unprocessed read supported
            looked (.inl ⟨rfl, rfl⟩)
        · exact .lost rowId now db _ d fields e found .duplicateEffect here unprocessed read
            supported looked (.inr ⟨known, rfl, taken⟩)
        · exact .applied rowId now db t' t d fields e payment r here unprocessed read supported
            looked effect
  | settleCharge payment chargeId captured now =>
      simp only [run, Tx.bind_ok, Tx.pure_ok] at returned
      obtain ⟨_, _, ran, rfl, rfl⟩ := returned
      rcases settleCharge_ok ran with ⟨rfl, rfl, -⟩ | ⟨r, rfl, effect⟩
      · exact .nothing _ _
      · exact .polledCharge payment chargeId captured now db _ r effect
  | chargeUnknown paymentId now =>
      simp only [run, Atrium.chargeUnknown, Tx.bind_ok, Tx.pure_ok, updatePayment_ok] at returned
      obtain ⟨_, _, ⟨-, rfl⟩, rfl, rfl⟩ := returned
      exact .explained _ paymentId _ db (fun p => ⟨_, now, rfl⟩) rfl
  | settleRefund payment chargeId refundId amountMinor now =>
      simp only [run, Tx.bind_ok, Tx.pure_ok] at returned
      obtain ⟨_, _, ran, rfl, rfl⟩ := returned
      rcases settleRefundPoll_ok ran with ⟨-, rfl, -⟩ | ⟨-, effect⟩
      · exact .nothing _ _
      · exact .polledRefund payment chargeId refundId amountMinor now db _ effect
  | refundAccepted paymentId refundId now =>
      simp only [run, Atrium.refundAccepted, Tx.bind_ok, Tx.pure_ok, updatePayment_ok] at returned
      obtain ⟨_, _, ⟨fits, rfl⟩, rfl, rfl⟩ := returned
      exact .refundBound paymentId refundId now db fits
  | refundRejected paymentId message now =>
      simp only [run, Atrium.refundRejected, Tx.bind_ok, Tx.pure_ok, updatePayment_ok] at returned
      obtain ⟨_, _, ⟨-, rfl⟩, rfl, rfl⟩ := returned
      exact .explained _ paymentId _ db (fun p => ⟨_, now, rfl⟩) rfl
  | sweep now locked =>
      simp only [run, sweeperTick, expireStaleHolds, Tx.bind_ok, Tx.read_bind, Tx.write_bind,
        Tx.pure_ok] at returned
      obtain ⟨_, _, ⟨-, rfl⟩, rfl, rfl⟩ := returned
      exact .swept now locked db
  | addPolicy id venueId tiers now =>
      simp only [run, Atrium.addPolicy, Tx.bind_ok, Tx.fetch_ok, Tx.write_ok, Tx.pure_ok] at returned
      obtain ⟨_, _, ⟨policies, _, ⟨-, rfl⟩, rfl⟩, rfl, rfl⟩ := returned
      exact .policyAdded id venueId tiers now db policies

end Txn

/-! ## What no transaction writes -/

/-- The tables only an administrator writes. -/
def sameCatalogue (db db' : Db) : Prop :=
  db'.venues = db.venues ∧ db'.rooms = db.rooms ∧ db'.equipmentTypes = db.equipmentTypes

theorem Consequence.sameCatalogue {payment : Uuid × Payment} {e : WebhookEvent} {now : Instant}
    {db db' : Db} {r : Option RefundInstruction} (consequence : Consequence payment e now db r db') :
    sameCatalogue db db' := by
  cases consequence with
  | late b _ _ _ _ =>
      by_cases pending : b.status = .pendingPayment <;>
        simp [Atrium.sameCatalogue, lateCharge, pending]
  | _ => exact ⟨rfl, rfl, rfl⟩

theorem findPayment_sameCatalogue {e : WebhookEvent} {now : Instant} {db db' : Db}
    {r : Option (Uuid × Payment)} (returned : findPayment e now db = .ok (r, db')) :
    sameCatalogue db db' := by
  rcases findPayment_ok returned with ⟨-, rfl, -⟩ | ⟨_, -, rfl, -⟩ | ⟨_, _, -, -, -, -, -, -, rfl⟩ <;>
    exact ⟨rfl, rfl, rfl⟩

theorem Effect.sameCatalogue {env : Env} {t : Txn} {db db' : Db} {out : Outcome}
    (effect : Effect env t db db' out) : sameCatalogue db db' := by
  cases effect with
  | paid bookingId principal booking existing stamp _ recorded _ payment inserted found moved =>
      have same : Atrium.sameCatalogue db recorded := by
        rcases inserted with ⟨-, rfl⟩ | ⟨-, _, -, rfl⟩ <;> exact ⟨rfl, rfl, rfl⟩
      rcases moved with ⟨-, -, -, rfl⟩ | ⟨-, rfl⟩ <;> exact same
  | lost rowId now _ u d fields e found verdict _ _ _ _ looked =>
      obtain ⟨venues, rooms, types⟩ := findPayment_sameCatalogue looked
      exact ⟨venues, rooms, types⟩
  | applied rowId now _ u v d fields e payment r _ _ _ _ looked applied =>
      obtain ⟨venues, rooms, types⟩ := applied.consequence.sameCatalogue
      obtain ⟨venues', rooms', types'⟩ := findPayment_sameCatalogue looked
      exact ⟨venues.trans venues', rooms.trans rooms', types.trans types'⟩
  | polledCharge payment chargeId captured now _ _ r applied =>
      exact applied.consequence.sameCatalogue
  | polledRefund payment chargeId refundId amountMinor now _ _ applied =>
      exact applied.consequence.sameCatalogue
  | _ => exact ⟨rfl, rfl, rfl⟩

end Atrium
