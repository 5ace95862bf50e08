/-
# PaymentEffects -- what one provider event does to a payment and its booking

The state effect of each event, as the webhook, the drainer and the polls all
apply it.  `payments` has three nullable unique columns; `updatePayment` is the
`UPDATE` that checks them.  `onChargeSucceeded` is the fork between a live hold,
which confirms and freezes its policy, and anything else, which mints a refund
key in the same transaction.
-/
import Atrium.BookingStateMachine
import Atrium.Calendar
import Atrium.RefundPolicy

namespace Atrium

open Atrium.Base

set_option autoImplicit false

/-! ## Keys -/

/-- One booking, one charge key: of the text it is given. -/
def chargeKey (bookingId : String) : String := "charge:" ++ bookingId

/-- One charge, one refund key. -/
def refundKey (chargeId : String) : String := "refund:" ++ chargeId

theorem chargeKey_injective {a b : String} (same : chargeKey a = chargeKey b) : a = b := by
  simpa [chargeKey] using same

theorem refundKey_injective {a b : String} (same : refundKey a = refundKey b) : a = b := by
  simpa [refundKey] using same

/-! ## Updating a payment -/

@[simps] def Db.modifyPayment (db : Db) (id : Uuid) (f : Payment → Payment) : Db :=
  { db with payments := db.payments.modify id f }

/-- No other payment holds a value of `p` in a unique column. -/
def paymentFits (db : Db) (id : Uuid) (p : Payment) : Bool :=
  p.chargeId.all (db.payments.free Payment.chargeId id) &&
    p.refundId.all (db.payments.free Payment.refundId id) &&
    p.refundIdempotencyKey.all (db.payments.free Payment.refundIdempotencyKey id)

/-- `UPDATE payments SET … WHERE id = …`, refused where it would break a unique
index.  A `WHERE` on another column is part of `f`. -/
def updatePayment (id : Uuid) (f : Payment → Payment) : Transaction Unit := do
  let found ← Tx.read (·.payments.get? id)
  match found with
  | none => pure ()
  | some p => do
      let fits ← Tx.read (paymentFits · id (f p))
      if fits then Tx.write (·.modifyPayment id f)
      else Tx.abort (.database "23505")

/-- `SELECT … FROM bookings WHERE id = … FOR UPDATE`. -/
def lockBooking (id : Uuid) : Transaction (Option Booking) := Tx.read (·.bookings.get? id)

structure RefundInstruction where
  paymentId : Uuid
  chargeId : String
  bookingId : Uuid
  amountMinor : Minor
  idempotencyKey : String
  reason : String
  deriving DecidableEq

/-! The rows the updates leave. -/

def markSucceeded (chargeId : String) (now : Instant) (p : Payment) : Payment :=
  { p with status := .succeeded, chargeId := some chargeId, updatedAt := now }

def markFailed (now : Instant) (p : Payment) : Payment :=
  { p with status := .failed, failureReason := some "provider_declined", updatedAt := now }

def markRefunded (refundId : Option String) (amount : Minor) (now : Instant) (p : Payment) :
    Payment :=
  { p with status := .refunded, refundId := refundId, refundedMinor := amount, updatedAt := now }

/-- Mint the refund key, where the payment has none. -/
def mintRefundKey (key : String) (now : Instant) (p : Payment) : Payment :=
  if p.refundIdempotencyKey = none then
    { p with refundIdempotencyKey := some key, updatedAt := now }
  else p

/-! ## Policy resolution -/

def newerFirst (p q : Uuid × CancellationPolicy) : Prop := q.2.createdAt ≤ p.2.createdAt

instance : DecidableRel newerFirst := fun _ _ => inferInstanceAs (Decidable (_ ≤ _))

/-- `WHERE venue_id … ORDER BY created_at DESC LIMIT 1`. -/
def newestPolicy (db : Db) (venueId : Option Uuid) : Option (Uuid × CancellationPolicy) :=
  ((db.cancellationPolicies.select fun _ p => decide (p.venueId = venueId)).insertionSort
    newerFirst).head?

/-- `TiersSchema.parse(row.tiers)`: a `ZodError` where the stored tiers do not pass, unless
there are none. -/
def parseTiers (row : Uuid × CancellationPolicy) : Transaction (Tiers × Uuid) :=
  match Tiers.ofJson row.2.tiers with
  | some tiers => pure (tiers, row.1)
  | none => Tx.abort (.internal (if row.2.tiers.isEmpty then noLastTier else "ZodError"))

/-- The venue's newest policy if it has one, otherwise the platform's newest. -/
def resolveTiers (venueId : Uuid) : Transaction (Tiers × Uuid × ResolvedFrom) := do
  let own ← Tx.read (newestPolicy · (some venueId))
  match own with
  | some row => do
      let (tiers, id) ← parseTiers row
      pure (tiers, id, .venue)
  | none => do
      let platform ← Tx.read (newestPolicy · none)
      match platform with
      | some row => do
          let (tiers, id) ← parseTiers row
          pure (tiers, id, .platform)
      | none => Tx.abort (.unavailable
          "No platform default cancellation policy exists. Migration 0003 inserts it; re-run migrations or re-seed. Bookings cannot be confirmed until it is present."
          (some "node dist/db/migrate.js, or pnpm seed"))

def resolvePolicySnapshot (venueId : Uuid) (now : Instant) : Transaction PolicySnapshot := do
  let (tiers, policyId, source) ← resolveTiers venueId
  pure ⟨tiers, policyId.text, source, toISOString now⟩

/-! ## The three effects -/

/-- A captured charge: confirm a live hold, or mint the refund. `payment` is the
row as the caller read it. -/
def onChargeSucceeded (payment : Uuid × Payment) (chargeId : String) (now : Instant) :
    Transaction (Option RefundInstruction) := do
  updatePayment payment.1 (markSucceeded chargeId now)
  let found ← lockBooking payment.2.bookingId
  match found with
  | none => Tx.abort (.notFound "Not Found")
  | some booking =>
      if booking.status = .pendingPayment ∧ ¬ booking.lapsedAt now then do
        let snapshot ← resolvePolicySnapshot booking.venueId now
        let _ ← transition now
          { bookingId := payment.2.bookingId.path, target := .confirmed, actor := paygateActor
            reason := "payment.captured", expectedFrom := some [.pendingPayment]
            patch := { BookingPatch.empty with
              expiresAt := some none
              policySnapshot := some (some snapshot.toJson) } }
        pure none
      else do
        if booking.status = .pendingPayment then
          let _ ← transition now
            { bookingId := payment.2.bookingId.path, target := .expired, actor := systemActor
              reason := "hold.expired.payment_arrived_late"
              expectedFrom := some [.pendingPayment], patch := .empty }
        updatePayment payment.1 (mintRefundKey (refundKey chargeId) now)
        -- The status read under the lock, before the expiry above.
        insertAudit ⟨payment.2.bookingId, systemActor, booking.status, booking.status,
          "refund.initiated.unconfirmable_hold"⟩
        pure (some
          { paymentId := payment.1, chargeId := chargeId, bookingId := payment.2.bookingId
            amountMinor := payment.2.amountMinor, idempotencyKey := refundKey chargeId
            reason := "hold_not_confirmable" })

def onChargeFailed (payment : Uuid × Payment) (now : Instant) : Transaction Unit := do
  updatePayment payment.1 (markFailed now)
  let found ← lockBooking payment.2.bookingId
  match found with
  | some booking =>
      if booking.status = .pendingPayment then
        let _ ← transition now
          { bookingId := payment.2.bookingId.path, target := .failed, actor := paygateActor
            reason := "payment.declined", expectedFrom := some [.pendingPayment], patch := .empty }
  | none => pure ()

/-- A settled refund.  `amount` is the rounded number of the event, `none` where it
carried none. -/
def onRefundSucceeded (payment : Uuid × Payment) (refundId : Option String)
    (amount : Option Int) (now : Instant) : Transaction Unit := do
  updatePayment payment.1
    (markRefunded (refundId.or payment.2.refundId) (amount.getD payment.2.amountMinor) now)
  let found ← lockBooking payment.2.bookingId
  match found with
  | some booking =>
      if booking.status = .cancelled then
        let _ ← transition now
          { bookingId := payment.2.bookingId.path, target := .refunded, actor := paygateActor
            reason := "refund.settled", expectedFrom := some [.cancelled], patch := .empty }
      else
        insertAudit ⟨payment.2.bookingId, paygateActor, booking.status, booking.status,
          "refund.settled.terminal_booking"⟩
  | none => pure ()

/-! ## What a returned call has done -/

theorem updatePayment_ok {id : Uuid} {f : Payment → Payment} {db db' : Db} {u : Unit} :
    updatePayment id f db = .ok (u, db') ↔
      (∀ p, db.payments.get? id = some p → paymentFits db id (f p) = true) ∧
        db' = db.modifyPayment id f := by
  cases found : db.payments.get? id with
  | none =>
      have same : db.modifyPayment id f = db := by
        simp [Db.modifyPayment, Table.modify_absent found]
      simp [updatePayment, found, same, eq_comm (a := db)]
  | some p =>
      simp [updatePayment, found, eq_comm (a := db')]

theorem parseTiers_ok {row : Uuid × CancellationPolicy} {r : Tiers × Uuid} {db db' : Db}
    (returned : parseTiers row db = .ok (r, db')) : db' = db := by
  cases parsed : Tiers.ofJson row.2.tiers with
  | none => simp [parseTiers, parsed] at returned
  | some tiers =>
      simp only [parseTiers, parsed, Tx.pure_ok] at returned
      exact returned.2.symm

theorem resolveTiers_ok {venueId : Uuid} {r : Tiers × Uuid × ResolvedFrom} {db db' : Db}
    (returned : resolveTiers venueId db = .ok (r, db')) : db' = db := by
  cases own : newestPolicy db (some venueId) with
  | some row =>
      simp only [resolveTiers, Tx.read_bind, own, Tx.bind_ok, Tx.pure_ok] at returned
      obtain ⟨a, t, parsed, -, rfl⟩ := returned
      exact parseTiers_ok parsed
  | none =>
      cases platform : newestPolicy db none with
      | some row =>
          simp only [resolveTiers, Tx.read_bind, own, platform, Tx.bind_ok, Tx.pure_ok] at returned
          obtain ⟨a, t, parsed, -, rfl⟩ := returned
          exact parseTiers_ok parsed
      | none => simp [resolveTiers, own, platform] at returned

theorem resolvePolicySnapshot_ok {venueId : Uuid} {now : Instant} {s : PolicySnapshot}
    {db db' : Db} (returned : resolvePolicySnapshot venueId now db = .ok (s, db')) : db' = db := by
  simp only [resolvePolicySnapshot, Tx.bind_ok] at returned
  obtain ⟨r, t, resolved, last⟩ := returned
  rw [← (Tx.pure_ok.mp last).2, resolveTiers_ok resolved]

/-- The row a confirmation leaves. -/
def confirmedRow (snapshot : PolicySnapshot) (now : Instant) (b : Booking) : Booking :=
  { b with
    status := .confirmed
    expiresAt := none
    policySnapshot := some snapshot.toJson
    updatedAt := now }

/-- The row a bare move leaves. -/
def movedRow (target : BookingStatus) (now : Instant) (b : Booking) : Booking :=
  { b with status := target, updatedAt := now }

/-- Move a booking, with the audit row of the move. -/
@[simps] def Db.move (db : Db) (id : Uuid) (source : BookingStatus) (f : Booking → Booking)
    (target : BookingStatus) (actor : Actor) (reason : String) : Db :=
  { db with
    bookings := db.bookings.modify id f
    auditEvents := db.auditEvents ++ [⟨id, actor, source, target, reason⟩] }

/-- The database after a late charge: the booking expired if it was pending, the
payment succeeded with its refund key, and the refund's audit row. -/
def lateCharge (db : Db) (payment : Uuid × Payment) (chargeId : String) (now : Instant)
    (status : BookingStatus) : Db :=
  let expired :=
    if status = .pendingPayment then
      db.move payment.2.bookingId .pendingPayment (movedRow .expired now) .expired systemActor
        "hold.expired.payment_arrived_late"
    else db
  (expired.modifyPayment payment.1
    (mintRefundKey (refundKey chargeId) now ∘ markSucceeded chargeId now)).audit
      ⟨payment.2.bookingId, systemActor, status, status, "refund.initiated.unconfirmable_hold"⟩

/-- **The fork.**  A captured charge that was applied either confirmed a pending
booking whose hold had not lapsed, or minted the payment's refund key. -/
theorem onChargeSucceeded_ok {payment : Uuid × Payment} {chargeId : String} {now : Instant}
    {db db' : Db} {r : Option RefundInstruction}
    (returned : onChargeSucceeded payment chargeId now db = .ok (r, db')) :
    (∀ p, db.payments.get? payment.1 = some p →
        paymentFits db payment.1 (markSucceeded chargeId now p) = true) ∧
    ∃ b, db.bookings.get? payment.2.bookingId = some b ∧
      ((b.status = .pendingPayment ∧ b.lapsedAt now = false ∧ r = none ∧
          ∃ snapshot : PolicySnapshot,
            db' = (db.modifyPayment payment.1 (markSucceeded chargeId now)).move
              payment.2.bookingId .pendingPayment (confirmedRow snapshot now) .confirmed
              paygateActor "payment.captured") ∨
        (¬ (b.status = .pendingPayment ∧ b.lapsedAt now = false) ∧
          r = some ⟨payment.1, chargeId, payment.2.bookingId, payment.2.amountMinor,
            refundKey chargeId, "hold_not_confirmable"⟩ ∧
          db' = lateCharge db payment chargeId now b.status)) := by
  cases here : db.bookings.get? payment.2.bookingId with
  | none => simp [onChargeSucceeded, lockBooking, updatePayment_ok, here] at returned
  | some b =>
      simp only [onChargeSucceeded, lockBooking, Tx.bind_ok, Tx.read_bind, updatePayment_ok] at returned
      obtain ⟨_, t, ⟨fits, rfl⟩, rest⟩ := returned
      simp only [Db.modifyPayment_bookings, here] at rest
      refine ⟨fits, b, rfl, ?_⟩
      by_cases live : b.status = .pendingPayment ∧ ¬ b.lapsedAt now
      · rw [if_pos live] at rest
        simp only [Tx.bind_ok, transition_ok, Uuid.path_value, Tx.pure_ok] at rest
        obtain ⟨snapshot, t, resolved, _, t', ⟨b', found, -, -, rfl, rfl⟩, rfl, rfl⟩ := rest
        obtain rfl := resolvePolicySnapshot_ok resolved
        cases here.symm.trans found
        refine .inl ⟨live.1, by simpa using live.2, rfl, snapshot, ?_⟩
        simp only [Db.move, live.1]
        rfl
      · rw [if_neg live] at rest
        refine .inr ⟨by simpa using live, ?_⟩
        by_cases pending : b.status = .pendingPayment
        · simp only [pending, if_true, Tx.bind_ok, transition_ok, updatePayment_ok, insertAudit,
            Uuid.path_value, Tx.pure_ok, Tx.write_ok] at rest
          obtain ⟨_, _, ⟨b', found, -, -, rfl, rfl⟩, _, _, ⟨-, rfl⟩, _, _, rfl, rfl, rfl⟩ := rest
          cases here.symm.trans found
          refine ⟨rfl, ?_⟩
          simp only [lateCharge, Db.move, pending, if_true, Db.modifyPayment, Db.audit,
            Db.modifyBooking, Table.modify_modify]
          rfl
        · simp only [pending, if_false, Tx.bind_ok, updatePayment_ok, insertAudit, Tx.pure_ok,
            Tx.write_ok] at rest
          obtain ⟨_, _, ⟨-, rfl⟩, _, _, rfl, rfl, rfl⟩ := rest
          refine ⟨rfl, ?_⟩
          simp only [lateCharge, pending, if_false, Db.modifyPayment, Table.modify_modify]

theorem onChargeFailed_ok {payment : Uuid × Payment} {now : Instant} {db db' : Db} {u : Unit}
    (returned : onChargeFailed payment now db = .ok (u, db')) :
    ((∃ b, db.bookings.get? payment.2.bookingId = some b ∧ b.status = .pendingPayment) ∧
        db' = (db.modifyPayment payment.1 (markFailed now)).move payment.2.bookingId
          .pendingPayment (movedRow .failed now) .failed paygateActor "payment.declined") ∨
      ((∀ b, db.bookings.get? payment.2.bookingId = some b → b.status ≠ .pendingPayment) ∧
        db' = db.modifyPayment payment.1 (markFailed now)) := by
  cases here : db.bookings.get? payment.2.bookingId with
  | none =>
      simp only [onChargeFailed, lockBooking, Tx.bind_ok, Tx.read_bind, updatePayment_ok] at returned
      obtain ⟨_, t, ⟨-, rfl⟩, rest⟩ := returned
      simp only [Db.modifyPayment_bookings, here, Tx.pure_ok] at rest
      exact .inr ⟨by simp, rest.2.symm⟩
  | some b =>
      simp only [onChargeFailed, lockBooking, Tx.bind_ok, Tx.read_bind, updatePayment_ok] at returned
      obtain ⟨_, t, ⟨-, rfl⟩, rest⟩ := returned
      simp only [Db.modifyPayment_bookings, here] at rest
      by_cases pending : b.status = .pendingPayment
      · simp only [pending, if_true, Tx.bind_ok, transition_ok, Uuid.path_value, Tx.pure_ok] at rest
        obtain ⟨_, _, ⟨b', found, -, -, rfl, rfl⟩, -, rfl⟩ := rest
        cases here.symm.trans found
        refine .inl ⟨⟨b, rfl, pending⟩, ?_⟩
        simp only [Db.move, pending]
        rfl
      · simp only [pending, if_false, Tx.pure_ok] at rest
        exact .inr ⟨by simpa using pending, rest.2.symm⟩

/-- The payment a settled refund leaves. -/
def refundedPayment (payment : Uuid × Payment) (refundId : Option String) (amount : Option Int)
    (now : Instant) : Payment → Payment :=
  markRefunded (refundId.or payment.2.refundId) (amount.getD payment.2.amountMinor) now

/-- A settled refund moved a cancelled booking, and left any other where it was. -/
theorem onRefundSucceeded_ok {payment : Uuid × Payment} {refundId : Option String}
    {amount : Option Int} {now : Instant} {db db' : Db} {u : Unit}
    (returned : onRefundSucceeded payment refundId amount now db = .ok (u, db')) :
    (∀ p, db.payments.get? payment.1 = some p →
        paymentFits db payment.1 (refundedPayment payment refundId amount now p) = true) ∧
    (((∃ b, db.bookings.get? payment.2.bookingId = some b ∧ b.status = .cancelled) ∧
        db' = (db.modifyPayment payment.1 (refundedPayment payment refundId amount now)).move
          payment.2.bookingId .cancelled (movedRow .refunded now) .refunded paygateActor
          "refund.settled") ∨
      (∃ b, db.bookings.get? payment.2.bookingId = some b ∧ b.status ≠ .cancelled ∧
        db' = (db.modifyPayment payment.1 (refundedPayment payment refundId amount now)).audit
          ⟨payment.2.bookingId, paygateActor, b.status, b.status,
            "refund.settled.terminal_booking"⟩) ∨
      (db.bookings.get? payment.2.bookingId = none ∧
        db' = db.modifyPayment payment.1 (refundedPayment payment refundId amount now))) := by
  simp only [onRefundSucceeded, lockBooking, Tx.bind_ok, Tx.read_bind, updatePayment_ok] at returned
  obtain ⟨_, t, ⟨fits, rfl⟩, rest⟩ := returned
  refine ⟨fits, ?_⟩
  cases here : db.bookings.get? payment.2.bookingId with
  | none =>
      simp only [Db.modifyPayment_bookings, here, Tx.pure_ok] at rest
      exact .inr (.inr ⟨rfl, rest.2.symm⟩)
  | some b =>
      simp only [Db.modifyPayment_bookings, here] at rest
      by_cases cancelled : b.status = .cancelled
      · simp only [cancelled, if_true, Tx.bind_ok, transition_ok, Uuid.path_value,
          Tx.pure_ok] at rest
        obtain ⟨_, _, ⟨b', found, -, -, rfl, rfl⟩, -, rfl⟩ := rest
        cases here.symm.trans found
        refine .inl ⟨⟨b, rfl, cancelled⟩, ?_⟩
        simp only [Db.move, cancelled]
        rfl
      · simp only [cancelled, if_false, insertAudit, Tx.write_ok] at rest
        exact .inr (.inl ⟨b, rfl, cancelled, rest.symm⟩)

end Atrium
