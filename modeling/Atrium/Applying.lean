/-
# Applying -- a due delivery of a known payment is applied

Where the provider keeps its word, the three unique columns of a payment all follow from
its key (`KeyNamed`), so no update of one is refused; its booking is there, and every policy
can be read.  So the transaction that applies a delivery does not abort once it finds the
payment, and the delivery is processed.
-/
import Atrium.Accounts
import Atrium.RefundsAsked

namespace Atrium

open Atrium.Base

set_option autoImplicit false

/-! ## Unique columns -/

/-- The columns of a payment, as the provider names them after its key. -/
structure Payment.KeyNamed (w : Provider) (key : String) (p : Payment) : Prop where
  charge : ∀ c, p.chargeId = some c → c = w.chargeId key
  refund : ∀ r, p.refundId = some r → r = w.refundId (refundKey (w.chargeId key))
  minted : ∀ k, p.refundIdempotencyKey = some k → k = refundKey (w.chargeId key)

/-- Every payment is named after its key. -/
structure KeyNamed (w : Provider) (db : Db) : Prop where
  keys : KeysDistinct db
  rows : ∀ id p, db.payments.get? id = some p → p.KeyNamed w p.idempotencyKey

namespace KeyNamed

variable {w : Provider} {db db' : Db}

/-- A row that is named after its key breaks no unique index. -/
theorem fits (named : KeyNamed w db) {id : Uuid} {p p' : Payment}
    (here : db.payments.get? id = some p) (own : p'.KeyNamed w p.idempotencyKey) :
    paymentFits db id p' = true := by
  have alone : ∀ {id' q}, db.payments.get? id' = some q → q.idempotencyKey = p.idempotencyKey →
      id' = id := fun there same =>
    named.keys _ _ _ _ p.idempotencyKey there here (congrArg some same) rfl
  simp only [paymentFits, Bool.and_eq_true, Option.all_eq_true]
  refine ⟨⟨?_, ?_⟩, ?_⟩
  · intro c charge
    refine Table.free_iff.mpr fun id' q there charge' => alone there (w.chargeId_injective ?_)
    rw [← (named.rows id' q there).charge c charge', ← own.charge c charge]
  · intro r refund
    refine Table.free_iff.mpr fun id' q there refund' => alone there (w.chargeId_injective ?_)
    refine refundKey_injective (w.refundId_injective ?_)
    rw [← (named.rows id' q there).refund r refund', ← own.refund r refund]
  · intro k minted
    refine Table.free_iff.mpr fun id' q there minted' => alone there (w.chargeId_injective ?_)
    refine refundKey_injective ?_
    rw [← (named.rows id' q there).minted k minted', ← own.minted k minted]

theorem of_eq (named : KeyNamed w db) (same : db'.payments = db.payments) : KeyNamed w db' := by
  refine ⟨?_, fun id p here => named.rows id p (same ▸ here)⟩
  unfold KeysDistinct
  rw [same]
  exact named.keys

theorem modify (named : KeyNamed w db) {id : Uuid} {f : Payment → Payment}
    (updated : db'.payments = db.payments.modify id f)
    (key : ∀ p, (f p).idempotencyKey = p.idempotencyKey)
    (own : ∀ p, db.payments.get? id = some p → p.KeyNamed w p.idempotencyKey →
      (f p).KeyNamed w p.idempotencyKey) : KeyNamed w db' := by
  have rows : ∀ id' p', db'.payments.get? id' = some p' → ∃ p, db.payments.get? id' = some p ∧
      p'.idempotencyKey = p.idempotencyKey ∧ p'.KeyNamed w p.idempotencyKey := by
    intro id' p' here
    rw [updated] at here
    obtain ⟨p, stored, same⟩ := Table.get?_modify_some.mp here
    refine ⟨p, stored, ?_⟩
    by_cases mine : id' = id
    · subst mine
      rw [if_pos rfl] at same
      exact same ▸ ⟨key p, own p stored (named.rows id' p stored)⟩
    · rw [if_neg mine] at same
      exact same ▸ ⟨rfl, named.rows id' p stored⟩
  refine ⟨fun id₁ p₁ id₂ p₂ k here₁ here₂ own₁ own₂ => ?_, fun id' p' here => ?_⟩
  · obtain ⟨q₁, stored₁, key₁, -⟩ := rows id₁ p₁ here₁
    obtain ⟨q₂, stored₂, key₂, -⟩ := rows id₂ p₂ here₂
    exact named.keys id₁ q₁ id₂ q₂ k stored₁ stored₂
      ((congrArg some key₁).symm.trans own₁) ((congrArg some key₂).symm.trans own₂)
  · obtain ⟨p, -, same, holds⟩ := rows id' p' here
    rwa [same]

end KeyNamed

namespace Payment.KeyNamed

variable {w : Provider} {key c : String} {p : Payment}

theorem adopted (named : p.KeyNamed w key) (own : c = w.chargeId key) (now : Instant) :
    (adopted c now p).KeyNamed w key := by
  unfold Atrium.adopted
  split
  · exact ⟨fun _ same => Option.some.inj same ▸ own, named.refund, named.minted⟩
  · exact named

theorem markSucceeded (named : p.KeyNamed w key) (own : c = w.chargeId key) (now : Instant) :
    (markSucceeded c now p).KeyNamed w key :=
  ⟨fun _ same => Option.some.inj same ▸ own, named.refund, named.minted⟩

theorem mintRefundKey (named : p.KeyNamed w key) (own : c = w.chargeId key) (now : Instant) :
    (mintRefundKey (refundKey c) now p).KeyNamed w key := by
  unfold Atrium.mintRefundKey
  split
  · exact ⟨named.charge, named.refund, fun k same => Option.some.inj same ▸ own ▸ rfl⟩
  · exact named

theorem markRefunded (named : p.KeyNamed w key) {r : Option String}
    (own : ∀ r', r = some r' → r' = w.refundId (refundKey (w.chargeId key))) (amount : Minor)
    (now : Instant) : (markRefunded r amount now p).KeyNamed w key :=
  ⟨named.charge, own, named.minted⟩

end Payment.KeyNamed

theorem Kept.keyNamed {w : Provider} {api : Api} (kept : Kept w api) (backed : Backed api.db) :
    KeyNamed w api.db := by
  have ledgered := kept.tied.linked.ledgered
  refine ⟨ledgered.keys, fun id p here => ?_⟩
  have tracked := ledgered.rows id p here
  refine ⟨tracked.charge, fun r settled => ?_, fun k minted => ?_⟩
  · obtain ⟨c, charge, own⟩ := tracked.refund r settled
    rw [own, tracked.charge c charge]
  · obtain ⟨c, charge, -, own⟩ := (backed id p here).minted k minted
    rw [own, tracked.charge c charge]

/-! ## Policies -/

/-- The platform has a policy, and every policy can be read. -/
structure PolicyReady (db : Db) : Prop where
  platform : ∃ id p, db.cancellationPolicies.get? id = some p ∧ p.venueId = none
  read : ∀ id p, db.cancellationPolicies.get? id = some p → (Tiers.ofJson p.tiers).isSome

theorem PolicyReady.of_eq {db db' : Db} (ready : PolicyReady db)
    (same : db'.cancellationPolicies = db.cancellationPolicies) : PolicyReady db' :=
  ⟨same ▸ ready.platform, same ▸ ready.read⟩

theorem newestPolicy_some {db : Db} {venueId : Option Uuid} {row : Uuid × CancellationPolicy}
    (newest : newestPolicy db venueId = some row) :
    db.cancellationPolicies.get? row.1 = some row.2 := by
  have among := List.mem_of_head? newest
  rw [List.mem_insertionSort] at among
  exact (Table.mem_select.mp among).1

theorem PolicyReady.resolved {db : Db} (ready : PolicyReady db) (venueId : Uuid) (now : Instant) :
    ∃ snapshot, resolvePolicySnapshot venueId now db = .ok (snapshot, db) := by
  have parsed : ∀ {row : Uuid × CancellationPolicy} {venueId : Option Uuid},
      newestPolicy db venueId = some row → ∃ r, parseTiers row db = .ok (r, db) := by
    intro row venueId newest
    obtain ⟨tiers, read⟩ := Option.isSome_iff_exists.mp (ready.read _ _ (newestPolicy_some newest))
    exact ⟨(tiers, row.1), by simp [parseTiers, read]⟩
  have tiers : ∃ r, resolveTiers venueId db = .ok (r, db) := by
    cases own : newestPolicy db (some venueId) with
    | some row =>
        obtain ⟨r, ran⟩ := parsed own
        exact ⟨(r.1, r.2, .venue), by
          simp only [resolveTiers, Tx.read_bind, own]
          rw [Tx.bind_of_ok ran]
          rfl⟩
    | none =>
        cases platform : newestPolicy db none with
        | some row =>
            obtain ⟨r, ran⟩ := parsed platform
            exact ⟨(r.1, r.2, .platform), by
              simp only [resolveTiers, Tx.read_bind, own, platform]
              rw [Tx.bind_of_ok ran]
              rfl⟩
        | none =>
            obtain ⟨id, p, here, none_⟩ := ready.platform
            have among : (id, p) ∈ (db.cancellationPolicies.select fun _ p =>
                decide (p.venueId = none)).insertionSort newerFirst := by
              rw [List.mem_insertionSort]
              exact Table.mem_select.mpr ⟨here, decide_eq_true none_⟩
            rw [List.head?_eq_none_iff.mp platform] at among
            cases among
  obtain ⟨r, ran⟩ := tiers
  exact ⟨_, by rw [resolvePolicySnapshot, Tx.bind_of_ok ran]; rfl⟩

/-! ## Effects that return -/

theorem updatePayment_runs {w : Provider} {db : Db} (named : KeyNamed w db) {id : Uuid}
    {f : Payment → Payment} (own : ∀ p, db.payments.get? id = some p →
      p.KeyNamed w p.idempotencyKey → (f p).KeyNamed w p.idempotencyKey) :
    updatePayment id f db = .ok ((), db.modifyPayment id f) :=
  updatePayment_ok.mpr ⟨fun p here => named.fits here (own p here (named.rows id p here)), rfl⟩

theorem transition_runs (db : Db) (now : Instant) (input : TransitionInput) {b : Booking}
    (here : db.bookings.get? input.bookingId.value = some b)
    (expected : input.expectedFrom = some [b.status])
    (legal : isLegalTransition b.status input.target = true) :
    ∃ r t, transition now input db = .ok (r, t) ∧ t.payments = db.payments := by
  refine ⟨_, _, transition_ok.mpr ⟨b, here, fun _ same => ?_, of_decide_eq_true legal, rfl, rfl⟩, rfl⟩
  rw [expected] at same
  cases same
  exact List.mem_singleton_self _

section Effects

variable {w : Provider} {db : Db} {payment : Uuid × Payment} {c : String} {b : Booking}
  (named : KeyNamed w db)
  (own : ∀ p, db.payments.get? payment.1 = some p → c = w.chargeId p.idempotencyKey)
  (booked : db.bookings.get? payment.2.bookingId = some b)

include named booked

theorem onChargeFailed_runs (now : Instant) : ∃ r, onChargeFailed payment now db = .ok r := by
  have marked : updatePayment payment.1 (markFailed now) db = .ok ((), _) :=
    updatePayment_runs named fun p _ row => ⟨row.charge, row.refund, row.minted⟩
  rw [onChargeFailed, Tx.bind_of_ok marked]
  simp only [lockBooking, Tx.read_bind, Db.modifyPayment_bookings, booked]
  by_cases pending : b.status = .pendingPayment
  · rw [if_pos pending]
    obtain ⟨_, t, moved, -⟩ := transition_runs (db.modifyPayment payment.1 (markFailed now)) now
      { bookingId := payment.2.bookingId.path, target := .failed, actor := paygateActor
        reason := "payment.declined", expectedFrom := some [.pendingPayment], patch := .empty }
      booked (by rw [pending]) (by rw [pending]; rfl)
    rw [Tx.bind_of_ok moved]
    exact ⟨_, rfl⟩
  · rw [if_neg pending]
    exact ⟨_, rfl⟩

include own

/-- A captured charge is applied, whether or not its booking can still be confirmed. -/
theorem onChargeSucceeded_runs (ready : PolicyReady db) (now : Instant) :
    ∃ r, onChargeSucceeded payment c now db = .ok r := by
  have marked := updatePayment_runs named fun p here row =>
    row.markSucceeded (own p here) now
  have named₁ : KeyNamed w (db.modifyPayment payment.1 (markSucceeded c now)) :=
    named.modify rfl (fun _ => rfl) fun p here row =>
      row.markSucceeded (own p here) now
  rw [onChargeSucceeded, Tx.bind_of_ok marked]
  simp only [lockBooking, Tx.read_bind, Db.modifyPayment_bookings, booked]
  -- The key can be minted over whatever the booking's own move has left.
  have minted : ∀ s : Db, s.payments = (db.modifyPayment payment.1 (markSucceeded c now)).payments →
      updatePayment payment.1 (mintRefundKey (refundKey c) now) s =
        .ok ((), s.modifyPayment payment.1 (mintRefundKey (refundKey c) now)) := by
    intro s same
    refine updatePayment_runs (named₁.of_eq same) fun p here row => row.mintRefundKey ?_ now
    rw [same, Db.modifyPayment_payments] at here
    obtain ⟨q, stored, rfl⟩ := Table.get?_modify_some.mp here
    rw [if_pos rfl]
    exact own q stored
  by_cases pending : b.status = .pendingPayment
  · by_cases lapsed : b.lapsedAt now
    · rw [if_neg (by simp [lapsed]), if_pos pending]
      obtain ⟨_, t, moved, same⟩ := transition_runs
        (db.modifyPayment payment.1 (markSucceeded c now)) now
        { bookingId := payment.2.bookingId.path, target := .expired, actor := systemActor
          reason := "hold.expired.payment_arrived_late", expectedFrom := some [.pendingPayment]
          patch := .empty } booked
        (by rw [pending]) (by rw [pending]; rfl)
      rw [Tx.bind_of_ok moved, Tx.bind_of_ok (minted t same)]
      exact ⟨_, rfl⟩
    · rw [if_pos ⟨pending, lapsed⟩]
      have ready₁ : PolicyReady (db.modifyPayment payment.1 (markSucceeded c now)) := ready.of_eq rfl
      obtain ⟨snapshot, resolved⟩ := ready₁.resolved b.venueId now
      rw [Tx.bind_of_ok resolved]
      obtain ⟨_, t, moved, -⟩ := transition_runs
        (db.modifyPayment payment.1 (markSucceeded c now)) now
        { bookingId := payment.2.bookingId.path, target := .confirmed, actor := paygateActor
          reason := "payment.captured", expectedFrom := some [.pendingPayment]
          patch := { BookingPatch.empty with
            expiresAt := some none
            policySnapshot := some (some snapshot.toJson) } }
        booked (by rw [pending]) (by rw [pending]; rfl)
      rw [Tx.bind_of_ok moved]
      exact ⟨_, rfl⟩
  · rw [if_neg (by simp [pending]), if_neg pending, Tx.bind_of_ok (minted _ rfl)]
    exact ⟨_, rfl⟩

theorem onRefundSucceeded_runs {refundId : Option String}
    (settled : ∀ r, refundId.or payment.2.refundId = some r → r = w.refundId (refundKey c))
    (amount : Option Int) (now : Instant) :
    ∃ r, onRefundSucceeded payment refundId amount now db = .ok r := by
  have marked : updatePayment payment.1 (markRefunded (refundId.or payment.2.refundId)
      (amount.getD payment.2.amountMinor) now) db = .ok ((), db.modifyPayment payment.1
        (refundedPayment payment refundId amount now)) := by
    refine updatePayment_runs named fun p here row => row.markRefunded (fun r same => ?_) _ now
    rw [settled r same, own p here]
  rw [onRefundSucceeded, Tx.bind_of_ok marked]
  simp only [lockBooking, Tx.read_bind, Db.modifyPayment_bookings, booked]
  by_cases cancelled : b.status = .cancelled
  · rw [if_pos cancelled]
    obtain ⟨_, t, moved, -⟩ := transition_runs
      (db.modifyPayment payment.1 (refundedPayment payment refundId amount now)) now
      { bookingId := payment.2.bookingId.path, target := .refunded, actor := paygateActor
        reason := "refund.settled", expectedFrom := some [.cancelled], patch := .empty }
      booked (by rw [cancelled]) (by rw [cancelled]; rfl)
    rw [Tx.bind_of_ok moved]
    exact ⟨_, rfl⟩
  · rw [if_neg cancelled]
    exact ⟨_, rfl⟩

/-- The effect of an event that the provider has told of is applied. -/
theorem applyEffect_runs {e : WebhookEvent} (name : e.chargeId = c) (ready : PolicyReady db)
    (settled : e.event = .refundSucceeded →
      ∀ r, e.refundId.or payment.2.refundId = some r → r = w.refundId (refundKey c))
    (now : Instant) : ∃ r, applyEffect payment e now db = .ok r := by
  unfold applyEffect
  cases event : e.event with
  | chargeSucceeded =>
      rw [name]
      exact onChargeSucceeded_runs named own booked ready now
  | chargeFailed =>
      obtain ⟨⟨u, t⟩, ran⟩ := onChargeFailed_runs named booked now
      exact ⟨_, Tx.bind_of_ok ran⟩
  | refundSucceeded =>
      obtain ⟨⟨u, t⟩, ran⟩ := onRefundSucceeded_runs named own booked (settled event) e.amountMinor now
      exact ⟨_, Tx.bind_of_ok ran⟩

end Effects

/-! ## Events that find their payment -/

/-- A payment's key names its booking. -/
def Referenced (db : Db) : Prop :=
  ∀ id p, db.payments.get? id = some p →
    ∃ reference, p.idempotencyKey = chargeKey reference ∧ uuidOf reference = some p.bookingId

theorem Effect.referenced {env : Env} {t : Txn} {db db' : Db} {out : Outcome}
    (effect : Effect env t db db' out) (bound : t.pollBound db) (referenced : Referenced db) :
    Referenced db' := by
  intro id p' here
  rcases effect.payment_cases bound here with ⟨p, stored, keeps, -⟩ |
    ⟨bookingId, _, _, _, _, -, -, rfl⟩
  · obtain ⟨reference, key, names⟩ := referenced id p stored
    exact ⟨reference, keeps.key.trans key, by rw [names, keeps.booking]⟩
  · exact ⟨bookingId.text, rfl, bookingId.spells⟩

/-- What the transaction of a delivery rests on. -/
structure Applies (w : Provider) (db : Db) : Prop where
  named : KeyNamed w db
  referenced : Referenced db
  booked : ∀ id p, db.payments.get? id = some p → ∃ b, db.bookings.get? p.bookingId = some b
  ready : PolicyReady db

/-- An event of a charge that is on its payment, or that the event's reference finds. -/
structure Settleable (w : Provider) (db : Db) (e : WebhookEvent) : Prop where
  owner : ∃ id p, db.payments.get? id = some p ∧ e.chargeId = w.chargeId p.idempotencyKey ∧
    (p.chargeId ≠ none ∨ e.reference ≠ none)
  reference : ∀ reference, e.reference = some reference →
    e.chargeId = w.chargeId (chargeKey reference)
  refund : e.event = .refundSucceeded → ∀ r ∈ e.refundId, r = w.refundId (refundKey e.chargeId)

section Found

variable {w : Provider} {db : Db} {e : WebhookEvent} (applies : Applies w db)

include applies

theorem Applies.byReference {id : Uuid} {p : Payment} {reference : String}
    (here : db.payments.get? id = some p) (key : p.idempotencyKey = chargeKey reference) :
    paymentByReference db reference = some (id, p) := by
  obtain ⟨reference', key', names⟩ := applies.referenced id p here
  obtain rfl := chargeKey_injective (key.symm.trans key')
  have among := Table.mem_select (p := fun _ p' =>
    decide (p'.bookingId = p.bookingId ∧ p'.idempotencyKey = chargeKey reference)).mpr
      ⟨here, decide_eq_true ⟨rfl, key⟩⟩
  obtain ⟨row, found⟩ : ∃ row, paymentByReference db reference = some row := by
    unfold paymentByReference
    rw [names]
    exact Option.isSome_iff_exists.mp (List.isSome_head?.mpr (List.ne_nil_of_mem among))
  obtain ⟨stored, -, own⟩ := paymentByReference_some found
  have same := applies.named.keys row.1 row.2 id p _ stored here (congrArg some own)
    (congrArg some key)
  rw [found]
  obtain ⟨id', p'⟩ := row
  cases same
  cases here.symm.trans stored
  rfl

theorem findPayment_runs (settleable : Settleable w db e) (now : Instant) :
    ∃ payment t, findPayment e now db = .ok (some payment, t) := by
  cases found : paymentByChargeId db e.chargeId with
  | some payment =>
      refine ⟨payment, db, ?_⟩
      simp only [findPayment, Tx.read_bind, found]
      rfl
  | none =>
      obtain ⟨id, p, here, own, settled⟩ := settleable.owner
      have unbound : p.chargeId = none := by
        by_contra bound
        obtain ⟨c, charge⟩ := Option.ne_none_iff_exists'.mp bound
        refine paymentByChargeId_none found here ?_
        rw [charge, (applies.named.rows id p here).charge c charge, own]
      obtain ⟨reference, named⟩ :=
        Option.ne_none_iff_exists'.mp (settled.resolve_left fun bound => bound unbound)
      have key : p.idempotencyKey = chargeKey reference :=
        w.chargeId_injective (own.symm.trans (settleable.reference reference named))
      have bind : updatePayment id (adopted e.chargeId now) db = .ok ((), _) :=
        updatePayment_runs applies.named fun q stored row => by
          cases here.symm.trans stored
          exact row.adopted own now
      refine ⟨(id, adopted e.chargeId now p), db.modifyPayment id (adopted e.chargeId now), ?_⟩
      simp only [findPayment, Tx.read_bind, found, named, adoptChargeByReference,
        applies.byReference here key, unbound, if_true]
      exact Tx.bind_of_ok bind

/-- A lookup leaves what the effect rests on. -/
theorem findPayment_applies (settleable : Settleable w db e) {now : Instant} {t : Db}
    {r : Option (Uuid × Payment)} (looked : findPayment e now db = .ok (r, t)) :
    KeyNamed w t ∧ t.bookings = db.bookings ∧ t.cancellationPolicies = db.cancellationPolicies ∧
      ∀ id p, t.payments.get? id = some p → ∃ b, t.bookings.get? p.bookingId = some b := by
  rcases findPayment_ok looked with ⟨-, rfl, -⟩ | ⟨_, -, rfl, -⟩ |
    ⟨row, reference, named, -, adopt, -, -, -, rfl⟩
  · exact ⟨applies.named, rfl, rfl, applies.booked⟩
  · exact ⟨applies.named, rfl, rfl, applies.booked⟩
  · obtain ⟨here, -, key⟩ := paymentByReference_some adopt
    refine ⟨applies.named.modify rfl (fun p => (Payment.Keeps.adopted _ _ p).key)
      fun p stored own => own.adopted ?_ now, rfl, rfl, fun id p' there => ?_⟩
    · cases here.symm.trans stored
      rw [key]
      exact settleable.reference reference named
    · obtain ⟨p, stored, same⟩ := Table.get?_modify_some.mp there
      obtain ⟨b, booked⟩ := applies.booked id p stored
      refine ⟨b, ?_⟩
      split_ifs at same
      · rw [← same, (Payment.Keeps.adopted _ _ p).booking]
        exact booked
      · exact same ▸ booked

theorem applyEvent_runs (settleable : Settleable w db e) (now : Instant) :
    ∃ r, applyEvent e now db = .ok r := by
  obtain ⟨payment, t, looked⟩ := findPayment_runs applies settleable now
  obtain ⟨named, -, policies, booked⟩ := findPayment_applies applies settleable looked
  obtain ⟨stored, charge⟩ := findPayment_found looked
  rw [applyEvent, Tx.bind_of_ok looked]
  by_cases taken : ⟨e.chargeId, e.event⟩ ∈ t.paymentEvents
  · have lost : claimEvent ⟨e.chargeId, e.event⟩ t = .ok (false, t) :=
      claimEvent_ok.mpr (.inl ⟨rfl, taken, rfl⟩)
    exact ⟨_, Tx.bind_of_ok lost⟩
  · have won : claimEvent ⟨e.chargeId, e.event⟩ t = .ok (true, t.claim ⟨e.chargeId, e.event⟩) :=
      claimEvent_ok.mpr (.inr ⟨rfl, taken, rfl⟩)
    obtain ⟨b, booked⟩ := booked _ _ stored
    have own : ∀ p, (t.claim ⟨e.chargeId, e.event⟩).payments.get? payment.1 = some p →
        e.chargeId = w.chargeId p.idempotencyKey := by
      intro p here
      cases stored.symm.trans here
      exact (named.rows _ _ stored).charge _ charge
    have named₁ : KeyNamed w (t.claim ⟨e.chargeId, e.event⟩) := named.of_eq rfl
    have refund : e.event = .refundSucceeded →
        ∀ r, e.refundId.or payment.2.refundId = some r → r = w.refundId (refundKey e.chargeId) := by
      intro name r settled
      rcases Option.or_eq_some_iff.mp settled with said | ⟨-, read⟩
      · exact settleable.refund name r said
      · rw [(named.rows _ _ stored).charge _ charge]
        exact (named.rows _ _ stored).refund r read
    obtain ⟨⟨r, u⟩, ran⟩ := applyEffect_runs named₁ own booked rfl (applies.ready.of_eq policies)
      refund now
    exact ⟨_, (Tx.bind_of_ok won).trans (Tx.bind_of_ok ran)⟩

/-- **The transaction of a delivery returns**, once its event can be settled. -/
theorem applyInTransaction_runs {rowId : Uuid} {d : WebhookDelivery} {fields : WebhookFields}
    (here : db.webhookDeliveries.get? rowId = some d) (read : deliveryFields d = some fields)
    (settleable : d.processedAt = none → ∀ e, fields.supported = some e → Settleable w db e)
    (now : Instant) : ∃ r, applyInTransaction rowId now db = .ok r := by
  unfold applyInTransaction
  rw [Tx.read_bind, here]
  cases unprocessed : d.processedAt with
  | some at_ =>
      simp only [Option.filter_some, unprocessed, Option.isNone_some, Bool.false_eq_true, if_false]
      exact ⟨_, rfl⟩
  | none =>
      simp only [Option.filter_some, unprocessed, Option.isNone_none, if_true, Tx.fetch_bind, read]
      cases supported : fields.supported with
      | none => exact ⟨_, rfl⟩
      | some e =>
          obtain ⟨⟨verdict, t⟩, ran⟩ := applyEvent_runs applies (settleable unprocessed e supported) now
          exact ⟨_, (Tx.bind_of_ok ran).trans (settleDelivery_ok.mpr ⟨rfl, rfl⟩)⟩

end Found

end Atrium
