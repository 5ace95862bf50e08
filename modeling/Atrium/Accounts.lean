/-
# Accounts -- where the money of a captured charge is

A captured charge is banked until its refund key is minted: the payment stands as
SUCCEEDED, and nothing of it is to be given back.  Only a confirmation banks one, and it
finds its booking waiting, so a booking has at most one banked payment, and a banked
payment a booking that was confirmed.  A refund id comes after its key.

`PaymentMove` is what one transaction does to one payment; each of these facts is read off
it case by case.
-/
import Atrium.Confirmation

namespace Atrium

open Atrium.Base

set_option autoImplicit false

/-! ## What a transaction does to a payment -/

/-- A payment `p` of `db`, and what the transaction makes of it. -/
inductive PaymentMove (t : Txn) (db db' : Db) (id : Uuid) : Payment → Payment → Prop
  | kept (p : Payment) : PaymentMove t db db' id p p
  | confirmed (p : Payment) (e : WebhookEvent) (now : Instant) :
      t.tells db e now → e.event = .chargeSucceeded → p.chargeId = some e.chargeId →
      statusOf db p.bookingId = .pendingPayment → statusOf db' p.bookingId = .confirmed →
      PaymentMove t db db' id p (markSucceeded e.chargeId now p)
  | late (p : Payment) (e : WebhookEvent) (now : Instant) :
      PaymentMove t db db' id p
        (mintRefundKey (refundKey e.chargeId) now (markSucceeded e.chargeId now p))
  | declined (p : Payment) (now : Instant) : PaymentMove t db db' id p (markFailed now p)
  | refunded (p : Payment) (payment : Uuid × Payment) (e : WebhookEvent) (now : Instant) :
      t.tells db e now → e.event = .refundSucceeded → p.chargeId = some e.chargeId →
      PaymentMove t db db' id p (refundedPayment payment e.refundId e.amountMinor now p)
  | minted (p : Payment) (chargeId : String) (now : Instant) :
      PaymentMove t db db' id p (mintRefundKey (refundKey chargeId) now p)
  | explained (p q : Payment) : noted p q → PaymentMove t db db' id p q
  | refundBound (p : Payment) (refundId : String) (now : Instant) :
      t = .refundAccepted id refundId now →
      PaymentMove t db db' id p (boundRefund refundId now p)

/-- The charge id of a payment, adopted before the rest. -/
def Bound (p q : Payment) : Prop := q = p ∨ ∃ c now, q = adopted c now p

/-- A payment of `db'` is new and PENDING, or one of `db` that was moved. -/
def PaymentsMoved (t : Txn) (db db' : Db) : Prop :=
  ∀ id p', db'.payments.get? id = some p' →
    (∃ bookingId key amountMinor at_, p' = newPayment bookingId key amountMinor at_) ∨
      ∃ p q, db.payments.get? id = some p ∧ Bound p q ∧ PaymentMove t db db' id q p'

namespace PaymentsMoved

variable {t : Txn} {db db' : Db}

theorem of_eq (same : db'.payments = db.payments) : PaymentsMoved t db db' := by
  intro id p' here
  exact .inr ⟨p', p', same ▸ here, .inl rfl, .kept p'⟩

theorem modify {id : Uuid} {f : Payment → Payment}
    (updated : db'.payments = db.payments.modify id f)
    (moved : ∀ p, db.payments.get? id = some p →
      ∃ q, Bound p q ∧ PaymentMove t db db' id q (f p)) : PaymentsMoved t db db' := by
  intro id' p' here
  rw [updated] at here
  obtain ⟨p, stored, same⟩ := Table.get?_modify_some.mp here
  refine .inr ⟨p, ?_⟩
  by_cases own : id' = id
  · subst own
    rw [if_pos rfl] at same
    obtain ⟨q, bound, move⟩ := moved p stored
    exact ⟨q, stored, bound, same ▸ move⟩
  · rw [if_neg own] at same
    exact ⟨p, stored, .inl rfl, same ▸ .kept p⟩

end PaymentsMoved

/-- A lookup leaves the payments, or binds one. -/
theorem findPayment_adopts {e : WebhookEvent} {now : Instant} {db t : Db}
    {r : Option (Uuid × Payment)} (looked : findPayment e now db = .ok (r, t)) {id : Uuid}
    {q : Payment} (here : t.payments.get? id = some q) :
    ∃ p, db.payments.get? id = some p ∧ Bound p q := by
  rcases findPayment_ok looked with ⟨-, rfl, -⟩ | ⟨_, -, rfl, -⟩ | ⟨row, _, -, -, -, -, -, -, rfl⟩
  · exact ⟨q, here, .inl rfl⟩
  · exact ⟨q, here, .inl rfl⟩
  · obtain ⟨p, stored, same⟩ := Table.get?_modify_some.mp here
    refine ⟨p, stored, ?_⟩
    split_ifs at same
    · exact .inr ⟨_, _, same.symm⟩
    · exact .inl same.symm

/-- What the consequence of an event makes of each payment it finds. -/
theorem Consequence.paymentMove {t : Txn} {origin : Db} {payment : Uuid × Payment}
    {e : WebhookEvent} {now : Instant} {db db' : Db} {r : Option RefundInstruction}
    (consequence : Consequence payment e now db r db') (tells : t.tells origin e now)
    (bookings : db.bookings = origin.bookings)
    (own : ∀ p, db.payments.get? payment.1 = some p →
      p.chargeId = some e.chargeId ∧ p.bookingId = payment.2.bookingId)
    {id : Uuid} {p' : Payment} (here : db'.payments.get? id = some p') :
    ∃ q, db.payments.get? id = some q ∧ PaymentMove t origin db' id q p' := by
  -- One payment is updated; the others are as they were.
  have updated : ∀ f : Payment → Payment, db'.payments = db.payments.modify payment.1 f →
      (∀ p, db.payments.get? payment.1 = some p → PaymentMove t origin db' payment.1 p (f p)) →
        ∃ q, db.payments.get? id = some q ∧ PaymentMove t origin db' id q p' := by
    intro f same moved
    rw [same] at here
    obtain ⟨p, stored, same⟩ := Table.get?_modify_some.mp here
    by_cases mine : id = payment.1
    · subst mine
      rw [if_pos rfl] at same
      exact ⟨p, stored, same ▸ moved p stored⟩
    · rw [if_neg mine] at same
      exact ⟨p, stored, same ▸ .kept p⟩
  cases consequence with
  | confirmed b snapshot captured _ found pending live =>
      refine updated _ rfl fun p stored => ?_
      obtain ⟨charge, booking⟩ := own p stored
      refine .confirmed p e now tells captured charge ?_ ?_
      · rw [booking, statusOf, ← bookings, found, ← pending]
        rfl
      · rw [booking, statusOf, Db.move_bookings, Db.modifyPayment_bookings, Table.get?_modify_self,
          found]
        rfl
  | late b captured => exact updated _ (Consequence.late_payments b.status) fun p _ => .late p e now
  | declined => exact updated _ rfl fun p _ => .declined p now
  | declinedIdle => exact updated _ rfl fun p _ => .declined p now
  | refunded b name =>
      exact updated _ rfl fun p stored => .refunded p payment e now tells name (own p stored).1
  | refundedTerminal b name =>
      exact updated _ rfl fun p stored => .refunded p payment e now tells name (own p stored).1
  | refundedOrphan name =>
      exact updated _ rfl fun p stored => .refunded p payment e now tells name (own p stored).1

/-- A move into `v` is one into any state with its bookings. -/
theorem PaymentMove.into {t : Txn} {db v db' : Db} {id : Uuid} {p q : Payment}
    (move : PaymentMove t db v id p q) (bookings : db'.bookings = v.bookings) :
    PaymentMove t db db' id p q := by
  cases move with
  | kept => exact .kept p
  | confirmed e now tells captured charge pending after =>
      exact .confirmed p e now tells captured charge pending
        ((statusOf_congr bookings _).trans after)
  | late e now => exact .late p e now
  | declined now => exact .declined p now
  | refunded payment e now tells name charge => exact .refunded p payment e now tells name charge
  | minted chargeId now => exact .minted p chargeId now
  | explained _ note => exact .explained p q note
  | refundBound refundId now own => exact .refundBound p refundId now own

/-- **Every effect moves payments so.** -/
theorem Effect.paymentsMoved {env : Env} {t : Txn} {db db' : Db} {out : Outcome}
    (effect : Effect env t db db' out) (bound : t.pollBound db) : PaymentsMoved t db db' := by
  cases effect with
  | paid bookingId principal booking existing stamp _ recorded _ payment inserted found moved =>
      have same : db'.payments = recorded.payments := by
        rcases moved with ⟨-, -, -, rfl⟩ | ⟨-, rfl⟩ <;> rfl
      rcases inserted with ⟨-, rfl⟩ | ⟨-, payments, inserted, rfl⟩
      · exact .of_eq same
      · intro id p' here
        rw [same, Table.get?_insert? inserted] at here
        split_ifs at here
        · cases here
          exact .inl ⟨_, _, _, _, rfl⟩
        · exact .inr ⟨p', p', here, .inl rfl, .kept p'⟩
  | bound paymentId chargeId now =>
      exact .modify rfl fun p _ => ⟨_, .inr ⟨chargeId, now, rfl⟩, .kept _⟩
  | refundMinted bookingId choice now _ booking payment chargeId =>
      exact .modify rfl fun p _ => ⟨p, .inl rfl, .minted p chargeId now⟩
  | lost rowId now _ u d fields e found verdict _ _ _ _ looked =>
      intro id p' here
      obtain ⟨p, stored, bound⟩ := findPayment_adopts looked here
      exact .inr ⟨p, p', stored, bound, .kept p'⟩
  | applied rowId now _ u v d fields e payment r here unprocessed read supported looked applied =>
      have tells : (Txn.apply rowId now).tells db e now :=
        ⟨rfl, pendingEvent_iff.mpr ⟨d, fields, here, unprocessed, read, supported⟩⟩
      obtain ⟨stored, charge⟩ := findPayment_found looked
      intro id p' there
      obtain ⟨q, claimed, move⟩ := applied.consequence.paymentMove tells
        (by rw [Db.claim_bookings]; exact (findPayment_rest looked).1) (fun p found => by
          rw [Db.claim_payments, stored] at found
          cases found
          exact ⟨charge, rfl⟩) there
      rw [Db.claim_payments] at claimed
      obtain ⟨p, origin, bound⟩ := findPayment_adopts looked claimed
      exact .inr ⟨p, q, origin, bound, move.into rfl⟩
  | polledCharge payment chargeId captured now _ _ r applied =>
      obtain ⟨p, stored, charge, booking, -⟩ := bound
      intro id p' there
      have tells : (Txn.settleCharge payment chargeId captured now).tells db _ now := ⟨rfl, rfl⟩
      obtain ⟨q, claimed, move⟩ := applied.consequence.paymentMove tells rfl (fun p found => by
          rw [Db.claim_payments, stored] at found
          cases found
          exact ⟨charge, booking⟩) there
      exact .inr ⟨q, q, claimed, .inl rfl, move⟩
  | polledRefund payment chargeId refundId amountMinor now _ _ applied =>
      obtain ⟨⟨p, stored, charge, booking, -⟩, -⟩ := bound
      intro id p' there
      have tells : (Txn.settleRefund payment chargeId refundId amountMinor now).tells db _ now :=
        ⟨rfl, rfl⟩
      obtain ⟨q, claimed, move⟩ := applied.consequence.paymentMove tells rfl (fun p found => by
          rw [Db.claim_payments, stored] at found
          cases found
          exact ⟨charge, booking⟩) there
      exact .inr ⟨q, q, claimed, .inl rfl, move⟩
  | explained _ paymentId f _ note =>
      exact .modify rfl fun p _ => ⟨p, .inl rfl, .explained p (f p) (note p)⟩
  | refundBound paymentId refundId now =>
      exact .modify rfl fun p _ => ⟨p, .inl rfl, .refundBound p refundId now rfl⟩
  | _ => exact .of_eq rfl

/-- A transaction tells of one event. -/
theorem Txn.tells_unique {t : Txn} {db : Db} {e e' : WebhookEvent} {now now' : Instant}
    (tells : t.tells db e now) (tells' : t.tells db e' now') : e = e' := by
  cases t with
  | apply => exact Option.some.inj (tells.2.symm.trans tells'.2)
  | settleCharge => exact tells.2.trans tells'.2.symm
  | settleRefund => exact tells.2.trans tells'.2.symm
  | _ => exact tells.elim

/-! ## Banked payments -/

/-- Captured, and not to be given back. -/
def Payment.Banked (p : Payment) : Prop := p.status = .succeeded ∧ p.refundIdempotencyKey = none

instance (p : Payment) : Decidable p.Banked := inferInstanceAs (Decidable (_ ∧ _))

/-- What a booking that was confirmed may be. -/
def onceConfirmed : List BookingStatus := [.confirmed, .cancelled, .refunded]

theorem Bound.banked {p q : Payment} (bound : Bound p q) (banked : q.Banked) :
    p.Banked ∧ p.bookingId = q.bookingId := by
  rcases bound with rfl | ⟨c, now, rfl⟩
  · exact ⟨banked, rfl⟩
  · obtain ⟨status, unminted⟩ := banked
    rw [adopted_key] at unminted
    unfold adopted at status ⊢
    split at status
    · exact ⟨⟨status, unminted⟩, by rw [if_pos ‹_›]⟩
    · exact ⟨⟨status, unminted⟩, by rw [if_neg ‹_›]⟩

namespace PaymentMove

variable {t : Txn} {db db' : Db} {id : Uuid} {q p' : Payment}

/-- A payment is banked by the confirmation of its booking, and by nothing else. -/
theorem banked (move : PaymentMove t db db' id q p') (banked : p'.Banked) :
    (q.Banked ∧ q.bookingId = p'.bookingId) ∨
      ∃ e now, t.tells db e now ∧ p'.chargeId = some e.chargeId ∧
        statusOf db p'.bookingId = .pendingPayment ∧ statusOf db' p'.bookingId = .confirmed := by
  cases move with
  | kept => exact .inl ⟨banked, rfl⟩
  | confirmed e now tells _ _ pending after => exact .inr ⟨e, now, tells, rfl, pending, after⟩
  | late e now => exact absurd banked.2 (mintRefundKey_minted _ _ _)
  | declined now => cases banked.1
  | refunded payment e now => cases banked.1
  | minted chargeId now => exact absurd banked.2 (mintRefundKey_minted _ _ _)
  | explained _ note =>
      obtain ⟨reason, now, rfl⟩ := note
      exact .inl ⟨banked, rfl⟩
  | refundBound refundId now =>
      unfold boundRefund at banked ⊢
      split at banked
      · exact .inl ⟨banked, by rw [if_pos ‹_›]⟩
      · exact .inl ⟨banked, by rw [if_neg ‹_›]⟩

/-- A refund id is set for a refund that settles, or that the provider accepts. -/
theorem refundId (move : PaymentMove t db db' id q p') (settled : p'.refundId ≠ none) :
    (q.refundId ≠ none ∧ (q.refundIdempotencyKey ≠ none → p'.refundIdempotencyKey ≠ none)) ∨
      (∃ e now, t.tells db e now ∧ e.event = .refundSucceeded ∧ p'.chargeId = some e.chargeId) ∨
      ∃ refundId now, t = .refundAccepted id refundId now := by
  cases move with
  | kept => exact .inl ⟨settled, fun minted => minted⟩
  | confirmed e now => exact .inl ⟨settled, fun minted => minted⟩
  | late e now =>
      rw [mintRefundKey_refundId] at settled
      exact .inl ⟨settled, fun _ => mintRefundKey_minted _ _ _⟩
  | declined now => exact .inl ⟨settled, fun minted => minted⟩
  | refunded payment e now tells name charge => exact .inr (.inl ⟨e, now, tells, name, charge⟩)
  | minted chargeId now =>
      rw [mintRefundKey_refundId] at settled
      exact .inl ⟨settled, fun _ => mintRefundKey_minted _ _ _⟩
  | explained _ note =>
      obtain ⟨reason, now, rfl⟩ := note
      exact .inl ⟨settled, fun minted => minted⟩
  | refundBound refundId now own => exact .inr (.inr ⟨refundId, now, own⟩)

end PaymentMove

/-! ## Bookings are never completed -/

def Uncompleted (db : Db) : Prop :=
  ∀ id b, db.bookings.get? id = some b → b.status ≠ .completed

namespace Uncompleted

variable {db db' : Db}

theorem modify {id : Uuid} {f : Booking → Booking} (uncompleted : Uncompleted db)
    (updated : db'.bookings = db.bookings.modify id f)
    (kept : ∀ b, db.bookings.get? id = some b → b.status ≠ .completed → (f b).status ≠ .completed) :
    Uncompleted db' := by
  intro id' b' found
  rw [updated] at found
  obtain ⟨b, here, same⟩ := Table.get?_modify_some.mp found
  by_cases own : id' = id
  · subst own
    rw [if_pos rfl] at same
    exact same ▸ kept b here (uncompleted id' b here)
  · rw [if_neg own] at same
    exact same ▸ uncompleted id' b here

theorem of_eq (uncompleted : Uncompleted db) (same : db'.bookings = db.bookings) :
    Uncompleted db' := by
  intro id b found
  exact uncompleted id b (same ▸ found)

theorem moved {id : Uuid} {target : BookingStatus} {now : Instant} (uncompleted : Uncompleted db)
    (updated : db'.bookings = db.bookings.modify id (movedRow target now))
    (other : target ≠ .completed) : Uncompleted db' :=
  uncompleted.modify updated fun _ _ _ => other

theorem expired {ids : List Uuid} {now : Instant} {actor : Actor} {reason : String}
    (uncompleted : Uncompleted db) : Uncompleted (db.expire ids now actor reason) := by
  intro id b' found
  rw [Db.expire_bookings, Table.get?_update, Option.map_eq_some_iff] at found
  obtain ⟨b, here, rfl⟩ := found
  split_ifs
  · nofun
  · exact uncompleted id b here

end Uncompleted

theorem Consequence.uncompleted {payment : Uuid × Payment} {e : WebhookEvent} {now : Instant}
    {db db' : Db} {r : Option RefundInstruction} (consequence : Consequence payment e now db r db')
    (uncompleted : Uncompleted db) : Uncompleted db' := by
  cases consequence with
  | confirmed b snapshot => exact uncompleted.modify rfl fun _ _ _ => nofun
  | late b =>
      by_cases pending : b.status = .pendingPayment
      · have moved : (lateCharge db payment e.chargeId now b.status).bookings =
            db.bookings.modify payment.2.bookingId (movedRow .expired now) := by
          simp [lateCharge, pending]
        exact uncompleted.moved moved (by decide)
      · exact uncompleted.of_eq (by simp [lateCharge, pending])
  | declined => exact uncompleted.moved rfl (by decide)
  | refunded => exact uncompleted.moved rfl (by decide)
  | _ => exact uncompleted.of_eq rfl

/-- **No transaction completes a booking.** -/
theorem Effect.uncompleted {env : Env} {t : Txn} {db db' : Db} {out : Outcome}
    (effect : Effect env t db db' out) (uncompleted : Uncompleted db) : Uncompleted db' := by
  cases effect with
  | held input ctx principal stamp expired priced _ bookings conflicts positive fresh =>
      intro id b' found
      rw [Db.hold_bookings, Table.get?_insert? fresh] at found
      split_ifs at found
      · cases found
        rintro ⟨⟩
      · exact uncompleted.expired id b' found
  | rearmed => exact uncompleted.modify rfl fun _ _ kept => kept
  | paid bookingId principal booking existing stamp _ recorded _ payment inserted found moved =>
      have same := inserted.rest.1
      rcases moved with ⟨-, -, -, rfl⟩ | ⟨-, rfl⟩
      · exact (uncompleted.of_eq same).moved rfl (by decide)
      · exact uncompleted.of_eq same
  | cancelled => exact uncompleted.moved rfl (by decide)
  | lost rowId now _ u d fields e found verdict _ _ _ _ looked =>
      exact uncompleted.of_eq (findPayment_rest looked).1
  | applied rowId now _ u v d fields e payment r _ _ _ _ looked applied =>
      have claimed : Uncompleted (u.claim ⟨e.chargeId, e.event⟩) :=
        uncompleted.of_eq (findPayment_rest looked).1
      exact (applied.consequence.uncompleted claimed).of_eq rfl
  | polledCharge payment chargeId captured now _ _ r applied =>
      exact applied.consequence.uncompleted (uncompleted.of_eq rfl)
  | polledRefund payment chargeId refundId amountMinor now _ _ applied =>
      exact applied.consequence.uncompleted (uncompleted.of_eq rfl)
  | swept => exact uncompleted.expired
  | _ => exact uncompleted.of_eq rfl

/-! ## The accounts -/

/-- What the payments and bookings say of the money that was captured. -/
structure Accounts (db : Db) : Prop where
  banked : ∀ id p, db.payments.get? id = some p → p.Banked → statusOf db p.bookingId ∈ onceConfirmed
  single : ∀ id p id' p', db.payments.get? id = some p → db.payments.get? id' = some p' →
    p.Banked → p'.Banked → p.bookingId = p'.bookingId → id = id'
  keyed : ∀ id p, db.payments.get? id = some p → p.refundId ≠ none → p.refundIdempotencyKey ≠ none
  uncompleted : Uncompleted db

/-- The payment of a refund the provider accepted has its key. -/
def Txn.accepts (db : Db) : Txn → Prop
  | .refundAccepted paymentId _ _ =>
      ∃ p, db.payments.get? paymentId = some p ∧ p.refundIdempotencyKey ≠ none
  | _ => True

theorem Uncompleted.statusOf {db : Db} (uncompleted : Uncompleted db) (id : Uuid) :
    statusOf db id ≠ .completed := by
  unfold Atrium.statusOf
  cases found : db.bookings.get? id with
  | none => nofun
  | some b => exact uncompleted id b found

section Step

variable {t : Txn} {db db' : Db}

/-- A payment of `db'` that is banked was, or its booking is confirmed just now. -/
theorem PaymentsMoved.banked (moved : PaymentsMoved t db db') {id : Uuid} {p' : Payment}
    (here : db'.payments.get? id = some p') (banked : p'.Banked) :
    (∃ p, db.payments.get? id = some p ∧ p.Banked ∧ p.bookingId = p'.bookingId) ∨
      ∃ e now, t.tells db e now ∧ p'.chargeId = some e.chargeId ∧
        statusOf db p'.bookingId = .pendingPayment ∧ statusOf db' p'.bookingId = .confirmed := by
  rcases moved id p' here with ⟨bookingId, key, amountMinor, at_, rfl⟩ | ⟨p, q, stored, bound, move⟩
  · cases banked.1
  · rcases move.banked banked with ⟨before, booking⟩ | confirms
    · obtain ⟨origin, same⟩ := bound.banked before
      exact .inl ⟨p, stored, origin, same.trans booking⟩
    · exact .inr confirms

theorem onceConfirmed_kept (legal : ∀ id, statusOf db id ≠ statusOf db' id →
    legal (statusOf db id) (statusOf db' id)) (uncompleted : Uncompleted db') {id : Uuid}
    (was : statusOf db id ∈ onceConfirmed) : statusOf db' id ∈ onceConfirmed := by
  by_cases same : statusOf db id = statusOf db' id
  · exact same ▸ was
  · have move := legal id same
    have other := uncompleted.statusOf id
    simp only [onceConfirmed, List.mem_cons, List.not_mem_nil, or_false] at was ⊢
    rcases was with was | was | was <;> rw [was] at move <;>
      simp [Atrium.legal, legalTransitions] at move
    · exact .inr (.inl (move.resolve_right other))
    · exact .inr (.inr move)

/-- **Every effect keeps the accounts.** -/
theorem Effect.accounts {env : Env} {out : Outcome} (effect : Effect env t db db' out)
    (bound : t.pollBound db) (distinct : ChargesDistinct db') (ready : t.Ready db)
    (accepts : t.accepts db) (legal : ∀ id, statusOf db id ≠ statusOf db' id →
      legal (statusOf db id) (statusOf db' id)) (accounts : Accounts db) : Accounts db' := by
  have moved := effect.paymentsMoved bound
  have kept := effect.paymentsKept bound
  have uncompleted := effect.uncompleted accounts.uncompleted
  refine ⟨?_, ?_, ?_, uncompleted⟩
  · intro id p' here banked
    rcases moved.banked here banked with ⟨p, stored, before, same⟩ | ⟨_, _, _, _, _, after⟩
    · exact onceConfirmed_kept legal uncompleted (same ▸ accounts.banked id p stored before)
    · rw [after]
      exact List.mem_cons_self
  · intro id p id' p' here here' banked banked' same
    -- A booking that waits for its charge has no banked payment.
    have waiting : ∀ {i r i' r'}, db.payments.get? i = some r → r.Banked →
        r.bookingId = r'.bookingId → statusOf db r'.bookingId = .pendingPayment →
          db'.payments.get? i' = some r' → False := by
      intro i r i' r' stored before own pending _
      have status := accounts.banked i r stored before
      rw [own, pending] at status
      simp [onceConfirmed] at status
    rcases moved.banked here banked with ⟨r, stored, before, own⟩ | ⟨e, now, tells, charge, pending, -⟩
    · rcases moved.banked here' banked' with ⟨r', stored', before', own'⟩ | ⟨_, _, _, _, pending, -⟩
      · exact accounts.single id r id' r' stored stored' before before' (own.trans (same.trans own'.symm))
      · exact (waiting stored before (own.trans same) pending here').elim
    · rcases moved.banked here' banked' with ⟨r', stored', before', own'⟩ |
        ⟨e', now', tells', charge', -, -⟩
      · exact (waiting stored' before' (own'.trans same.symm) pending here).elim
      · cases Txn.tells_unique tells tells'
        exact distinct id p id' p' e.chargeId here here' charge charge'
  · intro id p' here settled
    rcases moved id p' here with ⟨bookingId, key, amountMinor, at_, rfl⟩ | ⟨p, q, stored, binds, move⟩
    · exact absurd rfl settled
    · rcases move.refundId settled with ⟨was, keeps⟩ | ⟨e, now, tells, name, charge⟩ |
        ⟨refundId, now, own⟩
      · refine keeps ?_
        rcases binds with rfl | ⟨c, now, rfl⟩
        · exact accounts.keyed id _ stored was
        · rw [adopted_refundId] at was
          rw [adopted_key]
          exact accounts.keyed id p stored was
      · obtain ⟨i, same, minted⟩ := ready.asked e now tells name
        obtain ⟨p'', there, charge', key⟩ := minted.kept kept
        rw [same] at charge'
        obtain rfl := distinct id p' _ p'' e.chargeId here there charge charge'
        cases here.symm.trans there
        exact key
      · subst own
        obtain ⟨r, there, key⟩ := accepts
        obtain ⟨k, set⟩ := Option.ne_none_iff_exists'.mp key
        obtain ⟨r', there', keeps⟩ := kept id r there
        cases here.symm.trans there'
        rw [keeps.minted k set]
        exact Option.some_ne_none k

end Step

/-! ## Runs -/

/-- What the accounts rest on, in every state of a run the provider keeps its word in. -/
structure Kept (w : Provider) (api : Api) : Prop where
  tied : Tied w api
  claimed : RowsClaimed api
  reads : ReadsStand api
  vouched : Vouched api
  accounts : Accounts api.db

theorem Accounts.start {db : Db} (fresh : db.Fresh) : Accounts db := by
  obtain ⟨bookings, -, payments, -, -, -⟩ := fresh
  refine ⟨?_, ?_, ?_, ?_⟩
  · intro id p here
    simp [payments] at here
  · intro id p id' p' here
    simp [payments] at here
  · intro id p here
    simp [payments] at here
  · intro id b here
    simp [bookings] at here

theorem step_kept {w : Provider} {env : Env} {a : Action} {api api' : Api}
    (stepped : step env a api = some api') (keeps : w.Keeps a api) (kept : Kept w api) :
    Kept w api' := by
  have tied := step_tied stepped keeps kept.tied
  obtain ⟨claimed, reads⟩ := step_readsStand a api api' stepped ⟨kept.claimed, kept.reads⟩
  refine ⟨tied, claimed, reads,
    step_vouched stepped keeps kept.tied kept.claimed kept.reads kept.vouched, ?_⟩
  rcases step_db stepped with same | ⟨c, out, commits, -, effect⟩
  · exact same ▸ kept.accounts
  · refine effect.accounts (commits.pollBound kept.tied.gated.polls) tied.gated.distinct
      (commits.ready keeps kept.tied kept.reads kept.vouched) ?_
      (fun id => (step_logged kept.claimed stepped id).2) kept.accounts
    cases commits with
    | refundAccepted pid refusal now instruction refundId proc =>
        obtain ⟨p, here, -, key⟩ := (kept.vouched.procs pid _ proc).minted instruction rfl
        exact ⟨p, here, key⟩
    | _ => trivial

theorem Kept.start {w : Provider} {db : Db} (fresh : db.Fresh) (now : Instant) :
    Kept w (Api.start now db) :=
  ⟨.start w fresh now, .start now db, .start now db, .start fresh now, .start fresh⟩

theorem kept_of_reachable {w : Provider} {env : Env} {now : Instant} {db : Db} (fresh : db.Fresh)
    {api : Api} (reached : ReachableAlong (step env) w.Keeps (Api.start now db) api) :
    Kept w api :=
  reached.invariant (.start fresh now) fun _ _ _ stepped keeps kept => step_kept stepped keeps kept

end Atrium
