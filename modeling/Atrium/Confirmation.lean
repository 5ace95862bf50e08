/-
# Confirmation -- what stands behind a confirmed booking

A confirmed booking is one a captured charge confirmed: its deadline is gone, its policy
is frozen, and the charge's payment stands behind it, whole and not to be refunded.
Three facts keep it so.  A refund key is minted on a payment whose charge was applied, by
the very application or for a cancelled booking; a refund is settled only on a payment
with a key; a charge is applied once.

`EventChange` says of every transaction which of these it did.
-/
import Atrium.AuditTrail
import Atrium.BookingRead
import Atrium.PaymentOrigin
import Atrium.PaymentStatus

namespace Atrium

open Atrium.Base

set_option autoImplicit false

/-! ## An applied event -/

/-- A refund key of `db'` was there in `db`. -/
def KeysFrom (db db' : Db) : Prop :=
  ∀ id p', db'.payments.get? id = some p' → p'.refundIdempotencyKey ≠ none →
    ∃ p, db.payments.get? id = some p ∧ p.refundIdempotencyKey ≠ none

namespace KeysFrom

variable {db t db' : Db}

theorem of_eq (same : db'.payments = db.payments) : KeysFrom db db' := by
  intro id p' here minted
  rw [same] at here
  exact ⟨p', here, minted⟩

theorem modify {id : Uuid} {f : Payment → Payment}
    (updated : db'.payments = db.payments.modify id f)
    (kept : ∀ p : Payment, (f p).refundIdempotencyKey = p.refundIdempotencyKey) :
    KeysFrom db db' := by
  intro id' p' here minted
  rw [updated] at here
  obtain ⟨p, stored, same⟩ := Table.get?_modify_some.mp here
  refine ⟨p, stored, ?_⟩
  by_cases own : id' = id
  · rw [if_pos own] at same
    rwa [← kept p, same]
  · rw [if_neg own] at same
    rwa [same]

theorem trans (first : KeysFrom db t) (second : KeysFrom t db') : KeysFrom db db' := by
  intro id p'' here minted
  obtain ⟨p', stored, minted'⟩ := second id p'' here minted
  exact first id p' stored minted'

end KeysFrom

theorem adopted_key (chargeId : String) (now : Instant) (p : Payment) :
    (adopted chargeId now p).refundIdempotencyKey = p.refundIdempotencyKey := by
  unfold adopted
  split <;> rfl

theorem mintRefundKey_minted (key : String) (now : Instant) (p : Payment) :
    (mintRefundKey key now p).refundIdempotencyKey ≠ none := by
  unfold mintRefundKey
  split
  · exact Option.some_ne_none key
  · assumption

theorem findPayment_keys {e : WebhookEvent} {now : Instant} {db t : Db}
    {r : Option (Uuid × Payment)} (looked : findPayment e now db = .ok (r, t)) : KeysFrom db t := by
  rcases findPayment_ok looked with ⟨-, rfl, -⟩ | ⟨_, -, rfl, -⟩ | ⟨row, _, -, -, -, -, -, -, rfl⟩
  · exact .of_eq rfl
  · exact .of_eq rfl
  · exact .modify rfl fun p => adopted_key _ _ p

/-- The booking waits for its charge, in time. -/
def Confirmable (db : Db) (id : Uuid) (now : Instant) : Prop :=
  ∃ b, db.bookings.get? id = some b ∧ b.status = .pendingPayment ∧ b.lapsedAt now = false

def IsConfirmed (db : Db) (id : Uuid) : Prop :=
  ∃ b, db.bookings.get? id = some b ∧ b.status = .confirmed

/-- A booking a move elsewhere leaves confirmed was not the one moved. -/
theorem confirmed_of_moved {t : Table Uuid Booking} {id id' : Uuid} {target : BookingStatus}
    {now : Instant} {b' : Booking} (found : (t.modify id' (movedRow target now)).get? id = some b')
    (confirmed : b'.status = .confirmed) (other : target ≠ .confirmed) : t.get? id = some b' := by
  obtain ⟨b, here, same⟩ := Table.get?_modify_some.mp found
  by_cases own : id = id'
  · rw [if_pos own] at same
    exact absurd ((congrArg Booking.status same).trans confirmed) other
  · rw [if_neg own] at same
    rw [here, same]

namespace Consequence

variable {payment : Uuid × Payment} {e : WebhookEvent} {now : Instant} {db db' : Db}
  {r : Option RefundInstruction}

theorem late_payments (b : BookingStatus) : (lateCharge db payment e.chargeId now b).payments =
    db.payments.modify payment.1
      (mintRefundKey (refundKey e.chargeId) now ∘ markSucceeded e.chargeId now) := by
  by_cases pending : b = .pendingPayment <;> simp [lateCharge, pending]

/-- A key that is new is on the payment of the charge that was captured. -/
theorem keys (consequence : Consequence payment e now db r db') :
    KeysFrom db db' ∨ (e.event = .chargeSucceeded ∧ r ≠ none ∧
      db'.payments = db.payments.modify payment.1
        (mintRefundKey (refundKey e.chargeId) now ∘ markSucceeded e.chargeId now)) := by
  cases consequence with
  | confirmed b snapshot => exact .inl (.modify rfl fun p => rfl)
  | late b captured => exact .inr ⟨captured, Option.some_ne_none _, late_payments b.status⟩
  | declined => exact .inl (.modify rfl fun p => rfl)
  | declinedIdle => exact .inl (.modify rfl fun p => rfl)
  | refunded => exact .inl (.modify rfl fun p => rfl)
  | refundedTerminal => exact .inl (.modify rfl fun p => rfl)
  | refundedOrphan => exact .inl (.modify rfl fun p => rfl)

/-- A booking that is confirmed was, or waited for the charge in time. -/
theorem confirms (consequence : Consequence payment e now db r db') {id : Uuid} {b' : Booking}
    (found : db'.bookings.get? id = some b') (confirmed : b'.status = .confirmed) :
    db.bookings.get? id = some b' ∨
      (id = payment.2.bookingId ∧ e.event = .chargeSucceeded ∧ KeysFrom db db' ∧
        ∃ b snapshot, db.bookings.get? id = some b ∧ b.status = .pendingPayment ∧
          b.lapsedAt now = false ∧ b' = confirmedRow snapshot now b) := by
  cases consequence with
  | confirmed b snapshot captured fits here pending live =>
      rw [Db.move_bookings, Db.modifyPayment_bookings] at found
      obtain ⟨b₀, there, same⟩ := Table.get?_modify_some.mp found
      by_cases own : id = payment.2.bookingId
      · rw [if_pos own] at same
        rw [own] at there
        cases here.symm.trans there
        exact .inr ⟨own, captured, .modify rfl fun p => rfl, b, snapshot, own ▸ here, pending, live,
          same.symm⟩
      · rw [if_neg own] at same
        rw [← same]
        exact .inl there
  | late b captured fits here unconfirmable =>
      by_cases pending : b.status = .pendingPayment
      · simp only [lateCharge, pending, if_true, Db.audit_bookings, Db.modifyPayment_bookings] at found
        exact .inl (confirmed_of_moved found confirmed (by decide))
      · simp only [lateCharge, pending, if_false, Db.audit_bookings, Db.modifyPayment_bookings] at found
        exact .inl found
  | declined b _ _ _ => exact .inl (confirmed_of_moved found confirmed (by decide))
  | declinedIdle => exact .inl found
  | refunded b _ _ _ _ => exact .inl (confirmed_of_moved found confirmed (by decide))
  | refundedTerminal => exact .inl found
  | refundedOrphan => exact .inl found

/-- **The fork**, as the tables show it. -/
theorem settles (consequence : Consequence payment e now db r db')
    (captured : e.event = .chargeSucceeded) {p : Payment}
    (here : db.payments.get? payment.1 = some p) :
    (Confirmable db payment.2.bookingId now ∧ IsConfirmed db' payment.2.bookingId) ∨
      (¬ Confirmable db payment.2.bookingId now ∧
        ∃ p', db'.payments.get? payment.1 = some p' ∧ p'.refundIdempotencyKey ≠ none) := by
  cases consequence with
  | confirmed b snapshot _ _ found pending live =>
      refine .inl ⟨⟨b, found, pending, live⟩, confirmedRow snapshot now b, ?_, rfl⟩
      rw [Db.move_bookings, Db.modifyPayment_bookings, Table.get?_modify_self, found]
      rfl
  | late b _ _ found unconfirmable =>
      refine .inr ⟨?_, _, ?_,
        mintRefundKey_minted (refundKey e.chargeId) now (markSucceeded e.chargeId now p)⟩
      · rintro ⟨b', found', waits⟩
        cases found.symm.trans found'
        exact unconfirmable waits
      · rw [late_payments, Table.get?_modify_self, here]
        rfl
  | declined _ other => exact nomatch captured.symm.trans other
  | declinedIdle other => exact nomatch captured.symm.trans other
  | refunded _ other => exact nomatch captured.symm.trans other
  | refundedTerminal _ other => exact nomatch captured.symm.trans other
  | refundedOrphan other => exact nomatch captured.symm.trans other

end Consequence

/-! ## What a transaction does about charges -/

/-- The transaction applies the event, at this instant. -/
def Txn.tells (db : Db) (e : WebhookEvent) (now : Instant) : Txn → Prop
  | .apply rowId now' => now = now' ∧ pendingEvent db rowId = some e
  | .settleCharge _ chargeId captured now' => now = now' ∧
      e = ⟨chargeId, if captured then .chargeSucceeded else .chargeFailed, none, none, none⟩
  | .settleRefund _ chargeId refundId amountMinor now' => now = now' ∧
      e = ⟨chargeId, .refundSucceeded, none, refundId, some amountMinor⟩
  | _ => False

/-- It minted the key of a payment of the booking it settles. -/
def Txn.mints (db db' : Db) : Txn → Prop
  | .settleCancellation bookingId choice now => ∃ payment chargeId,
      capturedPayment db bookingId choice = some payment ∧ payment.2.chargeId = some chargeId ∧
        db'.payments = db.payments.modify payment.1 (mintRefundKey (refundKey chargeId) now)
  | _ => False

inductive EventChange (t : Txn) (db db' : Db) : Prop
  | quiet :
      db'.paymentEvents = db.paymentEvents → (KeysFrom db db' ∨ t.mints db db') →
      (∀ id b', db'.bookings.get? id = some b' → b'.status = .confirmed →
        db.bookings.get? id = some b') →
      EventChange t db db'
  | applied (payment : Uuid × Payment) (e : WebhookEvent) (now : Instant) (u v : Db)
      (r : Option RefundInstruction) (p : Payment) :
      t.tells db e now → u.bookings = db.bookings → u.paymentEvents = db.paymentEvents →
      KeysFrom db u → u.payments.get? payment.1 = some p → p.chargeId = some e.chargeId →
      p.bookingId = payment.2.bookingId → ⟨e.chargeId, e.event⟩ ∉ db.paymentEvents →
      Consequence payment e now (u.claim ⟨e.chargeId, e.event⟩) r v →
      db'.bookings = v.bookings → db'.payments = v.payments →
      db'.paymentEvents = v.paymentEvents → EventChange t db db'

/-- A bulk expiry confirms nothing. -/
theorem confirmed_of_expired {db : Db} {ids : List Uuid} {now : Instant} {actor : Actor}
    {reason : String} {id : Uuid} {b' : Booking}
    (found : (db.expire ids now actor reason).bookings.get? id = some b')
    (confirmed : b'.status = .confirmed) : db.bookings.get? id = some b' := by
  rw [Db.expire_bookings, Table.get?_update, Option.map_eq_some_iff] at found
  obtain ⟨b, here, same⟩ := found
  split_ifs at same with among
  · rw [← same] at confirmed
    cases confirmed
  · rw [here, same]

/-- **Every effect is one of the two.** -/
theorem Effect.eventChange {env : Env} {t : Txn} {db db' : Db} {out : Outcome}
    (effect : Effect env t db db' out) (bound : t.pollBound db) : EventChange t db db' := by
  have still : ∀ {u : Txn} {db' : Db}, db'.paymentEvents = db.paymentEvents →
      KeysFrom db db' → db'.bookings = db.bookings → EventChange u db db' :=
    fun events keys bookings => .quiet events (.inl keys) fun id b' found _ => bookings ▸ found
  cases effect with
  | nothing => exact still rfl (.of_eq rfl) rfl
  | held input ctx principal stamp expired priced _ bookings conflicts positive fresh =>
      refine .quiet rfl (.inl (.of_eq rfl)) fun id b' found confirmed => ?_
      rw [Db.hold_bookings, Table.get?_insert? fresh] at found
      split_ifs at found
      · cases found
        cases confirmed
      · exact confirmed_of_expired found confirmed
  | rearmed bookingId principal booking now _ b _ _ _ here status =>
      refine .quiet rfl (.inl (.of_eq rfl)) fun id b' found confirmed => ?_
      obtain ⟨b₀, there, same⟩ := Table.get?_modify_some.mp found
      by_cases own : id = bookingId.value
      · rw [if_pos own] at same
        rw [own, here] at there
        cases there
        have kept : b'.status = b.status := by rw [← same]; rfl
        rw [← kept, confirmed] at status
        simp at status
      · rw [if_neg own] at same
        rw [there, same]
  | paid bookingId principal booking existing stamp _ recorded _ payment inserted found moved =>
      have rest := inserted.rest
      have keys : KeysFrom db recorded := by
        rcases inserted with ⟨-, rfl⟩ | ⟨-, payments, inserted, rfl⟩
        · exact .of_eq rfl
        · intro id p' here minted
          rw [Table.get?_insert? inserted] at here
          split_ifs at here
          · cases here
            exact absurd rfl minted
          · exact ⟨p', here, minted⟩
      rcases moved with ⟨-, -, -, rfl⟩ | ⟨-, rfl⟩
      · refine .quiet rest.2.2.2.1 (.inl (keys.trans (.of_eq rfl))) fun id b' found confirmed => ?_
        rw [← rest.1]
        exact confirmed_of_moved found confirmed (by decide)
      · exact still rest.2.2.2.1 keys rest.1
  | bound paymentId chargeId now => exact still rfl (.modify rfl fun p => adopted_key _ _ p) rfl
  | cancelled bookingId reason principal now _ b =>
      exact .quiet rfl (.inl (.of_eq rfl)) fun id b' found confirmed =>
        confirmed_of_moved found confirmed (by decide)
  | refundMinted bookingId choice now _ booking payment chargeId snapshot breakdown _ captured charge =>
      exact .quiet rfl (.inr ⟨payment, chargeId, captured, charge, rfl⟩) fun id b' found _ => found
  | delivered => exact still rfl (.of_eq rfl) rfl
  | unsupported => exact still rfl (.of_eq rfl) rfl
  | lost rowId now _ u d fields e found verdict _ _ _ _ looked =>
      have rest := findPayment_rest looked
      exact still rest.2.2.2.1 ((findPayment_keys looked).trans (.of_eq rfl)) rest.1
  | applied rowId now _ u v d fields e payment r here unprocessed read supported looked applied =>
      have rest := findPayment_rest looked
      obtain ⟨stored, charge⟩ := findPayment_found looked
      exact .applied payment e now u v r payment.2
        ⟨rfl, pendingEvent_iff.mpr ⟨d, fields, here, unprocessed, read, supported⟩⟩ rest.1
        rest.2.2.2.1 (findPayment_keys looked) stored charge rfl (rest.2.2.2.1 ▸ applied.1)
        applied.consequence rfl rfl rfl
  | polledCharge payment chargeId captured now _ _ r applied =>
      obtain ⟨p, here, charge, booking, -⟩ := bound
      exact .applied payment _ now db db' r p ⟨rfl, rfl⟩ rfl rfl (.of_eq rfl) here charge booking
        applied.1 applied.consequence rfl rfl rfl
  | polledRefund payment chargeId refundId amountMinor now _ _ applied =>
      obtain ⟨⟨p, here, charge, booking, -⟩, -⟩ := bound
      exact .applied payment _ now db db' none p ⟨rfl, rfl⟩ rfl rfl (.of_eq rfl) here charge booking
        applied.1 applied.consequence rfl rfl rfl
  | explained _ paymentId f _ note =>
      refine still rfl (.modify rfl fun p => ?_) rfl
      obtain ⟨reason, now, same⟩ := note p
      rw [same]
  | refundBound paymentId refundId now =>
      refine still rfl (.modify rfl fun p => ?_) rfl
      unfold boundRefund
      split <;> rfl
  | swept now locked =>
      exact .quiet rfl (.inl (.of_eq rfl)) fun id b' found confirmed =>
        confirmed_of_expired found confirmed
  | policyAdded => exact still rfl (.of_eq rfl) rfl

/-! ## The tables -/

/-- The payment of an instruction, with its key. -/
def MintedFor (db : Db) (i : RefundInstruction) : Prop :=
  ∃ p, db.payments.get? i.paymentId = some p ∧ p.chargeId = some i.chargeId ∧
    p.refundIdempotencyKey ≠ none

theorem MintedFor.kept {db db' : Db} {i : RefundInstruction} (minted : MintedFor db i)
    (kept : paymentsKept db db') : MintedFor db' i := by
  obtain ⟨p, here, charge, key⟩ := minted
  obtain ⟨k, set⟩ := Option.ne_none_iff_exists'.mp key
  obtain ⟨p', here', keeps⟩ := kept _ p here
  exact ⟨p', here', keeps.charge _ charge, by rw [keeps.minted k set]; exact Option.some_ne_none k⟩

/-- A captured charge stands behind the booking, and is not to be refunded. -/
def CapturedFor (db : Db) (id : Uuid) : Prop :=
  ∃ pid p c, db.payments.get? pid = some p ∧ p.bookingId = id ∧ p.chargeId = some c ∧
    ⟨c, .chargeSucceeded⟩ ∈ db.paymentEvents ∧ p.refundIdempotencyKey = none

/-- Bookings, payments and events, as the confirmation leaves them. -/
structure Booked (db : Db) : Prop where
  priced : ∀ id p, db.payments.get? id = some p →
    ∃ b, db.bookings.get? p.bookingId = some b ∧ p.amountMinor = b.totalMinor
  minted : ∀ id p, db.payments.get? id = some p → p.refundIdempotencyKey ≠ none →
    ∃ c, p.chargeId = some c ∧ ⟨c, .chargeSucceeded⟩ ∈ db.paymentEvents
  refunded : ∀ c, ⟨c, .refundSucceeded⟩ ∈ db.paymentEvents → ∃ i, i.chargeId = c ∧ MintedFor db i
  confirmed : ∀ id b, db.bookings.get? id = some b → b.status = .confirmed →
    b.expiresAt = none ∧ (∃ s : PolicySnapshot, b.policySnapshot = some s.toJson) ∧
      CapturedFor db id

/-- What a transaction rests on: the terms of a booking it charges, the state of one it
settles, the key of a payment it is told the refund of. -/
structure Txn.Ready (db : Db) (t : Txn) : Prop where
  terms : ∀ bookingId principal booking existing stamp,
    t = .pay bookingId principal booking existing stamp →
      ∃ b, db.bookings.get? bookingId.value = some b ∧ booking.sameTerms b
  settles : ∀ bookingId choice now, t = .settleCancellation bookingId choice now →
    ∀ b, db.bookings.get? bookingId = some b → b.status ≠ .confirmed
  asked : ∀ e now, t.tells db e now → e.event = .refundSucceeded →
    ∃ i, i.chargeId = e.chargeId ∧ MintedFor db i

section Step

variable {w : Provider} {t : Txn} {db db' : Db}

/-- A key that is new is of a charge that is applied just then, or of a payment of the
booking that is settled. -/
theorem EventChange.minted (change : EventChange t db db') (ledgered : Ledgered w db) {id : Uuid}
    {p' : Payment} (here : db'.payments.get? id = some p') (key : p'.refundIdempotencyKey ≠ none) :
    (∃ p, db.payments.get? id = some p ∧ p.refundIdempotencyKey ≠ none) ∨
      ∃ c, p'.chargeId = some c ∧ ⟨c, .chargeSucceeded⟩ ∈ db'.paymentEvents ∧
        (⟨c, .chargeSucceeded⟩ ∉ db.paymentEvents ∨
          ∃ choice now, t = .settleCancellation p'.bookingId choice now) := by
  cases change with
  | quiet events keys _ =>
      rcases keys with keys | mints
      · exact .inl (keys id p' here key)
      · cases t with
        | settleCancellation bookingId choice now =>
            obtain ⟨payment, chargeId, captured, charge, updated⟩ := mints
            obtain ⟨stored, booking, succeeded⟩ := capturedPayment_some captured
            rw [updated] at here
            obtain ⟨p, there, same⟩ := Table.get?_modify_some.mp here
            by_cases own : id = payment.1
            · rw [if_pos own] at same
              rw [own] at there
              cases stored.symm.trans there
              have kept := Payment.Keeps.mintRefundKey (refundKey chargeId) now payment.2
              rw [same] at kept
              refine .inr ⟨chargeId, kept.charge _ charge, ?_, .inr ⟨choice, now, ?_⟩⟩
              · rw [events]
                exact ledgered.applied stored succeeded charge
              · rw [kept.booking, booking]
            · rw [if_neg own] at same
              rw [same] at there
              exact .inl ⟨p', there, key⟩
        | _ => exact mints.elim
  | applied payment e now u v r p _ _ events keysFrom stored charge _ fresh consequence _ payments after =>
      rw [payments] at here
      rcases consequence.keys with keys | ⟨captured, -, updated⟩
      · obtain ⟨q, there, key'⟩ := keys id p' here key
        exact .inl (keysFrom id q there key')
      · rw [updated] at here
        obtain ⟨q, there, same⟩ := Table.get?_modify_some.mp here
        by_cases own : id = payment.1
        · rw [if_pos own] at same
          refine .inr ⟨e.chargeId, ?_, ?_, .inl (captured ▸ fresh)⟩
          · rw [← same, Function.comp_apply, mintRefundKey_chargeId]
            rfl
          · rw [after, consequence.events.1, Db.claim_paymentEvents, captured]
            exact List.mem_append_right _ (List.mem_singleton.mpr rfl)
        · rw [if_neg own] at same
          rw [same] at there
          exact .inl (keysFrom id p' there key)

/-- An event that is new is the one the transaction applies. -/
theorem EventChange.claimed (change : EventChange t db db') :
    db.paymentEvents ⊆ db'.paymentEvents ∧
      ∀ pair ∈ db'.paymentEvents, pair ∈ db.paymentEvents ∨
        ∃ e now, t.tells db e now ∧ pair = ⟨e.chargeId, e.event⟩ := by
  cases change with
  | quiet events _ _ => exact ⟨events ▸ List.Subset.refl _, fun pair among => .inl (events ▸ among)⟩
  | applied payment e now u v r p tells _ events _ _ _ _ _ consequence _ _ after =>
      have grown : db'.paymentEvents = db.paymentEvents ++ [⟨e.chargeId, e.event⟩] := by
        rw [after, consequence.events.1, Db.claim_paymentEvents, events]
      refine ⟨grown ▸ List.subset_append_left _ _, fun pair among => ?_⟩
      rw [grown] at among
      rcases List.mem_append.mp among with before | new
      · exact .inl before
      · exact .inr ⟨e, now, tells, List.mem_singleton.mp new⟩

/-- What stood behind a booking stands behind it still, where no key was minted for it. -/
theorem CapturedFor.kept {id : Uuid} (captured : CapturedFor db id) (kept : paymentsKept db db')
    (change : EventChange t db db') (ledgered : Ledgered w db)
    (settles : ∀ choice now, t ≠ .settleCancellation id choice now) : CapturedFor db' id := by
  obtain ⟨pid, p, c, here, own, charge, applied, unminted⟩ := captured
  obtain ⟨p', here', keeps⟩ := kept pid p here
  refine ⟨pid, p', c, here', keeps.booking.trans own, keeps.charge c charge,
    change.claimed.1 applied, ?_⟩
  by_contra minted
  rcases change.minted ledgered here' minted with ⟨q, there, key⟩ | ⟨c', charge', -, fresh | ⟨_, _, same⟩⟩
  · cases here.symm.trans there
    exact key unminted
  · cases (keeps.charge c charge).symm.trans charge'
    exact fresh applied
  · rw [keeps.booking, own] at same
    exact settles _ _ same

/-- **A confirmation** puts the charge it applied behind its booking. -/
theorem CapturedFor.confirmed {payment : Uuid × Payment} {e : WebhookEvent} {now : Instant}
    {u v : Db} {r : Option RefundInstruction} {p : Payment} (booked : Booked db)
    (kept : paymentsKept db db') (keysFrom : KeysFrom db u)
    (stored : u.payments.get? payment.1 = some p) (charge : p.chargeId = some e.chargeId)
    (booking : p.bookingId = payment.2.bookingId)
    (fresh : ⟨e.chargeId, e.event⟩ ∉ db.paymentEvents)
    (consequence : Consequence payment e now (u.claim ⟨e.chargeId, e.event⟩) r v)
    (payments : db'.payments = v.payments) (after : db'.paymentEvents = v.paymentEvents)
    (captured : e.event = .chargeSucceeded)
    (keys : KeysFrom (u.claim ⟨e.chargeId, e.event⟩) v) :
    CapturedFor db' payment.2.bookingId := by
  obtain ⟨p', there, keeps⟩ := consequence.paymentsKept (fun q found => by
    rw [Db.claim_payments, stored] at found
    cases found
    exact charge) payment.1 p stored
  rw [← payments] at there
  refine ⟨payment.1, p', e.chargeId, there, keeps.booking.trans booking, keeps.charge _ charge, ?_, ?_⟩
  · rw [after, consequence.events.1, Db.claim_paymentEvents, captured]
    exact List.mem_append_right _ (List.mem_singleton.mpr rfl)
  · by_contra minted
    obtain ⟨q, claimed, key⟩ := keys payment.1 p' (payments ▸ there) minted
    obtain ⟨q₀, origin, key₀⟩ := keysFrom payment.1 q claimed key
    obtain ⟨c, own, applied⟩ := booked.minted payment.1 q₀ origin key₀
    obtain ⟨q', there', keeps'⟩ := kept payment.1 q₀ origin
    cases there.symm.trans there'
    cases (keeps'.charge c own).symm.trans (keeps.charge _ charge)
    exact fresh (captured ▸ applied)

/-- **Every effect** keeps what stands behind the confirmed bookings. -/
theorem Effect.booked {env : Env} {out : Outcome} (effect : Effect env t db db' out)
    (bound : t.pollBound db) (ledgered : Ledgered w db) (terms : bookingsKept db db')
    (ready : t.Ready db) (booked : Booked db) : Booked db' := by
  have kept := effect.paymentsKept bound
  have change := effect.eventChange bound
  have claimed := change.claimed
  refine ⟨?_, ?_, ?_, ?_⟩
  · intro id p' here
    rcases effect.payment_cases bound here with ⟨p, stored, keeps, -⟩ |
      ⟨bookingId, principal, booking, existing, stamp, own, -, rfl⟩
    · obtain ⟨b, found, amount⟩ := booked.priced id p stored
      obtain ⟨b', found', same⟩ := terms _ b found
      obtain ⟨-, -, -, -, -, total, -⟩ := same
      exact ⟨b', by rw [keeps.booking]; exact found', by rw [keeps.amount, amount, total]⟩
    · obtain ⟨b, found, read⟩ := ready.terms _ _ _ _ _ own
      obtain ⟨b', found', same⟩ := terms _ b found
      obtain ⟨-, -, -, -, -, total, -⟩ := read.trans same
      exact ⟨b', found', total.symm⟩
  · intro id p' here key
    rcases change.minted ledgered here key with ⟨p, stored, key'⟩ | ⟨c, charge, applied, -⟩
    · obtain ⟨c, charge, applied⟩ := booked.minted id p stored key'
      obtain ⟨p'', here', keeps⟩ := kept id p stored
      cases here.symm.trans here'
      exact ⟨c, keeps.charge c charge, claimed.1 applied⟩
    · exact ⟨c, charge, applied⟩
  · intro c among
    rcases claimed.2 _ among with before | ⟨e, now, tells, same⟩
    · obtain ⟨i, own, minted⟩ := booked.refunded c before
      exact ⟨i, own, minted.kept kept⟩
    · simp only [PaymentEvent.mk.injEq] at same
      obtain ⟨i, own, minted⟩ := ready.asked e now tells same.2.symm
      exact ⟨i, own.trans same.1.symm, minted.kept kept⟩
  · intro id b' found confirmed
    have old : db.bookings.get? id = some b' → b'.expiresAt = none ∧
        (∃ s : PolicySnapshot, b'.policySnapshot = some s.toJson) ∧ CapturedFor db' id := by
      intro stood
      obtain ⟨expires, snapshot, captured⟩ := booked.confirmed id b' stood confirmed
      refine ⟨expires, snapshot, captured.kept kept change ledgered fun choice now settling => ?_⟩
      exact ready.settles id choice now settling b' stood confirmed
    cases change with
    | quiet _ _ bookings => exact old (bookings id b' found confirmed)
    | applied payment e now u v r p tells same events keysFrom stored charge booking fresh
        consequence bookings payments after =>
        rw [bookings] at found
        rcases consequence.confirms found confirmed with stood |
          ⟨own, captured, keys, b, snapshot, -, -, -, rfl⟩
        · rw [Db.claim_bookings, same] at stood
          exact old stood
        · refine ⟨rfl, ⟨snapshot, rfl⟩, ?_⟩
          rw [own]
          exact .confirmed booked kept keysFrom stored charge booking fresh consequence payments after
            captured keys

end Step

/-! ## Runs -/

/-- The refund a process is about. -/
def Proc.instruction : Proc → Option RefundInstruction
  | .refunding i | .refundSent i | .refundFailed i _ | .refundAnswered i _ => some i
  | _ => none

/-- The booking whose money a process is about to settle. -/
def Proc.settling : Proc → Option Uuid
  | .cancelled bookingId => some bookingId
  | _ => none

/-- What a process relies on: the booking it settles is cancelled, the refund it asks for
has its key. -/
structure Proc.Vouched (db : Db) (p : Proc) : Prop where
  cancelled : ∀ id, p.settling = some id → statusOf db id ∈ [BookingStatus.cancelled, .refunded]
  minted : ∀ i, p.instruction = some i → MintedFor db i

structure Vouched (api : Api) : Prop where
  booked : Booked api.db
  procs : ∀ pid p, api.procs.get? pid = some p → p.Vouched api.db
  asked : ∀ i ∈ api.refundRequests, MintedFor api.db i

theorem Proc.Vouched.of_none {db : Db} {p : Proc} (settling : p.settling = none)
    (instruction : p.instruction = none) : p.Vouched db := by
  constructor
  · intro id same
    rw [settling] at same
    cases same
  · intro i same
    rw [instruction] at same
    cases same

theorem Proc.Vouched.of_minted {db : Db} {p : Proc} {i : RefundInstruction}
    (settling : p.settling = none) (instruction : p.instruction = some i)
    (minted : MintedFor db i) : p.Vouched db := by
  constructor
  · intro id same
    rw [settling] at same
    cases same
  · intro i' same
    rw [instruction] at same
    cases same
    exact minted

/-- The refund of a late charge has its key. -/
theorem Applied.minted {payment : Uuid × Payment} {e : WebhookEvent} {now : Instant}
    {db db' : Db} {i : RefundInstruction} (applied : Applied payment e now db (some i) db')
    {p : Payment} (here : db.payments.get? payment.1 = some p) : MintedFor db' i := by
  cases applied.consequence with
  | late b captured =>
      refine ⟨_, ?_, ?_, mintRefundKey_minted (refundKey e.chargeId) now (markSucceeded e.chargeId now p)⟩
      · rw [Consequence.late_payments, Table.get?_modify_self, Db.claim_payments, here]
        rfl
      · rw [mintRefundKey_chargeId]
        rfl

/-- What a commit goes on as. -/
theorem Effect.next_vouched {env : Env} {t : Txn} {db db' : Db} {out : Outcome}
    (effect : Effect env t db db' out) (bound : t.pollBound db) {p : Proc}
    (next : out.next = some p) : p.Vouched db' := by
  cases effect with
  | paid =>
      cases next
      exact .of_none rfl rfl
  | cancelled bookingId reason principal now _ b here =>
      cases next
      refine ⟨fun id same => ?_, fun i same => nomatch same⟩
      cases same
      have moved : (db.move bookingId.value b.status (movedRow .cancelled now) .cancelled
          ⟨.user, some principal.userId⟩ reason).bookings.get? bookingId.value =
            some (movedRow .cancelled now b) := by
        rw [Db.move_bookings, Table.get?_modify_self, here]
        rfl
      rw [statusOf_some moved]
      exact List.mem_cons_self
  | refundMinted bookingId choice now _ booking payment chargeId snapshot breakdown _ captured charge =>
      obtain ⟨i, same, rfl⟩ := refundOutcome_next (r := some _) next
      cases same
      have here := (capturedPayment_some captured).1
      refine .of_minted rfl rfl ⟨mintRefundKey (refundKey chargeId) now payment.2, ?_, ?_,
        mintRefundKey_minted _ _ _⟩
      · rw [Db.audit_payments, Db.modifyPayment_payments, Table.get?_modify_self, here]
        rfl
      · rw [mintRefundKey_chargeId]
        exact charge
  | applied rowId now _ u v d fields e payment r _ _ _ _ looked applied =>
      obtain ⟨i, rfl, rfl⟩ := refundOutcome_next next
      obtain ⟨p, here, charge, key⟩ := applied.minted (findPayment_found looked).1
      exact .of_minted rfl rfl ⟨p, here, charge, key⟩
  | polledCharge payment chargeId captured now _ _ r applied =>
      obtain ⟨i, rfl, rfl⟩ := refundOutcome_next next
      obtain ⟨q, here, -⟩ := bound
      exact .of_minted rfl rfl (applied.minted here)
  | _ => cases next

section Steps

variable {w : Provider} {env : Env} {a : Action} {api api' : Api}

/-- A commit has what its transaction rests on. -/
theorem Commits.ready {c : Commit} (commits : Commits api a c) (keeps : w.Keeps a api)
    (tied : Tied w api) (reads : ReadsStand api) (vouched : Vouched api) :
    c.txn.Ready api.db := by
  constructor
  · intro bookingId principal booking existing stamp own
    cases commits with
    | pay pid paymentId now bookingId' principal' booking' existing' startedAt here _ =>
        cases own
        exact reads pid _ (bookingId.value, booking) here rfl
    | _ => cases own
  · intro bookingId choice now own b found confirmed
    cases commits with
    | settleCancellation pid choice' now' bookingId' here _ =>
        cases own
        have status := (vouched.procs pid _ here).cancelled bookingId rfl
        rw [statusOf_some found, confirmed] at status
        simp at status
    | _ => cases own
  · intro e now tells name
    cases commits with
    | apply pid rowId now' =>
        obtain ⟨-, pending⟩ := tells
        obtain ⟨-, -, -, refunded⟩ := tied.linked.due rowId e pending
        obtain ⟨i, asked, same, -⟩ := refunded name
        exact ⟨i, same, vouched.asked i asked⟩
    | captured =>
        obtain ⟨-, rfl⟩ := tells
        cases name
    | declined =>
        obtain ⟨-, rfl⟩ := tells
        cases name
    | pollRefund pid found amountMinor now' payment chargeId refundId proc =>
        obtain ⟨-, rfl⟩ := tells
        obtain ⟨i, asked, same, -⟩ := tied.linked.polled proc keeps
        exact ⟨i, same, vouched.asked i asked⟩
    | _ => exact tells.elim

theorem step_vouched (stepped : step env a api = some api') (keeps : w.Keeps a api)
    (tied : Tied w api) (claimed : RowsClaimed api) (reads : ReadsStand api)
    (vouched : Vouched api) : Vouched api' := by
  have kept := step_paymentsKept tied.gated.polls stepped
  have settled : ∀ id, statusOf api.db id ∈ [BookingStatus.cancelled, .refunded] →
      statusOf api'.db id ∈ [BookingStatus.cancelled, .refunded] := by
    intro id was
    by_cases same : statusOf api.db id = statusOf api'.db id
    · exact same ▸ was
    · have move := (step_logged claimed stepped id).2 same
      simp only [List.mem_cons, List.not_mem_nil, or_false] at was
      rcases was with was | was
      · rw [was] at move
        exact List.mem_cons_of_mem _ move
      · rw [was] at move
        exact (List.not_mem_nil move).elim
  have old : ∀ p : Proc, p.Vouched api.db → p.Vouched api'.db := fun p was =>
    ⟨fun id own => settled id (was.cancelled id own), fun i own => (was.minted i own).kept kept⟩
  cases step_cases stepped with
  | committed c out db' enabled free ran =>
      have effect := Txn.run_effect ran
      have commits := commit_cases enabled
      have bound := commits.pollBound tied.gated.polls
      obtain ⟨ids, change, -⟩ := effect.bookingChange (commits.expiriesStale claimed)
      refine ⟨?_, ?_, ?_⟩
      · rw [Api.resume_db]
        exact effect.booked bound tied.linked.ledgered change.bookingsKept
          (commits.ready keeps tied reads vouched) vouched.booked
      · intro pid p here
        rw [Api.resume_procs] at here
        split_ifs at here
        · rw [Api.resume_db]
          exact effect.next_vouched bound here
        · exact old p (vouched.procs pid p here)
      · intro i among
        rw [Api.resume_refundRequests] at among
        exact (vouched.asked i among).kept kept
  | aborted c e enabled ran =>
      refine ⟨by simpa using vouched.booked, ?_, ?_⟩
      · intro pid p here
        rw [Api.resume_procs] at here
        split_ifs at here
        · cases commit_cases enabled with
          | refundAccepted pid' refusal now instruction refundId proc =>
              cases here
              refine old _ ⟨?_, fun i own => (vouched.procs pid' _ proc).minted i own⟩
              rintro id ⟨⟩
          | _ => cases here
        · exact old p (vouched.procs pid p here)
      · intro i among
        rw [Api.resume_refundRequests] at among
        exact (vouched.asked i among).kept kept
  | unshared _ moved =>
      have become : ∀ (pid : Pid) (p : Option Proc), (∀ q, p = some q → q.Vouched api.db) →
          ∀ pid' q, (api.become pid p).procs.get? pid' = some q → q.Vouched api.db := by
        intro pid p fresh pid' q here
        rw [Api.become_procs] at here
        split_ifs at here
        · exact fresh q here
        · exact vouched.procs pid' q here
      have same := moved.db
      cases moved with
      | ticked ms => exact ⟨vouched.booked, vouched.procs, vouched.asked⟩
      | charged pid request paymentId proc =>
          refine ⟨same ▸ vouched.booked, same ▸ become pid _ ?_, by simpa using vouched.asked⟩
          rintro q ⟨⟩
          exact .of_none rfl rfl
      | refundSent pid instruction proc =>
          have minted := (vouched.procs pid _ proc).minted instruction rfl
          refine ⟨same ▸ vouched.booked, same ▸ become pid _ ?_, ?_⟩
          · rintro q ⟨⟩
            exact .of_minted rfl rfl minted
          · intro i among
            rw [same]
            rcases List.mem_append.mp among with before | new
            · exact vouched.asked i before
            · obtain rfl := List.mem_singleton.mp new
              exact minted
      | refundAnswered pid instruction refundId proc =>
          refine ⟨same ▸ vouched.booked, same ▸ become pid _ ?_, by simpa using vouched.asked⟩
          rintro q ⟨⟩
          exact .of_minted rfl rfl ((vouched.procs pid _ proc).minted instruction rfl)
      | refundFailed pid instruction message proc =>
          refine ⟨same ▸ vouched.booked, same ▸ become pid _ ?_, by simpa using vouched.asked⟩
          rintro q ⟨⟩
          exact .of_minted rfl rfl ((vouched.procs pid _ proc).minted instruction rfl)
      | ended _ pid =>
          refine ⟨same ▸ vouched.booked, same ▸ become pid none ?_, by simpa using vouched.asked⟩
          rintro q ⟨⟩
      | _ =>
          refine ⟨same ▸ vouched.booked, same ▸ become _ _ ?_, by simpa using vouched.asked⟩
          rintro q ⟨⟩
          exact .of_none rfl rfl

theorem Vouched.start {db : Db} (fresh : db.Fresh) (now : Instant) : Vouched (Api.start now db) := by
  obtain ⟨bookings, -, payments, events, -, -⟩ := id fresh
  refine ⟨⟨?_, ?_, ?_, ?_⟩, ?_, nofun⟩
  · intro id p here
    simp [Api.start, payments] at here
  · intro id p here
    simp [Api.start, payments] at here
  · intro c among
    simp [Api.start, events] at among
  · intro id b here
    simp [Api.start, bookings] at here
  · intro pid p here
    simp [Api.start] at here

/-! ## Confirmed and paid -/

/-- The instant at which the step decides on an event. -/
def Action.decides : Action → Option Instant
  | .apply _ _ now | .pollCharge _ _ now | .pollRefund _ _ _ now => some now
  | _ => none

/-- What a confirmed booking is. -/
structure Confirmed (db : Db) (id : Uuid) (b : Booking) : Prop where
  expires : b.expiresAt = none
  snapshot : (parseSnapshot b.policySnapshot).isSome
  paid : ∃ pid p, db.payments.get? pid = some p ∧ p.bookingId = id ∧ p.status = .succeeded ∧
    p.amountMinor = b.totalMinor ∧ p.refundIdempotencyKey = none

/-- What a step decides: it confirms a booking that waits for its charge in time and no
other, and a captured charge that confirms none is on its way back. -/
structure Decides (a : Action) (db db' : Db) : Prop where
  confirms : ∀ id, IsConfirmed db' id →
    IsConfirmed db id ∨ ∃ now, a.decides = some now ∧ Confirmable db id now
  captures : ∀ c, ⟨c, .chargeSucceeded⟩ ∉ db.paymentEvents →
    ⟨c, .chargeSucceeded⟩ ∈ db'.paymentEvents → ∃ now pid p, a.decides = some now ∧
      db'.payments.get? pid = some p ∧ p.chargeId = some c ∧
      ((Confirmable db p.bookingId now ∧ IsConfirmed db' p.bookingId) ∨
        (¬ Confirmable db p.bookingId now ∧ p.refundIdempotencyKey ≠ none))

theorem Booked.confirmedRow (booked : Booked api.db) (tied : Tied w api) {id : Uuid} {b : Booking}
    (found : api.db.bookings.get? id = some b) (confirmed : b.status = .confirmed) :
    Confirmed api.db id b := by
  obtain ⟨expires, ⟨s, snapshot⟩, pid, p, c, here, own, charge, applied, unminted⟩ :=
    booked.confirmed id b found confirmed
  refine ⟨expires, by rw [snapshot, parseSnapshot_toJson]; rfl, pid, p, here, own, ?_, ?_, unminted⟩
  · -- A refund of it would be of a payment of the same charge with a key.
    have unrefunded : ⟨c, .refundSucceeded⟩ ∉ api.db.paymentEvents := by
      intro among
      obtain ⟨i, same, q, there, charge', key⟩ := booked.refunded c among
      rw [same] at charge'
      obtain rfl := tied.gated.distinct _ q _ p c there here charge' charge
      cases here.symm.trans there
      exact key unminted
    rw [(tied.linked.ledgered.rows pid p here).status, charge]
    simp only [statusFrom, unrefunded, applied, if_false, if_true]
  · obtain ⟨b', found', amount⟩ := booked.priced pid p here
    rw [own] at found'
    cases found.symm.trans found'
    exact amount

theorem Commits.decides {c : Commit} (commits : Commits api a c) {e : WebhookEvent} {now : Instant}
    (tells : c.txn.tells api.db e now) : a.decides = some now := by
  cases commits with
  | apply => rw [tells.1]; rfl
  | captured => rw [tells.1]; rfl
  | declined => rw [tells.1]; rfl
  | pollRefund => rw [tells.1]; rfl
  | _ => exact tells.elim

theorem EventChange.decides {t : Txn} {db db' : Db} (change : EventChange t db db')
    (instant : ∀ e now, t.tells db e now → a.decides = some now) : Decides a db db' := by
  cases change with
  | quiet events _ bookings =>
      constructor
      · rintro id ⟨b', found, confirmed⟩
        exact .inl ⟨b', bookings id b' found confirmed, confirmed⟩
      · intro c fresh among
        rw [events] at among
        exact absurd among fresh
  | applied payment e now u v r p tells same events keysFrom stored charge booking fresh consequence
      bookings payments after =>
      have at_ := instant e now tells
      have waits : ∀ id, Confirmable (u.claim ⟨e.chargeId, e.event⟩) id now ↔ Confirmable db id now := by
        intro id
        unfold Confirmable
        rw [Db.claim_bookings, same]
      constructor
      · rintro id ⟨b', found, confirmed⟩
        rw [bookings] at found
        rcases consequence.confirms found confirmed with stood | ⟨-, -, -, b, -, here, pending, live, -⟩
        · rw [Db.claim_bookings, same] at stood
          exact .inl ⟨b', stood, confirmed⟩
        · exact .inr ⟨now, at_, (waits id).mp ⟨b, here, pending, live⟩⟩
      · intro c unclaimed among
        rw [after, consequence.events.1, Db.claim_paymentEvents, events] at among
        obtain ⟨rfl, captured⟩ : e.chargeId = c ∧ e.event = .chargeSucceeded := by
          rcases List.mem_append.mp among with before | new
          · exact absurd before unclaimed
          · simpa [eq_comm] using List.mem_singleton.mp new
        obtain ⟨p', there, keeps⟩ := consequence.paymentsKept (fun q found => by
          rw [Db.claim_payments, stored] at found
          cases found
          exact charge) payment.1 p stored
        refine ⟨now, payment.1, p', at_, payments ▸ there, keeps.charge _ charge, ?_⟩
        rw [keeps.booking, booking]
        rcases consequence.settles captured stored with ⟨waited, b', found, confirmed⟩ |
          ⟨late, q, minted, key⟩
        · exact .inl ⟨(waits _).mp waited, b', bookings ▸ found, confirmed⟩
        · cases there.symm.trans minted
          exact .inr ⟨fun waited => late ((waits _).mpr waited), key⟩

theorem step_decides (stepped : step env a api = some api') (tied : Tied w api) :
    Decides a api.db api'.db := by
  rcases step_db stepped with same | ⟨c, out, commits, -, effect⟩
  · rw [same]
    exact ⟨fun id was => .inl was, fun c fresh among => absurd among fresh⟩
  · have bound := commits.pollBound tied.gated.polls
    exact (effect.eventChange bound).decides fun e now tells =>
      commits.decides tells

end Steps

/-- **Confirmed is paid**, in every state of a run in which the provider keeps its word, and
every step decides so. -/
theorem confirmed_is_paid {w : Provider} {env : Env} {now : Instant} {db : Db} (fresh : db.Fresh)
    {api : Api} (reached : ReachableAlong (step env) w.Keeps (Api.start now db) api) :
    (∀ id b, api.db.bookings.get? id = some b → b.status = .confirmed → Confirmed api.db id b) ∧
      ∀ a api', step env a api = some api' → Decides a api.db api'.db := by
  have holds : Tied w api ∧ RowsClaimed api ∧ ReadsStand api ∧ Vouched api := by
    refine reached.invariant (I := fun api => Tied w api ∧ RowsClaimed api ∧ ReadsStand api ∧
      Vouched api) ⟨.start w fresh now, .start now db, .start now db, .start fresh now⟩ ?_
    rintro a api api' stepped keeps ⟨tied, claimed, reads, vouched⟩
    obtain ⟨claimed', reads'⟩ := step_readsStand a api api' stepped ⟨claimed, reads⟩
    exact ⟨step_tied stepped keeps tied, claimed', reads',
      step_vouched stepped keeps tied claimed reads vouched⟩
  obtain ⟨tied, -, -, vouched⟩ := holds
  exact ⟨fun id b found confirmed => vouched.booked.confirmedRow tied found confirmed,
    fun a api' stepped => step_decides stepped tied⟩

/-- A hold paid for, whose charge is told captured while the hold lasts. -/
def capturedInTime : List Action :=
  let captured : WebhookEvent :=
    ⟨chargeKey (Uuid.text 7), .chargeSucceeded, some (Uuid.text 7), none, none⟩
  Sample.holding 0 Sample.hold 7 0 ++
    [.payBegin 1 (Uuid.path 7) Sample.customer, .payRead 1, .payCommit 1 8 0, .sendCharge 1,
      .deliver (Sample.settlement "d_1" captured) 9 0, .apply 2 9 0]

theorem confirmed_is_paid_capturedInTime : ∃ api b,
    run (step .default) capturedInTime (Api.start 0 Sample.db) = some api ∧
      api.db.bookings.get? 7 = some b ∧ b.status = .confirmed ∧ Confirmed api.db 7 b := by
  have ran : ((run (step .default) capturedInTime (Api.start 0 Sample.db)).bind fun api =>
      api.db.bookings.get? 7).map Booking.status = some .confirmed := by
    decide +kernel
  have along : Along (step .default) Sample.paygate.Keeps capturedInTime (Api.start 0 Sample.db) := by
    decide +kernel
  obtain ⟨b, found, confirmed⟩ := Option.map_eq_some_iff.mp ran
  obtain ⟨api, ran, found⟩ := Option.bind_eq_some_iff.mp found
  obtain ⟨rows, -⟩ := confirmed_is_paid Sample.db_fresh ⟨capturedInTime, ran, along⟩
  exact ⟨api, b, ran, found, confirmed, rows 7 b found confirmed⟩

end Atrium
