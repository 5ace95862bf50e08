/-
# RefundsAsked -- what the provider is asked to give back

A refund is asked for by whoever mints its key: a cancellation being settled, or a late
charge being applied.  Its instruction leaves the transaction once, with the key, and is
sent at most once.  So the requests ever sent have distinct keys, one a payment, and what
is asked of a payment is within what it was charged, whatever the provider answers and
whatever it signs.

A key is minted where a captured charge was applied (`Payment.Backed`); a transaction that
issues an instruction finds its key on no payment (`Effect.issues`); `Asking` follows the
instructions from there to the requests.
-/
import Atrium.Confirmation
import Atrium.Pricing

namespace Atrium

open Atrium.Base

set_option autoImplicit false

/-! ## What a key rests on -/

/-- A settled or keyed payment is one whose captured charge was applied. -/
structure Payment.Backed (events : List PaymentEvent) (p : Payment) : Prop where
  succeeded : p.status = .succeeded → ∃ c, p.chargeId = some c ∧ ⟨c, .chargeSucceeded⟩ ∈ events
  minted : ∀ k, p.refundIdempotencyKey = some k →
    ∃ c, p.chargeId = some c ∧ ⟨c, .chargeSucceeded⟩ ∈ events ∧ k = refundKey c

def Backed (db : Db) : Prop := ∀ id p, db.payments.get? id = some p → p.Backed db.paymentEvents

namespace Payment.Backed

variable {events events' : List PaymentEvent} {p : Payment}

theorem grow (backed : p.Backed events) (grown : events ⊆ events') : p.Backed events' := by
  constructor
  · intro status
    obtain ⟨c, charge, applied⟩ := backed.succeeded status
    exact ⟨c, charge, grown applied⟩
  · intro k minted
    obtain ⟨c, charge, applied, key⟩ := backed.minted k minted
    exact ⟨c, charge, grown applied, key⟩

theorem opened (events : List PaymentEvent) (bookingId : Uuid) (key : String)
    (amountMinor : Minor) (createdAt : Instant) :
    (newPayment bookingId key amountMinor createdAt).Backed events :=
  ⟨nofun, nofun⟩

theorem adopted (backed : p.Backed events) (chargeId : String) (now : Instant) :
    (adopted chargeId now p).Backed events := by
  unfold Atrium.adopted
  split
  · -- Neither column is set before the charge id is.
    rename_i unbound
    constructor
    · intro status
      obtain ⟨c, charge, -⟩ := backed.succeeded status
      rw [unbound] at charge
      cases charge
    · intro k minted
      obtain ⟨c, charge, -⟩ := backed.minted k minted
      rw [unbound] at charge
      cases charge
  · exact backed

theorem markSucceeded {c : String} (backed : p.Backed events) (bound : p.chargeId = some c)
    (applied : ⟨c, .chargeSucceeded⟩ ∈ events) (now : Instant) :
    (markSucceeded c now p).Backed events := by
  refine ⟨fun _ => ⟨c, rfl, applied⟩, fun k minted => ?_⟩
  obtain ⟨c', charge, applied', key⟩ := backed.minted k minted
  cases bound.symm.trans charge
  exact ⟨c, rfl, applied', key⟩

theorem markFailed (backed : p.Backed events) (now : Instant) :
    (markFailed now p).Backed events :=
  ⟨nofun, backed.minted⟩

theorem markRefunded (backed : p.Backed events) (refundId : Option String) (amount : Minor)
    (now : Instant) : (markRefunded refundId amount now p).Backed events :=
  ⟨nofun, backed.minted⟩

theorem mintRefundKey {c : String} (backed : p.Backed events) (bound : p.chargeId = some c)
    (applied : ⟨c, .chargeSucceeded⟩ ∈ events) (now : Instant) :
    (mintRefundKey (refundKey c) now p).Backed events := by
  unfold Atrium.mintRefundKey
  split
  · refine ⟨backed.succeeded, ?_⟩
    rintro k ⟨⟩
    exact ⟨c, bound, applied, rfl⟩
  · exact backed

theorem boundRefund (backed : p.Backed events) (refundId : String) (now : Instant) :
    (boundRefund refundId now p).Backed events := by
  unfold Atrium.boundRefund
  split
  · exact ⟨backed.succeeded, backed.minted⟩
  · exact backed

theorem noted {q : Payment} (backed : p.Backed events) (same : Atrium.noted p q) :
    q.Backed events := by
  obtain ⟨reason, now, rfl⟩ := same
  exact ⟨backed.succeeded, backed.minted⟩

end Payment.Backed

namespace Backed

variable {db db' : Db}

theorem of_eq (backed : Backed db) (payments : db'.payments = db.payments)
    (events : db.paymentEvents ⊆ db'.paymentEvents) : Backed db' := by
  intro id p here
  exact (backed id p (payments ▸ here)).grow events

theorem modify {id : Uuid} {f : Payment → Payment} (backed : Backed db)
    (updated : db'.payments = db.payments.modify id f)
    (events : db.paymentEvents ⊆ db'.paymentEvents)
    (kept : ∀ p, db.payments.get? id = some p → p.Backed db'.paymentEvents →
      (f p).Backed db'.paymentEvents) : Backed db' := by
  intro id' p' here
  rw [updated] at here
  obtain ⟨p, stored, same⟩ := Table.get?_modify_some.mp here
  have before := (backed id' p stored).grow events
  by_cases own : id' = id
  · subst own
    rw [if_pos rfl] at same
    exact same ▸ kept p stored before
  · rw [if_neg own] at same
    exact same ▸ before

end Backed

/-- The consequence of an event keeps the payments backed, once the event is applied. -/
theorem Consequence.backed {payment : Uuid × Payment} {e : WebhookEvent} {now : Instant}
    {db db' : Db} {r : Option RefundInstruction} (consequence : Consequence payment e now db r db')
    (own : ∀ p, db.payments.get? payment.1 = some p → p.chargeId = some e.chargeId)
    (applied : ⟨e.chargeId, e.event⟩ ∈ db.paymentEvents) (backed : Backed db) : Backed db' := by
  have events : db.paymentEvents ⊆ db'.paymentEvents := by
    rw [consequence.events.1]
    exact List.Subset.refl _
  have captured : e.event = .chargeSucceeded → ⟨e.chargeId, .chargeSucceeded⟩ ∈ db'.paymentEvents :=
    fun name => events (name ▸ applied)
  cases consequence with
  | confirmed b snapshot name =>
      exact backed.modify rfl events fun p here before =>
        before.markSucceeded (own p here) (captured name) now
  | late b name =>
      refine backed.modify (Consequence.late_payments b.status) events fun p here before => ?_
      exact (before.markSucceeded (own p here) (captured name) now).mintRefundKey rfl (captured name) now
  | declined => exact backed.modify rfl events fun p _ before => before.markFailed now
  | declinedIdle => exact backed.modify rfl events fun p _ before => before.markFailed now
  | refunded => exact backed.modify rfl events fun p _ before => before.markRefunded _ _ now
  | refundedTerminal => exact backed.modify rfl events fun p _ before => before.markRefunded _ _ now
  | refundedOrphan => exact backed.modify rfl events fun p _ before => before.markRefunded _ _ now

theorem findPayment_backed {e : WebhookEvent} {now : Instant} {db t : Db}
    {r : Option (Uuid × Payment)} (looked : findPayment e now db = .ok (r, t))
    (backed : Backed db) : Backed t := by
  rcases findPayment_ok looked with ⟨-, rfl, -⟩ | ⟨_, -, rfl, -⟩ | ⟨row, _, -, -, -, -, -, -, rfl⟩
  · exact backed
  · exact backed
  · exact backed.modify rfl (List.Subset.refl _) fun p _ before => before.adopted _ now

/-- **Keys stay backed** by every effect. -/
theorem Effect.backed {env : Env} {t : Txn} {db db' : Db} {out : Outcome}
    (effect : Effect env t db db' out) (bound : t.pollBound db) (backed : Backed db) :
    Backed db' := by
  cases effect with
  | paid bookingId principal booking existing stamp _ recorded _ payment inserted found moved =>
      have added : Backed recorded := by
        rcases inserted with ⟨-, rfl⟩ | ⟨-, payments, inserted, rfl⟩
        · exact backed
        · intro id p here
          rw [Table.get?_insert? inserted] at here
          split_ifs at here
          · cases here
            exact .opened _ _ _ _ _
          · exact backed id p here
      rcases moved with ⟨-, -, -, rfl⟩ | ⟨-, rfl⟩
      · exact added.of_eq rfl (List.Subset.refl _)
      · exact added
  | bound paymentId chargeId now =>
      exact backed.modify rfl (List.Subset.refl _) fun p _ before => before.adopted _ now
  | refundMinted bookingId choice now _ booking payment chargeId _ _ _ captured charge =>
      obtain ⟨here, -, succeeded⟩ := capturedPayment_some captured
      obtain ⟨c, charge', applied⟩ := (backed _ _ here).succeeded succeeded
      cases charge.symm.trans charge'
      refine backed.modify rfl (List.Subset.refl _) fun p stored before => ?_
      cases here.symm.trans stored
      exact before.mintRefundKey charge applied now
  | lost rowId now _ u d fields e found verdict _ _ _ _ looked =>
      exact (findPayment_backed looked backed).of_eq rfl (List.Subset.refl _)
  | applied rowId now _ u v d fields e payment r _ _ _ _ looked applied =>
      obtain ⟨here, charge⟩ := findPayment_found looked
      have claimed : Backed (u.claim ⟨e.chargeId, e.event⟩) :=
        (findPayment_backed looked backed).of_eq rfl (List.subset_append_left _ _)
      refine (applied.consequence.backed (fun p found => ?_) (by simp) claimed).of_eq rfl
        (List.Subset.refl _)
      rw [Db.claim_payments, here] at found
      cases found
      exact charge
  | polledCharge payment chargeId captured now _ _ r applied =>
      obtain ⟨p, here, charge, -⟩ := bound
      have claimed : Backed (db.claim ⟨chargeId, if captured then .chargeSucceeded
          else .chargeFailed⟩) :=
        backed.of_eq rfl (List.subset_append_left _ _)
      refine applied.consequence.backed (fun q found => ?_) (by simp) claimed
      rw [Db.claim_payments, here] at found
      cases found
      exact charge
  | polledRefund payment chargeId refundId amountMinor now _ _ applied =>
      obtain ⟨⟨p, here, charge, -⟩, -⟩ := bound
      have claimed : Backed (db.claim ⟨chargeId, .refundSucceeded⟩) :=
        backed.of_eq rfl (List.subset_append_left _ _)
      refine applied.consequence.backed (fun q found => ?_) (by simp) claimed
      rw [Db.claim_payments, here] at found
      cases found
      exact charge
  | explained _ paymentId f _ note =>
      exact backed.modify rfl (List.Subset.refl _) fun p _ before => before.noted (note p)
  | refundBound paymentId refundId now =>
      exact backed.modify rfl (List.Subset.refl _) fun p _ before => before.boundRefund _ now
  | _ => exact backed.of_eq rfl (List.Subset.refl _)

/-! ## What an instruction rests on -/

/-- The payment an instruction is of: it has the instruction's key, and is worth it. -/
def Owed (db : Db) (i : RefundInstruction) : Prop :=
  i.idempotencyKey = refundKey i.chargeId ∧ ∃ p, db.payments.get? i.paymentId = some p ∧
    p.bookingId = i.bookingId ∧ p.chargeId = some i.chargeId ∧
    p.refundIdempotencyKey = some i.idempotencyKey ∧ i.amountMinor ≤ p.amountMinor

theorem Owed.kept {db db' : Db} {i : RefundInstruction} (owed : Owed db i)
    (kept : paymentsKept db db') : Owed db' i := by
  obtain ⟨key, p, here, booking, charge, minted, within⟩ := owed
  obtain ⟨p', here', keeps⟩ := kept _ p here
  exact ⟨key, p', here', keeps.booking.trans booking, keeps.charge _ charge,
    keeps.minted _ minted, by rw [keeps.amount]; exact within⟩

/-- Payments are charged what their bookings cost. -/
def PaymentsPriced (db : Db) : Prop :=
  ∀ id p, db.payments.get? id = some p →
    ∃ b, db.bookings.get? p.bookingId = some b ∧ p.amountMinor = b.totalMinor

theorem Effect.paymentsPriced {env : Env} {t : Txn} {db db' : Db} {out : Outcome}
    (effect : Effect env t db db' out) (bound : t.pollBound db) (terms : bookingsKept db db')
    (read : ∀ bookingId principal booking existing stamp,
      t = .pay bookingId principal booking existing stamp →
        ∃ b, db.bookings.get? bookingId.value = some b ∧ booking.sameTerms b)
    (priced : PaymentsPriced db) : PaymentsPriced db' := by
  intro id p' here
  rcases effect.payment_cases bound here with ⟨p, stored, keeps, -⟩ |
    ⟨bookingId, principal, booking, existing, stamp, own, -, rfl⟩
  · obtain ⟨b, found, amount⟩ := priced id p stored
    obtain ⟨b', found', -, -, -, -, -, total, -⟩ := terms _ b found
    exact ⟨b', by rw [keeps.booking]; exact found', by rw [keeps.amount, amount, total]⟩
  · obtain ⟨b, found, same⟩ := read _ _ _ _ _ own
    obtain ⟨b', found', later⟩ := terms _ b found
    obtain ⟨-, -, -, -, -, total, -⟩ := same.trans later
    exact ⟨b', found', total.symm⟩

/-- The rates of rooms and equipment are not negative. -/
structure Rates (db : Db) : Prop where
  rooms : ∀ id row, db.rooms.get? id = some row → 0 ≤ row.hourlyRateMinor
  equipment : ∀ id row, db.equipmentTypes.get? id = some row → 0 ≤ row.hourlyRateMinor

/-- What a priced booking costs is not negative, and no cancellation is worth more. -/
theorem Priced.within {db : Db} (priced : Priced db) (rates : Rates db) {id : Uuid} {b : Booking}
    (stored : db.bookings.get? id = some b) :
    0 ≤ b.totalMinor ∧ ∀ (tiers : Tiers) now r, cancellationRefund db id b tiers now = .ok r →
      r.totalRefundMinor ≤ b.totalMinor := by
  have ordered := priced.proper id b stored
  obtain ⟨rate, items, from_⟩ := priced.from_ id b stored
  have nonneg : 0 ≤ rate := by
    obtain ⟨row, here, rfl⟩ := from_.room
    exact rates.rooms _ row here
  have room := roomAmount_nonneg nonneg ordered
  have lines := from_.lines_nonneg ordered rates.equipment
  constructor
  · rw [from_.total]
    exact add_nonneg room lines
  · intro tiers now r worth
    obtain ⟨r', computed, within⟩ := computeRefund_within tiers room lines b.startsAt now
    simp only [cancellationRefund, from_.split nonneg ordered] at worth
    cases computed.symm.trans worth
    rw [within.sum, from_.total]
    exact add_le_add within.room.2 within.equipment.2

/-- The refund of a late charge is of the payment it was applied to. -/
theorem Applied.owed {payment : Uuid × Payment} {e : WebhookEvent} {now : Instant} {db db' : Db}
    {i : RefundInstruction} (applied : Applied payment e now db (some i) db') {p : Payment}
    (here : db.payments.get? payment.1 = some p) (booking : p.bookingId = payment.2.bookingId)
    (amount : p.amountMinor = payment.2.amountMinor) (unminted : p.refundIdempotencyKey = none) :
    Owed db' i ∧ i.chargeId = e.chargeId ∧ e.event = .chargeSucceeded := by
  cases applied.consequence with
  | late b captured =>
      have row : (lateCharge (db.claim ⟨e.chargeId, e.event⟩) payment e.chargeId now b.status).payments.get?
          payment.1 = some (mintRefundKey (refundKey e.chargeId) now (markSucceeded e.chargeId now p)) := by
        rw [Consequence.late_payments, Table.get?_modify_self, Db.claim_payments, here]
        rfl
      have keeps := Payment.Keeps.mintRefundKey (refundKey e.chargeId) now (markSucceeded e.chargeId now p)
      refine ⟨⟨rfl, _, row, keeps.booking.trans booking, keeps.charge _ rfl, ?_, ?_⟩, rfl, captured⟩
      · simp [mintRefundKey, markSucceeded, unminted]
      · rw [keeps.amount]
        exact amount.ge

/-- The key of an instruction that a transaction issues is on no payment before it. -/
theorem Effect.issues {env : Env} {t : Txn} {db db' : Db} {out : Outcome}
    (effect : Effect env t db db' out) (bound : t.pollBound db) (distinct : ChargesDistinct db)
    (backed : Backed db) (priced : PaymentsPriced db)
    (worth : ∀ id b, db.bookings.get? id = some b → ∀ (tiers : Tiers) now r,
      cancellationRefund db id b tiers now = .ok r → r.totalRefundMinor ≤ b.totalMinor)
    {i : RefundInstruction} (next : out.next = some (.refunding i)) :
    Owed db' i ∧ ∀ id p, db.payments.get? id = some p →
      p.refundIdempotencyKey ≠ some i.idempotencyKey := by
  -- A key that is there is of a charge whose capture was applied before.
  have unapplied : ∀ {c : String} {s : Db}, Backed s → ⟨c, .chargeSucceeded⟩ ∉ s.paymentEvents →
      ∀ id p, s.payments.get? id = some p → p.refundIdempotencyKey ≠ some (refundKey c) := by
    intro c s kept fresh id p here minted
    obtain ⟨c', -, applied, same⟩ := (kept id p here).minted _ minted
    exact fresh (refundKey_injective same ▸ applied)
  have charged : ∀ {c : String} {s : Db}, Backed s → ⟨c, .chargeSucceeded⟩ ∉ s.paymentEvents →
      ∀ id p, s.payments.get? id = some p → p.chargeId = some c → p.refundIdempotencyKey = none := by
    intro c s kept fresh id p here charge
    by_contra minted
    obtain ⟨k, minted⟩ := Option.ne_none_iff_exists'.mp minted
    obtain ⟨c', charge', applied, -⟩ := (kept id p here).minted k minted
    cases charge.symm.trans charge'
    exact fresh applied
  cases effect with
  | refundMinted bookingId choice now _ booking payment chargeId snapshot breakdown found captured
      charge unminted parsed worth_ fits =>
      obtain ⟨i', same, same'⟩ := refundOutcome_next (r := some _) next
      cases same'
      cases same
      obtain ⟨here, own, succeeded⟩ := capturedPayment_some captured
      have keeps := Payment.Keeps.mintRefundKey (refundKey chargeId) now payment.2
      refine ⟨⟨rfl, mintRefundKey (refundKey chargeId) now payment.2, ?_, keeps.booking.trans own,
        keeps.charge _ charge, ?_, ?_⟩, ?_⟩
      · rw [Db.audit_payments, Db.modifyPayment_payments, Table.get?_modify_self, here]
        rfl
      · simp [mintRefundKey, unminted]
      · obtain ⟨b, found', amount⟩ := priced _ _ here
        rw [own] at found'
        cases found.symm.trans found'
        rw [keeps.amount, amount]
        exact worth bookingId _ found _ _ _ worth_
      · intro id p stored minted
        obtain ⟨c, charge', -, same⟩ := (backed id p stored).minted _ minted
        obtain rfl := refundKey_injective same
        obtain rfl := distinct id p payment.1 payment.2 chargeId stored here charge' charge
        cases here.symm.trans stored
        rw [unminted] at minted
        cases minted
  | applied rowId now _ u v d fields e payment r _ _ _ _ looked applied =>
      obtain ⟨i', rfl, same⟩ := refundOutcome_next next
      cases same
      obtain ⟨here, charge⟩ := findPayment_found looked
      have adopted_ := findPayment_backed looked backed
      have name : e.event = .chargeSucceeded := by
        cases applied.consequence with
        | late _ captured => exact captured
      have fresh : ⟨e.chargeId, .chargeSucceeded⟩ ∉ u.paymentEvents := name ▸ applied.1
      obtain ⟨owed, own, -⟩ := applied.owed here rfl rfl (charged adopted_ fresh _ _ here charge)
      refine ⟨owed, fun id p stored => ?_⟩
      rw [owed.1, own]
      exact unapplied backed ((findPayment_events looked).1 ▸ fresh) id p stored
  | polledCharge payment chargeId captured now _ _ r applied =>
      obtain ⟨i', rfl, same⟩ := refundOutcome_next next
      cases same
      obtain ⟨p, here, charge, booking, amount⟩ := bound
      have name : (if captured then EventName.chargeSucceeded else .chargeFailed) =
          .chargeSucceeded := by
        cases applied.consequence with
        | late _ captured => exact captured
      have fresh : ⟨chargeId, .chargeSucceeded⟩ ∉ db.paymentEvents := name ▸ applied.1
      obtain ⟨owed, own, -⟩ := applied.owed here booking amount (charged backed fresh _ _ here charge)
      refine ⟨owed, fun id p stored => ?_⟩
      rw [owed.1, own]
      exact unapplied backed fresh id p stored
  | paid => cases next
  | cancelled => cases next
  | _ => cases next

/-! ## Runs -/

/-- The instruction a process has not sent yet. -/
def Proc.unsent : Proc → Option RefundInstruction
  | .refunding i => some i
  | _ => none

/-- An instruction is carried by one process or has been sent, once. -/
structure Asking (api : Api) : Prop where
  carried : ∀ pid p i, api.procs.get? pid = some p → p.unsent = some i → Owed api.db i
  asked : ∀ i ∈ api.refundRequests, Owed api.db i
  apart : ∀ pid p i pid' p' i', api.procs.get? pid = some p → p.unsent = some i →
    api.procs.get? pid' = some p' → p'.unsent = some i' →
      i.idempotencyKey = i'.idempotencyKey → pid = pid'
  unsent : ∀ pid p i, api.procs.get? pid = some p → p.unsent = some i →
    i.idempotencyKey ∉ api.refundRequests.map RefundInstruction.idempotencyKey
  once : (api.refundRequests.map RefundInstruction.idempotencyKey).Nodup

namespace Asking

variable {api : Api}

theorem start (now : Instant) (db : Db) : Asking (Api.start now db) := by
  refine ⟨?_, nofun, ?_, ?_, List.nodup_nil⟩
  · intro pid p i here
    simp [Api.start] at here
  · intro pid p i pid' p' i' here
    simp [Api.start] at here
  · intro pid p i here
    simp [Api.start] at here

/-- One process goes on, with an instruction no one else has or with none. -/
theorem become (asking : Asking api) {pid : Option Pid} {next : Option Proc} {db' : Db}
    (kept : paymentsKept api.db db')
    (new : ∀ p i, next = some p → p.unsent = some i → Owed db' i ∧ ∀ id q,
      api.db.payments.get? id = some q → q.refundIdempotencyKey ≠ some i.idempotencyKey) :
    Asking (({ api with db := db' } : Api).resume pid next) := by
  -- A process of the new state is the one that goes on, or was there.
  have cases_ : ∀ pid' p i, (({ api with db := db' } : Api).resume pid next).procs.get? pid' = some p →
      p.unsent = some i → (pid = some pid' ∧ Owed db' i ∧ ∀ id q,
        api.db.payments.get? id = some q → q.refundIdempotencyKey ≠ some i.idempotencyKey) ∨
      (pid ≠ some pid' ∧ api.procs.get? pid' = some p) := by
    intro pid' p i here carries
    rw [Api.resume_procs] at here
    split_ifs at here with own
    · exact .inl ⟨own, new p i here carries⟩
    · exact .inr ⟨own, here⟩
  have fresh : ∀ {i j : RefundInstruction}, Owed api.db j → (∀ id q,
      api.db.payments.get? id = some q → q.refundIdempotencyKey ≠ some i.idempotencyKey) →
      i.idempotencyKey ≠ j.idempotencyKey := by
    intro i j owed unused same
    obtain ⟨-, p, here, -, -, minted, -⟩ := owed
    exact unused _ p here (same ▸ minted)
  refine ⟨?_, ?_, ?_, ?_, ?_⟩
  · intro pid' p i here carries
    rw [Api.resume_db]
    rcases cases_ pid' p i here carries with ⟨-, owed, -⟩ | ⟨-, old⟩
    · exact owed
    · exact (asking.carried pid' p i old carries).kept kept
  · intro i among
    rw [Api.resume_refundRequests] at among
    rw [Api.resume_db]
    exact (asking.asked i among).kept kept
  · intro pid₁ p₁ i₁ pid₂ p₂ i₂ here₁ carries₁ here₂ carries₂ same
    rcases cases_ pid₁ p₁ i₁ here₁ carries₁ with ⟨own₁, -, unused₁⟩ | ⟨-, old₁⟩ <;>
      rcases cases_ pid₂ p₂ i₂ here₂ carries₂ with ⟨own₂, -, unused₂⟩ | ⟨-, old₂⟩
    · exact Option.some.inj (own₁.symm.trans own₂)
    · exact absurd same (fresh (asking.carried pid₂ p₂ i₂ old₂ carries₂) unused₁)
    · exact absurd same.symm (fresh (asking.carried pid₁ p₁ i₁ old₁ carries₁) unused₂)
    · exact asking.apart pid₁ p₁ i₁ pid₂ p₂ i₂ old₁ carries₁ old₂ carries₂ same
  · intro pid' p i here carries among
    rw [Api.resume_refundRequests] at among
    rcases cases_ pid' p i here carries with ⟨-, -, unused⟩ | ⟨-, old⟩
    · obtain ⟨j, sent, same⟩ := List.mem_map.mp among
      exact fresh (asking.asked j sent) unused same.symm
    · exact asking.unsent pid' p i old carries among
  · rw [Api.resume_refundRequests]
    exact asking.once

/-- The one process that carries an instruction sends it. -/
theorem sent (asking : Asking api) {pid : Pid} {i : RefundInstruction}
    (here : api.procs.get? pid = some (.refunding i)) :
    Asking { api.become pid (some (.refundSent i)) with
      refundRequests := api.refundRequests ++ [i] } := by
  have old : ∀ pid' p j, (api.become pid (some (.refundSent i))).procs.get? pid' = some p →
      p.unsent = some j → pid' ≠ pid ∧ api.procs.get? pid' = some p := by
    intro pid' p j there carries
    rw [Api.become_procs] at there
    split_ifs at there with own
    · cases there
      cases carries
    · exact ⟨own, there⟩
  refine ⟨?_, ?_, ?_, ?_, ?_⟩
  · intro pid' p j there carries
    rw [Api.become_db]
    exact asking.carried pid' p j (old pid' p j there carries).2 carries
  · intro j among
    rw [Api.become_db]
    rcases List.mem_append.mp among with before | new
    · exact asking.asked j before
    · obtain rfl := List.mem_singleton.mp new
      exact asking.carried pid _ _ here rfl
  · intro pid₁ p₁ i₁ pid₂ p₂ i₂ here₁ carries₁ here₂ carries₂
    exact asking.apart pid₁ p₁ i₁ pid₂ p₂ i₂ (old _ _ _ here₁ carries₁).2 carries₁
      (old _ _ _ here₂ carries₂).2 carries₂
  · intro pid' p j there carries among
    obtain ⟨other, there⟩ := old pid' p j there carries
    rw [List.map_append, List.mem_append] at among
    rcases among with before | new
    · exact asking.unsent pid' p j there carries before
    · have same : j.idempotencyKey = i.idempotencyKey := by simpa using new
      exact other (asking.apart pid' p j pid _ i there carries here rfl same)
  · rw [List.map_append, List.nodup_append]
    refine ⟨asking.once, List.nodup_singleton _, ?_⟩
    rintro k before _ new rfl
    obtain rfl : k = i.idempotencyKey := by simpa using new
    exact asking.unsent pid _ i here rfl before

end Asking

/-- What the refunds asked for rest on, in every state. -/
structure AskingSafe (api : Api) : Prop where
  gated : Gated api
  safe : PricedSafe api
  reads : ReadsStand api
  rates : Rates api.db
  backed : Backed api.db
  priced : PaymentsPriced api.db
  asking : Asking api

theorem AskingSafe.start {db : Db} (fresh : db.Fresh) (rates : Rates db) (now : Instant) :
    AskingSafe (Api.start now db) := by
  refine ⟨.start fresh now, fresh.pricedSafe now, .start now db, rates, ?_, ?_, .start now db⟩
  · intro id p here
    simp [Api.start, fresh.2.2.1] at here
  · intro id p here
    simp [Api.start, fresh.2.2.1] at here

theorem step_rates {env : Env} {a : Action} {api api' : Api} (stepped : step env a api = some api')
    (rates : Rates api.db) : Rates api'.db := by
  obtain ⟨-, rooms, types⟩ := @step_sameCatalogue env api.db a api api' stepped ⟨rfl, rfl, rfl⟩
  exact ⟨fun id row here => rates.rooms id row (rooms ▸ here),
    fun id row here => rates.equipment id row (types ▸ here)⟩

theorem step_asking {env : Env} {a : Action} {api api' : Api} (stepped : step env a api = some api')
    (holds : AskingSafe api) : AskingSafe api' := by
  obtain ⟨claimed, reads⟩ := step_readsStand a api api' stepped ⟨holds.safe.claimed, holds.reads⟩
  have safe := step_pricedSafe a api api' stepped holds.safe
  have gated := step_gated a api api' stepped holds.gated
  have rates := step_rates stepped holds.rates
  cases step_cases stepped with
  | committed c out db' enabled free ran =>
      have effect := Txn.run_effect ran
      have commits := commit_cases enabled
      have bound := commits.pollBound holds.gated.polls
      obtain ⟨ids, change, -⟩ := effect.bookingChange (commits.expiriesStale holds.safe.claimed)
      have read : ∀ bookingId principal booking existing stamp,
          c.txn = .pay bookingId principal booking existing stamp →
            ∃ b, api.db.bookings.get? bookingId.value = some b ∧ booking.sameTerms b := by
        intro bookingId principal booking existing stamp own
        cases commits with
        | pay pid paymentId now bookingId' principal' booking' existing' startedAt here _ =>
            cases own
            exact holds.reads pid _ (bookingId.value, booking) here rfl
        | _ => cases own
      refine ⟨gated, safe, reads, rates, ?_, ?_, ?_⟩
      · rw [Api.resume_db]
        exact effect.backed bound holds.backed
      · rw [Api.resume_db]
        exact effect.paymentsPriced bound change.bookingsKept read holds.priced
      · refine holds.asking.become (effect.paymentsKept bound) fun p i next carries => ?_
        cases p with
        | refunding j =>
            cases carries
            exact effect.issues bound holds.gated.distinct holds.backed holds.priced
              (fun id b found => (holds.safe.priced.within holds.rates found).2) next
        | _ => cases carries
  | aborted c e enabled ran =>
      refine ⟨gated, safe, reads, rates, by simpa using holds.backed, by simpa using holds.priced, ?_⟩
      refine holds.asking.become (.of_eq rfl) fun p i next carries => ?_
      cases commit_cases enabled with
      | refundAccepted =>
          cases next
          cases carries
      | _ => cases next
  | unshared _ moved =>
      have same := moved.db
      refine ⟨gated, safe, reads, rates, same ▸ holds.backed, same ▸ holds.priced, ?_⟩
      have idle : ∀ (pid : Pid) (q : Option Proc), (∀ p, q = some p → p.unsent = none) →
          Asking (api.become pid q) := by
        intro pid q none_
        refine @Asking.become api holds.asking (some pid) q api.db (.of_eq rfl)
          fun p i next carries => ?_
        rw [none_ p next] at carries
        cases carries
      cases moved with
      | ticked ms =>
          exact ⟨holds.asking.carried, holds.asking.asked, holds.asking.apart, holds.asking.unsent,
            holds.asking.once⟩
      | charged pid request paymentId =>
          have asking := idle pid (some (.charged request paymentId)) (by rintro p ⟨⟩; rfl)
          exact ⟨asking.carried, asking.asked, asking.apart, asking.unsent, asking.once⟩
      | refundSent pid instruction here => exact holds.asking.sent here
      | _ => exact idle _ _ (by rintro p ⟨⟩ <;> rfl)

/-- **A refund is asked for once.**  In every run, whatever the provider answers or signs,
the refund requests have distinct keys, each the key of its own payment, and what is
asked of a payment in all of them is within what it was charged. -/
theorem refunds_asked_once {env : Env} {now : Instant} {db : Db} (fresh : db.Fresh)
    (rates : Rates db) {api : Api} (reached : Reachable (step env) (Api.start now db) api) :
    (api.refundRequests.map RefundInstruction.idempotencyKey).Nodup ∧
      (∀ i ∈ api.refundRequests, Owed api.db i) ∧
      ∀ id p, api.db.payments.get? id = some p →
        ((api.refundRequests.filter fun i => i.paymentId = id).map
          RefundInstruction.amountMinor).sum ≤ p.amountMinor := by
  have holds : AskingSafe api := reached.invariant (.start fresh rates now) fun _ _ _ => step_asking
  refine ⟨holds.asking.once, holds.asking.asked, fun id p here => ?_⟩
  have owed : ∀ i ∈ api.refundRequests.filter (fun i => i.paymentId = id),
      p.refundIdempotencyKey = some i.idempotencyKey ∧ i.amountMinor ≤ p.amountMinor := by
    intro i among
    obtain ⟨among, own⟩ := List.mem_filter.mp among
    obtain ⟨-, q, there, -, -, minted, within⟩ := holds.asking.asked i among
    rw [of_decide_eq_true own, here] at there
    cases there
    exact ⟨minted, within⟩
  have once : ((api.refundRequests.filter fun i => i.paymentId = id).map
      RefundInstruction.idempotencyKey).Nodup :=
    holds.asking.once.sublist (List.filter_sublist.map _)
  generalize api.refundRequests.filter (fun i => i.paymentId = id) = asked at owed once ⊢
  -- All of them have the payment's one key, so there is one or none.
  rcases asked with _ | ⟨i, _ | ⟨j, rest⟩⟩
  · obtain ⟨b, found, amount⟩ := holds.priced id p here
    rw [amount]
    exact (holds.safe.priced.within holds.rates found).1
  · simpa using (owed i (by simp)).2
  · have same := (owed i (by simp)).1.symm.trans (owed j (by simp)).1
    simp [Option.some.inj same] at once

theorem Sample.db_rates : Rates Sample.db := by
  constructor
  · intro id row stored
    have among := Table.mem_rows.mpr stored
    simp only [Sample.db, List.mem_cons, Prod.mk.injEq, List.not_mem_nil, or_false] at among
    rcases among with ⟨-, rfl⟩ | ⟨-, rfl⟩ <;> decide
  · intro id row stored
    have among := Table.mem_rows.mpr stored
    simp only [Sample.db, List.mem_singleton, Prod.mk.injEq] at among
    obtain ⟨-, rfl⟩ := among
    decide

theorem refunds_asked_once_refunded : ∃ api p,
    run (step .default) refundedTwiceTold (Api.start 0 Sample.db) = some api ∧
      api.db.payments.get? 8 = some p ∧ api.refundRequests.length = 1 ∧
      ((api.refundRequests.filter fun i => i.paymentId = 8).map
        RefundInstruction.amountMinor).sum ≤ p.amountMinor := by
  have ran : (((run (step .default) refundedTwiceTold (Api.start 0 Sample.db)).bind fun api =>
      if api.refundRequests.length = 1 then api.db.payments.get? 8 else none).isSome) = true := by
    decide +kernel
  obtain ⟨p, found⟩ := Option.isSome_iff_exists.mp ran
  obtain ⟨api, ran, found⟩ := Option.bind_eq_some_iff.mp found
  obtain ⟨one, here⟩ := Option.ite_none_right_eq_some.mp found
  exact ⟨api, p, ran, here, one,
    (refunds_asked_once Sample.db_fresh Sample.db_rates ⟨refundedTwiceTold, ran⟩).2.2 8 p here⟩

end Atrium
