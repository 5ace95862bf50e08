/-
# PaymentOrigin -- where a payment and its charge id come from

A payment is inserted by a pay request, under the key of the text its path spells the
booking with, where no payment has that key.  Its charge id is set by the answer to
that request, or by an event whose reference has its key.  `Effect.paymentsFrom` says so
of every transaction; `step_spells`, of the spellings in use.
-/
import Atrium.Provider

namespace Atrium

open Atrium.Base

set_option autoImplicit false

/-! ## Charge ids -/

/-- The payments of `db'` are those of `db`; a charge id that changed is one `binds` allows. -/
def PaymentsFrom (binds : Uuid → String → Prop) (db db' : Db) : Prop :=
  ∀ id p', db'.payments.get? id = some p' → ∃ p, db.payments.get? id = some p ∧
    (p'.chargeId = p.chargeId ∨ ∃ c, p'.chargeId = some c ∧ binds id c)

namespace PaymentsFrom

variable {binds : Uuid → String → Prop} {db t db' : Db}

theorem of_eq (same : db'.payments = db.payments) : PaymentsFrom binds db db' := by
  intro id p' here
  rw [same] at here
  exact ⟨p', here, .inl rfl⟩

theorem modify {id : Uuid} {f : Payment → Payment}
    (updated : db'.payments = db.payments.modify id f)
    (kept : ∀ p, db.payments.get? id = some p →
      (f p).chargeId = p.chargeId ∨ ∃ c, (f p).chargeId = some c ∧ binds id c) :
    PaymentsFrom binds db db' := by
  intro id' p' here
  rw [updated] at here
  obtain ⟨p, stored, same⟩ := Table.get?_modify_some.mp here
  refine ⟨p, stored, ?_⟩
  by_cases own : id' = id
  · rw [if_pos own] at same
    subst own
    rw [← same]
    exact kept p stored
  · rw [if_neg own] at same
    rw [← same]
    exact .inl rfl

/-- What is bound first, and then left alone. -/
theorem append (first : PaymentsFrom binds db t) (second : PaymentsFrom (fun _ _ => False) t db') :
    PaymentsFrom binds db db' := by
  intro id p'' here
  obtain ⟨p', stored, same | ⟨c, -, impossible⟩⟩ := second id p'' here
  · obtain ⟨p, origin, kept⟩ := first id p' stored
    exact ⟨p, origin, by rw [same]; exact kept⟩
  · exact impossible.elim

end PaymentsFrom

/-- The charge ids a transaction sets. -/
def Txn.binds (db : Db) : Txn → Uuid → String → Prop
  | .bindCharge paymentId chargeId _, id, c => id = paymentId ∧ c = chargeId
  | .apply rowId _, id, c => ∃ e reference p, pendingEvent db rowId = some e ∧
      e.reference = some reference ∧ c = e.chargeId ∧ db.payments.get? id = some p ∧
      p.idempotencyKey = chargeKey reference
  | _, _, _ => False

theorem adopted_binds {binds : Uuid → String → Prop} {id : Uuid} {c : String} (now : Instant)
    (p : Payment) (allowed : binds id c) :
    (adopted c now p).chargeId = p.chargeId ∨ ∃ c', (adopted c now p).chargeId = some c' ∧
      binds id c' := by
  unfold adopted
  split
  · exact .inr ⟨c, rfl, allowed⟩
  · exact .inl rfl

theorem Consequence.paymentsFrom {payment : Uuid × Payment} {e : WebhookEvent} {now : Instant}
    {db db' : Db} {r : Option RefundInstruction} (consequence : Consequence payment e now db r db')
    (own : ∀ p, db.payments.get? payment.1 = some p → p.chargeId = some e.chargeId)
    (binds : Uuid → String → Prop) : PaymentsFrom binds db db' := by
  cases consequence with
  | confirmed b snapshot =>
      exact .modify rfl fun p here => .inl (own p here).symm
  | late b =>
      refine @PaymentsFrom.modify binds _ _ payment.1
        (mintRefundKey (refundKey e.chargeId) now ∘ markSucceeded e.chargeId now) ?_ ?_
      · by_cases pending : b.status = .pendingPayment <;> simp [lateCharge, pending]
      · intro p here
        refine .inl ?_
        rw [Function.comp_apply, mintRefundKey_chargeId]
        exact (own p here).symm
  | declined => exact .modify rfl fun p _ => .inl rfl
  | declinedIdle => exact .modify rfl fun p _ => .inl rfl
  | refunded => exact .modify rfl fun p _ => .inl rfl
  | refundedTerminal => exact .modify rfl fun p _ => .inl rfl
  | refundedOrphan => exact .modify rfl fun p _ => .inl rfl

theorem findPayment_from {e : WebhookEvent} {now : Instant} {db t : Db}
    {r : Option (Uuid × Payment)} {binds : Uuid → String → Prop}
    (looked : findPayment e now db = .ok (r, t))
    (allowed : ∀ id reference p, e.reference = some reference → db.payments.get? id = some p →
      p.idempotencyKey = chargeKey reference → binds id e.chargeId) : PaymentsFrom binds db t := by
  rcases findPayment_ok looked with ⟨-, rfl, -⟩ | ⟨_, -, rfl, -⟩ |
    ⟨row, reference, named, -, adopt, -, -, -, rfl⟩
  · exact .of_eq rfl
  · exact .of_eq rfl
  · obtain ⟨here, -, key⟩ := paymentByReference_some adopt
    exact .modify rfl fun p _ => adopted_binds now p (allowed row.1 reference row.2 named here key)

/-- A pay request's own payment, where none had its key. -/
def PaymentInserted (t : Txn) (db db' : Db) : Prop :=
  ∃ bookingId principal booking existing stamp,
    t = .pay bookingId principal booking existing stamp ∧
    paymentByKey db (chargeKey bookingId.text) = none ∧
    db.payments.insert? stamp.paymentId (newPayment bookingId.value (chargeKey bookingId.text)
      booking.totalMinor stamp.startedAt) = some db'.payments

/-- **What a transaction does to the payments.** -/
theorem Effect.paymentsFrom {env : Env} {t : Txn} {db db' : Db} {out : Outcome}
    (effect : Effect env t db db' out) (bound : t.pollBound db) :
    PaymentsFrom (t.binds db) db db' ∨ PaymentInserted t db db' := by
  cases effect with
  | paid bookingId principal booking existing stamp _ recorded _ payment inserted found moved =>
      have same : db'.payments = recorded.payments := by
        rcases moved with ⟨-, -, -, rfl⟩ | ⟨-, rfl⟩ <;> rfl
      rcases inserted with ⟨-, rfl⟩ | ⟨unused, payments, inserted, rfl⟩
      · exact .inl (.of_eq same)
      · refine .inr ⟨bookingId, principal, booking, existing, stamp, rfl, unused, ?_⟩
        rw [same]
        exact inserted
  | bound paymentId chargeId now _ _ =>
      exact .inl (.modify rfl fun p _ => adopted_binds now p ⟨rfl, rfl⟩)
  | refundMinted bookingId choice now _ booking payment chargeId =>
      exact .inl (.modify rfl fun p _ => .inl (mintRefundKey_chargeId _ _ p))
  | lost rowId now _ u d fields e found verdict here unprocessed read supported looked =>
      have pending := pendingEvent_iff.mpr ⟨d, fields, here, unprocessed, read, supported⟩
      refine .inl ((findPayment_from looked ?_).append (.of_eq rfl))
      intro id reference p named stored key
      exact ⟨e, reference, p, pending, named, rfl, stored, key⟩
  | applied rowId now _ u v d fields e payment r here unprocessed read supported looked applied =>
      have pending := pendingEvent_iff.mpr ⟨d, fields, here, unprocessed, read, supported⟩
      obtain ⟨stored, charge⟩ := findPayment_found looked
      have rest : PaymentsFrom (fun _ _ => False) u v := by
        have claimed := applied.consequence.paymentsFrom (fun p found => by
          rw [Db.claim_payments, stored] at found
          cases found
          exact charge) (fun _ _ => False)
        intro id p' there
        exact claimed id p' there
      refine .inl (((findPayment_from looked ?_).append rest).append (.of_eq rfl))
      intro id reference p named stored key
      exact ⟨e, reference, p, pending, named, rfl, stored, key⟩
  | polledCharge payment chargeId captured now _ _ r applied =>
      obtain ⟨p, here, charge, -⟩ := bound
      refine .inl (applied.consequence.paymentsFrom (fun q found => ?_) _)
      rw [Db.claim_payments, here] at found
      cases found
      exact charge
  | polledRefund payment chargeId refundId amountMinor now _ _ applied =>
      obtain ⟨⟨p, here, charge, -⟩, -⟩ := bound
      refine .inl (applied.consequence.paymentsFrom (fun q found => ?_) _)
      rw [Db.claim_payments, here] at found
      cases found
      exact charge
  | explained _ paymentId f _ note =>
      refine .inl (.modify rfl fun p _ => .inl ?_)
      obtain ⟨reason, now, same⟩ := note p
      rw [same]
  | refundBound paymentId refundId now _ _ =>
      exact .inl (.modify rfl fun p _ => .inl (boundRefund_chargeId _ _ p))
  | _ => exact .inl (.of_eq rfl)

/-! ## Keys -/

theorem Effect.keysDistinct {env : Env} {t : Txn} {db db' : Db} {out : Outcome}
    (effect : Effect env t db db' out) (bound : t.pollBound db) (distinct : KeysDistinct db) :
    KeysDistinct db' := by
  rcases effect.paymentsFrom bound with origin | ⟨bookingId, _, _, _, stamp, -, unused, inserted⟩
  · -- Old payments keep their keys.
    have key : ∀ id p', db'.payments.get? id = some p' → ∃ p, db.payments.get? id = some p ∧
        p'.idempotencyKey = p.idempotencyKey := by
      intro id p' here
      obtain ⟨p, stored, -⟩ := origin id p' here
      obtain ⟨p'', here', keeps⟩ := effect.paymentsKept bound id p stored
      cases here.symm.trans here'
      exact ⟨p, stored, keeps.key⟩
    intro id p id' p' k here here' own own'
    obtain ⟨q, stored, same⟩ := key id p here
    obtain ⟨q', stored', same'⟩ := key id' p' here'
    have kept : some q.idempotencyKey = some k := same ▸ own
    have kept' : some q'.idempotencyKey = some k := same' ▸ own'
    exact distinct id q id' q' k stored stored' kept kept'
  · refine Table.UniqueOn.insert distinct inserted ?_
    rw [Option.all_some, Table.free_iff]
    intro id' q here same
    exact absurd (Option.some.inj same) (paymentByKey_none unused here)

/-! ## Spellings -/

/-- The path id of a pay request that has not committed. -/
def Proc.payingFor : Proc → Option UuidText
  | .paying bookingId .. | .payingRead bookingId .. => some bookingId
  | _ => none

/-- A payment or a pay request in flight has the booking's id in this spelling. -/
def Api.spells (api : Api) (b : Uuid) (text : String) : Prop :=
  (∃ id p, api.db.payments.get? id = some p ∧ p.bookingId = b ∧ p.idempotencyKey = chargeKey text) ∨
    ∃ pid p bookingId, api.procs.get? pid = some p ∧ p.payingFor = some bookingId ∧
      bookingId.value = b ∧ bookingId.text = text

/-- The payments are under keys of spellings of their bookings' ids. -/
def Spelled (db : Db) : Prop :=
  ∀ id p, db.payments.get? id = some p → ∃ bookingId : UuidText, bookingId.value = p.bookingId ∧
    p.idempotencyKey = chargeKey bookingId.text

/-- A payment that a commit leaves was there, or is the commit's own. -/
theorem Effect.payment_cases {env : Env} {t : Txn} {db db' : Db} {out : Outcome}
    (effect : Effect env t db db' out) (bound : t.pollBound db) {id : Uuid} {p' : Payment}
    (here : db'.payments.get? id = some p') :
    (∃ p, db.payments.get? id = some p ∧ p.Keeps p' ∧
      (p'.chargeId = p.chargeId ∨ ∃ c, p'.chargeId = some c ∧ t.binds db id c)) ∨
    ∃ bookingId principal booking existing stamp,
      t = .pay bookingId principal booking existing stamp ∧ db.payments.get? id = none ∧
      p' = newPayment bookingId.value (chargeKey bookingId.text) booking.totalMinor stamp.startedAt := by
  have old : ∀ p, db.payments.get? id = some p → p.Keeps p' := by
    intro p stored
    obtain ⟨p'', here', keeps⟩ := effect.paymentsKept bound id p stored
    cases here.symm.trans here'
    exact keeps
  rcases effect.paymentsFrom bound with origin |
    ⟨bookingId, principal, booking, existing, stamp, own, unused, inserted⟩
  · obtain ⟨p, stored, charge⟩ := origin id p' here
    exact .inl ⟨p, stored, old p stored, charge⟩
  · rw [Table.get?_insert? inserted] at here
    split_ifs at here with fresh
    · cases here
      exact .inr ⟨bookingId, principal, booking, existing, stamp, own,
        fresh ▸ (Table.insert?_some inserted).1, rfl⟩
    · exact .inl ⟨p', here, old p' here, .inl rfl⟩

theorem Effect.spelled {env : Env} {t : Txn} {db db' : Db} {out : Outcome}
    (effect : Effect env t db db' out) (bound : t.pollBound db) (spelled : Spelled db) :
    Spelled db' := by
  intro id p' here
  obtain ⟨p, stored, keeps, -⟩ | ⟨bookingId, _, _, _, _, -, -, rfl⟩ :=
    effect.payment_cases bound here
  · obtain ⟨bookingId, value, key⟩ := spelled id p stored
    exact ⟨bookingId, by rw [keeps.booking]; exact value, by rw [keeps.key]; exact key⟩
  · exact ⟨bookingId, rfl, rfl⟩

theorem Outcome.next_payingFor {out : Outcome} {p : Proc} (next : out.next = some p) :
    p.payingFor = none := by
  cases out <;> simp only [Outcome.next, reduceCtorEq, Option.some.injEq,
    Option.ite_none_left_eq_some] at next
  · subst next
    rfl
  · subst next
    rfl
  · rw [← next.2]
    rfl

/-- **A step uses the spellings in use**, and the one of the request it begins. -/
theorem step_spells {env : Env} {a : Action} {api api' : Api} (stepped : step env a api = some api')
    (polls : PollsBound api) {b : Uuid} {text : String} (spells : api'.spells b text) :
    api.spells b text ∨ ∃ pid bookingId principal, a = .payBegin pid bookingId principal ∧
      bookingId.value = b ∧ bookingId.text = text := by
  cases step_cases stepped with
  | committed c out db' enabled free ran =>
      have commits := commit_cases enabled
      refine .inl ?_
      rcases spells with ⟨id, p, here, own, key⟩ | ⟨pid, p, bookingId, here, names, value, spelled⟩
      · rw [Api.resume_db] at here
        obtain ⟨q, stored, keeps, -⟩ | ⟨bookingId, principal, booking, existing, stamp, pays, -, rfl⟩ :=
          (Txn.run_effect ran).payment_cases (commits.pollBound polls) here
        · exact .inl ⟨id, q, stored, by rw [← keeps.booking]; exact own, by rw [← keeps.key]; exact key⟩
        · cases commits with
          | pay pid paymentId now bookingId' principal' booking' existing' startedAt proc =>
              cases pays
              exact .inr ⟨pid, _, bookingId, proc, rfl, own, chargeKey_injective key⟩
          | _ => cases pays
      · rw [Api.resume_procs] at here
        split_ifs at here
        · rw [Outcome.next_payingFor here] at names
          cases names
        · exact .inr ⟨pid, p, bookingId, here, names, value, spelled⟩
  | aborted c e enabled ran =>
      refine .inl ?_
      rcases spells with ⟨id, p, here, own, key⟩ | ⟨pid, p, bookingId, here, names, value, spelled⟩
      · rw [Api.resume_db] at here
        exact .inl ⟨id, p, here, own, key⟩
      · rw [Api.resume_procs] at here
        split_ifs at here
        · cases commit_cases enabled with
          | refundAccepted =>
              cases here
              cases names
          | _ => cases here
        · exact .inr ⟨pid, p, bookingId, here, names, value, spelled⟩
  | unshared _ moved =>
      rcases spells with ⟨id, p, here, own, key⟩ | ⟨pid, p, bookingId, here, names, value, spelled⟩
      · rw [moved.db] at here
        exact .inl (.inl ⟨id, p, here, own, key⟩)
      · have old : ∀ {pid' : Pid} {q : Option Proc}, (∀ r, q = some r → r.payingFor = none) →
            (api.become pid' q).procs.get? pid = some p → api.procs.get? pid = some p := by
          intro pid' q idle there
          rw [Api.become_procs] at there
          split_ifs at there
          · rw [idle p there] at names
            cases names
          · exact there
        cases moved with
        | ticked ms => exact .inl (.inr ⟨pid, p, bookingId, here, names, value, spelled⟩)
        | paying pid' bookingId' principal booking =>
            rw [Api.become_procs] at here
            split_ifs at here
            · cases here
              cases names
              exact .inr ⟨pid', _, principal, rfl, value, spelled⟩
            · exact .inl (.inr ⟨pid, p, bookingId, here, names, value, spelled⟩)
        | payingRead pid' bookingId' principal booking startedAt proc =>
            rw [Api.become_procs] at here
            split_ifs at here
            · cases here
              cases names
              exact .inl (.inr ⟨pid', _, _, proc, rfl, value, spelled⟩)
            · exact .inl (.inr ⟨pid, p, bookingId, here, names, value, spelled⟩)
        | charged pid' request paymentId =>
            have there := old (q := some (.charged request paymentId)) (by rintro r ⟨⟩; rfl) here
            exact .inl (.inr ⟨pid, p, bookingId, there, names, value, spelled⟩)
        | refundSent pid' instruction =>
            have there := old (q := some (.refundSent instruction)) (by rintro r ⟨⟩; rfl) here
            exact .inl (.inr ⟨pid, p, bookingId, there, names, value, spelled⟩)
        | _ =>
            have there := old (by rintro r ⟨⟩ <;> rfl) here
            exact .inl (.inr ⟨pid, p, bookingId, there, names, value, spelled⟩)

end Atrium
