/-
# PaymentChange -- what no commit takes back from a payment

Payments are inserted and updated, never deleted, and five of their columns only
ever move one way: the booking, the key and the amount never change, a charge id
or a refund key that is set stays.  `Effect.paymentsKept` says so of every
transaction, given that a poll acts on a payment bound to the charge it asked
about; `PollsBound` is that invariant.
-/
import Atrium.Steps

namespace Atrium

open Atrium.Base

set_option autoImplicit false

/-- What no update of a payment takes back. -/
structure Payment.Keeps (p p' : Payment) : Prop where
  booking : p'.bookingId = p.bookingId
  key : p'.idempotencyKey = p.idempotencyKey
  amount : p'.amountMinor = p.amountMinor
  created : p'.createdAt = p.createdAt
  charge : ∀ c, p.chargeId = some c → p'.chargeId = some c
  minted : ∀ k, p.refundIdempotencyKey = some k → p'.refundIdempotencyKey = some k

namespace Payment.Keeps

theorem refl (p : Payment) : p.Keeps p :=
  ⟨rfl, rfl, rfl, rfl, fun _ h => h, fun _ h => h⟩

theorem trans {p q r : Payment} (first : p.Keeps q) (second : q.Keeps r) : p.Keeps r :=
  ⟨second.booking.trans first.booking, second.key.trans first.key,
    second.amount.trans first.amount, second.created.trans first.created,
    fun c h => second.charge c (first.charge c h), fun k h => second.minted k (first.minted k h)⟩

theorem adopted (chargeId : String) (now : Instant) (p : Payment) :
    p.Keeps (adopted chargeId now p) := by
  unfold Atrium.adopted
  split
  · rename_i unbound
    exact ⟨rfl, rfl, rfl, rfl, by simp [unbound], fun _ h => h⟩
  · exact refl p

theorem markSucceeded {chargeId : String} {p : Payment} (own : p.chargeId = some chargeId)
    (now : Instant) : p.Keeps (markSucceeded chargeId now p) :=
  ⟨rfl, rfl, rfl, rfl, fun c h => by rw [← h, own]; rfl, fun _ h => h⟩

theorem markFailed (now : Instant) (p : Payment) : p.Keeps (markFailed now p) :=
  ⟨rfl, rfl, rfl, rfl, fun _ h => h, fun _ h => h⟩

theorem markRefunded (refundId : Option String) (amount : Minor) (now : Instant) (p : Payment) :
    p.Keeps (markRefunded refundId amount now p) :=
  ⟨rfl, rfl, rfl, rfl, fun _ h => h, fun _ h => h⟩

theorem mintRefundKey (key : String) (now : Instant) (p : Payment) :
    p.Keeps (mintRefundKey key now p) := by
  unfold Atrium.mintRefundKey
  split
  · rename_i unminted
    exact ⟨rfl, rfl, rfl, rfl, fun _ h => h, by simp [unminted]⟩
  · exact refl p

theorem boundRefund (refundId : String) (now : Instant) (p : Payment) :
    p.Keeps (boundRefund refundId now p) := by
  unfold Atrium.boundRefund
  split
  · exact ⟨rfl, rfl, rfl, rfl, fun _ h => h, fun _ h => h⟩
  · exact refl p

theorem noted {p q : Payment} (same : noted p q) : p.Keeps q := by
  obtain ⟨reason, now, rfl⟩ := same
  exact ⟨rfl, rfl, rfl, rfl, fun _ h => h, fun _ h => h⟩

end Payment.Keeps

/-! ## Databases -/

def paymentsKept (db db' : Db) : Prop :=
  ∀ id p, db.payments.get? id = some p → ∃ p', db'.payments.get? id = some p' ∧ p.Keeps p'

namespace paymentsKept

theorem of_eq {db db' : Db} (same : db'.payments = db.payments) : paymentsKept db db' :=
  fun _ p here => ⟨p, same ▸ here, .refl p⟩

theorem trans {db t db' : Db} (first : paymentsKept db t) (second : paymentsKept t db') :
    paymentsKept db db' := by
  intro id p here
  obtain ⟨q, here', keeps⟩ := first id p here
  obtain ⟨r, here'', keeps'⟩ := second id q here'
  exact ⟨r, here'', keeps.trans keeps'⟩

theorem modify {db db' : Db} {id : Uuid} {f : Payment → Payment}
    (updated : db'.payments = db.payments.modify id f)
    (keeps : ∀ p, db.payments.get? id = some p → p.Keeps (f p)) : paymentsKept db db' := by
  intro id' p here
  rw [updated]
  by_cases own : id' = id
  · subst own
    exact ⟨f p, by simp [here], keeps p here⟩
  · exact ⟨p, by rwa [Table.get?_modify_ne _ _ own], .refl p⟩

theorem insert {db db' : Db} {id : Uuid} {p : Payment}
    (inserted : db.payments.insert? id p = some db'.payments) : paymentsKept db db' := by
  intro id' q here
  refine ⟨q, ?_, .refl q⟩
  rw [Table.get?_insert? inserted]
  by_cases own : id' = id
  · subst own
    rw [(Table.insert?_some inserted).1] at here
    cases here
  · rwa [if_neg own]

end paymentsKept

/-! ## Finding and applying -/

/-- The payment an event found is bound to its charge. -/
theorem findPayment_found {e : WebhookEvent} {now : Instant} {db t : Db} {row : Uuid × Payment}
    (looked : findPayment e now db = .ok (some row, t)) :
    t.payments.get? row.1 = some row.2 ∧ row.2.chargeId = some e.chargeId := by
  rcases findPayment_ok looked with ⟨missing, -, -⟩ | ⟨row', found, rfl, here, bound⟩ |
    ⟨row', reference, -, -, adopt, unbound, found, -, rfl⟩
  · cases missing
  · cases found
    exact ⟨here, bound⟩
  · cases found
    have here := (paymentByReference_some adopt).1
    refine ⟨by simp [here], ?_⟩
    simp [adopted, unbound]

theorem findPayment_kept {e : WebhookEvent} {now : Instant} {db t : Db}
    {r : Option (Uuid × Payment)} (looked : findPayment e now db = .ok (r, t)) :
    paymentsKept db t := by
  rcases findPayment_ok looked with ⟨-, rfl, -⟩ | ⟨_, -, rfl, -⟩ | ⟨row, _, -, -, -, -, -, -, rfl⟩
  · exact .of_eq rfl
  · exact .of_eq rfl
  · exact .modify rfl fun p _ => .adopted _ _ p

theorem Consequence.paymentsKept {payment : Uuid × Payment} {e : WebhookEvent} {now : Instant}
    {db db' : Db} {r : Option RefundInstruction} (consequence : Consequence payment e now db r db')
    (own : ∀ p, db.payments.get? payment.1 = some p → p.chargeId = some e.chargeId) :
    paymentsKept db db' := by
  cases consequence with
  | confirmed b snapshot =>
      exact .modify rfl fun p here => .markSucceeded (own p here) now
  | late b _ _ _ _ =>
      refine @Atrium.paymentsKept.modify _ _ payment.1
        (mintRefundKey (refundKey e.chargeId) now ∘ markSucceeded e.chargeId now) ?_
        fun p here => (Payment.Keeps.markSucceeded (own p here) now).trans (.mintRefundKey _ _ _)
      by_cases pending : b.status = .pendingPayment <;> simp [lateCharge, pending]
  | declined => exact .modify rfl fun p _ => .markFailed now p
  | declinedIdle => exact .modify rfl fun p _ => .markFailed now p
  | refunded => exact .modify rfl fun p _ => .markRefunded _ _ now p
  | refundedTerminal => exact .modify rfl fun p _ => .markRefunded _ _ now p
  | refundedOrphan => exact .modify rfl fun p _ => .markRefunded _ _ now p

/-- The stored payment a poll acts on is bound to the charge it asked about. -/
def boundTo (db : Db) (payment : Uuid × Payment) (chargeId : String) : Prop :=
  ∃ p, db.payments.get? payment.1 = some p ∧ p.chargeId = some chargeId ∧
    p.bookingId = payment.2.bookingId ∧ p.amountMinor = payment.2.amountMinor

theorem boundTo.kept {db db' : Db} {payment : Uuid × Payment} {chargeId : String}
    (bound : boundTo db payment chargeId) (kept : paymentsKept db db') :
    boundTo db' payment chargeId := by
  obtain ⟨p, here, charge, booking, amount⟩ := bound
  obtain ⟨p', here', keeps⟩ := kept _ p here
  exact ⟨p', here', keeps.charge _ charge, keeps.booking.trans booking, keeps.amount.trans amount⟩

def Txn.pollBound (db : Db) : Txn → Prop
  | .settleCharge payment chargeId .. => boundTo db payment chargeId
  | .settleRefund payment chargeId .. => boundTo db payment chargeId ∧ payment.2.refundId ≠ none
  | _ => True

/-- **Payments are kept** by every effect. -/
theorem Effect.paymentsKept {env : Env} {t : Txn} {db db' : Db} {out : Outcome}
    (effect : Effect env t db db' out) (bound : t.pollBound db) : paymentsKept db db' := by
  cases effect with
  | paid bookingId principal booking existing stamp _ recorded _ payment inserted found moved =>
      have kept : Atrium.paymentsKept db recorded := by
        rcases inserted with ⟨-, rfl⟩ | ⟨-, payments, inserted, rfl⟩
        · exact .of_eq rfl
        · exact .insert inserted
      rcases moved with ⟨-, -, -, rfl⟩ | ⟨-, rfl⟩
      · exact kept.trans (.of_eq rfl)
      · exact kept
  | bound paymentId chargeId now _ _ => exact .modify rfl fun p _ => .adopted _ _ p
  | refundMinted bookingId choice now _ booking payment chargeId =>
      exact .modify rfl fun p _ => .mintRefundKey _ _ p
  | lost rowId now _ u d fields e found verdict _ _ _ _ looked =>
      exact (findPayment_kept looked).trans (.of_eq rfl)
  | applied rowId now _ u v d fields e payment r _ _ _ _ looked applied =>
      obtain ⟨here, charge⟩ := findPayment_found looked
      refine ((findPayment_kept looked).trans (applied.consequence.paymentsKept fun p found => ?_)).trans
        (.of_eq rfl)
      rw [Db.claim_payments, here] at found
      cases found
      exact charge
  | polledCharge payment chargeId captured now _ _ r applied =>
      obtain ⟨p, here, charge, -⟩ := bound
      refine applied.consequence.paymentsKept fun q found => ?_
      rw [Db.claim_payments, here] at found
      cases found
      exact charge
  | polledRefund payment chargeId refundId amountMinor now _ _ applied =>
      obtain ⟨⟨p, here, charge, -⟩, -⟩ := bound
      refine applied.consequence.paymentsKept fun q found => ?_
      rw [Db.claim_payments, here] at found
      cases found
      exact charge
  | explained _ paymentId f _ note => exact .modify rfl fun p _ => .noted (note p)
  | refundBound paymentId refundId now _ _ => exact .modify rfl fun p _ => .boundRefund _ _ p
  | _ => exact .of_eq rfl

/-! ## Charge ids -/

/-- `payments_charge_id_uq` -/
def ChargesDistinct (db : Db) : Prop := db.payments.UniqueOn Payment.chargeId

namespace ChargesDistinct

variable {db db' : Db}

theorem of_eq (distinct : ChargesDistinct db) (same : db'.payments = db.payments) :
    ChargesDistinct db' := by
  unfold ChargesDistinct
  rwa [same]

/-- An update that leaves the charge id, or that the unique index accepts. -/
theorem modify {id : Uuid} {f : Payment → Payment} (distinct : ChargesDistinct db)
    (updated : db'.payments = db.payments.modify id f)
    (fits : ∀ p, db.payments.get? id = some p → (f p).chargeId = p.chargeId ∨
      ∃ q, q.chargeId = (f p).chargeId ∧ paymentFits db id q = true) : ChargesDistinct db' := by
  unfold ChargesDistinct
  rw [updated]
  refine Table.UniqueOn.modify distinct fun p here => (fits p here).imp_right fun accepted => ?_
  obtain ⟨q, same, accepted⟩ := accepted
  simp only [paymentFits, Bool.and_eq_true] at accepted
  exact same ▸ accepted.1.1

/-- The one payment with a charge id is the one a lookup by it finds. -/
theorem found {id : Uuid} {p : Payment} {chargeId : String} (distinct : ChargesDistinct db)
    (here : db.payments.get? id = some p) (bound : p.chargeId = some chargeId) :
    paymentByChargeId db chargeId = some (id, p) := by
  cases looked : paymentByChargeId db chargeId with
  | none => exact absurd bound (paymentByChargeId_none looked here)
  | some row =>
      obtain ⟨stored, own⟩ := paymentByChargeId_some looked
      obtain rfl : row.1 = id := distinct row.1 row.2 id p chargeId stored here own bound
      rw [here] at stored
      cases stored
      rfl

end ChargesDistinct

@[simp] theorem mintRefundKey_chargeId (key : String) (now : Instant) (p : Payment) :
    (mintRefundKey key now p).chargeId = p.chargeId := by
  unfold mintRefundKey
  split <;> rfl

@[simp] theorem boundRefund_chargeId (refundId : String) (now : Instant) (p : Payment) :
    (boundRefund refundId now p).chargeId = p.chargeId := by
  unfold boundRefund
  split <;> rfl

theorem Consequence.chargesDistinct {payment : Uuid × Payment} {e : WebhookEvent} {now : Instant}
    {db db' : Db} {r : Option RefundInstruction} (consequence : Consequence payment e now db r db')
    (distinct : ChargesDistinct db) : ChargesDistinct db' := by
  cases consequence with
  | confirmed b snapshot _ fits =>
      exact distinct.modify rfl fun p here => .inr ⟨_, rfl, fits p here⟩
  | late b _ fits _ _ =>
      refine @ChargesDistinct.modify _ _ payment.1
        (mintRefundKey (refundKey e.chargeId) now ∘ markSucceeded e.chargeId now) distinct ?_
        fun p here => .inr ⟨_, (mintRefundKey_chargeId _ _ _).symm, fits p here⟩
      by_cases pending : b.status = .pendingPayment <;> simp [lateCharge, pending]
  | declined => exact distinct.modify rfl fun p _ => .inl rfl
  | declinedIdle => exact distinct.modify rfl fun p _ => .inl rfl
  | refunded => exact distinct.modify rfl fun p _ => .inl rfl
  | refundedTerminal => exact distinct.modify rfl fun p _ => .inl rfl
  | refundedOrphan => exact distinct.modify rfl fun p _ => .inl rfl

theorem findPayment_chargesDistinct {e : WebhookEvent} {now : Instant} {db t : Db}
    {r : Option (Uuid × Payment)} (looked : findPayment e now db = .ok (r, t))
    (distinct : ChargesDistinct db) : ChargesDistinct t := by
  rcases findPayment_ok looked with ⟨-, rfl, -⟩ | ⟨_, -, rfl, -⟩ |
    ⟨row, _, -, -, adopt, -, -, fits, rfl⟩
  · exact distinct
  · exact distinct
  · refine distinct.modify rfl fun p here => .inr ⟨_, ?_, fits⟩
    rw [(paymentByReference_some adopt).1] at here
    cases here
    rfl

/-- **Charge ids stay distinct.** -/
theorem Effect.chargesDistinct {env : Env} {t : Txn} {db db' : Db} {out : Outcome}
    (effect : Effect env t db db' out) (distinct : ChargesDistinct db) : ChargesDistinct db' := by
  cases effect with
  | paid bookingId principal booking existing stamp _ recorded _ payment inserted found moved =>
      have kept : ChargesDistinct recorded := by
        rcases inserted with ⟨-, rfl⟩ | ⟨-, payments, inserted, rfl⟩
        · exact distinct
        · exact Table.UniqueOn.insert distinct inserted rfl
      rcases moved with ⟨-, -, -, rfl⟩ | ⟨-, rfl⟩
      · exact kept.of_eq rfl
      · exact kept
  | bound paymentId chargeId now _ fits =>
      exact distinct.modify rfl fun p here => .inr ⟨_, rfl, fits p here⟩
  | refundMinted bookingId choice now _ booking payment chargeId =>
      exact distinct.modify rfl fun p _ => .inl (mintRefundKey_chargeId _ _ p)
  | lost rowId now _ u d fields e found verdict _ _ _ _ looked =>
      exact (findPayment_chargesDistinct looked distinct).of_eq rfl
  | applied rowId now _ u v d fields e payment r _ _ _ _ looked applied =>
      have claimed : ChargesDistinct (u.claim ⟨e.chargeId, e.event⟩) :=
        (findPayment_chargesDistinct looked distinct).of_eq rfl
      exact (applied.consequence.chargesDistinct claimed).of_eq rfl
  | polledCharge payment chargeId captured now _ _ r applied =>
      exact applied.consequence.chargesDistinct (distinct.of_eq rfl)
  | polledRefund payment chargeId refundId amountMinor now _ _ applied =>
      exact applied.consequence.chargesDistinct (distinct.of_eq rfl)
  | explained _ paymentId f _ note =>
      refine distinct.modify rfl fun p _ => .inl ?_
      obtain ⟨reason, now, same⟩ := note p
      rw [same]
  | refundBound paymentId refundId now _ _ =>
      exact distinct.modify rfl fun p _ => .inl (boundRefund_chargeId _ _ p)
  | _ => exact distinct.of_eq rfl

/-! ## Runs -/

/-- A process that polls holds a payment bound to the charge it asks about. -/
def Proc.pollBound (db : Db) : Proc → Prop
  | .polling payment chargeId => boundTo db payment chargeId
  | .pollingRefund payment chargeId refundId =>
      boundTo db payment chargeId ∧ payment.2.refundId = some refundId
  | _ => True

def PollsBound (api : Api) : Prop :=
  ∀ pid p, api.procs.get? pid = some p → p.pollBound api.db

theorem Proc.pollBound.kept {p : Proc} {db db' : Db} (bound : p.pollBound db)
    (kept : paymentsKept db db') : p.pollBound db' := by
  cases p with
  | polling payment chargeId => exact boundTo.kept bound kept
  | pollingRefund payment chargeId refundId => exact ⟨boundTo.kept bound.1 kept, bound.2⟩
  | _ => trivial

theorem Outcome.next_pollBound {out : Outcome} {p : Proc} (next : out.next = some p) (db : Db) :
    p.pollBound db := by
  cases out <;> simp only [Outcome.next, reduceCtorEq, Option.some.injEq,
    Option.ite_none_left_eq_some] at next
  · subst next; trivial
  · subst next; trivial
  · rw [← next.2]; trivial

theorem Commits.pollBound {api : Api} {a : Action} {c : Commit} (commits : Commits api a c)
    (polls : PollsBound api) : c.txn.pollBound api.db := by
  cases commits with
  | captured pid now payment chargeId here _ => exact polls pid _ here
  | declined pid now payment chargeId here _ => exact polls pid _ here
  | pollRefund pid found amountMinor now payment chargeId refundId here _ =>
      obtain ⟨bound, settled⟩ := polls pid _ here
      exact ⟨bound, by simp [settled]⟩
  | _ => trivial

theorem selected_bound {db : Db} {payment : Uuid × Payment} {chargeId : String}
    (here : db.payments.get? payment.1 = some payment.2)
    (charge : payment.2.chargeId = some chargeId) : boundTo db payment chargeId :=
  ⟨payment.2, here, charge, rfl, rfl⟩

theorem PollsBound.become {api : Api} (polls : PollsBound api) {pid : Pid} {p : Option Proc}
    (fresh : ∀ q, p = some q → q.pollBound api.db) : PollsBound (api.become pid p) := by
  intro pid' q here
  rw [Api.become_db]
  rw [Api.become_procs] at here
  split_ifs at here
  · exact fresh q here
  · exact polls pid' q here

theorem step_pollsBound {env : Env} (a : Action) (api api' : Api)
    (stepped : step env a api = some api') (polls : PollsBound api) : PollsBound api' := by
  cases step_cases stepped with
  | committed c out db' enabled free ran =>
      have kept := (Txn.run_effect ran).paymentsKept ((commit_cases enabled).pollBound polls)
      intro pid p here
      rw [Api.resume_db]
      rw [Api.resume_procs] at here
      split_ifs at here
      · exact Outcome.next_pollBound here db'
      · exact (polls pid p here).kept kept
  | aborted c _ enabled =>
      cases owner : c.pid with
      | none => exact polls
      | some pid =>
          refine polls.become fun q retry => ?_
          cases commit_cases enabled <;> cases retry
          trivial
  | unshared _ moved =>
      cases moved with
      | ticked ms => exact polls
      | polling pid payment chargeId idle selected charge =>
          refine polls.become fun q same => ?_
          cases same
          exact selected_bound (Table.mem_select.mp selected).1 charge
      | pollingRefund pid payment chargeId refundId idle selected charge settled =>
          refine polls.become fun q same => ?_
          cases same
          exact ⟨selected_bound (Table.mem_select.mp selected).1 charge, settled⟩
      | charged pid request paymentId _ =>
          refine polls.become (p := some (.charged request paymentId)) fun q same => ?_
          cases same
          trivial
      | refundSent pid instruction _ =>
          refine polls.become (p := some (.refundSent instruction)) fun q same => ?_
          cases same
          trivial
      | _ =>
          refine polls.become fun q same => ?_
          cases same
          try trivial

theorem step_chargesDistinct {env : Env} (a : Action) (api api' : Api)
    (stepped : step env a api = some api') (distinct : ChargesDistinct api.db) :
    ChargesDistinct api'.db := by
  rcases step_db stepped with same | ⟨c, out, -, -, effect⟩
  · rwa [same]
  · exact effect.chargesDistinct distinct

theorem PollsBound.start (now : Instant) (db : Db) : PollsBound (Api.start now db) := by
  intro pid p here
  simp [Api.start] at here

/-- What a step does to payments. -/
theorem step_paymentsKept {env : Env} {a : Action} {api api' : Api} (polls : PollsBound api)
    (stepped : step env a api = some api') : paymentsKept api.db api'.db := by
  rcases step_db stepped with same | ⟨c, out, commits, -, effect⟩
  · exact .of_eq (by rw [same])
  · exact effect.paymentsKept (commits.pollBound polls)

end Atrium
