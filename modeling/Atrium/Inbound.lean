/-
# Inbound -- every event once, however often it is told

A provider's event reaches the API in a delivery, again when the drainer takes the
same delivery, in further deliveries of the same event, and in the answer to a
poll.  `essence` is what a step amounts to once all that is taken away: a
transaction of the API's own, or one event applied at one instant, whatever told
it, or nothing.

`run_essences`: a run leaves the core its essences give.  With the gate, which
lets each charge and event pass once, this is the inbound half of the payment
contract.
-/
import Atrium.Core
import Atrium.PaymentChange

namespace Atrium

open Atrium.Base

set_option autoImplicit false

/-! ## Essences -/

/-- What the drainer selects. -/
def drainable (d : WebhookDelivery) : Bool := d.processedAt.isNone && d.signatureValid

/-- A reference is read only where no payment has the charge id yet. -/
def WebhookEvent.located (e : WebhookEvent) (db : Db) : WebhookEvent :=
  if (paymentByChargeId db e.chargeId).isSome then { e with reference := none } else e

/-- The event a poll's answer for a charge amounts to. -/
def chargeEvent (chargeId : String) (captured : Bool) : WebhookEvent :=
  ⟨chargeId, if captured then .chargeSucceeded else .chargeFailed, none, none, none⟩

/-- The event a poll's answer for a refund amounts to. -/
def refundEvent (payment : Payment) (chargeId : String) (refundId : Option String)
    (amountMinor : Int) : WebhookEvent :=
  ⟨chargeId, .refundSucceeded, none, refundId.or payment.refundId, some amountMinor⟩

inductive Essence where
  | own (t : Txn)
  | event (e : WebhookEvent) (now : Instant)

namespace Essence

/-- The charge and event it applies. -/
def pair : Essence → Option PaymentEvent
  | own _ => none
  | event e _ => some ⟨e.chargeId, e.event⟩

def commit (env : Env) (x : Essence) (db : Db) : Db :=
  match x with
  | own t => t.commit env db
  | event e now => (applyEvent e now).commit db

end Essence

/-- The event itself, where applying it passes the gate. -/
def WebhookEvent.gate (e : WebhookEvent) (now : Instant) (db : Db) : Option Essence :=
  match applyEvent e now db with
  | .ok (.applied _, _) => some (.event e now)
  | _ => none

/-- The event an unprocessed delivery carries. -/
def deliveredEvent (db : Db) (rowId : Uuid) : Option WebhookEvent := do
  let delivery ← (db.webhookDeliveries.get? rowId).filter fun d => d.processedAt.isNone
  let fields ← deliveryFields delivery
  let e ← fields.supported
  pure (e.located db)

/-- What records a delivery, tells of an event, or writes only a note. -/
def Txn.inbound : Txn → Bool
  | .deliver .. | .apply .. | .settleCharge .. | .settleRefund .. | .chargeUnknown ..
  | .refundRejected .. => true
  | _ => false

/-- Without the notes on the payment a request has read. -/
def Txn.plain : Txn → Txn
  | .pay bookingId principal booking existing stamp =>
      .pay bookingId principal booking (existing.map fun row => (row.1, row.2.plain)) stamp
  | t => t

def Txn.essence (db : Db) : Txn → Option Essence
  | .deliver .. | .chargeUnknown .. | .refundRejected .. => none
  | .apply rowId now => (deliveredEvent db rowId).bind fun e => e.gate now db
  | .settleCharge _ chargeId captured now => (chargeEvent chargeId captured).gate now db
  | .settleRefund payment chargeId refundId amountMinor now =>
      (refundEvent payment.2 chargeId refundId amountMinor).gate now db
  | t => some (.own t.plain)

/-- What a step amounts to; nothing where its transaction is rolled back. -/
def essence (env : Env) (a : Action) (api : Api) : Option Essence :=
  match a.commit? api with
  | some c =>
      match c.txn.run env api.db with
      | .ok _ => c.txn.essence api.db
      | .error _ => none
  | none => none

/-- What a run amounts to, in its order. -/
def essences (env : Env) : List Action → Api → List Essence
  | [], _ => []
  | a :: acts, api =>
      (essence env a api).toList ++
        match step env a api with
        | some api' => essences env acts api'
        | none => []

/-- The essences alone, each committed once. -/
def replay (env : Env) (xs : List Essence) (db : Db) : Db :=
  xs.foldl (fun db x => x.commit env db) db

/-! ## Events and the payments they are of -/

/-- Every event that was applied is of a charge some payment is bound to. -/
def EventsKnown (db : Db) : Prop :=
  ∀ pair ∈ db.paymentEvents, ∃ id p, db.payments.get? id = some p ∧ p.chargeId = some pair.chargeId

theorem EventsKnown.found {db : Db} (known : EventsKnown db) {pair : PaymentEvent}
    (among : pair ∈ db.paymentEvents) : paymentByChargeId db pair.chargeId ≠ none := by
  obtain ⟨id, p, here, bound⟩ := known pair among
  exact fun missing => paymentByChargeId_none missing here bound

theorem findPayment_events {e : WebhookEvent} {now : Instant} {db t : Db}
    {r : Option (Uuid × Payment)} (looked : findPayment e now db = .ok (r, t)) :
    t.paymentEvents = db.paymentEvents ∧ t.webhookDeliveries = db.webhookDeliveries := by
  rcases findPayment_ok looked with ⟨-, rfl, -⟩ | ⟨_, -, rfl, -⟩ | ⟨_, _, -, -, -, -, -, -, rfl⟩ <;>
    exact ⟨rfl, rfl⟩

theorem Consequence.events {payment : Uuid × Payment} {e : WebhookEvent} {now : Instant}
    {db db' : Db} {r : Option RefundInstruction} (consequence : Consequence payment e now db r db') :
    db'.paymentEvents = db.paymentEvents ∧ db'.webhookDeliveries = db.webhookDeliveries := by
  cases consequence with
  | late b _ _ _ _ => by_cases pending : b.status = .pendingPayment <;> simp [lateCharge, pending]
  | _ => exact ⟨rfl, rfl⟩

/-- An event that is applied adds its pair, which was not there, and some payment
is bound to its charge. -/
theorem applyEvent_applied {e : WebhookEvent} {now : Instant} {db u : Db}
    {r : Option RefundInstruction} (ran : applyEvent e now db = .ok (.applied r, u)) :
    ⟨e.chargeId, e.event⟩ ∉ db.paymentEvents ∧
      u.paymentEvents = db.paymentEvents ++ [⟨e.chargeId, e.event⟩] ∧
      u.webhookDeliveries = db.webhookDeliveries ∧ paymentsKept db u ∧
      ∃ id p, u.payments.get? id = some p ∧ p.chargeId = some e.chargeId := by
  obtain ⟨found, t, looked, ⟨-, never, -⟩ | ⟨-, never, -⟩ | ⟨payment, r', rfl, -, applied⟩⟩ :=
    applyEvent_ok ran
  · cases never
  · cases never
  obtain ⟨events, deliveries⟩ := findPayment_events looked
  obtain ⟨events', deliveries'⟩ := applied.consequence.events
  obtain ⟨here, bound⟩ := findPayment_found looked
  have kept : paymentsKept (t.claim ⟨e.chargeId, e.event⟩) u := by
    refine applied.consequence.paymentsKept fun p stored => ?_
    rw [Db.claim_payments, here] at stored
    cases stored
    exact bound
  obtain ⟨p, stored, keeps⟩ := kept payment.1 payment.2 here
  refine ⟨events ▸ applied.1, ?_, ?_, ?_, payment.1, p, stored, keeps.charge _ bound⟩
  · rw [events', Db.claim_paymentEvents, events]
  · rw [deliveries', Db.claim_webhookDeliveries, deliveries]
  · exact (findPayment_kept looked).trans kept

/-- What does not pass the gate changes nothing, once the applied events are known. -/
theorem applyEvent_lost {e : WebhookEvent} {now : Instant} {db t : Db} {verdict : Verdict}
    (ran : applyEvent e now db = .ok (verdict, t)) (known : EventsKnown db)
    (lost : ∀ r, verdict ≠ .applied r) : t = db := by
  obtain ⟨found, t', looked, ⟨rfl, -, rfl⟩ | ⟨some_, -, rfl, taken⟩ | ⟨_, r, -, rfl, -⟩⟩ :=
    applyEvent_ok ran
  · rcases findPayment_ok looked with ⟨-, same, -⟩ | ⟨_, never, -⟩ | ⟨_, _, -, -, -, -, never, -⟩
    · exact same
    · cases never
    · cases never
  · rcases findPayment_ok looked with ⟨-, same, -⟩ | ⟨_, -, same, -⟩ | ⟨_, _, -, missing, -⟩
    · exact same
    · exact same
    · rw [(findPayment_events looked).1] at taken
      exact absurd missing (known.found taken)
  · exact absurd rfl (lost r)

theorem gate_applied {e : WebhookEvent} {now : Instant} {db u : Db}
    {r : Option RefundInstruction} (ran : applyEvent e now db = .ok (.applied r, u)) :
    e.gate now db = some (.event e now) := by
  simp [WebhookEvent.gate, ran]

theorem gate_lost {e : WebhookEvent} {now : Instant} {db t : Db} {verdict : Verdict}
    (ran : applyEvent e now db = .ok (verdict, t)) (lost : ∀ r, verdict ≠ .applied r) :
    e.gate now db = none := by
  cases verdict with
  | applied r => exact absurd rfl (lost r)
  | unknownCharge => simp [WebhookEvent.gate, ran]
  | duplicateEffect => simp [WebhookEvent.gate, ran]

/-! ## The three routes -/

theorem findPayment_bound {e : WebhookEvent} {db : Db} {row : Uuid × Payment}
    (found : paymentByChargeId db e.chargeId = some row) (now : Instant) :
    findPayment e now db = .ok (some row, db) := by
  simp only [findPayment, Tx.read_bind, found]
  rfl

theorem applyEvent_located (e : WebhookEvent) (now : Instant) (db : Db) :
    applyEvent (e.located db) now db = applyEvent e now db := by
  unfold WebhookEvent.located
  split
  · rename_i bound
    obtain ⟨row, found⟩ := Option.isSome_iff_exists.mp bound
    unfold applyEvent
    rw [Tx.bind_of_ok (findPayment_bound found now),
      Tx.bind_of_ok (findPayment_bound (e := { e with reference := none }) found now)]
    rfl
  · rfl

theorem applyEvent_duplicate {e : WebhookEvent} {db : Db} {row : Uuid × Payment}
    (found : paymentByChargeId db e.chargeId = some row)
    (taken : ⟨e.chargeId, e.event⟩ ∈ db.paymentEvents) (now : Instant) :
    applyEvent e now db = .ok (.duplicateEffect, db) := by
  have lost : claimEvent ⟨e.chargeId, e.event⟩ db = .ok (false, db) :=
    claimEvent_ok.mpr (.inl ⟨rfl, taken, rfl⟩)
  unfold applyEvent
  rw [Tx.bind_of_ok (findPayment_bound found now)]
  dsimp only
  rw [Tx.bind_of_ok lost]
  rfl

/-- The effect of an event reads three columns of the payment it is given. -/
theorem applyEffect_congr {p q : Payment} {e : WebhookEvent} (booking : p.bookingId = q.bookingId)
    (amount : p.amountMinor = q.amountMinor)
    (refund : e.event = .refundSucceeded → e.refundId ≠ none) (id : Uuid) (now : Instant) :
    applyEffect (id, p) e now = applyEffect (id, q) e now := by
  unfold applyEffect
  cases name : e.event with
  | chargeSucceeded => simp only [onChargeSucceeded, booking, amount]
  | chargeFailed => simp only [onChargeFailed, booking]
  | refundSucceeded =>
      obtain ⟨refundId, known⟩ := Option.ne_none_iff_exists'.mp (refund name)
      simp only [onRefundSucceeded, booking, amount, known, Option.some_or]

/-- A poll that passes the gate is its event, applied. -/
theorem applyEvent_of_applied {payment : Uuid × Payment} {e : WebhookEvent} {now : Instant}
    {db u : Db} {r : Option RefundInstruction} (distinct : ChargesDistinct db)
    (bound : boundTo db payment e.chargeId)
    (refund : e.event = .refundSucceeded → e.refundId ≠ none)
    (applied : Applied payment e now db r u) : applyEvent e now db = .ok (.applied r, u) := by
  obtain ⟨p, here, charge, booking, amount⟩ := bound
  obtain ⟨fresh, ran⟩ := applied
  have won : claimEvent ⟨e.chargeId, e.event⟩ db = .ok (true, db.claim ⟨e.chargeId, e.event⟩) :=
    claimEvent_ok.mpr (.inr ⟨rfl, fresh, rfl⟩)
  have same : applyEffect payment e now = applyEffect (payment.1, p) e now :=
    applyEffect_congr booking.symm amount.symm refund payment.1 now
  rw [same] at ran
  unfold applyEvent
  rw [Tx.bind_of_ok (findPayment_bound (distinct.found here charge) now)]
  dsimp only
  rw [Tx.bind_of_ok won, if_pos rfl, Tx.bind_of_ok ran]
  rfl

theorem refundEvent_applied {payment : Uuid × Payment} {chargeId : String}
    {refundId : Option String} {amountMinor : Int} {now : Instant} {db u : Db}
    {r : Option RefundInstruction}
    (applied : Applied payment ⟨chargeId, .refundSucceeded, none, refundId, some amountMinor⟩
      now db r u) :
    Applied payment (refundEvent payment.2 chargeId refundId amountMinor) now db r u := by
  refine ⟨applied.1, ?_⟩
  have ran := applied.2
  simp only [applyEffect, onRefundSucceeded] at ran
  simpa only [applyEffect, refundEvent, onRefundSucceeded, Option.or_assoc, Option.or_self] using ran

/-! ## What a transaction amounts to -/

theorem Txn.own_sim {R : Db → Db → Prop} (keeps : KeepsCore R) (env : Env) {t : Txn}
    (own : t.inbound = false) : Sim R Eq (t.run env) (t.plain.run env) := by
  cases t with
  | hold input ctx principal stamp expired priced =>
      exact .bind (finishHold_sim keeps _ _ _ _ _ _ _) fun _ _ _ => .ret rfl
  | checkout bookingId principal booking now =>
      exact .bind (checkoutLoaded_sim keeps _ _ _ _ _) fun _ _ _ => .ret rfl
  | pay bookingId principal booking existing stamp =>
      refine .bind (payLoaded_sim keeps _ _ _ ?_ _) fun _ _ same => .ret same
      cases existing with
      | none => exact .none
      | some row => exact .some ⟨rfl, rfl⟩
  | bindCharge paymentId chargeId now =>
      exact .bind (updatePayment_sim keeps _ (adopted_blind _ _)) fun _ _ _ => .ret rfl
  | cancel bookingId reason principal now =>
      exact .bind (cancel_sim keeps _ _ _ _) fun _ _ _ => .ret rfl
  | settleCancellation bookingId choice now =>
      refine .bind (settleCancellation_sim keeps _ _ _) ?_
      rintro _ _ rfl
      exact .ret rfl
  | refundAccepted paymentId refundId now =>
      exact .bind (updatePayment_sim keeps _ (boundRefund_blind _ _)) fun _ _ _ => .ret rfl
  | sweep now locked => exact .bind (sweeperTick_sim keeps _ _) fun _ _ _ => .ret rfl
  | addPolicy id venueId tiers now =>
      exact .bind (addPolicy_sim keeps _ _ _ _) fun _ _ _ => .ret rfl
  | _ => cases own

theorem Effect.own_events {env : Env} {t : Txn} {db db' : Db} {out : Outcome}
    (effect : Effect env t db db' out) (own : t.inbound = false) :
    db'.paymentEvents = db.paymentEvents ∧ db'.webhookDeliveries = db.webhookDeliveries := by
  cases effect with
  | paid bookingId principal booking existing stamp _ recorded _ payment inserted found moved =>
      rcases inserted with ⟨-, rfl⟩ | ⟨-, _, -, rfl⟩ <;>
        rcases moved with ⟨-, -, -, rfl⟩ | ⟨-, rfl⟩ <;> exact ⟨rfl, rfl⟩
  | delivered => cases own
  | unsupported => cases own
  | lost => cases own
  | applied => cases own
  | polledCharge => cases own
  | polledRefund => cases own
  | _ => exact ⟨rfl, rfl⟩

/-- What a returned transaction did to the core, by its essence. -/
inductive Essential (env : Env) (t : Txn) (db db' : Db) : Option Essence → Prop
  | quiet : SameCore db' db → Essential env t db db' none
  | own : t.inbound = false → db'.paymentEvents = db.paymentEvents →
      Essential env t db db' (some (.own t.plain))
  | event (e : WebhookEvent) (now : Instant) (r : Option RefundInstruction) (u : Db) :
      applyEvent e now db = .ok (.applied r, u) → SameCore db' u →
      Essential env t db db' (some (.event e now))

theorem SameCore.noted {db : Db} {f : Payment → Payment} (note : ∀ p, noted p (f p)) (id : Uuid) :
    SameCore (db.modifyPayment id f) db := by
  refine { SameCore.refl db with payments := ?_ }
  ext1
  simp only [Db.modifyPayment_payments, Table.modify, Table.update_rows, List.map_map]
  refine List.map_congr_left fun row _ => ?_
  obtain ⟨reason, now, same⟩ := note row.2
  by_cases own : row.1 = id
  · simp [own, same, Payment.plain]
  · simp [own]

/-- **A transaction amounts to its essence.** -/
theorem Txn.essential {env : Env} {t : Txn} {db db' : Db} {out : Outcome}
    (ran : t.run env db = .ok (out, db')) (known : EventsKnown db) (distinct : ChargesDistinct db)
    (bound : t.pollBound db) : Essential env t db db' (t.essence db) := by
  cases t with
  | deliver request rowId now =>
      simp only [run, Tx.bind_ok, Tx.pure_ok] at ran
      obtain ⟨_, _, ran, -, rfl⟩ := ran
      rcases ingest_ok ran with rfl | ⟨_, _, deliveries, -, rfl, -⟩
      · exact .quiet (.refl _)
      · exact .quiet (.deliveries _ _)
  | apply rowId now =>
      simp only [run, Tx.bind_ok, Tx.pure_ok] at ran
      obtain ⟨_, _, ran, -, rfl⟩ := ran
      rcases applyInTransaction_ok ran with ⟨rfl, same, done⟩ | ⟨d, fields, here, unprocessed, read,
        ⟨unsupported, rfl, rfl⟩ | ⟨e, verdict, t, supported, event, settled⟩⟩
      · have idle : deliveredEvent db rowId = none := by
          cases here : db.webhookDeliveries.get? rowId with
          | none => simp [deliveredEvent, here]
          | some d => simp [deliveredEvent, here, Option.filter, done d here]
        simp only [essence, idle, Option.bind_none]
        exact .quiet (same ▸ .refl _)
      · have idle : deliveredEvent db rowId = none := by
          simp [deliveredEvent, here, Option.filter, unprocessed, read, unsupported]
        simp only [essence, idle, Option.bind_none]
        exact .quiet (.deliveries _ _)
      · have told : deliveredEvent db rowId = some (e.located db) := by
          simp [deliveredEvent, here, Option.filter, unprocessed, read, supported]
        simp only [essence, told, Option.bind_some]
        rw [← applyEvent_located] at event
        obtain ⟨rfl, rfl⟩ := settleDelivery_ok.mp settled
        cases verdict with
        | applied r =>
            rw [gate_applied event]
            exact .event _ now r t event (.deliveries _ _)
        | unknownCharge =>
            rw [gate_lost event (by simp), applyEvent_lost event known (by simp)]
            exact .quiet (.deliveries _ _)
        | duplicateEffect =>
            rw [gate_lost event (by simp), applyEvent_lost event known (by simp)]
            exact .quiet (.deliveries _ _)
  | settleCharge payment chargeId captured now =>
      simp only [run, Tx.bind_ok, Tx.pure_ok] at ran
      obtain ⟨_, _, ran, -, rfl⟩ := ran
      rcases settleCharge_ok ran with ⟨rfl, rfl, taken⟩ | ⟨r, rfl, effect⟩
      · obtain ⟨p, here, charge, -⟩ := bound
        have lost := applyEvent_duplicate (e := chargeEvent chargeId captured)
          (distinct.found here charge) taken now
        simp only [essence, gate_lost lost (by simp)]
        exact .quiet (.refl _)
      · have event := applyEvent_of_applied (e := chargeEvent chargeId captured) distinct bound
          (by cases captured <;> simp [chargeEvent]) effect
        simp only [essence, gate_applied event]
        exact .event _ now r _ event (.refl _)
  | settleRefund payment chargeId refundId amountMinor now =>
      simp only [run, Tx.bind_ok, Tx.pure_ok] at ran
      obtain ⟨_, _, ran, -, rfl⟩ := ran
      obtain ⟨bound, settled⟩ := bound
      rcases settleRefundPoll_ok ran with ⟨-, rfl, taken⟩ | ⟨-, effect⟩
      · obtain ⟨p, here, charge, -⟩ := bound
        have lost := applyEvent_duplicate
          (e := refundEvent payment.2 chargeId refundId amountMinor)
          (distinct.found here charge) taken now
        simp only [essence, gate_lost lost (by simp)]
        exact .quiet (.refl _)
      · have event := applyEvent_of_applied
          (e := refundEvent payment.2 chargeId refundId amountMinor) distinct bound
          (by simp [refundEvent, settled]) (refundEvent_applied effect)
        simp only [essence, gate_applied event]
        exact .event _ now none _ event (.refl _)
  | chargeUnknown paymentId now =>
      simp only [run, Atrium.chargeUnknown, Tx.bind_ok, Tx.pure_ok, updatePayment_ok] at ran
      obtain ⟨_, _, ⟨-, rfl⟩, -, rfl⟩ := ran
      exact .quiet (.noted (fun p => ⟨_, now, rfl⟩) _)
  | refundRejected paymentId message now =>
      simp only [run, Atrium.refundRejected, Tx.bind_ok, Tx.pure_ok, updatePayment_ok] at ran
      obtain ⟨_, _, ⟨-, rfl⟩, -, rfl⟩ := ran
      exact .quiet (.noted (fun p => ⟨_, now, rfl⟩) _)
  | _ => exact .own rfl ((run_effect ran).own_events rfl).1

/-! ## What a step amounts to -/

/-- The invariants the gate rests on. -/
structure Gated (api : Api) : Prop where
  polls : PollsBound api
  distinct : ChargesDistinct api.db
  known : EventsKnown api.db

/-- A step that commits amounts to its transaction's essence; any other is nothing. -/
theorem Gated.essential {env : Env} {a : Action} {api api' : Api} (gated : Gated api)
    (stepped : step env a api = some api') :
    (essence env a api = none ∧ api'.db = api.db) ∨
      ∃ (c : Commit) (out : Outcome), c.txn.run env api.db = .ok (out, api'.db) ∧
        Essential env c.txn api.db api'.db (essence env a api) := by
  cases step_cases stepped with
  | committed c out db' enabled free ran =>
      have amounts : essence env a api = c.txn.essence api.db := by simp [essence, enabled, ran]
      have bound := (commit_cases enabled).pollBound gated.polls
      rw [amounts, Api.resume_db]
      exact .inr ⟨c, out, ran, Txn.essential ran gated.known gated.distinct bound⟩
  | aborted c e enabled ran => exact .inl ⟨by simp [essence, enabled, ran], by simp⟩
  | unshared _ moved idle => exact .inl ⟨by simp [essence, idle], moved.db⟩

/-- **The gate**: a step claims the pair of its essence, which is new, and no other. -/
theorem Gated.events {env : Env} {a : Action} {api api' : Api} (gated : Gated api)
    (stepped : step env a api = some api') :
    api'.db.paymentEvents =
        api.db.paymentEvents ++ ((essence env a api).bind Essence.pair).toList ∧
      ∀ pair, (essence env a api).bind Essence.pair = some pair → pair ∉ api.db.paymentEvents := by
  rcases gated.essential stepped with ⟨nothing, same⟩ | ⟨c, out, -, essential⟩
  · rw [nothing, same]
    exact ⟨by simp, by simp⟩
  · generalize essence env a api = x at essential ⊢
    cases essential with
    | quiet core => exact ⟨by simp [core.events], by simp⟩
    | own _ events => exact ⟨by simp [events, Essence.pair], by simp [Essence.pair]⟩
    | event e now r u applied core =>
        obtain ⟨fresh, events, -⟩ := applyEvent_applied applied
        exact ⟨by simp [core.events, events, Essence.pair], by simpa [Essence.pair] using fresh⟩

/-- A payment bound to a charge is bound to it in every database of the core. -/
theorem SameCore.bound {s t : Db} (same : SameCore s t) {id : Uuid} {p : Payment} {c : String}
    (here : t.payments.get? id = some p) (bound : p.chargeId = some c) :
    ∃ id p, s.payments.get? id = some p ∧ p.chargeId = some c := by
  have both := same.payment id
  rw [here] at both
  cases stored : s.payments.get? id with
  | none =>
      rw [stored] at both
      cases both
  | some q =>
      rw [stored] at both
      cases both with
      | some equal => exact ⟨id, q, stored, equal.fields.2.2.1.trans bound⟩

theorem Gated.knows {env : Env} {a : Action} {api api' : Api} (gated : Gated api)
    (stepped : step env a api = some api') : EventsKnown api'.db := by
  have old : ∀ pair ∈ api.db.paymentEvents,
      ∃ id p, api'.db.payments.get? id = some p ∧ p.chargeId = some pair.chargeId := by
    intro pair among
    obtain ⟨id, p, here, bound⟩ := gated.known pair among
    obtain ⟨p', here', keeps⟩ := step_paymentsKept gated.polls stepped id p here
    exact ⟨id, p', here', keeps.charge _ bound⟩
  rcases gated.essential stepped with ⟨-, same⟩ | ⟨c, out, -, essential⟩
  · rw [same]
    exact gated.known
  · generalize essence env a api = x at essential
    cases essential with
    | quiet core =>
        intro pair among
        exact old pair (core.events ▸ among)
    | own _ events =>
        intro pair among
        exact old pair (events ▸ among)
    | event e now r u applied core =>
        obtain ⟨-, events, -, -, id, p, here, bound⟩ := applyEvent_applied applied
        intro pair among
        rw [core.events, events, List.mem_append, List.mem_singleton] at among
        rcases among with before | rfl
        · exact old pair before
        · exact core.bound here bound

theorem step_gated {env : Env} (a : Action) (api api' : Api)
    (stepped : step env a api = some api') (gated : Gated api) : Gated api' :=
  ⟨step_pollsBound a api api' stepped gated.polls,
    step_chargesDistinct a api api' stepped gated.distinct, gated.knows stepped⟩

theorem Gated.start {db : Db} (fresh : db.Fresh) (now : Instant) : Gated (Api.start now db) := by
  obtain ⟨-, -, payments, events, -⟩ := fresh
  refine ⟨.start now db, ?_, ?_⟩
  · intro id p id' p' c here
    simp [Api.start, payments] at here
  · intro pair among
    simp [Api.start, events] at among

/-! ## What a run amounts to -/

/-- **A step leaves the core its essence gives**, from any database of that core. -/
theorem Gated.core {env : Env} {a : Action} {api api' : Api} (gated : Gated api)
    (stepped : step env a api = some api') {db : Db} (same : SameCore api.db db) :
    SameCore api'.db (replay env (essence env a api).toList db) := by
  rcases gated.essential stepped with ⟨nothing, kept⟩ | ⟨c, out, ran, essential⟩
  · rw [nothing, kept]
    exact same
  · generalize essence env a api = x at essential ⊢
    cases essential with
    | quiet core => exact core.trans same
    | own own _ =>
        have both := (Txn.own_sim SameCore.keepsCore env own).commit same
        rwa [Tx.commit_of_ok ran] at both
    | event e now r u applied core =>
        have both := (applyEvent_sim SameCore.keepsCore e now).commit same
        rw [Tx.commit_of_ok applied] at both
        exact core.trans both

theorem replay_append (env : Env) (xs ys : List Essence) (db : Db) :
    replay env (xs ++ ys) db = replay env ys (replay env xs db) :=
  List.foldl_append

theorem essences_cons {env : Env} {a : Action} {api api' : Api}
    (stepped : step env a api = some api') (acts : List Action) :
    essences env (a :: acts) api = (essence env a api).toList ++ essences env acts api' := by
  simp [essences, stepped]

/-- **A run leaves the core its essences give.** -/
theorem run_essences {env : Env} : ∀ {acts : List Action} {api api' : Api} {db : Db},
    run (step env) acts api = some api' → Gated api → SameCore api.db db →
      SameCore api'.db (replay env (essences env acts api) db)
  | [], _, _, _, ran, _, same => by
      cases ran
      exact same
  | a :: acts, api, api', db, ran, gated, same => by
      obtain ⟨t, stepped, rest⟩ := Option.bind_eq_some_iff.mp ran
      rw [essences_cons stepped, replay_append]
      exact run_essences rest (step_gated a api t stepped gated) (gated.core stepped same)

/-- The pairs a run has claimed are those of its essences, in their order. -/
theorem run_pairs {env : Env} : ∀ {acts : List Action} {api api' : Api},
    run (step env) acts api = some api' → Gated api →
      api'.db.paymentEvents =
        api.db.paymentEvents ++ (essences env acts api).filterMap Essence.pair
  | [], _, _, ran, _ => by
      cases ran
      simp [essences]
  | a :: acts, api, api', ran, gated => by
      obtain ⟨t, stepped, rest⟩ := Option.bind_eq_some_iff.mp ran
      have first := (gated.events stepped).1
      have later := run_pairs rest (step_gated a api t stepped gated)
      rw [later, first, essences_cons stepped, List.filterMap_append, List.append_assoc]
      cases essence env a api with
      | none => rfl
      | some x => cases pair : x.pair <;> simp [pair]

theorem step_nodup {env : Env} (a : Action) (api api' : Api) (stepped : step env a api = some api')
    (holds : Gated api ∧ api.db.paymentEvents.Nodup) :
    Gated api' ∧ api'.db.paymentEvents.Nodup := by
  obtain ⟨gated, nodup⟩ := holds
  refine ⟨step_gated a api api' stepped gated, ?_⟩
  obtain ⟨events, fresh⟩ := gated.events stepped
  rw [events]
  cases claimed : (essence env a api).bind Essence.pair with
  | none => simpa using nodup
  | some pair =>
      refine List.nodup_append.mpr ⟨nodup, by simp, ?_⟩
      rintro old among new own rfl
      simp only [Option.toList_some, List.mem_singleton] at own
      subst own
      exact fresh old claimed among

/-! ## Stored deliveries -/

/-- A signed delivery is still the drainer's, or the event it carries was applied. -/
def settled (db : Db) (d : WebhookDelivery) : Prop :=
  d.signatureValid = true → drainable d = true ∨
    d.processedAt ≠ none ∧ ∀ fields e, deliveryFields d = some fields →
      fields.supported = some e → ⟨e.chargeId, e.event⟩ ∈ db.paymentEvents

def DeliveriesSettled (db : Db) : Prop :=
  ∀ id d, db.webhookDeliveries.get? id = some d → settled db d

theorem settled.grow {db db' : Db} {d : WebhookDelivery} (done : settled db d)
    (more : ∀ pair ∈ db.paymentEvents, pair ∈ db'.paymentEvents) : settled db' d := by
  intro signed
  rcases done signed with waiting | ⟨processed, applied⟩
  · exact .inl waiting
  · exact .inr ⟨processed, fun fields e read supported => more _ (applied fields e read supported)⟩

/-- A row that is updated stays settled when what the update leaves is. -/
theorem DeliveriesSettled.modify {db db' : Db} (done : DeliveriesSettled db)
    (more : ∀ pair ∈ db.paymentEvents, pair ∈ db'.paymentEvents) {id : Uuid}
    {f : WebhookDelivery → WebhookDelivery}
    (updated : db'.webhookDeliveries = db.webhookDeliveries.modify id f)
    (own : ∀ d, db.webhookDeliveries.get? id = some d → settled db' (f d)) :
    DeliveriesSettled db' := by
  intro id' d here
  rw [updated] at here
  obtain ⟨d', stored, same⟩ := Table.get?_modify_some.mp here
  by_cases same_ : id' = id
  · subst same_
    rw [if_pos rfl] at same
    exact same ▸ own d' stored
  · rw [if_neg same_] at same
    exact same ▸ (done id' d' stored).grow more

theorem settledRow_fields (e : WebhookEvent) (now : Instant) (verdict : Verdict)
    (d : WebhookDelivery) :
    (settledRow e now verdict d).signatureValid = d.signatureValid ∧
      deliveryFields (settledRow e now verdict d) = deliveryFields d := by
  cases verdict <;> exact ⟨rfl, rfl⟩

/-- **A delivery is marked processed only when its event was applied.** -/
theorem Effect.deliveriesSettled {env : Env} {t : Txn} {db db' : Db} {out : Outcome}
    (effect : Effect env t db db' out) (done : DeliveriesSettled db) : DeliveriesSettled db' := by
  cases effect with
  | delivered request rowId now _ error processed deliveries inserted read unsupported =>
      intro id d here
      rw [Table.get?_insert? inserted] at here
      by_cases own : id = rowId
      · rw [if_pos own] at here
        cases here
        intro signed
        cases processed with
        | false => exact .inl (by simpa [drainable, deliveryRow] using signed)
        | true =>
            refine .inr ⟨by simp [deliveryRow], fun fields e fieldsRead supported => ?_⟩
            have none_ := unsupported signed rfl
            have same : signedFields request = some fields := by
              simp only [deliveryRow] at signed
              simpa [signedFields, signed, deliveryFields, deliveryRow] using fieldsRead
            simp [same, supported] at none_
      · rw [if_neg own] at here
        exact done id d here
  | unsupported rowId now _ d fields here unprocessed read unsupported =>
      let finished (d : WebhookDelivery) : WebhookDelivery :=
        { d with processedAt := some now, error := some "unsupported_event" }
      refine done.modify (f := finished) (fun _ among => among) rfl fun d' stored _ => ?_
      refine .inr ⟨by simp [finished], fun fields' e read' supported => ?_⟩
      rw [here] at stored
      cases stored
      rw [show deliveryFields (finished d) = deliveryFields d from rfl, read] at read'
      cases read'
      simp [unsupported] at supported
  | lost rowId now _ u d fields e found verdict here unprocessed read supported looked verdict_ =>
      obtain ⟨events, deliveries⟩ := findPayment_events looked
      have updated : (u.modifyDelivery rowId (settledRow e now verdict)).webhookDeliveries =
          db.webhookDeliveries.modify rowId (settledRow e now verdict) := by simp [deliveries]
      refine done.modify (fun _ among => events.symm ▸ among) updated ?_
      intro d' stored signed
      rw [here] at stored
      cases stored
      obtain ⟨valid, same⟩ := settledRow_fields e now verdict d
      rcases verdict_ with ⟨-, rfl⟩ | ⟨-, rfl, taken⟩
      · exact .inl (by simp_all [drainable, settledRow])
      · refine .inr ⟨by simp [settledRow], fun fields' e' read' supported' => ?_⟩
        rw [same, read] at read'
        cases read'
        rw [supported] at supported'
        cases supported'
        exact taken
  | applied rowId now _ u v d fields e payment r here unprocessed read supported looked applied =>
      obtain ⟨events, deliveries⟩ := findPayment_events looked
      obtain ⟨events', deliveries'⟩ := applied.consequence.events
      have claimed : v.paymentEvents = db.paymentEvents ++ [⟨e.chargeId, e.event⟩] := by
        rw [events', Db.claim_paymentEvents, events]
      have updated : (v.modifyDelivery rowId (settledRow e now (.applied r))).webhookDeliveries =
          db.webhookDeliveries.modify rowId (settledRow e now (.applied r)) := by
        simp [deliveries', deliveries]
      refine done.modify (fun _ among => ?_) updated ?_
      · simp [claimed, among]
      · intro d' stored signed
        rw [here] at stored
        cases stored
        refine .inr ⟨by simp [settledRow], fun fields' e' read' supported' => ?_⟩
        rw [(settledRow_fields e now (.applied r) d).2, read] at read'
        cases read'
        rw [supported] at supported'
        cases supported'
        simp [claimed]
  | polledCharge payment chargeId captured now _ _ r applied =>
      obtain ⟨events, deliveries⟩ := applied.consequence.events
      intro id d here
      rw [deliveries, Db.claim_webhookDeliveries] at here
      exact (done id d here).grow fun pair among => by simp [events, among]
  | polledRefund payment chargeId refundId amountMinor now _ _ applied =>
      obtain ⟨events, deliveries⟩ := applied.consequence.events
      intro id d here
      rw [deliveries, Db.claim_webhookDeliveries] at here
      exact (done id d here).grow fun pair among => by simp [events, among]
  | paid bookingId principal booking existing stamp _ recorded _ payment inserted found moved =>
      have own := (@Effect.paid env bookingId principal booking existing stamp db recorded db'
        payment inserted found moved).own_events rfl
      intro id d here
      rw [own.2] at here
      exact (done id d here).grow fun pair among => own.1.symm ▸ among
  | _ => exact fun id d here => done id d here

theorem step_deliveriesSettled {env : Env} (a : Action) (api api' : Api)
    (stepped : step env a api = some api') (done : DeliveriesSettled api.db) :
    DeliveriesSettled api'.db := by
  rcases step_db stepped with same | ⟨c, out, -, -, effect⟩
  · rwa [same]
  · exact effect.deliveriesSettled done

/-! ## Exactly once -/

def paymentStatus (db : Db) (id : Uuid) : Option PaymentStatus :=
  (db.payments.get? id).map Payment.status

theorem SameCore.statuses {s t : Db} (same : SameCore s t) :
    s.bookings = t.bookings ∧ ∀ id, paymentStatus s id = paymentStatus t id := by
  refine ⟨same.bookings, fun id => ?_⟩
  have both := same.payment id
  unfold paymentStatus
  generalize s.payments.get? id = left at both ⊢
  generalize t.payments.get? id = right at both ⊢
  cases both with
  | none => rfl
  | some equal => simp [equal.fields.2.2.2.2.1]

/-- **Exactly once.**  Of every run: the pairs whose effect it applied are distinct
and are the recorded ones; its bookings and payments are those of its essences, each
applied once, so that a run with the same essences, whatever else was delivered or
polled in it, ends with the same statuses; and a signed delivery is still selected
by the drainer unless the effect of its event was applied. -/
theorem inbound_exactly_once {env : Env} {now : Instant} {db : Db} (fresh : db.Fresh)
    {acts : List Action} {api : Api} (ran : run (step env) acts (Api.start now db) = some api) :
    (essences env acts (Api.start now db)).filterMap Essence.pair = api.db.paymentEvents ∧
      api.db.paymentEvents.Nodup ∧
      (∀ id d, api.db.webhookDeliveries.get? id = some d → settled api.db d) ∧
      SameCore api.db (replay env (essences env acts (Api.start now db)) db) ∧
      ∀ now' acts' api', run (step env) acts' (Api.start now' db) = some api' →
        essences env acts' (Api.start now' db) = essences env acts (Api.start now db) →
        api'.db.bookings = api.db.bookings ∧
          ∀ id, paymentStatus api'.db id = paymentStatus api.db id := by
  have gated := Gated.start fresh now
  have core := run_essences ran gated (SameCore.refl db)
  obtain ⟨-, -, -, events, deliveries, -⟩ := id fresh
  refine ⟨?_, ?_, ?_, core, ?_⟩
  · have pairs := run_pairs ran gated
    rw [show (Api.start now db).db = db from rfl, events, List.nil_append] at pairs
    exact pairs.symm
  · have nodup : (Api.start now db).db.paymentEvents.Nodup := by simp [Api.start, events]
    exact (run_keeps step_nodup ran ⟨gated, nodup⟩).2
  · refine run_keeps (I := fun api => DeliveriesSettled api.db) step_deliveriesSettled ran ?_
    intro id d here
    simp [Api.start, deliveries] at here
  · intro now' acts' api' ran' same
    have core' := run_essences ran' (Gated.start fresh now') (SameCore.refl db)
    rw [same] at core'
    exact (core'.trans core.symm).statuses

/-- A captured charge told of by two deliveries, one of them recorded twice. -/
def toldTwice : List Action :=
  Sample.holding 0 Sample.hold 7 0 ++ Sample.paying 1 (Uuid.path 7) 10 "ch_1" 0 ++
    [.deliver (Sample.webhook "d_1" "ch_1" .chargeSucceeded) 20 0,
      .deliver (Sample.webhook "d_1" "ch_1" .chargeSucceeded) 21 0,
      .deliver (Sample.webhook "d_2" "ch_1" .chargeSucceeded) 22 0,
      .apply 2 20 0, .apply 3 22 0, .apply 4 20 0]

theorem inbound_exactly_once_told_twice : ∃ api,
    run (step .default) toldTwice (Api.start 0 Sample.db) = some api ∧
      api.db.paymentEvents = [⟨"ch_1", .chargeSucceeded⟩] ∧
      (essences .default toldTwice (Api.start 0 Sample.db)).filterMap Essence.pair =
        api.db.paymentEvents := by
  have ran : ((run (step .default) toldTwice (Api.start 0 Sample.db)).map
      fun api => api.db.paymentEvents) = some [⟨"ch_1", .chargeSucceeded⟩] := by
    decide +kernel
  obtain ⟨api, ran, events⟩ := Option.map_eq_some_iff.mp ran
  exact ⟨api, ran, events, (inbound_exactly_once Sample.db_fresh ran).1⟩

/-- The action delivers once more what one of the others delivers, or has the API look at a
delivery or at the provider. -/
def TellsAgain (others : List Action) : Action → Prop
  | .deliver request _ _ => ∃ request' rowId now, .deliver request' rowId now ∈ others ∧
      request.signed = request'.signed ∧ signedFields request = signedFields request'
  | .apply .. | .selectCharge .. | .pollCharge .. | .selectRefund .. | .pollRefund .. => True
  | _ => False

/-- The charge is told of twice, at once and after the deadline: the first to be applied
decides. -/
theorem inbound_telling_counts : ¬ ∀ (env : Env) (now : Instant) (db : Db), db.Fresh →
    ∀ (before more rest : List Action) (api api' : Api), (∀ a ∈ more, TellsAgain rest a) →
      run (step env) (before ++ rest) (Api.start now db) = some api →
      run (step env) (before ++ more ++ rest) (Api.start now db) = some api' →
      ∀ id, (api'.db.bookings.get? id).map Booking.status =
        (api.db.bookings.get? id).map Booking.status := by
  intro claim
  obtain ⟨before, isBefore⟩ : ∃ before, before = Sample.holding 0 Sample.hold 7 0 ++
    Sample.paying 1 (Uuid.path 7) 10 "ch_1" 0 := ⟨_, rfl⟩
  obtain ⟨more, isMore⟩ : ∃ more, more =
    [Action.deliver (Sample.webhook "d_2" "ch_1" .chargeSucceeded) 21 0, .apply 3 21 0] := ⟨_, rfl⟩
  obtain ⟨rest, isRest⟩ : ∃ rest, rest = [Action.tick 3600000,
    .deliver (Sample.webhook "d_1" "ch_1" .chargeSucceeded) 20 3600000, .apply 2 20 3600000] :=
    ⟨_, rfl⟩
  have late : ((run (step .default) (before ++ rest) (Api.start 0 Sample.db)).map fun api =>
      (api.db.bookings.get? 7).map Booking.status) = some (some .expired) := by
    rw [isBefore, isRest]
    decide +kernel
  have early : ((run (step .default) (before ++ more ++ rest) (Api.start 0 Sample.db)).map fun api =>
      (api.db.bookings.get? 7).map Booking.status) = some (some .confirmed) := by
    rw [isBefore, isMore, isRest]
    decide +kernel
  obtain ⟨api, ran, expired⟩ := Option.map_eq_some_iff.mp late
  obtain ⟨api', ran', confirmed⟩ := Option.map_eq_some_iff.mp early
  have tells : ∀ a ∈ more, TellsAgain rest a := by
    intro a among
    rw [isMore] at among
    rcases List.mem_pair.mp among with rfl | rfl
    · refine ⟨Sample.webhook "d_1" "ch_1" .chargeSucceeded, 20, 3600000, ?_, rfl, rfl⟩
      rw [isRest]
      exact List.mem_cons_of_mem _ List.mem_cons_self
    · trivial
  have same := claim .default 0 Sample.db Sample.db_fresh before more rest api api' tells ran ran' 7
  rw [expired, confirmed] at same
  cases same

end Atrium
