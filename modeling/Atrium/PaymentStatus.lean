/-
# PaymentStatus -- a payment's status only moves forward

The updates of a payment write its status without looking at it, some from a row read
before the transaction.  What keeps them in order is the gate: a charge has one outcome,
each of its events is applied once, and no refund exists before the success was applied.
So a payment's status is the one its charge's applied events give (`statusFrom`), and
grows with them.
-/
import Atrium.Provider

namespace Atrium

open Atrium.Base

set_option autoImplicit false

/-- PENDING to SUCCEEDED to REFUNDED, or PENDING to FAILED. -/
inductive Advance : PaymentStatus → PaymentStatus → Prop
  | captured : Advance .pending .succeeded
  | declined : Advance .pending .failed
  | refunded : Advance .succeeded .refunded

/-- One more event moves a status once, or not at all. -/
theorem statusFrom_advances {w : Provider} {events : List PaymentEvent} {pair : Option PaymentEvent}
    (fresh : ∀ e, pair = some e → e ∉ events) (before : Coherent w events)
    (after : Coherent w (events ++ pair.toList)) (c : Option String) :
    statusFrom (events ++ pair.toList) c = statusFrom events c ∨
      Advance (statusFrom events c) (statusFrom (events ++ pair.toList) c) := by
  cases pair with
  | none =>
      rw [Option.toList_none, List.append_nil]
      exact .inl rfl
  | some pair =>
      rw [Option.toList_some] at after ⊢
      by_cases own : c = some pair.chargeId
      · subst own
        refine .inr ?_
        obtain ⟨-, was, becomes⟩ | ⟨-, was, becomes⟩ | ⟨-, was, becomes⟩ :=
          statusFrom_own (fresh pair rfl) before after
        · rw [was, becomes]
          exact .captured
        · rw [was, becomes]
          exact .declined
        · rw [was, becomes]
          exact .refunded
      · exact .inl (statusFrom_other own)

/-! ## Refund ids -/

/-- A refund id that is set is never cleared. -/
def refundIdsKept (db db' : Db) : Prop :=
  ∀ id p, db.payments.get? id = some p → ∃ p', db'.payments.get? id = some p' ∧
    (p.refundId ≠ none → p'.refundId ≠ none)

namespace refundIdsKept

theorem of_eq {db db' : Db} (same : db'.payments = db.payments) : refundIdsKept db db' :=
  fun _ p here => ⟨p, same ▸ here, id⟩

theorem trans {db t db' : Db} (first : refundIdsKept db t) (second : refundIdsKept t db') :
    refundIdsKept db db' := by
  intro id p here
  obtain ⟨q, here', kept⟩ := first id p here
  obtain ⟨r, here'', kept'⟩ := second id q here'
  exact ⟨r, here'', kept' ∘ kept⟩

theorem modify {db db' : Db} {id : Uuid} {f : Payment → Payment}
    (updated : db'.payments = db.payments.modify id f)
    (kept : ∀ p, db.payments.get? id = some p → p.refundId ≠ none → (f p).refundId ≠ none) :
    refundIdsKept db db' := by
  intro id' p here
  rw [updated]
  by_cases own : id' = id
  · subst own
    exact ⟨f p, by simp [here], kept p here⟩
  · exact ⟨p, by rwa [Table.get?_modify_ne _ _ own], fun settled => settled⟩

end refundIdsKept

@[simp] theorem adopted_refundId (chargeId : String) (now : Instant) (p : Payment) :
    (adopted chargeId now p).refundId = p.refundId := by
  unfold adopted
  split <;> rfl

@[simp] theorem mintRefundKey_refundId (key : String) (now : Instant) (p : Payment) :
    (mintRefundKey key now p).refundId = p.refundId := by
  unfold mintRefundKey
  split <;> rfl

theorem findPayment_refundIds {e : WebhookEvent} {now : Instant} {db t : Db}
    {r : Option (Uuid × Payment)} (looked : findPayment e now db = .ok (r, t)) :
    refundIdsKept db t := by
  rcases findPayment_ok looked with ⟨-, rfl, -⟩ | ⟨_, -, rfl, -⟩ | ⟨row, _, -, -, -, -, -, -, rfl⟩
  · exact .of_eq rfl
  · exact .of_eq rfl
  · refine .modify rfl fun p _ settled => ?_
    rwa [adopted_refundId]

/-- A settled refund keeps an id, where the row it was read from had the stored one. -/
theorem Consequence.refundIds {payment : Uuid × Payment} {e : WebhookEvent} {now : Instant}
    {db db' : Db} {r : Option RefundInstruction} (consequence : Consequence payment e now db r db')
    (read : e.event = .refundSucceeded → ∀ p, db.payments.get? payment.1 = some p →
      p.refundId ≠ none → payment.2.refundId ≠ none) : refundIdsKept db db' := by
  have refund : e.event = .refundSucceeded → ∀ p, db.payments.get? payment.1 = some p →
      p.refundId ≠ none → (refundedPayment payment e.refundId e.amountMinor now p).refundId ≠ none := by
    intro name p here settled
    have held := read name p here settled
    simp only [refundedPayment, markRefunded, ne_eq, Option.or_eq_none_iff, not_and]
    exact fun _ => held
  cases consequence with
  | confirmed b snapshot => exact .modify rfl fun p _ settled => settled
  | late b name =>
      refine @Atrium.refundIdsKept.modify _ _ payment.1
        (mintRefundKey (refundKey e.chargeId) now ∘ markSucceeded e.chargeId now) ?_ ?_
      · by_cases pending : b.status = .pendingPayment <;> simp [lateCharge, pending]
      · intro p _ settled
        rw [Function.comp_apply, mintRefundKey_refundId]
        exact settled
  | declined => exact .modify rfl fun p _ settled => settled
  | declinedIdle => exact .modify rfl fun p _ settled => settled
  | refunded b name => exact .modify rfl (refund name)
  | refundedTerminal b name => exact .modify rfl (refund name)
  | refundedOrphan name => exact .modify rfl (refund name)

theorem Effect.refundIds {env : Env} {t : Txn} {db db' : Db} {out : Outcome}
    (effect : Effect env t db db' out) (bound : t.pollBound db) : refundIdsKept db db' := by
  cases effect with
  | paid bookingId principal booking existing stamp _ recorded _ payment inserted found moved =>
      have kept : refundIdsKept db recorded := by
        rcases inserted with ⟨-, rfl⟩ | ⟨-, payments, inserted, rfl⟩
        · exact .of_eq rfl
        · intro id p here
          refine ⟨p, ?_, fun settled => settled⟩
          rw [Table.get?_insert? inserted, if_neg]
          · exact here
          · rintro rfl
            rw [(Table.insert?_some inserted).1] at here
            cases here
      rcases moved with ⟨-, -, -, rfl⟩ | ⟨-, rfl⟩
      · exact kept.trans (.of_eq rfl)
      · exact kept
  | bound paymentId chargeId now _ _ =>
      refine .modify rfl fun p _ settled => ?_
      rwa [adopted_refundId]
  | refundMinted bookingId choice now _ booking payment chargeId =>
      refine .modify rfl fun p _ settled => ?_
      rwa [mintRefundKey_refundId]
  | lost rowId now _ u d fields e found verdict _ _ _ _ looked =>
      exact (findPayment_refundIds looked).trans (.of_eq rfl)
  | applied rowId now _ u v d fields e payment r _ _ _ _ looked applied =>
      have here := (findPayment_found looked).1
      refine ((findPayment_refundIds looked).trans (applied.consequence.refundIds ?_)).trans (.of_eq rfl)
      intro _ p stored settled
      rw [Db.claim_payments, here] at stored
      cases stored
      exact settled
  | polledCharge payment chargeId captured now _ _ r applied =>
      refine applied.consequence.refundIds fun name => ?_
      cases captured <;> cases name
  | polledRefund payment chargeId refundId amountMinor now _ _ applied =>
      exact applied.consequence.refundIds fun _ _ _ _ => bound.2
  | explained _ paymentId f _ note =>
      refine .modify rfl fun p _ settled => ?_
      obtain ⟨reason, now, same⟩ := note p
      rw [same]
      exact settled
  | refundBound paymentId refundId now _ _ =>
      refine .modify rfl fun p _ settled => ?_
      unfold boundRefund
      rw [if_neg settled]
      exact settled
  | _ => exact .of_eq rfl

/-! ## Steps and runs -/

section Forward

variable {w : Provider} {env : Env} {a : Action} {api api' : Api}

/-- **A step** moves the status of a payment once along `Advance`, or not at all. -/
theorem step_advances (stepped : step env a api = some api') (keeps : w.Keeps a api)
    (tied : Tied w api) {id : Uuid} {p : Payment} (here : api.db.payments.get? id = some p) :
    ∃ p', api'.db.payments.get? id = some p' ∧
      (p'.status = p.status ∨ Advance p.status p'.status) ∧
      ∀ r, p.refundId = some r → p'.refundId = some r := by
  have tied' := step_tied stepped keeps tied
  obtain ⟨events, fresh⟩ := tied.gated.events stepped
  obtain ⟨p', here', kept⟩ := step_paymentsKept tied.gated.polls stepped id p here
  have tracked := tied.linked.ledgered.rows id p here
  have tracked' := tied'.linked.ledgered.rows id p' here'
  refine ⟨p', here', ?_, ?_⟩
  · -- A charge id that is new has no event yet.
    have status : p.status = statusFrom api.db.paymentEvents p'.chargeId := by
      rw [tracked.status]
      cases charge : p.chargeId with
      | some c => rw [kept.charge c charge]
      | none =>
          cases charge' : p'.chargeId with
          | none => rfl
          | some c =>
              have unnamed : ∀ name, ⟨c, name⟩ ∉ api.db.paymentEvents := by
                intro name among
                obtain ⟨id', q, there, named⟩ := tied.gated.known _ among
                obtain ⟨q', there', kept'⟩ :=
                  step_paymentsKept tied.gated.polls stepped id' q there
                have same := tied'.gated.distinct id p' id' q' c here' there' charge'
                  (kept'.charge c named)
                subst same
                cases here.symm.trans there
                rw [charge] at named
                cases named
              simp only [statusFrom, unnamed, if_false]
    have after := tied'.linked.ledgered.coherent
    rw [tracked'.status, status, events]
    rw [events] at after
    exact statusFrom_advances fresh tied.linked.ledgered.coherent after _
  · intro r settled
    obtain ⟨c, charge, own⟩ := tracked.refund r settled
    have held : p'.refundId ≠ none := by
      rcases step_db stepped with same | ⟨commit, out, commits, -, effect⟩
      · rw [same, here] at here'
        cases here'
        rw [settled]
        exact Option.some_ne_none r
      · obtain ⟨q, there, stays⟩ :=
          effect.refundIds (commits.pollBound tied.gated.polls) id p here
        cases here'.symm.trans there
        exact stays (by rw [settled]; exact Option.some_ne_none r)
    obtain ⟨r', held⟩ := Option.ne_none_iff_exists'.mp held
    obtain ⟨c', charge', own'⟩ := tracked'.refund r' held
    cases (kept.charge c charge).symm.trans charge'
    rw [held, own', own]

/-- **A run** moves it along `Advance`, and keeps its refund id. -/
theorem run_advances : ∀ {acts : List Action} {api api' : Api},
    run (step env) acts api = some api' → Along (step env) w.Keeps acts api → Tied w api →
      ∀ {id : Uuid} {p : Payment}, api.db.payments.get? id = some p →
        ∃ p', api'.db.payments.get? id = some p' ∧
          Relation.ReflTransGen Advance p.status p'.status ∧
          ∀ r, p.refundId = some r → p'.refundId = some r
  | [], api, api', ran, _, _, id, p, here => by
      cases ran
      exact ⟨p, here, .refl, fun _ settled => settled⟩
  | a :: acts, api, api', ran, along, tied, id, p, here => by
      obtain ⟨mid, stepped, rest⟩ := Option.bind_eq_some_iff.mp ran
      obtain ⟨q, there, moved, kept⟩ := step_advances stepped along.1 tied here
      obtain ⟨p', here', onward, kept'⟩ :=
        run_advances rest (along.2 mid stepped) (step_tied stepped along.1 tied) there
      have first : Relation.ReflTransGen Advance p.status q.status := by
        rcases moved with same | moved
        · rw [same]
        · exact .single moved
      exact ⟨p', here', first.trans onward, fun r settled => kept' r (kept r settled)⟩

end Forward

/-- **Payment status only moves forward**, in every run the provider keeps its word in.
In each state the refunded amount is zero before REFUNDED and at most the payment's own
after; from it, every step moves a status once or not at all, and every run onward moves
it along `Advance`; and a refund id that is set stays. -/
theorem payments_move_forward {w : Provider} {env : Env} {now : Instant} {db : Db}
    (fresh : db.Fresh) {api : Api}
    (reached : ReachableAlong (step env) w.Keeps (Api.start now db) api) :
    (∀ id p, api.db.payments.get? id = some p →
      (p.status ≠ .refunded → p.refundedMinor = 0) ∧
        (p.status = .refunded → p.refundedMinor ≤ p.amountMinor)) ∧
    (∀ a api', step env a api = some api' → w.Keeps a api →
      ∀ id p, api.db.payments.get? id = some p → ∃ p', api'.db.payments.get? id = some p' ∧
        (p'.status = p.status ∨ Advance p.status p'.status)) ∧
    ∀ acts api', run (step env) acts api = some api' → Along (step env) w.Keeps acts api →
      ∀ id p, api.db.payments.get? id = some p → ∃ p', api'.db.payments.get? id = some p' ∧
        Relation.ReflTransGen Advance p.status p'.status ∧
        ∀ r, p.refundId = some r → p'.refundId = some r := by
  have tied := tied_of_reachable fresh reached
  refine ⟨?_, ?_, ?_⟩
  · intro id p here
    have tracked := tied.linked.ledgered.rows id p here
    exact ⟨tracked.unrefunded, tracked.within⟩
  · intro a api' stepped keeps id p here
    obtain ⟨p', here', moved, -⟩ := step_advances stepped keeps tied here
    exact ⟨p', here', moved⟩
  · intro acts api' ran along id p here
    exact run_advances ran along tied here

namespace Sample

/-- A provider that names its charges and refunds after their keys and captures every charge. -/
def paygate : Provider := ⟨id, fun _ => true, id, fun _ _ same => same, fun _ _ same => same⟩

/-- A signed webhook with all its members. -/
def settlement (deliveryId : String) (e : WebhookEvent) : WebhookRequest :=
  ⟨true, some (.obj ([("charge_id", .str e.chargeId), ("event", .str e.event.label)] ++
    (e.reference.map fun reference => ("reference", .str reference)).toList ++
    (e.refundId.map fun refundId => ("refund_id", .str refundId)).toList ++
    (e.amountMinor.map fun amount => ("amount_minor", .num amount)).toList)), deliveryId⟩

end Sample

/-- A charge whose success is delivered twice, the booking cancelled, and its refund settled
by a poll whose answer names no refund. -/
def refundedTwiceTold : List Action :=
  let charge := chargeKey (Uuid.text 7)
  let captured : WebhookEvent := ⟨charge, .chargeSucceeded, some (Uuid.text 7), none, none⟩
  Sample.holding 0 Sample.hold 7 0 ++
    [.payBegin 1 (Uuid.path 7) Sample.customer, .payRead 1, .payCommit 1 8 0, .sendCharge 1,
      .deliver (Sample.settlement "d_1" captured) 9 0, .apply 2 9 0, .answerCharge 1 charge,
      .bindCharge 1 0, .cancel 3 (Uuid.path 7) "changed plans" Sample.customer 0,
      .settleCancellation 3 8 0, .sendRefund 3, .deliver (Sample.settlement "d_2" captured) 10 0,
      .answerRefund 3 (.ok (refundKey charge)), .recordRefund 3 "" 0, .tick 60000,
      .selectRefund 4 8, .pollRefund 4 none 6000 60000, .apply 2 10 60000]

theorem payments_move_forward_refunded : ∃ api,
    run (step .default) refundedTwiceTold (Api.start 0 Sample.db) = some api ∧
      (api.db.payments.get? 8).map (fun p => (p.status, p.refundedMinor, p.refundId)) =
        some (.refunded, 6000, some (refundKey (chargeKey (Uuid.text 7)))) ∧
      ∀ acts api', run (step .default) acts api = some api' →
        Along (step .default) Sample.paygate.Keeps acts api →
          (api'.db.payments.get? 8).map Payment.status = some .refunded := by
  have ran : ((run (step .default) refundedTwiceTold (Api.start 0 Sample.db)).map fun api =>
      (api.db.payments.get? 8).map fun p => (p.status, p.refundedMinor, p.refundId)) =
        some (some (.refunded, 6000, some (refundKey (chargeKey (Uuid.text 7))))) := by
    decide +kernel
  have along : Along (step .default) Sample.paygate.Keeps refundedTwiceTold (Api.start 0 Sample.db) := by
    decide +kernel
  obtain ⟨api, ran, seen⟩ := Option.map_eq_some_iff.mp ran
  obtain ⟨-, -, onward⟩ := payments_move_forward Sample.db_fresh ⟨refundedTwiceTold, ran, along⟩
  refine ⟨api, ran, seen, fun acts api' ran' along' => ?_⟩
  obtain ⟨p, here, same⟩ := Option.map_eq_some_iff.mp seen
  obtain ⟨p', here', moved, -⟩ := onward acts api' ran' along' 8 p here
  simp only [Prod.mk.injEq] at same
  rw [here', Option.map_some]
  rw [same.1] at moved
  -- Nothing comes after REFUNDED.
  rcases Relation.ReflTransGen.cases_head moved with stays | ⟨_, next, -⟩
  · rw [← stays]
  · cases next

end Atrium
