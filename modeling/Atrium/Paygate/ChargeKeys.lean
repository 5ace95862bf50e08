/-
# Paygate.ChargeKeys -- one charge a key, and each charge from a request

Every step of the server leaves a charge its key, its reference and its amount, and a
key the charge it resolves to.  A charge is written for a request in flight, whose key
resolved to nothing; so keys and charges stay in bijection.
-/
import Atrium.Paygate.Routes

namespace Atrium.Paygate

open Atrium.Base

set_option autoImplicit false

/-- What a slot resolves to. -/
def resourceOf (db : PostgresLedger) (slot : Scope × String) : Option String :=
  (db.idempotency.get? slot).map (·.resourceId)

/-- What no step changes of a charge. -/
def ChargeRow.terms (row : ChargeRow) : String × String × Minor :=
  (row.idempotencyKey, row.reference, row.amountMinor)

inductive ChargeEffect (requests : Table Nat Request) (db db' : PostgresLedger) : Prop
  | kept (charges : ∀ id, (db'.charges.get? id).map ChargeRow.terms =
        (db.charges.get? id).map ChargeRow.terms)
      (slots : ∀ key, resourceOf db' (.charge, key) = resourceOf db (.charge, key))
  | opened (rid : Nat) (request : Request) (key : String) (body : ChargeBody)
      (correlationId : Option String) (id : String) (row : ChargeRow)
      (here : requests.get? rid = some request) (post : request.post = .charge key body correlationId)
      (unclaimed : resourceOf db (.charge, key) = none)
      (inserted : db.charges.insert? id row = some db'.charges)
      (terms : row.terms = (key, body.reference, body.amountMinor))
      (slots : ∀ key', resourceOf db' (.charge, key') =
        if key' = key then some id else resourceOf db (.charge, key'))

theorem ChargeEffect.refl (requests : Table Nat Request) (db : PostgresLedger) :
    ChargeEffect requests db db := .kept (fun _ => rfl) fun _ => rfl

theorem resourceOf_modify (db : PostgresLedger) (slot slot' : Scope × String)
    {f : IdempotencyRow → IdempotencyRow} (kept : ∀ r, (f r).resourceId = r.resourceId) :
    ((db.idempotency.modify slot f).get? slot').map (·.resourceId) = resourceOf db slot' :=
  Table.map_get?_modify kept slot'

theorem openPost_charges {cfg : PaygateConfig} {fresh : String} {now : Instant} {s : Server}
    {rid : Nat} {request : Request} (here : s.requests.get? rid = some request) :
    ChargeEffect s.requests s.db (openPost cfg fresh now s.db request.post).2 := by
  cases post : request.post with
  | charge key body correlationId =>
      simp only [openPost]
      cases ran : s.db.openCharge fresh (chargeInput cfg key body correlationId) now with
      | error e => exact .refl ..
      | ok r =>
          obtain ⟨result, after⟩ := r
          cases PostgresLedger.openCharge_opened ran with
          | mismatch record taken => exact .refl ..
          | replayed record row taken owner =>
              refine .kept (fun _ => rfl) fun key' => ?_
              exact resourceOf_modify s.db _ _ fun _ => rfl
          | created currency charges idempotency claimed inserted =>
              refine .opened rid request key body correlationId fresh _ here post ?_ inserted rfl ?_
              · rw [resourceOf, show s.db.idempotency.get? (.charge, key) = none from
                  (Table.insert?_some claimed).1]
                rfl
              · intro key'
                have stored : idempotency.get? (.charge, key') = if (Scope.charge, key') = (.charge, key) then
                    some (PostgresLedger.chargeClaim fresh (chargeInput cfg key body correlationId) now)
                  else s.db.idempotency.get? (.charge, key') := Table.get?_insert? claimed _
                show (idempotency.get? (.charge, key')).map _ = _
                rw [stored]
                by_cases own : key' = key
                · subst own
                  rw [if_pos rfl, if_pos rfl]
                  rfl
                · rw [if_neg own, if_neg fun same => own (Prod.mk.inj same).2]
                  rfl
  | refund key body correlationId =>
      simp only [openPost]
      cases ran : s.db.openRefund fresh (refundInput cfg key body correlationId) now with
      | error e => exact .refl ..
      | ok r =>
          obtain ⟨result, after⟩ := r
          have other : ∀ {idempotency : Table (Scope × String) IdempotencyRow} {row : IdempotencyRow}
              (key' : String), s.db.idempotency.insert? (.refund, key) row = some idempotency →
              (idempotency.get? (.charge, key')).map (·.resourceId) =
                resourceOf s.db (.charge, key') := by
            intro idempotency row key' claimed
            rw [Table.get?_insert? claimed, if_neg (by simp)]
            rfl
          cases PostgresLedger.openRefund_opened ran with
          | mismatch record taken => exact .refl ..
          | replayed record row taken owner =>
              refine .kept (fun _ => rfl) fun key' => ?_
              exact resourceOf_modify s.db _ _ fun _ => rfl
          | refused _ idempotency claimed why => exact .kept (fun _ => rfl) fun key' => other key' claimed
          | created charge refunds idempotency claimed found room inserted =>
              refine .kept (fun id => ?_) fun key' => other key' claimed
              exact Table.map_get?_modify (f := fun row : ChargeRow => { row with refundedMinor :=
                row.refundedMinor + (refundInput cfg key body correlationId).amountMinor })
                (g := ChargeRow.terms) (fun _ => rfl) id

theorem materialise_charges (cfg : PaygateConfig) (now : Instant) (requests : Table Nat Request)
    (db : PostgresLedger) (opened : Opened) :
    ChargeEffect requests db (materialise cfg now db opened).2 := by
  cases opened with
  | charge charge =>
      simp only [materialise, PostgresLedger.materialiseCharge]
      cases found : db.charges.get? charge.id with
      | none => exact .refl ..
      | some row =>
          by_cases done : row.materialised = true
          · simp only [done, if_true]
            exact .refl ..
          · simp only [done, Bool.false_eq_true, if_false]
            refine .kept (fun id => ?_) fun _ => rfl
            exact Table.map_get?_modify (f := fun row : ChargeRow => { row with
              materialised := true, status := decidedStatus cfg charge
              occurredAt := some (now - charge.plan.clockSkewSeconds * 1000) })
              (g := ChargeRow.terms) (fun _ => rfl) id
  | refund refund =>
      simp only [materialise, PostgresLedger.materialiseRefund]
      cases found : db.refunds.get? refund.id with
      | none => exact .refl ..
      | some row =>
          by_cases done : row.materialised = true
          · simp only [done, if_true]
            exact .refl ..
          · simp only [done, Bool.false_eq_true, if_false]
            exact .kept (fun _ => rfl) fun _ => rfl

/-- **What a step does to the charges.** -/
theorem serve_charges {cfg : PaygateConfig} {e : Event} {s t : Server}
    (stepped : serve cfg e s = some t) : ChargeEffect s.requests s.db t.db := by
  cases e with
  | post rid post =>
      obtain ⟨requests, -, rfl⟩ := Option.map_eq_some_iff.mp stepped
      exact .refl ..
  | openLedger rid fresh now =>
      simp only [serve] at stepped
      split at stepped
      · rename_i post here
        split at stepped
        · cases stepped
          rw [next_db]
          exact openPost_charges here
        · cases stepped
      · cases stepped
  | recover rid =>
      simp only [serve] at stepped
      split at stepped
      · rename_i key body correlationId charge here
        cases stepped
        rw [next_db]
        refine .kept (fun id => ?_) fun key' => ?_
        · exact Table.map_get?_modify (f := fun row : ChargeRow => { row with
            correlationId := row.correlationId <|> correlationId }) (g := ChargeRow.terms)
            (fun _ => rfl) id
        · exact resourceOf_modify s.db _ _ fun _ => rfl
      · cases stepped
  | materialise rid now =>
      simp only [serve] at stepped
      split at stepped
      · cases stepped
        rw [next_db]
        exact materialise_charges ..
      · cases stepped
  | dispatch rid =>
      simp only [serve] at stepped
      split at stepped
      · cases stepped
        rw [next_db]
        exact .refl ..
      · cases stepped
  | answer rid =>
      simp only [serve] at stepped
      split at stepped
      · cases stepped
        rw [next_db]
        exact .refl ..
      · cases stepped
  | crash =>
      cases stepped
      exact .refl ..

theorem next_post {s : Server} {rid : Nat} {phase : Option Phase} {rid' : Nat} {request : Request}
    (here : (s.next rid phase).requests.get? rid' = some request) :
    ∃ before, s.requests.get? rid' = some before ∧ before.post = request.post := by
  rw [next_get?] at here
  split_ifs at here with own
  · obtain ⟨before, found, moved⟩ := Option.bind_eq_some_iff.mp here
    obtain ⟨phase', -, rfl⟩ := Option.map_eq_some_iff.mp moved
    exact ⟨before, own ▸ found, rfl⟩
  · exact ⟨request, here, rfl⟩

/-- A request in flight was posted. -/
theorem serve_posts {cfg : PaygateConfig} {e : Event} {s t : Server}
    (stepped : serve cfg e s = some t) {rid : Nat} {request : Request}
    (here : t.requests.get? rid = some request) :
    (∃ before, s.requests.get? rid = some before ∧ before.post = request.post) ∨
      e = .post rid request.post := by
  cases e with
  | post rid' post =>
      obtain ⟨requests, inserted, rfl⟩ := Option.map_eq_some_iff.mp stepped
      have here' : requests.get? rid = some request := here
      rw [Table.get?_insert? inserted] at here'
      split_ifs at here' with own
      · cases here'
        exact .inr (by rw [own])
      · exact .inl ⟨request, here', rfl⟩
  | crash =>
      cases stepped
      cases here
  | openLedger rid' fresh now =>
      simp only [serve] at stepped
      split at stepped
      · split at stepped
        · cases stepped
          have before := next_post here
          exact .inl before
        · cases stepped
      · cases stepped
  | recover rid' | materialise rid' now | dispatch rid' | answer rid' =>
      simp only [serve] at stepped
      split at stepped
      · cases stepped
        have before := next_post here
        exact .inl before
      · cases stepped

/-! ## Keys and charges -/

/-- Each key of a charge resolves to the charge that has it. -/
structure Keyed (db : PostgresLedger) : Prop where
  charge : ∀ id row, db.charges.get? id = some row →
    resourceOf db (.charge, row.idempotencyKey) = some id
  slot : ∀ key id, resourceOf db (.charge, key) = some id →
    ∃ row, db.charges.get? id = some row ∧ row.idempotencyKey = key

theorem Keyed.empty : Keyed .empty := by
  constructor
  · intro id row here
    cases here
  · intro key id here
    cases here

theorem ChargeEffect.keyed {requests : Table Nat Request} {db db' : PostgresLedger}
    (effect : ChargeEffect requests db db') (keyed : Keyed db) : Keyed db' := by
  cases effect with
  | kept charges slots =>
      constructor
      · intro id row here
        have same := charges id
        rw [here] at same
        obtain ⟨row', here', terms⟩ := Option.map_eq_some_iff.mp same.symm
        rw [slots, ← (Prod.mk.inj terms).1]
        exact keyed.charge id row' here'
      · intro key id resolves
        rw [slots] at resolves
        obtain ⟨row, here, own⟩ := keyed.slot key id resolves
        have same := charges id
        rw [here] at same
        obtain ⟨row', here', terms⟩ := Option.map_eq_some_iff.mp same
        exact ⟨row', here', (Prod.mk.inj terms).1.trans own⟩
  | opened rid request key body correlationId id row here post unclaimed inserted terms slots =>
      obtain ⟨own, -⟩ := Prod.mk.inj terms
      constructor
      · intro id' row' here'
        rw [Table.get?_insert? inserted] at here'
        rw [slots]
        split_ifs at here' with fresh
        · cases here'
          rw [if_pos own, fresh]
        · have resolves := keyed.charge id' row' here'
          rw [if_neg fun same => ?_]
          · exact resolves
          · rw [same, unclaimed] at resolves
            cases resolves
      · intro key' id' resolves
        rw [slots] at resolves
        split_ifs at resolves with same
        · cases resolves
          refine ⟨row, ?_, own.trans same.symm⟩
          rw [Table.get?_insert? inserted, if_pos rfl]
        · obtain ⟨row', here', own'⟩ := keyed.slot key' id' resolves
          refine ⟨row', ?_, own'⟩
          rw [Table.get?_insert? inserted, if_neg fun fresh => ?_]
          · exact here'
          · rw [fresh, (Table.insert?_some inserted).1] at here'
            cases here'

end Atrium.Paygate
