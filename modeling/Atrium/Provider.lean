/-
# Provider -- a provider that keeps its word

What the runs below assume of the provider.  `Provider` is what it decides, fixed in
advance: the charge it opens under a key, whether that charge is captured, the refund it
opens under a key.  `honest` says that every answer and every signed delivery of a step
is one it gives: of a charge it was asked for, with that charge's one outcome, or of a
refund it was asked for, within the amount of its charge.  Deliveries come in any order
and any number of times, or never.

`Linked` is what then ties the payments, the requests in flight and the provider
together in every state.
-/
import Atrium.SelfEdges
import Atrium.Forgery

namespace Atrium

open Atrium.Base

set_option autoImplicit false

/-! ## The provider -/

/-- What the provider decides. -/
structure Provider where
  /-- The charge it opens under an idempotency key. -/
  chargeId : String → String
  captured : String → Bool
  /-- The refund it opens under an idempotency key. -/
  refundId : String → String
  chargeId_injective : Function.Injective chargeId
  refundId_injective : Function.Injective refundId

namespace Provider

/-- The refund it opened for an instruction, within the amount of its charge.  Its id may be
left out: `getRefund` reads one that the provider's view of a refund does not have. -/
def Refunds (w : Provider) (api : Api) (i : RefundInstruction) (refundId : Option String)
    (amount : Option Int) : Prop :=
  (∀ r ∈ refundId, r = w.refundId i.idempotencyKey) ∧
    ∃ r ∈ api.chargeRequests, i.chargeId = w.chargeId r.idempotencyKey ∧
      ∀ a ∈ amount, a ≤ r.amountMinor

/-- An event of a charge it was asked for. -/
def Emits (w : Provider) (api : Api) (e : WebhookEvent) : Prop :=
  (∃ r ∈ api.chargeRequests, e.chargeId = w.chargeId r.idempotencyKey ∧
    ∀ reference ∈ e.reference, reference = r.reference) ∧
  (e.event = .chargeSucceeded → w.captured e.chargeId = true) ∧
  (e.event = .chargeFailed → w.captured e.chargeId = false) ∧
  (e.event = .refundSucceeded → ∃ i ∈ api.refundRequests, i.chargeId = e.chargeId ∧
    w.Refunds api i e.refundId e.amountMinor)

instance (w : Provider) (api : Api) (i : RefundInstruction) (refundId : Option String)
    (amount : Option Int) : Decidable (w.Refunds api i refundId amount) :=
  inferInstanceAs (Decidable (_ ∧ ∃ r ∈ _, _ ∧ _))

instance (w : Provider) (api : Api) (e : WebhookEvent) : Decidable (w.Emits api e) :=
  inferInstanceAs (Decidable ((∃ r ∈ _, _) ∧ _ ∧ _ ∧ (_ → ∃ i ∈ _, _)))

/-- What comes from the provider in this step is what it says. -/
def honest (w : Provider) (a : Action) (api : Api) : Bool :=
  match a with
  | .answerCharge pid chargeId =>
      match api.procs.get? pid with
      | some (.charged request _) => decide (chargeId = w.chargeId request.idempotencyKey)
      | _ => true
  | .answerRefund pid (.ok refundId) =>
      match api.procs.get? pid with
      | some (.refundSent i) => decide (refundId = w.refundId i.idempotencyKey)
      | _ => true
  | .deliver request .. =>
      ((signedFields request).bind WebhookFields.supported).all fun e => decide (w.Emits api e)
  | .pollCharge pid .captured _ =>
      match api.procs.get? pid with
      | some (.polling _ chargeId) => w.captured chargeId
      | _ => true
  | .pollCharge pid .declined _ =>
      match api.procs.get? pid with
      | some (.polling _ chargeId) => !w.captured chargeId
      | _ => true
  | .pollRefund pid found amountMinor _ =>
      match api.procs.get? pid with
      | some (.pollingRefund _ _ refundId) => api.refundRequests.any fun i =>
          decide (w.refundId i.idempotencyKey = refundId ∧ w.Refunds api i found (some amountMinor))
      | _ => true
  | _ => true

/-- The step keeps the provider's word. -/
def Keeps (w : Provider) (a : Action) (api : Api) : Prop := w.honest a api = true

instance (w : Provider) (a : Action) (api : Api) : Decidable (w.Keeps a api) :=
  inferInstanceAs (Decidable (_ = true))

theorem Refunds.grow {w : Provider} {api api' : Api} {i : RefundInstruction}
    {refundId : Option String} {amount : Option Int} (refunds : w.Refunds api i refundId amount)
    (charges : api.chargeRequests ⊆ api'.chargeRequests) : w.Refunds api' i refundId amount := by
  obtain ⟨same, r, sent, own, within⟩ := refunds
  exact ⟨same, r, charges sent, own, within⟩

theorem Emits.grow {w : Provider} {api api' : Api} {e : WebhookEvent} (emits : w.Emits api e)
    (charges : api.chargeRequests ⊆ api'.chargeRequests)
    (refunds : api.refundRequests ⊆ api'.refundRequests) : w.Emits api' e := by
  obtain ⟨⟨r, sent, own⟩, captured, declined, refunded⟩ := emits
  refine ⟨⟨r, charges sent, own⟩, captured, declined, fun name => ?_⟩
  obtain ⟨i, asked, same, opened⟩ := refunded name
  exact ⟨i, refunds asked, same, opened.grow charges⟩

end Provider

/-! ## A payment and the events of its charge -/

/-- The status the applied events of a charge leave its payment in. -/
def statusFrom (events : List PaymentEvent) : Option String → PaymentStatus
  | none => .pending
  | some c =>
      if ⟨c, .refundSucceeded⟩ ∈ events then .refunded
      else if ⟨c, .chargeSucceeded⟩ ∈ events then .succeeded
      else if ⟨c, .chargeFailed⟩ ∈ events then .failed
      else .pending

/-- What a payment's columns say, given the events that were applied. -/
structure Payment.Tracked (w : Provider) (events : List PaymentEvent) (p : Payment) : Prop where
  charge : ∀ c, p.chargeId = some c → c = w.chargeId p.idempotencyKey
  status : p.status = statusFrom events p.chargeId
  refund : ∀ r, p.refundId = some r → ∃ c, p.chargeId = some c ∧ r = w.refundId (refundKey c)
  unrefunded : p.status ≠ .refunded → p.refundedMinor = 0
  within : p.status = .refunded → p.refundedMinor ≤ p.amountMinor

/-- The events of a charge are those of its one outcome. -/
structure Coherent (w : Provider) (events : List PaymentEvent) : Prop where
  captured : ∀ c, ⟨c, .chargeSucceeded⟩ ∈ events → w.captured c = true
  declined : ∀ c, ⟨c, .chargeFailed⟩ ∈ events → w.captured c = false
  refunded : ∀ c, ⟨c, .refundSucceeded⟩ ∈ events → ⟨c, .chargeSucceeded⟩ ∈ events

theorem statusFrom_other {events : List PaymentEvent} {pair : PaymentEvent} {c : Option String}
    (other : c ≠ some pair.chargeId) : statusFrom (events ++ [pair]) c = statusFrom events c := by
  cases c with
  | none => rfl
  | some c =>
      have differ : ∀ name, (⟨c, name⟩ : PaymentEvent) ∈ events ++ [pair] ↔ ⟨c, name⟩ ∈ events := by
        intro name
        rw [List.mem_append, List.mem_singleton]
        refine or_iff_left fun same => other ?_
        rw [← same]
      simp only [statusFrom, differ]

/-- The next event of a charge. -/
theorem statusFrom_own {w : Provider} {events : List PaymentEvent} {pair : PaymentEvent}
    (fresh : pair ∉ events) (before : Coherent w events) (after : Coherent w (events ++ [pair])) :
    (pair.event = .chargeSucceeded ∧ statusFrom events (some pair.chargeId) = .pending ∧
        statusFrom (events ++ [pair]) (some pair.chargeId) = .succeeded) ∨
      (pair.event = .chargeFailed ∧ statusFrom events (some pair.chargeId) = .pending ∧
        statusFrom (events ++ [pair]) (some pair.chargeId) = .failed) ∨
      (pair.event = .refundSucceeded ∧ statusFrom events (some pair.chargeId) = .succeeded ∧
        statusFrom (events ++ [pair]) (some pair.chargeId) = .refunded) := by
  obtain ⟨c, name⟩ := pair
  have now : (⟨c, name⟩ : PaymentEvent) ∈ events ++ [⟨c, name⟩] := by simp
  have grown : ∀ name', (⟨c, name'⟩ : PaymentEvent) ∈ events →
      (⟨c, name'⟩ : PaymentEvent) ∈ events ++ [⟨c, name⟩] := fun _ among =>
    List.mem_append_left _ among
  -- A charge has one outcome.
  have one : ⟨c, .chargeSucceeded⟩ ∈ events ++ [⟨c, name⟩] →
      ⟨c, .chargeFailed⟩ ∈ events ++ [⟨c, name⟩] → False := by
    intro succeeded failed
    have captured := after.captured c succeeded
    rw [after.declined c failed] at captured
    cases captured
  simp only [statusFrom, List.mem_append, List.mem_singleton, PaymentEvent.mk.injEq, true_and]
  cases name with
  | chargeSucceeded =>
      have unfailed : ⟨c, .chargeFailed⟩ ∉ events := fun among => one now (grown _ among)
      have unrefunded : ⟨c, .refundSucceeded⟩ ∉ events := fun among => fresh (before.refunded c among)
      simp [fresh, unfailed, unrefunded]
  | chargeFailed =>
      have uncaptured : ⟨c, .chargeSucceeded⟩ ∉ events := fun among => one (grown _ among) now
      have unrefunded : ⟨c, .refundSucceeded⟩ ∉ events := fun among =>
        uncaptured (before.refunded c among)
      simp [fresh, uncaptured, unrefunded]
  | refundSucceeded =>
      have captured : ⟨c, .chargeSucceeded⟩ ∈ events := by
        have among := after.refunded c now
        simpa using among
      simp [fresh, captured]

/-- The claim of an event of this charge, where it is the first of its kind. -/
theorem Coherent.claim {w : Provider} {events : List PaymentEvent} {pair : PaymentEvent}
    (coherent : Coherent w events)
    (captured : pair.event = .chargeSucceeded → w.captured pair.chargeId = true)
    (declined : pair.event = .chargeFailed → w.captured pair.chargeId = false)
    (refunded : pair.event = .refundSucceeded → ⟨pair.chargeId, .chargeSucceeded⟩ ∈ events) :
    Coherent w (events ++ [pair]) := by
  constructor
  · intro c among
    rw [List.mem_append, List.mem_singleton] at among
    rcases among with old | rfl
    · exact coherent.captured c old
    · exact captured rfl
  · intro c among
    rw [List.mem_append, List.mem_singleton] at among
    rcases among with old | rfl
    · exact coherent.declined c old
    · exact declined rfl
  · intro c among
    rw [List.mem_append, List.mem_singleton] at among
    rw [List.mem_append]
    rcases among with old | rfl
    · exact .inl (coherent.refunded c old)
    · exact .inl (refunded rfl)

/-! ## One payment, updated -/

namespace Payment.Tracked

variable {w : Provider} {events : List PaymentEvent} {p : Payment}

/-- Other charges' events leave it as it is. -/
theorem claim_other (tracked : p.Tracked w events) {pair : PaymentEvent}
    (other : p.chargeId ≠ some pair.chargeId) : p.Tracked w (events ++ [pair]) :=
  { tracked with status := by rw [statusFrom_other other]; exact tracked.status }

theorem opened (w : Provider) (events : List PaymentEvent) (bookingId : Uuid) (key : String)
    (amountMinor : Minor) (createdAt : Instant) :
    (newPayment bookingId key amountMinor createdAt).Tracked w events where
  charge := nofun
  status := rfl
  refund := nofun
  unrefunded _ := rfl
  within := nofun

/-- A charge id is set: the one of its key, which no event had named. -/
theorem adopted (tracked : p.Tracked w events) {c : String} (now : Instant)
    (own : c = w.chargeId p.idempotencyKey)
    (unnamed : p.chargeId = none → ∀ name, ⟨c, name⟩ ∉ events) :
    (Atrium.adopted c now p).Tracked w events := by
  unfold Atrium.adopted
  by_cases unbound : p.chargeId = none
  · rw [if_pos unbound]
    have status := tracked.status
    rw [unbound] at status
    refine { tracked with charge := ?_, status := ?_, refund := ?_ }
    · rintro c' ⟨⟩
      exact own
    · simp only [status, statusFrom, unnamed unbound, if_false]
    · intro r here
      obtain ⟨c', bound, -⟩ := tracked.refund r here
      rw [unbound] at bound
      cases bound
  · rw [if_neg unbound]
    exact tracked

theorem mintRefundKey (tracked : p.Tracked w events) (key : String) (now : Instant) :
    (Atrium.mintRefundKey key now p).Tracked w events := by
  unfold Atrium.mintRefundKey
  split
  · exact { tracked with }
  · exact tracked

theorem noted {q : Payment} (same : Atrium.noted p q) (tracked : p.Tracked w events) :
    q.Tracked w events := by
  obtain ⟨reason, now, rfl⟩ := same
  exact { tracked with }

theorem boundRefund (tracked : p.Tracked w events) {c r : String} (now : Instant)
    (bound : p.chargeId = some c) (own : r = w.refundId (refundKey c)) :
    (Atrium.boundRefund r now p).Tracked w events := by
  unfold Atrium.boundRefund
  split
  · refine { tracked with refund := ?_ }
    rintro r' ⟨⟩
    exact ⟨c, bound, own⟩
  · exact tracked

end Payment.Tracked

/-! ## The tables -/

/-- `payments_idempotency_key_uq` -/
def KeysDistinct (db : Db) : Prop := db.payments.UniqueOn fun p => some p.idempotencyKey

/-- The payments and events of a database, as the provider's word has it. -/
structure Ledgered (w : Provider) (db : Db) : Prop where
  keys : KeysDistinct db
  coherent : Coherent w db.paymentEvents
  rows : ∀ id p, db.payments.get? id = some p → p.Tracked w db.paymentEvents

/-- What the provider says, in an event, of a charge of this amount. -/
structure Told (w : Provider) (events : List PaymentEvent) (amountMinor : Minor)
    (e : WebhookEvent) : Prop where
  captured : e.event = .chargeSucceeded → w.captured e.chargeId = true
  declined : e.event = .chargeFailed → w.captured e.chargeId = false
  refunded : e.event = .refundSucceeded → ⟨e.chargeId, .chargeSucceeded⟩ ∈ events ∧
    (∀ r ∈ e.refundId, r = w.refundId (refundKey e.chargeId)) ∧ ∀ a ∈ e.amountMinor, a ≤ amountMinor

namespace Ledgered

variable {w : Provider} {db db' : Db}

theorem of_eq (ledgered : Ledgered w db) (payments : db'.payments = db.payments)
    (events : db'.paymentEvents = db.paymentEvents) : Ledgered w db' where
  keys := by
    unfold KeysDistinct
    rw [payments]
    exact ledgered.keys
  coherent := events ▸ ledgered.coherent
  rows := by
    rw [payments, events]
    exact ledgered.rows

theorem insert (ledgered : Ledgered w db) {id : Uuid} {p : Payment}
    (inserted : db.payments.insert? id p = some db'.payments)
    (events : db'.paymentEvents = db.paymentEvents)
    (unused : paymentByKey db p.idempotencyKey = none)
    (tracked : p.Tracked w db.paymentEvents) : Ledgered w db' where
  keys := by
    refine Table.UniqueOn.insert ledgered.keys inserted ?_
    rw [Option.all_some, Table.free_iff]
    intro id' q here same
    exact absurd (Option.some.inj same) (paymentByKey_none unused here)
  coherent := events ▸ ledgered.coherent
  rows := by
    intro id' q here
    rw [events]
    rw [Table.get?_insert? inserted] at here
    by_cases own : id' = id
    · rw [if_pos own] at here
      cases here
      exact tracked
    · rw [if_neg own] at here
      exact ledgered.rows id' q here

/-- One payment updated, its key kept. -/
theorem modify (ledgered : Ledgered w db) {id : Uuid} {f : Payment → Payment}
    (payments : db'.payments = db.payments.modify id f)
    (events : db'.paymentEvents = db.paymentEvents)
    (key : ∀ p, (f p).idempotencyKey = p.idempotencyKey)
    (row : ∀ p, db.payments.get? id = some p → p.Tracked w db.paymentEvents →
      (f p).Tracked w db.paymentEvents) : Ledgered w db' where
  keys := by
    unfold KeysDistinct
    rw [payments]
    exact Table.UniqueOn.modify ledgered.keys fun p _ => .inl (congrArg some (key p))
  coherent := events ▸ ledgered.coherent
  rows := by
    intro id' q here
    rw [events]
    rw [payments] at here
    obtain ⟨p, stored, same⟩ := Table.get?_modify_some.mp here
    by_cases own : id' = id
    · rw [if_pos own] at same
      subst own
      exact same ▸ row p stored (ledgered.rows id' p stored)
    · rw [if_neg own] at same
      exact same ▸ ledgered.rows id' p stored

/-- One event claimed, and the payment of its charge updated. -/
theorem apply (ledgered : Ledgered w db) (distinct : ChargesDistinct db) {id : Uuid} {p : Payment}
    {pair : PaymentEvent} {f : Payment → Payment} (here : db.payments.get? id = some p)
    (bound : p.chargeId = some pair.chargeId)
    (payments : db'.payments = db.payments.modify id f)
    (events : db'.paymentEvents = db.paymentEvents ++ [pair])
    (key : ∀ p, (f p).idempotencyKey = p.idempotencyKey)
    (coherent : Coherent w (db.paymentEvents ++ [pair]))
    (row : (f p).Tracked w (db.paymentEvents ++ [pair])) : Ledgered w db' where
  keys := by
    unfold KeysDistinct
    rw [payments]
    exact Table.UniqueOn.modify ledgered.keys fun p _ => .inl (congrArg some (key p))
  coherent := events ▸ coherent
  rows := by
    intro id' q there
    rw [events]
    rw [payments] at there
    obtain ⟨p', stored, same⟩ := Table.get?_modify_some.mp there
    by_cases own : id' = id
    · rw [if_pos own] at same
      subst own
      rw [here] at stored
      cases stored
      exact same ▸ row
    · rw [if_neg own] at same
      rw [← same]
      refine (ledgered.rows id' p' stored).claim_other fun shared => ?_
      exact own (distinct id' p' id p _ stored here shared bound)

end Ledgered

@[simp] theorem mintRefundKey_idempotencyKey (key : String) (now : Instant) (p : Payment) :
    (mintRefundKey key now p).idempotencyKey = p.idempotencyKey :=
  (Payment.Keeps.mintRefundKey key now p).key

/-! ## One event, applied -/

namespace Payment.Tracked

variable {w : Provider} {events : List PaymentEvent} {p : Payment}

theorem markSucceeded (tracked : p.Tracked w events) {c : String} (now : Instant)
    (bound : p.chargeId = some c) (fresh : ⟨c, .chargeSucceeded⟩ ∉ events)
    (before : Coherent w events) (after : Coherent w (events ++ [⟨c, .chargeSucceeded⟩])) :
    (Atrium.markSucceeded c now p).Tracked w (events ++ [⟨c, .chargeSucceeded⟩]) := by
  obtain ⟨-, was, becomes⟩ | ⟨other, -⟩ | ⟨other, -⟩ := statusFrom_own fresh before after
  · have pending : p.status = .pending := by rw [tracked.status, bound, was]
    have unpaid : p.refundedMinor = 0 := tracked.unrefunded (by rw [pending]; decide)
    refine { charge := ?_, status := becomes.symm, refund := ?_, unrefunded := fun _ => unpaid, within := nofun }
    · rintro c' ⟨⟩
      exact tracked.charge c bound
    · intro r here
      obtain ⟨c', own, same⟩ := tracked.refund r here
      cases bound.symm.trans own
      exact ⟨c, rfl, same⟩
  · cases other
  · cases other

theorem markFailed (tracked : p.Tracked w events) {c : String} (now : Instant)
    (bound : p.chargeId = some c) (fresh : ⟨c, .chargeFailed⟩ ∉ events)
    (before : Coherent w events) (after : Coherent w (events ++ [⟨c, .chargeFailed⟩])) :
    (Atrium.markFailed now p).Tracked w (events ++ [⟨c, .chargeFailed⟩]) := by
  obtain ⟨other, -⟩ | ⟨-, was, becomes⟩ | ⟨other, -⟩ := statusFrom_own fresh before after
  · cases other
  · have pending : p.status = .pending := by rw [tracked.status, bound, was]
    have unpaid : p.refundedMinor = 0 := tracked.unrefunded (by rw [pending]; decide)
    exact
      { charge := tracked.charge
        status := by rw [show (Atrium.markFailed now p).chargeId = some c from bound]; exact becomes.symm
        refund := tracked.refund
        unrefunded := fun _ => unpaid
        within := nofun }
  · cases other

theorem markRefunded (tracked : p.Tracked w events) {c : String} {refundId : Option String}
    {amount : Minor} (now : Instant)
    (bound : p.chargeId = some c) (fresh : ⟨c, .refundSucceeded⟩ ∉ events)
    (before : Coherent w events) (after : Coherent w (events ++ [⟨c, .refundSucceeded⟩]))
    (own : ∀ r, refundId = some r → r = w.refundId (refundKey c)) (within : amount ≤ p.amountMinor) :
    (Atrium.markRefunded refundId amount now p).Tracked w (events ++ [⟨c, .refundSucceeded⟩]) := by
  obtain ⟨other, -⟩ | ⟨other, -⟩ | ⟨-, -, becomes⟩ := statusFrom_own fresh before after
  · cases other
  · cases other
  · refine
      { charge := tracked.charge
        status := ?_
        refund := ?_
        unrefunded := fun other => absurd rfl other
        within := fun _ => within }
    · rw [show (Atrium.markRefunded refundId amount now p).chargeId = some c from bound]
      exact becomes.symm
    · intro r settled
      exact ⟨c, bound, own r settled⟩

end Payment.Tracked

/-- **What an applied event leaves** is again as the provider's word has it. -/
theorem Applied.ledgered {w : Provider} {payment : Uuid × Payment} {e : WebhookEvent} {now : Instant}
    {db db' : Db} {r : Option RefundInstruction} (applied : Applied payment e now db r db')
    {p : Payment} (here : db.payments.get? payment.1 = some p)
    (bound : p.chargeId = some e.chargeId) (amount : payment.2.amountMinor = p.amountMinor)
    (read : e.event = .refundSucceeded →
      ∀ r, payment.2.refundId = some r → r = w.refundId (refundKey e.chargeId))
    (told : Told w db.paymentEvents p.amountMinor e) (distinct : ChargesDistinct db) (ledgered : Ledgered w db) :
    Ledgered w db' := by
  have fresh := applied.1
  have tracked := ledgered.rows _ p here
  have after : Coherent w (db.paymentEvents ++ [⟨e.chargeId, e.event⟩]) :=
    ledgered.coherent.claim told.captured told.declined fun name => (told.refunded name).1
  have events := applied.consequence.events.1
  rw [Db.claim_paymentEvents] at events
  have refund : e.event = .refundSucceeded →
      (refundedPayment payment e.refundId e.amountMinor now p).Tracked w
        (db.paymentEvents ++ [⟨e.chargeId, e.event⟩]) := by
    intro name
    obtain ⟨-, own, within⟩ := told.refunded name
    unfold refundedPayment
    rw [name] at fresh after ⊢
    refine tracked.markRefunded now bound fresh ledgered.coherent after ?_ ?_
    · intro r settled
      rcases Option.or_eq_some_iff.mp settled with said | ⟨-, stored⟩
      · exact own r said
      · exact read name r stored
    · cases said : e.amountMinor with
      | none => exact le_of_eq amount
      | some a => exact within a (by rw [said]; rfl)
  cases applied.consequence with
  | confirmed b snapshot name =>
      refine ledgered.apply distinct here bound rfl events (fun _ => rfl) after ?_
      rw [name] at fresh after ⊢
      exact tracked.markSucceeded now bound fresh ledgered.coherent after
  | late b name =>
      refine ledgered.apply distinct here bound
        (f := mintRefundKey (refundKey e.chargeId) now ∘ markSucceeded e.chargeId now) ?_ events
        (fun p => ?_) after ?_
      · by_cases pending : b.status = .pendingPayment <;> simp [lateCharge, pending]
      · exact mintRefundKey_idempotencyKey _ _ _
      · rw [name] at fresh after ⊢
        exact (tracked.markSucceeded now bound fresh ledgered.coherent after).mintRefundKey _ _
  | declined b name =>
      refine ledgered.apply distinct here bound rfl events (fun _ => rfl) after ?_
      rw [name] at fresh after ⊢
      exact tracked.markFailed now bound fresh ledgered.coherent after
  | declinedIdle name =>
      refine ledgered.apply distinct here bound rfl events (fun _ => rfl) after ?_
      rw [name] at fresh after ⊢
      exact tracked.markFailed now bound fresh ledgered.coherent after
  | refunded b name =>
      exact ledgered.apply distinct here bound rfl events (fun _ => rfl) after (refund name)
  | refundedTerminal b name =>
      exact ledgered.apply distinct here bound rfl events (fun _ => rfl) after (refund name)
  | refundedOrphan name =>
      exact ledgered.apply distinct here bound rfl events (fun _ => rfl) after (refund name)

/-- A charge is adopted by the payment of its key. -/
theorem findPayment_ledgered {w : Provider} {e : WebhookEvent} {now : Instant} {db t : Db}
    {r : Option (Uuid × Payment)} (looked : findPayment e now db = .ok (r, t))
    (own : ∀ reference, e.reference = some reference → e.chargeId = w.chargeId (chargeKey reference))
    (known : EventsKnown db) (ledgered : Ledgered w db) : Ledgered w t := by
  rcases findPayment_ok looked with ⟨-, rfl, -⟩ | ⟨_, -, rfl, -⟩ |
    ⟨row, reference, named, missing, adopt, -, -, -, rfl⟩
  · exact ledgered
  · exact ledgered
  · obtain ⟨here, -, key⟩ := paymentByReference_some adopt
    refine ledgered.modify rfl rfl (fun p => (Payment.Keeps.adopted _ _ p).key) fun p stored tracked => ?_
    rw [here] at stored
    cases stored
    refine tracked.adopted now ?_ fun _ name among => known.found among missing
    rw [key]
    exact own reference named

/-- What the provider has said of what a transaction is about to record. -/
def Txn.told (w : Provider) (db : Db) : Txn → Prop
  | .bindCharge paymentId chargeId _ => ∀ p, db.payments.get? paymentId = some p →
      chargeId = w.chargeId p.idempotencyKey
  | .apply rowId _ => ∀ e, pendingEvent db rowId = some e →
      (∀ reference, e.reference = some reference → e.chargeId = w.chargeId (chargeKey reference)) ∧
        ∀ id p, db.payments.get? id = some p → e.chargeId = w.chargeId p.idempotencyKey →
          Told w db.paymentEvents p.amountMinor e
  | .settleCharge _ chargeId captured _ => w.captured chargeId = captured
  | .settleRefund payment chargeId refundId amountMinor _ =>
      (∀ r, payment.2.refundId = some r → r = w.refundId (refundKey chargeId)) ∧
        Told w db.paymentEvents payment.2.amountMinor
          ⟨chargeId, .refundSucceeded, none, refundId, some amountMinor⟩
  | .refundAccepted paymentId refundId _ => ∀ p, db.payments.get? paymentId = some p →
      ∃ c, p.chargeId = some c ∧ refundId = w.refundId (refundKey c)
  | _ => True

/-- **Every commit keeps the tables** as the provider's word has them. -/
theorem Effect.ledgered {w : Provider} {env : Env} {t : Txn} {db db' : Db} {out : Outcome}
    (effect : Effect env t db db' out) (told : t.told w db) (bound : t.pollBound db)
    (known : EventsKnown db) (distinct : ChargesDistinct db) (ledgered : Ledgered w db) :
    Ledgered w db' := by
  cases effect with
  | paid bookingId principal booking existing stamp _ recorded _ payment inserted found moved =>
      have kept : Ledgered w recorded := by
        rcases inserted with ⟨-, rfl⟩ | ⟨unused, payments, inserted, rfl⟩
        · exact ledgered
        · exact ledgered.insert inserted rfl unused (.opened ..)
      rcases moved with ⟨-, -, -, rfl⟩ | ⟨-, rfl⟩
      · exact kept.of_eq rfl rfl
      · exact kept
  | bound paymentId chargeId now _ fits =>
      refine ledgered.modify rfl rfl (fun p => (Payment.Keeps.adopted _ _ p).key) fun p here tracked => ?_
      refine tracked.adopted now (told p here) fun unbound name among => ?_
      -- An event of this charge has a payment that the unique index would have refused.
      obtain ⟨id, q, there, charge⟩ := known _ among
      have taken := fits p here
      simp only [paymentFits, adopted, unbound, if_true, Option.all_some, Bool.and_eq_true] at taken
      have same := Table.free_iff.mp taken.1.1 id q there charge
      subst same
      rw [here] at there
      cases there
      rw [unbound] at charge
      cases charge
  | refundMinted bookingId choice now _ booking payment chargeId =>
      exact ledgered.modify rfl rfl (fun p => mintRefundKey_idempotencyKey _ _ p)
        fun p _ tracked => tracked.mintRefundKey _ _
  | lost rowId now _ u d fields e found verdict here unprocessed read supported looked =>
      have pending := pendingEvent_iff.mpr ⟨d, fields, here, unprocessed, read, supported⟩
      exact (findPayment_ledgered looked (told e pending).1 known ledgered).of_eq rfl rfl
  | applied rowId now _ u v d fields e payment r here unprocessed read supported looked applied =>
      have pending := pendingEvent_iff.mpr ⟨d, fields, here, unprocessed, read, supported⟩
      obtain ⟨own, said⟩ := told e pending
      have adopted_ := findPayment_ledgered looked own known ledgered
      obtain ⟨stored, charge⟩ := findPayment_found looked
      have key := (adopted_.rows _ _ stored).charge _ charge
      have events := (findPayment_events looked).1
      have read : ∀ r, payment.2.refundId = some r → r = w.refundId (refundKey e.chargeId) := by
        intro r settled
        obtain ⟨c, bound, same⟩ := (adopted_.rows _ _ stored).refund r settled
        cases charge.symm.trans bound
        exact same
      refine (applied.ledgered stored charge rfl (fun _ => read) ?_
        (findPayment_chargesDistinct looked distinct) adopted_).of_eq rfl rfl
      -- Adopting the charge left the key and the amount.
      rw [events]
      rcases findPayment_ok looked with ⟨missing, -, -⟩ | ⟨row, found, rfl, -, -⟩ |
        ⟨row, reference, -, -, adopt, -, found, -, rfl⟩
      · cases missing
      · cases found
        exact said _ _ stored key
      · cases found
        have keeps := Payment.Keeps.adopted e.chargeId now row.2
        rw [keeps.amount]
        exact said row.1 row.2 (paymentByReference_some adopt).1 (by rw [← keeps.key]; exact key)
  | polledCharge payment chargeId captured now _ _ r applied =>
      obtain ⟨p, here, charge, -, amount⟩ := bound
      refine applied.ledgered here charge amount.symm (fun name => ?_) ?_ distinct ledgered
      · cases captured <;> cases name
      cases captured with
      | true => exact ⟨fun _ => told, by rintro ⟨⟩, by rintro ⟨⟩⟩
      | false => exact ⟨by rintro ⟨⟩, fun _ => told, by rintro ⟨⟩⟩
  | polledRefund payment chargeId refundId amountMinor now _ _ applied =>
      obtain ⟨⟨p, here, charge, -, amount⟩, -⟩ := bound
      exact applied.ledgered here charge amount.symm (fun _ => told.1) (by rw [amount]; exact told.2)
        distinct ledgered
  | explained _ paymentId f _ note =>
      exact ledgered.modify rfl rfl (fun p => (Payment.Keeps.noted (note p)).key)
        fun p _ tracked => .noted (note p) tracked
  | refundBound paymentId refundId now _ _ =>
      refine ledgered.modify rfl rfl (fun p => (Payment.Keeps.boundRefund _ _ p).key)
        fun p here tracked => ?_
      obtain ⟨c, charge, own⟩ := told p here
      exact tracked.boundRefund now charge own
  | _ => exact ledgered.of_eq rfl rfl

/-! ## Deliveries that are due -/

theorem pendingEvent_congr {db db' : Db} (same : db'.webhookDeliveries = db.webhookDeliveries)
    (rowId : Uuid) : pendingEvent db' rowId = pendingEvent db rowId := by
  unfold pendingEvent
  rw [same]

/-- A verdict neither makes a delivery due nor changes what it says. -/
theorem pendingEvent_modify {db db' : Db} {rowId : Uuid} {f : WebhookDelivery → WebhookDelivery}
    (updated : db'.webhookDeliveries = db.webhookDeliveries.modify rowId f)
    (kept : ∀ d, (f d).processedAt = none → d.processedAt = none)
    (body : ∀ d, deliveryFields (f d) = deliveryFields d) {id : Uuid} {e : WebhookEvent}
    (pending : pendingEvent db' id = some e) : pendingEvent db id = some e := by
  obtain ⟨d, fields, here, unprocessed, read, supported⟩ := pendingEvent_iff.mp pending
  rw [updated] at here
  obtain ⟨d', stored, same⟩ := Table.get?_modify_some.mp here
  by_cases own : id = rowId
  · rw [if_pos own] at same
    subst same
    exact pendingEvent_iff.mpr ⟨d', fields, stored, kept d' unprocessed, by rw [← body]; exact read, supported⟩
  · rw [if_neg own] at same
    subst same
    exact pendingEvent_iff.mpr ⟨d', fields, stored, unprocessed, read, supported⟩

theorem settledRow_processed {e : WebhookEvent} {now : Instant} {verdict : Verdict}
    {d : WebhookDelivery} (unprocessed : (settledRow e now verdict d).processedAt = none) :
    d.processedAt = none := by
  cases verdict with
  | unknownCharge => exact unprocessed
  | duplicateEffect => cases unprocessed
  | applied => cases unprocessed

/-- An event becomes due only by a delivery of it, recorded as it was signed. -/
theorem Effect.pendingEvent {env : Env} {t : Txn} {db db' : Db} {out : Outcome}
    (effect : Effect env t db db' out) {id : Uuid} {e : WebhookEvent}
    (pending : pendingEvent db' id = some e) :
    Atrium.pendingEvent db id = some e ∨ ∃ request now d, t = .deliver request id now ∧
      db'.webhookDeliveries.get? id = some d ∧ d.signatureValid = request.signed ∧
      d.processedAt = none ∧ (request.body.bind readFields).bind WebhookFields.supported = some e := by
  cases effect with
  | delivered request rowId now _ error processed deliveries inserted =>
      by_cases own : id = rowId
      · subst own
        obtain ⟨d, fields, here, unprocessed, read, supported⟩ := pendingEvent_iff.mp pending
        refine .inr ⟨request, now, d, rfl, here, ?_⟩
        rw [Table.get?_insert? inserted, if_pos rfl] at here
        cases here
        refine ⟨rfl, unprocessed, ?_⟩
        rw [show request.body.bind readFields = some fields from read]
        exact supported
      · refine .inl ?_
        unfold Atrium.pendingEvent at pending ⊢
        rwa [Table.get?_insert? inserted, if_neg own] at pending
  | unsupported rowId now _ d fields here unprocessed =>
      refine .inl (pendingEvent_modify (f := fun d =>
        { d with processedAt := some now, error := some "unsupported_event" }) rfl ?_ (fun _ => rfl) pending)
      intro d unprocessed
      cases unprocessed
  | lost rowId now _ u d fields e found verdict here unprocessed _ _ looked =>
      have updated : (u.modifyDelivery rowId (settledRow e now verdict)).webhookDeliveries =
          db.webhookDeliveries.modify rowId (settledRow e now verdict) := by
        rw [Db.modifyDelivery_webhookDeliveries, (findPayment_events looked).2]
      exact .inl (pendingEvent_modify updated (fun d => settledRow_processed)
        (fun d => (settledRow_fields e now verdict d).2) pending)
  | applied rowId now _ u v d fields e payment r here unprocessed _ _ looked applied =>
      have updated : (v.modifyDelivery rowId (settledRow e now (.applied r))).webhookDeliveries =
          db.webhookDeliveries.modify rowId (settledRow e now (.applied r)) := by
        rw [Db.modifyDelivery_webhookDeliveries, applied.consequence.events.2,
          Db.claim_webhookDeliveries, (findPayment_events looked).2]
      exact .inl (pendingEvent_modify updated (fun d => settledRow_processed)
        (fun d => (settledRow_fields e now (.applied r) d).2) pending)
  | polledCharge payment chargeId captured now _ _ r applied =>
      rw [pendingEvent_congr applied.consequence.events.2] at pending
      exact .inl pending
  | polledRefund payment chargeId refundId amountMinor now _ _ applied =>
      rw [pendingEvent_congr applied.consequence.events.2] at pending
      exact .inl pending
  | paid bookingId principal booking existing stamp _ recorded _ payment inserted found moved =>
      have own := (@Effect.paid env bookingId principal booking existing stamp db recorded db'
        payment inserted found moved).own_events rfl
      rw [pendingEvent_congr own.2] at pending
      exact .inl pending
  | _ => exact .inl pending

/-! ## Requests and instructions -/

/-- A charge request of this payment, as it stands in the table. -/
def Requested (db : Db) (paymentId : Uuid) (r : ChargeRequest) : Prop :=
  r.idempotencyKey = chargeKey r.reference ∧ ∃ p, db.payments.get? paymentId = some p ∧
    p.idempotencyKey = r.idempotencyKey ∧ p.amountMinor = r.amountMinor

/-- A refund instruction of a payment whose charge was captured. -/
def Instructed (db : Db) (i : RefundInstruction) : Prop :=
  i.idempotencyKey = refundKey i.chargeId ∧ ⟨i.chargeId, .chargeSucceeded⟩ ∈ db.paymentEvents ∧
    ∃ p, db.payments.get? i.paymentId = some p ∧ p.chargeId = some i.chargeId

theorem Requested.kept {db db' : Db} {paymentId : Uuid} {r : ChargeRequest}
    (requested : Requested db paymentId r) (kept : paymentsKept db db') :
    Requested db' paymentId r := by
  obtain ⟨key, p, here, own, amount⟩ := requested
  obtain ⟨p', here', keeps⟩ := kept _ p here
  exact ⟨key, p', here', keeps.key.trans own, keeps.amount.trans amount⟩

theorem Instructed.kept {db db' : Db} {i : RefundInstruction} (instructed : Instructed db i)
    (kept : paymentsKept db db') (events : db.paymentEvents ⊆ db'.paymentEvents) :
    Instructed db' i := by
  obtain ⟨key, captured, p, here, charge⟩ := instructed
  obtain ⟨p', here', keeps⟩ := kept _ p here
  exact ⟨key, events captured, p', here', keeps.charge _ charge⟩

/-- What a request in flight has of the tables and of the provider. -/
def Proc.linked (w : Provider) (db : Db) : Proc → Prop
  | .charging r paymentId | .charged r paymentId => Requested db paymentId r
  | .chargeAnswered paymentId c => ∃ p, db.payments.get? paymentId = some p ∧
      c = w.chargeId p.idempotencyKey
  | .refunding i | .refundSent i | .refundFailed i _ => Instructed db i
  | .refundAnswered i refundId => Instructed db i ∧ refundId = w.refundId i.idempotencyKey
  | .pollingRefund payment chargeId refundId => payment.2.refundId = some refundId ∧
      refundId = w.refundId (refundKey chargeId)
  | _ => True

theorem Proc.linked.kept {w : Provider} {p : Proc} {db db' : Db} (linked : p.linked w db)
    (kept : paymentsKept db db') (events : db.paymentEvents ⊆ db'.paymentEvents) :
    p.linked w db' := by
  cases p with
  | charging r paymentId => exact Requested.kept linked kept
  | charged r paymentId => exact Requested.kept linked kept
  | chargeAnswered paymentId c =>
      obtain ⟨p, here, own⟩ := linked
      obtain ⟨p', here', keeps⟩ := kept _ p here
      exact ⟨p', here', by rw [keeps.key]; exact own⟩
  | refunding i => exact Instructed.kept linked kept events
  | refundSent i => exact Instructed.kept linked kept events
  | refundFailed i message => exact Instructed.kept linked kept events
  | refundAnswered i refundId => exact ⟨Instructed.kept linked.1 kept events, linked.2⟩
  | pollingRefund payment chargeId refundId => exact linked
  | _ => trivial

/-! ## What a commit hands on -/

/-- The refund of a late charge is of the charge that was applied. -/
theorem Applied.instructed {payment : Uuid × Payment} {e : WebhookEvent} {now : Instant}
    {db db' : Db} {i : RefundInstruction} (applied : Applied payment e now db (some i) db')
    {p : Payment} (here : db.payments.get? payment.1 = some p)
    (bound : p.chargeId = some e.chargeId) : Instructed db' i := by
  have own : ∀ q, (db.claim ⟨e.chargeId, e.event⟩).payments.get? payment.1 = some q →
      q.chargeId = some e.chargeId := by
    intro q there
    rw [Db.claim_payments, here] at there
    cases there
    exact bound
  have kept := applied.consequence.paymentsKept own
  have events := applied.consequence.events.1
  obtain ⟨p', here', keeps⟩ := kept payment.1 p here
  cases applied.consequence with
  | late b name =>
      refine ⟨rfl, ?_, p', here', keeps.charge _ bound⟩
      rw [events, Db.claim_paymentEvents, name]
      simp

theorem refundOutcome_next {r : Option RefundInstruction} {p : Proc}
    (next : (refundOutcome r).next = some p) : ∃ i, r = some i ∧ p = .refunding i := by
  cases r with
  | none => cases next
  | some i =>
      simp only [refundOutcome, Outcome.next, Option.ite_none_left_eq_some, Option.some.injEq] at next
      exact ⟨i, rfl, next.2.symm⟩

/-- The charge of a SUCCEEDED payment was applied. -/
theorem Ledgered.applied {w : Provider} {db : Db} (ledgered : Ledgered w db) {id : Uuid}
    {p : Payment} (here : db.payments.get? id = some p) (succeeded : p.status = .succeeded)
    {chargeId : String} (charge : p.chargeId = some chargeId) :
    ⟨chargeId, .chargeSucceeded⟩ ∈ db.paymentEvents := by
  have status := (ledgered.rows _ _ here).status
  rw [succeeded, charge] at status
  by_contra missing
  have unrefunded : ⟨chargeId, .refundSucceeded⟩ ∉ db.paymentEvents := fun among =>
    missing (ledgered.coherent.refunded _ among)
  simp only [statusFrom, unrefunded, missing, if_false] at status
  split at status <;> cases status

/-- What a commit hands to the rest of its request. -/
theorem Effect.next_linked {w : Provider} {env : Env} {t : Txn} {db db' : Db} {out : Outcome}
    (effect : Effect env t db db' out) (bound : t.pollBound db) (ledgered : Ledgered w db)
    {p : Proc} (next : out.next = some p) : p.linked w db' := by
  have kept := effect.paymentsKept bound
  cases effect with
  | paid bookingId principal booking existing stamp _ recorded _ payment inserted found moved =>
      cases next
      obtain ⟨here, key⟩ := paymentByKey_some found
      have same : db'.payments = recorded.payments := by
        rcases moved with ⟨-, -, -, rfl⟩ | ⟨-, rfl⟩ <;> rfl
      exact ⟨rfl, payment.2, same ▸ here, key, rfl⟩
  | cancelled bookingId reason principal now _ b =>
      cases next
      trivial
  | refundMinted bookingId choice now _ booking payment chargeId snapshot breakdown _ captured charge =>
      obtain ⟨i, same, rfl⟩ := refundOutcome_next (r := some _) next
      cases same
      obtain ⟨here, -, succeeded⟩ := capturedPayment_some captured
      have applied := ledgered.applied here succeeded charge
      obtain ⟨p', here', keeps⟩ := kept _ _ here
      exact ⟨rfl, applied, p', here', keeps.charge _ charge⟩
  | applied rowId now _ u v d fields e payment r _ _ _ _ looked applied =>
      obtain ⟨i, rfl, rfl⟩ := refundOutcome_next next
      obtain ⟨here, charge⟩ := findPayment_found looked
      exact applied.instructed here charge
  | polledCharge payment chargeId captured now _ _ r applied =>
      obtain ⟨i, rfl, rfl⟩ := refundOutcome_next next
      obtain ⟨q, here, charge, -⟩ := bound
      exact applied.instructed here charge
  | _ => cases next

/-! ## Every state -/

/-- The payments, the requests and the provider, tied together. -/
structure Linked (w : Provider) (api : Api) : Prop where
  ledgered : Ledgered w api.db
  procs : ∀ pid p, api.procs.get? pid = some p → p.linked w api.db
  sent : ∀ r ∈ api.chargeRequests, ∃ paymentId, Requested api.db paymentId r
  asked : ∀ i ∈ api.refundRequests, Instructed api.db i
  due : ∀ rowId e, pendingEvent api.db rowId = some e → w.Emits api e

/-- The invariants a run keeps, the provider keeping its word. -/
structure Tied (w : Provider) (api : Api) : Prop where
  gated : Gated api
  unsigned : UnsignedDone api.db
  linked : Linked w api

theorem Tied.start (w : Provider) {db : Db} (fresh : db.Fresh) (now : Instant) :
    Tied w (Api.start now db) := by
  obtain ⟨-, -, payments, events, deliveries, -⟩ := id fresh
  refine ⟨.start fresh now, .start fresh, ⟨⟨?_, ?_, ?_⟩, ?_, nofun, nofun, ?_⟩⟩
  · intro id p id' p' c here
    simp [Api.start, payments] at here
  · constructor <;> simp [Api.start, events]
  · intro id p here
    simp [Api.start, payments] at here
  · intro pid p here
    simp [Api.start] at here
  · intro rowId e pending
    simp [Api.start, pendingEvent, deliveries] at pending

/-- The refund an amount of which the provider has told. -/
theorem Linked.refunded {w : Provider} {api : Api} (linked : Linked w api) {i : RefundInstruction}
    (asked : i ∈ api.refundRequests) {refundId : Option String} {amount : Option Int}
    (refunds : w.Refunds api i refundId amount) :
    ⟨i.chargeId, .chargeSucceeded⟩ ∈ api.db.paymentEvents ∧
      (∀ r ∈ refundId, r = w.refundId (refundKey i.chargeId)) ∧
      ∀ id p, api.db.payments.get? id = some p → i.chargeId = w.chargeId p.idempotencyKey →
        ∀ a ∈ amount, a ≤ p.amountMinor := by
  obtain ⟨key, captured, -⟩ := linked.asked i asked
  obtain ⟨same, r, sent, own, within⟩ := refunds
  refine ⟨captured, fun r said => by rw [same r said, key], ?_⟩
  intro id p here keyed a said
  obtain ⟨paymentId, -, q, there, requested, amount⟩ := linked.sent r sent
  have keys : p.idempotencyKey = q.idempotencyKey :=
    w.chargeId_injective (by rw [← keyed, own, requested])
  obtain rfl : id = paymentId :=
    linked.ledgered.keys id p paymentId q _ here there (congrArg some keys) rfl
  cases here.symm.trans there
  rw [amount]
  exact within a said

/-- An event that is due says what the provider has of its charge. -/
theorem Linked.told {w : Provider} {api : Api} (linked : Linked w api) {e : WebhookEvent}
    (emits : w.Emits api e) :
    (∀ reference, e.reference = some reference → e.chargeId = w.chargeId (chargeKey reference)) ∧
      ∀ id p, api.db.payments.get? id = some p → e.chargeId = w.chargeId p.idempotencyKey →
        Told w api.db.paymentEvents p.amountMinor e := by
  obtain ⟨⟨r, sent, own, named⟩, captured, declined, refunded⟩ := emits
  constructor
  · intro reference said
    obtain ⟨-, key, -⟩ := linked.sent r sent
    rw [own, key, named reference said]
  · intro id p here keyed
    refine ⟨captured, declined, fun name => ?_⟩
    obtain ⟨i, asked, same, refunds⟩ := refunded name
    obtain ⟨applied, refund, within⟩ := linked.refunded asked refunds
    rw [← same] at keyed ⊢
    exact ⟨applied, refund, within id p here keyed⟩

/-! ## Steps -/

section Steps

variable {w : Provider} {env : Env} {a : Action} {api api' : Api}

/-- What a poll is told of a refund is of one that was asked for. -/
theorem Linked.polled (linked : Linked w api) {pid : Pid} {payment : Uuid × Payment}
    {chargeId refundId : String} (proc : api.procs.get? pid =
      some (.pollingRefund payment chargeId refundId)) {found : Option String} {amountMinor : Int}
    {now : Instant} (keeps : w.Keeps (.pollRefund pid found amountMinor now) api) :
    ∃ i ∈ api.refundRequests, i.chargeId = chargeId ∧ w.Refunds api i found (some amountMinor) := by
  simp only [Provider.Keeps, Provider.honest, proc, List.any_eq_true, decide_eq_true_eq] at keeps
  obtain ⟨i, asked, same, refunds⟩ := keeps
  obtain ⟨-, own⟩ : _ ∧ refundId = w.refundId (refundKey chargeId) := linked.procs pid _ proc
  obtain ⟨key, -⟩ := linked.asked i asked
  refine ⟨i, asked, ?_, refunds⟩
  rw [own, key] at same
  exact refundKey_injective (w.refundId_injective same)

/-- The provider has said what a commit records. -/
theorem Commits.told {c : Commit} (commits : Commits api a c) (keeps : w.Keeps a api)
    (tied : Tied w api) : c.txn.told w api.db := by
  have linked := tied.linked
  cases commits with
  | bindCharge pid now paymentId chargeId proc =>
      obtain ⟨p, here, own⟩ := linked.procs pid _ proc
      intro p' here'
      cases here.symm.trans here'
      exact own
  | refundAccepted pid refusal now instruction refundId proc =>
      obtain ⟨⟨key, -, p, here, charge⟩, own⟩ := linked.procs pid _ proc
      intro p' here'
      cases here.symm.trans here'
      exact ⟨_, charge, by rw [own, key]⟩
  | apply pid rowId now =>
      intro e pending
      exact linked.told (linked.due rowId e pending)
  | captured pid now payment chargeId proc =>
      show w.captured chargeId = true
      simpa only [Provider.Keeps, Provider.honest, proc] using keeps
  | declined pid now payment chargeId proc =>
      show w.captured chargeId = false
      simpa only [Provider.Keeps, Provider.honest, proc, Bool.not_eq_true'] using keeps
  | pollRefund pid found amountMinor now payment chargeId refundId proc =>
      obtain ⟨⟨p, here, charge, -, amount⟩, -⟩ := tied.gated.polls pid _ proc
      obtain ⟨i, asked, rfl, refunds⟩ := linked.polled proc keeps
      obtain ⟨applied, refund, within⟩ := linked.refunded asked refunds
      obtain ⟨read, own⟩ : payment.2.refundId = some refundId ∧ refundId = w.refundId _ :=
        linked.procs pid _ proc
      refine ⟨fun r settled => ?_, by rintro ⟨⟩, by rintro ⟨⟩, fun _ => ⟨applied, refund, ?_⟩⟩
      · cases read.symm.trans settled
        exact own
      rw [← amount]
      exact within _ p here ((linked.ledgered.rows _ p here).charge _ charge)
  | _ => trivial

/-- A signed delivery that comes in is of an event the provider emits. -/
theorem Commits.emitted {c : Commit} (commits : Commits api a c) (keeps : w.Keeps a api)
    {request : WebhookRequest} {rowId : Uuid} {now : Instant} (own : c.txn = .deliver request rowId now)
    (signed : request.signed = true) {e : WebhookEvent}
    (read : (request.body.bind readFields).bind WebhookFields.supported = some e) :
    w.Emits api e := by
  cases commits with
  | deliver request' rowId' now' =>
      cases own
      simp only [Provider.Keeps, Provider.honest, signedFields, signed, if_true, read, Option.all_some,
        decide_eq_true_eq] at keeps
      exact keeps
  | _ => cases own

/-- What a step adds to the requests and the events. -/
theorem step_grows (stepped : step env a api = some api') (gated : Gated api) :
    api.chargeRequests ⊆ api'.chargeRequests ∧ api.refundRequests ⊆ api'.refundRequests ∧
      api.db.paymentEvents ⊆ api'.db.paymentEvents := by
  refine ⟨?_, ?_, ?_⟩
  · cases step_cases stepped with
    | committed => simp
    | aborted => simp
    | unshared _ moved => cases moved <;> simp
  · cases step_cases stepped with
    | committed => simp
    | aborted => simp
    | unshared _ moved => cases moved <;> simp
  · rw [(gated.events stepped).1]
    exact List.subset_append_left _ _

/-- A step that commits nothing starts a request with what it has read, or takes the
provider's answer. -/
theorem Local.linked (moved : Local env api a api') (keeps : w.Keeps a api) (linked : Linked w api) :
    (∀ pid p, api'.procs.get? pid = some p → p.linked w api.db) ∧
      (∀ r ∈ api'.chargeRequests, ∃ paymentId, Requested api.db paymentId r) ∧
      ∀ i ∈ api'.refundRequests, Instructed api.db i := by
  have become : ∀ (pid : Pid) (p : Option Proc), (∀ q, p = some q → q.linked w api.db) →
      ∀ pid' q, (api.become pid p).procs.get? pid' = some q → q.linked w api.db := by
    intro pid p fresh pid' q here
    rw [Api.become_procs] at here
    split_ifs at here
    · exact fresh q here
    · exact linked.procs pid' q here
  cases moved with
  | ticked ms => exact ⟨linked.procs, linked.sent, linked.asked⟩
  | charged pid request paymentId here =>
      have requested : Requested api.db paymentId request := linked.procs pid _ here
      refine ⟨become pid _ ?_, ?_, by simpa using linked.asked⟩
      · rintro q ⟨⟩
        exact requested
      · intro r among
        rcases List.mem_append.mp among with old | new
        · exact linked.sent r old
        · obtain rfl := List.mem_singleton.mp new
          exact ⟨paymentId, requested⟩
  | chargeAnswered pid request paymentId chargeId here =>
      obtain ⟨-, p, stored, own, -⟩ := linked.procs pid _ here
      refine ⟨become pid _ ?_, by simpa using linked.sent, by simpa using linked.asked⟩
      rintro q ⟨⟩
      simp only [Provider.Keeps, Provider.honest, here, decide_eq_true_eq] at keeps
      exact ⟨p, stored, by rw [own]; exact keeps⟩
  | refundSent pid instruction here =>
      have instructed : Instructed api.db instruction := linked.procs pid _ here
      refine ⟨become pid _ ?_, by simpa using linked.sent, ?_⟩
      · rintro q ⟨⟩
        exact instructed
      · intro i among
        rcases List.mem_append.mp among with old | new
        · exact linked.asked i old
        · obtain rfl := List.mem_singleton.mp new
          exact instructed
  | refundAnswered pid instruction refundId here =>
      have instructed : Instructed api.db instruction := linked.procs pid _ here
      refine ⟨become pid _ ?_, by simpa using linked.sent, by simpa using linked.asked⟩
      rintro q ⟨⟩
      simp only [Provider.Keeps, Provider.honest, here, decide_eq_true_eq] at keeps
      exact ⟨instructed, keeps⟩
  | refundFailed pid instruction message here =>
      refine ⟨become pid _ ?_, by simpa using linked.sent, by simpa using linked.asked⟩
      rintro q ⟨⟩
      have instructed : Instructed api.db instruction := linked.procs pid _ here
      exact instructed
  | pollingRefund pid payment chargeId refundId _ selected charge settled =>
      refine ⟨become pid _ ?_, by simpa using linked.sent, by simpa using linked.asked⟩
      rintro q ⟨⟩
      obtain ⟨c, own, same⟩ := (linked.ledgered.rows _ _ (Table.mem_select.mp selected).1).refund _ settled
      cases charge.symm.trans own
      exact ⟨settled, same⟩
  | _ =>
      refine ⟨become _ _ ?_, by simpa using linked.sent, by simpa using linked.asked⟩
      rintro q ⟨⟩
      try trivial

/-- **Every step the provider keeps its word in keeps what ties it to the tables.** -/
theorem step_tied (stepped : step env a api = some api') (keeps : w.Keeps a api)
    (tied : Tied w api) : Tied w api' := by
  have gated := step_gated a api api' stepped tied.gated
  have unsigned := step_unsignedDone a api api' stepped tied.unsigned
  have kept := step_paymentsKept tied.gated.polls stepped
  obtain ⟨charges, refunds, events⟩ := step_grows stepped tied.gated
  have linked := tied.linked
  refine ⟨gated, unsigned, ?_⟩
  cases step_cases stepped with
  | committed c out db' enabled free ran =>
      have effect := Txn.run_effect ran
      have commits := commit_cases enabled
      have bound := commits.pollBound tied.gated.polls
      rw [Api.resume_db] at kept events unsigned
      refine ⟨?_, ?_, ?_, ?_, ?_⟩
      · rw [Api.resume_db]
        exact effect.ledgered (commits.told keeps tied) bound tied.gated.known tied.gated.distinct
          linked.ledgered
      · intro pid p here
        rw [Api.resume_db]
        rw [Api.resume_procs] at here
        split_ifs at here
        · exact effect.next_linked bound linked.ledgered here
        · exact (linked.procs pid p here).kept kept events
      · intro r among
        rw [Api.resume_chargeRequests] at among
        rw [Api.resume_db]
        obtain ⟨paymentId, requested⟩ := linked.sent r among
        exact ⟨paymentId, requested.kept kept⟩
      · intro i among
        rw [Api.resume_refundRequests] at among
        rw [Api.resume_db]
        exact (linked.asked i among).kept kept events
      · intro rowId e pending
        rw [Api.resume_db] at pending
        rcases effect.pendingEvent pending with before | ⟨request, now, d, own, here, valid, due, read⟩
        · exact (linked.due rowId e before).grow charges refunds
        · have signed : request.signed = true := by
            by_contra forged
            rw [Bool.not_eq_true] at forged
            exact unsigned rowId d here (valid.trans forged) due
          exact (commits.emitted keeps own signed read).grow charges refunds
  | aborted c e enabled ran =>
      have procs : ∀ pid p, (api.resume c.pid c.retry).procs.get? pid = some p →
          p.linked w api.db := by
        intro pid p here
        rw [Api.resume_procs] at here
        split_ifs at here with own
        · cases commit_cases enabled with
          | refundAccepted pid' refusal now instruction refundId proc =>
              cases here
              exact (linked.procs pid' _ proc).1
          | _ => cases here
        · exact linked.procs pid p here
      refine ⟨by simpa using linked.ledgered, by simpa using procs, by simpa using linked.sent,
        by simpa using linked.asked, ?_⟩
      intro rowId e pending
      rw [Api.resume_db] at pending
      exact (linked.due rowId e pending).grow charges refunds
  | unshared _ moved =>
      obtain ⟨procs, sent, asked⟩ := moved.linked keeps linked
      have same := moved.db
      refine ⟨same ▸ linked.ledgered, same ▸ procs, same ▸ sent, same ▸ asked, ?_⟩
      intro rowId e pending
      rw [same] at pending
      exact (linked.due rowId e pending).grow charges refunds

/-- **Every state** of a run the provider keeps its word in. -/
theorem tied_of_reachable {now : Instant} {db : Db} (fresh : db.Fresh)
    (reached : ReachableAlong (step env) w.Keeps (Api.start now db) api) : Tied w api :=
  reached.invariant (Tied.start w fresh now) fun _ _ _ stepped keeps tied =>
    step_tied stepped keeps tied

end Steps

end Atrium
