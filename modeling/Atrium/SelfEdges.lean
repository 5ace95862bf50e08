/-
# SelfEdges -- audit rows from a state to itself

A re-arm, the start of a refund and its settlement on a terminal booking each write an
audit row whose two states are one, built from a booking read earlier in the
transaction.  The row is true where that is still the booking's state.  It is, but for
one path: a captured charge that arrives after its hold has lapsed moves the booking to
EXPIRED and then records the PENDING_PAYMENT it read before.

`onTime` says that no step applies such a charge.
-/
import Atrium.AuditTrail

namespace Atrium

open Atrium.Base

set_option autoImplicit false

/-! ## True rows -/

/-- Where the moves of a log leave a booking. -/
def statusAfter (log : List AuditEvent) (id : Uuid) : BookingStatus :=
  ((movesIn log id).getLast?.map Prod.snd).getD .draft

/-- A row from a state to itself records the state the log had led to. -/
def trueRow (before : List AuditEvent) (row : AuditEvent) : Prop :=
  row.fromState = row.toState → row.fromState = statusAfter before row.bookingId

/-- Every self-edge a commit has added records the state its booking has at the commit.
No transaction moves a booking after it has written such a row. -/
def Truthful (db db' : Db) : Prop :=
  ∃ rows, db'.auditEvents = db.auditEvents ++ rows ∧
    ∀ row ∈ rows, row.fromState = row.toState → row.fromState = statusOf db' row.bookingId

theorem statusAfter_eq {db : Db} (audited : Audited db) (id : Uuid) :
    statusAfter db.auditEvents id = statusOf db id :=
  (audited id).last

theorem Truthful.of_same {db db' : Db} (same : db'.auditEvents = db.auditEvents) :
    Truthful db db' :=
  ⟨[], by rw [same, List.append_nil], by simp⟩

/-- One row added, which is a move or true. -/
theorem Truthful.of_row {db db' : Db} {row : AuditEvent}
    (log : db'.auditEvents = db.auditEvents ++ [row])
    (holds : row.fromState = row.toState → row.fromState = statusOf db' row.bookingId) :
    Truthful db db' := by
  refine ⟨[row], log, ?_⟩
  intro row' here
  rw [List.mem_singleton] at here
  subst here
  exact holds

/-- A row beside the bookings, true of the database it is added to. -/
theorem Truthful.of_state {db db' : Db} {id : Uuid} {b : Booking} {actor : Actor}
    {reason : String} (log : db'.auditEvents = db.auditEvents ++ [⟨id, actor, b.status, b.status, reason⟩])
    (stands : statusOf db' id = b.status) : Truthful db db' :=
  .of_row log fun _ => stands.symm

/-- Only the log and the bookings matter. -/
theorem Truthful.congr {db db' t t' : Db} (truthful : Truthful t t')
    (before : t.auditEvents = db.auditEvents) (after : db'.auditEvents = t'.auditEvents)
    (bookings : db'.bookings = t'.bookings) : Truthful db db' := by
  obtain ⟨rows, log, holds⟩ := truthful
  refine ⟨rows, by rw [after, log, before], ?_⟩
  intro row here self
  rw [statusOf_congr bookings]
  exact holds row here self

/-! ## Charges that arrive late -/

/-- The payment's booking waits for it, past its deadline. -/
def lateFor (db : Db) (payment : Uuid × Payment) (now : Instant) : Bool :=
  (db.bookings.get? payment.2.bookingId).any fun b =>
    decide (b.status = .pendingPayment) && b.lapsedAt now

/-- The event a recorded delivery asks to be applied, if it was not processed before. -/
def pendingEvent (db : Db) (rowId : Uuid) : Option WebhookEvent :=
  (((db.webhookDeliveries.get? rowId).filter fun d => d.processedAt.isNone).bind
    deliveryFields).bind WebhookFields.supported

/-- A captured charge, applied for the first time, to a booking that waits for it past
its deadline. -/
def appliesLate (db : Db) (e : PaymentEvent) (payment : Uuid × Payment) (now : Instant) : Bool :=
  decide (e.event = .chargeSucceeded ∧ e ∉ db.paymentEvents) && lateFor db payment now

/-- The transaction applies such a charge. -/
def Txn.appliesLate (db : Db) : Txn → Bool
  | .apply rowId now =>
      (pendingEvent db rowId).any fun e =>
        match findPayment e now db with
        | .ok (some payment, _) => Atrium.appliesLate db ⟨e.chargeId, e.event⟩ payment now
        | _ => false
  | .settleCharge payment chargeId captured now =>
      captured && Atrium.appliesLate db ⟨chargeId, .chargeSucceeded⟩ payment now
  | _ => false

/-- The action commits no such transaction. -/
def onTime (a : Action) (api : Api) : Prop :=
  (a.commit? api).all fun c => !c.txn.appliesLate api.db

instance (a : Action) (api : Api) : Decidable (onTime a api) := inferInstanceAs (Decidable (_ = true))

theorem lateFor_iff {db : Db} {payment : Uuid × Payment} {now : Instant} :
    lateFor db payment now = true ↔ ∃ b, db.bookings.get? payment.2.bookingId = some b ∧
      b.status = .pendingPayment ∧ b.lapsedAt now = true := by
  simp [lateFor, Option.any_eq_true]

theorem pendingEvent_iff {db : Db} {rowId : Uuid} {e : WebhookEvent} :
    pendingEvent db rowId = some e ↔ ∃ d fields, db.webhookDeliveries.get? rowId = some d ∧
      d.processedAt = none ∧ deliveryFields d = some fields ∧ fields.supported = some e := by
  simp only [pendingEvent, Option.bind_eq_some_iff, Option.filter_eq_some_iff,
    Option.isNone_iff_eq_none]
  constructor
  · rintro ⟨fields, ⟨d, ⟨here, unprocessed⟩, read⟩, supported⟩
    exact ⟨d, fields, here, unprocessed, read, supported⟩
  · rintro ⟨d, fields, here, unprocessed, read, supported⟩
    exact ⟨fields, ⟨d, ⟨here, unprocessed⟩, read⟩, supported⟩

/-- Which deliveries apply a late charge. -/
theorem appliesLate_apply {db : Db} {rowId : Uuid} {now : Instant} :
    (Txn.apply rowId now).appliesLate db = true ↔ ∃ e payment t, pendingEvent db rowId = some e ∧
      findPayment e now db = .ok (some payment, t) ∧ e.event = .chargeSucceeded ∧
      ⟨e.chargeId, e.event⟩ ∉ db.paymentEvents ∧ lateFor db payment now = true := by
  simp only [Txn.appliesLate, Option.any_eq_true]
  constructor
  · rintro ⟨e, pending, late⟩
    split at late
    · rename_i payment t looked
      simp only [appliesLate, Bool.and_eq_true, decide_eq_true_eq] at late
      exact ⟨e, payment, t, pending, looked, late.1.1, late.1.2, late.2⟩
    · cases late
  · rintro ⟨e, payment, t, pending, looked, captured, fresh, late⟩
    refine ⟨e, pending, ?_⟩
    simp only [looked, appliesLate, Bool.and_eq_true, decide_eq_true_eq]
    exact ⟨⟨captured, fresh⟩, late⟩

theorem appliesLate_settleCharge {db : Db} {payment : Uuid × Payment} {chargeId : String}
    {captured : Bool} {now : Instant} :
    (Txn.settleCharge payment chargeId captured now).appliesLate db = true ↔ captured = true ∧
      ⟨chargeId, .chargeSucceeded⟩ ∉ db.paymentEvents ∧ lateFor db payment now = true := by
  simp [Txn.appliesLate, appliesLate]

/-! ## One event -/

/-- An applied event writes a true row, unless it is a charge that comes late. -/
theorem Consequence.truthful {payment : Uuid × Payment} {e : WebhookEvent} {now : Instant}
    {db db' : Db} {r : Option RefundInstruction}
    (consequence : Consequence payment e now db r db')
    (timely : e.event = .chargeSucceeded → lateFor db payment now = false) : Truthful db db' := by
  cases consequence with
  | confirmed b snapshot _ _ _ _ _ => exact .of_row rfl (by rintro ⟨⟩)
  | late b captured _ found unconfirmable =>
      have settled : b.status ≠ .pendingPayment := by
        intro pending
        have lapsed : b.lapsedAt now = true := by
          rw [← Bool.not_eq_false]
          exact fun live => unconfirmable ⟨pending, live⟩
        have late := lateFor_iff.mpr ⟨b, found, pending, lapsed⟩
        rw [timely captured] at late
        cases late
      have log : (lateCharge db payment e.chargeId now b.status).auditEvents = db.auditEvents ++
          [⟨payment.2.bookingId, systemActor, b.status, b.status,
            "refund.initiated.unconfirmable_hold"⟩] := by
        simp [lateCharge, settled]
      have same : (lateCharge db payment e.chargeId now b.status).bookings = db.bookings := by
        simp [lateCharge, settled]
      exact .of_state log ((statusOf_congr same _).trans (statusOf_some found))
  | declined b _ _ _ => exact .of_row rfl (by rintro ⟨⟩)
  | declinedIdle _ _ => exact .of_same rfl
  | refunded b _ _ _ _ => exact .of_row rfl (by rintro ⟨⟩)
  | refundedTerminal b _ _ found _ => exact .of_state rfl (statusOf_some found)
  | refundedOrphan _ _ _ => exact .of_same rfl

/-- **A late charge writes a false row**: the booking is EXPIRED, and the row says
PENDING_PAYMENT. -/
theorem Consequence.untruthful {payment : Uuid × Payment} {e : WebhookEvent} {now : Instant}
    {db db' : Db} {r : Option RefundInstruction}
    (consequence : Consequence payment e now db r db') (captured : e.event = .chargeSucceeded)
    (late : lateFor db payment now = true) : ¬ Truthful db db' := by
  obtain ⟨b, found, pending, lapsed⟩ := lateFor_iff.mp late
  rintro ⟨rows, log, holds⟩
  cases consequence with
  | confirmed b' _ _ _ found' _ live =>
      cases found.symm.trans found'
      rw [lapsed] at live
      cases live
  | late b' _ _ found' _ =>
      cases found.symm.trans found'
      have written : (lateCharge db payment e.chargeId now b.status).auditEvents =
          db.auditEvents ++ [
            ⟨payment.2.bookingId, systemActor, .pendingPayment, .expired,
              "hold.expired.payment_arrived_late"⟩,
            ⟨payment.2.bookingId, systemActor, .pendingPayment, .pendingPayment,
              "refund.initiated.unconfirmable_hold"⟩] := by
        simp [lateCharge, pending]
      rw [written, List.append_cancel_left_eq] at log
      have expired : statusOf (lateCharge db payment e.chargeId now b.status)
          payment.2.bookingId = .expired := by
        simp [statusOf, lateCharge, pending, found, movedRow]
      have said := holds _ (log ▸ List.mem_cons_of_mem _ (List.mem_singleton_self _)) rfl
      rw [expired] at said
      cases said
  | declined _ declined _ _ | declinedIdle declined _ =>
      rw [captured] at declined
      cases declined
  | refunded _ settled _ _ _ | refundedTerminal _ settled _ _ _ | refundedOrphan settled _ _ =>
      rw [captured] at settled
      cases settled

theorem lateFor_congr {db t : Db} (bookings : t.bookings = db.bookings) (payment : Uuid × Payment)
    (now : Instant) : lateFor t payment now = lateFor db payment now := by
  rw [lateFor, lateFor, bookings]

theorem Applied.truthful {payment : Uuid × Payment} {e : WebhookEvent} {now : Instant}
    {db db' : Db} {r : Option RefundInstruction} (applied : Applied payment e now db r db')
    (timely : e.event = .chargeSucceeded → lateFor db payment now = false) : Truthful db db' := by
  have holds := applied.consequence.truthful fun captured =>
    (lateFor_congr rfl payment now).trans (timely captured)
  exact holds.congr rfl rfl rfl

theorem Applied.untruthful {payment : Uuid × Payment} {e : WebhookEvent} {now : Instant}
    {db db' : Db} {r : Option RefundInstruction} (applied : Applied payment e now db r db')
    (captured : e.event = .chargeSucceeded) (late : lateFor db payment now = true) :
    ¬ Truthful db db' := by
  intro truthful
  exact applied.consequence.untruthful captured ((lateFor_congr rfl payment now).trans late)
    (truthful.congr rfl rfl rfl)

/-! ## One transaction -/

theorem Truthful.expire (db : Db) (ids : List Uuid) (now : Instant) (actor : Actor)
    (reason : String) : Truthful db (db.expire ids now actor reason) := by
  refine ⟨_, rfl, ?_⟩
  intro row here self
  obtain ⟨id, -, rfl⟩ := List.mem_map.mp here
  cases self

/-- A transaction that applies no late charge writes true rows. -/
theorem Effect.truthful {env : Env} {t : Txn} {db db' : Db} {out : Outcome}
    (effect : Effect env t db db' out) (timely : t.appliesLate db = false) : Truthful db db' := by
  cases effect with
  | nothing => exact .of_same rfl
  | held input ctx principal stamp expired priced _ bookings _ _ _ =>
      refine ⟨expired.map (fun id => ⟨id, systemActor, .held, .expired,
          "hold.expired.in_transaction"⟩) ++
        [⟨stamp.id, ⟨.user, some principal.userId⟩, .draft, .held, "hold.created"⟩], ?_, ?_⟩
      · simp [expiredView]
      · intro row here self
        simp only [List.mem_append, List.mem_map, List.mem_singleton] at here
        rcases here with ⟨id, -, rfl⟩ | rfl <;> cases self
  | rearmed bookingId principal booking now _ b _ _ _ found _ =>
      refine .of_state rfl ?_
      have kept : ((db.bookings.modify bookingId.value (Atrium.rearmed env booking now)).get?
          bookingId.value).map Booking.status = (db.bookings.get? bookingId.value).map
            Booking.status :=
        Table.map_get?_modify (f := Atrium.rearmed env booking now) (g := Booking.status)
          (fun _ => rfl) _
      rw [← statusOf_some found]
      simp only [statusOf, Db.audit_bookings, Db.modifyBooking_bookings, kept]
  | paid bookingId principal booking existing stamp _ recorded _ payment inserted _ moved =>
      have same : recorded.auditEvents = db.auditEvents := inserted.rest.2.2.1
      rcases moved with ⟨-, -, -, rfl⟩ | ⟨-, rfl⟩
      · refine .of_row (by rw [Db.move_auditEvents, same]) ?_
        intro self
        cases self
      · exact .of_same same
  | bound => exact .of_same rfl
  | cancelled bookingId reason principal now _ b found status =>
      refine .of_row rfl ?_
      intro self
      rcases status with held | confirmed
      · rw [held] at self
        cases self
      · rw [confirmed] at self
        cases self
  | refundMinted bookingId choice now _ booking payment chargeId snapshot breakdown found =>
      exact .of_state rfl (statusOf_some found)
  | delivered => exact .of_same rfl
  | unsupported => exact .of_same rfl
  | lost rowId now _ t d fields e found verdict _ _ _ _ looked _ =>
      exact .of_same (findPayment_rest looked).2.2.1
  | applied rowId now _ t u d fields e payment r here unprocessed read supported looked applied =>
      obtain ⟨bookings, -, log, events, -⟩ := findPayment_rest looked
      refine Truthful.congr (applied.truthful ?_) log rfl rfl
      intro captured
      by_contra late
      rw [Bool.not_eq_false, lateFor_congr bookings] at late
      have pending := pendingEvent_iff.mpr ⟨d, fields, here, unprocessed, read, supported⟩
      have applies := appliesLate_apply.mpr
        ⟨e, payment, t, pending, looked, captured, events ▸ applied.1, late⟩
      rw [timely] at applies
      cases applies
  | polledCharge payment chargeId captured now _ _ r applied =>
      refine applied.truthful ?_
      intro name
      by_contra late
      rw [Bool.not_eq_false] at late
      cases captured with
      | true =>
          have applies := appliesLate_settleCharge.mpr ⟨rfl, applied.1, late⟩
          rw [timely] at applies
          cases applies
      | false => cases name
  | polledRefund payment chargeId refundId amountMinor now _ _ applied =>
      exact applied.truthful (by rintro ⟨⟩)
  | explained => exact .of_same rfl
  | refundBound => exact .of_same rfl
  | swept now locked _ => exact .expire ..
  | policyAdded => exact .of_same rfl

/-- **When the rows of a transaction are true**: exactly when it applies no late charge. -/
theorem Txn.truthful_iff {env : Env} {t : Txn} {db db' : Db} {out : Outcome}
    (returned : t.run env db = .ok (out, db')) : Truthful db db' ↔ t.appliesLate db = false := by
  constructor
  · intro truthful
    by_contra applies
    rw [Bool.not_eq_false] at applies
    cases t with
    | apply rowId now =>
        obtain ⟨e, payment, t, pending, looked, captured, fresh, late⟩ :=
          appliesLate_apply.mp applies
        obtain ⟨d, fields, here, unprocessed, read, supported⟩ := pendingEvent_iff.mp pending
        obtain ⟨bookings, -, log, events, -⟩ := findPayment_rest looked
        simp only [run, Tx.bind_ok, Tx.pure_ok] at returned
        obtain ⟨_, _, ran, -, rfl⟩ := returned
        rcases applyInTransaction_ok ran with ⟨-, -, processed⟩ | ⟨d', fields', here', -, read',
          rest⟩
        · exact processed d here unprocessed
        · cases here.symm.trans here'
          cases read.symm.trans read'
          rcases rest with ⟨unsupported, -, -⟩ | ⟨e', verdict, u, supported', event, settled⟩
          · rw [supported] at unsupported
            cases unsupported
          · cases supported.symm.trans supported'
            obtain ⟨-, rfl⟩ := settleDelivery_ok.mp settled
            obtain ⟨found, t', looked', outcome⟩ := applyEvent_ok event
            cases looked.symm.trans looked'
            rcases outcome with ⟨missing, -, -⟩ | ⟨-, -, -, taken⟩ | ⟨payment', r, same, -, applied⟩
            · cases missing
            · rw [events] at taken
              exact fresh taken
            · cases same
              exact applied.untruthful captured ((lateFor_congr bookings payment now).trans late)
                (truthful.congr log.symm rfl rfl)
    | settleCharge payment chargeId captured now =>
        obtain ⟨rfl, fresh, late⟩ := appliesLate_settleCharge.mp applies
        simp only [run, Tx.bind_ok, Tx.pure_ok] at returned
        obtain ⟨_, _, ran, -, rfl⟩ := returned
        rcases settleCharge_ok ran with ⟨-, -, taken⟩ | ⟨r, -, applied⟩
        · exact fresh taken
        · exact applied.untruthful rfl late truthful
    | _ => cases applies
  · exact fun timely => (run_effect returned).truthful timely

/-! ## Runs -/

/-- A commit writes the moves of a booking before its self-edges. -/
theorem BookingChange.movesFirst {env : Env} {db db' : Db} {t : Txn} {ids : List Uuid}
    (change : BookingChange env db db' t ids) :
    ∃ moved self, db'.auditEvents = db.auditEvents ++ (moved ++ self) ∧
      (∀ row ∈ moved, row.fromState ≠ row.toState) ∧ selfEdges self := by
  cases change with
  | idle _ rows _ _ log self => exact ⟨[], rows, by rw [log, List.nil_append], by simp, self⟩
  | moved _ id b f target actor reason rows _ _ step _ _ _ _ log self =>
      refine ⟨[⟨id, actor, b.status, target, reason⟩], rows, log, ?_, self⟩
      intro row here same
      rw [List.mem_singleton] at here
      subst here
      have loop : target ∈ legalTransitions target := by
        have same : b.status = target := same
        rwa [same] at step
      revert loop
      cases target <;> decide
  | rearmed bookingId _ booking b now actor _ _ _ _ _ _ _ log =>
      exact ⟨[], _, by rw [log, List.nil_append], by simp, by simp [selfEdges]⟩
  | expired _ ids now reason _ _ same =>
      obtain ⟨-, -, log⟩ := same
      refine ⟨_, [], by rw [log, Db.expire_auditEvents, List.append_nil], ?_, by simp [selfEdges]⟩
      intro row here
      obtain ⟨id, -, rfl⟩ := List.mem_map.mp here
      rintro ⟨⟩
  | held input ctx principal stamp expired priced bookings _ _ _ _ _ same =>
      obtain ⟨-, -, log⟩ := same
      refine ⟨_, [], by rw [log, Db.hold_auditEvents, expiredView, Db.expire_auditEvents,
        List.append_assoc, List.append_nil], ?_, by simp [selfEdges]⟩
      intro row here
      simp only [List.mem_append, List.mem_map, List.mem_singleton] at here
      rcases here with ⟨id, -, rfl⟩ | rfl <;> rintro ⟨⟩

/-- Rows true of the committed database are true of the log before them. -/
theorem Truthful.eachAfter {db db' : Db} {moved self : List AuditEvent}
    (truthful : Truthful db db') (audited : Audited db')
    (log : db'.auditEvents = db.auditEvents ++ (moved ++ self))
    (changes : ∀ row ∈ moved, row.fromState ≠ row.toState) (selfs : selfEdges self) :
    EachAfter (fun before => trueRow (db.auditEvents ++ before)) (moved ++ self) := by
  obtain ⟨rows, log', holds⟩ := truthful
  rw [log, List.append_cancel_left_eq] at log'
  subst log'
  intro before row after split same
  have here : row ∈ moved ++ self := by simp [split]
  rw [holds row here same, ← statusAfter_eq audited, log]
  rcases List.append_eq_append_iff.mp split with ⟨extra, rfl, inside⟩ | ⟨extra, inside, behind⟩
  · -- The row is among the self-edges: no move of the commit lies behind it.
    have earlier : movesIn extra row.bookingId = [] :=
      movesIn_selfEdges (fun r r_here => selfs r (inside ▸ List.mem_append_left _ r_here)) _
    have all : movesIn self row.bookingId = [] := movesIn_selfEdges selfs _
    simp only [statusAfter, movesIn_append, earlier, all]
  · cases extra with
    | nil =>
        have none_behind : movesIn self row.bookingId = [] := movesIn_selfEdges selfs _
        rw [List.append_nil] at inside
        subst inside
        simp only [statusAfter, movesIn_append, none_behind, List.append_nil]
    | cons first extra =>
        obtain ⟨rfl, -⟩ := List.cons_eq_cons.mp behind
        exact absurd same (changes row (by simp [inside]))

theorem step_truthful {env : Env} {a : Action} {api api' : Api}
    (stepped : step env a api = some api') (punctual : onTime a api) :
    Truthful api.db api'.db := by
  cases step_cases stepped with
  | committed c out db' commits free ran =>
      have timely : c.txn.appliesLate api.db = false := by
        simpa [onTime, commits] using punctual
      have holds := (Txn.run_effect ran).truthful timely
      exact holds.congr rfl (by simp) (by simp)
  | aborted => exact .of_same (by simp)
  | unshared _ moved => exact .of_same (by rw [moved.db])

theorem step_trueRows {env : Env} {a : Action} {api api' : Api} (claimed : RowsClaimed api)
    (audited : Audited api.db) (stepped : step env a api = some api') (punctual : onTime a api)
    (holds : EachAfter trueRow api.db.auditEvents) : EachAfter trueRow api'.db.auditEvents := by
  have truthful := step_truthful stepped punctual
  have audited' := step_audited claimed stepped audited
  rcases step_bookings claimed stepped with same | ⟨_, _, _, -, -, change⟩
  · rw [same]
    exact holds
  · obtain ⟨moved, self, log, changes, selfs⟩ := change.movesFirst
    have added := truthful.eachAfter audited' log changes selfs
    rw [log]
    exact holds.append added

/-- **Self-edges are true** of every run no step of which applies a late charge: each
records the state of its booking where it stands in the log, and each step adds rows
that record the state it commits. -/
theorem self_edges_true {env : Env} {now : Instant} {db : Db} (fresh : db.Fresh) {api : Api}
    (reached : ReachableAlong (step env) onTime (Api.start now db) api) :
    EachAfter trueRow api.db.auditEvents ∧
      ∀ a api', onTime a api → step env a api = some api' → Truthful api.db api'.db := by
  refine ⟨?_, fun a api' punctual stepped => step_truthful stepped punctual⟩
  have start : EachAfter trueRow (Api.start now db).db.auditEvents := by
    have empty : (Api.start now db).db.auditEvents = [] := fresh.2.2.2.2.2
    rw [empty]
    exact .nil
  have safe := reached.invariant
    (I := fun api => (RowsClaimed api ∧ Audited api.db) ∧ EachAfter trueRow api.db.auditEvents)
    ⟨⟨RowsClaimed.start now db, fresh.audited⟩, start⟩
    fun a api api' stepped punctual holds =>
      ⟨⟨step_claimed a api api' stepped holds.1.1, step_audited holds.1.1 stepped holds.1.2⟩,
        step_trueRows holds.1.1 holds.1.2 stepped punctual holds.2⟩
  exact safe.2

/-- A hold paid for in time and cancelled, with the start of its refund. -/
def refundedInTime : List Action :=
  Sample.holding 0 Sample.hold 7 0 ++ Sample.paying 1 (Uuid.path 7) 8 "ch" 0 ++
    [.deliver (Sample.webhook "d" "ch" .chargeSucceeded) 9 0, .apply 2 9 0,
      .cancel 3 (Uuid.path 7) "changed plans" Sample.customer 0, .settleCancellation 3 8 0]

theorem self_edges_true_refunded : ∃ api,
    run (step .default) refundedInTime (Api.start 0 Sample.db) = some api ∧
      Along (step .default) onTime refundedInTime (Api.start 0 Sample.db) ∧
      api.db.auditEvents.getLast? = some
        ⟨7, systemActor, .cancelled, .cancelled, "refund.initiated.cancellation"⟩ ∧
      EachAfter trueRow api.db.auditEvents := by
  have ran : ((run (step .default) refundedInTime (Api.start 0 Sample.db)).map fun api =>
      api.db.auditEvents.getLast?) = some (some
        ⟨7, systemActor, .cancelled, .cancelled, "refund.initiated.cancellation"⟩) := by
    decide +kernel
  have along : Along (step .default) onTime refundedInTime (Api.start 0 Sample.db) := by
    decide +kernel
  obtain ⟨api, ran, last⟩ := Option.map_eq_some_iff.mp ran
  exact ⟨api, ran, along, last, (self_edges_true Sample.db_fresh ⟨refundedInTime, ran, along⟩).1⟩

/-- The charge of a hold, captured after its deadline. -/
def capturedLate : List Action :=
  Sample.holding 0 Sample.hold 7 0 ++ Sample.paying 1 (Uuid.path 7) 8 "ch" 0 ++
    [.tick 480000, .deliver (Sample.webhook "d" "ch" .chargeSucceeded) 9 480000, .apply 2 9 480000]

/-- **A false row**: the refund of the late charge is recorded from PENDING_PAYMENT to
PENDING_PAYMENT on a booking that the row before it moved to EXPIRED. -/
theorem self_edge_false : ∃ api,
    run (step .default) capturedLate (Api.start 0 Sample.db) = some api ∧
      statusOf api.db 7 = .expired ∧ ¬ EachAfter trueRow api.db.auditEvents := by
  have ran : ((run (step .default) capturedLate (Api.start 0 Sample.db)).map fun api =>
      (statusOf api.db 7, api.db.auditEvents.map fun row => (row.fromState, row.toState),
        api.db.auditEvents.getLast?, statusAfter api.db.auditEvents.dropLast 7)) =
      some (.expired, [(.draft, .held), (.held, .pendingPayment), (.pendingPayment, .expired),
        (.pendingPayment, .pendingPayment)],
        some ⟨7, systemActor, .pendingPayment, .pendingPayment,
          "refund.initiated.unconfirmable_hold"⟩, .expired) := by
    decide +kernel
  obtain ⟨api, ran, seen⟩ := Option.map_eq_some_iff.mp ran
  simp only [Prod.mk.injEq] at seen
  obtain ⟨status, -, last, before⟩ := seen
  refine ⟨api, ran, status, fun holds => ?_⟩
  have split : api.db.auditEvents = api.db.auditEvents.dropLast ++
      [⟨7, systemActor, .pendingPayment, .pendingPayment, "refund.initiated.unconfirmable_hold"⟩] :=
    (List.dropLast_append_getLast? _ last).symm
  have said := holds _ _ [] split rfl
  rw [before] at said
  cases said

end Atrium
