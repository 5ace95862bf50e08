/-
# Drain -- every delivery that can be settled is applied in turn

A tick of the webhook processor elects the `drainBatchSize` oldest deliveries that are due,
by `received_at`, and applies them one after the other; the other replicas' ticks, the kicks
and every other request come between.  A delivery is due until its transaction has said what
became of it, so it is never lost.  One that can be settled does not abort (`Applying`), so
in the order of their arrival a hundred such are applied a tick (`drain_applies`): later
arrivals, however many, hold no earlier one up.

A delivery that finds no payment stays due and keeps its place.  A hundred of them, older
than the rest, are elected at every tick (`drain_stalls`).
-/
import Atrium.Base.Queue
import Atrium.Applying

namespace Atrium

open Atrium.Base

set_option autoImplicit false

/-! ## The queue -/

/-- `BATCH_SIZE` -/
def drainBatchSize : Nat := 100

def byReceipt (d d' : Uuid × WebhookDelivery) : Prop := d.2.receivedAt ≤ d'.2.receivedAt

instance : DecidableRel byReceipt := fun _ _ => inferInstanceAs (Decidable (_ ≤ _))

instance : Std.Total byReceipt := ⟨fun d d' => le_total d.2.receivedAt d'.2.receivedAt⟩

instance : IsTrans (Uuid × WebhookDelivery) byReceipt := ⟨fun _ _ _ => le_trans⟩

/-- The due rows, oldest first. -/
def queuedRows (db : Db) : List (Uuid × WebhookDelivery) :=
  (db.webhookDeliveries.select fun _ d => drainable d).insertionSort byReceipt

def queuedDeliveries (db : Db) : List Uuid := (queuedRows db).map Prod.fst

/-- The due deliveries that were received before an instant. -/
def dueBefore (received : Instant) (db : Db) : List Uuid :=
  ((queuedRows db).filter fun row => decide (row.2.receivedAt < received)).map Prod.fst

/-- The delivery a worker tries in this step. -/
def Action.drains (worker : Pid) : Action → Option Uuid
  | .apply pid rowId _ => if pid = worker then some rowId else none
  | _ => none

/-- Ticks of one worker, each up to the end of its last delivery's transaction, in runs
whose every step meets `C`. -/
def Ticks (env : Env) (worker : Pid) (C : Action → Api → Prop) : Nat → Api → Api → Prop :=
  Rounds (step env) (fun api => queuedDeliveries api.db) (Action.drains worker) drainBatchSize C

theorem mem_queuedRows {db : Db} {rowId : Uuid} {d : WebhookDelivery} :
    (rowId, d) ∈ queuedRows db ↔ db.webhookDeliveries.get? rowId = some d ∧ drainable d = true := by
  rw [queuedRows, List.mem_insertionSort, Table.mem_select]

theorem mem_dueBefore {received : Instant} {db : Db} {rowId : Uuid} :
    rowId ∈ dueBefore received db ↔ ∃ d, db.webhookDeliveries.get? rowId = some d ∧
      drainable d = true ∧ d.receivedAt < received := by
  simp only [dueBefore, List.mem_map, List.mem_filter, Prod.exists, mem_queuedRows,
    decide_eq_true_eq]
  constructor
  · rintro ⟨_, d, ⟨⟨here, due⟩, before⟩, rfl⟩
    exact ⟨d, here, due, before⟩
  · rintro ⟨d, here, due, before⟩
    exact ⟨rowId, d, ⟨⟨here, due⟩, before⟩, rfl⟩

theorem queuedRows_sorted (db : Db) : (queuedRows db).Pairwise byReceipt :=
  List.pairwise_insertionSort byReceipt _

theorem queuedRows_nodup (db : Db) : ((queuedRows db).map Prod.fst).Nodup := by
  refine (((List.perm_insertionSort byReceipt _).map Prod.fst).nodup_iff).mpr ?_
  exact db.webhookDeliveries.unique.sublist (List.filter_sublist.map Prod.fst)

theorem dueBefore_nodup (received : Instant) (db : Db) : (dueBefore received db).Nodup :=
  (queuedRows_nodup db).sublist (List.filter_sublist.map Prod.fst)

/-- The rows of a sorted list that lie before an instant come first. -/
theorem filter_initial {rows : List (Uuid × WebhookDelivery)} (sorted : rows.Pairwise byReceipt)
    (received : Instant) :
    rows.filter (fun row => decide (row.2.receivedAt < received)) <+: rows := by
  induction rows with
  | nil => exact List.prefix_rfl
  | cons row rows ih =>
      obtain ⟨first, sorted⟩ := List.pairwise_cons.mp sorted
      by_cases before : row.2.receivedAt < received
      · rw [List.filter_cons_of_pos (by simpa using before)]
        exact List.cons_prefix_cons.mpr ⟨rfl, ih sorted⟩
      · have none_ : (row :: rows).filter (fun row => decide (row.2.receivedAt < received)) = [] := by
          refine List.filter_eq_nil_iff.mpr fun row' among => ?_
          rcases List.mem_cons.mp among with rfl | among
          · simpa using before
          · have later : row.2.receivedAt ≤ row'.2.receivedAt := first row' among
            simpa using (not_lt.mp before).trans later
        rw [none_]
        exact List.nil_prefix

theorem dueBefore_prefix (received : Instant) (db : Db) :
    dueBefore received db <+: queuedDeliveries db :=
  (filter_initial (queuedRows_sorted db) received).map Prod.fst

/-! ## What a transaction does to the deliveries -/

/-- What an update leaves of a delivery. -/
structure WebhookDelivery.Keeps (d d' : WebhookDelivery) : Prop where
  body : d'.rawBody = d.rawBody
  receipt : d'.receivedAt = d.receivedAt
  signature : d'.signatureValid = d.signatureValid
  done : d.processedAt ≠ none → d'.processedAt ≠ none

theorem WebhookDelivery.Keeps.refl (d : WebhookDelivery) : d.Keeps d :=
  ⟨rfl, rfl, rfl, fun done => done⟩

theorem WebhookDelivery.Keeps.trans {d d' d'' : WebhookDelivery} (first : d.Keeps d')
    (second : d'.Keeps d'') : d.Keeps d'' :=
  ⟨second.body.trans first.body, second.receipt.trans first.receipt,
    second.signature.trans first.signature, fun done => second.done (first.done done)⟩

/-- How a transaction leaves the deliveries: as they were, with its own request's row, or
with what it says of one that was due. -/
inductive DeliveriesMoved (db db' : Db) : Txn → Prop
  | same (t : Txn) : db'.webhookDeliveries = db.webhookDeliveries → DeliveriesMoved db db' t
  | recorded (request : WebhookRequest) (rowId : Uuid) (now : Instant) (error : Option String)
      (processed : Bool) :
      db.webhookDeliveries.insert? rowId (deliveryRow request (signedFields request) error processed
        now) = some db'.webhookDeliveries →
      (request.signed = true → processed = false → ∃ body fields,
        request.body = some body ∧ readFields body = some fields) →
      DeliveriesMoved db db' (.deliver request rowId now)
  | ruled (rowId : Uuid) (now : Instant) (f : WebhookDelivery → WebhookDelivery) :
      (∀ d, WebhookDelivery.Keeps d (f d)) →
      db'.webhookDeliveries = db.webhookDeliveries.modify rowId f →
      DeliveriesMoved db db' (.apply rowId now)

theorem settledRow_keeps (e : WebhookEvent) (now : Instant) (verdict : Verdict)
    (d : WebhookDelivery) : d.Keeps (settledRow e now verdict d) := by
  cases verdict with
  | unknownCharge => exact ⟨rfl, rfl, rfl, fun done => done⟩
  | duplicateEffect => exact ⟨rfl, rfl, rfl, fun _ => Option.some_ne_none now⟩
  | applied => exact ⟨rfl, rfl, rfl, fun _ => Option.some_ne_none now⟩

theorem Effect.deliveriesMoved {env : Env} {t : Txn} {db db' : Db} {out : Outcome}
    (effect : Effect env t db db' out) : DeliveriesMoved db db' t := by
  cases effect with
  | delivered request rowId now _ error processed deliveries inserted read =>
      exact .recorded request rowId now error processed inserted read
  | unsupported rowId now =>
      exact .ruled rowId now
        (fun d => { d with processedAt := some now, error := some "unsupported_event" })
        (fun d => ⟨rfl, rfl, rfl, fun _ => Option.some_ne_none now⟩) rfl
  | lost rowId now _ u d fields e found verdict _ _ _ _ looked =>
      refine .ruled rowId now _ (settledRow_keeps e now verdict) ?_
      rw [Db.modifyDelivery_webhookDeliveries, (findPayment_events looked).2]
  | applied rowId now _ u v d fields e payment r _ _ _ _ looked applied =>
      refine .ruled rowId now _ (settledRow_keeps e now (.applied r)) ?_
      rw [Db.modifyDelivery_webhookDeliveries, applied.consequence.events.2,
        Db.claim_webhookDeliveries, (findPayment_events looked).2]
  | polledCharge payment chargeId captured now _ _ r applied =>
      exact .same _ applied.consequence.events.2
  | polledRefund payment chargeId refundId amountMinor now _ _ applied =>
      exact .same _ applied.consequence.events.2
  | paid bookingId principal booking existing stamp _ recorded _ payment inserted found moved =>
      exact .same _ ((@Effect.paid env bookingId principal booking existing stamp db recorded db'
        payment inserted found moved).own_events rfl).2
  | _ => exact .same _ rfl

/-- The row of a delivery that comes in is of this instant or a later one. -/
def Action.ArrivesAfter (received : Instant) : Action → Prop
  | .deliver _ _ now => received ≤ now
  | _ => True

instance (received : Instant) (a : Action) : Decidable (a.ArrivesAfter received) := by
  unfold Action.ArrivesAfter
  split <;> infer_instance

/-- A delivery that is due, of before this instant, was due. -/
theorem DeliveriesMoved.due {t : Txn} {db db' : Db} (moved : DeliveriesMoved db db' t)
    {received : Instant} (late : ∀ request rowId now, t = .deliver request rowId now → received ≤ now)
    {rowId : Uuid} {d' : WebhookDelivery} (here' : db'.webhookDeliveries.get? rowId = some d')
    (due : drainable d' = true) (before : d'.receivedAt < received) :
    ∃ d, db.webhookDeliveries.get? rowId = some d ∧ d.Keeps d' ∧ drainable d = true ∧
      d.receivedAt < received := by
  cases moved with
  | same _ same => exact ⟨d', same ▸ here', .refl d', due, before⟩
  | recorded request rowId' now error processed inserted =>
      rw [Table.get?_insert? inserted] at here'
      split_ifs at here'
      · cases here'
        exact absurd before (not_lt.mpr (late request rowId' now rfl))
      · exact ⟨d', here', .refl d', due, before⟩
  | ruled rowId' now f keeps updated =>
      rw [updated] at here'
      obtain ⟨d, here, same⟩ := Table.get?_modify_some.mp here'
      have keeps' : d.Keeps d' := by
        split_ifs at same
        · exact same ▸ keeps d
        · exact same ▸ .refl d'
      refine ⟨d, here, keeps', ?_, keeps'.receipt ▸ before⟩
      simp only [drainable, Bool.and_eq_true, Option.isNone_iff_eq_none] at due ⊢
      exact ⟨not_not.mp fun done => keeps'.done done due.1, keeps'.signature ▸ due.2⟩

/-! ## What the drain rests on -/

/-- A delivery that is due can be read. -/
def DueReadable (db : Db) : Prop :=
  ∀ rowId d, db.webhookDeliveries.get? rowId = some d → drainable d = true →
    (deliveryFields d).isSome

theorem DeliveriesMoved.readable {t : Txn} {db db' : Db} (moved : DeliveriesMoved db db' t)
    (readable : DueReadable db) : DueReadable db' := by
  cases moved with
  | same _ same => exact fun rowId d here => readable rowId d (same ▸ here)
  | recorded request rowId' now error processed inserted read =>
      intro rowId d here due
      rw [Table.get?_insert? inserted] at here
      split_ifs at here
      · cases here
        simp only [drainable, deliveryRow, Bool.and_eq_true, Option.isNone_iff_eq_none] at due
        obtain ⟨unprocessed, signed⟩ := due
        obtain ⟨body, fields, parsed, said⟩ := read signed (by simpa using unprocessed)
        simp [deliveryFields, deliveryRow, parsed, said]
      · exact readable rowId d here due
  | ruled rowId' now f keeps updated =>
      intro rowId d' here due
      rw [updated] at here
      obtain ⟨d, stored, same⟩ := Table.get?_modify_some.mp here
      split_ifs at same
      · subst same
        have keeps := keeps d
        unfold deliveryFields
        rw [keeps.body]
        refine readable rowId d stored ?_
        simp only [drainable, Bool.and_eq_true, Option.isNone_iff_eq_none] at due ⊢
        exact ⟨not_not.mp fun done => keeps.done done due.1, keeps.signature ▸ due.2⟩
      · subst same
        exact readable rowId d stored due

theorem Consequence.samePolicies {payment : Uuid × Payment} {e : WebhookEvent} {now : Instant}
    {db db' : Db} {r : Option RefundInstruction} (consequence : Consequence payment e now db r db') :
    db'.cancellationPolicies = db.cancellationPolicies := by
  cases consequence with
  | late b =>
      by_cases pending : b.status = .pendingPayment <;> simp [lateCharge, pending]
  | _ => rfl

theorem Effect.samePolicies {env : Env} {t : Txn} {db db' : Db} {out : Outcome}
    (effect : Effect env t db db' out)
    (other : ∀ id venueId tiers now, t ≠ .addPolicy id venueId tiers now) :
    db'.cancellationPolicies = db.cancellationPolicies := by
  have looks : ∀ {e : WebhookEvent} {now : Instant} {u : Db} {r : Option (Uuid × Payment)},
      findPayment e now db = .ok (r, u) → u.cancellationPolicies = db.cancellationPolicies := by
    intro e now u r looked
    rcases findPayment_ok looked with ⟨-, rfl, -⟩ | ⟨_, -, rfl, -⟩ | ⟨_, _, -, -, -, -, -, -, rfl⟩ <;>
      rfl
  cases effect with
  | policyAdded id venueId tiers now => exact absurd rfl (other id venueId tiers now)
  | paid bookingId principal booking existing stamp _ recorded _ payment inserted found moved =>
      rcases inserted with ⟨-, rfl⟩ | ⟨-, _, -, rfl⟩ <;>
        rcases moved with ⟨-, -, -, rfl⟩ | ⟨-, rfl⟩ <;> rfl
  | lost rowId now _ u d fields e found verdict _ _ _ _ looked =>
      show u.cancellationPolicies = _
      exact looks looked
  | applied rowId now _ u v d fields e payment r _ _ _ _ looked applied =>
      have same : v.cancellationPolicies = u.cancellationPolicies :=
        applied.consequence.samePolicies
      exact same.trans (looks looked)
  | polledCharge payment chargeId captured now _ _ r applied =>
      exact applied.consequence.samePolicies
  | polledRefund payment chargeId refundId amountMinor now _ _ applied =>
      exact applied.consequence.samePolicies
  | _ => rfl

/-- A policy is validated before it is written. -/
theorem PolicyReady.run {env : Env} {t : Txn} {db db' : Db} {out : Outcome}
    (ran : t.run env db = .ok (out, db')) (ready : PolicyReady db) : PolicyReady db' := by
  cases t with
  | addPolicy id venueId tiers now =>
      simp only [Txn.run, addPolicy, Tx.bind_ok, Tx.fetch_ok, Tx.write_ok, Tx.pure_ok] at ran
      obtain ⟨_, _, ⟨policies, _, ⟨inserted, rfl⟩, rfl⟩, -, rfl⟩ := ran
      constructor
      · obtain ⟨id', p, here, platform⟩ := ready.platform
        refine ⟨id', p, ?_, platform⟩
        rw [Table.get?_insert? inserted, if_neg ?_]
        · exact here
        · rintro rfl
          rw [(Table.insert?_some inserted).1] at here
          cases here
      · intro id' p here
        rw [Table.get?_insert? inserted] at here
        split_ifs at here
        · cases here
          rw [Tiers.ofJson_toJson]
          rfl
        · exact ready.read id' p here
  | _ => exact ready.of_eq ((Txn.run_effect ran).samePolicies (by rintro id venueId tiers now ⟨⟩))

/-- The deliveries of a database are kept in another. -/
def DeliveriesKept (db db' : Db) : Prop :=
  ∀ rowId d, db.webhookDeliveries.get? rowId = some d →
    ∃ d', db'.webhookDeliveries.get? rowId = some d' ∧ d.Keeps d'

theorem DeliveriesMoved.kept {t : Txn} {db db' : Db} (moved : DeliveriesMoved db db' t) :
    DeliveriesKept db db' := by
  intro rowId d here
  cases moved with
  | same _ same => exact ⟨d, same ▸ here, .refl d⟩
  | recorded request rowId' now error processed inserted =>
      refine ⟨d, ?_, .refl d⟩
      rw [Table.get?_insert? inserted, if_neg ?_]
      · exact here
      · rintro rfl
        rw [(Table.insert?_some inserted).1] at here
        cases here
  | ruled rowId' now f keeps updated =>
      rw [updated, Table.get?_modify, here]
      by_cases own : rowId = rowId'
      · exact ⟨f d, by simp [own], keeps d⟩
      · exact ⟨d, by simp [own], .refl d⟩

/-! ## The drain's own invariant -/

/-- A payment has this charge id. -/
def Charged (db : Db) (chargeId : String) : Prop :=
  ∃ id p, db.payments.get? id = some p ∧ p.chargeId = some chargeId

/-- The events due before an instant name their payment, or their charge has one. -/
def Named (received : Instant) (db : Db) : Prop :=
  ∀ rowId ∈ dueBefore received db, ∀ e, pendingEvent db rowId = some e →
    e.reference ≠ none ∨ Charged db e.chargeId

/-- What the drain rests on, in every state of a run the provider keeps its word in. -/
structure Drainable (w : Provider) (api : Api) : Prop where
  kept : Kept w api
  backed : Backed api.db
  referenced : Referenced api.db
  ready : PolicyReady api.db
  readable : DueReadable api.db
  settled : DeliveriesSettled api.db

namespace Drainable

variable {w : Provider} {env : Env} {a : Action} {api api' : Api}

theorem start {db : Db} (fresh : db.Fresh) (ready : PolicyReady db) (now : Instant) :
    Drainable w (Api.start now db) := by
  obtain ⟨-, -, payments, -, deliveries, -⟩ := id fresh
  refine ⟨.start fresh now, ?_, ?_, ready, ?_, ?_⟩
  · intro id p here
    simp [Api.start, payments] at here
  · intro id p here
    simp [Api.start, payments] at here
  · intro rowId d here
    simp [Api.start, deliveries] at here
  · intro rowId d here
    simp [Api.start, deliveries] at here

theorem step (stepped : step env a api = some api') (keeps : w.Keeps a api)
    (drainable : Drainable w api) : Drainable w api' := by
  have kept := step_kept stepped keeps drainable.kept
  have settled := step_deliveriesSettled a api api' stepped drainable.settled
  cases step_cases stepped with
  | committed c out db' enabled free ran =>
      have effect := Txn.run_effect ran
      have bound := (commit_cases enabled).pollBound drainable.kept.tied.gated.polls
      refine ⟨kept, ?_, ?_, ?_, ?_, settled⟩ <;> rw [Api.resume_db]
      · exact effect.backed bound drainable.backed
      · exact effect.referenced bound drainable.referenced
      · exact drainable.ready.run ran
      · exact effect.deliveriesMoved.readable drainable.readable
  | aborted c e enabled ran =>
      refine ⟨kept, ?_, ?_, ?_, ?_, settled⟩ <;> rw [Api.resume_db]
      · exact drainable.backed
      · exact drainable.referenced
      · exact drainable.ready
      · exact drainable.readable
  | unshared _ moved =>
      refine ⟨kept, ?_, ?_, ?_, ?_, settled⟩ <;> rw [moved.db]
      · exact drainable.backed
      · exact drainable.referenced
      · exact drainable.ready
      · exact drainable.readable

theorem applies (drainable : Drainable w api) : Applies w api.db where
  named := drainable.kept.keyNamed drainable.backed
  referenced := drainable.referenced
  booked := fun id p here =>
    let ⟨b, booked, _⟩ := drainable.kept.vouched.booked.priced id p here
    ⟨b, booked⟩
  ready := drainable.ready

/-- An event that is due can be settled, where it names its payment. -/
theorem settleable (drainable : Drainable w api) {rowId : Uuid} {e : WebhookEvent}
    (pending : pendingEvent api.db rowId = some e)
    (named : e.reference ≠ none ∨ Charged api.db e.chargeId) : Settleable w api.db e := by
  have linked := drainable.kept.tied.linked
  have emits := linked.due rowId e pending
  obtain ⟨reference, told⟩ := linked.told emits
  obtain ⟨⟨r, sent, own, -⟩, -⟩ := emits
  obtain ⟨id, -, p, here, key, -⟩ := linked.sent r sent
  have own : e.chargeId = w.chargeId p.idempotencyKey := by rw [own, key]
  refine ⟨⟨id, p, here, own, ?_⟩, reference, fun name => ((told id p here own).refunded name).2.1⟩
  rcases named with named | ⟨id', p', there, charge⟩
  · exact .inr named
  · left
    have key' := (linked.ledgered.rows id' p' there).charge _ charge
    obtain rfl := linked.ledgered.keys id' p' id p _ there here rfl
      (congrArg some (w.chargeId_injective (own.symm.trans key')))
    cases here.symm.trans there
    rw [charge]
    exact Option.some_ne_none _

/-- **A try of a delivery that names its payment processes it.** -/
theorem applied (drainable : Drainable w api) {pid : Pid} {rowId : Uuid} {now : Instant}
    (stepped : Atrium.step env (.apply pid rowId now) api = some api') {d : WebhookDelivery}
    (here : api.db.webhookDeliveries.get? rowId = some d) (due : Atrium.drainable d = true)
    (named : ∀ e, pendingEvent api.db rowId = some e →
      e.reference ≠ none ∨ Charged api.db e.chargeId) :
    ∃ d', api'.db.webhookDeliveries.get? rowId = some d' ∧ d'.processedAt ≠ none := by
  simp only [Atrium.drainable, Bool.and_eq_true, Option.isNone_iff_eq_none] at due
  obtain ⟨fields, read⟩ := Option.isSome_iff_exists.mp
    (drainable.readable rowId d here (by simp [Atrium.drainable, due]))
  have settleable : ∀ e, fields.supported = some e → Settleable w api.db e := fun e supported =>
    have pending := pendingEvent_iff.mpr ⟨d, fields, here, due.1, read, supported⟩
    drainable.settleable pending (named e pending)
  obtain ⟨⟨r, t⟩, ran⟩ := applyInTransaction_runs drainable.applies here read
    (fun _ => settleable) now
  cases step_cases stepped with
  | committed c out db' enabled free ran' =>
      cases commit_cases enabled with
      | apply _ _ _ =>
          simp only [Txn.run, Tx.bind_ok, Tx.pure_ok] at ran'
          obtain ⟨r', t', returned, -, rfl⟩ := ran'
          cases ran.symm.trans returned
          rw [Api.resume_db]
          rcases applyInTransaction_ok ran with ⟨-, -, done⟩ | ⟨d', fields', here', -, read',
            ⟨-, -, rfl⟩ | ⟨e, verdict, u, supported, event, settled⟩⟩
          · exact absurd due.1 (done d here)
          · rw [Db.modifyDelivery_webhookDeliveries, Table.get?_modify_self, here]
            exact ⟨_, rfl, Option.some_ne_none now⟩
          · cases here.symm.trans here'
            cases read.symm.trans read'
            obtain ⟨found, v, looked, verdict_⟩ := applyEvent_ok event
            obtain ⟨payment, v', looked'⟩ := findPayment_runs drainable.applies
              (settleable e supported) now
            cases looked.symm.trans looked'
            have same : u.webhookDeliveries = api.db.webhookDeliveries := by
              rcases verdict_ with ⟨missing, -⟩ | ⟨-, -, rfl, -⟩ | ⟨_, _, -, -, applied⟩
              · cases missing
              · exact (findPayment_events looked).2
              · exact applied.consequence.events.2.trans (findPayment_events looked).2
            have done : ∀ d, (settledRow e now verdict d).processedAt ≠ none := by
              rcases verdict_ with ⟨missing, -⟩ | ⟨-, rfl, -⟩ | ⟨_, _, -, rfl, -⟩
              · cases missing
              · exact fun _ => Option.some_ne_none now
              · exact fun _ => Option.some_ne_none now
            obtain ⟨-, rfl⟩ := settleDelivery_ok.mp settled
            rw [Db.modifyDelivery_webhookDeliveries, same, Table.get?_modify_self, here]
            exact ⟨_, rfl, done d⟩
  | aborted c e enabled ran' =>
      cases commit_cases enabled with
      | apply _ _ _ =>
          have returned : (Txn.apply rowId now).run env api.db = .ok (refundOutcome r, t) :=
            Tx.bind_of_ok ran
          rw [returned] at ran'
          cases ran'
  | unshared _ _ quiet =>
      have stuck : Atrium.step env (.apply pid rowId now) api = none := by
        rw [Atrium.step, quiet]
        rfl
      rw [stuck] at stepped
      cases stepped

end Drainable

/-! ## Ticks -/

/-- A step of the runs below: the provider keeps its word, and what comes in is received
at this instant or later. -/
def Arriving (w : Provider) (received : Instant) (a : Action) (api : Api) : Prop :=
  w.Keeps a api ∧ a.ArrivesAfter received

instance (w : Provider) (received : Instant) (a : Action) (api : Api) :
    Decidable (Arriving w received a api) :=
  inferInstanceAs (Decidable (_ ∧ _))

section Ticks

variable {w : Provider} {env : Env} {received : Instant} {a : Action} {api api' : Api}

/-- A step leaves no delivery of before this instant due that was not. -/
theorem step_dueBefore (stepped : step env a api = some api') (late : a.ArrivesAfter received)
    {rowId : Uuid} {d' : WebhookDelivery} (here' : api'.db.webhookDeliveries.get? rowId = some d')
    (due : drainable d' = true) (before : d'.receivedAt < received) :
    ∃ d, api.db.webhookDeliveries.get? rowId = some d ∧ d.Keeps d' ∧ drainable d = true ∧
      d.receivedAt < received := by
  rcases step_db stepped with same | ⟨c, out, commits, -, effect⟩
  · exact ⟨d', same ▸ here', .refl d', due, before⟩
  · refine effect.deliveriesMoved.due (fun request rowId now own => ?_) here' due before
    cases commits with
    | deliver request' rowId' now' =>
        cases own
        exact late
    | _ => cases own

theorem Named.step (stepped : Atrium.step env a api = some api') (late : a.ArrivesAfter received)
    (gated : Gated api) (named : Named received api.db) : Named received api'.db := by
  intro rowId waits e pending
  obtain ⟨d', here', due, before⟩ := mem_dueBefore.mp waits
  obtain ⟨d, here, keeps, due', before'⟩ := step_dueBefore stepped late here' due before
  obtain ⟨_, fields, there, unprocessed, read, supported⟩ := pendingEvent_iff.mp pending
  cases here'.symm.trans there
  have was : pendingEvent api.db rowId = some e := by
    refine pendingEvent_iff.mpr ⟨d, fields, here, ?_, ?_, supported⟩
    · simpa [drainable] using (Bool.and_eq_true_iff.mp due').1
    · rw [← read, deliveryFields, deliveryFields, keeps.body]
  refine (named rowId (mem_dueBefore.mpr ⟨d, here, due', before'⟩) e was).imp_right ?_
  rintro ⟨id, p, stored, charge⟩
  obtain ⟨p', stored', keeps⟩ := step_paymentsKept gated.polls stepped id p stored
  exact ⟨id, p', stored', keeps.charge _ charge⟩

theorem DeliveriesKept.step {db : Db} (stepped : Atrium.step env a api = some api')
    (kept : DeliveriesKept db api.db) : DeliveriesKept db api'.db := by
  rcases step_db stepped with same | ⟨c, out, -, -, effect⟩
  · rwa [same]
  · intro rowId d here
    obtain ⟨d', here', first⟩ := kept rowId d here
    obtain ⟨d'', here'', second⟩ := effect.deliveriesMoved.kept rowId d' here'
    exact ⟨d'', here'', first.trans second⟩

/-- The drain serves the deliveries of before an instant that name their payments. -/
theorem drain_serves (w : Provider) (env : Env) (worker : Pid) (received : Instant) (db : Db) :
    Serves (step env) (fun api => queuedDeliveries api.db) (Action.drains worker)
      (Arriving w received)
      (fun api => Drainable w api ∧ Named received api.db ∧ DeliveriesKept db api.db)
      (fun api => dueBefore received api.db) where
  kept a api api' stepped allowed inv :=
    ⟨inv.1.step stepped allowed.1, inv.2.1.step stepped allowed.2 inv.1.kept.tied.gated,
      inv.2.2.step stepped⟩
  nodup api := dueBefore_nodup received api.db
  first api := dueBefore_prefix received api.db
  fewer a api api' stepped allowed _ := by
    intro rowId waits
    obtain ⟨d', here', due, before⟩ := mem_dueBefore.mp waits
    obtain ⟨d, here, -, due, before⟩ := step_dueBefore stepped allowed.2 here' due before
    exact mem_dueBefore.mpr ⟨d, here, due, before⟩
  finishes a api api' rowId stepped allowed inv tried waits := by
    cases a with
    | apply pid rowId' now =>
        obtain ⟨-, same⟩ := Option.ite_none_right_eq_some.mp tried
        cases same
        obtain ⟨d', here', due, before⟩ := mem_dueBefore.mp waits
        obtain ⟨d, here, -, due', before'⟩ := step_dueBefore stepped allowed.2 here' due before
        obtain ⟨d'', there, done⟩ := inv.1.applied stepped here due'
          (inv.2.1 rowId (mem_dueBefore.mpr ⟨d, here, due', before'⟩))
        cases here'.symm.trans there
        simp [drainable, done] at due
    | _ => cases tried

/-- **Every delivery that can be settled is applied in turn.**  From any state of a run the
provider keeps its word in, a worker's ticks process every delivery that was due, a hundred
a tick in the order of receipt, whatever else runs between their transactions: other
workers, requests, crashes, deliveries that come in later.  The event of each has then been
applied. -/
theorem drain_applies {now : Instant} {db : Db} (fresh : db.Fresh) (ready : PolicyReady db)
    (reached : ReachableAlong (step env) w.Keeps (Api.start now db) api)
    (named : Named received api.db) {worker : Pid} {n : Nat}
    (ticks : Ticks env worker (Arriving w received) n api api')
    (enough : (dueBefore received api.db).length ≤ n * drainBatchSize) {rowId : Uuid}
    (waits : rowId ∈ dueBefore received api.db) :
    (∃ d, api'.db.webhookDeliveries.get? rowId = some d ∧ d.processedAt ≠ none) ∧
      ∀ e, pendingEvent api.db rowId = some e → ⟨e.chargeId, e.event⟩ ∈ api'.db.paymentEvents := by
  have before : Drainable w api :=
    reached.invariant (.start fresh ready now) fun _ _ _ stepped keeps inv => inv.step stepped keeps
  obtain ⟨⟨after, -, kept⟩, clear⟩ := (drain_serves w env worker received api.db).cleared
    ⟨before, named, fun _ d here => ⟨d, here, .refl d⟩⟩ ticks enough
  obtain ⟨d, here, due, received_⟩ := mem_dueBefore.mp waits
  obtain ⟨d', here', keeps⟩ := kept rowId d here
  -- It is not due any more, and its signature is what it was.
  have done : drainable d' = false := by
    by_contra waiting
    have still := mem_dueBefore.mpr ⟨d', here', by simpa using waiting, keeps.receipt ▸ received_⟩
    rw [clear] at still
    cases still
  have signed : d'.signatureValid = true := keeps.signature.trans (Bool.and_eq_true_iff.mp due).2
  refine ⟨⟨d', here', fun unprocessed => ?_⟩, fun e pending => ?_⟩
  · simp [drainable, unprocessed, signed] at done
  · obtain ⟨_, fields, there, -, read, supported⟩ := pendingEvent_iff.mp pending
    cases here.symm.trans there
    rcases after.settled rowId d' here' signed with waiting | ⟨-, applied⟩
    · rw [done] at waiting
      cases waiting
    · exact applied fields e (by rw [← read, deliveryFields, deliveryFields, keeps.body]) supported

end Ticks

namespace Sample

/-- The other room, for the same hour. -/
def bareHold : HoldInput :=
  ⟨⟨Uuid.path otherRoom, 36000000, 39600000, []⟩, by decide +kernel⟩

def capturedCharge (booking : Uuid) : WebhookEvent :=
  ⟨chargeKey (Uuid.text booking), .chargeSucceeded, some (Uuid.text booking), none, none⟩

/-- Two holds paid for, whose charges are told captured; nobody has applied them. -/
def deliveredUnapplied : List Action :=
  holding 0 hold 7 0 ++
    [.holdBegin 0 bareHold customer, .holdExpire 0, .holdLock 0, .holdCommit 0 17 0,
      .payBegin 1 (Uuid.path 7) customer, .payRead 1, .payCommit 1 8 0, .sendCharge 1,
      .payBegin 3 (Uuid.path 17) customer, .payRead 3, .payCommit 3 18 0, .sendCharge 3,
      .deliver (settlement "d_1" (capturedCharge 7)) 9 0,
      .deliver (settlement "d_2" (capturedCharge 17)) 10 0]

/-- A tick in which a duplicate comes in and the process of a payment crashes. -/
def firstTick : List Action :=
  [.tick 5, .apply 2 9 0, .deliver (settlement "d_3" (capturedCharge 7)) 11 5, .abandon 3,
    .apply 2 10 0]

theorem db_policyReady : PolicyReady db := by
  refine ⟨⟨6, _, rfl, rfl⟩, fun id p here => ?_⟩
  obtain ⟨-, rfl⟩ : id = 6 ∧ p = ⟨none, tiers.toJson, 0⟩ := by
    simpa [db] using Table.mem_rows.mpr here
  rw [Tiers.ofJson_toJson]
  rfl

end Sample

/-- Both deliveries are applied in the first tick, and the duplicate is left to the second. -/
theorem drain_applies_delivered : ∃ api api',
    run (step .default) Sample.deliveredUnapplied (Api.start 0 Sample.db) = some api ∧
      Ticks .default 2 (Arriving Sample.paygate 1) 2 api api' ∧
      ∀ booking ∈ [(7 : Uuid), 17],
        ⟨chargeKey (Uuid.text booking), .chargeSucceeded⟩ ∈ api'.db.paymentEvents := by
  let told (api : Api) (rowId : Uuid) : Option (String × EventName × Bool) :=
    (pendingEvent api.db rowId).map fun e => (e.chargeId, e.event, e.reference.isSome)
  have ran : ((run (step .default) Sample.deliveredUnapplied (Api.start 0 Sample.db)).bind fun api =>
      (run (step .default) Sample.firstTick api).bind fun mid =>
        (run (step .default) [.apply 2 11 5] mid).map fun _ =>
          (queuedDeliveries api.db, queuedDeliveries mid.db, dueBefore 1 api.db,
            decide (Along (step .default) (Arriving Sample.paygate 1) Sample.firstTick api))) =
      some ([9, 10], [11], [9, 10], true) := by
    decide +kernel
  have tells : ((run (step .default) Sample.deliveredUnapplied (Api.start 0 Sample.db)).map fun api =>
      (told api 9, told api 10)) = some (some (chargeKey (Uuid.text 7), .chargeSucceeded, true),
        some (chargeKey (Uuid.text 17), .chargeSucceeded, true)) := by
    decide +kernel
  have before : Along (step .default) Sample.paygate.Keeps Sample.deliveredUnapplied
      (Api.start 0 Sample.db) := by
    decide +kernel
  obtain ⟨api, reached, ran⟩ := Option.bind_eq_some_iff.mp ran
  obtain ⟨mid, first, ran⟩ := Option.bind_eq_some_iff.mp ran
  obtain ⟨api', second, seen⟩ := Option.map_eq_some_iff.mp ran
  simp only [Prod.mk.injEq, decide_eq_true_eq] at seen
  obtain ⟨queued, left, due, during⟩ := seen
  rw [reached, Option.map_some, Option.some_inj, Prod.mk.injEq] at tells
  obtain ⟨nine, ten⟩ := tells
  have ticks : Ticks .default 2 (Arriving Sample.paygate 1) 2 api api' := by
    refine ⟨mid, ⟨Sample.firstTick, first, during, ?_⟩, api', ⟨[.apply 2 11 5], second, ?_, ?_⟩, rfl⟩
    · show [(9 : Uuid), 10] = (queuedDeliveries api.db).take drainBatchSize
      rw [queued]
      rfl
    · exact ⟨⟨rfl, trivial⟩, fun _ _ => trivial⟩
    · show [(11 : Uuid)] = (queuedDeliveries mid.db).take drainBatchSize
      rw [left]
      rfl
  -- Both name their payments.
  have read : ∀ {rowId charge}, told api rowId = some (charge, .chargeSucceeded, true) →
      ∃ e, pendingEvent api.db rowId = some e ∧ (⟨e.chargeId, e.event⟩ : PaymentEvent) =
        ⟨charge, .chargeSucceeded⟩ ∧ e.reference ≠ none := by
    intro rowId charge seen
    obtain ⟨e, pending, same⟩ := Option.map_eq_some_iff.mp seen
    simp only [Prod.mk.injEq] at same
    obtain ⟨rfl, event, named⟩ := same
    exact ⟨e, pending, by rw [event], Option.isSome_iff_ne_none.mp named⟩
  obtain ⟨e, pending, event, named⟩ := read nine
  obtain ⟨e', pending', event', named'⟩ := read ten
  have names : Named 1 api.db := by
    intro rowId waits e₀ pending₀
    rw [due] at waits
    rcases List.mem_pair.mp waits with rfl | rfl
    · cases pending.symm.trans pending₀
      exact .inl named
    · cases pending'.symm.trans pending₀
      exact .inl named'
  have enough : (dueBefore 1 api.db).length ≤ 2 * drainBatchSize := by
    rw [due]
    decide
  refine ⟨api, api', reached, ticks, fun booking among => ?_⟩
  rcases List.mem_pair.mp among with rfl | rfl
  · rw [← event]
    exact (drain_applies Sample.db_fresh Sample.db_policyReady ⟨_, reached, before⟩ names ticks enough
      (due ▸ List.mem_cons_self)).2 e pending
  · rw [← event']
    exact (drain_applies Sample.db_fresh Sample.db_policyReady ⟨_, reached, before⟩ names ticks enough
      (due ▸ List.mem_cons_of_mem _ List.mem_cons_self)).2 e' pending'

/-! ## Deliveries of unknown charges -/

/-- The event of a due delivery finds no payment. -/
def unknownCharge (db : Db) (rowId : Uuid) : Bool :=
  (pendingEvent db rowId).any fun e =>
    (paymentByChargeId db e.chargeId).isNone && e.reference.all fun reference =>
      (paymentByReference db reference).all fun row => decide (row.2.chargeId ≠ none)

theorem unknownCharge_finds {db : Db} {rowId : Uuid} {e : WebhookEvent}
    (unknown : unknownCharge db rowId = true) (pending : pendingEvent db rowId = some e)
    (now : Instant) : findPayment e now db = .ok (none, db) := by
  simp only [unknownCharge, pending, Option.any_some, Bool.and_eq_true, Option.isNone_iff_eq_none,
    Option.all_eq_true, decide_eq_true_eq] at unknown
  obtain ⟨missing, unnamed⟩ := unknown
  cases named : e.reference with
  | none =>
      simp only [findPayment, Tx.read_bind, missing, named]
      rfl
  | some reference =>
      simp only [findPayment, Tx.read_bind, missing, named, adoptChargeByReference]
      cases adopt : paymentByReference db reference with
      | none => rfl
      | some row =>
          have bound := unnamed reference named row adopt
          have other : row.2.chargeId ≠ some e.chargeId :=
            paymentByChargeId_none missing (paymentByReference_some adopt).1
          simp only [bound, other, if_false]
          rfl

/-- A delivery of an unknown charge stays due through a transaction, its own included. -/
theorem Effect.unknownCharge_waits {env : Env} {t : Txn} {db db' : Db} {out : Outcome}
    (effect : Effect env t db db' out) {rowId : Uuid} (unknown : unknownCharge db rowId = true)
    {d : WebhookDelivery} (here : db.webhookDeliveries.get? rowId = some d) :
    ∃ d', db'.webhookDeliveries.get? rowId = some d' ∧ d'.processedAt = d.processedAt ∧
      d'.signatureValid = d.signatureValid ∧ d'.receivedAt = d.receivedAt := by
  obtain ⟨d', here', keeps⟩ := effect.deliveriesMoved.kept rowId d here
  refine ⟨d', here', ?_, keeps.signature, keeps.receipt⟩
  cases effect.deliveriesMoved with
  | same _ same =>
      rw [same, here] at here'
      cases here'
      rfl
  | recorded request rowId' now error processed inserted =>
      rw [Table.get?_insert? inserted] at here'
      split_ifs at here' with own
      · rw [own, (Table.insert?_some inserted).1] at here
        cases here
      · cases here.symm.trans here'
        rfl
  | ruled rowId' now f _ updated =>
      by_cases own : rowId = rowId'
      · subst own
        -- Its own transaction writes the error on it, and leaves it due.
        have finds : ∀ {d fields e u found}, db.webhookDeliveries.get? rowId = some d →
            d.processedAt = none → deliveryFields d = some fields → fields.supported = some e →
              findPayment e now db = .ok (found, u) → found = none ∧ u = db := by
          intro d fields e u found there unprocessed read supported looked
          have pending := pendingEvent_iff.mpr ⟨d, fields, there, unprocessed, read, supported⟩
          have none_ := unknownCharge_finds unknown pending now
          cases looked.symm.trans none_
          exact ⟨rfl, rfl⟩
        cases effect with
        | nothing =>
            cases here.symm.trans here'
            rfl
        | unsupported _ _ _ d'' fields there unprocessed read unsupported =>
            obtain ⟨e, pending, -⟩ := (Option.any_eq_true _ _).mp unknown
            obtain ⟨_, fields', there', -, read', supported⟩ := pendingEvent_iff.mp pending
            cases there.symm.trans there'
            cases read.symm.trans read'
            rw [unsupported] at supported
            cases supported
        | lost _ _ _ u d'' fields e found verdict there unprocessed read supported looked verdict_ =>
            obtain ⟨rfl, rfl⟩ := finds there unprocessed read supported looked
            obtain ⟨-, rfl⟩ := verdict_.resolve_right fun taken => by cases taken.1
            rw [Db.modifyDelivery_webhookDeliveries, Table.get?_modify_self, here] at here'
            cases here'
            rfl
        | applied _ _ _ u v d'' fields e payment r there unprocessed read supported looked =>
            cases (finds there unprocessed read supported looked).1
        | explained _ paymentId f' _ _ own => cases own
      · rw [updated, Table.get?_modify_ne _ _ own, here] at here'
        cases here'
        rfl

/-- **A hundred deliveries of unknown charges hold up all that came after them.**  While
they stay so, whatever runs and whatever is delivered, no tick elects a delivery that was
received at the instant all of them were there, or later. -/
theorem drain_stalls {env : Env} {api api' : Api} {received : Instant} {rowIds : List Uuid}
    (distinct : rowIds.Nodup) (full : drainBatchSize ≤ rowIds.length)
    (due : ∀ rowId ∈ rowIds, rowId ∈ dueBefore received api.db)
    (reached : ReachableAlong (step env)
      (fun _ api => ∀ rowId ∈ rowIds, unknownCharge api.db rowId = true) api api') :
    ∀ rowId ∈ elected (fun api => queuedDeliveries api.db) drainBatchSize api',
      rowId ∈ dueBefore received api'.db := by
  have still : ∀ rowId ∈ rowIds, rowId ∈ dueBefore received api'.db := by
    refine reached.invariant (I := fun api => ∀ rowId ∈ rowIds, rowId ∈ dueBefore received api.db)
      due fun a api api' stepped unknown waits rowId among => ?_
    obtain ⟨d, here, due, before⟩ := mem_dueBefore.mp (waits rowId among)
    rcases step_db stepped with same | ⟨c, out, -, -, effect⟩
    · exact same ▸ waits rowId among
    · obtain ⟨d', here', processed, signature, receipt⟩ :=
        effect.unknownCharge_waits (unknown rowId among) here
      refine mem_dueBefore.mpr ⟨d', here', ?_, receipt ▸ before⟩
      rwa [drainable, processed, signature]
  intro rowId among
  obtain ⟨rest, whole⟩ := dueBefore_prefix received api'.db
  have long : drainBatchSize ≤ (dueBefore received api'.db).length :=
    full.trans (distinct.subperm still).length_le
  have head : elected (fun api => queuedDeliveries api.db) drainBatchSize api' =
      (dueBefore received api'.db).take drainBatchSize := by
    rw [elected, ← whole, List.take_append_of_le_length long]
  rw [head] at among
  exact List.mem_of_mem_take among

namespace Sample

/-- The rows of a hundred deliveries. -/
def strangers : List Uuid := (List.range 100).map fun n => BitVec.ofNat 128 (1000 + n)

/-- A hundred deliveries of a charge no payment has. -/
def strangersDelivered : List Action := strangers.map fun rowId =>
  .deliver (webhook (Nat.repr rowId.toNat) "ch_unknown" .chargeSucceeded) rowId 0

/-- One more comes in, later. -/
def laterDelivered : List Action :=
  [.tick 5, .deliver (webhook "d_1" "ch_1" .chargeSucceeded) 9 5]

end Sample

/-- The delivery that comes in after a hundred strangers is due, and not elected. -/
theorem drain_stalls_strangers : ∃ api,
    run (step .default) (Sample.strangersDelivered ++ Sample.laterDelivered)
        (Api.start 0 Sample.db) = some api ∧
      (9 : Uuid) ∈ queuedDeliveries api.db ∧
      (9 : Uuid) ∉ elected (fun api => queuedDeliveries api.db) drainBatchSize api := by
  have ran : ((run (step .default) Sample.strangersDelivered (Api.start 0 Sample.db)).bind fun api =>
      (run (step .default) Sample.laterDelivered api).bind fun api' =>
        (api'.db.webhookDeliveries.get? 9).map fun d =>
          (dueBefore 1 api.db, Sample.strangers.all (unknownCharge api.db), drainable d,
            d.receivedAt)) = some (Sample.strangers, true, true, 5) := by
    decide +kernel
  obtain ⟨api, reached, ran⟩ := Option.bind_eq_some_iff.mp ran
  obtain ⟨api', later, ran⟩ := Option.bind_eq_some_iff.mp ran
  obtain ⟨d, here, seen⟩ := Option.map_eq_some_iff.mp ran
  simp only [Prod.mk.injEq, List.all_eq_true] at seen
  obtain ⟨due, unknown, waits, received⟩ := seen
  refine ⟨api', ?_, List.mem_map.mpr ⟨(9, d), mem_queuedRows.mpr ⟨here, waits⟩, rfl⟩, fun among => ?_⟩
  · rw [run_append, reached]
    exact later
  · have along : Along (step .default) (fun _ api => ∀ rowId ∈ Sample.strangers,
        unknownCharge api.db rowId = true) Sample.laterDelivered api := by
      refine ⟨unknown, fun t ticked => ⟨?_, fun _ _ => trivial⟩⟩
      obtain rfl : { api with now := api.now + 5 } = t := Option.some.inj ticked
      exact unknown
    have before := drain_stalls (by decide +kernel) (by decide) (fun rowId stranger => due ▸ stranger)
      ⟨_, later, along⟩ 9 among
    obtain ⟨d', here', -, early⟩ := mem_dueBefore.mp before
    cases here.symm.trans here'
    rw [received] at early
    exact absurd early (by decide)

end Atrium
