/-
# Forgery -- what an unsigned webhook request can do

A request whose signature is missing or wrong is recorded and refused.  Its record
stands in the table of the genuine deliveries and under the same unique delivery
id, so the two kinds meet in one place: the conflict clause of a later insert.

`Db.genuine` is a database without those records.  Every step of a run commutes
with it (`step_genuine`) unless a signed request finds its delivery id taken by the
record of an unsigned one; the run without the unsigned requests then ends in the
same bookings and payments.  Where an id is taken, it does not
(`forged_request_suppresses`).
-/
import Atrium.Inbound

namespace Atrium

open Atrium.Base

set_option autoImplicit false

/-! ## Unsigned requests and their records -/

/-- A webhook request whose signature is missing or wrong. -/
def Action.unsigned : Action → Bool
  | .deliver request .. => !request.signed
  | _ => false

/-- A correctly signed request, with the row it is recorded in. -/
def Action.signed? : Action → Option (WebhookRequest × Uuid)
  | .deliver request rowId _ => if request.signed then some (request, rowId) else none
  | _ => none

def signedRow (_ : Uuid) (d : WebhookDelivery) : Bool := d.signatureValid

/-- Without the records of unsigned requests. -/
def Db.genuine (db : Db) : Db :=
  { db with webhookDeliveries := db.webhookDeliveries.keep signedRow }

def Api.genuine (api : Api) : Api := { api with db := api.db.genuine }

/-- No record of an unsigned request has the delivery id of a signed one that comes
in, or its generated row id. -/
def Unshadowed (a : Action) (api : Api) : Prop :=
  ∀ r ∈ a.signed?, ∀ row ∈ api.db.webhookDeliveries.rows, row.2.signatureValid = false →
    row.2.deliveryId ≠ r.1.deliveryId ∧ row.1 ≠ r.2

instance (a : Action) (api : Api) : Decidable (Unshadowed a api) :=
  inferInstanceAs (Decidable (∀ _ ∈ _, _))

/-- The record of an unsigned request is never due. -/
def UnsignedDone (db : Db) : Prop :=
  ∀ id d, db.webhookDeliveries.get? id = some d → d.signatureValid = false → d.processedAt ≠ none

theorem Db.genuine_get? (db : Db) (rowId : Uuid) : db.genuine.webhookDeliveries.get? rowId =
    (db.webhookDeliveries.get? rowId).filter WebhookDelivery.signatureValid :=
  Table.get?_keep _ signedRow rowId

/-! ## What is recorded -/

theorem recordDelivery_unsigned {rowId : Uuid} {row : WebhookDelivery} {db db' : Db}
    {r : Option Uuid} (unsigned : row.signatureValid = false)
    (returned : recordDelivery rowId row db = .ok (r, db')) : db'.genuine = db.genuine := by
  rcases recordDelivery_ok returned with ⟨-, rfl, -⟩ | ⟨-, deliveries, inserted, rfl⟩
  · rfl
  · have unmet : signedRow rowId row = false := unsigned
    simp only [Db.genuine, Table.keep_insert?_unmet inserted unmet]

/-- An unsigned request leaves nothing a genuine delivery is. -/
theorem ingest_unsigned {env : Env} {request : WebhookRequest} {rowId : Uuid} {now : Instant}
    {db db' : Db} {r : IngestStatus} (unsigned : request.signed = false)
    (returned : ingest env request rowId now db = .ok (r, db')) :
    db'.genuine = db.genuine ∧ (UnsignedDone db → UnsignedDone db') := by
  unfold ingest at returned
  rw [Tx.ite_ok, if_pos unsigned] at returned
  rcases returned with ⟨-, failed⟩ | ⟨-, returned⟩
  · simp at failed
  · simp only [Tx.bind_ok, Tx.pure_ok] at returned
    obtain ⟨_, _, recorded, -, rfl⟩ := returned
    refine ⟨recordDelivery_unsigned unsigned recorded,
      fun done => ?_⟩
    rcases recordDelivery_ok recorded with ⟨-, rfl, -⟩ | ⟨-, deliveries, inserted, rfl⟩
    · exact done
    · intro id d here invalid
      rw [Table.get?_insert? inserted] at here
      by_cases own : id = rowId
      · rw [if_pos own] at here
        cases here
        simp [deliveryRow]
      · rw [if_neg own] at here
        exact done id d here invalid

/-- What a returned transaction did to the deliveries: nothing, a new one, or a verdict
on one that was due. -/
inductive DeliveryChange (t : Txn) (db db' : Db) : Prop
  | kept : db'.webhookDeliveries = db.webhookDeliveries → DeliveryChange t db db'
  | recorded (request : WebhookRequest) (rowId : Uuid) (now : Instant) (row : WebhookDelivery) :
      t = .deliver request rowId now → row.signatureValid = request.signed →
      db.webhookDeliveries.insert? rowId row = some db'.webhookDeliveries → DeliveryChange t db db'
  | judged (rowId : Uuid) (d : WebhookDelivery) (f : WebhookDelivery → WebhookDelivery) :
      db.webhookDeliveries.get? rowId = some d → d.processedAt = none →
      (∀ d, (f d).signatureValid = d.signatureValid) →
      db'.webhookDeliveries = db.webhookDeliveries.modify rowId f → DeliveryChange t db db'

theorem Effect.deliveryChange {env : Env} {t : Txn} {db db' : Db} {out : Outcome}
    (effect : Effect env t db db' out) : DeliveryChange t db db' := by
  cases effect with
  | delivered request rowId now _ error processed deliveries inserted =>
      exact .recorded request rowId now _ rfl rfl inserted
  | unsupported rowId now _ d fields here unprocessed =>
      exact .judged rowId d (fun d => { d with processedAt := some now, error := some "unsupported_event" })
        here unprocessed (fun _ => rfl) rfl
  | lost rowId now _ u d fields e found verdict here unprocessed _ _ looked =>
      refine .judged rowId d (settledRow e now verdict) here unprocessed
        (fun d => (settledRow_fields e now verdict d).1) ?_
      rw [Db.modifyDelivery_webhookDeliveries, (findPayment_events looked).2]
  | applied rowId now _ u v d fields e payment r here unprocessed _ _ looked applied =>
      refine .judged rowId d (settledRow e now (.applied r)) here unprocessed
        (fun d => (settledRow_fields e now (.applied r) d).1) ?_
      rw [Db.modifyDelivery_webhookDeliveries, applied.consequence.events.2,
        Db.claim_webhookDeliveries, (findPayment_events looked).2]
  | polledCharge payment chargeId captured now _ _ r applied =>
      exact .kept applied.consequence.events.2
  | polledRefund payment chargeId refundId amountMinor now _ _ applied =>
      exact .kept applied.consequence.events.2
  | paid bookingId principal booking existing stamp _ recorded _ payment inserted found moved =>
      exact .kept ((@Effect.paid env bookingId principal booking existing stamp db recorded db'
        payment inserted found moved).own_events rfl).2
  | _ => exact .kept rfl

theorem Txn.unsignedDone {env : Env} {t : Txn} {db db' : Db} {out : Outcome}
    (ran : t.run env db = .ok (out, db')) (done : UnsignedDone db) : UnsignedDone db' := by
  cases (run_effect ran).deliveryChange with
  | kept same =>
      intro id d here
      exact done id d (same ▸ here)
  | recorded request rowId now row own valid inserted =>
      subst own
      cases signed : request.signed with
      | false =>
          simp only [run, Tx.bind_ok, Tx.pure_ok] at ran
          obtain ⟨_, _, ran, -, rfl⟩ := ran
          exact (ingest_unsigned signed ran).2 done
      | true =>
          intro id d here invalid
          rw [Table.get?_insert? inserted] at here
          by_cases own : id = rowId
          · rw [if_pos own] at here
            cases here
            rw [valid, signed] at invalid
            cases invalid
          · rw [if_neg own] at here
            exact done id d here invalid
  | judged rowId d f here unprocessed valid updated =>
      intro id d' here' invalid
      rw [updated] at here'
      obtain ⟨d₀, stored, same⟩ := Table.get?_modify_some.mp here'
      by_cases own : id = rowId
      · subst own
        rw [if_pos rfl] at same
        rw [here] at stored
        cases stored
        rw [← same, valid] at invalid
        exact absurd unprocessed (done id d here invalid)
      · rw [if_neg own] at same
        exact same ▸ done id d₀ stored (by rw [same]; exact invalid)

theorem step_unsignedDone {env : Env} (a : Action) (api api' : Api)
    (stepped : step env a api = some api') (done : UnsignedDone api.db) : UnsignedDone api'.db := by
  cases step_cases stepped with
  | committed c out db' enabled free ran =>
      rw [Api.resume_db]
      exact Txn.unsignedDone ran done
  | aborted c e enabled ran => simpa using done
  | unshared _ moved => rwa [moved.db]

/-! ## A transaction on the genuine part -/

/-- Whatever becomes of the deliveries, nothing else is told by them. -/
theorem keepsCore_deliveries (w : Table Uuid WebhookDelivery → Table Uuid WebhookDelivery) :
    KeepsCore fun s t => t = { s with webhookDeliveries := w s.webhookDeliveries } where
  core := by
    rintro s _ rfl
    exact (SameCore.deliveries s _).symm
  bookings := by
    rintro s _ rfl table
    rfl
  items := by
    rintro s _ rfl items
    rfl
  policies := by
    rintro s _ rfl table
    rfl
  events := by
    rintro s _ rfl events
    rfl
  log := by
    rintro s _ rfl entries
    rfl
  payment := by
    rintro s _ rfl id f -
    rfl
  insert := by
    rintro s _ rfl id p u v left right
    cases left.symm.trans right
    rfl

theorem genuine_keepsCore : KeepsCore fun s t => t = s.genuine :=
  keepsCore_deliveries (·.keep signedRow)

/-- From a database and from its genuine part, a transaction aborts on both or returns
the same on both. -/
def Alike {α : Type} (x : Transaction α) (db : Db) : Prop :=
  (∃ e e', x db = .error e ∧ x db.genuine = .error e') ∨
    ∃ a db', x db = .ok (a, db') ∧ x db.genuine = .ok (a, db'.genuine)

theorem Alike.of_sim {α : Type} {x : Transaction α} (sim : Sim (fun s t => t = s.genuine) Eq x x)
    (db : Db) : Alike x db := by
  rcases sim db _ rfl with failed | ⟨a, _, db', _, left, right, rfl, rfl⟩
  · exact .inl failed
  · exact .inr ⟨a, db', left, right⟩

theorem Alike.bind {α β : Type} {x : Transaction α} {f : α → Transaction β} {db : Db}
    (first : Alike x db) (rest : ∀ a, Sim (fun s t => t = s.genuine) Eq (f a) (f a)) :
    Alike (x >>= f) db := by
  rcases first with ⟨e, e', left, right⟩ | ⟨a, db', left, right⟩
  · exact .inl ⟨e, e', by rw [Tx.bind_run, left], by rw [Tx.bind_run, right]⟩
  · have after := Alike.of_sim (rest a) db'
    unfold Alike
    rwa [Tx.bind_of_ok left, Tx.bind_of_ok right]

/-- A transaction of the API's own reads no delivery at all. -/
theorem Txn.own_alike {env : Env} {t : Txn} (own : t.inbound = false) (db : Db) :
    Alike (t.run env) db := by
  have across := Txn.own_sim genuine_keepsCore env own db _ rfl
  have within := Txn.own_sim (keepsCore_deliveries id) env own db.genuine db.genuine rfl
  rcases across with ⟨e, e', left, right⟩ | ⟨out, _, db', _, left, right, rfl, rfl⟩
  · rcases within with ⟨e₂, -, again, -⟩ | ⟨_, _, _, _, -, again, -, -⟩
    · exact .inl ⟨e, e₂, left, again⟩
    · rw [right] at again
      cases again
  · rcases within with ⟨-, _, -, again⟩ | ⟨out₂, _, db₂, _, first, again, rfl, rfl⟩
    · rw [right] at again
      cases again
    · rw [right] at again
      obtain ⟨rfl, same⟩ := Prod.mk.inj (Except.ok.inj again)
      exact .inr ⟨out, db', left, first.trans (congrArg (fun u => Except.ok (out, u)) same.symm)⟩

theorem modifyDelivery_genuine (rowId : Uuid) {f : WebhookDelivery → WebhookDelivery}
    (valid : ∀ d, (f d).signatureValid = d.signatureValid) (db : Db) :
    (db.modifyDelivery rowId f).genuine = db.genuine.modifyDelivery rowId f := by
  have same : ∀ d, signedRow rowId (f d) = signedRow rowId d := valid
  simp only [Db.genuine, Db.modifyDelivery, Table.keep_modify _ _ same]

theorem writeDelivery_sim (rowId : Uuid) {f : WebhookDelivery → WebhookDelivery}
    (valid : ∀ d, (f d).signatureValid = d.signatureValid) :
    Sim (fun s t => t = s.genuine) Eq (Tx.write (·.modifyDelivery rowId f) : Transaction Unit)
      (Tx.write (·.modifyDelivery rowId f)) := by
  refine .write rfl ?_
  rintro s _ rfl
  exact (modifyDelivery_genuine rowId valid s).symm

theorem settleDelivery_sim (rowId : Uuid) (e : WebhookEvent) (now : Instant) (verdict : Verdict) :
    Sim (fun s t => t = s.genuine) Eq (settleDelivery rowId e now verdict)
      (settleDelivery rowId e now verdict) := by
  cases verdict with
  | unknownCharge => exact .bind (writeDelivery_sim rowId fun _ => rfl) fun _ _ _ => .ret rfl
  | duplicateEffect => exact .bind (writeDelivery_sim rowId fun _ => rfl) fun _ _ _ => .ret rfl
  | applied instruction => exact .bind (writeDelivery_sim rowId fun _ => rfl) fun _ _ _ => .ret rfl

/-- What the drainer finds under a row id is genuine, as no unsigned record is due. -/
theorem due_genuine {db : Db} (done : UnsignedDone db) (rowId : Uuid) :
    (db.genuine.webhookDeliveries.get? rowId).filter (fun d => d.processedAt.isNone) =
      (db.webhookDeliveries.get? rowId).filter fun d => d.processedAt.isNone := by
  rw [Db.genuine_get?]
  cases here : db.webhookDeliveries.get? rowId with
  | none => rfl
  | some d =>
      cases valid : d.signatureValid with
      | true => simp [Option.filter, valid]
      | false =>
          have processed := done rowId d here valid
          simp [Option.filter, valid, processed]

theorem applyInTransaction_alike {db : Db} (done : UnsignedDone db) (rowId : Uuid) (now : Instant) :
    Alike (applyInTransaction rowId now) db := by
  have due := due_genuine done rowId
  unfold Alike applyInTransaction
  simp only [Tx.read_bind, due]
  cases (db.webhookDeliveries.get? rowId).filter fun d => d.processedAt.isNone with
  | none => exact .inr ⟨none, db, rfl, rfl⟩
  | some delivery =>
      refine Alike.of_sim ?_ db
      refine .bind (.fetchEq fun _ _ _ => rfl) ?_
      rintro fields _ rfl
      cases fields.supported with
      | none => exact .bind (writeDelivery_sim rowId fun _ => rfl) fun _ _ _ => .ret rfl
      | some e =>
          refine .bind (applyEvent_sim genuine_keepsCore e now) ?_
          rintro verdict _ rfl
          exact settleDelivery_sim rowId e now verdict

/-- A delivery whose ids no unsigned record has taken is recorded alike. -/
theorem recordDelivery_alike {rowId : Uuid} {row : WebhookDelivery} {db : Db}
    (valid : row.signatureValid = true)
    (clear : ∀ id d, db.webhookDeliveries.get? id = some d → d.signatureValid = false →
      d.deliveryId ≠ row.deliveryId ∧ id ≠ rowId) : Alike (recordDelivery rowId row) db := by
  have known : db.genuine.webhookDeliveries.select (fun _ d => decide (d.deliveryId = row.deliveryId)) =
      db.webhookDeliveries.select fun _ d => decide (d.deliveryId = row.deliveryId) := by
    refine Table.select_keep fun id d here same => ?_
    cases signed : d.signatureValid with
    | true => exact signed
    | false => exact absurd (by simpa using same) (clear id d here signed).1
  unfold Alike recordDelivery
  simp only [Tx.read_bind, known]
  cases (db.webhookDeliveries.select fun _ d => decide (d.deliveryId = row.deliveryId)).head? with
  | some found => exact .inr ⟨none, db, rfl, rfl⟩
  | none =>
      simp only [Tx.fetch_bind]
      cases inserted : db.webhookDeliveries.insert? rowId row with
      | some deliveries =>
          have both : db.genuine.webhookDeliveries.insert? rowId row =
              some (deliveries.keep signedRow) :=
            Table.keep_insert? inserted valid
          rw [both]
          exact .inr ⟨some rowId, _, rfl, rfl⟩
      | none =>
          obtain ⟨d, here⟩ := Option.isSome_iff_exists.mp (Table.insert?_none.mp inserted)
          have signed : d.signatureValid = true := by
            by_contra unsigned
            exact (clear rowId d here (by simpa using unsigned)).2 rfl
          have both : db.genuine.webhookDeliveries.insert? rowId row = none := by
            refine Table.insert?_none.mpr ?_
            rw [Db.genuine_get?, here]
            simp [Option.filter, signed]
          rw [both]
          exact .inl ⟨_, _, rfl, rfl⟩

theorem ingest_alike {env : Env} {request : WebhookRequest} {rowId : Uuid} {db : Db}
    (signed : request.signed = true)
    (clear : ∀ id d, db.webhookDeliveries.get? id = some d → d.signatureValid = false →
      d.deliveryId ≠ request.deliveryId ∧ id ≠ rowId) (now : Instant) :
    Alike (ingest env request rowId now) db := by
  unfold ingest
  rw [if_neg (show ¬ request.signed = false by simp [signed])]
  by_cases configured : env.paygateSecret.getD "" = ""
  · rw [if_pos configured]
    exact .inl ⟨_, _, rfl, rfl⟩
  · rw [if_neg configured]
    cases request.body with
    | none =>
        exact .bind (recordDelivery_alike signed clear)
          fun _ => .ret rfl
    | some body =>
        unfold Alike
        simp only [Tx.fetch_bind]
        cases readFields body with
        | none => exact .inl ⟨_, _, rfl, rfl⟩
        | some fields =>
            refine Alike.bind (recordDelivery_alike signed clear) fun row => ?_
            cases row with
            | none => exact .ret rfl
            | some id => exact .ret rfl

theorem settleCharge_alike (payment : Uuid × Payment) (chargeId : String) (captured : Bool)
    (now : Instant) (db : Db) : Alike (settleCharge payment chargeId captured now) db :=
  .of_sim (settleCharge_sim genuine_keepsCore ⟨rfl, rfl⟩ chargeId captured now) db

theorem noted_alike (paymentId : Uuid) {f : Payment → Payment} (note : ∀ p, noted p (f p)) (db : Db) :
    Alike (updatePayment paymentId f) db := by
  refine .of_sim (updatePayment_sim genuine_keepsCore paymentId fun p q same => ?_) db
  obtain ⟨reason, now, left⟩ := note p
  obtain ⟨reason', now', right⟩ := note q
  rw [left, right]
  exact .of_fields same.fields

/-- **A transaction and the genuine part**: it does to the genuine part what it does to
the whole. -/
theorem Txn.alike {env : Env} {a : Action} {api : Api} {c : Commit} (commits : Commits api a c)
    (signed : a.unsigned = false) (clear : Unshadowed a api) (done : UnsignedDone api.db) :
    Alike (c.txn.run env) api.db := by
  cases commits with
  | deliver request rowId now past =>
      have valid : request.signed = true := by simpa [Action.unsigned] using signed
      refine Alike.bind (ingest_alike valid (fun id d here invalid => ?_) now) fun _ => .ret rfl
      exact clear (request, rowId) (by simp [Action.signed?, valid]) (id, d) (Table.mem_rows.mpr here)
        invalid
  | apply pid rowId now =>
      exact Alike.bind (applyInTransaction_alike done rowId now) fun _ => .ret rfl
  | captured pid now payment chargeId =>
      exact Alike.bind (settleCharge_alike payment chargeId true now api.db) fun _ => .ret rfl
  | declined pid now payment chargeId =>
      exact Alike.bind (settleCharge_alike payment chargeId false now api.db) fun _ => .ret rfl
  | pollRefund pid found amountMinor now payment chargeId refundId =>
      exact Alike.bind (.of_sim (settleRefundPoll_sim genuine_keepsCore ⟨rfl, rfl⟩ chargeId _
        amountMinor now) api.db) fun _ => .ret rfl
  | chargeUnknown pid now payment chargeId =>
      exact Alike.bind (noted_alike payment.1 (fun p => ⟨_, now, rfl⟩) api.db) fun _ => .ret rfl
  | refundRejected pid refusal now instruction message =>
      exact Alike.bind (noted_alike instruction.paymentId (fun p => ⟨_, now, rfl⟩) api.db)
        fun _ => .ret rfl
  | _ => exact own_alike rfl api.db

/-! ## A step on the genuine part -/

theorem Api.become_genuine (api : Api) (pid : Pid) (p : Option Proc) :
    (api.become pid p).genuine = api.genuine.become pid p := by
  cases p <;> rfl

theorem Action.commit?_genuine (a : Action) (api : Api) : a.commit? api.genuine = a.commit? api := by
  cases a <;> rfl

theorem Api.begin_genuine {α : Type} {first : Transaction α} {api : Api} (alike : Alike first api.db)
    (pid : Pid) (p : α → Proc) :
    api.genuine.begin pid first p = (api.begin pid first p).map Api.genuine := by
  have procs : api.genuine.procs = api.procs := rfl
  have db : api.genuine.db = api.db.genuine := rfl
  unfold Api.begin
  rw [procs, db]
  by_cases idle : (api.procs.get? pid).isNone
  · rw [if_pos idle, if_pos idle]
    rcases alike with ⟨e, e', left, right⟩ | ⟨a, db', left, right⟩
    · rw [left, right]
      rfl
    · rw [left, right]
      simp only [Option.map_some, become_genuine]
  · rw [if_neg idle, if_neg idle]
    rfl

theorem Api.goOn_genuine {α : Type} {statement : Transaction α} {db : Db}
    (alike : Alike statement db) (api : Api) (pid : Pid) (p : α → Proc) :
    api.genuine.goOn pid (statement db.genuine) p = (api.goOn pid (statement db) p).genuine := by
  unfold Api.goOn
  rcases alike with ⟨e, e', left, right⟩ | ⟨a, db', left, right⟩ <;>
    rw [left, right] <;> exact (become_genuine _ _ _).symm

/-- Statements that commit nothing read no delivery. -/
theorem Action.local?_genuine (env : Env) (a : Action) (api : Api) :
    a.local? env api.genuine = (a.local? env api).map Api.genuine := by
  have procs : api.genuine.procs = api.procs := rfl
  have rooms : api.genuine.roomFree = api.roomFree := rfl
  have rows : api.genuine.rowsFree = api.rowsFree := rfl
  have types : api.genuine.typesFree = api.typesFree := rfl
  cases a with
  | holdBegin pid input principal =>
      simp only [Action.local?]
      exact api.begin_genuine (.of_sim (openHold_sim genuine_keepsCore env _ _) _) pid _
  | checkoutBegin pid bookingId principal =>
      simp only [Action.local?]
      exact api.begin_genuine (.of_sim (loadOwnedBooking_sim genuine_keepsCore _ _) _) pid _
  | payBegin pid bookingId principal =>
      simp only [Action.local?]
      exact api.begin_genuine (.of_sim (loadOwned_sim genuine_keepsCore _ _) _) pid _
  | holdExpire pid =>
      have stale : ∀ room now, staleHoldsOfRoom api.genuine.db room now =
        staleHoldsOfRoom api.db room now := fun _ _ => rfl
      simp only [Action.local?, procs, rooms, rows, stale]
      split
      · split_ifs <;> rfl
      · rfl
  | holdLock pid =>
      simp only [Action.local?, procs, types]
      split
      · rename_i tx expired here
        split_ifs with bare
        · rfl
        · rcases Alike.of_sim (lockRequested_sim genuine_keepsCore tx.input tx.ctx)
            (tx.view api.db expired) with ⟨e, e', left, right⟩ | ⟨locked, db', left, right⟩
          · rw [show tx.view api.genuine.db expired = (tx.view api.db expired).genuine from rfl, left,
              right]
            rfl
          · rw [show tx.view api.genuine.db expired = (tx.view api.db expired).genuine from rfl, left,
              right]
            dsimp only
            split_ifs <;> rfl
      · rfl
  | holdAdmit pid =>
      simp only [Action.local?, procs]
      split
      · rename_i tx expired locked here
        have admission := Alike.of_sim
          (admitLocked_sim genuine_keepsCore tx.input tx.ctx tx.startedAt locked)
          (tx.view api.db expired)
        exact congrArg some (Api.goOn_genuine admission api pid _)
      · rfl
  | payRead pid =>
      simp only [Action.local?, procs]
      split <;> rfl
  | sendCharge pid =>
      simp only [Action.local?, procs]
      split <;> rfl
  | answerCharge pid chargeId =>
      simp only [Action.local?, procs]
      split <;> rfl
  | sendRefund pid =>
      simp only [Action.local?, procs]
      split <;> rfl
  | answerRefund pid answer =>
      simp only [Action.local?, procs]
      split
      · cases answer <;> rfl
      · rfl
  | selectCharge pid paymentId =>
      have due : chargesToPoll env api.genuine.db api.genuine.now =
        chargesToPoll env api.db api.now := rfl
      simp only [Action.local?, procs, due]
      split
      · rename_i payment _ _
        cases payment.2.chargeId <;> rfl
      · rfl
  | selectRefund pid paymentId =>
      have due : refundsToPoll env api.genuine.db api.genuine.now =
        refundsToPoll env api.db api.now := rfl
      simp only [Action.local?, procs, due]
      split
      · rename_i payment _ _
        cases payment.2.refundId <;> cases payment.2.chargeId <;> rfl
      · rfl
  | _ => rfl

/-- On the genuine part a transaction locks what it locked, or nothing. -/
theorem Txn.locks_genuine (t : Txn) (db : Db) :
    t.locks db.genuine = [] ∨ t.locks db.genuine = t.locks db := by
  cases t with
  | apply rowId now =>
      simp only [locks, Db.genuine_get?]
      cases here : db.webhookDeliveries.get? rowId with
      | none => exact .inl rfl
      | some d =>
          cases valid : d.signatureValid with
          | false => simp [Option.filter, valid]
          | true =>
              right
              simp only [Option.filter, valid, if_true, Option.bind_some]
              cases deliveryFields d with
              | none => rfl
              | some fields =>
                  dsimp only
                  cases fields.supported with
                  | none => rfl
                  | some e =>
                      rcases findPayment_sim genuine_keepsCore e now db _ rfl with
                        ⟨_, _, left, right⟩ | ⟨found, found', _, _, left, right, same, -⟩
                      · simp only [left, right]
                      · simp only [left, right]
                        cases same with
                        | none => rfl
                        | some equal => simp only [equal.2.fields.1]
  | _ => exact .inr rfl

/-- **A step commutes with dropping the records of unsigned requests**, unless it is a
signed request that finds its id taken by one. -/
theorem step_genuine {env : Env} {a : Action} {api api' : Api}
    (stepped : step env a api = some api') (signed : a.unsigned = false)
    (clear : Unshadowed a api) (done : UnsignedDone api.db) :
    step env a api.genuine = some api'.genuine := by
  unfold step at stepped ⊢
  rw [Action.commit?_genuine]
  cases commits : a.commit? api with
  | none =>
      simp only [commits] at stepped
      simp only [Action.local?_genuine, stepped, Option.map_some]
  | some c =>
      simp only [commits, Api.commit] at stepped
      obtain ⟨free, stepped⟩ := Option.ite_none_right_eq_some.mp stepped
      have rows : api.genuine.rowsFree c.pid (c.txn.locks api.db.genuine) = true := by
        rcases c.txn.locks_genuine api.db with nothing | same
        · rw [nothing]
          exact Api.rowsFree_iff.mpr fun _ _ _ _ _ _ => List.not_mem_nil
        · rw [same]
          exact free
      have both : Alike (c.txn.run env) api.db :=
        Txn.alike (commit_cases commits) signed clear done
      have db : api.genuine.db = api.db.genuine := rfl
      simp only [Api.commit, db, rows, if_true]
      rcases both with ⟨e, e', left, right⟩ | ⟨out, db', left, right⟩
      · rw [left] at stepped
        rw [right]
        cases owner : c.pid with
        | none =>
            simp only [owner, Option.some.injEq] at stepped ⊢
            rw [stepped]
        | some pid =>
            simp only [owner, Option.some.injEq] at stepped ⊢
            rw [← stepped, Api.become_genuine]
      · rw [left] at stepped
        rw [right]
        cases owner : c.pid with
        | none =>
            simp only [owner, Option.some.injEq] at stepped ⊢
            rw [← stepped]
            rfl
        | some pid =>
            simp only [owner, Option.some.injEq] at stepped ⊢
            rw [← stepped, Api.become_genuine]
            rfl

/-- An unsigned request leaves the genuine part as it was. -/
theorem step_unsigned {env : Env} {a : Action} {api api' : Api}
    (stepped : step env a api = some api') (unsigned : a.unsigned = true) :
    api'.genuine = api.genuine := by
  cases a with
  | deliver request rowId now =>
      have missing : request.signed = false := by simpa [Action.unsigned] using unsigned
      cases step_cases stepped with
      | committed c out db' enabled free ran =>
          cases commit_cases enabled
          simp only [Txn.run, Tx.bind_ok, Tx.pure_ok] at ran
          obtain ⟨_, _, ran, -, rfl⟩ := ran
          simp only [Api.resume, Api.genuine, (ingest_unsigned missing ran).1]
      | aborted c e enabled ran =>
          cases commit_cases enabled
          rfl
      | unshared _ moved idle => simp [step, idle, Action.local?] at stepped
  | _ => cases unsigned

/-- A run and the run of what is signed in it. -/
theorem run_genuine {env : Env} : ∀ {acts : List Action} {api api' : Api},
    run (step env) acts api = some api' → Along (step env) Unshadowed acts api →
      UnsignedDone api.db →
      run (step env) (acts.filter fun a => !a.unsigned) api.genuine = some api'.genuine
  | [], _, _, ran, _, _ => by
      cases ran
      rfl
  | a :: acts, api, api', ran, clear, done => by
      obtain ⟨t, stepped, rest⟩ := Option.bind_eq_some_iff.mp ran
      have later := run_genuine rest (clear.2 t stepped) (step_unsignedDone a api t stepped done)
      cases unsigned : a.unsigned with
      | true =>
          rw [step_unsigned stepped unsigned] at later
          simpa [unsigned] using later
      | false =>
          have first := step_genuine stepped unsigned clear.1 done
          simpa [unsigned, run, first] using later

/-! ## Unsigned requests have no effect -/

theorem UnsignedDone.start {db : Db} (fresh : db.Fresh) : UnsignedDone db := by
  obtain ⟨-, -, -, -, deliveries, -⟩ := fresh
  intro id d here
  rw [deliveries, Table.get?_empty] at here
  cases here

theorem Db.Fresh.genuine {db : Db} (fresh : db.Fresh) : db.genuine = db := by
  obtain ⟨-, -, -, -, deliveries, -⟩ := fresh
  have nothing : db.webhookDeliveries.keep signedRow = db.webhookDeliveries := by
    rw [deliveries]
    rfl
  rw [Db.genuine, nothing]

/-- **Unsigned requests have no effect** in a run where no signed request finds its
delivery id taken by the record of an unsigned one: the run without them goes
through, applies the same effects in the same order, and ends in the same bookings
and payments. -/
theorem unsigned_without_effect {env : Env} {now : Instant} {db : Db} (fresh : db.Fresh)
    {acts : List Action} {api : Api} (ran : run (step env) acts (Api.start now db) = some api)
    (clear : Along (step env) Unshadowed acts (Api.start now db)) :
    ∃ api', run (step env) (acts.filter fun a => !a.unsigned) (Api.start now db) = some api' ∧
      (essences env (acts.filter fun a => !a.unsigned) (Api.start now db)).filterMap Essence.pair =
        (essences env acts (Api.start now db)).filterMap Essence.pair ∧
      api'.db.bookings = api.db.bookings ∧ api'.db.payments = api.db.payments := by
  have begins : (Api.start now db).genuine = Api.start now db :=
    congrArg (Api.start now) fresh.genuine
  have without := run_genuine ran clear (UnsignedDone.start fresh)
  rw [begins] at without
  refine ⟨api.genuine, without, ?_, rfl, rfl⟩
  have gated := Gated.start fresh now
  have applied := run_pairs ran gated
  have applied' := run_pairs without gated
  rw [show api.genuine.db.paymentEvents = api.db.paymentEvents from rfl, applied] at applied'
  exact (List.append_cancel_left applied').symm

/-- An unsigned request under an id no delivery has, among a captured charge's own. -/
def forgedAmong : List Action :=
  Sample.holding 0 Sample.hold 7 0 ++ Sample.paying 1 (Uuid.path 7) 10 "ch_1" 0 ++
    [.deliver ⟨false, some (.str "forged"), "d_0"⟩ 20 0,
      .deliver (Sample.webhook "d_1" "ch_1" .chargeSucceeded) 21 0, .apply 2 21 0]

theorem unsigned_without_effect_forged : ∃ api,
    run (step .default) forgedAmong (Api.start 0 Sample.db) = some api ∧
      api.db.paymentEvents = [⟨"ch_1", .chargeSucceeded⟩] ∧
      ∃ api', run (step .default) (forgedAmong.filter fun a => !a.unsigned) (Api.start 0 Sample.db) =
          some api' ∧ api'.db.payments = api.db.payments := by
  have ran : ((run (step .default) forgedAmong (Api.start 0 Sample.db)).map
      fun api => api.db.paymentEvents) = some [⟨"ch_1", .chargeSucceeded⟩] := by
    decide +kernel
  obtain ⟨api, ran, events⟩ := Option.map_eq_some_iff.mp ran
  obtain ⟨api', without, -, -, payments⟩ :=
    unsigned_without_effect Sample.db_fresh ran (by decide +kernel)
  exact ⟨api, ran, events, api', without, payments⟩

/-- The same charge, its delivery preceded by an unsigned request under its id. -/
def forgedFirst : List Action :=
  Sample.holding 0 Sample.hold 7 0 ++ Sample.paying 1 (Uuid.path 7) 10 "ch_1" 0 ++
    [.deliver ⟨false, some (.str "forged"), "d_1"⟩ 20 0,
      .deliver (Sample.webhook "d_1" "ch_1" .chargeSucceeded) 21 0, .apply 2 21 0]

/-- **A forged request suppresses a genuine delivery.**  Recorded first under its id,
it leaves the charge unapplied and the booking unconfirmed; the run without it
confirms the booking. -/
theorem forged_request_suppresses :
    ((run (step .default) forgedFirst (Api.start 0 Sample.db)).map fun api =>
        (api.db.paymentEvents, (api.db.bookings.get? 7).map Booking.status)) =
      some ([], some .pendingPayment) ∧
    ((run (step .default) (forgedFirst.filter fun a => !a.unsigned) (Api.start 0 Sample.db)).map
        fun api => (api.db.paymentEvents, (api.db.bookings.get? 7).map Booking.status)) =
      some ([⟨"ch_1", .chargeSucceeded⟩], some .confirmed) := by
  constructor <;> decide +kernel

end Atrium
