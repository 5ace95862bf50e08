/-
# WebhookTotal -- which deliveries are recorded, and which can be applied

A delivery is recorded exactly where Postgres takes every text of it and its body, if it is
signed and parses, is not `null`.  Applied, a recorded delivery stops on nothing but its own
values: a date, an amount or a string that a column refuses (`webhook_total_iff`).
-/
import Atrium.Base.Raises
import Atrium.Inbound
import Atrium.WebhookIntake

namespace Atrium

open Atrium.Base

set_option autoImplicit false

/-! ## What is asked of a delivery -/

/-- The errors that only the shape of a body is behind. -/
def shapeFaults : List ApiError :=
  [.internal "SyntaxError", .internal "TypeError", .internal "RangeError", .database "22021",
    .database "22008", .database "22003", .database "22P05", .database "22P02"]

def IngestStatus.code : IngestStatus → Nat
  | .rejected => 401
  | _ => 200

section Runtime

variable (runtime : Runtime)

/-- An application finishes the delivery, leaves it waiting for its charge, or stops on
something other than the shape of its body. -/
def Handled (rawBody : String) (rowId : Uuid) (now : Instant) (db : Db) : Prop :=
  (∃ r db' d, applyRaw runtime rawBody rowId now db = .ok (r, db') ∧
    db'.webhookDeliveries.get? rowId = some d ∧
      (d.processedAt.isSome = true ∨ d.error = some "unknown_charge")) ∨
  ∃ e, applyRaw runtime rawBody rowId now db = .error e ∧ e ∉ shapeFaults

/-- **Intake is total and recording**: every delivery is answered and its row is there, and a
delivery recorded to be applied is handled whenever it is. -/
structure Takes (env : Env) (generated : String) (post : Post) : Prop where
  answers : ∀ (db : Db) (rowId : Uuid) (now : Instant), db.webhookDeliveries.get? rowId = none →
    ∃ status db', receive runtime env generated rowId now post db = .ok (status, db') ∧
      status.code ∈ [401, 200] ∧
      ∃ id d, db'.webhookDeliveries.get? id = some d ∧ d.deliveryId = post.deliveryId.getD generated
  applies : ∀ (before recorded db : Db) (rowId : Uuid) (received now : Instant) (d : WebhookDelivery),
    receive runtime env generated rowId received post before = .ok (.accepted (some rowId), recorded) →
    (∃ d, recorded.webhookDeliveries.get? rowId = some d ∧ d.processedAt = none) →
    db.webhookDeliveries.get? rowId = some d → d.processedAt = none →
      Handled runtime (runtime.utf8 post.rawBody) rowId now db

/-- The delivery can be recorded. -/
structure Recordable (env : Env) (generated : String) (post : Post) : Prop where
  raw : hasNul (runtime.utf8 post.rawBody) = false
  deliveryId : hasNul (post.deliveryId.getD generated) = false
  body : (post.request runtime (env.paygateSecret.getD "") generated).signed = true →
    ∀ value, runtime.parse (runtime.utf8 post.rawBody) = some value →
      ∃ body, readBody runtime value = some body ∧ ∀ text ∈ body.columns, hasNul text = false

end Runtime

/-- The values an event of the body sends are taken: its date, the charge id a capture writes
down, the amount and the id of a refund. -/
structure WebhookBody.Applicable (body : WebhookBody) (e : WebhookEvent) : Prop where
  occurred : ∀ t, body.occurredAt = some t → t.isTimestamp = true
  captured : e.event = .chargeSucceeded → ∀ units, body.chargeId = some units → units.jsonb = true
  amount : e.event = .refundSucceeded → ∀ x, body.amountMinor = some x →
    ∃ n, x.rounded = some n ∧ fitsBigint n = true
  refunded : e.event = .refundSucceeded → ∀ units, body.refundId = some units → units.jsonb = true

/-! ## The errors of the effects -/

section Raises

/-- No error of `x` comes from the shape of a body. -/
abbrev ShapeFree {α : Type} (x : Transaction α) : Prop := Tx.Raises (fun e => e ∉ shapeFaults) x

theorem updatePayment_sound (id : Uuid) (f : Payment → Payment) : ShapeFree (updatePayment id f) := by
  refine Tx.Raises.bind (Tx.Raises.read _) fun found => ?_
  cases found with
  | none => exact Tx.Raises.pure ()
  | some p =>
      refine Tx.Raises.bind (Tx.Raises.read _) fun fits => ?_
      exact Tx.Raises.ite (Tx.Raises.write _) (Tx.Raises.abort (by decide))

theorem parseTiers_sound (row : Uuid × CancellationPolicy) : ShapeFree (parseTiers row) := by
  unfold parseTiers
  split
  · exact Tx.Raises.pure _
  · refine Tx.Raises.abort ?_
    split <;> decide

theorem resolvePolicySnapshot_sound (venueId : Uuid) (now : Instant) :
    ShapeFree (resolvePolicySnapshot venueId now) := by
  refine Tx.Raises.bind ?_ fun _ => Tx.Raises.pure _
  refine Tx.Raises.bind (Tx.Raises.read _) fun own => ?_
  cases own with
  | some row => exact Tx.Raises.bind (parseTiers_sound row) fun _ => Tx.Raises.pure _
  | none =>
      refine Tx.Raises.bind (Tx.Raises.read _) fun platform => ?_
      cases platform with
      | some row => exact Tx.Raises.bind (parseTiers_sound row) fun _ => Tx.Raises.pure _
      | none => exact Tx.Raises.abort (by simp [shapeFaults])

theorem transition_sound (now : Instant) (input : TransitionInput) :
    ShapeFree (transition now input) := by
  refine Tx.Raises.bind (Tx.Raises.fetch _ (by decide)) fun locked => ?_
  refine Tx.Raises.bind ?_ fun _ => ?_
  · unfold requireExpected
    split
    · exact Tx.Raises.pure _
    · exact Tx.Raises.ite (Tx.Raises.pure _) (Tx.Raises.abort (by simp [shapeFaults]))
  · refine Tx.Raises.ite ?_ (Tx.Raises.abort (by simp [shapeFaults]))
    refine Tx.Raises.bind (Tx.Raises.write _) fun _ => ?_
    exact Tx.Raises.bind (Tx.Raises.write _) fun _ => Tx.Raises.pure _

theorem onChargeSucceeded_sound (payment : Uuid × Payment) (chargeId : String) (now : Instant) :
    ShapeFree (onChargeSucceeded payment chargeId now) := by
  refine Tx.Raises.bind (updatePayment_sound _ _) fun _ => ?_
  refine Tx.Raises.bind (Tx.Raises.read _) fun found => ?_
  cases found with
  | none => exact Tx.Raises.abort (by decide)
  | some booking =>
      refine Tx.Raises.ite ?_ ?_
      · refine Tx.Raises.bind (resolvePolicySnapshot_sound _ _) fun _ => ?_
        exact Tx.Raises.bind (transition_sound _ _) fun _ => Tx.Raises.pure _
      · have rest : ShapeFree (do
            updatePayment payment.1 (mintRefundKey (refundKey chargeId) now)
            insertAudit ⟨payment.2.bookingId, systemActor, booking.status, booking.status,
              "refund.initiated.unconfirmable_hold"⟩
            pure (some
              { paymentId := payment.1, chargeId := chargeId, bookingId := payment.2.bookingId
                amountMinor := payment.2.amountMinor, idempotencyKey := refundKey chargeId
                reason := "hold_not_confirmable" : RefundInstruction })) := by
          refine Tx.Raises.bind (updatePayment_sound _ _) fun _ => ?_
          exact Tx.Raises.bind (Tx.Raises.write _) fun _ => Tx.Raises.pure _
        refine Tx.Raises.ite ?_ rest
        exact Tx.Raises.bind (transition_sound _ _) fun _ => rest

theorem onChargeFailed_sound (payment : Uuid × Payment) (now : Instant) :
    ShapeFree (onChargeFailed payment now) := by
  refine Tx.Raises.bind (updatePayment_sound _ _) fun _ => ?_
  refine Tx.Raises.bind (Tx.Raises.read _) fun found => ?_
  cases found with
  | none => exact Tx.Raises.pure ()
  | some booking =>
      refine Tx.Raises.ite ?_ (Tx.Raises.pure ())
      exact Tx.Raises.bind (transition_sound _ _) fun _ => Tx.Raises.pure ()

theorem onRefundSucceeded_sound (payment : Uuid × Payment) (refundId : Option String)
    (amount : Option Int) (now : Instant) : ShapeFree (onRefundSucceeded payment refundId amount now) := by
  refine Tx.Raises.bind (updatePayment_sound _ _) fun _ => ?_
  refine Tx.Raises.bind (Tx.Raises.read _) fun found => ?_
  cases found with
  | none => exact Tx.Raises.pure ()
  | some booking =>
      refine Tx.Raises.ite ?_ (Tx.Raises.write _)
      exact Tx.Raises.bind (transition_sound _ _) fun _ => Tx.Raises.pure ()

theorem applyEffect_sound (payment : Uuid × Payment) (e : WebhookEvent) (now : Instant) :
    ShapeFree (applyEffect payment e now) := by
  unfold applyEffect
  split
  · exact onChargeSucceeded_sound _ _ _
  · exact Tx.Raises.bind (onChargeFailed_sound _ _) fun _ => Tx.Raises.pure none
  · exact Tx.Raises.bind (onRefundSucceeded_sound _ _ _ _) fun _ => Tx.Raises.pure none

theorem findPayment_sound (e : WebhookEvent) (now : Instant) : ShapeFree (findPayment e now) := by
  refine Tx.Raises.bind (Tx.Raises.read _) fun found => ?_
  split
  · exact Tx.Raises.pure _
  · refine Tx.Raises.bind (Tx.Raises.read _) fun row => ?_
    cases row with
    | none => exact Tx.Raises.pure _
    | some row =>
        refine Tx.Raises.ite ?_ (Tx.Raises.pure _)
        exact Tx.Raises.bind (updatePayment_sound _ _) fun _ => Tx.Raises.pure _
  · exact Tx.Raises.pure _

theorem claimEvent_sound (e : PaymentEvent) : ShapeFree (claimEvent e) := by
  refine Tx.Raises.bind (Tx.Raises.read _) fun taken => ?_
  refine Tx.Raises.ite (Tx.Raises.pure _) ?_
  exact Tx.Raises.bind (Tx.Raises.write _) fun _ => Tx.Raises.pure _

end Raises

/-! ## An application is handled -/

theorem supported_fields {fields : WebhookFields} {e : WebhookEvent}
    (supported : fields.supported = some e) :
    fields.chargeId = some e.chargeId ∧ fields.reference = e.reference ∧
      fields.refundId = e.refundId ∧ fields.amountMinor = e.amountMinor ∧
      fields.event.bind EventName.ofLabel = some e.event := by
  unfold WebhookFields.supported at supported
  split at supported
  · rename_i chargeId event charge label
    cases supported
    exact ⟨charge, rfl, rfl, rfl, label⟩
  · cases supported

section Applies

variable {body : WebhookBody} {e : WebhookEvent} {payment : Uuid × Payment} {now : Instant}

theorem refuseNul_sound {texts : List String} (clean : ∀ text ∈ texts, hasNul text = false) :
    ShapeFree (refuseNul texts) := by
  intro db fault failed
  obtain ⟨⟨text, among, nul⟩, -⟩ := refuseNul_error.mp failed
  rw [clean text among] at nul
  cases nul

theorem refuseJsonb_sound {units : Option Utf16} (taken : ∀ u, units = some u → u.jsonb = true) :
    ShapeFree (refuseJsonb units) := by
  intro db fault failed
  rw [refuseJsonb_run taken] at failed
  cases failed

theorem refuseInstant_sound {t : Option Instant} (taken : ∀ u, t = some u → u.isTimestamp = true) :
    ShapeFree (refuseInstant t) := by
  have none_ : ¬ (t.any fun t => !Instant.isTimestamp t) = true := by
    cases t with
    | none => exact Bool.false_ne_true
    | some u =>
        rw [Option.any_some, taken u rfl]
        exact Bool.false_ne_true
  unfold refuseInstant
  rw [if_neg none_]
  exact Tx.Raises.pure _

theorem applyBody_sound (applicable : body.Applicable e) (supported : body.fields.supported = some e) :
    ShapeFree (applyBody payment body e now) := by
  obtain ⟨-, -, refund, amount, -⟩ := supported_fields supported
  unfold applyBody
  split
  · rename_i captured
    refine Tx.Raises.bind (applyEffect_sound _ _ _) fun _ => ?_
    exact Tx.Raises.bind (refuseJsonb_sound (applicable.captured captured)) fun _ => Tx.Raises.pure _
  · exact applyEffect_sound _ _ _
  · rename_i refunded
    have rounds : ¬ (body.amountMinor.any fun x => x.rounded.isNone) = true := by
      cases given : body.amountMinor with
      | none => exact Bool.false_ne_true
      | some x =>
          obtain ⟨n, rounded, -⟩ := applicable.amount refunded x given
          rw [Option.any_some, rounded]
          exact Bool.false_ne_true
    have fits : ¬ (e.amountMinor.any fun amount => !fitsBigint amount) = true := by
      rw [← amount]
      cases given : body.amountMinor with
      | none =>
          simp [WebhookBody.fields, given]
      | some x =>
          obtain ⟨n, rounded, fits⟩ := applicable.amount refunded x given
          simp [WebhookBody.fields, given, rounded, fits]
    have clean : ∀ text ∈ e.refundId.toList, hasNul text = false := by
      intro text among
      rw [← refund] at among
      obtain ⟨units, given, rfl⟩ := Option.map_eq_some_iff.mp (Option.mem_toList.mp among)
      have taken := applicable.refunded refunded units given
      simp only [Utf16.jsonb, Bool.and_eq_true, Bool.not_eq_true'] at taken
      exact taken.1
    simp only [if_neg rounds, if_neg fits]
    refine Tx.Raises.bind (refuseNul_sound clean) fun _ => ?_
    refine Tx.Raises.bind (applyEffect_sound _ _ _) fun _ => ?_
    refine Tx.Raises.bind (Tx.Raises.read _) fun booking => ?_
    refine Tx.Raises.ite ?_ (Tx.Raises.pure _)
    exact Tx.Raises.bind (refuseJsonb_sound (applicable.refunded refunded)) fun _ => Tx.Raises.pure _

theorem applyRawEvent_sound (applicable : body.Applicable e)
    (supported : body.fields.supported = some e)
    (clean : ∀ text ∈ body.columns, hasNul text = false) : ShapeFree (applyRawEvent body e now) := by
  obtain ⟨charge, reference, -, -, -⟩ := supported_fields supported
  have among : ∀ text, text = e.chargeId ∨ text ∈ e.reference.toList → text ∈ body.columns := by
    intro text either
    unfold WebhookBody.columns
    rw [charge, reference]
    rcases either with rfl | within
    · exact List.mem_append_left _ (List.mem_append_left _ List.mem_cons_self)
    · exact List.mem_append_left _ (List.mem_append_right _ within)
  unfold applyRawEvent
  refine Tx.Raises.bind (refuseNul_sound fun text here => ?_) fun _ => ?_
  · exact clean text (among text (.inl (List.mem_singleton.mp here)))
  refine Tx.Raises.bind (findPayment_sound e now) fun found => ?_
  cases found with
  | none =>
      refine Tx.Raises.bind (refuseNul_sound fun text here => ?_) fun _ => Tx.Raises.pure _
      exact clean text (among text (.inr here))
  | some payment =>
      refine Tx.Raises.bind (refuseInstant_sound applicable.occurred) fun _ => ?_
      refine Tx.Raises.bind (claimEvent_sound _) fun claimed => ?_
      refine Tx.Raises.ite ?_ (Tx.Raises.pure _)
      exact Tx.Raises.bind (applyBody_sound applicable supported) fun _ => Tx.Raises.pure _

/-! ## What an application does -/

theorem refuseJsonb_ok {units : Option Utf16} {db db' : Db} {u : Unit}
    (returned : refuseJsonb units db = .ok (u, db')) : db' = db := by
  simp only [refuseJsonb, Tx.ite_ok, Tx.abort_ok, and_false, false_or, Tx.pure_ok] at returned
  exact returned.2.2.2.symm

/-- Where it returns, `applyBody` has done what `applyEffect` does. -/
theorem applyBody_ok {db db' : Db} {r : Option RefundInstruction}
    (returned : applyBody payment body e now db = .ok (r, db')) :
    applyEffect payment e now db = .ok (r, db') := by
  cases event : e.event with
  | chargeSucceeded =>
      simp only [applyBody, event, Tx.bind_ok, Tx.pure_ok] at returned
      obtain ⟨instruction, t, effect, _, t', checked, rfl, rfl⟩ := returned
      rw [refuseJsonb_ok checked]
      exact effect
  | chargeFailed =>
      simp only [applyBody, event] at returned
      exact returned
  | refundSucceeded =>
      simp only [applyBody, event, Tx.bind_ok, Tx.ite_ok, Tx.abort_ok, Tx.pure_ok, refuseNul_ok,
        lockBooking, Tx.read_ok, false_and, and_false, exists_false, false_or] at returned
      obtain ⟨-, _, _, ⟨-, rfl⟩, -, instruction, t, effect, booking, _, ⟨-, rfl⟩, last⟩ := returned
      rcases last with ⟨-, _, _, checked, rfl, rfl⟩ | ⟨-, rfl, rfl⟩
      · rw [refuseJsonb_ok checked]
        exact effect
      · exact effect

/-- Where it returns, `applyRawEvent` has done what `applyEvent` does. -/
theorem applyRawEvent_ok {db db' : Db} {verdict : Verdict}
    (returned : applyRawEvent body e now db = .ok (verdict, db')) :
    applyEvent e now db = .ok (verdict, db') := by
  simp only [applyRawEvent, Tx.bind_ok, refuseNul_ok] at returned
  obtain ⟨_, _, ⟨-, rfl⟩, found, t, looked, rest⟩ := returned
  rw [applyEvent, Tx.bind_of_ok looked]
  cases found with
  | none =>
      simp only [Tx.bind_ok, refuseNul_ok] at rest
      obtain ⟨_, _, ⟨-, rfl⟩, last⟩ := rest
      exact last
  | some payment =>
      simp only [Tx.bind_ok, refuseInstant, Tx.ite_ok, Tx.abort_ok, and_false, false_or,
        Tx.pure_ok] at rest
      obtain ⟨_, _, ⟨-, -, rfl⟩, claimed, t', won, last⟩ := rest
      simp only []
      rw [Tx.bind_of_ok won]
      rcases last with ⟨yes, instruction, t'', applied, rfl, rfl⟩ | ⟨no, rfl, rfl⟩
      · rw [if_pos yes, Tx.bind_of_ok (applyBody_ok applied)]
        rfl
      · rw [if_neg no]
        rfl

theorem applyEvent_deliveries {db db' : Db} {verdict : Verdict}
    (returned : applyEvent e now db = .ok (verdict, db')) :
    db'.webhookDeliveries = db.webhookDeliveries := by
  obtain ⟨found, t, looked, rest⟩ := applyEvent_ok returned
  have kept := (findPayment_events looked).2
  rcases rest with ⟨-, -, rfl⟩ | ⟨-, -, rfl, -⟩ | ⟨payment, r, -, -, applied⟩
  · exact kept
  · exact kept
  · rw [applied.consequence.events.2, Db.claim_webhookDeliveries, kept]

end Applies

/-- An application, from its event on. -/
theorem applyRaw_event {runtime : Runtime} {rawBody : String} {value : JsonValue}
    {body : WebhookBody} {e : WebhookEvent} (parsed : runtime.parse rawBody = some value)
    (read : readBody runtime value = some body) (supported : body.fields.supported = some e)
    {rowId : Uuid} {now : Instant} {db : Db} {d : WebhookDelivery}
    (stored : db.webhookDeliveries.get? rowId = some d) (unprocessed : d.processedAt = none) :
    applyRaw runtime rawBody rowId now db = (do
      let verdict ← applyRawEvent body e now
      settleDelivery rowId e now verdict) db := by
  have found : (db.webhookDeliveries.get? rowId).filter (fun d => d.processedAt.isNone) = some d := by
    rw [stored, Option.filter_some, unprocessed]
    rfl
  simp only [applyRaw, Tx.read_bind, found, Tx.fetch_bind, parsed, read, supported]

/-- **A delivery whose body can be applied is handled.** -/
theorem handled_of_applicable {runtime : Runtime} {rawBody : String} {value : JsonValue}
    {body : WebhookBody} (parsed : runtime.parse rawBody = some value)
    (read : readBody runtime value = some body)
    (applicable : ∀ e, body.fields.supported = some e → body.Applicable e)
    (clean : ∀ text ∈ body.columns, hasNul text = false) {rowId : Uuid} {now : Instant} {db : Db}
    {d : WebhookDelivery} (stored : db.webhookDeliveries.get? rowId = some d)
    (unprocessed : d.processedAt = none) : Handled runtime rawBody rowId now db := by
  have found : (db.webhookDeliveries.get? rowId).filter (fun d => d.processedAt.isNone) = some d := by
    rw [stored, Option.filter_some, unprocessed]
    rfl
  cases supported : body.fields.supported with
  | none =>
      left
      refine ⟨none, db.modifyDelivery rowId fun d =>
          { d with processedAt := some now, error := some "unsupported_event" },
        { d with processedAt := some now, error := some "unsupported_event" }, ?_, ?_, .inl rfl⟩
      · simp only [applyRaw, Tx.read_bind, found, Tx.fetch_bind, parsed, read, supported]
        rfl
      · exact Table.get?_modify_some.mpr ⟨d, stored, if_pos rfl⟩
  | some e =>
      have ran := @applyRaw_event runtime rawBody value body e parsed read supported rowId now db d stored unprocessed
      cases outcome : applyRawEvent body e now db with
      | error fault =>
          right
          refine ⟨fault, ?_, applyRawEvent_sound (applicable e supported) supported clean db fault outcome⟩
          rw [ran]
          exact Tx.bind_error.mpr (.inl outcome)
      | ok returned =>
          obtain ⟨verdict, t⟩ := returned
          left
          have kept := applyEvent_deliveries (applyRawEvent_ok outcome)
          refine ⟨verdict.instruction, t.modifyDelivery rowId (settledRow e now verdict),
            settledRow e now verdict d, ?_, ?_, ?_⟩
          · rw [ran, Tx.bind_of_ok outcome]
            exact settleDelivery_ok.mpr ⟨rfl, rfl⟩
          · rw [Db.modifyDelivery_webhookDeliveries, kept]
            exact Table.get?_modify_some.mpr ⟨d, stored, if_pos rfl⟩
          · cases verdict with
            | unknownCharge => exact .inr rfl
            | duplicateEffect => exact .inl rfl
            | applied instruction => exact .inl rfl

/-! ## Intake -/

section Intake

variable {runtime : Runtime} {env : Env} {generated : String} {post : Post} {rowId : Uuid}
  {now : Instant} {db : Db}

theorem recordDelivery_run {row : WebhookDelivery} (fresh : db.webhookDeliveries.get? rowId = none) :
    ∃ r db', recordDelivery rowId row db = .ok (r, db') ∧
      ∃ id d, db'.webhookDeliveries.get? id = some d ∧ d.deliveryId = row.deliveryId := by
  cases known : (db.webhookDeliveries.select fun _ d =>
      decide (d.deliveryId = row.deliveryId)).head? with
  | some found =>
      have here := Table.mem_select.mp (List.mem_of_head? known)
      refine ⟨none, db, ?_, found.1, found.2, here.1, of_decide_eq_true here.2⟩
      simp only [recordDelivery, Tx.read_bind, known]
      rfl
  | none =>
      obtain ⟨deliveries, inserted⟩ := Table.insert?_of_fresh fresh row
      refine ⟨some rowId, { db with webhookDeliveries := deliveries }, ?_, rowId, row, ?_, rfl⟩
      · simp only [recordDelivery, Tx.read_bind, known, Tx.fetch_bind, inserted, Tx.write_bind]
        rfl
      · rw [Table.get?_insert? inserted, if_pos rfl]

theorem recordRaw_run {raw : String} {columns : List String} {row : WebhookDelivery}
    (rawClean : hasNul raw = false) (idClean : hasNul row.deliveryId = false)
    (clean : ∀ text ∈ columns, hasNul text = false)
    (fresh : db.webhookDeliveries.get? rowId = none) :
    ∃ r db', recordRaw rowId raw columns row db = .ok (r, db') ∧
      ∃ id d, db'.webhookDeliveries.get? id = some d ∧ d.deliveryId = row.deliveryId := by
  have sent : refuseNul (row.deliveryId :: raw :: columns) db = .ok ((), db) := by
    refine refuseNul_ok.mpr ⟨fun text among => ?_, rfl⟩
    rcases List.mem_cons.mp among with rfl | among
    · exact idClean
    rcases List.mem_cons.mp among with rfl | among
    · exact rawClean
    · exact clean text among
  obtain ⟨r, db', recorded, row'⟩ := @recordDelivery_run rowId db row fresh
  refine ⟨r, db', ?_, row'⟩
  rw [recordRaw, Tx.bind_of_ok sent]
  exact recorded

theorem recordRaw_ok {raw : String} {columns : List String} {row : WebhookDelivery} {r : Option Uuid}
    {db' : Db} (returned : recordRaw rowId raw columns row db = .ok (r, db')) :
    hasNul raw = false ∧ hasNul row.deliveryId = false ∧ (∀ text ∈ columns, hasNul text = false) ∧
      recordDelivery rowId row db = .ok (r, db') := by
  simp only [recordRaw, Tx.bind_ok, refuseNul_ok] at returned
  obtain ⟨_, _, ⟨clean, rfl⟩, recorded⟩ := returned
  refine ⟨clean _ (List.mem_cons_of_mem _ List.mem_cons_self), clean _ List.mem_cons_self, ?_, recorded⟩
  exact fun text among => clean text (List.mem_cons_of_mem _ (List.mem_cons_of_mem _ among))

/-! ### The members, as `Payments` reads them -/

theorem text_eq_empty {units : Utf16} : units.text = "" ↔ units = [] := by
  have list : units.text = "" ↔ Utf16.chars units = [] := by
    rw [Utf16.text, ← String.toList_inj, String.toList_ofList]
    rfl
  rw [list]
  constructor
  · intro none_
    match units with
    | [] => rfl
    | [u] => cases none_
    | u :: v :: rest =>
        rw [Utf16.chars] at none_
        split at none_
        · cases none_
        · cases none_
  · rintro rfl
    rfl

theorem asString_leaf (value : Option JsonValue) :
    Json.asString (value.map JsonValue.leaf) = (JsonValue.asString value).map Utf16.text := by
  match value with
  | none => rfl
  | some .null => rfl
  | some (.bool _) => rfl
  | some (.num (.finite _)) => rfl
  | some (.num (.infinite _)) => rfl
  | some (.arr _) => rfl
  | some (.obj _) => rfl
  | some (.str units) =>
      simp only [Option.map_some, JsonValue.leaf, Json.asString, JsonValue.asString, text_eq_empty]
      split
      · rfl
      · rfl

theorem asRounded_leaf (value : Option JsonValue) :
    Json.asRounded (value.map JsonValue.leaf) = (JsonValue.asNumber value).bind Double.rounded := by
  match value with
  | none => rfl
  | some .null => rfl
  | some (.bool _) => rfl
  | some (.num (.finite _)) => rfl
  | some (.num (.infinite _)) => rfl
  | some (.arr _) => rfl
  | some (.obj _) => rfl
  | some (.str _) => rfl

theorem get?_view (value : JsonValue) (field : String) :
    value.view.get? field = (value.get? field).map JsonValue.leaf := by
  cases value with
  | obj members =>
      simp only [JsonValue.view, Json.get?, JsonValue.get?, ← List.map_reverse, List.find?_map,
        Option.map_map]
      rfl
  | num x => cases x <;> rfl
  | _ => rfl

theorem readFields_view {value : JsonValue} {body : WebhookBody}
    (read : readBody runtime value = some body) : readFields value.view = some body.fields := by
  have members : value ≠ .null → readFields value.view = some
      { chargeId := Json.asString (value.view.get? "charge_id")
        reference := Json.asString (value.view.get? "reference")
        event := Json.asString (value.view.get? "event")
        refundId := Json.asString (value.view.get? "refund_id")
        amountMinor := Json.asRounded (value.view.get? "amount_minor") } := by
    intro some_
    cases value with
    | null => exact absurd rfl some_
    | num x => cases x <;> rfl
    | _ => rfl
  have some_ : value ≠ .null := by
    rintro rfl
    cases read
  have body_ : body =
      { chargeId := JsonValue.asString (value.get? "charge_id")
        reference := JsonValue.asString (value.get? "reference")
        event := JsonValue.asString (value.get? "event")
        refundId := JsonValue.asString (value.get? "refund_id")
        amountMinor := JsonValue.asNumber (value.get? "amount_minor")
        occurredAt := parseDate runtime (value.get? "occurred_at") } := by
    cases value with
    | null => exact absurd rfl some_
    | _ =>
        cases read
        rfl
  rw [members some_, body_]
  simp only [get?_view, asString_leaf, asRounded_leaf, WebhookBody.fields]

/-- Where it returns, `receive` has done what `ingest` does. -/
theorem receive_ingest {status : IngestStatus} {db' : Db}
    (returned : receive runtime env generated rowId now post db = .ok (status, db')) :
    ingest env (post.request runtime (env.paygateSecret.getD "") generated) rowId now db =
      .ok (status, db') := by
  have parsed_ : (post.request runtime (env.paygateSecret.getD "") generated).body =
      (runtime.parse (runtime.utf8 post.rawBody)).map JsonValue.view := rfl
  simp only [receive, Tx.ite_ok, Tx.abort_ok, and_false, false_or] at returned
  obtain ⟨configured, ⟨unsigned, returned⟩ | ⟨signed, returned⟩⟩ := returned
  · simp only [Tx.bind_ok] at returned
    obtain ⟨_, _, recorded, last⟩ := returned
    rw [ingest, if_neg configured, if_pos unsigned, Tx.bind_of_ok (recordRaw_ok recorded).2.2.2]
    exact last
  · rw [ingest, if_neg configured, if_neg signed, parsed_]
    cases parsed : runtime.parse (runtime.utf8 post.rawBody) with
    | none =>
        simp only [parsed, Tx.bind_ok] at returned
        obtain ⟨_, _, recorded, last⟩ := returned
        simp only [Option.map_none]
        rw [Tx.bind_of_ok (recordRaw_ok recorded).2.2.2]
        exact last
    | some value =>
        simp only [parsed, Tx.bind_ok, Tx.fetch_ok] at returned
        obtain ⟨body, _, ⟨read, rfl⟩, r, t, recorded, last⟩ := returned
        simp only [Option.map_some, Tx.fetch_bind, readFields_view read]
        rw [Tx.bind_of_ok (recordRaw_ok recorded).2.2.2]
        exact last

/-- **A delivery that can be recorded is answered and recorded.** -/
theorem receive_run (configured : env.paygateSecret.getD "" ≠ "")
    (recordable : Recordable runtime env generated post)
    (fresh : db.webhookDeliveries.get? rowId = none) :
    ∃ status db', receive runtime env generated rowId now post db = .ok (status, db') ∧
      status.code ∈ [401, 200] ∧
      ∃ id d, db'.webhookDeliveries.get? id = some d ∧ d.deliveryId = post.deliveryId.getD generated := by
  have record := fun columns clean row (named : row.deliveryId = post.deliveryId.getD generated) =>
    @recordRaw_run rowId db (runtime.utf8 post.rawBody) columns row recordable.raw
      (named ▸ recordable.deliveryId) clean fresh
  cases signed : (post.request runtime (env.paygateSecret.getD "") generated).signed with
  | false =>
      obtain ⟨r, db', recorded, id, d, stored, named⟩ := record [] (by simp)
        (deliveryRow (post.request runtime (env.paygateSecret.getD "") generated) none
          (some "invalid_signature") true now) rfl
      refine ⟨.rejected, db', ?_, by decide, id, d, stored, named⟩
      simp only [receive, if_neg configured, if_pos signed]
      rw [Tx.bind_of_ok recorded]
      rfl
  | true =>
      have proper : ¬ (post.request runtime (env.paygateSecret.getD "") generated).signed = false := by
        rw [signed]
        decide
      cases parsed : runtime.parse (runtime.utf8 post.rawBody) with
      | none =>
          obtain ⟨r, db', recorded, id, d, stored, named⟩ := record [] (by simp)
            (deliveryRow (post.request runtime (env.paygateSecret.getD "") generated) none
              (some "unparseable_body") true now) rfl
          refine ⟨.accepted none, db', ?_, by decide, id, d, stored, named⟩
          simp only [receive, if_neg configured, if_neg proper, parsed]
          rw [Tx.bind_of_ok recorded]
          rfl
      | some value =>
          obtain ⟨body, read, clean⟩ := recordable.body signed value parsed
          obtain ⟨r, db', recorded, id, d, stored, named⟩ := record body.columns clean
            (deliveryRow (post.request runtime (env.paygateSecret.getD "") generated) (some body.fields)
              (if body.fields.event.any fun event => !supportedEvent event then
                some "unsupported_event" else none)
              (body.fields.event.any fun event => !supportedEvent event) now) rfl
          cases r with
          | none =>
              refine ⟨.duplicate, db', ?_, by decide, id, d, stored, named⟩
              simp only [receive, if_neg configured, if_neg proper, parsed, Tx.fetch_bind, read]
              rw [Tx.bind_of_ok recorded]
              rfl
          | some accepted =>
              refine ⟨.accepted (some accepted), db', ?_, by simp [IngestStatus.code], id, d, stored, named⟩
              simp only [receive, if_neg configured, if_neg proper, parsed, Tx.fetch_bind, read]
              rw [Tx.bind_of_ok recorded]
              rfl

/-- A delivery that is answered could be recorded. -/
theorem recordable_of_receive {status : IngestStatus} {db' : Db}
    (returned : receive runtime env generated rowId now post db = .ok (status, db')) :
    Recordable runtime env generated post := by
  simp only [receive, Tx.ite_ok, Tx.abort_ok, and_false, false_or] at returned
  obtain ⟨-, ⟨unsigned, returned⟩ | ⟨-, returned⟩⟩ := returned
  · simp only [Tx.bind_ok] at returned
    obtain ⟨_, _, recorded, -⟩ := returned
    obtain ⟨raw, named, -, -⟩ := recordRaw_ok recorded
    refine ⟨raw, named, fun signed => ?_⟩
    rw [unsigned] at signed
    cases signed
  · cases parsed : runtime.parse (runtime.utf8 post.rawBody) with
    | none =>
        simp only [parsed, Tx.bind_ok] at returned
        obtain ⟨_, _, recorded, -⟩ := returned
        obtain ⟨raw, named, -, -⟩ := recordRaw_ok recorded
        refine ⟨raw, named, fun _ value parsed' => ?_⟩
        cases parsed.symm.trans parsed'
    | some value =>
        simp only [parsed, Tx.bind_ok, Tx.fetch_ok] at returned
        obtain ⟨body, _, ⟨read, rfl⟩, _, _, recorded, -⟩ := returned
        obtain ⟨raw, named, clean, -⟩ := recordRaw_ok recorded
        refine ⟨raw, named, fun _ value' parsed' => ?_⟩
        cases parsed.symm.trans parsed'
        exact ⟨body, read, clean⟩

end Intake

/-! ## A delivery that stops -/

namespace Sample

/-- A booking that expired before its charge was told. -/
def lapsedBooking : Booking :=
  { venueId := 1, roomId := room, userId := 5, startsAt := 43200000, endsAt := 46800000
    status := .expired, expiresAt := none, rearmCount := 0, policySnapshot := none
    totalMinor := 5000, currency := "PKR", createdAt := 0, updatedAt := 0 }

/-- Its payment, under a charge id. -/
def charged (chargeId : String) : Payment :=
  { bookingId := 8, idempotencyKey := chargeKey "8", chargeId := some chargeId, amountMinor := 5000
    status := .pending, refundId := none, refundIdempotencyKey := none, refundedMinor := 0
    failureReason := none, createdAt := 0, updatedAt := 0 }

theorem one_lapsed : ([((8 : Uuid), lapsedBooking)].map Prod.fst).Nodup := List.nodup_singleton 8

theorem one_charged (chargeId : String) : ([((9 : Uuid), charged chargeId)].map Prod.fst).Nodup :=
  List.nodup_singleton 9

theorem one_delivery (rowId : Uuid) (d : WebhookDelivery) : ([(rowId, d)].map Prod.fst).Nodup :=
  List.nodup_singleton rowId

/-- The delivery waits for the payment of that charge. -/
def awaiting (rowId : Uuid) (d : WebhookDelivery) (chargeId : String) : Db :=
  { db with
    bookings := ⟨[(8, lapsedBooking)], one_lapsed⟩
    payments := ⟨[(9, charged chargeId)], one_charged chargeId⟩
    webhookDeliveries := ⟨[(rowId, d)], one_delivery rowId d⟩ }

theorem awaiting_found (rowId : Uuid) (d : WebhookDelivery) (chargeId : String) :
    paymentByChargeId (awaiting rowId d chargeId) chargeId = some (9, charged chargeId) := by
  simp [paymentByChargeId, awaiting, Table.select, charged]

theorem awaiting_stored (rowId : Uuid) (d : WebhookDelivery) (chargeId : String) :
    (awaiting rowId d chargeId).webhookDeliveries.get? rowId = some d := by
  simp [awaiting, Table.get?]

theorem awaiting_captured (rowId : Uuid) (d : WebhookDelivery) (chargeId : String) (now : Instant)
    (pair : PaymentEvent) : ∃ r db', onChargeSucceeded (9, charged chargeId) chargeId now
      ((awaiting rowId d chargeId).claim pair) = .ok (r, db') :=
  ⟨_, _, rfl⟩

theorem awaiting_refunded (rowId : Uuid) (d : WebhookDelivery) (chargeId : String) (now : Instant)
    (refundId : Option String) (amount : Option Int) (pair : PaymentEvent) :
    ∃ u db', onRefundSucceeded (9, charged chargeId) refundId amount now
      ((awaiting rowId d chargeId).claim pair) = .ok (u, db') ∧ db'.bookings.get? 8 = some lapsedBooking := by
  cases refundId with
  | none => exact ⟨_, _, rfl, rfl⟩
  | some refundId => exact ⟨_, _, rfl, rfl⟩

end Sample

section Stops

variable {runtime : Runtime} {body : WebhookBody} {e : WebhookEvent} {rowId : Uuid}
  {d : WebhookDelivery} {now : Instant}

/-- An application that reaches its effect, on the waiting delivery. -/
theorem awaiting_effect (clean : hasNul e.chargeId = false)
    (occurred : ∀ t, body.occurredAt = some t → t.isTimestamp = true) :
    applyRawEvent body e now (Sample.awaiting rowId d e.chargeId) =
      (do
        let instruction ← applyBody (9, Sample.charged e.chargeId) body e now
        pure (Verdict.applied instruction) : Transaction Verdict)
        ((Sample.awaiting rowId d e.chargeId).claim ⟨e.chargeId, e.event⟩) := by
  have sent : refuseNul [e.chargeId] (Sample.awaiting rowId d e.chargeId) =
      .ok ((), Sample.awaiting rowId d e.chargeId) := by
    refine refuseNul_ok.mpr ⟨fun text among => ?_, rfl⟩
    rw [List.mem_singleton.mp among]
    exact clean
  have dated : refuseInstant body.occurredAt (Sample.awaiting rowId d e.chargeId) =
      .ok ((), Sample.awaiting rowId d e.chargeId) := by
    cases outcome : refuseInstant body.occurredAt (Sample.awaiting rowId d e.chargeId) with
    | error fault =>
        have sound := refuseInstant_sound occurred _ fault outcome
        simp only [refuseInstant, Tx.ite_error, Tx.abort_error, Tx.pure_error, and_false, or_false] at outcome
        rw [← outcome.2] at sound
        exact absurd sound (by decide)
    | ok returned =>
        obtain ⟨u, t⟩ := returned
        simp only [refuseInstant, Tx.ite_ok, Tx.abort_ok, Tx.pure_ok, and_false, false_or] at outcome
        rw [outcome.2.2]
  have won : claimEvent ⟨e.chargeId, e.event⟩ (Sample.awaiting rowId d e.chargeId) =
      .ok (true, (Sample.awaiting rowId d e.chargeId).claim ⟨e.chargeId, e.event⟩) :=
    claimEvent_ok.mpr (.inr ⟨rfl, List.not_mem_nil, rfl⟩)
  rw [applyRawEvent, Tx.bind_of_ok sent,
    Tx.bind_of_ok (findPayment_bound (Sample.awaiting_found rowId d e.chargeId) now)]
  simp only []
  rw [Tx.bind_of_ok dated, Tx.bind_of_ok won]
  rfl

theorem chargeId_clean (supported : body.fields.supported = some e)
    (clean : ∀ text ∈ body.columns, hasNul text = false) : hasNul e.chargeId = false := by
  obtain ⟨charge, -⟩ := supported_fields supported
  refine clean _ ?_
  unfold WebhookBody.columns
  rw [charge]
  exact List.mem_append_left _ (List.mem_append_left _ List.mem_cons_self)

/-- Otherwise the effect's row is refused (22008). -/
theorem occurredAt_of_sound (chargeClean : hasNul e.chargeId = false)
    (sound : ∀ fault, applyRawEvent body e now (Sample.awaiting rowId d e.chargeId) = .error fault →
      fault ∉ shapeFaults) : ∀ t, body.occurredAt = some t → t.isTimestamp = true := by
  intro t given
  by_contra unread
  refine sound (.database "22008") ?_ (by decide)
  have sent : refuseNul [e.chargeId] (Sample.awaiting rowId d e.chargeId) =
      .ok ((), Sample.awaiting rowId d e.chargeId) := by
    refine refuseNul_ok.mpr ⟨fun text among => ?_, rfl⟩
    rw [List.mem_singleton.mp among]
    exact chargeClean
  have late : (body.occurredAt.any fun t => !Instant.isTimestamp t) = true := by
    rw [given, Option.any_some, Bool.eq_false_of_not_eq_true unread]
    rfl
  rw [applyRawEvent, Tx.bind_of_ok sent,
    Tx.bind_of_ok (findPayment_bound (Sample.awaiting_found rowId d e.chargeId) now)]
  refine Tx.bind_error.mpr (.inl ?_)
  rw [refuseInstant, if_pos late]
  rfl

section Effect

variable (effect : ∀ fault, applyBody (9, Sample.charged e.chargeId) body e now
  ((Sample.awaiting rowId d e.chargeId).claim ⟨e.chargeId, e.event⟩) = .error fault →
    fault ∉ shapeFaults)

include effect

theorem amount_rounds (refunded : e.event = .refundSucceeded) :
    ¬ (body.amountMinor.any fun x => x.rounded.isNone) = true := by
  intro infinite
  refine effect (.internal "RangeError") ?_ (by decide)
  simp only [applyBody, refunded, if_pos infinite]
  rfl

theorem refundId_sent (refunded : e.event = .refundSucceeded) (db : Db) :
    refuseNul e.refundId.toList db = .ok ((), db) := by
  refine refuseNul_ok.mpr ⟨fun text among => ?_, rfl⟩
  by_contra nul
  refine effect (.database "22021") ?_ (by decide)
  simp only [applyBody, refunded, if_neg (amount_rounds effect refunded)]
  refine Tx.bind_error.mpr (.inl ?_)
  exact refuseNul_error.mpr ⟨⟨text, among, Bool.eq_true_of_not_eq_false nul⟩, rfl⟩

theorem amount_fits (refunded : e.event = .refundSucceeded) :
    ¬ (e.amountMinor.any fun n => !fitsBigint n) = true := by
  intro wide
  refine effect (.database "22003") ?_ (by decide)
  simp only [applyBody, refunded, if_neg (amount_rounds effect refunded)]
  rw [Tx.bind_of_ok (refundId_sent effect refunded _), if_pos wide]
  rfl

/-- The audit row of a capture holds the charge id as the body has it. -/
theorem chargeId_stored (captured : e.event = .chargeSucceeded) (db' : Db)
    (ran : ∃ r, applyEffect (9, Sample.charged e.chargeId) e now
      ((Sample.awaiting rowId d e.chargeId).claim ⟨e.chargeId, e.event⟩) = .ok (r, db'))
    (fault : ApiError) (failed : refuseJsonb body.chargeId db' = .error fault) :
    fault ∉ shapeFaults := by
  obtain ⟨r, ran⟩ := ran
  refine effect fault ?_
  simp only [applyBody, captured]
  rw [captured] at ran
  rw [Tx.bind_of_ok ran]
  exact Tx.bind_error.mpr (.inl failed)

/-- The audit row of a refund holds the refund id as the body has it. -/
theorem refundId_stored (refunded : e.event = .refundSucceeded) (db' : Db)
    (ran : applyEffect (9, Sample.charged e.chargeId) e now
      ((Sample.awaiting rowId d e.chargeId).claim ⟨e.chargeId, e.event⟩) = .ok (none, db'))
    (still : db'.bookings.get? 8 = some Sample.lapsedBooking)
    (fault : ApiError) (failed : refuseJsonb body.refundId db' = .error fault) :
    fault ∉ shapeFaults := by
  refine effect fault ?_
  simp only [applyBody, refunded, if_neg (amount_rounds effect refunded)]
  rw [refunded] at ran
  rw [Tx.bind_of_ok (refundId_sent effect refunded _), if_neg (amount_fits effect refunded),
    Tx.bind_of_ok ran]
  have there : lockBooking (Sample.charged e.chargeId).bookingId db' =
      .ok (some Sample.lapsedBooking, db') := by
    show Except.ok (db'.bookings.get? 8, db') = _
    rw [still]
  rw [Tx.bind_of_ok there]
  simp only [Option.isSome_some, if_true]
  exact Tx.bind_error.mpr (.inl failed)

end Effect

/-- **A body that is handled for the waiting delivery can be applied.** -/
theorem applicable_of_sound (supported : body.fields.supported = some e)
    (clean : ∀ text ∈ body.columns, hasNul text = false)
    (sound : ∀ fault, applyRawEvent body e now (Sample.awaiting rowId d e.chargeId) = .error fault →
      fault ∉ shapeFaults) : body.Applicable e := by
  obtain ⟨-, -, -, amount, -⟩ := supported_fields supported
  have chargeClean := chargeId_clean supported clean
  have occurred := occurredAt_of_sound chargeClean sound
  have effect : ∀ fault, applyBody (9, Sample.charged e.chargeId) body e now
      ((Sample.awaiting rowId d e.chargeId).claim ⟨e.chargeId, e.event⟩) = .error fault →
        fault ∉ shapeFaults := by
    intro fault failed
    refine sound fault ?_
    rw [awaiting_effect chargeClean occurred]
    exact Tx.bind_error.mpr (.inl failed)
  refine ⟨occurred, fun captured units given => ?_, fun refunded x given => ?_,
    fun refunded units given => ?_⟩
  · by_contra lone
    obtain ⟨r, db', ran⟩ := Sample.awaiting_captured rowId d e.chargeId now ⟨e.chargeId, e.event⟩
    have stored := chargeId_stored effect captured db' ⟨r, by rw [applyEffect, captured]; rwa [captured] at ran⟩
    have refused := refuseJsonb_refused (Bool.eq_false_of_not_eq_true lone) db'
    rw [← given] at refused
    rcases refused with failed | failed
    · exact stored _ failed (by decide)
    · exact stored _ failed (by decide)
  · have rounds := amount_rounds effect refunded
    have fits := amount_fits effect refunded
    rw [given, Option.any_some, Option.isNone_iff_eq_none] at rounds
    obtain ⟨n, rounded⟩ := Option.ne_none_iff_exists'.mp rounds
    refine ⟨n, rounded, ?_⟩
    have same : e.amountMinor = some n := by
      rw [← amount]
      simp [WebhookBody.fields, given, rounded]
    rw [same, Option.any_some] at fits
    simpa using fits
  · by_contra lone
    obtain ⟨u, db', ran, still⟩ := Sample.awaiting_refunded rowId d e.chargeId now e.refundId
      e.amountMinor ⟨e.chargeId, e.event⟩
    have ran' : applyEffect (9, Sample.charged e.chargeId) e now
        ((Sample.awaiting rowId d e.chargeId).claim ⟨e.chargeId, e.event⟩) = .ok (none, db') := by
      simp only [applyEffect, refunded]
      rw [refunded] at ran
      rw [Tx.bind_of_ok ran]
      rfl
    have stored := refundId_stored effect refunded db' ran' still
    have refused := refuseJsonb_refused (Bool.eq_false_of_not_eq_true lone) db'
    rw [← given] at refused
    rcases refused with failed | failed
    · exact stored _ failed (by decide)
    · exact stored _ failed (by decide)

end Stops

/-! ## The two halves -/

section Takes

variable {runtime : Runtime} {env : Env} {generated : String} {post : Post}

/-- What an accepted delivery was. -/
theorem receive_accepted {rowId id : Uuid} {now : Instant} {db db' : Db}
    (returned : receive runtime env generated rowId now post db = .ok (.accepted (some id), db')) :
    (post.request runtime (env.paygateSecret.getD "") generated).signed = true ∧
      ∃ value body, runtime.parse (runtime.utf8 post.rawBody) = some value ∧
        readBody runtime value = some body ∧ ∀ text ∈ body.columns, hasNul text = false := by
  have recordable := recordable_of_receive returned
  simp only [receive, Tx.ite_ok, Tx.abort_ok, and_false, false_or] at returned
  obtain ⟨-, ⟨-, returned⟩ | ⟨signed, returned⟩⟩ := returned
  · simp only [Tx.bind_ok, Tx.pure_ok] at returned
    obtain ⟨_, _, -, never, -⟩ := returned
    cases never
  · cases parsed : runtime.parse (runtime.utf8 post.rawBody) with
    | none =>
        simp only [parsed, Tx.bind_ok, Tx.pure_ok] at returned
        obtain ⟨_, _, -, never, -⟩ := returned
        cases never
    | some value =>
        have proper := Bool.eq_true_of_not_eq_false signed
        obtain ⟨body, read, clean⟩ := recordable.body proper value parsed
        exact ⟨proper, value, body, rfl, read, clean⟩

/-- An event that is supported is recorded to be applied. -/
theorem receive_supported (configured : env.paygateSecret.getD "" ≠ "")
    (recordable : Recordable runtime env generated post)
    (signed : (post.request runtime (env.paygateSecret.getD "") generated).signed = true)
    {value : JsonValue} (parsed : runtime.parse (runtime.utf8 post.rawBody) = some value)
    {body : WebhookBody} (read : readBody runtime value = some body)
    (clean : ∀ text ∈ body.columns, hasNul text = false) {e : WebhookEvent}
    (supported : body.fields.supported = some e) :
    ∃ db' d, receive runtime env generated Sample.room 0 post Sample.db =
      .ok (.accepted (some Sample.room), db') ∧
      db'.webhookDeliveries.get? Sample.room = some d ∧ d.processedAt = none := by
  obtain ⟨-, -, -, -, label⟩ := supported_fields supported
  have known : (body.fields.event.any fun event => !supportedEvent event) = false := by
    cases given : body.fields.event with
    | none => rfl
    | some event =>
        rw [given, Option.bind_some] at label
        rw [Option.any_some, supportedEvent, label]
        rfl
  have proper : ¬ (post.request runtime (env.paygateSecret.getD "") generated).signed = false := by
    rw [signed]
    decide
  have sent : refuseNul ((post.deliveryId.getD generated) :: runtime.utf8 post.rawBody :: body.columns)
      Sample.db = .ok ((), Sample.db) := by
    refine refuseNul_ok.mpr ⟨fun text among => ?_, rfl⟩
    rcases List.mem_cons.mp among with rfl | among
    · exact recordable.deliveryId
    rcases List.mem_cons.mp among with rfl | among
    · exact recordable.raw
    · exact clean text among
  let row := deliveryRow (post.request runtime (env.paygateSecret.getD "") generated)
    (some body.fields) none false 0
  refine ⟨{ Sample.db with webhookDeliveries := ⟨[(Sample.room, row)], Sample.one_delivery _ _⟩ }, row,
    ?_, rfl, rfl⟩
  simp only [receive, if_neg configured, if_neg proper, parsed, Tx.fetch_bind, read, known, recordRaw]
  rw [Tx.bind_of_ok (a := some Sample.room)
    (t := { Sample.db with webhookDeliveries := ⟨[(Sample.room, row)], Sample.one_delivery _ _⟩ })]
  · rfl
  · exact Tx.bind_of_ok sent

end Takes

/-- **When intake is total**: the delivery can be recorded, and the event of its body applied. -/
theorem webhook_total_iff (runtime : Runtime) (env : Env) (generated : String) (post : Post)
    (configured : env.paygateSecret.getD "" ≠ "") :
    Takes runtime env generated post ↔ Recordable runtime env generated post ∧
      ((post.request runtime (env.paygateSecret.getD "") generated).signed = true →
        ∀ value body e, runtime.parse (runtime.utf8 post.rawBody) = some value →
          readBody runtime value = some body → body.fields.supported = some e → body.Applicable e) := by
  constructor
  · rintro ⟨answers, applies⟩
    obtain ⟨status, db', returned, -⟩ := answers Sample.db Sample.room 0 rfl
    have recordable := recordable_of_receive returned
    refine ⟨recordable, fun signed value body e parsed read supported => ?_⟩
    have clean : ∀ text ∈ body.columns, hasNul text = false := by
      obtain ⟨body', read', clean⟩ := recordable.body signed value parsed
      cases read.symm.trans read'
      exact clean
    obtain ⟨recorded, d, accepted, stored, unprocessed⟩ :=
      receive_supported configured recordable signed parsed read clean supported
    have handled := applies Sample.db recorded (Sample.awaiting Sample.room d e.chargeId) Sample.room 0 0 d
      accepted ⟨d, stored, unprocessed⟩ (Sample.awaiting_stored _ _ _) unprocessed
    have ran := @applyRaw_event runtime _ value body e parsed read supported Sample.room 0
      (Sample.awaiting Sample.room d e.chargeId) d (Sample.awaiting_stored _ _ _) unprocessed
    refine @applicable_of_sound body e Sample.room d 0 supported clean fun fault failed => ?_
    have stopped : applyRaw runtime (runtime.utf8 post.rawBody) Sample.room 0
        (Sample.awaiting Sample.room d e.chargeId) = .error fault := by
      rw [ran]
      exact Tx.bind_error.mpr (.inl failed)
    rcases handled with ⟨r, db', _, returned, -⟩ | ⟨fault', failed', sound⟩
    · cases returned.symm.trans stopped
    · cases failed'.symm.trans stopped
      exact sound
  · rintro ⟨recordable, applicable⟩
    refine ⟨fun db rowId now fresh => receive_run configured recordable fresh, ?_⟩
    intro before recorded db rowId received now d accepted _ stored unprocessed
    obtain ⟨signed, value, body, parsed, read, clean⟩ := receive_accepted accepted
    exact handled_of_applicable parsed read (fun e => applicable signed value body e parsed read) clean
      stored unprocessed

namespace Sample

/-- The runtime, as far as a signed capture needs it. -/
def runtime : Runtime where
  utf8 bytes := String.ofList (bytes.map fun b => Char.ofNat b.toNat)
  hmac _ _ := "7dbdaeac7c122420e7448f4bc3ee1d1c6ae0b2f8a0fa702f804a946ad81dcb32"
  parse text :=
    if text = "\x7b\"charge_id\":\"ch_1\",\"event\":\"charge.succeeded\"\x7d" then
      some (.obj [("charge_id", .str [99, 104, 95, 49]), ("event", .str
        [99, 104, 97, 114, 103, 101, 46, 115, 117, 99, 99, 101, 101, 100, 101, 100])])
    else none
  dateOf _ := none

/-- A signed capture. -/
def capture : Post :=
  ⟨[123, 34, 99, 104, 97, 114, 103, 101, 95, 105, 100, 34, 58, 34, 99, 104, 95, 49, 34, 44, 34, 101, 118,
    101, 110, 116, 34, 58, 34, 99, 104, 97, 114, 103, 101, 46, 115, 117, 99, 99, 101, 101, 100, 101, 100,
    34, 125], some "7dbdaeac7c122420e7448f4bc3ee1d1c6ae0b2f8a0fa702f804a946ad81dcb32", some "delivery"⟩

end Sample

/-- A signed capture is recorded, and applied whenever it is. -/
theorem webhook_total_capture : Takes Sample.runtime .default "unsigned-0" Sample.capture := by
  refine (webhook_total_iff _ _ _ _ (by decide)).mpr ⟨⟨by decide +kernel, by decide +kernel, ?_⟩, ?_⟩
  · rintro - value parsed
    cases parsed
    refine ⟨_, rfl, ?_⟩
    decide +kernel
  · rintro - value body e parsed read supported
    cases parsed
    cases read
    cases supported
    refine ⟨?_, ?_, ?_, ?_⟩
    · rintro t ⟨⟩
    · rintro - units ⟨⟩
      decide +kernel
    · rintro ⟨⟩
    · rintro ⟨⟩

/-- A body that is a NUL, unsigned: the insert of the rejection is refused, and nothing is recorded. -/
theorem webhook_nul : ¬ ∀ (runtime : Runtime) (env : Env) (generated : String) (post : Post),
    env.paygateSecret.getD "" ≠ "" → Takes runtime env generated post := by
  intro claim
  obtain ⟨status, db', returned, -⟩ := (claim Sample.runtime .default "unsigned-0" ⟨[0], none, none⟩
    (by decide)).answers Sample.db Sample.room 0 rfl
  have raw := (recordable_of_receive returned).raw
  exact absurd raw (by decide +kernel)

end Atrium
