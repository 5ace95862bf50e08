/-
# Paygate.RefundKeys -- a refused refund uses up its key

An idempotency row is never deleted, and no statement changes the resource or the
fingerprint it was claimed with (`Claimed`, `call_claimed`).  `openRefund` claims its
key before it looks at the charge, and returns its refusals, so the claim is committed
with them: whatever happens to the charge afterwards, the same request under the same
key answers for a refund that was never written.
-/
import Atrium.Paygate.Contract

namespace Atrium.Paygate

open Atrium.Base

set_option autoImplicit false

namespace PostgresLedger

/-! ## Keys stay -/

/-- The key names this resource, for requests of this fingerprint. -/
def Claimed (p : PostgresLedger) (slot : Scope × String) (resourceId fingerprint : String) : Prop :=
  ∃ record, p.idempotency.get? slot = some record ∧ record.resourceId = resourceId ∧
    record.fingerprint = fingerprint

/-- Every key is still what it was. -/
def KeepsKeys (p p' : PostgresLedger) : Prop :=
  ∀ slot resourceId fingerprint, p.Claimed slot resourceId fingerprint →
    p'.Claimed slot resourceId fingerprint

namespace KeepsKeys

variable {p p' p'' : PostgresLedger}

theorem refl (p : PostgresLedger) : KeepsKeys p p := fun _ _ _ claimed => claimed

theorem trans (first : KeepsKeys p p') (second : KeepsKeys p' p'') : KeepsKeys p p'' :=
  fun slot resourceId fingerprint claimed =>
    second slot resourceId fingerprint (first slot resourceId fingerprint claimed)

theorem of_eq (same : p'.idempotency = p.idempotency) : KeepsKeys p p' := by
  rintro slot _ _ ⟨record, found, rfl, rfl⟩
  exact ⟨record, by rw [same]; exact found, rfl, rfl⟩

theorem of_insert {slot : Scope × String} {row : IdempotencyRow}
    (inserted : p.idempotency.insert? slot row = some p'.idempotency) : KeepsKeys p p' := by
  rintro slot' _ _ ⟨record, found, rfl, rfl⟩
  have other : slot' ≠ slot := by
    intro same
    rw [same, (Table.insert?_some inserted).1] at found
    cases found
  refine ⟨record, ?_, rfl, rfl⟩
  rw [Table.get?_insert? inserted, if_neg other]
  exact found

theorem of_modify {slot : Scope × String} {f : IdempotencyRow → IdempotencyRow}
    (same : p'.idempotency = p.idempotency.modify slot f)
    (resource : ∀ row, (f row).resourceId = row.resourceId)
    (fingerprint : ∀ row, (f row).fingerprint = row.fingerprint) : KeepsKeys p p' := by
  rintro slot' _ _ ⟨record, found, rfl, rfl⟩
  refine ⟨if slot' = slot then f record else record, ?_, ?_, ?_⟩
  · rw [same, Table.get?_modify, found]
    rfl
  · split_ifs
    · exact resource record
    · rfl
  · split_ifs
    · exact fingerprint record
    · rfl

end KeepsKeys

theorem importKeys_keeps (batch : List ImportedCharge) (p : PostgresLedger) :
    KeepsKeys p (importKeys batch p) := by
  induction batch generalizing p with
  | nil => exact KeepsKeys.refl p
  | cons row rows ih =>
      have one : KeepsKeys p (importKeys [row] p) := by
        simp only [importKeys, List.foldl_cons, List.foldl_nil]
        cases inserted : p.idempotency.insert? (.charge, row.idempotencyKey) (importedClaim row) with
        | none => exact KeepsKeys.refl p
        | some idempotency => exact KeepsKeys.of_insert inserted
      exact one.trans (ih _)

theorem importRows_sameKeys (rows : List ImportedCharge) {p : PostgresLedger}
    {r : Nat × PostgresLedger} (ran : importRows rows p = .ok r) :
    r.2.idempotency = p.idempotency := by
  have fixed := importRows_idempotency rows p.idempotency p
  rw [show ({ p with idempotency := p.idempotency } : PostgresLedger) = p from rfl, ran] at fixed
  have same := congrArg (fun r : Nat × PostgresLedger => r.2.idempotency) (Except.ok.inj fixed)
  exact same

theorem importBatches_keeps (batches : List (List ImportedCharge)) (p : PostgresLedger) :
    KeepsKeys p (importBatches batches p).2 := by
  induction batches generalizing p with
  | nil => exact KeepsKeys.refl p
  | cons batch batches ih =>
      unfold importBatches
      cases written : importRows batch p with
      | error e => exact KeepsKeys.refl p
      | ok r =>
          have rows : KeepsKeys p r.2 := KeepsKeys.of_eq (importRows_sameKeys batch written)
          exact rows.trans ((importKeys_keeps batch r.2).trans (ih _))

theorem transaction_keeps {α : Type} {x : LedgerTx α} {p : PostgresLedger}
    (keeps : ∀ a p', x p = .ok (a, p') → KeepsKeys p p') : KeepsKeys p (transaction x p).2 := by
  unfold transaction
  cases ran : x p with
  | error e => exact KeepsKeys.refl p
  | ok r => exact keeps r.1 r.2 ran

theorem openCharge_keeps {chargeId : String} {input : OpenChargeInput} {now : Instant}
    {p p' : PostgresLedger} {result : OpenChargeResult}
    (ran : openCharge chargeId input now p = .ok (result, p')) : KeepsKeys p p' := by
  cases openCharge_opened ran with
  | mismatch => exact KeepsKeys.refl p
  | replayed =>
      exact KeepsKeys.of_modify (f := fun r => { r with replays := r.replays + 1 }) rfl
        (fun _ => rfl) fun _ => rfl
  | created _ _ _ claimed => exact KeepsKeys.of_insert claimed

theorem openRefund_keeps {refundId : String} {input : OpenRefundInput} {now : Instant}
    {p p' : PostgresLedger} {result : OpenRefundResult}
    (ran : openRefund refundId input now p = .ok (result, p')) : KeepsKeys p p' := by
  cases openRefund_opened ran with
  | mismatch => exact KeepsKeys.refl p
  | replayed =>
      exact KeepsKeys.of_modify (f := fun r => { r with replays := r.replays + 1 }) rfl
        (fun _ => rfl) fun _ => rfl
  | refused _ _ claimed => exact KeepsKeys.of_insert claimed
  | created _ _ _ claimed => exact KeepsKeys.of_insert claimed

/-- **No call takes a key from its resource.** -/
theorem call_keeps (op : Op) (now : Instant) (p : PostgresLedger) :
    KeepsKeys p (p.call op now).2 := by
  cases op with
  | openCharge chargeId input => exact transaction_keeps fun _ _ ran => openCharge_keeps ran
  | openRefund refundId input => exact transaction_keeps fun _ _ ran => openRefund_keeps ran
  | recoverFromTransientFailure chargeId key correlationId =>
      exact KeepsKeys.of_modify (f := fun r => { r with outcome := .accepted }) rfl
        (fun _ => rfl) fun _ => rfl
  | materialiseCharge chargeId status occurredAt =>
      refine KeepsKeys.of_eq ?_
      show (p.materialiseCharge chargeId status occurredAt).2.idempotency = _
      unfold materialiseCharge
      cases p.charges.get? chargeId with
      | none => rfl
      | some row => cases done : row.materialised <;> simp [done]
  | materialiseRefund refundId occurredAt =>
      refine KeepsKeys.of_eq ?_
      show (p.materialiseRefund refundId occurredAt).2.idempotency = _
      unfold materialiseRefund
      cases p.refunds.get? refundId with
      | none => rfl
      | some row => cases done : row.materialised <;> simp [done]
  | importCharges rows => exact importBatches_keeps _ p
  | getCharge | getRefund | refundsFor | counts => exact KeepsKeys.refl p

theorem run_keeps_keys {ops : List (Op × Instant)} {p later : PostgresLedger}
    (ran : run (calls postgresCall) ops p = some later) : KeepsKeys p later := by
  have kept : KeepsKeys p p → KeepsKeys p later := by
    refine run_keeps (I := KeepsKeys p) (fun op s s' called since => ?_) ran
    cases called
    exact since.trans (call_keeps op.1 op.2 s)
  exact kept (KeepsKeys.refl p)

/-! ## Refusals -/

end PostgresLedger

/-- The answers that open no refund. -/
def OpenRefundResult.refused : OpenRefundResult → Bool
  | .unknownCharge | .notRefundable _ | .exceedsCharge .. => true
  | .created _ | .replayed .. | .fingerprintMismatch => false

namespace PostgresLedger

/-- The call answers what the charge, as it stands, makes of the refund. -/
def EvaluatedAfresh (refundId : String) (input : OpenRefundInput) (now : Instant)
    (p : PostgresLedger) : Prop :=
  ∃ idempotency, openRefund refundId input now p =
    decideRefund refundId input (p.charges.get? input.chargeId) now { p with idempotency }

theorem refusal_refused {input : OpenRefundInput} {charge : Option ChargeRow}
    {result : OpenRefundResult} (why : refusal input charge = some result) :
    result.refused = true := by
  unfold refusal at why
  split at why
  · cases why
    rfl
  · split_ifs at why <;> cases why <;> rfl

/-- What a charge decides is a refusal or a new refund. -/
theorem decideRefund_answer {refundId : String} {input : OpenRefundInput}
    {charge : Option ChargeRow} {now : Instant} {p p' : PostgresLedger}
    {result : OpenRefundResult}
    (decided : decideRefund refundId input charge now p = .ok (result, p')) :
    result.refused = true ∨ ∃ refund, result = .created refund := by
  unfold decideRefund at decided
  cases why : refusal input charge with
  | some refused =>
      simp only [why] at decided
      obtain ⟨rfl, -⟩ := Tx.pure_ok.mp decided
      exact .inl (refusal_refused why)
  | none =>
      cases charge with
      | none => cases why
      | some row =>
          simp only [why] at decided
          obtain ⟨_, _, _, _, _, same⟩ := reserve_ok.mp decided
          cases same
          exact .inr ⟨_, rfl⟩

/-- What it throws is a constraint of the tables. -/
theorem decideRefund_error {refundId : String} {input : OpenRefundInput}
    {charge : Option ChargeRow} {now : Instant} {p : PostgresLedger} {e : LedgerError}
    (failed : decideRefund refundId input charge now p = .error e) :
    e = .checkViolation ∨ e = .uniqueViolation := by
  unfold decideRefund at failed
  cases why : refusal input charge with
  | some refused =>
      simp only [why] at failed
      cases failed
  | none =>
      cases charge with
      | none => cases why
      | some row =>
          simp only [why, reserve, Tx.bind_run] at failed
          cases written : insertRefund refundId (refundRow input row now) p with
          | error e' =>
              rw [written] at failed
              cases failed
              unfold insertRefund at written
              split_ifs at written
              · cases written
                exact .inl rfl
              · cases written
                exact .inr rfl
              · split at written
                · cases written
                  exact .inr rfl
                · cases written
          | ok r =>
              simp only [written] at failed
              cases grown : addRefunded input.chargeId input.amountMinor r.2 with
              | error e' =>
                  rw [grown] at failed
                  cases failed
                  unfold addRefunded at grown
                  dsimp only at grown
                  split_ifs at grown
                  cases grown
                  exact .inl rfl
              | ok r' =>
                  rw [grown] at failed
                  cases failed

/-- Under a taken key of its own fingerprint, a refund is not evaluated. -/
theorem Claimed.not_afresh {p : PostgresLedger} {input : OpenRefundInput} {resourceId : String}
    (claimed : p.Claimed (.refund, input.idempotencyKey) resourceId input.fingerprint)
    (refundId : String) (now : Instant) : ¬ EvaluatedAfresh refundId input now p := by
  rintro ⟨idempotency, afresh⟩
  obtain ⟨record, taken, rfl, same⟩ := claimed
  rw [openRefund_taken taken, if_neg (not_not.mpr same)] at afresh
  cases owner : p.refunds.get? record.resourceId with
  | none =>
      rw [owner] at afresh
      rcases decideRefund_error afresh.symm with same | same
      · cases same
      · cases same
  | some row =>
      rw [owner] at afresh
      rcases decideRefund_answer afresh.symm with refused | ⟨refund, same⟩
      · cases refused
      · cases same

/-- **A refusal uses up its key.**  The ledger it leaves is never the one it found, and
whatever is called afterwards, no request under the key and the fingerprint of the
refused one is evaluated again: as long as no refund has taken the id the refusal
generated, it throws. -/
theorem refusal_uses_up_key {p after : PostgresLedger} {refundId : String}
    {input : OpenRefundInput} {now : Instant} {result : OpenRefundResult}
    (answered : transaction (openRefund refundId input now) p = (.ok result, after))
    (refused : result.refused = true) :
    after ≠ p ∧ ∀ (ops : List (Op × Instant)) (later : PostgresLedger),
      run (calls postgresCall) ops after = some later →
      ∀ (retry : OpenRefundInput) (retryId : String) (at_ : Instant),
        retry.idempotencyKey = input.idempotencyKey → retry.fingerprint = input.fingerprint →
        ¬ EvaluatedAfresh retryId retry at_ later ∧
          (later.refunds.get? refundId = none →
            transaction (openRefund retryId retry at_) later =
              (.error (recordHasNoRefund refundId), later)) := by
  have ran : openRefund refundId input now p = .ok (result, after) := by
    unfold transaction at answered
    cases returned : openRefund refundId input now p with
    | error e =>
        rw [returned] at answered
        cases answered
    | ok r =>
        rw [returned] at answered
        cases answered
        rfl
  cases openRefund_opened ran with
  | mismatch => cases refused
  | replayed => cases refused
  | created => cases refused
  | refused _ idempotency claimed why =>
      have taken : idempotency.get? (.refund, input.idempotencyKey) =
          some (refundClaim refundId input now) := by
        rw [Table.get?_insert? claimed, if_pos rfl]
      refine ⟨fun same => ?_, fun ops later calls retry retryId at_ key fingerprint => ?_⟩
      · have unmoved : idempotency = p.idempotency := congrArg PostgresLedger.idempotency same
        rw [unmoved, (Table.insert?_some claimed).1] at taken
        cases taken
      · have there : later.Claimed (.refund, retry.idempotencyKey) refundId retry.fingerprint := by
          refine run_keeps_keys calls _ _ _ ⟨refundClaim refundId input now, ?_, rfl, ?_⟩
          · rw [key]
            exact taken
          · exact fingerprint.symm
        refine ⟨there.not_afresh retryId at_, fun unwritten => ?_⟩
        obtain ⟨record, found, rfl, same⟩ := there
        unfold transaction
        rw [openRefund_taken found, if_neg (not_not.mpr same), unwritten]

end PostgresLedger

/-! ## A refund asked for too early -/

namespace Sample

/-- A charge of 900 that is still being processed. -/
def processing : PostgresLedger :=
  (postgresCall (.openCharge "ch_1" (chargeOf "k1" 900), 0) .empty).2

/-- The ledger once its refund has been refused for it. -/
def refusedOnce : PostgresLedger :=
  (postgresCall (.openRefund "re_1" (refundOf "ch_1" "k2" 400), 1) processing).2

def settling : List (Op × Instant) := [(.materialiseCharge "ch_1" .succeeded 2, 2)]

end Sample

/-- Once the charge has succeeded, the refund it was too early for throws. -/
theorem refusal_uses_up_key_early : ∃ later,
    run (calls postgresCall) Sample.settling Sample.refusedOnce = some later ∧
      PostgresLedger.transaction (PostgresLedger.openRefund "re_2" (Sample.refundOf "ch_1" "k2" 400) 3)
        later = (.error (recordHasNoRefund "re_1"), later) := by
  have answered : PostgresLedger.transaction
      (PostgresLedger.openRefund "re_1" (Sample.refundOf "ch_1" "k2" 400) 1) Sample.processing =
        (.ok .unknownCharge, Sample.refusedOnce) := by
    rfl
  have ran : ((run (calls postgresCall) Sample.settling Sample.refusedOnce).map fun later =>
      (later.refunds.get? "re_1").isNone) = some true := by
    decide +kernel
  obtain ⟨later, ran, unwritten⟩ := Option.map_eq_some_iff.mp ran
  refine ⟨later, ran, ?_⟩
  exact ((PostgresLedger.refusal_uses_up_key answered rfl).2 Sample.settling later ran
    (Sample.refundOf "ch_1" "k2" 400) "re_2" 3 rfl rfl).2 (Option.isNone_iff_eq_none.mp unwritten)

/-- **A refusal changes the ledger**: it keeps the key. -/
theorem refusal_keeps_its_key : ¬ ∀ (p after : PostgresLedger) (refundId : String)
    (input : OpenRefundInput) (now : Instant) (result : OpenRefundResult),
      PostgresLedger.transaction (PostgresLedger.openRefund refundId input now) p =
        (.ok result, after) → result.refused = true → after = p := by
  intro claim
  have same := claim Sample.processing Sample.refusedOnce "re_1" (Sample.refundOf "ch_1" "k2" 400) 1
    .unknownCharge rfl rfl
  have kept : Sample.refusedOnce.idempotency.rows.length = 2 := by decide +kernel
  rw [same] at kept
  revert kept
  decide +kernel

end Atrium.Paygate
