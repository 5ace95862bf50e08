/-
# Paygate.Contract -- the two ledgers, call for call

Both ledgers are put the same calls, with the same generated ids and the same
clock, and their answers compared.  `Agree` says how the maps of `MemoryLedger`
stand to the tables of `PostgresLedger`; `Conforms` names the calls both answer
alike, and `call_agree` is the step.  The two part where Postgres keeps a claim
that memory never made: the key of a refused refund, the key of an import that
was skipped.
-/
import Atrium.Base.Run
import Atrium.Paygate.Memory
import Atrium.Paygate.Postgres

namespace Atrium.Paygate

open Atrium.Base

set_option autoImplicit false

/-! ## How the ledgers stand to each other -/

namespace PostgresLedger

/-- The record of a key, unless it names a refund that was refused. -/
def record? (p : PostgresLedger) (slot : Scope × String) : Option IdempotencyRow :=
  (p.idempotency.get? slot).filter fun record =>
    decide (slot.1 = .refund → (p.refunds.get? record.resourceId).isSome)

/-- What the tables say of themselves, as long as every call conforms. -/
structure Sound (p : PostgresLedger) : Prop where
  checked : ∀ id row, p.charges.get? id = some row → row.checked = true
  claimed : ∀ id row, p.charges.get? id = some row →
    (p.idempotency.get? (.charge, row.idempotencyKey)).isSome
  owned : ∀ key record, p.idempotency.get? (.charge, key) = some record →
    (p.charges.get? record.resourceId).isSome
  refundClaimed : ∀ id row, p.refunds.get? id = some row →
    (p.idempotency.get? (.refund, row.idempotencyKey)).isSome
  settled : ∀ id row, p.refunds.get? id = some row →
    ∃ charge, p.charges.get? row.chargeId = some charge ∧ charge.materialised = true
  inOrder : ∀ chargeId, (p.opened chargeId).Pairwise fun r s => r.2.createdAt < s.2.createdAt

theorem sound_empty : Sound .empty := by
  constructor <;> simp [empty, opened, Table.select, Table.empty, Table.get?]

theorem Sound.refundsOf_eq {p : PostgresLedger} (sound : p.Sound) (chargeId : String) :
    p.refundsOf chargeId = p.opened chargeId := by
  refine List.mergeSort_of_pairwise ((sound.inOrder chargeId).imp fun earlier => ?_)
  simp only [openedBefore, decide_eq_true_eq]
  exact .inl earlier

/-- A charge that is not there, or not materialised, has no refunds. -/
theorem Sound.opened_nil {p : PostgresLedger} (sound : p.Sound) {chargeId : String}
    (unsettled : ∀ row, p.charges.get? chargeId = some row → row.materialised = false) :
    p.opened chargeId = [] := by
  refine List.eq_nil_iff_forall_not_mem.mpr fun row among => ?_
  obtain ⟨here, same⟩ := mem_opened.mp among
  obtain ⟨charge, found, done⟩ := sound.settled row.1 row.2 here
  rw [unsettled charge (same ▸ found)] at done
  cases done

end PostgresLedger

open PostgresLedger

structure Agree (m : MemoryLedger) (p : PostgresLedger) : Prop where
  sound : p.Sound
  charges : ∀ id, m.charges.get? id =
    (p.charges.get? id).map fun row => toCharge id row ((p.opened id).map Prod.fst)
  refunds : ∀ id, m.refunds.get? id = p.getRefund id
  records : ∀ slot, m.idempotency.get? slot = (p.record? slot).map (toIdempotency slot)
  chargeCount : m.charges.rows.length = p.charges.rows.length
  refundCount : m.refunds.rows.length = p.refunds.rows.length

theorem agree_empty : Agree .empty .empty :=
  ⟨sound_empty, fun _ => rfl, fun _ => rfl, fun _ => rfl, rfl, rfl⟩

/-! ## The calls both answer alike -/

/-- A row of an import that Postgres writes as it stands. -/
def ImportedCharge.fits (row : ImportedCharge) : Bool :=
  decide ((importedRow row).checked = true ∧ row.currency.length = 3)

/-- Every row is written: ids and keys are new, and none comes twice. -/
structure Importable (rows : List ImportedCharge) (p : PostgresLedger) : Prop where
  ids : (rows.map (·.id)).Nodup
  keys : (rows.map (·.idempotencyKey)).Nodup
  fits : ∀ row ∈ rows, row.fits = true
  newIds : ∀ row ∈ rows, p.charges.get? row.id = none
  newKeys : ∀ row ∈ rows, p.idempotency.get? (.charge, row.idempotencyKey) = none

instance (rows : List ImportedCharge) (p : PostgresLedger) : Decidable (Importable rows p) :=
  decidable_of_iff
    ((rows.map (·.id)).Nodup ∧ (rows.map (·.idempotencyKey)).Nodup ∧
      (∀ row ∈ rows, row.fits = true) ∧ (∀ row ∈ rows, p.charges.get? row.id = none) ∧
      ∀ row ∈ rows, p.idempotency.get? (.charge, row.idempotencyKey) = none)
    ⟨fun ⟨ids, keys, fits, newIds, newKeys⟩ => ⟨ids, keys, fits, newIds, newKeys⟩,
      fun h => ⟨h.ids, h.keys, h.fits, h.newIds, h.newKeys⟩⟩

/-- A generated refund id that no refund has and no key names. -/
def unusedRefundId (id : String) (p : PostgresLedger) : Prop :=
  p.refunds.get? id = none ∧
    ∀ row ∈ p.idempotency.rows, row.1.1 = .refund → row.2.resourceId ≠ id

instance (id : String) (p : PostgresLedger) : Decidable (unusedRefundId id p) :=
  inferInstanceAs (Decidable (_ ∧ _))

/-- The key is new, or its charge has no refunds a replay would leave out. -/
def chargeConforms (chargeId : String) (input : OpenChargeInput) (p : PostgresLedger) : Bool :=
  match p.idempotency.get? (.charge, input.idempotencyKey) with
  | some record =>
      decide (record.fingerprint = input.fingerprint → p.opened record.resourceId = [])
  | none =>
      decide (0 < input.amountMinor ∧ input.currency.length = 3 ∧ p.charges.get? chargeId = none)

/-- The key is new, or it names a refund: it is not that of a refund that was refused. -/
def refundConforms (refundId : String) (input : OpenRefundInput) (now : Instant)
    (p : PostgresLedger) : Bool :=
  match p.idempotency.get? (.refund, input.idempotencyKey) with
  | some record => (p.refunds.get? record.resourceId).isSome
  | none =>
      decide (unusedRefundId refundId p ∧
        (refusal input (p.charges.get? input.chargeId) = none → 0 < input.amountMinor ∧
          ∀ row ∈ p.opened input.chargeId, row.2.createdAt < now))

/-- The call does not touch what only one of the ledgers does. -/
def Conforms (call : Op × Instant) (p : PostgresLedger) : Prop :=
  match call with
  | (.openCharge chargeId input, _) => chargeConforms chargeId input p = true
  | (.recoverFromTransientFailure chargeId _ correlationId, _) =>
      ((p.charges.get? chargeId).all fun row =>
        decide (row.correlationId = some "" → correlationId = some "")) = true
  | (.openRefund refundId input, now) => refundConforms refundId input now p = true
  | (.importCharges rows, _) => Importable rows p
  | _ => True

instance (call : Op × Instant) (p : PostgresLedger) : Decidable (Conforms call p) :=
  match call with
  | (.openCharge .., _) => inferInstanceAs (Decidable (_ = true))
  | (.recoverFromTransientFailure .., _) => inferInstanceAs (Decidable (_ = true))
  | (.openRefund .., _) => inferInstanceAs (Decidable (_ = true))
  | (.importCharges rows, _) => inferInstanceAs (Decidable (Importable rows p))
  | (.materialiseCharge .., _) => isTrue trivial
  | (.materialiseRefund .., _) => isTrue trivial
  | (.getCharge _, _) => isTrue trivial
  | (.getRefund _, _) => isTrue trivial
  | (.refundsFor _, _) => isTrue trivial
  | (.counts, _) => isTrue trivial

def memoryCall (call : Op × Instant) (m : MemoryLedger) : Except LedgerError Answer × MemoryLedger :=
  m.call call.1 call.2

def postgresCall (call : Op × Instant) (p : PostgresLedger) :
    Except LedgerError Answer × PostgresLedger := p.call call.1 call.2

/-! ## What one write does to both -/

section Writes

variable {m : MemoryLedger} {p : PostgresLedger}

theorem record?_charge (key : String) :
    p.record? (.charge, key) = p.idempotency.get? (.charge, key) := by
  simp [record?, Option.filter]
  cases p.idempotency.get? (.charge, key) <;> rfl

theorem record?_some {slot : Scope × String} {record : IdempotencyRow}
    (found : p.idempotency.get? slot = some record)
    (stands : slot.1 = .refund → (p.refunds.get? record.resourceId).isSome) :
    p.record? slot = some record := by
  simp only [record?, found, Option.filter_some, decide_eq_true_eq]
  rw [if_pos stands]

theorem record?_none {slot : Scope × String} (absent : p.idempotency.get? slot = none) :
    p.record? slot = none := by
  simp [record?, absent]

/-- A rewrite of one record that keeps what the key names. -/
theorem Agree.modifyRecord (agree : Agree m p) (slot : Scope × String)
    {f : IdempotencyRow → IdempotencyRow} {g : IdempotencyRecord → IdempotencyRecord}
    (owner : ∀ record, (f record).resourceId = record.resourceId)
    (same : ∀ record, g (toIdempotency slot record) = toIdempotency slot (f record)) :
    Agree { m with idempotency := m.idempotency.modify slot g }
      { p with idempotency := p.idempotency.modify slot f } := by
  have sound := agree.sound
  refine ⟨⟨sound.checked, fun id row here => ?_, fun key record here => ?_, fun id row here => ?_,
    sound.settled, sound.inOrder⟩, agree.charges, agree.refunds, fun at_ => ?_, agree.chargeCount,
    agree.refundCount⟩
  · simpa [Table.get?_modify] using sound.claimed id row here
  · obtain ⟨old, found, rfl⟩ := Table.get?_modify_some.mp here
    have stands := sound.owned key old found
    by_cases own : (Scope.charge, key) = slot
    · rw [if_pos own, owner]
      exact stands
    · rw [if_neg own]
      exact stands
  · simpa [Table.get?_modify] using sound.refundClaimed id row here
  · have before := agree.records at_
    simp only [record?, Table.get?_modify] at before ⊢
    rw [before]
    cases found : p.idempotency.get? at_ with
    | none => rfl
    | some record =>
        by_cases own : at_ = slot
        · subst own
          by_cases stands : at_.1 = .refund → (p.refunds.get? record.resourceId).isSome
          · simp [Option.filter, owner, same]
          · simp [Option.filter, owner, stands]
        · simp [own, Function.comp_def]

theorem Agree.bump (agree : Agree m p) (slot : Scope × String) :
    Agree (m.bump slot) (PostgresLedger.bump slot p) :=
  agree.modifyRecord slot (fun _ => rfl) fun _ => rfl

/-- A rewrite of one charge that keeps its key and what was materialised. -/
theorem Agree.modifyCharge (agree : Agree m p) (chargeId : String)
    {f : ChargeRow → ChargeRow} {g : Charge → Charge}
    (checks : ∀ row, p.charges.get? chargeId = some row → (f row).checked = true)
    (key : ∀ row, (f row).idempotencyKey = row.idempotencyKey)
    (done : ∀ row, row.materialised = true → (f row).materialised = true)
    (same : ∀ row, p.charges.get? chargeId = some row → ∀ refundIds,
      g (toCharge chargeId row refundIds) = toCharge chargeId (f row) refundIds) :
    Agree { m with charges := m.charges.modify chargeId g }
      { p with charges := p.charges.modify chargeId f } := by
  have sound := agree.sound
  refine ⟨⟨fun id row here => ?_, fun id row here => ?_, fun key record here => ?_,
    sound.refundClaimed, fun id row here => ?_, sound.inOrder⟩, fun id => ?_, agree.refunds,
    agree.records, ?_, agree.refundCount⟩
  · obtain ⟨old, found, rfl⟩ := Table.get?_modify_some.mp here
    by_cases own : id = chargeId
    · subst own
      rw [if_pos rfl]
      exact checks old found
    · rw [if_neg own]
      exact sound.checked id old found
  · obtain ⟨old, found, rfl⟩ := Table.get?_modify_some.mp here
    have had := sound.claimed id old found
    by_cases own : id = chargeId
    · rw [if_pos own, key]
      exact had
    · rw [if_neg own]
      exact had
  · simpa [Table.get?_modify] using sound.owned key record here
  · obtain ⟨charge, found, had⟩ := sound.settled id row here
    refine ⟨_, Table.get?_modify_some.mpr ⟨charge, found, rfl⟩, ?_⟩
    by_cases own : row.chargeId = chargeId
    · rw [if_pos own]
      exact done charge had
    · rw [if_neg own]
      exact had
  · have before := agree.charges id
    simp only [Table.get?_modify]
    rw [before]
    by_cases own : id = chargeId
    · subst own
      cases found : p.charges.get? id with
      | none => rfl
      | some row =>
          simp only [Option.map_some, if_pos]
          exact congrArg some (same row found _)
    · simp only [own, if_false, Option.map_map]
      rfl
  · simpa using agree.chargeCount

/-- A new charge with the claim of its key. -/
theorem Agree.addCharge (agree : Agree m p) {id : String} {row : ChargeRow}
    {record : IdempotencyRow} {charges : Table String ChargeRow}
    {idempotency : Table (Scope × String) IdempotencyRow} (checks : row.checked = true)
    (inserted : p.charges.insert? id row = some charges)
    (claimed : p.idempotency.insert? (.charge, row.idempotencyKey) record = some idempotency)
    (owner : record.resourceId = id) :
    Agree ((m.setCharge (toCharge id row [])).setRecord
        (toIdempotency (.charge, row.idempotencyKey) record))
      { p with charges, idempotency } := by
  have sound := agree.sound
  have absent := (Table.insert?_some inserted).1
  have unclaimed := (Table.insert?_some claimed).1
  have bare : p.opened id = [] := sound.opened_nil fun row here => by
    rw [absent] at here
    cases here
  refine ⟨⟨fun id' row' here => ?_, fun id' row' here => ?_, fun key record' here => ?_,
    fun id' row' here => ?_, fun id' row' here => ?_, sound.inOrder⟩, fun id' => ?_, agree.refunds,
    fun slot => ?_, ?_, agree.refundCount⟩
  · rw [Table.get?_insert? inserted] at here
    by_cases own : id' = id
    · rw [if_pos own] at here
      cases here
      exact checks
    · rw [if_neg own] at here
      exact sound.checked id' row' here
  · rw [Table.get?_insert? inserted] at here
    rw [Table.get?_insert? claimed]
    by_cases own : id' = id
    · rw [if_pos own] at here
      cases here
      simp
    · rw [if_neg own] at here
      have had := sound.claimed id' row' here
      by_cases sameKey : (Scope.charge, row'.idempotencyKey) = (.charge, row.idempotencyKey)
      · rw [if_pos sameKey, Option.isSome_some]
      · rw [if_neg sameKey]
        exact had
  · rw [Table.get?_insert? claimed] at here
    rw [Table.get?_insert? inserted]
    by_cases own : (Scope.charge, key) = (.charge, row.idempotencyKey)
    · rw [if_pos own] at here
      cases here
      rw [if_pos owner, Option.isSome_some]
    · rw [if_neg own] at here
      have stands := sound.owned key record' here
      by_cases sameId : record'.resourceId = id
      · rw [if_pos sameId, Option.isSome_some]
      · rw [if_neg sameId]
        exact stands
  · rw [Table.get?_insert? claimed, if_neg (by simp)]
    exact sound.refundClaimed id' row' here
  · obtain ⟨charge, found, done⟩ := sound.settled id' row' here
    refine ⟨charge, ?_, done⟩
    rw [Table.get?_insert? inserted, if_neg fun own => ?_]
    · exact found
    · rw [own, absent] at found
      cases found
  · show (m.charges.put id (toCharge id row [])).get? id' = _
    rw [Table.get?_put, Table.get?_insert? inserted]
    by_cases own : id' = id
    · subst own
      rw [if_pos rfl, if_pos rfl]
      show _ = some (toCharge id' row ((p.opened id').map Prod.fst))
      rw [bare]
      rfl
    · rw [if_neg own, if_neg own]
      exact agree.charges id'
  · show (m.idempotency.put (.charge, row.idempotencyKey) _).get? slot = _
    rw [Table.get?_put]
    by_cases own : slot = (.charge, row.idempotencyKey)
    · subst own
      rw [if_pos rfl, record?_charge]
      show _ = Option.map _ (idempotency.get? _)
      rw [Table.get?_insert? claimed, if_pos rfl]
      rfl
    · rw [if_neg own, agree.records slot]
      simp only [record?, Table.get?_insert? claimed, if_neg own]
  · show (m.charges.put id (toCharge id row [])).rows.length = _
    have gone : m.charges.get? id = none := by rw [agree.charges, absent, Option.map_none]
    rw [Table.length_put_fresh gone, Table.length_insert? inserted, agree.chargeCount]

/-- A refund moves on; its charge, its place and its key stay. -/
theorem Agree.modifyRefund (agree : Agree m p) (refundId : String)
    {f : RefundRow → RefundRow} {g : Refund → Refund}
    (charge : ∀ row, (f row).chargeId = row.chargeId)
    (key : ∀ row, (f row).idempotencyKey = row.idempotencyKey)
    (opened : ∀ row, (f row).createdAt = row.createdAt)
    (same : ∀ row, g (toRefund refundId row) = toRefund refundId (f row)) :
    Agree { m with refunds := m.refunds.modify refundId g }
      { p with refunds := p.refunds.modify refundId f } := by
  have sound := agree.sound
  have listed := p.opened_modify refundId charge
  refine ⟨⟨sound.checked, sound.claimed, sound.owned, fun id row here => ?_, fun id row here => ?_,
    fun chargeId => ?_⟩, fun id => ?_, fun id => ?_, fun slot => ?_, agree.chargeCount, ?_⟩
  · obtain ⟨old, found, rfl⟩ := Table.get?_modify_some.mp here
    have had := sound.refundClaimed id old found
    by_cases own : id = refundId
    · rw [if_pos own, key]
      exact had
    · rw [if_neg own]
      exact had
  · obtain ⟨old, found, rfl⟩ := Table.get?_modify_some.mp here
    have had := sound.settled id old found
    by_cases own : id = refundId
    · rw [if_pos own, charge]
      exact had
    · rw [if_neg own]
      exact had
  · rw [listed, List.pairwise_map]
    refine (sound.inOrder chargeId).imp fun {r s} earlier => ?_
    have at_ : ∀ row : String × RefundRow,
        (if row.1 = refundId then f row.2 else row.2).createdAt = row.2.createdAt := by
      intro row
      by_cases own : row.1 = refundId
      · rw [if_pos own, opened]
      · rw [if_neg own]
    rw [at_, at_]
    exact earlier
  · rw [listed, List.map_map]
    exact agree.charges id
  · have before := agree.refunds id
    simp only [getRefund, Table.get?_modify] at before ⊢
    rw [before]
    by_cases own : id = refundId
    · subst own
      simp [Function.comp_def, same]
    · simp [own, Function.comp_def]
  · rw [agree.records slot]
    simp [record?, Table.get?_modify]
  · simpa using agree.refundCount

/-- The claim of a refund that is refused: only Postgres writes it. -/
theorem Agree.claimRefused (agree : Agree m p) {key : String} {record : IdempotencyRow}
    {idempotency : Table (Scope × String) IdempotencyRow}
    (claimed : p.idempotency.insert? (.refund, key) record = some idempotency)
    (unused : p.refunds.get? record.resourceId = none) : Agree m { p with idempotency } := by
  have sound := agree.sound
  have unclaimed := (Table.insert?_some claimed).1
  refine ⟨⟨sound.checked, fun id row here => ?_, fun key' record' here => ?_, fun id row here => ?_,
    sound.settled, sound.inOrder⟩, agree.charges, agree.refunds, fun slot => ?_, agree.chargeCount,
    agree.refundCount⟩
  · rw [Table.get?_insert? claimed, if_neg (by simp)]
    exact sound.claimed id row here
  · rw [Table.get?_insert? claimed, if_neg (by simp)] at here
    exact sound.owned key' record' here
  · rw [Table.get?_insert? claimed]
    by_cases own : (Scope.refund, row.idempotencyKey) = (.refund, key)
    · rw [if_pos own, Option.isSome_some]
    · rw [if_neg own]
      exact sound.refundClaimed id row here
  · rw [agree.records slot]
    by_cases own : slot = (.refund, key)
    · subst own
      simp [record?, Table.get?_insert? claimed, unclaimed, Option.filter, unused]
    · simp [record?, Table.get?_insert? claimed, own]

/-- A new refund of a materialised charge, and the claim of its key. -/
theorem PostgresLedger.Sound.listRefund (sound : p.Sound) {id : String} {row : RefundRow}
    {charge : ChargeRow} {record : IdempotencyRow} {refunds : Table String RefundRow}
    {idempotency : Table (Scope × String) IdempotencyRow}
    (inserted : p.refunds.insert? id row = some refunds)
    (claimed : p.idempotency.insert? (.refund, row.idempotencyKey) record = some idempotency)
    (found : p.charges.get? row.chargeId = some charge) (done : charge.materialised = true)
    (later : ∀ earlier ∈ p.opened row.chargeId, earlier.2.createdAt < row.createdAt) :
    Sound { p with refunds, idempotency } := by
  refine ⟨sound.checked, fun id' row' here => ?_, fun key record' here => ?_,
    fun id' row' here => ?_, fun id' row' here => ?_, fun chargeId => ?_⟩
  · rw [Table.get?_insert? claimed, if_neg (by simp)]
    exact sound.claimed id' row' here
  · rw [Table.get?_insert? claimed, if_neg (by simp)] at here
    exact sound.owned key record' here
  · rw [Table.get?_insert? inserted] at here
    rw [Table.get?_insert? claimed]
    by_cases own : id' = id
    · rw [if_pos own] at here
      cases here
      simp
    · rw [if_neg own] at here
      have had := sound.refundClaimed id' row' here
      by_cases sameKey : (Scope.refund, row'.idempotencyKey) = (.refund, row.idempotencyKey)
      · rw [if_pos sameKey, Option.isSome_some]
      · rw [if_neg sameKey]
        exact had
  · rw [Table.get?_insert? inserted] at here
    by_cases own : id' = id
    · rw [if_pos own] at here
      cases here
      exact ⟨charge, found, done⟩
    · rw [if_neg own] at here
      exact sound.settled id' row' here
  · refine (opened_insert inserted chargeId).symm ▸
      List.pairwise_append.mpr ⟨sound.inOrder chargeId, ?_, ?_⟩
    · by_cases own : row.chargeId = chargeId
      · rw [if_pos own]
        exact List.pairwise_singleton ..
      · rw [if_neg own]
        exact List.Pairwise.nil
    · intro earlier among last here
      by_cases own : row.chargeId = chargeId
      · rw [if_pos own, List.mem_singleton] at here
        subst here
        exact later earlier (own ▸ among)
      · rw [if_neg own] at here
        cases here

/-- No key named the id before, so the new refund brings back no record but its own. -/
theorem record?_listRefund {id : String} {row : RefundRow} {record : IdempotencyRow}
    {refunds : Table String RefundRow} {idempotency : Table (Scope × String) IdempotencyRow}
    (inserted : p.refunds.insert? id row = some refunds)
    (claimed : p.idempotency.insert? (.refund, row.idempotencyKey) record = some idempotency)
    (owner : record.resourceId = id) (unused : unusedRefundId id p) (slot : Scope × String) :
    ({ p with refunds, idempotency } : PostgresLedger).record? slot =
      if slot = (.refund, row.idempotencyKey) then some record else p.record? slot := by
  by_cases own : slot = (.refund, row.idempotencyKey)
  · subst own
    rw [if_pos rfl]
    refine record?_some ?_ fun _ => ?_
    · show idempotency.get? _ = some record
      rw [Table.get?_insert? claimed, if_pos rfl]
    · show (refunds.get? record.resourceId).isSome
      rw [Table.get?_insert? inserted, if_pos owner, Option.isSome_some]
  · rw [if_neg own]
    simp only [record?, Table.get?_insert? claimed, if_neg own]
    cases before : p.idempotency.get? slot with
    | none => rfl
    | some record' =>
        have stays : (slot.1 = .refund → (refunds.get? record'.resourceId).isSome) ↔
            (slot.1 = .refund → (p.refunds.get? record'.resourceId).isSome) := by
          refine forall_congr' fun scope => ?_
          have differ : record'.resourceId ≠ id :=
            unused.2 (slot, record') (Table.mem_rows.mpr before) scope
          rw [Table.get?_insert? inserted, if_neg differ]
        simp only [Option.filter_some, stays]

/-- A new refund on its charge's list, and the claim of its key. -/
theorem Agree.listRefund (agree : Agree m p) {id : String} {row : RefundRow} {charge : ChargeRow}
    {record : IdempotencyRow} {refunds : Table String RefundRow}
    {idempotency : Table (Scope × String) IdempotencyRow}
    (inserted : p.refunds.insert? id row = some refunds)
    (claimed : p.idempotency.insert? (.refund, row.idempotencyKey) record = some idempotency)
    (owner : record.resourceId = id) (unused : unusedRefundId id p)
    (found : p.charges.get? row.chargeId = some charge) (done : charge.materialised = true)
    (later : ∀ earlier ∈ p.opened row.chargeId, earlier.2.createdAt < row.createdAt) :
    Agree ({ m.setRefund (toRefund id row) with
        charges := m.charges.modify row.chargeId fun charge =>
          { charge with refundIds := charge.refundIds ++ [id] } }.setRecord
        (toIdempotency (.refund, row.idempotencyKey) record))
      { p with refunds, idempotency } := by
  refine ⟨agree.sound.listRefund inserted claimed found done later, fun id' => ?_, fun id' => ?_,
    fun slot => ?_, ?_, ?_⟩
  · show (m.charges.modify row.chargeId _).get? id' = Option.map (fun r => toCharge id' r
      ((({ p with refunds } : PostgresLedger).opened id').map Prod.fst)) _
    rw [opened_insert inserted, Table.get?_modify, agree.charges id']
    by_cases own : id' = row.chargeId
    · subst own
      rw [found]
      simp [toCharge]
    · have other : row.chargeId ≠ id' := fun same => own same.symm
      simp [own, other, Function.comp_def]
  · show (m.refunds.put id (toRefund id row)).get? id' = Option.map _ (refunds.get? id')
    rw [Table.get?_put, Table.get?_insert? inserted]
    by_cases own : id' = id
    · rw [if_pos own, if_pos own, own]
      rfl
    · rw [if_neg own, if_neg own]
      exact agree.refunds id'
  · show (m.idempotency.put (.refund, row.idempotencyKey) _).get? slot = _
    rw [Table.get?_put, record?_listRefund inserted claimed owner unused]
    by_cases own : slot = (.refund, row.idempotencyKey)
    · rw [if_pos own, if_pos own, own, Option.map_some]
    · rw [if_neg own, if_neg own]
      exact agree.records slot
  · show (m.charges.modify row.chargeId _).rows.length = p.charges.rows.length
    rw [Table.length_modify]
    exact agree.chargeCount
  · show (m.refunds.put id (toRefund id row)).rows.length = _
    have gone : m.refunds.get? id = none := by
      rw [agree.refunds, getRefund, unused.1, Option.map_none]
    rw [Table.length_put_fresh gone, Table.length_insert? inserted, agree.refundCount]

/-- A new refund, its amount on the charge, and the claim of its key. -/
theorem Agree.addRefund (agree : Agree m p) {id : String} {row : RefundRow} {charge : ChargeRow}
    {record : IdempotencyRow} {refunds : Table String RefundRow}
    {idempotency : Table (Scope × String) IdempotencyRow}
    (inserted : p.refunds.insert? id row = some refunds)
    (claimed : p.idempotency.insert? (.refund, row.idempotencyKey) record = some idempotency)
    (owner : record.resourceId = id) (unused : unusedRefundId id p)
    (found : p.charges.get? row.chargeId = some charge) (done : charge.materialised = true)
    (checks : { charge with refundedMinor := charge.refundedMinor + row.amountMinor }.checked = true)
    (later : ∀ earlier ∈ p.opened row.chargeId, earlier.2.createdAt < row.createdAt) :
    Agree ({ m.setRefund (toRefund id row) with
        charges := m.charges.modify row.chargeId fun charge =>
          { charge with
            refundIds := charge.refundIds ++ [id]
            refundedMinor := charge.refundedMinor + row.amountMinor } }.setRecord
        (toIdempotency (.refund, row.idempotencyKey) record))
      { p with
        refunds
        idempotency
        charges := p.charges.modify row.chargeId fun charge =>
          { charge with refundedMinor := charge.refundedMinor + row.amountMinor } } := by
  have listed := agree.listRefund inserted claimed owner unused found done later
  have grown := listed.modifyCharge row.chargeId
    (f := fun charge => { charge with refundedMinor := charge.refundedMinor + row.amountMinor })
    (g := fun charge => { charge with refundedMinor := charge.refundedMinor + row.amountMinor })
    (fun row' here => ?_) (fun _ => rfl) (fun _ done => done) fun _ _ _ => rfl
  · simpa only [MemoryLedger.setRecord, Table.modify_modify, Function.comp_def] using grown
  · cases Option.some.inj (here.symm.trans found)
    exact checks

end Writes

/-! ## Call for call -/

section Calls

variable {m : MemoryLedger} {p : PostgresLedger}

theorem char3_of_length {s : String} (three : s.length = 3) : char3 s = some s := by
  simp [char3, three, String.pushn, Nat.repeat]

theorem insertCharge_fresh (sound : p.Sound) {id : String} {row : ChargeRow}
    {idempotency : Table (Scope × String) IdempotencyRow} (typed : char3 row.currency = some row.currency)
    (checks : row.checked = true) (absent : p.charges.get? id = none)
    (unclaimed : p.idempotency.get? (.charge, row.idempotencyKey) = none) :
    ∃ charges, p.charges.insert? id row = some charges ∧
      insertCharge id row { p with idempotency } = .ok (row, { p with charges, idempotency }) := by
  obtain ⟨charges, inserted⟩ := Table.insert?_of_fresh absent row
  refine ⟨charges, inserted, insertCharge_ok.mpr ⟨row.currency, charges, typed, checks, ?_, inserted,
    rfl⟩⟩
  refine Table.free_iff.mpr fun id' row' here holds => ?_
  have had := sound.claimed id' row' here
  rw [Option.some.inj holds, unclaimed] at had
  cases had

theorem openCharge_agree (agree : Agree m p) {chargeId : String} {input : OpenChargeInput}
    {now : Instant} (conforms : chargeConforms chargeId input p = true) :
    (m.openCharge chargeId input now).1 = (transaction (openCharge chargeId input now) p).1 ∧
      Agree (m.openCharge chargeId input now).2 (transaction (openCharge chargeId input now) p).2 := by
  have record := agree.records (.charge, input.idempotencyKey)
  rw [record?_charge] at record
  unfold chargeConforms at conforms
  cases taken : p.idempotency.get? (.charge, input.idempotencyKey) with
  | some known =>
      rw [taken, Option.map_some] at record
      simp only [taken, decide_eq_true_eq] at conforms
      simp only [transaction, MemoryLedger.openCharge, openCharge_taken taken, record]
      by_cases same : known.fingerprint = input.fingerprint
      · have kept : ¬ (toIdempotency (.charge, input.idempotencyKey) known).fingerprint ≠
            input.fingerprint := not_not.mpr same
        rw [if_neg kept, if_neg (not_not.mpr same)]
        obtain ⟨row, owner⟩ := Option.isSome_iff_exists.mp (agree.sound.owned _ known taken)
        have charge := agree.charges known.resourceId
        rw [owner, Option.map_some, conforms same, List.map_nil] at charge
        have named : (toIdempotency (.charge, input.idempotencyKey) known).resourceId =
            known.resourceId := rfl
        simp only [named, charge, owner]
        exact ⟨rfl, agree.bump _⟩
      · have differ : (toIdempotency (.charge, input.idempotencyKey) known).fingerprint ≠
            input.fingerprint := same
        rw [if_pos differ, if_pos same]
        exact ⟨rfl, agree⟩
  | none =>
      rw [taken, Option.map_none] at record
      simp only [taken, decide_eq_true_eq] at conforms
      obtain ⟨positive, three, absent⟩ := conforms
      obtain ⟨idempotency, claimed⟩ :=
        Table.insert?_of_fresh taken (chargeClaim chargeId input now)
      have checks : (openedRow input now).checked = true :=
        decide_eq_true ⟨positive, le_refl _, positive.le⟩
      obtain ⟨charges, inserted, ran⟩ : ∃ charges,
          p.charges.insert? chargeId (openedRow input now) = some charges ∧
          insertCharge chargeId (openedRow input now) { p with idempotency } =
            .ok (openedRow input now, { p with charges, idempotency }) := insertCharge_fresh agree.sound
        (char3_of_length (s := (openedRow input now).currency) three) checks absent taken
      simp only [transaction, MemoryLedger.openCharge, openCharge_fresh claimed, record, ran,
        Except.map]
      exact ⟨rfl, agree.addCharge checks inserted claimed rfl⟩

theorem openRefund_agree (agree : Agree m p) {refundId : String} {input : OpenRefundInput}
    {now : Instant} (conforms : refundConforms refundId input now p = true) :
    (m.openRefund refundId input now).1 = (transaction (openRefund refundId input now) p).1 ∧
      Agree (m.openRefund refundId input now).2 (transaction (openRefund refundId input now) p).2 := by
  have record := agree.records (.refund, input.idempotencyKey)
  unfold refundConforms at conforms
  cases taken : p.idempotency.get? (.refund, input.idempotencyKey) with
  | some known =>
      simp only [taken] at conforms
      rw [record?_some taken fun _ => conforms, Option.map_some] at record
      simp only [transaction, MemoryLedger.openRefund, openRefund_taken taken, record]
      by_cases same : known.fingerprint = input.fingerprint
      · have kept : ¬ (toIdempotency (.refund, input.idempotencyKey) known).fingerprint ≠
            input.fingerprint := not_not.mpr same
        rw [if_neg kept, if_neg (not_not.mpr same)]
        obtain ⟨row, owner⟩ := Option.isSome_iff_exists.mp conforms
        have refund := agree.refunds known.resourceId
        rw [getRefund, owner, Option.map_some] at refund
        have named : (toIdempotency (.refund, input.idempotencyKey) known).resourceId =
            known.resourceId := rfl
        simp only [named, refund, owner]
        exact ⟨rfl, agree.bump _⟩
      · have differ : (toIdempotency (.refund, input.idempotencyKey) known).fingerprint ≠
            input.fingerprint := same
        rw [if_pos differ, if_pos same]
        exact ⟨rfl, agree⟩
  | none =>
      rw [record?_none taken, Option.map_none] at record
      simp only [taken, decide_eq_true_eq] at conforms
      obtain ⟨unused, fits⟩ := conforms
      obtain ⟨idempotency, claimed⟩ :=
        Table.insert?_of_fresh taken (refundClaim refundId input now)
      have refused : Agree m { p with idempotency } := agree.claimRefused claimed unused.1
      have charge := agree.charges input.chargeId
      cases found : p.charges.get? input.chargeId with
      | none =>
          rw [found, Option.map_none] at charge
          simp only [transaction, MemoryLedger.openRefund, openRefund_fresh claimed, decideRefund,
            refusal, record, charge, found]
          exact ⟨rfl, refused⟩
      | some row =>
          rw [found, Option.map_some] at charge
          rw [found] at fits
          simp only [transaction, MemoryLedger.openRefund, openRefund_fresh claimed, decideRefund,
            record, charge, found]
          by_cases done : row.materialised = false
          · have asMemory : (toCharge input.chargeId row
                ((p.opened input.chargeId).map Prod.fst)).materialised = false := done
            rw [if_pos asMemory]
            simp only [refusal, done, if_true]
            exact ⟨rfl, refused⟩
          have settled : row.materialised = true := by simpa using done
          by_cases status : row.status ≠ .succeeded
          · simp only [refusal, toCharge, settled, status, if_true, if_false, Bool.true_eq_false,
              ne_eq, not_false_eq_true]
            exact ⟨rfl, refused⟩
          by_cases excess : row.refundedMinor + input.amountMinor > row.amountMinor
          · simp only [refusal, toCharge, settled, status, excess, if_true, if_false,
              Bool.true_eq_false]
            exact ⟨rfl, refused⟩
          have room : refusal input (some row) = none := by
            simp only [refusal, settled, status, excess, if_false, Bool.true_eq_false]
          obtain ⟨positive, later⟩ := fits room
          have within := agree.sound.checked _ row found
          simp only [ChargeRow.checked, decide_eq_true_eq] at within
          have checks : ({ row with refundedMinor := row.refundedMinor + input.amountMinor } :
              ChargeRow).checked = true :=
            decide_eq_true ⟨within.1, by linarith [within.2.1], not_lt.mp excess⟩
          obtain ⟨refunds, inserted⟩ :=
            Table.insert?_of_fresh unused.1 (refundRow input row now)
          have free : p.refunds.free (some ·.idempotencyKey) refundId input.idempotencyKey = true := by
            refine Table.free_iff.mpr fun id row' here holds => ?_
            have had := agree.sound.refundClaimed id row' here
            rw [Option.some.inj holds, taken] at had
            cases had
          have grows : ∀ row', p.charges.get? input.chargeId = some row' →
              ({ row' with refundedMinor := row'.refundedMinor + input.amountMinor } :
                ChargeRow).checked = true := by
            intro row' here
            cases Option.some.inj (here.symm.trans found)
            exact checks
          have ran : reserve refundId input row now { p with idempotency } = .ok _ :=
            reserve_ok.mpr ⟨refunds, decide_eq_true positive, free, inserted, grows, rfl⟩
          simp only [room, ran]
          simp only [toCharge, settled, status, excess, if_false, Bool.true_eq_false]
          exact ⟨rfl, agree.addRefund inserted claimed rfl unused found settled checks later⟩

theorem materialiseCharge_agree (agree : Agree m p) (chargeId : String) (status : ChargeStatus)
    (occurredAt : Instant) :
    (m.materialiseCharge chargeId status occurredAt).1 =
        (p.materialiseCharge chargeId status occurredAt).1 ∧
      Agree (m.materialiseCharge chargeId status occurredAt).2
        (p.materialiseCharge chargeId status occurredAt).2 := by
  have charge := agree.charges chargeId
  simp only [MemoryLedger.materialiseCharge, PostgresLedger.materialiseCharge]
  cases found : p.charges.get? chargeId with
  | none =>
      rw [found, Option.map_none] at charge
      rw [charge]
      exact ⟨rfl, agree⟩
  | some row =>
      rw [found, Option.map_some] at charge
      simp only [charge]
      by_cases done : row.materialised = true
      · have asMemory : (toCharge chargeId row ((p.opened chargeId).map Prod.fst)).materialised =
            true := done
        rw [if_pos asMemory, if_pos done]
        exact ⟨rfl, agree⟩
      · have asMemory : ¬ (toCharge chargeId row ((p.opened chargeId).map Prod.fst)).materialised =
            true := done
        have bare : p.opened chargeId = [] := agree.sound.opened_nil fun row' here => by
          have same : row' = row := Option.some.inj (here.symm.trans found)
          rw [same]
          simpa using done
        rw [if_neg asMemory, if_neg done]
        refine ⟨by rw [bare]; rfl, agree.modifyCharge chargeId ?_ (fun _ => rfl) (fun _ _ => rfl)
          fun _ _ _ => rfl⟩
        intro row' here
        exact agree.sound.checked _ row' here

theorem materialiseRefund_agree (agree : Agree m p) (refundId : String) (occurredAt : Instant) :
    (m.materialiseRefund refundId occurredAt).1 = (p.materialiseRefund refundId occurredAt).1 ∧
      Agree (m.materialiseRefund refundId occurredAt).2
        (p.materialiseRefund refundId occurredAt).2 := by
  have refund := agree.refunds refundId
  simp only [MemoryLedger.materialiseRefund, PostgresLedger.materialiseRefund, getRefund] at refund ⊢
  cases found : p.refunds.get? refundId with
  | none =>
      rw [found, Option.map_none] at refund
      rw [refund]
      exact ⟨rfl, agree⟩
  | some row =>
      rw [found, Option.map_some] at refund
      simp only [refund]
      by_cases done : row.materialised = true
      · have asMemory : (toRefund refundId row).materialised = true := done
        rw [if_pos asMemory, if_pos done]
        exact ⟨rfl, agree⟩
      · have asMemory : ¬ (toRefund refundId row).materialised = true := done
        rw [if_neg asMemory, if_neg done]
        exact ⟨rfl, agree.modifyRefund refundId (fun _ => rfl) (fun _ => rfl) (fun _ => rfl)
          fun _ => rfl⟩

theorem recover_agree (agree : Agree m p) {chargeId key : String} {correlationId : Option String}
    (conforms : ((p.charges.get? chargeId).all fun row =>
      decide (row.correlationId = some "" → correlationId = some "")) = true) :
    Agree (m.recoverFromTransientFailure chargeId key correlationId)
      (p.recoverFromTransientFailure chargeId key correlationId) := by
  have keyed := agree.modifyRecord (.charge, key)
    (f := fun record => { record with outcome := .accepted })
    (g := fun record => { record with outcome := .accepted }) (fun _ => rfl) fun _ => rfl
  refine keyed.modifyCharge chargeId (fun row here => ?_) (fun _ => rfl) (fun _ done => done)
    fun row here refundIds => ?_
  · exact agree.sound.checked _ row here
  · rw [show p.charges.get? chargeId = some row from here, Option.all_some,
      decide_eq_true_eq] at conforms
    have blank := conforms
    cases given : row.correlationId with
    | none => simp [MemoryLedger.lacksCorrelation, toCharge, given]
    | some text =>
        by_cases empty : text = ""
        · subst empty
          simp [MemoryLedger.lacksCorrelation, toCharge, given, blank given]
        · simp [MemoryLedger.lacksCorrelation, toCharge, given, empty]

end Calls

/-! ## Imports -/

section Imports

variable {m : MemoryLedger} {p : PostgresLedger}

theorem insertCharge_idempotency (id : String) (row : ChargeRow)
    (idempotency : Table (Scope × String) IdempotencyRow) :
    insertCharge id row { p with idempotency } =
      (insertCharge id row p).map fun r => (r.1, { r.2 with idempotency }) := by
  unfold insertCharge
  cases char3 row.currency with
  | none => rfl
  | some currency =>
      by_cases checks : ({ row with currency } : ChargeRow).checked = false
      · simp only [checks, if_true]
        rfl
      by_cases taken : p.charges.free (some ·.idempotencyKey) id row.idempotencyKey = false
      · simp only [checks, taken, if_true]
        rfl
      · simp only [checks, taken]
        cases p.charges.insert? id { row with currency } <;> rfl

/-- The charge statement of an import neither reads nor writes a key. -/
theorem importRow_idempotency (row : ImportedCharge)
    (idempotency : Table (Scope × String) IdempotencyRow) :
    importRow row { p with idempotency } =
      (importRow row p).map fun r => (r.1, { r.2 with idempotency }) := by
  unfold importRow
  cases char3 row.currency with
  | none => rfl
  | some currency =>
      by_cases checks : ({ importedRow row with currency } : ChargeRow).checked = false
      · simp only [checks, if_true]
        rfl
      by_cases there : (p.charges.get? row.id).isSome = true
      · simp only [checks, there, if_true]
        rfl
      · simp only [checks, there]
        rw [insertCharge_idempotency]
        cases insertCharge row.id (importedRow row) p <;> rfl

theorem importRows_idempotency (rows : List ImportedCharge)
    (idempotency : Table (Scope × String) IdempotencyRow) (p : PostgresLedger) :
    importRows rows { p with idempotency } =
      (importRows rows p).map fun r => (r.1, { r.2 with idempotency }) := by
  induction rows generalizing p with
  | nil => rfl
  | cons row rows ih =>
      rw [importRows_cons, importRows_cons, importRow_idempotency]
      cases importRow row p with
      | error e => rfl
      | ok r =>
          simp only [Except.map]
          rw [ih r.2]
          cases importRows rows r.2 <;> rfl

theorem importRow_written (agree : Agree m p) {row : ImportedCharge} (fits : row.fits = true)
    (absent : p.charges.get? row.id = none)
    (unclaimed : p.idempotency.get? (.charge, row.idempotencyKey) = none) :
    ∃ charges, p.charges.insert? row.id (importedRow row) = some charges ∧
      importRow row p = .ok (true, { p with charges }) := by
  obtain ⟨checks, three⟩ := of_decide_eq_true fits
  have typed : char3 row.currency = some row.currency := char3_of_length three
  obtain ⟨charges, inserted, ran⟩ : ∃ charges,
      p.charges.insert? row.id (importedRow row) = some charges ∧
      insertCharge row.id (importedRow row) { p with idempotency := p.idempotency } =
        .ok (importedRow row, { p with charges, idempotency := p.idempotency }) :=
    insertCharge_fresh agree.sound typed checks absent unclaimed
  refine ⟨charges, inserted, ?_⟩
  have same : ({ importedRow row with currency := row.currency } : ChargeRow) = importedRow row := rfl
  simp only [importRow, typed, same, checks, absent, Option.isSome_none, Bool.true_eq_false,
    Bool.false_eq_true, if_false]
  rw [ran]
  rfl

/-- **One batch**: its two statements write what the memory ledger's loop writes. -/
theorem importBatch_agree (rows : List ImportedCharge) :
    ∀ {m : MemoryLedger} {p : PostgresLedger}, Agree m p → Importable rows p →
      ∃ imported, importRows rows p = .ok (rows.length, imported) ∧
        imported.idempotency = p.idempotency ∧
        Agree (rows.foldl MemoryLedger.importCharge m) (importKeys rows imported) ∧
        (∀ id, id ∉ rows.map (·.id) → (importKeys rows imported).charges.get? id = p.charges.get? id) ∧
        ∀ key, key ∉ rows.map (·.idempotencyKey) →
          (importKeys rows imported).idempotency.get? (.charge, key) =
            p.idempotency.get? (.charge, key) := by
  induction rows with
  | nil =>
      intro m p agree _
      exact ⟨p, rfl, rfl, agree, fun _ _ => rfl, fun _ _ => rfl⟩
  | cons row rows ih =>
      intro m p agree importable
      obtain ⟨newIds, ids⟩ := List.nodup_cons.mp importable.ids
      obtain ⟨newKeys, keys⟩ := List.nodup_cons.mp importable.keys
      have first := List.mem_cons_self (a := row) (l := rows)
      have absent := importable.newIds row first
      have unclaimed := importable.newKeys row first
      obtain ⟨charges, inserted, ran⟩ :=
        importRow_written agree (importable.fits row first) absent unclaimed
      obtain ⟨idempotency, claimed⟩ := Table.insert?_of_fresh unclaimed (importedClaim row)
      have added : Agree (MemoryLedger.importCharge m row) { p with charges, idempotency } := by
        have gone : m.charges.get? row.id = none := by rw [agree.charges, absent, Option.map_none]
        have checks := (of_decide_eq_true (importable.fits row first)).1
        have one := agree.addCharge checks inserted claimed rfl
        simp only [MemoryLedger.importCharge, gone, Option.isSome_none, Bool.false_eq_true, if_false]
        exact one
      have rest : Importable rows { p with charges, idempotency } := by
        refine ⟨ids, keys, fun r here => importable.fits r (List.mem_cons_of_mem row here),
          fun r here => ?_, fun r here => ?_⟩
        · have differ : r.id ≠ row.id := fun same => newIds (List.mem_map.mpr ⟨r, here, same⟩)
          rw [Table.get?_insert? inserted, if_neg differ]
          exact importable.newIds r (List.mem_cons_of_mem row here)
        · have differ : (Scope.charge, r.idempotencyKey) ≠ (.charge, row.idempotencyKey) :=
            fun same => newKeys (List.mem_map.mpr ⟨r, here, (Prod.mk.inj same).2⟩)
          rw [Table.get?_insert? claimed, if_neg differ]
          exact importable.newKeys r (List.mem_cons_of_mem row here)
      obtain ⟨imported, later, kept, agreed, otherIds, otherKeys⟩ := ih added rest
      -- The rows were written with this row's key still unclaimed: carry the claim back.
      have carried := importRows_idempotency rows p.idempotency { p with charges, idempotency }
      rw [later] at carried
      have whole : ({ imported with idempotency := idempotency } : PostgresLedger) = imported := by
        rw [← show imported.idempotency = idempotency from kept]
      have keyed : importKeys (row :: rows) { imported with idempotency := p.idempotency } =
          importKeys rows imported := by
        simp only [importKeys, List.foldl_cons, claimed]
        rw [whole]
      refine ⟨{ imported with idempotency := p.idempotency }, ?_, rfl, ?_, fun id other => ?_,
        fun key other => ?_⟩
      · rw [importRows_cons, ran]
        simp only [if_true]
        rw [show importRows rows { p with charges } = _ from carried]
        show Except.ok (1 + rows.length, _) = _
        rw [Nat.add_comm, List.length_cons]
      · rw [keyed]
        exact agreed
      · obtain ⟨differ, rest⟩ := not_or.mp (List.mem_cons.not.mp other)
        rw [keyed, otherIds id rest, Table.get?_insert? inserted, if_neg differ]
      · obtain ⟨differ, rest⟩ := not_or.mp (List.mem_cons.not.mp other)
        rw [keyed, otherKeys key rest, Table.get?_insert? claimed,
          if_neg fun same => differ (Prod.mk.inj same).2]

theorem importBatches_agree (batches : List (List ImportedCharge)) :
    ∀ {m : MemoryLedger} {p : PostgresLedger}, Agree m p → Importable batches.flatten p →
      (importBatches batches p).1 = .ok batches.flatten.length ∧
        Agree (batches.flatten.foldl MemoryLedger.importCharge m) (importBatches batches p).2 := by
  induction batches with
  | nil =>
      intro m p agree _
      exact ⟨rfl, agree⟩
  | cons batch batches ih =>
      intro m p agree importable
      simp only [List.flatten_cons] at importable ⊢
      obtain ⟨ids, restIds, apartIds⟩ := List.nodup_append.mp (List.map_append ▸ importable.ids)
      obtain ⟨keys, restKeys, apartKeys⟩ := List.nodup_append.mp (List.map_append ▸ importable.keys)
      have batchImportable : Importable batch p :=
        ⟨ids, keys, fun r here => importable.fits r (List.mem_append_left _ here),
          fun r here => importable.newIds r (List.mem_append_left _ here),
          fun r here => importable.newKeys r (List.mem_append_left _ here)⟩
      obtain ⟨imported, ran, -, agreed, otherIds, otherKeys⟩ :=
        importBatch_agree batch agree batchImportable
      have rest : Importable batches.flatten (importKeys batch imported) := by
        refine ⟨restIds, restKeys, fun r here => importable.fits r (List.mem_append_right _ here),
          fun r here => ?_, fun r here => ?_⟩
        · rw [otherIds r.id fun among => apartIds _ among _ (List.mem_map_of_mem here) rfl]
          exact importable.newIds r (List.mem_append_right _ here)
        · rw [otherKeys r.idempotencyKey fun among =>
            apartKeys _ among _ (List.mem_map_of_mem here) rfl]
          exact importable.newKeys r (List.mem_append_right _ here)
      obtain ⟨count, after⟩ := ih agreed rest
      simp only [importBatches, ran, List.foldl_append, List.length_append]
      rw [count]
      exact ⟨rfl, after⟩

theorem importCharges_agree (agree : Agree m p) {rows : List ImportedCharge}
    (importable : Importable rows p) :
    (p.importCharges rows).1 = .ok (m.importCharges rows).1 ∧
      Agree (m.importCharges rows).2 (p.importCharges rows).2 := by
  have whole := chunk_flatten 500 batch_pos rows
  have both := importBatches_agree (chunk 500 batch_pos rows) agree (whole.symm ▸ importable)
  rw [whole] at both
  exact both

end Imports

/-! ## Sequences -/

theorem getCharge_agree {m : MemoryLedger} {p : PostgresLedger} (agree : Agree m p) (id : String) :
    m.charges.get? id = p.getCharge id := by
  rw [agree.charges, getCharge]
  simp only [refundIdsFor, agree.sound.refundsOf_eq]

theorem refundsFor_agree {m : MemoryLedger} {p : PostgresLedger} (agree : Agree m p)
    (chargeId : String) : m.refundsFor chargeId = p.refundsFor chargeId := by
  have found : ∀ row ∈ p.opened chargeId, m.refunds.get? row.1 = some (toRefund row.1 row.2) := by
    intro row among
    rw [agree.refunds, getRefund, (mem_opened.mp among).1, Option.map_some]
  have listed : ∀ rows : List (String × RefundRow),
      (∀ row ∈ rows, m.refunds.get? row.1 = some (toRefund row.1 row.2)) →
      (rows.map Prod.fst).filterMap m.refunds.get? = rows.map fun row => toRefund row.1 row.2 := by
    intro rows
    induction rows with
    | nil => intro _; rfl
    | cons row rows ih =>
        intro found
        rw [List.map_cons, List.filterMap_cons, found row List.mem_cons_self, List.map_cons,
          ih fun r here => found r (List.mem_cons_of_mem row here)]
  rw [PostgresLedger.refundsFor, agree.sound.refundsOf_eq, ← listed _ found,
    MemoryLedger.refundsFor, agree.charges]
  cases here : p.charges.get? chargeId with
  | none =>
      rw [agree.sound.opened_nil fun row there => by rw [here] at there; cases there]
      rfl
  | some row => rfl

/-- **The step.**  A conforming call is answered alike and keeps the relation. -/
theorem call_agree (call : Op × Instant) (m : MemoryLedger) (p : PostgresLedger)
    (conforms : Conforms call p) (agree : Agree m p) :
    (memoryCall call m).1 = (postgresCall call p).1 ∧
      Agree (memoryCall call m).2 (postgresCall call p).2 := by
  obtain ⟨op, now⟩ := call
  cases op with
  | openCharge chargeId input =>
      obtain ⟨same, after⟩ := openCharge_agree agree conforms
      exact ⟨congrArg (Except.map Answer.openedCharge) same, after⟩
  | recoverFromTransientFailure chargeId key correlationId =>
      exact ⟨rfl, recover_agree agree conforms⟩
  | materialiseCharge chargeId status occurredAt =>
      obtain ⟨same, after⟩ := materialiseCharge_agree agree chargeId status occurredAt
      exact ⟨congrArg (Except.ok ∘ Answer.charge) same, after⟩
  | openRefund refundId input =>
      obtain ⟨same, after⟩ := openRefund_agree agree conforms
      exact ⟨congrArg (Except.map Answer.openedRefund) same, after⟩
  | materialiseRefund refundId occurredAt =>
      obtain ⟨same, after⟩ := materialiseRefund_agree agree refundId occurredAt
      exact ⟨congrArg (Except.ok ∘ Answer.refund) same, after⟩
  | importCharges rows =>
      obtain ⟨same, after⟩ := importCharges_agree agree conforms
      exact ⟨(congrArg (Except.map Answer.imported) same).symm, after⟩
  | getCharge id => exact ⟨congrArg (Except.ok ∘ Answer.charge) (getCharge_agree agree id), agree⟩
  | getRefund id => exact ⟨congrArg (Except.ok ∘ Answer.refund) (agree.refunds id), agree⟩
  | refundsFor chargeId =>
      exact ⟨congrArg (Except.ok ∘ Answer.refunds) (refundsFor_agree agree chargeId), agree⟩
  | counts =>
      refine ⟨?_, agree⟩
      show Except.ok (Answer.counted m.charges.rows.length m.refunds.rows.length) = _
      rw [agree.chargeCount, agree.refundCount]
      rfl

/-- **One contract.**  From the empty ledger, every sequence of conforming calls is answered
alike by both ledgers. -/
theorem ledgers_agree (ops : List (Op × Instant))
    (conform : Along (calls postgresCall) Conforms ops .empty) :
    answers memoryCall ops .empty = answers postgresCall ops .empty :=
  answers_agree (R := Agree) (fun call m p conforms agree => call_agree call m p conforms agree)
    agree_empty conform

namespace Sample

/-- A charge that settles and is refunded in part, with a replay and a refused refund. -/
def partlyRefunded : List (Op × Instant) :=
  [(.openCharge "ch_1" (chargeOf "k1" 900), 0), (.openCharge "ch_2" (chargeOf "k1" 900), 1),
    (.materialiseCharge "ch_1" .succeeded 2, 2), (.openRefund "re_1" (refundOf "ch_1" "k2" 400), 3),
    (.openRefund "re_2" (refundOf "ch_1" "k3" 600), 4), (.getCharge "ch_1", 5)]

/-- One refund of a charge nobody knows, asked for twice with one key. -/
def refusedTwice : List (Op × Instant) :=
  [(.openRefund "re_1" (refundOf "ch_1" "k" 5), 0), (.openRefund "re_2" (refundOf "ch_1" "k" 5), 1)]

end Sample

theorem ledgers_agree_partlyRefunded :
    Along (calls postgresCall) Conforms Sample.partlyRefunded .empty ∧
      answers memoryCall Sample.partlyRefunded .empty =
        answers postgresCall Sample.partlyRefunded .empty :=
  have conform : Along (calls postgresCall) Conforms Sample.partlyRefunded .empty := by
    decide +kernel
  ⟨conform, ledgers_agree _ conform⟩

/-- Postgres keeps the key of the refusal and throws; memory refuses again. -/
theorem ledgers_disagree :
    ¬ ∀ ops : List (Op × Instant), answers memoryCall ops .empty = answers postgresCall ops .empty := by
  intro agree
  have both := agree Sample.refusedTwice
  revert both
  decide +kernel

end Atrium.Paygate
