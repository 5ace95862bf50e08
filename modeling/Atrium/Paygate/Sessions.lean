/-
# Paygate.Sessions -- open transactions over the durable ledger

What the ledger has committed, and the transactions that are open over it.  A
claim is held from the INSERT to the end of its transaction, and a charge row
from `SELECT … FOR UPDATE` on; who finds either taken waits, which here is a step
that is not enabled.  Writes become visible at the commit and are decided on the
rows read before it.

`Books` is the promise about the committed rows: each charge's running total is
what was imported with it plus its refund rows.
-/
import Atrium.Base.Run
import Atrium.Paygate.Postgres

namespace Atrium.Paygate

open Atrium.Base
open PostgresLedger

set_option autoImplicit false

/-! ## The system -/

/-- An open transaction that has claimed its key. -/
inductive Session where
  | chargeClaimed (chargeId : String) (input : OpenChargeInput) (now : Instant)
  | refundClaimed (refundId : String) (input : OpenRefundInput) (now : Instant)
  | refundLocked (refundId : String) (input : OpenRefundInput) (now : Instant)
      (charge : Option ChargeRow)
  deriving DecidableEq, Repr

/-- The key the session holds. -/
def Session.slot : Session → Scope × String
  | .chargeClaimed _ input _ => (.charge, input.idempotencyKey)
  | .refundClaimed _ input _ => (.refund, input.idempotencyKey)
  | .refundLocked _ input _ _ => (.refund, input.idempotencyKey)

/-- The charge row the session holds: a row that was not there is not locked. -/
def Session.lockedCharge : Session → Option String
  | .refundLocked _ input _ (some _) => some input.chargeId
  | _ => none

structure Provider where
  db : PostgresLedger
  sessions : Table Nat Session

def Provider.empty : Provider := ⟨.empty, .empty⟩

/-- No open transaction holds the key. -/
def Provider.slotFree (s : Provider) (slot : Scope × String) : Bool :=
  s.sessions.rows.all fun row => decide (row.2.slot ≠ slot)

/-- No open transaction holds the charge row. -/
def Provider.chargeFree (s : Provider) (chargeId : String) : Bool :=
  s.sessions.rows.all fun row => decide (row.2.lockedCharge ≠ some chargeId)

/-- A statement that reaches the database; `sid` is the connection. -/
inductive Statement where
  | openCharge (sid : Nat) (chargeId : String) (input : OpenChargeInput) (now : Instant)
  | openRefund (sid : Nat) (refundId : String) (input : OpenRefundInput) (now : Instant)
  | lockCharge (sid : Nat)
  | commit (sid : Nat)
  | rollback (sid : Nat)
  | materialiseCharge (chargeId : String) (status : ChargeStatus) (occurredAt : Instant)
  | recoverFromTransientFailure (chargeId key : String) (correlationId : Option String)
  | materialiseRefund (refundId : String) (occurredAt : Instant)
  | importRows (batch : List ImportedCharge)
  | importKeys (batch : List ImportedCharge)
  deriving DecidableEq, Repr

/-- What a session's transaction still has to write, over the rows it has read. -/
def Session.pending : Session → LedgerTx Unit
  | .chargeClaimed chargeId input now => do
      let _ ← insertCharge chargeId (openedRow input now)
      pure ()
  | .refundClaimed _ _ _ => pure ()
  | .refundLocked refundId input now charge => do
      let _ ← decideRefund refundId input charge now
      pure ()

def Session.claim : Session → IdempotencyRow
  | .chargeClaimed chargeId input now => chargeClaim chargeId input now
  | .refundClaimed refundId input now => refundClaim refundId input now
  | .refundLocked refundId input now _ => refundClaim refundId input now

/-- A refund commits once its charge was looked up. -/
def Session.decided : Session → Bool
  | .refundClaimed .. => false
  | _ => true

/-- The claim and the writes reach the table together; a statement that throws is a rollback. -/
def commitSession (session : Session) (db : PostgresLedger) : Option PostgresLedger :=
  (db.idempotency.insert? session.slot session.claim).bind fun idempotency =>
    match session.pending { db with idempotency } with
    | .ok (_, after) => some after
    | .error _ => none

/-- Start a transaction with its claim; a key that is taken is replayed at once. -/
def begin_ (sid : Nat) (session : Session) (replay : LedgerTx Unit) (s : Provider) : Option Provider :=
  if s.slotFree session.slot = false then none
  else if (s.db.idempotency.get? session.slot).isSome then
    some { s with db := replay.commit s.db }
  else (s.sessions.insert? sid session).map fun sessions => { s with sessions }

def step : Statement → Provider → Option Provider
  | .openCharge sid chargeId input now, s =>
      begin_ sid (.chargeClaimed chargeId input now) (do let _ ← replayCharge input; pure ()) s
  | .openRefund sid refundId input now, s =>
      begin_ sid (.refundClaimed refundId input now) (do let _ ← replayRefund input; pure ()) s
  | .lockCharge sid, s =>
      match s.sessions.get? sid with
      | some (.refundClaimed refundId input now) =>
          let charge := s.db.charges.get? input.chargeId
          if charge.isSome = true ∧ s.chargeFree input.chargeId = false then none
          else some { s with
            sessions := s.sessions.modify sid fun _ => .refundLocked refundId input now charge }
      | _ => none
  | .commit sid, s =>
      (s.sessions.get? sid).bind fun session =>
        if session.decided then
          (commitSession session s.db).map fun db => ⟨db, s.sessions.remove sid⟩
        else none
  | .rollback sid, s =>
      (s.sessions.get? sid).map fun _ => { s with sessions := s.sessions.remove sid }
  | .materialiseCharge chargeId status occurredAt, s =>
      if s.chargeFree chargeId then
        some { s with db := (s.db.materialiseCharge chargeId status occurredAt).2 }
      else none
  | .recoverFromTransientFailure chargeId key correlationId, s =>
      if s.chargeFree chargeId then
        some { s with db := s.db.recoverFromTransientFailure chargeId key correlationId }
      else none
  | .materialiseRefund refundId occurredAt, s =>
      some { s with db := (s.db.materialiseRefund refundId occurredAt).2 }
  | .importRows batch, s =>
      match PostgresLedger.importRows batch s.db with
      | .ok (_, db) => some { s with db }
      | .error _ => none
  | .importKeys batch, s =>
      if batch.all fun row => s.slotFree (.charge, row.idempotencyKey) then
        some { s with db := PostgresLedger.importKeys batch s.db }
      else none

/-! ## What was imported -/

/-- The refunded amount a statement imports with a charge: that of the first row with its
id, where no charge has it yet. -/
def importedBy (a : Statement) (s : Provider) (chargeId : String) : Minor :=
  match a with
  | .importRows batch =>
      if (s.db.charges.get? chargeId).isSome then 0
      else ((batch.find? fun row => row.id = chargeId).map (·.refundedMinor)).getD 0
  | _ => 0

/-- The refunded amount imported with a charge, over a run. -/
def importedRefunded : List Statement → Provider → String → Minor
  | [], _, _ => 0
  | a :: as, s, chargeId =>
      importedBy a s chargeId + (step a s).elim 0 fun t => importedRefunded as t chargeId

/-! ## The promise -/

def refundedBy (db : PostgresLedger) (chargeId : String) : Minor :=
  ((db.opened chargeId).map (·.2.amountMinor)).sum

/-- The committed rows agree with each other, given what was imported. -/
structure Books (imported : String → Minor) (db : PostgresLedger) : Prop where
  total : ∀ id row, db.charges.get? id = some row → row.refundedMinor = imported id + refundedBy db id
  checked : ∀ id row, db.charges.get? id = some row → row.checked = true
  settled : ∀ id row, db.refunds.get? id = some row → ∃ charge,
    db.charges.get? row.chargeId = some charge ∧ charge.materialised = true ∧
      charge.status = .succeeded
  oneKey : db.refunds.UniqueOn (some ·.idempotencyKey)
  unknown : ∀ id, db.charges.get? id = none → imported id = 0

/-- The rows sessions have locked stand as they were read, each with one holder. -/
structure Held (s : Provider) : Prop where
  same : ∀ sid refundId input now charge,
    s.sessions.get? sid = some (.refundLocked refundId input now (some charge)) →
    s.db.charges.get? input.chargeId = some charge
  one : s.sessions.UniqueOn Session.lockedCharge

/-! ## What one write does to the books -/

section Writes

variable {imported : String → Minor} {db : PostgresLedger}

theorem Books.of_tables {db' : PostgresLedger} (books : Books imported db)
    (charges : db'.charges = db.charges) (refunds : db'.refunds = db.refunds) :
    Books imported db' := by
  obtain ⟨c, r, i⟩ := db
  obtain ⟨c', r', i'⟩ := db'
  cases charges
  cases refunds
  exact ⟨books.total, books.checked, books.settled, books.oneKey, books.unknown⟩

theorem Books.congr {imported' : String → Minor} (books : Books imported db)
    (same : ∀ id, imported' id = imported id) : Books imported' db := by
  rw [funext same]
  exact books

/-- No refund names a charge that is not there. -/
theorem Books.refundedBy_absent (books : Books imported db) {id : String}
    (absent : db.charges.get? id = none) : refundedBy db id = 0 := by
  have bare : db.opened id = [] := by
    refine List.eq_nil_iff_forall_not_mem.mpr fun row among => ?_
    obtain ⟨here, names⟩ := mem_opened.mp among
    obtain ⟨charge, found, -⟩ := books.settled row.1 row.2 here
    rw [names, absent] at found
    cases found
  rw [refundedBy, bare]
  rfl

theorem Books.addCharge (books : Books imported db) {id : String} {row : ChargeRow}
    {charges : Table String ChargeRow} (inserted : db.charges.insert? id row = some charges)
    (checks : row.checked = true) :
    Books (fun id' => if id' = id then row.refundedMinor else imported id') { db with charges } := by
  have absent := (Table.insert?_some inserted).1
  refine ⟨fun id' row' here => ?_, fun id' row' here => ?_, fun id' refund here => ?_, books.oneKey,
    fun id' missing => ?_⟩
  · rw [Table.get?_insert? inserted] at here
    by_cases own : id' = id
    · rw [if_pos own] at here
      cases here
      have none_ := books.refundedBy_absent absent
      show row.refundedMinor = (if id' = id then row.refundedMinor else imported id') + refundedBy db id'
      rw [if_pos own, own, none_, add_zero]
    · rw [if_neg own] at here
      show row'.refundedMinor = (if id' = id then row.refundedMinor else imported id') + refundedBy db id'
      rw [if_neg own]
      exact books.total id' row' here
  · rw [Table.get?_insert? inserted] at here
    by_cases own : id' = id
    · rw [if_pos own] at here
      cases here
      exact checks
    · rw [if_neg own] at here
      exact books.checked id' row' here
  · obtain ⟨charge, found, done⟩ := books.settled id' refund here
    refine ⟨charge, ?_, done⟩
    have differ : refund.chargeId ≠ id := by
      intro same
      rw [same, absent] at found
      cases found
    show charges.get? refund.chargeId = some charge
    rw [Table.get?_insert? inserted, if_neg differ]
    exact found
  · have here : charges.get? id' = none := missing
    rw [Table.get?_insert? inserted] at here
    by_cases own : id' = id
    · rw [if_pos own] at here
      cases here
    · rw [if_neg own] at here ⊢
      exact books.unknown id' here

/-- A rewrite of a charge that leaves its amounts and does not undo its outcome. -/
theorem Books.modifyCharge (books : Books imported db) (id : String) {f : ChargeRow → ChargeRow}
    (refunded : ∀ row, (f row).refundedMinor = row.refundedMinor)
    (amount : ∀ row, (f row).amountMinor = row.amountMinor)
    (outcome : ∀ row, db.charges.get? id = some row → row.materialised = true →
      row.status = .succeeded → (f row).materialised = true ∧ (f row).status = .succeeded) :
    Books imported { db with charges := db.charges.modify id f } := by
  refine ⟨fun id' row here => ?_, fun id' row here => ?_, fun id' refund here => ?_, books.oneKey,
    fun id' missing => books.unknown id' (Table.get?_modify_none.mp missing)⟩
  · obtain ⟨old, before, rfl⟩ := Table.get?_modify_some.mp here
    have sum := books.total id' old before
    by_cases own : id' = id
    · rw [if_pos own, refunded]
      exact sum
    · rw [if_neg own]
      exact sum
  · obtain ⟨old, before, rfl⟩ := Table.get?_modify_some.mp here
    have checks := books.checked id' old before
    by_cases own : id' = id
    · rw [if_pos own]
      simpa only [ChargeRow.checked, refunded, amount] using checks
    · rw [if_neg own]
      exact checks
  · obtain ⟨charge, found, done⟩ := books.settled id' refund here
    refine ⟨_, Table.get?_modify_some.mpr ⟨charge, found, rfl⟩, ?_⟩
    by_cases own : refund.chargeId = id
    · rw [if_pos own]
      exact outcome charge (own ▸ found) done.1 done.2
    · rw [if_neg own]
      exact done

theorem Books.modifyRefund (books : Books imported db) (refundId : String)
    {f : RefundRow → RefundRow} (charge : ∀ row, (f row).chargeId = row.chargeId)
    (amount : ∀ row, (f row).amountMinor = row.amountMinor)
    (key : ∀ row, (f row).idempotencyKey = row.idempotencyKey) :
    Books imported { db with refunds := db.refunds.modify refundId f } := by
  have sums : ∀ id, refundedBy { db with refunds := db.refunds.modify refundId f } id =
      refundedBy db id := by
    intro id
    rw [refundedBy, opened_modify db refundId charge id, List.map_map, refundedBy]
    refine congrArg List.sum (List.map_congr_left fun row _ => ?_)
    by_cases own : row.1 = refundId
    · simp [own, amount]
    · simp [own]
  refine ⟨fun id row here => ?_, books.checked, fun id refund here => ?_, ?_, books.unknown⟩
  · rw [sums]
    exact books.total id row here
  · obtain ⟨old, before, rfl⟩ := Table.get?_modify_some.mp here
    have had := books.settled id old before
    by_cases own : id = refundId
    · rw [if_pos own, charge]
      exact had
    · rw [if_neg own]
      exact had
  · exact books.oneKey.modify fun row _ => .inl (congrArg some (key row))

/-- **A refund** on a charge that succeeded: the row and the running total move together. -/
theorem Books.reserve (books : Books imported db) {refundId : String} {input : OpenRefundInput}
    {now : Instant} {row : ChargeRow} {refunds : Table String RefundRow}
    (found : db.charges.get? input.chargeId = some row) (done : row.materialised = true)
    (status : row.status = .succeeded)
    (free : db.refunds.free (some ·.idempotencyKey) refundId input.idempotencyKey = true)
    (inserted : db.refunds.insert? refundId (refundRow input row now) = some refunds)
    (fits : ∀ row', db.charges.get? input.chargeId = some row' →
      { row' with refundedMinor := row'.refundedMinor + input.amountMinor }.checked = true) :
    Books imported { db with
      refunds
      charges := db.charges.modify input.chargeId fun row =>
        { row with refundedMinor := row.refundedMinor + input.amountMinor } } := by
  have sums : ∀ id, refundedBy { db with
      refunds
      charges := db.charges.modify input.chargeId fun row =>
        { row with refundedMinor := row.refundedMinor + input.amountMinor } } id =
      refundedBy db id + if input.chargeId = id then input.amountMinor else 0 := by
    intro id
    have listed := opened_insert inserted id
    show ((({ db with refunds } : PostgresLedger).opened id).map (·.2.amountMinor)).sum = _
    rw [listed, List.map_append, List.sum_append, refundedBy]
    by_cases own : input.chargeId = id
    · simp [refundRow, own]
    · simp [refundRow, own]
  refine ⟨fun id row' here => ?_, fun id row' here => ?_, fun id refund here => ?_, ?_,
    fun id missing => books.unknown id (Table.get?_modify_none.mp missing)⟩
  · obtain ⟨old, before, rfl⟩ := Table.get?_modify_some.mp here
    have sum := books.total id old before
    rw [sums]
    by_cases own : id = input.chargeId
    · rw [if_pos own, if_pos own.symm, ← add_assoc, ← sum]
    · rw [if_neg own, if_neg fun same => own same.symm, add_zero]
      exact sum
  · obtain ⟨old, before, rfl⟩ := Table.get?_modify_some.mp here
    by_cases own : id = input.chargeId
    · rw [if_pos own]
      exact fits old (own ▸ before)
    · rw [if_neg own]
      exact books.checked id old before
  · have target : ∃ c, db.charges.get? refund.chargeId = some c ∧ c.materialised = true ∧
        c.status = .succeeded := by
      have here' : refunds.get? id = some refund := here
      rw [Table.get?_insert? inserted] at here'
      by_cases own : id = refundId
      · rw [if_pos own] at here'
        cases here'
        exact ⟨row, found, done, status⟩
      · rw [if_neg own] at here'
        exact books.settled id refund here'
    obtain ⟨c, before, outcome⟩ := target
    refine ⟨_, Table.get?_modify_some.mpr ⟨c, before, rfl⟩, ?_⟩
    by_cases own : refund.chargeId = input.chargeId
    · rw [if_pos own]
      exact outcome
    · rw [if_neg own]
      exact outcome
  · exact books.oneKey.insert inserted free

/-- One row of an import. -/
theorem Books.importRow (books : Books imported db) {row : ImportedCharge}
    {r : Bool × PostgresLedger} (ran : PostgresLedger.importRow row db = .ok r) :
    Books (fun id => imported id +
      if (db.charges.get? id).isSome then 0 else if row.id = id then row.refundedMinor else 0) r.2 ∧
      ∀ id, (r.2.charges.get? id).isSome = ((db.charges.get? id).isSome || decide (row.id = id)) := by
  unfold PostgresLedger.importRow at ran
  cases typed : char3 row.currency with
  | none =>
      rw [typed] at ran
      cases ran
  | some currency =>
      simp only [typed] at ran
      split at ran
      · cases ran
      split at ran
      · rename_i there
        cases ran
        refine ⟨books.congr fun id => ?_, fun id => ?_⟩
        · by_cases own : row.id = id
          · rw [if_pos (own ▸ there), add_zero]
          · rw [if_neg own, ite_self, add_zero]
        · by_cases own : row.id = id
          · subst own
            simp [there]
          · simp [own]
      · obtain ⟨r', written, rfl⟩ := Tx.map_ok.mp ran
        obtain ⟨_, charges, _, checks, -, inserted, rfl⟩ := insertCharge_ok.mp written
        have absent := (Table.insert?_some inserted).1
        refine ⟨(books.addCharge inserted checks).congr fun id => ?_, fun id => ?_⟩
        · by_cases own : id = row.id
          · subst own
            simp [absent, books.unknown _ absent, importedRow]
          · simp [own, Ne.symm own]
        · show (charges.get? id).isSome = _
          rw [Table.get?_insert? inserted]
          by_cases own : id = row.id
          · simp [own]
          · simp [own, Ne.symm own]

/-- The charge statement of a batch: each id is written by its first row, if it is new. -/
theorem Books.importRows (batch : List ImportedCharge) :
    ∀ {imported : String → Minor} {db : PostgresLedger} {r : Nat × PostgresLedger},
      Books imported db → PostgresLedger.importRows batch db = .ok r →
      Books (fun id => imported id + if (db.charges.get? id).isSome then 0
        else ((batch.find? fun row => row.id = id).map (·.refundedMinor)).getD 0) r.2 := by
  induction batch with
  | nil =>
      intro imported db r books ran
      cases ran
      exact books.congr fun id => by simp
  | cons row rows ih =>
      intro imported db r books ran
      rw [importRows_cons] at ran
      cases first : PostgresLedger.importRow row db with
      | error e =>
          rw [first] at ran
          cases ran
      | ok mid =>
          simp only [first] at ran
          obtain ⟨rest, later, rfl⟩ := Tx.map_ok.mp ran
          obtain ⟨after, standing⟩ := books.importRow first
          refine (ih after later).congr fun id => ?_
          rw [standing id]
          by_cases there : (db.charges.get? id).isSome = true
          · simp [there]
          · by_cases own : row.id = id
            · simp [there, own]
            · simp [there, own]

end Writes

/-! ## What a step does -/

theorem replayCharge_tables {input : OpenChargeInput} {db : PostgresLedger}
    {r : OpenChargeResult × PostgresLedger} (ran : replayCharge input db = .ok r) :
    r.2.charges = db.charges ∧ r.2.refunds = db.refunds := by
  obtain ⟨result, after⟩ := r
  unfold replayCharge at ran
  obtain ⟨record, _, read, ran⟩ := Tx.bind_ok.mp ran
  obtain ⟨-, rfl⟩ := Tx.fetch_ok.mp read
  rcases Tx.ite_ok.mp ran with ⟨-, ran⟩ | ⟨-, ran⟩
  · obtain ⟨-, rfl⟩ := Tx.pure_ok.mp ran
    exact ⟨rfl, rfl⟩
  · rw [Tx.write_bind] at ran
    obtain ⟨_, _, read, ran⟩ := Tx.bind_ok.mp ran
    obtain ⟨-, rfl⟩ := Tx.fetch_ok.mp read
    obtain ⟨-, rfl⟩ := Tx.pure_ok.mp ran
    exact ⟨rfl, rfl⟩

theorem replayRefund_tables {input : OpenRefundInput} {db : PostgresLedger}
    {r : OpenRefundResult × PostgresLedger} (ran : replayRefund input db = .ok r) :
    r.2.charges = db.charges ∧ r.2.refunds = db.refunds := by
  obtain ⟨result, after⟩ := r
  unfold replayRefund at ran
  obtain ⟨record, _, read, ran⟩ := Tx.bind_ok.mp ran
  obtain ⟨-, rfl⟩ := Tx.fetch_ok.mp read
  rcases Tx.ite_ok.mp ran with ⟨-, ran⟩ | ⟨-, ran⟩
  · obtain ⟨-, rfl⟩ := Tx.pure_ok.mp ran
    exact ⟨rfl, rfl⟩
  · rw [Tx.write_bind] at ran
    obtain ⟨_, _, read, ran⟩ := Tx.bind_ok.mp ran
    obtain ⟨-, rfl⟩ := Tx.fetch_ok.mp read
    obtain ⟨-, rfl⟩ := Tx.pure_ok.mp ran
    exact ⟨rfl, rfl⟩

/-- A transaction whose result nobody reads. -/
theorem forget_ok {α : Type} {x : LedgerTx α} {db : PostgresLedger} {r : Unit × PostgresLedger}
    (ran : (do let _ ← x; pure () : LedgerTx Unit) db = .ok r) : ∃ a, x db = .ok (a, r.2) := by
  rw [Tx.bind_run] at ran
  cases returned : x db with
  | error e =>
      rw [returned] at ran
      cases ran
  | ok first =>
      rw [returned] at ran
      cases ran
      exact ⟨first.1, rfl⟩

/-- A transaction starts: the tables of charges and refunds stand, and at most a session that
has locked nothing is added. -/
theorem begin_cases {sid : Nat} {session : Session} {replay : LedgerTx Unit} {s t : Provider}
    (began : begin_ sid session replay s = some t)
    (replays : ∀ r, replay s.db = .ok r →
      r.2.charges = s.db.charges ∧ r.2.refunds = s.db.refunds) :
    t.db.charges = s.db.charges ∧ t.db.refunds = s.db.refunds ∧
      (t.sessions = s.sessions ∨ s.sessions.insert? sid session = some t.sessions) := by
  unfold begin_ at began
  split at began
  · cases began
  split at began
  · cases began
    rcases replay.commit_cases s.db with same | ⟨u, after, ran, same⟩
    · simp [same]
    · have kept := replays _ ran
      simp only [same]
      exact ⟨kept.1, kept.2, .inl trivial⟩
  · obtain ⟨sessions, inserted, rfl⟩ := Option.map_eq_some_iff.mp began
    exact ⟨rfl, rfl, .inr inserted⟩

/-- What a session's commit writes. -/
inductive Committed (db db' : PostgresLedger) : Session → Prop where
  | charge (chargeId : String) (input : OpenChargeInput) (now : Instant) (row : ChargeRow)
      (opened : row.refundedMinor = 0) (checks : row.checked = true)
      (inserted : db.charges.insert? chargeId row = some db'.charges)
      (refunds : db'.refunds = db.refunds) : Committed db db' (.chargeClaimed chargeId input now)
  | refused (refundId : String) (input : OpenRefundInput) (now : Instant) (charge : Option ChargeRow)
      (charges : db'.charges = db.charges) (refunds : db'.refunds = db.refunds) :
      Committed db db' (.refundLocked refundId input now charge)
  | reserved (refundId : String) (input : OpenRefundInput) (now : Instant) (row : ChargeRow)
      (done : row.materialised = true) (status : row.status = .succeeded)
      (free : db.refunds.free (some ·.idempotencyKey) refundId input.idempotencyKey = true)
      (inserted : db.refunds.insert? refundId (refundRow input row now) = some db'.refunds)
      (fits : ∀ row', db.charges.get? input.chargeId = some row' →
        { row' with refundedMinor := row'.refundedMinor + input.amountMinor }.checked = true)
      (charges : db'.charges = db.charges.modify input.chargeId fun row =>
        { row with refundedMinor := row.refundedMinor + input.amountMinor }) :
      Committed db db' (.refundLocked refundId input now (some row))

theorem commitSession_committed {session : Session} {db db' : PostgresLedger}
    (decided : session.decided = true) (ran : commitSession session db = some db') :
    Committed db db' session := by
  obtain ⟨idempotency, -, ran⟩ := Option.bind_eq_some_iff.mp ran
  cases session with
  | chargeClaimed chargeId input now =>
      simp only [Session.pending, Tx.bind_run] at ran
      cases written : insertCharge chargeId (openedRow input now) { db with idempotency } with
      | error e =>
          rw [written] at ran
          cases ran
      | ok r =>
          rw [written] at ran
          obtain ⟨currency, charges, -, checks, -, inserted, rfl⟩ := insertCharge_ok.mp written
          cases ran
          exact .charge chargeId input now _ rfl checks inserted rfl
  | refundClaimed refundId input now => cases decided
  | refundLocked refundId input now charge =>
      simp only [Session.pending, Tx.bind_run] at ran
      cases written : decideRefund refundId input charge now { db with idempotency } with
      | error e =>
          rw [written] at ran
          cases ran
      | ok r =>
          rw [written] at ran
          cases ran
          rcases decideRefund_ok written with same | ⟨row, refunds, rfl, done, status, free, inserted,
            fits, same⟩
          · exact .refused refundId input now charge (by rw [same]) (by rw [same])
          · rw [same]
            exact .reserved refundId input now row done status free inserted fits rfl

/-! ## The locks hold -/

/-- Fewer sessions, and the rows they have locked as they were. -/
theorem Held.restrict {s t : Provider} (held : Held s)
    (fewer : ∀ sid session, t.sessions.get? sid = some session → s.sessions.get? sid = some session)
    (kept : ∀ sid session chargeId, t.sessions.get? sid = some session →
      session.lockedCharge = some chargeId →
      ∀ row, s.db.charges.get? chargeId = some row → t.db.charges.get? chargeId = some row) :
    Held t := by
  refine ⟨fun sid refundId input now charge here => ?_, fun sid session sid' session' chargeId here
    here' locked locked' => ?_⟩
  · have before := held.same sid refundId input now charge (fewer sid _ here)
    exact kept sid _ input.chargeId here rfl charge before
  · exact held.one sid session sid' session' chargeId (fewer sid _ here) (fewer sid' _ here') locked
      locked'

theorem Provider.chargeFree_iff {s : Provider} {chargeId : String} :
    s.chargeFree chargeId = true ↔ ∀ sid session, s.sessions.get? sid = some session →
      session.lockedCharge ≠ some chargeId := by
  simp only [Provider.chargeFree, List.all_eq_true, decide_eq_true_eq, Prod.forall, Table.mem_rows]

/-- A rewrite of a charge row that no session has locked. -/
theorem Held.unlocked {s : Provider} (held : Held s) {chargeId : String}
    (free : s.chargeFree chargeId = true) {db : PostgresLedger}
    (others : ∀ id, id ≠ chargeId → db.charges.get? id = s.db.charges.get? id) :
    Held { s with db } := by
  refine held.restrict (fun _ _ here => here) fun sid session id here locked row before => ?_
  have differ : id ≠ chargeId := fun same =>
    Provider.chargeFree_iff.mp free sid session here (same ▸ locked)
  exact (others id differ).trans before

theorem begin_held {sid : Nat} {session : Session} {s t : Provider} (held : Held s)
    (unlocked : session.lockedCharge = none) (charges : t.db.charges = s.db.charges)
    (sessions : t.sessions = s.sessions ∨ s.sessions.insert? sid session = some t.sessions) :
    Held t := by
  rcases sessions with same | inserted
  · refine held.restrict (fun _ _ here => same ▸ here) fun _ _ id _ _ row before => ?_
    rw [charges]
    exact before
  · refine ⟨fun sid' refundId input now charge here => ?_, held.one.insert inserted ?_⟩
    · rw [Table.get?_insert? inserted] at here
      by_cases own : sid' = sid
      · rw [if_pos own] at here
        cases here
        cases unlocked
      · rw [if_neg own] at here
        rw [charges]
        exact held.same sid' refundId input now charge here
    · rw [unlocked, Option.all_none]

theorem materialiseCharge_others (chargeId : String) (status : ChargeStatus) (occurredAt : Instant)
    (db : PostgresLedger) (id : String) (other : id ≠ chargeId) :
    (db.materialiseCharge chargeId status occurredAt).2.charges.get? id = db.charges.get? id := by
  unfold PostgresLedger.materialiseCharge
  cases db.charges.get? chargeId with
  | none => rfl
  | some row =>
      by_cases done : row.materialised = true
      · simp [done]
      · simp [done, other]

theorem importKeys_tables (batch : List ImportedCharge) (db : PostgresLedger) :
    (PostgresLedger.importKeys batch db).charges = db.charges ∧
      (PostgresLedger.importKeys batch db).refunds = db.refunds := by
  induction batch generalizing db with
  | nil => exact ⟨rfl, rfl⟩
  | cons row rows ih =>
      have rest := ih (PostgresLedger.importKeys [row] db)
      have one : (PostgresLedger.importKeys [row] db).charges = db.charges ∧
          (PostgresLedger.importKeys [row] db).refunds = db.refunds := by
        simp only [PostgresLedger.importKeys, List.foldl_cons, List.foldl_nil]
        cases db.idempotency.insert? (.charge, row.idempotencyKey) (importedClaim row) <;>
          exact ⟨rfl, rfl⟩
      exact ⟨rest.1.trans one.1, rest.2.trans one.2⟩

/-- An import leaves the charges that were there. -/
theorem importRows_kept (batch : List ImportedCharge) {db : PostgresLedger}
    {r : Nat × PostgresLedger} (ran : PostgresLedger.importRows batch db = .ok r) {id : String}
    {row : ChargeRow} (before : db.charges.get? id = some row) :
    r.2.charges.get? id = some row := by
  induction batch generalizing db r with
  | nil =>
      cases ran
      exact before
  | cons imported rows ih =>
      rw [importRows_cons] at ran
      cases first : PostgresLedger.importRow imported db with
      | error e =>
          rw [first] at ran
          cases ran
      | ok mid =>
          simp only [first] at ran
          obtain ⟨rest, later, rfl⟩ := Tx.map_ok.mp ran
          refine ih (r := rest) later ?_
          unfold PostgresLedger.importRow at first
          cases typed : char3 imported.currency with
          | none =>
              rw [typed] at first
              cases first
          | some currency =>
              simp only [typed] at first
              split at first
              · cases first
              split at first
              · cases first
                exact before
              · obtain ⟨r', written, rfl⟩ := Tx.map_ok.mp first
                obtain ⟨_, charges, -, -, -, inserted, rfl⟩ := insertCharge_ok.mp written
                have differ : id ≠ imported.id := by
                  intro same
                  rw [same, (Table.insert?_some inserted).1] at before
                  cases before
                show charges.get? id = some row
                rw [Table.get?_insert? inserted, if_neg differ]
                exact before

/-- The row a session locks is the row it remembers, and nobody else has it. -/
theorem Held.lockCharge {sid : Nat} {s t : Provider} (held : Held s)
    (stepped : step (.lockCharge sid) s = some t) : Held t := by
  simp only [step] at stepped
  split at stepped
  · rename_i refundId input now here
    split at stepped
    · cases stepped
    rename_i free
    cases stepped
    refine ⟨fun sid' refundId' input' now' charge there => ?_, held.one.modify fun session _ => ?_⟩
    · obtain ⟨old, before, changed⟩ := Table.get?_modify_some.mp there
      by_cases own : sid' = sid
      · rw [if_pos own] at changed
        obtain ⟨-, rfl, -, found⟩ := Session.refundLocked.inj changed
        exact found
      · rw [if_neg own] at changed
        subst changed
        exact held.same sid' refundId' input' now' charge before
    · right
      cases found : s.db.charges.get? input.chargeId with
      | none => rfl
      | some row =>
          have unheld : s.chargeFree input.chargeId = true := by
            simpa [found] using free
          show s.sessions.free Session.lockedCharge sid input.chargeId = true
          refine Table.free_iff.mpr fun sid' session' there locked => ?_
          exact absurd locked (Provider.chargeFree_iff.mp unheld sid' session' there)
  · cases stepped

/-- A commit writes the charge its session locked, and no other session has that one. -/
theorem Held.commit {sid : Nat} {s t : Provider} (held : Held s)
    (stepped : step (.commit sid) s = some t) : Held t := by
  obtain ⟨session, here, stepped⟩ := Option.bind_eq_some_iff.mp stepped
  split at stepped
  · rename_i decided
    obtain ⟨db, ran, rfl⟩ := Option.map_eq_some_iff.mp stepped
    have others : ∀ sid' session', (s.sessions.remove sid).get? sid' = some session' →
        sid' ≠ sid ∧ s.sessions.get? sid' = some session' := by
      intro sid' session' there
      rw [Table.get?_remove] at there
      by_cases own : sid' = sid
      · rw [if_pos own] at there
        cases there
      · rw [if_neg own] at there
        exact ⟨own, there⟩
    refine held.restrict (fun sid' session' there => (others sid' session' there).2)
      fun sid' session' id there locked row before => ?_
    obtain ⟨other, there⟩ := others sid' session' there
    cases commitSession_committed decided ran with
    | charge chargeId _ _ _ _ _ inserted _ =>
        have differ : id ≠ chargeId := by
          intro same
          rw [same, (Table.insert?_some inserted).1] at before
          cases before
        show db.charges.get? id = some row
        rw [Table.get?_insert? inserted, if_neg differ]
        exact before
    | refused _ _ _ _ charges _ =>
        show db.charges.get? id = some row
        rw [charges]
        exact before
    | reserved refundId input now own _ _ _ _ _ charges =>
        have differ : id ≠ input.chargeId := fun same =>
          other (held.one sid' session' sid _ id there here locked (same ▸ rfl))
        show db.charges.get? id = some row
        rw [charges, Table.get?_modify_ne _ _ differ]
        exact before
  · cases stepped

theorem step_held {a : Statement} {s t : Provider} (stepped : step a s = some t) (held : Held s) :
    Held t := by
  cases a with
  | openCharge sid chargeId input now =>
      obtain ⟨charges, -, sessions⟩ := begin_cases stepped fun r ran =>
        replayCharge_tables (forget_ok ran).choose_spec
      exact begin_held held rfl charges sessions
  | openRefund sid refundId input now =>
      obtain ⟨charges, -, sessions⟩ := begin_cases stepped fun r ran =>
        replayRefund_tables (forget_ok ran).choose_spec
      exact begin_held held rfl charges sessions
  | lockCharge sid => exact held.lockCharge stepped
  | commit sid => exact held.commit stepped
  | rollback sid =>
      obtain ⟨session, here, rfl⟩ := Option.map_eq_some_iff.mp stepped
      refine held.restrict (fun sid' session' there => ?_) fun _ _ _ _ _ _ before => before
      rw [Table.get?_remove] at there
      by_cases own : sid' = sid
      · rw [if_pos own] at there
        cases there
      · rw [if_neg own] at there
        exact there
  | materialiseCharge chargeId status occurredAt =>
      simp only [step] at stepped
      split at stepped
      · rename_i free
        cases stepped
        exact held.unlocked free (materialiseCharge_others chargeId status occurredAt s.db)
      · cases stepped
  | recoverFromTransientFailure chargeId key correlationId =>
      simp only [step] at stepped
      split at stepped
      · rename_i free
        cases stepped
        exact held.unlocked free fun id other => Table.get?_modify_ne _ _ other
      · cases stepped
  | materialiseRefund refundId occurredAt =>
      cases stepped
      have charges : (s.db.materialiseRefund refundId occurredAt).2.charges = s.db.charges := by
        unfold PostgresLedger.materialiseRefund
        cases s.db.refunds.get? refundId with
        | none => rfl
        | some row => by_cases done : row.materialised = true <;> simp [done]
      refine held.restrict (fun _ _ here => here) fun _ _ id _ _ row before => ?_
      rw [charges]
      exact before
  | importRows batch =>
      simp only [step] at stepped
      split at stepped
      · rename_i ran
        cases stepped
        exact held.restrict (fun _ _ here => here) fun _ _ _ _ _ _ before =>
          importRows_kept batch ran before
      · cases stepped
  | importKeys batch =>
      simp only [step] at stepped
      split at stepped
      · cases stepped
        refine held.restrict (fun _ _ here => here) fun _ _ id _ _ row before => ?_
        rw [(importKeys_tables batch s.db).1]
        exact before
      · cases stepped

/-- **The lock makes the commit the whole transaction.**  What a session decided on the row it
locked is what `openRefund` decides on the ledger it commits into. -/
theorem commit_openRefund {s : Provider} (held : Held s) {sid : Nat} {refundId : String}
    {input : OpenRefundInput} {now : Instant} {charge : ChargeRow}
    (here : s.sessions.get? sid = some (.refundLocked refundId input now (some charge)))
    (unclaimed : s.db.idempotency.get? (.refund, input.idempotencyKey) = none) :
    commitSession (.refundLocked refundId input now (some charge)) s.db =
      match openRefund refundId input now s.db with
      | .ok r => some r.2
      | .error _ => none := by
  obtain ⟨idempotency, claimed⟩ := Table.insert?_of_fresh unclaimed (refundClaim refundId input now)
  have stands := held.same sid refundId input now charge here
  have claims : s.db.idempotency.insert?
      (Session.refundLocked refundId input now (some charge)).slot
      (Session.refundLocked refundId input now (some charge)).claim = some idempotency := claimed
  rw [openRefund_fresh claimed, stands, commitSession, claims, Option.bind_some]
  simp only [Session.pending, Tx.bind_run]
  cases decideRefund refundId input (some charge) now { s.db with idempotency } <;> rfl

/-! ## The books balance -/

theorem materialiseCharge_books {imported : String → Minor} {db : PostgresLedger}
    (books : Books imported db) (chargeId : String) (status : ChargeStatus) (occurredAt : Instant) :
    Books imported (db.materialiseCharge chargeId status occurredAt).2 := by
  unfold PostgresLedger.materialiseCharge
  cases found : db.charges.get? chargeId with
  | none => exact books
  | some row =>
      by_cases done : row.materialised = true
      · simp only [done, if_true]
        exact books
      · simp only [done]
        refine books.modifyCharge chargeId (fun _ => rfl) (fun _ => rfl) fun row' here settled _ => ?_
        -- The guard found the charge unmaterialised, so no outcome is overwritten.
        rw [Option.some.inj (here.symm.trans found)] at settled
        exact absurd settled done

theorem materialiseRefund_books {imported : String → Minor} {db : PostgresLedger}
    (books : Books imported db) (refundId : String) (occurredAt : Instant) :
    Books imported (db.materialiseRefund refundId occurredAt).2 := by
  unfold PostgresLedger.materialiseRefund
  cases db.refunds.get? refundId with
  | none => exact books
  | some row =>
      by_cases done : row.materialised = true
      · simp only [done, if_true]
        exact books
      · simp only [done]
        exact books.modifyRefund refundId (fun _ => rfl) (fun _ => rfl) fun _ => rfl

theorem commit_books {imported : String → Minor} {s : Provider} {db : PostgresLedger} {sid : Nat}
    {session : Session} (held : Held s) (here : s.sessions.get? sid = some session)
    (books : Books imported s.db) (committed : Committed s.db db session) : Books imported db := by
  cases committed with
  | charge chargeId _ _ row opened checks inserted refunds =>
      have added : Books _ db := (books.addCharge inserted checks).of_tables rfl refunds
      refine added.congr fun id => ?_
      by_cases own : id = chargeId
      · rw [if_pos own, opened, own, books.unknown _ (Table.insert?_some inserted).1]
      · rw [if_neg own]
  | refused _ _ _ _ charges refunds => exact books.of_tables charges refunds
  | reserved refundId input now row done status free inserted fits charges =>
      have found := held.same sid refundId input now row here
      exact (books.reserve found done status free inserted fits).of_tables charges rfl

theorem step_books {a : Statement} {s t : Provider} {imported : String → Minor}
    (stepped : step a s = some t) (held : Held s) (books : Books imported s.db) :
    Books (fun id => imported id + importedBy a s id) t.db := by
  have nothing : importedBy a s = (fun _ => 0) → Books imported t.db →
      Books (fun id => imported id + importedBy a s id) t.db := by
    intro none_ after
    exact after.congr fun id => by rw [none_, add_zero]
  cases a with
  | openCharge sid chargeId input now =>
      obtain ⟨charges, refunds, -⟩ := begin_cases stepped fun r ran =>
        replayCharge_tables (forget_ok ran).choose_spec
      exact nothing rfl (books.of_tables charges refunds)
  | openRefund sid refundId input now =>
      obtain ⟨charges, refunds, -⟩ := begin_cases stepped fun r ran =>
        replayRefund_tables (forget_ok ran).choose_spec
      exact nothing rfl (books.of_tables charges refunds)
  | lockCharge sid =>
      simp only [step] at stepped
      split at stepped
      · split at stepped
        · cases stepped
        · cases stepped
          exact nothing rfl books
      · cases stepped
  | commit sid =>
      obtain ⟨session, here, stepped⟩ := Option.bind_eq_some_iff.mp stepped
      split at stepped
      · rename_i decided
        obtain ⟨db, ran, rfl⟩ := Option.map_eq_some_iff.mp stepped
        exact nothing rfl (commit_books held here books (commitSession_committed decided ran))
      · cases stepped
  | rollback sid =>
      obtain ⟨session, here, rfl⟩ := Option.map_eq_some_iff.mp stepped
      exact nothing rfl books
  | materialiseCharge chargeId status occurredAt =>
      simp only [step] at stepped
      split at stepped
      · cases stepped
        exact nothing rfl (materialiseCharge_books books chargeId status occurredAt)
      · cases stepped
  | recoverFromTransientFailure chargeId key correlationId =>
      simp only [step] at stepped
      split at stepped
      · cases stepped
        have recovered := books.modifyCharge chargeId
          (f := fun row => { row with correlationId := row.correlationId <|> correlationId })
          (fun _ => rfl) (fun _ => rfl) fun _ _ done status => ⟨done, status⟩
        exact nothing rfl (recovered.of_tables rfl rfl)
      · cases stepped
  | materialiseRefund refundId occurredAt =>
      cases stepped
      exact nothing rfl (materialiseRefund_books books refundId occurredAt)
  | importRows batch =>
      simp only [step] at stepped
      split at stepped
      · rename_i ran
        cases stepped
        exact Books.importRows batch books ran
      · cases stepped
  | importKeys batch =>
      simp only [step] at stepped
      split at stepped
      · cases stepped
        obtain ⟨charges, refunds⟩ := importKeys_tables batch s.db
        exact nothing rfl (books.of_tables charges refunds)
      · cases stepped

theorem held_empty : Held .empty := by
  constructor
  · intro _ _ _ _ _ here
    cases here
  · intro _ _ _ _ _ here
    cases here

theorem books_empty : Books (fun _ => 0) .empty := by
  refine ⟨fun _ _ here => ?_, fun _ _ here => ?_, fun _ _ here => ?_, fun _ _ _ _ _ here => ?_,
    fun _ _ => rfl⟩
  all_goals cases here

theorem run_books {as : List Statement} : ∀ {s t : Provider} {imported : String → Minor},
    run step as s = some t → Held s → Books imported s.db →
      Books (fun id => imported id + importedRefunded as s id) t.db := by
  induction as with
  | nil =>
      intro s t imported ran _ books
      cases ran
      exact books.congr fun id => add_zero _
  | cons a as ih =>
      intro s t imported ran held books
      obtain ⟨mid, stepped, rest⟩ := Option.bind_eq_some_iff.mp ran
      refine (ih rest (step_held stepped held) (step_books stepped held books)).congr fun id => ?_
      rw [importedRefunded, stepped, Option.elim_some, add_assoc]

/-- **The durable ledger never over-refunds**: whatever transactions were interleaved, the
committed running total of a charge is what was imported with it and its refund rows, and
never more than the charge. -/
theorem never_over_refunded {as : List Statement} {s : Provider}
    (ran : run step as .empty = some s) :
    (∀ id row, s.db.charges.get? id = some row →
      row.refundedMinor = importedRefunded as .empty id + refundedBy s.db id ∧
        row.refundedMinor ≤ row.amountMinor) ∧
      (∀ id refund, s.db.refunds.get? id = some refund → ∃ charge,
        s.db.charges.get? refund.chargeId = some charge ∧ charge.materialised = true ∧
          charge.status = .succeeded) ∧
      ∀ id refund id' refund', s.db.refunds.get? id = some refund →
        s.db.refunds.get? id' = some refund' →
        refund.idempotencyKey = refund'.idempotencyKey → id = id' := by
  have books := run_books ran held_empty books_empty
  refine ⟨fun id row here => ⟨?_, ?_⟩, books.settled, fun id refund id' refund' here here' same => ?_⟩
  · have sum := books.total id row here
    rwa [zero_add] at sum
  · have within := books.checked id row here
    simp only [ChargeRow.checked, decide_eq_true_eq] at within
    exact within.2.2
  · exact books.oneKey id refund id' refund' _ here here' (congrArg some same) rfl

namespace Sample

/-- Two refunds of one charge at once: the second waits for the row and is refused. -/
def racingRefunds : List Statement :=
  [.importRows [⟨"ch_0", "booking", 700, "USD", "k0", .succeeded, 0, 0, 100⟩],
    .openCharge 1 "ch_1" (chargeOf "k1" 900) 0, .commit 1, .materialiseCharge "ch_1" .succeeded 1,
    .openRefund 1 "re_1" (refundOf "ch_1" "k2" 600) 2,
    .openRefund 2 "re_2" (refundOf "ch_1" "k3" 600) 2, .lockCharge 2, .commit 2, .lockCharge 1,
    .commit 1, .openRefund 3 "re_3" (refundOf "ch_0" "k4" 600) 3, .lockCharge 3, .commit 3]

end Sample

theorem never_over_refunded_racing : ∃ s, run step Sample.racingRefunds .empty = some s ∧
    (s.db.charges.get? "ch_1").map (·.refundedMinor) = some 600 ∧
    (s.db.charges.get? "ch_0").map (·.refundedMinor) = some 700 ∧
    ∀ id row, s.db.charges.get? id = some row →
      row.refundedMinor = importedRefunded Sample.racingRefunds .empty id + refundedBy s.db id ∧
        row.refundedMinor ≤ row.amountMinor := by
  have totals : (run step Sample.racingRefunds .empty).map (fun s =>
      ((s.db.charges.get? "ch_1").map (·.refundedMinor),
        (s.db.charges.get? "ch_0").map (·.refundedMinor))) = some (some 600, some 700) := by
    decide +kernel
  obtain ⟨s, ran, sums⟩ := Option.map_eq_some_iff.mp totals
  exact ⟨s, ran, congrArg Prod.fst sums, congrArg Prod.snd sums, (never_over_refunded ran).1⟩

end Atrium.Paygate
