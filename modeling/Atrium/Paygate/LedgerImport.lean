/-
# Paygate.LedgerImport -- what an imported charge answers to its own key

The import route and the charges it loads.  The batches of an import are of no
consequence to one that succeeds: it writes the rows whose ids are new, then claims the
keys that are new (`importBatches_ok`), so a second import writes nothing.

A key it claims gets the fingerprint `imported`, which is that of no request: the
charge request an imported row stands for replays exactly where the key was already
claimed for the row by such a request (`import_replays_iff`).
-/
import Atrium.Paygate.RefundKeys
import Atrium.Paygate.Routes
import Atrium.Paygate.Sessions

namespace Atrium.Paygate

open Atrium.Base

set_option autoImplicit false

/-! ## The route -/

/-- A row of the request, its dates still texts. -/
structure PostedCharge where
  id : String
  reference : String
  amountMinor : Minor
  currency : String
  idempotencyKey : String
  status : ChargeStatus
  createdAt : String
  occurredAt : String
  refundedMinor : Minor

def maxSafeInteger : Int := 9007199254740991

/-- The length of a string in UTF-16 code units. -/
def jsLength (s : String) : Nat := (s.toList.map fun c => if c.toNat < 65536 then 1 else 2).sum

/-- `/^[A-Z]{3}$/`. -/
def isCurrencyCode (s : String) : Bool := decide (s.length = 3) && s.toList.all Char.isUpper

/-- `ImportedCharge`, the schema. -/
def PostedCharge.accepted (row : PostedCharge) : Bool :=
  decide (1 ≤ jsLength row.id ∧ jsLength row.id ≤ 120 ∧
    1 ≤ jsLength row.reference ∧ jsLength row.reference ≤ 200 ∧
    0 < row.amountMinor ∧ row.amountMinor ≤ maxSafeInteger ∧ isCurrencyCode row.currency ∧
    1 ≤ jsLength row.idempotencyKey ∧ jsLength row.idempotencyKey ≤ 200 ∧
    row.status ≠ .processing ∧ 1 ≤ jsLength row.createdAt ∧ 1 ≤ jsLength row.occurredAt ∧
    0 ≤ row.refundedMinor ∧ row.refundedMinor ≤ maxSafeInteger)

/-- `ImportBody`: a body the schema let through. -/
structure ImportBody where
  charges : List PostedCharge
  some_ : 1 ≤ charges.length
  atMost : charges.length ≤ 2000
  accepted : ∀ row ∈ charges, row.accepted = true

/-- The body of the charge request a row stands for. -/
def PostedCharge.body (row : PostedCharge) : ChargeBody :=
  ⟨row.amountMinor, row.currency, row.reference⟩

def PostedCharge.dated (posted : PostedCharge) (createdAt occurredAt : Instant) :
    ImportedCharge where
  id := posted.id
  reference := posted.reference
  amountMinor := posted.amountMinor
  currency := posted.currency
  idempotencyKey := posted.idempotencyKey
  status := posted.status
  createdAt := createdAt
  occurredAt := occurredAt
  refundedMinor := posted.refundedMinor

section Route

-- `new Date(text).toISOString()`, as Postgres reads it: an invalid date throws in the
-- first, and a year it cannot read in the second.
variable (timestamptz : String → Except LedgerError Instant)

def PostedCharge.row (posted : PostedCharge) : Except LedgerError ImportedCharge := do
  let createdAt ← timestamptz posted.createdAt
  let occurredAt ← timestamptz posted.occurredAt
  pure (posted.dated createdAt occurredAt)

/-- The rows of one batch. -/
def rowsOf : List PostedCharge → Except LedgerError (List ImportedCharge)
  | [] => .ok []
  | posted :: rest => do
      let row ← posted.row timestamptz
      let rows ← rowsOf rest
      pure (row :: rows)

/-- The batches in turn; the dates of a batch are read when it comes up. -/
def postBatches : List (List PostedCharge) → PostgresLedger →
    Except LedgerError Nat × PostgresLedger
  | [], db => (.ok 0, db)
  | batch :: batches, db =>
      match rowsOf timestamptz batch with
      | .error e => (.error e, db)
      | .ok rows =>
          match PostgresLedger.importRows rows db with
          | .error e => (.error e, db)
          | .ok (written, imported) =>
              let (rest, after) := postBatches batches (PostgresLedger.importKeys rows imported)
              (rest.map (written + ·), after)

/-- `POST /paygate/_ledger/import`, once the signature is verified and the body parsed. -/
def postImport (body : ImportBody) (db : PostgresLedger) :
    Except LedgerError Nat × PostgresLedger :=
  postBatches timestamptz (PostgresLedger.chunk 500 PostgresLedger.batch_pos body.charges) db

end Route

namespace PostgresLedger

/-! ## One row -/

section Rows

variable {db : PostgresLedger}

/-- The row passes the column types and the checks of its table. -/
def Storable (row : ImportedCharge) : Prop :=
  ∃ currency, char3 row.currency = some currency ∧
    ({ importedRow row with currency } : ChargeRow).checked = true

/-- A row whose id is taken is skipped, any other needs a key no charge has. -/
theorem importRow_ok {row : ImportedCharge} {r : Bool × PostgresLedger} :
    importRow row db = .ok r ↔ Storable row ∧
      (((db.charges.get? row.id).isSome ∧ r = (false, db)) ∨
        (db.charges.get? row.id = none ∧
          db.charges.free (some ·.idempotencyKey) row.id row.idempotencyKey = true ∧
          ∃ currency charges, char3 row.currency = some currency ∧
            db.charges.insert? row.id { importedRow row with currency } = some charges ∧
            r = (true, { db with charges }))) := by
  unfold importRow Storable
  cases typed : char3 row.currency with
  | none => simp
  | some currency =>
      simp only [Option.some.injEq, exists_eq_left']
      by_cases checks : ({ importedRow row with currency } : ChargeRow).checked = true
      · rw [if_neg (Bool.eq_false_iff.not_left.mpr checks)]
        cases found : db.charges.get? row.id with
        | some there =>
            simp only [Option.isSome_some, if_true, true_and, checks, reduceCtorEq, false_and,
              or_false, Except.ok.injEq]
            exact eq_comm
        | none =>
            simp only [Option.isSome_none, Bool.false_eq_true, if_false, checks, true_and,
              false_and, false_or]
            rw [Tx.map_ok]
            constructor
            · rintro ⟨written, inserted, rfl⟩
              obtain ⟨currency', charges, same, -, unique, into, rfl⟩ :=
                insertCharge_ok.mp inserted
              exact ⟨unique, currency', charges, Option.some.inj (typed.symm.trans same), into, rfl⟩
            · rintro ⟨unique, currency', charges, rfl, into, rfl⟩
              exact ⟨_, insertCharge_ok.mpr ⟨currency, charges, typed, checks, unique, into, rfl⟩,
                rfl⟩
      · rw [if_pos (Bool.eq_false_iff.mpr checks)]
        simp only [checks, false_and, reduceCtorEq]

theorem importRow_charges {row : ImportedCharge} {r : Bool × PostgresLedger}
    (ran : importRow row db = .ok r) (id : String) :
    (id = row.id → (r.2.charges.get? id).isSome) ∧
      (id ≠ row.id → r.2.charges.get? id = db.charges.get? id) := by
  obtain ⟨-, ⟨there, rfl⟩ | ⟨-, -, currency, charges, -, into, rfl⟩⟩ := importRow_ok.mp ran
  · refine ⟨?_, fun _ => rfl⟩
    rintro rfl
    exact there
  · constructor
    · rintro rfl
      show (charges.get? row.id).isSome
      rw [Table.get?_insert? into, if_pos rfl]
      rfl
    · intro other
      show charges.get? id = _
      rw [Table.get?_insert? into, if_neg other]

theorem importRow_kept {row : ImportedCharge} {r : Bool × PostgresLedger}
    (ran : importRow row db = .ok r) {id : String} {charge : ChargeRow}
    (found : db.charges.get? id = some charge) : r.2.charges.get? id = some charge := by
  obtain ⟨-, ⟨-, rfl⟩ | ⟨absent, -, currency, charges, -, into, rfl⟩⟩ := importRow_ok.mp ran
  · exact found
  · have other : id ≠ row.id := by
      intro same
      rw [same, absent] at found
      cases found
    show charges.get? id = _
    rw [Table.get?_insert? into, if_neg other]
    exact found

end Rows

/-! ## The rows of an import -/

/-- No charge has the key. -/
def Unkeyed (db : PostgresLedger) (key : String) : Prop :=
  ∀ id charge, db.charges.get? id = some charge → charge.idempotencyKey ≠ key

theorem importRows_cons_ok {row : ImportedCharge} {rows : List ImportedCharge}
    {db : PostgresLedger} {r : Nat × PostgresLedger} :
    importRows (row :: rows) db = .ok r ↔ ∃ first rest, importRow row db = .ok first ∧
      importRows rows first.2 = .ok rest ∧ r = ((if first.1 then 1 else 0) + rest.1, rest.2) := by
  rw [importRows_cons]
  cases importRow row db with
  | error e => simp
  | ok first =>
      simp only [Tx.map_ok, Except.ok.injEq]
      constructor
      · rintro ⟨rest, ran, rfl⟩
        exact ⟨first, rest, rfl, ran, rfl⟩
      · rintro ⟨_, rest, rfl, ran, rfl⟩
        exact ⟨rest, ran, rfl⟩

/-- What an import that succeeds has done: every row passed, every id is there, and each
row that was written had a key of its own. -/
theorem importRows_done {rows : List ImportedCharge} :
    ∀ {db : PostgresLedger} {r : Nat × PostgresLedger}, importRows rows db = .ok r →
      (∀ row ∈ rows, Storable row ∧ (r.2.charges.get? row.id).isSome) ∧
      ∀ row, rows.find? (fun other => other.id = row.id) = some row →
        db.charges.get? row.id = none → Unkeyed db row.idempotencyKey := by
  induction rows with
  | nil => simp
  | cons first rest ih =>
      intro db r ran
      obtain ⟨written, later, one, others, rfl⟩ := importRows_cons_ok.mp ran
      obtain ⟨there, keyed⟩ := ih others
      constructor
      · intro row among
        rcases List.mem_cons.mp among with rfl | among
        · refine ⟨(importRow_ok.mp one).1, ?_⟩
          obtain ⟨charge, found⟩ :=
            Option.isSome_iff_exists.mp ((importRow_charges one row.id).1 rfl)
          have kept := importRows_kept rest others found
          exact Option.isSome_iff_exists.mpr ⟨charge, kept⟩
        · exact there row among
      · intro row leading absent
        by_cases own : first.id = row.id
        · rw [List.find?_cons_of_pos (by simpa using own)] at leading
          cases leading
          obtain ⟨-, ⟨taken, -⟩ | ⟨-, free, -⟩⟩ := importRow_ok.mp one
          · rw [absent] at taken
            cases taken
          · intro id charge found same
            have owner := Table.free_iff.mp free id charge found (congrArg some same)
            rw [owner, absent] at found
            cases found
        · rw [List.find?_cons_of_neg (by simpa using own)] at leading
          have still : written.2.charges.get? row.id = none := by
            rw [(importRow_charges one row.id).2 (Ne.symm own), absent]
          intro id charge found
          exact keyed row leading still id charge (importRow_kept one found)

/-- Rows whose keys tell their ids, where each that is written has a key no charge has,
are imported. -/
theorem importRows_succeeds (owner : String → String) {rows : List ImportedCharge} :
    ∀ {db : PostgresLedger}, (∀ row ∈ rows, Storable row) →
      (∀ row ∈ rows, owner row.idempotencyKey = row.id) →
      (∀ row, rows.find? (fun other => other.id = row.id) = some row →
        db.charges.get? row.id = none → Unkeyed db row.idempotencyKey) →
      ∃ r, importRows rows db = .ok r := by
  induction rows with
  | nil => exact fun _ _ _ => ⟨_, rfl⟩
  | cons first rest ih =>
      intro db storable owned unkeyed
      have one : ∃ written, importRow first db = .ok written ∧
          ∀ key, owner key ≠ first.id → Unkeyed db key → Unkeyed written.2 key := by
        cases found : db.charges.get? first.id with
        | some charge =>
            refine ⟨(false, db), importRow_ok.mpr ⟨storable first List.mem_cons_self, .inl ?_⟩,
              fun _ _ still => still⟩
            rw [found]
            exact ⟨rfl, rfl⟩
        | none =>
            have free := unkeyed first (List.find?_cons_of_pos (by simp)) found
            obtain ⟨currency, typed, -⟩ := storable first List.mem_cons_self
            obtain ⟨charges, into⟩ := Table.insert?_of_fresh found
              { importedRow first with currency }
            refine ⟨(true, { db with charges }), importRow_ok.mpr
              ⟨storable first List.mem_cons_self, .inr ⟨found, ?_, currency, charges, typed, into,
                rfl⟩⟩, fun key foreign still id charge there => ?_⟩
            · refine Table.free_iff.mpr fun id charge there same => ?_
              exact absurd (Option.some.inj same) (free id charge there)
            · rw [Table.get?_insert? into] at there
              split at there
              · cases there
                intro same
                exact foreign (same ▸ owned first List.mem_cons_self)
              · exact still id charge there
      obtain ⟨written, ran, still⟩ := one
      have others : ∃ r, importRows rest written.2 = .ok r := by
        refine ih (fun row among => storable row (List.mem_cons_of_mem _ among))
          (fun row among => owned row (List.mem_cons_of_mem _ among)) fun row leading absent => ?_
        have differ : first.id ≠ row.id := by
          intro same
          have there := (importRow_charges ran row.id).1 same.symm
          rw [absent] at there
          cases there
        have among : row ∈ rest := List.mem_of_find?_eq_some leading
        refine still row.idempotencyKey ?_ (unkeyed row ?_ ?_)
        · rw [owned row (List.mem_cons_of_mem _ among)]
          exact differ.symm
        · rw [List.find?_cons_of_neg (by simpa using differ)]
          exact leading
        · rw [← (importRow_charges ran row.id).2 differ.symm]
          exact absent
      obtain ⟨r, others⟩ := others
      exact ⟨_, importRows_cons_ok.mpr ⟨written, r, ran, others, rfl⟩⟩

/-- Rows whose ids are all there are skipped. -/
theorem importRows_skip {rows : List ImportedCharge} {db : PostgresLedger}
    (storable : ∀ row ∈ rows, Storable row)
    (there : ∀ row ∈ rows, (db.charges.get? row.id).isSome) :
    importRows rows db = .ok (0, db) := by
  induction rows with
  | nil => rfl
  | cons first rest ih =>
      have one : importRow first db = .ok (false, db) :=
        importRow_ok.mpr ⟨storable first List.mem_cons_self,
          .inl ⟨there first List.mem_cons_self, rfl⟩⟩
      have others := ih (fun row among => storable row (List.mem_cons_of_mem _ among))
        fun row among => there row (List.mem_cons_of_mem _ among)
      exact importRows_cons_ok.mpr ⟨_, _, one, others, rfl⟩

/-! ## The keys of an import -/

theorem importKeys_kept {rows : List ImportedCharge} {db : PostgresLedger}
    {slot : Scope × String} {record : IdempotencyRow}
    (found : db.idempotency.get? slot = some record) :
    (importKeys rows db).idempotency.get? slot = some record := by
  induction rows generalizing db with
  | nil => exact found
  | cons row rows ih =>
      simp only [importKeys, List.foldl_cons]
      cases claimed : db.idempotency.insert? (.charge, row.idempotencyKey) (importedClaim row) with
      | none => exact ih found
      | some idempotency =>
          refine @ih { db with idempotency } ?_
          have other : slot ≠ (.charge, row.idempotencyKey) := by
            intro same
            rw [same, (Table.insert?_some claimed).1] at found
            cases found
          show idempotency.get? slot = some record
          rw [Table.get?_insert? claimed, if_neg other]
          exact found

/-- A key the import claims has the fingerprint of no request. -/
theorem importKeys_imported {rows : List ImportedCharge} {db : PostgresLedger}
    {slot : Scope × String} {record : IdempotencyRow} (unclaimed : db.idempotency.get? slot = none)
    (found : (importKeys rows db).idempotency.get? slot = some record) :
    record.fingerprint = "imported" := by
  induction rows generalizing db with
  | nil =>
      have still : db.idempotency.get? slot = some record := found
      rw [unclaimed] at still
      cases still
  | cons row rows ih =>
      simp only [importKeys, List.foldl_cons] at found
      cases claimed : db.idempotency.insert? (.charge, row.idempotencyKey) (importedClaim row) with
      | none =>
          rw [claimed] at found
          exact ih unclaimed found
      | some idempotency =>
          rw [claimed] at found
          by_cases own : slot = (.charge, row.idempotencyKey)
          · have taken : idempotency.get? slot = some (importedClaim row) := by
              rw [Table.get?_insert? claimed, if_pos own]
            have kept : (importKeys rows { db with idempotency }).idempotency.get? slot =
                some (importedClaim row) := importKeys_kept taken
            have same : some (importedClaim row) = some record := kept.symm.trans found
            cases same
            rfl
          · refine @ih { db with idempotency } ?_ found
            show idempotency.get? slot = none
            rw [Table.get?_insert? claimed, if_neg own]
            exact unclaimed

/-- Every key of the import is claimed once it is done. -/
theorem importKeys_claims {rows : List ImportedCharge} {db : PostgresLedger}
    {row : ImportedCharge} (among : row ∈ rows) :
    ((importKeys rows db).idempotency.get? (.charge, row.idempotencyKey)).isSome := by
  induction rows generalizing db with
  | nil => cases among
  | cons first rest ih =>
      rcases List.mem_cons.mp among with rfl | among
      · simp only [importKeys, List.foldl_cons]
        cases claimed : db.idempotency.insert? (.charge, row.idempotencyKey) (importedClaim row) with
        | none =>
            obtain ⟨record, found⟩ := Option.isSome_iff_exists.mp (Table.insert?_none.mp claimed)
            have kept : (importKeys rest db).idempotency.get? (.charge, row.idempotencyKey) =
                some record := importKeys_kept found
            exact Option.isSome_iff_exists.mpr ⟨record, kept⟩
        | some idempotency =>
            have taken : idempotency.get? (.charge, row.idempotencyKey) =
                some (importedClaim row) := by
              rw [Table.get?_insert? claimed, if_pos rfl]
            have kept : (importKeys rest { db with idempotency }).idempotency.get?
                (.charge, row.idempotencyKey) = some (importedClaim row) := importKeys_kept taken
            exact Option.isSome_iff_exists.mpr ⟨_, kept⟩
      · simp only [importKeys, List.foldl_cons]
        exact ih among

theorem importKeys_skip {rows : List ImportedCharge} {db : PostgresLedger}
    (claimed : ∀ row ∈ rows, (db.idempotency.get? (.charge, row.idempotencyKey)).isSome) :
    importKeys rows db = db := by
  induction rows with
  | nil => rfl
  | cons first rest ih =>
      have taken : db.idempotency.insert? (.charge, first.idempotencyKey) (importedClaim first) =
          none := Table.insert?_none.mpr (claimed first List.mem_cons_self)
      simp only [importKeys, List.foldl_cons, taken]
      exact ih fun row among => claimed row (List.mem_cons_of_mem _ among)

/-- The key statement neither reads nor writes a charge. -/
theorem importKeys_congr {rows : List ImportedCharge} {db db' : PostgresLedger}
    (same : db'.idempotency = db.idempotency) :
    (importKeys rows db').idempotency = (importKeys rows db).idempotency := by
  induction rows generalizing db db' with
  | nil => exact same
  | cons row rows ih =>
      simp only [importKeys, List.foldl_cons, same]
      cases db.idempotency.insert? (.charge, row.idempotencyKey) (importedClaim row) with
      | none => exact ih same
      | some idempotency => exact ih rfl

theorem importKeys_eq (rows : List ImportedCharge) (db : PostgresLedger) :
    importKeys rows db = { db with idempotency := (importKeys rows db).idempotency } := by
  obtain ⟨charges, refunds⟩ := importKeys_tables rows db
  cases after : importKeys rows db with
  | mk charges' refunds' idempotency =>
      rw [after] at charges refunds
      cases charges
      cases refunds
      rfl

theorem importKeys_append (front back : List ImportedCharge) (db : PostgresLedger) :
    importKeys (front ++ back) db = importKeys back (importKeys front db) :=
  List.foldl_append

/-! ## Batches -/

/-- The charge statement runs alike under any keys. -/
theorem importRows_withKeys {rows : List ImportedCharge} {db mid : PostgresLedger} {n : Nat}
    {idempotency : Table (Scope × String) IdempotencyRow} :
    importRows rows { db with idempotency } = .ok (n, mid) ↔
      ∃ bare, importRows rows db = .ok (n, bare) ∧ mid = { bare with idempotency } := by
  rw [importRows_idempotency, Tx.map_ok]
  constructor
  · rintro ⟨⟨m, bare⟩, ran, same⟩
    cases same
    exact ⟨bare, ran, rfl⟩
  · rintro ⟨bare, ran, rfl⟩
    exact ⟨(n, bare), ran, rfl⟩

theorem importRows_append {front back : List ImportedCharge} {db : PostgresLedger}
    {r : Nat × PostgresLedger} :
    importRows (front ++ back) db = .ok r ↔ ∃ first rest, importRows front db = .ok first ∧
      importRows back first.2 = .ok rest ∧ r = (first.1 + rest.1, rest.2) := by
  induction front generalizing db r with
  | nil =>
      constructor
      · intro ran
        exact ⟨(0, db), r, rfl, ran, by rw [Nat.zero_add]⟩
      · rintro ⟨first, rest, skipped, ran, rfl⟩
        cases skipped
        rw [Nat.zero_add]
        exact ran
  | cons row rows ih =>
      rw [List.cons_append, importRows_cons_ok]
      constructor
      · rintro ⟨one, rest, ran, others, rfl⟩
        obtain ⟨middle, last, before, after, rfl⟩ := ih.mp others
        exact ⟨_, last, importRows_cons_ok.mpr ⟨one, middle, ran, before, rfl⟩, after,
          by rw [Nat.add_assoc]⟩
      · rintro ⟨first, last, before, after, rfl⟩
        obtain ⟨one, middle, ran, others, rfl⟩ := importRows_cons_ok.mp before
        exact ⟨one, _, ran, ih.mpr ⟨middle, last, others, after, rfl⟩, by rw [Nat.add_assoc]⟩

end PostgresLedger

section Route

variable {timestamptz : String → Except LedgerError Instant}

/-- Both dates of the row can be stored. -/
def PostedCharge.Dated (timestamptz : String → Except LedgerError Instant)
    (posted : PostedCharge) : Prop :=
  (∃ t, timestamptz posted.createdAt = .ok t) ∧ ∃ t, timestamptz posted.occurredAt = .ok t

/-- The instant of a text that has one. -/
def instantOf (timestamptz : String → Except LedgerError Instant) (text : String) : Instant :=
  match timestamptz text with
  | .ok t => t
  | .error _ => 0

def PostedCharge.stored (timestamptz : String → Except LedgerError Instant)
    (posted : PostedCharge) : ImportedCharge :=
  posted.dated (instantOf timestamptz posted.createdAt) (instantOf timestamptz posted.occurredAt)

theorem row_ok {posted : PostedCharge} {row : ImportedCharge} :
    posted.row timestamptz = .ok row ↔
      posted.Dated timestamptz ∧ row = posted.stored timestamptz := by
  unfold PostedCharge.row PostedCharge.Dated PostedCharge.stored instantOf
  cases timestamptz posted.createdAt with
  | error e => simp [bind, Except.bind]
  | ok created =>
      cases timestamptz posted.occurredAt with
      | error e => simp [bind, Except.bind]
      | ok occurred => simp [bind, Except.bind, pure, Except.pure, eq_comm]

theorem rowsOf_ok {posted : List PostedCharge} {rows : List ImportedCharge} :
    rowsOf timestamptz posted = .ok rows ↔
      (∀ row ∈ posted, row.Dated timestamptz) ∧
        rows = posted.map (PostedCharge.stored timestamptz) := by
  induction posted generalizing rows with
  | nil => simp [rowsOf, eq_comm]
  | cons first rest ih =>
      rw [rowsOf, List.forall_mem_cons, List.map_cons]
      cases one : first.row timestamptz with
      | error e =>
          have undated : ¬ first.Dated timestamptz := by
            intro dated
            rw [row_ok.mpr ⟨dated, rfl⟩] at one
            cases one
          simp [bind, Except.bind, undated]
      | ok row =>
          obtain ⟨dated, rfl⟩ := row_ok.mp one
          cases others : rowsOf timestamptz rest with
          | error e =>
              have undated : ¬ ∀ row ∈ rest, row.Dated timestamptz := by
                intro dated
                rw [ih.mpr ⟨dated, rfl⟩] at others
                cases others
              simp [bind, Except.bind, undated]
          | ok rows' =>
              obtain ⟨dated', rfl⟩ := ih.mp others
              simp only [bind, Except.bind, pure, Except.pure, Except.ok.injEq, dated, true_and]
              exact ⟨fun same => ⟨dated', same.symm⟩, fun ⟨_, same⟩ => same.symm⟩

/-- A batch that has its rows, and the batches after it. -/
theorem postBatch_ok {rows : List ImportedCharge} {batches : List (List PostedCharge)}
    {db after : PostgresLedger} {written : Nat} :
    (match PostgresLedger.importRows rows db with
      | .error e => (Except.error e, db)
      | .ok (one, imported) =>
          let (rest, last) := postBatches timestamptz batches (PostgresLedger.importKeys rows imported)
          (rest.map (one + ·), last)) = (.ok written, after) ↔
      ∃ one imported rest, PostgresLedger.importRows rows db = .ok (one, imported) ∧
        postBatches timestamptz batches (PostgresLedger.importKeys rows imported) =
          (.ok rest, after) ∧ written = one + rest := by
  cases PostgresLedger.importRows rows db with
  | error e => simp
  | ok r =>
      obtain ⟨one, imported⟩ := r
      dsimp only
      rcases run : postBatches timestamptz batches (PostgresLedger.importKeys rows imported)
        with ⟨rest, last⟩
      simp only [Prod.mk.injEq, Except.ok.injEq]
      constructor
      · rintro ⟨mapped, rfl⟩
        obtain ⟨n, rfl, rfl⟩ := Tx.map_ok.mp mapped
        exact ⟨one, imported, n, ⟨rfl, rfl⟩, by rw [run], rfl⟩
      · rintro ⟨_, _, n, ⟨rfl, rfl⟩, others, rfl⟩
        rw [run] at others
        cases others
        exact ⟨rfl, rfl⟩

/-- **An import that succeeds is one batch.** -/
theorem postBatches_ok {batches : List (List PostedCharge)} {db after : PostgresLedger}
    {written : Nat} :
    postBatches timestamptz batches db = (.ok written, after) ↔
      ∃ rows mid, rowsOf timestamptz batches.flatten = .ok rows ∧
        PostgresLedger.importRows rows db = .ok (written, mid) ∧
        after = { mid with idempotency := (PostgresLedger.importKeys rows db).idempotency } := by
  induction batches generalizing db after written with
  | nil =>
      simp only [postBatches, List.flatten_nil, rowsOf, Except.ok.injEq, exists_and_left,
        exists_eq_left', PostgresLedger.importRows, Prod.mk.injEq]
      constructor
      · rintro ⟨rfl, rfl⟩
        exact ⟨db, rfl, rfl⟩
      · rintro ⟨mid, ran, rfl⟩
        cases ran
        exact ⟨rfl, rfl⟩
  | cons batch batches ih =>
      rw [List.flatten_cons]
      unfold postBatches
      cases read : rowsOf timestamptz batch with
      | error e =>
          simp only [Prod.mk.injEq, reduceCtorEq, false_and, false_iff, not_exists, not_and]
          intro rows mid all
          obtain ⟨dated, -⟩ := rowsOf_ok.mp all
          rw [rowsOf_ok.mpr ⟨fun row here => dated row (List.mem_append_left _ here), rfl⟩] at read
          cases read
      | ok rows =>
          obtain ⟨dated, rfl⟩ := rowsOf_ok.mp read
          rw [postBatch_ok]
          constructor
          · rintro ⟨one, imported, rest, ran, others, rfl⟩
            obtain ⟨rows, mid, read', ran', rfl⟩ := ih.mp others
            obtain ⟨dated', rfl⟩ := rowsOf_ok.mp read'
            rw [PostgresLedger.importKeys_eq] at ran'
            obtain ⟨bare, later, rfl⟩ := PostgresLedger.importRows_withKeys.mp ran'
            refine ⟨_, bare, rowsOf_ok.mpr ⟨fun row here => ?_, rfl⟩, ?_, ?_⟩
            · exact (List.mem_append.mp here).elim (dated row) (dated' row)
            · rw [List.map_append]
              exact PostgresLedger.importRows_append.mpr ⟨_, _, ran, later, rfl⟩
            · have same := PostgresLedger.importRows_sameKeys _ ran
              rw [List.map_append, PostgresLedger.importKeys_append]
              rw [PostgresLedger.importKeys_congr (PostgresLedger.importKeys_congr same)]
          · rintro ⟨rows, mid, all, ran, rfl⟩
            obtain ⟨every, rfl⟩ := rowsOf_ok.mp all
            rw [List.map_append] at ran
            obtain ⟨⟨one, imported⟩, ⟨rest, bare⟩, first, later, same⟩ :=
              PostgresLedger.importRows_append.mp ran
            cases same
            refine ⟨one, imported, rest, first, ih.mpr ⟨_, { bare with
              idempotency := (PostgresLedger.importKeys (batch.map (PostedCharge.stored timestamptz))
                imported).idempotency }, rowsOf_ok.mpr
              ⟨fun row here => every row (List.mem_append_right _ here), rfl⟩, ?_, ?_⟩, rfl⟩
            · rw [PostgresLedger.importKeys_eq]
              exact PostgresLedger.importRows_withKeys.mpr ⟨bare, later, rfl⟩
            · have same := PostgresLedger.importRows_sameKeys _ first
              rw [List.map_append, PostgresLedger.importKeys_append]
              rw [PostgresLedger.importKeys_congr (PostgresLedger.importKeys_congr same)]

theorem postImport_ok {body : ImportBody} {db after : PostgresLedger} {written : Nat} :
    postImport timestamptz body db = (.ok written, after) ↔
      (∀ row ∈ body.charges, row.Dated timestamptz) ∧
      ∃ mid, PostgresLedger.importRows (body.charges.map (PostedCharge.stored timestamptz)) db =
          .ok (written, mid) ∧
        after = { mid with
          idempotency := (PostgresLedger.importKeys
            (body.charges.map (PostedCharge.stored timestamptz)) db).idempotency } := by
  have batches : postImport timestamptz body db = (.ok written, after) ↔ _ := postBatches_ok
  rw [batches, PostgresLedger.chunk_flatten]
  constructor
  · rintro ⟨rows, mid, read, ran, same⟩
    obtain ⟨dated, rfl⟩ := rowsOf_ok.mp read
    exact ⟨dated, mid, ran, same⟩
  · rintro ⟨dated, mid, ran, same⟩
    exact ⟨_, mid, rowsOf_ok.mpr ⟨dated, rfl⟩, ran, same⟩

/-- What the schema and the column types leave to the table's checks. -/
theorem storable_iff {row : PostedCharge} (accepted : row.accepted = true) :
    PostgresLedger.Storable (row.stored timestamptz) ↔ row.refundedMinor ≤ row.amountMinor := by
  simp only [PostedCharge.accepted, isCurrencyCode, decide_eq_true_eq, Bool.and_eq_true] at accepted
  obtain ⟨-, -, -, -, positive, -, ⟨three, -⟩, -, -, -, -, -, nonneg, -⟩ := accepted
  have typed : char3 (row.stored timestamptz).currency = some row.currency :=
    char3_of_length three
  unfold PostgresLedger.Storable
  rw [typed]
  simp only [Option.some.injEq, exists_eq_left', ChargeRow.checked, decide_eq_true_eq]
  constructor
  · rintro ⟨-, -, within⟩
    exact within
  · intro within
    exact ⟨positive, nonneg, within⟩

end Route

/-! ## Replays of what was imported -/

/-- The import succeeds, a second one changes nothing, and the charge request of every row
replays its charge. -/
def ImportReplays (cfg : PaygateConfig) (timestamptz : String → Except LedgerError Instant)
    (body : ImportBody) (db : PostgresLedger) : Prop :=
  ∃ written after, postImport timestamptz body db = (.ok written, after) ∧
    postImport timestamptz body after = (.ok 0, after) ∧
    ∀ row ∈ body.charges, ∀ (chargeId : String) (correlationId : Option String) (now : Instant),
      ∃ charge record later, PostgresLedger.openCharge chargeId
          (chargeInput cfg row.idempotencyKey row.body correlationId) now after =
        .ok (.replayed charge record, later) ∧ charge.id = row.id

/-- Every row can be stored, its request has already claimed its key for its id, and a
charge that is still missing has a key no other charge has. -/
structure ClaimedBefore (cfg : PaygateConfig) (timestamptz : String → Except LedgerError Instant)
    (body : ImportBody) (db : PostgresLedger) : Prop where
  dated : ∀ row ∈ body.charges, row.Dated timestamptz
  refunded : ∀ row ∈ body.charges, row.refundedMinor ≤ row.amountMinor
  claimed : ∀ row ∈ body.charges,
    db.Claimed (.charge, row.idempotencyKey) row.id (cfg.fingerprintOfCharge row.body)
  unkeyed : ∀ row, body.charges.find? (fun other => other.id = row.id) = some row →
    db.charges.get? row.id = none → db.Unkeyed row.idempotencyKey

section Replays

variable {cfg : PaygateConfig} {timestamptz : String → Except LedgerError Instant}
  {body : ImportBody} {db : PostgresLedger}

/-- The first stored row of an id is the first posted one, stored. -/
theorem find_stored {posted : List PostedCharge} {row : ImportedCharge} :
    (posted.map (PostedCharge.stored timestamptz)).find? (fun other => other.id = row.id) =
        some row ↔
      ∃ source, posted.find? (fun other => other.id = source.id) = some source ∧
        source.stored timestamptz = row := by
  rw [List.find?_map, Option.map_eq_some_iff]
  constructor
  · rintro ⟨source, found, rfl⟩
    exact ⟨source, found, rfl⟩
  · rintro ⟨source, found, rfl⟩
    exact ⟨source, found, rfl⟩

/-- A second import finds every row and every key. -/
theorem postImport_again {after : PostgresLedger} {written : Nat}
    (first : postImport timestamptz body db = (.ok written, after)) :
    postImport timestamptz body after = (.ok 0, after) := by
  obtain ⟨dated, mid, ran, rfl⟩ := postImport_ok.mp first
  obtain ⟨there, -⟩ := PostgresLedger.importRows_done ran
  have skipped := PostgresLedger.importRows_skip (fun row here => (there row here).1)
    fun row here => (there row here).2
  have kept : PostgresLedger.importKeys (body.charges.map (PostedCharge.stored timestamptz))
      { mid with idempotency := (PostgresLedger.importKeys
        (body.charges.map (PostedCharge.stored timestamptz)) db).idempotency } =
      { mid with idempotency := (PostgresLedger.importKeys
        (body.charges.map (PostedCharge.stored timestamptz)) db).idempotency } :=
    PostgresLedger.importKeys_skip fun row among => PostgresLedger.importKeys_claims among
  refine postImport_ok.mpr ⟨dated, _, PostgresLedger.importRows_withKeys.mpr ⟨mid, skipped, rfl⟩, ?_⟩
  rw [kept]

theorem ClaimedBefore.replays (before : ClaimedBefore cfg timestamptz body db) :
    ImportReplays cfg timestamptz body db := by
  -- A key tells the id it was claimed for.
  let owner (key : String) : String :=
    ((db.idempotency.get? (.charge, key)).map (·.resourceId)).getD ""
  have storable : ∀ row ∈ body.charges.map (PostedCharge.stored timestamptz),
      PostgresLedger.Storable row := by
    intro row among
    obtain ⟨source, here, rfl⟩ := List.mem_map.mp among
    exact (storable_iff (body.accepted source here)).mpr (before.refunded source here)
  have owned : ∀ row ∈ body.charges.map (PostedCharge.stored timestamptz),
      owner row.idempotencyKey = row.id := by
    intro row among
    obtain ⟨source, here, rfl⟩ := List.mem_map.mp among
    obtain ⟨record, found, resource, -⟩ := before.claimed source here
    show ((db.idempotency.get? (.charge, source.idempotencyKey)).map (·.resourceId)).getD "" = _
    rw [found]
    exact resource
  obtain ⟨⟨written, mid⟩, ran⟩ := PostgresLedger.importRows_succeeds owner storable owned
    fun row leading absent => by
      obtain ⟨source, found, rfl⟩ := find_stored.mp leading
      exact before.unkeyed source found absent
  have imported := postImport_ok.mpr ⟨before.dated, mid, ran, rfl⟩
  refine ⟨written, _, imported, postImport_again imported, ?_⟩
  intro row here chargeId correlationId now
  obtain ⟨record, found, resource, fingerprint⟩ := before.claimed row here
  have kept : (PostgresLedger.importKeys (body.charges.map (PostedCharge.stored timestamptz))
      db).idempotency.get? (.charge, row.idempotencyKey) = some record :=
    PostgresLedger.importKeys_kept found
  obtain ⟨charge, stored⟩ := Option.isSome_iff_exists.mp
    ((PostgresLedger.importRows_done ran).1 _ (List.mem_map_of_mem here)).2
  have answered := @PostgresLedger.openCharge_taken
    { mid with idempotency := (PostgresLedger.importKeys
      (body.charges.map (PostedCharge.stored timestamptz)) db).idempotency }
    chargeId (chargeInput cfg row.idempotencyKey row.body correlationId) now record kept
  have held : mid.charges.get? record.resourceId = some charge := by
    rw [resource]
    exact stored
  have same : record.fingerprint =
      (chargeInput cfg row.idempotencyKey row.body correlationId).fingerprint := fingerprint
  rw [if_neg (not_not.mpr same)] at answered
  simp only [held] at answered
  exact ⟨_, _, _, answered, resource⟩

theorem ImportReplays.claimed (hash : ∀ request, (cfg.fingerprintOfCharge request).length = 32)
    (replays : ImportReplays cfg timestamptz body db) :
    ClaimedBefore cfg timestamptz body db := by
  obtain ⟨written, after, first, -, answers⟩ := replays
  obtain ⟨dated, mid, ran, rfl⟩ := postImport_ok.mp first
  obtain ⟨there, unkeyed⟩ := PostgresLedger.importRows_done ran
  refine ⟨dated, fun row here => ?_, fun row here => ?_, fun row leading absent => ?_⟩
  · exact (storable_iff (body.accepted row here)).mp (there _ (List.mem_map_of_mem here)).1
  · obtain ⟨charge, record, later, answered, same⟩ := answers row here "" none 0
    have claims : ((PostgresLedger.importKeys (body.charges.map (PostedCharge.stored timestamptz))
        db).idempotency.get? (.charge, row.idempotencyKey)).isSome :=
      PostgresLedger.importKeys_claims (List.mem_map_of_mem here : row.stored timestamptz ∈ _)
    obtain ⟨kept, found⟩ := Option.isSome_iff_exists.mp claims
    rw [PostgresLedger.openCharge_taken found] at answered
    split at answered
    · cases answered
    rename_i matches_
    have fingerprint : kept.fingerprint = cfg.fingerprintOfCharge row.body := not_not.mp matches_
    split at answered
    · cases answered
    cases answered
    cases claimed : db.idempotency.get? (.charge, row.idempotencyKey) with
    | none =>
        -- The key is one the import claimed, and no request hashes to `imported`.
        have placeholder := PostgresLedger.importKeys_imported claimed found
        have short := hash row.body
        rw [← fingerprint, placeholder] at short
        exact absurd short (by decide)
    | some record =>
        have same' : some record = some kept :=
          (PostgresLedger.importKeys_kept claimed).symm.trans found
        cases same'
        exact ⟨_, claimed, same, fingerprint⟩
  · exact unkeyed (row.stored timestamptz) (find_stored.mpr ⟨row, leading, rfl⟩) absent

/-- **An imported charge replays only where its own request came first.** -/
theorem import_replays_iff (hash : ∀ request, (cfg.fingerprintOfCharge request).length = 32) :
    ImportReplays cfg timestamptz body db ↔ ClaimedBefore cfg timestamptz body db :=
  ⟨ImportReplays.claimed hash, ClaimedBefore.replays⟩

end Replays

namespace Sample

/-- A provider without chaos; the fingerprint is that of 900 USD for `booking`. -/
def hashing : PaygateConfig where
  planFor _ := importedPlan
  declineAmountMinor := 1
  fingerprintOfCharge _ := "53dda93660356bfe840916ae9f89ce72"
  fingerprintOfRefund _ := "53dda93660356bfe840916ae9f89ce72"

def newYear (text : String) : Except LedgerError Instant :=
  if text = "2026-01-01T00:00:00.000Z" then .ok 1767225600000
  else .error (.thrown "Invalid time value")

/-- A settled charge of 900 USD. -/
def settled : PostedCharge where
  id := "ch_1"
  reference := "booking"
  amountMinor := 900
  currency := "USD"
  idempotencyKey := "charge:booking"
  status := .succeeded
  createdAt := "2026-01-01T00:00:00.000Z"
  occurredAt := "2026-01-01T00:00:00.000Z"
  refundedMinor := 0

def history : ImportBody := ⟨[settled], by decide, by decide, by decide +kernel⟩

/-- The ledger once the charge's own request has opened it. -/
def paidBefore : PostgresLedger :=
  (postgresCall (.openCharge "ch_1"
    (chargeInput hashing "charge:booking" ⟨900, "USD", "booking"⟩ none), 0) .empty).2

end Sample

theorem hashing_length (request : ChargeBody) :
    (Sample.hashing.fingerprintOfCharge request).length = 32 := by
  have digest : "53dda93660356bfe840916ae9f89ce72".length = 32 := by decide +kernel
  exact digest

theorem import_replays_iff_paidBefore :
    ImportReplays Sample.hashing Sample.newYear Sample.history Sample.paidBefore := by
  have claim : Sample.paidBefore.idempotency.get? (.charge, "charge:booking") = some
      ⟨"ch_1", "53dda93660356bfe840916ae9f89ce72", .accepted, 0, 0⟩ := by
    decide +kernel
  have charge : (Sample.paidBefore.charges.get? "ch_1").isSome = true := by decide +kernel
  refine (import_replays_iff hashing_length).mpr ⟨?_, by decide +kernel, ?_, ?_⟩
  · refine List.forall_mem_singleton.mpr ⟨⟨1767225600000, ?_⟩, ⟨1767225600000, ?_⟩⟩ <;>
      exact if_pos rfl
  · exact List.forall_mem_singleton.mpr ⟨_, claim, rfl, rfl⟩
  · intro row leading absent
    have only := List.mem_singleton.mp (List.mem_of_find?_eq_some leading)
    rw [only] at absent
    rw [show Sample.settled.id = "ch_1" from rfl] at absent
    rw [absent] at charge
    cases charge

/-- **A key the import claims is reported as reused**: an empty ledger, one settled
charge, and its own request. -/
theorem imported_charge_reports_reuse : ¬ ∀ (cfg : PaygateConfig)
    (timestamptz : String → Except LedgerError Instant) (body : ImportBody) (db : PostgresLedger),
      (∀ request, (cfg.fingerprintOfCharge request).length = 32) →
      ImportReplays cfg timestamptz body db := by
  intro claim
  obtain ⟨written, after, first, -, answers⟩ := claim Sample.hashing Sample.newYear Sample.history
    .empty hashing_length
  obtain ⟨charge, record, later, answered, -⟩ :=
    answers Sample.settled (List.mem_singleton.mpr rfl) "ch_2" none 1
  have reused : (PostgresLedger.openCharge "ch_2"
      (chargeInput Sample.hashing Sample.settled.idempotencyKey Sample.settled.body none) 1
      (postImport Sample.newYear Sample.history .empty).2).map (·.1) = .ok .fingerprintMismatch := by
    decide +kernel
  rw [first, answered] at reused
  cases reused

end Atrium.Paygate
