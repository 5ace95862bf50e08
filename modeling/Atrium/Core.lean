/-
# Core -- what the webhook bookkeeping does not influence

The core of a database is all of it but the recorded deliveries and the notes on
payments (`failure_reason`, `updated_at`).  Every transaction run from the same
core aborts or returns alike and leaves the same core; only the application of a
delivery reads the deliveries, and what it applies is its event.
-/
import Atrium.Base.Simulation
import Atrium.Txn

namespace Atrium

open Atrium.Base

set_option autoImplicit false

def Payment.plain (p : Payment) : Payment := { p with failureReason := none, updatedAt := 0 }

/-- Equal but for the notes. -/
def samePayment (p q : Payment) : Prop := p.plain = q.plain

def sameRow (r s : Uuid × Payment) : Prop := r.1 = s.1 ∧ samePayment r.2 s.2

/-- Equal but for the deliveries and the notes on payments. -/
structure SameCore (s t : Db) : Prop where
  venues : s.venues = t.venues
  rooms : s.rooms = t.rooms
  equipmentTypes : s.equipmentTypes = t.equipmentTypes
  users : s.users = t.users
  policies : s.cancellationPolicies = t.cancellationPolicies
  bookings : s.bookings = t.bookings
  items : s.bookingLineItems = t.bookingLineItems
  payments : (s.payments.update fun _ p => p.plain) = t.payments.update fun _ p => p.plain
  events : s.paymentEvents = t.paymentEvents
  audit : s.auditEvents = t.auditEvents

namespace samePayment

variable {p q : Payment}

theorem fields (same : samePayment p q) :
    p.bookingId = q.bookingId ∧ p.idempotencyKey = q.idempotencyKey ∧ p.chargeId = q.chargeId ∧
      p.amountMinor = q.amountMinor ∧ p.status = q.status ∧ p.refundId = q.refundId ∧
      p.refundIdempotencyKey = q.refundIdempotencyKey ∧ p.refundedMinor = q.refundedMinor ∧
      p.createdAt = q.createdAt := by
  simpa [samePayment, Payment.plain] using same

theorem of_fields (same : p.bookingId = q.bookingId ∧ p.idempotencyKey = q.idempotencyKey ∧
    p.chargeId = q.chargeId ∧ p.amountMinor = q.amountMinor ∧ p.status = q.status ∧
    p.refundId = q.refundId ∧ p.refundIdempotencyKey = q.refundIdempotencyKey ∧
    p.refundedMinor = q.refundedMinor ∧ p.createdAt = q.createdAt) : samePayment p q := by
  simpa [samePayment, Payment.plain] using same

/-- The other is the one with other notes. -/
theorem notes (same : samePayment p q) :
    ∃ reason now, q = { p with failureReason := reason, updatedAt := now } := by
  obtain ⟨booking, key, charge, amount, status, refund, minted, refunded, created⟩ := same.fields
  exact ⟨q.failureReason, q.updatedAt, by simp [*]⟩

end samePayment

namespace SameCore

variable {s t : Db}

theorem refl (s : Db) : SameCore s s := ⟨rfl, rfl, rfl, rfl, rfl, rfl, rfl, rfl, rfl, rfl⟩

theorem symm (same : SameCore s t) : SameCore t s :=
  ⟨same.venues.symm, same.rooms.symm, same.equipmentTypes.symm, same.users.symm,
    same.policies.symm, same.bookings.symm, same.items.symm, same.payments.symm, same.events.symm,
    same.audit.symm⟩

theorem trans {u : Db} (first : SameCore s t) (second : SameCore t u) : SameCore s u :=
  ⟨first.venues.trans second.venues, first.rooms.trans second.rooms,
    first.equipmentTypes.trans second.equipmentTypes, first.users.trans second.users,
    first.policies.trans second.policies, first.bookings.trans second.bookings, first.items.trans second.items,
    first.payments.trans second.payments, first.events.trans second.events,
    first.audit.trans second.audit⟩

/-! ## Payments of one core -/

theorem rows (same : SameCore s t) : List.Forall₂ sameRow s.payments.rows t.payments.rows := by
  have rows := congrArg Table.rows same.payments
  simp only [Table.update_rows] at rows
  rw [← List.forall₂_eq_eq_eq, List.forall₂_map_left_iff, List.forall₂_map_right_iff] at rows
  refine rows.imp fun r r' equal => ?_
  simpa [sameRow, samePayment] using equal

theorem payment (same : SameCore s t) (id : Uuid) :
    Option.Rel samePayment (s.payments.get? id) (t.payments.get? id) := by
  have looked := congrArg (fun table => table.get? id) same.payments
  simp only [Table.get?_update] at looked
  cases left : s.payments.get? id with
  | none =>
      rw [left, Option.map_none] at looked
      rw [Option.map_eq_none_iff.mp looked.symm]
      exact .none
  | some p =>
      rw [left, Option.map_some] at looked
      obtain ⟨q, right, equal⟩ := Option.map_eq_some_iff.mp looked.symm
      rw [right]
      exact .some equal.symm

/-! ## Queries of one core -/

/-- A query that does not read the notes. -/
theorem select (same : SameCore s t) {f : Uuid → Payment → Bool}
    (blind : ∀ id p q, samePayment p q → f id p = f id q) :
    List.Forall₂ sameRow (s.payments.select f) (t.payments.select f) := by
  refine List.rel_filter (R := sameRow) ?_ same.rows
  rintro ⟨id, p⟩ ⟨id', q⟩ ⟨rfl, equal⟩
  show f id p = true ↔ f id q = true
  rw [blind id p q equal]

theorem head_related {rows rows' : List (Uuid × Payment)}
    (both : List.Forall₂ sameRow rows rows') : Option.Rel sameRow rows.head? rows'.head? := by
  cases both with
  | nil => exact .none
  | cons first rest => exact .some first

theorem paymentByKey (same : SameCore s t) (key : String) :
    Option.Rel sameRow (Atrium.paymentByKey s key) (Atrium.paymentByKey t key) :=
  head_related (same.select fun _ p q equal => by rw [equal.fields.2.1])

theorem paymentByChargeId (same : SameCore s t) (chargeId : String) :
    Option.Rel sameRow (Atrium.paymentByChargeId s chargeId)
      (Atrium.paymentByChargeId t chargeId) :=
  head_related (same.select fun _ p q equal => by rw [equal.fields.2.2.1])

theorem paymentByReference (same : SameCore s t) (reference : String) :
    Option.Rel sameRow (Atrium.paymentByReference s reference)
      (Atrium.paymentByReference t reference) := by
  unfold Atrium.paymentByReference
  cases uuidOf reference with
  | none => exact .none
  | some bookingId =>
      exact head_related (same.select fun _ p q equal => by rw [equal.fields.1, equal.fields.2.1])

theorem find_related {rows rows' : List (Uuid × Payment)} (both : List.Forall₂ sameRow rows rows')
    (choice : Uuid) :
    Option.Rel sameRow (rows.find? fun row => row.1 = choice)
      (rows'.find? fun row => row.1 = choice) := by
  induction both with
  | nil => exact .none
  | @cons r r' rest rest' first _ ih =>
      obtain ⟨id, p⟩ := r
      obtain ⟨id', q⟩ := r'
      obtain ⟨rfl, equal⟩ := first
      by_cases own : id = choice
      · simpa [own] using Option.Rel.some ⟨rfl, equal⟩
      · simpa [own] using ih

theorem capturedPayment (same : SameCore s t) (bookingId choice : Uuid) :
    Option.Rel sameRow (Atrium.capturedPayment s bookingId choice)
      (Atrium.capturedPayment t bookingId choice) := by
  have both := same.select
    (f := fun _ p => decide (p.bookingId = bookingId ∧ p.status = .succeeded))
    fun _ p q equal => by rw [equal.fields.1, equal.fields.2.2.2.2.1]
  simp only [Atrium.capturedPayment]
  generalize (s.payments.select fun _ p =>
    decide (p.bookingId = bookingId ∧ p.status = .succeeded)) = rows at both
  generalize (t.payments.select fun _ p =>
    decide (p.bookingId = bookingId ∧ p.status = .succeeded)) = rows' at both
  have found := find_related both choice
  generalize rows.find? (fun row => row.1 = choice) = left at found
  generalize rows'.find? (fun row => row.1 = choice) = right at found
  cases found with
  | none => exact head_related both
  | some equal => exact .some equal

/-- A value of a unique column is free in both or in neither. -/
theorem free (same : SameCore s t) {col : Payment → Option String}
    (blind : ∀ p q, samePayment p q → col p = col q) (id : Uuid) (c : String) :
    s.payments.free col id c = t.payments.free col id c := by
  have taken : ∀ db : Db, db.payments.free col id c =
      (db.payments.select fun k p => decide (k ≠ id ∧ col p = some c)).isEmpty := fun db => by
    rw [Bool.eq_iff_iff, Table.free_iff, List.isEmpty_iff, List.eq_nil_iff_forall_not_mem]
    constructor
    · rintro holds ⟨k, p⟩ among
      obtain ⟨here, taken⟩ := Table.mem_select.mp among
      obtain ⟨other, value⟩ := of_decide_eq_true taken
      exact other (holds k p here value)
    · intro none_ k p here value
      by_contra other
      exact none_ (k, p) (Table.mem_select.mpr ⟨here, decide_eq_true ⟨other, value⟩⟩)
  rw [taken, taken]
  have both := same.select (f := fun k p => decide (k ≠ id ∧ col p = some c))
    fun k p q equal => by rw [blind p q equal]
  generalize (s.payments.select fun k p => decide (k ≠ id ∧ col p = some c)) = rows at both ⊢
  generalize (t.payments.select fun k p => decide (k ≠ id ∧ col p = some c)) = rows' at both ⊢
  cases both <;> rfl

theorem paymentFits (same : SameCore s t) (id : Uuid) {p q : Payment} (equal : samePayment p q) :
    Atrium.paymentFits s id p = Atrium.paymentFits t id q := by
  obtain ⟨-, -, charge, -, -, refund, key, -⟩ := equal.fields
  have charges := @free s t same Payment.chargeId (fun p q equal => equal.fields.2.2.1) id
  have refunds := @free s t same Payment.refundId (fun p q equal => equal.fields.2.2.2.2.2.1) id
  have keys := @free s t same Payment.refundIdempotencyKey
    (fun p q equal => equal.fields.2.2.2.2.2.2.1) id
  unfold Atrium.paymentFits
  rw [← charge, ← refund, ← key]
  cases p.chargeId <;> cases p.refundId <;> cases p.refundIdempotencyKey <;>
    simp [charges, refunds, keys]

/-! ## Writes -/

/-- A row either core refuses, or both take. -/
theorem insertPayment (same : SameCore s t) (id : Uuid) (p : Payment) :
    Option.Rel (fun u v : Table Uuid Payment =>
        (u.update fun _ p => p.plain) = v.update fun _ p => p.plain)
      (s.payments.insert? id p) (t.payments.insert? id p) := by
  have both := same.payment id
  cases left : s.payments.get? id with
  | some q =>
      rw [left] at both
      cases right : t.payments.get? id with
      | none =>
          rw [right] at both
          cases both
      | some q' =>
          rw [Table.insert?_none.mpr (by simp [left]), Table.insert?_none.mpr (by simp [right])]
          exact .none
  | none =>
      rw [left] at both
      cases right : t.payments.get? id with
      | some q' =>
          rw [right] at both
          cases both
      | none =>
          obtain ⟨u, insertedLeft⟩ := Table.insert?_of_fresh left p
          obtain ⟨v, insertedRight⟩ := Table.insert?_of_fresh right p
          rw [insertedLeft, insertedRight]
          refine .some ?_
          have rows := congrArg Table.rows same.payments
          ext1
          simp only [Table.update_rows] at rows ⊢
          rw [(Table.insert?_some insertedLeft).2, (Table.insert?_some insertedRight).2,
            List.map_append, List.map_append, rows]

/-- An update of payments that treats the notes alike. -/
theorem modifyPayment (same : SameCore s t) (id : Uuid) {f g : Payment → Payment}
    (alike : ∀ p q, samePayment p q → samePayment (f p) (g q)) :
    SameCore (s.modifyPayment id f) (t.modifyPayment id g) := by
  refine ⟨same.venues, same.rooms, same.equipmentTypes, same.users, same.policies, same.bookings,
    same.items, ?_, same.events, same.audit⟩
  ext1
  simp only [Db.modifyPayment_payments, Table.modify, Table.update_rows, List.map_map]
  rw [← List.forall₂_eq_eq_eq, List.forall₂_map_left_iff, List.forall₂_map_right_iff]
  refine same.rows.imp fun r r' equal => ?_
  obtain ⟨k, p⟩ := r
  obtain ⟨k', q⟩ := r'
  obtain ⟨rfl, equal⟩ := equal
  by_cases own : k = id
  · simpa [own, samePayment] using alike p q equal
  · simpa [own, samePayment] using equal

/-- Deliveries are not of the core. -/
theorem deliveries (s : Db) (table : Table Uuid WebhookDelivery) :
    SameCore { s with webhookDeliveries := table } s :=
  ⟨rfl, rfl, rfl, rfl, rfl, rfl, rfl, rfl, rfl, rfl⟩

end SameCore

/-! ## Updates blind to the notes -/

/-- An update that treats the notes alike. -/
def blind (f g : Payment → Payment) : Prop := ∀ p q, samePayment p q → samePayment (f p) (g q)

theorem adopted_blind (chargeId : String) (now : Instant) :
    blind (adopted chargeId now) (adopted chargeId now) := by
  intro p q same
  have fields := same.fields
  simp only [adopted, fields.2.2.1]
  split
  · exact .of_fields (by simpa using ⟨fields.1, fields.2.1, fields.2.2.2⟩)
  · exact same

theorem markSucceeded_blind (chargeId : String) (now : Instant) :
    blind (markSucceeded chargeId now) (markSucceeded chargeId now) := by
  intro p q same
  have fields := same.fields
  exact .of_fields (by simp [markSucceeded, fields])

theorem markFailed_blind (now : Instant) : blind (markFailed now) (markFailed now) := by
  intro p q same
  have fields := same.fields
  exact .of_fields (by simp [markFailed, fields])

theorem markRefunded_blind (refundId : Option String) (amount : Minor) (now : Instant) :
    blind (markRefunded refundId amount now) (markRefunded refundId amount now) := by
  intro p q same
  have fields := same.fields
  exact .of_fields (by simp [markRefunded, fields])

theorem mintRefundKey_blind (key : String) (now : Instant) :
    blind (mintRefundKey key now) (mintRefundKey key now) := by
  intro p q same
  have fields := same.fields
  simp only [mintRefundKey, fields.2.2.2.2.2.2.1]
  split
  · exact .of_fields (by simp [fields])
  · exact same

theorem boundRefund_blind (refundId : String) (now : Instant) :
    blind (boundRefund refundId now) (boundRefund refundId now) := by
  intro p q same
  have fields := same.fields
  simp only [boundRefund, fields.2.2.2.2.2.1]
  split
  · exact .of_fields (by simp [fields])
  · exact same

/-! ## Relations of the core -/

/-- A relation that holds only of equal cores, and that the same write on both sides
keeps: what `SameCore` shares with every finer relation a transaction cannot tell
from equality. -/
structure KeepsCore (R : Db → Db → Prop) : Prop where
  core : ∀ {s t}, R s t → SameCore s t
  bookings : ∀ {s t}, R s t → ∀ table,
    R { s with bookings := table } { t with bookings := table }
  items : ∀ {s t}, R s t → ∀ items,
    R { s with bookingLineItems := items } { t with bookingLineItems := items }
  policies : ∀ {s t}, R s t → ∀ table,
    R { s with cancellationPolicies := table } { t with cancellationPolicies := table }
  events : ∀ {s t}, R s t → ∀ events,
    R { s with paymentEvents := events } { t with paymentEvents := events }
  log : ∀ {s t}, R s t → ∀ entries,
    R { s with auditEvents := entries } { t with auditEvents := entries }
  payment : ∀ {s t}, R s t → ∀ id {f}, blind f f →
    R (s.modifyPayment id f) (t.modifyPayment id f)
  insert : ∀ {s t}, R s t → ∀ {id p u v}, s.payments.insert? id p = some u →
    t.payments.insert? id p = some v → R { s with payments := u } { t with payments := v }

theorem SameCore.keepsCore : KeepsCore SameCore where
  core same := same
  bookings same _ := { same with bookings := rfl }
  items same _ := { same with items := rfl }
  policies same _ := { same with policies := rfl }
  events same _ := { same with events := rfl }
  log same _ := { same with audit := rfl }
  payment same id _ alike := same.modifyPayment id alike
  insert {_ _} same {id p _ _} left right := by
    have both := same.insertPayment id p
    rw [left, right] at both
    cases both with
    | some equal => exact { same with payments := equal }

namespace KeepsCore

variable {R : Db → Db → Prop} {s t : Db}

theorem modifyBooking (keeps : KeepsCore R) (same : R s t) (id : Uuid) (f : Booking → Booking) :
    R (s.modifyBooking id f) (t.modifyBooking id f) := by
  have written := keeps.bookings same (s.bookings.modify id f)
  simpa only [Db.modifyBooking, (keeps.core same).bookings] using written

theorem logged (keeps : KeepsCore R) (same : R s t) (entry : AuditEvent) :
    R (s.audit entry) (t.audit entry) := by
  have written := keeps.log same (s.auditEvents ++ [entry])
  simpa only [Db.audit, (keeps.core same).audit] using written

theorem claim (keeps : KeepsCore R) (same : R s t) (e : PaymentEvent) :
    R (s.claim e) (t.claim e) := by
  have written := keeps.events same (s.paymentEvents ++ [e])
  simpa only [Db.claim, (keeps.core same).events] using written

theorem expire (keeps : KeepsCore R) (same : R s t) (ids : List Uuid) (now : Instant)
    (actor : Actor) (reason : String) :
    R (s.expire ids now actor reason) (t.expire ids now actor reason) := by
  have core := keeps.core same
  have moved := keeps.bookings same (s.expire ids now actor reason).bookings
  have written := keeps.log moved (s.expire ids now actor reason).auditEvents
  simpa only [Db.expire, core.bookings, core.audit] using written

end KeepsCore

/-! ## What a transaction reads and writes of the core -/

section Core

variable {R : Db → Db → Prop} (keeps : KeepsCore R)

include keeps

theorem insertAudit_sim (entry : AuditEvent) :
    Sim R Eq (insertAudit entry) (insertAudit entry) :=
  .write rfl fun _ _ same => keeps.logged same entry

theorem lockBooking_sim (id : Uuid) : Sim R Eq (lockBooking id) (lockBooking id) :=
  .read fun _ _ same => by rw [(keeps.core same).bookings]

theorem transition_sim (now : Instant) (input : TransitionInput) :
    Sim R Eq (transition now input) (transition now input) := by
  refine .of_returns ?_ ?_
  · intro s t b s' same ran
    obtain ⟨b, here, expected, legal, rfl, rfl⟩ := transition_ok.mp ran
    rw [(keeps.core same).bookings] at here
    exact ⟨_, _, transition_ok.mpr ⟨b, here, expected, legal, rfl, rfl⟩, rfl,
      keeps.logged (keeps.modifyBooking same _ _) _⟩
  · intro s t b t' same ran
    obtain ⟨b, here, expected, legal, rfl, rfl⟩ := transition_ok.mp ran
    rw [← (keeps.core same).bookings] at here
    exact ⟨_, _, transition_ok.mpr ⟨b, here, expected, legal, rfl, rfl⟩⟩

theorem recordSideEffect_sim (now : Instant) (input : SideEffectInput) :
    Sim R Eq (recordSideEffect now input) (recordSideEffect now input) := by
  refine .of_returns ?_ ?_
  · intro s t b s' same ran
    obtain ⟨b, here, expected, rfl, rfl⟩ := recordSideEffect_ok.mp ran
    rw [(keeps.core same).bookings] at here
    exact ⟨_, _, recordSideEffect_ok.mpr ⟨b, here, expected, rfl, rfl⟩, rfl,
      keeps.logged (keeps.modifyBooking same _ _) _⟩
  · intro s t b t' same ran
    obtain ⟨b, here, expected, rfl, rfl⟩ := recordSideEffect_ok.mp ran
    rw [← (keeps.core same).bookings] at here
    exact ⟨_, _, recordSideEffect_ok.mpr ⟨b, here, expected, rfl, rfl⟩⟩

theorem loadOwnedBooking_sim (bookingId : UuidText) (principal : AuthPrincipal) :
    Sim R Eq (loadOwnedBooking bookingId principal) (loadOwnedBooking bookingId principal) := by
  intro s t same
  unfold loadOwnedBooking
  rw [(keeps.core same).bookings]
  cases t.bookings.get? bookingId.value with
  | none =>
      cases principal.role <;> cases principal.venueId <;> exact .inl ⟨_, _, rfl, rfl⟩
  | some b =>
      cases scope : bookingScope principal b with
      | error e => exact .inl ⟨e, e, by simp [scope], by simp [scope]⟩
      | ok allowed =>
          cases allowed with
          | false =>
              exact .inl ⟨.notFound "Not Found", .notFound "Not Found", by simp only [scope],
                by simp only [scope]⟩
          | true => exact .inr ⟨b, b, s, t, by simp only [scope], by simp only [scope], rfl, same⟩

theorem loadOwned_sim (bookingId : UuidText) (principal : AuthPrincipal) :
    Sim R Eq (loadOwned bookingId principal) (loadOwned bookingId principal) :=
  .fetchEq fun s t same => by rw [(keeps.core same).bookings]

theorem checkoutLoaded_sim (env : Env) (bookingId : UuidText) (principal : AuthPrincipal)
    (booking : Booking) (now : Instant) :
    Sim R Eq (checkoutLoaded env bookingId principal booking now)
      (checkoutLoaded env bookingId principal booking now) := by
  refine .ite Iff.rfl (.abort _ _) (.ite Iff.rfl ?_ (.ite Iff.rfl (.abort _ _) ?_))
  · exact .bind (transition_sim keeps _ _) fun _ _ _ => .abort _ _
  · exact .ite Iff.rfl (.abort _ _) (recordSideEffect_sim keeps _ _)

theorem cancel_sim (bookingId : UuidText) (reason : String) (principal : AuthPrincipal)
    (now : Instant) :
    Sim R Eq (cancel bookingId reason principal now)
      (cancel bookingId reason principal now) :=
  .bind (loadOwnedBooking_sim keeps _ _) fun _ _ _ => transition_sim keeps _ _

/-! ## Payments -/

theorem updatePayment_sim (id : Uuid) {f : Payment → Payment} (alike : blind f f) :
    Sim R Eq (updatePayment id f) (updatePayment id f) := by
  refine .bind (.read (Q := Option.Rel samePayment) fun s t same =>
    (keeps.core same).payment id) ?_
  intro left right both
  cases both with
  | none => exact .ret rfl
  | @some p q equal =>
      refine .bind (.read (Q := Eq) fun s t same =>
        (keeps.core same).paymentFits id (alike p q equal)) ?_
      rintro fits _ rfl
      exact .ite Iff.rfl (.write rfl fun s t same => keeps.payment same id alike) (.abort _ _)

theorem insertPayment_sim (paymentId : Uuid) (p : Payment) :
    Sim R Eq (insertPayment paymentId p) (insertPayment paymentId p) := by
  refine .bind (.read fun s t same => (keeps.core same).paymentByKey _) ?_
  intro left right both
  cases both with
  | some _ => exact .ret rfl
  | none =>
      intro s t same
      have both := (keeps.core same).insertPayment paymentId p
      simp only [Tx.fetch_bind]
      cases left : s.payments.insert? paymentId p with
      | none =>
          rw [left] at both
          cases right : t.payments.insert? paymentId p with
          | none => exact .inl ⟨_, _, rfl, rfl⟩
          | some v =>
              rw [right] at both
              cases both
      | some u =>
          rw [left] at both
          cases right : t.payments.insert? paymentId p with
          | none =>
              rw [right] at both
              cases both
          | some v =>
              exact .inr ⟨_, _, _, _, rfl, rfl, trivial, keeps.insert same left right⟩

/-- Two prepared payments that ask the provider for the same. -/
def sameRequest (bookingId : UuidText) (r r' : Prepared) : Prop :=
  preparedOutcome bookingId r = preparedOutcome bookingId r'

theorem payLoaded_sim (bookingId : UuidText) (principal : AuthPrincipal) (booking : Booking)
    {existing existing' : Option (Uuid × Payment)}
    (both : Option.Rel sameRow existing existing') (stamp : PayStamp) :
    Sim R (sameRequest bookingId) (payLoaded bookingId principal booking existing stamp)
      (payLoaded bookingId principal booking existing' stamp) := by
  have fresh : Sim R (sameRequest bookingId)
      (payLoaded bookingId principal booking none stamp)
      (payLoaded bookingId principal booking none stamp) := by
    refine .ite Iff.rfl ?_ (.ite Iff.rfl ?_ (.abort _ _))
    · exact .bind (transition_sim keeps _ _) fun _ _ _ => .abort _ _
    · refine .bind (insertPayment_sim keeps _ _) ?_
      rintro _ _ -
      refine .bind (.fetch fun s t same => (keeps.core same).paymentByKey _) ?_
      intro payment payment' equal
      have request : sameRequest bookingId (.charge booking payment) (.charge booking payment') := by
        simp [sameRequest, preparedOutcome, chargeRequest, equal.1, equal.2.fields.2.2.2.1]
      refine .ite Iff.rfl ?_ (.ret request)
      exact .bind (transition_sim keeps _ _) fun _ _ _ => .ret request
  have unsettled : ∀ row : Uuid × Payment, row.2.status = .pending →
      payLoaded bookingId principal booking (some row) stamp =
        payLoaded bookingId principal booking none stamp := by
    intro row pending
    simp [payLoaded, Option.filter, pending]
  have settled : ∀ row : Uuid × Payment, row.2.status ≠ .pending →
      payLoaded bookingId principal booking (some row) stamp = pure (.settled row) := by
    intro row done
    simp [payLoaded, Option.filter, done]
  cases both with
  | none => exact fresh
  | @some row row' equal =>
      have status := equal.2.fields.2.2.2.2.1
      by_cases pending : row.2.status = .pending
      · rw [unsettled row pending, unsettled row' (status ▸ pending)]
        exact fresh
      · rw [settled row pending, settled row' (status ▸ pending)]
        exact .ret rfl

theorem settleCancellation_sim (bookingId choice : Uuid) (now : Instant) :
    Sim R Eq (settleCancellation bookingId choice now)
      (settleCancellation bookingId choice now) := by
  refine .bind (lockBooking_sim keeps _) ?_
  rintro found _ rfl
  cases found with
  | none => exact .ret rfl
  | some booking =>
      refine .bind (.read fun s t same => (keeps.core same).capturedPayment bookingId choice) ?_
      intro left right both
      cases both with
      | none => exact .ret rfl
      | @some row row' equal =>
          obtain ⟨id, p⟩ := row
          obtain ⟨id', q⟩ := row'
          obtain ⟨rfl, equal⟩ := equal
          obtain ⟨reason, at_, rfl⟩ := equal.notes
          dsimp only
          cases p.chargeId with
          | none => exact .ret rfl
          | some chargeId =>
              cases p.refundIdempotencyKey with
              | some key => exact .ret rfl
              | none =>
                  refine .bind (Q := Eq) (.ite Iff.rfl (.abort _ _) (.ret rfl)) ?_
                  rintro parsed _ rfl
                  cases parsed with
                  | none => exact .ret rfl
                  | some snapshot =>
                      refine .bind (.read (Q := Eq) fun s t same => ?_) ?_
                      · simp only [cancellationRefund, splitTotals, (keeps.core same).items]
                      · rintro worth _ rfl
                        cases worth with
                        | error e => exact .abort _ _
                        | ok breakdown =>
                            refine .bind (updatePayment_sim keeps _ (mintRefundKey_blind _ _)) ?_
                            rintro _ _ -
                            refine .bind (insertAudit_sim keeps _) ?_
                            rintro _ _ -
                            exact .ret rfl

/-! ## Events -/

theorem claimEvent_sim (e : PaymentEvent) : Sim R Eq (claimEvent e) (claimEvent e) := by
  refine .bind (.read (Q := Eq) fun s t same => by rw [(keeps.core same).events]) ?_
  rintro taken _ rfl
  refine .ite Iff.rfl (.ret rfl) ?_
  refine .bind (.write (Q := Eq) rfl fun _ _ same => keeps.claim same e) ?_
  rintro _ _ -
  exact .ret rfl

theorem resolvePolicySnapshot_sim (venueId : Uuid) (now : Instant) :
    Sim R Eq (resolvePolicySnapshot venueId now) (resolvePolicySnapshot venueId now) := by
  have newest : ∀ scope s t, R s t → newestPolicy s scope = newestPolicy t scope :=
    fun scope s t same => by simp only [newestPolicy, (keeps.core same).policies]
  have parse : ∀ row, Sim R Eq (parseTiers row) (parseTiers row) := by
    intro row
    unfold parseTiers
    split
    · exact .ret rfl
    · exact .abort _ _
  refine .bind (Q := Eq) ?_ ?_
  · refine .bind (.read (Q := Eq) fun s t same => newest _ s t same) ?_
    rintro own _ rfl
    cases own with
    | some row =>
        refine .bind (parse row) ?_
        rintro _ _ rfl
        exact .ret rfl
    | none =>
        refine .bind (.read (Q := Eq) fun s t same => newest _ s t same) ?_
        rintro platform _ rfl
        cases platform with
        | some row =>
            refine .bind (parse row) ?_
            rintro _ _ rfl
            exact .ret rfl
        | none => exact .abort _ _
  · rintro _ _ rfl
    exact .ret rfl

theorem onChargeSucceeded_sim {payment payment' : Uuid × Payment} (equal : sameRow payment payment')
    (chargeId : String) (now : Instant) :
    Sim R Eq (onChargeSucceeded payment chargeId now)
      (onChargeSucceeded payment' chargeId now) := by
  obtain ⟨id, p⟩ := payment
  obtain ⟨id', q⟩ := payment'
  obtain ⟨rfl, equal⟩ := equal
  obtain ⟨reason, at_, rfl⟩ := equal.notes
  dsimp only [onChargeSucceeded]
  refine .bind (updatePayment_sim keeps _ (markSucceeded_blind _ _)) ?_
  rintro _ _ -
  refine .bind (lockBooking_sim keeps _) ?_
  rintro found _ rfl
  cases found with
  | none => exact .abort _ _
  | some b =>
      have rest : Sim R Eq
          (do
            updatePayment id (mintRefundKey (refundKey chargeId) now)
            insertAudit ⟨p.bookingId, systemActor, b.status, b.status,
              "refund.initiated.unconfirmable_hold"⟩
            pure (some (⟨id, chargeId, p.bookingId, p.amountMinor, refundKey chargeId,
              "hold_not_confirmable"⟩ : RefundInstruction)) : Transaction _)
          (do
            updatePayment id (mintRefundKey (refundKey chargeId) now)
            insertAudit ⟨p.bookingId, systemActor, b.status, b.status,
              "refund.initiated.unconfirmable_hold"⟩
            pure (some (⟨id, chargeId, p.bookingId, p.amountMinor, refundKey chargeId,
              "hold_not_confirmable"⟩ : RefundInstruction)) : Transaction _) := by
        refine .bind (updatePayment_sim keeps _ (mintRefundKey_blind _ _)) ?_
        rintro _ _ -
        refine .bind (insertAudit_sim keeps _) ?_
        rintro _ _ -
        exact .ret rfl
      refine .ite Iff.rfl ?_ (.ite Iff.rfl ?_ rest)
      · refine .bind (resolvePolicySnapshot_sim keeps _ _) ?_
        rintro snapshot _ rfl
        refine .bind (transition_sim keeps _ _) ?_
        rintro _ _ -
        exact .ret rfl
      · exact .bind (transition_sim keeps _ _) fun _ _ _ => rest

theorem onChargeFailed_sim {payment payment' : Uuid × Payment} (equal : sameRow payment payment')
    (now : Instant) :
    Sim R Eq (onChargeFailed payment now) (onChargeFailed payment' now) := by
  obtain ⟨id, p⟩ := payment
  obtain ⟨id', q⟩ := payment'
  obtain ⟨rfl, equal⟩ := equal
  obtain ⟨reason, at_, rfl⟩ := equal.notes
  dsimp only [onChargeFailed]
  refine .bind (updatePayment_sim keeps _ (markFailed_blind _)) ?_
  rintro _ _ -
  refine .bind (lockBooking_sim keeps _) ?_
  rintro found _ rfl
  cases found with
  | none => exact .ret rfl
  | some b =>
      refine .ite Iff.rfl ?_ (.ret rfl)
      refine .bind (transition_sim keeps _ _) ?_
      rintro _ _ -
      exact .ret rfl

theorem onRefundSucceeded_sim {payment payment' : Uuid × Payment} (equal : sameRow payment payment')
    (refundId : Option String) (amount : Option Int) (now : Instant) :
    Sim R Eq (onRefundSucceeded payment refundId amount now)
      (onRefundSucceeded payment' refundId amount now) := by
  obtain ⟨id, p⟩ := payment
  obtain ⟨id', q⟩ := payment'
  obtain ⟨rfl, equal⟩ := equal
  obtain ⟨reason, at_, rfl⟩ := equal.notes
  dsimp only [onRefundSucceeded]
  refine .bind (updatePayment_sim keeps _ (markRefunded_blind _ _ _)) ?_
  rintro _ _ -
  refine .bind (lockBooking_sim keeps _) ?_
  rintro found _ rfl
  cases found with
  | none => exact .ret rfl
  | some b =>
      refine .ite Iff.rfl ?_ (insertAudit_sim keeps _)
      refine .bind (transition_sim keeps _ _) ?_
      rintro _ _ -
      exact .ret rfl

/-- The payment an event finds is the same on both sides, up to the notes. -/
theorem findPayment_sim (e : WebhookEvent) (now : Instant) :
    Sim R (Option.Rel sameRow) (findPayment e now) (findPayment e now) := by
  refine .bind (.read fun s t same => (keeps.core same).paymentByChargeId e.chargeId) ?_
  intro left right both
  cases both with
  | some equal => exact .ret (.some equal)
  | none =>
      cases e.reference with
      | none => exact .ret .none
      | some reference =>
          refine .bind (.read fun s t same => (keeps.core same).paymentByReference reference) ?_
          intro left right both
          cases both with
          | none => exact .ret .none
          | @some row row' equal =>
              obtain ⟨id, p⟩ := row
              obtain ⟨id', q⟩ := row'
              obtain ⟨rfl, equal⟩ := equal
              obtain ⟨reason, at_, rfl⟩ := equal.notes
              dsimp only
              refine .ite Iff.rfl ?_ ?_
              · refine .bind (updatePayment_sim keeps _ (adopted_blind _ _)) ?_
                rintro _ _ -
                exact .ret (.some ⟨rfl, adopted_blind _ _ p _ equal⟩)
              · refine .ret ?_
                split
                · exact .some ⟨rfl, equal⟩
                · exact .none

theorem applyEffect_sim {payment payment' : Uuid × Payment} (equal : sameRow payment payment')
    (e : WebhookEvent) (now : Instant) :
    Sim R Eq (applyEffect payment e now) (applyEffect payment' e now) := by
  unfold applyEffect
  cases e.event with
  | chargeSucceeded => exact onChargeSucceeded_sim keeps equal _ _
  | chargeFailed =>
      refine .bind (onChargeFailed_sim keeps equal _) ?_
      rintro _ _ -
      exact .ret rfl
  | refundSucceeded =>
      refine .bind (onRefundSucceeded_sim keeps equal _ _ _) ?_
      rintro _ _ -
      exact .ret rfl

theorem applyEvent_sim (e : WebhookEvent) (now : Instant) :
    Sim R Eq (applyEvent e now) (applyEvent e now) := by
  refine .bind (findPayment_sim keeps e now) ?_
  intro left right both
  cases both with
  | none => exact .ret rfl
  | some equal =>
      refine .bind (claimEvent_sim keeps _) ?_
      rintro won _ rfl
      refine .ite Iff.rfl ?_ (.ret rfl)
      refine .bind (applyEffect_sim keeps equal _ _) ?_
      rintro _ _ rfl
      exact .ret rfl

theorem settleCharge_sim {payment payment' : Uuid × Payment} (equal : sameRow payment payment')
    (chargeId : String) (captured : Bool) (now : Instant) :
    Sim R Eq (settleCharge payment chargeId captured now)
      (settleCharge payment' chargeId captured now) := by
  refine .bind (claimEvent_sim keeps _) ?_
  rintro won _ rfl
  refine .ite Iff.rfl (.ite Iff.rfl ?_ ?_) (.ret rfl)
  · refine .bind (onChargeSucceeded_sim keeps equal _ _) ?_
    rintro _ _ rfl
    exact .ret rfl
  · refine .bind (onChargeFailed_sim keeps equal _) ?_
    rintro _ _ -
    exact .ret rfl

theorem settleRefundPoll_sim {payment payment' : Uuid × Payment} (equal : sameRow payment payment')
    (chargeId : String) (refundId : Option String) (amountMinor : Int) (now : Instant) :
    Sim R Eq (settleRefundPoll payment chargeId refundId amountMinor now)
      (settleRefundPoll payment' chargeId refundId amountMinor now) := by
  refine .bind (claimEvent_sim keeps _) ?_
  rintro won _ rfl
  refine .ite Iff.rfl ?_ (.ret rfl)
  refine .bind (onRefundSucceeded_sim keeps equal _ _ _) ?_
  rintro _ _ -
  exact .ret rfl

/-! ## The other transactions -/

theorem insertBooking_sim (id : Uuid) (b : Booking) :
    Sim R Eq (insertBooking id b) (insertBooking id b) := by
  unfold insertBooking
  have stop : ∀ (e : ApiError) (rest : Unit → Transaction Unit),
      Sim R Eq (Tx.abort e >>= rest) (Tx.abort e >>= rest) := fun e rest =>
    .bind (Q := fun _ _ => False) (.abort _ _) fun _ _ never => never.elim
  refine .ite Iff.rfl (stop _ _) (.ite Iff.rfl (stop _ _) ?_)
  refine .bind (.read (Q := Eq) fun s t same => by simp only [roomConflicts, (keeps.core same).bookings]) ?_
  rintro conflicts _ rfl
  refine .ite Iff.rfl (stop _ _) ?_
  refine .bind (.fetchEq fun s t same => by rw [(keeps.core same).bookings]) ?_
  rintro bookings _ rfl
  refine .bind (.read (Q := Eq) fun s t same => by rw [(keeps.core same).users]) ?_
  rintro known _ rfl
  exact .ite Iff.rfl (stop _ _) (.write rfl fun s t same => keeps.bookings same _)

theorem finishHold_sim (env : Env) (input : HoldInput) (ctx : RoomContext)
    (principal : AuthPrincipal) (stamp : HoldStamp) (expired : List Uuid)
    (priced : List PricedItem) :
    Sim R Eq (finishHold env input ctx principal stamp expired priced)
      (finishHold env input ctx principal stamp expired priced) := by
  refine .bind (.write (Q := Eq) rfl fun _ _ same => keeps.expire same _ _ _ _) ?_
  rintro _ _ -
  refine .bind (Q := Eq) (.rethrow ?_) ?_
  · refine .bind (insertBooking_sim keeps _ _) ?_
    rintro _ _ -
    refine .bind (insertAudit_sim keeps _) ?_
    rintro _ _ -
    exact .ret rfl
  · rintro b _ rfl
    refine .bind (Q := Eq) (.ite Iff.rfl (.write rfl ?_) (.abort _ _)) ?_
    · intro s t same
      simpa only [(keeps.core same).items] using keeps.items same _
    · rintro _ _ -
      exact .ret rfl

theorem sweeperTick_sim (now : Instant) (locked : List Uuid) :
    Sim R Eq (sweeperTick now locked) (sweeperTick now locked) := by
  refine .bind (.read (Q := Eq) fun s t same => by simp only [staleHolds, (keeps.core same).bookings]) ?_
  rintro ids _ rfl
  refine .bind (.write (Q := Eq) rfl fun _ _ same => keeps.expire same _ _ _ _) ?_
  rintro _ _ -
  exact .ret rfl

theorem addPolicy_sim (id : Uuid) (venueId : Option Uuid) (tiers : Tiers) (now : Instant) :
    Sim R Eq (addPolicy id venueId tiers now) (addPolicy id venueId tiers now) := by
  refine .bind (.fetchEq fun s t same => by rw [(keeps.core same).policies]) ?_
  rintro policies _ rfl
  exact .write rfl fun s t same => keeps.policies same _

/-! ## First reads and admission -/

theorem loadRoomContext_sim (roomId : UuidText) :
    Sim R Eq (loadRoomContext roomId) (loadRoomContext roomId) := by
  refine .bind (.fetchEq fun s t same => by rw [(keeps.core same).rooms]) ?_
  rintro room _ rfl
  refine .bind (.fetchEq fun s t same => by rw [(keeps.core same).venues]) ?_
  rintro venue _ rfl
  refine .bind (.fetchEq fun _ _ _ => rfl) ?_
  rintro hours _ rfl
  exact .ret rfl

theorem openHold_sim (env : Env) (input : HoldInput) (now : Instant) :
    Sim R Eq (openHold env input now) (openHold env input now) := by
  refine .bind (loadRoomContext_sim keeps _) ?_
  rintro ctx _ rfl
  refine .bind (Q := Eq) ?_ ?_
  · refine .ite Iff.rfl (.abort _ _) (.ite Iff.rfl (.abort _ _) (.ite Iff.rfl (.abort _ _) ?_))
    cases env.timeZone ctx.timezone with
    | none => exact .abort _ _
    | some zone => exact .ite Iff.rfl (.ret rfl) (.abort _ _)
  · rintro _ _ -
    exact .ret rfl

omit keeps in
theorem uuidArray_sim (ids : List String) : Sim R Eq (uuidArray ids) (uuidArray ids) := by
  unfold uuidArray
  cases ids.find? fun id => !isUuid id with
  | some id => exact .abort _ _
  | none => exact .ret rfl

theorem lockRequested_sim (input : HoldInput) (ctx : RoomContext) :
    Sim R Eq (lockRequested input ctx) (lockRequested input ctx) := by
  refine .bind (Q := Eq) (.ite Iff.rfl (.ret rfl) ?_) ?_
  · refine .bind (uuidArray_sim _) ?_
    rintro values _ rfl
    exact .read fun s t same => by rw [(keeps.core same).equipmentTypes]
  · rintro locked _ rfl
    exact .ite Iff.rfl (.ite Iff.rfl (.ret rfl) (.abort _ _)) (.abort _ _)

theorem admitLocked_sim (input : HoldInput) (ctx : RoomContext) (now : Instant)
    (locked : List (Uuid × EquipmentType)) :
    Sim R Eq (admitLocked input ctx now locked) (admitLocked input ctx now locked) := by
  refine .bind (Q := Eq) ?_ ?_
  · refine .bind (uuidArray_sim _) ?_
    rintro values _ rfl
    have usage : ∀ s t, R s t → ∀ id, usageEvents s id input.startsAt input.endsAt now =
        usageEvents t id input.startsAt input.endsAt now := fun s t same id => by
      have core := keeps.core same
      simp only [usageEvents, bookedIntervals, core.bookings, core.items]
    refine .bind (.read (Q := Eq) fun s t same => by simp only [usage s t same]) ?_
    rintro overflows _ rfl
    refine .ite Iff.rfl (.abort _ _) (.read fun s t same => ?_)
    funext key
    simp only [usage s t same]
  · rintro peaks _ rfl
    exact .ite Iff.rfl (.ret rfl) (.abort _ _)

end Core

end Atrium
