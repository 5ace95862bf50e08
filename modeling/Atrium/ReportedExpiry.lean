/-
# ReportedExpiry -- what a 409 of an expired hold says, and what is stored

`checkout` and `pay` move a lapsed hold to EXPIRED and then throw the 409 that says
so, inside one transaction; the throw rolls the move back.  The expiry such an answer
reports is stored only where someone else had committed it before.

A request reads its booking, and `pay` the payment under its key, before it locks:
under READ COMMITTED each of these statements may see another committed database
(`Snapshots`).  The three are one where nothing interferes (`respond_checkout`,
`respond_pay`).
-/
import Atrium.AuditTrail

namespace Atrium

open Atrium.Base

set_option autoImplicit false

/-! ## Requests and answers -/

/-- A 409 whose `current_status` is EXPIRED. -/
def ApiError.reportsExpired : ApiError → Bool
  | .conflict _ (.state _ status) | .conflict _ (.transition _ status ..) =>
      decide (status = .expired)
  | _ => false

/-- Each booking has gone a legal way from `db` to `db'`, and the log is longer by its
moves. -/
def Onward (db db' : Db) : Prop :=
  ∀ id, ∃ moves, movesIn db'.auditEvents id = movesIn db.auditEvents id ++ moves ∧
    Trail legal (statusOf db id) moves (statusOf db' id)

/-- The databases one request's statements see: where it loads its booking, where `pay`
looks its payment up, and where it locks and writes.  What others commit between them is
logged (`onward_of_run`). -/
structure Snapshots where
  loaded : Db
  looked : Db
  locked : Db
  onward : Onward loaded locked

/-- Nobody interferes. -/
def Snapshots.serial (db : Db) : Snapshots :=
  ⟨db, db, db, fun _ => ⟨[], (List.append_nil _).symm, rfl⟩⟩

inductive CustomerRequest where
  | checkout (bookingId : UuidText) (principal : AuthPrincipal) (now : Instant)
  | pay (bookingId : UuidText) (principal : AuthPrincipal) (stamp : PayStamp)

namespace CustomerRequest

def bookingId : CustomerRequest → Uuid
  | .checkout bookingId .. | .pay bookingId .. => bookingId.value

/-- The request's transaction, from its last unlocked read on. -/
def txn (seen : Snapshots) : CustomerRequest → Except ApiError Txn
  | .checkout bookingId principal now =>
      (loadOwnedBooking bookingId principal seen.loaded).map fun r =>
        .checkout bookingId principal r.1 now
  | .pay bookingId principal stamp =>
      (loadOwned bookingId principal seen.loaded).map fun r =>
        .pay bookingId principal r.1 (paymentByKey seen.looked (chargeKey bookingId.text)) stamp

def respond (env : Env) (seen : Snapshots) (request : CustomerRequest) :
    Except ApiError (Outcome × Db) :=
  match request.txn seen with
  | .ok t => t.run env seen.locked
  | .error e => .error e

/-- The database once the request's transaction has ended. -/
def commit (env : Env) (seen : Snapshots) (request : CustomerRequest) : Db :=
  match request.txn seen with
  | .ok t => t.commit env seen.locked
  | .error _ => seen.locked

/-- The request reads an own hold as active and lapsed, and it is so still when it is
locked: for `checkout` in HELD or PENDING_PAYMENT, for `pay` in HELD and with no
payment of its key that has left PENDING. -/
def FindsLapsed (seen : Snapshots) : CustomerRequest → Prop
  | .checkout bookingId principal now =>
      ∃ b, seen.loaded.bookings.get? bookingId.value = some b ∧
        bookingScope principal b = .ok true ∧ b.status ∈ [.held, .pendingPayment] ∧
        b.lapsedAt now = true ∧ statusOf seen.locked bookingId.value ∈ [.held, .pendingPayment]
  | .pay bookingId principal stamp =>
      ∃ b, seen.loaded.bookings.get? bookingId.value = some b ∧ paymentScope principal b = true ∧
        b.status = .held ∧ b.lapsedAt stamp.now = true ∧
        (∀ row, paymentByKey seen.looked (chargeKey bookingId.text) = some row →
          row.2.status = .pending) ∧
        statusOf seen.locked bookingId.value = .held

end CustomerRequest

/-- The rows of the log that move the booking into EXPIRED. -/
def expiryRows (db : Db) (id : Uuid) : Nat :=
  ((movesIn db.auditEvents id).map Prod.snd).count .expired

/-- The booking is EXPIRED in the committed database, and one row of its log is for that:
a row written since the request loaded the booking, unless it was EXPIRED by then.  In a
log that was the path of the booking it is the only one. -/
structure ExpiryPersisted (id : Uuid) (loaded committed : Db) : Prop where
  expired : statusOf committed id = .expired
  logged : expiryRows committed id =
    expiryRows loaded id + if statusOf loaded id = .expired then 0 else 1
  once : Trail legal .draft (movesIn loaded.auditEvents id) (statusOf loaded id) →
    expiryRows committed id = 1

/-! ## The rows of an expiry -/

theorem expired_final (status : BookingStatus) : ¬ legal .expired status := List.not_mem_nil

/-- A log that is the path of a booking has a row into EXPIRED if the booking is there. -/
theorem expiryRows_of_trail {db : Db} {id : Uuid}
    (path : Trail legal .draft (movesIn db.auditEvents id) (statusOf db id)) :
    expiryRows db id = if statusOf db id = .expired then 1 else 0 := by
  rw [expiryRows, path.count_final expired_final]
  simp

namespace Onward

variable {db db' : Db} {id : Uuid}

theorem expired (onward : Onward db db') (gone : statusOf db id = .expired) :
    statusOf db' id = .expired := by
  obtain ⟨moves, -, path⟩ := onward id
  rw [gone] at path
  exact (Trail.of_final expired_final path).2

/-- **An expiry on the way is one row.** -/
theorem expiryRows (onward : Onward db db') (gone : statusOf db' id = .expired) :
    expiryRows db' id = expiryRows db id + if statusOf db id = .expired then 0 else 1 := by
  obtain ⟨moves, logged, path⟩ := onward id
  have added := path.count_final expired_final
  rw [Atrium.expiryRows, Atrium.expiryRows, logged, List.map_append, List.count_append, added]
  by_cases before : statusOf db id = .expired <;> simp [before, gone]

theorem persisted (onward : Onward db db') (gone : statusOf db' id = .expired) :
    ExpiryPersisted id db db' := by
  have rows := onward.expiryRows gone
  refine ⟨gone, rows, fun path => ?_⟩
  rw [rows, expiryRows_of_trail path]
  by_cases before : statusOf db id = .expired <;> simp [before]

end Onward

/-! ## Undisturbed requests -/

theorem respond_checkout (env : Env) (db : Db) (bookingId : UuidText) (principal : AuthPrincipal)
    (now : Instant) :
    (CustomerRequest.checkout bookingId principal now).respond env (.serial db) =
      (checkout env bookingId principal now db).map fun r => (.done, r.2) := by
  simp only [CustomerRequest.respond, CustomerRequest.txn, Snapshots.serial, checkout, Tx.bind_run]
  cases loaded : loadOwnedBooking bookingId principal db with
  | error e => rfl
  | ok r =>
      obtain ⟨same, -⟩ := loadOwnedBooking_ok loaded
      simp only [Except.map, Txn.run, Tx.bind_run, same]
      cases checkoutLoaded env bookingId principal r.1 now db <;> rfl

theorem respond_pay (env : Env) (db : Db) (bookingId : UuidText) (principal : AuthPrincipal)
    (stamp : PayStamp) :
    (CustomerRequest.pay bookingId principal stamp).respond env (.serial db) =
      (payPrepare bookingId principal stamp db).map fun r =>
        (preparedOutcome bookingId r.1, r.2) := by
  simp only [CustomerRequest.respond, CustomerRequest.txn, Snapshots.serial, payPrepare, loadOwned,
    Tx.fetch_bind, Tx.read_bind, Tx.fetch]
  cases (db.bookings.get? bookingId.value).filter (paymentScope principal) with
  | none => rfl
  | some b =>
      simp only [Except.map, Txn.run, Tx.bind_run]
      cases payLoaded bookingId principal b _ stamp db <;> rfl

/-! ## Who reports an expiry -/

theorem requireExpected_error {bookingId : UuidText} {expected : List BookingStatus}
    {source : BookingStatus} {db : Db} {e : ApiError} (reports : e.reportsExpired = true)
    (refused : requireExpected bookingId (some expected) source db = .error e) :
    source = .expired := by
  simp only [requireExpected, Tx.ite_error, Tx.pure_error, Tx.abort_error, and_false,
    false_or] at refused
  obtain ⟨-, rfl⟩ := refused
  simpa [ApiError.reportsExpired] using reports

/-- A transition that reports an expiry has met one. -/
theorem transition_reports {now : Instant} {input : TransitionInput} {expected : List BookingStatus}
    {db : Db} {e : ApiError} (restricted : input.expectedFrom = some expected)
    (reports : e.reportsExpired = true) (refused : transition now input db = .error e) :
    statusOf db input.bookingId.value = .expired := by
  simp only [transition, lockForUpdate, insertAudit, Tx.bind_error, Tx.fetch_error, Tx.fetch_ok,
    Tx.ite_error, Tx.write_error, Tx.pure_error, Tx.abort_error, and_false, exists_false, or_false,
    false_or, requireExpected_ok, restricted] at refused
  rcases refused with ⟨-, rfl⟩ | ⟨b, _, ⟨found, rfl⟩, refused | ⟨_, _, -, -, rfl⟩⟩
  · cases reports
  · rw [statusOf_some found]
    exact requireExpected_error reports refused
  · rw [statusOf_some found]
    simpa [ApiError.reportsExpired] using reports

theorem recordSideEffect_reports {now : Instant} {input : SideEffectInput}
    {expected : List BookingStatus} {db : Db} {e : ApiError}
    (restricted : input.expectedFrom = some expected) (reports : e.reportsExpired = true)
    (refused : recordSideEffect now input db = .error e) :
    statusOf db input.bookingId.value = .expired := by
  simp only [recordSideEffect, lockForUpdate, insertAudit, Tx.bind_error, Tx.fetch_error,
    Tx.fetch_ok, Tx.write_error, Tx.pure_error, and_false, exists_false, or_false, restricted] at refused
  rcases refused with ⟨-, rfl⟩ | ⟨b, _, ⟨found, rfl⟩, refused⟩
  · cases reports
  · rw [statusOf_some found]
    exact requireExpected_error reports refused

/-- The transition both requests throw after, on a row that allows it. -/
theorem transition_lapsed {now : Instant} {input : TransitionInput} {expected : List BookingStatus}
    {db : Db} (restricted : input.expectedFrom = some expected) (expires : input.target = .expired)
    (legal : ∀ status ∈ expected, .expired ∈ legalTransitions status)
    (created : .draft ∉ expected) (stands : statusOf db input.bookingId.value ∈ expected) :
    ∃ b' db', transition now input db = .ok (b', db') := by
  cases found : db.bookings.get? input.bookingId.value with
  | none =>
      have absent : statusOf db input.bookingId.value = .draft := by simp [statusOf, found]
      rw [absent] at stands
      exact absurd stands created
  | some b =>
      rw [statusOf_some found] at stands
      refine ⟨_, _, transition_ok.mpr ⟨b, found, ?_, expires ▸ legal b.status stands, rfl, rfl⟩⟩
      intro allowed given
      rw [restricted, Option.some.injEq] at given
      exact given ▸ stands

/-- **A checkout that reports an expiry** read the hold as expired, or as lapsed, or met
one when it locked. -/
theorem checkoutLoaded_reports {env : Env} {bookingId : UuidText} {principal : AuthPrincipal}
    {booking : Booking} {now : Instant} {db : Db} {e : ApiError} (reports : e.reportsExpired = true)
    (refused : checkoutLoaded env bookingId principal booking now db = .error e) :
    booking.status = .expired ∨ statusOf db bookingId.value = .expired ∨
      (booking.status ∈ [.held, .pendingPayment] ∧ booking.lapsedAt now = true ∧
        statusOf db bookingId.value ∈ [.held, .pendingPayment]) := by
  simp only [checkoutLoaded, Tx.ite_error, Tx.bind_error, Tx.abort_error] at refused
  rcases refused with ⟨-, rfl⟩ | ⟨active, rest⟩
  · exact .inl (by simpa [ApiError.reportsExpired] using reports)
  · have open_ : booking.status ∈ [.held, .pendingPayment] := by
      revert active
      simp only [Booking.active, activeBookingStatuses]
      cases booking.status <;> simp
    rcases rest with ⟨lapsed, refused | ⟨_, _, moved, -⟩⟩ | ⟨-, rest⟩
    · exact .inr (.inl (transition_reports rfl reports refused))
    · obtain ⟨b, found, allowed, -⟩ := transition_ok.mp moved
      refine .inr (.inr ⟨open_, lapsed, ?_⟩)
      rw [statusOf_some found]
      exact allowed _ rfl
    · rcases rest with ⟨-, rfl⟩ | ⟨-, ⟨-, rfl⟩ | ⟨-, refused⟩⟩
      · cases reports
      · cases reports
      · exact .inr (.inl (recordSideEffect_reports rfl reports refused))

theorem checkoutLoaded_lapsed {env : Env} {bookingId : UuidText} {principal : AuthPrincipal}
    {booking : Booking} {now : Instant} {db : Db}
    (active : booking.status ∈ [.held, .pendingPayment]) (lapsed : booking.lapsedAt now = true)
    (stands : statusOf db bookingId.value ∈ [.held, .pendingPayment]) :
    checkoutLoaded env bookingId principal booking now db =
      .error (.conflict "This hold has expired. Create a new one."
        (.state bookingId.text .expired)) := by
  have open_ : ¬ (¬ booking.active = true ∨ booking.status = .confirmed) := by
    revert active
    simp only [Booking.active, activeBookingStatuses]
    cases booking.status <;> simp
  obtain ⟨b', db', moved⟩ := @transition_lapsed now
    { bookingId := bookingId, target := .expired, actor := systemActor
      reason := "hold.expired.on_checkout"
      expectedFrom := some [.held, .pendingPayment], patch := .empty }
    _ db rfl rfl (by decide) (by decide) stands
  unfold checkoutLoaded
  rw [if_neg open_, if_pos lapsed, Tx.bind_of_ok moved]
  rfl

/-- The payment is recorded first, which leaves the bookings as they were. -/
theorem recordPayment_reports {bookingId : UuidText} {principal : AuthPrincipal} {booking : Booking}
    {stamp : PayStamp} {db : Db} {e : ApiError} (reports : e.reportsExpired = true)
    (refused : recordPayment bookingId principal booking stamp db = .error e) :
    statusOf db bookingId.value = .expired := by
  simp only [recordPayment, Tx.bind_error, Tx.fetch_error] at refused
  rcases refused with refused | ⟨_, t, recorded, ⟨-, rfl⟩ | ⟨payment, _, looked, refused⟩⟩
  · unfold insertPayment at refused
    rw [Tx.read_bind] at refused
    cases here : paymentByKey db (newPayment bookingId.value (chargeKey bookingId.text)
        booking.totalMinor stamp.startedAt).idempotencyKey with
    | some row => simp [here, Tx.pure_error] at refused
    | none =>
        simp only [here, Tx.bind_error, Tx.fetch_error, Tx.write_error, and_false, exists_false,
          or_false] at refused
        obtain ⟨-, rfl⟩ := refused
        cases reports
  · cases reports
  · obtain ⟨-, rfl⟩ := Tx.fetch_ok.mp looked
    have kept : t.bookings = db.bookings := by
      rcases insertPayment_ok recorded with ⟨-, rfl⟩ | ⟨-, _, -, rfl⟩ <;> rfl
    rw [← statusOf_congr kept]
    simp only [Tx.ite_error, Tx.bind_error, Tx.pure_error, and_false, exists_false,
      or_false] at refused
    exact transition_reports rfl reports refused.2

/-- **A pay request that reports an expiry**, likewise. -/
theorem payLoaded_reports {bookingId : UuidText} {principal : AuthPrincipal} {booking : Booking}
    {existing : Option (Uuid × Payment)} {stamp : PayStamp} {db : Db} {e : ApiError}
    (reports : e.reportsExpired = true)
    (refused : payLoaded bookingId principal booking existing stamp db = .error e) :
    booking.status = .expired ∨ statusOf db bookingId.value = .expired ∨
      (booking.status = .held ∧ booking.lapsedAt stamp.now = true ∧
        (∀ row, existing = some row → row.2.status = .pending) ∧
        statusOf db bookingId.value = .held) := by
  unfold payLoaded at refused
  cases settled : existing.filter fun payment => decide (payment.2.status ≠ .pending) with
  | some payment =>
      simp only [settled, Tx.pure_error] at refused
  | none =>
      simp only [settled, Tx.ite_error, Tx.bind_error, Tx.abort_error] at refused
      rcases refused with ⟨⟨held, lapsed⟩, refused | ⟨_, _, moved, -⟩⟩ |
        ⟨-, ⟨-, refused⟩ | ⟨-, rfl⟩⟩
      · exact .inr (.inl (transition_reports rfl reports refused))
      · obtain ⟨b, found, allowed, -⟩ := transition_ok.mp moved
        refine .inr (.inr ⟨held, lapsed, ?_, ?_⟩)
        · intro row here
          simpa [here] using settled
        · rw [statusOf_some found]
          simpa using allowed _ rfl
      · exact .inr (.inl (recordPayment_reports reports refused))
      · exact .inl (by simpa [ApiError.reportsExpired] using reports)

theorem payLoaded_lapsed {bookingId : UuidText} {principal : AuthPrincipal} {booking : Booking}
    {existing : Option (Uuid × Payment)} {stamp : PayStamp} {db : Db}
    (held : booking.status = .held) (lapsed : booking.lapsedAt stamp.now = true)
    (pending : ∀ row, existing = some row → row.2.status = .pending)
    (stands : statusOf db bookingId.value = .held) :
    payLoaded bookingId principal booking existing stamp db =
      .error (.conflict "This hold has expired and cannot be paid for. Create a new one."
        (.state bookingId.text .expired)) := by
  have unsettled : existing.filter (fun payment => decide (payment.2.status ≠ .pending)) = none := by
    rw [Option.filter_eq_none_iff]
    intro row here
    simp [pending row here]
  obtain ⟨b', db', moved⟩ := @transition_lapsed stamp.now
    { bookingId := bookingId, target := .expired, actor := systemActor
      reason := "hold.expired.on_pay", expectedFrom := some [.held], patch := .empty }
    _ db rfl rfl (by decide) (by decide) (List.mem_singleton.mpr stands)
  unfold payLoaded
  simp only [unsettled]
  rw [if_pos ⟨held, lapsed⟩, Tx.bind_of_ok moved]
  rfl

/-! ## The answer and the store -/

theorem loadOwnedBooking_iff {bookingId : UuidText} {principal : AuthPrincipal} {b : Booking}
    {db db' : Db} :
    loadOwnedBooking bookingId principal db = .ok (b, db') ↔
      db' = db ∧ db.bookings.get? bookingId.value = some b ∧
        bookingScope principal b = .ok true := by
  unfold loadOwnedBooking
  grind

theorem loadOwned_iff {bookingId : UuidText} {principal : AuthPrincipal} {b : Booking}
    {db db' : Db} :
    loadOwned bookingId principal db = .ok (b, db') ↔
      db' = db ∧ db.bookings.get? bookingId.value = some b ∧ paymentScope principal b = true := by
  rw [loadOwned, Tx.fetch_ok, Option.filter_eq_some_iff]
  constructor
  · rintro ⟨⟨found, scope⟩, rfl⟩
    exact ⟨rfl, found, scope⟩
  · rintro ⟨rfl, found, scope⟩
    exact ⟨⟨found, scope⟩, rfl⟩

namespace CustomerRequest

/-- A request that fails leaves the database it locked. -/
theorem commit_of_error {env : Env} {seen : Snapshots} {request : CustomerRequest} {e : ApiError}
    (refused : request.respond env seen = .error e) : request.commit env seen = seen.locked := by
  unfold respond at refused
  unfold commit
  cases given : request.txn seen with
  | error _ => rfl
  | ok t =>
      rw [given] at refused
      exact Tx.commit_of_error refused

/-- A load fails with a 403 or a 404. -/
theorem reports_of_loaded {env : Env} {seen : Snapshots} {request : CustomerRequest} {e : ApiError}
    (reports : e.reportsExpired = true) (refused : request.respond env seen = .error e) :
    ∃ t, request.txn seen = .ok t ∧ t.run env seen.locked = .error e := by
  unfold respond at refused
  cases given : request.txn seen with
  | ok t => exact ⟨t, rfl, by rwa [given] at refused⟩
  | error e' =>
      rw [given] at refused
      cases refused
      cases request with
      | checkout bookingId principal now =>
          simp only [txn] at given
          cases loaded : loadOwnedBooking bookingId principal seen.loaded with
          | ok r => simp [loaded, Except.map] at given
          | error e' =>
              simp only [loaded, Except.map, Except.error.injEq] at given
              subst given
              unfold loadOwnedBooking bookingScope at loaded
              grind [ApiError.reportsExpired]
      | pay bookingId principal stamp =>
          simp only [txn] at given
          cases loaded : loadOwned bookingId principal seen.loaded with
          | ok r => simp [loaded, Except.map] at given
          | error e' =>
              simp only [loaded, Except.map, Except.error.injEq] at given
              subst given
              obtain ⟨-, rfl⟩ := Tx.fetch_error.mp loaded
              cases reports

/-- **Who reports an expiry**: a request that finds the hold lapsed, and one that meets
an expiry somebody has committed. -/
theorem reports_cases {env : Env} {seen : Snapshots} {request : CustomerRequest} {e : ApiError}
    (reports : e.reportsExpired = true) (refused : request.respond env seen = .error e) :
    statusOf seen.locked request.bookingId = .expired ∨ request.FindsLapsed seen := by
  obtain ⟨t, given, ran⟩ := reports_of_loaded reports refused
  cases request with
  | checkout bookingId principal now =>
      obtain ⟨⟨b, _⟩, loaded, rfl⟩ := Tx.map_ok.mp given
      obtain ⟨-, found, scope⟩ := loadOwnedBooking_iff.mp loaded
      simp only [Txn.run, Tx.bind_error, Tx.pure_error, and_false, exists_false, or_false] at ran
      rcases checkoutLoaded_reports reports ran with read | met | ⟨active, lapsed, stands⟩
      · exact .inl (seen.onward.expired ((statusOf_some found).trans read))
      · exact .inl met
      · exact .inr ⟨b, found, scope, active, lapsed, stands⟩
  | pay bookingId principal stamp =>
      obtain ⟨⟨b, _⟩, loaded, rfl⟩ := Tx.map_ok.mp given
      obtain ⟨-, found, scope⟩ := loadOwned_iff.mp loaded
      simp only [Txn.run, Tx.bind_error, Tx.pure_error, and_false, exists_false, or_false] at ran
      rcases payLoaded_reports reports ran with read | met | ⟨held, lapsed, pending, stands⟩
      · exact .inl (seen.onward.expired ((statusOf_some found).trans read))
      · exact .inl met
      · exact .inr ⟨b, found, scope, held, lapsed, pending, stands⟩

/-- **A request that finds the hold lapsed says so, and stores nothing**: the row it
locked is still active. -/
theorem lapsed_reports {env : Env} {seen : Snapshots} {request : CustomerRequest}
    (finds : request.FindsLapsed seen) :
    ∃ e, request.respond env seen = .error e ∧ e.reportsExpired = true ∧
      statusOf (request.commit env seen) request.bookingId ≠ .expired := by
  have said : ∃ e, request.respond env seen = .error e ∧ e.reportsExpired = true ∧
      statusOf seen.locked request.bookingId ≠ .expired := by
    cases request with
    | checkout bookingId principal now =>
        obtain ⟨b, found, scope, active, lapsed, stands⟩ := finds
        have loaded := loadOwnedBooking_iff.mpr ⟨rfl, found, scope⟩
        refine ⟨.conflict "This hold has expired. Create a new one."
          (.state bookingId.text .expired), ?_, rfl, ?_⟩
        · simp only [respond, txn, loaded, Except.map, Txn.run, Tx.bind_run,
            checkoutLoaded_lapsed active lapsed stands]
        · intro expired
          rw [CustomerRequest.bookingId] at expired
          rw [expired] at stands
          revert stands
          decide
    | pay bookingId principal stamp =>
        obtain ⟨b, found, scope, held, lapsed, pending, stands⟩ := finds
        have loaded := loadOwned_iff.mpr ⟨rfl, found, scope⟩
        refine ⟨.conflict "This hold has expired and cannot be paid for. Create a new one."
          (.state bookingId.text .expired), ?_, rfl, ?_⟩
        · simp only [respond, txn, loaded, Except.map, Txn.run, Tx.bind_run,
            payLoaded_lapsed held lapsed pending stands]
        · intro expired
          rw [CustomerRequest.bookingId, stands] at expired
          cases expired
  obtain ⟨e, refused, reports, active⟩ := said
  exact ⟨e, refused, reports, by rwa [commit_of_error refused]⟩

end CustomerRequest

/-- **A reported expiry is a stored one, except where the request found the hold lapsed
itself**: then the transition it makes is rolled back by the 409 that announces it. -/
theorem reported_expiry_persists_iff (env : Env) (seen : Snapshots) (request : CustomerRequest) :
    (∀ e, request.respond env seen = .error e → e.reportsExpired = true →
      ExpiryPersisted request.bookingId seen.loaded (request.commit env seen)) ↔
        ¬ request.FindsLapsed seen := by
  constructor
  · intro persists finds
    obtain ⟨e, refused, reports, active⟩ := @CustomerRequest.lapsed_reports env _ _ finds
    exact active (persists e refused reports).expired
  · intro unlapsed e refused reports
    have expired := (CustomerRequest.reports_cases reports refused).resolve_right unlapsed
    rw [CustomerRequest.commit_of_error refused]
    exact seen.onward.persisted expired

/-! ## A hold that lapsed at checkout -/

namespace Sample

/-- A hold of the room, made at midnight for eight minutes. -/
def lapsing : Db := (Atrium.hold .default hold customer 0 ⟨7, 0, 0⟩).commit db

def lateCheckout : CustomerRequest := .checkout (Uuid.path 7) customer 480000

end Sample

/-- The customer is told EXPIRED, and the hold stays HELD. -/
theorem reported_expiry_rolled_back :
    ∃ e, Sample.lateCheckout.respond .default (.serial Sample.lapsing) = .error e ∧
      e.reportsExpired = true ∧
      ¬ ExpiryPersisted 7 Sample.lapsing
        (Sample.lateCheckout.commit .default (.serial Sample.lapsing)) := by
  have row : ((Sample.lapsing.bookings.get? 7).map fun b =>
      (bookingScope Sample.customer b = .ok true ∧ b.status = .held ∧ b.lapsedAt 480000 = true :
        Bool)) = some true := by
    decide +kernel
  obtain ⟨b, found, holds⟩ := Option.map_eq_some_iff.mp row
  obtain ⟨scope, held, lapsed⟩ := of_decide_eq_true holds
  have finds : Sample.lateCheckout.FindsLapsed (.serial Sample.lapsing) := by
    refine ⟨b, found, scope, ?_, lapsed, ?_⟩
    · rw [held]
      decide
    · show statusOf Sample.lapsing 7 ∈ _
      rw [statusOf_some found, held]
      decide
  obtain ⟨e, refused, reports, active⟩ :=
    @CustomerRequest.lapsed_reports .default _ _ finds
  exact ⟨e, refused, reports, fun persisted => active persisted.expired⟩

/-! ## What runs between two statements -/

theorem step_onward {env : Env} {a : Action} {db : Db} {api api' : Api} (claimed : RowsClaimed api)
    (stepped : step env a api = some api') (onward : Onward db api.db) : Onward db api'.db := by
  intro id
  obtain ⟨moves, logged, path⟩ := onward id
  obtain ⟨added, legally⟩ := step_logged claimed stepped id
  refine ⟨moves ++ changeOf (statusOf api.db id) (statusOf api'.db id), ?_, path.extend legally⟩
  rw [added, logged, List.append_assoc]

/-- **Between two statements of a request**, whatever else runs, what happens to a booking is
logged: what `Snapshots` promises. -/
theorem onward_of_run {env : Env} {now : Instant} {db : Db} {api api' : Api}
    (reached : Reachable (step env) (Api.start now db) api) (later : Reachable (step env) api api') :
    Onward api.db api'.db := by
  have both : RowsClaimed api' ∧ Onward api.db api'.db :=
    later.invariant (I := fun api' => RowsClaimed api' ∧ Onward api.db api'.db)
      ⟨claimed_of_reachable reached, (Snapshots.serial api.db).onward⟩
      fun a api api' stepped holds =>
        ⟨step_claimed a api api' stepped holds.1, step_onward holds.1 stepped holds.2⟩
  exact both.2

end Atrium
