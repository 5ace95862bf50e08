/-
# Rollbacks -- what a request answers when Postgres throws its transaction away

A hold, a checkout, a payment or a cancellation runs transactions one after the other,
some under `withTransientRetry`.  Any of them may be rolled back by Postgres, and the
error then passes the wrapper, if there is one, and the route's own `catch`, if there is
one; no filter stands behind them, so what is left over is a 500.

`events` keeps what happened: each transaction the request opened and each call of the
provider, with the error it ended with.  An error is absorbed where the code goes on from
it.  `answer_status`: the answer is a 5xx just when one of them was not.
-/
import Atrium.Base.Retry
import Atrium.Payments

namespace Atrium

open Atrium.Base

set_option autoImplicit false

/-! ## Errors -/

/-- The status of an error's answer. -/
def ApiError.status : ApiError → Nat
  | .unauthorized _ => 401
  | .forbidden _ => 403
  | .notFound _ => 404
  | .conflict .. => 409
  | .unprocessable .. | .unbookable .. => 422
  | .unavailable .. => 503
  | .database _ | .internal _ => 500

namespace Rollbacks

/-- Why a call of the provider throws: it rejected, it did not answer, or not in JSON. -/
inductive CallFailure where
  | rejected
  | silent
  | unreadable
  deriving DecidableEq

/-- What a route may throw. -/
inductive Thrown where
  | undefined
  | exception (e : ApiError)
  /-- The 409 of a hold that ran out of retries. -/
  | contended (roomId : String) (startsAt endsAt : Instant)
  | provider (failure : CallFailure)
  /-- Postgres rolled the transaction back.  Around its error stand those of the driver. -/
  | rollback (wrappers : List (Option String)) (sqlstate : String)
  deriving DecidableEq

namespace Thrown

def status : Thrown → Nat
  | .undefined => 500
  | .exception e => e.status
  | .contended .. => 409
  | .provider .rejected => 502
  | .provider .silent => 503
  | .provider .unreadable => 500
  | .rollback .. => 500

/-- The `code` of the error and of each cause below it, where that is a string. -/
def codes : Thrown → List (Option String)
  | .undefined => []
  | .exception (.database sqlstate) => [none, some sqlstate]
  | .exception _ | .contended .. | .provider _ => [none]
  | .rollback wrappers sqlstate => wrappers ++ [some sqlstate]

/-- A rollback of class 40. -/
def classForty : Thrown → Bool
  | .rollback _ sqlstate => sqlstate.startsWith "40"
  | _ => false

theorem status_of_classForty {e : Thrown} (rolled : e.classForty = true) : e.status = 500 := by
  cases e with
  | rollback wrappers sqlstate => rfl
  | undefined => cases rolled
  | exception _ => cases rolled
  | contended _ _ _ => cases rolled
  | provider _ => cases rolled

end Thrown

/-- The first code of the chain, at most `depth` levels down. -/
def codeWithin : (depth : ℕ) → List (Option String) → Option String
  | 0, _ => none
  | _ + 1, [] => none
  | _ + 1, some code :: _ => some code
  | depth + 1, none :: causes => codeWithin depth causes

def pgErrorCode (err : Thrown) : Option String := codeWithin 8 err.codes

def pgSerializationFailure : String := "40001"

def pgDeadlockDetected : String := "40P01"

def isTransientRollback (err : Thrown) : Bool :=
  decide (pgErrorCode err = some pgDeadlockDetected) ||
    decide (pgErrorCode err = some pgSerializationFailure)

/-! ## The run of a request -/

/-- Where the request stands when it opens a transaction or calls the provider. -/
inductive Site where
  | context
  | hold (attempt : ℕ)
  | checkout
  | pay (attempt : ℕ)
  | charge
  | bindCharge
  | readPayment
  | cancel
  | settle (attempt : ℕ)
  | refund
  | refundRow
  | refundNote
  deriving DecidableEq

structure Event where
  site : Site
  failure : Option Thrown

/-- Postgres aborted it with class 40. -/
def Event.rolledBack (o : Event) : Bool := o.failure.any Thrown.classForty

/-- The store, and what the request has done so far. -/
structure Session where
  db : Db
  events : List Event

abbrev Request (α : Type) := Act Thrown Session α

/-- Everything a request does not decide, by the number of the step. -/
structure World where
  /-- What others commit before the step. -/
  others : ℕ → Db → Db
  /-- What a transaction does with others committing between its statements. -/
  interleave : {α : Type} → ℕ → Transaction α → Transaction α
  rollback : ℕ → Option (List (Option String) × String)
  now : ℕ → Instant
  holdStamp : ℕ → HoldStamp
  payStamp : ℕ → PayStamp
  choice : ℕ → Uuid
  charge : Except CallFailure String
  refund : Except CallFailure String
  /-- `err instanceof Error ? err.message : String(err)`. -/
  message : Thrown → String

def failure {α : Type} : Except Thrown α → Option Thrown
  | .ok _ => none
  | .error e => some e

section Steps

variable {α : Type} (w : World)

/-- How the transaction of the step ends, and the store it leaves. -/
def ended (n : ℕ) (t : Transaction α) (db : Db) : Except Thrown α × Db :=
  match w.rollback n with
  | some (wrappers, sqlstate) => (.error (.rollback wrappers sqlstate), db)
  | none =>
      match w.interleave n t db with
      | .ok (a, db') => (.ok a, db')
      | .error e => (.error (.exception e), db)

/-- `db.transaction`, or a statement by itself. -/
def transact (site : Site) (t : ℕ → Transaction α) : Request α := fun s =>
  let n := s.events.length
  let r := ended w n (t n) (w.others n s.db)
  (r.1, ⟨r.2, s.events ++ [⟨site, failure r.1⟩]⟩)

/-- A call of the provider. -/
def call (site : Site) (answer : Except CallFailure α) : Request α := fun s =>
  let r := answer.mapError Thrown.provider
  (r, ⟨s.db, s.events ++ [⟨site, failure r⟩]⟩)

/-- Run a transaction, again if Postgres threw it away. -/
def withTransientRetry (run : ℕ → Request α) (attempts : ℕ) : Request α :=
  Act.retry isTransientRollback run attempts 0 .undefined

end Steps

/-! ## The routes -/

section Routes

variable (w : World) (env : Env) (attempts : ℕ)

def hold (input : HoldInput) (principal : AuthPrincipal) : Request Booking := do
  let ctx ← transact w .context fun n => openHold env input (w.now n)
  Act.handle
    (withTransientRetry
      (fun attempt => transact w (.hold attempt) fun n =>
        holdOnce env input ctx principal (w.holdStamp n))
      attempts)
    fun err =>
      if isTransientRollback err then
        Act.raise (.contended input.roomId.text input.startsAt input.endsAt)
      else Act.raise err

def checkout (bookingId : UuidText) (principal : AuthPrincipal) : Request Booking :=
  transact w .checkout fun n => Atrium.checkout env bookingId principal (w.now n)

inductive PayOutcome where
  | accepted
  | replayed
  deriving DecidableEq

/-- The guarded update of the charge id, and the row if it was updated. -/
def updateCharge (paymentId : Uuid) (chargeId : String) (now : Instant) :
    Transaction (Option (Uuid × Payment)) := do
  let found ← Tx.read fun db => (db.payments.get? paymentId).filter fun p => p.chargeId.isNone
  bindCharge paymentId chargeId now
  pure (found.map fun p => (paymentId, adopted chargeId now p))

def findPaymentById (paymentId : Uuid) : Transaction (Option (Uuid × Payment)) :=
  Tx.read fun db => (db.payments.get? paymentId).map fun p => (paymentId, p)

def pay (bookingId : UuidText) (principal : AuthPrincipal) :
    Request ((Uuid × Payment) × PayOutcome) := do
  let prepared ← withTransientRetry
    (fun attempt => transact w (.pay attempt) fun n =>
      payPrepare bookingId principal (w.payStamp n))
    attempts
  match prepared with
  | .settled payment => pure (payment, .replayed)
  | .charge _ payment => do
      let chargeId ← call .charge w.charge
      let updated ← transact w .bindCharge fun n => updateCharge payment.1 chargeId (w.now n)
      match updated with
      | some current => pure (current, .accepted)
      | none => do
          let current ← transact w .readPayment fun _ => findPaymentById payment.1
          pure (current.getD payment, .accepted)

/-- Call the provider and record the outcome.  Nothing it throws leaves it. -/
def settleRefund (instruction : RefundInstruction) : Request Unit :=
  if instruction.amountMinor ≤ 0 then pure ()
  else
    Act.handle
      (do
        let refundId ← call .refund w.refund
        transact w .refundRow fun n => refundAccepted instruction.paymentId refundId (w.now n))
      fun err =>
        Act.handle
          (transact w .refundNote fun n =>
            refundRejected instruction.paymentId (w.message err) (w.now n))
          fun _ => pure ()

def settleCancellation (bookingId : Uuid) : Request (Option RefundBreakdown) := do
  let instruction ← withTransientRetry
    (fun attempt => transact w (.settle attempt) fun n =>
      Atrium.settleCancellation bookingId (w.choice n) (w.now n))
    attempts
  match instruction with
  | none => pure none
  | some (refund, breakdown) => do
      settleRefund w refund
      pure (some breakdown)

/-- The cancel route: the state first, then the money. -/
def cancel (bookingId : UuidText) (reason : String) (principal : AuthPrincipal) :
    Request (Booking × Option RefundBreakdown) := do
  let booking ← transact w .cancel fun n => Atrium.cancel bookingId reason principal (w.now n)
  let refund ← settleCancellation w attempts bookingId.value
  pure (booking, refund)

/-- The request of one of the four routes. -/
inductive Route where
  | hold (input : HoldInput) (principal : AuthPrincipal)
  | checkout (bookingId : UuidText) (principal : AuthPrincipal)
  | pay (bookingId : UuidText) (principal : AuthPrincipal)
  | cancel (bookingId : UuidText) (reason : String) (principal : AuthPrincipal)

/-- What the routes answer with. -/
inductive Reply where
  | held (booking : Booking)
  | rearmed (booking : Booking)
  | paid (payment : Uuid × Payment) (outcome : PayOutcome)
  | cancelled (booking : Booking) (refund : Option RefundBreakdown)

def answer : Route → Request Reply
  | .hold input principal => do
      let booking ← hold w env attempts input principal
      pure (.held booking)
  | .checkout bookingId principal => do
      let booking ← checkout w env bookingId principal
      pure (.rearmed booking)
  | .pay bookingId principal => do
      let (payment, outcome) ← pay w attempts bookingId principal
      pure (.paid payment outcome)
  | .cancel bookingId reason principal => do
      let (booking, refund) ← cancel w attempts bookingId reason principal
      pure (.cancelled booking refund)

/-- The status of an answer. -/
def status : Except Thrown Reply → Nat
  | .ok (.held _) => 201
  | .ok (.rearmed _) | .ok (.paid ..) | .ok (.cancelled ..) => 200
  | .error e => e.status

end Routes

/-! ## What reaches the caller -/

/-- The code goes on from the error: it runs the transaction again, tells of a 409, or
leaves the refund to the reconciliation. -/
def Site.absorbs (attempts : ℕ) : Site → Thrown → Bool
  | .hold _, e => isTransientRollback e
  | .pay attempt, e | .settle attempt, e =>
      isTransientRollback e && decide (attempt + 1 < attempts)
  | .refund, _ | .refundRow, _ | .refundNote, _ => true
  | .context, _ | .checkout, _ | .charge, _ | .bindCharge, _ | .readPayment, _ | .cancel, _ =>
      false

def Event.absorbed (attempts : ℕ) (o : Event) : Bool := o.failure.all (o.site.absorbs attempts)

/-- It is a server error, and nothing goes on from it. -/
def Event.Surfaces (attempts : ℕ) (o : Event) : Prop :=
  ∃ e, o.failure = some e ∧ 500 ≤ e.status ∧ o.site.absorbs attempts e = false

def Quiet (attempts : ℕ) (events : List Event) : Prop := ∀ o ∈ events, ¬ o.Surfaces attempts

/-- What a part of a request did, told by its events: an error that surfaces is its last,
and is what it throws; where it throws a server error, one surfaced. -/
inductive Accounted {α : Type} (attempts : ℕ) (s : Session) : Except Thrown α × Session → Prop
  | quiet {r : Except Thrown α} {db : Db} {events : List Event} :
      (∀ e, r = .error e → e.status < 500) → Quiet attempts events →
      Accounted attempts s (r, ⟨db, s.events ++ events⟩)
  | surfaced {e : Thrown} {db : Db} {events : List Event} {o : Event} :
      Quiet attempts events → o.failure = some e → 500 ≤ e.status →
      o.site.absorbs attempts e = false →
      Accounted attempts s (.error e, ⟨db, s.events ++ (events ++ [o])⟩)

section Accounted

variable {α β : Type} {attempts : ℕ} {w : World} {env : Env} {s : Session}

theorem quiet_nil : Quiet attempts [] := fun _ among => nomatch among

theorem quiet_one {o : Event}
    (calm : ∀ e, o.failure = some e → 500 ≤ e.status → o.site.absorbs attempts e = true) :
    Quiet attempts [o] := by
  intro o' among
  obtain rfl := List.mem_singleton.mp among
  rintro ⟨e, failed, severe, open_⟩
  rw [calm e failed severe] at open_
  cases open_

theorem quiet_append {first rest : List Event} (before : Quiet attempts first)
    (behind : Quiet attempts rest) : Quiet attempts (first ++ rest) := by
  intro o among
  rcases List.mem_append.mp among with among | among
  · exact before o among
  · exact behind o among

namespace Accounted

protected theorem pure (a : α) : Accounted attempts s ((pure a : Request α) s) := by
  have still : s = ⟨s.db, s.events ++ []⟩ := by rw [List.append_nil]
  rw [Act.pure_run]
  nth_rewrite 2 [still]
  exact .quiet (fun e failed => nomatch failed) quiet_nil

/-- After a quiet part, what the next one did is what both did. -/
theorem behind {events : List Event} (db : Db) {r : Except Thrown β × Session}
    (before : Quiet attempts events) (next : Accounted attempts ⟨db, s.events ++ events⟩ r) :
    Accounted attempts s r := by
  cases next with
  | quiet mild rest =>
      rw [List.append_assoc]
      exact .quiet mild (quiet_append before rest)
  | surfaced rest fails severe open_ =>
      rw [List.append_assoc, ← List.append_assoc events]
      exact .surfaced (quiet_append before rest) fails severe open_

protected theorem bind {x : Request α} {f : α → Request β} (first : Accounted attempts s (x s))
    (next : ∀ a t, Accounted attempts t (f a t)) : Accounted attempts s ((x >>= f) s) := by
  rw [Act.bind_run]
  generalize x s = r at first
  cases first with
  | quiet mild rest =>
      rename_i r _ _
      cases r with
      | ok a => exact behind _ rest (next a _)
      | error e => exact .quiet (fun e' same => mild e' (by rw [Except.error.inj same])) rest
  | surfaced rest fails severe open_ => exact .surfaced rest fails severe open_

/-- One event, the error of which is thrown. -/
theorem step {site : Site} {r : Except Thrown α} {db : Db}
    (open_ : ∀ e, r = .error e → site.absorbs attempts e = false) :
    Accounted attempts s (r, ⟨db, s.events ++ [⟨site, failure r⟩]⟩) := by
  cases r with
  | ok a => exact .quiet (fun e failed => nomatch failed) (quiet_one (fun e failed => nomatch failed))
  | error e =>
      by_cases severe : 500 ≤ e.status
      · exact .surfaced (o := ⟨site, some e⟩) quiet_nil rfl severe (open_ e rfl)
      · refine .quiet (fun e' same => ?_) (quiet_one fun e' same severe' => ?_)
        · rw [← Except.error.inj same]
          omega
        · rw [← Option.some.inj same] at severe'
          exact absurd severe' severe

theorem transact {site : Site} (t : ℕ → Transaction α)
    (open_ : ∀ e, site.absorbs attempts e = false) :
    Accounted attempts s (transact w site t s) := step fun e _ => open_ e

theorem call {site : Site} (answer : Except CallFailure α)
    (open_ : ∀ e, site.absorbs attempts e = false) :
    Accounted attempts s (call site answer s) := step fun e _ => open_ e

/-! ### Under the wrapper -/

section Retry

variable {site : ℕ → Site} {t : ℕ → ℕ → Transaction α}

/-- The events of the first `m` attempts. -/
def attemptEvents (w : World) (site : ℕ → Site) (t : ℕ → ℕ → Transaction α) (s : Session) (m : ℕ) :
    List Event :=
  (List.range m).map fun j =>
    ⟨site j, failure (Act.outcome (fun k => Rollbacks.transact w (site k) (t k)) s j)⟩

theorem attemptEvents_succ (m : ℕ) :
    attemptEvents w site t s (m + 1) = attemptEvents w site t s m ++
      [⟨site m, failure (Act.outcome (fun k => Rollbacks.transact w (site k) (t k)) s m)⟩] := by
  unfold attemptEvents
  rw [List.range_succ, List.map_append, List.map_singleton]

theorem events_after (m : ℕ) :
    (Act.after (fun k => Rollbacks.transact w (site k) (t k)) s m).events =
      s.events ++ attemptEvents w site t s m := by
  induction m with
  | zero => exact (List.append_nil _).symm
  | succ m ih =>
      rw [attemptEvents_succ, ← List.append_assoc, ← ih]
      rfl

theorem quiet_attempts {m : ℕ} (failed : ∀ j < m, Act.Again isTransientRollback
      (Act.outcome (fun k => Rollbacks.transact w (site k) (t k)) s j))
    (absorbs : ∀ j < m, ∀ e, isTransientRollback e = true → (site j).absorbs attempts e = true) :
    Quiet attempts (attemptEvents w site t s m) := by
  intro o among
  obtain ⟨j, early, rfl⟩ := List.mem_map.mp among
  obtain ⟨e, same, transient⟩ := failed j (List.mem_range.mp early)
  rintro ⟨e', fails, -, open_⟩
  rw [same] at fails
  obtain rfl := Option.some.inj fails
  rw [absorbs j (List.mem_range.mp early) e transient] at open_
  cases open_

/-- The attempt the wrapper ends with, and the events up to it. -/
theorem attempts_end (w : World) (site : ℕ → Site) (t : ℕ → ℕ → Transaction α) (s : Session)
    (some_ : 0 < attempts) :
    ∃ (k : ℕ) (r : Except Thrown α) (db : Db), k < attempts ∧
      (∀ j < k, Act.Again isTransientRollback
        (Act.outcome (fun k => Rollbacks.transact w (site k) (t k)) s j)) ∧
      (k + 1 < attempts → ¬ Act.Again isTransientRollback r) ∧
      withTransientRetry (fun k => Rollbacks.transact w (site k) (t k)) attempts s =
        (r, ⟨db, (s.events ++ attemptEvents w site t s k) ++ [⟨site k, failure r⟩]⟩) := by
  obtain ⟨k, within, before, stops, ends⟩ := Act.retry_ends isTransientRollback
    (fun k => Rollbacks.transact w (site k) (t k)) s some_ .undefined
  refine ⟨k, _, (Act.after (fun k => Rollbacks.transact w (site k) (t k)) s (k + 1)).db, within,
    before, stops, ?_⟩
  rw [withTransientRetry, ends, List.append_assoc, ← attemptEvents_succ, ← events_after]

/-- The wrapped transaction, where nothing is behind the wrapper. -/
theorem retried (some_ : 0 < attempts) (absorbs : ∀ j e, (site j).absorbs attempts e =
      (isTransientRollback e && decide (j + 1 < attempts))) :
    Accounted attempts s
      (withTransientRetry (fun k => Rollbacks.transact w (site k) (t k)) attempts s) := by
  obtain ⟨k, r, db, within, before, stops, ends⟩ := attempts_end w site t s some_
  have quiet : Quiet attempts (attemptEvents w site t s k) := by
    refine quiet_attempts before fun j early e transient => ?_
    rw [absorbs, transient, Bool.true_and, decide_eq_true_eq]
    omega
  rw [ends]
  refine behind s.db quiet (step fun e failed => ?_)
  rw [absorbs]
  by_cases short : k + 1 < attempts
  · have spent := stops short
    rw [failed, Act.again_error] at spent
    rw [Bool.eq_false_iff.mpr spent, Bool.false_and]
  · rw [decide_eq_false short, Bool.and_false]

/-- The wrapped transaction of a hold, with the 409 behind the wrapper. -/
theorem contended (some_ : 0 < attempts) {err : Thrown} (told : err.status < 500)
    (absorbs : ∀ j e, (site j).absorbs attempts e = isTransientRollback e) :
    Accounted attempts s
      (Act.handle (withTransientRetry (fun k => Rollbacks.transact w (site k) (t k)) attempts)
        (fun e => if isTransientRollback e then Act.raise err else Act.raise e) s) := by
  obtain ⟨k, r, db, within, before, stops, ends⟩ := attempts_end w site t s some_
  have quiet : Quiet attempts (attemptEvents w site t s k) :=
    quiet_attempts before fun j _ e transient => (absorbs j e).trans transient
  rw [Act.handle_run, ends]
  refine behind s.db quiet ?_
  cases r with
  | ok a => exact step fun e failed => nomatch failed
  | error e =>
      show Accounted _ _ ((if isTransientRollback e = true then Act.raise err
        else Act.raise e : Request α) _)
      by_cases transient : isTransientRollback e = true
      · rw [if_pos transient]
        refine .quiet (fun e' same => ?_) (quiet_one fun e' same _ => ?_)
        · rw [← Except.error.inj same]
          exact told
        · rw [← Option.some.inj same, absorbs, transient]
      · rw [if_neg transient]
        refine step fun e' same => ?_
        rw [← Except.error.inj same, absorbs]
        exact Bool.eq_false_iff.mpr transient

end Retry

/-! ### The refund -/

theorem transact_run (site : Site) (t : ℕ → Transaction α) : ∃ r db,
    Rollbacks.transact w site t s = (r, ⟨db, s.events ++ [⟨site, failure r⟩]⟩) :=
  ⟨_, _, rfl⟩

theorem refundNote (t : ℕ → Transaction Unit) : ∃ db f,
    Act.handle (Rollbacks.transact w .refundNote t) (fun _ => pure ()) s =
      (.ok (), ⟨db, s.events ++ [⟨.refundNote, f⟩]⟩) := by
  obtain ⟨r, db, ran⟩ := transact_run (w := w) (s := s) .refundNote t
  rw [Act.handle_run, ran]
  cases r with
  | ok a => exact ⟨db, none, rfl⟩
  | error e => exact ⟨db, some e, rfl⟩

/-- The call and, where it was accepted, its row. -/
theorem refundCall (t : String → ℕ → Transaction Unit) : ∃ r db events,
    (Rollbacks.call .refund w.refund >>= fun refundId =>
      Rollbacks.transact w .refundRow (t refundId)) s = (r, ⟨db, s.events ++ events⟩) ∧
      ∀ o ∈ events, o.site ∈ [Site.refund, .refundRow] := by
  rw [Act.bind_run, Rollbacks.call]
  cases w.refund with
  | error failed => exact ⟨_, s.db, [⟨.refund, some (.provider failed)⟩], rfl, by simp⟩
  | ok refundId =>
      obtain ⟨r, db, ran⟩ := transact_run (w := w)
        (s := ⟨s.db, s.events ++ [⟨.refund, none⟩]⟩) .refundRow (t refundId)
      refine ⟨r, db, [⟨.refund, none⟩, ⟨.refundRow, failure r⟩], ran.trans ?_, by simp⟩
      rw [List.append_assoc]
      rfl

/-- It returns, and all its events are of the refund. -/
theorem settleRefund_run (instruction : RefundInstruction) : ∃ db events,
    Rollbacks.settleRefund w instruction s = (.ok (), ⟨db, s.events ++ events⟩) ∧
      ∀ o ∈ events, o.site ∈ [Site.refund, .refundRow, .refundNote] := by
  have wider : ∀ site ∈ [Site.refund, .refundRow], site ∈ [Site.refund, .refundRow, .refundNote] := by
    decide
  unfold Rollbacks.settleRefund
  split
  · exact ⟨s.db, [], by rw [List.append_nil]; rfl, fun o among => nomatch among⟩
  · obtain ⟨r, db, events, ran, sites⟩ := refundCall (w := w) (s := s) fun refundId n =>
      refundAccepted instruction.paymentId refundId (w.now n)
    rw [Act.handle_run, ran]
    cases r with
    | ok a =>
        exact ⟨db, events, rfl, fun o among => wider o.site (sites o among)⟩
    | error e =>
        obtain ⟨db', f, noted⟩ := refundNote (w := w) (s := ⟨db, s.events ++ events⟩) fun n =>
          refundRejected instruction.paymentId (w.message e) (w.now n)
        refine ⟨db', events ++ [⟨.refundNote, f⟩], noted.trans (by rw [List.append_assoc]), ?_⟩
        intro o among
        rcases List.mem_append.mp among with among | among
        · exact wider o.site (sites o among)
        · rw [List.mem_singleton.mp among]
          simp

theorem settleRefund (instruction : RefundInstruction) :
    Accounted attempts s (settleRefund w instruction s) := by
  obtain ⟨db, events, ran, sites⟩ := settleRefund_run (w := w) (s := s) instruction
  rw [ran]
  refine .quiet (fun e failed => nomatch failed) fun o among => ?_
  rintro ⟨e, -, -, open_⟩
  have site := sites o among
  simp only [List.mem_cons, List.not_mem_nil, or_false] at site
  rcases site with site | site | site <;> rw [site] at open_ <;> cases open_

/-! ### The routes -/

variable (some_ : 0 < attempts)

include some_

theorem hold (input : HoldInput) (principal : AuthPrincipal) :
    Accounted attempts s (hold w env attempts input principal s) := by
  refine Accounted.bind (transact _ fun _ => rfl) fun ctx t => ?_
  exact contended some_ (show 409 < 500 by decide) fun _ _ => rfl

theorem pay (bookingId : UuidText) (principal : AuthPrincipal) :
    Accounted attempts s (pay w attempts bookingId principal s) := by
  refine Accounted.bind (retried some_ fun _ _ => rfl) fun prepared t => ?_
  cases prepared with
  | settled payment => exact Accounted.pure _
  | charge booking payment =>
      refine Accounted.bind (call _ fun _ => rfl) fun chargeId t => ?_
      refine Accounted.bind (transact _ fun _ => rfl) fun updated t => ?_
      cases updated with
      | some current => exact Accounted.pure _
      | none =>
          exact Accounted.bind (transact _ fun _ => rfl) fun current t => Accounted.pure _

theorem settleCancellation (bookingId : Uuid) :
    Accounted attempts s (settleCancellation w attempts bookingId s) := by
  refine Accounted.bind (retried some_ fun _ _ => rfl) fun instruction t => ?_
  cases instruction with
  | none => exact Accounted.pure _
  | some minted =>
      exact Accounted.bind (settleRefund minted.1) fun _ t => Accounted.pure _

theorem cancel (bookingId : UuidText) (reason : String) (principal : AuthPrincipal) :
    Accounted attempts s (cancel w attempts bookingId reason principal s) := by
  refine Accounted.bind (transact _ fun _ => rfl) fun booking t => ?_
  exact Accounted.bind (settleCancellation some_ bookingId.value) fun _ t => Accounted.pure _

theorem answer (route : Route) : Accounted attempts s (answer w env attempts route s) := by
  cases route with
  | hold input principal =>
      exact Accounted.bind (Accounted.hold some_ input principal) fun _ t => Accounted.pure _
  | checkout bookingId principal =>
      exact Accounted.bind (transact _ fun _ => rfl) fun _ t => Accounted.pure _
  | pay bookingId principal =>
      exact Accounted.bind (Accounted.pay some_ bookingId principal) fun _ t => Accounted.pure _
  | cancel bookingId reason principal =>
      exact Accounted.bind (Accounted.cancel some_ bookingId reason principal)
        fun _ t => Accounted.pure _

end Accounted

end Accounted

/-! ## The wrapper -/

/-- What `withTransientRetry` makes of `n` runs of `run`, at most `attempts`. -/
structure Retries {α : Type} (w : World) (run : ℕ → Request α) (attempts : ℕ) (s : Session)
    (r : Except Thrown α × Session) (n : ℕ) : Prop where
  atMost : n ≤ attempts
  runs : r.2 = Act.after run s n ∧ r.2.events.length = s.events.length + n
  /-- Only the last run can have committed, and its value is what is returned. -/
  once : ∀ j < n, ∀ a, Act.outcome run s j = .ok a → j + 1 = n ∧ r.1 = .ok a
  /-- A run that failed left the store as the others had it. -/
  rolledBack : ∀ j < n, ∀ e, Act.outcome run s j = .error e →
    (Act.after run s (j + 1)).db = w.others (s.events.length + j) (Act.after run s j).db
  first : ∀ k < attempts, (∀ j < k, Act.Again isTransientRollback (Act.outcome run s j)) →
    ∀ a, Act.outcome run s k = .ok a → n = k + 1 ∧ r.1 = .ok a
  rethrown : ∀ k < attempts, (∀ j < k, Act.Again isTransientRollback (Act.outcome run s j)) →
    ∀ e, Act.outcome run s k = .error e → isTransientRollback e = false →
      n = k + 1 ∧ r.1 = .error e

section Wrapper

variable {α : Type} {w : World} {site : ℕ → Site} {t : ℕ → ℕ → Transaction α} {s : Session}

variable (w site t s) in
theorem events_length (n : ℕ) :
    (Act.after (fun k => transact w (site k) (t k)) s n).events.length = s.events.length + n := by
  rw [Accounted.events_after, List.length_append, Accounted.attemptEvents, List.length_map,
    List.length_range]

/-- A transaction that failed left nothing. -/
theorem ended_error {n : ℕ} {t : Transaction α} {db db' : Db} {e : Thrown}
    (failed : ended w n t db = (.error e, db')) : db' = db := by
  unfold ended at failed
  cases rolled : w.rollback n with
  | some abort =>
      rw [rolled] at failed
      exact (congrArg Prod.snd failed).symm
  | none =>
      rw [rolled] at failed
      cases ran : w.interleave n t db with
      | ok r =>
          simp only [ran] at failed
          cases congrArg Prod.fst failed
      | error e' =>
          simp only [ran] at failed
          exact (congrArg Prod.snd failed).symm

theorem after_error {j : ℕ} {e : Thrown}
    (failed : Act.outcome (fun k => transact w (site k) (t k)) s j = .error e) :
    (Act.after (fun k => transact w (site k) (t k)) s (j + 1)).db =
      w.others (s.events.length + j) (Act.after (fun k => transact w (site k) (t k)) s j).db := by
  rw [← events_length w site t s j]
  exact ended_error (Prod.ext failed rfl)

/-- **The wrapper** runs at most `attempts` times, commits at most once, returns the first
success and throws at once what is not transient. -/
theorem withTransientRetry_retries (attempts : ℕ) :
    ∃ n, Retries w (fun k => transact w (site k) (t k)) attempts s
      (withTransientRetry (fun k => transact w (site k) (t k)) attempts s) n := by
  rcases Nat.eq_zero_or_pos attempts with rfl | some_
  · exact ⟨0, le_rfl, ⟨rfl, rfl⟩, fun j none_ => by omega, fun j none_ => by omega,
      fun k none_ => by omega, fun k none_ => by omega⟩
  · obtain ⟨k, within, before, stops, ends⟩ := Act.retry_ends isTransientRollback
      (fun k => transact w (site k) (t k)) s some_ .undefined
    rw [withTransientRetry, ends]
    refine ⟨k + 1, within, ⟨rfl, events_length w site t s (k + 1)⟩, ?_, fun j _ e => after_error, ?_, ?_⟩
    · intro j early a returned
      rcases Nat.lt_succ_iff_lt_or_eq.mp early with early | rfl
      · have failed := before j early
        rw [returned] at failed
        exact absurd failed Act.not_again_ok
      · exact ⟨rfl, returned⟩
    · intro k' within' before' a returned
      have same : k = k' := Act.stop_unique within' within before' before
        (by rw [returned]; exact Act.not_again_ok) stops
      exact ⟨by rw [same], by rw [same]; exact returned⟩
    · intro k' within' before' e failed spent
      have same : k = k' := Act.stop_unique within' within before' before
        (by rw [failed, Act.again_error, spent]; exact Bool.false_ne_true) stops
      exact ⟨by rw [same], by rw [same]; exact failed⟩

end Wrapper

/-! ## The answer -/

/-- `TRANSIENT_RETRY_ATTEMPTS`. -/
abbrev RetryAttempts : Type := {n : ℕ // 1 ≤ n ∧ n ≤ 10}

section Answer

variable {w : World} {env : Env} {attempts : ℕ} {route : Route} {db : Db}

theorem status_ok (reply : Reply) : status (.ok reply) < 500 := by
  cases reply with
  | held _ => exact (by decide : 201 < 500)
  | rearmed _ => exact (by decide : 200 < 500)
  | paid _ _ => exact (by decide : 200 < 500)
  | cancelled _ _ => exact (by decide : 200 < 500)

/-- An unabsorbed rollback surfaces. -/
theorem surfaces_of_rolledBack {o : Event} (rolled : o.rolledBack = true)
    (open_ : o.absorbed attempts = false) : o.Surfaces attempts := by
  obtain ⟨site, failure⟩ := o
  cases failure with
  | none => cases rolled
  | some e => exact ⟨e, rfl, (Thrown.status_of_classForty rolled).ge, open_⟩

theorem not_absorbed {o : Event} (surfaces : o.Surfaces attempts) :
    o.absorbed attempts = false := by
  obtain ⟨e, failed, -, open_⟩ := surfaces
  rw [Event.absorbed, failed]
  exact open_

/-- **The answer is a server error just when an error surfaced.** -/
theorem answer_status (some_ : 0 < attempts) :
    500 ≤ status (answer w env attempts route ⟨db, []⟩).1 ↔
      ∃ o ∈ (answer w env attempts route ⟨db, []⟩).2.events, o.Surfaces attempts := by
  have accounted := @Accounted.answer attempts w env ⟨db, []⟩ some_ route
  generalize answer w env attempts route ⟨db, []⟩ = r at accounted
  cases accounted with
  | quiet mild quiet =>
      rename_i r _ events
      refine iff_of_false (fun severe => ?_) ?_
      · cases r with
        | ok reply => exact absurd severe (status_ok reply).not_ge
        | error e => exact absurd severe (mild e rfl).not_ge
      · rintro ⟨o, among, surfaces⟩
        exact quiet o among surfaces
  | surfaced quiet failed severe open_ =>
      exact iff_of_true severe ⟨_, by simp, _, failed, severe, open_⟩

/-- **And it is the rollback itself just when one was not absorbed.** -/
theorem answer_rolledBack (some_ : 0 < attempts) :
    (∃ e, (answer w env attempts route ⟨db, []⟩).1 = .error e ∧ e.classForty = true) ↔
      ∃ o ∈ (answer w env attempts route ⟨db, []⟩).2.events,
        o.rolledBack = true ∧ o.absorbed attempts = false := by
  have accounted := @Accounted.answer attempts w env ⟨db, []⟩ some_ route
  generalize answer w env attempts route ⟨db, []⟩ = r at accounted
  cases accounted with
  | quiet mild quiet =>
      refine iff_of_false ?_ ?_
      · rintro ⟨e, same, rolled⟩
        have small := mild e same
        rw [Thrown.status_of_classForty rolled] at small
        omega
      · rintro ⟨o, among, rolled, open_⟩
        exact quiet o among (surfaces_of_rolledBack rolled open_)
  | surfaced quiet failed severe open_ =>
      rename_i e _ events last
      constructor
      · rintro ⟨e', same, rolled⟩
        obtain rfl := Except.error.inj same
        refine ⟨last, by simp, ?_, not_absorbed ⟨e, failed, severe, open_⟩⟩
        rw [Event.rolledBack, failed]
        exact rolled
      · rintro ⟨o, among, rolled, unhandled⟩
        have among : o ∈ events ++ [last] := among
        rcases List.mem_append.mp among with among | among
        · exact absurd (surfaces_of_rolledBack rolled unhandled) (quiet o among)
        · obtain rfl := List.mem_singleton.mp among
          rw [Event.rolledBack, failed] at rolled
          exact ⟨e, rfl, rolled⟩

/-- What a rollback of one of its transactions does to an answer: nothing, where the
rollback is absorbed and nothing else fails. -/
theorem answer_clean (some_ : 0 < attempts) :
    status (answer w env attempts route ⟨db, []⟩).1 < 500 ↔
      (∀ o ∈ (answer w env attempts route ⟨db, []⟩).2.events,
        o.rolledBack = true → o.absorbed attempts = true) ∧
      ∀ o ∈ (answer w env attempts route ⟨db, []⟩).2.events,
        o.rolledBack = false → ¬ o.Surfaces attempts := by
  rw [← not_le, answer_status some_]
  constructor
  · intro clean
    refine ⟨fun o among rolled => ?_, fun o among _ surfaces => clean ⟨o, among, surfaces⟩⟩
    by_contra open_
    exact clean ⟨o, among, surfaces_of_rolledBack rolled (Bool.eq_false_iff.mpr open_)⟩
  · rintro ⟨absorbed, calm⟩ ⟨o, among, surfaces⟩
    cases rolled : o.rolledBack with
    | true =>
        have open_ := not_absorbed surfaces
        rw [absorbed o among rolled] at open_
        cases open_
    | false => exact calm o among rolled surfaces

end Answer

/-- **Rollbacks of class 40.**  The wrapper keeps its word over every sequence of attempts.
A request one of whose transactions was rolled back answers without a server error just
when every such rollback was absorbed and nothing else in it failed with one; and its
answer is the rollback itself just when one was not absorbed. -/
theorem rollbacks_iff (w : World) (env : Env) (attempts : RetryAttempts) (route : Route) (db : Db) :
    (∀ {α : Type} (site : ℕ → Site) (t : ℕ → ℕ → Transaction α) (attempts : ℕ) (s : Session),
      ∃ n, Retries w (fun k => transact w (site k) (t k)) attempts s
        (withTransientRetry (fun k => transact w (site k) (t k)) attempts s) n) ∧
    let r := answer w env attempts.1 route ⟨db, []⟩
    (((∃ o ∈ r.2.events, o.rolledBack = true) → status r.1 < 500) ↔
      ((∃ o ∈ r.2.events, o.rolledBack = true) →
        (∀ o ∈ r.2.events, o.rolledBack = true → o.absorbed attempts.1 = true) ∧
        ∀ o ∈ r.2.events, o.rolledBack = false → ¬ o.Surfaces attempts.1)) ∧
    ((∃ e, r.1 = .error e ∧ e.classForty = true) ↔
      ∃ o ∈ r.2.events, o.rolledBack = true ∧ o.absorbed attempts.1 = false) := by
  refine ⟨fun site t attempts s => withTransientRetry_retries attempts, ?_⟩
  have some_ : 0 < attempts.1 := attempts.2.1
  exact ⟨imp_congr_right fun _ => answer_clean some_, answer_rolledBack some_⟩

/-! ## A checkout thrown away -/

namespace Sample

/-- Nobody else about, and nothing rolled back. -/
def calm : World where
  others := fun _ db => db
  interleave := fun _ t => t
  rollback := fun _ => none
  now := fun _ => 60000
  holdStamp := fun _ => ⟨8, 60000, 60000⟩
  payStamp := fun _ => ⟨9, 60000, 60000⟩
  choice := fun _ => 9
  charge := .ok "ch_1"
  refund := .ok "re_1"
  message := fun _ => ""

/-- A hold of the same slot waits for the row the checkout updates, and the checkout for
the entry the hold has put into the exclusion index. -/
def deadlocked : World :=
  { calm with rollback := fun n => if n = 0 then some ([none], "40P01") else none }

def three : RetryAttempts := ⟨3, by decide⟩

def held : Booking where
  venueId := 1
  roomId := 2
  userId := 5
  startsAt := 36000000
  endsAt := 39600000
  status := .held
  expiresAt := some 480000
  rearmCount := 0
  policySnapshot := none
  totalMinor := 5000
  currency := "PKR"
  createdAt := 0
  updatedAt := 0

def db : Db where
  venues := Table.empty
  rooms := Table.empty
  equipmentTypes := Table.empty
  users := [5]
  cancellationPolicies := Table.empty
  bookings := ⟨[(7, held)], by decide⟩
  bookingLineItems := []
  payments := Table.empty
  paymentEvents := []
  webhookDeliveries := Table.empty
  auditEvents := []

def checkout : Route := .checkout (Uuid.path 7) ⟨5, .customer, none⟩

end Sample

/-- The deadlock of a checkout is a 500; without it the checkout is answered. -/
theorem rollbacks_refuted :
    ((answer Sample.deadlocked .default Sample.three.1 Sample.checkout
        ⟨Sample.db, []⟩).2.events.any Event.rolledBack = true ∧
      status (answer Sample.deadlocked .default Sample.three.1 Sample.checkout
        ⟨Sample.db, []⟩).1 = 500) ∧
    status (answer Sample.calm .default Sample.three.1 Sample.checkout ⟨Sample.db, []⟩).1 = 200 := by
  decide +kernel

end Rollbacks

end Atrium
