/-
# BookingChange -- the five ways a commit can touch bookings

Whatever a transaction does to payments and deliveries, its mark on `bookings`,
their line items and the audit log is one of five: nothing but self-edges, one
move, one re-arm, one bulk expiry, one hold.  `Effect.bookingChange` says so, and
names the rows touched among those the transaction locks.
-/
import Atrium.Steps

namespace Atrium

open Atrium.Base

set_option autoImplicit false

/-- The columns no update writes. -/
def Booking.sameTerms (b c : Booking) : Prop :=
  c.venueId = b.venueId ∧ c.roomId = b.roomId ∧ c.userId = b.userId ∧ c.startsAt = b.startsAt ∧
    c.endsAt = b.endsAt ∧ c.totalMinor = b.totalMinor ∧ c.currency = b.currency ∧
    c.createdAt = b.createdAt

def selfEdges (rows : List AuditEvent) : Prop := ∀ row ∈ rows, row.fromState = row.toState

/-- A row as a move leaves it: only a confirmation writes more than the status. -/
def moves (target : BookingStatus) (f : Booking → Booking) : Prop :=
  (∃ now, f = movedRow target now) ∨
    (target = .confirmed ∧ ∃ snapshot now, f = confirmedRow snapshot now)

theorem moves.status {target : BookingStatus} {f : Booking → Booking} (moved : moves target f)
    (b : Booking) : (f b).status = target := by
  rcases moved with ⟨now, rfl⟩ | ⟨rfl, snapshot, now, rfl⟩ <;> rfl

theorem moves.sameTerms {target : BookingStatus} {f : Booking → Booking} (moved : moves target f)
    (b : Booking) : b.sameTerms (f b) := by
  rcases moved with ⟨now, rfl⟩ | ⟨rfl, snapshot, now, rfl⟩ <;>
    exact ⟨rfl, rfl, rfl, rfl, rfl, rfl, rfl, rfl⟩

/-- Two databases with the same bookings, line items and audit log. -/
def sameBookings (db t : Db) : Prop :=
  t.bookings = db.bookings ∧ t.bookingLineItems = db.bookingLineItems ∧
    t.auditEvents = db.auditEvents

/-- What a commit did to bookings, line items and the audit log, and the rows it
touched. -/
inductive BookingChange (env : Env) (db db' : Db) : Txn → List Uuid → Prop
  | idle (t : Txn) (rows : List AuditEvent) :
      db'.bookings = db.bookings → db'.bookingLineItems = db.bookingLineItems →
      db'.auditEvents = db.auditEvents ++ rows → selfEdges rows → BookingChange env db db' t []
  | moved (t : Txn) (id : Uuid) (b : Booking) (f : Booking → Booking) (target : BookingStatus)
      (actor : Actor) (reason : String) (rows : List AuditEvent) :
      db.bookings.get? id = some b → b.status ≠ .draft → target ∈ legalTransitions b.status →
      moves target f →
      (target = .pendingPayment → ∃ bookingId principal booking existing stamp,
        t = .pay bookingId principal booking existing stamp ∧ id = bookingId.value ∧
          booking.status = .held ∧ booking.lapsedAt stamp.now = false) →
      db'.bookings = db.bookings.modify id f → db'.bookingLineItems = db.bookingLineItems →
      db'.auditEvents = db.auditEvents ++ ⟨id, actor, b.status, target, reason⟩ :: rows →
      selfEdges rows → BookingChange env db db' t [id]
  | rearmed (bookingId : UuidText) (principal : AuthPrincipal) (booking b : Booking)
      (now : Instant) (actor : Actor) :
      booking.lapsedAt now = false → booking.rearmCount < env.maxHoldRearms →
      now < booking.createdAt + env.maxHoldLifetimeSeconds * 1000 →
      db.bookings.get? bookingId.value = some b → b.status ∈ [.held, .pendingPayment] →
      db'.bookings = db.bookings.modify bookingId.value (rearmed env booking now) →
      db'.bookingLineItems = db.bookingLineItems →
      db'.auditEvents =
        db.auditEvents ++ [⟨bookingId.value, actor, b.status, b.status, "hold.rearmed"⟩] →
      BookingChange env db db' (.checkout bookingId principal booking now) [bookingId.value]
  | expired (t : Txn) (ids : List Uuid) (now : Instant) (reason : String) :
      ids.Nodup →
      (∀ id ∈ ids, ∃ b, db.bookings.get? id = some b ∧ stale b now = true) →
      sameBookings (db.expire ids now systemActor reason) db' → BookingChange env db db' t ids
  | held (input : HoldInput) (ctx : RoomContext) (principal : AuthPrincipal) (stamp : HoldStamp)
      (expired : List Uuid) (priced : List PricedItem) (bookings : Table Uuid Booking) :
      expired.Nodup →
      (∀ id ∈ expired, ∃ b, db.bookings.get? id = some b ∧ stale b stamp.startedAt = true) →
      roomConflicts (expiredView db stamp expired) (heldRow env input ctx principal stamp priced) =
        [] →
      (∀ item ∈ priced, 0 < item.quantity) →
      (expiredView db stamp expired).bookings.insert? stamp.id
        (heldRow env input ctx principal stamp priced) = some bookings →
      sameBookings ((expiredView db stamp expired).hold bookings stamp.id principal.userId priced)
        db' →
      BookingChange env db db' (.hold input ctx principal stamp expired priced)
        (stamp.id :: expired)

/-! ## Every effect is one of them -/

theorem PaymentRecorded.rest {db db' : Db} {paymentId : Uuid} {p : Payment}
    (recorded : PaymentRecorded db paymentId p db') :
    db'.bookings = db.bookings ∧ db'.bookingLineItems = db.bookingLineItems ∧
      db'.auditEvents = db.auditEvents ∧ db'.paymentEvents = db.paymentEvents ∧
      db'.webhookDeliveries = db.webhookDeliveries := by
  rcases recorded with ⟨-, rfl⟩ | ⟨-, _, -, rfl⟩ <;> exact ⟨rfl, rfl, rfl, rfl, rfl⟩

theorem findPayment_rest {e : WebhookEvent} {now : Instant} {db db' : Db}
    {r : Option (Uuid × Payment)} (returned : findPayment e now db = .ok (r, db')) :
    db'.bookings = db.bookings ∧ db'.bookingLineItems = db.bookingLineItems ∧
      db'.auditEvents = db.auditEvents ∧ db'.paymentEvents = db.paymentEvents ∧
      db'.webhookDeliveries = db.webhookDeliveries := by
  rcases findPayment_ok returned with ⟨-, rfl, -⟩ | ⟨_, -, rfl, -⟩ | ⟨_, _, -, -, -, -, -, -, rfl⟩ <;>
    exact ⟨rfl, rfl, rfl, rfl, rfl⟩

/-- An applied event moves at most its payment's booking. -/
theorem Consequence.bookingChange {payment : Uuid × Payment} {e : WebhookEvent} {now : Instant}
    {db db' : Db} {r : Option RefundInstruction}
    (consequence : Consequence payment e now db r db') (env : Env) (t : Txn) :
    BookingChange env db db' t [] ∨ BookingChange env db db' t [payment.2.bookingId] := by
  cases consequence with
  | confirmed b snapshot _ _ found pending _ =>
      refine .inr (.moved t _ b (confirmedRow snapshot now) .confirmed paygateActor
        "payment.captured" [] found (by simp [pending]) ?_ (.inr ⟨rfl, snapshot, now, rfl⟩) (by rintro ⟨⟩) rfl rfl ?_
        (by simp [selfEdges]))
      · simp [pending, legalTransitions]
      · simp [Db.move, pending]
  | late b _ _ found _ =>
      by_cases pending : b.status = .pendingPayment
      · refine .inr (.moved t _ b (movedRow .expired now) .expired systemActor
          "hold.expired.payment_arrived_late" [⟨payment.2.bookingId, systemActor, .pendingPayment,
            .pendingPayment, "refund.initiated.unconfirmable_hold"⟩] found (by simp [pending]) ?_
          (.inl ⟨now, rfl⟩) (by rintro ⟨⟩) ?_ ?_ ?_ ?_)
        · simp [pending, legalTransitions]
        · simp [lateCharge, pending, Db.move]
        · simp [lateCharge, pending, Db.move]
        · simp only [lateCharge, pending, if_true, Db.move, Db.audit_auditEvents,
            Db.modifyPayment_auditEvents, List.append_assoc, List.cons_append, List.nil_append]
        · simp [selfEdges]
      · refine .inl (.idle t [⟨payment.2.bookingId, systemActor, b.status, b.status,
          "refund.initiated.unconfirmable_hold"⟩] ?_ ?_ ?_ ?_)
        · simp [lateCharge, pending]
        · simp [lateCharge, pending]
        · simp only [lateCharge, pending, if_false, Db.audit_auditEvents,
            Db.modifyPayment_auditEvents]
        · simp [selfEdges]
  | declined b _ found pending =>
      refine .inr (.moved t _ b (movedRow .failed now) .failed paygateActor
        "payment.declined" [] found (by simp [pending]) ?_ (.inl ⟨now, rfl⟩) (by rintro ⟨⟩) rfl rfl ?_
        (by simp [selfEdges]))
      · simp [pending, legalTransitions]
      · simp [Db.move, pending]
  | declinedIdle _ _ => exact .inl (.idle t [] rfl rfl (by simp) (by simp [selfEdges]))
  | refunded b _ _ found cancelled =>
      refine .inr (.moved t _ b (movedRow .refunded now) .refunded paygateActor
        "refund.settled" [] found (by simp [cancelled]) ?_ (.inl ⟨now, rfl⟩) (by rintro ⟨⟩) rfl rfl ?_
        (by simp [selfEdges]))
      · simp [cancelled, legalTransitions]
      · simp [Db.move, cancelled]
  | refundedTerminal b _ _ found _ =>
      exact .inl (.idle t [⟨payment.2.bookingId, paygateActor, b.status, b.status,
        "refund.settled.terminal_booking"⟩] rfl rfl rfl (by simp [selfEdges]))
  | refundedOrphan _ _ _ => exact .inl (.idle t [] rfl rfl (by simp) (by simp [selfEdges]))

/-- A change is one of the three tables, whatever the others do. -/
theorem BookingChange.congr {env : Env} {db db' before after : Db} {t : Txn} {ids : List Uuid}
    (change : BookingChange env before after t ids) (start : sameBookings db before)
    (finish : sameBookings after db') : BookingChange env db db' t ids := by
  obtain ⟨bookings, items, log⟩ := start
  obtain ⟨bookings', items', log'⟩ := finish
  cases change with
  | idle _ rows b i a self =>
      exact .idle t rows (by rw [bookings', b, bookings]) (by rw [items', i, items])
        (by rw [log', a, log]) self
  | moved _ id b f target actor reason rows found created legal move paid b' i a self =>
      exact .moved t id b f target actor reason rows (bookings ▸ found) created legal move paid
        (by rw [bookings', b', bookings]) (by rw [items', i, items]) (by rw [log', a, log]) self
  | rearmed bookingId principal booking b now actor live rearms capped found status b' i a =>
      exact .rearmed bookingId principal booking b now actor live rearms capped (bookings ▸ found)
        status (by rw [bookings', b', bookings]) (by rw [items', i, items]) (by rw [log', a, log])
  | expired _ ids now reason nodup stale same =>
      obtain ⟨b, i, a⟩ := same
      refine .expired t ids now reason nodup (bookings ▸ stale) ⟨?_, ?_, ?_⟩
      · rw [bookings', b, Db.expire_bookings, Db.expire_bookings, bookings]
      · rw [items', i, Db.expire_bookingLineItems, Db.expire_bookingLineItems, items]
      · rw [log', a, Db.expire_auditEvents, Db.expire_auditEvents, log]
  | held input ctx principal stamp expired priced table nodup stale conflicts positive fresh same =>
      obtain ⟨b, i, a⟩ := same
      refine .held input ctx principal stamp expired priced table nodup (bookings ▸ stale) ?_
        positive ?_ ⟨?_, ?_, ?_⟩
      · simpa [roomConflicts, expiredView, bookings] using conflicts
      · simpa [expiredView, bookings] using fresh
      · rw [bookings', b, Db.hold_bookings, Db.hold_bookings]
      · simp only [items', i, Db.hold_bookingLineItems, expiredView, Db.expire_bookingLineItems,
          items]
      · simp only [log', a, Db.hold_auditEvents, expiredView, Db.expire_auditEvents, log]

/-- The transaction's own expiries are stale rows, each named once. -/
def Txn.expiriesStale (db : Db) : Txn → Prop
  | .hold _ _ _ stamp expired _ =>
      expired.Nodup ∧ ∀ id ∈ expired, ∃ b, db.bookings.get? id = some b ∧
        stale b stamp.startedAt = true
  | _ => True

/-- The rows a transaction expires in bulk. -/
def Txn.expires (db : Db) : Txn → List Uuid
  | .hold _ _ _ _ expired _ => expired
  | .sweep now locked => staleHolds db sweeperBatchSize now locked
  | _ => []

theorem staleHolds_nodup (db : Db) (limit : Nat) (now : Instant) (locked : List Uuid) :
    (staleHolds db limit now locked).Nodup := by
  unfold staleHolds
  rw [List.map_take]
  refine List.Nodup.sublist (List.take_sublist _ _) ?_
  refine ((List.perm_insertionSort _ _).map Prod.fst).nodup_iff.mpr ?_
  exact db.bookings.unique.sublist (List.filter_sublist.map Prod.fst)

/-- **Every effect is a booking change**, of rows it locks, expires or creates. -/
theorem Effect.bookingChange {env : Env} {t : Txn} {db db' : Db} {out : Outcome}
    (effect : Effect env t db db' out) (ready : t.expiriesStale db) :
    ∃ ids, BookingChange env db db' t ids ∧
      ∀ id ∈ ids, id ∈ t.locks db ∨ id ∈ t.expires db ∨ db.bookings.get? id = none := by
  have alone : ∀ {u : Txn} {db' : Db}, sameBookings db db' →
      ∃ ids, BookingChange env db db' u ids ∧
        ∀ id ∈ ids, id ∈ u.locks db ∨ id ∈ u.expires db ∨ db.bookings.get? id = none :=
    fun same => ⟨[], .idle _ [] same.1 same.2.1 (by simpa using same.2.2) (by simp [selfEdges]),
      by simp⟩
  cases effect with
  | nothing => exact alone ⟨rfl, rfl, rfl⟩
  | held input ctx principal stamp expired priced _ bookings conflicts positive fresh =>
      refine ⟨_, .held input ctx principal stamp expired priced bookings ready.1 ready.2 conflicts
        positive fresh ⟨rfl, rfl, rfl⟩, ?_⟩
      intro id here
      rcases List.mem_cons.mp here with rfl | here
      · have absent := (Table.insert?_some fresh).1
        simp only [expiredView, Db.expire_bookings, Table.get?_update, Option.map_eq_none_iff] at absent
        exact .inr (.inr absent)
      · exact .inr (.inl here)
  | rearmed bookingId principal booking now _ b live rearms capped found status =>
      exact ⟨_, .rearmed bookingId principal booking b now _ live rearms capped found status rfl rfl
        rfl, by simp [Txn.locks]⟩
  | paid bookingId principal booking existing stamp _ recorded _ payment inserted found moved =>
      obtain ⟨bookings, items, log, -⟩ := inserted.rest
      rcases moved with ⟨held, live, ⟨b, here, status⟩, rfl⟩ | ⟨-, rfl⟩
      · refine ⟨_, .moved _ bookingId.value b (movedRow .pendingPayment stamp.now)
          .pendingPayment ⟨.user, some principal.userId⟩ "payment.initiated" [] here
          (by simp [status]) ?_
          (.inl ⟨_, rfl⟩) (fun _ => ⟨bookingId, principal, booking, existing, stamp, rfl, rfl, held,
            live⟩) ?_ ?_ ?_ (by simp [selfEdges]), by simp [Txn.locks]⟩
        · simp [status, legalTransitions]
        · rw [Db.move_bookings, bookings]
        · rw [Db.move_bookingLineItems, items]
        · rw [Db.move_auditEvents, log, status]
      · exact alone ⟨bookings, items, log⟩
  | bound => exact alone ⟨rfl, rfl, rfl⟩
  | cancelled bookingId reason principal now _ b found status =>
      refine ⟨_, .moved _ bookingId.value b (movedRow .cancelled now) .cancelled
        ⟨.user, some principal.userId⟩ reason [] found ?_ ?_ (.inl ⟨_, rfl⟩) (by rintro ⟨⟩) rfl rfl rfl
        (by simp [selfEdges]), by simp [Txn.locks]⟩
      · rcases status with h | h <;> simp [h]
      · rcases status with h | h <;> simp [h, legalTransitions]
  | refundMinted bookingId choice now _ booking payment chargeId snapshot breakdown =>
      exact ⟨[], .idle _ [⟨bookingId, systemActor, booking.status, booking.status,
        "refund.initiated.cancellation"⟩] rfl rfl rfl (by simp [selfEdges]), by simp⟩
  | delivered => exact alone ⟨rfl, rfl, rfl⟩
  | unsupported => exact alone ⟨rfl, rfl, rfl⟩
  | lost rowId now _ u d fields e found verdict _ _ _ _ looked =>
      obtain ⟨bookings, items, log, -⟩ := findPayment_rest looked
      exact alone ⟨bookings, items, log⟩
  | applied rowId now _ u v d fields e payment r here _ read supported looked applied =>
      obtain ⟨bookings, items, log, -⟩ := findPayment_rest looked
      rcases applied.consequence.bookingChange env (.apply rowId now) with change | change
      · exact ⟨_, change.congr ⟨bookings, items, log⟩ ⟨rfl, rfl, rfl⟩, by simp⟩
      · refine ⟨_, change.congr ⟨bookings, items, log⟩ ⟨rfl, rfl, rfl⟩, ?_⟩
        simp [Txn.locks, here, read, supported, looked]
  | polledCharge payment chargeId captured now _ _ r applied =>
      rcases applied.consequence.bookingChange env
        (.settleCharge payment chargeId captured now) with change | change
      · exact ⟨_, change.congr ⟨rfl, rfl, rfl⟩ ⟨rfl, rfl, rfl⟩, by simp⟩
      · exact ⟨_, change.congr ⟨rfl, rfl, rfl⟩ ⟨rfl, rfl, rfl⟩, by simp [Txn.locks]⟩
  | polledRefund payment chargeId refundId amountMinor now _ _ applied =>
      rcases applied.consequence.bookingChange env
        (.settleRefund payment chargeId refundId amountMinor now) with change | change
      · exact ⟨_, change.congr ⟨rfl, rfl, rfl⟩ ⟨rfl, rfl, rfl⟩, by simp⟩
      · exact ⟨_, change.congr ⟨rfl, rfl, rfl⟩ ⟨rfl, rfl, rfl⟩, by simp [Txn.locks]⟩
  | explained => exact alone ⟨rfl, rfl, rfl⟩
  | refundBound => exact alone ⟨rfl, rfl, rfl⟩
  | swept now locked =>
      refine ⟨_, .expired _ _ now "hold.expired.sweeper" (staleHolds_nodup _ _ _ _)
        (fun id here => ?_) ⟨rfl, rfl, rfl⟩, fun id here => .inr (.inl here)⟩
      obtain ⟨b, found, held, lapsed, -⟩ := mem_staleHolds here
      exact ⟨b, found, by simp [stale, held, lapsed]⟩
  | policyAdded => exact alone ⟨rfl, rfl, rfl⟩

/-- **The frame.**  A row no change touched is as it was. -/
theorem BookingChange.frame {env : Env} {db db' : Db} {t : Txn} {ids : List Uuid}
    (change : BookingChange env db db' t ids) {id : Uuid} (untouched : id ∉ ids) :
    db'.bookings.get? id = db.bookings.get? id := by
  cases change with
  | idle _ _ same => rw [same]
  | moved _ id' _ _ _ _ _ _ _ _ _ _ _ same =>
      rw [same, Table.get?_modify_ne _ _ (by simpa using untouched)]
  | rearmed bookingId _ _ _ _ _ _ _ _ _ _ same =>
      rw [same, Table.get?_modify_ne _ _ (by simpa using untouched)]
  | expired _ _ _ _ _ _ same =>
      rw [same.1, Db.expire_bookings, Table.get?_update]
      simp [untouched]
  | held input ctx principal stamp expired priced bookings _ _ _ _ fresh same =>
      simp only [List.mem_cons, not_or] at untouched
      rw [same.1, Db.hold_bookings, Table.get?_insert? fresh, if_neg untouched.1, expiredView,
        Db.expire_bookings, Table.get?_update]
      simp [untouched.2]

/-- A change keeps every interval a period. -/
theorem BookingChange.proper {env : Env} {db db' : Db} {t : Txn} {ids : List Uuid}
    (change : BookingChange env db db' t ids)
    (proper : ∀ id b, db.bookings.get? id = some b → b.startsAt < b.endsAt) :
    ∀ id b, db'.bookings.get? id = some b → b.startsAt < b.endsAt := by
  intro id b found
  have expiry : ∀ ids now actor reason b, (db.expire ids now actor reason).bookings.get? id = some b →
      b.startsAt < b.endsAt := by
    intro ids now actor reason b found
    rw [Db.expire_bookings, Table.get?_update, Option.map_eq_some_iff] at found
    obtain ⟨b₀, here, rfl⟩ := found
    have order := proper id b₀ here
    split_ifs <;> exact order
  cases change with
  | idle _ _ same => exact proper id b (same ▸ found)
  | moved _ _ _ f _ _ _ _ _ _ _ move _ same =>
      rw [same, Table.get?_modify_some] at found
      obtain ⟨b₀, here, rfl⟩ := found
      have order := proper id b₀ here
      obtain ⟨-, -, -, starts, ends, -⟩ := move.sameTerms b₀
      split_ifs
      · rwa [starts, ends]
      · exact order
  | rearmed _ _ _ _ _ _ _ _ _ _ _ same =>
      rw [same, Table.get?_modify_some] at found
      obtain ⟨b₀, here, rfl⟩ := found
      have order := proper id b₀ here
      split_ifs <;> exact order
  | expired _ _ _ _ _ _ same => exact expiry _ _ _ _ b (same.1 ▸ found)
  | held input ctx principal stamp expired priced bookings _ _ _ _ fresh same =>
      rw [same.1, Db.hold_bookings, Table.get?_insert? fresh] at found
      split_ifs at found
      · cases found
        exact input.ordered
      · exact expiry _ _ _ _ b found

/-- Bookings are never deleted. -/
theorem BookingChange.kept {env : Env} {db db' : Db} {t : Txn} {ids : List Uuid}
    (change : BookingChange env db db' t ids) {id : Uuid}
    (here : (db.bookings.get? id).isSome) : (db'.bookings.get? id).isSome := by
  cases change with
  | idle _ _ same => rwa [same]
  | moved _ _ _ _ _ _ _ _ _ _ _ _ _ same => simpa [same, Table.get?_modify] using here
  | rearmed _ _ _ _ _ _ _ _ _ _ _ same => simpa [same, Table.get?_modify] using here
  | expired _ _ _ _ _ _ same => simpa [same.1] using here
  | held input ctx principal stamp expired priced bookings _ _ _ _ fresh same =>
      rw [same.1, Db.hold_bookings, Table.get?_insert? fresh]
      split_ifs
      · rfl
      · simpa [expiredView] using here

/-! ## The rows open holds have expired -/

/-- The hold transaction a process has open. -/
def Proc.holdTx : Proc → Option HoldTx
  | .holdOpen tx | .holdExpired tx .. | .holdLocked tx .. | .holdAdmitted tx .. => some tx
  | _ => none

theorem Proc.lockedBookings_eq_nil {p : Proc} (none_open : p.holdTx = none) :
    p.lockedBookings = [] := by
  cases p <;> first | rfl | cases none_open

/-- What a process has expired and not committed: stale rows, which no other process
has. -/
structure Claims (api : Api) (pid : Pid) (p : Proc) : Prop where
  started : ∀ tx, p.holdTx = some tx → tx.startedAt ≤ api.now
  nodup : p.lockedBookings.Nodup
  isStale : ∀ tx, p.holdTx = some tx → ∀ id ∈ p.lockedBookings, ∃ b,
    api.db.bookings.get? id = some b ∧ stale b tx.startedAt = true
  apart : ∀ pid' p', pid' ≠ pid → api.procs.get? pid' = some p' →
    ∀ id ∈ p.lockedBookings, id ∉ p'.lockedBookings

def RowsClaimed (api : Api) : Prop :=
  ∀ pid p, api.procs.get? pid = some p → Claims api pid p

theorem Claims.of_idle {api : Api} {pid : Pid} {p : Proc} (none_open : p.holdTx = none) :
    Claims api pid p := by
  have bare := Proc.lockedBookings_eq_nil none_open
  constructor <;> simp [none_open, bare]

theorem RowsClaimed.start (now : Instant) (db : Db) : RowsClaimed (Api.start now db) := by
  intro pid p here
  simp [Api.start] at here

/-- Claims are about the other processes, the rows, and the clock. -/
theorem Claims.congr {api api' : Api} {pid : Pid} {p q : Proc} (claims : Claims api pid p)
    (same : q.holdTx = p.holdTx) (rows : q.lockedBookings = p.lockedBookings)
    (later : api.now ≤ api'.now)
    (kept : ∀ id ∈ p.lockedBookings, api'.db.bookings.get? id = api.db.bookings.get? id)
    (others : ∀ pid' p', pid' ≠ pid → api'.procs.get? pid' = some p' →
      api.procs.get? pid' = some p' ∨ ∀ id ∈ p.lockedBookings, id ∉ p'.lockedBookings) :
    Claims api' pid q where
  started tx opened := (claims.started tx (same ▸ opened)).trans later
  nodup := rows ▸ claims.nodup
  isStale tx opened id here := by
    rw [rows] at here
    rw [kept id here]
    exact claims.isStale tx (same ▸ opened) id here
  apart pid' p' differ here id locked := by
    rw [rows] at locked
    rcases others pid' p' differ here with before | free
    · exact claims.apart pid' p' differ before id locked
    · exact free id locked

/-- A process that moves on keeps every claim, if its own new state is claimed. -/
theorem RowsClaimed.become {api : Api} (claimed : RowsClaimed api) {pid : Pid} {p : Option Proc}
    (fresh : ∀ q, p = some q → Claims api pid q) : RowsClaimed (api.become pid p) := by
  intro pid' q here
  rw [Api.become_procs] at here
  by_cases own : pid' = pid
  · subst own
    rw [if_pos rfl] at here
    refine (fresh q here).congr rfl rfl (by simp) (by simp) fun pid'' p'' differ there => .inl ?_
    rwa [Api.become_procs, if_neg differ] at there
  · rw [if_neg own] at here
    refine (claimed pid' q here).congr rfl rfl (by simp) (by simp) fun pid'' p'' differ there => ?_
    rw [Api.become_procs] at there
    by_cases own' : pid'' = pid
    · subst own'
      rw [if_pos rfl] at there
      exact .inr fun id locked locked' => (fresh p'' there).apart pid' q own here id locked' locked
    · rw [if_neg own'] at there
      exact .inl there

theorem RowsClaimed.requests {api : Api} (claimed : RowsClaimed api) (cs : List ChargeRequest)
    (rs : List RefundInstruction) :
    RowsClaimed { api with chargeRequests := cs, refundRequests := rs } :=
  fun pid p here => (claimed pid p here).congr rfl rfl le_rfl (by simp) fun _ _ _ there => .inl there

theorem Outcome.next_holdTx {out : Outcome} {p : Proc} (next : out.next = some p) :
    p.holdTx = none := by
  cases out <;> simp only [Outcome.next, reduceCtorEq, Option.some.injEq,
    Option.ite_none_left_eq_some] at next
  · subst next; rfl
  · subst next; rfl
  · rw [← next.2]; rfl

theorem Commits.retry_holdTx {api : Api} {a : Action} {c : Commit} (commits : Commits api a c)
    {p : Proc} (retry : c.retry = some p) : p.holdTx = none := by
  cases commits <;> cases retry
  rfl

/-- The rows a commit may touch are no other process's. -/
theorem Commits.free {api : Api} {a : Action} {c : Commit} (commits : Commits api a c)
    (claimed : RowsClaimed api) (free : api.rowsFree c.pid (c.txn.locks api.db) = true)
    {id : Uuid} (touched : id ∈ c.txn.locks api.db ∨ id ∈ c.txn.expires api.db ∨
      api.db.bookings.get? id = none) {pid : Pid} {p : Proc} (other : c.pid ≠ some pid)
    (here : api.procs.get? pid = some p) : id ∉ p.lockedBookings := by
  intro locked
  rcases touched with row | row | absent
  · exact Api.rowsFree_iff.mp free pid p other here id locked row
  · cases commits with
    | hold pid' id' now tx expired types priced own _ =>
        exact (claimed pid' _ own).apart pid p (fun same => other (by rw [same])) here id row locked
    | sweep now _ =>
        obtain ⟨_, _, _, _, unlocked⟩ := mem_staleHolds row
        exact unlocked (Api.mem_lockedRows.mpr ⟨pid, p, here, locked⟩)
    | _ => cases row
  · cases opened : p.holdTx with
    | none =>
        rw [Proc.lockedBookings_eq_nil opened] at locked
        cases locked
    | some tx =>
        obtain ⟨b, found, -⟩ := (claimed pid p here).isStale tx opened id locked
        rw [absent] at found
        cases found

theorem Commits.expiriesStale {api : Api} {a : Action} {c : Commit} (commits : Commits api a c)
    (claimed : RowsClaimed api) : c.txn.expiriesStale api.db := by
  cases commits with
  | hold pid id now tx expired locked priced here _ =>
      exact ⟨(claimed pid _ here).nodup, (claimed pid _ here).isStale tx rfl⟩
  | _ => trivial

theorem step_claimed {env : Env} (a : Action) (api api' : Api) (stepped : step env a api = some api')
    (claimed : RowsClaimed api) : RowsClaimed api' := by
  cases step_cases stepped with
  | committed c out db' enabled free ran =>
      have commits := commit_cases enabled
      obtain ⟨ids, change, own⟩ := (Txn.run_effect ran).bookingChange (commits.expiriesStale claimed)
      intro pid p here
      rw [Api.resume_procs] at here
      by_cases owner : c.pid = some pid
      · rw [if_pos owner] at here
        exact .of_idle (Outcome.next_holdTx here)
      · rw [if_neg owner] at here
        refine (claimed pid p here).congr rfl rfl (by simp) ?_ ?_
        · intro id locked
          rw [Api.resume_db]
          exact change.frame fun touched =>
            commits.free claimed free (own id touched) owner here locked
        · intro pid' p' _ there
          rw [Api.resume_procs] at there
          split at there
          · refine .inr fun id _ => ?_
            simp [Proc.lockedBookings_eq_nil (Outcome.next_holdTx there)]
          · exact .inl there
  | aborted c _ enabled =>
      cases owner : c.pid with
      | none => exact claimed
      | some pid =>
          exact claimed.become fun q retry => .of_idle ((commit_cases enabled).retry_holdTx retry)
  | unshared _ moved =>
      cases moved with
      | ticked ms =>
          intro pid p here
          exact (claimed pid p here).congr rfl rfl (by simp) (by simp) fun _ _ _ there => .inl there
      | holdOpened pid input principal ctx idle read =>
          refine claimed.become fun q same => ?_
          cases same
          exact ⟨fun tx opened => by cases opened; exact le_rfl, List.nodup_nil, by simp [Proc.lockedBookings],
            by simp [Proc.lockedBookings]⟩
      | holdExpired pid tx here roomFree rowsFree =>
          refine claimed.become fun q same => ?_
          cases same
          refine ⟨fun tx' opened => ?_, ?_, fun tx' opened id stale' => ?_,
            fun pid' p' differ there id mine theirs => ?_⟩
          · cases opened
            exact (claimed pid _ here).started tx rfl
          · exact api.db.bookings.unique.sublist (List.filter_sublist.map Prod.fst)
          · cases opened
            obtain ⟨b, found, -, held, lapsed⟩ := mem_staleHoldsOfRoom.mp stale'
            exact ⟨b, found, by simp [stale, held, lapsed]⟩
          · exact Api.rowsFree_iff.mp rowsFree pid' p' (by simpa using differ.symm) there id theirs mine
      | holdBare pid tx expired here _ =>
          refine claimed.become fun q same => ?_
          cases same
          exact (claimed pid _ here).congr rfl rfl le_rfl (by simp) fun _ _ _ there => .inl there
      | holdLocked pid tx expired locked here _ _ =>
          refine claimed.become fun q same => ?_
          cases same
          exact (claimed pid _ here).congr rfl rfl le_rfl (by simp) fun _ _ _ there => .inl there
      | holdAdmitted pid tx expired locked priced here _ =>
          refine claimed.become fun q same => ?_
          cases same
          exact (claimed pid _ here).congr rfl rfl le_rfl (by simp) fun _ _ _ there => .inl there
      | ended a pid =>
          refine claimed.become fun q same => ?_
          cases same
      | charged pid request paymentId _ =>
          refine (claimed.become (p := some (.charged request paymentId)) fun q same => ?_).requests _ _
          cases same
          exact .of_idle rfl
      | refundSent pid instruction _ =>
          refine (claimed.become (p := some (.refundSent instruction)) fun q same => ?_).requests _ _
          cases same
          exact .of_idle rfl
      | _ =>
          refine claimed.become fun q same => ?_
          cases same
          exact .of_idle rfl

theorem claimed_of_reachable {env : Env} {now : Instant} {db : Db} {api : Api}
    (reached : Reachable (step env) (Api.start now db) api) : RowsClaimed api :=
  reached.invariant (RowsClaimed.start now db) step_claimed

/-- **What a step does to bookings.** -/
theorem step_bookings {env : Env} {a : Action} {api api' : Api} (claimed : RowsClaimed api)
    (stepped : step env a api = some api') :
    api'.db = api.db ∨ ∃ c out ids, Commits api a c ∧ Effect env c.txn api.db api'.db out ∧
      BookingChange env api.db api'.db c.txn ids := by
  rcases step_db stepped with same | ⟨c, out, commits, -, effect⟩
  · exact .inl same
  · obtain ⟨ids, change, -⟩ := effect.bookingChange (commits.expiriesStale claimed)
    exact .inr ⟨c, out, ids, commits, effect, change⟩

end Atrium
