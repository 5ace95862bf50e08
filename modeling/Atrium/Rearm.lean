/-
# Rearm -- how often and how far a hold is re-armed

`checkout` tests the limit against a row it read without a lock and writes the
counter from the value it read.  `RearmsBounded` is what the two limits promise of
a booking; it holds along every run whose re-arms commit over the count they read,
and a re-arm that commits over another one breaks it.
-/
import Atrium.BookingRead

namespace Atrium

open Atrium.Base

set_option autoImplicit false

/-! ## The promise -/

/-- An audit row of a re-arm of this booking. -/
def isRearm (id : Uuid) (row : AuditEvent) : Bool :=
  decide (row.bookingId = id ∧ row.fromState = row.toState ∧ row.reason = "hold.rearmed")

def rearmRows (db : Db) (id : Uuid) : List AuditEvent := db.auditEvents.filter (isRearm id)

/-- The latest instant a booking's deadline may reach. -/
def lifetimeCap (env : Env) (createdAt : Instant) : Instant :=
  createdAt + env.maxHoldLifetimeSeconds * 1000

structure RearmsBounded (env : Env) (db : Db) (id : Uuid) (b : Booking) : Prop where
  counted : ((rearmRows db id).length : Int) = b.rearmCount
  within : b.rearmCount ≤ env.maxHoldRearms
  capped : ∀ t, b.expiresAt = some t → t ≤ lifetimeCap env b.createdAt

/-- Every booking is within its bounds, and what is not booked was never re-armed. -/
structure Rearmed (env : Env) (db : Db) : Prop where
  bookings : ∀ id b, db.bookings.get? id = some b → RearmsBounded env db id b
  absent : ∀ id, db.bookings.get? id = none → rearmRows db id = []

/-! ## The condition -/

/-- A re-arm finds the count it read; a hold's own deadline is within the cap. -/
def Txn.rearmsInTurn (env : Env) (db : Db) : Txn → Bool
  | .checkout bookingId _ booking now =>
      (db.bookings.get? bookingId.value).all fun b =>
        decide (b.status ∈ [.held, .pendingPayment] ∧ booking.lapsedAt now = false ∧
          booking.rearmCount < env.maxHoldRearms ∧ now < lifetimeCap env booking.createdAt →
          b.rearmCount = booking.rearmCount)
  | .hold _ _ _ stamp _ _ =>
      decide (stamp.now + env.holdTtlSeconds * 1000 ≤ lifetimeCap env stamp.startedAt)
  | _ => true

def rearmsInTurn (env : Env) (a : Action) (api : Api) : Prop :=
  (a.commit? api).all fun c => c.txn.rearmsInTurn env api.db

instance (env : Env) (a : Action) (api : Api) : Decidable (rearmsInTurn env a api) :=
  inferInstanceAs (Decidable (_ = true))

/-! ## What a commit adds to the log -/

theorem rearmRows_append {db db' : Db} {rows : List AuditEvent}
    (log : db'.auditEvents = db.auditEvents ++ rows) (id : Uuid) :
    rearmRows db' id = rearmRows db id ++ rows.filter (isRearm id) := by
  rw [rearmRows, log, List.filter_append, rearmRows]

theorem rearmRows_other {db db' : Db} {rows : List AuditEvent}
    (log : db'.auditEvents = db.auditEvents ++ rows)
    (other : ∀ row ∈ rows, row.fromState ≠ row.toState ∨ row.reason ≠ "hold.rearmed") (id : Uuid) :
    rearmRows db' id = rearmRows db id := by
  have none_ : rows.filter (isRearm id) = [] := by
    refine List.filter_eq_nil_iff.mpr fun row among => ?_
    rcases other row among with differ | reason
    · simp [isRearm, differ]
    · simp [isRearm, reason]
  rw [rearmRows_append log, none_, List.append_nil]

theorem expire_rearmRows (db : Db) (ids : List Uuid) (now : Instant) (actor : Actor)
    (reason : String) (id : Uuid) :
    rearmRows (db.expire ids now actor reason) id = rearmRows db id := by
  refine rearmRows_other rfl (fun row among => ?_) id
  obtain ⟨expired, -, rfl⟩ := List.mem_map.mp among
  exact .inl nofun

theorem Consequence.rearmRows {payment : Uuid × Payment} {e : WebhookEvent} {now : Instant}
    {db db' : Db} {r : Option RefundInstruction} (consequence : Consequence payment e now db r db')
    (id : Uuid) : rearmRows db' id = rearmRows db id := by
  cases consequence with
  | late b _ _ _ _ =>
      by_cases pending : b.status = .pendingPayment
      · refine @rearmRows_other _ _ [⟨payment.2.bookingId, systemActor, .pendingPayment,
          .expired, "hold.expired.payment_arrived_late"⟩, ⟨payment.2.bookingId, systemActor, b.status,
            b.status, "refund.initiated.unconfirmable_hold"⟩] ?_ (by simp) id
        simp [lateCharge, pending]
      · refine @rearmRows_other _ _ [⟨payment.2.bookingId, systemActor, b.status,
          b.status, "refund.initiated.unconfirmable_hold"⟩] ?_ (by simp) id
        simp [lateCharge, pending]
  | confirmed => exact rearmRows_other rfl (by simp) id
  | declined => exact rearmRows_other rfl (by simp) id
  | declinedIdle => rfl
  | refunded => exact rearmRows_other rfl (by simp) id
  | refundedTerminal => exact rearmRows_other rfl (by simp) id
  | refundedOrphan => rfl

/-- **Only a re-arm adds a re-arm's row.** -/
theorem Effect.rearmRows {env : Env} {t : Txn} {db db' : Db} {out : Outcome}
    (effect : Effect env t db db' out) :
    (∀ id, rearmRows db' id = rearmRows db id) ∨
      ∃ bookingId principal booking now b,
        t = .checkout bookingId principal booking now ∧ booking.lapsedAt now = false ∧
        booking.rearmCount < env.maxHoldRearms ∧ now < lifetimeCap env booking.createdAt ∧
        db.bookings.get? bookingId.value = some b ∧ b.status ∈ [.held, .pendingPayment] ∧
        db'.bookings = db.bookings.modify bookingId.value (Atrium.rearmed env booking now) ∧
        ∀ id, Atrium.rearmRows db' id = Atrium.rearmRows db id ++
          if id = bookingId.value then
            [⟨bookingId.value, ⟨.user, some principal.userId⟩, b.status, b.status, "hold.rearmed"⟩]
          else [] := by
  cases effect with
  | rearmed bookingId principal booking now _ b live rearms capped found status =>
      refine .inr ⟨bookingId, principal, booking, now, b, rfl, live, rearms, capped, found, status,
        rfl, fun id => ?_⟩
      rw [@rearmRows_append db _ [⟨bookingId.value, ⟨.user, some principal.userId⟩, b.status,
        b.status, "hold.rearmed"⟩] rfl]
      by_cases own : id = bookingId.value
      · simp [isRearm, own]
      · simp [isRearm, own, Ne.symm own]
  | held input ctx principal stamp expired priced _ bookings =>
      refine .inl fun id => ?_
      rw [@rearmRows_other (expiredView db stamp expired) _ _ rfl (by simp) id]
      exact expire_rearmRows _ _ _ _ _ id
  | paid bookingId principal booking existing stamp _ recorded _ payment inserted found moved =>
      refine .inl fun id => ?_
      have same : Atrium.rearmRows recorded id = Atrium.rearmRows db id := by
        unfold Atrium.rearmRows
        rw [inserted.rest.2.2.1]
      rcases moved with ⟨-, -, -, rfl⟩ | ⟨-, rfl⟩
      · rw [← same]
        exact rearmRows_other rfl (by simp) id
      · exact same
  | cancelled bookingId reason principal now _ b found status =>
      refine .inl fun id => rearmRows_other rfl (fun row among => .inl ?_) id
      rw [List.mem_singleton.mp among]
      rcases status with held | confirmed
      · simp [held]
      · simp [confirmed]
  | refundMinted => exact .inl fun id => rearmRows_other rfl (by simp) id
  | lost rowId now _ u d fields e found verdict _ _ _ _ looked =>
      refine .inl fun id => ?_
      unfold Atrium.rearmRows
      rw [Db.modifyDelivery_auditEvents, (findPayment_rest looked).2.2.1]
  | applied rowId now _ u v d fields e payment r _ _ _ _ looked applied =>
      refine .inl fun id => (applied.consequence.rearmRows id).trans ?_
      unfold Atrium.rearmRows
      rw [Db.claim_auditEvents, (findPayment_rest looked).2.2.1]
  | polledCharge payment chargeId captured now _ _ r applied =>
      exact .inl fun id => applied.consequence.rearmRows id
  | polledRefund payment chargeId refundId amountMinor now _ _ applied =>
      exact .inl fun id => applied.consequence.rearmRows id
  | swept now locked _ => exact .inl fun id => expire_rearmRows _ _ _ _ _ id
  | _ => exact .inl fun _ => rfl

/-! ## What a commit does to the bounds -/

/-- A row that keeps its count and creation, and its deadline unless it loses it. -/
def Booking.sameRearms (b b' : Booking) : Prop :=
  b'.rearmCount = b.rearmCount ∧ b'.createdAt = b.createdAt ∧
    (b'.expiresAt = b.expiresAt ∨ b'.expiresAt = none)

theorem RearmsBounded.keep {env : Env} {db db' : Db} {id : Uuid} {b b' : Booking}
    (bounded : RearmsBounded env db id b) (same : b.sameRearms b')
    (log : rearmRows db' id = rearmRows db id) : RearmsBounded env db' id b' := by
  obtain ⟨count, created, deadline⟩ := same
  refine ⟨by rw [log, count, bounded.counted], by rw [count]; exact bounded.within, fun t due => ?_⟩
  rw [created]
  rcases deadline with same | gone
  · exact bounded.capped t (same ▸ due)
  · rw [gone] at due
    cases due

/-- A change that is no re-arm: every row was there with the same count, or is a
hold's own. -/
theorem BookingChange.sameRearms {env : Env} {db db' : Db} {t : Txn} {ids : List Uuid}
    (change : BookingChange env db db' t ids)
    (log : ∀ id, rearmRows db' id = rearmRows db id) {id : Uuid} {b' : Booking}
    (found : db'.bookings.get? id = some b') :
    (∃ b, db.bookings.get? id = some b ∧ b.sameRearms b') ∨
      ∃ input ctx principal stamp expired priced,
        t = .hold input ctx principal stamp expired priced ∧
        b' = heldRow env input ctx principal stamp priced ∧ db.bookings.get? id = none := by
  have expiry : ∀ ids now actor reason b',
      (db.expire ids now actor reason).bookings.get? id = some b' →
      ∃ b, db.bookings.get? id = some b ∧ b.sameRearms b' := by
    intro ids now actor reason b' found
    rw [Db.expire_bookings, Table.get?_update, Option.map_eq_some_iff] at found
    obtain ⟨b, here, rfl⟩ := found
    refine ⟨b, here, ?_⟩
    split_ifs <;> exact ⟨rfl, rfl, .inl rfl⟩
  cases change with
  | idle _ _ same => exact .inl ⟨b', same ▸ found, rfl, rfl, .inl rfl⟩
  | moved _ _ _ f _ _ _ _ _ _ _ move _ same =>
      rw [same, Table.get?_modify_some] at found
      obtain ⟨b, here, rfl⟩ := found
      refine .inl ⟨b, here, ?_⟩
      split_ifs
      · rcases move with ⟨now, rfl⟩ | ⟨-, snapshot, now, rfl⟩
        · exact ⟨rfl, rfl, .inl rfl⟩
        · exact ⟨rfl, rfl, .inr rfl⟩
      · exact ⟨rfl, rfl, .inl rfl⟩
  | rearmed bookingId _ booking b _ _ _ _ _ _ _ _ _ added =>
      have grown := rearmRows_append added bookingId.value
      rw [log] at grown
      simp [isRearm] at grown
  | expired _ _ _ _ _ _ same => exact .inl (expiry _ _ _ _ b' (same.1 ▸ found))
  | held input ctx principal stamp expired priced bookings _ _ _ _ fresh same =>
      rw [same.1, Db.hold_bookings, Table.get?_insert? fresh] at found
      split_ifs at found with own
      · subst own
        cases found
        have absent := (Table.insert?_some fresh).1
        refine .inr ⟨input, ctx, principal, stamp, expired, priced, rfl, rfl, ?_⟩
        simpa [expiredView] using absent
      · exact .inl (expiry _ _ _ _ b' found)

/-- The bounds of the row a re-arm in turn leaves. -/
theorem RearmsBounded.rearm {env : Env} {db db' : Db} {id : Uuid} {b booking : Booking}
    {now : Instant} {row : AuditEvent} (bounded : RearmsBounded env db id b)
    (count : b.rearmCount = booking.rearmCount) (created : booking.createdAt = b.createdAt)
    (rearms : booking.rearmCount < env.maxHoldRearms)
    (log : rearmRows db' id = rearmRows db id ++ [row]) :
    RearmsBounded env db' id (rearmed env booking now b) := by
  refine ⟨?_, rearms, fun t due => ?_⟩
  · rw [log, List.length_append, Nat.cast_add, bounded.counted, count]
    rfl
  · simp only [rearmed, Option.some.injEq] at due ⊢
    rw [← due, lifetimeCap, ← created]
    exact min_le_right _ _

/-- **A commit in turn keeps the bounds.** -/
theorem Rearmed.committed {env : Env} {a : Action} {api : Api} {c : Commit} {out : Outcome}
    {db' : Db} (bounded : Rearmed env api.db) (claimed : RowsClaimed api) (reads : ReadsStand api)
    (commits : Commits api a c) (effect : Effect env c.txn api.db db' out)
    (inTurn : c.txn.rearmsInTurn env api.db = true) (configured : 0 ≤ env.maxHoldRearms) :
    Rearmed env db' := by
  obtain ⟨ids, change, -⟩ := effect.bookingChange (commits.expiriesStale claimed)
  have gone : ∀ id, db'.bookings.get? id = none → api.db.bookings.get? id = none := by
    intro id absent
    cases here : api.db.bookings.get? id with
    | none => rfl
    | some b =>
        obtain ⟨b', kept, -⟩ := change.bookingsKept id b here
        rw [absent] at kept
        cases kept
  rcases effect.rearmRows with log | ⟨bookingId, principal, booking, now, b, txn, live, rearms,
    capped, found, status, updated, log⟩
  · constructor
    · intro id b' found
      rcases change.sameRearms log found with ⟨b, here, same⟩ |
        ⟨input, ctx, principal, stamp, expired, priced, txn, rfl, absent⟩
      · exact (bounded.bookings id b here).keep same (log id)
      · rw [txn] at inTurn
        simp only [Txn.rearmsInTurn, decide_eq_true_eq] at inTurn
        refine ⟨by rw [log, bounded.absent id absent]; rfl, configured, fun t due => ?_⟩
        cases due
        exact inTurn
    · exact fun id absent => by rw [log, bounded.absent id (gone id absent)]
  · have created : booking.createdAt = b.createdAt := by
      cases commits <;> cases txn
      rename_i pid startedAt here _
      obtain ⟨b₀, stored, terms⟩ := reads pid _ _ here rfl
      rw [found] at stored
      cases stored
      exact terms.2.2.2.2.2.2.2.symm
    rw [txn] at inTurn
    have count : b.rearmCount = booking.rearmCount := by
      simp only [Txn.rearmsInTurn, found, Option.all_some, decide_eq_true_eq] at inTurn
      exact inTurn ⟨status, live, rearms, capped⟩
    constructor
    · intro id b' found'
      rw [updated, Table.get?_modify_some] at found'
      obtain ⟨b₀, here, rfl⟩ := found'
      by_cases own : id = bookingId.value
      · subst own
        rw [found] at here
        cases here
        rw [if_pos rfl]
        exact (bounded.bookings _ b found).rearm count created rearms (by rw [log, if_pos rfl])
      · rw [if_neg own]
        refine (bounded.bookings id b₀ here).keep ⟨rfl, rfl, .inl rfl⟩ ?_
        rw [log, if_neg own, List.append_nil]
    · intro id absent
      have other : id ≠ bookingId.value := by
        rintro rfl
        rw [gone _ absent] at found
        cases found
      rw [log, if_neg other, List.append_nil, bounded.absent id (gone id absent)]

/-! ## Runs -/

structure RearmsSafe (env : Env) (api : Api) : Prop where
  claimed : RowsClaimed api
  reads : ReadsStand api
  bounded : Rearmed env api.db

theorem step_rearmsSafe {env : Env} (configured : 0 ≤ env.maxHoldRearms) (a : Action)
    (api api' : Api) (stepped : step env a api = some api') (inTurn : rearmsInTurn env a api)
    (safe : RearmsSafe env api) : RearmsSafe env api' := by
  obtain ⟨claimed, reads⟩ := step_readsStand a api api' stepped ⟨safe.claimed, safe.reads⟩
  refine ⟨claimed, reads, ?_⟩
  cases step_cases stepped with
  | committed c out db' enabled free ran =>
      rw [Api.resume_db]
      refine safe.bounded.committed safe.claimed safe.reads (commit_cases enabled)
        (Txn.run_effect ran) ?_ configured
      simpa [rearmsInTurn, enabled] using inTurn
  | aborted => simpa using safe.bounded
  | unshared _ moved => simpa [moved.db] using safe.bounded

theorem Db.Fresh.rearmsSafe {db : Db} (fresh : db.Fresh) (env : Env) (now : Instant) :
    RearmsSafe env (Api.start now db) := by
  obtain ⟨bookings, -, -, -, -, log⟩ := fresh
  refine ⟨.start now db, .start now db, ?_, ?_⟩
  · simp [Api.start, bookings]
  · simp [Api.start, rearmRows, log]

/-- **Re-arms stay bounded** along every run whose re-arms commit over the count they
read and whose holds start within the cap. -/
theorem rearms_bounded {env : Env} (configured : 0 ≤ env.maxHoldRearms) {now : Instant} {db : Db}
    (fresh : db.Fresh) {api : Api}
    (reached : ReachableAlong (step env) (rearmsInTurn env) (Api.start now db) api) (id : Uuid) :
    ((rearmRows api.db id).length : Int) ≤ env.maxHoldRearms ∧
      ∀ b, api.db.bookings.get? id = some b →
        ((rearmRows api.db id).length : Int) = b.rearmCount ∧
          ∀ t, b.expiresAt = some t → t ≤ b.createdAt + env.maxHoldLifetimeSeconds * 1000 := by
  have safe := reached.invariant (fresh.rearmsSafe env now) (step_rearmsSafe configured)
  refine ⟨?_, fun b here => ?_⟩
  · cases here : api.db.bookings.get? id with
    | none => simpa [safe.bounded.absent id here] using configured
    | some b =>
        have bounded := safe.bounded.bookings id b here
        rw [bounded.counted]
        exact bounded.within
  · have bounded := safe.bounded.bookings id b here
    exact ⟨bounded.counted, bounded.capped⟩

/-- A hold re-armed twice, one after the other. -/
def rearmedTwice : List Action :=
  Sample.holding 0 Sample.hold 7 0 ++
    [.checkoutBegin 1 (Uuid.path 7) Sample.customer, .checkoutCommit 1 0,
      .checkoutBegin 2 (Uuid.path 7) Sample.customer, .checkoutCommit 2 0]

theorem rearms_bounded_twice : ∃ api,
    run (step .default) rearmedTwice (Api.start 0 Sample.db) = some api ∧
      Along (step .default) (rearmsInTurn .default) rearmedTwice (Api.start 0 Sample.db) ∧
      (rearmRows api.db 7).length = 2 ∧ ((rearmRows api.db 7).length : Int) ≤ 2 := by
  have ran : ((run (step .default) rearmedTwice (Api.start 0 Sample.db)).map fun api =>
      (rearmRows api.db 7).length) = some 2 := by
    decide +kernel
  have along : Along (step .default) (rearmsInTurn .default) rearmedTwice
      (Api.start 0 Sample.db) := by
    decide +kernel
  obtain ⟨api, ran, rows⟩ := Option.map_eq_some_iff.mp ran
  exact ⟨api, ran, along, rows,
    (rearms_bounded (by decide) Sample.db_fresh ⟨rearmedTwice, ran, along⟩ 7).1⟩

/-! ## Overlapping re-arms -/

/-- Three checkouts that read the row before any of them commits. -/
def rearmedAtOnce : List Action :=
  Sample.holding 0 Sample.hold 7 0 ++
    [.checkoutBegin 1 (Uuid.path 7) Sample.customer, .checkoutBegin 2 (Uuid.path 7) Sample.customer,
      .checkoutBegin 3 (Uuid.path 7) Sample.customer,
      .checkoutCommit 1 0, .checkoutCommit 2 0, .checkoutCommit 3 0]

/-- **Re-armed beyond the limit**: three re-arms under a limit of two, counted as one. -/
theorem rearmed_beyond : ¬ ∀ (env : Env), 0 ≤ env.maxHoldRearms → ∀ (now : Instant) (db : Db),
    db.Fresh → ∀ api, Reachable (step env) (Api.start now db) api → ∀ id,
      ((rearmRows api.db id).length : Int) ≤ env.maxHoldRearms ∧
        ∀ b, api.db.bookings.get? id = some b →
          ((rearmRows api.db id).length : Int) = b.rearmCount ∧
            ∀ t, b.expiresAt = some t → t ≤ b.createdAt + env.maxHoldLifetimeSeconds * 1000 := by
  intro claim
  have ran : ((run (step .default) rearmedAtOnce (Api.start 0 Sample.db)).map fun api =>
      ((rearmRows api.db 7).length, (api.db.bookings.get? 7).map Booking.rearmCount)) =
        some (3, some 1) := by
    decide +kernel
  obtain ⟨api, ran, rows⟩ := Option.map_eq_some_iff.mp ran
  simp only [Prod.mk.injEq] at rows
  have bound := (claim .default (by decide) 0 Sample.db Sample.db_fresh api
    ⟨rearmedAtOnce, ran⟩ 7).1
  rw [rows.1] at bound
  exact absurd bound (by decide)

end Atrium
