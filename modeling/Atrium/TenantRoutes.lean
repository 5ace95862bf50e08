/-
# TenantRoutes -- every statement of a tenant's request, confined

A request acts for a tenant, the one its token names.  `Holding` is what a request may rely
on between its statements: the database is consistent, and its titles hold.  Nobody's
statement takes that away.  For each function of the tenants'
routes there is one lemma here: from a database where the titles it rests on hold, it is
confined to its tenant, and leaves every title standing.
-/
import Atrium.Reports
import Atrium.Tenants

namespace Atrium

open Atrium.Base

set_option autoImplicit false

/-! ## Tenants -/

/-- The tenant a token names: a venue for its staff and admins, the user for a customer. -/
def AuthPrincipal.tenant (principal : AuthPrincipal) : Option Scope :=
  match principal.role, principal.venueId with
  | .customer, _ => some (.user principal.userId)
  | .venueAdmin, some venueId | .venueStaff, some venueId => some (.venue venueId)
  | _, _ => none

structure Tenant where
  principal : AuthPrincipal
  scope : Scope
  named : principal.tenant = some scope

namespace Tenant

variable (t : Tenant)

/-- The token of a tenant, by its role. -/
theorem cases_role : (t.principal.role = .customer ∧ t.scope = .user t.principal.userId) ∨
    ((t.principal.role = .venueAdmin ∨ t.principal.role = .venueStaff) ∧
      ∃ venueId, t.principal.venueId = some venueId ∧ t.scope = .venue venueId) := by
  obtain ⟨⟨userId, role, venueId⟩, scope, named⟩ := t
  cases role <;> cases venueId <;> cases named <;> simp

theorem bookingScope (b : Booking) : bookingScope t.principal b = .ok (t.scope.owns b) := by
  rcases t.cases_role with ⟨role, scope⟩ | ⟨role | role, venueId, venue, scope⟩ <;>
    simp only [Atrium.bookingScope, Scope.owns, *]

theorem paymentScope : paymentScope t.principal = t.scope.owns := by
  funext b
  rcases t.cases_role with ⟨role, scope⟩ | ⟨role | role, venueId, venue, scope⟩ <;>
    simp only [Atrium.paymentScope, Scope.owns, *]

theorem scopeFilter : scopeFilter t.principal = pure t.scope.owns := by
  rcases t.cases_role with ⟨role, scope⟩ | ⟨role | role, venueId, venue, scope⟩ <;>
    simp only [Atrium.scopeFilter, *] <;> rfl

/-- Both tenant filters look a booking up under the tenant. -/
def load (S : Scope) (id : Uuid) : Transaction Booking :=
  Tx.fetch (fun db => (db.bookings.get? id).filter S.owns) (.notFound "Not Found")

theorem loadOwnedBooking (bookingId : UuidText) :
    loadOwnedBooking bookingId t.principal = load t.scope bookingId.value := by
  funext db
  simp only [Atrium.loadOwnedBooking, load, Tx.fetch]
  cases db.bookings.get? bookingId.value with
  | none =>
      rcases t.cases_role with ⟨role, scope⟩ | ⟨role | role, venueId, venue, scope⟩ <;>
        simp only [Option.filter, *]
  | some b =>
      simp only [t.bookingScope, Option.filter]
      cases t.scope.owns b <;> rfl

theorem loadOwned (bookingId : UuidText) :
    loadOwned bookingId t.principal = load t.scope bookingId.value := by
  simp only [Atrium.loadOwned, load, t.paymentScope]

end Tenant

/-! ## What a request may rely on -/

/-- The payment is there, and of a booking of the tenant's. -/
def Db.paidBy (db : Db) (S : Scope) (paymentId : Uuid) : Prop :=
  ∃ p, db.payments.get? paymentId = some p ∧ S.holds db.bookings p.bookingId = true

/-- Whose what is: bookings that are a tenant's if they are there, bookings that are
there and a tenant's, and payments of a tenant's bookings. -/
structure Titles where
  named : Set (Scope × Uuid)
  bookings : Set (Scope × Uuid)
  payments : Set (Scope × Uuid)

namespace Titles

def none : Titles := ⟨∅, ∅, ∅⟩

def name (C : Titles) (S : Scope) (id : Uuid) : Titles := { C with named := insert (S, id) C.named }

def book (C : Titles) (S : Scope) (id : Uuid) : Titles :=
  { C with bookings := insert (S, id) C.bookings }

def pay (C : Titles) (S : Scope) (id : Uuid) : Titles :=
  { C with payments := insert (S, id) C.payments }

/-- The claims of both. -/
def and (C D : Titles) : Titles :=
  ⟨C.named ∪ D.named, C.bookings ∪ D.bookings, C.payments ∪ D.payments⟩

end Titles

/-- The database is consistent, and the titles hold. -/
structure Holding (C : Titles) (db : Db) : Prop where
  consistent : Consistent db
  named : ∀ c ∈ C.named, (db.bookings.get? c.2).all c.1.owns = true
  booked : ∀ c ∈ C.bookings, c.1.holds db.bookings c.2 = true
  paid : ∀ c ∈ C.payments, db.paidBy c.1 c.2

namespace Holding

variable {C D : Titles} {db db' : Db} {S : Scope} {id : Uuid}

theorem none_iff : Holding .none db ↔ Consistent db :=
  ⟨consistent, fun consistent => ⟨consistent, by simp [Titles.none], by simp [Titles.none],
    by simp [Titles.none]⟩⟩

theorem and_iff : Holding (C.and D) db ↔ Holding C db ∧ Holding D db := by
  constructor
  · intro holding
    exact ⟨⟨holding.consistent, fun c among => holding.named c (.inl among),
        fun c among => holding.booked c (.inl among), fun c among => holding.paid c (.inl among)⟩,
      ⟨holding.consistent, fun c among => holding.named c (.inr among),
        fun c among => holding.booked c (.inr among), fun c among => holding.paid c (.inr among)⟩⟩
  · rintro ⟨left, right⟩
    exact ⟨left.consistent, fun c among => among.elim (left.named c) (right.named c),
      fun c among => among.elim (left.booked c) (right.booked c),
      fun c among => among.elim (left.paid c) (right.paid c)⟩

theorem of_book (holding : Holding (C.book S id) db) : Holding C db :=
  ⟨holding.consistent, holding.named, fun c among => holding.booked c (.inr among), holding.paid⟩

theorem of_pay (holding : Holding (C.pay S id) db) : Holding C db :=
  ⟨holding.consistent, holding.named, holding.booked, fun c among => holding.paid c (.inr among)⟩

theorem book (holding : Holding C db) (own : S.holds db.bookings id = true) :
    Holding (C.book S id) db := by
  refine ⟨holding.consistent, holding.named, ?_, holding.paid⟩
  rintro c (rfl | among)
  · exact own
  · exact holding.booked c among

theorem pay (holding : Holding C db) (own : db.paidBy S id) : Holding (C.pay S id) db := by
  refine ⟨holding.consistent, holding.named, holding.booked, ?_⟩
  rintro c (rfl | among)
  · exact own
  · exact holding.paid c among

theorem only_book (holding : Holding (C.book S id) db) : Holding (Titles.none.book S id) db :=
  (none_iff.mpr holding.consistent).book (holding.booked _ (Set.mem_insert _ _))

theorem only_pay (holding : Holding C db) (own : db.paidBy S id) :
    Holding (Titles.none.pay S id) db :=
  (none_iff.mpr holding.consistent).pay own

/-- Titles read the bookings and the payments. -/
theorem of_eq (holding : Holding C db) (consistent : Consistent db')
    (bookings : db'.bookings = db.bookings) (payments : db'.payments = db.payments) :
    Holding C db' := by
  refine ⟨consistent, fun c among => ?_, fun c among => ?_, fun c among => ?_⟩
  · rw [bookings]
    exact holding.named c among
  · rw [bookings]
    exact holding.booked c among
  · unfold Db.paidBy
    rw [bookings, payments]
    exact holding.paid c among

theorem modifyBooking (holding : Holding C db) (id : Uuid) {f : Booking → Booking}
    (owner : ∀ b, (f b).venueId = b.venueId ∧ (f b).roomId = b.roomId ∧
      (f b).userId = b.userId) : Holding C (db.modifyBooking id f) := by
  have owns : ∀ (S : Scope) b, S.owns (f b) = S.owns b := fun S b => by
    cases S <;> simp [Scope.owns, owner]
  have same : ∀ S : Scope, S.holds (db.bookings.modify id f) = S.holds db.bookings := fun S =>
    holds_modify (owns S) db.bookings
  refine ⟨holding.consistent.modifyBooking id fun b => ⟨(owner b).1, (owner b).2.1⟩,
    fun c among => ?_, fun c among => ?_, fun c among => ?_⟩
  · have named := holding.named c among
    rw [Db.modifyBooking_bookings, Table.get?_modify, Option.all_map]
    cases here : db.bookings.get? c.2 with
    | none => rfl
    | some b =>
        rw [here] at named
        by_cases mine : c.2 = id <;> simpa [mine, owns] using named
  · rw [Db.modifyBooking_bookings, same]
    exact holding.booked c among
  · obtain ⟨p, here, own⟩ := holding.paid c among
    exact ⟨p, here, by rwa [Db.modifyBooking_bookings, same]⟩

theorem modifyPayment (holding : Holding C db) {f : Payment → Payment}
    (lawful : ∀ p, db.payments.get? id = some p → Lawful db id p (f p)) :
    Holding C (db.modifyPayment id f) := by
  refine ⟨holding.consistent.modifyPayment lawful, holding.named, holding.booked, fun c among => ?_⟩
  obtain ⟨p, here, own⟩ := holding.paid c among
  by_cases mine : c.2 = id
  · refine ⟨f p, ?_, ?_⟩
    · simp only [Db.modifyPayment_payments, mine, Table.get?_modify_self]
      rw [← mine, here]
      rfl
    · rw [(lawful p (mine ▸ here)).booking]
      exact own
  · exact ⟨p, by simpa [mine] using here, own⟩

end Holding

/-! ## Statements -/

section Statements

variable {ε : Type} {C : Titles} {S : Scope}

theorem confined_modifyBooking {id : Uuid} {f : Booking → Booking} (own : (S, id) ∈ C.bookings)
    (owner : ∀ b, (f b).venueId = b.venueId ∧ (f b).roomId = b.roomId ∧ (f b).userId = b.userId) :
    Confined tenants S (Holding C) (fun _ => Holding C)
      (Tx.write (·.modifyBooking id f) : Tx ε Db Unit) := by
  have owns : ∀ (T : Scope) b, T.owns (f b) = T.owns b := fun T b => by
    cases T <;> simp [Scope.owns, owner]
  refine .write (fun db _ => within_modifyBooking (owns S)) (fun db holding T apart => ?_)
    fun db holding => holding.modifyBooking id owner
  exact within_modifyBooking_other (owns T) (apart.holds (holding.booked _ own))

theorem confined_insertAudit {e : AuditEvent} (own : (S, e.bookingId) ∈ C.bookings) :
    Confined tenants S (Holding C) (fun _ => Holding C) (insertAudit e) := by
  refine .write (fun db holding => within_audit (holding.booked _ own)) (fun db holding T apart => ?_)
    fun db holding => ?_
  · exact within_audit_other (apart.holds (holding.booked _ own))
  · exact holding.of_eq (holding.consistent.of_eq rfl rfl rfl rfl rfl) rfl rfl

theorem confined_lockForUpdate {bookingId : UuidText} (own : (S, bookingId.value) ∈ C.bookings) :
    Confined tenants S (Holding C) (fun _ => Holding C) (lockForUpdate bookingId) :=
  .fetch (fun _ holding => within_booking (holding.booked _ own)) fun _ _ holding _ => holding

theorem confined_requireExpected {bookingId : UuidText} {expected : Option (List BookingStatus)}
    {source : BookingStatus} {Q : Db → Prop} :
    Confined tenants S Q (fun _ => Q) (requireExpected bookingId expected source) := by
  unfold requireExpected
  cases expected with
  | none => exact .ret fun _ holds => holds
  | some expected => exact .ite (fun _ => .ret fun _ holds => holds) fun _ => .abort _

theorem confined_transition {now : Instant} {input : TransitionInput}
    (own : (S, input.bookingId.value) ∈ C.bookings) :
    Confined tenants S (Holding C) (fun _ => Holding C) (transition now input) := by
  refine .bind (confined_lockForUpdate own) fun locked =>
    .bind confined_requireExpected fun _ => .ite (fun _ => ?_) fun _ => .abort _
  refine .bind (confined_modifyBooking own fun b => ⟨rfl, rfl, rfl⟩) fun _ =>
    .bind (confined_insertAudit own) fun _ => .ret fun _ holding => holding

theorem confined_recordSideEffect {now : Instant} {input : SideEffectInput}
    (own : (S, input.bookingId.value) ∈ C.bookings) :
    Confined tenants S (Holding C) (fun _ => Holding C) (recordSideEffect now input) := by
  refine .bind (confined_lockForUpdate own) fun locked => .bind confined_requireExpected fun _ => ?_
  refine .bind (confined_modifyBooking own fun b => ⟨rfl, rfl, rfl⟩) fun _ =>
    .bind (confined_insertAudit own) fun _ => .ret fun _ holding => holding

/-- **Looking a booking up is what gives a title to it.** -/
theorem confined_load {id : Uuid} :
    Confined tenants S (Holding C)
      (fun b db => Holding (C.book S id) db ∧ db.bookings.get? id = some b)
      (Tenant.load S id) := by
  refine .fetch (fun db _ => ?_) fun db b holding found => ?_
  · show ((db.within S).bookings.get? id).filter S.owns = _
    rw [Db.within_bookings, Table.get?_keep]
    cases db.bookings.get? id with
    | none => rfl
    | some b => cases own : S.owns b <;> simp [Option.filter, own]
  · obtain ⟨here, owns⟩ := Option.filter_eq_some_iff.mp found
    exact ⟨holding.book (Scope.holds_iff.mpr ⟨b, here, owns⟩), here⟩

/-- The principal acts for the tenant, or the booking is the tenant's if it is there. -/
def Titles.lets (C : Titles) (S : Scope) (principal : AuthPrincipal) (id : Uuid) : Prop :=
  principal.tenant = some S ∨ (S, id) ∈ C.named

theorem within_named {db : Db} {id : Uuid} (named : (db.bookings.get? id).all S.owns = true) :
    (db.within S).bookings.get? id = db.bookings.get? id := by
  rw [Db.within_bookings, Table.get?_keep]
  cases here : db.bookings.get? id with
  | none => rfl
  | some b =>
      rw [here] at named
      simpa [Option.filter] using named

theorem Holding.own {db : Db} {id : Uuid} {b : Booking} (holding : Holding C db)
    (mine : (S, id) ∈ C.named) (here : db.bookings.get? id = some b) :
    Holding (C.book S id) db := by
  refine holding.book (Scope.holds_iff.mpr ⟨b, here, ?_⟩)
  simpa [here] using holding.named _ mine

theorem confined_loadOwnedBooking {principal : AuthPrincipal} {bookingId : UuidText}
    (lets : C.lets S principal bookingId.value) :
    Confined tenants S (Holding C)
      (fun b db => Holding (C.book S bookingId.value) db ∧
        db.bookings.get? bookingId.value = some b)
      (loadOwnedBooking bookingId principal) := by
  rcases lets with named | mine
  · rw [(⟨principal, S, named⟩ : Tenant).loadOwnedBooking]
    exact confined_load
  constructor
  · intro db holding
    have same : (db.within S).bookings.get? bookingId.value = db.bookings.get? bookingId.value :=
      within_named (holding.named _ mine)
    show loadOwnedBooking bookingId principal (db.within S) = _
    simp only [loadOwnedBooking, same]
    cases db.bookings.get? bookingId.value with
    | none => dsimp only; split <;> rfl
    | some b => dsimp only; split <;> rfl
  · intro db b db' holding ran
    obtain ⟨rfl, here⟩ := loadOwnedBooking_ok ran
    exact ⟨⟨holding.own mine here, here⟩, fun _ _ => rfl⟩

theorem confined_loadOwned {principal : AuthPrincipal} {bookingId : UuidText}
    (lets : C.lets S principal bookingId.value) :
    Confined tenants S (Holding C) (fun _ => Holding (C.book S bookingId.value))
      (loadOwned bookingId principal) := by
  rcases lets with named | mine
  · rw [(⟨principal, S, named⟩ : Tenant).loadOwned]
    exact confined_load.weaken (fun _ holding => holding) fun _ _ loaded => loaded.1
  refine .fetch (fun db holding => ?_) fun db b holding found => ?_
  · exact congrArg (Option.filter _) (within_named (holding.named _ mine))
  · exact holding.own mine (Option.filter_eq_some_iff.mp found).1

end Statements

/-! ## Checkout and cancel -/

section Bookings

variable {C : Titles} {S : Scope} {bookingId : UuidText}

theorem confined_checkoutLoaded {env : Env} {principal : AuthPrincipal} {booking : Booking}
    {now : Instant} (own : (S, bookingId.value) ∈ C.bookings) :
    Confined tenants S (Holding C) (fun _ => Holding C)
      (checkoutLoaded env bookingId principal booking now) := by
  refine .ite (fun _ => .abort _) fun _ => .ite (fun _ => ?_) fun _ =>
    .ite (fun _ => .abort _) fun _ => .ite (fun _ => .abort _) fun _ => confined_recordSideEffect own
  exact .bind (confined_transition own) fun _ => .abort _

theorem confined_cancel {principal : AuthPrincipal} {reason : String} {now : Instant}
    (lets : C.lets S principal bookingId.value) :
    Confined tenants S (Holding C) (fun _ => Holding (C.book S bookingId.value))
      (cancel bookingId reason principal now) :=
  .bind ((confined_loadOwnedBooking lets).weaken (fun _ holding => holding)
    fun _ _ loaded => loaded.1) fun _ => confined_transition (Set.mem_insert _ _)

end Bookings

/-! ## Payments -/

section Payments

variable {C : Titles} {S : Scope} {db : Db} {id : Uuid}

theorem Consistent.lawful (consistent : Consistent db) {p q : Payment}
    (here : db.payments.get? id = some p) (booking : q.bookingId = p.bookingId)
    (key : q.idempotencyKey = p.idempotencyKey) (charge : q.chargeId = p.chargeId)
    (refund : q.refundId = p.refundId)
    (minted : ∀ k, q.refundIdempotencyKey = some k → ∃ c, q.chargeId = some c ∧ k = refundKey c) :
    Lawful db id p q where
  booking := booking
  key := key
  charge c bound id' p' there same :=
    consistent.charges id' p' id p c there here same (charge.symm.trans bound)
  refund r bound id' p' there same :=
    consistent.refunds id' p' id p r there here same (refund.symm.trans bound)
  minted := minted

/-- The unique indexes of the cut-down table refuse nothing the whole ones let through. -/
theorem paymentFits_within {q : Payment} (fits : paymentFits db id q = true) :
    paymentFits (db.within S) id q = true := by
  simp only [paymentFits, Bool.and_eq_true, Option.all_eq_true, Table.free_iff] at fits ⊢
  obtain ⟨⟨charge, refund⟩, minted⟩ := fits
  exact ⟨⟨fun c bound id' p' here => charge c bound id' p' (within_payment_some here).1,
    fun r bound id' p' here => refund r bound id' p' (within_payment_some here).1⟩,
    fun k bound id' p' here => minted k bound id' p' (within_payment_some here).1⟩

theorem confined_updatePayment {f : Payment → Payment} {Q : Db → Prop}
    (rests : ∀ db, Q db → Consistent db ∧ db.paidBy S id)
    (lawful : ∀ db, Q db → ∀ p, db.payments.get? id = some p → Lawful db id p (f p))
    (booking : ∀ p, (f p).bookingId = p.bookingId) :
    Confined tenants S Q (fun _ db' => ∃ db, Q db ∧ db' = db.modifyPayment id f)
      (updatePayment id f) := by
  have fits : ∀ db, Q db → ∀ p, db.payments.get? id = some p → paymentFits db id (f p) = true :=
    fun db holds p here => (rests db holds).1.fits (lawful db holds p here)
  constructor
  · intro db holds
    have whole : updatePayment id f db = .ok ((), db.modifyPayment id f) :=
      updatePayment_ok.mpr ⟨fits db holds, rfl⟩
    have part : updatePayment id f (db.within S) = .ok ((), (db.within S).modifyPayment id f) :=
      updatePayment_ok.mpr ⟨fun p here =>
        paymentFits_within (fits db holds p (within_payment_some here).1), rfl⟩
    show updatePayment id f (db.within S) = _
    rw [whole, part, ← within_modifyPayment booking]
    rfl
  · intro db u db' holds ran
    obtain ⟨-, rfl⟩ := updatePayment_ok.mp ran
    refine ⟨⟨db, holds, rfl⟩, fun T apart => within_modifyPayment_other booking fun p here => ?_⟩
    obtain ⟨q, there, own⟩ := (rests db holds).2
    cases here.symm.trans there
    exact apart.holds own

/-- The payments of an own booking are all there. -/
theorem select_payments (own : S.holds db.bookings id = true) {q : Payment → Bool}
    (mine : ∀ p, q p = true → p.bookingId = id) :
    (db.within S).payments.select (fun _ p => q p) = db.payments.select fun _ p => q p := by
  rw [Db.within_payments]
  refine Table.select_keep fun _ p _ selected => ?_
  rw [mine p selected]
  exact own

theorem capturedPayment_within (own : S.holds db.bookings id = true) (choice : Uuid) :
    capturedPayment (db.within S) id choice = capturedPayment db id choice := by
  simp only [capturedPayment]
  rw [select_payments own fun p selected => (of_decide_eq_true selected).1]

theorem splitTotals_within (own : S.holds db.bookings id = true) (b : Booking) :
    splitTotals (db.within S) id b = splitTotals db id b := by
  have items : (db.within S).bookingLineItems.filter (fun item => decide (item.bookingId = id)) =
      db.bookingLineItems.filter fun item => decide (item.bookingId = id) := by
    simp only [Db.within_bookingLineItems, List.filter_filter]
    refine List.filter_congr fun item _ => ?_
    by_cases mine : item.bookingId = id <;> simp [mine, own]
  simp only [splitTotals, items]

theorem paymentByKey_within (consistent : Consistent db) {bookingId : UuidText}
    (own : S.holds db.bookings bookingId.value = true) :
    paymentByKey (db.within S) (chargeKey bookingId.text) =
      paymentByKey db (chargeKey bookingId.text) := by
  have selected : (db.within S).payments.select
        (fun _ p => decide (p.idempotencyKey = chargeKey bookingId.text)) =
      db.payments.select fun _ p => decide (p.idempotencyKey = chargeKey bookingId.text) := by
    rw [Db.within_payments]
    refine Table.select_keep fun id p here keyed => ?_
    rw [consistent.byKey here (of_decide_eq_true keyed)]
    exact own
  simp only [paymentByKey, selected]

theorem confined_readSnapshot {P : Db → Prop} (value : Option Json) :
    Confined tenants S P (fun _ => P) (readSnapshot value) := by
  unfold readSnapshot
  split
  · exact .abort _
  · exact .ret fun _ holds => holds

/-- **The money half of a cancellation.**  The payment it mints a key on is the booking's. -/
theorem confined_settleCancellation {choice : Uuid} {now : Instant} (own : (S, id) ∈ C.bookings) :
    Confined tenants S (Holding C)
      (fun r db => Holding C db ∧ ∀ s, r = some s → db.paidBy S s.1.paymentId)
      (settleCancellation id choice now) := by
  refine .bind (.read (Q := fun _ => Holding C)
    (fun db holding => within_booking (holding.booked _ own)) fun db holding => holding) fun found => ?_
  cases found with
  | none => exact .ret fun _ holding => ⟨holding, by simp⟩
  | some booking =>
    -- What is read next is a payment of this booking.
    refine .bind (.read (Q := fun captured db => Holding C db ∧ ∀ payment, captured = some payment →
        Holding (C.pay S payment.1) db ∧ db.payments.get? payment.1 = some payment.2)
      (fun db holding => capturedPayment_within (holding.booked _ own) choice)
      fun db holding => ⟨holding, fun payment found => ?_⟩) fun captured => ?_
    · obtain ⟨here, mine, -⟩ := capturedPayment_some found
      exact ⟨holding.pay ⟨payment.2, here, by rw [mine]; exact holding.booked _ own⟩, here⟩
    cases captured with
    | none => exact .ret fun _ holding => ⟨holding.1, by simp⟩
    | some payment =>
      dsimp only
      split
      case h_2 => exact .ret fun _ holding => ⟨holding.1, by simp⟩
      case h_1 chargeId charged unminted =>
        refine .bind (confined_readSnapshot _) fun parsed => ?_
        cases parsed with
        | none => exact .ret fun _ holding => ⟨holding.1, by simp⟩
        | some snapshot =>
          refine .weaken (P := fun db => Holding (C.pay S payment.1) db ∧
            db.payments.get? payment.1 = some payment.2) ?_
            (fun db holding => holding.2 payment rfl) (fun _ _ done => done)
          refine .bind (.read (Q := fun _ db => Holding (C.pay S payment.1) db ∧
              db.payments.get? payment.1 = some payment.2) (fun db holding => ?_)
            fun db holding => holding) fun worth => ?_
          · show cancellationRefund (db.within S) id booking snapshot.tiers now = _
            simp only [cancellationRefund, splitTotals_within (holding.1.booked _ own)]
          cases worth with
          | error e => exact .abort e
          | ok breakdown =>
            have lawful : ∀ db, Holding (C.pay S payment.1) db ∧
                db.payments.get? payment.1 = some payment.2 →
                ∀ p, db.payments.get? payment.1 = some p →
                  Lawful db payment.1 p (mintRefundKey (refundKey chargeId) now p) := by
              rintro db ⟨holding, here⟩ p stored
              cases here.symm.trans stored
              refine holding.consistent.lawful here ?_ ?_ ?_ ?_ ?_ <;>
                simp only [mintRefundKey, unminted]
              · rfl
              · rfl
              · rfl
              · rfl
              · rintro k ⟨⟩
                exact ⟨chargeId, charged, rfl⟩
            refine .bind (Q := fun _ => Holding (C.pay S payment.1)) (.weaken
                (confined_updatePayment
                  (fun db holds => ⟨holds.1.consistent, holds.1.paid _ (Set.mem_insert _ _)⟩) lawful
                  fun p => by unfold mintRefundKey; split <;> rfl) (fun _ holds => holds) ?_)
                fun _ => ?_
            · rintro _ _ ⟨db, holds, rfl⟩
              exact holds.1.modifyPayment (lawful db holds)
            · refine .bind (confined_insertAudit own) fun _ => .ret fun db holding => ?_
              refine ⟨holding.of_pay, ?_⟩
              rintro s ⟨⟩
              exact holding.paid _ (Set.mem_insert _ _)

/-! ## Pay -/

theorem confined_insertPayment {bookingId : UuidText} {paymentId : Uuid} {amountMinor : Minor}
    {at_ : Instant} (own : (S, bookingId.value) ∈ C.bookings) :
    Confined tenants S (fun db => Holding C db ∧ db.payments.get? paymentId = none)
      (fun _ => Holding C) (insertPayment paymentId
        (newPayment bookingId.value (chargeKey bookingId.text) amountMinor at_)) := by
  refine .bind (.read (Q := fun _ db => Holding C db ∧ db.payments.get? paymentId = none)
    (fun db holding => paymentByKey_within holding.1.consistent (holding.1.booked _ own))
    fun db holding => holding) fun existing => ?_
  cases existing with
  | some row => exact .ret fun _ holding => holding.1
  | none =>
    refine .insert (fun db ⟨holding, fresh⟩ => ?_) fun db payments ⟨holding, fresh⟩ inserted => ?_
    · obtain ⟨payments, inserted⟩ := Table.insert?_of_fresh fresh
        (newPayment bookingId.value (chargeKey bookingId.text) amountMinor at_)
      have kept : (db.within S).payments.insert? paymentId
          (newPayment bookingId.value (chargeKey bookingId.text) amountMinor at_) =
            some (payments.keep fun _ p => S.holds db.bookings p.bookingId) :=
        Table.keep_insert? inserted (holding.booked _ own)
      exact ⟨payments, _, inserted, kept,
        Db.ext_tables rfl rfl rfl rfl rfl rfl rfl rfl rfl rfl rfl⟩
    · have claims : ∀ c ∈ C.payments, ({ db with payments := payments } : Db).paidBy c.1 c.2 := by
        intro c among
        obtain ⟨p, here, paid⟩ := holding.paid c among
        refine ⟨p, ?_, paid⟩
        rw [Table.get?_insert? inserted, if_neg]
        · exact here
        · rintro rfl
          rw [fresh] at here
          cases here
      refine ⟨⟨holding.consistent.insertPayment inserted, holding.named, holding.booked, claims⟩,
        fun T apart => ?_⟩
      have unseen : T.holds db.bookings bookingId.value = false := apart.holds (holding.booked _ own)
      have same : payments.keep (fun _ p => T.holds db.bookings p.bookingId) =
          db.payments.keep fun _ p => T.holds db.bookings p.bookingId :=
        Table.keep_insert?_unmet inserted unseen
      exact Db.ext_tables rfl rfl rfl rfl rfl rfl rfl same rfl rfl rfl

theorem confined_recordPayment {bookingId : UuidText} {principal : AuthPrincipal}
    {booking : Booking} {stamp : PayStamp} (own : (S, bookingId.value) ∈ C.bookings) :
    Confined tenants S (fun db => Holding C db ∧ db.payments.get? stamp.paymentId = none)
      (fun r db => Holding C db ∧ ∀ b payment, r = .charge b payment → db.paidBy S payment.1)
      (recordPayment bookingId principal booking stamp) := by
  have asked : ∀ payment : Uuid × Payment, Confined tenants S (Holding (C.pay S payment.1))
      (fun r db => Holding C db ∧ ∀ b payment, r = .charge b payment → db.paidBy S payment.1)
      (pure (Prepared.charge booking payment) : Transaction Prepared) := by
    intro payment
    refine .ret fun db holding => ⟨holding.of_pay, ?_⟩
    rintro b _ ⟨⟩
    exact holding.paid _ (Set.mem_insert _ _)
  refine .bind (confined_insertPayment own) fun _ =>
    .bind (.fetch (Q := fun payment => Holding (C.pay S payment.1))
      (fun db holding => paymentByKey_within holding.consistent (holding.booked _ own))
      fun db payment holding found => ?_) fun payment => .ite (fun _ => ?_) fun _ => asked payment
  · obtain ⟨here, keyed⟩ := paymentByKey_some found
    refine holding.pay ⟨payment.2, here, ?_⟩
    rw [holding.consistent.byKey here keyed]
    exact holding.booked _ own
  · exact .bind (confined_transition own) fun _ => asked payment

/-- **The pay transaction, once it has read.**  The payment it would charge is the booking's. -/
theorem confined_payLoaded {bookingId : UuidText} {principal : AuthPrincipal}
    {booking : Booking} {existing : Option (Uuid × Payment)} {stamp : PayStamp}
    (own : (S, bookingId.value) ∈ C.bookings) :
    Confined tenants S (fun db => Holding C db ∧ db.payments.get? stamp.paymentId = none)
      (fun r db => Holding C db ∧ ∀ b payment, r = .charge b payment → db.paidBy S payment.1)
      (payLoaded bookingId principal booking existing stamp) := by
  unfold payLoaded
  cases existing.filter fun payment => decide (payment.2.status ≠ .pending) with
  | some payment => exact .ret fun _ holding => ⟨holding.1, by simp⟩
  | none =>
      refine .ite (fun _ => ?_) fun _ => .ite (fun _ => confined_recordPayment own) fun _ => .abort _
      exact .bind (.weaken (confined_transition own) (fun _ holding => holding.1)
        fun _ _ holding => holding) fun _ => .abort _

/-- An own payment is found as it is. -/
theorem getPayment_within (paid : db.paidBy S id) :
    (db.within S).payments.get? id = db.payments.get? id := by
  obtain ⟨p, here, own⟩ := paid
  rw [within_payment here own, here]

/-- **Binding the charge.**  No other payment is bound to it. -/
theorem confined_bindCharge {chargeId : String} {now : Instant} (paid : (S, id) ∈ C.payments) :
    Confined tenants S
      (fun db => Holding C db ∧
        ∀ id' p, db.payments.get? id' = some p → p.chargeId = some chargeId → id' = id)
      (fun _ => Holding C) (bindCharge id chargeId now) := by
  have lawful : ∀ db, (Holding C db ∧
      ∀ id' p, db.payments.get? id' = some p → p.chargeId = some chargeId → id' = id) →
      ∀ p, db.payments.get? id = some p → Lawful db id p (adopted chargeId now p) := by
    rintro db ⟨holding, free⟩ p here
    unfold adopted
    split
    · rename_i unbound
      refine ⟨rfl, rfl, ?_, fun r bound id' p' there same =>
        holding.consistent.refunds id' p' id p r there here same bound, fun k minted => ?_⟩
      · rintro c ⟨⟩
        exact free
      · obtain ⟨c, charged, -⟩ := holding.consistent.keyed id p k here minted
        rw [unbound] at charged
        cases charged
    · exact holding.consistent.lawful here rfl rfl rfl rfl
        fun k minted => holding.consistent.keyed id p k here minted
  refine .weaken (confined_updatePayment (fun db holds => ⟨holds.1.consistent, holds.1.paid _ paid⟩)
    lawful fun p => by unfold adopted; split <;> rfl) (fun _ holds => holds) ?_
  rintro _ _ ⟨db, holds, rfl⟩
  exact holds.1.modifyPayment (lawful db holds)

/-- **Binding the refund.** -/
theorem confined_refundAccepted {refundId : String} {now : Instant} (paid : (S, id) ∈ C.payments) :
    Confined tenants S
      (fun db => Holding C db ∧
        ∀ id' p, db.payments.get? id' = some p → p.refundId = some refundId → id' = id)
      (fun _ => Holding C) (refundAccepted id refundId now) := by
  have lawful : ∀ db, (Holding C db ∧
      ∀ id' p, db.payments.get? id' = some p → p.refundId = some refundId → id' = id) →
      ∀ p, db.payments.get? id = some p → Lawful db id p (boundRefund refundId now p) := by
    rintro db ⟨holding, free⟩ p here
    unfold boundRefund
    split
    · refine ⟨rfl, rfl, fun c bound id' p' there same =>
        holding.consistent.charges id' p' id p c there here same bound, ?_,
        fun k minted => holding.consistent.keyed id p k here minted⟩
      rintro r ⟨⟩
      exact free
    · exact holding.consistent.lawful here rfl rfl rfl rfl
        fun k minted => holding.consistent.keyed id p k here minted
  refine .weaken (confined_updatePayment (fun db holds => ⟨holds.1.consistent, holds.1.paid _ paid⟩)
    lawful fun p => by unfold boundRefund; split <;> rfl) (fun _ holds => holds) ?_
  rintro _ _ ⟨db, holds, rfl⟩
  exact holds.1.modifyPayment (lawful db holds)

theorem confined_refundRejected {message : String} {now : Instant} (paid : (S, id) ∈ C.payments) :
    Confined tenants S (Holding C) (fun _ => Holding C) (refundRejected id message now) := by
  have lawful : ∀ db, Holding C db → ∀ p, db.payments.get? id = some p →
      Lawful db id p { p with failureReason := some ("refund rejected: " ++ message), updatedAt := now } :=
    fun db holding p here => holding.consistent.lawful here rfl rfl rfl rfl
      fun k minted => holding.consistent.keyed id p k here minted
  refine .weaken (confined_updatePayment (fun db holding => ⟨holding.consistent, holding.paid _ paid⟩)
    lawful fun _ => rfl) (fun _ holding => holding) ?_
  rintro _ _ ⟨db, holding, rfl⟩
  exact holding.modifyPayment (lawful db holding)

end Payments

end Atrium
