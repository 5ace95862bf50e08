/-
# Tenants -- what a tenant sees of the database

A tenant is a venue, for its staff and admins, or a user, for a customer.  `Db.within` is
the database cut down to what a tenant is to see: its bookings with their line items,
payments and audit rows, and of the catalogue its venue's, or for a customer all of it.

Every write of the tenants' routes keeps to one booking, one payment or one row of the
catalogue.  For each there is what it comes to on the cut-down database, and that a
database cut down for a tenant apart from the writer's is left as it was.  `Consistent` is
what the reads rest on: rows refer to rows of the same venue, and keys are named after
what they are for.
-/
import Atrium.Applying
import Atrium.VenuesAdmin

namespace Atrium

open Atrium.Base

set_option autoImplicit false

inductive Scope where
  | venue (id : Uuid)
  | user (id : Uuid)
  deriving DecidableEq

namespace Scope

/-- `scopeFilter`, as the rows it leaves. -/
def owns : Scope → Booking → Bool
  | .venue id, b => decide (b.venueId = id)
  | .user id, b => decide (b.userId = id)

/-- The venues whose catalogue it sees. -/
def sees : Scope → Uuid → Bool
  | .venue id, venueId => decide (venueId = id)
  | .user _, _ => true

/-- Two venues, or two customers. -/
def apart : Scope → Scope → Prop
  | .venue a, .venue b => a ≠ b
  | .user a, .user b => a ≠ b
  | _, _ => False

instance : DecidableRel apart := fun S T => by
  cases S <;> cases T <;> unfold apart <;> infer_instance

theorem apart.owns {S T : Scope} (apart : S.apart T) {b : Booking} (own : S.owns b = true) :
    T.owns b = false := by
  cases S <;> cases T <;> simp_all [Scope.apart, Scope.owns]

theorem owns.sees {S : Scope} {b : Booking} (own : S.owns b = true) : S.sees b.venueId = true := by
  cases S <;> simp_all [Scope.owns, Scope.sees]

end Scope

/-- The booking is there, and the tenant's. -/
def Scope.holds (S : Scope) (bookings : Table Uuid Booking) (bookingId : Uuid) : Bool :=
  (bookings.get? bookingId).any S.owns

/-- The database as a tenant is to see it.  Users, deliveries and claimed events are no one's. -/
@[simps] def Db.within (S : Scope) (db : Db) : Db where
  venues := db.venues.keep fun id _ => S.sees id
  rooms := db.rooms.keep fun _ r => S.sees r.venueId
  equipmentTypes := db.equipmentTypes.keep fun _ t => S.sees t.venueId
  users := []
  cancellationPolicies := db.cancellationPolicies.keep fun _ p => p.venueId.all S.sees
  bookings := db.bookings.keep fun _ b => S.owns b
  bookingLineItems := db.bookingLineItems.filter fun item => S.holds db.bookings item.bookingId
  payments := db.payments.keep fun _ p => S.holds db.bookings p.bookingId
  paymentEvents := []
  webhookDeliveries := Table.empty
  auditEvents := db.auditEvents.filter fun e => S.holds db.bookings e.bookingId

/-- The database, shared by its tenants. -/
def tenants : Sharing Scope Db := ⟨Db.within, Scope.apart⟩

section Ownership

variable {db : Db} {bookings : Table Uuid Booking} {S T : Scope} {id : Uuid}

theorem Scope.holds_iff : S.holds bookings id = true ↔
    ∃ b, bookings.get? id = some b ∧ S.owns b = true := by
  simp only [Scope.holds, Option.any_eq_true]

theorem Scope.apart.holds (apart : S.apart T) (own : S.holds bookings id = true) :
    T.holds bookings id = false := by
  obtain ⟨b, here, owns⟩ := Scope.holds_iff.mp own
  simp only [Scope.holds, here, Option.any_some, apart.owns owns]

/-- An own booking is found as it is. -/
theorem within_booking (own : S.holds db.bookings id = true) :
    (db.within S).bookings.get? id = db.bookings.get? id := by
  obtain ⟨b, here, owns⟩ := Scope.holds_iff.mp own
  simp only [Db.within_bookings, Table.get?_keep, here, Option.filter, owns, if_true]

/-- Another's is not. -/
theorem within_booking_none (other : S.holds db.bookings id = false) :
    (db.within S).bookings.get? id = none := by
  simp only [Scope.holds] at other
  simp only [Db.within_bookings, Table.get?_keep, Option.filter_eq_none_iff]
  intro b here
  simpa [here] using other

theorem within_payment {p : Payment} (here : db.payments.get? id = some p)
    (own : S.holds db.bookings p.bookingId = true) :
    (db.within S).payments.get? id = some p := by
  simp only [Db.within_payments, Table.get?_keep, here, Option.filter, own, if_true]

theorem within_payment_some {p : Payment} (here : (db.within S).payments.get? id = some p) :
    db.payments.get? id = some p ∧ S.holds db.bookings p.bookingId = true := by
  simpa only [Db.within_payments, Table.get?_keep, Option.filter_eq_some_iff] using here

end Ownership

/-! ## What the reads rest on -/

structure Consistent (db : Db) : Prop where
  /-- A booking's room is there, and of the booking's venue. -/
  rooms : ∀ id b, db.bookings.get? id = some b →
    ∃ r, db.rooms.get? b.roomId = some r ∧ r.venueId = b.venueId
  /-- So is the type of a line item. -/
  types : ∀ item ∈ db.bookingLineItems, ∃ t, db.equipmentTypes.get? item.equipmentTypeId = some t ∧
    ∀ b, db.bookings.get? item.bookingId = some b → t.venueId = b.venueId
  referenced : Referenced db
  charges : db.payments.UniqueOn Payment.chargeId
  refunds : db.payments.UniqueOn Payment.refundId
  /-- A refund key is its own charge's. -/
  keyed : ∀ id p k, db.payments.get? id = some p → p.refundIdempotencyKey = some k →
    ∃ c, p.chargeId = some c ∧ k = refundKey c

theorem Consistent.of_fresh {db : Db} (fresh : db.Fresh) : Consistent db := by
  obtain ⟨bookings, items, payments, -⟩ := fresh
  constructor <;> simp [bookings, items, payments, Referenced, Table.UniqueOn]

/-- A payment `p`, and an update `q` of it that no other payment's columns stand against. -/
structure Lawful (db : Db) (id : Uuid) (p q : Payment) : Prop where
  booking : q.bookingId = p.bookingId
  key : q.idempotencyKey = p.idempotencyKey
  charge : ∀ c, q.chargeId = some c →
    ∀ id' p', db.payments.get? id' = some p' → p'.chargeId = some c → id' = id
  refund : ∀ r, q.refundId = some r →
    ∀ id' p', db.payments.get? id' = some p' → p'.refundId = some r → id' = id
  minted : ∀ k, q.refundIdempotencyKey = some k → ∃ c, q.chargeId = some c ∧ k = refundKey c

namespace Consistent

variable {db db' : Db}

theorem of_eq (consistent : Consistent db) (bookings : db'.bookings = db.bookings)
    (rooms : db'.rooms = db.rooms) (types : db'.equipmentTypes = db.equipmentTypes)
    (items : db'.bookingLineItems = db.bookingLineItems) (payments : db'.payments = db.payments) :
    Consistent db' := by
  constructor
  · rw [bookings, rooms]
    exact consistent.rooms
  · rw [items, types, bookings]
    exact consistent.types
  · unfold Referenced
    rw [payments]
    exact consistent.referenced
  · rw [payments]
    exact consistent.charges
  · rw [payments]
    exact consistent.refunds
  · rw [payments]
    exact consistent.keyed

theorem modifyBooking (consistent : Consistent db) (id : Uuid) {f : Booking → Booking}
    (terms : ∀ b, (f b).venueId = b.venueId ∧ (f b).roomId = b.roomId) :
    Consistent (db.modifyBooking id f) := by
  -- A booking after the update stands where one with its venue and room stood.
  have back : ∀ id' b', (db.modifyBooking id f).bookings.get? id' = some b' →
      ∃ b, db.bookings.get? id' = some b ∧ b'.venueId = b.venueId ∧ b'.roomId = b.roomId := by
    intro id' b' here
    obtain ⟨b, stood, same⟩ := Table.get?_modify_some.mp here
    refine ⟨b, stood, ?_⟩
    split_ifs at same
    · exact same ▸ terms b
    · exact same ▸ ⟨rfl, rfl⟩
  refine ⟨fun id' b' here => ?_, fun item among => ?_, consistent.referenced, consistent.charges,
    consistent.refunds, consistent.keyed⟩
  · obtain ⟨b, stood, venue, room⟩ := back id' b' here
    rw [venue, room]
    exact consistent.rooms id' b stood
  · obtain ⟨t, stored, own⟩ := consistent.types item among
    refine ⟨t, stored, fun b' here => ?_⟩
    obtain ⟨b, stood, venue, -⟩ := back _ b' here
    exact (own b stood).trans venue.symm

/-- A lawful update breaks no unique index. -/
theorem fits (consistent : Consistent db) {id : Uuid} {p q : Payment}
    (lawful : Lawful db id p q) : paymentFits db id q = true := by
  simp only [paymentFits, Bool.and_eq_true, Option.all_eq_true, Table.free_iff]
  refine ⟨⟨fun c bound => lawful.charge c bound, fun r bound => lawful.refund r bound⟩,
    fun k minted id' p' here held => ?_⟩
  obtain ⟨c, charged, same⟩ := lawful.minted k minted
  obtain ⟨c', charged', same'⟩ := consistent.keyed id' p' k here held
  obtain rfl := refundKey_injective (same.symm.trans same')
  exact lawful.charge c charged id' p' here charged'

theorem modifyPayment (consistent : Consistent db) {id : Uuid} {f : Payment → Payment}
    (lawful : ∀ p, db.payments.get? id = some p → Lawful db id p (f p)) :
    Consistent (db.modifyPayment id f) := by
  have fits : ∀ p, db.payments.get? id = some p → paymentFits db id (f p) = true :=
    fun p here => consistent.fits (lawful p here)
  refine ⟨consistent.rooms, consistent.types, ?_, ?_, ?_, ?_⟩
  · intro id' p' here
    obtain ⟨p, stood, same⟩ := Table.get?_modify_some.mp here
    split_ifs at same with own
    · subst own
      obtain ⟨reference, key, spells⟩ := consistent.referenced id' p stood
      have kept := lawful p stood
      exact ⟨reference, by rw [← same, kept.key, key], by rw [← same, kept.booking, spells]⟩
    · exact same ▸ consistent.referenced id' p stood
  · refine consistent.charges.modify fun p here => .inr ?_
    have accepted := fits p here
    simp only [paymentFits, Bool.and_eq_true] at accepted
    exact accepted.1.1
  · refine consistent.refunds.modify fun p here => .inr ?_
    have accepted := fits p here
    simp only [paymentFits, Bool.and_eq_true] at accepted
    exact accepted.1.2
  · intro id' p' k here minted
    obtain ⟨p, stood, same⟩ := Table.get?_modify_some.mp here
    split_ifs at same with own
    · subst own
      exact same ▸ (lawful p stood).minted k (same ▸ minted)
    · exact consistent.keyed id' p' k (same ▸ stood) minted

/-- A payment that is new: it is bound to nothing yet. -/
theorem insertPayment (consistent : Consistent db) {id : Uuid} {bookingId : UuidText}
    {amountMinor : Minor} {at_ : Instant} {payments : Table Uuid Payment}
    (inserted : db.payments.insert? id
      (newPayment bookingId.value (chargeKey bookingId.text) amountMinor at_) = some payments) :
    Consistent { db with payments := payments } := by
  refine ⟨consistent.rooms, consistent.types, ?_, consistent.charges.insert inserted rfl,
    consistent.refunds.insert inserted rfl, ?_⟩
  · intro id' p here
    rw [Table.get?_insert? inserted] at here
    split_ifs at here
    · cases here
      exact ⟨bookingId.text, rfl, bookingId.spells⟩
    · exact consistent.referenced id' p here
  · intro id' p k here minted
    rw [Table.get?_insert? inserted] at here
    split_ifs at here
    · cases here
      cases minted
    · exact consistent.keyed id' p k here minted

/-- Rooms may be added and changed, but stay at their venue. -/
theorem withRooms (consistent : Consistent db) {rooms : Table Uuid Room}
    (kept : ∀ id r, db.rooms.get? id = some r →
      ∃ r', rooms.get? id = some r' ∧ r'.venueId = r.venueId) :
    Consistent { db with rooms := rooms } where
  rooms id b here := by
    obtain ⟨r, stored, own⟩ := consistent.rooms id b here
    obtain ⟨r', stored', same⟩ := kept _ r stored
    exact ⟨r', stored', same.trans own⟩
  types := consistent.types
  referenced := consistent.referenced
  charges := consistent.charges
  refunds := consistent.refunds
  keyed := consistent.keyed

theorem withTypes (consistent : Consistent db) {types : Table Uuid EquipmentType}
    (kept : ∀ id t, db.equipmentTypes.get? id = some t →
      ∃ t', types.get? id = some t' ∧ t'.venueId = t.venueId) :
    Consistent { db with equipmentTypes := types } where
  rooms := consistent.rooms
  types item among := by
    obtain ⟨t, stored, own⟩ := consistent.types item among
    obtain ⟨t', stored', same⟩ := kept _ t stored
    exact ⟨t', stored', fun b here => same.trans (own b here)⟩
  referenced := consistent.referenced
  charges := consistent.charges
  refunds := consistent.refunds
  keyed := consistent.keyed

/-- The payment under a spelling of an id is a payment of that booking. -/
theorem byKey (consistent : Consistent db) {bookingId : UuidText} {id : Uuid} {p : Payment}
    (here : db.payments.get? id = some p) (key : p.idempotencyKey = chargeKey bookingId.text) :
    p.bookingId = bookingId.value := by
  obtain ⟨reference, named, spells⟩ := consistent.referenced id p here
  obtain rfl := chargeKey_injective (key.symm.trans named)
  exact Option.some.inj (spells.symm.trans bookingId.spells)

end Consistent

/-! ## Writes, cut down -/

section Writes

variable {db : Db} {S : Scope} {id : Uuid}

/-- Two databases are the same where their tables are. -/
theorem Db.ext_tables {db db' : Db} (venues : db.venues = db'.venues) (rooms : db.rooms = db'.rooms)
    (types : db.equipmentTypes = db'.equipmentTypes) (users : db.users = db'.users)
    (policies : db.cancellationPolicies = db'.cancellationPolicies)
    (bookings : db.bookings = db'.bookings) (items : db.bookingLineItems = db'.bookingLineItems)
    (payments : db.payments = db'.payments) (events : db.paymentEvents = db'.paymentEvents)
    (deliveries : db.webhookDeliveries = db'.webhookDeliveries)
    (log : db.auditEvents = db'.auditEvents) : db = db' := by
  cases db
  cases db'
  simp_all

section Booking

variable {f : Booking → Booking}

theorem holds_modify (own : ∀ b, S.owns (f b) = S.owns b) (bookings : Table Uuid Booking) :
    S.holds (bookings.modify id f) = S.holds bookings := by
  funext id'
  simp only [Scope.holds, Table.get?_modify]
  cases bookings.get? id' with
  | none => rfl
  | some b => by_cases here : id' = id <;> simp [here, own]

theorem within_modifyBooking (own : ∀ b, S.owns (f b) = S.owns b) :
    (db.modifyBooking id f).within S = (db.within S).modifyBooking id f := by
  have same : S.holds (db.bookings.modify id f) = S.holds db.bookings := holds_modify own db.bookings
  have kept : (db.bookings.modify id f).keep (fun _ b => S.owns b) =
      (db.bookings.keep fun _ b => S.owns b).modify id f := Table.keep_modify _ _ own
  refine Db.ext_tables rfl rfl rfl rfl rfl kept ?_ ?_ rfl rfl ?_ <;>
    simp only [Db.within, Db.modifyBooking, same]

theorem within_modifyBooking_other (own : ∀ b, S.owns (f b) = S.owns b)
    (other : S.holds db.bookings id = false) :
    (db.modifyBooking id f).within S = db.within S := by
  rw [within_modifyBooking own, Db.modifyBooking, Table.modify_absent (within_booking_none other)]

end Booking

theorem within_audit {e : AuditEvent} (own : S.holds db.bookings e.bookingId = true) :
    (db.audit e).within S = (db.within S).audit e := by
  refine Db.ext_tables rfl rfl rfl rfl rfl rfl rfl rfl rfl rfl ?_
  simp [Db.within, Db.audit, own]

theorem within_audit_other {e : AuditEvent} (other : S.holds db.bookings e.bookingId = false) :
    (db.audit e).within S = db.within S := by
  refine Db.ext_tables rfl rfl rfl rfl rfl rfl rfl rfl rfl rfl ?_
  simp [Db.within, Db.audit, other]

section Payment

variable {f : Payment → Payment}

theorem within_modifyPayment (same : ∀ p, (f p).bookingId = p.bookingId) :
    (db.modifyPayment id f).within S = (db.within S).modifyPayment id f := by
  have kept : (db.payments.modify id f).keep (fun _ p => S.holds db.bookings p.bookingId) =
      (db.payments.keep fun _ p => S.holds db.bookings p.bookingId).modify id f :=
    Table.keep_modify _ _ fun p => congrArg _ (same p)
  exact Db.ext_tables rfl rfl rfl rfl rfl rfl rfl kept rfl rfl rfl

theorem within_modifyPayment_other (same : ∀ p, (f p).bookingId = p.bookingId)
    (other : ∀ p, db.payments.get? id = some p → S.holds db.bookings p.bookingId = false) :
    (db.modifyPayment id f).within S = db.within S := by
  have absent : (db.within S).payments.get? id = none := by
    simp only [Db.within_payments, Table.get?_keep, Option.filter_eq_none_iff]
    exact fun p here => by simp [other p here]
  rw [within_modifyPayment same, Db.modifyPayment, Table.modify_absent absent]

end Payment

end Writes

end Atrium
