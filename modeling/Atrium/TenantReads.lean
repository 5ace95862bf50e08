/-
# TenantReads -- what a tenant reads, confined

`findOne`, `list` and the revenue report, each read off the database cut down to the
tenant.  None of the joins leaves it: the room of a booking, the type of a line item and
the booking of a payment are of the tenant's venue.
-/
import Atrium.TenantRoutes

namespace Atrium

open Atrium.Base

set_option autoImplicit false

variable {C : Titles} {S : Scope} {db : Db} {id : Uuid}

/-! ## Rows beside a booking -/

theorem within_venue {venueId : Uuid} (seen : S.sees venueId = true) :
    (db.within S).venues.get? venueId = db.venues.get? venueId := by
  rw [Db.within_venues, Table.get?_keep]
  cases db.venues.get? venueId with
  | none => rfl
  | some v => simp only [Option.filter, seen, if_true]

theorem within_room {roomId : Uuid} {r : Room} (here : db.rooms.get? roomId = some r)
    (seen : S.sees r.venueId = true) : (db.within S).rooms.get? roomId = some r := by
  rw [Db.within_rooms, Table.get?_keep, here]
  simp only [Option.filter, seen, if_true]

theorem within_type {typeId : Uuid} {t : EquipmentType}
    (here : db.equipmentTypes.get? typeId = some t) (seen : S.sees t.venueId = true) :
    (db.within S).equipmentTypes.get? typeId = some t := by
  rw [Db.within_equipmentTypes, Table.get?_keep, here]
  simp only [Option.filter, seen, if_true]

/-- The room of an own booking is of a venue the tenant sees. -/
theorem Consistent.room (consistent : Consistent db) {b : Booking}
    (here : db.bookings.get? id = some b) (own : S.owns b = true) :
    ∃ r, db.rooms.get? b.roomId = some r ∧ (db.within S).rooms.get? b.roomId = some r ∧
      r.venueId = b.venueId ∧ S.sees r.venueId = true := by
  obtain ⟨r, stored, same⟩ := consistent.rooms id b here
  have seen : S.sees r.venueId = true := same ▸ Scope.owns.sees own
  exact ⟨r, stored, within_room stored seen, same, seen⟩

/-! ## One booking -/

theorem viewContext_within (consistent : Consistent db) {b : Booking}
    (here : db.bookings.get? id = some b) (own : S.owns b = true) :
    viewContext (db.within S) b.roomId = viewContext db b.roomId := by
  obtain ⟨r, stored, kept, -, seen⟩ := consistent.room here own
  simp only [viewContext, stored, kept]
  show (do
    let venue ← (db.within S).venues.get? r.venueId
    some (r, venue)) = _
  rw [within_venue seen]
  rfl

theorem viewItems_within (consistent : Consistent db) (own : S.holds db.bookings id = true) :
    viewItems (db.within S) id = viewItems db id := by
  simp only [viewItems, Db.within_bookingLineItems, List.filterMap_filter]
  refine List.filterMap_congr fun item among => ?_
  by_cases mine : item.bookingId = id
  · obtain ⟨b, here, owns⟩ := Scope.holds_iff.mp own
    obtain ⟨type, stored, same⟩ := consistent.types item among
    have seen : S.sees type.venueId = true := by
      rw [same b (mine ▸ here)]
      exact Scope.owns.sees owns
    simp only [mine, own, if_true, stored, within_type stored seen]
  · simp [mine]

theorem viewPayment_within (own : S.holds db.bookings id = true) :
    viewPayment (db.within S) id = viewPayment db id := by
  simp only [viewPayment]
  rw [select_payments own fun p selected => of_decide_eq_true selected]

section Texts

variable {ι : Type} {w : Sharing ι Db} {i : ι} {Q : Db → Prop}

theorem confined_isoText {t : Instant} : Confined w i Q (fun _ => Q) (isoText t) :=
  .ite (fun _ => .ret fun _ holds => holds) fun _ => .abort _

theorem confined_isoTextOrNull {t : Option Instant} :
    Confined w i Q (fun _ => Q) (isoTextOrNull t) := by
  cases t with
  | none => exact .ret fun _ holds => holds
  | some t => exact .bind confined_isoText fun _ => .ret fun _ holds => holds

theorem confined_paymentJson {payment : Option (Uuid × Payment)} :
    Confined w i Q (fun _ => Q) (paymentJson payment) := by
  cases payment with
  | none => exact .ret fun _ holds => holds
  | some row => exact .bind confined_isoText fun _ => .ret fun _ holds => holds

theorem confined_bookingJson {booking : Booking} {context : Option (Room × Venue)}
    {items : List (BookingLineItem × EquipmentType)} {payment : Option (Uuid × Payment)} :
    Confined w i Q (fun _ => Q) (bookingJson id booking context items payment) :=
  .bind confined_isoText fun _ => .bind confined_isoText fun _ =>
    .bind confined_isoTextOrNull fun _ => .bind confined_isoText fun _ =>
      .bind confined_isoText fun _ => .bind confined_paymentJson fun _ => .ret fun _ holds => holds

end Texts

/-- **One booking, with its rows.** -/
theorem confined_findOne {principal : AuthPrincipal} {bookingId : UuidText}
    (lets : C.lets S principal bookingId.value) :
    Confined tenants S (Holding C) (fun _ => Holding C) (findOne bookingId principal) := by
  refine .bind (confined_loadOwnedBooking lets) fun booking => ?_
  have own : ∀ db, Holding (C.book S bookingId.value) db →
      S.holds db.bookings bookingId.value = true :=
    fun db holding => holding.booked _ (Set.mem_insert _ _)
  refine .bind (.peek fun db loaded => ?_) fun context =>
    .bind (.peek fun db loaded => viewItems_within loaded.1.consistent (own db loaded.1)) fun items =>
    .bind (.peek fun db loaded => viewPayment_within (own db loaded.1)) fun payment =>
      .weaken confined_bookingJson (fun db loaded => loaded.1.of_book) fun _ _ holding => holding
  obtain ⟨b, here, owns⟩ := Scope.holds_iff.mp (own db loaded.1)
  cases here.symm.trans loaded.2
  exact viewContext_within loaded.1.consistent here owns

/-! ## Many bookings -/

theorem listed_within (consistent : Consistent db) (query : ListBookingsQuery) :
    matchingBookings (db.within S) S.owns query = matchingBookings db S.owns query ∧
      (matchingBookings db S.owns query).filterMap (joinRow (db.within S)) =
        (matchingBookings db S.owns query).filterMap (joinRow db) := by
  constructor
  · rw [matchingBookings, Db.within_bookings]
    exact Table.select_keep fun _ b _ selected => (Bool.and_eq_true_iff.mp selected).1
  refine List.filterMap_congr fun row among => ?_
  obtain ⟨here, selected⟩ := Table.mem_select.mp among
  have own := (Bool.and_eq_true_iff.mp selected).1
  obtain ⟨r, stored, kept, -, -⟩ := consistent.room here own
  simp only [joinRow, stored, kept, within_venue (Scope.owns.sees own)]

/-- A page of bookings, for whoever reads the same rows. -/
theorem confined_page {ι : Type} {w : Sharing ι Db} {i : ι} {Q : Db → Prop}
    {inOrder : List ListedBooking → List ListedBooking} {query : ListBookingsQuery}
    {principal : AuthPrincipal}
    (same : ∀ inScope, scopeFilter principal = pure inScope → ∀ db, Q db →
      matchingBookings (w.part i db) inScope query = matchingBookings db inScope query ∧
        (matchingBookings db inScope query).filterMap (joinRow (w.part i db)) =
          (matchingBookings db inScope query).filterMap (joinRow db)) :
    Confined w i Q (fun _ => Q) (list inOrder query principal) := by
  have under : ∀ inScope, scopeFilter principal = pure inScope →
      Confined w i Q (fun _ => Q) (list inOrder query principal) := by
    intro inScope filtered
    rw [list, filtered, pure_bind]
    refine .ite (fun _ => .aborts) fun _ =>
      .bind (.peek fun db holds => ?_) fun rows =>
      .bind (.peek fun db holds => ?_) fun total => .ret fun _ holds => holds
    · obtain ⟨matched, joined⟩ := same inScope filtered db holds
      rw [matched, joined]
    · rw [(same inScope filtered db holds).1]
  rcases principal with ⟨userId, role, venueId⟩
  cases role with
  | platformAdmin => exact under _ rfl
  | customer => exact under _ rfl
  | venueAdmin =>
      cases venueId with
      | some venueId => exact under _ rfl
      | none => exact .aborts
  | venueStaff =>
      cases venueId with
      | some venueId => exact under _ rfl
      | none => exact .aborts

theorem confined_list {t : Tenant} {inOrder : List ListedBooking → List ListedBooking}
    {query : ListBookingsQuery} :
    Confined tenants t.scope (Holding C) (fun _ => Holding C)
      (list inOrder query t.principal) := by
  refine confined_page fun inScope filtered db holding => ?_
  obtain rfl : t.scope.owns = inScope := by
    have same := congrFun (t.scopeFilter.symm.trans filtered) db
    exact (Prod.mk.inj (Except.ok.inj same)).1
  exact listed_within holding.consistent query

/-! ## The revenue report -/

section Revenue

variable {v : Uuid} {query : RevenueReportQuery}

theorem bookingsInRange_within :
    bookingsInRange (db.within (.venue v)) v query = bookingsInRange db v query := by
  rw [bookingsInRange, Db.within_bookings]
  exact Table.select_keep fun _ b _ selected => decide_eq_true (of_decide_eq_true selected).1

theorem paymentsInRange_within :
    paymentsInRange (db.within (.venue v)) v query = paymentsInRange db v query := by
  -- A booking in range is an own one, and is found as it is.
  have found : ∀ id, ((db.within (.venue v)).bookings.get? id).any (inRange v query) =
      (db.bookings.get? id).any (inRange v query) := by
    intro id
    rw [Db.within_bookings, Table.get?_keep]
    cases db.bookings.get? id with
    | none => rfl
    | some b =>
        cases ranged : inRange v query b with
        | true =>
            have own : (Scope.venue v).owns b = true := decide_eq_true (of_decide_eq_true ranged).1
            simp only [Option.filter, own, if_true]
        | false =>
            cases own : (Scope.venue v).owns b <;> simp [Option.filter, own, ranged]
  simp only [paymentsInRange, found]
  rw [Db.within_payments]
  refine Table.select_keep fun _ p _ selected => ?_
  obtain ⟨b, here, ranged⟩ := (Option.any_eq_true _ _).mp selected
  exact Scope.holds_iff.mpr ⟨b, here, decide_eq_true (of_decide_eq_true ranged).1⟩

/-- The rooms with a booking in range, each with its bookings. -/
def roomGroups (db : Db) (v : Uuid) (query : RevenueReportQuery) :
    List ((Uuid × Room) × List (Uuid × Booking)) :=
  (db.rooms.rows.map fun room =>
    (room, (bookingsInRange db v query).filter fun row => row.2.roomId = room.1)).filter
      fun group => !group.2.isEmpty

theorem roomGroups_within (consistent : Consistent db) :
    roomGroups (db.within (.venue v)) v query = roomGroups db v query := by
  simp only [roomGroups, bookingsInRange_within, List.filter_map]
  congr 1
  rw [Db.within_rooms, Table.keep, List.filter_filter]
  refine List.filter_congr fun room among => ?_
  simp only [Function.comp_apply]
  -- A room that has a booking in range is of the venue.
  cases some_ : !((bookingsInRange db v query).filter fun row =>
      decide (row.2.roomId = room.1)).isEmpty with
  | false => simp
  | true =>
      rw [Bool.not_eq_true', List.isEmpty_eq_false_iff] at some_
      obtain ⟨row, booked⟩ := List.exists_mem_of_ne_nil _ some_
      obtain ⟨inTable, own⟩ := List.mem_filter.mp booked
      obtain ⟨here, ranged⟩ := Table.mem_select.mp inTable
      obtain ⟨r, stored, same⟩ := consistent.rooms row.1 row.2 here
      have mine : row.2.venueId = v := by
        simp only [inRange, decide_eq_true_eq] at ranged
        exact ranged.1
      rw [of_decide_eq_true own] at stored
      cases (Table.mem_rows.mp among).symm.trans stored
      simp [Scope.sees, same, mine]

/-- A party that reads the same of a venue's bookings and payments in range. -/
structure ReadsAlike {ι : Type} (w : Sharing ι Db) (i : ι) (v : Uuid) (query : RevenueReportQuery)
    (Q : Db → Prop) : Prop where
  venue : ∀ db, Q db → (w.part i db).venues.get? v = db.venues.get? v
  rows : ∀ db, Q db → bookingsInRange (w.part i db) v query = bookingsInRange db v query
  paid : ∀ db, Q db → paymentsInRange (w.part i db) v query = paymentsInRange db v query
  groups : ∀ db, Q db → roomGroups (w.part i db) v query = roomGroups db v query

section Report

variable {ι : Type} {w : Sharing ι Db} {i : ι} {Q : Db → Prop}

theorem confined_castInt {n : Int} : Confined w i Q (fun _ => Q) (castInt n) :=
  .ite (fun _ => .ret fun _ holds => holds) fun _ => .abort _

theorem confined_mapM {ε α β : Type} {f : α → Tx ε Db β} :
    ∀ {l : List α}, (∀ a ∈ l, Confined w i Q (fun _ => Q) (f a)) →
      Confined w i Q (fun _ => Q) (l.mapM f)
  | [], _ => by
      rw [List.mapM_nil]
      exact .ret fun _ holds => holds
  | a :: l, each => by
      rw [List.mapM_cons]
      exact .bind (each a List.mem_cons_self) fun _ =>
        .bind (confined_mapM fun b among => each b (List.mem_cons_of_mem a among)) fun _ =>
          .ret fun _ holds => holds

theorem confined_totals (alike : ReadsAlike w i v query Q) :
    Confined w i Q (fun _ => Q) (totals v query) := by
  refine .bind (.peek alike.rows) fun rows => ?_
  iterate 7 refine .bind confined_castInt fun _ => ?_
  exact .bind confined_castInt fun _ => .ret fun _ holds => holds

theorem confined_byRoom (alike : ReadsAlike w i v query Q) :
    Confined w i Q (fun _ => Q) (byRoom v query) := by
  have grouped : byRoom v query = (do
      let groups ← Tx.read (roomGroups · v query)
      let found ← groups.mapM fun group => do
        let bookings ← castInt group.2.length
        let minutes ← bookedMinutes group.2
        pure (⟨group.1.1, group.1.2.name, bookings, minutes, grossMinor group.2⟩ : RoomRevenue)
      pure (found.insertionSort byGrossText)) := rfl
  rw [grouped]
  refine .bind (.peek alike.groups) fun groups =>
    .bind (confined_mapM fun group _ => ?_) fun _ => .ret fun _ holds => holds
  exact .bind confined_castInt fun _ => .bind confined_castInt fun _ => .ret fun _ holds => holds

theorem confined_byDay {localDay : String → Instant → Option String} {timezone : String}
    (alike : ReadsAlike w i v query Q) :
    Confined w i Q (fun _ => Q) (byDay localDay v query timezone) := by
  refine .bind (.peek alike.rows) fun rows =>
    .bind (confined_mapM fun row _ => ?_) fun dated =>
      confined_mapM fun day _ => .bind confined_castInt fun _ => .ret fun _ holds => holds
  exact .fetch (fun _ _ => rfl) fun _ _ holds _ => holds

theorem confined_openMinutes {env : Env} {venue : Venue} {roomCount : Nat} :
    Confined w i Q (fun _ => Q) (openMinutes env venue query roomCount) := by
  refine .ite (fun _ => .ret fun _ holds => holds) fun _ => ?_
  cases parseOperatingHours venue.operatingHours with
  | none => exact .ret fun _ holds => holds
  | some hours =>
      cases env.timeZone venue.timezone with
      | none => exact .abort _
      | some zone => exact .ret fun _ holds => holds

/-- **The report of one venue.** -/
theorem confined_revenue {env : Env} {localDay : String → Instant → Option String}
    {principal : AuthPrincipal}
    (alike : ∀ v, principal.venueId = some v → ReadsAlike w i v query Q) :
    Confined w i Q (fun _ => Q) (revenue env localDay principal query) := by
  refine .bind (.fetch (Q := fun v db => principal.venueId = some v ∧ Q db) (fun _ _ => rfl)
    fun db v holds found => ⟨found, holds⟩) fun v => .given fun own => ?_
  have alike := alike v own
  refine .bind (.fetch (Q := fun _ => Q) (fun db holds => alike.venue db holds)
    fun _ _ holds _ => holds) fun venue => ?_
  exact .bind (confined_totals alike) fun sums =>
    .bind (.peek fun db holds => congrArg refundedSum (alike.paid db holds)) fun refundedMinor =>
      .bind (confined_byRoom alike) fun rooms => .bind (confined_byDay alike) fun days =>
        .bind confined_openMinutes fun minutes => .ret fun _ holds => holds

end Report

/-- A venue reads its own bookings, payments and rooms. -/
theorem readsAlike : ReadsAlike tenants (.venue v) v query (Holding C) where
  venue _ _ := within_venue (decide_eq_true rfl)
  rows _ _ := bookingsInRange_within
  paid _ _ := paymentsInRange_within
  groups _ holding := roomGroups_within holding.consistent

end Revenue

end Atrium
