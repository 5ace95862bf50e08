/-
# OneVenue -- a booking, its room and its equipment are of one venue

`bookings.venue_id` repeats what the room's row says, and no constraint ties the two.  A hold
reads the room before its transaction starts, and locks its equipment types in a later
statement; `Proc.located` is what an open hold carries from the one to the other.  From it,
in every state of every run, a booking is of its room's venue and its line items are of
types of that venue.
-/
import Atrium.Accounts
import Atrium.EquipmentInvariant

namespace Atrium

open Atrium.Base

set_option autoImplicit false

/-! ## What a commit leaves of the bookings -/

/-- A booking after a commit is one that was there before, on the same terms, or the one that
a hold has inserted. -/
theorem BookingChange.source {env : Env} {db db' : Db} {t : Txn} {ids : List Uuid}
    (change : BookingChange env db db' t ids) {id : Uuid} {b' : Booking}
    (found : db'.bookings.get? id = some b') :
    (∃ b, db.bookings.get? id = some b ∧ b.sameTerms b') ∨
      ∃ input ctx principal stamp expired priced,
        t = .hold input ctx principal stamp expired priced ∧ id = stamp.id ∧
          b' = heldRow env input ctx principal stamp priced := by
  have updated : ∀ {id' : Uuid} {f : Booking → Booking}, db'.bookings = db.bookings.modify id' f →
      (∀ b : Booking, b.sameTerms (f b)) → ∃ b, db.bookings.get? id = some b ∧ b.sameTerms b' := by
    intro id' f same terms
    rw [same] at found
    obtain ⟨b, here, rfl⟩ := Table.get?_modify_some.mp found
    refine ⟨b, here, ?_⟩
    split_ifs
    · exact terms b
    · exact .refl b
  have expired : ∀ {ids : List Uuid} {now : Instant} {actor : Actor} {reason : String},
      (db.expire ids now actor reason).bookings.get? id = some b' →
        ∃ b, db.bookings.get? id = some b ∧ b.sameTerms b' := by
    intro ids now actor reason there
    rw [Db.expire_bookings, Table.get?_update, Option.map_eq_some_iff] at there
    obtain ⟨b, here, rfl⟩ := there
    refine ⟨b, here, ?_⟩
    split_ifs
    · exact ⟨rfl, rfl, rfl, rfl, rfl, rfl, rfl, rfl⟩
    · exact .refl b
  cases change with
  | idle _ _ same => exact .inl ⟨b', by rwa [← same], .refl b'⟩
  | moved _ id' b f target actor reason rows here created legal move paid same =>
      exact .inl (updated same move.sameTerms)
  | rearmed bookingId principal booking b now actor live _ _ here status same =>
      exact .inl (updated same fun b => ⟨rfl, rfl, rfl, rfl, rfl, rfl, rfl, rfl⟩)
  | expired _ _ now reason _ _ same => exact .inl (expired (same.1 ▸ found))
  | held input ctx principal stamp stale priced bookings _ _ _ _ fresh same =>
      rw [same.1, Db.hold_bookings, Table.get?_insert? fresh] at found
      by_cases own : id = stamp.id
      · rw [if_pos own, Option.some.injEq] at found
        exact .inr ⟨input, ctx, principal, stamp, stale, priced, rfl, own, found.symm⟩
      · rw [if_neg own] at found
        exact .inl (expired found)

/-- A line item that was not there before is one of a hold's, on the booking it inserts. -/
theorem BookingChange.newItem {env : Env} {db db' : Db} {t : Txn} {ids : List Uuid}
    (change : BookingChange env db db' t ids) {item : BookingLineItem}
    (among : item ∈ db'.bookingLineItems) :
    item ∈ db.bookingLineItems ∨ ∃ input ctx principal stamp expired priced,
      t = .hold input ctx principal stamp expired priced ∧
        item.equipmentTypeId ∈ priced.map PricedItem.equipmentTypeId ∧
        db'.bookings.get? item.bookingId = some (heldRow env input ctx principal stamp priced) := by
  cases change with
  | idle _ _ _ same => exact .inl (same ▸ among)
  | moved _ _ _ _ _ _ _ _ _ _ _ _ _ _ same => exact .inl (same ▸ among)
  | rearmed _ _ _ _ _ _ _ _ _ _ _ _ same => exact .inl (same ▸ among)
  | expired _ _ _ _ _ _ same => exact .inl (same.2.1 ▸ among)
  | held input ctx principal stamp expired priced bookings _ _ _ _ fresh same =>
      rw [same.2.1, Db.hold_bookingLineItems, List.mem_append] at among
      refine among.imp id fun new => ?_
      obtain ⟨row, asked, rfl⟩ := List.mem_map.mp new
      refine ⟨input, ctx, principal, stamp, expired, priced, rfl, List.mem_map_of_mem asked, ?_⟩
      rw [same.1, Db.hold_bookings, Table.get?_insert? fresh, if_pos rfl]

/-! ## What an open hold carries -/

/-- The room of the request is of the venue that was read with it. -/
def HoldTx.located (db : Db) (tx : HoldTx) : Prop :=
  ∃ room, db.rooms.get? tx.input.roomId.value = some room ∧ room.venueId = tx.ctx.venueId

/-- The types are stored, under this venue. -/
def typesOf (db : Db) (venueId : Uuid) (ids : List Uuid) : Prop :=
  ∀ id ∈ ids, ∃ type, db.equipmentTypes.get? id = some type ∧ type.venueId = venueId

def Proc.located (db : Db) : Proc → Prop
  | .holdOpen tx | .holdExpired tx _ => tx.located db
  | .holdLocked tx _ locked => tx.located db ∧ typesOf db tx.ctx.venueId (locked.map Prod.fst)
  | .holdAdmitted tx _ _ priced =>
      tx.located db ∧ typesOf db tx.ctx.venueId (priced.map PricedItem.equipmentTypeId)
  | _ => True

theorem Proc.located_of_idle {p : Proc} {db : Db} (none_open : p.holdTx = none) : p.located db := by
  cases p <;> trivial

theorem Proc.located.congr {p : Proc} {db db' : Db} (located : p.located db)
    (same : sameCatalogue db db') : p.located db' := by
  obtain ⟨-, rooms, types⟩ := same
  have room : ∀ tx : HoldTx, tx.located db → tx.located db' := by
    rintro tx ⟨room, here, own⟩
    exact ⟨room, rooms ▸ here, own⟩
  have type : ∀ venueId ids, typesOf db venueId ids → typesOf db' venueId ids := by
    intro venueId ids stored id among
    rw [types]
    exact stored id among
  cases p with
  | holdOpen tx => exact room tx located
  | holdExpired tx expired => exact room tx located
  | holdLocked tx expired locked => exact ⟨room tx located.1, type _ _ located.2⟩
  | holdAdmitted tx expired locked priced => exact ⟨room tx located.1, type _ _ located.2⟩
  | _ => trivial

/-! ## The invariant -/

/-- The booking's room is of its venue. -/
def Booking.located (db : Db) (b : Booking) : Prop :=
  ∃ room, db.rooms.get? b.roomId = some room ∧ room.venueId = b.venueId

/-- The line item is of a booking, and its type of that booking's venue. -/
def BookingLineItem.located (db : Db) (item : BookingLineItem) : Prop :=
  ∃ b type, db.bookings.get? item.bookingId = some b ∧
    db.equipmentTypes.get? item.equipmentTypeId = some type ∧ type.venueId = b.venueId

structure Located (api : Api) : Prop where
  rooms : ∀ id b, api.db.bookings.get? id = some b → b.located api.db
  items : ∀ item ∈ api.db.bookingLineItems, item.located api.db
  procs : ∀ pid p, api.procs.get? pid = some p → p.located api.db

namespace Located

variable {env : Env} {a : Action} {api api' : Api}

theorem start {db : Db} (fresh : db.Fresh) (now : Instant) : Located (Api.start now db) := by
  obtain ⟨bookings, items, -⟩ := fresh
  exact ⟨by simp [Api.start, bookings], by simp [Api.start, items], by simp [Api.start]⟩

/-- A process that moves on, over the same database. -/
theorem moved (located : Located api) (db : api'.db = api.db)
    (procs : ∀ pid p, api'.procs.get? pid = some p →
      api.procs.get? pid = some p ∨ p.located api.db) : Located api' := by
  refine ⟨db ▸ located.rooms, db ▸ located.items, fun pid p here => ?_⟩
  rw [db]
  exact (procs pid p here).elim (located.procs pid p) id

/-- **What a commit leaves is located.**  A hold inserts under the venue it has read. -/
theorem committed (claimed : RowsClaimed api) (located : Located api) {c : Commit} {out : Outcome}
    {db' : Db} (commits : Commits api a c) (effect : Effect env c.txn api.db db' out) :
    Located (({ api with db := db' } : Api).resume c.pid out.next) := by
  obtain ⟨ids, change, -⟩ := effect.bookingChange (commits.expiriesStale claimed)
  have same := effect.sameCatalogue
  -- The hold of this commit, where it is one.
  have holding : ∀ {input ctx principal stamp expired priced},
      c.txn = .hold input ctx principal stamp expired priced →
        (∃ room, api.db.rooms.get? input.roomId.value = some room ∧ room.venueId = ctx.venueId) ∧
          typesOf api.db ctx.venueId (priced.map PricedItem.equipmentTypeId) := by
    intro input ctx principal stamp expired priced held
    cases commits with
    | hold pid id now tx expired' types priced' own _ =>
        cases held
        exact located.procs pid _ own
    | _ => cases held
  have old : ∀ {id b b'}, api.db.bookings.get? id = some b → b.sameTerms b' → b'.located db' := by
    intro id b b' here terms
    obtain ⟨venue, room, -⟩ := terms
    obtain ⟨r, stored, own⟩ := located.rooms id b here
    exact ⟨r, by rwa [same.2.1, room], by rw [own, venue]⟩
  refine ⟨fun id b' found => ?_, fun item among => ?_, fun pid p here => ?_⟩
  · simp only [Api.resume_db] at found ⊢
    rcases change.source found with ⟨b, here, terms⟩ |
      ⟨input, ctx, principal, stamp, expired, priced, held, -, rfl⟩
    · exact old here terms
    · obtain ⟨room, stored, own⟩ := (holding held).1
      exact ⟨room, by rw [same.2.1]; exact stored, own⟩
  · simp only [Api.resume_db] at among ⊢
    rcases change.newItem among with stood |
      ⟨input, ctx, principal, stamp, expired, priced, held, asked, inserted⟩
    · obtain ⟨b, type, here, stored, own⟩ := located.items item stood
      obtain ⟨b', kept, terms⟩ := change.bookingsKept item.bookingId b here
      exact ⟨b', type, kept, by rw [same.2.2]; exact stored, by rw [own, terms.1]⟩
    · obtain ⟨type, stored, own⟩ := (holding held).2 _ asked
      exact ⟨_, type, inserted, by rw [same.2.2]; exact stored, own⟩
  · rw [Api.resume_procs] at here
    rw [Api.resume_db]
    split_ifs at here with owner
    · exact Proc.located_of_idle (Outcome.next_holdTx here)
    · exact (located.procs pid p here).congr same

/-- A statement that commits nothing. -/
theorem unshared (located : Located api) (moved : Local env api a api') : Located api' := by
  -- A process that goes on as something that is no open hold.
  have goes : ∀ {pid : Pid} {p : Option Proc}, (∀ q, p = some q → q.located api.db) →
      ∀ pid' q, (api.become pid p).procs.get? pid' = some q →
        api.procs.get? pid' = some q ∨ q.located api.db := by
    intro pid p fresh pid' q here
    rw [Api.become_procs] at here
    split_ifs at here
    · exact .inr (fresh q here)
    · exact .inl here
  refine located.moved moved.db fun pid p here => ?_
  cases moved with
  | ticked ms => exact .inl here
  | holdOpened pid' input principal ctx idle read =>
      refine goes (fun q same => ?_) pid p here
      cases same
      obtain ⟨-, room, venue, stored, -, own, -⟩ := loadRoomContext_ok read
      exact ⟨room, stored, own.symm⟩
  | holdExpired pid' tx open_ _ _ =>
      refine goes (fun q same => ?_) pid p here
      cases same
      have room : tx.located api.db := located.procs pid' _ open_
      exact room
  | holdBare pid' tx expired open_ bare =>
      refine goes (fun q same => ?_) pid p here
      cases same
      exact ⟨located.procs pid' _ open_, by simp [typesOf]⟩
  | holdLocked pid' tx expired locked open_ lock free =>
      refine goes (fun q same => ?_) pid p here
      cases same
      refine ⟨located.procs pid' _ open_, fun id among => ?_⟩
      obtain ⟨row, asked, rfl⟩ := List.mem_map.mp among
      obtain ⟨stored, -, own⟩ := (lockRequested_ok lock).2.2 row.1 row.2 asked
      exact ⟨row.2, by simpa [HoldTx.view] using stored, own⟩
  | holdAdmitted pid' tx expired locked priced open_ admission =>
      refine goes (fun q same => ?_) pid p here
      cases same
      obtain ⟨room, types⟩ := located.procs pid' _ open_
      refine ⟨room, ?_⟩
      rw [(admitLocked_ok admission).2.1, List.map_map]
      exact types
  | ended a pid' =>
      refine goes (fun q same => ?_) pid p here
      cases same
  | _ =>
      refine goes (fun q same => ?_) pid p here
      cases same
      trivial

theorem step (claimed : RowsClaimed api) (stepped : Atrium.step env a api = some api')
    (located : Located api) : Located api' := by
  cases step_cases stepped with
  | committed c out db' enabled free ran =>
      exact located.committed claimed (commit_cases enabled) (Txn.run_effect ran)
  | aborted c e enabled =>
      refine located.moved (by rw [Api.resume_db]) fun pid p here => ?_
      rw [Api.resume_procs] at here
      split_ifs at here
      · exact .inr (Proc.located_of_idle ((commit_cases enabled).retry_holdTx here))
      · exact .inl here
  | unshared _ moved => exact located.unshared moved

end Located

theorem located_of_reachable {env : Env} {now : Instant} {db : Db} (fresh : db.Fresh) {api : Api}
    (reached : Reachable (step env) (Api.start now db) api) : Located api :=
  (reached.invariant (I := fun api => RowsClaimed api ∧ Located api)
    ⟨RowsClaimed.start now db, .start fresh now⟩ fun a api api' stepped holds =>
      ⟨step_claimed a api api' stepped holds.1, holds.2.step holds.1 stepped⟩).2

/-- **A booking, its room and its equipment are of one venue**, in every state of every run. -/
theorem one_venue {env : Env} {now : Instant} {db : Db} (fresh : db.Fresh) {api : Api}
    (reached : Reachable (step env) (Api.start now db) api) :
    (∀ id b, api.db.bookings.get? id = some b →
      ∃ room, api.db.rooms.get? b.roomId = some room ∧ room.venueId = b.venueId) ∧
    ∀ item ∈ api.db.bookingLineItems, ∃ b type,
      api.db.bookings.get? item.bookingId = some b ∧
        api.db.equipmentTypes.get? item.equipmentTypeId = some type ∧ type.venueId = b.venueId :=
  have located := located_of_reachable fresh reached
  ⟨located.rooms, located.items⟩

/-- A room held with a projector. -/
theorem one_venue_held : ∃ api, run (step .default) (Sample.holding 0 Sample.hold 7 0)
    (Api.start 0 Sample.db) = some api ∧
      api.db.bookingLineItems.map BookingLineItem.equipmentTypeId = [Sample.projector] ∧
      (∀ id b, api.db.bookings.get? id = some b →
        ∃ room, api.db.rooms.get? b.roomId = some room ∧ room.venueId = b.venueId) ∧
      ∀ item ∈ api.db.bookingLineItems, ∃ b type,
        api.db.bookings.get? item.bookingId = some b ∧
          api.db.equipmentTypes.get? item.equipmentTypeId = some type ∧
            type.venueId = b.venueId := by
  have ran : ((run (step .default) (Sample.holding 0 Sample.hold 7 0) (Api.start 0 Sample.db)).map
      fun api => api.db.bookingLineItems.map BookingLineItem.equipmentTypeId) =
        some [Sample.projector] := by
    decide +kernel
  obtain ⟨api, ran, items⟩ := Option.map_eq_some_iff.mp ran
  exact ⟨api, ran, items, one_venue Sample.db_fresh ⟨_, ran⟩⟩

end Atrium
