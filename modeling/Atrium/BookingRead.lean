/-
# BookingRead -- the rows requests have read

`checkout` and `pay` decide on a booking row they read without a lock.  The row may
be gone on in status, deadline and re-arms by the time they commit; its terms are
not: the period, the price and the instant of creation are written once.  `ReadsStand`
says so of every row a process holds.
-/
import Atrium.BookingChange

namespace Atrium

open Atrium.Base

set_option autoImplicit false

namespace Booking.sameTerms

theorem refl (b : Booking) : b.sameTerms b := ⟨rfl, rfl, rfl, rfl, rfl, rfl, rfl, rfl⟩

theorem trans {b c d : Booking} (first : b.sameTerms c) (second : c.sameTerms d) :
    b.sameTerms d := by
  obtain ⟨venue, room, user, starts, ends, total, currency, created⟩ := first
  obtain ⟨venue', room', user', starts', ends', total', currency', created'⟩ := second
  exact ⟨venue'.trans venue, room'.trans room, user'.trans user, starts'.trans starts,
    ends'.trans ends, total'.trans total, currency'.trans currency, created'.trans created⟩

end Booking.sameTerms

def bookingsKept (db db' : Db) : Prop :=
  ∀ id b, db.bookings.get? id = some b → ∃ b', db'.bookings.get? id = some b' ∧ b.sameTerms b'

namespace bookingsKept

theorem of_eq {db db' : Db} (same : db'.bookings = db.bookings) : bookingsKept db db' :=
  fun _ b here => ⟨b, same ▸ here, .refl b⟩

theorem modify {db db' : Db} {id : Uuid} {f : Booking → Booking}
    (updated : db'.bookings = db.bookings.modify id f) (terms : ∀ b : Booking, b.sameTerms (f b)) :
    bookingsKept db db' := by
  intro id' b here
  rw [updated]
  by_cases own : id' = id
  · subst own
    exact ⟨f b, by simp [here], terms b⟩
  · exact ⟨b, by rwa [Table.get?_modify_ne _ _ own], .refl b⟩

theorem expire (db : Db) (ids : List Uuid) (now : Instant) (actor : Actor) (reason : String) :
    bookingsKept db (db.expire ids now actor reason) := by
  intro id b here
  rw [Db.expire_bookings, Table.get?_update, here]
  refine ⟨_, rfl, ?_⟩
  split_ifs
  · exact ⟨rfl, rfl, rfl, rfl, rfl, rfl, rfl, rfl⟩
  · exact .refl b

end bookingsKept

/-- **No commit changes the terms of a booking.** -/
theorem BookingChange.bookingsKept {env : Env} {db db' : Db} {t : Txn} {ids : List Uuid}
    (change : BookingChange env db db' t ids) : bookingsKept db db' := by
  cases change with
  | idle _ _ same => exact .of_eq same
  | moved _ _ _ f _ _ _ _ _ _ _ move _ same => exact .modify same move.sameTerms
  | rearmed _ _ _ _ _ _ _ _ _ _ _ same =>
      exact .modify same fun b => ⟨rfl, rfl, rfl, rfl, rfl, rfl, rfl, rfl⟩
  | expired _ _ _ _ _ _ same =>
      intro id b here
      rw [same.1]
      exact bookingsKept.expire _ _ _ _ _ id b here
  | held input ctx principal stamp expired priced bookings _ _ _ _ fresh same =>
      intro id b here
      obtain ⟨b', kept, terms⟩ :=
        bookingsKept.expire db expired stamp.startedAt systemActor "hold.expired.in_transaction" id b here
      refine ⟨b', ?_, terms⟩
      rw [same.1, Db.hold_bookings, Table.get?_insert? fresh]
      have taken : id ≠ stamp.id := by
        rintro rfl
        have absent := (Table.insert?_some fresh).1
        simp only [expiredView] at absent
        rw [kept] at absent
        cases absent
      rw [if_neg taken]
      exact kept

/-- A row that was not there is the one a hold inserted. -/
theorem BookingChange.born {env : Env} {db db' : Db} {t : Txn} {ids : List Uuid}
    (change : BookingChange env db db' t ids) {id : Uuid} {b : Booking}
    (absent : db.bookings.get? id = none) (found : db'.bookings.get? id = some b) :
    ∃ input ctx principal stamp expired priced,
      t = .hold input ctx principal stamp expired priced ∧ id = stamp.id ∧
        b = heldRow env input ctx principal stamp priced ∧
        (∀ item ∈ priced, 0 < item.quantity) ∧
        db'.bookingLineItems = db.bookingLineItems ++ priced.map fun item =>
          ⟨stamp.id, item.equipmentTypeId, item.quantity, item.rateMinor⟩ := by
  cases change with
  | idle _ _ same =>
      rw [same, absent] at found
      cases found
  | moved _ _ _ _ _ _ _ _ _ _ _ _ _ same => simp [same, Table.get?_modify, absent] at found
  | rearmed _ _ _ _ _ _ _ _ _ _ _ same => simp [same, Table.get?_modify, absent] at found
  | expired _ _ _ _ _ _ same => simp [same.1, absent] at found
  | held input ctx principal stamp expired priced bookings _ _ _ positive fresh same =>
      rw [same.1, Db.hold_bookings, Table.get?_insert? fresh] at found
      split_ifs at found with own
      · cases found
        exact ⟨input, ctx, principal, stamp, expired, priced, rfl, own, rfl, positive, same.2.1⟩
      · simp [expiredView, absent] at found

/-! ## Runs -/

/-- The booking row a process has read. -/
def Proc.readBooking : Proc → Option (Uuid × Booking)
  | .checkingOut bookingId _ booking _ | .paying bookingId _ booking _
  | .payingRead bookingId _ booking _ _ => some (bookingId.value, booking)
  | _ => none

/-- Every row a process has read is stored with the same terms. -/
def ReadsStand (api : Api) : Prop :=
  ∀ pid p row, api.procs.get? pid = some p → p.readBooking = some row →
    ∃ b, api.db.bookings.get? row.1 = some b ∧ row.2.sameTerms b

theorem ReadsStand.start (now : Instant) (db : Db) : ReadsStand (Api.start now db) := by
  intro pid p row here
  simp [Api.start] at here

theorem Outcome.next_readBooking {out : Outcome} {p : Proc} (next : out.next = some p) :
    p.readBooking = none := by
  cases out <;> simp only [Outcome.next, reduceCtorEq, Option.some.injEq,
    Option.ite_none_left_eq_some] at next
  · subst next; rfl
  · subst next; rfl
  · rw [← next.2]; rfl

theorem ReadsStand.become {api : Api} (reads : ReadsStand api) {pid : Pid} {p : Option Proc}
    (own : ∀ q row, p = some q → q.readBooking = some row →
      ∃ b, api.db.bookings.get? row.1 = some b ∧ row.2.sameTerms b) :
    ReadsStand (api.become pid p) := by
  intro pid' q row here read
  rw [Api.become_db]
  rw [Api.become_procs] at here
  split_ifs at here
  · exact own q row here read
  · exact reads pid' q row here read

theorem step_readsStand {env : Env} (a : Action) (api api' : Api)
    (stepped : step env a api = some api') (holds : RowsClaimed api ∧ ReadsStand api) :
    RowsClaimed api' ∧ ReadsStand api' := by
  obtain ⟨claimed, reads⟩ := holds
  refine ⟨step_claimed a api api' stepped claimed, ?_⟩
  cases step_cases stepped with
  | committed c out db' enabled free ran =>
      have commits := commit_cases enabled
      obtain ⟨ids, change, -⟩ :=
        (Txn.run_effect ran).bookingChange (commits.expiriesStale claimed)
      intro pid p row here read
      rw [Api.resume_db]
      rw [Api.resume_procs] at here
      split_ifs at here
      · rw [Outcome.next_readBooking here] at read
        cases read
      · obtain ⟨b, stored, terms⟩ := reads pid p row here read
        obtain ⟨b', stored', terms'⟩ := change.bookingsKept row.1 b stored
        exact ⟨b', stored', terms.trans terms'⟩
  | aborted c _ enabled =>
      cases owner : c.pid with
      | none => exact reads
      | some pid =>
          refine reads.become fun q row retry read => ?_
          cases commit_cases enabled <;> cases retry
          cases read
  | unshared _ moved =>
      cases moved with
      | ticked ms => exact reads
      | checkingOut pid bookingId principal booking idle here =>
          refine reads.become fun q row same read => ?_
          cases same
          cases read
          exact ⟨booking, here, .refl booking⟩
      | paying pid bookingId principal booking idle here =>
          refine reads.become fun q row same read => ?_
          cases same
          cases read
          exact ⟨booking, here, .refl booking⟩
      | payingRead pid bookingId principal booking startedAt here =>
          refine reads.become fun q row same read => ?_
          cases same
          exact reads pid _ row here read
      | charged pid request paymentId _ =>
          refine reads.become (p := some (.charged request paymentId)) fun q row same read => ?_
          cases same
          cases read
      | refundSent pid instruction _ =>
          refine reads.become (p := some (.refundSent instruction)) fun q row same read => ?_
          cases same
          cases read
      | _ =>
          refine reads.become fun q row same read => ?_
          cases same <;> cases read

theorem reads_of_reachable {env : Env} {now : Instant} {db : Db} {api : Api}
    (reached : Reachable (step env) (Api.start now db) api) : ReadsStand api :=
  (reached.invariant (I := fun api => RowsClaimed api ∧ ReadsStand api)
    ⟨RowsClaimed.start now db, ReadsStand.start now db⟩ step_readsStand).2

end Atrium
