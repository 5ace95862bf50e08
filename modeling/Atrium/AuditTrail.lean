/-
# AuditTrail -- the audit log is the path each booking took

The rows of the log whose two states differ are the moves.  A step adds to the
moves of a booking exactly the change of its status, which is legal; so over a
run they are a path from DRAFT to the status the booking has.
-/
import Atrium.Base.Trail
import Atrium.BookingChange

namespace Atrium

open Atrium.Base

set_option autoImplicit false

/-- The moves of one booking in a log, in commit order. -/
def movesIn (rows : List AuditEvent) (id : Uuid) : List (BookingStatus × BookingStatus) :=
  (rows.filter fun row => decide (row.bookingId = id ∧ row.fromState ≠ row.toState)).map
    fun row => (row.fromState, row.toState)

/-- The status of a booking; DRAFT before it is created. -/
def statusOf (db : Db) (id : Uuid) : BookingStatus :=
  ((db.bookings.get? id).map Booking.status).getD .draft

def legal (source target : BookingStatus) : Prop := target ∈ legalTransitions source

/-! ## The log of a change -/

theorem movesIn_append (rows rows' : List AuditEvent) (id : Uuid) :
    movesIn (rows ++ rows') id = movesIn rows id ++ movesIn rows' id := by
  simp [movesIn]

theorem movesIn_selfEdges {rows : List AuditEvent} (self : selfEdges rows) (id : Uuid) :
    movesIn rows id = [] := by
  simp only [movesIn, List.map_eq_nil_iff, List.filter_eq_nil_iff, decide_eq_true_eq, not_and,
    not_not]
  exact fun row here _ => self row here

theorem movesIn_cons_self {row : AuditEvent} {rows : List AuditEvent} {id : Uuid}
    (self : selfEdges rows) (own : row.bookingId = id) :
    movesIn (row :: rows) id = changeOf row.fromState row.toState := by
  have rest := movesIn_selfEdges self id
  rw [← List.singleton_append, movesIn_append, rest, List.append_nil]
  by_cases same : row.fromState = row.toState
  · simp [movesIn, changeOf, same]
  · simp [movesIn, changeOf, same, own]

theorem movesIn_cons_ne {row : AuditEvent} {rows : List AuditEvent} {id : Uuid}
    (self : selfEdges rows) (other : row.bookingId ≠ id) : movesIn (row :: rows) id = [] := by
  have rest := movesIn_selfEdges self id
  rw [← List.singleton_append, movesIn_append, rest, List.append_nil]
  simp [movesIn, other]

/-- One row an expired booking, and none for any other. -/
theorem movesIn_expired {ids : List Uuid} (nodup : ids.Nodup) (actor : Actor) (reason : String)
    (id : Uuid) :
    movesIn (ids.map fun id => ⟨id, actor, .held, .expired, reason⟩) id =
      if id ∈ ids then [(.held, .expired)] else [] := by
  induction ids with
  | nil => rfl
  | cons first ids ih =>
      rw [List.nodup_cons] at nodup
      rw [List.map_cons, ← List.singleton_append, movesIn_append, ih nodup.2]
      by_cases own : first = id
      · subst own
        simp [movesIn, nodup.1]
      · simp [movesIn, own, Ne.symm own]

/-- A table of rows some of which the bulk expiry has moved. -/
theorem statusOf_expire (db : Db) (ids : List Uuid) (now : Instant) (actor : Actor)
    (reason : String) (id : Uuid) :
    statusOf (db.expire ids now actor reason) id =
      if id ∈ ids ∧ (db.bookings.get? id).isSome then .expired else statusOf db id := by
  simp only [statusOf, Db.expire_bookings, Table.get?_update, Option.map_map]
  cases found : db.bookings.get? id with
  | none => simp
  | some b => by_cases here : id ∈ ids <;> simp [here]

theorem statusOf_congr {db db' : Db} (same : db'.bookings = db.bookings) (id : Uuid) :
    statusOf db' id = statusOf db id := by
  simp [statusOf, same]

theorem statusOf_some {db : Db} {id : Uuid} {b : Booking} (found : db.bookings.get? id = some b) :
    statusOf db id = b.status := by
  simp [statusOf, found]

/-- The bulk expiry logs the moves it makes. -/
theorem expire_logged {db : Db} {ids : List Uuid} {now : Instant} (nodup : ids.Nodup)
    (staleRows : ∀ id ∈ ids, ∃ b, db.bookings.get? id = some b ∧ stale b now = true)
    (at_ : Instant) (actor : Actor) (reason : String) (id : Uuid) :
    movesIn (db.expire ids at_ actor reason).auditEvents id =
        movesIn db.auditEvents id ++
          changeOf (statusOf db id) (statusOf (db.expire ids at_ actor reason) id) ∧
      (statusOf db id ≠ statusOf (db.expire ids at_ actor reason) id →
        legal (statusOf db id) (statusOf (db.expire ids at_ actor reason) id)) := by
  rw [Db.expire_auditEvents, movesIn_append, movesIn_expired nodup, statusOf_expire]
  by_cases here : id ∈ ids
  · obtain ⟨b, found, isStale⟩ := staleRows id here
    have held : b.status = .held := by
      simp only [stale, Bool.and_eq_true, decide_eq_true_eq] at isStale
      exact isStale.1
    simp [here, found, statusOf_some found, held, changeOf, legal, legalTransitions]
  · simp [here, Trail.changeOf_self]

/-- **A change logs itself.**  It adds to the moves of each booking the change of its
status, which is legal. -/
theorem BookingChange.logged {env : Env} {db db' : Db} {t : Txn} {ids : List Uuid}
    (change : BookingChange env db db' t ids) (id : Uuid) :
    movesIn db'.auditEvents id =
        movesIn db.auditEvents id ++ changeOf (statusOf db id) (statusOf db' id) ∧
      (statusOf db id ≠ statusOf db' id → legal (statusOf db id) (statusOf db' id)) := by
  cases change with
  | idle _ rows bookings _ log self =>
      simp [log, movesIn_append, movesIn_selfEdges self, statusOf_congr bookings,
        Trail.changeOf_self]
  | moved _ id' b f target actor reason rows found _ step move _ bookings _ log self =>
      rw [log, movesIn_append]
      by_cases own : id' = id
      · subst own
        have after : statusOf db' id' = target := by
          simp [statusOf, bookings, found, move.status]
        rw [movesIn_cons_self self rfl, statusOf_some found, after]
        exact ⟨rfl, fun _ => step⟩
      · have after : statusOf db' id = statusOf db id := by
          simp [statusOf, bookings, Table.get?_modify_ne _ _ (Ne.symm own)]
        rw [movesIn_cons_ne self own, after, Trail.changeOf_self]
        exact ⟨rfl, fun differ => absurd rfl differ⟩
  | rearmed bookingId _ booking b now actor _ _ _ found _ bookings _ log =>
      have after : statusOf db' id = statusOf db id := by
        unfold statusOf
        rw [bookings, Table.map_get?_modify (f := Atrium.rearmed env booking now) (g := Booking.status)
          (fun _ => rfl)]
      have self : selfEdges [⟨bookingId.value, actor, b.status, b.status, "hold.rearmed"⟩] := by
        simp [selfEdges]
      rw [log, movesIn_append, movesIn_selfEdges self, after, Trail.changeOf_self]
      exact ⟨rfl, fun differ => absurd rfl differ⟩
  | expired _ ids now reason nodup staleRows same =>
      obtain ⟨bookings, -, log⟩ := same
      rw [log, statusOf_congr bookings]
      exact expire_logged nodup staleRows now systemActor reason id
  | held input ctx principal stamp expired priced bookings nodup staleRows _ _ fresh same =>
      obtain ⟨table, -, log⟩ := same
      have absent := (Table.insert?_some fresh).1
      have view := expire_logged nodup staleRows stamp.startedAt systemActor
        "hold.expired.in_transaction" id
      rw [log, Db.hold_auditEvents, movesIn_append]
      by_cases own : stamp.id = id
      · subst own
        have before : statusOf (expiredView db stamp expired) stamp.id = .draft := by
          simp [statusOf, absent]
        have missing : db.bookings.get? stamp.id = none := by
          simpa [expiredView] using absent
        have origin : statusOf db stamp.id = .draft := by simp [statusOf, missing]
        have after : statusOf db' stamp.id = .held := by
          simp [statusOf, table, Table.get?_insert? fresh, heldRow, NewBooking.row]
        rw [movesIn_cons_self (by simp [selfEdges]) rfl, expiredView, view.1, after, origin]
        rw [expiredView] at before
        rw [before, Trail.changeOf_self, List.append_nil]
        exact ⟨rfl, fun _ => by simp [legal, legalTransitions]⟩
      · have after : statusOf db' id = statusOf (expiredView db stamp expired) id := by
          simp [statusOf, table, Table.get?_insert? fresh, Ne.symm own]
        rw [movesIn_cons_ne (by simp [selfEdges]) own, List.append_nil, after]
        exact view

/-! ## Runs -/

/-- The moves of every booking lead from DRAFT to its status. -/
def Audited (db : Db) : Prop :=
  ∀ id, Trail legal .draft (movesIn db.auditEvents id) (statusOf db id)

theorem step_logged {env : Env} {a : Action} {api api' : Api} (claimed : RowsClaimed api)
    (stepped : step env a api = some api') (id : Uuid) :
    movesIn api'.db.auditEvents id = movesIn api.db.auditEvents id ++
        changeOf (statusOf api.db id) (statusOf api'.db id) ∧
      (statusOf api.db id ≠ statusOf api'.db id →
        legal (statusOf api.db id) (statusOf api'.db id)) := by
  rcases step_bookings claimed stepped with same | ⟨_, _, _, -, -, change⟩
  · rw [same, Trail.changeOf_self, List.append_nil]
    exact ⟨rfl, fun differ => absurd rfl differ⟩
  · exact change.logged id

theorem step_audited {env : Env} {a : Action} {api api' : Api} (claimed : RowsClaimed api)
    (stepped : step env a api = some api') (audited : Audited api.db) : Audited api'.db := by
  intro id
  obtain ⟨log, step⟩ := step_logged claimed stepped id
  rw [log]
  exact (audited id).extend step

theorem Db.Fresh.audited {db : Db} (fresh : db.Fresh) : Audited db := by
  obtain ⟨bookings, -, -, -, -, log⟩ := fresh
  intro id
  simp [movesIn, statusOf, log, bookings, Trail]

/-- **The audit trail is a path**, and each step extends it by the change it commits:
a transaction that was rolled back adds nothing. -/
theorem audit_trail_is_path {env : Env} {now : Instant} {db : Db} (fresh : db.Fresh) {api : Api}
    (reached : Reachable (step env) (Api.start now db) api) (id : Uuid) :
    Trail legal .draft (movesIn api.db.auditEvents id) (statusOf api.db id) ∧
      (∀ a api', step env a api = some api' →
        movesIn api'.db.auditEvents id = movesIn api.db.auditEvents id ++
          changeOf (statusOf api.db id) (statusOf api'.db id)) ∧
      ∀ a c e api', a.commit? api = some c → c.txn.run env api.db = .error e →
        step env a api = some api' → api'.db = api.db := by
  have claimed := claimed_of_reachable reached
  refine ⟨?_, fun a api' stepped => (step_logged claimed stepped id).1, ?_⟩
  · have both : RowsClaimed api ∧ Audited api.db :=
      reached.invariant (I := fun api => RowsClaimed api ∧ Audited api.db)
        ⟨RowsClaimed.start now db, fresh.audited⟩
        fun a api api' stepped holds =>
          ⟨step_claimed a api api' stepped holds.1, step_audited holds.1 stepped holds.2⟩
    exact both.2 id
  · intro a c e api' commits aborted stepped
    simp only [step, commits, Api.commit, aborted] at stepped
    obtain ⟨-, stepped⟩ := Option.ite_none_right_eq_some.mp stepped
    cases owner : c.pid with
    | none =>
        simp only [owner, Option.some.injEq] at stepped
        rw [← stepped]
    | some pid =>
        simp only [owner, Option.some.injEq] at stepped
        rw [← stepped, Api.become_db]

/-- A hold that was made, cancelled, and left its path. -/
theorem audit_trail_is_path_of_cancelled : ∃ api,
    run (step .default) (Sample.holding 0 Sample.hold 7 0 ++
      [.cancel 1 (Uuid.path 7) "changed plans" Sample.customer 0]) (Api.start 0 Sample.db) =
        some api ∧
      statusOf api.db 7 = .cancelled ∧
      Trail legal .draft (movesIn api.db.auditEvents 7) (statusOf api.db 7) := by
  have ran : ((run (step .default) (Sample.holding 0 Sample.hold 7 0 ++
      [.cancel 1 (Uuid.path 7) "changed plans" Sample.customer 0]) (Api.start 0 Sample.db)).map
        fun api => statusOf api.db 7) = some .cancelled := by
    decide +kernel
  obtain ⟨api, ran, status⟩ := Option.map_eq_some_iff.mp ran
  exact ⟨api, ran, status, (audit_trail_is_path Sample.db_fresh ⟨_, ran⟩ 7).1⟩

end Atrium
