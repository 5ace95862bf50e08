/-
# BookingStateMachine -- the only place `bookings.status` is written

Four paths write a status: `createHeld`, `transition`, and the two bulk expiries.
Each writes the matching audit row in the same transaction.  A `_ok` theorem says
what a path that returned has done, guards included; nothing outside this module
unfolds one.
-/
import Atrium.Schema

namespace Atrium

open Atrium.Base

set_option autoImplicit false

/-! ## The table of moves -/

def legalTransitions : BookingStatus → List BookingStatus
  | .draft => [.held]
  | .held => [.pendingPayment, .expired, .cancelled]
  | .pendingPayment => [.confirmed, .failed, .expired]
  | .confirmed => [.cancelled, .completed]
  | .completed => []
  | .expired => []
  | .failed => []
  | .cancelled => [.refunded]
  | .refunded => []

def isLegalTransition (source target : BookingStatus) : Bool :=
  decide (target ∈ legalTransitions source)

/-! ## Rows -/

/-- The columns a transition may write beside the status; `none` is a column the
patch leaves out. -/
structure BookingPatch where
  expiresAt : Option (Option Instant)
  policySnapshot : Option (Option Json)
  totalMinor : Option Minor
  rearmCount : Option Int

namespace BookingPatch

def empty : BookingPatch := ⟨none, none, none, none⟩

def apply (patch : BookingPatch) (b : Booking) : Booking :=
  { b with
    expiresAt := patch.expiresAt.getD b.expiresAt
    policySnapshot := patch.policySnapshot.getD b.policySnapshot
    totalMinor := patch.totalMinor.getD b.totalMinor
    rearmCount := patch.rearmCount.getD b.rearmCount }

end BookingPatch

namespace Booking

/-- `expires_at < t`, as SQL has it: a null deadline is before nothing. -/
def lapsedBefore (b : Booking) (t : Instant) : Bool :=
  match b.expiresAt with
  | some e => decide (e < t)
  | none => false

/-- `expiresAt !== null && expiresAt <= t`. -/
def lapsedAt (b : Booking) (t : Instant) : Bool :=
  match b.expiresAt with
  | some e => decide (e ≤ t)
  | none => false

def active (b : Booking) : Bool := decide (b.status ∈ activeBookingStatuses)

/-- The stored `slot`: the booked period and the fifteen minutes after it. -/
def slotEnd (b : Booking) : Instant := b.endsAt + 15 * 60 * 1000

/-- `room_id WITH =, slot WITH &&`. -/
def overlaps (b c : Booking) : Bool :=
  decide (b.roomId = c.roomId ∧ b.startsAt < c.slotEnd ∧ c.startsAt < b.slotEnd)

end Booking

namespace Db

@[simps] def modifyBooking (db : Db) (id : Uuid) (f : Booking → Booking) : Db :=
  { db with bookings := db.bookings.modify id f }

@[simps] def audit (db : Db) (entry : AuditEvent) : Db :=
  { db with auditEvents := db.auditEvents ++ [entry] }

/-- What the bulk expiries write: every row of `ids` to EXPIRED, one audit row each. -/
@[simps] def expire (db : Db) (ids : List Uuid) (now : Instant) (actor : Actor) (reason : String) : Db :=
  { db with
    bookings := db.bookings.update fun id b =>
      if id ∈ ids then { b with status := .expired, updatedAt := now } else b
    auditEvents := db.auditEvents ++ ids.map fun id => ⟨id, actor, .held, .expired, reason⟩ }

end Db

/-! ## Creating a booking -/

structure NewBooking where
  venueId : Uuid
  roomId : Uuid
  userId : Uuid
  startsAt : Instant
  endsAt : Instant
  expiresAt : Instant
  totalMinor : Minor
  currency : String

def NewBooking.row (values : NewBooking) (now : Instant) : Booking where
  venueId := values.venueId
  roomId := values.roomId
  userId := values.userId
  startsAt := values.startsAt
  endsAt := values.endsAt
  status := .held
  expiresAt := some values.expiresAt
  rearmCount := 0
  policySnapshot := none
  totalMinor := values.totalMinor
  currency := values.currency
  createdAt := now
  updatedAt := now

/-- The rows `no_room_overlap` sets against a new one. -/
def roomConflicts (db : Db) (b : Booking) : List (Uuid × Booking) :=
  db.bookings.select fun _ c => c.active && c.overlaps b

/-- `INSERT INTO bookings`: the range of its total, the interval check, the exclusion
constraint, the primary key and the reference to its user, in the order a row meets them. -/
def insertBooking (id : Uuid) (b : Booking) : Transaction Unit := do
  if fitsBigint b.totalMinor = false then Tx.abort (.database "22003")
  if b.endsAt ≤ b.startsAt then Tx.abort (.database "23514")
  let conflicts ← Tx.read (roomConflicts · b)
  if conflicts ≠ [] then Tx.abort (.database "23P01")
  let bookings ← Tx.fetch (fun db => db.bookings.insert? id b) (.database "23505")
  -- A reference is checked at the end of the statement.  Those to the room and the venue hold:
  -- both rows have been read, and no route deletes one.
  let known ← Tx.read fun db => decide (b.userId ∈ db.users)
  if known = false then Tx.abort (.database "23503")
  Tx.write fun db => { db with bookings := bookings }

def insertAudit (entry : AuditEvent) : Transaction Unit := Tx.write (·.audit entry)

/-- Create a booking directly in HELD, recorded as DRAFT to HELD.  `id` is the
generated key and `now` the transaction's own instant. -/
def createHeld (id : Uuid) (now : Instant) (values : NewBooking) (actor : Actor)
    (reason : String) : Transaction Booking := do
  insertBooking id (values.row now)
  insertAudit ⟨id, actor, .draft, .held, reason⟩
  pure (values.row now)

/-! ## Transitions -/

def lockForUpdate (bookingId : UuidText) : Transaction Booking :=
  Tx.fetch (·.bookings.get? bookingId.value) (.notFound "Not Found")

def labels (statuses : List BookingStatus) : String :=
  String.intercalate ", " (statuses.map BookingStatus.label)

/-- `expectedFrom`, where the caller gives one. -/
def requireExpected (bookingId : UuidText) (expectedFrom : Option (List BookingStatus))
    (source : BookingStatus) : Transaction Unit :=
  match expectedFrom with
  | none => pure ()
  | some expected =>
      if source ∈ expected then pure ()
      else Tx.abort (.conflict
        ("Booking is " ++ source.label ++ ", expected one of " ++ labels expected)
        (.state bookingId.text source))

structure TransitionInput where
  bookingId : UuidText
  target : BookingStatus
  actor : Actor
  reason : String
  expectedFrom : Option (List BookingStatus)
  patch : BookingPatch

/-- The row a transition leaves. -/
def TransitionInput.updated (input : TransitionInput) (now : Instant) (b : Booking) : Booking :=
  input.patch.apply { b with status := input.target, updatedAt := now }

/-- Apply one transition; 409 if it is not legal from the row's current state. -/
def transition (now : Instant) (input : TransitionInput) : Transaction Booking := do
  let locked ← lockForUpdate input.bookingId
  requireExpected input.bookingId input.expectedFrom locked.status
  if isLegalTransition locked.status input.target then
    Tx.write (·.modifyBooking input.bookingId.value (input.updated now))
    insertAudit ⟨input.bookingId.value, input.actor, locked.status, input.target, input.reason⟩
    pure (input.updated now locked)
  else
    Tx.abort (.conflict
      ("Illegal transition " ++ locked.status.label ++ " -> " ++ input.target.label)
      (.transition input.bookingId.text locked.status input.target
        (legalTransitions locked.status)))

structure SideEffectInput where
  bookingId : UuidText
  actor : Actor
  reason : String
  expectedFrom : Option (List BookingStatus)
  patch : BookingPatch

def SideEffectInput.updated (input : SideEffectInput) (now : Instant) (b : Booking) : Booking :=
  input.patch.apply { b with updatedAt := now }

/-- Change a booking's other columns, with an audit row from its state to itself. -/
def recordSideEffect (now : Instant) (input : SideEffectInput) : Transaction Booking := do
  let locked ← lockForUpdate input.bookingId
  requireExpected input.bookingId input.expectedFrom locked.status
  Tx.write (·.modifyBooking input.bookingId.value (input.updated now))
  insertAudit ⟨input.bookingId.value, input.actor, locked.status, locked.status, input.reason⟩
  pure (input.updated now locked)

/-! ## Bulk expiry -/

def stale (b : Booking) (now : Instant) : Bool :=
  decide (b.status = .held) && b.lapsedBefore now

/-- The rows `expireStaleHoldsForRoom` updates. -/
def staleHoldsOfRoom (db : Db) (roomId : Uuid) (now : Instant) : List Uuid :=
  (db.bookings.select fun _ b => decide (b.roomId = roomId) && stale b now).map Prod.fst

/-- Flip every stale HELD row of one room to EXPIRED, and audit each one. -/
def expireStaleHoldsForRoom (roomId : Uuid) (now : Instant) : Transaction (List Uuid) := do
  let ids ← Tx.read (staleHoldsOfRoom · roomId now)
  Tx.write (·.expire ids now systemActor "hold.expired.in_transaction")
  pure ids

/-- `ORDER BY expires_at`; a stale row has a deadline. -/
def byDeadline (p q : Uuid × Booking) : Prop :=
  p.2.expiresAt.getD 0 ≤ q.2.expiresAt.getD 0

instance : DecidableRel byDeadline := fun _ _ => inferInstanceAs (Decidable (_ ≤ _))

instance : Std.Total byDeadline where
  total p q := le_total (p.2.expiresAt.getD 0) (q.2.expiresAt.getD 0)

instance : IsTrans (Uuid × Booking) byDeadline where
  trans _ _ _ := le_trans

/-- The rows `expireStaleHolds` updates: the first `limit` stale ones, without
those another transaction has locked. -/
def staleHolds (db : Db) (limit : Nat) (now : Instant) (locked : List Uuid) : List Uuid :=
  ((db.bookings.select fun id b => stale b now && decide (id ∉ locked)).insertionSort
    byDeadline |>.take limit).map Prod.fst

/-- Flip up to `limit` stale HELD rows platform-wide. -/
def expireStaleHolds (limit : Nat) (now : Instant) (locked : List Uuid) :
    Transaction (List Uuid) := do
  let ids ← Tx.read (staleHolds · limit now locked)
  Tx.write (·.expire ids now systemActor "hold.expired.sweeper")
  pure ids

/-! ## What a returned call has done -/

theorem insertBooking_ok {id : Uuid} {b : Booking} {db db' : Db} {u : Unit}
    (returned : insertBooking id b db = .ok (u, db')) :
    b.startsAt < b.endsAt ∧ roomConflicts db b = [] ∧
      ∃ bookings, db.bookings.insert? id b = some bookings ∧
        db' = { db with bookings := bookings } := by
  simp only [insertBooking, Tx.bind_ok, Tx.ite_ok, Tx.abort_ok, Tx.read_ok, Tx.fetch_ok,
    Tx.write_ok] at returned
  grind

theorem createHeld_ok {id : Uuid} {now : Instant} {values : NewBooking} {actor : Actor}
    {reason : String} {db db' : Db} {b : Booking}
    (returned : createHeld id now values actor reason db = .ok (b, db')) :
    b = values.row now ∧ values.startsAt < values.endsAt ∧
      roomConflicts db (values.row now) = [] ∧
      ∃ bookings, db.bookings.insert? id (values.row now) = some bookings ∧
        db' = { db with
          bookings := bookings
          auditEvents := db.auditEvents ++ [⟨id, actor, .draft, .held, reason⟩] } := by
  simp only [createHeld, insertAudit, Tx.bind_ok, Tx.write_ok, Tx.pure_ok] at returned
  obtain ⟨_, t, inserted, _, _, rfl, rfl, rfl⟩ := returned
  obtain ⟨interval, conflicts, bookings, fresh, rfl⟩ := insertBooking_ok inserted
  exact ⟨rfl, interval, conflicts, bookings, fresh, rfl⟩

@[simp] theorem requireExpected_ok {bookingId : UuidText}
    {expectedFrom : Option (List BookingStatus)} {source : BookingStatus} {db db' : Db} {u : Unit} :
    requireExpected bookingId expectedFrom source db = .ok (u, db') ↔
      (∀ expected, expectedFrom = some expected → source ∈ expected) ∧ db = db' := by
  cases expectedFrom <;> simp [requireExpected]

theorem transition_ok {now : Instant} {input : TransitionInput} {db db' : Db} {b' : Booking} :
    transition now input db = .ok (b', db') ↔
      ∃ b, db.bookings.get? input.bookingId.value = some b ∧
        (∀ expected, input.expectedFrom = some expected → b.status ∈ expected) ∧
        input.target ∈ legalTransitions b.status ∧ b' = input.updated now b ∧
        db' = (db.modifyBooking input.bookingId.value (input.updated now)).audit
            ⟨input.bookingId.value, input.actor, b.status, input.target, input.reason⟩ := by
  simp only [transition, lockForUpdate, insertAudit, isLegalTransition, Tx.bind_ok, Tx.fetch_ok,
    Tx.ite_ok, Tx.write_ok, Tx.abort_ok, Tx.pure_ok, requireExpected_ok, decide_eq_true_eq]
  grind

theorem recordSideEffect_ok {now : Instant} {input : SideEffectInput} {db db' : Db}
    {b' : Booking} :
    recordSideEffect now input db = .ok (b', db') ↔
      ∃ b, db.bookings.get? input.bookingId.value = some b ∧
        (∀ expected, input.expectedFrom = some expected → b.status ∈ expected) ∧
        b' = input.updated now b ∧
        db' = (db.modifyBooking input.bookingId.value (input.updated now)).audit
            ⟨input.bookingId.value, input.actor, b.status, b.status, input.reason⟩ := by
  simp only [recordSideEffect, lockForUpdate, insertAudit, Tx.bind_ok, Tx.fetch_ok, Tx.write_ok,
    Tx.pure_ok, requireExpected_ok]
  grind

theorem mem_staleHoldsOfRoom {db : Db} {roomId id : Uuid} {now : Instant} :
    id ∈ staleHoldsOfRoom db roomId now ↔
      ∃ b, db.bookings.get? id = some b ∧ b.roomId = roomId ∧ b.status = .held ∧
        b.lapsedBefore now = true := by
  simp [staleHoldsOfRoom, Table.mem_select, stale]

theorem mem_staleHolds {db : Db} {limit : Nat} {now : Instant} {locked : List Uuid} {id : Uuid}
    (selected : id ∈ staleHolds db limit now locked) :
    ∃ b, db.bookings.get? id = some b ∧ b.status = .held ∧ b.lapsedBefore now = true ∧
      id ∉ locked := by
  simp only [staleHolds, List.mem_map, Prod.exists, exists_and_right, exists_eq_right] at selected
  obtain ⟨b, taken⟩ := selected
  have among := (List.mem_insertionSort _).mp (List.mem_of_mem_take taken)
  simp only [Table.mem_select, stale, Bool.and_eq_true, decide_eq_true_eq] at among
  exact ⟨b, among.1, among.2.1.1, among.2.1.2, among.2.2⟩

/-! ## The legal moves -/

theorem active_of_move {source target : BookingStatus} (legal : target ∈ legalTransitions source)
    (active : target ∈ activeBookingStatuses) (created : source ≠ .draft) :
    source ∈ activeBookingStatuses := by
  revert legal active created
  cases source <;> cases target <;> decide

end Atrium
