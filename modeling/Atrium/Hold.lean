/-
# Hold -- a hold refuses, or commits all of it

`POST /bookings/hold` from one database to the next.  Each of its three stages -- the
venue's rules, the equipment, the insert -- is classified once by what decides it
(`Opening`, `Admission`, `Insertion`), and the whole is read off the three.

`HoldCommitted` says what a successful hold leaves behind, in terms of the request.
It is all the code ever commits, and anything else is a 4xx that leaves no trace, except
on what `Sound` leaves out, which ends in a 500 (`hold_all_or_nothing`): the schema
accepts an equipment id in either letter case, while the quantities are looked up under
the text Postgres writes.
-/
import Atrium.Api
import Atrium.Pricing

namespace Atrium

open Atrium.Base

set_option autoImplicit false

/-- The errors a client is told of as its own: 401, 403, 404, 409 and 422. -/
def ApiError.client : ApiError → Bool
  | .unauthorized _ | .forbidden _ | .notFound _ | .conflict .. | .unprocessable ..
  | .unbookable .. => true
  | .unavailable .. | .database _ | .internal _ => false

/-! ## What a hold leaves behind -/

/-- A HELD row of the room whose deadline has passed. -/
def Booking.lapsedIn (b : Booking) (roomId : Uuid) (now : Instant) : Prop :=
  b.roomId = roomId ∧ b.status = .held ∧ b.lapsedBefore now = true

instance (b : Booking) (roomId : Uuid) (now : Instant) : Decidable (b.lapsedIn roomId now) :=
  inferInstanceAs (Decidable (_ ∧ _))

/-- The line of one requested item: its type's current rate, its own quantity. -/
def requestedLine (db : Db) (bookingId : Uuid) (item : LineItem) : Option BookingLineItem := do
  let id ← uuidOf item.equipmentTypeId
  let row ← db.equipmentTypes.get? id
  some ⟨bookingId, id, item.quantity, row.hourlyRateMinor⟩

def lineAmount (startsAt endsAt : Instant) (line : BookingLineItem) : Minor :=
  (halfHours startsAt endsAt * line.rateMinor * line.quantity).tdiv 2

/-- The units of a type out at once in the requested period. -/
def HoldInput.peak (input : HoldInput) (view : Db) (now : Instant) (id : Uuid) : Int :=
  SweepLine.peak (usageEvents view id input.startsAt input.endsAt now)

/-- The new row. -/
def newHold (env : Env) (input : HoldInput) (principal : AuthPrincipal) (stamp : HoldStamp)
    (venueId : Uuid) (totalMinor : Minor) : Booking where
  venueId := venueId
  roomId := input.roomId.value
  userId := principal.userId
  startsAt := input.startsAt
  endsAt := input.endsAt
  status := .held
  expiresAt := some (stamp.now + env.holdTtlSeconds * 1000)
  rearmCount := 0
  policySnapshot := none
  totalMinor := totalMinor
  currency := "PKR"
  createdAt := stamp.startedAt
  updatedAt := stamp.startedAt

/-- Everything a hold commits, and nothing else: the room's lapsed holds expired with an
audit row each, one new booking with its audit row, and one line per requested item. -/
structure HoldCommitted (env : Env) (input : HoldInput) (principal : AuthPrincipal)
    (stamp : HoldStamp) (db db' : Db) (room : Room) (venue : Venue) (expired : List Uuid)
    (lines : List BookingLineItem) : Prop where
  inRoom : db.rooms.get? input.roomId.value = some room
  atVenue : db.venues.get? room.venueId = some venue
  lapsed : expired.Nodup ∧ ∀ id, id ∈ expired ↔
    ∃ b, db.bookings.get? id = some b ∧ b.lapsedIn input.roomId.value stamp.startedAt
  requested : List.Forall₂ (fun item line => requestedLine db stamp.id item = some line)
    input.lineItems lines
  bookings : ∀ id, db'.bookings.get? id =
    if id = stamp.id then
      some (newHold env input principal stamp room.venueId
        (roomAmount room.hourlyRateMinor input.startsAt input.endsAt +
          (lines.map (lineAmount input.startsAt input.endsAt)).sum))
    else
      (db.bookings.get? id).map fun b =>
        if b.lapsedIn input.roomId.value stamp.startedAt then
          { b with status := .expired, updatedAt := stamp.startedAt }
        else b
  audit : db'.auditEvents = db.auditEvents ++
    (expired.map fun id => ⟨id, systemActor, .held, .expired, "hold.expired.in_transaction"⟩) ++
    [⟨stamp.id, ⟨.user, some principal.userId⟩, .draft, .held, "hold.created"⟩]
  items : ∃ stored, stored.Perm lines ∧ db'.bookingLineItems = db.bookingLineItems ++ stored
  rest : db' = { db with
    bookings := db'.bookings
    auditEvents := db'.auditEvents
    bookingLineItems := db'.bookingLineItems }
  capacity : ∀ item ∈ input.lineItems, ∃ id row, uuidOf item.equipmentTypeId = some id ∧
    db.equipmentTypes.get? id = some row ∧ row.venueId = room.venueId ∧
    input.peak (expiredView db stamp expired) stamp.startedAt id + item.quantity ≤
      admissionCeiling row.unitsOwned venue.overbookingBufferPct

/-- A 4xx that leaves every table as it was, or the whole hold. -/
def AllOrNothing (env : Env) (input : HoldInput) (principal : AuthPrincipal) (now : Instant)
    (stamp : HoldStamp) (db : Db) : Prop :=
  (∃ e, hold env input principal now stamp db = .error e ∧ e.client = true ∧
      (hold env input principal now stamp).commit db = db) ∨
    ∃ b db' room venue expired lines, hold env input principal now stamp db = .ok (b, db') ∧
      HoldCommitted env input principal stamp db db' room venue expired lines

/-! ## The venue's rules -/

/-- The room, its hours, the lead time and the duration let the request through. -/
structure Opens (input : HoldInput) (now : Instant) (db : Db) (room : Room) (venue : Venue)
    (hours : OperatingHours) : Prop where
  inRoom : db.rooms.get? input.roomId.value = some room
  atVenue : db.venues.get? room.venueId = some venue
  open_ : parseOperatingHours venue.operatingHours = some hours
  early : ¬ input.startsAt - now < minLeadMinutes * 60000
  late : ¬ maxLeadDays * 24 * 60 * 60000 < input.startsAt - now
  duration : ¬ ((input.endsAt - input.startsAt) / 60000 < room.minDurationMinutes ∨
    room.maxDurationMinutes < (input.endsAt - input.startsAt) / 60000)

def contextOf (room : Room) (venue : Venue) (hours : OperatingHours) : RoomContext where
  venueId := room.venueId
  hourlyRateMinor := room.hourlyRateMinor
  minDurationMinutes := room.minDurationMinutes
  maxDurationMinutes := room.maxDurationMinutes
  timezone := venue.timezone
  overbookingBufferPct := venue.overbookingBufferPct
  hours := hours
  currency := "PKR"

/-- What the venue's rules come to. -/
inductive Opening (env : Env) (input : HoldInput) (now : Instant) (db : Db) :
    Except ApiError (RoomContext × Db) → Prop
  | refused (e : ApiError) : e.client = true →
      (∀ room venue hours, Opens input now db room venue hours → ∃ zone,
        env.timeZone venue.timezone = some zone ∧
        isWithinOperatingHours hours zone input.startsAt input.endsAt = false) →
      Opening env input now db (.error e)
  | unzoned (room : Room) (venue : Venue) (hours : OperatingHours) (message : String) :
      Opens input now db room venue hours → env.timeZone venue.timezone = none →
      Opening env input now db (.error (.internal message))
  | opened (room : Room) (venue : Venue) (hours : OperatingHours) (zone : Zone) :
      Opens input now db room venue hours → env.timeZone venue.timezone = some zone →
      isWithinOperatingHours hours zone input.startsAt input.endsAt = true →
      Opening env input now db (.ok (contextOf room venue hours, db))

theorem Opens.unique {input : HoldInput} {now : Instant} {db : Db} {room room' : Room}
    {venue venue' : Venue} {hours hours' : OperatingHours} (one : Opens input now db room venue hours)
    (other : Opens input now db room' venue' hours') :
    room' = room ∧ venue' = venue ∧ hours' = hours := by
  cases one.inRoom.symm.trans other.inRoom
  cases one.atVenue.symm.trans other.atVenue
  cases one.open_.symm.trans other.open_
  exact ⟨rfl, rfl, rfl⟩

/-- The room is read and its venue's hours are usable, or the client is told which is not. -/
theorem loadRoomContext_run (db : Db) (roomId : UuidText) :
    (∃ e, loadRoomContext roomId db = .error e ∧ e.client = true ∧ ∀ room venue hours,
      db.rooms.get? roomId.value = some room → db.venues.get? room.venueId = some venue →
      parseOperatingHours venue.operatingHours ≠ some hours) ∨
    ∃ room venue hours, db.rooms.get? roomId.value = some room ∧
      db.venues.get? room.venueId = some venue ∧
      parseOperatingHours venue.operatingHours = some hours ∧
      loadRoomContext roomId db = .ok (contextOf room venue hours, db) := by
  rw [loadRoomContext, Tx.fetch_bind]
  cases inRoom : db.rooms.get? roomId.value with
  | none =>
      refine .inl ⟨.notFound "No such room", rfl, rfl, ?_⟩
      intro room venue hours same
      cases same
  | some room =>
      dsimp only
      rw [Tx.fetch_bind]
      cases atVenue : db.venues.get? room.venueId with
      | none =>
          refine .inl ⟨.notFound "No such room", rfl, rfl, ?_⟩
          intro room' venue hours same there
          cases same
          rw [atVenue] at there
          cases there
      | some venue =>
          dsimp only
          rw [Tx.fetch_bind]
          cases open_ : parseOperatingHours venue.operatingHours with
          | none =>
              refine .inl ⟨_, rfl, rfl, ?_⟩
              intro room' venue' hours same there parsed
              cases same
              cases atVenue.symm.trans there
              rw [open_] at parsed
              cases parsed
          | some hours => exact .inr ⟨room, venue, hours, rfl, atVenue, open_, rfl⟩

theorem openHold_opening (env : Env) (input : HoldInput) (now : Instant) (db : Db) :
    Opening env input now db (openHold env input now db) := by
  rcases loadRoomContext_run db input.roomId with ⟨e, failed, client, unread⟩ |
    ⟨room, venue, hours, inRoom, atVenue, open_, read⟩
  · have run : openHold env input now db = .error e := by rw [openHold, Tx.bind_run, failed]
    rw [run]
    refine .refused e client fun room venue hours opens => ?_
    exact absurd opens.open_ (unread room venue hours opens.inRoom opens.atVenue)
  · have run : openHold env input now db =
        (do
          assertBookable env input (contextOf room venue hours) now
          pure (contextOf room venue hours) : Transaction RoomContext) db := by
      rw [openHold, Tx.bind_of_ok read]
    rw [run]
    -- A refusal contradicts `Opens` of the one room, venue and hours there are.
    have same : ∀ {room' venue' hours'}, Opens input now db room' venue' hours' →
        room' = room ∧ venue' = venue ∧ hours' = hours := fun opens => by
      cases inRoom.symm.trans opens.inRoom
      cases atVenue.symm.trans opens.atVenue
      cases open_.symm.trans opens.open_
      exact ⟨rfl, rfl, rfl⟩
    unfold assertBookable
    by_cases early : input.startsAt - now < minLeadMinutes * 60000
    · rw [if_pos early]
      exact .refused _ rfl fun _ _ _ opens => absurd early opens.early
    rw [if_neg early]
    by_cases late : maxLeadDays * 24 * 60 * 60000 < input.startsAt - now
    · rw [if_pos late]
      exact .refused _ rfl fun _ _ _ opens => absurd late opens.late
    rw [if_neg late]
    dsimp only
    by_cases duration : (input.endsAt - input.startsAt) / 60000 <
          (contextOf room venue hours).minDurationMinutes ∨
        (contextOf room venue hours).maxDurationMinutes < (input.endsAt - input.startsAt) / 60000
    · rw [if_pos duration]
      refine .refused _ rfl fun _ _ _ opens => ?_
      obtain ⟨rfl, -, -⟩ := same opens
      exact absurd duration opens.duration
    rw [if_neg duration]
    have opens : Opens input now db room venue hours :=
      ⟨inRoom, atVenue, open_, early, late, duration⟩
    cases known : env.timeZone (contextOf room venue hours).timezone with
    | none => exact .unzoned room venue hours _ opens known
    | some zone =>
        dsimp only
        by_cases within : isWithinOperatingHours (contextOf room venue hours).hours zone
            input.startsAt input.endsAt = true
        · rw [if_pos within]
          exact .opened room venue hours zone opens known within
        · rw [if_neg within]
          refine .refused _ rfl fun _ _ _ opens => ?_
          obtain ⟨rfl, rfl, rfl⟩ := same opens
          exact ⟨zone, known, Bool.eq_false_iff.mpr within⟩

/-! ## The equipment -/

namespace HoldInput

/-- The uuids the requested ids spell. -/
def values (input : HoldInput) : List Uuid := input.ids.filterMap uuidOf

/-- The rows of the requested types, in the order they are locked in. -/
def rows (input : HoldInput) (db : Db) : List (Uuid × EquipmentType) :=
  (db.equipmentTypes.select fun id _ => decide (id ∈ input.values)).insertionSort byId

/-- The quantity a hold takes a type to be requested in: by the text Postgres writes. -/
def quantityOf (input : HoldInput) (id : Uuid) : Int := (input.requested id.text).getD 0

/-- Every requested id names a type of its own, and of the room's venue. -/
def Known (input : HoldInput) (db : Db) (venueId : Uuid) : Prop :=
  (input.rows db).length = input.ids.length ∧ ∀ row ∈ input.rows db, row.2.venueId = venueId

/-- No peak is too great for the query's cast. -/
def PeaksFit (input : HoldInput) (view : Db) (now : Instant) : Prop :=
  ∀ id ∈ input.values, fitsInt (input.peak view now id) = true

/-- Every quantity fits under its type's ceiling. -/
def Stocked (input : HoldInput) (view : Db) (bufferPct : Nat) (now : Instant) : Prop :=
  ∀ row ∈ input.rows view, input.peak view now row.1 + input.quantityOf row.1 ≤
    admissionCeiling row.2.unitsOwned bufferPct

theorem isUuid_of_mem (input : HoldInput) {id : String} (here : id ∈ input.ids) :
    isUuid id = true := by
  have holds := input.accepted
  simp only [HoldBody.accepted, decide_eq_true_eq] at holds
  obtain ⟨-, -, -, -, -, -, items, -⟩ := holds
  obtain ⟨item, among, rfl⟩ := List.mem_map.mp here
  exact isUuid_of_rfc (items item among).1

theorem nodup_ids (input : HoldInput) : input.ids.Nodup := by
  have holds := input.accepted
  simp only [HoldBody.accepted, decide_eq_true_eq] at holds
  exact holds.2.2.2.2.2.2.2

theorem positive (input : HoldInput) {item : LineItem} (among : item ∈ input.lineItems) :
    0 < item.quantity := by
  have holds := input.accepted
  simp only [HoldBody.accepted, decide_eq_true_eq] at holds
  exact (holds.2.2.2.2.2.2.1 item among).2.1

theorem uuidArray_values (input : HoldInput) (db : Db) :
    uuidArray input.ids db = .ok (input.values, db) :=
  uuidArray_ok.mpr ⟨fun _ here => input.isUuid_of_mem here, rfl, rfl⟩

theorem length_values (input : HoldInput) : input.values.length = input.ids.length := by
  unfold values
  rw [List.length_filterMap_eq_countP, List.countP_eq_length]
  intro id here
  exact input.isUuid_of_mem here

theorem mem_rows {input : HoldInput} {db : Db} {id : Uuid} {row : EquipmentType} :
    (id, row) ∈ input.rows db ↔ db.equipmentTypes.get? id = some row ∧ id ∈ input.values := by
  rw [rows, List.mem_insertionSort, Table.mem_select, decide_eq_true_eq]

theorem lockEquipmentTypes_rows (input : HoldInput) (db : Db) :
    lockEquipmentTypes input.ids db = .ok (input.rows db, db) := by
  unfold lockEquipmentTypes
  by_cases none_ : input.ids = []
  · have unread : input.rows db = [] := by simp [rows, values, none_, Table.select]
    rw [if_pos none_, unread]
    rfl
  · rw [if_neg none_, Tx.bind_of_ok (input.uuidArray_values db)]
    rfl

/-- **Where every id names a type of its own, the rows are the requested types.** -/
theorem Known.perm {input : HoldInput} {db : Db} {venueId : Uuid} (known : input.Known db venueId) :
    ((input.rows db).map Prod.fst).Perm input.values := by
  have nodup : ((input.rows db).map Prod.fst).Nodup := by
    refine ((List.perm_insertionSort _ _).map Prod.fst).nodup_iff.mpr ?_
    exact db.equipmentTypes.unique.sublist (List.filter_sublist.map Prod.fst)
  have among : (input.rows db).map Prod.fst ⊆ input.values := by
    intro id here
    obtain ⟨⟨_, row⟩, there, rfl⟩ := List.mem_map.mp here
    exact (mem_rows.mp there).2
  refine (List.subperm_of_subset nodup among).perm_of_length_le ?_
  rw [List.length_map, known.1, input.length_values]

end HoldInput

/-- What admission comes to. -/
inductive Admission (input : HoldInput) (ctx : RoomContext) (now : Instant) (view : Db) :
    Except ApiError (List PricedItem × Db) → Prop
  | refused (e : ApiError) : e.client = true →
      (input.Known view ctx.venueId → input.PeaksFit view now ∧
        ¬ input.Stocked view ctx.overbookingBufferPct now) →
      Admission input ctx now view (.error e)
  | overflow : input.Known view ctx.venueId → ¬ input.PeaksFit view now →
      Admission input ctx now view (.error (.database "22003"))
  | admitted : input.Known view ctx.venueId → input.PeaksFit view now →
      input.Stocked view ctx.overbookingBufferPct now →
      Admission input ctx now view (.ok ((input.rows view).map (pricedItem input), view))

theorem lockRequested_run (input : HoldInput) (ctx : RoomContext) (view : Db) :
    (∃ e, lockRequested input ctx view = .error e ∧ e.client = true ∧
      ¬ input.Known view ctx.venueId) ∨
    (lockRequested input ctx view = .ok (input.rows view, view) ∧
      input.Known view ctx.venueId) := by
  rw [lockRequested, Tx.bind_of_ok (input.lockEquipmentTypes_rows view)]
  by_cases all : (input.rows view).length = input.ids.length
  · rw [if_pos all]
    by_cases own : (input.rows view).filter (fun row => decide (row.2.venueId ≠ ctx.venueId)) = []
    · rw [if_pos own]
      refine .inr ⟨rfl, all, fun row here => ?_⟩
      simpa using List.filter_eq_nil_iff.mp own row here
    · rw [if_neg own]
      refine .inl ⟨_, rfl, rfl, fun known => own ?_⟩
      refine List.filter_eq_nil_iff.mpr fun row here => ?_
      simpa using known.2 row here
  · rw [if_neg all]
    exact .inl ⟨_, rfl, rfl, fun known => all known.1⟩

theorem peakConcurrentUsage_run (input : HoldInput) (now : Instant) (view : Db) :
    (peakConcurrentUsage input.ids input.startsAt input.endsAt now view =
        .error (.database "22003") ∧ ¬ input.PeaksFit view now) ∨
      (∃ peaks, peakConcurrentUsage input.ids input.startsAt input.endsAt now view =
        .ok (peaks, view) ∧ input.PeaksFit view now) := by
  rw [peakConcurrentUsage, Tx.bind_of_ok (input.uuidArray_values view), Tx.read_bind]
  by_cases overflows : (input.values.any fun id =>
      !fitsInt (SweepLine.peak (usageEvents view id input.startsAt input.endsAt now))) = true
  · rw [if_pos overflows]
    refine .inl ⟨rfl, fun fit => ?_⟩
    obtain ⟨id, here, unfit⟩ := List.any_eq_true.mp overflows
    have fits : fitsInt (SweepLine.peak
      (usageEvents view id input.startsAt input.endsAt now)) = true := fit id here
    rw [fits] at unfit
    cases unfit
  · rw [if_neg overflows]
    refine .inr ⟨_, rfl, fun id here => ?_⟩
    by_contra unfit
    refine overflows (List.any_eq_true.mpr ⟨id, here, ?_⟩)
    rw [Bool.not_eq_true']
    exact Bool.eq_false_iff.mpr unfit

/-- One requested row is short exactly where its peak and its quantity pass its ceiling. -/
theorem shortfall_none {input : HoldInput} {ctx : RoomContext} {now : Instant} {view db' : Db}
    {peaks : String → Option Int}
    (read : peakConcurrentUsage input.ids input.startsAt input.endsAt now view = .ok (peaks, db'))
    {row : Uuid × EquipmentType} (here : row ∈ input.rows view) :
    shortfall input ctx peaks row = none ↔
      input.peak view now row.1 + input.quantityOf row.1 ≤
        admissionCeiling row.2.unitsOwned ctx.overbookingBufferPct := by
  have peak : (peaks row.1.text).getD 0 = input.peak view now row.1 :=
    peakConcurrentUsage_ok read (HoldInput.mem_rows.mp here).2
  rw [HoldInput.quantityOf, ← not_lt]
  simp only [shortfall, peak]
  split_ifs with short <;> simp [short]

theorem admitEquipment_admission (input : HoldInput) (ctx : RoomContext) (now : Instant)
    (view : Db) : Admission input ctx now view (admitEquipment input ctx now view) := by
  unfold admitEquipment
  by_cases bare : input.lineItems = []
  · have none_ : input.ids = [] := by simp [HoldInput.ids, bare]
    have unread : input.rows view = [] := by
      simp [HoldInput.rows, HoldInput.values, none_, Table.select]
    have run : (pure [] : Transaction (List PricedItem)) view =
        .ok ((input.rows view).map (pricedItem input), view) := by
      rw [unread]
      rfl
    rw [if_pos bare, run]
    refine .admitted ⟨by rw [unread, none_]; rfl, ?_⟩ ?_ ?_
    · simp [unread]
    · simp [HoldInput.PeaksFit, HoldInput.values, none_]
    · simp [HoldInput.Stocked, unread]
  rw [if_neg bare]
  rcases lockRequested_run input ctx view with ⟨e, failed, client, unknown⟩ | ⟨locked, known⟩
  · rw [Tx.bind_run, failed]
    exact .refused e client fun known => absurd known unknown
  rw [Tx.bind_of_ok locked]
  unfold admitLocked
  rcases peakConcurrentUsage_run input now view with ⟨failed, unfit⟩ | ⟨peaks, read, fit⟩
  · rw [Tx.bind_run, failed]
    exact .overflow known unfit
  rw [Tx.bind_of_ok read]
  have stocked : (input.rows view).filterMap (shortfall input ctx peaks) = [] ↔
      input.Stocked view ctx.overbookingBufferPct now := by
    rw [List.filterMap_eq_nil_iff]
    exact forall₂_congr fun row here => shortfall_none read here
  by_cases fits : (input.rows view).filterMap (shortfall input ctx peaks) = []
  · rw [if_pos fits]
    exact .admitted known fit (stocked.mp fits)
  · rw [if_neg fits]
    exact .refused _ rfl fun _ => ⟨fit, fun stock => fits (stocked.mpr stock)⟩

/-! ## The insert -/

/-- The item's type is spelled as Postgres writes it. -/
def LineItem.canonical (item : LineItem) : Prop := ∃ id : Uuid, item.equipmentTypeId = id.text

namespace HoldInput

theorem uuidOf_item (input : HoldInput) {item : LineItem} (among : item ∈ input.lineItems) :
    ∃ id, uuidOf item.equipmentTypeId = some id ∧ id ∈ input.values := by
  have here : item.equipmentTypeId ∈ input.ids := List.mem_map_of_mem among
  obtain ⟨id, spelled⟩ := Option.isSome_iff_exists.mp (input.isUuid_of_mem here)
  exact ⟨id, spelled, List.mem_filterMap.mpr ⟨_, here, spelled⟩⟩

theorem values_eq_map (input : HoldInput) :
    input.values = input.lineItems.map fun item => (uuidOf item.equipmentTypeId).getD 0 := by
  have spelled : ∀ id ∈ input.ids, uuidOf id = some ((uuidOf id).getD 0) := by
    intro id here
    obtain ⟨value, read⟩ := Option.isSome_iff_exists.mp (input.isUuid_of_mem here)
    rw [read, Option.getD_some]
  rw [values, List.filterMap_congr spelled, List.filterMap_eq_map', ids, List.map_map]
  rfl

/-- The item of a canonical id is the one looked up under it. -/
theorem quantityOf_item {input : HoldInput} {item : LineItem} {id : Uuid}
    (among : item ∈ input.lineItems) (spelled : item.equipmentTypeId = id.text) :
    input.quantityOf id = item.quantity := by
  have found : (input.lineItems.find? fun other => other.equipmentTypeId = id.text) = some item := by
    obtain ⟨other, look⟩ := Option.isSome_iff_exists.mp
      (List.find?_isSome.mpr ⟨item, among, decide_eq_true spelled⟩ :
        (input.lineItems.find? fun other => other.equipmentTypeId = id.text).isSome)
    have same : other.equipmentTypeId = item.equipmentTypeId := by
      rw [spelled]
      simpa using List.find?_some look
    rw [look, List.inj_on_of_nodup_map input.nodup_ids (List.mem_of_find?_eq_some look) among same]
  simp only [quantityOf, requested, found, Option.map_some, Option.getD_some]

/-- **The quantities are positive exactly where every id is spelled as Postgres writes it.** -/
theorem Known.positive_iff {input : HoldInput} {db : Db} {venueId : Uuid}
    (known : input.Known db venueId) :
    (∀ row ∈ input.rows db, 0 < input.quantityOf row.1) ↔
      ∀ item ∈ input.lineItems, item.canonical := by
  constructor
  · intro positive item among
    obtain ⟨id, spelled, requested⟩ := input.uuidOf_item among
    obtain ⟨row, here, rfl⟩ := List.mem_map.mp (known.perm.mem_iff.mpr requested)
    have counted : 0 < input.quantityOf row.1 := positive row here
    cases look : input.lineItems.find? fun other => other.equipmentTypeId = row.1.text with
    | none => simp [quantityOf, HoldInput.requested, look] at counted
    | some other =>
        have text : other.equipmentTypeId = row.1.text := by simpa using List.find?_some look
        -- Both items spell the one row, and each has a row of its own.
        have distinct : (input.lineItems.map fun item =>
            (uuidOf item.equipmentTypeId).getD 0).Nodup := by
          rw [← input.values_eq_map, ← known.perm.nodup_iff]
          refine ((List.perm_insertionSort _ _).map Prod.fst).nodup_iff.mpr ?_
          exact db.equipmentTypes.unique.sublist (List.filter_sublist.map Prod.fst)
        have same : other = item := by
          refine List.inj_on_of_nodup_map distinct (List.mem_of_find?_eq_some look) among ?_
          rw [text, uuidOf_text, spelled]
        exact ⟨row.1, same ▸ text⟩
  · intro canonical row here
    have requested : row.1 ∈ input.values := (mem_rows.mp here).2
    rw [input.values_eq_map] at requested
    obtain ⟨item, among, read⟩ := List.mem_map.mp requested
    obtain ⟨id, text⟩ := canonical item among
    rw [text, uuidOf_text, Option.getD_some] at read
    rw [quantityOf_item among (read ▸ text)]
    exact input.positive among

/-- The line a hold stores for a type. -/
def line (input : HoldInput) (db : Db) (bookingId id : Uuid) : BookingLineItem :=
  ⟨bookingId, id, input.quantityOf id,
    ((db.equipmentTypes.get? id).map EquipmentType.hourlyRateMinor).getD 0⟩

/-- The stored lines, from the requested ids. -/
theorem Known.lines {input : HoldInput} {db : Db} {venueId : Uuid}
    (known : input.Known db venueId) (bookingId : Uuid) :
    (((input.rows db).map (pricedItem input)).map (PricedItem.line bookingId)).Perm
      (input.values.map (input.line db bookingId)) := by
  have each : ((input.rows db).map (pricedItem input)).map (PricedItem.line bookingId) =
      ((input.rows db).map Prod.fst).map (input.line db bookingId) := by
    rw [List.map_map, List.map_map]
    refine List.map_congr_left fun row here => ?_
    simp only [Function.comp_apply, PricedItem.line, pricedItem, line, quantityOf,
      (mem_rows.mp here).1, Option.map_some, Option.getD_some]
  rw [each]
  exact known.perm.map _

theorem requestedLine_line {input : HoldInput} {db : Db} {venueId bookingId : Uuid}
    (known : input.Known db venueId) (canonical : ∀ item ∈ input.lineItems, item.canonical)
    {item : LineItem} (among : item ∈ input.lineItems) :
    requestedLine db bookingId item =
      some (input.line db bookingId ((uuidOf item.equipmentTypeId).getD 0)) := by
  obtain ⟨id, text⟩ := canonical item among
  have spelled : uuidOf item.equipmentTypeId = some id := by rw [text, uuidOf_text]
  have requested : id ∈ input.values := by
    obtain ⟨id', spelled', here⟩ := input.uuidOf_item among
    cases spelled.symm.trans spelled'
    exact here
  obtain ⟨row, here, rfl⟩ := List.mem_map.mp (known.perm.mem_iff.mpr requested)
  have stored : db.equipmentTypes.get? row.1 = some row.2 := (mem_rows.mp here).1
  simp [requestedLine, spelled, stored, line, quantityOf_item among text]

end HoldInput

/-- What the insert comes to. -/
inductive Insertion (env : Env) (input : HoldInput) (ctx : RoomContext)
    (principal : AuthPrincipal) (stamp : HoldStamp) (priced : List PricedItem) (view : Db) :
    Except ApiError (Booking × Db) → Prop
  | overflow : fitsBigint (heldRow env input ctx principal stamp priced).totalMinor = false →
      Insertion env input ctx principal stamp priced view (.error (.database "22003"))
  | taken (e : ApiError) :
      fitsBigint (heldRow env input ctx principal stamp priced).totalMinor = true →
      roomConflicts view (heldRow env input ctx principal stamp priced) ≠ [] → e.client = true →
      Insertion env input ctx principal stamp priced view (.error e)
  | present : view.bookings.get? stamp.id ≠ none →
      fitsBigint (heldRow env input ctx principal stamp priced).totalMinor = true →
      roomConflicts view (heldRow env input ctx principal stamp priced) = [] →
      Insertion env input ctx principal stamp priced view (.error (.database "23505"))
  | stranger : principal.userId ∉ view.users →
      fitsBigint (heldRow env input ctx principal stamp priced).totalMinor = true →
      roomConflicts view (heldRow env input ctx principal stamp priced) = [] →
      Insertion env input ctx principal stamp priced view (.error (.database "23503"))
  | unpositive : principal.userId ∈ view.users →
      fitsBigint (heldRow env input ctx principal stamp priced).totalMinor = true →
      roomConflicts view (heldRow env input ctx principal stamp priced) = [] →
      ¬ (∀ item ∈ priced, 0 < item.quantity) →
      Insertion env input ctx principal stamp priced view (.error (.database "23514"))
  | inserted (bookings : Table Uuid Booking) : principal.userId ∈ view.users →
      fitsBigint (heldRow env input ctx principal stamp priced).totalMinor = true →
      roomConflicts view (heldRow env input ctx principal stamp priced) = [] →
      (∀ item ∈ priced, 0 < item.quantity) →
      view.bookings.insert? stamp.id (heldRow env input ctx principal stamp priced) =
        some bookings →
      Insertion env input ctx principal stamp priced view
        (.ok (heldRow env input ctx principal stamp priced,
          view.hold bookings stamp.id principal.userId priced))

theorem insertBooking_run (id : Uuid) (b : Booking) (db : Db) :
    insertBooking id b db =
      if fitsBigint b.totalMinor = false then .error (.database "22003")
      else if b.endsAt ≤ b.startsAt then .error (.database "23514")
      else if roomConflicts db b ≠ [] then .error (.database "23P01")
      else match db.bookings.insert? id b with
        | some bookings =>
            if b.userId ∈ db.users then .ok ((), { db with bookings := bookings })
            else .error (.database "23503")
        | none => .error (.database "23505") := by
  unfold insertBooking
  by_cases wide : fitsBigint b.totalMinor = false
  · rw [if_pos wide, if_pos wide]
    rfl
  rw [if_neg wide, if_neg wide]
  by_cases empty : b.endsAt ≤ b.startsAt
  · rw [if_pos empty, if_pos empty]
    rfl
  rw [if_neg empty, if_neg empty]
  show (if roomConflicts db b ≠ [] then _ else _ : Transaction _) db = _
  by_cases taken : roomConflicts db b ≠ []
  · rw [if_pos taken, if_pos taken]
    rfl
  rw [if_neg taken, if_neg taken]
  show (Tx.fetch (fun db : Db => db.bookings.insert? id b) (ApiError.database "23505") >>= _) db = _
  rw [Tx.fetch_bind]
  cases db.bookings.insert? id b with
  | none => rfl
  | some bookings =>
      by_cases known : b.userId ∈ db.users <;> simp [known, Tx.read_bind]

theorem insertHold_insertion (env : Env) (input : HoldInput) (ctx : RoomContext)
    (principal : AuthPrincipal) (stamp : HoldStamp) (priced : List PricedItem) (view : Db) :
    Insertion env input ctx principal stamp priced view
      (insertHold env input ctx principal stamp priced view) := by
  have ordered : ¬ (heldRow env input ctx principal stamp priced).endsAt ≤
      (heldRow env input ctx principal stamp priced).startsAt := not_le.mpr input.ordered
  have insert := insertBooking_run stamp.id (heldRow env input ctx principal stamp priced) view
  rw [if_neg ordered] at insert
  have row : (heldValues env input ctx principal.userId stamp.now priced).row stamp.startedAt =
      heldRow env input ctx principal stamp priced := rfl
  -- A failed insert is rethrown under the mapping of the taken slot.
  have failed : ∀ {e}, insertBooking stamp.id
      (heldRow env input ctx principal stamp priced) view = .error e →
      insertHold env input ctx principal stamp priced view = .error (slotTaken input e) := by
    intro e aborted
    have created : createHeld stamp.id stamp.startedAt
        (heldValues env input ctx principal.userId stamp.now priced)
        ⟨.user, some principal.userId⟩ "hold.created" view = .error e := by
      rw [createHeld, row, Tx.bind_run, aborted]
    rw [insertHold, Tx.bind_run, Tx.rethrow, created]
  by_cases wide : fitsBigint (heldRow env input ctx principal stamp priced).totalMinor = false
  · rw [if_pos wide] at insert
    rw [failed insert]
    exact .overflow wide
  rw [if_neg wide] at insert
  have fits : fitsBigint (heldRow env input ctx principal stamp priced).totalMinor = true :=
    by simpa using wide
  by_cases taken : roomConflicts view (heldRow env input ctx principal stamp priced) ≠ []
  · rw [if_pos taken] at insert
    rw [failed insert]
    exact .taken _ fits taken rfl
  rw [if_neg taken] at insert
  have free : roomConflicts view (heldRow env input ctx principal stamp priced) = [] :=
    not_not.mp taken
  cases stored : view.bookings.insert? stamp.id (heldRow env input ctx principal stamp priced) with
  | none =>
      rw [stored] at insert
      rw [failed insert]
      have here := Table.insert?_none.mp stored
      exact .present (Option.isSome_iff_ne_none.mp here) fits free
  | some bookings =>
  rw [stored] at insert
  have owner : (heldRow env input ctx principal stamp priced).userId = principal.userId := rfl
  simp only [owner] at insert
  by_cases stranger : principal.userId ∉ view.users
  · rw [if_neg stranger] at insert
    rw [failed insert]
    exact .stranger stranger fits free
  have known : principal.userId ∈ view.users := not_not.mp stranger
  rw [if_pos known] at insert
  have created : createHeld stamp.id stamp.startedAt
      (heldValues env input ctx principal.userId stamp.now priced)
      ⟨.user, some principal.userId⟩ "hold.created" view =
      .ok (heldRow env input ctx principal stamp priced,
        ({ view with bookings := bookings } : Db).audit
          ⟨stamp.id, ⟨.user, some principal.userId⟩, .draft, .held, "hold.created"⟩) := by
    rw [createHeld, row, Tx.bind_of_ok insert]
    rfl
  have rethrown : Tx.rethrow (slotTaken input) (createHeld stamp.id stamp.startedAt
      (heldValues env input ctx principal.userId stamp.now priced)
      ⟨.user, some principal.userId⟩ "hold.created") view = _ := Tx.rethrow_ok.mpr created
  rw [insertHold, Tx.bind_of_ok rethrown, Tx.bind_run, insertLineItems]
  by_cases positive : (priced.all fun item => 0 < item.quantity) = true
  · rw [if_pos positive]
    exact .inserted bookings known fits free (by simpa using positive) stored
  · rw [if_neg positive]
    exact .unpositive known fits free (by simpa using positive)

/-! ## The whole hold -/

/-- The sum a hold stores: the room's amount, and each locked type's. -/
def HoldInput.total (input : HoldInput) (view : Db) (room : Room) : Minor :=
  roomAmount room.hourlyRateMinor input.startsAt input.endsAt +
    (((input.rows view).map (pricedItem input)).map PricedItem.lineTotalMinor).sum

/-- The request is of none of the kinds that end in a 500: past the checks before it,
the venue's time zone is known, the peaks fit an `int`, the total fits a `bigint`, the
generated key is free, the user of the token is there, and every equipment id is spelled
as Postgres writes it. -/
def Sound (env : Env) (input : HoldInput) (principal : AuthPrincipal) (now : Instant)
    (stamp : HoldStamp) (db : Db) : Prop :=
  ∀ room venue hours, Opens input now db room venue hours →
    ∃ zone, env.timeZone venue.timezone = some zone ∧
      (isWithinOperatingHours hours zone input.startsAt input.endsAt = true →
        let view := expiredView db stamp (staleHoldsOfRoom db input.roomId.value stamp.startedAt)
        let row := newHold env input principal stamp room.venueId (input.total view room)
        input.Known view room.venueId → input.PeaksFit view stamp.startedAt ∧
          (input.Stocked view venue.overbookingBufferPct stamp.startedAt →
            fitsBigint row.totalMinor = true ∧
              (roomConflicts view row = [] → view.bookings.get? stamp.id = none ∧
                principal.userId ∈ db.users ∧ ∀ item ∈ input.lineItems, item.canonical)))

/-- The lines' amounts sum to the locked types'. -/
theorem HoldInput.Known.amounts {input : HoldInput} {db : Db} {venueId : Uuid}
    (known : input.Known db venueId) (bookingId : Uuid) :
    (((input.rows db).map (pricedItem input)).map PricedItem.lineTotalMinor).sum =
      ((input.values.map (input.line db bookingId)).map
        (lineAmount input.startsAt input.endsAt)).sum := by
  have each : ((input.rows db).map (pricedItem input)).map PricedItem.lineTotalMinor =
      (((input.rows db).map (pricedItem input)).map (PricedItem.line bookingId)).map
        (lineAmount input.startsAt input.endsAt) := by
    rw [List.map_map, List.map_map, List.map_map]
    rfl
  rw [each]
  exact ((known.lines bookingId).map _).sum_eq

theorem expiredView_get? (db : Db) (stamp : HoldStamp) (expired : List Uuid) (id : Uuid) :
    (expiredView db stamp expired).bookings.get? id = (db.bookings.get? id).map fun b =>
      if id ∈ expired then { b with status := .expired, updatedAt := stamp.startedAt } else b := by
  rw [expiredView, Db.expire_bookings, Table.get?_update]

theorem holdCommitted {env : Env} {input : HoldInput} {principal : AuthPrincipal} {now : Instant}
    {stamp : HoldStamp} {db : Db} {room : Room} {venue : Venue} {hours : OperatingHours}
    {bookings : Table Uuid Booking} (opens : Opens input now db room venue hours) :
    let expired := staleHoldsOfRoom db input.roomId.value stamp.startedAt
    let view := expiredView db stamp expired
    let priced := (input.rows view).map (pricedItem input)
    input.Known view room.venueId →
    input.Stocked view venue.overbookingBufferPct stamp.startedAt →
    (∀ item ∈ input.lineItems, item.canonical) →
    view.bookings.insert? stamp.id
      (heldRow env input (contextOf room venue hours) principal stamp priced) = some bookings →
    HoldCommitted env input principal stamp db
      (view.hold bookings stamp.id principal.userId priced) room venue expired
      (input.values.map (input.line db stamp.id)) := by
  intro expired view priced known stocked canonical inserted
  have types : view.equipmentTypes = db.equipmentTypes := rfl
  have lapsed : ∀ id, id ∈ expired ↔ ∃ b, db.bookings.get? id = some b ∧
      b.lapsedIn input.roomId.value stamp.startedAt := fun id => mem_staleHoldsOfRoom
  have row : heldRow env input (contextOf room venue hours) principal stamp priced =
      newHold env input principal stamp room.venueId
        (roomAmount room.hourlyRateMinor input.startsAt input.endsAt +
          ((input.values.map (input.line db stamp.id)).map
            (lineAmount input.startsAt input.endsAt)).sum) := by
    have sums := known.amounts stamp.id
    have lines : input.line view stamp.id = input.line db stamp.id := rfl
    rw [lines] at sums
    rw [← sums]
    rfl
  refine
    { inRoom := opens.inRoom
      atVenue := opens.atVenue
      lapsed := ⟨?_, lapsed⟩
      requested := ?_
      bookings := ?_
      audit := rfl
      items := ⟨_, known.lines stamp.id, rfl⟩
      rest := rfl
      capacity := ?_ }
  · exact db.bookings.unique.sublist (List.filter_sublist.map Prod.fst)
  · rw [input.values_eq_map, List.map_map, List.forall₂_map_right_iff, List.forall₂_same]
    exact fun item among => HoldInput.requestedLine_line known canonical among
  · intro id
    rw [Db.hold_bookings, Table.get?_insert? inserted, row]
    by_cases own : id = stamp.id
    · rw [if_pos own, if_pos own]
    rw [if_neg own, if_neg own, expiredView_get?]
    cases here : db.bookings.get? id with
    | none => rfl
    | some b =>
        have same : id ∈ expired ↔ b.lapsedIn input.roomId.value stamp.startedAt := by
          rw [lapsed, here]
          simp
        simp only [Option.map_some, same]
  · intro item among
    obtain ⟨id, text⟩ := canonical item among
    have spelled : uuidOf item.equipmentTypeId = some id := by rw [text, uuidOf_text]
    have requested : id ∈ input.values := by
      obtain ⟨id', spelled', here⟩ := input.uuidOf_item among
      cases spelled.symm.trans spelled'
      exact here
    obtain ⟨locked, here, rfl⟩ := List.mem_map.mp (known.perm.mem_iff.mpr requested)
    have fits := stocked locked here
    rw [HoldInput.quantityOf_item among text] at fits
    exact ⟨locked.1, locked.2, spelled, (HoldInput.mem_rows.mp here).1, known.2 locked here, fits⟩

/-- Soundness, once the venue's rules have let the request through. -/
theorem Opens.sound {env : Env} {input : HoldInput} {principal : AuthPrincipal} {now : Instant}
    {stamp : HoldStamp} {db : Db} {room : Room} {venue : Venue} {hours : OperatingHours}
    {zone : Zone} (opens : Opens input now db room venue hours)
    (zoned : env.timeZone venue.timezone = some zone)
    (within : isWithinOperatingHours hours zone input.startsAt input.endsAt = true) :
    let view := expiredView db stamp (staleHoldsOfRoom db input.roomId.value stamp.startedAt)
    let row := newHold env input principal stamp room.venueId (input.total view room)
    Sound env input principal now stamp db ↔
      (input.Known view room.venueId → input.PeaksFit view stamp.startedAt ∧
        (input.Stocked view venue.overbookingBufferPct stamp.startedAt →
          fitsBigint row.totalMinor = true ∧
            (roomConflicts view row = [] → view.bookings.get? stamp.id = none ∧
              principal.userId ∈ db.users ∧ ∀ item ∈ input.lineItems, item.canonical))) := by
  intro view row
  constructor
  · intro sound
    obtain ⟨zone', zoned', rest⟩ := sound room venue hours opens
    cases zoned.symm.trans zoned'
    exact rest within
  · intro rest room' venue' hours' opens'
    obtain ⟨rfl, rfl, rfl⟩ := opens.unique opens'
    exact ⟨zone, zoned, fun _ => rest⟩

/-- **A hold is all or nothing exactly where it is sound.** -/
theorem hold_all_or_nothing (env : Env) (input : HoldInput) (principal : AuthPrincipal)
    (now : Instant) (stamp : HoldStamp) (db : Db) :
    AllOrNothing env input principal now stamp db ↔ Sound env input principal now stamp db := by
  have refused : ∀ {e}, hold env input principal now stamp db = .error e →
      (AllOrNothing env input principal now stamp db ↔ e.client = true) := by
    intro e failed
    constructor
    · rintro (⟨e', failed', client, -⟩ | ⟨b, db', _, _, _, _, returned, -⟩)
      · cases failed.symm.trans failed'
        exact client
      · cases failed.symm.trans returned
    · exact fun client => .inl ⟨e, failed, client, Tx.commit_of_error failed⟩
  have opening := openHold_opening env input now db
  generalize opened : openHold env input now db = result at opening
  cases opening with
  | refused e client closed =>
      have failed : hold env input principal now stamp db = .error e := by
        rw [hold, Tx.bind_run, opened]
      refine iff_of_true ((refused failed).mpr client) fun room venue hours opens => ?_
      obtain ⟨zone, known, outside⟩ := closed room venue hours opens
      exact ⟨zone, known, fun within => by rw [outside] at within; cases within⟩
  | unzoned room venue hours message opens unknown =>
      have failed : hold env input principal now stamp db = .error (.internal message) := by
        rw [hold, Tx.bind_run, opened]
      rw [refused failed]
      refine iff_of_false Bool.false_ne_true fun sound => ?_
      obtain ⟨zone, known, -⟩ := sound room venue hours opens
      rw [unknown] at known
      cases known
  | opened room venue hours zone opens zoned within =>
      have sound : Sound env input principal now stamp db ↔ _ := opens.sound zoned within
      rw [sound]
      clear sound
      generalize viewed : expiredView db stamp
        (staleHoldsOfRoom db input.roomId.value stamp.startedAt) = view
      have run : hold env input principal now stamp db =
          (admitEquipment input (contextOf room venue hours) stamp.startedAt >>=
            insertHold env input (contextOf room venue hours) principal stamp) view := by
        rw [hold, Tx.bind_of_ok opened, ← viewed]
        rfl
      have admission := admitEquipment_admission input (contextOf room venue hours)
        stamp.startedAt view
      generalize admitted : admitEquipment input (contextOf room venue hours) stamp.startedAt
        view = result at admission
      cases admission with
      | refused e client short =>
          have failed : hold env input principal now stamp db = .error e := by
            rw [run, Tx.bind_run, admitted]
          refine iff_of_true ((refused failed).mpr client) fun known => ?_
          obtain ⟨fit, scarce⟩ := short known
          exact ⟨fit, fun stocked => absurd stocked scarce⟩
      | overflow known unfit =>
          have failed : hold env input principal now stamp db = .error (.database "22003") := by
            rw [run, Tx.bind_run, admitted]
          rw [refused failed]
          exact iff_of_false Bool.false_ne_true fun sound => unfit (sound known).1
      | admitted known fit stocked =>
          have positive : (∀ item ∈ (input.rows view).map (pricedItem input),
              0 < item.quantity) ↔ ∀ item ∈ input.lineItems, item.canonical := by
            rw [← known.positive_iff, List.forall_mem_map]
            rfl
          have insertion := insertHold_insertion env input (contextOf room venue hours) principal
            stamp ((input.rows view).map (pricedItem input)) view
          generalize inserted : insertHold env input (contextOf room venue hours) principal stamp
            ((input.rows view).map (pricedItem input)) view = result at insertion
          have run : hold env input principal now stamp db = result := by
            rw [run, Tx.bind_of_ok admitted, inserted]
          cases insertion with
          | overflow wide =>
              rw [refused run]
              refine iff_of_false Bool.false_ne_true fun sound => ?_
              have fits := ((sound known).2 stocked).1
              exact absurd (wide.symm.trans fits) Bool.false_ne_true
          | taken e fits conflicts client =>
              refine iff_of_true ((refused run).mpr client) fun _ => ⟨fit, fun _ => ⟨fits, ?_⟩⟩
              exact fun free => absurd free conflicts
          | present here fits free =>
              rw [refused run]
              refine iff_of_false Bool.false_ne_true fun sound => ?_
              exact here (((sound known).2 stocked).2 free).1
          | stranger unknown fits free =>
              rw [refused run]
              refine iff_of_false Bool.false_ne_true fun sound => ?_
              subst viewed
              exact unknown (((sound known).2 stocked).2 free).2.1
          | unpositive _ fits free unpositive =>
              rw [refused run]
              refine iff_of_false Bool.false_ne_true fun sound => ?_
              exact unpositive (positive.mpr (((sound known).2 stocked).2 free).2.2)
          | inserted bookings user fits free all stored =>
              subst viewed
              have committed := holdCommitted opens known stocked (positive.mp all) stored
              refine iff_of_true (.inr ⟨_, _, room, venue, _, _, run, committed⟩) fun _ => ?_
              have unused := (Table.insert?_some stored).1
              exact ⟨fit, fun _ => ⟨fits, fun _ => ⟨unused, user, positive.mp all⟩⟩⟩

namespace Sample

def microphone : Uuid := 0x0000000000004000a00000000000000c

/-- The microphone's id with its two letters in upper case. -/
def shouted : HoldInput :=
  ⟨⟨Uuid.path room, 36000000, 39600000, [⟨"00000000-0000-4000-A000-00000000000C", 1⟩]⟩,
    by decide +kernel⟩

def stage : Db :=
  { db with equipmentTypes := ⟨[(microphone, ⟨1, "Microphone", 1000, 4⟩)], by decide⟩ }

end Sample

/-- The schema and the lock find the microphone under its shouted id; the quantity is
looked up under the other spelling, is zero, and the table's check refuses it. -/
theorem hold_fails_midway :
    ¬ AllOrNothing .default Sample.shouted Sample.customer 0 ⟨7, 0, 0⟩ Sample.stage := by
  have failed : (hold .default Sample.shouted Sample.customer 0 ⟨7, 0, 0⟩ Sample.stage).map
      (fun _ => ()) = .error (.database "23514") := by decide +kernel
  rintro (⟨e, refused, client, -⟩ | ⟨b, db', _, _, _, _, returned, -⟩)
  · rw [refused] at failed
    cases failed
    cases client
  · rw [returned] at failed
    cases failed

end Atrium
