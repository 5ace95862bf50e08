/-
# VenuesAdmin -- a venue's settings, rooms, equipment types and policy

The write half of a venue's own configuration, and the reads beside it.  The venue is the
one on the caller's token; a room or an equipment type is found under that venue or not at
all.  The inputs are what their schemas let through, each with the bounds that the columns
and the code rely on.

`updateRoom` reads the room and then updates it in a second statement, so what follows the
read is `updateRoomLoaded`.  Names sort as in the `C` collation.
-/
import Atrium.BookingView
import Atrium.Txn
import Atrium.Base.Isolation

namespace Atrium

open Atrium.Base

set_option autoImplicit false

/-! ## Errors -/

structure Issue where
  path : String
  code : String
  message : String
  deriving DecidableEq

/-- An error of the booking routes, or one of the two 422s that carry more. -/
inductive VenueError where
  | api (e : ApiError)
  | issues (message : String) (issues : List Issue)
  | field (message field : String) (received allowed : Int) (appliesTo : String)
  deriving DecidableEq

abbrev VenueTx (α : Type) := Tx VenueError Db α

def venueNotFound : VenueError := .api (.notFound "Not Found")

/-! ## Inputs -/

/-- `UpdateVenueSettingsSchema`. -/
structure UpdateVenueSettingsInput where
  name : Option String
  city : Option String
  timezone : Option String
  operatingHours : Option Json
  overbookingBufferPct : Option Nat
  sent : name.isSome ∨ city.isSome ∨ timezone.isSome ∨ operatingHours.isSome ∨
    overbookingBufferPct.isSome
  /-- `OverbookingBufferPct`. -/
  capped : ∀ pct ∈ overbookingBufferPct, pct ≤ 10
  readable : ∀ hours ∈ operatingHours, (parseOperatingHours hours).isSome

/-- `CreateRoomSchema`, with its defaults applied. -/
structure CreateRoomInput where
  name : String
  capacity : Int
  hourlyRateMinor : Minor
  amenities : List String
  minDurationMinutes : Int
  maxDurationMinutes : Int
  overbookingBufferPct : Option Int
  /-- `durationsCoherent`. -/
  coherent : minDurationMinutes ≤ maxDurationMinutes

/-- `UpdateRoomSchema`. -/
structure UpdateRoomInput where
  name : Option String
  capacity : Option Int
  hourlyRateMinor : Option Minor
  amenities : Option (List String)
  minDurationMinutes : Option Int
  maxDurationMinutes : Option Int
  overbookingBufferPct : Option Int
  sent : name.isSome ∨ capacity.isSome ∨ hourlyRateMinor.isSome ∨ amenities.isSome ∨
    minDurationMinutes.isSome ∨ maxDurationMinutes.isSome ∨ overbookingBufferPct.isSome
  coherent : ∀ min ∈ minDurationMinutes, ∀ max ∈ maxDurationMinutes, min ≤ max

/-- `CreateEquipmentTypeSchema`. -/
structure CreateEquipmentTypeInput where
  name : String
  hourlyRateMinor : Minor
  unitsOwned : Nat

/-- `UpdateEquipmentTypeSchema`. -/
structure UpdateEquipmentTypeInput where
  name : Option String
  hourlyRateMinor : Option Minor
  unitsOwned : Option Nat
  sent : name.isSome ∨ hourlyRateMinor.isSome ∨ unitsOwned.isSome

/-! ## Patches -/

/-- The row a settings update leaves: a field that was not sent stays. -/
def UpdateVenueSettingsInput.patch (input : UpdateVenueSettingsInput) (v : Venue) : Venue where
  name := input.name.getD v.name
  city := input.city.getD v.city
  timezone := input.timezone.getD v.timezone
  operatingHours := input.operatingHours.getD v.operatingHours
  overbookingBufferPct := input.overbookingBufferPct.getD v.overbookingBufferPct
  createdAt := v.createdAt
  bufferBounded := by
    cases sent : input.overbookingBufferPct with
    | none => exact v.bufferBounded
    | some pct => exact input.capped pct sent

/-- `Object.keys(patch).length === 0`. -/
def UpdateRoomInput.patchless (input : UpdateRoomInput) : Bool :=
  input.name.isNone && input.capacity.isNone && input.hourlyRateMinor.isNone &&
    input.amenities.isNone && input.minDurationMinutes.isNone && input.maxDurationMinutes.isNone

def UpdateRoomInput.patch (input : UpdateRoomInput) (r : Room) : Room :=
  { r with
    name := input.name.getD r.name
    capacity := input.capacity.getD r.capacity
    hourlyRateMinor := input.hourlyRateMinor.getD r.hourlyRateMinor
    amenities := input.amenities.getD r.amenities
    minDurationMinutes := input.minDurationMinutes.getD r.minDurationMinutes
    maxDurationMinutes := input.maxDurationMinutes.getD r.maxDurationMinutes }

def UpdateEquipmentTypeInput.patch (input : UpdateEquipmentTypeInput) (t : EquipmentType) :
    EquipmentType :=
  { t with
    name := input.name.getD t.name
    hourlyRateMinor := input.hourlyRateMinor.getD t.hourlyRateMinor
    unitsOwned := input.unitsOwned.getD t.unitsOwned }

/-! ## Projections -/

def present (row : Uuid × Venue) : VenueTx Json := do
  let createdAt ← (isoText row.2.createdAt).mapError .api
  pure (.obj [("id", .str row.1.text), ("name", .str row.2.name), ("city", .str row.2.city),
    ("timezone", .str row.2.timezone), ("operating_hours", row.2.operatingHours),
    ("overbooking_buffer_pct", .int row.2.overbookingBufferPct),
    ("overbooking_buffer_applies_to", .str "equipment"), ("created_at", .str createdAt)])

def presentRoom (row : Uuid × Room) : Json :=
  .obj [("id", .str row.1.text), ("venue_id", .str row.2.venueId.text), ("name", .str row.2.name),
    ("capacity", .int row.2.capacity), ("amenities", .arr (row.2.amenities.map Json.str)),
    ("hourly_rate_minor", .minor row.2.hourlyRateMinor),
    ("min_duration_minutes", .int row.2.minDurationMinutes),
    ("max_duration_minutes", .int row.2.maxDurationMinutes), ("overbooking_buffer_pct", .int 0)]

def presentEquipment (row : Uuid × EquipmentType) : Json :=
  .obj [("id", .str row.1.text), ("venue_id", .str row.2.venueId.text), ("name", .str row.2.name),
    ("units_owned", .int row.2.unitsOwned), ("hourly_rate_minor", .minor row.2.hourlyRateMinor)]

/-! ## The service -/

namespace VenuesAdmin

/-- The venue on the token, or a refusal. -/
def scope (principal : AuthPrincipal) : VenueTx Uuid :=
  Tx.fetch (fun _ => principal.venueId) (.api (.forbidden
    "This endpoint writes to the venue on your token, and your token has no venue. A platform administrator cannot administer a venue through it."))

def settings (principal : AuthPrincipal) : VenueTx Json := do
  let venueId ← scope principal
  let row ← Tx.fetch (·.venues.get? venueId) venueNotFound
  present (venueId, row)

/-- The update, committed before its row is presented. -/
def updateSettings (input : UpdateVenueSettingsInput) (principal : AuthPrincipal) :
    VenueTx (Uuid × Venue) := do
  let venueId ← scope principal
  let row ← Tx.fetch (·.venues.get? venueId) venueNotFound
  Tx.write fun db => { db with venues := db.venues.modify venueId input.patch }
  pure (venueId, input.patch row)

/-- **A room takes no overbooking buffer.** -/
def refuseRoomBuffer (bufferPct : Option Int) : VenueTx Unit :=
  match bufferPct with
  | none => pure ()
  | some pct =>
      if pct = 0 then pure ()
      else Tx.abort (.field
        "A room cannot carry an overbooking buffer. A room is a single physical space, so admitting more bookings than it can hold would double-book it and violate INV-1 directly — the exclusion constraint would refuse the second booking regardless. The buffer applies to equipment, where it is a quantity over an interval: set it with PATCH /venues/settings."
        "overbooking_buffer_pct" pct 0 "equipment")

/-- `venue_id` references `venues`. -/
def requireVenue (venueId : Uuid) : VenueTx Unit := do
  let _ ← Tx.fetch (·.venues.get? venueId) (.api (.database "23503"))
  pure ()

def CreateRoomInput.row (input : CreateRoomInput) (venueId : Uuid) : Room where
  venueId := venueId
  name := input.name
  capacity := input.capacity
  hourlyRateMinor := input.hourlyRateMinor
  amenities := input.amenities
  minDurationMinutes := input.minDurationMinutes
  maxDurationMinutes := input.maxDurationMinutes

/-- `INSERT INTO rooms`. -/
def insertRoom (id : Uuid) (row : Room) : VenueTx Unit :=
  Tx.fetch (fun db => db.rooms.insert? id row) (.api (.database "23505")) >>= fun rooms =>
    Tx.write fun db => { db with rooms := rooms }

/-- `id` is the generated key. -/
def createRoom (id : Uuid) (input : CreateRoomInput) (principal : AuthPrincipal) :
    VenueTx Json := do
  let venueId ← scope principal
  refuseRoomBuffer input.overbookingBufferPct
  requireVenue venueId
  insertRoom id (CreateRoomInput.row input venueId)
  pure (presentRoom (id, CreateRoomInput.row input venueId))

/-- The row of a room of the venue: another venue's is not there. -/
def roomOf (db : Db) (venueId roomId : Uuid) : Option Room :=
  (db.rooms.get? roomId).filter fun r => decide (r.venueId = venueId)

/-- What `updateRoom` reads before it updates. -/
def findRoom (roomId : Uuid) (input : UpdateRoomInput) (principal : AuthPrincipal) :
    VenueTx (Uuid × Room) := do
  let venueId ← scope principal
  refuseRoomBuffer input.overbookingBufferPct
  let existing ← Tx.fetch (roomOf · venueId roomId) venueNotFound
  pure (venueId, existing)

/-- The update of a room, given the row as it was read: a bound that was not sent is compared
as it was then. -/
def updateRoomLoaded (venueId roomId : Uuid) (input : UpdateRoomInput) (existing : Room) :
    VenueTx Json := do
  let min := input.minDurationMinutes.getD existing.minDurationMinutes
  let max := input.maxDurationMinutes.getD existing.maxDurationMinutes
  if max < min then
    Tx.abort (.issues ("min_duration_minutes (" ++ toString min ++
        ") would exceed max_duration_minutes (" ++ toString max ++ ")")
      [⟨"min_duration_minutes", "custom",
        "Checked against the stored value for whichever bound was not sent"⟩])
  else if input.patchless then pure (presentRoom (roomId, existing))
  else do
    let row ← Tx.fetch (roomOf · venueId roomId) venueNotFound
    Tx.write fun db => { db with rooms := db.rooms.modify roomId input.patch }
    pure (presentRoom (roomId, input.patch row))

def updateRoom (roomId : Uuid) (input : UpdateRoomInput) (principal : AuthPrincipal) :
    VenueTx Json := do
  let (venueId, existing) ← findRoom roomId input principal
  updateRoomLoaded venueId roomId input existing

/-- `ORDER BY name, id`. -/
def byName (r s : Uuid × Room) : Prop :=
  r.2.name < s.2.name ∨ (r.2.name = s.2.name ∧ r.1 ≤ s.1)

instance : DecidableRel byName := fun _ _ => inferInstanceAs (Decidable (_ ∨ _))

def listRooms (principal : AuthPrincipal) : VenueTx Json := do
  let venueId ← scope principal
  let rows ← Tx.read fun db => db.rooms.select fun _ r => decide (r.venueId = venueId)
  pure (.obj [("data", .arr ((rows.insertionSort byName).map presentRoom))])

def CreateEquipmentTypeInput.row (input : CreateEquipmentTypeInput) (venueId : Uuid) :
    EquipmentType where
  venueId := venueId
  name := input.name
  hourlyRateMinor := input.hourlyRateMinor
  unitsOwned := input.unitsOwned

/-- `INSERT INTO equipment_types`. -/
def insertEquipmentType (id : Uuid) (row : EquipmentType) : VenueTx Unit :=
  Tx.fetch (fun db => db.equipmentTypes.insert? id row) (.api (.database "23505")) >>= fun types =>
    Tx.write fun db => { db with equipmentTypes := types }

def createEquipmentType (id : Uuid) (input : CreateEquipmentTypeInput)
    (principal : AuthPrincipal) : VenueTx Json := do
  let venueId ← scope principal
  requireVenue venueId
  insertEquipmentType id (CreateEquipmentTypeInput.row input venueId)
  pure (presentEquipment (id, CreateEquipmentTypeInput.row input venueId))

def equipmentTypeOf (db : Db) (venueId equipmentTypeId : Uuid) : Option EquipmentType :=
  (db.equipmentTypes.get? equipmentTypeId).filter fun t => decide (t.venueId = venueId)

def updateEquipmentType (equipmentTypeId : Uuid) (input : UpdateEquipmentTypeInput)
    (principal : AuthPrincipal) : VenueTx Json := do
  let venueId ← scope principal
  let row ← Tx.fetch (equipmentTypeOf · venueId equipmentTypeId) venueNotFound
  Tx.write fun db =>
    { db with equipmentTypes := db.equipmentTypes.modify equipmentTypeId input.patch }
  pure (presentEquipment (equipmentTypeId, input.patch row))

end VenuesAdmin

/-! ## The equipment routes -/

namespace Equipment

/-- The filter of a caller who is no platform administrator. -/
def scope (principal : AuthPrincipal) : VenueTx (EquipmentType → Bool) :=
  match principal.role, principal.venueId with
  | .platformAdmin, _ => pure fun _ => true
  | _, some venueId => pure fun t => decide (t.venueId = venueId)
  | _, none => Tx.abort venueNotFound

def list (principal : AuthPrincipal) : VenueTx Json := do
  let inScope ← scope principal
  let rows ← Tx.read fun db => db.equipmentTypes.select fun _ t => inScope t
  pure (.obj [("data", .arr (rows.map presentEquipment))])

def findOne (id : Uuid) (principal : AuthPrincipal) : VenueTx Json := do
  let inScope ← scope principal
  let row ← Tx.fetch (fun db => (db.equipmentTypes.get? id).filter inScope) venueNotFound
  pure (presentEquipment (id, row))

end Equipment

/-! ## The policy routes -/

namespace Policies

def presentPolicy (venueId : Option Uuid) (policyId : Uuid) (source : ResolvedFrom) (tiers : Tiers)
    (note : List (String × Json)) : Json :=
  .obj ([("venue_id", .orNull (venueId.map Uuid.text)), ("policy_id", .str policyId.text),
    ("resolved_from", .str source.label), ("tiers", tiers.toJson)] ++ note)

/-- The tiers a booking of the caller's venue would be confirmed under. -/
def current (principal : AuthPrincipal) : VenueTx Json :=
  match principal.venueId with
  | some venueId => do
      let (tiers, policyId, source) ← (resolveTiers venueId).mapError .api
      pure (presentPolicy (some venueId) policyId source tiers [])
  | none => do
      let platform ← Tx.read (newestPolicy · none)
      match platform with
      | some row => do
          let (tiers, policyId) ← (parseTiers row).mapError .api
          pure (presentPolicy none policyId .platform tiers [])
      | none => Tx.abort (.api (.unavailable
          "No platform default cancellation policy exists. Migration 0003 inserts it; re-run migrations or re-seed. Bookings cannot be confirmed until it is present."
          (some "node dist/db/migrate.js, or pnpm seed")))

/-- `INSERT INTO cancellation_policies`. -/
def insertPolicy (id : Uuid) (row : CancellationPolicy) : VenueTx Unit :=
  Tx.fetch (fun db => db.cancellationPolicies.insert? id row) (.api (.database "23505")) >>=
    fun policies => Tx.write fun db => { db with cancellationPolicies := policies }

/-- Write a new policy for the caller's venue; the rows before it stay. -/
def replace (id : Uuid) (tiers : Tiers) (now : Instant) (principal : AuthPrincipal) :
    VenueTx Json := do
  let venueId ← Tx.fetch (fun _ => principal.venueId)
    (.api (.forbidden "Only a venue administrator may set a venue cancellation policy"))
  VenuesAdmin.requireVenue venueId
  insertPolicy id ⟨some venueId, tiers.toJson, now⟩
  pure (presentPolicy (some venueId) id .venue tiers [("note", .str
    "Applies to bookings confirmed from now on. Bookings already CONFIRMED keep the policy snapshot frozen at their confirmation.")])

end Policies

end Atrium
