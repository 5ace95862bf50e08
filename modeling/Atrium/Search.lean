/-
# Search -- the cross-venue room search

The filters of a query are applied in three places: the venues' hours in code, the
attributes of a room in one query, and the bookings in another.  Without a window the pages
are cut by the database; with one they are cut from the rooms that are left.
-/
import Atrium.Base.Paging
import Atrium.FreeRooms
import Atrium.TextColumns

namespace Atrium

open Atrium.Base

set_option autoImplicit false

/-- `SearchSchema`; `from` and `to` come together, and the page counts from one. -/
structure SearchQuery where
  city : Option String
  minCapacity : Option Int
  amenity : List String
  maxHourlyRateMinor : Option Minor
  window : Option (Instant × Instant)
  page : Nat
  pageSize : Nat
  ordered : ∀ source target, window = some (source, target) → source < target
  paged : 1 ≤ page
  sized : 1 ≤ pageSize ∧ pageSize ≤ 100

/-- A room, with its venue. -/
structure FoundRoom where
  id : Uuid
  room : Room
  venue : Venue

/-- `ORDER BY hourly_rate_minor, id`. -/
def FoundRoom.key (row : FoundRoom) : Lex (Int × Nat) := toLex (row.room.hourlyRateMinor, row.id.toNat)

def byRate (p q : FoundRoom) : Prop := p.key ≤ q.key

instance : DecidableRel byRate := fun _ _ => inferInstanceAs (Decidable (_ ≤ _))

/-- `rooms` joined with `venues`. -/
def catalogue (db : Db) : List FoundRoom :=
  db.rooms.rows.filterMap fun row =>
    (db.venues.get? row.2.venueId).map fun venue => ⟨row.1, row.2, venue⟩

section Search

-- Postgres' own `lower`.
variable (lower : String → String)

/-! ## The predicates -/

/-- `lower(city) = lower(query.city)`. -/
def SearchQuery.inCity (query : SearchQuery) (venue : Venue) : Bool :=
  query.city.all fun city => decide (lower venue.city = lower city)

/-- The predicates on a room and its venue, `@>` of the amenities among them. -/
def SearchQuery.selects (query : SearchQuery) (row : FoundRoom) : Bool :=
  query.inCity lower row.venue &&
    query.minCapacity.all (fun least => decide (least ≤ row.room.capacity)) &&
    query.maxHourlyRateMinor.all (fun most => decide (row.room.hourlyRateMinor ≤ most)) &&
    query.amenity.all fun amenity => decide (amenity ∈ row.room.amenities)

/-- `filters_applied`. -/
def SearchQuery.applied (query : SearchQuery) : List String :=
  (query.city.map fun _ => "city").toList ++ (query.minCapacity.map fun _ => "min_capacity").toList ++
    (query.maxHourlyRateMinor.map fun _ => "max_hourly_rate_minor").toList ++
    (if query.amenity = [] then [] else ["amenity"]) ++
    (query.window.map fun _ => "availability_window").toList

def SearchQuery.texts (query : SearchQuery) : List String := query.city.toList ++ query.amenity

/-- The rows of the room query, of the open venues where there is a window. -/
def selectedRooms (db : Db) (query : SearchQuery) (openVenueIds : Option (List Uuid)) :
    List FoundRoom :=
  ((catalogue db).filter fun row =>
    query.selects lower row && openVenueIds.all fun ids => decide (row.room.venueId ∈ ids)).insertionSort
      byRate

/-! ## The service -/

/-- A page of the room query. -/
def pageOf (query : SearchQuery) (openVenueIds : Option (List Uuid)) (page pageSize : Nat) :
    Transaction (List FoundRoom) := do
  refuseNul query.texts
  Tx.read fun db => Paging.page (selectedRooms lower db query openVenueIds) pageSize (page - 1)

def countRooms (query : SearchQuery) (openVenueIds : Option (List Uuid)) : Transaction Nat := do
  refuseNul query.texts
  Tx.read fun db => (selectedRooms lower db query openVenueIds).length

/-- Whether a venue is open for the whole window; a zone the runtime does not know throws. -/
def openFor (env : Env) (source target : Instant) (venue : Venue) : Transaction Bool :=
  match parseOperatingHours venue.operatingHours with
  | none => pure false
  | some hours => do
      let zone ← Tx.fetch (fun _ => env.timeZone venue.timezone)
        (.internal ("Invalid time zone specified: " ++ venue.timezone))
      pure (isWithinOperatingHours hours zone source target)

/-- The `filter` over the venues. -/
def filterOpen (env : Env) (source target : Instant) : List (Uuid × Venue) → Transaction (List Uuid)
  | [] => pure []
  | row :: rows => do
      let isOpen ← openFor env source target row.2
      let rest ← filterOpen env source target rows
      pure (if isOpen = true then row.1 :: rest else rest)

/-- Venue ids whose operating hours contain the window, of the city where one is given. -/
def venuesOpenFor (env : Env) (query : SearchQuery) (source target : Instant) :
    Transaction (List Uuid) := do
  refuseNul query.city.toList
  let rows ← Tx.read fun db => db.venues.select fun _ venue => query.inCity lower venue
  filterOpen env source target rows

structure SearchPage where
  data : List FoundRoom
  page : Nat
  pageSize : Nat
  total : Nat
  filtersApplied : List String
  truncatedAtCandidates : Option Nat

def candidateCap : Nat := 2000

/-- Cross-venue room search.  `turnaround` is `ROOM_TURNAROUND_MINUTES`. -/
def search (env : Env) (turnaround : Int) (query : SearchQuery) (now : Instant) :
    Transaction SearchPage :=
  match query.window with
  | none => do
      let rowsPage ← pageOf lower query none query.page query.pageSize
      let counted ← countRooms lower query none
      pure ⟨rowsPage, query.page, query.pageSize, counted, query.applied, none⟩
  | some (source, target) => do
      let openVenueIds ← venuesOpenFor lower env query source target
      if openVenueIds = [] then
        pure ⟨[], query.page, query.pageSize, 0, query.applied, none⟩
      else
        let candidates ← pageOf lower query (some openVenueIds) 1 candidateCap
        let free ← freeRoomIds turnaround (candidates.map FoundRoom.id) source target now
        let available := candidates.filter fun row => row.id ∈ free
        pure ⟨(available.drop ((query.page - 1) * query.pageSize)).take query.pageSize, query.page,
          query.pageSize, available.length, query.applied,
          if candidates.length = candidateCap then some candidateCap else none⟩

end Search

def FoundRoom.json (row : FoundRoom) : Json :=
  .obj [("id", .str row.id.text), ("name", .str row.room.name), ("capacity", .int row.room.capacity),
    ("amenities", .arr (row.room.amenities.map Json.str)),
    ("hourly_rate_minor", .minor row.room.hourlyRateMinor),
    ("min_duration_minutes", .int row.room.minDurationMinutes),
    ("max_duration_minutes", .int row.room.maxDurationMinutes),
    ("venue_id", .str row.room.venueId.text), ("venue_name", .str row.venue.name),
    ("city", .str row.venue.city), ("timezone", .str row.venue.timezone)]

def SearchPage.json (answer : SearchPage) : Json :=
  .obj ([("data", .arr (answer.data.map FoundRoom.json)), ("page", .num answer.page),
    ("page_size", .num answer.pageSize), ("total", .num answer.total),
    ("filters_applied", .arr (answer.filtersApplied.map Json.str))] ++
    (answer.truncatedAtCandidates.map fun cap => ("truncated_at_candidates", Json.num cap)).toList)

end Atrium
