/-
# SearchPages -- the pages of a search are the matching rooms

A row of the joined catalogue is listed exactly where it meets every filter that is given,
whichever stage applies the filter, and the pages come to these rows in order and once.  What
can keep a search from answering is a text the database refuses, a venue whose time zone the
runtime does not know, and a window the database cannot read.  What can lose a room is that the
hours of two local days only are looked at (`search_exact_iff`).
-/
import Atrium.Api
import Atrium.BookingPages
import Atrium.Search

namespace Atrium

open Atrium.Base

set_option autoImplicit false

section Search

variable (env : Env) (turnaround : Int) (lower : String → String) (query : SearchQuery) (now : Instant)
  (db : Db)

/-! ## What is asked for -/

/-- The opening hours of the local day of an instant contain the whole window. -/
def OpensOn (venue : Venue) (source target day : Instant) : Prop :=
  ∃ hours zone w, parseOperatingHours venue.operatingHours = some hours ∧
    env.timeZone venue.timezone = some zone ∧ windowForLocalDay hours zone day = some w ∧
      w.opensAt ≤ source ∧ target ≤ w.closesAt

/-- The venue is open for the whole window: on one of its days, whichever. -/
def OpenFor (venue : Venue) (source target : Instant) : Prop :=
  ∃ day, OpensOn env venue source target day

/-- It is open so on the day the window starts, or on that of 24 hours before. -/
def OpenNearby (venue : Venue) (source target : Instant) : Prop :=
  OpensOn env venue source target source ∨ OpensOn env venue source target (addMinutes source (-24 * 60))

/-- No live booking of the room meets the window and its turnaround. -/
def FreeFor (room : Uuid) (source target : Instant) : Prop :=
  ¬ ∃ id b, db.bookings.get? id = some b ∧ b.roomId = room ∧ b.live now = true ∧
    b.startsAt < addMinutes target turnaround ∧ source < b.slotEnd

/-- A room of the catalogue that satisfies every filter but those of the window. -/
structure Selected (row : FoundRoom) : Prop where
  inCatalogue : db.rooms.get? row.id = some row.room ∧ db.venues.get? row.room.venueId = some row.venue
  city : ∀ city, query.city = some city → lower row.venue.city = lower city
  capacity : ∀ least, query.minCapacity = some least → least ≤ row.room.capacity
  rate : ∀ most, query.maxHourlyRateMinor = some most → row.room.hourlyRateMinor ≤ most
  amenities : ∀ amenity ∈ query.amenity, amenity ∈ row.room.amenities

/-- A room that satisfies every filter. -/
structure Matches (row : FoundRoom) : Prop extends Selected lower query db row where
  isOpen : ∀ source target, query.window = some (source, target) → OpenFor env row.venue source target
  free : ∀ source target, query.window = some (source, target) →
    FreeFor turnaround now db row.id source target

theorem page_paged (page : Nat) : 1 ≤ page + 1 := Nat.le_add_left 1 page

def SearchQuery.at (page : Nat) : SearchQuery :=
  { query with page := page + 1, paged := page_paged page }

/-- **The pages are the matching rooms**: every page answers and gives their number, and the
pages come to the matching rooms, once and in order of rate and id. -/
def SearchExact : Prop :=
  ∃ rows : List FoundRoom, rows.Pairwise (fun p q => p.key < q.key) ∧
    (∀ row, row ∈ rows ↔ Matches env turnaround lower query now db row) ∧
    ∃ answers : Nat → SearchPage,
      (∀ n, search lower env turnaround (query.at n) now db = .ok (answers n, db) ∧
        (answers n).total = rows.length) ∧
      ((List.range (pageCount rows.length query.pageSize)).flatMap fun n => (answers n).data) = rows

/-- A room that the room query selects: its venue has been found open. -/
structure Candidate (row : FoundRoom) : Prop extends Selected lower query db row where
  found : ∀ source target, query.window = some (source, target) → OpenNearby env row.venue source target

/-- Fewer candidates than the cap. -/
def FewCandidates : Prop :=
  ∀ rows : List FoundRoom, rows.Nodup → (∀ row ∈ rows, Candidate env lower query db row) →
    rows.length < candidateCap

/-- The search can be asked: no text of a query that is sent has a NUL, every venue whose hours
are looked at has a zone, and the database reads the window it is sent. -/
structure Askable : Prop where
  city : ∀ city, query.city = some city → hasNul city = false
  amenities : (∀ source target, query.window = some (source, target) → ∃ id venue,
      db.venues.get? id = some venue ∧ query.inCity lower venue = true ∧
        OpenNearby env venue source target) →
    ∀ amenity ∈ query.amenity, hasNul amenity = false
  zoned : ∀ source target, query.window = some (source, target) → ∀ id venue,
    db.venues.get? id = some venue → query.inCity lower venue = true →
      (parseOperatingHours venue.operatingHours).isSome → (env.timeZone venue.timezone).isSome
  readable : ∀ source target, query.window = some (source, target) →
    (∃ row, Candidate env lower query db row) →
      Instant.isTimestamp source = true ∧ Instant.isTimestamp (addMinutes target turnaround) = true

/-- A candidate that is free for the window. -/
structure Found (row : FoundRoom) : Prop extends Candidate env lower query db row where
  free : ∀ source target, query.window = some (source, target) →
    FreeFor turnaround now db row.id source target

/-- No matching room is of a venue that is open on another day only. -/
def DaysSeen : Prop :=
  ∀ row, Matches env turnaround lower query now db row →
    ∀ source target, query.window = some (source, target) → OpenNearby env row.venue source target

end Search

/-! ## The catalogue -/

section Rows

variable {env : Env} {turnaround : Int} {lower : String → String} {query : SearchQuery} {now : Instant}
  {db : Db}

theorem mem_catalogue {row : FoundRoom} : row ∈ catalogue db ↔
    db.rooms.get? row.id = some row.room ∧ db.venues.get? row.room.venueId = some row.venue := by
  simp only [catalogue, List.mem_filterMap, Option.map_eq_some_iff, Prod.exists]
  constructor
  · rintro ⟨id, room, stored, venue, found, rfl⟩
    exact ⟨Table.mem_rows.mp stored, found⟩
  · rintro ⟨stored, found⟩
    exact ⟨row.id, row.room, Table.mem_rows.mpr stored, row.venue, found, rfl⟩

theorem catalogue_ids_nodup : ((catalogue db).map FoundRoom.id).Nodup := by
  have sub : ∀ rows : List (Uuid × Room), ((rows.filterMap fun row =>
      (db.venues.get? row.2.venueId).map fun venue => (⟨row.1, row.2, venue⟩ : FoundRoom)).map
        FoundRoom.id).Sublist (rows.map Prod.fst) := by
    intro rows
    induction rows with
    | nil => exact List.Sublist.slnil
    | cons row rows ih =>
        cases found : db.venues.get? row.2.venueId with
        | none =>
            rw [List.filterMap_cons_none (by rw [found]; rfl), List.map_cons]
            exact ih.cons _
        | some venue =>
            rw [List.filterMap_cons_some (b := (⟨row.1, row.2, venue⟩ : FoundRoom)) (by rw [found]; rfl),
              List.map_cons, List.map_cons]
            exact ih.cons_cons _
  exact (sub _).nodup db.rooms.unique

instance : Std.Total byRate := ⟨fun p q => le_total p.key q.key⟩

instance : IsTrans FoundRoom byRate := ⟨fun _ _ _ => le_trans⟩

/-- Different rooms have different keys. -/
theorem key_injective {p q : FoundRoom} (same : p.key = q.key) : p.id = q.id := by
  have second := congrArg (fun key => (ofLex key).2) same
  exact BitVec.eq_of_toNat_eq second

theorem selectedRooms_sorted (openVenueIds : Option (List Uuid)) :
    (selectedRooms lower db query openVenueIds).Pairwise fun p q => p.key < q.key := by
  have ordered : (selectedRooms lower db query openVenueIds).Pairwise byRate :=
    List.pairwise_insertionSort _ _
  have nodup : ((selectedRooms lower db query openVenueIds).map FoundRoom.id).Nodup := by
    refine ((List.perm_insertionSort _ _).map FoundRoom.id).nodup_iff.mpr ?_
    exact catalogue_ids_nodup.sublist (List.filter_sublist.map FoundRoom.id)
  have different := List.pairwise_map.mp nodup
  refine (ordered.and different).imp fun {p q} both => ?_
  exact lt_of_le_of_ne both.1 fun same => both.2 (key_injective same)

theorem mem_selectedRooms {openVenueIds : Option (List Uuid)} {row : FoundRoom} :
    row ∈ selectedRooms lower db query openVenueIds ↔
      (db.rooms.get? row.id = some row.room ∧ db.venues.get? row.room.venueId = some row.venue) ∧
        query.selects lower row = true ∧ ∀ ids, openVenueIds = some ids → row.room.venueId ∈ ids := by
  rw [selectedRooms, List.mem_insertionSort, List.mem_filter, mem_catalogue]
  simp only [Bool.and_eq_true, Option.all_eq_true, decide_eq_true_eq]

theorem selects_iff {row : FoundRoom} : query.selects lower row = true ↔
    (∀ city, query.city = some city → lower row.venue.city = lower city) ∧
      (∀ least, query.minCapacity = some least → least ≤ row.room.capacity) ∧
      (∀ most, query.maxHourlyRateMinor = some most → row.room.hourlyRateMinor ≤ most) ∧
      ∀ amenity ∈ query.amenity, amenity ∈ row.room.amenities := by
  simp only [SearchQuery.selects, SearchQuery.inCity, Bool.and_eq_true, Option.all_eq_true,
    decide_eq_true_eq, List.all_eq_true, and_assoc]

/-! ## The stages -/

/-- A zone is known where one is needed. -/
def Zoned (env : Env) (venue : Venue) : Prop :=
  (parseOperatingHours venue.operatingHours).isSome → (env.timeZone venue.timezone).isSome

/-- **What the code looks at.** -/
theorem openNearby_iff {venue : Venue} {hours : OperatingHours} {zone : Zone} {source target : Instant}
    (parsed : parseOperatingHours venue.operatingHours = some hours)
    (known : env.timeZone venue.timezone = some zone) :
    isWithinOperatingHours hours zone source target = true ↔ OpenNearby env venue source target := by
  have day : ∀ anchor, ((windowForLocalDay hours zone anchor).any fun w =>
      decide (w.opensAt ≤ source ∧ target ≤ w.closesAt)) = true ↔
        OpensOn env venue source target anchor := by
    intro anchor
    simp only [Option.any_eq_true, decide_eq_true_eq]
    constructor
    · rintro ⟨w, here, opens, closes⟩
      exact ⟨hours, zone, w, parsed, known, here, opens, closes⟩
    · rintro ⟨hours', zone', w, parsed', known', here, opens, closes⟩
      cases parsed.symm.trans parsed'
      cases known.symm.trans known'
      exact ⟨w, here, opens, closes⟩
  simp only [isWithinOperatingHours, List.any_cons, List.any_nil, Bool.or_false, Bool.or_eq_true, day]
  rfl

theorem OpenNearby.openFor {venue : Venue} {source target : Instant}
    (nearby : OpenNearby env venue source target) : OpenFor env venue source target := by
  rcases nearby with today | yesterday
  · exact ⟨_, today⟩
  · exact ⟨_, yesterday⟩

theorem openFor_run {venue : Venue} {source target : Instant} (zoned : Zoned env venue) :
    ∃ isOpen, openFor env source target venue db = .ok (isOpen, db) ∧
      (isOpen = true ↔ OpenNearby env venue source target) := by
  cases parsed : parseOperatingHours venue.operatingHours with
  | none =>
      refine ⟨false, by rw [openFor, parsed]; rfl, iff_of_false Bool.false_ne_true ?_⟩
      rintro (⟨hours, _, _, parsed', -⟩ | ⟨hours, _, _, parsed', -⟩)
      · cases parsed.symm.trans parsed'
      · cases parsed.symm.trans parsed'
  | some hours =>
      obtain ⟨zone, known⟩ := Option.isSome_iff_exists.mp (zoned (by rw [parsed]; rfl))
      refine ⟨isWithinOperatingHours hours zone source target, ?_, openNearby_iff parsed known⟩
      rw [openFor, parsed]
      simp only [Tx.fetch_bind, known]
      rfl

theorem openFor_zoned {venue : Venue} {source target : Instant} {isOpen : Bool} {db' : Db}
    (returned : openFor env source target venue db = .ok (isOpen, db')) : Zoned env venue ∧ db' = db := by
  cases parsed : parseOperatingHours venue.operatingHours with
  | none =>
      rw [openFor, parsed] at returned
      simp only [Tx.pure_ok] at returned
      refine ⟨fun some_ => ?_, returned.2.symm⟩
      rw [parsed] at some_
      cases some_
  | some hours =>
      rw [openFor, parsed] at returned
      simp only [Tx.bind_ok, Tx.fetch_ok, Tx.pure_ok] at returned
      obtain ⟨zone, _, ⟨known, rfl⟩, -, rfl⟩ := returned
      refine ⟨fun _ => ?_, rfl⟩
      rw [known]
      rfl

/-- **The venues that are open**, where each has a zone. -/
theorem filterOpen_run (source target : Instant) (rows : List (Uuid × Venue))
    (zoned : ∀ row ∈ rows, Zoned env row.2) :
    ∃ ids, filterOpen env source target rows db = .ok (ids, db) ∧
      ∀ id, id ∈ ids ↔ ∃ venue, (id, venue) ∈ rows ∧ OpenNearby env venue source target := by
  induction rows with
  | nil => exact ⟨[], rfl, by simp⟩
  | cons row rows ih =>
      obtain ⟨isOpen, here, holds⟩ :=
        @openFor_run env db row.2 source target (zoned row List.mem_cons_self)
      obtain ⟨ids, there, members⟩ := ih fun row' among => zoned row' (List.mem_cons_of_mem _ among)
      refine ⟨if isOpen = true then row.1 :: ids else ids, ?_, fun id => ?_⟩
      · rw [filterOpen, Tx.bind_of_ok here, Tx.bind_of_ok there]
        rfl
      · have split : (∃ venue, (id, venue) ∈ row :: rows ∧ OpenNearby env venue source target) ↔
            (id = row.1 ∧ OpenNearby env row.2 source target) ∨
              ∃ venue, (id, venue) ∈ rows ∧ OpenNearby env venue source target := by
          constructor
          · rintro ⟨venue, among, open_⟩
            rcases List.mem_cons.mp among with rfl | among
            · exact .inl ⟨rfl, open_⟩
            · exact .inr ⟨venue, among, open_⟩
          · rintro (⟨rfl, open_⟩ | ⟨venue, among, open_⟩)
            · exact ⟨row.2, List.mem_cons_self, open_⟩
            · exact ⟨venue, List.mem_cons_of_mem _ among, open_⟩
        rw [split, ← members, ← holds]
        by_cases open_ : isOpen = true
        · simp [open_]
        · simp [open_]

theorem filterOpen_zoned {source target : Instant} {rows : List (Uuid × Venue)} {ids : List Uuid}
    {db' : Db} (returned : filterOpen env source target rows db = .ok (ids, db')) :
    ∀ row ∈ rows, Zoned env row.2 := by
  induction rows generalizing ids db' with
  | nil => exact fun _ among => absurd among List.not_mem_nil
  | cons row rows ih =>
      simp only [filterOpen, Tx.bind_ok] at returned
      obtain ⟨isOpen, _, here, rest, _, there, -⟩ := returned
      obtain ⟨zoned, rfl⟩ := openFor_zoned here
      intro row' among
      rcases List.mem_cons.mp among with rfl | among
      · exact zoned
      · exact ih there row' among

theorem venuesOpenFor_run {source target : Instant}
    (city : ∀ city, query.city = some city → hasNul city = false)
    (zoned : ∀ id venue, db.venues.get? id = some venue → query.inCity lower venue = true →
      Zoned env venue) :
    ∃ ids, venuesOpenFor lower env query source target db = .ok (ids, db) ∧
      ∀ id, id ∈ ids ↔ ∃ venue, db.venues.get? id = some venue ∧ query.inCity lower venue = true ∧
        OpenNearby env venue source target := by
  have clean : refuseNul query.city.toList db = .ok ((), db) := by
    refine refuseNul_ok.mpr ⟨fun text among => ?_, rfl⟩
    exact city text (Option.mem_toList.mp among)
  obtain ⟨ids, run, members⟩ := @filterOpen_run env db source target
    (db.venues.select fun _ venue => query.inCity lower venue) fun row among => by
      obtain ⟨stored, inCity⟩ := Table.mem_select.mp among
      exact zoned row.1 row.2 stored inCity
  refine ⟨ids, ?_, fun id => ?_⟩
  · rw [venuesOpenFor, Tx.bind_of_ok clean]
    exact run
  · simp only [members, Table.mem_select, and_assoc]

theorem venuesOpenFor_ok {source target : Instant} {ids : List Uuid} {db' : Db}
    (returned : venuesOpenFor lower env query source target db = .ok (ids, db')) :
    (∀ city, query.city = some city → hasNul city = false) ∧
      ∀ id venue, db.venues.get? id = some venue → query.inCity lower venue = true → Zoned env venue := by
  simp only [venuesOpenFor, Tx.bind_ok, refuseNul_ok, Tx.read_ok] at returned
  obtain ⟨_, _, ⟨clean, rfl⟩, rows, _, ⟨rfl, rfl⟩, filtered⟩ := returned
  refine ⟨fun city given => clean city (Option.mem_toList.mpr given), fun id venue stored inCity => ?_⟩
  exact filterOpen_zoned filtered (id, venue) (Table.mem_select.mpr ⟨stored, inCity⟩)

theorem pageOf_run (openVenueIds : Option (List Uuid)) (page pageSize : Nat)
    (clean : ∀ text ∈ query.texts, hasNul text = false) :
    pageOf lower query openVenueIds page pageSize db =
      .ok (Paging.page (selectedRooms lower db query openVenueIds) pageSize (page - 1), db) := by
  have sent : refuseNul query.texts db = .ok ((), db) := refuseNul_ok.mpr ⟨clean, rfl⟩
  rw [pageOf, Tx.bind_of_ok sent]
  rfl

theorem countRooms_run (openVenueIds : Option (List Uuid))
    (clean : ∀ text ∈ query.texts, hasNul text = false) :
    countRooms lower query openVenueIds db =
      .ok ((selectedRooms lower db query openVenueIds).length, db) := by
  have sent : refuseNul query.texts db = .ok ((), db) := refuseNul_ok.mpr ⟨clean, rfl⟩
  rw [countRooms, Tx.bind_of_ok sent]
  rfl

theorem pageOf_ok {openVenueIds : Option (List Uuid)} {page pageSize : Nat} {rows : List FoundRoom}
    {db' : Db} (returned : pageOf lower query openVenueIds page pageSize db = .ok (rows, db')) :
    (∀ text ∈ query.texts, hasNul text = false) ∧
      rows = Paging.page (selectedRooms lower db query openVenueIds) pageSize (page - 1) ∧ db' = db := by
  simp only [pageOf, Tx.bind_ok, refuseNul_ok, Tx.read_ok] at returned
  obtain ⟨_, _, ⟨clean, rfl⟩, rfl, rfl⟩ := returned
  exact ⟨clean, rfl, rfl⟩

theorem texts_clean (city : ∀ city, query.city = some city → hasNul city = false)
    (amenities : ∀ amenity ∈ query.amenity, hasNul amenity = false) :
    ∀ text ∈ query.texts, hasNul text = false := by
  intro text among
  rcases List.mem_append.mp among with among | among
  · exact city text (Option.mem_toList.mp among)
  · exact amenities text among

theorem clean_texts (clean : ∀ text ∈ query.texts, hasNul text = false) :
    (∀ city, query.city = some city → hasNul city = false) ∧
      ∀ amenity ∈ query.amenity, hasNul amenity = false := by
  constructor
  · exact fun city given => clean city (List.mem_append.mpr (.inl (Option.mem_toList.mpr given)))
  · exact fun amenity among => clean amenity (List.mem_append.mpr (.inr among))

/-! ## The candidates -/

theorem candidate_iff {openVenueIds : Option (List Uuid)} {row : FoundRoom}
    (stage : ∀ venue, db.venues.get? row.room.venueId = some venue → query.inCity lower venue = true →
      ((∀ ids, openVenueIds = some ids → row.room.venueId ∈ ids) ↔
        ∀ source target, query.window = some (source, target) → OpenNearby env venue source target)) :
    row ∈ selectedRooms lower db query openVenueIds ↔ Candidate env lower query db row := by
  rw [mem_selectedRooms, selects_iff]
  have inCity : (∀ city, query.city = some city → lower row.venue.city = lower city) →
      query.inCity lower row.venue = true := by
    intro city
    simp only [SearchQuery.inCity, Option.all_eq_true, decide_eq_true_eq]
    exact city
  constructor
  · rintro ⟨stored, ⟨city, capacity, rate, amenities⟩, listed⟩
    exact ⟨⟨stored, city, capacity, rate, amenities⟩, (stage _ stored.2 (inCity city)).mp listed⟩
  · rintro ⟨⟨stored, city, capacity, rate, amenities⟩, open_⟩
    exact ⟨stored, ⟨city, capacity, rate, amenities⟩, (stage _ stored.2 (inCity city)).mpr open_⟩

/-- The hours stage and the attribute stage together. -/
theorem candidate_iff_open {source target : Instant} {ids : List Uuid}
    (given : query.window = some (source, target))
    (members : ∀ id, id ∈ ids ↔ ∃ venue, db.venues.get? id = some venue ∧
      query.inCity lower venue = true ∧ OpenNearby env venue source target) {row : FoundRoom} :
    row ∈ selectedRooms lower db query (some ids) ↔ Candidate env lower query db row := by
  refine candidate_iff fun venue stored inCity => ?_
  constructor
  · intro listed source' target' given'
    cases given.symm.trans given'
    obtain ⟨venue', stored', -, open_⟩ := (members _).mp (listed ids rfl)
    cases stored.symm.trans stored'
    exact open_
  · rintro open_ _ ⟨⟩
    exact (members _).mpr ⟨venue, stored, inCity, open_ source target given⟩

theorem candidate_iff_plain (given : query.window = none) {row : FoundRoom} :
    row ∈ selectedRooms lower db query none ↔ Candidate env lower query db row := by
  refine candidate_iff fun venue stored inCity => iff_of_true ?_ ?_
  · rintro ids ⟨⟩
  · intro source target given'
    rw [given] at given'
    cases given'

end Rows

/-! ## The pages -/

section Pages

variable {env : Env} {turnaround : Int} {lower : String → String} {query : SearchQuery} {now : Instant}
  {db : Db}

/-- Page `n` of the matching rows. -/
def answerOf (query : SearchQuery) (rows : List FoundRoom) (n : Nat) : SearchPage :=
  ⟨Paging.page rows query.pageSize n, n + 1, query.pageSize, rows.length, query.applied, none⟩

theorem page_first {rows : List FoundRoom} (fewer : rows.length < candidateCap) :
    Paging.page rows candidateCap (1 - 1) = rows := by
  rw [Paging.page, Nat.sub_self, Nat.zero_mul, List.drop_zero]
  exact List.take_of_length_le fewer.le

theorem search_plain (given : query.window = none) (clean : ∀ text ∈ query.texts, hasNul text = false)
    (n : Nat) : search lower env turnaround (query.at n) now db =
      .ok (answerOf query (selectedRooms lower db query none) n, db) := by
  have rows := @pageOf_run lower (query.at n) db none (query.at n).page (query.at n).pageSize clean
  have counted := @countRooms_run lower (query.at n) db none clean
  have given' : (query.at n).window = none := given
  rw [search, given']
  simp only []
  rw [Tx.bind_of_ok rows, Tx.bind_of_ok counted]
  rfl

theorem search_closed {source target : Instant} (given : query.window = some (source, target))
    (run : venuesOpenFor lower env query source target db = .ok ([], db)) (n : Nat) :
    search lower env turnaround (query.at n) now db = .ok (answerOf query [] n, db) := by
  have given' : (query.at n).window = some (source, target) := given
  have run' : venuesOpenFor lower env (query.at n) source target db = .ok ([], db) := run
  rw [search, given']
  simp only []
  rw [Tx.bind_of_ok run']
  simp [answerOf, Paging.page, SearchQuery.at, SearchQuery.applied]
  rfl

theorem search_open {source target : Instant} {ids : List Uuid} {free : Finset Uuid}
    (given : query.window = some (source, target))
    (run : venuesOpenFor lower env query source target db = .ok (ids, db)) (some_ : ids ≠ [])
    (clean : ∀ text ∈ query.texts, hasNul text = false)
    (fewer : (selectedRooms lower db query (some ids)).length < candidateCap)
    (freed : freeRoomIds turnaround ((selectedRooms lower db query (some ids)).map FoundRoom.id)
      source target now db = .ok (free, db)) (n : Nat) :
    search lower env turnaround (query.at n) now db =
      .ok (answerOf query ((selectedRooms lower db query (some ids)).filter fun row => row.id ∈ free) n,
        db) := by
  have given' : (query.at n).window = some (source, target) := given
  have run' : venuesOpenFor lower env (query.at n) source target db = .ok (ids, db) := run
  have rows := @pageOf_run lower (query.at n) db (some ids) 1 candidateCap clean
  have same : selectedRooms lower db (query.at n) (some ids) = selectedRooms lower db query (some ids) :=
    rfl
  rw [same, page_first fewer] at rows
  rw [search, given']
  simp only []
  rw [Tx.bind_of_ok run', if_neg some_, Tx.bind_of_ok rows, Tx.bind_of_ok freed,
    if_neg (Nat.ne_of_lt fewer)]
  rfl

/-- **What the search answers**, every page of it. -/
theorem search_answers (forward : 0 ≤ turnaround) (fewer : FewCandidates env lower query db)
    (askable : Askable env turnaround lower query db) :
    ∃ rows : List FoundRoom, rows.Pairwise (fun p q => p.key < q.key) ∧
      (∀ row, row ∈ rows ↔ Found env turnaround lower query now db row) ∧
      ∀ n, search lower env turnaround (query.at n) now db = .ok (answerOf query rows n, db) := by
  have nodup : ∀ ids, (selectedRooms lower db query ids).Nodup := fun ids =>
    (selectedRooms_sorted ids).imp fun less => fun same => less.ne (congrArg FoundRoom.key same)
  cases given : query.window with
  | none =>
      have unasked : ∀ source target, query.window = some (source, target) → False := by
        intro source target given'
        rw [given] at given'
        cases given'
      have clean := texts_clean askable.city
        (askable.amenities fun source target given' => (unasked source target given').elim)
      refine ⟨_, selectedRooms_sorted none, fun row => ?_, search_plain given clean⟩
      rw [@candidate_iff_plain env lower query db given row]
      constructor
      · intro candidate
        exact ⟨candidate, fun source target given' => (unasked source target given').elim⟩
      · exact Found.toCandidate
  | some window =>
      obtain ⟨source, target⟩ := window
      obtain ⟨ids, run, members⟩ := @venuesOpenFor_run env lower query db source target askable.city
        (askable.zoned source target given)
      have candidates := fun row => @candidate_iff_open env lower query db source target ids given members row
      by_cases none_ : ids = []
      · subst none_
        refine ⟨[], List.Pairwise.nil, fun row => iff_of_false List.not_mem_nil ?_, search_closed given run⟩
        intro found
        have listed := (mem_selectedRooms.mp ((candidates row).mpr found.toCandidate)).2.2 [] rfl
        cases listed
      · have few := fewer (selectedRooms lower db query (some ids)) (nodup _)
          fun row => (candidates row).mp
        have clean : ∀ text ∈ query.texts, hasNul text = false := by
          refine texts_clean askable.city (askable.amenities fun source' target' given' => ?_)
          cases given.symm.trans given'
          obtain ⟨id, among⟩ := List.exists_mem_of_ne_nil ids none_
          obtain ⟨venue, stored, inCity, open_⟩ := (members id).mp among
          exact ⟨id, venue, stored, inCity, open_⟩
        have readable : Readable turnaround
            ((selectedRooms lower db query (some ids)).map FoundRoom.id) source target := by
          by_cases empty : selectedRooms lower db query (some ids) = []
          · exact .inl (by rw [empty]; rfl)
          · obtain ⟨row, among⟩ := List.exists_mem_of_ne_nil _ empty
            exact .inr (askable.readable source target given ⟨row, (candidates row).mp among⟩)
        obtain ⟨free, freed, kept⟩ := @freeRoomIds_run db source target now turnaround _
          (query.ordered source target given) forward readable
        refine ⟨_, (selectedRooms_sorted (some ids)).filter fun row => decide (row.id ∈ free), fun row => ?_,
          search_open given run none_ clean few freed⟩
        rw [List.mem_filter, decide_eq_true_eq, kept, candidates]
        constructor
        · rintro ⟨candidate, -, unmet⟩
          refine ⟨candidate, fun source' target' given' => ?_⟩
          cases given.symm.trans given'
          exact unmet
        · intro found
          refine ⟨found.toCandidate, List.mem_map.mpr ⟨row, (candidates row).mpr found.toCandidate, rfl⟩, ?_⟩
          exact found.free source target given

/-- A search that answers could be asked. -/
theorem askable_of_answer {answer : SearchPage} {db' : Db}
    (returned : search lower env turnaround query now db = .ok (answer, db')) :
    Askable env turnaround lower query db := by
  cases given : query.window with
  | none =>
      rw [search, given] at returned
      simp only [Tx.bind_ok] at returned
      obtain ⟨rows, _, paged, -⟩ := returned
      obtain ⟨clean, -, -⟩ := pageOf_ok paged
      obtain ⟨city, amenities⟩ := clean_texts clean
      refine ⟨city, fun _ => amenities, ?_, ?_⟩
      · intro source target given'
        rw [given] at given'
        cases given'
      · intro source target given'
        rw [given] at given'
        cases given'
  | some window =>
      obtain ⟨source, target⟩ := window
      rw [search, given] at returned
      simp only [Tx.bind_ok] at returned
      obtain ⟨ids, _, found, rest⟩ := returned
      obtain ⟨city, zoned⟩ := venuesOpenFor_ok found
      obtain ⟨ids', run, members⟩ := @venuesOpenFor_run env lower query db source target city zoned
      cases run.symm.trans found
      have candidates := fun row => @candidate_iff_open env lower query db source target ids given members row
      by_cases none_ : ids = []
      · refine ⟨city, fun some_ => ?_, fun source' target' given' => ?_, fun source' target' given' => ?_⟩
        · obtain ⟨id, venue, stored, inCity, open_⟩ := some_ source target given
          have among := (members id).mpr ⟨venue, stored, inCity, open_⟩
          rw [none_] at among
          cases among
        · cases given.symm.trans given'
          exact zoned
        · rintro ⟨row, candidate⟩
          have listed := (mem_selectedRooms.mp ((candidates row).mpr candidate)).2.2 ids rfl
          rw [none_] at listed
          cases listed
      · rw [if_neg none_, Tx.bind_ok] at rest
        obtain ⟨rows, _, paged, rest⟩ := rest
        obtain ⟨clean, rfl, rfl⟩ := pageOf_ok paged
        rw [Tx.bind_ok] at rest
        obtain ⟨free, _, freed, -⟩ := rest
        have readable := readable_of_run freed
        refine ⟨city, fun _ => (clean_texts clean).2, fun source' target' given' => ?_,
          fun source' target' given' => ?_⟩
        · cases given.symm.trans given'
          exact zoned
        · cases given.symm.trans given'
          rintro ⟨row, candidate⟩
          refine readable.resolve_left fun empty => ?_
          have among := (candidates row).mpr candidate
          rw [List.map_eq_nil_iff, Paging.page, Nat.sub_self, Nat.zero_mul, List.drop_zero,
            List.take_eq_nil_iff] at empty
          rcases empty with zero | empty
          · cases zero
          · rw [empty] at among
            cases among

end Pages

/-- The cap is not reached where the catalogue has fewer rooms. -/
theorem few_of_rooms {env : Env} {lower : String → String} {query : SearchQuery} {db : Db}
    (fewer : db.rooms.rows.length < candidateCap) : FewCandidates env lower query db := by
  intro rows nodup candidates
  have inCatalogue : rows ⊆ catalogue db := fun row among =>
    mem_catalogue.mpr (candidates row among).inCatalogue
  have shorter := (nodup.subperm inCatalogue).length_le
  have joined : (catalogue db).length ≤ db.rooms.rows.length := List.length_filterMap_le _ _
  omega

/-- What the search comes to are matching rooms. -/
theorem Found.matches {env : Env} {turnaround : Int} {lower : String → String} {query : SearchQuery}
    {now : Instant} {db : Db} {row : FoundRoom} (found : Found env turnaround lower query now db row) :
    Matches env turnaround lower query now db row :=
  ⟨found.toSelected, fun source target given => (found.found source target given).openFor, found.free⟩

/-- The answers of all pages, one after the other. -/
theorem answers_flatMap (query : SearchQuery) (rows : List FoundRoom) :
    ((List.range (pageCount rows.length query.pageSize)).flatMap fun n =>
      (answerOf query rows n).data) = rows := by
  have all := Paging.flatMap_page rows query.pageSize (pageCount rows.length query.pageSize)
  rwa [List.take_of_length_le (pageCount_enough rows.length query.sized.1)] at all

namespace Sample

theorem hour_ordered (source target : Instant) (given : some ((36000000 : Int), (39600000 : Int)) =
    some (source, target)) : source < target := by
  cases given
  exact of_decide_eq_true rfl

theorem first_paged : (1 : Nat) ≤ 1 := le_rfl

theorem page_sized : 1 ≤ 20 ∧ 20 ≤ 100 := of_decide_eq_true rfl

/-- A room in Karachi from ten to eleven. -/
def morningSearch : SearchQuery :=
  ⟨some "Karachi", none, [], none, some (36000000, 39600000), 1, 20, hour_ordered, first_paged, page_sized⟩

theorem unasked_ordered (source target : Instant) (given : none = some (source, target)) :
    source < target := by
  cases given

/-- A city whose name is a NUL. -/
def nulSearch : SearchQuery :=
  ⟨some (String.ofList [Char.ofNat 0]), none, [], none, none, 1, 20, unasked_ordered, first_paged, page_sized⟩

/-- The sample venue is open on the day of the window. -/
theorem morning_open : OpensOn .default venue 36000000 39600000 36000000 :=
  ⟨_, _, _, rfl, rfl, rfl, by decide, by decide⟩

end Sample

end Atrium
