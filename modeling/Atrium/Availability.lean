/-
# Availability -- the free slots of a room

`forRoom` walks the venue's open windows on the half-hour grid and leaves out every
start whose slot, turnaround included, overlaps a busy interval.  The busy intervals are
those that overlap the queried range.  `RoomOffer` is what one call has read.
-/
import Atrium.Bookings

namespace Atrium

open Atrium.Base

set_option autoImplicit false

/-! ## The query -/

/-- `AvailabilitySchema`. -/
structure AvailabilityQuery where
  source : Instant
  target : Instant
  durationMinutes : Option Int
  ordered : source < target
  bounded : target - source ≤ 31 * 24 * 60 * 60 * 1000
  durationBounded : ∀ d, durationMinutes = some d → 60 ≤ d ∧ d ≤ 480

structure BusyInterval where
  source : Instant
  target : Instant

structure FreeSlot where
  startsAt : Instant
  endsAt : Instant
  deriving DecidableEq

/-- The rows whose `slot` makes the room busy in the range: expired but unswept holds
are left out. -/
def busyRows (db : Db) (roomId : Uuid) (query : AvailabilityQuery) (now : Instant) :
    List (Uuid × Booking) :=
  db.bookings.select fun _ b => decide (b.roomId = roomId) && b.live now &&
    decide (b.startsAt < query.target ∧ query.source < b.slotEnd)

def byStart (p q : Uuid × Booking) : Prop := p.2.startsAt ≤ q.2.startsAt

instance : DecidableRel byStart := fun _ _ => inferInstanceAs (Decidable (_ ≤ _))

/-- The occupied intervals of one room, read off `bookings.slot`. -/
def busyIntervals (roomId : Uuid) (query : AvailabilityQuery) (now : Instant) :
    Transaction (List BusyInterval) :=
  Tx.read fun db => ((busyRows db roomId query now).insertionSort byStart).map fun row =>
    ⟨row.2.startsAt, row.2.slotEnd⟩

/-! ## The walk -/

def gridMs : Int := 30 * 60000

/-- Round up to the next `step`-minute boundary, in UTC. -/
def ceilToGrid (instant : Instant) (step : Int) : Instant :=
  -(-instant / (step * 60000)) * (step * 60000)

def clashes (busy : List BusyInterval) (cursor occupiedEnd : Instant) : Bool :=
  busy.any fun b => decide (b.source < occupiedEnd ∧ cursor < b.target)

/-- The loop over one window, for at most so many rounds. -/
def enumerateWindow (turnaround duration : Int) (busy : List BusyInterval)
    (target earliest : Instant) (w : OpenWindow) : Nat → Instant → List FreeSlot
  | 0, _ => []
  | n + 1, cursor =>
      let slotEnd := addMinutes cursor duration
      if w.closesAt < slotEnd ∨ target < slotEnd then []
      else
        let here :=
          if clashes busy cursor (addMinutes slotEnd turnaround) = false ∧ earliest ≤ cursor then
            [(⟨cursor, slotEnd⟩ : FreeSlot)]
          else []
        let next := addMinutes cursor 30
        if w.closesAt ≤ next then here
        else here ++ enumerateWindow turnaround duration busy target earliest w n next

/-- Where the walk of a window starts. -/
def firstCursor (source : Instant) (w : OpenWindow) : Instant :=
  ceilToGrid (max w.opensAt source) 30

/-- More rounds than the walk makes: it ends once the cursor reaches the close. -/
def rounds (source : Instant) (w : OpenWindow) : Nat :=
  ((w.closesAt - firstCursor source w) / gridMs).toNat + 1

/-- Enumerate bookable start times on the 30-minute grid. -/
def enumerate (turnaround : Int) (hours : OperatingHours) (zone : Zone) (source target : Instant)
    (duration : Int) (busy : List BusyInterval) (earliest : Instant) : List FreeSlot :=
  (openWindowsBetween hours zone source target).flatMap fun w =>
    enumerateWindow turnaround duration busy target earliest w (rounds source w)
      (firstCursor source w)

/-! ## The endpoint -/

structure RoomAvailability where
  roomId : UuidText
  timezone : String
  durationMinutes : Int
  granularityMinutes : Int
  turnaroundMinutes : Int
  freeSlots : List FreeSlot
  busy : List BusyInterval

/-- Free slots for one room over a range.  `turnaround` is `ROOM_TURNAROUND_MINUTES`. -/
def forRoom (env : Env) (turnaround : Int) (roomId : UuidText) (query : AvailabilityQuery)
    (now : Instant) : Transaction RoomAvailability := do
  let room ← Tx.fetch (·.rooms.get? roomId.value) (.notFound "No such room")
  let venue ← Tx.fetch (·.venues.get? room.venueId) (.notFound "No such room")
  let hours ← Tx.fetch (fun _ => parseOperatingHours venue.operatingHours)
    (.unbookable "This venue has no usable operating hours configured" (.venue room.venueId))
  let duration := query.durationMinutes.getD room.minDurationMinutes
  if room.maxDurationMinutes < duration then
    Tx.abort (.unprocessable ("This room takes bookings of at most " ++
      toString room.maxDurationMinutes ++ " minutes") [])
  let busy ← busyIntervals roomId.value query now
  let zone ← Tx.fetch (fun _ => env.timeZone venue.timezone)
    (.internal ("Invalid time zone specified: " ++ venue.timezone))
  pure
    { roomId := roomId
      timezone := venue.timezone
      durationMinutes := duration
      granularityMinutes := 30
      turnaroundMinutes := turnaround
      freeSlots := enumerate turnaround hours zone query.source query.target duration busy
        (addMinutes now minLeadMinutes)
      busy := busy }

/-! ## What the loop yields -/

/-- What a start has to meet to be listed, wherever the walk reaches it. -/
structure Listed (turnaround duration : Int) (busy : List BusyInterval)
    (target earliest : Instant) (w : OpenWindow) (t : Instant) : Prop where
  inWindow : addMinutes t duration ≤ w.closesAt
  inRange : addMinutes t duration ≤ target
  clear : clashes busy t (addMinutes (addMinutes t duration) turnaround) = false
  ahead : earliest ≤ t

theorem mem_enumerateWindow {turnaround duration : Int} {busy : List BusyInterval}
    {target earliest : Instant} {w : OpenWindow} {n : Nat} {cursor : Instant} {slot : FreeSlot} :
    slot ∈ enumerateWindow turnaround duration busy target earliest w n cursor ↔
      ∃ k : Nat, k < n ∧ (k = 0 ∨ cursor + k * gridMs < w.closesAt) ∧
        slot = ⟨cursor + k * gridMs, addMinutes (cursor + k * gridMs) duration⟩ ∧
        Listed turnaround duration busy target earliest w (cursor + k * gridMs) := by
  induction n generalizing cursor with
  | zero => simp [enumerateWindow]
  | succ n ih =>
      have origin : cursor + ((0 : Nat) : Int) * gridMs = cursor := by simp
      have shifted : ∀ k : Nat, addMinutes cursor 30 + k * gridMs = cursor + ((k + 1 : Nat) : Int) * gridMs := by
        intro k
        simp only [addMinutes, gridMs]
        push_cast
        ring
      unfold enumerateWindow
      simp only
      split
      · -- The slot runs over the close or the range, and every later one does.
        rename_i outside
        simp only [List.not_mem_nil, false_iff]
        rintro ⟨k, -, -, -, listed⟩
        have window := listed.inWindow
        have range := listed.inRange
        simp only [addMinutes, gridMs] at outside window range
        rcases outside with outside | outside
        · linarith
        · linarith
      · rename_i fits
        have head : slot ∈ (if clashes busy cursor
              (addMinutes (addMinutes cursor duration) turnaround) = false ∧ earliest ≤ cursor then
                [(⟨cursor, addMinutes cursor duration⟩ : FreeSlot)] else []) ↔
            slot = ⟨cursor, addMinutes cursor duration⟩ ∧
              Listed turnaround duration busy target earliest w cursor := by
          rw [not_or, not_lt, not_lt] at fits
          constructor
          · intro among
            split at among
            · rename_i free
              exact ⟨List.mem_singleton.mp among, fits.1, fits.2, free.1, free.2⟩
            · cases among
          · rintro ⟨rfl, listed⟩
            rw [if_pos ⟨listed.clear, listed.ahead⟩]
            exact List.mem_singleton_self _
        split
        · -- The next round would start past the close.
          rename_i past
          rw [head]
          constructor
          · rintro ⟨rfl, listed⟩
            exact ⟨0, n.succ_pos, .inl rfl, by rw [origin], by rwa [origin]⟩
          · rintro ⟨k, -, early, rfl, listed⟩
            cases k with
            | zero =>
                rw [origin] at listed ⊢
                exact ⟨rfl, listed⟩
            | succ k =>
                have before := early.resolve_left (by omega)
                rw [← shifted k] at before
                simp only [gridMs] at before past
                linarith [Int.natCast_nonneg k]
        · rename_i open_
          rw [List.mem_append, head, ih]
          constructor
          · rintro (⟨rfl, listed⟩ | ⟨k, bound, early, rfl, listed⟩)
            · exact ⟨0, n.succ_pos, .inl rfl, by rw [origin], by rwa [origin]⟩
            · rw [shifted] at early listed ⊢
              refine ⟨k + 1, by omega, .inr ?_, rfl, listed⟩
              rcases early with rfl | early
              · rw [← shifted, Nat.cast_zero, zero_mul, add_zero]
                exact not_le.mp open_
              · exact early
          · rintro ⟨k, bound, early, rfl, listed⟩
            cases k with
            | zero =>
                rw [origin] at listed ⊢
                exact .inl ⟨rfl, listed⟩
            | succ k =>
                rw [← shifted] at early listed ⊢
                exact .inr ⟨k, by omega, .inr (early.resolve_left (by omega)), rfl, listed⟩

/-- The walk of a window comes to this start. -/
structure Reached (source : Instant) (w : OpenWindow) (t : Instant) : Prop where
  onGrid : t % gridMs = 0
  within : max w.opensAt source ≤ t
  early : t = firstCursor source w ∨ t < w.closesAt

theorem ceilToGrid_spec (x : Int) :
    ceilToGrid x 30 % gridMs = 0 ∧ x ≤ ceilToGrid x 30 ∧ ceilToGrid x 30 < x + gridMs := by
  have exact_ : (-(-x / 1800000) * 1800000) % 1800000 = 0 ∧ x ≤ -(-x / 1800000) * 1800000 ∧
      -(-x / 1800000) * 1800000 < x + 1800000 := by
    omega
  exact exact_

/-- Grid points from the first at or after `base`, counted from it. -/
theorem gridSteps_iff {base first t : Int} (grid : first % 1800000 = 0) (least : base ≤ first)
    (most : first < base + 1800000) :
    (t % 1800000 = 0 ∧ base ≤ t) ↔ ∃ k : Nat, t = first + k * 1800000 := by
  constructor
  · rintro ⟨onGrid, after⟩
    exact ⟨((t - first) / 1800000).toNat, by omega⟩
  · rintro ⟨k, rfl⟩
    omega

theorem reached_iff {source : Instant} {w : OpenWindow} {t : Instant} :
    Reached source w t ↔ ∃ k : Nat, k < rounds source w ∧
      (k = 0 ∨ firstCursor source w + k * gridMs < w.closesAt) ∧
        t = firstCursor source w + k * gridMs := by
  obtain ⟨grid, least, most⟩ := ceilToGrid_spec (max w.opensAt source)
  have steps := gridSteps_iff (t := t) grid least most
  have enough : ∀ {first closes : Int} {k : Nat}, k = 0 ∨ first + k * 1800000 < closes →
      k < ((closes - first) / 1800000).toNat + 1 := by
    omega
  constructor
  · rintro ⟨onGrid, within, early⟩
    obtain ⟨k, at_⟩ := steps.mp ⟨onGrid, within⟩
    have soon : k = 0 ∨ firstCursor source w + k * gridMs < w.closesAt := by
      rcases early with first | early
      · refine .inl ?_
        have same : (firstCursor source w : Int) + k * 1800000 = firstCursor source w :=
          at_.symm.trans first
        have none_ : (k : Int) * 1800000 = 0 := by linarith
        omega
      · exact .inr (lt_of_eq_of_lt at_.symm early)
    exact ⟨k, enough soon, soon, at_⟩
  · rintro ⟨k, -, early, at_⟩
    obtain ⟨onGrid, within⟩ := steps.mpr ⟨k, at_⟩
    refine ⟨onGrid, within, ?_⟩
    rcases early with rfl | early
    · exact .inl (by rw [at_, Nat.cast_zero, zero_mul, add_zero])
    · exact .inr (at_ ▸ early)

/-- **What is enumerated**: the starts the walk of some window comes to, and lists. -/
theorem mem_enumerate {turnaround : Int} {hours : OperatingHours} {zone : Zone}
    {source target : Instant} {duration : Int} {busy : List BusyInterval} {earliest : Instant}
    {slot : FreeSlot} :
    slot ∈ enumerate turnaround hours zone source target duration busy earliest ↔
      ∃ t, slot = ⟨t, addMinutes t duration⟩ ∧ ∃ w ∈ openWindowsBetween hours zone source target,
        Reached source w t ∧ Listed turnaround duration busy target earliest w t := by
  simp only [enumerate, List.mem_flatMap, mem_enumerateWindow]
  constructor
  · rintro ⟨w, window, k, bound, early, rfl, listed⟩
    exact ⟨_, rfl, w, window, reached_iff.mpr ⟨k, bound, early, rfl⟩, listed⟩
  · rintro ⟨t, rfl, w, window, reached, listed⟩
    obtain ⟨k, bound, early, rfl⟩ := reached_iff.mp reached
    exact ⟨w, window, k, bound, early, rfl, listed⟩

/-! ## What a call has read -/

/-- A room that can be offered: its row, its venue, and the venue's hours in a zone the
runtime knows. -/
structure RoomOffer (env : Env) (db : Db) (roomId : UuidText) where
  room : Room
  venue : Venue
  hours : OperatingHours
  zone : Zone
  roomFound : db.rooms.get? roomId.value = some room
  venueFound : db.venues.get? room.venueId = some venue
  hoursParsed : parseOperatingHours venue.operatingHours = some hours
  zoneKnown : env.timeZone venue.timezone = some zone

/-- `query.duration_minutes ?? room.minDurationMinutes`. -/
def RoomOffer.duration {env : Env} {db : Db} {roomId : UuidText} (offer : RoomOffer env db roomId)
    (query : AvailabilityQuery) : Int :=
  query.durationMinutes.getD offer.room.minDurationMinutes

def RoomOffer.busy {env : Env} {db : Db} {roomId : UuidText} (_ : RoomOffer env db roomId)
    (query : AvailabilityQuery) (now : Instant) : List BusyInterval :=
  ((busyRows db roomId.value query now).insertionSort byStart).map fun row =>
    ⟨row.2.startsAt, row.2.slotEnd⟩

theorem forRoom_ok {env : Env} {turnaround : Int} {roomId : UuidText} {query : AvailabilityQuery}
    {now : Instant} {db db' : Db} {r : RoomAvailability} (offer : RoomOffer env db roomId)
    (returned : forRoom env turnaround roomId query now db = .ok (r, db')) :
    db' = db ∧ offer.duration query ≤ offer.room.maxDurationMinutes ∧
      r.freeSlots = enumerate turnaround offer.hours offer.zone query.source query.target
        (offer.duration query) (offer.busy query now) (addMinutes now minLeadMinutes) := by
  obtain ⟨room, venue, hours, zone, roomFound, venueFound, hoursParsed, zoneKnown⟩ := offer
  simp only [forRoom, busyIntervals, Tx.bind_ok, Tx.fetch_ok, Tx.read_ok, Tx.ite_ok, Tx.abort_ok,
    Tx.pure_ok, not_lt] at returned
  obtain ⟨room', _, ⟨found, rfl⟩, venue', _, ⟨owner, rfl⟩, hours', _, ⟨parsed, rfl⟩, rest⟩ := returned
  cases roomFound.symm.trans found
  cases venueFound.symm.trans owner
  cases hoursParsed.symm.trans parsed
  rcases rest with ⟨-, _, _, none_, -⟩ | ⟨fits, busy, _, ⟨rfl, rfl⟩, zone', _, ⟨known, rfl⟩, rfl, rfl⟩
  · cases none_
  · cases zoneKnown.symm.trans known
    exact ⟨rfl, fits, rfl⟩

end Atrium
