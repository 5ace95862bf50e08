/-
# EquipmentAvailability -- how many units are out at once

`peakConcurrentUsage` runs the sweep line over the live bookings that meet the
requested window; `admissionCeiling` is what it is compared with.  `unitsInUse`
is what the query is about: the units of one type in use at one instant.
`unitsInUse_le_peak` connects them.
-/
import Atrium.Base.Binary64
import Atrium.Base.SweepLine
import Atrium.BookingStateMachine

namespace Atrium

open Atrium.Base

set_option autoImplicit false

/-- The ids of a request, cast by Postgres to `uuid[]`. -/
def uuidArray (ids : List String) : Transaction (List Uuid) :=
  match ids.find? fun id => !isUuid id with
  | some id => Tx.abort (.internal ("Not a UUID: " ++ id))
  | none => pure (ids.filterMap uuidOf)

/-- `ORDER BY id`. -/
def byId (p q : Uuid × EquipmentType) : Prop := p.1.toNat ≤ q.1.toNat

instance : DecidableRel byId := fun _ _ => inferInstanceAs (Decidable (_ ≤ _))

/-- Lock the requested equipment types, in the order of their ids.  A missing id
does not come back. -/
def lockEquipmentTypes (ids : List String) : Transaction (List (Uuid × EquipmentType)) := do
  if ids = [] then pure []
  else
    let values ← uuidArray ids
    Tx.read fun db =>
      (db.equipmentTypes.select fun id _ => decide (id ∈ values)).insertionSort byId

namespace Booking

/-- What the peak query counts: an active booking, unless it is a lapsed hold. -/
def live (b : Booking) (now : Instant) : Bool :=
  b.active && !(decide (b.status = .held) && b.lapsedAt now)

end Booking

/-- The booked periods of one equipment type, weighted by quantity. -/
def bookedIntervals (db : Db) (equipmentTypeId : Uuid) (now : Instant) :
    List (Span Instant) :=
  db.bookingLineItems.filterMap fun item =>
    if item.equipmentTypeId = equipmentTypeId then
      match db.bookings.get? item.bookingId with
      | some b => if b.live now then some ⟨b.startsAt, b.endsAt, item.quantity⟩ else none
      | none => none
    else none

/-- `events`, ordered by time with releases first. -/
def usageEvents (db : Db) (equipmentTypeId : Uuid) (startsAt endsAt now : Instant) :
    List (Boundary Instant) :=
  (SweepLine.boundaries (SweepLine.window startsAt endsAt
    (bookedIntervals db equipmentTypeId now))).insertionSort SweepLine.precedes

/-- Peak concurrent usage per requested id over `[startsAt, endsAt)`: the `Map`
the query fills.  A type some booking meets is under its own id's text, every
other requested id at 0.  The query casts its peaks to `int`. -/
def peakConcurrentUsage (ids : List String) (startsAt endsAt now : Instant) :
    Transaction (String → Option Int) := do
  let values ← uuidArray ids
  let overflows ← Tx.read fun db =>
    values.any fun id => !fitsInt (SweepLine.peak (usageEvents db id startsAt endsAt now))
  if overflows then Tx.abort (.database "22003")
  else
    Tx.read fun db key =>
      match values.find? fun id =>
        id.text = key && !(usageEvents db id startsAt endsAt now).isEmpty with
      | some id => some (SweepLine.peak (usageEvents db id startsAt endsAt now))
      | none => if key ∈ ids then some 0 else none

/-- `Math.floor(unitsOwned * (1 + bufferPct / 100))`, in doubles. -/
def admissionCeiling (unitsOwned bufferPct : Nat) : Int :=
  ⌊Binary64.round (unitsOwned * Binary64.round (1 + Binary64.round (bufferPct / 100)))⌋

theorem admissionCeiling_nonneg (unitsOwned bufferPct : Nat) :
    0 ≤ admissionCeiling unitsOwned bufferPct := by
  have buffer : (0 : ℚ) ≤ Binary64.round (bufferPct / 100) := Binary64.round_nonneg (by positivity)
  have factor : (0 : ℚ) ≤ Binary64.round (1 + Binary64.round (bufferPct / 100)) :=
    Binary64.round_nonneg (by positivity)
  exact Int.floor_nonneg.mpr (Binary64.round_nonneg (by positivity))

namespace Booking

theorem lapsedAt_mono {b : Booking} {t t' : Instant} (later : t ≤ t')
    (lapsed : b.lapsedAt t = true) : b.lapsedAt t' = true := by
  unfold lapsedAt at *
  grind

/-- What counts later counted before: time only lets holds lapse. -/
theorem live_antitone {b : Booking} {t t' : Instant} (later : t ≤ t') (lives : b.live t' = true) :
    b.live t = true := by
  have lapse := lapsedAt_mono (b := b) later
  simp only [live, Bool.and_eq_true, Bool.not_eq_true', Bool.and_eq_false_iff] at *
  refine ⟨lives.1, lives.2.imp_right fun running => ?_⟩
  by_contra lapsed
  rw [lapse (by simpa using lapsed)] at running
  cases running

end Booking

/-! ## Units in use -/

/-- What one line item takes of a type at `t`. -/
def demand (db : Db) (equipmentTypeId : Uuid) (now t : Instant) (item : BookingLineItem) : Int :=
  if item.equipmentTypeId = equipmentTypeId then
    match db.bookings.get? item.bookingId with
    | some b => if b.live now ∧ b.startsAt ≤ t ∧ t < b.endsAt then item.quantity else 0
    | none => 0
  else 0

/-- The units of one type in use at `t`, by the bookings live at `now`. -/
def unitsInUse (db : Db) (equipmentTypeId : Uuid) (now t : Instant) : Int :=
  (db.bookingLineItems.map (demand db equipmentTypeId now t)).sum

theorem unitsInUse_eq_usage (db : Db) (equipmentTypeId : Uuid) (now t : Instant) :
    unitsInUse db equipmentTypeId now t =
      SweepLine.usage (bookedIntervals db equipmentTypeId now) t := by
  simp only [unitsInUse, SweepLine.usage, bookedIntervals]
  induction db.bookingLineItems with
  | nil => rfl
  | cons item items ih =>
      rw [List.map_cons, List.sum_cons, ih, List.filterMap_cons]
      by_cases typed : item.equipmentTypeId = equipmentTypeId
      · cases found : db.bookings.get? item.bookingId with
        | none => simp [demand, typed, found]
        | some b =>
            by_cases counted : b.live now = true
            · simp [demand, typed, found, counted, SweepLine.covers]
            · simp [demand, typed, found, counted]
      · simp [demand, typed]

/-- **Admission sees every instant.**  The peak over a window is at least the
units in use at each instant of it. -/
theorem unitsInUse_le_peak {db : Db} {equipmentTypeId : Uuid} {startsAt endsAt now t : Instant}
    (intervals : ∀ id b, db.bookings.get? id = some b → b.startsAt < b.endsAt)
    (inside : startsAt ≤ t ∧ t < endsAt) :
    unitsInUse db equipmentTypeId now t ≤
      SweepLine.peak (usageEvents db equipmentTypeId startsAt endsAt now) := by
  rw [unitsInUse_eq_usage, ← SweepLine.usage_window inside]
  refine SweepLine.usage_le_peak ?_ (List.perm_insertionSort _ _)
    (List.pairwise_insertionSort _ _) t
  apply SweepLine.window_proper (inside.1.trans_lt inside.2)
  intro x here
  simp only [bookedIntervals, List.mem_filterMap] at here
  obtain ⟨item, -, found⟩ := here
  grind

theorem demand_nonneg {db : Db} {equipmentTypeId : Uuid} {now t : Instant}
    {item : BookingLineItem} (positive : 0 < item.quantity) :
    0 ≤ demand db equipmentTypeId now t item := by
  unfold demand
  grind

/-- A line item takes no more after a change, where its booking, if it counts then,
counted before over the same period. -/
theorem demand_le {db db' : Db} {equipmentTypeId : Uuid} {now now' t : Instant}
    {item : BookingLineItem} (positive : 0 < item.quantity)
    (counted : ∀ b', db'.bookings.get? item.bookingId = some b' → b'.live now' = true →
      ∃ b, db.bookings.get? item.bookingId = some b ∧ b.live now = true ∧
        b.startsAt = b'.startsAt ∧ b.endsAt = b'.endsAt) :
    demand db' equipmentTypeId now' t item ≤ demand db equipmentTypeId now t item := by
  have nonneg : 0 ≤ demand db equipmentTypeId now t item := demand_nonneg positive
  by_cases typed : item.equipmentTypeId = equipmentTypeId
  · cases found : db'.bookings.get? item.bookingId with
    | none => simpa [demand, typed, found] using nonneg
    | some b' =>
        by_cases lives : b'.live now' = true
        · obtain ⟨b, found', lives', starts, ends⟩ := counted b' found lives
          simp [demand, typed, found, found', lives, lives', starts, ends]
        · simpa [demand, typed, found, lives] using nonneg
  · simp [demand, typed]

/-! ## What a returned call has read -/

theorem uuidArray_ok {ids : List String} {values : List Uuid} {db db' : Db} :
    uuidArray ids db = .ok (values, db') ↔
      (∀ id ∈ ids, isUuid id = true) ∧ values = ids.filterMap uuidOf ∧ db = db' := by
  unfold uuidArray
  cases found : ids.find? fun id => !isUuid id with
  | some id =>
      have bad := List.find?_some found
      have here := List.mem_of_find?_eq_some found
      simp only [Tx.abort_ok, false_iff, not_and]
      intro good
      simp [good id here] at bad
  | none =>
      have good : ∀ id ∈ ids, isUuid id = true := by
        intro id here
        simpa using List.find?_eq_none.mp found id here
      simp only [Tx.pure_ok]
      constructor
      · rintro ⟨rfl, rfl⟩
        exact ⟨good, rfl, rfl⟩
      · rintro ⟨-, rfl, rfl⟩
        exact ⟨rfl, rfl⟩

/-- The locked rows: each is a row of the table under a requested id, and none comes
twice. -/
theorem lockEquipmentTypes_ok {ids : List String} {locked : List (Uuid × EquipmentType)}
    {db db' : Db} (returned : lockEquipmentTypes ids db = .ok (locked, db')) :
    db' = db ∧ (locked.map Prod.fst).Nodup ∧ ∀ id row, (id, row) ∈ locked →
      db.equipmentTypes.get? id = some row ∧ id ∈ ids.filterMap uuidOf := by
  simp only [lockEquipmentTypes, Tx.ite_ok, Tx.bind_ok, Tx.pure_ok, Tx.read_ok,
    uuidArray_ok] at returned
  rcases returned with ⟨-, rfl, rfl⟩ | ⟨-, values, t, ⟨-, rfl, rfl⟩, rfl, rfl⟩
  · simp
  · refine ⟨rfl, ?_, fun id row here => ?_⟩
    · refine ((List.perm_insertionSort _ _).map Prod.fst).nodup_iff.mpr ?_
      exact db.equipmentTypes.unique.sublist (List.filter_sublist.map Prod.fst)
    · have among := Table.mem_select.mp ((List.mem_insertionSort _).mp here)
      exact ⟨among.1, by simpa using among.2⟩

theorem peakConcurrentUsage_keeps {ids : List String} {startsAt endsAt now : Instant} {db db' : Db}
    {peaks : String → Option Int}
    (returned : peakConcurrentUsage ids startsAt endsAt now db = .ok (peaks, db')) : db' = db := by
  simp only [peakConcurrentUsage, Tx.bind_ok, Tx.read_ok, uuidArray_ok, Tx.ite_ok, Tx.abort_ok,
    and_false, false_or] at returned
  obtain ⟨_, _, ⟨-, rfl, rfl⟩, _, _, ⟨-, rfl⟩, -, -, rfl⟩ := returned
  rfl

/-- The peak the query gives a requested type. -/
theorem peakConcurrentUsage_ok {ids : List String} {startsAt endsAt now : Instant} {db db' : Db}
    {peaks : String → Option Int}
    (returned : peakConcurrentUsage ids startsAt endsAt now db = .ok (peaks, db')) {id : Uuid}
    (requested : id ∈ ids.filterMap uuidOf) :
    (peaks id.text).getD 0 = SweepLine.peak (usageEvents db id startsAt endsAt now) := by
  simp only [peakConcurrentUsage, Tx.bind_ok, Tx.read_ok, uuidArray_ok, Tx.ite_ok, Tx.abort_ok,
    and_false, false_or] at returned
  obtain ⟨_, _, ⟨-, rfl, rfl⟩, _, _, ⟨-, rfl⟩, -, rfl, -⟩ := returned
  beta_reduce
  cases events : usageEvents db id startsAt endsAt now with
  | nil =>
      have unmet : ∀ other ∈ ids.filterMap uuidOf, ¬ (decide (other.text = id.text) &&
          !(usageEvents db other startsAt endsAt now).isEmpty) = true := by
        intro other _ met
        simp only [Bool.and_eq_true, decide_eq_true_eq] at met
        cases Uuid.text_injective met.1
        simp [events] at met
      rw [List.find?_eq_none.mpr unmet]
      simp only
      split_ifs <;> rfl
  | cons first rest =>
      have met : ((ids.filterMap uuidOf).find? fun other => decide (other.text = id.text) &&
          !(usageEvents db other startsAt endsAt now).isEmpty).isSome := by
        rw [List.find?_isSome]
        exact ⟨id, requested, by simp [events]⟩
      obtain ⟨other, found⟩ := Option.isSome_iff_exists.mp met
      have same := List.find?_some found
      simp only [Bool.and_eq_true, decide_eq_true_eq] at same
      cases Uuid.text_injective same.1
      simp only [found, ← events, Option.getD_some]

end Atrium
