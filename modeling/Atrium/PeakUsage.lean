/-
# PeakUsage -- the peak the query returns is the largest usage of its window

`peakConcurrentUsage` is a sweep over clipped events.  Whatever order it takes the
events of one kind at one instant in, its peak is the largest number of units in use
at an instant of the window (`peak_isGreatest`), so that comparing the peak with a
ceiling is comparing every instant with it.

The query casts its peaks to `int`: where the largest usage does not fit, it fails, and
admission with it.  The schemas keep clear of that, at 1000 units an item and 100000
units of a type.
-/
import Atrium.Hold

namespace Atrium

open Atrium.Base

set_option autoImplicit false

/-- What the checks of the two tables promise of every row. -/
structure Db.Checked (db : Db) : Prop where
  ordered : ∀ id b, db.bookings.get? id = some b → b.startsAt < b.endsAt
  positive : ∀ item ∈ db.bookingLineItems, 0 < item.quantity

theorem bookedIntervals_checked {db : Db} (checked : db.Checked) (equipmentTypeId : Uuid)
    (now : Instant) : ∀ x ∈ bookedIntervals db equipmentTypeId now,
      x.start < x.stop ∧ 0 ≤ x.weight := by
  intro x here
  simp only [bookedIntervals, List.mem_filterMap] at here
  obtain ⟨item, among, interval⟩ := here
  have taken := checked.positive item among
  split_ifs at interval
  cases found : db.bookings.get? item.bookingId with
  | none => simp [found] at interval
  | some b =>
      have order := checked.ordered item.bookingId b found
      simp only [found, Option.ite_none_right_eq_some, Option.some.injEq] at interval
      obtain ⟨-, rfl⟩ := interval
      exact ⟨order, taken.le⟩

/-- **The sweep's peak is the largest usage of the window**, in every order of the events
that has time first and releases before acquires. -/
theorem peak_isGreatest {db : Db} (checked : db.Checked) {equipmentTypeId : Uuid}
    {startsAt endsAt now : Instant} (nonempty : startsAt < endsAt) {es : List (Boundary Instant)}
    (events : es.Perm (SweepLine.boundaries
      (SweepLine.window startsAt endsAt (bookedIntervals db equipmentTypeId now))))
    (sorted : es.Pairwise SweepLine.precedes) :
    IsGreatest (unitsInUse db equipmentTypeId now '' Set.Ico startsAt endsAt)
      (SweepLine.peak es) := by
  have intervals := bookedIntervals_checked checked equipmentTypeId now
  have usage : unitsInUse db equipmentTypeId now =
      SweepLine.usage (bookedIntervals db equipmentTypeId now) := by
    funext t
    exact unitsInUse_eq_usage db equipmentTypeId now t
  rw [usage]
  exact SweepLine.peak_window_isGreatest nonempty (fun x here => (intervals x here).1)
    (fun x here => (intervals x here).2) events sorted

theorem usageEvents_isGreatest {db : Db} (checked : db.Checked) {startsAt endsAt : Instant}
    (nonempty : startsAt < endsAt) (equipmentTypeId : Uuid) (now : Instant) :
    IsGreatest (unitsInUse db equipmentTypeId now '' Set.Ico startsAt endsAt)
      (SweepLine.peak (usageEvents db equipmentTypeId startsAt endsAt now)) :=
  peak_isGreatest checked nonempty (List.perm_insertionSort _ _)
    (List.pairwise_insertionSort _ _)

/-- A bound on the peak is a bound on every instant. -/
theorem peak_add_le_iff {db : Db} (checked : db.Checked) {startsAt endsAt : Instant}
    (nonempty : startsAt < endsAt) (equipmentTypeId : Uuid) (now : Instant)
    (quantity ceiling : Int) :
    SweepLine.peak (usageEvents db equipmentTypeId startsAt endsAt now) + quantity ≤ ceiling ↔
      ∀ t, startsAt ≤ t → t < endsAt →
        unitsInUse db equipmentTypeId now t + quantity ≤ ceiling := by
  obtain ⟨⟨t, inside, attained⟩, bound⟩ :=
    usageEvents_isGreatest checked nonempty equipmentTypeId now
  constructor
  · intro fits t from_ until_
    have below := bound ⟨t, ⟨from_, until_⟩, rfl⟩
    omega
  · intro everywhere
    rw [← attained]
    exact everywhere t inside.1 inside.2

/-- The query's cast succeeds where the usage of every instant fits. -/
theorem fitsInt_peak_iff {db : Db} (checked : db.Checked) {startsAt endsAt : Instant}
    (nonempty : startsAt < endsAt) (equipmentTypeId : Uuid) (now : Instant) :
    fitsInt (SweepLine.peak (usageEvents db equipmentTypeId startsAt endsAt now)) = true ↔
      ∀ t, startsAt ≤ t → t < endsAt → unitsInUse db equipmentTypeId now t ≤ 2147483647 := by
  have nonneg : 0 ≤ SweepLine.peak (usageEvents db equipmentTypeId startsAt endsAt now) :=
    SweepLine.peak_nonneg (List.perm_insertionSort _ _)
  have bound := peak_add_le_iff checked nonempty equipmentTypeId now 0 2147483647
  simp only [add_zero] at bound
  rw [fitsInt, decide_eq_true_eq, ← bound]
  constructor
  · exact And.right
  · intro high
    exact ⟨by omega, high⟩

/-- The query over any ids: it fails where some usage does not fit, and returns each
type's largest usage otherwise. -/
theorem peakConcurrentUsage_isGreatest {db : Db} (checked : db.Checked) {ids : List String}
    (uuids : ∀ id ∈ ids, isUuid id = true) {startsAt endsAt : Instant}
    (nonempty : startsAt < endsAt) (now : Instant) :
    ((∃ id ∈ ids.filterMap uuidOf, ∃ t, startsAt ≤ t ∧ t < endsAt ∧
        2147483647 < unitsInUse db id now t) ∧
      peakConcurrentUsage ids startsAt endsAt now db = .error (.database "22003")) ∨
    ((∀ id ∈ ids.filterMap uuidOf, ∀ t, startsAt ≤ t → t < endsAt →
        unitsInUse db id now t ≤ 2147483647) ∧
      ∃ peaks, peakConcurrentUsage ids startsAt endsAt now db = .ok (peaks, db) ∧
        ∀ id ∈ ids.filterMap uuidOf,
          IsGreatest (unitsInUse db id now '' Set.Ico startsAt endsAt)
            ((peaks id.text).getD 0)) := by
  have values : uuidArray ids db = .ok (ids.filterMap uuidOf, db) :=
    uuidArray_ok.mpr ⟨uuids, rfl, rfl⟩
  have run := peakConcurrentUsage.eq_1 ids startsAt endsAt now
  by_cases overflows : ((ids.filterMap uuidOf).any fun id =>
      !fitsInt (SweepLine.peak (usageEvents db id startsAt endsAt now))) = true
  · left
    obtain ⟨id, here, unfit⟩ := List.any_eq_true.mp overflows
    refine ⟨⟨id, here, ?_⟩, ?_⟩
    · by_contra low
      push Not at low
      rw [(fitsInt_peak_iff checked nonempty id now).mpr low] at unfit
      cases unfit
    · rw [run, Tx.bind_of_ok values, Tx.read_bind, if_pos overflows]
      rfl
  · right
    have fit : ∀ id ∈ ids.filterMap uuidOf,
        fitsInt (SweepLine.peak (usageEvents db id startsAt endsAt now)) = true := by
      intro id here
      by_contra unfit
      refine overflows (List.any_eq_true.mpr ⟨id, here, ?_⟩)
      rw [Bool.not_eq_true']
      exact Bool.eq_false_iff.mpr unfit
    refine ⟨fun id here => (fitsInt_peak_iff checked nonempty id now).mp (fit id here), ?_⟩
    have returned : ∃ peaks, peakConcurrentUsage ids startsAt endsAt now db = .ok (peaks, db) := by
      rw [run, Tx.bind_of_ok values, Tx.read_bind, if_neg overflows]
      exact ⟨_, rfl⟩
    obtain ⟨peaks, returned⟩ := returned
    refine ⟨peaks, returned, fun id here => ?_⟩
    rw [peakConcurrentUsage_ok returned here]
    exact usageEvents_isGreatest checked nonempty id now

/-- Each requested type's usage fits the cast of its peak. -/
def HoldInput.UsageFits (input : HoldInput) (db : Db) (now : Instant) : Prop :=
  ∀ id ∈ input.values, ∀ t, input.startsAt ≤ t → t < input.endsAt →
    unitsInUse db id now t ≤ 2147483647

/-- Each requested quantity fits under its type's ceiling, at every instant. -/
def HoldInput.FitsThroughout (input : HoldInput) (db : Db) (bufferPct : Nat) (now : Instant) :
    Prop :=
  ∀ row ∈ input.rows db, ∀ t, input.startsAt ≤ t → t < input.endsAt →
    unitsInUse db row.1 now t + input.quantityOf row.1 ≤
      admissionCeiling row.2.unitsOwned bufferPct

theorem stocked_iff {db : Db} (checked : db.Checked) (input : HoldInput) (bufferPct : Nat)
    (now : Instant) :
    input.Stocked db bufferPct now ↔ input.FitsThroughout db bufferPct now := by
  unfold HoldInput.Stocked HoldInput.FitsThroughout
  exact forall₂_congr fun row _ =>
    peak_add_le_iff checked input.ordered row.1 now (input.quantityOf row.1) _

theorem peaksFit_iff {db : Db} (checked : db.Checked) (input : HoldInput) (now : Instant) :
    input.PeaksFit db now ↔ input.UsageFits db now := by
  unfold HoldInput.PeaksFit HoldInput.UsageFits
  exact forall₂_congr fun id _ => fitsInt_peak_iff checked input.ordered id now

/-- Admission of a whole request, instant by instant. -/
theorem admitEquipment_iff {db : Db} (checked : db.Checked) (input : HoldInput)
    (ctx : RoomContext) (now : Instant) :
    (∃ priced, admitEquipment input ctx now db = .ok (priced, db)) ↔
      input.Known db ctx.venueId ∧ input.UsageFits db now ∧
        input.FitsThroughout db ctx.overbookingBufferPct now := by
  rw [← stocked_iff checked, ← peaksFit_iff checked]
  have admission := admitEquipment_admission input ctx now db
  constructor
  · rintro ⟨priced, returned⟩
    rw [returned] at admission
    cases admission with
    | admitted known fit stocked => exact ⟨known, fit, stocked⟩
  · rintro ⟨known, fit, stocked⟩
    generalize run : admitEquipment input ctx now db = result at admission ⊢
    cases admission with
    | refused e client short => exact absurd stocked (short known).2
    | overflow _ unfit => exact absurd fit unfit
    | admitted _ _ _ => exact ⟨_, rfl⟩

/-- **The sweep line is the supremum of usage.**  Every order of the clipped events has
the largest usage of the window as its peak; the query returns it, unless it does not
fit an `int`; and admission is its test at every instant. -/
theorem sweep_is_supremum {db : Db} (checked : db.Checked) :
    (∀ equipmentTypeId startsAt endsAt now, startsAt < endsAt →
      ∀ es : List (Boundary Instant),
        es.Perm (SweepLine.boundaries (SweepLine.window startsAt endsAt
          (bookedIntervals db equipmentTypeId now))) →
        es.Pairwise SweepLine.precedes →
        IsGreatest (unitsInUse db equipmentTypeId now '' Set.Ico startsAt endsAt)
          (SweepLine.peak es)) ∧
    (∀ ids : List String, (∀ id ∈ ids, isUuid id = true) →
      ∀ startsAt endsAt now, startsAt < endsAt →
        ((∃ id ∈ ids.filterMap uuidOf, ∃ t, startsAt ≤ t ∧ t < endsAt ∧
            2147483647 < unitsInUse db id now t) ∧
          peakConcurrentUsage ids startsAt endsAt now db = .error (.database "22003")) ∨
        ((∀ id ∈ ids.filterMap uuidOf, ∀ t, startsAt ≤ t → t < endsAt →
            unitsInUse db id now t ≤ 2147483647) ∧
          ∃ peaks, peakConcurrentUsage ids startsAt endsAt now db = .ok (peaks, db) ∧
            ∀ id ∈ ids.filterMap uuidOf,
              IsGreatest (unitsInUse db id now '' Set.Ico startsAt endsAt)
                ((peaks id.text).getD 0))) ∧
    ∀ (input : HoldInput) (ctx : RoomContext) (now : Instant),
      (∃ priced, admitEquipment input ctx now db = .ok (priced, db)) ↔
        input.Known db ctx.venueId ∧ input.UsageFits db now ∧
          input.FitsThroughout db ctx.overbookingBufferPct now := by
  refine ⟨?_, ?_, ?_⟩
  · intro equipmentTypeId startsAt endsAt now nonempty es events sorted
    exact peak_isGreatest checked nonempty events sorted
  · intro ids uuids startsAt endsAt now nonempty
    exact peakConcurrentUsage_isGreatest checked uuids nonempty now
  · exact admitEquipment_iff checked

namespace Sample

/-- A CONFIRMED booking of the sample room. -/
def booked (startsAt endsAt : Instant) : Booking :=
  ⟨1, room, customer.userId, startsAt, endsAt, .confirmed, none, 0, none, 0, "PKR", 0, 0⟩

/-- Two back-to-back bookings with one projector each. -/
def backToBack : Db :=
  { db with
    bookings := ⟨[(7, booked 36000000 37800000), (8, booked 37800000 39600000)], by decide⟩
    bookingLineItems := [⟨7, projector, 1, 1000⟩, ⟨8, projector, 1, 1000⟩] }

/-- A type of the most units the column can hold, all of them out, and one more. -/
def vast : Db :=
  { db with
    equipmentTypes := ⟨[(projector, ⟨1, "Projector", 1000, 2147483647⟩)], by decide⟩
    bookings := ⟨[(7, booked 36000000 39600000), (8, booked 36000000 39600000)], by decide⟩
    bookingLineItems := [⟨7, projector, 2147483647, 1000⟩, ⟨8, projector, 1, 1000⟩] }

def vastContext : RoomContext := ⟨1, 1000, 60, 480, "UTC", 10, ⟨none, none, none, none, none, none, none⟩, "PKR"⟩

end Sample

theorem checked_of_rows {db : Db}
    (ordered : ∀ row ∈ db.bookings.rows, row.2.startsAt < row.2.endsAt)
    (positive : ∀ item ∈ db.bookingLineItems, 0 < item.quantity) : db.Checked :=
  ⟨fun id b found => ordered (id, b) (Table.mem_rows.mpr found), positive⟩

/-- The release of one booking comes before the acquire of the next: one unit is out at
most. -/
theorem sweep_is_supremum_backToBack :
    Sample.backToBack.Checked ∧
      IsGreatest (unitsInUse Sample.backToBack Sample.projector 0 '' Set.Ico 36000000 39600000)
        1 := by
  have checked : Sample.backToBack.Checked :=
    checked_of_rows (by decide +kernel) (by decide +kernel)
  have peak : SweepLine.peak
      (usageEvents Sample.backToBack Sample.projector 36000000 39600000 0) = 1 := by
    decide +kernel
  have greatest := (sweep_is_supremum checked).1 Sample.projector 36000000 39600000 0 (by decide)
    (usageEvents Sample.backToBack Sample.projector 36000000 39600000 0)
    (List.perm_insertionSort _ _) (List.pairwise_insertionSort _ _)
  rw [peak] at greatest
  exact ⟨checked, greatest⟩

/-- **An overflowing peak.**  Under the ten percent buffer one more unit would fit at
every instant, and the query fails. -/
theorem peak_overflows : ¬ ∀ db : Db, db.Checked →
    ∀ (input : HoldInput) (ctx : RoomContext) (now : Instant), input.Known db ctx.venueId →
      ((∃ priced, admitEquipment input ctx now db = .ok (priced, db)) ↔
        input.FitsThroughout db ctx.overbookingBufferPct now) := by
  intro claim
  have checked : Sample.vast.Checked := checked_of_rows (by decide +kernel) (by decide +kernel)
  have known : Sample.hold.Known Sample.vast Sample.vastContext.venueId :=
    ⟨by decide +kernel, by decide +kernel⟩
  have stocked : Sample.hold.Stocked Sample.vast Sample.vastContext.overbookingBufferPct 0 := by
    unfold HoldInput.Stocked
    decide +kernel
  have failed : (admitEquipment Sample.hold Sample.vastContext 0 Sample.vast).map (fun _ => ()) =
      .error (.database "22003") := by
    decide +kernel
  obtain ⟨priced, returned⟩ := (claim Sample.vast checked Sample.hold Sample.vastContext 0
    known).mpr ((stocked_iff checked Sample.hold _ 0).mp stocked)
  rw [returned] at failed
  cases failed

end Atrium
