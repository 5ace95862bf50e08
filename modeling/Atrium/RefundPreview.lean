/-
# RefundPreview -- the amount a customer is shown before a cancellation

The web computes the refund a second time, from the answer of `findOne`: decimal text
where the API has a bigint, an ISO text where it has a `Date`, the snapshot as it came
where it has a parsed one.  `Web` is that program, over the types it reads the answer
as; `preview_is_refund` says that it comes to what a cancellation at the same instant
comes to.
-/
import Atrium.BookingView
import Atrium.Hold

namespace Atrium

open Atrium.Base

set_option autoImplicit false

/-! ## The web's program -/

namespace Web

structure Tier where
  minHoursBefore : ℚ
  roomRefundPct : ℚ
  equipmentRefundPct : ℚ
  deriving DecidableEq

structure HoldLineItem where
  quantity : ℚ
  rateMinor : String

/-- The members of a booking that the preview reads; `tiers` is `policy_snapshot?.tiers`. -/
structure Booking where
  startsAt : String
  endsAt : String
  totalMinor : String
  tiers : Option (List Tier)
  lineItems : List HoldLineItem

/-- What the language throws. -/
inductive Thrown where
  | rangeError
  | syntaxError
  deriving DecidableEq

/-! ### Reading an answer `as Booking` -/

def Tier.ofJson (j : Json) : Option Tier :=
  match j.get? "min_hours_before", j.get? "room_refund_pct", j.get? "equipment_refund_pct" with
  | some (.num hours), some (.num room), some (.num equipment) => some ⟨hours, room, equipment⟩
  | _, _, _ => none

def HoldLineItem.ofJson (j : Json) : Option HoldLineItem :=
  match j.get? "quantity", j.get? "rate_minor" with
  | some (.num quantity), some (.str rate) => some ⟨quantity, rate⟩
  | _, _ => none

/-- `policy_snapshot?.tiers`, of a snapshot or `null`. -/
def snapshotTiers : Json → Option (Option (List Tier))
  | .null => some none
  | j =>
      match j.get? "tiers" with
      | some (.arr items) => (items.mapM Tier.ofJson).map some
      | some _ => none
      | none => some none

/-- The answer, where it has the members the type promises. -/
def Booking.ofJson (j : Json) : Option Booking :=
  match j.get? "starts_at", j.get? "ends_at", j.get? "total_minor", j.get? "policy_snapshot",
      j.get? "line_items" with
  | some (.str startsAt), some (.str endsAt), some (.str totalMinor), some snapshot,
      some (.arr items) => do
      let tiers ← snapshotTiers snapshot
      let lineItems ← items.mapM HoldLineItem.ofJson
      some ⟨startsAt, endsAt, totalMinor, tiers, lineItems⟩
  | _, _, _, _, _ => none

/-! ### The arithmetic -/

/-- `BigInt(text)`, of a decimal numeral. -/
def bigIntOfText (text : String) : Except Thrown Int :=
  match text.toInt? with
  | some n => .ok n
  | none => .error .syntaxError

/-- `BigInt(x)`: a number that is not whole throws. -/
def bigInt (x : ℚ) : Except Thrown Int := if x.den = 1 then .ok x.num else .error .rangeError

/-- The lead time in hours; `none` is `NaN`, from a date that is none. -/
def leadTime (booking : Booking) (now : Instant) : Option ℚ :=
  (dateOf booking.startsAt).map fun startsAt : Instant =>
    max 0 (Binary64.round ((startsAt - now : ℚ) / 3600000))

/-- The first tier whose threshold the lead time clears; `NaN` clears none. -/
def selectTier (tiers : List Tier) (hoursBefore : Option ℚ) : Option Tier :=
  tiers.find? fun tier => hoursBefore.any fun hours => decide (tier.minHoursBefore ≤ hours)

/-- `BigInt(Math.round(hours * 2))`, which throws on `NaN`. -/
def halfHours (booking : Booking) : Except Thrown Int :=
  match dateOf booking.endsAt, dateOf booking.startsAt with
  | some endsAt, some startsAt => .ok (((endsAt - startsAt) * 2 + 1800000) / 3600000)
  | _, _ => .error .rangeError

def lineAmount (halfHours : Int) (item : HoldLineItem) : Except Thrown Int := do
  let rate ← bigIntOfText item.rateMinor
  let quantity ← bigInt item.quantity
  .ok ((halfHours * rate * quantity).tdiv 2)

/-- Split the total into its room and equipment halves. -/
def splitTotals (booking : Booking) : Except Thrown SplitTotals := do
  let halfHours ← halfHours booking
  let amounts ← booking.lineItems.mapM (lineAmount halfHours)
  let total ← bigIntOfText booking.totalMinor
  let roomMinor := total - amounts.sum
  .ok ⟨if roomMinor < 0 then 0 else roomMinor, amounts.sum⟩

structure RefundPreview where
  hoursBefore : ℚ
  tier : Tier
  roomMinor : Int
  equipmentMinor : Int
  roomRefundMinor : Int
  equipmentRefundMinor : Int
  totalRefundMinor : Int
  forfeitedMinor : Int

/-- What cancelling at `now` would be worth; `none` is `null`, nothing to quote. -/
def previewRefund (booking : Booking) (now : Instant) : Except Thrown (Option RefundPreview) :=
  match booking.tiers with
  | none | some [] => .ok none
  | some tiers =>
      match leadTime booking now, selectTier tiers (leadTime booking now) with
      | some hours, some tier => do
          let totals ← splitTotals booking
          let roomPct ← bigInt tier.roomRefundPct
          let roomRefund := (totals.roomMinor * roomPct).tdiv 100
          let equipmentPct ← bigInt tier.equipmentRefundPct
          let equipmentRefund := (totals.equipmentMinor * equipmentPct).tdiv 100
          let total ← bigIntOfText booking.totalMinor
          .ok (some ⟨hours, tier, totals.roomMinor, totals.equipmentMinor, roomRefund,
            equipmentRefund, roomRefund + equipmentRefund, total - (roomRefund + equipmentRefund)⟩)
      | _, _ => .ok none

end Web

/-! ## What the answer reads back as -/

/-- The API's tier as the web holds one. -/
def Tier.onWeb (t : Tier) : Web.Tier := ⟨t.minHoursBefore, t.roomRefundPct, t.equipmentRefundPct⟩

theorem onWeb_tier {j : Json} {t : Tier} (read : Tier.ofJson j = some t) :
    Web.Tier.ofJson j = some t.onWeb := by
  unfold Tier.ofJson at read
  split at read
  · rename_i hours room equipment hoursRead roomRead equipmentRead
    obtain ⟨⟨roomWhole, equipmentWhole, -⟩, same⟩ := Option.ite_none_right_eq_some.mp read
    cases same
    have whole : ∀ {q : ℚ}, q.den = 1 → ((q.num : Int) : ℚ) = q := Rat.coe_int_num_of_den_eq_one
    simp only [Web.Tier.ofJson, hoursRead, roomRead, equipmentRead, Tier.onWeb, whole roomWhole,
      whole equipmentWhole]
  · cases read

theorem onWeb_tiers {items : List Json} {ts : List Tier} (read : readTiers items = some ts) :
    items.mapM Web.Tier.ofJson = some (ts.map Tier.onWeb) := by
  induction items generalizing ts with
  | nil =>
      cases read
      rfl
  | cons j js ih =>
      unfold readTiers at read
      split at read
      · rename_i t rest tierRead restRead
        cases read
        rw [List.mapM_cons, onWeb_tier tierRead, ih restRead]
        rfl
      · cases read

theorem onWeb_snapshot {value : Option Json} {snapshot : PolicySnapshot}
    (accepted : parseSnapshot value = some snapshot) :
    Web.snapshotTiers (value.getD .null) = some (some (snapshot.tiers.list.map Tier.onWeb)) := by
  unfold parseSnapshot at accepted
  cases value with
  | none => cases accepted
  | some j =>
      simp only [Option.bind_eq_bind, Option.bind_some] at accepted
      obtain ⟨tiers, read, rest⟩ := Option.bind_eq_some_iff.mp accepted
      have kept : snapshot.tiers = tiers := by
        split at rest
        · obtain ⟨source, -, same⟩ := Option.bind_eq_some_iff.mp rest
          cases same
          rfl
        · cases rest
      obtain ⟨stored, member, laddered⟩ := Option.bind_eq_some_iff.mp read
      rw [kept, Option.getD_some]
      unfold Tiers.ofJson at laddered
      split at laddered
      · rename_i items
        split at laddered
        · rename_i ts itemsRead
          obtain ⟨isLadder, same⟩ := Option.dite_none_right_eq_some.mp laddered
          cases same
          cases j with
          | obj members =>
              simp only [Web.snapshotTiers, member, onWeb_tiers itemsRead, Option.map_some]
          | _ => cases member
        · cases laddered
      · cases laddered

/-- A line item as the web holds one. -/
def BookingLineItem.onWeb (item : BookingLineItem) : Web.HoldLineItem :=
  ⟨item.quantity, toString item.rateMinor⟩

theorem onWeb_items (items : List (BookingLineItem × EquipmentType)) :
    (items.map itemJson).mapM Web.HoldLineItem.ofJson =
      some (items.map fun row => row.1.onWeb) := by
  induction items with
  | nil => rfl
  | cons row items ih =>
      have one : Web.HoldLineItem.ofJson (itemJson row) = some row.1.onWeb := by
        simp [Web.HoldLineItem.ofJson, itemJson, Json.get?, Json.int, Json.minor,
          BookingLineItem.onWeb]
      rw [List.map_cons, List.mapM_cons, one, ih]
      rfl

/-- **The answer reads back** as the stored row's text. -/
theorem onWeb_booking {bookingId : UuidText} {principal : AuthPrincipal}
    {json : Json} {db db' : Db} (returned : findOne bookingId principal db = .ok (json, db')) :
    ∃ b, db.bookings.get? bookingId.value = some b ∧ Instant.isDate b.startsAt = true ∧
      Instant.isDate b.endsAt = true ∧ ∀ tiers,
        Web.snapshotTiers (b.policySnapshot.getD .null) = some tiers →
        Web.Booking.ofJson json = some ⟨toISOString b.startsAt, toISOString b.endsAt,
          toString b.totalMinor, tiers,
          (viewItems db bookingId.value).map fun row => row.1.onWeb⟩ := by
  simp only [findOne, bookingJson, Tx.bind_ok, Tx.read_ok, Tx.pure_ok, isoText_ok] at returned
  obtain ⟨b, start, loaded, context, _, ⟨-, rfl⟩, items, _, ⟨listed, rfl⟩, payment, _, ⟨-, rfl⟩,
    startsAt, _, ⟨starts, rfl, rfl⟩, endsAt, _, ⟨ends, rfl, rfl⟩, expiresAt, t, -, createdAt, _,
    ⟨-, -, rfl⟩, updatedAt, _, ⟨-, -, rfl⟩, paid, _, -, rfl, -⟩ := returned
  obtain ⟨rfl, stored⟩ := loadOwnedBooking_ok loaded
  refine ⟨b, stored, starts, ends, fun tiers read => ?_⟩
  subst listed
  have lines := onWeb_items (viewItems start bookingId.value)
  rw [List.mapM_map] at lines
  simp [Web.Booking.ofJson, Json.get?, Json.minor, read, lines]

/-! ## The same arithmetic -/

/-- Every line's type is stored: the foreign key of `booking_line_items`. -/
def LinesTyped (db : Db) : Prop :=
  ∀ item ∈ db.bookingLineItems, (db.equipmentTypes.get? item.equipmentTypeId).isSome

/-- The join drops no line. -/
theorem viewItems_lines {db : Db} (typed : LinesTyped db) (bookingId : Uuid) :
    (viewItems db bookingId).map Prod.fst =
      db.bookingLineItems.filter fun item => decide (item.bookingId = bookingId) := by
  unfold LinesTyped at typed
  unfold viewItems
  revert typed
  induction db.bookingLineItems with
  | nil => exact fun _ => rfl
  | cons item items ih =>
      intro typed
      have rest := ih fun other among => typed other (List.mem_cons_of_mem _ among)
      obtain ⟨type, stored⟩ := Option.isSome_iff_exists.mp (typed item List.mem_cons_self)
      by_cases own : item.bookingId = bookingId
      · simp [own, stored, rest]
      · simp [own, rest]

theorem bigIntOfText_toString (n : Int) : Web.bigIntOfText (toString n) = .ok n := by
  have read : (toString n).toInt? = some n := Int.toInt?_repr n
  simp only [Web.bigIntOfText, read]

theorem bigInt_intCast (n : Int) : Web.bigInt n = .ok n := by
  simp [Web.bigInt]

theorem onWeb_amounts (half : Int) (items : List BookingLineItem) :
    (items.map BookingLineItem.onWeb).mapM (Web.lineAmount half) =
      .ok (items.map fun item => (half * item.rateMinor * item.quantity).tdiv 2) := by
  induction items with
  | nil => rfl
  | cons item items ih =>
      have one : Web.lineAmount half item.onWeb =
          .ok ((half * item.rateMinor * item.quantity).tdiv 2) := by
        simp only [Web.lineAmount, BookingLineItem.onWeb, bigIntOfText_toString, bigInt_intCast]
        rfl
      rw [List.map_cons, List.mapM_cons, one, ih]
      rfl

/-- The stored row as the web holds it, once the answer is read. -/
def Booking.onWeb (b : Booking) (lines : List BookingLineItem) (tiers : Tiers) : Web.Booking where
  startsAt := toISOString b.startsAt
  endsAt := toISOString b.endsAt
  totalMinor := toString b.totalMinor
  tiers := some (tiers.list.map Tier.onWeb)
  lineItems := lines.map BookingLineItem.onWeb

section Agreement

variable {b : Booking} (starts : Instant.isDate b.startsAt = true)
  (ends : Instant.isDate b.endsAt = true)

include starts ends in
/-- **The web splits as the API does.** -/
theorem onWeb_splitTotals (db : Db) (bookingId : Uuid) (tiers : Tiers) :
    Web.splitTotals (b.onWeb (db.bookingLineItems.filter fun item =>
      decide (item.bookingId = bookingId)) tiers) = .ok (splitTotals db bookingId b) := by
  have half : Web.halfHours (b.onWeb (db.bookingLineItems.filter fun item =>
      decide (item.bookingId = bookingId)) tiers) = .ok (halfHours b.startsAt b.endsAt) := by
    simp only [Web.halfHours, Booking.onWeb, dateOf_toISOString starts, dateOf_toISOString ends,
      halfHours]
  have clamp : ∀ n : Int, (if n < 0 then 0 else n) = max 0 n := by
    intro n
    omega
  unfold Web.splitTotals
  rw [half]
  simp only [Booking.onWeb, onWeb_amounts, bigIntOfText_toString, clamp, bind, Except.bind]
  rfl

include starts in
theorem onWeb_leadTime (lines : List BookingLineItem) (tiers : Tiers) (now : Instant) :
    Web.leadTime (b.onWeb lines tiers) now = some (hoursBefore b.startsAt now) := by
  simp only [Web.leadTime, Booking.onWeb, dateOf_toISOString starts, Option.map_some, hoursBefore]

end Agreement

theorem onWeb_selectTier (tiers : List Tier) (hours : ℚ) :
    Web.selectTier (tiers.map Tier.onWeb) (some hours) =
      (selectTier tiers hours).map Tier.onWeb := by
  rw [Web.selectTier, selectTier, List.find?_map]
  rfl

/-- The preview and the refund are the same, component by component. -/
structure Agrees (p : Web.RefundPreview) (split : SplitTotals) (r : RefundBreakdown) : Prop where
  hoursBefore : p.hoursBefore = r.hoursBefore
  tier : p.tier = r.tier.onWeb
  roomMinor : p.roomMinor = split.roomMinor
  equipmentMinor : p.equipmentMinor = split.equipmentMinor
  roomRefund : p.roomRefundMinor = r.roomRefundMinor
  equipmentRefund : p.equipmentRefundMinor = r.equipmentRefundMinor
  totalRefund : p.totalRefundMinor = r.totalRefundMinor

theorem previewRefund_agrees {b : Booking} (starts : Instant.isDate b.startsAt = true)
    (ends : Instant.isDate b.endsAt = true) (db : Db) (bookingId : Uuid) (tiers : Tiers)
    (now : Instant) : ∃ p r,
    Web.previewRefund (b.onWeb (db.bookingLineItems.filter fun item =>
      decide (item.bookingId = bookingId)) tiers) now = .ok (some p) ∧
    cancellationRefund db bookingId b tiers now = .ok r ∧
    Agrees p (splitTotals db bookingId b) r ∧
    p.forfeitedMinor = b.totalMinor - r.totalRefundMinor := by
  obtain ⟨t, found⟩ := selectTier_total tiers (hoursBefore_nonneg b.startsAt now)
  have some_ : (selectTier tiers.list (hoursBefore b.startsAt now)).isSome := by rw [found]; rfl
  have split := onWeb_splitTotals starts ends db bookingId tiers
  have lead := onWeb_leadTime starts (db.bookingLineItems.filter fun item =>
    decide (item.bookingId = bookingId)) tiers now
  have picked : Web.selectTier (tiers.list.map Tier.onWeb) (some (hoursBefore b.startsAt now)) =
      some t.onWeb := by rw [onWeb_selectTier, found, Option.map_some]
  have refunded : cancellationRefund db bookingId b tiers now = .ok
      ⟨hoursBefore b.startsAt now, t,
        ((splitTotals db bookingId b).roomMinor * t.roomRefundPct).tdiv 100,
        ((splitTotals db bookingId b).equipmentMinor * t.equipmentRefundPct).tdiv 100,
        ((splitTotals db bookingId b).roomMinor * t.roomRefundPct).tdiv 100 +
          ((splitTotals db bookingId b).equipmentMinor * t.equipmentRefundPct).tdiv 100⟩ := by
    simp only [cancellationRefund, computeRefund, found]
  refine ⟨⟨hoursBefore b.startsAt now, t.onWeb, (splitTotals db bookingId b).roomMinor,
    (splitTotals db bookingId b).equipmentMinor,
    ((splitTotals db bookingId b).roomMinor * t.roomRefundPct).tdiv 100,
    ((splitTotals db bookingId b).equipmentMinor * t.equipmentRefundPct).tdiv 100, _, _⟩, _, ?_,
    refunded, ⟨rfl, rfl, rfl, rfl, rfl, rfl, rfl⟩, rfl⟩
  have rungs : ∃ first rest, tiers.list.map Tier.onWeb = first :: rest := by
    cases h : tiers.list with
    | nil =>
        rw [h] at found
        cases found
    | cons first rest => exact ⟨_, _, rfl⟩
  obtain ⟨first, rest, rungs⟩ := rungs
  have ladder : (b.onWeb (db.bookingLineItems.filter fun item =>
      decide (item.bookingId = bookingId)) tiers).tiers = some (first :: rest) := by
    rw [← rungs]
    rfl
  have total : (b.onWeb (db.bookingLineItems.filter fun item =>
      decide (item.bookingId = bookingId)) tiers).totalMinor = toString b.totalMinor := rfl
  rw [rungs] at picked
  unfold Web.previewRefund
  simp only [ladder, lead, picked, split, total, Tier.onWeb, bigInt_intCast, bigIntOfText_toString,
    bind, Except.bind]

/-! ## What is forfeited -/

/-- The total is one a hold sums: a room amount, and the amounts of the stored lines. -/
structure HoldPriced (db : Db) (id : Uuid) (b : Booking) : Prop where
  ordered : b.startsAt < b.endsAt
  lines : ∀ line ∈ db.bookingLineItems, line.bookingId = id → 0 < line.quantity ∧ 0 ≤ line.rateMinor
  total : ∃ rateMinor, 0 ≤ rateMinor ∧ b.totalMinor = roomAmount rateMinor b.startsAt b.endsAt +
    ((db.bookingLineItems.filter fun item => decide (item.bookingId = id)).map
      (lineAmount b.startsAt b.endsAt)).sum

theorem HoldPriced.refund_le {db : Db} {id : Uuid} {b : Booking} (priced : HoldPriced db id b)
    {tiers : Tiers} {now : Instant} {r : RefundBreakdown}
    (refunded : cancellationRefund db id b tiers now = .ok r) :
    r.totalRefundMinor ≤ b.totalMinor := by
  obtain ⟨rate, nonneg, total⟩ := priced.total
  have half := halfHours_nonneg priced.ordered
  have room := roomAmount_nonneg nonneg priced.ordered
  have equipment : (splitTotals db id b).equipmentMinor =
      ((db.bookingLineItems.filter fun item => decide (item.bookingId = id)).map
        (lineAmount b.startsAt b.endsAt)).sum := rfl
  have least : 0 ≤ (splitTotals db id b).equipmentMinor := by
    rw [equipment]
    refine List.sum_nonneg fun amount taken => ?_
    obtain ⟨line, among, rfl⟩ := List.mem_map.mp taken
    obtain ⟨stored, own⟩ := List.mem_filter.mp among
    obtain ⟨positive, rate⟩ := priced.lines line stored (of_decide_eq_true own)
    exact Int.tdiv_nonneg (mul_nonneg (mul_nonneg half rate) positive.le) (by norm_num)
  have rest : (splitTotals db id b).roomMinor = roomAmount rate b.startsAt b.endsAt := by
    have clamped : (splitTotals db id b).roomMinor =
        max 0 (b.totalMinor - (splitTotals db id b).equipmentMinor) := rfl
    rw [clamped, equipment, total, add_sub_cancel_right, max_eq_right room]
  obtain ⟨r', computed, within⟩ :=
    computeRefund_within tiers (rest ▸ room) least b.startsAt now
  cases refunded.symm.trans computed
  calc r.totalRefundMinor = r.roomRefundMinor + r.equipmentRefundMinor := within.sum
    _ ≤ (splitTotals db id b).roomMinor + (splitTotals db id b).equipmentMinor :=
        add_le_add within.room.2 within.equipment.2
    _ = b.totalMinor := by rw [rest, equipment, total]

/-- What a hold has priced stays priced so, in every state reached. -/
theorem holdPriced_of_reachable {env : Env} {now : Instant} {db : Db} (fresh : db.Fresh)
    (roomRates : ∀ id row, db.rooms.get? id = some row → 0 ≤ row.hourlyRateMinor)
    (equipmentRates : ∀ id row, db.equipmentTypes.get? id = some row → 0 ≤ row.hourlyRateMinor)
    {api : Api} (reached : Reachable (step env) (Api.start now db) api) :
    LinesTyped api.db ∧
      ∀ id b, api.db.bookings.get? id = some b → HoldPriced api.db id b := by
  have all := priced_of_reachable fresh reached
  obtain ⟨-, rooms, types⟩ := reached.invariant (I := fun api => sameCatalogue db api.db)
    ⟨rfl, rfl, rfl⟩ step_sameCatalogue
  -- A stored line is one of its booking's priced items.
  have line : ∀ item ∈ api.db.bookingLineItems, ∀ b rate priced,
      PricedFrom api.db item.bookingId b rate priced → 0 < item.quantity ∧
        ∃ row, api.db.equipmentTypes.get? item.equipmentTypeId = some row ∧
          item.rateMinor = row.hourlyRateMinor := by
    intro item among b rate priced from_
    have own : item ∈ priced.map (PricedItem.line item.bookingId) := by
      rw [← from_.lines]
      exact List.mem_filter.mpr ⟨among, decide_eq_true rfl⟩
    obtain ⟨source, here, same⟩ := List.mem_map.mp own
    obtain ⟨positive, -, row, stored, rate⟩ := from_.items source here
    rw [← same]
    exact ⟨positive, row, stored, rate⟩
  constructor
  · intro item among
    obtain ⟨b, here⟩ := Option.isSome_iff_exists.mp (all.placed item among).2
    obtain ⟨rate, priced, from_⟩ := all.from_ _ b here
    obtain ⟨-, row, stored, -⟩ := line item among b rate priced from_
    rw [stored]
    rfl
  · intro id b here
    obtain ⟨rate, priced, from_⟩ := all.from_ id b here
    refine ⟨all.proper id b here, fun item among own => ?_, rate, ?_, ?_⟩
    · subst own
      obtain ⟨positive, row, stored, same⟩ := line item among b rate priced from_
      rw [same]
      exact ⟨positive, equipmentRates _ row (types ▸ stored)⟩
    · obtain ⟨row, stored, same⟩ := from_.room
      rw [← same]
      exact roomRates _ row (rooms ▸ stored)
    · rw [from_.total, ← from_.equipment]
      rfl

/-- **The preview is the refund.** -/
theorem preview_is_refund {bookingId : UuidText} {principal : AuthPrincipal} {json : Json}
    {db db' : Db} (typed : LinesTyped db)
    (returned : findOne bookingId principal db = .ok (json, db')) {b : Booking}
    (stored : db.bookings.get? bookingId.value = some b) {snapshot : PolicySnapshot}
    (accepted : parseSnapshot b.policySnapshot = some snapshot) (now : Instant) :
    ∃ booking p r, Web.Booking.ofJson json = some booking ∧
      Web.previewRefund booking now = .ok (some p) ∧
      cancellationRefund db bookingId.value b snapshot.tiers now = .ok r ∧
      Agrees p (splitTotals db bookingId.value b) r ∧
      p.forfeitedMinor = b.totalMinor - r.totalRefundMinor ∧
      (HoldPriced db bookingId.value b → 0 ≤ p.forfeitedMinor) := by
  obtain ⟨b', stored', starts, ends, read⟩ := onWeb_booking returned
  cases stored.symm.trans stored'
  have row := read _ (onWeb_snapshot accepted)
  have lines : (viewItems db bookingId.value).map (fun row => row.1.onWeb) =
      (db.bookingLineItems.filter fun item => decide (item.bookingId = bookingId.value)).map
        BookingLineItem.onWeb := by
    rw [← viewItems_lines typed, List.map_map]
    rfl
  rw [lines] at row
  obtain ⟨p, r, previewed, refunded, agrees, forfeited⟩ :=
    previewRefund_agrees starts ends db bookingId.value snapshot.tiers now
  refine ⟨_, p, r, row, previewed, refunded, agrees, forfeited, fun priced => ?_⟩
  rw [forfeited]
  exact Int.sub_nonneg.mpr (priced.refund_le refunded)

/-- A confirmed booking of a room with a projector. -/
def confirmed : List Action :=
  Sample.holding 0 Sample.hold 7 0 ++ Sample.paying 1 (Uuid.path 7) 10 "ch_1" 0 ++
    [.deliver (Sample.webhook "d_1" "ch_1" .chargeSucceeded) 20 0, .apply 2 20 0]

theorem preview_is_refund_of_confirmed : ∃ api json db' booking p,
    run (step .default) confirmed (Api.start 0 Sample.db) = some api ∧
      findOne (Uuid.path 7) Sample.customer api.db = .ok (json, db') ∧
      Web.Booking.ofJson json = some booking ∧
      Web.previewRefund booking 1800000 = .ok (some p) := by
  have ran : ((run (step .default) confirmed (Api.start 0 Sample.db)).any fun api =>
      (api.db.bookingLineItems.all fun item =>
        (api.db.equipmentTypes.get? item.equipmentTypeId).isSome) &&
      (findOne (Uuid.path 7) Sample.customer api.db).toOption.isSome &&
      ((api.db.bookings.get? 7).bind fun b => parseSnapshot b.policySnapshot).isSome) = true := by
    decide +kernel
  obtain ⟨api, reached, holds⟩ := (Option.any_eq_true _ _).mp ran
  simp only [Bool.and_eq_true, List.all_eq_true] at holds
  obtain ⟨⟨typed, answered⟩, snapshot⟩ := holds
  obtain ⟨snapshot, found⟩ := Option.isSome_iff_exists.mp snapshot
  obtain ⟨b, stored, accepted⟩ := Option.bind_eq_some_iff.mp found
  cases answer : findOne (Uuid.path 7) Sample.customer api.db with
  | error e =>
      rw [answer] at answered
      cases answered
  | ok returned =>
      obtain ⟨booking, p, -, read, previewed, -⟩ :=
        preview_is_refund typed answer (b := b) stored accepted 1800000
      exact ⟨api, returned.1, returned.2, booking, p, reached, answer, read, previewed⟩

end Atrium
