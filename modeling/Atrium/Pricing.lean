/-
# Pricing -- what a hold sums, and what a refund takes of it

A hold sums a room amount and the amounts of its lines.  Neither is stored: a
cancellation recomputes the lines and takes the rest of the total for the room.
`Priced` says that every booking's total is such a sum over its stored lines, so
the split gives back what was summed and a refund stays within it.
-/
import Atrium.Base.Threshold
import Atrium.BookingRead
import Atrium.EquipmentInvariant
import Atrium.RefundPolicy

namespace Atrium

open Atrium.Base

set_option autoImplicit false

/-! ## Shares of an amount -/

/-- A percentage of an amount, as `computeRefund` takes it. -/
def share (amount pct : Int) : Int := (amount * pct).tdiv 100

theorem share_nonneg {amount pct : Int} (nonneg : 0 ≤ amount) (least : 0 ≤ pct) :
    0 ≤ share amount pct :=
  Int.tdiv_nonneg (mul_nonneg nonneg least) (by norm_num)

theorem share_le {amount pct : Int} (nonneg : 0 ≤ amount) (least : 0 ≤ pct) (most : pct ≤ 100) :
    share amount pct ≤ amount := by
  unfold share
  rw [Int.tdiv_eq_ediv_of_nonneg (mul_nonneg nonneg least)]
  exact Int.ediv_le_of_le_mul (by norm_num) (mul_le_mul_of_nonneg_left most nonneg)

theorem share_whole (amount : Int) : share amount 100 = amount :=
  Int.mul_tdiv_cancel amount (by norm_num)

/-! ## The tier -/

theorem Tiers.descending (tiers : Tiers) :
    tiers.list.IsChain fun a b => b.minHoursBefore < a.minHoursBefore := by
  have holds := tiers.isLadder
  simp only [ladder, Bool.and_eq_true, decide_eq_true_eq] at holds
  exact holds.1.2

theorem Tiers.wellFormed (tiers : Tiers) {t : Tier} (among : t ∈ tiers.list) :
    0 ≤ t.roomRefundPct ∧ t.roomRefundPct ≤ 100 ∧ 0 ≤ t.equipmentRefundPct ∧
      t.equipmentRefundPct ≤ 100 := by
  have holds := tiers.isLadder
  simp only [ladder, Bool.and_eq_true, List.all_eq_true] at holds
  have formed := holds.1.1 t among
  simp only [Tier.wellFormed, decide_eq_true_eq] at formed
  exact formed.2

/-- What a refund of these two components under this ladder has to be. -/
structure RefundBreakdown.Within (r : RefundBreakdown) (tiers : Tiers) (hours : ℚ)
    (roomMinor equipmentMinor : Minor) : Prop where
  tier : r.tier ∈ tiers.list ∧ r.tier.minHoursBefore ≤ hours
  greatest : ∀ t ∈ tiers.list, t.minHoursBefore ≤ hours → t.minHoursBefore ≤ r.tier.minHoursBefore
  room : 0 ≤ r.roomRefundMinor ∧ r.roomRefundMinor ≤ roomMinor
  equipment : 0 ≤ r.equipmentRefundMinor ∧ r.equipmentRefundMinor ≤ equipmentMinor
  sum : r.totalRefundMinor = r.roomRefundMinor + r.equipmentRefundMinor
  whole : r.tier.roomRefundPct = 100 → r.tier.equipmentRefundPct = 100 →
    r.totalRefundMinor = roomMinor + equipmentMinor

/-- **A refund is found, and stays within its components.** -/
theorem computeRefund_within (tiers : Tiers) {roomMinor equipmentMinor : Minor}
    (room : 0 ≤ roomMinor) (equipment : 0 ≤ equipmentMinor) (startsAt now : Instant) :
    ∃ r, computeRefund roomMinor equipmentMinor tiers.list startsAt now = .ok r ∧
      r.Within tiers (hoursBefore startsAt now) roomMinor equipmentMinor := by
  obtain ⟨t, found⟩ := selectTier_total tiers (hoursBefore_nonneg startsAt now)
  have cleared : firstCleared Tier.minHoursBefore tiers.list (hoursBefore startsAt now) = some t :=
    found
  obtain ⟨among, low⟩ := firstCleared_mem cleared
  obtain ⟨roomLeast, roomMost, equipmentLeast, equipmentMost⟩ := tiers.wellFormed among
  refine ⟨⟨hoursBefore startsAt now, t, share roomMinor t.roomRefundPct,
    share equipmentMinor t.equipmentRefundPct,
    share roomMinor t.roomRefundPct + share equipmentMinor t.equipmentRefundPct⟩,
    by simp only [computeRefund, found, share], ⟨among, low⟩, ?_, ?_, ?_, rfl, ?_⟩
  · exact fun b here clears => firstCleared_greatest tiers.descending cleared here clears
  · exact ⟨share_nonneg room roomLeast, share_le room roomLeast roomMost⟩
  · exact ⟨share_nonneg equipment equipmentLeast, share_le equipment equipmentLeast equipmentMost⟩
  · intro allRoom allEquipment
    show share roomMinor t.roomRefundPct + share equipmentMinor t.equipmentRefundPct = _
    rw [allRoom, allEquipment, share_whole, share_whole]

/-! ## What a hold sums -/

/-- The room's part of a price. -/
def roomAmount (rateMinor : Minor) (startsAt endsAt : Instant) : Minor :=
  (rateMinor * halfHours startsAt endsAt).tdiv 2

def PricedItem.line (id : Uuid) (item : PricedItem) : BookingLineItem :=
  ⟨id, item.equipmentTypeId, item.quantity, item.rateMinor⟩

/-- An item priced for this period at the stored rate of its type. -/
def PricedItem.fair (db : Db) (startsAt endsAt : Instant) (item : PricedItem) : Prop :=
  item.lineTotalMinor =
      (halfHours startsAt endsAt * item.rateMinor * item.quantity).tdiv 2 ∧
    ∃ row, db.equipmentTypes.get? item.equipmentTypeId = some row ∧
      item.rateMinor = row.hourlyRateMinor

/-- The room rate and the items a hold has priced this booking from. -/
structure PricedFrom (db : Db) (id : Uuid) (b : Booking) (rateMinor : Minor)
    (priced : List PricedItem) : Prop where
  room : ∃ row, db.rooms.get? b.roomId = some row ∧ row.hourlyRateMinor = rateMinor
  items : ∀ item ∈ priced, 0 < item.quantity ∧ item.fair db b.startsAt b.endsAt
  lines : (db.bookingLineItems.filter fun item => decide (item.bookingId = id)) =
    priced.map (PricedItem.line id)
  total : b.totalMinor = roomAmount rateMinor b.startsAt b.endsAt +
    (priced.map PricedItem.lineTotalMinor).sum

/-- **The split recomputes the lines.** -/
theorem PricedFrom.equipment {db : Db} {id : Uuid} {b : Booking} {rateMinor : Minor}
    {priced : List PricedItem} (from_ : PricedFrom db id b rateMinor priced) :
    (splitTotals db id b).equipmentMinor = (priced.map PricedItem.lineTotalMinor).sum := by
  simp only [splitTotals, from_.lines, List.map_map]
  congr 1
  refine List.map_congr_left fun item among => ?_
  exact (from_.items item among).2.1.symm

theorem halfHours_nonneg {startsAt endsAt : Instant} (ordered : startsAt < endsAt) :
    0 ≤ halfHours startsAt endsAt :=
  Int.ediv_nonneg (by linarith) (by norm_num)

theorem roomAmount_nonneg {rateMinor : Minor} {startsAt endsAt : Instant} (rate : 0 ≤ rateMinor)
    (ordered : startsAt < endsAt) : 0 ≤ roomAmount rateMinor startsAt endsAt :=
  Int.tdiv_nonneg (mul_nonneg rate (halfHours_nonneg ordered)) (by norm_num)

/-- **The split gives back what was summed**, and clamps nothing. -/
theorem PricedFrom.split {db : Db} {id : Uuid} {b : Booking} {rateMinor : Minor}
    {priced : List PricedItem} (from_ : PricedFrom db id b rateMinor priced) (rate : 0 ≤ rateMinor)
    (ordered : b.startsAt < b.endsAt) :
    splitTotals db id b = ⟨roomAmount rateMinor b.startsAt b.endsAt,
      (priced.map PricedItem.lineTotalMinor).sum⟩ := by
  have equipment := from_.equipment
  have room := roomAmount_nonneg rate ordered
  have rest : b.totalMinor - (splitTotals db id b).equipmentMinor =
      roomAmount rateMinor b.startsAt b.endsAt := by
    rw [equipment, from_.total]
    exact add_sub_cancel_right _ _
  have clamped : (splitTotals db id b).roomMinor =
      max 0 (b.totalMinor - (splitTotals db id b).equipmentMinor) := rfl
  rw [rest, max_eq_right room] at clamped
  rw [← clamped, ← equipment]

theorem PricedFrom.lines_nonneg {db : Db} {id : Uuid} {b : Booking} {rateMinor : Minor}
    {priced : List PricedItem} (from_ : PricedFrom db id b rateMinor priced)
    (ordered : b.startsAt < b.endsAt)
    (rates : ∀ id row, db.equipmentTypes.get? id = some row → 0 ≤ row.hourlyRateMinor) :
    0 ≤ (priced.map PricedItem.lineTotalMinor).sum := by
  refine List.sum_nonneg fun amount taken => ?_
  obtain ⟨item, among, rfl⟩ := List.mem_map.mp taken
  obtain ⟨positive, line, row, stored, rate⟩ := from_.items item among
  rw [line, rate]
  have half := halfHours_nonneg ordered
  exact Int.tdiv_nonneg (mul_nonneg (mul_nonneg half (rates _ row stored)) positive.le) (by norm_num)

/-! ## Open holds -/

/-- A hold carries the stored rate of its room. -/
def HoldTx.rated (db : Db) (tx : HoldTx) : Prop :=
  ∃ row, db.rooms.get? tx.input.roomId.value = some row ∧
    row.hourlyRateMinor = tx.ctx.hourlyRateMinor

def Proc.rated (db : Db) : Proc → Prop
  | .holdOpen tx | .holdExpired tx _ => tx.rated db
  | .holdLocked tx _ locked =>
      tx.rated db ∧ ∀ row ∈ locked, db.equipmentTypes.get? row.1 = some row.2
  | .holdAdmitted tx _ _ priced =>
      tx.rated db ∧ ∀ item ∈ priced, item.fair db tx.input.startsAt tx.input.endsAt
  | _ => True

theorem Proc.rated.congr {p : Proc} {db db' : Db} (holds : p.rated db)
    (same : sameCatalogue db db') : p.rated db' := by
  obtain ⟨-, rooms, types⟩ := same
  cases p <;> simp only [Proc.rated, HoldTx.rated, PricedItem.fair, rooms, types] at holds ⊢ <;>
    exact holds

def HoldsRated (api : Api) : Prop := ∀ pid p, api.procs.get? pid = some p → p.rated api.db

theorem HoldsRated.become {api : Api} (rated : HoldsRated api) {pid : Pid} {p : Option Proc}
    (own : ∀ q, p = some q → q.rated api.db) : HoldsRated (api.become pid p) := by
  intro pid' q here
  rw [Api.become_db]
  rw [Api.become_procs] at here
  split_ifs at here
  · exact own q here
  · exact rated pid' q here

theorem Outcome.next_rated {out : Outcome} {p : Proc} (next : out.next = some p) (db : Db) :
    p.rated db := by
  cases out <;> simp only [Outcome.next, reduceCtorEq, Option.some.injEq,
    Option.ite_none_left_eq_some] at next
  · subst next; trivial
  · subst next; trivial
  · rw [← next.2]; trivial

theorem loadRoomContext_rate {roomId : UuidText} {ctx : RoomContext} {db db' : Db}
    (returned : loadRoomContext roomId db = .ok (ctx, db')) :
    ∃ row, db.rooms.get? roomId.value = some row ∧ row.hourlyRateMinor = ctx.hourlyRateMinor := by
  simp only [loadRoomContext, Tx.bind_ok, Tx.fetch_ok, Tx.pure_ok] at returned
  obtain ⟨room, _, ⟨here, rfl⟩, venue, _, ⟨-, rfl⟩, hours, _, ⟨-, rfl⟩, rfl, -⟩ := returned
  exact ⟨room, here, rfl⟩

theorem step_rated {env : Env} (a : Action) (api api' : Api)
    (stepped : step env a api = some api') (rated : HoldsRated api) : HoldsRated api' := by
  cases step_cases stepped with
  | committed c out db' enabled free ran =>
      have same := (Txn.run_effect ran).sameCatalogue
      intro pid p here
      rw [Api.resume_db]
      rw [Api.resume_procs] at here
      split_ifs at here
      · exact Outcome.next_rated here _
      · exact (rated pid p here).congr same
  | aborted c _ enabled =>
      cases owner : c.pid with
      | none => exact rated
      | some pid =>
          refine rated.become fun q retry => ?_
          cases commit_cases enabled <;> cases retry
          trivial
  | unshared _ moved =>
      cases moved with
      | ticked ms => exact rated
      | holdOpened pid input principal ctx idle read =>
          refine rated.become fun q same => ?_
          cases same
          exact loadRoomContext_rate read
      | holdExpired pid tx here =>
          refine rated.become fun q same => ?_
          cases same
          exact rated pid (.holdOpen tx) here
      | holdBare pid tx expired here =>
          refine rated.become fun q same => ?_
          cases same
          exact ⟨rated pid (.holdExpired tx expired) here, by simp⟩
      | holdLocked pid tx expired locked here lock =>
          refine rated.become fun q same => ?_
          cases same
          refine ⟨rated pid (.holdExpired tx expired) here, fun row among => ?_⟩
          exact ((lockRequested_ok lock).2.2 row.1 row.2 among).1
      | holdAdmitted pid tx expired locked priced here admission =>
          refine rated.become fun q same => ?_
          cases same
          obtain ⟨room, rows⟩ := rated pid (.holdLocked tx expired locked) here
          refine ⟨room, fun item among => ?_⟩
          rw [(admitLocked_ok admission).2.1] at among
          obtain ⟨row, locked, rfl⟩ := List.mem_map.mp among
          exact ⟨rfl, row.2, rows row locked, rfl⟩
      | charged pid request paymentId _ =>
          refine rated.become (p := some (.charged request paymentId)) fun q same => ?_
          cases same
          trivial
      | refundSent pid instruction _ =>
          refine rated.become (p := some (.refundSent instruction)) fun q same => ?_
          cases same
          trivial
      | _ =>
          refine rated.become fun q same => ?_
          cases same
          try trivial

/-! ## Every booking is priced -/

/-- Every booking's total is the sum of what its hold priced. -/
structure Priced (db : Db) : Prop where
  proper : ∀ id b, db.bookings.get? id = some b → b.startsAt < b.endsAt
  placed : ∀ item ∈ db.bookingLineItems,
    0 < item.quantity ∧ (db.bookings.get? item.bookingId).isSome
  from_ : ∀ id b, db.bookings.get? id = some b → ∃ rate priced, PricedFrom db id b rate priced

/-- The same terms and lines are priced from the same items. -/
theorem PricedFrom.congr {db db' : Db} {id : Uuid} {b b' : Booking} {rateMinor : Minor}
    {priced : List PricedItem} (from_ : PricedFrom db id b rateMinor priced)
    (terms : b.sameTerms b') (same : sameCatalogue db db')
    (lines : (db'.bookingLineItems.filter fun item => decide (item.bookingId = id)) =
      db.bookingLineItems.filter fun item => decide (item.bookingId = id)) :
    PricedFrom db' id b' rateMinor priced := by
  obtain ⟨-, rooms, types⟩ := same
  obtain ⟨-, room, -, starts, ends, total, -⟩ := terms
  refine ⟨?_, fun item among => ?_, lines.trans from_.lines, ?_⟩
  · rw [rooms, room]
    exact from_.room
  · have fair := from_.items item among
    simp only [PricedItem.fair, types, starts, ends] at fair ⊢
    exact fair
  · rw [total, starts, ends]
    exact from_.total

/-- The lines of a stored booking stay what they are. -/
theorem BookingChange.linesKept {env : Env} {db db' : Db} {t : Txn} {ids : List Uuid}
    (change : BookingChange env db db' t ids) {id : Uuid} {b : Booking}
    (here : db.bookings.get? id = some b) :
    (db'.bookingLineItems.filter fun item => decide (item.bookingId = id)) =
      db.bookingLineItems.filter fun item => decide (item.bookingId = id) := by
  cases change with
  | idle _ _ _ same => rw [same]
  | moved _ _ _ _ _ _ _ _ _ _ _ _ _ _ same => rw [same]
  | rearmed _ _ _ _ _ _ _ _ _ _ _ _ same => rw [same]
  | expired _ _ _ _ _ _ same => rw [same.2.1, Db.expire_bookingLineItems]
  | held input ctx principal stamp expired priced bookings _ _ _ _ fresh same =>
      have other : stamp.id ≠ id := by
        rintro rfl
        have absent := (Table.insert?_some fresh).1
        simp [expiredView, here] at absent
      rw [same.2.1, Db.hold_bookingLineItems, expiredView, Db.expire_bookingLineItems,
        List.filter_append, List.filter_map]
      simp [Function.comp_def, other]

/-- **A commit keeps every booking priced.** -/
theorem Priced.committed {env : Env} {a : Action} {api : Api} {c : Commit} {out : Outcome}
    {db' : Db} (priced : Priced api.db) (claimed : RowsClaimed api) (rated : HoldsRated api)
    (commits : Commits api a c) (effect : Effect env c.txn api.db db' out) : Priced db' := by
  obtain ⟨ids, change, -⟩ := effect.bookingChange (commits.expiriesStale claimed)
  have same := effect.sameCatalogue
  refine ⟨change.proper priced.proper, change.itemsPlaced priced.placed, fun id b found => ?_⟩
  cases before : api.db.bookings.get? id with
  | some b₀ =>
      obtain ⟨b', kept, terms⟩ := change.bookingsKept id b₀ before
      rw [found] at kept
      cases kept
      obtain ⟨rate, items, from_⟩ := priced.from_ id b₀ before
      exact ⟨rate, items, from_.congr terms same (change.linesKept before)⟩
  | none =>
      obtain ⟨input, ctx, principal, stamp, expired, items, txn, rfl, rfl, positive, lines⟩ :=
        change.born before found
      cases commits with
      | hold pid newId instant tx expired locked items here _ =>
          cases txn
          obtain ⟨⟨room, stored, rate⟩, fair⟩ :=
            rated pid (.holdAdmitted tx expired locked items) here
          refine ⟨tx.ctx.hourlyRateMinor, items, ⟨room, same.2.1 ▸ stored, rate⟩,
            fun item among => ⟨positive item among, ?_⟩, ?_, rfl⟩
          · have own := fair item among
            simp only [PricedItem.fair, same.2.2] at own ⊢
            exact own
          · have none_ : (api.db.bookingLineItems.filter fun item =>
                decide (item.bookingId = newId)) = [] := by
              refine List.filter_eq_nil_iff.mpr fun item among own => ?_
              have stored := (priced.placed item among).2
              rw [decide_eq_true_eq.mp own, before] at stored
              cases stored
            rw [lines, List.filter_append, none_, List.nil_append, List.filter_map]
            simp [Function.comp_def, PricedItem.line]
      | _ => cases txn

/-! ## Runs -/

structure PricedSafe (api : Api) : Prop where
  claimed : RowsClaimed api
  rated : HoldsRated api
  priced : Priced api.db

theorem step_pricedSafe {env : Env} (a : Action) (api api' : Api)
    (stepped : step env a api = some api') (safe : PricedSafe api) : PricedSafe api' := by
  refine ⟨step_claimed a api api' stepped safe.claimed, step_rated a api api' stepped safe.rated, ?_⟩
  rcases step_db stepped with same | ⟨c, out, commits, -, effect⟩
  · rw [same]
    exact safe.priced
  · exact safe.priced.committed safe.claimed safe.rated commits effect

theorem Db.Fresh.pricedSafe {db : Db} (fresh : db.Fresh) (now : Instant) :
    PricedSafe (Api.start now db) := by
  obtain ⟨bookings, items, -⟩ := fresh
  refine ⟨.start now db, ?_, ?_, ?_, ?_⟩
  · intro pid p here
    simp [Api.start] at here
  · simp [Api.start, bookings]
  · simp [Api.start, items]
  · simp [Api.start, bookings]

theorem priced_of_reachable {env : Env} {now : Instant} {db : Db} (fresh : db.Fresh) {api : Api}
    (reached : Reachable (step env) (Api.start now db) api) : Priced api.db :=
  (reached.invariant (fresh.pricedSafe now) step_pricedSafe).priced

theorem step_sameCatalogue {env : Env} {start : Db} (a : Action) (api api' : Api)
    (stepped : step env a api = some api') (same : sameCatalogue start api.db) :
    sameCatalogue start api'.db := by
  rcases step_db stepped with kept | ⟨c, out, -, -, effect⟩
  · rwa [kept]
  · obtain ⟨venues, rooms, types⟩ := effect.sameCatalogue
    exact ⟨venues.trans same.1, rooms.trans same.2.1, types.trans same.2.2⟩

/-- **The split is exact and no refund exceeds it.**  With rates that are not
negative, the split of a booking gives back the amounts its hold summed, and under
any ladder a cancellation at any instant, before the start or after it, finds the
tier with the greatest threshold and refunds within each component. -/
theorem refund_within_total {env : Env} {now : Instant} {db : Db} (fresh : db.Fresh)
    (roomRates : ∀ id row, db.rooms.get? id = some row → 0 ≤ row.hourlyRateMinor)
    (equipmentRates : ∀ id row, db.equipmentTypes.get? id = some row → 0 ≤ row.hourlyRateMinor)
    {api : Api} (reached : Reachable (step env) (Api.start now db) api) {id : Uuid} {b : Booking}
    (stored : api.db.bookings.get? id = some b) :
    ∃ rate priced, PricedFrom api.db id b rate priced ∧
      splitTotals api.db id b = ⟨roomAmount rate b.startsAt b.endsAt,
        (priced.map PricedItem.lineTotalMinor).sum⟩ ∧
      0 ≤ b.totalMinor - (splitTotals api.db id b).equipmentMinor ∧
      ∀ (tiers : Tiers) (startsAt cancelledAt : Instant), ∃ r,
        computeRefund (splitTotals api.db id b).roomMinor (splitTotals api.db id b).equipmentMinor
            tiers.list startsAt cancelledAt = .ok r ∧
          r.Within tiers (hoursBefore startsAt cancelledAt) (roomAmount rate b.startsAt b.endsAt)
            (priced.map PricedItem.lineTotalMinor).sum ∧
          0 ≤ r.totalRefundMinor ∧ r.totalRefundMinor ≤ b.totalMinor ∧
          (r.tier.roomRefundPct = 100 → r.tier.equipmentRefundPct = 100 →
            r.totalRefundMinor = b.totalMinor) := by
  have all := priced_of_reachable fresh reached
  obtain ⟨-, rooms, types⟩ := reached.invariant (I := fun api => sameCatalogue db api.db)
    ⟨rfl, rfl, rfl⟩ step_sameCatalogue
  have ordered := all.proper id b stored
  obtain ⟨rate, priced, from_⟩ := all.from_ id b stored
  have nonneg : 0 ≤ rate := by
    obtain ⟨row, here, rfl⟩ := from_.room
    exact roomRates _ row (rooms ▸ here)
  have room := roomAmount_nonneg nonneg ordered
  have lines := from_.lines_nonneg ordered fun id row here => equipmentRates id row (types ▸ here)
  have split := from_.split nonneg ordered
  refine ⟨rate, priced, from_, split, ?_, fun tiers startsAt cancelledAt => ?_⟩
  · rw [from_.equipment, from_.total]
    linarith
  · obtain ⟨r, computed, within⟩ := computeRefund_within tiers room lines startsAt cancelledAt
    rw [split]
    refine ⟨r, computed, within, ?_, ?_, fun allRoom allEquipment => ?_⟩
    · rw [within.sum]
      exact add_nonneg within.room.1 within.equipment.1
    · rw [within.sum, from_.total]
      exact add_le_add within.room.2 within.equipment.2
    · rw [within.whole allRoom allEquipment, from_.total]

theorem refund_within_total_of_hold : ∃ api b,
    run (step .default) (Sample.holding 0 Sample.hold 7 0) (Api.start 0 Sample.db) = some api ∧
      api.db.bookings.get? 7 = some b ∧
      0 ≤ b.totalMinor - (splitTotals api.db 7 b).equipmentMinor := by
  have ran : (((run (step .default) (Sample.holding 0 Sample.hold 7 0)
      (Api.start 0 Sample.db)).bind fun api => api.db.bookings.get? 7).isSome) = true := by
    decide +kernel
  obtain ⟨b, found⟩ := Option.isSome_iff_exists.mp ran
  obtain ⟨api, ran, stored⟩ := Option.bind_eq_some_iff.mp found
  have roomRates : ∀ id row, Sample.db.rooms.get? id = some row → 0 ≤ row.hourlyRateMinor := by
    intro id row here
    have among := Table.mem_rows.mpr here
    simp only [Sample.db, List.mem_cons, Prod.mk.injEq, List.not_mem_nil, or_false] at among
    rcases among with ⟨-, rfl⟩ | ⟨-, rfl⟩ <;> decide
  have equipmentRates : ∀ id row, Sample.db.equipmentTypes.get? id = some row →
      0 ≤ row.hourlyRateMinor := by
    intro id row here
    have among := Table.mem_rows.mpr here
    simp only [Sample.db, List.mem_singleton, Prod.mk.injEq] at among
    obtain ⟨-, rfl⟩ := among
    decide
  obtain ⟨rate, priced, -, -, unclamped, -⟩ := refund_within_total Sample.db_fresh roomRates
    equipmentRates ⟨_, ran⟩ stored
  exact ⟨api, b, ran, stored, unclamped⟩

end Atrium
