/-
# EquipmentInvariant -- units in use stay within the ceiling

Admission checks the peak once, when a hold is made, under the locks of its
equipment types.  Afterwards usage of a type grows only by another hold of that
type, which waits for the lock, or by a lapsed hold that counts again.  The second
happens: checkout and pay decide on a row they have read without a lock, and a
hold that lapses in between is re-armed or paid for after another customer's
admission has left it out (`overbooked`).

`Txn.inTime` is the condition that this does not happen: where the row that was
read had not lapsed, the stored row has not either.  Along every run whose commits
meet it the ceiling holds (`units_within_ceiling`).
-/
import Atrium.BookingChange

namespace Atrium

open Atrium.Base

set_option autoImplicit false

/-- A hold the peak query leaves out. -/
def Booking.lapsedHold (b : Booking) (now : Instant) : Bool :=
  decide (b.status = .held) && b.lapsedAt now

/-- Where checkout or pay found the row it read live, the stored row is live too. -/
def Txn.inTime (db : Db) (now : Instant) : Txn → Bool
  | .checkout bookingId _ booking at_ =>
      booking.lapsedAt at_ || (db.bookings.get? bookingId.value).all fun b => !b.lapsedHold now
  | .pay bookingId _ booking _ stamp =>
      decide (booking.status ≠ .held) || booking.lapsedAt stamp.now ||
        (db.bookings.get? bookingId.value).all fun b => !b.lapsedHold now
  | _ => true

/-- Every transaction the action commits is in time. -/
def inTime (a : Action) (api : Api) : Prop :=
  (a.commit? api).all fun c => c.txn.inTime api.db api.now

instance (a : Action) (api : Api) : Decidable (inTime a api) := inferInstanceAs (Decidable (_ = true))

/-! ## A change does not bring usage back -/

theorem live_iff {b : Booking} {now : Instant} :
    b.live now = true ↔ b.status ∈ activeBookingStatuses ∧ b.lapsedHold now = false := by
  simp [Booking.live, Booking.active, Booking.lapsedHold, imp_iff_not_or]

theorem live_of_active {b : Booking} {now : Instant} (active : b.status ∈ activeBookingStatuses)
    (paid : b.status ≠ .held) : b.live now = true :=
  live_iff.mpr ⟨active, by simp [Booking.lapsedHold, paid]⟩

/-- A booking that counts after a change, other than a hold's own, counted before. -/
theorem BookingChange.counted {env : Env} {db db' : Db} {t : Txn} {ids : List Uuid}
    {now now' : Instant} (change : BookingChange env db db' t ids) (later : now ≤ now')
    (punctual : t.inTime db now = true) {id : Uuid} {b' : Booking}
    (found : db'.bookings.get? id = some b') (lives : b'.live now' = true) :
    (∃ b, db.bookings.get? id = some b ∧ b.live now = true ∧ b.startsAt = b'.startsAt ∧
        b.endsAt = b'.endsAt) ∨
      db.bookings.get? id = none := by
  have earlier : b'.live now = true := Booking.live_antitone later lives
  cases change with
  | idle _ _ same => exact .inl ⟨b', by rwa [← same], earlier, rfl, rfl⟩
  | moved _ id' b f target actor reason rows here created legal move paid same =>
      rw [same] at found
      by_cases own : id = id'
      · subst own
        rw [Table.get?_modify_self, here, Option.map_some, Option.some.injEq] at found
        subst found
        have active := (live_iff.mp earlier).1
        rw [move.status] at active
        have before := active_of_move legal active created
        obtain ⟨-, -, -, starts, ends, -⟩ := move.sameTerms b
        refine .inl ⟨b, here, ?_, starts.symm, ends.symm⟩
        by_cases held : b.status = .held
        · have paying : target = .pendingPayment := by
            rw [held] at legal
            revert legal active
            cases target <;> simp [legalTransitions, activeBookingStatuses]
          obtain ⟨bookingId, principal, booking, existing, stamp, rfl, rfl, status, live⟩ :=
            paid paying
          have timely : b.lapsedHold now = false := by
            simpa [Txn.inTime, status, live, here] using punctual
          exact live_iff.mpr ⟨before, timely⟩
        · exact live_of_active before held
      · rw [Table.get?_modify_ne _ _ own] at found
        exact .inl ⟨b', found, earlier, rfl, rfl⟩
  | rearmed bookingId principal booking b at_ actor live _ _ here status same =>
      rw [same] at found
      by_cases own : id = bookingId.value
      · subst own
        rw [Table.get?_modify_self, here, Option.map_some, Option.some.injEq] at found
        subst found
        have timely : b.lapsedHold now = false := by
          simpa [Txn.inTime, live, here] using punctual
        refine .inl ⟨b, here, live_iff.mpr ⟨?_, timely⟩, rfl, rfl⟩
        revert status
        cases b.status <;> simp [activeBookingStatuses]
      · rw [Table.get?_modify_ne _ _ own] at found
        exact .inl ⟨b', found, earlier, rfl, rfl⟩
  | expired _ _ at_ reason _ _ same =>
      rw [same.1, Db.expire_bookings, Table.get?_update, Option.map_eq_some_iff] at found
      obtain ⟨b, here, rfl⟩ := found
      split at earlier
      · simp [live_iff, activeBookingStatuses] at earlier
      · rename_i kept
        exact .inl ⟨b, here, earlier, by simp [kept], by simp [kept]⟩
  | held input ctx principal stamp expired priced bookings _ _ _ _ fresh same =>
      rw [same.1, Db.hold_bookings, Table.get?_insert? fresh] at found
      have absent := (Table.insert?_some fresh).1
      simp only [expiredView, Db.expire_bookings, Table.get?_update,
        Option.map_eq_none_iff] at absent
      by_cases own : id = stamp.id
      · exact .inr (own ▸ absent)
      · rw [if_neg own, expiredView, Db.expire_bookings, Table.get?_update,
          Option.map_eq_some_iff] at found
        obtain ⟨b, here, rfl⟩ := found
        split at earlier
        · simp [live_iff, activeBookingStatuses] at earlier
        · rename_i kept
          exact .inl ⟨b, here, earlier, by simp [kept], by simp [kept]⟩

/-- What the line items of a change are: those before it, and a hold's own. -/
def Txn.newItems : Txn → List BookingLineItem
  | .hold _ _ _ stamp _ priced =>
      priced.map fun item => ⟨stamp.id, item.equipmentTypeId, item.quantity, item.rateMinor⟩
  | _ => []

theorem BookingChange.items {env : Env} {db db' : Db} {t : Txn} {ids : List Uuid}
    (change : BookingChange env db db' t ids) :
    db'.bookingLineItems = db.bookingLineItems ∨
      db'.bookingLineItems = db.bookingLineItems ++ t.newItems := by
  cases change with
  | idle _ _ _ same => exact .inl same
  | moved _ _ _ _ _ _ _ _ _ _ _ _ _ _ same => exact .inl same
  | rearmed _ _ _ _ _ _ _ _ _ _ _ _ same => exact .inl same
  | expired _ _ _ _ _ _ same => exact .inl same.2.1
  | held _ _ _ _ _ _ _ _ _ _ _ _ same => exact .inr same.2.1

/-! ## What a hold adds -/

/-- The priced items of distinct types take one type's units once. -/
theorem sum_newItems {db : Db} {input : HoldInput} {id equipmentTypeId : Uuid} {now t : Instant}
    {locked : List (Uuid × EquipmentType)} (nodup : (locked.map Prod.fst).Nodup)
    (taken : Uuid × EquipmentType → Int)
    (spec : taken = fun row => demand db equipmentTypeId now t
      ⟨id, row.1, (pricedItem input row).quantity, (pricedItem input row).rateMinor⟩) :
    (locked.map taken).sum =
      ((locked.find? fun row => row.1 = equipmentTypeId).map taken).getD 0 := by
  have off : ∀ row, row.1 ≠ equipmentTypeId → taken row = 0 := by
    intro row other
    simp [spec, demand, other]
  induction locked with
  | nil => rfl
  | cons row locked ih =>
      rw [List.map_cons, List.nodup_cons] at nodup
      rw [List.map_cons, List.sum_cons, ih nodup.2]
      by_cases own : row.1 = equipmentTypeId
      · have absent : locked.find? (fun row => decide (row.1 = equipmentTypeId)) = none := by
          rw [List.find?_eq_none]
          intro other here same
          exact nodup.1 (List.mem_map.mpr ⟨other, here, by simpa [own] using same⟩)
        simp [own, absent]
      · simp [own, off row own]

/-- Units a hold asks for of a type, if it has locked it. -/
def asked (input : HoldInput) (locked : List (Uuid × EquipmentType)) (equipmentTypeId : Uuid)
    (t : Instant) : Int :=
  if input.startsAt ≤ t ∧ t < input.endsAt then
    ((locked.find? fun row => row.1 = equipmentTypeId).map fun row =>
      (pricedItem input row).quantity).getD 0
  else 0

theorem asked_absent {input : HoldInput} {locked : List (Uuid × EquipmentType)}
    {equipmentTypeId : Uuid} {t : Instant} (absent : equipmentTypeId ∉ locked.map Prod.fst) :
    asked input locked equipmentTypeId t = 0 := by
  have miss : locked.find? (fun row => decide (row.1 = equipmentTypeId)) = none := by
    rw [List.find?_eq_none]
    exact fun row here same => absent (List.mem_map.mpr ⟨row, here, by simpa using same⟩)
  simp [asked, miss]

/-- **Usage after a change**: what it was, and for a hold what the hold asked for. -/
theorem BookingChange.usage {env : Env} {db db' : Db} {t : Txn} {ids : List Uuid}
    {now now' : Instant} (change : BookingChange env db db' t ids) (later : now ≤ now')
    (punctual : t.inTime db now = true)
    (positive : ∀ item ∈ db.bookingLineItems, 0 < item.quantity)
    (placed : ∀ item ∈ db.bookingLineItems, (db.bookings.get? item.bookingId).isSome)
    (equipmentTypeId : Uuid) (at_ : Instant) :
    unitsInUse db' equipmentTypeId now' at_ ≤ unitsInUse db equipmentTypeId now at_ ∨
      ∃ input ctx principal stamp expired priced, t = .hold input ctx principal stamp expired priced ∧
        (∀ item ∈ priced, 0 < item.quantity) ∧
        ∀ locked, (locked.map Prod.fst).Nodup → priced = locked.map (pricedItem input) →
          unitsInUse db' equipmentTypeId now' at_ ≤
            unitsInUse db equipmentTypeId now at_ + asked input locked equipmentTypeId at_ := by
  have old : (db.bookingLineItems.map (demand db' equipmentTypeId now' at_)).sum ≤
      unitsInUse db equipmentTypeId now at_ := by
    refine List.sum_le_sum fun item here => demand_le (positive item here) fun b' found lives => ?_
    refine (change.counted later punctual found lives).resolve_right fun absent => ?_
    simpa [absent] using placed item here
  by_cases same : db'.bookingLineItems = db.bookingLineItems
  · refine .inl ?_
    rw [unitsInUse, same]
    exact old
  · have extended := change.items.resolve_left same
    cases change with
    | held input ctx principal stamp expired priced bookings _ _ _ positive' fresh after =>
        refine .inr ⟨input, ctx, principal, stamp, expired, priced, rfl, positive', ?_⟩
        rintro locked nodup rfl
        have row : db'.bookings.get? stamp.id =
            some (heldRow env input ctx principal stamp (locked.map (pricedItem input))) := by
          rw [after.1, Db.hold_bookings, Table.get?_insert? fresh, if_pos rfl]
        have news := @sum_newItems db' input stamp.id equipmentTypeId now' at_ locked nodup _ rfl
        have each : ∀ row' : Uuid × EquipmentType, row' ∈ locked → row'.1 = equipmentTypeId →
            demand db' equipmentTypeId now' at_ ⟨stamp.id, row'.1, (pricedItem input row').quantity,
              (pricedItem input row').rateMinor⟩ ≤
            if input.startsAt ≤ at_ ∧ at_ < input.endsAt then (pricedItem input row').quantity
            else 0 := by
          intro row' here own
          have some_units := positive' _ (List.mem_map_of_mem (f := pricedItem input) here)
          simp only [demand, own, if_true, row, heldRow, heldValues, NewBooking.row]
          split_ifs with counts inside inside
          · exact le_rfl
          · exact absurd counts.2 inside
          · exact some_units.le
          · exact le_rfl
        rw [unitsInUse, extended, List.map_append, List.sum_append]
        refine add_le_add old ?_
        simp only [Txn.newItems, List.map_map, Function.comp_def, pricedItem] at news ⊢
        rw [news, asked]
        cases found : locked.find? fun row => decide (row.1 = equipmentTypeId) with
        | none => split_ifs <;> simp
        | some row' =>
            have bound := each row' (List.mem_of_find?_eq_some found)
              (by simpa using List.find?_some found)
            simpa [pricedItem] using bound
    | idle _ _ _ items => exact absurd items same
    | moved _ _ _ _ _ _ _ _ _ _ _ _ _ _ items => exact absurd items same
    | rearmed _ _ _ _ _ _ _ _ _ _ _ _ items => exact absurd items same
    | expired _ _ _ _ _ _ after => exact absurd after.2.1 same

/-- Time alone frees units. -/
theorem unitsInUse_antitone {db : Db} (positive : ∀ item ∈ db.bookingLineItems, 0 < item.quantity)
    {now now' : Instant} (later : now ≤ now') (equipmentTypeId : Uuid) (at_ : Instant) :
    unitsInUse db equipmentTypeId now' at_ ≤ unitsInUse db equipmentTypeId now at_ :=
  List.sum_le_sum fun item here => demand_le (positive item here) fun b found lives =>
    ⟨b, found, Booking.live_antitone later lives, rfl, rfl⟩

/-! ## The invariant -/

/-- The room context is the one of the stored venue. -/
def HoldTx.placed (db : Db) (tx : HoldTx) : Prop :=
  ∃ venue, db.venues.get? tx.ctx.venueId = some venue ∧
    tx.ctx.overbookingBufferPct = venue.overbookingBufferPct

/-- The rows a hold has locked are the stored ones, of its own venue. -/
structure HoldTx.Locks (db : Db) (tx : HoldTx) (locked : List (Uuid × EquipmentType)) : Prop where
  nodup : (locked.map Prod.fst).Nodup
  rows : ∀ row ∈ locked, db.equipmentTypes.get? row.1 = some row.2 ∧
    row.1 ∈ tx.input.ids.filterMap uuidOf ∧ row.2.venueId = tx.ctx.venueId

/-- What an open hold may rely on.  Once admitted: over its window its units fit on
top of what is in use. -/
def Proc.stocked (db : Db) (now : Instant) : Proc → Prop
  | .holdOpen tx | .holdExpired tx _ => tx.placed db
  | .holdLocked tx _ locked => tx.placed db ∧ tx.Locks db locked
  | .holdAdmitted tx _ locked priced =>
      tx.placed db ∧ tx.Locks db locked ∧ priced = locked.map (pricedItem tx.input) ∧
        ∀ row ∈ locked, ∀ t, tx.input.startsAt ≤ t → t < tx.input.endsAt →
          unitsInUse db row.1 now t + (pricedItem tx.input row).quantity ≤
            admissionCeiling row.2.unitsOwned tx.ctx.overbookingBufferPct
  | _ => True

structure Stocks (api : Api) (pid : Pid) (p : Proc) : Prop where
  stocked : p.stocked api.db api.now
  apart : ∀ pid' p', pid' ≠ pid → api.procs.get? pid' = some p' →
    ∀ id ∈ p.lockedTypes, id ∉ p'.lockedTypes

structure EquipmentSafe (api : Api) : Prop where
  proper : ∀ id b, api.db.bookings.get? id = some b → b.startsAt < b.endsAt
  positive : ∀ item ∈ api.db.bookingLineItems, 0 < item.quantity
  placed : ∀ item ∈ api.db.bookingLineItems, (api.db.bookings.get? item.bookingId).isSome
  procs : ∀ pid p, api.procs.get? pid = some p → Stocks api pid p
  within : ∀ id row venue, api.db.equipmentTypes.get? id = some row →
    api.db.venues.get? row.venueId = some venue → ∀ t, unitsInUse api.db id api.now t ≤
      admissionCeiling row.unitsOwned venue.overbookingBufferPct

theorem Proc.lockedTypes_eq_nil {p : Proc} (none_open : p.holdTx = none) : p.lockedTypes = [] := by
  cases p <;> first | rfl | cases none_open

theorem Stocks.of_idle {api : Api} {pid : Pid} {p : Proc} (none_open : p.holdTx = none) :
    Stocks api pid p := by
  refine ⟨?_, by simp [Proc.lockedTypes_eq_nil none_open]⟩
  cases p <;> trivial

/-- What an open hold relies on stays, while its types are not used more. -/
theorem Proc.stocked.mono {p : Proc} {db db' : Db} {now now' : Instant}
    (holds : p.stocked db now) (same : sameCatalogue db db')
    (usage : ∀ id ∈ p.lockedTypes, ∀ t, unitsInUse db' id now' t ≤ unitsInUse db id now t) :
    p.stocked db' now' := by
  obtain ⟨venues, -, types⟩ := same
  have place : ∀ tx : HoldTx, tx.placed db → tx.placed db' := by
    rintro tx ⟨venue, here, pct⟩
    exact ⟨venue, venues ▸ here, pct⟩
  have lock : ∀ (tx : HoldTx) locked, tx.Locks db locked → tx.Locks db' locked := by
    intro tx locked locks
    exact ⟨locks.nodup, fun row here => types ▸ locks.rows row here⟩
  cases p with
  | holdOpen tx => exact place tx holds
  | holdExpired tx expired => exact place tx holds
  | holdLocked tx expired locked => exact ⟨place tx holds.1, lock tx locked holds.2⟩
  | holdAdmitted tx expired locked priced =>
      obtain ⟨placed, locks, items, fits⟩ := holds
      refine ⟨place tx placed, lock tx locked locks, items, fun row here t start stop => ?_⟩
      have less := usage row.1 (List.mem_map_of_mem here) t
      have fit := fits row here t start stop
      omega
  | _ => trivial

theorem Stocks.congr {api api' : Api} {pid : Pid} {p : Proc} (stocks : Stocks api pid p)
    (same : sameCatalogue api.db api'.db)
    (usage : ∀ id ∈ p.lockedTypes, ∀ t,
      unitsInUse api'.db id api'.now t ≤ unitsInUse api.db id api.now t)
    (others : ∀ pid' p', pid' ≠ pid → api'.procs.get? pid' = some p' →
      api.procs.get? pid' = some p' ∨ ∀ id ∈ p.lockedTypes, id ∉ p'.lockedTypes) :
    Stocks api' pid p where
  stocked := stocks.stocked.mono same usage
  apart pid' p' differ here id locked := by
    rcases others pid' p' differ here with before | free
    · exact stocks.apart pid' p' differ before id locked
    · exact free id locked

/-- A process that moves on, over an unchanged database. -/
theorem EquipmentSafe.become {api : Api} (safe : EquipmentSafe api) {pid : Pid} {p : Option Proc}
    (fresh : ∀ q, p = some q → Stocks api pid q) : EquipmentSafe (api.become pid p) where
  proper := by simpa using safe.proper
  positive := by simpa using safe.positive
  placed := by simpa using safe.placed
  within := by simpa using safe.within
  procs pid' q here := by
    rw [Api.become_procs] at here
    by_cases own : pid' = pid
    · subst own
      rw [if_pos rfl] at here
      refine (fresh q here).congr (by simp [sameCatalogue]) (by simp) fun pid'' p'' differ there =>
        .inl ?_
      rwa [Api.become_procs, if_neg differ] at there
    · rw [if_neg own] at here
      refine (safe.procs pid' q here).congr (by simp [sameCatalogue]) (by simp)
        fun pid'' p'' differ there => ?_
      rw [Api.become_procs] at there
      by_cases own' : pid'' = pid
      · subst own'
        rw [if_pos rfl] at there
        exact .inr fun id locked locked' => (fresh p'' there).apart pid' q own here id locked' locked
      · rw [if_neg own'] at there
        exact .inl there

theorem EquipmentSafe.requests {api : Api} (safe : EquipmentSafe api) (cs : List ChargeRequest)
    (rs : List RefundInstruction) :
    EquipmentSafe { api with chargeRequests := cs, refundRequests := rs } where
  proper := safe.proper
  positive := safe.positive
  placed := safe.placed
  within := safe.within
  procs pid p here := (safe.procs pid p here).congr ⟨rfl, rfl, rfl⟩ (fun _ _ _ => le_rfl)
    fun _ _ _ there => .inl there

/-- **Admission.**  Under the locks the peak was read under, an admitted hold fits on
top of what is in use now. -/
theorem admitted_fits {api : Api} {tx : HoldTx} {expired : List Uuid}
    {locked : List (Uuid × EquipmentType)} {priced : List PricedItem} (safe : EquipmentSafe api)
    (started : tx.startedAt ≤ api.now)
    (expiredStale : ∀ id ∈ expired, ∃ b, api.db.bookings.get? id = some b ∧
      stale b tx.startedAt = true)
    (locks : tx.Locks api.db locked)
    (admitted : admitLocked tx.input tx.ctx tx.startedAt locked (tx.view api.db expired) =
      .ok (priced, tx.view api.db expired)) {row : Uuid × EquipmentType} (here : row ∈ locked)
    {t : Instant} (start : tx.input.startsAt ≤ t) (stop : t < tx.input.endsAt) :
    unitsInUse api.db row.1 api.now t + (pricedItem tx.input row).quantity ≤
      admissionCeiling row.2.unitsOwned tx.ctx.overbookingBufferPct := by
  obtain ⟨-, -, peaks, read, fit⟩ := admitLocked_ok admitted
  have bound := fit row here
  rw [peakConcurrentUsage_ok read (locks.rows row here).2.1] at bound
  have proper : ∀ id b, (tx.view api.db expired).bookings.get? id = some b →
      b.startsAt < b.endsAt := by
    intro id b found
    rw [HoldTx.view, Db.expire_bookings, Table.get?_update, Option.map_eq_some_iff] at found
    obtain ⟨b₀, found₀, rfl⟩ := found
    have order := safe.proper id b₀ found₀
    split_ifs <;> exact order
  have peak : unitsInUse (tx.view api.db expired) row.1 tx.startedAt t ≤ SweepLine.peak
      (usageEvents (tx.view api.db expired) row.1 tx.input.startsAt tx.input.endsAt tx.startedAt) :=
    unitsInUse_le_peak proper ⟨start, stop⟩
  have seen : unitsInUse api.db row.1 api.now t ≤
      unitsInUse (tx.view api.db expired) row.1 tx.startedAt t := by
    refine List.sum_le_sum fun item among => demand_le (safe.positive item among)
      fun b found lives => ?_
    have lived := Booking.live_antitone started lives
    have kept : item.bookingId ∉ expired := by
      intro gone
      obtain ⟨b', found', isStale⟩ := expiredStale _ gone
      rw [found] at found'
      cases found'
      simp only [stale, Bool.and_eq_true, decide_eq_true_eq] at isStale
      have lapsed : b.lapsedAt tx.startedAt = true := by
        have before := isStale.2
        unfold Booking.lapsedBefore at before
        unfold Booking.lapsedAt
        cases deadline : b.expiresAt with
        | none => simp [deadline] at before
        | some e =>
            simp only [deadline, decide_eq_true_eq] at before ⊢
            exact before.le
      simp [live_iff, Booking.lapsedHold, isStale.1, lapsed] at lived
    refine ⟨b, ?_, lived, rfl, rfl⟩
    simp [HoldTx.view, found, kept]
  omega

/-! ## Steps -/

/-- The line items of a change are positive and belong to stored bookings. -/
theorem BookingChange.itemsPlaced {env : Env} {db db' : Db} {t : Txn} {ids : List Uuid}
    (change : BookingChange env db db' t ids)
    (items : ∀ item ∈ db.bookingLineItems,
      0 < item.quantity ∧ (db.bookings.get? item.bookingId).isSome) :
    ∀ item ∈ db'.bookingLineItems,
      0 < item.quantity ∧ (db'.bookings.get? item.bookingId).isSome := by
  intro item here
  by_cases same : db'.bookingLineItems = db.bookingLineItems
  · rw [same] at here
    exact ⟨(items item here).1, change.kept (items item here).2⟩
  · have extended := change.items.resolve_left same
    rw [extended, List.mem_append] at here
    rcases here with old | new
    · exact ⟨(items item old).1, change.kept (items item old).2⟩
    · cases change with
      | held input ctx principal stamp expired priced bookings _ _ _ positive fresh after =>
          simp only [Txn.newItems, List.mem_map] at new
          obtain ⟨priced', among, rfl⟩ := new
          refine ⟨positive priced' among, ?_⟩
          rw [after.1, Db.hold_bookings, Table.get?_insert? fresh, if_pos rfl]
          rfl
      | idle _ _ _ items => exact absurd items same
      | moved _ _ _ _ _ _ _ _ _ _ _ _ _ _ items => exact absurd items same
      | rearmed _ _ _ _ _ _ _ _ _ _ _ _ items => exact absurd items same
      | expired _ _ _ _ _ _ after => exact absurd after.2.1 same

/-- A committed transaction that is in time. -/
theorem EquipmentSafe.committed {env : Env} {a : Action} {api : Api} (claimed : RowsClaimed api)
    (safe : EquipmentSafe api) {c : Commit} {out : Outcome} {db' : Db} (commits : Commits api a c)
    (effect : Effect env c.txn api.db db' out) (punctual : c.txn.inTime api.db api.now = true) :
    EquipmentSafe (({ api with db := db' } : Api).resume c.pid out.next) := by
  obtain ⟨ids, change, -⟩ := effect.bookingChange (commits.expiriesStale claimed)
  obtain ⟨venues, rooms, types⟩ := effect.sameCatalogue
  have items := change.itemsPlaced fun item here => ⟨safe.positive item here, safe.placed item here⟩
  have usage := change.usage le_rfl punctual safe.positive safe.placed
  refine ⟨by simpa using change.proper safe.proper, ?_, ?_, fun pid p here => ?_, ?_⟩
  · simpa using fun item here => (items item here).1
  · simpa using fun item here => (items item here).2
  · rw [Api.resume_procs] at here
    by_cases owner : c.pid = some pid
    · rw [if_pos owner] at here
      exact .of_idle (Outcome.next_holdTx here)
    · rw [if_neg owner] at here
      refine (safe.procs pid p here).congr (by simpa using ⟨venues, rooms, types⟩) ?_ ?_
      · intro id locked t
        rw [Api.resume_db, Api.resume_now]
        rcases usage id t with less | ⟨input, ctx, principal, stamp, expired, priced, hold, -, more⟩
        · exact less
        · cases commits with
          | hold pid' id' now tx expired' types' priced' own _ =>
              cases hold
              obtain ⟨-, locks, same, -⟩ := (safe.procs pid' _ own).stocked
              have apart := (safe.procs pid p here).apart pid' _
                (fun same => owner (by rw [same])) own id locked
              have bound := more types' locks.nodup same
              rwa [asked_absent apart, add_zero] at bound
          | _ => cases hold
      · intro pid' p' _ there
        rw [Api.resume_procs] at there
        split at there
        · refine .inr fun id _ => ?_
          simp [Proc.lockedTypes_eq_nil (Outcome.next_holdTx there)]
        · exact .inl there
  · intro id row venue stored owner t
    simp only [Api.resume_db, Api.resume_now] at stored owner ⊢
    rw [types] at stored
    rw [venues] at owner
    have before := safe.within id row venue stored owner t
    rcases usage id t with less | ⟨input, ctx, principal, stamp, expired, priced, hold, -, more⟩
    · exact less.trans before
    · cases commits with
      | hold pid' id' now tx expired' types' priced' own _ =>
          cases hold
          obtain ⟨⟨venue', here, pct⟩, locks, same, fits⟩ := (safe.procs pid' _ own).stocked
          have bound := more types' locks.nodup same
          refine bound.trans ?_
          by_cases inside : tx.input.startsAt ≤ t ∧ t < tx.input.endsAt
          · cases found : types'.find? fun row => decide (row.1 = id) with
            | none => simpa [asked, found] using before
            | some row' =>
                have among := List.mem_of_find?_eq_some found
                have key : row'.1 = id := by simpa using List.find?_some found
                subst key
                have fit := fits row' among t inside.1 inside.2
                obtain ⟨stored', -, venueId⟩ := locks.rows row' among
                cases stored.symm.trans stored'
                rw [venueId, here] at owner
                cases owner
                simpa [asked, inside, found, ← pct] using fit
          · simpa [asked, inside] using before
      | _ => cases hold

theorem EquipmentSafe.unshared {env : Env} {a : Action} {api api' : Api} (claimed : RowsClaimed api)
    (safe : EquipmentSafe api) (moved : Local env api a api') : EquipmentSafe api' := by
  cases moved with
  | ticked ms =>
      have later : api.now ≤ api.now + (ms : Int) := by simp
      have less := unitsInUse_antitone safe.positive later
      exact ⟨safe.proper, safe.positive, safe.placed,
        fun pid p here => (safe.procs pid p here).congr ⟨rfl, rfl, rfl⟩ (fun id _ t => less id t)
          fun _ _ _ there => .inl there,
        fun id row venue stored owner t =>
          (less id t).trans (safe.within id row venue stored owner t)⟩
  | holdOpened pid input principal ctx idle read =>
      refine safe.become fun q same => ?_
      cases same
      obtain ⟨-, room, venue, -, owner, venueId, pct⟩ := loadRoomContext_ok read
      exact ⟨⟨venue, by rwa [venueId], pct⟩, by simp [Proc.lockedTypes]⟩
  | holdExpired pid tx here _ _ =>
      refine safe.become fun q same => ?_
      cases same
      exact ⟨(safe.procs pid _ here).stocked, by simp [Proc.lockedTypes]⟩
  | holdBare pid tx expired here bare =>
      refine safe.become fun q same => ?_
      cases same
      exact ⟨⟨(safe.procs pid _ here).stocked, ⟨List.nodup_nil, by simp⟩, rfl, by simp⟩,
        by simp [Proc.lockedTypes]⟩
  | holdLocked pid tx expired locked here lock free =>
      refine safe.become fun q same => ?_
      cases same
      obtain ⟨-, nodup, rows⟩ := lockRequested_ok lock
      refine ⟨⟨(safe.procs pid _ here).stocked, nodup, fun row among => ?_⟩,
        fun pid' p' differ there id mine theirs => ?_⟩
      · simpa [HoldTx.view] using rows row.1 row.2 among
      · exact Api.typesFree_iff.mp free pid' p' differ there id theirs mine
  | holdAdmitted pid tx expired locked priced here admission =>
      refine safe.become fun q same => ?_
      cases same
      obtain ⟨placed, locks⟩ := (safe.procs pid _ here).stocked
      refine ⟨⟨placed, locks, (admitLocked_ok admission).2.1, fun row among t start stop => ?_⟩,
        (safe.procs pid _ here).apart⟩
      exact admitted_fits safe ((claimed pid _ here).started tx rfl)
        ((claimed pid _ here).isStale tx rfl) locks admission among start stop
  | ended a pid =>
      refine safe.become fun q same => ?_
      cases same
  | charged pid request paymentId _ =>
      refine (safe.become (p := some (.charged request paymentId)) fun q same => ?_).requests _ _
      cases same
      exact .of_idle rfl
  | refundSent pid instruction _ =>
      refine (safe.become (p := some (.refundSent instruction)) fun q same => ?_).requests _ _
      cases same
      exact .of_idle rfl
  | _ =>
      refine safe.become fun q same => ?_
      cases same
      exact .of_idle rfl

theorem step_equipmentSafe {env : Env} {a : Action} {api api' : Api} (claimed : RowsClaimed api)
    (stepped : step env a api = some api') (punctual : inTime a api) (safe : EquipmentSafe api) :
    EquipmentSafe api' := by
  cases step_cases stepped with
  | committed c out db' enabled free ran =>
      refine safe.committed claimed (commit_cases enabled) (Txn.run_effect ran) ?_
      simpa [inTime, enabled] using punctual
  | aborted c _ enabled =>
      cases owner : c.pid with
      | none => exact safe
      | some pid =>
          exact safe.become fun q retry => .of_idle ((commit_cases enabled).retry_holdTx retry)
  | unshared _ moved => exact safe.unshared claimed moved

/-! ## Runs -/

theorem Db.Fresh.equipmentSafe {db : Db} (fresh : db.Fresh) (now : Instant) :
    EquipmentSafe (Api.start now db) := by
  obtain ⟨bookings, items, -⟩ := fresh
  refine ⟨by simp [Api.start, bookings], by simp [Api.start, items], by simp [Api.start, items],
    by simp [Api.start], fun id row venue _ _ t => ?_⟩
  simpa [unitsInUse, Api.start, items] using admissionCeiling_nonneg _ _

/-- The units of one type in use at `t` by the live bookings of one venue. -/
def venueUnitsInUse (db : Db) (venueId equipmentTypeId : Uuid) (now t : Instant) : Int :=
  ((db.bookingLineItems.filter fun item =>
    ((db.bookings.get? item.bookingId).any fun b => decide (b.venueId = venueId))).map
      (demand db equipmentTypeId now t)).sum

theorem venueUnitsInUse_le {db : Db} (positive : ∀ item ∈ db.bookingLineItems, 0 < item.quantity)
    (venueId equipmentTypeId : Uuid) (now t : Instant) :
    venueUnitsInUse db venueId equipmentTypeId now t ≤ unitsInUse db equipmentTypeId now t := by
  unfold venueUnitsInUse unitsInUse
  refine List.Sublist.sum_le_sum (List.filter_sublist.map _) fun units taken => ?_
  obtain ⟨item, here, rfl⟩ := List.mem_map.mp taken
  exact demand_nonneg (positive item here)

/-- **Units in use stay within the ceiling**, along every run in which no lapsed hold
is re-armed or paid for. -/
theorem units_within_ceiling {env : Env} {now : Instant} {db : Db} (fresh : db.Fresh) {api : Api}
    (reached : ReachableAlong (step env) inTime (Api.start now db) api) {id : Uuid}
    {row : EquipmentType} {venue : Venue} (stored : api.db.equipmentTypes.get? id = some row)
    (owner : api.db.venues.get? row.venueId = some venue) (t : Instant) :
    venueUnitsInUse api.db row.venueId id api.now t ≤
      admissionCeiling row.unitsOwned venue.overbookingBufferPct := by
  have both : RowsClaimed api ∧ EquipmentSafe api :=
    reached.invariant (I := fun api => RowsClaimed api ∧ EquipmentSafe api)
      ⟨RowsClaimed.start now db, fresh.equipmentSafe now⟩
      fun a api api' stepped punctual holds =>
        ⟨step_claimed a api api' stepped holds.1,
          step_equipmentSafe holds.1 stepped punctual holds.2⟩
  exact (venueUnitsInUse_le both.2.positive _ _ _ _).trans
    (both.2.within id row venue stored owner t)

/-- A hold re-armed while it is live. -/
def rearming : List Action :=
  Sample.holding 0 Sample.hold 7 0 ++
    [.tick 479000, .checkoutBegin 1 (Uuid.path 7) Sample.customer, .checkoutCommit 1 479000]

theorem units_within_ceiling_rearming : ∃ api,
    run (step .default) rearming (Api.start 0 Sample.db) = some api ∧
      Along (step .default) inTime rearming (Api.start 0 Sample.db) ∧
      venueUnitsInUse api.db 1 Sample.projector api.now 36000000 ≤ admissionCeiling 1 0 := by
  have ran : ((run (step .default) rearming (Api.start 0 Sample.db)).map fun api =>
      ((api.db.equipmentTypes.get? Sample.projector).map fun row => (row.venueId, row.unitsOwned),
        (api.db.venues.get? 1).map Venue.overbookingBufferPct)) = some (some (1, 1), some 0) := by
    decide +kernel
  have along : Along (step .default) inTime rearming (Api.start 0 Sample.db) := by decide +kernel
  obtain ⟨api, ran, rows⟩ := Option.map_eq_some_iff.mp ran
  simp only [Prod.mk.injEq, Option.map_eq_some_iff] at rows
  obtain ⟨⟨row, stored, owner, units⟩, venue, here, pct⟩ := rows
  refine ⟨api, ran, along, ?_⟩
  have bound := units_within_ceiling Sample.db_fresh ⟨rearming, ran, along⟩ stored
    (by rw [owner]; exact here) 36000000
  rwa [owner, units, pct] at bound

/-! ## A run that overbooks -/

/-- A hold lapses between the read and the commit of its own checkout, and another
customer's hold is admitted in between. -/
def overbooking : List Action :=
  Sample.holding 0 Sample.hold 7 0 ++
    [.tick 479000, .checkoutBegin 1 (Uuid.path 7) Sample.customer, .tick 2000] ++
    Sample.holding 2 Sample.otherHold 8 481000 ++ [.checkoutCommit 1 479000]

/-- **Overbooked**: two live bookings hold the one projector. -/
theorem overbooked : ¬ ∀ (env : Env) (now : Instant) (db : Db), db.Fresh → ∀ api,
    Reachable (step env) (Api.start now db) api → ∀ id row venue,
      api.db.equipmentTypes.get? id = some row → api.db.venues.get? row.venueId = some venue →
      ∀ t, venueUnitsInUse api.db row.venueId id api.now t ≤
        admissionCeiling row.unitsOwned venue.overbookingBufferPct := by
  intro claim
  have ran : ((run (step .default) overbooking (Api.start 0 Sample.db)).map fun api =>
      ((api.db.equipmentTypes.get? Sample.projector).map fun row => (row.venueId, row.unitsOwned),
        (api.db.venues.get? 1).map Venue.overbookingBufferPct,
        venueUnitsInUse api.db 1 Sample.projector api.now 36000000)) =
      some (some (1, 1), some 0, 2) := by
    decide +kernel
  obtain ⟨api, ran, rows⟩ := Option.map_eq_some_iff.mp ran
  simp only [Prod.mk.injEq, Option.map_eq_some_iff] at rows
  obtain ⟨⟨row, stored, owner, units⟩, ⟨venue, here, pct⟩, used⟩ := rows
  have bound := claim .default 0 Sample.db Sample.db_fresh api ⟨overbooking, ran⟩ Sample.projector
    row venue stored (by rw [owner]; exact here) 36000000
  rw [owner, units, pct, used] at bound
  revert bound
  decide +kernel

end Atrium
