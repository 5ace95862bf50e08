/-
# SlotRelease -- which lapsed bookings give their slot back

`no_room_overlap` covers three statuses; the two expiries select one.  A lapsed
HELD row is retired by the expiry a hold starts with, and by the sweeper after
enough batches, oldest deadline first.  A lapsed PENDING_PAYMENT row is retired by
neither: it leaves with the event of its charge or not at all, and where the
provider was never reached there is no charge (`slot_kept`).

So the slot comes back exactly where no PENDING_PAYMENT booking of the room has
lapsed (`slot_released_iff`).
-/
import Atrium.BookingChange

namespace Atrium

open Atrium.Base

set_option autoImplicit false

/-- No booking of the room but a confirmed one keeps the slot past its deadline. -/
def Released (db : Db) (room : Uuid) (t : Instant) : Prop :=
  ∀ id b, db.bookings.get? id = some b → b.roomId = room → b.active = true →
    b.status ≠ .confirmed → b.lapsedBefore t = false

/-- A booking of the room waits for a payment past its deadline. -/
def PaymentLapsed (db : Db) (room : Uuid) (t : Instant) : Prop :=
  ∃ id b, db.bookings.get? id = some b ∧ b.roomId = room ∧ b.status = .pendingPayment ∧
    b.lapsedBefore t = true

/-- A hold of the room meets only confirmed bookings and windows that have not lapsed. -/
def FairlyRefused (db : Db) (room : Uuid) (t : Instant) : Prop :=
  ∀ row : Booking, row.roomId = room → ∀ c ∈ roomConflicts db row,
    c.2.status = .confirmed ∨ c.2.lapsedBefore t = false

/-- The sweeper alone, at these instants. -/
def sweeps (env : Env) (db : Db) (times : List Instant) : Db :=
  times.foldl (fun db now => (Txn.sweep now []).commit env db) db

/-! ## What an expiry leaves -/

/-- `db'` is `db` with some held rows expired, and every stale one of the room. -/
structure Retired (db db' : Db) (room : Uuid) (t : Instant) : Prop where
  kept : ∀ id b, db'.bookings.get? id = some b → b.active = true → db.bookings.get? id = some b
  paying : ∀ id b, db.bookings.get? id = some b → b.status = .pendingPayment →
    db'.bookings.get? id = some b
  swept : ∀ id b, db'.bookings.get? id = some b → b.roomId = room → stale b t = false

theorem expire_keeps {db : Db} {ids : List Uuid} {now : Instant} {actor : Actor} {reason : String}
    {id : Uuid} {b : Booking}
    (found : (db.expire ids now actor reason).bookings.get? id = some b) (active : b.active = true) :
    id ∉ ids ∧ db.bookings.get? id = some b := by
  rw [Db.expire_bookings, Table.get?_update, Option.map_eq_some_iff] at found
  obtain ⟨b₀, here, rfl⟩ := found
  by_cases gone : id ∈ ids
  · simp [gone, Booking.active, activeBookingStatuses] at active
  · simp only [gone, if_false] at active ⊢
    exact ⟨not_false, here⟩

theorem expire_other {db : Db} {ids : List Uuid} {now : Instant} {actor : Actor} {reason : String}
    {id : Uuid} {b : Booking} (found : db.bookings.get? id = some b) (outside : id ∉ ids) :
    (db.expire ids now actor reason).bookings.get? id = some b := by
  simp [found, outside]

theorem stale_active {b : Booking} {t : Instant} (isStale : stale b t = true) : b.active = true := by
  simp only [stale, Bool.and_eq_true, decide_eq_true_eq] at isStale
  simp [Booking.active, isStale.1, activeBookingStatuses]

theorem expireStaleHoldsForRoom_retired (db : Db) (room : Uuid) (t : Instant) :
    Retired db ((expireStaleHoldsForRoom room t).commit db) room t := by
  have committed : (expireStaleHoldsForRoom room t).commit db =
      db.expire (staleHoldsOfRoom db room t) t systemActor "hold.expired.in_transaction" := rfl
  rw [committed]
  refine ⟨fun id b found active => (expire_keeps found active).2,
    fun id b found paying => expire_other found fun among => ?_, fun id b found own => ?_⟩
  · obtain ⟨b', found', -, held, -⟩ := mem_staleHoldsOfRoom.mp among
    cases found.symm.trans found'
    rw [paying] at held
    cases held
  · by_contra isStale
    rw [Bool.not_eq_false] at isStale
    obtain ⟨outside, here⟩ := expire_keeps found (stale_active isStale)
    simp only [stale, Bool.and_eq_true, decide_eq_true_eq] at isStale
    exact outside (mem_staleHoldsOfRoom.mpr ⟨b, here, own, isStale.1, isStale.2⟩)

/-- **What is left lapsed is a payment.** -/
theorem Retired.released_iff {db db' : Db} {room : Uuid} {t : Instant}
    (retired : Retired db db' room t) : Released db' room t ↔ ¬ PaymentLapsed db room t := by
  constructor
  · rintro released ⟨id, b, found, own, paying, lapsed⟩
    have free := released id b (retired.paying id b found paying) own
      (by simp [Booking.active, paying, activeBookingStatuses]) (by simp [paying])
    rw [lapsed] at free
    cases free
  · intro none_lapsed id b found own active unconfirmed
    have before := retired.kept id b found active
    have fresh := retired.swept id b found own
    by_contra lapsed
    rw [Bool.not_eq_false] at lapsed
    simp only [Booking.active, activeBookingStatuses, List.mem_cons, List.not_mem_nil, or_false,
      decide_eq_true_eq] at active
    rcases active with held | paying | confirmed
    · simp [stale, held, lapsed] at fresh
    · exact none_lapsed ⟨id, b, before, own, paying, lapsed⟩
    · exact unconfirmed confirmed

/-! ## Batches, oldest deadline first -/

/-- The held rows whose deadline lies before `t`. -/
def lapsedHolds (db : Db) (t : Instant) : List Uuid :=
  (db.bookings.select fun _ b => stale b t).map Prod.fst

theorem mem_lapsedHolds {db : Db} {t : Instant} {id : Uuid} :
    id ∈ lapsedHolds db t ↔ ∃ b, db.bookings.get? id = some b ∧ stale b t = true := by
  simp [lapsedHolds, Table.mem_select]

theorem lapsedHolds_nodup (db : Db) (t : Instant) : (lapsedHolds db t).Nodup :=
  db.bookings.unique.sublist (List.filter_sublist.map Prod.fst)

theorem stale_mono {b : Booking} {t t' : Instant} (later : t ≤ t') (isStale : stale b t = true) :
    stale b t' = true := by
  simp only [stale, Booking.lapsedBefore, Bool.and_eq_true] at *
  grind

/-- What a sweep takes comes before what it leaves. -/
theorem taken_first {db : Db} {limit : Nat} {now : Instant} {taken left : Uuid} {b c : Booking}
    (took : taken ∈ staleHolds db limit now []) (found : db.bookings.get? taken = some b)
    (here : db.bookings.get? left = some c) (isStale : stale c now = true)
    (leaves : left ∉ staleHolds db limit now []) : byDeadline (taken, b) (left, c) := by
  have sorted := List.pairwise_insertionSort byDeadline
    (db.bookings.select fun id b => stale b now && decide (id ∉ ([] : List Uuid)))
  rw [← List.take_append_drop limit (List.insertionSort _ _), List.pairwise_append] at sorted
  simp only [staleHolds, List.mem_map, Prod.exists, exists_and_right, exists_eq_right] at took leaves
  obtain ⟨b', took⟩ := took
  have same := (Table.mem_select.mp ((List.mem_insertionSort _).mp (List.mem_of_mem_take took))).1
  cases found.symm.trans same
  refine sorted.2.2 _ took _ ?_
  have among : (left, c) ∈ (db.bookings.select fun id b =>
      stale b now && decide (id ∉ ([] : List Uuid))).insertionSort byDeadline :=
    (List.mem_insertionSort _).mpr (Table.mem_select.mpr ⟨here, by simp [isStale]⟩)
  rw [← List.take_append_drop limit (List.insertionSort _ _), List.mem_append] at among
  exact among.resolve_left fun first => leaves ⟨c, first⟩

/-- A sweep that leaves a row has taken a full batch. -/
theorem staleHolds_full {db : Db} {limit : Nat} {now : Instant} {left : Uuid} {c : Booking}
    (here : db.bookings.get? left = some c) (isStale : stale c now = true)
    (leaves : left ∉ staleHolds db limit now []) : (staleHolds db limit now []).length = limit := by
  simp only [staleHolds, List.length_map, List.length_take, List.length_insertionSort]
  refine min_eq_left (not_lt.mp fun short => leaves ?_)
  simp only [staleHolds, List.mem_map, Prod.exists, exists_and_right, exists_eq_right]
  refine ⟨c, ?_⟩
  rw [List.take_of_length_le (by simpa using short.le)]
  exact (List.mem_insertionSort _).mpr (Table.mem_select.mpr ⟨here, by simp [isStale]⟩)

/-- **One sweep** takes a batch of the rows that lapsed before `t`, or all of them. -/
theorem sweep_drains (db : Db) {t now : Instant} (later : t ≤ now) (actor : Actor) (reason : String) :
    (lapsedHolds (db.expire (staleHolds db sweeperBatchSize now []) now actor reason) t).length ≤
      (lapsedHolds db t).length - sweeperBatchSize := by
  set taken := staleHolds db sweeperBatchSize now []
  set db' := db.expire taken now actor reason
  have after : ∀ id, id ∈ lapsedHolds db' t ↔ id ∈ lapsedHolds db t ∧ id ∉ taken := by
    intro id
    simp only [mem_lapsedHolds]
    constructor
    · rintro ⟨b, found, isStale⟩
      obtain ⟨outside, before⟩ := expire_keeps found (stale_active isStale)
      exact ⟨⟨b, before, isStale⟩, outside⟩
    · rintro ⟨⟨b, found, isStale⟩, outside⟩
      exact ⟨b, expire_other found outside, isStale⟩
  cases remaining : lapsedHolds db' t with
  | nil => simp
  | cons left rest =>
      have stays : left ∈ lapsedHolds db' t := by simp [remaining]
      obtain ⟨lapsed, outside⟩ := (after left).mp stays
      obtain ⟨c, here, isStale⟩ := mem_lapsedHolds.mp lapsed
      have early : ∀ id ∈ taken, id ∈ lapsedHolds db t := by
        intro id took
        obtain ⟨b, found, held, past, -⟩ := mem_staleHolds took
        have order := taken_first took found here (stale_mono later isStale) outside
        refine mem_lapsedHolds.mpr ⟨b, found, ?_⟩
        simp only [stale, Booking.lapsedBefore, byDeadline, Bool.and_eq_true,
          decide_eq_true_eq] at isStale past order ⊢
        refine ⟨held, ?_⟩
        cases deadline : c.expiresAt with
        | none => simp [deadline] at isStale
        | some e =>
            cases due : b.expiresAt with
            | none => simp [due] at past
            | some d =>
                simp only [deadline, due, Option.getD_some, decide_eq_true_eq] at isStale order ⊢
                exact order.trans_lt isStale.2
      have full : taken.length = sweeperBatchSize :=
        staleHolds_full here (stale_mono later isStale) outside
      have nodup : (taken ++ lapsedHolds db' t).Nodup := by
        refine (staleHolds_nodup _ _ _ _).append (lapsedHolds_nodup _ _) fun id took left => ?_
        exact ((after id).mp left).2 took
      have within : taken ++ lapsedHolds db' t ⊆ lapsedHolds db t := by
        intro id here
        rcases List.mem_append.mp here with took | left
        · exact early id took
        · exact ((after id).mp left).1
      have counted := (nodup.subperm within).length_le
      rw [List.length_append, full, remaining] at counted
      omega

theorem sweep_committed (env : Env) (db : Db) (now : Instant) :
    (Txn.sweep now []).commit env db =
      db.expire (staleHolds db sweeperBatchSize now []) now systemActor "hold.expired.sweeper" := rfl

theorem sweeps_drain (env : Env) {t : Instant} : ∀ (times : List Instant) (db : Db),
    (∀ now ∈ times, t ≤ now) →
      (lapsedHolds (sweeps env db times) t).length ≤
        (lapsedHolds db t).length - sweeperBatchSize * times.length
  | [], db, _ => by simp [sweeps]
  | now :: times, db, later => by
      have first := sweep_drains db (later now List.mem_cons_self) systemActor
        "hold.expired.sweeper"
      have rest := sweeps_drain env times ((Txn.sweep now []).commit env db)
        fun s here => later s (List.mem_cons_of_mem now here)
      rw [sweep_committed] at rest
      rw [List.length_cons, Nat.mul_succ]
      show (lapsedHolds (sweeps env ((Txn.sweep now []).commit env db) times) t).length ≤ _
      rw [sweep_committed]
      omega

theorem sweeps_keep (env : Env) : ∀ (times : List Instant) (db : Db),
    (∀ id b, (sweeps env db times).bookings.get? id = some b → b.active = true →
        db.bookings.get? id = some b) ∧
      ∀ id b, db.bookings.get? id = some b → b.status = .pendingPayment →
        (sweeps env db times).bookings.get? id = some b
  | [], db => ⟨fun _ _ found _ => found, fun _ _ found _ => found⟩
  | now :: times, db => by
      obtain ⟨kept, paying⟩ := sweeps_keep env times ((Txn.sweep now []).commit env db)
      refine ⟨fun id b found active => (expire_keeps (kept id b found active) active).2,
        fun id b found status => paying id b (expire_other found fun took => ?_) status⟩
      obtain ⟨b', found', held, -⟩ := mem_staleHolds took
      cases found.symm.trans found'
      rw [status] at held
      cases held

/-- **Enough sweeps retire every held row** that lapsed before them. -/
theorem sweeps_retired (env : Env) (db : Db) (room : Uuid) (t : Instant) {times : List Instant}
    (later : ∀ now ∈ times, t ≤ now)
    (enough : (lapsedHolds db t).length ≤ sweeperBatchSize * times.length) :
    Retired db (sweeps env db times) room t := by
  obtain ⟨kept, paying⟩ := sweeps_keep env times db
  refine ⟨kept, paying, fun id b found _ => ?_⟩
  by_contra isStale
  rw [Bool.not_eq_false] at isStale
  have left : id ∈ lapsedHolds (sweeps env db times) t := mem_lapsedHolds.mpr ⟨b, found, isStale⟩
  have drained := sweeps_drain env times db later
  have some_left := List.length_pos_of_mem left
  omega

/-! ## Conflicts -/

theorem step_proper {env : Env} (a : Action) (api api' : Api)
    (stepped : step env a api = some api')
    (holds : RowsClaimed api ∧ ∀ id b, api.db.bookings.get? id = some b → b.startsAt < b.endsAt) :
    RowsClaimed api' ∧ ∀ id b, api'.db.bookings.get? id = some b → b.startsAt < b.endsAt := by
  refine ⟨step_claimed a api api' stepped holds.1, ?_⟩
  rcases step_bookings holds.1 stepped with same | ⟨_, _, _, -, -, change⟩
  · rw [same]
    exact holds.2
  · exact change.proper holds.2

/-- A lapsed booking over a period refuses a hold of that period. -/
theorem Retired.fairlyRefused_iff {db db' : Db} {room : Uuid} {t : Instant}
    (retired : Retired db db' room t)
    (proper : ∀ id b, db.bookings.get? id = some b → b.startsAt < b.endsAt) :
    FairlyRefused db' room t ↔ ¬ PaymentLapsed db room t := by
  rw [← retired.released_iff]
  constructor
  · intro fair id b found own active unconfirmed
    have order := proper id b (retired.kept id b found active)
    have conflict : (id, b) ∈ roomConflicts db' b := by
      refine Table.mem_select.mpr ⟨found, ?_⟩
      simp only [active, Booking.overlaps, Booking.slotEnd, Bool.true_and, decide_eq_true_eq,
        true_and]
      have gap : b.startsAt < b.endsAt + 15 * 60 * 1000 := by linarith
      exact ⟨gap, gap⟩
    exact (fair b own (id, b) conflict).resolve_left unconfirmed
  · rintro released row own ⟨id, c⟩ conflict
    obtain ⟨found, meets⟩ := Table.mem_select.mp conflict
    simp only [Bool.and_eq_true, Booking.overlaps, decide_eq_true_eq] at meets
    by_cases confirmed : c.status = .confirmed
    · exact .inl confirmed
    · exact .inr (released id c found (meets.2.1.trans own) meets.1 confirmed)

/-! ## Reachable states -/

/-- **The slot comes back exactly where no payment of the room has lapsed**: after
the expiry a hold starts with, after enough sweeps, and in what refuses a hold. -/
theorem slot_released_iff {env : Env} {now : Instant} {db : Db} (fresh : db.Fresh) {api : Api}
    (reached : Reachable (step env) (Api.start now db) api) (room : Uuid)
    (t : Instant) :
    (Released ((expireStaleHoldsForRoom room t).commit api.db) room t ↔
        ¬ PaymentLapsed api.db room t) ∧
      (FairlyRefused ((expireStaleHoldsForRoom room t).commit api.db) room t ↔
        ¬ PaymentLapsed api.db room t) ∧
      ∃ enough, ∀ times : List Instant, enough ≤ times.length → (∀ s ∈ times, t ≤ s) →
        (Released (sweeps env api.db times) room t ↔
          ¬ PaymentLapsed api.db room t) := by
  have holds : RowsClaimed api ∧
      ∀ id b, api.db.bookings.get? id = some b → b.startsAt < b.endsAt := by
    refine reached.invariant (I := fun api => RowsClaimed api ∧
      ∀ id b, api.db.bookings.get? id = some b → b.startsAt < b.endsAt)
      ⟨RowsClaimed.start now db, ?_⟩ step_proper
    simp [Api.start, fresh.1]
  have retired := expireStaleHoldsForRoom_retired api.db room t
  refine ⟨retired.released_iff, retired.fairlyRefused_iff holds.2,
    (lapsedHolds api.db t).length, fun times enough later => ?_⟩
  refine (sweeps_retired env api.db room t later (enough.trans ?_)).released_iff
  exact Nat.le_mul_of_pos_left _ (by decide)

/-- A hold whose payment was recorded, and whose charge was never sent. -/
def unreached : List Action :=
  Sample.holding 0 Sample.hold 7 0 ++
    [.payBegin 1 (Uuid.path 7) Sample.customer, .payRead 1, .payCommit 1 10 0, .abandon 1,
      .tick 481000]

theorem slot_released_iff_unreached : ∃ api,
    run (step .default) unreached (Api.start 0 Sample.db) = some api ∧
      (Released ((expireStaleHoldsForRoom Sample.room api.now).commit api.db) Sample.room api.now ↔
        ¬ PaymentLapsed api.db Sample.room api.now) := by
  have ran : (run (step .default) unreached (Api.start 0 Sample.db)).isSome := by decide +kernel
  obtain ⟨api, ran⟩ := Option.isSome_iff_exists.mp ran
  exact ⟨api, ran, (slot_released_iff Sample.db_fresh ⟨unreached, ran⟩ Sample.room api.now).1⟩

/-- **A slot that is kept**: the payment lapsed, and no expiry retires it. -/
theorem slot_kept : ¬ ∀ (env : Env) (now : Instant) (db : Db), db.Fresh → ∀ api,
    Reachable (step env) (Api.start now db) api → ∀ room,
      Released ((expireStaleHoldsForRoom room api.now).commit api.db) room api.now ∧
        ∃ enough, ∀ times : List Instant, enough ≤ times.length → (∀ t ∈ times, api.now ≤ t) →
          Released (sweeps env api.db times) room api.now := by
  intro claim
  have ran : ((run (step .default) unreached (Api.start 0 Sample.db)).map fun api =>
      (((expireStaleHoldsForRoom Sample.room api.now).commit api.db).bookings.get? 7).map fun b =>
        (b.roomId, b.status, b.lapsedBefore api.now)) =
      some (some (Sample.room, .pendingPayment, true)) := by
    decide +kernel
  obtain ⟨api, ran, row⟩ := Option.map_eq_some_iff.mp ran
  simp only [Option.map_eq_some_iff, Prod.mk.injEq] at row
  obtain ⟨b, found, own, status, lapsed⟩ := row
  have released := (claim .default 0 Sample.db Sample.db_fresh api ⟨unreached, ran⟩ Sample.room).1
  have free := released 7 b found own (by simp [Booking.active, status, activeBookingStatuses])
    (by simp [status])
  rw [lapsed] at free
  cases free

end Atrium
