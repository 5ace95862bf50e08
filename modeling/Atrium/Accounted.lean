/-
# Accounted -- what the reconciliation report proves

In a run in which the provider keeps its word, a captured charge is refunded, or stands
behind the one confirmed booking it paid for, or is outstanding; and past its grace the
report names it exactly where it is outstanding (`captured_reported_iff`).  So a report
without discrepancies is an account of the money: what was captured is what the confirmed
bookings cost, what was given back, and what partial refunds left with the venue
(`clean_report_balances`).
-/
import Atrium.Base.Aggregate
import Atrium.Accounts
import Atrium.Discrepancies
import Atrium.RefundsAsked

namespace Atrium

open Atrium.Base

set_option autoImplicit false

/-! ## Rows of the report -/

namespace ReconciliationQuery

variable {q : ReconciliationQuery} {db : Db}

/-- The check of a kind. -/
def check (q : ReconciliationQuery) (db : Db) : DiscrepancyKind → List Discrepancy
  | .captureWithoutConfirmation => q.captureWithoutConfirmation db
  | .confirmationWithoutCapture => q.confirmationWithoutCapture db
  | .doubleCapture => q.doubleCapture db
  | .refundWithoutCapture => q.refundWithoutCapture db
  | .refundInitiatedNotSettled => q.refundInitiatedNotSettled db
  | .refundAcceptedNotSettled => q.refundAcceptedNotSettled db
  | .chargeAcceptedNotSettled => q.chargeAcceptedNotSettled db
  | .overRefunded => q.overRefunded db
  | .unmatchedDelivery => q.unmatchedDelivery db

theorem check_kind {kind : DiscrepancyKind} {d : Discrepancy} (among : d ∈ q.check db kind) :
    d.kind = kind := by
  cases kind <;>
    simp only [check, captureWithoutConfirmation, confirmationWithoutCapture, doubleCapture,
      refundWithoutCapture, refundInitiatedNotSettled, refundAcceptedNotSettled,
      chargeAcceptedNotSettled, overRefunded, unmatchedDelivery, paymentDiscrepancies,
      List.mem_map] at among <;>
    obtain ⟨_, -, rfl⟩ := among <;> rfl

theorem mem_discrepancies {d : Discrepancy} :
    d ∈ q.discrepancies db ↔ d ∈ q.check db d.kind := by
  constructor
  · intro among
    have some_kind : ∃ kind, d ∈ q.check db kind := by
      simp only [discrepancies, List.mem_append] at among
      rcases among with (((((((among | among) | among) | among) | among) | among) | among) |
        among) | among
      · exact ⟨.captureWithoutConfirmation, among⟩
      · exact ⟨.confirmationWithoutCapture, among⟩
      · exact ⟨.doubleCapture, among⟩
      · exact ⟨.refundWithoutCapture, among⟩
      · exact ⟨.refundInitiatedNotSettled, among⟩
      · exact ⟨.refundAcceptedNotSettled, among⟩
      · exact ⟨.chargeAcceptedNotSettled, among⟩
      · exact ⟨.overRefunded, among⟩
      · exact ⟨.unmatchedDelivery, among⟩
    obtain ⟨kind, among⟩ := some_kind
    rwa [check_kind among]
  · intro among
    simp only [discrepancies, List.mem_append]
    cases kind : d.kind <;> rw [kind] at among <;> simp only [check] at among <;> simp [among]

theorem covers_spec {t : Instant} : q.covers t = true ↔ q.source ≤ t ∧ t < q.target := by
  simp [covers]

theorem mem_settled {row : (Uuid × Payment) × Booking} :
    row ∈ q.settled db ↔ db.payments.get? row.1.1 = some row.1.2 ∧
      q.covers row.1.2.createdAt = true ∧ db.bookings.get? row.1.2.bookingId = some row.2 := by
  obtain ⟨⟨id, p⟩, b⟩ := row
  simp only [settled, paymentsCreated, List.mem_filterMap, Option.map_eq_some_iff, Prod.exists,
    Prod.mk.injEq, covers_spec]
  constructor
  · rintro ⟨id', p', among, b', found, ⟨rfl, rfl⟩, rfl⟩
    obtain ⟨here, covered⟩ := Table.mem_select.mp among
    exact ⟨here, of_decide_eq_true covered, found⟩
  · rintro ⟨here, covered, found⟩
    exact ⟨id, p, Table.mem_select.mpr ⟨here, decide_eq_true covered⟩, b, found, ⟨rfl, rfl⟩, rfl⟩

theorem mem_paymentDiscrepancies {kind : DiscrepancyKind} {holds : Payment → Booking → Bool}
    {amount : Payment → Minor} {detail : Payment → Booking → String} {d : Discrepancy} :
    d ∈ q.paymentDiscrepancies db kind holds amount detail ↔
      ∃ id p b, db.payments.get? id = some p ∧ q.covers p.createdAt = true ∧
        db.bookings.get? p.bookingId = some b ∧ holds p b = true ∧
        d = ⟨kind, some p.bookingId, p.chargeId, some (amount p), detail p b, p.updatedAt⟩ := by
  simp only [paymentDiscrepancies, List.mem_map, List.mem_filter, mem_settled, Prod.exists]
  constructor
  · rintro ⟨id, p, b, ⟨⟨here, covered, found⟩, met⟩, rfl⟩
    exact ⟨id, p, b, here, covered, found, met, rfl⟩
  · rintro ⟨id, p, b, here, covered, found, met, rfl⟩
    exact ⟨id, p, b, ⟨⟨here, covered, found⟩, met⟩, rfl⟩

end ReconciliationQuery

/-! ## Captured money -/

/-- The payment stands behind its booking: it is banked, and the booking is confirmed. -/
def Stands (db : Db) (p : Payment) : Prop := p.Banked ∧ statusOf db p.bookingId = .confirmed

instance (db : Db) (p : Payment) : Decidable (Stands db p) := inferInstanceAs (Decidable (_ ∧ _))

/-- The kinds that say captured money is neither earned nor given back. -/
def outstandingKinds : List DiscrepancyKind :=
  [.captureWithoutConfirmation, .refundInitiatedNotSettled, .refundAcceptedNotSettled]

/-- The report has a row that says so of the payment's charge. -/
def ReconciliationQuery.Names (q : ReconciliationQuery) (db : Db) (p : Payment) : Prop :=
  ∃ d ∈ q.discrepancies db, d.kind ∈ outstandingKinds ∧ d.bookingId = some p.bookingId ∧
    d.chargeId = p.chargeId

theorem captured_iff {p : Payment} : captured p = true ↔ p.status = .succeeded ∨ p.status = .refunded := by
  simp [captured]

namespace Kept

variable {w : Provider} {api : Api} {q : ReconciliationQuery}

theorem charged (kept : Kept w api) {id : Uuid} {p : Payment}
    (here : api.db.payments.get? id = some p) (money : captured p = true) :
    ∃ c, p.chargeId = some c := by
  have status := (kept.tied.linked.ledgered.rows id p here).status
  cases charge : p.chargeId with
  | some c => exact ⟨c, rfl⟩
  | none =>
      rw [charge] at status
      rcases captured_iff.mp money with was | was <;> rw [was] at status <;> cases status

/-- A row of the three kinds is of a payment that is outstanding. -/
theorem outstanding (kept : Kept w api) {d : Discrepancy} (among : d ∈ q.discrepancies api.db)
    (kind : d.kind ∈ outstandingKinds) :
    ∃ id p, api.db.payments.get? id = some p ∧ d.chargeId = p.chargeId ∧ p.status ≠ .refunded ∧
      ¬ Stands api.db p := by
  rw [ReconciliationQuery.mem_discrepancies] at among
  simp only [outstandingKinds, List.mem_cons, List.not_mem_nil, or_false] at kind
  rcases kind with kind | kind | kind <;> rw [kind] at among <;>
    simp only [ReconciliationQuery.check, ReconciliationQuery.captureWithoutConfirmation,
      ReconciliationQuery.refundInitiatedNotSettled, ReconciliationQuery.refundAcceptedNotSettled,
      ReconciliationQuery.mem_paymentDiscrepancies] at among <;>
    obtain ⟨id, p, b, here, -, found, met, rfl⟩ := among <;>
    refine ⟨id, p, here, rfl, ?_⟩ <;>
    simp only [Bool.and_eq_true, decide_eq_true_eq, Option.isSome_iff_ne_none] at met
  · obtain ⟨⟨status, unconfirmed, -⟩, -⟩ := met
    refine ⟨by rw [status]; decide, fun stands => unconfirmed ?_⟩
    rw [← stands.2, statusOf_some found]
  · obtain ⟨⟨⟨minted, -⟩, unrefunded⟩, -⟩ := met
    exact ⟨unrefunded, fun stands => minted stands.1.2⟩
  · obtain ⟨⟨accepted, unrefunded⟩, -⟩ := met
    exact ⟨unrefunded, fun stands => kept.accounts.keyed id p here accepted stands.1.2⟩

/-- A captured payment that is outstanding past its grace has a row. -/
theorem named (kept : Kept w api) {id : Uuid} {p : Payment}
    (here : api.db.payments.get? id = some p) (money : captured p = true)
    (covered : q.covers p.createdAt = true) (overdue : q.overdue p.updatedAt = true)
    (unrefunded : p.status ≠ .refunded) (fallen : ¬ Stands api.db p) : q.Names api.db p := by
  have succeeded : p.status = .succeeded := (captured_iff.mp money).resolve_right unrefunded
  obtain ⟨b, found, -⟩ := kept.vouched.booked.priced id p here
  have row : ∀ kind ∈ outstandingKinds, (∃ d ∈ q.check api.db kind,
      d.bookingId = some p.bookingId ∧ d.chargeId = p.chargeId) → q.Names api.db p := by
    rintro kind outstanding ⟨d, among, own⟩
    obtain rfl := ReconciliationQuery.check_kind among
    exact ⟨d, ReconciliationQuery.mem_discrepancies.mpr among, outstanding, own⟩
  have uncompleted := kept.accounts.uncompleted _ b found
  by_cases confirmed : b.status = .confirmed
  · -- The booking keeps its room, so the payment must have a key.
    have minted : p.refundIdempotencyKey ≠ none := by
      intro unminted
      exact fallen ⟨⟨succeeded, unminted⟩, by rw [statusOf_some found, confirmed]⟩
    cases accepted : p.refundId with
    | none =>
        refine row .refundInitiatedNotSettled (by decide) ?_
        simp only [ReconciliationQuery.check, ReconciliationQuery.refundInitiatedNotSettled,
          ReconciliationQuery.mem_paymentDiscrepancies]
        refine ⟨_, ⟨id, p, b, here, covered, found, ?_, rfl⟩, rfl, rfl⟩
        simp [Option.isSome_iff_ne_none.mpr minted, accepted, unrefunded, overdue]
    | some r =>
        refine row .refundAcceptedNotSettled (by decide) ?_
        simp only [ReconciliationQuery.check, ReconciliationQuery.refundAcceptedNotSettled,
          ReconciliationQuery.mem_paymentDiscrepancies]
        refine ⟨_, ⟨id, p, b, here, covered, found, ?_, rfl⟩, rfl, rfl⟩
        simp [accepted, unrefunded, overdue]
  · refine row .captureWithoutConfirmation (by decide) ?_
    simp only [ReconciliationQuery.check, ReconciliationQuery.captureWithoutConfirmation,
      ReconciliationQuery.mem_paymentDiscrepancies]
    refine ⟨_, ⟨id, p, b, here, covered, found, ?_, rfl⟩, rfl, rfl⟩
    simp [succeeded, confirmed, uncompleted, overdue]

/-- **A confirmed booking has one banked payment**, of what it costs. -/
theorem payment (kept : Kept w api) {id : Uuid} {b : Booking}
    (found : api.db.bookings.get? id = some b) (confirmed : b.status = .confirmed) :
    ∃ row, (api.db.payments.select fun _ p => decide (p.Banked) && decide (p.bookingId = id)) = [row] ∧
      row.2.amountMinor = b.totalMinor := by
  obtain ⟨pid, p, here, own, succeeded, amount, unminted⟩ :=
    (kept.vouched.booked.confirmedRow kept.tied found confirmed).paid
  have banked : p.Banked := ⟨succeeded, unminted⟩
  refine ⟨(pid, p), Aggregate.select_singleton here (by simp [banked, own]) ?_, amount⟩
  intro pid' p' here' met
  simp only [Bool.and_eq_true, decide_eq_true_eq] at met
  exact kept.accounts.single _ _ _ _ here' here met.1 banked (met.2.trans own.symm)

end Kept

/-! ## The balance -/

def confirmedBookings (db : Db) : List (Uuid × Booking) :=
  db.bookings.select fun _ b => decide (b.status = .confirmed)

def refundedPayments (db : Db) : List (Uuid × Payment) :=
  db.payments.select fun _ p => decide (p.status = .refunded)

/-- What a refund left with the venue. -/
def Payment.withheld (p : Payment) : Minor := p.amountMinor - p.refundedMinor

/-- Captured, not refunded, and not behind a confirmed booking. -/
def outstandingPayments (db : Db) : List (Uuid × Payment) :=
  db.payments.select fun _ p => decide (p.status = .succeeded ∧ ¬ Stands db p)

theorem mem_confirmedBookings {db : Db} {id : Uuid} :
    id ∈ (confirmedBookings db).map Prod.fst ↔ statusOf db id = .confirmed := by
  simp only [confirmedBookings, List.mem_map, Prod.exists, Table.mem_select, decide_eq_true_eq]
  constructor
  · rintro ⟨_, b, ⟨found, confirmed⟩, rfl⟩
    rw [statusOf_some found, confirmed]
  · intro confirmed
    cases found : db.bookings.get? id with
    | none => simp [statusOf, found] at confirmed
    | some b => exact ⟨id, b, ⟨found, by rwa [statusOf_some found] at confirmed⟩, rfl⟩

section Balance

variable {w : Provider} {api : Api} {M : Type} [AddCommMonoid M]

/-- What the standing payments add up to, booking by booking. -/
theorem Kept.sum_standing (kept : Kept w api) {f : Payment → M} {g : Booking → M}
    (agree : ∀ p b, p.amountMinor = b.totalMinor → f p = g b) :
    ((api.db.payments.select fun _ p => decide (Stands api.db p)).map fun row => f row.2).sum =
      ((confirmedBookings api.db).map fun row => g row.2).sum := by
  let ids := (confirmedBookings api.db).map Prod.fst
  have distinct : ids.Nodup := api.db.bookings.unique.sublist (List.filter_sublist.map Prod.fst)
  have joined : (api.db.payments.select fun _ p => decide (Stands api.db p)) =
      (api.db.payments.rows.filter fun row => decide row.2.Banked).filter fun row =>
        decide (row.2.bookingId ∈ ids) := by
    rw [Table.select, List.filter_filter]
    refine List.filter_congr fun row _ => ?_
    rw [Bool.eq_iff_iff, Bool.and_eq_true, decide_eq_true_eq, decide_eq_true_eq, decide_eq_true_eq,
      mem_confirmedBookings, Stands, and_comm]
  rw [joined, Aggregate.sum_join distinct, List.map_map]
  refine congrArg List.sum (List.map_congr_left fun row among => ?_)
  obtain ⟨found, confirmed⟩ := Table.mem_select.mp among
  obtain ⟨payment, only, amount⟩ := kept.payment found (of_decide_eq_true confirmed)
  have single : ((api.db.payments.rows.filter fun row => decide row.2.Banked).filter fun payment =>
      decide (payment.2.bookingId = row.1)) = [payment] := by
    rw [List.filter_filter, ← only, Table.select]
    exact List.filter_congr fun _ _ => Bool.and_comm _ _
  simp only [Function.comp_apply, single, List.map_cons, List.map_nil, List.sum_cons, List.sum_nil,
    add_zero]
  exact agree _ _ amount

/-- **What was captured** is behind confirmed bookings, refunded, or outstanding. -/
theorem Kept.sum_captured (kept : Kept w api) {f : Payment → M} {g : Booking → M}
    (agree : ∀ p b, p.amountMinor = b.totalMinor → f p = g b) :
    ((api.db.payments.rows.filter fun row => captured row.2).map fun row => f row.2).sum =
      ((confirmedBookings api.db).map fun row => g row.2).sum +
        ((refundedPayments api.db).map fun row => f row.2).sum +
        ((outstandingPayments api.db).map fun row => f row.2).sum := by
  rw [← kept.sum_standing agree]
  simp only [refundedPayments, outstandingPayments, Table.select, Aggregate.sum_filter,
    ← List.sum_map_add]
  refine congrArg List.sum (List.map_congr_left fun row _ => ?_)
  by_cases stands : Stands api.db row.2
  · simp [captured, stands, stands.1.1]
  · cases status : row.2.status <;> simp [captured, stands, status]

end Balance

/-- All that was given back is of the refunded payments. -/
theorem Kept.refundedSum {w : Provider} {api : Api} (kept : Kept w api) :
    refundedSum api.db.payments.rows =
      ((refundedPayments api.db).map fun row => row.2.refundedMinor).sum := by
  rw [Atrium.refundedSum, refundedPayments, Table.select, Aggregate.sum_filter]
  refine congrArg List.sum (List.map_congr_left fun row among => ?_)
  have tracked := kept.tied.linked.ledgered.rows row.1 row.2 (Table.mem_rows.mp among)
  by_cases refunded : row.2.status = .refunded
  · rw [decide_eq_true refunded, if_pos rfl]
  · rw [decide_eq_false refunded, tracked.unrefunded refunded]
    rfl

/-! ## The report -/

instance : Std.Total latestObserved := ⟨fun d e => Int.le_total e.observedAt d.observedAt⟩

instance : IsTrans Discrepancy latestObserved := ⟨fun _ _ _ first second => Int.le_trans second first⟩

theorem label_injective : Function.Injective DiscrepancyKind.label := by
  intro kind kind' same
  cases kind <;> cases kind' <;> first | rfl | (simp [DiscrepancyKind.label] at same)

theorem sum_countsByKind (rows : List Discrepancy) :
    ((countsByKind rows).map Prod.snd).sum = rows.length := by
  have groups := Aggregate.sum_groups rows Discrepancy.kind fun _ => 1
  simpa [countsByKind, List.map_map, Function.comp_def, List.countP_eq_length_filter] using groups

/-- What a report says of the rows it was run over. -/
structure ReconciliationReport.Counts (r : ReconciliationReport) (rows : List Discrepancy) (limit : Nat) :
    Prop where
  count : r.discrepancyCount = rows.length
  returned : r.returned = min limit rows.length
  truncated : r.truncated = true ↔ limit < rows.length
  byKind : ∀ kind n, (DiscrepancyKind.label kind, n) ∈ r.byKind ↔
    0 < n ∧ n = rows.countP fun d => d.kind = kind
  /-- What is not listed is no newer than what is. -/
  newest : ∃ rest, (r.discrepancies ++ rest).Perm rows ∧ r.discrepancies.Pairwise latestObserved ∧
    ∀ d ∈ r.discrepancies, ∀ e ∈ rest, latestObserved d e

theorem run_discrepancyCount (q : ReconciliationQuery) (limit : Nat) (db : Db) :
    (q.run limit db).discrepancyCount = (q.discrepancies db).length := by
  simp only [ReconciliationQuery.run, sum_countsByKind]

/-- **The headline number counts every discrepancy**, whatever the limit, and the rows that
are listed are the newest. -/
theorem report_counts_all (q : ReconciliationQuery) (limit : Nat) (db : Db) :
    (q.run limit db).Counts (q.discrepancies db) limit := by
  have returned : (q.run limit db).returned = min limit (q.discrepancies db).length := by
    simp [ReconciliationQuery.run, List.length_insertionSort]
  refine ⟨run_discrepancyCount q limit db, returned, ?_, ?_, ?_⟩
  · simp only [ReconciliationQuery.run, sum_countsByKind, List.length_take,
      List.length_insertionSort, decide_eq_true_eq]
    omega
  · intro kind n
    simp only [ReconciliationQuery.run, countsByKind, List.map_map, List.mem_map, List.mem_dedup,
      Function.comp_apply, Prod.mk.injEq]
    constructor
    · rintro ⟨_, ⟨d, among, rfl⟩, same, rfl⟩
      obtain rfl := label_injective same
      exact ⟨List.countP_pos_iff.mpr ⟨d, among, by simp⟩, rfl⟩
    · rintro ⟨positive, rfl⟩
      obtain ⟨d, among, same⟩ := List.countP_pos_iff.mp positive
      exact ⟨kind, ⟨d, among, of_decide_eq_true same⟩, rfl, rfl⟩
  · have sorted := (q.discrepancies db).pairwise_insertionSort latestObserved
    rw [← List.take_append_drop limit ((q.discrepancies db).insertionSort latestObserved)] at sorted
    obtain ⟨listed, -, apart⟩ := List.pairwise_append.mp sorted
    refine ⟨((q.discrepancies db).insertionSort latestObserved).drop limit, ?_, listed, apart⟩
    simp only [ReconciliationQuery.run, List.take_append_drop]
    exact List.perm_insertionSort _ _

/-! ## Every state -/

/-- **A captured charge past its grace is reported exactly where it is outstanding**: it is
not refunded, and stands behind no confirmed booking. -/
theorem captured_reported_iff {w : Provider} {env : Env} {now : Instant} {db : Db}
    (fresh : db.Fresh) {api : Api}
    (reached : ReachableAlong (step env) w.Keeps (Api.start now db) api)
    (q : ReconciliationQuery) {id : Uuid} {p : Payment}
    (here : api.db.payments.get? id = some p) (money : captured p = true)
    (covered : q.covers p.createdAt = true) (overdue : q.overdue p.updatedAt = true) :
    q.Names api.db p ↔ p.status ≠ .refunded ∧ ¬ Stands api.db p := by
  have kept := kept_of_reachable fresh reached
  constructor
  · rintro ⟨d, among, kind, -, charge⟩
    obtain ⟨c, charged⟩ := kept.charged here money
    obtain ⟨id', p', here', charge', outstanding⟩ := kept.outstanding among kind
    rw [charge, charged] at charge'
    obtain rfl := kept.tied.gated.distinct id p id' p' c here here' charged charge'.symm
    cases here.symm.trans here'
    exact outstanding
  · rintro ⟨unrefunded, fallen⟩
    exact kept.named here money covered overdue unrefunded fallen

namespace Sample

/-- A hold paid for and confirmed, and cancelled before its refund is settled. -/
def cancelledUnsettled : List Action :=
  capturedInTime ++ [.cancel 3 (Uuid.path 7) "changed plans" customer 0]

/-- The first instant, looked at from the next one. -/
def firstInstant : ReconciliationQuery := ⟨0, 1, 0, 1⟩

end Sample

/-- Until its key is minted, the cancelled booking's charge is on the report. -/
theorem captured_reported_iff_cancelled : ∃ api p,
    run (step .default) Sample.cancelledUnsettled (Api.start 0 Sample.db) = some api ∧
      api.db.payments.get? 8 = some p ∧ Sample.firstInstant.Names api.db p := by
  have ran : ((run (step .default) Sample.cancelledUnsettled (Api.start 0 Sample.db)).bind fun api =>
      (api.db.payments.get? 8).map fun p => (p.createdAt, p.updatedAt, p.status,
        decide (Stands api.db p))) = some (0, 0, .succeeded, false) := by
    decide +kernel
  have along : Along (step .default) Sample.paygate.Keeps Sample.cancelledUnsettled
      (Api.start 0 Sample.db) := by
    decide +kernel
  obtain ⟨api, ran, found⟩ := Option.bind_eq_some_iff.mp ran
  obtain ⟨p, here, seen⟩ := Option.map_eq_some_iff.mp found
  simp only [Prod.mk.injEq, decide_eq_false_iff_not] at seen
  obtain ⟨created, updated, succeeded, fallen⟩ := seen
  refine ⟨api, p, ran, here, ?_⟩
  refine (captured_reported_iff Sample.db_fresh ⟨Sample.cancelledUnsettled, ran, along⟩
    Sample.firstInstant here (captured_iff.mpr (.inl succeeded)) ?_ ?_).mpr
      ⟨by rw [succeeded]; decide, fallen⟩
  · rw [created]
    decide
  · rw [updated]
    decide

/-- **A clean report balances.**  In every state, what was captured is what the confirmed
bookings cost, what was given back, what refunds left with the venue and what is
outstanding, and each confirmed booking has one payment of it; where the report covers the
captured payments and counts nothing, nothing is outstanding. -/
theorem clean_report_balances {w : Provider} {env : Env} {now : Instant} {db : Db}
    (fresh : db.Fresh) {api : Api}
    (reached : ReachableAlong (step env) w.Keeps (Api.start now db) api) :
    capturedSum api.db.payments.rows =
        ((confirmedBookings api.db).map fun row => row.2.totalMinor).sum +
          refundedSum api.db.payments.rows +
          ((refundedPayments api.db).map fun row => row.2.withheld).sum +
          ((outstandingPayments api.db).map fun row => row.2.amountMinor).sum ∧
      (∀ row ∈ refundedPayments api.db, 0 ≤ row.2.withheld) ∧
      (api.db.payments.rows.filter fun row => captured row.2).length =
        (confirmedBookings api.db).length + (refundedPayments api.db).length +
          (outstandingPayments api.db).length ∧
      (∀ id b, api.db.bookings.get? id = some b → b.status = .confirmed →
        ∃! pid, ∃ p, api.db.payments.get? pid = some p ∧ p.bookingId = id ∧ p.Banked) ∧
      ∀ (q : ReconciliationQuery) limit,
        (∀ id p, api.db.payments.get? id = some p → captured p = true →
          q.covers p.createdAt = true ∧ q.overdue p.updatedAt = true) →
        (q.run limit api.db).discrepancyCount = 0 → outstandingPayments api.db = [] := by
  have kept := kept_of_reachable fresh reached
  refine ⟨?_, ?_, ?_, ?_, ?_⟩
  · have whole : capturedSum api.db.payments.rows = _ :=
      kept.sum_captured (f := Payment.amountMinor) (g := Booking.totalMinor) fun _ _ same => same
    have split := Aggregate.sum_sub (refundedPayments api.db) (fun row => row.2.amountMinor)
      fun row => row.2.refundedMinor
    change ((refundedPayments api.db).map fun row => row.2.withheld).sum = _ at split
    rw [whole, split, kept.refundedSum]
    ring
  · intro row among
    obtain ⟨here, refunded⟩ := Table.mem_select.mp among
    have within := (kept.tied.linked.ledgered.rows row.1 row.2 here).within (of_decide_eq_true refunded)
    exact sub_nonneg.mpr within
  · have counted := kept.sum_captured (f := fun _ => 1) (g := fun _ => 1) fun _ _ _ => rfl
    simpa using counted
  · intro id b found confirmed
    obtain ⟨⟨pid, p⟩, only, -⟩ := kept.payment found confirmed
    have among : ∀ pid' p', (pid', p') ∈ [(pid, p)] ↔
        api.db.payments.get? pid' = some p' ∧ p'.Banked ∧ p'.bookingId = id := by
      intro pid' p'
      rw [← only, Table.mem_select, Bool.and_eq_true, decide_eq_true_eq, decide_eq_true_eq]
    refine ⟨pid, ?_, ?_⟩
    · obtain ⟨here, banked, own⟩ := (among pid p).mp (by simp)
      exact ⟨p, here, own, banked⟩
    · rintro pid' ⟨p', here, own, banked⟩
      have same := (among pid' p').mpr ⟨here, banked, own⟩
      simp only [List.mem_singleton, Prod.mk.injEq] at same
      exact same.1
  · intro q limit covers clean
    rw [run_discrepancyCount, List.length_eq_zero_iff] at clean
    refine List.eq_nil_iff_forall_not_mem.mpr fun ⟨id, p⟩ among => ?_
    obtain ⟨here, out⟩ := Table.mem_select.mp among
    obtain ⟨succeeded, fallen⟩ := of_decide_eq_true out
    have money := captured_iff.mpr (.inl succeeded)
    obtain ⟨covered, overdue⟩ := covers id p here money
    obtain ⟨d, row, -⟩ := kept.named here money covered overdue (by rw [succeeded]; decide) fallen
    rw [clean] at row
    cases row

namespace Sample

/-- Half of the price back, however late. -/
def halfTiers : Tiers := ⟨[⟨0, 50, 50⟩], by decide +kernel⟩

/-- A booking paid for, cancelled under the half, and refunded. -/
def halfRefunded : List Action :=
  let charge := chargeKey (Uuid.text 7)
  let captured : WebhookEvent := ⟨charge, .chargeSucceeded, some (Uuid.text 7), none, none⟩
  [.addPolicy 12 (some 1) halfTiers 0] ++ holding 0 hold 7 0 ++
    [.payBegin 1 (Uuid.path 7) customer, .payRead 1, .payCommit 1 8 0, .sendCharge 1,
      .deliver (settlement "d_1" captured) 9 0, .apply 2 9 0, .answerCharge 1 charge,
      .bindCharge 1 0, .cancel 3 (Uuid.path 7) "changed plans" customer 0,
      .settleCancellation 3 12 0, .sendRefund 3, .answerRefund 3 (.ok (refundKey charge)),
      .recordRefund 3 "" 0, .tick 60000, .selectRefund 4 8, .pollRefund 4 none 3000 60000]

/-- The first instant, looked at a minute later. -/
def minuteLater : ReconciliationQuery := ⟨0, 1, 0, 60001⟩

end Sample

/-- Of 6000 captured, 3000 were given back and 3000 stayed with the venue. -/
theorem clean_report_balances_halfRefunded : ∃ api,
    run (step .default) Sample.halfRefunded (Api.start 0 Sample.db) = some api ∧
      capturedSum api.db.payments.rows = 6000 ∧ refundedSum api.db.payments.rows = 3000 ∧
      ((refundedPayments api.db).map fun row => row.2.withheld).sum = 3000 ∧
      outstandingPayments api.db = [] := by
  have ran : ((run (step .default) Sample.halfRefunded (Api.start 0 Sample.db)).map fun api =>
      (capturedSum api.db.payments.rows, refundedSum api.db.payments.rows,
        (confirmedBookings api.db).length, (Sample.minuteLater.run 5 api.db).discrepancyCount,
        api.db.payments.rows.all fun row => Sample.minuteLater.covers row.2.createdAt &&
          Sample.minuteLater.overdue row.2.updatedAt)) = some (6000, 3000, 0, 0, true) := by
    decide +kernel
  have along : Along (step .default) Sample.paygate.Keeps Sample.halfRefunded
      (Api.start 0 Sample.db) := by
    decide +kernel
  obtain ⟨api, ran, seen⟩ := Option.map_eq_some_iff.mp ran
  simp only [Prod.mk.injEq, List.all_eq_true, Bool.and_eq_true] at seen
  obtain ⟨whole, back, unconfirmed, clean, covers⟩ := seen
  obtain ⟨balance, -, -, -, nothing⟩ :=
    clean_report_balances Sample.db_fresh ⟨Sample.halfRefunded, ran, along⟩
  have empty := nothing Sample.minuteLater 5
    (fun id p here _ => covers (id, p) (Table.mem_rows.mpr here)) clean
  rw [List.length_eq_zero_iff] at unconfirmed
  rw [empty, unconfirmed, whole, back] at balance
  refine ⟨api, ran, whole, back, ?_, empty⟩
  simp only [List.map_nil, List.sum_nil] at balance
  linarith only [balance]

/-! ## What is never reported -/

section Never

variable {w : Provider} {api : Api} {q : ReconciliationQuery}

theorem step_spelled {env : Env} {a : Action} {api api' : Api} (stepped : step env a api = some api')
    (polls : PollsBound api) (spelled : Spelled api.db) : Spelled api'.db := by
  rcases step_db stepped with same | ⟨c, out, commits, -, effect⟩
  · exact same ▸ spelled
  · exact effect.spelled (commits.pollBound polls) spelled

/-- A confirmed booking has its payment, and none is ever completed. -/
theorem Kept.no_confirmationWithoutCapture (kept : Kept w api) :
    q.confirmationWithoutCapture api.db = [] := by
  simp only [ReconciliationQuery.confirmationWithoutCapture, List.map_eq_nil_iff]
  refine List.eq_nil_iff_forall_not_mem.mpr fun ⟨id, b⟩ among => ?_
  obtain ⟨found, met⟩ := Table.mem_select.mp among
  simp only [Bool.and_eq_true, decide_eq_true_eq, List.isEmpty_iff] at met
  obtain ⟨⟨⟨status, -⟩, -⟩, none_⟩ := met
  have confirmed := status.resolve_right (kept.accounts.uncompleted id b found)
  obtain ⟨pid, p, here, own, succeeded, -⟩ :=
    (kept.vouched.booked.confirmedRow kept.tied found confirmed).paid
  have row : (pid, p) ∈ (api.db.payments.select fun _ p =>
      decide (p.bookingId = id) && captured p) := by
    refine Table.mem_select.mpr ⟨here, ?_⟩
    simp [own, captured, succeeded]
  rw [none_] at row
  cases row

/-- What was given back is of a charge that was captured. -/
theorem Kept.no_refundWithoutCapture (kept : Kept w api) : q.refundWithoutCapture api.db = [] := by
  refine List.eq_nil_iff_forall_not_mem.mpr fun d among => ?_
  simp only [ReconciliationQuery.refundWithoutCapture, ReconciliationQuery.mem_paymentDiscrepancies,
    Bool.and_eq_true, decide_eq_true_eq, Bool.not_eq_true'] at among
  obtain ⟨id, p, b, here, -, -, ⟨given, unrecorded⟩, -⟩ := among
  have tracked := kept.tied.linked.ledgered.rows id p here
  have refunded : p.status = .refunded := by
    rcases given with refunded | positive
    · exact refunded
    · by_contra other
      rw [tracked.unrefunded other] at positive
      exact absurd positive (by decide)
  obtain ⟨c, charge⟩ := kept.charged here (captured_iff.mpr (.inr refunded))
  have told : ⟨c, .refundSucceeded⟩ ∈ api.db.paymentEvents := by
    have status := tracked.status
    rw [refunded, charge] at status
    by_contra absent
    simp only [statusFrom, absent, if_false] at status
    split_ifs at status
  have applied := kept.tied.linked.ledgered.coherent.refunded c told
  simp [ReconciliationQuery.captureRecorded, charge, applied] at unrecorded

/-- No more is given back than was charged. -/
theorem Kept.no_overRefunded (kept : Kept w api) (safe : AskingSafe api) :
    q.overRefunded api.db = [] := by
  refine List.eq_nil_iff_forall_not_mem.mpr fun d among => ?_
  simp only [ReconciliationQuery.overRefunded, ReconciliationQuery.mem_paymentDiscrepancies,
    decide_eq_true_eq] at among
  obtain ⟨id, p, b, here, -, found, more, -⟩ := among
  have tracked := kept.tied.linked.ledgered.rows id p here
  by_cases refunded : p.status = .refunded
  · exact absurd (tracked.within refunded) (not_le.mpr more)
  · obtain ⟨b', found', amount⟩ := safe.priced id p here
    cases found.symm.trans found'
    have worth := (safe.safe.priced.within safe.rates found).1
    rw [tracked.unrefunded refunded, amount] at more
    exact absurd worth (not_le.mpr more)

/-- Two captured payments of a booking, minted under two spellings of its id. -/
def CapturedTwice (db : Db) (bookingId : Uuid) : Prop :=
  ∃ (id id' : Uuid) (p p' : Payment) (s t : UuidText), id ≠ id' ∧
    (db.payments.get? id = some p ∧ captured p = true ∧ p.bookingId = bookingId ∧
      s.value = bookingId ∧ p.idempotencyKey = chargeKey s.text) ∧
    (db.payments.get? id' = some p' ∧ captured p' = true ∧ p'.bookingId = bookingId ∧
      t.value = bookingId ∧ p'.idempotencyKey = chargeKey t.text) ∧ s.text ≠ t.text

/-- Two settled payments of a booking are under two spellings of its id. -/
theorem Kept.doubleCapture_spelled (kept : Kept w api) (spelled : Spelled api.db) {d : Discrepancy}
    (among : d ∈ q.doubleCapture api.db) :
    ∃ bookingId, d.bookingId = some bookingId ∧ CapturedTwice api.db bookingId := by
  simp only [ReconciliationQuery.doubleCapture, List.mem_map, List.mem_filter,
    decide_eq_true_eq] at among
  obtain ⟨group, ⟨⟨bookingId, -, rfl⟩, many⟩, rfl⟩ := among
  have rows : ∀ row ∈ (((q.settled api.db).map Prod.fst).filter fun row => captured row.2).filter
      (fun row => decide (row.2.bookingId = bookingId)),
      api.db.payments.get? row.1 = some row.2 ∧ captured row.2 = true ∧
        row.2.bookingId = bookingId := by
    intro row among
    obtain ⟨among, own⟩ := List.mem_filter.mp among
    obtain ⟨among, money⟩ := List.mem_filter.mp among
    obtain ⟨joined, member, rfl⟩ := List.mem_map.mp among
    exact ⟨(ReconciliationQuery.mem_settled.mp member).1, money, of_decide_eq_true own⟩
  have distinct : ((((q.settled api.db).map Prod.fst).filter fun row => captured row.2).filter
      fun row => decide (row.2.bookingId = bookingId)).Nodup := by
    have keys : ((q.settled api.db).map Prod.fst).Nodup := by
      rw [ReconciliationQuery.settled, List.map_filterMap]
      refine List.Nodup.filterMap ?_ (api.db.payments.unique.of_map.filter _)
      intro row row' joined first second
      simp only [Option.map_map, Option.mem_def, Option.map_eq_some_iff, Function.comp_apply] at first second
      obtain ⟨-, -, rfl⟩ := first
      obtain ⟨-, -, rfl⟩ := second
      rfl
    exact (keys.filter _).filter _
  generalize (((q.settled api.db).map Prod.fst).filter fun row => captured row.2).filter
    (fun row => decide (row.2.bookingId = bookingId)) = group at rows distinct many ⊢
  rcases group with _ | ⟨x, _ | ⟨y, rest⟩⟩
  · simp at many
  · simp at many
  · obtain ⟨hereX, moneyX, ownX⟩ := rows x (by simp)
    obtain ⟨hereY, moneyY, ownY⟩ := rows y (by simp)
    obtain ⟨s, valueS, keyS⟩ := spelled _ _ hereX
    obtain ⟨t, valueT, keyT⟩ := spelled _ _ hereY
    have apart : x.1 ≠ y.1 := by
      intro one
      rw [one] at hereX
      have alike : x = y := Prod.ext one (Option.some.inj (hereX.symm.trans hereY))
      simp [alike] at distinct
    refine ⟨bookingId, rfl, x.1, y.1, x.2, y.2, s, t, apart, ⟨hereX, moneyX, ownX, valueS.trans ownX, keyS⟩,
      ⟨hereY, moneyY, ownY, valueT.trans ownY, keyT⟩, fun same => apart ?_⟩
    exact kept.tied.linked.ledgered.keys x.1 x.2 y.1 y.2 (chargeKey s.text) hereX hereY
      (congrArg some keyS) (congrArg some (by rw [keyT, same]))

end Never

/-- **Four kinds the report cannot have**, where the provider keeps its word: no booking is
confirmed without a capture, nothing is refunded without one or over it, and a booking has
two captured payments only under two spellings of its id. -/
theorem never_reported {w : Provider} {env : Env} {now : Instant} {db : Db} (fresh : db.Fresh)
    (rates : Rates db) {api : Api}
    (reached : ReachableAlong (step env) w.Keeps (Api.start now db) api) (q : ReconciliationQuery) :
    (∀ d ∈ q.discrepancies api.db, d.kind ∉
        [DiscrepancyKind.confirmationWithoutCapture, .refundWithoutCapture, .overRefunded]) ∧
      ∀ d ∈ q.discrepancies api.db, d.kind = .doubleCapture →
        ∃ bookingId, d.bookingId = some bookingId ∧ CapturedTwice api.db bookingId := by
  have kept := kept_of_reachable fresh reached
  have safe : AskingSafe api :=
    reached.reachable.invariant (.start fresh rates now) fun _ _ _ => step_asking
  constructor
  · intro d among kind
    rw [ReconciliationQuery.mem_discrepancies] at among
    simp only [List.mem_cons, List.not_mem_nil, or_false] at kind
    rcases kind with kind | kind | kind <;> rw [kind] at among <;>
      simp only [ReconciliationQuery.check] at among
    · rw [kept.no_confirmationWithoutCapture] at among
      cases among
    · rw [kept.no_refundWithoutCapture] at among
      cases among
    · rw [kept.no_overRefunded safe] at among
      cases among
  · intro d among kind
    rw [ReconciliationQuery.mem_discrepancies, kind] at among
    have spelled : PollsBound api ∧ Spelled api.db := by
      refine reached.reachable.invariant (I := fun api => PollsBound api ∧ Spelled api.db)
        ⟨.start now db, fun id p here => ?_⟩ fun a s s' stepped holds =>
          ⟨step_pollsBound a s s' stepped holds.1, step_spelled stepped holds.1 holds.2⟩
      simp [Api.start, fresh.2.2.1] at here
    exact kept.doubleCapture_spelled spelled.2 among

theorem never_reported_cancelled : ∃ api,
    run (step .default) Sample.cancelledUnsettled (Api.start 0 Sample.db) = some api ∧
      (Sample.firstInstant.discrepancies api.db).length = 1 ∧
      ∀ d ∈ Sample.firstInstant.discrepancies api.db, d.kind ∉
        [DiscrepancyKind.confirmationWithoutCapture, .refundWithoutCapture, .overRefunded] := by
  have ran : ((run (step .default) Sample.cancelledUnsettled (Api.start 0 Sample.db)).map fun api =>
      (Sample.firstInstant.discrepancies api.db).length) = some 1 := by
    decide +kernel
  have along : Along (step .default) Sample.paygate.Keeps Sample.cancelledUnsettled
      (Api.start 0 Sample.db) := by
    decide +kernel
  obtain ⟨api, ran, one⟩ := Option.map_eq_some_iff.mp ran
  exact ⟨api, ran, one, (never_reported Sample.db_fresh Sample.db_rates
    ⟨Sample.cancelledUnsettled, ran, along⟩ Sample.firstInstant).1⟩

end Atrium
