/-
# MoneyKept -- the net of the revenue report against the payments

What a venue keeps of a booking is what was captured for it less what was given back,
which is also what the reconciliation totals say of the same payments.  The report's
net takes the two from different rows: the gross from bookings that are CONFIRMED or
COMPLETED, the refunds from all of them.  The difference is what was captured on
payments that no such booking stands for (`moneyKept_eq`).
-/
import Atrium.Base.Aggregate
import Atrium.Api
import Atrium.Reports

namespace Atrium

open Atrium.Base

set_option autoImplicit false

/-! ## What is kept -/

def kept (p : Payment) : Minor := if captured p then p.amountMinor - p.refundedMinor else 0

def paymentsOf (db : Db) (bookingId : Uuid) : List (Uuid × Payment) :=
  db.payments.select fun _ p => decide (p.bookingId = bookingId)

/-- Captured less refunded, over the bookings in range. -/
def moneyKept (db : Db) (venueId : Uuid) (query : RevenueReportQuery) : Minor :=
  ((bookingsInRange db venueId query).map fun row =>
    ((paymentsOf db row.1).map fun payment => kept payment.2).sum).sum

/-- A captured payment the gross does not stand for: it was refunded, or its booking is
not one the venue is owed for. -/
def unearned (b : Booking) (p : Payment) : Bool :=
  decide (p.status = .refunded) || (decide (p.status = .succeeded) && !earned b)

/-- What was captured on such payments. -/
def unearnedCaptures (db : Db) (venueId : Uuid) (query : RevenueReportQuery) : Minor :=
  ((bookingsInRange db venueId query).map fun row =>
    (((paymentsOf db row.1).filter fun payment => unearned row.2 payment.2).map fun payment =>
      payment.2.amountMinor).sum).sum

/-- Every booking the venue is owed for has one payment, of its total; money given back
was given back by a refund that has settled. -/
structure Settled (db : Db) : Prop where
  paid : ∀ id b, db.bookings.get? id = some b → earned b = true → ∃ payment,
    (paymentsOf db id).filter (fun row => decide (row.2.status = .succeeded)) = [payment] ∧
      payment.2.amountMinor = b.totalMinor
  refunded : ∀ id p, db.payments.get? id = some p → p.refundedMinor ≠ 0 → p.status = .refunded

/-! ## By booking -/

theorem mem_paymentsOf {db : Db} {bookingId : Uuid} {row : Uuid × Payment}
    (among : row ∈ paymentsOf db bookingId) : db.payments.get? row.1 = some row.2 :=
  (Table.mem_select.mp among).1

theorem inRange_iff {db : Db} {venueId : Uuid} {query : RevenueReportQuery} {id : Uuid} :
    (db.bookings.get? id).any (inRange venueId query) = true ↔
      id ∈ (bookingsInRange db venueId query).map Prod.fst := by
  simp only [Option.any_eq_true, List.mem_map, bookingsInRange]
  constructor
  · rintro ⟨b, found, holds⟩
    exact ⟨(id, b), Table.mem_select.mpr ⟨found, holds⟩, rfl⟩
  · rintro ⟨⟨_, b⟩, among, rfl⟩
    obtain ⟨found, holds⟩ := Table.mem_select.mp among
    exact ⟨b, found, holds⟩

theorem nodup_bookingsInRange (db : Db) (venueId : Uuid) (query : RevenueReportQuery) :
    ((bookingsInRange db venueId query).map Prod.fst).Nodup :=
  db.bookings.unique.sublist (List.filter_sublist.map Prod.fst)

/-- A sum over the join with payments is one booking by booking. -/
theorem sum_paymentsInRange (db : Db) (venueId : Uuid) (query : RevenueReportQuery)
    (f : Uuid × Payment → Minor) :
    ((paymentsInRange db venueId query).map f).sum =
      ((bookingsInRange db venueId query).map fun row => ((paymentsOf db row.1).map f).sum).sum := by
  have joined : paymentsInRange db venueId query = db.payments.rows.filter fun row =>
      decide (row.2.bookingId ∈ (bookingsInRange db venueId query).map Prod.fst) := by
    refine List.filter_congr fun row _ => ?_
    rw [Bool.eq_iff_iff, inRange_iff, decide_eq_true_eq]
  rw [joined, Aggregate.sum_join (nodup_bookingsInRange db venueId query), List.map_map]
  rfl

/-- The amount of the payment a booking is owed for. -/
def earnedAmount (b : Booking) (p : Payment) : Minor :=
  if p.status = .succeeded ∧ earned b = true then p.amountMinor else 0

theorem kept_eq {db : Db} (settled : Settled db) (b : Booking) {row : Uuid × Payment}
    (found : db.payments.get? row.1 = some row.2) :
    kept row.2 = earnedAmount b row.2 +
      (if unearned b row.2 = true then row.2.amountMinor else 0) - row.2.refundedMinor := by
  have returned := settled.refunded row.1 row.2 found
  unfold kept captured earnedAmount unearned
  cases status : row.2.status <;> simp only [status] at returned ⊢ <;> cases earned b <;>
    simp <;> grind

theorem sum_earnedAmount {db : Db} (settled : Settled db) {id : Uuid} {b : Booking}
    (found : db.bookings.get? id = some b) :
    ((paymentsOf db id).map fun row => earnedAmount b row.2).sum =
      if earned b then b.totalMinor else 0 := by
  by_cases owed : earned b = true
  · obtain ⟨payment, only, amount⟩ := settled.paid id b found owed
    have split := Aggregate.sum_filter (paymentsOf db id)
      (fun row => decide (row.2.status = .succeeded)) (fun row => row.2.amountMinor)
    rw [only] at split
    simp only [earnedAmount, owed, and_true, if_true]
    rw [← amount]
    simpa using split.symm
  · simp [earnedAmount, owed]

theorem kept_of_booking {db : Db} (settled : Settled db) {id : Uuid} {b : Booking}
    (found : db.bookings.get? id = some b) :
    ((paymentsOf db id).map fun row => kept row.2).sum =
      (if earned b then b.totalMinor else 0) +
        (((paymentsOf db id).filter fun row => unearned b row.2).map fun row =>
          row.2.amountMinor).sum -
        ((paymentsOf db id).map fun row => row.2.refundedMinor).sum := by
  have pointwise : ((paymentsOf db id).map fun row => kept row.2) =
      (paymentsOf db id).map fun row => earnedAmount b row.2 +
        (if unearned b row.2 = true then row.2.amountMinor else 0) - row.2.refundedMinor :=
    List.map_congr_left fun row among => kept_eq settled b (mem_paymentsOf among)
  rw [pointwise, Aggregate.sum_sub, List.sum_map_add, sum_earnedAmount settled found,
    Aggregate.sum_filter]

/-! ## The report -/

/-- **The money kept is the report's net and the captures its gross leaves out.** -/
theorem moneyKept_eq {db : Db} (settled : Settled db) (venueId : Uuid)
    (query : RevenueReportQuery) :
    moneyKept db venueId query =
      grossMinor (bookingsInRange db venueId query) -
          refundedSum (paymentsInRange db venueId query) +
        unearnedCaptures db venueId query := by
  have rows : ((bookingsInRange db venueId query).map fun row =>
      ((paymentsOf db row.1).map fun payment => kept payment.2).sum) =
      (bookingsInRange db venueId query).map fun row =>
        (if earned row.2 then row.2.totalMinor else 0) +
          (((paymentsOf db row.1).filter fun payment => unearned row.2 payment.2).map fun payment =>
            payment.2.amountMinor).sum -
          ((paymentsOf db row.1).map fun payment => payment.2.refundedMinor).sum :=
    List.map_congr_left fun row among => kept_of_booking settled (Table.mem_select.mp among).1
  have gross : grossMinor (bookingsInRange db venueId query) =
      ((bookingsInRange db venueId query).map fun row =>
        if earned row.2 then row.2.totalMinor else 0).sum :=
    Aggregate.sum_filter _ _ _
  have back := sum_paymentsInRange db venueId query fun row => row.2.refundedMinor
  rw [moneyKept, rows, Aggregate.sum_sub, List.sum_map_add, ← gross, ← back]
  rw [unearnedCaptures, refundedSum]
  ring

/-- What the reconciliation totals make of the same payments. -/
theorem moneyKept_reconciled {db : Db} (settled : Settled db) (venueId : Uuid)
    (query : RevenueReportQuery) :
    moneyKept db venueId query =
      capturedSum (paymentsInRange db venueId query) -
        refundedSum (paymentsInRange db venueId query) := by
  have pointwise : ∀ row ∈ paymentsInRange db venueId query,
      kept row.2 = (if captured row.2 then row.2.amountMinor else 0) - row.2.refundedMinor := by
    intro row among
    have returned := settled.refunded row.1 row.2 (Table.mem_select.mp among).1
    unfold kept captured
    cases status : row.2.status <;> simp only [status] at returned ⊢ <;> simp <;> grind
  have joined := sum_paymentsInRange db venueId query fun row => kept row.2
  rw [moneyKept, ← joined, List.map_congr_left pointwise, Aggregate.sum_sub, capturedSum,
    Aggregate.sum_filter]
  rfl

theorem castInt_ok {n k : Int} {db db' : Db} :
    castInt n db = .ok (k, db') ↔ fitsInt n = true ∧ n = k ∧ db' = db := by
  simp only [castInt, Tx.ite_ok, Tx.pure_ok, Tx.abort_ok, and_false, or_false, eq_comm (a := db)]

theorem totals_ok {venueId : Uuid} {query : RevenueReportQuery} {r : RevenueTotals} {db db' : Db}
    (returned : totals venueId query db = .ok (r, db')) :
    db' = db ∧ r.grossMinor = grossMinor (bookingsInRange db venueId query) := by
  simp only [totals, countOf, bookedMinutes, Tx.bind_ok, Tx.read_ok, Tx.pure_ok,
    castInt_ok] at returned
  grind

theorem revenue_ok {env : Env} {localDay : String → Instant → Option String}
    {principal : AuthPrincipal} {query : RevenueReportQuery} {r : RevenueReport} {db db' : Db}
    (returned : revenue env localDay principal query db = .ok (r, db')) :
    principal.venueId = some r.venueId ∧
      r.netMinor = grossMinor (bookingsInRange db r.venueId query) -
        refundedSum (paymentsInRange db r.venueId query) := by
  simp only [revenue, refunded, Tx.bind_ok, Tx.fetch_ok, Tx.read_ok, Tx.pure_ok] at returned
  obtain ⟨venueId, _, ⟨scope, rfl⟩, venue, _, ⟨-, rfl⟩, sums, t, summed, back, _, ⟨rfl, rfl⟩, rooms, _,
    -, days, _, -, minutes, _, -, rfl, -⟩ := returned
  obtain ⟨rfl, gross⟩ := totals_ok summed
  exact ⟨scope, by rw [gross]⟩

/-- **Net is money kept** exactly where nothing was captured beside the payments of the
bookings the venue is owed for; and the money kept is what the reconciliation totals say
of the same payments. -/
theorem net_is_money_kept_iff {db db' : Db} (settled : Settled db) {env : Env}
    {localDay : String → Instant → Option String} {principal : AuthPrincipal}
    {query : RevenueReportQuery} {report : RevenueReport}
    (returned : revenue env localDay principal query db = .ok (report, db')) :
    (report.netMinor = moneyKept db report.venueId query ↔
        unearnedCaptures db report.venueId query = 0) ∧
      moneyKept db report.venueId query =
        capturedSum (paymentsInRange db report.venueId query) -
          refundedSum (paymentsInRange db report.venueId query) := by
  obtain ⟨-, net⟩ := revenue_ok returned
  have kept := moneyKept_eq settled report.venueId query
  refine ⟨?_, moneyKept_reconciled settled report.venueId query⟩
  rw [net, kept]
  constructor
  · intro same
    linarith
  · intro nothing
    rw [nothing, add_zero]

/-! ## Two venues -/

namespace Sample

def june : RevenueReportQuery := ⟨0, 86400000, by decide, by decide⟩

def owner : AuthPrincipal := ⟨4, .venueAdmin, some 1⟩

/-- One booking of the room, for fifty rupees. -/
def sold (status : BookingStatus) : Booking :=
  ⟨1, room, 5, 36000000, 39600000, status, none, 0, none, 5000, "PKR", 0, 0⟩

def paidFor (status : PaymentStatus) (refundedMinor : Minor) : Payment :=
  ⟨7, "charge:7", some "ch", 5000, status, none, none, refundedMinor, none, 0, 0⟩

/-- The venue with that booking and its payment. -/
def selling (booking : Booking) (payment : Payment) : Db :=
  { db with
    bookings := ⟨[(7, booking)], by simp⟩
    payments := ⟨[(8, payment)], by simp⟩ }

theorem selling_settled {booking : Booking} {payment : Payment}
    (paid : earned booking = true →
      payment.bookingId = 7 ∧ payment.status = .succeeded ∧ payment.amountMinor = booking.totalMinor)
    (refunded : payment.refundedMinor ≠ 0 → payment.status = .refunded) :
    Settled (selling booking payment) := by
  constructor
  · intro id b found owed
    have row : (id, b) ∈ [((7 : Uuid), booking)] := Table.mem_rows.mpr found
    rw [List.mem_singleton, Prod.mk.injEq] at row
    obtain ⟨rfl, rfl⟩ := row
    obtain ⟨own, status, amount⟩ := paid owed
    refine ⟨(8, payment), ?_, amount⟩
    simp [paymentsOf, Table.select, selling, own, status]
  · intro id p found
    have row : (id, p) ∈ [((8 : Uuid), payment)] := Table.mem_rows.mpr found
    rw [List.mem_singleton, Prod.mk.injEq] at row
    obtain ⟨-, rfl⟩ := row
    exact refunded

/-- Days of a zone nobody has to know. -/
def anyDay (_ : String) (_ : Instant) : Option String := some "2026-06-01"

end Sample

/-- A confirmed booking, paid for: the net is its price. -/
theorem net_is_money_kept_sold : ∃ report db',
    revenue .default Sample.anyDay Sample.owner Sample.june
        (Sample.selling (Sample.sold .confirmed) (Sample.paidFor .succeeded 0)) =
      .ok (report, db') ∧
      report.netMinor = 5000 ∧
      report.netMinor = moneyKept (Sample.selling (Sample.sold .confirmed)
        (Sample.paidFor .succeeded 0)) report.venueId Sample.june := by
  have ran : ((revenue .default Sample.anyDay Sample.owner Sample.june
      (Sample.selling (Sample.sold .confirmed) (Sample.paidFor .succeeded 0))).map fun r =>
        (r.1.venueId, r.1.netMinor)) = .ok (1, 5000) := by
    decide +kernel
  obtain ⟨⟨report, db'⟩, returned, seen⟩ := Tx.map_ok.mp ran
  simp only [Prod.mk.injEq] at seen
  have settled : Settled (Sample.selling (Sample.sold .confirmed) (Sample.paidFor .succeeded 0)) :=
    Sample.selling_settled (fun _ => ⟨rfl, rfl, rfl⟩) (fun given => absurd rfl given)
  have clean : unearnedCaptures (Sample.selling (Sample.sold .confirmed)
      (Sample.paidFor .succeeded 0)) report.venueId Sample.june = 0 := by
    rw [seen.1]
    decide +kernel
  exact ⟨report, db', returned, seen.2, (net_is_money_kept_iff settled returned).1.mpr clean⟩

/-- **A refunded booking counts against the venue**: nothing is kept of it and nothing
owed, and the report's net is its price below zero. -/
theorem net_below_money_kept : ∃ report db',
    revenue .default Sample.anyDay Sample.owner Sample.june
        (Sample.selling (Sample.sold .refunded) (Sample.paidFor .refunded 5000)) =
      .ok (report, db') ∧
      Settled (Sample.selling (Sample.sold .refunded) (Sample.paidFor .refunded 5000)) ∧
      report.netMinor = -5000 ∧
      moneyKept (Sample.selling (Sample.sold .refunded) (Sample.paidFor .refunded 5000))
        report.venueId Sample.june = 0 := by
  have ran : ((revenue .default Sample.anyDay Sample.owner Sample.june
      (Sample.selling (Sample.sold .refunded) (Sample.paidFor .refunded 5000))).map fun r =>
        (r.1.venueId, r.1.netMinor)) = .ok (1, -5000) := by
    decide +kernel
  obtain ⟨⟨report, db'⟩, returned, seen⟩ := Tx.map_ok.mp ran
  simp only [Prod.mk.injEq] at seen
  have settled : Settled (Sample.selling (Sample.sold .refunded) (Sample.paidFor .refunded 5000)) :=
    Sample.selling_settled (fun owed => by cases owed) (fun _ => rfl)
  refine ⟨report, db', returned, settled, seen.2, ?_⟩
  rw [seen.1]
  decide +kernel

end Atrium
