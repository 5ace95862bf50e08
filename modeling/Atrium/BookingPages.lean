/-
# BookingPages -- the pages of the booking list

The list is ordered by the start alone, so bookings that start together come in any order,
and in another one at the next page.  The pages come to each booking once exactly where no
page ends inside a group that starts together (`list_once_iff`).
-/
import Atrium.Api
import Atrium.Base.Paging
import Atrium.BookingView

namespace Atrium

open Atrium.Base

set_option autoImplicit false

/-- The foreign keys of a booking. -/
def Db.Referenced (db : Db) : Prop :=
  ∀ id b, db.bookings.get? id = some b →
    (db.rooms.get? b.roomId).isSome ∧ (db.venues.get? b.venueId).isSome

def ListBookingsQuery.at (query : ListBookingsQuery) (page : Nat) : ListBookingsQuery :=
  { query with page := page + 1, paged := Nat.le_add_left 1 page }

/-- An order the database may return rows in. -/
def Returns (inOrder : List ListedBooking → List ListedBooking) : Prop :=
  ∀ rows, (inOrder rows).Perm rows ∧ (inOrder rows).Pairwise laterFirst

/-- The number of pages, the first of them asked for in any case. -/
def pageCount (total pageSize : Nat) : Nat := max 1 ((total + pageSize - 1) / pageSize)

/-- What the pages of one scope come to: whatever order each query's ties come in, every page
answers, and the pages come to the matching bookings, each of them once. -/
def PagesOnce (db : Db) (inScope : Booking → Bool) (query : ListBookingsQuery)
    (principal : AuthPrincipal) : Prop :=
  ∀ orders : Nat → List ListedBooking → List ListedBooking, (∀ n, Returns (orders n)) →
    ∃ pages : List BookingPage,
      pages.length = pageCount (matchingBookings db inScope query).length query.pageSize ∧
      (∀ n answer, pages[n]? = some answer → list (orders n) (query.at n) principal db = .ok (answer, db)) ∧
      ((pages.flatMap BookingPage.data).map ListedBooking.id).Perm
        ((matchingBookings db inScope query).map Prod.fst)

/-- The pages come to each matching booking of the principal's scope once. -/
def ListsOnce (db : Db) (query : ListBookingsQuery) (principal : AuthPrincipal) : Prop :=
  ∀ inScope, scopeFilter principal db = .ok (inScope, db) → PagesOnce db inScope query principal

/-- No page ends inside a group of matching bookings that start together. -/
def GroupsWhole (bookings : List (Uuid × Booking)) (pageSize : Nat) : Prop :=
  ∀ (t : Instant) (n : Nat), bookings.countP (fun row => decide (t < row.2.startsAt)) < n * pageSize →
    bookings.countP (fun row => decide (t ≤ row.2.startsAt)) ≤ n * pageSize

/-! ## One page -/

section Page

variable {db : Db} {inScope : Booking → Bool} {query : ListBookingsQuery} {principal : AuthPrincipal}

/-- The rows of the query. -/
def joinedBookings (db : Db) (inScope : Booking → Bool) (query : ListBookingsQuery) : List ListedBooking :=
  (matchingBookings db inScope query).filterMap (joinRow db)

/-- Later starts first. -/
def byStartDesc (row : ListedBooking) : OrderDual Int := OrderDual.toDual row.booking.startsAt

theorem joinedBookings_rows (referenced : db.Referenced) :
    (joinedBookings db inScope query).map (fun row => (row.id, row.booking)) =
      matchingBookings db inScope query := by
  have each : ∀ rows : List (Uuid × Booking), (∀ row ∈ rows, db.bookings.get? row.1 = some row.2) →
      (rows.filterMap (joinRow db)).map (fun row => (row.id, row.booking)) = rows := by
    intro rows
    induction rows with
    | nil => intro _; rfl
    | cons row rows ih =>
        intro stored
        obtain ⟨inRoom, atVenue⟩ := referenced row.1 row.2 (stored row List.mem_cons_self)
        obtain ⟨room, found⟩ := Option.isSome_iff_exists.mp inRoom
        obtain ⟨venue, found'⟩ := Option.isSome_iff_exists.mp atVenue
        have joins : joinRow db row = some ⟨row.1, row.2, room, venue⟩ := by
          rw [joinRow, found, found']
          rfl
        rw [List.filterMap_cons_some joins, List.map_cons,
          ih fun row' among => stored row' (List.mem_cons_of_mem _ among)]
  apply each
  rintro ⟨id, b⟩ among
  exact (Table.mem_select.mp among).1

theorem joinedBookings_ids (referenced : db.Referenced) :
    (joinedBookings db inScope query).map ListedBooking.id =
      (matchingBookings db inScope query).map Prod.fst := by
  rw [← joinedBookings_rows referenced, List.map_map]
  rfl

theorem joinedBookings_length (referenced : db.Referenced) :
    (joinedBookings db inScope query).length = (matchingBookings db inScope query).length := by
  rw [← joinedBookings_rows referenced, List.length_map]

theorem joinedBookings_parted (referenced : db.Referenced) (pageSize : Nat) :
    Paging.Parted byStartDesc pageSize (joinedBookings db inScope query) ↔
      GroupsWhole (matchingBookings db inScope query) pageSize := by
  unfold Paging.Parted GroupsWhole
  rw [← joinedBookings_rows referenced]
  simp only [List.countP_map]
  rfl

/-- **What one page holds.** -/
theorem list_page (scope : scopeFilter principal db = .ok (inScope, db))
    (readable : query.readable = true) (inOrder : List ListedBooking → List ListedBooking) (n : Nat) :
    list inOrder (query.at n) principal db =
      .ok (⟨Paging.page (inOrder (joinedBookings db inScope query)) query.pageSize n, n + 1,
        query.pageSize, (matchingBookings db inScope query).length⟩, db) := by
  have readable' : (query.at n).readable ≠ false := by
    rw [ne_eq, Bool.not_eq_false]
    exact readable
  rw [list, Tx.bind_of_ok scope, if_neg readable']
  rfl

/-- The matching bookings are different bookings. -/
theorem joinedBookings_ids_nodup (referenced : db.Referenced) :
    ((joinedBookings db inScope query).map ListedBooking.id).Nodup := by
  rw [joinedBookings_ids referenced]
  exact (List.filter_sublist.map Prod.fst).nodup db.bookings.unique

theorem pageCount_enough (total : Nat) {pageSize : Nat} (sized : 1 ≤ pageSize) :
    total ≤ pageCount total pageSize * pageSize := by
  have whole := Nat.div_add_mod (total + pageSize - 1) pageSize
  have rest := Nat.mod_lt (total + pageSize - 1) sized
  have most := Nat.mul_le_mul_right pageSize
    (le_max_right 1 ((total + pageSize - 1) / pageSize))
  rw [Nat.mul_comm] at whole
  unfold pageCount
  omega

end Page

/-! ## All pages -/

section Pages

variable {db : Db} {inScope : Booking → Bool} {query : ListBookingsQuery} {principal : AuthPrincipal}

theorem returns_insertionSort : Returns (List.insertionSort laterFirst) := by
  intro rows
  have total : Std.Total laterFirst := ⟨fun p q => le_total q.booking.startsAt p.booking.startsAt⟩
  have trans : IsTrans ListedBooking laterFirst := ⟨fun p q r first second => le_trans second first⟩
  exact ⟨List.perm_insertionSort _ _, List.pairwise_insertionSort _ _⟩

/-- The first page answers only where the instants of the filter are read. -/
theorem PagesOnce.readable (once : PagesOnce db inScope query principal)
    (scope : scopeFilter principal db = .ok (inScope, db)) : query.readable = true := by
  obtain ⟨pages, count, answers, -⟩ := once (fun _ => List.insertionSort laterFirst)
    fun _ => returns_insertionSort
  have first : 0 < pages.length := by
    rw [count]
    exact lt_of_lt_of_le Nat.one_pos (le_max_left _ _)
  have answered := answers 0 _ (List.getElem?_eq_getElem first)
  by_contra unread
  rw [Bool.not_eq_true] at unread
  have unread' : (query.at 0).readable = false := unread
  rw [list, Tx.bind_of_ok scope, if_pos unread'] at answered
  cases answered

/-- The answers are the pages of the orders. -/
theorem answers_data (scope : scopeFilter principal db = .ok (inScope, db))
    (readable : query.readable = true) {orders : Nat → List ListedBooking → List ListedBooking}
    {pages : List BookingPage}
    (answers : ∀ n answer, pages[n]? = some answer →
      list (orders n) (query.at n) principal db = .ok (answer, db)) :
    pages.flatMap BookingPage.data = (List.range pages.length).flatMap fun n =>
      Paging.page (orders n (joinedBookings db inScope query)) query.pageSize n := by
  have each : pages.map BookingPage.data = (List.range pages.length).map fun n =>
      Paging.page (orders n (joinedBookings db inScope query)) query.pageSize n := by
    apply List.ext_getElem
    · rw [List.length_map, List.length_map, List.length_range]
    · intro n bound bound'
      rw [List.length_map] at bound
      have answered := answers n _ (List.getElem?_eq_getElem bound)
      rw [list_page scope readable] at answered
      rw [List.getElem_map, List.getElem_map, List.getElem_range]
      obtain ⟨answer, -⟩ := Prod.ext_iff.mp (Except.ok.inj answered)
      exact congrArg BookingPage.data answer.symm
  rw [List.flatMap_def, each, ← List.flatMap_def]

/-- Rows of the query with the ids of all of them are all of them. -/
theorem perm_of_ids (referenced : db.Referenced) {rows : List ListedBooking}
    (own : ∀ row ∈ rows, row ∈ joinedBookings db inScope query) :
    (rows.map ListedBooking.id).Perm ((matchingBookings db inScope query).map Prod.fst) ↔
      rows.Perm (joinedBookings db inScope query) := by
  have ids : ((joinedBookings db inScope query).map ListedBooking.id).Nodup :=
    joinedBookings_ids_nodup referenced
  rw [← joinedBookings_ids referenced]
  constructor
  · intro perm
    have nodup := List.Nodup.of_map _ (perm.nodup_iff.mpr ids)
    refine (List.perm_ext_iff_of_nodup nodup (List.Nodup.of_map _ ids)).mpr fun row => ⟨own row, ?_⟩
    intro among
    obtain ⟨row', here, same⟩ := List.mem_map.mp (perm.mem_iff.mpr (List.mem_map_of_mem among))
    exact List.inj_on_of_nodup_map ids (own row' here) among same ▸ here
  · exact fun perm => perm.map _

theorem page_mem {inOrder : List ListedBooking → List ListedBooking} (returns : Returns inOrder)
    {rows : List ListedBooking} {pageSize n : Nat} {row : ListedBooking}
    (among : row ∈ Paging.page (inOrder rows) pageSize n) : row ∈ rows :=
  (returns rows).1.mem_iff.mp (List.mem_of_mem_drop (List.mem_of_mem_take among))

/-- **The pages of one scope**, as pages cut from any orders of the rows. -/
theorem pagesOnce_iff (referenced : db.Referenced)
    (scope : scopeFilter principal db = .ok (inScope, db)) :
    PagesOnce db inScope query principal ↔
      query.readable = true ∧ GroupsWhole (matchingBookings db inScope query) query.pageSize := by
  have nodup : (joinedBookings db inScope query).Nodup :=
    List.Nodup.of_map _ (joinedBookings_ids_nodup referenced)
  have enough := pageCount_enough (matchingBookings db inScope query).length query.sized.1
  rw [← joinedBookings_length referenced] at enough
  have whole := Paging.pages_once_iff (f := byStartDesc) nodup enough
  rw [joinedBookings_parted referenced] at whole
  constructor
  · intro once
    have readable := once.readable scope
    refine ⟨readable, whole.mp fun orders each => ?_⟩
    classical
    -- Orders of the rows of this query, made into orders of any rows.
    let inOrder : Nat → List ListedBooking → List ListedBooking := fun n rows =>
      if rows = joinedBookings db inScope query then orders n else rows.insertionSort laterFirst
    have returns : ∀ n, Returns (inOrder n) := by
      intro n rows
      by_cases own : rows = joinedBookings db inScope query
      · simp only [inOrder, if_pos own]
        exact own ▸ each n
      · simp only [inOrder, if_neg own]
        exact returns_insertionSort rows
    obtain ⟨pages, count, answers, ids⟩ := once inOrder returns
    have own : ∀ n, inOrder n (joinedBookings db inScope query) = orders n := fun n => if_pos rfl
    have data := answers_data scope readable answers
    simp only [own] at data
    rw [count, ← joinedBookings_length referenced] at data
    rw [data] at ids
    refine (perm_of_ids referenced fun row among => ?_).mp ids
    obtain ⟨n, -, here⟩ := List.mem_flatMap.mp among
    exact (each n).1.mem_iff.mp (List.mem_of_mem_drop (List.mem_of_mem_take here))
  · rintro ⟨readable, groups⟩ orders returns
    let answer : Nat → BookingPage := fun n =>
      ⟨Paging.page (orders n (joinedBookings db inScope query)) query.pageSize n, n + 1,
        query.pageSize, (matchingBookings db inScope query).length⟩
    refine ⟨(List.range (pageCount (matchingBookings db inScope query).length query.pageSize)).map answer,
      by rw [List.length_map, List.length_range], ?_, ?_⟩
    · intro n answer' here
      rw [List.getElem?_map] at here
      obtain ⟨k, within, rfl⟩ := Option.map_eq_some_iff.mp here
      obtain ⟨bound, rfl⟩ := List.getElem?_eq_some_iff.mp within
      rw [List.getElem_range]
      exact list_page scope readable (orders n) n
    · have data := whole.mpr groups (fun n => orders n (joinedBookings db inScope query))
        fun n => returns n _
      rw [joinedBookings_length referenced] at data
      rw [List.flatMap_map]
      refine (perm_of_ids referenced fun row among => ?_).mpr data
      obtain ⟨n, -, here⟩ := List.mem_flatMap.mp among
      exact page_mem (returns n) here

end Pages

/-- **When the pages come to each booking once**: no page ends inside a group of matching
bookings that start together. -/
theorem list_once_iff (db : Db) (referenced : db.Referenced) (query : ListBookingsQuery)
    (principal : AuthPrincipal) :
    ListsOnce db query principal ↔ ∀ inScope, scopeFilter principal db = .ok (inScope, db) →
      query.readable = true ∧ GroupsWhole (matchingBookings db inScope query) query.pageSize := by
  constructor
  · intro once inScope scope
    exact (pagesOnce_iff referenced scope).mp (once inScope scope)
  · intro whole inScope scope
    exact (pagesOnce_iff referenced scope).mpr (whole inScope scope)

namespace Sample

def soldHour (roomId : Uuid) (startsAt : Instant) : Booking :=
  { venueId := 1, roomId := roomId, userId := 5, startsAt := startsAt, endsAt := startsAt + 3600000
    status := .confirmed, expiresAt := none, rearmCount := 0, policySnapshot := none
    totalMinor := 5000, currency := "PKR", createdAt := 0, updatedAt := 0 }

/-- Both rooms, sold for hours that start at the given instants. -/
def soldAt (first second : Instant) : Db :=
  { db with bookings := ⟨[(8, soldHour room first), (9, soldHour otherRoom second)],
      List.nodup_cons.mpr ⟨of_decide_eq_true rfl, List.nodup_singleton 9⟩⟩ }

/-- One booking a page. -/
def single : ListBookingsQuery := ⟨none, none, none, 1, 1, le_rfl, le_rfl, Nat.le_of_ble_eq_true rfl⟩

theorem soldAt_referenced (first second : Instant) : (soldAt first second).Referenced := by
  intro id b stored
  have row := Table.mem_rows.mpr stored
  simp only [soldAt, List.mem_cons, List.not_mem_nil, or_false, Prod.mk.injEq] at row
  rcases row with ⟨rfl, rfl⟩ | ⟨rfl, rfl⟩
  · exact ⟨rfl, rfl⟩
  · exact ⟨rfl, rfl⟩

end Sample

/-- Two bookings an hour apart: each has its page. -/
theorem list_once_apart :
    ListsOnce (Sample.soldAt 36000000 39600000) Sample.single Sample.customer := by
  refine (list_once_iff _ (Sample.soldAt_referenced _ _) _ _).mpr fun inScope scope => ?_
  cases scope
  refine ⟨rfl, fun (t : Int) n before => ?_⟩
  have rows : matchingBookings (Sample.soldAt 36000000 39600000) (fun b => decide (b.userId = 5))
      Sample.single = [(8, Sample.soldHour Sample.room 36000000), (9, Sample.soldHour Sample.otherRoom 39600000)] :=
    rfl
  have size : Sample.single.pageSize = 1 := rfl
  have scope : (fun b : Booking => decide (b.userId = Sample.customer.userId)) =
      fun b => decide (b.userId = 5) := rfl
  rw [scope, rows, size, List.countP_cons, List.countP_cons, List.countP_nil] at before ⊢
  have later : ((0 + if decide (t < (39600000 : Int)) = true then 1 else 0) +
      if decide (t < (36000000 : Int)) = true then 1 else 0) < n * 1 := before
  show ((0 + if decide (t ≤ (39600000 : Int)) = true then 1 else 0) +
      if decide (t ≤ (36000000 : Int)) = true then 1 else 0) ≤ n * 1
  simp only [decide_eq_true_eq] at later ⊢
  split_ifs at later ⊢ <;> omega

/-- Two bookings that start together: the one that ends the first page may begin the second. -/
theorem list_repeats : ¬ ∀ (db : Db) (query : ListBookingsQuery) (principal : AuthPrincipal),
    db.Referenced → query.readable = true → ListsOnce db query principal := by
  intro claim
  have once := claim (Sample.soldAt 36000000 36000000) Sample.single Sample.customer
    (Sample.soldAt_referenced _ _) rfl
  have whole := ((pagesOnce_iff (Sample.soldAt_referenced _ _) rfl).mp (once _ rfl)).2
  have both := whole 36000000 1 (by decide)
  exact absurd both (by decide)

end Atrium
