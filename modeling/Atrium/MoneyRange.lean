/-
# MoneyRange -- the amounts from a rate to the charge

A rate may be any number a `bigint` holds, and the sum of a hold is built from rates, half
hours and quantities before anything bounds it.  The sum fits its column, and comes to the
provider as it is stored, exactly where some rate is not zero and the price is a safe integer
(`money_exact_iff`).
-/
import Atrium.FreeSlots
import Atrium.PaygateClient

namespace Atrium

open Atrium.Base

set_option autoImplicit false

/-! ## The rate on the wire -/

/-- What `trim()` takes off. -/
def isJsSpace (c : Char) : Bool :=
  let n := c.toNat
  decide ((9 ≤ n ∧ n ≤ 13) ∨ n = 32 ∨ n = 0xA0 ∨ n = 0x1680 ∨ (0x2000 ≤ n ∧ n ≤ 0x200A) ∨
    n = 0x2028 ∨ n = 0x2029 ∨ n = 0x202F ∨ n = 0x205F ∨ n = 0x3000 ∨ n = 0xFEFF)

def jsTrim (cs : List Char) : List Char :=
  ((cs.dropWhile isJsSpace).reverse.dropWhile isJsSpace).reverse

/-- `String(value)` of a text or a number, where the number is written without a point and
without an exponent. -/
def rateText : Json → Option (List Char)
  | .str s => some s.toList
  | .num q => if q.den = 1 ∧ |q.num| < 10 ^ 21 then some (toString q.num).toList else none
  | _ => none

/-- `RateMinor`. -/
def rateMinor (raw : Json) : Option Minor := do
  let digits := jsTrim (← rateText raw)
  if digits ≠ [] ∧ digits.all Char.isDigit then
    let value : Int := Nat.ofDigitChars 10 digits 0
    if value ≤ 9223372036854775807 then some value else none
  else none

theorem rateMinor_nonneg {raw : Json} {rate : Minor} (accepted : rateMinor raw = some rate) :
    0 ≤ rate := by
  simp only [rateMinor, Option.bind_eq_bind, Option.bind_eq_some_iff] at accepted
  obtain ⟨text, -, parsed⟩ := accepted
  split_ifs at parsed
  cases parsed
  exact Int.natCast_nonneg _

/-- Every rate in the catalogue has come through the schema. -/
structure Db.Rated (db : Db) : Prop where
  rooms : ∀ id room, db.rooms.get? id = some room → ∃ raw, rateMinor raw = some room.hourlyRateMinor
  types : ∀ id row, db.equipmentTypes.get? id = some row →
    ∃ raw, rateMinor raw = some row.hourlyRateMinor

/-! ## The price of a request -/

/-- The room's half hours at half its rate, and each line's. -/
def price (half roomRate : Int) (lines : List (Int × Int)) : Int :=
  roomRate * half / 2 + (lines.map fun line => half * line.1 * line.2 / 2).sum

/-- The rate and the quantity of each requested type. -/
def HoldInput.lines (input : HoldInput) (db : Db) : List (Int × Int) :=
  (input.rows db).map fun row => (row.2.hourlyRateMinor, input.quantityOf row.1)

theorem sum_halves {half : Int} (long : 2 ≤ half) {lines : List (Int × Int)}
    (nonneg : ∀ line ∈ lines, 0 ≤ line.1 ∧ 0 ≤ line.2) :
    0 ≤ (lines.map fun line => half * line.1 * line.2 / 2).sum ∧
      (0 < (lines.map fun line => half * line.1 * line.2 / 2).sum ↔
        ∃ line ∈ lines, 0 < line.1 ∧ 0 < line.2) := by
  induction lines with
  | nil => simp
  | cons line lines ih =>
      obtain ⟨⟨rate, quantity⟩, rest⟩ := List.forall_mem_cons.mp nonneg
      obtain ⟨least, some_⟩ := ih rest
      have product : 0 ≤ line.1 * line.2 := mul_nonneg rate quantity
      have amount : half * line.1 * line.2 = half * (line.1 * line.2) := mul_assoc _ _ _
      have here : 0 ≤ half * line.1 * line.2 / 2 := by
        rw [amount]
        exact Int.ediv_nonneg (mul_nonneg (by omega) product) (by norm_num)
      have positive : 0 < half * line.1 * line.2 / 2 ↔ 0 < line.1 ∧ 0 < line.2 := by
        rw [amount]
        constructor
        · intro above
          constructor
          · by_contra none_
            have zero : line.1 = 0 := by omega
            rw [zero, zero_mul, mul_zero] at above
            omega
          · by_contra none_
            have zero : line.2 = 0 := by omega
            rw [zero, mul_zero, mul_zero] at above
            omega
        · rintro ⟨first, second⟩
          have one : 0 < line.1 * line.2 := mul_pos first second
          have two : 2 * (line.1 * line.2) ≤ half * (line.1 * line.2) :=
            mul_le_mul_of_nonneg_right long product
          omega
      rw [List.map_cons, List.sum_cons]
      simp only [List.mem_cons, exists_eq_or_imp]
      rw [← positive, ← some_]
      omega

/-- **Some rate is not zero.** -/
theorem price_pos_iff {half roomRate : Int} (long : 2 ≤ half) (room : 0 ≤ roomRate)
    {lines : List (Int × Int)} (nonneg : ∀ line ∈ lines, 0 ≤ line.1 ∧ 0 ≤ line.2) :
    0 < price half roomRate lines ↔
      0 < roomRate ∨ ∃ line ∈ lines, 0 < line.1 ∧ 0 < line.2 := by
  obtain ⟨least, some_⟩ := sum_halves long nonneg
  have first : 0 ≤ roomRate * half := mul_nonneg room (by omega)
  have positive : 0 < roomRate * half / 2 ↔ 0 < roomRate := by
    constructor
    · intro above
      by_contra none_
      have zero : roomRate = 0 := by omega
      rw [zero, zero_mul] at above
      omega
    · intro above
      have two : roomRate * 2 ≤ roomRate * half := mul_le_mul_of_nonneg_left long room
      omega
  rw [← positive, ← some_, price]
  omega

/-! ## The amount asked for -/

theorem hexValue_narrow {c : Char} {v : Nat} (digit : hexValue c = some v) : c.toNat < 65536 := by
  have bound : ∀ last : Char, c ≤ last → last.toNat ≤ 102 → c.toNat < 65536 := by
    intro last most small
    have order : c.toNat ≤ last.toNat := UInt32.le_iff_toNat_le.mp most
    omega
  unfold hexValue at digit
  split_ifs at digit with decimal lower upper
  · exact bound '9' decimal.2 (by decide)
  · exact bound 'f' lower.2 (by decide)
  · exact bound 'F' upper.2 (by decide)

/-- The UTF-16 length of a list of characters. -/
def jsUnits (cs : List Char) : Nat := (cs.map fun c => if c.toNat < 65536 then 1 else 2).sum

theorem jsUnits_cons {c : Char} (narrow : c.toNat < 65536) (cs : List Char) :
    jsUnits (c :: cs) = jsUnits cs + 1 := by
  rw [jsUnits, List.map_cons, List.sum_cons, if_pos narrow, jsUnits]
  omega

theorem readHex_units {n : Nat} : ∀ {acc : Nat} {cs : List Char} {v : Nat} {rest : List Char},
    readHex n acc cs = some (v, rest) → jsUnits cs = n + jsUnits rest := by
  induction n with
  | zero =>
      intro acc cs v rest read
      simp only [readHex, Option.some.injEq, Prod.mk.injEq] at read
      rw [read.2, Nat.zero_add]
  | succ n ih =>
      intro acc cs v rest read
      cases cs with
      | nil => cases read
      | cons c cs =>
          rw [readHex] at read
          cases digit : hexValue c with
          | none =>
              rw [digit] at read
              cases read
          | some value =>
              rw [digit] at read
              rw [jsUnits_cons (hexValue_narrow digit), ih read]
              omega

/-- Groups of digits with a hyphen between them. -/
theorem readGroups_units : ∀ {groups : List Nat} {acc : Nat} {cs : List Char} {v : Nat},
    groups ≠ [] → readGroups groups acc cs = some v →
      jsUnits cs + 1 = groups.sum + groups.length
  | [], _, _, _, some_, _ => absurd rfl some_
  | [n], acc, cs, v, _, read => by
      rw [readGroups] at read
      split at read
      · rename_i acc' digits
        have units := readHex_units digits
        simp only [jsUnits, List.map_nil, List.sum_nil] at units
        simp only [List.sum_cons, List.sum_nil, List.length_singleton, jsUnits]
        omega
      · cases read
  | n :: m :: groups, acc, cs, v, _, read => by
      rw [readGroups] at read
      split at read
      · rename_i acc' rest digits
        have units := readHex_units digits
        have hyphen : jsUnits ('-' :: rest) = jsUnits rest + 1 := jsUnits_cons (by decide) rest
        have others := readGroups_units (List.cons_ne_nil m groups) read
        rw [List.sum_cons, List.length_cons]
        omega
      · cases read
      · simp

/-- A path parameter has 36 characters. -/
theorem UuidText.units (id : UuidText) : Paygate.jsLength id.text = 36 := by
  obtain ⟨text, value, spells⟩ := id
  obtain ⟨v, read, -⟩ := Option.map_eq_some_iff.mp spells
  have units := readGroups_units (List.cons_ne_nil _ _) read
  simp only [List.sum_cons, List.sum_nil, List.length_cons, List.length_nil] at units
  show jsUnits text.toList = 36
  omega

/-- The request in the words of the provider's client. -/
def ChargeRequest.sent (r : ChargeRequest) : Paygate.PaygateClient.ChargeRequest :=
  ⟨r.reference, r.amountMinor, r.currency⟩

/-- When a booking of this total is paid, by a first request or a retry, the amount asked for
is the total, and the provider reads it. -/
def PaidExactly (total : Minor) : Prop :=
  ∀ (db db' : Db) (bookingId : UuidText) (principal : AuthPrincipal) (stamp : PayStamp)
    (booking : Booking) (payment : Uuid × Payment),
    booking.totalMinor = total → booking.currency = "PKR" →
      (∀ row, paymentByKey db (chargeKey bookingId.text) = some row → row.2.amountMinor = total) →
        payPrepare bookingId principal stamp db = .ok (.charge booking payment, db') →
          (chargeRequest bookingId booking payment).amountMinor = total ∧
            (chargeRequest bookingId booking payment).sent.Agrees

/-- **A payment is for the total of its booking.** -/
theorem payPrepare_amount {db db' : Db} {bookingId : UuidText} {principal : AuthPrincipal}
    {stamp : PayStamp} {booking : Booking} {payment : Uuid × Payment} {total : Minor}
    (own : booking.totalMinor = total)
    (earlier : ∀ row, paymentByKey db (chargeKey bookingId.text) = some row → row.2.amountMinor = total)
    (prepared : payPrepare bookingId principal stamp db = .ok (.charge booking payment, db')) :
    payment.2.amountMinor = total := by
  simp only [payPrepare, loadOwned, Tx.bind_ok, Tx.fetch_ok, Tx.read_ok] at prepared
  obtain ⟨booking', _, ⟨-, rfl⟩, existing, _, ⟨-, rfl⟩, loaded⟩ := prepared
  rcases payLoaded_ok loaded with ⟨-, _, -, settled⟩ | ⟨recorded, payment', inserted, found, same, -⟩
  · cases settled
  · cases same
    rcases inserted with ⟨-, rfl⟩ | ⟨fresh, payments, stored, rfl⟩
    · exact earlier payment found
    · obtain ⟨here, key⟩ := paymentByKey_some found
      rw [Table.get?_insert? stored] at here
      split_ifs at here with new
      · rw [← Option.some.inj here]
        exact own
      · exact absurd key (paymentByKey_none fresh here)

namespace Sample

/-- A booking in payment, of any total. -/
def payable (total : Minor) : Booking :=
  { venueId := 1, roomId := room, userId := 5, startsAt := 36000000, endsAt := 39600000
    status := .pendingPayment, expiresAt := none, rearmCount := 0, policySnapshot := none
    totalMinor := total, currency := "PKR", createdAt := 0, updatedAt := 0 }

theorem payable_unique (total : Minor) : ([((8 : Uuid), payable total)].map Prod.fst).Nodup :=
  List.nodup_singleton 8

def payableDb (total : Minor) : Db :=
  { db with bookings := ⟨[(8, payable total)], payable_unique total⟩ }

theorem payable_paid (total : Minor) : ∃ payment db',
    payPrepare (Uuid.path 8) customer ⟨1, 0, 0⟩ (payableDb total) =
      .ok (.charge (payable total) payment, db') :=
  ⟨_, _, rfl⟩

end Sample

theorem paidExactly_iff {total : Minor} :
    PaidExactly total ↔ 0 < total ∧ total ≤ Paygate.maxSafeInteger := by
  constructor
  · intro exact_
    obtain ⟨payment, db', prepared⟩ := Sample.payable_paid total
    obtain ⟨amount, agrees⟩ := exact_ _ _ _ _ _ _ _ rfl rfl (by rintro row ⟨⟩) prepared
    obtain ⟨positive, safe, -⟩ := (Paygate.PaygateClient.charge_agrees_iff _).mp agrees
    exact ⟨amount ▸ positive, amount ▸ safe⟩
  · rintro ⟨positive, safe⟩ db db' bookingId principal stamp booking payment own currency earlier prepared
    have amount : (chargeRequest bookingId booking payment).amountMinor = total :=
      payPrepare_amount own earlier prepared
    have length := bookingId.units
    refine ⟨amount, (Paygate.PaygateClient.charge_agrees_iff _).mpr ?_⟩
    show 0 < (chargeRequest bookingId booking payment).amountMinor ∧
      (chargeRequest bookingId booking payment).amountMinor ≤ Paygate.maxSafeInteger ∧
      Paygate.isCurrencyCode booking.currency = true ∧ 1 ≤ Paygate.jsLength bookingId.text ∧
      Paygate.jsLength bookingId.text ≤ 200
    rw [amount, currency]
    exact ⟨positive, safe, by decide, by omega, by omega⟩

/-! ## The sum of a hold -/

section Hold

variable {env : Env} {input : HoldInput} {principal : AuthPrincipal} {now : Instant}
  {stamp : HoldStamp} {db : Db} {ctx : RoomContext} {priced : List PricedItem}

/-- What a hold sums once the request has passed what comes before the insert. -/
def holdTotal (env : Env) (input : HoldInput) (ctx : RoomContext) (principal : AuthPrincipal)
    (stamp : HoldStamp) (priced : List PricedItem) : Minor :=
  (heldRow env input ctx principal stamp priced).totalMinor

theorem HoldInput.long (input : HoldInput) : 2 ≤ halfHours input.startsAt input.endsAt := by
  obtain ⟨-, -, least, -⟩ := of_decide_eq_true input.accepted
  have hours : ∀ {s e : Int}, s + 60 * 60000 ≤ e → 2 ≤ ((e - s) * 2 + 1800000) / 3600000 := by
    omega
  exact hours least

theorem HoldInput.quantityOf_nonneg (input : HoldInput) (id : Uuid) : 0 ≤ input.quantityOf id := by
  cases look : input.lineItems.find? fun item => item.equipmentTypeId = id.text with
  | none => simp [HoldInput.quantityOf, HoldInput.requested, look]
  | some item =>
      have positive := input.positive (List.mem_of_find?_eq_some look)
      simp only [HoldInput.quantityOf, HoldInput.requested, look, Option.map_some, Option.getD_some]
      omega

theorem Db.Rated.lines (rated : db.Rated) (input : HoldInput) :
    ∀ line ∈ input.lines db, 0 ≤ line.1 ∧ 0 ≤ line.2 := by
  intro line among
  obtain ⟨⟨id, row⟩, here, rfl⟩ := List.mem_map.mp among
  obtain ⟨raw, accepted⟩ := rated.types id row (HoldInput.mem_rows.mp here).1
  exact ⟨rateMinor_nonneg accepted, input.quantityOf_nonneg id⟩

/-- **The sum is the price of the request.** -/
theorem holdTotal_eq (rated : db.Rated) {room : Room}
    (inRoom : db.rooms.get? input.roomId.value = some room)
    (opened : openHold env input now db = .ok (ctx, db))
    (admitted : admitEquipment input ctx stamp.startedAt
        (clearedView db input.roomId.value stamp.startedAt) =
      .ok (priced, clearedView db input.roomId.value stamp.startedAt)) :
    holdTotal env input ctx principal stamp priced =
      price (halfHours input.startsAt input.endsAt) room.hourlyRateMinor (input.lines db) := by
  have rate : ctx.hourlyRateMinor = room.hourlyRateMinor := by
    have opening := openHold_opening env input now db
    rw [opened] at opening
    cases opening with
    | opened room' venue hours zone opens known within =>
        cases opens.inRoom.symm.trans inRoom
        rfl
  have rows : priced = (input.rows db).map (pricedItem input) := by
    have admission := admitEquipment_admission input ctx stamp.startedAt
      (clearedView db input.roomId.value stamp.startedAt)
    rw [admitted] at admission
    cases admission
    rfl
  obtain ⟨raw, accepted⟩ := rated.rooms _ _ inRoom
  have nonneg := rateMinor_nonneg accepted
  have half := input.long
  have each : (priced.map PricedItem.lineTotalMinor).sum =
      ((input.lines db).map fun line =>
        halfHours input.startsAt input.endsAt * line.1 * line.2 / 2).sum := by
    rw [rows, HoldInput.lines, List.map_map, List.map_map]
    congr 1
    refine List.map_congr_left fun row here => ?_
    have line := rated.lines input _ (List.mem_map_of_mem here)
    have product : 0 ≤ halfHours input.startsAt input.endsAt * row.2.hourlyRateMinor *
        input.quantityOf row.1 := mul_nonneg (mul_nonneg (by omega) line.1) line.2
    exact Int.tdiv_eq_ediv_of_nonneg product
  have first : (room.hourlyRateMinor * halfHours input.startsAt input.endsAt).tdiv 2 =
      room.hourlyRateMinor * halfHours input.startsAt input.endsAt / 2 :=
    Int.tdiv_eq_ediv_of_nonneg (mul_nonneg nonneg (by omega))
  show (ctx.hourlyRateMinor * halfHours input.startsAt input.endsAt).tdiv 2 +
      (priced.map PricedItem.lineTotalMinor).sum = _
  rw [rate, each, first, price]

end Hold

/-- **When the money of a hold stays in range and exact**, for rates the schemas accept: some
rate that counts is not zero, and the price is a safe integer. -/
theorem money_exact_iff {env : Env} {input : HoldInput} {now : Instant} {db : Db} {ctx : RoomContext}
    {priced : List PricedItem} {room : Room} (principal : AuthPrincipal) (stamp : HoldStamp)
    (rated : db.Rated) (inRoom : db.rooms.get? input.roomId.value = some room)
    (opened : openHold env input now db = .ok (ctx, db))
    (admitted : admitEquipment input ctx stamp.startedAt
        (clearedView db input.roomId.value stamp.startedAt) =
      .ok (priced, clearedView db input.roomId.value stamp.startedAt)) :
    (fitsBigint (holdTotal env input ctx principal stamp priced) = true ∧
        PaidExactly (holdTotal env input ctx principal stamp priced)) ↔
      (0 < room.hourlyRateMinor ∨
          ∃ row ∈ input.rows db, 0 < row.2.hourlyRateMinor ∧ 0 < input.quantityOf row.1) ∧
        price (halfHours input.startsAt input.endsAt) room.hourlyRateMinor (input.lines db) ≤
          Paygate.maxSafeInteger := by
  obtain ⟨raw, accepted⟩ := rated.rooms _ _ inRoom
  have positive := price_pos_iff input.long (rateMinor_nonneg accepted) (rated.lines input)
  have lines : (∃ line ∈ input.lines db, 0 < line.1 ∧ 0 < line.2) ↔
      ∃ row ∈ input.rows db, 0 < row.2.hourlyRateMinor ∧ 0 < input.quantityOf row.1 := by
    simp only [HoldInput.lines, List.mem_map, exists_exists_and_eq_and]
  rw [paidExactly_iff, holdTotal_eq rated inRoom opened admitted, positive, lines]
  constructor
  · exact And.right
  · rintro ⟨some_, safe⟩
    have above := positive.mpr (some_.imp id lines.mpr)
    have most : Paygate.maxSafeInteger ≤ 9223372036854775807 := by decide
    refine ⟨?_, some_, safe⟩
    rw [fitsBigint, decide_eq_true_eq]
    omega

namespace Sample

theorem db_rated : db.Rated := by
  constructor
  · intro id room stored
    have row := Table.mem_rows.mpr stored
    rcases List.mem_cons.mp row with row | row
    · cases row
      exact ⟨.str "5000", by decide +kernel⟩
    · cases List.mem_singleton.mp row
      exact ⟨.str "5000", by decide +kernel⟩
  · intro id type stored
    have row := Table.mem_rows.mpr stored
    cases List.mem_singleton.mp row
    exact ⟨.num 1000, by decide +kernel⟩

/-- The hall, let for nothing. -/
def freeRoom : Room := ⟨1, "Hall", 20, 0, [], 60, 480⟩

def freeDb : Db := { db with rooms := ⟨[(room, freeRoom)], List.nodup_singleton room⟩ }

theorem freeDb_rated : freeDb.Rated := by
  constructor
  · intro id room stored
    have row := Table.mem_rows.mpr stored
    cases List.mem_singleton.mp row
    exact ⟨.str "0", by decide +kernel⟩
  · exact db_rated.types

/-- The hall from ten to eleven, and nothing else. -/
def bare : HoldInput := ⟨⟨Uuid.path room, 36000000, 39600000, []⟩, by decide +kernel⟩

end Sample

/-- The hall with the projector for an hour: 6000 are stored, asked for and taken. -/
theorem money_exact_hall : ∃ ctx priced, openHold .default Sample.hold 0 Sample.db = .ok (ctx, Sample.db) ∧
    fitsBigint (holdTotal .default Sample.hold ctx Sample.customer ⟨7, 0, 0⟩ priced) = true ∧
      PaidExactly (holdTotal .default Sample.hold ctx Sample.customer ⟨7, 0, 0⟩ priced) := by
  obtain ⟨ctx, opened⟩ : ∃ ctx, openHold .default Sample.hold 0 Sample.db = .ok (ctx, Sample.db) :=
    ⟨_, rfl⟩
  obtain ⟨priced, admitted⟩ : ∃ priced, admitEquipment Sample.hold ctx 0
      (clearedView Sample.db Sample.hold.roomId.value 0) =
        .ok (priced, clearedView Sample.db Sample.hold.roomId.value 0) := by
    have admission := admitEquipment_admission Sample.hold ctx 0
      (clearedView Sample.db Sample.hold.roomId.value 0)
    have fine : (admitEquipment Sample.hold ctx 0 (clearedView Sample.db Sample.hold.roomId.value 0)).map
        (fun _ => ()) = .ok () := by
      cases opened
      decide +kernel
    generalize admitEquipment Sample.hold ctx 0 (clearedView Sample.db Sample.hold.roomId.value 0) =
      result at admission fine
    cases admission with
    | refused e client short => cases fine
    | overflow known unfit => cases fine
    | admitted known fit stocked => exact ⟨_, rfl⟩
  refine ⟨ctx, priced, opened, (money_exact_iff Sample.customer ⟨7, 0, 0⟩ Sample.db_rated rfl opened
    admitted).mpr ⟨.inl (by decide), by decide +kernel⟩⟩

/-- A rate of zero is accepted, and the provider takes no charge of nothing. -/
theorem money_free : ¬ ∀ (env : Env) (input : HoldInput) (now : Instant) (db : Db) (ctx : RoomContext)
    (priced : List PricedItem) (principal : AuthPrincipal) (stamp : HoldStamp), db.Rated →
      openHold env input now db = .ok (ctx, db) →
        admitEquipment input ctx stamp.startedAt
            (clearedView db input.roomId.value stamp.startedAt) =
          .ok (priced, clearedView db input.roomId.value stamp.startedAt) →
            fitsBigint (holdTotal env input ctx principal stamp priced) = true ∧
              PaidExactly (holdTotal env input ctx principal stamp priced) := by
  intro claim
  obtain ⟨ctx, opened, total⟩ : ∃ ctx, openHold .default Sample.bare 0 Sample.freeDb =
      .ok (ctx, Sample.freeDb) ∧
        holdTotal .default Sample.bare ctx Sample.customer ⟨7, 0, 0⟩ [] = 0 :=
    ⟨_, rfl, by decide +kernel⟩
  have paid := (claim .default Sample.bare 0 Sample.freeDb ctx [] Sample.customer ⟨7, 0, 0⟩
    Sample.freeDb_rated opened rfl).2
  rw [total, paidExactly_iff] at paid
  exact lt_irrefl _ paid.1

end Atrium
