/-
# PaygateClient -- the provider's answers, as the API reads them

The GET views of the provider and the client that reads them, and the POST bodies of the
client and the schemas that read those, each written by hand in its own package.

The views call a resource's id `charge_id` and `refund_id`, and the client reads `id`: it
is `undefined` for every resource the provider has, while everything else it reads is
right (`getCharge_stored`, `getRefund_stored`).  A body is taken as it was meant where
its amount is positive and a safe integer (`wire_agrees_iff`).
-/
import Atrium.BookingView
import Atrium.Paygate.LedgerImport

namespace Atrium.Paygate

open Atrium.Base

set_option autoImplicit false

/-! ## The provider's views -/

def ChargeStatus.label : ChargeStatus → String
  | .processing => "processing"
  | .succeeded => "succeeded"
  | .failed => "failed"

def RefundStatus.label : RefundStatus → String
  | .processing => "processing"
  | .succeeded => "succeeded"

def TimingBranch.label : TimingBranch → String
  | .raceOnResponse => "race_on_response"
  | .delayed => "delayed"
  | .normal => "normal"

/-- `Number(amount)` of a bigint, or of the text a bigint column is read as. -/
def number (amount : Minor) : Json := .num (Binary64.round amount)

def instantJson (t : Instant) : Json := .str (toISOString t)

def instantOrNull : Option Instant → Json
  | some t => instantJson t
  | none => .null

def ChaosPlan.json (plan : ChaosPlan) : Json :=
  .obj [("enabled", .bool plan.enabled), ("transientFailure", .bool plan.transientFailure),
    ("timing", .str plan.timing.label), ("duplicateDelivery", .bool plan.duplicateDelivery),
    ("firstDelayMs", .int plan.firstDelayMs), ("duplicateGapMs", .int plan.duplicateGapMs),
    ("clockSkewSeconds", .int plan.clockSkewSeconds)]

def refundOfCharge (refund : Refund) : Json :=
  .obj [("refund_id", .str refund.id), ("amount_minor", number refund.amountMinor),
    ("status", .str refund.status.label), ("created_at", instantJson refund.createdAt),
    ("occurred_at", instantOrNull refund.occurredAt),
    ("correlation_id", .orNull refund.correlationId)]

/-- A charge as the reviewer sees it, chaos plan included. -/
def chargeView (charge : Charge) (refunds : List Refund) (deliveries : List Json) : Json :=
  .obj [("charge_id", .str charge.id), ("reference", .str charge.reference),
    ("amount_minor", number charge.amountMinor), ("currency", .str charge.currency),
    ("status", .str charge.status.label), ("created_at", instantJson charge.createdAt),
    ("occurred_at", instantOrNull charge.occurredAt),
    ("refunded_minor", number charge.refundedMinor),
    ("correlation_id", .orNull charge.correlationId),
    ("idempotency_key", .str charge.idempotencyKey), ("chaos_plan", charge.plan.json),
    ("refunds", .arr (refunds.map refundOfCharge)), ("deliveries", .arr deliveries)]

def refundView (refund : Refund) (deliveries : List Json) : Json :=
  .obj [("refund_id", .str refund.id), ("charge_id", .str refund.chargeId),
    ("reference", .str refund.reference), ("amount_minor", number refund.amountMinor),
    ("status", .str refund.status.label), ("created_at", instantJson refund.createdAt),
    ("occurred_at", instantOrNull refund.occurredAt),
    ("correlation_id", .orNull refund.correlationId), ("chaos_plan", refund.plan.json),
    ("deliveries", .arr deliveries)]

/-- A body, or a 404. -/
inductive Reply where
  | ok (body : Json)
  | notFound

def deliveryOf (refundId : String) (delivery : Json) : Bool :=
  match delivery.get? "refund_id" with
  | some (.str id) => decide (id = refundId)
  | _ => false

section Lookups

-- The delivery records of a charge, as JSON.
variable (deliveriesFor : String → List Json)

/-- `GET /paygate/charges/:id`. -/
def chargeRoute (db : PostgresLedger) (id : String) : Reply :=
  match db.getCharge id with
  | none => .notFound
  | some charge => .ok (chargeView charge (db.refundsFor charge.id) (deliveriesFor charge.id))

/-- `GET /paygate/refunds/:id`. -/
def refundRoute (db : PostgresLedger) (id : String) : Reply :=
  match db.getRefund id with
  | none => .notFound
  | some refund =>
      .ok (refundView refund ((deliveriesFor refund.chargeId).filter (deliveryOf refund.id)))

end Lookups

/-! ## The provider's schemas -/

/-- `z.number().int().positive()`: a safe integer above zero. -/
def positiveInt (q : ℚ) : Bool := decide (q.den = 1 ∧ 0 < q.num ∧ q.num ≤ maxSafeInteger)

/-- `ChargeBody.safeParse`. -/
def ChargeBody.parse (j : Json) : Option ChargeBody :=
  match j.get? "amount_minor", j.get? "currency", j.get? "reference" with
  | some (.num amount), some (.str currency), some (.str reference) =>
      if positiveInt amount ∧ isCurrencyCode currency ∧ 1 ≤ jsLength reference ∧
          jsLength reference ≤ 200 then
        some ⟨amount.num, currency, reference⟩
      else none
  | _, _, _ => none

/-- `RefundBody.safeParse`. -/
def RefundBody.parse (j : Json) : Option RefundBody :=
  match j.get? "charge_id", j.get? "amount_minor" with
  | some (.str chargeId), some (.num amount) =>
      if 1 ≤ jsLength chargeId ∧ jsLength chargeId ≤ 120 ∧ positiveInt amount then
        some ⟨chargeId, amount.num⟩
      else none
  | _, _ => none

/-! ## The client -/

namespace PaygateClient

structure ChargeRequest where
  bookingId : String
  amountMinor : Minor
  currency : String

structure RefundRequest where
  chargeId : String
  amountMinor : Minor

/-- The body `charge` posts. -/
def ChargeRequest.payload (request : ChargeRequest) : Json :=
  .obj [("amount_minor", number request.amountMinor), ("currency", .str request.currency),
    ("reference", .str request.bookingId)]

/-- The body `refund` posts. -/
def RefundRequest.payload (request : RefundRequest) : Json :=
  .obj [("charge_id", .str request.chargeId), ("amount_minor", number request.amountMinor)]

/-- What `BigInt` throws: of a number that is not whole, of no number. -/
inductive Thrown where
  | rangeError
  | typeError

def bigInt : Option Json → Except Thrown Int
  | some (.num q) => if q.den = 1 then .ok q.num else .error .rangeError
  | _ => .error .typeError

/-- The members read off the answer; `none` is `undefined`, which no check keeps out. -/
structure ChargeState where
  chargeId : Option Json
  reference : Option Json
  amountMinor : Int
  status : Option Json

structure RefundState where
  refundId : Option Json
  chargeId : Option Json
  amountMinor : Int
  status : Option Json

def readCharge (body : Json) : Except Thrown ChargeState := do
  let amountMinor ← bigInt (body.get? "amount_minor")
  pure ⟨body.get? "id", body.get? "reference", amountMinor, body.get? "status"⟩

def readRefund (body : Json) : Except Thrown RefundState := do
  let amountMinor ← bigInt (body.get? "amount_minor")
  pure ⟨body.get? "id", body.get? "charge_id", amountMinor, body.get? "status"⟩

section Lookups

-- `param id` is what the provider's router hands its handler for a path that ends in `id`,
-- `none` where no route matches.
variable (param : String → Option String) (deliveriesFor : String → List Json)
  (db : PostgresLedger)

/-- `getCharge`: a 404 is an answer, not a failure. -/
def getCharge (id : String) : Except Thrown (Option ChargeState) :=
  match (param id).elim .notFound (chargeRoute deliveriesFor db) with
  | .notFound => .ok none
  | .ok body => (readCharge body).map some

def getRefund (id : String) : Except Thrown (Option RefundState) :=
  match (param id).elim .notFound (refundRoute deliveriesFor db) with
  | .notFound => .ok none
  | .ok body => (readRefund body).map some

/-! ## Agreement -/

/-- The state the client decodes is the ledger's charge, `null` where there is none. -/
def ChargeAgrees (id : String) : Prop :=
  match db.getCharge id with
  | some charge => ∃ state, getCharge param deliveriesFor db id = .ok (some state) ∧
      state.chargeId = some (.str charge.id) ∧ state.reference = some (.str charge.reference) ∧
      state.amountMinor = charge.amountMinor ∧ state.status = some (.str charge.status.label)
  | none => getCharge param deliveriesFor db id = .ok none

def RefundAgrees (id : String) : Prop :=
  match db.getRefund id with
  | some refund => ∃ state, getRefund param deliveriesFor db id = .ok (some state) ∧
      state.refundId = some (.str refund.id) ∧ state.chargeId = some (.str refund.chargeId) ∧
      state.amountMinor = refund.amountMinor ∧ state.status = some (.str refund.status.label)
  | none => getRefund param deliveriesFor db id = .ok none

end Lookups

/-- The provider reads the request the body was written for. -/
def ChargeRequest.Agrees (request : ChargeRequest) : Prop :=
  ChargeBody.parse request.payload =
    some ⟨request.amountMinor, request.currency, request.bookingId⟩

def RefundRequest.Agrees (request : RefundRequest) : Prop :=
  RefundBody.parse request.payload = some ⟨request.chargeId, request.amountMinor⟩

/-- A positive safe integer comes through; no other amount does. -/
theorem positiveInt_round {n : Int} :
    (positiveInt (Binary64.round n) = true ∧ (Binary64.round n).num = n) ↔
      0 < n ∧ n ≤ maxSafeInteger := by
  unfold positiveInt maxSafeInteger
  by_cases low : n ≤ 0
  · have nonpos := Rat.num_nonpos.mpr (Binary64.round_nonpos (x := (n : ℚ)) (by exact_mod_cast low))
    simp only [decide_eq_true_eq]
    omega
  by_cases high : 2 ^ 53 ≤ n
  · have large := Binary64.le_round_int high
    simp only [decide_eq_true_eq]
    constructor
    · rintro ⟨⟨whole, -, most⟩, -⟩
      have value : Binary64.round n = ((Binary64.round n).num : ℚ) :=
        ((Rat.den_eq_one_iff _).mp whole).symm
      rw [value] at large
      have bound : (2 ^ 53 : Int) ≤ (Binary64.round n).num := by exact_mod_cast large
      omega
    · omega
  · have exact_ : Binary64.round n = n := Binary64.round_int (by rw [abs_of_pos] <;> omega)
    rw [exact_]
    simp only [Rat.den_intCast, Rat.num_intCast, decide_eq_true_eq, true_and, and_true]

/-- **A charge body is read as written exactly for the amounts and texts the schema takes.** -/
theorem charge_agrees_iff (request : ChargeRequest) : request.Agrees ↔
    0 < request.amountMinor ∧ request.amountMinor ≤ maxSafeInteger ∧
      isCurrencyCode request.currency = true ∧ 1 ≤ jsLength request.bookingId ∧
      jsLength request.bookingId ≤ 200 := by
  have amount := @positiveInt_round request.amountMinor
  have members : ChargeBody.parse request.payload =
      if positiveInt (Binary64.round request.amountMinor) ∧ isCurrencyCode request.currency ∧
          1 ≤ jsLength request.bookingId ∧ jsLength request.bookingId ≤ 200 then
        some ⟨(Binary64.round request.amountMinor).num, request.currency, request.bookingId⟩
      else none := rfl
  unfold ChargeRequest.Agrees
  rw [members]
  split_ifs with taken
  · obtain ⟨whole, code, least, most⟩ := taken
    simp only [Option.some.injEq, ChargeBody.mk.injEq, and_true, code, least, most]
    rw [← amount]
    exact ⟨fun same => ⟨whole, same⟩, And.right⟩
  · refine iff_of_false nofun ?_
    rintro ⟨positive, safe, rest⟩
    exact taken ⟨(amount.mpr ⟨positive, safe⟩).1, rest⟩

theorem refund_agrees_iff (request : RefundRequest) : request.Agrees ↔
    1 ≤ jsLength request.chargeId ∧ jsLength request.chargeId ≤ 120 ∧
      0 < request.amountMinor ∧ request.amountMinor ≤ maxSafeInteger := by
  have amount := @positiveInt_round request.amountMinor
  have members : RefundBody.parse request.payload =
      if 1 ≤ jsLength request.chargeId ∧ jsLength request.chargeId ≤ 120 ∧
          positiveInt (Binary64.round request.amountMinor) then
        some ⟨request.chargeId, (Binary64.round request.amountMinor).num⟩
      else none := rfl
  unfold RefundRequest.Agrees
  rw [members]
  split_ifs with taken
  · obtain ⟨least, most, whole⟩ := taken
    simp only [Option.some.injEq, RefundBody.mk.injEq, true_and, least, most]
    rw [← amount]
    exact ⟨fun same => ⟨whole, same⟩, And.right⟩
  · refine iff_of_false nofun ?_
    rintro ⟨least, most, positive, safe⟩
    exact taken ⟨least, most, (amount.mpr ⟨positive, safe⟩).1⟩

/-! ## Lookups -/

section Lookups

variable {param : String → Option String} {deliveriesFor : String → List Json}
  {db : PostgresLedger} {id : String}

theorem bigInt_number {n : Int} (small : |n| ≤ 2 ^ 53) : bigInt (some (number n)) = .ok n := by
  simp [bigInt, number, Binary64.round_int small]

/-- The views have no member `id`. -/
theorem readCharge_id {charge : Charge} {refunds : List Refund} {deliveries : List Json}
    {state : ChargeState} (read : readCharge (chargeView charge refunds deliveries) = .ok state) :
    state.chargeId = none := by
  unfold readCharge at read
  cases amount : bigInt ((chargeView charge refunds deliveries).get? "amount_minor") with
  | error e =>
      rw [amount] at read
      cases read
  | ok amountMinor =>
      rw [amount] at read
      cases read
      rfl

theorem readRefund_id {refund : Refund} {deliveries : List Json} {state : RefundState}
    (read : readRefund (refundView refund deliveries) = .ok state) : state.refundId = none := by
  unfold readRefund at read
  cases amount : bigInt ((refundView refund deliveries).get? "amount_minor") with
  | error e =>
      rw [amount] at read
      cases read
  | ok amountMinor =>
      rw [amount] at read
      cases read
      rfl

/-- Everything but the id of a charge is read back. -/
theorem getCharge_stored {charge : Charge} (routed : param id = some id)
    (stored : db.getCharge id = some charge) (small : |charge.amountMinor| ≤ 2 ^ 53) :
    getCharge param deliveriesFor db id = .ok (some
      ⟨none, some (.str charge.reference), charge.amountMinor, some (.str charge.status.label)⟩) := by
  have read : readCharge (chargeView charge (db.refundsFor charge.id) (deliveriesFor charge.id)) =
      (bigInt (some (number charge.amountMinor))).map fun amountMinor =>
        ⟨none, some (.str charge.reference), amountMinor, some (.str charge.status.label)⟩ := by
    unfold readCharge
    rw [show (chargeView charge (db.refundsFor charge.id) (deliveriesFor charge.id)).get?
      "amount_minor" = some (number charge.amountMinor) from rfl]
    cases bigInt (some (number charge.amountMinor)) <;> rfl
  unfold getCharge
  rw [routed]
  simp only [Option.elim_some, chargeRoute, stored, read, bigInt_number small]
  rfl

theorem getRefund_stored {refund : Refund} (routed : param id = some id)
    (stored : db.getRefund id = some refund) (small : |refund.amountMinor| ≤ 2 ^ 53) :
    getRefund param deliveriesFor db id = .ok (some
      ⟨none, some (.str refund.chargeId), refund.amountMinor, some (.str refund.status.label)⟩) := by
  have read (deliveries : List Json) : readRefund (refundView refund deliveries) =
      (bigInt (some (number refund.amountMinor))).map fun amountMinor =>
        ⟨none, some (.str refund.chargeId), amountMinor, some (.str refund.status.label)⟩ := by
    unfold readRefund
    rw [show (refundView refund deliveries).get? "amount_minor" =
      some (number refund.amountMinor) from rfl]
    cases bigInt (some (number refund.amountMinor)) <;> rfl
  unfold getRefund
  rw [routed]
  simp only [Option.elim_some, refundRoute, stored, read, bigInt_number small]
  rfl

/-- What is found is found without its id; only what is not there is read right. -/
theorem chargeAgrees_iff : ChargeAgrees param deliveriesFor db id ↔
    db.getCharge id = none ∧ ∀ path, param id = some path → db.getCharge path = none := by
  unfold ChargeAgrees getCharge
  cases stored : db.getCharge id with
  | some charge =>
      refine iff_of_false ?_ (by simp)
      rintro ⟨state, found, named, -⟩
      split at found
      · cases found
      · rename_i body replied
        cases routed : param id with
        | none =>
            rw [routed] at replied
            cases replied
        | some path =>
            rw [routed, Option.elim_some, chargeRoute] at replied
            split at replied
            · cases replied
            · cases replied
              obtain ⟨state', read, same⟩ := Tx.map_ok.mp found
              cases same
              rw [readCharge_id read] at named
              cases named
  | none =>
      cases routed : param id with
      | none => simp
      | some path =>
          simp only [Option.elim_some, chargeRoute, Option.some.injEq, forall_eq', true_and]
          cases other : db.getCharge path with
          | none => simp
          | some charge =>
              refine iff_of_false (fun found => ?_) nofun
              obtain ⟨_, _, same⟩ := Tx.map_ok.mp found
              cases same

theorem refundAgrees_iff : RefundAgrees param deliveriesFor db id ↔
    db.getRefund id = none ∧ ∀ path, param id = some path → db.getRefund path = none := by
  unfold RefundAgrees getRefund
  cases stored : db.getRefund id with
  | some refund =>
      refine iff_of_false ?_ (by simp)
      rintro ⟨state, found, named, -⟩
      split at found
      · cases found
      · rename_i body replied
        cases routed : param id with
        | none =>
            rw [routed] at replied
            cases replied
        | some path =>
            rw [routed, Option.elim_some, refundRoute] at replied
            split at replied
            · cases replied
            · cases replied
              obtain ⟨state', read, same⟩ := Tx.map_ok.mp found
              cases same
              rw [readRefund_id read] at named
              cases named
  | none =>
      cases routed : param id with
      | none => simp
      | some path =>
          simp only [Option.elim_some, refundRoute, Option.some.injEq, forall_eq', true_and]
          cases other : db.getRefund path with
          | none => simp
          | some refund =>
              refine iff_of_false (fun found => ?_) nofun
              obtain ⟨_, _, same⟩ := Tx.map_ok.mp found
              cases same

end Lookups

/-- **Where the two packages agree on the wire**: on the lookups of ids the ledger does not
have, and on the bodies whose amount is positive and a safe integer, and whose texts the
schema takes. -/
theorem wire_agrees_iff (param : String → Option String) (deliveriesFor : String → List Json)
    (db : PostgresLedger) :
    (∀ id, ChargeAgrees param deliveriesFor db id ↔
      db.getCharge id = none ∧ ∀ path, param id = some path → db.getCharge path = none) ∧
    (∀ id, RefundAgrees param deliveriesFor db id ↔
      db.getRefund id = none ∧ ∀ path, param id = some path → db.getRefund path = none) ∧
    (∀ request : ChargeRequest, request.Agrees ↔
      0 < request.amountMinor ∧ request.amountMinor ≤ maxSafeInteger ∧
        isCurrencyCode request.currency = true ∧ 1 ≤ jsLength request.bookingId ∧
        jsLength request.bookingId ≤ 200) ∧
    ∀ request : RefundRequest, request.Agrees ↔
      1 ≤ jsLength request.chargeId ∧ jsLength request.chargeId ≤ 120 ∧
        0 < request.amountMinor ∧ request.amountMinor ≤ maxSafeInteger :=
  ⟨fun _ => chargeAgrees_iff, fun _ => refundAgrees_iff, charge_agrees_iff, refund_agrees_iff⟩

/-- **A charge that succeeded is read back without its id**, and the charge of a free
booking is refused. -/
theorem wire_disagrees :
    (¬ ∀ (db : PostgresLedger) (id : String), ChargeAgrees some (fun _ => []) db id) ∧
      ¬ ∀ request : ChargeRequest, request.currency = "PKR" → 0 ≤ request.amountMinor →
        jsLength request.bookingId = 36 → request.Agrees := by
  constructor
  · intro claim
    have agrees := claim Sample.paidBefore "ch_1"
    have missing := (chargeAgrees_iff.mp agrees).1
    have found : (Sample.paidBefore.getCharge "ch_1").isSome = true := by decide +kernel
    rw [missing] at found
    cases found
  · intro claim
    have free := claim ⟨"00000000-0000-4000-a000-000000000007", 0, "PKR"⟩ rfl le_rfl
      (by decide +kernel)
    exact absurd ((charge_agrees_iff _).mp free).1 (lt_irrefl _)

end PaygateClient

end Atrium.Paygate
