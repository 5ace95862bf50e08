/-
# WebhookIntake -- a delivery as bytes

`ingest` and `applyInTransaction` once more, over what a request really carries: bytes for a
body, which are read as UTF-8 and parsed twice, at intake and at apply, and strings that are
lists of UTF-16 units.  What `Payments` has them do is what they do wherever Postgres takes
the texts they send (`receive_ingest`).
-/
import Atrium.BookingView
import Atrium.TextColumns

namespace Atrium

open Atrium.Base

set_option autoImplicit false

/-! ## What `JSON.parse` returns -/

/-- A number, as far as the code looks at it: a literal past the doubles is infinite. -/
inductive Double where
  | finite (q : ℚ)
  | infinite (negative : Bool)

inductive JsonValue where
  | null
  | bool (b : Bool)
  | num (x : Double)
  | str (units : Utf16)
  | arr (items : List JsonValue)
  | obj (members : List (String × JsonValue))

namespace JsonValue

/-- A member, `none` where it is `undefined`; the last of a key that stands twice. -/
def get? (field : String) : JsonValue → Option JsonValue
  | obj members => (members.reverse.find? fun entry => entry.1 = field).map Prod.snd
  | _ => none

def asString : Option JsonValue → Option Utf16
  | some (str units) => if units = [] then none else some units
  | _ => none

def asNumber : Option JsonValue → Option Double
  | some (num x) => some x
  | _ => none

end JsonValue

namespace JsonValue

/-- A member as the readers of `Json` see it; no reader looks into an array or an object, or
reads an infinite number. -/
def leaf : JsonValue → Json
  | null => .null
  | bool b => .bool b
  | num (.finite q) => .num q
  | num (.infinite _) => .arr []
  | str units => .str units.text
  | arr _ => .arr []
  | obj _ => .obj []

/-- The body as `Db` keeps it. -/
def view : JsonValue → Json
  | obj members => .obj (members.map fun entry => (entry.1, entry.2.leaf))
  | body => body.leaf

end JsonValue

/-- The built-ins of the runtime: `Buffer.toString`, the hexadecimal HMAC of a text under a
secret, `JSON.parse` and `new Date` of a string, `none` where it is no date. -/
structure Runtime where
  utf8 : List UInt8 → String
  hmac : String → String → String
  parse : String → Option JsonValue
  dateOf : Utf16 → Option Instant

/-- A request to the webhook route. -/
structure Post where
  rawBody : List UInt8
  signature : Option String
  deliveryId : Option String

/-- The members of a body, as the code reads them. -/
structure WebhookBody where
  chargeId : Option Utf16
  reference : Option Utf16
  event : Option Utf16
  refundId : Option Utf16
  amountMinor : Option Double
  occurredAt : Option Instant

/-- `BigInt(Math.round(x))`; an infinity has none, and throws. -/
def Double.rounded : Double → Option Int
  | finite q => some ⌊q + 1 / 2⌋
  | infinite _ => none

namespace WebhookBody

/-- The members as `Payments` has them, strings as the columns keep them. -/
def fields (body : WebhookBody) : WebhookFields where
  chargeId := body.chargeId.map Utf16.text
  reference := body.reference.map Utf16.text
  event := body.event.map Utf16.text
  refundId := body.refundId.map Utf16.text
  amountMinor := body.amountMinor.bind Double.rounded

/-- The texts of a body that are columns of its delivery. -/
def columns (body : WebhookBody) : List String :=
  body.fields.chargeId.toList ++ body.fields.reference.toList ++ body.fields.event.toList

end WebhookBody

section Runtime

variable (runtime : Runtime)

def parseDate : Option JsonValue → Option Instant
  | some (.str units) => runtime.dateOf units
  | _ => none

/-- The members of a body; `none` is the `TypeError` of `null`. -/
def readBody : JsonValue → Option WebhookBody
  | .null => none
  | body => some
      { chargeId := JsonValue.asString (body.get? "charge_id")
        reference := JsonValue.asString (body.get? "reference")
        event := JsonValue.asString (body.get? "event")
        refundId := JsonValue.asString (body.get? "refund_id")
        amountMinor := JsonValue.asNumber (body.get? "amount_minor")
        occurredAt := parseDate runtime (body.get? "occurred_at") }

def verifySignature (raw secret : String) (signature : Option String) : Bool :=
  match signature with
  | none => false
  | some actual => actual ≠ "" && runtime.hmac secret raw = actual

/-! ## Recording a delivery -/

/-- The request as `Payments` has it. -/
def Post.request (post : Post) (secret generated : String) : WebhookRequest where
  signed := verifySignature runtime (runtime.utf8 post.rawBody) secret post.signature
  body := (runtime.parse (runtime.utf8 post.rawBody)).map JsonValue.view
  deliveryId := post.deliveryId.getD generated

/-- The insert of `recordDelivery`, with the texts it sends. -/
def recordRaw (rowId : Uuid) (raw : String) (columns : List String) (row : WebhookDelivery) :
    Transaction (Option Uuid) := do
  refuseNul (row.deliveryId :: raw :: columns)
  recordDelivery rowId row

/-- `ingest`, from the bytes.  `generated` is the delivery id made up where the header is absent. -/
def receive (env : Env) (generated : String) (rowId : Uuid) (now : Instant) (post : Post) :
    Transaction IngestStatus := do
  let secret := env.paygateSecret.getD ""
  if secret = "" then
    Tx.abort (.unavailable "PAYGATE_SECRET is not configured" none)
  else do
    let raw := runtime.utf8 post.rawBody
    let request := post.request runtime secret generated
    if request.signed = false then do
      let _ ← recordRaw rowId raw [] (deliveryRow request none (some "invalid_signature") true now)
      pure .rejected
    else
      match runtime.parse raw with
      | none => do
          let _ ← recordRaw rowId raw [] (deliveryRow request none (some "unparseable_body") true now)
          pure (.accepted none)
      | some value => do
          let body ← Tx.fetch (fun _ => readBody runtime value) (.internal "TypeError")
          let unsupported := body.fields.event.any fun event => !supportedEvent event
          let row ← recordRaw rowId raw body.columns (deliveryRow request (some body.fields)
            (if unsupported then some "unsupported_event" else none) unsupported now)
          match row with
          | none => pure .duplicate
          | some id => pure (.accepted (some id))

/-! ## Applying a delivery -/

/-- The text of an instant, which Postgres reads for the years from 1 to 9999. -/
def refuseInstant (t : Option Instant) : Transaction Unit :=
  if t.any fun t => !Instant.isTimestamp t then Tx.abort (.database "22008") else pure ()

/-- `applyEffect`, with the values it sends: a refused one rolls the whole transaction back, so
the metadata of the audit rows is checked once they are written. -/
def applyBody (payment : Uuid × Payment) (body : WebhookBody) (e : WebhookEvent) (now : Instant) :
    Transaction (Option RefundInstruction) :=
  match e.event with
  | .chargeSucceeded => do
      let instruction ← applyEffect payment e now
      refuseJsonb body.chargeId
      pure instruction
  | .chargeFailed => applyEffect payment e now
  | .refundSucceeded => do
      if body.amountMinor.any fun x => x.rounded.isNone then Tx.abort (.internal "RangeError")
      refuseNul e.refundId.toList
      -- Without an amount it is the payment's own, which a bigint column holds already.
      if e.amountMinor.any fun amount => !fitsBigint amount then Tx.abort (.database "22003")
      let instruction ← applyEffect payment e now
      let booking ← lockBooking payment.2.bookingId
      if booking.isSome then
        refuseJsonb body.refundId
      pure instruction

/-- `applyEvent`, with the values it sends. -/
def applyRawEvent (body : WebhookBody) (e : WebhookEvent) (now : Instant) : Transaction Verdict := do
  refuseNul [e.chargeId]
  let found ← findPayment e now
  match found with
  | none => do
      refuseNul e.reference.toList
      pure .unknownCharge
  | some payment => do
      refuseInstant body.occurredAt
      let claimed ← claimEvent ⟨e.chargeId, e.event⟩
      if claimed then do
        let instruction ← applyBody payment body e now
        pure (.applied instruction)
      else pure .duplicateEffect

/-- `applyInTransaction`, from the text of `raw_body`. -/
def applyRaw (rawBody : String) (rowId : Uuid) (now : Instant) :
    Transaction (Option RefundInstruction) := do
  let found ← Tx.read fun db =>
    (db.webhookDeliveries.get? rowId).filter fun d => d.processedAt.isNone
  match found with
  | none => pure none
  | some _ => do
      let value ← Tx.fetch (fun _ => runtime.parse rawBody) (.internal "SyntaxError")
      let body ← Tx.fetch (fun _ => readBody runtime value) (.internal "TypeError")
      match body.fields.supported with
      | none => do
          finishDelivery rowId now (some "unsupported_event")
          pure none
      | some e => do
          let verdict ← applyRawEvent body e now
          settleDelivery rowId e now verdict

end Runtime

end Atrium
