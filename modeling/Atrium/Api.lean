/-
# Api -- requests, workers and replicas, interleaved

Any number of requests and background workers run at once against one database
under READ COMMITTED.  A process is a request between two of its statements; it
keeps what it has read, which may be stale, and the locks it holds.  An action is
one statement of one process, the clock, or a commit.

A transaction that locks every row it decides on is one action, `Txn.run` at its
commit.  `hold`, `checkout` and `pay` also read without a lock, so each is split
there.  Which replica a process runs on does not matter: replicas share the
database and nothing else, and `abandon` is a crash at any point.

Three kinds of lock block a step: the room's advisory lock (by the text of the
request's room id), the equipment types a hold has locked, and the booking rows a
hold has expired and not yet committed.
-/
import Atrium.Base.Run
import Atrium.Txn

namespace Atrium

open Atrium.Base

set_option autoImplicit false

abbrev Pid := Nat

/-! ## Processes -/

/-- An open hold transaction: its request, the room it read, and its `now()`. -/
structure HoldTx where
  input : HoldInput
  ctx : RoomContext
  principal : AuthPrincipal
  startedAt : Instant

inductive Proc where
  | holdOpen (tx : HoldTx)
  | holdExpired (tx : HoldTx) (expired : List Uuid)
  | holdLocked (tx : HoldTx) (expired : List Uuid) (locked : List (Uuid × EquipmentType))
  | holdAdmitted (tx : HoldTx) (expired : List Uuid) (locked : List (Uuid × EquipmentType))
      (priced : List PricedItem)
  | checkingOut (bookingId : UuidText) (principal : AuthPrincipal) (booking : Booking)
      (startedAt : Instant)
  | paying (bookingId : UuidText) (principal : AuthPrincipal) (booking : Booking)
      (startedAt : Instant)
  | payingRead (bookingId : UuidText) (principal : AuthPrincipal) (booking : Booking)
      (existing : Option (Uuid × Payment)) (startedAt : Instant)
  /-- Committed, and the provider not called yet. -/
  | charging (request : ChargeRequest) (paymentId : Uuid)
  | charged (request : ChargeRequest) (paymentId : Uuid)
  | chargeAnswered (paymentId : Uuid) (chargeId : String)
  /-- Cancelled, and the money not settled yet. -/
  | cancelled (bookingId : Uuid)
  | refunding (instruction : RefundInstruction)
  | refundSent (instruction : RefundInstruction)
  | refundAnswered (instruction : RefundInstruction) (refundId : String)
  | refundFailed (instruction : RefundInstruction) (message : String)
  | polling (payment : Uuid × Payment) (chargeId : String)
  | pollingRefund (payment : Uuid × Payment) (chargeId refundId : String)

namespace Proc

/-- The room whose advisory lock the process holds. -/
def roomLock : Proc → Option String
  | .holdExpired tx .. | .holdLocked tx .. | .holdAdmitted tx .. => some tx.input.roomId.text
  | _ => none

/-- The booking rows it has updated and not committed. -/
def lockedBookings : Proc → List Uuid
  | .holdExpired _ expired | .holdLocked _ expired _ | .holdAdmitted _ expired _ _ => expired
  | _ => []

/-- The equipment types it has locked. -/
def lockedTypes : Proc → List Uuid
  | .holdLocked _ _ locked | .holdAdmitted _ _ locked _ => locked.map Prod.fst
  | _ => []

end Proc

/-! ## Actions -/

/-- A provider's answer to a lookup that has a consequence. -/
inductive ChargeAnswer where
  | unknown
  | captured
  | declined

inductive Action where
  | tick (ms : Nat)
  | holdBegin (pid : Pid) (input : HoldInput) (principal : AuthPrincipal)
  | holdExpire (pid : Pid)
  | holdLock (pid : Pid)
  | holdAdmit (pid : Pid)
  | holdCommit (pid : Pid) (id : Uuid) (now : Instant)
  | checkoutBegin (pid : Pid) (bookingId : UuidText) (principal : AuthPrincipal)
  | checkoutCommit (pid : Pid) (now : Instant)
  | payBegin (pid : Pid) (bookingId : UuidText) (principal : AuthPrincipal)
  | payRead (pid : Pid)
  | payCommit (pid : Pid) (paymentId : Uuid) (now : Instant)
  | sendCharge (pid : Pid)
  | answerCharge (pid : Pid) (chargeId : String)
  | bindCharge (pid : Pid) (now : Instant)
  | cancel (pid : Pid) (bookingId : UuidText) (reason : String) (principal : AuthPrincipal)
      (now : Instant)
  | settleCancellation (pid : Pid) (choice : Uuid) (now : Instant)
  | sendRefund (pid : Pid)
  | answerRefund (pid : Pid) (answer : Except String String)
  /-- `refusal` is the driver's message where the update is refused. -/
  | recordRefund (pid : Pid) (refusal : String) (now : Instant)
  | deliver (request : WebhookRequest) (rowId : Uuid) (now : Instant)
  | apply (pid : Pid) (rowId : Uuid) (now : Instant)
  | selectCharge (pid : Pid) (paymentId : Uuid)
  | pollCharge (pid : Pid) (answer : ChargeAnswer) (now : Instant)
  | selectRefund (pid : Pid) (paymentId : Uuid)
  | pollRefund (pid : Pid) (refundId : Option String) (amountMinor : Int) (now : Instant)
  | sweep (now : Instant)
  | addPolicy (id : Uuid) (venueId : Option Uuid) (tiers : Tiers) (now : Instant)
  /-- A crash, a lost connection, or an answer that has no consequence. -/
  | abandon (pid : Pid)

/-! ## States -/

structure Api where
  now : Instant
  db : Db
  procs : Table Pid Proc
  /-- The requests ever sent to the provider. -/
  chargeRequests : List ChargeRequest
  refundRequests : List RefundInstruction

/-- Nothing booked, paid or recorded yet. -/
def Db.Fresh (db : Db) : Prop :=
  db.bookings = Table.empty ∧ db.bookingLineItems = [] ∧ db.payments = Table.empty ∧
    db.paymentEvents = [] ∧ db.webhookDeliveries = Table.empty ∧ db.auditEvents = []

def Api.start (now : Instant) (db : Db) : Api := ⟨now, db, Table.empty, [], []⟩

namespace Api

/-- The processes but `pid`; all of them for work that has no process. -/
def others (api : Api) (pid : Option Pid) : List Proc :=
  (api.procs.select fun pid' _ => decide (pid ≠ some pid')).map Prod.snd

/-- No other process holds one of these booking rows. -/
def rowsFree (api : Api) (pid : Option Pid) (ids : List Uuid) : Bool :=
  (api.others pid).all fun p => p.lockedBookings.all fun id => decide (id ∉ ids)

def typesFree (api : Api) (pid : Pid) (ids : List Uuid) : Bool :=
  (api.others (some pid)).all fun p => p.lockedTypes.all fun id => decide (id ∉ ids)

def roomFree (api : Api) (pid : Pid) (room : String) : Bool :=
  (api.others (some pid)).all fun p => decide (p.roomLock ≠ some room)

def lockedRows (api : Api) : List Uuid :=
  api.procs.rows.flatMap fun row => row.2.lockedBookings

/-- Go on as `p`, or end the request. -/
def become (api : Api) (pid : Pid) (p : Option Proc) : Api :=
  match p with
  | some p => { api with procs := api.procs.put pid p }
  | none => { api with procs := api.procs.remove pid }

end Api

/-- A transaction about to be committed, by a process or by none. `retry` is what the
request goes on as when the transaction is rolled back. -/
structure Commit where
  pid : Option Pid
  txn : Txn
  retry : Option Proc

/-- What a request goes on as after its transaction. -/
def Outcome.next : Outcome → Option Proc
  | .done => none
  | .charge request paymentId => some (.charging request paymentId)
  | .cancelled bookingId => some (.cancelled bookingId)
  | .refund instruction =>
      -- `settleRefund` returns at once where there is nothing to send.
      if instruction.amountMinor ≤ 0 then none else some (.refunding instruction)

/-- The instant lies between the transaction's own and the commit. -/
def during (startedAt now : Instant) (api : Api) : Prop := startedAt ≤ now ∧ now ≤ api.now

instance (startedAt now : Instant) (api : Api) : Decidable (during startedAt now api) :=
  inferInstanceAs (Decidable (_ ∧ _))

/-- The transaction an action commits, if it commits one and is enabled. -/
def Action.commit? (api : Api) : Action → Option Commit
  | .holdCommit pid id now =>
      match api.procs.get? pid with
      | some (.holdAdmitted tx expired _ priced) =>
          if during tx.startedAt now api then
            some ⟨some pid, .hold tx.input tx.ctx tx.principal ⟨id, tx.startedAt, now⟩ expired priced,
              none⟩
          else none
      | _ => none
  | .checkoutCommit pid now =>
      match api.procs.get? pid with
      | some (.checkingOut bookingId principal booking startedAt) =>
          if during startedAt now api then
            some ⟨some pid, .checkout bookingId principal booking now, none⟩
          else none
      | _ => none
  | .payCommit pid paymentId now =>
      match api.procs.get? pid with
      | some (.payingRead bookingId principal booking existing startedAt) =>
          if during startedAt now api then
            some ⟨some pid, .pay bookingId principal booking existing ⟨paymentId, startedAt, now⟩, none⟩
          else none
      | _ => none
  | .bindCharge pid now =>
      match api.procs.get? pid with
      | some (.chargeAnswered paymentId chargeId) =>
          if now ≤ api.now then some ⟨some pid, .bindCharge paymentId chargeId now, none⟩ else none
      | _ => none
  | .cancel pid bookingId reason principal now =>
      if (api.procs.get? pid).isNone ∧ now ≤ api.now then
        some ⟨some pid, .cancel bookingId reason principal now, none⟩
      else none
  | .settleCancellation pid choice now =>
      match api.procs.get? pid with
      | some (.cancelled bookingId) =>
          if now ≤ api.now then some ⟨some pid, .settleCancellation bookingId choice now, none⟩ else none
      | _ => none
  | .recordRefund pid refusal now =>
      match api.procs.get? pid with
      | some (.refundAnswered instruction refundId) =>
          if now ≤ api.now then
            some ⟨some pid, .refundAccepted instruction.paymentId refundId now,
              some (.refundFailed instruction refusal)⟩
          else none
      | some (.refundFailed instruction message) =>
          if now ≤ api.now then some ⟨some pid, .refundRejected instruction.paymentId message now, none⟩
          else none
      | _ => none
  | .deliver request rowId now =>
      if now ≤ api.now then some ⟨none, .deliver request rowId now, none⟩ else none
  | .apply pid rowId now =>
      if (api.procs.get? pid).isNone ∧ now ≤ api.now then some ⟨some pid, .apply rowId now, none⟩
      else none
  | .pollCharge pid answer now =>
      match api.procs.get? pid with
      | some (.polling payment chargeId) =>
          if now ≤ api.now then
            match answer with
            | .unknown => some ⟨some pid, .chargeUnknown payment.1 now, none⟩
            | .captured => some ⟨some pid, .settleCharge payment chargeId true now, none⟩
            | .declined => some ⟨some pid, .settleCharge payment chargeId false now, none⟩
          else none
      | _ => none
  | .pollRefund pid refundId amountMinor now =>
      match api.procs.get? pid with
      | some (.pollingRefund payment chargeId _) =>
          if now ≤ api.now then
            some ⟨some pid, .settleRefund payment chargeId refundId amountMinor now, none⟩
          else none
      | _ => none
  | .sweep now =>
      if now ≤ api.now then some ⟨none, .sweep now api.lockedRows, none⟩ else none
  | .addPolicy id venueId tiers now =>
      if now ≤ api.now then some ⟨none, .addPolicy id venueId tiers now, none⟩ else none
  | _ => none

/-! ## Steps that commit nothing -/

/-- Start a request, unless the process id is taken or its first read fails. -/
def Api.begin (api : Api) (pid : Pid) {α : Type} (first : Transaction α) (p : α → Proc) :
    Option Api :=
  if (api.procs.get? pid).isNone then
    match first api.db with
    | .ok r => some (api.become pid (some (p r.1)))
    | .error _ => none
  else none

/-- Go on as what the statement gives, or end the request where it throws. -/
def Api.goOn (api : Api) (pid : Pid) {α : Type} (statement : Except ApiError (α × Db))
    (p : α → Proc) : Api :=
  match statement with
  | .ok r => api.become pid (some (p r.1))
  | .error _ => api.become pid none

/-- A hold's view: what others have committed, with its own expiries. -/
def HoldTx.view (tx : HoldTx) (db : Db) (expired : List Uuid) : Db :=
  db.expire expired tx.startedAt systemActor "hold.expired.in_transaction"

def Action.local? (env : Env) (api : Api) : Action → Option Api
  | .tick ms => some { api with now := api.now + ms }
  | .holdBegin pid input principal =>
      api.begin pid (openHold env input api.now) fun ctx =>
        .holdOpen ⟨input, ctx, principal, api.now⟩
  | .holdExpire pid =>
      match api.procs.get? pid with
      | some (.holdOpen tx) =>
          let expired := staleHoldsOfRoom api.db tx.input.roomId.value tx.startedAt
          if api.roomFree pid tx.input.roomId.text ∧ api.rowsFree (some pid) expired then
            some (api.become pid (some (.holdExpired tx expired)))
          else none
      | _ => none
  | .holdLock pid =>
      match api.procs.get? pid with
      | some (.holdExpired tx expired) =>
          if tx.input.lineItems = [] then
            some (api.become pid (some (.holdAdmitted tx expired [] [])))
          else
            match lockRequested tx.input tx.ctx (tx.view api.db expired) with
            | .ok r =>
                if api.typesFree pid (r.1.map Prod.fst) then
                  some (api.become pid (some (.holdLocked tx expired r.1)))
                else none
            | .error _ => some (api.become pid none)
      | _ => none
  | .holdAdmit pid =>
      match api.procs.get? pid with
      | some (.holdLocked tx expired locked) =>
          some (api.goOn pid
            (admitLocked tx.input tx.ctx tx.startedAt locked (tx.view api.db expired))
            fun priced => .holdAdmitted tx expired locked priced)
      | _ => none
  | .checkoutBegin pid bookingId principal =>
      api.begin pid (loadOwnedBooking bookingId principal) fun booking =>
        .checkingOut bookingId principal booking api.now
  | .payBegin pid bookingId principal =>
      api.begin pid (loadOwned bookingId principal) fun booking =>
        .paying bookingId principal booking api.now
  | .payRead pid =>
      match api.procs.get? pid with
      | some (.paying bookingId principal booking startedAt) =>
          some (api.become pid (some (.payingRead bookingId principal booking
            (paymentByKey api.db (chargeKey bookingId.text)) startedAt)))
      | _ => none
  | .sendCharge pid =>
      match api.procs.get? pid with
      | some (.charging request paymentId) =>
          some { api.become pid (some (.charged request paymentId)) with
            chargeRequests := api.chargeRequests ++ [request] }
      | _ => none
  | .answerCharge pid chargeId =>
      match api.procs.get? pid with
      | some (.charged _ paymentId) =>
          some (api.become pid (some (.chargeAnswered paymentId chargeId)))
      | _ => none
  | .sendRefund pid =>
      match api.procs.get? pid with
      | some (.refunding instruction) =>
          some { api.become pid (some (.refundSent instruction)) with
            refundRequests := api.refundRequests ++ [instruction] }
      | _ => none
  | .answerRefund pid answer =>
      match api.procs.get? pid with
      | some (.refundSent instruction) =>
          match answer with
          | .ok refundId => some (api.become pid (some (.refundAnswered instruction refundId)))
          | .error message => some (api.become pid (some (.refundFailed instruction message)))
      | _ => none
  | .selectCharge pid paymentId =>
      match api.procs.get? pid, (chargesToPoll env api.db api.now).find? (·.1 = paymentId) with
      | none, some payment =>
          payment.2.chargeId.map fun chargeId =>
            api.become pid (some (.polling payment chargeId))
      | _, _ => none
  | .selectRefund pid paymentId =>
      match api.procs.get? pid, (refundsToPoll env api.db api.now).find? (·.1 = paymentId) with
      | none, some payment =>
          match payment.2.refundId, payment.2.chargeId with
          | some refundId, some chargeId =>
              some (api.become pid (some (.pollingRefund payment chargeId refundId)))
          | _, _ => none
      | _, _ => none
  | .abandon pid => some (api.become pid none)
  | _ => none

/-! ## The step function -/

/-- Commit a transaction, unless another process holds a row it locks.  One that
aborts changes nothing but its own request. -/
def Api.commit (env : Env) (api : Api) (c : Commit) : Option Api :=
  if api.rowsFree c.pid (c.txn.locks api.db) then
    match c.txn.run env api.db with
    | .ok r =>
        match c.pid with
        | some pid => some ({ api with db := r.2 }.become pid r.1.next)
        | none => some { api with db := r.2 }
    | .error _ =>
        match c.pid with
        | some pid => some (api.become pid c.retry)
        | none => some api
  else none

def step (env : Env) (a : Action) (api : Api) : Option Api :=
  match a.commit? api with
  | some c => api.commit env c
  | none => a.local? env api

/-! ## What a step does -/

namespace Api

@[simp] theorem become_db (api : Api) (pid : Pid) (p : Option Proc) :
    (api.become pid p).db = api.db := by
  cases p <;> rfl

@[simp] theorem become_now (api : Api) (pid : Pid) (p : Option Proc) :
    (api.become pid p).now = api.now := by
  cases p <;> rfl

@[simp] theorem become_chargeRequests (api : Api) (pid : Pid) (p : Option Proc) :
    (api.become pid p).chargeRequests = api.chargeRequests := by
  cases p <;> rfl

@[simp] theorem become_refundRequests (api : Api) (pid : Pid) (p : Option Proc) :
    (api.become pid p).refundRequests = api.refundRequests := by
  cases p <;> rfl

theorem become_procs (api : Api) (pid pid' : Pid) (p : Option Proc) :
    (api.become pid p).procs.get? pid' = if pid' = pid then p else api.procs.get? pid' := by
  cases p with
  | none => simp [become, Table.get?_remove]
  | some p => simp [become, Table.get?_put]

theorem mem_others {api : Api} {pid : Option Pid} {p : Proc} :
    p ∈ api.others pid ↔ ∃ pid', pid ≠ some pid' ∧ api.procs.get? pid' = some p := by
  simp only [others, List.mem_map, Prod.exists, exists_eq_right, Table.mem_select,
    decide_eq_true_eq]
  exact exists_congr fun _ => And.comm

theorem rowsFree_iff {api : Api} {pid : Option Pid} {ids : List Uuid} :
    api.rowsFree pid ids = true ↔ ∀ pid' p, pid ≠ some pid' → api.procs.get? pid' = some p →
      ∀ id ∈ p.lockedBookings, id ∉ ids := by
  simp only [rowsFree, List.all_eq_true, mem_others, decide_eq_true_eq]
  grind

theorem typesFree_iff {api : Api} {pid : Pid} {ids : List Uuid} :
    api.typesFree pid ids = true ↔ ∀ pid' p, pid' ≠ pid → api.procs.get? pid' = some p →
      ∀ id ∈ p.lockedTypes, id ∉ ids := by
  simp only [typesFree, List.all_eq_true, mem_others, decide_eq_true_eq]
  grind

theorem mem_lockedRows {api : Api} {id : Uuid} :
    id ∈ api.lockedRows ↔ ∃ pid p, api.procs.get? pid = some p ∧ id ∈ p.lockedBookings := by
  simp [lockedRows, List.mem_flatMap, Table.mem_rows]

end Api

/-! ## A venue to run on -/

namespace Sample

def room : Uuid := 0x00000000000040008000000000000002
def otherRoom : Uuid := 0x00000000000040008000000000000003
def projector : Uuid := 0x00000000000040008000000000000004

/-- Open every day around the clock, in UTC. -/
def openAlways : Json :=
  .obj (["sun", "mon", "tue", "wed", "thu", "fri", "sat"].map fun day =>
    (day, .obj [("open", .str "00:00"), ("close", .str "24:00")]))

def venue : Venue := ⟨"Atrium", "Karachi", "UTC", openAlways, 0, 0, by decide⟩

def roomRow : Room := ⟨1, "Hall", 20, 5000, [], 60, 480⟩

def customer : AuthPrincipal := ⟨5, .customer, none⟩

def tiers : Tiers := ⟨[⟨0, 100, 100⟩], by decide +kernel⟩

/-- One venue with two rooms and one projector, and a platform policy. -/
def db : Db where
  venues := ⟨[(1, venue)], by decide⟩
  rooms := ⟨[(room, roomRow), (otherRoom, roomRow)], by decide⟩
  equipmentTypes := ⟨[(projector, ⟨1, "Projector", 1000, 1⟩)], by decide⟩
  users := [5]
  cancellationPolicies := ⟨[(6, ⟨none, tiers.toJson, 0⟩)], by decide⟩
  bookings := Table.empty
  bookingLineItems := []
  payments := Table.empty
  paymentEvents := []
  webhookDeliveries := Table.empty
  auditEvents := []

/-- The room from ten to eleven, with the projector. -/
def hold : HoldInput :=
  ⟨⟨Uuid.path room, 36000000, 39600000, [⟨projector.text, 1⟩]⟩, by decide +kernel⟩

def otherHold : HoldInput :=
  ⟨⟨Uuid.path otherRoom, 36000000, 39600000, [⟨projector.text, 1⟩]⟩, by decide +kernel⟩

/-- One hold, from its first read to its commit. -/
def holding (pid : Pid) (input : HoldInput) (id : Uuid) (now : Instant) : List Action :=
  [.holdBegin pid input customer, .holdExpire pid, .holdLock pid, .holdAdmit pid,
    .holdCommit pid id now]

/-- One payment, from its first read to the charge id of the answer. -/
def paying (pid : Pid) (bookingId : UuidText) (paymentId : Uuid) (chargeId : String)
    (now : Instant) : List Action :=
  [.payBegin pid bookingId customer, .payRead pid, .payCommit pid paymentId now, .sendCharge pid,
    .answerCharge pid chargeId, .bindCharge pid now]

/-- A signed webhook of an event of a charge. -/
def webhook (deliveryId chargeId : String) (event : EventName) : WebhookRequest :=
  ⟨true, some (.obj [("charge_id", .str chargeId), ("event", .str event.label)]), deliveryId⟩

theorem db_fresh : db.Fresh := ⟨rfl, rfl, rfl, rfl, rfl, rfl⟩

end Sample

end Atrium
