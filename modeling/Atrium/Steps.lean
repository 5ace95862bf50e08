/-
# Steps -- what a step can do

`step` read backwards, once.  A step commits a transaction, rolls one back, or
commits nothing and moves one process; `Commits` and `Local` say from which state
and to which.  Invariants over runs are proved by cases on these and never unfold
`step`.
-/
import Atrium.Api

namespace Atrium

open Atrium.Base

set_option autoImplicit false

/-! ## Steps that commit nothing -/

inductive Local (env : Env) (api : Api) : Action → Api → Prop
  | ticked (ms : Nat) : Local env api (.tick ms) { api with now := api.now + ms }
  | holdOpened (pid : Pid) (input : HoldInput) (principal : AuthPrincipal) (ctx : RoomContext) :
      api.procs.get? pid = none → loadRoomContext input.roomId api.db = .ok (ctx, api.db) →
      Local env api (.holdBegin pid input principal)
        (api.become pid (some (.holdOpen ⟨input, ctx, principal, api.now⟩)))
  | holdExpired (pid : Pid) (tx : HoldTx) :
      api.procs.get? pid = some (.holdOpen tx) → api.roomFree pid tx.input.roomId.text = true →
      api.rowsFree (some pid)
        (staleHoldsOfRoom api.db tx.input.roomId.value tx.startedAt) = true →
      Local env api (.holdExpire pid) (api.become pid (some (.holdExpired tx
        (staleHoldsOfRoom api.db tx.input.roomId.value tx.startedAt))))
  | holdBare (pid : Pid) (tx : HoldTx) (expired : List Uuid) :
      api.procs.get? pid = some (.holdExpired tx expired) → tx.input.lineItems = [] →
      Local env api (.holdLock pid) (api.become pid (some (.holdAdmitted tx expired [] [])))
  | holdLocked (pid : Pid) (tx : HoldTx) (expired : List Uuid)
      (locked : List (Uuid × EquipmentType)) :
      api.procs.get? pid = some (.holdExpired tx expired) →
      lockRequested tx.input tx.ctx (tx.view api.db expired) =
        .ok (locked, tx.view api.db expired) →
      api.typesFree pid (locked.map Prod.fst) = true →
      Local env api (.holdLock pid) (api.become pid (some (.holdLocked tx expired locked)))
  | holdAdmitted (pid : Pid) (tx : HoldTx) (expired : List Uuid)
      (locked : List (Uuid × EquipmentType)) (priced : List PricedItem) :
      api.procs.get? pid = some (.holdLocked tx expired locked) →
      admitLocked tx.input tx.ctx tx.startedAt locked (tx.view api.db expired) =
        .ok (priced, tx.view api.db expired) →
      Local env api (.holdAdmit pid)
        (api.become pid (some (.holdAdmitted tx expired locked priced)))
  | checkingOut (pid : Pid) (bookingId : UuidText) (principal : AuthPrincipal) (booking : Booking) :
      api.procs.get? pid = none → api.db.bookings.get? bookingId.value = some booking →
      Local env api (.checkoutBegin pid bookingId principal)
        (api.become pid (some (.checkingOut bookingId principal booking api.now)))
  | paying (pid : Pid) (bookingId : UuidText) (principal : AuthPrincipal) (booking : Booking) :
      api.procs.get? pid = none → api.db.bookings.get? bookingId.value = some booking →
      Local env api (.payBegin pid bookingId principal)
        (api.become pid (some (.paying bookingId principal booking api.now)))
  | payingRead (pid : Pid) (bookingId : UuidText) (principal : AuthPrincipal) (booking : Booking)
      (startedAt : Instant) :
      api.procs.get? pid = some (.paying bookingId principal booking startedAt) →
      Local env api (.payRead pid) (api.become pid (some (.payingRead bookingId principal booking
        (paymentByKey api.db (chargeKey bookingId.text)) startedAt)))
  | charged (pid : Pid) (request : ChargeRequest) (paymentId : Uuid) :
      api.procs.get? pid = some (.charging request paymentId) →
      Local env api (.sendCharge pid) { api.become pid (some (.charged request paymentId)) with
        chargeRequests := api.chargeRequests ++ [request] }
  | chargeAnswered (pid : Pid) (request : ChargeRequest) (paymentId : Uuid) (chargeId : String) :
      api.procs.get? pid = some (.charged request paymentId) →
      Local env api (.answerCharge pid chargeId)
        (api.become pid (some (.chargeAnswered paymentId chargeId)))
  | refundSent (pid : Pid) (instruction : RefundInstruction) :
      api.procs.get? pid = some (.refunding instruction) →
      Local env api (.sendRefund pid) { api.become pid (some (.refundSent instruction)) with
        refundRequests := api.refundRequests ++ [instruction] }
  | refundAnswered (pid : Pid) (instruction : RefundInstruction) (refundId : String) :
      api.procs.get? pid = some (.refundSent instruction) →
      Local env api (.answerRefund pid (.ok refundId))
        (api.become pid (some (.refundAnswered instruction refundId)))
  | refundFailed (pid : Pid) (instruction : RefundInstruction) (message : String) :
      api.procs.get? pid = some (.refundSent instruction) →
      Local env api (.answerRefund pid (.error message))
        (api.become pid (some (.refundFailed instruction message)))
  | polling (pid : Pid) (payment : Uuid × Payment) (chargeId : String) :
      api.procs.get? pid = none → payment ∈ chargesToPoll env api.db api.now →
      payment.2.chargeId = some chargeId →
      Local env api (.selectCharge pid payment.1)
        (api.become pid (some (.polling payment chargeId)))
  | pollingRefund (pid : Pid) (payment : Uuid × Payment) (chargeId refundId : String) :
      api.procs.get? pid = none → payment ∈ refundsToPoll env api.db api.now →
      payment.2.chargeId = some chargeId → payment.2.refundId = some refundId →
      Local env api (.selectRefund pid payment.1)
        (api.become pid (some (.pollingRefund payment chargeId refundId)))
  /-- A statement that threw, or a crash. -/
  | ended (a : Action) (pid : Pid) : Local env api a (api.become pid none)

theorem loadRoomContext_ok {roomId : UuidText} {ctx : RoomContext} {db db' : Db}
    (returned : loadRoomContext roomId db = .ok (ctx, db')) :
    db' = db ∧ ∃ room venue, db.rooms.get? roomId.value = some room ∧
      db.venues.get? room.venueId = some venue ∧ ctx.venueId = room.venueId ∧
      ctx.overbookingBufferPct = venue.overbookingBufferPct := by
  simp only [loadRoomContext, Tx.bind_ok, Tx.fetch_ok, Tx.pure_ok] at returned
  obtain ⟨room, _, ⟨here, rfl⟩, venue, _, ⟨owner, rfl⟩, hours, _, ⟨-, rfl⟩, rfl, rfl⟩ := returned
  exact ⟨rfl, room, venue, here, owner, rfl, rfl⟩

theorem assertBookable_ok {env : Env} {input : HoldInput} {ctx : RoomContext} {now : Instant}
    {db db' : Db} {u : Unit} (returned : assertBookable env input ctx now db = .ok (u, db')) :
    db' = db := by
  simp only [assertBookable, Tx.ite_ok, Tx.abort_ok, and_false, false_or] at returned
  obtain ⟨-, -, -, returned⟩ := returned
  cases known : env.timeZone ctx.timezone with
  | none => simp [known] at returned
  | some zone =>
      simp only [known, Tx.ite_ok, Tx.pure_ok, Tx.abort_ok, and_false, or_false] at returned
      exact returned.2.2.symm

theorem openHold_ok {env : Env} {input : HoldInput} {now : Instant} {ctx : RoomContext}
    {db db' : Db} (returned : openHold env input now db = .ok (ctx, db')) :
    loadRoomContext input.roomId db = .ok (ctx, db) ∧ db' = db := by
  simp only [openHold, Tx.bind_ok, Tx.pure_ok] at returned
  obtain ⟨ctx', t, read, _, t', allowed, rfl, rfl⟩ := returned
  obtain rfl := (loadRoomContext_ok read).1
  exact ⟨read, assertBookable_ok allowed⟩

theorem loadOwned_ok {bookingId : UuidText} {principal : AuthPrincipal} {b : Booking} {db db' : Db}
    (returned : loadOwned bookingId principal db = .ok (b, db')) :
    db' = db ∧ db.bookings.get? bookingId.value = some b := by
  simp only [loadOwned, Tx.fetch_ok, Option.filter_eq_some_iff] at returned
  exact ⟨returned.2.symm, returned.1.1⟩

/-- A request that started read its first row from the database as it stood. -/
theorem begin_some {api api' : Api} {pid : Pid} {α : Type} {first : Transaction α} {p : α → Proc}
    (begun : api.begin pid first p = some api') :
    api.procs.get? pid = none ∧ ∃ a db', first api.db = .ok (a, db') ∧
      api' = api.become pid (some (p a)) := by
  unfold Api.begin at begun
  split at begun
  · rename_i idle
    cases read : first api.db with
    | error e => simp [read] at begun
    | ok r =>
        simp only [read, Option.some.injEq] at begun
        exact ⟨Option.isNone_iff_eq_none.mp idle, r.1, r.2, rfl, begun.symm⟩
  · cases begun

namespace Local

variable {env : Env} {api api' : Api} {pid : Pid}

/-- A hold expires the due holds of its room, none of them locked. -/
theorem of_holdExpire (stepped : (Action.holdExpire pid).local? env api = some api') :
    Local env api (.holdExpire pid) api' := by
  simp only [Action.local?] at stepped
  split at stepped
  · rename_i tx here
    split at stepped
    · rename_i free
      cases stepped
      exact .holdExpired pid tx here free.1 free.2
    · cases stepped
  · cases stepped

/-- A hold without equipment locks no type; another locks its types, or ends. -/
theorem of_holdLock (stepped : (Action.holdLock pid).local? env api = some api') :
    Local env api (.holdLock pid) api' := by
  simp only [Action.local?] at stepped
  split at stepped
  · rename_i tx expired here
    split at stepped
    · rename_i bare
      cases stepped
      exact .holdBare pid tx expired here bare
    · cases lock : lockRequested tx.input tx.ctx (tx.view api.db expired) with
      | error e =>
          simp only [lock, Option.some.injEq] at stepped
          subst stepped
          exact .ended _ pid
      | ok r =>
          obtain ⟨locked, db'⟩ := r
          simp only [lock] at stepped
          split at stepped
          · rename_i free
            cases stepped
            rw [(lockRequested_ok lock).1] at lock
            exact .holdLocked pid tx expired locked here lock free
          · cases stepped
  · cases stepped

/-- A hold is admitted, or ends. -/
theorem of_holdAdmit (stepped : (Action.holdAdmit pid).local? env api = some api') :
    Local env api (.holdAdmit pid) api' := by
  simp only [Action.local?] at stepped
  split at stepped
  · rename_i tx expired locked here
    cases admission : admitLocked tx.input tx.ctx tx.startedAt locked (tx.view api.db expired) with
    | error e =>
        simp only [Api.goOn, admission, Option.some.injEq] at stepped
        subst stepped
        exact .ended _ pid
    | ok r =>
        obtain ⟨priced, db'⟩ := r
        simp only [Api.goOn, admission, Option.some.injEq] at stepped
        subst stepped
        rw [(admitLocked_ok admission).1] at admission
        exact .holdAdmitted pid tx expired locked priced here admission
  · cases stepped

/-- The provider names the refund, or fails. -/
theorem of_answerRefund {answer : Except String String}
    (stepped : (Action.answerRefund pid answer).local? env api = some api') :
    Local env api (.answerRefund pid answer) api' := by
  simp only [Action.local?] at stepped
  split at stepped
  · rename_i instruction here
    cases answer with
    | ok refundId =>
        cases stepped
        exact .refundAnswered pid instruction refundId here
    | error message =>
        cases stepped
        exact .refundFailed pid instruction message here
  · cases stepped

/-- The worker polls for an unsettled payment that has its charge id. -/
theorem of_selectCharge {paymentId : Uuid}
    (stepped : (Action.selectCharge pid paymentId).local? env api = some api') :
    Local env api (.selectCharge pid paymentId) api' := by
  simp only [Action.local?] at stepped
  split at stepped
  · rename_i payment idle found
    obtain ⟨chargeId, bound, rfl⟩ := Option.map_eq_some_iff.mp stepped
    have same := List.find?_some found
    simp only [decide_eq_true_eq] at same
    subst same
    exact .polling pid payment chargeId idle (List.mem_of_find?_eq_some found) bound
  · cases stepped

/-- The worker polls for an unsettled refund that has its id. -/
theorem of_selectRefund {paymentId : Uuid}
    (stepped : (Action.selectRefund pid paymentId).local? env api = some api') :
    Local env api (.selectRefund pid paymentId) api' := by
  simp only [Action.local?] at stepped
  split at stepped
  · rename_i payment idle found
    have same := List.find?_some found
    simp only [decide_eq_true_eq] at same
    subst same
    split at stepped
    · rename_i refundId chargeId settled bound
      cases stepped
      exact .pollingRefund pid payment chargeId refundId idle
        (List.mem_of_find?_eq_some found) bound settled
    · cases stepped
  · cases stepped

end Local

theorem local_cases {env : Env} {a : Action} {api api' : Api}
    (stepped : a.local? env api = some api') : Local env api a api' := by
  cases a with
  | tick ms =>
      cases stepped
      exact .ticked ms
  | holdBegin pid input principal =>
      simp only [Action.local?] at stepped
      obtain ⟨idle, ctx, _, read, rfl⟩ := begin_some stepped
      exact .holdOpened pid input principal ctx idle (openHold_ok read).1
  | holdExpire pid => exact .of_holdExpire stepped
  | holdLock pid => exact .of_holdLock stepped
  | holdAdmit pid => exact .of_holdAdmit stepped
  | checkoutBegin pid bookingId principal =>
      simp only [Action.local?] at stepped
      obtain ⟨idle, booking, _, read, rfl⟩ := begin_some stepped
      exact .checkingOut pid bookingId principal booking idle (loadOwnedBooking_ok read).2
  | payBegin pid bookingId principal =>
      simp only [Action.local?] at stepped
      obtain ⟨idle, booking, _, read, rfl⟩ := begin_some stepped
      exact .paying pid bookingId principal booking idle (loadOwned_ok read).2
  | payRead pid =>
      simp only [Action.local?] at stepped
      split at stepped
      · rename_i bookingId principal booking startedAt here
        cases stepped
        exact .payingRead pid bookingId principal booking startedAt here
      · cases stepped
  | sendCharge pid =>
      simp only [Action.local?] at stepped
      split at stepped
      · rename_i request paymentId here
        cases stepped
        exact .charged pid request paymentId here
      · cases stepped
  | answerCharge pid chargeId =>
      simp only [Action.local?] at stepped
      split at stepped
      · rename_i request paymentId here
        cases stepped
        exact .chargeAnswered pid request paymentId chargeId here
      · cases stepped
  | sendRefund pid =>
      simp only [Action.local?] at stepped
      split at stepped
      · rename_i instruction here
        cases stepped
        exact .refundSent pid instruction here
      · cases stepped
  | answerRefund pid answer => exact .of_answerRefund stepped
  | selectCharge pid paymentId => exact .of_selectCharge stepped
  | selectRefund pid paymentId => exact .of_selectRefund stepped
  | abandon pid =>
      cases stepped
      exact .ended _ pid
  | _ => cases stepped

/-! ## Commits -/

/-- Which transaction an action commits, and from which process. -/
inductive Commits (api : Api) : Action → Commit → Prop
  | hold (pid : Pid) (id : Uuid) (now : Instant) (tx : HoldTx) (expired : List Uuid)
      (locked : List (Uuid × EquipmentType)) (priced : List PricedItem) :
      api.procs.get? pid = some (.holdAdmitted tx expired locked priced) →
      during tx.startedAt now api →
      Commits api (.holdCommit pid id now)
        ⟨some pid, .hold tx.input tx.ctx tx.principal ⟨id, tx.startedAt, now⟩ expired priced, none⟩
  | checkout (pid : Pid) (now : Instant) (bookingId : UuidText) (principal : AuthPrincipal)
      (booking : Booking) (startedAt : Instant) :
      api.procs.get? pid = some (.checkingOut bookingId principal booking startedAt) →
      during startedAt now api →
      Commits api (.checkoutCommit pid now)
        ⟨some pid, .checkout bookingId principal booking now, none⟩
  | pay (pid : Pid) (paymentId : Uuid) (now : Instant) (bookingId : UuidText)
      (principal : AuthPrincipal) (booking : Booking) (existing : Option (Uuid × Payment))
      (startedAt : Instant) :
      api.procs.get? pid = some (.payingRead bookingId principal booking existing startedAt) →
      during startedAt now api →
      Commits api (.payCommit pid paymentId now)
        ⟨some pid, .pay bookingId principal booking existing ⟨paymentId, startedAt, now⟩, none⟩
  | bindCharge (pid : Pid) (now : Instant) (paymentId : Uuid) (chargeId : String) :
      api.procs.get? pid = some (.chargeAnswered paymentId chargeId) → now ≤ api.now →
      Commits api (.bindCharge pid now) ⟨some pid, .bindCharge paymentId chargeId now, none⟩
  | cancel (pid : Pid) (bookingId : UuidText) (reason : String) (principal : AuthPrincipal)
      (now : Instant) :
      api.procs.get? pid = none → now ≤ api.now →
      Commits api (.cancel pid bookingId reason principal now)
        ⟨some pid, .cancel bookingId reason principal now, none⟩
  | settleCancellation (pid : Pid) (choice : Uuid) (now : Instant) (bookingId : Uuid) :
      api.procs.get? pid = some (.cancelled bookingId) → now ≤ api.now →
      Commits api (.settleCancellation pid choice now)
        ⟨some pid, .settleCancellation bookingId choice now, none⟩
  | refundAccepted (pid : Pid) (refusal : String) (now : Instant)
      (instruction : RefundInstruction) (refundId : String) :
      api.procs.get? pid = some (.refundAnswered instruction refundId) → now ≤ api.now →
      Commits api (.recordRefund pid refusal now)
        ⟨some pid, .refundAccepted instruction.paymentId refundId now,
          some (.refundFailed instruction refusal)⟩
  | refundRejected (pid : Pid) (refusal : String) (now : Instant)
      (instruction : RefundInstruction) (message : String) :
      api.procs.get? pid = some (.refundFailed instruction message) → now ≤ api.now →
      Commits api (.recordRefund pid refusal now)
        ⟨some pid, .refundRejected instruction.paymentId message now, none⟩
  | deliver (request : WebhookRequest) (rowId : Uuid) (now : Instant) :
      now ≤ api.now →
      Commits api (.deliver request rowId now) ⟨none, .deliver request rowId now, none⟩
  | apply (pid : Pid) (rowId : Uuid) (now : Instant) :
      api.procs.get? pid = none → now ≤ api.now →
      Commits api (.apply pid rowId now) ⟨some pid, .apply rowId now, none⟩
  | chargeUnknown (pid : Pid) (now : Instant) (payment : Uuid × Payment) (chargeId : String) :
      api.procs.get? pid = some (.polling payment chargeId) → now ≤ api.now →
      Commits api (.pollCharge pid .unknown now) ⟨some pid, .chargeUnknown payment.1 now, none⟩
  | captured (pid : Pid) (now : Instant) (payment : Uuid × Payment) (chargeId : String) :
      api.procs.get? pid = some (.polling payment chargeId) → now ≤ api.now →
      Commits api (.pollCharge pid .captured now)
        ⟨some pid, .settleCharge payment chargeId true now, none⟩
  | declined (pid : Pid) (now : Instant) (payment : Uuid × Payment) (chargeId : String) :
      api.procs.get? pid = some (.polling payment chargeId) → now ≤ api.now →
      Commits api (.pollCharge pid .declined now)
        ⟨some pid, .settleCharge payment chargeId false now, none⟩
  | pollRefund (pid : Pid) (found : Option String) (amountMinor : Int) (now : Instant)
      (payment : Uuid × Payment) (chargeId refundId : String) :
      api.procs.get? pid = some (.pollingRefund payment chargeId refundId) → now ≤ api.now →
      Commits api (.pollRefund pid found amountMinor now)
        ⟨some pid, .settleRefund payment chargeId found amountMinor now, none⟩
  | sweep (now : Instant) :
      now ≤ api.now → Commits api (.sweep now) ⟨none, .sweep now api.lockedRows, none⟩
  | addPolicy (id : Uuid) (venueId : Option Uuid) (tiers : Tiers) (now : Instant) :
      now ≤ api.now →
      Commits api (.addPolicy id venueId tiers now) ⟨none, .addPolicy id venueId tiers now, none⟩

theorem commit_cases {api : Api} {a : Action} {c : Commit} (commits : a.commit? api = some c) :
    Commits api a c := by
  cases a with
  | holdCommit pid id now =>
      simp only [Action.commit?] at commits
      split at commits
      · rename_i tx expired locked priced here
        obtain ⟨inside, commits⟩ := Option.ite_none_right_eq_some.mp commits
        cases commits
        exact .hold pid id now tx expired locked priced here inside
      · cases commits
  | checkoutCommit pid now =>
      simp only [Action.commit?] at commits
      split at commits
      · rename_i bookingId principal booking startedAt here
        obtain ⟨inside, commits⟩ := Option.ite_none_right_eq_some.mp commits
        cases commits
        exact .checkout pid now bookingId principal booking startedAt here inside
      · cases commits
  | payCommit pid paymentId now =>
      simp only [Action.commit?] at commits
      split at commits
      · rename_i bookingId principal booking existing startedAt here
        obtain ⟨inside, commits⟩ := Option.ite_none_right_eq_some.mp commits
        cases commits
        exact .pay pid paymentId now bookingId principal booking existing startedAt here inside
      · cases commits
  | bindCharge pid now =>
      simp only [Action.commit?] at commits
      split at commits
      · rename_i paymentId chargeId here
        obtain ⟨past, commits⟩ := Option.ite_none_right_eq_some.mp commits
        cases commits
        exact .bindCharge pid now paymentId chargeId here past
      · cases commits
  | cancel pid bookingId reason principal now =>
      simp only [Action.commit?] at commits
      obtain ⟨⟨idle, past⟩, commits⟩ := Option.ite_none_right_eq_some.mp commits
      cases commits
      exact .cancel pid bookingId reason principal now (Option.isNone_iff_eq_none.mp idle) past
  | settleCancellation pid choice now =>
      simp only [Action.commit?] at commits
      split at commits
      · rename_i bookingId here
        obtain ⟨past, commits⟩ := Option.ite_none_right_eq_some.mp commits
        cases commits
        exact .settleCancellation pid choice now bookingId here past
      · cases commits
  | recordRefund pid refusal now =>
      simp only [Action.commit?] at commits
      split at commits
      · rename_i instruction refundId here
        obtain ⟨past, commits⟩ := Option.ite_none_right_eq_some.mp commits
        cases commits
        exact .refundAccepted pid refusal now instruction refundId here past
      · rename_i instruction message here
        obtain ⟨past, commits⟩ := Option.ite_none_right_eq_some.mp commits
        cases commits
        exact .refundRejected pid refusal now instruction message here past
      · cases commits
  | deliver request rowId now =>
      simp only [Action.commit?] at commits
      obtain ⟨past, commits⟩ := Option.ite_none_right_eq_some.mp commits
      cases commits
      exact .deliver request rowId now past
  | apply pid rowId now =>
      simp only [Action.commit?] at commits
      obtain ⟨⟨idle, past⟩, commits⟩ := Option.ite_none_right_eq_some.mp commits
      cases commits
      exact .apply pid rowId now (Option.isNone_iff_eq_none.mp idle) past
  | pollCharge pid answer now =>
      simp only [Action.commit?] at commits
      split at commits
      · rename_i payment chargeId here
        obtain ⟨past, commits⟩ := Option.ite_none_right_eq_some.mp commits
        cases answer with
        | unknown =>
            cases commits
            exact .chargeUnknown pid now payment chargeId here past
        | captured =>
            cases commits
            exact .captured pid now payment chargeId here past
        | declined =>
            cases commits
            exact .declined pid now payment chargeId here past
      · cases commits
  | pollRefund pid found amountMinor now =>
      simp only [Action.commit?] at commits
      split at commits
      · rename_i payment chargeId refundId here
        obtain ⟨past, commits⟩ := Option.ite_none_right_eq_some.mp commits
        cases commits
        exact .pollRefund pid found amountMinor now payment chargeId refundId here past
      · cases commits
  | sweep now =>
      simp only [Action.commit?] at commits
      obtain ⟨past, commits⟩ := Option.ite_none_right_eq_some.mp commits
      cases commits
      exact .sweep now past
  | addPolicy id venueId tiers now =>
      simp only [Action.commit?] at commits
      obtain ⟨past, commits⟩ := Option.ite_none_right_eq_some.mp commits
      cases commits
      exact .addPolicy id venueId tiers now past
  | _ => cases commits

/-! ## Steps -/

/-- Go on as `p`, where the work has a process. -/
def Api.resume (api : Api) (pid : Option Pid) (p : Option Proc) : Api :=
  match pid with
  | some pid => api.become pid p
  | none => api

namespace Api

@[simp] theorem resume_db (api : Api) (pid : Option Pid) (p : Option Proc) :
    (api.resume pid p).db = api.db := by
  cases pid <;> simp [resume]

@[simp] theorem resume_now (api : Api) (pid : Option Pid) (p : Option Proc) :
    (api.resume pid p).now = api.now := by
  cases pid <;> simp [resume]

@[simp] theorem resume_chargeRequests (api : Api) (pid : Option Pid) (p : Option Proc) :
    (api.resume pid p).chargeRequests = api.chargeRequests := by
  cases pid <;> simp [resume]

@[simp] theorem resume_refundRequests (api : Api) (pid : Option Pid) (p : Option Proc) :
    (api.resume pid p).refundRequests = api.refundRequests := by
  cases pid <;> simp [resume]

theorem resume_procs (api : Api) (pid : Option Pid) (p : Option Proc) (pid' : Pid) :
    (api.resume pid p).procs.get? pid' = if pid = some pid' then p else api.procs.get? pid' := by
  cases pid with
  | none => simp [resume]
  | some pid => simp [resume, become_procs, eq_comm (a := pid')]

end Api

inductive Stepped (env : Env) (a : Action) (api : Api) : Api → Prop
  | committed (c : Commit) (out : Outcome) (db' : Db) :
      a.commit? api = some c → api.rowsFree c.pid (c.txn.locks api.db) = true →
      c.txn.run env api.db = .ok (out, db') →
      Stepped env a api (({ api with db := db' } : Api).resume c.pid out.next)
  | aborted (c : Commit) (e : ApiError) :
      a.commit? api = some c → c.txn.run env api.db = .error e →
      Stepped env a api (api.resume c.pid c.retry)
  | unshared (api' : Api) :
      Local env api a api' → a.commit? api = none → Stepped env a api api'

/-- **Every step is one of the three.** -/
theorem step_cases {env : Env} {a : Action} {api api' : Api} (stepped : step env a api = some api') :
    Stepped env a api api' := by
  unfold step at stepped
  cases commits : a.commit? api with
  | none =>
      simp only [commits] at stepped
      exact .unshared api' (local_cases stepped) commits
  | some c =>
      simp only [commits, Api.commit] at stepped
      obtain ⟨free, stepped⟩ := Option.ite_none_right_eq_some.mp stepped
      cases ran : c.txn.run env api.db with
      | ok r =>
          have done := Stepped.committed c r.1 r.2 commits free ran
          cases owner : c.pid with
          | none =>
              simp only [ran, owner, Option.some.injEq] at stepped
              simpa [Api.resume, owner, stepped] using done
          | some pid =>
              simp only [ran, owner, Option.some.injEq] at stepped
              simpa [Api.resume, owner, stepped] using done
      | error e =>
          have done : Stepped env a api (api.resume c.pid c.retry) := .aborted c e commits ran
          cases owner : c.pid with
          | none =>
              simp only [ran, owner, Option.some.injEq] at stepped
              simpa [Api.resume, owner, stepped] using done
          | some pid =>
              simp only [ran, owner, Option.some.injEq] at stepped
              simpa [Api.resume, owner, stepped] using done

namespace Local

theorem db {env : Env} {api api' : Api} {a : Action} (stepped : Local env api a api') :
    api'.db = api.db := by
  cases stepped <;> simp

end Local

/-- **The database changes only by a committed transaction.** -/
theorem step_db {env : Env} {a : Action} {api api' : Api} (stepped : step env a api = some api') :
    api'.db = api.db ∨ ∃ c out, Commits api a c ∧ api.rowsFree c.pid (c.txn.locks api.db) = true ∧
      Effect env c.txn api.db api'.db out := by
  cases step_cases stepped with
  | committed c out db' commits free ran =>
      refine .inr ⟨c, out, commit_cases commits, free, ?_⟩
      simpa using Txn.run_effect ran
  | aborted => exact .inl (by simp)
  | unshared _ moved => exact .inl moved.db

end Atrium
