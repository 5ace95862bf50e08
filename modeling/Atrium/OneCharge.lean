/-
# OneCharge -- pay requests and the provider's ledger, together

The API and the provider run side by side.  A charge request that was sent arrives any
number of times or never, the answer may be lost, either side may crash, and a webhook
may come before the answer.  Of the provider it is assumed that it answers a request
with the charge its key resolves to, and signs events of its own charges with their
references.

A booking whose id every pay request spells alike has one key, so one payment and one
charge.  `OneSpelling` asks that of a request as it begins.
-/
import Atrium.PaymentOrigin
import Atrium.Paygate.ChargeKeys

namespace Atrium

open Atrium.Base
open Atrium.Paygate (Server Event Post PaygateConfig PostgresLedger serve resourceOf Keyed)

set_option autoImplicit false

/-! ## Both parties -/

structure Joint where
  api : Api
  paygate : Server

def Joint.start (now : Instant) (db : Db) : Joint := ⟨Api.start now db, Server.start .empty⟩

inductive JointAction where
  | api (a : Action)
  /-- A request the API has sent reaches the provider. -/
  | chargeArrives (rid : Nat) (request : ChargeRequest) (correlationId : Option String)
  | refundArrives (rid : Nat) (instruction : RefundInstruction) (correlationId : Option String)
  | paygate (e : Event)

def ChargeRequest.post (r : ChargeRequest) (correlationId : Option String) : Post :=
  .charge r.idempotencyKey ⟨r.amountMinor, r.currency, r.reference⟩ correlationId

def RefundInstruction.post (i : RefundInstruction) (correlationId : Option String) : Post :=
  .refund i.idempotencyKey ⟨i.chargeId, i.amountMinor⟩ correlationId

/-- The event is of a charge in the ledger, and names its reference. -/
def signs (ledger : PostgresLedger) (e : WebhookEvent) : Bool :=
  (ledger.charges.get? e.chargeId).any fun row => e.reference.all fun reference =>
    decide (reference = row.reference)

/-- What the API hears in this step comes from the provider's ledger. -/
def Joint.heard (s : Joint) : Action → Bool
  | .answerCharge pid chargeId =>
      match s.api.procs.get? pid with
      | some (.charged request _) =>
          decide (resourceOf s.paygate.db (.charge, request.idempotencyKey) = some chargeId)
      | _ => true
  | .deliver request .. =>
      ((signedFields request).bind WebhookFields.supported).all (signs s.paygate.db)
  | _ => true

def jointStep (env : Env) (cfg : PaygateConfig) (a : JointAction) (s : Joint) : Option Joint :=
  match a with
  | .api a => if s.heard a then (step env a s.api).map fun api => { s with api } else none
  | .chargeArrives rid request correlationId =>
      if request ∈ s.api.chargeRequests then
        (serve cfg (.post rid (request.post correlationId)) s.paygate).map fun paygate =>
          { s with paygate }
      else none
  | .refundArrives rid instruction correlationId =>
      if instruction ∈ s.api.refundRequests then
        (serve cfg (.post rid (instruction.post correlationId)) s.paygate).map fun paygate =>
          { s with paygate }
      else none
  | .paygate (.post ..) => none
  | .paygate e => (serve cfg e s.paygate).map fun paygate => { s with paygate }

/-- A pay request spells the booking's id as every payment of it, and every pay request
in flight, does. -/
def OneSpelling (a : JointAction) (s : Joint) : Prop :=
  match a with
  | .api (.payBegin _ bookingId _) =>
      (∀ row ∈ s.api.db.payments.rows, row.2.bookingId = bookingId.value →
        row.2.idempotencyKey = chargeKey bookingId.text) ∧
      ∀ row ∈ s.api.procs.rows, ∀ other ∈ row.2.payingFor, other.value = bookingId.value →
        other.text = bookingId.text
  | _ => True

instance (a : JointAction) (s : Joint) : Decidable (OneSpelling a s) := by
  unfold OneSpelling
  split <;> infer_instance

/-! ## What a step does -/

inductive JointStepped (env : Env) (cfg : PaygateConfig) (a : JointAction) (s : Joint) : Joint → Prop
  | api (act : Action) (api : Api) :
      a = .api act → s.heard act = true → step env act s.api = some api →
      JointStepped env cfg a s { s with api }
  | paygate (e : Event) (paygate : Server) :
      (∀ rid post, e = .post rid post →
        (∃ r ∈ s.api.chargeRequests, ∃ correlationId, post = r.post correlationId) ∨
          ∃ i ∈ s.api.refundRequests, ∃ correlationId, post = i.post correlationId) →
      (∀ act, a ≠ .api act) → serve cfg e s.paygate = some paygate →
      JointStepped env cfg a s { s with paygate }

theorem jointStep_cases {env : Env} {cfg : PaygateConfig} {a : JointAction} {s s' : Joint}
    (stepped : jointStep env cfg a s = some s') : JointStepped env cfg a s s' := by
  unfold jointStep at stepped
  split at stepped
  · rename_i act
    obtain ⟨heard, stepped⟩ := Option.ite_none_right_eq_some.mp stepped
    obtain ⟨api, moved, rfl⟩ := Option.map_eq_some_iff.mp stepped
    exact .api act api rfl heard moved
  · rename_i rid r correlationId
    obtain ⟨sent, stepped⟩ := Option.ite_none_right_eq_some.mp stepped
    obtain ⟨paygate, served, rfl⟩ := Option.map_eq_some_iff.mp stepped
    refine .paygate _ paygate ?_ (by rintro act ⟨⟩) served
    rintro rid post ⟨⟩
    exact .inl ⟨r, sent, correlationId, rfl⟩
  · rename_i rid i correlationId
    obtain ⟨sent, stepped⟩ := Option.ite_none_right_eq_some.mp stepped
    obtain ⟨paygate, served, rfl⟩ := Option.map_eq_some_iff.mp stepped
    refine .paygate _ paygate ?_ (by rintro act ⟨⟩) served
    rintro rid post ⟨⟩
    exact .inr ⟨i, sent, correlationId, rfl⟩
  · cases stepped
  · rename_i e unposted
    obtain ⟨paygate, served, rfl⟩ := Option.map_eq_some_iff.mp stepped
    refine .paygate e paygate (fun rid post same => ?_) (by rintro act ⟨⟩) served
    exact absurd same (unposted rid post)

/-! ## Keys, requests and charges -/

/-- The key resolves to the charge at the provider. -/
def Joint.names (s : Joint) (key c : String) : Prop := resourceOf s.paygate.db (.charge, key) = some c

/-- What a pay request in flight has of the tables and of the provider. -/
def Proc.outbound (s : Joint) : Proc → Prop
  | .charging r paymentId | .charged r paymentId => Requested s.api.db paymentId r
  | .chargeAnswered paymentId c => ∃ p, s.api.db.payments.get? paymentId = some p ∧
      s.names p.idempotencyKey c
  | _ => True

/-- The two sides, tied together by keys. -/
structure Joint.Accounted (s : Joint) : Prop where
  polls : PollsBound s.api
  unsigned : UnsignedDone s.api.db
  keys : KeysDistinct s.api.db
  spelled : Spelled s.api.db
  sent : ∀ r ∈ s.api.chargeRequests, ∃ paymentId, Requested s.api.db paymentId r
  procs : ∀ pid p, s.api.procs.get? pid = some p → p.outbound s
  bound : ∀ id p c, s.api.db.payments.get? id = some p → p.chargeId = some c →
    s.names p.idempotencyKey c
  due : ∀ rowId e, pendingEvent s.api.db rowId = some e → signs s.paygate.db e = true
  keyed : Keyed s.paygate.db
  arrived : ∀ rid request key body correlationId, s.paygate.requests.get? rid = some request →
    request.post = .charge key body correlationId →
    ∃ r ∈ s.api.chargeRequests, r.idempotencyKey = key ∧ r.reference = body.reference
  opened : ∀ c row, s.paygate.db.charges.get? c = some row →
    ∃ r ∈ s.api.chargeRequests, r.idempotencyKey = row.idempotencyKey ∧ r.reference = row.reference

/-- A charge's key is the one of its reference. -/
theorem Joint.Accounted.key {s : Joint} (accounted : s.Accounted) {c : String}
    {row : Paygate.ChargeRow} (here : s.paygate.db.charges.get? c = some row) :
    row.idempotencyKey = chargeKey row.reference := by
  obtain ⟨r, sent, key, reference⟩ := accounted.opened c row here
  obtain ⟨-, own, -⟩ := accounted.sent r sent
  rw [← key, own, reference]

/-- A signed event that names a key by its reference names the key's charge. -/
theorem Joint.Accounted.signed {s : Joint} (accounted : s.Accounted) {e : WebhookEvent}
    (genuine : signs s.paygate.db e = true) {reference : String} (named : e.reference = some reference) :
    s.names (chargeKey reference) e.chargeId := by
  simp only [signs, Option.any_eq_true, named, Option.all_some, decide_eq_true_eq] at genuine
  obtain ⟨row, here, rfl⟩ := genuine
  rw [← accounted.key here]
  exact accounted.keyed.charge e.chargeId row here

/-! ## A step of the provider -/

theorem Joint.names.served {s : Joint} {cfg : PaygateConfig} {e : Event} {paygate : Server}
    (served : serve cfg e s.paygate = some paygate) {key c : String} (names : s.names key c) :
    Joint.names { s with paygate } key c := by
  unfold Joint.names at names ⊢
  cases Paygate.serve_charges served with
  | kept charges slots => rw [slots, names]
  | opened rid request key' body correlationId id row here post unclaimed inserted terms slots =>
      rw [slots, if_neg fun same => ?_]
      · exact names
      · rw [same, unclaimed] at names
        cases names

/-- A charge of the ledger keeps its terms. -/
theorem charge_kept {cfg : PaygateConfig} {e : Event} {s t : Server}
    (served : serve cfg e s = some t) {c : String} {row : Paygate.ChargeRow}
    (here : s.db.charges.get? c = some row) :
    ∃ row', t.db.charges.get? c = some row' ∧ row'.terms = row.terms := by
  cases Paygate.serve_charges served with
  | kept charges slots =>
      have same := charges c
      rw [here] at same
      exact Option.map_eq_some_iff.mp same
  | opened rid request key body correlationId id row' there post unclaimed inserted terms slots =>
      refine ⟨row, ?_, rfl⟩
      rw [Table.get?_insert? inserted, if_neg fun fresh => ?_]
      · exact here
      · rw [fresh, (Table.insert?_some inserted).1] at here
        cases here

theorem signs_served {cfg : PaygateConfig} {e : Event} {s t : Server}
    (served : serve cfg e s = some t) {event : WebhookEvent} (genuine : signs s.db event = true) :
    signs t.db event = true := by
  simp only [signs, Option.any_eq_true] at genuine ⊢
  obtain ⟨row, here, named⟩ := genuine
  obtain ⟨row', here', terms⟩ := charge_kept served here
  have reference : row'.reference = row.reference := (Prod.mk.inj (Prod.mk.inj terms).2).1
  exact ⟨row', here', by rw [reference]; exact named⟩

/-- **A step of the provider** keeps the books. -/
theorem Joint.Accounted.served {s : Joint} (accounted : s.Accounted) {cfg : PaygateConfig}
    {e : Event} {paygate : Server} (served : serve cfg e s.paygate = some paygate)
    (posts : ∀ rid post, e = .post rid post →
      (∃ r ∈ s.api.chargeRequests, ∃ correlationId, post = r.post correlationId) ∨
        ∃ i ∈ s.api.refundRequests, ∃ correlationId, post = i.post correlationId) :
    Joint.Accounted { s with paygate } where
  polls := accounted.polls
  unsigned := accounted.unsigned
  keys := accounted.keys
  spelled := accounted.spelled
  sent := accounted.sent
  procs := by
    intro pid p here
    have before := accounted.procs pid p here
    cases p with
    | charging r paymentId => exact before
    | charged r paymentId => exact before
    | chargeAnswered paymentId c =>
        obtain ⟨q, stored, names⟩ := before
        exact ⟨q, stored, names.served served⟩
    | _ => trivial
  bound := fun id p c here charge => (accounted.bound id p c here charge).served served
  due := fun rowId e pending => signs_served served (accounted.due rowId e pending)
  keyed := (Paygate.serve_charges served).keyed accounted.keyed
  arrived := by
    intro rid request key body correlationId here post
    rcases Paygate.serve_posts served here with ⟨before, found, same⟩ | posted
    · exact accounted.arrived rid before key body correlationId found (same.trans post)
    · rw [post] at posted
      rcases posts rid _ posted with ⟨r, sent, _, same⟩ | ⟨i, -, _, same⟩
      · cases same
        exact ⟨r, sent, rfl, rfl⟩
      · cases same
  opened := by
    intro c row here
    cases Paygate.serve_charges served with
    | kept charges slots =>
        have same := charges c
        rw [show paygate.db.charges.get? c = some row from here] at same
        obtain ⟨row', here', terms⟩ := Option.map_eq_some_iff.mp same.symm
        obtain ⟨r, sent, key, reference⟩ := accounted.opened c row' here'
        obtain ⟨sameKey, rest⟩ := Prod.mk.inj terms
        exact ⟨r, sent, key.trans sameKey, reference.trans (Prod.mk.inj rest).1⟩
    | opened rid request key body correlationId id row' there post unclaimed inserted terms slots =>
        have here' : paygate.db.charges.get? c = some row := here
        rw [Table.get?_insert? inserted] at here'
        split_ifs at here'
        · cases here'
          obtain ⟨r, sent, own, reference⟩ :=
            accounted.arrived rid request key body correlationId there post
          obtain ⟨sameKey, rest⟩ := Prod.mk.inj terms
          exact ⟨r, sent, own.trans sameKey.symm, reference.trans (Prod.mk.inj rest).1.symm⟩
        · exact accounted.opened c row here'

/-! ## A step of the API -/

/-- A pay request that goes on to the provider has its payment. -/
theorem Effect.next_requested {env : Env} {t : Txn} {db db' : Db} {out : Outcome}
    (effect : Effect env t db db' out) {p : Proc} (next : out.next = some p) (s : Joint)
    (same : s.api.db = db') : p.outbound s := by
  cases effect with
  | paid bookingId principal booking existing stamp _ recorded _ payment inserted found moved =>
      cases next
      obtain ⟨here, key⟩ := paymentByKey_some found
      have kept : db'.payments = recorded.payments := by
        rcases moved with ⟨-, -, -, rfl⟩ | ⟨-, rfl⟩ <;> rfl
      refine ⟨rfl, payment.2, ?_, key, rfl⟩
      rw [same, kept]
      exact here
  | cancelled bookingId reason principal now _ b =>
      cases next
      trivial
  | refundMinted bookingId choice now _ booking payment chargeId snapshot breakdown =>
      obtain ⟨i, -, rfl⟩ := refundOutcome_next (r := some _) next
      trivial
  | applied rowId now _ u v d fields e payment r =>
      obtain ⟨i, -, rfl⟩ := refundOutcome_next next
      trivial
  | polledCharge payment chargeId captured now _ _ r =>
      obtain ⟨i, -, rfl⟩ := refundOutcome_next next
      trivial
  | _ => cases next

theorem step_chargeRequests {env : Env} {a : Action} {api api' : Api}
    (stepped : step env a api = some api') : api.chargeRequests ⊆ api'.chargeRequests := by
  cases step_cases stepped with
  | committed => simp
  | aborted => simp
  | unshared _ moved => cases moved <;> simp

namespace Joint.Accounted

variable {s : Joint} {env : Env} {act : Action} {api : Api}

/-- What a process still has after the payments were updated. -/
theorem outbound_kept {p : Proc} (before : p.outbound s) (kept : paymentsKept s.api.db api.db) :
    p.outbound { s with api } := by
  cases p with
  | charging r paymentId => exact Requested.kept before kept
  | charged r paymentId => exact Requested.kept before kept
  | chargeAnswered paymentId c =>
      obtain ⟨q, stored, names⟩ := before
      obtain ⟨q', stored', keeps⟩ := kept _ q stored
      exact ⟨q', stored', by rw [keeps.key]; exact names⟩
  | _ => trivial

/-- Requests in flight, and those that were sent. -/
theorem requests_stepped (accounted : s.Accounted) (heard : s.heard act = true)
    (stepped : step env act s.api = some api) (kept : paymentsKept s.api.db api.db) :
    (∀ r ∈ api.chargeRequests, ∃ paymentId, Requested api.db paymentId r) ∧
      ∀ pid p, api.procs.get? pid = some p → p.outbound { s with api } := by
  have sent : ∀ r ∈ s.api.chargeRequests, ∃ paymentId, Requested api.db paymentId r := by
    intro r among
    obtain ⟨paymentId, requested⟩ := accounted.sent r among
    exact ⟨paymentId, requested.kept kept⟩
  have procs : ∀ pid p, s.api.procs.get? pid = some p → p.outbound { s with api } := by
    intro pid p here
    exact outbound_kept (accounted.procs pid p here) kept
  have become : ∀ {pid : Pid} {p : Option Proc}, (∀ q, p = some q → q.outbound { s with api }) →
      ∀ pid' q, (s.api.become pid p).procs.get? pid' = some q → q.outbound { s with api } := by
    intro pid p fresh pid' q here
    rw [Api.become_procs] at here
    split_ifs at here
    · exact fresh q here
    · exact procs pid' q here
  cases step_cases stepped with
  | committed c out db' enabled free ran =>
      refine ⟨by simpa using sent, ?_⟩
      intro pid p here
      rw [Api.resume_procs] at here
      split_ifs at here
      · exact (Txn.run_effect ran).next_requested here _ (Api.resume_db ..)
      · exact procs pid p here
  | aborted c e enabled ran =>
      refine ⟨by simpa using sent, ?_⟩
      intro pid p here
      rw [Api.resume_procs] at here
      split_ifs at here
      · cases commit_cases enabled with
        | refundAccepted =>
            cases here
            trivial
        | _ => cases here
      · exact procs pid p here
  | unshared _ moved =>
      cases moved with
      | ticked ms => exact ⟨sent, procs⟩
      | charged pid request paymentId proc =>
          have requested : Requested s.api.db paymentId request := accounted.procs pid _ proc
          have still : Requested (s.api.become pid (some (.charged request paymentId))).db paymentId
              request := requested.kept kept
          constructor
          · intro r among
            rcases List.mem_append.mp among with old | new
            · exact sent r (by simpa using old)
            · obtain rfl := List.mem_singleton.mp new
              exact ⟨paymentId, still⟩
          · refine become (p := some (.charged request paymentId)) ?_
            rintro q ⟨⟩
            exact still
      | chargeAnswered pid request paymentId chargeId proc =>
          obtain ⟨-, p, stored, key, -⟩ := accounted.procs pid _ proc
          refine ⟨by simpa using sent, become ?_⟩
          rintro q ⟨⟩
          simp only [Joint.heard, proc, decide_eq_true_eq] at heard
          obtain ⟨p', stored', keeps⟩ := kept _ p stored
          refine ⟨p', stored', ?_⟩
          rw [keeps.key, key]
          exact heard
      | refundSent pid instruction proc =>
          refine ⟨by simpa using sent, become (p := some (.refundSent instruction)) ?_⟩
          rintro q ⟨⟩
          trivial
      | _ =>
          refine ⟨by simpa using sent, become ?_⟩
          rintro q ⟨⟩ <;> trivial

/-- A charge id on a payment is of its key. -/
theorem bound_stepped (accounted : s.Accounted) (stepped : step env act s.api = some api)
    {id : Uuid} {p' : Payment} {c : String} (here : api.db.payments.get? id = some p')
    (charge : p'.chargeId = some c) : s.names p'.idempotencyKey c := by
  rcases step_db stepped with same | ⟨commit, out, commits, -, effect⟩
  · rw [same] at here
    exact accounted.bound id p' c here charge
  · obtain ⟨p, stored, keeps, same | ⟨c', own, binds⟩⟩ | ⟨_, _, _, _, _, -, -, rfl⟩ :=
      effect.payment_cases (commits.pollBound accounted.polls) here
    · rw [keeps.key]
      exact accounted.bound id p c stored (same ▸ charge)
    · cases charge.symm.trans own
      rw [keeps.key]
      cases commits with
      | bindCharge pid now paymentId chargeId proc =>
          obtain ⟨rfl, rfl⟩ := binds
          obtain ⟨q, stored', names⟩ := accounted.procs pid _ proc
          cases stored.symm.trans stored'
          exact names
      | apply pid rowId now =>
          obtain ⟨e, reference, q, pending, named, rfl, stored', key⟩ := binds
          cases stored.symm.trans stored'
          rw [key]
          exact accounted.signed (accounted.due rowId e pending) named
      | _ => exact binds.elim
    · cases charge

/-- A signed delivery that comes in is of a charge of the provider. -/
theorem due_stepped (accounted : s.Accounted) (heard : s.heard act = true)
    (stepped : step env act s.api = some api) {rowId : Uuid} {e : WebhookEvent}
    (pending : pendingEvent api.db rowId = some e) : signs s.paygate.db e = true := by
  have unsigned := step_unsignedDone act s.api api stepped accounted.unsigned
  rcases step_db stepped with same | ⟨commit, out, commits, -, effect⟩
  · rw [same] at pending
    exact accounted.due rowId e pending
  · rcases effect.pendingEvent pending with before |
      ⟨request, now, d, own, here, valid, unprocessed, read⟩
    · exact accounted.due rowId e before
    · have signed : request.signed = true := by
        by_contra forged
        rw [Bool.not_eq_true] at forged
        exact unsigned rowId d here (valid.trans forged) unprocessed
      cases commits with
      | deliver request' rowId' now' =>
          cases own
          simp only [Joint.heard, signedFields, signed, if_true, read, Option.all_some] at heard
          exact heard
      | _ => cases own

/-- **A step of the API** keeps the books. -/
theorem stepped (accounted : s.Accounted) (heard : s.heard act = true)
    (stepped : step env act s.api = some api) : Joint.Accounted { s with api } := by
  have kept := step_paymentsKept accounted.polls stepped
  have grown := step_chargeRequests stepped
  obtain ⟨sent, procs⟩ := accounted.requests_stepped heard stepped kept
  have tables : KeysDistinct api.db ∧ Spelled api.db := by
    rcases step_db stepped with same | ⟨commit, out, commits, -, effect⟩
    · rw [same]
      exact ⟨accounted.keys, accounted.spelled⟩
    · have bound := commits.pollBound accounted.polls
      exact ⟨effect.keysDistinct bound accounted.keys, effect.spelled bound accounted.spelled⟩
  exact
    { polls := step_pollsBound act s.api api stepped accounted.polls
      unsigned := step_unsignedDone act s.api api stepped accounted.unsigned
      keys := tables.1
      spelled := tables.2
      sent := sent
      procs := procs
      bound := fun id p c here charge => accounted.bound_stepped stepped here charge
      due := fun rowId e pending => accounted.due_stepped heard stepped pending
      keyed := accounted.keyed
      arrived := fun rid request key body correlationId here post => by
        obtain ⟨r, among, same⟩ := accounted.arrived rid request key body correlationId here post
        exact ⟨r, grown among, same⟩
      opened := fun c row here => by
        obtain ⟨r, among, same⟩ := accounted.opened c row here
        exact ⟨r, grown among, same⟩ }

end Joint.Accounted

theorem jointStep_accounted {env : Env} {cfg : PaygateConfig} {a : JointAction} {s s' : Joint}
    (stepped : jointStep env cfg a s = some s') (accounted : s.Accounted) : s'.Accounted := by
  cases jointStep_cases stepped with
  | api act api own heard moved => exact accounted.stepped heard moved
  | paygate e paygate posts _ served => exact accounted.served served posts

theorem Joint.Accounted.start {db : Db} (fresh : db.Fresh) (now : Instant) :
    (Joint.start now db).Accounted := by
  have gated : Gated (Api.start now db) := .start fresh now
  obtain ⟨-, -, payments, -, deliveries, -⟩ := id fresh
  have unpaid : ∀ id p, db.payments.get? id ≠ some p := by
    intro id p here
    rw [payments] at here
    cases here
  refine ⟨gated.polls, .start fresh, ?_, ?_, ?_, ?_, ?_, ?_, .empty, ?_, ?_⟩
  · intro id p id' p' k here
    exact absurd here (unpaid id p)
  · intro id p here
    exact absurd here (unpaid id p)
  · intro r among
    cases among
  · intro pid p here
    cases here
  · intro id p c here
    exact absurd here (unpaid id p)
  · intro rowId e pending
    simp [Joint.start, Api.start, pendingEvent, deliveries] at pending
  · intro rid request key body correlationId here
    cases here
  · intro c row here
    cases here

/-! ## One spelling -/

/-- The booking's id has one spelling. -/
def Joint.OneEach (s : Joint) : Prop :=
  ∀ b text text', s.api.spells b text → s.api.spells b text' → text = text'

theorem OneSpelling.spells {s : Joint} {pid : Pid} {bookingId : UuidText} {principal : AuthPrincipal}
    (alike : OneSpelling (.api (.payBegin pid bookingId principal)) s) {text : String}
    (spells : s.api.spells bookingId.value text) : text = bookingId.text := by
  obtain ⟨payments, procs⟩ := alike
  rcases spells with ⟨id, p, here, own, key⟩ | ⟨pid', p, other, here, names, value, rfl⟩
  · have same := payments (id, p) (Table.mem_rows.mpr here) own
    exact chargeKey_injective (key.symm.trans same)
  · exact procs (pid', p) (Table.mem_rows.mpr here) other names value

theorem jointStep_oneEach {env : Env} {cfg : PaygateConfig} {a : JointAction} {s s' : Joint}
    (stepped : jointStep env cfg a s = some s') (alike : OneSpelling a s) (polls : PollsBound s.api)
    (one : s.OneEach) : s'.OneEach := by
  cases jointStep_cases stepped with
  | api act api own heard moved =>
      subst own
      intro b text text' first second
      rcases step_spells moved polls first with old | ⟨pid, bookingId, principal, rfl, rfl, rfl⟩
      · rcases step_spells moved polls second with old' | ⟨pid, bookingId, principal, rfl, rfl, rfl⟩
        · exact one b text text' old old'
        · exact alike.spells old
      · rcases step_spells moved polls second with old' | ⟨_, _, _, same, _, rfl⟩
        · exact (alike.spells old').symm
        · cases same
          rfl
  | paygate e paygate => exact one

/-! ## One payment, one charge -/

/-- What the provider and the tables have of one booking. -/
structure OneCharge (s : Joint) (b : Uuid) : Prop where
  payment : ∀ id p id' p', s.api.db.payments.get? id = some p →
    s.api.db.payments.get? id' = some p' → p.bookingId = b → p'.bookingId = b → id = id'
  charge : ∀ c row c' row', s.paygate.db.charges.get? c = some row →
    s.paygate.db.charges.get? c' = some row' → uuidOf row.reference = some b →
    uuidOf row'.reference = some b → c = c'
  bound : ∀ id p c, s.api.db.payments.get? id = some p → p.bookingId = b → p.chargeId = some c →
    ∃ row, s.paygate.db.charges.get? c = some row ∧ uuidOf row.reference = some b

/-- A payment of the booking, whose key is of `text`. -/
theorem Joint.Accounted.spells {s : Joint} (accounted : s.Accounted) {id : Uuid} {p : Payment}
    (here : s.api.db.payments.get? id = some p) {text : String}
    (key : p.idempotencyKey = chargeKey text) :
    uuidOf text = some p.bookingId ∧ s.api.spells p.bookingId text := by
  obtain ⟨bookingId, value, own⟩ := accounted.spelled id p here
  obtain rfl : bookingId.text = text := chargeKey_injective (own.symm.trans key)
  refine ⟨?_, .inl ⟨id, p, here, rfl, key⟩⟩
  rw [← value]
  exact bookingId.spells

/-- A charge has a payment, under the key of its reference. -/
theorem Joint.Accounted.paid {s : Joint} (accounted : s.Accounted) {c : String}
    {row : Paygate.ChargeRow} (here : s.paygate.db.charges.get? c = some row) :
    ∃ id p, s.api.db.payments.get? id = some p ∧ p.idempotencyKey = chargeKey row.reference := by
  obtain ⟨r, sent, key, -⟩ := accounted.opened c row here
  obtain ⟨paymentId, -, p, stored, own, -⟩ := accounted.sent r sent
  exact ⟨paymentId, p, stored, by rw [own, key, accounted.key here]⟩

theorem Joint.Accounted.oneCharge {s : Joint} (accounted : s.Accounted) (one : s.OneEach) (b : Uuid) :
    OneCharge s b where
  payment := by
    intro id p id' p' here here' own own'
    obtain ⟨bookingId, value, key⟩ := accounted.spelled id p here
    obtain ⟨bookingId', value', key'⟩ := accounted.spelled id' p' here'
    have spells := (accounted.spells here key).2
    have spells' := (accounted.spells here' key').2
    rw [own] at spells
    rw [own'] at spells'
    have alike := one b _ _ spells spells'
    rw [← alike] at key'
    exact accounted.keys id p id' p' _ here here' (congrArg some key) (congrArg some key')
  charge := by
    intro c row c' row' here here' reference reference'
    obtain ⟨id, p, stored, key⟩ := accounted.paid here
    obtain ⟨id', p', stored', key'⟩ := accounted.paid here'
    obtain ⟨value, spells⟩ := accounted.spells stored key
    obtain ⟨value', spells'⟩ := accounted.spells stored' key'
    obtain rfl : p.bookingId = b := Option.some.inj (value.symm.trans reference)
    have same : p'.bookingId = p.bookingId := Option.some.inj (value'.symm.trans reference')
    rw [same] at spells'
    have alike := one _ _ _ spells spells'
    have resolves := accounted.keyed.charge c row here
    have resolves' := accounted.keyed.charge c' row' here'
    rw [accounted.key here, alike] at resolves
    rw [accounted.key here'] at resolves'
    exact Option.some.inj (resolves.symm.trans resolves')
  bound := by
    intro id p c here own charge
    obtain ⟨row, stored, key⟩ := accounted.keyed.slot _ c (accounted.bound id p c here charge)
    refine ⟨row, stored, ?_⟩
    rw [accounted.key stored] at key
    rw [(accounted.spells here key.symm).1, own]

/-- **One charge for one booking**, in every run whose pay requests spell each booking's
id in one way; and a charge id that is bound stays. -/
theorem one_charge_per_booking {env : Env} {cfg : PaygateConfig} {now : Instant} {db : Db}
    {s : Joint} (fresh : db.Fresh)
    (reached : ReachableAlong (jointStep env cfg) OneSpelling (Joint.start now db) s) (b : Uuid) :
    OneCharge s b ∧ ∀ as s', run (jointStep env cfg) as s = some s' →
      ∀ id p c, s.api.db.payments.get? id = some p → p.chargeId = some c →
        ∃ p', s'.api.db.payments.get? id = some p' ∧ p'.chargeId = some c := by
  obtain ⟨accounted, one⟩ : s.Accounted ∧ s.OneEach := by
    refine reached.invariant (I := fun s => s.Accounted ∧ s.OneEach) ⟨.start fresh now, ?_⟩ ?_
    · intro b text text' spells
      rcases spells with ⟨id, p, here, -⟩ | ⟨pid, p, bookingId, here, -⟩
      · have payments := fresh.2.2.1
        rw [show (Joint.start now db).api.db = db from rfl, payments] at here
        cases here
      · cases here
    · intro a s s' stepped alike both
      exact ⟨jointStep_accounted stepped both.1, jointStep_oneEach stepped alike both.1.polls both.2⟩
  refine ⟨accounted.oneCharge one b, ?_⟩
  intro as s' ran id p c here charge
  have kept : s'.Accounted ∧ paymentsKept s.api.db s'.api.db := by
    refine run_keeps (I := fun t => t.Accounted ∧ paymentsKept s.api.db t.api.db) ?_ ran
      ⟨accounted, .of_eq rfl⟩
    intro a t t' stepped both
    refine ⟨jointStep_accounted stepped both.1, ?_⟩
    cases jointStep_cases stepped with
    | api act api own heard moved => exact both.2.trans (step_paymentsKept both.1.polls moved)
    | paygate e paygate => exact both.2
  obtain ⟨p', here', keeps⟩ := kept.2 id p here
  exact ⟨p', here', keeps.charge c charge⟩

namespace Sample

def seat : Uuid := 0x0000000000004000800000000000000a

/-- The seat's id with its last letter in upper case. -/
def shoutedSeat : UuidText := ⟨"00000000-0000-4000-8000-00000000000A", seat, by decide⟩

/-- A pay request up to its call of the provider. -/
def sending (pid : Pid) (bookingId : UuidText) (paymentId : Uuid) : List JointAction :=
  [.api (.payBegin pid bookingId customer), .api (.payRead pid), .api (.payCommit pid paymentId 0),
    .api (.sendCharge pid)]

def asked (text : String) : ChargeRequest := ⟨chargeKey text, text, 6000, "PKR"⟩

/-- The charge is opened and the answer lost; the webhook comes first, then the retry. -/
def retriedPay : List JointAction :=
  (holding 0 hold seat 0).map .api ++ sending 1 (Uuid.path seat) 20 ++
    [.chargeArrives 1 (asked seat.text) none, .paygate (.openLedger 1 "ch_1" 0), .paygate .crash,
      .api (.abandon 1)] ++
    sending 2 (Uuid.path seat) 21 ++
    [.chargeArrives 1 (asked seat.text) none, .paygate (.openLedger 1 "ch_2" 0),
      .paygate (.answer 1), .api (.answerCharge 2 "ch_1"), .api (.bindCharge 2 0)]

/-- The same booking, paid for under two spellings of its id. -/
def paidTwice : List JointAction :=
  (holding 0 hold seat 0).map .api ++ sending 1 (Uuid.path seat) 20 ++
    [.chargeArrives 1 (asked seat.text) none, .paygate (.openLedger 1 "ch_1" 0)] ++
    sending 2 shoutedSeat 21 ++
    [.chargeArrives 2 (asked shoutedSeat.text) none, .paygate (.openLedger 2 "ch_2" 0)]

end Sample

/-- The retry is answered with the charge the lost request opened. -/
theorem one_charge_per_booking_retried : ∃ s,
    run (jointStep .default Paygate.Sample.paygate) Sample.retriedPay (Joint.start 0 Sample.db) = some s ∧
      s.api.chargeRequests.length = 2 ∧ OneCharge s Sample.seat := by
  have ran : ((run (jointStep .default Paygate.Sample.paygate) Sample.retriedPay
      (Joint.start 0 Sample.db)).map fun s => s.api.chargeRequests.length) = some 2 := by decide +kernel
  have along : Along (jointStep .default Paygate.Sample.paygate) OneSpelling Sample.retriedPay
      (Joint.start 0 Sample.db) := by decide +kernel
  obtain ⟨s, ran, sent⟩ := Option.map_eq_some_iff.mp ran
  exact ⟨s, ran, sent, (one_charge_per_booking Sample.db_fresh ⟨_, ran, along⟩ Sample.seat).1⟩

/-- Two spellings are two keys, two payments and two charges. -/
theorem two_charges_one_booking :
    ¬ ∀ (env : Env) (cfg : PaygateConfig) (now : Instant) (db : Db) (s : Joint), db.Fresh →
      Reachable (jointStep env cfg) (Joint.start now db) s → ∀ b, OneCharge s b := by
  intro claim
  have ran : ((run (jointStep .default Paygate.Sample.paygate) Sample.paidTwice
      (Joint.start 0 Sample.db)).map fun s =>
        ((s.paygate.db.charges.get? "ch_1").map (·.reference),
          (s.paygate.db.charges.get? "ch_2").map (·.reference))) =
      some (some Sample.seat.text, some Sample.shoutedSeat.text) := by decide +kernel
  obtain ⟨s, ran, charges⟩ := Option.map_eq_some_iff.mp ran
  obtain ⟨first, second⟩ := Prod.mk.inj charges
  obtain ⟨row, here, reference⟩ := Option.map_eq_some_iff.mp first
  obtain ⟨row', here', reference'⟩ := Option.map_eq_some_iff.mp second
  have one := claim .default Paygate.Sample.paygate 0 Sample.db s Sample.db_fresh ⟨_, ran⟩ Sample.seat
  have same := one.charge "ch_1" row "ch_2" row' here here' (by rw [reference]; exact uuidOf_text _)
    (by rw [reference']; exact Sample.shoutedSeat.spells)
  exact absurd same (by decide)

end Atrium
