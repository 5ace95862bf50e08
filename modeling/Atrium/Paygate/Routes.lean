/-
# Paygate.Routes -- `POST /paygate/charges` and `POST /paygate/refunds`

A request runs one ledger call after the other, and any number of requests are in
flight at once; a crash loses every one of them and nothing the ledger holds.
Whose key and body do not parse is answered 400 or 422 before any ledger call and
is not modelled.

The replay branch decides from the key's outcome and not from the charge: what a
crash leaves claimed as accepted and not materialised is answered 202 for ever.
-/
import Atrium.Base.Run
import Atrium.Paygate.Postgres

namespace Atrium.Paygate

open Atrium.Base
open PostgresLedger

set_option autoImplicit false

/-! ## Requests -/

/-- A parsed `ChargeBody`. -/
structure ChargeBody where
  amountMinor : Minor
  currency : String
  reference : String
  deriving DecidableEq, Repr

/-- A parsed `RefundBody`. -/
structure RefundBody where
  chargeId : String
  amountMinor : Minor
  deriving DecidableEq, Repr

/-- A request with its Idempotency-Key and X-Request-Id. -/
inductive Post where
  | charge (key : String) (body : ChargeBody) (correlationId : Option String)
  | refund (key : String) (body : RefundBody) (correlationId : Option String)
  deriving DecidableEq, Repr

def Post.slot : Post → Scope × String
  | .charge key _ _ => (.charge, key)
  | .refund key _ _ => (.refund, key)

/-- `planFor` is pure in the key; `fingerprintOf` hashes the body. -/
structure PaygateConfig where
  planFor : String → ChaosPlan
  declineAmountMinor : Minor
  fingerprintOfCharge : ChargeBody → String
  fingerprintOfRefund : RefundBody → String

/-- What the ledger opened, or settled. -/
inductive Opened where
  | charge (charge : Charge)
  | refund (refund : Refund)
  deriving DecidableEq, Repr

def Opened.resource : Opened → Scope × String
  | .charge c => (.charge, c.id)
  | .refund r => (.refund, r.id)

/-- The ledger call, dispatch or answer that comes next. -/
inductive Phase where
  | opening
  | recovering (charge : Charge)
  | materialising (opened : Opened)
  | dispatching (settled : Opened)
  | answering
  deriving DecidableEq, Repr

structure Request where
  post : Post
  phase : Phase
  deriving DecidableEq, Repr

def Request.dispatching? (request : Request) : Option (Scope × String) :=
  match request.phase with
  | .dispatching settled => some settled.resource
  | _ => none

/-! ## The server -/

structure Server where
  db : PostgresLedger
  /-- In flight, by request id. -/
  requests : Table Nat Request
  /-- Keys answered 202 since the last crash. -/
  accepted : List (Scope × String)
  /-- Which request dispatched the webhooks of what. -/
  dispatched : List (Nat × (Scope × String))

def Server.start (db : PostgresLedger) : Server := ⟨db, .empty, [], []⟩

/-- What the charge route does with the answer; `none` where the request gets an error. -/
def afterCharge (plan : ChaosPlan) : OpenChargeResult → Option Phase
  | .fingerprintMismatch => none
  | .replayed charge record =>
      if record.outcome = .failed500 then some (.recovering charge) else some .answering
  | .created charge => if plan.transientFailure then none else some (.materialising (.charge charge))

/-- What the refund route does with the answer. -/
def afterRefund : OpenRefundResult → Option Phase
  | .created refund => some (.materialising (.refund refund))
  | .replayed _ _ => some .answering
  | .fingerprintMismatch => none
  | .unknownCharge => none
  | .notRefundable _ => none
  | .exceedsCharge _ _ => none

def chargeInput (cfg : PaygateConfig) (key : String) (body : ChargeBody)
    (correlationId : Option String) : OpenChargeInput where
  reference := body.reference
  amountMinor := body.amountMinor
  currency := body.currency
  idempotencyKey := key
  fingerprint := cfg.fingerprintOfCharge body
  correlationId := correlationId
  plan := cfg.planFor key

def refundInput (cfg : PaygateConfig) (key : String) (body : RefundBody)
    (correlationId : Option String) : OpenRefundInput where
  chargeId := body.chargeId
  amountMinor := body.amountMinor
  idempotencyKey := key
  fingerprint := cfg.fingerprintOfRefund body
  correlationId := correlationId
  plan := cfg.planFor key

/-- The first ledger call, and what the request does next; a call that throws is answered 500. -/
def openPost (cfg : PaygateConfig) (fresh : String) (now : Instant) (db : PostgresLedger) :
    Post → Option Phase × PostgresLedger
  | .charge key body correlationId =>
      match openCharge fresh (chargeInput cfg key body correlationId) now db with
      | .error _ => (none, db)
      | .ok (result, after) => (afterCharge (cfg.planFor key) result, after)
  | .refund key body correlationId =>
      match openRefund fresh (refundInput cfg key body correlationId) now db with
      | .error _ => (none, db)
      | .ok (result, after) => (afterRefund result, after)

/-- Declines are triggered by amount. -/
def decidedStatus (cfg : PaygateConfig) (charge : Charge) : ChargeStatus :=
  if charge.amountMinor = cfg.declineAmountMinor then .failed else .succeeded

/-- `materialiseCharge`, `materialiseRefund`: only who settles it goes on to dispatch. -/
def materialise (cfg : PaygateConfig) (now : Instant) (db : PostgresLedger) :
    Opened → Option Opened × PostgresLedger
  | .charge charge =>
      let (settled, after) := db.materialiseCharge charge.id (decidedStatus cfg charge)
        (now - charge.plan.clockSkewSeconds * 1000)
      (settled.map .charge, after)
  | .refund refund =>
      let (settled, after) := db.materialiseRefund refund.id
        (now - refund.plan.clockSkewSeconds * 1000)
      (settled.map .refund, after)

/-- An id nothing in the ledger has or names: `randomUUID` does not repeat. -/
def unusedId (id : String) (db : PostgresLedger) : Bool :=
  (db.charges.get? id).isNone && (db.refunds.get? id).isNone &&
    db.idempotency.rows.all fun row => decide (row.2.resourceId ≠ id)

inductive Event where
  | post (rid : Nat) (post : Post)
  | openLedger (rid : Nat) (fresh : String) (now : Instant)
  | recover (rid : Nat)
  | materialise (rid : Nat) (now : Instant)
  | dispatch (rid : Nat)
  | answer (rid : Nat)
  | crash
  deriving DecidableEq, Repr

/-- The request goes on, or has been answered. -/
def Server.next (s : Server) (rid : Nat) (phase : Option Phase) : Server :=
  match phase with
  | some phase => { s with requests := s.requests.modify rid fun r => { r with phase } }
  | none => { s with requests := s.requests.remove rid }

def serve (cfg : PaygateConfig) : Event → Server → Option Server
  | .post rid post, s =>
      (s.requests.insert? rid ⟨post, .opening⟩).map fun requests => { s with requests }
  | .openLedger rid fresh now, s =>
      match s.requests.get? rid with
      | some ⟨post, .opening⟩ =>
          if unusedId fresh s.db then
            let (phase, db) := openPost cfg fresh now s.db post
            some ({ s with db }.next rid phase)
          else none
      | _ => none
  | .recover rid, s =>
      match s.requests.get? rid with
      | some ⟨.charge key _ correlationId, .recovering charge⟩ =>
          some ({ s with db := s.db.recoverFromTransientFailure charge.id key correlationId }.next rid
            (some (.materialising (.charge charge))))
      | _ => none
  | .materialise rid now, s =>
      match s.requests.get? rid with
      | some ⟨_, .materialising opened⟩ =>
          let (settled, db) := Paygate.materialise cfg now s.db opened
          some ({ s with db }.next rid
            (some (match settled with
              | some settled => .dispatching settled
              | none => .answering)))
      | _ => none
  | .dispatch rid, s =>
      match s.requests.get? rid with
      | some ⟨_, .dispatching settled⟩ =>
          some ({ s with dispatched := s.dispatched ++ [(rid, settled.resource)] }.next rid
            (some .answering))
      | _ => none
  | .answer rid, s =>
      match s.requests.get? rid with
      | some ⟨post, .answering⟩ => some ({ s with accepted := post.slot :: s.accepted }.next rid none)
      | _ => none
  | .crash, s => some { s with requests := .empty, accepted := [] }

/-! ## The promise -/

/-- Whether a charge or refund has its outcome; `none` where there is none. -/
def outcome? (db : PostgresLedger) : Scope × String → Option Bool
  | (.charge, id) => (db.charges.get? id).map (·.materialised)
  | (.refund, id) => (db.refunds.get? id).map (·.materialised)

/-- The requests that dispatched the webhooks of a charge or refund. -/
def dispatchers (s : Server) (resource : Scope × String) : List Nat :=
  (s.dispatched.filter fun d => d.2 = resource).map Prod.fst

/-- Someone was told 202, and nobody is at work on the key. -/
def toldAccepted (s : Server) (slot : Scope × String) : Prop :=
  slot ∈ s.accepted ∧ ∀ rid request, s.requests.get? rid = some request → request.post.slot ≠ slot

/-- What the key resolved to has its outcome. -/
def isMaterialised (db : PostgresLedger) (slot : Scope × String) : Prop :=
  ∃ record, db.idempotency.get? slot = some record ∧
    outcome? db (slot.1, record.resourceId) = some true

/-- At a crash, no request stands between opening (or recovering) and materialising something
that has no outcome yet. -/
def crashesBetween (e : Event) (s : Server) : Prop :=
  e = .crash → s.requests.rows.all fun row =>
    match row.2.phase with
    | .materialising opened => outcome? s.db opened.resource = some true
    | _ => true

instance (e : Event) (s : Server) : Decidable (crashesBetween e s) :=
  inferInstanceAs (Decidable (_ → _))

/-- A key whose replay is answered 202 as it stands. -/
def replaysAccepted (slot : Scope × String) (record : IdempotencyRow) : Prop :=
  record.outcome = .accepted ∨ slot.1 = .refund

/-- What a server is started on: everything accepted before has its outcome. -/
def Quiet (db : PostgresLedger) : Prop :=
  ∀ slot record, db.idempotency.get? slot = some record → replaysAccepted slot record →
    outcome? db (slot.1, record.resourceId) ≠ some false

/-! ## What the first ledger call does -/

/-- Keys still resolve as they did. -/
def sameKeys (db db' : PostgresLedger) : Prop :=
  ∀ slot, (db'.idempotency.get? slot).map (fun r => (r.resourceId, r.outcome)) =
    (db.idempotency.get? slot).map fun r => (r.resourceId, r.outcome)

theorem sameKeys.refl (db : PostgresLedger) : sameKeys db db := fun _ => rfl

theorem sameKeys.back {db db' : PostgresLedger} (same : sameKeys db db') {slot : Scope × String}
    {record' : IdempotencyRow} (here : db'.idempotency.get? slot = some record') :
    ∃ record, db.idempotency.get? slot = some record ∧ record.resourceId = record'.resourceId ∧
      record.outcome = record'.outcome := by
  have both := same slot
  rw [here, Option.map_some] at both
  obtain ⟨record, found, pair⟩ := Option.map_eq_some_iff.mp both.symm
  exact ⟨record, found, congrArg Prod.fst pair, congrArg Prod.snd pair⟩

theorem sameKeys.symm {db db' : PostgresLedger} (same : sameKeys db db') : sameKeys db' db :=
  fun slot => (same slot).symm

theorem bump_sameKeys (slot : Scope × String) (db : PostgresLedger) :
    sameKeys db (PostgresLedger.bump slot db) := by
  intro slot'
  exact Table.map_get?_modify (f := fun r : IdempotencyRow => { r with replays := r.replays + 1 })
    (g := fun r : IdempotencyRow => (r.resourceId, r.outcome)) (fun _ => rfl) slot'

inductive OpenEffect (slot : Scope × String) (fresh : String) (db db' : PostgresLedger) :
    Option Phase → Prop where
  | dropped (keys : sameKeys db db') (outcomes : ∀ r, outcome? db' r = outcome? db r) :
      OpenEffect slot fresh db db' none
  | replayed (record : IdempotencyRow) (phase : Option Phase)
      (taken : db.idempotency.get? slot = some record)
      (stands : (outcome? db (slot.1, record.resourceId)).isSome)
      (keys : sameKeys db db') (outcomes : ∀ r, outcome? db' r = outcome? db r)
      (decides : (phase = some .answering ∧ replaysAccepted slot record) ∨
        ∃ charge, phase = some (.recovering charge) ∧
          (Scope.charge, charge.id) = (slot.1, record.resourceId)) :
      OpenEffect slot fresh db db' phase
  | claimed (record : IdempotencyRow) (phase : Option Phase) (v : Option Bool)
      (unclaimed : db.idempotency.get? slot = none) (names : record.resourceId = fresh)
      (keys : ∀ slot', db'.idempotency.get? slot' =
        if slot' = slot then some record else db.idempotency.get? slot')
      (outcomes : ∀ r, outcome? db' r = if r = (slot.1, fresh) then v else outcome? db r)
      (decides : (phase = none ∧ (¬ replaysAccepted slot record ∨ v = none)) ∨
        ∃ opened, phase = some (.materialising opened) ∧ opened.resource = (slot.1, fresh) ∧
          replaysAccepted slot record ∧ v = some false) :
      OpenEffect slot fresh db db' phase

/-- A charge whose row is rewritten without touching `materialised`. -/
theorem outcome?_modifyCharge {db : PostgresLedger} {id : String} {f : ChargeRow → ChargeRow}
    (same : ∀ row, (f row).materialised = row.materialised) (refunds : Table String RefundRow)
    (idempotency : Table (Scope × String) IdempotencyRow) (id' : String) :
    outcome? ⟨db.charges.modify id f, refunds, idempotency⟩ (.charge, id') =
      outcome? db (.charge, id') :=
  Table.map_get?_modify same id'

theorem refusal_ended {input : OpenRefundInput} {charge : Option ChargeRow}
    {result : OpenRefundResult} (refused : refusal input charge = some result) :
    afterRefund result = none := by
  unfold refusal at refused
  repeat' split at refused
  all_goals cases refused
  all_goals rfl

theorem openPost_effect (cfg : PaygateConfig) {fresh : String} (now : Instant) (db : PostgresLedger)
    (post : Post) (unused : unusedId fresh db = true) :
    OpenEffect post.slot fresh db (openPost cfg fresh now db post).2
      (openPost cfg fresh now db post).1 := by
  simp only [unusedId, Bool.and_eq_true, Option.isNone_iff_eq_none] at unused
  obtain ⟨⟨noCharge, noRefund⟩, -⟩ := unused
  cases post with
  | charge key body correlationId =>
      simp only [openPost, Post.slot]
      cases ran : openCharge fresh (chargeInput cfg key body correlationId) now db with
      | error e => exact .dropped (.refl db) fun _ => rfl
      | ok r =>
          obtain ⟨result, after⟩ := r
          cases openCharge_opened ran with
          | mismatch record taken => exact .dropped (.refl db) fun _ => rfl
          | replayed record row taken owner =>
              have stands : (outcome? db (.charge, record.resourceId)).isSome := by
                simp [outcome?, owner]
              refine .replayed record _ taken stands (bump_sameKeys _ db) (fun _ => rfl) ?_
              by_cases failed : record.outcome = .failed500
              · exact .inr ⟨_, if_pos failed, rfl⟩
              · have accepted : record.outcome = .accepted := by
                  cases h : record.outcome with
                  | accepted => rfl
                  | failed500 => exact absurd h failed
                exact .inl ⟨if_neg failed, .inl accepted⟩
          | created currency charges idempotency claimed inserted =>
              refine .claimed (chargeClaim fresh (chargeInput cfg key body correlationId) now) _
                (some false) (Table.insert?_some claimed).1 rfl (Table.get?_insert? claimed)
                (fun r => ?_) ?_
              · obtain ⟨scope, id⟩ := r
                cases scope with
                | charge =>
                    show (charges.get? id).map _ = _
                    rw [Table.get?_insert? inserted]
                    by_cases own : id = fresh
                    · simp [own, openedRow]
                    · simp [own, outcome?]
                | refund =>
                    show (db.refunds.get? id).map _ = _
                    simp [outcome?]
              · cases transient : (cfg.planFor key).transientFailure
                · refine .inr ⟨_, if_neg (by rw [transient]; exact Bool.false_ne_true), rfl, .inl ?_, rfl⟩
                  simp [chargeClaim, chargeInput, transient]
                · refine .inl ⟨if_pos transient, .inl fun accepts => ?_⟩
                  simp [replaysAccepted, chargeClaim, chargeInput, transient] at accepts
  | refund key body correlationId =>
      simp only [openPost, Post.slot]
      cases ran : openRefund fresh (refundInput cfg key body correlationId) now db with
      | error e => exact .dropped (.refl db) fun _ => rfl
      | ok r =>
          obtain ⟨result, after⟩ := r
          cases openRefund_opened ran with
          | mismatch record taken => exact .dropped (.refl db) fun _ => rfl
          | replayed record row taken owner =>
              have stands : (outcome? db (.refund, record.resourceId)).isSome := by
                simp [outcome?, owner]
              exact .replayed record _ taken stands (bump_sameKeys _ db) (fun _ => rfl)
                (.inl ⟨rfl, .inr rfl⟩)
          | refused _ idempotency claimed why =>
              refine .claimed (refundClaim fresh (refundInput cfg key body correlationId) now) _ none
                (Table.insert?_some claimed).1 rfl (Table.get?_insert? claimed) (fun r => ?_)
                (.inl ⟨refusal_ended why, .inr rfl⟩)
              by_cases own : r = (.refund, fresh)
              · subst own
                simp [outcome?, noRefund]
              · rw [if_neg own]
                rfl
          | created charge refunds idempotency claimed found room inserted =>
              refine .claimed (refundClaim fresh (refundInput cfg key body correlationId) now) _
                (some false) (Table.insert?_some claimed).1 rfl (Table.get?_insert? claimed)
                (fun r => ?_) (.inr ⟨_, rfl, rfl, .inr rfl, rfl⟩)
              obtain ⟨scope, id⟩ := r
              cases scope with
              | charge =>
                  rw [if_neg (by simp)]
                  exact outcome?_modifyCharge (f := fun row : ChargeRow => { row with
                    refundedMinor :=
                      row.refundedMinor + (refundInput cfg key body correlationId).amountMinor })
                    (fun _ => rfl) refunds idempotency id
              | refund =>
                  show (refunds.get? id).map _ = _
                  rw [Table.get?_insert? inserted]
                  by_cases own : id = fresh
                  · simp [own, refundRow]
                  · simp [own, outcome?]

/-! ## What the other steps do -/

theorem next_get? (s : Server) (rid : Nat) (phase : Option Phase) (rid' : Nat) :
    (s.next rid phase).requests.get? rid' =
      if rid' = rid then (s.requests.get? rid).bind fun r => phase.map fun phase => { r with phase }
      else s.requests.get? rid' := by
  cases phase with
  | none =>
      show (s.requests.remove rid).get? rid' = _
      rw [Table.get?_remove]
      cases s.requests.get? rid <;> rfl
  | some phase =>
      show (s.requests.modify rid _).get? rid' = _
      rw [Table.get?_modify]
      by_cases own : rid' = rid
      · subst own
        cases s.requests.get? rid' <;> simp
      · simp [own]

@[simp] theorem next_db (s : Server) (rid : Nat) (phase : Option Phase) :
    (s.next rid phase).db = s.db := by
  cases phase <;> rfl

@[simp] theorem next_dispatched (s : Server) (rid : Nat) (phase : Option Phase) :
    (s.next rid phase).dispatched = s.dispatched := by
  cases phase <;> rfl

@[simp] theorem next_accepted (s : Server) (rid : Nat) (phase : Option Phase) :
    (s.next rid phase).accepted = s.accepted := by
  cases phase <;> rfl

/-- A materialisation settles what had no outcome, or finds nothing to settle. -/
theorem materialise_effect (cfg : PaygateConfig) (now : Instant) (db : PostgresLedger)
    (opened : Opened) :
    ((materialise cfg now db opened).1 = none ∧ (materialise cfg now db opened).2 = db ∧
        outcome? db opened.resource ≠ some false) ∨
      ∃ settled, (materialise cfg now db opened).1 = some settled ∧
        settled.resource = opened.resource ∧ outcome? db opened.resource = some false ∧
        (materialise cfg now db opened).2.idempotency = db.idempotency ∧
        ∀ r, outcome? (materialise cfg now db opened).2 r =
          if r = opened.resource then some true else outcome? db r := by
  cases opened with
  | charge charge =>
      simp only [materialise, PostgresLedger.materialiseCharge, Opened.resource]
      cases found : db.charges.get? charge.id with
      | none =>
          left
          simp [outcome?, found]
      | some row =>
          by_cases done : row.materialised = true
          · left
            simp [outcome?, found, done]
          · right
            simp only [done, Bool.false_eq_true, if_false, Option.map_some]
            refine ⟨_, rfl, rfl, ?_, trivial, fun r => ?_⟩
            · simpa [outcome?, found] using done
            · obtain ⟨scope, id⟩ := r
              cases scope with
              | charge =>
                  simp only [outcome?, Table.get?_modify, Option.map_map]
                  by_cases own : id = charge.id
                  · simp [own, found]
                  · simp [own, Function.comp_def]
              | refund => simp [outcome?]
  | refund refund =>
      simp only [materialise, PostgresLedger.materialiseRefund, Opened.resource]
      cases found : db.refunds.get? refund.id with
      | none =>
          left
          simp [outcome?, found]
      | some row =>
          by_cases done : row.materialised = true
          · left
            simp [outcome?, found, done]
          · right
            simp only [done, Bool.false_eq_true, if_false, Option.map_some]
            refine ⟨_, rfl, rfl, ?_, trivial, fun r => ?_⟩
            · simpa [outcome?, found] using done
            · obtain ⟨scope, id⟩ := r
              cases scope with
              | charge => simp [outcome?]
              | refund =>
                  simp only [outcome?, Table.get?_modify, Option.map_map]
                  by_cases own : id = refund.id
                  · simp [own, found]
                  · simp [own, Function.comp_def]

theorem recover_outcome? (db : PostgresLedger) (chargeId key : String)
    (correlationId : Option String) (r : Scope × String) :
    outcome? (db.recoverFromTransientFailure chargeId key correlationId) r = outcome? db r := by
  obtain ⟨scope, id⟩ := r
  cases scope with
  | charge =>
      exact outcome?_modifyCharge
        (f := fun row : ChargeRow => { row with correlationId := row.correlationId <|> correlationId })
        (fun _ => rfl) db.refunds _ id
  | refund => rfl

/-! ## What an event does -/

/-- The server after an event, by what the ledger call of its request did. -/
inductive Served (s : Server) : Event → Server → Prop where
  | posted (rid : Nat) (post : Post) (requests : Table Nat Request)
      (inserted : s.requests.insert? rid ⟨post, .opening⟩ = some requests) :
      Served s (.post rid post) { s with requests }
  | opened (rid : Nat) (fresh : String) (now : Instant) (post : Post) (phase : Option Phase)
      (db : PostgresLedger) (here : s.requests.get? rid = some ⟨post, .opening⟩)
      (unused : unusedId fresh s.db = true) (effect : OpenEffect post.slot fresh s.db db phase) :
      Served s (.openLedger rid fresh now) ({ s with db }.next rid phase)
  | recovered (rid : Nat) (key : String) (body : ChargeBody) (correlationId : Option String)
      (charge : Charge)
      (here : s.requests.get? rid = some ⟨.charge key body correlationId, .recovering charge⟩) :
      Served s (.recover rid)
        ({ s with db := s.db.recoverFromTransientFailure charge.id key correlationId }.next rid
          (some (.materialising (.charge charge))))
  | unsettled (rid : Nat) (now : Instant) (post : Post) (opened : Opened)
      (here : s.requests.get? rid = some ⟨post, .materialising opened⟩)
      (decided : outcome? s.db opened.resource ≠ some false) :
      Served s (.materialise rid now) (s.next rid (some .answering))
  | settled (rid : Nat) (now : Instant) (post : Post) (opened settled : Opened)
      (db : PostgresLedger) (here : s.requests.get? rid = some ⟨post, .materialising opened⟩)
      (names : settled.resource = opened.resource)
      (undecided : outcome? s.db opened.resource = some false)
      (keys : db.idempotency = s.db.idempotency)
      (outcomes : ∀ r, outcome? db r = if r = opened.resource then some true else outcome? s.db r) :
      Served s (.materialise rid now) ({ s with db }.next rid (some (.dispatching settled)))
  | dispatched (rid : Nat) (post : Post) (settled : Opened)
      (here : s.requests.get? rid = some ⟨post, .dispatching settled⟩) :
      Served s (.dispatch rid)
        ({ s with dispatched := s.dispatched ++ [(rid, settled.resource)] }.next rid (some .answering))
  | answered (rid : Nat) (post : Post) (here : s.requests.get? rid = some ⟨post, .answering⟩) :
      Served s (.answer rid) ({ s with accepted := post.slot :: s.accepted }.next rid none)
  | crashed : Served s .crash { s with requests := .empty, accepted := [] }

theorem serve_served {cfg : PaygateConfig} {e : Event} {s t : Server}
    (stepped : serve cfg e s = some t) : Served s e t := by
  cases e with
  | post rid post =>
      obtain ⟨requests, inserted, rfl⟩ := Option.map_eq_some_iff.mp stepped
      exact .posted rid post requests inserted
  | openLedger rid fresh now =>
      simp only [serve] at stepped
      split at stepped
      · rename_i post here
        split at stepped
        · rename_i unused
          cases stepped
          exact .opened rid fresh now post _ _ here unused (openPost_effect cfg now s.db post unused)
        · cases stepped
      · cases stepped
  | recover rid =>
      simp only [serve] at stepped
      split at stepped
      · rename_i key body correlationId charge here
        cases stepped
        exact .recovered rid key body correlationId charge here
      · cases stepped
  | materialise rid now =>
      simp only [serve] at stepped
      split at stepped
      · rename_i post opened here
        cases stepped
        rcases materialise_effect cfg now s.db opened with ⟨none_, same, decided⟩ | ⟨settled, some_,
          names, undecided, keys, outcomes⟩
        · rw [none_, same]
          exact .unsettled rid now post opened here decided
        · rw [some_]
          exact .settled rid now post opened settled _ here names undecided keys outcomes
      · cases stepped
  | dispatch rid =>
      simp only [serve] at stepped
      split at stepped
      · rename_i post settled here
        cases stepped
        exact .dispatched rid post settled here
      · cases stepped
  | answer rid =>
      simp only [serve] at stepped
      split at stepped
      · rename_i post here
        cases stepped
        exact .answered rid post here
      · cases stepped
  | crash =>
      cases stepped
      exact .crashed

/-- Who dispatches after a request went on: it, or who did before. -/
theorem next_dispatching {s : Server} {rid rid' : Nat} {phase : Option Phase} {request : Request}
    {resource : Scope × String} (here : (s.next rid phase).requests.get? rid' = some request)
    (at_ : request.dispatching? = some resource) :
    (rid' = rid ∧ ∃ settled, phase = some (.dispatching settled) ∧ resource = settled.resource) ∨
      (rid' ≠ rid ∧ s.requests.get? rid' = some request) := by
  rw [next_get?] at here
  by_cases own : rid' = rid
  · rw [if_pos own] at here
    obtain ⟨old, -, moved⟩ := Option.bind_eq_some_iff.mp here
    obtain ⟨phase', among, rfl⟩ := Option.map_eq_some_iff.mp moved
    unfold Request.dispatching? at at_
    split at at_
    · rename_i settled is
      cases at_
      exact .inl ⟨own, settled, among.trans (congrArg some is), rfl⟩
    · cases at_
  · rw [if_neg own] at here
    exact .inr ⟨own, here⟩

/-! ## Dispatched by one request -/

structure Once (s : Server) : Prop where
  done : ∀ d ∈ s.dispatched, outcome? s.db d.2 = some true
  settled : ∀ rid request resource, s.requests.get? rid = some request →
    request.dispatching? = some resource → outcome? s.db resource = some true
  nodup : (s.dispatched.map Prod.snd).Nodup
  apart : ∀ rid request resource, s.requests.get? rid = some request →
    request.dispatching? = some resource → resource ∉ s.dispatched.map Prod.snd
  single : s.requests.UniqueOn Request.dispatching?

/-- Nothing is dispatched, no outcome is lost, and who dispatches now did before. -/
theorem Once.of_fewer {s t : Server} (once : Once s)
    (grows : ∀ r, outcome? s.db r = some true → outcome? t.db r = some true)
    (same : t.dispatched = s.dispatched)
    (fewer : ∀ rid request resource, t.requests.get? rid = some request →
      request.dispatching? = some resource → ∃ request', s.requests.get? rid = some request' ∧
        request'.dispatching? = some resource) : Once t := by
  refine ⟨fun d among => grows _ (once.done d (same ▸ among)), fun rid request resource here at_ => ?_,
    same ▸ once.nodup, fun rid request resource here at_ => ?_,
    fun rid request rid' request' resource here here' at_ at_' => ?_⟩
  · obtain ⟨request', before, was⟩ := fewer rid request resource here at_
    exact grows _ (once.settled rid request' resource before was)
  · obtain ⟨request', before, was⟩ := fewer rid request resource here at_
    rw [same]
    exact once.apart rid request' resource before was
  · obtain ⟨old, before, was⟩ := fewer rid request resource here at_
    obtain ⟨old', before', was'⟩ := fewer rid' request' resource here' at_'
    exact once.single rid old rid' old' resource before before' was was'

/-- One request goes on to a phase in which it dispatches nothing. -/
theorem Once.next {s : Server} {db : PostgresLedger} {accepted : List (Scope × String)} (once : Once s)
    (grows : ∀ r, outcome? s.db r = some true → outcome? db r = some true) (rid : Nat)
    {phase : Option Phase} (idle : ∀ settled, phase ≠ some (.dispatching settled)) :
    Once ({ s with db, accepted }.next rid phase) := by
  refine once.of_fewer (fun r => by simpa using grows r) (next_dispatched ..)
    fun rid' request resource here at_ => ?_
  rcases next_dispatching here at_ with ⟨-, settled, is, -⟩ | ⟨-, before⟩
  · exact absurd is (idle settled)
  · exact ⟨request, before, at_⟩

theorem OpenEffect.idle {slot : Scope × String} {fresh : String} {db db' : PostgresLedger}
    {phase : Option Phase} (effect : OpenEffect slot fresh db db' phase) (settled : Opened) :
    phase ≠ some (.dispatching settled) := by
  cases effect with
  | dropped => simp
  | replayed record phase taken stands keys outcomes decides =>
      rcases decides with ⟨rfl, -⟩ | ⟨charge, rfl, -⟩ <;> simp
  | claimed record phase v unclaimed names keys outcomes decides =>
      rcases decides with ⟨rfl, -⟩ | ⟨opened, rfl, -⟩ <;> simp

theorem OpenEffect.grows {slot : Scope × String} {fresh : String} {db db' : PostgresLedger}
    {phase : Option Phase} (effect : OpenEffect slot fresh db db' phase)
    (unused : unusedId fresh db = true) {r : Scope × String} (stands : (outcome? db r).isSome) :
    outcome? db' r = outcome? db r := by
  cases effect with
  | dropped keys outcomes => exact outcomes r
  | replayed record phase taken stands' keys outcomes decides => exact outcomes r
  | claimed record phase v unclaimed names keys outcomes decides =>
      rw [outcomes, if_neg fun same => ?_]
      simp only [unusedId, Bool.and_eq_true, Option.isNone_iff_eq_none] at unused
      rw [same] at stands
      cases scope : slot.1 <;> rw [scope] at stands <;> simp [outcome?, unused.1] at stands

theorem Once.posted {s : Server} {rid : Nat} {post : Post} {requests : Table Nat Request}
    (once : Once s) (inserted : s.requests.insert? rid ⟨post, .opening⟩ = some requests) :
    Once { s with requests } := by
  refine once.of_fewer (fun _ => id) rfl fun rid' request resource here at_ => ?_
  have here' : requests.get? rid' = some request := here
  rw [Table.get?_insert? inserted] at here'
  by_cases own : rid' = rid
  · rw [if_pos own] at here'
    cases here'
    cases at_
  · rw [if_neg own] at here'
    exact ⟨request, here', at_⟩

/-- What has just got its outcome had none, so nobody has dispatched it or is about to. -/
theorem Once.settled_next {s : Server} {db : PostgresLedger} {rid : Nat} {settled : Opened}
    (once : Once s) (undecided : outcome? s.db settled.resource = some false)
    (outcomes : ∀ r, outcome? db r = if r = settled.resource then some true else outcome? s.db r) :
    Once ({ s with db }.next rid (some (.dispatching settled))) := by
  have grows : ∀ r, outcome? s.db r = some true → outcome? db r = some true := by
    intro r done
    rw [outcomes]
    split
    · rfl
    · exact done
  have unmet : ∀ resource, outcome? s.db resource = some true → resource ≠ settled.resource := by
    intro resource done same
    rw [same, undecided] at done
    cases done
  have lookup : ∀ rid' request resource,
      (Server.next { s with db } rid (some (.dispatching settled))).requests.get? rid' = some request →
      request.dispatching? = some resource →
      (rid' = rid ∧ resource = settled.resource) ∨ s.requests.get? rid' = some request := by
    intro rid' request resource there at_
    rcases next_dispatching there at_ with ⟨own, _, is, names⟩ | ⟨-, before⟩
    · cases is
      exact .inl ⟨own, names⟩
    · exact .inr before
  refine ⟨fun d among => ?_, fun rid' request resource there at_ => ?_, ?_,
    fun rid' request resource there at_ => ?_,
    fun r₁ q₁ r₂ q₂ resource there₁ there₂ at₁ at₂ => ?_⟩
  · rw [next_dispatched] at among
    rw [next_db]
    exact grows _ (once.done d among)
  · rw [next_db]
    rcases lookup rid' request resource there at_ with ⟨-, rfl⟩ | before
    · exact (outcomes _).trans (if_pos rfl)
    · exact grows _ (once.settled rid' request resource before at_)
  · rw [next_dispatched]
    exact once.nodup
  · rw [next_dispatched]
    rcases lookup rid' request resource there at_ with ⟨-, rfl⟩ | before
    · intro among
      obtain ⟨d, mem, same⟩ := List.mem_map.mp among
      exact unmet d.2 (once.done d mem) same
    · exact once.apart rid' request resource before at_
  · rcases lookup r₁ q₁ resource there₁ at₁ with ⟨own₁, same₁⟩ | before₁
    · rcases lookup r₂ q₂ resource there₂ at₂ with ⟨own₂, -⟩ | before₂
      · rw [own₁, own₂]
      · exact absurd same₁ (unmet _ (once.settled r₂ q₂ resource before₂ at₂))
    · rcases lookup r₂ q₂ resource there₂ at₂ with ⟨-, same₂⟩ | before₂
      · exact absurd same₂ (unmet _ (once.settled r₁ q₁ resource before₁ at₁))
      · exact once.single r₁ q₁ r₂ q₂ resource before₁ before₂ at₁ at₂

/-- Who dispatches is done, and it was alone at it. -/
theorem Once.dispatched_next {s : Server} {rid : Nat} {post : Post} {settled : Opened}
    (once : Once s) (here : s.requests.get? rid = some ⟨post, .dispatching settled⟩) :
    Once ({ s with dispatched := s.dispatched ++ [(rid, settled.resource)] }.next rid
      (some .answering)) := by
  have own_ : Request.dispatching? ⟨post, .dispatching settled⟩ = some settled.resource := rfl
  have lookup : ∀ rid' request resource,
      (Server.next { s with dispatched := s.dispatched ++ [(rid, settled.resource)] } rid
        (some .answering)).requests.get? rid' = some request →
      request.dispatching? = some resource → rid' ≠ rid ∧ s.requests.get? rid' = some request := by
    intro rid' request resource there at_
    rcases next_dispatching there at_ with ⟨-, _, is, -⟩ | before
    · cases is
    · exact before
  refine ⟨fun d among => ?_, fun rid' request resource there at_ => ?_, ?_,
    fun rid' request resource there at_ => ?_,
    fun r₁ q₁ r₂ q₂ resource there₁ there₂ at₁ at₂ => ?_⟩
  · rw [next_dispatched] at among
    rw [next_db]
    rcases List.mem_append.mp among with before | last
    · exact once.done d before
    · rw [List.mem_singleton.mp last]
      exact once.settled rid _ _ here own_
  · rw [next_db]
    exact once.settled rid' request resource (lookup rid' request resource there at_).2 at_
  · rw [next_dispatched, List.map_append, List.map_singleton]
    refine once.nodup.append (List.nodup_singleton _) ?_
    simpa using once.apart rid _ _ here own_
  · obtain ⟨other, before⟩ := lookup rid' request resource there at_
    rw [next_dispatched, List.map_append, List.map_singleton, List.mem_append, List.mem_singleton]
    rintro (among | same)
    · exact once.apart rid' request resource before at_ among
    · exact other (once.single rid' request rid _ resource before here at_ (same ▸ own_))
  · exact once.single r₁ q₁ r₂ q₂ resource (lookup r₁ q₁ resource there₁ at₁).2
      (lookup r₂ q₂ resource there₂ at₂).2 at₁ at₂

theorem serve_once {cfg : PaygateConfig} {e : Event} {s t : Server}
    (stepped : serve cfg e s = some t) (once : Once s) : Once t := by
  cases serve_served stepped with
  | posted rid post requests inserted => exact once.posted inserted
  | opened rid fresh now post phase db here unused effect =>
      exact once.next (fun r done => (effect.grows unused (by simp [done])).trans done) rid
        effect.idle
  | recovered rid key body correlationId charge here =>
      exact once.next (fun r done => (recover_outcome? ..).trans done) rid (by simp)
  | unsettled rid now post opened here decided => exact once.next (fun _ => id) rid (by simp)
  | settled rid now post opened settled db here names undecided keys outcomes =>
      rw [← names] at undecided outcomes
      exact once.settled_next undecided outcomes
  | dispatched rid post settled here => exact once.dispatched_next here
  | answered rid post here => exact once.next (fun _ => id) rid (by simp)
  | crashed =>
      refine once.of_fewer (fun _ => id) rfl fun rid request resource here at_ => ?_
      cases here

/-! ## Accepted means materialised -/

/-- The key names the resource. -/
def names (db : PostgresLedger) (slot resource : Scope × String) : Prop :=
  ∃ record, db.idempotency.get? slot = some record ∧ resource = (slot.1, record.resourceId)

/-- A replay of the key is answered 202, with what it names. -/
def answers202 (db : PostgresLedger) (slot : Scope × String) : Prop :=
  ∃ record, db.idempotency.get? slot = some record ∧ replaysAccepted slot record ∧
    (outcome? db (slot.1, record.resourceId)).isSome

/-- What a request in flight may rely on. -/
def Request.relies (db : PostgresLedger) (request : Request) : Prop :=
  match request.phase with
  | .opening => True
  | .recovering charge =>
      names db request.post.slot (.charge, charge.id) ∧ (outcome? db (.charge, charge.id)).isSome
  | .materialising opened => answers202 db request.post.slot ∧ names db request.post.slot opened.resource
  | .dispatching _ => answers202 db request.post.slot
  | .answering => answers202 db request.post.slot

/-- A request is about to materialise what the key names. -/
def atWork (s : Server) (slot resource : Scope × String) : Prop :=
  ∃ rid request opened, s.requests.get? rid = some request ∧ request.post.slot = slot ∧
    request.phase = .materialising opened ∧ opened.resource = resource

structure Pending (s : Server) : Prop where
  waiting : ∀ slot record, s.db.idempotency.get? slot = some record → replaysAccepted slot record →
    outcome? s.db (slot.1, record.resourceId) = some false →
    atWork s slot (slot.1, record.resourceId)
  relies : ∀ rid request, s.requests.get? rid = some request → request.relies s.db
  answered : ∀ slot ∈ s.accepted, answers202 s.db slot

/-- Keys go on naming what they named, what was accepted stays so, and nothing disappears. -/
structure Grows (db db' : PostgresLedger) : Prop where
  keys : ∀ slot record, db.idempotency.get? slot = some record → ∃ record',
    db'.idempotency.get? slot = some record' ∧ record'.resourceId = record.resourceId ∧
      (record.outcome = .accepted → record'.outcome = .accepted)
  outcomes : ∀ r, (outcome? db r).isSome → (outcome? db' r).isSome

theorem Grows.refl (db : PostgresLedger) : Grows db db :=
  ⟨fun _ record here => ⟨record, here, rfl, id⟩, fun _ => id⟩

theorem Grows.names {db db' : PostgresLedger} (grows : Grows db db') {slot resource : Scope × String}
    (had : Paygate.names db slot resource) : Paygate.names db' slot resource := by
  obtain ⟨record, here, rfl⟩ := had
  obtain ⟨record', here', same, -⟩ := grows.keys slot record here
  exact ⟨record', here', by rw [same]⟩

theorem Grows.answers202 {db db' : PostgresLedger} (grows : Grows db db') {slot : Scope × String}
    (had : Paygate.answers202 db slot) : Paygate.answers202 db' slot := by
  obtain ⟨record, here, accepts, stands⟩ := had
  obtain ⟨record', here', same, kept⟩ := grows.keys slot record here
  refine ⟨record', here', accepts.imp kept id, ?_⟩
  rw [same]
  exact grows.outcomes _ stands

theorem Grows.relies {db db' : PostgresLedger} (grows : Grows db db') {request : Request}
    (had : request.relies db) : request.relies db' := by
  unfold Request.relies at had ⊢
  split at had
  · trivial
  · exact ⟨grows.names had.1, grows.outcomes _ had.2⟩
  · exact ⟨grows.answers202 had.1, grows.names had.2⟩
  · exact grows.answers202 had
  · exact grows.answers202 had

theorem sameKeys.grows {db db' : PostgresLedger} (same : sameKeys db db')
    (outcomes : ∀ r, outcome? db' r = outcome? db r) : Grows db db' := by
  refine ⟨fun slot record here => ?_, fun r stands => ?_⟩
  · obtain ⟨record', here', id_, outcome⟩ := same.symm.back here
    exact ⟨record', here', id_, fun accepted => outcome.trans accepted⟩
  · rw [outcomes]
    exact stands

theorem OpenEffect.growth {slot : Scope × String} {fresh : String} {db db' : PostgresLedger}
    {phase : Option Phase} (effect : OpenEffect slot fresh db db' phase)
    (unused : unusedId fresh db = true) : Grows db db' := by
  have outcomes : ∀ r, (outcome? db r).isSome → (outcome? db' r).isSome := by
    intro r stands
    rw [effect.grows unused stands]
    exact stands
  cases effect with
  | dropped keys same => exact keys.grows same
  | replayed record phase taken stands keys same decides => exact keys.grows same
  | claimed record phase v unclaimed _ keys _ decides =>
      refine ⟨fun slot' record' here => ⟨record', ?_, rfl, id⟩, outcomes⟩
      rw [keys, if_neg fun same => ?_]
      · exact here
      · rw [same, unclaimed] at here
        cases here

theorem Grows.recover (db : PostgresLedger) (chargeId key : String)
    (correlationId : Option String) :
    Grows db (db.recoverFromTransientFailure chargeId key correlationId) := by
  refine ⟨fun slot record here => ?_, fun r stands => ?_⟩
  · refine ⟨_, Table.get?_modify_some.mpr ⟨record, here, rfl⟩, ?_, fun accepted => ?_⟩
    · split <;> rfl
    · split
      · rfl
      · exact accepted
  · rw [recover_outcome?]
    exact stands

/-- One request goes on: what it relies on afterwards is all there is to show of it. -/
theorem Pending.next {s : Server} {db : PostgresLedger} {accepted : List (Scope × String)}
    {dispatched : List (Nat × (Scope × String))} (pending : Pending s) (grows : Grows s.db db)
    {rid : Nat} {request : Request} (here : s.requests.get? rid = some request)
    (phase : Option Phase)
    (relies : ∀ phase', phase = some phase' → Request.relies db { request with phase := phase' })
    (answered : ∀ slot ∈ accepted, slot ∈ s.accepted ∨ answers202 db slot)
    (waiting : ∀ slot record, db.idempotency.get? slot = some record → replaysAccepted slot record →
      outcome? db (slot.1, record.resourceId) = some false →
      (∃ opened, phase = some (.materialising opened) ∧ request.post.slot = slot ∧
        opened.resource = (slot.1, record.resourceId)) ∨
      (∃ record', s.db.idempotency.get? slot = some record' ∧ replaysAccepted slot record' ∧
        record'.resourceId = record.resourceId ∧
        outcome? s.db (slot.1, record.resourceId) = some false ∧
        ∀ opened, request.phase = .materialising opened →
          opened.resource ≠ (slot.1, record.resourceId))) :
    Pending (Server.next ⟨db, s.requests, accepted, dispatched⟩ rid phase) := by
  refine ⟨fun slot record found accepts undecided => ?_, fun rid' request' there => ?_,
    fun slot among => ?_⟩
  · rw [next_db] at found undecided
    rcases waiting slot record found accepts undecided with ⟨opened, rfl, own, names⟩ |
      ⟨record', before, had, same, stood, differ⟩
    · refine ⟨rid, { request with phase := .materialising opened }, opened, ?_, own, rfl, names⟩
      rw [next_get?, if_pos rfl, show _ = _ from here]
      rfl
    · obtain ⟨rid', request', opened, there, own, phase_, names⟩ :=
        pending.waiting slot record' before had (by rw [same]; exact stood)
      rw [same] at names
      refine ⟨rid', request', opened, ?_, own, phase_, names⟩
      rw [next_get?, if_neg fun here' => ?_]
      · exact there
      · rw [here', here] at there
        cases there
        exact differ opened phase_ names
  · rw [next_db]
    rw [next_get?] at there
    by_cases own : rid' = rid
    · rw [if_pos own, show _ = _ from here, Option.bind_some] at there
      obtain ⟨phase', some_, rfl⟩ := Option.map_eq_some_iff.mp there
      exact relies phase' some_
    · rw [if_neg own] at there
      exact grows.relies (pending.relies rid' request' there)
  · rw [next_db]
    rw [next_accepted] at among
    rcases answered slot among with before | now
    · exact grows.answers202 (pending.answered slot before)
    · exact now

theorem Pending.posted {s : Server} {rid : Nat} {post : Post} {requests : Table Nat Request}
    (pending : Pending s) (inserted : s.requests.insert? rid ⟨post, .opening⟩ = some requests) :
    Pending { s with requests } := by
  refine ⟨fun slot record found accepts undecided => ?_, fun rid' request there => ?_,
    pending.answered⟩
  · obtain ⟨rid', request, opened, there, rest⟩ :=
      pending.waiting slot record found accepts undecided
    refine ⟨rid', request, opened, ?_, rest⟩
    show requests.get? rid' = some request
    rw [Table.get?_insert? inserted, if_neg fun own => ?_]
    · exact there
    · rw [own, (Table.insert?_some inserted).1] at there
      cases there
  · have there' : requests.get? rid' = some request := there
    rw [Table.get?_insert? inserted] at there'
    by_cases own : rid' = rid
    · rw [if_pos own] at there'
      cases there'
      trivial
    · rw [if_neg own] at there'
      exact pending.relies rid' request there'

/-- What the request does after the first ledger call, it may. -/
theorem OpenEffect.relies {post : Post} {fresh : String} {db db' : PostgresLedger} {phase : Phase}
    (effect : OpenEffect post.slot fresh db db' (some phase)) (grows : Grows db db') :
    Request.relies db' ⟨post, phase⟩ := by
  cases effect with
  | replayed record _ taken stands keys outcomes decides =>
      rcases decides with ⟨next, accepts⟩ | ⟨charge, next, names⟩
      · cases next
        exact grows.answers202 ⟨record, taken, accepts, stands⟩
      · cases next
        refine ⟨grows.names ⟨record, taken, names⟩, ?_⟩
        rw [names]
        exact grows.outcomes _ stands
  | claimed record _ v unclaimed fresh_ keys outcomes decides =>
      rcases decides with ⟨none_, -⟩ | ⟨opened, next, resource, accepts, rfl⟩
      · cases none_
      · cases next
        have stored := keys post.slot
        rw [if_pos rfl] at stored
        have resource_ : opened.resource = (post.slot.1, record.resourceId) := by
          rw [fresh_]
          exact resource
        refine ⟨⟨record, stored, accepts, ?_⟩, ⟨record, stored, resource_⟩⟩
        rw [outcomes, if_pos (by rw [fresh_]), Option.isSome_some]

/-- What waits for its outcome after the first ledger call waited before, or the request goes
on to materialise it. -/
theorem OpenEffect.waiting {slot : Scope × String} {fresh : String} {db db' : PostgresLedger}
    {phase : Option Phase} (effect : OpenEffect slot fresh db db' phase)
    (unused : unusedId fresh db = true) {slot' : Scope × String} {record : IdempotencyRow}
    (found : db'.idempotency.get? slot' = some record) (accepts : replaysAccepted slot' record)
    (undecided : outcome? db' (slot'.1, record.resourceId) = some false) :
    (∃ opened, phase = some (.materialising opened) ∧ slot = slot' ∧
      opened.resource = (slot'.1, record.resourceId)) ∨
    ∃ record', db.idempotency.get? slot' = some record' ∧ replaysAccepted slot' record' ∧
      record'.resourceId = record.resourceId ∧
      outcome? db (slot'.1, record.resourceId) = some false := by
  have kept : sameKeys db db' → (∀ r, outcome? db' r = outcome? db r) →
      ∃ record', db.idempotency.get? slot' = some record' ∧ replaysAccepted slot' record' ∧
        record'.resourceId = record.resourceId ∧
        outcome? db (slot'.1, record.resourceId) = some false := by
    intro keys outcomes
    obtain ⟨record', before, id_, outcome⟩ := keys.back found
    rw [outcomes] at undecided
    exact ⟨record', before, accepts.imp outcome.trans id, id_, undecided⟩
  cases effect with
  | dropped keys outcomes => exact .inr (kept keys outcomes)
  | replayed known _ taken stands keys outcomes decides => exact .inr (kept keys outcomes)
  | claimed known _ v unclaimed fresh_ keys outcomes decides =>
      rw [keys] at found
      by_cases own : slot' = slot
      · rw [if_pos own] at found
        cases found
        subst own
        rw [outcomes, fresh_, if_pos rfl] at undecided
        rcases decides with ⟨-, idle | none_⟩ | ⟨opened, next, resource, -, -⟩
        · exact absurd accepts idle
        · rw [none_] at undecided
          cases undecided
        · exact .inl ⟨opened, next, rfl, by rw [fresh_]; exact resource⟩
      · rw [if_neg own] at found
        have other : (slot'.1, record.resourceId) ≠ (slot.1, fresh) := by
          intro same
          simp only [unusedId, Bool.and_eq_true, List.all_eq_true, decide_eq_true_eq] at unused
          exact unused.2 _ (Table.mem_rows.mpr found) (Prod.mk.inj same).2
        rw [outcomes, if_neg other] at undecided
        exact .inr ⟨record, found, accepts, rfl, undecided⟩

theorem Pending.opened_next {s : Server} {db : PostgresLedger} {rid : Nat} {post : Post}
    {fresh : String} {phase : Option Phase} (pending : Pending s)
    (here : s.requests.get? rid = some ⟨post, .opening⟩) (unused : unusedId fresh s.db = true)
    (effect : OpenEffect post.slot fresh s.db db phase) :
    Pending ({ s with db }.next rid phase) := by
  have grows := effect.growth unused
  refine pending.next grows here phase (fun phase' is => ?_) (fun slot among => .inl among)
    fun slot record found accepts undecided => ?_
  · subst is
    exact effect.relies grows
  · refine (effect.waiting unused found accepts undecided).imp id ?_
    rintro ⟨record', before, accepts', id_, undecided'⟩
    exact ⟨record', before, accepts', id_, undecided', fun opened is => by cases is⟩

theorem Pending.recovered_next {s : Server} {rid : Nat} {key : String} {body : ChargeBody}
    {correlationId : Option String} {charge : Charge} (pending : Pending s)
    (here : s.requests.get? rid = some ⟨.charge key body correlationId, .recovering charge⟩) :
    Pending ({ s with db := s.db.recoverFromTransientFailure charge.id key correlationId }.next rid
      (some (.materialising (.charge charge)))) := by
  obtain ⟨⟨record, taken, names_⟩, stands⟩ := pending.relies rid _ here
  have grows := Grows.recover s.db charge.id key correlationId
  have stored : (s.db.recoverFromTransientFailure charge.id key correlationId).idempotency.get?
      (.charge, key) = some { record with outcome := .accepted } := by
    show (s.db.idempotency.modify _ _).get? _ = _
    rw [Table.get?_modify_self, show s.db.idempotency.get? (.charge, key) = some record from taken,
      Option.map_some]
  refine pending.next grows here _ (fun phase' is => ?_) (fun slot among => .inl among)
    fun slot record' found accepts undecided => ?_
  · cases is
    refine ⟨⟨_, stored, .inl rfl, ?_⟩, grows.names ⟨record, taken, names_⟩⟩
    rw [recover_outcome?]
    show (outcome? s.db (_, record.resourceId)).isSome
    rw [← names_]
    exact stands
  · rw [recover_outcome?] at undecided
    obtain ⟨old, before, rfl⟩ := Table.get?_modify_some.mp found
    by_cases own : slot = (.charge, key)
    · subst own
      rw [if_pos rfl]
      have same : old = record := Option.some.inj (before.symm.trans taken)
      exact .inl ⟨_, rfl, rfl, by rw [same]; exact names_⟩
    · rw [if_neg own] at accepts undecided ⊢
      exact .inr ⟨old, before, accepts, rfl, undecided, fun opened is => by cases is⟩

/-- One request goes on, the ledger as it was, and not from what waits for its outcome. -/
theorem Pending.next_same {s : Server} {accepted : List (Scope × String)}
    {dispatched : List (Nat × (Scope × String))} (pending : Pending s) {rid : Nat} {request : Request}
    (here : s.requests.get? rid = some request) (phase : Option Phase)
    (relies : ∀ phase', phase = some phase' → Request.relies s.db { request with phase := phase' })
    (answered : ∀ slot ∈ accepted, slot ∈ s.accepted ∨ answers202 s.db slot)
    (decided : ∀ opened, request.phase = .materialising opened →
      outcome? s.db opened.resource ≠ some false) :
    Pending (Server.next ⟨s.db, s.requests, accepted, dispatched⟩ rid phase) := by
  refine pending.next (.refl s.db) here phase relies answered
    fun slot record found accepts waits => .inr ⟨record, found, accepts, rfl, waits, ?_⟩
  intro opened is names
  rw [← names] at waits
  exact decided opened is waits

theorem Pending.settled_next {s : Server} {db : PostgresLedger} {rid : Nat} {post : Post}
    {opened settled : Opened} (pending : Pending s)
    (here : s.requests.get? rid = some ⟨post, .materialising opened⟩)
    (keys : db.idempotency = s.db.idempotency)
    (outcomes : ∀ r, outcome? db r = if r = opened.resource then some true else outcome? s.db r) :
    Pending ({ s with db }.next rid (some (.dispatching settled))) := by
  have grows : Grows s.db db := by
    refine ⟨fun slot record there => ⟨record, keys ▸ there, rfl, id⟩, fun r stands => ?_⟩
    rw [outcomes]
    split
    · rfl
    · exact stands
  refine pending.next grows here _ (fun phase' is => ?_) (fun slot among => .inl among)
    fun slot record found accepts waits => ?_
  · cases is
    exact grows.answers202 (pending.relies rid _ here).1
  · rw [keys] at found
    rw [outcomes] at waits
    split at waits
    · cases waits
    · rename_i other
      refine .inr ⟨record, found, accepts, rfl, waits, fun opened' is names => ?_⟩
      cases is
      exact other names.symm

/-- Whoever was about to materialise something is lost, so where one was the crash fell
between. -/
theorem Pending.crashed {s : Server} (pending : Pending s) (safe : crashesBetween .crash s) :
    Pending { s with requests := .empty, accepted := [] } := by
  refine ⟨fun slot record found accepts undecided => ?_, fun rid request there => ?_,
    fun slot among => ?_⟩
  · obtain ⟨rid, request, opened, there, -, phase, names⟩ :=
      pending.waiting slot record found accepts undecided
    have settled := List.all_eq_true.mp (safe rfl) _ (Table.mem_rows.mpr there)
    simp only [phase, names, decide_eq_true_eq] at settled
    rw [show outcome? s.db _ = _ from undecided] at settled
    cases settled
  · cases there
  · cases among

theorem serve_pending {cfg : PaygateConfig} {e : Event} {s t : Server}
    (stepped : serve cfg e s = some t) (safe : crashesBetween e s) (pending : Pending s) :
    Pending t := by
  cases serve_served stepped with
  | posted rid post requests inserted => exact pending.posted inserted
  | opened rid fresh now post phase db here unused effect =>
      exact pending.opened_next here unused effect
  | recovered rid key body correlationId charge here => exact pending.recovered_next here
  | unsettled rid now post opened here decided =>
      refine pending.next_same here _ (fun phase' is => ?_) (fun slot among => .inl among)
        fun opened' is => ?_
      · cases is
        exact (pending.relies rid _ here).1
      · cases is
        exact decided
  | settled rid now post opened settled db here names undecided keys outcomes =>
      exact pending.settled_next here keys outcomes
  | dispatched rid post settled here =>
      refine pending.next_same here _ (fun phase' is => ?_) (fun slot among => .inl among)
        fun opened is => by cases is
      cases is
      exact pending.relies rid ⟨post, .dispatching settled⟩ here
  | answered rid post here =>
      refine pending.next_same here _ (fun phase' is => ?_) (fun slot among => ?_)
        fun opened is => by cases is
      · cases is
      · rcases List.mem_cons.mp among with rfl | before
        · exact .inr (pending.relies rid _ here)
        · exact .inl before
  | crashed => exact pending.crashed safe

theorem start_once (db : PostgresLedger) : Once (.start db) := by
  refine ⟨fun d among => ?_, fun _ _ _ here => ?_, List.nodup_nil, fun _ _ _ here => ?_,
    fun _ _ _ _ _ here => ?_⟩
  · cases among
  all_goals cases here

theorem start_pending {db : PostgresLedger} (quiet : Quiet db) : Pending (.start db) := by
  refine ⟨fun slot record here accepts undecided => ?_, fun _ _ here => ?_, fun _ among => ?_⟩
  · exact absurd undecided (quiet slot record here accepts)
  · cases here
  · cases among

/-- **Accepted means materialised, and dispatched once.**  Nothing is dispatched by two
requests; and along a run whose crashes do not fall between opening and materialising, a key
that was answered 202 and has nobody at work on it has its outcome. -/
theorem accepted_materialised (cfg : PaygateConfig) {db : PostgresLedger} (quiet : Quiet db)
    {es : List Event} {s : Server} (ran : run (serve cfg) es (.start db) = some s) :
    (∀ resource, (dispatchers s resource).length ≤ 1) ∧
      (Along (serve cfg) crashesBetween es (.start db) →
        ∀ slot, toldAccepted s slot → isMaterialised s.db slot) := by
  constructor
  · intro resource
    have once := run_keeps (fun _ _ _ => serve_once) ran (start_once db)
    have distinct := once.nodup
    rw [dispatchers, List.length_map, ← List.countP_eq_length_filter]
    have counted : s.dispatched.countP (fun d => decide (d.2 = resource)) =
        (s.dispatched.map Prod.snd).count resource := by
      rw [List.count, List.countP_map]
      refine List.countP_congr fun d _ => ?_
      simp
    rw [counted]
    exact List.nodup_iff_count_le_one.mp distinct resource
  · intro along slot ⟨among, idle⟩
    have pending := run_keeps_along (fun _ _ _ stepped safe => serve_pending stepped safe) ran along
      (start_pending quiet)
    obtain ⟨record, here, accepts, stands⟩ := pending.answered slot among
    refine ⟨record, here, ?_⟩
    obtain ⟨outcome, is⟩ := Option.isSome_iff_exists.mp stands
    cases outcome with
    | true => exact is
    | false =>
        obtain ⟨rid, request, -, there, own, -⟩ := pending.waiting slot record here accepts is
        exact absurd own (idle rid request there)

namespace Sample

/-- One key draws the transient failure; no other chaos. -/
def paygate : PaygateConfig where
  planFor key := { importedPlan with transientFailure := decide (key = "failing") }
  declineAmountMinor := 1
  fingerprintOfCharge body := body.reference
  fingerprintOfRefund body := body.chargeId

def postCharge (rid : Nat) (key : String) : Event :=
  .post rid (.charge key ⟨900, "USD", "booking"⟩ none)

/-- A 500, its retry, a crash, and one more retry. -/
def retried : List Event :=
  [postCharge 1 "failing", .openLedger 1 "ch_1" 0, postCharge 1 "failing", .openLedger 1 "ch_2" 1,
    .recover 1, .materialise 1 2, .dispatch 1, .answer 1, .crash, postCharge 1 "failing",
    .openLedger 1 "ch_3" 3, .answer 1]

/-- A crash between opening and materialising, and the caller's retry. -/
def crashedBetween : List Event :=
  [postCharge 1 "steady", .openLedger 1 "ch_1" 0, .crash, postCharge 1 "steady",
    .openLedger 1 "ch_2" 1, .answer 1]

end Sample

/-- A server that has answered everything it was asked. -/
theorem toldAccepted_of_idle {s : Server} {slot : Scope × String} (among : slot ∈ s.accepted)
    (idle : s.requests.rows = []) : toldAccepted s slot := by
  refine ⟨among, fun rid request here => ?_⟩
  have listed := Table.mem_rows.mpr here
  rw [idle] at listed
  cases listed

theorem accepted_materialised_retried : ∃ s,
    run (serve Sample.paygate) Sample.retried (.start .empty) = some s ∧
      toldAccepted s (.charge, "failing") ∧ s.dispatched.length = 1 ∧
      isMaterialised s.db (.charge, "failing") := by
  have ends : (run (serve Sample.paygate) Sample.retried (.start .empty)).map (fun s =>
      (s.accepted, s.requests.rows, s.dispatched.length)) = some ([(.charge, "failing")], [], 1) := by
    decide +kernel
  have along : Along (serve Sample.paygate) crashesBetween Sample.retried (.start .empty) := by
    decide +kernel
  have quiet : Quiet .empty := fun _ _ here => by cases here
  obtain ⟨s, ran, is⟩ := Option.map_eq_some_iff.mp ends
  simp only [Prod.mk.injEq] at is
  obtain ⟨accepted, idle, once⟩ := is
  have told : toldAccepted s (.charge, "failing") :=
    toldAccepted_of_idle (by rw [accepted]; exact List.mem_singleton.mpr rfl) idle
  exact ⟨s, ran, told, once, (accepted_materialised Sample.paygate quiet ran).2 along _ told⟩

/-- The replay decides from the key's outcome, which the lost request had set to accepted. -/
theorem accepted_unmaterialised :
    ¬ ∀ es s, run (serve Sample.paygate) es (.start .empty) = some s →
      ∀ slot, toldAccepted s slot → isMaterialised s.db slot := by
  intro promise
  have ends : (run (serve Sample.paygate) Sample.crashedBetween (.start .empty)).map (fun s =>
      (s.accepted, s.requests.rows,
        (s.db.idempotency.get? (.charge, "steady")).map (·.resourceId),
        outcome? s.db (.charge, "ch_1"))) =
      some ([(.charge, "steady")], [], some "ch_1", some false) := by
    decide +kernel
  obtain ⟨s, ran, is⟩ := Option.map_eq_some_iff.mp ends
  simp only [Prod.mk.injEq] at is
  obtain ⟨accepted, idle, named, undecided⟩ := is
  have told : toldAccepted s (.charge, "steady") :=
    toldAccepted_of_idle (by rw [accepted]; exact List.mem_singleton.mpr rfl) idle
  obtain ⟨record, here, done⟩ := promise _ s ran _ told
  rw [here, Option.map_some, Option.some.injEq] at named
  rw [named, undecided] at done
  cases done

end Atrium.Paygate
