/-
# StrandedRefund -- a refund no one is left to ask for

A cancelled or late charge is given back by the process that cancelled it or applied it:
it mints the key, and it sends the request.  Where that process is lost in between, or the
refund comes to nothing, the payment is stranded (`Stranded`): no one has its instruction,
and nothing selects it again.  It stays so in every continuation; and where the provider
keeps its word, the reconciliation report names it in every state from then on.
-/
import Atrium.Accounted

namespace Atrium

open Atrium.Base

set_option autoImplicit false

/-! ## Stranded payments -/

/-- The charge `c` of the payment is captured and to be given back, and no one is going to. -/
structure Stranded (api : Api) (id : Uuid) (c : String) : Prop where
  owed : ∃ p, api.db.payments.get? id = some p ∧ p.chargeId = some c ∧
    (p.refundIdempotencyKey ≠ none ∨
      (statusOf api.db p.bookingId ∈ [BookingStatus.cancelled, .refunded] ∧
        ∀ pid proc, api.procs.get? pid = some proc → proc.settling ≠ some p.bookingId))
  captured : ⟨c, .chargeSucceeded⟩ ∈ api.db.paymentEvents
  uncarried : ∀ pid proc i, api.procs.get? pid = some proc → proc.unsent = some i → i.chargeId ≠ c
  unasked : ∀ i ∈ api.refundRequests, i.chargeId ≠ c

/-- A process settles a cancellation where the booking was HELD or CONFIRMED. -/
theorem Effect.next_settling {env : Env} {t : Txn} {db db' : Db} {out : Outcome}
    (effect : Effect env t db db' out) {p : Proc} {b : Uuid} (next : out.next = some p)
    (settles : p.settling = some b) : statusOf db b = .held ∨ statusOf db b = .confirmed := by
  cases effect with
  | cancelled bookingId reason principal now _ b' here status =>
      cases next
      cases settles
      rwa [statusOf_some here]
  | refundMinted =>
      obtain ⟨_, _, rfl⟩ := refundOutcome_next (r := some _) next
      cases settles
  | applied =>
      obtain ⟨_, _, rfl⟩ := refundOutcome_next next
      cases settles
  | polledCharge =>
      obtain ⟨_, _, rfl⟩ := refundOutcome_next next
      cases settles
  | paid =>
      cases next
      cases settles
  | _ => cases next

/-- An instruction is of a charge that is applied just then, or of the captured payment of
the booking that is settled. -/
theorem Effect.next_unsent {env : Env} {t : Txn} {db db' : Db} {out : Outcome}
    (effect : Effect env t db db' out) {i : RefundInstruction}
    (next : out.next = some (.refunding i)) :
    ⟨i.chargeId, .chargeSucceeded⟩ ∉ db.paymentEvents ∨
      ∃ bookingId choice now, ∃ payment : Uuid × Payment,
        t = .settleCancellation bookingId choice now ∧ db.payments.get? payment.1 =
          some payment.2 ∧ payment.2.bookingId = bookingId ∧
        payment.2.chargeId = some i.chargeId ∧ payment.2.refundIdempotencyKey = none := by
  have late : ∀ {payment : Uuid × Payment} {e : WebhookEvent} {now : Instant} {s s' : Db}
      {j : RefundInstruction}, Consequence payment e now s (some j) s' →
      j.chargeId = e.chargeId ∧ e.event = .chargeSucceeded := by
    intro payment e now s s' j consequence
    cases consequence with
    | late b name => exact ⟨rfl, name⟩
  cases effect with
  | refundMinted bookingId choice now _ booking payment chargeId snapshot breakdown _ captured
      charge unminted =>
      obtain ⟨_, same, same'⟩ := refundOutcome_next (r := some _) next
      cases same'
      cases same
      obtain ⟨here, own, -⟩ := capturedPayment_some captured
      exact .inr ⟨bookingId, choice, now, payment, rfl, here, own, charge, unminted⟩
  | applied rowId now _ u v d fields e payment r _ _ _ _ looked applied =>
      obtain ⟨_, rfl, same⟩ := refundOutcome_next next
      cases same
      obtain ⟨own, name⟩ := late applied.consequence
      rw [own, ← (findPayment_events looked).1]
      exact .inl (name ▸ applied.1)
  | polledCharge payment chargeId captured now _ _ r applied =>
      obtain ⟨_, rfl, same⟩ := refundOutcome_next next
      cases same
      obtain ⟨own, name⟩ := late applied.consequence
      rw [own]
      exact .inl (name ▸ applied.1)
  | paid => cases next
  | _ => cases next

/-- A cancelled booking stays so, or is refunded. -/
theorem AskingSafe.stays_cancelled {env : Env} {a : Action} {api api' : Api} (holds : AskingSafe api)
    (stepped : step env a api = some api') {b : Uuid}
    (was : statusOf api.db b ∈ [BookingStatus.cancelled, .refunded]) :
    statusOf api'.db b ∈ [BookingStatus.cancelled, .refunded] := by
  by_cases same : statusOf api.db b = statusOf api'.db b
  · exact same ▸ was
  · have move := (step_logged holds.safe.claimed stepped b).2 same
    simp only [List.mem_cons, List.not_mem_nil, or_false] at was
    rcases was with was | was <;> rw [was] at move
    · exact List.mem_cons_of_mem _ move
    · exact (List.not_mem_nil move).elim

namespace Stranded

variable {env : Env} {a : Action} {api api' : Api} {id : Uuid} {c : String}

/-- One process goes on, and takes neither the refund nor the cancellation up. -/
theorem resume (stranded : Stranded api id c) {pid : Option Pid} {next : Option Proc} {db' : Db}
    (kept : paymentsKept api.db db') (events : api.db.paymentEvents ⊆ db'.paymentEvents)
    (settled : ∀ b, statusOf api.db b ∈ [BookingStatus.cancelled, .refunded] →
      statusOf db' b ∈ [BookingStatus.cancelled, .refunded])
    (cancels : ∀ p b, next = some p → p.settling = some b →
      statusOf api.db b ∉ [BookingStatus.cancelled, .refunded])
    (carries : ∀ p i, next = some p → p.unsent = some i → i.chargeId ≠ c) :
    Stranded (({ api with db := db' } : Api).resume pid next) id c := by
  obtain ⟨⟨p, here, charge, owed⟩, captured, uncarried, unasked⟩ := stranded
  obtain ⟨p', here', keeps⟩ := kept id p here
  refine ⟨⟨p', by rwa [Api.resume_db], keeps.charge c charge, ?_⟩, ?_, ?_, ?_⟩
  · rcases owed with minted | ⟨status, unsettled⟩
    · obtain ⟨k, minted⟩ := Option.ne_none_iff_exists'.mp minted
      rw [keeps.minted k minted]
      exact .inl (Option.some_ne_none k)
    · rw [keeps.booking, Api.resume_db]
      refine .inr ⟨settled _ status, fun pid' proc there => ?_⟩
      rw [Api.resume_procs] at there
      split_ifs at there
      · exact fun settles => cancels proc _ there settles status
      · exact unsettled pid' proc there
  · rw [Api.resume_db]
    exact events captured
  · intro pid' proc i there carried
    rw [Api.resume_procs] at there
    split_ifs at there
    · exact carries proc i there carried
    · exact uncarried pid' proc i there carried
  · intro i among
    rw [Api.resume_refundRequests] at among
    exact unasked i among

/-- **A step leaves a stranded payment stranded.** -/
theorem step (holds : AskingSafe api) (stepped : Atrium.step env a api = some api')
    (stranded : Stranded api id c) : Stranded api' id c := by
  have settled : ∀ {db'}, db' = api'.db → ∀ b,
      statusOf api.db b ∈ [BookingStatus.cancelled, .refunded] →
        statusOf db' b ∈ [BookingStatus.cancelled, .refunded] := by
    rintro _ rfl b was
    exact holds.stays_cancelled stepped was
  have events := holds.gated.events stepped
  cases step_cases stepped with
  | committed commit out db' enabled free ran =>
      have effect := Txn.run_effect ran
      have commits := commit_cases enabled
      have bound := commits.pollBound holds.gated.polls
      refine stranded.resume (effect.paymentsKept bound) ?_ (settled (by simp)) ?_ ?_
      · have grown := events.1
        rw [Api.resume_db] at grown
        rw [grown]
        exact List.subset_append_left _ _
      · intro p b next settles was
        rcases effect.next_settling next settles with status | status <;>
          rw [status] at was <;> simp at was
      · intro p i next carries same
        cases p with
        | refunding j =>
            cases carries
            obtain ⟨q, stored, charge, owed⟩ := stranded.owed
            -- Its capture was applied before, so the booking is being settled.
            rcases effect.next_unsent next with fresh | ⟨bookingId, choice, now, payment, own, here,
              booking, charge', unminted⟩
            · exact fresh (same ▸ stranded.captured)
            · rw [same] at charge'
              obtain rfl := holds.gated.distinct _ _ _ _ c here stored charge' charge
              cases here.symm.trans stored
              rcases owed with minted | ⟨-, unsettled⟩
              · exact minted unminted
              · cases commits with
                | settleCancellation pid choice' now' bookingId' proc _ =>
                    cases own
                    exact unsettled pid _ proc (congrArg some booking.symm)
                | _ => cases own
        | _ => cases carries
  | aborted commit e enabled ran =>
      refine stranded.resume (.of_eq rfl) (List.Subset.refl _) (fun _ was => was) ?_ ?_
      · intro p b next settles
        cases commit_cases enabled with
        | refundAccepted =>
            cases next
            cases settles
        | _ => cases next
      · intro p i next carries
        cases commit_cases enabled with
        | refundAccepted =>
            cases next
            cases carries
        | _ => cases next
  | unshared _ moved =>
      have idle : ∀ (pid : Pid) (q : Option Proc), (∀ p, q = some p → p.settling = none) →
          (∀ p, q = some p → p.unsent = none) → Stranded (api.become pid q) id c := by
        intro pid q unsettling unsending
        refine @Stranded.resume api id c stranded (some pid) q api.db (.of_eq rfl)
          (List.Subset.refl _) (fun _ was => was) ?_ ?_
        · intro p b next settles
          rw [unsettling p next] at settles
          cases settles
        · intro p i next carries
          rw [unsending p next] at carries
          cases carries
      cases moved with
      | ticked ms => exact ⟨stranded.owed, stranded.captured, stranded.uncarried, stranded.unasked⟩
      | charged pid request paymentId =>
          have same := idle pid (some (.charged request paymentId)) (by rintro p ⟨⟩; rfl)
            (by rintro p ⟨⟩; rfl)
          exact ⟨same.owed, same.captured, same.uncarried, same.unasked⟩
      | refundSent pid instruction here =>
          have same := idle pid (some (.refundSent instruction)) (by rintro p ⟨⟩; rfl)
            (by rintro p ⟨⟩; rfl)
          refine ⟨same.owed, same.captured, same.uncarried, fun i among => ?_⟩
          rcases List.mem_append.mp among with before | new
          · exact stranded.unasked i before
          · obtain rfl := List.mem_singleton.mp new
            exact stranded.uncarried pid _ i here rfl
      | _ => exact idle _ _ (by rintro p ⟨⟩ <;> rfl) (by rintro p ⟨⟩ <;> rfl)

/-- **A run leaves it stranded.** -/
theorem run : ∀ {acts : List Action} {api api' : Api}, AskingSafe api →
    Base.run (Atrium.step env) acts api = some api' → Stranded api id c →
      AskingSafe api' ∧ Stranded api' id c
  | [], api, api', holds, ran, stranded => by
      cases ran
      exact ⟨holds, stranded⟩
  | a :: acts, api, api', holds, ran, stranded => by
      obtain ⟨mid, stepped, rest⟩ := Option.bind_eq_some_iff.mp ran
      exact run (step_asking stepped holds) rest (stranded.step holds stepped)

end Stranded

/-! ## How a payment is stranded -/

theorem Proc.of_unsent {p : Proc} {i : RefundInstruction} (carries : p.unsent = some i) :
    p = .refunding i := by
  cases p with
  | refunding j => exact congrArg Proc.refunding (Option.some.inj carries)
  | _ => cases carries

theorem Proc.of_settling {p : Proc} {b : Uuid} (settles : p.settling = some b) :
    p = .cancelled b := by
  cases p with
  | cancelled b' => exact congrArg Proc.cancelled (Option.some.inj settles)
  | _ => cases settles

section Strands

variable {env : Env} {api api' : Api}

/-- What was captured on a payment with a key. -/
theorem Backed.captured {db : Db} (backed : Backed db) {id : Uuid} {p : Payment} {c : String}
    (here : db.payments.get? id = some p) (charge : p.chargeId = some c)
    (minted : p.refundIdempotencyKey ≠ none) : ⟨c, .chargeSucceeded⟩ ∈ db.paymentEvents := by
  obtain ⟨k, minted⟩ := Option.ne_none_iff_exists'.mp minted
  obtain ⟨c', charge', applied, -⟩ := (backed id p here).minted k minted
  cases charge.symm.trans charge'
  exact applied

/-- **A crash strands** the refund its process had not asked for yet. -/
theorem AskingSafe.crashed (holds : AskingSafe api) {pid : Pid} {i : RefundInstruction}
    (carried : api.procs.get? pid = some (.refunding i)) :
    Stranded (api.become pid none) i.paymentId i.chargeId := by
  obtain ⟨key, p, here, -, charge, minted, -⟩ := holds.asking.carried pid _ i carried rfl
  have keyed : p.refundIdempotencyKey ≠ none := by rw [minted]; exact Option.some_ne_none _
  refine ⟨⟨p, here, charge, .inl keyed⟩, holds.backed.captured here charge keyed, ?_, ?_⟩
  · intro pid' proc j there carries same
    rw [Api.become_procs] at there
    split_ifs at there with own
    have shared : j.idempotencyKey = i.idempotencyKey := by
      rw [(holds.asking.carried pid' proc j there carries).1, key, same]
    exact own (holds.asking.apart pid' proc j pid _ i there carries carried rfl shared)
  · intro j among same
    refine holds.asking.unsent pid _ i carried rfl (List.mem_map.mpr ⟨j, among, ?_⟩)
    rw [(holds.asking.asked j among).1, key, same]

/-- Whoever has an instruction has its key on the payment. -/
theorem AskingSafe.unminted (holds : AskingSafe api) {id : Uuid} {p : Payment} {c : String}
    (here : api.db.payments.get? id = some p) (charge : p.chargeId = some c)
    (unminted : p.refundIdempotencyKey = none) {i : RefundInstruction} (owed : Owed api.db i) :
    i.chargeId ≠ c := by
  rintro rfl
  obtain ⟨-, q, stored, -, charge', own, -⟩ := owed
  obtain rfl := holds.gated.distinct id p _ q _ here stored charge charge'
  cases here.symm.trans stored
  rw [unminted] at own
  cases own

/-- **A refund of nothing** leaves its key behind: the step that mints it hands no
instruction on. -/
theorem AskingSafe.minted_idle (holds : AskingSafe api) {pid : Pid} {choice : Uuid} {now : Instant}
    (stepped : step env (.settleCancellation pid choice now) api = some api') {id : Uuid}
    {p p' : Payment} (here : api.db.payments.get? id = some p) (unminted : p.refundIdempotencyKey = none)
    (here' : api'.db.payments.get? id = some p') (minted : p'.refundIdempotencyKey ≠ none)
    (idle : api'.procs.get? pid = none) : ∃ c, Stranded api' id c := by
  have holds' := step_asking stepped holds
  obtain ⟨k, set⟩ := Option.ne_none_iff_exists'.mp minted
  obtain ⟨c, charge, applied, rfl⟩ := (holds'.backed id p' here').minted k set
  obtain ⟨p'', there, keeps⟩ := step_paymentsKept holds.gated.polls stepped id p here
  cases here'.symm.trans there
  have unowed : ∀ j, Owed api.db j → j.chargeId ≠ c := by
    rintro j owed rfl
    have owed' := owed
    obtain ⟨-, q, stored, -, charge', -, -⟩ := owed'
    obtain ⟨q', stored', keeps'⟩ := step_paymentsKept holds.gated.polls stepped _ q stored
    obtain rfl := holds'.gated.distinct id p' _ q' _ here' stored' charge (keeps'.charge _ charge')
    cases here.symm.trans stored
    exact holds.unminted here charge' unminted owed rfl
  have same : api'.db = api.db → False := by
    intro same
    rw [same, here] at here'
    cases here'
    exact minted unminted
  cases step_cases stepped with
  | committed commit out db' enabled =>
      cases commit_cases enabled
      refine ⟨c, ⟨p', here', charge, .inl minted⟩, applied, ?_, ?_⟩
      · intro pid' proc j there carries
        rw [Api.resume_procs] at there idle
        split_ifs at there with own
        · rw [if_pos rfl, there] at idle
          cases idle
        · exact unowed j (holds.asking.carried pid' proc j there carries)
      · intro j among
        rw [Api.resume_refundRequests] at among
        exact unowed j (holds.asking.asked j among)
  | aborted commit e enabled => exact (same (by simp)).elim
  | unshared _ moved => exact (same moved.db).elim

end Strands

/-! ## On the report -/

/-- A refund that was told of was asked for. -/
def RefundedAsked (api : Api) : Prop :=
  ∀ c, ⟨c, .refundSucceeded⟩ ∈ api.db.paymentEvents → ∃ i ∈ api.refundRequests, i.chargeId = c

theorem step_refundedAsked {w : Provider} {env : Env} {a : Action} {api api' : Api}
    (stepped : step env a api = some api') (keeps : w.Keeps a api) (tied : Tied w api)
    (asked : RefundedAsked api) : RefundedAsked api' := by
  have grown := (step_grows stepped tied.gated).2.1
  intro c among
  have old : ⟨c, .refundSucceeded⟩ ∈ api.db.paymentEvents →
      ∃ i ∈ api'.refundRequests, i.chargeId = c := by
    intro before
    obtain ⟨i, sent, same⟩ := asked c before
    exact ⟨i, grown sent, same⟩
  rcases step_db stepped with same | ⟨commit, out, commits, -, effect⟩
  · exact old (same ▸ among)
  · rcases (effect.eventChange (commits.pollBound tied.gated.polls)).claimed.2 _ among with
      before | ⟨e, now, tells, same⟩
    · exact old before
    · simp only [PaymentEvent.mk.injEq] at same
      obtain ⟨rfl, name⟩ := same
      cases commits with
      | apply pid rowId now' =>
          obtain ⟨-, -, -, refunded⟩ := tied.linked.due rowId e tells.2
          obtain ⟨i, sent, own, -⟩ := refunded name.symm
          exact ⟨i, grown sent, own⟩
      | captured =>
          obtain ⟨-, rfl⟩ := tells
          cases name
      | declined =>
          obtain ⟨-, rfl⟩ := tells
          cases name
      | pollRefund pid found amountMinor now' payment chargeId refundId proc =>
          obtain ⟨-, rfl⟩ := tells
          obtain ⟨i, sent, own, -⟩ := tied.linked.polled proc keeps
          exact ⟨i, grown sent, own⟩
      | _ => exact tells.elim

/-- A stranded payment is captured, and outstanding. -/
theorem Kept.stranded {w : Provider} {api : Api} (kept : Kept w api) (asked : RefundedAsked api)
    {id : Uuid} {c : String} (stranded : Stranded api id c) :
    ∃ p, api.db.payments.get? id = some p ∧ p.status = .succeeded ∧ ¬ Stands api.db p := by
  obtain ⟨p, here, charge, owed⟩ := stranded.owed
  refine ⟨p, here, ?_, fun stands => ?_⟩
  · have unrefunded : ⟨c, .refundSucceeded⟩ ∉ api.db.paymentEvents := by
      intro among
      obtain ⟨i, sent, same⟩ := asked c among
      exact stranded.unasked i sent same
    rw [(kept.tied.linked.ledgered.rows id p here).status, charge]
    simp only [statusFrom, unrefunded, stranded.captured, if_false, if_true]
  · rcases owed with minted | ⟨status, -⟩
    · exact minted stands.1.2
    · rw [stands.2] at status
      simp at status

/-- **A stranded refund stays stranded, and on the report.**  Whatever the provider does, no
continuation of any run asks for it; and where the provider keeps its word all along, the
payment stays captured, and the report names it in every state in which it is past its
grace. -/
theorem stranded_stays_reported {env : Env} {now : Instant} {db : Db} (fresh : db.Fresh)
    (rates : Rates db) {api : Api} (reached : Reachable (step env) (Api.start now db) api) {id : Uuid}
    {c : String} (stranded : Stranded api id c) :
    (∀ acts api', run (step env) acts api = some api' →
      Stranded api' id c ∧ ∀ i ∈ api'.refundRequests, i.chargeId ≠ c) ∧
      ∀ w : Provider, ReachableAlong (step env) w.Keeps (Api.start now db) api →
        ∀ acts api', run (step env) acts api = some api' → Along (step env) w.Keeps acts api →
          ∃ p, api'.db.payments.get? id = some p ∧ p.status = .succeeded ∧
            ∀ q : ReconciliationQuery, q.covers p.createdAt = true → q.overdue p.updatedAt = true →
              q.Names api'.db p := by
  have holds : AskingSafe api :=
    reached.invariant (.start fresh rates now) fun _ _ _ => step_asking
  constructor
  · intro acts api' ran
    obtain ⟨-, stays⟩ := stranded.run holds ran
    exact ⟨stays, stays.unasked⟩
  · intro w reached' acts api' ran along
    have before : Kept w api ∧ RefundedAsked api := by
      refine reached'.invariant (I := fun api => Kept w api ∧ RefundedAsked api)
        ⟨.start fresh now, fun c among => ?_⟩ fun _ _ _ stepped keeps was =>
          ⟨step_kept stepped keeps was.1, step_refundedAsked stepped keeps was.1.tied was.2⟩
      simp [Api.start, fresh.2.2.2.1] at among
    have told : Kept w api' ∧ RefundedAsked api' :=
      run_keeps_along (I := fun api => Kept w api ∧ RefundedAsked api)
        (fun _ _ _ stepped keeps was =>
          ⟨step_kept stepped keeps was.1, step_refundedAsked stepped keeps was.1.tied was.2⟩)
        ran along before
    obtain ⟨-, stays⟩ := stranded.run holds ran
    obtain ⟨p, here, succeeded, fallen⟩ := told.1.stranded told.2 stays
    refine ⟨p, here, succeeded, fun q covered overdue => ?_⟩
    exact told.1.named here (captured_iff.mpr (.inl succeeded)) covered overdue
      (by rw [succeeded]; decide) fallen

namespace Sample

/-- The cancellation is settled; its refund is not asked for yet. -/
def refundUnsent : List Action := cancelledUnsettled ++ [.settleCancellation 3 8 0]

/-- The one refund of the run. -/
def lostRefund : RefundInstruction :=
  ⟨8, chargeKey (Uuid.text 7), 7, 6000, refundKey (chargeKey (Uuid.text 7)), "cancellation"⟩

end Sample

/-- The process of the refund crashes, and five seconds pass. -/
theorem stranded_stays_reported_crashed : ∃ api p,
    run (step .default) (Sample.refundUnsent ++ [.abandon 3, .tick 5000]) (Api.start 0 Sample.db) =
        some api ∧
      api.db.payments.get? 8 = some p ∧ api.refundRequests = [] ∧
      Sample.firstInstant.Names api.db p := by
  have carried : ((run (step .default) Sample.refundUnsent (Api.start 0 Sample.db)).bind fun api =>
      (api.procs.get? 3).bind Proc.unsent) = some Sample.lostRefund := by
    decide +kernel
  have ran : ((run (step .default) (Sample.refundUnsent ++ [.abandon 3, .tick 5000])
      (Api.start 0 Sample.db)).bind fun api => (api.db.payments.get? 8).map fun p =>
        (p.createdAt, p.updatedAt, api.refundRequests)) = some (0, 0, []) := by
    decide +kernel
  have along : Along (step .default) Sample.paygate.Keeps (Sample.refundUnsent ++ [.abandon 3])
      (Api.start 0 Sample.db) := by
    decide +kernel
  obtain ⟨api, ran₀, proc⟩ := Option.bind_eq_some_iff.mp carried
  obtain ⟨q, proc, carries⟩ := Option.bind_eq_some_iff.mp proc
  obtain rfl := Proc.of_unsent carries
  obtain ⟨api', ran', found⟩ := Option.bind_eq_some_iff.mp ran
  obtain ⟨p, here, seen⟩ := Option.map_eq_some_iff.mp found
  simp only [Prod.mk.injEq] at seen
  obtain ⟨created, updated, unasked⟩ := seen
  have holds : AskingSafe api := Reachable.invariant ⟨Sample.refundUnsent, ran₀⟩
    (.start Sample.db_fresh Sample.db_rates 0) fun _ _ _ => step_asking
  have crashed : run (step .default) (Sample.refundUnsent ++ [.abandon 3]) (Api.start 0 Sample.db) =
      some (api.become 3 none) := by
    rw [run_append, ran₀]
    rfl
  have onward : run (step .default) [.tick 5000] (api.become 3 none) = some api' := by
    rw [run_append, ran₀] at ran'
    exact ran'
  obtain ⟨-, reported⟩ := stranded_stays_reported Sample.db_fresh Sample.db_rates
    ⟨_, crashed⟩ (holds.crashed proc)
  obtain ⟨p', here', -, named⟩ :=
    reported Sample.paygate ⟨_, crashed, along⟩ _ _ onward ⟨rfl, fun _ _ => trivial⟩
  cases here.symm.trans here'
  refine ⟨api', p, ran', here, unasked, named Sample.firstInstant ?_ ?_⟩
  · rw [created]
    decide
  · rw [updated]
    decide

/-! ## The ways to be stranded -/

/-- A cancellation that a process settles stands, and no other process settles it. -/
structure Settling (api : Api) : Prop where
  stands : ∀ pid p b, api.procs.get? pid = some p → p.settling = some b →
    statusOf api.db b ∈ [BookingStatus.cancelled, .refunded]
  apart : ∀ pid p pid' p' b, api.procs.get? pid = some p → p.settling = some b →
    api.procs.get? pid' = some p' → p'.settling = some b → pid = pid'

theorem Settling.resume {api : Api} (settling : Settling api) {pid : Option Pid} {next : Option Proc}
    {db' : Db} (stays : ∀ b, statusOf api.db b ∈ [BookingStatus.cancelled, .refunded] →
      statusOf db' b ∈ [BookingStatus.cancelled, .refunded])
    (new : ∀ p b, next = some p → p.settling = some b →
      statusOf db' b ∈ [BookingStatus.cancelled, .refunded] ∧
        ∀ pid' q, api.procs.get? pid' = some q → q.settling ≠ some b) :
    Settling (({ api with db := db' } : Api).resume pid next) := by
  constructor
  · intro pid₁ p₁ b here settles
    rw [Api.resume_db]
    rw [Api.resume_procs] at here
    split_ifs at here with own
    · exact (new p₁ b here settles).1
    · exact stays b (settling.stands pid₁ p₁ b here settles)
  · intro pid₁ p₁ pid₂ p₂ b here₁ settles₁ here₂ settles₂
    rw [Api.resume_procs] at here₁ here₂
    split_ifs at here₁ with own₁ <;> split_ifs at here₂ with own₂
    · exact Option.some.inj (own₁.symm.trans own₂)
    · exact absurd settles₂ ((new p₁ b here₁ settles₁).2 pid₂ p₂ here₂)
    · exact absurd settles₁ ((new p₂ b here₂ settles₂).2 pid₁ p₁ here₁)
    · exact settling.apart pid₁ p₁ pid₂ p₂ b here₁ settles₁ here₂ settles₂

theorem step_settling {env : Env} {a : Action} {api api' : Api} (stepped : step env a api = some api')
    (holds : AskingSafe api) (settling : Settling api) : Settling api' := by
  cases step_cases stepped with
  | committed commit out db' enabled free ran =>
      have effect := Txn.run_effect ran
      have bound := (commit_cases enabled).pollBound holds.gated.polls
      refine settling.resume (fun b was => ?_) fun p b next settles => ⟨?_, fun pid' q there settles' => ?_⟩
      · simpa using holds.stays_cancelled stepped was
      · exact (effect.next_vouched bound next).cancelled b settles
      · have was := settling.stands pid' q b there settles'
        rcases effect.next_settling next settles with status | status <;>
          rw [status] at was <;> simp at was
  | aborted commit e enabled =>
      refine @Settling.resume api settling commit.pid commit.retry api.db (fun _ was => was)
        fun p b next settles => ?_
      cases commit_cases enabled with
      | refundAccepted =>
          cases next
          cases settles
      | _ => cases next
  | unshared _ moved =>
      have idle : ∀ (pid : Pid) (q : Option Proc), (∀ p, q = some p → p.settling = none) →
          Settling (api.become pid q) := by
        intro pid q unsettling
        refine @Settling.resume api settling (some pid) q api.db (fun _ was => was)
          fun p b next settles => ?_
        rw [unsettling p next] at settles
        cases settles
      cases moved with
      | ticked ms => exact ⟨settling.stands, settling.apart⟩
      | charged pid request paymentId =>
          have same := idle pid (some (.charged request paymentId)) (by rintro p ⟨⟩; rfl)
          exact ⟨same.stands, same.apart⟩
      | refundSent pid instruction here =>
          have same := idle pid (some (.refundSent instruction)) (by rintro p ⟨⟩; rfl)
          exact ⟨same.stands, same.apart⟩
      | _ => exact idle _ _ (by rintro p ⟨⟩ <;> rfl)

/-- **Three ways to strand a refund**: its process is lost before the request; the process
of a cancellation is lost before the key; or the cancellation is worth nothing. -/
theorem lost_refund_stranded {env : Env} {now : Instant} {db : Db} (fresh : db.Fresh)
    (rates : Rates db) {api : Api} (reached : Reachable (step env) (Api.start now db) api) :
    (∀ pid i api', api.procs.get? pid = some (.refunding i) →
        step env (.abandon pid) api = some api' → Stranded api' i.paymentId i.chargeId) ∧
      (∀ pid id p c api', api.procs.get? pid = some (.cancelled p.bookingId) →
        api.db.payments.get? id = some p → p.Banked → p.chargeId = some c →
          step env (.abandon pid) api = some api' → Stranded api' id c) ∧
      ∀ pid choice at_ id p p' api', api.db.payments.get? id = some p →
        p.refundIdempotencyKey = none →
        step env (.settleCancellation pid choice at_) api = some api' →
        api'.db.payments.get? id = some p' → p'.refundIdempotencyKey ≠ none →
          api'.procs.get? pid = none → ∃ c, Stranded api' id c := by
  obtain ⟨holds, settling⟩ : AskingSafe api ∧ Settling api := by
    refine reached.invariant (I := fun api => AskingSafe api ∧ Settling api)
      ⟨.start fresh rates now, ?_, ?_⟩ fun _ _ _ stepped was =>
        ⟨step_asking stepped was.1, step_settling stepped was.1 was.2⟩
    · intro pid p b here
      simp [Api.start] at here
    · intro pid p pid' p' b here
      simp [Api.start] at here
  refine ⟨?_, ?_, ?_⟩
  · intro pid i api' carried stepped
    cases stepped
    exact holds.crashed carried
  · intro pid id p c api' proc here banked charge stepped
    cases stepped
    have unowed : ∀ j, Owed api.db j → j.chargeId ≠ c := fun j owed =>
      holds.unminted here charge banked.2 owed
    obtain ⟨c', charge', applied⟩ := (holds.backed id p here).succeeded banked.1
    cases charge.symm.trans charge'
    refine ⟨⟨p, here, charge, .inr ⟨?_, ?_⟩⟩, applied, ?_, ?_⟩
    · exact settling.stands pid _ _ proc rfl
    · intro pid' q there settles
      rw [Api.become_procs] at there
      split_ifs at there with own
      exact own (settling.apart pid' q pid _ _ there settles proc rfl)
    · intro pid' q j there carries
      rw [Api.become_procs] at there
      split_ifs at there
      exact unowed j (holds.asking.carried pid' q j there carries)
    · exact fun j among => unowed j (holds.asking.asked j among)
  · intro pid choice at_ id p p' api' here unminted stepped here' minted idle
    exact holds.minted_idle stepped here unminted here' minted idle

/-- The process of the cancellation crashes before it mints the key. -/
theorem lost_refund_stranded_cancelled : ∃ api api' c,
    run (step .default) Sample.cancelledUnsettled (Api.start 0 Sample.db) = some api ∧
      step .default (.abandon 3) api = some api' ∧ Stranded api' 8 c := by
  have ran : ((run (step .default) Sample.cancelledUnsettled (Api.start 0 Sample.db)).bind fun api =>
      (api.db.payments.get? 8).map fun p => (p.bookingId, p.chargeId, decide p.Banked,
        (api.procs.get? 3).bind Proc.settling)) =
      some (7, some (chargeKey (Uuid.text 7)), true, some 7) := by
    decide +kernel
  obtain ⟨api, ran, found⟩ := Option.bind_eq_some_iff.mp ran
  obtain ⟨p, here, seen⟩ := Option.map_eq_some_iff.mp found
  simp only [Prod.mk.injEq, decide_eq_true_eq] at seen
  obtain ⟨booking, charge, banked, proc⟩ := seen
  obtain ⟨q, proc, settles⟩ := Option.bind_eq_some_iff.mp proc
  obtain rfl := Proc.of_settling settles
  refine ⟨api, api.become 3 none, chargeKey (Uuid.text 7), ran, rfl, ?_⟩
  exact (lost_refund_stranded Sample.db_fresh Sample.db_rates
    ⟨Sample.cancelledUnsettled, ran⟩).2.1 3 8 p _ _ (booking ▸ proc) here banked charge rfl

end Atrium
