/-
# TenantIsolation -- no tenant can tell what another does

Each request is filed: under a tenant that all it touches belongs to, or under none where it
only reads.  A venue's staff are filed under the venue, a customer's requests about a booking
under the venue of the booking or under the customer, whichever kind of tenant is watching.

`tenants_isolated` is about every interleaving of the routes' transactions, by anyone.  What
is filed under a tenant is answered the same, and leaves the tenant's rows the same, whatever
the tenants apart from it do and whatever else the database holds.
-/
import Atrium.OneVenue
import Atrium.Routes
import Atrium.TenantCatalogue

namespace Atrium.Routes

open Atrium.Base

set_option autoImplicit false

/-! ## Filing -/

/-- A request under way: whose it is filed under, its caller, and where it has come to. -/
structure Process where
  filed : Option Scope
  principal : AuthPrincipal
  stage : Stage

/-- The booking a request names. -/
def Request.bookingId? : Request → Option Uuid
  | .booking bookingId | .checkout bookingId _ | .cancel bookingId .. | .pay bookingId _ =>
      some bookingId.value
  | _ => none

/-- The reads that may go beyond one tenant. -/
def Request.looks : Request → Bool
  | .revenue _ | .bookings _ | .listEquipment | .equipmentType _ => true
  | _ => false

/-- What a request touches is the tenant's, but for the booking it names. -/
def Request.Fits (watcher S : Scope) (principal : AuthPrincipal) : Request → Prop
  | .booking _ | .checkout .. | .cancel .. | .pay .. => True
  | .bookings _ => principal.tenant = some S
  | .revenue _ => ∀ v, principal.venueId = some v → S = .venue v
  | .listEquipment | .equipmentType _ =>
      principal.role ≠ .platformAdmin ∧ CoversToken watcher S principal
  | _ => CoversToken watcher S principal

def Stage.Fits (watcher S : Scope) (principal : AuthPrincipal) : Stage → Prop
  | .asked r => r.Fits watcher S principal
  | .updatingRoom venueId .. => Covers watcher S venueId
  | _ => True

/-- The titles a stage rests on. -/
def Stage.titles (S : Scope) (principal : AuthPrincipal) : Stage → Titles
  | .asked r =>
      match r.bookingId? with
      | some bookingId =>
          if principal.tenant = some S then .none else Titles.none.name S bookingId
      | none => .none
  | .checkingOut bookingId .. | .paying bookingId .. | .payingRead bookingId .. =>
      Titles.none.book S bookingId.value
  | .settling bookingId .. => Titles.none.book S bookingId
  | .refunding owed _ | .refundFailed owed .. => Titles.none.pay S owed.instruction.paymentId
  | .charging _ payment _ | .rereading payment => Titles.none.pay S payment.1
  | .presenting _ | .updatingRoom .. | .checkedOut .. => .none

/-- The request is filed rightly, and what its stage rests on holds. -/
def Relies (watcher : Scope) (p : Process) (db : Db) : Prop :=
  match p.filed with
  | some S => p.stage.Fits watcher S p.principal ∧ Holding (p.stage.titles S p.principal) db
  | none => ∃ r, p.stage = .asked r ∧ r.looks = true

/-- Generated keys are new, and what the provider answers is no other payment's. -/
def Stage.Fresh : Stage → Db → Prop
  | .asked (.createRoom id _), db => db.rooms.get? id = none
  | .asked (.createEquipmentType id _), db => db.equipmentTypes.get? id = none
  | .asked (.replacePolicy id ..), db => db.cancellationPolicies.get? id = none
  | .payingRead _ _ _ given, db => db.payments.get? given.stamp.paymentId = none
  | .charging request payment given, db => ∀ chargeId, given.charge request = .ok chargeId →
      ∀ id p, db.payments.get? id = some p → p.chargeId = some chargeId → id = payment.1
  | .refunding owed given, db => ∀ refundId, given.refund owed.instruction = .ok refundId →
      ∀ id p, db.payments.get? id = some p → p.refundId = some refundId →
        id = owed.instruction.paymentId
  | _, _ => True

section Server

variable (env : Env) (localDay : String → Instant → Option String)
  (inOrder : List ListedBooking → List ListedBooking)

/-- The next transaction of a request keeps its filing and its caller. -/
def Process.piece (p : Process) : VenueTx (Answer ⊕ Process) := do
  let r ← p.stage.run env localDay inOrder p.principal
  pure (r.map id fun stage => { p with stage := stage })

/-- The routes, watched by one tenant; `holder` says whose requests run under a key. -/
def server (watcher : Scope) (holder : Pid → Option Scope) :
    Server (Option Scope) VenueError Db Pid Process Answer where
  sharing := tenants.watched watcher
  piece := Process.piece env localDay inOrder
  owner := Process.filed
  holder := holder

end Server

/-! ## Every stage, confined -/

section Confined

variable {env : Env} {localDay : String → Instant → Option String}
  {inOrder : List ListedBooking → List ListedBooking} {i S : Scope} {principal : AuthPrincipal}
  {D : Titles} {Q : Db → Prop}

theorem others_stand {C : Titles} {db : Db} (holding : Holding (C.and D) db) : Holding D db :=
  (Holding.and_iff.mp holding).2

theorem booked_title {id : Uuid} : (S, id) ∈ ((Titles.none.book S id).and D).bookings :=
  .inl (Set.mem_insert _ _)

theorem paid_title {id : Uuid} : (S, id) ∈ ((Titles.none.pay S id).and D).payments :=
  .inl (Set.mem_insert _ _)

/-- Titles of others stand, and the next stage has what it rests on. -/
def Went (watcher S : Scope) (principal : AuthPrincipal) (D : Titles) (r : Answer ⊕ Stage)
    (db : Db) : Prop :=
  Holding D db ∧ ∀ stage, r = .inr stage → stage.Fits watcher S principal ∧
    Holding (stage.titles S principal) db

theorem Went.answers {a : Answer} {db : Db} (holding : Holding D db) :
    Went i S principal D (.inl a) db :=
  ⟨holding, by rintro _ ⟨⟩⟩

theorem Went.goesOn {stage : Stage} {db : Db} (holding : Holding D db)
    (fits : stage.Fits i S principal) (titles : Holding (stage.titles S principal) db) :
    Went i S principal D (.inr stage) db :=
  ⟨holding, by rintro _ ⟨⟩; exact ⟨fits, titles⟩⟩

theorem confined_answering {ι : Type} {w : Sharing ι Db} {j : ι} {x : VenueTx Json}
    (confined : Confined w j Q (fun _ => Holding D) x) :
    Confined w j Q (Went i S principal D) (answering x) :=
  .bind confined fun _ => .ret fun _ holding => .answers holding

theorem lets_asked {r : Request} {bookingId : Uuid} (names : r.bookingId? = some bookingId) :
    (((Stage.asked r).titles S principal).and D).lets S principal bookingId := by
  by_cases tenant : principal.tenant = some S
  · exact .inl tenant
  · right
    simp [Stage.titles, names, tenant, Titles.name, Titles.and]

theorem confined_request {r : Request} (fits : r.Fits i S principal) :
    Confined (tenants.watched i) (some S)
      (fun db => Holding (((Stage.asked r).titles S principal).and D) db ∧ (Stage.asked r).Fresh db)
      (Went i S principal D) (r.run env localDay inOrder principal) := by
  cases r with
  | settings =>
      exact confined_answering ((confined_settings fits).weaken (fun _ h => others_stand h.1) fun _ _ h => h)
  | updateSettings input =>
      exact .bind ((confined_updateSettings fits).weaken (fun _ h => others_stand h.1) fun _ _ h => h)
        fun row => .ret fun db holding =>
          .goesOn holding trivial (Holding.none_iff.mpr holding.consistent)
  | listRooms =>
      exact confined_answering ((confined_listRooms fits).weaken (fun _ h => others_stand h.1) fun _ _ h => h)
  | createRoom id input =>
      exact confined_answering ((confined_createRoom fits).weaken (fun _ h => ⟨others_stand h.1, h.2⟩)
        fun _ _ h => h)
  | updateRoom roomId input =>
      refine .bind ((confined_findRoom fits).weaken (fun _ h => others_stand h.1) fun _ _ h => h)
        fun found => .ret fun db ⟨own, holding⟩ => ?_
      exact .goesOn holding (fits found.1 own) (Holding.none_iff.mpr holding.consistent)
  | createEquipmentType id input =>
      exact confined_answering ((confined_createEquipmentType fits).weaken
        (fun _ h => ⟨others_stand h.1, h.2⟩) fun _ _ h => h)
  | updateEquipmentType id input =>
      exact confined_answering ((confined_updateEquipmentType fits).weaken (fun _ h => others_stand h.1)
        fun _ _ h => h)
  | listEquipment =>
      exact confined_answering ((confined_listEquipment fits.1 fits.2).weaken (fun _ h => others_stand h.1)
        fun _ _ h => h)
  | equipmentType id =>
      exact confined_answering ((confined_findEquipment fits.1 fits.2).weaken (fun _ h => others_stand h.1)
        fun _ _ h => h)
  | policy =>
      exact confined_answering ((confined_current fits).weaken (fun _ h => others_stand h.1) fun _ _ h => h)
  | replacePolicy id tiers now =>
      exact confined_answering ((confined_replacePolicy fits).weaken (fun _ h => ⟨others_stand h.1, h.2⟩)
        fun _ _ h => h)
  | revenue query =>
      have alike : ∀ v, principal.venueId = some v → ReadsAlike tenants S v query (Holding D) := by
        rintro v own
        obtain rfl := fits v own
        exact readsAlike
      exact .bind ((((confined_revenue alike).mapError _).watched i).weaken
        (fun _ h => others_stand h.1) fun _ _ h => h) fun _ => .ret fun _ holding => .answers holding
  | bookings query =>
      exact .bind ((((confined_list (t := ⟨principal, S, fits⟩)).mapError _).watched i).weaken
        (fun _ h => others_stand h.1) fun _ _ h => h) fun _ => .ret fun _ holding => .answers holding
  | booking bookingId =>
      exact confined_answering ((((confined_findOne (lets_asked rfl)).mapError _).watched i).weaken
        (fun _ h => h.1) fun _ _ h => others_stand h)
  | checkout bookingId now =>
      refine .bind ((((confined_loadOwnedBooking (lets_asked rfl)).mapError _).watched i).weaken
        (fun _ h => h.1) fun _ _ h => h.1) fun booking => .ret fun db holding => ?_
      exact .goesOn (others_stand holding.of_book) trivial holding.only_book
  | cancel bookingId reason given =>
      refine .bind ((((confined_cancel (lets_asked rfl)).mapError _).watched i).weaken
        (fun _ h => h.1) fun _ _ h => h) fun booking => .ret fun db holding => ?_
      exact .goesOn (others_stand holding.of_book) trivial holding.only_book
  | pay bookingId given =>
      refine .bind ((((confined_loadOwned (lets_asked rfl)).mapError _).watched i).weaken
        (fun _ h => h.1) fun _ _ h => h) fun booking => .ret fun db holding => ?_
      exact .goesOn (others_stand holding.of_book) trivial holding.only_book

/-! ## The money of a cancellation -/

theorem confined_settle {bookingId : Uuid} {status : BookingStatus} {given : Settling} :
    Confined (tenants.watched i) (some S) (Holding ((Titles.none.book S bookingId).and D))
      (Went i S principal D) (settle bookingId status given) := by
  refine .bind (((confined_settleCancellation booked_title).mapError _).watched i) fun settled => ?_
  rcases settled with - | ⟨instruction, breakdown⟩
  · exact .ret fun _ settled => .answers (others_stand settled.1)
  refine .ite (fun _ => .ret fun _ settled => .answers (others_stand settled.1))
    fun _ => .ret fun db settled => .goesOn (others_stand settled.1) trivial ?_
  exact settled.1.only_pay (settled.2 _ rfl)

theorem confined_refund {owed : Owed} {given : Settling} :
    Confined (tenants.watched i) (some S)
      (fun db => Holding ((Titles.none.pay S owed.instruction.paymentId).and D) db ∧
        (Stage.refunding owed given).Fresh db)
      (Went i S principal D) (refund owed given) := by
  -- What is thrown leaves the payment the tenant's.
  have failed : ∀ {message : String} {db},
      Holding ((Titles.none.pay S owed.instruction.paymentId).and D) db →
        Went i S principal D (.inr (.refundFailed owed message given)) db :=
    fun holding => .goesOn (others_stand holding) trivial (holding.only_pay (holding.paid _ paid_title))
  unfold refund
  cases answer : given.refund owed.instruction with
  | error message => exact .ret fun db before => failed before.1
  | ok refundId =>
      refine .bind (((confined_refundAccepted paid_title).watched i).weaken
          (fun db before => ⟨before.1, before.2 refundId answer⟩) (fun _ _ h => h) |>.attempt
        (R := fun _ => Holding ((Titles.none.pay S owed.instruction.paymentId).and D))
        (fun _ _ h => h) fun _ _ before => before.1) fun bound => ?_
      cases bound with
      | ok u => exact .ret fun _ holding => .answers (others_stand holding)
      | error e => exact .ret fun _ holding => failed holding

theorem confined_refundFailed {owed : Owed} {message : String} {given : Settling} :
    Confined (tenants.watched i) (some S)
      (Holding ((Titles.none.pay S owed.instruction.paymentId).and D)) (Went i S principal D)
      ((Stage.refundFailed owed message given).run env localDay inOrder principal) :=
  .bind (((confined_refundRejected paid_title).watched i).attempt
    (R := fun _ => Holding ((Titles.none.pay S owed.instruction.paymentId).and D))
    (fun _ _ h => h) fun _ _ h => h) fun _ => .ret fun _ holding => .answers (others_stand holding)

/-! ## The charge -/

theorem confined_payRead {bookingId : UuidText} {booking : Booking} {given : Paying} :
    Confined (tenants.watched i) (some S) (Holding ((Titles.none.book S bookingId.value).and D))
      (Went i S principal D)
      ((Stage.paying bookingId booking given).run env localDay inOrder principal) := by
  refine .bind (.peek fun db holding =>
    paymentByKey_within holding.consistent (holding.booked _ booked_title)) fun existing => .ret fun db holding => ?_
  exact .goesOn (others_stand holding) trivial (Holding.and_iff.mp holding).1

theorem confined_payCommit {bookingId : UuidText} {booking : Booking}
    {existing : Option (Uuid × Payment)} {given : Paying} :
    Confined (tenants.watched i) (some S)
      (fun db => Holding ((Titles.none.book S bookingId.value).and D) db ∧
        (Stage.payingRead bookingId booking existing given).Fresh db)
      (Went i S principal D)
      ((Stage.payingRead bookingId booking existing given).run env localDay inOrder principal) := by
  refine .bind (((confined_payLoaded booked_title).mapError _).watched i)
    fun prepared => ?_
  cases prepared with
  | settled payment => exact .ret fun _ done => .answers (others_stand done.1)
  | charge booking payment =>
      refine .ret fun _ done => .goesOn (others_stand done.1) trivial ?_
      exact done.1.only_pay (done.2 booking payment rfl)

theorem confined_bindAccepted {request : ChargeRequest} {payment : Uuid × Payment}
    {given : Paying} :
    Confined (tenants.watched i) (some S)
      (fun db => Holding ((Titles.none.pay S payment.1).and D) db ∧
        (Stage.charging request payment given).Fresh db)
      (Went i S principal D) (bindAccepted request payment given) := by
  unfold bindAccepted
  cases answer : given.charge request with
  | error e => exact .abort _
  | ok chargeId =>
      refine .bind (.peek fun db before => getPayment_within (before.1.paid _ paid_title)) fun row =>
        .bind ((((confined_bindCharge paid_title).mapError _).watched i).weaken
          (fun db before => ⟨before.1, before.2 chargeId answer⟩) fun _ _ h => h) fun _ => ?_
      cases row.filter fun p => decide (p.chargeId = none) with
      | some unbound => exact .ret fun _ holding => .answers (others_stand holding)
      | none =>
          refine .ret fun _ holding => .goesOn (others_stand holding) trivial ?_
          exact holding.only_pay (holding.paid _ paid_title)

theorem confined_reread {payment : Uuid × Payment} :
    Confined (tenants.watched i) (some S) (Holding ((Titles.none.pay S payment.1).and D))
      (Went i S principal D)
      ((Stage.rereading payment).run env localDay inOrder principal) :=
  .bind (.peek fun _ holding => getPayment_within (holding.paid _ paid_title))
    fun _ => .ret fun _ holding => .answers (others_stand holding)

/-! ## One stage -/

theorem confined_presentHold {ι : Type} {w : Sharing ι Db} {j : ι} {bookingId : UuidText}
    {booking : Booking} : Confined w j Q (fun _ => Q) (presentHold bookingId booking) :=
  .bind confined_isoTextOrNull fun _ => .ret fun _ holds => holds

/-- **Every stage is confined to the tenant it is filed under**, and leaves the titles of
others standing. -/
theorem confined_stage {stage : Stage} (fits : stage.Fits i S principal) :
    Confined (tenants.watched i) (some S)
      (fun db => Holding ((stage.titles S principal).and D) db ∧ stage.Fresh db)
      (Went i S principal D) (stage.run env localDay inOrder principal) := by
  cases stage with
  | asked r => exact .ite (fun _ => confined_request fits) fun _ => .abort _
  | presenting row =>
      exact confined_answering (confined_present.weaken (fun _ h => others_stand h.1) fun _ _ h => h)
  | updatingRoom venueId roomId input existing =>
      exact confined_answering ((confined_updateRoomLoaded fits).weaken
        (fun _ h => others_stand h.1) fun _ _ h => h)
  | checkingOut bookingId booking now =>
      refine .bind ((((confined_checkoutLoaded booked_title).mapError _).watched i).weaken
        (fun _ h => h.1) fun _ _ h => h) fun _ => .ret fun _ holding => ?_
      exact .goesOn (others_stand holding) trivial (Holding.none_iff.mpr holding.consistent)
  | checkedOut bookingId booking =>
      exact confined_answering ((confined_presentHold.mapError _).weaken
        (fun _ h => others_stand h.1) fun _ _ h => h)
  | settling bookingId status given => exact confined_settle.weaken (fun _ h => h.1) fun _ _ h => h
  | refunding owed given => exact confined_refund
  | refundFailed owed message given =>
      exact confined_refundFailed.weaken (fun _ h => h.1) fun _ _ h => h
  | paying bookingId booking given => exact confined_payRead.weaken (fun _ h => h.1) fun _ _ h => h
  | payingRead bookingId booking existing given => exact confined_payCommit
  | charging request payment given => exact confined_bindAccepted
  | rereading payment => exact confined_reread.weaken (fun _ h => h.1) fun _ _ h => h

/-! ## What only reads -/

theorem confined_equipmentScope {ι : Type} {w : Sharing ι Db} {j : ι} :
    Confined w j Q (fun _ => Q) (Equipment.scope principal) := by
  obtain ⟨userId, role, venueId⟩ := principal
  cases role <;> cases venueId <;> first | exact .ret fun _ holds => holds | exact .abort _

/-- **A read that goes beyond one tenant changes nothing**, and is answered at once. -/
theorem confined_looks {r : Request} (looks : r.looks = true) :
    Confined (tenants.watched i) none Q (fun r db => Q db ∧ ∀ stage, r ≠ .inr stage)
      ((Stage.asked r).run env localDay inOrder principal) := by
  have answers : ∀ {α : Type} {f : α → Answer} {x : VenueTx α},
      Confined (tenants.watched i) none Q (fun _ => Q) x →
        Confined (tenants.watched i) none Q (fun r db => Q db ∧ ∀ stage, r ≠ .inr stage)
          (x >>= fun a => pure (Sum.inl (f a) : Answer ⊕ Stage)) :=
    fun confined => .bind confined fun _ => .ret fun _ holds => ⟨holds, by rintro _ ⟨⟩⟩
  refine .ite (fun _ => ?_) fun _ => .abort _
  cases r with
  | revenue query =>
      exact answers ((confined_revenue fun v _ =>
        ⟨fun _ _ => rfl, fun _ _ => rfl, fun _ _ => rfl, fun _ _ => rfl⟩).mapError _)
  | bookings query => exact answers ((confined_page fun _ _ _ _ => ⟨rfl, rfl⟩).mapError _)
  | listEquipment =>
      exact answers (.bind confined_equipmentScope fun _ =>
        .bind (.peek fun _ _ => rfl) fun _ => .ret fun _ holds => holds)
  | equipmentType id =>
      exact answers (.bind confined_equipmentScope fun _ =>
        .bind (.fetch (Q := fun _ => Q) (fun _ _ => rfl) fun _ _ holds _ => holds) fun _ =>
          .ret fun _ holds => holds)
  | _ => cases looks

/-! ## The server -/

theorem confined_piece {p : Process} (filed : p.filed = some S) :
    Confined (tenants.watched i) (some S)
      (fun db => Relies i p db ∧ p.stage.Fresh db ∧ Holding D db)
      (fun r db => Holding D db ∧ ∀ q, r = .inr q → q.filed = p.filed ∧ Relies i q db)
      (p.piece env localDay inOrder) := by
  have stage : p.stage.Fits i S p.principal →
      Confined (tenants.watched i) (some S)
        (fun db => Holding ((p.stage.titles S p.principal).and D) db ∧ p.stage.Fresh db)
        (fun r db => Holding D db ∧ ∀ q, r = .inr q → q.filed = p.filed ∧ Relies i q db)
        (p.piece env localDay inOrder) := by
    refine fun fits => .bind (confined_stage fits) fun r => .ret fun db went => ⟨went.1, ?_⟩
    rintro q goes
    rcases r with answer | stage
    · cases goes
    · cases goes
      refine ⟨rfl, ?_⟩
      simp only [Relies, filed]
      exact went.2 stage rfl
  refine (Confined.given stage).weaken (fun db before => ?_) fun _ _ h => h
  simp only [Relies, filed] at before
  exact ⟨before.1.1, Holding.and_iff.mpr ⟨before.1.2, before.2.2⟩, before.2.1⟩

theorem confined_piece_looks {p : Process} (filed : p.filed = none) :
    Confined (tenants.watched i) none (fun db => Relies i p db ∧ Q db)
      (fun r db => Q db ∧ ∀ q, r ≠ .inr q) (p.piece env localDay inOrder) := by
  have read : (∃ r, p.stage = .asked r ∧ r.looks = true) →
      Confined (tenants.watched i) none Q (fun r db => Q db ∧ ∀ q, r ≠ .inr q)
        (p.piece env localDay inOrder) := by
    rintro ⟨r, asked, looks⟩
    rw [Process.piece, asked]
    refine .bind (confined_looks looks) fun r => .ret fun db looked => ⟨looked.1, ?_⟩
    rcases r with answer | stage
    · rintro _ ⟨⟩
    · exact absurd rfl (looked.2 stage)
  refine (Confined.given read).weaken (fun db before => ?_) fun _ _ h => h
  simp only [Relies, filed] at before
  exact before

end Confined

/-- **What a process relies on stays**, and each of its transactions is confined to the tenant it
is filed under. -/
theorem confining (env : Env) (localDay : String → Instant → Option String)
    (inOrder : List ListedBooking → List ListedBooking) (watcher : Scope)
    (holder : Pid → Option Scope) :
    (server env localDay inOrder watcher holder).Confining Consistent (Relies watcher)
      fun p => p.stage.Fresh where
  confined p := by
    show Confined (tenants.watched watcher) p.filed _ _ _
    cases filed : p.filed with
    | some S =>
        refine (confined_piece (D := .none) filed).weaken
          (fun db before => ⟨before.2.1, before.2.2, Holding.none_iff.mpr before.1⟩)
          fun r db done => ⟨done.1.consistent, fun q goes => ?_⟩
        obtain ⟨same, relied⟩ := done.2 q goes
        exact ⟨same, relied⟩
    | none =>
        exact (confined_piece_looks (Q := Consistent) filed).weaken
          (fun db before => ⟨before.2.1, before.1⟩)
          fun r db done => ⟨done.1, fun q goes => absurd goes (done.2 q)⟩
  stable p q db r db' consistent relied fresh ran others := by
    cases filed : p.filed with
    | none =>
        exact ((confined_piece_looks (Q := Relies watcher q) filed).kept db r db'
          ⟨relied, others⟩ ran).1.1
    | some S =>
        cases theirs : q.filed with
        | none =>
            simp only [Relies, theirs] at others ⊢
            exact others
        | some T =>
            simp only [Relies, theirs] at others ⊢
            exact ⟨others.1, ((confined_piece (D := q.stage.titles T q.principal) filed).kept db r db'
              ⟨relied, fresh, others.2⟩ ran).1.1⟩

/-! ## Every request may be filed -/

/-- Filed under the watched tenant, or where it has no part in what the tenant sees. -/
def MayRun (watcher : Scope) (filed : Option Scope) : Prop :=
  filed = some watcher ∨ (tenants.watched watcher).apart filed (some watcher)

theorem mayRun_none (watcher : Scope) : MayRun watcher none := .inr trivial

theorem mayRun_venue (w v : Uuid) : MayRun (.venue w) (some (.venue v)) := by
  by_cases same : v = w
  · exact .inl (same ▸ rfl)
  · exact .inr ⟨rfl, same⟩

theorem mayRun_user (u u' : Uuid) : MayRun (.user u) (some (.user u')) := by
  by_cases same : u' = u
  · exact .inl (same ▸ rfl)
  · exact .inr ⟨rfl, same⟩

/-- A scope of the watcher's kind that the token's venue is filed under. -/
theorem token_filed (watcher : Scope) (principal : AuthPrincipal) :
    ∃ S, MayRun watcher (some S) ∧ CoversToken watcher S principal := by
  cases watcher with
  | user u => exact ⟨.user u, .inl rfl, fun v _ => covers_user u v⟩
  | venue w =>
      cases token : principal.venueId with
      | none => exact ⟨.venue w, .inl rfl, by simp [CoversToken, token]⟩
      | some v =>
          refine ⟨.venue v, mayRun_venue w v, fun v' named => ?_⟩
          cases token.symm.trans named
          exact covers_venue (.venue w) v

/-- A booking is filed under its venue or its customer. -/
theorem booking_filed (watcher : Scope) (db : Db) (id : Uuid) :
    ∃ S, MayRun watcher (some S) ∧ (db.bookings.get? id).all S.owns = true := by
  cases db.bookings.get? id with
  | none => exact ⟨watcher, .inl rfl, rfl⟩
  | some b =>
      cases watcher with
      | venue w => exact ⟨.venue b.venueId, mayRun_venue w _, decide_eq_true rfl⟩
      | user u => exact ⟨.user b.userId, mayRun_user u _, decide_eq_true rfl⟩

/-- **Whoever watches, every request by anyone has a filing it may run under.** -/
theorem filing (watcher : Scope) (principal : AuthPrincipal) (r : Request) {db : Db}
    (consistent : Consistent db) :
    ∃ filed, MayRun watcher filed ∧ Relies watcher ⟨filed, principal, .asked r⟩ db := by
  have none_named : r.bookingId? = none → ∀ S, r.Fits watcher S principal →
      Relies watcher ⟨some S, principal, .asked r⟩ db := fun unnamed S fits =>
    ⟨fits, by simpa only [Stage.titles, unnamed] using Holding.none_iff.mpr consistent⟩
  have named : ∀ id, r.bookingId? = some id → (∀ S, r.Fits watcher S principal) →
      ∃ filed, MayRun watcher filed ∧ Relies watcher ⟨filed, principal, .asked r⟩ db := by
    intro id names fits
    obtain ⟨S, may, own⟩ := booking_filed watcher db id
    refine ⟨some S, may, fits S, ?_⟩
    simp only [Stage.titles, names]
    split_ifs
    · exact Holding.none_iff.mpr consistent
    · exact ⟨consistent, by simpa [Titles.name, Titles.none] using own, by simp [Titles.name, Titles.none],
        by simp [Titles.name, Titles.none]⟩
  obtain ⟨S, may, covers⟩ := token_filed watcher principal
  cases r with
  | booking bookingId => exact named _ rfl fun _ => trivial
  | checkout bookingId now => exact named _ rfl fun _ => trivial
  | cancel bookingId reason given => exact named _ rfl fun _ => trivial
  | pay bookingId given => exact named _ rfl fun _ => trivial
  | revenue query => exact ⟨none, mayRun_none watcher, _, rfl, rfl⟩
  | bookings query => exact ⟨none, mayRun_none watcher, _, rfl, rfl⟩
  | listEquipment => exact ⟨none, mayRun_none watcher, _, rfl, rfl⟩
  | equipmentType id => exact ⟨none, mayRun_none watcher, _, rfl, rfl⟩
  | _ => exact ⟨some S, may, none_named rfl S covers⟩

/-! ## Runs -/

/-- Nothing has been asked yet. -/
def idle (db : Db) : Shared Db Pid Process := ⟨db, fun _ => none⟩

section Runs

variable (env : Env) (localDay : String → Instant → Option String)
  (inOrder : List ListedBooking → List ListedBooking) (watcher : Scope)
  (holder : Pid → Option Scope)

/-- Every request of the run is filed rightly, under the watcher or apart from it. -/
def RunsFiled : List (Turn Pid Process) → Shared Db Pid Process → Prop :=
  Along (calls (server env localDay inOrder watcher holder).turn)
    ((server env localDay inOrder watcher holder).Among (some watcher) (Relies watcher)
      fun p => p.stage.Fresh)

/-- What is answered to the requests filed under the watcher. -/
def toldTo (as : List (Turn Pid Process)) (db : Db) : List (Option (Except VenueError Answer)) :=
  told (server env localDay inOrder watcher holder).turn
    ((server env localDay inOrder watcher holder).own (some watcher)) as (idle db)

/-- The database after a run. -/
def ranOn (as : List (Turn Pid Process)) (db : Db) : Db :=
  (after (server env localDay inOrder watcher holder).turn as (idle db)).store

end Runs

/-- **No tenant can tell.**  Two databases in which a tenant sees the same, and two runs in which
the same is asked under it: it is answered the same, and sees the same at the end. -/
theorem tenants_isolated {env : Env} {localDay : String → Instant → Option String}
    {inOrder : List ListedBooking → List ListedBooking} {watcher : Scope}
    {holder : Pid → Option Scope} {db db' : Db} {as bs : List (Turn Pid Process)}
    (consistent : Consistent db) (consistent' : Consistent db')
    (agree : db.within watcher = db'.within watcher)
    (filed : RunsFiled env localDay inOrder watcher holder as (idle db))
    (filed' : RunsFiled env localDay inOrder watcher holder bs (idle db'))
    (same : as.filter (fun t => decide (holder t.key = some watcher)) =
      bs.filter fun t => decide (holder t.key = some watcher)) :
    toldTo env localDay inOrder watcher holder as db =
        toldTo env localDay inOrder watcher holder bs db' ∧
      (ranOn env localDay inOrder watcher holder as db).within watcher =
        (ranOn env localDay inOrder watcher holder bs db').within watcher := by
  have standing : ∀ {db : Db}, Consistent db →
      (server env localDay inOrder watcher holder).Standing Consistent (Relies watcher) (idle db) :=
    fun consistent => ⟨consistent, by rintro key p ⟨⟩⟩
  have part : ∀ db : Db, (server env localDay inOrder watcher holder).part (some watcher) (idle db) =
      idle (db.within watcher) := fun db =>
    Shared.ext rfl (funext fun key => by simp [Server.part, idle])
  have alike := (confining env localDay inOrder watcher holder).told_alike (standing consistent)
    (standing consistent') filed filed' (by rw [part, part, agree]) same
  exact ⟨alike.1, congrArg Shared.store alike.2⟩

/-! ## Two venues -/

namespace TwoVenues

/-- The sample venue, and another with a room of its own. -/
def twoVenues : Db :=
  { Sample.db with
    venues := ⟨[(1, Sample.venue), (2, Sample.venue)], by decide⟩
    rooms := ⟨[(Sample.room, Sample.roomRow),
      (Sample.otherRoom, Sample.roomRow),
      (9, { Sample.roomRow with venueId := 2 })], by decide⟩ }

def admin (venueId : Uuid) : AuthPrincipal := ⟨7, .venueAdmin, some venueId⟩

/-- What runs under key 0 is venue 1's, and the rest venue 2's. -/
def holder (key : Pid) : Option Scope := if key = 0 then some (.venue 1) else some (.venue 2)

/-- Venue 1 lists its rooms. -/
def listing : List (Turn Pid Process) :=
  [.arrive 0 ⟨some (.venue 1), admin 1, .asked .listRooms⟩, .go 0]

/-- Venue 2 creates one. -/
def creating : List (Turn Pid Process) :=
  [.arrive 1 ⟨some (.venue 2), admin 2, .asked (.createRoom 10
    ⟨"Cellar", 8, 3000, [], 60, 240, none, by decide⟩)⟩, .go 1]

theorem covers_admin (v : Uuid) : CoversToken (.venue 1) (.venue v) (admin v) := by
  rintro _ ⟨⟩
  exact covers_venue _ _

theorem listing_filed {db : Db} {procs : Pid → Option Process} (consistent : Consistent db)
    (free : procs 0 = none) :
    RunsFiled .default (fun _ _ => none) id (.venue 1) holder listing ⟨db, procs⟩ := by
  refine ⟨⟨.inl rfl, rfl, covers_admin 1, Holding.none_iff.mpr consistent⟩, ?_⟩
  rintro _ ⟨⟩
  refine ⟨⟨.inl rfl, ?_⟩, by rintro _ ⟨⟩; trivial⟩
  rw [Server.turn_arrives free]
  rintro p ⟨⟩
  trivial

theorem creating_filed : RunsFiled .default (fun _ _ => none) id (.venue 1) holder
    (creating ++ listing) (idle twoVenues) := by
  have apart : (2 : Uuid) ≠ 1 := by decide
  have consistent : Consistent twoVenues := Consistent.of_fresh ⟨rfl, rfl, rfl, rfl, rfl, rfl⟩
  refine ⟨⟨.inr ⟨rfl, apart⟩, rfl, covers_admin 2, Holding.none_iff.mpr consistent⟩, ?_⟩
  rintro _ ⟨⟩
  refine ⟨⟨.inr ⟨rfl, apart⟩, ?_⟩, ?_⟩
  · rintro p ⟨⟩
    show twoVenues.rooms.get? 10 = none
    decide
  rintro _ ⟨⟩
  exact listing_filed (Consistent.of_fresh ⟨rfl, rfl, rfl, rfl, rfl, rfl⟩) rfl

end TwoVenues

open TwoVenues in
/-- A room of another venue's shows neither in the list nor in the rows. -/
theorem tenants_isolated_rooms :
    toldTo .default (fun _ _ => none) id (.venue 1) holder (creating ++ listing) twoVenues =
        toldTo .default (fun _ _ => none) id (.venue 1) holder listing Sample.db ∧
      (ranOn .default (fun _ _ => none) id (.venue 1) holder (creating ++ listing) twoVenues).within
          (.venue 1) =
        (ranOn .default (fun _ _ => none) id (.venue 1) holder listing Sample.db).within
          (.venue 1) :=
  tenants_isolated (Consistent.of_fresh ⟨rfl, rfl, rfl, rfl, rfl, rfl⟩)
    (Consistent.of_fresh Sample.db_fresh) rfl creating_filed
    (listing_filed (Consistent.of_fresh Sample.db_fresh) rfl) rfl

end Atrium.Routes

namespace Atrium

open Atrium.Base

/-! ## Consistency is reached -/

/-- **Every database that the bookings and the money lead to is consistent**, where the provider
keeps its word. -/
theorem consistent_of_reached {w : Provider} {env : Env} {now : Instant} {db : Db}
    (fresh : db.Fresh) {api : Api}
    (reached : ReachableAlong (step env) w.Keeps (Api.start now db) api) : Consistent api.db := by
  have held : Kept w api ∧ Backed api.db ∧ Referenced api.db := by
    refine reached.invariant (I := fun api => Kept w api ∧ Backed api.db ∧ Referenced api.db)
      ⟨.start fresh now, ?_, ?_⟩ fun a api api' stepped keeps ⟨kept, backed, referenced⟩ =>
        ⟨step_kept stepped keeps kept, ?_⟩
    · intro id p here
      simp [Api.start, fresh.2.2.1] at here
    · intro id p here
      simp [Api.start, fresh.2.2.1] at here
    · cases step_cases stepped with
      | committed c out db' enabled free ran =>
          have effect := Txn.run_effect ran
          have bound := (commit_cases enabled).pollBound kept.tied.gated.polls
          rw [Api.resume_db]
          exact ⟨effect.backed bound backed, effect.referenced bound referenced⟩
      | aborted c e enabled ran =>
          rw [Api.resume_db]
          exact ⟨backed, referenced⟩
      | unshared _ moved =>
          rw [moved.db]
          exact ⟨backed, referenced⟩
  obtain ⟨kept, backed, referenced⟩ := held
  have located := located_of_reachable fresh reached.reachable
  have named := kept.keyNamed backed
  refine ⟨located.rooms, fun item among => ?_, referenced, ?_, ?_, fun id p k here minted => ?_⟩
  · obtain ⟨b, type, booked, stored, own⟩ := located.items item among
    refine ⟨type, stored, fun b' here => ?_⟩
    cases booked.symm.trans here
    exact own
  · intro id p id' p' c here there bound bound'
    refine named.keys id p id' p' p.idempotencyKey here there rfl (congrArg some ?_)
    refine w.chargeId_injective ?_
    rw [← (named.rows id p here).charge c bound, ← (named.rows id' p' there).charge c bound']
  · intro id p id' p' r here there bound bound'
    refine named.keys id p id' p' p.idempotencyKey here there rfl (congrArg some ?_)
    refine w.chargeId_injective (refundKey_injective (w.refundId_injective ?_))
    rw [← (named.rows id p here).refund r bound, ← (named.rows id' p' there).refund r bound']
  · obtain ⟨c, charge, -, own⟩ := (backed id p here).minted k minted
    exact ⟨c, charge, own⟩

end Atrium
