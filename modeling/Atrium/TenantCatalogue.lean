/-
# TenantCatalogue -- a venue's configuration, confined

The venue-admin, equipment and policy routes, under the venue on the caller's token.  A row
is found and updated under that venue, and a new one is born there.  A tenant that sees the
venue may have the request to itself; a tenant apart from it must not see the venue.
-/
import Atrium.TenantReads

namespace Atrium

open Atrium.Base

set_option autoImplicit false

variable {C : Titles} {S T : Scope} {db : Db} {v id : Uuid}

/-! ## Titles and the catalogue -/

/-- A claim is not to the catalogue. -/
theorem Holding.withRooms (holding : Holding C db) {rooms : Table Uuid Room}
    (kept : ∀ id r, db.rooms.get? id = some r →
      ∃ r', rooms.get? id = some r' ∧ r'.venueId = r.venueId) :
    Holding C { db with rooms := rooms } :=
  holding.of_eq (holding.consistent.withRooms kept) rfl rfl

theorem Holding.withTypes (holding : Holding C db) {types : Table Uuid EquipmentType}
    (kept : ∀ id t, db.equipmentTypes.get? id = some t →
      ∃ t', types.get? id = some t' ∧ t'.venueId = t.venueId) :
    Holding C { db with equipmentTypes := types } :=
  holding.of_eq (holding.consistent.withTypes kept) rfl rfl

/-- What is done to a venue's catalogue is the scope's: it sees the venue, and a watcher apart
from it does not. -/
structure Covers (watcher S : Scope) (venueId : Uuid) : Prop where
  seen : S.sees venueId = true
  unseen : S.apart watcher → watcher.sees venueId = false

/-- A venue's catalogue is the venue's. -/
theorem covers_venue (watcher : Scope) (venueId : Uuid) : Covers watcher (.venue venueId) venueId where
  seen := decide_eq_true rfl
  unseen apart := by
    cases watcher with
    | venue w => exact decide_eq_false apart
    | user u => exact apart.elim

/-- A customer watches all of them. -/
theorem covers_user (userId venueId : Uuid) : Covers (.user userId) (.user userId) venueId where
  seen := rfl
  unseen apart := (apart rfl).elim

section Tables

variable {κ ρ : Type} [DecidableEq κ] {p : κ → ρ → Bool} {t u : Table κ ρ} {k : κ} {f : ρ → ρ}

/-- An update of a row that is there, and not kept. -/
theorem keep_modify_found {r : ρ} (here : t.get? k = some r) (unmet : p k r = false)
    (same : ∀ r, p k (f r) = p k r) : (t.modify k f).keep p = t.keep p := by
  rw [Table.keep_modify _ _ same, Table.modify_absent]
  rw [Table.get?_keep, here]
  simp [Option.filter, unmet]

theorem modify_venue {venueOf : ρ → Uuid} (same : ∀ r, venueOf (f r) = venueOf r) (k' : κ) (r : ρ)
    (here : t.get? k' = some r) : ∃ r', (t.modify k f).get? k' = some r' ∧ venueOf r' = venueOf r := by
  rw [Table.get?_modify, here]
  refine ⟨_, rfl, ?_⟩
  split_ifs
  · exact same r
  · rfl

theorem insert_venue {venueOf : ρ → Uuid} {r : ρ} (inserted : t.insert? k r = some u) (k' : κ)
    (r' : ρ) (here : t.get? k' = some r') :
    ∃ r'', u.get? k' = some r'' ∧ venueOf r'' = venueOf r' := by
  refine ⟨r', ?_, rfl⟩
  rw [Table.get?_insert? inserted, if_neg]
  · exact here
  · rintro rfl
    rw [(Table.insert?_some inserted).1] at here
    cases here

end Tables

/-! ## The venue of a request -/

section Venue

variable {i : Scope} {principal : AuthPrincipal}

/-- The venue is taken from the token, and the rest goes on under it. -/
theorem confined_venue {ι α : Type} {w : Sharing ι Db} {j : ι} {missing : VenueError}
    {k : Uuid → VenueTx α} {Q : Db → Prop} {R : α → Db → Prop}
    (rest : ∀ v, principal.venueId = some v → Confined w j Q R (k v)) :
    Confined w j Q R (Tx.fetch (fun _ => principal.venueId) missing >>= k) :=
  .bind (.fetch (Q := fun v db => principal.venueId = some v ∧ Q db) (fun _ _ => rfl)
    fun _ _ holds found => ⟨found, holds⟩) fun v => .given (rest v)

/-- A write that the watched tenant sees no part of, or that is its own. -/
theorem confined_write {f : Db → Db} {Q : Db → Prop} {R : Unit → Db → Prop}
    (same : ∀ db, Q db → (f db).within S = f (db.within S))
    (others : S.apart i → ∀ db, Q db → (f db).within i = db.within i)
    (holds : ∀ db, Q db → R () (f db)) :
    Confined (tenants.watched i) (some S) Q R (Tx.write f : VenueTx Unit) := by
  refine .write same (fun db before j apart => ?_) holds
  cases j with
  | none => exact apart.elim
  | some j =>
      obtain ⟨rfl, apart⟩ := apart
      exact others apart db before

/-- An insert, likewise. -/
theorem confined_insert {τ : Type} {f : Db → Option τ} {g : τ → Db → Db} {missing : VenueError}
    {Q : Db → Prop} {R : Unit → Db → Prop}
    (same : ∀ db, Q db → ∃ t u, f db = some t ∧ f (db.within S) = some u ∧
      (g t db).within S = g u (db.within S))
    (others : S.apart i → ∀ db t, f db = some t → (g t db).within i = db.within i)
    (holds : ∀ db t, Q db → f db = some t → R () (g t db)) :
    Confined (tenants.watched i) (some S) Q R (Tx.fetch f missing >>= fun t => Tx.write (g t)) := by
  refine .insert same fun db t before found => ⟨holds db t before found, fun j apart => ?_⟩
  cases j with
  | none => exact apart.elim
  | some j =>
      obtain ⟨rfl, apart⟩ := apart
      exact others apart db t found

theorem confined_getVenue {missing : VenueError} {Q : Db → Prop} (seen : S.sees v = true) :
    Confined (tenants.watched i) (some S) Q (fun _ => Q) (Tx.fetch (·.venues.get? v) missing) :=
  .fetch (fun _ _ => within_venue seen) fun _ _ holds _ => holds

theorem confined_present {ι : Type} {w : Sharing ι Db} {j : ι} {row : Uuid × Venue}
    {Q : Db → Prop} : Confined w j Q (fun _ => Q) (present row) :=
  .bind (confined_isoText.mapError _) fun _ => .ret fun _ holds => holds

theorem confined_requireVenue {Q : Db → Prop} (seen : S.sees v = true) :
    Confined (tenants.watched i) (some S) Q (fun _ => Q) (VenuesAdmin.requireVenue v) :=
  .bind (confined_getVenue seen) fun _ => .ret fun _ holds => holds

theorem confined_refuseRoomBuffer {pct : Option Int} {Q : Db → Prop} :
    Confined (tenants.watched i) (some S) Q (fun _ => Q) (VenuesAdmin.refuseRoomBuffer pct) := by
  cases pct with
  | none => exact .ret fun _ holds => holds
  | some pct => exact .ite (fun _ => .ret fun _ holds => holds) fun _ => .abort _

/-! ## Settings -/

/-- The token's venue, if it names one, is covered. -/
def CoversToken (watcher S : Scope) (principal : AuthPrincipal) : Prop :=
  ∀ v, principal.venueId = some v → Covers watcher S v

theorem confined_settings (covers : CoversToken i S principal) :
    Confined (tenants.watched i) (some S) (Holding C) (fun _ => Holding C)
      (VenuesAdmin.settings principal) :=
  confined_venue fun v own =>
    .bind (confined_getVenue (covers v own).seen) fun _ => confined_present

theorem confined_updateSettings {input : UpdateVenueSettingsInput}
    (covers : CoversToken i S principal) :
    Confined (tenants.watched i) (some S) (Holding C) (fun _ => Holding C)
      (VenuesAdmin.updateSettings input principal) := by
  refine confined_venue fun v own => .bind (confined_getVenue (covers v own).seen) fun row =>
    .bind (confined_write (fun db _ => ?_) (fun apart db _ => ?_) fun db holding => ?_) fun _ =>
      .ret fun _ holding => holding
  · have kept : (db.venues.modify v input.patch).keep (fun id _ => S.sees id) =
        (db.venues.keep fun id _ => S.sees id).modify v input.patch :=
      Table.keep_modify _ _ fun _ => rfl
    exact Db.ext_tables kept rfl rfl rfl rfl rfl rfl rfl rfl rfl rfl
  · have kept : (db.venues.modify v input.patch).keep (fun id _ => i.sees id) =
        db.venues.keep fun id _ => i.sees id :=
      Table.keep_modify_unmet _ _ fun _ => (covers v own).unseen apart
    exact Db.ext_tables kept rfl rfl rfl rfl rfl rfl rfl rfl rfl rfl
  · exact holding.of_eq (holding.consistent.of_eq rfl rfl rfl rfl rfl) rfl rfl

/-! ## Rooms -/

theorem roomOf_within (seen : S.sees v = true) :
    VenuesAdmin.roomOf (db.within S) v id = VenuesAdmin.roomOf db v id := by
  rw [VenuesAdmin.roomOf, Db.within_rooms, Table.get?_keep, VenuesAdmin.roomOf]
  cases db.rooms.get? id with
  | none => rfl
  | some r =>
      by_cases own : r.venueId = v
      · simp [Option.filter, own, seen]
      · cases here : S.sees r.venueId <;> simp [Option.filter, own, here]

theorem confined_insertRoom {row : Room} (covers : Covers i S row.venueId) :
    Confined (tenants.watched i) (some S) (fun db => Holding C db ∧ db.rooms.get? id = none)
      (fun _ => Holding C) (VenuesAdmin.insertRoom id row) := by
  refine confined_insert (fun db ⟨_, fresh⟩ => ?_) (fun apart db rooms inserted => ?_)
    fun db rooms ⟨holding, _⟩ inserted => holding.withRooms (insert_venue inserted)
  · obtain ⟨rooms, inserted⟩ := Table.insert?_of_fresh fresh row
    have kept : (db.rooms.keep fun _ r => S.sees r.venueId).insert? id row =
        some (rooms.keep fun _ r => S.sees r.venueId) := Table.keep_insert? inserted covers.seen
    exact ⟨rooms, _, inserted, kept, rfl⟩
  · have kept : rooms.keep (fun _ r => i.sees r.venueId) = db.rooms.keep fun _ r => i.sees r.venueId :=
      Table.keep_insert?_unmet inserted (covers.unseen apart)
    exact Db.ext_tables rfl kept rfl rfl rfl rfl rfl rfl rfl rfl rfl

theorem confined_createRoom {input : CreateRoomInput} (covers : CoversToken i S principal) :
    Confined (tenants.watched i) (some S) (fun db => Holding C db ∧ db.rooms.get? id = none)
      (fun _ => Holding C) (VenuesAdmin.createRoom id input principal) :=
  confined_venue fun v own => .bind confined_refuseRoomBuffer fun _ =>
    .bind (confined_requireVenue (covers v own).seen) fun _ =>
      .bind (confined_insertRoom (covers v own)) fun _ => .ret fun _ holding => holding

theorem confined_findRoom {input : UpdateRoomInput} (covers : CoversToken i S principal) :
    Confined (tenants.watched i) (some S) (Holding C)
      (fun r db => principal.venueId = some r.1 ∧ Holding C db)
      (VenuesAdmin.findRoom id input principal) :=
  confined_venue fun v own => .bind confined_refuseRoomBuffer fun _ =>
    .bind (.fetch (Q := fun _ => Holding C) (fun _ _ => roomOf_within (covers v own).seen)
      fun _ _ holding _ => holding) fun _ => .ret fun _ holding => ⟨own, holding⟩

/-- The update reads the room again, under its venue. -/
theorem confined_updateRoomLoaded {input : UpdateRoomInput} {existing : Room}
    (covers : Covers i S v) :
    Confined (tenants.watched i) (some S) (Holding C) (fun _ => Holding C)
      (VenuesAdmin.updateRoomLoaded v id input existing) := by
  refine .ite (fun _ => .abort _) fun _ => .ite (fun _ => .ret fun _ holding => holding) fun _ => ?_
  refine .bind (.fetch (Q := fun row db => Holding C db ∧ VenuesAdmin.roomOf db v id = some row)
      (fun _ _ => roomOf_within covers.seen) fun _ _ holding found => ⟨holding, found⟩) fun row =>
    .bind (Q := fun _ => Holding C) (confined_write (fun db _ => ?_) (fun apart db found => ?_)
      fun db holding => holding.1.withRooms (modify_venue fun _ => rfl)) fun _ =>
        .ret fun _ holding => holding
  · have kept : (db.rooms.modify id input.patch).keep (fun _ r => S.sees r.venueId) =
        (db.rooms.keep fun _ r => S.sees r.venueId).modify id input.patch :=
      Table.keep_modify _ _ fun _ => rfl
    exact Db.ext_tables rfl kept rfl rfl rfl rfl rfl rfl rfl rfl rfl
  · obtain ⟨here, own⟩ := Option.filter_eq_some_iff.mp found.2
    have kept : (db.rooms.modify id input.patch).keep (fun _ r => i.sees r.venueId) =
        db.rooms.keep fun _ r => i.sees r.venueId := by
      refine keep_modify_found here ?_ fun _ => rfl
      rw [of_decide_eq_true own]
      exact covers.unseen apart
    exact Db.ext_tables rfl kept rfl rfl rfl rfl rfl rfl rfl rfl rfl

theorem confined_listRooms (covers : CoversToken i S principal) :
    Confined (tenants.watched i) (some S) (Holding C) (fun _ => Holding C)
      (VenuesAdmin.listRooms principal) := by
  refine confined_venue fun v own => .bind (.peek fun db _ => ?_) fun _ => .ret fun _ holding => holding
  show (db.within S).rooms.select _ = _
  rw [Db.within_rooms]
  refine Table.select_keep fun _ r _ selected => ?_
  rw [of_decide_eq_true selected]
  exact (covers v own).seen

/-! ## Equipment types -/

theorem equipmentTypeOf_within (seen : S.sees v = true) :
    VenuesAdmin.equipmentTypeOf (db.within S) v id = VenuesAdmin.equipmentTypeOf db v id := by
  rw [VenuesAdmin.equipmentTypeOf, Db.within_equipmentTypes, Table.get?_keep,
    VenuesAdmin.equipmentTypeOf]
  cases db.equipmentTypes.get? id with
  | none => rfl
  | some r =>
      by_cases own : r.venueId = v
      · simp [Option.filter, own, seen]
      · cases here : S.sees r.venueId <;> simp [Option.filter, own, here]

theorem confined_insertEquipmentType {row : EquipmentType} (covers : Covers i S row.venueId) :
    Confined (tenants.watched i) (some S)
      (fun db => Holding C db ∧ db.equipmentTypes.get? id = none) (fun _ => Holding C)
      (VenuesAdmin.insertEquipmentType id row) := by
  refine confined_insert (fun db ⟨_, fresh⟩ => ?_) (fun apart db types inserted => ?_)
    fun db types ⟨holding, _⟩ inserted => holding.withTypes (insert_venue inserted)
  · obtain ⟨types, inserted⟩ := Table.insert?_of_fresh fresh row
    have kept : (db.equipmentTypes.keep fun _ t => S.sees t.venueId).insert? id row =
        some (types.keep fun _ t => S.sees t.venueId) := Table.keep_insert? inserted covers.seen
    exact ⟨types, _, inserted, kept, rfl⟩
  · have kept : types.keep (fun _ t => i.sees t.venueId) =
        db.equipmentTypes.keep fun _ t => i.sees t.venueId :=
      Table.keep_insert?_unmet inserted (covers.unseen apart)
    exact Db.ext_tables rfl rfl kept rfl rfl rfl rfl rfl rfl rfl rfl

theorem confined_createEquipmentType {input : CreateEquipmentTypeInput}
    (covers : CoversToken i S principal) :
    Confined (tenants.watched i) (some S)
      (fun db => Holding C db ∧ db.equipmentTypes.get? id = none) (fun _ => Holding C)
      (VenuesAdmin.createEquipmentType id input principal) :=
  confined_venue fun v own => .bind (confined_requireVenue (covers v own).seen) fun _ =>
    .bind (confined_insertEquipmentType (covers v own)) fun _ => .ret fun _ holding => holding

theorem confined_updateEquipmentType {input : UpdateEquipmentTypeInput}
    (covers : CoversToken i S principal) :
    Confined (tenants.watched i) (some S) (Holding C) (fun _ => Holding C)
      (VenuesAdmin.updateEquipmentType id input principal) := by
  refine confined_venue fun v own => .bind (.fetch (Q := fun row db => Holding C db ∧
      VenuesAdmin.equipmentTypeOf db v id = some row)
        (fun _ _ => equipmentTypeOf_within (covers v own).seen)
          fun _ _ holding found => ⟨holding, found⟩) fun row =>
    .bind (Q := fun _ => Holding C) (confined_write (fun db _ => ?_) (fun apart db found => ?_)
      fun db holding => holding.1.withTypes (modify_venue fun _ => rfl)) fun _ =>
        .ret fun _ holding => holding
  · have kept : (db.equipmentTypes.modify id input.patch).keep (fun _ t => S.sees t.venueId) =
        (db.equipmentTypes.keep fun _ t => S.sees t.venueId).modify id input.patch :=
      Table.keep_modify _ _ fun _ => rfl
    exact Db.ext_tables rfl rfl kept rfl rfl rfl rfl rfl rfl rfl rfl
  · obtain ⟨here, mine⟩ := Option.filter_eq_some_iff.mp found.2
    have kept : (db.equipmentTypes.modify id input.patch).keep (fun _ t => i.sees t.venueId) =
        db.equipmentTypes.keep fun _ t => i.sees t.venueId := by
      refine keep_modify_found here ?_ fun _ => rfl
      rw [of_decide_eq_true mine]
      exact (covers v own).unseen apart
    exact Db.ext_tables rfl rfl kept rfl rfl rfl rfl rfl rfl rfl rfl

/-! ## The equipment routes -/

/-- The filter of a caller who is no platform administrator, if there is one. -/
theorem Equipment.scope_staff (tenant : principal.role ≠ .platformAdmin) :
    Equipment.scope principal = match principal.venueId with
      | some v => pure fun t => decide (t.venueId = v)
      | none => Tx.abort venueNotFound := by
  obtain ⟨userId, role, venueId⟩ := principal
  cases role <;> cases venueId <;> first | rfl | exact absurd rfl tenant

theorem confined_listEquipment (tenant : principal.role ≠ .platformAdmin)
    (covers : CoversToken i S principal) :
    Confined (tenants.watched i) (some S) (Holding C) (fun _ => Holding C)
      (Equipment.list principal) := by
  rw [Equipment.list, Equipment.scope_staff tenant]
  cases own : principal.venueId with
  | none => exact .aborts
  | some v =>
      dsimp only
      rw [pure_bind]
      refine .bind (.peek fun db _ => ?_) fun _ => .ret fun _ holding => holding
      show (db.within S).equipmentTypes.select _ = _
      rw [Db.within_equipmentTypes]
      refine Table.select_keep fun _ t _ selected => ?_
      rw [of_decide_eq_true selected]
      exact (covers v own).seen

theorem confined_findEquipment (tenant : principal.role ≠ .platformAdmin)
    (covers : CoversToken i S principal) :
    Confined (tenants.watched i) (some S) (Holding C) (fun _ => Holding C)
      (Equipment.findOne id principal) := by
  rw [Equipment.findOne, Equipment.scope_staff tenant]
  cases own : principal.venueId with
  | none => exact .aborts
  | some v =>
      dsimp only
      rw [pure_bind]
      exact .bind (.fetch (Q := fun _ => Holding C)
        (fun _ _ => equipmentTypeOf_within (covers v own).seen) fun _ _ holding _ => holding)
          fun _ => .ret fun _ holding => holding

/-! ## The policy routes -/

theorem newestPolicy_within {owner : Option Uuid} (seen : owner.all S.sees = true) :
    newestPolicy (db.within S) owner = newestPolicy db owner := by
  have selected : (db.within S).cancellationPolicies.select (fun _ p => decide (p.venueId = owner)) =
      db.cancellationPolicies.select fun _ p => decide (p.venueId = owner) := by
    rw [Db.within_cancellationPolicies]
    refine Table.select_keep fun _ p _ own => ?_
    rw [of_decide_eq_true own]
    exact seen
  simp only [newestPolicy, selected]

theorem confined_parseTiers {ι : Type} {w : Sharing ι Db} {j : ι}
    {row : Uuid × CancellationPolicy} {Q : Db → Prop} :
    Confined w j Q (fun _ => Q) (parseTiers row) := by
  unfold parseTiers
  cases Tiers.ofJson row.2.tiers with
  | none => exact .abort _
  | some tiers => exact .ret fun _ holds => holds

theorem confined_resolveTiers {Q : Db → Prop} (seen : S.sees v = true) :
    Confined (tenants.watched i) (some S) Q (fun _ => Q) (resolveTiers v) := by
  refine .bind (.peek fun _ _ => newestPolicy_within seen) fun own => ?_
  cases own with
  | some row => exact .bind confined_parseTiers fun _ => .ret fun _ holds => holds
  | none =>
      refine .bind (.peek fun _ _ => newestPolicy_within rfl) fun platform => ?_
      cases platform with
      | some row => exact .bind confined_parseTiers fun _ => .ret fun _ holds => holds
      | none => exact .abort _

/-- Everyone sees the platform's policy. -/
theorem confined_current (covers : CoversToken i S principal) :
    Confined (tenants.watched i) (some S) (Holding C) (fun _ => Holding C)
      (Policies.current principal) := by
  unfold Policies.current
  cases own : principal.venueId with
  | some v =>
      exact .bind ((confined_resolveTiers (covers v own).seen).mapError _) fun _ =>
        .ret fun _ holding => holding
  | none =>
      refine .bind (.peek fun _ _ => newestPolicy_within rfl) fun platform => ?_
      cases platform with
      | some row =>
          exact .bind (confined_parseTiers.mapError _) fun _ => .ret fun _ holding => holding
      | none => exact .abort _

theorem confined_insertPolicy {row : CancellationPolicy} (own : row.venueId = some v)
    (covers : Covers i S v) :
    Confined (tenants.watched i) (some S)
      (fun db => Holding C db ∧ db.cancellationPolicies.get? id = none) (fun _ => Holding C)
      (Policies.insertPolicy id row) := by
  refine confined_insert (fun db ⟨_, fresh⟩ => ?_) (fun apart db policies inserted => ?_)
    fun db policies ⟨holding, _⟩ inserted =>
      holding.of_eq (holding.consistent.of_eq rfl rfl rfl rfl rfl) rfl rfl
  · obtain ⟨policies, inserted⟩ := Table.insert?_of_fresh fresh row
    have kept : (db.cancellationPolicies.keep fun _ p => p.venueId.all S.sees).insert? id row =
        some (policies.keep fun _ p => p.venueId.all S.sees) :=
      Table.keep_insert? inserted (by rw [own]; exact covers.seen)
    exact ⟨policies, _, inserted, kept, rfl⟩
  · have kept : policies.keep (fun _ p => p.venueId.all i.sees) =
        db.cancellationPolicies.keep fun _ p => p.venueId.all i.sees :=
      Table.keep_insert?_unmet inserted (by rw [own]; exact covers.unseen apart)
    exact Db.ext_tables rfl rfl rfl rfl kept rfl rfl rfl rfl rfl rfl

theorem confined_replacePolicy {tiers : Tiers} {now : Instant} (covers : CoversToken i S principal) :
    Confined (tenants.watched i) (some S)
      (fun db => Holding C db ∧ db.cancellationPolicies.get? id = none) (fun _ => Holding C)
      (Policies.replace id tiers now principal) :=
  confined_venue fun v own => .bind (confined_requireVenue (covers v own).seen) fun _ =>
    .bind (confined_insertPolicy rfl (covers v own)) fun _ => .ret fun _ holding => holding

end Venue

end Atrium
