/-
# HoldLocks -- the locks of concurrent holds

Hold transactions only, any number of them, one lock at a time.  Each takes the room's
advisory lock, updates the room's stale rows in whatever order the UPDATE meets them,
locks its equipment types in the order of their ids, and puts its row into the exclusion
index, where it waits for every overlapping row that another transaction has put in or
is about to expire.  `hashtext` is the server's hash of the id's text.

Under one advisory key a room has one transaction at a time, and only the equipment
types are left to wait for, which are taken in order.
-/
import Atrium.Base.Run
import Atrium.Base.WaitsFor
import Atrium.Txn
import Atrium.Api

namespace Atrium

open Atrium.Base

set_option autoImplicit false

/-! ## Transactions -/

/-- How far a hold has come, and what it has locked. `left` is what the statement under
way has yet to lock. -/
inductive HoldPhase where
  | opened
  | entered
  | expiring (held left : List Uuid)
  | locking (expired held left : List Uuid)
  | admitted (expired held : List Uuid) (priced : List PricedItem)
  | inserting (expired held : List Uuid) (priced : List PricedItem) (stamp : HoldStamp)
  | inserted (expired held : List Uuid) (priced : List PricedItem) (stamp : HoldStamp)

namespace HoldPhase

/-- The booking rows it has updated. -/
def rows : HoldPhase → List Uuid
  | .opened | .entered => []
  | .expiring held _ => held
  | .locking expired .. | .admitted expired .. | .inserting expired .. | .inserted expired .. => expired

/-- The equipment types it has locked. -/
def types : HoldPhase → List Uuid
  | .opened | .entered | .expiring .. => []
  | .locking _ held _ | .admitted _ held _ | .inserting _ held .. | .inserted _ held .. => held

/-- While it locks its types: those it has, and those that are left. -/
def typesLeft : HoldPhase → Option (List Uuid × List Uuid)
  | .locking _ held left => some (held, left)
  | _ => none

theorem typesLeft_some {phase : HoldPhase} {held left : List Uuid}
    (waits : phase.typesLeft = some (held, left)) :
    ∃ expired, phase = .locking expired held left := by
  cases phase <;> cases waits
  exact ⟨_, rfl⟩

end HoldPhase

structure OpenHold where
  tx : HoldTx
  phase : HoldPhase

/-- The row a hold has put into the exclusion index. -/
def OpenHold.row (env : Env) (o : OpenHold) : Option Booking :=
  match o.phase with
  | .inserting _ _ priced stamp | .inserted _ _ priced stamp =>
      some (heldRow env o.tx.input o.tx.ctx o.tx.principal stamp priced)
  | _ => none

structure HoldLocks where
  now : Instant
  db : Db
  txs : Table Pid OpenHold

/-! ## Locks -/

inductive HoldLock where
  | room (key : Int)
  | booking (id : Uuid)
  | equipmentType (id : Uuid)
  | entry (pid : Pid)

section Locks

variable (env : Env) (hashtext : String → Int)

def OpenHold.key (o : OpenHold) : Int := hashtext o.tx.input.roomId.text

/-- The stored rows that the exclusion index sets against the row being put in. -/
def HoldLocks.clashing (s : HoldLocks) (o : OpenHold) : List Uuid :=
  match o.phase with
  | .inserting .. => (o.row env).elim [] fun row => (roomConflicts s.db row).map Prod.fst
  | _ => []

/-- The locks a transaction has. -/
def HoldLocks.holds (s : HoldLocks) (pid : Pid) : HoldLock → Prop
  | .room key => ∃ o, s.txs.get? pid = some o ∧ o.phase ≠ .opened ∧ key = o.key hashtext
  | .booking id => ∃ o, s.txs.get? pid = some o ∧ id ∈ o.phase.rows
  | .equipmentType id => ∃ o, s.txs.get? pid = some o ∧ id ∈ o.phase.types
  | .entry pid' => pid' = pid ∧ ∃ o row, s.txs.get? pid = some o ∧ o.row env = some row

/-- The lock its statement needs next; for the insert, every row that clashes. -/
def HoldLocks.wants (s : HoldLocks) (pid : Pid) : HoldLock → Prop
  | .room key => ∃ o, s.txs.get? pid = some o ∧ o.phase = .opened ∧ key = o.key hashtext
  | .booking id => ∃ o, s.txs.get? pid = some o ∧
      ((∃ held left, o.phase = .expiring held (id :: left)) ∨ id ∈ s.clashing env o)
  | .equipmentType id => ∃ o expired held left, s.txs.get? pid = some o ∧
      o.phase = .locking expired held (id :: left)
  | .entry pid' => ∃ o o' row row', s.txs.get? pid = some o ∧ s.txs.get? pid' = some o' ∧
      (∃ expired held priced stamp, o.phase = .inserting expired held priced stamp) ∧
      o.row env = some row ∧ o'.row env = some row' ∧ row'.overlaps row = true

/-- Who waits for whom. -/
def HoldLocks.Waits (s : HoldLocks) : Pid → Pid → Prop :=
  WaitsFor (s.holds env hashtext) (s.wants env hashtext)

end Locks

/-! ## Steps -/

inductive HoldAction where
  | tick (ms : Nat)
  | opens (pid : Pid) (input : HoldInput) (principal : AuthPrincipal)
  | enter (pid : Pid)
  /-- The UPDATE starts; `order` is the order in which it meets the rows. -/
  | update (pid : Pid) (order : List Uuid)
  | lockRow (pid : Pid)
  | select (pid : Pid)
  | lockType (pid : Pid)
  | admission (pid : Pid)
  | insert (pid : Pid) (id : Uuid) (now : Instant)
  | check (pid : Pid)
  | commit (pid : Pid)
  /-- A crash, a statement that throws, or the server's choice of a victim. -/
  | rollback (pid : Pid)

namespace HoldLocks

def start (now : Instant) (db : Db) : HoldLocks := ⟨now, db, Table.empty⟩

/-- The other open transactions. -/
def others (s : HoldLocks) (pid : Pid) : List OpenHold :=
  (s.txs.select fun pid' _ => decide (pid' ≠ pid)).map Prod.snd

def goOn (s : HoldLocks) (pid : Pid) (tx : HoldTx) (phase : HoldPhase) : HoldLocks :=
  { s with txs := s.txs.put pid ⟨tx, phase⟩ }

def close (s : HoldLocks) (pid : Pid) : HoldLocks := { s with txs := s.txs.remove pid }

/-- The row still meets the UPDATE's condition once it is locked. -/
def stillStale (s : HoldLocks) (tx : HoldTx) (id : Uuid) : Bool :=
  (s.db.bookings.get? id).any fun b =>
    decide (b.roomId = tx.input.roomId.value) && stale b tx.startedAt

end HoldLocks

section Steps

variable (env : Env) (hashtext : String → Int)

def holdStep (a : HoldAction) (s : HoldLocks) : Option HoldLocks :=
  match a with
  | .tick ms => some { s with now := s.now + ms }
  | .opens pid input principal =>
      match s.txs.get? pid, openHold env input s.now s.db with
      | none, .ok r => some (s.goOn pid ⟨input, r.1, principal, s.now⟩ .opened)
      | _, _ => none
  | .enter pid =>
      match s.txs.get? pid with
      | some ⟨tx, .opened⟩ =>
          if (s.others pid).all fun o => match o.phase with
              | .opened => true
              | _ => decide (o.key hashtext ≠ hashtext tx.input.roomId.text) then
            some (s.goOn pid tx .entered)
          else none
      | _ => none
  | .update pid order =>
      match s.txs.get? pid with
      | some ⟨tx, .entered⟩ =>
          if order.Perm (staleHoldsOfRoom s.db tx.input.roomId.value tx.startedAt) then
            some (s.goOn pid tx (.expiring [] order))
          else none
      | _ => none
  | .lockRow pid =>
      match s.txs.get? pid with
      | some ⟨tx, .expiring held (id :: left)⟩ =>
          if (s.others pid).all fun o => decide (id ∉ o.phase.rows) then
            some (s.goOn pid tx
              (.expiring (if s.stillStale tx id then held ++ [id] else held) left))
          else none
      | _ => none
  | .select pid =>
      match s.txs.get? pid with
      | some ⟨tx, .expiring held []⟩ =>
          match lockEquipmentTypes tx.input.ids (tx.view s.db held) with
          | .ok r => some (s.goOn pid tx (.locking held [] (r.1.map Prod.fst)))
          | .error _ => some (s.close pid)
      | _ => none
  | .lockType pid =>
      match s.txs.get? pid with
      | some ⟨tx, .locking expired held (id :: left)⟩ =>
          if (s.others pid).all fun o => decide (id ∉ o.phase.types) then
            some (s.goOn pid tx (.locking expired (held ++ [id]) left))
          else none
      | _ => none
  | .admission pid =>
      match s.txs.get? pid with
      | some ⟨tx, .locking expired held []⟩ =>
          match admitEquipment tx.input tx.ctx tx.startedAt (tx.view s.db expired) with
          | .ok r => some (s.goOn pid tx (.admitted expired held r.1))
          | .error _ => some (s.close pid)
      | _ => none
  | .insert pid id now =>
      match s.txs.get? pid with
      | some ⟨tx, .admitted expired held priced⟩ =>
          some (s.goOn pid tx (.inserting expired held priced ⟨id, tx.startedAt, now⟩))
      | _ => none
  | .check pid =>
      match s.txs.get? pid with
      | some ⟨tx, .inserting expired held priced stamp⟩ =>
          let row := heldRow env tx.input tx.ctx tx.principal stamp priced
          if (s.others pid).all fun o =>
              ((o.row env).all fun other => !other.overlaps row) &&
                o.phase.rows.all fun id => decide (id ∉ (roomConflicts s.db row).map Prod.fst) then
            some (s.goOn pid tx (.inserted expired held priced stamp))
          else none
      | _ => none
  | .commit pid =>
      match s.txs.get? pid with
      | some ⟨tx, .inserted expired _ priced stamp⟩ =>
          match finishHold env tx.input tx.ctx tx.principal stamp expired priced s.db with
          | .ok r => some { s.close pid with db := r.2 }
          | .error _ => some (s.close pid)
      | _ => none
  | .rollback pid => some (s.close pid)

end Steps

/-! ## What a step can do -/

/-- A transaction that has entered goes on, to its next lock or its next statement. -/
inductive PhaseStep (s : HoldLocks) (tx : HoldTx) : HoldPhase → HoldPhase → Prop
  | update (order : List Uuid) :
      order.Perm (staleHoldsOfRoom s.db tx.input.roomId.value tx.startedAt) →
      PhaseStep s tx .entered (.expiring [] order)
  | lockRow (held left : List Uuid) (id : Uuid) (held' : List Uuid) : held' ⊆ held ++ [id] →
      PhaseStep s tx (.expiring held (id :: left)) (.expiring held' left)
  | select (held : List Uuid) (rows : List (Uuid × EquipmentType)) (t : Db) :
      lockEquipmentTypes tx.input.ids (tx.view s.db held) = .ok (rows, t) →
      PhaseStep s tx (.expiring held []) (.locking held [] (rows.map Prod.fst))
  | lockType (expired held left : List Uuid) (id : Uuid) :
      PhaseStep s tx (.locking expired held (id :: left)) (.locking expired (held ++ [id]) left)
  | admission (expired held : List Uuid) (priced : List PricedItem) :
      PhaseStep s tx (.locking expired held []) (.admitted expired held priced)
  | insert (expired held : List Uuid) (priced : List PricedItem) (stamp : HoldStamp) :
      PhaseStep s tx (.admitted expired held priced) (.inserting expired held priced stamp)
  | check (expired held : List Uuid) (priced : List PricedItem) (stamp : HoldStamp) :
      PhaseStep s tx (.inserting expired held priced stamp) (.inserted expired held priced stamp)

inductive HoldStepped (env : Env) (hashtext : String → Int) (a : HoldAction) (s : HoldLocks) :
    HoldLocks → Prop
  | ticked (now : Instant) : HoldStepped env hashtext a s { s with now := now }
  | opened (pid : Pid) (input : HoldInput) (principal : AuthPrincipal) (ctx : RoomContext) :
      a = .opens pid input principal → s.txs.get? pid = none →
      HoldStepped env hashtext a s (s.goOn pid ⟨input, ctx, principal, s.now⟩ .opened)
  | entered (pid : Pid) (tx : HoldTx) :
      s.txs.get? pid = some ⟨tx, .opened⟩ →
      (∀ pid' o, pid' ≠ pid → s.txs.get? pid' = some o → o.phase ≠ .opened →
        o.key hashtext ≠ hashtext tx.input.roomId.text) →
      HoldStepped env hashtext a s (s.goOn pid tx .entered)
  | moved (pid : Pid) (tx : HoldTx) (phase phase' : HoldPhase) :
      s.txs.get? pid = some ⟨tx, phase⟩ → PhaseStep s tx phase phase' →
      HoldStepped env hashtext a s (s.goOn pid tx phase')
  | committed (pid : Pid) (tx : HoldTx) (stamp : HoldStamp) (expired : List Uuid)
      (priced : List PricedItem) (b : Booking) (db' : Db) :
      finishHold env tx.input tx.ctx tx.principal stamp expired priced s.db = .ok (b, db') →
      HoldStepped env hashtext a s { s.close pid with db := db' }
  | closed (pid : Pid) : HoldStepped env hashtext a s (s.close pid)

theorem mem_others {s : HoldLocks} {pid : Pid} {o : OpenHold} :
    o ∈ s.others pid ↔ ∃ pid', pid' ≠ pid ∧ s.txs.get? pid' = some o := by
  simp only [HoldLocks.others, List.mem_map, Prod.exists, exists_eq_right, Table.mem_select,
    decide_eq_true_eq]
  exact exists_congr fun _ => And.comm

/-- **Every step is one of these.** -/
theorem holdStep_cases {env : Env} {hashtext : String → Int} {a : HoldAction} {s s' : HoldLocks}
    (stepped : holdStep env hashtext a s = some s') : HoldStepped env hashtext a s s' := by
  cases a with
  | tick ms =>
      cases stepped
      exact .ticked _
  | opens pid input principal =>
      simp only [holdStep] at stepped
      split at stepped
      · rename_i fresh _
        cases stepped
        exact .opened pid input principal _ rfl fresh
      · cases stepped
  | enter pid =>
      simp only [holdStep] at stepped
      split at stepped
      · rename_i tx here
        obtain ⟨alone, stepped⟩ := Option.ite_none_right_eq_some.mp stepped
        cases stepped
        refine .entered pid tx here fun pid' o other there entered => ?_
        have apart := List.all_eq_true.mp alone o (mem_others.mpr ⟨pid', other, there⟩)
        cases phase : o.phase <;> simp only [phase, decide_eq_true_eq] at apart entered
        · exact absurd rfl entered
        all_goals exact apart
      · cases stepped
  | update pid order =>
      simp only [holdStep] at stepped
      split at stepped
      · rename_i tx here
        obtain ⟨perm, stepped⟩ := Option.ite_none_right_eq_some.mp stepped
        cases stepped
        exact .moved pid tx _ _ here (.update order perm)
      · cases stepped
  | lockRow pid =>
      simp only [holdStep] at stepped
      split at stepped
      · rename_i tx held id left here
        obtain ⟨-, stepped⟩ := Option.ite_none_right_eq_some.mp stepped
        cases stepped
        refine .moved pid tx _ _ here (.lockRow held left id _ ?_)
        split
        · exact List.Subset.refl _
        · exact List.subset_append_left _ _
      · cases stepped
  | select pid =>
      simp only [holdStep] at stepped
      split at stepped
      · rename_i tx held here
        split at stepped
        · rename_i r rows
          cases stepped
          exact .moved pid tx _ _ here (.select held r.1 r.2 rows)
        · cases stepped
          exact .closed pid
      · cases stepped
  | lockType pid =>
      simp only [holdStep] at stepped
      split at stepped
      · rename_i tx expired held id left here
        obtain ⟨-, stepped⟩ := Option.ite_none_right_eq_some.mp stepped
        cases stepped
        exact .moved pid tx _ _ here (.lockType expired held left id)
      · cases stepped
  | admission pid =>
      simp only [holdStep] at stepped
      split at stepped
      · rename_i tx expired held here
        split at stepped
        · cases stepped
          exact .moved pid tx _ _ here (.admission expired held _)
        · cases stepped
          exact .closed pid
      · cases stepped
  | insert pid id now =>
      simp only [holdStep] at stepped
      split at stepped
      · rename_i tx expired held priced here
        cases stepped
        exact .moved pid tx _ _ here (.insert expired held priced _)
      · cases stepped
  | check pid =>
      simp only [holdStep] at stepped
      split at stepped
      · rename_i tx expired held priced stamp here
        obtain ⟨-, stepped⟩ := Option.ite_none_right_eq_some.mp stepped
        cases stepped
        exact .moved pid tx _ _ here (.check expired held priced stamp)
      · cases stepped
  | commit pid =>
      simp only [holdStep] at stepped
      split at stepped
      · rename_i tx expired held priced stamp here
        split at stepped
        · rename_i r finished
          cases stepped
          exact .committed pid tx stamp expired priced r.1 r.2 finished
        · cases stepped
          exact .closed pid
      · cases stepped
  | rollback pid =>
      cases stepped
      exact .closed pid

/-! ## The order of the locks -/

/-- A hold leaves every booking in its room. -/
theorem finishHold_rooms {env : Env} {input : HoldInput} {ctx : RoomContext}
    {principal : AuthPrincipal} {stamp : HoldStamp} {expired : List Uuid} {priced : List PricedItem}
    {db db' : Db} {r : Booking}
    (finished : finishHold env input ctx principal stamp expired priced db = .ok (r, db'))
    {id : Uuid} {b : Booking} (here : db.bookings.get? id = some b) :
    ∃ b', db'.bookings.get? id = some b' ∧ b'.roomId = b.roomId := by
  rw [finishHold, Tx.write_bind] at finished
  obtain ⟨-, -, -, bookings, inserted, rfl⟩ := insertHold_ok finished
  have view : (db.expire expired stamp.startedAt systemActor
      "hold.expired.in_transaction").bookings.get? id = some
        (if id ∈ expired then { b with status := .expired, updatedAt := stamp.startedAt } else b) := by
    rw [Db.expire_bookings, Table.get?_update, here]
    rfl
  have old : id ≠ stamp.id := by
    rintro rfl
    rw [(Table.insert?_some inserted).1] at view
    cases view
  have kept := Table.get?_insert? inserted id
  rw [if_neg old, view] at kept
  refine ⟨_, kept, ?_⟩
  split <;> rfl

/-- The booking is one of the room's. -/
def InRoom (db : Db) (room id : Uuid) : Prop :=
  ∃ b, db.bookings.get? id = some b ∧ b.roomId = room

/-- The rows a transaction has updated or is about to are of its room, and its equipment
types are locked in the order of their ids. -/
structure OpenHold.Sound (db : Db) (o : OpenHold) : Prop where
  rows : ∀ id ∈ o.phase.rows, InRoom db o.tx.input.roomId.value id
  left : ∀ held left, o.phase = .expiring held left →
    ∀ id ∈ left, InRoom db o.tx.input.roomId.value id
  types : ∀ expired held left, o.phase = .locking expired held left →
    (held ++ left).Pairwise fun a b => a.toNat < b.toNat

theorem OpenHold.Sound.kept {db db' : Db} {o : OpenHold} (sound : o.Sound db)
    (rooms : ∀ room id, InRoom db room id → InRoom db' room id) : o.Sound db' :=
  ⟨fun id here => rooms _ _ (sound.rows id here),
    fun held left phase id here => rooms _ _ (sound.left held left phase id here), sound.types⟩

instance : Std.Total byId := ⟨fun p q => Nat.le_total p.1.toNat q.1.toNat⟩

instance : IsTrans (Uuid × EquipmentType) byId := ⟨fun _ _ _ => Nat.le_trans⟩

/-- The rows of a locking SELECT come in the order of their ids, each once. -/
theorem lockEquipmentTypes_ordered {ids : List String} {db t : Db}
    {rows : List (Uuid × EquipmentType)} (locked : lockEquipmentTypes ids db = .ok (rows, t)) :
    (rows.map Prod.fst).Pairwise fun a b => a.toNat < b.toNat := by
  unfold lockEquipmentTypes at locked
  by_cases none_ : ids = []
  · rw [if_pos none_, Tx.pure_ok] at locked
    rw [← locked.1]
    exact .nil
  · rw [if_neg none_] at locked
    simp only [Tx.bind_ok, Tx.read_ok] at locked
    obtain ⟨values, u, -, rfl, -⟩ := locked
    have nodup : (((u.equipmentTypes.select fun id _ => decide (id ∈ values)).insertionSort
        byId).map Prod.fst).Nodup := by
      refine ((List.perm_insertionSort _ _).map Prod.fst).nodup_iff.mpr ?_
      exact u.equipmentTypes.unique.sublist (List.filter_sublist.map Prod.fst)
    have sorted : ((u.equipmentTypes.select fun id _ => decide (id ∈ values)).insertionSort
        byId).Pairwise byId := List.pairwise_insertionSort _ _
    refine List.pairwise_map.mpr ((sorted.and (List.pairwise_map.mp nodup)).imp fun {a b} both => ?_)
    have differ : a.1.toNat ≠ b.1.toNat := fun same => both.2 (BitVec.eq_of_toNat_eq same)
    exact lt_of_le_of_ne both.1 differ

theorem PhaseStep.sound {s : HoldLocks} {tx : HoldTx} {phase phase' : HoldPhase}
    (moved : PhaseStep s tx phase phase') (sound : (⟨tx, phase⟩ : OpenHold).Sound s.db) :
    (⟨tx, phase'⟩ : OpenHold).Sound s.db := by
  obtain ⟨rows, left_, types⟩ := sound
  cases moved with
  | update order perm =>
      refine ⟨nofun, ?_, nofun⟩
      rintro _ _ ⟨⟩ id among
      obtain ⟨b, here, inRoom, -⟩ := mem_staleHoldsOfRoom.mp (perm.mem_iff.mp among)
      exact ⟨b, here, inRoom⟩
  | lockRow held left id held' taken =>
      refine ⟨?_, ?_, nofun⟩
      · intro id' among
        rcases List.mem_append.mp (taken among) with old | new
        · exact rows id' old
        · obtain rfl := List.mem_singleton.mp new
          exact left_ _ _ rfl id' List.mem_cons_self
      · rintro _ _ ⟨⟩ id' among
        exact left_ _ _ rfl id' (List.mem_cons_of_mem _ among)
  | select held rows' t locked =>
      refine ⟨rows, nofun, ?_⟩
      rintro _ _ _ ⟨⟩
      exact lockEquipmentTypes_ordered locked
  | lockType expired held left id =>
      refine ⟨rows, nofun, ?_⟩
      rintro _ _ _ ⟨⟩
      have ordered := types _ _ _ rfl
      rwa [List.append_assoc, List.singleton_append]
  | admission expired held priced => exact ⟨rows, nofun, nofun⟩
  | insert expired held priced stamp => exact ⟨rows, nofun, nofun⟩
  | check expired held priced stamp => exact ⟨rows, nofun, nofun⟩

/-- What keeps the holds in order. -/
structure HoldLocks.Ordered (hashtext : String → Int) (s : HoldLocks) : Prop where
  /-- One room, one advisory key. -/
  spelled : ∀ pid o pid' o', s.txs.get? pid = some o → s.txs.get? pid' = some o' →
    o.tx.input.roomId.value = o'.tx.input.roomId.value → o.key hashtext = o'.key hashtext
  /-- One advisory key, one transaction. -/
  exclusive : ∀ pid o pid' o', s.txs.get? pid = some o → s.txs.get? pid' = some o' →
    o.phase ≠ .opened → o'.phase ≠ .opened → o.key hashtext = o'.key hashtext → pid = pid'
  each : ∀ pid o, s.txs.get? pid = some o → o.Sound s.db

/-- A request that opens names no room that an open one names under another key. -/
def OneKey (hashtext : String → Int) (a : HoldAction) (s : HoldLocks) : Prop :=
  match a with
  | .opens _ input _ => ∀ row ∈ s.txs.rows, row.2.tx.input.roomId.value = input.roomId.value →
      row.2.key hashtext = hashtext input.roomId.text
  | _ => True

instance (hashtext : String → Int) (a : HoldAction) (s : HoldLocks) :
    Decidable (OneKey hashtext a s) := by
  unfold OneKey
  split <;> infer_instance

namespace HoldLocks

theorem goOn_txs (s : HoldLocks) (pid pid' : Pid) (tx : HoldTx) (phase : HoldPhase) :
    (s.goOn pid tx phase).txs.get? pid' =
      if pid' = pid then some ⟨tx, phase⟩ else s.txs.get? pid' := by
  rw [goOn, Table.get?_put]

theorem close_txs (s : HoldLocks) (pid pid' : Pid) :
    (s.close pid).txs.get? pid' = if pid' = pid then none else s.txs.get? pid' := by
  rw [close, Table.get?_remove]

end HoldLocks

namespace HoldLocks.Ordered

variable {hashtext : String → Int} {s : HoldLocks}

theorem start (hashtext : String → Int) (now : Instant) (db : Db) :
    Ordered hashtext (HoldLocks.start now db) := by
  constructor <;> intro pid o <;> simp [HoldLocks.start]

/-- A transaction that has entered, or its own first, goes on. -/
theorem goOn (ordered : Ordered hashtext s) {pid : Pid} {tx : HoldTx} {phase : HoldPhase}
    (spelled : ∀ pid' o, pid' ≠ pid → s.txs.get? pid' = some o →
      o.tx.input.roomId.value = tx.input.roomId.value → o.key hashtext = hashtext tx.input.roomId.text)
    (alone : phase ≠ .opened → ∀ pid' o, pid' ≠ pid → s.txs.get? pid' = some o → o.phase ≠ .opened →
      o.key hashtext ≠ hashtext tx.input.roomId.text)
    (sound : (⟨tx, phase⟩ : OpenHold).Sound s.db) : Ordered hashtext (s.goOn pid tx phase) := by
  refine ⟨?_, ?_, ?_⟩
  · intro pid₁ o₁ pid₂ o₂ here₁ here₂ same
    rw [HoldLocks.goOn_txs] at here₁ here₂
    split_ifs at here₁ here₂ with own₁ own₂ own₂
    · cases here₁
      cases here₂
      rfl
    · cases here₁
      exact (spelled pid₂ o₂ own₂ here₂ same.symm).symm
    · cases here₂
      exact spelled pid₁ o₁ own₁ here₁ same
    · exact ordered.spelled pid₁ o₁ pid₂ o₂ here₁ here₂ same
  · intro pid₁ o₁ pid₂ o₂ here₁ here₂ in₁ in₂ same
    rw [HoldLocks.goOn_txs] at here₁ here₂
    split_ifs at here₁ here₂ with own₁ own₂ own₂
    · rw [own₁, own₂]
    · cases here₁
      exact absurd same.symm (alone in₁ pid₂ o₂ own₂ here₂ in₂)
    · cases here₂
      exact absurd same (alone in₂ pid₁ o₁ own₁ here₁ in₁)
    · exact ordered.exclusive pid₁ o₁ pid₂ o₂ here₁ here₂ in₁ in₂ same
  · intro pid' o here
    rw [HoldLocks.goOn_txs] at here
    split_ifs at here with own
    · cases here
      exact sound
    · exact ordered.each pid' o here

/-- A transaction ends, and the database keeps every booking in its room. -/
theorem close (ordered : Ordered hashtext s) (pid : Pid) {db' : Db}
    (rooms : ∀ room id, InRoom s.db room id → InRoom db' room id) :
    Ordered hashtext { s.close pid with db := db' } := by
  have old : ∀ pid' o, (s.close pid).txs.get? pid' = some o → s.txs.get? pid' = some o := by
    intro pid' o here
    rw [HoldLocks.close_txs] at here
    split_ifs at here
    exact here
  refine ⟨?_, ?_, ?_⟩
  · intro pid₁ o₁ pid₂ o₂ here₁ here₂
    exact ordered.spelled pid₁ o₁ pid₂ o₂ (old _ _ here₁) (old _ _ here₂)
  · intro pid₁ o₁ pid₂ o₂ here₁ here₂
    exact ordered.exclusive pid₁ o₁ pid₂ o₂ (old _ _ here₁) (old _ _ here₂)
  · intro pid' o here
    exact (ordered.each pid' o (old _ _ here)).kept rooms

end HoldLocks.Ordered

/-- **A step** keeps the order, where it opens no second key for a room. -/
theorem holdStep_ordered {env : Env} {hashtext : String → Int} {a : HoldAction} {s s' : HoldLocks}
    (stepped : holdStep env hashtext a s = some s') (oneKey : OneKey hashtext a s)
    (ordered : s.Ordered hashtext) : s'.Ordered hashtext := by
  cases holdStep_cases stepped with
  | ticked now => exact ⟨ordered.spelled, ordered.exclusive, ordered.each⟩
  | opened pid input principal ctx own fresh =>
      subst own
      refine ordered.goOn ?_ (fun entered => absurd rfl entered) ⟨nofun, nofun, nofun⟩
      intro pid' o _ here same
      exact oneKey (pid', o) (Table.mem_rows.mpr here) same
  | entered pid tx here alone =>
      refine ordered.goOn ?_ (fun _ => alone) ⟨nofun, nofun, nofun⟩
      intro pid' o _ there same
      exact ordered.spelled pid' o pid _ there here same
  | moved pid tx phase phase' here moved =>
      have entered : phase ≠ .opened := by
        rintro rfl
        cases moved
      refine ordered.goOn ?_ (fun _ => ?_) (moved.sound (ordered.each pid _ here))
      · intro pid' o _ there same
        exact ordered.spelled pid' o pid _ there here same
      · intro pid' o other there in_ same
        exact other (ordered.exclusive pid' o pid _ there here in_ entered same)
  | committed pid tx stamp expired priced b db' finished =>
      refine ordered.close pid fun room id inRoom => ?_
      obtain ⟨b, here, own⟩ := inRoom
      obtain ⟨b', here', same⟩ := finishHold_rooms finished here
      exact ⟨b', here', same.trans own⟩
  | closed pid => exact ordered.close pid fun _ _ inRoom => inRoom

/-! ## No cycle -/

/-- Two transactions that have entered have different rooms. -/
theorem HoldLocks.Ordered.apart {hashtext : String → Int} {s : HoldLocks} (ordered : s.Ordered hashtext)
    {pid pid' : Pid} {o o' : OpenHold} (here : s.txs.get? pid = some o)
    (there : s.txs.get? pid' = some o') (entered : o.phase ≠ .opened) (entered' : o'.phase ≠ .opened)
    (differ : pid ≠ pid') : o.tx.input.roomId.value ≠ o'.tx.input.roomId.value := fun same =>
  differ (ordered.exclusive pid o pid' o' here there entered entered'
    (ordered.spelled pid o pid' o' here there same))

/-- The order the locks are taken in: the room, the bookings, the types by their ids. -/
def HoldLock.rank : HoldLock → ℕ ×ₗ ℕ
  | .room _ => toLex (0, 0)
  | .booking _ => toLex (1, 0)
  | .equipmentType id => toLex (2, id.toNat)
  | .entry _ => toLex (3, 0)

theorem row_room {env : Env} {o : OpenHold} {row : Booking} (stored : o.row env = some row) :
    row.roomId = o.tx.input.roomId.value ∧ o.phase ≠ .opened := by
  obtain ⟨tx, phase⟩ := o
  cases phase <;> simp only [OpenHold.row, reduceCtorEq, Option.some.injEq] at stored
  · subst stored
    exact ⟨rfl, nofun⟩
  · subst stored
    exact ⟨rfl, nofun⟩

theorem clashing_room {env : Env} {s : HoldLocks} {o : OpenHold} {id : Uuid}
    (clash : id ∈ s.clashing env o) :
    InRoom s.db o.tx.input.roomId.value id ∧ o.phase ≠ .opened := by
  obtain ⟨tx, phase⟩ := o
  cases phase <;> simp only [HoldLocks.clashing, List.not_mem_nil] at clash
  simp only [OpenHold.row, Option.elim_some, List.mem_map, roomConflicts, Prod.exists,
    exists_and_right, exists_eq_right, Table.mem_select, Bool.and_eq_true, Booking.overlaps,
    decide_eq_true_eq] at clash
  obtain ⟨b, here, -, same, -⟩ := clash
  exact ⟨⟨b, here, same⟩, nofun⟩

theorem entered_of_rows {o : OpenHold} {id : Uuid} (among : id ∈ o.phase.rows) :
    o.phase ≠ .opened := by
  intro opened
  rw [opened] at among
  cases among

/-- **Where holds are in order, their waits form no cycle.** -/
theorem HoldLocks.Ordered.acyclic {env : Env} {hashtext : String → Int} {s : HoldLocks}
    (ordered : s.Ordered hashtext) : Acyclic (s.Waits env hashtext) := by
  refine acyclic_of_ordered HoldLock.rank ?_
  intro t t' l l' differ wanted taken held
  -- Two rooms: whatever is of both transactions' rooms is of neither.
  have elsewhere : ∀ {o o' : OpenHold} {id : Uuid}, s.txs.get? t = some o → s.txs.get? t' = some o' →
      o.phase ≠ .opened → InRoom s.db o.tx.input.roomId.value id → id ∈ o'.phase.rows → False := by
    intro o o' id here there entered inRoom among
    obtain ⟨b, stored, own⟩ := inRoom
    obtain ⟨b', stored', own'⟩ := (ordered.each t' o' there).rows id among
    cases stored.symm.trans stored'
    exact ordered.apart here there entered (entered_of_rows among) differ (own.symm.trans own')
  cases l with
  | room key =>
      -- It has opened, and holds nothing.
      obtain ⟨o, here, opened, -⟩ := wanted
      cases l' with
      | room key' =>
          obtain ⟨o', here', entered, -⟩ := held
          cases here.symm.trans here'
          exact absurd opened entered
      | booking id =>
          obtain ⟨o', here', among⟩ := held
          cases here.symm.trans here'
          exact absurd opened (entered_of_rows among)
      | equipmentType id =>
          obtain ⟨o', here', among⟩ := held
          cases here.symm.trans here'
          rw [opened] at among
          cases among
      | entry pid =>
          obtain ⟨-, o', row, here', stored⟩ := held
          cases here.symm.trans here'
          exact absurd opened (row_room stored).2
  | booking id =>
      obtain ⟨o', there, among⟩ := taken
      obtain ⟨o, here, ⟨before, left, phase⟩ | clash⟩ := wanted
      · have inRoom := (ordered.each t o here).left before _ phase id List.mem_cons_self
        exact (elsewhere here there (by rw [phase]; exact nofun) inRoom among).elim
      · obtain ⟨inRoom, entered⟩ := clashing_room clash
        exact (elsewhere here there entered inRoom among).elim
  | equipmentType id =>
      obtain ⟨o, expired, before, left, here, phase⟩ := wanted
      cases l' with
      | room key => exact Prod.Lex.toLex_lt_toLex.mpr (.inl (Nat.zero_lt_two))
      | booking id' => exact Prod.Lex.toLex_lt_toLex.mpr (.inl (Nat.one_lt_two))
      | equipmentType id' =>
          obtain ⟨o', here', among⟩ := held
          cases here.symm.trans here'
          rw [phase] at among
          have sorted := (ordered.each t o here).types expired before (id :: left) phase
          have below := (List.pairwise_append.mp sorted).2.2 id' among id List.mem_cons_self
          exact Prod.Lex.toLex_lt_toLex.mpr (.inr ⟨rfl, below⟩)
      | entry pid =>
          obtain ⟨-, o', row, here', stored⟩ := held
          cases here.symm.trans here'
          simp only [OpenHold.row, phase] at stored
          cases stored
  | entry pid =>
      obtain ⟨o, o', row, row', here, there, -, stored, stored', overlap⟩ := wanted
      obtain ⟨rfl, -⟩ := taken
      obtain ⟨own, entered⟩ := row_room stored
      obtain ⟨own', entered'⟩ := row_room stored'
      simp only [Booking.overlaps, decide_eq_true_eq] at overlap
      exact absurd (own.symm.trans (overlap.1.symm.trans own'))
        (ordered.apart here there entered entered' differ)

/-- **Holds do not deadlock each other**, in any run in which no two open requests name
one room by ids with different advisory keys. -/
theorem holds_acyclic {env : Env} {hashtext : String → Int} {now : Instant} {db : Db}
    {s : HoldLocks}
    (reached : ReachableAlong (holdStep env hashtext) (OneKey hashtext) (HoldLocks.start now db) s) :
    Acyclic (s.Waits env hashtext) :=
  (reached.invariant (I := HoldLocks.Ordered hashtext) (.start hashtext now db)
    fun _ _ _ stepped oneKey ordered => holdStep_ordered stepped oneKey ordered).acyclic

namespace Sample

def vault : Uuid := 0x0000000000004000a000000000000002

/-- What the server's `hashtext` makes of the rooms' ids, the vault's in two spellings. -/
def vaultKey (text : String) : Int :=
  if text = "00000000-0000-4000-A000-000000000002" then 168434229
  else if text = "00000000-0000-4000-a000-000000000002" then 43054251
  else if text = "00000000-0000-4000-8000-000000000002" then -687750518
  else -502032608

def vaultHold : HoldInput := ⟨⟨Uuid.path vault, 36000000, 39600000, []⟩, by decide +kernel⟩

def vaultShouted : HoldInput :=
  ⟨⟨⟨"00000000-0000-4000-A000-000000000002", vault, by decide⟩, 43200000, 46800000, []⟩,
    by decide +kernel⟩

def lapsed (startsAt : Instant) : Booking :=
  { venueId := 1, roomId := vault, userId := 5, startsAt := startsAt, endsAt := startsAt + 3600000
    status := .held, expiresAt := some 600000, rearmCount := 0, policySnapshot := none
    totalMinor := 5000, currency := "PKR", createdAt := 0, updatedAt := 0 }

/-- The vault, with two holds that lapsed and that nobody has swept. -/
def vaultDb : Db :=
  { db with
    rooms := ⟨[(vault, roomRow)], by decide⟩
    bookings := ⟨[(7, lapsed 50400000), (8, lapsed 57600000)], by decide⟩ }

/-- A hold of each room, which both want the projector. -/
def oneProjector : List HoldAction :=
  [.opens 0 hold customer, .opens 1 otherHold customer, .enter 0, .enter 1, .update 0 [],
    .update 1 [], .select 0, .select 1, .lockType 0]

/-- Each hold updates the vault's two rows, and they meet them in different orders. -/
def crossed : List HoldAction :=
  [.opens 0 vaultHold customer, .opens 1 vaultShouted customer, .enter 0, .enter 1,
    .update 0 [7, 8], .update 1 [8, 7], .lockRow 0, .lockRow 1]

end Sample

/-- One waits for the other's projector, and the other for nobody. -/
theorem holds_acyclic_projector :
    ∃ s, run (holdStep .default Sample.vaultKey) Sample.oneProjector (HoldLocks.start 0 Sample.db) =
        some s ∧
      s.Waits .default Sample.vaultKey 1 0 ∧ Acyclic (s.Waits .default Sample.vaultKey) := by
  have ran : ((run (holdStep .default Sample.vaultKey) Sample.oneProjector
      (HoldLocks.start 0 Sample.db)).map fun s =>
        ((s.txs.get? 0).bind (·.phase.typesLeft), (s.txs.get? 1).bind (·.phase.typesLeft))) =
      some (some ([Sample.projector], []), some ([], [Sample.projector])) := by decide +kernel
  have along : Along (holdStep .default Sample.vaultKey) (OneKey Sample.vaultKey) Sample.oneProjector
      (HoldLocks.start 0 Sample.db) := by decide +kernel
  obtain ⟨s, ran, phases⟩ := Option.map_eq_some_iff.mp ran
  obtain ⟨taken, wanted⟩ := Prod.mk.inj phases
  obtain ⟨o, here, first⟩ := Option.bind_eq_some_iff.mp taken
  obtain ⟨o', there, second⟩ := Option.bind_eq_some_iff.mp wanted
  obtain ⟨expired, phase⟩ := HoldPhase.typesLeft_some first
  obtain ⟨expired', phase'⟩ := HoldPhase.typesLeft_some second
  refine ⟨s, ran, ⟨by decide, .equipmentType Sample.projector, ?_, ?_⟩,
    holds_acyclic ⟨_, ran, along⟩⟩
  · exact ⟨o', expired', [], [], there, phase'⟩
  · exact ⟨o, here, by rw [phase]; exact List.mem_cons_self⟩

/-- The two spellings of one room are two advisory keys, and each hold waits for the row
that the other has updated. -/
theorem holds_deadlock :
    ¬ ∀ (env : Env) (hashtext : String → Int) (now : Instant) (db : Db) (s : HoldLocks),
      Reachable (holdStep env hashtext) (HoldLocks.start now db) s →
        Acyclic (s.Waits env hashtext) := by
  intro claim
  refine not_acyclic_of_mutual (a := 0) (b := 1) ?_ ?_
    (claim .default Sample.vaultKey 600001 Sample.vaultDb _ ⟨Sample.crossed, rfl⟩)
  · exact ⟨by decide, .booking 8, ⟨_, rfl, .inl ⟨_, _, rfl⟩⟩, ⟨_, rfl, by decide⟩⟩
  · exact ⟨by decide, .booking 7, ⟨_, rfl, .inl ⟨_, _, rfl⟩⟩, ⟨_, rfl, by decide⟩⟩

end Atrium
