/-
# Base.Isolation -- parties that share a store, and see a part of it each

`part i s` is what party `i` is to see of a store, as a store of its own.  A transaction of
`i`'s is `Confined` where it does on the whole store what it does on `i`'s part alone, and
leaves the part of every party apart from `i` as it was.  Confinement goes through a
transaction one statement at a time, with what a statement establishes handed to the next.

A request is a process that runs one transaction after another, and in between anyone may
run.  Where each transaction is confined as long as what its process relies on holds, and
nobody's transaction takes that away, `told_alike` says that no party can tell from its
answers, or from its part of the store, what the others did or what else the store holds.
-/
import Atrium.Base.Run
import Atrium.Base.Transaction

namespace Atrium.Base

set_option autoImplicit false

/-! ## Parts -/

/-- What each party sees of a store, and which parties are to be kept from each other. -/
structure Sharing (ι σ : Type) where
  part : ι → σ → σ
  apart : ι → ι → Prop

/-- The sharing as one party watches it: the others are to be kept from this party only.
`none` is whoever looks at everything and changes nothing. -/
def Sharing.watched {ι σ : Type} (v : Sharing ι σ) (watcher : ι) : Sharing (Option ι) σ where
  part
    | some i, s => v.part i s
    | none, s => s
  apart
    | some i, some j => j = watcher ∧ v.apart i watcher
    | none, some _ => True
    | _, none => False

/-- Rethrow every abort as an error of another kind. -/
def Tx.mapError {ε ε' σ α : Type} (f : ε → ε') (x : Tx ε σ α) : Tx ε' σ α := fun s =>
  match x s with
  | .ok r => .ok r
  | .error e => .error (f e)

/-- `try … catch`: what an abort would have left is undone, and its error handed on. -/
def Tx.attempt {ε ε' σ α : Type} (x : Tx ε σ α) : Tx ε' σ (Except ε α) := fun s =>
  match x s with
  | .ok (a, t) => .ok (.ok a, t)
  | .error e => .ok (.error e, s)

@[simp] theorem Tx.mapError_ok {ε ε' σ α : Type} {f : ε → ε'} {x : Tx ε σ α} {s : σ} {r : α × σ} :
    x.mapError f s = .ok r ↔ x s = .ok r := by
  unfold Tx.mapError
  cases x s <;> simp

/-! ## Confined transactions -/

section Confined

variable {ι ε σ α β : Type} {v : Sharing ι σ} {i : ι} {P : σ → Prop} {Q : α → σ → Prop}

/-- From a store in `P`, the transaction does what it does on `i`'s part alone, and leaves
the store in `Q` with the parts apart from `i`'s as they were. -/
structure Confined (v : Sharing ι σ) (i : ι) (P : σ → Prop) (Q : α → σ → Prop) (x : Tx ε σ α) :
    Prop where
  alone : ∀ s, P s → x (v.part i s) = (x s).map fun r => (r.1, v.part i r.2)
  kept : ∀ s a s', P s → x s = .ok (a, s') →
    Q a s' ∧ ∀ j, v.apart i j → v.part j s' = v.part j s

namespace Confined

theorem ret {a : α} (holds : ∀ s, P s → Q a s) : Confined v i P Q (pure a : Tx ε σ α) where
  alone _ _ := rfl
  kept s b s' before ran := by
    obtain ⟨rfl, rfl⟩ := Tx.pure_ok.mp ran
    exact ⟨holds s before, fun _ _ => rfl⟩

theorem abort (e : ε) : Confined v i P Q (Tx.abort e : Tx ε σ α) where
  alone _ _ := rfl
  kept _ _ _ _ ran := (Tx.abort_ok.mp ran).elim

/-- A statement that reads nothing but `i`'s part. -/
theorem read {f : σ → α} (same : ∀ s, P s → f (v.part i s) = f s)
    (holds : ∀ s, P s → Q (f s) s) : Confined v i P Q (Tx.read f : Tx ε σ α) where
  alone s before := by simp only [Tx.read, same s before, Except.map]
  kept s a s' before ran := by
    obtain ⟨rfl, rfl⟩ := Tx.read_ok.mp ran
    exact ⟨holds s before, fun _ _ => rfl⟩

theorem peek {f : σ → α} (same : ∀ s, P s → f (v.part i s) = f s) :
    Confined v i P (fun _ => P) (Tx.read f : Tx ε σ α) :=
  read same fun _ holds => holds

theorem fetch {f : σ → Option α} {missing : ε} (same : ∀ s, P s → f (v.part i s) = f s)
    (holds : ∀ s a, P s → f s = some a → Q a s) : Confined v i P Q (Tx.fetch f missing) where
  alone s before := by
    simp only [Tx.fetch, same s before]
    cases f s <;> rfl
  kept s a s' before ran := by
    obtain ⟨found, rfl⟩ := Tx.fetch_ok.mp ran
    exact ⟨holds s a before found, fun _ _ => rfl⟩

/-- A statement that writes `i`'s part, and what no one apart from `i` sees. -/
theorem write {f : σ → σ} {Q : Unit → σ → Prop}
    (same : ∀ s, P s → v.part i (f s) = f (v.part i s))
    (others : ∀ s, P s → ∀ j, v.apart i j → v.part j (f s) = v.part j s)
    (holds : ∀ s, P s → Q () (f s)) : Confined v i P Q (Tx.write f : Tx ε σ Unit) where
  alone s before := by simp only [Tx.write, same s before, Except.map]
  kept s a s' before ran := by
    obtain rfl := Tx.write_ok.mp ran
    exact ⟨holds s before, others s before⟩

theorem bind {x : Tx ε σ α} {k : α → Tx ε σ β} {R : β → σ → Prop} (first : Confined v i P Q x)
    (rest : ∀ a, Confined v i (Q a) R (k a)) : Confined v i P R (x >>= k) where
  alone s before := by
    rw [Tx.bind_run, Tx.bind_run, first.alone s before]
    cases ran : x s with
    | error e => rfl
    | ok r => exact (rest r.1).alone r.2 (first.kept s r.1 r.2 before ran).1
  kept s b s' before ran := by
    obtain ⟨a, t, ran, last⟩ := Tx.bind_ok.mp ran
    obtain ⟨between, same⟩ := first.kept s a t before ran
    obtain ⟨after, same'⟩ := (rest a).kept t b s' between last
    exact ⟨after, fun j apart => (same' j apart).trans (same j apart)⟩

/-- What follows an abort is never run. -/
theorem aborts {e : ε} {k : α → Tx ε σ β} {R : β → σ → Prop} :
    Confined v i P R (Tx.abort e >>= k) :=
  .bind (Q := fun _ _ => False) (.abort e) fun _ => ⟨fun _ no => no.elim, fun _ _ _ no => no.elim⟩

theorem ite {c : Prop} [Decidable c] {x y : Tx ε σ α} (yes : c → Confined v i P Q x)
    (no : ¬ c → Confined v i P Q y) : Confined v i P Q (if c then x else y) := by
  by_cases h : c
  · rw [if_pos h]
    exact yes h
  · rw [if_neg h]
    exact no h

theorem mapError {ε' : Type} {x : Tx ε σ α} (confined : Confined v i P Q x) (f : ε → ε') :
    Confined v i P Q (x.mapError f) where
  alone s before := by
    simp only [Tx.mapError, confined.alone s before]
    cases x s <;> rfl
  kept s a s' before ran := confined.kept s a s' before (Tx.mapError_ok.mp ran)

theorem attempt {ε' : Type} {x : Tx ε σ α} {R : Except ε α → σ → Prop}
    (confined : Confined v i P Q x) (returned : ∀ a s, Q a s → R (.ok a) s)
    (aborted : ∀ e s, P s → R (.error e) s) :
    Confined v i P R (Tx.attempt x : Tx ε' σ (Except ε α)) where
  alone s before := by
    simp only [Tx.attempt, confined.alone s before]
    cases x s <;> rfl
  kept s r s' before ran := by
    unfold Tx.attempt at ran
    cases done : x s with
    | error e =>
        rw [done] at ran
        cases ran
        exact ⟨aborted e s before, fun _ _ => rfl⟩
    | ok a =>
        rw [done] at ran
        cases ran
        obtain ⟨after, same⟩ := confined.kept s a.1 a.2 before done
        exact ⟨returned a.1 a.2 after, same⟩

/-- **The rule of consequence.** -/
theorem weaken {P' : σ → Prop} {Q' : α → σ → Prop} {x : Tx ε σ α} (confined : Confined v i P Q x)
    (before : ∀ s, P' s → P s) (after : ∀ a s, Q a s → Q' a s) : Confined v i P' Q' x where
  alone s holds := confined.alone s (before s holds)
  kept s a s' holds ran := by
    obtain ⟨done, same⟩ := confined.kept s a s' (before s holds) ran
    exact ⟨after a s' done, same⟩

/-- A condition that does not mention the store may be taken out of the precondition. -/
theorem given {c : Prop} {x : Tx ε σ α} (confined : c → Confined v i P Q x) :
    Confined v i (fun s => c ∧ P s) Q x where
  alone s before := (confined before.1).alone s before.2
  kept s a s' before ran := (confined before.1).kept s a s' before.2 ran

/-- An insert: a read that yields what is then written. -/
theorem insert {τ : Type} {f : σ → Option τ} {g : τ → σ → σ} {missing : ε} {Q : Unit → σ → Prop}
    (same : ∀ s, P s → ∃ t u, f s = some t ∧ f (v.part i s) = some u ∧
      v.part i (g t s) = g u (v.part i s))
    (kept : ∀ s t, P s → f s = some t →
      Q () (g t s) ∧ ∀ j, v.apart i j → v.part j (g t s) = v.part j s) :
    Confined v i P Q (Tx.fetch f missing >>= fun t => Tx.write (g t)) where
  alone s before := by
    obtain ⟨t, u, whole, part, alike⟩ := same s before
    rw [Tx.fetch_bind, Tx.fetch_bind, whole, part]
    simp only [Tx.write, Except.map, alike]
  kept s a s' before ran := by
    simp only [Tx.bind_ok, Tx.fetch_ok, Tx.write_ok] at ran
    obtain ⟨t, _, ⟨found, rfl⟩, rfl⟩ := ran
    exact kept s t before found

/-- What is confined is confined for any watcher. -/
theorem watched {x : Tx ε σ α} (confined : Confined v i P Q x) (watcher : ι) :
    Confined (v.watched watcher) (some i) P Q x where
  alone := confined.alone
  kept s a s' before ran := by
    obtain ⟨after, same⟩ := confined.kept s a s' before ran
    refine ⟨after, fun j apart => ?_⟩
    cases j with
    | none => exact apart.elim
    | some j => exact same j (apart.1 ▸ apart.2)

/-- A transaction that only reads may read everything. -/
theorem looks {x : Tx ε σ α} (watcher : ι) (same : ∀ s a s', x s = .ok (a, s') → s' = s)
    (holds : ∀ a s, P s → Q a s) : Confined (v.watched watcher) none P Q x where
  alone s _ := by
    show x s = (x s).map fun r => (r.1, r.2)
    cases x s <;> rfl
  kept s a s' before ran := by
    obtain rfl := same s a s' ran
    exact ⟨holds a s' before, fun j _ => rfl⟩

end Confined

end Confined

/-! ## Machines that cannot tell -/

section Machine

variable {α β σ : Type} {call : α → σ → β × σ} {own : α → Bool} {part : σ → σ}
  {C : α → σ → Prop} {I : σ → Prop}

/-- Where the machine has come to after a sequence of calls. -/
def after (call : α → σ → β × σ) : List α → σ → σ
  | [], s => s
  | a :: as, s => after call as (call a s).2

/-- What the machine answers to one party's calls among a sequence of everyone's. -/
def told (call : α → σ → β × σ) (own : α → Bool) : List α → σ → List β
  | [], _ => []
  | a :: as, s =>
      if own a then (call a s).1 :: told call own as (call a s).2
      else told call own as (call a s).2

/-- Own calls see the part only, and others' calls leave it. -/
structure Isolates (call : α → σ → β × σ) (own : α → Bool) (part : σ → σ) (C : α → σ → Prop)
    (I : σ → Prop) : Prop where
  kept : ∀ a s, C a s → I s → I (call a s).2
  alone : ∀ a s, C a s → I s → own a = true →
    call a (part s) = ((call a s).1, part (call a s).2)
  others : ∀ a s, C a s → I s → own a = false → part (call a s).2 = part s

/-- **Purging.**  The answers to one party's calls, and its part of the state at the end, are
those of its calls alone on its part alone. -/
theorem Isolates.purge (isolates : Isolates call own part C I) :
    ∀ {as : List α} {s : σ}, I s → Along (calls call) C as s →
      told call own as s = answers call (as.filter own) (part s) ∧
        part (after call as s) = after call (as.filter own) (part s)
  | [], _, _, _ => ⟨rfl, rfl⟩
  | a :: as, s, holds, along => by
      obtain ⟨answered, left⟩ :=
        isolates.purge (isolates.kept a s along.1 holds) (along.2 _ rfl)
      cases mine : own a with
      | true =>
          have alone := isolates.alone a s along.1 holds mine
          simp only [told, after, mine, if_true, List.filter_cons_of_pos, answers, alone]
          exact ⟨congrArg _ answered, left⟩
      | false =>
          have same := isolates.others a s along.1 holds mine
          rw [same] at answered left
          simpa [told, after, mine] using ⟨answered, left⟩

end Machine

/-! ## Processes -/

section Processes

variable {ι ε σ κ π β : Type}

/-- A store, and the stage that each process of a request has come to. -/
@[ext] structure Shared (σ κ π : Type) where
  store : σ
  procs : κ → Option π

/-- A request arrives, or its process runs its next transaction. -/
inductive Turn (κ π : Type) where
  | arrive (key : κ) (p : π)
  | go (key : κ)

def Turn.key : Turn κ π → κ
  | .arrive key _ | .go key => key

/-- The transaction of each stage, which answers the request or leads to the next stage; whose
a stage is; and whose processes run under a key. -/
structure Server (ι ε σ κ π β : Type) where
  sharing : Sharing ι σ
  piece : π → Tx ε σ (β ⊕ π)
  owner : π → ι
  holder : κ → ι

variable [DecidableEq κ]

def Shared.become (s : Shared σ κ π) (key : κ) (store : σ) (p : Option π) : Shared σ κ π where
  store := store
  procs key' := if key' = key then p else s.procs key'

/-- What a transaction that has run comes to: an answer, or the next stage.  One that aborts
leaves nothing and ends its request. -/
def Shared.finish (s : Shared σ κ π) (key : κ) :
    Except ε ((β ⊕ π) × σ) → Option (Except ε β) × Shared σ κ π
  | .ok (.inl answer, t) => (some (.ok answer), s.become key t none)
  | .ok (.inr q, t) => (none, s.become key t (some q))
  | .error e => (some (.error e), s.become key s.store none)

namespace Server

variable (server : Server ι ε σ κ π β)

/-- One turn, with the answer it gives, if it ends a request. -/
def turn : Turn κ π → Shared σ κ π → Option (Except ε β) × Shared σ κ π
  | .arrive key p, s =>
      match s.procs key with
      | none => (none, s.become key s.store (some p))
      | some _ => (none, s)
  | .go key, s =>
      match s.procs key with
      | none => (none, s)
      | some p => s.finish key (server.piece p s.store)

section Turns

variable {server} {s : Shared σ κ π} {key : κ}

theorem turn_arrives (idle : s.procs key = none) (p : π) :
    server.turn (.arrive key p) s = (none, s.become key s.store (some p)) := by
  simp only [turn, idle]

theorem turn_busy {q : π} (busy : s.procs key = some q) (p : π) :
    server.turn (.arrive key p) s = (none, s) := by
  simp only [turn, busy]

theorem turn_idle (idle : s.procs key = none) : server.turn (.go key) s = (none, s) := by
  simp only [turn, idle]

theorem turn_goes {p : π} (here : s.procs key = some p) :
    server.turn (.go key) s = s.finish key (server.piece p s.store) := by
  simp only [turn, here]

end Turns

variable [DecidableEq ι]

/-- A party's part of the store, and its processes. -/
def part (i : ι) (s : Shared σ κ π) : Shared σ κ π where
  store := server.sharing.part i s.store
  procs key := if server.holder key = i then s.procs key else none

/-- The turns of one party. -/
def own (i : ι) (t : Turn κ π) : Bool := decide (server.holder t.key = i)

/-- What each stage relies on of the store is there and stays there, `Fresh` is what is asked
of a store where a stage runs, and every transaction is confined to its party. -/
structure Confining (I : σ → Prop) (Relies Fresh : π → σ → Prop) : Prop where
  confined : ∀ p, Confined server.sharing (server.owner p)
    (fun s => I s ∧ Relies p s ∧ Fresh p s)
    (fun r s => I s ∧ ∀ q, r = .inr q → server.owner q = server.owner p ∧ Relies q s)
    (server.piece p)
  stable : ∀ p q s r s', I s → Relies p s → Fresh p s → server.piece p s = .ok (r, s') →
    Relies q s → Relies q s'

/-- The turns of `i` and of parties apart from it, each in its own name. -/
def Among (i : ι) (Relies Fresh : π → σ → Prop) (t : Turn κ π) (s : Shared σ κ π) : Prop :=
  (server.holder t.key = i ∨ server.sharing.apart (server.holder t.key) i) ∧
    match t with
    | .arrive key p => server.owner p = server.holder key ∧ Relies p s.store
    | .go key => ∀ p, s.procs key = some p → Fresh p s.store

/-- Every process runs in its holder's name, and what it relies on is there. -/
def Standing (I : σ → Prop) (Relies : π → σ → Prop) (s : Shared σ κ π) : Prop :=
  I s.store ∧ ∀ key p, s.procs key = some p → server.owner p = server.holder key ∧ Relies p s.store

variable {server} {i : ι} {I : σ → Prop} {Relies Fresh : π → σ → Prop}

omit [DecidableEq κ] in
theorem part_own {key : κ} (own : server.holder key = i) (s : Shared σ κ π) :
    (server.part i s).procs key = s.procs key := if_pos own

theorem part_become_own {key : κ} (own : server.holder key = i) (s : Shared σ κ π) (store : σ)
    (p : Option π) : server.part i (s.become key store p) =
      (server.part i s).become key (server.sharing.part i store) p := by
  ext1
  · rfl
  · funext key'
    simp only [part, Shared.become]
    by_cases same : key' = key
    · subst same
      rw [if_pos own, if_pos rfl, if_pos rfl]
    · rw [if_neg same, if_neg same]

theorem part_become_other {key : κ} (other : server.holder key ≠ i) (s : Shared σ κ π) {store : σ}
    (same : server.sharing.part i store = server.sharing.part i s.store) (p : Option π) :
    server.part i (s.become key store p) = server.part i s := by
  ext1
  · exact same
  · funext key'
    simp only [part, Shared.become]
    by_cases here : key' = key
    · subst here
      rw [if_neg other, if_neg other]
    · rw [if_neg here]

theorem part_finish_own {key : κ} (own : server.holder key = i) (s : Shared σ κ π)
    (r : Except ε ((β ⊕ π) × σ)) :
    (server.part i s).finish key (r.map fun r => (r.1, server.sharing.part i r.2)) =
      ((s.finish key r).1, server.part i (s.finish key r).2) := by
  rcases r with e | ⟨answer | q, t⟩
  · exact Prod.ext rfl (part_become_own own s s.store none).symm
  · exact Prod.ext rfl (part_become_own own s t none).symm
  · exact Prod.ext rfl (part_become_own own s t (some q)).symm

theorem part_finish_other {key : κ} (other : server.holder key ≠ i) (s : Shared σ κ π)
    {r : Except ε ((β ⊕ π) × σ)}
    (same : ∀ a t, r = .ok (a, t) → server.sharing.part i t = server.sharing.part i s.store) :
    server.part i (s.finish key r).2 = server.part i s := by
  rcases r with e | ⟨answer | q, t⟩
  · exact part_become_other other s rfl none
  · exact part_become_other other s (same _ t rfl) none
  · exact part_become_other other s (same _ t rfl) (some q)

omit [DecidableEq ι] in
/-- The process under a key may change as the store does, so long as it has what it relies on. -/
theorem Standing.become {s : Shared σ κ π} {key : κ} {store : σ} {p : Option π}
    (standing : server.Standing I Relies s) (inv : I store)
    (still : ∀ q, Relies q s.store → Relies q store)
    (mine : ∀ q, p = some q → server.owner q = server.holder key ∧ Relies q store) :
    server.Standing I Relies (s.become key store p) := by
  refine ⟨inv, fun key' q here => ?_⟩
  simp only [Shared.become] at here
  split_ifs at here with same
  · exact same ▸ mine q here
  · obtain ⟨named, relied⟩ := standing.2 key' q here
    exact ⟨named, still q relied⟩

omit [DecidableEq ι] in
/-- A turn keeps what every process relies on. -/
theorem Confining.standing (confining : server.Confining I Relies Fresh) {i : ι} {t : Turn κ π}
    {s : Shared σ κ π} (among : server.Among i Relies Fresh t s)
    (standing : server.Standing I Relies s) : server.Standing I Relies (server.turn t s).2 := by
  cases t with
  | arrive key p =>
      cases here : s.procs key with
      | some q =>
          rw [turn_busy here]
          exact standing
      | none =>
          rw [turn_arrives here]
          refine standing.become standing.1 (fun _ relied => relied) fun q same => ?_
          cases same
          exact among.2
  | go key =>
      cases here : s.procs key with
      | none =>
          rw [turn_idle here]
          exact standing
      | some p =>
          obtain ⟨named, relied⟩ := standing.2 key p here
          have fresh := among.2 p here
          rw [turn_goes here]
          rcases ran : server.piece p s.store with e | ⟨r, t⟩
          · exact standing.become standing.1 (fun _ relied => relied) fun q same => by cases same
          · obtain ⟨⟨inv, next⟩, -⟩ :=
              (confining.confined p).kept s.store r t ⟨standing.1, relied, fresh⟩ ran
            have still : ∀ q, Relies q s.store → Relies q t := fun q =>
              confining.stable p q s.store r t standing.1 relied fresh ran
            rcases r with answer | q
            · exact standing.become inv still fun q same => by cases same
            · refine standing.become inv still fun q' same => ?_
              cases same
              exact ⟨(next q rfl).1.trans named, (next q rfl).2⟩

/-- **One turn.**  A party's own goes as on its part alone, and the turn of a party apart from
it leaves its part as it was. -/
theorem Confining.isolates (confining : server.Confining I Relies Fresh) (i : ι) :
    Isolates server.turn (server.own i) (server.part i) (server.Among i Relies Fresh)
      (server.Standing I Relies) where
  kept _ _ among standing := confining.standing among standing
  alone t s among standing mine := by
    cases t with
    | arrive key p =>
        have own : server.holder key = i := of_decide_eq_true mine
        have seen := part_own own s
        cases here : s.procs key with
        | some q =>
            rw [turn_busy here, turn_busy (seen.trans here)]
        | none =>
            rw [turn_arrives here, turn_arrives (seen.trans here)]
            exact Prod.ext rfl (part_become_own own s s.store (some p)).symm
    | go key =>
        have own : server.holder key = i := of_decide_eq_true mine
        have seen := part_own own s
        cases here : s.procs key with
        | none =>
            rw [turn_idle here, turn_idle (seen.trans here)]
        | some p =>
            obtain ⟨named, relied⟩ := standing.2 key p here
            have alone :=
              (confining.confined p).alone s.store ⟨standing.1, relied, among.2 p here⟩
            rw [named.trans own] at alone
            rw [turn_goes here, turn_goes (seen.trans here), part, alone]
            exact part_finish_own own s _
  others t s among standing theirs := by
    have other : server.holder t.key ≠ i := of_decide_eq_false theirs
    cases t with
    | arrive key p =>
        cases here : s.procs key with
        | some q => rw [turn_busy here]
        | none =>
            rw [turn_arrives here]
            exact part_become_other other s rfl (some p)
    | go key =>
        cases here : s.procs key with
        | none => rw [turn_idle here]
        | some p =>
            obtain ⟨named, relied⟩ := standing.2 key p here
            rw [turn_goes here]
            refine part_finish_other other s fun a t ran => ?_
            obtain ⟨-, same⟩ :=
              (confining.confined p).kept s.store a t ⟨standing.1, relied, among.2 p here⟩ ran
            exact same i (named ▸ among.1.resolve_left other)

/-- **What a party is told.**  Two systems that agree on its part, and two runs in which it
takes the same turns, whatever the parties apart from it do in between: it gets the same
answers, and its part ends the same. -/
theorem Confining.told_alike (confining : server.Confining I Relies Fresh)
    {s t : Shared σ κ π} {as bs : List (Turn κ π)} (standing : server.Standing I Relies s)
    (standing' : server.Standing I Relies t)
    (along : Along (calls server.turn) (server.Among i Relies Fresh) as s)
    (along' : Along (calls server.turn) (server.Among i Relies Fresh) bs t)
    (agree : server.part i s = server.part i t)
    (same : as.filter (server.own i) = bs.filter (server.own i)) :
    told server.turn (server.own i) as s = told server.turn (server.own i) bs t ∧
      server.part i (after server.turn as s) = server.part i (after server.turn bs t) := by
  obtain ⟨answered, left⟩ := (confining.isolates i).purge standing along
  obtain ⟨answered', left'⟩ := (confining.isolates i).purge standing' along'
  rw [agree, same] at answered left
  exact ⟨answered.trans answered'.symm, left.trans left'.symm⟩

end Server

end Processes

end Atrium.Base
