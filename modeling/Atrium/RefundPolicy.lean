/-
# RefundPolicy -- cancellation policy as data

Tiers are stored as json and read back through `tiersSchema`, which refuses a
ladder that is not total: strictly descending and ending at zero hours.  A
`Tiers` carries that as a field, so `computeRefund` always finds its tier
(`selectTier_total`).  What is frozen onto a booking at confirmation reads back
as itself (`parseSnapshot_toJson`).
-/
import Atrium.Base.Binary64
import Atrium.Schema

namespace Atrium

open Atrium.Base

set_option autoImplicit false

/-! ## Tiers -/

structure Tier where
  minHoursBefore : ℚ
  roomRefundPct : Int
  equipmentRefundPct : Int
  deriving DecidableEq

namespace Tier

def wellFormed (t : Tier) : Bool :=
  decide (0 ≤ t.minHoursBefore ∧ 0 ≤ t.roomRefundPct ∧ t.roomRefundPct ≤ 100 ∧
    0 ≤ t.equipmentRefundPct ∧ t.equipmentRefundPct ≤ 100)

def toJson (t : Tier) : Json :=
  .obj [("min_hours_before", .num t.minHoursBefore), ("room_refund_pct", .num t.roomRefundPct),
    ("equipment_refund_pct", .num t.equipmentRefundPct)]

/-- `TierSchema`: numbers, the two percentages whole and between 0 and 100. -/
def ofJson (j : Json) : Option Tier :=
  match j.get? "min_hours_before", j.get? "room_refund_pct", j.get? "equipment_refund_pct" with
  | some (.num hours), some (.num room), some (.num equipment) =>
      let t : Tier := ⟨hours, room.num, equipment.num⟩
      if room.den = 1 ∧ equipment.den = 1 ∧ t.wellFormed then some t else none
  | _, _, _ => none

end Tier

/-- A ladder that matches every lead time: well-formed tiers, strictly
descending, the last one at zero hours. -/
def ladder (ts : List Tier) : Bool :=
  ts.all Tier.wellFormed && decide (ts.IsChain fun a b => b.minHoursBefore < a.minHoursBefore) &&
    decide (ts.getLast?.map Tier.minHoursBefore = some 0)

/-- A policy that passed `TiersSchema`. -/
structure Tiers where
  list : List Tier
  isLadder : ladder list = true

def readTiers : List Json → Option (List Tier)
  | [] => some []
  | j :: js =>
      match Tier.ofJson j, readTiers js with
      | some t, some ts => some (t :: ts)
      | _, _ => none

namespace Tiers

/-- `TiersSchema`, of all but an array without tiers, on which it throws (`noLastTier`). -/
def ofJson : Json → Option Tiers
  | .arr items =>
      match readTiers items with
      | some ts => if h : ladder ts = true then some ⟨ts, h⟩ else none
      | none => none
  | _ => none

def toJson (tiers : Tiers) : Json := .arr (tiers.list.map Tier.toJson)

end Tiers

/-! ## The snapshot -/

inductive ResolvedFrom where
  | venue
  | platform
  deriving DecidableEq

structure PolicySnapshot where
  tiers : Tiers
  policyId : String
  resolvedFrom : ResolvedFrom
  snapshotAt : String

def ResolvedFrom.label : ResolvedFrom → String
  | .venue => "venue"
  | .platform => "platform"

def ResolvedFrom.ofLabel (s : String) : Option ResolvedFrom :=
  if s = "venue" then some .venue else if s = "platform" then some .platform else none

def PolicySnapshot.toJson (s : PolicySnapshot) : Json :=
  .obj [("tiers", s.tiers.toJson), ("policy_id", .str s.policyId),
    ("resolved_from", .str s.resolvedFrom.label), ("snapshot_at", .str s.snapshotAt)]

/-- What `TiersSchema` throws on an array without tiers: its last refinement reads the last
tier, and runs although `min(1)` has failed. -/
def noLastTier : String := "TypeError: min_hours_before"

def Json.isEmpty : Json → Bool
  | .arr items => items.isEmpty
  | _ => false

/-- `parseSnapshot`: what `PolicySnapshotSchema` accepts, `none` otherwise; where
`snapshotThrows`, there is no answer. -/
def parseSnapshot (value : Option Json) : Option PolicySnapshot := do
  let j ← value
  let tiers ← j.get? "tiers" >>= Tiers.ofJson
  match j.get? "policy_id", j.get? "resolved_from", j.get? "snapshot_at" with
  | some (.str policyId), some (.str source), some (.str snapshotAt) =>
      let resolvedFrom ← ResolvedFrom.ofLabel source
      some ⟨tiers, policyId, resolvedFrom, snapshotAt⟩
  | _, _, _ => none

def snapshotThrows (value : Option Json) : Bool :=
  (value.bind (·.get? "tiers")).any Json.isEmpty

/-! ## The refund -/

/-- The first tier whose threshold the lead time clears. -/
def selectTier (tiers : List Tier) (hoursBefore : ℚ) : Option Tier :=
  tiers.find? fun t => decide (t.minHoursBefore ≤ hoursBefore)

structure RefundBreakdown where
  hoursBefore : ℚ
  tier : Tier
  roomRefundMinor : Minor
  equipmentRefundMinor : Minor
  totalRefundMinor : Minor
  deriving DecidableEq

/-- The lead time in hours, as a double, never below zero. -/
def hoursBefore (startsAt now : Instant) : ℚ :=
  max 0 (Binary64.round ((startsAt - now : ℚ) / 3600000))

/-- What a cancellation is worth; the error is a policy without a tier for it. -/
def computeRefund (roomMinor equipmentMinor : Minor) (tiers : List Tier) (startsAt now : Instant) :
    Except ApiError RefundBreakdown :=
  match selectTier tiers (hoursBefore startsAt now) with
  | some tier =>
      let room := (roomMinor * tier.roomRefundPct).tdiv 100
      let equipment := (equipmentMinor * tier.equipmentRefundPct).tdiv 100
      .ok ⟨hoursBefore startsAt now, tier, room, equipment, room + equipment⟩
  | none => .error (.internal "policy has no tier for the requested lead time")

/-! ## Parsing what was written -/

theorem Tier.ofJson_toJson {t : Tier} (formed : t.wellFormed = true) :
    Tier.ofJson t.toJson = some t := by
  obtain ⟨hours, room, equipment⟩ := t
  simp [Tier.ofJson, Tier.toJson, Json.get?, formed]

theorem readTiers_toJson {ts : List Tier} (formed : ts.all Tier.wellFormed = true) :
    readTiers (ts.map Tier.toJson) = some ts := by
  induction ts with
  | nil => rfl
  | cons t ts ih =>
      rw [List.all_cons, Bool.and_eq_true] at formed
      simp [readTiers, Tier.ofJson_toJson formed.1, ih formed.2]

theorem Tiers.ofJson_toJson (tiers : Tiers) : Tiers.ofJson tiers.toJson = some tiers := by
  obtain ⟨ts, isLadder⟩ := tiers
  have formed : ts.all Tier.wellFormed = true := by
    simp only [ladder, Bool.and_eq_true] at isLadder
    exact isLadder.1.1
  simp [Tiers.ofJson, Tiers.toJson, readTiers_toJson formed, isLadder]

theorem parseSnapshot_toJson (s : PolicySnapshot) : parseSnapshot (some s.toJson) = some s := by
  obtain ⟨tiers, policyId, resolvedFrom, snapshotAt⟩ := s
  cases resolvedFrom <;>
    simp [parseSnapshot, PolicySnapshot.toJson, Json.get?, Tiers.ofJson_toJson,
      ResolvedFrom.label, ResolvedFrom.ofLabel]

/-! ## Every lead time has a tier -/

theorem hoursBefore_nonneg (startsAt now : Instant) : 0 ≤ hoursBefore startsAt now :=
  le_max_left _ _

theorem selectTier_total (tiers : Tiers) {hours : ℚ} (nonneg : 0 ≤ hours) :
    ∃ t, selectTier tiers.list hours = some t := by
  obtain ⟨ts, isLadder⟩ := tiers
  simp only [ladder, Bool.and_eq_true, decide_eq_true_eq] at isLadder
  obtain ⟨t, last, zero⟩ := Option.map_eq_some_iff.mp isLadder.2
  have found : (ts.find? fun t => decide (t.minHoursBefore ≤ hours)).isSome := by
    rw [List.find?_isSome]
    exact ⟨t, List.mem_of_getLast? last, by simpa [zero] using nonneg⟩
  exact Option.isSome_iff_exists.mp found

end Atrium
