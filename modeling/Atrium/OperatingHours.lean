/-
# OperatingHours -- a venue's opening hours, in its own wall clock

Rules about a booking's time are statements about the venue's local clock.  A `Zone`
is what the runtime's time zone data says: the wall-clock reading at each instant.
`fromLocalParts` inverts it by correcting a guess, and a day's window is computed from
the stored hours in that zone.
-/
import Atrium.Calendar

namespace Atrium

set_option autoImplicit false

/-! ## Wall clocks -/

inductive Weekday where
  | sun
  | mon
  | tue
  | wed
  | thu
  | fri
  | sat
  deriving DecidableEq, Repr

structure LocalParts where
  year : Int
  month : Int
  day : Int
  hour : Int
  minute : Int
  second : Int
  weekday : Weekday

/-- `Intl.DateTimeFormat` of one time zone. -/
abbrev Zone := Instant → LocalParts

/-- The reading of UTC; 1970-01-01 was a Thursday. -/
def utcZone : Zone := fun t =>
  let date := civilOf (t / 86400000)
  let ms := t % 86400000
  { year := date.year
    month := date.month
    day := date.day
    hour := ms / 3600000
    minute := ms / 60000 % 60
    second := ms / 1000 % 60
    weekday := match (t / 86400000 % 7).toNat with
      | 0 => .thu
      | 1 => .fri
      | 2 => .sat
      | 3 => .sun
      | 4 => .mon
      | 5 => .tue
      | _ => .wed }

/-- `Date.UTC(year, month - 1, day, hour, minute, second)`, which takes a year below 100
for one of the twentieth century. -/
def dateUTC (year month day hour minute second : Int) : Instant :=
  utcInstant (if 0 ≤ year ∧ year ≤ 99 then 1900 + year else year) month day hour minute second

def toLocalParts (zone : Zone) (instant : Instant) : LocalParts :=
  let parts := zone instant
  { parts with hour := parts.hour % 24 }

/-- What to add to UTC to get the local clock at `instant`, in whole seconds. -/
def zoneOffsetMs (zone : Zone) (instant : Instant) : Int :=
  let p := toLocalParts zone instant
  dateUTC p.year p.month p.day p.hour p.minute p.second - instant / 1000 * 1000

/-- The corrections of a guess, until it stands or `n` of them are made. -/
def correctOffset (zone : Zone) (target : Instant) : Nat → Instant → Instant
  | 0, utc => utc
  | n + 1, utc =>
      let next := target - zoneOffsetMs zone utc
      if next = utc then utc else correctOffset zone target n next

/-- The instant a wall clock of the zone reads this. -/
def fromLocalParts (zone : Zone) (year month day hour minute : Int) : Instant :=
  let target := dateUTC year month day hour minute 0
  correctOffset zone target 3 target

/-- `"09:30"` to minutes past local midnight; `"24:00"` is the end of the day. -/
def parseClock (value : String) : Option Int :=
  match value.toList with
  | [h, h', ':', m, m'] =>
      if h.isDigit ∧ h'.isDigit ∧ m.isDigit ∧ m'.isDigit then
        let hours := Nat.ofDigitChars 10 [h, h'] 0
        let minutes := Nat.ofDigitChars 10 [m, m'] 0
        if 59 < minutes ∨ 24 < hours ∨ (hours = 24 ∧ minutes ≠ 0) then none
        else some (hours * 60 + minutes : Nat)
      else none
  | _ => none

/-! ## Stored hours -/

structure DayHours where
  opens : String
  closes : String

/-- Per weekday, `none` where the venue is closed. -/
structure OperatingHours where
  sun : Option DayHours
  mon : Option DayHours
  tue : Option DayHours
  wed : Option DayHours
  thu : Option DayHours
  fri : Option DayHours
  sat : Option DayHours

def OperatingHours.on (hours : OperatingHours) : Weekday → Option DayHours
  | .sun => hours.sun
  | .mon => hours.mon
  | .tue => hours.tue
  | .wed => hours.wed
  | .thu => hours.thu
  | .fri => hours.fri
  | .sat => hours.sat

/-- `DayHoursSchema`. -/
def dayHours : Json → Option (Option DayHours)
  | .null => some none
  | j =>
      match j.get? "open", j.get? "close" with
      | some (.str opens), some (.str closes) => some (some ⟨opens, closes⟩)
      | _, _ => none

/-- `OperatingHoursSchema`; `none` is a blob it refuses. -/
def parseOperatingHours (raw : Json) : Option OperatingHours := do
  let sun ← raw.get? "sun" >>= dayHours
  let mon ← raw.get? "mon" >>= dayHours
  let tue ← raw.get? "tue" >>= dayHours
  let wed ← raw.get? "wed" >>= dayHours
  let thu ← raw.get? "thu" >>= dayHours
  let fri ← raw.get? "fri" >>= dayHours
  let sat ← raw.get? "sat" >>= dayHours
  pure ⟨sun, mon, tue, wed, thu, fri, sat⟩

/-! ## Windows -/

structure OpenWindow where
  opensAt : Instant
  closesAt : Instant

def addMinutes (instant : Instant) (minutes : Int) : Instant := instant + minutes * 60000

/-- The local date after this one, stepped from noon. -/
def nextLocalDay (zone : Zone) (year month day : Int) : CivilDate :=
  let p := toLocalParts zone (addMinutes (fromLocalParts zone year month day 12 0) (24 * 60))
  ⟨p.year, p.month, p.day⟩

def windowForLocalDate (hours : OperatingHours) (zone : Zone) (year month day : Int)
    (weekday : Weekday) : Option OpenWindow := do
  let spec ← hours.on weekday
  let openMinutes ← parseClock spec.opens
  let closeMinutes ← parseClock spec.closes
  let opensAt := fromLocalParts zone year month day (openMinutes / 60) (openMinutes % 60)
  let crossesMidnight := decide (closeMinutes ≤ openMinutes)
  let closeAnchor : CivilDate :=
    if crossesMidnight then nextLocalDay zone year month day else ⟨year, month, day⟩
  let closesAt := fromLocalParts zone closeAnchor.year closeAnchor.month closeAnchor.day
    (closeMinutes / 60 % 24) (closeMinutes % 60)
  if crossesMidnight = false ∧ closesAt ≤ opensAt then
    -- A close at 24:00 lands on hour 0 of the same day.
    let next := nextLocalDay zone year month day
    pure ⟨opensAt, fromLocalParts zone next.year next.month next.day 0 0⟩
  else pure ⟨opensAt, closesAt⟩

/-- The window of the local day `dayAnchor` falls on. -/
def windowForLocalDay (hours : OperatingHours) (zone : Zone) (dayAnchor : Instant) :
    Option OpenWindow :=
  let p := toLocalParts zone dayAnchor
  windowForLocalDate hours zone p.year p.month p.day p.weekday

/-- Is the period inside the window it starts in, or the one opened the day before? -/
def isWithinOperatingHours (hours : OperatingHours) (zone : Zone) (startsAt endsAt : Instant) :
    Bool :=
  [windowForLocalDay hours zone startsAt,
    windowForLocalDay hours zone (addMinutes startsAt (-24 * 60))].any fun candidate =>
      candidate.any fun w => decide (w.opensAt ≤ startsAt ∧ endsAt ≤ w.closesAt)

/-! ## Every window of a range -/

/-- `year * 10000 + month * 100 + day`. -/
def LocalParts.dateKey (p : LocalParts) : Int := p.year * 10000 + p.month * 100 + p.day

/-- The local noon of the day after the one `cursor` reads. -/
def nextCursor (zone : Zone) (cursor : LocalParts) : LocalParts :=
  let next := nextLocalDay zone cursor.year cursor.month cursor.day
  toLocalParts zone (fromLocalParts zone next.year next.month next.day 12 0)

/-- The days the walk visits: from `cursor` up to the day of `stopKey`, at most so many. -/
def localDays (zone : Zone) (stopKey : Int) : Nat → LocalParts → List LocalParts
  | 0, _ => []
  | n + 1, cursor =>
      if stopKey < cursor.dateKey then []
      else cursor :: localDays zone stopKey n (nextCursor zone cursor)

def byOpening (v w : OpenWindow) : Prop := v.opensAt ≤ w.opensAt

instance : DecidableRel byOpening := fun _ _ => inferInstanceAs (Decidable (_ ≤ _))

/-- Every open window overlapping `[source, target)`, in order: the local calendar is
walked from a day before to a day after. -/
def openWindowsBetween (hours : OperatingHours) (zone : Zone) (source target : Instant) :
    List OpenWindow :=
  let first := toLocalParts zone (addMinutes source (-24 * 60))
  let last := toLocalParts zone (addMinutes target (24 * 60))
  let windows := (localDays zone last.dateKey 800 first).filterMap fun p =>
    (windowForLocalDate hours zone p.year p.month p.day p.weekday).filter fun w =>
      decide (source < w.closesAt ∧ w.opensAt < target)
  windows.insertionSort byOpening

example : isWithinOperatingHours ⟨none, none, none, none, some ⟨"18:00", "02:00"⟩, none, none⟩
    utcZone (1 * 3600000 + 86400000) (2 * 3600000 + 86400000) = true := by decide

end Atrium
