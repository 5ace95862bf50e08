/-
# Json -- the values a webhook body and a jsonb column hold

`JSON.parse` returns one of these.  A key that stands twice keeps its last
value, as the parser has it.
-/
import Mathlib

namespace Atrium

set_option autoImplicit false

inductive Json where
  | null
  | bool (b : Bool)
  | num (q : ℚ)
  | str (s : String)
  | arr (items : List Json)
  | obj (members : List (String × Json))

namespace Json

/-- A member of a value, `none` where it is `undefined`.  Reading one of `null`
throws; the code's readers rule it out first. -/
def get? (field : String) : Json → Option Json
  | .obj members => (members.reverse.find? fun entry => entry.1 = field).map Prod.snd
  | _ => none

/-- A non-empty string, as `asString` reads one. -/
def asString : Option Json → Option String
  | some (.str s) => if s = "" then none else some s
  | _ => none

/-- `BigInt(Math.round(x))` for a number, `none` for anything else. -/
def asRounded : Option Json → Option Int
  | some (.num q) => some ⌊q + 1 / 2⌋
  | _ => none

end Json

end Atrium
