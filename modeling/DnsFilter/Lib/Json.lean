import Mathlib.Algebra.Group.Int.Defs
import Mathlib.Algebra.Group.Nat.Defs

/-!
# JSON values

A parsed JSON document as a program sees it: the value tree with its accessors, each of which gives
nothing on a value of another kind. Integers keep their value; any other number is kept as text.
-/

namespace DnsFilter

inductive Json
  | null
  | bool (value : Bool)
  | int (value : Int)
  | float (text : String)
  | string (value : String)
  | array (items : List Json)
  | object (fields : List (String × Json))

namespace Json

/-- The field of an object. -/
def get (key : String) : Json → Option Json
  | object fields => fields.lookup key
  | _ => none

def asStr : Json → Option String
  | string value => some value
  | _ => none

/-- An integer from `0` to `2 ^ 64 - 1`. -/
def asU64 : Json → Option Nat
  | int value => if 0 ≤ value ∧ value < 2 ^ 64 then some value.toNat else none
  | _ => none

/-- An integer from `-2 ^ 63` to `2 ^ 63 - 1`. -/
def asI64 : Json → Option Int
  | int value => if -2 ^ 63 ≤ value ∧ value < 2 ^ 63 then some value else none
  | _ => none

def asArray : Json → Option (List Json)
  | array items => some items
  | _ => none

end Json

end DnsFilter
