/-
  Tfplenum.Json

  Request payloads as `request.get_json()` hands them out, with Python's
  subscripting and truth value.  Numbers are whole: the modelled code tells a
  number from the other types and from zero, no more.
-/

import Tfplenum.Common

namespace Tfplenum

/-- A JSON value; the keys of an object are those of a Python dictionary. -/
inductive Json where
  | null
  | bool (b : Bool)
  | num (n : Int)
  | str (s : String)
  | arr (items : List Json)
  | obj (fields : List (String × Json))

namespace Json

/-- `value[key]` for a string key. -/
def getItem : Json → String → Except PyError Json
  | .obj fields, key =>
      match fields.lookup key with
      | some value => .ok value
      | none => .error (.keyError key)
  | .arr _, _ => .error (.typeError "list indices must be integers or slices, not str")
  | .str _, _ => .error (.typeError "string indices must be integers")
  | _, _ => .error (.typeError "object is not subscriptable")

/-- `bool(value)`. -/
def truthy : Json → Bool
  | .null => false
  | .bool b => b
  | .num n => n ≠ 0
  | .str s => s ≠ ""
  | .arr items => !items.isEmpty
  | .obj fields => !fields.isEmpty

/-- `value == s`. -/
def isStr : Json → String → Bool
  | .str t, s => t = s
  | _, _ => false

/-- The operand of a string concatenation. -/
def toStr : Json → Except PyError String
  | .str s => .ok s
  | _ => .error (.typeError "can only concatenate str")

end Json

end Tfplenum
