/-
  Tfplenum.Models.Fields

  The marshmallow fields the schemas of the backend are declared with, over JSON
  values: how each reads a raw value and the message it refuses one with.  What a
  field writes, it reads back (`Str.deserialize_str` and its siblings), which is
  all a stored document needs to be loaded again.
-/

import Tfplenum.Json
import Tfplenum.Lib.IPv4
import Tfplenum.Lib.Pattern
import Tfplenum.Lib.PythonInt
import Tfplenum.Lib.Schema

namespace Tfplenum.Fields

open Lib

/-- `value is None` -/
def isNull : Json → Bool
  | .null => true
  | _ => false

/-! ## Strings -/

def Str.deserialize : Json → Except String String
  | .str s => .ok s
  | _ => .error "Not a valid string."

/-- `validate.OneOf(choices)` -/
def oneOf (choices : List String) (s : String) : List String :=
  if s ∈ choices then [] else ["Must be one of: " ++ ", ".intercalate choices ++ "."]

/-- No check beyond the type. -/
def unchecked {α : Type} : α → List String := fun _ => []

/-! ## Addresses -/

/-- `ipaddress.IPv4Address(str(value))`; only a string can read as an address. -/
def IPv4.deserialize : Json → Except String IPv4Address
  | .str s =>
      match IPv4Address.parse s with
      | some ip => .ok ip
      | none => .error "Not a valid IPv4 address."
  | _ => .error "Not a valid IPv4 address."

/-! ## Booleans -/

def Bool.truthy : List String :=
  ["t", "T", "true", "True", "TRUE", "on", "On", "ON", "y", "Y", "yes", "Yes", "YES", "1"]

def Bool.falsy : List String :=
  ["f", "F", "false", "False", "FALSE", "off", "Off", "OFF", "n", "N", "no", "No", "NO", "0"]

/-- The value among those that count as true or false, if it is one. -/
def Bool.recognize : Json → Option Bool
  | .bool b => some b
  | .num n => if n = 1 then some true else if n = 0 then some false else none
  | .str s => if s ∈ Bool.truthy then some true else if s ∈ Bool.falsy then some false else none
  | _ => none

def Bool.deserialize (value : Json) : Except String Bool :=
  match Bool.recognize value with
  | some b => .ok b
  | none => .error "Not a valid boolean."

/-- `_serialize`: what is neither true nor false by name is taken by its truth
    value, and a list or an object cannot be looked up in the two sets. -/
def Bool.serialize : Json → Except PyError (Option Bool)
  | .null => .ok none
  | .arr _ => .error (.typeError "unhashable type: 'list'")
  | .obj _ => .error (.typeError "unhashable type: 'dict'")
  | value =>
      match Bool.recognize value with
      | some b => .ok (some b)
      | none => .ok (some value.truthy)

/-! ## Integers -/

/-- `int(text)`, for text in ASCII. -/
def Integer.ofText (text : String) : Option Int :=
  PythonInt.ofAscii text.toList

def Integer.deserialize : Json → Except String Int
  | .num n => .ok n
  | .str s =>
      match Integer.ofText s with
      | some n => .ok n
      | none => .error "Not a valid integer."
  | _ => .error "Not a valid integer."

/-! ## Mappings -/

def Dict.deserialize : Json → Except String (List (String × Json))
  | .obj fields => .ok fields
  | _ => .error "Not a valid mapping type."

/-! ## What is written is read back -/

/-- The JSON of a value that may be `None`. -/
def ofOption {α : Type} (toJson : α → Json) : Option α → Json
  | none => .null
  | some a => toJson a

@[simp] theorem Str.deserialize_str (s : String) : Str.deserialize (.str s) = .ok s := rfl

@[simp] theorem IPv4.deserialize_print (ip : IPv4Address) :
    IPv4.deserialize (.str ip.print) = .ok ip := by
  simp only [IPv4.deserialize, IPv4Address.parse_print]

@[simp] theorem Bool.deserialize_bool (b : Bool) : Bool.deserialize (.bool b) = .ok b := rfl
@[simp] theorem Integer.deserialize_num (n : Int) : Integer.deserialize (.num n) = .ok n := rfl
@[simp] theorem Dict.deserialize_obj (fields : List (String × Json)) :
    Dict.deserialize (.obj fields) = .ok fields := rfl

/-- A nullable field loads what was written for it. -/
theorem load_ofOption {α : Type} {f : Field Json α} {toJson : α → Json} {a : Option α}
    {data : List (String × Json)} (hdata : data.lookup f.name = some (ofOption toJson a))
    (hnone : f.allowNone = true) (hnull : ∀ a, isNull (toJson a) = false)
    (hread : ∀ a, f.deserialize (toJson a) = .ok a) (hcheck : ∀ b ∈ a, f.check b = []) :
    f.load isNull data = .ofOption a := by
  cases a with
  | none => exact Field.load_eq_null hdata rfl hnone
  | some a => exact Field.load_eq_value hdata (hnull a) (hread a) (hcheck a rfl)

end Tfplenum.Fields
