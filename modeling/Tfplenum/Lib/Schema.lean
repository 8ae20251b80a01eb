/-
  Tfplenum.Lib.Schema

  Loading a record from a dictionary field by field, all errors collected before
  any is reported.  A field says under which name it is found, whether it may be
  left out or null, how a raw value is read and which checks the value has to
  pass.  `Field.load_eq_value` is what a round trip needs: a raw value that is
  read as `a` and passes the checks of the field is loaded as `a`.
-/

import Mathlib.Data.List.Basic

namespace Tfplenum.Lib

/-- What loading one field found. -/
inductive Loaded (α : Type) where
  | missing
  | null
  | value (a : α)
  | invalid (messages : List String)
deriving DecidableEq

namespace Loaded

variable {α : Type}

def isInvalid : Loaded α → Bool
  | .invalid _ => true
  | _ => false

/-- The entry of the field in the error dictionary. -/
def errors (name : String) : Loaded α → List (String × List String)
  | .invalid messages => [(name, messages)]
  | _ => []

/-- The value of a keyword argument that is left out where the field is missing. -/
def getD (default : Option α) : Loaded α → Option α
  | .missing => default
  | .null => none
  | .value a => some a
  | .invalid _ => none

/-- The value of a keyword argument that cannot be null. -/
def valueD (default : α) : Loaded α → α
  | .value a => a
  | _ => default

/-- What is loaded for a value that may be null. -/
def ofOption : Option α → Loaded α
  | none => .null
  | some a => .value a

@[simp] theorem errors_missing (name : String) : (missing : Loaded α).errors name = [] := rfl
@[simp] theorem errors_null (name : String) : (null : Loaded α).errors name = [] := rfl
@[simp] theorem errors_value (name : String) (a : α) : (value a).errors name = [] := rfl
@[simp] theorem errors_invalid (name : String) (messages : List String) :
    (invalid messages : Loaded α).errors name = [(name, messages)] := rfl
@[simp] theorem getD_missing (default : Option α) :
    (missing : Loaded α).getD default = default := rfl
@[simp] theorem getD_null (default : Option α) : (null : Loaded α).getD default = none := rfl
@[simp] theorem getD_value (default : Option α) (a : α) : (value a).getD default = some a := rfl

@[simp] theorem valueD_missing (default : α) : (missing : Loaded α).valueD default = default := rfl
@[simp] theorem valueD_value (default a : α) : (value a).valueD default = a := rfl

@[simp] theorem errors_ofOption (name : String) (a : Option α) : (ofOption a).errors name = [] := by
  cases a <;> rfl
@[simp] theorem getD_ofOption (default a : Option α) : (ofOption a).getD default = a := by
  cases a <;> rfl

theorem errors_eq_nil_iff {name : String} {l : Loaded α} :
    l.errors name = [] ↔ l.isInvalid = false := by
  cases l <;> simp [isInvalid]

end Loaded

/-- A field of a schema over raw values `R`. -/
structure Field (R α : Type) where
  name : String
  required : Bool
  allowNone : Bool
  /-- Read a raw value, or say why it cannot be. -/
  deserialize : R → Except String α
  /-- The messages of the checks the value does not pass. -/
  check : α → List String

namespace Field

variable {R α : Type}

/-- Load the field from a dictionary. -/
def load (f : Field R α) (isNull : R → Bool) (data : List (String × R)) : Loaded α :=
  match data.lookup f.name with
  | none => if f.required then .invalid ["Missing data for required field."] else .missing
  | some r =>
      if isNull r then
        if f.allowNone then .null else .invalid ["Field may not be null."]
      else
        match f.deserialize r with
        | .error message => .invalid [message]
        | .ok a => if f.check a = [] then .value a else .invalid (f.check a)

section

variable {f : Field R α} {isNull : R → Bool} {data : List (String × R)}

/-- A raw value that reads as `a` is loaded as `a` where `a` passes the checks. -/
theorem load_eq_value {r : R} {a : α} (hr : data.lookup f.name = some r)
    (hnull : isNull r = false) (ha : f.deserialize r = .ok a) (hc : f.check a = []) :
    f.load isNull data = .value a := by
  simp only [load, hr, hnull, ha, hc, Bool.false_eq_true, if_false, if_true]

/-- A value that does not pass the checks is refused with their messages. -/
theorem load_eq_invalid {r : R} {a : α} (hr : data.lookup f.name = some r)
    (hnull : isNull r = false) (ha : f.deserialize r = .ok a) (hc : f.check a ≠ []) :
    f.load isNull data = .invalid (f.check a) := by
  simp only [load, hr, hnull, ha, hc, Bool.false_eq_true, if_false]

theorem load_eq_null {r : R} (hr : data.lookup f.name = some r) (hnull : isNull r = true)
    (hf : f.allowNone = true) : f.load isNull data = .null := by
  simp only [load, hr, hnull, hf, if_true]

theorem load_eq_missing (hr : data.lookup f.name = none) (hf : f.required = false) :
    f.load isNull data = .missing := by
  simp only [load, hr, hf, Bool.false_eq_true, if_false]

/-- What a loaded value is known to be. -/
theorem check_of_load_eq_value {a : α} (h : f.load isNull data = .value a) : f.check a = [] := by
  unfold load at h
  split at h
  · split at h <;> cases h
  · split at h
    · split at h <;> cases h
    · split at h
      · cases h
      · split at h
        · rename_i hc
          cases h
          exact hc
        · cases h

/-- A loaded value was read from the raw one. -/
theorem deserialize_of_load_eq_value {r : R} {a : α} (hr : data.lookup f.name = some r)
    (h : f.load isNull data = .value a) : f.deserialize r = .ok a := by
  simp only [load, hr] at h
  split at h
  · split at h <;> cases h
  · split at h
    · cases h
    · rename_i b hb
      split at h
      · cases h
        exact hb
      · cases h

/-- A required field that is loaded without an error has a value, or is null
    where that is allowed. -/
theorem exists_value_of_required (hreq : f.required = true) (hnone : f.allowNone = false)
    (h : (f.load isNull data).isInvalid = false) : ∃ a, f.load isNull data = .value a := by
  unfold load at h ⊢
  split at h
  · rw [if_pos hreq] at h
    cases h
  · split at h
    · rw [hnone] at h
      cases h
    · split at h
      · cases h
      · split at h
        · rename_i hnull _ a ha hc
          simp only [if_neg hnull, if_pos hc]
          exact ⟨a, rfl⟩
        · cases h

end

end Field

/-- The entries of a dictionary under names that are not among the fields. -/
def unknownFields {R : Type} (names : List String) (data : List (String × R)) :
    List (String × List String) :=
  (data.filter fun r => r.1 ∉ names).map fun r => (r.1, ["Unknown field."])

theorem unknownFields_eq_nil_iff {R : Type} {names : List String} {data : List (String × R)} :
    unknownFields names data = [] ↔ ∀ r ∈ data, r.1 ∈ names := by
  simp [unknownFields, List.filter_eq_nil_iff]

end Tfplenum.Lib
