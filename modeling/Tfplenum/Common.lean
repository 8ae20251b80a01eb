/-
  Tfplenum.Common

  What the modules of the backend share: the Python exceptions that decide
  control flow in the modelled code, the order of Python's sets, tests of texts,
  and the constants of `utils/constants.py` that the modelled functions read.
-/

import Mathlib.Data.List.Infix

namespace Tfplenum

/-- The exceptions the modelled code raises or catches. -/
inductive PyError where
  | keyError (key : String)
  | valueError (msg : String)
  | typeError (msg : String)
  | attributeError (msg : String)
  | indexError
  | unboundLocalError (name : String)
  | fileExistsError (path : String)
  | unicodeError
  /-- marshmallow's `ValidationError`, its messages by field -/
  | validationError (messages : List (String × List String))
  /-- `PostValidationError`, its messages by key -/
  | postValidationError (messages : List (String × List String))
  | duplicateKeyError
  | ruleSyncError (msg : String)
  | invalidRuleSyntax (lines : List String)
  | prohibitedExecFunc (msg : String)
  /-- the Kubernetes client's `ApiException` -/
  | apiException (status : Nat)
  /-- any other exception, by its type -/
  | other (type : String)
deriving DecidableEq, Repr

/-- The order in which the set of the strings of a list is iterated. -/
structure SetOrder where
  iterate : List String → List String
  nodup : ∀ l, (iterate l).Nodup
  mem_iff : ∀ l s, s ∈ iterate l ↔ s ∈ l

/-! ## Texts -/

/-- `part in text` -/
def hasSubstring (text part : String) : Bool :=
  text.toList.tails.any part.toList.isPrefixOf

theorem hasSubstring_iff {text part : String} :
    hasSubstring text part = true ↔ part.toList <:+: text.toList := by
  rw [hasSubstring, List.any_eq_true, List.infix_iff_prefix_suffix]
  constructor
  · rintro ⟨rest, hmem, hprefix⟩
    exact ⟨rest, List.isPrefixOf_iff_prefix.mp hprefix, (List.mem_tails _ _).mp hmem⟩
  · rintro ⟨rest, hprefix, hsuffix⟩
    exact ⟨rest, (List.mem_tails _ _).mpr hsuffix, List.isPrefixOf_iff_prefix.mpr hprefix⟩

/-- `[a-z]` -/
def isAsciiLower (c : Char) : Bool := 'a' ≤ c && c ≤ 'z'

/-! ## Roles -/

def operatorRole := "operator"
def controllerAdminRole := "controller-admin"
def controllerMaintainerRole := "controller-maintainer"
def realmAdminRole := "realm-admin"

def defaultRequiredRoles : List String :=
  [operatorRole, controllerAdminRole, controllerMaintainerRole, realmAdminRole]

end Tfplenum
