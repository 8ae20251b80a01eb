/-
  Tfplenum.PipelineImages.VersionHelper

  `changelog/version_helper.py`: version texts brought to four components, and the
  versions a changelog goes through on its way from one version to another.

  The `Version` class is that of the packaging library: its constructor is a
  parameter, and its comparison is any linear order.  The loop of
  `get_versions_within_range` runs on fuel; `advance_eq` says how much is enough.
-/

import Mathlib.Data.List.Basic
import Mathlib.Data.Prod.Lex
import Tfplenum.Common
import Tfplenum.Lib.IPv4
import Tfplenum.Lib.Unicode

namespace Tfplenum

open Lib

/-- A version as it is handed in: `Union[str, Version]` -/
inductive VersionArg (V : Type) where
  | text (version : List Char)
  | version (version : V)

section
variable {V : Type} (u : Unicode) (Version : List Char → Except PyError V)

/-- `str.isdigit` -/
def isdigit (cs : List Char) : Bool := !cs.isEmpty && cs.all u.isDigit

/-- The components of a version text, filled up with zeros to four if there are two or three -/
def fourComponents (components : List (List Char)) : List (List Char) :=
  if components.length = 2 then components ++ [['0'], ['0']]
  else if components.length = 3 then components ++ [['0']]
  else components

/-- `str_to_ver` -/
def strToVer : VersionArg V → Except PyError (Option V)
  | .version version => .ok (some version)
  | .text version =>
      let components := version.splitOn '.'
      if components.any fun component => !isdigit u component then .ok none
      else (Version (['.'].intercalate (fourComponents components))).map some

/-- Four numbers, which are compared one after the other. -/
abbrev FourNumbers : Type := ℕ ×ₗ ℕ ×ₗ ℕ ×ₗ ℕ

def fourNumbers (a b c d : ℕ) : FourNumbers := toLex (a, toLex (b, toLex (c, d)))

/-- `Version` on a text of four numbers -/
def numericVersion (version : List Char) : Except PyError FourNumbers :=
  match (version.splitOn '.').map IPv4Address.digitsValue with
  | [some a, some b, some c, some d] => .ok (fourNumbers a b c d)
  | _ => .error (.other "InvalidVersion")

end

section
variable {V : Type} [LinearOrder V]

/-- The `while` loop from `fromVersion` on, with the pairs it has so far. -/
def advance (toVersion : V) (available : List V) :
    Nat → V → List (V × V) → Option (Except PyError (List (V × V)))
  | 0, _, _ => none
  | fuel + 1, fromVersion, versions =>
      if fromVersion < toVersion then
        match available.find? fun version => fromVersion < version with
        | none => some (.error (.other "StopIteration"))
        | some releaseVersion =>
            advance toVersion available fuel releaseVersion
              (versions ++ [(fromVersion, releaseVersion)])
      else some (.ok versions)

/-- `get_versions_within_range`; `none` when the loop has not ended -/
def getVersionsWithinRange (u : Unicode) (Version : List Char → Except PyError V)
    (fromVersion toVersion : VersionArg V) (available : List V) (fuel : Nat) :
    Option (Except PyError (List (V × V))) :=
  match strToVer u Version fromVersion, strToVer u Version toVersion with
  | .ok (some fromVersion), .ok (some toVersion) => advance toVersion available fuel fromVersion []
  | .error e, _ => some (.error e)
  | _, .error e => some (.error e)
  | _, _ => some (.error (.typeError "'<' not supported between instances of 'NoneType'"))

/-! ## The chain of versions -/

/-- The list up to and including the first element with `p`. -/
def throughFirst {α : Type} (p : α → Bool) : List α → List α
  | [] => []
  | x :: xs => if p x then [x] else x :: throughFirst p xs

/-- The available versions a changelog goes through after `fromVersion`: those that are
    greater, up to and including the first that is at least `toVersion`. -/
def versionsAfter (available : List V) (fromVersion toVersion : V) : List V :=
  if toVersion ≤ fromVersion then []
  else throughFirst (fun version => toVersion ≤ version)
    (available.filter fun version => fromVersion < version)

/-- The chain of consecutive pairs of a list. -/
def consecutive {α : Type} (xs : List α) : List (α × α) := xs.zip xs.tail

/-- The next version of an ascending list has behind it what the list has beyond it. -/
theorem filter_lt_of_filter_lt {available rest : List V} {fromVersion next : V}
    (hasc : available.Pairwise (· < ·))
    (h : (available.filter fun version => fromVersion < version) = next :: rest) :
    (available.filter fun version => next < version) = rest := by
  have hmem : next ∈ available.filter fun version => fromVersion < version := by
    rw [h]
    exact List.mem_cons_self
  have hlt : fromVersion < next := by simpa using (List.mem_filter.mp hmem).2
  have hsorted : (next :: rest).Pairwise (· < ·) := h ▸ hasc.filter _
  -- beyond the next version is beyond `fromVersion`, so both filters may be put on
  have hboth : (available.filter fun version => next < version) =
      (next :: rest).filter fun version => next < version := by
    rw [← h, List.filter_filter]
    refine List.filter_congr fun version _ => ?_
    by_cases hv : next < version
    · simp [hv, hlt.trans hv]
    · simp [hv]
  rw [hboth, List.filter_cons_of_neg (by simp)]
  refine List.filter_eq_self.mpr fun version hv => ?_
  simpa using List.rel_of_pairwise_cons hsorted hv

/-- With more fuel than there are greater versions the loop gives the chain. -/
theorem advance_eq {available : List V} (hasc : available.Pairwise (· < ·)) {toVersion : V} :
    ∀ (fuel : Nat) (fromVersion : V) (versions : List (V × V)),
      (toVersion ≤ fromVersion ∨ ∃ version ∈ available, toVersion ≤ version) →
      (available.filter fun version => fromVersion < version).length < fuel →
      advance toVersion available fuel fromVersion versions =
        some (.ok (versions ++
          consecutive (fromVersion :: versionsAfter available fromVersion toVersion))) := by
  intro fuel
  induction fuel with
  | zero => intro fromVersion versions _ hfuel; omega
  | succ fuel ih =>
      intro fromVersion versions hreach hfuel
      by_cases hle : toVersion ≤ fromVersion
      · simp [advance, versionsAfter, consecutive, hle, not_lt.mpr hle]
      · -- a version to go to is among those that are greater
        have hlt : fromVersion < toVersion := not_le.mp hle
        obtain ⟨version, hversion, hto⟩ := hreach.resolve_left hle
        have hmem : version ∈ available.filter fun version => fromVersion < version :=
          List.mem_filter.mpr ⟨hversion, by simpa using hlt.trans_le hto⟩
        obtain ⟨next, rest, hgreater⟩ := List.exists_cons_of_ne_nil (List.ne_nil_of_mem hmem)
        have hrest := filter_lt_of_filter_lt hasc hgreater
        have hfind : (available.find? fun version => fromVersion < version) = some next := by
          rw [← List.head?_filter, hgreater, List.head?_cons]
        have hlength : (available.filter fun version => next < version).length < fuel := by
          rw [hrest]
          rw [hgreater, List.length_cons] at hfuel
          omega
        have hstep := ih next (versions ++ [(fromVersion, next)]) (.inr ⟨version, hversion, hto⟩)
          hlength
        have hafter : versionsAfter available fromVersion toVersion =
            next :: versionsAfter available next toVersion := by
          by_cases hnext : toVersion ≤ next
          · simp [versionsAfter, hle, hnext, hgreater, throughFirst]
          · simp [versionsAfter, hle, hnext, hgreater, hrest, throughFirst]
        rw [advance, if_pos hlt, hfind, hafter]
        simp only [hstep, consecutive, List.tail_cons, List.zip_cons_cons, List.append_assoc,
          List.cons_append, List.nil_append]

/-- Over versions in ascending order that reach far enough, the loop ends without raising,
    with the chain from `fromVersion` to the first version that is at least `toVersion`. -/
theorem versions_within_range {u : Unicode} {Version : List Char → Except PyError V}
    {fromArg toArg : VersionArg V} {fromVersion toVersion : V} {available : List V}
    (hfrom : strToVer u Version fromArg = .ok (some fromVersion))
    (hto : strToVer u Version toArg = .ok (some toVersion))
    (hasc : available.Pairwise (· < ·))
    (hreach : toVersion ≤ fromVersion ∨ ∃ version ∈ available, toVersion ≤ version) :
    ∃ enough, ∀ fuel, enough ≤ fuel →
      getVersionsWithinRange u Version fromArg toArg available fuel =
        some (.ok
          (consecutive (fromVersion :: versionsAfter available fromVersion toVersion))) := by
  refine ⟨(available.filter fun version => fromVersion < version).length + 1, fun fuel hfuel => ?_⟩
  rw [getVersionsWithinRange, hfrom, hto]
  exact advance_eq hasc fuel fromVersion [] hreach hfuel

/-- From 3.7.5 to 3.8 with 3.7.4, 3.7.5, 3.8 and 3.9 available -/
theorem versions_within_range_example : ∃ enough, ∀ fuel, enough ≤ fuel →
    getVersionsWithinRange Unicode.ascii numericVersion (.text "3.7.5".toList)
        (.text "3.8".toList)
        [fourNumbers 3 7 4 0, fourNumbers 3 7 5 0, fourNumbers 3 8 0 0, fourNumbers 3 9 0 0] fuel =
      some (.ok (consecutive (fourNumbers 3 7 5 0 :: versionsAfter
        [fourNumbers 3 7 4 0, fourNumbers 3 7 5 0, fourNumbers 3 8 0 0, fourNumbers 3 9 0 0]
        (fourNumbers 3 7 5 0) (fourNumbers 3 8 0 0)))) := by
  refine versions_within_range (by decide) (by decide) (by decide) (.inr ?_)
  exact ⟨fourNumbers 3 8 0 0, by decide, le_rfl⟩

example : versionsAfter [fourNumbers 3 7 4 0, fourNumbers 3 7 5 0, fourNumbers 3 8 0 0,
    fourNumbers 3 9 0 0] (fourNumbers 3 7 5 0) (fourNumbers 3 8 0 0) = [fourNumbers 3 8 0 0] := by
  decide

end

end Tfplenum
