/-
  Tfplenum.PipelineImages.NumericVersions

  `str_to_ver` and `increment_micro` of `changelog/version_helper.py` over the texts of
  numeric versions.

  `VersionClass` is what the packaging library promises of such texts: numbers in ASCII
  digits are read as a release, other digits are refused, and two releases are compared
  one number after the other, without the zeros at their ends.  A text comes to a version
  with four numbers that can be incremented unless it is a single number, or has digits of
  another script, or numbers that Python does not read or write (`normalised_iff`).
-/

import Tfplenum.Lib.PythonInt
import Tfplenum.PipelineImages.VersionHelper

namespace Tfplenum

open Lib

namespace NumericVersions

/-! ## The Version class -/

/-- A number in ASCII digits -/
def IsNumber (component : List Char) : Prop :=
  component ≠ [] ∧ ∀ c ∈ component, c.isDigit = true

instance (component : List Char) : Decidable (IsNumber component) :=
  inferInstanceAs (Decidable (_ ∧ _))

/-- `int(component)` -/
def numberOf (component : List Char) : Nat := (IPv4Address.digitsValue component).getD 0

/-- `".".join(components)` -/
def dotted (components : List (List Char)) : List Char := ['.'].intercalate components

/-- A release as it is compared -/
def trimmed (release : List Nat) : List Nat := release.rdropWhile (· = 0)

/-- `packaging.version.Version`, for texts of digits and dots -/
structure VersionClass (u : Unicode) (V : Type) where
  /-- `Version(text)` -/
  init : List Char → Except PyError V
  release : V → List Nat
  /-- `<` -/
  lt : V → V → Prop
  /-- `sys.get_int_max_str_digits()` -/
  maxStrDigits : Nat
  maxStrDigits_pos : 0 < maxStrDigits
  init_numbers : ∀ components, components ≠ [] →
    (∀ c ∈ components, IsNumber c ∧ c.length ≤ maxStrDigits) →
      ∃ v, init (dotted components) = .ok v ∧ release v = components.map numberOf
  /-- the `ValueError` of `int` -/
  init_long : ∀ components, (∀ c ∈ components, IsNumber c) →
    (∃ c ∈ components, maxStrDigits < c.length) → ∃ e, init (dotted components) = .error e
  /-- an `InvalidVersion` -/
  init_invalid : ∀ components, (∀ c ∈ components, isdigit u c = true) →
    (∃ c ∈ components, ¬IsNumber c) → ∃ e, init (dotted components) = .error e
  lt_iff : ∀ components components' v w, (∀ c ∈ components ++ components', IsNumber c) →
    init (dotted components) = .ok v → init (dotted components') = .ok w →
      (lt v w ↔ trimmed (release v) < trimmed (release w))

section

variable {u : Unicode} {V : Type} (Version : VersionClass u V)

/-- `str(n)` -/
def formatInt (n : Nat) : Except PyError (List Char) :=
  if (Nat.toDigits 10 n).length ≤ Version.maxStrDigits then .ok (Nat.toDigits 10 n)
  else .error (.valueError "Exceeds the limit for integer string conversion")

/-- `version.release[i]` -/
def releaseAt (v : V) (i : Nat) : Except PyError Nat :=
  match (Version.release v)[i]? with
  | some n => .ok n
  | none => .error .indexError

/-- `increment_micro` -/
def incrementMicro : Option (VersionArg V) → Except PyError (Option V)
  | none => .ok none
  | some arg => do
      let version ← match arg with
        | .version version => .ok version
        | .text version => Version.init version
      let major ← formatInt Version (← releaseAt Version version 0)
      let minor ← formatInt Version (← releaseAt Version version 1)
      let micro ← formatInt Version ((← releaseAt Version version 2) + 1)
      let build ← formatInt Version (← releaseAt Version version 3)
      return some (← Version.init (dotted [major, minor, micro, build]))

/-! ## What is meant -/

/-- The components of the text are numbers. -/
def Numeric (text : List Char) : Prop := ∀ c ∈ text.splitOn '.', IsNumber c

instance (text : List Char) : Decidable (Numeric text) :=
  inferInstanceAs (Decidable (∀ c ∈ text.splitOn '.', IsNumber c))

/-- What the two functions are for -/
structure Normalised (text : List Char) : Prop where
  other : ¬Numeric text → strToVer u Version.init (.text text) = .ok none
  numeric : Numeric text → ∃ v zeros, strToVer u Version.init (.text text) = .ok (some v) ∧
    4 ≤ (Version.release v).length ∧ (∀ n ∈ zeros, n = 0) ∧
    Version.release v = (text.splitOn '.').map numberOf ++ zeros
  increment : ∀ v, strToVer u Version.init (.text text) = .ok (some v) →
    ∃ w, incrementMicro Version (some (.version v)) = .ok (some w) ∧ Version.lt v w

/-- Some component is not made of digits, or all are numbers that Python reads and writes and
    there are two at least. -/
def Regular (text : List Char) : Prop :=
  (∃ c ∈ text.splitOn '.', isdigit u c = false) ∨
    Numeric text ∧ 2 ≤ (text.splitOn '.').length ∧
      (∀ c ∈ text.splitOn '.', c.length ≤ Version.maxStrDigits) ∧
      ∀ c, (text.splitOn '.')[2]? = some c → numberOf c + 1 < 10 ^ Version.maxStrDigits

end

/-! ## Numbers -/

theorem IsNumber.digitsValue {c : List Char} (h : IsNumber c) :
    IPv4Address.digitsValue c = some (numberOf c) := by
  rw [numberOf, PythonInt.digitsValue_of_isDigit h.2]
  rfl

theorem IsNumber.isdigit {u : Unicode} {c : List Char} (h : IsNumber c) : isdigit u c = true := by
  rw [Tfplenum.isdigit, Bool.and_eq_true, List.all_eq_true]
  refine ⟨by simpa using h.1, fun d hd => u.isDigit_of_isDecimal d ?_⟩
  have hdigit := h.2 d hd
  rw [u.isDecimal_ascii d, hdigit]
  simp only [Char.isDigit, Bool.and_eq_true, decide_eq_true_eq] at hdigit
  exact Nat.lt_of_le_of_lt hdigit.2 (by decide)

theorem isNumber_toDigits (n : Nat) : IsNumber (Nat.toDigits 10 n) :=
  ⟨Nat.toDigits_ne_nil, fun _ => Nat.isDigit_of_mem_toDigits (by decide) (by decide)⟩

@[simp] theorem numberOf_toDigits (n : Nat) : numberOf (Nat.toDigits 10 n) = n := by
  rw [numberOf, PythonInt.digitsValue_toDigits]
  rfl

/-- A number that is read can be written. -/
theorem length_toDigits_numberOf {c : List Char} {k : Nat} (h : IsNumber c) (hlength : c.length ≤ k)
    (hk : 0 < k) : (Nat.toDigits 10 (numberOf c)).length ≤ k := by
  rw [Nat.length_toDigits_le_iff (by decide) hk]
  exact Nat.lt_of_lt_of_le (PythonInt.lt_of_digitsValue h.digitsValue)
    (Nat.pow_le_pow_right (by decide) hlength)

/-! ## Order -/

/-- A release with a greater number where it first differs is greater. -/
theorem lt_of_differ {before front rest rest' : List Nat} {n m : Nat} (hlt : n < m)
    (hfront : front <+: before ++ n :: rest) : front < before ++ m :: rest' := by
  induction before generalizing front with
  | nil =>
      cases front with
      | nil => exact List.nil_lt_cons ..
      | cons k front =>
          obtain ⟨hk, -⟩ := List.cons_prefix_cons.mp hfront
          rw [hk]
          exact List.cons_lt_cons_iff.mpr (.inl hlt)
  | cons k before ih =>
      cases front with
      | nil => exact List.nil_lt_cons ..
      | cons k' front =>
          obtain ⟨rfl, hrest⟩ := List.cons_prefix_cons.mp hfront
          exact List.cons_lt_cons_iff.mpr (.inr ⟨rfl, ih hrest⟩)

theorem trimmed_incremented (a b c d : Nat) :
    ∃ rest, trimmed [a, b, c + 1, d] = [a, b] ++ (c + 1) :: rest := by
  by_cases hd : d = 0
  · exact ⟨[], by simp [trimmed, List.rdropWhile, hd]⟩
  · exact ⟨[d], by simp [trimmed, List.rdropWhile, hd]⟩

/-! ## Components -/

/-- Zeros are put behind the components, and four are reached unless there is only one. -/
theorem fourComponents_spec (components : List (List Char)) :
    ∃ zeros, (∀ c ∈ zeros, c = ['0']) ∧ fourComponents components = components ++ zeros ∧
      (4 ≤ (fourComponents components).length ↔ 2 ≤ components.length) := by
  unfold fourComponents
  split
  case isTrue h => exact ⟨[['0'], ['0']], by simp, rfl, by simp [h]⟩
  case isFalse htwo =>
    split
    case isTrue h => exact ⟨[['0']], by simp, rfl, by simp [h]⟩
    case isFalse hthree => exact ⟨[], by simp, (List.append_nil _).symm, by omega⟩

variable {u : Unicode} {V : Type} {Version : VersionClass u V} {text : List Char}

theorem strToVer_of_other (h : ∃ c ∈ text.splitOn '.', isdigit u c = false) :
    strToVer u Version.init (.text text) = .ok none := by
  obtain ⟨c, hc, hother⟩ := h
  exact if_pos (List.any_eq_true.mpr ⟨c, hc, by rw [hother]; rfl⟩)

theorem strToVer_of_isdigit (h : ∀ c ∈ text.splitOn '.', isdigit u c = true) :
    strToVer u Version.init (.text text) =
      (Version.init (dotted (fourComponents (text.splitOn '.')))).map some := by
  refine if_neg fun hany => ?_
  obtain ⟨c, hc, hother⟩ := List.any_eq_true.mp hany
  rw [h c hc] at hother
  cases hother

theorem Numeric.isdigit (h : Numeric text) : ∀ c ∈ text.splitOn '.', isdigit u c = true :=
  fun c hc => (h c hc).isdigit

/-- The zeros are numbers like the others. -/
theorem Numeric.fourComponents (h : Numeric text) :
    ∀ c ∈ fourComponents (text.splitOn '.'), IsNumber c := by
  obtain ⟨zeros, hzeros, heq, -⟩ := fourComponents_spec (text.splitOn '.')
  rw [heq]
  intro c hc
  rcases List.mem_append.mp hc with hc | hc
  · exact h c hc
  · rw [hzeros c hc]
    decide

theorem length_fourComponents {k : Nat} (hk : 0 < k)
    (h : ∀ c ∈ text.splitOn '.', c.length ≤ k) :
    ∀ c ∈ Tfplenum.fourComponents (text.splitOn '.'), c.length ≤ k := by
  obtain ⟨zeros, hzeros, heq, -⟩ := fourComponents_spec (text.splitOn '.')
  rw [heq]
  intro c hc
  rcases List.mem_append.mp hc with hc | hc
  · exact h c hc
  · rw [hzeros c hc]
    exact hk

/-! ## The increment -/

theorem formatInt_of_lt {n : Nat} (h : n < 10 ^ Version.maxStrDigits) :
    formatInt Version n = .ok (Nat.toDigits 10 n) :=
  if_pos ((Nat.length_toDigits_le_iff (by decide) Version.maxStrDigits_pos).mpr h)

theorem formatInt_of_le {n : Nat} (h : 10 ^ Version.maxStrDigits ≤ n) :
    formatInt Version n = .error (.valueError "Exceeds the limit for integer string conversion") :=
  if_neg fun hle => Nat.not_lt.mpr h
    ((Nat.length_toDigits_le_iff (by decide) Version.maxStrDigits_pos).mp hle)

/-- A version with four numbers is incremented if the third can be written afterwards. -/
theorem incrementMicro_iff {a b c d : List Char} {rest : List (List Char)} {v : V}
    (hfit : ∀ x ∈ a :: b :: c :: d :: rest, IsNumber x ∧ x.length ≤ Version.maxStrDigits)
    (hv : Version.init (dotted (a :: b :: c :: d :: rest)) = .ok v) :
    (∃ w, incrementMicro Version (some (.version v)) = .ok (some w) ∧ Version.lt v w) ↔
      numberOf c + 1 < 10 ^ Version.maxStrDigits := by
  have hpos := Version.maxStrDigits_pos
  obtain ⟨v', hv', hrelease⟩ := Version.init_numbers _ (List.cons_ne_nil _ _) hfit
  obtain rfl : v = v' := by
    rw [hv] at hv'
    exact Except.ok.inj hv'
  have hwrite : ∀ x ∈ a :: b :: c :: d :: rest, numberOf x < 10 ^ Version.maxStrDigits :=
    fun x hx => (Nat.length_toDigits_le_iff (by decide) hpos).mp
      (length_toDigits_numberOf (hfit x hx).1 (hfit x hx).2 hpos)
  have ha := formatInt_of_lt (hwrite a (by simp))
  have hb := formatInt_of_lt (hwrite b (by simp))
  have hd := formatInt_of_lt (hwrite d (by simp))
  have hat : ∀ (i : Nat) (n : Nat),
      ((a :: b :: c :: d :: rest).map numberOf)[i]? = some n → releaseAt Version v i = .ok n := by
    intro i n hi
    rw [releaseAt, hrelease, hi]
  by_cases hlt : numberOf c + 1 < 10 ^ Version.maxStrDigits
  · refine iff_of_true ?_ hlt
    have hc := formatInt_of_lt hlt
    let incremented : List (List Char) := [Nat.toDigits 10 (numberOf a),
      Nat.toDigits 10 (numberOf b), Nat.toDigits 10 (numberOf c + 1),
      Nat.toDigits 10 (numberOf d)]
    have hnumbers : ∀ x ∈ incremented, IsNumber x ∧ x.length ≤ Version.maxStrDigits := by
      have hle : ∀ n, n < 10 ^ Version.maxStrDigits →
          IsNumber (Nat.toDigits 10 n) ∧
            (Nat.toDigits 10 n).length ≤ Version.maxStrDigits := fun n hn =>
        ⟨isNumber_toDigits n, (Nat.length_toDigits_le_iff (by decide) hpos).mpr hn⟩
      intro x hx
      simp only [incremented, List.mem_cons, List.not_mem_nil, or_false] at hx
      rcases hx with rfl | rfl | rfl | rfl
      · exact hle _ (hwrite a (by simp))
      · exact hle _ (hwrite b (by simp))
      · exact hle _ hlt
      · exact hle _ (hwrite d (by simp))
    obtain ⟨w, hw, hreleasew⟩ :=
      Version.init_numbers incremented (List.cons_ne_nil _ _) hnumbers
    refine ⟨w, ?_, ?_⟩
    · simp only [incrementMicro, hat 0 _ rfl, hat 1 _ rfl, hat 2 _ rfl, hat 3 _ rfl, ha, hb, hc, hd,
        bind, Except.bind]
      rw [show Version.init _ = _ from hw]
      rfl
    · rw [Version.lt_iff _ incremented v w (fun x hx => ?_) hv hw, hrelease, hreleasew]
      · obtain ⟨tail, htail⟩ :=
          trimmed_incremented (numberOf a) (numberOf b) (numberOf c) (numberOf d)
        simp only [incremented, List.map_cons, List.map_nil, numberOf_toDigits, htail]
        exact lt_of_differ (Nat.lt_succ_self _) (List.rdropWhile_prefix ..)
      · rcases List.mem_append.mp hx with hx | hx
        · exact (hfit x hx).1
        · exact (hnumbers x hx).1
  · refine iff_of_false ?_ hlt
    rintro ⟨w, hw, -⟩
    have hc := formatInt_of_le (Nat.not_lt.mp hlt)
    simp only [incrementMicro, hat 0 _ rfl, hat 1 _ rfl, hat 2 _ rfl, ha, hb, hc, bind,
      Except.bind] at hw
    cases hw

/-! ## Versions -/

theorem strToVer_eq_some_iff (h : ∀ c ∈ text.splitOn '.', Tfplenum.isdigit u c = true) {v : V} :
    strToVer u Version.init (.text text) = .ok (some v) ↔
      Version.init (dotted (Tfplenum.fourComponents (text.splitOn '.'))) = .ok v := by
  rw [strToVer_of_isdigit h]
  cases Version.init (dotted (Tfplenum.fourComponents (text.splitOn '.'))) with
  | error e => exact iff_of_false (fun h => by cases h) (fun h => by cases h)
  | ok w => simp [Except.map]

theorem strToVer_ne_none (h : ∀ c ∈ text.splitOn '.', Tfplenum.isdigit u c = true) :
    strToVer u Version.init (.text text) ≠ .ok none := by
  rw [strToVer_of_isdigit h]
  cases Version.init (dotted (Tfplenum.fourComponents (text.splitOn '.'))) with
  | error e => exact fun h => by cases h
  | ok w => exact fun h => by cases h

/-- Numbers that can be read make a version. -/
theorem Numeric.exists_version (h : Numeric text)
    (hfit : ∀ c ∈ text.splitOn '.', c.length ≤ Version.maxStrDigits) :
    ∃ v, Version.init (dotted (Tfplenum.fourComponents (text.splitOn '.'))) = .ok v ∧
      Version.release v = (Tfplenum.fourComponents (text.splitOn '.')).map numberOf := by
  refine Version.init_numbers _ ?_ fun c hc =>
    ⟨h.fourComponents c hc, length_fourComponents Version.maxStrDigits_pos hfit c hc⟩
  obtain ⟨zeros, -, heq, -⟩ := fourComponents_spec (text.splitOn '.')
  rw [heq]
  exact List.append_ne_nil_of_left_ne_nil (List.splitOn_ne_nil '.' text) _

/-- Numbers that cannot be read make none. -/
theorem Numeric.fit (h : Numeric text) {v : V}
    (hv : Version.init (dotted (Tfplenum.fourComponents (text.splitOn '.'))) = .ok v) :
    ∀ c ∈ text.splitOn '.', c.length ≤ Version.maxStrDigits := by
  intro c hc
  by_contra hlong
  obtain ⟨zeros, -, heq, -⟩ := fourComponents_spec (text.splitOn '.')
  have hmem : c ∈ Tfplenum.fourComponents (text.splitOn '.') := by
    rw [heq]
    exact List.mem_append_left _ hc
  obtain ⟨e, he⟩ := Version.init_long _ h.fourComponents ⟨c, hmem, Nat.not_le.mp hlong⟩
  rw [he] at hv
  cases hv

theorem exists_eq_cons_four {α : Type} {l : List α} (h : 4 ≤ l.length) :
    ∃ a b c d rest, l = a :: b :: c :: d :: rest := by
  match l, h with
  | a :: b :: c :: d :: rest, _ => exact ⟨a, b, c, d, rest, rfl⟩

/-- The third number is a component of the text or a zero behind it. -/
theorem Numeric.increment_iff (h : Numeric text) (htwo : 2 ≤ (text.splitOn '.').length)
    (hfit : ∀ c ∈ text.splitOn '.', c.length ≤ Version.maxStrDigits) {v : V}
    (hv : Version.init (dotted (Tfplenum.fourComponents (text.splitOn '.'))) = .ok v) :
    (∃ w, incrementMicro Version (some (.version v)) = .ok (some w) ∧ Version.lt v w) ↔
      ∀ c, (text.splitOn '.')[2]? = some c → numberOf c + 1 < 10 ^ Version.maxStrDigits := by
  have hall : ∀ c ∈ Tfplenum.fourComponents (text.splitOn '.'),
      IsNumber c ∧ c.length ≤ Version.maxStrDigits := fun c hc =>
    ⟨h.fourComponents c hc, length_fourComponents Version.maxStrDigits_pos hfit c hc⟩
  obtain ⟨zeros, hzeros, heq, hfour⟩ := fourComponents_spec (text.splitOn '.')
  obtain ⟨a, b, c, d, rest, hcons⟩ := exists_eq_cons_four (hfour.mpr htwo)
  have hthird : (text.splitOn '.' ++ zeros)[2]? = some c := by
    rw [← heq, hcons]
    rfl
  rw [hcons] at hall hv
  rw [incrementMicro_iff hall hv]
  cases hget : (text.splitOn '.')[2]? with
  | some c' =>
      obtain ⟨hlt, -⟩ := List.getElem?_eq_some_iff.mp hget
      rw [List.getElem?_append_left hlt, hget] at hthird
      simp [Option.some.inj hthird]
  | none =>
      rw [List.getElem?_append_right (List.getElem?_eq_none_iff.mp hget)] at hthird
      rw [hzeros c (List.mem_of_getElem? hthird)]
      refine iff_of_true ?_ (fun _ hnone => by cases hnone)
      exact Nat.one_lt_pow Version.maxStrDigits_pos.ne' (by decide)

/-- For every text and whatever the Version class does beyond its promises. -/
theorem normalised_iff (Version : VersionClass u V) (text : List Char) :
    Normalised Version text ↔ Regular Version text := by
  by_cases hother : ∃ c ∈ text.splitOn '.', Tfplenum.isdigit u c = false
  · refine iff_of_true ?_ (.inl hother)
    have hnone : strToVer u Version.init (.text text) = .ok none := strToVer_of_other hother
    refine ⟨fun _ => hnone, fun hnumeric => ?_, fun v hv => ?_⟩
    · obtain ⟨c, hc, hdigit⟩ := hother
      rw [hnumeric.isdigit c hc] at hdigit
      cases hdigit
    · rw [hnone] at hv
      cases hv
  · have hdigit : ∀ c ∈ text.splitOn '.', Tfplenum.isdigit u c = true := by
      intro c hc
      rw [← Bool.not_eq_false]
      exact fun hc' => hother ⟨c, hc, hc'⟩
    obtain ⟨zeros, hzeros, heq, hfour⟩ := fourComponents_spec (text.splitOn '.')
    constructor
    · intro h
      have hnumeric : Numeric text := by
        by_contra hnot
        exact strToVer_ne_none hdigit (h.other hnot)
      obtain ⟨v, -, hv, hlength, -⟩ := h.numeric hnumeric
      have hinit := (strToVer_eq_some_iff hdigit).mp hv
      have hfit := hnumeric.fit hinit
      obtain ⟨v', hv', hrelease⟩ := hnumeric.exists_version hfit
      obtain rfl : v = v' := Except.ok.inj (hinit.symm.trans hv')
      rw [hrelease, List.length_map, hfour] at hlength
      exact .inr ⟨hnumeric, hlength, hfit,
        (hnumeric.increment_iff hlength hfit hinit).mp (h.increment v hv)⟩
    · rintro (h | ⟨hnumeric, htwo, hfit, hthird⟩)
      · exact absurd h hother
      · obtain ⟨v, hv, hrelease⟩ := hnumeric.exists_version hfit
        refine ⟨fun hnot => absurd hnumeric hnot, fun _ => ?_, fun w hw => ?_⟩
        · refine ⟨v, zeros.map numberOf, (strToVer_eq_some_iff hdigit).mpr hv, ?_, ?_, ?_⟩
          · rw [hrelease, List.length_map]
            exact hfour.mpr htwo
          · intro n hn
            obtain ⟨c, hc, rfl⟩ := List.mem_map.mp hn
            rw [hzeros c hc]
            rfl
          · rw [hrelease, heq, List.map_append]
        · exact (hnumeric.increment_iff htwo hfit ((strToVer_eq_some_iff hdigit).mp hw)).mpr hthird

/-! ## A class of versions -/

theorem splitOn_dotted {components : List (List Char)} (hne : components ≠ [])
    (hdot : ∀ c ∈ components, '.' ∉ c) : (dotted components).splitOn '.' = components :=
  List.splitOn_intercalate '.' hdot hne

theorem IsNumber.dot_notMem {c : List Char} (h : IsNumber c) : '.' ∉ c :=
  fun hdot => absurd (h.2 '.' hdot) (by decide)

/-- `Version` on the texts of releases -/
def readRelease (text : List Char) : Except PyError (List Nat) :=
  if ∀ c ∈ text.splitOn '.', IsNumber c then
    if ∀ c ∈ text.splitOn '.', c.length ≤ 4300 then .ok ((text.splitOn '.').map numberOf)
    else .error (.valueError "Exceeds the limit for integer string conversion")
  else .error (.other "InvalidVersion")

/-- The versions that are releases, where a dot is no digit -/
def releases (u : Unicode) (hdot : u.isDigit '.' = false) : VersionClass u (List Nat) where
  init := readRelease
  release v := v
  lt v w := trimmed v < trimmed w
  maxStrDigits := 4300
  maxStrDigits_pos := by decide
  init_numbers components hne h := by
    have hsplit := splitOn_dotted hne fun c hc => (h c hc).1.dot_notMem
    refine ⟨components.map numberOf, ?_, rfl⟩
    rw [readRelease, hsplit, if_pos fun c hc => (h c hc).1, if_pos fun c hc => (h c hc).2]
  init_long components h hlong := by
    obtain ⟨c, hc, hlt⟩ := hlong
    have hsplit := splitOn_dotted (List.ne_nil_of_mem hc) fun c hc => (h c hc).dot_notMem
    rw [readRelease, hsplit, if_pos h, if_neg fun hle => Nat.not_le.mpr hlt (hle c hc)]
    exact ⟨_, rfl⟩
  init_invalid components h hother := by
    obtain ⟨c, hc, hnot⟩ := hother
    have hsplit : (dotted components).splitOn '.' = components := by
      refine splitOn_dotted (List.ne_nil_of_mem hc) fun c hc hmem => ?_
      have hdigit := h c hc
      rw [Tfplenum.isdigit, Bool.and_eq_true, List.all_eq_true] at hdigit
      exact absurd (hdigit.2 '.' hmem) (by simp [hdot])
    rw [readRelease, hsplit, if_neg fun hall => hnot (hall c hc)]
    exact ⟨_, rfl⟩
  lt_iff _ _ _ _ _ _ _ := Iff.rfl

theorem normalised_two : Normalised (releases Unicode.ascii rfl) ['1', '.', '2'] := by
  refine (normalised_iff _ _).mpr (.inr ⟨by decide, by decide, by decide, fun c hc => ?_⟩)
  cases hc

/-- A single number gets no zeros, and has no second one to be incremented. -/
theorem not_normalised_seven : ¬ ∀ (u : Unicode) (V : Type) (Version : VersionClass u V)
    (text : List Char), Normalised Version text := by
  intro h
  obtain ⟨v, zeros, hv, hlength, -⟩ :=
    (h Unicode.ascii _ (releases Unicode.ascii rfl) ['7']).numeric (by decide)
  cases hv
  exact absurd hlength (by decide)

end NumericVersions

end Tfplenum
