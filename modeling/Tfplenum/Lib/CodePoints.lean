/-
  Tfplenum.Lib.CodePoints

  Texts as interpreters hold them: lists of code points, among which a surrogate may
  stand alone (such a text has no encoding), or lists of 16-bit units, of which a high
  and a low surrogate in a row are one character.

  `text?` gives the characters of a text without lone surrogates, `codePoints` reads
  units, and `units` writes a character; units without lone surrogates are those that
  their characters are written with (`eq_flatMap_units`).  Ranges of ASCII are the same
  over units and over characters (`exists_unit_iff`), runs of three are so only for
  characters of one unit (`triple_units_iff`).
-/

import Mathlib.Data.List.Dedup
import Mathlib.Data.List.Infix

namespace Tfplenum.Lib

inductive CodePoint where
  | char (c : Char)
  /-- U+D800 and up -/
  | surrogate (n : Fin 2048)
deriving DecidableEq, Repr

namespace CodePoint

/-! ## Code points -/

/-- The characters of a text, if no surrogate is among them. -/
def text? : List CodePoint → Option (List Char)
  | [] => some []
  | .char c :: ps => (text? ps).map (c :: ·)
  | .surrogate _ :: _ => none

/-- A text of characters -/
def ofText (cs : List Char) : List CodePoint := cs.map .char

@[simp] theorem text?_ofText (cs : List Char) : text? (ofText cs) = some cs := by
  induction cs with
  | nil => rfl
  | cons c cs ih =>
      rw [ofText, List.map_cons, text?]
      rw [ofText] at ih
      rw [ih]
      rfl

theorem ofText_of_text? {ps : List CodePoint} {cs : List Char} (h : text? ps = some cs) :
    ofText cs = ps := by
  induction ps generalizing cs with
  | nil =>
      cases h
      rfl
  | cons p ps ih =>
      cases p with
      | surrogate n => cases h
      | char c =>
          rw [text?, Option.map_eq_some_iff] at h
          obtain ⟨cs', hcs', rfl⟩ := h
          rw [ofText, List.map_cons]
          exact congrArg _ (ih hcs')

theorem ofText_injective : Function.Injective ofText :=
  List.map_injective_iff.mpr fun _ _ h => CodePoint.char.inj h

theorem length_dedup_ofText (cs : List Char) : (ofText cs).dedup.length = cs.dedup.length := by
  have hinj : Function.Injective CodePoint.char := fun _ _ h => CodePoint.char.inj h
  rw [ofText, List.dedup_map_of_injective hinj, List.length_map]

/-! ## Units -/

def IsHigh (u : UInt16) : Prop := 0xD800 ≤ u.toNat ∧ u.toNat < 0xDC00

def IsLow (u : UInt16) : Prop := 0xDC00 ≤ u.toNat ∧ u.toNat < 0xE000

instance (u : UInt16) : Decidable (IsHigh u) := inferInstanceAs (Decidable (_ ∧ _))

instance (u : UInt16) : Decidable (IsLow u) := inferInstanceAs (Decidable (_ ∧ _))

/-- The code point of a unit that is no part of a pair -/
def single (u : UInt16) : CodePoint :=
  if h : 0xD800 ≤ u.toNat ∧ u.toNat < 0xE000 then .surrogate ⟨u.toNat - 0xD800, by omega⟩
  else .char (Char.ofNat u.toNat)

/-- The character of a high and a low surrogate -/
def pair (u v : UInt16) : Char :=
  Char.ofNat (0x10000 + (u.toNat - 0xD800) * 0x400 + (v.toNat - 0xDC00))

/-- The code points of a text of units -/
def codePoints : List UInt16 → List CodePoint
  | [] => []
  | [u] => [single u]
  | u :: v :: us =>
      if IsHigh u ∧ IsLow v then .char (pair u v) :: codePoints us
      else single u :: codePoints (v :: us)

/-- The units that a character is written with -/
def units (c : Char) : List UInt16 :=
  if c.toNat < 0x10000 then [UInt16.ofNat c.toNat]
  else
    [UInt16.ofNat (0xD800 + (c.toNat - 0x10000) / 0x400),
      UInt16.ofNat (0xDC00 + (c.toNat - 0x10000) % 0x400)]

theorem toNat_ofNat {n : Nat} (h : n.isValidChar) : (Char.ofNat n).toNat = n := by
  rw [Char.ofNat, dif_pos h]
  rfl

theorem units_of_single {u : UInt16} {c : Char} (h : single u = .char c) : units c = [u] := by
  rw [single] at h
  split at h
  · cases h
  · rename_i hscalar
    injection h with h
    subst h
    have hlt := u.toNat_lt
    have hvalid : u.toNat.isValidChar := by
      rw [Nat.isValidChar]
      omega
    have hnat : (Char.ofNat u.toNat).toNat = u.toNat := toNat_ofNat hvalid
    rw [units, hnat, if_pos (by omega), UInt16.ofNat_toNat]

theorem units_pair {u v : UInt16} (hu : IsHigh u) (hv : IsLow v) : units (pair u v) = [u, v] := by
  obtain ⟨hu, hu'⟩ := hu
  obtain ⟨hv, hv'⟩ := hv
  have hvalid : (0x10000 + (u.toNat - 0xD800) * 0x400 + (v.toNat - 0xDC00)).isValidChar := by
    rw [Nat.isValidChar]
    omega
  have hnat : (pair u v).toNat = 0x10000 + (u.toNat - 0xD800) * 0x400 + (v.toNat - 0xDC00) :=
    toNat_ofNat hvalid
  have hhigh : 0xD800 + ((pair u v).toNat - 0x10000) / 0x400 = u.toNat := by omega
  have hlow : 0xDC00 + ((pair u v).toNat - 0x10000) % 0x400 = v.toNat := by omega
  rw [units, if_neg (by omega), hhigh, hlow, UInt16.ofNat_toNat, UInt16.ofNat_toNat]

theorem of_text?_single_cons {u : UInt16} {ps : List CodePoint} {cs : List Char}
    (h : text? (single u :: ps) = some cs) :
    ∃ c rest, cs = c :: rest ∧ units c = [u] ∧ text? ps = some rest := by
  cases hsingle : single u with
  | surrogate n =>
      rw [hsingle] at h
      cases h
  | char c =>
      rw [hsingle, text?, Option.map_eq_some_iff] at h
      obtain ⟨rest, hrest, rfl⟩ := h
      exact ⟨c, rest, rfl, units_of_single hsingle, hrest⟩

/-- Units without lone surrogates are the units of the characters. -/
theorem eq_flatMap_units {us : List UInt16} {cs : List Char}
    (h : text? (codePoints us) = some cs) : us = cs.flatMap units := by
  induction us using codePoints.induct generalizing cs with
  | case1 =>
      cases h
      rfl
  | case2 u =>
      rw [codePoints] at h
      obtain ⟨c, rest, rfl, hc, hrest⟩ := of_text?_single_cons h
      cases hrest
      rw [List.flatMap_cons, hc]
      rfl
  | case3 u v us hpair ih =>
      rw [codePoints, if_pos hpair, text?, Option.map_eq_some_iff] at h
      obtain ⟨rest, hrest, rfl⟩ := h
      rw [List.flatMap_cons, units_pair hpair.1 hpair.2, ← ih hrest]
      rfl
  | case4 u v us hpair ih =>
      rw [codePoints, if_neg hpair] at h
      obtain ⟨c, rest, rfl, hc, hrest⟩ := of_text?_single_cons h
      rw [List.flatMap_cons, hc, ← ih hrest]
      rfl

/-- A character is one unit that is no surrogate, or a pair. -/
theorem units_cases (c : Char) :
    (c.toNat < 0x10000 ∧ ∃ u, units c = [u] ∧ u.toNat = c.toNat ∧ ¬ IsHigh u ∧ ¬ IsLow u) ∨
      (0x10000 ≤ c.toNat ∧ ∃ u v, units c = [u, v] ∧ IsHigh u ∧ IsLow v) := by
  have hvalid : c.toNat.isValidChar := c.valid
  rw [Nat.isValidChar] at hvalid
  rw [units]
  by_cases hbmp : c.toNat < 0x10000
  · have hnat : (UInt16.ofNat c.toNat).toNat = c.toNat := by
      rw [UInt16.toNat_ofNat']
      exact Nat.mod_eq_of_lt hbmp
    rw [if_pos hbmp]
    refine .inl ⟨hbmp, _, rfl, hnat, ?_, ?_⟩
    · rw [IsHigh, hnat]
      omega
    · rw [IsLow, hnat]
      omega
  · rw [if_neg hbmp]
    refine .inr ⟨by omega, _, _, rfl, ?_, ?_⟩
    · rw [IsHigh, UInt16.toNat_ofNat', Nat.mod_eq_of_lt (by omega)]
      omega
    · rw [IsLow, UInt16.toNat_ofNat', Nat.mod_eq_of_lt (by omega)]
      omega

/-- Whether the units of a character are in a range of ASCII, the character decides. -/
theorem unit_between_iff {lo hi c : Char} {u : UInt16} (hhi : hi.toNat < 0xD800)
    (hu : u ∈ units c) : (lo.toNat ≤ u.toNat ∧ u.toNat ≤ hi.toNat) ↔ lo ≤ c ∧ c ≤ hi := by
  rw [Char.le_def, Char.le_def, UInt32.le_iff_toNat_le, UInt32.le_iff_toNat_le]
  change _ ↔ lo.toNat ≤ c.toNat ∧ c.toNat ≤ hi.toNat
  rcases units_cases c with ⟨-, v, hunits, hv, -, -⟩ | ⟨hc, v, w, hunits, hv, hw⟩
  · rw [hunits, List.mem_singleton] at hu
    rw [hu, hv]
  · have hge : 0xD800 ≤ u.toNat := by
      rw [hunits, List.mem_cons, List.mem_singleton] at hu
      rcases hu with rfl | rfl
      · exact hv.1
      · exact Nat.le_trans (by decide) hw.1
    omega

/-- What holds of a unit whenever it holds of its character, some unit has if some character
    has it. -/
theorem exists_unit_iff {P : UInt16 → Prop} {Q : Char → Prop} {cs : List Char}
    (h : ∀ c, ∀ u ∈ units c, P u ↔ Q c) : (∃ u ∈ cs.flatMap units, P u) ↔ ∃ c ∈ cs, Q c := by
  constructor
  · rintro ⟨u, hu, hP⟩
    obtain ⟨c, hc, hu⟩ := List.mem_flatMap.mp hu
    exact ⟨c, hc, (h c u hu).mp hP⟩
  · rintro ⟨c, hc, hQ⟩
    obtain ⟨u, hu⟩ : ∃ u, u ∈ units c := by
      rcases units_cases c with ⟨-, u, hunits, -⟩ | ⟨-, u, v, hunits, -⟩
      · exact ⟨u, by simp [hunits]⟩
      · exact ⟨u, by simp [hunits]⟩
    exact ⟨u, List.mem_flatMap.mpr ⟨c, hc, hu⟩, (h c u hu).mpr hQ⟩

/-- The first unit is that of the first character, which is known from it unless it is a
    surrogate. -/
theorem units_head {cs : List Char} {u : UInt16} {us : List UInt16}
    (h : cs.flatMap units = u :: us) : ¬ IsLow u ∧
      ∀ c, units c = [u] → ∃ rest, cs = c :: rest ∧ us = rest.flatMap units := by
  cases cs with
  | nil => cases h
  | cons d rest =>
      rw [List.flatMap_cons] at h
      rcases units_cases d with ⟨hd, v, hunits, hv, hhigh, hlow⟩ | ⟨hd, v, w, hunits, hhigh, hlow⟩
      · rw [hunits] at h
        cases h
        refine ⟨hlow, fun c hc => ⟨rest, ?_, rfl⟩⟩
        rcases units_cases c with ⟨-, v', hunits', hv', -⟩ | ⟨-, v', w', hunits', -⟩
        · rw [hc] at hunits'
          cases hunits'
          have heq : c = d := Char.toNat_inj.mp (hv'.symm.trans hv)
          rw [heq]
        · rw [hc] at hunits'
          cases hunits'
      · -- the first unit of a pair starts the list
        rw [hunits] at h
        cases h
        refine ⟨?_, fun c hc => ?_⟩
        · have h1 := hhigh.2
          rw [IsLow]
          omega
        · rcases units_cases c with ⟨-, v', hunits', -, hhigh', -⟩ | ⟨-, v', w', hunits', -⟩
          · rw [hc] at hunits'
            cases hunits'
            exact absurd hhigh hhigh'
          · rw [hc] at hunits'
            cases hunits'

theorem triple_of_triple_units {cs : List Char} {u : UInt16}
    (hinside : [u, u, u] <:+: cs.flatMap units) :
    ∃ c : Char, c.toNat < 0x10000 ∧ [c, c, c] <:+: cs := by
  induction cs with
  | nil =>
      have h := List.infix_nil.mp hinside
      cases h
  | cons c cs ih =>
      have hlater : [u, u, u] <:+: cs.flatMap units →
          ∃ d : Char, d.toNat < 0x10000 ∧ [d, d, d] <:+: c :: cs := by
        intro h
        obtain ⟨d, hd, hin⟩ := ih h
        exact ⟨d, hd, List.infix_cons hin⟩
      rw [List.flatMap_cons] at hinside
      rcases units_cases c with ⟨hc, v, hunits, -⟩ | ⟨-, v, w, hunits, hhigh, hlow⟩
      · rw [hunits, List.singleton_append] at hinside
        rcases List.infix_cons_iff.mp hinside with ⟨after, heq⟩ | h
        · simp only [List.cons_append, List.nil_append, List.cons.injEq] at heq
          rw [← heq.1] at hunits
          -- a unit that is a character on its own is so wherever it stands
          obtain ⟨rest, rfl, hrest⟩ := (units_head heq.2.symm).2 c hunits
          obtain ⟨rest', rfl, -⟩ := (units_head hrest.symm).2 c hunits
          exact ⟨c, hc, [], rest', rfl⟩
        · exact hlater h
      · rw [hunits, List.cons_append, List.singleton_append] at hinside
        -- the units of a pair differ
        have hne : v ≠ w := by
          rintro rfl
          have h1 := hhigh.2
          have h2 := hlow.1
          omega
        rcases List.infix_cons_iff.mp hinside with ⟨after, heq⟩ | h
        · simp only [List.cons_append, List.nil_append, List.cons.injEq] at heq
          exact absurd (heq.1.symm.trans heq.2.1) hne
        · rcases List.infix_cons_iff.mp h with ⟨after, heq⟩ | h
          · simp only [List.cons_append, List.nil_append, List.cons.injEq] at heq
            obtain ⟨rfl, heq⟩ := heq
            -- no character starts with the second unit of a pair
            exact absurd hlow (units_head heq.symm).1
          · exact hlater h

/-- Three equal units in a row are three characters of one unit. -/
theorem triple_units_iff {cs : List Char} : (∃ u, [u, u, u] <:+: cs.flatMap units) ↔
    ∃ c : Char, c.toNat < 0x10000 ∧ [c, c, c] <:+: cs := by
  constructor
  · rintro ⟨u, hinside⟩
    exact triple_of_triple_units hinside
  · rintro ⟨c, hc, before, after, rfl⟩
    rcases units_cases c with ⟨-, u, hunits, -⟩ | ⟨hge, -⟩
    · refine ⟨u, before.flatMap units, after.flatMap units, ?_⟩
      simp [List.flatMap_append, hunits]
    · omega

end CodePoint

end Tfplenum.Lib
