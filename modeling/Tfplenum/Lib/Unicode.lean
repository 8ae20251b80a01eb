/-
  Tfplenum.Lib.Unicode

  What the string methods of Python read in the Unicode tables.  The tables are
  kept abstract; what they say of ASCII, and that lowered text is not lowered any
  further, is part of the structure.
-/

import Mathlib.Data.List.DropRight

namespace Tfplenum.Lib

structure Unicode where
  /-- `\d` -/
  isDecimal : Char → Bool
  /-- `str.isdigit` -/
  isDigit : Char → Bool
  /-- `\s` and `str.isspace` -/
  isSpace : Char → Bool
  /-- `str.upper`, which maps every character by itself -/
  upper : Char → List Char
  /-- `str.lower`, where a sigma is mapped by what stands around it -/
  lower : List Char → List Char
  /-- the characters that `lower` leaves alone wherever they stand -/
  isLowered : Char → Bool
  /-- `str.capitalize` -/
  capitalize : List Char → List Char
  isDigit_of_isDecimal : ∀ c, isDecimal c = true → isDigit c = true
  isDecimal_ascii : ∀ c, c.toNat < 128 → isDecimal c = c.isDigit
  isSpace_ascii : ∀ c, c.toNat < 128 →
    isSpace c = (c ∈ [' ', '\t', '\n', '\r', '\x0b', '\x0c', '\x1c', '\x1d', '\x1e', '\x1f'])
  upper_ascii : ∀ c, c.toNat < 128 → upper c = [c.toUpper]
  lower_ascii : ∀ cs, (∀ c ∈ cs, c.toNat < 128) → lower cs = cs.map Char.toLower
  isLowered_lower : ∀ cs, ∀ c ∈ lower cs, isLowered c = true
  lower_of_isLowered : ∀ cs, (∀ c ∈ cs, isLowered c = true) → lower cs = cs
  capitalize_ascii : ∀ c cs, (∀ d ∈ c :: cs, d.toNat < 128) →
    capitalize (c :: cs) = c.toUpper :: cs.map Char.toLower

namespace Unicode

variable (u : Unicode)

/-- `str.upper` -/
def upperText (cs : List Char) : List Char := cs.flatMap u.upper

/-- `str.strip` -/
def strip (cs : List Char) : List Char :=
  ((cs.dropWhile u.isSpace).reverse.dropWhile u.isSpace).reverse

/-- No white space at either end -/
def IsStripped (cs : List Char) : Prop :=
  (∀ c ∈ cs.head?, u.isSpace c = false) ∧ ∀ c ∈ cs.getLast?, u.isSpace c = false

theorem strip_eq (cs : List Char) :
    u.strip cs = (cs.dropWhile u.isSpace).rdropWhile u.isSpace := rfl

theorem strip_eq_self {cs : List Char} (h : u.IsStripped cs) : u.strip cs = cs := by
  cases cs with
  | nil => rfl
  | cons c cs =>
      have hc : u.isSpace c = false := h.1 c rfl
      rw [strip_eq, List.dropWhile_cons_of_neg (by simp [hc]), List.rdropWhile_eq_self_iff]
      intro hne
      have hlast := h.2 _ (List.getLast?_eq_getLast_of_ne_nil hne)
      simp [hlast]

theorem isStripped_strip (cs : List Char) : u.IsStripped (u.strip cs) := by
  rw [strip_eq]
  constructor
  · -- what is left of the end does not change the front
    intro c hc
    obtain ⟨rest, hrest⟩ := List.head?_eq_some_iff.mp hc
    obtain ⟨dropped, hdropped⟩ := List.rdropWhile_prefix u.isSpace (cs.dropWhile u.isSpace)
    have hhead : (cs.dropWhile u.isSpace).head? = some c := by
      rw [← hdropped, hrest]
      rfl
    have hnot := List.head?_dropWhile_not u.isSpace cs
    rw [hhead] at hnot
    exact hnot
  · intro c hc
    obtain ⟨hne, hlast⟩ := List.mem_getLast?_eq_getLast hc
    have hnot := List.rdropWhile_last_not u.isSpace (cs.dropWhile u.isSpace) hne
    rw [← hlast] at hnot
    simpa using hnot

/-- An ASCII character without another case is still there in upper case. -/
theorem mem_upperText {c : Char} (hc : c.toNat < 128) (hupper : c.toUpper = c) {cs : List Char}
    (h : c ∈ cs) : c ∈ u.upperText cs := by
  refine List.mem_flatMap.mpr ⟨c, h, ?_⟩
  rw [u.upper_ascii c hc, hupper]
  exact List.mem_singleton_self _

/-- Text in upper case that is ASCII stays as it is. -/
theorem upperText_of_ascii {cs : List Char} (h : ∀ c ∈ cs, c.toNat < 128 ∧ c.toUpper = c) :
    u.upperText cs = cs := by
  induction cs with
  | nil => rfl
  | cons c cs ih =>
      obtain ⟨hc, hupper⟩ := h c (List.mem_cons_self ..)
      have hrest := ih fun d hd => h d (List.mem_cons_of_mem _ hd)
      rw [upperText, List.flatMap_cons, u.upper_ascii c hc, hupper]
      exact congrArg (c :: ·) hrest

theorem toLower_eq_self {c : Char} (h : c.isUpper = false) : c.toLower = c := by
  delta Char.isUpper at h
  rw [decide_eq_false_iff_not] at h
  delta Char.toLower
  split
  · rename_i hc
    exact absurd hc h
  · rfl

theorem isUpper_toLower (c : Char) : c.toLower.isUpper = false := by
  delta Char.isUpper Char.toLower
  split <;> grind [UInt32.toNat_add, Char.toNat_val]

/-- The tables of a Python that knows only ASCII. -/
def ascii : Unicode where
  isDecimal := Char.isDigit
  isDigit := Char.isDigit
  isSpace c := c ∈ [' ', '\t', '\n', '\r', '\x0b', '\x0c', '\x1c', '\x1d', '\x1e', '\x1f']
  upper c := [c.toUpper]
  lower cs := cs.map Char.toLower
  isLowered c := !c.isUpper
  capitalize
    | [] => []
    | c :: cs => c.toUpper :: cs.map Char.toLower
  isDigit_of_isDecimal _ h := h
  isDecimal_ascii _ _ := rfl
  isSpace_ascii _ _ := by simp
  upper_ascii _ _ := rfl
  lower_ascii _ _ := rfl
  isLowered_lower := by
    intro cs c hc
    obtain ⟨d, -, rfl⟩ := List.mem_map.mp hc
    rw [isUpper_toLower]
    rfl
  lower_of_isLowered := by
    intro cs h
    have hmap : cs.map Char.toLower = cs.map id :=
      List.map_congr_left fun c hc => toLower_eq_self ((Bool.not_eq_true' _).mp (h c hc))
    rw [hmap, List.map_id]
  capitalize_ascii _ _ _ := rfl

end Unicode

end Tfplenum.Lib
