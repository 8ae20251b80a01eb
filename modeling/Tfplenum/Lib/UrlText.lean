/-
  Tfplenum.Lib.UrlText

  Text in URLs: the parameters of a search part and how they are decoded, as the URL
  and encoding standards say.  A plus sign is a space, `%` with two hexadecimal digits
  is a byte, and any other `%` stands for itself; bytes are decoded as UTF-8, where
  what is malformed becomes a replacement character.

  Decoding does not lengthen a text, and shortens it if there is an escape in it
  (`length_decode_lt`); without one it only turns plus signs into spaces
  (`decode_of_not_hasEscape`).  Escapes that have been put in for some characters go
  away again (`decode_escape`).
-/

import Tfplenum.Lib.ReadBack

namespace Tfplenum.Lib.Url

/-! ## Percent-decoding -/

/-- The value of a hexadecimal digit -/
def hexValue (c : Char) : Option Nat :=
  if '0' ≤ c ∧ c ≤ '9' then some (c.toNat - '0'.toNat)
  else if 'a' ≤ c ∧ c ≤ 'f' then some (c.toNat - 'a'.toNat + 10)
  else if 'A' ≤ c ∧ c ≤ 'F' then some (c.toNat - 'A'.toNat + 10)
  else none

/-- A character that stands for itself, or a byte that was escaped -/
inductive Piece where
  | char (c : Char)
  | byte (b : Nat)
deriving DecidableEq, Repr

/-- A plus sign is a space. -/
def plain (c : Char) : Char := if c = '+' then ' ' else c

def pieces : List Char → List Piece
  | [] => []
  | '%' :: a :: b :: cs =>
      match hexValue a, hexValue b with
      | some m, some n => .byte (16 * m + n) :: pieces cs
      | _, _ => .char '%' :: pieces (a :: b :: cs)
  | c :: cs => .char (plain c) :: pieces cs

/-- An escape at the start of the text -/
def escapeAt : List Char → Bool
  | '%' :: a :: b :: _ => (hexValue a).isSome && (hexValue b).isSome
  | _ => false

theorem escapeAt_cons (c a b : Char) (cs : List Char) :
    escapeAt (c :: a :: b :: cs) =
      (decide (c = '%') && ((hexValue a).isSome && (hexValue b).isSome)) := by
  by_cases h : c = '%'
  · subst h
    simp [escapeAt]
  · simp [escapeAt, h]

theorem escapeAt_of_first {c a : Char} (h : hexValue a = none) (cs : List Char) :
    escapeAt (c :: a :: cs) = false := by
  cases cs with
  | nil => simp [escapeAt]
  | cons b cs =>
      rw [escapeAt_cons, h]
      simp

theorem escapeAt_of_second {c a b : Char} (h : hexValue b = none) (cs : List Char) :
    escapeAt (c :: a :: b :: cs) = false := by
  rw [escapeAt_cons, h]
  simp

def hasEscape : List Char → Bool
  | [] => false
  | c :: cs => escapeAt (c :: cs) || hasEscape cs

theorem pieces_cons_of_not_escapeAt {c : Char} {cs : List Char}
    (h : escapeAt (c :: cs) = false) : pieces (c :: cs) = .char (plain c) :: pieces cs := by
  rw [pieces.eq_def]
  split
  · rename_i heq
    cases heq
  · rename_i a b rest heq
    obtain ⟨rfl, rfl⟩ := List.cons.inj heq
    split
    · rename_i m n hm hn
      rw [escapeAt, hm, hn] at h
      cases h
    · rfl
  · rename_i heq
    obtain ⟨rfl, rfl⟩ := List.cons.inj heq
    rfl

theorem exists_of_escapeAt {c : Char} {cs : List Char} (h : escapeAt (c :: cs) = true) :
    ∃ a b rest m n, c = '%' ∧ cs = a :: b :: rest ∧ hexValue a = some m ∧ hexValue b = some n := by
  rw [escapeAt.eq_def] at h
  split at h
  · rename_i a b rest heq
    obtain ⟨rfl, rfl⟩ := List.cons.inj heq
    rw [Bool.and_eq_true, Option.isSome_iff_exists, Option.isSome_iff_exists] at h
    obtain ⟨⟨m, hm⟩, n, hn⟩ := h
    exact ⟨a, b, rest, m, n, rfl, rfl, hm, hn⟩
  · cases h

theorem pieces_cons_of_escape {a b : Char} {m n : Nat} (hm : hexValue a = some m)
    (hn : hexValue b = some n) (cs : List Char) :
    pieces ('%' :: a :: b :: cs) = .byte (16 * m + n) :: pieces cs := by
  rw [pieces, hm, hn]

theorem length_pieces_le (cs : List Char) : (pieces cs).length ≤ cs.length := by
  fun_induction pieces cs with
  | case1 => exact Nat.le_refl 0
  | case2 a b cs m n hm hn ih =>
      simp only [List.length_cons]
      omega
  | case3 a b cs hnot ih =>
      simp only [List.length_cons] at ih ⊢
      omega
  | case4 c cs h ih =>
      simp only [List.length_cons]
      omega

/-- An escape makes fewer pieces than there are characters. -/
theorem length_pieces_lt {cs : List Char} (h : hasEscape cs = true) :
    (pieces cs).length < cs.length := by
  induction cs with
  | nil => cases h
  | cons c cs ih =>
      by_cases hat : escapeAt (c :: cs) = true
      · obtain ⟨a, b, rest, m, n, rfl, rfl, hm, hn⟩ := exists_of_escapeAt hat
        have hle := length_pieces_le rest
        rw [pieces_cons_of_escape hm hn]
        simp only [List.length_cons]
        omega
      · rw [Bool.not_eq_true] at hat
        rw [hasEscape, hat, Bool.false_or] at h
        have hlt := ih h
        rw [pieces_cons_of_not_escapeAt hat]
        simp only [List.length_cons]
        omega

theorem pieces_of_not_hasEscape {cs : List Char} (h : hasEscape cs = false) :
    pieces cs = cs.map fun c => .char (plain c) := by
  induction cs with
  | nil => rfl
  | cons c cs ih =>
      rw [hasEscape, Bool.or_eq_false_iff] at h
      rw [pieces_cons_of_not_escapeAt h.1, ih h.2, List.map_cons]

/-! ## UTF-8 -/

def replacement : Char := '\uFFFD'

/-- The state of the decoder: the bits so far, how many bytes are to come, and within which bounds
    the next one is. -/
structure Utf8State where
  codePoint : Nat
  needed : Nat
  lower : Nat
  upper : Nat
  continuation : 128 ≤ lower

namespace Utf8State

def init : Utf8State := ⟨0, 0, 0x80, 0xBF, by decide⟩

/-- A byte that starts a character -/
def start (b : Nat) : List Char × Utf8State :=
  if b ≤ 0x7F then ([Char.ofNat b], init)
  else if 0xC2 ≤ b ∧ b ≤ 0xDF then ([], { init with codePoint := b % 0x20, needed := 1 })
  else if b = 0xE0 then ([], ⟨0, 2, 0xA0, 0xBF, by decide⟩)
  else if b = 0xED then ([], ⟨0xD, 2, 0x80, 0x9F, by decide⟩)
  else if 0xE0 ≤ b ∧ b ≤ 0xEF then ([], { init with codePoint := b % 0x10, needed := 2 })
  else if b = 0xF0 then ([], ⟨0, 3, 0x90, 0xBF, by decide⟩)
  else if b = 0xF4 then ([], ⟨4, 3, 0x80, 0x8F, by decide⟩)
  else if 0xF0 ≤ b ∧ b ≤ 0xF4 then ([], { init with codePoint := b % 8, needed := 3 })
  else ([replacement], init)

/-- One piece; a character that is cut off is replaced. -/
def feed (s : Utf8State) : Piece → List Char × Utf8State
  | .char c => (if s.needed = 0 then [c] else [replacement, c], init)
  | .byte b =>
      if s.needed = 0 then start b
      else if s.lower ≤ b ∧ b ≤ s.upper then
        let codePoint := s.codePoint * 64 + b % 64
        if s.needed = 1 then ([Char.ofNat codePoint], init)
        else ([], { init with codePoint, needed := s.needed - 1 })
      else (replacement :: (start b).1, (start b).2)

def decode : Utf8State → List Piece → List Char
  | s, [] => if s.needed = 0 then [] else [replacement]
  | s, p :: ps => (s.feed p).1 ++ decode (s.feed p).2 ps

/-- What is still to come out of the state itself -/
def pending (s : Utf8State) : Nat := if s.needed = 0 then 0 else 1

theorem length_start_le (b : Nat) : (start b).1.length + (start b).2.pending ≤ 1 := by
  simp only [start]
  split_ifs <;> simp [pending, init]

theorem length_feed_le (s : Utf8State) (p : Piece) :
    (s.feed p).1.length + (s.feed p).2.pending ≤ 1 + s.pending := by
  cases p with
  | char c =>
      simp only [feed, pending]
      split_ifs <;> simp_all [init]
  | byte b =>
      have hstart := length_start_le b
      simp only [feed]
      split_ifs with h0 hwithin h1
      · omega
      · simp [pending, init]
      · simp only [pending, h0, if_false, List.length_nil]
        split <;> omega
      · simp only [List.length_cons]
        have : s.pending = 1 := if_neg h0
        omega

theorem length_decode_le (s : Utf8State) (ps : List Piece) :
    (s.decode ps).length ≤ ps.length + s.pending := by
  induction ps generalizing s with
  | nil =>
      rw [decode, pending]
      split <;> simp
  | cons p ps ih =>
      have hfeed := length_feed_le s p
      have hrest := ih (s.feed p).2
      rw [decode, List.length_append, List.length_cons]
      omega

end Utf8State

/-- The decoded text -/
def decode (cs : List Char) : List Char := Utf8State.init.decode (pieces cs)

theorem length_decode_le (cs : List Char) : (decode cs).length ≤ cs.length := by
  have hutf8 := Utf8State.length_decode_le .init (pieces cs)
  have hpieces := length_pieces_le cs
  have hinit : Utf8State.init.pending = 0 := rfl
  rw [decode]
  omega

theorem length_decode_lt {cs : List Char} (h : hasEscape cs = true) :
    (decode cs).length < cs.length := by
  have hutf8 := Utf8State.length_decode_le .init (pieces cs)
  have hpieces := length_pieces_lt h
  have hinit : Utf8State.init.pending = 0 := rfl
  rw [decode]
  omega

theorem decode_of_not_hasEscape {cs : List Char} (h : hasEscape cs = false) :
    decode cs = cs.map plain := by
  rw [decode, pieces_of_not_hasEscape h]
  clear h
  induction cs with
  | nil => rfl
  | cons c cs ih => exact congrArg (plain c :: ·) ih

theorem plain_eq_self_iff {c : Char} : plain c = c ↔ c ≠ '+' := by
  rw [plain]
  split
  · rename_i h
    rw [h]
    decide
  · rename_i h
    exact iff_of_true rfl h

theorem map_plain_eq_self_iff {cs : List Char} : cs.map plain = cs ↔ '+' ∉ cs := by
  induction cs with
  | nil => simp
  | cons c cs ih =>
      rw [List.map_cons, List.cons.injEq, ih, plain_eq_self_iff, List.mem_cons, not_or,
        ne_comm]

/-- What decoding leaves as it is has neither escapes nor plus signs in it. -/
theorem decode_eq_self_iff {cs : List Char} : decode cs = cs ↔ hasEscape cs = false ∧ '+' ∉ cs := by
  constructor
  · intro h
    have hno : hasEscape cs = false := by
      rw [← Bool.not_eq_true]
      intro hyes
      have hlt := length_decode_lt hyes
      rw [h] at hlt
      exact Nat.lt_irrefl _ hlt
    rw [decode_of_not_hasEscape hno] at h
    exact ⟨hno, map_plain_eq_self_iff.mp h⟩
  · rintro ⟨hno, hplus⟩
    rw [decode_of_not_hasEscape hno]
    exact map_plain_eq_self_iff.mpr hplus

/-! ## Escapes -/

def hexDigit (n : Nat) : Char := Char.ofNat (if n < 10 then 48 + n else 55 + n)

/-- The escape of an ASCII character -/
def percent (c : Char) : List Char := ['%', hexDigit (c.toNat / 16), hexDigit (c.toNat % 16)]

/-- Escapes for the characters of a kind -/
def escape (special : Char → Bool) (cs : List Char) : List Char :=
  cs.flatMap fun c => if special c then percent c else [c]

/-- Characters whose escapes mean themselves and which have no part in other escapes -/
structure Escapable (special : Char → Bool) : Prop where
  ascii : ∀ c, special c = true → c.toNat < 128
  digits : ∀ c, special c = true → hexValue c = none
  percent : special '%' = false
  plus : special '+' = false

section Escape

variable {special : Char → Bool} {c : Char} {cs : List Char}

theorem escape_cons_of_special (h : special c = true) :
    escape special (c :: cs) = percent c ++ escape special cs := by
  rw [escape, List.flatMap_cons, if_pos h]
  rfl

theorem escape_cons_of_not (h : special c = false) :
    escape special (c :: cs) = c :: escape special cs := by
  rw [escape, List.flatMap_cons, if_neg (by rw [h]; decide)]
  rfl

theorem hexValue_hexDigit {n : Nat} (h : n < 16) : hexValue (hexDigit n) = some n := by
  revert n
  decide

/-- Whether a text starts with an escape is not changed by escapes after its first character. -/
theorem escapeAt_escape (hspecial : Escapable special) (c : Char) (cs : List Char) :
    escapeAt (c :: escape special cs) = escapeAt (c :: cs) := by
  have hpercent : hexValue '%' = none := by decide
  cases cs with
  | nil => rfl
  | cons a cs =>
      by_cases ha : special a = true
      · rw [escape_cons_of_special ha, escapeAt_of_first (hspecial.digits a ha)]
        exact escapeAt_of_first hpercent _
      · rw [Bool.not_eq_true] at ha
        rw [escape_cons_of_not ha]
        cases cs with
        | nil => rfl
        | cons b cs =>
            by_cases hb : special b = true
            · rw [escape_cons_of_special hb, escapeAt_of_second (hspecial.digits b hb)]
              exact escapeAt_of_second hpercent _
            · rw [Bool.not_eq_true] at hb
              rw [escape_cons_of_not hb, escapeAt_cons, escapeAt_cons]

theorem pieces_percent (h : c.toNat < 128) (cs : List Char) :
    pieces (percent c ++ cs) = .byte c.toNat :: pieces cs := by
  have hfirst : hexValue (hexDigit (c.toNat / 16)) = some (c.toNat / 16) :=
    hexValue_hexDigit (by omega)
  have hsecond : hexValue (hexDigit (c.toNat % 16)) = some (c.toNat % 16) :=
    hexValue_hexDigit (by omega)
  show pieces ('%' :: hexDigit (c.toNat / 16) :: hexDigit (c.toNat % 16) :: cs) = _
  rw [pieces_cons_of_escape hfirst hsecond, Nat.div_add_mod]

/-- An ASCII character may as well be escaped, also after a character that is cut off. -/
theorem Utf8State.feed_byte (s : Utf8State) (h : c.toNat < 128) :
    s.feed (.byte c.toNat) = s.feed (.char c) := by
  have hstart : start c.toNat = ([c], init) := by
    rw [start, if_pos (by omega), Char.ofNat_toNat]
  have hlower := s.continuation
  simp only [feed, hstart]
  split_ifs with h0 hwithin
  · rfl
  · omega
  · omega
  · rfl

theorem decode_pieces_escape (hspecial : Escapable special) (s : Utf8State) (cs : List Char) :
    s.decode (pieces (escape special cs)) = s.decode (pieces cs) := by
  -- on the length: an escape takes three characters at once
  induction hlen : cs.length using Nat.strongRecOn generalizing s cs with
  | ind n ih =>
      cases cs with
      | nil => rfl
      | cons c cs =>
          rw [List.length_cons] at hlen
          by_cases hc : special c = true
          · have hat : escapeAt (c :: cs) = false := by
              rw [← Bool.not_eq_true]
              intro hat
              obtain ⟨a, b, rest, m, n, rfl, -⟩ := exists_of_escapeAt hat
              rw [hspecial.percent] at hc
              cases hc
            have hplain : plain c = c := by
              refine plain_eq_self_iff.mpr ?_
              rintro rfl
              rw [hspecial.plus] at hc
              cases hc
            rw [escape_cons_of_special hc, pieces_percent (hspecial.ascii c hc),
              pieces_cons_of_not_escapeAt hat, hplain, Utf8State.decode, Utf8State.decode,
              s.feed_byte (hspecial.ascii c hc), ih cs.length (by omega) _ cs rfl]
          · rw [Bool.not_eq_true] at hc
            have hescape := escapeAt_escape hspecial c cs
            rw [escape_cons_of_not hc]
            by_cases hat : escapeAt (c :: cs) = true
            · obtain ⟨a, b, rest, m, n, rfl, rfl, hm, hn⟩ := exists_of_escapeAt hat
              -- the digits of an escape are not escaped themselves
              have hdigit : ∀ d k, hexValue d = some k → special d = false := by
                intro d k hk
                rw [← Bool.not_eq_true]
                intro hd
                rw [hspecial.digits d hd] at hk
                cases hk
              simp only [List.length_cons] at hlen
              rw [escape_cons_of_not (hdigit a m hm), escape_cons_of_not (hdigit b n hn),
                pieces_cons_of_escape hm hn, pieces_cons_of_escape hm hn, Utf8State.decode,
                Utf8State.decode, ih rest.length (by omega) _ rest rfl]
            · rw [Bool.not_eq_true] at hat
              rw [hat] at hescape
              rw [pieces_cons_of_not_escapeAt hat, pieces_cons_of_not_escapeAt hescape,
                Utf8State.decode, Utf8State.decode, ih cs.length (by omega) _ cs rfl]

/-- Escapes go away again. -/
theorem decode_escape (hspecial : Escapable special) (cs : List Char) :
    decode (escape special cs) = decode cs :=
  decode_pieces_escape hspecial .init cs

theorem escape_append (cs ds : List Char) :
    escape special (cs ++ ds) = escape special cs ++ escape special ds :=
  List.flatMap_append

theorem escape_joined {α : Type} (sep : List Char) (print : α → List Char) (as : List α) :
    escape special (joined sep print as) =
      joined (escape special sep) (fun a => escape special (print a)) as := by
  cases as with
  | nil => rfl
  | cons a as =>
      rw [joined_cons, joined_cons, escape_append]
      congr 1
      induction as with
      | nil => rfl
      | cons b as ih =>
          rw [following, List.flatMap_cons, escape_append, escape_append]
          exact congrArg (escape special sep ++ escape special (print b) ++ ·) ih

theorem escape_eq_self (h : ∀ c ∈ cs, special c = false) : escape special cs = cs := by
  induction cs with
  | nil => rfl
  | cons c cs ih =>
      rw [List.forall_mem_cons] at h
      rw [escape_cons_of_not h.1, ih h.2]

theorem mem_escape {d : Char} (h : d ∈ escape special cs) :
    d ∈ cs ∨ ∃ c, special c = true ∧ d ∈ percent c := by
  obtain ⟨c, hc, hd⟩ := List.mem_flatMap.mp h
  split at hd
  · rename_i hspecial
    exact .inr ⟨c, hspecial, hd⟩
  · rw [List.mem_singleton.mp hd]
    exact .inl hc

section Kept

variable {p : Char → Bool}
  (hp : ∀ c, special c = true → p c = true ∧ ∀ d ∈ percent c, p d = true)
include hp

/-- A filter, or a cut, that concerns neither the escapes nor what is escaped -/
theorem filter_escape (cs : List Char) :
    (escape special cs).filter p = escape special (cs.filter p) := by
  induction cs with
  | nil => rfl
  | cons c cs ih =>
      by_cases hc : special c = true
      · have hall : (percent c).filter p = percent c := List.filter_eq_self.mpr (hp c hc).2
        rw [escape_cons_of_special hc, List.filter_append, ih, hall,
          List.filter_cons_of_pos (hp c hc).1, escape_cons_of_special hc]
      · rw [Bool.not_eq_true] at hc
        rw [escape_cons_of_not hc, List.filter_cons, List.filter_cons, ih]
        split
        · rw [escape_cons_of_not hc]
        · rfl

theorem takeWhile_escape (cs : List Char) :
    (escape special cs).takeWhile p = escape special (cs.takeWhile p) := by
  induction cs with
  | nil => rfl
  | cons c cs ih =>
      by_cases hc : special c = true
      · rw [escape_cons_of_special hc, List.takeWhile_append_of_pos (hp c hc).2, ih,
          List.takeWhile_cons_of_pos (hp c hc).1, escape_cons_of_special hc]
      · rw [Bool.not_eq_true] at hc
        rw [escape_cons_of_not hc, List.takeWhile_cons, List.takeWhile_cons, ih]
        split
        · rw [escape_cons_of_not hc]
        · rfl

end Kept

end Escape

/-! ## The parts of a URL -/

/-- The characters that are taken out of a URL before it is read -/
def isTabOrNewline (c : Char) : Bool := c = '\t' || c = '\n' || c = '\r'

/-- What comes after a character for the first time -/
def after (c : Char) (cs : List Char) : List Char := (cs.dropWhile (· ≠ c)).drop 1

def beforeFragment (url : List Char) : List Char :=
  (url.filter (!isTabOrNewline ·)).takeWhile (· ≠ '#')

/-- The fragment of a URL -/
def fragment (url : List Char) : List Char := after '#' (url.filter (!isTabOrNewline ·))

/-- What comes before the parameters and the fragment -/
def path (url : List Char) : List Char := (beforeFragment url).takeWhile (· ≠ '?')

/-- The search part of a URL -/
def search (url : List Char) : List Char := after '?' (beforeFragment url)

/-- The value of the first parameter of a name -/
def param (name : List Char) (search : List Char) : Option (List Char) :=
  ((search.splitOn '&').find? fun part => decode (part.takeWhile (· ≠ '=')) = name).map
    fun part => decode (after '=' part)

/-- What is left of a text that is put into a URL as the value of a parameter -/
def cut (cs : List Char) : List Char := (beforeFragment cs).takeWhile (· ≠ '&')

/-- The characters that stay in the part of the URL that they are put into -/
def stays (c : Char) : Bool := !isTabOrNewline c && c ≠ '#' && c ≠ '&'

theorem all_ne_of_notMem {c : Char} {cs : List Char} (h : c ∉ cs) :
    ∀ d ∈ cs, (decide (d ≠ c)) = true := by
  intro d hd
  rw [decide_eq_true_eq]
  rintro rfl
  exact h hd

theorem after_append {c : Char} {pre : List Char} (h : c ∉ pre) (cs : List Char) :
    after c (pre ++ c :: cs) = cs := by
  rw [after, List.dropWhile_append_of_pos (all_ne_of_notMem h),
    List.dropWhile_cons_of_neg (by simp)]
  rfl

theorem beforeFragment_append {pre : List Char} (h : '#' ∉ pre) (cs : List Char) :
    beforeFragment (pre ++ cs) = pre.filter (!isTabOrNewline ·) ++ beforeFragment cs := by
  have h' : '#' ∉ pre.filter (!isTabOrNewline ·) := fun hmem => h (List.mem_filter.mp hmem).1
  rw [beforeFragment, List.filter_append, List.takeWhile_append_of_pos (all_ne_of_notMem h')]
  rfl

theorem beforeFragment_cons {c : Char} (h : stays c = true) (cs : List Char) :
    beforeFragment (c :: cs) = c :: beforeFragment cs := by
  simp only [stays, Bool.and_eq_true] at h
  rw [beforeFragment, List.filter_cons_of_pos (p := fun d => !isTabOrNewline d) h.1.1,
    List.takeWhile_cons_of_pos (p := fun d => d ≠ '#') h.1.2]
  rfl

theorem beforeFragment_filter (url : List Char) :
    beforeFragment (url.filter (!isTabOrNewline ·)) = beforeFragment url := by
  rw [beforeFragment, List.filter_filter]
  simp only [Bool.and_self]
  rfl

section Parts

variable {pre : List Char} (hquestion : '?' ∉ pre) (hhash : '#' ∉ pre) (cs : List Char)
include hhash

theorem fragment_append : fragment (pre ++ '#' :: cs) = cs.filter (!isTabOrNewline ·) := by
  have hhash' : '#' ∉ pre.filter (!isTabOrNewline ·) := fun h => hhash (List.mem_filter.mp h).1
  rw [fragment, List.filter_append, List.filter_cons_of_pos (by decide), after_append hhash']

/-- A fragment that is a URL itself -/
theorem search_fragment : search (fragment (pre ++ '#' :: cs)) = search cs := by
  rw [fragment_append hhash, search, beforeFragment_filter]
  rfl

include hquestion

theorem search_append : search (pre ++ '?' :: cs) = beforeFragment cs := by
  have hquestion' : '?' ∉ pre.filter (!isTabOrNewline ·) :=
    fun h => hquestion (List.mem_filter.mp h).1
  rw [search, beforeFragment_append hhash, beforeFragment_cons (by decide),
    after_append hquestion']

theorem path_append_search :
    path (pre ++ '?' :: cs) = pre.filter (!isTabOrNewline ·) := by
  have hquestion' : '?' ∉ pre.filter (!isTabOrNewline ·) :=
    fun h => hquestion (List.mem_filter.mp h).1
  rw [path, beforeFragment_append hhash, beforeFragment_cons (by decide),
    List.takeWhile_append_of_pos (all_ne_of_notMem hquestion'),
    List.takeWhile_cons_of_neg (by decide), List.append_nil]

theorem path_append_fragment :
    path (pre ++ '#' :: cs) = pre.filter (!isTabOrNewline ·) := by
  have hquestion' : '?' ∉ pre.filter (!isTabOrNewline ·) :=
    fun h => hquestion (List.mem_filter.mp h).1
  have hrest : beforeFragment ('#' :: cs) = [] := by
    rw [beforeFragment, List.filter_cons_of_pos (by decide), List.takeWhile_cons_of_neg (by decide)]
  rw [path, beforeFragment_append hhash, hrest, List.append_nil]
  exact List.takeWhile_eq_self_iff.mpr (all_ne_of_notMem hquestion')

end Parts

/-! ## Values of parameters -/

theorem cut_eq (cs : List Char) :
    cut cs = (cs.filter (!isTabOrNewline ·)).takeWhile fun c => c ≠ '&' && c ≠ '#' := by
  rw [cut, beforeFragment, List.takeWhile_takeWhile]
  congr 1
  funext c
  simp

theorem cut_sublist (cs : List Char) : (cut cs).Sublist cs :=
  (cut_eq cs ▸ List.takeWhile_sublist _).trans List.filter_sublist

theorem stays_of_mem_cut {cs : List Char} {c : Char} (h : c ∈ cut cs) : stays c = true := by
  rw [cut_eq] at h
  have hends := List.mem_takeWhile_imp h
  have htab := (List.mem_filter.mp ((List.takeWhile_sublist _).mem h)).2
  simp only [stays, Bool.and_eq_true] at hends ⊢
  exact ⟨⟨htab, hends.2⟩, hends.1⟩

/-- Nothing is cut off if and only if all characters stay. -/
theorem cut_eq_self_iff {cs : List Char} : cut cs = cs ↔ ∀ c ∈ cs, stays c = true := by
  constructor
  · intro h c hc
    rw [← h] at hc
    exact stays_of_mem_cut hc
  · intro h
    simp only [stays, Bool.and_eq_true] at h
    rw [cut_eq, List.filter_eq_self.mpr fun c hc => (h c hc).1.1, List.takeWhile_eq_self_iff]
    intro c hc
    rw [Bool.and_eq_true]
    exact ⟨(h c hc).2, (h c hc).1.2⟩

theorem beforeFragment_append_of_stays {cs : List Char} (h : ∀ c ∈ cs, stays c = true)
    (ds : List Char) : beforeFragment (cs ++ ds) = cs ++ beforeFragment ds := by
  induction cs with
  | nil => rfl
  | cons c cs ih =>
      rw [List.forall_mem_cons] at h
      rw [List.cons_append, beforeFragment_cons h.1, ih h.2, List.cons_append]

/-- The next parameter is not part of the value. -/
theorem takeWhile_beforeFragment {tail : List Char} (htail : AtEnd ['&'] tail) (cs : List Char) :
    (beforeFragment (cs ++ tail)).takeWhile (· ≠ '&') = cut cs := by
  have hend : cut tail = [] := by
    rcases htail with rfl | ⟨rest, rfl⟩
    · rfl
    · rw [List.singleton_append, cut, beforeFragment, List.filter_cons_of_pos (by decide),
        List.takeWhile_cons_of_pos (by decide), List.takeWhile_cons_of_neg (by decide)]
  show cut (cs ++ tail) = cut cs
  rw [cut_eq] at hend ⊢
  rw [cut_eq, List.filter_append, List.takeWhile_append]
  split
  · rename_i hlength
    rw [hend, List.append_nil]
    exact ((List.takeWhile_sublist _).eq_of_length hlength).symm
  · rfl

theorem exists_splitOn_eq (c : Char) (cs : List Char) :
    ∃ rest, cs.splitOn c = cs.takeWhile (· ≠ c) :: rest := by
  by_cases h : c ∈ cs
  · obtain ⟨before, rest, rfl, hbefore⟩ := List.eq_append_cons_of_mem h
    refine ⟨rest.splitOn c, ?_⟩
    rw [List.splitOn_append_cons_self_of_not_mem hbefore,
      List.takeWhile_append_of_pos (all_ne_of_notMem hbefore),
      List.takeWhile_cons_of_neg (by simp), List.append_nil]
  · refine ⟨[], ?_⟩
    rw [List.splitOn_eq_singleton h, List.takeWhile_eq_self_iff.mpr (all_ne_of_notMem h)]

/-- A name that stands for itself -/
structure IsName (name : List Char) : Prop where
  stays : ∀ c ∈ name, stays c = true
  equals : '=' ∉ name
  decode_eq : decode name = name

theorem IsName.takeWhile_eq {name : List Char} (h : IsName name) (cs : List Char) :
    (name ++ '=' :: cs).takeWhile (· ≠ '=') = name := by
  rw [List.takeWhile_append_of_pos (all_ne_of_notMem h.equals),
    List.takeWhile_cons_of_neg (by decide), List.append_nil]

/-- The first parameter, up to where the next one may begin -/
theorem param_first {name tail : List Char} (hname : IsName name) (htail : AtEnd ['&'] tail)
    (value : List Char) :
    param name (beforeFragment (name ++ '=' :: (value ++ tail))) = some (decode (cut value)) := by
  have hamp : '&' ∉ name := fun h => by
    have hstays := hname.stays _ h
    revert hstays
    decide
  obtain ⟨rest, hsplit⟩ :=
    exists_splitOn_eq '&' (name ++ '=' :: beforeFragment (value ++ tail))
  have hpart : (name ++ '=' :: beforeFragment (value ++ tail)).takeWhile (· ≠ '&') =
      name ++ '=' :: cut value := by
    rw [List.takeWhile_append_of_pos (all_ne_of_notMem hamp),
      List.takeWhile_cons_of_pos (by decide), takeWhile_beforeFragment htail]
  rw [beforeFragment_append_of_stays hname.stays, beforeFragment_cons (by decide), param, hsplit,
    hpart, List.find?_cons_of_pos]
  · rw [Option.map_some, after_append hname.equals]
  · rw [hname.takeWhile_eq, hname.decode_eq]
    exact decide_eq_true rfl

theorem param_last {name : List Char} (hname : IsName name) (value : List Char) :
    param name (beforeFragment (name ++ '=' :: value)) = some (decode (cut value)) := by
  have hfirst := param_first hname (.inl rfl) value
  rwa [List.append_nil] at hfirst

/-- A parameter of another name is passed over. -/
theorem param_skip {name other value : List Char} (hother : IsName other) (hne : other ≠ name)
    (hvalue : ∀ c ∈ value, stays c = true) (cs : List Char) :
    param name (beforeFragment (other ++ '=' :: (value ++ '&' :: cs))) =
      param name (beforeFragment cs) := by
  have hpart : ∀ c ∈ other ++ '=' :: value, stays c = true := by
    rw [List.forall_mem_append, List.forall_mem_cons]
    exact ⟨hother.stays, by decide, hvalue⟩
  have hamp : '&' ∉ other ++ '=' :: value := fun h => by
    have hstays := hpart _ h
    revert hstays
    decide
  have hsplit : other ++ '=' :: (value ++ '&' :: cs) = (other ++ '=' :: value) ++ ('&' :: cs) := by
    rw [List.append_assoc, List.cons_append]
  have hrest : beforeFragment ('&' :: cs) = '&' :: beforeFragment cs := by
    rw [beforeFragment, List.filter_cons_of_pos (by decide), List.takeWhile_cons_of_pos (by decide)]
    rfl
  rw [hsplit, beforeFragment_append_of_stays hpart, hrest, param,
    List.splitOn_append_cons_self_of_not_mem hamp, List.find?_cons_of_neg]
  · rfl
  · rw [hother.takeWhile_eq, hother.decode_eq]
    simpa using hne

theorem param_eq_none {name other value : List Char} (hother : IsName other) (hne : other ≠ name)
    (hvalue : ∀ c ∈ value, stays c = true) :
    param name (beforeFragment (other ++ '=' :: value)) = none := by
  have hpart : ∀ c ∈ other ++ '=' :: value, stays c = true := by
    rw [List.forall_mem_append, List.forall_mem_cons]
    exact ⟨hother.stays, by decide, hvalue⟩
  have hamp : '&' ∉ other ++ '=' :: value := fun h => by
    have hstays := hpart _ h
    revert hstays
    decide
  have hall := beforeFragment_append_of_stays hpart []
  rw [List.append_nil] at hall
  rw [hall, param, List.splitOn_eq_singleton (by rwa [beforeFragment, List.filter_nil,
    List.takeWhile_nil, List.append_nil]), beforeFragment, List.filter_nil, List.takeWhile_nil,
    List.append_nil, List.find?_cons_of_neg]
  · rfl
  · rw [hother.takeWhile_eq, hother.decode_eq]
    simpa using hne

/-- The characters, `%` apart, that do not stand for themselves in the value of a parameter -/
def isReserved (c : Char) : Bool := !stays c || c = '+'

/-- A text that is the same after it has been the value of a parameter -/
structure Survives (cs : List Char) : Prop where
  plain : ∀ c ∈ cs, isReserved c = false
  escapes : hasEscape cs = false

instance (cs : List Char) : Decidable (Survives cs) :=
  decidable_of_iff ((∀ c ∈ cs, isReserved c = false) ∧ hasEscape cs = false)
    ⟨fun h => ⟨h.1, h.2⟩, fun h => ⟨h.plain, h.escapes⟩⟩

theorem not_reserved_iff {c : Char} : isReserved c = false ↔ stays c = true ∧ c ≠ '+' := by
  simp [isReserved]

section Survives

variable {cs : List Char}

theorem Survives.stays (h : Survives cs) : ∀ c ∈ cs, Url.stays c = true :=
  fun c hc => (not_reserved_iff.mp (h.plain c hc)).1

theorem Survives.cut_eq (h : Survives cs) : cut cs = cs := cut_eq_self_iff.mpr h.stays

theorem Survives.decode_eq (h : Survives cs) : decode cs = cs :=
  decode_eq_self_iff.mpr ⟨h.escapes, fun hc => (not_reserved_iff.mp (h.plain _ hc)).2 rfl⟩

theorem Survives.isName (h : Survives cs) (hequals : '=' ∉ cs) : IsName cs :=
  ⟨h.stays, hequals, h.decode_eq⟩

/-- A text comes out of a parameter as it went in if and only if there is nothing special in it:
    whatever is cut off or decoded makes it shorter. -/
theorem decode_cut_eq_self_iff : decode (cut cs) = cs ↔ Survives cs := by
  constructor
  · intro h
    have hdecode := length_decode_le (cut cs)
    rw [h] at hdecode
    have hcut : cut cs = cs := (cut_sublist cs).eq_of_length_le hdecode
    rw [hcut] at h
    obtain ⟨hescape, hplus⟩ := decode_eq_self_iff.mp h
    refine ⟨fun c hc => ?_, hescape⟩
    exact not_reserved_iff.mpr ⟨cut_eq_self_iff.mp hcut c hc, fun hc' => hplus (hc' ▸ hc)⟩
  · intro h
    rw [h.cut_eq, h.decode_eq]

end Survives

/-! ## Escapes in values -/

theorem stays_hexDigit {n : Nat} (h : n < 16) : stays (hexDigit n) = true := by
  revert n
  decide

theorem stays_of_mem_percent {c d : Char} (hc : c.toNat < 128) (hd : d ∈ percent c) :
    stays d = true := by
  simp only [percent, List.mem_cons, List.not_mem_nil, or_false] at hd
  rcases hd with rfl | rfl | rfl
  · decide
  · exact stays_hexDigit (by omega)
  · exact stays_hexDigit (by omega)

theorem decode_cut_escape {special : Char → Bool} (hspecial : Escapable special)
    (hstays : ∀ c, special c = true → stays c = true) (cs : List Char) :
    decode (cut (escape special cs)) = decode (cut cs) := by
  have hall : ∀ c, special c = true → stays c = true ∧ ∀ d ∈ percent c, stays d = true :=
    fun c hc => ⟨hstays c hc, fun d hd => stays_of_mem_percent (hspecial.ascii c hc) hd⟩
  simp only [stays, Bool.and_eq_true] at hall
  rw [cut_eq, cut_eq, filter_escape fun c hc => ?_, takeWhile_escape fun c hc => ?_,
    decode_escape hspecial]
  · simp only [Bool.and_eq_true]
    exact ⟨⟨(hall c hc).1.2, (hall c hc).1.1.2⟩,
      fun d hd => ⟨((hall c hc).2 d hd).2, ((hall c hc).2 d hd).1.2⟩⟩
  · exact ⟨(hall c hc).1.1.1, fun d hd => ((hall c hc).2 d hd).1.1⟩

/-- The characters that `encodeURIComponent` leaves as they are -/
def isUnescaped (c : Char) : Bool :=
  c.isAlphanum || ['-', '_', '.', '!', '~', '*', '\'', '(', ')'].contains c

def encodeURIComponent (cs : List Char) : List Char :=
  cs.flatMap fun c =>
    if isUnescaped c then [c]
    else (String.utf8EncodeChar c).flatMap fun b =>
      ['%', hexDigit (b.toNat / 16), hexDigit (b.toNat % 16)]

theorem stays_of_isUnescaped {c : Char} (h : isUnescaped c = true) : stays c = true := by
  have hnot : ∀ d ∈ ['\t', '\n', '\r', '#', '&'], isUnescaped d = false := by decide
  rw [← Bool.not_eq_false]
  intro hstays
  have hmem : c ∈ ['\t', '\n', '\r', '#', '&'] := by
    simp only [stays, isTabOrNewline, Bool.and_eq_false_iff, Bool.not_eq_false',
      Bool.or_eq_true, decide_eq_true_eq, decide_eq_false_iff_not, ne_eq, not_not] at hstays
    simp only [List.mem_cons, List.not_mem_nil, or_false]
    tauto
  rw [hnot c hmem] at h
  cases h

theorem stays_of_mem_encodeURIComponent {cs : List Char} :
    ∀ c ∈ encodeURIComponent cs, stays c = true := by
  intro c h
  obtain ⟨d, -, hd⟩ := List.mem_flatMap.mp h
  split at hd
  · rename_i hunescaped
    rw [List.mem_singleton.mp hd]
    exact stays_of_isUnescaped hunescaped
  · obtain ⟨b, -, hb⟩ := List.mem_flatMap.mp hd
    have hlt := b.toNat_lt
    simp only [List.mem_cons, List.not_mem_nil, or_false] at hb
    rcases hb with rfl | rfl | rfl
    · decide
    · exact stays_hexDigit (by omega)
    · exact stays_hexDigit (by omega)

/-! ## Texts that survive -/

theorem hasEscape_cons_of_ne {c : Char} (h : c ≠ '%') (cs : List Char) :
    hasEscape (c :: cs) = hasEscape cs := by
  have hat : escapeAt (c :: cs) = false := by
    rw [← Bool.not_eq_true]
    intro hat
    obtain ⟨a, b, rest, m, n, hc, -⟩ := exists_of_escapeAt hat
    exact h hc
  rw [hasEscape, hat, Bool.false_or]

theorem hasEscape_of_notMem {cs : List Char} (h : '%' ∉ cs) : hasEscape cs = false := by
  induction cs with
  | nil => rfl
  | cons c cs ih =>
      rw [List.mem_cons, not_or] at h
      rw [hasEscape_cons_of_ne (Ne.symm h.1), ih h.2]

/-- No escape runs over a character that is not a digit. -/
theorem hasEscape_append {c : Char} (h : hexValue c = none) (cs ds : List Char) :
    hasEscape (cs ++ c :: ds) = (hasEscape cs || hasEscape (c :: ds)) := by
  induction cs with
  | nil => rfl
  | cons a cs ih =>
      have hat : escapeAt (a :: (cs ++ c :: ds)) = escapeAt (a :: cs) := by
        cases cs with
        | nil =>
            have hshort : escapeAt [a] = false := by simp [escapeAt]
            exact (escapeAt_of_first h ds).trans hshort.symm
        | cons b cs =>
            cases cs with
            | nil =>
                have hshort : escapeAt [a, b] = false := by simp [escapeAt]
                exact (escapeAt_of_second h ds).trans hshort.symm
            | cons d cs =>
                show escapeAt (a :: b :: d :: (cs ++ c :: ds)) = _
                rw [escapeAt_cons, escapeAt_cons]
      rw [List.cons_append, hasEscape, hat, ih, ← Bool.or_assoc, ← hasEscape]

/-- Texts between which a URL is the same whatever stands before and after -/
def isSeparator : List Char → Bool
  | [] => false
  | c :: cs => (hexValue c).isNone && (c :: cs).all fun d => d ≠ '%' && !isReserved d

theorem survives_nil : Survives [] := ⟨by simp, rfl⟩

theorem survives_append_of_plain {cs : List Char}
    (h : ∀ c ∈ cs, (c ≠ '%' && !isReserved c) = true) (ds : List Char) :
    Survives (cs ++ ds) ↔ Survives ds := by
  induction cs with
  | nil => rfl
  | cons c cs ih =>
      rw [List.forall_mem_cons, Bool.and_eq_true, decide_eq_true_eq, Bool.not_eq_true'] at h
      obtain ⟨⟨hpercent, hplain⟩, hrest⟩ := h
      rw [← ih hrest, List.cons_append]
      constructor
      · intro hall
        refine ⟨fun d hd => hall.plain d (List.mem_cons_of_mem _ hd), ?_⟩
        rw [← hasEscape_cons_of_ne hpercent]
        exact hall.escapes
      · intro htail
        refine ⟨List.forall_mem_cons.mpr ⟨hplain, htail.plain⟩, ?_⟩
        rw [hasEscape_cons_of_ne hpercent]
        exact htail.escapes

theorem survives_separated_iff {sep : List Char} (h : isSeparator sep = true)
    (cs ds : List Char) : Survives (cs ++ (sep ++ ds)) ↔ Survives cs ∧ Survives ds := by
  cases sep with
  | nil => cases h
  | cons c sep =>
      rw [isSeparator, Bool.and_eq_true, Option.isNone_iff_eq_none, List.all_eq_true] at h
      obtain ⟨hhex, hall⟩ := h
      have hsep := survives_append_of_plain hall ds
      rw [← hsep, List.cons_append]
      constructor
      · intro hboth
        have hescapes := hboth.escapes
        rw [hasEscape_append hhex, Bool.or_eq_false_iff] at hescapes
        exact ⟨⟨fun d hd => hboth.plain d (List.mem_append_left _ hd), hescapes.1⟩,
          ⟨fun d hd => hboth.plain d (List.mem_append_right _ hd), hescapes.2⟩⟩
      · rintro ⟨hleft, hright⟩
        refine ⟨List.forall_mem_append.mpr ⟨hleft.plain, hright.plain⟩, ?_⟩
        rw [hasEscape_append hhex, hleft.escapes, hright.escapes, Bool.or_false]

theorem survives_joined_iff {α : Type} {sep : List Char} (h : isSeparator sep = true)
    {print : α → List Char} {as : List α} :
    Survives (joined sep print as) ↔ ∀ a ∈ as, Survives (print a) := by
  induction as with
  | nil => exact iff_of_true survives_nil (by simp)
  | cons a as ih =>
      rw [joined_cons, List.forall_mem_cons]
      cases as with
      | nil =>
          rw [following, List.flatMap_nil, List.append_nil]
          simp
      | cons b as => rw [following_cons, survives_separated_iff h, ih]

end Tfplenum.Lib.Url
