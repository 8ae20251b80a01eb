/-
  Tfplenum.Utils.HostText

  `is_ipv4_address` and `fix_hostname` of `utils/utils.py`, for text of any script.

  The pieces of an address are read by `int`, which takes signs, blanks, underscores and
  the digits of other scripts, and the suffix is put behind a name that does not contain
  it anywhere (`hostText_iff`).  For ASCII text the two functions are those that
  `service/agent_service.py` is modelled with (`isIpv4Address_of_ascii`).
-/

import Tfplenum.Service.AgentService

namespace Tfplenum

open Lib

namespace HostText

/-! ## The functions -/

section

variable (u : DecimalTable)

/-- `is_ipv4_address` -/
def isIpv4Address (s : List Char) : Bool :=
  if s.length = 0 then false
  else
    let pieces := s.splitOn '.'
    if pieces.length ≠ 4 then false
    -- a `ValueError` of `int` is an answer as well
    else pieces.all fun p => (u.int p).any fun n => 0 ≤ n ∧ n < 256

/-- `fix_hostname` -/
def fixHostname (dnsSuffix hostnameOrIp : List Char) : List Char :=
  if isIpv4Address u hostnameOrIp then hostnameOrIp
  else if 0 < dnsSuffix.length ∧ ¬dnsSuffix <:+: hostnameOrIp then
    hostnameOrIp ++ '.' :: dnsSuffix
  else hostnameOrIp

end

/-! ## What is meant -/

/-- A decimal number from 0 to 255 in ASCII digits -/
def Octet (p : List Char) : Prop :=
  p ≠ [] ∧ ∃ n, IPv4Address.digitsValue p = some n ∧ n < 256

/-- A text that `int` reads as a number from 0 to 255 -/
def Spelled (u : DecimalTable) (p : List Char) : Prop :=
  ∃ n, PythonInt.Numeral (p.map u.toAscii) n ∧ 0 ≤ n ∧ n < 256

/-- Four pieces of a kind, with dots between them -/
def Quad (P : List Char → Prop) (s : List Char) : Prop :=
  ∃ pieces : List (List Char), pieces.length = 4 ∧ (∀ p ∈ pieces, P p) ∧
    s = ['.'].intercalate pieces

/-- Nothing but ASCII digits and dots -/
def Plain (s : List Char) : Prop := ∀ c ∈ s, c = '.' ∨ c.isDigit = true

/-- What `fix_hostname` is for -/
structure Fixes (u : DecimalTable) (dnsSuffix host : List Char) : Prop where
  address : Quad Octet host → fixHostname u dnsSuffix host = host
  suffix : ¬Quad Octet host → ('.' :: dnsSuffix) <:+ fixHostname u dnsSuffix host
  again : fixHostname u dnsSuffix (fixHostname u dnsSuffix host) = fixHostname u dnsSuffix host

/-! ## Pieces -/

variable {u : DecimalTable}

theorem Octet.isDigit {p : List Char} (h : Octet p) : ∀ c ∈ p, c.isDigit = true := by
  obtain ⟨-, n, hn, -⟩ := h
  exact PythonInt.isDigit_of_digitsValue hn

/-- Of digits alone `int` reads their value. -/
theorem int_of_isDigit {p : List Char} (hne : p ≠ []) (hdigit : ∀ c ∈ p, c.isDigit = true) :
    u.int p = (IPv4Address.digitsValue p).map Int.ofNat := by
  have hn := PythonInt.digitsValue_of_isDigit hdigit
  have hascii : ∀ c ∈ p, c.toNat < 128 := by
    intro c hc
    have hle := hdigit c hc
    simp only [Char.isDigit, Bool.and_eq_true, decide_eq_true_eq] at hle
    exact Nat.lt_of_le_of_lt hle.2 (by decide)
  have hgrouped : PythonInt.Grouped p (Nat.ofDigitChars 10 p 0) := by
    refine ⟨[p], List.cons_ne_nil _ _, ?_, ?_, List.intercalate_singleton.symm⟩
    · rw [List.mem_singleton]
      exact hne.symm
    · rw [List.flatten_singleton]
      exact hn
  rw [hn]
  refine (u.int_eq_some_iff).mpr ⟨[], p, [], ?_, ?_, ?_, .bare hgrouped⟩
  · rw [u.map_toAscii hascii, List.nil_append, List.append_nil]
  · exact fun c hc => absurd hc List.not_mem_nil
  · exact fun c hc => absurd hc List.not_mem_nil

theorem Octet.spelled {p : List Char} (h : Octet p) : Spelled u p := by
  obtain ⟨hne, n, hn, hlt⟩ := h
  refine ⟨n, u.int_eq_some_iff.mp ?_, by omega, by omega⟩
  rw [int_of_isDigit hne (PythonInt.isDigit_of_digitsValue hn), hn]
  rfl

/-- A piece of digits is read as what it means. -/
theorem Spelled.octet {p : List Char} (h : Spelled u p) (hdigit : ∀ c ∈ p, c.isDigit = true) :
    Octet p := by
  obtain ⟨n, hn, hpos, hlt⟩ := h
  have hint := u.int_eq_some_iff.mpr hn
  have hne : p ≠ [] := by
    rintro rfl
    cases hint
  rw [int_of_isDigit hne hdigit] at hint
  obtain ⟨m, hm, rfl⟩ := Option.map_eq_some_iff.mp hint
  exact ⟨hne, m, hm, Int.ofNat_lt.mp hlt⟩

theorem Spelled.dot_notMem {p : List Char} (h : Spelled u p) : '.' ∉ p := by
  obtain ⟨n, hn, -⟩ := h
  intro hdot
  have hmem : '.' ∈ p.map u.toAscii := List.mem_map.mpr ⟨'.', hdot, if_pos (by decide)⟩
  exact absurd (hn.isBlank_or '.' hmem) (by decide)

theorem spelled_iff {p : List Char} :
    Spelled u p ↔ ((u.int p).any fun n => 0 ≤ n ∧ n < 256) = true := by
  rw [Option.any_eq_true]
  simp only [Spelled, ← u.int_eq_some_iff, decide_eq_true_eq]

/-! ## Addresses -/

theorem isIpv4Address_iff {s : List Char} : isIpv4Address u s = true ↔ Quad (Spelled u) s := by
  constructor
  · intro h
    by_cases hempty : s.length = 0
    · rw [isIpv4Address, if_pos hempty] at h
      cases h
    · rw [isIpv4Address, if_neg hempty] at h
      by_cases hlength : (s.splitOn '.').length = 4
      · rw [if_neg (not_not.mpr hlength), List.all_eq_true] at h
        exact ⟨s.splitOn '.', hlength, fun p hp => spelled_iff.mpr (h p hp),
          (List.intercalate_splitOn '.').symm⟩
      · rw [if_pos hlength] at h
        cases h
  · rintro ⟨pieces, hlength, hpieces, rfl⟩
    have hsplit : (['.'].intercalate pieces).splitOn '.' = pieces := by
      refine List.splitOn_intercalate '.' (fun p hp => (hpieces p hp).dot_notMem) ?_
      rintro rfl
      cases hlength
    have hne : ¬(['.'].intercalate pieces).length = 0 := by
      intro hzero
      rw [List.length_eq_zero_iff] at hzero
      rw [hzero] at hsplit
      rw [← hsplit] at hlength
      cases hlength
    rw [isIpv4Address, if_neg hne, hsplit, if_neg (not_not.mpr hlength), List.all_eq_true]
    exact fun p hp => spelled_iff.mp (hpieces p hp)

theorem Quad.mono {P Q : List Char → Prop} {s : List Char} (h : Quad P s)
    (hPQ : ∀ p, (∀ c ∈ p, c ∈ s) → P p → Q p) : Quad Q s := by
  obtain ⟨pieces, hlength, hpieces, rfl⟩ := h
  refine ⟨pieces, hlength, fun p hp => hPQ p (fun c hc => ?_) (hpieces p hp), rfl⟩
  exact PythonInt.mem_intercalate_of_mem (List.mem_flatten.mpr ⟨p, hp, hc⟩)

theorem Quad.spelled {s : List Char} (h : Quad Octet s) : Quad (Spelled u) s :=
  h.mono fun _ _ hp => hp.spelled

theorem Quad.plain {s : List Char} (h : Quad Octet s) : Plain s := by
  obtain ⟨pieces, -, hpieces, rfl⟩ := h
  intro c hc
  refine (PythonInt.mem_intercalate hc).imp_right fun hflat => ?_
  obtain ⟨p, hp, hc⟩ := List.mem_flatten.mp hflat
  exact (hpieces p hp).isDigit c hc

/-- An address is what `int` reads as four numbers, written with digits and dots alone. -/
theorem quad_octet_iff {s : List Char} : Quad Octet s ↔ Quad (Spelled u) s ∧ Plain s := by
  constructor
  · exact fun h => ⟨h.spelled, h.plain⟩
  · rintro ⟨h, hplain⟩
    refine h.mono fun p hsub hp => hp.octet fun c hc => ?_
    refine (hplain c (hsub c hc)).resolve_left ?_
    rintro rfl
    exact hp.dot_notMem hc

theorem isIpv4Address_meant_iff {s : List Char} :
    (isIpv4Address u s = true ↔ Quad Octet s) ↔ (Quad (Spelled u) s → Plain s) := by
  rw [isIpv4Address_iff, quad_octet_iff (u := u)]
  exact iff_self_and

/-! ## Host names -/

variable {dnsSuffix host : List Char}

theorem fixHostname_of_kept (h : Quad (Spelled u) host ∨ dnsSuffix <:+: host) :
    fixHostname u dnsSuffix host = host := by
  unfold fixHostname
  rcases h with haddress | hinside
  · exact if_pos (isIpv4Address_iff.mpr haddress)
  · have hadd : ¬(0 < dnsSuffix.length ∧ ¬dnsSuffix <:+: host) := fun hadd => hadd.2 hinside
    rw [if_neg hadd, ite_self]

theorem fixHostname_of_added (hne : dnsSuffix ≠ []) (haddress : ¬Quad (Spelled u) host)
    (hinside : ¬dnsSuffix <:+: host) :
    fixHostname u dnsSuffix host = host ++ '.' :: dnsSuffix := by
  rw [fixHostname, if_neg (mt isIpv4Address_iff.mp haddress),
    if_pos ⟨List.length_pos_iff.mpr hne, hinside⟩]

/-- A name that is fixed stays as it is. -/
theorem fixHostname_fixHostname (hne : dnsSuffix ≠ []) :
    fixHostname u dnsSuffix (fixHostname u dnsSuffix host) = fixHostname u dnsSuffix host := by
  by_cases hkept : Quad (Spelled u) host ∨ dnsSuffix <:+: host
  · rw [fixHostname_of_kept hkept, fixHostname_of_kept hkept]
  · obtain ⟨haddress, hinside⟩ := not_or.mp hkept
    rw [fixHostname_of_added hne haddress hinside]
    have hsuffix : dnsSuffix <:+ host ++ '.' :: dnsSuffix :=
      ⟨host ++ ['.'], by rw [List.append_assoc]; rfl⟩
    exact fixHostname_of_kept (.inr hsuffix.isInfix)

/-- The suffix is where it belongs, or it is put there. -/
theorem fixes_iff (hne : dnsSuffix ≠ []) :
    Fixes u dnsSuffix host ↔ Quad Octet host ∨ ('.' :: dnsSuffix) <:+ host ∨
      (¬Quad (Spelled u) host ∧ ¬dnsSuffix <:+: host) := by
  constructor
  · intro h
    by_cases haddress : Quad Octet host
    · exact .inl haddress
    · refine .inr ?_
      by_cases hkept : Quad (Spelled u) host ∨ dnsSuffix <:+: host
      · have hsuffix := h.suffix haddress
        rw [fixHostname_of_kept hkept] at hsuffix
        exact .inl hsuffix
      · exact .inr (not_or.mp hkept)
  · intro h
    refine ⟨fun haddress => fixHostname_of_kept (.inl haddress.spelled), fun haddress => ?_,
      fixHostname_fixHostname hne⟩
    rcases h with h | hsuffix | ⟨hspelled, hinside⟩
    · exact absurd h haddress
    · have hinside : dnsSuffix <:+: host := (List.suffix_cons _ _).isInfix.trans hsuffix.isInfix
      rw [fixHostname_of_kept (.inr hinside)]
      exact hsuffix
    · rw [fixHostname_of_added hne hspelled hinside]
      exact ⟨host, rfl⟩

/-- For every text and whatever is known of other scripts: an address is recognised unless
    `int` reads four numbers in it that are not written in ASCII digits; and a name is fixed
    unless it contains the suffix elsewhere than behind its last dot, or is such an address. -/
theorem hostText_iff (u : DecimalTable) :
    (∀ s, (isIpv4Address u s = true ↔ Quad Octet s) ↔ (Quad (Spelled u) s → Plain s)) ∧
      ∀ dnsSuffix host, dnsSuffix ≠ [] →
        (Fixes u dnsSuffix host ↔ Quad Octet host ∨ ('.' :: dnsSuffix) <:+ host ∨
          (¬Quad (Spelled u) host ∧ ¬dnsSuffix <:+: host)) :=
  ⟨fun _ => isIpv4Address_meant_iff, fun _ _ hne => fixes_iff hne⟩

theorem hostText_lan : Fixes .ascii ['l', 'a', 'n'] ['w', 'e', 'b'] ↔
    Quad Octet ['w', 'e', 'b'] ∨ ['.', 'l', 'a', 'n'] <:+ ['w', 'e', 'b'] ∨
      (¬Quad (Spelled .ascii) ['w', 'e', 'b'] ∧ ¬['l', 'a', 'n'] <:+: ['w', 'e', 'b']) :=
  (hostText_iff .ascii).2 ['l', 'a', 'n'] ['w', 'e', 'b'] (List.cons_ne_nil _ _)

/-- A blank before an address, and a name that contains the suffix in the middle. -/
theorem not_hostText : ¬ ∀ u : DecimalTable,
    (∀ s, isIpv4Address u s = true ↔ Quad Octet s) ∧
      ∀ dnsSuffix host, dnsSuffix ≠ [] → Fixes u dnsSuffix host := by
  intro h
  have haddress := ((h .ascii).1 [' ', '1', '.', '2', '.', '3', '.', '4']).mp (by decide)
  exact absurd (haddress.plain ' ' (List.mem_cons_self ..)) (by decide)

/-! ## ASCII -/

theorem int_of_mem_splitOn {s p : List Char} (h : ∀ c ∈ s, c.toNat < 128)
    (hp : p ∈ s.splitOn '.') : u.int p = intOfText p := by
  refine u.int_of_ascii fun c hc => h c ?_
  have hmem : c ∈ ['.'].intercalate (s.splitOn '.') :=
    PythonInt.mem_intercalate_of_mem (List.mem_flatten.mpr ⟨p, hp, hc⟩)
  rw [List.intercalate_splitOn] at hmem
  exact hmem

/-- For ASCII text nothing of the tables is used. -/
theorem isIpv4Address_of_ascii {s : String} (h : ∀ c ∈ s.toList, c.toNat < 128) :
    isIpv4Address u s.toList = Tfplenum.isIpv4Address s := by
  rw [Tfplenum.isIpv4Address, isIpv4Address]
  by_cases hlength : (s.toList.splitOn '.').length = 4
  · have hne : ¬s.toList.length = 0 := by
      intro hzero
      rw [List.length_eq_zero_iff.mp hzero] at hlength
      cases hlength
    rw [if_neg hne, if_neg (not_not.mpr hlength), Bool.eq_iff_iff, List.all_eq_true,
      decide_eq_true_eq, List.all_eq_true, and_iff_right hlength]
    refine forall₂_congr fun p hp => ?_
    rw [int_of_mem_splitOn h hp]
  · simp [hlength]

theorem fixHostname_of_ascii {dnsSuffix host : String} (h : ∀ c ∈ host.toList, c.toNat < 128) :
    fixHostname u dnsSuffix.toList host.toList = (Tfplenum.fixHostname dnsSuffix host).toList := by
  rw [Tfplenum.fixHostname, fixHostname, isIpv4Address_of_ascii h, String.length_toList]
  split
  · rfl
  · split
    · rw [String.toList_append, String.toList_append, List.append_assoc]
      rfl
    · rfl

end HostText

end Tfplenum
