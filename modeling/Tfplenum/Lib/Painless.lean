/-
  Tfplenum.Lib.Painless

  The lexical level of Painless, the script language of Elasticsearch: words
  (identifiers, keywords and numbers), string literals, and single punctuation
  characters, with white space and comments between them.

  A literal stands between two double or two single quotes; inside it a
  backslash makes the quote or a backslash part of the value, and may stand
  before nothing else.  Line breaks are allowed.

  `tokens_str_iff` is the law for generated scripts: a value written between
  quotes as it is comes back as that literal exactly when it contains neither
  the quote nor a backslash.
-/

import Tfplenum.Lib.Lexer

namespace Tfplenum.Lib.Painless

inductive Token where
  | word (cs : List Char)
  | str (value : List Char)
  | punct (c : Char)
deriving DecidableEq, Repr

/-- A token without the value of a literal. -/
def Token.kind : Token → Token
  | .str _ => .str []
  | t => t

/-- Where the lexer is. -/
inductive State where
  | code
  | word (cs : List Char)
  | str (quote : Char) (value : List Char)
  | escape (quote : Char) (value : List Char)
  | slash
  | lineComment
  | blockComment
  | blockCommentStar
deriving DecidableEq, Repr

def isSpace (c : Char) : Bool := c = ' ' || c = '\t' || c = '\n' || c = '\r'

def isWordChar (c : Char) : Bool := c.isAlphanum || c = '_'

def isPunct (c : Char) : Bool :=
  c ∈ ['{', '}', '[', ']', '(', ')', '$', '.', '?', ',', ';', '!', '~', '*', '%', '+', '-', '<',
    '>', '=', '&', '^', '|', ':']

/-- The first character of a token, or of the space between tokens. -/
def start (c : Char) : Option (State × List Token) :=
  if isSpace c then some (.code, [])
  else if isWordChar c then some (.word [c], [])
  else if c = '"' ∨ c = '\'' then some (.str c [], [])
  else if c = '/' then some (.slash, [])
  else if isPunct c then some (.code, [.punct c])
  else none

def step : State → Char → Option (State × List Token)
  | .code, c => start c
  | .word cs, c =>
      if isWordChar c then some (.word (cs ++ [c]), [])
      else (start c).map fun r => (r.1, .word cs :: r.2)
  | .str quote value, c =>
      if c = quote then some (.code, [.str value])
      else if c = '\\' then some (.escape quote value, [])
      else some (.str quote (value ++ [c]), [])
  | .escape quote value, c =>
      if c = quote ∨ c = '\\' then some (.str quote (value ++ [c]), []) else none
  | .slash, c =>
      if c = '/' then some (.lineComment, [])
      else if c = '*' then some (.blockComment, [])
      else (start c).map fun r => (r.1, .punct '/' :: r.2)
  | .lineComment, c => some (if c = '\n' ∨ c = '\r' then .code else .lineComment, [])
  | .blockComment, c => some (if c = '*' then .blockCommentStar else .blockComment, [])
  | .blockCommentStar, c =>
      some (if c = '/' then .code else if c = '*' then .blockCommentStar else .blockComment, [])

def finish : State → Option (List Token)
  | .code => some []
  | .word cs => some [.word cs]
  | .slash => some [.punct '/']
  | .lineComment => some []
  | _ => none

def lexer : Lexer State Token where
  step := step
  finish := finish

/-- The tokens of a script, `none` for one that is lexically wrong. -/
def tokens (script : String) : Option (List Token) := lexer.tokens .code script.toList

/-! ## String literals -/

/-- A text that stands for itself between quotes. -/
def Plain (quote : Char) (cs : List Char) : Prop := ∀ c ∈ cs, c ≠ quote ∧ c ≠ '\\'

instance (quote : Char) (cs : List Char) : Decidable (Plain quote cs) :=
  inferInstanceAs (Decidable (∀ c ∈ cs, c ≠ quote ∧ c ≠ '\\'))

/-- The value of a literal whose opening quote has been read, and the text after
    its closing quote. -/
def readString (quote : Char) : List Char → Option (List Char × List Char)
  | [] => none
  | c :: cs =>
      if c = quote then some ([], cs)
      else if c = '\\' then
        match cs with
        | [] => none
        | e :: cs =>
            if e = quote ∨ e = '\\' then (readString quote cs).map fun r => (e :: r.1, r.2)
            else none
      else (readString quote cs).map fun r => (c :: r.1, r.2)

section Literals

variable {quote : Char}

theorem step_str_quote (value : List Char) :
    lexer.step (.str quote value) quote = some (.code, [.str value]) := by
  simp [lexer, step]

theorem step_str_backslash (hq : '\\' ≠ quote) (value : List Char) :
    lexer.step (.str quote value) '\\' = some (.escape quote value, []) := by
  simp [lexer, step, hq]

theorem step_str_plain {c : Char} (hc : c ≠ quote) (hb : c ≠ '\\') (value : List Char) :
    lexer.step (.str quote value) c = some (.str quote (value ++ [c]), []) := by
  simp [lexer, step, hc, hb]

theorem step_escape {c : Char} (hc : c = quote ∨ c = '\\') (value : List Char) :
    lexer.step (.escape quote value) c = some (.str quote (value ++ [c]), []) := by
  simp [lexer, step, hc]

theorem step_escape_none {c : Char} (hc : ¬ (c = quote ∨ c = '\\')) (value : List Char) :
    lexer.step (.escape quote value) c = none := by
  simp [lexer, step, hc]

/-- The lexer reads a literal as `readString` does. -/
theorem tokens_str (quote : Char) (value cs : List Char) :
    lexer.tokens (.str quote value) cs =
      (readString quote cs).bind fun r =>
        (lexer.tokens .code r.2).map fun ts => .str (value ++ r.1) :: ts := by
  fun_induction readString quote cs generalizing value with
  | case1 => rfl
  | case2 cs =>
      rw [Lexer.tokens_cons (step_str_quote value)]
      simp
  | case3 hq =>
      rw [Lexer.tokens_cons (step_str_backslash hq value)]
      rfl
  | case4 c cs hc hq ih =>
      rw [Lexer.tokens_cons (step_str_backslash hq value), Lexer.tokens_cons (step_escape hc value),
        ih]
      cases readString quote cs <;> simp [Function.comp_def]
  | case5 c cs hc hq =>
      rw [Lexer.tokens_cons (step_str_backslash hq value),
        Lexer.tokens_cons_none (step_escape_none hc value)]
      rfl
  | case6 c cs hc hb ih =>
      rw [Lexer.tokens_cons (step_str_plain hc hb value), ih]
      cases readString quote cs <;> simp [Function.comp_def]

theorem readString_quote (cs : List Char) : readString quote (quote :: cs) = some ([], cs) := by
  rw [readString.eq_def]
  simp

theorem readString_cons {c : Char} (hc : c ≠ quote) (hb : c ≠ '\\') (cs : List Char) :
    readString quote (c :: cs) = (readString quote cs).map fun r => (c :: r.1, r.2) := by
  rw [readString.eq_def]
  simp [hc, hb]

/-- How the first character of a value was written: as it is, or escaped. -/
theorem readString_eq_some_cons {d : Char} {cs v r : List Char}
    (h : readString quote cs = some (d :: v, r)) :
    (∃ cs', cs = d :: cs' ∧ d ≠ quote ∧ d ≠ '\\' ∧ readString quote cs' = some (v, r)) ∨
    (∃ cs', cs = '\\' :: d :: cs' ∧ (d = quote ∨ d = '\\') ∧
        readString quote cs' = some (v, r)) := by
  rw [readString.eq_def] at h
  split at h
  · cases h
  · rename_i c cs'
    split at h
    · cases h
    · rename_i hc
      split at h
      · rename_i hb
        split at h
        · cases h
        · rename_i e cs''
          split at h
          · rename_i he
            obtain ⟨⟨v', r'⟩, hread, heq⟩ := Option.map_eq_some_iff.mp h
            cases heq
            exact Or.inr ⟨cs'', by rw [hb], he, hread⟩
          · cases h
      · rename_i hb
        obtain ⟨⟨v', r'⟩, hread, heq⟩ := Option.map_eq_some_iff.mp h
        cases heq
        exact Or.inl ⟨cs', rfl, hc, hb, hread⟩

/-- A plain text is the value of its literal. -/
theorem readString_of_plain {cs : List Char} (h : Plain quote cs) (rest : List Char) :
    readString quote (cs ++ quote :: rest) = some (cs, rest) := by
  induction cs with
  | nil => exact readString_quote rest
  | cons c cs ih =>
      obtain ⟨hc, hb⟩ := h c (List.mem_cons_self ..)
      have hcs : Plain quote cs := fun d hd => h d (List.mem_cons_of_mem _ hd)
      rw [List.cons_append, readString_cons hc hb, ih hcs]
      rfl

/-- A reader that is behind by backslashes never catches up: its literal does not
    end with the text. -/
theorem readString_ne_of_behind (hq : '\\' ≠ quote) (n : Nat) (cs rest r : List Char) :
    readString quote (cs ++ quote :: rest) ≠ some (List.replicate (n + 1) '\\' ++ cs, r) := by
  -- every character of the value is a backslash, and takes two of the text
  induction hlen : cs.length using Nat.strongRecOn generalizing n cs with
  | ind len ih =>
      intro h
      rw [List.replicate_succ, List.cons_append] at h
      rcases readString_eq_some_cons h with ⟨_, _, _, hb, _⟩ | ⟨cs', hcs', _, hread⟩
      · exact hb rfl
      · match cs, hlen with
        | [], _ =>
            rw [List.nil_append] at hcs'
            exact hq (List.cons.inj hcs').1.symm
        | [c], _ =>
            rw [List.cons_append, List.nil_append] at hcs'
            exact hq (List.cons.inj (List.cons.inj hcs').2).1.symm
        | c :: e :: cs, hlen =>
            simp only [List.cons_append, List.cons.injEq] at hcs'
            obtain ⟨rfl, rfl, rfl⟩ := hcs'
            have hvalue : List.replicate n '\\' ++ '\\' :: '\\' :: cs =
                List.replicate (n + 1 + 1) '\\' ++ cs := by
              rw [List.replicate_succ', List.replicate_succ', List.append_assoc, List.append_assoc]
              rfl
            rw [hvalue] at hread
            have hlt : cs.length < len := by
              simp only [List.length_cons] at hlen
              omega
            exact ih cs.length hlt (n + 1) cs rfl hread

/-- A text that is the value of its literal is plain. -/
theorem plain_of_readString (hq : '\\' ≠ quote) {cs rest r : List Char}
    (h : readString quote (cs ++ quote :: rest) = some (cs, r)) : Plain quote cs := by
  induction cs with
  | nil => simp [Plain]
  | cons c cs ih =>
      rcases readString_eq_some_cons h with ⟨cs', hcs', hc, hb, hread⟩ | ⟨cs', hcs', _, hread⟩
      · rw [List.cons_append] at hcs'
        obtain rfl := (List.cons.inj hcs').2
        have hcs : Plain quote cs := ih hread
        intro d hd
        rcases List.mem_cons.mp hd with rfl | hd
        · exact ⟨hc, hb⟩
        · exact hcs d hd
      · -- from the first backslash on the reader is behind
        exfalso
        rw [List.cons_append] at hcs'
        obtain ⟨rfl, htail⟩ := List.cons.inj hcs'
        cases cs with
        | nil => exact hq (List.cons.inj htail).1.symm
        | cons e cs =>
            rw [List.cons_append] at htail
            obtain ⟨rfl, rfl⟩ := List.cons.inj htail
            exact readString_ne_of_behind hq 0 cs rest r hread

/-- The law for generated scripts: a value written between quotes is lexed to
    the literal of that value exactly when it is plain, and then what follows is
    lexed as it stands. -/
theorem tokens_str_iff (hq : '\\' ≠ quote) (cs rest : List Char) (ts : List Token) :
    lexer.tokens (.str quote []) (cs ++ quote :: rest) = some (.str cs :: ts) ↔
      Plain quote cs ∧ lexer.tokens .code rest = some ts := by
  rw [tokens_str]
  constructor
  · intro h
    obtain ⟨⟨v, r⟩, hread, hrest⟩ := Option.bind_eq_some_iff.mp h
    obtain ⟨us, hus, heq⟩ := Option.map_eq_some_iff.mp hrest
    simp only [List.nil_append, List.cons.injEq, Token.str.injEq] at heq
    obtain ⟨rfl, rfl⟩ := heq
    have hplain : Plain quote v := plain_of_readString hq hread
    rw [readString_of_plain hplain] at hread
    cases hread
    exact ⟨hplain, hus⟩
  · rintro ⟨hplain, hrest⟩
    rw [readString_of_plain hplain]
    simp [hrest]

end Literals

/-! ## Templates -/

/-- A piece of a template that ends in an opening quote, with the tokens read in
    it, and the value that is written after it. -/
structure Hole where
  piece : List Char
  before : List Token
  value : List Char

/-- The text of a template: each hole filled and closed, then the last piece. -/
def fill (quote : Char) (last : List Char) : List Hole → List Char
  | [] => last
  | hole :: holes => hole.piece ++ (hole.value ++ quote :: fill quote last holes)

/-- The tokens a filled template is meant to have. -/
def fillTokens (last : List Token) : List Hole → List Token
  | [] => last
  | hole :: holes => hole.before ++ .str hole.value :: fillTokens last holes

/-- A filled template has the tokens it is meant to have exactly when every value
    in it is plain. -/
theorem tokens_fill_iff {quote : Char} (hq : '\\' ≠ quote) {last : List Char} {ts : List Token}
    (hlast : lexer.tokens .code last = some ts) (holes : List Hole)
    (hfeed : ∀ hole ∈ holes, lexer.feed .code hole.piece = some (.str quote [], hole.before)) :
    lexer.tokens .code (fill quote last holes) = some (fillTokens ts holes) ↔
      ∀ hole ∈ holes, Plain quote hole.value := by
  induction holes with
  | nil => simpa [fill, fillTokens] using hlast
  | cons hole holes ih =>
      have hhead := hfeed hole (List.mem_cons_self ..)
      have htail := ih fun hole' hmem => hfeed hole' (List.mem_cons_of_mem _ hmem)
      rw [fill, fillTokens, Lexer.tokens_append_iff hhead, tokens_str_iff hq, htail,
        List.forall_mem_cons]

end Tfplenum.Lib.Painless
