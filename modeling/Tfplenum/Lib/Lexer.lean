/-
  Tfplenum.Lib.Lexer

  Lexers that read one character at a time: a state, what each character does to
  it, and the tokens emitted on the way.  A text that is put together from pieces
  is lexed piece by piece (`tokens_append_iff`), which is how the tokens of
  generated code are worked out from its template and the inserted values.
-/

import Mathlib.Init

namespace Tfplenum.Lib

/-- One step per character, and what is still to emit at the end; `none` is a
    lexical error. -/
structure Lexer (σ τ : Type) where
  step : σ → Char → Option (σ × List τ)
  finish : σ → Option (List τ)

namespace Lexer

variable {σ τ : Type} (L : Lexer σ τ)

/-- Read a piece of text: the state after it and the tokens completed in it. -/
def feed : σ → List Char → Option (σ × List τ)
  | s, [] => some (s, [])
  | s, c :: cs =>
      match L.step s c with
      | none => none
      | some (s', ts) => (feed s' cs).map fun r => (r.1, ts ++ r.2)

/-- Read the rest of a text to its end. -/
def tokens : σ → List Char → Option (List τ)
  | s, [] => L.finish s
  | s, c :: cs =>
      match L.step s c with
      | none => none
      | some (s', ts) => (tokens s' cs).map fun r => ts ++ r

variable {L}

theorem tokens_cons {s s' : σ} {c : Char} {ts : List τ} (h : L.step s c = some (s', ts))
    (cs : List Char) : L.tokens s (c :: cs) = (L.tokens s' cs).map fun r => ts ++ r := by
  rw [tokens, h]

theorem tokens_cons_none {s : σ} {c : Char} (h : L.step s c = none) (cs : List Char) :
    L.tokens s (c :: cs) = none := by
  rw [tokens, h]

/-- A piece that has been read is behind. -/
theorem tokens_append {s s' : σ} {cs : List Char} {ts : List τ}
    (h : L.feed s cs = some (s', ts)) (ds : List Char) :
    L.tokens s (cs ++ ds) = (L.tokens s' ds).map fun r => ts ++ r := by
  induction cs generalizing s ts with
  | nil =>
      cases h
      simp
  | cons c cs ih =>
      rw [feed] at h
      cases hstep : L.step s c with
      | none =>
          rw [hstep] at h
          cases h
      | some r =>
          obtain ⟨s₁, ts₁⟩ := r
          rw [hstep] at h
          obtain ⟨⟨s₂, ts₂⟩, hfeed, heq⟩ := Option.map_eq_some_iff.mp h
          cases heq
          rw [List.cons_append, tokens_cons hstep, ih hfeed, Option.map_map]
          congr 1
          funext r
          exact (List.append_assoc ts₁ ts₂ r).symm

/-- The tokens of a text, with those of its first piece known. -/
theorem tokens_append_iff {s s' : σ} {cs : List Char} {ts : List τ}
    (h : L.feed s cs = some (s', ts)) (ds : List Char) (us : List τ) :
    L.tokens s (cs ++ ds) = some (ts ++ us) ↔ L.tokens s' ds = some us := by
  rw [tokens_append h, Option.map_eq_some_iff]
  constructor
  · rintro ⟨us', hus', heq⟩
    rw [hus', List.append_cancel_left heq]
  · intro hus
    exact ⟨us, hus, rfl⟩

end Lexer

end Tfplenum.Lib
