/-
  Tfplenum.Lib.ReadBack

  What readers are promised to read: the texts of the good values, as they are written.
  If no two good values have one text, there is a reader that reads these texts and no
  others (`leastReader`), so that what every such reader reads in a text is what was
  written there.

  Lists are written with a separator between the elements.  No two lists have one text
  if an element ends where a separator may begin (`joined_injOn`).
-/

import Mathlib.Data.List.TakeWhile
import Mathlib.Data.Set.Function

namespace Tfplenum.Lib

/-- What holds of the characters of a text is decided by going through the text, not through all
    characters. -/
instance (priority := 2000) decidableForallMem {p : Char → Prop} [DecidablePred p]
    (text : List Char) : Decidable (∀ c ∈ text, p c) := List.decidableBAll p text

variable {α : Type} {print : α → List Char} {good : α → Prop}

/-- The text of a good value is read as the value. -/
def ReadsBack (print : α → List Char) (good : α → Prop) (read : List Char → Option α) : Prop :=
  ∀ a, good a → read (print a) = some a

/-- The reader of the texts of good values and of no others -/
noncomputable def leastReader (print : α → List Char) (good : α → Prop) (text : List Char) :
    Option α :=
  (Function.partialInv (fun a : {a // good a} => print a) text).map Subtype.val

theorem leastReader_eq_some_iff (hinj : Set.InjOn print {a | good a}) {text : List Char} {a : α} :
    leastReader print good text = some a ↔ good a ∧ print a = text := by
  have hinverse := (Set.injOn_iff_injective.mp hinj).isPartialInv
  rw [leastReader, Option.map_eq_some_iff]
  constructor
  · rintro ⟨⟨b, hb⟩, hread, rfl⟩
    exact ⟨hb, (hinverse ⟨b, hb⟩ text).mp hread⟩
  · rintro ⟨ha, htext⟩
    exact ⟨⟨a, ha⟩, (hinverse ⟨a, ha⟩ text).mpr htext, rfl⟩

theorem leastReader_readsBack (hinj : Set.InjOn print {a | good a}) :
    ReadsBack print good (leastReader print good) :=
  fun _ ha => (leastReader_eq_some_iff hinj).mpr ⟨ha, rfl⟩

/-! ## Lists with a separator -/

variable {sep : List Char}

/-- The elements with the separator between them -/
def joined (sep : List Char) (print : α → List Char) (as : List α) : List Char :=
  sep.intercalate (as.map print)

/-- What may come after an element -/
def AtEnd (sep cs : List Char) : Prop := cs = [] ∨ ∃ rest, cs = sep ++ rest

/-- Where an element ends can be seen from the text. -/
def SelfDelimiting (sep : List Char) (print : α → List Char) (good : α → Prop) : Prop :=
  ∀ a b cs ds, good a → good b → AtEnd sep cs → AtEnd sep ds →
    print a ++ cs = print b ++ ds → a = b ∧ cs = ds

theorem joined_nil : joined sep print [] = [] := rfl

/-- All but the first, each after a separator -/
def following (sep : List Char) (print : α → List Char) (as : List α) : List Char :=
  as.flatMap fun a => sep ++ print a

theorem joined_cons (a : α) (as : List α) :
    joined sep print (a :: as) = print a ++ following sep print as := by
  induction as generalizing a with
  | nil => rw [joined, List.map_singleton, List.intercalate_singleton, following,
      List.flatMap_nil, List.append_nil]
  | cons b as ih =>
      have hcons : joined sep print (a :: b :: as) =
          print a ++ sep ++ joined sep print (b :: as) := List.intercalate_cons_cons
      rw [hcons, ih b, following, following, List.flatMap_cons, List.append_assoc,
        List.append_assoc]

theorem following_cons (a : α) (as : List α) :
    following sep print (a :: as) = sep ++ joined sep print (a :: as) := by
  rw [joined_cons, following, List.flatMap_cons, List.append_assoc]
  rfl

theorem joined_append_singleton {as : List α} (h : as ≠ []) (b : α) :
    joined sep print (as ++ [b]) = joined sep print as ++ (sep ++ print b) := by
  obtain ⟨a, as, rfl⟩ := List.exists_cons_of_ne_nil h
  rw [List.cons_append, joined_cons, joined_cons, following, List.flatMap_append,
    List.flatMap_singleton, List.append_assoc]
  rfl

theorem forall_mem_joined {p : Char → Prop} (hsep : ∀ c ∈ sep, p c) {as : List α}
    (h : ∀ a ∈ as, ∀ c ∈ print a, p c) : ∀ c ∈ joined sep print as, p c := by
  cases as with
  | nil => simp [joined_nil]
  | cons a as =>
      rw [List.forall_mem_cons] at h
      rw [joined_cons, List.forall_mem_append]
      refine ⟨h.1, ?_⟩
      intro c hc
      obtain ⟨b, hb, hmem⟩ := List.mem_flatMap.mp hc
      rcases List.mem_append.mp hmem with hmem | hmem
      · exact hsep c hmem
      · exact h.2 b hb c hmem

theorem notMem_joined_iff {c : Char} (h : c ∉ sep) {as : List α} :
    c ∉ joined sep print as ↔ ∀ a ∈ as, c ∉ print a := by
  cases as with
  | nil => simp [joined_nil]
  | cons a as =>
      rw [joined_cons, List.mem_append, not_or, List.forall_mem_cons, following]
      simp [List.mem_flatMap, h]

/-- A separator after every element, the last one included -/
theorem flatMap_append_sep (a : α) (as : List α) :
    ((a :: as).flatMap fun a => print a ++ sep) = joined sep print (a :: as) ++ sep := by
  rw [joined_cons]
  induction as generalizing a with
  | nil => simp [following]
  | cons b as ih =>
      rw [List.flatMap_cons, ih b, following, following, List.flatMap_cons]
      simp only [List.append_assoc]

theorem atEnd_following (as : List α) : AtEnd sep (following sep print as) := by
  cases as with
  | nil => exact .inl rfl
  | cons a as => exact .inr ⟨_, following_cons a as⟩

/-- Whether there is another element is seen from the text, then which one. -/
theorem following_injOn (hsep : sep ≠ []) (hends : SelfDelimiting sep print good) {as bs : List α}
    (has : ∀ a ∈ as, good a) (hbs : ∀ b ∈ bs, good b)
    (h : following sep print as = following sep print bs) : as = bs := by
  induction as generalizing bs with
  | nil =>
      cases bs with
      | nil => rfl
      | cons b bs =>
          rw [following_cons] at h
          exact absurd (List.append_eq_nil_iff.mp h.symm).1 hsep
  | cons a as ih =>
      cases bs with
      | nil =>
          rw [following_cons] at h
          exact absurd (List.append_eq_nil_iff.mp h).1 hsep
      | cons b bs =>
          rw [List.forall_mem_cons] at has hbs
          rw [following_cons, following_cons, joined_cons, joined_cons] at h
          obtain ⟨rfl, hrest⟩ := hends a b _ _ has.1 hbs.1 (atEnd_following as)
            (atEnd_following bs) (List.append_cancel_left h)
          rw [ih has.2 hbs.2 hrest]

theorem joined_injOn (hsep : sep ≠ []) (hnonempty : ∀ a, good a → print a ≠ [])
    (hends : SelfDelimiting sep print good) :
    Set.InjOn (joined sep print) {as | ∀ a ∈ as, good a} := by
  have hne : ∀ a (as : List α), good a → joined sep print (a :: as) ≠ [] := by
    intro a as ha h
    rw [joined_cons] at h
    exact hnonempty a ha (List.append_eq_nil_iff.mp h).1
  intro as has bs hbs h
  cases as with
  | nil =>
      cases bs with
      | nil => rfl
      | cons b bs => exact absurd h.symm (hne b bs (hbs b List.mem_cons_self))
  | cons a as =>
      cases bs with
      | nil => exact absurd h (hne a as (has a List.mem_cons_self))
      | cons b bs =>
          have has' : good a ∧ ∀ a' ∈ as, good a' := List.forall_mem_cons.mp has
          have hbs' : good b ∧ ∀ b' ∈ bs, good b' := List.forall_mem_cons.mp hbs
          rw [joined_cons, joined_cons] at h
          obtain ⟨rfl, hrest⟩ := hends a b _ _ has'.1 hbs'.1 (atEnd_following as)
            (atEnd_following bs) h
          rw [following_injOn hsep hends has'.2 hbs'.2 hrest]

/-- A part up to where a character may begin -/
theorem eq_of_append_eq_append {c : Char} {sep' cs cs' ds ds' : List Char} (hcs : c ∉ cs)
    (hcs' : c ∉ cs') (hds : AtEnd (c :: sep') ds) (hds' : AtEnd (c :: sep') ds')
    (h : cs ++ ds = cs' ++ ds') : cs = cs' ∧ ds = ds' := by
  have htake : ∀ {cs ds : List Char}, c ∉ cs → AtEnd (c :: sep') ds →
      (cs ++ ds).takeWhile (· ≠ c) = cs := by
    intro cs ds hcs hds
    have hall : ∀ d ∈ cs, (decide (d ≠ c)) = true := by
      intro d hd
      rw [decide_eq_true_eq]
      rintro rfl
      exact hcs hd
    rcases hds with rfl | ⟨rest, rfl⟩
    · rw [List.append_nil]
      exact List.takeWhile_eq_self_iff.mpr hall
    · rw [List.takeWhile_append_of_pos hall, List.cons_append,
        List.takeWhile_cons_of_neg (by simp), List.append_nil]
  have heq : cs = cs' := by
    rw [← htake hcs hds, ← htake hcs' hds', h]
  subst heq
  exact ⟨rfl, List.append_cancel_left h⟩

theorem of_append_cons_eq {c : Char} {cs cs' ds ds' : List Char} (hcs : c ∉ cs) (hcs' : c ∉ cs')
    (h : cs ++ c :: ds = cs' ++ c :: ds') : cs = cs' ∧ ds = ds' := by
  have hends : ∀ rest : List Char, AtEnd [c] (c :: rest) := fun rest => .inr ⟨rest, rfl⟩
  obtain ⟨rfl, hrest⟩ := eq_of_append_eq_append hcs hcs' (hends ds) (hends ds') h
  exact ⟨rfl, (List.cons.inj hrest).2⟩

end Tfplenum.Lib
