/-
  Tfplenum.PipelineImages.LintedCommits

  The commit linter beside the changelog.  The linter takes a ticket number of any
  length up to six, and any white space around the ticket; the changelog links to
  tickets of five or six digits and splits a title at plain spaces.  What the
  linter lets through therefore reaches the changelog as a link to nothing, or as
  no detail at all, unless the title also names its ticket in the changelog's way
  (`NamesTicket`).
-/

import Tfplenum.PipelineImages.ChangelogSections

namespace Tfplenum

open Lib

/-- Behind the first `") "` of the title stand a project, a dash, five or six digits
    and `": "`. -/
def NamesTicket (u : Unicode) (title : String) : Prop :=
  ∃ scope project number rest,
    title.toList = '(' :: (scope ++ ([')', ' '] ++
      (project ++ ('-' :: (number ++ ([':', ' '] ++ rest)))))) ∧
    ¬ [')', ' '] <:+: scope ∧ u.upperText project ∈ jiraProjects ∧
    (∀ c ∈ number, u.isDecimal c = true) ∧ 5 ≤ number.length ∧ number.length ≤ 6

/-- The commit has a detail, and that a link which is not empty. -/
def HasTicketLink (u : Unicode) (commit : GitCommit) : Prop :=
  ∃ d link, (MDCommit.init u commit).detail = some d ∧ d.ticket.link = some link ∧ link ≠ ""

/-! ## The ticket -/

theorem mem_jiraProjects_iff {project : List Char} :
    project ∈ jiraProjects ↔ String.ofList project ∈ ["THISISCVAH", "AFDCO"] := by
  have heq (name : String) : String.ofList project = name ↔ project = name.toList := by
    rw [← String.ofList_inj, String.ofList_toList]
  simp only [jiraProjects, List.mem_cons, List.not_mem_nil, or_false, heq]

/-- A ticket links somewhere if its project and its number are of the known form. -/
theorem Ticket.link_init_iff {u : Unicode} {project number : List Char}
    (hdecimal : ∀ c ∈ number, u.isDecimal c = true) :
    (∃ link, (Ticket.init u (String.ofList project) (String.ofList number)).link = some link ∧
      link ≠ "") ↔
      u.upperText project ∈ jiraProjects ∧ 5 ≤ number.length ∧ number.length ≤ 6 := by
  have hdigits : number.all u.isDigit = true :=
    List.all_eq_true.mpr fun c hc => u.isDigit_of_isDecimal c (hdecimal c hc)
  have hnumber : (String.ofList number ≠ "" ∧ number.all u.isDigit = true) ∧
      5 ≤ number.length ∧ number.length ≤ 6 ↔ 5 ≤ number.length ∧ number.length ≤ 6 := by
    refine and_iff_right_of_imp fun hlength => ⟨fun hempty => ?_, hdigits⟩
    have hnil : number.length = 0 := by rw [← String.length_ofList, hempty]; rfl
    omega
  rw [mem_jiraProjects_iff]
  simp only [Ticket.init, String.toList_ofList, String.length_ofList, hnumber]
  by_cases hproject : String.ofList (u.upperText project) ∈ ["THISISCVAH", "AFDCO"]
  · by_cases hlength : 5 ≤ number.length ∧ number.length ≤ 6
    · simp only [hproject, hlength, Option.isSome_some, and_self, if_true,
        iff_true]
      refine ⟨_, rfl, fun hempty => ?_⟩
      simp only [String.append_eq_empty_iff] at hempty
      exact absurd hempty.1.1.1 (by decide)
    · simp [hlength]
  · simp [hproject]

/-- What is upper-cased to the name of a project has no dash. -/
theorem dash_not_mem {u : Unicode} {project : List Char} (h : u.upperText project ∈ jiraProjects) :
    '-' ∉ project := by
  intro hdash
  have hupper := u.mem_upperText (by decide) (by decide) hdash
  simp only [jiraProjects, List.mem_cons, List.not_mem_nil, or_false] at h
  rcases h with h | h <;> rw [h] at hupper <;> revert hupper <;> decide

/-! ## The title -/

theorem newline_not_mem_summary (commit : GitCommit) : '\n' ∉ commit.summary.toList := by
  intro h
  rw [GitCommit.summary, String.toList_ofList] at h
  have hall := List.all_takeWhile (p := fun c : Char => decide (c ≠ '\n'))
    (l := commit.message.toList)
  exact absurd rfl (of_decide_eq_true (List.all_eq_true.mp hall _ h))

theorem dot_of_newline_not_mem {cs : List Char} (h : '\n' ∉ cs) :
    ∀ c ∈ cs, Regex.dot c = true :=
  fun _ hc => decide_eq_true fun heq => h (heq ▸ hc)

theorem isDecimal_colon (u : Unicode) : u.isDecimal ':' = false := by
  rw [u.isDecimal_ascii ':' (by decide)]
  decide

/-- A number of decimal digits and a title behind it are read to their ends. -/
theorem first_numberTitleRegexp {u : Unicode} {number rest : List Char}
    (hdecimal : ∀ c ∈ number, u.isDecimal c = true) (hne : 1 ≤ number.length)
    (hrest : '\n' ∉ rest) :
    (numberTitleRegexp u).first ('-' :: (number ++ ([':', ' '] ++ rest))) =
      some (number, rest) := by
  -- from the end: the title, what separates it, the number
  have htitle : (Regex.atLeast 0 Regex.dot >>= fun title => Regex.stop >>= fun _ =>
      (Pure.pure (number, title) : Regex _)).first (rest ++ []) = some (number, rest) := by
    rw [Regex.first_atLeast_bind (dot_of_newline_not_mem hrest) (by simp) (Nat.zero_le _)]
    · rfl
    · simp [Regex.stop, Regex.bind_ways, Regex.pure_ways]
  have htail : (Regex.text [':', ' '] >>= fun _ => Regex.atLeast 0 Regex.dot >>= fun title =>
      Regex.stop >>= fun _ => (Pure.pure (number, title) : Regex _)).first
      ([':', ' '] ++ rest) = some (number, rest) := by
    rw [List.append_nil] at htitle
    exact (Regex.first_text_bind [':', ' '] _ _).trans htitle
  have hnumber : (Regex.atLeast 1 u.isDecimal >>= fun number => Regex.text [':', ' '] >>= fun _ =>
      Regex.atLeast 0 Regex.dot >>= fun title =>
      Regex.stop >>= fun _ => (Pure.pure (number, title) : Regex _)).first
      (number ++ ([':', ' '] ++ rest)) = some (number, rest) := by
    rw [Regex.first_atLeast_bind hdecimal (by simpa using isDecimal_colon u) hne]
    · exact htail
    · intro hnil
      rw [Regex.first, hnil] at htail
      cases htail
  exact (Regex.first_text_bind ['-'] _ _).trans hnumber

/-- A `") "` that starts before the end of the scope lies within it: it cannot be
    the scope's last character alone, which a `)` follows. -/
theorem infix_of_append_eq_append {a b cs ds : List Char}
    (h : a ++ ([')', ' '] ++ cs) = b ++ ([')', ' '] ++ ds)) (hb : b.length < a.length) :
    [')', ' '] <:+: a := by
  obtain ⟨d, as, rfl, hrest⟩ := Regex.exists_of_append_eq_append h hb
  cases as with
  | nil => cases hrest
  | cons e as =>
      simp only [List.cons_append, List.nil_append, List.cons.injEq] at hrest
      obtain ⟨rfl, rfl, -⟩ := hrest
      exact ⟨b, as, by rw [List.append_assoc]; rfl⟩

/-- The title is read from its first `") "` on. -/
theorem first_summaryRegexp {u : Unicode} {scope project number rest : List Char}
    (hscope : ¬ [')', ' '] <:+: scope) (hdash : '-' ∉ project)
    (hdecimal : ∀ c ∈ number, u.isDecimal c = true) (hne : 1 ≤ number.length)
    (hline : '\n' ∉ scope ++ (project ++ rest)) :
    (summaryRegexp u).first ('(' :: (scope ++ ([')', ' '] ++
      (project ++ ('-' :: (number ++ ([':', ' '] ++ rest))))))) = some (project, number, rest) := by
  simp only [List.mem_append, not_or] at hline
  obtain ⟨hlscope, hlproject, hlrest⟩ := hline
  -- no dash stands before the end of the project
  have hticket : (ticketTitleRegexp u).first
      (project ++ ('-' :: (number ++ ([':', ' '] ++ rest)))) = some (project, number, rest) := by
    have hways : (numberTitleRegexp u >>= fun groups =>
        (Pure.pure (project, groups) : Regex _)).first
        ('-' :: (number ++ ([':', ' '] ++ rest))) = some (project, number, rest) := by
      rw [Regex.first_bind_pure, first_numberTitleRegexp hdecimal hne hlrest]
      rfl
    refine (Regex.first_lazy_bind (dot_of_newline_not_mem hlproject) ?_
      (Regex.ne_nil_of_first hways)).trans hways
    intro b rest' hb heq
    have hno : numberTitleRegexp u rest' = [] := by
      refine Regex.text_bind_eq_nil fun hprefix => hdash ?_
      obtain ⟨d, ds, rfl, hrest'⟩ := Regex.exists_of_append_eq_append heq hb
      obtain ⟨tail, rfl⟩ := hprefix
      rw [List.singleton_append] at hrest'
      rw [(List.cons.inj hrest').1]
      exact List.mem_append_right _ (List.mem_cons_self ..)
    rw [Regex.bind_ways, hno, List.flatMap_nil]
  -- and no `") "` before the end of the scope
  have hbehind : (Regex.text [')', ' '] >>= fun _ => ticketTitleRegexp u).first ([')', ' '] ++
      (project ++ ('-' :: (number ++ ([':', ' '] ++ rest))))) = some (project, number, rest) :=
    (Regex.first_text_bind [')', ' '] _ _).trans hticket
  refine (Regex.first_text_bind ['('] _ _).trans ((Regex.first_lazy_bind
    (dot_of_newline_not_mem hlscope) ?_ (Regex.ne_nil_of_first hbehind)).trans hbehind)
  rintro b rest' hb heq
  refine Regex.text_bind_eq_nil ?_
  rintro ⟨tail, rfl⟩
  exact hscope (infix_of_append_eq_append heq hb)

/-- What the number and the title of a ticket were read from. -/
theorem exists_of_mem_numberTitleRegexp {u : Unicode} {cs number title left : List Char}
    (h : ((number, title), left) ∈ numberTitleRegexp u cs) :
    cs = '-' :: (number ++ ([':', ' '] ++ (title ++ left))) ∧
      (∀ c ∈ number, u.isDecimal c = true) ∧ 1 ≤ number.length := by
  obtain ⟨_, cs₁, hdash, h⟩ := Regex.mem_bind.mp h
  obtain ⟨number', cs₂, hnumber, h⟩ := Regex.mem_bind.mp h
  obtain ⟨_, cs₃, hcolon, h⟩ := Regex.mem_bind.mp h
  obtain ⟨title', cs₄, htitle, h⟩ := Regex.mem_bind.mp h
  obtain ⟨_, cs₅, hstop, h⟩ := Regex.mem_bind.mp h
  rw [Regex.pure_ways, List.mem_singleton] at h
  cases h
  obtain ⟨heq₂, hdecimal, hne⟩ := Regex.mem_atLeast.mp hnumber
  have hleft : cs₄ = left := by
    simp only [Regex.stop] at hstop
    split at hstop <;> simp_all
  rw [(Regex.mem_text.mp hdash).2, heq₂, (Regex.mem_text.mp hcolon).2,
    (Regex.mem_atLeast.mp htitle).1, hleft]
  exact ⟨rfl, hdecimal, hne⟩

theorem ticketTitleRegexp_ne_nil {u : Unicode} {project number rest : List Char}
    (hdecimal : ∀ c ∈ number, u.isDecimal c = true) (hne : 1 ≤ number.length)
    (hline : '\n' ∉ project ++ rest) :
    ticketTitleRegexp u (project ++ ('-' :: (number ++ ([':', ' '] ++ rest)))) ≠ [] := by
  rw [List.mem_append, not_or] at hline
  obtain ⟨left, hmem⟩ := Regex.mem_of_first (first_numberTitleRegexp hdecimal hne hline.2)
  refine List.ne_nil_of_mem (a := ((project, number, rest), left)) (Regex.mem_bind.mpr ?_)
  refine ⟨project, _, Regex.mem_fronts.mpr ⟨rfl, dot_of_newline_not_mem hline.1⟩, ?_⟩
  exact Regex.mem_bind.mpr ⟨_, _, hmem, List.mem_singleton_self _⟩

theorem mem_title_of_mem {c : Char} {scope project number rest : List Char}
    (h : c ∈ scope ++ (project ++ rest)) : c ∈ '(' :: (scope ++ ([')', ' '] ++
      (project ++ ('-' :: (number ++ ([':', ' '] ++ rest)))))) := by
  simp only [List.mem_append, List.mem_cons] at h ⊢
  rcases h with h | h | h
  · exact .inr (.inl h)
  · exact .inr (.inr (.inr (.inl h)))
  · exact .inr (.inr (.inr (.inr (.inr (.inr (.inr h))))))

/-- What the parts of a title of one line were read from. -/
theorem exists_of_first_summaryRegexp {u : Unicode} {cs project number title : List Char}
    (hline : '\n' ∉ cs) (h : (summaryRegexp u).first cs = some (project, number, title)) :
    ∃ scope rest, cs = '(' :: (scope ++ ([')', ' '] ++
        (project ++ ('-' :: (number ++ ([':', ' '] ++ rest)))))) ∧
      ¬ [')', ' '] <:+: scope ∧ ∀ c ∈ number, u.isDecimal c = true := by
  obtain ⟨left, hmem⟩ := Regex.mem_of_first h
  obtain ⟨_, cs', hopen, -⟩ := Regex.mem_bind.mp hmem
  obtain ⟨-, rfl⟩ := Regex.mem_text.mp hopen
  obtain ⟨scope, cs₁, rfl, -, hbehind, hshortest⟩ :=
    Regex.exists_of_first_lazy_bind ((Regex.first_text_bind ['('] _ _).symm.trans h)
  obtain ⟨left, hmem⟩ := Regex.mem_of_first hbehind
  obtain ⟨_, cs₂, hclose, hticket⟩ := Regex.mem_bind.mp hmem
  obtain ⟨-, rfl⟩ := Regex.mem_text.mp hclose
  obtain ⟨project', cs₃, hproject, hnumber⟩ := Regex.mem_bind.mp hticket
  obtain ⟨⟨number', title'⟩, left', hnumber, hpure⟩ := Regex.mem_bind.mp hnumber
  rw [Regex.pure_ways, List.mem_singleton] at hpure
  cases hpure
  obtain ⟨rfl, hdecimal, hne⟩ := exists_of_mem_numberTitleRegexp hnumber
  obtain ⟨rfl, -⟩ := Regex.mem_fronts.mp hproject
  refine ⟨scope, title ++ left, rfl, ?_, hdecimal⟩
  -- an earlier `") "` would have been followed by a ticket as well
  rintro ⟨front, back, rfl⟩
  have hearlier := hshortest front ([')', ' '] ++ (back ++ ([')', ' '] ++
    (project ++ ('-' :: (number ++ ([':', ' '] ++ (title ++ left)))))))) (by simp) (by simp)
  rw [Regex.bind_ways, Regex.text_append, List.flatMap_singleton] at hearlier
  have hnewline : '\n' ∉ (back ++ ([')', ' '] ++ project)) ++ (title ++ left) := by
    intro hnewline
    refine hline (mem_title_of_mem ?_)
    simp only [List.mem_append] at hnewline ⊢
    rcases hnewline with (h | h | h) | h
    · exact .inl (.inr h)
    · exact .inl (.inl (.inr h))
    · exact .inr (.inl h)
    · exact .inr (.inr h)
  exact ticketTitleRegexp_ne_nil hdecimal hne hnewline (by simpa using hearlier)

/-! ## The commit -/

theorem detail_init_eq_some_iff {u : Unicode} {commit : GitCommit} {ticket : Ticket} :
    (∃ d, (MDCommit.init u commit).detail = some d ∧ d.ticket = ticket) ↔
      ∃ title, setCommitTicketTitle u commit.summary = some (title, ticket) := by
  simp only [MDCommit.detail, MDCommit.init]
  cases setCommitTicketTitle u commit.summary with
  | none => simp
  | some parts => simp [Prod.ext_iff]

/-- A commit is shown with a link exactly if its title names its ticket in the
    changelog's way. -/
theorem hasTicketLink_iff_namesTicket (u : Unicode) (commit : GitCommit) :
    HasTicketLink u commit ↔ NamesTicket u commit.summary := by
  have hline := newline_not_mem_summary commit
  constructor
  · rintro ⟨d, link, hdetail, hlink, hne⟩
    obtain ⟨title, hparts⟩ := detail_init_eq_some_iff.mp ⟨d, hdetail, rfl⟩
    obtain ⟨⟨project, number, rest⟩, hfirst, heq⟩ := Option.map_eq_some_iff.mp hparts
    obtain ⟨scope, rest, htitle, hscope, hdecimal⟩ := exists_of_first_summaryRegexp hline hfirst
    have hticket := (Prod.mk.injEq _ _ _ _).mp heq
    have hknown := (Ticket.link_init_iff hdecimal).mp ⟨link, hticket.2 ▸ hlink, hne⟩
    exact ⟨scope, project, number, rest, htitle, hscope, hknown.1, hdecimal, hknown.2⟩
  · rintro ⟨scope, project, number, rest, htitle, hscope, hproject, hdecimal, hlength⟩
    have hfirst : (summaryRegexp u).first commit.summary.toList = some (project, number, rest) := by
      rw [htitle] at hline ⊢
      refine first_summaryRegexp hscope (dash_not_mem hproject) hdecimal (by omega) ?_
      exact fun hnewline => hline (mem_title_of_mem hnewline)
    obtain ⟨link, hlink, hne⟩ := (Ticket.link_init_iff hdecimal).mpr ⟨hproject, hlength⟩
    obtain ⟨d, hdetail, hticket⟩ := detail_init_eq_some_iff.mpr
      ⟨_, (congrArg (Option.map _) hfirst : setCommitTicketTitle u commit.summary = _)⟩
    exact ⟨d, link, hdetail, hticket ▸ hlink, hne⟩

/-! ## Titles with plain spaces -/

/-- What stands before the first of a character is told by the text. -/
theorem eq_of_append_cons_eq {c : Char} {a b cs ds : List Char} (ha : c ∉ a) (hb : c ∉ b)
    (h : a ++ c :: cs = b ++ c :: ds) : a = b ∧ cs = ds := by
  have hlt {a b cs ds : List Char} (ha : c ∉ a) (h : a ++ c :: cs = b ++ c :: ds) :
      ¬ b.length < a.length := by
    intro hlength
    obtain ⟨d, as, rfl, hrest⟩ := Regex.exists_of_append_eq_append h hlength
    rw [(List.cons.inj hrest).1] at ha
    exact ha (List.mem_append_right _ (List.mem_cons_self ..))
  have hlength : a.length = b.length :=
    Nat.le_antisymm (Nat.le_of_not_lt (hlt ha h)) (Nat.le_of_not_lt (hlt hb h.symm))
  obtain ⟨hab, hrest⟩ := List.append_inj h hlength
  exact ⟨hab, (List.cons.inj hrest).2⟩

/-- Of the titles in the linter's form that are written with plain spaces, the
    changelog takes those with at least five digits. -/
theorem namesTicket_iff_of_spaces {u : Unicode} {type project number rest : List Char}
    (htype : type ∈ commitTypes) (hproject : project ∈ jiraProjects)
    (hdigits : ∀ c ∈ number, isTicketDigit c = true) (hlength : number.length ≤ 6) :
    NamesTicket u (String.ofList ('(' :: (type ++ ([')', ' '] ++
      (project ++ ('-' :: (number ++ ([':', ' '] ++ rest)))))))) ↔ 5 ≤ number.length := by
  have hclose : ')' ∉ type := by
    revert type
    decide
  have hupper : u.upperText project = project := by
    have hall : jiraProjects.all (·.all fun c => c.toNat < 128 ∧ c.toUpper = c) = true := by decide
    simp only [List.all_eq_true, decide_eq_true_eq] at hall
    exact u.upperText_of_ascii (hall project hproject)
  have hdecimal : ∀ c ∈ number, u.isDecimal c = true := by
    intro c hc
    have hdigit := hdigits c hc
    simp only [isTicketDigit, decide_eq_true_eq] at hdigit
    rw [u.isDecimal_ascii c (by have := hdigit.2; exact Nat.lt_of_le_of_lt this (by decide))]
    simp only [Char.isDigit, Bool.and_eq_true, decide_eq_true_eq]
    exact hdigit
  have hscope : ¬ [')', ' '] <:+: type :=
    fun hsub => hclose (hsub.subset (List.mem_cons_self ..))
  constructor
  · rintro ⟨scope, project', number', rest', htitle, hscope', hproject', hdecimal', hlength', -⟩
    rw [String.toList_ofList] at htitle
    have hsplit := (List.cons.inj htitle).2
    -- both scopes end at the first `") "`
    have hcut : type.length = scope.length := by
      by_contra hne
      rcases Nat.lt_or_gt_of_ne hne with hlt | hlt
      · exact hscope' (infix_of_append_eq_append hsplit.symm hlt)
      · exact hscope (infix_of_append_eq_append hsplit hlt)
    have hticket := List.append_cancel_left (List.append_inj hsplit hcut).2
    have hdash : '-' ∉ project := dash_not_mem (by rw [hupper]; exact hproject)
    -- both projects end at the first dash, and both numbers at the colon
    have hnumber := (eq_of_append_cons_eq hdash (dash_not_mem hproject') hticket).2
    have hmem {n : List Char} (hn : ∀ c ∈ n, u.isDecimal c = true) : ':' ∉ n := by
      intro hc
      have hcolon := isDecimal_colon u
      rw [hn _ hc] at hcolon
      cases hcolon
    rw [(eq_of_append_cons_eq (hmem hdecimal) (hmem hdecimal') hnumber).1]
    exact hlength'
  · intro h
    exact ⟨type, project, number, rest, String.toList_ofList, hscope,
      by rw [hupper]; exact hproject, hdecimal, h, hlength⟩

/-! ## The document -/

/-- The block is neither a missing detail nor a detail with a link to `None`. -/
def Block.Linked : Block → Prop
  | .detail none => False
  | .detail (some d) => ∃ link, d.ticket.link = some link ∧ link ≠ ""
  | _ => True

/-- The commits the changelog shows. -/
def Changelog.shown (changelog : Changelog) : List GitCommit :=
  changelog.sections.flatMap Section.commits

theorem linked_detail_iff {u : Unicode} {commit : GitCommit} :
    (Block.detail (MDCommit.init u commit).detail).Linked ↔ HasTicketLink u commit := by
  rw [HasTicketLink]
  cases (MDCommit.init u commit).detail with
  | none =>
      refine ⟨fun h => h.elim, ?_⟩
      rintro ⟨d, link, hdetail, -⟩
      cases hdetail
  | some d =>
      constructor
      · rintro ⟨link, hlink, hne⟩
        exact ⟨d, link, rfl, hlink, hne⟩
      · rintro ⟨d', link, hdetail, hlink, hne⟩
        cases hdetail
        exact ⟨link, hlink, hne⟩

theorem commit_linked_iff {u : Unicode} {commit : GitCommit} :
    (∀ block ∈ [Block.detail (MDCommit.init u commit).detail, .raw "\n"], block.Linked) ↔
      HasTicketLink u commit := by
  rw [List.forall_mem_cons, List.forall_mem_singleton, linked_detail_iff]
  exact and_iff_left trivial

theorem section_linked_iff {u : Unicode} {s : Section} :
    (∀ block ∈ s.blocks u, block.Linked) ↔ ∀ commit ∈ s.commits, HasTicketLink u commit := by
  rw [Section.blocks, List.forall_mem_cons, List.forall_mem_cons, List.forall_mem_flatMap]
  simp only [commit_linked_iff]
  exact ⟨fun h => h.2.2, fun h => ⟨trivial, trivial, h⟩⟩

/-- Nothing is missing in the document exactly if every commit it shows has its
    ticket's link. -/
theorem document_linked_iff {u : Unicode} {changelog : Changelog} {blocks : List Block}
    (h : changelog.document u = some blocks) :
    (∀ block ∈ blocks, block.Linked) ↔ ∀ commit ∈ changelog.shown, HasTicketLink u commit := by
  rw [Changelog.document] at h
  split at h
  · cases h
  · cases h
    have hsections : (∀ block ∈ changelog.sections.flatMap (Section.blocks u), block.Linked) ↔
        ∀ commit ∈ changelog.shown, HasTicketLink u commit := by
      rw [Changelog.shown, List.forall_mem_flatMap, List.forall_mem_flatMap]
      exact forall₂_congr fun s _ => section_linked_iff
    -- what stands before the sections has no detail
    rw [← hsections]
    simp only [List.forall_mem_cons, Block.Linked, true_and]

/-- A commit of a type that the changelog shows which the linter let through has a
    detail with a link exactly if its title names its ticket in the changelog's way;
    and a changelog of such commits has a block with nothing, or a link to nothing,
    unless all their titles do. -/
theorem linted_linked_iff (u : Unicode) :
    (∀ commit : GitCommit, TitleAccepted u commit.summary →
      commitType commit.summary ∈ [some "feat", some "fix", some "sus"] →
      (HasTicketLink u commit ↔ NamesTicket u commit.summary)) ∧
    ∀ release changelog blocks, Changelog.init release = .ok changelog →
      changelog.document u = some blocks →
      (∀ commit ∈ changelog.shown, TitleAccepted u commit.summary) →
      ((∀ block ∈ blocks, block.Linked) ↔
        ∀ commit ∈ changelog.shown, NamesTicket u commit.summary) := by
  refine ⟨fun commit _ _ => hasTicketLink_iff_namesTicket u commit, ?_⟩
  intro _ changelog blocks _ hdocument _
  rw [document_linked_iff hdocument]
  exact forall₂_congr fun commit _ => hasTicketLink_iff_namesTicket u commit

def softwareRaidCommit : GitCommit :=
  ⟨"5d03ab1e", "(feat) AFDCO-13943: Dell 6515 Software RAID change", "admin", some "a@sil.lab"⟩

theorem linted_linked_iff_softwareRaidCommit :
    HasTicketLink .ascii softwareRaidCommit ↔ NamesTicket .ascii softwareRaidCommit.summary :=
  (linted_linked_iff .ascii).1 softwareRaidCommit (by decide +kernel) (by decide +kernel)

/-- The number of the ticket has three digits. -/
theorem not_linted_linked :
    ¬ ∀ (u : Unicode) (commit : GitCommit), TitleAccepted u commit.summary →
      commitType commit.summary ∈ [some "feat", some "fix", some "sus"] →
      HasTicketLink u commit := by
  intro h
  obtain ⟨d, link, hdetail, hlink, -⟩ := h .ascii
    ⟨"ac1c95d4", "(feat) AFDCO-123: Faster queries", "admin", some "a@sil.lab"⟩
    (by decide +kernel) (by decide +kernel)
  have hnone : ((MDCommit.init .ascii
      ⟨"ac1c95d4", "(feat) AFDCO-123: Faster queries", "admin", some "a@sil.lab"⟩).detail.bind
      fun d => d.ticket.link) = none := by decide +kernel
  rw [hdetail, Option.bind_some, hlink] at hnone
  cases hnone

end Tfplenum
