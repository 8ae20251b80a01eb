/-
  Tfplenum.Frontend.IndexManagement

  The page of `elasticsearch-index-management.component.ts`: a stepper whose first
  step chooses an action and whose second one shows a list of indices for it, with
  the list requests and the updates that are under way.

  The list is requested for the action of the moment and shown when its response
  comes, whichever action is chosen by then; a request also outlives the reset of the
  page.  A submission is about the indices that were loaded for its action as long as
  no list meets another action than the one it was requested for (`Fits`).
-/

import Tfplenum.Controller.CuratorController
import Tfplenum.Lib.Steps
import Tfplenum.Service.CuratorService

namespace Tfplenum

open Lib

/-! ## The page -/

/-- A list of indices that has been received -/
structure ListResponse where
  requestedFor : CuratorAction
  indices : List ElasticIndexModel
deriving DecidableEq, Repr

def ListResponse.names (response : ListResponse) : List String :=
  response.indices.map ElasticIndexModel.index

/-- `IndexManagementOptionInterface`, and the lists received by then, the last one first -/
structure Submission where
  action : Option CuratorAction
  indexList : List String
  responses : List ListResponse
deriving DecidableEq, Repr

/-- `ElasticsearchIndexManagementComponent` with its stepper and its forms, and what is under way -/
structure IndexPage where
  /-- the value of `index_management_actions_form_group` -/
  action : Option CuratorAction
  /-- the value of `index_management_list_form_group` -/
  indexList : List String
  indices : List ElasticIndexModel
  /-- `selectedIndex` of the stepper -/
  selectedIndex : Nat
  nextTriggered : Bool
  isLoading : Bool
  instructions : String
  /-- `isDisabled` of the action "Backup and close" -/
  backupDisabled : Bool
  /-- `api_minio_check_` is under way. -/
  minioCheck : Bool
  /-- the list requests under way, by the action that they were made for -/
  requests : List CuratorAction
  /-- how many updates are under way -/
  updates : Nat
  responses : List ListResponse
  submitted : List Submission
deriving DecidableEq, Repr

namespace IndexPage

/-- The page after `ngOnInit` -/
def init : IndexPage where
  action := none
  indexList := []
  indices := []
  selectedIndex := 0
  nextTriggered := false
  isLoading := false
  instructions := ""
  backupDisabled := true
  minioCheck := true
  requests := []
  updates := 0
  responses := []
  submitted := []

/-- `reset_form_`; the reset of the stepper announces step 0, which clears `next_triggered_`. -/
def resetForm (page : IndexPage) : IndexPage :=
  { page with
    isLoading := false
    indices := []
    nextTriggered := false
    selectedIndex := 0
    action := none
    indexList := [] }

/-- The instructions for an action -/
def instructionsFor : CuratorAction → String
  | .deleteIndices => "Select one or more Index to delete and click Update."
  | .closeIndices => "Select one or more Index to close and click Update."
  | .backupIndices => "Select one or more Index to backup and click Update."

/-- `next` -/
def next (page : IndexPage) : IndexPage :=
  match page.action with
  | some action =>
      { page with
        instructions := instructionsFor action
        isLoading := true
        requests := page.requests ++ [action] }
  | none => page.resetForm

/-- `stepper_change` -/
def stepperChange (page : IndexPage) (selectedIndex : Nat) : IndexPage :=
  if selectedIndex = 1 && !page.nextTriggered then page.next
  else { page with nextTriggered := false }

/-- The setter of `selectedIndex` in the linear stepper: a step is entered if the forms of the
    steps before it are valid, and none is gone back to, since they are not editable.  The
    change is announced before it is made. -/
def select (page : IndexPage) (index : Nat) : IndexPage :=
  if page.selectedIndex < index && page.action.isSome then
    { page.stepperChange index with selectedIndex := index }
  else page

/-- `mat_stepper_.next` -/
def stepperNext (page : IndexPage) : IndexPage := page.select (min (page.selectedIndex + 1) 1)

/-- `indices_return_actions_` -/
def indicesReturnActions (page : IndexPage) (response : List ElasticIndexModel) : IndexPage :=
  { page with indices := response, isLoading := false, nextTriggered := true }.stepperNext

/-- `update` -/
def update (page : IndexPage) : IndexPage :=
  { page with
    updates := page.updates + 1
    submitted := page.submitted ++ [⟨page.action, page.indexList, page.responses⟩] }

end IndexPage

/-! ## What may happen -/

inductive IndexPageEvent where
  | chooseAction (action : CuratorAction)
  /-- the button of the first step -/
  | next
  /-- a click on the header of the second step -/
  | selectHeader
  | back
  /-- the indices that are selected of those shown -/
  | pick (names : List String)
  | update
  /-- the response to one of the list requests, which may come in any order -/
  | listed (k : Nat) (response : List ElasticIndexModel)
  | listFailed (k : Nat)
  | updated (success : Bool)
  | minioChecked (available : Bool)
deriving DecidableEq, Repr

/-- The event, if the page lets it happen. -/
def IndexPage.step (page : IndexPage) : IndexPageEvent → Option IndexPage
  | .chooseAction action =>
      -- in either step: the panel of the select may still be open when the step changes
      if action = .backupIndices && page.backupDisabled then none
      else some { page with action := some action }
  | .next =>
      -- the button is disabled while the form is invalid
      if page.selectedIndex = 0 && page.action.isSome then some page.next else none
  | .selectHeader => some (page.select 1)
  | .back => if page.selectedIndex = 1 then some page.resetForm else none
  | .pick names =>
      if page.selectedIndex = 1 && names.isSublist (page.indices.map ElasticIndexModel.index) then
        some { page with indexList := names }
      else none
  | .update =>
      -- `is_index_list_empty` disables the button
      if page.selectedIndex = 1 && !page.indexList.isEmpty then some page.update else none
  | .listed k response =>
      match page.requests[k]? with
      | some action =>
          some (({ page with
              requests := page.requests.eraseIdx k
              responses := ⟨action, response⟩ :: page.responses }).indicesReturnActions response)
      | none => none
  | .listFailed k =>
      if k < page.requests.length then
        some { page with requests := page.requests.eraseIdx k, isLoading := false }
      else none
  | .updated success =>
      if 0 < page.updates then
        let page := { page with updates := page.updates - 1 }
        some (if success then page.resetForm else page)
      else none
  | .minioChecked available =>
      if page.minioCheck then
        some { page with minioCheck := false, backupDisabled := !available }
      else none

/-! ## Consistency -/

/-- The submission is about indices that were loaded for its action, and if it deletes them, about
    indices in the closed-indices response that came last. -/
structure Submission.Consistent (submission : Submission) : Prop where
  loaded : ∀ name ∈ submission.indexList, ∃ response ∈ submission.responses,
    some response.requestedFor = submission.action ∧ name ∈ response.names
  closed : submission.action = some .deleteIndices →
    ∃ response, submission.responses.find? (fun r => r.requestedFor = .deleteIndices) =
      some response ∧ ∀ name ∈ submission.indexList, name ∈ response.names

/-- A list comes while no other action is chosen than the one it was requested for, and has the
    indices that are selected; an action is chosen while no list for another one is held. -/
def IndexPage.Fits (page : IndexPage) : IndexPageEvent → Prop
  | .listed k response => ∀ action, page.requests[k]? = some action →
      (page.action = none ∨ page.action = some action) ∧
        ∀ name ∈ page.indexList, name ∈ response.map ElasticIndexModel.index
  | .chooseAction action => page.indices = [] ∨
      ∃ response, page.responses.head? = some response ∧ response.requestedFor = action
  | _ => True

/-- What the page keeps: the list that is held is the one that came last, and is for the action
    that is chosen, if any; only indices of it are selected. -/
structure IndexPage.Sound (page : IndexPage) : Prop where
  held : page.indices ≠ [] → ∃ response, page.responses.head? = some response ∧
    response.indices = page.indices ∧ ∀ action, page.action = some action →
      response.requestedFor = action
  picked : ∀ name ∈ page.indexList, name ∈ page.indices.map ElasticIndexModel.index
  acting : page.selectedIndex = 1 → page.action.isSome = true
  submitted : ∀ submission ∈ page.submitted, submission.Consistent

variable {page page' : IndexPage}

/-- The fields that do not matter for this may change. -/
theorem IndexPage.Sound.congr (h : page.Sound) (haction : page'.action = page.action)
    (hlist : page'.indexList = page.indexList) (hindices : page'.indices = page.indices)
    (hselected : page'.selectedIndex = page.selectedIndex)
    (hresponses : page'.responses = page.responses)
    (hsubmitted : page'.submitted = page.submitted) : page'.Sound := by
  refine ⟨?_, ?_, ?_, ?_⟩
  · rw [hindices, hresponses, haction]
    exact h.held
  · rw [hlist, hindices]
    exact h.picked
  · rw [hselected, haction]
    exact h.acting
  · rw [hsubmitted]
    exact h.submitted

theorem IndexPage.sound_init : init.Sound :=
  ⟨fun h => absurd rfl h, by simp [init], by simp [init], by simp [init]⟩

theorem IndexPage.Sound.resetForm (h : page.Sound) : page.resetForm.Sound :=
  ⟨fun hne => absurd rfl hne, by simp [IndexPage.resetForm], by simp [IndexPage.resetForm],
    h.submitted⟩

theorem IndexPage.Sound.next (h : page.Sound) : page.next.Sound := by
  rw [IndexPage.next]
  split
  · exact h.congr rfl rfl rfl rfl rfl rfl
  · exact h.resetForm

theorem IndexPage.Sound.stepperChange (h : page.Sound) (index : Nat) :
    (page.stepperChange index).Sound := by
  rw [IndexPage.stepperChange]
  split
  · exact h.next
  · exact h.congr rfl rfl rfl rfl rfl rfl

/-- While an action is chosen, a change of the step does not reset the form. -/
theorem IndexPage.action_stepperChange (hsome : page.action.isSome = true) (index : Nat) :
    (page.stepperChange index).action = page.action := by
  obtain ⟨action, haction⟩ := Option.isSome_iff_exists.mp hsome
  rw [IndexPage.stepperChange, IndexPage.next, haction]
  split <;> rfl

theorem IndexPage.Sound.select (h : page.Sound) (index : Nat) : (page.select index).Sound := by
  rw [IndexPage.select]
  split
  · rename_i hvalid
    rw [Bool.and_eq_true] at hvalid
    have hchange := h.stepperChange index
    refine ⟨hchange.held, hchange.picked, fun _ => ?_, hchange.submitted⟩
    show (page.stepperChange index).action.isSome = true
    rw [action_stepperChange hvalid.2]
    exact hvalid.2
  · exact h

/-- A response is received. -/
theorem IndexPage.Sound.listed (h : page.Sound) {k : Nat} {action : CuratorAction}
    {response : List ElasticIndexModel}
    (haction : page.action = none ∨ page.action = some action)
    (hpicked : ∀ name ∈ page.indexList, name ∈ response.map ElasticIndexModel.index) :
    (({ page with
        requests := page.requests.eraseIdx k
        responses := ⟨action, response⟩ :: page.responses }).indicesReturnActions
      response).Sound := by
  have hloaded : IndexPage.Sound
      { page with
        requests := page.requests.eraseIdx k
        responses := ⟨action, response⟩ :: page.responses
        indices := response, isLoading := false, nextTriggered := true } := by
    refine ⟨fun _ => ⟨⟨action, response⟩, rfl, rfl, fun chosen hchosen => ?_⟩, hpicked, h.acting,
      h.submitted⟩
    rcases haction with hnone | hsome
    · rw [hnone] at hchosen
      cases hchosen
    · rw [hsome] at hchosen
      exact Option.some.inj hchosen
  exact hloaded.select _

/-- What is submitted from a sound page is consistent. -/
theorem IndexPage.Sound.consistent (h : page.Sound) (hselected : page.selectedIndex = 1)
    (hlist : page.indexList ≠ []) :
    Submission.Consistent ⟨page.action, page.indexList, page.responses⟩ := by
  obtain ⟨action, haction⟩ := Option.isSome_iff_exists.mp (h.acting hselected)
  -- something is selected, and so a list is held
  obtain ⟨name, rest, hcons⟩ := List.exists_cons_of_ne_nil hlist
  have hindices : page.indices ≠ [] := by
    intro hnil
    have hmem := h.picked name (by rw [hcons]; exact List.mem_cons_self)
    rw [hnil] at hmem
    cases hmem
  obtain ⟨response, hhead, heq, hfor⟩ := h.held hindices
  obtain ⟨responses, hresponses⟩ := List.head?_eq_some_iff.mp hhead
  have hnames : ∀ name ∈ page.indexList, name ∈ response.names := by
    intro name hname
    rw [ListResponse.names, heq]
    exact h.picked name hname
  refine ⟨fun name hname => ⟨response, ?_, ?_, hnames name hname⟩, fun hdelete =>
    ⟨response, ?_, hnames⟩⟩
  · rw [hresponses]
    exact List.mem_cons_self
  · rw [haction, hfor action haction]
  · have hclosed : response.requestedFor = .deleteIndices := hfor _ hdelete
    show page.responses.find? _ = some response
    rw [hresponses, List.find?_cons, hclosed]
    rfl

/-- Every step that fits keeps the page sound. -/
theorem IndexPage.Sound.step {event : IndexPageEvent} (hfits : page.Fits event)
    (hstep : page.step event = some page') (h : page.Sound) : page'.Sound := by
  cases event with
  | chooseAction action =>
      obtain ⟨-, heq⟩ := Option.ite_none_left_eq_some.mp hstep
      rw [← Option.some.inj heq]
      refine ⟨fun hne => ?_, h.picked, fun _ => rfl, h.submitted⟩
      obtain ⟨response, hhead, hindices, -⟩ := h.held hne
      refine ⟨response, hhead, hindices, fun chosen hchosen => ?_⟩
      -- the list that is held is for the action that is chosen now
      rcases hfits with hnil | ⟨response', hhead', hfor⟩
      · exact absurd hnil hne
      · rw [hhead] at hhead'
        rw [Option.some.inj hhead', hfor]
        exact Option.some.inj hchosen
  | next =>
      obtain ⟨-, heq⟩ := Option.ite_none_right_eq_some.mp hstep
      rw [← Option.some.inj heq]
      exact h.next
  | selectHeader =>
      rw [← Option.some.inj hstep]
      exact h.select 1
  | back =>
      obtain ⟨-, heq⟩ := Option.ite_none_right_eq_some.mp hstep
      rw [← Option.some.inj heq]
      exact h.resetForm
  | pick names =>
      obtain ⟨hpick, heq⟩ := Option.ite_none_right_eq_some.mp hstep
      rw [← Option.some.inj heq]
      rw [Bool.and_eq_true, List.isSublist_iff_sublist] at hpick
      exact ⟨h.held, fun name hname => hpick.2.subset hname, h.acting, h.submitted⟩
  | update =>
      obtain ⟨hpress, heq⟩ := Option.ite_none_right_eq_some.mp hstep
      rw [← Option.some.inj heq]
      simp only [Bool.and_eq_true, decide_eq_true_eq, Bool.not_eq_true', List.isEmpty_eq_false_iff]
        at hpress
      refine ⟨h.held, h.picked, h.acting, fun submission hmem => ?_⟩
      rcases List.mem_append.mp hmem with hmem | hmem
      · exact h.submitted submission hmem
      · rw [List.mem_singleton.mp hmem]
        exact h.consistent hpress.1 hpress.2
  | listed k response =>
      rw [IndexPage.step] at hstep
      split at hstep
      · rename_i action hrequest
        rw [← Option.some.inj hstep]
        obtain ⟨haction, hpicked⟩ := hfits action hrequest
        exact h.listed haction hpicked
      · cases hstep
  | listFailed k =>
      obtain ⟨-, heq⟩ := Option.ite_none_right_eq_some.mp hstep
      rw [← Option.some.inj heq]
      exact h.congr rfl rfl rfl rfl rfl rfl
  | updated success =>
      obtain ⟨-, heq⟩ := Option.ite_none_right_eq_some.mp hstep
      rw [← Option.some.inj heq]
      have hless : IndexPage.Sound { page with updates := page.updates - 1 } :=
        h.congr rfl rfl rfl rfl rfl rfl
      cases success with
      | false => exact hless
      | true => exact hless.resetForm
  | minioChecked available =>
      obtain ⟨-, heq⟩ := Option.ite_none_right_eq_some.mp hstep
      rw [← Option.some.inj heq]
      exact h.congr rfl rfl rfl rfl rfl rfl

/-- In every run whose steps fit, every submission is about indices that were loaded for its
    action, and every deletion about indices of the last closed-indices response. -/
theorem submissions_consistent (events : List IndexPageEvent) (page : IndexPage)
    (hrun : Steps.after IndexPage.step IndexPage.init events = some page)
    (hfits : Steps.Along IndexPage.step IndexPage.Fits IndexPage.init events) :
    ∀ submission ∈ page.submitted, submission.Consistent :=
  (Steps.after_invariant_along (fun _ _ _ hfits hstep h => h.step hfits hstep) hrun hfits
    IndexPage.sound_init).submitted

/-- A closed index is deleted. -/
def deleteRun : List IndexPageEvent :=
  [.chooseAction .deleteIndices, .next, .listed 0 [⟨"winlogbeat-000001", ""⟩],
    .pick ["winlogbeat-000001"], .update]

theorem submissions_consistent_deleteRun :
    ∃ page, Steps.after IndexPage.step IndexPage.init deleteRun = some page ∧
      page.submitted.length = 1 ∧ ∀ submission ∈ page.submitted, submission.Consistent := by
  have hfits : Steps.Along IndexPage.step IndexPage.Fits IndexPage.init deleteRun := by
    refine Steps.along_cons_of_step rfl (.inl rfl) ?_
    refine Steps.along_cons_of_step rfl trivial ?_
    refine Steps.along_cons_of_step rfl (fun action haction => ?_) ?_
    · exact ⟨.inr haction, fun name hname => nomatch hname⟩
    · exact Steps.along_cons_of_step rfl trivial (Steps.along_cons_of_step rfl trivial trivial)
  exact ⟨_, rfl, rfl, submissions_consistent deleteRun _ rfl hfits⟩

/-- Close is chosen, and changed to delete while the list of all indices is on its way. -/
def changedRun : List IndexPageEvent :=
  [.chooseAction .closeIndices, .next, .chooseAction .deleteIndices,
    .listed 0 [⟨"winlogbeat-000002", "2.1gb"⟩], .pick ["winlogbeat-000002"], .update]

/-- An open index is submitted for deletion. -/
theorem submissions_changedRun :
    ¬ ∀ (events : List IndexPageEvent) (page : IndexPage),
      Steps.after IndexPage.step IndexPage.init events = some page →
        ∀ submission ∈ page.submitted, submission.Consistent := by
  intro h
  have hconsistent := h changedRun _ rfl
    ⟨some .deleteIndices, ["winlogbeat-000002"],
      [⟨.closeIndices, [⟨"winlogbeat-000002", "2.1gb"⟩]⟩]⟩
    (List.mem_singleton_self _)
  -- no closed-indices response has been received at all
  obtain ⟨response, hfind, -⟩ := hconsistent.closed rfl
  cases hfind

end Tfplenum
