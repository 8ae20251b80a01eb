/-
  Tfplenum.Service.CuratorReports

  What the curator job reports of each index, against what Elasticsearch answered.
  The flag of success is shared by the iterations: a deletion sets it and never
  clears it, so it tells the truth until an index is refused after another one was
  deleted; and the first exception ends the reports.
-/

import Tfplenum.Service.CuratorService
import Tfplenum.Lib.Hoare

namespace Tfplenum

namespace Curator

open Lib

variable {σ : Type}

/-! ## What Elasticsearch answers -/

/-- The calls that are made for one index, up to the close or the delete of it, which says
    whether it was acknowledged. -/
def actOn (action : CuratorAction) (index : String) : ElasticProg Bool := do
  removeIndexBlocks index
  match action with
  | .deleteIndices => do
      ask (.putSettings index "index.blocks.read_only_allow_delete" (some true))
      ask (.delete index)
  | .closeIndices | .backupIndices => rolloverAndCloseAction index

/-- The answers for all indices, whatever they are. -/
def answers (env : CuratorEnv σ) (action : CuratorAction) :
    List String → σ → List (String × Except PyError Bool)
  | [], _ => []
  | index :: indices, s =>
      (index, ((actOn action index).run env s).1) ::
        answers env action indices ((actOn action index).run env s).2

/-- The close or the delete was acknowledged. -/
def acknowledged : Except PyError Bool → Bool
  | .ok acknowledged => acknowledged
  | .error _ => false

/-- What comes before the loop. -/
def setUp : ElasticProg Unit := do
  ask .pushAppContext
  ask .elasticWrapper

/-- A success for each index whose close or delete is acknowledged, and a failure for every
    other one; without a client that is every one. -/
def truth (env : CuratorEnv σ) (action : CuratorAction) (indices : List String) (s : σ) :
    List (String × Bool) :=
  match setUp.run env s with
  | (.ok _, s) => (answers env action indices s).map fun a => (a.1, acknowledged a.2)
  | (.error _, _) => indices.map fun index => (index, false)

/-- The reports of a run of the job. -/
def reports (env : CuratorEnv σ) (action : CuratorAction) (indices : List String) (s : σ) :
    List (String × Bool) :=
  ((executeCurator action indices).run (NoteOp.handle env) ⟨[], s⟩).2.notes.filterMap
    CuratorNotice.report?

/-- No call raises, and in a deletion no index is refused after one was deleted. -/
def Orderly (env : CuratorEnv σ) (action : CuratorAction) (indices : List String) (s : σ) : Prop :=
  indices = [] ∨ ∃ s', setUp.run env s = (.ok (), s') ∧
    (∀ a ∈ answers env action indices s', a.2.isOk = true) ∧
    (action = .deleteIndices → (answers env action indices s').Pairwise fun a b =>
      acknowledged a.2 = true → acknowledged b.2 = true)

/-! ## The flag of success -/

/-- The flag after an answer. -/
def nextFlag (action : CuratorAction) (flag acknowledged : Bool) : Bool :=
  match action with
  | .deleteIndices => flag || acknowledged
  | .closeIndices | .backupIndices => acknowledged

/-- The reports of the loop on these answers: the flag goes from index to index, up to the
    first exception. -/
def reported (action : CuratorAction) : Bool → List (String × Except PyError Bool) →
    List (String × Bool)
  | _, [] => []
  | _, (_, .error _) :: _ => []
  | flag, (index, .ok acknowledged) :: answers =>
      (index, nextFlag action flag acknowledged) ::
        reported action (nextFlag action flag acknowledged) answers

/-- The flag is true at most until it has to be false. -/
theorem reported_eq_iff (action : CuratorAction) (flag : Bool)
    (answers : List (String × Except PyError Bool)) :
    reported action flag answers = answers.map (fun a => (a.1, acknowledged a.2)) ↔
      (∀ a ∈ answers, a.2.isOk = true) ∧
        (action = .deleteIndices → (flag = true → ∀ a ∈ answers, acknowledged a.2 = true) ∧
          answers.Pairwise fun a b => acknowledged a.2 = true → acknowledged b.2 = true) := by
  -- over the answers, for every flag that the earlier ones may leave
  induction answers generalizing flag with
  | nil => simp [reported]
  | cons a answers ih =>
      obtain ⟨index, r⟩ := a
      cases r with
      | error e =>
          refine iff_of_false (by simp [reported]) ?_
          intro h
          have hok := h.1 _ (List.mem_cons_self ..)
          cases hok
      | ok ack =>
          rw [reported, List.map_cons, List.cons.injEq, ih]
          -- only a deletion that is refused keeps the flag from before
          have hhead : (index, nextFlag action flag ack) = (index, acknowledged (.ok ack)) ↔
              (action = .deleteIndices → flag = true → ack = true) := by
            cases action <;> cases flag <;> cases ack <;> simp [nextFlag, acknowledged]
          rw [hhead, List.forall_mem_cons, List.forall_mem_cons, List.pairwise_cons]
          cases action with
          | deleteIndices =>
              cases flag <;> cases ack <;> simp [nextFlag, acknowledged, Except.isOk, Except.toBool]
          | closeIndices => simp [Except.isOk, Except.toBool]
          | backupIndices => simp [Except.isOk, Except.toBool]

/-! ## Runs -/

variable {env : CuratorEnv σ} {action : CuratorAction}

/-- The variables after an answer. -/
def nextFlags (action : CuratorAction) (flags : Flags) (acknowledged : Bool) : Flags where
  isSuccessfully := nextFlag action flags.isSuccessfully acknowledged
  runForcemerge :=
    match action with
    | .deleteIndices => flags.runForcemerge || acknowledged
    | .closeIndices | .backupIndices => flags.runForcemerge

/-- The notifications of an iteration that does not raise. -/
def iterationNotices (action : CuratorAction) (index : String) (success : Bool) :
    List CuratorNotice :=
  match action with
  | .deleteIndices => [.inProgress action, .report action index success]
  | .closeIndices | .backupIndices => [.report action index success]

theorem report?_iterationNotices (index : String) (success : Bool) :
    (iterationNotices action index success).filterMap CuratorNotice.report? =
      [(index, success)] := by
  cases action <;> rfl

/-- An iteration makes the calls for its index, and reports the flag. -/
theorem run_processIndex (flags : Flags) (index : String) (w : Noted CuratorNotice σ) :
    (processIndex action flags index).run (NoteOp.handle env) w =
      match (actOn action index).run env w.state with
      | (.error e, s) => (.error e, { w with state := s })
      | (.ok acknowledged, s) => (.ok (nextFlags action flags acknowledged),
          ⟨w.notes ++ iterationNotices action index
            (nextFlags action flags acknowledged).isSuccessfully, s⟩) := by
  rw [processIndex, actOn.eq_def, Program.bind_eq, Program.run_bind, Program.run_quiet,
    Program.bind_eq, Program.run_bind]
  rcases (removeIndexBlocks index).run env w.state with ⟨e | _, s₁⟩
  · rfl
  rw [Program.andThen_ok, Program.andThen_ok]
  cases action with
  | deleteIndices =>
      dsimp only
      rw [Program.bind_eq, Program.bind_eq, Program.run_bind, Program.run_quiet, Program.bind_eq,
        Program.run_bind]
      -- the call before the deletion is not one whose exception is logged
      rcases (ask (.putSettings index "index.blocks.read_only_allow_delete" (some true))).run env s₁
        with ⟨e | _, s₂⟩
      · rfl
      rw [Program.andThen_ok, Program.andThen_ok, Program.run_bind,
        Program.run_quiet]
      rcases (ask (.delete index)).run env s₂ with ⟨e | ack, s₃⟩
      · rfl
      cases ack <;> simp [nextFlags, nextFlag, iterationNotices]
  | closeIndices =>
      dsimp only
      rw [Program.bind_eq, Program.run_bind, Program.run_quiet]
      rcases (rolloverAndCloseAction index).run env s₁ with ⟨e | ack, s₂⟩ <;> rfl
  | backupIndices =>
      dsimp only
      rw [Program.bind_eq, Program.run_bind, Program.run_quiet]
      rcases (rolloverAndCloseAction index).run env s₁ with ⟨e | ack, s₂⟩ <;> rfl

/-- The loop reports on the answers, with the flag as it goes. -/
theorem reports_loop (indices : List String) (flags : Flags) (w : Noted CuratorNotice σ) :
    ((Program.foldEach indices flags (processIndex action)).run
        (NoteOp.handle env) w).2.notes.filterMap CuratorNotice.report? =
      w.notes.filterMap CuratorNotice.report? ++
        reported action flags.isSuccessfully (answers env action indices w.state) := by
  -- the flag goes from round to round, so the induction is for all of them
  induction indices generalizing flags w with
  | nil => exact (List.append_nil _).symm
  | cons index indices ih =>
      rw [Program.foldEach, Program.run_bind, run_processIndex, answers]
      rcases (actOn action index).run env w.state with ⟨e | ack, s⟩
      · exact (List.append_nil _).symm
      · dsimp only
        rw [Program.andThen_ok, ih, List.filterMap_append, report?_iterationNotices, reported,
          List.append_assoc]
        rfl

/-- What follows the loop reports of no index. -/
theorem reports_finish (indices : List String) (flags : Flags) (w : Noted CuratorNotice σ) :
    ((finish action indices flags).run (NoteOp.handle env) w).2.notes.filterMap
        CuratorNotice.report? = w.notes.filterMap CuratorNotice.report? := by
  refine Program.filterMap_notes_of_uses ?_ w
  refine .bind (.when fun _ => ?_) fun _ => .bind (Program.uses_note rfl) fun _ => .when fun _ => ?_
  · -- the backup has notices of its own
    refine .bind (Program.uses_quiet _) ?_
    rintro ⟨_ | _, snapshotName⟩ <;> exact Program.uses_note rfl
  · exact Program.uses_quiet _

/-- The loop, and what follows it. -/
theorem reports_loop_finish (indices : List String) (flags : Flags) (w : Noted CuratorNotice σ) :
    (((Program.foldEach indices flags (processIndex action)).bind (finish action indices)).run
        (NoteOp.handle env) w).2.notes.filterMap CuratorNotice.report? =
      w.notes.filterMap CuratorNotice.report? ++
        reported action flags.isSuccessfully (answers env action indices w.state) := by
  rw [← reports_loop indices flags w, Program.run_bind]
  rcases (Program.foldEach indices flags (processIndex action)).run (NoteOp.handle env) w
    with ⟨e | flags', w'⟩
  · rfl
  · exact reports_finish indices flags' w'

/-- The job reports on the answers, from a flag that is not set. -/
theorem reports_eq (indices : List String) (s : σ) :
    reports env action indices s =
      match setUp.run env s with
      | (.ok _, s) => reported action false (answers env action indices s)
      | (.error _, _) => [] := by
  simp only [reports, executeCurator, setUp, Program.bind_eq]
  rw [Program.run_bind, Program.run_quiet, Program.run_bind]
  rcases (ask .pushAppContext).run env s with ⟨e | _, s₁⟩
  · rfl
  rw [Program.andThen_ok, Program.andThen_ok, Program.run_note_bind, Program.run_bind,
    Program.run_quiet]
  rcases (ask .elasticWrapper).run env s₁ with ⟨e | _, s₂⟩
  · rfl
  exact reports_loop_finish indices ⟨false, false⟩ ⟨[.started action], s₂⟩

/-! ## The reports and the truth -/

/-- The job reports the truth on every index exactly where the answers are in order. -/
theorem reports_eq_truth_iff (env : CuratorEnv σ) (action : CuratorAction) (indices : List String)
    (s : σ) : reports env action indices s = truth env action indices s ↔
      Orderly env action indices s := by
  rw [reports_eq, truth, Orderly]
  rcases setUp.run env s with ⟨e | _, s'⟩
  · -- no report at all
    have hnil : [] = indices.map (fun index => (index, false)) ↔ indices = [] := by
      rw [eq_comm, List.map_eq_nil_iff]
    rw [hnil]
    refine ⟨Or.inl, ?_⟩
    rintro (h | ⟨s', h, -⟩)
    · exact h
    · cases h
  · dsimp only
    rw [reported_eq_iff]
    constructor
    · rintro ⟨hok, hdelete⟩
      exact .inr ⟨s', rfl, hok, fun h => (hdelete h).2⟩
    · rintro (rfl | ⟨s'', h, hok, hdelete⟩)
      · exact ⟨List.forall_mem_nil _, fun _ => ⟨fun _ => List.forall_mem_nil _, List.Pairwise.nil⟩⟩
      · cases h
        refine ⟨hok, fun h => ⟨?_, hdelete h⟩⟩
        intro hflag
        cases hflag

/-- No call raises; every index is closed, and only `a` is deleted. -/
def deletesOnlyA : CuratorEnv Unit
  | .getAliases _, s => (.ok [], s)
  | .close _, s => (.ok true, s)
  | .delete index, s => (.ok (index = "a"), s)
  | .loadRepoSettings, s => (.ok "tfplenum", s)
  | .snapshotName, s => (.ok "tfplenum_backup", s)
  | .createSnapshot _ _ _, s => (.ok true, s)
  | .pushAppContext, s => (.ok (), s)
  | .elasticWrapper, s => (.ok (), s)
  | .putSettings _ _ _, s => (.ok (), s)
  | .rollover _, s => (.ok (), s)
  | .forcemerge, s => (.ok (), s)

/-- After `a` is deleted, `b` is refused and reported as deleted. -/
theorem not_reports_eq_truth :
    ¬ ∀ (env : CuratorEnv Unit) (action : CuratorAction) (indices : List String) (s : Unit),
      reports env action indices s = truth env action indices s := by
  intro h
  have hab := h deletesOnlyA .deleteIndices ["a", "b"] ()
  have hreports : reports deletesOnlyA .deleteIndices ["a", "b"] () = [("a", true), ("b", true)] :=
    rfl
  have htruth : truth deletesOnlyA .deleteIndices ["a", "b"] () = [("a", true), ("b", false)] := rfl
  rw [hreports, htruth] at hab
  cases hab

end Curator

end Tfplenum
