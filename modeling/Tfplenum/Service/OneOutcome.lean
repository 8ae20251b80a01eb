/-
  Tfplenum.Service.OneOutcome

  When a run of a playbook comes to one outcome: one handler entered, one terminal
  notification sent, and the job of the stage left with the flag of the same
  outcome.  A command that fails by its return code never does: the handler is
  entered once for the code and once more for the exception raised after it.
-/

import Mathlib.Tactic.Set
import Tfplenum.Lib.Hoare
import Tfplenum.Service.PlaybookRuns

namespace Tfplenum

open Lib

namespace Playbook

variable {σ : Type}

/-- The notifications that look like those of an outcome. -/
def RunWorld.terminal (w : RunWorld σ) : List RunNotice := w.notices.filter RunNotice.terminal

/-! ## What the calls do to the jobs -/

variable {env : RunEnv σ} {J : Jobs} {T : List RunNotice}

/-- The jobs and the terminal notifications. -/
def At (J : Jobs) (T : List RunNotice) (w : RunWorld σ) : Prop := w.jobs = J ∧ w.terminal = T

theorem yields_ask (c : RunCall) : Yields (handle env) (At J T) (ask c) fun _ => At J T :=
  .bind (Triple.perform fun _ hw => hw) fun _ =>
    .ofExcept (fun _ _ _ hw => hw) fun _ _ _ _ => trivial

/-- A call to the database: what it does if it does not raise. -/
theorem yields_of_ok {α : Type} {P : RunWorld σ → Prop} {Q : α → RunWorld σ → Prop}
    {p : RunProg (Except PyError α)}
    (hp : Yields (handle env) P p fun r w => ∀ a, r = .ok a → Q a w) :
    Yields (handle env) P (p.bind Program.ofExcept) Q :=
  .bind hp fun _ => .ofExcept (fun a _ hr hw => hw a hr) fun _ _ _ _ => trivial

theorem yields_loadJob (nodeId name : String) :
    Yields (handle env) (At J T) (loadJob nodeId name)
      fun job w => job = J nodeId name ∧ At J T w := by
  refine yields_of_ok (Triple.perform fun w hw job hjob => ?_)
  simp only [handle] at hjob ⊢
  cases hr : (env .database w.env).1 with
  | error e =>
      rw [hr] at hjob
      cases hjob
  | ok _ =>
      rw [hr] at hjob
      cases hjob
      exact ⟨by rw [hw.1], hw⟩

theorem yields_saveJob (nodeId name : String) (flag : JobFlag) :
    Yields (handle env) (At J T) (saveJob nodeId name flag)
      fun _ => At (J.set nodeId name flag) T := by
  refine yields_of_ok (Triple.perform fun w hw u hu => ?_)
  simp only [handle] at hu ⊢
  rcases hr : env .database w.env with ⟨e | _, s⟩ <;> rw [hr] at hu
  · cases hu
  · exact ⟨congrArg (Jobs.set · nodeId name flag) hw.1, hw.2⟩

theorem yields_deleteJobs (nodeId : String) :
    Yields (handle env) (At J T) (deleteJobs nodeId) fun _ => At (J.delete nodeId) T := by
  refine yields_of_ok (Triple.perform fun w hw u hu => ?_)
  simp only [handle] at hu ⊢
  rcases hr : env .database w.env with ⟨e | _, s⟩ <;> rw [hr] at hu
  · cases hu
  · exact ⟨congrArg (Jobs.delete · nodeId) hw.1, hw.2⟩

/-- The job gets the flag, if there is one. -/
def Jobs.update (jobs : Jobs) (nodeId name : String) (flag : JobFlag) : Jobs :=
  if (jobs nodeId name).isSome then jobs.set nodeId name flag else jobs

/-- A job that is looked up first is only saved if it is there. -/
theorem yields_saveExisting {nodeId name : String} {flag : JobFlag}
    {found : Option JobFlag → RunProg Unit} (hnone : found none = .done ())
    (hsome : ∀ old, found (some old) = saveJob nodeId name flag) :
    Yields (handle env) (At J T) ((loadJob nodeId name).bind found) fun _ =>
      At (J.update nodeId name flag) T := by
  refine (yields_loadJob nodeId name).bind fun job => Triple.assume fun hjob => ?_
  rw [Jobs.update, ← hjob]
  cases job with
  | none =>
      rw [hnone]
      exact .done fun _ hw => hw
  | some old =>
      rw [hsome]
      exact yields_saveJob ..

theorem yields_resetJob (nodeId name : String) :
    Yields (handle env) (At J T) (resetJob nodeId name)
      fun _ => At (J.update nodeId name .pending) T :=
  yields_saveExisting rfl fun _ => rfl

theorem yields_updateJob (nodeId stage : String) (outcome : Outcome) :
    Yields (handle env) (At J T) (updateJob nodeId stage outcome) fun _ =>
      At (J.update nodeId stage outcome.flag) T :=
  yields_saveExisting rfl fun _ => rfl

/-- Setting the provision job in progress sets the deploy job back. -/
theorem yields_setJobState_provision (nodeId : String) :
    Yields (handle env) (At J T) (setJobState nodeId jobProvision) fun _ =>
      At ((J.update nodeId jobDeploy .pending).set nodeId jobProvision .inprogress) T := by
  refine .bind (Q := fun _ => At J T) (.when ?_ fun _ _ hw => hw) fun _ => ?_
  · exact fun h => absurd h (by decide)
  refine .bind (Q := fun _ => At (J.update nodeId jobDeploy .pending) T)
    (.when (fun _ => yields_resetJob ..) fun h => absurd (Or.inl rfl) h) fun _ => ?_
  refine .bind (Q := fun _ =>
      At ((J.update nodeId jobDeploy .pending).set nodeId jobProvision .inprogress) T)
    (.when (fun _ => yields_saveJob ..) fun h => absurd rfl h) fun _ => ?_
  exact .when (fun h => absurd h (by decide)) fun _ _ hw => hw

/-! ## Device facts -/

/-- A call that raises leaves the jobs and the notifications as well. -/
theorem keeps_ask (c : RunCall) :
    Triple (handle env) (At J T) (ask c) (fun _ => At J T) fun _ => At J T :=
  .bind (Triple.perform fun _ hw => hw) fun _ =>
    .ofExcept (fun _ _ _ hw => hw) fun _ _ _ hw => hw

theorem yields_tryDeviceFacts (node : Node) (password : Option String) :
    Yields (handle env) (At J T) (tryDeviceFacts node password) fun _ => At J T := by
  cases password with
  | none => exact .done fun _ hw => hw
  | some password =>
      refine .bind (Q := fun _ => At J T) (.attempt (keeps_ask _)) fun r => ?_
      cases r <;> exact .done fun _ hw => hw

theorem yields_enqueueDeployment (node : Node) :
    Yields (handle env) (At J T) (enqueueDeployment node) fun _ => At J T := by
  unfold enqueueDeployment
  split
  · exact yields_ask _
  · split
    · exact yields_ask _
    · refine (yields_ask _).bind fun deployed => ?_
      exact .when (fun _ => yields_ask _) fun _ _ hw => hw

/-- The jobs of a machine that answers, of which the provision job was looked up. -/
def Jobs.provisioned (jobs : Jobs) (nodeId : String) (hasJob : Bool) : Jobs :=
  if hasJob then
    ((jobs.update nodeId jobDeploy .pending).set nodeId jobProvision .inprogress).set
      nodeId jobProvision .complete
  else jobs

theorem yields_provisioned (node : Node) (hasJob : Bool) :
    Yields (handle env) (At J T) (provisioned node hasJob) fun _ =>
      At (J.provisioned node.id hasJob) T := by
  refine (yields_ask _).bind fun _ => ?_
  refine .bind (Q := fun _ => At (J.provisioned node.id hasJob) T) (.when ?_ ?_) fun _ =>
    yields_enqueueDeployment node
  · rintro rfl
    refine (yields_setJobState_provision _).bind fun _ => ?_
    exact (yields_saveJob ..).bind fun _ => yields_ask _
  · intro hnone w hw
    rwa [Jobs.provisioned, if_neg hnone]

/-- A poll that does not fail has found the machine. -/
theorem yields_pollDeviceFacts (node : Node) (password : Option String) (hasJob : Bool)
    (polls : Nat) :
    Yields (handle env) (At J T) (pollDeviceFacts node password hasJob polls) fun failed w =>
      failed = false → At (J.provisioned node.id hasJob) T w := by
  have found : Yields (handle env) (At J T) ((provisioned node hasJob).bind fun _ => .done false)
      fun failed w => failed = false → At (J.provisioned node.id hasJob) T w :=
    (yields_provisioned node hasJob).bind fun _ => .done fun _ hw _ => hw
  induction polls with
  | zero =>
      refine (yields_tryDeviceFacts node password).bind fun answered => ?_
      cases answered with
      | true => exact found
      | false =>
          -- the time is over, which is a failure
          refine (Triple.total (P := At J T) _).bind fun _ => ?_
          refine (Triple.total _).bind fun _ => ?_
          refine (Triple.total _).bind fun _ => ?_
          exact .done fun _ _ hfailed => by cases hfailed
  | succ polls ih =>
      refine (yields_tryDeviceFacts node password).bind fun answered => ?_
      cases answered with
      | true => exact found
      | false => exact (yields_ask _).bind fun _ => (yields_ask _).bind fun _ => ih

theorem yields_theNode (attr : String) (node : RunNode) :
    Yields (handle env) (At J T) (theNode attr node) fun n w => node = .one n ∧ At J T w := by
  cases node with
  | one node => exact .done fun _ hw => ⟨rfl, hw⟩
  | none => exact Yields.raise _
  | many _ => exact Yields.raise _

theorem yields_beginGathering (node : RunNode) :
    Yields (handle env) (At J T) (beginGathering node) fun r w =>
      (node = .one r.1 ∧ r.2 = (J r.1.id jobProvision).isSome) ∧
        At (J.update r.1.id jobProvision .inprogress) T w := by
  refine (Yields.tryExcept (yields_ask _) fun e => Yields.raise _).bind fun _ => ?_
  refine (yields_theNode "_id" node).bind fun n => Triple.assume fun hn => ?_
  refine Yields.tryExcept ?_ fun e => Yields.bind_raise _ _
  refine (yields_ask _).bind fun _ => ?_
  refine (yields_loadJob ..).bind fun nodeJob => Triple.assume fun hjob => ?_
  refine .bind (Q := fun _ => At (J.update n.id jobProvision .inprogress) T)
    (.when ?_ ?_) fun _ => ?_
  · intro hsome
    rw [Jobs.update, ← hjob, if_pos hsome]
    exact yields_saveJob ..
  · intro hnone w hw
    rwa [Jobs.update, ← hjob, if_neg hnone]
  · exact (yields_ask _).bind fun _ => .done fun _ hw => ⟨⟨hn, by rw [hjob]⟩, hw⟩

/-- The jobs once the device facts are gathered -/
def Jobs.gathered (jobs : Jobs) (nodeId : String) : Jobs :=
  (jobs.update nodeId jobProvision .inprogress).provisioned nodeId
    (jobs nodeId jobProvision).isSome

theorem yields_gatherDeviceFacts (node : RunNode) (password : Option String) (polls : Nat) :
    Yields (handle env) (At J T) (gatherDeviceFacts node password polls) fun _ w =>
      ∃ n, node = .one n ∧ At (J.gathered n.id) T w := by
  refine (yields_ask _).bind fun _ => ?_
  refine (yields_beginGathering node).bind fun r => ?_
  obtain ⟨n, hasJob⟩ := r
  refine Triple.assume fun h => ?_
  have hn : node = .one n := h.1
  have hsome : hasJob = (J n.id jobProvision).isSome := h.2
  subst hsome
  refine Yields.tryExcept ?_ fun e => Yields.bind_raise _ _
  refine (yields_pollDeviceFacts ..).bind fun failed => ?_
  cases failed with
  | true =>
      refine (Triple.total _).bind fun _ => ?_
      exact .when (fun _ => Yields.raise _) fun h => absurd rfl h
  | false =>
      refine Triple.pre ?_ fun _ hw => hw rfl
      refine (yields_ask _).bind fun _ => ?_
      exact .when (fun h => absurd h (by decide)) fun _ _ hw => ⟨n, hn, hw⟩

/-! ## Handlers -/

/-- Every job of the stage gets the flag. -/
def Jobs.flagged (jobs : Jobs) (nodes : List Node) (stage : String) (flag : JobFlag) : Jobs :=
  fun id name =>
    if name = stage ∧ id ∈ nodes.map (·.id) then (jobs id name).map fun _ => flag
    else jobs id name

theorem Jobs.flagged_nil (jobs : Jobs) (stage : String) (flag : JobFlag) :
    jobs.flagged [] stage flag = jobs := by
  funext id name
  simp [Jobs.flagged]

theorem Jobs.flagged_cons (jobs : Jobs) (node : Node) (nodes : List Node) (stage : String)
    (flag : JobFlag) :
    jobs.flagged (node :: nodes) stage flag =
      (jobs.update node.id stage flag).flagged nodes stage flag := by
  funext id name
  by_cases hjob : id = node.id ∧ name = stage
  · obtain ⟨rfl, rfl⟩ := hjob
    cases h : jobs node.id name <;> simp [Jobs.flagged, Jobs.update, Jobs.set, h]
  · have hother : (jobs.update node.id stage flag) id name = jobs id name := by
      unfold Jobs.update
      split
      · simp [Jobs.set, hjob]
      · rfl
    simp only [Jobs.flagged, hother, List.map_cons, List.mem_cons]
    by_cases hname : name = stage
    · have hid : id ≠ node.id := fun hid => hjob ⟨hid, hname⟩
      simp [hname, hid]
    · simp [hname]

end Playbook

namespace PlaybookRun

open Playbook

variable {σ : Type} {env : RunEnv σ} {J : Jobs} {T : List RunNotice} {run : PlaybookRun}

theorem yields_updateJobs (run : PlaybookRun) (outcome : Outcome) :
    Yields (Playbook.handle env) (At J T) (run.updateJobs outcome) fun _ =>
      At (J.flagged run.node.nodes run.stage outcome.flag) T := by
  unfold updateJobs
  induction run.node.nodes generalizing J with
  | nil => exact .done fun _ hw => by rwa [Jobs.flagged_nil]
  | cons node nodes ih =>
      rw [Jobs.flagged_cons]
      exact (yields_updateJob ..).bind fun _ => ih

/-- A success of these is followed by the device facts. -/
def GathersFacts (run : PlaybookRun) : Prop :=
  run.execType = .provisionVirtual ∨ run.execType = .setupControlPlane ∧ run.stage = jobProvision

instance : Decidable run.GathersFacts := inferInstanceAs (Decidable (_ ∨ _))

/-- The jobs after what follows a success -/
def continued (run : PlaybookRun) (jobs : Jobs) : Jobs :=
  match run.node with
  | .one node =>
      if run.execType = .removeNode then jobs.delete node.id
      else if run.GathersFacts then jobs.gathered node.id
      else jobs
  | _ => jobs

theorem continued_of_not_one (hnode : ∀ node, run.node ≠ .one node) (jobs : Jobs) :
    run.continued jobs = jobs := by
  unfold continued
  split
  · rename_i node hone
    exact absurd hone (hnode node)
  · rfl

theorem continued_delete {node : Node} (hexec : run.execType = .removeNode)
    (hnode : run.node = .one node) (jobs : Jobs) : run.continued jobs = jobs.delete node.id := by
  simp [continued, hnode, hexec]

theorem continued_gathered {node : Node} (hfacts : run.GathersFacts) (hnode : run.node = .one node)
    (jobs : Jobs) : run.continued jobs = jobs.gathered node.id := by
  have hexec : run.execType ≠ .removeNode := by
    rcases hfacts with h | ⟨h, _⟩ <;> simp [h]
  simp [continued, hnode, hexec, hfacts]

theorem continued_same (hexec : run.execType ≠ .removeNode) (hfacts : ¬ run.GathersFacts)
    (jobs : Jobs) : run.continued jobs = jobs := by
  unfold continued
  split
  · rw [if_neg hexec, if_neg hfacts]
  · rfl

theorem yields_gathering (hfacts : run.GathersFacts) (password : Option String) :
    Yields (Playbook.handle env) (At J T)
      (Playbook.gatherDeviceFacts run.node password run.polls) fun _ => At (run.continued J) T := by
  refine (yields_gatherDeviceFacts ..).post ?_
  rintro _ w ⟨node, hnode, hw⟩
  rwa [continued_gathered hfacts hnode]

/-- By the type of the job: one deletes the node, two gather device facts and the
    others leave the jobs alone. -/
theorem yields_continueWith :
    Yields (Playbook.handle env) (At J T) run.continueWith fun _ => At (run.continued J) T := by
  have same (hexec : run.execType ≠ .removeNode) (hfacts : ¬ run.GathersFacts) :
      ∀ _ : Unit, ∀ w : RunWorld σ, At J T w → At (run.continued J) T w := by
    intro _ w hw
    rwa [continued_same hexec hfacts]
  unfold continueWith
  cases hexec : run.execType with
  | setupControlPlane =>
      refine .bind (Q := fun _ => At J T) (.when (fun _ => yields_ask _) fun _ _ hw => hw)
        fun _ => ?_
      refine .when (fun hstage => ?_) fun hstage => same (by simp [hexec]) ?_ ()
      · refine (yields_ask _).bind fun password => ?_
        exact (yields_gathering (.inr ⟨hexec, hstage⟩) _).bind fun _ => yields_ask _
      · simp [GathersFacts, hexec, hstage]
  | removeNode =>
      refine (yields_theNode ..).bind fun node => Triple.assume fun hnode => ?_
      rw [continued_delete hexec hnode]
      refine (yields_deleteJobs _).bind fun _ => ?_
      refine (yields_ask _).bind fun _ => ?_
      refine (yields_ask _).bind fun _ => ?_
      exact .when (fun _ => yields_ask _) fun _ _ hw => hw
  | provisionVirtual =>
      exact (yields_ask _).bind fun password => yields_gathering (.inl hexec) _
  | kickstartProfiles =>
      refine Triple.post ?_ (same (by simp [hexec]) (by simp [GathersFacts, hexec]))
      exact (yields_ask _).bind fun _ => .done fun _ hw => hw
  | setupController =>
      refine Triple.post ?_ (same (by simp [hexec]) (by simp [GathersFacts, hexec]))
      refine (yields_ask _).bind fun found => ?_
      cases found with
      | true => exact yields_ask _
      | false => exact Yields.raise _
  | setupControllerKitSettings =>
      refine Triple.post ?_ (same (by simp [hexec]) (by simp [GathersFacts, hexec]))
      refine (yields_ask _).bind fun found => ?_
      cases found with
      | some _ => exact yields_ask _
      | none => exact Yields.raise _
  | createVirtual =>
      exact (yields_ask _).post (same (by simp [hexec]) (by simp [GathersFacts, hexec]))
  | baseKit | addNode | mipDeploy | gatherDeviceFacts =>
      exact .done fun w => same (by simp [hexec]) (by simp [GathersFacts, hexec]) () w

/-! ## Flags -/

theorem flag_of_flagged {nodes : List Node} {node : Node} (hmem : node ∈ nodes) {stage : String}
    {flag flag' : JobFlag} (h : J.flagged nodes stage flag node.id stage = some flag') :
    flag' = flag := by
  have hid : node.id ∈ nodes.map (·.id) := List.mem_map_of_mem hmem
  simp only [Jobs.flagged, hid, and_self, if_true, Option.map_eq_some_iff] at h
  obtain ⟨_, _, rfl⟩ := h
  rfl

theorem Jobs.flagged_isSome (nodes : List Node) (stage : String) (flag : JobFlag)
    (id name : String) : (J.flagged nodes stage flag id name).isSome = (J id name).isSome := by
  unfold Jobs.flagged
  split
  · exact Option.isSome_map
  · rfl

theorem Jobs.gathered_eq_of_none {id : String} (h : J id jobProvision = none) :
    J.gathered id = J := by
  simp [Jobs.gathered, Jobs.update, Jobs.provisioned, h]

theorem Jobs.gathered_apply {id : String} (h : (J id jobProvision).isSome) (stage : String) :
    J.gathered id id stage =
      if stage = jobProvision then some .complete
      else if stage = jobDeploy then (J id jobDeploy).map fun _ => .pending
      else J id stage := by
  have hne : jobDeploy ≠ jobProvision := by decide
  cases hdeploy : J id jobDeploy <;>
    simp [Jobs.gathered, Jobs.update, Jobs.provisioned, Jobs.set, h, hdeploy, hne] <;>
    grind

/-- Nothing but gathering the device facts of a node that is being deployed takes
    its own flag back. -/
def ResetsOwnJob (run : PlaybookRun) (jobs : Jobs) : Prop :=
  run.execType = .provisionVirtual ∧ run.stage = jobDeploy ∧
    ∃ node, run.node = .one node ∧ (jobs node.id jobProvision).isSome ∧
      (jobs node.id jobDeploy).isSome

/-- Every job of the stage that there is has the flag. -/
def Agrees (run : PlaybookRun) (jobs : Jobs) (flag : JobFlag) : Prop :=
  ∀ node ∈ run.node.nodes, ∀ flag', jobs node.id run.stage = some flag' → flag' = flag

theorem agrees_flagged (run : PlaybookRun) (J : Jobs) (flag : JobFlag) :
    run.Agrees (J.flagged run.node.nodes run.stage flag) flag :=
  fun _ hmem _ h => flag_of_flagged hmem h

/-- The flags after the device facts are gathered: the deploy job is reset by the
    provision job. -/
theorem agrees_gathered {node : Node} (hnode : run.node = .one node) (hfacts : run.GathersFacts) :
    run.Agrees ((J.flagged run.node.nodes run.stage .complete).gathered node.id) .complete ↔
      ¬ run.ResetsOwnJob J := by
  have hagree := agrees_flagged run J .complete
  set J' := J.flagged run.node.nodes run.stage .complete with hJ'
  have hsome (name : String) : (J' node.id name).isSome = (J node.id name).isSome :=
    Jobs.flagged_isSome ..
  have honly (n : Node) : n ∈ run.node.nodes ↔ n = node := by simp [hnode, RunNode.nodes]
  cases hprov : J' node.id jobProvision with
  | none =>
      -- there is no provision job, and nothing happens to the jobs
      rw [Jobs.gathered_eq_of_none hprov]
      refine iff_of_true hagree ?_
      rintro ⟨_, _, n, hn, hn', _⟩
      obtain rfl : n = node := (honly n).mp (by simp [hn, RunNode.nodes])
      rw [← hsome, hprov] at hn'
      cases hn'
  | some _ =>
      have hprov' : (J' node.id jobProvision).isSome := by rw [hprov]; rfl
      -- the provision job is complete again, and the deploy job is set back
      have happly := Jobs.gathered_apply hprov' run.stage
      by_cases hstage : run.stage = jobDeploy
      · have hexec : run.execType = .provisionVirtual :=
          hfacts.resolve_right fun h => absurd (hstage.symm.trans h.2) (by decide)
        rw [hstage, if_neg (by decide), if_pos rfl] at happly
        rw [hsome] at hprov'
        cases hdeploy : J' node.id jobDeploy with
        | none =>
            rw [hdeploy, Option.map_none] at happly
            refine iff_of_true (fun n hn flag' hflag => ?_) ?_
            · rw [(honly n).mp hn, hstage, happly] at hflag
              cases hflag
            · rintro ⟨_, _, n, hn, _, hn'⟩
              obtain rfl : n = node := (honly n).mp (by simp [hn, RunNode.nodes])
              rw [← hsome, hdeploy] at hn'
              cases hn'
        -- there is a deploy job, and it is pending once more
        | some _ =>
            rw [hdeploy, Option.map_some] at happly
            refine iff_of_false (fun h => ?_)
              (not_not_intro ⟨hexec, hstage, node, hnode, hprov', ?_⟩)
            · have hflag := h node ((honly node).mpr rfl) .pending (by rw [hstage, happly])
              cases hflag
            · rw [← hsome, hdeploy]
              rfl
      · refine iff_of_true (fun n hn flag' hflag => ?_) fun h => hstage h.2.1
        rw [(honly n).mp hn, happly] at hflag
        by_cases hprovision : run.stage = jobProvision
        · rw [if_pos hprovision] at hflag
          exact (Option.some.inj hflag).symm
        · rw [if_neg hprovision, if_neg hstage] at hflag
          exact hagree node ((honly node).mpr rfl) flag' hflag

theorem agrees_continued :
    run.Agrees (run.continued (J.flagged run.node.nodes run.stage .complete)) .complete ↔
      ¬ run.ResetsOwnJob J := by
  by_cases hone : ∃ node, run.node = .one node
  · obtain ⟨node, hnode⟩ := hone
    by_cases hexec : run.execType = .removeNode
    · -- the jobs of the node are gone
      rw [continued_delete hexec hnode]
      refine iff_of_true (fun n hmem flag' hflag => ?_) fun h => by simp [ResetsOwnJob, hexec] at h
      have hid : n = node := by simpa [hnode, RunNode.nodes] using hmem
      simp [Jobs.delete, hid] at hflag
    by_cases hfacts : run.GathersFacts
    · rw [continued_gathered hfacts hnode]
      exact agrees_gathered hnode hfacts
    · rw [continued_same hexec hfacts]
      exact iff_of_true (agrees_flagged _ _ _) fun h => hfacts (.inl h.1)
  · rw [continued_of_not_one fun node hnode => hone ⟨node, hnode⟩]
    exact iff_of_true (agrees_flagged _ _ _) fun ⟨_, _, node, hnode, _⟩ => hone ⟨node, hnode⟩

/-! ## Runs -/

/-- A program outside of the handlers leaves what is recorded of them. -/
theorem run_outside {α : Type} (p : RunProg α) (w : ExecWorld σ) :
    (outside p).run (execHandle env) w =
      ((p.run (Playbook.handle env) w.inner).1,
        { w with inner := (p.run (Playbook.handle env) w.inner).2 }) := by
  induction p generalizing w with
  | done a => rfl
  | raise e => rfl
  | call op k ih => exact ih _ _

theorem run_outside_ok {α : Type} {p : RunProg α} {w : ExecWorld σ} {a : α} {v : RunWorld σ}
    (h : p.run (Playbook.handle env) w.inner = (.ok a, v)) :
    (outside p).run (execHandle env) w = (.ok a, { w with inner := v }) := by
  rw [run_outside, h]

theorem run_outside_error {α : Type} {p : RunProg α} {w : ExecWorld σ} {e : PyError}
    {v : RunWorld σ} (h : p.run (Playbook.handle env) w.inner = (.error e, v)) :
    (outside p).run (execHandle env) w = (.error e, { w with inner := v }) := by
  rw [run_outside, h]

theorem run_handled_ok {outcome : Outcome} {w : ExecWorld σ} {v : RunWorld σ}
    (h : (run.updateJobs outcome).run (Playbook.handle env) w.inner = (.ok (), v)) :
    (run.handled outcome).run (execHandle env) w =
      (.ok (), ⟨w.calls ++ [outcome],
        w.reports ++ [(outcome, run.handledMessage outcome)], v⟩) := by
  have hout := run_outside_ok (w := { w with calls := w.calls ++ [outcome] }) h
  show ((outside (run.updateJobs outcome)).bind _).run (execHandle env) _ = _
  exact Program.run_bind_ok _ hout

theorem run_handled_error {outcome : Outcome} {w : ExecWorld σ} {e : PyError} {v : RunWorld σ}
    (h : (run.updateJobs outcome).run (Playbook.handle env) w.inner = (.error e, v)) :
    (run.handled outcome).run (execHandle env) w =
      (.error e, ⟨w.calls ++ [outcome], w.reports, v⟩) := by
  have hout := run_outside_error (w := { w with calls := w.calls ++ [outcome] }) h
  show ((outside (run.updateJobs outcome)).bind _).run (execHandle env) _ = _
  exact Program.run_bind_error _ hout

/-- Before the run -/
def start (jobs : Jobs) (s : σ) : ExecWorld σ := ⟨[], [], ⟨jobs, [], s⟩⟩

/-- Of the command and of what comes before and, for a MinIO node, after it -/
def commandOutcome (run : PlaybookRun) (env : RunEnv σ) (w : RunWorld σ) : Outcome :=
  match (beginRun.bind run.prepare).run (Playbook.handle env) w with
  | (.ok true, _) => .success
  | _ => .failure

/-- One handler is called, once, for the outcome, its notification is the only
    terminal one, and the jobs of the stage have the flag that goes with it. -/
structure OneOutcome (run : PlaybookRun) (outcome : Outcome) (w : ExecWorld σ) : Prop where
  calls : w.calls = [outcome]
  reports : w.reports = [(outcome, run.handledMessage outcome)]
  quiet : w.inner.terminal = []
  agrees : run.Agrees w.inner.jobs outcome.flag

/-- `handle_success` after its first step, up to the notification after it -/
def afterSuccess (run : PlaybookRun) : RunProg Unit :=
  (run.updateJobs .success).bind fun _ => run.continueWith.bind fun _ => ask .sendNotification

theorem yields_afterSuccess :
    Yields (Playbook.handle env) (At J T) run.afterSuccess fun _ =>
      At (run.continued (J.flagged run.node.nodes run.stage .complete)) T :=
  (yields_updateJobs run .success).bind fun _ => yields_continueWith.bind fun _ => yields_ask _

/-- The playbook of a MinIO node is followed by its bucket. -/
def SetsUpBucket (run : PlaybookRun) : Prop :=
  ∃ node, run.node = .one node ∧ node.nodeType = NodeTypes.minio ∧ run.stage = jobDeploy

/-- Either everything goes well and nothing else is reported or reset, or an
    exception is raised before a handler is called, and the jobs can be updated. -/
def HandledOnce (run : PlaybookRun) (env : RunEnv σ) (w : RunWorld σ) : Prop :=
  ∃ jobId w₁, beginRun.run (Playbook.handle env) w = (.ok jobId, w₁) ∧
    ((∃ w₂, (run.prepare jobId).run (Playbook.handle env) w₁ = (.ok true, w₂) ∧
        ¬ run.SetsUpBucket ∧ ¬ run.ResetsOwnJob w₂.jobs ∧
        (run.afterSuccess.run (Playbook.handle env) w₂).1 = .ok ()) ∨
      ∃ e w₂, (run.prepare jobId).run (Playbook.handle env) w₁ = (.error e, w₂) ∧
        w₂.terminal = [] ∧
        ((run.updateJobs .failure).run (Playbook.handle env) w₂).1 = .ok ())

variable {jobId : String} {w : ExecWorld σ} {w₁ w₂ v : RunWorld σ} {e : PyError}

theorem run_execute_error (h : beginRun.run (Playbook.handle env) w.inner = (.error e, w₁)) :
    run.execute.run (execHandle env) w = (.error e, { w with inner := w₁ }) :=
  Program.run_bind_error _ (run_outside_error h)

theorem run_execute (h : beginRun.run (Playbook.handle env) w.inner = (.ok jobId, w₁)) :
    run.execute.run (execHandle env) w =
      ((run.body jobId).tryExcept run.onException).run (execHandle env) { w with inner := w₁ } :=
  Program.run_bind_ok _ (run_outside_ok h)

theorem run_body_error
    (h : (run.prepare jobId).run (Playbook.handle env) w.inner = (.error e, w₂)) :
    (run.body jobId).run (execHandle env) w = (.error e, { w with inner := w₂ }) :=
  Program.run_bind_error _ (run_outside_error h)

theorem run_body_true
    (h : (run.prepare jobId).run (Playbook.handle env) w.inner = (.ok true, w₂)) :
    (run.body jobId).run (execHandle env) w =
      (run.handleSuccess.bind fun _ => (outside (ask .sendNotification)).bind fun _ =>
        .done true).run (execHandle env) { w with inner := w₂ } := by
  rw [body, Program.bind_eq, Program.run_bind_ok _ (run_outside_ok h)]
  simp [Program.when]

theorem run_body_false
    (h : (run.prepare jobId).run (Playbook.handle env) w.inner = (.ok false, w₂)) :
    (run.body jobId).run (execHandle env) w =
      (run.handleFailure.bind fun _ => (outside (ask .sendNotification)).bind fun _ =>
        .raise jobFailed).run (execHandle env) { w with inner := w₂ } := by
  rw [body, Program.bind_eq, Program.run_bind_ok _ (run_outside_ok h)]
  simp [Program.when]

/-- However the handler turns out, it has been called. -/
theorem calls_handled (run : PlaybookRun) (env : RunEnv σ) (outcome : Outcome) (w : ExecWorld σ) :
    ((run.handled outcome).run (execHandle env) w).2.calls = w.calls ++ [outcome] := by
  rcases h : (run.updateJobs outcome).run (Playbook.handle env) w.inner with ⟨e | _, v⟩
  · rw [run_handled_error h]
  · rw [run_handled_ok h]

theorem calls_onException (run : PlaybookRun) (env : RunEnv σ) (e : PyError) (w : ExecWorld σ) :
    ((run.onException e).run (execHandle env) w).2.calls = w.calls ++ [.failure] := by
  have hcalls := calls_handled run env .failure w
  show (((run.handled .failure).bind _).run (execHandle env) w).2.calls = _
  rw [← hcalls, Program.run_bind]
  rcases (run.handled .failure).run (execHandle env) w with ⟨e' | _, w'⟩
  · rfl
  · simp only [Program.andThen_ok, Program.bind_eq, Program.run_bind, run_outside]
    rcases ((ask (.logToConsole "An exception occurred")).run (Playbook.handle env) w'.inner)
      with ⟨_ | _, _⟩ <;> rfl

/-- After the return code of a failure comes an exception in any case. -/
theorem run_body_failed
    (h : (run.prepare jobId).run (Playbook.handle env) w.inner = (.ok false, w₂)) :
    ∃ e w', (run.body jobId).run (execHandle env) w = (.error e, w') ∧
      w'.calls = w.calls ++ [.failure] := by
  have hcalls := calls_handled run env .failure { w with inner := w₂ }
  rw [run_body_false h, Program.run_bind]
  unfold handleFailure
  rcases hr : (run.handled .failure).run (execHandle env) { w with inner := w₂ }
    with ⟨e | _, w'⟩ <;> rw [hr] at hcalls
  · exact ⟨e, w', rfl, hcalls⟩
  · rw [Program.andThen_ok, Program.run_bind, run_outside]
    rcases (ask .sendNotification).run (Playbook.handle env) w'.inner with ⟨e | _, v⟩
    · exact ⟨e, { w' with inner := v }, rfl, hcalls⟩
    · exact ⟨jobFailed, { w' with inner := v }, rfl, hcalls⟩

theorem run_body_succeeded
    (h : (run.prepare jobId).run (Playbook.handle env) w.inner = (.ok true, w₂))
    (hafter : run.afterSuccess.run (Playbook.handle env) w₂ = (.ok (), v)) :
    (run.body jobId).run (execHandle env) w =
      (.ok true, ⟨w.calls ++ [.success],
        w.reports ++ [(.success, run.handledMessage .success)], v⟩) := by
  obtain ⟨_, w₃, hupdate, hrest⟩ := Program.exists_of_run_bind _ hafter
  obtain ⟨_, w₄, hcont, hsend⟩ := Program.exists_of_run_bind _ hrest
  have hhandled := run_handled_ok (w := { w with inner := w₂ }) hupdate
  rw [run_body_true h, handleSuccess, Program.bind_eq, Program.bind_assoc,
    Program.run_bind_ok _ hhandled, Program.run_bind_ok _ (run_outside_ok hcont),
    Program.run_bind_ok _ (run_outside_ok hsend)]
  rfl

/-- An exception after the handler has been called for a success -/
theorem run_body_raised
    (h : (run.prepare jobId).run (Playbook.handle env) w.inner = (.ok true, w₂))
    (hafter : run.afterSuccess.run (Playbook.handle env) w₂ = (.error e, v)) :
    ∃ w', (run.body jobId).run (execHandle env) w = (.error e, w') ∧
      w'.calls = w.calls ++ [.success] := by
  rw [run_body_true h, handleSuccess, Program.bind_eq, Program.bind_assoc]
  rw [afterSuccess, Program.run_bind] at hafter
  rcases hupdate : (run.updateJobs .success).run (Playbook.handle env) w₂ with ⟨e' | _, w₃⟩
  · rw [hupdate] at hafter
    cases hafter
    exact ⟨_, Program.run_bind_error _
      (run_handled_error (w := { w with inner := w₂ }) hupdate), rfl⟩
  rw [hupdate, Program.andThen_ok, Program.run_bind] at hafter
  rw [Program.run_bind_ok _ (run_handled_ok (w := { w with inner := w₂ }) hupdate)]
  rcases hcont : run.continueWith.run (Playbook.handle env) w₃ with ⟨e' | _, w₄⟩
  · rw [hcont] at hafter
    cases hafter
    exact ⟨_, Program.run_bind_error _ (run_outside_error hcont), rfl⟩
  rw [hcont, Program.andThen_ok] at hafter
  rw [Program.run_bind_ok _ (run_outside_ok hcont)]
  exact ⟨_, Program.run_bind_error _ (run_outside_error hafter), rfl⟩

/-! ## Notifications of other kinds -/

/-- An operation that sends no terminal notification -/
def Quiet : RunOp → Prop
  | .notify notice => notice.terminal = false
  | _ => True

theorem handle_quiet (op : RunOp) (w : RunWorld σ) (hop : Quiet op) :
    (Playbook.handle env op w).2.terminal = w.terminal := by
  cases op with
  | notify notice =>
      have hnotice : notice.terminal = false := hop
      simp [Playbook.handle, RunWorld.terminal, hnotice]
  | loadJob nodeId name => rfl
  | call c => rfl
  | saveJob nodeId name flag =>
      simp only [Playbook.handle]
      rcases env .database w.env with ⟨_ | _, _⟩ <;> rfl
  | deleteJobs nodeId =>
      simp only [Playbook.handle]
      rcases env .database w.env with ⟨_ | _, _⟩ <;> rfl

theorem quiet_ask (c : RunCall) : (ask c).Uses Quiet :=
  ((Program.uses_perform _).mpr trivial).bind fun r => Program.uses_ofExcept r

theorem quiet_loadJob (nodeId name : String) : (loadJob nodeId name).Uses Quiet :=
  ((Program.uses_perform _).mpr trivial).bind fun r => Program.uses_ofExcept r

theorem quiet_saveJob (nodeId name : String) (flag : JobFlag) :
    (saveJob nodeId name flag).Uses Quiet :=
  ((Program.uses_perform _).mpr trivial).bind fun r => Program.uses_ofExcept r

theorem quiet_deleteJobs (nodeId : String) : (deleteJobs nodeId).Uses Quiet :=
  ((Program.uses_perform _).mpr trivial).bind fun r => Program.uses_ofExcept r

theorem quiet_theNode (attr : String) (node : RunNode) : (theNode attr node).Uses Quiet := by
  cases node with
  | one node => exact .done node
  | none => exact .raise _
  | many nodes => exact .raise _

theorem quiet_beginRun : beginRun.Uses Quiet :=
  (quiet_ask _).bind fun _ => (quiet_ask _).tryExcept fun _ => .raise _

theorem quiet_resetJob (nodeId name : String) : (resetJob nodeId name).Uses Quiet := by
  refine (quiet_loadJob ..).bind fun job => ?_
  cases job with
  | none => exact .done ()
  | some _ => exact quiet_saveJob ..

theorem quiet_setJobState (nodeId name : String) : (setJobState nodeId name).Uses Quiet := by
  refine (Program.Uses.when fun _ => quiet_saveJob ..).bind fun _ => ?_
  refine (Program.Uses.when fun _ => quiet_resetJob ..).bind fun _ => ?_
  refine (Program.Uses.when fun _ => quiet_saveJob ..).bind fun _ => ?_
  exact Program.Uses.when fun _ => (quiet_saveJob ..).bind fun _ => quiet_resetJob ..

theorem quiet_jobUpdate (node : Node) : (run.jobUpdate node).Uses Quiet := by
  unfold jobUpdate
  split
  · exact (quiet_deleteJobs _).bind fun _ => quiet_saveJob ..
  · refine (quiet_loadJob ..).bind fun job => ?_
    cases job with
    | none => exact .done ()
    | some flag => exact (quiet_setJobState ..).bind fun _ => quiet_saveJob ..

theorem quiet_virtualCommand (tag : String) : (run.virtualCommand tag).Uses Quiet :=
  (quiet_theNode ..).bind fun _ => .done _

theorem quiet_getCmd (jobId : String) : (run.getCmd jobId).Uses Quiet := by
  unfold getCmd
  cases run.execType with
  | baseKit =>
      cases run.node with
      | none => exact .raise _
      | one _ => exact .raise _
      | many nodes => exact .done _
  | addNode | removeNode | kickstartProfiles => exact (quiet_theNode ..).bind fun _ => .done _
  | setupControlPlane =>
      dsimp only
      split
      · exact .done _
      · split
        · exact quiet_virtualCommand _
        · split
          · exact quiet_virtualCommand _
          · exact .done _
  | provisionVirtual | createVirtual => exact quiet_virtualCommand _
  | setupController =>
      refine (quiet_ask _).bind fun found => ?_
      cases found with
      | true => exact (quiet_ask _).bind fun _ => .done _
      | false => exact .raise _
  | setupControllerKitSettings =>
      refine (quiet_ask _).bind fun found => ?_
      cases found with
      | some _ => exact (quiet_ask _).bind fun _ => (quiet_ask _).bind fun _ => .done _
      | none => exact .raise _
  | mipDeploy => exact (quiet_ask _).bind fun _ => (quiet_theNode ..).bind fun _ => .done _
  | gatherDeviceFacts => exact .done _

theorem quiet_workingDir : run.workingDir.Uses Quiet := by
  unfold workingDir
  split
  · exact (quiet_theNode ..).bind fun _ => .done _
  · exact .done _

theorem quiet_executeJob (command : Option String) (dir : String) :
    (executeJob command dir).Uses Quiet := by
  cases command with
  | none => exact .raise _
  | some command => exact (quiet_ask _).bind fun _ => .done _

/-- What `execute` does up to the return code of the command -/
def runPlaybook (run : PlaybookRun) (jobId : String) : RunProg Bool := do
  Program.when run.node.truthy run.updateNodeJobState
  notify (.started run.startedMessage)
  let command ← run.getCmd jobId
  let dir ← run.workingDir
  executeJob command dir

theorem prepare_eq (jobId : String) :
    run.prepare jobId = (run.runPlaybook jobId).bind run.afterPlaybook := by
  simp only [prepare, runPlaybook, Program.bind_eq, Program.bind_assoc]

theorem quiet_runPlaybook (jobId : String) : (run.runPlaybook jobId).Uses Quiet := by
  refine (Program.Uses.when fun _ => ?_).bind fun _ => ?_
  · exact (Program.uses_forEach fun node _ => quiet_jobUpdate node).bind fun _ => quiet_ask _
  refine Program.Uses.bind ((Program.uses_call _ _).mpr ⟨?_, fun _ => .done ()⟩) fun _ => ?_
  · show decide _ = false
    simp [RunNotice.status, Outcome.status]
  refine (quiet_getCmd jobId).bind fun _ => ?_
  exact quiet_workingDir.bind fun _ => quiet_executeJob ..

theorem afterPlaybook_eq (h : ¬ run.SetsUpBucket) (isSuccessful : Bool) :
    run.afterPlaybook isSuccessful = .done isSuccessful := by
  unfold afterPlaybook
  split
  · rename_i node hnode
    rw [if_neg fun hc => h ⟨node, hnode, hc.2⟩]
    rfl
  · rfl

/-- Without a bucket, nothing is reported before the handler. -/
theorem prepare_quiet (h : ¬ run.SetsUpBucket) (jobId : String) :
    (run.prepare jobId).Uses Quiet := by
  rw [prepare_eq]
  refine (quiet_runPlaybook jobId).bind fun isSuccessful => ?_
  rw [afterPlaybook_eq h]
  exact .done _

theorem terminal_of_quiet {α : Type} (env : RunEnv σ) {p : RunProg α} (hp : p.Uses Quiet)
    (w : RunWorld σ) :
    (p.run (Playbook.handle env) w).2.terminal = w.terminal :=
  Program.Uses.run_invariant (I := fun v => v.terminal = w.terminal) (Playbook.handle env) hp
    (fun op v hop hv => (handle_quiet op v hop).trans hv) rfl

/-- A bucket that is set up has been reported. -/
theorem reports_setupS3Repository {P : RunWorld σ → Prop} :
    Yields (Playbook.handle env) P setupS3Repository
      fun isSuccessful w => isSuccessful = true → w.terminal ≠ [] := by
  refine (Triple.total _).bind fun _ => (Triple.total _).bind fun _ => ?_
  refine Yields.tryExcept ?_ fun e => ?_
  · refine (Triple.total _).bind fun _ => Triple.call fun w _ => .done ?_
    rintro _ rfl -
    simp [Playbook.handle, RunWorld.terminal, RunNotice.terminal, RunNotice.status, Outcome.status]
  · exact (Triple.total _).bind fun _ => .done fun _ _ h => by cases h

theorem reports_setUpBucket (node : Node) {P : RunWorld σ → Prop} :
    Yields (Playbook.handle env) P (setUpBucket node) fun isSuccessful w =>
      isSuccessful = true → w.terminal ≠ [] := by
  refine (Triple.total _).bind fun settings => ?_
  cases settings with
  | none => exact Yields.raise _
  | some password =>
      refine (Triple.total _).bind fun _ => (Triple.total _).bind fun _ => ?_
      refine reports_setupS3Repository.bind fun isSuccessful => ?_
      refine .bind (Q := fun _ w => isSuccessful = true → w.terminal ≠ []) ?_ fun _ =>
        .done fun _ hw => hw
      have hkeep (op : RunOp) (w : RunWorld σ) (hop : Quiet op)
          (hw : isSuccessful = true → w.terminal ≠ []) (hs : isSuccessful = true) :
          (Playbook.handle env op w).2.terminal ≠ [] := by
        rw [handle_quiet op w hop]
        exact hw hs
      exact (Triple.of_uses (quiet_ask _) hkeep).conseq (fun _ hw => hw) (fun _ _ hw => hw)
        fun _ _ _ => trivial

theorem reports_prepare (h : run.SetsUpBucket) (jobId : String)
    (hr : (run.prepare jobId).run (Playbook.handle env) w₁ = (.ok true, w₂)) :
    w₂.terminal ≠ [] := by
  obtain ⟨node, hnode, htype, hstage⟩ := h
  rw [prepare_eq] at hr
  obtain ⟨isSuccessful, v, _, hafter⟩ := Program.exists_of_run_bind _ hr
  cases isSuccessful with
  | false => simp [afterPlaybook, hnode] at hafter
  | true =>
      have hbucket : run.afterPlaybook true = setUpBucket node := by
        simp [afterPlaybook, hnode, htype, hstage]
      rw [hbucket] at hafter
      exact (reports_setUpBucket (P := fun _ => True) node).ok trivial hafter rfl

/-! ## One outcome -/

theorem run_execute_caught (h : beginRun.run (Playbook.handle env) w.inner = (.ok jobId, w₁))
    {w' : ExecWorld σ}
    (hbody : (run.body jobId).run (execHandle env) { w with inner := w₁ } = (.error e, w')) :
    run.execute.run (execHandle env) w = (run.onException e).run (execHandle env) w' := by
  rw [run_execute h, Program.run_tryExcept, hbody]

theorem run_execute_returned (h : beginRun.run (Playbook.handle env) w.inner = (.ok jobId, w₁))
    {w' : ExecWorld σ} {b : Bool}
    (hbody : (run.body jobId).run (execHandle env) { w with inner := w₁ } = (.ok b, w')) :
    run.execute.run (execHandle env) w = (.ok b, w') := by
  rw [run_execute h, Program.run_tryExcept, hbody]

theorem commandOutcome_eq (h : beginRun.run (Playbook.handle env) w₁ = (.ok jobId, v)) :
    run.commandOutcome env w₁ =
      match (run.prepare jobId).run (Playbook.handle env) v with
      | (.ok true, _) => .success
      | _ => .failure := by
  rw [commandOutcome, Program.run_bind_ok _ h]

/-- After an exception the handler of a failure is the last one called. -/
theorem run_onException_ok (hupdate : (run.updateJobs .failure).run (Playbook.handle env) w.inner =
      (.ok (), v)) :
    ((run.onException e).run (execHandle env) w).2 =
      ⟨w.calls ++ [.failure], w.reports ++ [(.failure, run.handledMessage .failure)],
        ((ask (.logToConsole "An exception occurred")).run (Playbook.handle env) v).2⟩ := by
  rw [onException, handleFailure, Program.bind_eq, Program.run_bind_ok _ (run_handled_ok hupdate),
    Program.bind_eq, Program.run_bind, run_outside]
  rcases (ask (.logToConsole "An exception occurred")).run (Playbook.handle env) v
    with ⟨_ | _, _⟩ <;> rfl

theorem reports_onException (hupdate : (run.updateJobs .failure).run (Playbook.handle env) w.inner =
      (.error e, v)) (e' : PyError) :
    ((run.onException e').run (execHandle env) w).2.reports = w.reports := by
  rw [onException, handleFailure, Program.bind_eq,
    Program.run_bind_error _ (run_handled_error hupdate)]

theorem at_ask (env : RunEnv σ) (c : RunCall) (w : RunWorld σ) :
    At w.jobs w.terminal ((ask c).run (Playbook.handle env) w).2 := by
  have hkeeps : Triple (Playbook.handle env) (At w.jobs w.terminal) (ask c)
      (fun _ => At w.jobs w.terminal) fun _ => At w.jobs w.terminal := keeps_ask c
  have h := hkeeps.apply w ⟨rfl, rfl⟩
  rcases hr : (ask c).run (Playbook.handle env) w with ⟨_ | _, _⟩ <;> rw [hr] at h <;> exact h

/-- The branch of an exception before a handler is called -/
theorem oneOutcome_raised (h : beginRun.run (Playbook.handle env) w.inner = (.ok jobId, w₁))
    (hprep : (run.prepare jobId).run (Playbook.handle env) w₁ = (.error e, w₂))
    (hcalls : w.calls = []) (hreports : w.reports = []) :
    run.OneOutcome .failure (run.execute.run (execHandle env) w).2 ↔
      w₂.terminal = [] ∧ ((run.updateJobs .failure).run (Playbook.handle env) w₂).1 = .ok () := by
  rw [run_execute_caught h (run_body_error (w := { w with inner := w₁ }) hprep)]
  rcases hupdate : (run.updateJobs .failure).run (Playbook.handle env) w₂ with ⟨e' | _, v⟩
  · refine iff_of_false (fun hone => ?_) fun hc => by cases hc.2
    have hrep := reports_onException (w := { w with inner := w₂ }) hupdate e
    rw [hone.reports, hreports] at hrep
    cases hrep
  · have hjobs : At (w₂.jobs.flagged run.node.nodes run.stage .error) w₂.terminal v :=
      (yields_updateJobs run .failure).ok ⟨rfl, rfl⟩ hupdate
    have hlog := at_ask env (.logToConsole "An exception occurred") v
    rw [run_onException_ok (w := { w with inner := w₂ }) hupdate]
    refine ⟨fun hone => ⟨?_, rfl⟩, fun hc => ⟨by rw [hcalls]; rfl, by rw [hreports]; rfl, ?_, ?_⟩⟩
    · rw [← hjobs.2, ← hlog.2]
      exact hone.quiet
    · show RunWorld.terminal _ = _
      rw [hlog.2, hjobs.2, hc.1]
    · show run.Agrees (RunWorld.jobs _) _
      rw [hlog.1, hjobs.1]
      exact agrees_flagged _ _ _

/-- The branch of a success -/
theorem oneOutcome_succeeded (h : beginRun.run (Playbook.handle env) w.inner = (.ok jobId, w₁))
    (hprep : (run.prepare jobId).run (Playbook.handle env) w₁ = (.ok true, w₂))
    (hcalls : w.calls = []) (hreports : w.reports = []) :
    run.OneOutcome .success (run.execute.run (execHandle env) w).2 ↔
      w₂.terminal = [] ∧ ¬ run.ResetsOwnJob w₂.jobs ∧
        (run.afterSuccess.run (Playbook.handle env) w₂).1 = .ok () := by
  rcases hafter : run.afterSuccess.run (Playbook.handle env) w₂ with ⟨e | _, v⟩
  · -- the failure is handled as well
    obtain ⟨w', hbody, hw'⟩ := run_body_raised (w := { w with inner := w₁ }) hprep hafter
    refine iff_of_false (fun hone => ?_) fun hc => by cases hc.2.2
    have hboth := calls_onException run env e w'
    rw [← run_execute_caught h hbody, hone.calls, hw', hcalls] at hboth
    cases hboth
  · rw [run_execute_returned h (run_body_succeeded (w := { w with inner := w₁ }) hprep hafter)]
    have hjobs := yields_afterSuccess.ok ⟨rfl, rfl⟩ hafter
    refine ⟨fun hone => ⟨?_, ?_, rfl⟩,
      fun hc => ⟨by rw [hcalls]; rfl, by rw [hreports]; rfl, ?_, ?_⟩⟩
    · rw [← hjobs.2]
      exact hone.quiet
    · rw [← agrees_continued, ← hjobs.1]
      exact hone.agrees
    · exact hjobs.2.trans hc.1
    · show run.Agrees v.jobs _
      rw [hjobs.1]
      exact agrees_continued.mpr hc.2.1

/-- The branch of a return code of a failure -/
theorem not_oneOutcome_failed (h : beginRun.run (Playbook.handle env) w.inner = (.ok jobId, w₁))
    (hprep : (run.prepare jobId).run (Playbook.handle env) w₁ = (.ok false, w₂))
    (hcalls : w.calls = []) (outcome : Outcome) :
    ¬ run.OneOutcome outcome (run.execute.run (execHandle env) w).2 := by
  intro hone
  obtain ⟨e, w', hbody, hw'⟩ := run_body_failed (w := { w with inner := w₁ }) hprep
  have hboth := calls_onException run env e w'
  rw [← run_execute_caught h hbody, hone.calls, hw', hcalls] at hboth
  cases hboth

/-- A run comes to the one outcome of its command exactly if it is handled once:
    by the run of `prepare`, which raises, fails or succeeds. -/
theorem oneOutcome_iff (env : RunEnv σ) (run : PlaybookRun) (jobs : Jobs) (s : σ) :
    run.OneOutcome (run.commandOutcome env (start jobs s).inner)
        (run.execute.run (execHandle env) (start jobs s)).2 ↔
      run.HandledOnce env (start jobs s).inner := by
  unfold HandledOnce
  rcases hbegin : beginRun.run (Playbook.handle env) (start jobs s).inner with ⟨e | jobId, w₁⟩
  · rw [run_execute_error hbegin]
    refine iff_of_false (fun hone => ?_) fun ⟨_, _, h, _⟩ => by cases h
    exact absurd hone.calls (List.cons_ne_nil _ _).symm
  -- nothing has been reported when the node service is made
  have hw₁ : w₁.terminal = [] := by
    have hquiet := terminal_of_quiet env quiet_beginRun (start jobs s).inner
    rw [hbegin] at hquiet
    exact hquiet
  rw [commandOutcome_eq hbegin]
  rcases hprep : (run.prepare jobId).run (Playbook.handle env) w₁ with ⟨e | isSuccessful, w₂⟩
  · rw [oneOutcome_raised hbegin hprep rfl rfl]
    constructor
    · exact fun h => ⟨jobId, w₁, rfl, .inr ⟨e, w₂, hprep, h⟩⟩
    · rintro ⟨_, _, ⟨⟩, ⟨_, h, _⟩ | ⟨_, _, h, hquiet⟩⟩ <;> rw [hprep] at h <;> cases h
      exact hquiet
  cases isSuccessful with
  | false =>
      refine iff_of_false (not_oneOutcome_failed hbegin hprep rfl _) ?_
      rintro ⟨_, _, ⟨⟩, ⟨_, h, _⟩ | ⟨_, _, h, _⟩⟩ <;> rw [hprep] at h <;> cases h
  | true =>
      -- a success that is reported early is that of a bucket
      have hbucket : w₂.terminal = [] ↔ ¬ run.SetsUpBucket := by
        refine ⟨fun hquiet h => reports_prepare h jobId hprep hquiet, fun h => ?_⟩
        have hquiet := terminal_of_quiet env (prepare_quiet h jobId) w₁
        rw [hprep, hw₁] at hquiet
        exact hquiet
      rw [oneOutcome_succeeded hbegin hprep rfl rfl, hbucket]
      constructor
      · exact fun h => ⟨jobId, w₁, rfl, .inl ⟨w₂, hprep, h⟩⟩
      · rintro ⟨_, _, ⟨⟩, ⟨_, h, hgood⟩ | ⟨_, _, h, _⟩⟩ <;> rw [hprep] at h <;> cases h
        exact hgood

/-! ## A command that fails -/

/-- A sensor that is being added -/
def sensor9 : Node where
  id := "n9"
  hostname := "sensor9.lan"
  ipAddress := ⟨10, 40, 12, 149⟩
  macAddress := none
  raid0Override := none
  nodeType := NodeTypes.sensor
  deviceFacts := []
  deploymentType := none
  vpnStatus := .bool false
  virtualCpu := none
  virtualMem := none
  virtualOs := none
  virtualData := none

def addSensor9 : PlaybookRun where
  execType := .addNode
  stage := jobDeploy
  node := .one sensor9
  mipDir := "/opt/mip"
  coreDir := "/opt/core"
  polls := 0

/-- Only the playbook fails, by its return code. -/
def playbookFails : RunEnv Unit := fun c s =>
  (match c with
    | .currentJobId => .ok "7"
    | .loadGeneralSettings => .ok true
    | .loadKitSettings => .ok (some "password")
    | .runCommand _ _ => .ok 2
    | .deviceFacts _ _ => .ok true
    | .baseKitDeployed => .ok true
    | .pushAppContext | .saveMeta | .database | .sendNotification | .logToConsole _
    | .saveGeneralSettings _ _ | .saveKitSettings _ _ | .loadMipSettings | .generateInventory
    | .loadRepoSettings _ _ | .updateRepository | .saveNode _ | .deleteNode _ | .sleep
    | .enqueue _ _ | .enqueueRulesync => .ok (), s)

/-- The jobs of `sensor9`, provisioned and not deployed yet -/
def sensor9Jobs : Jobs :=
  Jobs.set (Jobs.set (fun _ _ => none) "n9" jobProvision .complete) "n9" jobDeploy .pending

theorem calls_addSensor9 :
    (addSensor9.execute.run (execHandle playbookFails) (start sensor9Jobs ())).2.calls =
      [.failure, .failure] := by
  decide +kernel

/-- The handler of the failure is called twice. -/
theorem not_oneOutcome : ¬ ∀ (run : PlaybookRun) (env : RunEnv Unit) (jobs : Jobs),
    run.OneOutcome (run.commandOutcome env (start jobs ()).inner)
      (run.execute.run (execHandle env) (start jobs ())).2 := by
  intro h
  have hone := (h addSensor9 playbookFails sensor9Jobs).calls
  rw [calls_addSensor9] at hone
  cases hone

end PlaybookRun

end Tfplenum
