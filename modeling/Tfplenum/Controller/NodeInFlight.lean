/-
  Tfplenum.Controller.NodeInFlight

  The operations that hold a node or one of its jobs while they wait for
  something: they load it at their beginning and save it whole, with what they
  changed, at their end.  What they write is said by `NodeOperation.saves_program`:
  nodes and jobs, by replacement, and nothing else.
-/

import Tfplenum.Controller.NodeCreation
import Tfplenum.Lib.Interleave

namespace Tfplenum

open Lib Program

/-- The node of this name is loaded and handed to a job of the queue. -/
def withNode (hostname : String) (job : Node → Prog Unit) : Prog Unit := do
  match ← Node.loadFromDbUsingHostname hostname with
  | none => pure ()
  | some node => job node

/-- An operation on a loaded node. -/
inductive NodeOperation where
  /-- `NodeVpnCtrl.post` -/
  | vpnStatus (hostname : String) (payload : List (String × Json))
  /-- `NodeStateCtrl.post` -/
  | nodeState (hostname : String) (payload : List (String × Json))
  /-- `NodeUpdateFactsCtrl.put` and the job it queues -/
  | updateDeviceFacts (hostname password : String)
  /-- `gather_device_facts`, from the requests that queue it -/
  | gatherDeviceFacts (hostname : String) (password : Option String) (jobId : String) (polls : Nat)
  /-- `execute`, for every type and stage but those of a removal -/
  | deploymentJob (hostname : String) (execType : DeploymentJob) (stage : String) (jobId : String)
      (polls : Nat) (htype : execType ≠ .removeNode) (hstage : stage ≠ jobRemove)

namespace NodeOperation

def program : NodeOperation → Prog Unit
  | .vpnStatus hostname payload => discard (NodeVpnCtrl.post hostname payload)
  | .nodeState hostname payload => discard (NodeStateCtrl.post hostname payload)
  | .updateDeviceFacts hostname password =>
      withNode hostname fun node => discard (updateDeviceFactsJob node password)
  | .gatherDeviceFacts hostname password jobId polls =>
      withNode hostname fun node =>
        discard (Tfplenum.gatherDeviceFacts node password jobId polls)
  | .deploymentJob hostname execType stage jobId polls _ _ =>
      withNode hostname fun node =>
        discard (NodeService.execute ⟨jobId, execType, stage, node, polls⟩)

end NodeOperation

/-! ## What they write -/

section Saves

variable {W : String → NodeDoc → Prop}

theorem saves_withNode {hostname : String} {job : Node → Prog Unit}
    (hjob : ∀ node, (job node).Uses (Op.saves W)) : (withNode hostname job).Uses (Op.saves W) := by
  refine (saves_of_readsOnly (Node.readsOnly_loadFromDbUsingHostname hostname)).bind fun o => ?_
  cases o with
  | none => exact .done _
  | some node => exact hjob node

theorem saves_answerErrors {invalidState : String} {p : Prog Response} (hp : p.Uses (Op.saves W)) :
    (answerErrors invalidState p).Uses (Op.saves W) := by
  refine hp.tryExcept fun e => ?_
  split
  · exact .done _
  · split
    · exact .done _
    · exact .raise _

/-- The VPN request saves the node with the status of the payload. -/
theorem NodeVpnCtrl.saves_setStatus {node : Node} {payload : List (String × Json)}
    (hW : ∀ (status : Json) (doc : NodeDoc), payload.lookup "vpn_status" = some status →
      Node.dump { node with vpnStatus := status } = .ok doc → W node.id doc) :
    (NodeVpnCtrl.setStatus node payload).Uses (Op.saves W) := by
  unfold NodeVpnCtrl.setStatus
  split
  · exact .done _
  · rename_i status hstatus
    exact Node.saves_saveToDb fun doc hdump => hW status doc hstatus hdump

theorem NodeVpnCtrl.saves_update {node : Node} {payload : List (String × Json)}
    (hW : ∀ (status : Json) (doc : NodeDoc), payload.lookup "vpn_status" = some status →
      Node.dump { node with vpnStatus := status } = .ok doc → W node.id doc) :
    (do
      Program.when (payload ≠ []) do
        NodeVpnCtrl.setStatus node payload
        sendNotification
      pure (.message "Updated") : Prog Response).Uses (Op.saves W) := by
  refine Uses.bind (Uses.when fun _ => Uses.bind ?_ fun _ => ?_) fun _ => .done _
  · exact NodeVpnCtrl.saves_setStatus hW
  · exact saves_of_readsOnly readsOnly_sendNotification

theorem NodeVpnCtrl.saves_post {hostname : String} {payload : List (String × Json)}
    (hW : ∀ (node : Node) (status : Json) (doc : NodeDoc),
      payload.lookup "vpn_status" = some status →
        Node.dump { node with vpnStatus := status } = .ok doc → W node.id doc) :
    (NodeVpnCtrl.post hostname payload).Uses (Op.saves W) := by
  refine saves_answerErrors ?_
  refine (saves_of_readsOnly (Node.readsOnly_loadFromDbUsingHostname hostname)).bind fun o => ?_
  cases o with
  | none => exact .done _
  | some node => exact NodeVpnCtrl.saves_update (hW node)

namespace NodeStateCtrl

theorem readsOnly_cancelGathering (node : Node) (job : NodeJob) (name : String) (c : Change) :
    (cancelGathering node job name c).Uses Op.readsOnly := by
  refine Uses.when fun _ => Uses.bind (Prog.uses_orRaise (Prog.readsOnly_ask _)) fun o => ?_
  cases o with
  | none => exact .done _
  | some jobId => exact Prog.uses_orRaise (Prog.readsOnly_ask _)

theorem saves_applyChange (node : Node) (job : NodeJob) (name : String)
    (payload : List (String × Json)) : (applyChange node job name payload).Uses (Op.saves W) := by
  have hset {job : NodeJob} :
      (discard (do job.saveToDb; return job) : Prog Unit).Uses (Op.saves W) :=
    Uses.bind NodeJob.saves_setter fun _ => .done _
  unfold applyChange
  split
  · exact hset
  · exact hset
  · split
    · refine saves_of_readsOnly ?_
      refine Uses.bind (Uses.bind (Prog.uses_orRaise (Prog.readsOnly_ask _)) fun _ => .done _)
        fun _ => ?_
      refine Uses.bind (Uses.when fun _ => ?_) fun _ => readsOnly_enqueue _
      exact Uses.bind (Prog.uses_orRaise (Prog.readsOnly_ask _)) fun _ => .done _
    · exact hset
  · exact .done _

theorem saves_changeJob (node : Node) (name : String) (payload : List (String × Json)) :
    (changeJob node name payload).Uses (Op.saves W) := by
  refine (saves_of_readsOnly (NodeJob.readsOnly_loadJobByNodeId _ _)).bind fun o => ?_
  cases o with
  | none => exact .done _
  | some job =>
      refine Uses.bind (saves_of_readsOnly (readsOnly_cancelGathering _ _ _ _)) fun _ => ?_
      refine (NodeJob.saves_setJobState job none).bind fun job => ?_
      refine (saves_applyChange node job name payload).bind fun _ => ?_
      exact saves_of_readsOnly readsOnly_sendNotification

theorem saves_update (node : Node) (payload : List (String × Json)) :
    (do
      Program.when (payload ≠ []) do
        match ← Program.ofExcept ((Json.obj payload).getItem "name") with
        | .str name => changeJob node name payload
        | _ => pure ()
      pure (.message "Updated") : Prog Response).Uses (Op.saves W) := by
  refine Uses.bind (Uses.when fun _ => ?_) fun _ => .done _
  refine Uses.bind (uses_ofExcept _) fun name => ?_
  split
  · exact saves_changeJob node _ payload
  · exact .done _

theorem saves_post (hostname : String) (payload : List (String × Json)) :
    (post hostname payload).Uses (Op.saves W) := by
  refine saves_answerErrors ?_
  refine (saves_of_readsOnly (Node.readsOnly_loadFromDbUsingHostname hostname)).bind fun o => ?_
  cases o with
  | none => exact .done _
  | some node => exact saves_update node payload

end NodeStateCtrl

/-- Every operation only reads, and saves nodes and jobs. -/
theorem NodeOperation.saves_program (operation : NodeOperation) :
    operation.program.Uses (Op.saves fun _ _ => True) := by
  cases operation with
  | vpnStatus hostname payload =>
      exact Uses.bind (NodeVpnCtrl.saves_post fun _ _ _ _ _ => trivial) fun _ => .done _
  | nodeState hostname payload =>
      exact Uses.bind (NodeStateCtrl.saves_post hostname payload) fun _ => .done _
  | updateDeviceFacts hostname password =>
      refine saves_withNode fun node => Uses.bind ?_ fun _ => .done _
      exact saves_updateDeviceFactsJob (fun _ _ _ => trivial) password
  | gatherDeviceFacts hostname password jobId polls =>
      refine saves_withNode fun node => Uses.bind ?_ fun _ => .done _
      exact saves_gatherDeviceFacts (fun _ _ _ => trivial) password jobId polls
  | deploymentJob hostname execType stage jobId polls htype hstage =>
      refine saves_withNode fun node => Uses.bind ?_ fun _ => .done _
      exact NodeService.saves_execute (fun _ _ _ => trivial) htype hstage

end Saves

end Tfplenum
