/-
  Tfplenum.Service.KubernetesMasking

  Which exceptions of a `with KubernetesWrapper()` block are masked.  The exit
  method of the wrapper returns the wrapper, so the statement swallows every one
  of them: a function is honest about its block exactly when the block does not
  raise.
-/

import Tfplenum.Service.HealthService
import Tfplenum.Service.KubernetesLookups

namespace Tfplenum

open Lib

/-- The functions that do their work in one `with KubernetesWrapper()` statement,
    with their arguments. -/
inductive KubernetesCall where
  | getEventWarnings (pod : V1Pod)
  | getNodesStatus (q : QuantityOps)
  | getNodesStatuses (q : QuantityOps)
  | getPodsStatus
  | getPodsStatuses
  | getKibanaIpaddress
  | getK8sAppNodes (app : String)
  | getSuricataStats (pyInt : String → Except PyError Int) (node : AppNode)
  | getSensors
  | getPodLogs (podName inNamespace : String)
  | getSuricataPodName (ipAddress : String)
  | getZeekPodName (ipAddress : String)
  | getArkimePodName (ipAddress : String)
  | getAssociatedPods (configMapName : String)
  | getConfigMaps
  | putConfigMap (configMap : V1ConfigMap) (associatedPods : List AssociatedPod)
  | pullSuricataConfigMap (suricataConfig : String)
  | pullKubernetesZeekConfigs (localZeekConfig zeekScripts : String)
  | getElasticNodes (nodeType : ElasticNodeType)
  | getLogstashNodes
  | checkNodeApp (hostname : String) (deployedApps : List DeployedApp) (val : DeployedApp)
  | retrieveServiceIpAddress (serviceName : String)
  | getKibanaLoginInfo (kitDomain elasticPassword : String)
  | getPortalLinks (portalLinks : List PortalLink) (isDiscluded : String → Bool)
      (appendPortalLink : String → Option String → Except PyError PortalLink)
  | putElasticLicense (secretName license : String) (currentLicense : Json)

def KubernetesCall.function : KubernetesCall → KubernetesFunction
  | .getEventWarnings pod => Tfplenum.getEventWarnings pod
  | .getNodesStatus q => Tfplenum.getNodesStatus q
  | .getNodesStatuses q => Tfplenum.getNodesStatuses q
  | .getPodsStatus => Tfplenum.getPodsStatus
  | .getPodsStatuses => Tfplenum.getPodsStatuses
  | .getKibanaIpaddress => Tfplenum.getKibanaIpaddress
  | .getK8sAppNodes app => Tfplenum.getK8sAppNodes app
  | .getSuricataStats pyInt node => Tfplenum.getSuricataStats pyInt node
  | .getSensors => Tfplenum.getSensors
  | .getPodLogs podName inNamespace => Tfplenum.getPodLogs podName inNamespace
  | .getSuricataPodName ipAddress => Tfplenum.getSuricataPodName ipAddress
  | .getZeekPodName ipAddress => Tfplenum.getZeekPodName ipAddress
  | .getArkimePodName ipAddress => Tfplenum.getArkimePodName ipAddress
  | .getAssociatedPods configMapName => Tfplenum.getAssociatedPods configMapName
  | .getConfigMaps => Tfplenum.getConfigMaps
  | .putConfigMap configMap associatedPods => Tfplenum.putConfigMap configMap associatedPods
  | .pullSuricataConfigMap suricataConfig => Tfplenum.pullSuricataConfigMap suricataConfig
  | .pullKubernetesZeekConfigs localZeekConfig zeekScripts =>
      Tfplenum.pullKubernetesZeekConfigs localZeekConfig zeekScripts
  | .getElasticNodes nodeType => Tfplenum.getElasticNodes nodeType
  | .getLogstashNodes => Tfplenum.getLogstashNodes
  | .checkNodeApp hostname deployedApps val => Tfplenum.checkNodeApp hostname deployedApps val
  | .retrieveServiceIpAddress serviceName => Tfplenum.retrieveServiceIpAddress serviceName
  | .getKibanaLoginInfo kitDomain elasticPassword =>
      Tfplenum.getKibanaLoginInfo kitDomain elasticPassword
  | .getPortalLinks portalLinks isDiscluded appendPortalLink =>
      Tfplenum.getPortalLinks portalLinks isDiscluded appendPortalLink
  | .putElasticLicense secretName license currentLicense =>
      ElasticLicense.put secretName license currentLicense

section Masking

variable {τ : Type} (h : Handler KubeOp KubeOp.Res τ)

/-- In a call from the state `t` the block raises. -/
def KubernetesFunction.BlockRaises (f : KubernetesFunction) (t : τ) : Prop :=
  ∃ e s t', f.statement.BlockRaises h t e s t'

/-- An exception of the block leaves the function, or meets its own handler. -/
def KubernetesFunction.Unmasked (f : KubernetesFunction) (t : τ) : Prop :=
  f.statement.Unmasked h KubernetesWrapper.exitIsTrue t

theorem KubernetesFunction.unmasked_iff (f : KubernetesFunction) (t : τ) :
    f.Unmasked h t ↔ ¬ f.BlockRaises h t := by
  have hiff := WithStatement.unmasked_of_swallowing_iff (h := h) f.statement t
  rw [KubernetesFunction.Unmasked, KubernetesWrapper.exitIsTrue, hiff,
    KubernetesFunction.BlockRaises]
  simp only [not_exists]

/-- A round of `get_node_apps` passes over every exception inside its block, so that none gets
    as far as the wrapper. -/
theorem unmasked_checkNodeApp (hostname : String) (deployedApps : List DeployedApp)
    (val : DeployedApp) (t : τ) : (checkNodeApp hostname deployedApps val).Unmasked h t := by
  have hpassed : ∀ (p : Kube (PyError × List DeployedApp) (Leaves (List DeployedApp)
      (List DeployedApp))) (e : PyError × List DeployedApp) (t₁ : τ),
      ((Program.tryExcept p fun _ => .done (.through deployedApps)).run h t₁).1 ≠ .error e := by
    intro p e t₁
    rw [Program.run_tryExcept]
    rcases p.run h t₁ with ⟨_ | _, _⟩ <;> exact nofun
  rw [KubernetesFunction.unmasked_iff]
  rintro ⟨e, s, t', t₁, -, hblock⟩
  exact hpassed _ _ _ (congrArg Prod.fst hblock)

/-! ## The certificate secret -/

variable (b64decode : String → Except PyError String) (secretName inNamespace : String)

/-- Every round of the loop that is run is honest about its block. -/
def RoundsUnmasked : Nat → τ → Prop
  | 0, _ => True
  | retries + 1, t =>
      (secretAttempt b64decode secretName inNamespace).Unmasked h t ∧
      ∀ t', (secretAttempt b64decode secretName inNamespace).run.run h t = (.ok none, t') →
        RoundsUnmasked retries t'

/-- The retrieval is honest about its blocks, and returns a secret or raises. -/
def SecretUnmasked (retries : Nat) (t : τ) : Prop :=
  RoundsUnmasked h b64decode secretName inNamespace retries t ∧
  ((getKubernetesCertifcateSecret b64decode secretName inNamespace retries).run h t).1 ≠ .ok none

/-- The block of a round returns a secret or raises. -/
theorem secretAttempt_block {t t' : τ} {l : Leaves Unit (Option KubernetesSecret)}
    (hblock : (secretAttempt b64decode secretName inNamespace).statement.block.run h t =
      (.ok l, t')) : ∃ secret, l = .returning (some secret) := by
  have hbind : ((withLocals () (readSecret b64decode secretName inNamespace)).bind fun secret =>
      (.done (.returning (some secret)) : Kube _ (Leaves Unit (Option KubernetesSecret)))).run h t =
      (.ok l, t') := hblock
  clear hblock
  rw [Program.run_bind] at hbind
  rcases hread : (withLocals () (readSecret b64decode secretName inNamespace)).run h t with
    ⟨e | secret, t₁⟩ <;> rw [hread] at hbind
  · cases hbind
  · cases hbind
    exact ⟨secret, rfl⟩

/-- A round whose block does not raise returns a secret, or the configuration
    cannot be loaded. -/
theorem run_secretAttempt {t : τ}
    (hno : ¬ (secretAttempt b64decode secretName inNamespace).BlockRaises h t) :
    ∃ r t', (secretAttempt b64decode secretName inNamespace).run.run h t = (r, t') ∧
      r ≠ .ok none := by
  rcases hload : (h .loadKubeConfig t).1 with e | u
  · have hin : loadKubeConfig.run h t =
        (.error (.other "ConfigException"), (h .loadKubeConfig t).2) := by
      rw [loadKubeConfig, Program.run_call, hload]
      rfl
    refine ⟨_, _, WithStatement.run_result_of_enter hin rfl, ?_⟩
    intro hnone
    cases hnone
  · have hin : loadKubeConfig.run h t = (.ok (), (h .loadKubeConfig t).2) := by
      rw [loadKubeConfig, Program.run_call, hload]
      rfl
    rcases hblock : (secretAttempt b64decode secretName inNamespace).statement.block.run h
        (h .loadKubeConfig t).2 with ⟨⟨e, s⟩ | l, t'⟩
    · exact absurd ⟨e, s, t', _, hin, hblock⟩ hno
    · obtain ⟨secret, rfl⟩ := secretAttempt_block h b64decode secretName inNamespace hblock
      refine ⟨_, _, WithStatement.run_result_of_block hin hblock, ?_⟩
      intro hnone
      cases hnone

/-- The retrieval is honest exactly when there is a round and the first one does
    not raise in its block. -/
theorem secretUnmasked_iff (retries : Nat) (t : τ) :
    SecretUnmasked h b64decode secretName inNamespace retries t ↔
      retries ≠ 0 ∧ ¬ (secretAttempt b64decode secretName inNamespace).BlockRaises h t := by
  cases retries with
  | zero =>
      constructor
      · rintro ⟨_, hnone⟩
        exact absurd rfl hnone
      · rintro ⟨hne, _⟩
        exact absurd rfl hne
  | succ retries =>
      constructor
      · rintro ⟨⟨hround, _⟩, _⟩
        exact ⟨Nat.succ_ne_zero retries, (KubernetesFunction.unmasked_iff h _ t).mp hround⟩
      · rintro ⟨_, hno⟩
        obtain ⟨r, t', hrun, hr⟩ := run_secretAttempt h b64decode secretName inNamespace hno
        refine ⟨⟨(KubernetesFunction.unmasked_iff h _ t).mpr hno, ?_⟩, ?_⟩
        · intro t'' hnone
          rw [hrun] at hnone
          cases hnone
          exact absurd rfl hr
        · rw [getKubernetesCertifcateSecret, Program.bind_eq, Program.run_bind, hrun]
          rcases r with e | (_ | secret)
          · exact nofun
          · exact absurd rfl hr
          · exact nofun

end Masking

/-! ## Kubernetes failures -/

/-- A pod whose init container waits for its image. -/
def initializingPod : V1Pod where
  metadata := { name := "zeek-0" }
  spec := { initContainers := some [{ name := "init" }] }
  status := {
    phase := some "Pending"
    initContainerStatuses := some [
      { name := "init", restartCount := 0, ready := false, state := { waiting := some none } }] }

/-- A cluster with that pod and nothing else. -/
def oneInitializingPod : Handler KubeOp KubeOp.Res Unit
  | .loadKubeConfig, u => (.ok (), u)
  | .listPodForAllNamespaces _ _, u => (.ok [initializingPod], u)
  | _, u => (.error (.apiException 404), u)

/-- While one pod is initializing, the listing of the pods comes back empty. -/
theorem getPodsStatuses_masks :
    ¬ (∀ (call : KubernetesCall) (h : Handler KubeOp KubeOp.Res Unit) (t : Unit),
        call.function.Unmasked h t) ∧
    getPodsStatuses.run.run oneInitializingPod () = (.ok ([] : List PodMetrics), ()) := by
  have hraise : getPodsStatuses.statement.BlockRaises oneInitializingPod ()
      (.attributeError "'V1ContainerStatus' object has no attribute 'sate'") () () :=
    ⟨(), rfl, rfl⟩
  constructor
  · intro hall
    have hun := hall .getPodsStatuses oneInitializingPod ()
    exact (KubernetesFunction.unmasked_iff oneInitializingPod _ ()).mp hun ⟨_, _, _, hraise⟩
  · exact hraise.run_result

/-- For every call, whatever the API answers or raises: no exception of a block
    is masked exactly when the block does not raise; no round of `get_node_apps`
    masks one; and the certificate secret is retrieved honestly exactly when there
    is a round and its block does not raise. -/
theorem kubernetes_unmasked_iff {τ : Type} (h : Handler KubeOp KubeOp.Res τ) (t : τ) :
    (∀ call : KubernetesCall, call.function.Unmasked h t ↔ ¬ call.function.BlockRaises h t) ∧
    (∀ (hostname : String) (deployedApps : List DeployedApp) (val : DeployedApp),
      (checkNodeApp hostname deployedApps val).Unmasked h t) ∧
    ∀ (b64decode : String → Except PyError String) (secretName inNamespace : String)
      (retries : Nat), SecretUnmasked h b64decode secretName inNamespace retries t ↔
        retries ≠ 0 ∧ ¬ (secretAttempt b64decode secretName inNamespace).BlockRaises h t :=
  ⟨fun call => KubernetesFunction.unmasked_iff h call.function t,
    fun hostname deployedApps val => unmasked_checkNodeApp h hostname deployedApps val t,
    fun b64decode secretName inNamespace retries =>
      secretUnmasked_iff h b64decode secretName inNamespace retries t⟩

end Tfplenum
