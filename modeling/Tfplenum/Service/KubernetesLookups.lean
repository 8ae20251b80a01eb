/-
  Tfplenum.Service.KubernetesLookups

  The other functions that work inside `with KubernetesWrapper()`: the config
  maps (`configmap_service.py`) and those that a replayer reads
  (`pcap_service.py`), the Elasticsearch and Logstash nodes and the applications
  of a node (`catalog_service.py`), the addresses of the load-balanced services
  (`health_dashboard_service.py`, `portal_service.py`, `tools_controller.py`), the
  license (`tools_controller.py`).
-/

import Tfplenum.Utils.ConnectionMngs

namespace Tfplenum

open Lib

/-! ## Config maps -/

structure AssociatedPod where
  podName : String
  inNamespace : String
deriving DecidableEq

/-- `get_associated_pods` -/
def getAssociatedPods (configMapName : String) : KubernetesFunction :=
  .make ([] : List AssociatedPod)
    (do
      let pods ← withLocals [] (request (.listPodForAllNamespaces none none))
      let associated ← Program.foldEach pods [] fun associated item => do
        let volumes ← withLocals associated (.ofExcept (iterate item.spec.volumes))
        return associated ++
          (volumes.filter fun configMap => configMap = some configMapName).map fun _ =>
            { podName := item.metadata.name, inNamespace := item.metadata.inNamespace }
      return .through associated)
    (fun associated => return associated)

/-- `get_config_maps`; falling through returns `None`. -/
def getConfigMaps : KubernetesFunction :=
  .make (ρ := Option (List V1ConfigMap)) ()
    (withLocals () do
      return .returning (some (← request .listConfigMapForAllNamespaces)))
    (fun _ => return none)

/-- `put_config_map`, answered with the name of the config map; falling through
    returns `None`. -/
def putConfigMap (configMap : V1ConfigMap) (associatedPods : List AssociatedPod) :
    KubernetesFunction :=
  .make (ρ := Option String) ()
    (withLocals () do
      request (.replaceNamespacedConfigMap configMap.metadata.name configMap.metadata.inNamespace
        (configMap.data.getD []))
      request (.bouncePods (associatedPods.map fun pod => (pod.podName, pod.inNamespace)))
      return .returning (some configMap.metadata.name))
    (fun _ => return none)

/-! ### The configurations of the replayers -/

/-- `_get_configmap_data` -/
def getConfigmapData (inNamespace dataName : String) : List V1ConfigMap → Except PyError String
  | [] => .ok ""
  | configMap :: searchDict =>
      if configMap.metadata.inNamespace = inNamespace then
        match dictItem configMap.data dataName with
        | .error (.keyError _) => getConfigmapData inNamespace dataName searchDict
        | r => r
      else getConfigmapData inNamespace dataName searchDict

/-- `_save_all_configmap_data` -/
def saveAllConfigmapData (inNamespace configName someDir : String)
    (searchDict : List V1ConfigMap) : Kube PyError Unit :=
  let isNamed (configMap : V1ConfigMap) : Bool :=
    configMap.metadata.inNamespace = inNamespace && hasSubstring configMap.metadata.name configName
  match searchDict.find? isNamed with
  | none => return ()
  | some configMap => do
      let data ← .ofExcept (iterate configMap.data)
      Program.forEach data fun (dataNameKey, value) =>
        request (.writeFile (someDir ++ "/" ++ dataNameKey) value)

/-- `SuricataReplayer.pull_suricata_config_map` -/
def pullSuricataConfigMap (suricataConfig : String) : KubernetesFunction :=
  .make (ρ := Unit) ()
    (withLocals () do
      let apiResponse ← request .listConfigMapForAllNamespaces
      let configMap ← .ofExcept (getConfigmapData "default" "suricata.yaml" apiResponse)
      request (.writeFile suricataConfig configMap)
      return .through ())
    (fun _ => return ())

/-- `ZeekReplayer.pull_kubernetes_zeek_configs` -/
def pullKubernetesZeekConfigs (localZeekConfig zeekScripts : String) : KubernetesFunction :=
  .make (ρ := Unit) ()
    (withLocals () do
      let configMaps ← request .listConfigMapForAllNamespaces
      let configMap ← .ofExcept (getConfigmapData "default" "local.zeek" configMaps)
      request (.writeFile localZeekConfig configMap)
      saveAllConfigmapData "default" "zeek-scripts" zeekScripts configMaps
      return .through ())
    (fun _ => return ())

/-! ## Elasticsearch and Logstash nodes -/

/-- `_get_elastic_nodes` and `_get_logstash_nodes`: the address of each pod that
    the selector finds, or the default when anything raises.  The handler stands
    inside the block. -/
def nodesOrDefault (labelSelector default : String) (address : V1Pod → Except PyError String) :
    KubernetesFunction :=
  .make ([] : List String)
    (Program.tryExcept
      (do
        let pods ← withLocals [] (request (.listPodForAllNamespaces (some labelSelector) none))
        let nodes ← Program.foldEach pods [] fun nodes node =>
          return nodes ++ [← withLocals nodes (.ofExcept (address node))]
        return .through nodes)
      fun _ => return .through [default])
    (fun nodes => return nodes)

/-- The four kinds of nodes `_get_elastic_nodes` is called for. -/
inductive ElasticNodeType where
  | master
  | ingest
  | data
  | ml

def ElasticNodeType.value : ElasticNodeType → String
  | .master => "master"
  | .ingest => "ingest"
  | .data => "data"
  | .ml => "ml"

def getElasticNodes (nodeType : ElasticNodeType) : KubernetesFunction :=
  nodesOrDefault ("elasticsearch.k8s.elastic.co/node-" ++ nodeType.value ++ "=true")
    "elasticsearch.default.svc.cluster.local"
    fun node => do
      let set ← dictItem node.metadata.labels "elasticsearch.k8s.elastic.co/statefulset-name"
      return "https://" ++ node.metadata.name ++ "." ++ set ++ ".default.svc.cluster.local:9200"

def getLogstashNodes : KubernetesFunction :=
  nodesOrDefault "component=logstash" "logstash.default.svc.cluster.local:5050"
    fun node => return node.metadata.name ++ "." ++ node.spec.subdomain.getD "None" ++
      ".default.svc.cluster.local:5050"

/-! ## Applications of a node -/

structure DeployedApp where
  application : String
  deploymentName : String

/-- One round of `get_node_apps` for a server or a service node: the application is deployed
    there if one of its pods is.  Whatever raises is passed over inside the block. -/
def checkNodeApp (hostname : String) (deployedApps : List DeployedApp) (val : DeployedApp) :
    KubernetesFunction :=
  .make deployedApps
    (Program.tryExcept
      (withLocals deployedApps do
        let pods ← request (.listPodForAllNamespaces (some ("component=" ++ val.application))
          (some ("spec.nodeName=" ++ hostname)))
        return .through (if 0 < pods.length then deployedApps ++ [val] else deployedApps))
      fun _ => return .through deployedApps)
    (fun deployedApps => return deployedApps)

/-- `get_node_apps` of such a node, from its saved values on -/
def getNodeApps (hostname : String) (savedValues : List DeployedApp) :
    Kube PyError (List DeployedApp) :=
  Program.foldEach savedValues [] fun deployedApps val =>
    (checkNodeApp hostname deployedApps val).run

/-! ## Addresses of services -/

/-- `service.status.load_balancer.ingress[0].ip` -/
def ingressIp (service : V1Service) : Except PyError (Option String) :=
  match service.ingress with
  | none => .error (.typeError "'NoneType' object is not subscriptable")
  | some [] => .error .indexError
  | some (ip :: _) => .ok ip

/-- `retrieve_service_ip_address` -/
def retrieveServiceIpAddress (serviceName : String) : KubernetesFunction :=
  .make (ρ := Option String) ()
    (withLocals () do
      let services ← request (.listNamespacedService "default")
      match services.find? fun service => service.name = serviceName with
      | some service => return .returning (← .ofExcept (ingressIp service))
      | none => return .through ())
    (fun _ => .raise (.other "KubernetesError"))

structure KibanaLoginInfo where
  dns : String
  ipAddress : String
  usernamePassword : String

/-- `get_kibana_login_info`, once the domain and the password are read; the
    dictionary stays empty where no service is named `kibana`. -/
def getKibanaLoginInfo (kitDomain elasticPassword : String) : KubernetesFunction :=
  .make (none : Option KibanaLoginInfo)
    (do
      let services ← withLocals none (request .listServiceForAllNamespaces)
      let info ← Program.foldEach services none fun info service => do
        if service.name = "kibana" then
          let ip ← withLocals info (.ofExcept (ingressIp service))
          return some {
            dns := "https://" ++ service.name ++ "." ++ kitDomain
            ipAddress := "https://" ++ ip.getD "None"
            usernamePassword := "elastic/" ++ elasticPassword }
        else
          return info
      return .through info)
    (fun info => return info)

structure PortalLink where
  ip : String
  dns : String
  logins : String

/-- `get_portal_links` from the `with` statement on: the links so far, and how a
    service's link is made and which names are left out. -/
def getPortalLinks (portalLinks : List PortalLink) (isDiscluded : String → Bool)
    (appendPortalLink : String → Option String → Except PyError PortalLink) :
    KubernetesFunction where
  Locals := List PortalLink
  Value := List PortalLink
  statement := {
    enter := loadKubeConfig
    locals := portalLinks
    block := do
      let services ← withLocals portalLinks (request .listServiceForAllNamespaces)
      let links ← Program.foldEach services portalLinks fun links service =>
        match service.ingress with
        | some (ip :: _) => do
            if isDiscluded service.name then
              return links
            else
              return links ++ [← withLocals links (.ofExcept (appendPortalLink service.name ip))]
        | _ => return links
      return .through links
    after := fun links => return links
    handler := fun _ links => some (return links) }

/-! ## The license -/

inductive LicenseResponse where
  /-- `success_message` -/
  | success (message : String)
  /-- `error_message` -/
  | error (status : Nat) (message : String)

/-- `ElasticLicense.put` from the `with` statement on: the secret that holds the license takes
    the place of the older ones.  Only an `ApiException` is handled inside the block. -/
def ElasticLicense.put (secretName license : String) (currentLicense : Json) :
    KubernetesFunction :=
  .make (ρ := LicenseResponse) ()
    (Program.tryExcept
      (withLocals () do
        request (.createNamespacedSecret "elastic-system" secretName license)
        let oldSecrets ← request (.listNamespacedSecret "elastic-system")
        let isOld (name : String) : Bool :=
          "eck-license".toList.isPrefixOf name.toList && name ≠ secretName
        Program.forEach (oldSecrets.filter isOld) fun name =>
          request (.deleteNamespacedSecret name "elastic-system")
        return .through ())
      fun
        | (.apiException _, _) => .done (.returning
            (.error 500 "Something went wrong saving the Elastic license. See the logs."))
        | e => .raise e)
    (fun _ => do
      request (.checkElasticLicense currentLicense)
      return .success ("Successfully uploaded Elastic License. It will take a few minutes for " ++
        "Elastic to show. Check notifications for updates."))

end Tfplenum
