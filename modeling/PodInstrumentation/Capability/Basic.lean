import PodInstrumentation.Capability.Content
import PodInstrumentation.Secret.Provision
import PodInstrumentation.Workload.OwnerChain
/-!
The capabilities that can be injected. Each sees from the annotations whether a pod wants it and
whether the pod got it before, and from a container whether the container has it. Injecting one
asks the cluster for what is needed and then changes the draft; repairing one changes a single
container. -/
namespace PodInstrumentation

inductive Capability where
  | agent
  | enrichment
deriving DecidableEq, Repr

structure Injector where
  provisioner : Provisioner
  version : String
  /-- How many owners of a pod are followed at most. -/
  maxDepth : Int
deriving DecidableEq

structure Additions where
  volumes : List Json
  installerVars : List Json
  installerMounts : List Json
  container : Edit Json Unit
  mark : String

namespace Additions

def extend (container : Edit Json Unit) (number : Int) : Edit Site Unit := do
  Site.onInstaller (Pod.noteContainer number)
  Site.onContainer container

def edit (a : Additions) : Edit Draft Unit := do
  Draft.onPod (Pod.appendVolumes a.volumes)
  Draft.onInstaller (Pod.appendEnv a.installerVars)
  Draft.onInstaller (Pod.appendMounts a.installerMounts)
  let _ ← Draft.eachContainer fun i => do
    extend a.container (i + 1)
    return true
  Draft.onPod (Pod.annotate a.mark "true")

end Additions

namespace Agent

def additions (j : Injector) (config : MonitoringConfig) (info : InstallerInfo) : Additions where
  volumes := volumes config
  installerVars := installerVars info (volumeMode config)
  installerMounts := installerMounts
  container := extendContainer config j.version j.provisioner.clusterId info.installPath
  mark := Names.agentInjected

def edit (j : Injector) (config : MonitoringConfig) : Edit Draft Unit := do
  let info ← Edit.look fun d => installerInfo d.pod
  (additions j config info).edit

end Agent

namespace Enrichment

def additions (j : Injector) (config : MonitoringConfig) (workload : Workload) : Additions where
  volumes := volumes
  installerVars := installerVars workload
  installerMounts := installerMounts
  container := extendContainer config j.version j.provisioner.clusterId
  mark := Names.enrichmentInjected

def workload (j : Injector) (ns : String) (pod : Json) : Attempt Workload :=
  tryCatch (OwnerChain.resolvePod ns j.maxDepth pod) fun
    | .injection (.ownerResolution _ known _) => return known
    | e => throw e

end Enrichment

namespace Capability

def name : Capability → String
  | agent => Names.agent
  | enrichment => Names.enrichment

/-- Variables that only this capability writes. -/
def ownedVars : Capability → List String
  | agent => [Names.flavorVar, Names.technologiesVar, Names.installPathVar, Names.installerUrlVar,
      Names.modeVar, Names.agentInjectedVar, Names.preloadVar, Names.proxyVar,
      Names.networkZoneVar]
  | enrichment => [Names.workloadKindVar, Names.workloadNameVar, Names.enrichmentInjectedVar]

/-- Volumes that only this capability writes. -/
def ownedVolumes : Capability → List String
  | agent => [Names.agentBinVolume, Names.agentShareVolume]
  | enrichment => [Names.enrichmentVolume, Names.endpointVolume]

/-- Whether a pod wants the capability; it does unless it says no. -/
def enabled (c : Capability) (pod : Json) : Shaped Bool :=
  match c with
  | agent => Pod.flag pod Names.agentInject true
  | enrichment => Pod.flag pod Names.enrichmentInject true

def podInjected (c : Capability) (pod : Json) : Shaped Bool :=
  match c with
  | agent => Pod.flag pod Names.agentInjected false
  | enrichment => Pod.flag pod Names.enrichmentInjected false

def containerInjected (c : Capability) (container : Json) : Shaped Bool :=
  match c with
  | agent => Pod.hasEnv container Names.preloadVar
  | enrichment => Pod.hasMount container Names.enrichmentVolume

def wanted (pod : Json) : List Capability → Shaped (List Capability)
  | [] => .ok []
  | c :: cs => do
    let isWanted ← c.enabled pod
    let rest ← wanted pod cs
    return if isWanted then c :: rest else rest

/-- Asks the cluster for what the capability needs; the answer is the change to make. -/
def prepare (c : Capability) (j : Injector) (config : MonitoringConfig) (ns : String)
    (pod : Json) : Attempt (Edit Draft Unit) :=
  match c with
  | agent => do
    j.provisioner.ensure config ns .init
    return Agent.edit j config
  | enrichment => do
    j.provisioner.ensure config ns .init
    j.provisioner.ensure config ns .endpoint
    let workload ← Enrichment.workload j ns pod
    return (Enrichment.additions j config workload).edit

def containerEdit (c : Capability) (j : Injector) (config : MonitoringConfig) (pod : Json) :
    Edit Json Unit :=
  match c with
  | agent => do
    let info ← Edit.look fun _ => Agent.installerInfo pod
    Agent.extendContainer config j.version j.provisioner.clusterId info.installPath
  | enrichment => Enrichment.extendContainer config j.version j.provisioner.clusterId

/-- Gives one container of an injected pod the capability. The init container is told about it if
there is one. -/
def reinvoke (c : Capability) (j : Injector) (config : MonitoringConfig) (pod : Json)
    (number : Int) (hasInstaller : Bool) : Edit Site Unit := do
  if hasInstaller then Site.onInstaller (Pod.noteContainer number)
  Site.onContainer (c.containerEdit j config pod)

end Capability

end PodInstrumentation
