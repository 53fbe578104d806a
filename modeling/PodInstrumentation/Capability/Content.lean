import PodInstrumentation.Capability.Draft
import PodInstrumentation.Fault
import PodInstrumentation.Json.Printer
import PodInstrumentation.Pod.Installer
/-!
What the two capabilities write. The init container puts the binaries of the agent into a volume,
and every container loads its library from there. For data enrichment it writes files about the
workload into another, which every container mounts beside the secret that says where metrics are
ingested. -/
namespace PodInstrumentation.Agent

/-- What pods may say about the agent's installer. Annotations may hold any JSON. -/
structure InstallerInfo where
  flavor : Json
  technologies : Json
  installPath : Json
  installerUrl : Json
deriving DecidableEq

def installerInfo (pod : Json) : Shaped InstallerInfo := do
  let values ← Pod.annotations pod
  return {
    flavor := ← Pod.setting values Names.flavor (.str "default")
    technologies := ← Pod.setting values Names.technologies (.str "all")
    installPath := ← Pod.setting values Names.installPath (.str "/opt/agent")
    installerUrl := ← Pod.setting values Names.installerUrl (.str "") }

def volumeMode (config : MonitoringConfig) : String :=
  if config.needsCsiDriver then "provisioned" else "installer"

def binVolume (config : MonitoringConfig) : Json :=
  if config.needsCsiDriver then
    .obj [
      ("name", .str Names.agentBinVolume),
      ("csi", .obj [
        ("driver", .str "csi.injector.monitoring.io"),
        ("volumeAttributes", .obj [
          ("mode", .str "app"),
          ("monitoringConfig", .str config.name)])])]
  else Pod.emptyVolume Names.agentBinVolume

def volumes (config : MonitoringConfig) : List Json :=
  [binVolume config, Pod.emptyVolume Names.agentShareVolume]

def installerVars (info : InstallerInfo) (mode : String) : List Json := [
  Pod.envVar Names.flavorVar info.flavor,
  Pod.envVar Names.technologiesVar info.technologies,
  Pod.envVar Names.installPathVar info.installPath,
  Pod.envVar Names.installerUrlVar info.installerUrl,
  Pod.envVar Names.modeVar (.str mode),
  Pod.envVar Names.agentInjectedVar (.str "true")]

def installerMounts : List Json :=
  [Pod.mount Names.agentBinVolume "/mnt/bin", Pod.mount Names.agentShareVolume "/mnt/share"]

def containerMounts (name installPath : Json) : List Json := [
  Pod.mountPart Names.agentShareVolume "/etc/ld.so.preload" "ld.so.preload",
  .obj [("name", .str Names.agentBinVolume), ("mountPath", installPath)],
  Pod.mountPart Names.agentShareVolume "/var/lib/agent/config/container.conf"
    s!"container_{name.display}.conf",
  Pod.mountPart Names.agentShareVolume "/var/lib/agent/customkeys" "custom.properties"]

def addMounts (installPath : Json) (container : Json) : Shaped Json :=
  let name := (container.get? "name").getD (.str "")
  Pod.appendMounts (containerMounts name installPath) container

/-- The library is loaded from below the install path, which must be a text for that. -/
def addPreload (installPath : Json) (container : Json) : Shaped Json := do
  let path ← installPath.asText
  Pod.appendEnv [Pod.envVar Names.preloadVar (.str (path ++ "/agent/lib64/libagentproc.so"))]
    container

def addProxy : Json → Shaped Json :=
  Pod.appendEnv [Pod.secretVar Names.proxyVar Names.initSecret Names.proxyKey]

def addNetworkZone (zone : String) : Json → Shaped Json :=
  Pod.appendEnv [Pod.envVar Names.networkZoneVar (.str zone)]

def extendContainer (config : MonitoringConfig) (version clusterId : String) (installPath : Json) :
    Edit Json Unit := do
  Edit.step (addMounts installPath)
  Edit.step (Pod.addMetadata config version clusterId)
  Edit.step (addPreload installPath)
  if config.hasProxy then Edit.step addProxy
  let zone := config.spec.networkZone.getD ""
  if zone != "" then Edit.step (addNetworkZone zone)

end PodInstrumentation.Agent

namespace PodInstrumentation.Enrichment

def volumes : List Json :=
  [Pod.emptyVolume Names.enrichmentVolume, Pod.secretVolume Names.endpointVolume
    Names.endpointSecret]

def installerVars (workload : Workload) : List Json := [
  Pod.envVar Names.workloadKindVar workload.kind,
  Pod.envVar Names.workloadNameVar workload.name,
  Pod.envVar Names.enrichmentInjectedVar (.str "true")]

def installerMounts : List Json := [Pod.mount Names.enrichmentVolume "/mnt/enrichment"]

def containerMounts : List Json :=
  [Pod.mount Names.enrichmentVolume "/var/lib/agent/enrichment",
    Pod.mount Names.endpointVolume "/var/lib/agent/enrichment/endpoint"]

def extendContainer (config : MonitoringConfig) (version clusterId : String) :
    Edit Json Unit := do
  Edit.step (Pod.appendMounts containerMounts)
  Edit.step (Pod.addMetadata config version clusterId)

end PodInstrumentation.Enrichment
