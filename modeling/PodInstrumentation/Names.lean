/-!
The names that the operator writes into pods, secrets and events, or reads from the cluster. -/
namespace PodInstrumentation.Names

-- The resource that describes what is injected.
def configGroup : String := "injector.monitoring.io"
def configVersion : String := "v1"
def configPlural : String := "monitoringconfigs"
def configKind : String := "MonitoringConfig"

/-- Label of a namespace whose pods are injected; its value names the configuration. -/
def instanceLabel : String := "injector.monitoring.io/instance"

-- Annotations.
def injected : String := "injector.monitoring.io/injected"
def agentInject : String := "injector.monitoring.io/agent-inject"
def agentInjected : String := "injector.monitoring.io/agent-injected"
def enrichmentInject : String := "injector.monitoring.io/data-enrichment-inject"
def enrichmentInjected : String := "injector.monitoring.io/data-enrichment-injected"
def installPath : String := "injector.monitoring.io/install-path"
def flavor : String := "injector.monitoring.io/flavor"
def technologies : String := "injector.monitoring.io/technologies"
def installerUrl : String := "injector.monitoring.io/installer-url"
def failurePolicy : String := "injector.monitoring.io/failure-policy"
def reinvocationFeature : String :=
  "feature.injector.monitoring.io/enable-webhook-reinvocation-policy"

-- The init container that installs the agent.
def installer : String := "install-agent"
def countVar : String := "CONTAINERS_COUNT"
def failurePolicyVar : String := "FAILURE_POLICY"
def podNameVar : String := "K8S_PODNAME"
def podUidVar : String := "K8S_PODUID"
def basePodNameVar : String := "K8S_BASEPODNAME"
def namespaceVar : String := "K8S_NAMESPACE"
def nodeNameVar : String := "K8S_NODE_NAME"
def flavorVar : String := "FLAVOR"
def technologiesVar : String := "TECHNOLOGIES"
def installPathVar : String := "INSTALLPATH"
def installerUrlVar : String := "INSTALLER_URL"
def modeVar : String := "MODE"
def agentInjectedVar : String := "AGENT_INJECTED"
def workloadKindVar : String := "WORKLOAD_KIND"
def workloadNameVar : String := "WORKLOAD_NAME"
def enrichmentInjectedVar : String := "DATA_ENRICHMENT_INJECTED"

/-- What the variables begin with that describe one container. -/
def containerVarStart : String := "CONTAINER_"

def containerNameVar (number : Int) : String := s!"CONTAINER_{number}_NAME"
def containerImageVar (number : Int) : String := s!"CONTAINER_{number}_IMAGE"

-- Variables of application containers.
def preloadVar : String := "LD_PRELOAD"
def metadataVar : String := "AGENT_DEPLOYMENT_METADATA"
def proxyVar : String := "AGENT_PROXY"
def networkZoneVar : String := "AGENT_NETWORK_ZONE"

-- Volumes.
def configVolume : String := "injection-config"
def agentBinVolume : String := "agent-bin"
def agentShareVolume : String := "agent-share"
def enrichmentVolume : String := "data-enrichment"
def endpointVolume : String := "data-enrichment-endpoint"

-- Secrets.
def initSecret : String := "agent-injection-config"
def endpointSecret : String := "agent-enrichment-endpoint"
def configKey : String := "config"
def proxyKey : String := "proxy"
def endpointKey : String := "endpoint.properties"
def apiTokenKey : String := "apiToken"
def ingestTokenKey : String := "dataIngestToken"
def managedByLabel : String := "injector.monitoring.io/managed-by"
def managedByValue : String := "injection-operator"

-- Events.
def eventSource : String := "injection-webhook"

-- Capabilities, and the owner of the names that every injection writes.
def agent : String := "agent"
def enrichment : String := "data-enrichment"
def core : String := "pipeline"

def podKind : String := "Pod"
def kubeSystem : String := "kube-system"

end PodInstrumentation.Names
