import PodInstrumentation.Config.Issue
import PodInstrumentation.Names
import PodInstrumentation.Text.Character
/-!
The configuration that a namespace is assigned to: what is injected into its pods, and where the
injected agent reports. -/
namespace PodInstrumentation

namespace Config

/-- A proxy, given by its URL or by the name of the secret that holds the URL. -/
structure ProxySpec where
  value : Option String
  valueFrom : Option String
deriving DecidableEq

inductive AgentMode where
  | none
  | applicationMonitoring (useCsiDriver : Bool) (initResources : Fields)
  | cloudNativeFullStack (initResources : Fields)
deriving DecidableEq

structure Spec where
  apiUrl : String
  tokens : Option String
  proxy : Option ProxySpec
  networkZone : Option String
  skipCertCheck : Bool
  agent : AgentMode
deriving DecidableEq

def proxySpec (j : Json) : Checked ProxySpec :=
  (model j).andThen fun fs =>
    ProxySpec.mk <$> optional fs "value" "value" none (nullable text)
      <*> optional fs "valueFrom" "value_from" none (nullable text)

def applicationMonitoring (j : Json) : Checked AgentMode :=
  (model j).andThen fun fs =>
    AgentMode.applicationMonitoring <$> optional fs "useCSIDriver" "use_csi_driver" false bool
      <*> optional fs "initResources" "init_resources" [] object

def cloudNativeFullStack (j : Json) : Checked AgentMode :=
  (model j).andThen fun fs =>
    AgentMode.cloudNativeFullStack <$> optional fs "initResources" "init_resources" [] object

def exclusiveModes : String :=
  "applicationMonitoring and cloudNativeFullStack are mutually exclusive"

/-- At most one mode may be given. -/
def onlyMode : Option AgentMode × Option AgentMode → Checked AgentMode
  | (some _, some _) => .issue (.rule exclusiveModes)
  | (some mode, none) | (none, some mode) => .valid mode
  | (none, none) => .valid .none

def agentMode (j : Json) : Checked AgentMode :=
  (model j).andThen fun fs =>
    Checked.andThen
      (Prod.mk <$> optional fs "applicationMonitoring" "application_monitoring" none
          (nullable applicationMonitoring)
        <*> optional fs "cloudNativeFullStack" "cloud_native_full_stack" none
          (nullable cloudNativeFullStack))
      onlyMode

def isHttpUrl (s : String) : Bool :=
  "http://".toList.isPrefixOf s.toList || "https://".toList.isPrefixOf s.toList

def badApiUrl : String := "apiUrl must start with http:// or https://"

/-- The URL without slashes at its end. -/
def normalApiUrl (j : Json) : Checked String :=
  (text j).andThen fun s =>
    if isHttpUrl s then .valid (String.ofList (Text.dropEnd (· == '/') s.toList))
    else .issue (.rule badApiUrl)

def Spec.check (j : Json) : Checked Spec :=
  (model j).andThen fun fs =>
    Spec.mk <$> required fs "apiUrl" "api_url" normalApiUrl
      <*> optional fs "tokens" "tokens" none (nullable text)
      <*> optional fs "proxy" "proxy" none (nullable proxySpec)
      <*> optional fs "networkZone" "network_zone" none (nullable text)
      <*> optional fs "skipCertCheck" "skip_cert_check" false bool
      <*> optional fs "agent" "agent" .none agentMode

end Config

open Config

structure MonitoringConfig where
  name : String
  ns : String
  annotations : List (String × String)
  spec : Spec
deriving DecidableEq

namespace MonitoringConfig

inductive Error where
  | misshapen
  | invalid (issues : List Issue)
deriving DecidableEq

def annotationTexts (j : Json) : Checked (List (String × String)) :=
  (object j).andThen fun fs =>
    Checked.each (fun f => (f.1, ·) <$> text f.2) (fs.map fun f => (.key f.1, f))

def ofResource (resource : Json) : Except Error MonitoringConfig :=
  match resource with
  | .obj fields =>
    match ((fields.lookup "metadata").getD .null).orElse .empty with
    | .obj metadata =>
      match Spec.check (((fields.lookup "spec").getD .null).orElse .empty) with
      | .invalid issues => .error (.invalid issues)
      | .valid spec =>
        let annotations := ((metadata.lookup "annotations").getD .null).orElse .empty
        let checked := (MonitoringConfig.mk · · · spec) <$> optional metadata "name" "name" "" text
          <*> optional metadata "namespace" "namespace" "" text
          <*> (annotationTexts annotations).within (.key "annotations")
        match checked with
        | .invalid issues => .error (.invalid issues)
        | .valid config => .ok config
    | _ => .error .misshapen
  | _ => .error .misshapen

/-- The secret with the API tokens is named as the configuration unless the configuration says
otherwise. -/
def tokensSecret (c : MonitoringConfig) : String :=
  match c.spec.tokens with
  | some name => if name = "" then c.name else name
  | none => c.name

def needsInjection (c : MonitoringConfig) : Bool :=
  match c.spec.agent with
  | .none => false
  | .applicationMonitoring .. | .cloudNativeFullStack _ => true

def isFullStack (c : MonitoringConfig) : Bool :=
  match c.spec.agent with
  | .cloudNativeFullStack _ => true
  | .none | .applicationMonitoring .. => false

/-- Whether agent binaries come through the CSI driver: always with node agents. -/
def needsCsiDriver (c : MonitoringConfig) : Bool :=
  match c.spec.agent with
  | .cloudNativeFullStack _ => true
  | .applicationMonitoring useCsiDriver _ => useCsiDriver
  | .none => false

def isGiven (s : Option String) : Bool := s.getD "" != ""

def hasProxy (c : MonitoringConfig) : Bool :=
  match c.spec.proxy with
  | some p => isGiven p.value || isGiven p.valueFrom
  | none => false

def initResources (c : MonitoringConfig) : Fields :=
  match c.spec.agent with
  | .none => []
  | .applicationMonitoring _ fs | .cloudNativeFullStack fs => fs

def deploymentType (c : MonitoringConfig) : String :=
  if c.isFullStack then "cloud_native_fullstack" else "application_monitoring"

def reinvocation (c : MonitoringConfig) : Bool :=
  Text.lower (Text.trim ((c.annotations.lookup Names.reinvocationFeature).getD "false")) == "true"

end MonitoringConfig

end PodInstrumentation
