import PodInstrumentation.Cluster.Call
import PodInstrumentation.Config.MonitoringConfig
import PodInstrumentation.Net.Url
/-!
The webhook that validates configurations before the cluster accepts them: the specification is
well formed, and its proxy, given by URL or by secret, has a URL that the installer can use. -/
namespace PodInstrumentation.Config

def invalidProxyUrl : String :=
  "The MonitoringConfig's specification has an invalid Proxy URL value set. " ++
  "Make sure you correctly specify the URL in your custom resource."

def invalidEvalCharacter : String :=
  "The MonitoringConfig's specification has an invalid Proxy password value set. " ++
  "Make sure you don't use forbidden characters."

def missingProxySecret : String :=
  "The Proxy secret indicated by the MonitoringConfig specification doesn't exist."

def invalidProxySecret : String :=
  "The Proxy secret indicated by the MonitoringConfig specification has an " ++
  "invalid format. Make sure you correctly create the secret."

def invalidProxySecretUrl : String :=
  "The Proxy secret indicated by the MonitoringConfig specification has an " ++
  "invalid URL value set. Make sure you correctly specify the URL in the secret."

def invalidProxySecretEvalCharacter : String :=
  "The Proxy secret indicated by the MonitoringConfig specification has an " ++
  "invalid Proxy password value set. Make sure you don't use forbidden characters."

def unreadableProxySecret (reason : String) : String :=
  "error occurred while reading the proxy secret indicated in the " ++
  s!"MonitoringConfig specification: {reason}"

inductive Ruling where
  | allowed
  | invalid (issues : List Issue)
  | refused (message : String)
deriving DecidableEq

def urlRuling (url invalidUrl forbiddenPassword : String) : Ruling :=
  match Net.proxyFault? url with
  | none => .allowed
  | some .unreadable => .refused invalidUrl
  | some .forbiddenPassword => .refused forbiddenPassword

/-- The ruling on the proxy of a specification; a secret counts before a URL. -/
def proxyRuling (spec : Spec) (ns : String) : Attempt Ruling :=
  match spec.proxy with
  | none => return .allowed
  | some proxy =>
    let secretName := proxy.valueFrom.getD ""
    let url := proxy.value.getD ""
    if secretName = "" then
      return if url = "" then .allowed else urlRuling url invalidProxyUrl invalidEvalCharacter
    else do
      match ← Attempt.ask (.readSecret secretName ns) with
      | .error f =>
        if f.isNotFound then return .refused missingProxySecret
        else if f.isClusterError then return .refused (unreadableProxySecret f.reason)
        else throw (.failure f)
      | .ok secret =>
        if (secret.data.lookup Names.proxyKey).isNone then return .refused invalidProxySecret
        else match secret.text Names.proxyKey with
          | .error e => throw e
          | .ok url => return urlRuling url invalidProxySecretUrl invalidProxySecretEvalCharacter

def review (spec : Json) (ns : String) : Attempt Ruling :=
  match Spec.check spec with
  | .invalid issues => return .invalid issues
  | .valid spec => proxyRuling spec ns

def issueSummary (count : Nat) (model : String) : String :=
  let noun := if count = 1 then "validation error" else "validation errors"
  s!"{count} {noun} for {model}"

def Ruling.message? : Ruling → Option String
  | .allowed => none
  | .invalid issues =>
    let summary := issueSummary issues.length "MonitoringConfigSpec"
    some s!"Invalid MonitoringConfig specification: {summary}"
  | .refused message => some message

end PodInstrumentation.Config
