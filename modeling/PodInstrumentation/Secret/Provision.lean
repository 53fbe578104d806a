import PodInstrumentation.Cluster.Call
import PodInstrumentation.Config.MonitoringConfig
import PodInstrumentation.Json.Printer
/-!
The secrets that injected pods refer to. A secret that exists in the namespace of the pod is left
as it is; a missing one is created from the configuration and the secret with the API tokens. -/
namespace PodInstrumentation

structure Provisioner where
  ns : String
  clusterId : String
deriving DecidableEq

inductive SupportSecret where
  | init
  | endpoint
deriving DecidableEq, Repr

namespace SupportSecret

def name : SupportSecret → String
  | init => Names.initSecret
  | endpoint => Names.endpointSecret

end SupportSecret

namespace Provisioner

def readSecret (name ns : String) : Attempt Secret := do
  match ← Attempt.ask (.readSecret name ns) with
  | .ok secret => return secret
  | .error f => throw (.failure f)

def textOf (secret : Secret) (key : String) : Attempt String :=
  ExceptT.mk (pure (secret.text key))

/-- The URL of the proxy; empty if there is none. A secret counts before a URL. -/
def proxyText (p : Provisioner) (config : MonitoringConfig) : Attempt String :=
  match config.spec.proxy with
  | none => return ""
  | some proxy =>
    let secretName := proxy.valueFrom.getD ""
    if secretName = "" then return proxy.value.getD ""
    else do
      let secret ← readSecret secretName p.ns
      textOf secret Names.proxyKey

def injectionConfig (p : Provisioner) (config : MonitoringConfig) (token proxy : String) : Json :=
  .obj [
    ("apiUrl", .str config.spec.apiUrl),
    ("apiToken", .str token),
    ("networkZone", .str (config.spec.networkZone.getD "")),
    ("skipCertCheck", .bool config.spec.skipCertCheck),
    ("clusterID", .str p.clusterId),
    ("monitoringConfig", .str config.name),
    ("hasProxy", .bool (proxy != ""))]

def initData (p : Provisioner) (config : MonitoringConfig) : Attempt (List (String × String)) := do
  let tokens ← readSecret config.tokensSecret p.ns
  let proxy ← p.proxyText config
  let token ← textOf tokens Names.apiTokenKey
  return [(Names.configKey, (p.injectionConfig config token proxy).print), (Names.proxyKey, proxy)]

def endpointData (p : Provisioner) (config : MonitoringConfig) :
    Attempt (List (String × String)) := do
  let tokens ← readSecret config.tokensSecret p.ns
  let token ← textOf tokens Names.ingestTokenKey
  return [(Names.endpointKey,
    s!"METRICS_INGEST_URL={config.spec.apiUrl}/v2/metrics/ingest\n" ++
    s!"METRICS_INGEST_API_TOKEN={token}\n")]

def data (p : Provisioner) (config : MonitoringConfig) :
    SupportSecret → Attempt (List (String × String))
  | .init => p.initData config
  | .endpoint => p.endpointData config

def create (p : Provisioner) (config : MonitoringConfig) (ns : String) (which : SupportSecret) :
    Attempt Unit := do
  let data ← p.data config which
  let manifest := { name := which.name, ns, data := data.map fun d => (d.1, Secret.encode d.2) }
  match ← Attempt.ask (.createSecret manifest) with
  | .ok _ => return ()
  | .error f => throw (.failure f)

def failed (which : SupportSecret) (ns : String) (f : Failure) : InjectionError :=
  .provisioning which.name ns (some (.failure f))

/-- What a fault during creation means: a conflict that somebody else created the secret, any
other failure of the cluster that it could not be provided. -/
def onFault (which : SupportSecret) (ns : String) (e : Fault) : Attempt Unit :=
  match e with
  | .failure f =>
    if f.isConflict then return ()
    else if f.isClusterError then Attempt.fail (failed which ns f)
    else throw e
  | e => throw e

def ensure (p : Provisioner) (config : MonitoringConfig) (ns : String) (which : SupportSecret) :
    Attempt Unit := do
  match ← Attempt.ask (.readSecret which.name ns) with
  | .ok _ => return ()
  | .error f =>
    if f.isNotFound then tryCatch (p.create config ns which) (onFault which ns)
    else if f.isClusterError then Attempt.fail (failed which ns f)
    else throw (.failure f)

end Provisioner

end PodInstrumentation
