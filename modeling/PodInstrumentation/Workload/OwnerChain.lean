import PodInstrumentation.Cluster.Call
import PodInstrumentation.Json.Printer
/-!
The workload that a pod belongs to. The chain of owners is followed through references that are
marked as controller and point at one of the well-known kinds of workload. It is followed for a
bounded number of steps and never twice through one reference. -/
namespace PodInstrumentation

/-- The kinds of workload that are followed: kind, API version, and the plural in REST paths. -/
def wellKnownWorkloads : List (String × String × String) := [
  ("ReplicaSet", "apps/v1", "replicasets"),
  ("Deployment", "apps/v1", "deployments"),
  ("ReplicationController", "v1", "replicationcontrollers"),
  ("StatefulSet", "apps/v1", "statefulsets"),
  ("DaemonSet", "apps/v1", "daemonsets"),
  ("Job", "batch/v1", "jobs"),
  ("CronJob", "batch/v1", "cronjobs"),
  ("DeploymentConfig", "apps.openshift.io/v1", "deploymentconfigs")]

def workloadPlural? (kind apiVersion : String) : Option String :=
  (wellKnownWorkloads.find? fun w => w.1 == kind && w.2.1 == apiVersion).map (·.2.2)

/-- The REST path of an object. Only the API version of the core group has no slash. -/
def objectPath (apiVersion plural name ns : String) : String :=
  let base := if apiVersion.toList.contains '/' then "apis" else "api"
  s!"/{base}/{apiVersion}/namespaces/{ns}/{plural}/{name}"

structure OwnerReference where
  kind : String
  apiVersion : String
  plural : String
  name : Option Json
deriving DecidableEq

namespace OwnerReference

/-- Lists and objects cannot be looked up. -/
def canBeKey : Json → Bool
  | .arr _ | .obj _ => false
  | _ => true

def ofJson (j : Json) : Shaped (Option OwnerReference) :=
  match j with
  | .obj fs =>
    let kind := (fs.lookup "kind").getD (.str "")
    let apiVersion := (fs.lookup "apiVersion").getD (.str "")
    if canBeKey kind && canBeKey apiVersion then
      match kind, apiVersion with
      | .str kind, .str apiVersion =>
        .ok ((workloadPlural? kind apiVersion).map fun plural =>
          { kind, apiVersion, plural, name := fs.lookup "name" })
      | _, _ => .ok none
    else misfit
  | _ => misfit

/-- The first reference that is marked as controller and points at a well-known workload, beside
the JSON that it was read from. -/
def findController : List Json → Shaped (Option (Json × OwnerReference))
  | [] => .ok none
  | j :: js => do
    if (← j.field "controller") = .bool true then
      match ← ofJson j with
      | some r => return some (j, r)
      | none => findController js
    else findController js

def key (r : OwnerReference) : String × String × Json :=
  (r.apiVersion, r.kind, r.name.getD (.str ""))

end OwnerReference

structure OwnerNode where
  name : Json
  kind : Json
  owners : Json
deriving DecidableEq

namespace OwnerNode

def workload (n : OwnerNode) : Workload :=
  ⟨n.name, if n.kind = .str Names.podKind then .str "" else n.kind⟩

def controller (n : OwnerNode) : Shaped (Option OwnerReference) := do
  return (← OwnerReference.findController (← n.owners.each)).map (·.2)

/-- The pod at the start of the chain; before it is named it has the name to be generated from. -/
def ofPod (pod : Json) : Shaped OwnerNode := do
  let metadata ← pod.part "metadata"
  let name := (← metadata.field "name").orElse
    ((← metadata.field "generateName").orElse (.str ""))
  let kind := (← pod.field "kind").orElse (.str Names.podKind)
  return ⟨name, kind, ← metadata.field "ownerReferences"⟩

def ofAnswer (kind : String) (name : Json) (answer : Json) : Shaped OwnerNode := do
  let metadata ← (answer.orElse .empty).part "metadata"
  return ⟨(← metadata.field "name").orElse name, .str kind, ← metadata.field "ownerReferences"⟩

end OwnerNode

namespace OwnerChain

def cycle (r : OwnerReference) (ns : String) (node : OwnerNode) : InjectionError :=
  let name := (r.name.getD (.str "")).display
  .ownerResolution s!"cycle in owner references at {r.kind} {name} in namespace {ns}"
    node.workload none

def tooLong (limit : Int) (node : OwnerNode) : InjectionError :=
  let kind := node.kind.display
  let name := node.name.display
  .ownerResolution s!"owner chain of {kind} {name} exceeds {limit} levels" node.workload none

def unreadable (r : OwnerReference) (name ns : String) (f : Failure) (node : OwnerNode) :
    InjectionError :=
  .ownerResolution s!"failed to query {r.kind} {name} in namespace {ns}: {f.reason}"
    node.workload (some (.failure f))

def readOwner (ns : String) (node : OwnerNode) (r : OwnerReference) : Attempt OwnerNode := do
  match r.name with
  | none => throw .misshapen
  | some name =>
    let path := objectPath r.apiVersion r.plural name.display ns
    match ← Attempt.ask (.readObject path) with
    | .ok answer => Attempt.ofShaped (OwnerNode.ofAnswer r.kind name answer)
    | .error f =>
      if f.isClusterError then Attempt.fail (unreadable r name.display ns f node)
      else throw (.failure f)

/-- Follows the chain from a node, `left` more references at most. -/
def walk (ns : String) (limit : Int) :
    (left : Nat) → (visited : List (String × String × Json)) → OwnerNode → Attempt Workload
  | left, visited, node => do
    match ← Attempt.ofShaped node.controller with
    | none => return node.workload
    | some r =>
      if !OwnerReference.canBeKey r.key.2.2 then throw .misshapen
      else if visited.contains r.key then Attempt.fail (cycle r ns node)
      else match left with
      | 0 => Attempt.fail (tooLong limit node)
      | left + 1 => do
        let owner ← readOwner ns node r
        walk ns limit left (r.key :: visited) owner

def resolve (ns : String) (limit : Int) (node : OwnerNode) : Attempt Workload :=
  walk ns limit limit.toNat [] node

def resolvePod (ns : String) (limit : Int) (pod : Json) : Attempt Workload := do
  resolve ns limit (← Attempt.ofShaped (OwnerNode.ofPod pod))

end OwnerChain

end PodInstrumentation
