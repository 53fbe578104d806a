import PodInstrumentation.Capability.Basic
/-!
First injections and repairs. In a first injection the capabilities run in a fixed order, since a
later one sees what an earlier one wrote; the first failure ends it, and the draft stays as it is
then. A pod that was injected before may have got new containers since: a repair gives each of
them the capabilities that the pod is marked with and the container lacks, and a second one finds
nothing to do. -/
namespace PodInstrumentation

def inject (j : Injector) (config : MonitoringConfig) (ns : String) :
    List Capability → Draft → Interaction (Except Fault (List String) × Draft)
  | [], d => return (.ok [], d)
  | c :: cs, d =>
    match c.enabled d.pod with
    | .error _ => return (.error .misshapen, d)
    | .ok false => inject j config ns cs d
    | .ok true => do
      match ← (c.prepare j config ns d.pod).run with
      | .error e => return (.error e, d)
      | .ok edit =>
        match edit.apply d with
        | (.error _, d') => return (.error .misshapen, d')
        | (.ok _, d') => do
          let (names, d'') ← inject j config ns cs d'
          return (names.map (c.name :: ·), d'')

def putInstaller (i : Nat) (installer : Json) (pod : Json) : Json :=
  match pod with
  | .obj fs =>
    match fs.lookup "spec" with
    | some (.obj spec) =>
      match spec.lookup "initContainers" with
      | some (.arr xs) =>
        .obj (Fields.put "spec" (.obj (Fields.put "initContainers" (.arr (xs.set i installer)) spec))
          fs)
      | _ => pod
    | _ => pod
  | _ => pod

/-- Gives one container what it lacks and answers whether it lacked anything. The init container
is looked for only when something is to be done. -/
def repairSite (j : Injector) (config : MonitoringConfig) (pod : Json)
    (installer? : Shaped (Option (Nat × Json))) (number : Int) : List Capability → Edit Site Bool
  | [] => return false
  | c :: cs => do
    let lacking ← Edit.look fun s => do
      if ← c.podInjected pod then return !(← c.containerInjected s.container) else return false
    if lacking then
      let found ← Edit.look fun _ => installer?
      c.reinvoke j config pod number found.isSome
      let _ ← repairSite j config pod installer? number cs
      return true
    else repairSite j config pod installer? number cs

def repair (j : Injector) (config : MonitoringConfig) (cs : List Capability) (pod : Json) :
    Shaped Nat × Json :=
  match Capability.wanted pod cs, Pod.containers pod >>= Json.each with
  | .ok enabled, .ok containers =>
    let installer? := Pod.findInstaller pod
    let (position, installer) := match installer? with
      | .ok (some (i, installer)) => (i, installer)
      | _ => (0, Json.null)
    let (count, containers', installer') :=
      sweep (fun i => repairSite j config pod installer? (i + 1) enabled) 0 containers installer
    let pod' := putContainers containers' pod
    match installer? with
    | .ok (some _) => (count, putInstaller position installer' pod')
    | _ => (count, pod')
  | _, _ => (misfit, pod)

end PodInstrumentation
