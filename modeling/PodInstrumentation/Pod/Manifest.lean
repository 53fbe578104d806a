import PodInstrumentation.Json.Basic
import PodInstrumentation.Names
import PodInstrumentation.Text.Case
import PodInstrumentation.Text.Character
/-!
Reading and extending pod manifests. Settings that the annotations do not hold have a default, and
so have flags that are neither true nor false. Nothing that is there is overwritten: every change
appends to a list, and a list that is missing or null is begun. A change of a misshapen manifest
changes nothing. -/
namespace PodInstrumentation.Pod

def annotations (pod : Json) : Shaped Json := do
  (← pod.part "metadata").part "annotations"

/-- The value under a key, the default if there is none. Values that are no object have no value
under any key, and are misshapen if they contain the key all the same. -/
def setting (values : Json) (key : String) (absent : Json) : Shaped Json :=
  if values.isSet then
    match values with
    | .obj fs => .ok ((fs.lookup key).getD absent)
    | .str s => if Text.occursIn key.toList s.toList then misfit else .ok absent
    | .arr xs => if xs.contains (.str key) then misfit else .ok absent
    | _ => misfit
  else .ok absent

/-- True or false, in any case of letters and with blanks around it. -/
def readFlag (s : String) : Option Bool :=
  let w := Text.lower (Text.trim s)
  if w = "true" then some true else if w = "false" then some false else none

/-- The flag under a key, none if it is neither true nor false. -/
def flag? (values : Json) (key : String) : Shaped (Option Bool) := do
  return readFlag (← (← setting values key (.str "")).asText)

def flag (pod : Json) (key : String) (absent : Bool) : Shaped Bool := do
  return (← flag? (← annotations pod) key).getD absent

def isInjected (pod : Json) : Shaped Bool := do
  return (← (← annotations pod).field Names.injected).isSet

/-- What the installer does about a failure of its own: `fail`, or `silent` by default. -/
def failurePolicy (pod : Json) : Shaped String := do
  let policy ← setting (← annotations pod) Names.failurePolicy (.str "silent")
  return if policy = .str "fail" then "fail" else "silent"

example : readFlag " TRUE\n" = some true := by decide +kernel
example : readFlag "yes" = none := by decide +kernel

/-- The containers of a pod as they stand: null or nothing counts as none. -/
def containers (pod : Json) : Shaped Json := do
  return (← (← pod.part "spec").field "containers").orElse (.arr [])

/-- Whether one of the items has the name; later items are not looked at. -/
def anyNamed (name : String) : List Json → Shaped Bool
  | [] => .ok false
  | x :: xs => do
    if (← x.field "name") = .str name then return true else anyNamed name xs

def hasNamed (owner : Json) (list name : String) : Shaped Bool := do
  anyNamed name (← (← owner.field list).each)

def hasEnv (container : Json) (name : String) : Shaped Bool := hasNamed container "env" name

def hasMount (container : Json) (name : String) : Shaped Bool :=
  hasNamed container "volumeMounts" name

def hasVolume (pod : Json) (name : String) : Shaped Bool := do
  hasNamed (← pod.part "spec") "volumes" name

def findNamed (name : String) (i : Nat) : List Json → Shaped (Option (Nat × Json))
  | [] => .ok none
  | x :: xs => do
    if (← x.field "name") = .str name then return some (i, x) else findNamed name (i + 1) xs

/-- The init container that an earlier injection added. -/
def findInstaller (pod : Json) : Shaped (Option (Nat × Json)) := do
  findNamed Names.installer 0 (← (← (← pod.part "spec").field "initContainers").each)

def beforeLastDash (name : List Char) : List Char :=
  match name.reverse.dropWhile (· != '-') with
  | [] => name
  | _ :: r => r.reverse

/-- The name of a pod without the suffix that the cluster generates. -/
def baseName (pod : Json) : Shaped String := do
  let metadata ← pod.part "metadata"
  let name := (← metadata.field "generateName").orElse
    ((← metadata.field "name").orElse (.str ""))
  return String.ofList (beforeLastDash (← name.asText).toList)

/-- The name of a pod for messages: the generated one if it has no other, else the given one. -/
def displayName (pod : Json) (otherwise : String) : Shaped Json := do
  let metadata ← (pod.orElse .empty).part "metadata"
  return (← metadata.field "name").orElse ((← metadata.field "generateName").orElse
    (.str otherwise))

def appended (list : Json) (items : List Json) : Shaped Json :=
  match list with
  | .null => .ok (.arr items)
  | .arr xs => .ok (.arr (xs ++ items))
  | _ => misfit

def append (list : String) (items : List Json) (owner : Json) : Shaped Json :=
  match owner with
  | .obj fs => do
    let xs ← appended ((fs.lookup list).getD .null) items
    return .obj (Fields.put list xs fs)
  | _ => misfit

/-- Changes a part of a pod, which is begun if it is missing. -/
def changePart (part : String) (change : Json → Shaped Json) (pod : Json) : Shaped Json :=
  match pod with
  | .obj fs => do
    let p ← change ((fs.lookup part).getD .empty)
    return .obj (Fields.put part p fs)
  | _ => misfit

def appendEnv (vars : List Json) : Json → Shaped Json := append "env" vars

def appendMounts (mounts : List Json) : Json → Shaped Json := append "volumeMounts" mounts

def appendVolumes (volumes : List Json) : Json → Shaped Json :=
  changePart "spec" (append "volumes" volumes)

def addInstaller (installer : Json) : Json → Shaped Json :=
  changePart "spec" (append "initContainers" [installer])

/-- An object with one more member; it is begun if it is null. -/
def withMember (key : String) (value : Json) : Json → Shaped Json
  | .null => .ok (.obj [(key, value)])
  | .obj fs => .ok (.obj (Fields.put key value fs))
  | _ => misfit

def annotate (key value : String) : Json → Shaped Json :=
  changePart "metadata" fun metadata =>
    match metadata with
    | .obj fs => do
      let annotations ← withMember key (.str value) ((fs.lookup "annotations").getD .null)
      return .obj (Fields.put "annotations" annotations fs)
    | _ => misfit

def envVar (name : String) (value : Json) : Json := .obj [("name", .str name), ("value", value)]

def fieldVar (name path : String) : Json :=
  .obj [
    ("name", .str name),
    ("valueFrom", .obj [("fieldRef", .obj [("fieldPath", .str path)])])]

def secretVar (name secret key : String) : Json :=
  .obj [
    ("name", .str name),
    ("valueFrom", .obj [("secretKeyRef", .obj [("name", .str secret), ("key", .str key)])])]

def mount (volume path : String) : Json :=
  .obj [("name", .str volume), ("mountPath", .str path)]

def mountPart (volume path part : String) : Json :=
  .obj [("name", .str volume), ("mountPath", .str path), ("subPath", .str part)]

def emptyVolume (name : String) : Json := .obj [("name", .str name), ("emptyDir", .empty)]

def secretVolume (name secret : String) : Json :=
  .obj [("name", .str name), ("secret", .obj [("secretName", .str secret)])]

def addConfigVolume (pod : Json) : Shaped Json := do
  if ← hasVolume pod Names.configVolume then return pod
  else appendVolumes [secretVolume Names.configVolume Names.initSecret] pod

end PodInstrumentation.Pod
