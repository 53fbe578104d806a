import PodInstrumentation.Capability.Basic
/-!
Who writes which name into pods. Capabilities append to shared lists, so two of them that write
the same variable or volume would leave it there twice; a registry gives every name one owner. -/
namespace PodInstrumentation

structure Declaration where
  name : String
  vars : List String
  volumes : List String
deriving DecidableEq

def Capability.declaration (c : Capability) : Declaration := ⟨c.name, c.ownedVars, c.ownedVolumes⟩

/-- Owners of names, by kind of name and name. -/
abbrev Registry := List ((String × String) × String)

namespace Registry

def coreVars : List String := [
  Names.countVar, Names.failurePolicyVar, Names.podNameVar, Names.podUidVar, Names.basePodNameVar,
  Names.namespaceVar, Names.nodeNameVar, Names.metadataVar]

def coreVolumes : List String := [Names.configVolume]

def varKind : String := "env"
def volumeKind : String := "volume"

def empty : Registry := []

def owner? (r : Registry) (kind name : String) : Option String := r.lookup (kind, name)

/-- Whether a name is kept for the variables that describe containers. -/
def isReserved (kind name owner : String) : Bool :=
  kind == varKind && owner != Names.core && Names.containerVarStart.toList.isPrefixOf name.toList

def claimOne (r : Registry) (kind name owner : String) : Except InjectionError Registry :=
  if isReserved kind name owner then .error (.nameCollision kind name Names.core owner)
  else match r.owner? kind name with
  | none => .ok (((kind, name), owner) :: r)
  | some current =>
    if current = owner then .ok r else .error (.nameCollision kind name current owner)

/-- Claims names one by one; those before a refused one stay claimed. -/
def claim (r : Registry) (kind : String) (names : List String) (owner : String) :
    Except InjectionError Unit × Registry :=
  match names with
  | [] => (.ok (), r)
  | name :: rest =>
    match r.claimOne kind name owner with
    | .error e => (.error e, r)
    | .ok r' => claim r' kind rest owner

/-- As `claim`, with the registry only if all names are claimed. -/
def claimAll (r : Registry) (kind : String) (names : List String) (owner : String) :
    Except InjectionError Registry :=
  match r.claim kind names owner with
  | (.ok _, r') => .ok r'
  | (.error e, _) => .error e

def addAll (r : Registry) : List Declaration → Except InjectionError Registry
  | [] => .ok r
  | d :: ds => do
    let r ← r.claimAll varKind d.vars d.name
    let r ← r.claimAll volumeKind d.volumes d.name
    addAll r ds

def core : Registry :=
  coreVars.map (fun v => ((varKind, v), Names.core))
    ++ coreVolumes.map (fun v => ((volumeKind, v), Names.core))

def ofDeclarations (ds : List Declaration) : Except InjectionError Registry := core.addAll ds

end Registry

end PodInstrumentation
