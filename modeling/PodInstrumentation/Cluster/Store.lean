import PodInstrumentation.Cluster.Call
/-!
A cluster held in tables. It answers from them, stores the secrets that are created and keeps a
record of the calls; an entry that is missing answers with status 404. -/
namespace PodInstrumentation

abbrev Entry (α : Type) := Except Failure α

structure Store where
  namespaces : List (String × Entry Namespace)
  /-- Configurations, secrets and pods stand under `namespace/name`. -/
  configs : List (String × Entry Json)
  secrets : List (String × Entry Secret)
  /-- Objects stand under their REST paths. -/
  objects : List (String × Entry Json)
  pods : List (String × Entry (List String))
  createErrors : List (String × Failure)
  eventError : Option Failure
  calls : List ApiCall
  created : List SecretManifest
  events : List Event

namespace Store

def empty : Store := ⟨[], [], [], [], [], [], none, [], [], []⟩

def slot (ns name : String) : String := s!"{ns}/{name}"

def find {α : Type} (table : List (String × Entry α)) (key : String) : Entry α :=
  (table.lookup key).getD (.error (.status 404 (some "Not Found")))

def setEntry {α : Type} (key : String) (a : α) (table : List (String × α)) : List (String × α) :=
  (key, a) :: table.filter (·.1 != key)

def serve (s : Store) : (c : ApiCall) → Except Failure c.Answer × Store
  | .readNamespace name => (find s.namespaces name, s)
  | .readConfig name ns => (find s.configs (slot ns name), s)
  | .readSecret name ns => (find s.secrets (slot ns name), s)
  | .readObject path => (find s.objects path, s)
  | .readPod name ns => (find s.pods (slot ns name), s)
  | .createSecret m =>
    match s.createErrors.lookup (slot m.ns m.name) with
    | some f => (.error f, s)
    | none => (.ok (), { s with
        secrets := setEntry (slot m.ns m.name) (.ok ⟨m.data⟩) s.secrets
        created := s.created ++ [m] })
  | .createEvent e =>
    match s.eventError with
    | some f => (.error f, s)
    | none => (.ok (), { s with events := s.events ++ [e] })

/-- As `serve`, with the call put on record. -/
def answer (s : Store) (c : ApiCall) : Except Failure c.Answer × Store :=
  serve { s with calls := s.calls ++ [c] } c

def run {α : Type} (s : Store) (x : Interaction α) : α × Store := x.run answer s

def forget (s : Store) : Store := { s with calls := [], created := [], events := [] }

end Store

end PodInstrumentation
