import PodInstrumentation.Fault
import PodInstrumentation.Json.Basic
import PodInstrumentation.Names
import PodInstrumentation.Text.Character
import PodInstrumentation.Text.Encoding
/-!
Conversations with the cluster. An `Interaction` says which calls are made, in which order, and
what each answer leads to; how a cluster answers is left open. Among what is posted are events
about the objects of an injection: an event is named after its object, and the suffix of the name
and the time are put in when it is posted. -/
namespace PodInstrumentation

structure Event where
  nameStart : String
  ns : Json
  type : String
  reason : String
  message : String
  involved : Json
  component : String
deriving DecidableEq

structure Stamp where
  suffix : String
  time : String

namespace Event

/-- An event about an object that has a name and a namespace. Pods are admitted before they have
a name, so the dashes at the end of a generated name are dropped. -/
def about (component : String) (involved : Json) (type reason message : String) :
    Shaped Event := do
  let name ← (← involved.member "name").asText
  let ns ← involved.member "namespace"
  let bare := String.ofList (Text.dropEnd (· == '-') name.toList)
  return { nameStart := if bare = "" then component else bare
           ns, type, reason, message, involved, component }

def json (e : Event) (stamp : Stamp) : Json :=
  .obj [
    ("metadata", .obj [("name", .str s!"{e.nameStart}.{stamp.suffix}"), ("namespace", e.ns)]),
    ("type", .str e.type),
    ("reason", .str e.reason),
    ("message", .str e.message),
    ("involvedObject", e.involved),
    ("source", .obj [("component", .str e.component)]),
    ("firstTimestamp", .str stamp.time),
    ("lastTimestamp", .str stamp.time),
    ("count", .int 1)]

def configReference (name ns : String) : Json :=
  .obj [
    ("apiVersion", .str s!"{Names.configGroup}/{Names.configVersion}"),
    ("kind", .str Names.configKind),
    ("name", .str name),
    ("namespace", .str ns)]

end Event

/-- What is read of a namespace: nothing, if it has no metadata. -/
structure Namespace where
  metadata? : Option (List (String × String) × Option String)
deriving DecidableEq

structure Secret where
  data : List (String × String)
deriving DecidableEq

/-- A secret to be created; the values of `data` are in base64. -/
structure SecretManifest where
  name : String
  ns : String
  data : List (String × String)
deriving DecidableEq

def SecretManifest.json (m : SecretManifest) : Json :=
  .obj [
    ("metadata", .obj [
      ("name", .str m.name),
      ("namespace", .str m.ns),
      ("labels", .obj [(Names.managedByLabel, .str Names.managedByValue)])]),
    ("type", .str "Opaque"),
    ("data", .obj (m.data.map fun p => (p.1, .str p.2)))]

inductive ApiCall where
  | readNamespace (name : String)
  | readConfig (name ns : String)
  | readSecret (name ns : String)
  | createSecret (manifest : SecretManifest)
  | readObject (path : String)
  | createEvent (event : Event)
  | readPod (name ns : String)
deriving DecidableEq

abbrev ApiCall.Answer : ApiCall → Type
  | readNamespace _ => Namespace
  | readConfig .. => Json
  | readSecret .. => Secret
  | createSecret _ => Unit
  | readObject _ => Json
  | createEvent _ => Unit
  | readPod .. => List String

inductive Interaction (α : Type) where
  | done (a : α)
  | call (c : ApiCall) (next : Except Failure c.Answer → Interaction α)

namespace Interaction

variable {α β σ : Type}

def bind : Interaction α → (α → Interaction β) → Interaction β
  | done a, f => f a
  | call c next, f => call c fun r => bind (next r) f

instance : Monad Interaction where
  pure := done
  bind := bind

def ask (c : ApiCall) : Interaction (Except Failure c.Answer) := call c done

/-- The result of an interaction with a cluster of the given behaviour, and the state after it. -/
def run (answer : σ → (c : ApiCall) → Except Failure c.Answer × σ) : Interaction α → σ → α × σ
  | done a, s => (a, s)
  | call c next, s =>
    let (r, s') := answer s c
    run answer (next r) s'

theorem bind_done (x : Interaction α) : x.bind done = x := by
  induction x with
  | done a => rfl
  | call c next ih => exact congrArg (call c) (funext ih)

theorem bind_assoc {γ : Type} (x : Interaction α) (f : α → Interaction β) (g : β → Interaction γ) :
    (x.bind f).bind g = x.bind fun a => (f a).bind g := by
  induction x with
  | done a => rfl
  | call c next ih => exact congrArg (call c) (funext ih)

instance : LawfulMonad Interaction :=
  LawfulMonad.mk' Interaction bind_done (fun _ _ => rfl) bind_assoc

theorem run_bind (answer : σ → (c : ApiCall) → Except Failure c.Answer × σ) (x : Interaction α)
    (f : α → Interaction β) (s : σ) :
    (x.bind f).run answer s =
      (f (x.run answer s).1).run answer (x.run answer s).2 := by
  induction x generalizing s with
  | done a => rfl
  | call c next ih => exact ih _ _

end Interaction

abbrev Attempt := ExceptT Fault Interaction

namespace Attempt

variable {α : Type}

def ask (c : ApiCall) : Attempt (Except Failure c.Answer) := ExceptT.lift (Interaction.ask c)

def ofShaped (x : Shaped α) : Attempt α := ExceptT.mk (pure x.toFault)

def fail (e : InjectionError) : Attempt α := throw (.injection e)

end Attempt

namespace Secret

/-- The text under a key of a secret; empty if the key is missing. -/
def text (s : Secret) (key : String) : Except Fault String :=
  match s.data.lookup key with
  | none => .ok ""
  | some coded =>
    if coded.toList.any (127 < ·.toNat) then .error .foreignBase64
    else match Text.Base64.decode coded.toList with
      | none => .error .badBase64
      | some bytes => match Text.Utf8.decodeString bytes with
        | none => .error .undecodable
        | some text => .ok text

def encode (text : String) : String :=
  String.ofList (Text.Base64.encode (Text.Utf8.encode text.toList))

end Secret

end PodInstrumentation
