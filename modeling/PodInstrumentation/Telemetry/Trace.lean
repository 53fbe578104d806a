import PodInstrumentation.Json.Basic
/-!
Tracing. A span says what was done, on what, and how it ended; a provider that exports spans is
set up at most once until it is shut down. -/
namespace PodInstrumentation

inductive SpanStatus where
  | unset | ok | error
deriving DecidableEq, Repr

structure Span where
  name : String
  kind : String
  attributes : Fields
  status : SpanStatus
  description : Option String
  events : List String
deriving DecidableEq

namespace Span

def server : String := "SERVER"

def simpleKind? : Json → Option Nat
  | .bool _ => some 0
  | .int _ => some 1
  | .float _ => some 2
  | .str _ => some 3
  | .null | .arr _ | .obj _ => none

/-- Whether a value can be an attribute: a simple value, or a list of simple values of one kind in
which nulls may stand. -/
def isAttribute : Json → Bool
  | .null | .obj _ => false
  | .arr xs =>
    let kinds := (xs.filter (· != .null)).map simpleKind?
    kinds.all fun k => k.isSome && k == kinds.head?.getD none
  | _ => true

def unknown : Json := .str "unknown"

def attributesOf (fs : Fields) : Fields := fs.filter fun f => isAttribute f.2

/-- The span of a handler that was called with named arguments; `failure` is the kind and text of
what it raised. -/
def ofHandler (operation handler : String) (arguments : Fields)
    (failure : Option (String × String)) : Span :=
  let argument (name : String) := ((arguments.lookup name).getD .null).orElse unknown
  { name := operation
    kind := server
    attributes := attributesOf [
      ("k8s.namespace", argument "namespace"),
      ("k8s.resource.name", argument "name"),
      ("kopf.handler", .str handler)]
    status := if failure.isSome then .error else .ok
    description := failure.map fun (kind, text) => s!"{kind}: {text}"
    events := if failure.isSome then ["exception", "exception"] else [] }

end Span

structure TracingOptions where
  enabled : Bool
  endpoint : String
  serviceName : String
  sampleRate : Double
  insecure : Bool
deriving DecidableEq

namespace TracingOptions

def default : TracingOptions :=
  ⟨false, "http://localhost:4317", "injection-operator", .ofFloat 1, true⟩

def rateOk (o : TracingOptions) : Bool :=
  let rate := o.sampleRate.toFloat
  !(rate < 0) && !(rate > 1)

def resource (o : TracingOptions) : Fields := [
  ("service.name", .str (if o.serviceName = "" then "unknown_service" else o.serviceName)),
  ("service.namespace", .str "injection-operator"),
  ("deployment.environment", .str "kubernetes")]

end TracingOptions

/-- A provider is known by its number, counted in the order in which providers are made. -/
structure Tracing where
  initialized : Bool
  active : Option (Nat × TracingOptions)
  made : List TracingOptions
deriving DecidableEq

namespace Tracing

def initial : Tracing := ⟨false, none, []⟩

inductive Error where
  | badSampleRate
deriving DecidableEq, Repr

def Error.message : Error → String
  | badSampleRate => "Probability must be in range [0.0, 1.0]."

def setup (t : Tracing) (o : TracingOptions) : Except Error Tracing :=
  if t.initialized then .ok t
  else if !o.enabled then .ok { t with initialized := true }
  else if !o.rateOk then .error .badSampleRate
  else .ok ⟨true, some (t.made.length, o), t.made ++ [o]⟩

def shutdown (t : Tracing) : Tracing := { t with initialized := false, active := none }

end Tracing

end PodInstrumentation
