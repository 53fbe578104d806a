import PodInstrumentation.Json.Reader
/-!
How a call to the cluster can fail, and why an injection did not happen. An injection error has a
category and, where somebody can act on it, says what to do; every other fault is unexpected. None
of them denies a pod. -/
namespace PodInstrumentation

inductive Failure where
  | status (code : Int) (reason : Option String)
  | transport (text : String)
  | runtime (text : String)
  | timeout
  /-- No answer came before the deadline of the request. -/
  | hang
deriving DecidableEq, Repr

namespace Failure

/-- Failures of the cluster itself, which callers turn into errors of their own; all others pass. -/
def isClusterError : Failure → Bool
  | status .. | transport _ => true
  | runtime _ | timeout | hang => false

def isStatus (code : Int) : Failure → Bool
  | status c _ => c == code
  | _ => false

def isNotFound (f : Failure) : Bool := f.isStatus 404

def isConflict (f : Failure) : Bool := f.isStatus 409

/-- The deadline of a request is what ends a call that does not answer. -/
def isTimeout : Failure → Bool
  | timeout | hang => true
  | _ => false

def kind : Failure → String
  | status .. => "ApiException"
  | transport _ => "HTTPError"
  | runtime _ => "RuntimeError"
  | timeout | hang => "TimeoutError"

def text : Failure → String
  | status code reason =>
    let shown := reason.getD "None"
    s!"({code})\nReason: {shown}\n"
  | transport text | runtime text => text
  | timeout | hang => ""

def reason (f : Failure) : String :=
  match f with
  | status _ reason => reason.getD "None"
  | f => if f.text = "" then f.kind else f.text

end Failure

/-- The object that a pod belongs to; the kind is empty for a pod of its own. -/
structure Workload where
  name : Json
  kind : Json
deriving DecidableEq

inductive Cause where
  | failure (f : Failure)
  | unreadable (e : Json.ReadError)
  | invalidConfig
deriving DecidableEq

inductive InjectionError where
  | general (message category : String) (userAction : Option String) (cause : Option Cause)
  | decode (message : String) (cause : Option Cause)
  | configLookup (message : String) (cause : Option Cause)
  | configMissing (ns config : String)
  | provisioning (secret ns : String) (cause : Option Cause)
  | ownerResolution (message : String) (known : Workload) (cause : Option Cause)
  | nameCollision (kind name owner claimant : String)
deriving DecidableEq

namespace Json.ReadError

def kind : Json.ReadError → String
  | .refused .. => "JSONDecodeError"
  | .longInteger _ => "ValueError"
  | .undecodable => "UnicodeDecodeError"

def text (e : Json.ReadError) : String := e.message?.getD s!"<{e.kind}>"

end Json.ReadError

namespace Cause

def kind : Cause → String
  | failure f => f.kind
  | unreadable e => e.kind
  | invalidConfig => "ValidationError"

def text : Cause → String
  | failure f => f.text
  | unreadable e => e.text
  | invalidConfig => "<ValidationError>"

end Cause

namespace InjectionError

def kind : InjectionError → String
  | general .. => "InjectionError"
  | decode .. => "DecodeError"
  | configLookup .. => "ConfigLookupError"
  | configMissing .. => "ConfigMissingError"
  | provisioning .. => "ProvisioningError"
  | ownerResolution .. => "OwnerResolutionError"
  | nameCollision .. => "NameCollisionError"

def message : InjectionError → String
  | general message .. | decode message _ | configLookup message _ | ownerResolution message .. =>
    message
  | configMissing ns config =>
    s!"namespace '{ns}' is assigned to MonitoringConfig '{config}' but it doesn't exist"
  | provisioning secret ns cause =>
    s!"failed to provision secret {ns}/{secret}" ++ (cause.map fun c => s!": {c.text}").getD ""
  | nameCollision kind name owner claimant =>
    s!"{kind} name '{name}' is owned by '{owner}' and cannot be claimed by '{claimant}'"

def category : InjectionError → String
  | general _ category .. => category
  | decode .. => "decode"
  | configLookup .. | configMissing .. => "config"
  | provisioning .. => "provisioning"
  | ownerResolution .. => "owner"
  | nameCollision .. => "registry"

def userAction : InjectionError → Option String
  | general _ _ action _ => action
  | configLookup .. => some "Check RBAC permissions and cluster connectivity"
  | configMissing .. => some "Create the MonitoringConfig or fix the namespace label"
  | decode .. | provisioning .. | ownerResolution .. | nameCollision .. => none

def cause : InjectionError → Option Cause
  | general _ _ _ c | decode _ c | configLookup _ c | provisioning _ _ c | ownerResolution _ _ c =>
    c
  | configMissing .. | nameCollision .. => none

def text (e : InjectionError) : String :=
  match e.userAction with
  | some action => if action = "" then e.message else s!"{e.message}\nAction required: {action}"
  | none => e.message

end InjectionError

inductive Fault where
  | injection (e : InjectionError)
  | failure (f : Failure)
  | misshapen
  | undecodable
  | badBase64
  /-- A character outside ASCII in what should be base64. -/
  | foreignBase64
  | unreadable (e : Json.ReadError)
deriving DecidableEq

namespace Fault

def kind : Fault → String
  | injection e => e.kind
  | failure f => f.kind
  | misshapen => "ShapeError"
  | undecodable => "UnicodeDecodeError"
  | badBase64 => "Error"
  | foreignBase64 => "ValueError"
  | unreadable e => e.kind

def message? : Fault → Option String
  | injection e => some e.text
  | failure (.runtime text) => some text
  | foreignBase64 => some "string argument should contain only ASCII characters"
  | unreadable e => e.message?
  | failure _ | misshapen | undecodable | badBase64 => none

def text (f : Fault) : String := f.message?.getD s!"<{f.kind}>"

/-- Whether a fault is outside the injection errors. -/
def isUnexpected : Fault → Bool
  | injection _ => false
  | _ => true

end Fault

def Shaped.toFault {α : Type} : Shaped α → Except Fault α
  | .ok a => .ok a
  | .error _ => .error .misshapen

end PodInstrumentation
