import PodInstrumentation.Admission.Handler
import PodInstrumentation.Config.Webhook
import PodInstrumentation.Net.Duration
import PodInstrumentation.Net.Url
/-!
The web server of the webhook: reviews are posted to one path, and another tells that the server
is alive. -/
namespace PodInstrumentation.Admission

structure HttpRequest where
  method : String
  target : String
  body : List UInt8

inductive HttpBody where
  | text (s : String)
  | review (j : Json)

structure HttpAnswer where
  status : Nat
  body : HttpBody
  admission : Option (Report × Option Double)

namespace Server

def injectPath : String := "/inject"
def alivePath : String := "/livez"

def plain (status : Nat) (text : String) : HttpAnswer := ⟨status, .text text, none⟩

def notFound : HttpAnswer := plain 404 "404: Not Found"
def notAllowed : HttpAnswer := plain 405 "405: Method Not Allowed"

/-- The text of an error in a review; issues are told by their number. -/
def reviewErrorText (e : ReviewError) : String :=
  match e with
  | .invalid issues => Config.issueSummary issues.length "AdmissionRequest"
  | e => e.message?.getD ""

/-- The request in a body, or why there is none. The body is text before it is JSON. -/
def readBody (body : List UInt8) : Except String Request :=
  match Text.Utf8.decodeString body with
  | none => .error Json.ReadError.undecodable.text
  | some text =>
    match Json.parse text with
    | .error e => .error e.text
    | .ok review => (Request.ofReview review).mapError reviewErrorText

/-- The deadline in a query: that of the first `timeout`. -/
def deadlineOf (query : List (String × String)) : Option Double :=
  (query.lookup "timeout").bind Net.readDuration

def handleReview (h : Handler) (query : List (String × String)) (body : List UInt8) :
    Interaction (Shaped HttpAnswer) :=
  match readBody body with
  | .error reason => return .ok (plain 400 s!"malformed AdmissionReview: {reason}")
  | .ok request => do
    let deadline := deadlineOf query
    match ← h.handle request (deadline.map .exact) with
    | .error e => return .error e
    | .ok admission =>
      return .ok ⟨200, .review admission.verdict.response.review, some (admission, deadline)⟩

/-- Answers a request. What is got can also be asked for its head alone. -/
def respond (h : Handler) (request : HttpRequest) : Interaction (Shaped HttpAnswer) :=
  let target := Net.Target.ofText request.target
  if target.path = injectPath then
    if request.method = "POST" then handleReview h target.query request.body
    else return .ok notAllowed
  else if target.path = alivePath then
    return .ok (if ["GET", "HEAD"].contains request.method then plain 200 "ok" else notAllowed)
  else return .ok notFound

end Server

end PodInstrumentation.Admission
