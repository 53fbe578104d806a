import PodInstrumentation.Config.Issue
import PodInstrumentation.Json.Patch
import PodInstrumentation.Text.Encoding
/-!
Admission reviews, as the API server sends and expects them. The admitted object travels as the
bytes of its JSON text, so that a patch is computed against exactly what was sent. -/
namespace PodInstrumentation.Admission

open Config (Checked Issue)

structure Request where
  uid : String
  ns : String
  name : String
  operation : String
  dryRun : Bool
  /-- The JSON text of the admitted object, empty if there is none. -/
  object : List UInt8
deriving DecidableEq

inductive ReviewError where
  | noRequest
  | noUid
  | invalid (issues : List Issue)
deriving DecidableEq

def ReviewError.message? : ReviewError → Option String
  | noRequest => some "AdmissionReview body does not contain a request"
  | noUid => some "AdmissionReview request has no uid"
  | invalid _ => none

def objectBytes (object : Json) : List UInt8 :=
  if object = .null then [] else Text.Utf8.encode object.chars

def textOr (fs : Fields) (key absent : String) : Checked String :=
  (Config.text (((fs.lookup key).getD .null).orElse (.str absent))).within (.key key)

def Request.ofReview (review : Json) : Except ReviewError Request :=
  match review.get? "request" with
  | some (.obj fs) =>
    let uid := (fs.lookup "uid").getD .null
    if !uid.isSet then .error .noUid
    else
      let dryRun := ((fs.lookup "dryRun").getD .null).isSet
      let object := objectBytes ((fs.lookup "object").getD .null)
      let checked := (Request.mk · · · · dryRun object)
        <$> (Config.text uid).within (.key "uid")
        <*> textOr fs "namespace" ""
        <*> textOr fs "name" ""
        <*> textOr fs "operation" "CREATE"
      match checked with
      | .valid request => .ok request
      | .invalid issues => .error (.invalid issues)
  | _ => .error .noRequest

structure Response where
  uid : String
  allowed : Bool
  patch : List Fields
  message : Option String
deriving DecidableEq

namespace Response

def patched (r : Response) : Bool := !r.patch.isEmpty

def operations (j : Json) : Checked (List Fields) :=
  (Config.list j).andThen fun xs =>
    Checked.each Config.object (xs.mapIdx fun i x => (.index i, x))

def check (fs : Fields) : Checked Response :=
  Response.mk <$> Config.required fs "uid" "uid" Config.text
    <*> Config.optional fs "allowed" "allowed" true Config.bool
    <*> Config.optional fs "patch" "patch" [] operations
    <*> Config.optional fs "message" "message" none (Config.nullable Config.text)

def patchText (r : Response) : String :=
  let text := Json.chars (.arr (r.patch.map Json.obj))
  String.ofList (Text.Base64.encode (Text.Utf8.encode text))

def review (r : Response) : Json :=
  let patch := if r.patched then [("patchType", .str "JSONPatch"), ("patch", .str r.patchText)]
    else []
  let message := r.message.getD ""
  let status := if message = "" then [] else [("status", .obj [("message", .str message)])]
  .obj [
    ("apiVersion", .str "admission.k8s.io/v1"),
    ("kind", .str "AdmissionReview"),
    ("response", .obj ([("uid", .str r.uid), ("allowed", .bool r.allowed)] ++ patch ++ status))]

end Response

end PodInstrumentation.Admission
