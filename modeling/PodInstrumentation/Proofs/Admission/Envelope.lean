import PodInstrumentation.Admission.Review
import PodInstrumentation.Proofs.Json.Printing
/-!
What travels inside an admission review. The patch of an answer and the object of a request are
written down as text, bytes and letters; both are whole again once they are read. -/
namespace PodInstrumentation.Admission

open Config (Checked)

namespace Response

theorem patch_review (r : Response) :
    (r.review.get "response").get? "patch" =
      if r.patched then some (.str r.patchText) else none := by
  unfold review
  by_cases patched : r.patched <;>
    by_cases silent : r.message.getD "" = "" <;>
      simp [Json.get, Json.get?, patched, silent, List.lookup_cons]

theorem patchText_reads {longest : Option Nat} {r : Response}
    (carried : ∀ op ∈ r.patch, (Json.obj op).Carried longest) :
    ∃ bytes, Text.Base64.decode r.patchText.toList = some bytes ∧
      Json.ofBytesWithin longest bytes = .ok (.arr (r.patch.map .obj)) := by
  have whole : (Json.arr (r.patch.map .obj)).Carried longest :=
    .arr (List.forall_mem_map.mpr carried)
  refine ⟨_, ?_, Json.ofBytesWithin_encode whole⟩
  rw [patchText, String.toList_ofList, Text.Base64.decode_encode]

end Response

theorem Request.object_ofReview {review : Json} {request : Request}
    (accepted : Request.ofReview review = .ok request) :
    request.object = objectBytes ((review.get "request").get "object") := by
  unfold Request.ofReview at accepted
  split at accepted
  · rename_i fs asked
    dsimp only at accepted
    split at accepted
    · cases accepted
    · split at accepted
      · rename_i valid
        cases accepted
        have held : review.get "request" = .obj fs := by
          rw [Json.get, asked]
          rfl
        rw [held]
        have kept : ∀ (a b c d : Checked String) {dryRun : Bool} {bytes : List UInt8},
            (Request.mk · · · · dryRun bytes) <$> a <*> b <*> c <*> d = .valid request →
            request.object = bytes := by
          intro a b c d dryRun bytes same
          cases a <;> cases b <;> cases c <;> cases d <;> cases same
          rfl
        exact kept _ _ _ _ valid
      · cases accepted
  · cases accepted

/-- Nothing is lost on the way. An answer holds a patch exactly if there are operations, and its
letters read back as these; the object of an accepted request reads back as it was sent. -/
theorem envelope_keeps (longest : Option Nat) :
    (∀ response : Response, (∀ op ∈ response.patch, (Json.obj op).Carried longest) →
      (((response.review.get "response").get? "patch").isSome ↔ response.patch ≠ []) ∧
      ∀ member, (response.review.get "response").get? "patch" = some member →
        ∃ text bytes, member = .str text ∧ Text.Base64.decode text.toList = some bytes ∧
          Json.ofBytesWithin longest bytes = .ok (.arr (response.patch.map .obj))) ∧
    ∀ review request object, Request.ofReview review = .ok request →
      (review.get "request").get? "object" = some object → object ≠ .null →
      object.Carried longest → Json.ofBytesWithin longest request.object = .ok object := by
  refine ⟨fun response carried => ⟨?_, ?_⟩, ?_⟩
  · rw [response.patch_review]
    cases shape : response.patch <;> simp [Response.patched, shape]
  · intro member found
    rw [response.patch_review] at found
    split at found
    · obtain ⟨bytes, letters, read⟩ := Response.patchText_reads carried
      cases found
      exact ⟨_, bytes, rfl, letters, read⟩
    · cases found
  · intro review request object accepted held some carried
    rw [Request.object_ofReview accepted, Json.get, held, Option.getD_some, objectBytes,
      if_neg some]
    exact Json.ofBytesWithin_encode carried

def labelling : Response where
  uid := "u-1"
  allowed := true
  patch := [[("op", .str "add"), ("path", .str "/metadata/labels"),
    ("value", .arr [.str "\t\"\\ é 𝄞", .int (-36893488147419103232), .obj [], .null])]]
  message := none

def namedReview : Json := .obj [("request", .obj [
  ("uid", .str "u-1"), ("object", .obj [("kind", .str "Pod"), ("name", .str "é\n")])])]

theorem carried_labelling : ∀ op ∈ labelling.patch,
    (Json.obj op).Carried (some Number.digitLimit) := by
  have value : (Json.arr [.str "\t\"\\ é 𝄞", .int (-36893488147419103232), .obj [], .null]).Carried
      (some Number.digitLimit) := by
    refine .arr ?_
    simp only [List.forall_mem_cons, List.not_mem_nil, false_implies, implies_true, and_true]
    exact ⟨.str _, .int (by decide), .obj (by decide) (by simp), .null⟩
  refine List.forall_mem_singleton.mpr (.obj (by decide) ?_)
  simp only [List.forall_mem_cons, List.not_mem_nil, false_implies, implies_true, and_true]
  exact ⟨.str _, .str _, value⟩

theorem envelope_keeps_labelling :
    (∃ text bytes, (labelling.review.get "response").get? "patch" = some (.str text) ∧
      Text.Base64.decode text.toList = some bytes ∧
      Json.ofBytes bytes = .ok (.arr (labelling.patch.map .obj))) ∧
    ∃ request, Request.ofReview namedReview = .ok request ∧
      Json.ofBytes request.object = .ok ((namedReview.get "request").get "object") := by
  obtain ⟨answers, requests⟩ := envelope_keeps (some Number.digitLimit)
  obtain ⟨present, reads⟩ := answers labelling carried_labelling
  obtain ⟨member, found⟩ := Option.isSome_iff_exists.mp (present.mpr (by simp [labelling]))
  obtain ⟨text, bytes, rfl, letters, read⟩ := reads member found
  have carried : (Json.obj [("kind", .str "Pod"), ("name", .str "é\n")]).Carried
      (some Number.digitLimit) := by
    refine .obj (by decide) ?_
    simp only [List.forall_mem_cons, List.not_mem_nil, false_implies, implies_true, and_true]
    exact ⟨.str _, .str _⟩
  exact ⟨⟨text, bytes, found, letters, read⟩, _, rfl,
    requests namedReview _ (.obj [("kind", .str "Pod"), ("name", .str "é\n")]) rfl rfl nofun
      carried⟩

end PodInstrumentation.Admission
