import PodInstrumentation.Admission.Server
import PodInstrumentation.Cluster.Store
import PodInstrumentation.Proofs.Outcome
/-!
Which requests are answered. Whatever the cluster does, every fault on the way ends in an allowed
response; the one thing that is looked at before any fault can be caught is the name of the pod, and
for it the metadata of the pod must be an object if there are any. -/
namespace PodInstrumentation.Admission

namespace Handler

/-- The pod of the request has metadata of some kind that are no object. -/
def Misnamed (request : Request) : Prop :=
  ∃ pod, decode request.object = .ok pod ∧ (pod.get "metadata").isSet = true ∧
    (pod.get "metadata").fields? = none

theorem decode_eq_ok_iff {object : List UInt8} {pod : Json} :
    decode object = .ok pod ↔ Json.ofBytes object = .ok pod ∧ (∃ fs, pod = .obj fs) ∧
      (pod.get? "kind").getD (.str Names.podKind) = .str Names.podKind := by
  unfold decode
  cases read : Json.ofBytes object with
  | error e => exact ⟨nofun, fun h => (nomatch h.1)⟩
  | ok j =>
    cases j with
    | obj fs =>
      dsimp only
      split
      · rename_i kind
        constructor
        · intro h
          cases h
          exact ⟨rfl, ⟨fs, rfl⟩, kind⟩
        · rintro ⟨same, -⟩
          cases same
          rfl
      · rename_i kind
        refine ⟨nofun, fun ⟨h, _, pods⟩ => ?_⟩
        cases h
        exact absurd pods kind
    | null | bool | int | float | str | arr =>
      refine ⟨nofun, fun ⟨h, ⟨_, object⟩, _⟩ => ?_⟩
      rw [object] at h
      cases h

theorem displayName_eq_error_iff (fs : Fields) (otherwise : String) :
    (∃ e, Pod.displayName (.obj fs) otherwise = .error e) ↔
      ((Json.obj fs).get "metadata").isSet = true ∧
        ((Json.obj fs).get "metadata").fields? = none := by
  have pod : (Json.obj fs).orElse .empty = .obj fs := by cases fs <;> rfl
  have field : (Json.obj fs).field "metadata" = .ok ((Json.obj fs).get "metadata") := rfl
  simp only [Pod.displayName, pod, Json.part, field, ok_bind]
  generalize (Json.obj fs).get "metadata" = m
  cases set : m.isSet with
  | false =>
    rw [Json.orElse, set]
    exact ⟨fun ⟨_, h⟩ => (nomatch h), fun h => (nomatch h.1)⟩
  | true =>
    rw [Json.orElse, set]
    cases m with
    | obj gs => exact ⟨fun ⟨_, h⟩ => (nomatch h), fun h => (nomatch h.2)⟩
    | null | bool | int | float | str | arr => exact ⟨fun _ => ⟨rfl, rfl⟩, fun _ => ⟨_, rfl⟩⟩

theorem podName_eq_error_iff (request : Request) :
    (∃ e, podName request = .error e) ↔ Misnamed request := by
  unfold podName Misnamed
  cases h : decode request.object with
  | error e =>
    exact ⟨fun ⟨_, h⟩ => (nomatch h), fun ⟨_, h, _⟩ => (nomatch h)⟩
  | ok pod =>
    obtain ⟨-, ⟨fs, rfl⟩, -⟩ := decode_eq_ok_iff.mp h
    refine (displayName_eq_error_iff fs request.name).trans ⟨fun m => ⟨_, rfl, m⟩, ?_⟩
    rintro ⟨_, same, m⟩
    cases same
    exact m

section Handle

variable {σ : Type} (answer : σ → (c : ApiCall) → Except Failure c.Answer × σ) (s : σ) (h : Handler)
  (request : Request) (deadline : Option Seconds)

/-- Once the pod has a name, the request is answered whatever is decided about it. -/
theorem handle_run {name : Json} (named : podName request = .ok name) :
    (h.handle request deadline).run answer s =
      (let decided := (h.decide request).run answer s
       let report := conclude request deadline name decided.1.1 decided.1.2
       (.ok (if h.measured then report else { report with measurements := [] }), decided.2)) := by
  unfold handle
  rw [named]
  rcases decided : (h.decide request).run answer s with ⟨⟨repaired, result⟩, s'⟩
  exact Interaction.run_then decided _

theorem conclude_uid (name : Json) (repaired : Nat) (result : Except Fault (Patch × Outcome)) :
    (conclude request deadline name repaired result).verdict.uid = request.uid := by
  cases result <;> rfl

theorem handle_answers_iff :
    (∃ report s', (h.handle request deadline).run answer s = (.ok report, s') ∧
      report.verdict.response.allowed = true ∧ report.verdict.response.uid = request.uid) ↔
    ¬Misnamed request := by
  rw [← podName_eq_error_iff]
  cases named : podName request with
  | error e =>
    refine ⟨fun ⟨_, _, ran, _⟩ => ?_, fun fine => absurd ⟨e, rfl⟩ fine⟩
    unfold handle at ran
    rw [named] at ran
    cases ran
  | ok name =>
    refine ⟨fun _ ⟨_, e⟩ => (nomatch e), fun _ =>
      ⟨_, _, handle_run answer s h request deadline named, rfl, ?_⟩⟩
    split <;> exact conclude_uid request deadline name _ _

end Handle

end Handler

section Server

variable {σ : Type} (answer : σ → (c : ApiCall) → Except Failure c.Answer × σ) (s : σ) (h : Handler)

theorem respond_run {http : HttpRequest} (posted : http.method = "POST")
    (path : (Net.Target.ofText http.target).path = Server.injectPath) {request : Request}
    (read : Server.readBody http.body = .ok request) :
    (Server.respond h http).run answer s =
      (let deadline := Server.deadlineOf (Net.Target.ofText http.target).query
       let handled := (h.handle request (deadline.map .exact)).run answer s
       (handled.1.map fun report =>
          ⟨200, .review report.verdict.response.review, some (report, deadline)⟩, handled.2)) := by
  simp only [Server.respond, path, if_true, posted, Server.handleReview, read]
  rcases handled : (h.handle request ((Server.deadlineOf
    (Net.Target.ofText http.target).query).map .exact)).run answer s with ⟨result, s'⟩
  refine (Interaction.run_then handled _).trans ?_
  cases result <;> rfl

theorem respond_answers_iff {http : HttpRequest} (posted : http.method = "POST")
    (path : (Net.Target.ofText http.target).path = Server.injectPath) {request : Request}
    (read : Server.readBody http.body = .ok request) :
    (∃ report deadline s', (Server.respond h http).run answer s =
        (.ok ⟨200, .review report.verdict.response.review, some (report, deadline)⟩, s') ∧
      report.verdict.response.allowed = true ∧ report.verdict.response.uid = request.uid) ↔
    ¬Handler.Misnamed request := by
  rw [respond_run answer s h posted path read, ← Handler.handle_answers_iff answer s h request
    ((Server.deadlineOf (Net.Target.ofText http.target).query).map .exact)]
  dsimp only
  generalize (h.handle request ((Server.deadlineOf
    (Net.Target.ofText http.target).query).map .exact)).run answer s = handled
  obtain ⟨result, s'⟩ := handled
  cases result with
  | error e => exact ⟨fun ⟨_, _, _, ran, _⟩ => (nomatch ran), fun ⟨_, _, ran, _⟩ => (nomatch ran)⟩
  | ok report =>
    simp only [Except.map, Prod.mk.injEq, Except.ok.injEq, HttpAnswer.mk.injEq, Option.some.injEq]
    constructor
    · rintro ⟨_, _, _, ⟨⟨-, -, rfl, -⟩, -⟩, fine⟩
      exact ⟨_, _, ⟨rfl, rfl⟩, fine⟩
    · rintro ⟨_, _, ⟨rfl, -⟩, fine⟩
      exact ⟨_, _, _, ⟨⟨trivial, rfl, rfl, rfl⟩, rfl⟩, fine⟩

/-- Requests are answered with an allowed pod, and reviews with such an answer, whatever the cluster
does; only pods whose metadata are something other than an object are not. -/
theorem answered_unless_misnamed (request : Request) :
    (∀ deadline, (∃ report s', (h.handle request deadline).run answer s = (.ok report, s') ∧
      report.verdict.response.allowed = true ∧ report.verdict.response.uid = request.uid) ↔
      ¬Handler.Misnamed request) ∧
    ∀ http : HttpRequest, http.method = "POST" →
      (Net.Target.ofText http.target).path = Server.injectPath →
      Server.readBody http.body = .ok request →
      ((∃ report deadline s', (Server.respond h http).run answer s =
          (.ok ⟨200, .review report.verdict.response.review, some (report, deadline)⟩, s') ∧
        report.verdict.response.allowed = true ∧ report.verdict.response.uid = request.uid) ↔
        ¬Handler.Misnamed request) :=
  ⟨fun deadline => Handler.handle_answers_iff answer s h request deadline,
    fun _ posted path read => respond_answers_iff answer s h posted path read⟩

end Server

def namedPost : HttpRequest where
  method := "POST"
  target := "/inject?timeout=10s"
  body := Text.Utf8.encode
    "\x7b\"request\": \x7b\"uid\": \"u1\", \"object\": \x7b\"metadata\": \x7b\"name\": \"web\"\x7d\x7d\x7d\x7d".toList

def namedRequest : Request where
  uid := "u1"
  ns := ""
  name := ""
  operation := "CREATE"
  dryRun := false
  object := Text.Utf8.encode "\x7b\"metadata\": \x7b\"name\": \"web\"\x7d\x7d".toList

theorem not_misnamed_namedRequest : ¬Handler.Misnamed namedRequest := by
  rintro ⟨pod, decoded, -, none⟩
  have read : Handler.decode namedRequest.object =
      .ok (.obj [("metadata", .obj [("name", .str "web")])]) := by decide +kernel
  cases read.symm.trans decoded
  cases none

def someHandler : Handler := .standard ⟨⟨"monitoring", "c1"⟩, "1.0", 3⟩ "injector" true

theorem answered_namedPost :
    namedPost.method = "POST" ∧ Server.readBody namedPost.body = .ok namedRequest ∧
    ∃ report deadline s', (Server.respond someHandler namedPost).run Store.answer Store.empty =
        (.ok ⟨200, .review report.verdict.response.review, some (report, deadline)⟩, s') ∧
      report.verdict.response.allowed = true ∧ report.verdict.response.uid = "u1" := by
  have read : Server.readBody namedPost.body = .ok namedRequest := by decide +kernel
  have path : (Net.Target.ofText namedPost.target).path = Server.injectPath := by decide +kernel
  exact ⟨rfl, read, ((answered_unless_misnamed Store.answer Store.empty someHandler namedRequest).2
    namedPost rfl path read).mpr not_misnamed_namedRequest⟩

def misnamedRequest : Request where
  uid := "u1"
  ns := "shop"
  name := ""
  operation := "CREATE"
  dryRun := false
  object := Text.Utf8.encode "\x7b\"metadata\": [\"x\"]\x7d".toList

theorem misnamed_misnamedRequest : Handler.Misnamed misnamedRequest :=
  ⟨.obj [("metadata", .arr [.str "x"])], by decide +kernel, by decide +kernel, by decide +kernel⟩

/-- Not every request is answered. -/
theorem unanswered_misnamedRequest :
    ¬∀ (h : Handler) (request : Request) (deadline : Option Seconds) (s : Store), ∃ report s',
      (h.handle request deadline).run Store.answer s = (.ok report, s') ∧
      report.verdict.response.allowed = true ∧ report.verdict.response.uid = request.uid := by
  intro all
  exact (Handler.handle_answers_iff Store.answer Store.empty someHandler misnamedRequest none).mp
    (all _ _ _ _) misnamed_misnamedRequest

end PodInstrumentation.Admission
