import PodInstrumentation.Proofs.Admission.Asking
import PodInstrumentation.Proofs.Admission.Idempotence
import PodInstrumentation.Proofs.Cluster.Posting
/-!
Events of an admission. Only those failures to post one that are failures of the cluster are passed
over; by any other the admission fails, and the patch that was made before is not sent. -/
namespace PodInstrumentation.Admission

namespace Handler

variable (h : Handler)

theorem forgives_post (involved : Json) (type reason message : String) :
    (post involved type reason message).Forgives := by
  refine Attempt.Forgives.bind (.done _) fun event => ?_
  refine Interaction.Forgives.post event (.done _) (fun f refused => ?_) fun f fatal => ?_
  · show (if f.isClusterError then pure () else throw (.failure f) : Attempt Unit).run = _
    rw [refused]
    rfl
  · refine ⟨.error (.failure f), ?_, rfl⟩
    show (if f.isClusterError then pure () else throw (.failure f) : Attempt Unit).run = _
    rw [fatal]
    rfl

theorem forgives_readConfig (ns name : String) : (h.readConfig ns name).Forgives := by
  have asked : (Attempt.ask (.readConfig name h.injector.provisioner.ns)).Asks [.config] :=
    .ask _ List.mem_cons_self
  refine .bind (.of_asks asked (by decide)) fun r => ?_
  split
  · split <;> exact .done _
  · split
    · exact .bind (forgives_post _ _ _ _) fun _ => .done _
    · split <;> exact .done _

theorem forgives_course (request : Request) (pod : Json) : (h.course request pod).Forgives := by
  refine .bind (.done _) fun ns => .bind (.of_asks (asks_configName ns) (by decide)) fun name => ?_
  split
  · exact .done _
  · refine .bind (h.forgives_readConfig ns name) fun config => ?_
    split
    · exact .done _
    · refine .bind (.done _) fun injected => ?_
      split <;> exact .done _

theorem forgives_freshPatch (ns : String) (config : MonitoringConfig) (pod : Json) :
    (h.freshPatch ns config pod).Forgives := by
  refine .bind (.done _) fun wanted => ?_
  split
  · exact .done _
  · refine .bind (.of_asks (h.asks_injectedPod ns config pod) (by decide)) fun pod' => ?_
    refine .bind (.done _) fun base => .bind (.done _) fun reference => ?_
    exact .bind (forgives_post _ _ _ _) fun _ => .done _

theorem forgives_repairedPatch (ns : String) (pod pod' : Json) :
    (repairedPatch ns pod pod').Forgives := by
  refine .bind (.done _) fun metadata => .bind (.done _) fun reference => ?_
  exact .bind (forgives_post _ _ _ _) fun _ => .done _

def LostDecision (f : Failure) (decided : Nat × Except Fault (Patch × Outcome)) : Prop :=
  decided.2 = .error (.failure f)

theorem forgives_follow (pod : Json) (course : Course) :
    (h.follow pod course).Forgives LostDecision := by
  cases course with
  | skip => exact .done _
  | inject ns config =>
    refine .bind (h.forgives_freshPatch ns config pod) (fun r => .done _) fun f r lost => ?_
    exact ⟨_, rfl, lost⟩
  | reinvoke ns config =>
    simp only [follow]
    split
    · exact .done _
    · exact .done _
    · refine .bind (forgives_repairedPatch ns pod _) (fun r => .done _) fun f r lost => ?_
      exact ⟨_, rfl, lost⟩

theorem forgives_decide (request : Request) : (h.decide request).Forgives LostDecision := by
  unfold decide
  split
  · exact .done _
  · rename_i pod _
    refine .bind (h.forgives_course request pod) (fun r => ?_) fun f r lost => ?_
    · cases r with
      | error e => exact .done _
      | ok course => exact h.forgives_follow pod course
    · rw [lost]
      exact ⟨_, rfl, rfl⟩

def lostVerdict (request : Request) (deadline : Option Seconds) (name : Json) (f : Failure) :
    Verdict :=
  ⟨request.uid, [], some (softFailMessage name.display (deadlineFault deadline (.failure f)).text)⟩

theorem forgives_handle (request : Request) (deadline : Option Seconds) {name : Json}
    (named : podName request = .ok name) :
    (h.handle request deadline).Forgives fun f result =>
      ∃ report, result = .ok report ∧ report.verdict = lostVerdict request deadline name f := by
  unfold handle
  rw [named]
  refine .bind (h.forgives_decide request) (fun decided => .done _) fun f decided lost => ?_
  obtain ⟨repaired, result⟩ := decided
  cases lost
  refine ⟨_, rfl, _, rfl, ?_⟩
  split <;> rfl

end Handler

section Response

variable {σ τ : Type} {answer : σ → (c : ApiCall) → Except Failure c.Answer × σ}
  {answer' : τ → (c : ApiCall) → Except Failure c.Answer × τ} {R : σ → τ → Prop}

/-- On two clusters that treat events alike or not, an admission comes to the same answer as long as
no event is lost by a failure other than one of the cluster; by such a failure it fails. -/
theorem same_answer_unless_lost (alike : AlikeBut answer answer' R .event) (h : Handler)
    (request : Request) (deadline : Option Seconds) {s : σ} {t : τ} (related : R s t) :
    ((h.handle request deadline).lostEvent? answer s = none →
      (h.handle request deadline).lostEvent? answer' t = none →
      ((h.handle request deadline).run answer' t).1 =
        ((h.handle request deadline).run answer s).1) ∧
    ∀ f, (h.handle request deadline).lostEvent? answer s = some f →
      ∃ name report, Handler.podName request = .ok name ∧
        ((h.handle request deadline).run answer s).1 = .ok report ∧
        report.verdict = Handler.lostVerdict request deadline name f := by
  cases named : Handler.podName request with
  | error e =>
    unfold Handler.handle
    rw [named]
    exact ⟨fun _ _ => rfl, nofun⟩
  | ok name =>
    have forgives := h.forgives_handle request deadline named
    refine ⟨forgives.run_eq alike related, fun f was => ?_⟩
    obtain ⟨report, answered, verdict⟩ := forgives.run_of_lost was
    exact ⟨name, report, rfl, answered, verdict⟩

end Response

def shopLosing (f : Failure) : Store := { shop with eventError := some f }

theorem lostEvent?_shop :
    (someHandler.handle (admissionOf web) none).lostEvent? Store.answer shop = none := by
  decide +kernel

theorem lostEvent?_shopLosing :
    (someHandler.handle (admissionOf web) (some (.whole 1))).lostEvent? Store.answer
      (shopLosing .hang) = some .hang := by decide +kernel

theorem podName_web : Handler.podName (admissionOf web) = .ok (.str "web") := by decide +kernel

/-- An event that the cluster refuses does not show in the answer, and one that hangs does. -/
theorem same_answer_for_web :
    ((someHandler.handle (admissionOf web) none).run Store.answer
        (shopLosing (.status 500 none))).1 =
      ((someHandler.handle (admissionOf web) none).run Store.answer shop).1 ∧
    ∃ name report, Handler.podName (admissionOf web) = .ok name ∧
      ((someHandler.handle (admissionOf web) (some (.whole 1))).run Store.answer
        (shopLosing .hang)).1 = .ok report ∧
      report.verdict = Handler.lostVerdict (admissionOf web) (some (.whole 1)) name .hang := by
  have refused : (someHandler.handle (admissionOf web) none).lostEvent? Store.answer
      (shopLosing (.status 500 none)) = none := by decide +kernel
  have same : ∀ f, (shopLosing f).blind .event = shop.blind .event := fun _ => rfl
  have answers := same_answer_unless_lost (Store.alikeBut_blind .event) someHandler
    (admissionOf web) none (same (.status 500 none))
  have lost := same_answer_unless_lost (Store.alikeBut_blind .event) someHandler (admissionOf web)
    (some (.whole 1)) (same .hang).symm
  exact ⟨answers.1 lostEvent?_shop refused, lost.2 .hang lostEvent?_shopLosing⟩

/-- Where events are taken the pod is patched, and where posting one hangs it is not. -/
theorem patch_lost_with_event :
    (shopLosing .hang).blind .event = shop.blind .event ∧ ∃ patched s left s',
      (someHandler.handle (admissionOf web) (some (.whole 1))).run Store.answer shop =
        (.ok patched, s) ∧ patched.verdict.patch ≠ [] ∧ patched.verdict.message = none ∧
      (someHandler.handle (admissionOf web) (some (.whole 1))).run Store.answer
        (shopLosing .hang) = (.ok left, s') ∧
      left.verdict.patch = [] ∧ left.verdict.message ≠ none := by
  have forgives := someHandler.forgives_handle (admissionOf web) (some (.whole 1)) podName_web
  obtain ⟨left, answered, verdict⟩ := forgives.run_of_lost lostEvent?_shopLosing
  rcases failed : (someHandler.handle (admissionOf web) (some (.whole 1))).run Store.answer
    (shopLosing .hang) with ⟨r, s'⟩
  rw [failed] at answered
  cases answered
  have fine : ((someHandler.handle (admissionOf web) (some (.whole 1))).run Store.answer
      shop).1.toOption.map (fun report => (report.verdict.patch.isEmpty, report.verdict.message)) =
        some (false, none) := by decide +kernel
  rcases ran : (someHandler.handle (admissionOf web) (some (.whole 1))).run Store.answer shop with
    ⟨e | patched, s⟩
  · rw [ran] at fine
    cases fine
  · rw [ran] at fine
    obtain ⟨patch, message⟩ := Prod.mk.inj (Option.some.inj fine)
    refine ⟨rfl, patched, s, left, s', rfl, List.isEmpty_eq_false_iff.mp patch, message, rfl,
      ?_, ?_⟩
    · rw [verdict]
      rfl
    · rw [verdict]
      exact Option.some_ne_none _

end PodInstrumentation.Admission
