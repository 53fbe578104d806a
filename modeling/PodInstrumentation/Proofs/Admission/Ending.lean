import PodInstrumentation.Proofs.Admission.Additive
import PodInstrumentation.Proofs.Admission.Measuring
import PodInstrumentation.Proofs.Capability.Calling
import PodInstrumentation.Proofs.Capability.Counting
/-!
How requests end. A pod is either changed, or left alone on purpose, or let in unchanged after a
fault, and the response, the outcome and the metrics agree on which of these it was. -/
namespace PodInstrumentation.Admission

open Json (Grown)
open Pod

theorem annotation_of_annotations {pod values : Json} (h : annotations pod = .ok values)
    (key : String) : values.get key = ((metadata pod).get "annotations").get key := by
  obtain ⟨m, read, rest⟩ := bind_eq_ok_iff.mp h
  rw [part_eq_ok rest, part_eq_ok read]

theorem annotation_of_isInjected {pod : Json} {b : Bool} (h : isInjected pod = .ok b) :
    (((metadata pod).get "annotations").get Names.injected).isSet = b := by
  obtain ⟨values, read, rest⟩ := bind_eq_ok_iff.mp h
  obtain ⟨v, field, set⟩ := bind_eq_ok_iff.mp rest
  rw [← annotation_of_annotations read, ← field_eq_ok field]
  exact Except.ok.inj set

namespace Handler

section Changes

variable {σ : Type} {answer : σ → (c : ApiCall) → Except Failure c.Answer × σ} {s s' : σ}
  {h : Handler} {ns : String} {config : MonitoringConfig} {pod pod' : Json}

theorem between_injected_ne_nil (distinct : pod.Distinct) (new : isInjected pod = .ok false)
    (run : (h.injectedPod ns config pod).play answer s = (.ok pod', s')) :
    Patch.between pod pod' ≠ [] := by
  intro none
  obtain ⟨_, _, _, _, pod₂, _, _, _, _, marking⟩ := injectedPod_eq_ok run
  obtain ⟨fs, _, after⟩ := annotations_annotate marking
  have mark : ((metadata pod').get "annotations").get Names.injected = .str "true" := by
    rw [← annotation_of_annotations after]
    exact congrArg (fun o => o.getD .null) (Fields.lookup_put_self _ _ fs)
  -- An idle patch would leave the mark as it was, which was not set.
  have whole : Grown (podRoom (.list .closed)) pod pod' := .inr (injectedPod_grows run)
  have idle := whole.get_idle distinct (Json.merge_of_between_nil distinct none) "metadata"
  have inner := whole.get "metadata"
  have idle' := Grown.get_idle (distinct.get _) inner idle "annotations"
  have same := Grown.get_idle ((distinct.get _).get _) (inner.get "annotations") idle'
    Names.injected
  rw [mark, Json.merge_text] at same
  have set := annotation_of_isInjected new
  rw [← same] at set
  cases set

theorem between_repaired_ne_nil (distinct : pod.Distinct) {n : Nat} (some : n ≠ 0)
    (repaired : PodInstrumentation.repair h.injector config h.capabilities pod = (.ok n, pod')) :
    Patch.between pod pod' ≠ [] := by
  intro none
  obtain ⟨_, count⟩ := altered_repaired distinct repaired
  rw [Json.merge_of_between_nil distinct none] at count
  have same : altered pod pod = 0 := by
    rw [altered, List.countP_eq_zero]
    intro x among
    obtain ⟨i, _, rfl⟩ := List.getElem_of_mem among
    simp
  exact some (count.symm.trans same)

end Changes

section Decisions

variable {σ : Type} {answer : σ → (c : ApiCall) → Except Failure c.Answer × σ} {s s' : σ}
  {h : Handler} {request : Request} {deadline : Option Seconds} {report : Report} {n : Nat}
  {patch : Patch} {outcome : Outcome}

/-- A pod is patched exactly if the outcome says that it was injected or repaired. -/
theorem decided_ends (decided : (h.decide request).run answer s = ((n, .ok (patch, outcome)), s')) :
    patch ≠ [] ∧ (outcome = .injected ∨ outcome = .reinvoked) ∨
      patch = [] ∧ outcome = .skipped := by
  obtain ⟨pod, read⟩ : ∃ pod, Json.ofBytes request.object = .ok pod := by
    unfold decide at decided
    cases decoded : decode request.object with
    | error e =>
      rw [decoded] at decided
      cases decided
    | ok pod => exact ⟨pod, (decode_eq_ok_iff.mp decoded).1⟩
  have distinct := Json.distinct_ofBytes read
  obtain ⟨course, s₁, found, followed⟩ := course_of_decide read decided
  by_cases acts : course = .skip
  · subst acts
    cases followed
    exact .inr ⟨rfl, rfl⟩
  · obtain ⟨ns, config, _, _, _, ⟨rfl, new⟩ | ⟨rfl, _⟩⟩ := course_eq_ok found acts
    · rcases freshPatch_eq_ok (follow_inject_eq_ok followed) with
        both | ⟨rfl, _, pod', _, _, _, injected, rfl⟩
      · exact .inr both
      · exact .inl ⟨between_injected_ne_nil distinct new injected, .inl rfl⟩
    · rcases follow_reinvoke_eq_ok followed with both | ⟨rfl, _, pod', some, repaired, rfl⟩
      · exact .inr both
      · exact .inl ⟨between_repaired_ne_nil distinct some repaired, .inr rfl⟩

end Decisions

end Handler

inductive Ending where
  | changed | skipped | softFailed

def Report.Ended (report : Report) : Ending → Prop
  | .changed => report.verdict.response.patch ≠ [] ∧ report.verdict.response.message = none ∧
      (report.outcome = .injected ∨ report.outcome = .reinvoked)
  | .skipped => report.verdict.response.patch = [] ∧ report.verdict.response.message = none ∧
      report.outcome = .skipped
  | .softFailed => report.verdict.response.patch = [] ∧
      (∃ message, report.verdict.response.message = some message) ∧ report.outcome = .softFailed

theorem Report.Ended.unique {report : Report} {e e' : Ending} (h : report.Ended e)
    (h' : report.Ended e') : e = e' := by
  cases e <;> cases e' <;> simp_all [Report.Ended]

namespace Handler

section Handle

variable {σ : Type} {answer : σ → (c : ApiCall) → Except Failure c.Answer × σ} {s s' : σ}
  {h : Handler} {request : Request} {deadline : Option Seconds} {report : Report}

theorem handle_ends (ran : (h.handle request deadline).run answer s = (.ok report, s')) :
    ∃ ending, report.Ended ending := by
  obtain ⟨name, n, result, decided, verdict, outcome⟩ := decide_of_handle ran
  cases result with
  | error e =>
    refine ⟨.softFailed, ?_⟩
    rw [Report.Ended, verdict, outcome]
    exact ⟨rfl, ⟨_, rfl⟩, rfl⟩
  | ok decision =>
    obtain ⟨patch, result⟩ := decision
    rcases decided_ends decided with ⟨some, acts⟩ | ⟨none, skips⟩
    · refine ⟨.changed, ?_⟩
      rw [Report.Ended, verdict, outcome]
      exact ⟨fun sent => some (List.map_eq_nil_iff.mp sent), rfl, acts⟩
    · refine ⟨.skipped, ?_⟩
      rw [Report.Ended, verdict, outcome]
      exact ⟨List.map_eq_nil_iff.mpr none, rfl, skips⟩

/-- A request that is answered ends in exactly one way: with a patch and without a message if the
pod was injected or repaired, with neither if it was skipped, and with a message alone if it failed
softly. The metrics count one admission under that outcome, and one soft failure if it is one. -/
theorem ends_one_way (ran : (h.handle request deadline).run answer s = (.ok report, s')) :
    report.verdict.response.allowed = true ∧ report.verdict.response.uid = request.uid ∧
      (∃! ending, report.Ended ending) ∧
      ∀ duration m, if h.measured then Recorded report.outcome m (report.record duration m)
        else report.record duration m = m := by
  obtain ⟨ending, ended⟩ := handle_ends ran
  obtain ⟨name, n, result, decided, verdict, outcome, recorded⟩ := record_of_handle ran
  refine ⟨rfl, ?_, ⟨ending, ended, fun _ other => other.unique ended⟩, fun duration m => ?_⟩
  · rw [verdict]
    exact conclude_uid request deadline name n result
  · rw [recorded, outcome]
    split
    · refine recorded_conclude request deadline name n duration m fun {decision} is => ?_
      subst is
      rcases decided_ends decided with ⟨_, acts | acts⟩ | ⟨_, skips⟩ <;> simp [*]
    · rfl

end Handle

end Handler

theorem ends_one_way_web : ∃ report s',
    (someHandler.handle (admissionOf web) none).run Store.answer shop = (.ok report, s') ∧
      report.verdict.response.allowed = true ∧ report.verdict.response.uid = "u1" ∧
      (∃! ending, report.Ended ending) ∧
      ∀ duration m, Recorded report.outcome m (report.record duration m) := by
  obtain ⟨report, s', ran, _⟩ := patched_shop web (by decide +kernel)
  obtain ⟨allowed, uid, ended, recorded⟩ := Handler.ends_one_way ran
  exact ⟨report, s', ran, allowed, uid, ended, recorded⟩

end PodInstrumentation.Admission
