import PodInstrumentation.Proofs.Admission.Asking
import PodInstrumentation.Proofs.Capability.Pairing
/-!
Admissions of one pod by two clusters. What their reports have in common follows from what the first
injections have in common: everything but the patches, and those are of pods that belong
together. -/
namespace PodInstrumentation.Admission

def Counterpatches (P : Json → Json → Prop) (pod : Json) (a b : Patch) : Prop :=
  b = a ∨ ∃ p p', P p p' ∧ a = Patch.between pod p ∧ b = Patch.between pod p'

structure Counterparts (P : Json → Json → Prop) (pod : Json) (a b : Report) : Prop where
  same : b = { a with verdict := { a.verdict with patch := b.verdict.patch } }
  patches : Counterpatches P pod a.verdict.patch b.verdict.patch

namespace Handler

def finish (d : Draft) : Shaped Json := do
  Pod.annotate Names.injected "true" (← Pod.addInstaller d.installer d.pod)

section Pairs

variable {σ τ : Type} {answer : σ → (c : ApiCall) → Except Failure c.Answer × σ}
  {answer' : τ → (c : ApiCall) → Except Failure c.Answer × τ} {R : σ → τ → Prop}
  {P : Json → Json → Prop} {h : Handler} {ns : String} {config : MonitoringConfig} {pod : Json}

theorem injectedPod_paired {D : Draft → Draft → Prop}
    (start : ∀ p x, Pod.newInstaller pod h.image config = .ok x →
      Pod.addConfigVolume pod = .ok p → D ⟨p, x⟩ ⟨p, x⟩)
    (pods : ∀ d d', D d d' → d'.pod = d.pod)
    (prepared : ∀ (c : Capability) d d', D d d' → Attempt.Paired answer answer' R (Edit.Paired D)
      (c.prepare h.injector config ns d.pod) (c.prepare h.injector config ns d.pod))
    (last : ∀ d d', D d d' → Agree P (finish d) (finish d')) :
    Attempt.Paired answer answer' R P (h.injectedPod ns config pod)
      (h.injectedPod ns config pod) := by
  unfold injectedPod
  cases made : Pod.newInstaller pod h.image config with
  | error e => exact .throw _
  | ok x =>
    cases added : Pod.addConfigVolume pod with
    | error e => exact .throw _
    | ok p =>
      rw [Attempt.ofShaped_ok_bind, Attempt.ofShaped_ok_bind]
      refine .bind (.lift (inject_paired pods prepared h.capabilities (start p x made added))) ?_
      rintro ⟨r, d⟩ ⟨r', d'⟩ (⟨names, rfl, rfl, related⟩ | ⟨e, rfl, rfl⟩)
      · exact .ofShaped (last d d' related)
      · exact .throw e

theorem post_paired (events : AlikeOn answer answer' R [.event])
    (involved : Json) (type reason message : String) :
    Attempt.Paired answer answer' R (fun _ _ => True) (post involved type reason message)
      (post involved type reason message) :=
  (Attempt.Paired.of_asks events (asks_post _ _ _ _)).mono fun _ _ _ => trivial

theorem freshPatch_paired (events : AlikeOn answer answer' R [.event])
    (metadata : ∀ p p', P p p' → p'.field "metadata" = p.field "metadata")
    (injected : Attempt.Paired answer answer' R P (h.injectedPod ns config pod)
      (h.injectedPod ns config pod)) :
    Attempt.Paired answer answer' R (fun r r' => r'.2 = r.2 ∧ Counterpatches P pod r.1 r'.1)
      (h.freshPatch ns config pod) (h.freshPatch ns config pod) := by
  unfold freshPatch
  cases Capability.wanted pod h.capabilities with
  | error e => exact .throw _
  | ok wanted =>
    rw [Attempt.ofShaped_ok_bind]
    split
    · exact .pure ⟨rfl, .inl rfl⟩
    · refine .bind injected fun p p' related => ?_
      have parts : p'.part "metadata" = p.part "metadata" := by
        rw [Json.part, metadata p p' related]
        rfl
      have names : Pod.baseName p' = Pod.baseName p := by rw [Pod.baseName, parts]; rfl
      have references : podReference p' ns = podReference p ns := by rw [podReference, parts]; rfl
      rw [names, references]
      cases Pod.baseName p with
      | error e => exact .throw _
      | ok base =>
        cases podReference p ns with
        | error e => exact .throw _
        | ok reference =>
          simp only [Attempt.ofShaped_ok_bind]
          refine .bind (post_paired events _ _ _ _) fun _ _ _ => ?_
          exact .pure ⟨rfl, .inr ⟨p, p', related, rfl, rfl⟩⟩

theorem asks_repairedPatch (ns : String) (pod pod' : Json) :
    (repairedPatch ns pod pod').Asks [.event] := by
  refine .bind (.ofShaped _) fun metadata => .bind (.ofShaped _) fun reference => ?_
  exact .bind (asks_post _ _ _ _) fun _ => .pure _

/-- Two decisions that count the same repairs and fail in the same way, or differ in their patches
at most. -/
def SameDecision (P : Json → Json → Prop) (pod : Json)
    (r r' : Nat × Except Fault (Patch × Outcome)) : Prop :=
  r'.1 = r.1 ∧ Agree (fun a b => b.2 = a.2 ∧ Counterpatches P pod a.1 b.1) r.2 r'.2

theorem SameDecision.of_eq (P : Json → Json → Prop) (pod : Json)
    (r : Nat × Except Fault (Patch × Outcome)) : SameDecision P pod r r :=
  ⟨rfl, .of_eq fun _ => ⟨rfl, .inl rfl⟩⟩

theorem follow_paired (events : AlikeOn answer answer' R [.event])
    (metadata : ∀ p p', P p p' → p'.field "metadata" = p.field "metadata") {course : Course}
    (injected : ∀ ns config, course = .inject ns config → Attempt.Paired answer answer' R P
      (h.injectedPod ns config pod) (h.injectedPod ns config pod)) :
    Interaction.Paired answer answer' R (SameDecision P pod) (h.follow pod course)
      (h.follow pod course) := by
  cases course with
  | skip => exact .done (.of_eq _ _ _)
  | inject ns config =>
    refine .bind (freshPatch_paired events metadata (injected ns config rfl)) fun r r' fresh => ?_
    exact .done ⟨rfl, fresh⟩
  | reinvoke ns config =>
    refine .mono (.of_asks events ?_) fun r _ same => same ▸ .of_eq P pod r
    simp only [follow]
    split
    · exact .done _
    · exact .done _
    · exact Interaction.Asks.bind (asks_repairedPatch ns pod _) fun _ => .done _

/-- If the course of a pod is the same for both clusters, then so is what is decided, up to the pods
that first injections make of it. -/
theorem decide_paired (events : AlikeOn answer answer' R [.event])
    (metadata : ∀ p p', P p p' → p'.field "metadata" = p.field "metadata") {request : Request}
    (decoded : decode request.object = .ok pod) {I : Course → Prop}
    (courses : Attempt.Paired answer answer' R (fun c c' => c' = c ∧ I c) (h.course request pod)
      (h.course request pod))
    (injected : ∀ ns config, I (.inject ns config) → Attempt.Paired answer answer' R P
      (h.injectedPod ns config pod) (h.injectedPod ns config pod)) :
    Interaction.Paired answer answer' R (SameDecision P pod) (h.decide request)
      (h.decide request) := by
  unfold decide
  rw [decoded]
  refine .bind courses fun r r' agree => ?_
  cases agree with
  | error e => exact .done (.of_eq _ _ _)
  | @ok course _ same =>
    obtain ⟨rfl, known⟩ := same
    exact follow_paired events metadata fun ns config e => injected ns config (e ▸ known)

theorem decide_paired_of_undecoded {request : Request} {e : InjectionError}
    (undecoded : decode request.object = .error e) :
    Interaction.Paired answer answer' R (SameDecision P pod) (h.decide request)
      (h.decide request) := by
  unfold decide
  rw [undecoded]
  exact .done (.of_eq _ _ _)

theorem conclude_counterparts {request : Request} {deadline : Option Seconds} {name : Json}
    {r r' : Nat × Except Fault (Patch × Outcome)} (same : SameDecision P pod r r') :
    Counterparts P pod (conclude request deadline name r.1 r.2)
      (conclude request deadline name r'.1 r'.2) := by
  obtain ⟨n, result⟩ := r
  obtain ⟨n', result'⟩ := r'
  obtain ⟨rfl, agree⟩ := same
  cases agree with
  | error e => exact ⟨rfl, .inl rfl⟩
  | @ok a b agree =>
    obtain ⟨patch, outcome⟩ := a
    obtain ⟨patch', outcome'⟩ := b
    obtain ⟨rfl, patches⟩ := agree
    exact ⟨rfl, patches⟩

theorem handle_paired {request : Request} (deadline : Option Seconds) {name : Json}
    (named : podName request = .ok name)
    (decided : Interaction.Paired answer answer' R (SameDecision P pod) (h.decide request)
      (h.decide request)) :
    Interaction.Paired answer answer' R (Agree (Counterparts P pod))
      (h.handle request deadline) (h.handle request deadline) := by
  unfold handle
  rw [named]
  refine .bind decided fun r r' same => .done ?_
  have parts : Counterparts P pod (conclude request deadline name r.1 r.2)
      (conclude request deadline name r'.1 r'.2) := conclude_counterparts same
  cases h.measured with
  | true => exact .ok parts
  | false =>
    refine .ok ⟨?_, parts.patches⟩
    rw [parts.same]
    rfl

end Pairs

end Handler

end PodInstrumentation.Admission
