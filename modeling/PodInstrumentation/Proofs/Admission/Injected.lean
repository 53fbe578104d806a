import PodInstrumentation.Admission.Handler
import PodInstrumentation.Proofs.Capability.Injecting
/-!
What a first injection makes of a whole pod. -/
namespace PodInstrumentation.Admission

open Pod

namespace Handler

def wanted (h : Handler) (pod : Json) : List Capability := h.capabilities.filter (·.wants pod)

theorem wanted_congr (h : Handler) {pod pod' : Json}
    (same : ∀ key, annotation? pod' key = annotation? pod key) : h.wanted pod' = h.wanted pod := by
  rw [wanted, Capability.wants_congr same, wanted]

def marks (h : Handler) (pod : Json) : List String :=
  (h.wanted pod).map Capability.mark ++ [Names.injected]

theorem marks_congr (h : Handler) {pod pod' : Json}
    (same : ∀ key, annotation? pod' key = annotation? pod key) : h.marks pod' = h.marks pod := by
  rw [marks, h.wanted_congr same, marks]

theorem request_notMem_marks (h : Handler) (pod : Json) (c : Capability) :
    c.request ∉ h.marks pod := by
  have apart : c.request ≠ Names.injected := by cases c <;> decide
  simp only [marks, List.mem_append, List.mem_map, List.mem_singleton, not_or, not_exists, not_and]
  exact ⟨fun d _ e => (Capability.mark_ne d c).1 e.symm, apart⟩

theorem installPath_notMem_marks (h : Handler) (pod : Json) :
    Names.installPath ∉ h.marks pod := by
  have apart : Names.installPath ≠ Names.injected := by decide
  simp only [marks, List.mem_append, List.mem_map, List.mem_singleton, not_or, not_exists, not_and]
  exact ⟨fun d _ e => (Capability.mark_ne d d).2.1 e.symm, apart⟩

section Marks

variable {h : Handler} {dress : Json → Json} {inits : List Json → List Json}
  {volumes : List Json} {pod pod' : Json}
  (rewritten : Rewritten dress inits volumes (h.marks pod) pod pod')
include rewritten

theorem annotationText_of_marks {key : String} (set : key ∈ h.marks pod) :
    annotationText pod' key = "true" := by
  rw [annotationText, rewritten.annotations, if_pos set]
  rfl

theorem marked_of_marks : marked pod' = true := by
  have set : Names.injected ∈ h.marks pod := List.mem_append_right _ List.mem_cons_self
  rw [marked, annotationText_of_marks rewritten set]
  decide

theorem carries_of_marks {c : Capability} (hc : c ∈ h.wanted pod) : c.carries pod' = true := by
  have set : c.mark ∈ h.marks pod := List.mem_append_left _ (List.mem_map_of_mem hc)
  rw [Capability.carries, annotationText_of_marks rewritten set]
  decide +kernel

theorem wanted_of_marks : h.wanted pod' = h.wanted pod := by
  rw [wanted, wants_eq rewritten (h.request_notMem_marks pod), wanted]

theorem installPath_of_marks : Agent.installPath pod' = Agent.installPath pod :=
  installPath_eq rewritten (h.installPath_notMem_marks pod)

end Marks

section InjectedPod

variable {σ : Type} {answer : σ → (c : ApiCall) → Except Failure c.Answer × σ} {s s' : σ}
  {h : Handler} {ns : String} {config : MonitoringConfig} {pod pod' : Json}

theorem injectedPod_eq_ok (run : (h.injectedPod ns config pod).play answer s = (.ok pod', s')) :
    ∃ x pod₁ names draft pod₂, newInstaller pod h.image config = .ok x ∧
      addConfigVolume pod = .ok pod₁ ∧
      (inject h.injector config ns h.capabilities ⟨pod₁, x⟩).run answer s =
        ((.ok names, draft), s') ∧
      addInstaller draft.installer draft.pod = .ok pod₂ ∧
      annotate Names.injected "true" pod₂ = .ok pod' := by
  unfold injectedPod at run
  obtain ⟨x, s₁, make, run₁⟩ := Attempt.play_bind_eq_ok run
  obtain ⟨made, rfl⟩ := Attempt.play_ofShaped_eq_ok make
  obtain ⟨pod₁, s₂, add, run₂⟩ := Attempt.play_bind_eq_ok run₁
  obtain ⟨added, rfl⟩ := Attempt.play_ofShaped_eq_ok add
  obtain ⟨⟨result, draft⟩, s₃, injected, run₃⟩ := Attempt.play_bind_eq_ok run₂
  have ran := Attempt.play_lift_eq_ok injected
  cases result with
  | error e => cases run₃
  | ok names =>
    obtain ⟨finished, rfl⟩ := Attempt.play_ofShaped_eq_ok run₃
    obtain ⟨pod₂, placed, marking⟩ := bind_eq_ok_iff.mp finished
    exact ⟨x, pod₁, names, draft, pod₂, made, added, ran, placed, marking⟩

/-- A first injection dresses every container, adds the installer after the init containers, adds
the volumes of the wanted capabilities and marks the pod. -/
theorem injectedPod_ok (nodup : h.capabilities.Nodup) (wf : WellFormed pod)
    (run : (h.injectedPod ns config pod).play answer s = (.ok pod', s')) :
    ∃ installer, Booked (h.wanted pod) installer ∧
      Rewritten (Capability.dress h.injector config (Agent.installPath pod) (h.wanted pod))
        (· ++ [installer])
        (configVolumes pod ++ (h.wanted pod).flatMap (Capability.volumes config))
        (h.marks pod) pod pod' := by
  obtain ⟨x, pod₁', names, draft, pod₂, made, added', ran, placed, marking⟩ :=
    injectedPod_eq_ok run
  have booked := newInstaller_booked made
  obtain ⟨pod₁, added, first⟩ := addConfigVolume_ok wf
  cases added.symm.trans added'
  obtain ⟨second, booked'⟩ := inject_ok nodup (by simp) first.wellFormed booked ran
  rw [wants_eq first (by simp), installPath_eq first (by simp)] at second
  rw [wants_eq first (by simp), List.append_nil] at booked'
  cases (addInstaller_ok second.wellFormed draft.installer).symm.trans placed
  have third : Rewritten id (· ++ [draft.installer]) [] [] _ _ :=
    rewritten_initContainers second.wellFormed (List.forall_mem_append.mpr
      ⟨second.wellFormed.isInitContainer, by simpa using booked'.isContainer⟩)
  cases (annotate_ok third.wellFormed Names.injected "true").symm.trans marking
  have all := ((first.trans second).trans third).trans
    (rewritten_annotated third.wellFormed Names.injected)
  simp only [List.append_nil, List.nil_append] at all
  exact ⟨draft.installer, booked', all⟩

end InjectedPod

end Handler

end PodInstrumentation.Admission
