import Mathlib.Data.List.InsertIdx
import PodInstrumentation.Proofs.Admission.Idempotence
/-!
First injections and repairs agree. A container that is there from the start and one that comes
after the injection and is repaired end up alike, wherever in the list they stand. The first runs
capability by capability over the containers, the other container by container over the
capabilities; what makes them meet is that no capability touches the sign of another. -/
namespace PodInstrumentation.Admission

open Pod

def insertContainer (k : Nat) (c pod : Json) : Json :=
  withContainers ((containerList pod).insertIdx k c) pod

theorem annotation?_insertContainer (k : Nat) (c pod : Json) (key : String) :
    annotation? (insertContainer k c pod) key = annotation? pod key :=
  annotation?_withContainers _ pod key

section Insert

variable {pod : Json} (wf : WellFormed pod)
include wf

theorem wellFormed_insertContainer {c : Json} (hc : IsContainer c) (k : Nat) :
    WellFormed (insertContainer k c pod) :=
  wellFormed_withContainers wf fun x hx => by
    rcases List.eq_or_mem_of_mem_insertIdx hx with rfl | hx
    · exact hc
    · exact wf.isContainer x hx

theorem containerList_insertContainer (k : Nat) (c : Json) :
    containerList (insertContainer k c pod) = (containerList pod).insertIdx k c :=
  containerList_withContainers wf _

theorem volumeList_insertContainer (k : Nat) (c : Json) :
    volumeList (insertContainer k c pod) = volumeList pod := volumeList_withContainers wf _

end Insert

/-- A container that lacks everything is given every capability that its pod carries. -/
theorem lacking_of_bare {pod c : Json} {cs : List Capability}
    (carried : ∀ d ∈ cs, d.carries pod = true) (bare : ∀ d ∈ cs, d.has c = false) :
    Capability.lacking pod cs c = cs :=
  List.filter_eq_self.mpr fun d hd => by simp [carried d hd, bare d hd]

theorem lacking_of_has {pod x : Json} {cs : List Capability} (has : ∀ d ∈ cs, d.has x = true) :
    Capability.lacking pod cs x = [] :=
  List.filter_eq_nil_iff.mpr fun d hd => by simp [has d hd]

theorem repair_agrees_with_injection {σ τ : Type}
    {answer : σ → (c : ApiCall) → Except Failure c.Answer × σ} {s s' : σ}
    {answer' : τ → (c : ApiCall) → Except Failure c.Answer × τ} {t t' : τ} (h : Handler)
    (nodup : h.capabilities.Nodup) (ns : String) (config : MonitoringConfig) {pod c : Json}
    (wf : WellFormed pod) (hc : IsContainer c) (noPreload : Capability.agent.has c = false)
    (noMount : Capability.enrichment.has c = false) (k : Nat) {pod₁ pod₂ : Json}
    (together : (h.injectedPod ns config (insertContainer k c pod)).play answer s = (.ok pod₁, s'))
    (before : (h.injectedPod ns config pod).play answer' t = (.ok pod₂, t')) :
    ∃ n pod₃, repair h.injector config h.capabilities (insertContainer k c pod₂) = (.ok n, pod₃) ∧
      containerList pod₃ = containerList pod₁ ∧ volumeList pod₃ = volumeList pod₁ ∧
      ∀ key, annotation? pod₃ key = annotation? pod₁ key := by
  have wf₁ := wellFormed_insertContainer wf hc k
  obtain ⟨_, _, first⟩ := Handler.injectedPod_ok nodup wf₁ together
  obtain ⟨_, _, second⟩ := Handler.injectedPod_ok nodup wf before
  have wf₂ := wellFormed_insertContainer second.wellFormed hc k
  obtain ⟨pod₃, xs, repaired, third, _⟩ :=
    repair_ok h.injector config nodup wf₂ told_isContainer fun x hx _ => wf₂.isInitContainer x hx
  -- All three changes see the same wishes of the pod.
  have alike₁ := annotation?_insertContainer k c pod
  have alike₂ := annotation?_insertContainer k c pod₂
  have wanted₂ : h.capabilities.filter (Capability.wants (insertContainer k c pod₂)) =
      h.wanted pod := (h.wanted_congr alike₂).trans (Handler.wanted_of_marks second)
  have path₂ := (Agent.installPath_congr alike₂).trans (Handler.installPath_of_marks second)
  rw [h.wanted_congr alike₁, h.marks_congr alike₁, Agent.installPath_congr alike₁] at first
  rw [wanted₂, path₂] at third
  have carried : ∀ d ∈ h.wanted pod, d.carries (insertContainer k c pod₂) = true := by
    intro d hd
    rw [Capability.carries_congr alike₂, Handler.carries_of_marks second hd]
  have bare : ∀ d ∈ h.wanted pod, d.has c = false := by
    intro d _
    cases d with
    | agent => exact noPreload
    | enrichment => exact noMount
  refine ⟨_, pod₃, repaired, ?_, ?_, fun key => ?_⟩
  · rw [third.containers, first.containers, containerList_insertContainer second.wellFormed,
      containerList_insertContainer wf, second.containers, List.map_insertIdx, List.map_insertIdx,
      lacking_of_bare carried bare, List.map_map]
    congr 1
    refine List.map_congr_left fun x hx => ?_
    have has : ∀ d ∈ h.wanted pod, d.has (Capability.dress h.injector config
        (Agent.installPath pod) (h.wanted pod) x) = true :=
      fun d hd => by simp [Capability.has_dress _ _ _ (wf.isContainer x hx), hd]
    rw [Function.comp_apply, lacking_of_has has]
    rfl
  · rw [third.volumes, first.volumes, volumeList_insertContainer second.wellFormed,
      volumeList_insertContainer wf, second.volumes, List.append_nil, configVolumes, configVolumes,
      volumeList_insertContainer wf]
  · rw [third.annotations, first.annotations, if_neg (by simp), annotation?_insertContainer,
      annotation?_insertContainer, second.annotations]

def prod : MonitoringConfig where
  name := "prod"
  ns := "monitoring"
  annotations := []
  spec :=
    { apiUrl := "https://agents"
      tokens := none
      proxy := none
      networkZone := some "z1"
      skipCertCheck := false
      agent := .applicationMonitoring false [] }

theorem injectedPod_shop (pod : Json)
    (h : ((someHandler.injectedPod "shop" prod pod).play Store.answer shop).1.isOk = true) :
    ∃ pod' s',
      (someHandler.injectedPod "shop" prod pod).play Store.answer shop = (.ok pod', s') := by
  rcases ran : (someHandler.injectedPod "shop" prod pod).play Store.answer shop with ⟨r, s'⟩
  rw [ran] at h
  cases r with
  | error e => cases h
  | ok pod' => exact ⟨pod', s', rfl⟩

/-- A second container before the one that the pod has. -/
theorem repair_agrees_for_web : ∃ pod₁ pod₂ pod₃ s₁ s₂ n,
    (someHandler.injectedPod "shop" prod (insertContainer 0 (.obj [("name", .str "app")]) web)).play
      Store.answer shop = (.ok pod₁, s₁) ∧
    (someHandler.injectedPod "shop" prod web).play Store.answer shop = (.ok pod₂, s₂) ∧
    repair someHandler.injector prod someHandler.capabilities
      (insertContainer 0 (.obj [("name", .str "app")]) pod₂) = (.ok n, pod₃) ∧
    containerList pod₃ = containerList pod₁ ∧ volumeList pod₃ = volumeList pod₁ ∧
    ∀ key, annotation? pod₃ key = annotation? pod₁ key := by
  obtain ⟨pod₁, s₁, together⟩ := injectedPod_shop
    (insertContainer 0 (.obj [("name", .str "app")]) web) (by decide +kernel)
  obtain ⟨pod₂, s₂, before⟩ := injectedPod_shop web (by decide +kernel)
  obtain ⟨n, pod₃, repaired, alike⟩ := repair_agrees_with_injection someHandler (by decide) "shop"
    prod wellFormed_web isContainer_app (by decide +kernel) (by decide +kernel) 0 together before
  exact ⟨pod₁, pod₂, pod₃, s₁, s₂, n, together, before, repaired, alike⟩

end PodInstrumentation.Admission
