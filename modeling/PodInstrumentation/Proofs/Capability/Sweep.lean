import PodInstrumentation.Proofs.Capability.Outfit
/-!
Containers changed one after the other, each together with what the init container is told about
it. What holds of the init container is carried along as a property that such notes keep. -/
namespace PodInstrumentation

open Pod

structure Told (p : Json → Prop) : Prop where
  isContainer : ∀ x, p x → IsContainer x
  noted : ∀ number x x', p x → Equipped (notes number x) [] x x' → p x'

theorem told_isContainer : Told IsContainer := ⟨fun _ h => h, fun _ _ _ _ h => h.isContainer⟩

section Site

variable {p : Json → Prop} {e : Edit Json Unit} {c c' x : Json}

theorem onContainer_apply (he : e.apply c = (.ok (), c')) (x : Json) :
    (Site.onContainer e).apply ⟨c, x⟩ = (.ok (), ⟨c', x⟩) :=
  Edit.apply_on Site.container (fun s c => { s with container := c }) he

theorem onInstaller_apply (told : Told p) (hc : c.IsObject) (hx : p x) (number : Int) :
    ∃ x', (Site.onInstaller (noteContainer number)).apply ⟨c, x⟩ = (.ok (), ⟨c, x'⟩) ∧ p x' := by
  obtain ⟨x', noted, equipped⟩ := noteContainer_ok number hc (told.isContainer x hx)
  refine ⟨x', Edit.apply_step_ok ?_, told.noted number x x' hx equipped⟩
  rw [noted]
  rfl

theorem extend_apply (told : Told p) (hc : c.IsObject) (hx : p x) (number : Int)
    (he : e.apply c = (.ok (), c')) :
    ∃ x', (Additions.extend e number).apply ⟨c, x⟩ = (.ok (), ⟨c', x'⟩) ∧ p x' := by
  obtain ⟨x', noted, hx'⟩ := onInstaller_apply told hc hx number
  refine ⟨x', ?_, hx'⟩
  unfold Additions.extend
  rw [Edit.apply_bind_ok noted, onContainer_apply he]

end Site

theorem sweep_ok {p : Json → Prop} {step : Nat → Edit Site Bool} {f : Json → Json}
    {changed : Json → Bool} {cs : List Json}
    (h : ∀ i, ∀ c ∈ cs, ∀ x, p x →
      ∃ x', (step i).apply ⟨c, x⟩ = (.ok (changed c), ⟨f c, x'⟩) ∧ p x')
    (i : Nat) {installer : Json} (hp : p installer) :
    ∃ installer', sweep step i cs installer = (.ok (cs.countP changed), cs.map f, installer') ∧
      p installer' := by
  -- `p` is the invariant: it holds of the installer whatever it was told so far.
  induction cs generalizing i installer with
  | nil => exact ⟨installer, rfl, hp⟩
  | cons c cs ih =>
    obtain ⟨x, first, hx⟩ := h i c List.mem_cons_self installer hp
    obtain ⟨x', rest, hx'⟩ := ih (fun k d hd => h k d (List.mem_cons_of_mem _ hd)) (i + 1) hx
    refine ⟨x', ?_, hx'⟩
    simp only [sweep, first, rest, List.map_cons, List.countP_cons]
    rfl

namespace Draft

theorem onPod_apply {f : Json → Shaped Json} {pod pod' : Json} (h : f pod = .ok pod')
    (installer : Json) : (onPod f).apply ⟨pod, installer⟩ = (.ok (), ⟨pod', installer⟩) :=
  Edit.apply_step_ok (by rw [h]; rfl)

theorem onInstaller_apply {f : Json → Shaped Json} {installer installer' : Json}
    (h : f installer = .ok installer') (pod : Json) :
    (onInstaller f).apply ⟨pod, installer⟩ = (.ok (), ⟨pod, installer'⟩) :=
  Edit.apply_step_ok (by rw [h]; rfl)

theorem eachContainer_apply {p : Json → Prop} {step : Nat → Edit Site Bool} {f : Json → Json}
    {changed : Json → Bool} {pod installer : Json} (wf : WellFormed pod) (hp : p installer)
    (h : ∀ i, ∀ c ∈ containerList pod, ∀ x, p x →
      ∃ x', (step i).apply ⟨c, x⟩ = (.ok (changed c), ⟨f c, x'⟩) ∧ p x') :
    ∃ installer', (eachContainer step).apply ⟨pod, installer⟩ =
      (.ok ((containerList pod).countP changed),
        ⟨putContainers ((containerList pod).map f) pod, installer'⟩) ∧ p installer' := by
  obtain ⟨installer', swept, hp'⟩ := sweep_ok h 0 hp
  refine ⟨installer', ?_, hp'⟩
  unfold Edit.apply eachContainer
  dsimp only [ExceptT.run_mk, StateT.run]
  simp only [containers_each wf, swept]

end Draft

end PodInstrumentation
