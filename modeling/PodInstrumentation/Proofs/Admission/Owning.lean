import PodInstrumentation.Proofs.Admission.Naming
import PodInstrumentation.Proofs.Capability.Owning
/-!
Names in a first injection of several capabilities. Each writes names of its own, and so the lists
that it extends get no name twice, whichever capabilities there are and whatever their order. -/
namespace PodInstrumentation.Admission

open Pod Capability

structure DistinctAdditions (pod pod' : Json) : Prop where
  containers : List.Forall₂ (Adds "env" List.Nodup) (containerList pod) (containerList pod')
  installer : ∃ x vars, initContainerList pod' = initContainerList pod ++ [x] ∧
    Entries vars (x.itemsAt "env") ∧ vars.Nodup
  volumes : Adds "volumes" List.Nodup (spec pod) (spec pod')

namespace Handler

theorem injectedPod_distinct {σ : Type}
    {answer : σ → (c : ApiCall) → Except Failure c.Answer × σ} {s s' : σ} {h : Handler}
    (nodup : h.capabilities.Nodup) {pod pod' : Json} (wf : WellFormed pod) {ns : String}
    {config : MonitoringConfig}
    (run : (h.injectedPod ns config pod).play answer s = (.ok pod', s')) :
    DistinctAdditions pod pod' := by
  obtain ⟨x, booked, rewritten⟩ := injectedPod_ok nodup wf run
  have wanted : (h.wanted pod).Nodup := nodup.filter _
  obtain ⟨vars, entries, books⟩ := booked.env
  refine ⟨?_, ⟨x, vars, rewritten.initContainers, entries, books.nodup⟩, newVolumes _ pod, _,
    rewritten.volumes, (entries_configVolumes pod).append (entries_stock config _),
    (nodup_stock wanted).sublist (newVolumes_sublist_stock _ pod)⟩
  rw [rewritten.containers, List.forall₂_map_right_iff, List.forall₂_same]
  intro y hy
  obtain ⟨given, equipped, grants⟩ :=
    exists_grants h.injector config (Agent.installPath pod) wanted (wf.isContainer y hy)
  exact equipped.adds grants.nodup

/-- Whatever a capability appends, when it is injected or in a repair, goes by a name that it may
write, and a first injection appends no name twice to a list. -/
theorem appends_own_names {σ : Type} (answer : σ → (c : ApiCall) → Except Failure c.Answer × σ)
    (h : Handler) (nodup : h.capabilities.Nodup) {pod : Json} (wf : WellFormed pod) (ns : String)
    (config : MonitoringConfig) :
    (∀ (c : Capability) (s s' : σ) (edit : Edit Draft Unit),
      (c.prepare h.injector config ns pod).play answer s = (.ok edit, s') →
      ∀ x, IsContainer x → ∃ d, edit.apply ⟨pod, x⟩ = (.ok (), d) ∧ c.OwnWrites ⟨pod, x⟩ d) ∧
    (∀ (c : Capability) (y x : Json), IsContainer y → IsContainer x →
      ∀ (number : Int) (hasInstaller : Bool),
      ∃ site, (c.reinvoke h.injector config pod number hasInstaller).apply ⟨y, x⟩ = (.ok (), site) ∧
        Adds "env" (Within c.MayWrite) y site.container ∧
        Adds "env" (Within c.MayWrite) x site.installer) ∧
    ∀ (s s' : σ) (pod' : Json), (h.injectedPod ns config pod).play answer s = (.ok pod', s') →
      DistinctAdditions pod pod' :=
  ⟨fun _ _ _ _ prepared _ hx => prepared_ownWrites wf prepared hx,
    fun c _ _ hy hx number hasInstaller => reinvoke_ownWrites wf c hy hx number hasInstaller,
    fun _ _ _ run => injectedPod_distinct nodup wf run⟩

end Handler

theorem appends_own_names_web : ∃ edit d site pod' s₁ s₂,
    (Capability.agent.prepare someHandler.injector shopConfig "shop" web).play Store.answer shop =
      (.ok edit, s₁) ∧
    edit.apply ⟨web, .obj [("name", .str "app")]⟩ = (.ok (), d) ∧
    Capability.agent.OwnWrites ⟨web, .obj [("name", .str "app")]⟩ d ∧
    (Capability.agent.reinvoke someHandler.injector shopConfig web 1 true).apply
      ⟨.obj [("name", .str "app")], .obj [("name", .str "app")]⟩ = (.ok (), site) ∧
    Adds "env" (Within Capability.agent.MayWrite) (.obj [("name", .str "app")]) site.installer ∧
    (someHandler.injectedPod "shop" shopConfig web).play Store.answer shop = (.ok pod', s₂) ∧
    DistinctAdditions web pod' := by
  obtain ⟨injecting, repairing, together⟩ := Handler.appends_own_names Store.answer
    someHandler (by decide) wellFormed_web "shop" shopConfig
  have provided : ((Capability.agent.prepare someHandler.injector shopConfig "shop" web).play
      Store.answer shop).1.toOption.isSome = true := by decide +kernel
  have made : ((someHandler.injectedPod "shop" shopConfig web).play
      Store.answer shop).1.toOption.isSome = true := by decide +kernel
  rcases prepared : (Capability.agent.prepare someHandler.injector shopConfig "shop" web).play
    Store.answer shop with ⟨r₁, s₁⟩
  rcases run : (someHandler.injectedPod "shop" shopConfig web).play Store.answer shop with ⟨r₂, s₂⟩
  rw [prepared] at provided
  rw [run] at made
  cases r₁ with
  | error e => cases provided
  | ok edit =>
    cases r₂ with
    | error e => cases made
    | ok pod' =>
      obtain ⟨d, applied, own⟩ := injecting .agent shop s₁ edit prepared _ isContainer_app
      obtain ⟨site, invoked, -, told⟩ := repairing .agent _ _ isContainer_app isContainer_app 1 true
      exact ⟨edit, d, site, pod', s₁, s₂, rfl, applied, own, invoked, told, rfl,
        together shop s₂ pod' run⟩

end PodInstrumentation.Admission
