import PodInstrumentation.Proofs.Admission.Additive
import PodInstrumentation.Proofs.Admission.Sound
/-!
Names in a pod after its first injection. Of all that is put into its lists only the volume of the
configuration is looked for before; the volumes of the capabilities and the installer come on top of
whatever goes by their names already. -/
namespace PodInstrumentation

open Pod

namespace Pod

def newVolumes (cs : List Capability) (pod : Json) : List String :=
  (if .str Names.configVolume ∈ names "volumes" (spec pod) then [] else [Names.configVolume]) ++
    cs.flatMap Capability.ownedVolumes

theorem entries_configVolumes (pod : Json) :
    Entries (if .str Names.configVolume ∈ names "volumes" (spec pod) then []
      else [Names.configVolume]) (configVolumes pod) := by
  unfold configVolumes
  rw [any_named]
  by_cases there : Json.str Names.configVolume ∈ names "volumes" (spec pod)
  · rw [if_pos there, if_pos (decide_eq_true there)]
    exact .nil
  · rw [if_neg there, if_neg (by simpa using there)]
    exact .cons (isObject_secretVolume _ _) rfl .nil

theorem newVolumes_sublist_stock (cs : List Capability) (pod : Json) :
    (newVolumes cs pod).Sublist (stock cs) := by
  unfold newVolumes stock
  split
  · exact List.sublist_cons_self _ _
  · exact List.Sublist.refl _

theorem disjoint_newVolumes (cs : List Capability) (pod : Json) :
    (∀ v ∈ newVolumes cs pod, .str v ∉ names "volumes" (spec pod)) ↔
      ∀ c ∈ cs, ∀ v ∈ c.ownedVolumes, .str v ∉ names "volumes" (spec pod) := by
  constructor
  · intro new c hc v own
    exact new v (List.mem_append_right _ (List.mem_flatMap.mpr ⟨c, hc, own⟩))
  · intro new v hv
    rcases List.mem_append.mp hv with config | capability
    · split at config
      · cases config
      · rename_i none
        rw [List.mem_singleton.mp config]
        exact none
    · obtain ⟨c, hc, own⟩ := List.mem_flatMap.mp capability
      exact new c hc v own

theorem nodup_append_names {old : List Json} {new : List String} (nodup : new.Nodup) :
    (old ++ new.map Json.str).Nodup ↔ old.Nodup ∧ ∀ v ∈ new, Json.str v ∉ old := by
  have texts : (new.map Json.str).Nodup := nodup.map fun _ _ => Json.str.inj
  rw [List.nodup_append']
  constructor
  · rintro ⟨distinct, _, apart⟩
    exact ⟨distinct, fun v hv there => apart there (List.mem_map_of_mem hv)⟩
  · rintro ⟨distinct, apart⟩
    refine ⟨distinct, texts, fun name there added => ?_⟩
    obtain ⟨v, hv, rfl⟩ := List.mem_map.mp added
    exact apart v hv there

end Pod

namespace Admission

namespace Handler

section Injected

variable {σ : Type} {answer : σ → (c : ApiCall) → Except Failure c.Answer × σ} {s s' : σ}
  {h : Handler} {request : Request} {deadline : Option Seconds} {report : Report} {pod : Json}

theorem follow_of_injected {course : Course} {n : Nat} {patch : Patch}
    (ran : (h.follow pod course).run answer s = ((n, .ok (patch, .injected)), s')) :
    ∃ ns config pod' s₁, (h.injectedPod ns config pod).play answer s = (.ok pod', s₁) ∧
      patch = Patch.between pod pod' := by
  cases course with
  | skip => cases ran
  | inject ns config =>
    obtain ⟨_, skipped⟩ | ⟨_, _, pod', s₁, _, _, injected, sent⟩ :=
      freshPatch_eq_ok (follow_inject_eq_ok ran)
    · cases skipped
    · exact ⟨ns, config, pod', s₁, injected, sent⟩
  | reinvoke ns config =>
    obtain ⟨_, skipped⟩ | ⟨reinvoked, _⟩ := follow_reinvoke_eq_ok ran
    · cases skipped
    · cases reinvoked

theorem handle_of_injected (read : Json.ofBytes request.object = .ok pod)
    (ran : (h.handle request deadline).run answer s = (.ok report, s'))
    (injected : report.outcome = .injected) :
    ∃ ns config pod' s₁ s₂, (h.injectedPod ns config pod).play answer s₁ = (.ok pod', s₂) ∧
      report.verdict.patch = Patch.between pod pod' := by
  obtain ⟨name, n, result, decided, verdict, outcome⟩ := decide_of_handle ran
  cases result with
  | error e => cases injected.symm.trans outcome
  | ok decision =>
    obtain ⟨patch, done⟩ := decision
    cases injected.symm.trans outcome
    obtain ⟨course, s₁, _, followed⟩ := course_of_decide read decided
    obtain ⟨ns, config, pod', s₂, run, sent⟩ := follow_of_injected followed
    exact ⟨ns, config, pod', s₁, s₂, run, by rw [verdict]; exact sent⟩

/-- The names in the lists of the pod that a first injection leaves. -/
theorem names_of_injectedPod {ns : String} {config : MonitoringConfig} {pod' : Json}
    (nodup : h.capabilities.Nodup) (wf : WellFormed pod) (distinct : pod.Distinct)
    (run : (h.injectedPod ns config pod).play answer s = (.ok pod', s')) :
    names "volumes" (spec (Json.merge pod pod')) =
      names "volumes" (spec pod) ++ (newVolumes (h.wanted pod) pod).map .str ∧
    names "initContainers" (spec (Json.merge pod pod')) =
      names "initContainers" (spec pod) ++ [.str Names.installer] := by
  obtain ⟨x, booked, first⟩ := injectedPod_ok nodup wf run
  have merged := first.merge distinct wf
  have added :=
    ((entries_configVolumes pod).append (entries_stock config (h.wanted pod))).stripNulls
  have volumes : (spec (Json.merge pod pod')).itemsAt "volumes" = _ := merged.volumes
  have inits : (spec (Json.merge pod pod')).itemsAt "initContainers" = _ := merged.initContainers
  constructor
  · rw [names, volumes, List.map_append, added.named]
    rfl
  · have installer : x.stripNulls.get "name" = .str Names.installer := by
      rw [Json.get_stripNulls booked.isContainer.object, booked.named]
      rfl
    rw [names, inits, Json.mergeItems_append ((distinct.get _).itemsAt _), List.map_append]
    simp [names, installer]

end Injected

/-- After a first injection the names of volumes and of init containers are distinct exactly if they
were, and none of what the wanted capabilities append was there before. -/
theorem distinct_after_injection_iff {σ : Type}
    {answer : σ → (c : ApiCall) → Except Failure c.Answer × σ} {s s' : σ} (h : Handler)
    (nodup : h.capabilities.Nodup) {request : Request} {deadline : Option Seconds} {pod : Json}
    (read : Json.ofBytes request.object = .ok pod) (wf : WellFormed pod) {report : Report}
    (ran : (h.handle request deadline).run answer s = (.ok report, s'))
    (injected : report.outcome = .injected) :
    ∃ pod', Patch.apply report.verdict.patch pod = some pod' ∧
      ((names "volumes" (spec pod')).Nodup ↔ (names "volumes" (spec pod)).Nodup ∧
        ∀ c ∈ h.wanted pod, ∀ v ∈ c.ownedVolumes, .str v ∉ names "volumes" (spec pod)) ∧
      ((names "initContainers" (spec pod')).Nodup ↔ (names "initContainers" (spec pod)).Nodup ∧
        .str Names.installer ∉ names "initContainers" (spec pod)) := by
  have distinct := Json.distinct_ofBytes read
  obtain ⟨ns, config, pod', _, _, run, sent⟩ := handle_of_injected read ran injected
  obtain ⟨volumes, inits⟩ := names_of_injectedPod nodup wf distinct run
  refine ⟨Json.merge pod pod', by rw [sent, Json.apply_between distinct], ?_, ?_⟩
  · have new : (newVolumes (h.wanted pod) pod).Nodup :=
      (nodup_stock (nodup.filter _)).sublist (newVolumes_sublist_stock _ pod)
    rw [volumes, nodup_append_names new, disjoint_newVolumes]
  · have one : (names "initContainers" (spec pod) ++ [Names.installer].map Json.str).Nodup ↔ _ :=
      nodup_append_names (List.nodup_singleton Names.installer)
    rw [inits]
    simpa using one

end Handler

theorem injected_shop (pod : Json)
    (checked : ((someHandler.handle (admissionOf pod) none).run Store.answer
      shop).1.toOption.map (·.outcome) = some .injected) : ∃ report s',
    (someHandler.handle (admissionOf pod) none).run Store.answer shop = (.ok report, s') ∧
      report.outcome = .injected := by
  rcases ran : (someHandler.handle (admissionOf pod) none).run Store.answer shop with ⟨r, s'⟩
  rw [ran] at checked
  cases r with
  | error e => cases checked
  | ok report => exact ⟨report, s', rfl, Option.some.inj checked⟩

theorem distinct_after_injection_web : ∃ report s' pod',
    (someHandler.handle (admissionOf web) none).run Store.answer shop = (.ok report, s') ∧
      report.outcome = .injected ∧ Patch.apply report.verdict.patch web = some pod' ∧
      (names "volumes" (spec pod')).Nodup ∧ (names "initContainers" (spec pod')).Nodup := by
  obtain ⟨report, s', ran, injected⟩ := injected_shop web (by decide +kernel)
  have read : Json.ofBytes (admissionOf web).object = .ok web := by decide +kernel
  obtain ⟨pod', applied, volumes, inits⟩ := Handler.distinct_after_injection_iff someHandler
    (by decide) read wellFormed_web ran injected
  refine ⟨report, s', pod', ran, injected, applied, ?_, ?_⟩
  · exact volumes.mpr ⟨List.nodup_nil, fun _ _ _ _ => List.not_mem_nil⟩
  · exact inits.mpr ⟨List.nodup_nil, List.not_mem_nil⟩

def copied : Json := .obj [
  ("metadata", .obj [("name", .str "web")]),
  ("spec", .obj [
    ("containers", .arr [.obj [("name", .str "app")]]),
    ("volumes", .arr [emptyVolume Names.agentBinVolume])])]

theorem wellFormed_copied : WellFormed copied where
  object := .intro (by simp)
  metadata := .intro (by simp)
  annotations := .inl rfl
  spec := .intro (by simp)
  containers := wellFormed_web.containers
  isContainer := wellFormed_web.isContainer
  initContainers := ⟨.inl rfl, nofun⟩
  isInitContainer := nofun
  volumes := ⟨.inr ⟨_, rfl⟩, fun v hv => by
    rw [List.mem_singleton.mp hv]
    exact isObject_emptyVolume _⟩

/-- Its names are distinct, and those of its volumes are not any more once it is injected. -/
theorem doubled_in_copied : marked copied = false ∧ (names "volumes" (spec copied)).Nodup ∧
    (names "initContainers" (spec copied)).Nodup ∧ ∃ report s' pod',
      (someHandler.handle (admissionOf copied) none).run Store.answer shop = (.ok report, s') ∧
      report.outcome = .injected ∧ Patch.apply report.verdict.patch copied = some pod' ∧
      ¬(names "volumes" (spec pod')).Nodup := by
  have read : Json.ofBytes (admissionOf copied).object = .ok copied := by decide +kernel
  have distinct := Json.distinct_ofBytes read
  obtain ⟨report, s', ran, injected⟩ := injected_shop copied (by decide +kernel)
  obtain ⟨ns, config, pod', _, _, run, sent⟩ := Handler.handle_of_injected read ran injected
  obtain ⟨volumes, _⟩ :=
    Handler.names_of_injectedPod (by decide) wellFormed_copied distinct run
  refine ⟨by decide +kernel, by decide +kernel, by decide +kernel, report, s',
    Json.merge copied pod', ran, injected, by rw [sent, Json.apply_between distinct], ?_⟩
  rw [volumes]
  decide +kernel

end Admission

end PodInstrumentation
