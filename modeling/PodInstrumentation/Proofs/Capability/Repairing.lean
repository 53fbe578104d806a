import PodInstrumentation.Proofs.Capability.Bookkeeping
/-!
Repairs of well-formed pods. Each succeeds and gives every container the capabilities that the pod
wants and carries and that the container lacks; beside the containers at most the installer is
changed. -/
namespace PodInstrumentation

open Pod

namespace Capability

def lacking (pod : Json) (cs : List Capability) (x : Json) : List Capability :=
  cs.filter fun c => c.carries pod && !c.has x

theorem lacking_outfit (j : Injector) (config : MonitoringConfig) (path : String) (pod : Json)
    {cs : List Capability} {c : Capability} (new : c ∉ cs) {x : Json} (h : IsContainer x) :
    lacking pod cs (c.outfit j config path x) = lacking pod cs x := by
  refine List.filter_congr fun d hd => ?_
  have apart : ¬ c = d := fun e => new (e ▸ hd)
  simp [has_outfit j config path h, apart]

end Capability

section Site

variable (j : Injector) (config : MonitoringConfig) {pod : Json} (wf : WellFormed pod)
  {p : Json → Prop} (told : Told p)
include wf told

theorem reinvoke_apply (c : Capability) {y : Json} (hy : IsContainer y) (number : Int)
    {hasInstaller : Bool} {x : Json} (hx : hasInstaller = true → p x) :
    ∃ x', (c.reinvoke j config pod number hasInstaller).apply ⟨y, x⟩ =
      (.ok (), ⟨c.outfit j config (Agent.installPath pod) y, x'⟩) ∧
      (hasInstaller = true → p x') := by
  have edited := Capability.containerEdit_apply j config wf hy c
  unfold Capability.reinvoke
  cases hasInstaller with
  | false => exact ⟨x, onContainer_apply edited x, nofun⟩
  | true =>
    obtain ⟨x', noted, hx'⟩ := onInstaller_apply told hy.object (hx rfl) number
    refine ⟨x', ?_, fun _ => hx'⟩
    simp only [if_true]
    rw [Edit.apply_bind_ok noted, onContainer_apply edited]

theorem repairSite_apply (found : Option (Nat × Json)) (number : Int) {cs : List Capability}
    (nodup : cs.Nodup) {y : Json} (hy : IsContainer y) {x : Json} (hx : found.isSome = true → p x) :
    ∃ x', (repairSite j config pod (.ok found) number cs).apply ⟨y, x⟩ =
      (.ok (!(Capability.lacking pod cs y).isEmpty), ⟨Capability.dress j config
        (Agent.installPath pod) (Capability.lacking pod cs y) y, x'⟩) ∧
      (found.isSome = true → p x') := by
  induction cs generalizing y x with
  | nil => exact ⟨x, rfl, hx⟩
  | cons c cs ih =>
    rw [List.nodup_cons] at nodup
    have look : (Edit.look fun s : Site => do
        if ← c.podInjected pod then return !(← c.containerInjected s.container)
        else return false).apply ⟨y, x⟩ = (.ok (c.carries pod && !c.has y), ⟨y, x⟩) := by
      simp only [Edit.apply_look, Capability.podInjected_ok wf, Capability.containerInjected_ok hy,
        ok_bind]
      cases c.carries pod <;> rfl
    unfold repairSite
    rw [Edit.apply_bind_ok look]
    cases lacks : (c.carries pod && !c.has y) with
    | false =>
      obtain ⟨x', repaired, hx'⟩ := ih nodup.2 hy hx
      refine ⟨x', ?_, hx'⟩
      rw [Capability.lacking, List.filter_cons_of_neg (by simp [lacks])]
      exact repaired
    | true =>
      obtain ⟨x₁, invoked, hx₁⟩ := reinvoke_apply j config wf told c hy number hx
      have equipped := Capability.equipped_outfit j config (Agent.installPath pod) hy c
      obtain ⟨x', repaired, hx'⟩ := ih nodup.2 equipped.isContainer hx₁
      -- What was given now does not change what the container lacks of the rest.
      rw [Capability.lacking_outfit j config _ pod nodup.1 hy] at repaired
      have all : Capability.lacking pod (c :: cs) y = c :: Capability.lacking pod cs y :=
        List.filter_cons_of_pos lacks
      have looked : (Edit.look fun _ : Site => (.ok found : Shaped (Option (Nat × Json)))).apply
          ⟨y, x⟩ = (.ok found, ⟨y, x⟩) := rfl
      refine ⟨x', ?_, hx'⟩
      rw [all, if_pos rfl, Edit.apply_bind_ok looked, Edit.apply_bind_ok invoked,
        Edit.apply_bind_ok repaired]
      rfl

theorem sweep_repairSite (found : Option (Nat × Json)) {cs : List Capability} (nodup : cs.Nodup)
    {ys : List Json} (hys : ∀ y ∈ ys, IsContainer y) {x : Json} (hx : found.isSome = true → p x) :
    ∃ x', sweep (fun i => repairSite j config pod (.ok found) (i + 1) cs) 0 ys x =
      (.ok (ys.countP fun y => !(Capability.lacking pod cs y).isEmpty),
        ys.map fun y => Capability.dress j config (Agent.installPath pod)
          (Capability.lacking pod cs y) y, x') ∧ (found.isSome = true → p x') :=
  sweep_ok (fun i y hy _ hz =>
    repairSite_apply j config wf told found (i + 1) nodup (hys y hy) hz) 0 hx

end Site

/-- The init containers after a repair: as they were if none is the installer, else with the first
that is changed to one of which `p` holds. -/
def Reinstalled (p : Json → Prop) (xs xs' : List Json) : Prop :=
  ((∀ x ∈ xs, Named Names.installer x = false) ∧ xs' = xs) ∨
  ∃ i x x', xs[i]? = some x ∧ Named Names.installer x = true ∧ p x' ∧ xs' = xs.set i x'

namespace Reinstalled

variable {p : Json → Prop} {xs xs' : List Json}

theorem mem (h : Reinstalled p xs xs') {y : Json} (hy : y ∈ xs') : y ∈ xs ∨ p y := by
  rcases h with ⟨_, rfl⟩ | ⟨i, x, x', _, _, hx', rfl⟩
  · exact .inl hy
  · rcases List.mem_or_eq_of_mem_set hy with old | rfl
    · exact .inl old
    · exact .inr hx'

theorem names (named : ∀ x, p x → x.get "name" = .str Names.installer) (h : Reinstalled p xs xs') :
    xs'.map (·.get "name") = xs.map (·.get "name") := by
  rcases h with ⟨_, rfl⟩ | ⟨i, x, x', found, isInstaller, hx', rfl⟩
  · rfl
  · have name : x.get "name" = .str Names.installer := of_decide_eq_true isInstaller
    have there : (xs.map (·.get "name"))[i]? = some (x'.get "name") := by
      rw [List.getElem?_map, found, named x' hx', ← name]
      rfl
    rw [List.map_set]
    obtain ⟨inside, same⟩ := List.getElem?_eq_some_iff.mp there
    rw [← same, List.set_getElem_self]

theorem merge (merged : ∀ x x', p x → p x' → p (Json.merge x x')) (distinct : ∀ x ∈ xs, x.Distinct)
    (old : ∀ x ∈ xs, Named Names.installer x = true → p x) (h : Reinstalled p xs xs') :
    Reinstalled p xs (Json.mergeItems xs xs') := by
  rcases h with ⟨absent, rfl⟩ | ⟨i, x, x', found, isInstaller, hx', rfl⟩
  · exact .inl ⟨absent, by simpa using Json.mergeItems_append distinct []⟩
  · have hx := old x (List.mem_of_getElem? found) isInstaller
    exact .inr ⟨i, x, _, found, isInstaller, merged x x' hx hx',
      Json.mergeItems_set distinct found x'⟩

end Reinstalled

theorem repair_ok (j : Injector) (config : MonitoringConfig) {cs : List Capability}
    (nodup : cs.Nodup) {pod : Json} (wf : WellFormed pod) {p : Json → Prop} (told : Told p)
    (hp : ∀ x ∈ initContainerList pod, Named Names.installer x = true → p x) :
    ∃ pod' xs', repair j config cs pod = (.ok ((containerList pod).countP fun x =>
        !(Capability.lacking pod (cs.filter (Capability.wants pod)) x).isEmpty), pod') ∧
      Rewritten (fun x => Capability.dress j config (Agent.installPath pod)
        (Capability.lacking pod (cs.filter (Capability.wants pod)) x) x) (fun _ => xs') [] []
        pod pod' ∧
      Reinstalled p (initContainerList pod) xs' := by
  have nodup' := nodup.filter (Capability.wants pod)
  unfold repair
  simp only [Capability.wanted_ok wf, containers_each wf]
  generalize cs.filter (Capability.wants pod) = ws at nodup' ⊢
  have dressed : ∀ c ∈ containerList pod, IsContainer (Capability.dress j config
      (Agent.installPath pod) (Capability.lacking pod ws c) c) := by
    intro c hc
    obtain ⟨_, equipped⟩ := Capability.equipped_dress j config (Agent.installPath pod)
      (wf.isContainer c hc) (Capability.lacking pod ws c)
    exact equipped.isContainer
  have put := rewritten_putContainers wf dressed
  rcases findInstaller_ok wf with ⟨found, absent⟩ | ⟨before, x, after, found, split, named, _⟩
  · obtain ⟨x', swept, _⟩ := sweep_repairSite j config wf told none nodup' wf.isContainer
      (x := .null) nofun
    rw [found, swept]
    exact ⟨_, _, rfl, { put with initContainers := put.initContainers }, .inl ⟨absent, rfl⟩⟩
  · have there : (initContainerList pod)[before.length]? = some x := by simp [split]
    obtain ⟨x', swept, hx'⟩ := sweep_repairSite j config wf told (some (before.length, x)) nodup'
      wf.isContainer fun _ => hp x (List.mem_of_getElem? there) named
    rw [found, swept]
    have again := rewritten_putInstaller put.wellFormed (by rw [put.initContainers]; exact there)
      (told.isContainer x' (hx' rfl))
    have both := put.trans again
    exact ⟨_, _, rfl, { both with initContainers := both.initContainers },
      .inr ⟨_, x, x', there, named, hx' rfl, rfl⟩⟩

end PodInstrumentation
