import PodInstrumentation.Proofs.Capability.Owning
import PodInstrumentation.Proofs.Capability.Telling
/-!
Two capabilities given in either order. What the first one leaves there changes nothing of what the
second one adds, save for what is shared: the deployment metadata of a container and the notes about
it, which whoever comes first writes for both. So the lists come out the same up to their order. -/
namespace PodInstrumentation

open Pod

structure Pod.Shuffled (x y : Json) : Prop where
  env : (y.itemsAt "env").Perm (x.itemsAt "env")
  mounts : (y.itemsAt "volumeMounts").Perm (x.itemsAt "volumeMounts")
  rest : ∀ key, key ≠ "env" → key ≠ "volumeMounts" → y.get? key = x.get? key

structure Draft.Shuffled (d e : Draft) : Prop where
  frame : Frame d.pod e.pod
  annotations : ∀ key, annotation? e.pod key = annotation? d.pod key
  volumes : (volumeList e.pod).Perm (volumeList d.pod)
  containers : List.Forall₂ Pod.Shuffled (containerList d.pod) (containerList e.pod)
  initContainers : initContainerList e.pod = initContainerList d.pod
  installer : Pod.Shuffled d.installer e.installer

theorem Pod.Frame.beside {pod pod₁ pod₂ : Json} (h : Frame pod pod₁) (h' : Frame pod pod₂) :
    Frame pod₁ pod₂ where
  top key hm hs := (h'.top key hm hs).trans (h.top key hm hs).symm
  metadata key ha := (h'.metadata key ha).trans (h.metadata key ha).symm
  spec key hc hi hv := (h'.spec key hc hi hv).trans (h.spec key hc hi hv).symm

theorem perm_swap_outer {α : Type} (front first middle last : List α) :
    (front ++ last ++ middle ++ first).Perm (front ++ first ++ middle ++ last) := by
  simp only [List.append_assoc]
  refine List.Perm.append_left front ?_
  have turned : ((last ++ middle) ++ first).Perm (first ++ (last ++ middle)) :=
    List.perm_append_comm
  rw [List.append_assoc] at turned
  exact turned.trans (List.Perm.append_left first List.perm_append_comm)

structure Supplied (a : Additions) (cs : List Json) (x x' : Json) : Prop where
  rest : ∀ key, key ≠ "env" → key ≠ "volumeMounts" → x'.get? key = x.get? key
  mounts : x'.itemsAt "volumeMounts" = x.itemsAt "volumeMounts" ++ a.installerMounts
  env : x'.itemsAt "env" = x.itemsAt "env" ++ a.installerVars ++
    news 1 cs (x.itemsAt "env" ++ a.installerVars)

theorem knows_installerVars {c : Capability} {vars : List Json}
    (entries : Entries c.installerNames vars) (m : Nat) : knows vars m = false := by
  have numbered : Numbered 0 vars := .zero entries fun _ => Capability.start_installerNames
  have none : ¬ (1 ≤ m ∧ m ≤ 0) := by omega
  rw [numbered.numbers, decide_eq_false none]

namespace Supplied

variable {a b : Additions} {cs cs' : List Json} {x y z z' : Json}

/-- Only the first capability tells of containers. -/
theorem env_twice (first : Supplied a cs x y) (second : Supplied b cs' y z)
    (length : cs'.length = cs.length) (quiet : ∀ m, knows a.installerVars m = false) :
    z.itemsAt "env" =
      x.itemsAt "env" ++ a.installerVars ++ news 1 cs (x.itemsAt "env") ++ b.installerVars := by
  have told : news 1 cs (x.itemsAt "env" ++ a.installerVars) = news 1 cs (x.itemsAt "env") :=
    news_congr cs fun m _ => by rw [knows_append, quiet, Bool.or_false]
  have all : news 1 cs' (y.itemsAt "env" ++ b.installerVars) = [] := by
    refine news_eq_nil fun m above below => ?_
    rw [knows_append, first.env, knows_news above (length ▸ below), Bool.true_or]
  rw [second.env, all, List.append_nil, first.env, told]

theorem shuffled {cs₁ cs₂ : List Json} {w : Json} (first : Supplied a cs x y)
    (second : Supplied b cs₁ y z) (first' : Supplied b cs x w) (second' : Supplied a cs₂ w z')
    (length₁ : cs₁.length = cs.length) (length₂ : cs₂.length = cs.length)
    (quiet : ∀ m, knows a.installerVars m = false) (quiet' : ∀ m, knows b.installerVars m = false) :
    Pod.Shuffled z z' where
  env := by
    rw [first.env_twice second length₁ quiet, first'.env_twice second' length₂ quiet']
    exact perm_swap_outer _ _ _ _
  mounts := by
    rw [second.mounts, first.mounts, second'.mounts, first'.mounts]
    have swapped := perm_swap_outer (x.itemsAt "volumeMounts") a.installerMounts []
      b.installerMounts
    simpa only [List.append_nil] using swapped
  rest key he hm := by
    rw [second'.rest key he hm, first'.rest key he hm, second.rest key he hm, first.rest key he hm]

end Supplied

namespace Capability

section Outfits

variable (j : Injector) (config : MonitoringConfig) (path : String)

def ownEnv : Capability → List Json
  | agent => Agent.libraryVars config path
  | enrichment => []

theorem env_outfit {x : Json} (h : IsContainer x) (c : Capability) :
    (c.outfit j config path x).itemsAt "env" = x.itemsAt "env" ++
      (metadataVars config j.version j.provisioner.clusterId x ++ c.ownEnv config path) := by
  rw [outfit, equip, itemsAt_extended_self (isObject_extended h.object _ _),
    itemsAt_extended_of_ne (by decide)]
  cases c <;> rfl

theorem mounts_outfit {x : Json} (h : IsContainer x) (c : Capability) :
    (c.outfit j config path x).itemsAt "volumeMounts" =
      x.itemsAt "volumeMounts" ++ c.mounts path x := by
  rw [outfit, equip, itemsAt_extended_of_ne (by decide), itemsAt_extended_self h.object]

theorem env_outfit_twice {x : Json} (h : IsContainer x) (c d : Capability) :
    (d.outfit j config path (c.outfit j config path x)).itemsAt "env" =
      x.itemsAt "env" ++ metadataVars config j.version j.provisioner.clusterId x ++
        c.ownEnv config path ++ d.ownEnv config path := by
  have worn := equipped_outfit j config path h c
  have once : metadataVars config j.version j.provisioner.clusterId (c.outfit j config path x) =
      [] := if_pos (metadata_mem_outfit j config path h c)
  rw [env_outfit j config path worn.isContainer, once, List.nil_append, env_outfit j config path h]
  simp only [List.append_assoc]

theorem mounts_outfit_twice {x : Json} (h : IsContainer x) (c d : Capability) :
    (d.outfit j config path (c.outfit j config path x)).itemsAt "volumeMounts" =
      x.itemsAt "volumeMounts" ++ c.mounts path x ++ d.mounts path x := by
  have worn := equipped_outfit j config path h c
  have name := worn.frame "name" (by decide) (by decide)
  have same : d.mounts path (c.outfit j config path x) = d.mounts path x := by
    cases d with
    | agent => rw [mounts, mounts, name]
    | enrichment => rfl
  rw [mounts_outfit j config path worn.isContainer, mounts_outfit j config path h, same]

theorem shuffled_outfit {x : Json} (h : IsContainer x) (c d : Capability) :
    Pod.Shuffled (d.outfit j config path (c.outfit j config path x))
      (c.outfit j config path (d.outfit j config path x)) where
  env := by
    rw [env_outfit_twice j config path h, env_outfit_twice j config path h]
    simpa only [List.append_nil] using perm_swap_outer _ (c.ownEnv config path) []
      (d.ownEnv config path)
  mounts := by
    rw [mounts_outfit_twice j config path h, mounts_outfit_twice j config path h]
    simpa only [List.append_nil] using perm_swap_outer _ (c.mounts path x) [] (d.mounts path x)
  rest key he hm := by
    have first := equipped_outfit j config path h c
    have first' := equipped_outfit j config path h d
    have second := equipped_outfit j config path first.isContainer d
    have second' := equipped_outfit j config path first'.isContainer c
    rw [second'.frame key he hm, first'.frame key he hm, second.frame key he hm,
      first.frame key he hm]

end Outfits

structure Made (c : Capability) (j : Injector) (config : MonitoringConfig) (path : String)
    (a : Additions) (d d' : Draft) : Prop where
  pod : Rewritten (c.outfit j config path) id (c.volumes config) [c.mark] d.pod d'.pod
  installer : Supplied a (containerList d.pod) d.installer d'.installer
  isContainer : IsContainer d'.installer

variable {j : Injector} {config : MonitoringConfig} {path : String} {a b : Additions}
  {c k : Capability}

theorem told_supplied (a : Additions) (x : Json) :
    Told fun y => IsContainer y ∧
      (∀ key, key ≠ "env" → key ≠ "volumeMounts" → y.get? key = x.get? key) ∧
      y.itemsAt "volumeMounts" = x.itemsAt "volumeMounts" ++ a.installerMounts where
  isContainer _ h := h.1
  noted number y z h told := by
    obtain ⟨isContainer, rest, mounts⟩ := h
    obtain ⟨added, more, none⟩ := told.mounts
    have nothing : added = [] := List.map_eq_nil_iff.mp none.named
    refine ⟨told.isContainer, fun key he hm => (told.frame key he hm).trans (rest key he hm), ?_⟩
    rw [more, nothing, List.append_nil, mounts]

theorem exists_made {pod x : Json} (wf : WellFormed pod) (hx : IsContainer x)
    (gives : c.Gives j config (Agent.installPath pod) a) (longer : Edit.Keeps Longer a.container) :
    ∃ d, a.edit.apply ⟨pod, x⟩ = (.ok (), d) ∧
      c.Made j config (Agent.installPath pod) a ⟨pod, x⟩ d := by
  have withVars := equipped_equip hx gives.vars .nil
  have supplied := Additions.equipped_supply hx gives.vars gives.mounts
  have given : IsContainer (a.supply x) ∧
      (∀ key, key ≠ "env" → key ≠ "volumeMounts" → (a.supply x).get? key = x.get? key) ∧
      (a.supply x).itemsAt "volumeMounts" = x.itemsAt "volumeMounts" ++ a.installerMounts := by
    refine ⟨supplied.isContainer, supplied.frame, ?_⟩
    rw [Additions.supply, equip, itemsAt_extended_of_ne (by decide),
      itemsAt_extended_self withVars.isContainer.object, equip, itemsAt_extended_of_ne (by decide)]
    rfl
  obtain ⟨pod', x', applied, rewritten, isContainer, rest, mounts⟩ :=
    gives.edit_apply wf hx (told_supplied a x) given
  obtain ⟨length, changed, env⟩ := Additions.edit_told longer applied
  rw [told_eq_news changed, List.map_fst_zip (Nat.le_of_eq length.symm)] at env
  exact ⟨_, applied, rewritten, ⟨rest, mounts, env⟩, isContainer⟩

theorem made_shuffled {d d₁ d₂ e₁ e₂ : Draft} (wf : WellFormed d.pod)
    (vars : Entries c.installerNames a.installerVars)
    (vars' : Entries k.installerNames b.installerVars) (first : c.Made j config path a d d₁)
    (second : k.Made j config path b d₁ d₂) (first' : k.Made j config path b d e₁)
    (second' : c.Made j config path a e₁ e₂) : d₂.Shuffled e₂ := by
  have there := first.pod.trans second.pod
  have here := first'.pod.trans second'.pod
  refine ⟨there.frame.beside here.frame, fun key => ?_, ?_, ?_, ?_, ?_⟩
  · rw [here.annotations, there.annotations]
    simp only [List.mem_append, List.mem_singleton, or_comm]
  · rw [here.volumes, there.volumes]
    exact List.Perm.append_left _ List.perm_append_comm
  · rw [there.containers, here.containers, List.forall₂_map_left_iff, List.forall₂_map_right_iff,
      List.forall₂_same]
    intro y hy
    rw [Function.comp_apply, Function.comp_apply]
    exact shuffled_outfit j config path (wf.isContainer y hy) c k
  · rw [here.initContainers, there.initContainers]
  · exact first.installer.shuffled second.installer first'.installer second'.installer
      (by rw [first.pod.containers, List.length_map])
      (by rw [first'.pod.containers, List.length_map]) (knows_installerVars vars)
      (knows_installerVars vars')

end Capability

end PodInstrumentation
