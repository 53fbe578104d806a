import PodInstrumentation.Proofs.Admission.Additive
import PodInstrumentation.Proofs.Admission.History
import PodInstrumentation.Proofs.Capability.Telling
/-!
The installer that a first injection leaves in a pod. Its variables begin with the number of
containers that the pod had, and those containers are the ones that it has numbers for. -/
namespace PodInstrumentation

open Pod

theorem Json.Grows.isObject_of_member {r : String → Room} {v w : Json} {key : String}
    (h : Grows (.object r) v w) (distinct : v.Distinct) (member : w.get key ≠ .null) :
    v.IsObject := by
  have fields : ∃ fs, v = .obj fs := by
    rcases h with rfl | ⟨fs, _, rfl, _⟩
    · cases w with
      | obj fs => exact ⟨fs, rfl⟩
      | null | bool | int | float | str | arr => exact absurd rfl member
    · exact ⟨fs, rfl⟩
  obtain ⟨fs, rfl⟩ := fields
  cases distinct with
  | obj nodup => exact .intro nodup

theorem Json.Grows.itemsAt_merge {r : String → Room} {items : Room} {v w : Json} {key : String}
    (h : Grows (.object r) v w) (room : r key = .list items) (distinct : v.Distinct)
    {ys : List Json} (appended : w.get key = .arr (v.itemsAt key ++ ys)) :
    (Json.merge v w).itemsAt key = v.itemsAt key ++ ys.map Json.stripNulls := by
  have object := h.isObject_of_member distinct (by rw [appended]; nofun)
  have listed : v.get key = .null ∨ ∃ xs, v.get key = .arr xs := by
    refine (h.get key).imp And.left fun grown => ?_
    rw [room] at grown
    rcases grown with same | ⟨xs, _, same, _⟩
    · exact ⟨_, same.symm.trans appended⟩
    · exact ⟨xs, same⟩
  rw [Json.itemsAt, Json.get_merge object (h.isObject object), appended]
  rcases listed with none | ⟨xs, same⟩
  · have vacant : v.itemsAt key = [] := by
      rw [Json.itemsAt, none]
      rfl
    rw [vacant, none, Json.merge_null_left]
    exact Json.stripItems_eq_map ys
  · have found : v.itemsAt key = xs := itemsAt_of_arr same
    have fine : ∀ x ∈ xs, x.Distinct := found ▸ (distinct.itemsAt key)
    rw [found, same, Json.merge_arr, Json.mergeItems_append fine]
    rfl

namespace Pod

theorem initContainerList_merge {pod pod' : Json} {inits : Room}
    (h : Json.Grows (podRoom (.list inits)) pod pod') (distinct : pod.Distinct) {ys : List Json}
    (appended : (spec pod').get "initContainers" = .arr (initContainerList pod ++ ys)) :
    initContainerList (Json.merge pod pod') =
      initContainerList pod ++ ys.map Json.stripNulls := by
  have member : pod'.get "spec" ≠ .null := by
    intro none
    rw [spec, none] at appended
    cases appended
  have object := h.isObject_of_member distinct member
  have parts : spec (Json.merge pod pod') = Json.merge (spec pod) (spec pod') :=
    Json.get_merge object (h.isObject object) "spec"
  rw [initContainerList, parts]
  rcases h.get "spec" with ⟨none, begun⟩ | grown
  · have vacant : initContainerList pod = [] := by
      rw [initContainerList, spec, none]
      rfl
    have new : (spec pod').IsObject := begun.isObject (.intro List.nodup_nil)
    rw [spec, none, Json.merge_null_left, Json.itemsAt_stripNulls new, itemsAt_of_arr appended,
      vacant]
    rfl
  · exact grown.itemsAt_merge rfl (distinct.get _) appended

theorem initContainerList_of_grows {pod pod' : Json} (h : Json.Grows (podRoom .closed) pod pod') :
    initContainerList pod' = initContainerList pod := by
  have same : (spec pod').get "initContainers" = (spec pod).get "initContainers" := by
    rcases h.get "spec" with ⟨none, begun⟩ | grown
    · rw [spec, begun.get_closed rfl, spec, none]
      rfl
    · exact grown.get_closed rfl
  rw [initContainerList, Json.itemsAt, same]
  rfl

end Pod

namespace Admission

/-- The variables of an installer that was made for a pod: the number of containers comes first, and
it is the numbers up to this that are in use. -/
structure Installed (pod : Json) (env : List Json) : Prop where
  counted : ∃ cs count rest, containers pod = .ok cs ∧ containerCount cs = .ok count ∧
    env = envVar Names.countVar (.str (toString count)) :: rest
  numbered : Numbered (containerList pod).length env

theorem Installed.stripNulls {pod : Json} {env : List Json} (h : Installed pod env) :
    Installed pod (env.map Json.stripNulls) where
  counted := by
    obtain ⟨cs, count, rest, read, counted, rfl⟩ := h.counted
    exact ⟨cs, count, rest.map Json.stripNulls, read, counted, rfl⟩
  numbered := h.numbered.stripNulls

namespace Handler

section Fresh

variable {σ : Type} {answer : σ → (c : ApiCall) → Except Failure c.Answer × σ} {s s' : σ}
  {h : Handler} {ns : String} {config : MonitoringConfig} {pod pod' : Json}

theorem injectedPod_installer (run : (h.injectedPod ns config pod).play answer s = (.ok pod', s'))
    {wanted : List Capability} (wants : Capability.wanted pod h.capabilities = .ok wanted)
    (some : wanted ≠ []) : ∃ x, x.IsObject ∧ Named Names.installer x = true ∧
      (spec pod').get "initContainers" = .arr (initContainerList pod ++ [x]) ∧
      Installed pod (x.itemsAt "env") := by
  obtain ⟨x, pod₁, names, draft, pod₂, made, added, ran, placed, marking⟩ := injectedPod_eq_ok run
  obtain ⟨named, isContainer, core, _⟩ := newInstaller_ok made
  obtain ⟨grown, told⟩ : Draft.Grows .closed ⟨pod₁, x⟩ draft := inject_grows ran
  have wants₁ :=
    (Capability.wanted_of_annotations (annotations_addConfigVolume added) _).trans wants
  have numbered := inject_numbered ran (.zero core fun _ => start_coreNames)
  rw [if_neg (inject_some ran wants₁ some), containerList_addConfigVolume added,
    Nat.zero_max] at numbered
  have inits : initContainerList draft.pod = initContainerList pod :=
    (initContainerList_of_grows grown).trans
      (initContainerList_of_grows (addConfigVolume_grows added))
  have put := (append_eq_ok (changePart_eq_ok placed).1).1
  rw [Json.itemsAt, get_begun] at put
  refine ⟨draft.installer, told.isObject isContainer.object, ?_, ?_, ⟨?_, numbered⟩⟩
  · exact decide_eq_true ((told.get_closed rfl).trans named)
  · rw [spec_annotate marking, ← inits]
    exact put
  · obtain ⟨cs, count, rest, read, counted, env⟩ := newInstaller_env made
    have keeps : x.itemsAt "env" <+: draft.installer.itemsAt "env" :=
      told.itemsAt_prefix rfl
    obtain ⟨more, longer⟩ := keeps
    exact ⟨cs, count, rest ++ more, read, counted, by rw [← longer, env]; rfl⟩

end Fresh

end Handler

section Admission

variable {cs : List Capability} {start pod : Json} {patch : Patch}

/-- A first injection leaves its installer in the pod, if the pod brought none of its own. -/
theorem installed_of_fresh (admitted : Admitted cs start patch pod) (changed : patch ≠ [])
    (new : isInjected start = .ok false) (alone : installer? start = none) :
    ∃ x, installer? pod = some x ∧ Installed start (x.itemsAt "env") := by
  obtain @⟨_, _, _, _, h, _, _, report, rfl, read, ran, rfl, applied⟩ := admitted
  have distinct := Json.distinct_ofBytes read
  obtain ⟨ns, config, _, pod', _, _, sent, ⟨_, wanted, wants, some, _, _, injected⟩ | ⟨old, _⟩⟩ :=
    Handler.handle_eq_ok read ran changed
  · rw [sent, Json.apply_between distinct] at applied
    cases applied
    obtain ⟨x, object, named, put, installed⟩ := Handler.injectedPod_installer injected wants some
    have grown := Handler.injectedPod_grows injected
    have listed := initContainerList_merge grown distinct put
    have others : ∀ y ∈ initContainerList start, Named Names.installer y = false := by
      simpa [installer?] using alone
    refine ⟨x.stripNulls, installer?_append listed ?_ others, ?_⟩
    · rw [named_stripNulls object, named]
    · rw [Json.itemsAt_stripNulls object]
      exact installed.stripNulls
  · cases new.symm.trans old

end Admission

end Admission

end PodInstrumentation
