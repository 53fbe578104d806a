import PodInstrumentation.Capability.Pipeline
import PodInstrumentation.Proofs.Json.Merge
import PodInstrumentation.Proofs.Pod.Reading
/-!
Changes of well-formed pods. All that the operator changes of a pod is its containers, its init
containers, its volumes and its annotations; a rewriting says how, and that the rest stays. Changes
made one after the other make one rewriting, and so does a change sent as a patch. -/
namespace PodInstrumentation.Pod

structure Frame (pod pod' : Json) : Prop where
  top : ∀ key, key ≠ "metadata" → key ≠ "spec" → pod'.get? key = pod.get? key
  metadata : ∀ key, key ≠ "annotations" → (metadata pod').get? key = (Pod.metadata pod).get? key
  spec : ∀ key, key ≠ "containers" → key ≠ "initContainers" → key ≠ "volumes" →
    (spec pod').get? key = (Pod.spec pod).get? key

namespace Frame

theorem refl (pod : Json) : Frame pod pod := ⟨fun _ _ _ => rfl, fun _ _ => rfl, fun _ _ _ _ => rfl⟩

theorem trans {pod pod' pod'' : Json} (h : Frame pod pod') (h' : Frame pod' pod'') :
    Frame pod pod'' where
  top key hm hs := (h'.top key hm hs).trans (h.top key hm hs)
  metadata key ha := (h'.metadata key ha).trans (h.metadata key ha)
  spec key hc hi hv := (h'.spec key hc hi hv).trans (h.spec key hc hi hv)

end Frame

/-- A pod rewritten: its containers one by one, its init containers by a change of their list, and
with volumes added and annotations set to true. -/
structure Rewritten (dress : Json → Json) (inits : List Json → List Json) (volumes : List Json)
    (marks : List String) (pod pod' : Json) : Prop where
  wellFormed : WellFormed pod'
  frame : Frame pod pod'
  containers : containerList pod' = (containerList pod).map dress
  initContainers : initContainerList pod' = inits (initContainerList pod)
  volumes : volumeList pod' = volumeList pod ++ volumes
  annotations : ∀ key, annotation? pod' key =
    if key ∈ marks then some (.str "true") else annotation? pod key

namespace Rewritten

theorem refl {pod : Json} (wf : WellFormed pod) : Rewritten id id [] [] pod pod :=
  ⟨wf, Frame.refl pod, by simp, rfl, by simp, by simp⟩

theorem trans {dress dress' : Json → Json} {inits inits' : List Json → List Json}
    {volumes volumes' : List Json} {marks marks' : List String} {pod pod' pod'' : Json}
    (h : Rewritten dress inits volumes marks pod pod')
    (h' : Rewritten dress' inits' volumes' marks' pod' pod'') :
    Rewritten (dress' ∘ dress) (inits' ∘ inits) (volumes ++ volumes') (marks ++ marks') pod pod''
    where
  wellFormed := h'.wellFormed
  frame := h.frame.trans h'.frame
  containers := by rw [h'.containers, h.containers, List.map_map]
  initContainers := by rw [h'.initContainers, h.initContainers, Function.comp_apply]
  volumes := by rw [h'.volumes, h.volumes, List.append_assoc]
  annotations key := by
    rw [h'.annotations, h.annotations]
    by_cases hm : key ∈ marks <;> by_cases hm' : key ∈ marks' <;> simp [hm, hm']

end Rewritten

def setSpec (pod : Json) (key : String) (value : Json) : Json :=
  pod.set "spec" ((spec pod).set key value)

def annotated (pod : Json) (key value : String) : Json :=
  pod.set "metadata" ((metadata pod).set "annotations"
    ((((metadata pod).get "annotations").orElse .empty).set key (.str value)))

theorem spec_setSpec {pod : Json} (h : pod.IsObject) (key : String) (value : Json) :
    spec (setSpec pod key value) = (spec pod).set key value := Json.get_set_self h "spec" _

theorem metadata_setSpec (pod : Json) (key : String) (value : Json) :
    metadata (setSpec pod key value) = metadata pod := Json.get_set_of_ne (by decide) pod _

theorem spec_annotated (pod : Json) (key value : String) :
    spec (annotated pod key value) = spec pod := Json.get_set_of_ne (by decide) pod _

theorem metadata_annotated {pod : Json} (h : pod.IsObject) (key value : String) :
    metadata (annotated pod key value) = (metadata pod).set "annotations"
      ((((metadata pod).get "annotations").orElse .empty).set key (.str value)) :=
  Json.get_set_self h "metadata" _

theorem frame_setSpec {pod : Json} (h : pod.IsObject) {key : String}
    (written : key = "containers" ∨ key = "initContainers" ∨ key = "volumes") (value : Json) :
    Frame pod (setSpec pod key value) where
  top other _ hs := Json.get?_set_of_ne hs pod _
  metadata other _ := by rw [metadata_setSpec]
  spec other hc hi hv := by
    rw [spec_setSpec h]
    refine Json.get?_set_of_ne ?_ _ _
    rcases written with rfl | rfl | rfl <;> assumption

def withContainers (cs : List Json) (pod : Json) : Json := setSpec pod "containers" (.arr cs)

theorem annotation?_withContainers (cs : List Json) (pod : Json) (key : String) :
    annotation? (withContainers cs pod) key = annotation? pod key := by
  rw [annotation?, withContainers, metadata_setSpec]

section Lists

variable {pod : Json} (wf : WellFormed pod)
include wf

theorem wellFormed_setSpec {key : String} {value : Json}
    (containers : (spec (setSpec pod key value)).Listed "containers")
    (isContainer : ∀ c ∈ containerList (setSpec pod key value), IsContainer c)
    (initContainers : (spec (setSpec pod key value)).Listed "initContainers")
    (isInitContainer : ∀ c ∈ initContainerList (setSpec pod key value), IsContainer c)
    (volumes : (spec (setSpec pod key value)).Listed "volumes") :
    WellFormed (setSpec pod key value) where
  object := wf.object.set _ _
  metadata := metadata_setSpec pod key value ▸ wf.metadata
  annotations := metadata_setSpec pod key value ▸ wf.annotations
  spec := spec_setSpec wf.object key value ▸ wf.spec.set _ _
  containers := containers
  isContainer := isContainer
  initContainers := initContainers
  isInitContainer := isInitContainer
  volumes := volumes

theorem listed_setSpec_of_ne {key other : String} (ne : other ≠ key)
    (h : (spec pod).Listed other) (value : Json) :
    (spec (setSpec pod key value)).Listed other :=
  spec_setSpec wf.object key value ▸ h.set_of_ne ne value

theorem listed_setSpec_self {key : String} {xs : List Json} (objects : ∀ x ∈ xs, x.IsObject) :
    (spec (setSpec pod key (.arr xs))).Listed key :=
  spec_setSpec wf.object key _ ▸ .set_self wf.spec objects

theorem itemsAt_setSpec_of_ne {key other : String} (ne : other ≠ key) (value : Json) :
    (spec (setSpec pod key value)).itemsAt other = (spec pod).itemsAt other := by
  rw [spec_setSpec wf.object, Json.itemsAt_set_of_ne ne]

theorem itemsAt_setSpec_self (key : String) (xs : List Json) :
    (spec (setSpec pod key (.arr xs))).itemsAt key = xs := by
  rw [spec_setSpec wf.object, Json.itemsAt_set_self wf.spec]

theorem rewritten_volumes {xs : List Json} (objects : ∀ x ∈ xs, x.IsObject) :
    Rewritten id id xs [] pod (setSpec pod "volumes" (.arr (volumeList pod ++ xs))) where
  wellFormed := by
    refine wellFormed_setSpec wf ?_ ?_ ?_ ?_ ?_
    · exact listed_setSpec_of_ne wf (by decide) wf.containers _
    · simpa only [containerList, itemsAt_setSpec_of_ne wf (by decide : "containers" ≠ "volumes")]
        using wf.isContainer
    · exact listed_setSpec_of_ne wf (by decide) wf.initContainers _
    · simpa only [initContainerList,
        itemsAt_setSpec_of_ne wf (by decide : "initContainers" ≠ "volumes")]
        using wf.isInitContainer
    · exact listed_setSpec_self wf (List.forall_mem_append.mpr ⟨wf.volumes.2, objects⟩)
  frame := frame_setSpec wf.object (by simp) _
  containers := (itemsAt_setSpec_of_ne wf (by decide) _).trans (List.map_id _).symm
  initContainers := itemsAt_setSpec_of_ne wf (by decide) _
  volumes := itemsAt_setSpec_self wf _ _
  annotations key := by simp [annotation?, metadata_setSpec]

theorem wellFormed_withContainers {cs : List Json} (all : ∀ c ∈ cs, IsContainer c) :
    WellFormed (withContainers cs pod) := by
  refine wellFormed_setSpec wf ?_ ?_ ?_ ?_ ?_
  · exact listed_setSpec_self wf fun c hc => (all c hc).object
  · simpa only [containerList, itemsAt_setSpec_self wf] using all
  · exact listed_setSpec_of_ne wf (by decide) wf.initContainers _
  · simpa only [initContainerList,
      itemsAt_setSpec_of_ne wf (by decide : "initContainers" ≠ "containers")]
      using wf.isInitContainer
  · exact listed_setSpec_of_ne wf (by decide) wf.volumes _

theorem containerList_withContainers (cs : List Json) :
    containerList (withContainers cs pod) = cs := itemsAt_setSpec_self wf _ _

theorem initContainerList_withContainers (cs : List Json) :
    initContainerList (withContainers cs pod) = initContainerList pod :=
  itemsAt_setSpec_of_ne wf (by decide) _

theorem volumeList_withContainers (cs : List Json) :
    volumeList (withContainers cs pod) = volumeList pod := itemsAt_setSpec_of_ne wf (by decide) _

theorem rewritten_containers {dress : Json → Json}
    (dressed : ∀ c ∈ containerList pod, IsContainer (dress c)) :
    Rewritten dress id [] [] pod (withContainers ((containerList pod).map dress) pod) where
  wellFormed := wellFormed_withContainers wf (by simpa using dressed)
  frame := frame_setSpec wf.object (by simp) _
  containers := containerList_withContainers wf _
  initContainers := initContainerList_withContainers wf _
  volumes := (volumeList_withContainers wf _).trans (List.append_nil _).symm
  annotations key := by rw [annotation?_withContainers, if_neg (by simp)]

theorem rewritten_initContainers {inits : List Json → List Json}
    (all : ∀ c ∈ inits (initContainerList pod), IsContainer c) :
    Rewritten id inits [] [] pod
      (setSpec pod "initContainers" (.arr (inits (initContainerList pod)))) where
  wellFormed := by
    refine wellFormed_setSpec wf ?_ ?_ ?_ ?_ ?_
    · exact listed_setSpec_of_ne wf (by decide) wf.containers _
    · simpa only [containerList,
        itemsAt_setSpec_of_ne wf (by decide : "containers" ≠ "initContainers")]
        using wf.isContainer
    · exact listed_setSpec_self wf fun c hc => (all c hc).object
    · simpa only [initContainerList, itemsAt_setSpec_self wf] using all
    · exact listed_setSpec_of_ne wf (by decide) wf.volumes _
  frame := frame_setSpec wf.object (by simp) _
  containers := (itemsAt_setSpec_of_ne wf (by decide) _).trans (List.map_id _).symm
  initContainers := itemsAt_setSpec_self wf _ _
  volumes := (itemsAt_setSpec_of_ne wf (by decide) _).trans (List.append_nil _).symm
  annotations key := by simp [annotation?, metadata_setSpec]

theorem isObject_annotations : (((metadata pod).get "annotations").orElse .empty).IsObject := by
  rcases wf.annotations with none | ⟨object, _⟩
  · rw [none]
    exact .intro List.nodup_nil
  · rwa [orElse_empty object]

theorem get?_annotations (key : String) :
    (((metadata pod).get "annotations").orElse .empty).get? key = annotation? pod key := by
  rcases wf.annotations with none | ⟨object, _⟩
  · rw [annotation?, none]
    rfl
  · rw [orElse_empty object]

theorem annotation?_annotated (key value other : String) :
    annotation? (annotated pod key value) other =
      if other = key then some (.str value) else annotation? pod other := by
  rw [annotation?, metadata_annotated wf.object, Json.get_set_self wf.metadata]
  split
  · rename_i h
    rw [h, Json.get?_set_self (isObject_annotations wf)]
  · rename_i h
    rw [Json.get?_set_of_ne h, get?_annotations wf]

theorem rewritten_annotated (key : String) :
    Rewritten id id [] [key] pod (annotated pod key "true") := by
  have same : spec (annotated pod key "true") = spec pod := spec_annotated pod key "true"
  have inner := metadata_annotated wf.object key "true"
  refine
    { wellFormed :=
        { object := wf.object.set _ _
          metadata := inner ▸ wf.metadata.set _ _
          annotations := ?_
          spec := same ▸ wf.spec
          containers := same ▸ wf.containers
          isContainer := ?_
          initContainers := same ▸ wf.initContainers
          isInitContainer := ?_
          volumes := same ▸ wf.volumes }
      frame :=
        { top := fun other hm _ => Json.get?_set_of_ne hm pod _
          metadata := fun other ha => by rw [inner, Json.get?_set_of_ne ha]
          spec := fun other _ _ _ => by rw [same] }
      containers := ?_
      initContainers := ?_
      volumes := ?_
      annotations := fun other => by simp [annotation?_annotated wf] }
  · rw [inner, Json.get_set_self wf.metadata]
    refine .inr ⟨(isObject_annotations wf).set _ _, fun other v found => ?_⟩
    by_cases h : other = key
    · rw [h, Json.get?_set_self (isObject_annotations wf)] at found
      exact ⟨"true", (Option.some.inj found).symm⟩
    · rw [Json.get?_set_of_ne h, get?_annotations wf] at found
      exact annotation?_eq wf found
  · simpa only [containerList, same] using wf.isContainer
  · simpa only [initContainerList, same] using wf.isInitContainer
  · simp [containerList, same]
  · simp [initContainerList, same]
  · simp [volumeList, same]

end Lists

end PodInstrumentation.Pod
