import PodInstrumentation.Proofs.Pod.Extending
/-!
Well-formed pods with a patch run on them. A rewriting that is sent as a patch is a rewriting again:
containers are changed one by one, and what is put into lists is there without its nulls. -/
namespace PodInstrumentation

namespace Json

theorem forall_mem_mergeItems {p : Json → Prop} (merged : ∀ x y, p x → p y → p (merge x y))
    (stripped : ∀ y, p y → p y.stripNulls) {xs ys : List Json} (hx : ∀ x ∈ xs, p x)
    (hy : ∀ y ∈ ys, p y) : ∀ z ∈ mergeItems xs ys, p z := by
  induction xs generalizing ys with
  | nil =>
    rw [mergeItems_nil_left]
    simpa using fun y h => stripped y (hy y h)
  | cons x xs ih =>
    cases ys with
    | nil => exact fun z h => nomatch h
    | cons y ys =>
      have head := merged x y (hx x List.mem_cons_self) (hy y List.mem_cons_self)
      have tail := ih (fun x h => hx x (List.mem_cons_of_mem _ h))
        fun y h => hy y (List.mem_cons_of_mem _ h)
      simpa [mergeItems_cons, head] using tail

theorem mergeItems_set {xs : List Json} (distinct : ∀ x ∈ xs, x.Distinct) {i : Nat} {x : Json}
    (found : xs[i]? = some x) (y : Json) : mergeItems xs (xs.set i y) = xs.set i (merge x y) := by
  induction xs generalizing i with
  | nil => cases found
  | cons z zs ih =>
    cases i with
    | zero =>
      cases found
      have same := mergeItems_append (fun w h => distinct w (List.mem_cons_of_mem _ h)) []
      simpa [mergeItems_cons] using same
    | succ i =>
      have rest := ih (fun w h => distinct w (List.mem_cons_of_mem _ h)) (by simpa using found)
      simp [mergeItems_cons, rest, merge_self (distinct z List.mem_cons_self)]

theorem itemsAt_stripNulls {j : Json} (h : j.IsObject) (key : String) :
    j.stripNulls.itemsAt key = (j.itemsAt key).map stripNulls := by
  rw [itemsAt, get_stripNulls h]
  unfold itemsAt
  cases j.get key with
  | arr xs => exact stripItems_eq_map xs
  | null | bool | int | float | str | obj => rfl

theorem Listed.stripNulls {key : String} {j : Json} (object : j.IsObject) (h : j.Listed key) :
    j.stripNulls.Listed key := by
  refine ⟨?_, ?_⟩
  · rw [get_stripNulls object]
    rcases h.1 with h | ⟨xs, h⟩
    · exact .inl (by rw [h]; rfl)
    · exact .inr ⟨_, by rw [h]; rfl⟩
  · rw [itemsAt_stripNulls object]
    simpa using fun x hx => (h.2 x hx).stripNulls

theorem Listed.merge {key : String} {a b : Json} (ha : a.IsObject) (hb : b.IsObject)
    (la : a.Listed key) (lb : b.Listed key) : (merge a b).Listed key := by
  refine ⟨?_, ?_⟩
  · rw [get_merge ha hb]
    rcases lb.1 with h | ⟨ys, h⟩
    · exact .inl (by rw [h, merge_null_right])
    · rcases la.1 with h' | ⟨xs, h'⟩
      · exact .inr ⟨_, by rw [h, h', merge_null_left]; rfl⟩
      · exact .inr ⟨_, by rw [h, h']; exact merge_arr xs ys⟩
  · rw [itemsAt_merge ha hb la lb]
    exact forall_mem_mergeItems (p := IsObject) (fun _ _ => IsObject.merge)
      (fun _ => IsObject.stripNulls) la.2 lb.2

theorem merge_str {a : Json} (h : a = .null ∨ ∃ t, a = .str t) (s : String) :
    merge a (.str s) = .str s := by
  rcases h with rfl | ⟨t, rfl⟩
  · exact merge_null_left _
  · show graft (.str t) (.str s) = .str s
    rw [graft]
    · split
      · rename_i h
        exact h
      · rfl
    · intro _ _ same
      cases same
    · intro _ _ same
      cases same

end Json

namespace Pod

theorem IsContainer.stripNulls {c : Json} (h : IsContainer c) : IsContainer c.stripNulls :=
  ⟨h.object.stripNulls, h.env.stripNulls h.object, h.mounts.stripNulls h.object⟩

theorem IsContainer.merge {c d : Json} (hc : IsContainer c) (hd : IsContainer d) :
    IsContainer (Json.merge c d) where
  object := hc.object.merge hd.object
  env := hc.env.merge hc.object hd.object hd.env
  mounts := hc.mounts.merge hc.object hd.object hd.mounts

theorem IsTexts.get_eq {j : Json} (h : IsTexts j) (key : String) :
    j.get key = .null ∧ j.get? key = none ∨
      ∃ s, j.get key = .str s ∧ j.get? key = some (.str s) := by
  rcases h with rfl | ⟨_, texts⟩
  · exact .inl ⟨rfl, rfl⟩
  · unfold Json.get
    cases found : j.get? key with
    | none => exact .inl ⟨rfl, rfl⟩
    | some v =>
      obtain ⟨s, rfl⟩ := texts key v found
      exact .inr ⟨s, rfl, rfl⟩

theorem IsTexts.get?_merge {a b : Json} (ha : IsTexts a) (hb : IsTexts b) (key : String) :
    (Json.merge a b).get? key = b.get? key := by
  rcases hb with rfl | ⟨hb', texts⟩
  · rw [Json.merge_null_right]
  rcases ha with rfl | ⟨ha', texts'⟩
  · rw [Json.merge_null_left]
    cases hb' with
    | @intro gs nodup =>
      show (Json.stripFields gs).lookup key = (Json.obj gs).get? key
      rw [Json.lookup_stripFields nodup]
      rcases IsTexts.get_eq (.inr ⟨.intro nodup, texts⟩) key with ⟨h, h'⟩ | ⟨s, h, h'⟩ <;>
        rw [h, h'] <;> rfl
  · rcases IsTexts.get_eq (.inr ⟨hb', texts⟩) key with ⟨h, h'⟩ | ⟨s, h, h'⟩
    · rw [Json.get?_merge_of_null ha' hb' h, h']
      rcases IsTexts.get_eq (.inr ⟨ha', texts'⟩) key with ⟨g, g'⟩ | ⟨t, g, g'⟩
      · rw [if_pos g, g']
      · rw [if_neg (by simp [g])]
    · rw [Json.get?_merge_of_ne_null ha' hb' (by simp [h]), h, h', Json.merge_str]
      exact (IsTexts.get_eq (.inr ⟨ha', texts'⟩) key).imp And.left (Exists.imp fun _ => And.left)

theorem IsTexts.merge {a b : Json} (ha : IsTexts a) (hb : IsTexts b) :
    IsTexts (Json.merge a b) := by
  have same := ha.get?_merge hb
  rcases hb with rfl | ⟨hb', texts⟩
  · exact .inl (Json.merge_null_right a)
  · refine .inr ⟨?_, fun key v h => texts key v (same key ▸ h)⟩
    rcases ha with rfl | ⟨ha', _⟩
    · rw [Json.merge_null_left]
      exact hb'.stripNulls
    · exact ha'.merge hb'

section Merge

variable {pod pod' : Json} (wf : WellFormed pod) (wf' : WellFormed pod')
include wf wf'

theorem metadata_merge :
    metadata (Json.merge pod pod') = Json.merge (metadata pod) (metadata pod') :=
  Json.get_merge wf.object wf'.object "metadata"

theorem spec_merge : spec (Json.merge pod pod') = Json.merge (spec pod) (spec pod') :=
  Json.get_merge wf.object wf'.object "spec"

theorem annotation?_merge (key : String) :
    annotation? (Json.merge pod pod') key = annotation? pod' key := by
  rw [annotation?, metadata_merge wf wf', Json.get_merge wf.metadata wf'.metadata,
    wf.annotations.get?_merge wf'.annotations]

theorem itemsAt_spec_merge {key : String} (listed : (spec pod).Listed key)
    (listed' : (spec pod').Listed key) : (spec (Json.merge pod pod')).itemsAt key =
      Json.mergeItems ((spec pod).itemsAt key) ((spec pod').itemsAt key) := by
  rw [spec_merge wf wf', Json.itemsAt_merge wf.spec wf'.spec listed listed']

theorem WellFormed.merge : WellFormed (Json.merge pod pod') where
  object := wf.object.merge wf'.object
  metadata := by
    rw [metadata_merge wf wf']
    exact wf.metadata.merge wf'.metadata
  annotations := by
    rw [metadata_merge wf wf', Json.get_merge wf.metadata wf'.metadata]
    exact wf.annotations.merge wf'.annotations
  spec := by
    rw [spec_merge wf wf']
    exact wf.spec.merge wf'.spec
  containers := by
    rw [spec_merge wf wf']
    exact wf.containers.merge wf.spec wf'.spec wf'.containers
  isContainer := by
    rw [containerList, itemsAt_spec_merge wf wf' wf.containers wf'.containers]
    exact Json.forall_mem_mergeItems (p := IsContainer) (fun _ _ => IsContainer.merge)
      (fun _ => IsContainer.stripNulls) wf.isContainer wf'.isContainer
  initContainers := by
    rw [spec_merge wf wf']
    exact wf.initContainers.merge wf.spec wf'.spec wf'.initContainers
  isInitContainer := by
    rw [initContainerList, itemsAt_spec_merge wf wf' wf.initContainers wf'.initContainers]
    exact Json.forall_mem_mergeItems (p := IsContainer) (fun _ _ => IsContainer.merge)
      (fun _ => IsContainer.stripNulls) wf.isInitContainer wf'.isInitContainer
  volumes := by
    rw [spec_merge wf wf']
    exact wf.volumes.merge wf.spec wf'.spec wf'.volumes

end Merge

theorem Frame.merge {pod pod' : Json} (distinct : pod.Distinct) (wf : WellFormed pod)
    (wf' : WellFormed pod') (h : Frame pod pod') : Frame pod (Json.merge pod pod') where
  top key hm hs := Json.get?_merge_of_eq distinct wf.object wf'.object (h.top key hm hs)
  metadata key ha := by
    rw [metadata_merge wf wf']
    exact Json.get?_merge_of_eq (distinct.get _) wf.metadata wf'.metadata (h.metadata key ha)
  spec key hc hi hv := by
    rw [spec_merge wf wf']
    exact Json.get?_merge_of_eq (distinct.get _) wf.spec wf'.spec (h.spec key hc hi hv)

theorem Rewritten.merge {dress : Json → Json} {inits : List Json → List Json}
    {volumes : List Json} {marks : List String} {pod pod' : Json} (distinct : pod.Distinct)
    (wf : WellFormed pod) (h : Rewritten dress inits volumes marks pod pod') :
    Rewritten (fun c => Json.merge c (dress c)) (fun xs => Json.mergeItems xs (inits xs))
      (volumes.map Json.stripNulls) marks pod (Json.merge pod pod') where
  wellFormed := wf.merge h.wellFormed
  frame := h.frame.merge distinct wf h.wellFormed
  containers := by
    have items : containerList (Json.merge pod pod') =
        Json.mergeItems (containerList pod) (containerList pod') :=
      itemsAt_spec_merge wf h.wellFormed wf.containers h.wellFormed.containers
    rw [items, h.containers]
    simpa using Json.mergeItems_map_append dress (containerList pod) []
  initContainers := by
    have items : initContainerList (Json.merge pod pod') =
        Json.mergeItems (initContainerList pod) (initContainerList pod') :=
      itemsAt_spec_merge wf h.wellFormed wf.initContainers h.wellFormed.initContainers
    rw [items, h.initContainers]
  volumes := by
    have items : volumeList (Json.merge pod pod') =
        Json.mergeItems (volumeList pod) (volumeList pod') :=
      itemsAt_spec_merge wf h.wellFormed wf.volumes h.wellFormed.volumes
    rw [items, h.volumes]
    exact Json.mergeItems_append ((distinct.get _).itemsAt _) volumes
  annotations key := by rw [annotation?_merge wf h.wellFormed, h.annotations]

end Pod

end PodInstrumentation
