import PodInstrumentation.Pod.Manifest
import PodInstrumentation.Proofs.Json.Object
import PodInstrumentation.Proofs.Outcome
/-!
Well-formed pods and what is read of them. A pod is well-formed if the parts that are looked at are
objects, lists of objects and texts; a list may be missing or null. Every look at a well-formed pod
succeeds. -/
namespace PodInstrumentation.Pod

abbrev metadata (pod : Json) : Json := pod.get "metadata"

abbrev spec (pod : Json) : Json := pod.get "spec"

abbrev containerList (pod : Json) : List Json := (spec pod).itemsAt "containers"

abbrev initContainerList (pod : Json) : List Json := (spec pod).itemsAt "initContainers"

abbrev volumeList (pod : Json) : List Json := (spec pod).itemsAt "volumes"

abbrev annotation? (pod : Json) (key : String) : Option Json :=
  ((metadata pod).get "annotations").get? key

structure IsContainer (c : Json) : Prop where
  object : c.IsObject
  env : c.Listed "env"
  mounts : c.Listed "volumeMounts"

/-- Annotations as they may be: null, or an object with a text under each key. -/
def IsTexts (j : Json) : Prop :=
  j = .null ∨ (j.IsObject ∧ ∀ key v, j.get? key = some v → ∃ s, v = .str s)

structure WellFormed (pod : Json) : Prop where
  object : pod.IsObject
  metadata : (metadata pod).IsObject
  annotations : IsTexts ((Pod.metadata pod).get "annotations")
  spec : (spec pod).IsObject
  containers : (Pod.spec pod).Listed "containers"
  isContainer : ∀ c ∈ containerList pod, IsContainer c
  initContainers : (Pod.spec pod).Listed "initContainers"
  isInitContainer : ∀ c ∈ initContainerList pod, IsContainer c
  volumes : (Pod.spec pod).Listed "volumes"

def Named (name : String) (x : Json) : Bool := x.get "name" = .str name

theorem orElse_empty {j : Json} (h : j.IsObject) : j.orElse .empty = j := by
  cases h with
  | @intro fs nodup => exact Json.obj_orElse fs

theorem field_eq_ok {j v : Json} {key : String} (h : j.field key = .ok v) : v = j.get key := by
  cases j with
  | obj fs => exact (Except.ok.inj h).symm
  | null | bool | int | float | str | arr => cases h

theorem part_ok {j : Json} (h : j.IsObject) {key : String} (hp : (j.get key).IsObject) :
    j.part key = .ok (j.get key) := by
  simp only [Json.part, h.field, ok_bind, orElse_empty hp]
  rfl

theorem each_orElse {j : Json} {key : String} (h : j.Listed key) :
    ((j.get key).orElse (.arr [])).each = .ok (j.itemsAt key) := by
  rcases h.1 with h | ⟨xs, h⟩
  · simp [Json.itemsAt, h, Json.orElse, Json.each, Json.isSet, Json.items?]
  · cases xs <;> simp [Json.itemsAt, h, Json.orElse, Json.each, Json.isSet, Json.items?]

theorem containers_each {pod : Json} (wf : WellFormed pod) :
    (containers pod >>= Json.each) = .ok (containerList pod) := by
  simp only [containers, part_ok wf.object wf.spec, wf.spec.field, ok_bind]
  exact each_orElse wf.containers

theorem anyNamed_ok (name : String) {xs : List Json} (h : ∀ x ∈ xs, x.IsObject) :
    anyNamed name xs = .ok (xs.any (Named name)) := by
  induction xs with
  | nil => rfl
  | cons x xs ih =>
    have rest := ih fun y hy => h y (List.mem_cons_of_mem _ hy)
    simp only [anyNamed, (h x List.mem_cons_self).field, ok_bind, List.any_cons, Named]
    by_cases hn : x.get "name" = .str name
    · simp [hn]
      rfl
    · simpa [hn, Named] using rest

theorem hasNamed_ok {owner : Json} {list : String} (object : owner.IsObject)
    (listed : owner.Listed list) (name : String) :
    hasNamed owner list name = .ok ((owner.itemsAt list).any (Named name)) := by
  simp only [hasNamed, object.field, ok_bind, listed.each, anyNamed_ok name listed.2]

theorem hasEnv_ok {c : Json} (h : IsContainer c) (name : String) :
    hasEnv c name = .ok ((c.itemsAt "env").any (Named name)) := hasNamed_ok h.object h.env name

theorem hasMount_ok {c : Json} (h : IsContainer c) (name : String) :
    hasMount c name = .ok ((c.itemsAt "volumeMounts").any (Named name)) :=
  hasNamed_ok h.object h.mounts name

theorem hasVolume_ok {pod : Json} (wf : WellFormed pod) (name : String) :
    hasVolume pod name = .ok ((volumeList pod).any (Named name)) := by
  simp only [hasVolume, part_ok wf.object wf.spec, ok_bind, hasNamed_ok wf.spec wf.volumes]

theorem findNamed_ok (name : String) (i : Nat) {xs : List Json} (h : ∀ x ∈ xs, x.IsObject) :
    (findNamed name i xs = .ok none ∧ ∀ x ∈ xs, Named name x = false) ∨
    ∃ before x after, findNamed name i xs = .ok (some (i + before.length, x)) ∧
      xs = before ++ x :: after ∧ Named name x = true ∧ ∀ y ∈ before, Named name y = false := by
  induction xs generalizing i with
  | nil => exact .inl ⟨rfl, by simp⟩
  | cons x xs ih =>
    simp only [findNamed, (h x List.mem_cons_self).field, ok_bind]
    by_cases hn : x.get "name" = .str name
    · exact .inr ⟨[], x, xs, by simp [hn]; rfl, rfl, by simp [Named, hn], by simp⟩
    · rcases ih (i + 1) fun y hy => h y (List.mem_cons_of_mem _ hy) with
        ⟨found, none⟩ | ⟨before, y, after, found, rfl, hy, none⟩
      · exact .inl ⟨by simp [hn, found], by simpa [Named, hn] using none⟩
      · exact .inr ⟨x :: before, y, after, by simp [hn, found]; omega, rfl, hy,
          by simpa [Named, hn] using none⟩

theorem findInstaller_ok {pod : Json} (wf : WellFormed pod) :
    (findInstaller pod = .ok none ∧ ∀ x ∈ initContainerList pod, Named Names.installer x = false) ∨
    ∃ before x after, findInstaller pod = .ok (some (before.length, x)) ∧
      initContainerList pod = before ++ x :: after ∧ Named Names.installer x = true ∧
      ∀ y ∈ before, Named Names.installer y = false := by
  simp only [findInstaller, part_ok wf.object wf.spec, ok_bind, wf.spec.field,
    wf.initContainers.each]
  simpa using findNamed_ok Names.installer 0 wf.initContainers.2

theorem annotations_ok {pod : Json} (wf : WellFormed pod) :
    annotations pod = .ok (((metadata pod).get "annotations").orElse .empty) := by
  show (pod.part "metadata" >>= fun m => m.part "annotations") = _
  rw [part_ok wf.object wf.metadata, ok_bind, Json.part, wf.metadata.field]
  rfl

theorem setting_obj (fs : Fields) (key : String) (absent : Json) :
    setting (.obj fs) key absent = .ok ((fs.lookup key).getD absent) := by
  cases fs <;> rfl

theorem setting_ok {values : Json} (h : IsTexts values) (key : String) (absent : Json) :
    setting (values.orElse .empty) key absent = .ok ((values.get? key).getD absent) := by
  rcases h with rfl | ⟨object, _⟩
  · rfl
  · rw [orElse_empty object]
    cases object with
    | @intro fs nodup => exact setting_obj fs key absent

def annotationText (pod : Json) (key : String) : String :=
  ((annotation? pod key).bind Json.text?).getD ""

theorem annotation?_eq {pod : Json} (wf : WellFormed pod) {key : String} {v : Json}
    (h : annotation? pod key = some v) : ∃ s, v = .str s := by
  rcases wf.annotations with none | ⟨_, texts⟩
  · rw [annotation?, none] at h
    cases h
  · exact texts key v h

theorem flag_ok {pod : Json} (wf : WellFormed pod) (key : String) (absent : Bool) :
    flag pod key absent = .ok ((readFlag (annotationText pod key)).getD absent) := by
  simp only [flag, flag?, annotations_ok wf, ok_bind, setting_ok wf.annotations]
  cases h : annotation? pod key with
  | none => simp [annotationText, h]; rfl
  | some v =>
    obtain ⟨s, rfl⟩ := annotation?_eq wf h
    simp [annotationText, h, Json.text?]
    rfl

def marked (pod : Json) : Bool := annotationText pod Names.injected != ""

theorem marked_congr {pod pod' : Json} (h : ∀ key, annotation? pod' key = annotation? pod key) :
    marked pod' = marked pod := by
  rw [marked, annotationText, h]
  rfl

theorem isInjected_ok {pod : Json} (wf : WellFormed pod) : isInjected pod = .ok (marked pod) := by
  simp only [isInjected, annotations_ok wf, ok_bind, marked, annotationText, annotation?]
  rcases wf.annotations with none | ⟨object, texts⟩
  · rw [none]
    rfl
  · rw [orElse_empty object, object.field, Json.get]
    cases h : ((metadata pod).get "annotations").get? Names.injected with
    | none => rfl
    | some v =>
      obtain ⟨s, rfl⟩ := texts _ v h
      rfl

end PodInstrumentation.Pod
