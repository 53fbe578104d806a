import PodInstrumentation.Proofs.Pod.Rewriting
/-!
What the operations on manifests write. On a well-formed pod each of them succeeds and is a
rewriting. -/
namespace PodInstrumentation.Pod

theorem append_eq {owner : Json} (object : owner.IsObject) (list : String) (items : List Json) :
    append list items owner =
      (do return owner.set list (← appended (owner.get list) items)) := by
  cases object with
  | intro nodup => rfl

theorem changePart_eq {pod : Json} (object : pod.IsObject) (part : String)
    (change : Json → Shaped Json) :
    changePart part change pod =
      (do return pod.set part (← change ((pod.get? part).getD .empty))) := by
  cases object with
  | intro nodup => rfl

theorem append_ok {owner : Json} {list : String} (object : owner.IsObject)
    (listed : owner.Listed list) (items : List Json) :
    append list items owner = .ok (owner.set list (.arr (owner.itemsAt list ++ items))) := by
  cases object with
  | @intro fs nodup =>
    have value : (fs.lookup list).getD .null = (Json.obj fs).get list := rfl
    simp only [append, value, Json.itemsAt]
    rcases listed.1 with h | ⟨xs, h⟩ <;> rw [h] <;> rfl

theorem changePart_ok {pod part' : Json} {part : String} {change : Json → Shaped Json}
    (object : pod.IsObject) (there : (pod.get part).IsObject)
    (h : change (pod.get part) = .ok part') :
    changePart part change pod = .ok (pod.set part part') := by
  cases object with
  | @intro fs nodup =>
    have found : fs.lookup part = some ((Json.obj fs).get part) :=
      Json.get?_of_get_ne_null (j := .obj fs) fun e => by rw [e] at there; cases there
    simp only [changePart, found, Option.getD_some, h, ok_bind]
    rfl

theorem appendVolumes_ok {pod : Json} (wf : WellFormed pod) (xs : List Json) :
    appendVolumes xs pod = .ok (setSpec pod "volumes" (.arr (volumeList pod ++ xs))) :=
  changePart_ok wf.object wf.spec (append_ok wf.spec wf.volumes xs)

theorem addInstaller_ok {pod : Json} (wf : WellFormed pod) (installer : Json) :
    addInstaller installer pod =
      .ok (setSpec pod "initContainers" (.arr (initContainerList pod ++ [installer]))) :=
  changePart_ok wf.object wf.spec (append_ok wf.spec wf.initContainers [installer])

theorem annotate_ok {pod : Json} (wf : WellFormed pod) (key value : String) :
    annotate key value pod = .ok (annotated pod key value) := by
  refine changePart_ok wf.object wf.metadata ?_
  have object : (pod.get "metadata").IsObject := wf.metadata
  have texts : IsTexts ((pod.get "metadata").get "annotations") := wf.annotations
  dsimp only [metadata]
  generalize pod.get "metadata" = m at object texts
  cases object with
  | @intro fs nodup =>
    show (withMember key (.str value) ((Json.obj fs).get "annotations") >>= fun a =>
      pure (Json.obj (Fields.put "annotations" a fs))) = _
    rcases texts with none | ⟨annotations, _⟩
    · rw [none]
      rfl
    · rw [orElse_empty annotations]
      generalize (Json.obj fs).get "annotations" = a at annotations
      cases annotations with
      | intro => rfl

theorem isObject_envVar (name : String) (value : Json) : (envVar name value).IsObject :=
  .intro (by simp)

theorem isObject_fieldVar (name path : String) : (fieldVar name path).IsObject :=
  .intro (by simp)

theorem isObject_secretVar (name secret key : String) : (secretVar name secret key).IsObject :=
  .intro (by simp)

theorem isObject_mount (volume path : String) : (mount volume path).IsObject := .intro (by simp)

theorem isObject_mountPart (volume path part : String) : (mountPart volume path part).IsObject :=
  .intro (by simp)

theorem isObject_emptyVolume (name : String) : (emptyVolume name).IsObject := .intro (by simp)

theorem isObject_secretVolume (name secret : String) : (secretVolume name secret).IsObject :=
  .intro (by simp)

def configVolumes (pod : Json) : List Json :=
  if (volumeList pod).any (Named Names.configVolume) then []
  else [secretVolume Names.configVolume Names.initSecret]

theorem addConfigVolume_ok {pod : Json} (wf : WellFormed pod) :
    ∃ pod', addConfigVolume pod = .ok pod' ∧ Rewritten id id (configVolumes pod) [] pod pod' := by
  unfold configVolumes
  cases h : (volumeList pod).any (Named Names.configVolume) with
  | true =>
    refine ⟨pod, ?_, Rewritten.refl wf⟩
    simp only [addConfigVolume, hasVolume_ok wf, ok_bind, h]
    rfl
  | false =>
    refine ⟨_, ?_, rewritten_volumes wf (by simpa using isObject_secretVolume _ _)⟩
    simp only [addConfigVolume, hasVolume_ok wf, ok_bind, h]
    exact appendVolumes_ok wf _

theorem putContainers_of_ne {pod : Json} (h : ∀ xs, (spec pod).get "containers" ≠ .arr xs)
    (cs : List Json) : putContainers cs pod = pod := by
  unfold putContainers
  split
  · rename_i fs
    split
    · rename_i inner found
      split
      · rename_i xs listed
        exact absurd (by simp [spec, Json.get, Json.get?, found, listed]) (h xs)
      · rfl
    · rfl
  · rfl

theorem putInstaller_of_ne {pod : Json} (h : ∀ xs, (spec pod).get "initContainers" ≠ .arr xs)
    (i : Nat) (installer : Json) : putInstaller i installer pod = pod := by
  unfold putInstaller
  split
  · rename_i fs
    split
    · rename_i inner found
      split
      · rename_i xs listed
        exact absurd (by simp [spec, Json.get, Json.get?, found, listed]) (h xs)
      · rfl
    · rfl
  · rfl

theorem lookup_spec {pod : Json} {key : String} {xs : List Json}
    (h : (spec pod).get key = .arr xs) : ∃ fs gs, pod = .obj fs ∧
      fs.lookup "spec" = some (.obj gs) ∧ gs.lookup key = some (.arr xs) := by
  have listed := Json.get?_of_get_ne_null (j := spec pod) (k := key) (by simp [h])
  have found := Json.get?_of_get_ne_null (j := pod) (k := "spec") fun e => by
    rw [spec, e] at listed
    cases listed
  rw [h] at listed
  cases pod with
  | obj fs =>
    simp only [spec] at listed
    generalize (Json.obj fs).get "spec" = inner at found listed
    cases inner with
    | obj gs => exact ⟨fs, gs, rfl, found, listed⟩
    | null | bool | int | float | str | arr => cases listed
  | null | bool | int | float | str | arr => cases found

theorem putContainers_arr {pod : Json} {xs : List Json}
    (h : (spec pod).get "containers" = .arr xs) (cs : List Json) :
    putContainers cs pod = withContainers cs pod := by
  obtain ⟨fs, gs, rfl, found, listed⟩ := lookup_spec h
  have inner : (Json.obj fs).get "spec" = .obj gs := by simp [Json.get, Json.get?, found]
  simp only [putContainers, found, listed, withContainers, setSpec, inner]
  rfl

theorem rewritten_putContainers {pod : Json} (wf : WellFormed pod) {dress : Json → Json}
    (dressed : ∀ c ∈ containerList pod, IsContainer (dress c)) :
    Rewritten dress id [] [] pod (putContainers ((containerList pod).map dress) pod) := by
  rcases wf.containers.1 with h | ⟨xs, h⟩
  · have none : containerList pod = [] := by simp [containerList, Json.itemsAt, h, Json.items?]
    rw [putContainers_of_ne (by simp [h])]
    exact { Rewritten.refl wf with containers := by rw [none]; rfl }
  · rw [putContainers_arr h]
    exact rewritten_containers wf dressed

theorem putInstaller_arr {pod : Json} {xs : List Json}
    (h : (spec pod).get "initContainers" = .arr xs) (i : Nat) (installer : Json) :
    putInstaller i installer pod = setSpec pod "initContainers" (.arr (xs.set i installer)) := by
  obtain ⟨fs, gs, rfl, found, listed⟩ := lookup_spec h
  have inner : (Json.obj fs).get "spec" = .obj gs := by simp [Json.get, Json.get?, found]
  simp only [putInstaller, found, listed, setSpec, inner]
  rfl

theorem rewritten_putInstaller {pod : Json} (wf : WellFormed pod) {i : Nat} {x : Json}
    (found : (initContainerList pod)[i]? = some x) {installer : Json} (h : IsContainer installer) :
    Rewritten id (fun xs => xs.set i installer) [] [] pod (putInstaller i installer pod) := by
  have listed : (spec pod).get "initContainers" = .arr (initContainerList pod) := by
    rcases wf.initContainers.1 with h | ⟨xs, h⟩
    · simp [initContainerList, Json.itemsAt, h, Json.items?] at found
    · simp [initContainerList, Json.itemsAt, h, Json.items?]
  rw [putInstaller_arr listed]
  exact rewritten_initContainers wf fun c hc => (List.mem_or_eq_of_mem_set hc).elim
    (wf.isInitContainer c) fun e => e ▸ h

end PodInstrumentation.Pod
