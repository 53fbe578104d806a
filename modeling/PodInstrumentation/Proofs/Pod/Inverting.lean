import PodInstrumentation.Pod.Installer
import PodInstrumentation.Proofs.Pod.Keeping
/-!
What operations on manifests came to, whatever the manifest is like. That one of them succeeded
says what was read or written; a value that was no list either made it fail or counted as an empty
one. -/
namespace PodInstrumentation.Pod

theorem each_eq_ok {v : Json} {xs : List Json} (h : v.each = .ok xs) :
    v.items?.getD [] = xs ∨ v.items?.getD [] = [] ∧ ∀ x ∈ xs, ∃ s, x = .str s := by
  cases v with
  | arr ys =>
    rw [each_arr] at h
    exact .inl (Except.ok.inj h)
  | obj fs =>
    refine .inr ⟨rfl, ?_⟩
    cases fs <;> cases h <;> simp only [List.mem_map, List.not_mem_nil, false_implies, implies_true]
    rintro x ⟨f, _, rfl⟩
    exact ⟨f.1, rfl⟩
  | str s =>
    refine .inr ⟨rfl, ?_⟩
    unfold Json.each at h
    split at h <;> cases h <;> simp
  | null =>
    cases h
    exact .inl rfl
  | bool | int | float =>
    unfold Json.each at h
    split at h <;> cases h
    exact .inl rfl

theorem anyNamed_eq_ok {name : String} {xs : List Json} {b : Bool}
    (h : anyNamed name xs = .ok b) : b = xs.any (Named name) := by
  induction xs with
  | nil => exact (Except.ok.inj h).symm
  | cons x xs ih =>
    obtain ⟨v, read, h⟩ := bind_eq_ok_iff.mp h
    cases field_eq_ok read
    split at h
    · rename_i named
      cases h
      simp [Named, named]
    · rename_i named
      rw [ih h]
      simp [Named, named]

theorem hasNamed_eq_ok {owner : Json} {list name : String} {b : Bool}
    (h : hasNamed owner list name = .ok b) : b = (owner.itemsAt list).any (Named name) := by
  obtain ⟨v, read, rest⟩ := bind_eq_ok_iff.mp h
  cases field_eq_ok read
  obtain ⟨xs, items, looked⟩ := bind_eq_ok_iff.mp rest
  rw [Json.itemsAt]
  rcases each_eq_ok items with same | ⟨none, texts⟩
  · rw [same]
    exact anyNamed_eq_ok looked
  · rw [none]
    cases xs with
    | nil => exact (Except.ok.inj looked).symm
    | cons x xs =>
      obtain ⟨s, rfl⟩ := texts x List.mem_cons_self
      cases looked

theorem append_eq_ok {owner owner' : Json} {list : String} {items : List Json}
    (h : append list items owner = .ok owner') :
    owner'.get list = .arr (owner.itemsAt list ++ items) ∧
      ∀ key, key ≠ list → owner'.get key = owner.get key := by
  cases owner with
  | obj fs =>
    obtain ⟨ys, appended, written⟩ := bind_eq_ok_iff.mp h
    cases written
    have value : (fs.lookup list).getD .null = (Json.obj fs).get list := rfl
    have self : (Json.obj (Fields.put list ys fs)).get list = ys :=
      congrArg (fun o => o.getD .null) (Fields.lookup_put_self list ys fs)
    refine ⟨?_, fun key other =>
      congrArg (fun o => o.getD .null) (Fields.lookup_put_of_ne other ys fs)⟩
    rw [value] at appended
    rw [self, Json.itemsAt]
    generalize (Json.obj fs).get list = v at appended
    cases v <;> cases appended <;> rfl
  | null | bool | int | float | str | arr => cases h

theorem itemsAt_of_arr {owner : Json} {list : String} {xs : List Json}
    (h : owner.get list = .arr xs) : owner.itemsAt list = xs := by
  rw [Json.itemsAt, h]
  rfl

theorem changePart_eq_ok {part : String} {change : Json → Shaped Json} {doc doc' : Json}
    (h : changePart part change doc = .ok doc') :
    change ((doc.get? part).getD .empty) = .ok (doc'.get part) ∧
      ∀ key, key ≠ part → doc'.get? key = doc.get? key := by
  cases doc with
  | obj fs =>
    obtain ⟨w, changed, written⟩ := bind_eq_ok_iff.mp h
    cases written
    have self : (Json.obj (Fields.put part w fs)).get part = w :=
      congrArg (fun o => o.getD .null) (Fields.lookup_put_self part w fs)
    exact ⟨self.symm ▸ changed, fun key other => Fields.lookup_put_of_ne other w fs⟩
  | null | bool | int | float | str | arr => cases h

theorem get_begun (doc : Json) (part key : String) :
    ((doc.get? part).getD .empty).get key = (doc.get part).get key := by
  rw [Json.get]
  show _ = ((doc.get? part).getD .null).get key
  cases doc.get? part <;> rfl

theorem field_changePart {part : String} {change : Json → Shaped Json} {doc doc' : Json}
    (h : changePart part change doc = .ok doc') {key : String} (other : key ≠ part) :
    doc'.field key = doc.field key := by
  cases doc with
  | obj fs =>
    obtain ⟨w, changed, written⟩ := bind_eq_ok_iff.mp h
    cases written
    show Except.ok _ = Except.ok _
    rw [Fields.lookup_put_of_ne other]
  | null | bool | int | float | str | arr => cases h

theorem annotations_addConfigVolume {pod pod' : Json} (h : addConfigVolume pod = .ok pod') :
    annotations pod' = annotations pod := by
  obtain ⟨has, _, h⟩ := bind_eq_ok_iff.mp h
  cases has with
  | true =>
    cases h
    rfl
  | false =>
    simp only [annotations, Json.part, field_changePart h (by decide : "metadata" ≠ "spec")]

theorem part_eq_ok {j v : Json} {key : String} (h : j.part key = .ok v) (inner : String) :
    v.get inner = (j.get key).get inner := by
  obtain ⟨w, read, h⟩ := bind_eq_ok_iff.mp h
  cases field_eq_ok read
  cases h
  unfold Json.orElse
  split
  · rfl
  · rename_i vacant
    generalize j.get key = w at vacant
    cases w with
    | obj fs =>
      cases fs with
      | nil => rfl
      | cons f fs => exact absurd rfl vacant
    | null | bool | int | float | str | arr => rfl

theorem items_orElse (v : Json) : (v.orElse (.arr [])).items?.getD [] = v.items?.getD [] := by
  unfold Json.orElse
  split
  · rfl
  · rename_i vacant
    cases v with
    | arr xs =>
      cases xs with
      | nil => rfl
      | cons x xs => exact absurd rfl vacant
    | null | bool | int | float | str | obj => rfl

section Lists

variable {pod pod' : Json}

theorem get_setSpec {known : String} {xs : List Json} (h : (spec pod).get known = .arr xs)
    (key : String) (value : Json) : (spec (setSpec pod key value)).get key = value ∧
      ∀ other, other ≠ key → (spec (setSpec pod key value)).get other = (spec pod).get other := by
  obtain ⟨fs, gs, rfl, found, listed⟩ := lookup_spec h
  have inner : spec (.obj fs) = .obj gs := by simp [spec, Json.get, Json.get?, found]
  have written : spec (setSpec (.obj fs) key value) = .obj (Fields.put key value gs) := by
    rw [setSpec, inner]
    exact congrArg (fun o => o.getD .null) (Fields.lookup_put_self "spec" _ fs)
  rw [written, inner]
  exact ⟨congrArg (fun o => o.getD .null) (Fields.lookup_put_self key value gs), fun other ne =>
    congrArg (fun o => o.getD .null) (Fields.lookup_put_of_ne ne value gs)⟩

theorem itemsAt_of_ne {key : String} (h : ∀ xs, (spec pod).get key ≠ .arr xs) :
    (spec pod).itemsAt key = [] := by
  rw [Json.itemsAt]
  generalize (spec pod).get key = v at h
  cases v with
  | arr xs => exact absurd rfl (h xs)
  | null | bool | int | float | str | obj => rfl

theorem initContainerList_putContainers (cs : List Json) (pod : Json) :
    initContainerList (putContainers cs pod) = initContainerList pod := by
  by_cases h : ∃ xs, (spec pod).get "containers" = .arr xs
  · obtain ⟨xs, h⟩ := h
    rw [putContainers_arr h, withContainers, initContainerList, Json.itemsAt,
      (get_setSpec h _ _).2 "initContainers" (by decide)]
    rfl
  · rw [putContainers_of_ne fun xs hx => h ⟨xs, hx⟩]

theorem initContainerList_putInstaller (i : Nat) (x pod : Json) :
    initContainerList (putInstaller i x pod) = (initContainerList pod).set i x := by
  by_cases h : ∃ xs, (spec pod).get "initContainers" = .arr xs
  · obtain ⟨xs, h⟩ := h
    rw [putInstaller_arr h, initContainerList, itemsAt_of_arr (get_setSpec h _ _).1,
      initContainerList, itemsAt_of_arr h]
  · have vacant := itemsAt_of_ne fun xs hx => h ⟨xs, hx⟩
    rw [putInstaller_of_ne fun xs hx => h ⟨xs, hx⟩, initContainerList, vacant, List.set_nil]

theorem containerList_putInstaller (i : Nat) (x pod : Json) :
    containerList (putInstaller i x pod) = containerList pod := by
  by_cases h : ∃ xs, (spec pod).get "initContainers" = .arr xs
  · obtain ⟨xs, h⟩ := h
    rw [putInstaller_arr h, containerList, Json.itemsAt,
      (get_setSpec h _ _).2 "containers" (by decide)]
    rfl
  · rw [putInstaller_of_ne fun xs hx => h ⟨xs, hx⟩]

/-- What is read as containers is the list of them, or it is the keys of an object or the characters
of a text. Only a list is put back. -/
theorem containers_each_eq_ok {cs : List Json} (read : (containers pod >>= Json.each) = .ok cs)
    (cs' : List Json) :
    cs = containerList pod ∧ containerList (putContainers cs' pod) = cs' ∨
      containerList pod = [] ∧ containerList (putContainers cs' pod) = [] ∧
        ∀ c ∈ cs, ∃ s, c = .str s := by
  by_cases h : ∃ xs, (spec pod).get "containers" = .arr xs
  · obtain ⟨xs, h⟩ := h
    cases (containers_each_arr h).symm.trans read
    refine .inl ⟨(itemsAt_of_arr h).symm, ?_⟩
    rw [putContainers_arr h]
    exact itemsAt_of_arr (get_setSpec h _ _).1
  · have vacant := itemsAt_of_ne fun xs hx => h ⟨xs, hx⟩
    rw [putContainers_of_ne fun xs hx => h ⟨xs, hx⟩]
    obtain ⟨v, found, items⟩ := bind_eq_ok_iff.mp read
    obtain ⟨p, part, found⟩ := bind_eq_ok_iff.mp found
    obtain ⟨w, field, found⟩ := bind_eq_ok_iff.mp found
    cases found
    have listed : containerList pod = (w.orElse (.arr [])).items?.getD [] := by
      rw [items_orElse, field_eq_ok field, part_eq_ok part]
      rfl
    rcases each_eq_ok items with same | ⟨_, texts⟩
    · have none : cs = [] := by rw [← same, ← listed, containerList, vacant]
      exact .inr ⟨vacant, vacant, by simp [none]⟩
    · exact .inr ⟨vacant, vacant, texts⟩

theorem containers_each_objects {cs cs' : List Json}
    (read : (containers pod >>= Json.each) = .ok cs) (objects : ∀ c ∈ cs, ∃ fs, c = .obj fs)
    (length : cs'.length = cs.length) :
    cs = containerList pod ∧ containerList (putContainers cs' pod) = cs' := by
  rcases containers_each_eq_ok read cs' with both | ⟨none, none', texts⟩
  · exact both
  · have vacant : cs = [] := List.eq_nil_iff_forall_not_mem.mpr fun c hc => by
      obtain ⟨fs, rfl⟩ := objects c hc
      obtain ⟨s, text⟩ := texts _ hc
      cases text
    rw [vacant, List.length_nil, List.length_eq_zero_iff] at length
    exact ⟨vacant.trans none.symm, none'.trans length.symm⟩

theorem containerList_appendVolumes {volumes : List Json}
    (h : appendVolumes volumes pod = .ok pod') : containerList pod' = containerList pod := by
  have others := (append_eq_ok (changePart_eq_ok h).1).2 "containers" (by decide)
  rw [containerList, Json.itemsAt, spec, others, get_begun]
  rfl

theorem containerList_addConfigVolume (h : addConfigVolume pod = .ok pod') :
    containerList pod' = containerList pod := by
  obtain ⟨has, _, h⟩ := bind_eq_ok_iff.mp h
  cases has with
  | true =>
    cases h
    rfl
  | false => exact containerList_appendVolumes h

theorem spec_annotate {key value : String} (h : annotate key value pod = .ok pod') :
    spec pod' = spec pod := by
  rw [spec, Json.get, (changePart_eq_ok h).2 "spec" (by decide)]
  rfl

end Lists

theorem findNamed_eq_none {name : String} {i : Nat} {xs : List Json}
    (h : findNamed name i xs = .ok none) : ∀ x ∈ xs, Named name x = false := by
  induction xs generalizing i with
  | nil => exact nofun
  | cons x xs ih =>
    obtain ⟨v, read, h⟩ := bind_eq_ok_iff.mp h
    cases field_eq_ok read
    split at h
    · cases h
    · rename_i other
      exact List.forall_mem_cons.mpr ⟨by simp [Named, other], ih h⟩

theorem findInstaller_eq_ok {pod : Json} {place? : Option (Nat × Json)}
    (h : findInstaller pod = .ok place?) :
    findNamed Names.installer 0 (initContainerList pod) = .ok place? := by
  obtain ⟨p, part, read⟩ := bind_eq_ok_iff.mp h
  obtain ⟨w, field, rest⟩ := bind_eq_ok_iff.mp read
  obtain ⟨xs, items, found⟩ := bind_eq_ok_iff.mp rest
  cases field_eq_ok field
  rw [part_eq_ok part] at items
  have listed : initContainerList pod = ((pod.get "spec").get "initContainers").items?.getD [] :=
    rfl
  rcases each_eq_ok items with same | ⟨none, texts⟩
  · rw [listed, same]
    exact found
  · rw [listed, none]
    cases xs with
    | nil => exact found
    | cons x xs =>
      obtain ⟨s, rfl⟩ := texts x List.mem_cons_self
      cases found

theorem installer?_of_missing {pod : Json} (h : findInstaller pod = .ok none) :
    installer? pod = none := by
  rw [installer?, List.find?_eq_none]
  simpa using findNamed_eq_none (findInstaller_eq_ok h)

theorem installer?_append {pod x : Json} {before after : List Json}
    (listed : initContainerList pod = before ++ x :: after) (named : Named Names.installer x = true)
    (others : ∀ y ∈ before, Named Names.installer y = false) : installer? pod = some x := by
  have vacant : before.find? (Named Names.installer) = none :=
    List.find?_eq_none.mpr fun y hy => by simp [others y hy]
  rw [installer?, listed, List.find?_append, vacant, List.find?_cons_of_pos named]
  rfl

theorem installer?_putInstaller {pod x x' : Json} {i : Nat}
    (found : findInstaller pod = .ok (some (i, x))) (same : x'.get "name" = x.get "name") :
    installer? pod = some x ∧ installer? (putInstaller i x' pod) = some x' := by
  obtain ⟨before, after, listed, rfl, named, others⟩ :=
    findNamed_eq_some (findInstaller_eq_ok found)
  have named' : Named Names.installer x' = true := by rw [← named, Named, same, Named]
  have put :
      initContainerList (putInstaller (0 + before.length) x' pod) = before ++ x' :: after := by
    rw [initContainerList_putInstaller, listed, Nat.zero_add]
    simp
  exact ⟨installer?_append listed named others, installer?_append put named' others⟩

end PodInstrumentation.Pod
