import PodInstrumentation.Proofs.Pod.Growing
/-!
What stays of a pod that grew. Every entry of its lists is where it was, and an entry that has lists
of its own keeps those in the same way. -/
namespace PodInstrumentation

namespace Json.Grows

variable {r : String → Room} {items : Room} {v w : Json} {key : String}

theorem get (h : Grows (.object r) v w) (key : String) :
    v.get key = .null ∧ Grows (r key) (r key).start (w.get key) ∨
      Grows (r key) (v.get key) (w.get key) := by
  rcases h with rfl | ⟨fs, gs, rfl, rfl, _, members⟩
  · exact .inr (.refl _ _)
  · exact (members key).imp_left fun ⟨vacant, _, begun⟩ => ⟨vacant, begun⟩

theorem isObject (h : Grows (.object r) v w) (object : v.IsObject) : w.IsObject := by
  rcases h with rfl | ⟨fs, gs, rfl, rfl, keys, _⟩
  · exact object
  · cases object with
    | intro nodup => exact .intro (keys nodup)

theorem get_closed (h : Grows (.object r) v w) (closed : r key = .closed) :
    w.get key = v.get key := by
  rcases h with rfl | ⟨fs, gs, rfl, rfl, _, members⟩
  · rfl
  · rcases members key with ⟨_, room, _⟩ | same
    · exact absurd closed room
    · rw [closed] at same
      exact same

theorem get_object {q : String → Room} (h : Grows (.object r) v w) (key : String)
    (room : r key = .object q) (there : (v.get key).IsObject) :
    Grows (.object q) (v.get key) (w.get key) := by
  rcases h.get key with ⟨none, _⟩ | grown
  · rw [none] at there
    cases there
  · exact room ▸ grown

theorem itemsAt (h : Grows (.object r) v w) (room : r key = .list items) {i : Nat} {x : Json}
    (hx : (v.itemsAt key)[i]? = some x) : ∃ y, (w.itemsAt key)[i]? = some y ∧ Grows items x y := by
  have grown := h.get key
  unfold Json.itemsAt at hx ⊢
  rw [room] at grown
  generalize v.get key = a at hx grown
  generalize w.get key = b at grown ⊢
  rcases grown with ⟨rfl, _⟩ | rfl | ⟨xs, ys, rfl, rfl, longer, pairs⟩
  · cases hx
  · exact ⟨x, hx, .refl _ x⟩
  · have inside : i < ys.length :=
      Nat.lt_of_lt_of_le (List.getElem?_eq_some_iff.mp hx).1 longer
    have hy : ys[i]? = some ys[i] := List.getElem?_eq_getElem inside
    exact ⟨ys[i], hy, pairs i x _ hx hy⟩

theorem itemsAt_prefix (h : Grows (.object r) v w) (room : r key = .list .closed) :
    v.itemsAt key <+: w.itemsAt key := by
  refine List.prefix_iff_getElem?.mpr fun i inside => ?_
  obtain ⟨y, hy, same⟩ := h.itemsAt room (List.getElem?_eq_getElem inside)
  rw [hy, show y = _ from same]

end Json.Grows

namespace Pod

open Json (Grows)

structure Extended (lists : List String) (c c' : Json) : Prop where
  entries : ∀ list ∈ lists, c.itemsAt list <+: c'.itemsAt list
  others : ∀ key, key ∉ lists → c'.get key = c.get key

theorem Extended.refl (lists : List String) (c : Json) : Extended lists c c :=
  ⟨fun _ _ => List.prefix_rfl, fun _ _ => rfl⟩

theorem Extended.named {lists : List String} (other : "name" ∉ lists) {c c' : Json}
    (h : Extended lists c c') (name : String) : Named name c' = Named name c := by
  rw [Named, h.others "name" other, Named]

/-- Every volume, container and init container of the first pod is in the same place of the second
one. The containers took variables and mounts, and so did those of the init containers that are
written to take variables. -/
structure Kept (written : Json → Prop) (pod pod' : Json) : Prop where
  volumes : volumeList pod <+: volumeList pod'
  containers : ∀ {i : Nat} {c : Json}, (containerList pod)[i]? = some c →
    ∃ c', (containerList pod')[i]? = some c' ∧ Extended ["env", "volumeMounts"] c c'
  initContainers : ∀ {i : Nat} {c : Json}, (initContainerList pod)[i]? = some c →
    ∃ c', (initContainerList pod')[i]? = some c' ∧
      (c' = c ∨ written c ∧ Extended ["env"] c c')

theorem lookup_lists {lists : List String} {key : String} :
    ((lists.map fun list => (list, Room.list .closed)).lookup key).getD .closed =
      if key ∈ lists then .list .closed else .closed := by
  induction lists with
  | nil => rfl
  | cons list lists ih =>
    by_cases h : key = list
    · simp [h]
    · have other : (key == list) = false := by simpa using h
      simp [List.lookup_cons, other, h, ih]

theorem extended_of_grows {lists : List String} {c c' : Json}
    (h : Grows (.members (lists.map fun list => (list, .list .closed))) c c') :
    Extended lists c c' where
  entries _ there := h.itemsAt_prefix (lookup_lists.trans (if_pos there))
  others _ other := h.get_closed (lookup_lists.trans (if_neg other))

section Growth

variable {inits : Room} {pod pod' : Json} (h : Grows (podRoom inits) pod pod')

include h in
theorem listed_grows {key : String} {items : Room}
    (room : (specRooms inits).lookup key = some (.list items)) {i : Nat} {x : Json}
    (hx : ((spec pod).itemsAt key)[i]? = some x) :
    ∃ y, ((spec pod').itemsAt key)[i]? = some y ∧ Grows items x y := by
  rcases h.get "spec" with ⟨none, _⟩ | grown
  · rw [spec, none] at hx
    cases hx
  · exact grown.itemsAt (congrArg (fun o => o.getD .closed) room) hx

theorem kept_of_grows (h : Grows (podRoom (.list inits)) pod pod') {written : Json → Prop}
    (initContainer : ∀ {c c' : Json}, Grows inits c c' →
      c' = c ∨ written c ∧ Extended ["env"] c c') : Kept written pod pod' where
  volumes := by
    refine List.prefix_iff_getElem?.mpr fun i inside => ?_
    obtain ⟨y, hy, same⟩ := listed_grows h rfl (List.getElem?_eq_getElem inside)
    rw [hy, show y = _ from same]
  containers hc := by
    obtain ⟨c', hc', grown⟩ := listed_grows h rfl hc
    exact ⟨c', hc', extended_of_grows grown⟩
  initContainers hc := by
    obtain ⟨c', hc', grown⟩ := listed_grows h rfl hc
    exact ⟨c', hc', initContainer grown⟩

end Growth

def installer? (pod : Json) : Option Json := (initContainerList pod).find? (Named Names.installer)

/-- It stays the first one of its name. -/
theorem Kept.installer {written : Json → Prop} {pod pod' : Json} (h : Kept written pod pod')
    {x : Json} (found : installer? pod = some x) :
    ∃ x', installer? pod' = some x' ∧ Extended ["env"] x x' := by
  have item : ∀ {i : Nat} {c : Json}, (initContainerList pod)[i]? = some c →
      ∃ c', (initContainerList pod')[i]? = some c' ∧ Extended ["env"] c c' := fun hc => by
    obtain ⟨c', hc', rfl | ⟨_, told⟩⟩ := h.initContainers hc
    · exact ⟨_, hc', .refl _ _⟩
    · exact ⟨c', hc', told⟩
  obtain ⟨named, i, inside, rfl, others⟩ := List.find?_eq_some_iff_getElem.mp found
  obtain ⟨x', hx', told⟩ := item (List.getElem?_eq_getElem inside)
  obtain ⟨inside', rfl⟩ := List.getElem?_eq_some_iff.mp hx'
  refine ⟨_, List.find?_eq_some_iff_getElem.mpr
    ⟨(told.named (by decide) _).trans named, i, inside', rfl, fun j hj => ?_⟩, told⟩
  obtain ⟨y', hy', same⟩ := item (List.getElem?_eq_getElem (Nat.lt_trans hj inside))
  obtain ⟨_, rfl⟩ := List.getElem?_eq_some_iff.mp hy'
  rw [same.named (by decide)]
  exact others j hj

end Pod

end PodInstrumentation
