import PodInstrumentation.Proofs.Json.Room
import PodInstrumentation.Proofs.Pod.Extending
/-!
What the operations on manifests add. On any document, however misshapen, each of them either fails
or lets it grow within the room of a pod. -/
namespace PodInstrumentation.Pod

open Json (Grows)

def containerRoom : Room :=
  .members [("env", .list .closed), ("volumeMounts", .list .closed)]

def installerRoom : Room :=
  .only (Named Names.installer) (.members [("env", .list .closed)])

def marks : List String := [Names.injected, Names.agentInjected, Names.enrichmentInjected]

def specRooms (inits : Room) : List (String × Room) := [
  ("containers", .list containerRoom),
  ("initContainers", inits),
  ("volumes", .list .closed)]

/-- A pod takes containers and volumes at the end; the room of its init containers is given. -/
def podRoom (inits : Room) : Room := .members [
  ("metadata", .members [("annotations", .members (marks.map fun mark => (mark, .text)))]),
  ("spec", .members (specRooms inits))]

def IsMark (p : Pointer) : Prop := ∃ mark ∈ marks, p = ["metadata", "annotations", mark]

section Free

theorem free_members {rooms : List (String × Room)} {p : Pointer}
    (h : (Room.members rooms).Free p) : ∃ f ∈ rooms, ∃ q, p = f.1 :: q ∧ f.2.Free q := by
  obtain ⟨k, q, rfl, free⟩ := h
  change ((rooms.lookup k).getD .closed).Free q at free
  cases found : rooms.lookup k with
  | none =>
    rw [found] at free
    exact absurd free id
  | some r =>
    rw [found] at free
    obtain ⟨before, after, rfl, _⟩ := List.lookup_eq_some_iff.mp found
    exact ⟨(k, r), by simp, q, rfl, free⟩

theorem not_free_list {items : Room} (closed : ∀ p, ¬ items.Free p) (p : Pointer) :
    ¬ (Room.list items).Free p := fun ⟨_, q, _, h⟩ => closed q h

theorem not_free_list_closed (p : Pointer) : ¬ (Room.list .closed).Free p :=
  not_free_list (fun _ => id) p

theorem not_free_containerRoom (p : Pointer) : ¬ containerRoom.Free p := by
  intro h
  obtain ⟨f, hf, q, _, free⟩ := free_members h
  rcases hf with _ | ⟨_, _ | ⟨_, ⟨⟩⟩⟩ <;> exact not_free_list_closed q free

theorem not_free_installerRoom (p : Pointer) : ¬ installerRoom.Free p := by
  intro h
  obtain ⟨f, hf, q, _, free⟩ := free_members (p := p) h
  rcases hf with _ | ⟨_, ⟨⟩⟩
  exact not_free_list_closed q free

theorem isMark_of_free {inits : Room} (closed : ∀ p, ¬ inits.Free p) {p : Pointer}
    (h : (podRoom inits).Free p) : IsMark p := by
  obtain ⟨f, hf, q, rfl, part⟩ := free_members h
  rcases hf with _ | ⟨_, _ | ⟨_, ⟨⟩⟩⟩
  · obtain ⟨g, hg, q, rfl, annotation⟩ := free_members part
    rcases hg with _ | ⟨_, ⟨⟩⟩
    obtain ⟨m, hm, q, rfl, text⟩ := free_members annotation
    obtain ⟨mark, marked, rfl⟩ := List.mem_map.mp hm
    exact ⟨mark, marked, by rw [show q = [] from text]⟩
  · obtain ⟨g, hg, q, rfl, item⟩ := free_members part
    rcases hg with _ | ⟨_, _ | ⟨_, _ | ⟨_, ⟨⟩⟩⟩⟩
    · obtain ⟨_, q, _, inner⟩ := item
      exact absurd inner (not_free_containerRoom q)
    · exact absurd item (closed q)
    · exact absurd item (not_free_list_closed q)

end Free

section Members

variable {r : String → Room} {items : Room}

theorem grows_put {fs : Fields} {key : String} {w : Json}
    (h : ((Json.obj fs).get key = .null ∧ r key ≠ .closed ∧ Grows (r key) (r key).start w) ∨
      Grows (r key) ((Json.obj fs).get key) w) :
    Grows (.object r) (.obj fs) (.obj (Fields.put key w fs)) := by
  refine .inr ⟨fs, _, rfl, rfl, Fields.nodup_put, fun k => ?_⟩
  by_cases hk : k = key
  · have self : (Json.obj (Fields.put key w fs)).get key = w :=
      congrArg (fun o => o.getD .null) (Fields.lookup_put_self key w fs)
    rw [hk, self]
    exact h
  · have other : (Json.obj (Fields.put key w fs)).get k = (Json.obj fs).get k :=
      congrArg (fun o => o.getD .null) (Fields.lookup_put_of_ne hk w fs)
    rw [other]
    exact .inr (.refl _ _)

theorem append_grows {list : String} (room : r list = .list items) {xs : List Json}
    {owner owner' : Json} (h : append list xs owner = .ok owner') :
    Grows (.object r) owner owner' := by
  cases owner with
  | obj fs =>
    obtain ⟨ys, appended, written⟩ := bind_eq_ok_iff.mp h
    cases written
    refine grows_put ?_
    have value : (fs.lookup list).getD .null = (Json.obj fs).get list := rfl
    rw [value] at appended
    generalize (Json.obj fs).get list = v at appended
    rw [room]
    cases v with
    | null =>
      cases appended
      exact .inl ⟨rfl, nofun, .inr ⟨[], xs, rfl, rfl, Nat.zero_le _, nofun⟩⟩
    | arr zs =>
      cases appended
      refine .inr (.inr ⟨zs, zs ++ xs, rfl, rfl, by simp, fun i x y hx hy => ?_⟩)
      rw [List.getElem?_append_left (List.getElem?_eq_some_iff.mp hx).1, hx] at hy
      cases hy
      exact .refl _ x
    | bool | int | float | str | obj => cases appended
  | null | bool | int | float | str | arr => cases h

theorem changePart_grows {part : String} {q : String → Room} (room : r part = .object q)
    {change : Json → Shaped Json} (grows : ∀ v v', change v = .ok v' → Grows (.object q) v v')
    {doc doc' : Json} (h : changePart part change doc = .ok doc') :
    Grows (.object r) doc doc' := by
  cases doc with
  | obj fs =>
    obtain ⟨w, changed, written⟩ := bind_eq_ok_iff.mp h
    cases written
    refine grows_put ?_
    have value : (Json.obj fs).get part = (fs.lookup part).getD .null := rfl
    rw [value, room]
    cases found : fs.lookup part with
    | none =>
      rw [found] at changed
      exact .inl ⟨rfl, nofun, grows _ w changed⟩
    | some v =>
      rw [found] at changed
      exact .inr (grows v w changed)
  | null | bool | int | float | str | arr => cases h

theorem withMember_grows {key value : String} (room : r key = .text) {v w : Json}
    (h : withMember key (.str value) v = .ok w) :
    v = .null ∧ Grows (.object r) .empty w ∨ Grows (.object r) v w := by
  have set : ∀ fs, Grows (.object r) (.obj fs) (.obj (Fields.put key (.str value) fs)) :=
    fun fs => grows_put (room ▸ .inr (.inr ⟨value, rfl⟩))
  cases v with
  | null =>
    cases h
    exact .inl ⟨rfl, set []⟩
  | obj fs =>
    cases h
    exact .inr (set fs)
  | bool | int | float | str | arr => cases h

theorem appendEnv_grows (room : r "env" = .list items) {vars : List Json} {c c' : Json}
    (h : appendEnv vars c = .ok c') : Grows (.object r) c c' := append_grows room h

theorem addMetadata_grows (room : r "env" = .list items) {config : MonitoringConfig}
    {version clusterId : String} {c c' : Json}
    (h : addMetadata config version clusterId c = .ok c') : Grows (.object r) c c' := by
  obtain ⟨has, _, h⟩ := bind_eq_ok_iff.mp h
  cases has with
  | true =>
    cases h
    exact .refl _ c
  | false => exact appendEnv_grows room h

theorem noteContainer_grows (room : r "env" = .list items) {number : Int} {c x x' : Json}
    (h : noteContainer number c x = .ok x') : Grows (.object r) x x' := by
  obtain ⟨has, _, h⟩ := bind_eq_ok_iff.mp h
  cases has with
  | true =>
    cases h
    exact .refl _ x
  | false =>
    cases c with
    | obj fs => exact appendEnv_grows room h
    | null | bool | int | float | str | arr => cases h

end Members

section Pods

variable {inits : Room} {pod pod' : Json}

theorem appendVolumes_grows {volumes : List Json} (h : appendVolumes volumes pod = .ok pod') :
    Grows (podRoom inits) pod pod' :=
  changePart_grows rfl (fun _ _ => append_grows rfl) h

theorem addInstaller_grows {items : Room} {installer : Json}
    (h : addInstaller installer pod = .ok pod') : Grows (podRoom (.list items)) pod pod' :=
  changePart_grows rfl (fun _ _ => append_grows rfl) h

theorem addConfigVolume_grows (h : addConfigVolume pod = .ok pod') :
    Grows (podRoom inits) pod pod' := by
  obtain ⟨has, _, h⟩ := bind_eq_ok_iff.mp h
  cases has with
  | true =>
    cases h
    exact .refl _ pod
  | false => exact appendVolumes_grows h

theorem lookup_marks {mark : String} (marked : mark ∈ marks) :
    (marks.map fun m => (m, Room.text)).lookup mark = some .text := by
  simp only [marks, List.mem_cons, List.not_mem_nil, or_false] at marked
  rcases marked with rfl | rfl | rfl <;> rfl

theorem annotate_grows {mark value : String} (marked : mark ∈ marks)
    (h : annotate mark value pod = .ok pod') : Grows (podRoom inits) pod pod' := by
  refine changePart_grows rfl (fun v v' changed => ?_) h
  cases v with
  | obj fs =>
    obtain ⟨w, set, written⟩ := bind_eq_ok_iff.mp changed
    cases written
    refine grows_put ?_
    have room := congrArg (fun o => o.getD Room.closed) (lookup_marks marked)
    refine (withMember_grows room set).imp ?_ id
    exact fun ⟨vacant, begun⟩ => ⟨vacant, Room.members_ne_closed _, begun⟩
  | null | bool | int | float | str | arr => cases changed

theorem set_grows {r : String → Room} {key : String} {j w : Json}
    (h : Grows (r key) (j.get key) w) : Grows (.object r) j (j.set key w) := by
  cases j with
  | obj fs => exact grows_put (.inr h)
  | null | bool | int | float | str | arr => exact .refl _ _

theorem part_spec {fs gs : Fields} {key : String} {xs : List Json}
    (found : fs.lookup "spec" = some (.obj gs)) (listed : gs.lookup key = some (.arr xs)) :
    (Json.obj fs).part "spec" = .ok (.obj gs) := by
  cases gs with
  | nil => cases listed
  | cons g gs =>
    simp only [Json.part, Json.field, found, Option.getD_some, ok_bind]
    rfl

theorem each_arr (xs : List Json) : (Json.arr xs).each = .ok xs := by
  cases xs <;> rfl

theorem containers_each_arr {xs : List Json} (h : (spec pod).get "containers" = .arr xs) :
    (containers pod >>= Json.each) = .ok xs := by
  obtain ⟨fs, gs, rfl, found, listed⟩ := lookup_spec h
  simp only [containers, part_spec found listed, ok_bind, Json.field, listed, Option.getD_some]
  cases xs <;> rfl

theorem findInstaller_arr {xs : List Json} (h : (spec pod).get "initContainers" = .arr xs) :
    findInstaller pod = findNamed Names.installer 0 xs := by
  obtain ⟨fs, gs, rfl, found, listed⟩ := lookup_spec h
  simp only [findInstaller, part_spec found listed, ok_bind, Json.field, listed, Option.getD_some,
    each_arr]

theorem findNamed_eq_some {name : String} {i k : Nat} {xs : List Json} {x : Json}
    (h : findNamed name i xs = .ok (some (k, x))) : ∃ before after, xs = before ++ x :: after ∧
      k = i + before.length ∧ Named name x = true ∧ ∀ y ∈ before, Named name y = false := by
  induction xs generalizing i with
  | nil => cases h
  | cons y ys ih =>
    obtain ⟨v, read, h⟩ := bind_eq_ok_iff.mp h
    cases field_eq_ok read
    split at h
    · rename_i named
      cases h
      exact ⟨[], ys, rfl, rfl, by simp [Named, named], by simp⟩
    · rename_i named
      obtain ⟨before, after, rfl, rfl, hx, others⟩ := ih h
      exact ⟨y :: before, after, rfl, by simp; omega, hx, by simpa [Named, named] using others⟩

theorem putContainers_grows {cs cs' : List Json} (read : (containers pod >>= Json.each) = .ok cs)
    (longer : cs.length ≤ cs'.length)
    (grown : ∀ (i : Nat) (c c' : Json), cs[i]? = some c → cs'[i]? = some c' →
      Grows containerRoom c c') : Grows (podRoom inits) pod (putContainers cs' pod) := by
  by_cases h : ∃ xs, (spec pod).get "containers" = .arr xs
  · obtain ⟨xs, h⟩ := h
    have same : xs = cs := Except.ok.inj ((containers_each_arr h).symm.trans read)
    subst same
    rw [putContainers_arr h]
    refine set_grows (set_grows ?_)
    rw [h]
    exact .inr ⟨xs, cs', rfl, rfl, longer, grown⟩
  · rw [putContainers_of_ne fun xs hx => h ⟨xs, hx⟩]
    exact .refl _ pod

theorem findInstaller_putContainers (cs : List Json) (pod : Json) :
    findInstaller (putContainers cs pod) = findInstaller pod := by
  by_cases h : ∃ xs, (spec pod).get "containers" = .arr xs
  · obtain ⟨xs, h⟩ := h
    obtain ⟨fs, gs, rfl, found, listed⟩ := lookup_spec h
    have found' := Fields.lookup_put_self "spec" (.obj (Fields.put "containers" (.arr cs) gs)) fs
    have listed' := Fields.lookup_put_self "containers" (.arr cs) gs
    simp only [putContainers, found, listed, findInstaller, part_spec found listed,
      part_spec found' listed', ok_bind, Json.field,
      Fields.lookup_put_of_ne (by decide : "initContainers" ≠ "containers")]
  · rw [putContainers_of_ne fun xs hx => h ⟨xs, hx⟩]

theorem putInstaller_grows {i : Nat} {x x' : Json} (found : findInstaller pod = .ok (some (i, x)))
    (grown : Grows (.members [("env", .list .closed)]) x x') :
    Grows (podRoom (.list installerRoom)) pod (putInstaller i x' pod) := by
  by_cases h : ∃ xs, (spec pod).get "initContainers" = .arr xs
  · obtain ⟨xs, h⟩ := h
    rw [findInstaller_arr h] at found
    obtain ⟨before, after, rfl, rfl, named, _⟩ := findNamed_eq_some found
    rw [putInstaller_arr h]
    refine set_grows (set_grows ?_)
    rw [h]
    refine .inr ⟨_, _, rfl, rfl, by simp, fun k y y' hy hy' => ?_⟩
    rw [List.getElem?_set] at hy'
    split at hy'
    · rename_i here
      subst here
      have same : x = y := by simpa using hy
      have new : x' = y' := by simpa using hy'
      exact same ▸ new ▸ .inr ⟨named, grown⟩
    · rw [hy] at hy'
      cases hy'
      exact .refl _ y
  · rw [putInstaller_of_ne fun xs hx => h ⟨xs, hx⟩]
    exact .refl _ pod

end Pods

end PodInstrumentation.Pod
