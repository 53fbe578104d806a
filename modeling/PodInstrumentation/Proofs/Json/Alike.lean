import PodInstrumentation.Proofs.Json.Merge
/-!
Documents that are the same but for the order of members. Main statements: a document with the patch
to another run on it is the other, nulls apart, and the patch between two documents is empty exactly
if they are the same, nulls apart. -/
namespace PodInstrumentation

namespace Json

inductive Alike : Json → Json → Prop where
  | refl (j : Json) : Alike j j
  | arr {xs ys : List Json} (length : xs.length = ys.length)
      (items : ∀ (i : Nat) (x y : Json), xs[i]? = some x → ys[i]? = some y → Alike x y) :
      Alike (.arr xs) (.arr ys)
  | obj {fs gs : Fields} (keys : ∀ k, (fs.lookup k).isSome = (gs.lookup k).isSome)
      (members : ∀ k v w, fs.lookup k = some v → gs.lookup k = some w → Alike v w) :
      Alike (.obj fs) (.obj gs)

namespace Alike

theorem arr_iff {xs ys : List Json} : Alike (.arr xs) (.arr ys) ↔
    xs.length = ys.length ∧
      ∀ (i : Nat) (x y : Json), xs[i]? = some x → ys[i]? = some y → Alike x y := by
  constructor
  · intro h
    cases h with
    | refl => exact ⟨rfl, fun i x y hx hy => Option.some.inj (hx.symm.trans hy) ▸ .refl x⟩
    | arr length items => exact ⟨length, items⟩
  · rintro ⟨length, items⟩
    exact .arr length items

theorem obj_iff {fs gs : Fields} : Alike (.obj fs) (.obj gs) ↔
    (∀ k, (fs.lookup k).isSome = (gs.lookup k).isSome) ∧
      ∀ k v w, fs.lookup k = some v → gs.lookup k = some w → Alike v w := by
  constructor
  · intro h
    cases h with
    | refl => exact ⟨fun _ => rfl, fun k v w hv hw => Option.some.inj (hv.symm.trans hw) ▸ .refl v⟩
    | obj keys members => exact ⟨keys, members⟩
  · rintro ⟨keys, members⟩
    exact .obj keys members

end Alike

theorem stripFields_stripFields {fs : Fields}
    (members : ∀ f ∈ fs, f.2.stripNulls.stripNulls = f.2.stripNulls) :
    stripFields (stripFields fs) = stripFields fs := by
  induction fs with
  | nil => rfl
  | cons f fs ih =>
    obtain ⟨k, v⟩ := f
    have tail := ih fun g hg => members g (List.mem_cons_of_mem _ hg)
    by_cases hv : v = .null
    · subst hv
      exact tail
    · have kept : v.stripNulls ≠ .null := fun e => hv (stripNulls_eq_null.mp e)
      rw [stripFields_cons_of_ne hv, stripFields_cons_of_ne kept, tail,
        members (k, v) List.mem_cons_self]

theorem stripNulls_stripNulls {j : Json} (h : j.Distinct) :
    j.stripNulls.stripNulls = j.stripNulls := by
  induction h with
  | obj _ _ ih => exact congrArg Json.obj (stripFields_stripFields ih)
  | arr _ ih =>
    simp only [stripNulls, stripItems_eq_map, List.map_map, arr.injEq]
    exact List.map_congr_left ih
  | null | bool | int | float | str => rfl

theorem mem_stripFields {f : String × Json} {fs : Fields} (h : f ∈ stripFields fs) :
    ∃ v, (f.1, v) ∈ fs ∧ f.2 = v.stripNulls := by
  induction fs with
  | nil => cases h
  | cons g fs ih =>
    obtain ⟨k, v⟩ := g
    have later : f ∈ stripFields fs → ∃ w, (f.1, w) ∈ (k, v) :: fs ∧ f.2 = w.stripNulls :=
      fun h => (ih h).imp fun _ there => ⟨List.mem_cons_of_mem _ there.1, there.2⟩
    by_cases hv : v = .null
    · subst hv
      exact later h
    · rw [stripFields_cons_of_ne hv] at h
      rcases List.mem_cons.mp h with rfl | h
      · exact ⟨v, List.mem_cons_self, rfl⟩
      · exact later h

theorem Distinct.stripNulls {j : Json} (h : j.Distinct) : j.stripNulls.Distinct := by
  induction h with
  | obj nodup _ ih =>
    refine .obj (nodup.sublist (keys_stripFields_sublist _)) fun f hf => ?_
    obtain ⟨v, there, value⟩ := mem_stripFields hf
    exact value ▸ ih _ there
  | arr _ ih =>
    refine .arr ?_
    simpa [stripItems_eq_map] using ih
  | null | bool | int | float | str => constructor

theorem merge_of_replaced {old new : Json}
    (plain : graft old new.stripNulls =
      if old.stripNulls = new.stripNulls then old else new.stripNulls) (distinct : new.Distinct) :
    (merge old new).stripNulls = new.stripNulls := by
  rw [merge, plain]
  split
  · rename_i same
    exact same
  · exact stripNulls_stripNulls distinct

theorem merge_eq_null {old new : Json} : merge old new = .null ↔ new = .null := by
  constructor
  · intro none
    by_cases some : new.stripNulls = .null
    · exact stripNulls_eq_null.mp some
    · unfold merge graft at none
      split at none
      · cases none
      · cases none
      · split at none
        · rename_i same
          rw [none] at same
          exact absurd same.symm some
        · exact absurd none some
  · rintro rfl
    exact merge_null_right old

theorem isSome_held? (v : Json) : (held? v).isSome = true ↔ v ≠ .null := by
  cases v <;> simp [held?]

theorem eq_null_of_held? {v : Json} (h : held? v = none) : v = .null := by
  cases v <;> simp_all [held?]

theorem lookup_of_held? {v w : Json} (h : held? v = some w) : v ≠ .null ∧ w = v.stripNulls := by
  have some : v ≠ .null := by
    rw [← isSome_held?, h]
    rfl
  rw [held?_of_ne some] at h
  exact ⟨some, (Option.some.inj h).symm⟩

def Merges (old : Json) : Prop :=
  ∀ {new : Json}, new.Distinct → Alike (merge old new).stripNulls new.stripNulls

theorem merges_obj {fs gs : Fields} (nodup : (Fields.keys fs).Nodup)
    (nodup' : (Fields.keys gs).Nodup) (members : ∀ k, Alike
      (merge ((Json.obj fs).get k) ((Json.obj gs).get k)).stripNulls
      ((Json.obj gs).get k).stripNulls) :
    Alike (merge (.obj fs) (.obj gs)).stripNulls (Json.obj gs).stripNulls := by
  have object : (Json.obj fs).IsObject := .intro nodup
  have object' : (Json.obj gs).IsObject := .intro nodup'
  have parts := get_merge object object'
  have both := object.merge object'
  generalize merge (.obj fs) (.obj gs) = merged at parts both
  cases both with
  | @intro hs keys =>
    have lookup : ∀ k, (stripFields hs).lookup k =
        held? (merge ((Json.obj fs).get k) ((Json.obj gs).get k)) :=
      fun k => parts k ▸ lookup_stripFields keys k
    refine .obj (fun k => ?_) fun k v w hv hw => ?_
    · rw [lookup, lookup_stripFields nodup', Bool.eq_iff_iff, isSome_held?, isSome_held?, ne_eq,
        merge_eq_null]
    · rw [lookup] at hv
      rw [lookup_stripFields nodup'] at hw
      rw [(lookup_of_held? hv).2, (lookup_of_held? hw).2]
      exact members k

theorem merges_items {xs ys : List Json} (parts : ∀ x ∈ xs, Merges x)
    (distinct : ∀ y ∈ ys, y.Distinct) {i : Nat} {x y : Json} (hx : (mergeItems xs ys)[i]? = some x)
    (hy : ys[i]? = some y) : Alike x.stripNulls y.stripNulls := by
  have fine := distinct y (List.mem_of_getElem? hy)
  rw [getElem?_mergeItems, hy, Option.map_some] at hx
  cases old : xs[i]? with
  | some z =>
    rw [old] at hx
    cases hx
    exact parts z (List.mem_of_getElem? old) fine
  | none =>
    rw [old] at hx
    cases hx
    rw [stripNulls_stripNulls fine]
    exact .refl _

/-- A document with the patch to another run on it is the other, nulls apart. -/
theorem alike_merge {old : Json} (distinct : old.Distinct) : Merges old := by
  have replaced : ∀ {old new : Json}, graft old new.stripNulls =
      (if old.stripNulls = new.stripNulls then old else new.stripNulls) → new.Distinct →
      Alike (merge old new).stripNulls new.stripNulls :=
    fun plain distinct => merge_of_replaced plain distinct ▸ .refl _
  induction distinct with
  | @obj fs nodup _ ih =>
    intro new distinct'
    cases new with
    | obj gs =>
      have members : ∀ k, Alike (merge ((Json.obj fs).get k) ((Json.obj gs).get k)).stripNulls
          ((Json.obj gs).get k).stripNulls := by
        intro k
        cases found : fs.lookup k with
        | some v =>
          have value : (Json.obj fs).get k = v := congrArg (fun o => o.getD .null) found
          exact value ▸ ih (k, v) (Fields.mem_of_lookup found) (distinct'.get k)
        | none =>
          have value : (Json.obj fs).get k = .null := congrArg (fun o => o.getD .null) found
          rw [value, merge_null_left, stripNulls_stripNulls (distinct'.get k)]
          exact .refl _
      cases distinct' with
      | obj nodup' _ => exact merges_obj nodup nodup' members
    | null | bool | int | float | str | arr => exact replaced rfl distinct'
  | @arr xs _ ih =>
    intro new distinct'
    cases distinct' with
    | @arr ys distinct' =>
      rw [merge_arr]
      simp only [stripNulls, stripItems_eq_map]
      refine .arr (by simp [length_mergeItems]) fun i x y hx hy => ?_
      rw [List.getElem?_map, Option.map_eq_some_iff] at hx hy
      obtain ⟨x, hx, rfl⟩ := hx
      obtain ⟨y, hy, rfl⟩ := hy
      exact merges_items ih distinct' hx hy
    | null | bool | int | float | str => exact replaced rfl (by constructor)
    | obj nodup members => exact replaced rfl (.obj nodup members)
  | null | bool | int | float | str =>
    intro new distinct'
    exact replaced (by cases new <;> rfl) distinct'

end Json

namespace Patch

open Json (Alike)

theorem memberDifference_eq_nil_iff {gs fs : Fields} : memberDifference gs fs = [] ↔
    ∀ f ∈ fs, ∃ w, gs.lookup f.1 = some w ∧ difference f.2 w = [] := by
  induction fs with
  | nil => simp [memberDifference]
  | cons f fs ih =>
    obtain ⟨k, v⟩ := f
    rw [memberDifference, List.append_eq_nil_iff, ih, List.forall_mem_cons]
    refine and_congr_left fun _ => ?_
    cases gs.lookup k <;> simp

theorem newMembers_eq_nil_iff {fs gs : Fields} :
    newMembers fs gs = [] ↔ ∀ g ∈ gs, (fs.lookup g.1).isSome = true := by
  rw [newMembers, List.filterMap_eq_nil_iff]
  refine forall₂_congr fun g _ => ?_
  cases fs.lookup g.1 <;> simp

theorem itemDifference_eq_nil_iff {i : Nat} {xs ys : List Json} : itemDifference i xs ys = [] ↔
    xs.length = ys.length ∧
      ∀ (k : Nat) (x y : Json), xs[k]? = some x → ys[k]? = some y → difference x y = [] := by
  induction xs generalizing i ys with
  | nil => cases ys <;> simp [itemDifference, extend]
  | cons x xs ih =>
    cases ys with
    | nil => simp [itemDifference]
    | cons y ys =>
      rw [itemDifference, List.append_eq_nil_iff, List.map_eq_nil_iff, ih]
      constructor
      · rintro ⟨head, length, tail⟩
        refine ⟨congrArg (· + 1) length, fun k => ?_⟩
        cases k with
        | zero =>
          rintro _ _ ⟨⟩ ⟨⟩
          exact head
        | succ k => exact tail k
      · rintro ⟨length, all⟩
        exact ⟨all 0 x y rfl rfl, Nat.succ.inj length, fun k => all (k + 1)⟩

theorem difference_obj_eq_nil_iff {fs gs : Fields} (nodup : (Fields.keys fs).Nodup)
    (nodup' : (Fields.keys gs).Nodup)
    (parts : ∀ f ∈ fs, ∀ w, (f.1, w) ∈ gs → (difference f.2 w = [] ↔ Alike f.2 w)) :
    difference (.obj fs) (.obj gs) = [] ↔ Alike (.obj fs) (.obj gs) := by
  rw [difference, List.append_eq_nil_iff, memberDifference_eq_nil_iff, newMembers_eq_nil_iff,
    Alike.obj_iff]
  constructor
  · rintro ⟨olds, news⟩
    refine ⟨fun k => ?_, fun k v w hv hw => ?_⟩
    · cases hv : fs.lookup k with
      | some v =>
        obtain ⟨w, hw, _⟩ := olds (k, v) (Fields.mem_of_lookup hv)
        rw [hw]
        rfl
      | none =>
        cases hw : gs.lookup k with
        | some w =>
          have old := news (k, w) (Fields.mem_of_lookup hw)
          rw [hv] at old
          cases old
        | none => rfl
    · obtain ⟨w', hw', none⟩ := olds (k, v) (Fields.mem_of_lookup hv)
      cases hw'.symm.trans hw
      exact (parts (k, v) (Fields.mem_of_lookup hv) w (Fields.mem_of_lookup hw)).mp none
  · rintro ⟨keys, alike⟩
    refine ⟨fun f hf => ?_, fun g hg => ?_⟩
    · have hv := Fields.lookup_of_mem nodup hf
      have there := keys f.1
      rw [hv] at there
      obtain ⟨w, hw⟩ := Option.isSome_iff_exists.mp there.symm
      exact ⟨w, hw, (parts f hf w (Fields.mem_of_lookup hw)).mpr (alike _ _ _ hv hw)⟩
    · rw [keys, Fields.lookup_of_mem nodup' hg]
      rfl

theorem difference_arr_eq_nil_iff {xs ys : List Json}
    (parts : ∀ x ∈ xs, ∀ y ∈ ys, (difference x y = [] ↔ Alike x y)) :
    difference (.arr xs) (.arr ys) = [] ↔ Alike (.arr xs) (.arr ys) := by
  rw [difference, itemDifference_eq_nil_iff, Alike.arr_iff]
  refine and_congr_right fun _ => ?_
  constructor
  · intro none i x y hx hy
    exact (parts x (List.mem_of_getElem? hx) y (List.mem_of_getElem? hy)).mp (none i x y hx hy)
  · intro alike i x y hx hy
    exact (parts x (List.mem_of_getElem? hx) y (List.mem_of_getElem? hy)).mpr (alike i x y hx hy)

/-- There is nothing to change exactly if the documents are the same. -/
theorem difference_eq_nil_iff {old new : Json} (distinct : old.Distinct)
    (distinct' : new.Distinct) :
    difference old new = [] ↔ Alike old new := by
  -- Of two documents that are not both objects or both arrays, one is put in the other's place.
  have replaced : ∀ {old new : Json},
      difference old new = (if old = new then [] else [.replace [] new]) →
      (Alike old new → old = new) → (difference old new = [] ↔ Alike old new) := by
    intro old new plain alike
    rw [plain]
    by_cases same : old = new
    · subst same
      simp [Alike.refl]
    · simp [same, mt alike same]
  induction distinct generalizing new with
  | @obj fs nodup _ ih =>
    cases distinct' with
    | @obj gs nodup' members =>
      exact difference_obj_eq_nil_iff nodup nodup' fun f hf w hw => ih f hf (members (f.1, w) hw)
    | null | bool | int | float | str | arr => exact replaced rfl fun alike => by cases alike
  | @arr xs _ ih =>
    cases distinct' with
    | @arr ys items =>
      exact difference_arr_eq_nil_iff fun x hx y hy => ih x hx (items y hy)
    | null | bool | int | float | str | obj => exact replaced rfl fun alike => by cases alike
  | null | bool | int | float | str =>
    refine replaced (by cases new <;> rfl) fun alike => ?_
    cases alike
    rfl

end Patch

end PodInstrumentation
