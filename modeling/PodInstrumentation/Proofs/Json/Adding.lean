import PodInstrumentation.Proofs.Json.Room
/-!
Patches that only add. Main statement: the patch of a document that grows puts members where none
are, items at the ends of arrays and texts at the free places of the room, and removes nothing. -/
namespace PodInstrumentation

namespace Json

def child? (key : String) : Json → Option Json
  | .obj fs => fs.lookup key
  | .arr xs => (Pointer.index? key).bind fun i => xs[i]?
  | _ => none

def at? : Pointer → Json → Option Json
  | [], j => some j
  | key :: p, j => (j.child? key).bind (at? p)

theorem child?_obj (fs : Fields) (key : String) : (Json.obj fs).child? key = fs.lookup key := rfl

theorem child?_arr (xs : List Json) (i : Nat) :
    (Json.arr xs).child? (Patch.indexKey i) = xs[i]? := by
  rw [child?, Pointer.index?_indexKey]
  rfl

end Json

namespace Operation

open Json (at?)

/-- The operation, run on the document, adds a member or an item at the end of an array, or sets
what is at a free place. -/
def Adds (free : Pointer → Prop) (doc : Json) : Operation → Prop
  | add p _ => ∃ q k, p = q ++ [k] ∧ (at? p doc = none ∨ at? p doc = some .null) ∧
      ∀ xs, at? q doc = some (.arr xs) → k = Patch.indexKey xs.length
  | replace p _ => free p
  | remove _ => False

variable {free free' : Pointer → Prop} {doc part : Json} {op : Operation} {key : String}

theorem Adds.inner (h : op.Adds free doc) : Patch.Inner op := by
  cases op with
  | add p v =>
    obtain ⟨q, k, rfl, _⟩ := h
    exact .inl (by simp [path])
  | replace p v =>
    cases p with
    | nil => exact .inr ⟨v, rfl⟩
    | cons => exact .inl (List.cons_ne_nil _ _)
  | remove p => exact absurd h id

theorem Adds.mono (places : ∀ p, free p → free' p) (h : op.Adds free doc) :
    op.Adds free' doc := by
  cases op with
  | add p v => exact h
  | replace p v => exact places p h
  | remove p => exact absurd h id

theorem Adds.under (found : doc.child? key = some part) (places : ∀ p, free p → free' (key :: p))
    (h : op.Adds free part) : (op.under key).Adds free' doc := by
  have below : ∀ p, at? (key :: p) doc = at? p part := fun p => by rw [at?, found]; rfl
  cases op with
  | add p v =>
    obtain ⟨q, k, rfl, vacant, last⟩ := h
    refine ⟨key :: q, k, rfl, ?_, fun xs there => last xs ?_⟩
    · rw [below]
      exact vacant
    · rw [← below]
      exact there
  | replace p v => exact places p h
  | remove p => exact absurd h id

end Operation

namespace Patch

open Json (Grows merge mergeItems graftMembers additions stripFields stripItems held?)

inductive AddsOnly (free : Pointer → Prop) : Json → Patch → Json → Prop
  | nil (doc : Json) : AddsOnly free doc [] doc
  | cons {doc doc' doc'' : Json} {op : Operation} {ops : Patch} (adds : op.Adds free doc)
      (ran : applyOne op doc = some doc') (rest : AddsOnly free doc' ops doc'') :
      AddsOnly free doc (op :: ops) doc''

namespace AddsOnly

variable {free free' : Pointer → Prop} {doc doc' doc'' : Json} {p q : Patch}

theorem apply (h : AddsOnly free doc p doc') : Patch.apply p doc = some doc' := by
  induction h with
  | nil => rfl
  | cons adds ran rest ih =>
    rw [Patch.apply, List.foldlM_cons, ran]
    exact ih

theorem mono (places : ∀ p, free p → free' p) (h : AddsOnly free doc p doc') :
    AddsOnly free' doc p doc' := by
  induction h with
  | nil => exact .nil _
  | cons adds ran rest ih => exact .cons (adds.mono places) ran ih

theorem append (h : AddsOnly free doc p doc') (h' : AddsOnly free doc' q doc'') :
    AddsOnly free doc (p ++ q) doc'' := by
  induction h with
  | nil => exact h'
  | cons adds ran rest ih => exact .cons adds ran (ih h')

theorem under_obj {fs : Fields} {key : String} {v w : Json} (found : fs.lookup key = some v)
    (places : ∀ p, free p → free' (key :: p)) (h : AddsOnly free v p w) :
    AddsOnly free' (.obj fs) (p.map (.under key)) (.obj (Fields.put key w fs)) := by
  induction h generalizing fs with
  | nil =>
    rw [Fields.put_of_lookup found]
    exact .nil _
  | @cons _ v' _ _ _ adds ran rest ih =>
    have step := applyOne_under_obj found adds.inner
    rw [ran] at step
    have tail := ih (Fields.lookup_put_self key v' fs)
    rw [Fields.put_put] at tail
    exact .cons (adds.under found places) step tail

theorem under_arr {xs : List Json} {i : Nat} {v w : Json} (found : xs[i]? = some v)
    (places : ∀ p, free p → free' (indexKey i :: p)) (h : AddsOnly free v p w) :
    AddsOnly free' (.arr xs) (p.map (.under (indexKey i))) (.arr (xs.set i w)) := by
  have bound : i < xs.length := (List.getElem?_eq_some_iff.mp found).1
  induction h generalizing xs with
  | nil =>
    rw [List.map_nil, ← (List.getElem?_eq_some_iff.mp found).2, List.set_getElem_self]
    exact .nil _
  | @cons _ v' _ _ _ adds ran rest ih =>
    have step := applyOne_under_arr found adds.inner
    rw [ran] at step
    have tail := @ih (xs.set i v') (by simp [bound]) (by simpa using bound)
    rw [List.set_set] at tail
    exact .cons (adds.under ((Json.child?_arr xs i).trans found) places) step tail

theorem extend (xs ys : List Json) :
    AddsOnly free (.arr xs) (Patch.extend xs.length ys) (.arr (xs ++ ys)) := by
  induction ys generalizing xs with
  | nil =>
    rw [List.append_nil]
    exact .nil _
  | cons y ys ih =>
    have adds : (Operation.add [indexKey xs.length] y).Adds free (.arr xs) := by
      refine ⟨[], indexKey xs.length, rfl, .inl ?_, fun zs there => ?_⟩
      · simp [Json.at?, Json.child?_arr]
      · cases there
        rfl
    have one := apply_extend [y] xs
    simp only [Patch.extend, Patch.apply, List.foldlM_cons, List.foldlM_nil] at one
    have ran : applyOne (.add [indexKey xs.length] y) (.arr xs) = some (.arr (xs ++ [y])) := by
      simpa using one
    have rest := ih (xs ++ [y])
    rw [List.length_append, List.length_singleton, List.append_assoc, List.singleton_append] at rest
    exact .cons adds ran rest

theorem newMembers {fs gs hs : Fields} (nodup : (Fields.keys gs).Nodup)
    (vacant : ∀ g ∈ additions fs gs, hs.lookup g.1 = none ∨ hs.lookup g.1 = some .null) :
    AddsOnly free (.obj hs) (Patch.newMembers (stripFields fs) gs)
      (.obj ((additions fs gs).foldl (fun hs g => Fields.put g.1 g.2 hs) hs)) := by
  induction gs generalizing hs with
  | nil => exact .nil _
  | cons g gs ih =>
    obtain ⟨k, v⟩ := g
    rw [Fields.keys_cons, List.nodup_cons] at nodup
    by_cases new : (stripFields fs).lookup k = none
    · have all : additions fs ((k, v) :: gs) = (k, v) :: additions fs gs := by
        simp [additions, new]
      have first : Patch.newMembers (stripFields fs) ((k, v) :: gs) =
          .add [k] v :: Patch.newMembers (stripFields fs) gs := by
        simp [Patch.newMembers, new]
      rw [all] at vacant ⊢
      rw [first]
      have ran : applyOne (.add [k] v) (.obj hs) = some (.obj (Fields.put k v hs)) := by
        simp [applyOne]
      refine .cons ⟨[], k, rfl, ?_, fun xs there => by cases there⟩ ran (ih nodup.2 fun g hg => ?_)
      · simpa [Json.at?, Json.child?_obj] using vacant (k, v) List.mem_cons_self
      · have other : g.1 ≠ k := by
          rintro rfl
          exact nodup.1 (Fields.mem_keys_of_mem (List.mem_filter.mp hg).1)
        rw [Fields.lookup_put_of_ne other]
        exact vacant g (List.mem_cons_of_mem _ hg)
    · have all : additions fs ((k, v) :: gs) = additions fs gs := by simp [additions, new]
      have first : Patch.newMembers (stripFields fs) ((k, v) :: gs) =
          Patch.newMembers (stripFields fs) gs := by simp [Patch.newMembers, new]
      rw [all] at vacant ⊢
      rw [first]
      exact ih nodup.2 vacant

end AddsOnly

def GrowsBy (r : Room) : Prop := ∀ {v w : Json}, v.Distinct → Grows r v w →
  AddsOnly r.Free v (between v w) (merge v w)

theorem addsOnly_same {free : Pointer → Prop} {v : Json} (distinct : v.Distinct) :
    AddsOnly free v (between v v) (merge v v) := by
  have empty : between v v = [] :=
    (difference_eq_nil_iff distinct.stripNulls distinct.stripNulls).mpr (.refl _)
  rw [empty, Json.merge_self distinct]
  exact .nil v

theorem addsOnly_items {r : Room} (grows : GrowsBy r) (done : List Json) {xs ys : List Json}
    (distinct : ∀ x ∈ xs, x.Distinct) (longer : xs.length ≤ ys.length)
    (items : ∀ (i : Nat) (x y : Json), xs[i]? = some x → ys[i]? = some y → Grows r x y) :
    AddsOnly (Room.list r).Free (.arr (done ++ xs))
      (itemDifference done.length (stripItems xs) (stripItems ys))
      (.arr (done ++ mergeItems xs ys)) := by
  -- `done` holds the items before those that are left, as the patch has made them by then.
  induction xs generalizing done ys with
  | nil =>
    have added : AddsOnly (Room.list r).Free _ _ _ := .extend done (stripItems ys)
    simpa [stripItems, itemDifference, mergeItems, Json.graftItems] using added
  | cons x xs ih =>
    cases ys with
    | nil => exact absurd longer (by simp)
    | cons y ys =>
      rw [List.forall_mem_cons] at distinct
      have found : (done ++ x :: xs)[done.length]? = some x := by simp
      have head : AddsOnly (Room.list r).Free _ _ _ :=
        (grows distinct.1 (items 0 x y rfl rfl)).under_arr found fun p h => ⟨_, p, rfl, h⟩
      have put : (done ++ x :: xs).set done.length (merge x y) = done ++ merge x y :: xs := by simp
      rw [put] at head
      have rest := ih (done ++ [merge x y]) distinct.2 (Nat.le_of_succ_le_succ longer)
        fun i => items (i + 1)
      simp only [List.length_append, List.length_singleton, List.append_assoc,
        List.singleton_append] at rest
      exact head.append rest

theorem addsOnly_members {r : String → Room} (grows : ∀ k, GrowsBy (r k)) {gs : Fields}
    (nodup' : (Fields.keys gs).Nodup) (done : Fields) {fs : Fields}
    (nodup : (Fields.keys (done ++ fs)).Nodup) (distinct : ∀ f ∈ fs, f.2.Distinct)
    (members : ∀ k v, (k, v) ∈ fs → v ≠ .null → Grows (r k) v ((Json.obj gs).get k)) :
    AddsOnly (Room.object r).Free (.obj (done ++ fs))
      (memberDifference (stripFields gs) (stripFields fs))
      (.obj (done ++ graftMembers (stripFields gs) fs)) := by
  -- `done` holds the members before those that are left.
  induction fs generalizing done with
  | nil => exact .nil _
  | cons f fs ih =>
    obtain ⟨k, v⟩ := f
    rw [List.forall_mem_cons] at distinct
    have next : ∀ w, AddsOnly (Room.object r).Free (.obj (done ++ (k, w) :: fs))
        (memberDifference (stripFields gs) (stripFields fs))
        (.obj (done ++ (k, w) :: graftMembers (stripFields gs) fs)) := by
      intro w
      have keys : Fields.keys (done ++ [(k, w)] ++ fs) = Fields.keys (done ++ (k, v) :: fs) := by
        simp
      simpa using ih (done ++ [(k, w)]) (keys ▸ nodup) distinct.2
        fun l u there => members l u (List.mem_cons_of_mem _ there)
    by_cases hv : v = .null
    · subst hv
      simpa [stripFields, graftMembers] using next .null
    · have grown := members k v List.mem_cons_self hv
      have stays : (Json.obj gs).get k ≠ .null := fun e => hv (e ▸ grown).eq_null
      have new : (stripFields gs).lookup k = some ((Json.obj gs).get k).stripNulls := by
        rw [Json.lookup_stripFields nodup', Json.held?_of_ne stays]
      have found : (done ++ (k, v) :: fs).lookup k = some v :=
        Fields.lookup_of_mem nodup (by simp)
      have fresh : k ∉ Fields.keys done := fun h =>
        (List.nodup_append.mp (Fields.keys_append _ _ ▸ nodup)).2.2 k h k List.mem_cons_self rfl
      have head : AddsOnly (Room.object r).Free _ _ _ :=
        (grows k distinct.1 grown).under_obj found fun p h => ⟨_, p, rfl, h⟩
      have put : Fields.put k (merge v ((Json.obj gs).get k)) (done ++ (k, v) :: fs) =
          done ++ (k, merge v ((Json.obj gs).get k)) :: fs := by
        simp [Fields.put_append fresh, Fields.put]
      rw [put] at head
      rw [Json.stripFields_cons_of_ne hv, Json.graftMembers_cons_of_ne hv, new]
      simp only [memberDifference, new]
      exact head.append (next _)

/-- The patch of a document that grows only adds. -/
theorem addsOnly_between (r : Room) : GrowsBy r := by
  induction r with
  | closed =>
    intro v w distinct grown
    cases grown
    exact addsOnly_same distinct
  | text =>
    rintro v w distinct (rfl | ⟨s, rfl⟩)
    · exact addsOnly_same distinct
    · have plain : between v (.str s) = if v.stripNulls = .str s then [] else
          [.replace [] (.str s)] := by cases v <;> rfl
      rw [Json.merge_text, plain]
      split
      · rename_i same
        have text : v = .str s := by cases v <;> simp_all [Json.stripNulls]
        exact text ▸ .nil _
      · exact .cons rfl (by simp [applyOne]) (.nil _)
  | list r ih =>
    rintro v w distinct (rfl | ⟨xs, ys, rfl, rfl, longer, items⟩)
    · exact addsOnly_same distinct
    · cases distinct with
      | arr fine => exact addsOnly_items ih [] fine longer items
  | object r ih =>
    rintro v w distinct (rfl | ⟨fs, gs, rfl, rfl, keys, members⟩)
    · exact addsOnly_same distinct
    cases distinct with
    | obj nodup fine =>
      have value : ∀ k v, (k, v) ∈ fs → (Json.obj fs).get k = v := fun k v there =>
        congrArg (fun o => o.getD .null) (Fields.lookup_of_mem nodup there)
      have grown : ∀ k v, (k, v) ∈ fs → v ≠ .null → Grows (r k) v ((Json.obj gs).get k) := by
        intro k v there hv
        rcases members k with ⟨vacant, _⟩ | grown
        · exact absurd ((value k v there).symm.trans vacant) hv
        · exact value k v there ▸ grown
      have olds := addsOnly_members ih (keys nodup) [] nodup fine grown
      have news := (keys nodup).sublist (Json.keys_stripFields_sublist gs)
      refine olds.append (.newMembers news fun g hg => ?_)
      -- What is added was null at most, and the members that stay show it as it was.
      have absent : (stripFields fs).lookup g.1 = none := by
        simpa using (List.mem_filter.mp hg).2
      rw [Json.lookup_stripFields nodup] at absent
      have vacant : (Json.obj fs).get g.1 = .null := Json.eq_null_of_held? absent
      rw [List.nil_append, (Json.lookup_graftMembers nodup (stripFields gs) g.1).1 vacant]
      cases found : fs.lookup g.1 with
      | none => exact .inl rfl
      | some v =>
        have null := (value _ _ (Fields.mem_of_lookup found)).symm.trans vacant
        exact .inr (congrArg some null)
  | only p r ih =>
    rintro v w distinct (rfl | ⟨_, grown⟩)
    · exact addsOnly_same distinct
    · exact ih distinct grown

end Patch

end PodInstrumentation
