import PodInstrumentation.Proofs.Json.Graft
/-!
A document with the patch to another run on it, by what is found in it: what the two have in common
stays, and the rest is as in the other without its members that hold null. -/
namespace PodInstrumentation

namespace Fields

theorem lookup_filter_keys (p : String → Bool) (k : String) (fs : Fields) :
    (fs.filter fun f => p f.1).lookup k = if p k then fs.lookup k else none := by
  induction fs with
  | nil => simp
  | cons f fs ih =>
    obtain ⟨l, v⟩ := f
    by_cases hk : k = l
    · subst hk
      cases hp : p k <;> simp [hp, ih]
    · cases hp : p l <;> simp [hp, hk, ih]

theorem lookup_foldl_put {gs : Fields} (nodup : (keys gs).Nodup) (hs : Fields) (k : String) :
    (gs.foldl (fun hs g => put g.1 g.2 hs) hs).lookup k = (gs.lookup k).or (hs.lookup k) := by
  induction gs generalizing hs with
  | nil => simp
  | cons g gs ih =>
    obtain ⟨l, v⟩ := g
    simp only [keys_cons, List.nodup_cons] at nodup
    rw [List.foldl_cons, ih nodup.2]
    by_cases hk : k = l
    · subst hk
      simp [lookup_eq_none_iff.mpr nodup.1, lookup_put_self]
    · simp [hk, lookup_put_of_ne hk]

end Fields

namespace Json

@[simp] theorem stripNulls_eq_null {j : Json} : j.stripNulls = .null ↔ j = .null := by
  cases j <;> simp [stripNulls]

def held? : Json → Option Json
  | .null => none
  | v => some v.stripNulls

theorem held?_of_ne {v : Json} (h : v ≠ .null) : held? v = some v.stripNulls := by
  cases v with
  | null => exact absurd rfl h
  | bool | int | float | str | arr | obj => rfl

theorem lookup_stripFields {fs : Fields} (nodup : (Fields.keys fs).Nodup) (k : String) :
    (stripFields fs).lookup k = held? ((Json.obj fs).get k) := by
  induction fs with
  | nil => rfl
  | cons f fs ih =>
    obtain ⟨l, v⟩ := f
    simp only [Fields.keys_cons, List.nodup_cons] at nodup
    have absent : fs.lookup l = none := Fields.lookup_eq_none_iff.mpr nodup.1
    have rest := ih nodup.2
    simp only [get, get?] at rest ⊢
    by_cases hk : k = l
    · subst hk
      by_cases hv : v = .null
      · subst hv
        simpa [stripFields, absent] using rest
      · simp [stripFields_cons_of_ne hv, held?_of_ne hv]
    · by_cases hv : v = .null
      · subst hv
        simpa [stripFields, hk] using rest
      · simpa [stripFields_cons_of_ne hv, hk] using rest

theorem keys_stripFields_sublist (fs : Fields) :
    (Fields.keys (stripFields fs)).Sublist (Fields.keys fs) := by
  induction fs with
  | nil => simp [stripFields]
  | cons f fs ih =>
    obtain ⟨l, v⟩ := f
    by_cases hv : v = .null
    · subst hv
      simpa [stripFields] using ih.cons l
    · rw [stripFields_cons_of_ne hv]
      simpa using ih.cons_cons l

theorem IsObject.stripNulls {j : Json} (h : j.IsObject) : j.stripNulls.IsObject := by
  cases h with
  | intro nodup => exact .intro (nodup.sublist (keys_stripFields_sublist _))

theorem get_stripNulls {j : Json} (h : j.IsObject) (k : String) :
    j.stripNulls.get k = (j.get k).stripNulls := by
  cases h with
  | @intro fs nodup =>
    have found := lookup_stripFields nodup k
    have stripped : (Json.obj fs).stripNulls.get k = (held? ((Json.obj fs).get k)).getD .null :=
      congrArg (fun o => o.getD .null) found
    rw [stripped]
    by_cases hv : (Json.obj fs).get k = .null
    · rw [hv]
      rfl
    · rw [held?_of_ne hv, Option.getD_some]

/-- The first document with the patch to the second run on it. -/
def merge (old new : Json) : Json := graft old new.stripNulls

def mergeItems (xs ys : List Json) : List Json := graftItems xs (stripItems ys)

theorem apply_between {old : Json} (distinct : old.Distinct) (new : Json) :
    Patch.apply (Patch.between old new) old = some (merge old new) :=
  Patch.apply_difference distinct new.stripNulls

theorem lookup_graftMembers {fs : Fields} (nodup : (Fields.keys fs).Nodup) (gs : Fields)
    (k : String) :
    ((Json.obj fs).get k = .null → (graftMembers gs fs).lookup k = fs.lookup k) ∧
    ((Json.obj fs).get k ≠ .null →
      (graftMembers gs fs).lookup k = (gs.lookup k).map (graft ((Json.obj fs).get k))) := by
  induction fs with
  | nil => exact ⟨fun _ => rfl, fun h => absurd rfl h⟩
  | cons f fs ih =>
    obtain ⟨l, v⟩ := f
    simp only [Fields.keys_cons, List.nodup_cons] at nodup
    have absent : fs.lookup l = none := Fields.lookup_eq_none_iff.mpr nodup.1
    have rest := ih nodup.2
    simp only [get, get?] at rest ⊢
    by_cases hk : k = l
    · subst hk
      by_cases hv : v = .null
      · subst hv
        simp [graftMembers]
      · rw [graftMembers_cons_of_ne hv]
        cases gs.lookup k with
        | some w => simp [hv]
        | none => simp [hv, rest.1 (by simp [absent]), absent]
    · by_cases hv : v = .null
      · subst hv
        simpa [graftMembers, hk] using rest
      · rw [graftMembers_cons_of_ne hv]
        cases gs.lookup l <;> simpa [hk] using rest

theorem lookup_merge {fs gs : Fields} (hf : (Fields.keys fs).Nodup) (hg : (Fields.keys gs).Nodup)
    (k : String) : (merge (.obj fs) (.obj gs)).get? k =
      (if (held? ((Json.obj fs).get k)).isNone then held? ((Json.obj gs).get k) else none).or
        ((graftMembers (stripFields gs) fs).lookup k) := by
  have keys : (Fields.keys (additions fs (stripFields gs))).Nodup :=
    (hg.sublist (keys_stripFields_sublist gs)).sublist (List.filter_sublist.map _)
  show List.lookup k (List.foldl _ _ _) = _
  rw [Fields.lookup_foldl_put keys, additions,
    Fields.lookup_filter_keys (fun k => ((stripFields fs).lookup k).isNone),
    lookup_stripFields hf, lookup_stripFields hg]

theorem get?_of_get_ne_null {j : Json} {k : String} (h : j.get k ≠ .null) :
    j.get? k = some (j.get k) := by
  unfold get at h ⊢
  cases found : j.get? k with
  | none => exact absurd (by rw [found]; rfl) h
  | some w => rfl

theorem merge_null_left (v : Json) : merge .null v = v.stripNulls := by
  have plain : graft .null v.stripNulls =
      if Json.null.stripNulls = v.stripNulls then .null else v.stripNulls := by
    cases v.stripNulls <;> rfl
  unfold merge
  rw [plain]
  split
  · rename_i h
    exact h
  · rfl

theorem merge_null_right (v : Json) : merge v .null = .null := by
  have plain : graft v .null = if v.stripNulls = .null then v else .null := by
    cases v <;> rfl
  show graft v .null = .null
  rw [plain]
  split
  · rename_i h
    exact stripNulls_eq_null.mp h
  · rfl

/-- Where the second document has something, that is what the first is turned into. -/
theorem get?_merge_of_ne_null {a b : Json} (ha : a.IsObject) (hb : b.IsObject) {k : String}
    (h : b.get k ≠ .null) : (merge a b).get? k = some (merge (a.get k) (b.get k)) := by
  cases ha with
  | @intro fs hf =>
    cases hb with
    | @intro gs hg =>
      have other : (stripFields gs).lookup k = some ((Json.obj gs).get k).stripNulls := by
        rw [lookup_stripFields hg, held?_of_ne h]
      rw [lookup_merge hf hg, held?_of_ne h]
      by_cases hv : (Json.obj fs).get k = .null
      · simp [hv, held?, merge_null_left]
      · rw [held?_of_ne hv, (lookup_graftMembers hf _ k).2 hv, other]
        rfl

/-- Where the second document has nothing, the first keeps at most a null. -/
theorem get?_merge_of_null {a b : Json} (ha : a.IsObject) (hb : b.IsObject) {k : String}
    (h : b.get k = .null) :
    (merge a b).get? k = if a.get k = .null then a.get? k else none := by
  cases ha with
  | @intro fs hf =>
    cases hb with
    | @intro gs hg =>
      have other : (stripFields gs).lookup k = none := by
        rw [lookup_stripFields hg, h]
        rfl
      rw [lookup_merge hf hg, h]
      by_cases hv : (Json.obj fs).get k = .null
      · rw [if_pos hv, hv, (lookup_graftMembers hf _ k).1 hv]
        rfl
      · rw [if_neg hv, held?_of_ne hv, (lookup_graftMembers hf _ k).2 hv, other]
        rfl

theorem get_merge {a b : Json} (ha : a.IsObject) (hb : b.IsObject) (k : String) :
    (merge a b).get k = merge (a.get k) (b.get k) := by
  by_cases h : b.get k = .null
  · rw [h, merge_null_right]
    have found := get?_merge_of_null ha hb h
    split at found
    · rename_i hv
      exact (congrArg (fun o => o.getD .null) found).trans hv
    · exact congrArg (fun o => o.getD .null) found
  · exact congrArg (fun o => o.getD .null) (get?_merge_of_ne_null ha hb h)

theorem keys_graftMembers_sublist (gs fs : Fields) :
    (Fields.keys (graftMembers gs fs)).Sublist (Fields.keys fs) := by
  induction fs with
  | nil => simp [graftMembers]
  | cons f fs ih =>
    obtain ⟨l, v⟩ := f
    by_cases hv : v = .null
    · subst hv
      simpa [graftMembers] using ih.cons_cons l
    · rw [graftMembers_cons_of_ne hv]
      cases gs.lookup l with
      | some w => exact ih.cons_cons l
      | none => exact ih.cons l

theorem IsObject.merge {a b : Json} (ha : a.IsObject) (hb : b.IsObject) :
    (merge a b).IsObject := by
  have puts : ∀ (gs : List (String × Json)) (hs : Fields), (Fields.keys hs).Nodup →
      (Fields.keys (gs.foldl (fun hs g => Fields.put g.1 g.2 hs) hs)).Nodup := by
    intro gs
    induction gs with
    | nil => exact fun hs h => h
    | cons g gs ih => exact fun hs h => ih _ (Fields.nodup_put h)
  cases ha with
  | intro hf =>
    cases hb with
    | intro hg => exact .intro (puts _ _ (hf.sublist (keys_graftMembers_sublist _ _)))

theorem graftMembers_self {fs gs : Fields}
    (members : ∀ f ∈ fs, f.2 ≠ .null → gs.lookup f.1 = some f.2.stripNulls)
    (parts : ∀ f ∈ fs, merge f.2 f.2 = f.2) : graftMembers gs fs = fs := by
  induction fs with
  | nil => rfl
  | cons f fs ih =>
    obtain ⟨l, v⟩ := f
    have rest := ih (fun f h => members f (List.mem_cons_of_mem _ h))
      fun f h => parts f (List.mem_cons_of_mem _ h)
    by_cases hv : v = .null
    · subst hv
      simp [graftMembers, rest]
    · have head : graft v v.stripNulls = v := parts (l, v) List.mem_cons_self
      rw [graftMembers_cons_of_ne hv, members (l, v) List.mem_cons_self hv]
      simp [head, rest]

theorem merge_self {j : Json} (h : j.Distinct) : merge j j = j := by
  induction h with
  | @obj fs nodup members ih =>
    have none : additions fs (stripFields fs) = [] := by
      refine List.filter_eq_nil_iff.mpr fun g hg => ?_
      have found := Fields.lookup_of_mem (nodup.sublist (keys_stripFields_sublist fs)) hg
      simp [found]
    have same : graftMembers (stripFields fs) fs = fs := by
      refine graftMembers_self (fun f hf hv => ?_) ih
      have found : (Json.obj fs).get f.1 = f.2 :=
        congrArg (fun o => o.getD .null) (Fields.lookup_of_mem nodup hf)
      rw [lookup_stripFields nodup, found, held?_of_ne hv]
    simp [merge, stripNulls, graft, none, same]
  | @arr xs items ih =>
    have same : ∀ ys : List Json, (∀ y ∈ ys, merge y y = y) → mergeItems ys ys = ys := by
      intro ys
      induction ys with
      | nil => exact fun _ => rfl
      | cons y ys ih =>
        intro h
        have head : graft y y.stripNulls = y := h y List.mem_cons_self
        have tail : graftItems ys (stripItems ys) = ys :=
          ih fun z hz => h z (List.mem_cons_of_mem _ hz)
        simp [mergeItems, stripItems, graftItems, head, tail]
    exact congrArg Json.arr (same xs ih)
  | null | bool | int | float | str => simp [merge, stripNulls, graft]

theorem get?_merge_of_eq {a b : Json} (distinct : a.Distinct) (ha : a.IsObject) (hb : b.IsObject)
    {k : String} (h : b.get? k = a.get? k) : (merge a b).get? k = a.get? k := by
  have values : b.get k = a.get k := congrArg (fun o => o.getD .null) h
  by_cases hv : a.get k = .null
  · rw [get?_merge_of_null ha hb (values.trans hv), if_pos hv]
  · rw [get?_merge_of_ne_null ha hb (values ▸ hv), values, merge_self (distinct.get k),
      get?_of_get_ne_null hv]

theorem merge_arr (xs ys : List Json) : merge (.arr xs) (.arr ys) = .arr (mergeItems xs ys) := rfl

theorem mergeItems_nil_left (ys : List Json) : mergeItems [] ys = ys.map stripNulls :=
  stripItems_eq_map ys

theorem mergeItems_cons (x y : Json) (xs ys : List Json) :
    mergeItems (x :: xs) (y :: ys) = merge x y :: mergeItems xs ys := rfl

theorem length_mergeItems (xs ys : List Json) : (mergeItems xs ys).length = ys.length := by
  induction xs generalizing ys with
  | nil => rw [mergeItems_nil_left, List.length_map]
  | cons x xs ih =>
    cases ys with
    | nil => rfl
    | cons y ys => exact congrArg (· + 1) (ih ys)

/-- An item is merged with the one at its place; those beyond the first list are as in the
second. -/
theorem getElem?_mergeItems (xs ys : List Json) (i : Nat) : (mergeItems xs ys)[i]? =
    ys[i]?.map fun y => match xs[i]? with
      | some x => merge x y
      | none => y.stripNulls := by
  induction xs generalizing ys i with
  | nil => rw [mergeItems_nil_left, List.getElem?_map]; rfl
  | cons x xs ih =>
    cases ys with
    | nil => rfl
    | cons y ys =>
      cases i with
      | zero => rfl
      | succ i => exact ih ys i

theorem mergeItems_map_append (f : Json → Json) (xs zs : List Json) :
    mergeItems xs (xs.map f ++ zs) = xs.map (fun x => merge x (f x)) ++ zs.map stripNulls := by
  induction xs with
  | nil => exact mergeItems_nil_left zs
  | cons x xs ih => simp [mergeItems_cons, ih]

theorem mergeItems_append {xs : List Json} (distinct : ∀ x ∈ xs, x.Distinct) (zs : List Json) :
    mergeItems xs (xs ++ zs) = xs ++ zs.map stripNulls := by
  have same : xs.map (fun x => merge x x) = xs := by
    rw [List.map_congr_left fun x h => merge_self (distinct x h), List.map_id']
  simpa [same] using mergeItems_map_append id xs zs

theorem itemsAt_merge {a b : Json} (ha : a.IsObject) (hb : b.IsObject) {k : String}
    (la : a.Listed k) (lb : b.Listed k) :
    (merge a b).itemsAt k = mergeItems (a.itemsAt k) (b.itemsAt k) := by
  unfold itemsAt
  rw [get_merge ha hb]
  rcases la.1 with h | ⟨xs, h⟩ <;> rcases lb.1 with h' | ⟨ys, h'⟩ <;> rw [h, h']
  · rfl
  · rw [merge_null_left]
    rfl
  · rw [merge_null_right]
    cases xs <;> rfl
  · rfl

end Json

end PodInstrumentation
