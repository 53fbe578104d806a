import PodInstrumentation.Proofs.Json.Merge
/-!
Documents that differ in one member. Two such documents still do so after the same members were set
in both, after they are stripped of nulls, and in what a document becomes by the patches to them. -/
namespace PodInstrumentation

namespace Fields

theorem lookup_put_isSome {k l : String} {v : Json} {fs : Fields} (there : (fs.lookup k).isSome) :
    ((put l v fs).lookup k).isSome := by
  by_cases h : k = l
  · rw [h, lookup_put_self]
    rfl
  · rw [lookup_put_of_ne h]
    exact there

theorem put_comm {k l : String} (ne : k ≠ l) (v w : Json) {fs : Fields}
    (there : (fs.lookup k).isSome) : put k v (put l w fs) = put l w (put k v fs) := by
  induction fs with
  | nil => cases there
  | cons f fs ih =>
    obtain ⟨m, u⟩ := f
    by_cases hk : m = k
    · subst hk
      simp [put, ne]
    · have rest := ih (by simpa [Ne.symm hk] using there)
      by_cases hl : m = l
      · subst hl
        simp [put, hk]
      · simp [put, hk, hl, rest]

theorem foldl_put_comm {k : String} (v : Json) {gs hs : Fields} (others : k ∉ keys gs)
    (there : (hs.lookup k).isSome) :
    gs.foldl (fun hs g => put g.1 g.2 hs) (put k v hs) =
      put k v (gs.foldl (fun hs g => put g.1 g.2 hs) hs) := by
  induction gs generalizing hs with
  | nil => rfl
  | cons g gs ih =>
    simp only [keys_cons, List.mem_cons, not_or] at others
    rw [List.foldl_cons, ← put_comm others.1 v g.2 there, ih others.2 (lookup_put_isSome there)]
    rfl

theorem foldl_put_put {k : String} (w : Json) {gs : Fields} (hs : Fields) (nodup : (keys gs).Nodup)
    (there : (gs.lookup k).isSome) :
    (put k w gs).foldl (fun hs g => put g.1 g.2 hs) hs =
      put k w (gs.foldl (fun hs g => put g.1 g.2 hs) hs) := by
  induction gs generalizing hs with
  | nil => cases there
  | cons g gs ih =>
    obtain ⟨l, u⟩ := g
    simp only [keys_cons, List.nodup_cons] at nodup
    by_cases hl : l = k
    · subst hl
      have placed : ((put l u hs).lookup l).isSome := by rw [lookup_put_self]; rfl
      rw [put, if_pos rfl, List.foldl_cons, List.foldl_cons, ← put_put l w u hs,
        foldl_put_comm w nodup.1 placed]
    · rw [put, if_neg hl, List.foldl_cons, List.foldl_cons,
        ih _ nodup.2 (by simpa [Ne.symm hl] using there)]

theorem filter_put {k : String} (w : Json) (p : String → Bool) {gs : Fields}
    (there : (gs.lookup k).isSome) :
    (put k w gs).filter (fun g => p g.1) =
      if p k then put k w (gs.filter fun g => p g.1) else gs.filter fun g => p g.1 := by
  induction gs with
  | nil => cases there
  | cons g gs ih =>
    obtain ⟨l, u⟩ := g
    by_cases hl : l = k
    · subst hl
      cases hp : p l <;> simp [put, hp]
    · rw [put, if_neg hl]
      have rest := ih (by simpa [Ne.symm hl] using there)
      cases hp : p k <;> cases hq : p l <;> simp [put, hl, hp, hq, rest]

end Fields

namespace Json

open Fields (put keys)

variable {k : String}

theorem stripFields_put {v w : Json} {fs : Fields} (found : fs.lookup k = some v)
    (hv : v ≠ .null) (hw : w ≠ .null) :
    stripFields (put k w fs) = put k w.stripNulls (stripFields fs) := by
  induction fs with
  | nil => cases found
  | cons f fs ih =>
    obtain ⟨l, u⟩ := f
    by_cases hl : l = k
    · subst hl
      have same : u = v := by simpa using found
      subst same
      simp [put, stripFields_cons_of_ne hv, stripFields_cons_of_ne hw]
    · have rest := ih (by simpa [Ne.symm hl] using found)
      by_cases hu : u = .null
      · subst hu
        simp [put, hl, stripFields, rest]
      · simp [put, hl, stripFields_cons_of_ne hu, rest]

/-- A member that the old document lacks, or holds null under, does not count. -/
theorem graftMembers_put_of_null (w : Json) (gs : Fields) {fs : Fields} (nodup : (keys fs).Nodup)
    (null : (Json.obj fs).get k = .null) : graftMembers (put k w gs) fs = graftMembers gs fs := by
  induction fs with
  | nil => rfl
  | cons f fs ih =>
    obtain ⟨l, u⟩ := f
    simp only [Fields.keys_cons, List.nodup_cons] at nodup
    by_cases hl : l = k
    · subst hl
      have absent : (Json.obj fs).get l = .null := by
        simp [get, get?, Fields.lookup_eq_none_iff.mpr nodup.1]
      have same : u = .null := by simpa [get, get?] using null
      subst same
      simp [graftMembers, ih nodup.2 absent]
    · have rest := ih nodup.2 (by simpa [get, get?, Ne.symm hl] using null)
      by_cases hu : u = .null
      · subst hu
        simp [graftMembers, rest]
      · rw [graftMembers_cons_of_ne hu, graftMembers_cons_of_ne hu, Fields.lookup_put_of_ne hl,
          rest]

theorem graftMembers_put {u w : Json} {gs fs : Fields} (nodup : (keys fs).Nodup)
    (old : (Json.obj fs).get k = u) (hu : u ≠ .null) (there : (gs.lookup k).isSome) :
    graftMembers (put k w gs) fs = put k (graft u w) (graftMembers gs fs) := by
  induction fs with
  | nil => exact absurd old.symm hu
  | cons f fs ih =>
    obtain ⟨l, x⟩ := f
    simp only [Fields.keys_cons, List.nodup_cons] at nodup
    by_cases hl : l = k
    · subst hl
      have same : x = u := by simpa [get, get?] using old
      subst same
      have absent : (Json.obj fs).get l = .null := by
        simp [get, get?, Fields.lookup_eq_none_iff.mpr nodup.1]
      obtain ⟨y, found⟩ := Option.isSome_iff_exists.mp there
      rw [graftMembers_cons_of_ne hu, graftMembers_cons_of_ne hu, Fields.lookup_put_self, found,
        graftMembers_put_of_null w gs nodup.2 absent]
      simp [put]
    · have rest := ih nodup.2 (by simpa [get, get?, Ne.symm hl] using old)
      by_cases hx : x = .null
      · subst hx
        simp [graftMembers, put, hl, rest]
      · rw [graftMembers_cons_of_ne hx, graftMembers_cons_of_ne hx, Fields.lookup_put_of_ne hl,
          rest]
        cases gs.lookup l <;> simp [put, hl]

theorem lookup_graftMembers_isSome {gs fs : Fields} (nodup : (keys fs).Nodup)
    (old : (Json.obj fs).get k ≠ .null) (there : (gs.lookup k).isSome) :
    ((graftMembers gs fs).lookup k).isSome := by
  rw [(lookup_graftMembers nodup gs k).2 old, Option.isSome_map]
  exact there

theorem lookup_additions {fs : Fields} (nodup : (keys fs).Nodup) (gs : Fields) :
    (additions fs gs).lookup k = if (Json.obj fs).get k = .null then gs.lookup k else none := by
  rw [additions, Fields.lookup_filter_keys (fun l => ((stripFields fs).lookup l).isNone),
    lookup_stripFields nodup]
  by_cases null : (Json.obj fs).get k = .null
  · rw [if_pos null, null]
    rfl
  · rw [if_neg null, held?_of_ne null]
    rfl

theorem additions_put {w : Json} {gs fs : Fields} (nodup : (keys fs).Nodup)
    (there : (gs.lookup k).isSome) :
    additions fs (put k w gs) =
      if (Json.obj fs).get k = .null then put k w (additions fs gs) else additions fs gs := by
  unfold additions
  rw [Fields.filter_put w (fun l => ((stripFields fs).lookup l).isNone) there,
    lookup_stripFields nodup]
  by_cases null : (Json.obj fs).get k = .null
  · rw [if_pos null, null]
    rfl
  · rw [if_neg null, held?_of_ne null]
    rfl

/-- Another value under one key of the new document is another value under that key of the
result. -/
theorem merge_set {old new w : Json} (ho : old.IsObject) (hn : new.IsObject)
    (there : new.get k ≠ .null) (hw : w ≠ .null) :
    merge old (new.set k w) = (merge old new).set k (merge (old.get k) w) := by
  cases ho with
  | @intro fs hf =>
    cases hn with
    | @intro gs hg =>
      have found : gs.lookup k = some ((Json.obj gs).get k) := get?_of_get_ne_null there
      have kept : ((stripFields gs).lookup k).isSome := by
        rw [lookup_stripFields hg, held?_of_ne there]
        rfl
      have nodup : (keys (additions fs (stripFields gs))).Nodup :=
        (hg.sublist (keys_stripFields_sublist gs)).sublist (List.filter_sublist.map _)
      have added := lookup_additions (k := k) hf (stripFields gs)
      show Json.obj (List.foldl _ (graftMembers (stripFields (put k w gs)) fs)
          (additions fs (stripFields (put k w gs)))) =
        Json.obj (put k _ (List.foldl _ (graftMembers (stripFields gs) fs)
          (additions fs (stripFields gs))))
      rw [stripFields_put found there hw, additions_put hf kept]
      by_cases null : (Json.obj fs).get k = .null
      · rw [if_pos null] at added ⊢
        rw [null, merge_null_left, graftMembers_put_of_null _ _ hf null,
          Fields.foldl_put_put _ _ nodup (by rw [added]; exact kept)]
      · rw [if_neg null] at added ⊢
        rw [graftMembers_put hf rfl null kept,
          Fields.foldl_put_comm _ (Fields.lookup_eq_none_iff.mp added)
            (lookup_graftMembers_isSome hf null kept)]
        rfl

theorem stripNulls_set {j w : Json} (there : j.get k ≠ .null) (hw : w ≠ .null) :
    (j.set k w).stripNulls = j.stripNulls.set k w.stripNulls := by
  cases j with
  | obj fs => exact congrArg Json.obj (stripFields_put (get?_of_get_ne_null there) there hw)
  | null | bool | int | float | str | arr => rfl

theorem merge_ne_null (old : Json) {new : Json} (h : new ≠ .null) : merge old new ≠ .null := by
  have stripped : new.stripNulls ≠ .null := fun e => h (stripNulls_eq_null.mp e)
  unfold merge graft
  split
  · exact nofun
  · exact nofun
  · split
    · rename_i same
      exact fun e => stripped (by rw [← same, e]; rfl)
    · exact stripped

theorem set_comm {l : String} {j : Json} (ne : k ≠ l) (there : j.get k ≠ .null) (v w : Json) :
    (j.set l w).set k v = (j.set k v).set l w := by
  cases j with
  | obj fs =>
    have found : (fs.lookup k).isSome := by
      rw [show fs.lookup k = some _ from get?_of_get_ne_null there]
      rfl
    exact congrArg Json.obj (Fields.put_comm ne v w found)
  | null | bool | int | float | str | arr => rfl

def SameBut (k : String) (q : Json → Json → Prop) (j j' : Json) : Prop :=
  j.get k ≠ .null ∧ ∃ w, w ≠ .null ∧ q (j.get k) w ∧ j' = j.set k w

namespace SameBut

variable {q q' : Json → Json → Prop} {j j' : Json}

theorem isObject (h : SameBut k q j j') (object : j.IsObject) : j'.IsObject := by
  obtain ⟨_, w, _, _, rfl⟩ := h
  exact object.set k w

theorem of_set (object : j.IsObject) {v w : Json} (hv : v ≠ .null) (hw : w ≠ .null)
    (related : q v w) : SameBut k q (j.set k v) (j.set k w) := by
  refine ⟨?_, w, hw, ?_, (set_set k w v j).symm⟩ <;> rw [get_set_self object]
  · exact hv
  · exact related

theorem get?_of_ne (h : SameBut k q j j') {l : String} (ne : l ≠ k) : j'.get? l = j.get? l := by
  obtain ⟨_, w, _, _, rfl⟩ := h
  exact get?_set_of_ne ne j w

theorem get_of_ne (h : SameBut k q j j') {l : String} (ne : l ≠ k) : j'.get l = j.get l :=
  congrArg (fun o => o.getD .null) (h.get?_of_ne ne)

theorem set_of_ne (h : SameBut k q j j') {l : String} (ne : l ≠ k) (v : Json) :
    SameBut k q (j.set l v) (j'.set l v) := by
  obtain ⟨there, w, hw, related, rfl⟩ := h
  rw [← set_comm ne.symm there]
  have same := get_set_of_ne ne.symm j v
  exact ⟨same ▸ there, w, hw, same ▸ related, rfl⟩

theorem set_self (object : j.IsObject) (h : SameBut k q j j') {v w : Json} (hv : v ≠ .null)
    (hw : w ≠ .null) (related : q' v w) : SameBut k q' (j.set k v) (j'.set k w) := by
  obtain ⟨_, u, _, _, rfl⟩ := h
  refine ⟨?_, w, hw, ?_, by rw [set_set, set_set]⟩ <;> rw [get_set_self object]
  · exact hv
  · exact related

theorem stripNulls (object : j.IsObject) (h : SameBut k q j j')
    (inner : ∀ v w, q v w → q' v.stripNulls w.stripNulls) :
    SameBut k q' j.stripNulls j'.stripNulls := by
  obtain ⟨there, w, hw, related, rfl⟩ := h
  have held : ∀ {v : Json}, v ≠ .null → v.stripNulls ≠ .null :=
    fun hv e => hv (stripNulls_eq_null.mp e)
  have stripped := get_stripNulls object k
  exact ⟨stripped ▸ held there, _, held hw, stripped ▸ inner _ _ related, stripNulls_set there hw⟩

/-- What one document becomes by the patches to both. -/
theorem merge {old : Json} (ho : old.IsObject) (object : j.IsObject) (h : SameBut k q j j')
    (inner : ∀ v w, q v w → q' (Json.merge (old.get k) v) (Json.merge (old.get k) w)) :
    SameBut k q' (Json.merge old j) (Json.merge old j') := by
  obtain ⟨there, w, hw, related, rfl⟩ := h
  have merged := get_merge ho object k
  exact ⟨merged ▸ merge_ne_null _ there, _, merge_ne_null _ hw, merged ▸ inner _ _ related,
    merge_set ho object there hw⟩

end SameBut

end Json

end PodInstrumentation
