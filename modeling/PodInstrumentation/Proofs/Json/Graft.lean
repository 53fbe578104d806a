import PodInstrumentation.Proofs.Json.Distinct
/-!
What the patch between two documents makes of the first. The patch is computed with the members
that hold null left out and run on the document that still has them. -/
namespace PodInstrumentation

open Patch

namespace Json

def additions (fs gs : Fields) : Fields :=
  gs.filter fun g => ((stripFields fs).lookup g.1).isNone

mutual
/-- The first document turned into the second, of which no member holds null. -/
def graft : (old new : Json) → Json
  | .obj fs, .obj gs =>
    .obj ((additions fs gs).foldl (fun hs g => Fields.put g.1 g.2 hs) (graftMembers gs fs))
  | .arr xs, .arr ys => .arr (graftItems xs ys)
  | old, new => if old.stripNulls = new then old else new

def graftMembers (new : Fields) : (old : Fields) → Fields
  | [] => []
  | (k, .null) :: fs => (k, .null) :: graftMembers new fs
  | (k, v) :: fs => match new.lookup k with
    | some w => (k, graft v w) :: graftMembers new fs
    | none => graftMembers new fs

def graftItems : (old new : List Json) → List Json
  | [], ys => ys
  | _ :: _, [] => []
  | x :: xs, y :: ys => graft x y :: graftItems xs ys
end

theorem stripItems_eq_map (xs : List Json) : stripItems xs = xs.map stripNulls := by
  induction xs with
  | nil => rfl
  | cons x xs ih => simp [stripItems, ih]

theorem stripFields_cons_of_ne {v : Json} (h : v ≠ .null) (k : String) (fs : Fields) :
    stripFields ((k, v) :: fs) = (k, v.stripNulls) :: stripFields fs := by
  cases v with
  | null => exact absurd rfl h
  | bool | int | float | str | arr | obj => rfl

theorem graftMembers_cons_of_ne {v : Json} (h : v ≠ .null) (k : String) (fs gs : Fields) :
    graftMembers gs ((k, v) :: fs) = match gs.lookup k with
      | some w => (k, graft v w) :: graftMembers gs fs
      | none => graftMembers gs fs := by
  cases v with
  | null => exact absurd rfl h
  | bool | int | float | str | arr | obj => simp only [graftMembers]

end Json

namespace Pointer

theorem head?_toDigits_ne_zero {n : Nat} (positive : 0 < n) :
    (Nat.toDigits 10 n).head? ≠ some '0' := by
  induction n using Nat.strongRecOn with
  | ind n ih =>
    rw [Nat.toDigits_eq_if (by decide)]
    split
    · simpa using Nat.pos_iff_ne_zero.mp positive
    · have h := ih (n / 10) (by omega) (by omega)
      obtain ⟨d, ds, hd⟩ := List.exists_cons_of_ne_nil (Nat.toDigits_ne_nil (n := n / 10) (b := 10))
      simpa [hd] using h

theorem foldl_toDigits (n : Nat) :
    (Nat.toDigits 10 n).foldl (fun n c => 10 * n + (c.toNat - 48)) 0 = n := by
  have value := Nat.ofDigitChars_ten_toDigits (n := n)
  rwa [Nat.ofDigitChars_eq_foldl] at value

theorem index?_indexKey (i : Nat) : index? (indexKey i) = some i := by
  have chars : (indexKey i).toList = Nat.toDigits 10 i := by
    simp [indexKey]
  have digits : (Nat.toDigits 10 i).all Char.isDigit = true :=
    List.all_eq_true.mpr fun c hc => Nat.isDigit_of_mem_toDigits (by decide) (by decide) hc
  have plain : (Nat.toDigits 10 i).length = 1 ∨ (Nat.toDigits 10 i).head? ≠ some '0' := by
    rcases Nat.eq_zero_or_pos i with rfl | h
    · exact .inl rfl
    · exact .inr (head?_toDigits_ne_zero h)
  unfold index?
  simp only [chars, digits, foldl_toDigits]
  simp [plain]

end Pointer

namespace Patch

open Json (graft graftMembers graftItems additions stripFields stripItems)

/-- An operation that stays within the document, or puts another in its place. -/
def Inner (op : Operation) : Prop := op.path ≠ [] ∨ ∃ v, op = .replace [] v

theorem inner_under (key : String) (op : Operation) : Inner (op.under key) := by
  cases op <;> exact .inl (List.cons_ne_nil _ _)

theorem inner_memberDifference (gs fs : Fields) : ∀ op ∈ memberDifference gs fs, Inner op := by
  induction fs with
  | nil => simp [memberDifference]
  | cons f fs ih =>
    intro op h
    simp only [memberDifference, List.mem_append] at h
    rcases h with h | h
    · split at h
      · obtain ⟨op', _, rfl⟩ := List.mem_map.mp h
        exact inner_under _ op'
      · cases List.mem_singleton.mp h
        exact .inl (List.cons_ne_nil _ _)
    · exact ih op h

theorem inner_newMembers (fs gs : Fields) : ∀ op ∈ newMembers fs gs, Inner op := by
  intro op h
  obtain ⟨f, _, hf⟩ := List.mem_filterMap.mp h
  split at hf <;> cases hf
  exact .inl (List.cons_ne_nil _ _)

theorem inner_extend (i : Nat) (ys : List Json) : ∀ op ∈ extend i ys, Inner op := by
  induction ys generalizing i with
  | nil => simp [extend]
  | cons y ys ih => exact List.forall_mem_cons.mpr ⟨.inl (List.cons_ne_nil _ _), ih (i + 1)⟩

theorem inner_itemDifference (i : Nat) (xs ys : List Json) :
    ∀ op ∈ itemDifference i xs ys, Inner op := by
  induction xs generalizing i ys with
  | nil => simpa only [itemDifference] using inner_extend i ys
  | cons x xs ih =>
    intro op h
    cases ys with
    | nil =>
      simp only [itemDifference] at h
      cases (List.mem_replicate.mp h).2
      exact .inl (List.cons_ne_nil _ _)
    | cons y ys =>
      simp only [itemDifference, List.mem_append] at h
      rcases h with h | h
      · obtain ⟨op', _, rfl⟩ := List.mem_map.mp h
        exact inner_under _ op'
      · exact ih (i + 1) ys op h

-- What a part is to become does not matter: its operations are put under a key, and are inner.
theorem inner_difference {old new : Json} : ∀ op ∈ difference old new, Inner op := by
  intro op h
  unfold difference at h
  split at h
  · rcases List.mem_append.mp h with h | h
    · exact inner_memberDifference _ _ op h
    · exact inner_newMembers _ _ op h
  · exact inner_itemDifference _ _ _ op h
  · split at h
    · cases h
    · cases List.mem_singleton.mp h
      exact .inr ⟨_, rfl⟩

theorem applyOne_under_obj {fs : Fields} {k : String} {v : Json} (found : fs.lookup k = some v)
    {op : Operation} (inner : Inner op) :
    applyOne (op.under k) (.obj fs) = (applyOne op v).map fun w => .obj (Fields.put k w fs) := by
  rcases inner with h | ⟨w, rfl⟩
  · cases op with
    | add p w | replace p w | remove p =>
      cases p with
      | nil => exact absurd rfl h
      | cons l p => simp [Operation.under, applyOne, applyOne.descend, found]
  · simp [Operation.under, applyOne, found]

theorem applyOne_under_arr {xs : List Json} {i : Nat} {v : Json} (found : xs[i]? = some v)
    {op : Operation} (inner : Inner op) :
    applyOne (op.under (indexKey i)) (.arr xs) =
      (applyOne op v).map fun w => .arr (xs.set i w) := by
  rcases inner with h | ⟨w, rfl⟩
  · cases op with
    | add p w | replace p w | remove p =>
      cases p with
      | nil => exact absurd rfl h
      | cons l p =>
        simp [Operation.under, applyOne, applyOne.descend, found, Pointer.index?_indexKey]
  · have bound : i < xs.length := (List.getElem?_eq_some_iff.mp found).1
    simp [Operation.under, applyOne, Pointer.index?_indexKey, bound]

theorem apply_append (p q : Patch) (doc : Json) :
    apply (p ++ q) doc = (apply p doc).bind (apply q) := List.foldlM_append

theorem apply_under_obj {fs : Fields} {k : String} {v : Json} (found : fs.lookup k = some v)
    {p : Patch} (inner : ∀ op ∈ p, Inner op) :
    apply (p.map (.under k)) (.obj fs) = (apply p v).map fun w => .obj (Fields.put k w fs) := by
  induction p generalizing fs v with
  | nil => simp [apply, Fields.put_of_lookup found]
  | cons op p ih =>
    have head := applyOne_under_obj found (inner op List.mem_cons_self)
    simp only [apply, List.map_cons, List.foldlM_cons, head]
    cases applyOne op v with
    | none => rfl
    | some w =>
      have rest := ih (Fields.lookup_put_self k w fs)
        fun op h => inner op (List.mem_cons_of_mem _ h)
      simpa [apply] using rest

theorem apply_under_arr {xs : List Json} {i : Nat} {v : Json} (found : xs[i]? = some v)
    {p : Patch} (inner : ∀ op ∈ p, Inner op) :
    apply (p.map (.under (indexKey i))) (.arr xs) = (apply p v).map fun w => .arr (xs.set i w) := by
  have bound : i < xs.length := (List.getElem?_eq_some_iff.mp found).1
  induction p generalizing xs v with
  | nil => simp [apply, ← (List.getElem?_eq_some_iff.mp found).2]
  | cons op p ih =>
    have head := applyOne_under_arr found (inner op List.mem_cons_self)
    simp only [apply, List.map_cons, List.foldlM_cons, head]
    cases applyOne op v with
    | none => rfl
    | some w =>
      have there : (xs.set i w)[i]? = some w := by simp [bound]
      have rest := ih there (fun op h => inner op (List.mem_cons_of_mem _ h)) (by simpa using bound)
      simpa [apply] using rest

theorem apply_extend (ys xs : List Json) :
    apply (extend xs.length ys) (.arr xs) = some (.arr (xs ++ ys)) := by
  induction ys generalizing xs with
  | nil => simp [extend, apply]
  | cons y ys ih =>
    have dash : Pointer.index? "-" = none := by decide
    have plain : indexKey xs.length ≠ "-" := fun h => by
      have index := Pointer.index?_indexKey xs.length
      rw [h, dash] at index
      cases index
    have rest := ih (xs ++ [y])
    simp only [List.length_append, List.length_singleton, List.append_assoc,
      List.singleton_append] at rest
    simpa [extend, apply, applyOne, plain, Pointer.index?_indexKey, List.insertIdx_length_self]
      using rest

theorem apply_removals (xs ys : List Json) :
    apply (List.replicate ys.length (.remove [indexKey xs.length])) (.arr (xs ++ ys)) =
      some (.arr xs) := by
  induction ys with
  | nil => simp [apply]
  | cons y ys ih =>
    have cut : (xs ++ y :: ys).eraseIdx xs.length = xs ++ ys := by
      rw [List.eraseIdx_append_of_length_le (Nat.le_refl _)]
      simp
    have step : applyOne (.remove [indexKey xs.length]) (.arr (xs ++ y :: ys)) =
        some (.arr (xs ++ ys)) := by
      simp [applyOne, Pointer.index?_indexKey, cut]
    simp only [apply, List.length_cons, List.replicate_succ, List.foldlM_cons, step]
    simpa [apply] using ih

theorem apply_newMembers (fs gs hs : Fields) :
    apply (newMembers (stripFields fs) gs) (.obj hs) =
      some (.obj ((additions fs gs).foldl (fun hs g => Fields.put g.1 g.2 hs) hs)) := by
  induction gs generalizing hs with
  | nil => rfl
  | cons g gs ih =>
    by_cases h : (stripFields fs).lookup g.1 = none
    · have rest := ih (Fields.put g.1 g.2 hs)
      simpa [newMembers, additions, h, apply, applyOne] using rest
    · simpa [newMembers, additions, h] using ih hs

def Grafts (v : Json) : Prop :=
  ∀ new, apply (difference v.stripNulls new) v = some (graft v new)

theorem apply_memberDifference (gs done : Fields) {fs : Fields}
    (nodup : (Fields.keys (done ++ fs)).Nodup) (parts : ∀ f ∈ fs, Grafts f.2) :
    apply (memberDifference gs (stripFields fs)) (.obj (done ++ fs)) =
      some (.obj (done ++ graftMembers gs fs)) := by
  -- `done` holds the members before those that are left, as they are by then.
  induction fs generalizing done with
  | nil => simp [stripFields, memberDifference, apply, graftMembers]
  | cons f fs ih =>
    obtain ⟨k, v⟩ := f
    have tail : ∀ f ∈ fs, Grafts f.2 := fun f h => parts f (List.mem_cons_of_mem _ h)
    have next : ∀ w, apply (memberDifference gs (stripFields fs)) (.obj (done ++ (k, w) :: fs)) =
        some (.obj (done ++ (k, w) :: graftMembers gs fs)) := by
      intro w
      have keys : Fields.keys (done ++ [(k, w)] ++ fs) = Fields.keys (done ++ (k, v) :: fs) := by
        simp
      simpa using ih (done ++ [(k, w)]) (keys ▸ nodup) tail
    have split := List.nodup_append.mp (Fields.keys_append _ _ ▸ nodup)
    have fresh : k ∉ Fields.keys done := fun h =>
      split.2.2 k h k List.mem_cons_self rfl
    have later : k ∉ Fields.keys fs := (List.nodup_cons.mp split.2.1).1
    by_cases hv : v = .null
    · subst hv
      simpa [stripFields, graftMembers] using next .null
    · have found : (done ++ (k, v) :: fs).lookup k = some v :=
        Fields.lookup_of_mem nodup (by simp)
      rw [Json.stripFields_cons_of_ne hv, Json.graftMembers_cons_of_ne hv]
      simp only [memberDifference, apply_append]
      cases hw : gs.lookup k with
      | some w =>
        have put : Fields.put k (graft v w) (done ++ (k, v) :: fs) =
            done ++ (k, graft v w) :: fs := by
          simp [Fields.put_append fresh, Fields.put]
        rw [apply_under_obj found inner_difference, parts (k, v) List.mem_cons_self w]
        simpa [put] using next (graft v w)
      | none =>
        have erase : Fields.erase k (done ++ (k, v) :: fs) = done ++ fs := by
          simp [Fields.erase_append, Fields.erase_of_notMem fresh, Fields.erase_cons_self,
            Fields.erase_of_notMem later]
        have keys : (Fields.keys (done ++ fs)).Nodup :=
          nodup.sublist (by simp)
        simpa [apply, applyOne, found, erase] using ih done keys tail

theorem apply_itemDifference (ys done : List Json) {xs : List Json} (parts : ∀ x ∈ xs, Grafts x) :
    apply (itemDifference done.length (stripItems xs) ys) (.arr (done ++ xs)) =
      some (.arr (done ++ graftItems xs ys)) := by
  -- `done` holds the items before those that are left, and its length is the index that is next.
  induction xs generalizing ys done with
  | nil => simpa [stripItems, itemDifference, graftItems] using apply_extend ys done
  | cons x xs ih =>
    cases ys with
    | nil =>
      have lengths : (stripItems (x :: xs)).length = (x :: xs).length := by
        simp [Json.stripItems_eq_map]
      have removals := apply_removals done (x :: xs)
      rw [← lengths] at removals
      simpa [stripItems, itemDifference, graftItems] using removals
    | cons y ys =>
      have found : (done ++ x :: xs)[done.length]? = some x := by simp
      have put : (done ++ x :: xs).set done.length (graft x y) = done ++ graft x y :: xs := by simp
      have head := apply_under_arr found (p := difference x.stripNulls y) inner_difference
      rw [parts x List.mem_cons_self y, Option.map_some, put] at head
      have rest := ih ys (done ++ [graft x y]) fun z h => parts z (List.mem_cons_of_mem _ h)
      simp only [List.length_append, List.length_singleton, List.append_assoc,
        List.singleton_append] at rest
      simp only [stripItems, itemDifference, graftItems, apply_append, head, Option.bind_some, rest]

/-- The patch between two documents makes of the first what `graft` does. -/
theorem apply_difference {old : Json} (distinct : old.Distinct) : Grafts old := by
  have replaced : ∀ {v new : Json}, difference v.stripNulls new =
      (if v.stripNulls = new then [] else [.replace [] new]) →
      graft v new = (if v.stripNulls = new then v else new) →
      apply (difference v.stripNulls new) v = some (graft v new) := by
    intro v new hd hg
    rw [hd, hg]
    split
    · rfl
    · simp [apply, applyOne]
  induction distinct with
  | @obj fs nodup members ih =>
    intro new
    cases new with
    | obj gs =>
      have kept := apply_memberDifference gs [] nodup ih
      simp only [List.nil_append] at kept
      simp only [Json.stripNulls, difference, graft, apply_append, kept, Option.bind_some,
        apply_newMembers]
    | null | bool | int | float | str | arr => exact replaced rfl rfl
  | @arr xs items ih =>
    intro new
    cases new with
    | arr ys =>
      have kept := apply_itemDifference ys [] ih
      simp only [List.length_nil, List.nil_append] at kept
      simpa only [Json.stripNulls, difference, graft] using kept
    | null | bool | int | float | str | obj => exact replaced rfl rfl
  | null | bool | int | float | str =>
    intro new
    exact replaced (by cases new <;> rfl) (by cases new <;> rfl)

end Patch

end PodInstrumentation
