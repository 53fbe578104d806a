import PodInstrumentation.Json.Basic
/-!
Objects by what is found under their keys. A value of a program has each key once; setting a key
shows under that key alone. -/
namespace PodInstrumentation

namespace Fields

def keys (fs : Fields) : List String := fs.map Prod.fst

@[simp] theorem keys_nil : keys [] = [] := rfl

@[simp] theorem keys_cons (f : String × Json) (fs : Fields) : keys (f :: fs) = f.1 :: keys fs := rfl

@[simp] theorem keys_append (fs gs : Fields) : keys (fs ++ gs) = keys fs ++ keys gs :=
  List.map_append

theorem mem_keys_of_mem {k : String} {v : Json} {fs : Fields} (h : (k, v) ∈ fs) : k ∈ keys fs :=
  List.mem_map_of_mem (f := Prod.fst) h

@[simp] theorem lookup_cons_of_ne {k l : String} (h : k ≠ l) (v : Json) (fs : Fields) :
    List.lookup k ((l, v) :: fs) = fs.lookup k := by
  have hb : (k == l) = false := beq_eq_false_iff_ne.mpr h
  simp only [List.lookup_cons, hb]

theorem lookup_eq_none_iff {k : String} {fs : Fields} : fs.lookup k = none ↔ k ∉ keys fs := by
  induction fs with
  | nil => simp
  | cons f fs ih =>
    obtain ⟨l, v⟩ := f
    by_cases h : k = l
    · simp [h]
    · simp [h, ih]

theorem mem_of_lookup {k : String} {v : Json} {fs : Fields} (h : fs.lookup k = some v) :
    (k, v) ∈ fs := by
  induction fs with
  | nil => simp at h
  | cons f fs ih =>
    obtain ⟨l, w⟩ := f
    by_cases hk : k = l
    · subst hk
      have hv : w = v := by simpa using h
      simp [hv]
    · exact List.mem_cons_of_mem _ (ih (by simpa [hk] using h))

theorem lookup_of_mem {k : String} {v : Json} {fs : Fields} (nodup : (keys fs).Nodup)
    (h : (k, v) ∈ fs) : fs.lookup k = some v := by
  induction fs with
  | nil => simp at h
  | cons f fs ih =>
    obtain ⟨l, w⟩ := f
    simp only [keys_cons, List.nodup_cons] at nodup
    rcases List.mem_cons.mp h with he | he
    · cases he
      simp
    · have hk : k ≠ l := fun e => nodup.1 (e ▸ mem_keys_of_mem he)
      simpa [hk] using ih nodup.2 he

theorem keys_put (k : String) (v : Json) (fs : Fields) :
    keys (put k v fs) = if k ∈ keys fs then keys fs else keys fs ++ [k] := by
  induction fs with
  | nil => simp [put]
  | cons f fs ih =>
    obtain ⟨l, w⟩ := f
    by_cases h : l = k
    · simp [put, h]
    · have h' : ¬ k = l := fun e => h e.symm
      by_cases hk : k ∈ keys fs <;> simp [put, h, h', ih, hk]

theorem nodup_put {k : String} {v : Json} {fs : Fields} (h : (keys fs).Nodup) :
    (keys (put k v fs)).Nodup := by
  rw [keys_put]
  split
  · exact h
  · rename_i hk
    exact List.nodup_append.mpr ⟨h, by simp, fun a ha b hb e => hk (by simp_all)⟩

theorem mem_put {k : String} {v : Json} {fs : Fields} {f : String × Json} (h : f ∈ put k v fs) :
    f = (k, v) ∨ f ∈ fs := by
  induction fs with
  | nil => exact .inl (by simpa [put] using h)
  | cons g fs ih =>
    obtain ⟨l, w⟩ := g
    by_cases hl : l = k
    · simp only [put, if_pos hl, List.mem_cons] at h
      rcases h with h | h
      · exact .inl (hl ▸ h)
      · exact .inr (List.mem_cons_of_mem _ h)
    · simp only [put, if_neg hl, List.mem_cons] at h
      rcases h with h | h
      · exact .inr (h ▸ List.mem_cons_self)
      · exact (ih h).imp id (List.mem_cons_of_mem _)

@[simp] theorem put_put (k : String) (v w : Json) (fs : Fields) :
    put k v (put k w fs) = put k v fs := by
  induction fs with
  | nil => simp [put]
  | cons f fs ih =>
    obtain ⟨l, x⟩ := f
    by_cases h : l = k <;> simp [put, h, ih]

theorem put_of_lookup {k : String} {v : Json} {fs : Fields} (h : fs.lookup k = some v) :
    put k v fs = fs := by
  induction fs with
  | nil => simp at h
  | cons f fs ih =>
    obtain ⟨l, w⟩ := f
    by_cases hl : l = k
    · subst hl
      have hw : w = v := by simpa using h
      simp [put, hw]
    · have hk : ¬ k = l := fun e => hl e.symm
      simp [put, hl, ih (by simpa [hk] using h)]

theorem put_append {k : String} {v : Json} {fs : Fields} (h : k ∉ keys fs) (gs : Fields) :
    put k v (fs ++ gs) = fs ++ put k v gs := by
  induction fs with
  | nil => rfl
  | cons f fs ih =>
    obtain ⟨l, w⟩ := f
    simp only [keys_cons, List.mem_cons, not_or] at h
    have hl : ¬ l = k := fun e => h.1 e.symm
    simp [put, hl, ih h.2]

/-- Of members with different keys each is kept, and in its place. -/
theorem ofPairs_of_nodup {fs : Fields} (nodup : (keys fs).Nodup) : ofPairs fs = fs := by
  have onto : ∀ gs : Fields, (keys (gs ++ fs)).Nodup →
      fs.foldl (fun fs p => put p.1 p.2 fs) gs = gs ++ fs := by
    induction fs with
    | nil => simp
    | cons f fs ih =>
      intro gs nodup'
      have new : f.1 ∉ keys gs := by
        intro h
        rw [keys_append, List.nodup_append] at nodup'
        exact nodup'.2.2 _ h _ List.mem_cons_self rfl
      have placed : put f.1 f.2 gs = gs ++ [f] := by
        have := put_append (v := f.2) new []
        rwa [List.append_nil] at this
      rw [List.foldl_cons, placed, ih (List.nodup_cons.mp nodup).2 _ (by simpa using nodup')]
      simp
  exact onto [] nodup

@[simp] theorem erase_append (k : String) (fs gs : Fields) :
    erase k (fs ++ gs) = erase k fs ++ erase k gs := List.filter_append fs gs

@[simp] theorem erase_cons_self (k : String) (v : Json) (fs : Fields) :
    erase k ((k, v) :: fs) = erase k fs := by
  simp [erase]

theorem erase_of_notMem {k : String} {fs : Fields} (h : k ∉ keys fs) : erase k fs = fs :=
  List.filter_eq_self.mpr fun f hf => by
    simpa using fun e : f.1 = k => h (e ▸ mem_keys_of_mem hf)

end Fields

namespace Json

inductive IsObject : Json → Prop where
  | intro {fs : Fields} (nodup : (Fields.keys fs).Nodup) : IsObject (.obj fs)

theorem IsObject.eq_obj {j : Json} (h : j.IsObject) : ∃ fs, j = .obj fs := by
  cases h with
  | intro nodup => exact ⟨_, rfl⟩

theorem obj_orElse (fs : Fields) : (obj fs).orElse .empty = .obj fs := by
  cases fs <;> rfl

def set (j : Json) (key : String) (value : Json) : Json :=
  match j with
  | .obj fs => .obj (Fields.put key value fs)
  | j => j

theorem IsObject.set {j : Json} (h : j.IsObject) (key : String) (value : Json) :
    (j.set key value).IsObject := by
  cases h with
  | intro nodup => exact .intro (Fields.nodup_put nodup)

@[simp] theorem get?_set_self {j : Json} (h : j.IsObject) (key : String) (value : Json) :
    (j.set key value).get? key = some value := by
  cases h with
  | intro nodup => exact Fields.lookup_put_self key value _

@[simp] theorem get?_set_of_ne {key other : String} (h : other ≠ key) (j value : Json) :
    (j.set key value).get? other = j.get? other := by
  cases j with
  | obj fs => exact Fields.lookup_put_of_ne h value fs
  | null | bool | int | float | str | arr => rfl

@[simp] theorem get_set_self {j : Json} (h : j.IsObject) (key : String) (value : Json) :
    (j.set key value).get key = value := by
  simp [get, h]

@[simp] theorem get_set_of_ne {key other : String} (h : other ≠ key) (j value : Json) :
    (j.set key value).get other = j.get other := by
  simp [get, h]

@[simp] theorem set_set (key : String) (v w : Json) (j : Json) :
    (j.set key w).set key v = j.set key v := by
  cases j with
  | obj fs => simp [set]
  | null | bool | int | float | str | arr => rfl

@[simp] theorem itemsAt_set_self {j : Json} (h : j.IsObject) (key : String) (xs : List Json) :
    (j.set key (.arr xs)).itemsAt key = xs := by
  simp [itemsAt, h, items?]

@[simp] theorem itemsAt_set_of_ne {key other : String} (h : other ≠ key) (j value : Json) :
    (j.set key value).itemsAt other = j.itemsAt other := by
  simp [itemsAt, h]

/-- What stands under the key is a list of objects, null or nothing. -/
def Listed (key : String) (j : Json) : Prop :=
  (j.get key = .null ∨ ∃ xs, j.get key = .arr xs) ∧ ∀ x ∈ j.itemsAt key, x.IsObject

theorem IsObject.field {j : Json} (h : j.IsObject) (key : String) :
    j.field key = .ok (j.get key) := by
  cases h with
  | intro nodup => rfl

theorem Listed.of_null {key : String} {j : Json} (none : j.get key = .null) : j.Listed key := by
  refine ⟨.inl none, ?_⟩
  simp [itemsAt, none, items?]

theorem Listed.of_arr {key : String} {j : Json} {xs : List Json} (listed : j.get key = .arr xs)
    (objects : ∀ x ∈ xs, x.IsObject) : j.Listed key := by
  refine ⟨.inr ⟨xs, listed⟩, ?_⟩
  simpa [itemsAt, listed, items?] using objects

theorem Listed.each {key : String} {j : Json} (h : j.Listed key) :
    (j.get key).each = .ok (j.itemsAt key) := by
  rcases h.1 with h | ⟨xs, h⟩
  · simp [itemsAt, h, Json.each, isSet, items?]
  · cases xs <;> simp [itemsAt, h, Json.each, isSet, items?]

theorem Listed.set_self {key : String} {j : Json} (h : j.IsObject) {xs : List Json}
    (objects : ∀ x ∈ xs, x.IsObject) : (j.set key (.arr xs)).Listed key := by
  refine ⟨.inr ⟨xs, get_set_self h key _⟩, ?_⟩
  simpa [h] using objects

theorem Listed.set_of_ne {key other : String} (ne : other ≠ key) {j : Json} (h : j.Listed other)
    (value : Json) : (j.set key value).Listed other := by
  simpa [Listed, ne] using h

end Json

end PodInstrumentation
