import PodInstrumentation.Proofs.Pod.Keeping
/-!
Members of documents that grew. A member may have been begun where there was none; the patch of the
whole document is that of its members, and one without effect has none on any of them. -/
namespace PodInstrumentation

namespace Json

def Grown (r : Room) (v w : Json) : Prop := v = .null ∧ Grows r r.start w ∨ Grows r v w

theorem mergeItems_self {xs : List Json} (distinct : ∀ x ∈ xs, x.Distinct) :
    mergeItems xs xs = xs := by
  simpa using mergeItems_append distinct []

namespace Grown

variable {r : String → Room} {items : Room} {v w : Json}

theorem get (h : Grown (.object r) v w) (key : String) : Grown (r key) (v.get key) (w.get key) := by
  rcases h with ⟨rfl, begun⟩ | grown
  · rcases begun.get key with ⟨_, begun'⟩ | grown'
    · exact .inl ⟨rfl, begun'⟩
    · exact .inr grown'
  · exact grown.get key

theorem get_merge (distinct : v.Distinct) (h : Grown (.object r) v w) (key : String) :
    (merge v w).get key = merge (v.get key) (w.get key) := by
  have none : Json.get .null key = .null := rfl
  rcases h with ⟨rfl, begun⟩ | rfl | ⟨fs, gs, rfl, rfl, keys, members⟩
  · have object : w.IsObject := begun.isObject (.intro List.nodup_nil)
    rw [merge_null_left, get_stripNulls object, none, merge_null_left]
  · rw [merge_self distinct, merge_self (distinct.get key)]
  · have old : (Json.obj fs).IsObject := by
      cases distinct with
      | obj nodup => exact .intro nodup
    have grown : Grows (.object r) (.obj fs) (.obj gs) := .inr ⟨fs, gs, rfl, rfl, keys, members⟩
    exact Json.get_merge old (grown.isObject old) key

theorem items_merge (distinct : v.Distinct) (h : Grown (.list items) v w) :
    (merge v w).items?.getD [] = mergeItems (v.items?.getD []) (w.items?.getD []) := by
  have same : ∀ {v : Json}, v.Distinct →
      (merge v v).items?.getD [] = mergeItems (v.items?.getD []) (v.items?.getD []) := by
    intro v distinct
    rw [merge_self distinct]
    cases distinct with
    | arr fine => exact (mergeItems_self fine).symm
    | null | bool | int | float | str | obj => rfl
  rcases h with ⟨rfl, begun⟩ | rfl | ⟨xs, ys, rfl, rfl, _⟩
  · rw [merge_null_left]
    rcases begun with rfl | ⟨xs, ys, start, rfl, _⟩
    · rfl
    · rfl
  · exact same distinct
  · rfl

theorem itemsAt_merge (distinct : v.Distinct) (h : Grown (.object r) v w) {key : String}
    (room : r key = .list items) :
    (merge v w).itemsAt key = mergeItems (v.itemsAt key) (w.itemsAt key) := by
  unfold itemsAt
  rw [h.get_merge distinct]
  exact items_merge (distinct.get key) (room ▸ h.get key)

theorem get_idle (distinct : v.Distinct) (h : Grown (.object r) v w) (idle : merge v w = v)
    (key : String) : merge (v.get key) (w.get key) = v.get key := by
  rw [← h.get_merge distinct, idle]

end Grown

/-- An empty patch leaves the document as it is. -/
theorem merge_of_between_nil {v w : Json} (distinct : v.Distinct)
    (none : Patch.between v w = []) : merge v w = v := by
  have applied := apply_between distinct w
  rw [none] at applied
  exact (Option.some.inj applied).symm

end Json

end PodInstrumentation
