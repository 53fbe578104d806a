import PodInstrumentation.Proofs.Json.Alike
/-!
Documents that grow. A room says what may be added to a value and where; a document grows within its
room if nothing else becomes of it. Growth in steps is growth, and so is growth sent as a patch. -/
namespace PodInstrumentation

inductive Room where
  /-- Nothing may change. -/
  | closed
  /-- A text may be set in place of the value. -/
  | text
  /-- Items may be put at the end, and each item has room of its own. -/
  | list (items : Room)
  /-- Each member has its room, and those with any may be begun. -/
  | object (members : String → Room)
  /-- Only some values have the room. -/
  | only (p : Json → Bool) (r : Room)

namespace Room

def members (rooms : List (String × Room)) : Room :=
  object fun k => (rooms.lookup k).getD closed

theorem members_ne_closed (rooms : List (String × Room)) : members rooms ≠ closed := nofun

def start : Room → Json
  | closed => .null
  | text => .str ""
  | list _ => .arr []
  | object _ => .empty
  | only _ r => r.start

/-- The places where a text may be set. -/
def Free : Room → Pointer → Prop
  | closed, _ => False
  | text, p => p = []
  | list items, p => ∃ k q, p = k :: q ∧ items.Free q
  | object members, p => ∃ k q, p = k :: q ∧ (members k).Free q
  | only _ r, p => r.Free p

end Room

namespace Json

def Grows : Room → Json → Json → Prop
  | .closed, v, w => w = v
  | .text, v, w => w = v ∨ ∃ s, w = .str s
  | .list r, v, w => w = v ∨ ∃ xs ys, v = .arr xs ∧ w = .arr ys ∧ xs.length ≤ ys.length ∧
      ∀ (i : Nat) (x y : Json), xs[i]? = some x → ys[i]? = some y → Grows r x y
  | .object r, v, w => w = v ∨ ∃ fs gs, v = .obj fs ∧ w = .obj gs ∧
      ((Fields.keys fs).Nodup → (Fields.keys gs).Nodup) ∧
      ∀ k, ((Json.obj fs).get k = .null ∧ r k ≠ .closed ∧
          Grows (r k) (r k).start ((Json.obj gs).get k)) ∨
        Grows (r k) ((Json.obj fs).get k) ((Json.obj gs).get k)
  | .only p r, v, w => w = v ∨ p v = true ∧ Grows r v w

namespace Grows

theorem refl (r : Room) (v : Json) : Grows r v v := by
  cases r <;> simp [Grows]

theorem eq_null {r : Room} {v : Json} (h : Grows r v .null) : v = .null := by
  induction r with
  | closed => exact Eq.symm h
  | text =>
    rcases h with h | ⟨s, h⟩
    · exact h.symm
    · cases h
  | list r =>
    rcases h with h | ⟨xs, ys, _, h, _⟩
    · exact h.symm
    · cases h
  | object r =>
    rcases h with h | ⟨fs, gs, _, h, _⟩
    · exact h.symm
    · cases h
  | only p r ih =>
    rcases h with h | ⟨_, h⟩
    · exact h.symm
    · exact ih h

theorem trans {r : Room} {u v w : Json} (h : Grows r u v) (h' : Grows r v w) : Grows r u w := by
  induction r generalizing u v w with
  | closed => exact Eq.trans h' h
  | text =>
    rcases h' with rfl | h'
    · exact h
    · exact .inr h'
  | list r ih =>
    rcases h' with rfl | ⟨ys, zs, rfl, rfl, longer', items'⟩
    · exact h
    rcases h with h | ⟨xs, ys', rfl, h, longer, items⟩
    · cases h
      exact .inr ⟨ys, zs, rfl, rfl, longer', items'⟩
    · cases h
      refine .inr ⟨xs, zs, rfl, rfl, Nat.le_trans longer longer', fun i x z hx hz => ?_⟩
      have inside : i < ys.length :=
        Nat.lt_of_lt_of_le (List.getElem?_eq_some_iff.mp hx).1 longer
      have hy : ys[i]? = some ys[i] := List.getElem?_eq_getElem inside
      exact ih (items i x ys[i] hx hy) (items' i ys[i] z hy hz)
  | object r ih =>
    rcases h' with rfl | ⟨gs, hs, rfl, rfl, keys', members'⟩
    · exact h
    rcases h with h | ⟨fs, gs', rfl, h, keys, members⟩
    · cases h
      exact .inr ⟨gs, hs, rfl, rfl, keys', members'⟩
    · cases h
      refine .inr ⟨fs, hs, rfl, rfl, keys' ∘ keys, fun k => ?_⟩
      -- A member that begins in the second step was nothing after the first, so before it as well.
      rcases members' k with ⟨none, room, begun'⟩ | grown'
      · rcases members k with ⟨none', _⟩ | grown
        · exact .inl ⟨none', room, begun'⟩
        · exact .inl ⟨(none ▸ grown).eq_null, room, begun'⟩
      · rcases members k with ⟨none, room, begun⟩ | grown
        · exact .inl ⟨none, room, ih k begun grown'⟩
        · exact .inr (ih k grown grown')
  | only p r ih =>
    rcases h' with rfl | ⟨allowed', h'⟩
    · exact h
    rcases h with rfl | ⟨allowed, h⟩
    · exact .inr ⟨allowed', h'⟩
    · exact .inr ⟨allowed, ih h h'⟩

end Grows

instance (r : Room) : Std.Refl (Grows r) := ⟨Grows.refl r⟩

instance (r : Room) : Trans (Grows r) (Grows r) (Grows r) := ⟨Grows.trans⟩

theorem merge_text (v : Json) (s : String) : merge v (.str s) = .str s := by
  have plain : merge v (.str s) = if v.stripNulls = .str s then v else .str s := by
    cases v <;> rfl
  rw [plain]
  split
  · rename_i same
    cases v <;> simp_all [stripNulls]
  · rfl

theorem Grows.of_null {r : Room} {w : Json} (h : Grows r .null w) :
    w = .null ∨ ∃ s, w = .str s := by
  induction r with
  | closed => exact .inl h
  | text => exact h
  | list r | object r =>
    rcases h with h | ⟨_, _, h, _⟩
    · exact .inl h
    · cases h
  | only p r ih =>
    rcases h with h | ⟨_, h⟩
    · exact .inl h
    · exact ih h

theorem stripNulls_start (r : Room) : r.start.stripNulls = r.start := by
  induction r with
  | closed | text | list | object => rfl
  | only p r ih => exact ih

theorem Grows.stripNulls {r : Room} {w : Json} (h : Grows r r.start w) :
    Grows r r.start w.stripNulls := by
  induction r generalizing w with
  | closed =>
    cases h
    exact .refl _ _
  | text =>
    rcases h with rfl | ⟨s, rfl⟩
    · exact .refl _ _
    · exact .inr ⟨s, rfl⟩
  | list r =>
    rcases h with rfl | ⟨xs, ys, old, rfl, _, _⟩
    · exact .refl _ _
    · cases old
      exact .inr ⟨[], _, rfl, rfl, Nat.zero_le _, nofun⟩
  | object r ih =>
    rcases h with rfl | ⟨fs, gs, old, rfl, keys, members⟩
    · exact .refl _ _
    cases old
    have new : (Json.obj gs).IsObject := .intro (keys List.nodup_nil)
    obtain ⟨hs, stripped⟩ := new.stripNulls.eq_obj
    have part : ∀ k, (Json.obj hs).get k = ((Json.obj gs).get k).stripNulls := fun k =>
      stripped ▸ get_stripNulls new k
    refine .inr ⟨[], hs, rfl, stripped, fun _ => ?_, fun k => ?_⟩
    · cases stripped ▸ new.stripNulls with
      | intro nodup => exact nodup
    · rw [part]
      rcases members k with ⟨none, room, begun⟩ | grown
      · exact .inl ⟨none, room, ih k begun⟩
      · rcases grown.of_null with same | ⟨s, same⟩ <;> rw [same] at grown ⊢ <;> exact .inr grown
  | only p r ih =>
    rcases h with rfl | ⟨allowed, h⟩
    · exact .inl (stripNulls_start r)
    · exact .inr ⟨allowed, ih h⟩

/-- Growth that is sent as a patch. -/
theorem Grows.merge {r : Room} {v w : Json} (distinct : v.Distinct) (h : Grows r v w) :
    Grows r v (Json.merge v w) := by
  have same : ∀ {v : Json} (r : Room), v.Distinct → Grows r v (Json.merge v v) :=
    fun r distinct => by rw [merge_self distinct]; exact .refl r _
  -- A patch leaves nulls out, so a member that begins loses its own; any other grows as it did.
  induction r generalizing v w with
  | closed =>
    cases h
    exact merge_self distinct
  | text =>
    rcases h with rfl | ⟨s, rfl⟩
    · exact same _ distinct
    · exact .inr ⟨s, merge_text v s⟩
  | list r ih =>
    rcases h with rfl | ⟨xs, ys, rfl, rfl, longer, items⟩
    · exact same _ distinct
    cases distinct with
    | arr fine =>
      refine .inr ⟨xs, mergeItems xs ys, rfl, rfl, ?_, fun i x z hx hz => ?_⟩
      · rw [length_mergeItems]
        exact longer
      · rw [getElem?_mergeItems, hx, Option.map_eq_some_iff] at hz
        obtain ⟨y, hy, rfl⟩ := hz
        exact ih (fine x (List.mem_of_getElem? hx)) (items i x y hx hy)
  | object r ih =>
    rcases h with rfl | ⟨fs, gs, rfl, rfl, keys, members⟩
    · exact same _ distinct
    have old : (Json.obj fs).IsObject := by
      cases distinct with
      | obj nodup => exact .intro nodup
    have new : (Json.obj gs).IsObject := by
      cases old with
      | intro nodup => exact .intro (keys nodup)
    obtain ⟨hs, made⟩ := (old.merge new).eq_obj
    have part : ∀ k, (Json.obj hs).get k =
        Json.merge ((Json.obj fs).get k) ((Json.obj gs).get k) := fun k =>
      made ▸ get_merge old new k
    refine .inr ⟨fs, hs, rfl, made, fun _ => ?_, fun k => ?_⟩
    · cases made ▸ old.merge new with
      | intro nodup => exact nodup
    · rw [part]
      rcases members k with ⟨none, room, begun⟩ | grown
      · rw [none, merge_null_left]
        exact .inl ⟨rfl, room, begun.stripNulls⟩
      · exact .inr (ih k (distinct.get k) grown)
  | only p r ih =>
    rcases h with rfl | ⟨allowed, h⟩
    · exact same _ distinct
    · exact .inr ⟨allowed, ih distinct h⟩

end Json

end PodInstrumentation
