import PodInstrumentation.Json.Patch
import PodInstrumentation.Json.Reader
import PodInstrumentation.Proofs.Json.Object
import PodInstrumentation.Proofs.Outcome
/-!
Documents in which every object has each of its keys once. All that is read is such a document,
and dropping the members that hold null keeps it one. -/
namespace PodInstrumentation.Json

inductive Distinct : Json → Prop where
  | null : Distinct .null
  | bool (b : Bool) : Distinct (.bool b)
  | int (n : Int) : Distinct (.int n)
  | float (x : Double) : Distinct (.float x)
  | str (s : String) : Distinct (.str s)
  | arr {xs : List Json} (items : ∀ x ∈ xs, Distinct x) : Distinct (.arr xs)
  | obj {fs : Fields} (nodup : (Fields.keys fs).Nodup) (members : ∀ f ∈ fs, Distinct f.2) :
      Distinct (.obj fs)

namespace Distinct

theorem get? {j v : Json} (h : j.Distinct) {key : String} (found : j.get? key = some v) :
    v.Distinct := by
  cases h with
  | obj nodup members => exact members _ (Fields.mem_of_lookup found)
  | null | bool | int | float | str | arr => cases found

theorem get {j : Json} (h : j.Distinct) (key : String) : (j.get key).Distinct := by
  unfold Json.get
  cases found : j.get? key with
  | none => exact .null
  | some v => exact h.get? found

theorem itemsAt {j : Json} (h : j.Distinct) (key : String) : ∀ x ∈ j.itemsAt key, x.Distinct := by
  have hv := h.get key
  unfold Json.itemsAt
  generalize j.get key = v at hv
  cases hv with
  | arr items => exact items
  | null | bool | int | float | str | obj => simp [items?]

end Distinct

theorem distinct_ofPairs {ps : List (String × Json)} (h : ∀ p ∈ ps, p.2.Distinct) :
    (Json.obj (Fields.ofPairs ps)).Distinct := by
  have all : ∀ fs : Fields, (Fields.keys fs).Nodup → (∀ f ∈ fs, f.2.Distinct) →
      (Json.obj (ps.foldl (fun fs p => Fields.put p.1 p.2 fs) fs)).Distinct := by
    induction ps with
    | nil => exact fun fs nodup members => .obj nodup members
    | cons p ps ih =>
      intro fs nodup members
      refine ih (fun q hq => h q (List.mem_cons_of_mem _ hq)) _ (Fields.nodup_put nodup) ?_
      intro f hf
      rcases Fields.mem_put hf with rfl | hf
      · exact h p List.mem_cons_self
      · exact members f hf
  exact all [] List.nodup_nil (by simp)

section Read

variable {longest : Option Nat}

theorem distinct_readNumber {negative : Bool} {cs r : List Char} {j : Json}
    (h : readNumber longest negative cs = some (.ok j, r)) : j.Distinct := by
  unfold readNumber at h
  simp only [Option.bind_eq_bind, Option.bind_eq_some_iff] at h
  obtain ⟨p, _, h⟩ := h
  split at h
  · split at h
    · cases h
    · cases h
      exact .int _
  · cases h
    exact .float _

theorem distinct_readScalar {cs r : List Char} {j : Json} (h : readScalar longest cs = .ok (j, r)) :
    j.Distinct := by
  unfold readScalar at h
  dsimp only at h
  split at h
  · rename_i p hp
    cases h
    obtain ⟨w, hw, hr⟩ := List.exists_of_findSome?_eq_some hp
    obtain ⟨_, _, he⟩ := Option.map_eq_some_iff.mp hr
    cases he
    simp only [List.mem_cons, List.not_mem_nil, or_false] at hw
    rcases hw with rfl | rfl | rfl | rfl | rfl | rfl <;> constructor
  · split at h
    · rename_i hn
      cases h
      unfold readSigned at hn
      split at hn
      · exact distinct_readNumber hn
      · exact distinct_readNumber hn
    · cases h
    · cases h

theorem distinct_read (n : Nat) :
    (∀ cs j r, readValue longest n cs = .ok (j, r) → j.Distinct) ∧
    (∀ cs xs r, readItems longest n cs = .ok (xs, r) → ∀ x ∈ xs, x.Distinct) ∧
    (∀ cs ps r, readMembers longest n cs = .ok (ps, r) → ∀ p ∈ ps, p.2.Distinct) := by
  -- The three parts of the reader go down together, so the induction is on their common fuel.
  induction n with
  | zero => exact ⟨nofun, nofun, nofun⟩
  | succ n ih =>
    obtain ⟨values, items, members⟩ := ih
    refine ⟨?_, ?_, ?_⟩
    · intro cs j r h
      unfold readValue at h
      split at h
      · obtain ⟨⟨s, k⟩, _, h⟩ := bind_eq_ok_iff.mp h
        cases h
        exact .str s
      · split at h
        · cases h
          exact .arr (by simp)
        · obtain ⟨⟨xs, k⟩, hx, h⟩ := bind_eq_ok_iff.mp h
          cases h
          exact .arr (items _ _ _ hx)
      · split at h
        · cases h
          exact .obj (by simp) (by simp)
        · obtain ⟨⟨ps, k⟩, hp, h⟩ := bind_eq_ok_iff.mp h
          cases h
          exact distinct_ofPairs (members _ _ _ hp)
      · exact distinct_readScalar h
    · intro cs xs r h
      unfold readItems at h
      obtain ⟨⟨x, r'⟩, hx, h⟩ := bind_eq_ok_iff.mp h
      have head := values _ _ _ hx
      dsimp only at h
      split at h
      · cases h
        simpa using head
      · obtain ⟨⟨ys, k⟩, hy, h⟩ := bind_eq_ok_iff.mp h
        cases h
        exact List.forall_mem_cons.mpr ⟨head, items _ _ _ hy⟩
      · cases h
    · intro cs ps r h
      unfold readMembers at h
      split at h
      · obtain ⟨⟨key, r'⟩, _, h⟩ := bind_eq_ok_iff.mp h
        dsimp only at h
        split at h
        · obtain ⟨⟨v, r''⟩, hv, h⟩ := bind_eq_ok_iff.mp h
          have head := values _ _ _ hv
          dsimp only at h
          split at h
          · cases h
            simpa using head
          · obtain ⟨⟨qs, k⟩, hq, h⟩ := bind_eq_ok_iff.mp h
            cases h
            exact List.forall_mem_cons.mpr ⟨head, members _ _ _ hq⟩
          · cases h
        · cases h
      · cases h

theorem distinct_ofBytesWithin {bs : List UInt8} {j : Json}
    (h : ofBytesWithin longest bs = .ok j) : j.Distinct := by
  unfold ofBytesWithin at h
  split at h
  · rename_i cs _
    unfold ofCharsWithin at h
    cases hr : readAll longest cs with
    | error e =>
      rw [hr] at h
      cases h
    | ok j' =>
      rw [hr] at h
      cases h
      obtain ⟨⟨k, r⟩, hv, h⟩ := bind_eq_ok_iff.mp hr
      have distinct := (distinct_read _).1 _ _ _ hv
      dsimp only at h
      split at h
      · cases h
        exact distinct
      · cases h
  · cases h

end Read

theorem distinct_ofBytes {bs : List UInt8} {j : Json} (h : ofBytes bs = .ok j) : j.Distinct :=
  distinct_ofBytesWithin h

end PodInstrumentation.Json
