import PodInstrumentation.Proofs.Capability.Telling
import PodInstrumentation.Proofs.Json.Grown
/-!
The number that a repair comes to. It is that of the containers that the repair changes, and the
patch to the repaired pod changes as many. -/
namespace PodInstrumentation

open Edit (apply_bind_eq_ok apply_look_eq_ok)
open Json (Grows Grown)
open Pod

namespace Pod

def altered (pod pod' : Json) : Nat :=
  ((containerList pod).zip (containerList pod')).countP fun s => s.2 ≠ s.1

end Pod

section Repair

variable {j : Injector} {config : MonitoringConfig} {pod pod' : Json}

theorem repairSite_counted {place? : Shaped (Option (Nat × Json))} {ks : List Capability}
    {n : Nat} {c x c' x' : Json} {changed : Bool}
    (h : (repairSite j config pod place? n ks).apply ⟨c, x⟩ = (.ok changed, ⟨c', x'⟩)) :
    if changed then Longer c c' else c' = c := by
  -- A container counts once, by the first capability that it lacks.
  induction ks generalizing c x changed with
  | nil =>
    cases h
    rfl
  | cons k ks ih =>
    unfold repairSite at h
    obtain ⟨lacking, s₁, looked, ran₁⟩ := apply_bind_eq_ok h
    rw [(apply_look_eq_ok looked).2] at ran₁
    cases lacking with
    | false => exact ih ran₁
    | true =>
      obtain ⟨place, s₂, found, ran₂⟩ := apply_bind_eq_ok ran₁
      rw [(apply_look_eq_ok found).2] at ran₂
      obtain ⟨_, ⟨c₁, x₁⟩, reinvoked, ran₃⟩ := apply_bind_eq_ok ran₂
      obtain ⟨_, ⟨c₂, x₂⟩, rest, done⟩ := apply_bind_eq_ok ran₃
      cases done
      obtain ⟨more, -⟩ := reinvoke_told reinvoked
      rcases repairSite_told rest with ⟨rfl, -⟩ | ⟨more', -⟩
      · exact more
      · exact more.trans more'

theorem sweep_counted {q : Json × Json → Bool} {P : Json × Json → Prop}
    {step : Nat → Edit Site Bool}
    (h : ∀ {i : Nat} {c x c' x' : Json} {a : Bool}, (step i).apply ⟨c, x⟩ = (.ok a, ⟨c', x'⟩) →
      q (c, c') = a ∧ (a = true → P (c, c')))
    {i n : Nat} {cs cs' : List Json} {x x' : Json} (swept : sweep step i cs x = (.ok n, cs', x')) :
    (cs.zip cs').countP q = n ∧ ∀ s ∈ cs.zip cs', q s = true → P s := by
  induction cs generalizing i n cs' x with
  | nil =>
    cases swept
    exact ⟨rfl, nofun⟩
  | cons c cs ih =>
    obtain ⟨a, c₁, x₁, m, ds, ran, rest, rfl⟩ := sweep_cons_eq_ok swept
    have count : (m + if a then 1 else 0) = n := by
      simp only [sweep, ran, rest] at swept
      exact Except.ok.inj (Prod.mk.inj swept).1
    obtain ⟨first, changed⟩ := h ran
    obtain ⟨counted, others⟩ := ih rest
    rw [List.zip_cons_cons, List.countP_cons, counted, first, List.forall_mem_cons]
    exact ⟨count, fun is => changed (first.symm.trans is), others⟩

theorem sweep_repair_counted {place? : Shaped (Option (Nat × Json))} {wanted : List Capability}
    {n : Nat} {ys ys' : List Json} {x x' : Json}
    (swept : sweep (fun i => repairSite j config pod place? (i + 1) wanted) 0 ys x =
      (.ok n, ys', x')) :
    (ys.zip ys').countP (fun s => s.2 ≠ s.1) = n ∧
      ∀ s ∈ ys.zip ys', s.2 ≠ s.1 → Longer s.1 s.2 := by
  have step : ∀ {i : Nat} {c x c' x' : Json} {a : Bool},
      (repairSite j config pod place? (i + 1) wanted).apply ⟨c, x⟩ = (.ok a, ⟨c', x'⟩) →
      decide (c' ≠ c) = a ∧ (a = true → Longer c c') := by
    intro i c x c' x' a h
    have counted := repairSite_counted (n := i + 1) h
    cases a with
    | false => exact ⟨decide_eq_false (not_not_intro counted), nofun⟩
    | true => exact ⟨decide_eq_true (Longer.ne counted), fun _ => counted⟩
  obtain ⟨count, changed⟩ := sweep_counted (q := fun s => s.2 ≠ s.1)
    (P := fun s => Longer s.1 s.2) step swept
  exact ⟨count, fun s among other => changed s among (decide_eq_true other)⟩

/-- The number of a repair is that of the containers it changes, all of which got something. -/
theorem repair_counted {cs : List Capability} {n : Nat}
    (h : repair j config cs pod = (.ok n, pod')) : altered pod pod' = n ∧
      ∀ s ∈ (containerList pod).zip (containerList pod'), s.2 ≠ s.1 → Longer s.1 s.2 := by
  have put : ∀ {place? : Shaped (Option (Nat × Json))} {wanted : List Capability}
      {ys ys' : List Json} {x x' : Json}, (containers pod >>= Json.each) = .ok ys →
      sweep (fun i => repairSite j config pod place? (i + 1) wanted) 0 ys x = (.ok n, ys', x') →
      altered pod (putContainers ys' pod) = n ∧
        ∀ s ∈ (containerList pod).zip (containerList (putContainers ys' pod)),
          s.2 ≠ s.1 → Longer s.1 s.2 := by
    intro place? wanted ys ys' x x' read swept
    obtain ⟨count, changed⟩ := sweep_repair_counted swept
    unfold altered
    rcases containers_each_eq_ok read ys' with ⟨rfl, written⟩ | ⟨vacant, -, texts⟩
    · rw [written]
      exact ⟨count, changed⟩
    · -- A container that is a text cannot be changed.
      have same : ∀ s ∈ ys.zip ys', ¬ decide (s.2 ≠ s.1) = true := by
        intro s among other
        obtain ⟨text, is⟩ := texts s.1 (List.of_mem_zip among).1
        obtain ⟨fs, object⟩ := (changed s among (of_decide_eq_true other)).object
        cases object.symm.trans is
      rw [vacant, ← count, List.countP_eq_zero.mpr same]
      exact ⟨rfl, nofun⟩
  obtain ⟨wanted, ys, -, read, ⟨i, x, ys', x', -, swept, rfl⟩ | ⟨x, ys', x', -, swept, rfl⟩⟩ :=
    repair_eq_ok h
  · rw [altered, containerList_putInstaller]
    exact put read swept
  · exact put read swept

theorem repair_changed {cs : List Capability} {n : Nat}
    (h : repair j config cs pod = (.ok n, pod')) (some : n ≠ 0) :
    ∃ s ∈ (containerList pod).zip (containerList pod'), s.2 ≠ s.1 := by
  rw [← (repair_counted h).1] at some
  obtain ⟨s, among, other⟩ := List.countP_pos_iff.mp (Nat.pos_of_ne_zero some)
  exact ⟨s, among, of_decide_eq_true other⟩

end Repair

theorem Longer.merge {c c' : Json} (distinct : c.Distinct) (grown : Grows containerRoom c c')
    (h : Longer c c') : Longer c (Json.merge c c') := by
  have mounts : (Json.merge c c').itemsAt "volumeMounts" =
      Json.mergeItems (c.itemsAt "volumeMounts") (c'.itemsAt "volumeMounts") :=
    Grown.itemsAt_merge distinct (.inr grown) rfl
  refine ⟨h.object, ?_⟩
  rw [mounts, Json.length_mergeItems]
  exact h.more

theorem zip_mergeItems {xs ys : List Json} (length : ys.length = xs.length) :
    xs.zip (Json.mergeItems xs ys) = (xs.zip ys).map fun s => (s.1, Json.merge s.1 s.2) := by
  induction xs generalizing ys with
  | nil => rfl
  | cons x xs ih =>
    cases ys with
    | nil => cases length
    | cons y ys =>
      rw [Json.mergeItems_cons, List.zip_cons_cons, List.zip_cons_cons, List.map_cons,
        ih (Nat.succ.inj length)]

theorem containerList_merge {inits : Room} {pod pod' : Json} (distinct : pod.Distinct)
    (grown : Grows (podRoom inits) pod pod') : containerList (Json.merge pod pod') =
      Json.mergeItems (containerList pod) (containerList pod') := by
  have whole : Grown (podRoom inits) pod pod' := .inr grown
  rw [containerList, spec, Grown.get_merge distinct whole]
  exact Grown.itemsAt_merge (distinct.get "spec") (whole.get "spec") rfl

/-- The patch to a repaired pod changes the containers that were counted. -/
theorem altered_repaired {j : Injector} {config : MonitoringConfig} {cs : List Capability}
    {n : Nat} {pod pod' : Json} (distinct : pod.Distinct)
    (h : repair j config cs pod = (.ok n, pod')) :
    (containerList (Json.merge pod pod')).length = (containerList pod).length ∧
      altered pod (Json.merge pod pod') = n := by
  obtain ⟨length, -⟩ := repair_told h
  obtain ⟨count, longer⟩ := repair_counted h
  have grown := repair_grows h
  rw [altered, containerList_merge distinct grown, Json.length_mergeItems, zip_mergeItems length,
    List.countP_map, ← count, altered]
  refine ⟨length, List.countP_congr fun s among => ?_⟩
  have fine : s.1.Distinct :=
    (distinct.get "spec").itemsAt "containers" s.1 (List.of_mem_zip among).1
  have parts : Grows containerRoom s.1 s.2 := by
    obtain ⟨i, inside, rfl⟩ := List.getElem_of_mem among
    rw [List.length_zip, length, Nat.min_self] at inside
    obtain ⟨c', there, part⟩ := listed_grows grown rfl (List.getElem?_eq_getElem inside)
    rw [List.getElem_zip]
    rw [List.getElem?_eq_getElem (length ▸ inside), Option.some.injEq] at there
    exact there ▸ part
  simp only [Function.comp_apply, decide_eq_true_eq, ne_eq]
  refine not_congr ⟨fun same => ?_, fun same => ?_⟩
  · by_contra other
    exact ((longer s among other).merge fine parts).ne same
  · rw [same, Json.merge_self fine]

end PodInstrumentation
