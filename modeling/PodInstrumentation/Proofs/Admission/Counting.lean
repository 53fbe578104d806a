import PodInstrumentation.Proofs.Admission.Recording
/-!
The number of containers that the installer is given. The first injection writes it, and nothing
that happens to the pod later changes it, whatever containers come in. -/
namespace PodInstrumentation.Admission

open Pod

def count? (pod : Json) : Option Json := (installer? pod).bind fun x =>
  ((x.itemsAt "env").find? (Named Names.countVar)).map (·.get "value")

def Counted (n : Nat) (pod : Json) : Prop := ∃ x rest, installer? pod = some x ∧
  x.itemsAt "env" = envVar Names.countVar (.str (toString n)) :: rest

theorem Counted.count? {n : Nat} {pod : Json} (h : Counted n pod) :
    count? pod = some (.str (toString n)) := by
  obtain ⟨x, rest, found, env⟩ := h
  rw [Admission.count?, found, Option.bind_some, env,
    List.find?_cons_of_pos (by rw [named_envVar, decide_eq_true rfl])]
  rfl

theorem toString_injective {m n : Nat} (h : toString m = toString n) : m = n := by
  have read := congrArg Pointer.index? h
  rw [show toString m = Patch.indexKey m from rfl, show toString n = Patch.indexKey n from rfl,
    Pointer.index?_indexKey, Pointer.index?_indexKey] at read
  exact Option.some.inj read

section Fresh

variable {cs : List Capability} {start pod : Json} {patch : Patch}

theorem counted_of_fresh (admitted : Admitted cs start patch pod) (changed : patch ≠ [])
    (wf : WellFormed start) (new : isInjected start = .ok false) (alone : installer? start = none) :
    Counted (containerList start).length pod := by
  obtain ⟨x, found, installed⟩ := installed_of_fresh admitted changed new alone
  obtain ⟨v, count, rest, read, counted, env⟩ := installed.counted
  exact ⟨x, rest, found, containerCount_of_wellFormed wf read counted ▸ env⟩

end Fresh

/-- An admission of the pod, or containers put anywhere between those that are there. -/
inductive Later (pod : Json) : Json → Prop
  | admission {cs : List Capability} {patch : Patch} {pod' : Json}
      (h : Admitted cs pod patch pod') : Later pod pod'
  | insertion {ys : List Json} (h : (containerList pod).Sublist ys) :
      Later pod (withContainers ys pod)

theorem counted_later {n : Nat} {pod pod' : Json} (counted : Counted n pod)
    (later : Later pod pod') : Counted n pod' := by
  obtain ⟨x, rest, found, env⟩ := counted
  cases later with
  | admission admitted =>
    -- Whatever the installer is told, it is told behind the number.
    obtain ⟨x', found', told⟩ := installer_admitted admitted found
    obtain ⟨more, longer⟩ := told.entries "env" List.mem_cons_self
    exact ⟨x', rest ++ more, found', by rw [← longer, env]; rfl⟩
  | insertion =>
    exact ⟨x, rest, (installer_withContainers found _).1, env⟩

theorem counted_history {n : Nat} {pod pod' : Json} (counted : Counted n pod)
    (history : Relation.ReflTransGen Later pod pod') : Counted n pod' := by
  induction history with
  | refl => exact counted
  | tail _ later ih => exact counted_later ih later

section History

variable {cs : List Capability} {start first pod : Json} {patch : Patch}

theorem length_of_fresh (nodup : cs.Nodup) (admitted : Admitted cs start patch first)
    (wf : WellFormed start) (changed : patch ≠ []) :
    (containerList first).length = (containerList start).length := by
  obtain @⟨_, _, _, _, h, _, _, report, rfl, read, ran, rfl, applied⟩ := admitted
  have distinct := Json.distinct_ofBytes read
  obtain ⟨_, _, _, _, _, _, _, change, sent⟩ := Handler.handle_change wf read ran changed
  rw [sent, Json.apply_between distinct] at applied
  cases applied
  obtain ⟨_, _, _, _, rewritten, _⟩ := change.rewritten nodup wf
  rw [(rewritten.merge distinct wf).containers, List.length_map]

/-- Whatever happens to a well-formed pod after its first injection, the installer is given the
number of containers that the pod had then. Right after the injection this is the number that the
pod has, and at any time later it is if no containers came in, but not otherwise. -/
theorem count_of_history (nodup : cs.Nodup) (wf : WellFormed start)
    (new : isInjected start = .ok false) (alone : installer? start = none)
    (admitted : Admitted cs start patch first) (changed : patch ≠ [])
    (history : Relation.ReflTransGen Later first pod) :
    (containerList first).length = (containerList start).length ∧
      count? pod = some (.str (toString (containerList first).length)) ∧
      (count? pod = some (.str (toString (containerList pod).length)) ↔
        (containerList pod).length = (containerList first).length) := by
  have length := length_of_fresh nodup admitted wf changed
  have count := (counted_history (counted_of_fresh admitted changed wf new alone) history).count?
  rw [← length] at count
  refine ⟨length, count, ?_⟩
  rw [count]
  constructor
  · intro same
    exact toString_injective (Json.str.inj (Option.some.inj same)).symm
  · intro same
    rw [same]

end History

theorem count_of_history_web : ∃ patch first,
    Admitted someHandler.capabilities web patch first ∧ patch ≠ [] ∧
    Relation.ReflTransGen Later first (withContainers (containerList first ++ [late]) first) ∧
    (containerList first).length = 1 ∧
    count? (withContainers (containerList first ++ [late]) first) = some (.str "1") := by
  obtain ⟨patch, first, admitted, changed⟩ := admitted_web
  have history : Relation.ReflTransGen Later first
      (withContainers (containerList first ++ [late]) first) :=
    .single (.insertion (List.sublist_append_left _ _))
  obtain ⟨length, count, _⟩ := count_of_history (by decide) wellFormed_web rfl rfl admitted changed
    history
  rw [length] at count
  exact ⟨patch, first, admitted, changed, history, length, count⟩

/-- The repair of a container that came in leaves the number as it was. -/
theorem late_uncounted : ∃ pod s' n pod',
    (someHandler.injectedPod "shop" prod web).play Store.answer shop = (.ok pod, s') ∧
      repair someHandler.injector prod someHandler.capabilities (insertContainer 1 late pod) =
        (.ok n, pod') ∧ n ≠ 0 ∧
      count? pod' ≠ some (.str (toString (containerList pod').length)) := by
  obtain ⟨pod, s', n, pod', ran, repaired, checked⟩ := repaired_late 1 (fun n pod' => n != 0 &&
    decide (count? pod' ≠ some (.str (toString (containerList pod').length)))) (by decide +kernel)
  rw [Bool.and_eq_true, bne_iff_ne, decide_eq_true_iff] at checked
  exact ⟨pod, s', n, pod', ran, repaired, checked.1, checked.2⟩

end PodInstrumentation.Admission
