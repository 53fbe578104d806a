import PodInstrumentation.Proofs.Admission.Agreement
import PodInstrumentation.Proofs.Admission.Installing
/-!
What a repair records. The installer is told of a repaired container under the number of its place,
but not if this number is in use: it then belongs to a container of the first injection, which may
stand elsewhere by now. So a container is recorded if it stands after as many others as the pod had
at first, and otherwise not, wherever it came in. -/
namespace PodInstrumentation.Admission

open Pod

/-- The container at a place, if it is another one afterwards. -/
def Modified (ys ys' : List Json) (k : Nat) (c : Json) : Prop :=
  ys[k]? = some c ∧ ∃ c', ys'[k]? = some c' ∧ c' ≠ c

theorem modified_iff {ys ys' : List Json} {k : Nat} {c : Json} :
    Modified ys ys' k c ↔ ∃ c', (ys.zip ys')[k]? = some (c, c') ∧ c' ≠ c := by
  simp only [Modified, List.getElem?_zip_eq_some]
  constructor
  · rintro ⟨there, c', there', other⟩
    exact ⟨c', ⟨there, there'⟩, other⟩
  · rintro ⟨c', ⟨there, there'⟩, other⟩
    exact ⟨there, c', there', other⟩

section Admission

variable {cs : List Capability} {start pod : Json} {patch : Patch}

theorem wellFormed_admitted (nodup : cs.Nodup) (wf : WellFormed start)
    (admitted : Admitted cs start patch pod) : WellFormed pod := by
  obtain @⟨_, _, _, _, h, _, _, report, rfl, read, ran, rfl, applied⟩ := admitted
  by_cases changed : report.verdict.patch = []
  · rw [changed] at applied
    cases applied
    exact wf
  · have distinct := Json.distinct_ofBytes read
    obtain ⟨_, _, _, _, _, _, _, change, sent⟩ := Handler.handle_change wf read ran changed
    rw [sent, Json.apply_between distinct] at applied
    cases applied
    exact (change.complete nodup wf distinct).2.wellFormed

/-- An installer that is there stays, whatever becomes of the pod. -/
theorem installer_admitted (admitted : Admitted cs start patch pod) {x : Json}
    (found : installer? start = some x) :
    ∃ x', installer? pod = some x' ∧ Extended ["env"] x x' := by
  obtain @⟨_, _, _, _, _, _, _, _, _, read, ran, rfl, applied⟩ := admitted
  obtain ⟨pod', adds, kept⟩ := addsOnly_of_read read ran
  cases adds.apply.symm.trans applied
  exact kept.installer found

theorem installer_of_fresh (admitted : Admitted cs start patch pod) (changed : patch ≠ [])
    (new : isInjected start = .ok false) : ∃ x, installer? pod = some x ∧
      (installer? start = none → Installed start (x.itemsAt "env")) := by
  cases found : installer? start with
  | none =>
    obtain ⟨x, there, installed⟩ := installed_of_fresh admitted changed new found
    exact ⟨x, there, fun _ => installed⟩
  | some x =>
    obtain ⟨x', there, _⟩ := installer_admitted admitted found
    exact ⟨x', there, nofun⟩

end Admission

theorem installer_withContainers {pod x : Json} (found : installer? pod = some x)
    (ys : List Json) : installer? (withContainers ys pod) = some x ∧
      containerList (withContainers ys pod) = ys := by
  have listed : ∃ xs, (spec pod).get "initContainers" = .arr xs := by
    by_contra none
    rw [installer?, initContainerList, itemsAt_of_ne fun xs hx => none ⟨xs, hx⟩] at found
    cases found
  obtain ⟨xs, listed⟩ := listed
  obtain ⟨containers, others⟩ := get_setSpec listed "containers" (.arr ys)
  refine ⟨?_, itemsAt_of_arr containers⟩
  rw [installer?, withContainers, initContainerList, Json.itemsAt, others _ (by decide)]
  exact found

section Repair

variable {cs ds : List Capability} {start pod : Json} {patch : Patch}

/-- Of a pod after its first injection, whatever containers it has by now: a repair comes to an end
if all is well-formed, and then a repaired container is recorded if the number of its place is free.
If the installer is that of the injection, the numbers in use are those of the containers that the
pod had at first, so that of the repaired containers those at later places are recorded, and no
others, unless by the name and the image of one that is. -/
theorem repaired_recorded_beyond (admitted : Admitted cs start patch pod) (changed : patch ≠ [])
    (new : isInjected start = .ok false) (ys : List Json) (j : Injector)
    (config : MonitoringConfig) :
    (WellFormed start → cs.Nodup → ds.Nodup → (∀ y ∈ ys, IsContainer y) →
      ∃ n pod', repair j config ds (withContainers ys pod) = (.ok n, pod')) ∧
    ∀ n pod', repair j config ds (withContainers ys pod) = (.ok n, pod') →
      (containerList pod').length = ys.length ∧ ∃ x x', installer? pod = some x ∧
        installer? pod' = some x' ∧
        (∀ k c, Modified ys (containerList pod') k c →
          knows (x.itemsAt "env") (k + 1) = false → pair (k + 1) c ⊆ x'.itemsAt "env") ∧
        (installer? start = none → ∀ c,
          Tells (x'.itemsAt "env") c ↔ Tells (x.itemsAt "env") c ∨
            ∃ k d, Modified ys (containerList pod') k d ∧ (containerList start).length ≤ k ∧
              label d = label c) := by
  obtain ⟨x, found, installed⟩ := installer_of_fresh admitted changed new
  obtain ⟨found', listed⟩ := installer_withContainers found ys
  refine ⟨fun wf nodup nodup' fine => ?_, fun n pod' repaired => ?_⟩
  · have wf' := wellFormed_withContainers (wellFormed_admitted nodup wf admitted) fine
    obtain ⟨pod', _, ran, _⟩ := repair_ok j config nodup' wf' told_isContainer
      fun x hx _ => wf'.isInitContainer x hx
    exact ⟨_, pod', ran⟩
  · obtain ⟨length, installer⟩ := repair_told repaired
    rw [listed] at length installer
    obtain ⟨x', there, env⟩ := installer x found'
    refine ⟨length, x, x', found, there, fun k c modified free => ?_, fun alone c => ?_⟩
    · obtain ⟨c', site, other⟩ := modified_iff.mp modified
      rw [Nat.add_comm] at free ⊢
      rw [env]
      exact pair_subset_told site other free
    · -- The numbers taken are those of the containers that the first injection saw.
      have numbered := (installed alone).numbered
      rw [env, tells_told_iff numbered.paired]
      refine or_congr_right ⟨?_, ?_⟩
      · rintro ⟨i, d, d', site, other, free, same⟩
        rw [numbered.numbers, decide_eq_false_iff_not] at free
        exact ⟨i, d, modified_iff.mpr ⟨d', site, other⟩, by omega, same⟩
      · rintro ⟨i, d, modified, late, same⟩
        obtain ⟨d', site, other⟩ := modified_iff.mp modified
        refine ⟨i, d, d', site, other, ?_, same⟩
        rw [numbered.numbers, decide_eq_false_iff_not]
        omega

end Repair

/- The pod of the shop, and a container that comes in after its first injection. -/

theorem admitted_web : ∃ patch pod,
    Admitted someHandler.capabilities web patch pod ∧ patch ≠ [] := by
  obtain ⟨report, s', ran, changed⟩ := patched_shop web (by decide +kernel)
  have read : Json.ofBytes (admissionOf web).object = .ok web := by decide +kernel
  obtain ⟨pod, admitted⟩ := admitted_of_patch wellFormed_web read ran changed
  exact ⟨_, pod, admitted, changed⟩

def late : Json := .obj [("name", .str "late"), ("image", .str "late:1")]

theorem repaired_late (k : Nat) (check : Nat → Json → Bool)
    (checked : (match (someHandler.injectedPod "shop" prod web).play Store.answer shop with
      | (.ok pod, _) =>
        match repair someHandler.injector prod someHandler.capabilities
          (insertContainer k late pod) with
        | (.ok n, pod') => check n pod'
        | (.error _, _) => false
      | (.error _, _) => false) = true) : ∃ pod s' n pod',
    (someHandler.injectedPod "shop" prod web).play Store.answer shop = (.ok pod, s') ∧
      repair someHandler.injector prod someHandler.capabilities (insertContainer k late pod) =
        (.ok n, pod') ∧ check n pod' = true := by
  rcases ran : (someHandler.injectedPod "shop" prod web).play Store.answer shop with ⟨result, s'⟩
  rw [ran] at checked
  cases result with
  | error e => cases checked
  | ok pod =>
    rcases repaired : repair someHandler.injector prod someHandler.capabilities
      (insertContainer k late pod) with ⟨result, pod'⟩
    simp only [repaired] at checked
    cases result with
    | error e => cases checked
    | ok n => exact ⟨pod, s', n, pod', rfl, repaired, checked⟩

theorem repaired_recorded_beyond_web : ∃ patch pod,
    Admitted someHandler.capabilities web patch pod ∧ patch ≠ [] ∧ isInjected web = .ok false ∧
    ∃ n pod', repair someHandler.injector prod someHandler.capabilities
        (withContainers (late :: containerList pod) pod) = (.ok n, pod') ∧
      ∃ x x', installer? pod = some x ∧ installer? pod' = some x' ∧ ∀ c,
        Tells (x'.itemsAt "env") c ↔ Tells (x.itemsAt "env") c ∨
          ∃ k d, Modified (late :: containerList pod) (containerList pod') k d ∧ 1 ≤ k ∧
            label d = label c := by
  obtain ⟨patch, pod, admitted, changed⟩ := admitted_web
  have nodup : someHandler.capabilities.Nodup := by decide
  have wf := wellFormed_admitted nodup wellFormed_web admitted
  have fine : ∀ y ∈ late :: containerList pod, IsContainer y :=
    List.forall_mem_cons.mpr
      ⟨⟨.intro (by simp), ⟨.inl rfl, nofun⟩, .inl rfl, nofun⟩, wf.isContainer⟩
  obtain ⟨ends, recorded⟩ := repaired_recorded_beyond admitted
    changed rfl (late :: containerList pod) someHandler.injector prod
  obtain ⟨n, pod', repaired⟩ := ends wellFormed_web nodup nodup fine
  obtain ⟨_, x, x', found, found', _, tells⟩ := recorded n pod' repaired
  exact ⟨patch, pod, admitted, changed, rfl, n, pod', repaired, x, x', found, found', tells rfl⟩

/-- The container that came before the one of the injection is repaired, but the installer has no
variable for it. -/
theorem late_unrecorded : ∃ pod s' n pod' x',
    (someHandler.injectedPod "shop" prod web).play Store.answer shop = (.ok pod, s') ∧
      repair someHandler.injector prod someHandler.capabilities (insertContainer 0 late pod) =
        (.ok n, pod') ∧
      Modified (late :: containerList pod) (containerList pod') 0 late ∧
      installer? pod' = some x' ∧ ¬ Tells (x'.itemsAt "env") late := by
  obtain ⟨pod, s', n, pod', ran, repaired, checked⟩ := repaired_late 0 (fun _ pod' =>
    (containerList pod')[0]?.any (fun c' => decide (c' ≠ late)) &&
      (installer? pod').any fun x' =>
        (x'.itemsAt "env").all fun e => e.get "value" != .str "late") (by decide +kernel)
  rw [Bool.and_eq_true, Option.any_eq_true, Option.any_eq_true] at checked
  obtain ⟨⟨c', there, other⟩, x', found, silent⟩ := checked
  rw [decide_eq_true_iff] at other
  rw [List.all_eq_true] at silent
  refine ⟨pod, s', n, pod', x', ran, repaired, ⟨rfl, c', there, other⟩, found, ?_⟩
  rintro ⟨m, both⟩
  have named := silent _ (both List.mem_cons_self)
  cases named

end PodInstrumentation.Admission
