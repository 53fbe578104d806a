import PodInstrumentation.Proofs.Capability.Pairing
import PodInstrumentation.Proofs.Workload.Telling
/-!
Injections that know different workloads. They make the same of the pod, and of the installer what
differs in the values that tell the workload. -/
namespace PodInstrumentation

open List (Forall₂)
open Pod (OtherValue OtherWorkload)

structure Draft.Twin (d d' : Draft) : Prop where
  pod : d'.pod = d.pod
  installer : OtherWorkload d.installer d'.installer

structure Site.Twin (s s' : Site) : Prop where
  container : s'.container = s.container
  installer : OtherWorkload s.installer s'.installer

namespace Site

theorem onContainer_twin (e : Edit Json Unit) :
    Edit.Paired Twin (onContainer e) (onContainer e) :=
  .on e (fun _ _ twin => twin.container) fun _ _ _ twin => ⟨rfl, twin.installer⟩

theorem noteContainer_twin (number : Int) :
    Edit.Paired Twin (onInstaller (Pod.noteContainer number))
      (onInstaller (Pod.noteContainer number)) := by
  refine .step fun s s' twin => ?_
  rw [twin.container]
  exact (twin.installer.noteContainer number s.container).bind fun x x' told =>
    .ok ⟨rfl, told⟩

theorem extend_twin (container : Edit Json Unit) (number : Int) :
    Edit.Paired Twin (Additions.extend container number) (Additions.extend container number) :=
  .bind (noteContainer_twin number) fun _ => onContainer_twin container

end Site

theorem sweep_twin {step : Nat → Edit Site Bool} (h : ∀ i, Edit.Paired Site.Twin (step i) (step i))
    (i : Nat) (cs : List Json) {x x' : Json} (told : OtherWorkload x x') :
    (∃ n ds y y', sweep step i cs x = (.ok n, ds, y) ∧ sweep step i cs x' = (.ok n, ds, y') ∧
      OtherWorkload y y') ∨
    ∃ r r', sweep step i cs x = (.error .misshapen, r) ∧
      sweep step i cs x' = (.error .misshapen, r') := by
  induction cs generalizing i x x' with
  | nil => exact .inl ⟨0, [], x, x', rfl, rfl, told⟩
  | cons c cs ih =>
    unfold sweep
    obtain ⟨changed, s, s', ran, ran', twin⟩ | ⟨s, s', ran, ran'⟩ :=
      h i ⟨c, x⟩ ⟨c, x'⟩ ⟨rfl, told⟩
    · rw [ran, ran']
      obtain ⟨n, ds, y, y', rest, rest', last⟩ | ⟨r, r', rest, rest'⟩ := ih (i + 1) twin.installer
      · dsimp only
        rw [rest, rest', twin.container]
        exact .inl ⟨_, _, y, y', rfl, rfl, last⟩
      · dsimp only
        rw [rest, rest']
        exact .inr ⟨_, _, rfl, rfl⟩
    · rw [ran, ran']
      exact .inr ⟨_, _, rfl, rfl⟩

namespace Draft

theorem onPod_twin (f : Json → Shaped Json) : Edit.Paired Twin (onPod f) (onPod f) := by
  refine .step fun d d' twin => ?_
  rw [twin.pod]
  cases f d.pod with
  | error e => exact .error e
  | ok p => exact .ok ⟨rfl, twin.installer⟩

theorem onInstaller_twin {f f' : Json → Shaped Json}
    (h : ∀ x x', OtherWorkload x x' → Agree OtherWorkload (f x) (f' x')) :
    Edit.Paired Twin (onInstaller f) (onInstaller f') :=
  .step fun _ _ twin => (h _ _ twin.installer).bind fun _ _ told => .ok ⟨twin.pod, told⟩

theorem eachContainer_twin {step : Nat → Edit Site Bool}
    (h : ∀ i, Edit.Paired Site.Twin (step i) (step i)) :
    Edit.Paired Twin (eachContainer step) (eachContainer step) := by
  intro d d' twin
  unfold Edit.apply eachContainer
  dsimp only [ExceptT.run_mk, StateT.run]
  rw [twin.pod]
  cases Pod.containers d.pod >>= Json.each with
  | error e => exact .inr ⟨d, d', rfl, rfl⟩
  | ok cs =>
    obtain ⟨n, ds, y, y', swept, swept', told⟩ | ⟨r, r', swept, swept'⟩ :=
      sweep_twin h 0 cs twin.installer
    · dsimp only
      rw [swept, swept']
      exact .inl ⟨n, _, _, rfl, rfl, rfl, told⟩
    · dsimp only
      rw [swept, swept']
      exact .inr ⟨_, _, rfl, rfl⟩

end Draft

/-- Additions that differ in these values alone. -/
theorem Additions.edit_twin (a : Additions) {vars' : List Json}
    (values : Forall₂ OtherValue a.installerVars vars') :
    Edit.Paired Draft.Twin a.edit { a with installerVars := vars' }.edit := by
  unfold Additions.edit
  refine .bind (Draft.onPod_twin _) fun _ => ?_
  refine .bind (Draft.onInstaller_twin fun x x' told => told.appendEnv values) fun _ => ?_
  refine .bind (Draft.onInstaller_twin fun x x' told => told.appendMounts _) fun _ => ?_
  refine .bind (Draft.eachContainer_twin fun i => ?_) fun _ => Draft.onPod_twin _
  exact .bind (Site.extend_twin _ _) fun _ => .pure true

theorem Agent.edit_twin (j : Injector) (config : MonitoringConfig) :
    Edit.Paired Draft.Twin (edit j config) (edit j config) := by
  unfold Agent.edit
  refine .bind (.look fun d d' twin => by rw [twin.pod]) fun info => ?_
  exact (additions j config info).edit_twin (Pod.forall₂_same _)

theorem Enrichment.edit_twin (j : Injector) (config : MonitoringConfig) {w w' : Workload}
    (known : Pod.Known w) (known' : Pod.Known w') :
    Edit.Paired Draft.Twin (additions j config w).edit (additions j config w').edit :=
  (additions j config w).edit_twin (Pod.otherValue_installerVars known known')

end PodInstrumentation
