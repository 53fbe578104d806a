import PodInstrumentation.Proofs.Admission.Idempotence
import PodInstrumentation.Proofs.Capability.Growing
import PodInstrumentation.Proofs.Json.Adding
import PodInstrumentation.Proofs.Pod.Keeping
/-!
Patches of admissions add. Nothing is asked of the pod here, nor of the configuration or the
cluster: a misshapen pod is either refused on the way or added to like any other. -/
namespace PodInstrumentation.Admission

open Json (Grows)
open Pod

namespace Handler

section Growth

variable {σ : Type} {answer : σ → (c : ApiCall) → Except Failure c.Answer × σ} {s s' : σ}
  {h : Handler} {ns : String} {config : MonitoringConfig} {request : Request}
  {deadline : Option Seconds} {report : Report} {pod pod' : Json}

theorem injectedPod_grows (run : (h.injectedPod ns config pod).play answer s = (.ok pod', s')) :
    Grows (podRoom (.list .closed)) pod pod' := by
  obtain ⟨x, pod₁, names, draft, pod₂, _, added, ran, placed, marking⟩ := injectedPod_eq_ok run
  have injected : Grows (podRoom (.list .closed)) pod₁ draft.pod := (inject_grows ran).1
  calc
    Grows (podRoom (.list .closed)) pod pod₁ := addConfigVolume_grows added
    Grows (podRoom (.list .closed)) _ draft.pod := injected
    Grows (podRoom (.list .closed)) _ pod₂ := addInstaller_grows placed
    Grows (podRoom (.list .closed)) _ pod' := annotate_grows (by decide) marking

/-- The course of any pod: what is injected was not injected before, and what is repaired was. -/
theorem course_eq_ok {course : Course}
    (ran : (h.course request pod).play answer s = (.ok course, s')) (acts : course ≠ .skip) :
    ∃ ns config s₁, namespaceOf request pod = .ok ns ∧
      (h.configOf ns).play answer s = (.ok (some config), s₁) ∧
      (course = .inject ns config ∧ isInjected pod = .ok false ∨
        course = .reinvoke ns config ∧ isInjected pod = .ok true) := by
  unfold Handler.course at ran
  obtain ⟨ns, s₀, first, ran₁⟩ := Attempt.play_bind_eq_ok ran
  obtain ⟨known, rfl⟩ := Attempt.play_ofShaped_eq_ok first
  obtain ⟨name, s₁, named, ran₂⟩ := Attempt.play_bind_eq_ok ran₁
  split at ran₂
  · cases ran₂
    exact absurd rfl acts
  rename_i assigned
  obtain ⟨config, s₂, found, ran₃⟩ := Attempt.play_bind_eq_ok ran₂
  split at ran₃
  · cases ran₃
    exact absurd rfl acts
  rename_i needed
  have read : (h.configOf ns).play answer s₀ = (.ok (some config), s₂) := by
    unfold configOf
    rw [Attempt.play_bind_ok named, if_neg assigned, Attempt.play_bind_ok found,
      if_pos (by simpa using needed)]
    rfl
  refine ⟨ns, config, s₂, known, read, ?_⟩
  obtain ⟨injected, s₃, looked, ran₄⟩ := Attempt.play_bind_eq_ok ran₃
  have before := (Attempt.play_ofShaped_eq_ok looked).1
  cases injected with
  | false =>
    cases ran₄
    exact .inl ⟨rfl, before⟩
  | true =>
    simp only [if_true] at ran₄
    split at ran₄
    · cases ran₄
      exact .inr ⟨rfl, before⟩
    · cases ran₄
      exact absurd rfl acts

theorem handle_eq_ok (read : Json.ofBytes request.object = .ok pod)
    (ran : (h.handle request deadline).run answer s = (.ok report, s'))
    (changed : report.verdict.patch ≠ []) :
    ∃ ns config s₁ pod', namespaceOf request pod = .ok ns ∧
      (h.configOf ns).play answer s = (.ok (some config), s₁) ∧
      report.verdict.patch = Patch.between pod pod' ∧
      ((isInjected pod = .ok false ∧ ∃ wanted, Capability.wanted pod h.capabilities = .ok wanted ∧
          wanted ≠ [] ∧ ∃ s₂ s₃, (h.injectedPod ns config pod).play answer s₂ = (.ok pod', s₃)) ∨
        (isInjected pod = .ok true ∧ ∃ count,
          PodInstrumentation.repair h.injector config h.capabilities pod = (.ok count, pod'))) := by
  obtain ⟨n, outcome, decided⟩ := decide_of_patch ran changed
  generalize report.verdict.patch = patch at decided changed ⊢
  obtain ⟨course, s₁, found, followed⟩ := course_of_decide read decided
  have acts : course ≠ .skip := by
    rintro rfl
    cases followed
    exact changed rfl
  obtain ⟨ns, config, s₂, named, settings, ⟨rfl, new⟩ | ⟨rfl, old⟩⟩ := course_eq_ok found acts
  · obtain ⟨_, wanted, pod', _, wants, some, injected, sent⟩ :=
      (freshPatch_eq_ok (follow_inject_eq_ok followed)).resolve_left fun none => changed none.1
    exact ⟨ns, config, s₂, pod', named, settings, sent,
      .inl ⟨new, wanted, wants, some, _, _, injected⟩⟩
  · obtain ⟨_, count, pod', _, repaired, sent⟩ :=
      (follow_reinvoke_eq_ok followed).resolve_left fun none => changed none.1
    exact ⟨ns, config, s₂, pod', named, settings, sent, .inr ⟨old, count, repaired⟩⟩

/-- The pod behind a patch grew, in its init containers only if it was injected before. -/
theorem handle_grows (read : Json.ofBytes request.object = .ok pod)
    (ran : (h.handle request deadline).run answer s = (.ok report, s'))
    (changed : report.verdict.patch ≠ []) :
    ∃ pod', report.verdict.patch = Patch.between pod pod' ∧
      (isInjected pod = .ok false ∧ Grows (podRoom (.list .closed)) pod pod' ∨
        isInjected pod = .ok true ∧ Grows (podRoom (.list installerRoom)) pod pod') := by
  obtain ⟨_, _, _, pod', _, _, sent, change⟩ := handle_eq_ok read ran changed
  refine ⟨pod', sent, change.imp ?_ ?_⟩
  · exact fun ⟨new, _, _, _, _, _, injected⟩ => ⟨new, injectedPod_grows injected⟩
  · exact fun ⟨old, _, repaired⟩ => ⟨old, repair_grows repaired⟩

end Growth

end Handler

section Patches

variable {σ : Type} {answer : σ → (c : ApiCall) → Except Failure c.Answer × σ} {s s' : σ}
  {h : Handler} {request : Request} {deadline : Option Seconds} {report : Report}

theorem patch_of_unreadable {e : Json.ReadError} (unread : Json.ofBytes request.object = .error e)
    (ran : (h.handle request deadline).run answer s = (.ok report, s')) :
    report.verdict.patch = [] := by
  by_cases changed : report.verdict.patch = []
  · exact changed
  · obtain ⟨n, outcome, decided⟩ := Handler.decide_of_patch ran changed
    unfold Handler.decide at decided
    cases decoded : Handler.decode request.object with
    | error e =>
      rw [decoded] at decided
      cases decided
    | ok pod => cases (Handler.decode_eq_ok_iff.mp decoded).1.symm.trans unread

/-- Init containers are written to only if they are the installer of a pod that was injected. -/
abbrev IsTold (pod c : Json) : Prop := isInjected pod = .ok true ∧ Named Names.installer c = true

theorem addsOnly_of_read {pod : Json} (read : Json.ofBytes request.object = .ok pod)
    (ran : (h.handle request deadline).run answer s = (.ok report, s')) :
    ∃ pod', Patch.AddsOnly IsMark pod report.verdict.patch pod' ∧ Kept (IsTold pod) pod pod' := by
  by_cases changed : report.verdict.patch = []
  · have same : Grows (podRoom (.list .closed)) pod pod := .refl _ pod
    exact ⟨pod, changed ▸ .nil pod, kept_of_grows same .inl⟩
  · have distinct := Json.distinct_ofBytes read
    obtain ⟨pod', sent, ⟨new, grown⟩ | ⟨old, grown⟩⟩ := Handler.handle_grows read ran changed
    · exact ⟨Json.merge pod pod', sent ▸ (Patch.addsOnly_between _ distinct grown).mono fun p =>
        isMark_of_free not_free_list_closed, kept_of_grows (grown.merge distinct) .inl⟩
    · have written : ∀ {c c' : Json}, Grows installerRoom c c' → c' = c ∨
          IsTold pod c ∧ Extended ["env"] c c' := by
        rintro c c' (same | ⟨named, told⟩)
        · exact .inl same
        · exact .inr ⟨⟨old, named⟩, extended_of_grows told⟩
      exact ⟨Json.merge pod pod', sent ▸ (Patch.addsOnly_between _ distinct grown).mono fun p =>
        isMark_of_free (not_free_list not_free_installerRoom),
        kept_of_grows (grown.merge distinct) written⟩

/-- The patch of an admission adds members and items at the ends of lists, and replaces nothing but
marker annotations. What the pod had is in its place afterwards and unchanged, except that the
installer of a pod that was injected before may be told more at the end of its variables. -/
theorem patch_adds_only (ran : (h.handle request deadline).run answer s = (.ok report, s')) :
    (∀ e, Json.ofBytes request.object = .error e → report.verdict.patch = []) ∧
    ∀ pod, Json.ofBytes request.object = .ok pod →
      ∃ pod', Patch.AddsOnly IsMark pod report.verdict.patch pod' ∧ Kept (IsTold pod) pod pod' :=
  ⟨fun _ unread => patch_of_unreadable unread ran, fun _ read => addsOnly_of_read read ran⟩

end Patches

def stale : Json := .obj [
  ("metadata", .obj [("annotations", .obj [
    (Names.injected, .str "true"), (Names.agentInjected, .str "true")])]),
  ("spec", .obj [
    ("containers", .arr [.obj [("name", .str "app")]]),
    ("initContainers", .arr [.obj [("name", .str Names.installer)]])])]

theorem patched_stale : ∃ report s',
    (someHandler.handle (admissionOf stale) none).run Store.answer shop = (.ok report, s') ∧
      report.verdict.patch ≠ [] := patched_shop stale (by decide +kernel)

theorem read_stale : Json.ofBytes (admissionOf stale).object = .ok stale := by decide +kernel

theorem patch_adds_only_stale : ∃ report s',
    (someHandler.handle (admissionOf stale) none).run Store.answer shop = (.ok report, s') ∧
      report.verdict.patch ≠ [] ∧
      ∃ pod', Patch.AddsOnly IsMark stale report.verdict.patch pod' ∧
        Kept (IsTold stale) stale pod' := by
  obtain ⟨report, s', ran, changed⟩ := patched_stale
  exact ⟨report, s', ran, changed, (patch_adds_only ran).2 stale read_stale⟩

def shopConfig : MonitoringConfig where
  name := ""
  ns := ""
  annotations := [(Names.reinvocationFeature, "true")]
  spec :=
    { apiUrl := "https://agents"
      tokens := none
      proxy := none
      networkZone := none
      skipCertCheck := false
      agent := .applicationMonitoring false [] }

theorem configOf_shop :
    ((someHandler.configOf "shop").play Store.answer shop).1 = .ok (some shopConfig) := by
  decide +kernel

/-- The repair leaves the init container of that pod other than it was. -/
theorem installer_changed_stale : ∃ report s' pod',
    (someHandler.handle (admissionOf stale) none).run Store.answer shop = (.ok report, s') ∧
      Patch.apply report.verdict.patch stale = some pod' ∧
      initContainerList stale = [.obj [("name", .str Names.installer)]] ∧
      .obj [("name", .str Names.installer)] ∉ initContainerList pod' := by
  obtain ⟨report, s', ran, changed⟩ := patched_stale
  obtain ⟨ns, config, s₁, pod', named, settings, sent, ⟨new, _⟩ | ⟨_, count, repaired⟩⟩ :=
    Handler.handle_eq_ok read_stale ran changed
  · cases new
  · cases named
    have config : some shopConfig = some config :=
      Except.ok.inj (configOf_shop.symm.trans (congrArg Prod.fst settings))
    cases config
    have same : pod' = (repair someHandler.injector shopConfig someHandler.capabilities stale).2 :=
      (congrArg Prod.snd repaired).symm
    refine ⟨report, s', Json.merge stale pod', ran, ?_, rfl, ?_⟩
    · rw [sent, Json.apply_between (Json.distinct_ofBytes read_stale)]
    · rw [same]
      decide +kernel

end PodInstrumentation.Admission
