import PodInstrumentation.Proofs.Admission.Answering
import PodInstrumentation.Proofs.Admission.Injected
import PodInstrumentation.Proofs.Capability.Repairing
/-!
What is decided about well-formed pods. The course depends on the configuration of the namespace and
on the marker of the pod alone, and a patch is that of a first injection or of a repair. -/
namespace PodInstrumentation.Admission

open Pod

namespace Handler

def configOf (h : Handler) (ns : String) : Attempt (Option MonitoringConfig) := do
  let name ← configName ns
  if name = "" then return none
  let config ← h.readConfig ns name
  return if config.needsInjection then some config else none

def courseBy (ns : String) (pod : Json) : Option MonitoringConfig → Course
  | none => .skip
  | some config =>
    if marked pod then if config.reinvocation then .reinvoke ns config else .skip
    else .inject ns config

theorem namespaceOf_ok {pod : Json} (wf : WellFormed pod) (request : Request) :
    namespaceOf request pod = .ok (if request.ns != "" then request.ns else
      (((metadata pod).get? "namespace").getD (.str "")).display) := by
  simp only [namespaceOf, part_ok wf.object wf.metadata, ok_bind]
  split <;> rfl

section Course

variable {σ : Type} (answer : σ → (c : ApiCall) → Except Failure c.Answer × σ) (s : σ)
  (h : Handler) {request : Request} {pod : Json} {ns : String}

theorem course_play (wf : WellFormed pod) (named : namespaceOf request pod = .ok ns) :
    (h.course request pod).play answer s = match (h.configOf ns).play answer s with
      | (.ok config, s') => (.ok (courseBy ns pod config), s')
      | (.error e, s') => (.error e, s') := by
  have first : (Attempt.ofShaped (namespaceOf request pod)).play answer s = (.ok ns, s) := by
    rw [named]
    rfl
  unfold course configOf
  rw [Attempt.play_bind_ok first, Attempt.play_bind, Attempt.play_bind]
  rcases (configName ns).play answer s with ⟨e | name, s₁⟩
  · rfl
  dsimp only
  by_cases unassigned : name = ""
  · rw [if_pos unassigned, if_pos unassigned]
    rfl
  rw [if_neg unassigned, if_neg unassigned, Attempt.play_bind, Attempt.play_bind]
  rcases (h.readConfig ns name).play answer s₁ with ⟨e | config, s₂⟩
  · rfl
  dsimp only
  cases needed : config.needsInjection with
  | false => rfl
  | true =>
    have looked : (Attempt.ofShaped (isInjected pod)).play answer s₂ = (.ok (marked pod), s₂) := by
      rw [isInjected_ok wf]
      rfl
    simp only [Bool.not_true, Bool.false_eq_true, if_false, if_true]
    rw [Attempt.play_bind_ok looked]
    cases m : marked pod with
    | false => simp [courseBy, m]
    | true => simp [courseBy, m]

end Course

structure SameSettings {σ τ : Type}
    (answer : σ → (c : ApiCall) → Except Failure c.Answer × σ) (s : σ)
    (answer' : τ → (c : ApiCall) → Except Failure c.Answer × τ) (t : τ) : Prop where
  namespaces : ∀ ns, (answer' t (.readNamespace ns)).1 = (answer s (.readNamespace ns)).1
  configs : ∀ ns name operatorNs,
    (answer' (answer' t (.readNamespace ns)).2 (.readConfig name operatorNs)).1 =
      (answer (answer s (.readNamespace ns)).2 (.readConfig name operatorNs)).1

section Again

variable {σ τ : Type} {answer : σ → (c : ApiCall) → Except Failure c.Answer × σ} {s s' : σ}
  {answer' : τ → (c : ApiCall) → Except Failure c.Answer × τ} {t : τ} {ns name : String}

theorem configName_again (read : (configName ns).play answer s = (.ok name, s'))
    (same : (answer' t (.readNamespace ns)).1 = (answer s (.readNamespace ns)).1) :
    s' = (answer s (.readNamespace ns)).2 ∧
      (configName ns).play answer' t = (.ok name, (answer' t (.readNamespace ns)).2) := by
  unfold configName at read ⊢
  rw [Attempt.play_bind_ok (Attempt.play_ask _ _)] at read ⊢
  rw [same]
  generalize (answer s (.readNamespace ns)).1 = result at read ⊢
  cases result with
  | error f =>
    dsimp only at read
    split at read <;> cases read
  | ok namespace' =>
    obtain ⟨metadata⟩ := namespace'
    cases metadata <;> cases read <;> exact ⟨rfl, rfl⟩

theorem readConfig_again {h : Handler} {config : MonitoringConfig}
    (read : (h.readConfig ns name).play answer s = (.ok config, s'))
    (same : (answer' t (.readConfig name h.injector.provisioner.ns)).1 =
      (answer s (.readConfig name h.injector.provisioner.ns)).1) :
    ∃ t', (h.readConfig ns name).play answer' t = (.ok config, t') := by
  unfold readConfig at read ⊢
  rw [Attempt.play_bind_ok (Attempt.play_ask _ _)] at read ⊢
  rw [same]
  generalize (answer s (.readConfig name h.injector.provisioner.ns)).1 = result at read ⊢
  cases result with
  | error f =>
    dsimp only at read
    split at read
    · obtain ⟨_, _, _, failed⟩ := Attempt.play_bind_eq_ok read
      cases failed
    · split at read <;> cases read
  | ok resource =>
    dsimp only at read ⊢
    cases checked : MonitoringConfig.ofResource resource with
    | ok config' =>
      rw [checked] at read
      cases read
      exact ⟨_, rfl⟩
    | error e =>
      rw [checked] at read
      cases e <;> cases read

theorem configOf_again {h : Handler} {config : MonitoringConfig}
    (read : (h.configOf ns).play answer s = (.ok (some config), s'))
    (same : SameSettings answer s answer' t) :
    ∃ t', (h.configOf ns).play answer' t = (.ok (some config), t') := by
  unfold configOf at read ⊢
  obtain ⟨name, s₁, named, read⟩ := Attempt.play_bind_eq_ok read
  obtain ⟨rfl, named'⟩ := configName_again named (same.namespaces ns)
  rw [Attempt.play_bind_ok named']
  split at read
  · cases read
  · rename_i assigned
    rw [if_neg assigned]
    obtain ⟨config', s₂, found, read⟩ := Attempt.play_bind_eq_ok read
    obtain ⟨t', found'⟩ := readConfig_again found (same.configs ns name _)
    rw [Attempt.play_bind_ok found']
    split at read
    · rename_i needed
      cases read
      rw [if_pos needed]
      exact ⟨_, rfl⟩
    · cases read

end Again

inductive Change (h : Handler) (ns : String) (config : MonitoringConfig) (pod pod' : Json) : Prop
  | fresh {σ : Type} {answer : σ → (c : ApiCall) → Except Failure c.Answer × σ} {s s' : σ}
      (unmarked : marked pod = false) (wanted : h.wanted pod ≠ [])
      (run : (h.injectedPod ns config pod).play answer s = (.ok pod', s'))
  | repair {n : Nat} (marked : marked pod = true) (some : n ≠ 0)
      (run : PodInstrumentation.repair h.injector config h.capabilities pod = (.ok n, pod'))

section Handle

variable {σ : Type} {answer : σ → (c : ApiCall) → Except Failure c.Answer × σ} {s s' : σ}
  {h : Handler} {request : Request} {deadline : Option Seconds} {report : Report} {pod : Json}

theorem conclude_patch {name : Json} {repaired : Nat} {result : Except Fault (Patch × Outcome)}
    (changed : (conclude request deadline name repaired result).verdict.patch ≠ []) :
    ∃ outcome,
      result = .ok ((conclude request deadline name repaired result).verdict.patch, outcome) := by
  cases result with
  | error e => exact absurd rfl changed
  | ok decided => exact ⟨decided.2, rfl⟩

theorem concluded_of_handle (ran : (h.handle request deadline).run answer s = (.ok report, s')) :
    ∃ name n result, (h.decide request).run answer s = ((n, result), s') ∧
      report = (let concluded := conclude request deadline name n result
        if h.measured then concluded else { concluded with measurements := [] }) := by
  cases named : podName request with
  | error e =>
    unfold handle at ran
    rw [named] at ran
    cases ran
  | ok name =>
    rw [handle_run answer s h request deadline named] at ran
    rcases decided : (h.decide request).run answer s with ⟨⟨n, result⟩, s₁⟩
    rw [decided] at ran
    simp only [Prod.mk.injEq, Except.ok.injEq] at ran
    obtain ⟨rfl, rfl⟩ := ran
    exact ⟨name, n, result, rfl, rfl⟩

/-- What is answered is what was decided. -/
theorem decide_of_handle (ran : (h.handle request deadline).run answer s = (.ok report, s')) :
    ∃ name n result, (h.decide request).run answer s = ((n, result), s') ∧
      report.verdict = (conclude request deadline name n result).verdict ∧
      report.outcome = (conclude request deadline name n result).outcome := by
  obtain ⟨name, n, result, decided, rfl⟩ := concluded_of_handle ran
  refine ⟨name, n, result, decided, ?_, ?_⟩ <;> dsimp only <;> split <;> rfl

theorem decide_of_patch
    (ran : (h.handle request deadline).run answer s = (.ok report, s'))
    (changed : report.verdict.patch ≠ []) : ∃ n outcome,
      (h.decide request).run answer s = ((n, .ok (report.verdict.patch, outcome)), s') := by
  obtain ⟨name, n, result, decided, verdict, _⟩ := decide_of_handle ran
  rw [verdict] at changed ⊢
  obtain ⟨outcome, patched⟩ := conclude_patch changed
  exact ⟨n, outcome, by rw [← patched, decided]⟩

theorem decode_of_decide (read : Json.ofBytes request.object = .ok pod) {n : Nat} {patch : Patch}
    {outcome : Outcome}
    (decided : (h.decide request).run answer s = ((n, .ok (patch, outcome)), s')) :
    decode request.object = .ok pod := by
  unfold decide at decided
  cases decoded : decode request.object with
  | error e =>
    rw [decoded] at decided
    cases decided
  | ok other =>
    cases (decode_eq_ok_iff.mp decoded).1.symm.trans read
    rfl

/-- A decision that did not fail followed a course for the pod that was decoded. -/
theorem course_of_decide (read : Json.ofBytes request.object = .ok pod) {n : Nat} {patch : Patch}
    {outcome : Outcome}
    (decided : (h.decide request).run answer s = ((n, .ok (patch, outcome)), s')) :
    ∃ course s₁, (h.course request pod).play answer s = (.ok course, s₁) ∧
      (h.follow pod course).run answer s₁ = ((n, .ok (patch, outcome)), s') := by
  have decoded := decode_of_decide read decided
  unfold decide at decided
  rw [decoded] at decided
  rcases found : (h.course request pod).play answer s with ⟨e | course, s₁⟩
  · dsimp only at decided
    rw [Interaction.run_then found] at decided
    cases decided
  · dsimp only at decided
    rw [Interaction.run_then found] at decided
    exact ⟨course, s₁, rfl, decided⟩

/-- A first injection sends nothing if nothing is wanted, and else what makes the injected pod. -/
theorem freshPatch_eq_ok {ns : String} {config : MonitoringConfig} {patch : Patch}
    {outcome : Outcome}
    (ran : (h.freshPatch ns config pod).play answer s = (.ok (patch, outcome), s')) :
    (patch = [] ∧ outcome = .skipped) ∨ (outcome = .injected ∧ ∃ wanted pod' s₁,
      Capability.wanted pod h.capabilities = .ok wanted ∧ wanted ≠ [] ∧
      (h.injectedPod ns config pod).play answer s = (.ok pod', s₁) ∧
      patch = Patch.between pod pod') := by
  unfold freshPatch at ran
  obtain ⟨wanted, s₀, look, rest⟩ := Attempt.play_bind_eq_ok ran
  obtain ⟨looked, rfl⟩ := Attempt.play_ofShaped_eq_ok look
  split at rest
  · cases rest
    exact .inl ⟨rfl, rfl⟩
  · rename_i some
    obtain ⟨pod', s₁, injected, ran⟩ := Attempt.play_bind_eq_ok rest
    obtain ⟨_, _, _, ran⟩ := Attempt.play_bind_eq_ok ran
    obtain ⟨_, _, _, ran⟩ := Attempt.play_bind_eq_ok ran
    obtain ⟨_, _, _, ran⟩ := Attempt.play_bind_eq_ok ran
    cases ran
    exact .inr ⟨rfl, wanted, pod', s₁, looked, by simpa using some, injected, rfl⟩

theorem follow_inject_eq_ok {ns : String} {config : MonitoringConfig} {n : Nat} {patch : Patch}
    {outcome : Outcome}
    (ran : (h.follow pod (.inject ns config)).run answer s = ((n, .ok (patch, outcome)), s')) :
    (h.freshPatch ns config pod).play answer s = (.ok (patch, outcome), s') := by
  rcases fresh : (h.freshPatch ns config pod).play answer s with ⟨result, s₁⟩
  have followed : (h.follow pod (.inject ns config)).run answer s = ((0, result), s₁) :=
    Interaction.run_then fresh _
  cases followed.symm.trans ran
  rfl

theorem freshPatch_change {ns : String} {config : MonitoringConfig} (wf : WellFormed pod)
    (unmarked : marked pod = false) {patch : Patch} {outcome : Outcome}
    (ran : (h.freshPatch ns config pod).play answer s = (.ok (patch, outcome), s'))
    (changed : patch ≠ []) :
    ∃ pod', h.Change ns config pod pod' ∧ patch = Patch.between pod pod' := by
  obtain ⟨_, wanted, pod', _, looked, some, injected, sent⟩ :=
    (freshPatch_eq_ok ran).resolve_left fun none => changed none.1
  cases (Capability.wanted_ok wf _).symm.trans looked
  exact ⟨pod', .fresh unmarked some injected, sent⟩

theorem repairedPatch_eq_ok {ns : String} {pod' : Json} {patch : Patch} {outcome : Outcome}
    (sent : (repairedPatch ns pod pod').play answer s = (.ok (patch, outcome), s')) :
    patch = Patch.between pod pod' ∧ outcome = .reinvoked := by
  obtain ⟨_, _, _, sent⟩ := Attempt.play_bind_eq_ok sent
  obtain ⟨_, _, _, sent⟩ := Attempt.play_bind_eq_ok sent
  obtain ⟨_, _, _, sent⟩ := Attempt.play_bind_eq_ok sent
  cases sent
  exact ⟨rfl, rfl⟩

/-- A repair sends nothing if nothing is missing, and else what makes the repaired pod. -/
theorem follow_reinvoke_eq_ok {ns : String} {config : MonitoringConfig} {n : Nat} {patch : Patch}
    {outcome : Outcome}
    (ran : (h.follow pod (.reinvoke ns config)).run answer s = ((n, .ok (patch, outcome)), s')) :
    (patch = [] ∧ outcome = .skipped) ∨ (outcome = .reinvoked ∧ ∃ count pod', count ≠ 0 ∧
      PodInstrumentation.repair h.injector config h.capabilities pod = (.ok count, pod') ∧
      patch = Patch.between pod pod') := by
  simp only [follow] at ran
  rcases repaired : PodInstrumentation.repair h.injector config h.capabilities pod with
    ⟨e | count, pod'⟩
  · rw [repaired] at ran
    cases ran
  · rw [repaired] at ran
    cases count with
    | zero =>
      cases ran
      exact .inl ⟨rfl, rfl⟩
    | succ count =>
      rcases sent : (repairedPatch ns pod pod').play answer s with ⟨result, s₁⟩
      cases (Interaction.run_then sent _).symm.trans ran
      obtain ⟨rfl, rfl⟩ := repairedPatch_eq_ok sent
      exact .inr ⟨rfl, count + 1, pod', Nat.succ_ne_zero count, rfl, rfl⟩

theorem follow_change {ns : String} (wf : WellFormed pod) {config? : Option MonitoringConfig}
    {n : Nat} {patch : Patch} {outcome : Outcome}
    (ran : (h.follow pod (courseBy ns pod config?)).run answer s =
      ((n, .ok (patch, outcome)), s')) (changed : patch ≠ []) : ∃ config pod',
      config? = some config ∧ h.Change ns config pod pod' ∧ patch = Patch.between pod pod' := by
  have skipped : ∀ {s s' : σ}, (h.follow pod .skip).run answer s ≠
      ((n, .ok (patch, outcome)), s') := by
    intro _ _ ran
    cases ran
    exact changed rfl
  cases config? with
  | none => exact absurd ran skipped
  | some config =>
    unfold courseBy at ran
    cases m : marked pod with
    | false =>
      rw [m] at ran
      obtain ⟨pod', change⟩ := freshPatch_change wf m (follow_inject_eq_ok ran) changed
      exact ⟨config, pod', rfl, change⟩
    | true =>
      rw [m] at ran
      simp only [if_true] at ran
      split at ran
      · obtain ⟨_, count, pod', some, repaired, sent⟩ :=
          (follow_reinvoke_eq_ok ran).resolve_left fun none => changed none.1
        exact ⟨config, pod', rfl, .repair m some repaired, sent⟩
      · exact absurd ran skipped

theorem handle_change (wf : WellFormed pod) (read : Json.ofBytes request.object = .ok pod)
    (ran : (h.handle request deadline).run answer s = (.ok report, s'))
    (changed : report.verdict.patch ≠ []) : ∃ ns config pod' s₁,
      decode request.object = .ok pod ∧ namespaceOf request pod = .ok ns ∧
      (h.configOf ns).play answer s = (.ok (some config), s₁) ∧ h.Change ns config pod pod' ∧
      report.verdict.patch = Patch.between pod pod' := by
  obtain ⟨n, outcome, decided⟩ := decide_of_patch ran changed
  have decoded := decode_of_decide read decided
  have named := namespaceOf_ok wf request
  generalize (if request.ns != "" then request.ns else
    (((metadata pod).get? "namespace").getD (.str "")).display) = ns at named
  obtain ⟨course, s₁, ran, followed⟩ := course_of_decide read decided
  rw [course_play answer s h wf named] at ran
  rcases found : (h.configOf ns).play answer s with ⟨e | config?, s₂⟩
  · rw [found] at ran
    cases ran
  · rw [found] at ran
    cases ran
    obtain ⟨config, pod', rfl, change⟩ := follow_change wf followed changed
    exact ⟨ns, config, pod', s₁, decoded, named, found, change⟩

end Handle

end Handler

end PodInstrumentation.Admission
