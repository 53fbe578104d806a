import PodInstrumentation.Proofs.Admission.Agreement
import PodInstrumentation.Proofs.Admission.Independence
import PodInstrumentation.Proofs.Capability.Ordering
import PodInstrumentation.Proofs.Secret.Repeating
/-!
Injections of both capabilities, in either order. Both of them need the init secret, and whichever
comes second finds it provided; so the cluster lets both orders through or none, and ends up with
the same secrets. -/
namespace PodInstrumentation

open Pod
open Store (Fuller)

theorem Agent.installerInfo_congr {pod pod' : Json} (wf : WellFormed pod) (wf' : WellFormed pod')
    (same : ∀ key ∈ [Names.flavor, Names.technologies, Names.installPath, Names.installerUrl],
      annotation? pod' key = annotation? pod key) : installerInfo pod' = installerInfo pod := by
  simp only [List.forall_mem_cons] at same
  obtain ⟨flavor, technologies, installPath, installerUrl, -⟩ := same
  simp only [installerInfo, annotations_ok wf, annotations_ok wf', ok_bind,
    setting_ok wf.annotations, setting_ok wf'.annotations, flavor, technologies, installPath,
    installerUrl]

theorem OwnerNode.ofPod_congr {pod pod' : Json} (wf : WellFormed pod) (wf' : WellFormed pod')
    (frame : Frame pod pod') : ofPod pod' = ofPod pod := by
  have kept : ∀ key, key ≠ "annotations" → (metadata pod').get key = (metadata pod).get key :=
    fun key other => congrArg (fun o => o.getD .null) (frame.metadata key other)
  have kind : pod'.get "kind" = pod.get "kind" :=
    congrArg (fun o => o.getD .null) (frame.top "kind" (by decide) (by decide))
  simp only [ofPod, part_ok wf.object wf.metadata, part_ok wf'.object wf'.metadata, ok_bind,
    wf.metadata.field, wf'.metadata.field, wf.object.field, wf'.object.field,
    kept "name" (by decide), kept "generateName" (by decide), kept "ownerReferences" (by decide),
    kind]

theorem Enrichment.workload_congr {pod pod' : Json} (wf : WellFormed pod) (wf' : WellFormed pod')
    (frame : Frame pod pod') (j : Injector) (ns : String) :
    workload j ns pod' = workload j ns pod := by
  rw [workload, OwnerChain.resolvePod, OwnerNode.ofPod_congr wf wf' frame]
  rfl

namespace Capability

variable {j : Injector} {config : MonitoringConfig} {ns : String} {pod pod' x : Json}

theorem prepare_congr (wf : WellFormed pod) (wf' : WellFormed pod') (frame : Frame pod pod')
    (c : Capability) : c.prepare j config ns pod' = c.prepare j config ns pod := by
  cases c with
  | agent => rfl
  | enrichment => rw [prepare, Enrichment.workload_congr wf wf' frame, prepare]

section Prepare

variable {s s₁ s₂ t : Store} {edit : Edit Draft Unit}

theorem prepare_agent_iff : (agent.prepare j config ns pod).play Store.answer s = (.ok edit, s₁) ↔
    (j.provisioner.ensure config ns .init).play Store.answer s = (.ok (), s₁) ∧
      edit = Agent.edit j config := by
  constructor
  · intro h
    obtain ⟨_, _, ensured, h⟩ := Attempt.play_bind_eq_ok h
    cases h
    exact ⟨ensured, rfl⟩
  · rintro ⟨ensured, rfl⟩
    exact Attempt.play_bind_ok ensured _

def afterInit (j : Injector) (config : MonitoringConfig) (ns : String) (pod : Json) :
    Attempt (Edit Draft Unit) := do
  j.provisioner.ensure config ns .endpoint
  let workload ← Enrichment.workload j ns pod
  return (Enrichment.additions j config workload).edit

theorem prepare_enrichment_iff :
    (enrichment.prepare j config ns pod).play Store.answer s = (.ok edit, s₂) ↔
    ∃ s₁, (j.provisioner.ensure config ns .init).play Store.answer s = (.ok (), s₁) ∧
      (afterInit j config ns pod).play Store.answer s₁ = (.ok edit, s₂) := by
  constructor
  · intro h
    obtain ⟨_, s₁, ensured, rest⟩ := Attempt.play_bind_eq_ok h
    exact ⟨s₁, ensured, rest⟩
  · rintro ⟨s₁, ensured, rest⟩
    exact (Attempt.play_bind_ok ensured _).trans rest

theorem asks_afterInit (pod : Json) : (afterInit j config ns pod).Asks [.secret, .object] :=
  .bind ((j.provisioner.asks_ensure config ns .endpoint).mono (by decide)) fun _ =>
    .bind ((OwnerChain.asks_workload j ns pod).mono (by decide)) fun _ => .pure _

theorem afterInit_eq_ok (h : (afterInit j config ns pod).play Store.answer s = (.ok edit, t)) :
    Fuller s t ∧ ∃ workload, edit = (Enrichment.additions j config workload).edit := by
  obtain ⟨_, s₁, ensured, rest⟩ := Attempt.play_bind_eq_ok h
  obtain ⟨workload, s₂, resolved, done⟩ := Attempt.play_bind_eq_ok rest
  cases done
  have kept := Store.forget_run (OwnerChain.asks_workload j ns pod) s₁
  have left : (Interaction.run Store.answer (Enrichment.workload j ns pod).run s₁).2 = t :=
    congrArg Prod.snd resolved
  rw [left] at kept
  exact ⟨(Provisioner.ensure_eq_ok ensured).fuller.congr rfl kept, workload, rfl⟩

theorem agent_last
    (first : (j.provisioner.ensure config ns .init).play Store.answer s = (.ok (), s₁))
    (second : (enrichment.prepare j config ns pod).play Store.answer s₁ = (.ok edit, s₂)) :
    ∃ t₁ t₂, (enrichment.prepare j config ns pod).play Store.answer s = (.ok edit, t₁) ∧
      (j.provisioner.ensure config ns .init).play Store.answer t₁ = (.ok (), t₂) ∧
      t₂.forget = s₂.forget := by
  have provided := Provisioner.ensure_eq_ok first
  obtain ⟨s₁', again, rest⟩ := prepare_enrichment_iff.mp second
  obtain ⟨_, again', kept⟩ := Provisioner.ensure_again_ok provided (.refl s₁)
  cases again.symm.trans again'
  obtain ⟨t₁, rest', same⟩ := Store.play_of_forget (asks_afterInit pod) rest kept.symm
  obtain ⟨t₂, last, kept'⟩ := Provisioner.ensure_again_ok provided (afterInit_eq_ok rest').1
  exact ⟨t₁, t₂, prepare_enrichment_iff.mpr ⟨s₁, first, rest'⟩, last, kept'.trans same⟩

theorem agent_first
    (first : (enrichment.prepare j config ns pod).play Store.answer s = (.ok edit, t)) :
    ∃ s₁ s₂, (j.provisioner.ensure config ns .init).play Store.answer s = (.ok (), s₁) ∧
      (enrichment.prepare j config ns pod).play Store.answer s₁ = (.ok edit, s₂) := by
  obtain ⟨s₁, initial, rest⟩ := prepare_enrichment_iff.mp first
  obtain ⟨s₁', again, kept⟩ :=
    Provisioner.ensure_again_ok (Provisioner.ensure_eq_ok initial) (.refl s₁)
  obtain ⟨s₂, rest', _⟩ := Store.play_of_forget (asks_afterInit pod) rest kept
  exact ⟨s₁, s₂, initial, prepare_enrichment_iff.mpr ⟨s₁', again, rest'⟩⟩

end Prepare

section Pair

variable {σ : Type} {answer : σ → (c : ApiCall) → Except Failure c.Answer × σ} {s s' : σ}

/-- Well-formed pods fail no change, so that an injection is what the cluster lets be prepared. -/
theorem inject_pair_iff (wf : WellFormed pod) (wants : ∀ c : Capability, c.wants pod = true)
    (hx : IsContainer x) (c k : Capability) {d : Draft} :
    (∃ names, (inject j config ns [c, k] ⟨pod, x⟩).run answer s = ((.ok names, d), s')) ↔
    ∃ edit edit' s₁ d₁, (c.prepare j config ns pod).play answer s = (.ok edit, s₁) ∧
      (k.prepare j config ns pod).play answer s₁ = (.ok edit', s') ∧
      edit.apply ⟨pod, x⟩ = (.ok (), d₁) ∧ edit'.apply d₁ = (.ok (), d) := by
  have wanted : c.enabled pod = .ok true := (enabled_ok wf c).trans (congrArg _ (wants c))
  -- The first change leaves the pod as the second capability would have found it.
  have between : ∀ {edit s₁ u d₁}, (c.prepare j config ns pod).play answer s = (.ok edit, s₁) →
      edit.apply ⟨pod, x⟩ = (.ok u, d₁) → k.enabled d₁.pod = .ok true ∧
        k.prepare j config ns d₁.pod = k.prepare j config ns pod := by
    intro edit s₁ u d₁ prepared edited
    obtain ⟨pod', x', applied, rewritten, _⟩ :=
      prepared_rewrites wf prepared hx told_isContainer fun _ given => given.isContainer
    cases applied.symm.trans edited
    refine ⟨?_, prepare_congr wf rewritten.wellFormed rewritten.frame k⟩
    rw [enabled_ok rewritten.wellFormed, wants_eq rewritten fun d => by simpa using (mark_ne c d).1,
      wants]
  constructor
  · rintro ⟨names, run⟩
    rcases inject_cons_eq_ok run with ⟨refused, _⟩ | ⟨_, edit, s₁, u, d₁, _, prepared, edited,
      rest, _⟩
    · cases wanted.symm.trans refused
    · obtain ⟨wanted', same⟩ := between prepared edited
      rcases inject_cons_eq_ok rest with ⟨refused, _⟩ | ⟨_, edit', s₂, u', d₂, _, prepared',
        edited', rest', _⟩
      · cases wanted'.symm.trans refused
      · cases rest'
        exact ⟨edit, edit', s₁, d₁, prepared, same ▸ prepared', edited, edited'⟩
  · rintro ⟨edit, edit', s₁, d₁, prepared, prepared', edited, edited'⟩
    obtain ⟨wanted', same⟩ := between prepared edited
    exact ⟨_, inject_cons_ok wanted prepared edited
      (inject_cons_ok wanted' (same.symm ▸ prepared') edited' rfl)⟩

end Pair

/-- The changes of both capabilities succeed in either order, and with drafts that differ in the
order of lists at most. -/
theorem edits_shuffled (j : Injector) (config : MonitoringConfig) (wf : WellFormed pod)
    (hx : IsContainer x) (workload : Workload) : ∃ d₁ d₂ e₁ e₂ : Draft,
    (Agent.edit j config).apply ⟨pod, x⟩ = (.ok (), d₁) ∧
    (Enrichment.additions j config workload).edit.apply d₁ = (.ok (), d₂) ∧
    (Enrichment.additions j config workload).edit.apply ⟨pod, x⟩ = (.ok (), e₁) ∧
    (Agent.edit j config).apply e₁ = (.ok (), e₂) ∧ d₂.Shuffled e₂ := by
  obtain ⟨info, read, there⟩ := Agent.installerInfo_ok wf
  have agents := gives_agent j config there
  have riches := fun path => gives_enrichment j config path workload
  have longer : Edit.Keeps Longer (Agent.additions j config info).container :=
    Agent.longer_extendContainer config _ _ _
  have longer' : Edit.Keeps Longer (Enrichment.additions j config workload).container :=
    Enrichment.longer_extendContainer config _ _
  obtain ⟨d₁, ran₁, first⟩ := exists_made wf hx agents longer
  obtain ⟨e₁, ran₁', first'⟩ := exists_made wf hx (riches _) longer'
  have path := installPath_eq first.pod (by simpa using (mark_ne agent agent).2.1)
  have path' := installPath_eq first'.pod (by simpa using (mark_ne enrichment enrichment).2.1)
  obtain ⟨d₂, ran₂, second⟩ :=
    exists_made first.pod.wellFormed first.isContainer (riches _) longer'
  obtain ⟨e₂, ran₂', second'⟩ :=
    exists_made first'.pod.wellFormed first'.isContainer (path' ▸ agents) longer
  have reread : Agent.installerInfo e₁.pod = .ok info := by
    refine (Agent.installerInfo_congr wf first'.pod.wellFormed fun key asked => ?_).trans read
    have unmarked : ∀ key ∈ [Names.flavor, Names.technologies, Names.installPath,
        Names.installerUrl], key ∉ [enrichment.mark] := by decide
    rw [first'.pod.annotations, if_neg (unmarked key asked)]
  rw [path] at second
  rw [path'] at second'
  exact ⟨d₁, d₂, e₁, e₂, (agentEdit_apply read).trans ran₁, ran₂, ran₁',
    (agentEdit_apply reread).trans ran₂', made_shuffled wf agents.vars (riches "").vars first second
      first' second'⟩

end Capability

/-- Two injections that both failed, or that both came to an end with drafts that differ in the
order of lists at most and with the same secrets in the cluster. -/
inductive SameInjection : (Except Fault (List String) × Draft) × Store →
    (Except Fault (List String) × Draft) × Store → Prop
  | failed {e e' : Fault} {d d' : Draft} {s s' : Store} :
    SameInjection ((.error e, d), s) ((.error e', d'), s')
  | done {names names' : List String} {d d' : Draft} {s s' : Store} (drafts : d.Shuffled d')
    (secrets : s'.secrets = s.secrets) : SameInjection ((.ok names, d), s) ((.ok names', d'), s')

section Orders

variable (j : Injector) (config : MonitoringConfig) (ns : String) {pod x : Json}
  (wf : WellFormed pod) (wants : ∀ c : Capability, c.wants pod = true) (hx : IsContainer x)
  {s s' : Store} {names : List String} {d : Draft}
include wf wants hx

theorem inject_agent_last
    (run : (inject j config ns [.agent, .enrichment] ⟨pod, x⟩).run Store.answer s =
      ((.ok names, d), s')) : ∃ names' d' t,
    (inject j config ns [.enrichment, .agent] ⟨pod, x⟩).run Store.answer s = ((.ok names', d'), t) ∧
      d.Shuffled d' ∧ t.secrets = s'.secrets := by
  obtain ⟨_, edit, s₁, d₁, prepared, prepared', edited, edited'⟩ :=
    (Capability.inject_pair_iff wf wants hx .agent .enrichment).mp ⟨names, run⟩
  obtain ⟨ensured, rfl⟩ := Capability.prepare_agent_iff.mp prepared
  obtain ⟨t₁, t, first, second, same⟩ := Capability.agent_last ensured prepared'
  obtain ⟨_, _, rest⟩ := Capability.prepare_enrichment_iff.mp prepared'
  obtain ⟨_, workload, rfl⟩ := Capability.afterInit_eq_ok rest
  obtain ⟨_, _, e₁, e, ran₁, ran, ran₁', ran', shuffled⟩ :=
    Capability.edits_shuffled j config wf hx workload
  cases ran₁.symm.trans edited
  cases ran.symm.trans edited'
  obtain ⟨names', run'⟩ := (Capability.inject_pair_iff wf wants hx .enrichment .agent).mpr
    ⟨_, _, t₁, e₁, first, Capability.prepare_agent_iff.mpr ⟨second, rfl⟩, ran₁', ran'⟩
  exact ⟨names', e, t, run', shuffled, Store.secrets_of_forget same⟩

theorem inject_agent_first
    (run : (inject j config ns [.enrichment, .agent] ⟨pod, x⟩).run Store.answer s =
      ((.ok names, d), s')) : ∃ names' d' t,
    (inject j config ns [.agent, .enrichment] ⟨pod, x⟩).run Store.answer s =
      ((.ok names', d'), t) := by
  obtain ⟨edit, _, t₁, e₁, prepared, prepared', edited, edited'⟩ :=
    (Capability.inject_pair_iff wf wants hx .enrichment .agent).mp ⟨names, run⟩
  obtain ⟨_, rfl⟩ := Capability.prepare_agent_iff.mp prepared'
  obtain ⟨s₁, t, first, second⟩ := Capability.agent_first prepared
  obtain ⟨_, _, rest⟩ := Capability.prepare_enrichment_iff.mp prepared
  obtain ⟨_, workload, rfl⟩ := Capability.afterInit_eq_ok rest
  obtain ⟨d₁, d', _, _, ran₁, ran, _⟩ := Capability.edits_shuffled j config wf hx workload
  obtain ⟨names', run'⟩ := (Capability.inject_pair_iff wf wants hx .agent .enrichment).mpr
    ⟨_, _, s₁, d₁, Capability.prepare_agent_iff.mpr ⟨first, rfl⟩, second, ran₁, ran⟩
  exact ⟨names', d', t, run'⟩

/-- Which of the two capabilities is injected first changes nothing but the order of lists. -/
theorem inject_either_order (s : Store) :
    SameInjection ((inject j config ns [.agent, .enrichment] ⟨pod, x⟩).run Store.answer s)
      ((inject j config ns [.enrichment, .agent] ⟨pod, x⟩).run Store.answer s) := by
  rcases one : (inject j config ns [.agent, .enrichment] ⟨pod, x⟩).run Store.answer s with
    ⟨⟨r, d⟩, s₁⟩
  rcases other : (inject j config ns [.enrichment, .agent] ⟨pod, x⟩).run Store.answer s with
    ⟨⟨r', d'⟩, s₂⟩
  cases r with
  | ok names =>
    obtain ⟨names', e, t, run, shuffled, secrets⟩ := inject_agent_last j config ns wf wants hx one
    cases other.symm.trans run
    exact .done shuffled secrets
  | error e =>
    cases r' with
    | error e' => exact .failed
    | ok names' =>
      obtain ⟨names, e, t, run⟩ := inject_agent_first j config ns wf wants hx other
      cases one.symm.trans run

end Orders

namespace Admission

/-- Both orders come to an end where all secrets have to be created first. -/
theorem either_order_web : ∃ names names' d d' s s',
    (inject someHandler.injector prod "shop" [.agent, .enrichment]
      ⟨web, .obj [("name", .str "app")]⟩).run Store.answer bareShop = ((.ok names, d), s) ∧
    (inject someHandler.injector prod "shop" [.enrichment, .agent]
      ⟨web, .obj [("name", .str "app")]⟩).run Store.answer bareShop = ((.ok names', d'), s') ∧
    d.Shuffled d' ∧ s'.secrets = s.secrets ∧ s.secrets.length = 3 := by
  have wants : ∀ c : Capability, c.wants web = true := by
    intro c
    cases c <;> decide +kernel
  have same := inject_either_order someHandler.injector prod "shop" wellFormed_web wants
    isContainer_app bareShop
  have succeeds : ((inject someHandler.injector prod "shop" [.agent, .enrichment]
      ⟨web, .obj [("name", .str "app")]⟩).run Store.answer bareShop).1.1.toOption.isSome = true := by
    decide +kernel
  have created : ((inject someHandler.injector prod "shop" [.agent, .enrichment]
      ⟨web, .obj [("name", .str "app")]⟩).run Store.answer bareShop).2.secrets.length = 3 := by
    decide +kernel
  rcases one : (inject someHandler.injector prod "shop" [.agent, .enrichment]
      ⟨web, .obj [("name", .str "app")]⟩).run Store.answer bareShop with ⟨⟨r, d⟩, s⟩
  rcases other : (inject someHandler.injector prod "shop" [.enrichment, .agent]
      ⟨web, .obj [("name", .str "app")]⟩).run Store.answer bareShop with ⟨⟨r', d'⟩, s'⟩
  rw [one, other] at same
  rw [one] at succeeds created
  cases same with
  | failed => cases succeeds
  | done drafts secrets => exact ⟨_, _, d, d', s, s', rfl, rfl, drafts, secrets, created⟩

end Admission

end PodInstrumentation
