import PodInstrumentation.Proofs.Capability.Outfit
import PodInstrumentation.Proofs.Capability.Telling
import PodInstrumentation.Proofs.Secret.Calling
/-!
The calls of injections. Each capability that a pod wants is prepared by calls and then makes its
change, one capability after the other. -/
namespace PodInstrumentation

open Edit (apply_bind_eq_ok apply_look_eq_ok)

/- What a pod says about capabilities stays while they are injected. -/

namespace Pod

variable {pod pod' : Json}

theorem annotations_appendVolumes {volumes : List Json} (h : appendVolumes volumes pod = .ok pod') :
    annotations pod' = annotations pod := by
  simp only [annotations, Json.part, field_changePart h (by decide : "metadata" ≠ "spec")]

theorem annotations_putContainers (cs : List Json) (pod : Json) :
    annotations (putContainers cs pod) = annotations pod := by
  have other : "metadata" ≠ "spec" := by decide
  unfold putContainers
  split
  · split
    · split
      · simp only [annotations, Json.part, Json.field, Fields.lookup_put_of_ne other]
      · rfl
    · rfl
  · rfl

theorem annotations_annotate {key value : String} (h : annotate key value pod = .ok pod') :
    ∃ fs, annotations pod = .ok (.obj fs) ∧
      annotations pod' = .ok (.obj (Fields.put key (.str value) fs)) := by
  cases pod with
  | obj fs =>
    obtain ⟨m, changed, written⟩ := bind_eq_ok_iff.mp h
    cases written
    have before : annotations (.obj fs) =
        ((((fs.lookup "metadata").getD .empty).orElse .empty).part "annotations") := by
      simp only [annotations, Json.part, Json.field, ok_bind]
      cases fs.lookup "metadata" <;> rfl
    have after : annotations (.obj (Fields.put "metadata" m fs)) =
        (m.orElse .empty).part "annotations" := by
      simp only [annotations, Json.part, Json.field, Fields.lookup_put_self]
      rfl
    rw [before, after]
    generalize (fs.lookup "metadata").getD .empty = metadata at changed
    cases metadata with
    | obj ms =>
      obtain ⟨given, extended, written⟩ := bind_eq_ok_iff.mp changed
      cases written
      simp only [Json.obj_orElse, Json.part, Json.field, Fields.lookup_put_self]
      generalize (ms.lookup "annotations").getD .null = values at extended
      cases values with
      | null =>
        cases extended
        exact ⟨[], rfl, rfl⟩
      | obj as =>
        cases extended
        exact ⟨as, congrArg Except.ok (Json.obj_orElse as), congrArg Except.ok (Json.obj_orElse _)⟩
      | bool | int | float | str | arr => cases extended
    | null | bool | int | float | str | arr => cases changed
  | null | bool | int | float | str | arr => cases h

theorem flag_annotate {key value other : String} (h : annotate key value pod = .ok pod')
    (apart : other ≠ key) (absent : Bool) : flag pod' other absent = flag pod other absent := by
  obtain ⟨fs, before, after⟩ := annotations_annotate h
  simp only [flag, flag?, before, after, ok_bind, setting_obj, Fields.lookup_put_of_ne apart]

end Pod

open Pod

namespace Capability

theorem enabled_of_annotations {pod pod' : Json} (same : annotations pod' = annotations pod)
    (c : Capability) : c.enabled pod' = c.enabled pod := by
  cases c <;> simp only [enabled, flag, same]

/-- Additions leave a mark on the pod, which asks for nothing. -/
theorem enabled_edited {a : Additions} {c : Capability} (apart : c.request ≠ a.mark) {d d' : Draft}
    {u : Unit} (ran : a.edit.apply d = (.ok u, d')) : c.enabled d'.pod = c.enabled d.pod := by
  obtain ⟨_, d₁, volumes, ran₁⟩ := apply_bind_eq_ok ran
  obtain ⟨_, d₂, vars, ran₂⟩ := apply_bind_eq_ok ran₁
  obtain ⟨_, d₃, mounts, ran₃⟩ := apply_bind_eq_ok ran₂
  obtain ⟨n, d₄, each, ran₄⟩ := apply_bind_eq_ok ran₃
  obtain ⟨added, -⟩ := Draft.onPod_eq_ok volumes
  obtain ⟨same₂, -⟩ := Draft.onInstaller_eq_ok vars
  obtain ⟨same₃, -⟩ := Draft.onInstaller_eq_ok mounts
  obtain ⟨cs, cs', -, -, put⟩ := Draft.eachContainer_eq_ok each
  obtain ⟨marked, -⟩ := Draft.onPod_eq_ok ran₄
  have before : annotations d₄.pod = annotations d.pod := by
    rw [put, annotations_putContainers, same₃, same₂, annotations_appendVolumes added]
  rw [← enabled_of_annotations before c]
  cases c with
  | agent => exact flag_annotate marked apart true
  | enrichment => exact flag_annotate marked apart true

end Capability

section Injection

variable {j : Injector} {config : MonitoringConfig} {ns : String} {t : List Exchange}

namespace Capability

theorem prepare_backed {c : Capability} {pod : Json} {r : Except Fault (Edit Draft Unit)}
    (h : (c.prepare j config ns pod).Transcript t r) : Justified (Backed ns) t := by
  cases c with
  | agent =>
    rcases h.bind with ⟨e, failed, -⟩ | ⟨u, t₁, t₂, rfl, ensured, rfl, -⟩
    · exact Provisioner.ensure_backed failed
    · rw [List.append_nil]
      exact Provisioner.ensure_backed ensured
  | enrichment =>
    rcases h.bind with ⟨e, failed, -⟩ | ⟨u, t₁, t₂, rfl, ensured, rest⟩
    · exact Provisioner.ensure_backed failed
    refine Backed.append (Provisioner.ensure_backed ensured) ?_
    rcases rest.bind with ⟨e, failed, -⟩ | ⟨u', t₃, t₄, rfl, ensured', rest'⟩
    · exact Provisioner.ensure_backed failed
    refine Backed.append (Provisioner.ensure_backed ensured') ?_
    have owners : ∀ e ∈ t₄, e.call.kind ∈ [ApiCall.Kind.object] :=
      rest'.kind_mem (.bind (OwnerChain.asks_workload j ns pod) fun _ => .pure _)
    exact .of_forall fun e among => .of_kind fun kind => by
      have object := owners e among
      rw [kind] at object
      cases List.mem_singleton.mp object

theorem enabled_prepared {c : Capability} {pod : Json} {edit : Edit Draft Unit}
    (h : (c.prepare j config ns pod).Transcript t (.ok edit)) {d d' : Draft} {u : Unit}
    (ran : edit.apply d = (.ok u, d')) (k : Capability) : k.enabled d'.pod = k.enabled d.pod := by
  cases c with
  | agent =>
    obtain ⟨_, _, _, rfl, _, _, prepared⟩ := h.bind_ok
    cases prepared
    obtain ⟨info, d₁, looked, edited⟩ := apply_bind_eq_ok ran
    rw [(apply_look_eq_ok looked).2] at edited
    exact enabled_edited (a := Agent.additions j config info) (mark_ne agent k).1 edited
  | enrichment =>
    obtain ⟨_, _, _, rfl, _, rest⟩ := h.bind_ok
    obtain ⟨_, _, _, rfl, _, rest'⟩ := rest.bind_ok
    obtain ⟨workload, _, _, rfl, _, _, prepared⟩ := rest'.bind_ok
    cases prepared
    exact enabled_edited (a := Enrichment.additions j config workload) (mark_ne enrichment k).1 ran

theorem wanted_cons {c : Capability} {cs ds : List Capability} {pod : Json} {b : Bool}
    (first : c.enabled pod = .ok b) (rest : wanted pod cs = .ok ds) :
    wanted pod (c :: cs) = .ok (if b then c :: ds else ds) := by
  rw [wanted, first, rest]
  rfl

theorem wanted_of_enabled {pod pod' : Json}
    (same : ∀ c : Capability, c.enabled pod' = c.enabled pod) (cs : List Capability) :
    wanted pod' cs = wanted pod cs := by
  induction cs with
  | nil => rfl
  | cons c cs ih => rw [wanted, same, ih, wanted]

end Capability

inductive Completed (j : Injector) (config : MonitoringConfig) (ns : String) :
    List Capability → Draft → List Exchange → Draft → Prop
  | nil (d : Draft) : Completed j config ns [] d [] d
  | cons {c : Capability} {cs : List Capability} {d d₁ d' : Draft} {edit : Edit Draft Unit}
      {t t' : List Exchange} (prepared : (c.prepare j config ns d.pod).Transcript t (.ok edit))
      (changed : edit.apply d = (.ok (), d₁)) (rest : Completed j config ns cs d₁ t' d') :
      Completed j config ns (c :: cs) d (t ++ t') d'

inductive InjectedFirst (j : Injector) (config : MonitoringConfig) (ns : String) (c : Capability)
    (cs : List Capability) (d d' : Draft) : List Exchange → Except Fault (List String) → Prop
  | failed (e : Fault) : InjectedFirst j config ns c cs d d' [] (.error e)
  | unwanted {t : List Exchange} {r : Except Fault (List String)}
      (enabled : c.enabled d.pod = .ok false)
      (rest : (inject j config ns cs d).Transcript t (r, d')) :
      InjectedFirst j config ns c cs d d' t r
  | stopped {t : List Exchange} {prepared : Except Fault (Edit Draft Unit)}
      (asked : (c.prepare j config ns d.pod).Transcript t prepared) (e : Fault) :
      InjectedFirst j config ns c cs d d' t (.error e)
  | changed {d₁ : Draft} {edit : Edit Draft Unit} {t t' : List Exchange}
      {r : Except Fault (List String)} (enabled : c.enabled d.pod = .ok true)
      (asked : (c.prepare j config ns d.pod).Transcript t (.ok edit))
      (applied : edit.apply d = (.ok (), d₁))
      (rest : (inject j config ns cs d₁).Transcript t' (r, d')) :
      InjectedFirst j config ns c cs d d' (t ++ t') (r.map (c.name :: ·))

theorem inject_cons_calls {c : Capability} {cs : List Capability} {d d' : Draft}
    {r : Except Fault (List String)} (h : (inject j config ns (c :: cs) d).Transcript t (r, d')) :
    InjectedFirst j config ns c cs d d' t r := by
  unfold inject at h
  cases enabled : c.enabled d.pod with
  | error e =>
    rw [enabled] at h
    obtain ⟨rfl, same⟩ := h
    cases same
    exact .failed _
  | ok wanted =>
    rw [enabled] at h
    cases wanted with
    | false => exact .unwanted enabled h
    | true =>
      obtain ⟨t₁, prepared, t₂, rfl, asked, rest⟩ := Interaction.Transcript.bind h
      cases prepared with
      | error e =>
        obtain ⟨rfl, same⟩ := rest
        cases same
        rw [List.append_nil]
        exact .stopped asked e
      | ok edit =>
        rcases applied : edit.apply d with ⟨result, d₁⟩
        simp only [applied] at rest
        cases result with
        | error e =>
          obtain ⟨rfl, same⟩ := rest
          cases same
          rw [List.append_nil]
          exact .stopped asked _
        | ok u =>
          obtain ⟨t₃, ⟨r', d''⟩, t₄, rfl, injected, rfl, same⟩ := Interaction.Transcript.bind rest
          cases same
          rw [List.append_nil]
          exact .changed enabled asked applied injected

/-- Injections create support secrets at most, and those that come to an end are complete. -/
theorem inject_calls {cs : List Capability} {d d' : Draft} {r : Except Fault (List String)}
    (h : (inject j config ns cs d).Transcript t (r, d')) : Justified (Backed ns) t ∧
      ∀ names, r = .ok names → ∃ ds, Capability.wanted d.pod cs = .ok ds ∧
        Completed j config ns ds d t d' := by
  induction cs generalizing d t r with
  | nil =>
    obtain ⟨rfl, same⟩ := h
    cases same
    exact ⟨.nil, fun _ _ => ⟨[], rfl, .nil _⟩⟩
  | cons c cs ih =>
    cases inject_cons_calls h with
    | failed e => exact ⟨.nil, nofun⟩
    | unwanted enabled rest =>
      obtain ⟨backed, complete⟩ := ih rest
      refine ⟨backed, fun names ok => ?_⟩
      obtain ⟨ds, wants, completed⟩ := complete names ok
      exact ⟨ds, Capability.wanted_cons enabled wants, completed⟩
    | stopped asked e => exact ⟨Capability.prepare_backed asked, nofun⟩
    | @changed d₁ edit _ _ r enabled asked applied rest =>
      obtain ⟨backed, complete⟩ := ih rest
      refine ⟨Backed.append (Capability.prepare_backed asked) backed, fun names ok => ?_⟩
      cases r with
      | error e => cases ok
      | ok names' =>
        obtain ⟨ds, wants, completed⟩ := complete names' rfl
        -- What is wanted of the pod after the change was wanted of it before.
        rw [Capability.wanted_of_enabled (Capability.enabled_prepared asked applied) cs] at wants
        exact ⟨c :: ds, Capability.wanted_cons enabled wants, .cons asked applied completed⟩

end Injection

end PodInstrumentation
