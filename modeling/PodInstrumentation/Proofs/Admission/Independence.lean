import PodInstrumentation.Proofs.Admission.Additive
import PodInstrumentation.Proofs.Admission.Pairing
import PodInstrumentation.Proofs.Secret.Ensuring
/-!
Requests one after the other. All that an admission leaves behind and a later one looks at are
secrets it provided. As these do not show in the answers, each request is answered as if it were the
only one. -/
namespace PodInstrumentation.Admission

def Handler.handleAll (h : Handler) (deadline : Option Seconds) :
    List Request → Interaction (List (Shaped Report))
  | [] => return []
  | r :: rs => do
    let report ← h.handle r deadline
    return report :: (← h.handleAll deadline rs)

def Assigned (h : Handler) (s : Store) (ns : String) (config : MonitoringConfig) : Prop :=
  ((h.configOf ns).play Store.answer s).1 = .ok (some config)

theorem Assigned.namespace {h : Handler} {s : Store} {ns : String} {config : MonitoringConfig}
    (is : Assigned h s ns config) : ∃ n, Store.find s.namespaces ns = .ok n := by
  cases found : Store.find s.namespaces ns with
  | ok n => exact ⟨n, rfl⟩
  | error f =>
    have asked : (Store.answer s (.readNamespace ns)).1 = .error f := found
    unfold Assigned Handler.configOf Handler.configName at is
    rw [Attempt.play_bind, Attempt.play_bind_ok (Attempt.play_ask _ _), asked] at is
    cases refused : f.isClusterError with
    | true =>
      simp only [refused, if_true] at is
      cases is
    | false =>
      simp only [refused] at is
      cases is

/-- No secret that a configuration names is one that is provided in a namespace. -/
def SourcesApart (h : Handler) (s : Store) : Prop :=
  ∀ ns config ns' config', Assigned h s ns config → Assigned h s ns' config' →
    ∀ name ∈ config.sources, ∀ which : SupportSecret,
      Store.slot h.injector.provisioner.ns name ≠ Store.slot ns' which.name

abbrev BothAfter (h : Handler) (s : Store) : Store → Store → Prop :=
  BothProvisioned h.injector.provisioner (Assigned h s) s

theorem Counterparts.eq {pod : Json} {a b : Report} (h : Counterparts Eq pod a b) : b = a := by
  have patches : b.verdict.patch = a.verdict.patch := by
    rcases h.patches with same | ⟨p, _, rfl, first, second⟩
    · exact same
    · rw [first, second]
  rw [h.same, patches]

namespace Handler

variable {h : Handler} {s : Store}

theorem separate_of_apart (apart : SourcesApart h s) :
    Separate h.injector.provisioner (Assigned h s) where
  unique is is' := Option.some.inj (Except.ok.inj (is'.symm.trans is))
  apart is is' named which := apart _ _ _ _ is is' _ named which

theorem asks_configOf (ns : String) : (h.configOf ns).Asks [.space, .config, .event] := by
  unfold configOf
  refine .bind ((asks_configName ns).mono (by decide)) fun name => ?_
  split
  · exact .pure _
  · refine .bind ((h.asks_readConfig ns name).mono (by decide)) fun config => ?_
    split <;> exact .pure _

theorem assigned_of_provisioned {a a' : Store} {ns : String} {config : MonitoringConfig}
    (h' : Provisioned h.injector.provisioner (Assigned h s) s a)
    (read : (h.configOf ns).play Store.answer a = (.ok (some config), a')) :
    Assigned h s ns config := by
  have alike := Attempt.Paired.of_asks (R := BothAfter h s) (alikeOn_provisioned _ _ _)
    ((h.asks_configOf ns).mono (by decide))
  obtain ⟨agree, _⟩ := alike.play ⟨.refl h.injector.provisioner (Assigned h s) s, h'⟩
  rw [read] at agree
  exact agree.eq.symm

theorem course_alike (request : Request) (pod : Json) :
    Attempt.Paired Store.answer Store.answer (BothAfter h s)
      (fun c c' => c' = c ∧ ∀ ns config, c = .inject ns config → Assigned h s ns config)
      (h.course request pod) (h.course request pod) := by
  have alike := Attempt.Paired.of_asks (R := BothAfter h s) (alikeOn_provisioned _ _ _)
    ((h.asks_course request pod).mono (by decide))
  refine alike.and_left fun {a b course a'} both ran ns config is => ?_
  subst is
  obtain ⟨_, _, _, _, read, ⟨is, _⟩ | ⟨is, _⟩⟩ := course_eq_ok ran nofun
  · cases is
    exact assigned_of_provisioned both.1 read
  · cases is

theorem injectedPod_alike (apart : SourcesApart h s) {ns : String} {config : MonitoringConfig}
    (is : Assigned h s ns config) (pod : Json) :
    Attempt.Paired Store.answer Store.answer (BothAfter h s) Eq
      (h.injectedPod ns config pod) (h.injectedPod ns config pod) := by
  refine injectedPod_paired (D := Eq) (fun _ _ _ _ => rfl) (fun _ _ same => same ▸ rfl) ?_ ?_
  · rintro c d _ rfl
    have ensured := ensure_paired (s := s) (separate_of_apart apart) is
    have workload := Attempt.Paired.of_asks (R := BothAfter h s) (alikeOn_provisioned _ _ _)
      ((OwnerChain.asks_workload h.injector ns d.pod).mono (by decide))
    refine Capability.prepare_paired ensured workload (.of_eq _) ?_ c
    rintro w _ rfl
    exact .of_eq _
  · rintro d _ rfl
    exact .of_eq fun _ => rfl

theorem decide_alike (apart : SourcesApart h s) (request : Request) :
    ∃ pod, Interaction.Paired Store.answer Store.answer (BothAfter h s) (SameDecision Eq pod)
      (h.decide request) (h.decide request) := by
  cases decoded : decode request.object with
  | error e => exact ⟨.null, decide_paired_of_undecoded decoded⟩
  | ok pod =>
    have events : AlikeOn Store.answer Store.answer (BothAfter h s) [.event] :=
      (alikeOn_provisioned _ _ _).mono (by decide)
    have metadata : ∀ p p' : Json, p = p' → p'.field "metadata" = p.field "metadata" :=
      fun _ _ same => same ▸ rfl
    exact ⟨pod, decide_paired events metadata decoded (course_alike request pod)
      fun ns config is => injectedPod_alike apart (is ns config rfl) pod⟩

/-- A request is answered alike by two clusters on which secrets were provided. -/
theorem handle_alike (apart : SourcesApart h s) (request : Request) (deadline : Option Seconds) :
    Interaction.Paired Store.answer Store.answer (BothAfter h s) (fun r r' => r' = r)
      (h.handle request deadline) (h.handle request deadline) := by
  cases named : podName request with
  | error e =>
    unfold handle
    rw [named]
    exact .done rfl
  | ok name =>
    obtain ⟨pod, decided⟩ := decide_alike apart request
    exact (handle_paired deadline named decided).mono fun _ _ agree =>
      (agree.mono fun _ _ => (·.eq)).eq

theorem run_handleAll_cons (r : Request) (rs : List Request) (deadline : Option Seconds)
    (t : Store) :
    ((h.handleAll deadline (r :: rs)).run Store.answer t).1 =
      ((h.handle r deadline).run Store.answer t).1 ::
        ((h.handleAll deadline rs).run Store.answer
          ((h.handle r deadline).run Store.answer t).2).1 := by
  have steps : (h.handleAll deadline (r :: rs)).run Store.answer t = _ :=
    Interaction.run_bind Store.answer (h.handle r deadline) _ t
  rw [steps, Interaction.run_then (x := h.handleAll deadline rs) rfl]
  rfl

/-- Each request is answered after the others as it is answered alone. -/
theorem answers_alone (h : Handler) (s : Store) (apart : SourcesApart h s)
    (deadline : Option Seconds) (requests : List Request) :
    ((h.handleAll deadline requests).run Store.answer s).1 =
      requests.map fun r => ((h.handle r deadline).run Store.answer s).1 := by
  -- The requests before may have provided secrets; the induction is for any store left by that.
  suffices from_provided : ∀ t, Provisioned h.injector.provisioner (Assigned h s) s t →
      ((h.handleAll deadline requests).run Store.answer t).1 =
        requests.map fun r => ((h.handle r deadline).run Store.answer s).1 from
    from_provided s (.refl _ _ s)
  induction requests with
  | nil => exact fun _ _ => rfl
  | cons r rs ih =>
    intro t provided
    obtain ⟨same, _, after⟩ := handle_alike apart r deadline s t ⟨.refl _ _ s, provided⟩
    rw [run_handleAll_cons, same, ih _ after]
    rfl

end Handler

def bareShop : Store :=
  { shop with
    configs := [("monitoring/prod", .ok (.obj [
      ("metadata", .obj [("name", .str "prod")]),
      ("spec", .obj [
        ("apiUrl", .str "https://agents"),
        ("agent", .obj [("applicationMonitoring", .empty)])])]))]
    secrets := [("monitoring/prod",
      .ok ⟨[(Names.apiTokenKey, "YXBp"), (Names.ingestTokenKey, "aW5n")]⟩)] }

theorem assigned_bareShop {ns : String} {config : MonitoringConfig}
    (is : Assigned someHandler bareShop ns config) : ns = "shop" ∧ config.sources = ["prod"] := by
  by_cases shop : ns = "shop"
  · subst shop
    have read : ((someHandler.configOf "shop").play Store.answer bareShop).1.toOption.map
        (·.map (·.sources)) = some (some ["prod"]) := by decide +kernel
    rw [is] at read
    exact ⟨rfl, Option.some.inj (Option.some.inj read)⟩
  · have missing : Store.find bareShop.namespaces ns = .error (.status 404 (some "Not Found")) := by
      have other : (ns == "shop") = false := by simpa using shop
      simp only [Store.find, bareShop, Admission.shop, List.lookup_cons, other]
      rfl
    obtain ⟨_, there⟩ := is.namespace
    cases missing.symm.trans there

theorem sourcesApart_bareShop : SourcesApart someHandler bareShop := by
  intro ns config ns' config' is is' name named which
  obtain ⟨rfl, sources⟩ := assigned_bareShop is
  obtain ⟨rfl, _⟩ := assigned_bareShop is'
  rw [sources] at named
  rw [List.mem_singleton.mp named]
  cases which <;> decide +kernel

/-- The first of these requests provides the secrets, and the second one finds them. -/
theorem answers_alone_bareShop : SourcesApart someHandler bareShop ∧
    ((someHandler.handle (admissionOf web) none).run Store.answer bareShop).2.created.length = 2 ∧
    ((someHandler.handleAll none [admissionOf web, admissionOf web]).run Store.answer bareShop).1 =
      [admissionOf web, admissionOf web].map fun r =>
        ((someHandler.handle r none).run Store.answer bareShop).1 :=
  ⟨sourcesApart_bareShop, by decide +kernel,
    Handler.answers_alone someHandler bareShop sourcesApart_bareShop none _⟩

end PodInstrumentation.Admission
