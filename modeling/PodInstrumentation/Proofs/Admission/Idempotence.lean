import PodInstrumentation.Proofs.Admission.Deciding
/-!
Admissions of pods that were admitted before. A pod that was patched carries the marker and every
container of it has what the pod wants and carries, so that the next admission finds nothing to do;
this survives the patch, since names of entries are what is looked for. -/
namespace PodInstrumentation.Admission

open Pod

namespace Handler

/-- A pod to which nothing is to be done: it is marked, and no container lacks a capability. -/
structure Complete (h : Handler) (pod : Json) : Prop where
  wellFormed : WellFormed pod
  marked : marked pod = true
  containers : ∀ x ∈ containerList pod, Capability.lacking pod (h.wanted pod) x = []

section Change

variable {h : Handler} {ns : String} {config : MonitoringConfig} {pod pod' : Json}

theorem Change.rewritten (nodup : h.capabilities.Nodup) (wf : WellFormed pod)
    (change : h.Change ns config pod pod') :
    ∃ (given : Json → List Capability) (inits : List Json → List Json) (volumes : List Json)
      (marks : List String),
      Rewritten (fun x => Capability.dress h.injector config (Agent.installPath pod) (given x) x)
        inits volumes marks pod pod' ∧
      (∀ c : Capability, c.request ∉ marks) ∧ Pod.marked pod' = true ∧
      ∀ x ∈ containerList pod, ∀ c ∈ h.wanted pod, c.carries pod' = true →
        c.has x = true ∨ c ∈ given x := by
  cases change with
  | fresh unmarked wanted run =>
    obtain ⟨installer, _, first⟩ := injectedPod_ok nodup wf run
    exact ⟨fun _ => h.wanted pod, _, _, _, first, h.request_notMem_marks pod,
      marked_of_marks first, fun x _ c hc _ => .inr hc⟩
  | repair marked some run =>
    obtain ⟨pod₁, xs, repaired, first, _⟩ := repair_ok h.injector config nodup wf told_isContainer
      fun x hx _ => wf.isInitContainer x hx
    cases repaired.symm.trans run
    refine ⟨Capability.lacking pod (h.wanted pod), _, _, _, first, by simp, ?_, ?_⟩
    · rw [← marked, Pod.marked, Pod.marked, annotationText_eq first (by simp)]
    · intro x hx c hc carried
      have same : c.carries pod' = c.carries pod := by
        rw [Capability.carries, Capability.carries, annotationText_eq first (by simp)]
      rw [same] at carried
      cases has : c.has x with
      | true => exact .inl rfl
      | false => exact .inr (List.mem_filter.mpr ⟨hc, by simp [carried, has]⟩)

theorem Change.complete (nodup : h.capabilities.Nodup) (wf : WellFormed pod)
    (distinct : pod.Distinct) (change : h.Change ns config pod pod') :
    Frame pod (Json.merge pod pod') ∧ h.Complete (Json.merge pod pod') := by
  obtain ⟨given, inits, volumes, marks, rewritten, wishes, marked, given_of⟩ :=
    change.rewritten nodup wf
  have merged := rewritten.merge distinct wf
  have annotations := annotation?_merge wf rewritten.wellFormed
  have carries := Capability.carries_congr annotations
  have wanted : h.wanted (Json.merge pod pod') = h.wanted pod := by
    rw [wanted, wants_eq merged wishes, Handler.wanted]
  refine ⟨merged.frame, merged.wellFormed, ?_, ?_⟩
  · exact (marked_congr annotations).trans marked
  · intro y hy
    rw [merged.containers] at hy
    obtain ⟨x, hx, rfl⟩ := List.mem_map.mp hy
    obtain ⟨vs, equipped⟩ := Capability.equipped_dress h.injector config
      (Agent.installPath pod) (wf.isContainer x hx) (given x)
    refine List.filter_eq_nil_iff.mpr fun c hc => ?_
    rw [wanted] at hc
    rw [carries,
      Capability.has_merge ((distinct.get _).itemsAt _ x hx) (wf.isContainer x hx) equipped,
      Capability.has_dress _ _ _ (wf.isContainer x hx)]
    cases carried : c.carries pod' with
    | false => simp
    | true => rcases given_of x hx c hc carried with has | gets <;> simp [*]

end Change

theorem repair_of_complete {h : Handler} (nodup : h.capabilities.Nodup) {pod : Json}
    (complete : h.Complete pod) (config : MonitoringConfig) :
    ∃ pod', PodInstrumentation.repair h.injector config h.capabilities pod = (.ok 0, pod') := by
  have wf := complete.wellFormed
  obtain ⟨pod', _, repaired, _⟩ := repair_ok h.injector config nodup wf told_isContainer
    fun x hx _ => wf.isInitContainer x hx
  have none : (containerList pod).countP (fun x =>
      !(Capability.lacking pod (h.capabilities.filter (Capability.wants pod)) x).isEmpty) = 0 := by
    refine List.countP_eq_zero.mpr fun x hx => ?_
    have full : Capability.lacking pod (h.capabilities.filter (Capability.wants pod)) x = [] :=
      complete.containers x hx
    simp [full]
  exact ⟨pod', by rw [repaired, none]⟩

theorem podName_ok {request : Request} {pod : Json} (wf : WellFormed pod)
    (decoded : decode request.object = .ok pod) : ∃ name, podName request = .ok name := by
  cases named : podName request with
  | ok name => exact ⟨name, rfl⟩
  | error e =>
    obtain ⟨_, decoded', _, none⟩ := (podName_eq_error_iff request).mp ⟨e, named⟩
    cases decoded.symm.trans decoded'
    obtain ⟨fs, fields⟩ := wf.metadata.eq_obj
    rw [show pod.get "metadata" = .obj fs from fields] at none
    cases none

section Complete

variable {σ : Type} {answer : σ → (c : ApiCall) → Except Failure c.Answer × σ} {s s' : σ}
  {h : Handler} {request : Request} {pod : Json} {ns : String} {config : MonitoringConfig}

theorem decide_of_complete (nodup : h.capabilities.Nodup) (complete : h.Complete pod)
    (decoded : decode request.object = .ok pod) (named : namespaceOf request pod = .ok ns)
    (found : (h.configOf ns).play answer s = (.ok (some config), s')) :
    (h.decide request).run answer s = ((0, .ok ([], .skipped)), s') := by
  have courses := course_play answer s h complete.wellFormed named
  rw [found] at courses
  obtain ⟨pod', repaired⟩ := repair_of_complete nodup complete config
  unfold decide
  rw [decoded]
  refine (Interaction.run_then courses _).trans ?_
  simp only [courseBy, complete.marked, if_true]
  split
  · simp only [follow, repaired]
    rfl
  · rfl

theorem handle_of_complete (nodup : h.capabilities.Nodup) (complete : h.Complete pod)
    (decoded : decode request.object = .ok pod) (named : namespaceOf request pod = .ok ns)
    (found : (h.configOf ns).play answer s = (.ok (some config), s')) (deadline : Option Seconds) :
    ∃ report s', (h.handle request deadline).run answer s = (.ok report, s') ∧
      report.verdict.patch = [] ∧ report.verdict.message = none := by
  obtain ⟨name, called⟩ := podName_ok complete.wellFormed decoded
  refine ⟨_, _, handle_run answer s h request deadline called, ?_⟩
  rw [decide_of_complete nodup complete decoded named found]
  dsimp only
  split <;> exact ⟨rfl, rfl⟩

end Complete

/-- A pod that was patched, for the first time or in a repair, is left alone from then on: the next
admission sends an empty patch and no message. -/
theorem patched_then_unchanged {σ τ : Type}
    {answer : σ → (c : ApiCall) → Except Failure c.Answer × σ} {s s' : σ}
    {answer' : τ → (c : ApiCall) → Except Failure c.Answer × τ} {t : τ} (h : Handler)
    (nodup : h.capabilities.Nodup) {request : Request} (deadline deadline' : Option Seconds)
    {pod : Json} (read : Json.ofBytes request.object = .ok pod) (wf : WellFormed pod)
    {report : Report} (first : (h.handle request deadline).run answer s = (.ok report, s'))
    (changed : report.verdict.patch ≠ []) (same : SameSettings answer s answer' t) :
    ∃ pod', Patch.apply report.verdict.patch pod = some pod' ∧
      ∀ object, Json.ofBytes object = .ok pod' → ∃ report' t',
        (h.handle { request with object } deadline').run answer' t = (.ok report', t') ∧
        report'.verdict.patch = [] ∧ report'.verdict.message = none := by
  have distinct := Json.distinct_ofBytes read
  obtain ⟨ns, config, pod', _, decoded, named, found, change, patch⟩ :=
    handle_change wf read first changed
  obtain ⟨frame, complete⟩ := change.complete nodup wf distinct
  refine ⟨Json.merge pod pod', by rw [patch, Json.apply_between distinct], fun object reread => ?_⟩
  obtain ⟨_, found'⟩ := configOf_again found same
  refine handle_of_complete nodup complete ?_ ?_ found' deadline'
  · obtain ⟨-, -, kind⟩ := decode_eq_ok_iff.mp decoded
    refine decode_eq_ok_iff.mpr ⟨reread, complete.wellFormed.object.eq_obj, ?_⟩
    rw [frame.top "kind" (by decide) (by decide), kind]
  · rw [← named, namespaceOf_ok wf, namespaceOf_ok complete.wellFormed,
      frame.metadata "namespace" (by decide)]

end Handler

theorem serve_settings (s : Store) (c : ApiCall) :
    (s.serve c).2.namespaces = s.namespaces ∧ (s.serve c).2.configs = s.configs := by
  cases c with
  | createSecret m =>
    simp only [Store.serve]
    split <;> exact ⟨rfl, rfl⟩
  | createEvent e =>
    simp only [Store.serve]
    split <;> exact ⟨rfl, rfl⟩
  | readNamespace | readConfig | readSecret | readObject | readPod => exact ⟨rfl, rfl⟩

theorem run_settings {α : Type} (x : Interaction α) (s : Store) :
    (x.run Store.answer s).2.namespaces = s.namespaces ∧
      (x.run Store.answer s).2.configs = s.configs := by
  induction x generalizing s with
  | done a => exact ⟨rfl, rfl⟩
  | call c next ih =>
    have asked := serve_settings { s with calls := s.calls ++ [c] } c
    have rest := ih (Store.answer s c).1 (Store.answer s c).2
    exact ⟨rest.1.trans asked.1, rest.2.trans asked.2⟩

/-- No admission changes the settings. -/
theorem sameSettings_run {α : Type} (x : Interaction α) (s : Store) :
    Handler.SameSettings Store.answer s Store.answer (x.run Store.answer s).2 where
  namespaces ns := congrArg (Store.find · ns) (run_settings x s).1
  configs _ name operatorNs :=
    congrArg (Store.find · (Store.slot operatorNs name)) (run_settings x s).2

def shop : Store :=
  { Store.empty with
    namespaces := [("shop", .ok ⟨some ([(Names.instanceLabel, "prod")], none)⟩)]
    configs := [("monitoring/prod", .ok (.obj [
      ("metadata", .obj [("annotations", .obj [(Names.reinvocationFeature, .str "true")])]),
      ("spec", .obj [
        ("apiUrl", .str "https://agents"),
        ("agent", .obj [("applicationMonitoring", .empty)])])]))]
    secrets := [("shop/agent-injection-config", .ok ⟨[]⟩),
      ("shop/agent-enrichment-endpoint", .ok ⟨[]⟩)] }

def web : Json := .obj [
  ("metadata", .obj [("name", .str "web")]),
  ("spec", .obj [("containers", .arr [.obj [("name", .str "app")]])])]

theorem isContainer_app : IsContainer (.obj [("name", .str "app")]) :=
  ⟨.intro (by simp), ⟨.inl rfl, by simp [Json.itemsAt, Json.get, Json.get?, Json.items?]⟩,
    .inl rfl, by simp [Json.itemsAt, Json.get, Json.get?, Json.items?]⟩

theorem wellFormed_web : WellFormed web where
  object := .intro (by simp)
  metadata := .intro (by simp)
  annotations := .inl rfl
  spec := .intro (by simp)
  containers := ⟨.inr ⟨_, rfl⟩, fun c hc => by
    rw [List.mem_singleton.mp hc]
    exact .intro (by simp)⟩
  isContainer c hc := by
    rw [List.mem_singleton.mp hc]
    exact isContainer_app
  initContainers := ⟨.inl rfl, nofun⟩
  isInitContainer := nofun
  volumes := ⟨.inl rfl, nofun⟩

def admissionOf (pod : Json) : Request where
  uid := "u1"
  ns := "shop"
  name := ""
  operation := "CREATE"
  dryRun := false
  object := objectBytes pod

theorem patched_shop (pod : Json)
    (checked : (match (someHandler.handle (admissionOf pod) none).run Store.answer shop with
      | (.ok report, _) => !report.verdict.patch.isEmpty
      | (.error _, _) => false) = true) : ∃ report s',
    (someHandler.handle (admissionOf pod) none).run Store.answer shop = (.ok report, s') ∧
      report.verdict.patch ≠ [] := by
  rcases ran : (someHandler.handle (admissionOf pod) none).run Store.answer shop with ⟨r, s'⟩
  rw [ran] at checked
  cases r with
  | error e => cases checked
  | ok report => exact ⟨report, s', rfl, by simpa using checked⟩

theorem unchanged_web : ∃ report pod' s',
    (someHandler.handle (admissionOf web) none).run Store.answer shop = (.ok report, s') ∧
      report.verdict.patch ≠ [] ∧ Patch.apply report.verdict.patch web = some pod' ∧
      ∀ object, Json.ofBytes object = .ok pod' → ∃ report' t',
        (someHandler.handle { admissionOf web with object } none).run Store.answer s' =
          (.ok report', t') ∧
        report'.verdict.patch = [] ∧ report'.verdict.message = none := by
  obtain ⟨report, s', ran, changed⟩ := patched_shop web (by decide +kernel)
  have read : Json.ofBytes (admissionOf web).object = .ok web := by decide +kernel
  have same := sameSettings_run (someHandler.handle (admissionOf web) none) shop
  rw [ran] at same
  obtain ⟨pod', applied, again⟩ := Handler.patched_then_unchanged someHandler (by decide) none none
    read wellFormed_web ran changed same
  exact ⟨report, pod', s', ran, changed, applied, again⟩

end PodInstrumentation.Admission
