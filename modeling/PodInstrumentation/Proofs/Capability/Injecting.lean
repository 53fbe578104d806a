import PodInstrumentation.Proofs.Capability.Bookkeeping
import PodInstrumentation.Proofs.Capability.Running
/-!
First injections of well-formed pods. One that comes to an end has dressed every container with the
capabilities that the pod wants, in their order, and has added their volumes and marks. -/
namespace PodInstrumentation

open Pod

theorem firstSecurityContext_ok {containers : Json} {context : Fields}
    (h : firstSecurityContext containers = .ok context) :
    context = [] ∨ ∃ v, context = [("securityContext", v)] := by
  unfold firstSecurityContext at h
  split at h
  · cases h
    exact .inl rfl
  · obtain ⟨v, _, h⟩ := bind_eq_ok_iff.mp h
    split at h <;> cases h
    · exact .inr ⟨v, rfl⟩
    · exact .inl rfl
  · cases h

def coreNames : List String :=
  [Names.countVar, Names.failurePolicyVar, Names.podNameVar, Names.podUidVar, Names.basePodNameVar,
    Names.namespaceVar, Names.nodeNameVar]

theorem start_coreNames {v : String} (h : v ∈ coreNames) :
    Names.containerVarStart.toList.isPrefixOf v.toList = false := by
  have all : ∀ v ∈ coreNames, Names.containerVarStart.toList.isPrefixOf v.toList = false := by
    decide
  exact all v h

theorem disjoint_coreNames {c : Capability} {v : String} (h : v ∈ c.installerNames) :
    v ∉ coreNames := by
  have all : ∀ v ∈ c.installerNames, v ∉ coreNames := by cases c <;> decide
  exact all v h

section NewInstaller

variable {pod x : Json} {image : String} {config : MonitoringConfig}

theorem newInstaller_ok (h : newInstaller pod image config = .ok x) :
    x.get "name" = .str Names.installer ∧ IsContainer x ∧
      Entries coreNames (x.itemsAt "env") ∧
      Entries [Names.configVolume] (x.itemsAt "volumeMounts") := by
  simp only [newInstaller, bind_eq_ok_iff] at h
  obtain ⟨cs, _, count, _, policy, _, base, _, context, security, h⟩ := h
  have env : x.get "env" = .arr [envVar Names.countVar (.str (toString count)),
      envVar Names.failurePolicyVar (.str policy), fieldVar Names.podNameVar "metadata.name",
      fieldVar Names.podUidVar "metadata.uid", envVar Names.basePodNameVar (.str base),
      fieldVar Names.namespaceVar "metadata.namespace",
      fieldVar Names.nodeNameVar "spec.nodeName"] := by
    cases h
    rfl
  have mounts : x.get "volumeMounts" = .arr [mount Names.configVolume "/mnt/config"] := by
    cases h
    rfl
  have vars : Entries coreNames (x.itemsAt "env") := by
    rw [Json.itemsAt, env]
    exact ⟨by simp [Json.items?, isObject_envVar, isObject_fieldVar], rfl⟩
  have mounted : Entries [Names.configVolume] (x.itemsAt "volumeMounts") := by
    rw [Json.itemsAt, mounts]
    exact .cons (isObject_mount _ _) rfl .nil
  have object : x.IsObject := by
    cases h
    refine .intro ?_
    rcases firstSecurityContext_ok security with rfl | ⟨v, rfl⟩ <;> split <;> simp
  exact ⟨by cases h; rfl, ⟨object, ⟨.inr ⟨_, env⟩, vars.objects⟩, .inr ⟨_, mounts⟩,
    mounted.objects⟩, vars, mounted⟩

theorem books_coreNames : Books [] coreNames where
  nodup := by decide
  paired n there := absurd rfl (Names.containerImageVar_ne (start_coreNames there) n)
  free _ _ _ := disjoint_coreNames

theorem newInstaller_booked (h : newInstaller pod image config = .ok x) : Booked [] x := by
  obtain ⟨named, isContainer, env, mounts⟩ := newInstaller_ok h
  exact ⟨isContainer, named, ⟨_, env, books_coreNames⟩, _, mounts, by simp⟩

theorem newInstaller_env (h : newInstaller pod image config = .ok x) : ∃ cs count rest,
    containers pod = .ok cs ∧ containerCount cs = .ok count ∧
      x.itemsAt "env" = envVar Names.countVar (.str (toString count)) :: rest := by
  simp only [newInstaller, bind_eq_ok_iff] at h
  obtain ⟨cs, read, count, counted, policy, _, base, _, context, _, h⟩ := h
  cases h
  exact ⟨cs, count, _, read, counted, rfl⟩

theorem containerCount_eq_ok {v : Json} {n : Nat} {xs : List Json}
    (count : containerCount v = .ok n) (read : v.each = .ok xs) : n = xs.length := by
  cases v with
  | arr ys =>
    rw [each_arr] at read
    cases read
    cases count
    rfl
  | obj fs =>
    cases count
    cases fs <;> cases read <;> simp
  | str s =>
    cases count
    unfold Json.each at read
    split at read <;> cases read
    · rw [List.length_map, String.length_toList]
    · rename_i vacant
      simpa [Json.isSet] using vacant
  | null | bool | int | float => cases count

theorem containerCount_of_wellFormed (wf : WellFormed pod) {v : Json} {n : Nat}
    (read : containers pod = .ok v) (count : containerCount v = .ok n) :
    n = (containerList pod).length := by
  refine containerCount_eq_ok count ?_
  rw [← containers_each wf, read]
  rfl

end NewInstaller

namespace Additions

def supply (a : Additions) (x : Json) : Json :=
  equip [] a.installerMounts (equip a.installerVars [] x)

theorem equipped_supply {a : Additions} {x : Json} (hx : IsContainer x) {vs ms : List String}
    (vars : Entries vs a.installerVars) (mounts : Entries ms a.installerMounts) :
    Equipped vs ms x (a.supply x) := by
  have withVars := equipped_equip hx vars .nil
  have both := withVars.trans (equipped_equip withVars.isContainer .nil mounts)
  rwa [List.append_nil, List.nil_append] at both

theorem edit_apply {a : Additions} {pod x : Json} (wf : WellFormed pod) (hx : IsContainer x)
    (volumes : ∀ v ∈ a.volumes, v.IsObject) {vs : List String} (vars : Entries vs a.installerVars)
    (someVars : a.installerVars ≠ []) (someMounts : a.installerMounts ≠ [])
    {p : Json → Prop} (told : Told p) (hp : p (a.supply x)) {f : Json → Json}
    (edits : ∀ c ∈ containerList pod, a.container.apply c = (.ok (), f c))
    (dressed : ∀ c ∈ containerList pod, IsContainer (f c)) :
    ∃ pod' x', a.edit.apply ⟨pod, x⟩ = (.ok (), ⟨pod', x'⟩) ∧
      Rewritten f id a.volumes [a.mark] pod pod' ∧ p x' := by
  obtain ⟨pod₁, appended, first⟩ : ∃ pod₁, appendVolumes a.volumes pod = .ok pod₁ ∧
      Rewritten id id a.volumes [] pod pod₁ :=
    ⟨_, appendVolumes_ok wf _, rewritten_volumes wf volumes⟩
  have same : containerList pod₁ = containerList pod := first.containers.trans (List.map_id _)
  have second : Rewritten f id [] [] pod₁ _ :=
    rewritten_putContainers first.wellFormed (same ▸ dressed)
  have third := rewritten_annotated second.wellFormed a.mark
  have withVars := equipped_equip hx vars .nil
  have mounted : appendMounts a.installerMounts (equip a.installerVars [] x) = .ok (a.supply x) :=
    appendMounts_ok withVars.isContainer someMounts
  have each : ∀ i : Nat, ∀ c ∈ containerList pod₁, ∀ y, p y →
      ∃ y', (do extend a.container (i + 1); return true : Edit Site Bool).apply ⟨c, y⟩ =
        (.ok true, ⟨f c, y'⟩) ∧ p y' := by
    intro i c hc y hy
    rw [same] at hc
    obtain ⟨y', extended, hy'⟩ :=
      extend_apply told (wf.isContainer c hc).object hy (i + 1) (edits c hc)
    exact ⟨y', Edit.apply_bind_ok extended _, hy'⟩
  obtain ⟨x', swept, hx'⟩ := Draft.eachContainer_apply first.wellFormed hp each
  refine ⟨_, x', ?_, by simpa using (first.trans second).trans third, hx'⟩
  unfold edit
  rw [Edit.apply_bind_ok (Draft.onPod_apply appended x),
    Edit.apply_bind_ok (Draft.onInstaller_apply (appendEnv_ok hx someVars) pod₁),
    Edit.apply_bind_ok (Draft.onInstaller_apply mounted pod₁),
    Edit.apply_bind_ok swept]
  exact Draft.onPod_apply (annotate_ok second.wellFormed a.mark "true") x'

end Additions

namespace Capability

def volumes (config : MonitoringConfig) : Capability → List Json
  | agent => Agent.volumes config
  | enrichment => Enrichment.volumes

theorem entries_volumes (config : MonitoringConfig) (c : Capability) :
    Entries c.ownedVolumes (c.volumes config) := by
  cases c with
  | agent =>
    have bin : (Agent.binVolume config).IsObject ∧
        (Agent.binVolume config).get "name" = .str Names.agentBinVolume := by
      unfold Agent.binVolume
      split
      · exact ⟨.intro (by simp), rfl⟩
      · exact ⟨isObject_emptyVolume _, rfl⟩
    exact .cons bin.1 bin.2 (.cons (isObject_emptyVolume _) rfl .nil)
  | enrichment =>
    exact .cons (isObject_emptyVolume _) rfl (.cons (isObject_secretVolume _ _) rfl .nil)

section Prepare

variable {σ : Type} {answer : σ → (c : ApiCall) → Except Failure c.Answer × σ} {s s' : σ}
  {j : Injector} {config : MonitoringConfig} {ns : String} {pod : Json} {edit : Edit Draft Unit}

structure Gives (c : Capability) (j : Injector) (config : MonitoringConfig) (path : String)
    (a : Additions) : Prop where
  volumes : a.volumes = c.volumes config
  mark : a.mark = c.mark
  vars : Entries c.installerNames a.installerVars
  mounts : Entries c.installerMountNames a.installerMounts
  container : ∀ x, IsContainer x → a.container.apply x = (.ok (), c.outfit j config path x)

theorem gives_agent (j : Injector) (config : MonitoringConfig) {info : Agent.InstallerInfo}
    {path : String} (there : info.installPath = .str path) :
    agent.Gives j config path (Agent.additions j config info) where
  volumes := rfl
  mark := rfl
  vars := ⟨by simp [Agent.additions, Agent.installerVars, isObject_envVar], rfl⟩
  mounts := .cons (isObject_mount _ _) rfl (.cons (isObject_mount _ _) rfl .nil)
  container x hx := by
    show (Agent.extendContainer config j.version j.provisioner.clusterId info.installPath).apply x
      = _
    rw [there]
    exact Agent.extendContainer_apply hx config _ _ _

theorem gives_enrichment (j : Injector) (config : MonitoringConfig) (path : String)
    (workload : Workload) :
    enrichment.Gives j config path (Enrichment.additions j config workload) where
  volumes := rfl
  mark := rfl
  vars := ⟨by simp [Enrichment.additions, Enrichment.installerVars, isObject_envVar], rfl⟩
  mounts := .cons (isObject_mount _ _) rfl .nil
  container x hx := by
    have same : enrichment.vars j config path x =
        metadataVars config j.version j.provisioner.clusterId x := List.append_nil _
    rw [outfit, same]
    exact Enrichment.extendContainer_apply hx config j.version j.provisioner.clusterId

/-- Whatever an installer has that is given what comes with the capability, and keeps when it is
told about containers, it has after the injection. -/
theorem Gives.edit_apply {c : Capability} {a : Additions}
    (gives : c.Gives j config (Agent.installPath pod) a) (wf : WellFormed pod) {x : Json}
    (hx : IsContainer x) {p : Json → Prop} (told : Told p) (given : p (a.supply x)) :
    ∃ pod' x', a.edit.apply ⟨pod, x⟩ = (.ok (), ⟨pod', x'⟩) ∧
      Rewritten (c.outfit j config (Agent.installPath pod)) id (c.volumes config) [c.mark]
        pod pod' ∧
      p x' := by
  rw [← gives.volumes, ← gives.mark]
  exact Additions.edit_apply wf hx (gives.volumes ▸ (entries_volumes config c).objects) gives.vars
    (gives.vars.ne_nil (by cases c <;> decide)) (gives.mounts.ne_nil (by cases c <;> decide)) told
    given (fun y hy => gives.container y (wf.isContainer y hy))
    fun y hy => (equipped_outfit j config _ (wf.isContainer y hy) c).isContainer

theorem agentEdit_apply {info : Agent.InstallerInfo} {d : Draft}
    (read : Agent.installerInfo d.pod = .ok info) :
    (Agent.edit j config).apply d = (Agent.additions j config info).edit.apply d := by
  have look : (Edit.look fun d : Draft => Agent.installerInfo d.pod).apply d = (.ok info, d) := by
    rw [Edit.apply_look, read]
  exact Edit.apply_bind_ok look _

/-- Whatever the cluster says, it is the additions of the capability that are made. -/
theorem prepare_ok (wf : WellFormed pod) {c : Capability}
    (h : (c.prepare j config ns pod).play answer s = (.ok edit, s')) :
    ∃ a : Additions, (∀ x, edit.apply ⟨pod, x⟩ = a.edit.apply ⟨pod, x⟩) ∧
      c.Gives j config (Agent.installPath pod) a := by
  cases c with
  | agent =>
    obtain ⟨_, _, _, h⟩ := Attempt.play_bind_eq_ok h
    cases h
    obtain ⟨info, found, path⟩ := Agent.installerInfo_ok wf
    exact ⟨_, fun x => agentEdit_apply found, gives_agent j config path⟩
  | enrichment =>
    obtain ⟨_, _, _, h⟩ := Attempt.play_bind_eq_ok h
    obtain ⟨_, _, _, h⟩ := Attempt.play_bind_eq_ok h
    obtain ⟨workload, _, _, h⟩ := Attempt.play_bind_eq_ok h
    cases h
    exact ⟨_, fun x => rfl, gives_enrichment j config _ workload⟩

theorem prepared_rewrites (wf : WellFormed pod) {c : Capability}
    (h : (c.prepare j config ns pod).play answer s = (.ok edit, s')) {x : Json}
    (hx : IsContainer x) {p : Json → Prop} (told : Told p)
    (given : ∀ x', Equipped c.installerNames c.installerMountNames x x' → p x') :
    ∃ pod' x', edit.apply ⟨pod, x⟩ = (.ok (), ⟨pod', x'⟩) ∧
      Rewritten (c.outfit j config (Agent.installPath pod)) id (c.volumes config) [c.mark]
        pod pod' ∧
      p x' := by
  obtain ⟨a, edits, gives⟩ := prepare_ok wf h
  rw [edits]
  exact gives.edit_apply wf hx told (given _ (Additions.equipped_supply hx gives.vars gives.mounts))

theorem prepared_apply (wf : WellFormed pod) {c : Capability}
    (h : (c.prepare j config ns pod).play answer s = (.ok edit, s')) {done : List Capability}
    (new : c ∉ done) {x : Json} (hx : Booked done x) :
    ∃ pod' x', edit.apply ⟨pod, x⟩ = (.ok (), ⟨pod', x'⟩) ∧
      Rewritten (c.outfit j config (Agent.installPath pod)) id (c.volumes config) [c.mark]
        pod pod' ∧
      Booked (c :: done) x' :=
  prepared_rewrites wf h hx.isContainer (told_booked (c :: done)) fun _ => hx.given new

end Prepare

end Capability

section Marks

variable {dress : Json → Json} {inits : List Json → List Json} {volumes : List Json}
  {marks : List String} {pod pod' : Json}

theorem annotationText_eq (h : Rewritten dress inits volumes marks pod pod') {key : String}
    (other : key ∉ marks) : annotationText pod' key = annotationText pod key := by
  rw [annotationText, h.annotations, if_neg other]
  rfl

theorem wants_eq (h : Rewritten dress inits volumes marks pod pod')
    (other : ∀ c : Capability, c.request ∉ marks) :
    Capability.wants pod' = Capability.wants pod :=
  funext fun c => by rw [Capability.wants, annotationText_eq h (other c)]; rfl

theorem installPath_eq (h : Rewritten dress inits volumes marks pod pod')
    (other : Names.installPath ∉ marks) : Agent.installPath pod' = Agent.installPath pod := by
  rw [Agent.installPath, h.annotations, if_neg other]
  rfl

end Marks

theorem inject_ok {σ : Type} {answer : σ → (c : ApiCall) → Except Failure c.Answer × σ} {s s' : σ}
    {j : Injector} {config : MonitoringConfig} {ns : String} {cs : List Capability}
    (nodup : cs.Nodup) {done : List Capability} (new : ∀ c ∈ cs, c ∉ done) {pod x : Json}
    (wf : WellFormed pod) (hx : Booked done x) {names : List String} {d : Draft}
    (h : (inject j config ns cs ⟨pod, x⟩).run answer s = ((.ok names, d), s')) :
    Rewritten (Capability.dress j config (Agent.installPath pod) (cs.filter (Capability.wants pod)))
      id ((cs.filter (Capability.wants pod)).flatMap (Capability.volumes config))
      ((cs.filter (Capability.wants pod)).map Capability.mark) pod d.pod ∧
    Booked (cs.filter (Capability.wants pod) ++ done) d.installer := by
  -- The capabilities before those that are left have been given: the books know them.
  induction cs generalizing done pod x s names with
  | nil =>
    cases h
    exact ⟨.refl wf, hx⟩
  | cons c cs ih =>
    rw [List.nodup_cons] at nodup
    have new' : ∀ c ∈ cs, c ∉ done := fun c hc => new c (List.mem_cons_of_mem _ hc)
    have asked := Capability.enabled_ok wf c
    rcases inject_cons_eq_ok h with ⟨refused, rest⟩ | ⟨accepted, edit, s₁, u, d₁, names₁, prepared,
      edited, rest, _⟩
    · have wanted : c.wants pod = false := Except.ok.inj (asked.symm.trans refused)
      simpa [wanted] using ih nodup.2 new' wf hx rest
    · have wanted : c.wants pod = true := Except.ok.inj (asked.symm.trans accepted)
      obtain ⟨pod₁, x₁, applied, first, hx₁⟩ :=
        Capability.prepared_apply wf prepared (new c List.mem_cons_self) hx
      cases applied.symm.trans edited
      have apart : ∀ d ∈ cs, d ∉ c :: done := by
        intro d hd there
        rcases List.mem_cons.mp there with rfl | there
        · exact nodup.1 hd
        · exact new' d hd there
      obtain ⟨second, booked⟩ := ih nodup.2 apart first.wellFormed hx₁ rest
      rw [wants_eq first fun d => by simpa using (Capability.mark_ne c d).1,
        installPath_eq first (by simpa using (Capability.mark_ne c c).2.1)] at second
      rw [wants_eq first fun d => by simpa using (Capability.mark_ne c d).1] at booked
      rw [List.filter_cons_of_pos wanted, Capability.dress_cons, List.flatMap_cons,
        List.map_cons]
      refine ⟨first.trans second, booked.congr fun d => ?_⟩
      simp only [List.mem_append, List.mem_cons, or_left_comm, or_assoc]

end PodInstrumentation
