import PodInstrumentation.Proofs.Pod.Equipping
/-!
What the capabilities read of a pod and of its containers, and what each makes of a container. On
well-formed pods every look succeeds, and a container gets variables and mounts by the names that
are looked for later. -/
namespace PodInstrumentation

open Pod

namespace Agent

def installPath (pod : Json) : String :=
  ((annotation? pod Names.installPath).bind Json.text?).getD "/opt/agent"

theorem installPath_congr {pod pod' : Json}
    (h : ∀ key, annotation? pod' key = annotation? pod key) :
    installPath pod' = installPath pod := by
  simp only [installPath, h]

theorem installerInfo_ok {pod : Json} (wf : WellFormed pod) :
    ∃ info, installerInfo pod = .ok info ∧ info.installPath = .str (installPath pod) := by
  have path : ((annotation? pod Names.installPath).getD (.str "/opt/agent")) =
      .str (installPath pod) := by
    unfold installPath
    cases h : annotation? pod Names.installPath with
    | none => rfl
    | some v =>
      obtain ⟨s, rfl⟩ := annotation?_eq wf h
      rfl
  simp only [installerInfo, annotations_ok wf, ok_bind, setting_ok wf.annotations]
  exact ⟨_, rfl, path⟩

def preloadVars (path : String) : List Json :=
  [envVar Names.preloadVar (.str (path ++ "/agent/lib64/libagentproc.so"))]

def proxyVars (config : MonitoringConfig) : List Json :=
  if config.hasProxy then [secretVar Names.proxyVar Names.initSecret Names.proxyKey] else []

def zoneVars (config : MonitoringConfig) : List Json :=
  if config.spec.networkZone.getD "" != "" then
    [envVar Names.networkZoneVar (.str (config.spec.networkZone.getD ""))]
  else []

def libraryVars (config : MonitoringConfig) (path : String) : List Json :=
  preloadVars path ++ (proxyVars config ++ zoneVars config)

def libraryNames (config : MonitoringConfig) : List String :=
  [Names.preloadVar] ++ ((if config.hasProxy then [Names.proxyVar] else []) ++
    if config.spec.networkZone.getD "" != "" then [Names.networkZoneVar] else [])

theorem entries_preloadVars (path : String) : Entries [Names.preloadVar] (preloadVars path) :=
  .cons (isObject_envVar _ _) rfl .nil

theorem entries_proxyVars (config : MonitoringConfig) :
    Entries (if config.hasProxy then [Names.proxyVar] else []) (proxyVars config) := by
  unfold proxyVars
  split
  · exact .cons (isObject_secretVar _ _ _) rfl .nil
  · exact .nil

theorem entries_zoneVars (config : MonitoringConfig) :
    Entries (if config.spec.networkZone.getD "" != "" then [Names.networkZoneVar] else [])
      (zoneVars config) := by
  unfold zoneVars
  split
  · exact .cons (isObject_envVar _ _) rfl .nil
  · exact .nil

theorem entries_libraryVars (config : MonitoringConfig) (path : String) :
    Entries (libraryNames config) (libraryVars config path) :=
  (entries_preloadVars path).append ((entries_proxyVars config).append (entries_zoneVars config))

theorem entries_containerMounts (name path : Json) :
    Entries [Names.agentShareVolume, Names.agentBinVolume, Names.agentShareVolume,
      Names.agentShareVolume] (containerMounts name path) :=
  .cons (isObject_mountPart _ _ _) rfl <| .cons (.intro (by simp)) rfl <|
    .cons (isObject_mountPart _ _ _) rfl <| .cons (isObject_mountPart _ _ _) rfl .nil

section Steps

variable {c : Json} (h : IsContainer c) {vars : List Json} (objects : ∀ x ∈ vars, x.IsObject)
  (mounts : List Json)
include h objects

theorem addPreload_equip (path : String) : addPreload (.str path) (equip vars mounts c) =
    .ok (equip (vars ++ preloadVars path) mounts c) :=
  appendEnv_equip h objects (by simp)

theorem addProxy_equip {config : MonitoringConfig} (has : config.hasProxy = true) :
    addProxy (equip vars mounts c) = .ok (equip (vars ++ proxyVars config) mounts c) := by
  rw [proxyVars, if_pos has]
  exact appendEnv_equip h objects (by simp)

theorem addNetworkZone_equip {config : MonitoringConfig}
    (has : (config.spec.networkZone.getD "" != "") = true) :
    addNetworkZone (config.spec.networkZone.getD "") (equip vars mounts c) =
      .ok (equip (vars ++ zoneVars config) mounts c) := by
  rw [zoneVars, if_pos has]
  exact appendEnv_equip h objects (by simp)

end Steps

theorem extendContainer_apply {c : Json} (h : IsContainer c) (config : MonitoringConfig)
    (version clusterId path : String) :
    (extendContainer config version clusterId (.str path)).apply c = (.ok (),
      equip (metadataVars config version clusterId c ++ libraryVars config path)
        (containerMounts ((c.get? "name").getD (.str "")) (.str path)) c) := by
  have mounted := entries_containerMounts ((c.get? "name").getD (.str "")) (.str path)
  generalize hm : containerMounts ((c.get? "name").getD (.str "")) (.str path) = mounts at mounted ⊢
  have first : addMounts (.str path) c = .ok (equip [] mounts c) :=
    hm ▸ appendMounts_ok h (by simp [containerMounts])
  have known := (entries_metadataVars config version clusterId c).objects
  have loaded := List.forall_mem_append.mpr ⟨known, (entries_preloadVars path).objects⟩
  have proxied := List.forall_mem_append.mpr ⟨loaded, (entries_proxyVars config).objects⟩
  unfold extendContainer
  rw [Edit.apply_bind_ok (Edit.apply_step_ok first),
    Edit.apply_bind_ok (Edit.apply_step_ok (addMetadata_equip h mounted config version clusterId)),
    Edit.apply_bind_ok (Edit.apply_step_ok (addPreload_equip h known mounts path)), libraryVars]
  simp only [← List.append_assoc]
  split
  · rename_i has
    rw [Edit.apply_bind_ok (Edit.apply_step_ok (addProxy_equip h loaded mounts has))]
    split
    · rename_i zone
      exact Edit.apply_step_ok (addNetworkZone_equip h proxied mounts zone)
    · rename_i none
      rw [zoneVars, if_neg none, List.append_nil]
      rfl
  · rename_i direct
    rw [proxyVars, if_neg direct, List.append_nil]
    split
    · rename_i zone
      exact Edit.apply_step_ok (addNetworkZone_equip h loaded mounts zone)
    · rename_i none
      rw [zoneVars, if_neg none, List.append_nil]
      rfl

end Agent

namespace Enrichment

theorem entries_containerMounts :
    Entries [Names.enrichmentVolume, Names.endpointVolume] containerMounts :=
  .cons (isObject_mount _ _) rfl (.cons (isObject_mount _ _) rfl .nil)

theorem extendContainer_apply {c : Json} (h : IsContainer c) (config : MonitoringConfig)
    (version clusterId : String) :
    (extendContainer config version clusterId).apply c = (.ok (),
      equip (metadataVars config version clusterId c) containerMounts c) := by
  have first : appendMounts containerMounts c = .ok (equip [] containerMounts c) :=
    appendMounts_ok h (by simp [containerMounts])
  unfold extendContainer
  rw [Edit.apply_bind_ok (Edit.apply_step_ok first)]
  exact Edit.apply_step_ok (addMetadata_equip h entries_containerMounts config version clusterId)

end Enrichment

namespace Capability

/-- The annotation by which a pod takes the capability or refuses it. -/
def request : Capability → String
  | agent => Names.agentInject
  | enrichment => Names.enrichmentInject

def mark : Capability → String
  | agent => Names.agentInjected
  | enrichment => Names.enrichmentInjected

/-- The mark of one capability does not ask for another, nor say where the agent is to be. -/
theorem mark_ne (c d : Capability) : d.request ≠ c.mark ∧ Names.installPath ≠ c.mark ∧
    Names.injected ≠ c.mark := by
  cases c <;> cases d <;> decide

def wants (pod : Json) (c : Capability) : Bool :=
  (readFlag (annotationText pod c.request)).getD true

def carries (pod : Json) (c : Capability) : Bool :=
  (readFlag (annotationText pod c.mark)).getD false

/-- What a container with the capability has of it: names, the lists that they are in, and how
often they are there. -/
def supply : Capability → List (String × String × Nat)
  | agent => [("env", Names.preloadVar, 1), ("volumeMounts", Names.agentBinVolume, 1),
      ("volumeMounts", Names.agentShareVolume, 3)]
  | enrichment => [("volumeMounts", Names.enrichmentVolume, 1),
      ("volumeMounts", Names.endpointVolume, 1)]

/-- The list and the name that a container with the capability is known by. -/
def sign : Capability → String × String
  | agent => ("env", Names.preloadVar)
  | enrichment => ("volumeMounts", Names.enrichmentVolume)

def has (x : Json) (c : Capability) : Bool := .str c.sign.2 ∈ names c.sign.1 x

theorem has_iff {x : Json} {c : Capability} : c.has x = true ↔ 0 < tally c.sign.1 c.sign.2 x := by
  rw [tally_pos, has, decide_eq_true_iff]

theorem sign_mem_supply (c : Capability) : (c.sign.1, c.sign.2, 1) ∈ c.supply := by
  cases c <;> simp [sign, supply]

theorem list_of_supply {c : Capability} {list name : String} {n : Nat}
    (own : (list, name, n) ∈ c.supply) : list = "env" ∨ list = "volumeMounts" := by
  have all : ∀ e ∈ c.supply, e.1 = "env" ∨ e.1 = "volumeMounts" := by cases c <;> decide
  exact all _ own

theorem wants_congr {pod pod' : Json} (h : ∀ key, annotation? pod' key = annotation? pod key) :
    wants pod' = wants pod :=
  funext fun c => by simp only [wants, annotationText, h]

theorem carries_congr {pod pod' : Json} (h : ∀ key, annotation? pod' key = annotation? pod key) :
    carries pod' = carries pod :=
  funext fun c => by simp only [carries, annotationText, h]

theorem enabled_ok {pod : Json} (wf : WellFormed pod) (c : Capability) :
    c.enabled pod = .ok (c.wants pod) := by
  cases c <;> exact flag_ok wf _ true

theorem podInjected_ok {pod : Json} (wf : WellFormed pod) (c : Capability) :
    c.podInjected pod = .ok (c.carries pod) := by
  cases c <;> exact flag_ok wf _ false

theorem containerInjected_ok {x : Json} (h : IsContainer x) (c : Capability) :
    c.containerInjected x = .ok (c.has x) := by
  cases c with
  | agent => exact hasEnv_names h _
  | enrichment => exact hasMount_names h _

theorem wanted_ok {pod : Json} (wf : WellFormed pod) (cs : List Capability) :
    wanted pod cs = .ok (cs.filter (wants pod)) := by
  induction cs with
  | nil => rfl
  | cons c cs ih =>
    simp only [wanted, enabled_ok wf, ih, ok_bind, List.filter_cons]
    rfl

variable (j : Injector) (config : MonitoringConfig) (path : String)

def vars (c : Capability) (x : Json) : List Json :=
  metadataVars config j.version j.provisioner.clusterId x ++
    match c with
    | agent => Agent.libraryVars config path
    | enrichment => []

def mounts (c : Capability) (x : Json) : List Json :=
  match c with
  | agent => Agent.containerMounts ((x.get? "name").getD (.str "")) (.str path)
  | enrichment => Enrichment.containerMounts

def outfit (c : Capability) (x : Json) : Json := equip (c.vars j config path x) (c.mounts path x) x

def varNames (c : Capability) (x : Json) : List String :=
  (if .str Names.metadataVar ∈ names "env" x then [] else [Names.metadataVar]) ++
    match c with
    | agent => Agent.libraryNames config
    | enrichment => []

def mountNames : Capability → List String
  | agent => [Names.agentShareVolume, Names.agentBinVolume, Names.agentShareVolume,
      Names.agentShareVolume]
  | enrichment => [Names.enrichmentVolume, Names.endpointVolume]

theorem equipped_outfit {x : Json} (h : IsContainer x) (c : Capability) :
    Equipped (c.varNames config x) c.mountNames x (c.outfit j config path x) := by
  cases c with
  | agent =>
    exact equipped_equip h ((entries_metadataVars _ _ _ x).append
      (Agent.entries_libraryVars config path)) (Agent.entries_containerMounts _ _)
  | enrichment =>
    exact equipped_equip h ((entries_metadataVars _ _ _ x).append .nil)
      Enrichment.entries_containerMounts

theorem containerEdit_apply {pod x : Json} (wf : WellFormed pod) (h : IsContainer x)
    (c : Capability) : (c.containerEdit j config pod).apply x =
      (.ok (), c.outfit j config (Agent.installPath pod) x) := by
  cases c with
  | agent =>
    obtain ⟨info, found, path⟩ := Agent.installerInfo_ok wf
    have look : (Edit.look fun _ : Json => Agent.installerInfo pod).apply x = (.ok info, x) := by
      rw [Edit.apply_look, found]
    simp only [containerEdit]
    rw [Edit.apply_bind_ok look, path, Agent.extendContainer_apply h]
    rfl
  | enrichment =>
    have same : vars j config (Agent.installPath pod) enrichment x =
        metadataVars config j.version j.provisioner.clusterId x := List.append_nil _
    rw [outfit, same]
    exact Enrichment.extendContainer_apply h config j.version j.provisioner.clusterId

theorem count_preload (c : Capability) (x : Json) :
    (c.varNames config x).count Names.preloadVar = if c = agent then 1 else 0 := by
  have metadata : (if .str Names.metadataVar ∈ names "env" x then [] else
      [Names.metadataVar]).count Names.preloadVar = 0 := by split <;> rfl
  unfold varNames
  rw [List.count_append, metadata]
  cases c with
  | agent =>
    simp only [Agent.libraryNames, List.count_append]
    split <;> split <;> rfl
  | enrichment => rfl

theorem tally_outfit {x : Json} (h : IsContainer x) (c : Capability) {d : Capability}
    {list name : String} {n : Nat} (own : (list, name, n) ∈ d.supply) :
    tally list name (c.outfit j config path x) = tally list name x + if c = d then n else 0 := by
  have equipped := equipped_outfit j config path h c
  cases d with
  | agent =>
    simp only [supply, List.mem_cons, Prod.mk.injEq, List.not_mem_nil, or_false] at own
    rcases own with ⟨rfl, rfl, rfl⟩ | ⟨rfl, rfl, rfl⟩ | ⟨rfl, rfl, rfl⟩
    · rw [equipped.tally_env]
      exact congrArg _ (count_preload config c x)
    · rw [equipped.tally_mounts]
      cases c <;> rfl
    · rw [equipped.tally_mounts]
      cases c <;> rfl
  | enrichment =>
    simp only [supply, List.mem_cons, Prod.mk.injEq, List.not_mem_nil, or_false] at own
    rcases own with ⟨rfl, rfl, rfl⟩ | ⟨rfl, rfl, rfl⟩
    · rw [equipped.tally_mounts]
      cases c <;> rfl
    · rw [equipped.tally_mounts]
      cases c <;> rfl

theorem has_outfit {x : Json} (h : IsContainer x) (c d : Capability) :
    d.has (c.outfit j config path x) = (d.has x || decide (c = d)) := by
  rw [Bool.eq_iff_iff, has_iff, tally_outfit j config path h c (sign_mem_supply d), Bool.or_eq_true,
    has_iff, decide_eq_true_iff]
  by_cases same : c = d
  · simp [same]
  · simp [same]

/-- A patch shows the capabilities of the container that it was made for. -/
theorem has_merge {x y : Json} (distinct : x.Distinct) (h : IsContainer x) {vs ms : List String}
    (equipped : Equipped vs ms x y) (c : Capability) : c.has (Json.merge x y) = c.has y := by
  rw [has, equipped.names_merge distinct h (list_of_supply (sign_mem_supply c)), has]

def dress (cs : List Capability) (x : Json) : Json :=
  cs.foldl (fun x c => c.outfit j config path x) x

theorem dress_cons (c : Capability) (cs : List Capability) :
    dress j config path (c :: cs) = dress j config path cs ∘ c.outfit j config path := rfl

theorem equipped_dress {x : Json} (h : IsContainer x) (cs : List Capability) :
    ∃ vars, Equipped vars (cs.flatMap mountNames) x (dress j config path cs x) := by
  induction cs generalizing x with
  | nil => exact ⟨_, .refl h⟩
  | cons c cs ih =>
    have first := equipped_outfit j config path h c
    obtain ⟨vars, rest⟩ := ih first.isContainer
    exact ⟨_, first.trans rest⟩

theorem tally_dress {x : Json} (h : IsContainer x) (cs : List Capability) {d : Capability}
    {list name : String} {n : Nat} (own : (list, name, n) ∈ d.supply) :
    tally list name (dress j config path cs x) = tally list name x + cs.count d * n := by
  induction cs generalizing x with
  | nil => simp [dress]
  | cons c cs ih =>
    have first := equipped_outfit j config path h c
    have rest := ih first.isContainer
    rw [tally_outfit j config path h c own] at rest
    refine rest.trans ?_
    by_cases same : c = d
    · simp [same, Nat.add_mul]
      omega
    · simp [same]

theorem has_dress {x : Json} (h : IsContainer x) (cs : List Capability) (d : Capability) :
    d.has (dress j config path cs x) = (d.has x || decide (d ∈ cs)) := by
  rw [Bool.eq_iff_iff, has_iff, tally_dress j config path h cs (sign_mem_supply d),
    Bool.or_eq_true, has_iff, decide_eq_true_iff, ← List.count_pos_iff (l := cs)]
  omega

end Capability

end PodInstrumentation
