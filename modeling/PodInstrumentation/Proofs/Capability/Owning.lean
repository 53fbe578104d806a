import PodInstrumentation.Capability.Registry
import PodInstrumentation.Proofs.Capability.Injecting
import PodInstrumentation.Proofs.Capability.Repairing
/-!
Which names capabilities write. Whatever one of them appends, in a first injection or in a repair,
goes by a name of its own, by a shared one or by that of a pair about a container. The own names of
two capabilities differ and the shared one is written only if it is missing, so that no container
gets a name twice. -/
namespace PodInstrumentation

open Pod

namespace Pod

def Adds (list : String) (P : List String → Prop) (a b : Json) : Prop :=
  ∃ ns xs, b.itemsAt list = a.itemsAt list ++ xs ∧ Entries ns xs ∧ P ns

def Within (own : String → Prop) (ns : List String) : Prop := ∀ v ∈ ns, own v

namespace Adds

variable {list : String} {own : String → Prop} {a b c : Json}

theorem refl (list : String) (own : String → Prop) (a : Json) : Adds list (Within own) a a :=
  ⟨[], [], (List.append_nil _).symm, .nil, nofun⟩

theorem trans (h : Adds list (Within own) a b) (h' : Adds list (Within own) b c) :
    Adds list (Within own) a c := by
  obtain ⟨ns, xs, added, entries, names⟩ := h
  obtain ⟨ms, ys, added', entries', names'⟩ := h'
  refine ⟨ns ++ ms, xs ++ ys, ?_, entries.append entries',
    List.forall_mem_append.mpr ⟨names, names'⟩⟩
  rw [added', added, List.append_assoc]

end Adds

theorem Equipped.adds {vars mounts : List String} {c c' : Json} (h : Equipped vars mounts c c')
    {P : List String → Prop} (names : P vars) : Adds "env" P c c' := by
  obtain ⟨xs, added, entries⟩ := h.env
  exact ⟨vars, xs, added, entries, names⟩

end Pod

namespace Capability

/-- The variables that a capability may write: its own, those of every injection, and the pairs that
are about containers. -/
def MayWrite (c : Capability) (v : String) : Prop :=
  v ∈ c.ownedVars ∨ v ∈ Registry.coreVars ∨
    ∃ n : Int, v = Names.containerNameVar n ∨ v = Names.containerImageVar n

theorem nodup_ownedVars (c : Capability) : c.ownedVars.Nodup := by cases c <;> decide

theorem disjoint_ownedVars {c d : Capability} (ne : c ≠ d) :
    List.Disjoint c.ownedVars d.ownedVars := by
  have all : ∀ v ∈ c.ownedVars, v ∉ d.ownedVars := by
    cases c <;> cases d <;> first | exact absurd rfl ne | decide
  exact fun v => all v

theorem metadataVar_notMem (c : Capability) : Names.metadataVar ∉ c.ownedVars := by
  cases c <;> decide

theorem installerNames_owned {c : Capability} {v : String} (h : v ∈ c.installerNames) :
    v ∈ c.ownedVars := by
  have all : ∀ v ∈ c.installerNames, v ∈ c.ownedVars := by cases c <;> decide
  exact all v h

theorem libraryNames_sublist (config : MonitoringConfig) :
    (Agent.libraryNames config).Sublist agent.ownedVars := by
  unfold Agent.libraryNames
  split <;> split <;> decide

theorem varNames_split (config : MonitoringConfig) (c : Capability) (x : Json) :
    ∃ own, c.varNames config x =
      (if .str Names.metadataVar ∈ names "env" x then [] else [Names.metadataVar]) ++ own ∧
      own.Sublist c.ownedVars := by
  cases c with
  | agent => exact ⟨_, rfl, libraryNames_sublist config⟩
  | enrichment => exact ⟨[], rfl, List.nil_sublist _⟩

theorem mem_varNames {config : MonitoringConfig} {c : Capability} {x : Json} {v : String}
    (h : v ∈ c.varNames config x) :
    v = Names.metadataVar ∧ .str Names.metadataVar ∉ names "env" x ∨ v ∈ c.ownedVars := by
  obtain ⟨own, split, sublist⟩ := c.varNames_split config x
  rw [split] at h
  rcases List.mem_append.mp h with metadata | mine
  · split at metadata
    · cases metadata
    · rename_i missing
      exact .inl ⟨List.mem_singleton.mp metadata, missing⟩
  · exact .inr (sublist.subset mine)

theorem nodup_varNames (config : MonitoringConfig) (c : Capability) (x : Json) :
    (c.varNames config x).Nodup := by
  obtain ⟨own, split, sublist⟩ := c.varNames_split config x
  rw [split]
  have mine : own.Nodup := c.nodup_ownedVars.sublist sublist
  split
  · exact mine
  · exact List.nodup_cons.mpr ⟨fun there => c.metadataVar_notMem (sublist.subset there), mine⟩

theorem mayWrite_varNames (config : MonitoringConfig) (c : Capability) (x : Json) :
    Within c.MayWrite (c.varNames config x) := by
  intro v hv
  rcases mem_varNames hv with ⟨rfl, _⟩ | own
  · exact .inr (.inl (by decide))
  · exact .inl own

theorem mayWrite_notes (c : Capability) (number : Int) (x : Json) :
    Within c.MayWrite (notes number x) := by
  intro v hv
  unfold notes at hv
  split at hv
  · cases hv
  · exact .inr (.inr ⟨number, by simpa using hv⟩)

theorem adds_outfit (j : Injector) (config : MonitoringConfig) (path : String) (c : Capability)
    {x : Json} (h : IsContainer x) : Adds "env" (Within c.MayWrite) x (c.outfit j config path x) :=
  (equipped_outfit j config path h c).adds (c.mayWrite_varNames config x)

/-- What a capability has written of an installer is still its own after notes about containers. -/
theorem told_adds (c : Capability) (x : Json) :
    Told fun y => IsContainer y ∧ Adds "env" (Within c.MayWrite) x y where
  isContainer _ h := h.1
  noted number y _ h told :=
    ⟨told.isContainer, h.2.trans (told.adds (c.mayWrite_notes number y))⟩

structure OwnWrites (c : Capability) (d d' : Draft) : Prop where
  containers : List.Forall₂ (Adds "env" (Within c.MayWrite)) (containerList d.pod)
    (containerList d'.pod)
  initContainers : initContainerList d'.pod = initContainerList d.pod
  installer : Adds "env" (Within c.MayWrite) d.installer d'.installer
  volumes : Adds "volumes" (Within (· ∈ c.ownedVolumes)) (spec d.pod) (spec d'.pod)

section Writes

variable {j : Injector} {config : MonitoringConfig} {pod : Json} (wf : WellFormed pod)
include wf

/-- An injection, whatever the cluster said about the owners of the pod. -/
theorem prepared_ownWrites {σ : Type}
    {answer : σ → (c : ApiCall) → Except Failure c.Answer × σ} {s s' : σ} {ns : String}
    {edit : Edit Draft Unit} {c : Capability}
    (h : (c.prepare j config ns pod).play answer s = (.ok edit, s')) {x : Json}
    (hx : IsContainer x) :
    ∃ d', edit.apply ⟨pod, x⟩ = (.ok (), d') ∧ c.OwnWrites ⟨pod, x⟩ d' := by
  obtain ⟨pod', x', applied, rewritten, _, installer⟩ :=
    prepared_rewrites wf h hx (c.told_adds x) fun x' given =>
      ⟨given.isContainer, given.adds fun v hv => .inl (installerNames_owned hv)⟩
  refine ⟨_, applied, ?_, rewritten.initContainers, installer, _, _, rewritten.volumes,
    entries_volumes config c, fun v hv => hv⟩
  rw [rewritten.containers, List.forall₂_map_right_iff, List.forall₂_same]
  exact fun y hy => c.adds_outfit j config _ (wf.isContainer y hy)

theorem reinvoke_ownWrites (c : Capability) {y x : Json} (hy : IsContainer y) (hx : IsContainer x)
    (number : Int) (hasInstaller : Bool) :
    ∃ s, (c.reinvoke j config pod number hasInstaller).apply ⟨y, x⟩ = (.ok (), s) ∧
      Adds "env" (Within c.MayWrite) y s.container ∧
      Adds "env" (Within c.MayWrite) x s.installer := by
  have worn := c.adds_outfit j config (Agent.installPath pod) hy
  cases hasInstaller with
  | false =>
    exact ⟨_, onContainer_apply (containerEdit_apply j config wf hy c) x, worn, .refl _ _ x⟩
  | true =>
    have idle : true = true → IsContainer x ∧ Adds "env" (Within c.MayWrite) x x :=
      fun _ => ⟨hx, .refl _ _ x⟩
    obtain ⟨x', invoked, noted⟩ := reinvoke_apply j config wf (c.told_adds x) c hy number idle
    exact ⟨_, invoked, worn, (noted rfl).2⟩

end Writes

structure Grants (cs : List Capability) (x : Json) (vars : List String) : Prop where
  nodup : vars.Nodup
  own : ∀ v ∈ vars, v = Names.metadataVar ∧ .str Names.metadataVar ∉ names "env" x ∨
    ∃ c ∈ cs, v ∈ c.ownedVars

section Dress

variable (j : Injector) (config : MonitoringConfig) (path : String)

theorem metadata_mem_outfit {x : Json} (h : IsContainer x) (c : Capability) :
    .str Names.metadataVar ∈ names "env" (c.outfit j config path x) := by
  rw [(equipped_outfit j config path h c).names_env, List.mem_append]
  by_cases has : .str Names.metadataVar ∈ names "env" x
  · exact .inl has
  · exact .inr (List.mem_map_of_mem (by simp [varNames, has]))

theorem grants_cons {c : Capability} {cs : List Capability} (new : c ∉ cs) {x y : Json}
    (worn : .str Names.metadataVar ∈ names "env" y) {vars : List String}
    (rest : Grants cs y vars) : Grants (c :: cs) x (c.varNames config x ++ vars) where
  nodup := by
    refine List.nodup_append'.mpr ⟨c.nodup_varNames config x, rest.nodup, fun v first later => ?_⟩
    obtain ⟨_, missing⟩ | ⟨d, hd, theirs⟩ := rest.own v later
    · exact missing worn
    · have apart : c ≠ d := fun same => new (same ▸ hd)
      rcases mem_varNames first with ⟨rfl, _⟩ | mine
      · exact d.metadataVar_notMem theirs
      · exact disjoint_ownedVars apart mine theirs
  own v hv := by
    rcases List.mem_append.mp hv with first | later
    · exact (mem_varNames first).imp id fun mine => ⟨c, List.mem_cons_self, mine⟩
    · obtain ⟨_, missing⟩ | ⟨d, hd, theirs⟩ := rest.own v later
      · exact absurd worn missing
      · exact .inr ⟨d, List.mem_cons_of_mem _ hd, theirs⟩

theorem exists_grants {cs : List Capability} (nodup : cs.Nodup) {x : Json} (h : IsContainer x) :
    ∃ vars, Equipped vars (cs.flatMap mountNames) x (dress j config path cs x) ∧
      Grants cs x vars := by
  induction cs generalizing x with
  | nil => exact ⟨[], .refl h, List.nodup_nil, nofun⟩
  | cons c cs ih =>
    rw [List.nodup_cons] at nodup
    have first := equipped_outfit j config path h c
    obtain ⟨vars, rest, grants⟩ := ih nodup.2 first.isContainer
    exact ⟨_, first.trans rest,
      grants_cons config nodup.1 (metadata_mem_outfit j config path h c) grants⟩

end Dress

end Capability

end PodInstrumentation
