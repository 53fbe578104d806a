import Mathlib.Data.List.Nodup
import PodInstrumentation.Proofs.Capability.Injecting
/-!
What holds of a pod whatever has happened to it: no container has the additions of a capability
twice or in part, no volume and no installer is there twice, and what is mounted is there. Behind it
is the invariant of the pods that were injected: which capabilities they got, that the installer has
its books in order, and that a container has all of a capability or nothing of it. -/
namespace PodInstrumentation

open Pod

namespace Capability

/-- The container has the additions of the capability, each as often as they come with it. -/
def Given (c : Capability) (x : Json) : Prop :=
  ∀ list name n, (list, name, n) ∈ c.supply → tally list name x = n

def Bare (c : Capability) (x : Json) : Prop :=
  ∀ list name n, (list, name, n) ∈ c.supply → tally list name x = 0

theorem Given.has {c : Capability} {x : Json} (h : c.Given x) : c.has x = true := by
  rw [has_iff, h _ _ _ c.sign_mem_supply]
  exact Nat.one_pos

theorem Bare.has {c : Capability} {x : Json} (h : c.Bare x) : c.has x = false := by
  rw [← Bool.not_eq_true, has_iff, h _ _ _ c.sign_mem_supply]
  exact Nat.lt_irrefl 0

theorem supply_of_ownedVolumes {c : Capability} {v : String} (h : v ∈ c.ownedVolumes) :
    ∃ n, ("volumeMounts", v, n) ∈ c.supply := by
  have all : ∀ v ∈ c.ownedVolumes, ∃ e ∈ c.supply, e.1 = "volumeMounts" ∧ e.2.1 = v := by
    cases c <;> decide
  obtain ⟨⟨list, name, n⟩, own, rfl, rfl⟩ := all v h
  exact ⟨n, own⟩

theorem installerMountNames_owned {c : Capability} {v : String} (h : v ∈ c.installerMountNames) :
    v ∈ c.ownedVolumes := by
  have all : ∀ v ∈ c.installerMountNames, v ∈ c.ownedVolumes := by cases c <;> decide
  exact all v h

theorem nodup_ownedVolumes (c : Capability) : c.ownedVolumes.Nodup := by cases c <;> decide

theorem disjoint_ownedVolumes {c d : Capability} (ne : c ≠ d) :
    List.Disjoint c.ownedVolumes d.ownedVolumes := by
  have all : ∀ v ∈ c.ownedVolumes, v ∉ d.ownedVolumes := by
    cases c <;> cases d <;> first | exact absurd rfl ne | decide
  exact fun v => all v

theorem configVolume_notMem (c : Capability) :
    Names.configVolume ∉ c.ownedVolumes ∧ Names.configVolume ∉ c.mountNames := by
  cases c <;> decide

end Capability

def ownVolumes : List String :=
  [Names.configVolume, Names.agentBinVolume, Names.agentShareVolume, Names.enrichmentVolume,
    Names.endpointVolume]

theorem mem_ownVolumes {v : String} :
    v ∈ ownVolumes ↔ v = Names.configVolume ∨ ∃ c : Capability, v ∈ c.ownedVolumes := by
  constructor
  · have all : ∀ v ∈ ownVolumes, v = Names.configVolume ∨
        v ∈ Capability.agent.ownedVolumes ∨ v ∈ Capability.enrichment.ownedVolumes := by decide
    exact fun h => (all v h).imp id fun own => own.elim (⟨_, ·⟩) (⟨_, ·⟩)
  · rintro (rfl | ⟨c, own⟩)
    · decide
    · have all : ∀ v ∈ c.ownedVolumes, v ∈ ownVolumes := by cases c <;> decide
      exact all v own

def stock (cs : List Capability) : List String :=
  Names.configVolume :: cs.flatMap Capability.ownedVolumes

theorem nodup_stock {cs : List Capability} (nodup : cs.Nodup) : (stock cs).Nodup := by
  refine List.nodup_cons.mpr ⟨fun there => ?_, List.nodup_flatMap.mpr
    ⟨fun c _ => c.nodup_ownedVolumes, nodup.imp Capability.disjoint_ownedVolumes⟩⟩
  obtain ⟨c, _, own⟩ := List.mem_flatMap.mp there
  exact c.configVolume_notMem.1 own

theorem entries_stock (config : MonitoringConfig) (cs : List Capability) :
    Entries (cs.flatMap Capability.ownedVolumes) (cs.flatMap (Capability.volumes config)) := by
  induction cs with
  | nil => exact .nil
  | cons c cs ih => exact (Capability.entries_volumes config c).append ih

def Unmounted (x : Json) : Prop := ∀ v ∈ ownVolumes, tally "volumeMounts" v x = 0

structure Foreign (x : Json) : Prop where
  isContainer : IsContainer x
  preload : tally "env" Names.preloadVar x = 0
  mounts : Unmounted x

theorem Foreign.bare {x : Json} (h : Foreign x) (c : Capability) : c.Bare x := by
  intro list name n own
  cases c with
  | agent =>
    simp only [Capability.supply, List.mem_cons, Prod.mk.injEq, List.not_mem_nil, or_false] at own
    rcases own with ⟨rfl, rfl, rfl⟩ | ⟨rfl, rfl, rfl⟩ | ⟨rfl, rfl, rfl⟩
    · exact h.preload
    · exact h.mounts _ (by decide)
    · exact h.mounts _ (by decide)
  | enrichment =>
    simp only [Capability.supply, List.mem_cons, Prod.mk.injEq, List.not_mem_nil, or_false] at own
    rcases own with ⟨rfl, rfl, rfl⟩ | ⟨rfl, rfl, rfl⟩
    · exact h.mounts _ (by decide)
    · exact h.mounts _ (by decide)

structure Untouched (pod : Json) : Prop where
  wellFormed : WellFormed pod
  unmarked : marked pod = false
  containers : ∀ x ∈ containerList pod, Foreign x
  volumes : ∀ v ∈ ownVolumes, tally "volumes" v (spec pod) = 0
  installer : tally "initContainers" Names.installer (spec pod) = 0
  inits : ∀ x ∈ initContainerList pod, Unmounted x

structure Sound (pod : Json) : Prop where
  /-- Each container has a capability exactly once or not at all. -/
  containers : ∀ x ∈ containerList pod, ∀ c : Capability, c.Given x ∨ c.Bare x
  volumes : ∀ v ∈ ownVolumes, tally "volumes" v (spec pod) ≤ 1
  installer : tally "initContainers" Names.installer (spec pod) ≤ 1
  books : ∀ x ∈ initContainerList pod, Named Names.installer x = true → (names "env" x).Nodup
  mounted : ∀ x ∈ containerList pod ++ initContainerList pod, ∀ v ∈ ownVolumes,
    0 < tally "volumeMounts" v x → 0 < tally "volumes" v (spec pod)

structure Fitted (cs : List Capability) (x : Json) : Prop where
  given : ∀ c ∈ cs, c.Given x ∨ c.Bare x
  bare : ∀ c, c ∉ cs → c.Bare x
  config : tally "volumeMounts" Names.configVolume x = 0

structure Settled (cs : List Capability) (pod : Json) : Prop where
  wellFormed : WellFormed pod
  marked : marked pod = true
  carried : ∀ c ∈ cs, c.carries pod = true
  containers : ∀ x ∈ containerList pod, Fitted cs x
  volumes : ∀ v ∈ ownVolumes, tally "volumes" v (spec pod) = (stock cs).count v
  installer : tally "initContainers" Names.installer (spec pod) ≤ 1
  inits : ∀ x ∈ initContainerList pod,
    Booked cs x ∨ (Named Names.installer x = false ∧ Unmounted x)

theorem Foreign.fitted {x : Json} (h : Foreign x) (cs : List Capability) : Fitted cs x :=
  ⟨fun c _ => .inr (h.bare c), fun c _ => h.bare c, h.mounts _ (by decide)⟩

theorem Untouched.sound {pod : Json} (h : Untouched pod) : Sound pod where
  containers x hx c := .inr ((h.containers x hx).bare c)
  volumes v hv := by simp [h.volumes v hv]
  installer := by simp [h.installer]
  books x hx named := by
    have other := tally_eq_zero.mp h.installer x hx
    rw [named] at other
    cases other
  mounted x hx v hv mounts := by
    have none : tally "volumeMounts" v x = 0 := (List.mem_append.mp hx).elim
      (fun hx => (h.containers x hx).mounts v hv) (fun hx => h.inits x hx v hv)
    rw [none] at mounts
    cases mounts

namespace Booked

variable {cs : List Capability} {x : Json}

theorem nodup_env (h : Booked cs x) : (names "env" x).Nodup := by
  obtain ⟨vars, entries, books⟩ := h.env
  rw [names, entries.named]
  exact books.nodup.map fun _ _ => Json.str.inj

theorem mounts_stock (h : Booked cs x) {v : String} (mounts : 0 < tally "volumeMounts" v x) :
    v ∈ stock cs := by
  obtain ⟨ms, entries, own⟩ := h.mounts
  rcases own v ((entries.mem_iff v).mp (tally_pos.mp mounts)) with rfl | ⟨c, hc, hv⟩
  · exact List.mem_cons_self
  · exact List.mem_cons_of_mem _
      (List.mem_flatMap.mpr ⟨c, hc, Capability.installerMountNames_owned hv⟩)

end Booked

theorem Fitted.mounts_stock {cs : List Capability} {x : Json} (h : Fitted cs x) {v : String}
    (own : v ∈ ownVolumes) (mounts : 0 < tally "volumeMounts" v x) : v ∈ stock cs := by
  rcases mem_ownVolumes.mp own with rfl | ⟨c, hv⟩
  · rw [h.config] at mounts
    cases mounts
  · by_cases hc : c ∈ cs
    · exact List.mem_cons_of_mem _ (List.mem_flatMap.mpr ⟨c, hc, hv⟩)
    · obtain ⟨n, supplied⟩ := Capability.supply_of_ownedVolumes hv
      rw [h.bare c hc _ _ _ supplied] at mounts
      cases mounts

/-- Every init container of the name is an installer with its books in order. -/
theorem Settled.booked {cs : List Capability} {pod : Json} (h : Settled cs pod) {x : Json}
    (hx : x ∈ initContainerList pod) (named : Named Names.installer x = true) : Booked cs x := by
  rcases h.inits x hx with booked | ⟨other, _⟩
  · exact booked
  · rw [named] at other
    cases other

theorem Settled.sound {cs : List Capability} (nodup : cs.Nodup) {pod : Json} (h : Settled cs pod) :
    Sound pod where
  containers x hx c := by
    by_cases hc : c ∈ cs
    · exact (h.containers x hx).given c hc
    · exact .inr ((h.containers x hx).bare c hc)
  volumes v hv := by
    rw [h.volumes v hv]
    exact List.nodup_iff_count_le_one.mp (nodup_stock nodup) v
  installer := h.installer
  books x hx named := (h.booked hx named).nodup_env
  mounted x hx v hv mounts := by
    rw [h.volumes v hv, List.count_pos_iff]
    rcases List.mem_append.mp hx with hx | hx
    · exact (h.containers x hx).mounts_stock hv mounts
    · rcases h.inits x hx with booked | ⟨_, unmounted⟩
      · exact booked.mounts_stock mounts
      · rw [unmounted v hv] at mounts
        cases mounts

end PodInstrumentation
