import Mathlib.Data.List.Nodup
import PodInstrumentation.Proofs.Capability.Sweep
import PodInstrumentation.Proofs.Pod.Telling
/-!
The books that the installer keeps in its variables: those of every injection, those of each
capability and a pair for each container it was told about. No variable is there twice, and it
mounts only the volumes of the capabilities it was given. -/
namespace PodInstrumentation

open Pod

namespace Capability

def installerNames : Capability → List String
  | agent => [Names.flavorVar, Names.technologiesVar, Names.installPathVar, Names.installerUrlVar,
      Names.modeVar, Names.agentInjectedVar]
  | enrichment => [Names.workloadKindVar, Names.workloadNameVar, Names.enrichmentInjectedVar]

def installerMountNames : Capability → List String
  | agent => [Names.agentBinVolume, Names.agentShareVolume]
  | enrichment => [Names.enrichmentVolume]

theorem nodup_installerNames (c : Capability) : c.installerNames.Nodup := by
  cases c <;> decide

theorem disjoint_installerNames {c d : Capability} (ne : c ≠ d) {v : String}
    (h : v ∈ c.installerNames) : v ∉ d.installerNames := by
  have all : ∀ v ∈ c.installerNames, v ∉ d.installerNames := by
    cases c <;> cases d <;> first | exact absurd rfl ne | decide
  exact all v h

theorem start_installerNames {c : Capability} {v : String} (h : v ∈ c.installerNames) :
    Names.containerVarStart.toList.isPrefixOf v.toList = false := by
  have all : ∀ v ∈ c.installerNames,
      Names.containerVarStart.toList.isPrefixOf v.toList = false := by cases c <;> decide
  exact all v h

end Capability

structure Books (cs : List Capability) (vars : List String) : Prop where
  nodup : vars.Nodup
  /-- A variable for the image of a container comes with one for its name. -/
  paired : ∀ n, Names.containerImageVar n ∈ vars → Names.containerNameVar n ∈ vars
  /-- The variables of the other capabilities are free. -/
  free : ∀ c, c ∉ cs → ∀ v ∈ c.installerNames, v ∉ vars

namespace Books

variable {cs : List Capability} {vars : List String}

theorem note (h : Books cs vars) {number : Int} (unknown : Names.containerNameVar number ∉ vars) :
    Books cs (vars ++ [Names.containerNameVar number, Names.containerImageVar number]) where
  nodup := by
    have image : Names.containerImageVar number ∉ vars :=
      fun there => unknown (h.paired number there)
    have apart := Names.containerNameVar_ne_containerImageVar number number
    refine List.nodup_append.mpr ⟨h.nodup, by simpa using apart, fun a ha b hb e => ?_⟩
    rcases List.mem_pair.mp (e ▸ hb) with rfl | rfl
    · exact unknown ha
    · exact image ha
  paired n there := by
    rcases List.mem_append.mp there with old | new
    · exact List.mem_append_left _ (h.paired n old)
    · have same : Names.containerNameVar n = Names.containerNameVar number := by
        rcases List.mem_pair.mp new with e | e
        · exact absurd e.symm (Names.containerNameVar_ne_containerImageVar number n)
        · exact Names.containerNameVar_eq_of_imageVar_eq e
      rw [same]
      exact List.mem_append_right _ (by simp)
  free c hc v hv there := by
    have start := Capability.start_installerNames hv
    rcases List.mem_append.mp there with old | new
    · exact h.free c hc v hv old
    · rcases List.mem_pair.mp new with e | e
      · exact Names.containerNameVar_ne start number e.symm
      · exact Names.containerImageVar_ne start number e.symm

theorem give (h : Books cs vars) {c : Capability} (new : c ∉ cs) :
    Books (c :: cs) (vars ++ c.installerNames) where
  nodup := by
    refine List.nodup_append.mpr ⟨h.nodup, c.nodup_installerNames, fun a ha b hb e => ?_⟩
    exact h.free c new a (e ▸ hb) ha
  paired n there := by
    rcases List.mem_append.mp there with old | given
    · exact List.mem_append_left _ (h.paired n old)
    · exact absurd rfl (Names.containerImageVar_ne (Capability.start_installerNames given) n)
  free d hd v hv there := by
    rw [List.mem_cons, not_or] at hd
    rcases List.mem_append.mp there with old | given
    · exact h.free d hd.2 v hv old
    · exact Capability.disjoint_installerNames hd.1 hv given

theorem congr {ds : List Capability} (h : Books cs vars) (same : ∀ c, c ∈ cs ↔ c ∈ ds) :
    Books ds vars :=
  ⟨h.nodup, h.paired, fun c hc => h.free c fun hd => hc ((same c).mp hd)⟩

end Books

structure Booked (cs : List Capability) (x : Json) : Prop where
  isContainer : IsContainer x
  named : x.get "name" = .str Names.installer
  env : ∃ vars, Entries vars (x.itemsAt "env") ∧ Books cs vars
  mounts : ∃ ms, Entries ms (x.itemsAt "volumeMounts") ∧
    ∀ m ∈ ms, m = Names.configVolume ∨ ∃ c ∈ cs, m ∈ c.installerMountNames

namespace Booked

variable {cs ds : List Capability} {x x' : Json}

theorem congr (h : Booked cs x) (same : ∀ c, c ∈ cs ↔ c ∈ ds) : Booked ds x where
  isContainer := h.isContainer
  named := h.named
  env := h.env.imp fun _ h => ⟨h.1, h.2.congr same⟩
  mounts := h.mounts.imp fun _ h =>
    ⟨h.1, fun m hm => (h.2 m hm).imp id fun ⟨c, hc, v⟩ => ⟨c, (same c).mp hc, v⟩⟩

theorem noted (h : Booked cs x) {number : Int} (told : Equipped (notes number x) [] x x') :
    Booked cs x' where
  isContainer := told.isContainer
  named := told.name_eq.trans h.named
  env := by
    obtain ⟨vars, entries, books⟩ := h.env
    obtain ⟨xs, hxs, added⟩ := told.env
    refine ⟨_, hxs ▸ entries.append added, ?_⟩
    have known : .str (Names.containerNameVar number) ∈ names "env" x ↔
        Names.containerNameVar number ∈ vars := entries.mem_iff _
    simp only [notes, known]
    split
    · simpa using books
    · rename_i unknown
      exact books.note unknown
  mounts := by
    obtain ⟨ms, entries, own⟩ := h.mounts
    obtain ⟨xs, hxs, added⟩ := told.mounts
    exact ⟨_, hxs ▸ entries.append added, by simpa using own⟩

theorem given (h : Booked cs x) {c : Capability} (new : c ∉ cs)
    (told : Equipped c.installerNames c.installerMountNames x x') : Booked (c :: cs) x' where
  isContainer := told.isContainer
  named := told.name_eq.trans h.named
  env := by
    obtain ⟨vars, entries, books⟩ := h.env
    obtain ⟨xs, hxs, added⟩ := told.env
    exact ⟨_, hxs ▸ entries.append added, books.give new⟩
  mounts := by
    obtain ⟨ms, entries, own⟩ := h.mounts
    obtain ⟨xs, hxs, added⟩ := told.mounts
    refine ⟨_, hxs ▸ entries.append added, fun m hm => ?_⟩
    rcases List.mem_append.mp hm with old | given
    · exact (own m old).imp id fun ⟨d, hd, v⟩ => ⟨d, List.mem_cons_of_mem _ hd, v⟩
    · exact .inr ⟨c, List.mem_cons_self, given⟩

theorem stripNulls (h : Booked cs x) : Booked cs x.stripNulls where
  isContainer := h.isContainer.stripNulls
  named := by
    rw [Json.get_stripNulls h.isContainer.object, h.named]
    rfl
  env := by
    obtain ⟨vars, entries, books⟩ := h.env
    refine ⟨vars, ?_, books⟩
    rw [Json.itemsAt_stripNulls h.isContainer.object]
    exact entries.stripNulls
  mounts := by
    obtain ⟨ms, entries, own⟩ := h.mounts
    refine ⟨ms, ?_, own⟩
    rw [Json.itemsAt_stripNulls h.isContainer.object]
    exact entries.stripNulls

theorem merge (h : Booked cs x) (h' : Booked ds x') : Booked ds (Json.merge x x') where
  isContainer := h.isContainer.merge h'.isContainer
  named := by
    rw [Json.get_merge h.isContainer.object h'.isContainer.object, h'.named,
      Json.merge_str (.inr ⟨_, h.named⟩)]
  env := by
    obtain ⟨_, entries, _⟩ := h.env
    obtain ⟨vars, entries', books⟩ := h'.env
    refine ⟨vars, ?_, books⟩
    rw [Json.itemsAt_merge h.isContainer.object h'.isContainer.object h.isContainer.env
      h'.isContainer.env]
    exact entries.merge entries'
  mounts := by
    obtain ⟨_, entries, _⟩ := h.mounts
    obtain ⟨ms, entries', own⟩ := h'.mounts
    refine ⟨ms, ?_, own⟩
    rw [Json.itemsAt_merge h.isContainer.object h'.isContainer.object h.isContainer.mounts
      h'.isContainer.mounts]
    exact entries.merge entries'

end Booked

theorem told_booked (cs : List Capability) : Told (Booked cs) where
  isContainer _ h := h.isContainer
  noted _ _ _ h told := h.noted told

end PodInstrumentation
