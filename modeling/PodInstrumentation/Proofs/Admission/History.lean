import Mathlib.Logic.Relation
import PodInstrumentation.Proofs.Admission.Idempotence
import PodInstrumentation.Proofs.Admission.Sound
/-!
Histories of a pod: admissions in any order, each with a cluster and a configuration of its own, and
between them containers that others put in. A pod is untouched until a first injection settles it,
and stays settled from then on. -/
namespace PodInstrumentation.Admission

open Pod

theorem fitted_dressed (j : Injector) (config : MonitoringConfig) (path : String)
    {cs ds : List Capability} {x : Json} (fitted : Fitted cs x) (hx : IsContainer x)
    (distinct : x.Distinct) (nodup : ds.Nodup) (within : ∀ c ∈ ds, c ∈ cs ∧ c.Bare x)
    (others : ∀ c ∈ cs, c ∉ ds → c.Given x) :
    Fitted cs (Json.merge x (Capability.dress j config path ds x)) ∧
      ∀ c ∈ cs, c.Given (Json.merge x (Capability.dress j config path ds x)) := by
  obtain ⟨_, equipped⟩ := Capability.equipped_dress j config path hx ds
  have tallied : ∀ {d : Capability} {list name : String} {n : Nat}, (list, name, n) ∈ d.supply →
      tally list name (Json.merge x (Capability.dress j config path ds x)) =
        tally list name x + ds.count d * n := by
    intro d list name n own
    rw [tally, equipped.names_merge distinct hx (Capability.list_of_supply own)]
    exact Capability.tally_dress j config path hx ds own
  have given : ∀ c ∈ cs, c.Given (Json.merge x (Capability.dress j config path ds x)) := by
    intro c hc list name n own
    rw [tallied own]
    by_cases hd : c ∈ ds
    · rw [(within c hd).2 _ _ _ own, List.count_eq_one_of_mem nodup hd, Nat.one_mul, Nat.zero_add]
    · rw [others c hc hd _ _ _ own, List.count_eq_zero_of_not_mem hd, Nat.zero_mul, Nat.add_zero]
  refine ⟨⟨fun c hc => .inl (given c hc), fun c hc list name n own => ?_, ?_⟩, given⟩
  · have out : c ∉ ds := fun hd => hc (within c hd).1
    rw [tallied own, fitted.bare c hc _ _ _ own, List.count_eq_zero_of_not_mem out, Nat.zero_mul]
  · have mounts : Names.configVolume ∉ ds.flatMap Capability.mountNames := fun there => by
      obtain ⟨c, _, own⟩ := List.mem_flatMap.mp there
      exact c.configVolume_notMem.2 own
    rw [tally, equipped.names_merge distinct hx (.inr rfl)]
    show tally "volumeMounts" Names.configVolume _ = 0
    rw [equipped.tally_mounts, fitted.config, List.count_eq_zero_of_not_mem mounts]

/-- What a container lacks is what it has nothing of. -/
theorem fitted_repaired (j : Injector) (config : MonitoringConfig) (path : String)
    {cs : List Capability} {pod x : Json} (carried : ∀ c ∈ cs, c.carries pod = true)
    (fitted : Fitted cs x) (hx : IsContainer x) (distinct : x.Distinct) (nodup : cs.Nodup) :
    Fitted cs (Json.merge x (Capability.dress j config path (Capability.lacking pod cs x) x)) ∧
      ∀ c ∈ cs, c.Given
        (Json.merge x (Capability.dress j config path (Capability.lacking pod cs x) x)) := by
  refine fitted_dressed j config path fitted hx distinct (nodup.filter _) (fun c hc => ?_)
    fun c hc out => ?_
  · obtain ⟨within, lacks⟩ := List.mem_filter.mp hc
    refine ⟨within, (fitted.given c within).resolve_left fun given => ?_⟩
    simp [given.has] at lacks
  · refine (fitted.given c hc).resolve_right fun bare => out ?_
    exact List.mem_filter.mpr ⟨hc, by simp [carried c hc, bare.has]⟩

inductive Inserted : List Json → List Json → Prop
  | nil : Inserted [] []
  | keep (x : Json) {xs ys : List Json} (h : Inserted xs ys) : Inserted (x :: xs) (x :: ys)
  | insert {x : Json} {xs ys : List Json} (foreign : Foreign x) (h : Inserted xs ys) :
      Inserted xs (x :: ys)

/-- An admission of the pod, under any cluster and by any handler of the capabilities, whose patch
makes the second pod of the first. -/
inductive Admitted (cs : List Capability) (pod : Json) (patch : Patch) (pod' : Json) : Prop
  | intro {σ : Type} {answer : σ → (c : ApiCall) → Except Failure c.Answer × σ} {s s' : σ}
      {h : Handler} {request : Request} {deadline : Option Seconds} {report : Report}
      (capabilities : h.capabilities = cs) (read : Json.ofBytes request.object = .ok pod)
      (ran : (h.handle request deadline).run answer s = (.ok report, s'))
      (sent : report.verdict.patch = patch) (applied : Patch.apply patch pod = some pod')

inductive Step (cs : List Capability) (pod : Json) : Json → Prop
  | admission {patch : Patch} {pod' : Json} (h : Admitted cs pod patch pod') : Step cs pod pod'
  | insertion {ys : List Json} (h : Inserted (containerList pod) ys) :
      Step cs pod (withContainers ys pod)

theorem Inserted.mem {xs ys : List Json} (h : Inserted xs ys) {y : Json} (hy : y ∈ ys) :
    y ∈ xs ∨ Foreign y := by
  induction h with
  | nil => exact .inl hy
  | keep x h ih =>
    rcases List.mem_cons.mp hy with rfl | hy
    · exact .inl List.mem_cons_self
    · exact (ih hy).imp (List.mem_cons_of_mem x) id
  | insert foreign h ih =>
    rcases List.mem_cons.mp hy with rfl | hy
    · exact .inr foreign
    · exact ih hy

/-- The pod is untouched, or it was injected with the capabilities that it wants. -/
def Standing (cs : List Capability) (pod : Json) : Prop :=
  Untouched pod ∨ Settled (cs.filter (Capability.wants pod)) pod

theorem Standing.wellFormed {cs : List Capability} {pod : Json} (h : Standing cs pod) :
    WellFormed pod := h.elim Untouched.wellFormed Settled.wellFormed

theorem Standing.sound {cs : List Capability} (nodup : cs.Nodup) {pod : Json}
    (h : Standing cs pod) : Sound pod := h.elim Untouched.sound (Settled.sound (nodup.filter _))

section Insert

variable {pod : Json} {ys : List Json} (h : Inserted (containerList pod) ys)
include h

theorem wellFormed_inserted (wf : WellFormed pod) : WellFormed (withContainers ys pod) :=
  wellFormed_withContainers wf fun y hy =>
    (h.mem hy).elim (wf.isContainer y) Foreign.isContainer

theorem untouched_inserted (untouched : Untouched pod) : Untouched (withContainers ys pod) := by
  have wf := untouched.wellFormed
  refine ⟨wellFormed_inserted h wf, ?_, fun y hy => ?_, fun v hv => ?_, ?_, fun x hx => ?_⟩
  · rw [marked_congr (annotation?_withContainers ys pod), untouched.unmarked]
  · rw [containerList_withContainers wf] at hy
    exact (h.mem hy).elim (untouched.containers y) id
  · rw [tally_congr (volumeList_withContainers wf ys), untouched.volumes v hv]
  · rw [tally_congr (initContainerList_withContainers wf ys), untouched.installer]
  · rw [initContainerList_withContainers wf] at hx
    exact untouched.inits x hx

theorem settled_inserted {cs : List Capability} (settled : Settled cs pod) :
    Settled cs (withContainers ys pod) := by
  have wf := settled.wellFormed
  have annotations := annotation?_withContainers ys pod
  refine ⟨wellFormed_inserted h wf, ?_, fun c hc => ?_, fun y hy => ?_, fun v hv => ?_, ?_,
    fun x hx => ?_⟩
  · rw [marked_congr annotations, settled.marked]
  · rw [Capability.carries_congr annotations, settled.carried c hc]
  · rw [containerList_withContainers wf] at hy
    exact (h.mem hy).elim (settled.containers y) fun foreign => foreign.fitted cs
  · rw [tally_congr (volumeList_withContainers wf ys), settled.volumes v hv]
  · rw [tally_congr (initContainerList_withContainers wf ys)]
    exact settled.installer
  · rw [initContainerList_withContainers wf] at hx
    exact settled.inits x hx

theorem standing_inserted {cs : List Capability} (standing : Standing cs pod) :
    Standing cs (withContainers ys pod) := by
  unfold Standing
  rw [Capability.wants_congr (annotation?_withContainers ys pod)]
  exact standing.imp (untouched_inserted h) (settled_inserted h)

end Insert

namespace Handler

section Change

variable {h : Handler} (nodup : h.capabilities.Nodup) {ns : String} {config : MonitoringConfig}
  {pod pod' : Json} (distinct : pod.Distinct)
include nodup distinct

theorem settled_of_fresh {σ : Type} {answer : σ → (c : ApiCall) → Except Failure c.Answer × σ}
    {s s' : σ} (untouched : Untouched pod)
    (run : (h.injectedPod ns config pod).play answer s = (.ok pod', s')) :
    Settled (h.wanted pod) (Json.merge pod pod') ∧
      h.wanted (Json.merge pod pod') = h.wanted pod ∧
      ∀ y ∈ containerList (Json.merge pod pod'), ∀ c ∈ h.wanted pod, c.Given y := by
  have wf := untouched.wellFormed
  obtain ⟨installer, booked, first⟩ := injectedPod_ok nodup wf run
  have merged := first.merge distinct wf
  -- The containers were bare, so each has now exactly what is wanted.
  have dressed : ∀ y ∈ containerList (Json.merge pod pod'),
      Fitted (h.wanted pod) y ∧ ∀ c ∈ h.wanted pod, c.Given y := by
    intro y hy
    rw [merged.containers] at hy
    obtain ⟨x, hx, rfl⟩ := List.mem_map.mp hy
    have foreign := untouched.containers x hx
    exact fitted_dressed _ _ _ (foreign.fitted _) foreign.isContainer
      ((distinct.get _).itemsAt _ x hx) (nodup.filter _) (fun c hc => ⟨hc, foreign.bare c⟩)
      fun c hc out => absurd hc out
  have added : Entries (stock (h.wanted pod)) (configVolumes pod ++
      (h.wanted pod).flatMap (Capability.volumes config)) := by
    have none := tally_eq_zero.mp (untouched.volumes Names.configVolume (by decide))
    have new : configVolumes pod = [secretVolume Names.configVolume Names.initSecret] :=
      if_neg (by simpa using none)
    rw [new]
    exact .cons (isObject_secretVolume _ _) rfl (entries_stock config (h.wanted pod))
  have inits : initContainerList (Json.merge pod pod') =
      initContainerList pod ++ [installer.stripNulls] := by
    rw [merged.initContainers]
    exact Json.mergeItems_append ((distinct.get _).itemsAt _) [installer]
  refine ⟨⟨merged.wellFormed, ?_, fun c hc => ?_, fun y hy => (dressed y hy).1, fun v hv => ?_, ?_,
    fun x hx => ?_⟩, ?_, fun y hy => (dressed y hy).2⟩
  · exact marked_of_marks merged
  · exact carries_of_marks merged hc
  · rw [tally_append merged.volumes added.stripNulls, untouched.volumes v hv, Nat.zero_add]
  · have stripped := booked.stripNulls
    rw [tally_append inits (.cons stripped.isContainer.object stripped.named .nil),
      untouched.installer]
    simp
  · rw [inits] at hx
    rcases List.mem_append.mp hx with old | new
    · exact .inr ⟨tally_eq_zero.mp untouched.installer x old, untouched.inits x old⟩
    · exact .inl (List.mem_singleton.mp new ▸ booked.stripNulls)
  · exact wanted_of_marks merged

theorem settled_of_repair {n : Nat} (settled : Settled (h.wanted pod) pod)
    (run : PodInstrumentation.repair h.injector config h.capabilities pod = (.ok n, pod')) :
    Settled (h.wanted pod) (Json.merge pod pod') ∧
      h.wanted (Json.merge pod pod') = h.wanted pod ∧
      ∀ y ∈ containerList (Json.merge pod pod'), ∀ c ∈ h.wanted pod, c.Given y := by
  have wf := settled.wellFormed
  obtain ⟨pod₁, xs, repaired, first, reinstalled⟩ := repair_ok h.injector config nodup wf
    (told_booked (h.wanted pod)) fun x => settled.booked
  cases repaired.symm.trans run
  have merged := first.merge distinct wf
  have dressed : ∀ y ∈ containerList (Json.merge pod pod'),
      Fitted (h.wanted pod) y ∧ ∀ c ∈ h.wanted pod, c.Given y := by
    intro y hy
    rw [merged.containers] at hy
    obtain ⟨x, hx, rfl⟩ := List.mem_map.mp hy
    exact fitted_repaired _ _ _ settled.carried (settled.containers x hx) (wf.isContainer x hx)
      ((distinct.get _).itemsAt _ x hx) (nodup.filter _)
  have inits := reinstalled.merge (fun _ _ => Booked.merge) ((distinct.get _).itemsAt _)
    fun x => settled.booked
  refine ⟨⟨merged.wellFormed, ?_, fun c hc => ?_, fun y hy => (dressed y hy).1, fun v hv => ?_, ?_,
    fun x hx => ?_⟩, ?_, fun y hy => (dressed y hy).2⟩
  · rw [← settled.marked, Pod.marked, Pod.marked, annotationText_eq merged (by simp)]
  · rw [Capability.carries, annotationText_eq merged (by simp)]
    exact settled.carried c hc
  · rw [tally_congr (merged.volumes.trans (List.append_nil _)), settled.volumes v hv]
  · have same : names "initContainers" (spec (Json.merge pod pod')) =
        names "initContainers" (spec pod) :=
      (congrArg _ merged.initContainers).trans (inits.names fun _ => Booked.named)
    rw [tally, same]
    exact settled.installer
  · rw [merged.initContainers] at hx
    exact (inits.mem hx).elim (settled.inits x) .inl
  · rw [wanted, wants_eq merged (by simp), Handler.wanted]

/-- A change settles an untouched pod and keeps a settled one so. -/
theorem Change.settled (standing : Standing h.capabilities pod)
    (change : h.Change ns config pod pod') :
    Settled (h.wanted pod) (Json.merge pod pod') ∧
      h.wanted (Json.merge pod pod') = h.wanted pod ∧
      ∀ y ∈ containerList (Json.merge pod pod'), ∀ c ∈ h.wanted pod, c.Given y := by
  cases change with
  | fresh unmarked _ run =>
    rcases standing with untouched | settled
    · exact settled_of_fresh nodup distinct untouched run
    · rw [settled.marked] at unmarked
      cases unmarked
  | repair marked _ run =>
    rcases standing with untouched | settled
    · rw [untouched.unmarked] at marked
      cases marked
    · exact settled_of_repair nodup distinct settled run

end Change

end Handler

/-- A patch that is sent for a well-formed pod can be run on it. -/
theorem admitted_of_patch {σ : Type} {answer : σ → (c : ApiCall) → Except Failure c.Answer × σ}
    {s s' : σ} {h : Handler} {request : Request} {deadline : Option Seconds} {report : Report}
    {pod : Json} (wf : WellFormed pod) (read : Json.ofBytes request.object = .ok pod)
    (ran : (h.handle request deadline).run answer s = (.ok report, s'))
    (changed : report.verdict.patch ≠ []) :
    ∃ pod', Admitted h.capabilities pod report.verdict.patch pod' := by
  obtain ⟨_, _, pod₁, _, _, _, _, _, patch⟩ := Handler.handle_change wf read ran changed
  refine ⟨Json.merge pod pod₁, rfl, read, ran, rfl, ?_⟩
  rw [patch, Json.apply_between (Json.distinct_ofBytes read)]

section Admission

variable {cs : List Capability} (nodup : cs.Nodup) {pod pod' : Json} {patch : Patch}
  (standing : Standing cs pod) (admitted : Admitted cs pod patch pod')
include nodup standing admitted

theorem standing_admitted : Standing cs pod' ∧
    (patch ≠ [] → ∀ c ∈ cs, c.wants pod = true → ∀ x ∈ containerList pod', c.Given x) := by
  obtain @⟨_, _, _, _, h, _, _, report, rfl, read, ran, rfl, applied⟩ := admitted
  -- An empty patch leaves the pod as it is, and every other one is that of a change.
  by_cases changed : report.verdict.patch = []
  · rw [changed] at applied
    cases applied
    exact ⟨standing, fun some => absurd changed some⟩
  · have distinct := Json.distinct_ofBytes read
    obtain ⟨_, _, pod₁, _, _, _, _, change, patch⟩ :=
      Handler.handle_change standing.wellFormed read ran changed
    rw [patch, Json.apply_between distinct] at applied
    cases applied
    obtain ⟨settled, wanted, given⟩ := change.settled nodup distinct standing
    have again : Settled (h.wanted (Json.merge pod pod₁)) (Json.merge pod pod₁) := by
      rw [wanted]
      exact settled
    exact ⟨.inr again, fun _ c hc wants x hx => given x hx c (List.mem_filter.mpr ⟨hc, wants⟩)⟩

end Admission

section History

variable {cs : List Capability} (nodup : cs.Nodup) {start pod : Json}
include nodup

theorem standing_step (standing : Standing cs start) (step : Step cs start pod) :
    Standing cs pod := by
  cases step with
  | admission admitted => exact (standing_admitted nodup standing admitted).1
  | insertion inserted => exact standing_inserted inserted standing

theorem standing_steps (untouched : Untouched start)
    (history : Relation.ReflTransGen (Step cs) start pod) : Standing cs pod := by
  induction history with
  | refl => exact .inl untouched
  | tail _ step ih => exact standing_step nodup ih step

/-- Whatever happens to an untouched pod, no capability is ever in a container twice or in part, and
an admission that sends a patch leaves every container with all capabilities that the pod wants. -/
theorem never_given_twice (untouched : Untouched start)
    (history : Relation.ReflTransGen (Step cs) start pod) :
    Sound pod ∧ ∀ patch pod', Admitted cs pod patch pod' → patch ≠ [] →
      ∀ c ∈ cs, c.wants pod = true → ∀ x ∈ containerList pod', c.Given x := by
  have standing := standing_steps nodup untouched history
  exact ⟨standing.sound nodup, fun _ _ admitted => (standing_admitted nodup standing admitted).2⟩

end History

def proxy : Json := .obj [("name", .str "proxy")]

def proxied : Json := withContainers (proxy :: containerList web) web

theorem foreign_proxy : Foreign proxy where
  isContainer := ⟨.intro (by simp), ⟨.inl rfl, nofun⟩, .inl rfl, nofun⟩
  preload := rfl
  mounts _ _ := rfl

theorem untouched_web : Untouched web where
  wellFormed := wellFormed_web
  unmarked := rfl
  containers x hx := by
    rw [List.mem_singleton.mp hx]
    exact ⟨isContainer_app, rfl, fun _ _ => rfl⟩
  volumes _ _ := rfl
  installer := rfl
  inits := nofun

theorem given_once_proxied : Sound proxied ∧ ∃ patch pod',
    Admitted someHandler.capabilities proxied patch pod' ∧ patch ≠ [] ∧
      ∀ x ∈ containerList pod', ∀ c : Capability, c.Given x := by
  have inserted : Inserted (containerList web) (proxy :: containerList web) :=
    .insert foreign_proxy (.keep _ .nil)
  obtain ⟨sound, given⟩ := never_given_twice (by decide : someHandler.capabilities.Nodup)
    untouched_web (.single (.insertion inserted))
  have read : Json.ofBytes (admissionOf proxied).object = .ok proxied := by decide +kernel
  obtain ⟨report, _, ran, changed⟩ := patched_shop proxied (by decide +kernel)
  obtain ⟨pod', admitted⟩ :=
    admitted_of_patch (wellFormed_inserted inserted wellFormed_web) read ran changed
  refine ⟨sound, _, pod', admitted, changed, fun x hx c => ?_⟩
  refine given _ pod' admitted changed c ?_ ?_ x hx
  · cases c <;> decide
  · cases c <;> decide +kernel

end PodInstrumentation.Admission
