import PodInstrumentation.Proofs.Capability.Repairing
import PodInstrumentation.Proofs.Capability.Telling
/-!
Repairs of well-formed pods, place by place. A repair fills the gaps of each container by what the
container was before, tells the installer of those it filled, and leaves the rest of the pod as it
was. -/
namespace PodInstrumentation

open Edit (Keeps)
open Pod

namespace Pod

theorem extended_extended {list : String} {c : Json} (h : c.IsObject) (xs ys : List Json) :
    extended list ys (extended list xs c) = extended list (xs ++ ys) c := by
  by_cases none : xs = []
  · simp [extended, none]
  · by_cases none' : ys = []
    · simp [extended, none']
    · simp [extended, none, none', h]

theorem append_eq_extended {owner owner' : Json} {list : String} {items : List Json}
    (h : append list items owner = .ok owner') (some : items ≠ []) :
    owner' = extended list items owner := by
  rw [extended, if_neg some]
  cases owner with
  | obj fs =>
    obtain ⟨ys, appended, written⟩ := bind_eq_ok_iff.mp h
    cases written
    have value : (fs.lookup list).getD .null = (Json.obj fs).get list := rfl
    rw [value] at appended
    rw [Json.set, Json.itemsAt]
    generalize (Json.obj fs).get list = v at appended
    cases v <;> cases appended <;> rfl
  | null | bool | int | float | str | arr => cases h

theorem noteContainer_extended {number : Int} {c x x' : Json}
    (h : noteContainer number c x = .ok x') : ∃ vars, x' = extended "env" vars x := by
  obtain ⟨has, _, h⟩ := bind_eq_ok_iff.mp h
  cases has with
  | true =>
    cases h
    exact ⟨[], rfl⟩
  | false =>
    cases c with
    | obj fs => exact ⟨_, append_eq_extended h (List.cons_ne_nil _ _)⟩
    | null | bool | int | float | str | arr => cases h

/-- The variables that tell of the containers which lack something, of those whose numbers are free.
The containers are numbered from the given one on. -/
def fills (lacks : Json → Bool) (env : List Json) (number : Nat) (cs : List Json) : List Json :=
  (cs.zipIdx number).flatMap fun c => if lacks c.1 && !knows env c.2 then pair c.2 c.1 else []

theorem told_eq_fills {lacks : Json → Bool} {dress : Json → Json} {cs : List Json}
    (same : ∀ c ∈ cs, dress c = c ↔ lacks c = false) (n : Nat) (env : List Json) :
    told n (cs.zip (cs.map dress)) env = env ++ fills lacks env n cs := by
  induction cs generalizing n env with
  | nil => simp [told, fills]
  | cons c cs ih =>
    rw [List.forall_mem_cons] at same
    obtain ⟨first, others⟩ := same
    have head : fills lacks env n (c :: cs) =
        (if lacks c && !knows env n then pair n c else []) ++ fills lacks env (n + 1) cs := rfl
    rw [head, List.map_cons, List.zip_cons_cons]
    cases lack : lacks c with
    | false =>
      rw [first.mpr lack, told_cons_same, ih others]
      rfl
    | true =>
      have changed : dress c ≠ c := fun e => by rw [first.mp e] at lack; cases lack
      -- The numbers of the later containers are as free as before.
      have later : fills lacks (noted n c env) (n + 1) cs = fills lacks env (n + 1) cs := by
        refine List.flatMap_congr fun d hd => ?_
        have above := List.le_snd_of_mem_zipIdx hd
        have apart : n ≠ d.2 := by omega
        rw [knows_noted, decide_eq_false apart, Bool.or_false]
      rw [told_cons_changed changed, ih others, later, noted]
      cases knows env n <;> simp

def relisted (f : List Json → List Json) : Json → Json
  | .arr xs => .arr (f xs)
  | v => v

section Relist

variable {j : Json} {key : String} {f g : List Json → List Json}

theorem relisted_congr (h : f (j.itemsAt key) = g (j.itemsAt key)) :
    (j.get? key).map (relisted f) = (j.get? key).map (relisted g) := by
  cases found : j.get? key with
  | none => rfl
  | some v =>
    cases v with
    | arr xs =>
      have items : j.itemsAt key = xs := itemsAt_of_arr (by rw [Json.get, found]; rfl)
      rw [items] at h
      simp [relisted, h]
    | null | bool | int | float | str | obj => rfl

theorem relisted_same (h : f (j.itemsAt key) = j.itemsAt key) :
    (j.get? key).map (relisted f) = j.get? key := by
  have same : relisted id = id := funext fun v => by cases v <;> rfl
  rw [relisted_congr (g := id) h, same, Option.map_id, id]

end Relist

structure Relisted (key : String) (f : List Json → List Json) (pod pod' : Json) : Prop where
  list : (spec pod').get? key = ((spec pod).get? key).map (relisted f)
  spec : ∀ other, other ≠ key → (spec pod').get? other = (spec pod).get? other
  top : ∀ other, other ≠ "spec" → pod'.get? other = pod.get? other

theorem relisted_of_put {pod : Json} (wf : WellFormed pod) {key : String}
    {f : List Json → List Json} {put : Json}
    (listed : ∀ xs, (spec pod).get key = .arr xs → put = setSpec pod key (.arr (f xs)))
    (vacant : (∀ xs, (spec pod).get key ≠ .arr xs) → put = pod) : Relisted key f pod put := by
  by_cases h : ∃ xs, (spec pod).get key = .arr xs
  · obtain ⟨xs, h⟩ := h
    have held : (spec pod).get? key = some (.arr xs) :=
      h ▸ Json.get?_of_get_ne_null (by simp [h])
    rw [listed xs h]
    refine ⟨?_, fun other ne => ?_, fun other ne => Json.get?_set_of_ne ne pod _⟩
    · rw [spec_setSpec wf.object, Json.get?_set_self wf.spec, held]
      rfl
    · rw [spec_setSpec wf.object, Json.get?_set_of_ne ne]
  · have none := fun xs hx => h ⟨xs, hx⟩
    rw [vacant none]
    refine ⟨?_, fun _ _ => rfl, fun _ _ => rfl⟩
    cases found : (spec pod).get? key with
    | none => rfl
    | some v =>
      have value : (spec pod).get key = v := by rw [Json.get, found]; rfl
      cases v with
      | arr xs => exact absurd value (none xs)
      | null | bool | int | float | str | obj => rfl

theorem relisted_putContainers {pod : Json} (wf : WellFormed pod) (cs : List Json) :
    Relisted "containers" (fun _ => cs) pod (putContainers cs pod) :=
  relisted_of_put wf (fun _ h => putContainers_arr h cs) fun h => putContainers_of_ne h cs

theorem relisted_putInstaller {pod : Json} (wf : WellFormed pod) (i : Nat) (x : Json) :
    Relisted "initContainers" (fun xs => xs.set i x) pod (putInstaller i x pod) :=
  relisted_of_put wf (fun _ h => putInstaller_arr h i x) fun h => putInstaller_of_ne h i x

end Pod

def Site.Tells (s s' : Site) : Prop :=
  s.installer.IsObject → ∃ vars, s'.installer = extended "env" vars s.installer

instance : Std.Refl Site.Tells := ⟨fun _ _ => ⟨[], rfl⟩⟩

instance : Trans Site.Tells Site.Tells Site.Tells where
  trans h h' object := by
    obtain ⟨xs, same⟩ := h object
    obtain ⟨ys, same'⟩ := h' (same ▸ isObject_extended object "env" xs)
    exact ⟨xs ++ ys, by rw [same', same, extended_extended object]⟩

theorem repairSite_tells {j : Injector} {config : MonitoringConfig} {pod : Json}
    (installer? : Shaped (Option (Nat × Json))) (number : Int) (cs : List Capability) :
    Keeps Site.Tells (repairSite j config pod installer? number cs) := by
  refine repairSite_keeps (fun number => Keeps.step fun s s' h _ => ?_) (fun c => ?_) _ _ _
  · obtain ⟨x, noted, h⟩ := bind_eq_ok_iff.mp h
    cases h
    exact noteContainer_extended noted
  · exact Keeps.on (T := fun _ _ => True) Site.container (fun s c => { s with container := c })
      (fun _ _ _ _ => trivial) fun _ _ _ _ => ⟨[], rfl⟩

theorem sweep_tells {step : Nat → Edit Site Bool} (h : ∀ i, Keeps Site.Tells (step i))
    {i n : Nat} {cs cs' : List Json} {x x' : Json} (swept : sweep step i cs x = (.ok n, cs', x'))
    (object : x.IsObject) : ∃ vars, x' = extended "env" vars x := by
  induction cs generalizing i n cs' x with
  | nil =>
    cases swept
    exact ⟨[], rfl⟩
  | cons c cs ih =>
    obtain ⟨_, _, x₁, _, _, ran, rest, rfl⟩ := sweep_cons_eq_ok swept
    obtain ⟨xs, rfl⟩ := h i ⟨c, x⟩ _ _ ran object
    obtain ⟨ys, rfl⟩ := ih rest (isObject_extended object "env" xs)
    exact ⟨xs ++ ys, extended_extended object xs ys⟩

namespace Capability

/-- What a container should have of the capabilities and has not: those that the pod wants and
carries and of which the container has no sign. -/
def missing (pod : Json) (cs : List Capability) (x : Json) : List Capability :=
  cs.filter fun c => c.wants pod && c.carries pod && !c.has x

theorem lacking_wanted (pod : Json) (cs : List Capability) (x : Json) :
    lacking pod (cs.filter (wants pod)) x = missing pod cs x := by
  rw [lacking, List.filter_filter, missing]
  exact List.filter_congr fun c _ => by
    cases c.wants pod <;> cases c.carries pod <;> cases c.has x <;> rfl

/-- A container with something missing is not the same afterwards. -/
theorem dress_missing_iff (j : Injector) (config : MonitoringConfig) (path : String) (pod : Json)
    (cs : List Capability) {x : Json} (h : IsContainer x) :
    dress j config path (missing pod cs x) x = x ↔ (!(missing pod cs x).isEmpty) = false := by
  cases all : missing pod cs x with
  | nil => exact ⟨fun _ => rfl, fun _ => rfl⟩
  | cons c ds =>
    have there : c ∈ missing pod cs x := all ▸ List.mem_cons_self
    have lacks : c.has x = false := by
      have := (List.mem_filter.mp there).2
      simpa using (Bool.and_eq_true_iff.mp this).2
    have has := has_dress j config path h (c :: ds) c
    refine ⟨fun same => ?_, nofun⟩
    rw [same, lacks, decide_eq_true List.mem_cons_self] at has
    cases has

end Capability

theorem modify_findIdx {α : Type} {p : α → Bool} {before after : List α} {x : α}
    (others : ∀ y ∈ before, p y = false) (named : p x = true) (f : α → α) :
    (before ++ x :: after).modify ((before ++ x :: after).findIdx p) f =
      before ++ f x :: after := by
  induction before with
  | nil => simp [List.findIdx_cons, named]
  | cons y before ih =>
    rw [List.forall_mem_cons] at others
    simp [List.findIdx_cons, others.1, ih others.2]

structure Filled (dress : Json → Json) (lacks : Json → Bool) (pod pod' : Json) : Prop where
  containers : (spec pod').get? "containers" =
    ((spec pod).get? "containers").map (relisted (List.map dress))
  initContainers : (spec pod').get? "initContainers" =
    ((spec pod).get? "initContainers").map (relisted fun xs =>
      xs.modify (xs.findIdx (Named Names.installer)) fun x =>
        extended "env" (fills lacks (x.itemsAt "env") 1 (containerList pod)) x)
  spec : ∀ key, key ≠ "containers" → key ≠ "initContainers" →
    (spec pod').get? key = (spec pod).get? key
  top : ∀ key, key ≠ "spec" → pod'.get? key = pod.get? key

namespace Filled

variable {dress : Json → Json} {lacks : Json → Bool} {pod pod₁ pod' : Json}
  (put : Relisted "containers" (fun _ => (containerList pod).map dress) pod pod₁)
include put

theorem of_absent (absent : ∀ x ∈ initContainerList pod, Named Names.installer x = false) :
    Filled dress lacks pod pod₁ where
  containers := put.list.trans (relisted_congr rfl)
  initContainers := by
    rw [put.spec _ (by decide), relisted_same]
    rw [List.findIdx_eq_length.mpr absent, List.modify_eq_self (Nat.le_refl _)]
  spec key hc _ := put.spec key hc
  top := put.top

theorem of_found {before after : List Json} {x : Json}
    (listed : initContainerList pod = before ++ x :: after)
    (named : Named Names.installer x = true)
    (others : ∀ y ∈ before, Named Names.installer y = false)
    (put' : Relisted "initContainers" (fun xs => xs.set before.length
      (extended "env" (fills lacks (x.itemsAt "env") 1 (containerList pod)) x)) pod₁ pod') :
    Filled dress lacks pod pod' where
  containers := by
    rw [put'.spec _ (by decide), put.list]
    exact relisted_congr rfl
  initContainers := by
    rw [put'.list, put.spec _ (by decide)]
    refine relisted_congr ?_
    rw [initContainerList] at listed
    rw [listed, modify_findIdx others named]
    simp
  spec key hc hi := (put'.spec key hi).trans (put.spec key hc)
  top key hs := (put'.top key hs).trans (put.top key hs)

end Filled

/-- What a repair of a well-formed pod writes: the containers, and the first installer with more
variables, if there is one. They are those that tell of the changed containers. -/
theorem repair_writes {j : Injector} {config : MonitoringConfig} {cs : List Capability}
    {pod pod' : Json} {n : Nat} (wf : WellFormed pod)
    (ran : repair j config cs pod = (.ok n, pod')) :
    ((∀ x ∈ initContainerList pod, Named Names.installer x = false) ∧
      pod' = putContainers (containerList pod') pod) ∨
    ∃ before x after vars, initContainerList pod = before ++ x :: after ∧
      Named Names.installer x = true ∧ (∀ y ∈ before, Named Names.installer y = false) ∧
      pod' = putInstaller before.length (extended "env" vars x)
        (putContainers (containerList pod') pod) ∧
      x.itemsAt "env" ++ vars =
        told 1 ((containerList pod).zip (containerList pod')) (x.itemsAt "env") := by
  obtain ⟨wanted, ys, _, read, place⟩ := repair_eq_ok ran
  cases (containers_each wf).symm.trans read
  have objects : ∀ c ∈ containerList pod, ∃ fs, c = .obj fs :=
    fun c hc => (wf.isContainer c hc).object.eq_obj
  rcases place with ⟨i, x, ys', x', found, swept, rfl⟩ | ⟨x, ys', x', none, swept, rfl⟩
  · have written := (containers_each_objects read objects (sweep_repair_grows swept).1).2
    rcases findInstaller_ok wf with ⟨none, _⟩ | ⟨before, y, after, found', listed, named, others⟩
    · cases none.symm.trans found
    · cases found'.symm.trans found
      have object := (wf.isInitContainer x (by simp [listed])).object
      obtain ⟨vars, rfl⟩ := sweep_tells (fun i => repairSite_tells _ _ _) swept object
      rw [found] at swept
      refine .inr ⟨before, x, after, vars, listed, named, others, ?_, ?_⟩
      · rw [containerList_putInstaller, written]
      · rw [containerList_putInstaller, written, ← (sweep_repaired swept).2,
          itemsAt_extended_self object]
  · have written := (containers_each_objects read objects (sweep_repair_grows swept).1).2
    rcases findInstaller_ok wf with ⟨_, absent⟩ | ⟨before, y, after, found, _⟩
    · exact .inl ⟨absent, by rw [written]⟩
    · exact absurd found (none _)

/-- A repair counts the containers that lack something and fills the gaps of the pod. -/
theorem repair_fills (j : Injector) (config : MonitoringConfig) {cs : List Capability}
    (nodup : cs.Nodup) {pod : Json} (wf : WellFormed pod) :
    ∃ pod', repair j config cs pod = (.ok ((containerList pod).countP fun x =>
        !(Capability.missing pod cs x).isEmpty), pod') ∧
      Filled (fun x => Capability.dress j config (Agent.installPath pod)
        (Capability.missing pod cs x) x) (fun x => !(Capability.missing pod cs x).isEmpty)
        pod pod' := by
  obtain ⟨pod', xs', ran, rewritten, -⟩ := repair_ok j config nodup wf told_isContainer
    fun x hx _ => wf.isInitContainer x hx
  simp only [Capability.lacking_wanted] at ran rewritten
  refine ⟨pod', ran, ?_⟩
  generalize lacking : (fun x => !(Capability.missing pod cs x).isEmpty) = lacks
  generalize dressing : (fun x => Capability.dress j config (Agent.installPath pod)
    (Capability.missing pod cs x) x) = dress at rewritten ⊢
  have same : ∀ c ∈ containerList pod, dress c = c ↔ lacks c = false := by
    subst dressing lacking
    exact fun c hc => Capability.dress_missing_iff j config _ pod cs (wf.isContainer c hc)
  have dressed : ∀ c ∈ containerList pod, IsContainer (dress c) := by
    have all := rewritten.wellFormed.isContainer
    rw [rewritten.containers] at all
    exact fun c hc => all _ (List.mem_map_of_mem hc)
  have put := relisted_putContainers wf ((containerList pod).map dress)
  rcases repair_writes wf ran with
    ⟨absent, written⟩ | ⟨before, x, after, vars, listed, named, others, written, env⟩
  · rw [rewritten.containers] at written
    rw [written]
    exact .of_absent put absent
  · rw [rewritten.containers] at written env
    rw [told_eq_fills same, List.append_cancel_left_eq] at env
    rw [written, env]
    exact .of_found put listed named others
      (relisted_putInstaller (rewritten_putContainers wf dressed).wellFormed before.length _)

def mountedApp : Json := .obj [("name", .str "app"),
  ("volumeMounts", .arr [mount Names.enrichmentVolume "/enrichment"])]

def lateSide : Json := .obj [("name", .str "side"), ("image", .str "side:2")]

def oldInstaller : Json := .obj [("name", .str Names.installer), ("env", .arr (pair 1 mountedApp))]

def partly : Json := .obj [
  ("metadata", .obj [("annotations", .obj [(Names.enrichmentInjected, .str "true")])]),
  ("spec", .obj [
    ("containers", .arr [mountedApp, lateSide]),
    ("initContainers", .arr [oldInstaller])])]

theorem wellFormed_partly : WellFormed partly := by
  have mounts : ∀ x ∈ [mount Names.enrichmentVolume "/enrichment"], x.IsObject :=
    List.forall_mem_singleton.mpr (isObject_mount _ _)
  have vars : ∀ x ∈ pair 1 mountedApp, x.IsObject :=
    List.forall_mem_cons.mpr ⟨isObject_envVar _ _,
      List.forall_mem_singleton.mpr (isObject_envVar _ _)⟩
  have containers : ∀ c ∈ [mountedApp, lateSide], IsContainer c :=
    List.forall_mem_cons.mpr ⟨⟨.intro (by decide), .of_null rfl, .of_arr rfl mounts⟩,
      List.forall_mem_singleton.mpr ⟨.intro (by decide), .of_null rfl, .of_null rfl⟩⟩
  have inits : ∀ c ∈ [oldInstaller], IsContainer c :=
    List.forall_mem_singleton.mpr ⟨.intro (by decide), .of_arr rfl vars, .of_null rfl⟩
  exact {
    object := .intro (by decide)
    metadata := .intro (by decide)
    annotations := .inr ⟨.intro (by decide), fun key v h => by
      have held : (key, v) ∈ [(Names.enrichmentInjected, Json.str "true")] :=
        Fields.mem_of_lookup h
      cases List.mem_singleton.mp held
      exact ⟨_, rfl⟩⟩
    spec := .intro (by decide)
    containers := .of_arr rfl fun c hc => (containers c hc).object
    isContainer := containers
    initContainers := .of_arr rfl fun c hc => (inits c hc).object
    isInitContainer := inits
    volumes := .of_null rfl }

def directConfig : MonitoringConfig where
  name := "prod"
  ns := "monitoring"
  annotations := []
  spec := ⟨"https://agents", none, none, none, false, .applicationMonitoring false []⟩

theorem repair_fills_partly : [Capability.agent, .enrichment].Nodup ∧ WellFormed partly ∧
    ∃ pod', repair ⟨⟨"monitoring", "c1"⟩, "1.0", 3⟩ directConfig [.agent, .enrichment] partly =
        (.ok 1, pod') ∧
      (spec pod').get? "initContainers" = some (.arr [.obj [("name", .str Names.installer),
        ("env", .arr (pair 1 mountedApp ++ pair 2 lateSide))]]) := by
  have nodup : [Capability.agent, .enrichment].Nodup := by decide
  obtain ⟨pod', ran, filled⟩ :=
    repair_fills ⟨⟨"monitoring", "c1"⟩, "1.0", 3⟩ directConfig nodup wellFormed_partly
  refine ⟨nodup, wellFormed_partly, pod', ran, ?_⟩
  rw [filled.initContainers]
  decide +kernel

end PodInstrumentation
