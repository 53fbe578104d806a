import PodInstrumentation.Proofs.Admission.Additive
import PodInstrumentation.Proofs.Admission.Idempotence
import PodInstrumentation.Proofs.Admission.Pairing
import PodInstrumentation.Proofs.Cluster.Pairing
import PodInstrumentation.Proofs.Workload.Following
import PodInstrumentation.Proofs.Workload.Injecting
/-!
Owners of pods in an admission. What is read of them is told to the installer in the values of two
variables, and shows nowhere else in the answer. -/
namespace PodInstrumentation

open Pod (OtherWorkload podRoom spec initContainerList)

def OtherLast (before : List Json) (v w : Json) : Prop :=
  ∃ x x', v = .arr (before ++ [x]) ∧ w = .arr (before ++ [x']) ∧
    x.get "name" = .str Names.installer ∧ OtherWorkload x x'

/-- The second document is the first one with another installer of this kind after the init
containers of the pod. -/
def OtherInstaller (pod p p' : Json) : Prop :=
  p.SameBut "spec" (Json.SameBut "initContainers" (OtherLast (initContainerList pod))) p'

structure Draft.Of (pod : Json) (d : Draft) : Prop where
  grown : Json.Grows (podRoom .closed) pod d.pod
  named : d.installer.get "name" = .str Names.installer

theorem Draft.Of.of_grows {pod : Json} {d d' : Draft} (h : d.Of pod)
    (grows : Draft.Grows .closed d d') : d'.Of pod where
  grown := h.grown.trans grows.1
  named := (grows.2.get_closed rfl).trans h.named

namespace Admission

namespace Handler

section Injected

variable {pod : Json}

theorem metadata_of_grows (wf : Pod.WellFormed pod) {p : Json}
    (grown : Json.Grows (podRoom .closed) pod p) : (Pod.metadata p).IsObject ∧
      (Pod.metadata p).get "ownerReferences" = (Pod.metadata pod).get "ownerReferences" := by
  have part := grown.get_object "metadata" rfl wf.metadata
  exact ⟨part.isObject wf.metadata, part.get_closed rfl⟩

theorem spec_of_grows (wf : Pod.WellFormed pod) {p : Json}
    (grown : Json.Grows (podRoom .closed) pod p) : (spec p).IsObject ∧
      (spec p).get "initContainers" = (spec pod).get "initContainers" := by
  have part := grown.get_object "spec" rfl wf.spec
  exact ⟨part.isObject wf.spec, part.get_closed rfl⟩

structure TwinPods (pod p p' : Json) : Prop where
  object : p.IsObject
  differ : p.SameBut "spec" (fun v w => v.IsObject ∧
    v.SameBut "initContainers" (OtherLast (initContainerList pod)) w) p'

def withLast (pod p x : Json) : Json :=
  p.set "spec" ((spec p).set "initContainers" (.arr (initContainerList pod ++ [x])))

theorem addInstaller_grown (wf : Pod.WellFormed pod) {p : Json}
    (grown : Json.Grows (podRoom .closed) pod p) (x : Json) :
    Pod.addInstaller x p = .ok (withLast pod p x) := by
  obtain ⟨object, same⟩ := spec_of_grows wf grown
  have listed : (spec p).Listed "initContainers" := by
    have listed := wf.initContainers
    unfold Json.Listed Json.itemsAt at listed ⊢
    rwa [same]
  have items : (spec p).itemsAt "initContainers" = initContainerList pod := by
    rw [Json.itemsAt, same]
    rfl
  rw [withLast, ← items]
  exact Pod.changePart_ok (grown.isObject wf.object) object (Pod.append_ok object listed [x])

theorem withLast_twins {p x x' : Json} (object : p.IsObject) (inner : (spec p).IsObject)
    (named : x.get "name" = .str Names.installer) (told : OtherWorkload x x') :
    TwinPods pod (withLast pod p x) (withLast pod p x') where
  object := object.set _ _
  differ := by
    have set : ∀ xs, (spec p).set "initContainers" (.arr xs) ≠ .null := fun xs e => by
      have set := inner.set "initContainers" (.arr xs)
      rw [e] at set
      cases set
    exact .of_set object (set _) (set _)
      ⟨inner.set _ _, .of_set inner nofun nofun ⟨x, x', rfl, rfl, named, told⟩⟩

theorem annotate_twins {p p' : Json} (twins : TwinPods pod p p') (key value : String) :
    Agree (TwinPods pod) (Pod.annotate key value p) (Pod.annotate key value p') := by
  have same := twins.differ.get?_of_ne (l := "metadata") (by decide)
  unfold Pod.annotate
  rw [Pod.changePart_eq twins.object, Pod.changePart_eq (twins.differ.isObject twins.object), same]
  refine (Agree.of_eq (q := Eq) fun _ => rfl).bind ?_
  rintro m _ rfl
  exact .ok ⟨twins.object.set _ _, twins.differ.set_of_ne (by decide) m⟩

theorem finish_twins (wf : Pod.WellFormed pod) {d d' : Draft} (twin : d.Twin d') (of : d.Of pod) :
    Agree (TwinPods pod) (finish d) (finish d') := by
  unfold finish
  rw [twin.pod, addInstaller_grown wf of.grown, addInstaller_grown wf of.grown, ok_bind, ok_bind]
  exact annotate_twins (withLast_twins (of.grown.isObject wf.object) (spec_of_grows wf of.grown).1
    of.named twin.installer) _ _

/-- What the pod becomes by the patches to two such pods. -/
theorem TwinPods.merge (wf : Pod.WellFormed pod) (distinct : pod.Distinct) {p p' : Json}
    (twins : TwinPods pod p p') : OtherInstaller pod (Json.merge pod p) (Json.merge pod p') := by
  refine twins.differ.merge wf.object twins.object fun v w ⟨object, lists⟩ => ?_
  refine lists.merge wf.spec object ?_
  rintro _ _ ⟨x, x', rfl, rfl, named, told⟩
  have last : ∀ x, Json.merge ((spec pod).get "initContainers")
      (.arr (initContainerList pod ++ [x])) = .arr (initContainerList pod ++ [x.stripNulls]) := by
    intro x
    rcases wf.initContainers.1 with none | ⟨xs, listed⟩
    · have empty : initContainerList pod = [] := by rw [initContainerList, Json.itemsAt, none]; rfl
      rw [none, empty, Json.merge_null_left]
      rfl
    · have items : initContainerList pod = xs := by
        rw [initContainerList, Json.itemsAt, listed]
        rfl
      have parts : ∀ y ∈ xs, y.Distinct := items ▸ (distinct.get "spec").itemsAt "initContainers"
      rw [listed, items, Json.merge_arr, Json.mergeItems_append parts]
      rfl
  refine ⟨_, _, last x, last x', ?_, told.stripNulls⟩
  rw [Json.get_stripNulls told.object, named]
  rfl

end Injected

section Clusters

variable {σ τ : Type} {answer : σ → (c : ApiCall) → Except Failure c.Answer × σ}
  {answer' : τ → (c : ApiCall) → Except Failure c.Answer × τ} {R : σ → τ → Prop} {h : Handler}
  {ns : String} {config : MonitoringConfig} {pod : Json}

def OwnersRead (answer : σ → (c : ApiCall) → Except Failure c.Answer × σ)
    (answer' : τ → (c : ApiCall) → Except Failure c.Answer × τ) (R : σ → τ → Prop) : Prop :=
  ∀ s t path, R s t → IsOwnerAnswer (answer s (.readObject path)).1 ∧
    IsOwnerAnswer (answer' t (.readObject path)).1

theorem workload_paired (alike : AlikeBut answer answer' R .object)
    (owners : OwnersRead answer answer' R) (wf : Pod.WellFormed pod)
    (references : AreReferences ((Pod.metadata pod).get "ownerReferences")) {d : Draft}
    (of : d.Of pod) (j : Injector) (ns : String) :
    Attempt.Paired answer answer' R (fun w w' => Pod.Known w ∧ Pod.Known w')
      (Enrichment.workload j ns d.pod) (Enrichment.workload j ns d.pod) := by
  intro s t related
  obtain ⟨metadata, same⟩ := metadata_of_grows wf of.grown
  have object := of.grown.isObject wf.object
  have left : AnswersOwners answer (R · t) :=
    ⟨fun path inv => (owners _ _ path inv).1, fun path inv => alike.left _ inv rfl⟩
  obtain ⟨w, s', ran, known, inv⟩ :=
    OwnerChain.workload_ok left j ns object metadata (same ▸ references) related
  have right : AnswersOwners answer' (R s') :=
    ⟨fun path inv => (owners _ _ path inv).2, fun path inv => alike.right _ inv rfl⟩
  obtain ⟨w', t', ran', known', inv'⟩ :=
    OwnerChain.workload_ok right j ns object metadata (same ▸ references) inv
  show Agree _ ((Enrichment.workload j ns d.pod).play answer s).1
      ((Enrichment.workload j ns d.pod).play answer' t).1 ∧
    R ((Enrichment.workload j ns d.pod).play answer s).2
      ((Enrichment.workload j ns d.pod).play answer' t).2
  rw [ran, ran']
  exact ⟨.ok ⟨known, known'⟩, inv'⟩

theorem prepare_twins (alike : AlikeBut answer answer' R .object)
    (owners : OwnersRead answer answer' R) (wf : Pod.WellFormed pod)
    (references : AreReferences ((Pod.metadata pod).get "ownerReferences")) {d : Draft}
    (of : d.Of pod) (c : Capability) (j : Injector) :
    Attempt.Paired answer answer' R (Edit.Paired fun d d' => d.Twin d' ∧ d.Of pod)
      (c.prepare j config ns d.pod) (c.prepare j config ns d.pod) := by
  have ensured := fun which => Attempt.Paired.of_asks (alike.on (by decide : _ ∉ [.secret]))
    (j.provisioner.asks_ensure config ns which)
  have prepared := Capability.prepare_paired ensured
    (workload_paired alike owners wf references of j ns) (Agent.edit_twin j config)
    (fun w w' known => Enrichment.edit_twin j config known.1 known.2) c
  have keeps : ∀ {s t edit s'}, R s t →
      (c.prepare j config ns d.pod).play answer s = (.ok edit, s') →
      Edit.Keeps (Draft.Grows .closed) edit := fun _ ran => Capability.prepared_keeps ran
  exact (prepared.and_left keeps).mono fun e e' ⟨twin, keeps⟩ =>
    twin.and_keeps keeps fun _ _ => Draft.Of.of_grows

theorem injectedPod_twins (alike : AlikeBut answer answer' R .object)
    (owners : OwnersRead answer answer' R) (wf : Pod.WellFormed pod)
    (references : AreReferences ((Pod.metadata pod).get "ownerReferences")) :
    Attempt.Paired answer answer' R (TwinPods pod) (h.injectedPod ns config pod)
      (h.injectedPod ns config pod) := by
  refine injectedPod_paired (D := fun d d' => d.Twin d' ∧ d.Of pod) ?_ (fun _ _ d => d.1.pod)
    (fun c d d' ⟨_, of⟩ => prepare_twins alike owners wf references of c h.injector)
    fun d d' ⟨twin, of⟩ => finish_twins wf twin of
  intro p x made added
  obtain ⟨named, isContainer, env, _⟩ := newInstaller_ok made
  obtain ⟨vars, listed⟩ : ∃ vars, x.get "env" = .arr vars := by
    rcases isContainer.env.1 with none | listed
    · rw [Json.itemsAt, none] at env
      cases env.named
    · exact listed
  exact ⟨⟨rfl, .refl isContainer.object listed⟩, Pod.addConfigVolume_grows added, named⟩

theorem decide_twins (alike : AlikeBut answer answer' R .object)
    (owners : OwnersRead answer answer' R) {request : Request}
    (read : Json.ofBytes request.object = .ok pod) (wf : Pod.WellFormed pod)
    (references : AreReferences ((Pod.metadata pod).get "ownerReferences")) :
    Interaction.Paired answer answer' R (SameDecision (TwinPods pod) pod) (h.decide request)
      (h.decide request) := by
  cases decoded : decode request.object with
  | error e => exact decide_paired_of_undecoded decoded
  | ok pod' =>
    have same : pod' = pod := Except.ok.inj ((decode_eq_ok_iff.mp decoded).1.symm.trans read)
    subst same
    have courses := Attempt.Paired.of_asks (alike.on (by decide : _ ∉ [.space, .config, .event]))
      (h.asks_course request pod')
    have metadata : ∀ p p', TwinPods pod' p p' → p'.field "metadata" = p.field "metadata" :=
      fun p p' twins => by
        rw [twins.object.field, (twins.differ.isObject twins.object).field,
          twins.differ.get_of_ne (by decide)]
    exact decide_paired (I := fun _ => True) (alike.on (by decide)) metadata decoded
      (courses.mono fun _ _ same => ⟨same, trivial⟩)
      fun ns config _ => injectedPod_twins alike owners wf references

end Clusters

theorem podName_of_read {request : Request} {pod : Json} (wf : Pod.WellFormed pod)
    (read : Json.ofBytes request.object = .ok pod) : ∃ name, podName request = .ok name := by
  cases decoded : decode request.object with
  | ok pod' =>
    have same : pod' = pod := Except.ok.inj ((decode_eq_ok_iff.mp decoded).1.symm.trans read)
    exact podName_ok (same ▸ wf) decoded
  | error e =>
    cases named : podName request with
    | ok name => exact ⟨name, rfl⟩
    | error e' =>
      obtain ⟨_, decoded', _⟩ := (podName_eq_error_iff request).mp ⟨e', named⟩
      cases decoded.symm.trans decoded'

theorem patch_applies {σ : Type} {answer : σ → (c : ApiCall) → Except Failure c.Answer × σ}
    {s s' : σ} {h : Handler} {request : Request} {deadline : Option Seconds} {report : Report}
    {pod : Json} (read : Json.ofBytes request.object = .ok pod)
    (ran : (h.handle request deadline).run answer s = (.ok report, s')) :
    ∃ p, Patch.apply report.verdict.patch pod = some p := by
  by_cases changed : report.verdict.patch = []
  · exact ⟨pod, by rw [changed]; rfl⟩
  · obtain ⟨_, _, _, pod', _, _, sent, _⟩ := handle_eq_ok read ran changed
    exact ⟨_, by rw [sent, Json.apply_between (Json.distinct_ofBytes read)]⟩

end Handler

/-- For every well-formed pod two clusters that answer alike all but what is read of owners come to
the same outcome and message, and to pods that differ in the values that tell the workload at
most. -/
theorem owners_told_only {σ τ : Type} {answer : σ → (c : ApiCall) → Except Failure c.Answer × σ}
    {answer' : τ → (c : ApiCall) → Except Failure c.Answer × τ} {R : σ → τ → Prop}
    (alike : AlikeBut answer answer' R .object) (owners : Handler.OwnersRead answer answer' R)
    (h : Handler) {request : Request} (deadline : Option Seconds) {pod : Json}
    (read : Json.ofBytes request.object = .ok pod) (wf : Pod.WellFormed pod)
    (references : AreReferences ((Pod.metadata pod).get "ownerReferences")) {s : σ} {t : τ}
    (related : R s t) :
    ∃ report report' p p', ((h.handle request deadline).run answer s).1 = .ok report ∧
      ((h.handle request deadline).run answer' t).1 = .ok report' ∧
      report'.outcome = report.outcome ∧ report'.verdict.message = report.verdict.message ∧
      Patch.apply report.verdict.patch pod = some p ∧
      Patch.apply report'.verdict.patch pod = some p' ∧ (p' = p ∨ OtherInstaller pod p p') := by
  obtain ⟨name, named⟩ := Handler.podName_of_read wf read
  have distinct := Json.distinct_ofBytes read
  have decided := Handler.decide_twins (h := h) alike owners read wf references
  obtain ⟨agree, _⟩ := Handler.handle_paired deadline named decided s t related
  rcases ran : (h.handle request deadline).run answer s with ⟨r, s'⟩
  rcases ran' : (h.handle request deadline).run answer' t with ⟨r', t'⟩
  rw [ran, ran'] at agree
  cases agree with
  | error e => cases (Handler.handle_run answer s h request deadline named).symm.trans ran
  | @ok report report' parts =>
    have outcome : report'.outcome = report.outcome := by rw [parts.same]
    have message : report'.verdict.message = report.verdict.message := by rw [parts.same]
    obtain ⟨p, applied⟩ := Handler.patch_applies read ran
    rcases parts.patches with same | ⟨q, q', twins, first, second⟩
    · exact ⟨report, report', p, p, rfl, rfl, outcome, message, applied, same ▸ applied, .inl rfl⟩
    · exact ⟨report, report', _, _, rfl, rfl, outcome, message,
        by rw [first, Json.apply_between distinct], by rw [second, Json.apply_between distinct],
        .inr (twins.merge wf distinct)⟩

def OwnersFine (s : Store) : Prop := ∀ path, IsOwnerAnswer (Store.find s.objects path)

theorem objects_answer (s : Store) (c : ApiCall) : (Store.answer s c).2.objects = s.objects := by
  cases c with
  | createSecret m =>
    simp only [Store.answer, Store.serve]
    cases s.createErrors.lookup (Store.slot m.ns m.name) <;> rfl
  | createEvent e =>
    simp only [Store.answer, Store.serve]
    cases s.eventError <;> rfl
  | readNamespace | readConfig | readSecret | readObject | readPod => rfl

structure OtherOwners (s t : Store) : Prop where
  same : t.blind .object = s.blind .object
  left : OwnersFine s
  right : OwnersFine t

theorem OwnersFine.answer {s : Store} (h : OwnersFine s) (c : ApiCall) :
    OwnersFine (Store.answer s c).2 := fun path => by
  rw [objects_answer]
  exact h path

theorem alikeBut_owners : AlikeBut Store.answer Store.answer OtherOwners .object where
  answers c h other := (Store.alikeBut_blind .object).answers c h.same other
  states c h other :=
    ⟨(Store.alikeBut_blind .object).states c h.same other, h.left.answer c, h.right.answer c⟩
  left c h kind :=
    ⟨(Store.alikeBut_blind .object).left c h.same kind, h.left.answer c, h.right⟩
  right c h kind :=
    ⟨(Store.alikeBut_blind .object).right c h.same kind, h.left, h.right.answer c⟩

theorem ownersRead_owners : Handler.OwnersRead Store.answer Store.answer OtherOwners :=
  fun _ _ path h => ⟨h.left path, h.right path⟩

theorem ownersFine_of_table {s : Store}
    (fine : ∀ entry ∈ s.objects, IsOwnerAnswer entry.2) : OwnersFine s := by
  intro path
  unfold Store.find
  cases found : s.objects.lookup path with
  | none => rfl
  | some answer =>
    obtain ⟨before, after, table, _⟩ := List.lookup_eq_some_iff.mp found
    exact fine (path, answer) (by simp [table])

def controllerOf (kind name : String) : Json := .obj [
  ("apiVersion", .str "apps/v1"),
  ("kind", .str kind),
  ("name", .str name),
  ("controller", .bool true)]

theorem areReferences_controllerOf (kind name : String) :
    AreReferences (.arr [controllerOf kind name]) :=
  .inr ⟨_, rfl, fun _ hj => ⟨_, kind, "apps/v1", name, List.mem_singleton.mp hj, rfl, rfl, rfl⟩⟩

def owned : Json := .obj [
  ("metadata", .obj [
    ("name", .str "web"),
    ("ownerReferences", .arr [controllerOf "ReplicaSet" "web-1"])]),
  ("spec", .obj [("containers", .arr [.obj [("name", .str "app")]])])]

theorem wellFormed_owned : Pod.WellFormed owned where
  object := .intro (by simp)
  metadata := .intro (by simp)
  annotations := .inl rfl
  spec := .intro (by simp)
  containers := wellFormed_web.containers
  isContainer := wellFormed_web.isContainer
  initContainers := ⟨.inl rfl, nofun⟩
  isInitContainer := nofun
  volumes := ⟨.inl rfl, nofun⟩

def shopOfOwners : Store :=
  { shop with objects := [
      (objectPath "apps/v1" "replicasets" "web-1" "shop", .ok (.obj [("metadata", .obj [
        ("ownerReferences", .arr [controllerOf "Deployment" "web"])])])),
      (objectPath "apps/v1" "deployments" "web" "shop", .ok (.obj [("metadata", .obj [
        ("ownerReferences", .arr [controllerOf "ReplicaSet" "web-1"])])]))] }

theorem otherOwners_shop : OtherOwners shop shopOfOwners where
  same := rfl
  left := ownersFine_of_table nofun
  right := ownersFine_of_table fun entry there => by
    simp only [shopOfOwners, List.mem_cons, List.not_mem_nil, or_false] at there
    rcases there with rfl | rfl <;> exact ⟨_, rfl, areReferences_controllerOf _ _⟩

/-- The owners of this pod show in its patch, where they cannot be read and where they refer to each
other in a cycle. -/
theorem owners_told_shop :
    ((someHandler.handle (admissionOf owned) none).run Store.answer shop).1 ≠
      ((someHandler.handle (admissionOf owned) none).run Store.answer shopOfOwners).1 ∧
    ∃ report report' p p',
      ((someHandler.handle (admissionOf owned) none).run Store.answer shop).1 = .ok report ∧
      ((someHandler.handle (admissionOf owned) none).run Store.answer shopOfOwners).1 =
        .ok report' ∧
      report'.outcome = report.outcome ∧ report'.verdict.message = report.verdict.message ∧
      Patch.apply report.verdict.patch owned = some p ∧
      Patch.apply report'.verdict.patch owned = some p' ∧ (p' = p ∨ OtherInstaller owned p p') := by
  have read : Json.ofBytes (admissionOf owned).object = .ok owned := by decide +kernel
  have differ : ((someHandler.handle (admissionOf owned) none).run Store.answer
      shop).1.toOption.map (·.verdict.patch) ≠ ((someHandler.handle (admissionOf owned) none).run
        Store.answer shopOfOwners).1.toOption.map (·.verdict.patch) := by decide +kernel
  exact ⟨fun same => differ (by rw [same]),
    owners_told_only alikeBut_owners ownersRead_owners someHandler none read wellFormed_owned
      (areReferences_controllerOf _ _) otherOwners_shop⟩

end Admission

end PodInstrumentation
