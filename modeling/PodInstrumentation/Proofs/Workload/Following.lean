import PodInstrumentation.Proofs.Admission.Asking
import PodInstrumentation.Proofs.Outcome
import PodInstrumentation.Proofs.Workload.Telling
/-!
Chains of owners, followed. However the owners of a pod refer to each other, following them comes to
some workload as long as what is read of them is well-formed or fails as the cluster does. -/
namespace PodInstrumentation

open Pod (Known)

def IsReference (j : Json) : Prop :=
  ∃ fs kind apiVersion name, j = .obj fs ∧ fs.lookup "kind" = some (.str kind) ∧
    fs.lookup "apiVersion" = some (.str apiVersion) ∧ fs.lookup "name" = some (.str name)

def AreReferences (owners : Json) : Prop :=
  owners = .null ∨ ∃ js, owners = .arr js ∧ ∀ j ∈ js, IsReference j

/-- What may be answered when an owner is read: a failure of the cluster, or an object whose
metadata have references as they may be. -/
def IsOwnerAnswer : Except Failure Json → Prop
  | .error f => f.isClusterError = true
  | .ok owner => ∃ fs, (owner.orElse .empty).part "metadata" = .ok (.obj fs) ∧
      AreReferences ((Json.obj fs).get "ownerReferences")

structure OwnerNode.Followable (node : OwnerNode) : Prop where
  name : node.name ≠ .null
  kind : node.kind ≠ .null
  owners : AreReferences node.owners

theorem orElse_ne_null {j k : Json} (h : k ≠ .null) : j.orElse k ≠ .null := by
  unfold Json.orElse
  split
  · rename_i set
    rintro rfl
    cases set
  · exact h

namespace OwnerReference

theorem ofJson_ok {j : Json} (h : IsReference j) :
    ∃ r?, ofJson j = .ok r? ∧ ∀ r, r? = some r → ∃ name, r.name = some (.str name) := by
  obtain ⟨fs, kind, apiVersion, name, rfl, hk, ha, hn⟩ := h
  refine ⟨_, by simp only [ofJson, hk, ha]; rfl, fun r found => ?_⟩
  obtain ⟨plural, _, rfl⟩ := Option.map_eq_some_iff.mp found
  exact ⟨name, hn⟩

theorem findController_ok {js : List Json} (h : ∀ j ∈ js, IsReference j) :
    ∃ found, findController js = .ok found ∧
      ∀ f, found = some f → ∃ name, f.2.name = some (.str name) := by
  induction js with
  | nil => exact ⟨none, rfl, nofun⟩
  | cons j js ih =>
    obtain ⟨r?, read, named⟩ := ofJson_ok (h j List.mem_cons_self)
    obtain ⟨found, rest, known⟩ := ih fun j hj => h j (List.mem_cons_of_mem _ hj)
    obtain ⟨fs, _, _, _, rfl, _⟩ := h j List.mem_cons_self
    simp only [findController, Json.field, ok_bind, read, rest]
    split
    · cases r? with
      | none => exact ⟨found, rfl, known⟩
      | some r =>
        refine ⟨some (.obj fs, r), rfl, fun f same => ?_⟩
        cases same
        exact named r rfl
    · exact ⟨found, rfl, known⟩

end OwnerReference

namespace OwnerNode

variable {node : OwnerNode}

theorem controller_ok (h : node.Followable) :
    ∃ r?, node.controller = .ok r? ∧ ∀ r, r? = some r → ∃ name, r.name = some (.str name) := by
  obtain ⟨js, listed, references⟩ :
      ∃ js, node.owners.each = .ok js ∧ ∀ j ∈ js, IsReference j := by
    rcases h.owners with none | ⟨js, listed, references⟩
    · exact ⟨[], by rw [none]; rfl, nofun⟩
    · exact ⟨js, by rw [listed]; exact Pod.each_arr js, references⟩
  obtain ⟨found, searched, named⟩ := OwnerReference.findController_ok references
  refine ⟨found.map (·.2), by simp only [controller, listed, searched, ok_bind]; rfl, fun r h => ?_⟩
  obtain ⟨f, same, rfl⟩ := Option.map_eq_some_iff.mp h
  exact named f same

theorem known_workload (h : node.Followable) : Known node.workload where
  name := h.name
  kind := by
    unfold workload
    dsimp only
    split
    · exact nofun
    · exact h.kind

theorem ofPod_ok {pod : Json} (object : pod.IsObject) (metadata : (Pod.metadata pod).IsObject)
    (owners : AreReferences ((Pod.metadata pod).get "ownerReferences")) :
    ∃ node, ofPod pod = .ok node ∧ node.Followable := by
  let node : OwnerNode :=
    { name := ((Pod.metadata pod).get "name").orElse
        (((Pod.metadata pod).get "generateName").orElse (.str ""))
      kind := (pod.get "kind").orElse (.str Names.podKind)
      owners := (Pod.metadata pod).get "ownerReferences" }
  have read : ofPod pod = .ok node := by
    simp only [ofPod, Pod.part_ok object metadata, metadata.field, object.field, ok_bind]
    rfl
  exact ⟨node, read, orElse_ne_null (orElse_ne_null nofun), orElse_ne_null nofun, owners⟩

theorem ofAnswer_ok (kind name : String) {owner : Json} (h : IsOwnerAnswer (.ok owner)) :
    ∃ node, ofAnswer kind (.str name) owner = .ok node ∧ node.Followable := by
  obtain ⟨fs, read, owners⟩ := h
  refine ⟨_, by simp only [ofAnswer, read, Json.field, ok_bind]; rfl, ?_⟩
  exact ⟨orElse_ne_null Json.noConfusion, Json.noConfusion, owners⟩

end OwnerNode

structure AnswersOwners {σ : Type} (answer : σ → (c : ApiCall) → Except Failure c.Answer × σ)
    (Inv : σ → Prop) : Prop where
  answers : ∀ {s} path, Inv s → IsOwnerAnswer (answer s (.readObject path)).1
  states : ∀ {s} path, Inv s → Inv (answer s (.readObject path)).2

namespace OwnerChain

section Walk

variable {σ : Type} {answer : σ → (c : ApiCall) → Except Failure c.Answer × σ} {Inv : σ → Prop}

def Ends (Inv : σ → Prop) (r : Except Fault Workload × σ) : Prop :=
  Inv r.2 ∧ ∃ w, Known w ∧
    (r.1 = .ok w ∨ ∃ message cause, r.1 = .error (.injection (.ownerResolution message w cause)))

theorem readOwner_ends (answers : AnswersOwners answer Inv) (ns : String) (node : OwnerNode)
    {r : OwnerReference} {name : String} (named : r.name = some (.str name)) {s : σ} (inv : Inv s) :
    (∃ owner s', (readOwner ns node r).play answer s = (.ok owner, s') ∧ owner.Followable ∧
      Inv s') ∨
      ∃ f s', (readOwner ns node r).play answer s =
        (.error (.injection (unreadable r (Json.str name).display ns f node)), s') ∧ Inv s' := by
  unfold readOwner
  rw [named]
  dsimp only
  rw [Attempt.play_bind_ok (Attempt.play_ask _ _)]
  have shaped := answers.answers (objectPath r.apiVersion r.plural (Json.str name).display ns) inv
  have still := answers.states (objectPath r.apiVersion r.plural (Json.str name).display ns) inv
  cases found : (answer s (.readObject
    (objectPath r.apiVersion r.plural (Json.str name).display ns))).1 with
  | ok owner =>
    rw [found] at shaped
    obtain ⟨next, read, followable⟩ := OwnerNode.ofAnswer_ok r.kind name shaped
    refine .inl ⟨next, _, ?_, followable, still⟩
    dsimp only
    rw [read]
    rfl
  | error f =>
    rw [found] at shaped
    have failed : f.isClusterError = true := shaped
    refine .inr ⟨f, _, ?_, still⟩
    simp only [failed, if_true]
    rfl

theorem ends_fail {s : σ} (inv : Inv s) {node : OwnerNode} (followable : node.Followable)
    (message : String) (cause : Option Cause) :
    Ends Inv (.error (.injection (.ownerResolution message node.workload cause)), s) :=
  ⟨inv, node.workload, node.known_workload followable, .inr ⟨message, cause, rfl⟩⟩

/-- From a node a walk ends at once, or goes on from an owner that was read. -/
theorem walk_ends (answers : AnswersOwners answer Inv) (ns : String) (limit : Int) (left : Nat)
    (visited : List (String × String × Json)) {node : OwnerNode} (followable : node.Followable)
    {s : σ} (inv : Inv s) : Ends Inv ((walk ns limit left visited node).play answer s) := by
  -- by the number of objects that may still be read
  induction left using Nat.strongRecOn generalizing visited node s with
  | ind left ih =>
    obtain ⟨r?, found, named⟩ := node.controller_ok followable
    rw [walk.eq_def]
    dsimp only
    rw [found, Attempt.ofShaped_ok_bind]
    cases r? with
    | none => exact ⟨inv, node.workload, node.known_workload followable, .inl rfl⟩
    | some r =>
      obtain ⟨name, called⟩ := named r rfl
      have key : OwnerReference.canBeKey r.key.2.2 = true := by
        rw [OwnerReference.key, called]
        rfl
      simp only [key, Bool.not_true, Bool.false_eq_true, if_false]
      split
      · exact ends_fail inv followable _ _
      · cases left with
        | zero => exact ends_fail inv followable _ _
        | succ left =>
          rcases readOwner_ends answers ns node called inv with
            ⟨owner, s', read, further, still⟩ | ⟨f, s', failed, still⟩
          · dsimp only
            rw [Attempt.play_bind_ok read]
            exact ih left (Nat.lt_succ_self left) _ further still
          · dsimp only
            rw [Attempt.play_bind, failed]
            exact ends_fail still followable _ _

/-- Looking for the workload of a pod is never fatal. -/
theorem workload_ok (answers : AnswersOwners answer Inv) (j : Injector) (ns : String) {pod : Json}
    (object : pod.IsObject) (metadata : (Pod.metadata pod).IsObject)
    (owners : AreReferences ((Pod.metadata pod).get "ownerReferences")) {s : σ} (inv : Inv s) :
    ∃ w s', (Enrichment.workload j ns pod).play answer s = (.ok w, s') ∧ Known w ∧ Inv s' := by
  obtain ⟨node, read, followable⟩ := OwnerNode.ofPod_ok object metadata owners
  have resolved : resolvePod ns j.maxDepth pod = walk ns j.maxDepth j.maxDepth.toNat [] node := by
    unfold resolvePod
    rw [read]
    rfl
  obtain ⟨still, w, known, came⟩ :=
    walk_ends answers ns j.maxDepth j.maxDepth.toNat [] followable inv
  rcases ran : (walk ns j.maxDepth j.maxDepth.toNat [] node).play answer s with ⟨r, s'⟩
  rw [ran] at still came
  unfold Enrichment.workload
  rw [resolved]
  rcases came with rfl | ⟨message, cause, rfl⟩
  · exact ⟨w, s', Attempt.play_tryCatch_ok ran _, known, still⟩
  · exact ⟨w, s', Interaction.run_then ran _, known, still⟩

end Walk

end OwnerChain

end PodInstrumentation
