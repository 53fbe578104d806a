import PodInstrumentation.Cluster.Store
import PodInstrumentation.Proofs.Cluster.Posting
import PodInstrumentation.Proofs.Workload.Following
/-!
Chains of owners, resolved. A chain is what the cluster has: from object to object by the first
reference that counts, read one after the other. Resolving a pod comes to what stands at the end of
its chain, and asks for the objects of the chain and nothing else. -/
namespace PodInstrumentation

namespace Json

theorem each_of_not_set {j : Json} (unset : j.isSet = false) : j.each = .ok (j.items?.getD []) := by
  simp only [Json.each, unset, Bool.false_eq_true, if_false]
  cases j with
  | arr xs =>
    cases xs with
    | nil => rfl
    | cons => cases unset
  | null | bool | int | float | str | obj => rfl

theorem get_of_not_set {j : Json} (unset : j.isSet = false) (key : String) : j.get key = .null := by
  cases j with
  | obj fs =>
    cases fs with
    | nil => rfl
    | cons => cases unset
  | null | bool | int | float | str | arr => rfl

theorem field_orElse_empty {j : Json} (h : j.isSet = false ∨ ∃ fs, j = .obj fs) (key : String) :
    (j.orElse .empty).field key = .ok (j.get key) := by
  rcases h with unset | ⟨fs, rfl⟩
  · rw [get_of_not_set unset, Json.orElse, unset]
    rfl
  · rw [Json.obj_orElse]
    rfl

theorem part_of_field {j v : Json} {key : String} (h : j.field key = .ok v) :
    j.part key = .ok (v.orElse .empty) := by
  rw [Json.part, h]
  rfl

end Json

structure OwnerLink where
  kind : String
  apiVersion : String
  plural : String
  name : String

namespace OwnerLink

def key (l : OwnerLink) : String × String × String := (l.apiVersion, l.kind, l.name)

def path (l : OwnerLink) (ns : String) : String := objectPath l.apiVersion l.plural l.name ns

def reference (l : OwnerLink) : OwnerReference :=
  ⟨l.kind, l.apiVersion, l.plural, some (.str l.name)⟩

/-- Only references that are marked as controller and point at a well-known workload count. -/
def ofJson? (j : Json) : Option OwnerLink :=
  match j.get "controller", j.get "kind", j.get "apiVersion", j.get "name" with
  | .bool true, .str kind, .str apiVersion, .str name =>
    (workloadPlural? kind apiVersion).map fun plural => ⟨kind, apiVersion, plural, name⟩
  | _, _, _, _ => none

/-- What an object is called that was reached by a link: by its name, or else by that in the link,
and by the kind in the link. -/
def calls (l : OwnerLink) (owner : Json) : Workload :=
  ⟨((owner.get "metadata").get "name").orElse (.str l.name), .str l.kind⟩

end OwnerLink

namespace OwnerChain

def ownersOf (doc : Json) : List Json := (doc.get "metadata").itemsAt "ownerReferences"

def nextLink? (doc : Json) : Option OwnerLink := (ownersOf doc).findSome? OwnerLink.ofJson?

/-- What a pod without owners is called. It has no kind of its own unless it says one. -/
def podCalled (pod : Json) : Workload :=
  let metadata := pod.get "metadata"
  let kind := (pod.get "kind").orElse (.str Names.podKind)
  ⟨(metadata.get "name").orElse ((metadata.get "generateName").orElse (.str "")),
    if kind = .str Names.podKind then .str "" else kind⟩

structure Traceable (doc : Json) : Prop where
  document : doc.isSet = false ∨ ∃ fs, doc = .obj fs
  metadata : (doc.get "metadata").isSet = false ∨ ∃ fs, doc.get "metadata" = .obj fs
  owners : ((doc.get "metadata").get "ownerReferences").isSet = false ∨
    ∃ js, (doc.get "metadata").get "ownerReferences" = .arr js
  references : ∀ j ∈ ownersOf doc, IsReference j

/-- The chain from an object on, as the cluster answers: the links that are followed, and what the
object at its end is called. -/
inductive Leads {σ : Type} (answer : σ → (c : ApiCall) → Except Failure c.Answer × σ)
    (ns : String) : (called : Workload) → (doc : Json) → σ → List OwnerLink → Workload → σ → Prop
  | ended {called : Workload} {doc : Json} {s : σ} (traceable : Traceable doc)
      (last : nextLink? doc = none) : Leads answer ns called doc s [] called s
  | read {called w : Workload} {doc owner : Json} {s s₁ s' : σ} {link : OwnerLink}
      {links : List OwnerLink} (traceable : Traceable doc) (next : nextLink? doc = some link)
      (answered : answer s (.readObject (link.path ns)) = (.ok owner, s₁))
      (rest : Leads answer ns (link.calls owner) owner s₁ links w s') :
      Leads answer ns called doc s (link :: links) w s'

theorem Leads.traceable {σ : Type} {answer : σ → (c : ApiCall) → Except Failure c.Answer × σ}
    {ns : String} {called w : Workload} {doc : Json} {s s' : σ} {links : List OwnerLink}
    (h : Leads answer ns called doc s links w s') : Traceable doc := by
  cases h with
  | ended traceable _ => exact traceable
  | read traceable _ _ _ => exact traceable

theorem ofJson?_of_lookup {fs : Fields} {kind apiVersion name : String}
    (hk : fs.lookup "kind" = some (.str kind))
    (ha : fs.lookup "apiVersion" = some (.str apiVersion))
    (hn : fs.lookup "name" = some (.str name)) :
    OwnerLink.ofJson? (.obj fs) = if (fs.lookup "controller").getD .null = .bool true then
      (workloadPlural? kind apiVersion).map fun plural => ⟨kind, apiVersion, plural, name⟩
      else none := by
  have member : ∀ key, (Json.obj fs).get key = (fs.lookup key).getD .null := fun _ => rfl
  simp only [OwnerLink.ofJson?, member, hk, ha, hn, Option.getD_some]
  split
  · rename_i marked hk' ha' hn'
    cases hk'
    cases ha'
    cases hn'
    rw [if_pos marked]
  · rename_i other
    rw [if_neg fun marked => other _ _ _ marked rfl rfl rfl]

theorem findController_links {js : List Json} (h : ∀ j ∈ js, IsReference j) :
    ∃ found, OwnerReference.findController js = .ok found ∧
      found.map (·.2) = (js.findSome? OwnerLink.ofJson?).map OwnerLink.reference := by
  induction js with
  | nil => exact ⟨none, rfl, rfl⟩
  | cons j js ih =>
    obtain ⟨first, others⟩ := List.forall_mem_cons.mp h
    obtain ⟨found, searched, same⟩ := ih others
    obtain ⟨fs, kind, apiVersion, name, rfl, hk, ha, hn⟩ := first
    have read : OwnerReference.ofJson (.obj fs) = .ok ((workloadPlural? kind apiVersion).map
        fun plural => ⟨kind, apiVersion, plural, some (.str name)⟩) := by
      simp only [OwnerReference.ofJson, hk, ha, hn]
      rfl
    simp only [OwnerReference.findController, Json.field, ok_bind, read, searched,
      List.findSome?_cons, ofJson?_of_lookup hk ha hn]
    split
    · cases workloadPlural? kind apiVersion with
      | none => exact ⟨found, rfl, same⟩
      | some plural => exact ⟨_, rfl, rfl⟩
    · exact ⟨found, rfl, same⟩

theorem kind_of_nextLink? {doc : Json} {link : OwnerLink} (next : nextLink? doc = some link) :
    link.kind ≠ Names.podKind := by
  obtain ⟨j, _, read⟩ := List.exists_of_findSome?_eq_some next
  unfold OwnerLink.ofJson? at read
  split at read
  · obtain ⟨plural, known, rfl⟩ := Option.map_eq_some_iff.mp read
    rintro rfl
    simp [workloadPlural?, wellKnownWorkloads, Names.podKind] at known
  · cases read

end OwnerChain

structure OwnerNode.StandsFor (node : OwnerNode) (called : Workload) (doc : Json) : Prop where
  workload : node.workload = called
  controller : node.controller = .ok ((OwnerChain.nextLink? doc).map OwnerLink.reference)

namespace OwnerNode

open OwnerChain (Traceable ownersOf nextLink? podCalled)

theorem controller_of_traceable {doc : Json} (h : Traceable doc) (name kind : Json) :
    controller ⟨name, kind, (doc.get "metadata").get "ownerReferences"⟩ =
      .ok ((nextLink? doc).map OwnerLink.reference) := by
  have listed : ((doc.get "metadata").get "ownerReferences").each = .ok (ownersOf doc) := by
    rcases h.owners with unset | ⟨js, listed⟩
    · exact Json.each_of_not_set unset
    · rw [ownersOf, Json.itemsAt, listed]
      exact Pod.each_arr js
  obtain ⟨found, searched, links⟩ := OwnerChain.findController_links h.references
  rw [controller, listed, ok_bind, searched, ok_bind, links]
  rfl

theorem ofPod_standsFor {fs : Fields} (h : Traceable (.obj fs)) :
    ∃ node, ofPod (.obj fs) = .ok node ∧ node.StandsFor (podCalled (.obj fs)) (.obj fs) := by
  let metadata := (Json.obj fs).get "metadata"
  let node : OwnerNode :=
    { name := (metadata.get "name").orElse ((metadata.get "generateName").orElse (.str ""))
      kind := ((Json.obj fs).get "kind").orElse (.str Names.podKind)
      owners := metadata.get "ownerReferences" }
  have read : ofPod (.obj fs) = .ok node := by
    have field : ∀ key, (Json.obj fs).field key = .ok ((Json.obj fs).get key) := fun _ => rfl
    simp only [ofPod, Json.part_of_field (field "metadata"), Json.field_orElse_empty h.metadata,
      field, ok_bind]
    rfl
  exact ⟨node, read, rfl, controller_of_traceable h _ _⟩

theorem ofAnswer_standsFor {link : OwnerLink} (followed : link.kind ≠ Names.podKind) {owner : Json}
    (h : Traceable owner) : ∃ node, ofAnswer link.kind (.str link.name) owner = .ok node ∧
      node.StandsFor (link.calls owner) owner := by
  let node : OwnerNode :=
    { name := ((owner.get "metadata").get "name").orElse (.str link.name)
      kind := .str link.kind
      owners := (owner.get "metadata").get "ownerReferences" }
  have read : ofAnswer link.kind (.str link.name) owner = .ok node := by
    simp only [ofAnswer, Json.part_of_field (Json.field_orElse_empty h.document "metadata"),
      Json.field_orElse_empty h.metadata, ok_bind]
    rfl
  have called : node.workload = link.calls owner := by
    have other : Json.str link.kind ≠ .str Names.podKind := fun e => followed (Json.str.inj e)
    simp only [workload, node, OwnerLink.calls, if_neg other]
  exact ⟨node, read, called, controller_of_traceable h _ _⟩

end OwnerNode

namespace OwnerChain

section Clusters

variable {σ : Type} {answer : σ → (c : ApiCall) → Except Failure c.Answer × σ} {ns : String}
  {limit : Int} {called w : Workload} {doc : Json} {s s' : σ} {links : List OwnerLink}

structure Reads (answer : σ → (c : ApiCall) → Except Failure c.Answer × σ) (ns : String)
    (x : Attempt Workload) (s : σ) (links : List OwnerLink) (w : Workload) (s' : σ) : Prop where
  result : x.play answer s = (.ok w, s')
  calls : (x.run.trace answer s).map (·.call) = links.map fun l => .readObject (l.path ns)

theorem Reads.cons {x y : Attempt Workload} {link : OwnerLink}
    {next : Except Failure Json → Interaction (Except Fault Workload)}
    (starts : x.run = .call (.readObject (link.path ns)) next) {owner : Json} {s₁ : σ}
    (answered : answer s (.readObject (link.path ns)) = (.ok owner, s₁))
    (goes : next (.ok owner) = y.run) (rest : Reads answer ns y s₁ links w s') :
    Reads answer ns x s (link :: links) w s' where
  result := by
    show x.run.run answer s = _
    rw [starts, Interaction.run_call, answered, goes]
    exact rest.result
  calls := by
    rw [starts, Interaction.trace, answered, goes, List.map_cons, rest.calls, List.map_cons]

variable {node : OwnerNode} {left : Nat} {visited : List (String × String × Json)}

theorem walk_of_last (stands : node.StandsFor called doc) (last : nextLink? doc = none) :
    walk ns limit left visited node = pure called := by
  rw [walk.eq_def]
  dsimp only
  rw [stands.controller, last, ← stands.workload]
  rfl

theorem walk_of_next (stands : node.StandsFor called doc) {link : OwnerLink}
    (next : nextLink? doc = some link) (fresh : link.reference.key ∉ visited) :
    walk ns limit (left + 1) visited node = readOwner ns node link.reference >>= fun owner =>
      walk ns limit left (link.reference.key :: visited) owner := by
  have named : OwnerReference.canBeKey link.reference.key.2.2 = true := rfl
  have unseen : visited.contains link.reference.key = false := by simpa using fresh
  rw [walk.eq_def]
  dsimp only
  rw [stands.controller, next, Option.map_some, Attempt.ofShaped_ok_bind]
  simp only [named, unseen, Bool.not_true, Bool.false_eq_true, if_false]

theorem reference_key (l : OwnerLink) :
    l.reference.key = (l.key.1, l.key.2.1, .str l.key.2.2) := rfl

/-- The chain is followed to its end if the walk may take that many steps, and none of the links was
followed before. -/
theorem walk_reads (leads : Leads answer ns called doc s links w s')
    (stands : node.StandsFor called doc) (short : links.length ≤ left)
    (different : (links.map OwnerLink.key).Nodup) (fresh : ∀ l ∈ links, l.reference.key ∉ visited) :
    Reads answer ns (walk ns limit left visited node) s links w s' := by
  -- along the chain; what was visited grows by the link just followed
  induction leads generalizing node left visited with
  | ended traceable last =>
    rw [walk_of_last stands last]
    exact ⟨rfl, rfl⟩
  | @read called w doc owner s s₁ s' link links traceable next answered rest ih =>
    obtain ⟨left, rfl⟩ : ∃ n, left = n + 1 :=
      Nat.exists_eq_add_one_of_ne_zero (Nat.ne_of_gt (Nat.lt_of_lt_of_le (Nat.succ_pos _) short))
    obtain ⟨unseen, others⟩ := List.forall_mem_cons.mp fresh
    obtain ⟨apart, different⟩ := List.nodup_cons.mp different
    obtain ⟨reached, found, stands'⟩ :=
      OwnerNode.ofAnswer_standsFor (kind_of_nextLink? next) rest.traceable
    have further : Reads answer ns (walk ns limit left (link.reference.key :: visited) reached) s₁
        links w s' := by
      refine ih stands' (Nat.le_of_succ_le_succ short) different fun l hl => ?_
      rw [List.mem_cons, not_or]
      refine ⟨fun same => ?_, others l hl⟩
      have same : l.key = link.key := by
        simp only [reference_key, Prod.mk.injEq, Json.str.injEq] at same
        exact Prod.ext same.1 (Prod.ext same.2.1 same.2.2)
      exact apart (same ▸ List.mem_map_of_mem hl)
    rw [walk_of_next stands next unseen]
    refine .cons rfl answered ?_ further
    show (Attempt.ofShaped (OwnerNode.ofAnswer link.kind (.str link.name) owner) >>= fun owner =>
      walk ns limit left (link.reference.key :: visited) owner).run = _
    rw [found]
    rfl

end Clusters

end OwnerChain

/-- Resolving a pod of whatever chain of owners that is within the limit and comes to no object
twice comes to what stands at the end of the chain, and reads the objects on it one after the
other. -/
theorem resolvePod_follows {σ : Type} {answer : σ → (c : ApiCall) → Except Failure c.Answer × σ}
    {ns : String} {limit : Int} {pod : Json} {s s' : σ} {links : List OwnerLink} {w : Workload}
    (object : ∃ fs, pod = .obj fs)
    (leads : OwnerChain.Leads answer ns (OwnerChain.podCalled pod) pod s links w s')
    (short : links.length ≤ limit) (different : (links.map OwnerLink.key).Nodup) :
    OwnerChain.Reads answer ns (OwnerChain.resolvePod ns limit pod) s links w s' := by
  obtain ⟨fs, rfl⟩ := object
  obtain ⟨node, read, stands⟩ := OwnerNode.ofPod_standsFor leads.traceable
  have resolved : OwnerChain.resolvePod ns limit (.obj fs) =
      OwnerChain.walk ns limit limit.toNat [] node := by
    rw [OwnerChain.resolvePod, read]
    rfl
  rw [resolved]
  exact OwnerChain.walk_reads leads stands (by omega) different fun _ _ => nofun

def referenceTo (controller : Bool) (kind apiVersion name : String) : Json := .obj [
  ("apiVersion", .str apiVersion),
  ("kind", .str kind),
  ("name", .str name),
  ("controller", .bool controller)]

def ownedBy (fs : Fields) (references : List Json) : Json :=
  .obj [("metadata", .obj (("ownerReferences", .arr references) :: fs))]

theorem traceable_ownedBy (fs : Fields) {references : List Json}
    (h : ∀ j ∈ references, ∃ controller kind apiVersion name,
      j = referenceTo controller kind apiVersion name) :
    OwnerChain.Traceable (ownedBy fs references) where
  document := .inr ⟨_, rfl⟩
  metadata := .inr ⟨_, rfl⟩
  owners := .inr ⟨_, rfl⟩
  references := fun j hj => by
    obtain ⟨controller, kind, apiVersion, name, rfl⟩ := h j hj
    exact ⟨_, kind, apiVersion, name, rfl, rfl, rfl, rfl⟩

def draftedPod : Json := ownedBy [("generateName", .str "web-1-")] [
  referenceTo false "Job" "batch/v1" "warmup",
  referenceTo true "Machine" "shop/v1" "press",
  referenceTo true "ReplicaSet" "apps/v1" "web-1"]

def toReplicaSet : OwnerLink := ⟨"ReplicaSet", "apps/v1", "replicasets", "web-1"⟩

def toDeployment : OwnerLink := ⟨"Deployment", "apps/v1", "deployments", "web"⟩

def deployedShop : Store :=
  { Store.empty with objects := [
      (toReplicaSet.path "shop", .ok (ownedBy [("name", .str "web-1")]
        [referenceTo true "Deployment" "apps/v1" "web"])),
      (toDeployment.path "shop", .ok (ownedBy [("name", .str "web")] []))] }

/-- The limit is met exactly. -/
theorem resolvePod_follows_deployment :
    OwnerChain.Reads Store.answer "shop" (OwnerChain.resolvePod "shop" 2 draftedPod) deployedShop
      [toReplicaSet, toDeployment] ⟨.str "web", .str "Deployment"⟩
      { deployedShop with calls := [.readObject (toReplicaSet.path "shop"),
          .readObject (toDeployment.path "shop")] } := by
  have pod : OwnerChain.Traceable draftedPod := traceable_ownedBy _ (by simp)
  have replicaSet : Store.find deployedShop.objects (toReplicaSet.path "shop") =
      .ok (ownedBy [("name", .str "web-1")] [referenceTo true "Deployment" "apps/v1" "web"]) := by
    decide +kernel
  have deployment : Store.find deployedShop.objects (toDeployment.path "shop") =
      .ok (ownedBy [("name", .str "web")] []) := by
    decide +kernel
  refine resolvePod_follows ⟨_, rfl⟩ ?_ (by decide) (by decide)
  refine .read pod rfl (congrArg (·, _) replicaSet) ?_
  refine .read (traceable_ownedBy _ (by simp)) rfl (congrArg (·, _) deployment) ?_
  exact .ended (traceable_ownedBy _ nofun) rfl

end PodInstrumentation
