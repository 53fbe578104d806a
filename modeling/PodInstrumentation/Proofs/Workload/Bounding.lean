import PodInstrumentation.Proofs.Cluster.Transcript
import PodInstrumentation.Proofs.Workload.Resolving
/-!
Chains of owners of any shape. They may run in circles or go on for ever: a walk along them asks for
no object twice and for no more objects than its limit, and where it is given up, it is known which
object it came to last. -/
namespace PodInstrumentation

/- Links are told apart by the paths of what they lead to. -/

namespace OwnerLink

def WellKnown (l : OwnerLink) : Prop := (l.kind, l.apiVersion, l.plural) ∈ wellKnownWorkloads

def stem (apiVersion : String) : String :=
  let base := if apiVersion.toList.contains '/' then "apis" else "api"
  s!"/{base}/{apiVersion}/namespaces/"

theorem toList_path (l : OwnerLink) (ns : String) : (l.path ns).toList =
    (stem l.apiVersion).toList ++
      (ns.toList ++ '/' :: ((l.plural ++ "/").toList ++ l.name.toList)) := by
  simp [path, objectPath, stem, ToString.toString]

section WellKnown

variable {l l' : OwnerLink} (known : l.WellKnown) (known' : l'.WellKnown)
include known known'

theorem apiVersion_of_stem (starts : (stem l.apiVersion).toList <+: (stem l'.apiVersion).toList) :
    l.apiVersion = l'.apiVersion := by
  have table : ∀ w ∈ wellKnownWorkloads, ∀ w' ∈ wellKnownWorkloads,
      (stem w.2.1).toList <+: (stem w'.2.1).toList → w.2.1 = w'.2.1 := by decide +kernel
  exact table (l.kind, l.apiVersion, l.plural) known (l'.kind, l'.apiVersion, l'.plural) known'
    starts

theorem kind_of_plural (starts : (l.plural ++ "/").toList <+: (l'.plural ++ "/").toList) :
    l.kind = l'.kind ∧ l.plural = l'.plural := by
  have table : ∀ w ∈ wellKnownWorkloads, ∀ w' ∈ wellKnownWorkloads,
      (w.2.2 ++ "/").toList <+: (w'.2.2 ++ "/").toList → w.1 = w'.1 ∧ w.2.2 = w'.2.2 := by
    decide +kernel
  exact table (l.kind, l.apiVersion, l.plural) known (l'.kind, l'.apiVersion, l'.plural) known'
    starts

end WellKnown

theorem starts_of_append_eq {α : Type} {start start' rest rest' : List α}
    (same : start ++ rest = start' ++ rest') : start <+: start' ∨ start' <+: start :=
  List.prefix_or_prefix_of_prefix ⟨rest, rfl⟩ ⟨rest', same.symm⟩

/-- What comes before the namespace tells the version, and what comes after it the kind. -/
theorem path_inj {l l' : OwnerLink} {ns : String} (known : l.WellKnown) (known' : l'.WellKnown)
    (same : l.path ns = l'.path ns) : l = l' := by
  have lists := congrArg String.toList same
  rw [toList_path, toList_path] at lists
  have version : l.apiVersion = l'.apiVersion :=
    (starts_of_append_eq lists).elim (apiVersion_of_stem known known')
      fun other => (apiVersion_of_stem known' known other).symm
  rw [version] at lists
  have tails := (List.cons.inj (List.append_cancel_left (List.append_cancel_left lists))).2
  obtain ⟨kind, plural⟩ : l.kind = l'.kind ∧ l.plural = l'.plural :=
    (starts_of_append_eq tails).elim (kind_of_plural known known') fun other =>
      (kind_of_plural known' known other).imp Eq.symm Eq.symm
  rw [plural] at tails
  have name : l.name = l'.name := String.toList_inj.mp (List.append_cancel_left tails)
  cases l
  cases l'
  simp_all only

end OwnerLink

namespace OwnerChain

theorem wellKnown_of_nextLink? {doc : Json} {link : OwnerLink} (next : nextLink? doc = some link) :
    link.WellKnown := by
  obtain ⟨j, _, read⟩ := List.exists_of_findSome?_eq_some next
  unfold OwnerLink.ofJson? at read
  split at read
  · obtain ⟨plural, known, rfl⟩ := Option.map_eq_some_iff.mp read
    obtain ⟨w, found, rfl⟩ := Option.map_eq_some_iff.mp known
    have named := List.find?_some found
    simp only [Bool.and_eq_true, beq_iff_eq] at named
    obtain ⟨rfl, rfl⟩ := named
    exact List.mem_of_find?_eq_some found
  · cases read

end OwnerChain

/-- What is answered when an owner is read is as it may be: a failure of the cluster, or an object
that can be followed further. -/
def Exchange.Readable : Exchange → Prop
  | ⟨.readObject _, .ok owner⟩ => OwnerChain.Traceable owner
  | ⟨_, .error f⟩ => f.isClusterError = true
  | _ => True

namespace OwnerChain

def GivenUp (called : Workload) (r : Except Fault Workload) : Prop :=
  ∃ message cause, r = .error (.injection (.ownerResolution message called cause))

inductive Exit (ns : String) (left : Nat) (followed : List OwnerLink) (called : Workload)
    (doc : Json) : List Exchange → Except Fault Workload → Prop
  | arrived (last : nextLink? doc = none) : Exit ns left followed called doc [] (.ok called)
  | stopped {link : OwnerLink} {r : Except Fault Workload} (next : nextLink? doc = some link)
      (guarded : link.key ∈ followed.map OwnerLink.key ∨ left = 0) (known : GivenUp called r) :
      Exit ns left followed called doc [] r
  | refused {link : OwnerLink} {f : Failure} {r : Except Fault Workload}
      (next : nextLink? doc = some link) (fresh : link.key ∉ followed.map OwnerLink.key)
      (room : 0 < left) (known : GivenUp called r) :
      Exit ns left followed called doc [⟨.readObject (link.path ns), .error f⟩] r

theorem Exit.outcome {ns : String} {left : Nat} {followed : List OwnerLink} {called : Workload}
    {doc : Json} {t : List Exchange} {r : Except Fault Workload}
    (h : Exit ns left followed called doc t r) : r = .ok called ∨ GivenUp called r := by
  cases h with
  | arrived _ => exact .inl rfl
  | stopped _ _ known | refused _ _ _ known => exact .inr known

/-- The ways a walk can go on: it ends, or it reads the object at the end of a link that it has not
followed yet and goes on from there. -/
inductive Walks (ns : String) : (left : Nat) → (followed : List OwnerLink) → (called : Workload) →
    (doc : Json) → List Exchange → Except Fault Workload → Prop
  | exit {left : Nat} {followed : List OwnerLink} {called : Workload} {doc : Json}
      {t : List Exchange} {r : Except Fault Workload}
      (ended : Exit ns left followed called doc t r) : Walks ns left followed called doc t r
  | read {left : Nat} {followed : List OwnerLink} {called : Workload} {doc owner : Json}
      {link : OwnerLink} {t : List Exchange} {r : Except Fault Workload}
      (next : nextLink? doc = some link) (fresh : link.key ∉ followed.map OwnerLink.key)
      (rest : Walks ns left (link :: followed) (link.calls owner) owner t r) :
      Walks ns (left + 1) followed called doc (⟨.readObject (link.path ns), .ok owner⟩ :: t) r

structure Visit where
  link : OwnerLink
  owner : Json

namespace Visit

def exchange (ns : String) (v : Visit) : Exchange :=
  ⟨.readObject (v.link.path ns), .ok v.owner⟩

def calls (v : Visit) : Workload := v.link.calls v.owner

end Visit

def Chained : Json → List Visit → Prop
  | _, [] => True
  | doc, v :: trail => nextLink? doc = some v.link ∧ Chained v.owner trail

/-- The last object that was read, or else the one that the chain starts from. -/
def lastRead (doc : Json) (trail : List Visit) : Json := (trail.getLast?.map (·.owner)).getD doc

def lastCalled (called : Workload) (trail : List Visit) : Workload :=
  (trail.getLast?.map Visit.calls).getD called

theorem lastRead_cons (doc : Json) (v : Visit) (trail : List Visit) :
    lastRead doc (v :: trail) = lastRead v.owner trail := by
  cases trail <;> rfl

theorem lastCalled_cons (called : Workload) (v : Visit) (trail : List Visit) :
    lastCalled called (v :: trail) = lastCalled v.calls trail := by
  cases trail <;> rfl

section Walk

variable {ns : String} {limit : Int} {left : Nat} {node : OwnerNode} {called : Workload}
  {doc : Json} {link : OwnerLink} {t : List Exchange} {r : Except Fault Workload}

theorem walk_of_visited {visited : List (String × String × Json)}
    (stands : node.StandsFor called doc) (next : nextLink? doc = some link)
    (seen : link.reference.key ∈ visited) :
    walk ns limit left visited node = Attempt.fail (cycle link.reference ns node) := by
  have named : OwnerReference.canBeKey link.reference.key.2.2 = true := rfl
  have before : visited.contains link.reference.key = true := by simpa using seen
  rw [walk.eq_def]
  dsimp only
  rw [stands.controller, next, Option.map_some, Attempt.ofShaped_ok_bind]
  simp only [named, before, Bool.not_true, Bool.false_eq_true, if_false, if_true]

theorem walk_of_limit {visited : List (String × String × Json)}
    (stands : node.StandsFor called doc) (next : nextLink? doc = some link)
    (fresh : link.reference.key ∉ visited) :
    walk ns limit 0 visited node = Attempt.fail (tooLong limit node) := by
  have named : OwnerReference.canBeKey link.reference.key.2.2 = true := rfl
  have unseen : visited.contains link.reference.key = false := by simpa using fresh
  rw [walk.eq_def]
  dsimp only
  rw [stands.controller, next, Option.map_some, Attempt.ofShaped_ok_bind]
  simp only [named, unseen, Bool.not_true, Bool.false_eq_true, if_false]

theorem readOwner_transcript (followed : link.kind ≠ Names.podKind) {read : Except Fault OwnerNode}
    (h : (readOwner ns node link.reference).Transcript t read) (readable : ∀ e ∈ t, e.Readable) :
    (∃ owner reached, t = [⟨.readObject (link.path ns), .ok owner⟩] ∧ read = .ok reached ∧
      reached.StandsFor (link.calls owner) owner) ∨
    ∃ f, t = [⟨.readObject (link.path ns), .error f⟩] ∧
      read = .error (.injection (unreadable link.reference link.name ns f node)) := by
  obtain ⟨a, t', rfl, rest⟩ := Attempt.Transcript.ask_bind h
  have readable := readable _ List.mem_cons_self
  cases a with
  | ok owner =>
    obtain ⟨reached, found, stands⟩ := OwnerNode.ofAnswer_standsFor followed readable
    obtain ⟨rfl, rfl⟩ := rest.ofShaped
    rw [show link.reference.kind = link.kind from rfl, found]
    exact .inl ⟨owner, reached, rfl, rfl, stands⟩
  | error f =>
    have failed : f.isClusterError = true := readable
    dsimp only at rest
    rw [failed, if_pos rfl] at rest
    obtain ⟨rfl, rfl⟩ := rest.fail
    exact .inr ⟨f, rfl, rfl⟩

theorem mem_followed {followed : List OwnerLink} :
    link.reference.key ∈ followed.map (·.reference.key) ↔
      link.key ∈ followed.map OwnerLink.key := by
  simp only [List.mem_map, reference_key, Prod.ext_iff, Json.str.injEq]

theorem givenUp_of_standsFor (stands : node.StandsFor called doc) (message : String)
    (cause : Option Cause) :
    GivenUp called (.error (.injection (.ownerResolution message node.workload cause))) :=
  ⟨message, cause, by rw [stands.workload]⟩

/-- Whoever answers, a walk goes in one of these ways. -/
theorem walks_of_transcript {followed : List OwnerLink} (stands : node.StandsFor called doc)
    (ran : (walk ns limit left (followed.map (·.reference.key)) node).Transcript t r)
    (readable : ∀ e ∈ t, e.Readable) : Walks ns left followed called doc t r := by
  induction left using Nat.strongRecOn generalizing node called doc followed t r with
  | ind left ih =>
    cases next : nextLink? doc with
    | none =>
      rw [walk_of_last stands next] at ran
      obtain ⟨rfl, rfl⟩ := ran.pure
      exact .exit (.arrived next)
    | some link =>
      by_cases seen : link.reference.key ∈ followed.map (·.reference.key)
      · rw [walk_of_visited stands next seen] at ran
        obtain ⟨rfl, rfl⟩ := ran.fail
        exact .exit (.stopped next (.inl (mem_followed.mp seen)) (givenUp_of_standsFor stands _ _))
      · have fresh := mt mem_followed.mpr seen
        cases left with
        | zero =>
          rw [walk_of_limit stands next seen] at ran
          obtain ⟨rfl, rfl⟩ := ran.fail
          exact .exit (.stopped next (.inr rfl) (givenUp_of_standsFor stands _ _))
        | succ left =>
          have kind := kind_of_nextLink? next
          rw [walk_of_next stands next seen] at ran
          rcases ran.bind with ⟨e, failed, rfl⟩ | ⟨reached, t₁, t₂, rfl, found, rest⟩
          · rcases readOwner_transcript kind failed readable with ⟨_, _, _, ⟨⟩, _⟩ | ⟨f, rfl, ⟨⟩⟩
            exact .exit (.refused next fresh (Nat.succ_pos left)
              (givenUp_of_standsFor stands _ _))
          · obtain ⟨first, others⟩ := List.forall_mem_append.mp readable
            rcases readOwner_transcript kind found first with
              ⟨owner, _, rfl, ⟨⟩, stands'⟩ | ⟨_, _, ⟨⟩⟩
            exact .read next fresh (ih left (Nat.lt_succ_self left) stands' rest others)

end Walk

namespace Walks

variable {ns : String} {left : Nat} {followed : List OwnerLink} {called : Workload} {doc : Json}
  {t : List Exchange} {r : Except Fault Workload}

theorem length_le (h : Walks ns left followed called doc t r) : t.length ≤ left := by
  induction h with
  | exit ended =>
    cases ended with
    | arrived | stopped => exact Nat.zero_le _
    | refused _ _ room _ => exact room
  | read _ _ _ ih => exact Nat.succ_le_succ ih

/-- All that is asked for is at the end of links that were not followed before. -/
theorem calls (h : Walks ns left followed called doc t r) : ∀ e ∈ t, ∃ link : OwnerLink,
    link.WellKnown ∧ link ∉ followed ∧ e.call = .readObject (link.path ns) := by
  have new : ∀ {link : OwnerLink} {followed : List OwnerLink},
      link.key ∉ followed.map OwnerLink.key → link ∉ followed :=
    fun fresh among => fresh (List.mem_map_of_mem among)
  induction h with
  | exit ended =>
    cases ended with
    | arrived | stopped => exact nofun
    | refused next fresh _ _ =>
      exact List.forall_mem_singleton.mpr ⟨_, wellKnown_of_nextLink? next, new fresh, rfl⟩
  | read next fresh _ ih =>
    refine List.forall_mem_cons.mpr ⟨⟨_, wellKnown_of_nextLink? next, new fresh, rfl⟩, ?_⟩
    intro e among
    obtain ⟨link, known, unseen, asked⟩ := ih e among
    exact ⟨link, known, fun before => unseen (List.mem_cons_of_mem _ before), asked⟩

theorem nodup_calls (h : Walks ns left followed called doc t r) : (t.map (·.call)).Nodup := by
  induction h with
  | exit ended =>
    cases ended with
    | arrived | stopped => exact .nil
    | refused => exact List.pairwise_singleton _ _
  | @read _ _ _ _ _ link _ _ next _ rest ih =>
    -- A later call for the same path would be for a link that counts as followed by then.
    refine List.nodup_cons.mpr ⟨fun again => ?_, ih⟩
    obtain ⟨e, among, same⟩ := List.mem_map.mp again
    obtain ⟨other, known, unseen, asked⟩ := rest.calls e among
    have path : other.path ns = link.path ns := ApiCall.readObject.inj (asked.symm.trans same)
    exact unseen (OwnerLink.path_inj known (wellKnown_of_nextLink? next) path ▸ List.mem_cons_self)

theorem trail (h : Walks ns left followed called doc t r) : ∃ trail unread,
    t = trail.map (Visit.exchange ns) ++ unread ∧ Chained doc trail ∧
      Exit ns (left - trail.length) ((trail.map (·.link)).reverse ++ followed)
        (lastCalled called trail) (lastRead doc trail) unread r := by
  induction h with
  | exit ended => exact ⟨[], _, rfl, trivial, ended⟩
  | @read left followed _ _ owner link _ _ next _ _ ih =>
    obtain ⟨trail, unread, rfl, chained, ended⟩ := ih
    refine ⟨⟨link, owner⟩ :: trail, unread, rfl, ⟨next, chained⟩, ?_⟩
    rw [lastCalled_cons, lastRead_cons, List.map_cons, List.reverse_cons, List.append_assoc,
      List.length_cons, Nat.add_sub_add_right]
    exact ended

end Walks

end OwnerChain

section Resolve

open OwnerChain

/-- However the owners of a pod refer to each other and whoever answers for them, resolving the pod
reads no object twice and no more of them than the limit. It goes along the chain from the pod and
ends at the last object that could be read: with the workload that this object is, or with an error
that tells this workload. -/
theorem resolvePod_bounded {σ : Type} (answer : σ → (c : ApiCall) → Except Failure c.Answer × σ)
    (ns : String) (limit : Int) {pod : Json} (s : σ) (object : ∃ fs, pod = .obj fs)
    (traceable : Traceable pod)
    (readable : ∀ e ∈ (resolvePod ns limit pod).run.trace answer s, e.Readable) :
    let reads := (resolvePod ns limit pod).run.trace answer s
    let result := ((resolvePod ns limit pod).play answer s).1
    reads.length ≤ limit.toNat ∧ (reads.map (·.call)).Nodup ∧
      ∃ trail unread, reads = trail.map (Visit.exchange ns) ++ unread ∧ Chained pod trail ∧
        let known := lastCalled (podCalled pod) trail
        (result = .ok known ∨ ∃ message cause,
          result = .error (.injection (.ownerResolution message known cause))) ∧
        Exit ns (limit.toNat - trail.length) (trail.map (·.link)).reverse known
          (lastRead pod trail) unread result := by
  obtain ⟨fs, rfl⟩ := object
  obtain ⟨node, read, stands⟩ := OwnerNode.ofPod_standsFor traceable
  have resolved : resolvePod ns limit (.obj fs) = walk ns limit limit.toNat [] node := by
    rw [resolvePod, read]
    rfl
  rw [resolved] at readable ⊢
  have ran : (walk ns limit limit.toNat [] node).Transcript _ _ :=
    Interaction.transcript_trace answer _ s
  have walks : Walks ns limit.toNat [] (podCalled (.obj fs)) (.obj fs) _ _ :=
    walks_of_transcript stands ran readable
  obtain ⟨trail, unread, went, chained, ended⟩ := walks.trail
  rw [List.append_nil] at ended
  exact ⟨walks.length_le, walks.nodup_calls, trail, unread, went, chained, ended.outcome, ended⟩

end Resolve

theorem Store.readable_trace {α : Type} {x : Interaction α} (asks : x.Asks [.object]) {s : Store}
    (objects : ∀ o ∈ s.objects, Exchange.Readable ⟨.readObject o.1, o.2⟩) :
    ∀ e ∈ x.trace Store.answer s, e.Readable := by
  induction asks generalizing s with
  | done a => exact nofun
  | call c within _ ih =>
    cases c with
    | readObject path =>
      refine List.forall_mem_cons.mpr ⟨?_, ih _ objects⟩
      show Exchange.Readable ⟨.readObject path, Store.find s.objects path⟩
      cases found : s.objects.lookup path with
      | none =>
        rw [Store.find, found]
        rfl
      | some entry =>
        obtain ⟨before, after, table, -⟩ := List.lookup_eq_some_iff.mp found
        rw [Store.find, found]
        exact objects (path, entry) (by simp [table])
    | readNamespace | readConfig | readSecret | createSecret | createEvent | readPod =>
      simp at within

theorem OwnerChain.asks_resolvePod (ns : String) (limit : Int) (pod : Json) :
    (resolvePod ns limit pod).Asks [.object] :=
  .bind (.ofShaped _) fun _ => asks_walk _ _ _ _ _

def ownedByReplicaSet (fs : Fields) (name : String) : Json :=
  ownedBy fs [referenceTo true "ReplicaSet" "apps/v1" name]

theorem traceable_ownedByReplicaSet (fs : Fields) (name : String) :
    OwnerChain.Traceable (ownedByReplicaSet fs name) := traceable_ownedBy fs (by simp)

def replicaSetOf (name owner : String) : String × Entry Json :=
  (OwnerLink.path ⟨"ReplicaSet", "apps/v1", "replicasets", name⟩ "shop",
    .ok (ownedByReplicaSet [("name", .str name)] owner))

def circularShop : Store :=
  { Store.empty with objects := [replicaSetOf "web-1" "web-2", replicaSetOf "web-2" "web-1"] }

def circlingPod : Json := ownedByReplicaSet [("generateName", .str "web-1-")] "web-1"

/-- Both are read once, and the second one is the workload that is known. -/
theorem resolvePod_bounded_circle :
    let x := OwnerChain.resolvePod "shop" 10 circlingPod
    let reads := x.run.trace Store.answer circularShop
    OwnerChain.Traceable circlingPod ∧ (∀ e ∈ reads, e.Readable) ∧
      reads.length ≤ 10 ∧ (reads.map (·.call)).Nodup ∧
      (x.play Store.answer circularShop).1 = .error (.injection (.ownerResolution
        "cycle in owner references at ReplicaSet web-1 in namespace shop"
        ⟨.str "web-2", .str "ReplicaSet"⟩ none)) := by
  have traceable := traceable_ownedByReplicaSet [("generateName", .str "web-1-")] "web-1"
  have readable := Store.readable_trace (s := circularShop)
    (OwnerChain.asks_resolvePod "shop" 10 circlingPod) (by
      simp only [circularShop, List.forall_mem_cons, List.not_mem_nil, false_imp_iff, implies_true,
        and_true]
      exact ⟨traceable_ownedByReplicaSet _ _, traceable_ownedByReplicaSet _ _⟩)
  obtain ⟨few, apart, -⟩ :=
    resolvePod_bounded Store.answer "shop" 10 circularShop ⟨_, rfl⟩ traceable readable
  exact ⟨traceable, readable, few, apart, by decide +kernel⟩

end PodInstrumentation
