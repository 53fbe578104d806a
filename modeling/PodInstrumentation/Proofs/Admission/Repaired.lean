import Mathlib.Algebra.GroupWithZero.Nat
import Mathlib.Algebra.Order.BigOperators.Group.List
import Mathlib.Algebra.Order.Group.Nat
import PodInstrumentation.Proofs.Admission.Ending
import PodInstrumentation.Proofs.Admission.Posting
/-!
The total of repaired containers. It grows when a repair has changed them, which is before its event
is posted; a request that fails in between is answered without the patch, and the total has grown
all the same. -/
namespace PodInstrumentation.Admission

open Pod

def Report.repairs (report : Report) (object : List UInt8) : Nat :=
  match Json.ofBytes object with
  | .ok pod =>
    if report.outcome = .reinvoked then
      altered pod ((Patch.apply report.verdict.patch pod).getD pod) else 0
  | .error _ => 0

theorem Report.repairs_of_ne {report : Report} (other : report.outcome ≠ .reinvoked)
    (object : List UInt8) : report.repairs object = 0 := by
  unfold repairs
  split
  · exact if_neg other
  · rfl

theorem Report.repairs_of_repair {report : Report} {object : List UInt8} {pod pod' : Json}
    {j : Injector} {config : MonitoringConfig} {cs : List Capability} {n : Nat}
    (read : Json.ofBytes object = .ok pod) (reinvoked : report.outcome = .reinvoked)
    (sent : report.verdict.patch = Patch.between pod pod')
    (repaired : repair j config cs pod = (.ok n, pod')) : report.repairs object = n := by
  have distinct := Json.distinct_ofBytes read
  unfold repairs
  rw [read]
  dsimp only
  rw [if_pos reinvoked, sent, Json.apply_between distinct]
  exact (altered_repaired distinct repaired).2

namespace Handler

section Failure

variable {σ : Type} (answer : σ → (c : ApiCall) → Except Failure c.Answer × σ) (h : Handler)
  (request : Request) (s : σ)

/-- The number of containers that a repair counted before the request failed. -/
def lost : Nat :=
  match ((h.decide request).run answer s).1 with
  | (n, .error _) => n
  | (_, .ok _) => 0

inductive FailsAfterRepair (n : Nat) : Prop
  | intro {pod pod' : Json} {ns : String} {config : MonitoringConfig} {e : Fault} {s₁ s₂ : σ}
      (decoded : decode request.object = .ok pod)
      (course : (h.course request pod).play answer s = (.ok (.reinvoke ns config), s₁))
      (repaired : repair h.injector config h.capabilities pod = (.ok n, pod'))
      (failed : (repairedPatch ns pod pod').play answer s₁ = (.error e, s₂))

end Failure

section Decisions

variable {σ : Type} {answer : σ → (c : ApiCall) → Except Failure c.Answer × σ} {s s' : σ}
  {h : Handler} {request : Request} {pod : Json} {n : Nat}
  {result : Except Fault (Patch × Outcome)}

/-- Containers are counted exactly on the course of a repair that finds some. -/
theorem follow_counts {course : Course}
    (ran : (h.follow pod course).run answer s = ((n, result), s')) :
    (n = 0 ∧ ∀ patch, result ≠ .ok (patch, .reinvoked)) ∨
    (n ≠ 0 ∧ ∃ ns config pod', course = .reinvoke ns config ∧
      repair h.injector config h.capabilities pod = (.ok n, pod') ∧
      (repairedPatch ns pod pod').play answer s = (result, s')) := by
  cases course with
  | skip =>
    cases ran
    exact .inl ⟨rfl, by rintro patch ⟨⟩⟩
  | inject ns config =>
    rcases fresh : (h.freshPatch ns config pod).play answer s with ⟨r, s₁⟩
    have followed : (h.follow pod (.inject ns config)).run answer s = ((0, r), s₁) :=
      Interaction.run_then fresh _
    cases followed.symm.trans ran
    refine .inl ⟨rfl, ?_⟩
    rintro patch rfl
    rcases freshPatch_eq_ok fresh with ⟨_, other⟩ | ⟨other, _⟩ <;> cases other
  | reinvoke ns config =>
    simp only [follow] at ran
    rcases repaired : repair h.injector config h.capabilities pod with ⟨e | count, pod'⟩
    · rw [repaired] at ran
      cases ran
      exact .inl ⟨rfl, by rintro patch ⟨⟩⟩
    · rw [repaired] at ran
      cases count with
      | zero =>
        cases ran
        exact .inl ⟨rfl, by rintro patch ⟨⟩⟩
      | succ count =>
        rcases sent : (repairedPatch ns pod pod').play answer s with ⟨r, s₁⟩
        cases (Interaction.run_then sent _).symm.trans ran
        exact .inr ⟨Nat.succ_ne_zero count, ns, config, pod', rfl, repaired, sent⟩

theorem decide_counts (ran : (h.decide request).run answer s = ((n, result), s')) :
    (n = 0 ∧ ∀ patch, result ≠ .ok (patch, .reinvoked)) ∨
    (n ≠ 0 ∧ ∃ pod ns config s₁ pod', decode request.object = .ok pod ∧
      (h.course request pod).play answer s = (.ok (.reinvoke ns config), s₁) ∧
      repair h.injector config h.capabilities pod = (.ok n, pod') ∧
      (repairedPatch ns pod pod').play answer s₁ = (result, s')) := by
  unfold decide at ran
  cases decoded : decode request.object with
  | error e =>
    rw [decoded] at ran
    cases ran
    exact .inl ⟨rfl, by rintro patch ⟨⟩⟩
  | ok pod =>
    rw [decoded] at ran
    dsimp only at ran
    rcases found : (h.course request pod).play answer s with ⟨e | course, s₁⟩
    · rw [Interaction.run_then found] at ran
      cases ran
      exact .inl ⟨rfl, by rintro patch ⟨⟩⟩
    · rw [Interaction.run_then found] at ran
      refine (follow_counts ran).imp_right ?_
      rintro ⟨some, ns, config, pod', rfl, repaired, sent⟩
      exact ⟨some, pod, ns, config, s₁, pod', rfl, found, repaired, sent⟩

theorem lost_eq_iff (some : n ≠ 0) :
    h.lost answer request s = n ↔ h.FailsAfterRepair answer request s n := by
  unfold lost
  rcases decided : (h.decide request).run answer s with ⟨⟨count, result⟩, s'⟩
  dsimp only
  constructor
  · intro is
    cases result with
    | ok decision => exact absurd is.symm some
    | error e =>
      subst is
      obtain ⟨none, _⟩ | ⟨_, pod, ns, config, s₁, pod', decoded, found, repaired, sent⟩ :=
        decide_counts decided
      · exact absurd none some
      · exact ⟨decoded, found, repaired, sent⟩
  · rintro @⟨pod, pod', ns, config, e, s₁, s₂, decoded, found, repaired, failed⟩
    obtain ⟨count', rfl⟩ := Nat.exists_eq_succ_of_ne_zero some
    unfold decide at decided
    rw [decoded] at decided
    dsimp only at decided
    rw [Interaction.run_then found] at decided
    simp only [follow, repaired] at decided
    cases (Interaction.run_then failed _).symm.trans decided
    rfl

theorem lost_eq_zero_iff :
    h.lost answer request s = 0 ↔ ∀ n ≠ 0, ¬ h.FailsAfterRepair answer request s n := by
  constructor
  · intro none n some fails
    exact some (((lost_eq_iff some).mpr fails).symm.trans none)
  · intro none
    by_contra some
    exact none _ some ((lost_eq_iff some).mp rfl)

theorem not_misnamed_of_injected {b : Bool} (decoded : decode request.object = .ok pod)
    (injected : isInjected pod = .ok b) : ¬ Misnamed request := by
  rintro ⟨pod, decoded', set, none⟩
  cases decoded.symm.trans decoded'
  obtain ⟨values, read, _⟩ := bind_eq_ok_iff.mp injected
  obtain ⟨m, part, rest⟩ := bind_eq_ok_iff.mp read
  obtain ⟨w, field, written⟩ := bind_eq_ok_iff.mp part
  cases field_eq_ok field
  cases written
  rw [Json.orElse, if_pos set] at rest
  obtain ⟨_, field', _⟩ := bind_eq_ok_iff.mp rest
  cases m : pod.get "metadata" <;> rw [m] at none field' <;> cases none <;> cases field'

theorem lost_of_misnamed (misnamed : Misnamed request) : h.lost answer request s = 0 := by
  by_contra some
  obtain @⟨pod, _, ns, config, _, _, _, decoded, found, _, _⟩ := (lost_eq_iff some).mp rfl
  obtain ⟨_, _, _, _, _, ⟨is, _⟩ | ⟨_, injected⟩⟩ := course_eq_ok found nofun
  · cases is
  · exact not_misnamed_of_injected decoded injected misnamed

/-- What was counted is repaired by the answer, or it is lost. -/
theorem counted_of_decide {report : Report} {deadline : Option Seconds} {name : Json}
    (decided : (h.decide request).run answer s = ((n, result), s'))
    (verdict : report.verdict = (conclude request deadline name n result).verdict)
    (outcome : report.outcome = (conclude request deadline name n result).outcome) :
    report.repairs request.object + h.lost answer request s = n := by
  unfold lost
  rw [decided]
  cases result with
  | error e =>
    have failed : report.outcome ≠ .reinvoked := outcome ▸ nofun
    rw [Report.repairs_of_ne failed]
    exact Nat.zero_add n
  | ok decision =>
    obtain ⟨patch, ended⟩ := decision
    have sent : report.verdict.patch = patch := congrArg Verdict.patch verdict
    obtain ⟨rfl, other⟩ | ⟨_, pod, ns, config, s₁, pod', decoded, _, repaired, made⟩ :=
      decide_counts decided
    · have skipped : report.outcome ≠ .reinvoked := fun is =>
        other patch (by rw [← is, outcome]; rfl)
      rw [Report.repairs_of_ne skipped]
      rfl
    · obtain ⟨rfl, rfl⟩ := repairedPatch_eq_ok made
      exact Report.repairs_of_repair (decode_eq_ok_iff.mp decoded).1 outcome sent repaired

end Decisions

end Handler

structure Arrival where
  request : Request
  deadline : Option Seconds
  duration : Double

structure Visit (σ : Type) where
  before : σ
  arrival : Arrival
  result : Shaped Report

namespace Visit

variable {σ : Type}

def record (m : Metrics) (v : Visit σ) : Metrics :=
  match v.result with
  | .ok report => report.record v.arrival.duration m
  | .error _ => m

def repairs (v : Visit σ) : Nat :=
  match v.result with
  | .ok report => report.repairs v.arrival.request.object
  | .error _ => 0

end Visit

namespace Handler

section Visits

variable {σ : Type} (answer : σ → (c : ApiCall) → Except Failure c.Answer × σ) (h : Handler)

def visit (s : σ) (a : Arrival) : Visit σ :=
  ⟨s, a, ((h.handle a.request a.deadline).run answer s).1⟩

def visits : List Arrival → σ → List (Visit σ)
  | [], _ => []
  | a :: rest, s =>
    h.visit answer s a :: visits rest ((h.handle a.request a.deadline).run answer s).2

theorem repaired_visit (a : Arrival) (s : σ) (m : Metrics) :
    ((h.visit answer s a).record m).repaired = m.repaired + if h.measured then
      (h.visit answer s a).repairs + h.lost answer a.request s else 0 := by
  rcases ran : (h.handle a.request a.deadline).run answer s with ⟨e | report, s'⟩
  · have misnamed : Misnamed a.request := by
      rw [← podName_eq_error_iff]
      cases named : podName a.request with
      | error e => exact ⟨e, rfl⟩
      | ok name =>
        rw [handle_run answer s h a.request a.deadline named] at ran
        cases ran
    simp only [visit, ran, Visit.record, Visit.repairs, lost_of_misnamed misnamed, ite_self,
      Nat.add_zero]
  · obtain ⟨name, n, result, decided, verdict, outcome, recorded⟩ := record_of_handle ran
    simp only [visit, ran, Visit.record, Visit.repairs, recorded,
      counted_of_decide decided verdict outcome]
    split
    · exact repaired_conclude a.request a.deadline name n a.duration m result
    · rfl

theorem repaired_visits (arrivals : List Arrival) (s : σ) (m : Metrics) :
    ((h.visits answer arrivals s).foldl Visit.record m).repaired = m.repaired + if h.measured then
      ((h.visits answer arrivals s).map fun v =>
        v.repairs + h.lost answer v.arrival.request v.before).sum else 0 := by
  -- Each visit is measured by itself, from the cluster that the one before left behind.
  induction arrivals generalizing s m with
  | nil => simp [visits]
  | cons a rest ih =>
    rw [visits, List.foldl_cons, List.map_cons, List.sum_cons, ih, repaired_visit]
    simp only [visit]
    split <;> omega

/-- Over any requests the total grows by the containers that the answers repair and by those that
were counted and then lost, so that it agrees with what was answered exactly if no request failed
after its repair. -/
theorem repaired_total (measured : h.measured = true) {arrivals : List Arrival} {s : σ}
    {visited : List (Visit σ)} (handled : h.visits answer arrivals s = visited) (m : Metrics) :
    (visited.foldl Visit.record m).repaired = m.repaired + (visited.map Visit.repairs).sum +
        (visited.map fun v => h.lost answer v.arrival.request v.before).sum ∧
      ((visited.foldl Visit.record m).repaired = m.repaired + (visited.map Visit.repairs).sum ↔
        ∀ v ∈ visited, ∀ n ≠ 0, ¬ h.FailsAfterRepair answer v.arrival.request v.before n) := by
  have total : (visited.foldl Visit.record m).repaired = m.repaired +
      (visited.map Visit.repairs).sum +
      (visited.map fun v => h.lost answer v.arrival.request v.before).sum := by
    rw [← handled, repaired_visits, if_pos measured, List.sum_map_add, Nat.add_assoc]
  refine ⟨total, ?_⟩
  rw [total, Nat.add_eq_left, List.sum_eq_zero_iff, List.forall_mem_map]
  exact forall₂_congr fun v _ => lost_eq_zero_iff

end Visits

end Handler

def arrivalOf (pod : Json) (deadline : Option Seconds) : Arrival :=
  ⟨admissionOf pod, deadline, .zero⟩

def staleVisits : List (Visit Store) := someHandler.visits Store.answer
  [arrivalOf web none, arrivalOf stale none, arrivalOf web none] shop

theorem repaired_total_stale : someHandler.measured = true ∧
    (staleVisits.foldl Visit.record .empty).repaired = 1 ∧
    (staleVisits.map Visit.repairs).sum = 1 := by
  have handled : someHandler.visits Store.answer
    [arrivalOf web none, arrivalOf stale none, arrivalOf web none] shop = staleVisits := rfl
  obtain ⟨total, -⟩ := Handler.repaired_total Store.answer someHandler rfl handled .empty
  have counted : (staleVisits.foldl Visit.record .empty).repaired = 1 := by decide +kernel
  have none : (staleVisits.map fun v =>
      someHandler.lost Store.answer v.arrival.request v.before).sum = 0 := by decide +kernel
  have start : Metrics.empty.repaired = 0 := rfl
  rw [counted, none, start, Nat.zero_add, Nat.add_zero] at total
  exact ⟨rfl, counted, total.symm⟩

/-- The event of the repair hangs: the pod is let in without a patch, and a container counts as
repaired. -/
theorem repaired_unanswered :
    let visited := someHandler.visits Store.answer [arrivalOf stale (some (.whole 1))]
      (shopLosing .hang)
    (visited.foldl Visit.record .empty).repaired = 1 ∧ (visited.map Visit.repairs).sum = 0 ∧
      visited.map (fun v => v.result.toOption.map fun report =>
        (report.verdict.patch, report.outcome)) = [some ([], .softFailed)] := by
  decide +kernel

end PodInstrumentation.Admission
