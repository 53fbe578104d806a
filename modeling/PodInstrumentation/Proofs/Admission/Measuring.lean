import PodInstrumentation.Proofs.Admission.Deciding
/-!
What an admission leaves in the metrics: one admission under its outcome, one soft failure if it is
one, and the containers that its repair counted, whatever became of the repair. -/
namespace PodInstrumentation

namespace Metrics

def counted (label : String) (counts : List (String × Nat)) : Nat := (counts.lookup label).getD 0

theorem counted_cons (label l : String) (n : Nat) (counts : List (String × Nat)) :
    counted label ((l, n) :: counts) = if label = l then n else counted label counts := by
  unfold counted
  by_cases same : label = l
  · simp [same]
  · have apart : (label == l) = false := beq_false_of_ne same
    simp [List.lookup_cons, apart, same]

theorem counted_adjust (label other : String) (counts : List (String × Nat)) :
    counted label (adjust other 0 (· + 1) counts) =
      counted label counts + if label = other then 1 else 0 := by
  induction counts with
  | nil =>
    rw [adjust, counted_cons]
    split <;> rfl
  | cons first counts ih =>
    obtain ⟨l, n⟩ := first
    rw [adjust, counted_cons]
    by_cases found : l = other
    · rw [if_pos found, counted_cons, found]
      split <;> rfl
    · rw [if_neg found, counted_cons, ih]
      by_cases here : label = l
      · have apart : ¬ label = other := fun e => found (here ▸ e)
        rw [if_pos here, if_pos here, if_neg apart]
        rfl
      · rw [if_neg here, if_neg here]

end Metrics

namespace Admission

open Metrics (counted counted_adjust)

structure Recorded (outcome : Outcome) (before after : Metrics) : Prop where
  admissions : ∀ label, counted label after.admissions =
    counted label before.admissions + if label = outcome.name then 1 else 0
  softFailures : ∃ kind, ∀ label, counted label after.softFailures =
    counted label before.softFailures + if outcome = .softFailed ∧ label = kind then 1 else 0

namespace Handler

section Conclude

variable (request : Request) (deadline : Option Seconds) (name : Json) (n : Nat)
  (duration : Double) (m : Metrics)

theorem record_repairs (rest : List Measurement) :
    ((if n = 0 then [] else [Measurement.repaired n]) ++ rest).foldl
      (Measurement.record duration) m =
      rest.foldl (Measurement.record duration) (m.repair n) := by
  split
  · rename_i none
    rw [none]
    rfl
  · rfl

theorem record_conclude_ok (patch : Patch) (outcome : Outcome) :
    (conclude request deadline name n (.ok (patch, outcome))).record duration m =
      (m.repair n).admission outcome.name duration :=
  record_repairs n duration m [.admission outcome]

theorem record_conclude_error (e : Fault) :
    (conclude request deadline name n (.error e)).record duration m =
      ((m.repair n).softFailure (deadlineFault deadline e).kind).admission
        Outcome.softFailed.name duration :=
  record_repairs n duration m [.softFailure _, .admission .softFailed]

theorem recorded_conclude {result : Except Fault (Patch × Outcome)}
    (fine : ∀ {decision}, result = .ok decision → decision.2 ≠ .softFailed) :
    Recorded (conclude request deadline name n result).outcome m
      ((conclude request deadline name n result).record duration m) := by
  cases result with
  | ok decision =>
    have other : ∀ label, ¬ (decision.2 = .softFailed ∧ label = "") := fun _ both => fine rfl both.1
    rw [record_conclude_ok]
    refine ⟨fun label => counted_adjust label _ _, "", fun label => ?_⟩
    rw [conclude, if_neg (other label)]
    rfl
  | error e =>
    rw [record_conclude_error]
    refine ⟨fun label => counted_adjust label _ _, (deadlineFault deadline e).kind,
      fun label => (counted_adjust label _ _).trans ?_⟩
    simp only [conclude, true_and]
    rfl

/-- What a repair counted is recorded even if a fault came after it. -/
theorem repaired_conclude (result : Except Fault (Patch × Outcome)) :
    ((conclude request deadline name n result).record duration m).repaired = m.repaired + n := by
  cases result with
  | ok decision =>
    rw [record_conclude_ok]
    rfl
  | error e =>
    rw [record_conclude_error]
    rfl

end Conclude

/-- What a report records is what the conclusion does, if anything is measured. -/
theorem record_of_handle {σ : Type} {answer : σ → (c : ApiCall) → Except Failure c.Answer × σ}
    {s s' : σ} {h : Handler} {request : Request} {deadline : Option Seconds} {report : Report}
    (ran : (h.handle request deadline).run answer s = (.ok report, s')) :
    ∃ name n result, (h.decide request).run answer s = ((n, result), s') ∧
      report.verdict = (conclude request deadline name n result).verdict ∧
      report.outcome = (conclude request deadline name n result).outcome ∧
      ∀ duration m, report.record duration m = if h.measured then
        (conclude request deadline name n result).record duration m else m := by
  obtain ⟨name, n, result, decided, rfl⟩ := concluded_of_handle ran
  refine ⟨name, n, result, decided, ?_⟩
  dsimp only
  cases h.measured with
  | false => exact ⟨rfl, rfl, fun _ _ => rfl⟩
  | true => exact ⟨rfl, rfl, fun _ _ => rfl⟩

end Handler

end Admission

end PodInstrumentation
