import PodInstrumentation.Proofs.Cluster.Pairing
/-!
What becomes of posted events. A conversation that forgives goes on after an event that the cluster
refused as after one that it took; an event that is lost in any other way ends it. -/
namespace PodInstrumentation

structure Exchange where
  call : ApiCall
  result : Except Failure call.Answer

/-- The failure that an event was lost by, if it is none of the cluster. -/
def Exchange.lost? : Exchange → Option Failure
  | ⟨.createEvent _, .error f⟩ => if f.isClusterError then none else some f
  | _ => none

theorem Exchange.lost?_of_other {c : ApiCall} (other : c.kind ≠ .event)
    (r : Except Failure c.Answer) : lost? ⟨c, r⟩ = none := by
  cases c with
  | createEvent e => exact absurd rfl other
  | readNamespace | readConfig | readSecret | createSecret | readObject | readPod => rfl

theorem Exchange.lost?_eq_some {e : Event} {r : Except Failure Unit} {f : Failure}
    (was : lost? ⟨.createEvent e, r⟩ = some f) : r = .error f ∧ f.isClusterError = false := by
  cases r with
  | ok u => cases was
  | error g =>
    cases taken : g.isClusterError with
    | true => simp [lost?, taken] at was
    | false =>
      simp only [lost?, taken, Bool.false_eq_true, if_false, Option.some.injEq] at was
      exact was ▸ ⟨rfl, taken⟩

namespace Interaction

section Trace

variable {σ α : Type} (answer : σ → (c : ApiCall) → Except Failure c.Answer × σ)

def trace : Interaction α → σ → List Exchange
  | done _, _ => []
  | call c next, s => ⟨c, (answer s c).1⟩ :: trace (next (answer s c).1) (answer s c).2

def lostEvent? (x : Interaction α) (s : σ) : Option Failure :=
  (x.trace answer s).findSome? Exchange.lost?

theorem lostEvent?_call (c : ApiCall) (next : Except Failure c.Answer → Interaction α) (s : σ) :
    (call c next).lostEvent? answer s = (Exchange.lost? ⟨c, (answer s c).1⟩).or
      ((next (answer s c).1).lostEvent? answer (answer s c).2) := by
  rw [lostEvent?, trace, List.findSome?_cons]
  cases Exchange.lost? ⟨c, (answer s c).1⟩ <;> rfl

end Trace

section Forgives

variable {σ τ α β : Type} {lost : Failure → α → Prop}

/-- Events that the cluster takes and events that it refuses lead to the same, and one that is lost
by another failure ends the conversation with a result of its own. -/
inductive Forgives (lost : Failure → α → Prop) : Interaction α → Prop
  | done (a : α) : Forgives lost (done a)
  | call {c : ApiCall} (other : c.kind ≠ .event) {next : Except Failure c.Answer → Interaction α}
      (rest : ∀ r, Forgives lost (next r)) : Forgives lost (call c next)
  | post (e : Event) {next : Except Failure Unit → Interaction α}
      (rest : Forgives lost (next (.ok ())))
      (refused : ∀ f : Failure, f.isClusterError = true → next (.error f) = next (.ok ()))
      (ended : ∀ f : Failure, f.isClusterError = false →
        ∃ a, next (.error f) = .done a ∧ lost f a) :
      Forgives lost (call (.createEvent e) next)

namespace Forgives

theorem of_asks {ks : List ApiCall.Kind} {x : Interaction α} (asks : x.Asks ks)
    (silent : .event ∉ ks) : x.Forgives lost := by
  induction asks with
  | done a => exact .done a
  | call c within _ ih => exact .call (fun e => silent (e ▸ within)) ih

theorem bind {lost' : Failure → β → Prop} {x : Interaction α} {f : α → Interaction β}
    (hx : x.Forgives lost) (hf : ∀ a, (f a).Forgives lost')
    (passed : ∀ e a, lost e a → ∃ b, f a = .done b ∧ lost' e b) : (x.bind f).Forgives lost' := by
  induction hx with
  | done a => exact hf a
  | call other _ ih => exact .call other ih
  | post e _ refused ended ih =>
    refine .post e ih (fun g taken => congrArg (Interaction.bind · f) (refused g taken)) ?_
    intro g fatal
    obtain ⟨a, stops, was⟩ := ended g fatal
    obtain ⟨b, result, was'⟩ := passed g a was
    exact ⟨b, (congrArg (Interaction.bind · f) stops).trans result, was'⟩

variable {answer : σ → (c : ApiCall) → Except Failure c.Answer × σ}
  {answer' : τ → (c : ApiCall) → Except Failure c.Answer × τ} {R : σ → τ → Prop}

theorem next_of_kept {e : Event} {next : Except Failure Unit → Interaction α}
    (refused : ∀ f : Failure, f.isClusterError = true → next (.error f) = next (.ok ()))
    {r : Except Failure Unit} (kept : Exchange.lost? ⟨.createEvent e, r⟩ = none) :
    next r = next (.ok ()) := by
  cases r with
  | ok u => rfl
  | error f =>
    cases taken : f.isClusterError with
    | true => exact refused f taken
    | false => simp [Exchange.lost?, taken] at kept

/-- After a lost event the result is that of the loss. -/
theorem run_of_lost {x : Interaction α} (hx : x.Forgives lost) {s : σ} {f : Failure}
    (was : x.lostEvent? answer s = some f) : lost f (x.run answer s).1 := by
  induction hx generalizing s with
  | done a => cases was
  | call other _ ih =>
    rw [lostEvent?_call, Exchange.lost?_of_other other, Option.none_or] at was
    exact ih _ was
  | @post e next _ refused ended ih =>
    rw [lostEvent?_call] at was
    rw [run_call]
    cases posted : Exchange.lost? ⟨.createEvent e, (answer s (.createEvent e)).1⟩ with
    | none =>
      rw [posted, Option.none_or] at was
      rw [next_of_kept refused posted] at was ⊢
      exact ih was
    | some g =>
      rw [posted, Option.some_or, Option.some.injEq] at was
      obtain ⟨failed, fatal⟩ := Exchange.lost?_eq_some posted
      obtain ⟨a, stops, result⟩ := ended g fatal
      rw [failed, stops, ← was]
      exact result

/-- Two runs that lose no event come to the same. -/
theorem run_eq (alike : AlikeBut answer answer' R .event) {x : Interaction α}
    (hx : x.Forgives lost) {s : σ} {t : τ} (related : R s t)
    (kept : x.lostEvent? answer s = none) (kept' : x.lostEvent? answer' t = none) :
    (x.run answer' t).1 = (x.run answer s).1 := by
  induction hx generalizing s t with
  | done a => rfl
  | call other _ ih =>
    rw [lostEvent?_call, Option.or_eq_none_iff] at kept kept'
    rw [run_call, run_call]
    rw [alike.answers _ related other] at kept' ⊢
    exact ih _ (alike.states _ related other) kept.2 kept'.2
  | @post e next _ refused ended ih =>
    -- An event that is not lost leads to what follows one that was taken, on both sides.
    have related' : R (answer s (.createEvent e)).2 (answer' t (.createEvent e)).2 :=
      alike.right _ (alike.left _ related rfl) rfl
    rw [lostEvent?_call, Option.or_eq_none_iff] at kept kept'
    rw [run_call, run_call, next_of_kept refused kept.1, next_of_kept refused kept'.1]
    rw [next_of_kept refused kept.1] at kept
    rw [next_of_kept refused kept'.1] at kept'
    exact ih related' kept.2 kept'.2

end Forgives

end Forgives

end Interaction

namespace Attempt

variable {α β : Type}

def Forgives (x : Attempt α) : Prop :=
  Interaction.Forgives (fun f r => r = .error (.failure f)) x.run

namespace Forgives

theorem of_asks {ks : List ApiCall.Kind} {x : Attempt α} (asks : x.Asks ks)
    (silent : .event ∉ ks) : x.Forgives := Interaction.Forgives.of_asks asks silent

theorem bind {x : Attempt α} {f : α → Attempt β} (hx : x.Forgives) (hf : ∀ a, (f a).Forgives) :
    (x >>= f).Forgives := by
  refine Interaction.Forgives.bind hx (fun r => ?_) fun g r lost => ?_
  · cases r with
    | ok a => exact hf a
    | error e => exact .done _
  · rw [lost]
    exact ⟨_, rfl, rfl⟩

end Forgives

end Attempt

end PodInstrumentation
