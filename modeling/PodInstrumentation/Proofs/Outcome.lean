import PodInstrumentation.Capability.Draft
import PodInstrumentation.Cluster.Call
/-!
Chains of steps that may fail, taken apart at one step: plain outcomes, edits of a document and
conversations with a cluster. -/
namespace PodInstrumentation

theorem bind_eq_ok_iff {ε α β : Type} {x : Except ε α} {f : α → Except ε β} {b : β} :
    (x >>= f) = .ok b ↔ ∃ a, x = .ok a ∧ f a = .ok b := by
  cases x with
  | error e => exact ⟨nofun, fun ⟨_, h, _⟩ => nomatch h⟩
  | ok a => exact ⟨fun h => ⟨a, rfl, h⟩, fun ⟨_, h, hb⟩ => by cases h; exact hb⟩

instance decidableEqExcept {ε α : Type} [DecidableEq ε] [DecidableEq α] : DecidableEq (Except ε α)
  | .ok a, .ok b => decidable_of_iff (a = b) ⟨congrArg _, Except.ok.inj⟩
  | .error a, .error b => decidable_of_iff (a = b) ⟨congrArg _, Except.error.inj⟩
  | .ok _, .error _ | .error _, .ok _ => .isFalse nofun

@[simp] theorem ok_bind {ε α β : Type} (a : α) (f : α → Except ε β) : (.ok a >>= f) = f a := rfl

namespace Edit

variable {σ τ α β : Type}

theorem apply_bind (x : Edit σ α) (f : α → Edit σ β) (s : σ) :
    (x >>= f).apply s = match x.apply s with
      | (.ok a, s') => (f a).apply s'
      | (.error e, s') => (.error e, s') := by
  show (ExceptT.bindCont f (x.apply s).1).run (x.apply s).2 = _
  rcases x.apply s with ⟨r, s'⟩
  cases r <;> rfl

theorem apply_bind_ok {x : Edit σ α} {s s' : σ} {a : α} (h : x.apply s = (.ok a, s'))
    (f : α → Edit σ β) : (x >>= f).apply s = (f a).apply s' := by
  simp [apply_bind, h]

theorem apply_step_ok {f : σ → Shaped σ} {s s' : σ} (h : f s = .ok s') :
    (step f).apply s = (.ok (), s') := by
  unfold apply step
  dsimp only [ExceptT.run_mk, StateT.run]
  rw [h]

@[simp] theorem apply_look (f : σ → Shaped α) (s : σ) : (look f).apply s = (f s, s) := rfl

theorem apply_bind_eq_ok {x : Edit σ α} {f : α → Edit σ β} {s s'' : σ} {b : β}
    (h : (x >>= f).apply s = (.ok b, s'')) :
    ∃ a s', x.apply s = (.ok a, s') ∧ (f a).apply s' = (.ok b, s'') := by
  rw [apply_bind] at h
  rcases hx : x.apply s with ⟨r, s'⟩
  rw [hx] at h
  cases r with
  | error e => cases h
  | ok a => exact ⟨a, s', rfl, h⟩

theorem apply_step_eq_ok {f : σ → Shaped σ} {s s' : σ} {u : Unit}
    (h : (step f).apply s = (.ok u, s')) : f s = .ok s' := by
  unfold apply step at h
  dsimp only [ExceptT.run_mk, StateT.run] at h
  cases result : f s <;> rw [result] at h <;> cases h
  rfl

theorem apply_look_eq_ok {f : σ → Shaped α} {s s' : σ} {a : α}
    (h : (look f).apply s = (.ok a, s')) : f s = .ok a ∧ s' = s :=
  ⟨congrArg Prod.fst h, (congrArg Prod.snd h).symm⟩

theorem apply_on (read : σ → τ) (write : σ → τ → σ) {e : Edit τ α} {s : σ} {r : Shaped α} {t : τ}
    (h : e.apply (read s) = (r, t)) : (on read write e).apply s = (r, write s t) := by
  show ((e.apply (read s)).1, write s (e.apply (read s)).2) = _
  rw [h]

theorem apply_on_eq_ok {read : σ → τ} {write : σ → τ → σ} {e : Edit τ α} {s s' : σ} {a : α}
    (h : (on read write e).apply s = (.ok a, s')) :
    ∃ t, e.apply (read s) = (.ok a, t) ∧ s' = write s t := by
  rcases ran : e.apply (read s) with ⟨r, t⟩
  rw [apply_on read write ran] at h
  cases h
  exact ⟨t, rfl, rfl⟩

end Edit

theorem Interaction.run_then {σ α β : Type}
    {answer : σ → (c : ApiCall) → Except Failure c.Answer × σ} {x : Interaction α} {s s' : σ}
    {a : α}
    (h : x.run answer s = (a, s')) (f : α → Interaction β) :
    (x >>= f).run answer s = (f a).run answer s' := by
  have steps : (x >>= f).run answer s = _ := run_bind answer x f s
  rw [steps, h]

namespace Attempt

variable {σ α β : Type} {answer : σ → (c : ApiCall) → Except Failure c.Answer × σ}

def play (answer : σ → (c : ApiCall) → Except Failure c.Answer × σ) (x : Attempt α) (s : σ) :
    Except Fault α × σ :=
  Interaction.run answer x.run s

theorem play_bind (x : Attempt α) (f : α → Attempt β) (s : σ) :
    (x >>= f).play answer s = match x.play answer s with
      | (.ok a, s') => (f a).play answer s'
      | (.error e, s') => (.error e, s') := by
  have h : (x >>= f).play answer s =
      Interaction.run answer (ExceptT.bindCont f (x.play answer s).1) (x.play answer s).2 :=
    Interaction.run_bind answer x.run (ExceptT.bindCont f) s
  rw [h]
  rcases x.play answer s with ⟨r, s'⟩
  cases r <;> rfl

theorem play_bind_ok {x : Attempt α} {s s' : σ} {a : α} (h : x.play answer s = (.ok a, s'))
    (f : α → Attempt β) : (x >>= f).play answer s = (f a).play answer s' := by
  simp [play_bind, h]

theorem play_bind_eq_ok {x : Attempt α} {f : α → Attempt β} {s s'' : σ} {b : β}
    (h : (x >>= f).play answer s = (.ok b, s'')) :
    ∃ a s', x.play answer s = (.ok a, s') ∧ (f a).play answer s' = (.ok b, s'') := by
  rw [play_bind] at h
  rcases hx : x.play answer s with ⟨r, s'⟩
  rw [hx] at h
  cases r with
  | error e => cases h
  | ok a => exact ⟨a, s', rfl, h⟩

theorem play_tryCatch_ok {x : Attempt α} {s s' : σ} {a : α} (h : x.play answer s = (.ok a, s'))
    (f : Fault → Attempt α) : (tryCatch x f).play answer s = (.ok a, s') :=
  Interaction.run_then h _

theorem play_tryCatch_error {x : Attempt α} {s s' : σ} {e : Fault}
    (h : x.play answer s = (.error e, s')) (f : Fault → Attempt α) :
    (tryCatch x f).play answer s = (f e).play answer s' :=
  Interaction.run_then h _

@[simp] theorem play_pure (a : α) (s : σ) : (pure a : Attempt α).play answer s = (.ok a, s) := rfl

theorem play_ofShaped_eq_ok {x : Shaped α} {a : α} {s s' : σ}
    (h : (ofShaped x).play answer s = (.ok a, s')) : x = .ok a ∧ s' = s := by
  cases x with
  | error e => cases h
  | ok b =>
    cases h
    exact ⟨rfl, rfl⟩

@[simp] theorem play_ask (c : ApiCall) (s : σ) :
    (ask c).play answer s = (.ok (answer s c).1, (answer s c).2) := rfl

@[simp] theorem play_lift (x : Interaction α) (s : σ) :
    play answer (ExceptT.lift x) s = (.ok (x.run answer s).1, (x.run answer s).2) := by
  show Interaction.run answer (x.bind fun a => .done (Except.ok a)) s = _
  rw [Interaction.run_bind]
  rfl

theorem play_lift_eq_ok {x : Interaction α} {a : α} {s s' : σ}
    (h : play answer (ExceptT.lift x) s = (.ok a, s')) : x.run answer s = (a, s') := by
  rw [play_lift] at h
  cases h
  rfl

end Attempt

end PodInstrumentation
