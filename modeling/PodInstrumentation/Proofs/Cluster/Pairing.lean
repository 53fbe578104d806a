import PodInstrumentation.Cluster.Store
import PodInstrumentation.Proofs.Cluster.Asking
/-!
Conversations with two clusters. Two conversations are paired if, from states that belong together,
they come to results that belong together and leave such states behind. A conversation is paired
with itself if the clusters answer alike all that it asks for. Clusters held in tables that differ
in what answers calls of one kind answer all other calls alike. -/
namespace PodInstrumentation

inductive Agree {ε α β : Type} (q : α → β → Prop) : Except ε α → Except ε β → Prop
  | ok {a : α} {b : β} (h : q a b) : Agree q (.ok a) (.ok b)
  | error (e : ε) : Agree q (.error e) (.error e)

namespace Agree

variable {ε α β : Type} {q : α → β → Prop}

theorem of_eq {x : Except ε α} {q : α → α → Prop} (h : ∀ a, q a a) : Agree q x x := by
  cases x with
  | ok a => exact .ok (h a)
  | error e => exact .error e

theorem eq {x y : Except ε α} (h : Agree (fun a b => b = a) x y) : y = x := by
  cases h with
  | ok same => rw [same]
  | error e => rfl

theorem mono {q' : α → β → Prop} {x : Except ε α} {y : Except ε β} (h : Agree q x y)
    (weaker : ∀ a b, q a b → q' a b) : Agree q' x y := by
  cases h with
  | ok h => exact .ok (weaker _ _ h)
  | error e => exact .error e

theorem bind {γ δ : Type} {q' : γ → δ → Prop} {x : Except ε α} {y : Except ε β}
    {f : α → Except ε γ} {g : β → Except ε δ} (h : Agree q x y)
    (hf : ∀ a b, q a b → Agree q' (f a) (g b)) : Agree q' (x >>= f) (y >>= g) := by
  cases h with
  | ok h => exact hf _ _ h
  | error e => exact .error e

end Agree

section Clusters

variable {σ τ : Type} (answer : σ → (c : ApiCall) → Except Failure c.Answer × σ)
  (answer' : τ → (c : ApiCall) → Except Failure c.Answer × τ) (R : σ → τ → Prop)

structure AlikeOn (ks : List ApiCall.Kind) : Prop where
  answers : ∀ {s t} (c : ApiCall), R s t → c.kind ∈ ks → (answer' t c).1 = (answer s c).1
  states : ∀ {s t} (c : ApiCall), R s t → c.kind ∈ ks → R (answer s c).2 (answer' t c).2

structure AlikeBut (k : ApiCall.Kind) : Prop where
  answers : ∀ {s t} (c : ApiCall), R s t → c.kind ≠ k → (answer' t c).1 = (answer s c).1
  states : ∀ {s t} (c : ApiCall), R s t → c.kind ≠ k → R (answer s c).2 (answer' t c).2
  left : ∀ {s t} (c : ApiCall), R s t → c.kind = k → R (answer s c).2 t
  right : ∀ {s t} (c : ApiCall), R s t → c.kind = k → R s (answer' t c).2

/-- Run on the two clusters, the conversations come to results that belong together. -/
def Interaction.Paired {α β : Type} (q : α → β → Prop) (x : Interaction α) (y : Interaction β) :
    Prop :=
  ∀ s t, R s t → q (x.run answer s).1 (y.run answer' t).1 ∧
    R (x.run answer s).2 (y.run answer' t).2

def Attempt.Paired {α β : Type} (q : α → β → Prop) (x : Attempt α) (y : Attempt β) : Prop :=
  Interaction.Paired answer answer' R (Agree q) x.run y.run

end Clusters

section Pairs

variable {σ τ : Type} {answer : σ → (c : ApiCall) → Except Failure c.Answer × σ}
  {answer' : τ → (c : ApiCall) → Except Failure c.Answer × τ} {R : σ → τ → Prop}

theorem AlikeOn.mono {ks ls : List ApiCall.Kind} (h : AlikeOn answer answer' R ls)
    (fewer : ks ⊆ ls) : AlikeOn answer answer' R ks where
  answers c related within := h.answers c related (fewer within)
  states c related within := h.states c related (fewer within)

theorem AlikeBut.on {k : ApiCall.Kind} (h : AlikeBut answer answer' R k) {ks : List ApiCall.Kind}
    (others : k ∉ ks) : AlikeOn answer answer' R ks where
  answers c related within := h.answers c related fun e => others (e ▸ within)
  states c related within := h.states c related fun e => others (e ▸ within)

namespace Interaction

variable {α β γ δ : Type}

theorem run_call (c : ApiCall) (next : Except Failure c.Answer → Interaction α) (s : σ) :
    (call c next).run answer s = (next (answer s c).1).run answer (answer s c).2 := rfl

namespace Paired

theorem done {q : α → β → Prop} {a : α} {b : β} (h : q a b) :
    Paired answer answer' R q (.done a) (.done b) := fun _ _ related => ⟨h, related⟩

theorem bind {q : α → β → Prop} {q' : γ → δ → Prop} {x : Interaction α} {y : Interaction β}
    {f : α → Interaction γ} {g : β → Interaction δ} (hx : Paired answer answer' R q x y)
    (hf : ∀ a b, q a b → Paired answer answer' R q' (f a) (g b)) :
    Paired answer answer' R q' (x.bind f) (y.bind g) := by
  intro s t related
  obtain ⟨h, related'⟩ := hx s t related
  rw [run_bind, run_bind]
  exact hf _ _ h _ _ related'

theorem mono {q q' : α → β → Prop} {x : Interaction α} {y : Interaction β}
    (hx : Paired answer answer' R q x y) (weaker : ∀ a b, q a b → q' a b) :
    Paired answer answer' R q' x y :=
  fun s t related => (hx s t related).imp_left (weaker _ _)

/-- The answers to what is asked for are all that a run depends on. -/
theorem of_asks {ks : List ApiCall.Kind} (alike : AlikeOn answer answer' R ks)
    {x : Interaction α} (asks : x.Asks ks) : Paired answer answer' R (fun a b => b = a) x x := by
  induction asks with
  | done a => exact done rfl
  | call c within _ ih =>
    intro s t related
    rw [run_call, run_call, alike.answers c related within]
    exact ih _ _ _ (alike.states c related within)

end Paired

end Interaction

theorem Attempt.ofShaped_ok_bind {α β : Type} (a : α) (f : α → Attempt β) :
    (ofShaped (.ok a) >>= f) = f a := rfl

namespace Attempt.Paired

variable {α β γ δ : Type} {q : α → β → Prop} {q' : γ → δ → Prop}

theorem play {x : Attempt α} {y : Attempt β} (h : Paired answer answer' R q x y) {s : σ} {t : τ}
    (related : R s t) : Agree q (x.play answer s).1 (y.play answer' t).1 ∧
      R (x.play answer s).2 (y.play answer' t).2 := h s t related

theorem pure {a : α} {b : β} (h : q a b) :
    Paired answer answer' R q (Pure.pure a) (Pure.pure b) := .done (.ok h)

theorem throw (e : Fault) :
    Paired answer answer' R q (MonadExcept.throw e) (MonadExcept.throw e) := .done (.error e)

theorem ofShaped {x : Shaped α} {y : Shaped β} (h : Agree q x y) :
    Paired answer answer' R q (Attempt.ofShaped x) (Attempt.ofShaped y) := by
  cases h with
  | ok h => exact .done (.ok h)
  | error e => exact .done (.error _)

theorem bind {x : Attempt α} {y : Attempt β} {f : α → Attempt γ} {g : β → Attempt δ}
    (hx : Paired answer answer' R q x y)
    (hf : ∀ a b, q a b → Paired answer answer' R q' (f a) (g b)) :
    Paired answer answer' R q' (x >>= f) (y >>= g) :=
  Interaction.Paired.bind hx fun r r' h => by
    cases h with
    | ok h => exact hf _ _ h
    | error e => exact .done (.error e)

theorem tryCatch {x : Attempt α} {y : Attempt β} {f : Fault → Attempt α} {g : Fault → Attempt β}
    (hx : Paired answer answer' R q x y) (hf : ∀ e, Paired answer answer' R q (f e) (g e)) :
    Paired answer answer' R q (MonadExcept.tryCatch x f) (MonadExcept.tryCatch y g) :=
  Interaction.Paired.bind hx fun r r' h => by
    cases h with
    | ok h => exact .done (.ok h)
    | error e => exact hf e

theorem lift {x : Interaction α} {y : Interaction β}
    (hx : Interaction.Paired answer answer' R q x y) :
    Paired answer answer' R q (ExceptT.lift x) (ExceptT.lift y) :=
  Interaction.Paired.bind hx fun _ _ h => .done (.ok h)

theorem of_asks {ks : List ApiCall.Kind} (alike : AlikeOn answer answer' R ks) {x : Attempt α}
    (asks : x.Asks ks) : Paired answer answer' R (fun a b => b = a) x x :=
  Interaction.Paired.mono (Interaction.Paired.of_asks alike asks) fun r _ same => by
    rw [same]
    exact .of_eq fun _ => rfl

theorem mono {q' : α → β → Prop} {x : Attempt α} {y : Attempt β}
    (hx : Paired answer answer' R q x y) (weaker : ∀ a b, q a b → q' a b) :
    Paired answer answer' R q' x y := Interaction.Paired.mono hx fun _ _ h => h.mono weaker

theorem and_left {x : Attempt α} {y : Attempt β} (hx : Paired answer answer' R q x y)
    {p : α → Prop} (known : ∀ {s t a s'}, R s t → x.play answer s = (.ok a, s') → p a) :
    Paired answer answer' R (fun a b => q a b ∧ p a) x y := by
  intro s t related
  obtain ⟨h, related'⟩ := hx s t related
  refine ⟨?_, related'⟩
  have first : x.play answer s = ((x.run.run answer s).1, (x.run.run answer s).2) := rfl
  generalize (x.run.run answer s).1 = r at h first ⊢
  generalize (y.run.run answer' t).1 = r' at h ⊢
  cases h with
  | ok h => exact .ok ⟨h, known related first⟩
  | error e => exact .error e

end Attempt.Paired

end Pairs

namespace Store

/-- The tables of a store, apart from what answers calls of the kind and from what is on record. -/
def blind (k : ApiCall.Kind) (s : Store) : Store :=
  match k with
  | .space => { s.forget with namespaces := [] }
  | .config => { s.forget with configs := [] }
  | .secret => { s.forget with secrets := [], createErrors := [] }
  | .object => { s.forget with objects := [] }
  | .event => { s.forget with eventError := none }
  | .pod => { s.forget with pods := [] }

/-- A call of another kind sees the tables that are left, and leaves them as it would leave
these. -/
theorem answer_blind {k : ApiCall.Kind} (s : Store) {c : ApiCall} (other : c.kind ≠ k) :
    (answer s c).1 = (answer (s.blind k) c).1 ∧
      (answer s c).2.blind k = (answer (s.blind k) c).2.blind k := by
  cases c with
  | createSecret m =>
    have found : (s.blind k).createErrors = s.createErrors := by
      cases k <;> first | rfl | exact absurd rfl other
    simp only [answer, serve, found]
    cases s.createErrors.lookup (slot m.ns m.name) <;> cases k <;> exact ⟨rfl, rfl⟩
  | createEvent e =>
    have found : (s.blind k).eventError = s.eventError := by
      cases k <;> first | rfl | exact absurd rfl other
    simp only [answer, serve, found]
    cases s.eventError <;> cases k <;> exact ⟨rfl, rfl⟩
  | readNamespace | readConfig | readSecret | readObject | readPod =>
    cases k <;> first | exact ⟨rfl, rfl⟩ | exact absurd rfl other

theorem blind_answer (s : Store) (c : ApiCall) :
    (answer s c).2.blind c.kind = s.blind c.kind := by
  cases c with
  | createSecret m =>
    simp only [answer, serve, ApiCall.kind]
    cases s.createErrors.lookup (slot m.ns m.name) <;> rfl
  | createEvent e =>
    simp only [answer, serve, ApiCall.kind]
    cases s.eventError <;> rfl
  | readNamespace | readConfig | readSecret | readObject | readPod => rfl

theorem alikeBut_blind (k : ApiCall.Kind) :
    AlikeBut answer answer (fun s t => t.blind k = s.blind k) k where
  answers {s t} c same other := by
    rw [(answer_blind t other).1, (answer_blind s other).1, same]
  states {s t} c same other := by
    rw [(answer_blind t other).2, (answer_blind s other).2, same]
  left {s t} c same kind := by rw [← kind, blind_answer, kind, same]
  right {s t} c same kind := by rw [← kind, blind_answer, kind, same]

end Store

end PodInstrumentation
