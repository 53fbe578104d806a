import PodInstrumentation.Proofs.Cluster.Posting
/-!
Transcripts of conversations: what was asked and answered on the way to a result, whoever answered.
A transcript is taken apart where the conversation is, and each exchange in it is judged by those
before it. -/
namespace PodInstrumentation

namespace Interaction

variable {α β σ : Type}

def Transcript : Interaction α → List Exchange → α → Prop
  | done a, t, b => t = [] ∧ b = a
  | call c next, t, b => ∃ r t', t = ⟨c, r⟩ :: t' ∧ Transcript (next r) t' b

/-- Every run has a transcript. -/
theorem transcript_trace (answer : σ → (c : ApiCall) → Except Failure c.Answer × σ)
    (x : Interaction α) (s : σ) : x.Transcript (x.trace answer s) (x.run answer s).1 := by
  induction x generalizing s with
  | done a => exact ⟨rfl, rfl⟩
  | call c next ih => exact ⟨(answer s c).1, _, rfl, ih _ _⟩

theorem trace_bind (answer : σ → (c : ApiCall) → Except Failure c.Answer × σ) (x : Interaction α)
    (f : α → Interaction β) (s : σ) : (x.bind f).trace answer s =
      x.trace answer s ++ (f (x.run answer s).1).trace answer (x.run answer s).2 := by
  induction x generalizing s with
  | done a => rfl
  | call c next ih => exact congrArg (⟨c, (answer s c).1⟩ :: ·) (ih _ _)

theorem Transcript.bind {x : Interaction α} {f : α → Interaction β} {t : List Exchange} {b : β}
    (h : (x.bind f).Transcript t b) :
    ∃ t₁ a t₂, t = t₁ ++ t₂ ∧ x.Transcript t₁ a ∧ (f a).Transcript t₂ b := by
  induction x generalizing t with
  | done a => exact ⟨[], a, t, rfl, ⟨rfl, rfl⟩, h⟩
  | call c next ih =>
    obtain ⟨r, t', rfl, rest⟩ := h
    obtain ⟨t₁, a, t₂, rfl, first, second⟩ := ih r rest
    exact ⟨⟨c, r⟩ :: t₁, a, t₂, rfl, ⟨r, t₁, rfl, first⟩, second⟩

theorem Transcript.kind_mem {ks : List ApiCall.Kind} {x : Interaction α} (asks : x.Asks ks)
    {t : List Exchange} {a : α} (h : x.Transcript t a) : ∀ e ∈ t, e.call.kind ∈ ks := by
  induction asks generalizing t with
  | done b =>
    obtain ⟨rfl, -⟩ := h
    exact nofun
  | call c within _ ih =>
    obtain ⟨r, t', rfl, rest⟩ := h
    exact List.forall_mem_cons.mpr ⟨within, ih r rest⟩

end Interaction

namespace Attempt

variable {α β : Type}

def Transcript (x : Attempt α) (t : List Exchange) (r : Except Fault α) : Prop :=
  Interaction.Transcript x.run t r

namespace Transcript

variable {x : Attempt α} {f : α → Attempt β} {t : List Exchange}

theorem bind {r : Except Fault β} (h : (x >>= f).Transcript t r) :
    (∃ e, x.Transcript t (.error e) ∧ r = .error e) ∨
      ∃ a t₁ t₂, t = t₁ ++ t₂ ∧ x.Transcript t₁ (.ok a) ∧ (f a).Transcript t₂ r := by
  have h : (x.run.bind (ExceptT.bindCont f)).Transcript t r := h
  obtain ⟨t₁, a, t₂, rfl, first, second⟩ := h.bind
  cases a with
  | error e =>
    obtain ⟨rfl, rfl⟩ := second
    exact .inl ⟨e, by rwa [List.append_nil], rfl⟩
  | ok a => exact .inr ⟨a, t₁, t₂, rfl, first, second⟩

theorem bind_ok {b : β} (h : (x >>= f).Transcript t (.ok b)) :
    ∃ a t₁ t₂, t = t₁ ++ t₂ ∧ x.Transcript t₁ (.ok a) ∧ (f a).Transcript t₂ (.ok b) := by
  rcases h.bind with ⟨e, -, failed⟩ | passed
  · cases failed
  · exact passed

theorem tryCatch {f : Fault → Attempt α} {r : Except Fault α}
    (h : (MonadExcept.tryCatch x f).Transcript t r) :
    (∃ a, x.Transcript t (.ok a) ∧ r = .ok a) ∨
      ∃ e t₁ t₂, t = t₁ ++ t₂ ∧ x.Transcript t₁ (.error e) ∧ (f e).Transcript t₂ r := by
  obtain ⟨t₁, a, t₂, rfl, first, second⟩ := Interaction.Transcript.bind h
  cases a with
  | error e => exact .inr ⟨e, t₁, t₂, rfl, first, second⟩
  | ok a =>
    obtain ⟨rfl, rfl⟩ := second
    exact .inl ⟨a, by rwa [List.append_nil], rfl⟩

theorem pure {a : α} {r : Except Fault α} (h : (Pure.pure a : Attempt α).Transcript t r) :
    t = [] ∧ r = .ok a := h

theorem throw {e : Fault} {r : Except Fault α}
    (h : (MonadExcept.throw e : Attempt α).Transcript t r) : t = [] ∧ r = .error e := h

theorem fail {e : InjectionError} {r : Except Fault α}
    (h : (Attempt.fail e : Attempt α).Transcript t r) : t = [] ∧ r = .error (.injection e) := h

theorem ofShaped {y : Shaped α} {r : Except Fault α} (h : (Attempt.ofShaped y).Transcript t r) :
    t = [] ∧ r = y.toFault := h

theorem ask {c : ApiCall} {r : Except Fault (Except Failure c.Answer)}
    (h : (Attempt.ask c).Transcript t r) : ∃ a, t = [⟨c, a⟩] ∧ r = .ok a := by
  obtain ⟨a, t', rfl, rfl, rfl⟩ := h
  exact ⟨a, rfl, rfl⟩

theorem lift {y : Interaction α} {r : Except Fault α}
    (h : Attempt.Transcript (ExceptT.lift y) t r) : ∃ a, y.Transcript t a ∧ r = .ok a := by
  obtain ⟨t₁, a, t₂, rfl, first, rfl, rfl⟩ := Interaction.Transcript.bind h
  exact ⟨a, by rwa [List.append_nil], rfl⟩

theorem ask_bind {c : ApiCall} {f : Except Failure c.Answer → Attempt β} {r : Except Fault β}
    (h : (Attempt.ask c >>= f).Transcript t r) :
    ∃ a t', t = ⟨c, a⟩ :: t' ∧ (f a).Transcript t' r := h

theorem ofShaped_bind {y : Shaped α} {f : α → Attempt β} {r : Except Fault β}
    (h : (Attempt.ofShaped y >>= f).Transcript t r) :
    (t = [] ∧ ∃ e, r = .error e) ∨ ∃ a, y = .ok a ∧ (f a).Transcript t r := by
  cases y with
  | error e =>
    obtain ⟨rfl, rfl⟩ := h
    exact .inl ⟨rfl, _, rfl⟩
  | ok a => exact .inr ⟨a, rfl, h⟩

theorem kind_mem {ks : List ApiCall.Kind} (asks : x.Asks ks) {r : Except Fault α}
    (h : x.Transcript t r) : ∀ e ∈ t, e.call.kind ∈ ks := Interaction.Transcript.kind_mem asks h

theorem eq_nil (asks : x.Asks []) {r : Except Fault α} (h : x.Transcript t r) : t = [] :=
  List.eq_nil_iff_forall_not_mem.mpr fun e he => List.not_mem_nil (h.kind_mem asks e he)

end Transcript

section Trace

variable {σ : Type} {answer : σ → (c : ApiCall) → Except Failure c.Answer × σ} {x : Attempt α}
  {s s' : σ}

theorem trace_bind_ok {a : α} (ran : x.play answer s = (.ok a, s')) (f : α → Attempt β) :
    (x >>= f).run.trace answer s = x.run.trace answer s ++ (f a).run.trace answer s' := by
  have steps : (x >>= f).run.trace answer s = x.run.trace answer s ++
      (ExceptT.bindCont f (x.play answer s).1).trace answer (x.play answer s).2 :=
    Interaction.trace_bind answer x.run _ s
  rw [steps, ran]
  rfl

theorem trace_bind_error {e : Fault} (ran : x.play answer s = (.error e, s'))
    (f : α → Attempt β) : (x >>= f).run.trace answer s = x.run.trace answer s := by
  have steps : (x >>= f).run.trace answer s = x.run.trace answer s ++
      (ExceptT.bindCont f (x.play answer s).1).trace answer (x.play answer s).2 :=
    Interaction.trace_bind answer x.run _ s
  rw [steps, ran]
  exact List.append_nil _

theorem trace_ask_bind (c : ApiCall) (f : Except Failure c.Answer → Attempt β) (s : σ) :
    (ask c >>= f).run.trace answer s = ⟨c, (answer s c).1⟩ ::
      (f (answer s c).1).run.trace answer (answer s c).2 := rfl

theorem trace_quiet (asks : x.Asks []) (s : σ) : x.run.trace answer s = [] :=
  Transcript.eq_nil asks (Interaction.transcript_trace answer x.run s)

theorem trace_tryCatch {f : Fault → Attempt α} (quiet : ∀ e, (f e).Asks []) (s : σ) :
    (tryCatch x f).run.trace answer s = x.run.trace answer s := by
  have steps : (tryCatch x f).run.trace answer s = x.run.trace answer s ++ _ :=
    Interaction.trace_bind answer x.run _ s
  rw [steps]
  rcases Interaction.run answer x.run s with ⟨r, s'⟩
  cases r with
  | ok a => exact List.append_nil _
  | error e =>
    show _ ++ (f e).run.trace answer s' = _
    rw [trace_quiet (quiet e), List.append_nil]

end Trace

def Only (p : ApiCall → Prop) (x : Attempt α) : Prop :=
  ∀ t r, x.Transcript t r → ∀ e ∈ t, p e.call

namespace Only

variable {p : ApiCall → Prop}

theorem quiet {x : Attempt α} (asks : x.Asks []) : x.Only p := by
  intro t r h
  rw [h.eq_nil asks]
  exact nofun

theorem ask {c : ApiCall} (sort : p c) : (Attempt.ask c).Only p := by
  intro t r h
  obtain ⟨a, rfl, -⟩ := h.ask
  exact List.forall_mem_singleton.mpr sort

theorem bind {x : Attempt α} {f : α → Attempt β} (hx : x.Only p) (hf : ∀ a, (f a).Only p) :
    (x >>= f).Only p := by
  intro t r h
  rcases h.bind with ⟨e, failed, -⟩ | ⟨a, t₁, t₂, rfl, first, second⟩
  · exact hx _ _ failed
  · exact List.forall_mem_append.mpr ⟨hx _ _ first, hf a _ _ second⟩

end Only

end Attempt

/-- Each exchange is justified by those before it. -/
def Justified (p : List Exchange → Exchange → Prop) (t : List Exchange) : Prop :=
  ∀ before e after, t = before ++ e :: after → p before e

namespace Justified

variable {p q : List Exchange → Exchange → Prop} {t t' : List Exchange}

theorem of_forall (h : ∀ e ∈ t, ∀ before, p before e) : Justified p t := by
  rintro before e after rfl
  exact h e (by simp) before

theorem nil : Justified p [] := of_forall nofun

theorem append (h : Justified p t) (h' : Justified (fun before => p (t ++ before)) t') :
    Justified p (t ++ t') := by
  intro before e after split
  rcases List.append_eq_append_iff.mp split with ⟨more, rfl, rest⟩ | ⟨more, rfl, rest⟩
  · exact h' more e after rest
  · cases more with
    | nil =>
      have at_ := h' [] e after (by simpa using rest.symm)
      simpa using at_
    | cons first more =>
      obtain ⟨rfl, rfl⟩ := List.cons_eq_cons.mp rest
      exact h before e more rfl

theorem mono (h : Justified p t) (weaker : ∀ before, ∀ e ∈ t, p before e → q before e) :
    Justified q t := by
  rintro before e after rfl
  exact weaker before e (by simp) (h before e after rfl)

theorem singleton {e : Exchange} (h : p [] e) : Justified p [e] := by
  intro before x after split
  cases before with
  | nil =>
    obtain ⟨rfl, -⟩ := List.cons_eq_cons.mp split
    exact h
  | cons first before => simp at split

end Justified

/-- If the call failed, the cluster itself did. -/
def Exchange.isRegular : Exchange → Bool
  | ⟨_, .ok _⟩ => true
  | ⟨_, .error f⟩ => f.isClusterError

def Fault.isDecoding : Fault → Bool
  | foreignBase64 | badBase64 | undecodable => true
  | injection _ | failure _ | misshapen | unreadable _ => false

theorem Secret.text_error {s : Secret} {key : String} {e : Fault} (h : s.text key = .error e) :
    e.isDecoding = true := by
  unfold text at h
  split at h
  · cases h
  · split at h
    · cases h
      rfl
    · split at h
      · cases h
        rfl
      · split at h
        · cases h
          rfl
        · cases h

end PodInstrumentation
