import PodInstrumentation.Proofs.Capability.Growing
import PodInstrumentation.Proofs.Cluster.Pairing
/-!
Injections by two clusters. If each capability is prepared to edits that keep drafts together, then
so does the injection of them all. -/
namespace PodInstrumentation

/-- From states that belong together both edits fail, or both come to the same end and leave such
states behind. -/
def Edit.Paired {σ α : Type} (D : σ → σ → Prop) (e e' : Edit σ α) : Prop :=
  ∀ d d', D d d' →
    (∃ a s s', e.apply d = (.ok a, s) ∧ e'.apply d' = (.ok a, s') ∧ D s s') ∨
      ∃ s s', e.apply d = (.error .misshapen, s) ∧ e'.apply d' = (.error .misshapen, s')

def SameEnd (D : Draft → Draft → Prop) (r r' : Except Fault (List String) × Draft) : Prop :=
  (∃ names, r.1 = .ok names ∧ r'.1 = .ok names ∧ D r.2 r'.2) ∨
    ∃ e, r.1 = .error e ∧ r'.1 = .error e

theorem Edit.Paired.of_eq {σ α : Type} (e : Edit σ α) : Edit.Paired Eq e e := by
  rintro d _ rfl
  rcases ran : e.apply d with ⟨r, s⟩
  cases r with
  | ok a => exact .inl ⟨a, s, s, rfl, rfl, rfl⟩
  | error e => exact .inr ⟨s, s, rfl, rfl⟩

namespace Edit.Paired

variable {σ τ α β : Type} {D : σ → σ → Prop}

theorem pure (a : α) : Edit.Paired D (Pure.pure a : Edit σ α) (Pure.pure a) :=
  fun d d' related => .inl ⟨a, d, d', rfl, rfl, related⟩

theorem bind {x x' : Edit σ α} {f f' : α → Edit σ β} (hx : Edit.Paired D x x')
    (hf : ∀ a, Edit.Paired D (f a) (f' a)) : Edit.Paired D (x >>= f) (x' >>= f') := by
  intro d d' related
  rw [apply_bind, apply_bind]
  obtain ⟨a, s, s', ran, ran', still⟩ | ⟨s, s', ran, ran'⟩ := hx d d' related
  · rw [ran, ran']
    exact hf a s s' still
  · rw [ran, ran']
    exact .inr ⟨s, s', rfl, rfl⟩

theorem look {f f' : σ → Shaped α} (same : ∀ d d', D d d' → f' d' = f d) :
    Edit.Paired D (Edit.look f) (Edit.look f') := by
  intro d d' related
  rw [apply_look, apply_look, same d d' related]
  cases f d with
  | ok a => exact .inl ⟨a, d, d', rfl, rfl, related⟩
  | error e => exact .inr ⟨d, d', rfl, rfl⟩

theorem step {f f' : σ → Shaped σ} (steps : ∀ d d', D d d' → Agree D (f d) (f' d')) :
    Edit.Paired D (Edit.step f) (Edit.step f') := by
  intro d d' related
  unfold Edit.apply Edit.step
  dsimp only [ExceptT.run_mk, StateT.run]
  have agree := steps d d' related
  generalize f d = r at agree ⊢
  generalize f' d' = r' at agree ⊢
  cases agree with
  | ok still => exact .inl ⟨(), _, _, rfl, rfl, still⟩
  | error e => exact .inr ⟨d, d', rfl, rfl⟩

theorem on {read : σ → τ} {write : σ → τ → σ} (e : Edit τ α)
    (same : ∀ d d', D d d' → read d' = read d)
    (kept : ∀ d d' t, D d d' → D (write d t) (write d' t)) :
    Edit.Paired D (Edit.on read write e) (Edit.on read write e) := by
  intro d d' related
  rcases ran : e.apply (read d) with ⟨r, t⟩
  rw [apply_on read write ran, apply_on read write (same d d' related ▸ ran)]
  cases r with
  | ok a => exact .inl ⟨a, _, _, rfl, rfl, kept d d' t related⟩
  | error e => exact .inr ⟨_, _, rfl, rfl⟩

theorem and_keeps {K : σ → σ → Prop} {e e' : Edit σ α} (h : Edit.Paired D e e')
    (keeps : Edit.Keeps K e) {p : σ → Prop} (carried : ∀ s s', p s → K s s' → p s') :
    Edit.Paired (fun d d' => D d d' ∧ p d) e e' := by
  rintro d d' ⟨related, known⟩
  refine (h d d' related).imp ?_ id
  rintro ⟨a, s, s', ran, ran', still⟩
  exact ⟨a, s, s', ran, ran', still, carried d s known (keeps d a s ran)⟩

end Edit.Paired

section Injection

variable {σ τ : Type} {answer : σ → (c : ApiCall) → Except Failure c.Answer × σ}
  {answer' : τ → (c : ApiCall) → Except Failure c.Answer × τ} {R : σ → τ → Prop}
  {D : Draft → Draft → Prop} {j : Injector} {config : MonitoringConfig} {ns : String}

theorem inject_paired (pods : ∀ d d', D d d' → d'.pod = d.pod)
    (prepared : ∀ (c : Capability) d d', D d d' → Attempt.Paired answer answer' R (Edit.Paired D)
      (c.prepare j config ns d.pod) (c.prepare j config ns d.pod))
    (cs : List Capability) {d d' : Draft} (related : D d d') :
    Interaction.Paired answer answer' R (SameEnd D) (inject j config ns cs d)
      (inject j config ns cs d') := by
  induction cs generalizing d d' with
  | nil => exact .done (.inl ⟨[], rfl, rfl, related⟩)
  | cons c cs ih =>
    unfold inject
    -- Both drafts are of one pod, so that both want the capability or neither does.
    rw [pods d d' related]
    cases c.enabled d.pod with
    | error e => exact .done (.inr ⟨_, rfl, rfl⟩)
    | ok wanted =>
      cases wanted with
      | false => exact ih related
      | true =>
        refine .bind (prepared c d d' related) fun p p' edits => ?_
        cases edits with
        | error e => exact .done (.inr ⟨e, rfl, rfl⟩)
        | @ok edit edit' both =>
          dsimp only
          rcases both d d' related with ⟨_, s, s', ran, ran', still⟩ | ⟨s, s', ran, ran'⟩
          · rw [ran, ran']
            refine .bind (ih still) fun r r' rest => .done ?_
            rcases rest with ⟨names, first, second, last⟩ | ⟨e, first, second⟩
            · exact .inl ⟨c.name :: names, by rw [first]; rfl, by rw [second]; rfl, last⟩
            · exact .inr ⟨e, by rw [first]; rfl, by rw [second]; rfl⟩
          · rw [ran, ran']
            exact .done (.inr ⟨_, rfl, rfl⟩)

/-- What is asked for comes to workloads that belong together, and the changes made for these keep
drafts together. -/
theorem Capability.prepare_paired {W : Workload → Workload → Prop} {pod : Json}
    (ensured : ∀ which, Attempt.Paired answer answer' R (fun a b => b = a)
      (j.provisioner.ensure config ns which) (j.provisioner.ensure config ns which))
    (workload : Attempt.Paired answer answer' R W (Enrichment.workload j ns pod)
      (Enrichment.workload j ns pod))
    (agent : Edit.Paired D (Agent.edit j config) (Agent.edit j config))
    (enrichment : ∀ w w', W w w' → Edit.Paired D (Enrichment.additions j config w).edit
      (Enrichment.additions j config w').edit) (c : Capability) :
    Attempt.Paired answer answer' R (Edit.Paired D) (c.prepare j config ns pod)
      (c.prepare j config ns pod) := by
  cases c with
  | agent => exact .bind (ensured .init) fun _ _ _ => .pure agent
  | enrichment =>
    refine .bind (ensured .init) fun _ _ _ => .bind (ensured .endpoint) fun _ _ _ => ?_
    exact .bind workload fun w w' related => .pure (enrichment w w' related)

end Injection

end PodInstrumentation
