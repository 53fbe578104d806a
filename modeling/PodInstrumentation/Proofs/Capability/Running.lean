import PodInstrumentation.Capability.Pipeline
import PodInstrumentation.Proofs.Outcome
/-!
Injections and repairs that came to an end, taken apart: what each of their steps read and what it
wrote. -/
namespace PodInstrumentation

theorem sweep_cons_eq_ok {step : Nat → Edit Site Bool} {i n : Nat} {c x x' : Json}
    {cs cs' : List Json} (swept : sweep step i (c :: cs) x = (.ok n, cs', x')) :
    ∃ a c₁ x₁ m ds, (step i).apply ⟨c, x⟩ = (.ok a, ⟨c₁, x₁⟩) ∧
      sweep step (i + 1) cs x₁ = (.ok m, ds, x') ∧ cs' = c₁ :: ds := by
  simp only [sweep] at swept
  rcases ran : (step i).apply ⟨c, x⟩ with ⟨result, s⟩
  rw [ran] at swept
  cases result with
  | error e => cases swept
  | ok changed =>
    rcases rest : sweep step (i + 1) cs s.installer with ⟨count, ds, y⟩
    simp only [rest] at swept
    cases count with
    | error e => cases swept
    | ok m =>
      cases swept
      exact ⟨changed, _, _, m, ds, rfl, rest, rfl⟩

namespace Draft

theorem eachContainer_eq_ok {step : Nat → Edit Site Bool} {d d' : Draft} {n : Nat}
    (ran : (eachContainer step).apply d = (.ok n, d')) :
    ∃ cs cs', (Pod.containers d.pod >>= Json.each) = .ok cs ∧
      sweep step 0 cs d.installer = (.ok n, cs', d'.installer) ∧
      d'.pod = putContainers cs' d.pod := by
  unfold Edit.apply eachContainer at ran
  dsimp only [ExceptT.run_mk, StateT.run] at ran
  cases read : Pod.containers d.pod >>= Json.each with
  | error e =>
    rw [read] at ran
    cases ran
  | ok cs =>
    rcases swept : sweep step 0 cs d.installer with ⟨count, cs', x⟩
    simp only [read, swept] at ran
    cases ran
    exact ⟨cs, cs', rfl, swept, rfl⟩

theorem onPod_eq_ok {f : Json → Shaped Json} {d d' : Draft} {u : Unit}
    (ran : (onPod f).apply d = (.ok u, d')) :
    f d.pod = .ok d'.pod ∧ d'.installer = d.installer := by
  obtain ⟨p, changed, h⟩ := bind_eq_ok_iff.mp (Edit.apply_step_eq_ok ran)
  cases h
  exact ⟨changed, rfl⟩

theorem onInstaller_eq_ok {f : Json → Shaped Json} {d d' : Draft} {u : Unit}
    (ran : (onInstaller f).apply d = (.ok u, d')) :
    d'.pod = d.pod ∧ f d.installer = .ok d'.installer := by
  obtain ⟨x, changed, h⟩ := bind_eq_ok_iff.mp (Edit.apply_step_eq_ok ran)
  cases h
  exact ⟨rfl, changed⟩

end Draft

section Injection

variable {σ : Type} {answer : σ → (c : ApiCall) → Except Failure c.Answer × σ} {s s' : σ}
  {j : Injector} {config : MonitoringConfig} {ns : String}

theorem inject_cons_eq_ok {c : Capability} {cs : List Capability} {d d' : Draft}
    {names : List String}
    (h : (inject j config ns (c :: cs) d).run answer s = ((.ok names, d'), s')) :
    c.enabled d.pod = .ok false ∧ (inject j config ns cs d).run answer s = ((.ok names, d'), s') ∨
      c.enabled d.pod = .ok true ∧ ∃ edit s₁ u d₁ names₁,
        (c.prepare j config ns d.pod).play answer s = (.ok edit, s₁) ∧
        edit.apply d = (.ok u, d₁) ∧
        (inject j config ns cs d₁).run answer s₁ = ((.ok names₁, d'), s') ∧
        names = c.name :: names₁ := by
  unfold inject at h
  cases enabled : c.enabled d.pod with
  | error e =>
    rw [enabled] at h
    cases h
  | ok wanted =>
    rw [enabled] at h
    cases wanted with
    | false => exact .inl ⟨rfl, h⟩
    | true =>
      rcases prepared : (c.prepare j config ns d.pod).play answer s with ⟨result, s₁⟩
      rw [Interaction.run_then prepared] at h
      cases result with
      | error e => cases h
      | ok edit =>
        rcases applied : edit.apply d with ⟨result, d₁⟩
        simp only [applied] at h
        cases result with
        | error e => cases h
        | ok u =>
          rcases rest : (inject j config ns cs d₁).run answer s₁ with ⟨⟨result, d₂⟩, s₂⟩
          rw [Interaction.run_then rest] at h
          cases result with
          | error e => cases h
          | ok names₁ =>
            cases h
            exact .inr ⟨rfl, edit, s₁, u, d₁, names₁, rfl, applied, rest, rfl⟩

/-- A capability that is wanted and prepared makes its change, and then the others do. -/
theorem inject_cons_ok {c : Capability} {cs : List Capability} {d d₁ d' : Draft} {s₁ : σ}
    {edit : Edit Draft Unit} {u : Unit} {names : List String} (wanted : c.enabled d.pod = .ok true)
    (prepared : (c.prepare j config ns d.pod).play answer s = (.ok edit, s₁))
    (edited : edit.apply d = (.ok u, d₁))
    (rest : (inject j config ns cs d₁).run answer s₁ = ((.ok names, d'), s')) :
    (inject j config ns (c :: cs) d).run answer s = ((.ok (c.name :: names), d'), s') := by
  unfold inject
  rw [wanted]
  refine (Interaction.run_then prepared _).trans ?_
  simp only [edited]
  exact Interaction.run_then rest _

end Injection

theorem repair_eq_ok {j : Injector} {config : MonitoringConfig} {cs : List Capability}
    {pod pod' : Json} {n : Nat} (h : repair j config cs pod = (.ok n, pod')) :
    ∃ wanted ys, Capability.wanted pod cs = .ok wanted ∧
      (Pod.containers pod >>= Json.each) = .ok ys ∧
      ((∃ i x ys' x', Pod.findInstaller pod = .ok (some (i, x)) ∧
          sweep (fun i => repairSite j config pod (Pod.findInstaller pod) (i + 1) wanted) 0 ys x =
            (.ok n, ys', x') ∧
          pod' = putInstaller i x' (putContainers ys' pod)) ∨
        ∃ x ys' x', (∀ place, Pod.findInstaller pod ≠ .ok (some place)) ∧
          sweep (fun i => repairSite j config pod (Pod.findInstaller pod) (i + 1) wanted) 0 ys x =
            (.ok n, ys', x') ∧
          pod' = putContainers ys' pod) := by
  unfold repair at h
  split at h
  · rename_i wanted ys wants read
    refine ⟨wanted, ys, wants, read, ?_⟩
    cases found : Pod.findInstaller pod with
    | error e =>
      simp only [found] at h
      rcases ran : sweep _ 0 ys Json.null with ⟨count, ys', x'⟩
      rw [ran] at h
      cases h
      exact .inr ⟨.null, ys', x', nofun, ran, rfl⟩
    | ok result =>
      cases result with
      | none =>
        simp only [found] at h
        rcases ran : sweep _ 0 ys Json.null with ⟨count, ys', x'⟩
        rw [ran] at h
        cases h
        exact .inr ⟨.null, ys', x', nofun, ran, rfl⟩
      | some place =>
        obtain ⟨i, x⟩ := place
        simp only [found] at h
        rcases ran : sweep _ 0 ys x with ⟨count, ys', x'⟩
        rw [ran] at h
        cases h
        exact .inl ⟨i, x, ys', x', rfl, ran, rfl⟩
  · cases h

end PodInstrumentation
