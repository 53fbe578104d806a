import PodInstrumentation.Proofs.Admission.Asking
import PodInstrumentation.Proofs.Cluster.Transcript
/-!
The calls that ensure a support secret. It is looked for first; only if it is missing are the
tokens and the proxy read, in the namespace of the operator, and only then is it created. -/
namespace PodInstrumentation

/-- If a secret is created here, it is a support secret of the namespace that was looked for before
and not found. -/
def Backed (ns : String) (before : List Exchange) (e : Exchange) : Prop :=
  ∀ m, e.call = .createSecret m → m.ns = ns ∧ (∃ which : SupportSecret, m.name = which.name) ∧
    ∃ f, f.isNotFound = true ∧ ⟨.readSecret m.name m.ns, .error f⟩ ∈ before

namespace Backed

variable {ns : String} {t t' : List Exchange} {e : Exchange}

theorem of_other (other : ∀ m, e.call ≠ .createSecret m) (before : List Exchange) :
    Backed ns before e := fun m creates => absurd creates (other m)

theorem of_kind (other : e.call.kind ≠ .secret) (before : List Exchange) : Backed ns before e :=
  of_other (fun m creates => other (by rw [creates]; rfl)) before

theorem append (h : Justified (Backed ns) t) (h' : Justified (Backed ns) t') :
    Justified (Backed ns) (t ++ t') := by
  refine Justified.append h (h'.mono fun before e _ backed m creates => ?_)
  obtain ⟨same, known, f, notFound, looked⟩ := backed m creates
  exact ⟨same, known, f, notFound, List.mem_append_right t looked⟩

end Backed

namespace Provisioner

variable {p : Provisioner} {config : MonitoringConfig} {ns : String} {which : SupportSecret}
  {t : List Exchange}

section Play

variable {σ : Type} {answer : σ → (c : ApiCall) → Except Failure c.Answer × σ} {s s' : σ}
  {secret : Secret}

theorem play_readSecret_iff {name ns : String} :
    (readSecret name ns).play answer s = (.ok secret, s') ↔
      answer s (.readSecret name ns) = (.ok secret, s') := by
  unfold readSecret
  rw [Attempt.play_bind_ok (Attempt.play_ask _ _)]
  rcases answer s (.readSecret name ns) with ⟨r, s₁⟩
  cases r with
  | error f => exact ⟨nofun, nofun⟩
  | ok secret' =>
    constructor
    · rintro ⟨⟩
      rfl
    · rintro ⟨⟩
      rfl

theorem play_textOf_iff {key text : String} :
    (textOf secret key).play answer s = (.ok text, s') ↔ secret.text key = .ok text ∧ s = s' :=
  Prod.mk.injEq .. ▸ Iff.rfl

end Play

def ReadsSource (p : Provisioner) (c : ApiCall) : Prop := ∃ name, c = .readSecret name p.ns

theorem only_readSecret (p : Provisioner) (name : String) :
    (readSecret name p.ns).Only p.ReadsSource := by
  refine .bind (.ask ⟨name, rfl⟩) fun r => .quiet ?_
  cases r with
  | ok secret => exact .pure _
  | error f => exact .throw _

theorem only_proxyText (p : Provisioner) (config : MonitoringConfig) :
    (p.proxyText config).Only p.ReadsSource := by
  unfold proxyText
  split
  · exact .quiet (.pure _)
  · dsimp only
    split
    · exact .quiet (.pure _)
    · exact .bind (only_readSecret p _) fun secret => .quiet (.done _)

theorem only_data (p : Provisioner) (config : MonitoringConfig) (which : SupportSecret) :
    (p.data config which).Only p.ReadsSource := by
  cases which with
  | init =>
    refine .bind (only_readSecret p _) fun tokens => .bind (only_proxyText p config) fun url => ?_
    exact .quiet (.bind (.done _) fun token => .pure _)
  | endpoint =>
    refine .bind (only_readSecret p _) fun tokens => .quiet ?_
    exact .bind (.done _) fun token => .pure _

def manifest (which : SupportSecret) (ns : String) (data : List (String × String)) :
    SecretManifest := ⟨which.name, ns, data.map fun d => (d.1, Secret.encode d.2)⟩

theorem create_calls {r : Except Fault Unit} (h : (p.create config ns which).Transcript t r) :
    (∃ e, (p.data config which).Transcript t (.error e) ∧ r = .error e) ∨
      ∃ reads texts a, t = reads ++ [⟨.createSecret (manifest which ns texts), a⟩] ∧
        (p.data config which).Transcript reads (.ok texts) ∧ r = a.mapError .failure := by
  rcases h.bind with ⟨e, failed, rfl⟩ | ⟨texts, reads, t', rfl, read, rest⟩
  · exact .inl ⟨e, failed, rfl⟩
  · obtain ⟨a, t'', rfl, last⟩ := rest.ask_bind
    have ended : t'' = [] ∧ r = a.mapError .failure := by
      cases a with
      | ok _ => exact last.pure
      | error f => exact last.throw
    obtain ⟨rfl, result⟩ := ended
    exact .inr ⟨reads, texts, a, rfl, read, result⟩

/-- The secret is looked for, and if it is missing an attempt is made to create it. -/
theorem ensure_calls {r : Except Fault Unit} (h : (p.ensure config ns which).Transcript t r) :
    ∃ a t', t = ⟨.readSecret which.name ns, a⟩ :: t' ∧
      (t' = [] ∨ ∃ f r', a = .error f ∧ f.isNotFound = true ∧
        (p.create config ns which).Transcript t' r') := by
  obtain ⟨a, t', rfl, rest⟩ := h.ask_bind
  refine ⟨a, t', rfl, ?_⟩
  cases a with
  | ok secret => exact .inl rest.pure.1
  | error f =>
    dsimp only at rest
    split at rest
    · rename_i notFound
      rcases rest.tryCatch with ⟨u, created, -⟩ | ⟨e, t₁, t₂, rfl, created, caught⟩
      · exact .inr ⟨f, _, rfl, notFound, created⟩
      · rw [caught.eq_nil (asks_onFault which ns e), List.append_nil]
        exact .inr ⟨f, _, rfl, notFound, created⟩
    · split at rest
      · exact .inl rest.fail.1
      · exact .inl rest.throw.1

theorem data_backed {data : Except Fault (List (String × String))}
    (read : (p.data config which).Transcript t data) : Justified (Backed ns) t :=
  .of_forall fun e among => .of_other fun m creates => by
    obtain ⟨name, reads⟩ := only_data p config which _ _ read e among
    cases reads.symm.trans creates

theorem ensure_backed {r : Except Fault Unit} (h : (p.ensure config ns which).Transcript t r) :
    Justified (Backed ns) t := by
  obtain ⟨a, t', rfl, ended⟩ := ensure_calls h
  have looked : Justified (Backed ns) [⟨.readSecret which.name ns, a⟩] :=
    .singleton (.of_other (fun m creates => by cases creates) [])
  rcases ended with rfl | ⟨f, r', rfl, notFound, created⟩
  · exact looked
  · rcases create_calls created with ⟨e, read, -⟩ | ⟨reads, texts, a, rfl, read, -⟩
    · exact Backed.append looked (data_backed read)
    · refine Justified.append (Backed.append looked (data_backed read)) ?_
      refine .singleton fun m creates => ?_
      cases creates
      exact ⟨rfl, ⟨which, rfl⟩, f, notFound, by simp [manifest]⟩

end Provisioner

end PodInstrumentation
