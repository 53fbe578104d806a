import PodInstrumentation.Proofs.Secret.Ensuring
/-!
Secrets that are ensured a second time. What was found or created is found then, also after other
secrets were created in between, and a conflict that was taken for an answer comes up again; so a
second time succeeds and leaves the cluster as it is. -/
namespace PodInstrumentation

namespace Store

theorem alikeOn_forget (ks : List ApiCall.Kind) :
    AlikeOn answer answer (fun s t => t.forget = s.forget) ks := by
  have record : ∀ (s : Store) (c : ApiCall), (answer s c).1 = (answer s.forget c).1 ∧
      (answer s c).2.forget = (answer s.forget c).2.forget := by
    intro s c
    cases c with
    | createSecret m =>
      have same : s.forget.createErrors = s.createErrors := rfl
      simp only [answer, serve, same]
      cases s.createErrors.lookup (slot m.ns m.name) <;> exact ⟨rfl, rfl⟩
    | createEvent e =>
      have same : s.forget.eventError = s.eventError := rfl
      simp only [answer, serve, same]
      cases s.eventError <;> exact ⟨rfl, rfl⟩
    | readNamespace | readConfig | readSecret | readObject | readPod => exact ⟨rfl, rfl⟩
  constructor
  · intro s t c same _
    rw [(record t c).1, (record s c).1, same]
  · intro s t c same _
    rw [(record t c).2, (record s c).2, same]

theorem answer_readSecret (s : Store) (name ns : String) :
    ∃ s₁, answer s (.readSecret name ns) = (find s.secrets (slot ns name), s₁) ∧
      s₁.forget = s.forget := ⟨_, rfl, rfl⟩

theorem forget_run {α : Type} {x : Interaction α} (asks : x.Asks [.object]) (s : Store) :
    (x.run answer s).2.forget = s.forget := by
  induction asks generalizing s with
  | done a => rfl
  | call c within _ ih =>
    have creates : ∀ m, c ≠ .createSecret m := by
      rintro m rfl
      simp at within
    rw [Interaction.run_call]
    exact (ih _ _).trans (forget_answer s creates)

theorem play_of_forget {α : Type} {ks : List ApiCall.Kind} {x : Attempt α} (asks : x.Asks ks)
    {s s' t : Store} {r : Except Fault α} (ran : x.play answer s = (r, s'))
    (same : t.forget = s.forget) :
    ∃ t', x.play answer t = (r, t') ∧ t'.forget = s'.forget := by
  obtain ⟨agree, left⟩ := (Attempt.Paired.of_asks (alikeOn_forget ks) asks).play same
  rw [ran] at agree left
  have result : (x.play answer t).1 = r := agree.eq
  exact ⟨(x.play answer t).2, by rw [← result], left⟩

theorem createErrors_of_forget {s t : Store} (same : t.forget = s.forget) :
    t.createErrors = s.createErrors := (congrArg Store.createErrors same :)

theorem secrets_of_forget {s t : Store} (same : t.forget = s.forget) : t.secrets = s.secrets :=
  (congrArg Store.secrets same :)

def withSecret (key : String) (secret : Secret) (s : Store) : Store :=
  { s with secrets := setEntry key (.ok secret) s.secrets }

theorem forget_withSecret {s t : Store} (same : t.forget = s.forget) (key : String)
    (secret : Secret) : (t.withSecret key secret).forget = (s.withSecret key secret).forget := by
  have through : ∀ s : Store, (s.withSecret key secret).forget = s.forget.withSecret key secret :=
    fun _ => rfl
  rw [through, through, same]

structure Fuller (s t : Store) : Prop where
  createErrors : t.createErrors = s.createErrors
  secrets : ∀ key, find t.secrets key = find s.secrets key ∨
    (∃ f, find s.secrets key = .error f ∧ f.isNotFound = true) ∧
      ∃ secret, find t.secrets key = .ok secret

namespace Fuller

variable {s s' t t' : Store}

theorem refl (s : Store) : Fuller s s := ⟨rfl, fun _ => .inl rfl⟩

theorem congr (h : Fuller s t) (first : s'.forget = s.forget) (second : t'.forget = t.forget) :
    Fuller s' t' where
  createErrors := by
    rw [createErrors_of_forget first, createErrors_of_forget second, h.createErrors]
  secrets key := by
    rw [secrets_of_forget first, secrets_of_forget second]
    exact h.secrets key

theorem of_forget (same : t.forget = s.forget) : Fuller s t := (refl s).congr rfl same

theorem find_ok (h : Fuller s t) {key : String} {secret : Secret}
    (there : find s.secrets key = .ok secret) : find t.secrets key = .ok secret := by
  obtain same | ⟨⟨f, missing, _⟩, _⟩ := h.secrets key
  · exact same.trans there
  · cases there.symm.trans missing

theorem withSecret {key : String} {f : Failure} (missing : find s.secrets key = .error f)
    (notFound : f.isNotFound = true) (secret : Secret) : Fuller s (s.withSecret key secret) where
  createErrors := rfl
  secrets other := by
    by_cases new : other = key
    · subst new
      exact .inr ⟨⟨f, missing, notFound⟩, secret, find_setEntry_self _ _ _⟩
    · exact .inl (find_setEntry_of_ne new _ _)

end Fuller

end Store

open Store (Fuller)

structure ReadsOnly {α : Type} (x : Attempt α) : Prop where
  keeps : ∀ s, (x.play Store.answer s).2.forget = s.forget
  again : ∀ s t, Fuller s t → (x.play Store.answer t).1 = (x.play Store.answer s).1 ∨
    ∃ f, (x.play Store.answer s).1 = .error (.failure f) ∧ f.isNotFound = true

namespace ReadsOnly

theorem done {α : Type} (r : Except Fault α) : ReadsOnly (ExceptT.mk (pure r) : Attempt α) :=
  ⟨fun _ => rfl, fun _ _ _ => .inl rfl⟩

theorem bind {α β : Type} {x : Attempt α} {f : α → Attempt β} (hx : ReadsOnly x)
    (hf : ∀ a, ReadsOnly (f a)) : ReadsOnly (x >>= f) where
  keeps s := by
    have first := hx.keeps s
    rw [Attempt.play_bind]
    rcases ran : x.play Store.answer s with ⟨r, s₁⟩
    rw [ran] at first
    cases r with
    | error e => exact first
    | ok a => exact ((hf a).keeps s₁).trans first
  again s t fuller := by
    have first := hx.again s t fuller
    have left := hx.keeps s
    have right := hx.keeps t
    rw [Attempt.play_bind, Attempt.play_bind]
    rcases ran : x.play Store.answer s with ⟨r, s₁⟩
    rcases ran' : x.play Store.answer t with ⟨r', t₁⟩
    rw [ran] at first left
    rw [ran'] at first right
    obtain same | ⟨f, missing, notFound⟩ := first
    · cases same
      cases r with
      | error e => exact .inl rfl
      | ok a => exact (hf a).again s₁ t₁ (fuller.congr left right)
    · cases missing
      exact .inr ⟨f, rfl, notFound⟩

/-- What did not fail for a missing secret happens again. -/
theorem play_again {α : Type} {x : Attempt α} (reads : ReadsOnly x) {s s' t : Store}
    {r : Except Fault α} (ran : x.play Store.answer s = (r, s')) (fuller : Fuller s t)
    (settled : ∀ f, r = .error (.failure f) → f.isNotFound = false) :
    ∃ t', x.play Store.answer t = (r, t') ∧ t'.forget = t.forget := by
  refine ⟨_, Prod.ext ?_ rfl, reads.keeps t⟩
  obtain same | ⟨f, missing, notFound⟩ := reads.again s t fuller
  · rw [same, ran]
  · rw [ran] at missing
    cases notFound.symm.trans (settled f missing)

end ReadsOnly

theorem Failure.isNotFound_of_isConflict {f : Failure} (conflict : f.isConflict = true) :
    f.isNotFound = false := by
  cases f with
  | status code reason =>
    have is : code = 409 := by simpa [isConflict, isStatus] using conflict
    subst is
    rfl
  | transport | runtime | timeout | hang => rfl

namespace Provisioner

variable {p : Provisioner} {config : MonitoringConfig} {ns : String} {which : SupportSecret}
  {s s' t : Store}

theorem readsOnly_readSecret (name ns : String) : ReadsOnly (readSecret name ns) := by
  have ran : ∀ s : Store, ∃ s₁, (readSecret name ns).play Store.answer s =
      ((Store.find s.secrets (Store.slot ns name)).mapError .failure, s₁) ∧
      s₁.forget = s.forget := by
    intro s
    obtain ⟨s₁, asked, kept⟩ := Store.answer_readSecret s name ns
    refine ⟨s₁, ?_, kept⟩
    unfold readSecret
    rw [Attempt.play_bind_ok (Attempt.play_ask _ _), asked]
    cases Store.find s.secrets (Store.slot ns name) <;> rfl
  constructor
  · intro s
    obtain ⟨s₁, read, kept⟩ := ran s
    rw [read]
    exact kept
  · intro s t fuller
    obtain ⟨s₁, read, _⟩ := ran s
    obtain ⟨t₁, read', _⟩ := ran t
    rw [read, read']
    obtain same | ⟨⟨f, missing, notFound⟩, _⟩ := fuller.secrets (Store.slot ns name)
    · exact .inl (by rw [same])
    · exact .inr ⟨f, by rw [missing]; rfl, notFound⟩

theorem readsOnly_data (p : Provisioner) (config : MonitoringConfig) (which : SupportSecret) :
    ReadsOnly (p.data config which) := by
  cases which with
  | init =>
    refine .bind (readsOnly_readSecret _ _) fun tokens => ?_
    refine .bind ?_ fun proxy => .bind (.done _) fun token => .done _
    unfold proxyText
    split
    · exact .done _
    · dsimp only
      split
      · exact .done _
      · exact .bind (readsOnly_readSecret _ _) fun secret => .done _
  | endpoint =>
    exact .bind (readsOnly_readSecret _ _) fun tokens => .bind (.done _) fun token => .done _

/-- Fuller stores refuse the creation in the same way, unless something was missing for it. -/
def Refused (p : Provisioner) (config : MonitoringConfig) (ns : String) (which : SupportSecret)
    (s : Store) (e : Fault) : Prop :=
  ∀ t, Fuller s t → (∀ f, e = .failure f → f.isNotFound = false) → ∃ t₁,
    (p.create config ns which).play Store.answer t = (.error e, t₁) ∧ t₁.forget = t.forget

theorem create_cases (p : Provisioner) (config : MonitoringConfig) (ns : String)
    (which : SupportSecret) (s : Store) :
    (∃ s₁ secret, (p.create config ns which).play Store.answer s = (.ok (), s₁) ∧
      s₁.forget = (s.withSecret (Store.slot ns which.name) secret).forget) ∨
    ∃ e s₁, (p.create config ns which).play Store.answer s = (.error e, s₁) ∧
      s₁.forget = s.forget ∧ p.Refused config ns which s e := by
  have reads := p.readsOnly_data config which
  have kept := reads.keeps s
  rcases made : (p.data config which).play Store.answer s with ⟨r, s₁⟩
  replace kept : s₁.forget = s.forget := by rw [made] at kept; exact kept
  cases r with
  | error e =>
    refine .inr ⟨e, s₁, by rw [create, Attempt.play_bind, made], kept, fun t fuller settled => ?_⟩
    obtain ⟨t₁, made', kept'⟩ := reads.play_again made fuller fun f failed =>
      settled f (Except.error.inj failed)
    exact ⟨t₁, by rw [create, Attempt.play_bind, made'], kept'⟩
  | ok data =>
    have errors := Store.createErrors_of_forget kept
    cases refused : s.createErrors.lookup (Store.slot ns which.name) with
    | none =>
      obtain ⟨s₂, secret, taken, after⟩ := create_taken made (errors ▸ refused)
      exact .inl ⟨s₂, secret, taken, after.trans (Store.forget_withSecret kept _ secret)⟩
    | some g =>
      obtain ⟨s₂, failed, after⟩ := create_refused made (errors ▸ refused)
      refine .inr ⟨_, s₂, failed, after.trans kept, fun t fuller _ => ?_⟩
      obtain ⟨t₁, made', kept'⟩ := reads.play_again made fuller nofun
      have errors' := (Store.createErrors_of_forget kept').trans fuller.createErrors
      obtain ⟨t₂, failed', after'⟩ := create_refused made' (errors' ▸ refused)
      exact ⟨t₂, failed', after'.trans kept'⟩

inductive Ensured (p : Provisioner) (config : MonitoringConfig) (ns : String)
    (which : SupportSecret) (s s' : Store) : Prop
  | found {secret : Secret} (there : Store.find s.secrets (Store.slot ns which.name) = .ok secret)
      (same : s'.forget = s.forget)
  | created {f : Failure} {secret : Secret}
      (missing : Store.find s.secrets (Store.slot ns which.name) = .error f)
      (notFound : f.isNotFound = true)
      (now : s'.forget = (s.withSecret (Store.slot ns which.name) secret).forget)
  /-- Somebody else is said to have created it. -/
  | conflict {f g : Failure}
      (missing : Store.find s.secrets (Store.slot ns which.name) = .error f)
      (notFound : f.isNotFound = true) (refused : p.Refused config ns which s (.failure g))
      (conflict : g.isConflict = true) (same : s'.forget = s.forget)

theorem Ensured.fuller (h : p.Ensured config ns which s s') : Fuller s s' := by
  cases h with
  | found _ same => exact .of_forget same
  | created missing notFound now => exact (Fuller.withSecret missing notFound _).congr rfl now
  | conflict _ _ _ _ same => exact .of_forget same

theorem ensure_eq_ok (h : (p.ensure config ns which).play Store.answer s = (.ok (), s')) :
    p.Ensured config ns which s s' := by
  unfold ensure at h
  rw [Attempt.play_bind_ok (Attempt.play_ask _ _)] at h
  obtain ⟨s₁, asked, kept⟩ := Store.answer_readSecret s which.name ns
  rw [asked] at h
  cases found : Store.find s.secrets (Store.slot ns which.name) with
  | ok secret =>
    rw [found] at h
    cases h
    exact .found found kept
  | error f =>
    rw [found] at h
    dsimp only at h
    cases notFound : f.isNotFound with
    | false =>
      rw [notFound] at h
      cases clusterError : f.isClusterError <;> rw [clusterError] at h <;> cases h
    | true =>
      rw [notFound, if_pos rfl] at h
      -- A refused creation is still a success on a conflict, and then the store is as it was.
      obtain ⟨s₂, secret, taken, now⟩ | ⟨e, s₂, failed, kept', refused⟩ :=
        p.create_cases config ns which s₁
      · rw [Attempt.play_tryCatch_ok taken] at h
        cases h
        exact .created found notFound (now.trans (Store.forget_withSecret kept _ secret))
      · rw [Attempt.play_tryCatch_error failed] at h
        cases e with
        | failure g =>
          cases conflict : g.isConflict with
          | true =>
            simp only [onFault, conflict, if_true] at h
            cases h
            exact .conflict found notFound (fun t fuller => refused t (fuller.congr kept rfl))
              conflict (kept'.trans kept)
          | false =>
            simp only [onFault, conflict] at h
            cases clusterError : g.isClusterError <;> rw [clusterError] at h <;> cases h
        | _ => cases h

theorem ensure_again_ok (h : p.Ensured config ns which s s') (fuller : Fuller s' t) :
    ∃ t', (p.ensure config ns which).play Store.answer t = (.ok (), t') ∧ t'.forget = t.forget := by
  unfold ensure
  rw [Attempt.play_bind_ok (Attempt.play_ask _ _)]
  obtain ⟨t₁, asked, kept⟩ := Store.answer_readSecret t which.name ns
  rw [asked]
  have there : ∀ secret, Store.find s'.secrets (Store.slot ns which.name) = .ok secret →
      Store.find t.secrets (Store.slot ns which.name) = .ok secret := fun _ => fuller.find_ok
  cases h with
  | @found secret found same =>
    rw [there secret (Store.secrets_of_forget same ▸ found)]
    exact ⟨t₁, rfl, kept⟩
  | @created _ secret missing notFound now =>
    rw [there secret (by rw [Store.secrets_of_forget now]; exact Store.find_setEntry_self _ _ _)]
    exact ⟨t₁, rfl, kept⟩
  | @conflict f g missing notFound refused conflict same =>
    obtain still | ⟨_, secret, present⟩ := fuller.secrets (Store.slot ns which.name)
    · obtain ⟨t₂, failed, kept'⟩ := refused t₁ (fuller.congr same.symm kept) fun f is => by
        cases is
        exact Failure.isNotFound_of_isConflict conflict
      rw [still, Store.secrets_of_forget same, missing]
      simp only [notFound, if_true]
      rw [Attempt.play_tryCatch_error failed]
      simp only [onFault, conflict, if_true]
      exact ⟨t₂, rfl, kept'.trans kept⟩
    · rw [present]
      exact ⟨t₁, rfl, kept⟩

end Provisioner

end PodInstrumentation
