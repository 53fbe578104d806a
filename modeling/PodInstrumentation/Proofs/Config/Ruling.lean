import PodInstrumentation.Proofs.Config.Proxy
/-!
When the webhook comes to a ruling. It does for every specification and for whatever is said about
the secret of the proxy, unless that secret is there and its text cannot be decoded. -/
namespace PodInstrumentation.Config

/-- The secret of the proxy was read, and its text cannot be decoded. -/
def GarbledProxy (ns : String) (t : List Exchange) (e : Fault) : Prop :=
  ∃ name secret, t = [⟨.readSecret name ns, .ok secret⟩] ∧ secret.text Names.proxyKey = .error e

inductive Ends (ns : String) : List Exchange → Except Fault Ruling → Prop
  | unasked {ruling : Ruling} : Ends ns [] (.ok ruling)
  | read {name : String} {secret : Secret} {text : String} {ruling : Ruling}
      (readable : secret.text Names.proxyKey = .ok text) :
      Ends ns [⟨.readSecret name ns, .ok secret⟩] (.ok ruling)
  | garbled {name : String} {secret : Secret} {e : Fault}
      (bad : secret.text Names.proxyKey = .error e) :
      Ends ns [⟨.readSecret name ns, .ok secret⟩] (.error e)
  | refused {name : String} {f : Failure} {message : String} :
      Ends ns [⟨.readSecret name ns, .error f⟩] (.ok (.refused message))
  | lost {name : String} {f : Failure} (other : f.isClusterError = false) :
      Ends ns [⟨.readSecret name ns, .error f⟩] (.error (.failure f))

section Inversion

variable {ns : String} {t : List Exchange} {r : Except Fault Ruling}

theorem text_of_absent {secret : Secret} {key : String}
    (absent : (secret.data.lookup key).isNone = true) : secret.text key = .ok "" := by
  rw [Secret.text, Option.isNone_iff_eq_none.mp absent]

theorem proxyRuling_ends {spec : Spec} (h : (proxyRuling spec ns).Transcript t r) :
    Ends ns t r := by
  unfold proxyRuling at h
  split at h
  · obtain ⟨rfl, rfl⟩ := h.pure
    exact .unasked
  · dsimp only at h
    split at h
    · obtain ⟨rfl, rfl⟩ := h.pure
      exact .unasked
    · obtain ⟨a, t', rfl, rest⟩ := h.ask_bind
      cases a with
      | error f =>
        dsimp only at rest
        split at rest
        · obtain ⟨rfl, rfl⟩ := rest.pure
          exact .refused
        · split at rest
          · obtain ⟨rfl, rfl⟩ := rest.pure
            exact .refused
          · rename_i other
            obtain ⟨rfl, rfl⟩ := rest.throw
            exact .lost (by simpa using other)
      | ok secret =>
        dsimp only at rest
        split at rest
        · rename_i absent
          obtain ⟨rfl, rfl⟩ := rest.pure
          exact .read (text_of_absent absent)
        · split at rest
          · rename_i e bad
            obtain ⟨rfl, rfl⟩ := rest.throw
            exact .garbled bad
          · rename_i url readable
            obtain ⟨rfl, rfl⟩ := rest.pure
            exact .read readable

theorem review_ends {spec : Json} (h : (review spec ns).Transcript t r) : Ends ns t r := by
  unfold review at h
  split at h
  · obtain ⟨rfl, rfl⟩ := h.pure
    exact .unasked
  · exact proxyRuling_ends h

theorem Ends.of_garbled (h : Ends ns t r) {e : Fault} (garbled : GarbledProxy ns t e) :
    r = .error e := by
  obtain ⟨name, secret, is, bad⟩ := garbled
  cases h with
  | unasked | refused | lost => cases is
  | read readable =>
    cases is
    cases readable.symm.trans bad
  | garbled bad' =>
    cases is
    rw [Except.error.inj (bad'.symm.trans bad)]

theorem Ends.ruled_or_garbled (h : Ends ns t r) (regular : ∀ e ∈ t, e.isRegular = true) :
    (∃ ruling, r = .ok ruling) ∨ ∃ e, GarbledProxy ns t e := by
  cases h with
  | unasked | read | refused => exact .inl ⟨_, rfl⟩
  | garbled bad => exact .inr ⟨_, _, _, rfl, bad⟩
  | @lost name f other =>
    have known : f.isClusterError = true :=
      regular ⟨.readSecret name ns, .error f⟩ List.mem_cons_self
    rw [known] at other
    cases other

end Inversion

/-- As long as calls fail by the cluster only, the webhook comes to a ruling exactly if the secret
of the proxy, where it was read, can be decoded. Otherwise the fault of that comes out. -/
theorem ruled_iff_not_garbled {σ : Type}
    (answer : σ → (c : ApiCall) → Except Failure c.Answer × σ) (s : σ) (spec : Json) (ns : String)
    (regular : ∀ e ∈ (review spec ns).run.trace answer s, e.isRegular = true) :
    ((∃ ruling, ((review spec ns).play answer s).1 = .ok ruling) ↔
        ¬ ∃ e, GarbledProxy ns ((review spec ns).run.trace answer s) e) ∧
      ∀ e, GarbledProxy ns ((review spec ns).run.trace answer s) e →
        ((review spec ns).play answer s).1 = .error e ∧ e.isDecoding = true := by
  have ends : Ends ns ((review spec ns).run.trace answer s) ((review spec ns).play answer s).1 :=
    review_ends (Interaction.transcript_trace answer (review spec ns).run s)
  refine ⟨⟨?_, fun fine => (ends.ruled_or_garbled regular).resolve_right fine⟩, ?_⟩
  · rintro ⟨ruling, ruled⟩ ⟨e, garbled⟩
    cases ruled.symm.trans (ends.of_garbled garbled)
  · intro e garbled
    obtain ⟨name, secret, -, bad⟩ := id garbled
    exact ⟨ends.of_garbled garbled, Secret.text_error bad⟩

def failing : Store :=
  { Store.empty with
    secrets := [("monitoring/proxy", .error (.status 500 (some "Internal Server Error")))] }

theorem ruled_failing :
    (∀ e ∈ (review (secretive.get "spec") "monitoring").run.trace Store.answer failing,
      e.isRegular = true) ∧
    (∃ ruling, ((review (secretive.get "spec") "monitoring").play Store.answer failing).1 =
      .ok ruling) ∧
    ¬ ∃ e, GarbledProxy "monitoring"
      ((review (secretive.get "spec") "monitoring").run.trace Store.answer failing) e := by
  have regular : ∀ e ∈ (review (secretive.get "spec") "monitoring").run.trace Store.answer failing,
      e.isRegular = true := by decide +kernel
  have ruled : ((review (secretive.get "spec") "monitoring").play Store.answer failing).1 =
      .ok (.refused (unreadableProxySecret "Internal Server Error")) := by decide +kernel
  have exact := ruled_iff_not_garbled Store.answer failing (secretive.get "spec") "monitoring"
    regular
  exact ⟨regular, ⟨_, ruled⟩, exact.1.mp ⟨_, ruled⟩⟩

/-- The URL of the proxy is base64 of a byte that no text in UTF-8 begins with. -/
def smudged : Store :=
  { Store.empty with secrets := [("monitoring/proxy", .ok ⟨[(Names.proxyKey, "/w==")]⟩)] }

theorem unruled_smudged :
    (∀ e ∈ (review (secretive.get "spec") "monitoring").run.trace Store.answer smudged,
      e.isRegular = true) ∧
    ¬ ∃ ruling, ((review (secretive.get "spec") "monitoring").play Store.answer smudged).1 =
      .ok ruling := by
  have result : ((review (secretive.get "spec") "monitoring").play Store.answer smudged).1 =
      .error .undecodable := by decide +kernel
  refine ⟨by decide +kernel, ?_⟩
  rintro ⟨ruling, ruled⟩
  cases result.symm.trans ruled

end PodInstrumentation.Config
