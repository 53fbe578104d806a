import PodInstrumentation.Proofs.Secret.Calling
import PodInstrumentation.Proofs.Secret.Sharing
/-!
What ensuring a support secret comes to, told from what was asked and answered on the way. The last
exchange decides, except where sources that were read cannot be decoded. -/
namespace PodInstrumentation

namespace Demand

def look (d : Demand) : ApiCall := .readSecret d.which.name d.ns

/-- The secret that the proxy is taken from, if the support secret has one and it is not given by
its URL. -/
def proxySecret? (d : Demand) : Option String :=
  match d.which, d.config.spec.proxy with
  | .init, some proxy =>
    let name := proxy.valueFrom.getD ""
    if name = "" then none else some name
  | _, _ => none

def IsSource (d : Demand) (name : String) : Prop :=
  name = d.config.tokensSecret ∨ d.proxySecret? = some name

def sourceRead (d : Demand) (name : String) (secret : Secret) : Exchange :=
  ⟨.readSecret name d.provisioner.ns, .ok secret⟩

def sourceRefused (d : Demand) (name : String) (f : Failure) : Exchange :=
  ⟨.readSecret name d.provisioner.ns, .error f⟩

def decode (d : Demand) (tokens : Secret) : Option Secret → Except Fault String
  | none => tokens.text d.tokenKey
  | some proxy => proxy.text Names.proxyKey >>= fun _ => tokens.text d.tokenKey

inductive SourcesRead (d : Demand) : List Exchange → Secret → Option Secret → Prop
  | tokens {tokens : Secret} (alone : d.proxySecret? = none) :
      SourcesRead d [d.sourceRead d.config.tokensSecret tokens] tokens none
  | both {name : String} {tokens proxy : Secret} (named : d.proxySecret? = some name) :
      SourcesRead d [d.sourceRead d.config.tokensSecret tokens, d.sourceRead name proxy] tokens
        (some proxy)

inductive Gathers (d : Demand) : List Exchange → Except Fault (List (String × String)) → Prop
  | refused {before : List Exchange} {name : String} {f : Failure}
      (read : ∀ e ∈ before, ∃ name secret, e = d.sourceRead name secret)
      (source : d.IsSource name) :
      Gathers d (before ++ [d.sourceRefused name f]) (.error (.failure f))
  | garbled {reads : List Exchange} {tokens : Secret} {proxy? : Option Secret} {e : Fault}
      (read : d.SourcesRead reads tokens proxy?) (bad : d.decode tokens proxy? = .error e) :
      Gathers d reads (.error e)
  | made {reads : List Exchange} {tokens : Secret} {proxy? : Option Secret} {token : String}
      {data : List (String × String)} (read : d.SourcesRead reads tokens proxy?)
      (decoded : d.decode tokens proxy? = .ok token) : Gathers d reads (.ok data)

def giveUp (d : Demand) (f : Failure) : Fault :=
  if f.isClusterError then .injection (Provisioner.failed d.which d.ns f) else .failure f

def settle (d : Demand) (f : Failure) : Except Fault Unit :=
  if f.isConflict then .ok () else .error (d.giveUp f)

/-- What the answer to the last call comes to. -/
def posted (d : Demand) : Except Failure Unit → Except Fault Unit
  | .ok _ => .ok ()
  | .error f => d.settle f

inductive Goes (d : Demand) : List Exchange → Except Fault Unit → Prop
  | found {secret : Secret} : Goes d [⟨d.look, .ok secret⟩] (.ok ())
  | lost {f : Failure} (unknown : f.isNotFound = false) :
      Goes d [⟨d.look, .error f⟩] (.error (d.giveUp f))
  | refused {f g : Failure} {before : List Exchange} {name : String}
      (missing : f.isNotFound = true)
      (read : ∀ e ∈ before, ∃ name secret, e = d.sourceRead name secret)
      (source : d.IsSource name) :
      Goes d (⟨d.look, .error f⟩ :: (before ++ [d.sourceRefused name g])) (d.settle g)
  | garbled {f : Failure} {reads : List Exchange} {tokens : Secret} {proxy? : Option Secret}
      {e : Fault} (missing : f.isNotFound = true) (read : d.SourcesRead reads tokens proxy?)
      (bad : d.decode tokens proxy? = .error e) :
      Goes d (⟨d.look, .error f⟩ :: reads) (.error e)
  | made {f : Failure} {reads : List Exchange} {tokens : Secret} {proxy? : Option Secret}
      {token : String} {data : List (String × String)} {a : Except Failure Unit}
      (missing : f.isNotFound = true) (read : d.SourcesRead reads tokens proxy?)
      (decoded : d.decode tokens proxy? = .ok token) :
      Goes d (⟨d.look, .error f⟩ ::
        (reads ++ [⟨.createSecret (Provisioner.manifest d.which d.ns data), a⟩])) (d.posted a)

section Inversion

variable {d : Demand} {t : List Exchange}

theorem readSecret_transcript {name : String} {r : Except Fault Secret}
    (h : (Provisioner.readSecret name d.provisioner.ns).Transcript t r) :
    (∃ f, t = [d.sourceRefused name f] ∧ r = .error (.failure f)) ∨
      ∃ secret, t = [d.sourceRead name secret] ∧ r = .ok secret := by
  obtain ⟨a, t', rfl, rest⟩ := Attempt.Transcript.ask_bind h
  cases a with
  | ok secret =>
    obtain ⟨rfl, rfl⟩ := rest.pure
    exact .inr ⟨secret, rfl, rfl⟩
  | error f =>
    obtain ⟨rfl, rfl⟩ := rest.throw
    exact .inl ⟨f, rfl, rfl⟩

theorem textOf_transcript {secret : Secret} {key : String} {r : Except Fault String}
    (h : (Provisioner.textOf secret key).Transcript t r) : t = [] ∧ r = secret.text key := h

theorem proxyText_transcript (init : d.which = .init) {r : Except Fault String}
    (h : (d.provisioner.proxyText d.config).Transcript t r) :
    (d.proxySecret? = none ∧ t = [] ∧ ∃ url, r = .ok url) ∨
    ∃ name, d.proxySecret? = some name ∧
      ((∃ f, t = [d.sourceRefused name f] ∧ r = .error (.failure f)) ∨
        ∃ proxy, t = [d.sourceRead name proxy] ∧ r = proxy.text Names.proxyKey) := by
  unfold Provisioner.proxyText at h
  cases given : d.config.spec.proxy with
  | none =>
    rw [given] at h
    exact .inl ⟨by simp [proxySecret?, given], h.1, _, h.2⟩
  | some proxy =>
    rw [given] at h
    dsimp only at h
    split at h
    · rename_i direct
      exact .inl ⟨by simp [proxySecret?, init, given, direct], h.1, _, h.2⟩
    · rename_i named
      refine .inr ⟨proxy.valueFrom.getD "", by simp [proxySecret?, init, given, named], ?_⟩
      rcases h.bind with ⟨e, failed, rfl⟩ | ⟨secret, t₁, t₂, rfl, read, rest⟩
      · rcases readSecret_transcript failed with ⟨f, rfl, ⟨⟩⟩ | ⟨_, _, ⟨⟩⟩
        exact .inl ⟨f, rfl, rfl⟩
      · rcases readSecret_transcript read with ⟨_, _, ⟨⟩⟩ | ⟨_, rfl, ⟨⟩⟩
        obtain ⟨rfl, rfl⟩ := textOf_transcript rest
        exact .inr ⟨secret, rfl, rfl⟩

theorem gathers_of_read {reads : List Exchange} {tokens : Secret} {proxy? : Option Secret}
    (read : d.SourcesRead reads tokens proxy?) {f : String → List (String × String)} :
    d.Gathers reads (f <$> d.decode tokens proxy?) := by
  cases decoded : d.decode tokens proxy? with
  | ok token => exact .made read decoded
  | error e => exact .garbled read decoded

theorem token_transcript {tokens : Secret} {f : String → List (String × String)}
    {r : Except Fault (List (String × String))}
    (h : (Provisioner.textOf tokens d.tokenKey >>= fun token => pure (f token)).Transcript t r) :
    t = [] ∧ r = f <$> tokens.text d.tokenKey := by
  rcases h.bind with ⟨e, failed, rfl⟩ | ⟨token, t₁, t₂, rfl, decoded, rest⟩
  · obtain ⟨rfl, bad⟩ := textOf_transcript failed
    rw [← bad]
    exact ⟨rfl, rfl⟩
  · obtain ⟨rfl, good⟩ := textOf_transcript decoded
    obtain ⟨rfl, rfl⟩ := rest.pure
    rw [← good]
    exact ⟨rfl, rfl⟩

theorem initData_gathers (init : d.which = .init) {r : Except Fault (List (String × String))}
    (h : (d.provisioner.initData d.config).Transcript t r) : d.Gathers t r := by
  have key : Names.apiTokenKey = d.tokenKey := by rw [tokenKey, init]
  rcases h.bind with ⟨e, failed, rfl⟩ | ⟨tokens, t₁, t₂, rfl, read, rest⟩
  · rcases readSecret_transcript failed with ⟨f, rfl, ⟨⟩⟩ | ⟨_, _, ⟨⟩⟩
    exact @Gathers.refused d [] _ f (List.forall_mem_nil _) (.inl rfl)
  rcases readSecret_transcript read with ⟨_, _, ⟨⟩⟩ | ⟨_, rfl, ⟨⟩⟩
  rcases rest.bind with ⟨e, failed, rfl⟩ | ⟨url, t₃, t₄, rfl, given, last⟩
  · rcases proxyText_transcript init failed with
      ⟨_, _, _, ⟨⟩⟩ | ⟨name, named, ⟨f, rfl, ⟨⟩⟩ | ⟨proxy, rfl, bad⟩⟩
    · exact .refused (List.forall_mem_singleton.mpr ⟨_, tokens, rfl⟩) (.inr named)
    · exact .garbled (.both named) (by rw [decode, ← bad]; rfl)
  · rw [key] at last
    obtain ⟨rfl, rfl⟩ := token_transcript last
    rcases proxyText_transcript init given with
      ⟨alone, rfl, _⟩ | ⟨name, named, ⟨_, _, ⟨⟩⟩ | ⟨proxy, rfl, good⟩⟩
    · exact gathers_of_read (.tokens alone)
    · have same : d.decode tokens (some proxy) = tokens.text d.tokenKey := by
        rw [decode, ← good]
        rfl
      rw [← same]
      exact gathers_of_read (.both named)

theorem endpointData_gathers (endpoint : d.which = .endpoint)
    {r : Except Fault (List (String × String))}
    (h : (d.provisioner.endpointData d.config).Transcript t r) : d.Gathers t r := by
  have key : Names.ingestTokenKey = d.tokenKey := by rw [tokenKey, endpoint]
  rcases h.bind with ⟨e, failed, rfl⟩ | ⟨tokens, t₁, t₂, rfl, read, rest⟩
  · rcases readSecret_transcript failed with ⟨f, rfl, ⟨⟩⟩ | ⟨_, _, ⟨⟩⟩
    exact @Gathers.refused d [] _ f (List.forall_mem_nil _) (.inl rfl)
  · rcases readSecret_transcript read with ⟨_, _, ⟨⟩⟩ | ⟨_, rfl, ⟨⟩⟩
    rw [key] at rest
    obtain ⟨rfl, rfl⟩ := token_transcript rest
    have read : d.SourcesRead [d.sourceRead d.config.tokensSecret tokens] tokens none :=
      .tokens (by simp [proxySecret?, endpoint])
    exact gathers_of_read read

theorem data_gathers {r : Except Fault (List (String × String))}
    (h : (d.provisioner.data d.config d.which).Transcript t r) : d.Gathers t r := by
  cases which : d.which with
  | init =>
    rw [which] at h
    exact initData_gathers which h
  | endpoint =>
    rw [which] at h
    exact endpointData_gathers which h

theorem decode_error {tokens : Secret} {proxy? : Option Secret} {e : Fault}
    (h : d.decode tokens proxy? = .error e) : e.isDecoding = true := by
  cases proxy? with
  | none => exact Secret.text_error h
  | some proxy =>
    rw [decode] at h
    cases url : proxy.text Names.proxyKey with
    | error e' =>
      rw [url] at h
      cases h
      exact Secret.text_error url
    | ok text =>
      rw [url] at h
      exact Secret.text_error h

theorem giveUp_transcript {f : Failure} {r : Except Fault Unit}
    (h : Attempt.Transcript (if f.isClusterError then Attempt.fail
      (Provisioner.failed d.which d.ns f) else throw (.failure f)) t r) :
    t = [] ∧ r = .error (d.giveUp f) := by
  unfold giveUp
  cases known : f.isClusterError with
  | true =>
    rw [known] at h
    exact h.fail
  | false =>
    rw [known] at h
    exact h.throw

theorem onFault_failure {f : Failure} {r : Except Fault Unit}
    (h : (Provisioner.onFault d.which d.ns (.failure f)).Transcript t r) :
    t = [] ∧ r = d.settle f := by
  unfold settle
  dsimp only [Provisioner.onFault] at h
  split at h
  · rename_i conflict
    rw [if_pos conflict]
    exact h.pure
  · rename_i other
    rw [if_neg other]
    exact giveUp_transcript h

theorem onFault_decoding {e : Fault} (bad : e.isDecoding = true) {r : Except Fault Unit}
    (h : (Provisioner.onFault d.which d.ns e).Transcript t r) : t = [] ∧ r = .error e := by
  cases e with
  | foreignBase64 | badBase64 | undecodable => exact h.throw
  | injection | failure | misshapen | unreadable => cases bad

/-- The secret is made from its sources. -/
theorem goes_of_missing {f : Failure} (missing : f.isNotFound = true) {r : Except Fault Unit}
    (h : Attempt.Transcript (tryCatch (d.provisioner.create d.config d.ns d.which)
      (Provisioner.onFault d.which d.ns)) t r) : d.Goes (⟨d.look, .error f⟩ :: t) r := by
  rcases h.tryCatch with ⟨u, created, rfl⟩ | ⟨e, t₁, t₂, rfl, failed, caught⟩
  · rcases Provisioner.create_calls created with
      ⟨_, _, ⟨⟩⟩ | ⟨reads, texts, a, rfl, gathered, result⟩
    cases a with
    | error g => cases result
    | ok v =>
      cases data_gathers gathered with
      | made read decoded => exact .made missing read decoded
  · rcases Provisioner.create_calls failed with
      ⟨_, gathered, ⟨⟩⟩ | ⟨reads, texts, a, rfl, gathered, result⟩
    · cases data_gathers gathered with
      | refused read source =>
        obtain ⟨rfl, rfl⟩ := onFault_failure caught
        rw [List.append_nil]
        exact .refused missing read source
      | garbled read bad =>
        obtain ⟨rfl, rfl⟩ := onFault_decoding (decode_error bad) caught
        rw [List.append_nil]
        exact .garbled missing read bad
    · cases a with
      | ok v => cases result
      | error g =>
        cases result
        obtain ⟨rfl, rfl⟩ := onFault_failure caught
        rw [List.append_nil]
        cases data_gathers gathered with
        | made read decoded => exact .made missing read decoded

theorem ensure_goes {r : Except Fault Unit} (h : d.talk.Transcript t r) : d.Goes t r := by
  obtain ⟨a, t', rfl, rest⟩ := Attempt.Transcript.ask_bind h
  cases a with
  | ok secret =>
    obtain ⟨rfl, rfl⟩ := rest.pure
    exact .found
  | error f =>
    dsimp only at rest
    split at rest
    · rename_i missing
      exact goes_of_missing missing rest
    · rename_i unknown
      obtain ⟨rfl, rfl⟩ := giveUp_transcript rest
      exact .lost (by simpa using unknown)

end Inversion

end Demand

end PodInstrumentation
