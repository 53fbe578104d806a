import PodInstrumentation.Proofs.Json.Printing
import PodInstrumentation.Proofs.Secret.Settling
/-!
What can be read from a secret that was created. Its texts come out as they went in, whatever
characters they have; so an init secret tells the proxy and all that the agent needs to know. -/
namespace PodInstrumentation

namespace Secret

theorem text_of_lookup {data : List (String × String)} {key text : String}
    (there : data.lookup key = some (encode text)) : Secret.text ⟨data⟩ key = .ok text := by
  have plain : (encode text).toList.any (127 < ·.toNat) = false := by
    refine List.any_eq_false.mpr fun c hc => ?_
    have low := Text.Base64.encode_ascii _ c (by simpa [encode] using hc)
    simpa using low
  have bytes : Text.Base64.decode (encode text).toList = some (Text.Utf8.encode text.toList) := by
    rw [encode, String.toList_ofList, Text.Base64.decode_encode]
  have chars : Text.Utf8.decodeString (Text.Utf8.encode text.toList) = some text := by
    rw [Text.Utf8.decodeString, Text.Utf8.decode_encode, Option.map_some, String.ofList_toList]
  rw [Secret.text, there]
  simp only [plain, bytes, chars, Bool.false_eq_true, if_false]

theorem lookup_encoded {texts : List (String × String)} {key text : String}
    (there : texts.lookup key = some text) :
    (texts.map fun d => (d.1, encode d.2)).lookup key = some (encode text) := by
  induction texts with
  | nil => cases there
  | cons d texts ih =>
    rw [List.lookup_cons] at there
    rw [List.map_cons, List.lookup_cons]
    split at there
    · rw [Option.some.inj there]
    · exact ih there

end Secret

namespace Provisioner

/-- A text that a secret was made from is read from it again. -/
theorem text_manifest (which : SupportSecret) (ns : String) {texts : List (String × String)}
    {key text : String} (there : texts.lookup key = some text) :
    Secret.text ⟨(manifest which ns texts).data⟩ key = .ok text :=
  Secret.text_of_lookup (Secret.lookup_encoded there)

example : Secret.text ⟨(manifest .init "shop" [("config", "null"), ("proxy", "\u20ac\"\n")]).data⟩
    "proxy" = .ok "\u20ac\"\n" := by decide +kernel

section Posted

variable {σ : Type} {answer : σ → (c : ApiCall) → Except Failure c.Answer × σ} {s s' : σ}
  {p : Provisioner} {config : MonitoringConfig} {ns : String} {which : SupportSecret}
  {m : SecretManifest}

def Posts (p : Provisioner) (config : MonitoringConfig) (ns : String) (which : SupportSecret)
    (answer : σ → (c : ApiCall) → Except Failure c.Answer × σ) (s : σ) (m : SecretManifest) :
    Prop :=
  ∃ a, ⟨.createSecret m, a⟩ ∈ (p.ensure config ns which).run.trace answer s

theorem not_posted_by_data {a : Except Failure Unit} :
    ⟨.createSecret m, a⟩ ∉ (p.data config which).run.trace answer s := by
  intro among
  obtain ⟨name, reads⟩ := only_data p config which _ _
    (Interaction.transcript_trace answer _ s) _ among
  cases reads

theorem trace_create (ns : String) {texts : List (String × String)}
    (read : (p.data config which).play answer s = (.ok texts, s')) :
    ∃ a, (p.create config ns which).run.trace answer s = (p.data config which).run.trace answer s ++
      [⟨.createSecret (manifest which ns texts), a⟩] := by
  refine ⟨(answer s' (.createSecret (manifest which ns texts))).1, ?_⟩
  unfold create
  rw [Attempt.trace_bind_ok read]
  show _ ++ (Attempt.ask (.createSecret (manifest which ns texts)) >>= _).run.trace answer s' = _
  rw [Attempt.trace_ask_bind]
  cases (answer s' (.createSecret (manifest which ns texts))).1 <;> rfl

theorem posted_by_create :
    (∃ a, ⟨.createSecret m, a⟩ ∈ (p.create config ns which).run.trace answer s) ↔ ∃ texts s₁,
      (p.data config which).play answer s = (.ok texts, s₁) ∧ m = manifest which ns texts := by
  rcases read : (p.data config which).play answer s with ⟨r, s₁⟩
  cases r with
  | error e =>
    have ended : (p.create config ns which).run.trace answer s =
      (p.data config which).run.trace answer s := Attempt.trace_bind_error read _
    simp [ended, not_posted_by_data]
  | ok texts =>
    obtain ⟨a, steps⟩ := trace_create ns read
    rw [steps]
    constructor
    · rintro ⟨b, among⟩
      rcases List.mem_append.mp among with early | last
      · exact absurd early not_posted_by_data
      · cases List.mem_singleton.mp last
        exact ⟨texts, s₁, rfl, rfl⟩
    · rintro ⟨texts', s₂, same, rfl⟩
      cases same
      exact ⟨a, by simp⟩

theorem trace_ensure {r : Except Failure Secret}
    (looked : answer s (.readSecret which.name ns) = (r, s')) :
    (p.ensure config ns which).run.trace answer s = ⟨.readSecret which.name ns, r⟩ :: match r with
      | .ok _ => []
      | .error f =>
        if f.isNotFound then (p.create config ns which).run.trace answer s' else [] := by
  show (Attempt.ask (.readSecret which.name ns) >>= _).run.trace answer s = _
  rw [Attempt.trace_ask_bind, looked]
  refine congrArg (_ :: ·) ?_
  cases r with
  | ok secret => rfl
  | error f =>
    dsimp only
    split
    · exact Attempt.trace_tryCatch (asks_onFault which ns) s'
    · split <;> rfl

/-- Exactly the data are posted that were read after the secret was looked for and not found. -/
theorem posts_iff : p.Posts config ns which answer s m ↔ ∃ f s₁ texts s₂,
    answer s (.readSecret which.name ns) = (.error f, s₁) ∧ f.isNotFound = true ∧
      (p.data config which).play answer s₁ = (.ok texts, s₂) ∧ m = manifest which ns texts := by
  rcases looked : answer s (.readSecret which.name ns) with ⟨r, s₁⟩
  rw [Posts, trace_ensure looked]
  cases r with
  | ok secret => simp
  | error f =>
    cases missing : f.isNotFound with
    | false => simp [missing]
    | true =>
      have created : (∃ a, ⟨.createSecret m, a⟩ ∈ (p.create config ns which).run.trace answer s₁) ↔
          _ := posted_by_create
      simp [missing, created]

end Posted

section InitSecret

variable {σ : Type} (p : Provisioner) (config : MonitoringConfig)
  (answer : σ → (c : ApiCall) → Except Failure c.Answer × σ)

inductive Resolves (s : σ) : String → σ → Prop
  | none (given : config.spec.proxy = none) : Resolves s "" s
  | direct {proxy : Config.ProxySpec} (given : config.spec.proxy = some proxy)
      (open' : proxy.valueFrom.getD "" = "") : Resolves s (proxy.value.getD "") s
  | secret {proxy : Config.ProxySpec} {secret : Secret} {url : String} {s' : σ}
      (given : config.spec.proxy = some proxy) (secretly : proxy.valueFrom.getD "" ≠ "")
      (read : answer s (.readSecret (proxy.valueFrom.getD "") p.ns) = (.ok secret, s'))
      (readable : secret.text Names.proxyKey = .ok url) : Resolves s url s'

inductive Sources (ns : String) (s : σ) (token proxy : String) : Prop
  | intro {f : Failure} {tokens : Secret} {s₁ s₂ s₃ : σ}
      (looked : answer s (.readSecret Names.initSecret ns) = (.error f, s₁))
      (missing : f.isNotFound = true)
      (read : answer s₁ (.readSecret config.tokensSecret p.ns) = (.ok tokens, s₂))
      (readable : tokens.text Names.apiTokenKey = .ok token)
      (resolved : Resolves p config answer s₂ proxy s₃)

structure ReadsBack (ns token proxy : String) (m : SecretManifest) : Prop where
  called : m.name = Names.initSecret
  placed : m.ns = ns
  tellsProxy : Secret.text ⟨m.data⟩ Names.proxyKey = .ok proxy
  tellsConfig : ∃ text, Secret.text ⟨m.data⟩ Names.configKey = .ok text ∧
    Json.parse text = .ok (.obj [
      ("apiUrl", .str config.spec.apiUrl),
      ("apiToken", .str token),
      ("networkZone", .str (config.spec.networkZone.getD "")),
      ("skipCertCheck", .bool config.spec.skipCertCheck),
      ("clusterID", .str p.clusterId),
      ("monitoringConfig", .str config.name),
      ("hasProxy", .bool (proxy ≠ ""))])

variable {p config answer} {ns token proxy : String} {s s' : σ}

theorem play_proxyText_iff : (p.proxyText config).play answer s = (.ok proxy, s') ↔
    Resolves p config answer s proxy s' := by
  unfold proxyText
  constructor
  · intro h
    split at h
    · rename_i given
      cases h
      exact .none given
    · rename_i proxySpec given
      dsimp only at h
      split at h
      · rename_i open'
        cases h
        exact .direct given open'
      · rename_i secretly
        obtain ⟨secret, s₁, read, rest⟩ := Attempt.play_bind_eq_ok h
        obtain ⟨readable, rfl⟩ := play_textOf_iff.mp rest
        exact .secret given secretly (play_readSecret_iff.mp read) readable
  · intro h
    cases h with
    | none given => rw [given]; rfl
    | direct given open' => simp [given, open']
    | secret given secretly read readable =>
      rw [given]
      dsimp only
      rw [if_neg secretly, Attempt.play_bind_ok (play_readSecret_iff.mpr read)]
      exact play_textOf_iff.mpr ⟨readable, rfl⟩

def initTexts (p : Provisioner) (config : MonitoringConfig) (token proxy : String) :
    List (String × String) :=
  [(Names.configKey, (p.injectionConfig config token proxy).print), (Names.proxyKey, proxy)]

theorem play_initData_iff {texts : List (String × String)} :
    (p.initData config).play answer s = (.ok texts, s') ↔ ∃ tokens s₁ token proxy,
      answer s (.readSecret config.tokensSecret p.ns) = (.ok tokens, s₁) ∧
        tokens.text Names.apiTokenKey = .ok token ∧ Resolves p config answer s₁ proxy s' ∧
          texts = p.initTexts config token proxy := by
  unfold initData
  constructor
  · intro h
    obtain ⟨tokens, s₁, read, h₁⟩ := Attempt.play_bind_eq_ok h
    obtain ⟨proxy, s₂, resolved, h₂⟩ := Attempt.play_bind_eq_ok h₁
    obtain ⟨token, s₃, decoded, made⟩ := Attempt.play_bind_eq_ok h₂
    obtain ⟨readable, rfl⟩ := play_textOf_iff.mp decoded
    cases made
    exact ⟨tokens, s₁, token, proxy, play_readSecret_iff.mp read, readable,
      play_proxyText_iff.mp resolved, rfl⟩
  · rintro ⟨tokens, s₁, token, proxy, read, readable, resolved, rfl⟩
    rw [Attempt.play_bind_ok (play_readSecret_iff.mpr read),
      Attempt.play_bind_ok (play_proxyText_iff.mpr resolved),
      Attempt.play_bind_ok (play_textOf_iff.mpr ⟨readable, rfl⟩)]
    rfl

theorem carried_injectionConfig :
    (p.injectionConfig config token proxy).Carried (some Number.digitLimit) := by
  refine .obj ?_ ?_
  · show ["apiUrl", "apiToken", "networkZone", "skipCertCheck", "clusterID", "monitoringConfig",
      "hasProxy"].Nodup
    decide
  · simp only [List.forall_mem_cons]
    exact ⟨.str _, .str _, .str _, .bool _, .str _, .str _, .bool _, nofun⟩

theorem readsBack_manifest :
    ReadsBack p config ns token proxy (manifest .init ns (p.initTexts config token proxy)) where
  called := rfl
  placed := rfl
  tellsProxy := text_manifest .init ns rfl
  tellsConfig := by
    refine ⟨_, text_manifest .init ns rfl, ?_⟩
    have given : (proxy != "") = decide (proxy ≠ "") := by by_cases h : proxy = "" <;> simp [h]
    rw [Json.parse_print carried_injectionConfig, injectionConfig, given]

/-- An init secret that is posted is read back as it was made, and it is posted whenever there is
something to make it from. -/
theorem initSecret_reads_back {σ : Type}
    (answer : σ → (c : ApiCall) → Except Failure c.Answer × σ) (s : σ) (p : Provisioner)
    (config : MonitoringConfig) (ns : String) :
    (∀ m, p.Posts config ns .init answer s m → ∃ token proxy,
      Sources p config answer ns s token proxy ∧ ReadsBack p config ns token proxy m) ∧
    ∀ token proxy, Sources p config answer ns s token proxy →
      ∃ m, p.Posts config ns .init answer s m ∧ ReadsBack p config ns token proxy m := by
  constructor
  · intro m posts
    obtain ⟨f, s₁, texts, s₂, looked, missing, made, rfl⟩ := posts_iff.mp posts
    obtain ⟨tokens, s₃, token, proxy, read, readable, resolved, rfl⟩ := play_initData_iff.mp made
    exact ⟨token, proxy, .intro looked missing read readable resolved, readsBack_manifest⟩
  · rintro token proxy ⟨looked, missing, read, readable, resolved⟩
    have made := play_initData_iff.mpr ⟨_, _, token, proxy, read, readable, resolved, rfl⟩
    exact ⟨_, posts_iff.mpr ⟨_, _, _, _, looked, missing, made, rfl⟩, readsBack_manifest⟩

def escaping : Store :=
  { Store.empty with secrets := [
      ("monitoring/prod", .ok ⟨[(Names.apiTokenKey, Secret.encode "a\"\n\u20ac")]⟩),
      ("monitoring/proxy", .ok ⟨[(Names.proxyKey, Secret.encode "http://\u00e4\\")]⟩)] }

theorem initSecret_reads_back_escaping : ∃ m,
    (Provisioner.mk "monitoring" "c1").Posts proxyConfig "shop" .init Store.answer escaping m ∧
      ReadsBack ⟨"monitoring", "c1"⟩ proxyConfig "shop" "a\"\n\u20ac" "http://\u00e4\\" m := by
  refine (initSecret_reads_back Store.answer escaping ⟨"monitoring", "c1"⟩ proxyConfig "shop").2
    _ _ ?_
  exact .intro rfl rfl rfl (Secret.text_of_lookup rfl)
    (.secret rfl (by decide) rfl (Secret.text_of_lookup rfl))

end InitSecret

end Provisioner

end PodInstrumentation
