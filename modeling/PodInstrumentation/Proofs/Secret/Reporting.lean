import PodInstrumentation.Proofs.Config.Proxy
import PodInstrumentation.Proofs.Config.Trimming
import PodInstrumentation.Proofs.Secret.Reading
/-!
Where injected agents report. An endpoint secret tells them of a URL below that of the API, so that
trimming the one may spoil the other. -/
namespace PodInstrumentation

open Config

namespace Provisioner

def metricsUrl (apiUrl : String) : String := apiUrl ++ "/v2/metrics/ingest"

def endpointText (url token : String) : String :=
  s!"METRICS_INGEST_URL={url}\n" ++ s!"METRICS_INGEST_API_TOKEN={token}\n"

theorem endpointText_metricsUrl (apiUrl token : String) :
    s!"METRICS_INGEST_URL={apiUrl}/v2/metrics/ingest\n" ++ s!"METRICS_INGEST_API_TOKEN={token}\n" =
      endpointText (metricsUrl apiUrl) token := by
  have ending : "/v2/metrics/ingest\n" = "/v2/metrics/ingest" ++ "\n" := by decide
  show "METRICS_INGEST_URL=" ++ apiUrl ++ "/v2/metrics/ingest\n" ++ _ =
    "METRICS_INGEST_URL=" ++ (apiUrl ++ "/v2/metrics/ingest") ++ "\n" ++ _
  simp only [ending, String.append_assoc]

theorem isHttpUrl_metricsUrl_iff {given : String} (valid : isHttpUrl given = true) :
    isHttpUrl (metricsUrl (trimmed given)) = true ↔ Addressed given :=
  isHttpUrl_trimmed_append_iff valid (by decide)

section Posted

variable {σ : Type} {answer : σ → (c : ApiCall) → Except Failure c.Answer × σ} {s s' : σ}
  {p : Provisioner} {config : MonitoringConfig} {ns : String} {m : SecretManifest}

theorem play_endpointData_iff {texts : List (String × String)} :
    (p.endpointData config).play answer s = (.ok texts, s') ↔ ∃ tokens token,
      answer s (.readSecret config.tokensSecret p.ns) = (.ok tokens, s') ∧
        tokens.text Names.ingestTokenKey = .ok token ∧
          texts = [(Names.endpointKey, endpointText (metricsUrl config.spec.apiUrl) token)] := by
  unfold endpointData
  constructor
  · intro h
    obtain ⟨tokens, s₁, read, h₁⟩ := Attempt.play_bind_eq_ok h
    obtain ⟨token, s₂, decoded, made⟩ := Attempt.play_bind_eq_ok h₁
    obtain ⟨readable, rfl⟩ := play_textOf_iff.mp decoded
    cases made
    refine ⟨tokens, token, play_readSecret_iff.mp read, readable, ?_⟩
    rw [endpointText_metricsUrl]
  · rintro ⟨tokens, token, read, readable, rfl⟩
    rw [Attempt.play_bind_ok (play_readSecret_iff.mpr read),
      Attempt.play_bind_ok (play_textOf_iff.mpr ⟨readable, rfl⟩), ← endpointText_metricsUrl]
    rfl

theorem posts_endpoint_iff : p.Posts config ns .endpoint answer s m ↔ ∃ f s₁ tokens token s₂,
    answer s (.readSecret Names.endpointSecret ns) = (.error f, s₁) ∧ f.isNotFound = true ∧
      answer s₁ (.readSecret config.tokensSecret p.ns) = (.ok tokens, s₂) ∧
        tokens.text Names.ingestTokenKey = .ok token ∧ m = manifest .endpoint ns
          [(Names.endpointKey, endpointText (metricsUrl config.spec.apiUrl) token)] := by
  rw [posts_iff]
  constructor
  · rintro ⟨f, s₁, texts, s₂, looked, missing, made, rfl⟩
    obtain ⟨tokens, token, read, readable, rfl⟩ := play_endpointData_iff.mp made
    exact ⟨f, s₁, tokens, token, s₂, looked, missing, read, readable, rfl⟩
  · rintro ⟨f, s₁, tokens, token, s₂, looked, missing, read, readable, rfl⟩
    have made := play_endpointData_iff.mpr ⟨tokens, token, read, readable, rfl⟩
    exact ⟨f, s₁, _, s₂, looked, missing, made, rfl⟩

theorem text_of_posted (posts : p.Posts config ns .endpoint answer s m) : ∃ token,
    Secret.text ⟨m.data⟩ Names.endpointKey =
      .ok (endpointText (metricsUrl config.spec.apiUrl) token) := by
  obtain ⟨f, s₁, tokens, token, s₂, looked, missing, read, readable, rfl⟩ :=
    posts_endpoint_iff.mp posts
  exact ⟨token, text_manifest .endpoint ns rfl⟩

end Posted

/-- Of the URL of the API all is kept but the slashes at its end. What is kept is accepted again,
and then as it is, and agents are told a URL over HTTP, exactly if something other than slashes
stood behind the scheme of the URL that was given. -/
theorem kept_url_valid_iff {σ : Type}
    (answer : σ → (c : ApiCall) → Except Failure c.Answer × σ) (s : σ) (p : Provisioner)
    (config : MonitoringConfig) (ns : String) {j : Json}
    (accepted : Spec.check j = .valid config.spec) :
    ∃ fs key given, j = .obj fs ∧ find fs "apiUrl" "api_url" = some (key, .str given) ∧
      (∃ n, given.toList = config.spec.apiUrl.toList ++ List.replicate n '/') ∧
      (¬ ['/'] <:+ config.spec.apiUrl.toList) ∧
      (isHttpUrl config.spec.apiUrl = true ↔ Addressed given) ∧
      (∀ again, Spec.check (.obj (Fields.put key (.str config.spec.apiUrl) fs)) = .valid again ↔
        again = config.spec ∧ Addressed given) ∧
      (isHttpUrl (metricsUrl config.spec.apiUrl) = true ↔ Addressed given) ∧
      ∀ m, p.Posts config ns .endpoint answer s m → ∃ token,
        Secret.text ⟨m.data⟩ Names.endpointKey =
          .ok (endpointText (metricsUrl config.spec.apiUrl) token) := by
  obtain ⟨fs, rfl⟩ := check_object accepted
  have fields : Accepted fs config.spec := accepted_of_check accepted
  obtain ⟨key, value, found, url⟩ := required_eq_valid_iff.mp fields.apiUrl
  obtain ⟨given, rfl, valid, kept⟩ := normalApiUrl_eq_valid_iff.mp url
  refine ⟨fs, key, given, rfl, found, ?_, ?_, ?_,
    fun again => check_again_iff fields found valid kept, ?_, fun m posts => text_of_posted posts⟩
  · exact kept ▸ toList_eq_trimmed_append given
  · exact kept ▸ not_slash_suffix given
  · exact kept ▸ isHttpUrl_trimmed_iff valid
  · exact kept ▸ isHttpUrl_metricsUrl_iff valid

def reporter (apiUrl : String) : MonitoringConfig :=
  ⟨"prod", "monitoring", [], ⟨apiUrl, none, none, none, false, .none⟩⟩

def reporterStore : Store :=
  { Store.empty with
    secrets := [("monitoring/prod", .ok ⟨[(Names.ingestTokenKey, Secret.encode "t")]⟩)] }

theorem posts_reporter (apiUrl : String) :
    (Provisioner.mk "monitoring" "c1").Posts (reporter apiUrl) "shop" .endpoint Store.answer
      reporterStore (manifest .endpoint "shop"
        [(Names.endpointKey, endpointText (metricsUrl apiUrl) "t")]) :=
  posts_endpoint_iff.mpr
    ⟨_, _, _, "t", _, rfl, rfl, rfl, Secret.text_of_lookup rfl, rfl⟩

theorem kept_url_valid_agents :
    Spec.check (.obj [("apiUrl", .str "https://agents//")]) =
      .valid (reporter "https://agents").spec ∧
    Spec.check (.obj [("apiUrl", .str "https://agents")]) =
      .valid (reporter "https://agents").spec ∧
    ∃ m, (Provisioner.mk "monitoring" "c1").Posts (reporter "https://agents") "shop" .endpoint
        Store.answer reporterStore m ∧
      (∃ token, Secret.text ⟨m.data⟩ Names.endpointKey =
        .ok (endpointText (metricsUrl "https://agents") token)) ∧
      isHttpUrl (metricsUrl "https://agents") = true := by
  have accepted : Spec.check (.obj [("apiUrl", .str "https://agents//")]) =
      .valid (reporter "https://agents").spec := by decide +kernel
  obtain ⟨fs, key, given, same, found, -, -, -, again, told, texts⟩ := kept_url_valid_iff
    Store.answer reporterStore ⟨"monitoring", "c1"⟩ (reporter "https://agents") "shop" accepted
  cases same
  have given : some ("apiUrl", Json.str "https://agents//") = some (key, .str given) := found
  cases given
  have addressed : Addressed "https://agents//" :=
    ⟨"https://", by decide, "agents//".toList, by decide, 'a', by decide, by decide⟩
  have posted := posts_reporter "https://agents"
  exact ⟨accepted, (again _).mpr ⟨rfl, addressed⟩, _, posted, texts _ posted, told.mpr addressed⟩

/-- Nothing but a scheme: it is accepted, but not what is kept of it. -/
theorem bare_url_spoilt :
    Spec.check (.obj [("apiUrl", .str "http://")]) = .valid (reporter "http:").spec ∧
    isHttpUrl "http:" = false ∧
    (∀ spec, Spec.check (.obj [("apiUrl", .str "http:")]) ≠ .valid spec) ∧
    ∃ m, (Provisioner.mk "monitoring" "c1").Posts (reporter "http:") "shop" .endpoint
        Store.answer reporterStore m ∧
      Secret.text ⟨m.data⟩ Names.endpointKey =
        .ok "METRICS_INGEST_URL=http:/v2/metrics/ingest\nMETRICS_INGEST_API_TOKEN=t\n" := by
  refine ⟨by decide +kernel, by decide, fun spec accepted => ?_, _, posts_reporter "http:",
    text_manifest .endpoint "shop" rfl⟩
  have refused : Spec.check (.obj [("apiUrl", .str "http:")]) =
      .invalid [⟨.rule badApiUrl, [.key "apiUrl"]⟩] := by decide +kernel
  cases refused.symm.trans accepted

end Provisioner

end PodInstrumentation
