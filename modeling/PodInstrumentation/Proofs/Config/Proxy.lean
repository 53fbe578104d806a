import PodInstrumentation.Cluster.Store
import PodInstrumentation.Config.Webhook
import PodInstrumentation.Proofs.Json.Object
import PodInstrumentation.Proofs.Secret.Calling
/-!
Proxies that were validated. The webhook that lets a configuration pass and the operator that uses
it choose between the URL and the secret of a proxy alike, so that what is handed to installers is
what was looked at before. -/
namespace PodInstrumentation

open Config (Checked Spec Ruling)

structure Identified (resource : Json) (ns : String) : Prop where
  name : ∃ name, (resource.get "metadata").get "name" = .str name
  ns : (resource.get "metadata").get "namespace" = .str ns
  annotations : (resource.get "metadata").get "annotations" = .null ∨
    ∃ fs, (resource.get "metadata").get "annotations" = .obj fs ∧ ∀ f ∈ fs, ∃ text, f.2 = .str text

namespace Config

theorem optional_text {fs : Fields} {key text : String} (absent : String)
    (found : fs.lookup key = some (.str text)) :
    optional fs key key absent Config.text = .valid text := by
  simp only [optional, find, found]
  rfl

theorem lookup_of_get {j : Json} {key text : String} (h : j.get key = .str text) :
    ∃ fs, j = .obj fs ∧ fs.lookup key = some (.str text) := by
  cases j with
  | obj fs =>
    refine ⟨fs, rfl, ?_⟩
    cases found : fs.lookup key with
    | none => simp [Json.get, Json.get?, found] at h
    | some v =>
      simp only [Json.get, Json.get?, found, Option.getD_some] at h
      rw [h]
  | null | bool | int | float | str | arr => cases h

theorem check_object {j : Json} {spec : Spec} (valid : Spec.check j = .valid spec) :
    ∃ fs, j = .obj fs := by
  cases j with
  | obj fs => exact ⟨fs, rfl⟩
  | null | bool | int | float | str | arr => cases valid

theorem each_texts {fs : Fields} (texts : ∀ f ∈ fs, ∃ text, f.2 = .str text) :
    ∃ pairs, Checked.each (fun f => (f.1, ·) <$> text f.2) (fs.map fun f => (.key f.1, f)) =
      .valid pairs := by
  induction fs with
  | nil => exact ⟨[], rfl⟩
  | cons f fs ih =>
    obtain ⟨⟨text, is⟩, rest⟩ := List.forall_mem_cons.mp texts
    obtain ⟨pairs, valid⟩ := ih rest
    refine ⟨(f.1, text) :: pairs, ?_⟩
    rw [List.map_cons, Checked.each, valid, is]
    rfl

end Config

theorem MonitoringConfig.annotationTexts_valid {j : Json}
    (texts : j = .null ∨ ∃ fs, j = .obj fs ∧ ∀ f ∈ fs, ∃ text, f.2 = .str text) :
    ∃ pairs, annotationTexts (j.orElse .empty) = .valid pairs := by
  rcases texts with rfl | ⟨fs, rfl, texts⟩
  · exact ⟨[], rfl⟩
  · obtain ⟨pairs, valid⟩ := Config.each_texts texts
    refine ⟨pairs, ?_⟩
    rw [Json.obj_orElse]
    exact valid

theorem MonitoringConfig.ofResource_valid {resource : Json} {ns : String} {spec : Spec}
    (identified : Identified resource ns)
    (valid : Spec.check (resource.get "spec") = .valid spec) :
    ∃ config, ofResource resource = .ok config ∧ config.spec = spec := by
  obtain ⟨⟨name, named⟩, placed, annotated⟩ := identified
  obtain ⟨fs, metadata, nameText⟩ := Config.lookup_of_get named
  rw [metadata] at placed annotated
  obtain ⟨_, ⟨⟩, placeText⟩ := Config.lookup_of_get placed
  obtain ⟨pairs, texts⟩ := annotationTexts_valid annotated
  obtain ⟨inner, object⟩ := Config.check_object valid
  cases resource with
  | obj fields =>
    refine ⟨⟨name, ns, pairs, spec⟩, ?_, rfl⟩
    have outer : ((fields.lookup "metadata").getD .null).orElse .empty = .obj fs := by
      rw [show (fields.lookup "metadata").getD .null = .obj fs from metadata, Json.obj_orElse]
    have given : Spec.check (((fields.lookup "spec").getD .null).orElse .empty) = .valid spec := by
      rw [show (fields.lookup "spec").getD .null = .obj inner from object, Json.obj_orElse]
      rwa [object] at valid
    have texts : annotationTexts (((fs.lookup "annotations").getD .null).orElse .empty) =
        .valid pairs := texts
    simp only [ofResource, outer, given, texts, Config.optional_text "" nameText,
      Config.optional_text "" placeText]
    rfl
  | null | bool | int | float | str | arr => cases metadata

namespace Config

theorem urlRuling_eq_allowed_iff {url invalidUrl forbiddenPassword : String} :
    urlRuling url invalidUrl forbiddenPassword = .allowed ↔ Net.proxyFault? url = none := by
  unfold urlRuling
  cases Net.proxyFault? url with
  | none => simp
  | some fault => cases fault <;> simp

def Usable (url : String) : Prop := url = "" ∨ Net.proxyFault? url = none

/-- What a proxy is that was allowed: none, a URL, or a secret that is there with a URL in it. -/
inductive AllowedProxy (spec : Spec) (ns : String) (s : Store) : Prop
  | none (given : spec.proxy = none)
  | direct {proxy : ProxySpec} (given : spec.proxy = some proxy)
      (open' : proxy.valueFrom.getD "" = "") (usable : Usable (proxy.value.getD ""))
  | secret {proxy : ProxySpec} {secret : Secret} {url : String} (given : spec.proxy = some proxy)
      (secretly : proxy.valueFrom.getD "" ≠ "")
      (found : Store.find s.secrets (Store.slot ns (proxy.valueFrom.getD "")) = .ok secret)
      (readable : secret.text Names.proxyKey = .ok url) (usable : Net.proxyFault? url = none)

theorem allowedProxy_of_ruling {spec : Spec} {ns : String} {s s' : Store}
    (allowed : (proxyRuling spec ns).play Store.answer s = (.ok .allowed, s')) :
    AllowedProxy spec ns s := by
  unfold proxyRuling at allowed
  cases given : spec.proxy with
  | none => exact .none given
  | some proxy =>
    rw [given] at allowed
    dsimp only at allowed
    split at allowed
    · rename_i direct
      refine .direct given direct ?_
      have ruled := Except.ok.inj (Prod.mk.inj allowed).1
      split at ruled
      · rename_i none
        exact .inl none
      · exact .inr (urlRuling_eq_allowed_iff.mp ruled)
    · rename_i secretly
      rw [Attempt.play_bind_ok (Attempt.play_ask _ _)] at allowed
      have asked : (Store.answer s (.readSecret (proxy.valueFrom.getD "") ns)).1 =
          Store.find s.secrets (Store.slot ns (proxy.valueFrom.getD "")) := rfl
      rw [asked] at allowed
      -- Only a secret that was read, with its key, gets as far as the check of the address.
      cases found : Store.find s.secrets (Store.slot ns (proxy.valueFrom.getD "")) with
      | error f =>
        rw [found] at allowed
        dsimp only at allowed
        split at allowed
        · cases allowed
        · split at allowed <;> cases allowed
      | ok secret =>
        rw [found] at allowed
        dsimp only at allowed
        split at allowed
        · cases allowed
        · cases readable : secret.text Names.proxyKey with
          | error e =>
            rw [readable] at allowed
            cases allowed
          | ok url =>
            rw [readable] at allowed
            have ruled := Except.ok.inj (Prod.mk.inj allowed).1
            exact .secret given secretly found readable (urlRuling_eq_allowed_iff.mp ruled)

end Config

section Operator

open Config Provisioner

variable {p : Provisioner} {config : MonitoringConfig} {s s' : Store}

theorem play_readSecret {t : Store} {name ns : String} {secret : Secret}
    (found : Store.find t.secrets (Store.slot ns name) = .ok secret) :
    (readSecret name ns).play Store.answer t =
      (.ok secret, { t with calls := t.calls ++ [.readSecret name ns] }) := by
  refine play_readSecret_iff.mpr ?_
  show (Store.find t.secrets (Store.slot ns name), _) = _
  rw [found]

/-- The proxy that was allowed is the one that is looked up again, as long as the secrets stay. -/
theorem proxyText_of_allowed (allowed : AllowedProxy config.spec p.ns s) :
    ∃ url, Usable url ∧ ∀ t : Store, t.secrets = s.secrets → ∃ calls,
      (p.proxyText config).play Store.answer t = (.ok url, { t with calls }) := by
  cases allowed with
  | none given =>
    refine ⟨"", .inl rfl, fun t _ => ⟨t.calls, ?_⟩⟩
    simp [proxyText, given]
  | @direct proxy given open' usable =>
    refine ⟨proxy.value.getD "", usable, fun t _ => ⟨t.calls, ?_⟩⟩
    simp [proxyText, given, open']
  | @secret proxy secret url given secretly found readable usable =>
    refine ⟨url, .inr usable, fun t same =>
      ⟨t.calls ++ [.readSecret (proxy.valueFrom.getD "") p.ns], ?_⟩⟩
    rw [← same] at found
    simp only [proxyText, given]
    rw [if_neg secretly, Attempt.play_bind_ok (play_readSecret found),
      play_textOf_iff.mpr ⟨readable, rfl⟩]

theorem initData_of_allowed (allowed : AllowedProxy config.spec p.ns s) {tokens : Secret}
    {token : String}
    (found : Store.find s.secrets (Store.slot p.ns config.tokensSecret) = .ok tokens)
    (readable : tokens.text Names.apiTokenKey = .ok token) : ∃ url, Usable url ∧
      ∀ t : Store, t.secrets = s.secrets → ∃ calls, (p.initData config).play Store.answer t =
        (.ok [(Names.configKey, (p.injectionConfig config token url).print),
          (Names.proxyKey, url)], { t with calls }) := by
  obtain ⟨url, usable, looked⟩ := proxyText_of_allowed allowed
  refine ⟨url, usable, fun t same => ?_⟩
  rw [← same] at found
  obtain ⟨calls, proxied⟩ :=
    looked { t with calls := t.calls ++ [.readSecret config.tokensSecret p.ns] } same
  refine ⟨calls, ?_⟩
  unfold initData
  rw [Attempt.play_bind_ok (play_readSecret found), Attempt.play_bind_ok proxied,
    Attempt.play_bind_ok (play_textOf_iff.mpr ⟨readable, rfl⟩)]
  rfl

theorem state_tryCatch {α : Type} {x : Attempt α} {f : Fault → Attempt α}
    (quiet : ∀ e, (f e).Asks []) (t : Store) :
    ((tryCatch x f).play Store.answer t).2 = (x.play Store.answer t).2 := by
  have steps : (tryCatch x f).play Store.answer t = _ :=
    Interaction.run_bind Store.answer x.run _ t
  rw [steps]
  rcases ran : x.play Store.answer t with ⟨result, t'⟩
  rw [show Interaction.run Store.answer x.run t = (result, t') from ran]
  cases result with
  | ok a => rfl
  | error e =>
    show (Interaction.run Store.answer (f e).run t').2 = t'
    cases onFault : (f e).run with
    | done r => rfl
    | call c next =>
      have asks : Interaction.Asks [] (f e).run := quiet e
      rw [onFault] at asks
      cases asks with
      | call _ within _ => cases within

theorem created_of_create {ns : String} {which : SupportSecret} {texts : List (String × String)}
    {t : Store} {calls : List ApiCall}
    (made : (p.data config which).play Store.answer t = (.ok texts, { t with calls })) :
    ∀ m ∈ ((p.create config ns which).play Store.answer t).2.created,
      m ∈ t.created ∨ m = manifest which ns texts := by
  unfold create
  rw [Attempt.play_bind_ok made, Attempt.play_bind_ok (Attempt.play_ask _ _)]
  simp only [Store.answer, Store.serve]
  cases t.createErrors.lookup (Store.slot ns which.name) with
  | some f => exact fun m => .inl
  | none =>
    intro m among
    rcases List.mem_append.mp among with old | new
    · exact .inl old
    · exact .inr (List.mem_singleton.mp new)

theorem created_of_ensure {ns : String} {which : SupportSecret} {texts : List (String × String)}
    (made : ∀ t : Store, t.secrets = s.secrets → ∃ calls,
      (p.data config which).play Store.answer t = (.ok texts, { t with calls })) :
    ∀ m ∈ ((p.ensure config ns which).play Store.answer s).2.created,
      m ∈ s.created ∨ m = manifest which ns texts := by
  unfold ensure
  rw [Attempt.play_bind_ok (Attempt.play_ask _ _)]
  cases (Store.answer s (.readSecret which.name ns)).1 with
  | ok secret => exact fun m => .inl
  | error f =>
    dsimp only
    split
    · obtain ⟨calls, made⟩ :=
        made { s with calls := s.calls ++ [.readSecret which.name ns] } rfl
      rw [state_tryCatch fun e => asks_onFault which ns e]
      exact created_of_create made
    · split
      · exact fun m => .inl
      · exact fun m => .inl

end Operator

/-- Whatever the webhook allows can be used by the operator, and the proxy that the operator then
puts into init secrets is none or one that the webhook would allow as a URL. -/
theorem allowed_proxy_usable (p : Provisioner) (resource : Json) (s s' : Store)
    (identified : Identified resource p.ns)
    (allowed : (Config.review (resource.get "spec") p.ns).play Store.answer s =
      (.ok .allowed, s')) :
    ∃ config, MonitoringConfig.ofResource resource = .ok config ∧ ∀ tokens token,
      Store.find s.secrets (Store.slot p.ns config.tokensSecret) = .ok tokens →
      tokens.text Names.apiTokenKey = .ok token →
      ∃ url s'', (p.initData config).play Store.answer s =
          (.ok [(Names.configKey, (p.injectionConfig config token url).print),
            (Names.proxyKey, url)], s'') ∧
        (url = "" ∨ Net.proxyFault? url = none) ∧
        ∀ ns, ∀ m ∈ ((p.ensure config ns .init).play Store.answer s).2.created,
          m ∈ s.created ∨ m.data.lookup Names.proxyKey = some (Secret.encode url) := by
  unfold Config.review at allowed
  cases valid : Spec.check (resource.get "spec") with
  | invalid issues =>
    rw [valid] at allowed
    cases allowed
  | valid spec =>
    rw [valid] at allowed
    obtain ⟨config, accepted, rfl⟩ := MonitoringConfig.ofResource_valid identified valid
    refine ⟨config, accepted, fun tokens token found readable => ?_⟩
    obtain ⟨url, usable, made⟩ :=
      initData_of_allowed (Config.allowedProxy_of_ruling allowed) found readable
    obtain ⟨calls, read⟩ := made s rfl
    refine ⟨url, _, read, usable, fun ns m among => ?_⟩
    have posted : m ∈ s.created ∨ m = Provisioner.manifest .init ns _ :=
      created_of_ensure made m among
    refine posted.imp id fun same => ?_
    rw [same]
    rfl

def secretive : Json := .obj [
  ("metadata", .obj [("name", .str "prod"), ("namespace", .str "monitoring")]),
  ("spec", .obj [
    ("apiUrl", .str "https://agents"),
    ("proxy", .obj [("valueFrom", .str "proxy")])])]

/-- The secrets of that configuration: its tokens, and `http://u:p@h:80` for the proxy. -/
def secretiveStore : Store :=
  { Store.empty with
    secrets := [
      ("monitoring/prod", .ok ⟨[(Names.apiTokenKey, "YXBp")]⟩),
      ("monitoring/proxy", .ok ⟨[(Names.proxyKey, "aHR0cDovL3U6cEBoOjgw")]⟩)] }

theorem identified_secretive : Identified secretive "monitoring" := ⟨⟨"prod", rfl⟩, rfl, .inl rfl⟩

theorem allowed_proxy_usable_secretive : Identified secretive "monitoring" ∧
    ∃ s', (Config.review (secretive.get "spec") "monitoring").play Store.answer secretiveStore =
        (.ok .allowed, s') ∧
      ∃ config url s'', MonitoringConfig.ofResource secretive = .ok config ∧
        ((Provisioner.mk "monitoring" "c1").initData config).play Store.answer secretiveStore =
          (.ok [(Names.configKey, ((Provisioner.mk "monitoring" "c1").injectionConfig config "api"
            url).print), (Names.proxyKey, url)], s'') ∧
        (url = "" ∨ Net.proxyFault? url = none) := by
  rcases ran : (Config.review (secretive.get "spec") "monitoring").play Store.answer
    secretiveStore with ⟨result, s'⟩
  have allowed : ((Config.review (secretive.get "spec") "monitoring").play Store.answer
      secretiveStore).1 = .ok .allowed := by decide +kernel
  rw [ran] at allowed
  subst allowed
  obtain ⟨config, accepted, usable⟩ := allowed_proxy_usable ⟨"monitoring", "c1"⟩ secretive
    secretiveStore s' identified_secretive ran
  have named : (MonitoringConfig.ofResource secretive).toOption.map (·.tokensSecret) =
      some "prod" := by decide +kernel
  rw [accepted] at named
  have tokens : config.tokensSecret = "prod" := Option.some.inj named
  have found : Store.find secretiveStore.secrets (Store.slot "monitoring" config.tokensSecret) =
      .ok ⟨[(Names.apiTokenKey, "YXBp")]⟩ := by
    rw [tokens]
    decide +kernel
  obtain ⟨url, s'', made, fine, -⟩ := usable _ "api" found (by decide +kernel)
  exact ⟨identified_secretive, s', rfl, config, url, s'', accepted, made, fine⟩

end PodInstrumentation
