import PodInstrumentation.Config.MonitoringConfig
/-!
What a document says that was accepted. Each field was found under one of its names and passed its
own check, so that one field can be changed without a look at the others. -/
namespace PodInstrumentation.Config

namespace Checked

variable {α β : Type} {b : β}

theorem map_eq_valid_iff {f : α → β} {x : Checked α} :
    f <$> x = .valid b ↔ ∃ a, x = .valid a ∧ f a = b := by
  cases x with
  | valid a => simp [Functor.map, Checked.map]
  | invalid issues => simp [Functor.map, Checked.map]

theorem seq_eq_valid_iff {f : Checked (α → β)} {x : Checked α} :
    f <*> x = .valid b ↔ ∃ g a, f = .valid g ∧ x = .valid a ∧ g a = b := by
  cases f <;> cases x <;> simp [Seq.seq, Checked.seq]

theorem within_eq_valid_iff {step : Step} {x : Checked β} :
    x.within step = .valid b ↔ x = .valid b := by
  cases x <;> simp [within]

end Checked

section Fields

variable {fs : Fields} {key outer inner : String} {given : Json}

theorem find_put_of_ne (other : outer ≠ key) (other' : inner ≠ key) (v : Json) :
    find (Fields.put key v fs) outer inner = find fs outer inner := by
  rw [find, Fields.lookup_put_of_ne other, Fields.lookup_put_of_ne other', find]

/-- Where a field is found: under its outer name, or under the inner one if there is no other. -/
theorem find_eq_some_iff : find fs outer inner = some (key, given) ↔
    fs.lookup key = some given ∧ (key = outer ∨ key = inner ∧ fs.lookup outer = none) := by
  unfold find
  constructor
  · intro found
    cases first : fs.lookup outer with
    | some w =>
      rw [first] at found
      cases found
      exact ⟨first, .inl rfl⟩
    | none =>
      rw [first] at found
      obtain ⟨w, second, same⟩ := Option.map_eq_some_iff.mp found
      cases same
      exact ⟨second, .inr ⟨rfl, rfl⟩⟩
  · rintro ⟨here, rfl | ⟨rfl, none⟩⟩
    · simp [here]
    · simp [here, none]

theorem find_put_self (found : find fs outer inner = some (key, given)) (v : Json) :
    find (Fields.put key v fs) outer inner = some (key, v) := by
  obtain ⟨here, place⟩ := find_eq_some_iff.mp found
  refine find_eq_some_iff.mpr ⟨Fields.lookup_put_self key v fs, place.imp_right ?_⟩
  rintro ⟨is, none⟩
  have other : outer ≠ key := by
    rintro rfl
    cases none.symm.trans here
  exact ⟨is, (Fields.lookup_put_of_ne other v fs).trans none⟩

theorem optional_put_of_ne {α : Type} (other : outer ≠ key) (other' : inner ≠ key) (v : Json)
    (absent : α) (check : Json → Checked α) :
    optional (Fields.put key v fs) outer inner absent check =
      optional fs outer inner absent check := by
  rw [optional, find_put_of_ne other other', optional]

theorem required_eq_valid_iff {α : Type} {check : Json → Checked α} {a : α} :
    required fs outer inner check = .valid a ↔
      ∃ key given, find fs outer inner = some (key, given) ∧ check given = .valid a := by
  unfold required
  cases find fs outer inner with
  | none => simp [Checked.issue, Checked.within]
  | some found =>
    obtain ⟨key, given⟩ := found
    simp only [Checked.within_eq_valid_iff]
    constructor
    · exact fun valid => ⟨key, given, rfl, valid⟩
    · rintro ⟨_, _, ⟨⟩, valid⟩
      exact valid

end Fields

section Spec

variable {fs : Fields} {key : String} {given : Json} {spec : Spec}

structure Accepted (fs : Fields) (spec : Spec) : Prop where
  apiUrl : required fs "apiUrl" "api_url" normalApiUrl = .valid spec.apiUrl
  tokens : optional fs "tokens" "tokens" none (nullable text) = .valid spec.tokens
  proxy : optional fs "proxy" "proxy" none (nullable proxySpec) = .valid spec.proxy
  networkZone : optional fs "networkZone" "network_zone" none (nullable text) =
    .valid spec.networkZone
  skipCertCheck : optional fs "skipCertCheck" "skip_cert_check" false bool =
    .valid spec.skipCertCheck
  agent : optional fs "agent" "agent" .none agentMode = .valid spec.agent

theorem accepted_of_check (valid : Spec.check (.obj fs) = .valid spec) : Accepted fs spec := by
  simp only [Spec.check, model, Checked.andThen, Checked.seq_eq_valid_iff,
    Checked.map_eq_valid_iff] at valid
  obtain ⟨_, _, ⟨_, _, ⟨_, _, ⟨_, _, ⟨_, _, ⟨_, apiUrl, rfl⟩, tokens, rfl⟩, proxy, rfl⟩, zone,
    rfl⟩, skip, rfl⟩, agent, rfl⟩ := valid
  exact ⟨apiUrl, tokens, proxy, zone, skip, agent⟩

/-- With another URL in the place of the one that was given, nothing else changes. -/
theorem check_put (accepted : Accepted fs spec)
    (found : find fs "apiUrl" "api_url" = some (key, given)) (v : Json) :
    Spec.check (.obj (Fields.put key v fs)) =
      (fun url => { spec with apiUrl := url }) <$> (normalApiUrl v).within (.key key) := by
  have url : required (Fields.put key v fs) "apiUrl" "api_url" normalApiUrl =
      (normalApiUrl v).within (.key key) := by
    rw [required, find_put_self found v]
  -- The URL goes by one of two names, and no other field goes by either of them.
  have other : ∀ name ∈ ["tokens", "proxy", "networkZone", "network_zone", "skipCertCheck",
      "skip_cert_check", "agent"], name ≠ key := by
    rcases (find_eq_some_iff.mp found).2 with rfl | ⟨rfl, -⟩
    · decide
    · decide
  simp only [List.forall_mem_cons] at other
  simp only [Spec.check, model, Checked.andThen, url, other, optional_put_of_ne, ne_eq,
    not_false_eq_true, accepted.tokens, accepted.proxy, accepted.networkZone,
    accepted.skipCertCheck, accepted.agent]
  cases (normalApiUrl v).within (.key key) <;> rfl

end Spec

end PodInstrumentation.Config
