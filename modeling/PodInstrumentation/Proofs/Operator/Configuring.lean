import PodInstrumentation.Operator.Settings
import PodInstrumentation.Proofs.Config.Checking
import PodInstrumentation.Telemetry.Trace
/-!
What an environment makes of the settings. A variable that cannot be read is reported once, under
its own name and in its turn, and nothing else is; what was accepted lies in its bounds. Variables
that are no settings have no say. -/
namespace PodInstrumentation

open Config (Checked Issue)

namespace Config.Checked

variable {α β : Type}

def issues : Checked α → List Issue
  | valid _ => []
  | invalid issues => issues

def isValid : Checked α → Bool
  | valid _ => true
  | invalid _ => false

theorem isValid_iff {x : Checked α} : x.isValid = true ↔ ∃ a, x = .valid a := by
  cases x <;> simp [isValid]

theorem issues_map (f : α → β) (x : Checked α) : (f <$> x).issues = x.issues := by
  cases x <;> rfl

theorem issues_seq (f : Checked (α → β)) (x : Checked α) :
    (f <*> x).issues = f.issues ++ x.issues := by
  cases f with
  | valid f => cases x <;> rfl
  | invalid issues =>
    cases x with
    | valid a => exact (List.append_nil issues).symm
    | invalid more => rfl

def Ensures (x : Checked α) (P : α → Prop) : Prop := ∀ a, x = .valid a → P a

namespace Ensures

variable {f : Checked (α → β)} {x : Checked α} {P : β → Prop}

theorem seq {Q : α → Prop} (hf : f.Ensures fun g => ∀ a, Q a → P (g a)) (hx : x.Ensures Q) :
    (f <*> x).Ensures P := by
  intro b valid
  obtain ⟨g, a, known, value, rfl⟩ := seq_eq_valid_iff.mp valid
  exact hf g known a (hx a value)

theorem skip (hf : f.Ensures fun g => ∀ a, P (g a)) : (f <*> x).Ensures P :=
  seq (fun g known a (_ : True) => hf g known a) fun _ _ => trivial

theorem map {f : α → β} (hx : x.Ensures fun a => P (f a)) : (f <$> x).Ensures P := by
  intro b valid
  obtain ⟨a, value, rfl⟩ := map_eq_valid_iff.mp valid
  exact hx a value

end Ensures

theorem andThen_eq_valid_iff {x : Checked α} {f : α → Checked β} {b : β} :
    x.andThen f = .valid b ↔ ∃ a, x = .valid a ∧ f a = .valid b := by
  cases x <;> simp [andThen]

theorem isValid_map (f : α → β) (x : Checked α) : (f <$> x).isValid = x.isValid := by
  cases x <;> rfl

theorem isValid_seq (f : Checked (α → β)) (x : Checked α) :
    (f <*> x).isValid = (f.isValid && x.isValid) := by
  cases f <;> cases x <;> rfl

end Config.Checked

namespace Settings

inductive Kind where
  | text | flag | whole | count | duration | rate

/-- Whether a text says what a setting of the kind can be. A double that is no number is on no
side of a bound. -/
def Kind.takes : Kind → String → Bool
  | text, _ => true
  | flag, s => (Config.boolWord? s).isSome
  | whole, s => (Number.readInteger s).toOption.isSome
  | count, s => (Number.readInteger s).toOption.any fun n => decide (1 ≤ n)
  | duration, s => (Number.readDouble? s).any fun x => !decide (x.toFloat ≤ 0)
  | rate, s => (Number.readDouble? s).any fun x =>
    !decide (1 < x.toFloat) && !decide (x.toFloat < 0)

def kinds : List (String × Kind) := [
  ("OPERATOR_NAMESPACE", .text), ("POD_NAME", .text), ("WEBHOOK_IMAGE", .text),
  ("LOG_LEVEL", .text), ("JSON_LOGS", .flag), ("CORRELATION_IDS", .flag),
  ("LOG_HEALTH_PROBES", .flag), ("WEBHOOK_LOG_LEVEL", .text), ("INJECTION_WEBHOOK_HOST", .text),
  ("INJECTION_WEBHOOK_PORT", .whole), ("WEBHOOK_CERT_DIR", .text),
  ("KUBERNETES_REQUEST_TIMEOUT_SECONDS", .duration), ("OWNER_CHAIN_MAX_DEPTH", .count),
  ("ENABLE_WEBHOOKS", .flag), ("WEBHOOK_PORT", .whole), ("METRICS_PORT", .whole),
  ("METRICS_HOST", .text), ("TRACING_ENABLED", .flag), ("TRACING_ENDPOINT", .text),
  ("TRACING_SAMPLE_RATE", .rate), ("TRACING_INSECURE", .flag)]

def refused (env : Environment) (v : String × Kind) : Bool :=
  (find env v.1).any fun s => !v.2.takes s

/-- A check that gives a value for each text of the kind, and one issue for every other. -/
def Reads {α : Type} (kind : Kind) (check : String → Checked α) : Prop :=
  ∀ s, (kind.takes s = true ∧ ∃ a, check s = .valid a) ∨
    (kind.takes s = false ∧ ∃ k, check s = .issue k)

theorem reads_text : Reads .text Checked.valid := fun s => .inl ⟨rfl, s, rfl⟩

theorem reads_flag : Reads .flag flag := by
  intro s
  cases word : Config.boolWord? s with
  | none => exact .inr (by simp [Kind.takes, flag, word, Checked.issue])
  | some b => exact .inl (by simp [Kind.takes, flag, word])

theorem reads_whole : Reads .whole whole := by
  intro s
  cases read : Number.readInteger s with
  | error e => cases e <;> simp [Kind.takes, whole, read, Except.toOption, Checked.issue]
  | ok n => exact .inl (by simp [Kind.takes, whole, read, Except.toOption])

theorem reads_count : Reads .count count := by
  intro s
  cases read : Number.readInteger s with
  | error e => cases e <;> simp [Kind.takes, count, whole, read, Except.toOption,
      Checked.andThen, Checked.issue]
  | ok n =>
    by_cases low : n < 1
    · simp [Kind.takes, count, whole, read, Except.toOption, Checked.andThen, Checked.issue, low]
    · simp [Kind.takes, count, whole, read, Except.toOption, Checked.andThen, low,
        Int.not_lt.mp low]

theorem reads_duration : Reads .duration duration := by
  intro s
  cases read : Number.readDouble? s with
  | none => simp [Kind.takes, duration, number, read, Checked.andThen, Checked.issue]
  | some x =>
    by_cases low : x.toFloat ≤ 0 <;>
      simp [Kind.takes, duration, number, read, Checked.andThen, Checked.issue, low]

theorem reads_rate : Reads .rate rate := by
  intro s
  cases read : Number.readDouble? s with
  | none => simp [Kind.takes, rate, number, read, Checked.andThen, Checked.issue]
  | some x =>
    by_cases high : 1 < x.toFloat
    · simp [Kind.takes, rate, number, read, Checked.andThen, Checked.issue, high]
    · by_cases low : x.toFloat < 0 <;>
        simp [Kind.takes, rate, number, read, Checked.andThen, Checked.issue, high, low]

section Environment

variable {env env' : Environment} {α : Type} {kind : Kind} {check : String → Checked α}

theorem setting_cases (reads : Reads kind check) (name : String) (absent : α) :
    (refused env (name, kind) = false ∧ ∃ a, setting env name absent check = .valid a) ∨
    (refused env (name, kind) = true ∧ ∃ k,
      setting env name absent check = .invalid [⟨k, [.key name]⟩]) := by
  unfold setting refused
  cases find env name with
  | none => exact .inl ⟨rfl, absent, rfl⟩
  | some s =>
    rcases reads s with ⟨takes, a, valid⟩ | ⟨takes, k, issue⟩
    · exact .inl ⟨by simp [takes], a, congrArg (Checked.within _) valid⟩
    · exact .inr ⟨by simp [takes], k, congrArg (Checked.within _) issue⟩

theorem isValid_setting (reads : Reads kind check) (name : String) (absent : α) :
    (setting env name absent check).isValid = !refused env (name, kind) := by
  rcases setting_cases reads name absent with ⟨taken, a, valid⟩ | ⟨not, k, invalid⟩
  · rw [taken, valid]
    rfl
  · rw [not, invalid]
    rfl

theorem places_setting (reads : Reads kind check) (name : String) (absent : α) :
    (setting env name absent check).issues.map (·.place) =
      if refused env (name, kind) then [[.key name]] else [] := by
  rcases setting_cases reads name absent with ⟨taken, a, valid⟩ | ⟨not, k, invalid⟩
  · rw [taken, valid]
    rfl
  · rw [not, invalid]
    rfl

theorem filter_map_eq {β γ : Type} (p : β → Bool) (f : β → γ) (xs : List β) :
    (xs.filter p).map f = xs.flatMap fun x => if p x then [f x] else [] := by
  induction xs with
  | nil => rfl
  | cons x xs ih =>
    rw [List.flatMap_cons, ← ih]
    cases taken : p x <;> simp [taken]

/-- The settings are accepted exactly if no variable is refused. All that are refused are
reported, each by one issue under its name, in the order in which the settings are declared. -/
theorem ofEnvironment_exact (env : Environment) :
    ((∃ s, ofEnvironment env = .valid s) ↔ ∀ v ∈ kinds, refused env v = false) ∧
    (ofEnvironment env).issues.map (·.place) =
      (kinds.filter (refused env)).map fun v => [.key v.1] := by
  constructor
  · rw [← Checked.isValid_iff]
    simp only [ofEnvironment, Checked.isValid_seq, Checked.isValid_map,
      isValid_setting reads_text, isValid_setting reads_flag, isValid_setting reads_whole,
      isValid_setting reads_count, isValid_setting reads_duration, isValid_setting reads_rate,
      kinds, List.forall_mem_cons, List.not_mem_nil, false_imp_iff, implies_true, and_true,
      Bool.and_eq_true, Bool.not_eq_true', and_assoc]
  · simp only [ofEnvironment, Checked.issues_seq, Checked.issues_map, List.map_append,
      places_setting reads_text, places_setting reads_flag, places_setting reads_whole,
      places_setting reads_count, places_setting reads_duration, places_setting reads_rate]
    rw [filter_map_eq]
    simp only [kinds, List.flatMap_cons, List.flatMap_nil, List.append_assoc, List.append_nil]

example : (ofEnvironment [("json_logs", "maybe"), ("OWNER_chain_max_depth", "0"),
    ("METRICS_PORT", "9"), ("HOME", "/")]).issues.map (·.place) =
      [[.key "JSON_LOGS"], [.key "OWNER_CHAIN_MAX_DEPTH"]] := by decide +kernel

theorem ofEnvironment_congr (same : ∀ name ∈ names, find env' name = find env name) :
    ofEnvironment env' = ofEnvironment env := by
  simp only [names, List.forall_mem_cons] at same
  simp only [ofEnvironment, setting, same]

def isKnown (name : String) : Bool := names.any fun known => Text.lower name == Text.lower known

theorem find_known {name : String} (known : name ∈ names) :
    find (env.filter fun e => isKnown e.1) name = find env name := by
  have kept : (fun e : String × String => decide (isKnown e.1 = true ∧
      (Text.lower e.1 == Text.lower name) = true)) =
        fun e => Text.lower e.1 == Text.lower name := by
    funext e
    cases here : Text.lower e.1 == Text.lower name with
    | false => exact decide_eq_false fun both => nomatch both.2
    | true => exact decide_eq_true ⟨List.any_eq_true.mpr ⟨name, known, here⟩, rfl⟩
  rw [find, ← List.filter_reverse, List.find?_filter, kept, find]

theorem ofEnvironment_known (env : Environment) :
    ofEnvironment (env.filter fun e => isKnown e.1) = ofEnvironment env :=
  ofEnvironment_congr fun _ => find_known

theorem ensures_setting {P : α → Prop} {name : String} {absent : α} (standard : P absent)
    (given : ∀ s, (check s).Ensures P) : (setting env name absent check).Ensures P := by
  intro a valid
  unfold setting at valid
  split at valid
  · exact given _ a (Checked.within_eq_valid_iff.mp valid)
  · cases valid
    exact standard

theorem count_positive (s : String) : (count s).Ensures (1 ≤ ·) := by
  intro n valid
  obtain ⟨m, -, bounded⟩ := Checked.andThen_eq_valid_iff.mp valid
  split at bounded
  · cases bounded
  · rename_i low
    cases bounded
    exact Int.not_lt.mp low

theorem duration_positive (s : String) : (duration s).Ensures fun x => ¬ x.toFloat ≤ 0 := by
  intro x valid
  obtain ⟨y, -, bounded⟩ := Checked.andThen_eq_valid_iff.mp valid
  split at bounded
  · cases bounded
  · rename_i low
    cases bounded
    exact low

theorem rate_rateOk (s : String) : (rate s).Ensures fun x =>
    ∀ o : TracingOptions, { o with sampleRate := x }.rateOk = true := by
  intro x valid o
  obtain ⟨y, -, bounded⟩ := Checked.andThen_eq_valid_iff.mp valid
  split at bounded
  · cases bounded
  · rename_i high
    split at bounded
    · cases bounded
    · rename_i low
      cases bounded
      simp [TracingOptions.rateOk, high, low]

end Environment

/-- What was accepted is in its bounds, if it is not what stands in for nothing. -/
theorem accepted_bounds (env : Environment) : (ofEnvironment env).Ensures fun s =>
    1 ≤ s.maxDepth ∧
    (s.requestTimeout = default.requestTimeout ∨ ¬ s.requestTimeout.toFloat ≤ 0) ∧
    (s.sampleRate = default.sampleRate ∨
      ∀ o : TracingOptions, { o with sampleRate := s.sampleRate }.rateOk = true) := by
  have depth (name : String) : (setting env name default.maxDepth count).Ensures (1 ≤ ·) :=
    ensures_setting (by decide) count_positive
  have timeout (name : String) : (setting env name default.requestTimeout duration).Ensures
      fun x => x = default.requestTimeout ∨ ¬ x.toFloat ≤ 0 :=
    ensures_setting (.inl rfl) fun s x valid => .inr (duration_positive s x valid)
  have sampled (name : String) : (setting env name default.sampleRate rate).Ensures
      fun x => x = default.sampleRate ∨
        ∀ o : TracingOptions, { o with sampleRate := x }.rateOk = true :=
    ensures_setting (.inl rfl) fun s x valid => .inr (rate_rateOk s x valid)
  -- From the last setting to the first: three of them are bounded, and the others are skipped.
  unfold ofEnvironment
  refine .skip (.seq ?_ (sampled _))
  iterate 6 apply Checked.Ensures.skip
  refine .seq (.seq ?_ (timeout _)) (depth _)
  iterate 10 apply Checked.Ensures.skip
  refine .map fun _ _ _ _ _ _ _ _ _ _ _ _ _ long _ deep _ _ _ _ _ _ _ often _ => ?_
  exact ⟨deep, long, often⟩

end Settings

end PodInstrumentation
