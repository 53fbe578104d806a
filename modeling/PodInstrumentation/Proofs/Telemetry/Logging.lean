import PodInstrumentation.Proofs.Json.Object
import PodInstrumentation.Proofs.Outcome
import PodInstrumentation.Telemetry.Log
import PodInstrumentation.Telemetry.Trace
/-!
What is logged and traced. A message is kept out of the log exactly if it names the path of a
probe, a line of the log has each of its fields once, and of the providers that export spans there
is at most one at a time, however often one is asked for. -/
namespace PodInstrumentation

theorem Text.occursIn_iff (part text : List Char) : occursIn part text = true ↔ part <:+: text := by
  induction text with
  | nil => simp [occursIn, List.isEmpty_iff]
  | cons c r ih => simp [occursIn, ih, List.infix_cons_iff]

namespace Log

theorem passes_iff (message : String) :
    passes true message = true ↔ ∀ p ∈ probePaths, ¬ p.toList <:+: message.toList := by
  simp [passes, ← Text.occursIn_iff]

def headingFields : List String :=
  ["timestamp", "level", "logger", "message", "correlation_id", "exception"]

section Line

variable {r : Record} {time message : String} {line : Json}

def extras (r : Record) : Fields :=
  structuredFields.filterMap fun name => (r.extra.lookup name).map (name, ·)

theorem keys_extras (r : Record) :
    Fields.keys (extras r) = structuredFields.filter fun name => (r.extra.lookup name).isSome := by
  unfold extras
  induction structuredFields with
  | nil => rfl
  | cons name names ih => cases here : r.extra.lookup name <;> simp [here, ih]

theorem mem_extras {name : String} {v : Json} :
    (name, v) ∈ extras r ↔ name ∈ structuredFields ∧ r.extra.lookup name = some v := by
  simp only [extras, List.mem_filterMap, Option.map_eq_some_iff, Prod.mk.injEq]
  constructor
  · rintro ⟨_, listed, _, found, rfl, rfl⟩
    exact ⟨listed, found⟩
  · rintro ⟨listed, found⟩
    exact ⟨name, listed, v, found, rfl, rfl⟩

def heading (r : Record) (time message : String) : Fields :=
  [("timestamp", .str time), ("level", .str (levelName r.level)), ("logger", .str r.logger),
    ("message", .str message),
    ("correlation_id", (r.extra.lookup "correlation_id").getD (.str ""))]
  ++ (r.exception.map fun (kind, text) => ("exception", .str (exceptionText kind text))).toList

theorem json_eq_ok_iff : r.json time = .ok line ↔ ∃ message,
    Template.fill r.template r.arguments = .ok message ∧
      line = .obj (heading r time message ++ extras r) := by
  rw [Record.json, bind_eq_ok_iff]
  constructor
  · rintro ⟨message, filled, made⟩
    cases made
    exact ⟨message, filled, rfl⟩
  · rintro ⟨message, filled, rfl⟩
    exact ⟨message, filled, rfl⟩

theorem keys_heading_sublist (r : Record) (time message : String) :
    (Fields.keys (heading r time message)).Sublist headingFields := by
  have exception : (Fields.keys (r.exception.map fun (kind, text) =>
      ("exception", Json.str (exceptionText kind text))).toList).Sublist ["exception"] := by
    cases r.exception with
    | none => exact List.nil_sublist _
    | some e => exact List.Sublist.refl _
  rw [heading, Fields.keys_append]
  exact (List.Sublist.refl _).append exception

theorem notMem_heading {name : String} (listed : name ∈ structuredFields) :
    name ∉ Fields.keys (heading r time message) := by
  have apart : ∀ name ∈ structuredFields, name ∉ headingFields := by decide
  exact fun here => apart name listed ((keys_heading_sublist r time message).subset here)

theorem nodup_line : (Fields.keys (heading r time message ++ extras r)).Nodup := by
  rw [Fields.keys_append, keys_extras, List.nodup_append]
  refine ⟨(keys_heading_sublist r time message).nodup (by decide),
    List.filter_sublist.nodup (by decide), ?_⟩
  rintro name heading _ extra rfl
  exact notMem_heading (List.mem_filter.mp extra).1 heading

theorem lookup_line {name : String} (listed : name ∈ structuredFields) :
    (heading r time message ++ extras r).lookup name = r.extra.lookup name := by
  cases found : r.extra.lookup name with
  | some v =>
    have here := mem_extras.mpr ⟨listed, found⟩
    exact Fields.lookup_of_mem nodup_line (List.mem_append_right _ here)
  | none =>
    refine Fields.lookup_eq_none_iff.mpr ?_
    rw [Fields.keys_append, keys_extras, List.mem_append, List.mem_filter, found]
    rintro (heading | ⟨-, present⟩)
    · exact notMem_heading listed heading
    · cases present

/-- A line says each thing once: its message, and what its record says under the names that lines
have room for. -/
theorem line_once (written : r.json time = .ok line) :
    ∃ fs, line = .obj fs ∧ (Fields.keys fs).Nodup ∧
      (∃ message, Template.fill r.template r.arguments = .ok message ∧
        fs.lookup "message" = some (.str message)) ∧
      ∀ name ∈ structuredFields, fs.lookup name = r.extra.lookup name := by
  obtain ⟨message, filled, rfl⟩ := json_eq_ok_iff.mp written
  exact ⟨_, rfl, nodup_line, ⟨message, filled, rfl⟩, fun name => lookup_line⟩

end Line

end Log

namespace Tracing

inductive Step where
  | setup (o : TracingOptions)
  | shutdown
deriving DecidableEq

/-- A set-up that is refused changes nothing. -/
def step (t : Tracing) : Step → Tracing
  | .setup o => match t.setup o with
    | .ok t' => t'
    | .error _ => t
  | .shutdown => t.shutdown

def after (steps : List Step) : Tracing := steps.foldl step initial

structure Sound (ends : Nat) (t : Tracing) : Prop where
  active : ∀ p ∈ t.active, t.initialized = true ∧ t.made[p.1]? = some p.2 ∧
    p.1 + 1 = t.made.length
  made : ∀ o ∈ t.made, o.enabled = true ∧ o.rateOk = true
  few : t.made.length + (if t.initialized then 0 else 1) ≤ ends + 1

theorem sound_initial : Sound 0 initial := ⟨nofun, nofun, Nat.le_refl 1⟩

/-- A set-up counts once, until the tracer is shut down. -/
theorem setup_again {t t' : Tracing} {o : TracingOptions} (set : t.setup o = .ok t')
    (o' : TracingOptions) : t'.setup o' = .ok t' := by
  have started : t'.initialized = true := by
    unfold setup at set
    split at set
    · cases set
      assumption
    · split at set
      · cases set
        rfl
      · split at set
        · cases set
        · cases set
          rfl
  simp [setup, started]

theorem sound_setup {ends : Nat} {t t' : Tracing} {o : TracingOptions} (sound : Sound ends t)
    (set : t.setup o = .ok t') : Sound ends t' := by
  unfold setup at set
  split at set
  · cases set
    exact sound
  rename_i idle
  have few := sound.few
  rw [if_neg idle] at few
  split at set
  · cases set
    exact ⟨fun p here => absurd (sound.active p here).1 idle, sound.made, by simp; omega⟩
  rename_i enabled
  split at set
  · cases set
  rename_i ok
  cases set
  refine ⟨?_, ?_, by simpa using few⟩
  · rintro p ⟨⟩
    exact ⟨rfl, by simp, by simp⟩
  · intro o' here
    rcases List.mem_append.mp here with old | new
    · exact sound.made o' old
    · rw [List.mem_singleton.mp new]
      exact ⟨by simpa using enabled, by simpa using ok⟩

theorem sound_step {ends : Nat} {t : Tracing} (sound : Sound ends t) (next : Step) :
    Sound (ends + if next = .shutdown then 1 else 0) (t.step next) := by
  cases next with
  | shutdown =>
    have few := sound.few
    exact ⟨nofun, sound.made, by simp only [step, shutdown]; split at few <;> simp <;> omega⟩
  | setup o =>
    cases set : t.setup o with
    | ok t' => simpa [step, set] using sound_setup sound set
    | error e => simpa [step, set] using sound

theorem sound_steps (steps : List Step) {ends : Nat} {t : Tracing} (sound : Sound ends t) :
    Sound (ends + steps.count .shutdown) (steps.foldl step t) := by
  -- by the steps that are left, for a tracer that has been shut down any number of times
  induction steps generalizing ends t with
  | nil => exact sound
  | cons next steps ih =>
    have rest := ih (sound_step sound next)
    rw [List.count_cons]
    simpa [Nat.add_assoc, Nat.add_comm, Nat.add_left_comm] using rest

/-- However a tracer is set up and shut down, the provider that exports is the last one made, each
one was wanted and had a rate that providers take, and no two were made without an end between
them. -/
theorem one_provider (steps : List Step) : Sound (steps.count .shutdown) (after steps) := by
  simpa [after] using sound_steps steps sound_initial

end Tracing

end PodInstrumentation
