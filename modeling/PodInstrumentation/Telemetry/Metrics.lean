import PodInstrumentation.Json.Basic
import PodInstrumentation.Net.Url
import PodInstrumentation.Number.Format
/-!
Metrics of admissions: how many there were by outcome and how long they took, how many failed
softly by kind of error, and how many containers were repaired. They are read as families of
samples and served as text. -/
namespace PodInstrumentation

/-- How many values lie at or below each bound and above the one before, and their sum. -/
structure Histogram where
  buckets : List (Double × Nat)
  sum : Double
deriving DecidableEq

namespace Histogram

def bounds : List Double :=
  [.ofDecimal 5 (-3), .ofDecimal 1 (-2), .ofDecimal 5 (-2), .ofDecimal 1 (-1), .ofDecimal 25 (-2),
    .ofDecimal 5 (-1), .ofDecimal 1 0, .ofDecimal 25 (-1), .ofDecimal 5 0, .ofDecimal 10 0,
    .infinity]

def empty : Histogram := ⟨bounds.map (·, 0), .zero⟩

/-- Counts a value at the first bound that it does not exceed. -/
def count (x : Double) : List (Double × Nat) → List (Double × Nat)
  | [] => []
  | (bound, n) :: r =>
    if x.toFloat ≤ bound.toFloat then (bound, n + 1) :: r else (bound, n) :: count x r

def observe (h : Histogram) (x : Double) : Histogram :=
  ⟨count x h.buckets, .ofFloat (h.sum.toFloat + x.toFloat)⟩

/-- How many values lie at or below each bound, `below` of them below all of these. -/
def cumulative (below : Nat) : List (Double × Nat) → List (Double × Nat)
  | [] => []
  | (bound, n) :: r => (bound, below + n) :: cumulative (below + n) r

def total (h : Histogram) : Nat := h.buckets.foldl (fun n b => n + b.2) 0

end Histogram

structure Metrics where
  admissions : List (String × Nat)
  durations : List (String × Histogram)
  softFailures : List (String × Nat)
  repaired : Nat
deriving DecidableEq

namespace Metrics

def empty : Metrics := ⟨[], [], [], 0⟩

/-- Changes the value under a label; labels stand in the order in which they were first met. -/
def adjust {α : Type} (label : String) (absent : α) (f : α → α) :
    List (String × α) → List (String × α)
  | [] => [(label, f absent)]
  | (l, a) :: r => if l = label then (l, f a) :: r else (l, a) :: adjust label absent f r

def admission (m : Metrics) (outcome : String) (duration : Double) : Metrics := { m with
  admissions := adjust outcome 0 (· + 1) m.admissions
  durations := adjust outcome .empty (·.observe duration) m.durations }

def softFailure (m : Metrics) (kind : String) : Metrics :=
  { m with softFailures := adjust kind 0 (· + 1) m.softFailures }

def repair (m : Metrics) (containers : Nat) : Metrics :=
  { m with repaired := m.repaired + containers }

end Metrics

inductive Amount where
  | count (n : Nat)
  | seconds (x : Double)
deriving DecidableEq, Repr

structure Sample where
  name : String
  labels : List (String × String)
  amount : Amount
deriving DecidableEq

structure SampleFamily where
  name : String
  help : String
  type : String
  samples : List Sample

namespace Metrics

def outcomeLabel : String := "outcome"
def kindLabel : String := "error_type"
def boundLabel : String := "le"

def admissionsName : String := "injection_operator_admission_requests_total"
def durationsName : String := "injection_operator_admission_duration_seconds"
def softFailuresName : String := "injection_operator_soft_failures_total"
def repairedName : String := "injection_operator_repaired_containers_total"

def boundText (x : Double) : String := if x.isFinite then Number.doubleText x else "+Inf"

def counters (name label : String) (counts : List (String × Nat)) : List Sample :=
  counts.map fun (value, n) => ⟨name, [(label, value)], .count n⟩

def durationSamples (outcome : String) (h : Histogram) : List Sample :=
  let label := (outcomeLabel, outcome)
  (Histogram.cumulative 0 h.buckets).map (fun (bound, n) =>
      ⟨durationsName ++ "_bucket", [(boundLabel, boundText bound), label], .count n⟩)
    ++ [⟨durationsName ++ "_count", [label], .count h.total⟩,
      ⟨durationsName ++ "_sum", [label], .seconds h.sum⟩]

def families (m : Metrics) : List SampleFamily := [
  { name := admissionsName
    help := "Total number of pod admission requests handled by the mutation webhook"
    type := "counter"
    samples := counters admissionsName outcomeLabel m.admissions },
  { name := durationsName
    help := "Time spent handling pod admission requests"
    type := "histogram"
    samples := m.durations.flatMap fun (outcome, h) => durationSamples outcome h },
  { name := softFailuresName
    help := "Total number of pods admitted without injection because of an error"
    type := "counter"
    samples := counters softFailuresName kindLabel m.softFailures },
  { name := repairedName
    help := "Total number of containers instrumented on webhook reinvocation"
    type := "counter"
    samples := [⟨repairedName, [], .count m.repaired⟩] }]

def samples (m : Metrics) : List Sample := m.families.flatMap (·.samples)

end Metrics

def Amount.text : Amount → String
  | count n => s!"{n}.0"
  | seconds x => Number.doubleText x

def escapeLabel (s : String) : String :=
  String.ofList (s.toList.flatMap fun c =>
    if c = '\\' then ['\\', '\\'] else if c = '\n' then ['\\', 'n']
    else if c = '"' then ['\\', '"'] else [c])

def Sample.labelText (s : Sample) : String :=
  let pairs := s.labels.map fun (name, value) => name ++ "=\"" ++ escapeLabel value ++ "\""
  if pairs.isEmpty then "" else "\x7b" ++ ",".intercalate pairs ++ "\x7d"

def Sample.line (s : Sample) : String := s!"{s.name}{s.labelText} {s.amount.text}"

def SampleFamily.lines (f : SampleFamily) : List String :=
  [s!"# HELP {f.name} {f.help}", s!"# TYPE {f.name} {f.type}"] ++ f.samples.map Sample.line

namespace Metrics

def exposition (m : Metrics) : String :=
  String.join ((m.families.flatMap SampleFamily.lines).map (· ++ "\n"))

structure Page where
  status : Nat
  text : String
deriving DecidableEq, Repr

def scrapePath : String := "/metrics"
def healthPath : String := "/healthz"

def scrape (exposed : Except String String) : Page :=
  match exposed with
  | .ok text => ⟨200, text⟩
  | .error kind => ⟨500, s!"Error generating metrics: {kind}. Check logs for details."⟩

def respond (exposed : Except String String) (method target : String) : Page :=
  let path := (Net.Target.ofText target).path
  let allowed := ["GET", "HEAD"].contains method
  if path = scrapePath || path = healthPath then
    if !allowed then ⟨405, "405: Method Not Allowed"⟩
    else if path = scrapePath then scrape exposed
    else ⟨200, "ok"⟩
  else ⟨404, "404: Not Found"⟩

end Metrics

end PodInstrumentation
