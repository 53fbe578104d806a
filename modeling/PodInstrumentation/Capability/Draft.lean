import PodInstrumentation.Json.Basic
import PodInstrumentation.Pod.Manifest
/-!
What an injection works on: the pod and the init container that will be added to it. They are
changed in several steps; one that meets a misshapen value ends the change, and what the steps
before it wrote stays. Containers are changed one after the other, each together with what the
init container is told about it. -/
namespace PodInstrumentation

/-- The outcome of a change of a `σ`, and the `σ` as it is then. -/
abbrev Edit (σ : Type) := ExceptT Misshapen (StateM σ)

namespace Edit

variable {σ τ α : Type}

/-- One step; it changes nothing if it fails. -/
def step (f : σ → Shaped σ) : Edit σ Unit := ExceptT.mk fun s =>
  match f s with
  | .ok s' => (.ok (), s')
  | .error e => (.error e, s)

def look (f : σ → Shaped α) : Edit σ α := ExceptT.mk fun s => (f s, s)

def on (read : σ → τ) (write : σ → τ → σ) (e : Edit τ α) : Edit σ α := ExceptT.mk fun s =>
  let (a, t) := e.run.run (read s)
  (a, write s t)

def apply (e : Edit σ α) (s : σ) : Shaped α × σ := e.run.run s

end Edit

structure Draft where
  pod : Json
  installer : Json
deriving DecidableEq

structure Site where
  container : Json
  installer : Json
deriving DecidableEq

namespace Site

def onContainer (e : Edit Json Unit) : Edit Site Unit :=
  Edit.on Site.container (fun s c => { s with container := c }) e

def onInstaller (f : Json → Json → Shaped Json) : Edit Site Unit :=
  Edit.step fun s => do return { s with installer := ← f s.container s.installer }

end Site

/-- Runs the step on each container, from the given index on. The step says whether it changed
the container; the answer is how many were changed. A failure leaves the containers after it as
they are. -/
def sweep (step : Nat → Edit Site Bool) :
    (index : Nat) → List Json → (installer : Json) → Shaped Nat × List Json × Json
  | _, [], installer => (.ok 0, [], installer)
  | i, c :: cs, installer =>
    match (step i).apply ⟨c, installer⟩ with
    | (.error e, s) => (.error e, s.container :: cs, s.installer)
    | (.ok changed, s) =>
      let (count, cs', installer') := sweep step (i + 1) cs s.installer
      (count.map (· + if changed then 1 else 0), s.container :: cs', installer')

def putContainers (cs : List Json) (pod : Json) : Json :=
  match pod with
  | .obj fs =>
    match fs.lookup "spec" with
    | some (.obj spec) =>
      match spec.lookup "containers" with
      | some (.arr _) => .obj (Fields.put "spec" (.obj (Fields.put "containers" (.arr cs) spec)) fs)
      | _ => pod
    | _ => pod
  | _ => pod

namespace Draft

def onPod (f : Json → Shaped Json) : Edit Draft Unit :=
  Edit.step fun d => do return { d with pod := ← f d.pod }

def onInstaller (f : Json → Shaped Json) : Edit Draft Unit :=
  Edit.step fun d => do return { d with installer := ← f d.installer }

def eachContainer (step : Nat → Edit Site Bool) : Edit Draft Nat := ExceptT.mk fun d =>
  match Pod.containers d.pod >>= Json.each with
  | .error e => (.error e, d)
  | .ok cs =>
    let (count, cs', installer) := sweep step 0 cs d.installer
    (count, ⟨putContainers cs' d.pod, installer⟩)

end Draft

end PodInstrumentation
