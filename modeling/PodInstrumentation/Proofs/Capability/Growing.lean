import PodInstrumentation.Proofs.Capability.Running
import PodInstrumentation.Proofs.Pod.Growing
/-!
Injections and repairs add. Whatever the pod and the cluster are like, one that comes to an end has
let the pod grow within its room, and the init container that goes with it. -/
namespace PodInstrumentation

open Json (Grows)
open Pod (containerRoom installerRoom podRoom)

namespace Edit

variable {σ τ α β : Type} {R : σ → σ → Prop}

def Keeps (R : σ → σ → Prop) (e : Edit σ α) : Prop :=
  ∀ s a s', e.apply s = (.ok a, s') → R s s'

namespace Keeps

theorem pure [Std.Refl R] (a : α) : Keeps R (Pure.pure a : Edit σ α) := by
  intro s _ s' h
  cases h
  exact Std.Refl.refl s

theorem look [Std.Refl R] (f : σ → Shaped α) : Keeps R (Edit.look f) := by
  intro s _ s' h
  rw [(apply_look_eq_ok h).2]
  exact Std.Refl.refl s

theorem bind [Trans R R R] {x : Edit σ α} {f : α → Edit σ β}
    (hx : Keeps R x) (hf : ∀ a, Keeps R (f a)) : Keeps R (x >>= f) := by
  intro s b s' h
  obtain ⟨a, t, first, rest⟩ := apply_bind_eq_ok h
  exact Trans.trans (hx s a t first) (hf a t b s' rest)

theorem step {f : σ → Shaped σ} (hf : ∀ s s', f s = .ok s' → R s s') : Keeps R (Edit.step f) :=
  fun s _ s' h => hf s s' (apply_step_eq_ok h)

theorem on {T : τ → τ → Prop} (read : σ → τ) (write : σ → τ → σ) {e : Edit τ α} (he : Keeps T e)
    (hw : ∀ (s : σ) (t : τ), T (read s) t → R s (write s t)) : Keeps R (Edit.on read write e) := by
  intro s a s' h
  obtain ⟨t, ran, rfl⟩ := apply_on_eq_ok h
  exact hw s t (he (read s) a t ran)

end Keeps

end Edit

open Edit (Keeps)

section Site

variable {r : String → Room}

def Site.Grows (r : String → Room) (s s' : Site) : Prop :=
  Json.Grows containerRoom s.container s'.container ∧
    Json.Grows (.object r) s.installer s'.installer

instance : Std.Refl (Site.Grows r) := ⟨fun _ => ⟨.refl _ _, .refl _ _⟩⟩

instance : Trans (Site.Grows r) (Site.Grows r) (Site.Grows r) :=
  ⟨fun h h' => ⟨h.1.trans h'.1, h.2.trans h'.2⟩⟩

abbrev Extends (e : Edit Json Unit) : Prop := Keeps (Grows containerRoom) e

theorem Extends.step {f : Json → Shaped Json}
    (hf : ∀ c c', f c = .ok c' → Grows containerRoom c c') : Extends (.step f) := Keeps.step hf

theorem Extends.bind {α : Type} {x : Edit Json α} {f : α → Edit Json Unit}
    (hx : Keeps (Grows containerRoom) x) (hf : ∀ a, Extends (f a)) : Extends (x >>= f) :=
  Keeps.bind hx hf

theorem Extends.pure : Extends (Pure.pure ()) := Keeps.pure ()

theorem Agent.extends_variables (config : MonitoringConfig) (version clusterId : String)
    (installPath : Json) : Extends (do
      Edit.step (Pod.addMetadata config version clusterId)
      Edit.step (addPreload installPath)
      if config.hasProxy then Edit.step addProxy
      let zone := config.spec.networkZone.getD ""
      if zone != "" then Edit.step (addNetworkZone zone)) := by
  have addPreload_grows : ∀ c c', addPreload installPath c = .ok c' → Grows containerRoom c c' := by
    intro c c' h
    obtain ⟨path, _, h⟩ := bind_eq_ok_iff.mp h
    exact Pod.appendEnv_grows rfl h
  refine .bind (.step fun _ _ => Pod.addMetadata_grows rfl) fun _ => ?_
  refine .bind (.step addPreload_grows) fun _ => ?_
  have zone : Extends (if (config.spec.networkZone.getD "" != "") = true then
      .step (addNetworkZone (config.spec.networkZone.getD "")) else Pure.pure ()) := by
    split
    · exact .step fun _ _ => Pod.appendEnv_grows rfl
    · exact .pure
  split
  · exact .bind (.step fun _ _ => Pod.appendEnv_grows rfl) fun _ => zone
  · exact zone

theorem Agent.extends_extendContainer (config : MonitoringConfig) (version clusterId : String)
    (installPath : Json) : Extends (extendContainer config version clusterId installPath) :=
  .bind (.step fun _ _ => Pod.append_grows rfl) fun _ => extends_variables _ _ _ _

theorem Enrichment.extends_extendContainer (config : MonitoringConfig)
    (version clusterId : String) : Extends (extendContainer config version clusterId) :=
  .bind (.step fun _ _ => Pod.append_grows rfl) fun _ =>
    .step fun _ _ => Pod.addMetadata_grows rfl

theorem Capability.extends_containerEdit (c : Capability) (j : Injector)
    (config : MonitoringConfig) (pod : Json) : Extends (c.containerEdit j config pod) := by
  cases c with
  | agent =>
    exact .bind (.look _) fun info => Agent.extends_extendContainer config _ _ _
  | enrichment => exact Enrichment.extends_extendContainer config _ _

theorem onContainer_keeps {e : Edit Json Unit} (he : Extends e) :
    Keeps (Site.Grows r) (Site.onContainer e) :=
  Keeps.on Site.container (fun s c => { s with container := c }) he fun _ _ h => ⟨h, .refl _ _⟩

theorem onInstaller_keeps (room : r "env" = .list .closed) (number : Int) :
    Keeps (Site.Grows r) (Site.onInstaller (Pod.noteContainer number)) := by
  refine Keeps.step fun s s' h => ?_
  obtain ⟨x, noted, h⟩ := bind_eq_ok_iff.mp h
  cases h
  exact ⟨.refl _ _, Pod.noteContainer_grows room noted⟩

theorem extend_keeps (room : r "env" = .list .closed) {e : Edit Json Unit} (he : Extends e)
    (number : Int) : Keeps (Site.Grows r) (Additions.extend e number) :=
  .bind (onInstaller_keeps room number) fun _ => onContainer_keeps he

section Given

variable {R : Site → Site → Prop} [Trans R R R] {j : Injector}
  {config : MonitoringConfig} {pod : Json}
  (noted : ∀ number, Keeps R (Site.onInstaller (Pod.noteContainer number)))
  (given : ∀ c : Capability, Keeps R (Site.onContainer (c.containerEdit j config pod)))
include noted given

/-- A repair is made of notes and of what the capabilities give containers. -/
theorem reinvoke_keeps (c : Capability) (number : Int) (hasInstaller : Bool) :
    Keeps R (c.reinvoke j config pod number hasInstaller) := by
  unfold Capability.reinvoke
  cases hasInstaller with
  | true => exact .bind (noted number) fun _ => given c
  | false => exact given c

theorem repairSite_keeps [Std.Refl R] (installer? : Shaped (Option (Nat × Json))) (number : Int)
    (cs : List Capability) : Keeps R (repairSite j config pod installer? number cs) := by
  induction cs with
  | nil => exact .pure _
  | cons c cs ih =>
    unfold repairSite
    refine .bind (.look _) fun lacking => ?_
    cases lacking with
    | false => exact ih
    | true =>
      refine .bind (.look _) fun found => ?_
      refine .bind (reinvoke_keeps noted given c number _) fun _ => ?_
      exact .bind ih fun _ => .pure _

end Given

theorem sweep_grows {step : Nat → Edit Site Bool} (h : ∀ i, Keeps (Site.Grows r) (step i))
    {i n : Nat} {cs cs' : List Json} {x x' : Json} (swept : sweep step i cs x = (.ok n, cs', x')) :
    cs'.length = cs.length ∧ Grows (.object r) x x' ∧
      ∀ (k : Nat) (c c' : Json), cs[k]? = some c → cs'[k]? = some c' →
        Grows containerRoom c c' := by
  induction cs generalizing i n cs' x with
  | nil =>
    cases swept
    exact ⟨rfl, .refl _ _, nofun⟩
  | cons c cs ih =>
    obtain ⟨_, _, _, _, _, ran, rest, rfl⟩ := sweep_cons_eq_ok swept
    obtain ⟨longer, installer, containers⟩ := ih rest
    obtain ⟨first, told⟩ := h i _ _ _ ran
    refine ⟨by simp [longer], told.trans installer, fun k d d' hd hd' => ?_⟩
    cases k with
    | zero =>
      cases hd
      cases hd'
      exact first
    | succ k => exact containers k d d' hd hd'

end Site

/-- A pod grew, and so did the installer that will be added to it. No injection looks at the init
containers of the pod, so that they may have any room. -/
def Draft.Grows (inits : Room) (d d' : Draft) : Prop :=
  Json.Grows (podRoom inits) d.pod d'.pod ∧
    Json.Grows containerRoom d.installer d'.installer

variable {inits : Room}

namespace Draft

instance : Std.Refl (Grows inits) := ⟨fun _ => ⟨.refl _ _, .refl _ _⟩⟩

instance : Trans (Grows inits) (Grows inits) (Grows inits) :=
  ⟨fun h h' => ⟨h.1.trans h'.1, h.2.trans h'.2⟩⟩

theorem onPod_keeps {f : Json → Shaped Json}
    (hf : ∀ p p', f p = .ok p' → Json.Grows (podRoom inits) p p') :
    Keeps (Grows inits) (onPod f) := by
  intro d u d' ran
  obtain ⟨changed, same⟩ := onPod_eq_ok ran
  exact ⟨hf _ _ changed, same ▸ .refl _ _⟩

theorem onInstaller_keeps {f : Json → Shaped Json}
    (hf : ∀ x x', f x = .ok x' → Json.Grows containerRoom x x') :
    Keeps (Grows inits) (onInstaller f) := by
  intro d u d' ran
  obtain ⟨same, changed⟩ := onInstaller_eq_ok ran
  exact ⟨same ▸ .refl _ _, hf _ _ changed⟩

theorem eachContainer_keeps {step : Nat → Edit Site Bool} {r : String → Room}
    (room : containerRoom = .object r) (h : ∀ i, Keeps (Site.Grows r) (step i)) :
    Keeps (Grows inits) (eachContainer step) := by
  intro d n d' ran
  obtain ⟨cs, cs', read, swept, put⟩ := eachContainer_eq_ok ran
  obtain ⟨longer, installer, containers⟩ := sweep_grows h swept
  refine ⟨?_, room ▸ installer⟩
  rw [put]
  exact Pod.putContainers_grows read (Nat.le_of_eq longer.symm) containers

end Draft

theorem Additions.edit_keeps {a : Additions} (container : Extends a.container)
    (mark : a.mark ∈ Pod.marks) : Keeps (Draft.Grows inits) a.edit := by
  unfold Additions.edit
  refine .bind (Draft.onPod_keeps fun _ _ => Pod.appendVolumes_grows) fun _ => ?_
  refine .bind
    (Draft.onInstaller_keeps fun _ _ => Pod.appendEnv_grows rfl) fun _ => ?_
  refine .bind
    (Draft.onInstaller_keeps fun _ _ => Pod.append_grows rfl) fun _ => ?_
  refine .bind (Draft.eachContainer_keeps rfl fun i => ?_) fun _ => ?_
  · exact .bind (extend_keeps rfl container _) fun _ => .pure _
  · exact Draft.onPod_keeps fun _ _ => Pod.annotate_grows mark

section Injection

variable {σ : Type} {answer : σ → (c : ApiCall) → Except Failure c.Answer × σ} {s s' : σ}
  {j : Injector} {config : MonitoringConfig} {ns : String}

theorem Capability.prepared_keeps {c : Capability} {pod : Json} {edit : Edit Draft Unit}
    (h : (c.prepare j config ns pod).play answer s = (.ok edit, s')) :
    Keeps (Draft.Grows inits) edit := by
  have agentMark : Names.agentInjected ∈ Pod.marks := by decide
  have enrichmentMark : Names.enrichmentInjected ∈ Pod.marks := by decide
  cases c with
  | agent =>
    obtain ⟨_, _, _, h⟩ := Attempt.play_bind_eq_ok h
    cases h
    exact .bind (.look _) fun info =>
      Additions.edit_keeps (Agent.extends_extendContainer config _ _ _) agentMark
  | enrichment =>
    obtain ⟨_, _, _, h⟩ := Attempt.play_bind_eq_ok h
    obtain ⟨_, _, _, h⟩ := Attempt.play_bind_eq_ok h
    obtain ⟨_, _, _, h⟩ := Attempt.play_bind_eq_ok h
    cases h
    exact Additions.edit_keeps (Enrichment.extends_extendContainer config _ _) enrichmentMark

theorem inject_grows {cs : List Capability} {d d' : Draft} {names : List String}
    (h : (inject j config ns cs d).run answer s = ((.ok names, d'), s')) :
    Draft.Grows inits d d' := by
  induction cs generalizing d names s with
  | nil =>
    cases h
    exact Std.Refl.refl _
  | cons c cs ih =>
    rcases inject_cons_eq_ok h with
      ⟨_, rest⟩ | ⟨_, edit, s₁, u, d₁, names₁, prepared, edited, rest, _⟩
    · exact ih rest
    · have first : Draft.Grows inits d d₁ := Capability.prepared_keeps prepared d u d₁ edited
      exact Trans.trans first (ih rest)

end Injection

theorem sweep_repair_grows {j : Injector} {config : MonitoringConfig} {pod : Json}
    {place? : Shaped (Option (Nat × Json))} {wanted : List Capability} {n : Nat}
    {ys ys' : List Json} {x x' : Json}
    (ran : sweep (fun i => repairSite j config pod place? (i + 1) wanted) 0 ys x =
      (.ok n, ys', x')) :
    ys'.length = ys.length ∧ Grows (.members [("env", .list .closed)]) x x' ∧
      ∀ (k : Nat) (c c' : Json), ys[k]? = some c → ys'[k]? = some c' → Grows containerRoom c c' :=
  sweep_grows (fun i => repairSite_keeps (onInstaller_keeps rfl)
    (fun c => onContainer_keeps (c.extends_containerEdit j config pod)) place? (i + 1) wanted) ran

theorem repair_grows {j : Injector} {config : MonitoringConfig} {cs : List Capability}
    {pod pod' : Json} {n : Nat} (h : repair j config cs pod = (.ok n, pod')) :
    Grows (podRoom (.list installerRoom)) pod pod' := by
  obtain ⟨wanted, ys, _, read, place⟩ := repair_eq_ok h
  rcases place with ⟨i, x, ys', x', found, ran, rfl⟩ | ⟨x, ys', x', _, ran, rfl⟩
  · obtain ⟨longer, told, grown⟩ := sweep_repair_grows ran
    have still := (Pod.findInstaller_putContainers ys' pod).trans found
    exact (Pod.putContainers_grows read (Nat.le_of_eq longer.symm) grown).trans
      (Pod.putInstaller_grows still told)
  · obtain ⟨longer, _, grown⟩ := sweep_repair_grows ran
    exact Pod.putContainers_grows read (Nat.le_of_eq longer.symm) grown

end PodInstrumentation
