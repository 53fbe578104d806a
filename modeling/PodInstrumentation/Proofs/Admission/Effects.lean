import PodInstrumentation.Proofs.Admission.Calling
import PodInstrumentation.Proofs.Capability.Counting
/-!
What an admission does to the cluster, whatever the cluster answers. Nothing is asked for a pod that
cannot be read and next to nothing for one of a namespace that is not assigned to a configuration;
secrets are created where the pod is, if they are missing there, and events say what happened. -/
namespace PodInstrumentation.Admission

open Pod

namespace Handler

def Known (h : Handler) (t : List Exchange) (config : MonitoringConfig) : Prop :=
  ∃ name resource, ⟨.readConfig name h.injector.provisioner.ns, .ok resource⟩ ∈ t ∧
    MonitoringConfig.ofResource resource = .ok config

inductive Occasion (h : Handler) (request : Request) (before : List Exchange) : String → Prop
  | missingConfig {name : String} {f : Failure} (missing : f.isNotFound = true)
      (read : ⟨.readConfig name h.injector.provisioner.ns, .error f⟩ ∈ before) :
      Occasion h request before "MissingConfig"
  | inject {pod : Json} {ns : String} {config : MonitoringConfig} {wanted : List Capability}
      {settings injection : List Exchange} {d d' : Draft}
      (decoded : decode request.object = .ok pod) (named : namespaceOf request pod = .ok ns)
      (parts : before = settings ++ injection) (known : Known h settings config)
      (begun : Begun h pod wanted d)
      (completed : Completed h.injector config ns wanted d injection d') :
      Occasion h request before "Inject"
  | updatePod {pod pod' : Json} {config : MonitoringConfig} {n : Nat}
      (decoded : decode request.object = .ok pod) (known : Known h before config)
      (ran : repair h.injector config h.capabilities pod = (.ok n, pod'))
      (changed : ∃ s ∈ (containerList pod).zip (containerList pod'), s.2 ≠ s.1) :
      Occasion h request before "UpdatePod"

/-- If an event is posted here, there was an occasion for it. -/
def Told (h : Handler) (request : Request) (before : List Exchange) (e : Exchange) : Prop :=
  ∀ event, e.call = .createEvent event → Occasion h request before event.reason

/-- If a secret is created here, it is a support secret of the namespace of the request, or of the
pod if the request names none, that was looked for before and not found. -/
def Needed (request : Request) (before : List Exchange) (e : Exchange) : Prop :=
  ∀ m, e.call = .createSecret m →
    (∃ pod, decode request.object = .ok pod ∧ namespaceOf request pod = .ok m.ns) ∧
    m.name ∈ [Names.initSecret, Names.endpointSecret] ∧
    ∃ f, f.isNotFound = true ∧ ⟨.readSecret m.name m.ns, .error f⟩ ∈ before

structure Effects (h : Handler) (request : Request) (t : List Exchange) : Prop where
  undecoded : ∀ e, decode request.object = .error e → t = []
  /-- The namespace is read first, and alone unless it could be read and names a configuration. -/
  opening : t = [] ∨ ∃ pod ns a rest, decode request.object = .ok pod ∧
    namespaceOf request pod = .ok ns ∧ t = ⟨.readNamespace ns, a⟩ :: rest ∧
    (instance? a = none → rest = [])
  marked : ∀ pod, decode request.object = .ok pod → isInjected pod = .ok true →
    ∀ e ∈ t, e.call.kind ≠ .secret ∧ e.call.kind ≠ .object
  created : Justified (Needed request) t
  posted : t.countP (·.call.kind = .event) ≤ 1
  told : Justified (Told h request) t

section Events

variable {h : Handler} {request : Request} {e : Exchange}

theorem Told.of_kind (other : e.call.kind ≠ .event) (before : List Exchange) :
    Told h request before e := fun event posts => absurd (by rw [posts]; rfl) other

theorem Posts.kind {reason : String} (posts : Posts reason e) : e.call.kind = .event := by
  obtain ⟨event, call, -⟩ := posts
  rw [call]
  rfl

theorem Posts.told {reason : String} (posts : Posts reason e) {before : List Exchange}
    (occasion : Occasion h request before reason) : Told h request before e := by
  obtain ⟨event, call, rfl⟩ := posts
  intro event' posted
  cases call.symm.trans posted
  exact occasion

theorem countP_event_eq_zero {t : List Exchange} (silent : ∀ e ∈ t, e.call.kind ≠ .event) :
    t.countP (·.call.kind = .event) = 0 := by
  rw [List.countP_eq_zero]
  simpa using silent

end Events

namespace Coursed

variable {h : Handler} {request : Request} {pod : Json} {t : List Exchange}
  {r : Except Fault Course}

theorem kinds (coursed : Coursed h request pod t r) :
    ∀ e ∈ t, e.call.kind ∈ [.space, .config, .event] := by
  cases coursed with
  | nameless e => exact nofun
  | unassigned named skips => simp
  | refused named assigned read =>
    cases read with
    | fault e => simp
    | told missing posts e => simp [posts.kind]
  | settled named assigned read follows =>
    cases read with
    | found valid => simp

theorem unconcerned (coursed : Coursed h request pod t r) :
    ∀ e ∈ t, e.call.kind ≠ .secret ∧ e.call.kind ≠ .object := by
  intro e among
  have kind := coursed.kinds e among
  constructor <;> intro other <;> rw [other] at kind <;> exact absurd kind (by decide)

theorem opening (coursed : Coursed h request pod t r) :
    (t = [] ∧ ∃ e, r = .error e) ∨ ∃ ns a rest, namespaceOf request pod = .ok ns ∧
      t = ⟨.readNamespace ns, a⟩ :: rest ∧
      (instance? a = none → rest = [] ∧ ∀ c, r = .ok c → c = .skip) := by
  cases coursed with
  | nameless e => exact .inl ⟨rfl, e, rfl⟩
  | unassigned named skips => exact .inr ⟨_, _, _, named, rfl, fun _ => ⟨rfl, skips⟩⟩
  | refused named assigned read | settled named assigned read follows =>
    refine .inr ⟨_, _, _, named, rfl, fun none => ?_⟩
    cases assigned.symm.trans none

theorem posted (coursed : Coursed h request pod t r) : t.countP (·.call.kind = .event) ≤ 1 := by
  cases coursed with
  | nameless e => simp
  | unassigned named skips => simp
  | refused named assigned read =>
    cases read with
    | fault e => simp
    | told missing posts e => simp [posts.kind]
  | settled named assigned read follows =>
    cases read with
    | found valid => simp

theorem told (coursed : Coursed h request pod t r) : Justified (Told h request) t := by
  have first : ∀ (ns : String) (a : Except Failure Namespace),
      Justified (Told h request) [⟨.readNamespace ns, a⟩] :=
    fun ns a => .singleton (.of_kind (by simp) [])
  cases coursed with
  | nameless e => exact .nil
  | unassigned named skips => exact first _ _
  | refused named assigned read =>
    refine Justified.append (first _ _) ?_
    cases read with
    | fault e => exact .singleton (.of_kind (by simp) _)
    | told missing posts e =>
      refine Justified.append (t := [_]) (.singleton (.of_kind (by simp) _)) ?_
      exact .singleton (posts.told (.missingConfig missing
        (List.mem_cons_of_mem _ List.mem_cons_self)))
  | settled named assigned read follows =>
    refine Justified.append (first _ _) ?_
    cases read with
    | found valid => exact .singleton (.of_kind (by simp) _)

theorem silent {c : Course} (coursed : Coursed h request pod t (.ok c)) :
    ∀ e ∈ t, e.call.kind ≠ .event := by
  cases coursed with
  | unassigned named skips => simp
  | settled named assigned read follows =>
    cases read with
    | found valid => simp

theorem known {c : Course} (coursed : Coursed h request pod t (.ok c)) (some : c ≠ .skip) :
    ∃ ns config, namespaceOf request pod = .ok ns ∧ Known h t config ∧ Settled pod ns config c := by
  cases coursed with
  | unassigned named skips => exact absurd (skips c rfl) some
  | @settled ns name a _ config _ named assigned read follows =>
    cases read with
    | @found resource _ valid =>
      exact ⟨ns, config, named, ⟨name, resource, by simp, valid⟩, follows c rfl⟩

end Coursed

namespace Followed

variable {h : Handler} {request : Request} {pod : Json} {t t' : List Exchange} {c : Course}
  {r : Except Fault (Patch × Outcome)}

theorem of_skip (followed : Followed h pod .skip t r) : t = [] := by
  cases followed with
  | idle skips => rfl

theorem kinds (followed : Followed h pod c t r) (other : ∀ ns config, c ≠ .inject ns config) :
    ∀ e ∈ t, e.call.kind = .event := by
  cases followed with
  | idle skips => exact nofun
  | failed asked backed e => exact absurd rfl (other _ _)
  | injected asked backed begun completed posts injects => exact absurd rfl (other _ _)
  | repaired some ran posts repairs => simp [posts.kind]

theorem silent_of_asked (asked : ∀ e ∈ t, e.call.kind ∈ [ApiCall.Kind.secret, .object]) :
    ∀ e ∈ t, e.call.kind ≠ .event := by
  intro e among posts
  have kind := asked e among
  rw [posts] at kind
  exact absurd kind (by decide)

theorem posted (followed : Followed h pod c t r) : t.countP (·.call.kind = .event) ≤ 1 := by
  cases followed with
  | idle skips => simp
  | failed asked backed e => simp [countP_event_eq_zero (silent_of_asked asked)]
  | injected asked backed begun completed posts injects =>
    rw [List.countP_append, countP_event_eq_zero (silent_of_asked asked)]
    simp [posts.kind]
  | repaired some ran posts repairs => simp [posts.kind]

theorem backed (followed : Followed h pod c t r) {ns : String}
    (inside : ∀ ns' config, c = .inject ns' config → ns' = ns) : Justified (Backed ns) t := by
  cases followed with
  | idle skips => exact .nil
  | failed asked backed e =>
    cases inside _ _ rfl
    exact backed
  | injected asked backed begun completed posts injects =>
    cases inside _ _ rfl
    exact Backed.append backed (.singleton (.of_kind (by simp [posts.kind]) []))
  | repaired some ran posts repairs => exact .singleton (.of_kind (by simp [posts.kind]) [])

theorem told (decoded : decode request.object = .ok pod)
    (coursed : Coursed h request pod t (.ok c)) (followed : Followed h pod c t' r) :
    Justified (fun before => Told h request (t ++ before)) t' := by
  cases followed with
  | idle skips => exact .nil
  | failed asked backed e =>
    exact .of_forall fun e among before => .of_kind (silent_of_asked asked e among) (t ++ before)
  | @injected ns config injection post wanted d d' _ asked backed begun completed posts injects =>
    obtain ⟨ns, config, named, known, settled⟩ := coursed.known nofun
    cases settled with
    | inject new =>
      refine Justified.append (.of_forall fun e among before => ?_) (.singleton ?_)
      · exact .of_kind (silent_of_asked asked e among) (t ++ before)
      · rw [List.append_nil]
        exact posts.told (.inject decoded named rfl known begun completed)
  | repaired some ran posts repairs =>
    obtain ⟨ns, config, named, known, settled⟩ := coursed.known nofun
    cases settled with
    | reinvoke marked =>
      refine .singleton ?_
      rw [List.append_nil]
      exact posts.told (.updatePod decoded known ran (repair_changed ran some))

end Followed

/-- What is backed in the namespace of the request was needed, whatever was done before. -/
theorem needed_of_backed {request : Request} {pod : Json} {ns : String} {t t' : List Exchange}
    (decoded : decode request.object = .ok pod) (named : namespaceOf request pod = .ok ns)
    (backed : Justified (Backed ns) t') :
    Justified (fun before => Needed request (t ++ before)) t' := by
  refine backed.mono fun before e _ backed m creates => ?_
  obtain ⟨rfl, ⟨which, known⟩, f, notFound, looked⟩ := backed m creates
  refine ⟨⟨pod, decoded, named⟩, ?_, f, notFound, List.mem_append_right t looked⟩
  rw [known]
  cases which <;> simp [SupportSecret.name]

theorem needed_of_coursed {h : Handler} {request : Request} {pod : Json} {t : List Exchange}
    {r : Except Fault Course} (coursed : Coursed h request pod t r) :
    Justified (Needed request) t := by
  refine .of_forall fun e among before m creates => ?_
  exact absurd (by rw [creates]; rfl) (coursed.unconcerned e among).1

theorem effects_nil (h : Handler) (request : Request) : Effects h request [] where
  undecoded _ _ := rfl
  opening := .inl rfl
  marked _ _ _ := nofun
  created := .nil
  posted := Nat.zero_le 1
  told := .nil

theorem effects_stopped {h : Handler} {request : Request} {pod : Json} {t : List Exchange}
    {e : Fault} (decoded : decode request.object = .ok pod)
    (coursed : Coursed h request pod t (.error e)) : Effects h request t where
  undecoded _ unread := nomatch decoded.symm.trans unread
  opening := coursed.opening.imp And.left fun ⟨ns, a, rest, named, same, lone⟩ =>
    ⟨pod, ns, a, rest, decoded, named, same, fun none => (lone none).1⟩
  marked _ _ _ := coursed.unconcerned
  created := needed_of_coursed coursed
  posted := coursed.posted
  told := coursed.told

theorem effects_followed {h : Handler} {request : Request} {pod : Json} {c : Course}
    {t t' : List Exchange} {r : Except Fault (Patch × Outcome)}
    (decoded : decode request.object = .ok pod) (coursed : Coursed h request pod t (.ok c))
    (followed : Followed h pod c t' r) : Effects h request (t ++ t') where
  undecoded _ unread := nomatch decoded.symm.trans unread
  opening := by
    obtain ⟨-, e, failed⟩ | ⟨ns, a, rest, named, rfl, lone⟩ := coursed.opening
    · cases failed
    · refine .inr ⟨pod, ns, a, rest ++ t', decoded, named, rfl, fun none => ?_⟩
      obtain ⟨rfl, skips⟩ := lone none
      cases skips c rfl
      exact followed.of_skip
  marked pod' decoded' marked := by
    cases decoded.symm.trans decoded'
    have other : ∀ ns config, c ≠ .inject ns config := by
      rintro ns config rfl
      obtain ⟨ns, config, named, known, settled⟩ := coursed.known nofun
      cases settled with
      | inject new => cases marked.symm.trans new
    intro e among
    rcases List.mem_append.mp among with before | after
    · exact coursed.unconcerned e before
    · rw [followed.kinds other e after]
      decide
  created := by
    refine Justified.append (needed_of_coursed coursed) ?_
    by_cases skipped : c = .skip
    · subst skipped
      rw [followed.of_skip]
      exact .nil
    · obtain ⟨ns, config, named, known, settled⟩ := coursed.known skipped
      refine needed_of_backed decoded named (followed.backed fun ns' config' same => ?_)
      subst same
      cases settled
      rfl
  posted := by
    rw [List.countP_append, countP_event_eq_zero coursed.silent, Nat.zero_add]
    exact followed.posted
  told := Justified.append coursed.told (followed.told decoded coursed)

theorem effects_of_decided {h : Handler} {request : Request} {t : List Exchange}
    {r : Except Fault (Patch × Outcome)} (decided : Decided h request t r) :
    Effects h request t := by
  cases decided with
  | undecoded e unread => exact effects_nil h request
  | stopped decoded coursed => exact effects_stopped decoded coursed
  | followed decoded coursed followed => exact effects_followed decoded coursed followed

end Handler

/-- Whatever the cluster does, the exchanges of an admission follow what was decided on the way. -/
theorem handle_effects {σ : Type} (answer : σ → (c : ApiCall) → Except Failure c.Answer × σ)
    (s : σ) (h : Handler) (request : Request) (deadline : Option Seconds) :
    Handler.Effects h request ((h.handle request deadline).trace answer s) := by
  have ran := (h.handle request deadline).transcript_trace answer s
  rcases Handler.handle_calls ran with ⟨none, -⟩ | ⟨r, report, decided, -⟩
  · rw [none]
    exact Handler.effects_nil h request
  · exact Handler.effects_of_decided decided

end PodInstrumentation.Admission
