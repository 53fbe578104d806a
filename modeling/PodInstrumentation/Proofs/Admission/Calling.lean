import PodInstrumentation.Proofs.Capability.Calling
/-!
The calls of an admission follow what is decided on the way. The namespace is read first, and only
if it names a configuration is that one read; secrets are created for pods that are injected, and an
event is posted once it is true. -/
namespace PodInstrumentation.Admission.Handler

open Pod

def instance? : Except Failure Namespace → Option String
  | .ok ⟨some (labels, _)⟩ => labels.lookup Names.instanceLabel
  | .ok ⟨none⟩ | .error _ => none

def Posts (reason : String) (e : Exchange) : Prop :=
  ∃ event, e.call = .createEvent event ∧ event.reason = reason

section Steps

variable {h : Handler} {t : List Exchange} {ns name : String}

theorem configName_calls {r : Except Fault String} (ran : (configName ns).Transcript t r) :
    ∃ a, t = [⟨.readNamespace ns, a⟩] ∧ ∀ name, r = .ok name → name = (instance? a).getD "" := by
  obtain ⟨a, t', rfl, rest⟩ := ran.ask_bind
  match a with
  | .ok ⟨some (labels, uid)⟩ =>
    obtain ⟨rfl, rfl⟩ := rest.pure
    exact ⟨_, rfl, fun _ same => (Except.ok.inj same).symm⟩
  | .ok ⟨none⟩ =>
    obtain ⟨rfl, rfl⟩ := rest.pure
    exact ⟨_, rfl, fun _ same => (Except.ok.inj same).symm⟩
  | .error f =>
    dsimp only at rest
    split at rest
    · obtain ⟨rfl, rfl⟩ := rest.fail
      exact ⟨_, rfl, nofun⟩
    · obtain ⟨rfl, rfl⟩ := rest.throw
      exact ⟨_, rfl, nofun⟩

theorem post_calls {involved : Json} {type reason message : String} {r : Except Fault Unit}
    (ran : (post involved type reason message).Transcript t r) :
    (t = [] ∧ ∃ e, r = .error e) ∨ ∃ e, t = [e] ∧ Posts reason e := by
  rcases ran.ofShaped_bind with ⟨rfl, e, rfl⟩ | ⟨event, about, rest⟩
  · exact .inl ⟨rfl, e, rfl⟩
  · obtain ⟨a, t', rfl, last⟩ := rest.ask_bind
    have ends : t' = [] := by
      cases a with
      | ok u => exact last.pure.1
      | error f =>
        dsimp only at last
        split at last
        · exact last.pure.1
        · exact last.throw.1
    have told : event.reason = reason := by
      obtain ⟨v, -, about⟩ := bind_eq_ok_iff.mp about
      obtain ⟨name, -, about⟩ := bind_eq_ok_iff.mp about
      obtain ⟨ns, -, about⟩ := bind_eq_ok_iff.mp about
      rw [← Except.ok.inj about]
    exact .inr ⟨_, by rw [ends], event, rfl, told⟩

theorem post_bind_calls {α : Type} {involved : Json} {type reason message : String}
    {x : Attempt α} {r : Except Fault α} (quiet : x.Asks [])
    (ran : (post involved type reason message >>= fun _ => x).Transcript t r) :
    (t = [] ∧ ∃ e, r = .error e) ∨
      ∃ e, t = [e] ∧ Posts reason e ∧ ((∃ e, r = .error e) ∨ x.Transcript [] r) := by
  rcases ran.bind with ⟨e, posted, rfl⟩ | ⟨u, t₁, t₂, rfl, posted, rest⟩
  · rcases post_calls posted with ⟨rfl, -⟩ | ⟨post, rfl, posts⟩
    · exact .inl ⟨rfl, e, rfl⟩
    · exact .inr ⟨post, rfl, posts, .inl ⟨e, rfl⟩⟩
  · obtain rfl := rest.eq_nil quiet
    rcases post_calls posted with ⟨rfl, e, failed⟩ | ⟨post, rfl, posts⟩
    · cases failed
    · exact .inr ⟨post, rfl, posts, .inr rest⟩

inductive ConfigRead (h : Handler) (name : String) :
    List Exchange → Except Fault MonitoringConfig → Prop
  | found {resource : Json} {config : MonitoringConfig}
      (valid : MonitoringConfig.ofResource resource = .ok config) :
      ConfigRead h name [⟨.readConfig name h.injector.provisioner.ns, .ok resource⟩] (.ok config)
  | fault {a : Except Failure Json} (e : Fault) :
      ConfigRead h name [⟨.readConfig name h.injector.provisioner.ns, a⟩] (.error e)
  | told {f : Failure} {post : Exchange} (missing : f.isNotFound = true)
      (posts : Posts "MissingConfig" post) (e : Fault) :
      ConfigRead h name [⟨.readConfig name h.injector.provisioner.ns, .error f⟩, post] (.error e)

theorem readConfig_calls {r : Except Fault MonitoringConfig}
    (ran : (h.readConfig ns name).Transcript t r) : ConfigRead h name t r := by
  obtain ⟨a, t', rfl, rest⟩ := ran.ask_bind
  cases a with
  | ok resource =>
    dsimp only at rest
    cases checked : MonitoringConfig.ofResource resource with
    | ok config =>
      rw [checked] at rest
      obtain ⟨rfl, rfl⟩ := rest.pure
      exact .found checked
    | error e =>
      rw [checked] at rest
      cases e with
      | misshapen =>
        obtain ⟨rfl, rfl⟩ := rest.throw
        exact .fault _
      | invalid issues =>
        obtain ⟨rfl, rfl⟩ := rest.fail
        exact .fault _
  | error f =>
    dsimp only at rest
    split at rest
    · rename_i missing
      rcases post_bind_calls (.throw _) rest with
        ⟨rfl, e, rfl⟩ | ⟨post, rfl, posts, ⟨e, rfl⟩ | ⟨-, rfl⟩⟩
      · exact .fault e
      · exact .told missing posts e
      · exact .told missing posts _
    · split at rest
      · obtain ⟨rfl, rfl⟩ := rest.fail
        exact .fault _
      · obtain ⟨rfl, rfl⟩ := rest.throw
        exact .fault _

end Steps

inductive Settled (pod : Json) (ns : String) (config : MonitoringConfig) : Course → Prop
  | skip : Settled pod ns config .skip
  | inject (new : isInjected pod = .ok false) : Settled pod ns config (.inject ns config)
  | reinvoke (marked : isInjected pod = .ok true) : Settled pod ns config (.reinvoke ns config)

inductive Coursed (h : Handler) (request : Request) (pod : Json) :
    List Exchange → Except Fault Course → Prop
  | nameless (e : Fault) : Coursed h request pod [] (.error e)
  | unassigned {ns : String} {a : Except Failure Namespace} {r : Except Fault Course}
      (named : namespaceOf request pod = .ok ns) (skips : ∀ c, r = .ok c → c = .skip) :
      Coursed h request pod [⟨.readNamespace ns, a⟩] r
  | refused {ns name : String} {a : Except Failure Namespace} {t : List Exchange} {e : Fault}
      (named : namespaceOf request pod = .ok ns) (assigned : instance? a = some name)
      (read : ConfigRead h name t (.error e)) :
      Coursed h request pod (⟨.readNamespace ns, a⟩ :: t) (.error e)
  | settled {ns name : String} {a : Except Failure Namespace} {t : List Exchange}
      {config : MonitoringConfig} {r : Except Fault Course}
      (named : namespaceOf request pod = .ok ns) (assigned : instance? a = some name)
      (read : ConfigRead h name t (.ok config))
      (follows : ∀ c, r = .ok c → Settled pod ns config c) :
      Coursed h request pod (⟨.readNamespace ns, a⟩ :: t) r

theorem course_calls {h : Handler} {request : Request} {pod : Json} {t : List Exchange}
    {r : Except Fault Course} (ran : (h.course request pod).Transcript t r) :
    Coursed h request pod t r := by
  rcases ran.ofShaped_bind with ⟨rfl, e, rfl⟩ | ⟨ns, named, ran₁⟩
  · exact .nameless e
  rcases ran₁.bind with ⟨e, asked, rfl⟩ | ⟨name, t₁, t₂, rfl, asked, ran₂⟩
  · obtain ⟨a, rfl, -⟩ := configName_calls asked
    exact .unassigned named (by rintro _ ⟨⟩)
  obtain ⟨a, rfl, told⟩ := configName_calls asked
  have label := told name rfl
  split at ran₂
  · obtain ⟨rfl, rfl⟩ := ran₂.pure
    exact .unassigned named fun c same => (Except.ok.inj same).symm
  rename_i assigned
  have given : instance? a = some name := by
    cases known : instance? a with
    | none =>
      rw [known] at label
      exact absurd label assigned
    | some given =>
      rw [known] at label
      exact congrArg some label.symm
  rcases ran₂.bind with ⟨e, read, rfl⟩ | ⟨config, t₃, t₄, rfl, read, ran₃⟩
  · exact .refused named given (readConfig_calls read)
  -- Nothing is asked after the configuration is read: what is left only chooses a course.
  have ended : t₄ = [] ∧ ∀ c, r = .ok c → Settled pod ns config c := by
    split at ran₃
    · obtain ⟨rfl, rfl⟩ := ran₃.pure
      exact ⟨rfl, fun c same => Except.ok.inj same ▸ .skip⟩
    · rcases ran₃.ofShaped_bind with ⟨rfl, e, rfl⟩ | ⟨marked, looked, ran₄⟩
      · exact ⟨rfl, by rintro _ ⟨⟩⟩
      · cases marked with
        | true =>
          rw [if_pos rfl] at ran₄
          obtain ⟨rfl, result⟩ := ran₄.pure
          refine ⟨rfl, fun c same => ?_⟩
          have chosen := Except.ok.inj (result.symm.trans same)
          split at chosen <;> subst chosen
          · exact .reinvoke looked
          · exact .skip
        | false =>
          rw [if_neg Bool.false_ne_true] at ran₄
          obtain ⟨rfl, rfl⟩ := ran₄.pure
          exact ⟨rfl, fun c same => Except.ok.inj same ▸ .inject looked⟩
  obtain ⟨rfl, follows⟩ := ended
  rw [List.append_nil]
  exact .settled named given (readConfig_calls read) follows

structure Begun (h : Handler) (pod : Json) (wanted : List Capability) (d : Draft) : Prop where
  wanted : Capability.wanted pod h.capabilities = .ok wanted
  volume : addConfigVolume pod = .ok d.pod

theorem injectedPod_calls {h : Handler} {ns : String} {config : MonitoringConfig} {pod : Json}
    {t : List Exchange} {r : Except Fault Json}
    (ran : (h.injectedPod ns config pod).Transcript t r) : Justified (Backed ns) t ∧
      ∀ pod', r = .ok pod' → ∃ wanted d d', Begun h pod wanted d ∧
        Completed h.injector config ns wanted d t d' := by
  rcases ran.ofShaped_bind with ⟨rfl, e, rfl⟩ | ⟨installer, -, ran₁⟩
  · exact ⟨.nil, nofun⟩
  rcases ran₁.ofShaped_bind with ⟨rfl, e, rfl⟩ | ⟨pod₀, volume, ran₂⟩
  · exact ⟨.nil, nofun⟩
  rcases ran₂.bind with ⟨e, lifted, rfl⟩ | ⟨⟨result, d'⟩, t₁, t₂, rfl, lifted, ran₃⟩
  · obtain ⟨a, -, same⟩ := lifted.lift
    cases same
  obtain ⟨a, injected, same⟩ := lifted.lift
  cases same
  obtain ⟨backed, complete⟩ := inject_calls injected
  have ends : t₂ = [] := by
    cases result with
    | error e => exact ran₃.throw.1
    | ok names => exact ran₃.ofShaped.1
  subst ends
  rw [List.append_nil]
  refine ⟨backed, fun pod' ok => ?_⟩
  subst ok
  cases result with
  | error e => cases ran₃.throw.2
  | ok names =>
    obtain ⟨wanted, wants, completed⟩ := complete names rfl
    rw [Capability.wanted_of_annotations (annotations_addConfigVolume volume)] at wants
    exact ⟨wanted, ⟨pod₀, installer⟩, d', ⟨wants, volume⟩, completed⟩

inductive Followed (h : Handler) (pod : Json) :
    Course → List Exchange → Except Fault (Patch × Outcome) → Prop
  | idle {c : Course} {r : Except Fault (Patch × Outcome)}
      (skips : ∀ d, r = .ok d → d.2 = .skipped) : Followed h pod c [] r
  | failed {ns : String} {config : MonitoringConfig} {t : List Exchange}
      (asked : ∀ e ∈ t, e.call.kind ∈ [.secret, .object]) (backed : Justified (Backed ns) t)
      (e : Fault) : Followed h pod (.inject ns config) t (.error e)
  | injected {ns : String} {config : MonitoringConfig} {t : List Exchange} {post : Exchange}
      {wanted : List Capability} {d d' : Draft} {r : Except Fault (Patch × Outcome)}
      (asked : ∀ e ∈ t, e.call.kind ∈ [.secret, .object]) (backed : Justified (Backed ns) t)
      (begun : Begun h pod wanted d) (completed : Completed h.injector config ns wanted d t d')
      (posts : Posts "Inject" post) (injects : ∀ d, r = .ok d → d.2 = .injected) :
      Followed h pod (.inject ns config) (t ++ [post]) r
  | repaired {ns : String} {config : MonitoringConfig} {pod' : Json} {n : Nat} {post : Exchange}
      {r : Except Fault (Patch × Outcome)} (some : n ≠ 0)
      (ran : repair h.injector config h.capabilities pod = (.ok n, pod'))
      (posts : Posts "UpdatePod" post) (repairs : ∀ d, r = .ok d → d.2 = .reinvoked) :
      Followed h pod (.reinvoke ns config) [post] r

theorem freshPatch_calls {h : Handler} {ns : String} {config : MonitoringConfig} {pod : Json}
    {t : List Exchange} {r : Except Fault (Patch × Outcome)}
    (ran : (h.freshPatch ns config pod).Transcript t r) :
    Followed h pod (.inject ns config) t r := by
  rcases ran.ofShaped_bind with ⟨rfl, e, rfl⟩ | ⟨wanted, wants, ran₁⟩
  · exact .idle nofun
  split at ran₁
  · obtain ⟨rfl, rfl⟩ := ran₁.pure
    refine .idle fun d same => ?_
    cases same
    rfl
  rcases ran₁.bind with ⟨e, injected, rfl⟩ | ⟨pod', t₁, t₂, rfl, injected, ran₂⟩
  · exact .failed (injected.kind_mem (h.asks_injectedPod ns config pod))
      (injectedPod_calls injected).1 e
  have asked := injected.kind_mem (h.asks_injectedPod ns config pod)
  obtain ⟨backed, complete⟩ := injectedPod_calls injected
  obtain ⟨wanted', d, d', begun, completed⟩ := complete pod' rfl
  have failed : ∀ e, Followed h pod (.inject ns config) (t₁ ++ []) (.error e) := by
    rw [List.append_nil]
    exact .failed asked backed
  rcases ran₂.ofShaped_bind with ⟨rfl, e, rfl⟩ | ⟨base, -, ran₃⟩
  · exact failed e
  rcases ran₃.ofShaped_bind with ⟨rfl, e, rfl⟩ | ⟨reference, -, ran₄⟩
  · exact failed e
  rcases post_bind_calls (.pure _) ran₄ with
    ⟨rfl, e, rfl⟩ | ⟨post, rfl, posts, ⟨e, rfl⟩ | ⟨-, rfl⟩⟩
  · exact failed e
  · exact .injected asked backed begun completed posts nofun
  · refine .injected asked backed begun completed posts fun d same => ?_
    cases same
    rfl

theorem repairedPatch_calls {ns : String} {pod pod' : Json} {t : List Exchange}
    {r : Except Fault (Patch × Outcome)} (ran : (repairedPatch ns pod pod').Transcript t r) :
    (t = [] ∧ ∃ e, r = .error e) ∨
      ∃ post, t = [post] ∧ Posts "UpdatePod" post ∧ ∀ d, r = .ok d → d.2 = .reinvoked := by
  rcases ran.ofShaped_bind with failed | ⟨metadata, -, ran₁⟩
  · exact .inl failed
  rcases ran₁.ofShaped_bind with failed | ⟨reference, -, ran₂⟩
  · exact .inl failed
  rcases post_bind_calls (.pure _) ran₂ with
    failed | ⟨post, rfl, posts, ⟨e, rfl⟩ | ⟨-, rfl⟩⟩
  · exact .inl failed
  · exact .inr ⟨post, rfl, posts, nofun⟩
  · refine .inr ⟨post, rfl, posts, fun d same => ?_⟩
    cases same
    rfl

theorem follow_calls {h : Handler} {pod : Json} {c : Course} {t : List Exchange}
    {decided : Nat × Except Fault (Patch × Outcome)}
    (ran : (h.follow pod c).Transcript t decided) : Followed h pod c t decided.2 := by
  cases c with
  | skip =>
    obtain ⟨rfl, rfl⟩ := ran
    refine .idle fun d same => ?_
    cases same
    rfl
  | inject ns config =>
    obtain ⟨t₁, r, t₂, rfl, fresh, rfl, rfl⟩ := Interaction.Transcript.bind ran
    rw [List.append_nil]
    exact freshPatch_calls fresh
  | reinvoke ns config =>
    unfold follow at ran
    dsimp only at ran
    rcases repaired : repair h.injector config h.capabilities pod with ⟨count, pod'⟩
    rw [repaired] at ran
    match count with
    | .error e =>
      obtain ⟨rfl, rfl⟩ := ran
      exact .idle nofun
    | .ok 0 =>
      obtain ⟨rfl, rfl⟩ := ran
      refine .idle fun d same => ?_
      cases same
      rfl
    | .ok (n + 1) =>
      obtain ⟨t₁, r, t₂, rfl, told, rfl, rfl⟩ := Interaction.Transcript.bind ran
      rw [List.append_nil]
      rcases repairedPatch_calls told with ⟨rfl, e, rfl⟩ | ⟨post, rfl, posts, outcome⟩
      · exact .idle nofun
      · exact .repaired (Nat.succ_ne_zero n) repaired posts outcome

inductive Decided (h : Handler) (request : Request) :
    List Exchange → Except Fault (Patch × Outcome) → Prop
  | undecoded {e : InjectionError} (e' : Fault) (unread : decode request.object = .error e) :
      Decided h request [] (.error e')
  | stopped {pod : Json} {t : List Exchange} {e : Fault}
      (decoded : decode request.object = .ok pod) (coursed : Coursed h request pod t (.error e)) :
      Decided h request t (.error e)
  | followed {pod : Json} {c : Course} {t t' : List Exchange}
      {r : Except Fault (Patch × Outcome)} (decoded : decode request.object = .ok pod)
      (coursed : Coursed h request pod t (.ok c)) (followed : Followed h pod c t' r) :
      Decided h request (t ++ t') r

theorem decide_calls {h : Handler} {request : Request} {t : List Exchange}
    {decided : Nat × Except Fault (Patch × Outcome)}
    (ran : (h.decide request).Transcript t decided) : Decided h request t decided.2 := by
  unfold decide at ran
  cases decoded : decode request.object with
  | error e =>
    rw [decoded] at ran
    obtain ⟨rfl, rfl⟩ := ran
    exact .undecoded _ decoded
  | ok pod =>
    rw [decoded] at ran
    obtain ⟨t₁, c, t₂, rfl, coursed, rest⟩ := Interaction.Transcript.bind ran
    cases c with
    | error e =>
      obtain ⟨rfl, rfl⟩ := rest
      rw [List.append_nil]
      exact .stopped decoded (course_calls coursed)
    | ok c => exact .followed decoded (course_calls coursed) (follow_calls rest)

def outcomeOf : Except Fault (Patch × Outcome) → Outcome
  | .ok d => d.2
  | .error _ => .softFailed

theorem conclude_outcome (request : Request) (deadline : Option Seconds) (name : Json) (n : Nat)
    (r : Except Fault (Patch × Outcome)) :
    (conclude request deadline name n r).outcome = outcomeOf r := by
  cases r <;> rfl

/-- A request is not answered and no call made for it, or it is answered by what was decided. -/
theorem handle_calls {h : Handler} {request : Request} {deadline : Option Seconds}
    {t : List Exchange} {answered : Shaped Report}
    (ran : (h.handle request deadline).Transcript t answered) :
    (t = [] ∧ ∃ e, answered = .error e) ∨ ∃ r report, Decided h request t r ∧
      answered = .ok report ∧ report.outcome = outcomeOf r := by
  unfold handle at ran
  cases named : podName request with
  | error e =>
    rw [named] at ran
    exact .inl ⟨ran.1, e, ran.2⟩
  | ok name =>
    rw [named] at ran
    obtain ⟨t₁, ⟨n, r⟩, t₂, rfl, decided, rfl, rfl⟩ := Interaction.Transcript.bind ran
    rw [List.append_nil]
    refine .inr ⟨r, _, decide_calls decided, rfl, ?_⟩
    rw [← conclude_outcome request deadline name n r]
    split <;> rfl

end PodInstrumentation.Admission.Handler
