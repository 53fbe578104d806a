import PodInstrumentation.Operator.Listener
import PodInstrumentation.Operator.Startup
/-!
What is brought up and taken down again: the services of the operator from its start to its end,
and the runner and the site of a server that listens. Whatever can be taken down is, in the
opposite order; what cannot be keeps the rest of it up. -/
namespace PodInstrumentation

theorem ConnectionSource.tried_eq (loads : ConnectionSource → Bool)
    (sources : List ConnectionSource) : tried loads sources =
      sources.takeWhile (!loads ·) ++ (sources.find? loads).toList := by
  induction sources with
  | nil => rfl
  | cons s r ih => cases here : loads s <;> simp [tried, here, ih]

variable {σ α β : Type} {answer : σ → (c : ApiCall) → Except Failure c.Answer × σ}

theorem Bootstrap.run_bind (x : Bootstrap α) (f : α → Bootstrap β) (s : σ) :
    (x >>= f).run.run answer s = match x.run.run answer s with
      | (.ok a, s') => (f a).run.run answer s'
      | (.error e, s') => (.error e, s') := by
  have h : (x >>= f).run.run answer s = Interaction.run answer
      (ExceptT.bindCont f (x.run.run answer s).1) (x.run.run answer s).2 :=
    Interaction.run_bind answer x.run _ s
  rw [h]
  rcases x.run.run answer s with ⟨a, s'⟩
  cases a <;> rfl

namespace Steps

variable {ε τ α β : Type}

def play (x : ExceptT ε (StateM τ) α) (t : τ) : Except ε α × τ := x.run.run t

theorem play_bind (x : ExceptT ε (StateM τ) α) (f : α → ExceptT ε (StateM τ) β) (t : τ) :
    play (x >>= f) t = match play x t with
      | (.ok a, t') => play (f a) t'
      | (.error e, t') => (.error e, t') := by
  show (ExceptT.bindCont f (play x t).1).run (play x t).2 = _
  rcases play x t with ⟨r, t'⟩
  cases r <;> rfl

theorem play_modify (f : τ → τ) (t : τ) :
    play (modify f : ExceptT ε (StateM τ) PUnit) t = (.ok (), f t) := rfl

theorem play_pure (a : α) (t : τ) : play (pure a : ExceptT ε (StateM τ) α) t = (.ok a, t) := rfl

theorem play_throw (e : ε) (t : τ) :
    play (throw e : ExceptT ε (StateM τ) α) t = (.error e, t) := rfl

theorem play_get (t : τ) : play (get : ExceptT ε (StateM τ) τ) t = (.ok t, t) := rfl

theorem play_tryCatch (x : ExceptT ε (StateM τ) α) (f : ε → ExceptT ε (StateM τ) α) (t : τ) :
    play (tryCatch x f) t = match play x t with
      | (.ok a, t') => (.ok a, t')
      | (.error e, t') => play (f e) t' := by
  unfold play
  rw [ExceptT.run_tryCatch, StateT.run_bind]
  rcases x.run.run t with ⟨r, t'⟩
  cases r <;> rfl

end Steps

namespace Operator

namespace Startup

def play (answer : σ → (c : ApiCall) → Except Failure c.Answer × σ) (x : Startup α) (r : Running)
    (s : σ) : (Except StartError α × Running) × σ :=
  (x.run.run r).run answer s

theorem play_bind (x : Startup α) (f : α → Startup β) (r : Running) (s : σ) :
    (x >>= f).play answer r s = match x.play answer r s with
      | ((.ok a, r'), s') => (f a).play answer r' s'
      | ((.error e, r'), s') => ((.error e, r'), s') := by
  have h : (x >>= f).play answer r s =
      Interaction.run answer ((ExceptT.bindCont f (x.play answer r s).1.1).run
        (x.play answer r s).1.2) (x.play answer r s).2 :=
    Interaction.run_bind answer (x.run.run r) _ s
  rw [h]
  rcases x.play answer r s with ⟨⟨a, r'⟩, s'⟩
  cases a <;> rfl

@[simp] theorem play_note (a : Action) (r : Running) (s : σ) :
    (note a).play answer r s = ((.ok (), r.note a), s) := rfl

@[simp] theorem play_resolve (b : Bootstrap α) (r : Running) (s : σ) :
    (resolve b).play answer r s = (((b.run.run answer s).1, r), (b.run.run answer s).2) :=
  Interaction.run_bind answer b.run _ s

theorem play_startService (fails : Bool) (sv : Service) (r : Running) (s : σ) :
    (startService fails sv).play answer r s =
      if fails then ((.error .server, r.note (.start sv)), s)
      else ((.ok (), (r.note (.start sv)).keep sv), s) := by
  cases fails <;> rfl

theorem play_tryService (fails : Bool) (sv : Service) (r : Running) (s : σ) :
    (tryCatch (startService fails sv) fun _ => pure ()).play answer r s =
      if fails then ((.ok (), r.note (.start sv)), s)
      else ((.ok (), (r.note (.start sv)).keep sv), s) := by
  cases fails <;> rfl

end Startup

def opening (settings : Settings) : List Action :=
  [.setUpTracing (tracingOptions settings), .connect settings.requestTimeout]

def works (settings : Settings) (image : String) (clusterId : Option String) : List Action := [
  .makeMetricsServer settings.metricsHost settings.metricsPort, .start .metrics,
  .makeHandler image settings.operatorNs clusterId settings.maxDepth,
  .makeWebhookServer settings.injectionHost settings.injectionPort settings.certDir,
  .start .webhook]

/-- What a start needs to know. -/
def needed (settings : Settings) : Bootstrap (String × Option String) := do
  let image ← Bootstrap.image settings
  return (image, ← Bootstrap.clusterId)

/-- A start that does not find out what it needs brings nothing up. Any other one makes and starts
both services, and it failed only if the webhook did. -/
theorem start_play (settings : Settings) (fails : Service → Bool) (s : σ) :
    (start settings fails).play answer .idle s =
      match (needed settings).run.run answer s with
      | (.error e, s') => ((.error e, ⟨opening settings, []⟩), s')
      | (.ok (image, clusterId), s') =>
        ((if fails .webhook then .error .server else .ok (),
          ⟨opening settings ++ works settings image clusterId,
            [.metrics, .webhook].filter (!fails ·)⟩), s') := by
  simp only [needed, Bootstrap.run_bind]
  rcases named : (Bootstrap.image settings).run.run answer s with ⟨e | image, s'⟩
  · simp only [start, Startup.play_bind, Startup.play_note, Startup.play_resolve, named]
    rfl
  rcases known : Bootstrap.clusterId.run.run answer s' with ⟨e | clusterId, s''⟩
  · simp only [start, Startup.play_bind, Startup.play_note, Startup.play_resolve, named, known]
    rfl
  · simp only [start, Startup.play_bind, Startup.play_note, Startup.play_resolve,
      Startup.play_tryService, Startup.play_startService, named, known]
    cases metrics : fails .metrics <;> cases webhook : fails .webhook <;>
      simp [metrics, webhook] <;> rfl

/-- Whether the metrics server comes up makes no difference to how the start ends, to what is
done in it, or to the cluster. -/
theorem start_regardless (settings : Settings) {fails fails' : Service → Bool}
    (same : fails .webhook = fails' .webhook) (s : σ) :
    let began := (start settings fails).play answer .idle s
    let began' := (start settings fails').play answer .idle s
    began.1.1 = began'.1.1 ∧ began.1.2.done = began'.1.2.done ∧ began.2 = began'.2 := by
  rw [start_play, start_play]
  rcases (needed settings).run.run answer s with ⟨e | ⟨image, clusterId⟩, s'⟩
  · exact ⟨rfl, rfl, rfl⟩
  · exact ⟨by simp only [same], rfl, rfl⟩

open Steps

theorem play_stopService (fails : Service → Bool) (sv : Service) (r : Running) :
    play (stopService fails sv) r =
      if sv ∈ r.services then (if fails sv then .error .server else .ok (), r.note (.stop sv))
      else (.ok (), r) := by
  rw [stopService, play_bind, play_get]
  by_cases up : sv ∈ r.services
  · dsimp only
    rw [if_pos (List.contains_iff_mem.mpr up), if_pos up, play_bind, play_modify]
    cases fails sv <;> rfl
  · dsimp only
    rw [if_neg (mt List.contains_iff_mem.mp up), if_neg up, play_pure]

/-- The operator ends as it should exactly if all services that are up can be stopped. They are
stopped then, the webhook first, and tracing after them. -/
theorem cleanUp_play (fails : Service → Bool) (r : Running) :
    ((play (cleanUp fails) r).1 = .ok () ↔ ∀ sv ∈ r.services, fails sv = false) ∧
    ((play (cleanUp fails) r).1 = .ok () → (play (cleanUp fails) r).2.done = r.done ++
      .cleanUp :: (([.webhook, .metrics].filter (· ∈ r.services)).map .stop ++
        [.shutDownTracing])) := by
  have each : (∀ sv ∈ r.services, fails sv = false) ↔
      (.webhook ∈ r.services → fails .webhook = false) ∧
        (.metrics ∈ r.services → fails .metrics = false) :=
    ⟨fun all => ⟨all _, all _⟩, fun both sv up => match sv with
      | .webhook => both.1 up
      | .metrics => both.2 up⟩
  rw [each]
  simp only [cleanUp, play_bind, play_modify, play_stopService]
  by_cases webhook : .webhook ∈ r.services <;> by_cases metrics : .metrics ∈ r.services <;>
    cases fails .webhook <;> cases fails .metrics <;> simp [webhook, metrics, Running.note]

theorem start_services (settings : Settings) (fails : Service → Bool) (s : σ) :
    let up := ((start settings fails).play answer .idle s).1.2
    up.services = [] ∨ up.services = [.metrics, .webhook].filter (!fails ·) ∧
      ∀ sv, .start sv ∈ up.done := by
  rw [start_play]
  rcases (needed settings).run.run answer s with ⟨e | ⟨image, clusterId⟩, s'⟩
  · exact .inl rfl
  · refine .inr ⟨rfl, fun sv => ?_⟩
    cases sv <;> simp [works]

/-- The services that came up were started and did not fail. At its end the operator stops them,
the last one first, and shuts tracing down behind them, unless one of them cannot be stopped. -/
theorem started_stopped (settings : Settings) (fails stuck : Service → Bool) (s : σ) :
    let up := ((start settings fails).play answer .idle s).1.2
    (∀ sv ∈ up.services, .start sv ∈ up.done ∧ fails sv = false) ∧
    ((play (cleanUp stuck) up).1 = .ok () ↔ ∀ sv ∈ up.services, stuck sv = false) ∧
    ((play (cleanUp stuck) up).1 = .ok () → (play (cleanUp stuck) up).2.done = up.done ++
      .cleanUp :: (up.services.reverse.map .stop ++ [.shutDownTracing])) := by
  intro up
  have services : up.services = [] ∨ up.services = [.metrics, .webhook].filter (!fails ·) ∧
      ∀ sv, .start sv ∈ up.done := start_services settings fails s
  obtain ⟨fine, stops⟩ := cleanUp_play stuck up
  have opposite : [.webhook, .metrics].filter (· ∈ up.services) = up.services.reverse := by
    rcases services with none | ⟨all, -⟩
    · rw [none]
      rfl
    · rw [all]
      cases metrics : fails .metrics <;> cases webhook : fails .webhook <;>
        simp [metrics, webhook]
  refine ⟨fun sv here => ?_, fine, opposite ▸ stops⟩
  rcases services with none | ⟨all, done⟩
  · exact absurd (none ▸ here) List.not_mem_nil
  · have counted := List.mem_filter.mp (all ▸ here)
    exact ⟨done sv, by simpa using counted.2⟩

end Operator

namespace Listener

open Steps

variable {w : Surroundings} {l : Listener}

theorem play_call (w : Surroundings) (c : ListenerCall) (l : Listener) :
    play (call w c) l = (if w.fails c then .error (.failed c) else .ok (),
      { l with calls := l.calls ++ [c] }) := by
  unfold play call
  cases w.fails c <;> rfl

theorem play_takeDown (w : Surroundings) (l : Listener) :
    play (takeDown w) l =
      if l.site && w.fails .stopSite then
        (.error (.failed .stopSite), { l with calls := l.calls ++ [.stopSite] })
      else
        let l' : Listener := { l with
          site := false
          calls := l.calls ++ if l.site then [.stopSite] else [] }
        if l.runner && w.fails .cleanUpRunner then
          (.error (.failed .cleanUpRunner), { l' with calls := l'.calls ++ [.cleanUpRunner] })
        else (.ok (), { l' with
          runner := false
          calls := l'.calls ++ if l.runner then [.cleanUpRunner] else [] }) := by
  obtain ⟨runner, site, calls⟩ := l
  cases runner <;> cases site <;> cases stuck : w.fails .stopSite <;>
    cases dirty : w.fails .cleanUpRunner <;>
    simp [takeDown, play_pure, play_get, play_bind, play_call, play_modify, stuck, dirty]

structure Starts (w : Surroundings) : Prop where
  calls : ∀ c ∈ [ListenerCall.makeRunner, .setUpRunner, .makeSite, .startSite], w.fails c = false
  certificate : w.certificate ≠ .unusable

structure Loose (w : Surroundings) : Prop where
  site : w.fails .stopSite = false
  runner : w.fails .cleanUpRunner = false

theorem start_of_starts (starts : Starts w) (l : Listener) :
    play (start w) l = (.ok (), ⟨true, true,
      l.calls ++ [.makeRunner, .setUpRunner, .makeSite, .startSite]⟩) := by
  have fine := starts.calls
  simp only [List.forall_mem_cons] at fine
  simp [start, play_bind, play_call, play_modify, starts.certificate, fine]

theorem stop_fine (w : Surroundings) (l : Listener) : (play (stop w) l).1 = .ok () := by
  rw [stop, play_tryCatch]
  rcases play (takeDown w) l with ⟨r, l'⟩
  cases r <;> rfl

theorem stop_of_loose (loose : Loose w) (l : Listener) :
    play (stop w) l = (.ok (), ⟨false, false, l.calls ++
      ((if l.site then [.stopSite] else []) ++ if l.runner then [.cleanUpRunner] else [])⟩) := by
  rw [stop, play_tryCatch, play_takeDown]
  simp [loose.site, loose.runner]

/-- A server that started is taken down however serving ends, which is also how the run ends. -/
theorem run_of_starts (starts : Starts w) (loose : Loose w) (l : Listener) :
    play (run w) l = (if w.fails .serve then .error (.failed .serve) else .ok (),
      ⟨false, false, l.calls ++ [.makeRunner, .setUpRunner, .makeSite, .startSite, .serve,
        .stopSite, .cleanUpRunner]⟩) := by
  rw [run, play_bind, start_of_starts starts]
  simp only [play_bind, play_tryCatch, play_call]
  cases w.fails .serve <;> simp [stop_of_loose loose, play_throw]

end Listener

end PodInstrumentation
