import PodInstrumentation.Proofs.Admission.Effects
import PodInstrumentation.Proofs.Admission.Independence
/-!
Dry runs. That a request is one is read of the review and kept with the request, as its operation
is, but handling it does not look there: what is written for any other request is written for a dry
run too. -/
namespace PodInstrumentation

def ApiCall.writes : ApiCall → Bool
  | createSecret _ | createEvent _ => true
  | readNamespace _ | readConfig .. | readSecret .. | readObject _ | readPod .. => false

theorem ApiCall.kind_of_writes {c : ApiCall} (writes : c.writes = true) :
    c.kind = .secret ∨ c.kind = .event := by
  cases c with
  | createSecret m => exact .inl rfl
  | createEvent e => exact .inr rfl
  | readNamespace | readConfig | readSecret | readObject | readPod => cases writes

namespace Admission

namespace Handler

structure WritesBy (t : List Exchange) (outcome : Outcome) : Prop where
  /-- Nothing is written for a pod that is let through as it is. -/
  skipped : outcome = .skipped → ∀ e ∈ t, e.call.writes = false
  injected : outcome = .injected → ∃ before post, t = before ++ [post] ∧ Posts "Inject" post
  reinvoked : outcome = .reinvoked → ∃ before post, t = before ++ [post] ∧ Posts "UpdatePod" post

variable {h : Handler} {request : Request} {pod : Json} {t t' : List Exchange}

theorem Coursed.writes_nothing {c : Course} (coursed : Coursed h request pod t (.ok c)) :
    ∀ e ∈ t, e.call.writes = false := by
  intro e among
  refine Bool.eq_false_iff.mpr fun writes => ?_
  rcases ApiCall.kind_of_writes writes with secret | event
  · exact (coursed.unconcerned e among).1 secret
  · exact coursed.silent e among event

theorem writesBy_of_followed {c : Course} {d : Patch × Outcome}
    (coursed : Coursed h request pod t (.ok c)) (followed : Followed h pod c t' (.ok d)) :
    WritesBy (t ++ t') d.2 := by
  cases followed with
  | idle skips =>
    rw [List.append_nil, skips d rfl]
    exact ⟨fun _ => coursed.writes_nothing, nofun, nofun⟩
  | injected asked backed begun completed posts injects =>
    rw [← List.append_assoc, injects d rfl]
    exact ⟨nofun, fun _ => ⟨_, _, rfl, posts⟩, nofun⟩
  | repaired some ran posts repairs =>
    rw [repairs d rfl]
    exact ⟨nofun, nofun, fun _ => ⟨_, _, rfl, posts⟩⟩

theorem writesBy_of_decided {r : Except Fault (Patch × Outcome)}
    (decided : Decided h request t r) : WritesBy t (outcomeOf r) := by
  cases decided with
  | undecoded e unread => exact ⟨nofun, nofun, nofun⟩
  | stopped decoded coursed => exact ⟨nofun, nofun, nofun⟩
  | followed decoded coursed followed =>
    cases r with
    | error e => exact ⟨nofun, nofun, nofun⟩
    | ok d => exact writesBy_of_followed coursed followed

end Handler

/-- A dry run asks and answers what the same request asks and answers that is none. It writes
nothing if the pod is skipped, and ends with an event if the pod is changed. -/
theorem dry_run_as_any {σ : Type} (answer : σ → (c : ApiCall) → Except Failure c.Answer × σ)
    (s : σ) (h : Handler) (request : Request) (deadline : Option Seconds) :
    h.handle { request with dryRun := true } deadline =
        h.handle { request with dryRun := false } deadline ∧
      ∀ report s', (h.handle { request with dryRun := true } deadline).run answer s =
          (.ok report, s') →
        Handler.WritesBy
          ((h.handle { request with dryRun := true } deadline).trace answer s) report.outcome := by
  refine ⟨rfl, fun report s' ran => ?_⟩
  have transcript :=
    (h.handle { request with dryRun := true } deadline).transcript_trace answer s
  rw [ran] at transcript
  rcases Handler.handle_calls transcript with ⟨-, e, failed⟩ | ⟨r, report', decided, same, outcome⟩
  · cases failed
  · cases same
    rw [outcome]
    exact Handler.writesBy_of_decided decided

def dryReview : List UInt8 := Text.Utf8.encode
  ("\x7b\"request\": \x7b\"uid\": \"u1\", \"namespace\": \"shop\", \"dryRun\": true, " ++
    "\"object\": \x7b\"metadata\": \x7b\"name\": \"web\"\x7d, " ++
    "\"spec\": \x7b\"containers\": [\x7b\"name\": \"app\"\x7d]\x7d\x7d\x7d\x7d").toList

def dryRequest : Request := { admissionOf web with dryRun := true }

theorem read_dryReview : Server.readBody dryReview = .ok dryRequest := by decide +kernel

/-- The pod is injected, so that the secrets are created and the event is posted. -/
theorem dry_run_as_any_bareShop : ∃ report s',
    (someHandler.handle dryRequest none).run Store.answer bareShop = (.ok report, s') ∧
      report.outcome = .injected ∧ ∃ before post,
        (someHandler.handle dryRequest none).trace Store.answer bareShop = before ++ [post] ∧
          Handler.Posts "Inject" post := by
  rcases ran : (someHandler.handle dryRequest none).run Store.answer bareShop with ⟨r, s'⟩
  have outcome : ((someHandler.handle dryRequest none).run Store.answer bareShop).1.toOption.map
      Report.outcome = some .injected := by decide +kernel
  rw [ran] at outcome
  cases r with
  | error e => cases outcome
  | ok report =>
    have injected : report.outcome = .injected := Option.some.inj outcome
    obtain ⟨-, writes⟩ := dry_run_as_any Store.answer bareShop someHandler dryRequest none
    exact ⟨report, s', rfl, injected, (writes report s' ran).injected injected⟩

/-- Not every dry run leaves the cluster as it is. -/
theorem dry_run_writes_bareShop : Server.readBody dryReview = .ok dryRequest ∧
    dryRequest.dryRun = true ∧
    ((someHandler.handle dryRequest none).run Store.answer bareShop).2.created.length = 2 ∧
    ((someHandler.handle dryRequest none).run Store.answer bareShop).2.events.length = 1 ∧
    ¬∀ (h : Handler) (request : Request) (deadline : Option Seconds) (s : Store),
      request.dryRun = true → ∀ e ∈ (h.handle request deadline).trace Store.answer s,
        e.call.writes = false := by
  refine ⟨read_dryReview, rfl, by decide +kernel, by decide +kernel, fun nothing => ?_⟩
  have silent := nothing someHandler dryRequest none bareShop rfl
  have written : ((someHandler.handle dryRequest none).trace Store.answer bareShop).any
      (·.call.writes) = true := by decide +kernel
  obtain ⟨e, among, writes⟩ := List.any_eq_true.mp written
  cases (silent e among).symm.trans writes

end Admission

end PodInstrumentation
