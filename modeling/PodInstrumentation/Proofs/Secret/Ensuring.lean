import PodInstrumentation.Cluster.Store
import PodInstrumentation.Proofs.Admission.Asking
import PodInstrumentation.Proofs.Cluster.Pairing
import PodInstrumentation.Secret.Provision
/-!
Secrets that earlier requests provided. What was missing and could be created once could be created
again, so that ensuring a secret comes to the same before and after, as long as the secrets that are
created from are others than those that are created. -/
namespace PodInstrumentation

namespace Store

theorem lookup_filter_ne {α : Type} {key other : String} (ne : other ≠ key)
    (table : List (String × α)) :
    (table.filter (·.1 != key)).lookup other = table.lookup other := by
  have skipped : (other == key) = false := by simpa using ne
  induction table with
  | nil => rfl
  | cons e table ih =>
    obtain ⟨k, a⟩ := e
    by_cases hk : k = key
    · subst hk
      simp [List.lookup_cons, skipped, ih]
    · simp [hk, List.lookup_cons, ih]

theorem find_setEntry_self {α : Type} (key : String) (a : Entry α)
    (table : List (String × Entry α)) : find (setEntry key a table) key = a := by
  simp [find, setEntry]

theorem find_setEntry_of_ne {α : Type} {key other : String} (ne : other ≠ key) (a : Entry α)
    (table : List (String × Entry α)) : find (setEntry key a table) other = find table other := by
  have skipped : (other == key) = false := by simpa using ne
  simp only [find, setEntry, List.lookup_cons, skipped, lookup_filter_ne ne]

theorem toList_slot (ns name : String) :
    (slot ns name).toList = ns.toList ++ '/' :: name.toList := by
  show (ns ++ "/" ++ name).toList = _
  simp

theorem slot_support_inj {ns ns' : String} {which which' : SupportSecret}
    (same : slot ns which.name = slot ns' which'.name) : ns = ns' ∧ which = which' := by
  have lists : ns.toList ++ '/' :: which.name.toList = ns'.toList ++ '/' :: which'.name.toList := by
    rw [← toList_slot, ← toList_slot, same]
  -- the names end in different letters
  have last : ∀ (ns : String) (which : SupportSecret),
      (ns.toList ++ '/' :: which.name.toList).getLast? = which.name.toList.getLast? := by
    intro ns which
    rw [List.getLast?_append]
    cases which <;> rfl
  have ends := congrArg List.getLast? lists
  rw [last, last] at ends
  have kinds : which = which' := by
    cases which <;> cases which' <;> first | rfl | exact absurd ends (by decide)
  subst kinds
  exact ⟨String.toList_inj.mp (List.append_cancel_right lists), rfl⟩

theorem forget_answer (t : Store) {c : ApiCall} (creates : ∀ m, c ≠ .createSecret m) :
    (answer t c).2.forget = t.forget := by
  cases c with
  | createSecret m => exact absurd rfl (creates m)
  | createEvent e =>
    simp only [answer, serve]
    split <;> rfl
  | readNamespace | readConfig | readSecret | readObject | readPod => rfl

theorem answer_createSecret_refused {t : Store} {m : SecretManifest} {f : Failure}
    (refused : t.createErrors.lookup (slot m.ns m.name) = some f) :
    answer t (.createSecret m) = (.error f, { t with calls := t.calls ++ [.createSecret m] }) := by
  simp only [answer, serve, refused]

theorem answer_createSecret_taken {t : Store} {m : SecretManifest}
    (free : t.createErrors.lookup (slot m.ns m.name) = none) :
    ∃ t', answer t (.createSecret m) = (.ok (), t') ∧
      t'.forget =
        { t with secrets := setEntry (slot m.ns m.name) (.ok ⟨m.data⟩) t.secrets }.forget := by
  simp only [answer, serve, free]
  exact ⟨_, rfl, rfl⟩

end Store

def MonitoringConfig.sources (c : MonitoringConfig) : List String :=
  c.tokensSecret :: (c.spec.proxy.bind (·.valueFrom)).toList

structure Separate (p : Provisioner) (assigned : String → MonitoringConfig → Prop) : Prop where
  unique : ∀ {ns c c'}, assigned ns c → assigned ns c' → c' = c
  apart : ∀ {ns c ns' c' name}, assigned ns c → assigned ns' c' → name ∈ c.sources →
    ∀ which : SupportSecret, Store.slot p.ns name ≠ Store.slot ns' which.name

inductive Provided (p : Provisioner) (assigned : String → MonitoringConfig → Prop) (s t : Store)
    (key : String) : Prop
  | intro {ns : String} {config : MonitoringConfig} {which : SupportSecret} {f : Failure}
      {data : List (String × String)} {secret : Secret} (is : assigned ns config)
      (key : key = Store.slot ns which.name)
      (missing : Store.find s.secrets (Store.slot ns which.name) = .error f)
      (notFound : f.isNotFound = true)
      (free : s.createErrors.lookup (Store.slot ns which.name) = none)
      (data : ((p.data config which).play Store.answer s).1 = .ok data)
      (present : Store.find t.secrets (Store.slot ns which.name) = .ok secret)

structure Provisioned (p : Provisioner) (assigned : String → MonitoringConfig → Prop)
    (s t : Store) : Prop where
  namespaces : t.namespaces = s.namespaces
  configs : t.configs = s.configs
  objects : t.objects = s.objects
  createErrors : t.createErrors = s.createErrors
  eventError : t.eventError = s.eventError
  secrets : ∀ key, Store.find t.secrets key = Store.find s.secrets key ∨
    Provided p assigned s t key

namespace Provisioned

variable {p : Provisioner} {assigned : String → MonitoringConfig → Prop} {s t t' : Store}

theorem refl (p : Provisioner) (assigned : String → MonitoringConfig → Prop) (s : Store) :
    Provisioned p assigned s s := ⟨rfl, rfl, rfl, rfl, rfl, fun _ => .inl rfl⟩

theorem congr (h : Provisioned p assigned s t) (same : t'.forget = t.forget) :
    Provisioned p assigned s t' where
  namespaces := (congrArg Store.namespaces same).trans h.namespaces
  configs := (congrArg Store.configs same).trans h.configs
  objects := (congrArg Store.objects same).trans h.objects
  createErrors := (congrArg Store.createErrors same).trans h.createErrors
  eventError := (congrArg Store.eventError same).trans h.eventError
  secrets key := by
    have secrets : t'.secrets = t.secrets := (congrArg Store.secrets same).trans rfl
    rw [secrets]
    refine (h.secrets key).imp id fun ⟨is, at_, missing, notFound, free, data, present⟩ => ?_
    exact ⟨is, at_, missing, notFound, free, data, secrets ▸ present⟩

theorem find_source (separate : Separate p assigned) (h : Provisioned p assigned s t)
    {ns name : String} {c : MonitoringConfig} (is : assigned ns c) (named : name ∈ c.sources) :
    Store.find t.secrets (Store.slot p.ns name) = Store.find s.secrets (Store.slot p.ns name) := by
  rcases h.secrets (Store.slot p.ns name) with same | ⟨other, key, _⟩
  · exact same
  · exact absurd key (separate.apart is other named _)

end Provisioned

def BothProvisioned (p : Provisioner) (assigned : String → MonitoringConfig → Prop)
    (s a b : Store) : Prop :=
  Provisioned p assigned s a ∧ Provisioned p assigned s b

section Ensure

variable {p : Provisioner} {assigned : String → MonitoringConfig → Prop} {s t : Store}

theorem alikeOn_provisioned (p : Provisioner) (assigned : String → MonitoringConfig → Prop)
    (s : Store) : AlikeOn Store.answer Store.answer (BothProvisioned p assigned s)
      [.space, .config, .object, .event] where
  answers {a b} c both within := by
    obtain ⟨first, second⟩ := both
    cases c with
    | readNamespace name =>
      exact congrArg (Store.find · _) (second.namespaces.trans first.namespaces.symm)
    | readConfig name ns =>
      exact congrArg (Store.find · _) (second.configs.trans first.configs.symm)
    | readObject path => exact congrArg (Store.find · _) (second.objects.trans first.objects.symm)
    | createEvent e =>
      simp only [Store.answer, Store.serve, second.eventError, first.eventError]
      cases s.eventError <;> rfl
    | readSecret | createSecret | readPod => simp [ApiCall.kind] at within
  states {a b} c both within := by
    have kept : ∀ t : Store, (Store.answer t c).2.forget = t.forget :=
      fun t => Store.forget_answer t fun m e => by simp [e, ApiCall.kind] at within
    exact ⟨both.1.congr (kept a), both.2.congr (kept b)⟩

open Provisioner

theorem readSecret_paired (separate : Separate p assigned) {ns name : String}
    {config : MonitoringConfig} (is : assigned ns config) (named : name ∈ config.sources) :
    Attempt.Paired Store.answer Store.answer (BothProvisioned p assigned s) (fun a b => b = a)
      (readSecret name p.ns) (readSecret name p.ns) := by
  unfold readSecret
  refine .bind ?_ fun r r' (same : r' = r) => ?_
  · rintro a b ⟨first, second⟩
    have same : Store.find b.secrets (Store.slot p.ns name) =
        Store.find a.secrets (Store.slot p.ns name) :=
      (second.find_source separate is named).trans (first.find_source separate is named).symm
    exact ⟨.ok same, first.congr rfl, second.congr rfl⟩
  · subst same
    split
    · exact .pure rfl
    · exact .throw _

theorem textOf_paired (secret : Secret) (key : String) :
    Attempt.Paired Store.answer Store.answer (BothProvisioned p assigned s) (fun a b => b = a)
      (textOf secret key) (textOf secret key) := .done (.of_eq fun _ => rfl)

theorem proxyText_paired (separate : Separate p assigned) {ns : String}
    {config : MonitoringConfig} (is : assigned ns config) :
    Attempt.Paired Store.answer Store.answer (BothProvisioned p assigned s) (fun a b => b = a)
      (p.proxyText config) (p.proxyText config) := by
  unfold proxyText
  split
  · exact .pure rfl
  · rename_i given found
    dsimp only
    split
    · exact .pure rfl
    · rename_i some
      have named : given.valueFrom.getD "" ∈ config.sources := by
        cases from_ : given.valueFrom with
        | none => exact absurd (by rw [from_]; rfl) some
        | some name => simp [MonitoringConfig.sources, found, from_]
      refine .bind (readSecret_paired separate is named) ?_
      rintro _ secret rfl
      exact textOf_paired secret _

theorem data_paired (separate : Separate p assigned) {ns : String} {config : MonitoringConfig}
    (is : assigned ns config) (which : SupportSecret) :
    Attempt.Paired Store.answer Store.answer (BothProvisioned p assigned s) (fun a b => b = a)
      (p.data config which) (p.data config which) := by
  have tokens := readSecret_paired (s := s) separate is List.mem_cons_self
  cases which with
  | init =>
    refine .bind tokens ?_
    rintro _ secret rfl
    refine .bind (proxyText_paired separate is) ?_
    rintro _ url rfl
    refine .bind (textOf_paired secret _) ?_
    rintro _ token rfl
    exact .pure rfl
  | endpoint =>
    refine .bind tokens ?_
    rintro _ secret rfl
    refine .bind (textOf_paired secret _) ?_
    rintro _ token rfl
    exact .pure rfl

theorem create_refused {config : MonitoringConfig} {ns : String} {which : SupportSecret}
    {data : List (String × String)} {t t₁ : Store} {f : Failure}
    (made : (p.data config which).play Store.answer t = (.ok data, t₁))
    (refused : t₁.createErrors.lookup (Store.slot ns which.name) = some f) :
    ∃ t₂, (p.create config ns which).play Store.answer t = (.error (.failure f), t₂) ∧
      t₂.forget = t₁.forget := by
  unfold create
  rw [Attempt.play_bind_ok made, Attempt.play_bind_ok (Attempt.play_ask _ _),
    Store.answer_createSecret_refused refused]
  exact ⟨_, rfl, rfl⟩

theorem create_taken {config : MonitoringConfig} {ns : String} {which : SupportSecret}
    {data : List (String × String)} {t t₁ : Store}
    (made : (p.data config which).play Store.answer t = (.ok data, t₁))
    (free : t₁.createErrors.lookup (Store.slot ns which.name) = none) :
    ∃ t₂ secret, (p.create config ns which).play Store.answer t = (.ok (), t₂) ∧ t₂.forget =
      { t₁ with
        secrets := Store.setEntry (Store.slot ns which.name) (.ok secret) t₁.secrets }.forget := by
  unfold create
  obtain ⟨t₂, taken, after⟩ := Store.answer_createSecret_taken
    (m := ⟨which.name, ns, data.map fun d => (d.1, Secret.encode d.2)⟩) free
  rw [Attempt.play_bind_ok made, Attempt.play_bind_ok (Attempt.play_ask _ _), taken]
  exact ⟨t₂, _, rfl, after⟩

theorem provisioned_created {ns : String} {config : MonitoringConfig} {which : SupportSecret}
    {f : Failure} {data : List (String × String)} {secret : Secret} (h : Provisioned p assigned s t)
    (is : assigned ns config)
    (missing : Store.find s.secrets (Store.slot ns which.name) = .error f)
    (notFound : f.isNotFound = true)
    (free : s.createErrors.lookup (Store.slot ns which.name) = none)
    (made : ((p.data config which).play Store.answer s).1 = .ok data) :
    Provisioned p assigned s
      { t with secrets := Store.setEntry (Store.slot ns which.name) (.ok secret) t.secrets } := by
  refine ⟨h.namespaces, h.configs, h.objects, h.createErrors, h.eventError, fun key => ?_⟩
  have there := Store.find_setEntry_self (Store.slot ns which.name) (.ok secret) t.secrets
  by_cases new : key = Store.slot ns which.name
  · exact .inr ⟨is, new, missing, notFound, free, made, there⟩
  · have other := Store.find_setEntry_of_ne new (.ok secret) t.secrets
    refine (h.secrets key).imp other.trans ?_
    rintro ⟨is, at_, missing, notFound, free, made, present⟩
    rw [at_] at other
    exact ⟨is, at_, missing, notFound, free, made, other.trans present⟩

theorem create_paired (separate : Separate p assigned) {ns : String} {config : MonitoringConfig}
    (is : assigned ns config) {which : SupportSecret} {f : Failure}
    (missing : Store.find s.secrets (Store.slot ns which.name) = .error f)
    (notFound : f.isNotFound = true) :
    Attempt.Paired Store.answer Store.answer (BothProvisioned p assigned s) (fun a b => b = a)
      (p.create config ns which) (p.create config ns which) := by
  intro a b both
  obtain ⟨known, _⟩ := (data_paired (s := s) separate is which).play ⟨.refl p assigned s, both.1⟩
  obtain ⟨agree, first, second⟩ := (data_paired separate is which).play both
  rcases ran : (p.data config which).play Store.answer a with ⟨r, a₁⟩
  rcases ran' : (p.data config which).play Store.answer b with ⟨r', b₁⟩
  rw [ran] at agree first known
  rw [ran'] at agree second
  show Agree _ ((p.create config ns which).play Store.answer a).1
    ((p.create config ns which).play Store.answer b).1 ∧ BothProvisioned p assigned s
      ((p.create config ns which).play Store.answer a).2
      ((p.create config ns which).play Store.answer b).2
  cases agree with
  | error e =>
    unfold create
    rw [Attempt.play_bind, Attempt.play_bind, ran, ran']
    exact ⟨.error e, first, second⟩
  | @ok _ data same =>
    subst same
    cases free : s.createErrors.lookup (Store.slot ns which.name) with
    | some g =>
      obtain ⟨a₂, refused, kept⟩ := create_refused ran (first.createErrors ▸ free)
      obtain ⟨b₂, refused', kept'⟩ := create_refused ran' (second.createErrors ▸ free)
      rw [refused, refused']
      exact ⟨.error _, first.congr kept, second.congr kept'⟩
    | none =>
      obtain ⟨a₂, _, taken, after⟩ := create_taken ran (first.createErrors ▸ free)
      obtain ⟨b₂, _, taken', after'⟩ := create_taken ran' (second.createErrors ▸ free)
      have made := known.eq.symm
      rw [taken, taken']
      exact ⟨.ok rfl,
        (provisioned_created first is missing notFound free made).congr after,
        (provisioned_created second is missing notFound free made).congr after'⟩

/-- Ensuring a secret comes to the same whatever was provided before. -/
theorem ensure_again (separate : Separate p assigned) (h : Provisioned p assigned s t)
    {ns : String} {config : MonitoringConfig} (is : assigned ns config) (which : SupportSecret) :
    ((p.ensure config ns which).play Store.answer t).1 =
        ((p.ensure config ns which).play Store.answer s).1 ∧
      Provisioned p assigned s ((p.ensure config ns which).play Store.answer t).2 := by
  unfold ensure
  rw [Attempt.play_bind_ok (Attempt.play_ask _ _), Attempt.play_bind_ok (Attempt.play_ask _ _)]
  have asked : ∀ t : Store, Store.answer t (.readSecret which.name ns) =
      (Store.find t.secrets (Store.slot ns which.name),
        { t with calls := t.calls ++ [.readSecret which.name ns] }) := fun _ => rfl
  rw [asked, asked]
  have first : Provisioned p assigned s
      { s with calls := s.calls ++ [.readSecret which.name ns] } :=
    (Provisioned.refl p assigned s).congr rfl
  have second : Provisioned p assigned s
      { t with calls := t.calls ++ [.readSecret which.name ns] } := h.congr rfl
  -- Either both stores hold the same under this name, or the second was provisioned from the first:
  -- then what is made now in the first is what the second already holds.
  rcases h.secrets (Store.slot ns which.name) with
    same | ⟨is', key, missing, notFound, free, made, present⟩
  · rw [same]
    cases found : Store.find s.secrets (Store.slot ns which.name) with
    | ok secret => exact ⟨rfl, second⟩
    | error f =>
      dsimp only
      cases notFound : f.isNotFound with
      | true =>
        have created := create_paired separate is found notFound
        have faulted := fun e => Attempt.Paired.of_asks (alikeOn_provisioned p assigned s)
          (asks_onFault which ns e)
        obtain ⟨agree, _, after⟩ := (created.tryCatch faulted).play ⟨first, second⟩
        exact ⟨agree.eq, after⟩
      | false =>
        cases f.isClusterError <;> exact ⟨rfl, second⟩
  · obtain ⟨rfl, rfl⟩ := Store.slot_support_inj key
    cases separate.unique is is'
    obtain ⟨agree, _, kept⟩ :=
      (data_paired separate is which).play ⟨Provisioned.refl p assigned s, first⟩
    rcases ran : (p.data config which).play Store.answer
      { s with calls := s.calls ++ [.readSecret which.name ns] } with ⟨r, s₁⟩
    rw [ran] at agree kept
    cases agree.eq.trans made
    obtain ⟨s₂, _, taken, _⟩ := create_taken ran (kept.createErrors ▸ free)
    simp only [missing, present, notFound, if_true, Attempt.play_tryCatch_ok taken]
    exact ⟨rfl, second⟩

theorem ensure_paired (separate : Separate p assigned) {ns : String} {config : MonitoringConfig}
    (is : assigned ns config) (which : SupportSecret) :
    Attempt.Paired Store.answer Store.answer (BothProvisioned p assigned s) (fun a b => b = a)
      (p.ensure config ns which) (p.ensure config ns which) := by
  rintro a b ⟨first, second⟩
  obtain ⟨same, after⟩ := ensure_again separate first is which
  obtain ⟨same', after'⟩ := ensure_again separate second is which
  refine ⟨?_, after, after'⟩
  have both : (Interaction.run Store.answer (p.ensure config ns which).run b).1 =
      (Interaction.run Store.answer (p.ensure config ns which).run a).1 := same'.trans same.symm
  rw [both]
  exact .of_eq fun _ => rfl

end Ensure

end PodInstrumentation
