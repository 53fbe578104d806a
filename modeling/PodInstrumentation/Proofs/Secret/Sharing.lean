import PodInstrumentation.Proofs.Cluster.Turns
import PodInstrumentation.Secret.Provision
/-!
Support secrets that are ensured for several pods at a time. Any number of requests may find a
secret missing before one of them creates it; the cluster takes one creation, and the conflicts it
answers the others with mean that the secret is there. -/
namespace PodInstrumentation

structure SharedSecrets where
  table : List ((String × String) × Secret)

namespace SharedSecrets

def get? (s : SharedSecrets) (ns name : String) : Option Secret := s.table.lookup (ns, name)

def missing : Failure := .status 404 (some "Not Found")

def taken : Failure := .status 409 (some "Conflict")

def answer (s : SharedSecrets) : (c : ApiCall) → Except Failure c.Answer × SharedSecrets
  | .readSecret name ns =>
    match s.get? ns name with
    | some secret => (.ok secret, s)
    | none => (.error missing, s)
  | .createSecret m =>
    match s.get? m.ns m.name with
    | some _ => (.error taken, s)
    | none => (.ok (), ⟨((m.ns, m.name), ⟨m.data⟩) :: s.table⟩)
  | .readNamespace _ | .readConfig .. | .readObject _ | .createEvent _ | .readPod .. =>
    (.error missing, s)

def Extends (s t : SharedSecrets) : Prop :=
  ∀ ns name secret, s.get? ns name = some secret → t.get? ns name = some secret

theorem get?_cons (ns name : String) (secret : Secret) (s : SharedSecrets) (ns' name' : String) :
    get? ⟨((ns, name), secret) :: s.table⟩ ns' name' =
      if (ns', name') = (ns, name) then some secret else s.get? ns' name' := by
  simp only [get?, List.lookup_cons]
  split <;> rename_i same <;> simp_all

theorem extends_answer (s : SharedSecrets) (c : ApiCall) : s.Extends (s.answer c).2 := by
  intro ns name secret stored
  cases c with
  | readSecret name' ns' =>
    simp only [answer]
    split <;> exact stored
  | createSecret m =>
    simp only [answer]
    split
    · exact stored
    · rename_i free
      rw [get?_cons, if_neg]
      · exact stored
      · intro same
        obtain ⟨rfl, rfl⟩ := Prod.mk.inj same
        exact absurd (free.symm.trans stored) nofun
  | readNamespace | readConfig | readObject | createEvent | readPod => exact stored

end SharedSecrets

def Exchange.created (ns name : String) : Exchange → Bool
  | ⟨.createSecret m, .ok _⟩ => m.ns == ns && m.name == name
  | _ => false

def Pool.creations {σ α : Type} (p : Pool σ α) (ns name : String) : Nat :=
  p.record.countP (Exchange.created ns name)

namespace SharedSecrets

/-- A secret that an exchange created was missing before and is stored afterwards; any other
exchange leaves it as it was. -/
theorem tally_answer (s : SharedSecrets) (c : ApiCall) (ns name : String) :
    ((s.answer c).2.get? ns name).isSome.toNat = (s.get? ns name).isSome.toNat +
      (Exchange.created ns name ⟨c, (s.answer c).1⟩).toNat := by
  cases c with
  | readSecret name' ns' =>
    simp only [answer]
    split <;> rfl
  | createSecret m =>
    simp only [answer]
    split
    · rfl
    · rename_i free
      rw [get?_cons]
      by_cases same : m.ns = ns ∧ m.name = name
      · obtain ⟨rfl, rfl⟩ := same
        simp [Exchange.created, free]
      · have other : (ns, name) ≠ (m.ns, m.name) := by
          intro h
          exact same ⟨(Prod.mk.inj h).1.symm, (Prod.mk.inj h).2.symm⟩
        have silent : Exchange.created ns name ⟨.createSecret m, .ok ()⟩ = false := by
          simpa [Exchange.created] using same
        simp [other, silent]
  | readNamespace | readConfig | readObject | createEvent | readPod => rfl

variable {α : Type}

/-- However the conversations take turns, a secret is created at most once, and never if it was
there from the start. -/
theorem tally_play (s : SharedSecrets) (talks : List (Interaction α)) (schedule : List Nat)
    (ns name : String) :
    (((Pool.start s talks).play answer schedule).state.get? ns name).isSome.toNat =
      (s.get? ns name).isSome.toNat +
        ((Pool.start s talks).play answer schedule).creations ns name := by
  refine Pool.play_keeps (K := fun p : Pool SharedSecrets α =>
    (p.state.get? ns name).isSome.toNat = (s.get? ns name).isSome.toNat + p.creations ns name)
    ?_ rfl schedule
  intro p q i turn counted
  cases turn with
  | idle _ => exact counted
  | @spoke c next _ =>
    have one : (Pool.creations (⟨(p.state.answer c).2, p.talks.set i (next (p.state.answer c).1),
        p.record ++ [⟨c, (p.state.answer c).1⟩]⟩ : Pool SharedSecrets α) ns name) =
        p.creations ns name + (Exchange.created ns name ⟨c, (p.state.answer c).1⟩).toNat := by
      simp only [Pool.creations, List.countP_append, List.countP_singleton]
      cases Exchange.created ns name ⟨c, (p.state.answer c).1⟩ <;> rfl
    rw [one, tally_answer, counted, Nat.add_assoc]

theorem extends_play (p : Pool SharedSecrets α) (schedule : List Nat) :
    p.state.Extends (p.play answer schedule).state := by
  refine Pool.play_keeps (K := fun q : Pool SharedSecrets α => p.state.Extends q.state) ?_
    (fun _ _ _ stored => stored) schedule
  intro q q' i turn extended
  cases turn with
  | idle _ => exact extended
  | @spoke c _ _ => exact fun ns name secret stored =>
      extends_answer q.state c ns name secret (extended ns name secret stored)

theorem creations_eq (s : SharedSecrets) (talks : List (Interaction α)) (schedule : List Nat)
    (ns name : String) : ((Pool.start s talks).play answer schedule).creations ns name =
      (((Pool.start s talks).play answer schedule).state.get? ns name).isSome.toNat -
        (s.get? ns name).isSome.toNat :=
  Nat.eq_sub_of_add_eq' (tally_play s talks schedule ns name).symm

theorem creations_le (s : SharedSecrets) (talks : List (Interaction α)) (schedule : List Nat)
    (ns name : String) : ((Pool.start s talks).play answer schedule).creations ns name ≤
      if (s.get? ns name).isSome then 0 else 1 := by
  rw [creations_eq]
  cases (s.get? ns name).isSome <;>
    cases (((Pool.start s talks).play answer schedule).state.get? ns name).isSome <;> decide

theorem creations_of_present {s : SharedSecrets} {talks : List (Interaction α)}
    {schedule : List Nat} {ns name : String}
    (present : (((Pool.start s talks).play answer schedule).state.get? ns name).isSome) :
    ((Pool.start s talks).play answer schedule).creations ns name =
      if (s.get? ns name).isSome then 0 else 1 := by
  rw [creations_eq, present]
  cases (s.get? ns name).isSome <;> rfl

end SharedSecrets

open SharedSecrets

inductive Reads {α : Type} (s : SharedSecrets) : Nat → Interaction α → α → Prop
  | done (n : Nat) (a : α) : Reads s n (.done a) a
  | read {n : Nat} {ns name : String} {secret : Secret}
      {next : Except Failure Secret → Interaction α} {a : α}
      (stored : s.get? ns name = some secret) (rest : Reads s n (next (.ok secret)) a) :
      Reads s (n + 1) (.call (.readSecret name ns) next) a

namespace Reads

variable {α β : Type} {s : SharedSecrets} {n m : Nat}

theorem succ {x : Interaction α} {a : α} (hx : Reads s n x a) : Reads s (n + 1) x a := by
  induction hx with
  | done n a => exact .done (n + 1) a
  | read stored _ ih => exact .read stored ih

theorem mono {x : Interaction α} {a : α} (hx : Reads s n x a) (more : n ≤ m) : Reads s m x a := by
  induction more with
  | refl => exact hx
  | step _ ih => exact ih.succ

theorem bind {x : Interaction α} {a : α} {f : α → Interaction β} {b : β} (hx : Reads s n x a)
    (hf : Reads s m (f a) b) : Reads s (m + n) (x.bind f) b := by
  induction hx with
  | done n a => exact hf.mono (Nat.le_add_right m n)
  | read stored _ ih => exact .read stored (ih hf)

theorem andThen {x : Attempt α} {a : α} {f : α → Attempt β} {b : β}
    (hx : Reads s n x.run (.ok a)) (hf : Reads s m (f a).run (.ok b)) :
    Reads s (m + n) (x >>= f).run (.ok b) :=
  hx.bind (f := ExceptT.bindCont f) hf

theorem readSecret {ns name : String} {secret : Secret} (stored : s.get? ns name = some secret) :
    Reads s 1 (Provisioner.readSecret name ns).run (.ok secret) := .read stored (.done 0 _)

theorem textOf {secret : Secret} {key text : String} (readable : secret.text key = .ok text) :
    Reads s 0 (Provisioner.textOf secret key).run (.ok text) :=
  readable ▸ .done 0 (secret.text key)

end Reads

/-- What is left of a conversation that ensures a secret, with at most so many calls: it looks for
the secret, reads those it is made from, creates it, or is over with the secret in place. -/
inductive Securing (ns name : String) : Nat → SharedSecrets → Interaction (Except Fault Unit) → Prop
  | done {s : SharedSecrets} (n : Nat) (present : (s.get? ns name).isSome) :
      Securing ns name n s (.done (.ok ()))
  | look {s : SharedSecrets} {n : Nat}
      {next : Except Failure Secret → Interaction (Except Fault Unit)}
      (found : ∀ secret, next (.ok secret) = .done (.ok ()))
      (rest : Securing ns name n s (next (.error missing))) :
      Securing ns name (n + 1) s (.call (.readSecret name ns) next)
  | read {s : SharedSecrets} {n : Nat} {ns' name' : String} {secret : Secret}
      {next : Except Failure Secret → Interaction (Except Fault Unit)}
      (stored : s.get? ns' name' = some secret)
      (rest : Securing ns name n s (next (.ok secret))) :
      Securing ns name (n + 1) s (.call (.readSecret name' ns') next)
  | post {s : SharedSecrets} {n : Nat} {data : List (String × String)}
      {next : Except Failure Unit → Interaction (Except Fault Unit)}
      (created : next (.ok ()) = .done (.ok ()))
      (conflict : next (.error taken) = .done (.ok ())) :
      Securing ns name (n + 1) s (.call (.createSecret ⟨name, ns, data⟩) next)

namespace Securing

variable {ns name : String} {s t : SharedSecrets} {n m : Nat}
  {x : Interaction (Except Fault Unit)}

theorem extend (hx : Securing ns name n s x) (more : s.Extends t) : Securing ns name n t x := by
  induction hx with
  | done n present =>
    obtain ⟨secret, stored⟩ := Option.isSome_iff_exists.mp present
    exact .done n (Option.isSome_iff_exists.mpr ⟨secret, more _ _ _ stored⟩)
  | look found _ ih => exact .look found (ih more)
  | read stored _ ih => exact .read (more _ _ _ stored) (ih more)
  | post created conflict => exact .post created conflict

theorem next {c : ApiCall} {next : Except Failure c.Answer → Interaction (Except Fault Unit)}
    (hx : Securing ns name n s (.call c next)) :
    Securing ns name (n - 1) (s.answer c).2 (next (s.answer c).1) := by
  cases hx with
  | look found rest =>
    simp only [answer]
    split
    · rename_i secret stored
      rw [found]
      exact .done _ (Option.isSome_iff_exists.mpr ⟨secret, stored⟩)
    · exact rest
  | read stored rest =>
    simp only [answer, stored]
    exact rest
  | post created conflict =>
    simp only [answer]
    split
    · rename_i secret stored
      rw [conflict]
      exact .done _ (Option.isSome_iff_exists.mpr ⟨secret, stored⟩)
    · rw [created]
      exact .done _ (by simp [get?_cons])

theorem result {r : Except Fault Unit} (hx : Securing ns name n s (.done r)) :
    r = .ok () ∧ (s.get? ns name).isSome := by
  cases hx with
  | done _ present => exact ⟨rfl, present⟩

theorem ended (hx : Securing ns name 0 s x) : x = .done (.ok ()) := by
  cases hx with
  | done _ _ => rfl

theorem steady (ns name : String) : Pool.Steady answer (Securing ns name) where
  own := next
  ended {n m s a} hx := by
    obtain ⟨rfl, present⟩ := hx.result
    exact .done m present
  others {n s x} c hx := hx.extend (extends_answer s c)

theorem succ (hx : Securing ns name n s x) : Securing ns name (n + 1) s x := by
  induction hx with
  | done n present => exact .done (n + 1) present
  | look found _ ih => exact .look found ih
  | read stored _ ih => exact .read stored ih
  | post created conflict => exact .post created conflict

theorem mono (hx : Securing ns name n s x) (more : n ≤ m) : Securing ns name m s x := by
  induction more with
  | refl => exact hx
  | step _ ih => exact ih.succ

theorem after_reads {α : Type} {x : Interaction α} {a : α}
    {f : α → Interaction (Except Fault Unit)} (hx : Reads s n x a)
    (hf : Securing ns name m s (f a)) : Securing ns name (m + n) s (x.bind f) := by
  induction hx with
  | done n a => exact hf.mono (Nat.le_add_right m n)
  | read stored _ ih => exact .read stored (ih hf)

end Securing

structure Demand where
  provisioner : Provisioner
  config : MonitoringConfig
  ns : String
  which : SupportSecret

namespace Demand

def talk (d : Demand) : Interaction (Except Fault Unit) :=
  (d.provisioner.ensure d.config d.ns d.which).run

def tokenKey (d : Demand) : String :=
  match d.which with
  | .init => Names.apiTokenKey
  | .endpoint => Names.ingestTokenKey

structure Sourced (d : Demand) (s : SharedSecrets) : Prop where
  tokens : ∃ secret token, s.get? d.provisioner.ns d.config.tokensSecret = some secret ∧
    secret.text d.tokenKey = .ok token
  proxy : d.which = .init → ∀ given, d.config.spec.proxy = some given →
    given.valueFrom.getD "" ≠ "" → ∃ secret url,
      s.get? d.provisioner.ns (given.valueFrom.getD "") = some secret ∧
        secret.text Names.proxyKey = .ok url

variable {d : Demand} {s : SharedSecrets}

theorem proxyText_reads (sourced : d.Sourced s) (init : d.which = .init) :
    ∃ url, Reads s 1 (d.provisioner.proxyText d.config).run (.ok url) := by
  unfold Provisioner.proxyText
  split
  · exact ⟨"", .done 1 _⟩
  · rename_i given found
    dsimp only
    split
    · exact ⟨given.value.getD "", .done 1 _⟩
    · rename_i some
      obtain ⟨secret, url, stored, readable⟩ := sourced.proxy init given found some
      exact ⟨url, .andThen (.readSecret stored) (.textOf readable)⟩

theorem data_reads (sourced : d.Sourced s) :
    ∃ data, Reads s 2 (d.provisioner.data d.config d.which).run (.ok data) := by
  obtain ⟨secret, token, stored, readable⟩ := sourced.tokens
  unfold Provisioner.data
  cases which : d.which with
  | init =>
    rw [tokenKey, which] at readable
    obtain ⟨url, reads⟩ := proxyText_reads sourced which
    exact ⟨_, .andThen (.readSecret stored) (.andThen (n := 1) (m := 0) reads
      (.andThen (.textOf readable) (.done 0 _)))⟩
  | endpoint =>
    rw [tokenKey, which] at readable
    exact ⟨_, .andThen (m := 1) (.readSecret stored)
      (.andThen (m := 1) (.textOf readable) (.done 1 _))⟩

theorem securing_create (sourced : d.Sourced s) : Securing d.ns d.which.name 3 s
    (tryCatch (d.provisioner.create d.config d.ns d.which)
      (Provisioner.onFault d.which d.ns)).run := by
  obtain ⟨data, reads⟩ := data_reads sourced
  show Securing d.ns d.which.name 3 s (((d.provisioner.data d.config d.which).run.bind _).bind _)
  rw [Interaction.bind_assoc]
  exact .after_reads (m := 1) reads (.post rfl rfl)

theorem securing_talk (sourced : d.Sourced s) : Securing d.ns d.which.name 4 s d.talk :=
  .look (fun _ => rfl) (securing_create sourced)

end Demand

/-- Whatever turns they take, four of its own are enough for each conversation to end without an
error and with its secret stored. The secret was created once if it was missing at first and never
if it was there, no secret is created twice, and what is stored once is never changed. -/
theorem ensured_concurrently (s : SharedSecrets) (demands : List Demand)
    (sourced : ∀ d ∈ demands, d.Sourced s) (schedule : List Nat) :
    let p := (Pool.start s (demands.map Demand.talk)).play answer schedule
    (∀ (i : Nat) (d : Demand), demands[i]? = some d → ∃ talk, p.talks[i]? = some talk ∧
      (4 ≤ schedule.count i → ∃ r, talk = .done r) ∧
      ∀ r, talk = .done r → r = .ok () ∧ (p.state.get? d.ns d.which.name).isSome ∧
        p.creations d.ns d.which.name =
          if (s.get? d.ns d.which.name).isSome then 0 else 1) ∧
    (∀ ns name, p.creations ns name ≤ if (s.get? ns name).isSome then 0 else 1) ∧
    s.Extends p.state ∧ ∀ more, p.state.Extends (p.play answer more).state := by
  intro p
  refine ⟨?_, creations_le s _ schedule, extends_play (Pool.start s _) schedule, extends_play p⟩
  intro i d at_
  have started : (Pool.start s (demands.map Demand.talk)).talks[i]? = some d.talk := by
    simp [Pool.start, at_]
  have begun := Demand.securing_talk (sourced d (List.mem_of_getElem? at_))
  obtain ⟨talk, now, left⟩ :=
    Pool.play_steady (Securing.steady d.ns d.which.name) started begun schedule
  refine ⟨talk, now, ?_, ?_⟩
  · intro turns
    rw [Nat.sub_eq_zero_of_le turns] at left
    exact ⟨_, left.ended⟩
  · rintro r rfl
    obtain ⟨fine, present⟩ := left.result
    exact ⟨fine, present, creations_of_present present⟩

def supplies : SharedSecrets where
  table := [
    (("monitoring", "prod"), ⟨[(Names.apiTokenKey, "YXBp"), (Names.ingestTokenKey, "aW5n")]⟩),
    (("monitoring", "proxy"), ⟨[(Names.proxyKey, "aHR0cDovL3A=")]⟩),
    (("blog", Names.endpointSecret), ⟨[]⟩)]

def plainConfig : MonitoringConfig where
  name := "prod"
  ns := "monitoring"
  annotations := []
  spec := ⟨"https://agents", none, none, none, false, .none⟩

def proxyConfig : MonitoringConfig :=
  { plainConfig with
    spec := ⟨"https://agents", some "prod", some ⟨none, some "proxy"⟩, none, false, .none⟩ }

def rivals : List Demand := [
  ⟨⟨"monitoring", "c1"⟩, plainConfig, "shop", .init⟩,
  ⟨⟨"monitoring", "c1"⟩, proxyConfig, "shop", .init⟩,
  ⟨⟨"monitoring", "c1"⟩, plainConfig, "blog", .endpoint⟩]

theorem sourced_rivals : ∀ d ∈ rivals, d.Sourced supplies := by
  intro d among
  simp only [rivals, List.mem_cons, List.not_mem_nil, or_false] at among
  obtain rfl | rfl | rfl := among
  · exact ⟨⟨_, "api", rfl, by decide +kernel⟩, nofun⟩
  · refine ⟨⟨_, "api", rfl, by decide +kernel⟩, ?_⟩
    rintro - given ⟨⟩ -
    exact ⟨_, "http://p", rfl, by decide +kernel⟩
  · exact ⟨⟨_, "ing", rfl, by decide +kernel⟩, nofun⟩

/-- Both rivals find the secret missing. The second one creates it, and the first one learns from
the conflict that it is there. -/
theorem ensured_rivals : (∀ d ∈ rivals, d.Sourced supplies) ∧
    let p := (Pool.start supplies (rivals.map Demand.talk)).play answer [0, 1, 2, 0, 1, 1, 1, 0, 0]
    p.talks[0]? = some (.done (.ok ())) ∧ p.talks[1]? = some (.done (.ok ())) ∧
      p.creations "shop" Names.initSecret = 1 ∧ p.creations "blog" Names.endpointSecret = 0 := by
  obtain ⟨ended, few, -⟩ :=
    ensured_concurrently supplies rivals sourced_rivals [0, 1, 2, 0, 1, 1, 1, 0, 0]
  obtain ⟨first, at₀, done₀, fine₀⟩ := ended 0 _ rfl
  obtain ⟨second, at₁, done₁, fine₁⟩ := ended 1 _ rfl
  obtain ⟨r₀, rfl⟩ := done₀ (by decide)
  obtain ⟨r₁, rfl⟩ := done₁ (by decide)
  obtain ⟨rfl, -, once⟩ := fine₀ r₀ rfl
  obtain ⟨rfl, -⟩ := fine₁ r₁ rfl
  refine ⟨sourced_rivals, at₀, at₁, once, ?_⟩
  exact Nat.le_zero.mp (few "blog" Names.endpointSecret)

end PodInstrumentation
