import PodInstrumentation.Cluster.Store
import PodInstrumentation.Proofs.Capability.Filling
/-!
The books of a first injection. Whatever is injected, the installer has a pair of variables for
each container that the pod had, in their order, no other variable of that kind, and none of its
variables twice. -/
namespace PodInstrumentation

open Pod

namespace Pod

def OfContainer (e : Json) : Bool :=
  match e.get "name" with
  | .str name => Names.containerVarStart.toList.isPrefixOf name.toList
  | _ => false

/-- The variables that tell of all containers, which are numbered from the given one on. -/
def register (number : Nat) (cs : List Json) : List Json :=
  (cs.zipIdx number).flatMap fun c => pair c.2 c.1

theorem news_of_free (cs : List Json) {n : Nat} {env : List Json}
    (free : ∀ m, n ≤ m → knows env m = false) : news n cs env = register n cs := by
  induction cs generalizing n with
  | nil => rfl
  | cons c cs ih =>
    rw [news, free n (Nat.le_refl n), ih fun m above => free m (by omega)]
    rfl

theorem ofContainer_pair (n : Nat) (c : Json) : ∀ e ∈ pair n c, OfContainer e = true := by
  intro e he
  rcases List.mem_pair.mp he with rfl | rfl
  · exact Names.start_containerNameVar n
  · exact Names.start_containerImageVar n

theorem filter_register (n : Nat) (cs : List Json) :
    (register n cs).filter OfContainer = register n cs := by
  refine List.filter_eq_self.mpr fun e he => ?_
  obtain ⟨c, _, there⟩ := List.mem_flatMap.mp he
  exact ofContainer_pair c.2 c.1 e there

theorem filter_entries {vs : List String} {env : List Json} (entries : Entries vs env)
    (start : ∀ v ∈ vs, Names.containerVarStart.toList.isPrefixOf v.toList = false) :
    env.filter OfContainer = [] := by
  refine List.filter_eq_nil_iff.mpr fun e he => ?_
  have named : e.get "name" ∈ vs.map .str := entries.named ▸ List.mem_map_of_mem he
  obtain ⟨v, hv, name⟩ := List.mem_map.mp named
  simp [OfContainer, ← name, start v hv]

end Pod

section Injection

variable {σ : Type} {answer : σ → (c : ApiCall) → Except Failure c.Answer × σ} {s s' : σ}
  {j : Injector} {config : MonitoringConfig} {ns : String} {d d' : Draft}

/-- One capability registers the containers whose numbers are free, and no other ones. -/
theorem Capability.prepared_registers {c : Capability} {pod : Json} {edit : Edit Draft Unit}
    {u : Unit} (h : (c.prepare j config ns pod).play answer s = (.ok edit, s'))
    (ran : edit.apply d = (.ok u, d')) {n : Nat}
    (numbered : Numbered n (d.installer.itemsAt "env")) :
    ∃ env, Numbered n env ∧ (d'.installer.itemsAt "env").filter OfContainer =
      (d.installer.itemsAt "env").filter OfContainer ++
        (news 1 (containerList d.pod) env).filter OfContainer := by
  obtain ⟨a, edited, longer, vars⟩ := prepare_eq_ok h ran
  obtain ⟨length, changed, env⟩ := Additions.edit_told longer edited
  have given := numbered.append (.zero vars fun _ => start_installerNames)
  refine ⟨_, given, ?_⟩
  rw [env, told_eq_news changed, List.map_fst_zip (Nat.le_of_eq length.symm), List.filter_append,
    List.filter_append, filter_entries vars fun _ => start_installerNames, List.append_nil]

/-- Once all containers have numbers, no capability registers any. -/
theorem inject_keeps_register {cs : List Capability} {given : List String}
    (h : (inject j config ns cs d).run answer s = ((.ok given, d'), s'))
    (numbered : Numbered (containerList d.pod).length (d.installer.itemsAt "env")) :
    (d'.installer.itemsAt "env").filter OfContainer =
      (d.installer.itemsAt "env").filter OfContainer := by
  induction cs generalizing d given s with
  | nil =>
    cases h
    rfl
  | cons c cs ih =>
    rcases inject_cons_eq_ok h with ⟨_, rest⟩ | ⟨_, edit, s₁, u, d₁, _, prepared, edited, rest, _⟩
    · exact ih rest numbered
    · obtain ⟨length, numbered₁⟩ := Capability.prepared_numbered prepared edited numbered
      rw [Nat.max_self, ← length] at numbered₁
      obtain ⟨env, known, first⟩ := Capability.prepared_registers prepared edited numbered
      -- All numbers up to that of the containers are in use, so that there is no news.
      have none : news 1 (containerList d.pod) env = [] := news_eq_nil fun m above below => by
        rw [known.numbers, decide_eq_true_iff]
        omega
      rw [ih rest numbered₁, first, none, List.filter_nil, List.append_nil]

/-- The first capability that is given registers all containers. -/
theorem inject_register {cs : List Capability} {given : List String}
    (h : (inject j config ns cs d).run answer s = ((.ok given, d'), s')) (some : given ≠ [])
    (numbered : Numbered 0 (d.installer.itemsAt "env")) :
    (d'.installer.itemsAt "env").filter OfContainer =
      (d.installer.itemsAt "env").filter OfContainer ++ register 1 (containerList d.pod) := by
  induction cs generalizing d given s with
  | nil =>
    cases h
    exact absurd rfl some
  | cons c cs ih =>
    rcases inject_cons_eq_ok h with ⟨_, rest⟩ | ⟨_, edit, s₁, u, d₁, _, prepared, edited, rest, _⟩
    · exact ih rest some numbered
    · obtain ⟨length, numbered₁⟩ := Capability.prepared_numbered prepared edited numbered
      rw [Nat.zero_max, ← length] at numbered₁
      obtain ⟨env, free, first⟩ := Capability.prepared_registers prepared edited numbered
      -- No number is in use yet, so that everything is news; after that nothing is.
      have all : news 1 (containerList d.pod) env = register 1 (containerList d.pod) :=
        news_of_free _ fun m _ => by
          rw [free.numbers, decide_eq_false_iff_not]
          omega
      rw [inject_keeps_register rest numbered₁, first, all, filter_register]

/-- Once a well-formed pod got something, the variables of its installer are pairwise different, one
of them is the number of containers, and those that tell of containers are the pairs of all of them,
numbered from one on. -/
theorem fresh_books_exact {image : String} {cs : List Capability} (nodup : cs.Nodup) {pod x : Json}
    (wf : WellFormed pod) (some : ∃ c ∈ cs, c.wants pod = true)
    (made : newInstaller pod image config = .ok x) {given : List String}
    (ran : (inject j config ns cs ⟨pod, x⟩).run answer s = ((.ok given, d), s')) :
    (names "env" d.installer).Nodup ∧
      envVar Names.countVar (.str (toString (containerList pod).length)) ∈
        d.installer.itemsAt "env" ∧
      (d.installer.itemsAt "env").filter OfContainer = register 1 (containerList pod) := by
  obtain ⟨_, booked⟩ :=
    inject_ok nodup (fun _ _ => List.not_mem_nil) wf (newInstaller_booked made) ran
  obtain ⟨_, told⟩ : Draft.Grows .closed ⟨pod, x⟩ d := inject_grows ran
  obtain ⟨_, _, core, _⟩ := newInstaller_ok made
  have wants : cs.filter (Capability.wants pod) ≠ [] := by
    obtain ⟨c, hc, wanted⟩ := some
    exact List.ne_nil_of_mem (List.mem_filter.mpr ⟨hc, wanted⟩)
  have given' := inject_some ran (Capability.wanted_ok wf cs) wants
  refine ⟨?_, ?_, ?_⟩
  · obtain ⟨vars, entries, books⟩ := booked.env
    rw [names, entries.named]
    exact books.nodup.map fun _ _ => Json.str.inj
  · obtain ⟨v, count, rest, read, counted, env⟩ := newInstaller_env made
    have kept : x.itemsAt "env" <+: d.installer.itemsAt "env" := told.itemsAt_prefix rfl
    rw [← containerCount_of_wellFormed wf read counted]
    exact kept.subset (env ▸ List.mem_cons_self)
  · rw [inject_register ran given' (.zero core fun _ => start_coreNames),
      filter_entries core fun _ => start_coreNames, List.nil_append]

end Injection

def suppliedShop : Store :=
  { Store.empty with
    secrets := [("shop/agent-injection-config", .ok ⟨[]⟩),
      ("shop/agent-enrichment-endpoint", .ok ⟨[]⟩)] }

theorem fresh_books_exact_partly : [Capability.agent, .enrichment].Nodup ∧ WellFormed partly ∧
    (∃ c ∈ [Capability.agent, .enrichment], c.wants partly = true) ∧
    ∃ x given d s', newInstaller partly "injector:1" directConfig = .ok x ∧
      (inject ⟨⟨"monitoring", "c1"⟩, "1.0", 3⟩ directConfig "shop" [.agent, .enrichment]
        ⟨partly, x⟩).run Store.answer suppliedShop = ((.ok given, d), s') ∧
      (names "env" d.installer).Nodup ∧
      envVar Names.countVar (.str "2") ∈ d.installer.itemsAt "env" ∧
      (d.installer.itemsAt "env").filter OfContainer = pair 1 mountedApp ++ pair 2 lateSide := by
  have nodup : [Capability.agent, .enrichment].Nodup := by decide
  have some : ∃ c ∈ [Capability.agent, .enrichment], c.wants partly = true :=
    ⟨.agent, List.mem_cons_self, by decide +kernel⟩
  obtain ⟨x, made⟩ : ∃ x, newInstaller partly "injector:1" directConfig = .ok x := ⟨_, rfl⟩
  have checked : (match (newInstaller partly "injector:1" directConfig) with
    | .ok x => match (inject ⟨⟨"monitoring", "c1"⟩, "1.0", 3⟩ directConfig "shop"
        [.agent, .enrichment] ⟨partly, x⟩).run Store.answer suppliedShop with
      | ((.ok _, _), _) => true
      | ((.error _, _), _) => false
    | .error _ => false) = true := by decide +kernel
  rw [made] at checked
  rcases ran : (inject ⟨⟨"monitoring", "c1"⟩, "1.0", 3⟩ directConfig "shop" [.agent, .enrichment]
    ⟨partly, x⟩).run Store.answer suppliedShop with ⟨⟨result, d⟩, s'⟩
  simp only [ran] at checked
  cases result with
  | error e => cases checked
  | ok given =>
    obtain ⟨distinct, counted, registered⟩ :=
      fresh_books_exact nodup wellFormed_partly some made ran
    exact ⟨nodup, wellFormed_partly, some, x, given, d, s', made, ran, distinct, counted,
      registered⟩

end PodInstrumentation
