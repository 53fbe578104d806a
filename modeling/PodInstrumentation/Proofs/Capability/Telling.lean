import PodInstrumentation.Proofs.Capability.Growing
import PodInstrumentation.Proofs.Capability.Injecting
/-!
What the installer is told by injections and repairs. Both note the containers that they change,
under the places that these have at the time. -/
namespace PodInstrumentation

open Edit (Keeps apply_bind_eq_ok apply_step_eq_ok apply_look_eq_ok apply_on_eq_ok)
open Json (Grows)
open Pod

structure Longer (c c' : Json) : Prop where
  object : ∃ fs, c = .obj fs
  more : (c.itemsAt "volumeMounts").length < (c'.itemsAt "volumeMounts").length

theorem Longer.ne {c c' : Json} (h : Longer c c') : c' ≠ c := by
  rintro rfl
  exact Nat.lt_irrefl _ h.more

theorem Longer.trans {c c' c'' : Json} (h : Longer c c') (h' : Longer c' c'') : Longer c c'' :=
  ⟨h.object, Nat.lt_trans h.more h'.more⟩

theorem Longer.grows {c c' c'' : Json} (h : Longer c c') (grown : Grows containerRoom c' c'') :
    Longer c c'' :=
  ⟨h.object, Nat.lt_of_lt_of_le h.more (grown.itemsAt_prefix rfl).length_le⟩

theorem longer_append {c c' : Json} {mounts : List Json} (some : mounts ≠ [])
    (h : appendMounts mounts c = .ok c') : Longer c c' := by
  have more := List.length_pos_iff.mpr some
  refine ⟨?_, ?_⟩
  · cases c with
    | obj fs => exact ⟨fs, rfl⟩
    | null | bool | int | float | str | arr => cases h
  · rw [itemsAt_of_arr (append_eq_ok h).1, List.length_append]
    omega

theorem longer_of_first {add : Json → Shaped Json} (first : ∀ c c', add c = .ok c' → Longer c c')
    {rest : Unit → Edit Json Unit} (extends' : ∀ u, Extends (rest u)) :
    Keeps Longer (Edit.step add >>= rest) := by
  intro c u c' h
  obtain ⟨v, c₁, added, ran⟩ := apply_bind_eq_ok h
  exact (first c c₁ (apply_step_eq_ok added)).grows (extends' v c₁ u c' ran)

theorem Agent.longer_extendContainer (config : MonitoringConfig) (version clusterId : String)
    (installPath : Json) : Keeps Longer (extendContainer config version clusterId installPath) :=
  longer_of_first (fun _ _ => longer_append (List.cons_ne_nil _ _)) fun _ =>
    extends_variables _ _ _ _

theorem Enrichment.longer_extendContainer (config : MonitoringConfig)
    (version clusterId : String) : Keeps Longer (extendContainer config version clusterId) :=
  longer_of_first (fun _ _ => longer_append (List.cons_ne_nil _ _)) fun _ =>
    .step fun _ _ => addMetadata_grows rfl

theorem Capability.longer_containerEdit (c : Capability) (j : Injector)
    (config : MonitoringConfig) (pod : Json) : Keeps Longer (c.containerEdit j config pod) := by
  cases c with
  | agent =>
    intro x u x' h
    obtain ⟨info, x₁, looked, ran⟩ := apply_bind_eq_ok h
    rw [(apply_look_eq_ok looked).2] at ran
    exact Agent.longer_extendContainer config _ _ _ x u x' ran
  | enrichment => exact Enrichment.longer_extendContainer config _ _

section Site

variable {c c' x x' : Json} {n : Nat} {u : Unit}

theorem onInstaller_told
    (h : (Site.onInstaller (noteContainer n)).apply ⟨c, x⟩ = (.ok u, ⟨c', x'⟩)) :
    c' = c ∧ x'.itemsAt "env" = noted n c (x.itemsAt "env") := by
  obtain ⟨y, told, h⟩ := bind_eq_ok_iff.mp (apply_step_eq_ok h)
  cases h
  exact ⟨rfl, noteContainer_eq_ok told⟩

theorem onContainer_told {e : Edit Json Unit} (longer : Keeps Longer e)
    (h : (Site.onContainer e).apply ⟨c, x⟩ = (.ok u, ⟨c', x'⟩)) : Longer c c' ∧ x' = x := by
  obtain ⟨d, ran, h⟩ := apply_on_eq_ok h
  cases h
  exact ⟨longer c u _ ran, rfl⟩

theorem extend_told {e : Edit Json Unit} (longer : Keeps Longer e)
    (h : (Additions.extend e n).apply ⟨c, x⟩ = (.ok u, ⟨c', x'⟩)) :
    Longer c c' ∧ x'.itemsAt "env" = noted n c (x.itemsAt "env") := by
  obtain ⟨v, ⟨d, y⟩, told, ran⟩ := apply_bind_eq_ok h
  obtain ⟨rfl, noted⟩ := onInstaller_told told
  obtain ⟨more, rfl⟩ := onContainer_told longer ran
  exact ⟨more, noted⟩

theorem reinvoke_told {k : Capability} {j : Injector} {config : MonitoringConfig} {pod : Json}
    {hasInstaller : Bool}
    (h : (k.reinvoke j config pod n hasInstaller).apply ⟨c, x⟩ = (.ok u, ⟨c', x'⟩)) :
    Longer c c' ∧ x'.itemsAt "env" =
      if hasInstaller then noted n c (x.itemsAt "env") else x.itemsAt "env" := by
  have longer := k.longer_containerEdit j config pod
  unfold Capability.reinvoke at h
  cases hasInstaller with
  | true => exact extend_told longer h
  | false =>
    obtain ⟨more, rfl⟩ := onContainer_told longer h
    exact ⟨more, rfl⟩

/-- A container that is repaired is noted once, whatever it lacks, and only if the installer was
looked for in good order. One that lacks nothing stays as it is. -/
theorem repairSite_told {j : Injector} {config : MonitoringConfig} {pod : Json}
    {place? : Shaped (Option (Nat × Json))} {ks : List Capability} {changed : Bool}
    (h : (repairSite j config pod place? n ks).apply ⟨c, x⟩ = (.ok changed, ⟨c', x'⟩)) :
    c' = c ∧ x' = x ∨ Longer c c' ∧ ∃ place, place? = .ok place ∧ x'.itemsAt "env" =
      if place.isSome then noted n c (x.itemsAt "env") else x.itemsAt "env" := by
  -- over the capabilities that are looked for, with the container as it is by then
  induction ks generalizing c x changed with
  | nil =>
    cases h
    exact .inl ⟨rfl, rfl⟩
  | cons k ks ih =>
    unfold repairSite at h
    obtain ⟨lacking, s₁, looked, ran₁⟩ := apply_bind_eq_ok h
    rw [(apply_look_eq_ok looked).2] at ran₁
    cases lacking with
    | false => exact ih ran₁
    | true =>
      obtain ⟨place, s₂, found, ran₂⟩ := apply_bind_eq_ok ran₁
      obtain ⟨known, rfl⟩ := apply_look_eq_ok found
      obtain ⟨_, ⟨c₁, x₁⟩, reinvoked, ran₃⟩ := apply_bind_eq_ok ran₂
      obtain ⟨_, ⟨c₂, x₂⟩, rest, done⟩ := apply_bind_eq_ok ran₃
      cases done
      obtain ⟨more, told⟩ := reinvoke_told reinvoked
      rcases ih rest with ⟨rfl, rfl⟩ | ⟨more', place', known', told'⟩
      · exact .inr ⟨more, place, known, told⟩
      · cases known.symm.trans known'
        refine .inr ⟨more.trans more', place, known, ?_⟩
        -- The container was noted by then, under the same number.
        rw [told', told]
        cases place.isSome with
        | true => exact noted_noted n c c₁ _
        | false => rfl

end Site

theorem sweep_told {R : Json → Json → Prop} {step : Nat → Edit Site Bool}
    (h : ∀ (i : Nat) (c x : Json) (a : Bool) (c' x' : Json),
      (step i).apply ⟨c, x⟩ = (.ok a, ⟨c', x'⟩) → R c c' ∧ x'.itemsAt "env" =
        if c' = c then x.itemsAt "env" else noted (i + 1) c (x.itemsAt "env"))
    {i n : Nat} {cs cs' : List Json} {x x' : Json}
    (swept : sweep step i cs x = (.ok n, cs', x')) :
    cs'.length = cs.length ∧ (∀ s ∈ cs.zip cs', R s.1 s.2) ∧
      x'.itemsAt "env" = told (i + 1) (cs.zip cs') (x.itemsAt "env") := by
  induction cs generalizing i n cs' x with
  | nil =>
    cases swept
    exact ⟨rfl, nofun, rfl⟩
  | cons c cs ih =>
    obtain ⟨a, c₁, x₁, _, _, ran, rest, rfl⟩ := sweep_cons_eq_ok swept
    obtain ⟨related, first⟩ := h i c x a c₁ x₁ ran
    obtain ⟨longer, all, told'⟩ := ih rest
    refine ⟨by simp [longer], ?_, ?_⟩
    · rw [List.zip_cons_cons, List.forall_mem_cons]
      exact ⟨related, all⟩
    · rw [told', first]
      rfl

/-- Every container is extended, and noted under the number of its place. -/
theorem Additions.edit_told {a : Additions} (longer : Keeps Longer a.container) {d d' : Draft}
    {u : Unit} (ran : a.edit.apply d = (.ok u, d')) :
    (containerList d'.pod).length = (containerList d.pod).length ∧
    (∀ s ∈ (containerList d.pod).zip (containerList d'.pod), s.2 ≠ s.1) ∧
    d'.installer.itemsAt "env" = told 1 ((containerList d.pod).zip (containerList d'.pod))
      (d.installer.itemsAt "env" ++ a.installerVars) := by
  obtain ⟨_, d₁, volumes, ran₁⟩ := apply_bind_eq_ok ran
  obtain ⟨_, d₂, vars, ran₂⟩ := apply_bind_eq_ok ran₁
  obtain ⟨_, d₃, mounts, ran₃⟩ := apply_bind_eq_ok ran₂
  obtain ⟨n, d₄, each, ran₄⟩ := apply_bind_eq_ok ran₃
  obtain ⟨added, same₁⟩ := Draft.onPod_eq_ok volumes
  obtain ⟨same₂, given⟩ := Draft.onInstaller_eq_ok vars
  obtain ⟨same₃, mounted⟩ := Draft.onInstaller_eq_ok mounts
  obtain ⟨cs, cs', read, swept, put⟩ := Draft.eachContainer_eq_ok each
  obtain ⟨marked, same₄⟩ := Draft.onPod_eq_ok ran₄
  obtain ⟨length, all, env⟩ := sweep_told (R := Longer) (fun i c x b c' x' h => by
    obtain ⟨_, s, extended, done⟩ := apply_bind_eq_ok h
    cases done
    obtain ⟨more, noted⟩ := extend_told longer extended
    exact ⟨more, by rw [if_neg more.ne, noted]⟩) swept
  have before : containerList d₃.pod = containerList d.pod := by
    rw [same₃, same₂, containerList_appendVolumes added]
  have objects : ∀ c ∈ cs, ∃ fs, c = .obj fs := fun c hc => by
    rw [← List.map_fst_zip (Nat.le_of_eq length.symm)] at hc
    obtain ⟨s, hs, rfl⟩ := List.mem_map.mp hc
    exact (all s hs).object
  obtain ⟨found, written⟩ := containers_each_objects read objects length
  rw [before] at found
  have after : containerList d'.pod = cs' := by
    rw [containerList, spec_annotate marked, put]
    exact written
  have vars' : d₃.installer.itemsAt "env" = d.installer.itemsAt "env" ++ a.installerVars := by
    have kept := (append_eq_ok mounted).2 "env" (by decide)
    rw [Json.itemsAt, kept, (append_eq_ok given).1, same₁]
    rfl
  subst found
  rw [after, same₄, env, vars']
  exact ⟨length, fun s hs => (all s hs).ne, rfl⟩

structure Numbered (n : Nat) (env : List Json) : Prop where
  objects : ∀ e ∈ env, e.IsObject
  numbers : ∀ m : Nat, knows env m = decide (1 ≤ m ∧ m ≤ n)
  /-- No number is in use by an image alone. -/
  images : ∀ e ∈ env, ∀ m : Nat, Named (Names.containerImageVar m) e = true → 1 ≤ m ∧ m ≤ n

namespace Numbered

theorem paired {n : Nat} {env : List Json} (h : Numbered n env) (m : Nat)
    (free : knows env m = false) : ∀ e ∈ env, Named (Names.containerImageVar m) e = false := by
  intro e he
  rw [h.numbers, decide_eq_false_iff_not] at free
  exact Bool.eq_false_iff.mpr fun named => free (h.images e he m named)

theorem zero {vs : List String} {env : List Json} (entries : Entries vs env)
    (start : ∀ v ∈ vs, Names.containerVarStart.toList.isPrefixOf v.toList = false) :
    Numbered 0 env := by
  have name : ∀ e ∈ env, ∀ v, Named v e = true → v ∈ vs := fun e he v named =>
    (entries.mem_iff v).mp (List.mem_map.mpr ⟨e, he, by simpa [Named] using named⟩)
  refine ⟨entries.objects, fun m => ?_, fun e he m named => ?_⟩
  · have out : ¬ (1 ≤ m ∧ m ≤ 0) := by omega
    rw [decide_eq_false out, knows, List.any_eq_false]
    intro e he named
    exact Names.containerNameVar_ne (start _ (name e he _ named)) m rfl
  · exact absurd rfl (Names.containerImageVar_ne (start _ (name e he _ named)) m)

theorem append {n : Nat} {env env' : List Json} (h : Numbered n env) (h' : Numbered 0 env') :
    Numbered n (env ++ env') where
  objects := List.forall_mem_append.mpr ⟨h.objects, h'.objects⟩
  numbers m := by
    have none : ¬ (1 ≤ m ∧ m ≤ 0) := by omega
    rw [knows_append, h.numbers, h'.numbers, decide_eq_false none, Bool.or_false]
  images e he m named := by
    rcases List.mem_append.mp he with old | new
    · exact h.images e old m named
    · have none := h'.images e new m named
      omega

theorem told {n : Nat} {env : List Json} (h : Numbered n env) {sites : List (Json × Json)}
    (changed : ∀ s ∈ sites, s.2 ≠ s.1) :
    Numbered (max n sites.length) (Pod.told 1 sites env) where
  objects e he := by
    rcases mem_told he with old | ⟨k, c, _, _, _, _, new⟩
    · exact h.objects e old
    · rcases List.mem_pair.mp new with rfl | rfl <;> exact isObject_envVar _ _
  numbers m := by
    rw [knows_told changed, h.numbers, ← Bool.decide_or, decide_eq_decide]
    omega
  images e he m named := by
    rcases mem_told he with old | ⟨k, c, c', site, _, _, new⟩
    · have below := h.images e old m named
      omega
    · obtain ⟨inside, _⟩ := List.getElem?_eq_some_iff.mp site
      have number : m = 1 + k := number_of_image new named
      omega

theorem stripNulls {n : Nat} {env : List Json} (h : Numbered n env) :
    Numbered n (env.map Json.stripNulls) where
  objects := by simpa using fun e he => (h.objects e he).stripNulls
  numbers m := by
    have same : ∀ e ∈ env, Named (Names.containerNameVar m) e.stripNulls =
        Named (Names.containerNameVar m) e := fun e he => named_stripNulls (h.objects e he) _
    rw [← h.numbers, knows, List.any_map, knows, Bool.eq_iff_iff]
    simp only [List.any_eq_true, Function.comp_apply]
    exact exists_congr fun e => and_congr_right fun he => by rw [same e he]
  images e he m named := by
    obtain ⟨x, hx, rfl⟩ := List.mem_map.mp he
    rw [named_stripNulls (h.objects x hx)] at named
    exact h.images x hx m named

end Numbered

section Injection

variable {σ : Type} {answer : σ → (c : ApiCall) → Except Failure c.Answer × σ} {s s' : σ}
  {j : Injector} {config : MonitoringConfig} {ns : String}

theorem Capability.prepare_eq_ok {c : Capability} {pod : Json} {edit : Edit Draft Unit}
    (h : (c.prepare j config ns pod).play answer s = (.ok edit, s')) {d d' : Draft} {u : Unit}
    (ran : edit.apply d = (.ok u, d')) :
    ∃ a : Additions, a.edit.apply d = (.ok u, d') ∧ Keeps Longer a.container ∧
      Entries c.installerNames a.installerVars := by
  cases c with
  | agent =>
    obtain ⟨_, _, _, prepared⟩ := Attempt.play_bind_eq_ok h
    cases prepared
    obtain ⟨info, d₁, looked, edited⟩ := apply_bind_eq_ok ran
    rw [(apply_look_eq_ok looked).2] at edited
    refine ⟨Agent.additions j config info, edited, Agent.longer_extendContainer config _ _ _, ?_⟩
    exact ⟨by simp [Agent.additions, Agent.installerVars, isObject_envVar], rfl⟩
  | enrichment =>
    obtain ⟨_, _, _, h₁⟩ := Attempt.play_bind_eq_ok h
    obtain ⟨_, _, _, h₂⟩ := Attempt.play_bind_eq_ok h₁
    obtain ⟨workload, _, _, prepared⟩ := Attempt.play_bind_eq_ok h₂
    cases prepared
    refine ⟨Enrichment.additions j config workload, ran,
      Enrichment.longer_extendContainer config _ _, ?_⟩
    exact ⟨by simp [Enrichment.additions, Enrichment.installerVars, isObject_envVar], rfl⟩

theorem Capability.prepared_numbered {c : Capability} {pod : Json} {edit : Edit Draft Unit}
    (h : (c.prepare j config ns pod).play answer s = (.ok edit, s')) {d d' : Draft} {u : Unit}
    (ran : edit.apply d = (.ok u, d')) {n : Nat}
    (numbered : Numbered n (d.installer.itemsAt "env")) :
    (containerList d'.pod).length = (containerList d.pod).length ∧
      Numbered (max n (containerList d.pod).length) (d'.installer.itemsAt "env") := by
  obtain ⟨a, edited, longer, vars⟩ := prepare_eq_ok h ran
  obtain ⟨length, changed, env⟩ := Additions.edit_told longer edited
  refine ⟨length, ?_⟩
  have sites : ((containerList d.pod).zip (containerList d'.pod)).length =
      (containerList d.pod).length := by rw [List.length_zip, length, Nat.min_self]
  have given := numbered.append (.zero vars fun _ => start_installerNames)
  rw [env, ← sites]
  exact given.told changed

/-- The first capability numbers the containers, and the later ones keep the numbers. -/
theorem inject_numbered {cs : List Capability} {d d' : Draft} {names : List String}
    (h : (inject j config ns cs d).run answer s = ((.ok names, d'), s')) {n : Nat}
    (numbered : Numbered n (d.installer.itemsAt "env")) :
    Numbered (if names = [] then n else max n (containerList d.pod).length)
      (d'.installer.itemsAt "env") := by
  induction cs generalizing d names s n with
  | nil =>
    cases h
    exact numbered
  | cons c cs ih =>
    rcases inject_cons_eq_ok h with ⟨_, rest⟩ | ⟨_, edit, s₁, u, d₁, names₁, prepared, edited,
      rest, rfl⟩
    · exact ih rest numbered
    · -- What is given keeps the number of containers, so that it is the same for the rest.
      obtain ⟨length, first⟩ := Capability.prepared_numbered prepared edited numbered
      have second := ih rest first
      rw [length, Nat.max_assoc, Nat.max_self, ite_self] at second
      exact second

theorem Capability.wanted_of_annotations {pod pod' : Json}
    (same : annotations pod' = annotations pod) (cs : List Capability) :
    wanted pod' cs = wanted pod cs := by
  induction cs with
  | nil => rfl
  | cons c cs ih =>
    have first : c.enabled pod' = c.enabled pod := by
      cases c <;> simp only [enabled, flag, same]
    rw [wanted, first, ih, wanted]

theorem inject_some {cs ds : List Capability} {d d' : Draft} {names : List String}
    (h : (inject j config ns cs d).run answer s = ((.ok names, d'), s'))
    (wanted : Capability.wanted d.pod cs = .ok ds) (some : ds ≠ []) : names ≠ [] := by
  induction cs generalizing ds s with
  | nil =>
    cases wanted
    exact absurd rfl some
  | cons c cs ih =>
    rcases inject_cons_eq_ok h with ⟨refused, rest⟩ | ⟨_, _, _, _, _, _, _, _, _, rfl⟩
    · obtain ⟨b, asked, wanted₁⟩ := bind_eq_ok_iff.mp wanted
      obtain ⟨es, wants, wanted₂⟩ := bind_eq_ok_iff.mp wanted₁
      cases refused.symm.trans asked
      cases wanted₂
      exact ih rest wants some
    · exact List.cons_ne_nil _ _

end Injection

theorem told_same {sites : List (Json × Json)} (same : ∀ s ∈ sites, s.2 = s.1) (n : Nat)
    (env : List Json) : told n sites env = env := by
  induction sites generalizing n with
  | nil => rfl
  | cons s sites ih =>
    obtain ⟨c, c'⟩ := s
    rw [List.forall_mem_cons] at same
    rw [told, if_pos same.1, ih same.2]

section Repair

variable {j : Injector} {config : MonitoringConfig} {cs : List Capability} {pod pod' : Json}
  {n : Nat}

/-- Every container that is changed is noted under the number of its place. -/
theorem sweep_repaired {wanted : List Capability} {place : Nat × Json} {ys ys' : List Json}
    {x x' : Json} (ran : sweep (fun i => repairSite j config pod (.ok (some place)) (i + 1) wanted)
      0 ys x = (.ok n, ys', x')) :
    (∀ s ∈ ys.zip ys', s.2 = s.1 ∨ Longer s.1 s.2) ∧
      x'.itemsAt "env" = told 1 (ys.zip ys') (x.itemsAt "env") := by
  refine (sweep_told (R := fun c c' => c' = c ∨ Longer c c') (fun i c x b c' x' h => ?_) ran).2
  rcases repairSite_told h with ⟨rfl, rfl⟩ | ⟨more, _, known, noted⟩
  · exact ⟨.inl rfl, (if_pos rfl).symm⟩
  · cases known
    exact ⟨.inr more, by rw [noted, if_neg more.ne]; rfl⟩

theorem sweep_misshapen {wanted : List Capability} {e : Misshapen} {ys ys' : List Json}
    {x x' : Json} (ran : sweep (fun i => repairSite j config pod (.error e) (i + 1) wanted)
      0 ys x = (.ok n, ys', x')) : ∀ s ∈ ys.zip ys', s.2 = s.1 := by
  refine (sweep_told (R := fun c c' => c' = c) (fun i c x b c' x' h => ?_) ran).2.1
  rcases repairSite_told h with ⟨rfl, rfl⟩ | ⟨_, _, known, _⟩
  · exact ⟨rfl, (if_pos rfl).symm⟩
  · cases known

theorem told_putContainers {ys ys' : List Json} (read : (containers pod >>= Json.each) = .ok ys)
    (length : ys'.length = ys.length)
    (sites : ∀ s ∈ ys.zip ys', s.2 = s.1 ∨ Longer s.1 s.2) (env : List Json) :
    (containerList (putContainers ys' pod)).length = (containerList pod).length ∧
      told 1 ((containerList pod).zip (containerList (putContainers ys' pod))) env =
        told 1 (ys.zip ys') env := by
  rcases containers_each_eq_ok read ys' with ⟨rfl, written⟩ | ⟨vacant, vacant', texts⟩
  · rw [written]
    exact ⟨length, rfl⟩
  · have same : ∀ s ∈ ys.zip ys', s.2 = s.1 := fun s hs => (sites s hs).resolve_right fun more => by
      obtain ⟨fs, object⟩ := more.object
      obtain ⟨text, read⟩ := texts s.1 (List.of_mem_zip hs).1
      cases object.symm.trans read
    rw [vacant, vacant', told_same same]
    exact ⟨rfl, rfl⟩

/-- The installer is told of every container that is changed, under the number of its place, and of
nothing else. -/
theorem repair_told (h : repair j config cs pod = (.ok n, pod')) :
    (containerList pod').length = (containerList pod).length ∧
      ∀ x, installer? pod = some x → ∃ x', installer? pod' = some x' ∧
        x'.itemsAt "env" = told 1 ((containerList pod).zip (containerList pod'))
          (x.itemsAt "env") := by
  obtain ⟨wanted, ys, _, read, ⟨i, x, ys', x', found, ran, rfl⟩ | ⟨x₀, ys', x', none, ran, rfl⟩⟩ :=
    repair_eq_ok h
  · obtain ⟨length, installer, _⟩ := sweep_repair_grows ran
    rw [found] at ran
    obtain ⟨sites, env⟩ := sweep_repaired ran
    obtain ⟨length', same⟩ := told_putContainers read length sites (x.itemsAt "env")
    have still := (findInstaller_putContainers ys' pod).trans found
    have put := (installer?_putInstaller still (installer.get_closed rfl)).2
    rw [containerList_putInstaller]
    refine ⟨length', fun y hy => ⟨x', put, ?_⟩⟩
    cases (installer?_putInstaller found (installer.get_closed rfl)).1.symm.trans hy
    exact env.trans same.symm
  · obtain ⟨length, _, grown⟩ := sweep_repair_grows ran
    refine ⟨?_, fun x hx => ⟨x, ?_, ?_⟩⟩
    · rcases containers_each_eq_ok read ys' with ⟨rfl, written⟩ | ⟨vacant, vacant', _⟩
      · rw [written, length]
      · rw [vacant, vacant']
    · rw [installer?, initContainerList_putContainers]
      exact hx
    · -- Where the installers cannot be read, the sweep leaves every container as it was.
      cases found : findInstaller pod with
      | error e =>
        rw [found] at ran
        have same := sweep_misshapen ran
        obtain ⟨_, told⟩ := told_putContainers read length (fun s hs => .inl (same s hs))
          (x.itemsAt "env")
        rw [told, told_same same]
      | ok place? =>
        cases place? with
        | none => cases (installer?_of_missing found).symm.trans hx
        | some place => exact absurd found (none place)

end Repair

end PodInstrumentation
