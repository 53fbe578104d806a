import Mathlib.Data.List.Basic
import PodInstrumentation.Proofs.Pod.Inverting
/-!
What the installer is told. A container is noted in a pair of variables unless its number is in use
already; of a list of containers, those that were changed are noted under their places. -/
namespace PodInstrumentation

namespace Names

theorem isPrefixOf_append (start rest : String) :
    start.toList.isPrefixOf (start ++ rest).toList = true := by
  rw [List.isPrefixOf_iff_prefix, String.toList_append]
  exact List.prefix_append _ _

theorem start_containerNameVar (n : Int) :
    containerVarStart.toList.isPrefixOf (containerNameVar n).toList = true := by
  have parts : containerNameVar n = containerVarStart ++ (toString n ++ "_NAME") := by
    rw [← String.append_assoc]
    rfl
  rw [parts]
  exact isPrefixOf_append _ _

theorem start_containerImageVar (n : Int) :
    containerVarStart.toList.isPrefixOf (containerImageVar n).toList = true := by
  have parts : containerImageVar n = containerVarStart ++ (toString n ++ "_IMAGE") := by
    rw [← String.append_assoc]
    rfl
  rw [parts]
  exact isPrefixOf_append _ _

theorem containerNameVar_ne {v : String} (h : containerVarStart.toList.isPrefixOf v.toList = false)
    (n : Int) : containerNameVar n ≠ v := by
  rintro rfl
  cases (start_containerNameVar n).symm.trans h

theorem containerImageVar_ne {v : String}
    (h : containerVarStart.toList.isPrefixOf v.toList = false) (n : Int) :
    containerImageVar n ≠ v := by
  rintro rfl
  cases (start_containerImageVar n).symm.trans h

theorem containerNameVar_ne_containerImageVar (m n : Int) :
    containerNameVar m ≠ containerImageVar n := by
  intro same
  have ends : (containerNameVar m).toList.reverse.take 2 =
      (containerImageVar n).toList.reverse.take 2 := by rw [same]
  have name : containerNameVar m = "CONTAINER_" ++ toString m ++ "_NAME" := rfl
  have image : containerImageVar n = "CONTAINER_" ++ toString n ++ "_IMAGE" := rfl
  simp [name, image] at ends

theorem containerNameVar_eq_of_imageVar_eq {m n : Int}
    (h : containerImageVar m = containerImageVar n) : containerNameVar m = containerNameVar n := by
  have whole : "CONTAINER_" ++ toString m ++ "_IMAGE" = "CONTAINER_" ++ toString n ++ "_IMAGE" := h
  have number : toString m = toString n := by
    have chars := congrArg String.toList whole
    simp only [String.toList_append, List.append_assoc, List.append_cancel_left_eq,
      List.append_cancel_right_eq] at chars
    exact String.toList_inj.mp chars
  show "CONTAINER_" ++ toString m ++ "_NAME" = "CONTAINER_" ++ toString n ++ "_NAME"
  rw [number]

theorem containerNameVar_injective {m n : Nat} (h : containerNameVar m = containerNameVar n) :
    m = n := by
  have whole : "CONTAINER_" ++ toString m ++ "_NAME" = "CONTAINER_" ++ toString n ++ "_NAME" := h
  have chars := congrArg String.toList whole
  simp only [String.toList_append, List.append_assoc, List.append_cancel_left_eq,
    List.append_cancel_right_eq] at chars
  have number : Patch.indexKey m = Patch.indexKey n := String.toList_inj.mp chars
  have read := congrArg Pointer.index? number
  rw [Pointer.index?_indexKey, Pointer.index?_indexKey] at read
  exact Option.some.inj read

end Names

namespace Pod

def knows (env : List Json) (number : Nat) : Bool :=
  env.any (Named (Names.containerNameVar number))

def pair (number : Nat) (c : Json) : List Json := [
  envVar (Names.containerNameVar number) ((c.get? "name").getD (.str "")),
  envVar (Names.containerImageVar number) ((c.get? "image").getD (.str ""))]

def noted (number : Nat) (c : Json) (env : List Json) : List Json :=
  if knows env number then env else env ++ pair number c

theorem named_envVar (name var : String) (value : Json) :
    Named name (envVar var value) = decide (var = name) := by
  have value : (envVar var value).get "name" = .str var := rfl
  simp [Named, value]

theorem named_stripNulls {x : Json} (object : x.IsObject) (name : String) :
    Named name x.stripNulls = Named name x := by
  have text : ∀ v : Json, v.stripNulls = .str name ↔ v = .str name := fun v => by
    cases v <;> simp [Json.stripNulls]
  simp only [Named, Json.get_stripNulls object, text]

theorem knows_append (env env' : List Json) (number : Nat) :
    knows (env ++ env') number = (knows env number || knows env' number) := List.any_append

theorem knows_pair (m n : Nat) (c : Json) : knows (pair n c) m = decide (n = m) := by
  have image := (Names.containerNameVar_ne_containerImageVar m n).symm
  by_cases h : n = m
  · simp [knows, pair, named_envVar, h]
  · have name : Names.containerNameVar n ≠ Names.containerNameVar m :=
      fun e => h (Names.containerNameVar_injective e)
    simp [knows, pair, named_envVar, h, name, image]

theorem knows_noted (m n : Nat) (c : Json) (env : List Json) :
    knows (noted n c env) m = (knows env m || decide (n = m)) := by
  unfold noted
  split
  · rename_i known
    by_cases h : n = m
    · simp [← h, known]
    · simp [h]
  · rw [knows_append, knows_pair]

theorem noted_noted (n : Nat) (c c' : Json) (env : List Json) :
    noted n c' (noted n c env) = noted n c env := by
  have known : knows (noted n c env) n = true := by simp [knows_noted]
  rw [noted, if_pos known]

theorem prefix_noted (n : Nat) (c : Json) (env : List Json) : env <+: noted n c env := by
  unfold noted
  split
  · exact List.prefix_rfl
  · exact List.prefix_append _ _

theorem noteContainer_eq_ok {number : Nat} {c x x' : Json}
    (h : noteContainer number c x = .ok x') :
    x'.itemsAt "env" = noted number c (x.itemsAt "env") := by
  obtain ⟨has, read, h⟩ := bind_eq_ok_iff.mp h
  have known : has = knows (x.itemsAt "env") number := hasNamed_eq_ok read
  rw [noted, ← known]
  cases has with
  | true =>
    cases h
    rfl
  | false =>
    cases c with
    | obj fs => exact itemsAt_of_arr (append_eq_ok h).1
    | null | bool | int | float | str | arr => cases h

/-- The containers that were changed, noted under the numbers from the given one on. -/
def told : (number : Nat) → List (Json × Json) → (env : List Json) → List Json
  | _, [], env => env
  | n, (c, c') :: sites, env => told (n + 1) sites (if c' = c then env else noted n c env)

theorem told_cons_same (n : Nat) (c : Json) (sites : List (Json × Json)) (env : List Json) :
    told n ((c, c) :: sites) env = told (n + 1) sites env := by
  rw [told, if_pos rfl]

theorem told_cons_changed {c c' : Json} (changed : c' ≠ c) (n : Nat)
    (sites : List (Json × Json)) (env : List Json) :
    told n ((c, c') :: sites) env = told (n + 1) sites (noted n c env) := by
  rw [told, if_neg changed]

theorem prefix_told (n : Nat) (sites : List (Json × Json)) (env : List Json) :
    env <+: told n sites env := by
  induction sites generalizing n env with
  | nil => exact List.prefix_rfl
  | cons site sites ih =>
    obtain ⟨c, c'⟩ := site
    by_cases same : c' = c
    · subst same
      rw [told_cons_same]
      exact ih _ _
    · rw [told_cons_changed same]
      exact (prefix_noted n c env).trans (ih _ _)

theorem knows_next {n : Nat} (c : Json) (env : List Json) (k : Nat) :
    knows (noted n c env) (n + 1 + k) = knows env (n + (k + 1)) := by
  have apart : n ≠ n + 1 + k := by omega
  have number : n + 1 + k = n + (k + 1) := by omega
  rw [knows_noted, decide_eq_false apart, Bool.or_false, number]

theorem pair_subset_told {sites : List (Json × Json)} {n : Nat} {env : List Json} {k : Nat}
    {c c' : Json} (site : sites[k]? = some (c, c')) (changed : c' ≠ c)
    (free : knows env (n + k) = false) : pair (n + k) c ⊆ told n sites env := by
  induction sites generalizing n env k with
  | nil => cases site
  | cons first sites ih =>
    obtain ⟨d, d'⟩ := first
    cases k with
    | zero =>
      cases site
      rw [Nat.add_zero] at free ⊢
      rw [told_cons_changed changed, noted, free]
      exact fun e he => (prefix_told _ _ _).subset (List.mem_append_right _ he)
    | succ k =>
      have number : n + (k + 1) = n + 1 + k := by omega
      by_cases same : d' = d
      · subst same
        rw [told_cons_same, number]
        exact ih site (number ▸ free)
      · rw [told_cons_changed same, number]
        exact ih site ((knows_next d env k).trans free)

theorem mem_told {sites : List (Json × Json)} {n : Nat} {env : List Json} {e : Json}
    (h : e ∈ told n sites env) : e ∈ env ∨ ∃ (k : Nat) (c c' : Json),
      sites[k]? = some (c, c') ∧ c' ≠ c ∧ knows env (n + k) = false ∧ e ∈ pair (n + k) c := by
  induction sites generalizing n env with
  | nil => exact .inl h
  | cons first sites ih =>
    obtain ⟨d, d'⟩ := first
    have number : ∀ k : Nat, n + 1 + k = n + (k + 1) := fun k => by omega
    by_cases same : d' = d
    · subst same
      rw [told_cons_same] at h
      refine (ih h).imp_right ?_
      rintro ⟨k, c, c', site, changed, free, there⟩
      exact ⟨k + 1, c, c', site, changed, number k ▸ free, number k ▸ there⟩
    · rw [told_cons_changed same] at h
      rcases ih h with there | ⟨k, c, c', site, changed, free, there⟩
      · unfold noted at there
        split at there
        · exact .inl there
        · rename_i free
          rcases List.mem_append.mp there with old | new
          · exact .inl old
          · exact .inr ⟨0, d, d', rfl, same, by simpa using free, new⟩
      · exact .inr ⟨k + 1, c, c', site, changed, (knows_next d env k).symm.trans free,
          number k ▸ there⟩

def label (c : Json) : Json × Json :=
  ((c.get? "name").getD (.str ""), (c.get? "image").getD (.str ""))

/-- Whether the two variables of some number carry the name and the image of a container. -/
def Tells (env : List Json) (c : Json) : Prop := ∃ n : Nat, pair n c ⊆ env

theorem pair_congr {c d : Json} (same : label c = label d) (n : Nat) : pair n c = pair n d := by
  rw [label, label, Prod.mk.injEq] at same
  rw [pair, same.1, same.2, pair]

theorem envVar_inj {v v' : String} {w w' : Json} :
    envVar v w = envVar v' w' ↔ v = v' ∧ w = w' := by simp [envVar]

theorem name_mem_pair {m n : Nat} {v : Json} {d : Json}
    (h : envVar (Names.containerNameVar m) v ∈ pair n d) : m = n ∧ v = (label d).1 := by
  rcases List.mem_pair.mp h with e | e
  · obtain ⟨var, value⟩ := envVar_inj.mp e
    exact ⟨Names.containerNameVar_injective var, value⟩
  · exact absurd (envVar_inj.mp e).1 (Names.containerNameVar_ne_containerImageVar m n)

theorem image_mem_pair {m n : Nat} {v : Json} {d : Json}
    (h : envVar (Names.containerImageVar m) v ∈ pair n d) : m = n ∧ v = (label d).2 := by
  rcases List.mem_pair.mp h with e | e
  · exact absurd (envVar_inj.mp e).1.symm (Names.containerNameVar_ne_containerImageVar n m)
  · obtain ⟨var, value⟩ := envVar_inj.mp e
    have number := Names.containerNameVar_eq_of_imageVar_eq var
    exact ⟨Names.containerNameVar_injective number, value⟩

theorem number_of_image {m n : Nat} {e d : Json} (h : e ∈ pair n d)
    (named : Named (Names.containerImageVar m) e = true) : m = n := by
  rcases List.mem_pair.mp h with rfl | rfl
  · rw [named_envVar, decide_eq_true_iff] at named
    exact absurd named (Names.containerNameVar_ne_containerImageVar n m)
  · rw [named_envVar, decide_eq_true_iff] at named
    exact Names.containerNameVar_injective (Names.containerNameVar_eq_of_imageVar_eq named.symm)

/-- A container is told of afterwards if it was before, or if one of its name and image was changed
whose number was free. -/
theorem tells_told_iff {env : List Json} (paired : ∀ m : Nat, knows env m = false →
      ∀ e ∈ env, Named (Names.containerImageVar m) e = false) {n : Nat}
    {sites : List (Json × Json)} {c : Json} :
    Tells (told n sites env) c ↔ Tells env c ∨ ∃ (k : Nat) (d d' : Json),
      sites[k]? = some (d, d') ∧ d' ≠ d ∧ knows env (n + k) = false ∧ label d = label c := by
  constructor
  · rintro ⟨m, both⟩
    have name : envVar (Names.containerNameVar m) (label c).1 ∈ told n sites env :=
      both List.mem_cons_self
    have image : envVar (Names.containerImageVar m) (label c).2 ∈ told n sites env :=
      both (List.mem_cons_of_mem _ List.mem_cons_self)
    rcases mem_told name with old | ⟨k, d, d', site, changed, free, new⟩
    · rcases mem_told image with old' | ⟨k, d, d', site, changed, free, new⟩
      · exact .inl ⟨m, List.cons_subset.mpr ⟨old, List.cons_subset.mpr ⟨old', List.nil_subset _⟩⟩⟩
      · -- The number is in use by the name, so that no container was noted under it.
        obtain ⟨rfl, _⟩ := image_mem_pair new
        have known : knows env (n + k) = true :=
          List.any_eq_true.mpr ⟨_, old, by rw [named_envVar, decide_eq_true rfl]⟩
        rw [known] at free
        cases free
    · obtain ⟨rfl, names⟩ := name_mem_pair new
      rcases mem_told image with old' | ⟨k', e, e', site', _, _, new'⟩
      · have other := paired _ free _ old'
        rw [named_envVar, decide_eq_true rfl] at other
        cases other
      · obtain ⟨number, images⟩ := image_mem_pair new'
        cases Nat.add_left_cancel number
        cases site.symm.trans site'
        exact .inr ⟨k, d, d', site, changed, free, (Prod.ext names images).symm⟩
  · rintro (⟨m, both⟩ | ⟨k, d, d', site, changed, free, same⟩)
    · exact ⟨m, fun e he => (prefix_told _ _ _).subset (both he)⟩
    · exact ⟨n + k, pair_congr same (n + k) ▸ pair_subset_told site changed free⟩

theorem knows_told {sites : List (Json × Json)} (changed : ∀ s ∈ sites, s.2 ≠ s.1) (n m : Nat)
    (env : List Json) : knows (told n sites env) m =
      (knows env m || decide (n ≤ m ∧ m < n + sites.length)) := by
  induction sites generalizing n env with
  | nil =>
    have none : ¬ (n ≤ m ∧ m < n + ([] : List (Json × Json)).length) := by simp
    rw [decide_eq_false none, Bool.or_false]
    rfl
  | cons first sites ih =>
    obtain ⟨d, d'⟩ := first
    rw [List.forall_mem_cons] at changed
    rw [told_cons_changed changed.1, ih changed.2, knows_noted, Bool.or_assoc,
      ← Bool.decide_or]
    congr 1
    rw [decide_eq_decide, List.length_cons]
    omega

/-- The variables that tell of containers whose numbers, from the given one on, are free. -/
def news : (number : Nat) → List Json → (env : List Json) → List Json
  | _, [], _ => []
  | n, c :: cs, env => (if knows env n then [] else pair n c) ++ news (n + 1) cs env

theorem news_congr (cs : List Json) {n : Nat} {env env' : List Json}
    (same : ∀ m, n ≤ m → knows env' m = knows env m) : news n cs env' = news n cs env := by
  induction cs generalizing n with
  | nil => rfl
  | cons c cs ih =>
    rw [news, news, same n (Nat.le_refl n), ih fun m above => same m (by omega)]

theorem told_eq_news {sites : List (Json × Json)} (changed : ∀ s ∈ sites, s.2 ≠ s.1) (n : Nat)
    (env : List Json) : told n sites env = env ++ news n (sites.map Prod.fst) env := by
  induction sites generalizing n env with
  | nil => exact (List.append_nil env).symm
  | cons first sites ih =>
    obtain ⟨d, d'⟩ := first
    rw [List.forall_mem_cons] at changed
    have later : ∀ m, n + 1 ≤ m → knows (noted n d env) m = knows env m := fun m above => by
      have apart : n ≠ m := by omega
      rw [knows_noted, decide_eq_false apart, Bool.or_false]
    rw [told_cons_changed changed.1, ih changed.2, news_congr _ later, List.map_cons, news, noted]
    split <;> simp

theorem knows_news {cs : List Json} {n m : Nat} (above : n ≤ m) (below : m < n + cs.length)
    (env : List Json) : knows (env ++ news n cs env) m = true := by
  induction cs generalizing n with
  | nil =>
    rw [List.length_nil] at below
    omega
  | cons c cs ih =>
    rw [List.length_cons] at below
    rw [news, knows_append, knows_append]
    by_cases here : n = m
    · subst here
      cases known : knows env n with
      | true => rfl
      | false => simp [knows_pair]
    · have rest := ih (by omega : n + 1 ≤ m) (by omega)
      rw [knows_append, Bool.or_eq_true] at rest
      rcases rest with old | new
      · simp [old]
      · simp [new]

theorem news_eq_nil {cs : List Json} {n : Nat} {env : List Json}
    (known : ∀ m, n ≤ m → m < n + cs.length → knows env m = true) : news n cs env = [] := by
  induction cs generalizing n with
  | nil => rfl
  | cons c cs ih =>
    rw [List.length_cons] at known
    rw [news, known n (Nat.le_refl n) (by omega), if_pos rfl,
      ih fun m above below => known m (by omega) (by omega), List.nil_append]

end Pod

end PodInstrumentation
