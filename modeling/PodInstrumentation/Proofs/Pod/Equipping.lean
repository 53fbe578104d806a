import Mathlib.Data.List.Basic
import Mathlib.Data.List.Count
import PodInstrumentation.Proofs.Pod.Patching
/-!
Containers that get variables and mounts. Of what is added only the names are kept in view, since
all that is asked of a container later is which names are in its lists. -/
namespace PodInstrumentation.Pod

def names (list : String) (c : Json) : List Json := (c.itemsAt list).map (·.get "name")

/-- How often a name is in a list of an object. -/
def tally (list name : String) (c : Json) : Nat := (names list c).count (.str name)

theorem tally_pos {list name : String} {c : Json} :
    0 < tally list name c ↔ .str name ∈ names list c := List.count_pos_iff

structure Entries (ns : List String) (xs : List Json) : Prop where
  objects : ∀ x ∈ xs, x.IsObject
  named : xs.map (·.get "name") = ns.map .str

theorem any_named (name list : String) (c : Json) :
    (c.itemsAt list).any (Named name) = decide (.str name ∈ names list c) := by
  unfold names
  induction c.itemsAt list with
  | nil => rfl
  | cons x xs ih => simp [ih, Named, eq_comm (a := x.get "name")]

theorem hasEnv_names {c : Json} (h : IsContainer c) (name : String) :
    hasEnv c name = .ok (decide (.str name ∈ names "env" c)) := by
  rw [hasEnv_ok h, any_named]

theorem hasMount_names {c : Json} (h : IsContainer c) (name : String) :
    hasMount c name = .ok (decide (.str name ∈ names "volumeMounts" c)) := by
  rw [hasMount_ok h, any_named]

namespace Entries

theorem nil : Entries [] [] := ⟨by simp, rfl⟩

theorem append {ns ms : List String} {xs ys : List Json} (h : Entries ns xs) (h' : Entries ms ys) :
    Entries (ns ++ ms) (xs ++ ys) where
  objects := List.forall_mem_append.mpr ⟨h.objects, h'.objects⟩
  named := by simp [h.named, h'.named]

theorem cons {n : String} {ns : List String} {x : Json} {xs : List Json} (object : x.IsObject)
    (named : x.get "name" = .str n) (h : Entries ns xs) : Entries (n :: ns) (x :: xs) where
  objects := List.forall_mem_cons.mpr ⟨object, h.objects⟩
  named := by simp [named, h.named]

theorem ne_nil {ns : List String} {xs : List Json} (h : Entries ns xs) (some : ns ≠ []) :
    xs ≠ [] := by
  rintro rfl
  exact some (List.map_eq_nil_iff.mp h.named.symm)

theorem stripNulls {ns : List String} {xs : List Json} (h : Entries ns xs) :
    Entries ns (xs.map Json.stripNulls) where
  objects := by simpa using fun x hx => (h.objects x hx).stripNulls
  named := by
    have each : xs.map (fun x => x.stripNulls.get "name") =
        (xs.map (·.get "name")).map Json.stripNulls := by
      rw [List.map_map]
      exact List.map_congr_left fun x hx => Json.get_stripNulls (h.objects x hx) "name"
    rw [List.map_map]
    refine each.trans ?_
    rw [h.named, List.map_map]
    rfl

theorem mem_iff {ns : List String} {xs : List Json} (h : Entries ns xs) (n : String) :
    .str n ∈ xs.map (·.get "name") ↔ n ∈ ns := by
  rw [h.named, List.mem_map_of_injective fun _ _ => Json.str.inj]

theorem merge {ns ms : List String} {xs ys : List Json} (h : Entries ns xs) (h' : Entries ms ys) :
    Entries ms (Json.mergeItems xs ys) := by
  induction xs generalizing ns ms ys with
  | nil =>
    rw [Json.mergeItems_nil_left]
    exact h'.stripNulls
  | cons x xs ih =>
    cases ys with
    | nil => exact h'
    | cons y ys =>
      obtain ⟨objects, named⟩ := h
      obtain ⟨objects', named'⟩ := h'
      cases ns with
      | nil => cases named
      | cons n ns =>
        cases ms with
        | nil => cases named'
        | cons m ms =>
          simp only [List.map_cons, List.cons.injEq] at named named'
          rw [List.forall_mem_cons] at objects objects'
          rw [Json.mergeItems_cons]
          refine .cons (objects.1.merge objects'.1) ?_
            (ih ⟨objects.2, named.2⟩ ⟨objects'.2, named'.2⟩)
          rw [Json.get_merge objects.1 objects'.1, named'.1, Json.merge_str (.inr ⟨n, named.1⟩)]

end Entries

theorem tally_append {list : String} {a b : Json} {ns : List String} {xs : List Json}
    (h : b.itemsAt list = a.itemsAt list ++ xs) (entries : Entries ns xs) (name : String) :
    tally list name b = tally list name a + ns.count name := by
  rw [tally, names, h, List.map_append, entries.named, List.count_append,
    List.count_map_of_injective ns Json.str fun _ _ => Json.str.inj]
  rfl

theorem tally_congr {list : String} {a b : Json} (h : b.itemsAt list = a.itemsAt list)
    (name : String) : tally list name b = tally list name a := by
  rw [tally, names, h]
  rfl

theorem tally_eq_zero {list name : String} {c : Json} :
    tally list name c = 0 ↔ ∀ x ∈ c.itemsAt list, Named name x = false := by
  simp [tally, names, List.count_eq_zero, Named]

structure Equipped (vars mounts : List String) (c c' : Json) : Prop where
  isContainer : IsContainer c'
  frame : ∀ key, key ≠ "env" → key ≠ "volumeMounts" → c'.get? key = c.get? key
  env : ∃ xs, c'.itemsAt "env" = c.itemsAt "env" ++ xs ∧ Entries vars xs
  mounts : ∃ xs, c'.itemsAt "volumeMounts" = c.itemsAt "volumeMounts" ++ xs ∧ Entries mounts xs

namespace Equipped

variable {vars vars' mounts mounts' : List String} {c c' c'' : Json}

theorem refl (h : IsContainer c) : Equipped [] [] c c :=
  ⟨h, fun _ _ _ => rfl, ⟨[], by simp, .nil⟩, ⟨[], by simp, .nil⟩⟩

theorem trans (h : Equipped vars mounts c c') (h' : Equipped vars' mounts' c' c'') :
    Equipped (vars ++ vars') (mounts ++ mounts') c c'' where
  isContainer := h'.isContainer
  frame key he hm := (h'.frame key he hm).trans (h.frame key he hm)
  env := by
    obtain ⟨xs, hxs, entries⟩ := h.env
    obtain ⟨ys, hys, entries'⟩ := h'.env
    exact ⟨xs ++ ys, by rw [hys, hxs, List.append_assoc], entries.append entries'⟩
  mounts := by
    obtain ⟨xs, hxs, entries⟩ := h.mounts
    obtain ⟨ys, hys, entries'⟩ := h'.mounts
    exact ⟨xs ++ ys, by rw [hys, hxs, List.append_assoc], entries.append entries'⟩

theorem names_env (h : Equipped vars mounts c c') :
    names "env" c' = names "env" c ++ vars.map .str := by
  obtain ⟨xs, hxs, entries⟩ := h.env
  simp [names, hxs, entries.named]

theorem names_mounts (h : Equipped vars mounts c c') :
    names "volumeMounts" c' = names "volumeMounts" c ++ mounts.map .str := by
  obtain ⟨xs, hxs, entries⟩ := h.mounts
  simp [names, hxs, entries.named]

theorem tally_env (h : Equipped vars mounts c c') (name : String) :
    tally "env" name c' = tally "env" name c + vars.count name := by
  obtain ⟨xs, hxs, entries⟩ := h.env
  exact tally_append hxs entries name

theorem tally_mounts (h : Equipped vars mounts c c') (name : String) :
    tally "volumeMounts" name c' = tally "volumeMounts" name c + mounts.count name := by
  obtain ⟨xs, hxs, entries⟩ := h.mounts
  exact tally_append hxs entries name

theorem name_eq (h : Equipped vars mounts c c') : c'.get "name" = c.get "name" :=
  congrArg (fun o => o.getD .null) (h.frame "name" (by decide) (by decide))

theorem merge (distinct : c.Distinct) (hc : IsContainer c) (h : Equipped vars mounts c c') :
    Equipped vars mounts c (Json.merge c c') where
  isContainer := hc.merge h.isContainer
  frame key he hm :=
    Json.get?_merge_of_eq distinct hc.object h.isContainer.object (h.frame key he hm)
  env := by
    obtain ⟨xs, hxs, entries⟩ := h.env
    refine ⟨_, ?_, entries.stripNulls⟩
    rw [Json.itemsAt_merge hc.object h.isContainer.object hc.env h.isContainer.env, hxs]
    exact Json.mergeItems_append (distinct.itemsAt _) xs
  mounts := by
    obtain ⟨xs, hxs, entries⟩ := h.mounts
    refine ⟨_, ?_, entries.stripNulls⟩
    rw [Json.itemsAt_merge hc.object h.isContainer.object hc.mounts h.isContainer.mounts, hxs]
    exact Json.mergeItems_append (distinct.itemsAt _) xs

/-- Sent as a patch, what is added goes by the same names. -/
theorem names_merge (distinct : c.Distinct) (hc : IsContainer c) (h : Equipped vars mounts c c')
    {list : String} (written : list = "env" ∨ list = "volumeMounts") :
    names list (Json.merge c c') = names list c' := by
  have merged := h.merge distinct hc
  rcases written with rfl | rfl
  · exact merged.names_env.trans h.names_env.symm
  · exact merged.names_mounts.trans h.names_mounts.symm

end Equipped

/-- A list put at the end of a list of an object, which is begun only for an item. -/
def extended (list : String) (xs : List Json) (c : Json) : Json :=
  if xs = [] then c else c.set list (.arr (c.itemsAt list ++ xs))

section Extended

variable {list : String} {c : Json}

theorem isObject_extended (h : c.IsObject) (list : String) (xs : List Json) :
    (extended list xs c).IsObject := by
  unfold extended
  split
  · exact h
  · exact h.set _ _

theorem itemsAt_extended_self (h : c.IsObject) (list : String) (xs : List Json) :
    (extended list xs c).itemsAt list = c.itemsAt list ++ xs := by
  unfold extended
  split
  · rename_i none
    rw [none, List.append_nil]
  · exact Json.itemsAt_set_self h list _

theorem get?_extended_of_ne {other : String} (ne : other ≠ list) (xs : List Json) (c : Json) :
    (extended list xs c).get? other = c.get? other := by
  unfold extended
  split
  · rfl
  · exact Json.get?_set_of_ne ne c _

theorem get_extended_of_ne {other : String} (ne : other ≠ list) (xs : List Json) (c : Json) :
    (extended list xs c).get other = c.get other :=
  congrArg (fun o => o.getD .null) (get?_extended_of_ne ne xs c)

theorem itemsAt_extended_of_ne {other : String} (ne : other ≠ list) (xs : List Json) (c : Json) :
    (extended list xs c).itemsAt other = c.itemsAt other := by
  simp only [Json.itemsAt, get_extended_of_ne ne]

theorem listed_extended_self (h : c.IsObject) (listed : c.Listed list) {xs : List Json}
    (objects : ∀ x ∈ xs, x.IsObject) : (extended list xs c).Listed list := by
  unfold extended
  split
  · exact listed
  · exact .set_self h (List.forall_mem_append.mpr ⟨listed.2, objects⟩)

theorem listed_extended_of_ne {other : String} (ne : other ≠ list) (listed : c.Listed other)
    (xs : List Json) : (extended list xs c).Listed other := by
  unfold extended
  split
  · exact listed
  · exact listed.set_of_ne ne _

theorem append_extended (h : c.IsObject) (listed : c.Listed list) {xs ys : List Json}
    (objects : ∀ x ∈ xs, x.IsObject) (some : ys ≠ []) :
    append list ys (extended list xs c) = .ok (extended list (xs ++ ys) c) := by
  rw [append_ok (isObject_extended h list xs) (listed_extended_self h listed objects),
    itemsAt_extended_self h]
  unfold extended
  rw [if_neg (by simp [some] : xs ++ ys ≠ [])]
  split
  · rename_i none
    simp [none]
  · simp

end Extended

def equip (vars mounts : List Json) (c : Json) : Json :=
  extended "env" vars (extended "volumeMounts" mounts c)

section Equip

variable {c : Json} (h : IsContainer c)
include h

theorem equipped_equip {vs ms : List String} {vars mounts : List Json} (hv : Entries vs vars)
    (hm : Entries ms mounts) : Equipped vs ms c (equip vars mounts c) where
  isContainer :=
    { object := isObject_extended (isObject_extended h.object _ _) _ _
      env := listed_extended_self (isObject_extended h.object _ _)
        (listed_extended_of_ne (by decide) h.env _) hv.objects
      mounts := listed_extended_of_ne (by decide)
        (listed_extended_self h.object h.mounts hm.objects) _ }
  frame key he hm := (get?_extended_of_ne he _ _).trans (get?_extended_of_ne hm _ _)
  env := by
    refine ⟨vars, ?_, hv⟩
    rw [equip, itemsAt_extended_self (isObject_extended h.object _ _),
      itemsAt_extended_of_ne (by decide)]
  mounts := by
    refine ⟨mounts, ?_, hm⟩
    rw [equip, itemsAt_extended_of_ne (by decide), itemsAt_extended_self h.object]

theorem appendMounts_ok {mounts : List Json} (some : mounts ≠ []) :
    appendMounts mounts c = .ok (equip [] mounts c) := by
  have put : append "volumeMounts" mounts (extended "volumeMounts" [] c) =
      .ok (extended "volumeMounts" ([] ++ mounts) c) :=
    append_extended h.object h.mounts (List.forall_mem_nil _) some
  exact put

theorem appendEnv_equip {vars mounts xs : List Json} (objects : ∀ x ∈ vars, x.IsObject)
    (some : xs ≠ []) :
    appendEnv xs (equip vars mounts c) = .ok (equip (vars ++ xs) mounts c) :=
  append_extended (isObject_extended h.object _ _) (listed_extended_of_ne (by decide) h.env _)
    objects some

theorem appendEnv_ok {vars : List Json} (some : vars ≠ []) :
    appendEnv vars c = .ok (equip vars [] c) := by
  have put : appendEnv vars (equip [] [] c) = .ok (equip ([] ++ vars) [] c) :=
    appendEnv_equip h (List.forall_mem_nil _) some
  exact put

end Equip

/-- The deployment metadata that a container is given, if it has none. -/
def metadataVars (config : MonitoringConfig) (version clusterId : String) (c : Json) : List Json :=
  if .str Names.metadataVar ∈ names "env" c then [] else
    [envVar Names.metadataVar (.str (deploymentMetadata config.deploymentType version clusterId))]

theorem entries_metadataVars (config : MonitoringConfig) (version clusterId : String) (c : Json) :
    Entries (if .str Names.metadataVar ∈ names "env" c then [] else [Names.metadataVar])
      (metadataVars config version clusterId c) := by
  unfold metadataVars
  split
  · exact .nil
  · exact .cons (isObject_envVar _ _) rfl .nil

theorem addMetadata_equip {c : Json} (h : IsContainer c) {mounts : List Json} {ms : List String}
    (hm : Entries ms mounts) (config : MonitoringConfig) (version clusterId : String) :
    addMetadata config version clusterId (equip [] mounts c) =
      .ok (equip (metadataVars config version clusterId c) mounts c) := by
  have equipped := equipped_equip h .nil hm
  have same : names "env" (equip [] mounts c) = names "env" c := by simp [equipped.names_env]
  simp only [addMetadata, hasEnv_names equipped.isContainer, ok_bind, metadataVars, ← same]
  by_cases has : Json.str Names.metadataVar ∈ names "env" (equip [] mounts c)
  · rw [if_pos has, if_pos (decide_eq_true has)]
    rfl
  · rw [if_neg has, if_neg (by simpa using has)]
    exact appendEnv_equip h (List.forall_mem_nil _) (by simp)

def notes (number : Int) (installer : Json) : List String :=
  if .str (Names.containerNameVar number) ∈ names "env" installer then []
  else [Names.containerNameVar number, Names.containerImageVar number]

theorem noteContainer_ok (number : Int) {c installer : Json} (hc : c.IsObject)
    (h : IsContainer installer) : ∃ installer', noteContainer number c installer = .ok installer' ∧
      Equipped (notes number installer) [] installer installer' := by
  simp only [noteContainer, hasEnv_names h, ok_bind, notes]
  by_cases has : Json.str (Names.containerNameVar number) ∈ names "env" installer
  · exact ⟨installer, by rw [if_pos (decide_eq_true has)]; rfl, by rw [if_pos has]; exact .refl h⟩
  · rw [if_neg (by simpa using has), if_neg has]
    cases hc with
    | intro nodup =>
      refine ⟨_, appendEnv_ok h (by simp), equipped_equip h ?_ .nil⟩
      exact .cons (isObject_envVar _ _) rfl (.cons (isObject_envVar _ _) rfl .nil)

end PodInstrumentation.Pod
