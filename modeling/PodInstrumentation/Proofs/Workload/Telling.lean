import Mathlib.Data.List.Forall2
import PodInstrumentation.Capability.Content
import PodInstrumentation.Proofs.Cluster.Pairing
import PodInstrumentation.Proofs.Json.SameBut
import PodInstrumentation.Proofs.Pod.Growing
/-!
Installers that are told of different workloads. They differ in the values of two variables, and
nothing that is done to both of them in the course of an injection makes more of that difference. -/
namespace PodInstrumentation.Pod

open List (Forall₂)

def workloadVars : List String := [Names.workloadKindVar, Names.workloadNameVar]

inductive OtherValue : Json → Json → Prop
  | same (v : Json) : OtherValue v v
  | other {name : String} {a a' : Json} (named : name ∈ workloadVars) (ha : a ≠ .null)
      (ha' : a' ≠ .null) : OtherValue (envVar name a) (envVar name a')

def OtherValues (v v' : Json) : Prop :=
  ∃ vars vars', v = .arr vars ∧ v' = .arr vars' ∧ Forall₂ OtherValue vars vars'

structure OtherWorkload (x x' : Json) : Prop where
  object : x.IsObject
  vars : x.SameBut "env" OtherValues x'

theorem OtherValue.field_name {v v' : Json} (h : OtherValue v v') :
    v'.field "name" = v.field "name" := by
  cases h <;> rfl

theorem OtherValue.stripNulls {v v' : Json} (h : OtherValue v v') :
    OtherValue v.stripNulls v'.stripNulls := by
  cases h with
  | same => exact .same _
  | @other name a a' named ha ha' =>
    have stripped : ∀ {a : Json}, a ≠ .null →
        (envVar name a).stripNulls = envVar name a.stripNulls := fun ha => by
      simp [envVar, Json.stripNulls, Json.stripFields, Json.stripFields_cons_of_ne ha]
    rw [stripped ha, stripped ha']
    exact .other named (fun e => ha (Json.stripNulls_eq_null.mp e))
      fun e => ha' (Json.stripNulls_eq_null.mp e)

theorem forall₂_same (vars : List Json) : Forall₂ OtherValue vars vars :=
  List.forall₂_same.mpr fun v _ => .same v

theorem OtherValues.stripNulls {v v' : Json} (h : OtherValues v v') :
    OtherValues v.stripNulls v'.stripNulls := by
  obtain ⟨vars, vars', rfl, rfl, values⟩ := h
  refine ⟨_, _, rfl, rfl, ?_⟩
  rw [Json.stripItems_eq_map, Json.stripItems_eq_map, List.forall₂_map_left_iff,
    List.forall₂_map_right_iff]
  exact values.imp fun _ _ => OtherValue.stripNulls

theorem anyNamed_otherValues (name : String) {vars vars' : List Json}
    (h : Forall₂ OtherValue vars vars') : anyNamed name vars' = anyNamed name vars := by
  induction h with
  | nil => rfl
  | cons first _ ih => simp only [anyNamed, first.field_name, ih]

namespace OtherWorkload

variable {x x' : Json}

theorem refl (object : x.IsObject) {vars : List Json} (env : x.get "env" = .arr vars) :
    OtherWorkload x x where
  object := object
  vars := by
    have there : x.get "env" ≠ .null := by simp [env]
    refine ⟨there, x.get "env", there, ⟨vars, vars, env, env, forall₂_same vars⟩, ?_⟩
    cases object with
    | @intro fs nodup =>
      exact congrArg Json.obj (Fields.put_of_lookup (Json.get?_of_get_ne_null there)).symm

theorem hasEnv_eq (h : OtherWorkload x x') (name : String) : hasEnv x' name = hasEnv x name := by
  obtain ⟨_, w, _, ⟨vars, vars', env, rfl, values⟩, rfl⟩ := h.vars
  simp only [hasEnv, hasNamed, h.object.field, (h.object.set _ _).field, ok_bind,
    Json.get_set_self h.object, env, each_arr, anyNamed_otherValues name values]

theorem appendEnv (h : OtherWorkload x x') {new new' : List Json}
    (values : Forall₂ OtherValue new new') :
    Agree OtherWorkload (Pod.appendEnv new x) (Pod.appendEnv new' x') := by
  obtain ⟨_, w, _, ⟨vars, vars', env, rfl, known⟩, rfl⟩ := id h.vars
  have both : OtherValues (.arr (vars ++ new)) (.arr (vars' ++ new')) :=
    ⟨_, _, rfl, rfl, List.rel_append known values⟩
  rw [Pod.appendEnv, Pod.appendEnv, append_eq h.object, append_eq (h.object.set _ _), env,
    Json.get_set_self h.object]
  exact .ok ⟨h.object.set _ _, h.vars.set_self h.object nofun nofun both⟩

theorem appendMounts (h : OtherWorkload x x') (mounts : List Json) :
    Agree OtherWorkload (Pod.appendMounts mounts x) (Pod.appendMounts mounts x') := by
  have same : x'.get "volumeMounts" = x.get "volumeMounts" := h.vars.get_of_ne (by decide)
  rw [Pod.appendMounts, append_eq h.object, append_eq (h.vars.isObject h.object), same]
  cases appended (x.get "volumeMounts") mounts with
  | error e => exact .error e
  | ok list => exact .ok ⟨h.object.set _ _, h.vars.set_of_ne (by decide) list⟩

theorem noteContainer (h : OtherWorkload x x') (number : Int) (container : Json) :
    Agree OtherWorkload (Pod.noteContainer number container x)
      (Pod.noteContainer number container x') := by
  unfold Pod.noteContainer
  rw [h.hasEnv_eq]
  cases hasEnv x (Names.containerNameVar number) with
  | error e => exact .error e
  | ok has =>
    cases has with
    | true => exact .ok h
    | false =>
      cases container with
      | obj fs => exact h.appendEnv (forall₂_same _)
      | null | bool | int | float | str | arr => exact .error _

theorem stripNulls (h : OtherWorkload x x') : OtherWorkload x.stripNulls x'.stripNulls where
  object := h.object.stripNulls
  vars := h.vars.stripNulls h.object fun _ _ => OtherValues.stripNulls

end OtherWorkload

structure Known (w : Workload) : Prop where
  name : w.name ≠ .null
  kind : w.kind ≠ .null

theorem otherValue_installerVars {w w' : Workload} (h : Known w) (h' : Known w') :
    Forall₂ OtherValue (Enrichment.installerVars w) (Enrichment.installerVars w') :=
  .cons (.other (by decide) h.kind h'.kind) (.cons (.other (by decide) h.name h'.name)
    (forall₂_same _))

end PodInstrumentation.Pod
