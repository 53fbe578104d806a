import PodInstrumentation.Proofs.Json.Alike
/-!
Patches as they are sent: objects with the text of a path, in which each segment stands after a `/`
and has its own `~` and `/` escaped. Main statements: what is sent reads back as what was meant, and
what is sent for two documents turns the first into the second, nulls apart. -/
namespace PodInstrumentation

namespace Pointer

/-- The characters that an escaped segment stands for. A `~` escapes a `0` or a `1` after it and
stands nowhere else. -/
def unescape : List Char → Option (List Char)
  | [] => some []
  | '~' :: '0' :: cs => (unescape cs).map ('~' :: ·)
  | '~' :: '1' :: cs => (unescape cs).map ('/' :: ·)
  | c :: cs => if c = '~' then none else (unescape cs).map (c :: ·)

def read? (text : String) : Option Pointer :=
  match text.toList with
  | [] => some []
  | c :: cs =>
    if c = '/' then (cs.splitOn '/').mapM fun segment => (unescape segment).map String.ofList
    else none

theorem unescape_cons_of_ne {c : Char} (h : c ≠ '~') (cs : List Char) :
    unescape (c :: cs) = (unescape cs).map (c :: ·) := by
  rw [unescape, if_neg h]
  · rintro r rfl
    exact absurd rfl h
  · rintro r rfl
    exact absurd rfl h

theorem unescape_escape (key : String) : unescape (escape key) = some key.toList := by
  unfold escape
  induction key.toList with
  | nil => rfl
  | cons c cs ih =>
    rw [List.flatMap_cons]
    by_cases tilde : c = '~'
    · subst tilde
      simp [escapeChar, unescape, ih]
    · by_cases slash : c = '/'
      · subst slash
        simp [escapeChar, unescape, ih]
      · have plain : escapeChar c = [c] := by simp [escapeChar, tilde, slash]
        rw [plain, List.singleton_append, unescape_cons_of_ne tilde, ih]
        rfl

theorem slash_notMem_escape (key : String) : '/' ∉ escape key := by
  intro there
  obtain ⟨c, _, hc⟩ := List.mem_flatMap.mp there
  unfold escapeChar at hc
  split at hc
  · simp at hc
  · split at hc
    · simp at hc
    · rename_i slash
      exact slash (List.mem_singleton.mp hc).symm

theorem toList_text (key : String) (p : Pointer) :
    (text (key :: p)).toList = '/' :: ['/'].intercalate ((key :: p).map escape) := by
  have segments : ∀ key : String, (key :: p).flatMap (fun k => '/' :: escape k) =
      '/' :: ['/'].intercalate ((key :: p).map escape) := by
    induction p with
    | nil => simp
    | cons k p ih =>
      intro key
      rw [List.flatMap_cons, ih k]
      simp [List.intercalate]
  simp only [text, String.toList_ofList, segments]

theorem read?_text (p : Pointer) : read? (text p) = some p := by
  cases p with
  | nil => rfl
  | cons key p =>
    have segments : (['/'].intercalate ((key :: p).map escape)).splitOn '/' =
        (key :: p).map escape := by
      refine List.splitOn_intercalate '/' (fun l hl => ?_) (by simp)
      obtain ⟨k, _, rfl⟩ := List.mem_map.mp hl
      exact slash_notMem_escape k
    have whole : ((fun segment => (unescape segment).map String.ofList) ∘ escape) =
        fun k : String => pure k := by
      funext k
      simp [unescape_escape]
    unfold read?
    simp only [toList_text, if_true, segments]
    rw [List.mapM_map, whole, List.mapM_pure, List.map_id']
    rfl

end Pointer

def Operation.read? (fs : Fields) : Option Operation := do
  let path ← Pointer.read? (← (← fs.lookup "path").text?)
  match ← (← fs.lookup "op").text? with
  | "add" => return .add path (← fs.lookup "value")
  | "replace" => return .replace path (← fs.lookup "value")
  | "remove" => return .remove path
  | _ => none

theorem Operation.read?_fields (op : Operation) : read? op.fields = some op := by
  cases op <;> simp [fields, read?, List.lookup_cons, Json.text?, Pointer.read?_text]

namespace Patch

def run (sent : List Fields) (doc : Json) : Option Json :=
  (sent.mapM Operation.read?).bind fun patch => apply patch doc

theorem run_fields (patch : Patch) (doc : Json) :
    run (patch.map Operation.fields) doc = apply patch doc := by
  have read : Operation.read? ∘ Operation.fields = fun op => pure op :=
    funext Operation.read?_fields
  rw [run, List.mapM_map, read, List.mapM_pure, List.map_id']
  rfl

/-- What is sent for two documents, run on the first as it was read, makes it the second, nulls
apart; nothing is sent exactly if they are the same, nulls apart. -/
theorem sent_reaches {raw : List UInt8} {old new : Json} (read : Json.ofBytes raw = .ok old)
    (distinct : new.Distinct) :
    (∃ doc, run ((between old new).map Operation.fields) old = some doc ∧
      doc.stripNulls.Alike new.stripNulls) ∧
    (between old new = [] ↔ old.stripNulls.Alike new.stripNulls) := by
  have distinct' := Json.distinct_ofBytes read
  refine ⟨⟨Json.merge old new, ?_, Json.alike_merge distinct' distinct⟩, ?_⟩
  · rw [run_fields, Json.apply_between distinct' new]
  · exact difference_eq_nil_iff distinct'.stripNulls distinct.stripNulls

def drawer : Json := .obj [
  ("labels", .obj [("team/owner", .null), ("a~b", .str "x")]),
  ("spare", .null),
  ("items", .arr [.null, .obj [("size", .null)]])]

def filledDrawer : Json := .obj [
  ("items", .arr [.null, .obj [("size", .int 2)], .str "pen"]),
  ("labels", .obj [("team/owner", .str "core"), ("a~b", .str "y"), ("old", .null)])]

theorem distinct_filledDrawer : filledDrawer.Distinct := by
  refine .obj (by decide) ?_
  simp only [List.forall_mem_cons, List.not_mem_nil, false_implies, implies_true, and_true]
  refine ⟨.arr ?_, .obj (by decide) ?_⟩
  · simp only [List.forall_mem_cons, List.not_mem_nil, false_implies, implies_true, and_true]
    exact ⟨.null, .obj (by decide) (by simpa using .int 2), .str "pen"⟩
  · simpa using ⟨.str "core", .str "y", .null⟩

theorem sent_reaches_filledDrawer :
    Json.ofBytes (Text.Utf8.encode drawer.chars) = .ok drawer ∧ filledDrawer.Distinct ∧
    between drawer filledDrawer ≠ [] ∧
    ∃ doc, run ((between drawer filledDrawer).map Operation.fields) drawer = some doc ∧
      doc.stripNulls.Alike filledDrawer.stripNulls := by
  have read : Json.ofBytes (Text.Utf8.encode drawer.chars) = .ok drawer := by decide +kernel
  obtain ⟨reached, _⟩ := sent_reaches read distinct_filledDrawer
  exact ⟨read, distinct_filledDrawer, by decide +kernel, reached⟩

end Patch

end PodInstrumentation
