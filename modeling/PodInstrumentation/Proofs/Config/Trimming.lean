import Mathlib.Data.List.DropRight
import PodInstrumentation.Proofs.Config.Checking
/-!
The URL of the API as it is kept. It is checked as it was given and trimmed afterwards, so that the
check holds of what is kept exactly if more than slashes stand behind the scheme. -/
namespace PodInstrumentation

namespace Text

variable {p : Char → Bool} {front rest : List Char}

theorem dropEnd_eq_rdropWhile (p : Char → Bool) (cs : List Char) :
    dropEnd p cs = cs.rdropWhile p :=
  rfl

theorem dropEnd_append_of_all (dropped : ∀ c ∈ rest, p c = true) :
    dropEnd p (front ++ rest) = dropEnd p front := by
  have turned : ∀ c ∈ rest.reverse, p c = true := fun c hc => dropped c (List.mem_reverse.mp hc)
  rw [dropEnd, List.reverse_append, List.dropWhile_append_of_pos turned, dropEnd]

theorem dropEnd_append_of_exists (stays : ∃ c ∈ rest, p c = false) :
    dropEnd p (front ++ rest) = front ++ dropEnd p rest := by
  obtain ⟨c, there, kept⟩ := stays
  have left : rest.reverse.dropWhile p ≠ [] := fun none => by
    have gone := List.dropWhile_eq_nil_iff.mp none c (List.mem_reverse.mpr there)
    rw [kept] at gone
    cases gone
  rw [dropEnd, List.reverse_append, List.dropWhile_append, if_neg (by simpa using left)]
  simp [dropEnd]

theorem dropEnd_idempotent (p : Char → Bool) (cs : List Char) :
    dropEnd p (dropEnd p cs) = dropEnd p cs :=
  List.rdropWhile_idempotent p cs

end Text

namespace Config

def schemes : List String := ["http://", "https://"]

/-- Something other than slashes stands behind the scheme. -/
def Addressed (url : String) : Prop :=
  ∃ scheme ∈ schemes, ∃ rest, url.toList = scheme.toList ++ rest ∧ ∃ c ∈ rest, c ≠ '/'

def trimmed (given : String) : String := String.ofList (Text.dropEnd (· == '/') given.toList)

section Url

variable {given url : String}

theorem isHttpUrl_iff :
    isHttpUrl url = true ↔ ∃ scheme ∈ schemes, scheme.toList <+: url.toList := by
  simp [isHttpUrl, schemes]

theorem isHttpUrl_append (valid : isHttpUrl url = true) (rest : String) :
    isHttpUrl (url ++ rest) = true := by
  obtain ⟨scheme, known, begins⟩ := isHttpUrl_iff.mp valid
  refine isHttpUrl_iff.mpr ⟨scheme, known, ?_⟩
  rw [String.toList_append]
  exact begins.trans (List.prefix_append _ _)

theorem normalApiUrl_eq_valid_iff {j : Json} :
    normalApiUrl j = .valid url ↔
      ∃ given, j = .str given ∧ isHttpUrl given = true ∧ trimmed given = url := by
  cases j with
  | str given =>
    cases valid : isHttpUrl given with
    | true => simp [normalApiUrl, text, Checked.andThen, valid, trimmed]
    | false => simp [normalApiUrl, text, Checked.andThen, valid, Checked.issue]
  | null | bool | int | float | arr | obj =>
    simp [normalApiUrl, text, Checked.andThen, Checked.issue]

theorem toList_trimmed (given : String) :
    (trimmed given).toList = Text.dropEnd (· == '/') given.toList := String.toList_ofList

theorem trimmed_trimmed (given : String) : trimmed (trimmed given) = trimmed given := by
  rw [trimmed, toList_trimmed, Text.dropEnd_idempotent, trimmed]

theorem toList_eq_trimmed_append (given : String) :
    ∃ n, given.toList = (trimmed given).toList ++ List.replicate n '/' := by
  have slashes : ∀ c ∈ given.toList.rtakeWhile (· == '/'), c = '/' := by
    intro c there
    have dropped := List.mem_rtakeWhile_imp there
    exact beq_iff_eq.mp dropped
  refine ⟨(given.toList.rtakeWhile (· == '/')).length, ?_⟩
  rw [← List.eq_replicate_of_mem slashes, toList_trimmed, Text.dropEnd_eq_rdropWhile,
    List.rdropWhile_append_rtakeWhile]

theorem not_slash_suffix (given : String) : ¬ ['/'] <:+ (trimmed given).toList := by
  rw [toList_trimmed, Text.dropEnd_eq_rdropWhile]
  rintro ⟨front, is⟩
  have left : given.toList.rdropWhile (· == '/') ≠ [] := by simp [← is]
  have last := List.rdropWhile_last_not (· == '/') given.toList left
  simp [← is] at last

theorem isHttpUrl_trimmed (addressed : Addressed given) : isHttpUrl (trimmed given) = true := by
  obtain ⟨scheme, known, rest, is, c, there, other⟩ := addressed
  refine isHttpUrl_iff.mpr ⟨scheme, known, ?_⟩
  rw [toList_trimmed, is, Text.dropEnd_append_of_exists ⟨c, there, by simpa using other⟩]
  exact List.prefix_append _ _

theorem trimmed_of_not_addressed (valid : isHttpUrl given = true) (bare : ¬ Addressed given) :
    trimmed given = "http:" ∨ trimmed given = "https:" := by
  obtain ⟨scheme, known, rest, is⟩ := isHttpUrl_iff.mp valid
  have slashes : ∀ c ∈ rest, (c == '/') = true := by
    intro c there
    refine beq_iff_eq.mpr (Classical.byContradiction fun other => bare ?_)
    exact ⟨scheme, known, rest, is.symm, c, there, other⟩
  -- Nothing behind the scheme holds the slashes up, so those of the scheme itself go as well.
  rw [trimmed, ← is, Text.dropEnd_append_of_all slashes]
  simp only [schemes, List.mem_cons, List.not_mem_nil, or_false] at known
  rcases known with rfl | rfl
  · exact .inl (by decide)
  · exact .inr (by decide)

/-- A path behind what is kept does not make up for a host that is missing. -/
theorem isHttpUrl_trimmed_append_iff (valid : isHttpUrl given = true) {path : String}
    (single : ¬ ['/', '/'] <+: path.toList) :
    isHttpUrl (trimmed given ++ path) = true ↔ Addressed given := by
  refine ⟨fun told => ?_, fun addressed => isHttpUrl_append (isHttpUrl_trimmed addressed) path⟩
  by_contra bare
  refine single ?_
  rcases trimmed_of_not_addressed valid bare with is | is
  · simpa [is, isHttpUrl] using told
  · simpa [is, isHttpUrl] using told

theorem isHttpUrl_trimmed_iff (valid : isHttpUrl given = true) :
    isHttpUrl (trimmed given) = true ↔ Addressed given := by
  have bare : ¬ ['/', '/'] <+: "".toList := by decide
  rw [← isHttpUrl_trimmed_append_iff valid bare, String.append_empty]

/-- If what is kept is accepted when it is checked again, it stays as it is. -/
theorem normalApiUrl_trimmed_iff (valid : isHttpUrl given = true) :
    normalApiUrl (.str (trimmed given)) = .valid url ↔ url = trimmed given ∧ Addressed given := by
  rw [← isHttpUrl_trimmed_iff valid, normalApiUrl_eq_valid_iff]
  constructor
  · rintro ⟨_, ⟨⟩, again, rfl⟩
    exact ⟨trimmed_trimmed given, again⟩
  · rintro ⟨rfl, again⟩
    exact ⟨_, rfl, again, trimmed_trimmed given⟩

/-- What becomes of a specification in which what is kept is put where the URL was. -/
theorem check_again_iff {fs : Fields} {key : String} {spec again : Spec}
    (accepted : Accepted fs spec)
    (found : find fs "apiUrl" "api_url" = some (key, .str given))
    (valid : isHttpUrl given = true) (kept : trimmed given = spec.apiUrl) :
    Spec.check (.obj (Fields.put key (.str spec.apiUrl) fs)) = .valid again ↔
      again = spec ∧ Addressed given := by
  rw [check_put accepted found, Checked.map_eq_valid_iff]
  simp only [Checked.within_eq_valid_iff, ← kept, normalApiUrl_trimmed_iff valid]
  constructor
  · rintro ⟨_, ⟨rfl, addressed⟩, rfl⟩
    exact ⟨by rw [kept], addressed⟩
  · rintro ⟨rfl, addressed⟩
    exact ⟨_, ⟨rfl, addressed⟩, by rw [kept]⟩

end Url

end Config

end PodInstrumentation
