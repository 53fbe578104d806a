import PodInstrumentation.Proofs.Json.Scalars
import PodInstrumentation.Proofs.Text.Coding
/-!
Documents as they are printed. The text of a document is plain ASCII and reads back as the document,
in letters and in bytes; the induction is on the document, for all that may follow it. -/
namespace PodInstrumentation.Json

open Text (hexDigits)

def Ascii (c : Char) : Prop := 0x20 ≤ c.toNat ∧ c.toNat < 0x7F

instance (c : Char) : Decidable (Ascii c) := inferInstanceAs (Decidable (_ ∧ _))

theorem ascii_of_all {cs : List Char} (all : cs.all (Ascii ·) = true) : ∀ c ∈ cs, Ascii c :=
  fun c hc => of_decide_eq_true (List.all_eq_true.mp all c hc)

theorem ascii_hexDigit : ∀ n < 16, Ascii (Text.hexDigit n) := by decide

theorem ascii_hexDigits (w n : Nat) : ∀ c ∈ hexDigits w n, Ascii c := by
  induction w generalizing n with
  | zero => simp [hexDigits]
  | succ w ih =>
    rw [hexDigits, List.forall_mem_append]
    exact ⟨ih _, by simpa using ascii_hexDigit _ (Nat.mod_lt _ (by decide))⟩

theorem ascii_unitEscape (n : Nat) : ∀ c ∈ unitEscape n, Ascii c := by
  rw [unitEscape, List.forall_mem_cons, List.forall_mem_cons]
  exact ⟨by decide, by decide, ascii_hexDigits 4 n⟩

theorem ascii_escapeChar (c : Char) : ∀ x ∈ escapeChar c, Ascii x := by
  unfold escapeChar
  iterate 7
    split
    · exact ascii_of_all (by decide)
  split
  · rename_i plain
    simpa [Ascii] using plain
  split
  · exact ascii_unitEscape _
  · exact List.forall_mem_append.mpr ⟨ascii_unitEscape _, ascii_unitEscape _⟩

theorem ascii_quoted (s : String) : ∀ c ∈ quoted s, Ascii c := by
  rw [quoted, List.forall_mem_cons, List.forall_mem_append]
  refine ⟨by decide, ?_, ascii_of_all (by decide)⟩
  intro c hc
  obtain ⟨x, _, hx⟩ := List.mem_flatMap.mp hc
  exact ascii_escapeChar x c hx

theorem ascii_intChars (n : Int) : ∀ c ∈ intChars n, Ascii c := by
  have digits : ∀ c ∈ Number.digitChars n.natAbs, Ascii c := by
    intro c hc
    have digit := isDigit_of_mem_digitChars hc
    simp only [Char.isDigit, Bool.and_eq_true, decide_eq_true_eq, ge_iff_le,
      UInt32.le_iff_toNat_le] at digit
    have low : 48 ≤ c.toNat := digit.1
    have high : c.toNat ≤ 57 := digit.2
    exact ⟨by omega, by omega⟩
  unfold intChars
  split
  · exact List.forall_mem_cons.mpr ⟨by decide, digits⟩
  · exact digits

/-- A document that its text holds exactly: without doubles, with each key of an object once and
with no whole number of more digits than are read. -/
inductive Carried (longest : Option Nat) : Json → Prop where
  | null : Carried longest .null
  | bool (b : Bool) : Carried longest (.bool b)
  | int {n : Int} (short : ∀ most ∈ longest, (Number.digitChars n.natAbs).length ≤ most) :
      Carried longest (.int n)
  | str (s : String) : Carried longest (.str s)
  | arr {xs : List Json} (items : ∀ x ∈ xs, Carried longest x) : Carried longest (.arr xs)
  | obj {fs : Fields} (nodup : (Fields.keys fs).Nodup) (members : ∀ f ∈ fs, Carried longest f.2) :
      Carried longest (.obj fs)

theorem itemsChars_cons (x y : Json) (ys : List Json) :
    itemsChars (x :: y :: ys) = chars x ++ ',' :: ' ' :: itemsChars (y :: ys) := by
  simp only [itemsChars]

theorem fieldsChars_one (f : String × Json) :
    fieldsChars [f] = quoted f.1 ++ ':' :: ' ' :: chars f.2 := by
  simp only [fieldsChars]

theorem fieldsChars_cons (f g : String × Json) (gs : Fields) : fieldsChars (f :: g :: gs) =
    quoted f.1 ++ ':' :: ' ' :: (chars f.2 ++ ',' :: ' ' :: fieldsChars (g :: gs)) := by
  simp only [fieldsChars]

theorem ascii_itemsChars {xs : List Json} (items : ∀ x ∈ xs, ∀ c ∈ chars x, Ascii c) :
    ∀ c ∈ itemsChars xs, Ascii c := by
  induction xs with
  | nil => nofun
  | cons x xs ih =>
    obtain ⟨first, others⟩ := List.forall_mem_cons.mp items
    cases xs with
    | nil => exact first
    | cons y ys =>
      simp only [itemsChars_cons, List.forall_mem_append, List.forall_mem_cons]
      exact ⟨first, by decide, by decide, ih others⟩

theorem ascii_fieldsChars {fs : Fields} (members : ∀ f ∈ fs, ∀ c ∈ chars f.2, Ascii c) :
    ∀ c ∈ fieldsChars fs, Ascii c := by
  induction fs with
  | nil => nofun
  | cons f fs ih =>
    obtain ⟨first, others⟩ := List.forall_mem_cons.mp members
    cases fs with
    | nil =>
      simp only [fieldsChars_one, List.forall_mem_append, List.forall_mem_cons]
      exact ⟨ascii_quoted f.1, by decide, by decide, first⟩
    | cons g gs =>
      simp only [fieldsChars_cons, List.forall_mem_append, List.forall_mem_cons]
      exact ⟨ascii_quoted f.1, by decide, by decide, first, by decide, by decide, ih others⟩

theorem ascii_chars {longest : Option Nat} {j : Json} (h : j.Carried longest) :
    ∀ c ∈ chars j, Ascii c := by
  induction h with
  | null => exact ascii_of_all (by decide)
  | bool b => cases b <;> exact ascii_of_all (by decide)
  | int short => exact ascii_intChars _
  | str s => exact ascii_quoted s
  | arr _ ih =>
    rw [chars, List.forall_mem_cons, List.forall_mem_append]
    exact ⟨by decide, ascii_itemsChars ih, ascii_of_all (by decide)⟩
  | obj _ _ ih =>
    rw [chars, List.forall_mem_cons, List.forall_mem_append]
    exact ⟨by decide, ascii_fieldsChars ih, ascii_of_all (by decide)⟩

def Opens (cs : List Char) : Prop := ∃ c r, cs = c :: r ∧ isSpace c = false ∧ c ≠ ']'

theorem Opens.skipSpace {cs : List Char} (h : Opens cs) : skipSpace cs = cs := by
  obtain ⟨c, r, rfl, space, _⟩ := h
  rw [Json.skipSpace, List.dropWhile_cons_of_neg (by simpa using space)]

theorem Opens.append {cs : List Char} (h : Opens cs) (k : List Char) : Opens (cs ++ k) := by
  obtain ⟨c, r, rfl, rest⟩ := h
  exact ⟨c, r ++ k, rfl, rest⟩

theorem opens_intChars (n : Int) : Opens (intChars n) := by
  unfold intChars
  split
  · exact ⟨'-', _, rfl, by decide, by decide⟩
  · obtain ⟨d, ds, shape, digit⟩ := exists_digitChars n.natAbs
    refine ⟨d, ds, shape, ?_, ?_⟩
    · have unlike : ∀ c : Char, c.isDigit = false → d ≠ c := by
        rintro c other rfl
        rw [digit] at other
        cases other
      simp [isSpace, unlike]
    · rintro rfl
      cases digit

theorem opens_chars {longest : Option Nat} {j : Json} (h : j.Carried longest) :
    Opens (chars j) := by
  cases h with
  | null => exact ⟨'n', _, rfl, by decide, by decide⟩
  | bool b => cases b <;> exact ⟨_, _, rfl, by decide, by decide⟩
  | int short => exact opens_intChars _
  | str s => exact ⟨'"', _, rfl, by decide, by decide⟩
  | arr items => exact ⟨'[', _, rfl, by decide, by decide⟩
  | obj nodup members => exact ⟨'{', _, rfl, by decide, by decide⟩

theorem opens_itemsChars {x : Json} (first : Opens (chars x)) (xs : List Json) :
    Opens (itemsChars (x :: xs)) := by
  cases xs with
  | nil => exact first
  | cons y ys => exact itemsChars_cons x y ys ▸ first.append _

theorem opens_fieldsChars (f : String × Json) (fs : Fields) :
    ∃ r, fieldsChars (f :: fs) = '"' :: r := by
  cases fs with
  | nil => exact ⟨_, fieldsChars_one f⟩
  | cons g gs => exact ⟨_, fieldsChars_cons f g gs⟩

def ReadsBack (longest : Option Nat) (j : Json) : Prop :=
  ∀ n k, Closes k → (chars j).length < n → readValue longest n (chars j ++ k) = .ok (j, k)

section Read

variable {longest : Option Nat}

theorem readValue_scalar {n : Nat} {c : Char} (r : List Char)
    (others : c ≠ '"' ∧ c ≠ '[' ∧ c ≠ '{') :
    readValue longest (n + 1) (c :: r) = readScalar longest (c :: r) := by
  rw [readValue.eq_def]
  split <;> simp_all

theorem readValue_intChars (n : Nat) (i : Int) (k : List Char) :
    readValue longest (n + 1) (intChars i ++ k) = readScalar longest (intChars i ++ k) := by
  obtain ⟨d, ds, shape, digit⟩ := exists_digitChars i.natAbs
  unfold intChars
  rw [shape]
  split
  · exact readValue_scalar _ (by decide)
  · refine readValue_scalar _ ⟨?_, ?_, ?_⟩ <;>
      · rintro rfl
        cases digit

theorem readValue_items {n : Nat} {cs k : List Char} {xs : List Json} (opens : Opens cs)
    (items : readItems longest n cs = .ok (xs, k)) :
    readValue longest (n + 1) ('[' :: cs) = .ok (.arr xs, k) := by
  have spaced := opens.skipSpace
  obtain ⟨c, r, rfl, _, other⟩ := opens
  rw [readValue.eq_def]
  simp only [spaced]
  split
  · rename_i same
    cases same
    exact absurd rfl other
  · rw [items]
    rfl

theorem readValue_members {n : Nat} {r k : List Char} {fs : Fields}
    (members : readMembers longest n ('"' :: r) = .ok (fs, k)) :
    readValue longest (n + 1) ('{' :: '"' :: r) = .ok (.obj (Fields.ofPairs fs), k) := by
  have spaced : skipSpace ('"' :: r) = '"' :: r := rfl
  rw [readValue.eq_def]
  simp only [spaced]
  split
  · rename_i same
    cases same
  · rw [members]
    rfl

theorem readItems_last {n : Nat} {cs k : List Char} {x : Json}
    (value : readValue longest n cs = .ok (x, ']' :: k)) :
    readItems longest (n + 1) cs = .ok ([x], k) := by
  rw [readItems, value]
  rfl

theorem readItems_more {n : Nat} {cs r k : List Char} {x : Json} {xs : List Json}
    (value : readValue longest n cs = .ok (x, ',' :: r))
    (rest : readItems longest n (skipSpace r) = .ok (xs, k)) :
    readItems longest (n + 1) cs = .ok (x :: xs, k) := by
  have spaced : skipSpace (',' :: r) = ',' :: r := rfl
  rw [readItems, value]
  simp only [ok_bind, spaced, rest]
  rfl

section Member

variable {n : Nat} {cs r r' k : List Char} {key : String} {v : Json}
  (keyed : readString cs = .ok (key, ':' :: r))
include keyed

theorem readMembers_last (value : readValue longest n (skipSpace r) = .ok (v, '}' :: k)) :
    readMembers longest (n + 1) ('"' :: cs) = .ok ([(key, v)], k) := by
  have spaced : skipSpace (':' :: r) = ':' :: r := rfl
  have closed : skipSpace ('}' :: k) = '}' :: k := rfl
  rw [readMembers.eq_def]
  simp only [keyed, ok_bind, spaced, value, closed]
  rfl

theorem readMembers_more {fs : Fields}
    (value : readValue longest n (skipSpace r) = .ok (v, ',' :: r'))
    (rest : readMembers longest n (skipSpace r') = .ok (fs, k)) :
    readMembers longest (n + 1) ('"' :: cs) = .ok ((key, v) :: fs, k) := by
  have spaced : skipSpace (':' :: r) = ':' :: r := rfl
  have parted : skipSpace (',' :: r') = ',' :: r' := rfl
  rw [readMembers.eq_def]
  simp only [keyed, ok_bind, spaced, value, parted, rest]
  rfl

end Member

theorem skipSpace_blank {cs : List Char} (opens : Opens cs) : skipSpace (' ' :: cs) = cs :=
  opens.skipSpace

theorem readItems_printed {xs : List Json}
    (items : ∀ x ∈ xs, ReadsBack longest x ∧ Opens (chars x)) (some : xs ≠ []) {n : Nat}
    (k : List Char) (fuel : (itemsChars xs).length + 1 < n) :
    readItems longest n (itemsChars xs ++ ']' :: k) = .ok (xs, k) := by
  induction xs generalizing n with
  | nil => exact absurd rfl some
  | cons x xs ih =>
    obtain ⟨first, others⟩ := List.forall_mem_cons.mp items
    obtain ⟨m, rfl⟩ : ∃ m, n = m + 1 := ⟨n - 1, by omega⟩
    cases xs with
    | nil =>
      have one : itemsChars [x] = chars x := by simp only [itemsChars]
      rw [one] at fuel ⊢
      exact readItems_last (first.1 m (']' :: k) (by simp [Closes]) (by omega))
    | cons y ys =>
      rw [itemsChars_cons] at fuel ⊢
      simp only [List.length_append, List.length_cons] at fuel
      have rest := ih others (by simp) (n := m) (by omega)
      have opens := (opens_itemsChars (others y List.mem_cons_self).2 ys).append (']' :: k)
      rw [← skipSpace_blank opens] at rest
      simp only [List.append_assoc, List.cons_append]
      exact readItems_more (first.1 m _ (by simp [Closes]) (by omega)) rest

theorem readMembers_printed {fs : Fields}
    (members : ∀ f ∈ fs, ReadsBack longest f.2 ∧ Opens (chars f.2)) (some : fs ≠ []) {n : Nat}
    (k : List Char) (fuel : (fieldsChars fs).length + 1 < n) :
    readMembers longest n (fieldsChars fs ++ '}' :: k) = .ok (fs, k) := by
  induction fs generalizing n with
  | nil => exact absurd rfl some
  | cons f fs ih =>
    obtain ⟨first, others⟩ := List.forall_mem_cons.mp members
    obtain ⟨m, rfl⟩ : ∃ m, n = m + 1 := ⟨n - 1, by omega⟩
    have value : ∀ k, Closes k → (chars f.2).length < m →
        readValue longest m (skipSpace (' ' :: (chars f.2 ++ k))) = .ok (f.2, k) := by
      intro k closed short
      rw [skipSpace_blank (first.2.append k)]
      exact first.1 m k closed short
    cases fs with
    | nil =>
      rw [fieldsChars_one] at fuel ⊢
      simp only [List.length_append, List.length_cons] at fuel
      simp only [quoted, List.append_assoc, List.cons_append, List.nil_append]
      exact readMembers_last (readString_quoted f.1 _) (value _ (by simp [Closes]) (by omega))
    | cons g gs =>
      rw [fieldsChars_cons] at fuel ⊢
      simp only [List.length_append, List.length_cons] at fuel
      have rest := ih others (by simp) (n := m) (by omega)
      have spaced : skipSpace (' ' :: (fieldsChars (g :: gs) ++ '}' :: k)) =
          fieldsChars (g :: gs) ++ '}' :: k := by
        obtain ⟨r, shape⟩ := opens_fieldsChars g gs
        rw [shape]
        rfl
      rw [← spaced] at rest
      simp only [quoted, List.append_assoc, List.cons_append, List.nil_append]
      exact readMembers_more (readString_quoted f.1 _) (value _ (by simp [Closes]) (by omega)) rest

theorem readsBack {j : Json} (h : j.Carried longest) : j.ReadsBack longest := by
  -- The fuel is the length of the text, so each case has one unit more than its parts need.
  induction h with
  | null =>
    intro n k closed fuel
    obtain ⟨m, rfl⟩ : ∃ m, n = m + 1 := ⟨n - 1, by omega⟩
    rfl
  | bool b =>
    intro n k closed fuel
    obtain ⟨m, rfl⟩ : ∃ m, n = m + 1 := ⟨n - 1, by omega⟩
    cases b <;> rfl
  | int short =>
    intro n k closed fuel
    obtain ⟨m, rfl⟩ : ∃ m, n = m + 1 := ⟨n - 1, by omega⟩
    rw [chars, readValue_intChars]
    exact readScalar_intChars closed short
  | str s =>
    intro n k closed fuel
    obtain ⟨m, rfl⟩ : ∃ m, n = m + 1 := ⟨n - 1, by omega⟩
    simp only [chars, quoted, List.append_assoc, List.cons_append, List.nil_append]
    rw [readValue.eq_def]
    simp only [readString_quoted]
    rfl
  | @arr xs items ih =>
    intro n k closed fuel
    obtain ⟨m, rfl⟩ : ∃ m, n = m + 1 := ⟨n - 1, by omega⟩
    cases xs with
    | nil => rfl
    | cons x xs =>
      have all : ∀ y ∈ x :: xs, ReadsBack longest y ∧ Opens (chars y) :=
        fun y hy => ⟨ih y hy, opens_chars (items y hy)⟩
      have opens := opens_itemsChars (all x List.mem_cons_self).2 xs
      simp only [chars, List.length_append, List.length_cons] at fuel
      simp only [chars, List.append_assoc, List.cons_append, List.nil_append]
      exact readValue_items (opens.append _) (readItems_printed all (by simp) k (by omega))
  | @obj fs nodup members ih =>
    intro n k closed fuel
    obtain ⟨m, rfl⟩ : ∃ m, n = m + 1 := ⟨n - 1, by omega⟩
    cases fs with
    | nil => rfl
    | cons f fs =>
      have all : ∀ g ∈ f :: fs, ReadsBack longest g.2 ∧ Opens (chars g.2) :=
        fun g hg => ⟨ih g hg, opens_chars (members g hg)⟩
      simp only [chars, List.length_append, List.length_cons] at fuel
      have read := readMembers_printed all (by simp) (n := m) k (by omega)
      obtain ⟨r, shape⟩ := opens_fieldsChars f fs
      simp only [chars, List.append_assoc, List.cons_append, List.nil_append]
      rw [shape, List.cons_append] at read ⊢
      rw [readValue_members read, Fields.ofPairs_of_nodup nodup]

theorem ofCharsWithin_chars {j : Json} (h : j.Carried longest) :
    ofCharsWithin longest (chars j) = .ok j := by
  have read := readsBack h ((chars j).length + 1) [] (by simp [Closes]) (by omega)
  rw [List.append_nil] at read
  rw [ofCharsWithin, readAll, (opens_chars h).skipSpace, read]
  rfl

theorem ofBytesWithin_encode {j : Json} (h : j.Carried longest) :
    ofBytesWithin longest (Text.Utf8.encode (chars j)) = .ok j := by
  have plain : ∀ c ∈ chars j, 0 < c.toNat ∧ c.toNat < 0x80 := by
    intro c hc
    obtain ⟨low, high⟩ := ascii_chars h c hc
    omega
  rw [ofBytesWithin, Text.decodeAny_encode plain]
  exact ofCharsWithin_chars h

end Read

/-- A printed document has no byte order mark, so that it is read as what it was. -/
theorem parse_print {j : Json} (h : j.Carried (some Number.digitLimit)) :
    parse j.print = .ok j := by
  have chars : j.print.toList = j.chars := String.toList_ofList
  have read : ofChars j.chars = .ok j := ofCharsWithin_chars h
  obtain ⟨c, r, shape, -⟩ := opens_chars h
  have low : c.toNat < 0x7F := (ascii_chars h c (by rw [shape]; exact List.mem_cons_self)).2
  rw [shape] at chars read
  rw [parse, chars]
  split
  · rename_i mark
    cases mark
    exact absurd low (by decide)
  · exact read

end PodInstrumentation.Json
