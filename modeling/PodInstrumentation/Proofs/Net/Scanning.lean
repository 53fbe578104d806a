import Mathlib.Data.List.Basic
import Mathlib.Data.List.TakeWhile
import PodInstrumentation.Net.Duration
/-!
Which texts are durations. A duration may as well be found by searching a text for parts and
minding the gaps between them; both ways take the texts that are parts in a row, which no text is
in more than one way. -/
namespace PodInstrumentation.Net

theorem takeWhile_run {p : Char → Bool} {run rest : List Char} (all : ∀ c ∈ run, p c = true)
    (ends : ∀ c ∈ rest.head?, p c = false) :
    (run ++ rest).takeWhile p = run ∧ (run ++ rest).dropWhile p = rest := by
  rw [List.takeWhile_append_of_pos all, List.dropWhile_append_of_pos all]
  cases rest with
  | nil => simp
  | cons c rest => simp [ends c rfl]

namespace TimeUnit

def letters : TimeUnit → List Char
  | hour => ['h']
  | minute => ['m']
  | second => ['s']
  | millisecond => ['m', 's']

theorem read_sound {cs rest : List Char} {u : TimeUnit} (h : read cs = some (u, rest)) :
    cs = u.letters ++ rest := by
  unfold read at h
  split at h <;> cases h <;> rfl

theorem read_letters (u : TimeUnit) {rest : List Char}
    (free : u = minute → rest.head? ≠ some 's') : read (u.letters ++ rest) = some (u, rest) := by
  cases u with
  | hour | second | millisecond => rfl
  | minute =>
    have other := free rfl
    show read ('m' :: rest) = some (minute, rest)
    unfold read
    split <;> simp_all

theorem letters_head (u : TimeUnit) (rest : List Char) :
    ∀ c ∈ (u.letters ++ rest).head?, Text.isDigit c = false ∧ c ≠ '.' := by
  cases u <;> rintro c ⟨⟩ <;> decide

end TimeUnit

/-- A fraction as it is written; without digits there is no point. -/
def pointed (digits : List Char) : List Char := if digits = [] then [] else '.' :: digits

namespace DurationPart

def text (p : DurationPart) : List Char :=
  p.whole ++ (pointed p.fraction ++ p.unit.letters)

structure Proper (p : DurationPart) : Prop where
  present : p.whole ≠ []
  whole : ∀ c ∈ p.whole, Text.isDigit c = true
  fraction : ∀ c ∈ p.fraction, Text.isDigit c = true

end DurationPart

theorem readFraction_sound (cs : List Char) :
    cs = pointed (readFraction cs).1 ++ (readFraction cs).2 ∧
      ∀ c ∈ (readFraction cs).1, Text.isDigit c = true := by
  unfold readFraction pointed
  split
  · rename_i r
    split
    · exact ⟨rfl, by simp⟩
    · rename_i some'
      rw [List.isEmpty_iff] at some'
      rw [if_neg some']
      exact ⟨by simp, fun c hc => List.mem_takeWhile_imp hc⟩
  · exact ⟨rfl, by simp⟩

theorem readFraction_written {digits rest : List Char} (all : ∀ c ∈ digits, Text.isDigit c = true)
    (ends : ∀ c ∈ rest.head?, Text.isDigit c = false ∧ c ≠ '.') :
    readFraction (pointed digits ++ rest) = (digits, rest) := by
  unfold pointed
  split
  · rename_i none'
    subst none'
    unfold readFraction
    split
    · rename_i r point
      exact absurd rfl (ends '.' (by rw [← List.nil_append rest, point]; rfl)).2
    · rfl
  · rename_i some'
    obtain ⟨taken, dropped⟩ := takeWhile_run all fun c hc => (ends c hc).1
    simp [readFraction, taken, dropped, some']

namespace DurationPart

variable {p : DurationPart} {cs rest : List Char}

theorem read_sound (h : read cs = some (p, rest)) : p.Proper ∧ cs = p.text ++ rest := by
  simp only [read] at h
  split at h
  · cases h
  rename_i present
  obtain ⟨⟨unit, after⟩, found, made⟩ := Option.map_eq_some_iff.mp h
  obtain ⟨rfl, rfl⟩ := Prod.mk.inj made
  obtain ⟨point, digits⟩ := readFraction_sound (cs.dropWhile Text.isDigit)
  refine ⟨⟨by simpa using present, fun c hc => List.mem_takeWhile_imp hc, digits⟩, ?_⟩
  rw [TimeUnit.read_sound found] at point
  calc cs = cs.takeWhile Text.isDigit ++ cs.dropWhile Text.isDigit :=
        List.takeWhile_append_dropWhile.symm
    _ = cs.takeWhile Text.isDigit ++ (pointed (readFraction (cs.dropWhile Text.isDigit)).1 ++
        (unit.letters ++ after)) := congrArg (cs.takeWhile Text.isDigit ++ ·) point
    _ = _ := by simp only [text, List.append_assoc]

theorem text_head (proper : p.Proper) (rest : List Char) :
    ∃ c ∈ (p.text ++ rest).head?, Text.isDigit c = true := by
  obtain ⟨c, digits, whole⟩ := List.exists_cons_of_ne_nil proper.present
  exact ⟨c, by simp [text, whole], proper.whole c (by simp [whole])⟩

theorem read_text (proper : p.Proper) (free : p.unit = .minute → rest.head? ≠ some 's') :
    read (p.text ++ rest) = some (p, rest) := by
  have shape : p.text ++ rest = p.whole ++ (pointed p.fraction ++ (p.unit.letters ++ rest)) := by
    simp only [text, List.append_assoc]
  have units := p.unit.letters_head rest
  have ends : ∀ c ∈ (pointed p.fraction ++ (p.unit.letters ++ rest)).head?,
      Text.isDigit c = false := by
    unfold pointed
    split
    · exact fun c hc => (units c hc).1
    · rintro c ⟨⟩
      decide
  obtain ⟨taken, dropped⟩ := takeWhile_run proper.whole ends
  rw [shape, read]
  simp [taken, dropped, readFraction_written proper.fraction units, proper.present,
    TimeUnit.read_letters p.unit free]

/-- The whole of a number is read, in digits of any script, and `m` before `s` is one unit. -/
example : read "\u06630.5ms2s".toList =
    some (⟨['\u0663', '0'], ['5'], .millisecond⟩, ['2', 's']) := by decide

end DurationPart

structure Spelled (parts : List DurationPart) (cs : List Char) : Prop where
  proper : ∀ p ∈ parts, p.Proper
  text : cs = parts.flatMap DurationPart.text

/-- Behind a part there is no letter, so that a minute is never taken for a millisecond. -/
theorem Spelled.free {parts : List DurationPart} {cs : List Char} (h : Spelled parts cs) :
    cs.head? ≠ some 's' := by
  cases parts with
  | nil =>
    rw [h.text]
    simp
  | cons p parts =>
    obtain ⟨c, head, digit⟩ := DurationPart.text_head (h.proper p List.mem_cons_self)
      (parts.flatMap DurationPart.text)
    rw [h.text, List.flatMap_cons, Option.mem_def.mp head]
    rintro ⟨⟩
    exact absurd digit (by decide)

theorem durationParts_of_read {p : DurationPart} {cs rest : List Char}
    (h : DurationPart.read cs = some (p, rest)) :
    durationParts cs = (durationParts rest).map (p :: ·) := by
  cases cs with
  | nil => cases h
  | cons c r =>
    rw [durationParts]
    split
    · rename_i none'
      cases none'.symm.trans h
    · rename_i p' rest' found
      obtain ⟨rfl, rfl⟩ := Prod.mk.inj (Option.some.inj (found.symm.trans h))
      rfl

theorem durationParts_of_none {c : Char} {r : List Char}
    (h : DurationPart.read (c :: r) = none) : durationParts (c :: r) = none := by
  rw [durationParts]
  split
  · rfl
  · rename_i p rest found
    cases h.symm.trans found

theorem durationParts_eq_nil_iff {cs : List Char} : durationParts cs = some [] ↔ cs = [] := by
  cases cs with
  | nil => simp [durationParts]
  | cons c r =>
    cases found : DurationPart.read (c :: r) with
    | none => simp [durationParts_of_none found]
    | some x => simp [durationParts_of_read found]

theorem durationParts_eq_cons_iff {cs : List Char} {p : DurationPart} {parts : List DurationPart} :
    durationParts cs = some (p :: parts) ↔
      ∃ rest, DurationPart.read cs = some (p, rest) ∧ durationParts rest = some parts := by
  cases found : DurationPart.read cs with
  | none =>
    cases cs with
    | nil => simp [durationParts]
    | cons c r => simp [durationParts_of_none found]
  | some x =>
    obtain ⟨q, rest⟩ := x
    rw [durationParts_of_read found, Option.map_eq_some_iff]
    constructor
    · rintro ⟨parts', read, same⟩
      obtain ⟨rfl, rfl⟩ := List.cons.inj same
      exact ⟨rest, rfl, read⟩
    · rintro ⟨rest', same, read⟩
      cases same
      exact ⟨parts, read, rfl⟩

theorem spelled_of_durationParts {cs : List Char} {parts : List DurationPart}
    (h : durationParts cs = some parts) : Spelled parts cs := by
  induction parts generalizing cs with
  | nil =>
    rw [durationParts_eq_nil_iff.mp h]
    exact ⟨nofun, rfl⟩
  | cons p parts ih =>
    obtain ⟨rest, found, others⟩ := durationParts_eq_cons_iff.mp h
    obtain ⟨proper, text⟩ := DurationPart.read_sound found
    have spelled := ih others
    exact ⟨List.forall_mem_cons.mpr ⟨proper, spelled.proper⟩,
      by rw [text, List.flatMap_cons, ← spelled.text]⟩

theorem durationParts_of_spelled {parts : List DurationPart} {cs : List Char}
    (h : Spelled parts cs) : durationParts cs = some parts := by
  induction parts generalizing cs with
  | nil => exact durationParts_eq_nil_iff.mpr h.text
  | cons p parts ih =>
    obtain ⟨proper, others⟩ := List.forall_mem_cons.mp h.proper
    have rest : Spelled parts (parts.flatMap DurationPart.text) := ⟨others, rfl⟩
    have read := DurationPart.read_text proper fun _ => rest.free
    rw [← List.flatMap_cons, ← h.text] at read
    exact durationParts_eq_cons_iff.mpr ⟨_, read, ih rest⟩

theorem durationParts_iff {parts : List DurationPart} {cs : List Char} :
    durationParts cs = some parts ↔ Spelled parts cs :=
  ⟨spelled_of_durationParts, durationParts_of_spelled⟩

theorem search_of_none {place : Nat} {c : Char} {r : List Char}
    (h : DurationPart.read (c :: r) = none) : search place (c :: r) = search (place + 1) r := by
  rw [search]
  split
  · rfl
  · rename_i p rest found
    cases h.symm.trans found

theorem search_of_read {place : Nat} {p : DurationPart} {cs rest : List Char}
    (h : DurationPart.read cs = some (p, rest)) :
    search place cs = ⟨place, place + (cs.length - rest.length), p⟩ ::
      search (place + (cs.length - rest.length)) rest := by
  cases cs with
  | nil => cases h
  | cons c r =>
    rw [search]
    split
    · rename_i none'
      cases none'.symm.trans h
    · rename_i p' rest' found
      obtain ⟨rfl, rfl⟩ := Prod.mk.inj (Option.some.inj (found.symm.trans h))
      rfl

theorem search_start {place : Nat} {cs : List Char} :
    ∀ found ∈ (search place cs).head?, place ≤ found.start := by
  induction cs generalizing place with
  | nil => simp [search]
  | cons c r ih =>
    cases read : DurationPart.read (c :: r) with
    | none =>
      rw [search_of_none read]
      exact fun found hf => Nat.le_of_succ_le (ih found hf)
    | some x =>
      rw [search_of_read read]
      rintro found ⟨⟩
      exact Nat.le_refl _

theorem scanOne_gap {place : Nat} (so : List DurationPart) {found : List Found}
    (later : ∀ f ∈ found.head?, place < f.start) :
    found.foldlM scanOne (place, so) = none ∨
      found.foldlM scanOne (place, so) = some (place, so) := by
  cases found with
  | nil => exact .inr rfl
  | cons f found =>
    have gap : f.start ≠ place := (later f rfl).ne'
    exact .inl (by simp [scanOne, gap])

theorem scan_from (cs : List Char) (place : Nat) (so all : List DurationPart) :
    (search place cs).foldlM scanOne (place, so) = some (place + cs.length, all) ↔
      ∃ parts, durationParts cs = some parts ∧ all = so ++ parts := by
  -- The scan has read `so` up to `place`. From there it reaches the end exactly if the rest of the
  -- text is parts in a row, and adds just these.
  induction length : cs.length using Nat.strong_induction_on generalizing cs place so with
  | _ n ih =>
    subst length
    cases cs with
    | nil => simp [search, durationParts, eq_comm]
    | cons c r =>
      cases read : DurationPart.read (c :: r) with
      | none =>
        rw [search_of_none read, durationParts_of_none read]
        have gap : ∀ f ∈ (search (place + 1) r).head?, place < f.start := search_start
        rcases scanOne_gap so gap with lost | stays
        · simp [lost]
        · simp [stays]
      | some x =>
        obtain ⟨p, rest⟩ := x
        have shorter := DurationPart.read_shorter read
        have reached : place + (c :: r).length =
            place + ((c :: r).length - rest.length) + rest.length := by omega
        have turn : (search place (c :: r)).foldlM scanOne (place, so) =
            (search (place + ((c :: r).length - rest.length)) rest).foldlM scanOne
              (place + ((c :: r).length - rest.length), so ++ [p]) := by
          rw [search_of_read read, List.foldlM_cons, scanOne, if_pos rfl]
          rfl
        rw [turn, reached, ih rest.length shorter rest _ _ rfl, durationParts_of_read read]
        simp

theorem scan_iff {cs : List Char} {parts : List DurationPart} :
    scan cs = some (cs.length, parts) ↔ Spelled parts cs := by
  have whole := scan_from cs 0 [] parts
  rw [Nat.zero_add] at whole
  rw [scan, whole, ← durationParts_iff]
  simp

/-- The scan gets to the end of a text exactly if the text is parts in a row. It adds up these
parts, as reading does, and they are the only ones that the text is made of. Every other text has
no seconds, and one of parts has none only if they add up to nothing. -/
theorem readDuration_exact (s : String) :
    (∀ parts, scan s.toList = some (s.length, parts) ↔ Spelled parts s.toList) ∧
    (∀ parts, durationParts s.toList = some parts ↔ Spelled parts s.toList) ∧
    (∀ parts others, Spelled parts s.toList → Spelled others s.toList → parts = others) ∧
    ((∀ parts, ¬ Spelled parts s.toList) → readDuration s = none) ∧
    ∀ parts, Spelled parts s.toList → readDuration s =
      if totalSeconds parts > 0 then some (Double.ofFloat (totalSeconds parts)) else none := by
  refine ⟨fun parts => ?_, fun parts => durationParts_iff, ?_, ?_, ?_⟩
  · rw [← String.length_toList]
    exact scan_iff
  · intro parts others spelled spelled'
    exact Option.some.inj
      ((durationParts_of_spelled spelled).symm.trans (durationParts_of_spelled spelled'))
  · intro unspelled
    have lost : durationParts s.toList = none :=
      Option.eq_none_iff_forall_ne_some.mpr fun parts found =>
        unspelled parts (spelled_of_durationParts found)
    rw [readDuration, lost]
  · intro parts spelled
    rw [readDuration, durationParts_of_spelled spelled]

end PodInstrumentation.Net
