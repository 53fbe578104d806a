import Mathlib.Data.List.TakeDrop
import PodInstrumentation.Json.Printer
import PodInstrumentation.Proofs.Json.Graft
/-!
Texts and whole numbers as they are printed. Main statements: each reads back as it was, a text
with any of its characters and a number of any length that the reader takes. -/
namespace PodInstrumentation

namespace Text

theorem hexValue?_hexDigit : ∀ n < 16, hexValue? (hexDigit n) = some n := by decide

theorem hexNumber?_hexDigits {n : Nat} (small : n < 0x10000) :
    hexNumber? (hexDigits 4 n) = some n := by
  have digit : ∀ m, hexValue? (hexDigit (m % 16)) = some (m % 16) := fun m =>
    hexValue?_hexDigit _ (Nat.mod_lt _ (by decide))
  have whole : 16 * (16 * (16 * (n / 16 / 16 / 16 % 16) + n / 16 / 16 % 16) + n / 16 % 16) +
      n % 16 = n := by omega
  simp [hexNumber?, hexDigits, digit, whole]

end Text

namespace Json

open Text (hexDigits hexNumber?_hexDigits)

theorem unit?_hexDigits {n : Nat} (small : n < 0x10000) {k : List Char} (more : k ≠ []) :
    unit? (hexDigits 4 n ++ k) = some (n, k) := by
  obtain ⟨e, r, rfl⟩ := List.exists_cons_of_ne_nil more
  exact congrArg (Option.map fun n => (n, e :: r)) (hexNumber?_hexDigits small)

theorem isHigh_of_scalar (c : Char) : isHigh c.toNat = false ∧ isLow c.toNat = false := by
  have scalar : c.toNat < 0xD800 ∨ 0xDFFF < c.toNat ∧ c.toNat < 0x110000 := c.valid
  unfold isHigh isLow
  simp only [Bool.and_eq_false_iff, decide_eq_false_iff_not]
  omega

theorem unitChar_scalar (c : Char) : unitChar c.toNat = c := by
  obtain ⟨high, low⟩ := isHigh_of_scalar c
  simp [unitChar, high, low]

section Text

variable (start : List Char) (n : Nat) {rest : List Char}

def withChar (c : Char) (read : Except Halt (List Char × List Char)) :
    Except Halt (List Char × List Char) :=
  read.map fun p => (c :: p.1, p.2)

theorem bind_withChar (c : Char) (read : Except Halt (List Char × List Char)) :
    (do let (cs, k) ← read; return (c :: cs, k)) = withChar c read := by
  cases read <;> rfl

theorem readText_plain {c : Char} (quote : c ≠ '"') (slash : c ≠ '\\') (shown : 0x20 ≤ c.toNat) :
    readText start (n + 1) (c :: rest) = withChar c (readText start n rest) := by
  rw [readText.eq_def]
  simp only [if_neg quote, if_neg slash, if_neg (Nat.not_lt.mpr shown)]
  exact bind_withChar c _

theorem readText_short {e c : Char} (unit : e ≠ 'u') (short : shortEscape? e = some c) :
    readText start (n + 1) ('\\' :: e :: rest) = withChar c (readText start n rest) := by
  rw [readText.eq_def]
  simp only [if_neg unit, short]
  exact bind_withChar c _

theorem readText_unit {r : List Char} {c : Char} (unit : unit? r = some (c.toNat, rest)) :
    readText start (n + 1) ('\\' :: 'u' :: r) = withChar c (readText start n rest) := by
  rw [readText.eq_def]
  simp only [unit, (isHigh_of_scalar c).1, unitChar_scalar]
  exact bind_withChar c _

theorem readText_pair {r r' : List Char} {high low : Nat} (first : unit? r = some (high, r'))
    (second : lowUnit? r' = some (low, rest)) (isHigh' : isHigh high = true) :
    readText start (n + 1) ('\\' :: 'u' :: r) =
      withChar (Char.ofNat (0x10000 + (high - 0xD800) * 0x400 + (low - 0xDC00)))
        (readText start n rest) := by
  rw [readText.eq_def]
  simp only [first, second, isHigh']
  exact bind_withChar _ _

theorem readText_escapeChar (c : Char) (more : rest ≠ []) :
    readText start (n + 1) (escapeChar c ++ rest) = withChar c (readText start n rest) := by
  unfold escapeChar
  iterate 7
    split
    · subst_vars
      exact readText_short start n (by decide) rfl
  split
  · rename_i quote slash _ _ _ _ _ plain
    simp only [Bool.and_eq_true, decide_eq_true_eq] at plain
    exact readText_plain start n quote slash plain.1
  split
  · rename_i small
    exact readText_unit start n (unit?_hexDigits small more)
  · rename_i large
    have bound : c.toNat < 0x110000 := by
      have scalar : c.toNat < 0xD800 ∨ 0xDFFF < c.toNat ∧ c.toNat < 0x110000 := c.valid
      omega
    generalize first : 0xD800 + (c.toNat - 0x10000) / 0x400 = high
    generalize second : 0xDC00 + (c.toNat - 0x10000) % 0x400 = low
    have isHigh' : isHigh high = true := by
      simp only [isHigh, Bool.and_eq_true, decide_eq_true_eq]
      omega
    have isLow' : isLow low = true := by
      simp only [isLow, Bool.and_eq_true, decide_eq_true_eq]
      omega
    have joined : 0x10000 + (high - 0xD800) * 0x400 + (low - 0xDC00) = c.toNat := by omega
    have lowUnit : lowUnit? (unitEscape low ++ rest) = some (low, rest) := by
      rw [unitEscape, List.cons_append, List.cons_append, lowUnit?,
        unit?_hexDigits (by omega) more, Option.bind_some, if_pos isLow']
    have highUnit : unit? (hexDigits 4 high ++ (unitEscape low ++ rest)) =
        some (high, unitEscape low ++ rest) := unit?_hexDigits (by omega) (by simp [unitEscape])
    have read := readText_pair start n highUnit lowUnit isHigh'
    rw [joined, Char.ofNat_toNat] at read
    rw [List.append_assoc]
    exact read

theorem readText_printed (cs k : List Char) (more : cs.length < n) :
    readText start n (cs.flatMap escapeChar ++ '"' :: k) = .ok (cs, k) := by
  induction cs generalizing n with
  | nil =>
    obtain ⟨m, rfl⟩ : ∃ m, n = m + 1 := ⟨n - 1, by simp at more; omega⟩
    rw [List.flatMap_nil, List.nil_append, readText.eq_def]
    exact if_pos rfl
  | cons c cs ih =>
    obtain ⟨m, rfl⟩ : ∃ m, n = m + 1 := ⟨n - 1, by simp at more; omega⟩
    have shorter : cs.length < m := by simpa using more
    rw [List.flatMap_cons, List.append_assoc, readText_escapeChar start m c (by simp), ih m shorter]
    rfl

end Text

theorem length_le_flatMap_escapeChar (cs : List Char) :
    cs.length ≤ (cs.flatMap escapeChar).length := by
  induction cs with
  | nil => exact Nat.le_refl 0
  | cons c cs ih =>
    have one : 0 < (escapeChar c).length := by
      unfold escapeChar unitEscape
      grind
    simp only [List.flatMap_cons, List.length_cons, List.length_append]
    omega

theorem readString_quoted (s : String) (k : List Char) :
    readString (s.toList.flatMap escapeChar ++ '"' :: k) = .ok (s, k) := by
  have longer : s.toList.length < (s.toList.flatMap escapeChar ++ '"' :: k).length + 1 := by
    have each := length_le_flatMap_escapeChar s.toList
    simp only [List.length_append, List.length_cons]
    omega
  rw [readString, readText_printed _ _ _ _ longer]
  exact congrArg (fun s => Except.ok (s, k)) String.ofList_toList

/-- What may follow a value: the end, or what closes or parts the values of a list. -/
def Closes (k : List Char) : Prop := ∀ c ∈ k.head?, c = ',' ∨ c = ']' ∨ c = '}'

section Number

open Number (takeDigits digitChars decimalValue exponentPart)

theorem isDigit_of_mem_digitChars {n : Nat} {c : Char} (h : c ∈ digitChars n) :
    c.isDigit = true :=
  Nat.isDigit_of_mem_toDigits (by decide) (by decide) h

theorem exists_digitChars (n : Nat) : ∃ d ds, digitChars n = d :: ds ∧ d.isDigit = true := by
  obtain ⟨d, ds, shape⟩ := List.exists_cons_of_ne_nil (Nat.toDigits_ne_nil (n := n) (b := 10))
  refine ⟨d, ds, shape, isDigit_of_mem_digitChars (n := n) ?_⟩
  rw [digitChars, shape]
  exact List.mem_cons_self

variable {k : List Char} (closed : Closes k)
include closed

theorem fractionDigits_closed : fractionDigits k = ([], k) := by
  unfold fractionDigits
  split
  · simp [Closes] at closed
  · rfl

theorem exponentPart_closed : exponentPart k = (none, k) := by
  unfold exponentPart
  split
  · rename_i c r
    have unlike : ¬ (c = 'e' || c = 'E') = true := by
      rcases closed c rfl with rfl | rfl | rfl <;> decide
    rw [if_neg unlike]
  · rfl

theorem takeDigits_append {ds : List Char} (digits : ∀ c ∈ ds, c.isDigit = true) :
    takeDigits (ds ++ k) = (ds, k) := by
  have all : ∀ c ∈ ds, ('0' ≤ c && c ≤ '9') = true := digits
  have none : k.takeWhile (fun c => '0' ≤ c && c ≤ '9') = [] ∧
      k.dropWhile (fun c => '0' ≤ c && c ≤ '9') = k := by
    cases k with
    | nil => exact ⟨rfl, rfl⟩
    | cons c r => rcases closed c rfl with rfl | rfl | rfl <;> exact ⟨rfl, rfl⟩
  rw [takeDigits, List.span_eq_takeWhile_dropWhile, List.takeWhile_append_of_pos all,
    List.dropWhile_append_of_pos all, none.1, none.2, List.append_nil]

theorem wholeDigits_digitChars (n : Nat) :
    wholeDigits (digitChars n ++ k) = some (digitChars n, k) := by
  rcases Nat.eq_zero_or_pos n with rfl | positive
  · rfl
  · have plain := Pointer.head?_toDigits_ne_zero positive
    have digits := takeDigits_append closed fun c => isDigit_of_mem_digitChars (n := n) (c := c)
    obtain ⟨d, ds, shape⟩ := List.exists_cons_of_ne_nil (Nat.toDigits_ne_nil (n := n) (b := 10))
    rw [digitChars, shape] at digits ⊢
    rw [wholeDigits.eq_def]
    split
    · rename_i same
      rw [shape] at plain
      cases same
      exact absurd rfl plain
    · rw [digits]

variable {longest : Option Nat}

theorem readNumber_digitChars {n : Nat} (short : ∀ most ∈ longest, (digitChars n).length ≤ most)
    (negative : Bool) : readNumber longest negative (digitChars n ++ k) =
      some (.ok (.int (if negative then -n else n)), k) := by
  have fits : ¬ longest.any (· < (digitChars n).length) = true := by
    simp only [Option.any_eq_true, decide_eq_true_eq, not_exists, not_and, Nat.not_lt]
    exact short
  have value : decimalValue (digitChars n) = n := Pointer.foldl_toDigits n
  rw [readNumber, wholeDigits_digitChars closed]
  simp only [Option.bind_eq_bind, Option.bind_some, fractionDigits_closed closed,
    exponentPart_closed closed, List.isEmpty_nil, Option.isNone_none, Bool.and_self, if_true,
    if_neg fits, value]
  rfl

omit closed in
theorem readScalar_minus {d : Char} {ds : List Char} {j : Json} (digit : d.isDigit = true)
    (read : readNumber longest true (d :: ds) = some (.ok j, k)) :
    readScalar longest ('-' :: d :: ds) = .ok (j, k) := by
  have unlike : 'I' ≠ d := by
    rintro rfl
    cases digit
  simp [readScalar, afterWord, readSigned, unlike, read]

omit closed in
theorem readScalar_digit {d : Char} {ds : List Char} {j : Json} (digit : d.isDigit = true)
    (read : readNumber longest false (d :: ds) = some (.ok j, k)) :
    readScalar longest (d :: ds) = .ok (j, k) := by
  have unlike : ∀ c : Char, c.isDigit = false → c ≠ d := by
    rintro c other rfl
    rw [digit] at other
    cases other
  have unsigned : readSigned longest (d :: ds) = some (.ok j, k) := by
    unfold readSigned
    split
    · rename_i same
      cases same
      cases digit
    · exact read
  simp [readScalar, afterWord, unlike, unsigned]

theorem readScalar_intChars {n : Int}
    (short : ∀ most ∈ longest, (digitChars n.natAbs).length ≤ most) :
    readScalar longest (intChars n ++ k) = .ok (.int n, k) := by
  have number := readNumber_digitChars closed short
  obtain ⟨d, ds, shape, digit⟩ := exists_digitChars n.natAbs
  rw [shape] at number
  unfold intChars
  rw [shape]
  split
  · have value : -(n.natAbs : Int) = n := by omega
    have read := number true
    rw [if_pos rfl, value] at read
    exact readScalar_minus digit read
  · have value : (n.natAbs : Int) = n := by omega
    have read := number false
    rw [if_neg Bool.false_ne_true, value] at read
    exact readScalar_digit digit read

end Number

end Json
end PodInstrumentation
