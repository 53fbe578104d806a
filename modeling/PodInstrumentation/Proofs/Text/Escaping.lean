import Mathlib.Data.List.SplitBy
import PodInstrumentation.Net.Url
import PodInstrumentation.Proofs.Text.Coding
/-!
Percent encoding, from the writer's side. A writer may spell a text in many ways: any character as
the bytes that stand for it, with digits in either case, and some characters as they are. All of
these spellings are read as the text. -/
namespace PodInstrumentation.Text.Percent

def HexOf (value : Nat) (c : Char) : Prop :=
  c = Nat.digitChar value ∨ c = (Nat.digitChar value).toUpper

instance (value : Nat) (c : Char) : Decidable (HexOf value c) :=
  inferInstanceAs (Decidable (_ ∨ _))

inductive Escapes : List UInt8 → List Char → Prop
  | nil : Escapes [] []
  | cons {b : UInt8} {bs : List UInt8} {high low : Char} {cs : List Char}
      (first : HexOf (b.toNat / 16) high) (second : HexOf (b.toNat % 16) low)
      (rest : Escapes bs cs) : Escapes (b :: bs) ('%' :: high :: low :: cs)

/-- The spellings of a text: a character is escaped as its bytes in UTF-8, or it stands for itself
if that is allowed. -/
inductive Spells (literal : Char → Prop) : List Char → List Char → Prop
  | nil : Spells literal [] []
  | plain {c : Char} {text cs : List Char} (allowed : literal c) (rest : Spells literal text cs) :
      Spells literal (c :: text) (c :: cs)
  | escaped {c : Char} {text e cs : List Char} (bytes : Escapes (String.utf8EncodeChar c) e)
      (rest : Spells literal text cs) : Spells literal (c :: text) (e ++ cs)

theorem isAlphanum_iff {c : Char} : c.isAlphanum = true ↔ (0x41 ≤ c.toNat ∧ c.toNat ≤ 0x5A) ∨
    (0x61 ≤ c.toNat ∧ c.toNat ≤ 0x7A) ∨ (0x30 ≤ c.toNat ∧ c.toNat ≤ 0x39) := by
  delta Char.isAlphanum Char.isAlpha Char.isUpper Char.isLower Char.isDigit
  simp only [Bool.or_eq_true, Bool.and_eq_true, decide_eq_true_eq, ge_iff_le,
    UInt32.le_iff_toNat_le, or_assoc]
  exact Iff.rfl

theorem hexValue?_digitChar : ∀ n < 16, hexValue? (Nat.digitChar n) = some n ∧
    hexValue? (Nat.digitChar n).toUpper = some n := by decide

theorem digitChar_alphanum : ∀ n < 16, (Nat.digitChar n).isAlphanum = true ∧
    (Nat.digitChar n).toUpper.isAlphanum = true := by decide

theorem HexOf.value {n : Nat} (small : n < 16) {c : Char} (h : HexOf n c) :
    hexValue? c = some n := by
  rcases h with rfl | rfl
  · exact (hexValue?_digitChar n small).1
  · exact (hexValue?_digitChar n small).2

theorem HexOf.alphanum {n : Nat} (small : n < 16) {c : Char} (h : HexOf n c) :
    c.isAlphanum = true := by
  rcases h with rfl | rfl
  · exact (digitChar_alphanum n small).1
  · exact (digitChar_alphanum n small).2

theorem bytes_plain {c : Char} (plain : c ≠ '%') (cs : List Char) :
    bytes (c :: cs) = UInt8.ofNat c.toNat :: bytes cs := by
  match cs with
  | [] => rfl
  | [_] => rfl
  | a :: b :: r =>
    have other : (c == '%') = false := beq_false_of_ne plain
    rw [bytes, other]

theorem bytes_escape {high low : Char} {x y : Nat} (first : hexValue? high = some x)
    (second : hexValue? low = some y) (cs : List Char) :
    bytes ('%' :: high :: low :: cs) = UInt8.ofNat (16 * x + y) :: bytes cs := by
  rw [bytes, first, second]
  rfl

theorem bytes_escapes {bs : List UInt8} {e : List Char} (h : Escapes bs e) (cs : List Char) :
    bytes (e ++ cs) = bs ++ bytes cs := by
  induction h with
  | nil => rfl
  | @cons b bs high low e first second rest ih =>
    have below := b.toNat_lt
    have whole : 16 * (b.toNat / 16) + b.toNat % 16 = b.toNat := by omega
    simp only [List.cons_append]
    rw [bytes_escape (first.value (by omega)) (second.value (by omega)), whole,
      UInt8.ofNat_toNat, ih]

theorem Escapes.chars {bs : List UInt8} {e : List Char} (h : Escapes bs e) :
    ∀ c ∈ e, c = '%' ∨ c.isAlphanum = true := by
  induction h with
  | nil => nofun
  | @cons b bs high low e first second rest ih =>
    have below := b.toNat_lt
    simp only [List.forall_mem_cons]
    exact ⟨.inl trivial, .inr (first.alphanum (by omega)), .inr (second.alphanum (by omega)), ih⟩

theorem Spells.chars {literal : Char → Prop} {text cs : List Char} (h : Spells literal text cs) :
    ∀ c ∈ cs, literal c ∨ c = '%' ∨ c.isAlphanum = true := by
  induction h with
  | nil => nofun
  | plain allowed rest ih => exact List.forall_mem_cons.mpr ⟨.inl allowed, ih⟩
  | escaped bytes rest ih =>
    exact List.forall_mem_append.mpr ⟨fun c hc => .inr (bytes.chars c hc), ih⟩

section Decode

variable {literal : Char → Prop} {text cs : List Char}

theorem bytes_spells (ascii : ∀ c, literal c → c ≠ '%' ∧ c.toNat < 0x80)
    (h : Spells literal text cs) : bytes cs = Utf8.encode text := by
  induction h with
  | nil => rfl
  | @plain c text cs allowed rest ih =>
    obtain ⟨plain, low⟩ := ascii c allowed
    rw [bytes_plain plain, ih, Utf8.encode, Utf8.encode, List.flatMap_cons, encodeChar_ascii low]
    rfl
  | escaped bytes rest ih =>
    rw [bytes_escapes bytes, ih, Utf8.encode, Utf8.encode, List.flatMap_cons]

theorem decode_ascii (ascii : ∀ c ∈ cs, c.toNat < 0x80) :
    decode cs = Utf8.decodeReplacing (bytes cs) := by
  cases cs with
  | nil => rfl
  | cons c r =>
    have isAscii' : ∀ x ∈ c :: r, isAscii x = true := fun x hx => decide_eq_true (ascii x hx)
    have chain : (c :: r).IsChain fun a b => isAscii a == isAscii b :=
      List.isChain_iff_getElem.mpr fun i _ => by
        rw [isAscii' _ (List.getElem_mem _), isAscii' _ (List.getElem_mem _)]
        rfl
    rw [decode, List.splitBy_of_isChain (List.cons_ne_nil c r) chain, List.flatMap_singleton,
      decodeRun, if_pos (List.all_eq_true.mpr isAscii')]

/-- Every spelling of a text is read as the text. -/
theorem decode_spells (ascii : ∀ c, literal c → c ≠ '%' ∧ c.toNat < 0x80)
    (h : Spells literal text cs) : decode cs = text := by
  have low : ∀ c ∈ cs, c.toNat < 0x80 := by
    intro c hc
    rcases h.chars c hc with allowed | rfl | digit
    · exact (ascii c allowed).2
    · decide
    · have range := isAlphanum_iff.mp digit
      omega
  rw [decode_ascii low, bytes_spells ascii h, Utf8.decodeReplacing_encode]

end Decode

end PodInstrumentation.Text.Percent
