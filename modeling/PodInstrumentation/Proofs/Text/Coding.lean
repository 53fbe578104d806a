import PodInstrumentation.Text.Encoding
/-!
Texts that travel as bytes, and bytes that travel as letters. Main statements: what is written in
UTF-8 or in Base64 reads back as it was, at every length and for every character. -/
namespace PodInstrumentation.Text

namespace Base64

theorem value?_symbol : ∀ n < 64, value? (symbol n) = some n ∧ symbol n ≠ '=' := by decide

section Group

variable {group : List Nat} {n : Nat} (small : n < 64) (pads : Nat) (cs : List Char)
include small

theorem decodeFrom_begun (open' : group.length < 3) :
    decodeFrom group pads (symbol n :: cs) = decodeFrom (group ++ [n]) 0 cs := by
  obtain ⟨value, letter⟩ := value?_symbol n small
  have begun : group.length ≠ 3 := by omega
  rw [decodeFrom, if_neg letter, value]
  exact if_neg begun

theorem decodeFrom_full (full : group.length = 3) : decodeFrom group pads (symbol n :: cs) =
    (groupBytes (group ++ [n]) ++ ·) <$> decodeFrom [] 0 cs := by
  obtain ⟨value, letter⟩ := value?_symbol n small
  rw [decodeFrom, if_neg letter, value]
  exact if_pos full

end Group

theorem groupBytes_one (a : UInt8) : groupBytes [a.toNat / 4, a.toNat % 4 * 16] = [a] := by
  have whole : a.toNat / 4 * 4 + a.toNat % 4 * 16 / 16 = a.toNat := by omega
  rw [groupBytes, whole, UInt8.ofNat_toNat]

theorem groupBytes_two (a b : UInt8) : groupBytes
    [a.toNat / 4, a.toNat % 4 * 16 + b.toNat / 16, b.toNat % 16 * 4] = [a, b] := by
  have hb := b.toNat_lt
  have first : a.toNat / 4 * 4 + (a.toNat % 4 * 16 + b.toNat / 16) / 16 = a.toNat := by omega
  have second : (a.toNat % 4 * 16 + b.toNat / 16) % 16 * 16 + b.toNat % 16 * 4 / 4 = b.toNat := by
    omega
  rw [groupBytes, first, second, UInt8.ofNat_toNat, UInt8.ofNat_toNat]

theorem groupBytes_three (a b c : UInt8) : groupBytes
    [a.toNat / 4, a.toNat % 4 * 16 + b.toNat / 16, b.toNat % 16 * 4 + c.toNat / 64,
      c.toNat % 64] = [a, b, c] := by
  have hb := b.toNat_lt
  have hc := c.toNat_lt
  have first : a.toNat / 4 * 4 + (a.toNat % 4 * 16 + b.toNat / 16) / 16 = a.toNat := by omega
  have second : (a.toNat % 4 * 16 + b.toNat / 16) % 16 * 16 +
      (b.toNat % 16 * 4 + c.toNat / 64) / 4 = b.toNat := by omega
  have third : (b.toNat % 16 * 4 + c.toNat / 64) % 4 * 64 + c.toNat % 64 = c.toNat := by omega
  rw [groupBytes, first, second, third, UInt8.ofNat_toNat, UInt8.ofNat_toNat, UInt8.ofNat_toNat]

theorem decode_encode (bs : List UInt8) : decode (encode bs) = some bs := by
  -- The writer goes down by groups of three bytes, and only the last one may be shorter.
  fun_induction encode bs with
  | case1 => rfl
  | case2 a =>
    have ha := a.toNat_lt
    rw [decode, decodeFrom_begun (by omega) _ _ (by simp),
      decodeFrom_begun (by omega) _ _ (by simp)]
    exact congrArg some (groupBytes_one a)
  | case3 a b =>
    have ha := a.toNat_lt
    have hb := b.toNat_lt
    rw [decode, decodeFrom_begun (by omega) _ _ (by simp),
      decodeFrom_begun (by omega) _ _ (by simp), decodeFrom_begun (by omega) _ _ (by simp)]
    exact congrArg some (groupBytes_two a b)
  | case4 a b c r ih =>
    have ha := a.toNat_lt
    have hb := b.toNat_lt
    have hc := c.toNat_lt
    have rest : decodeFrom [] 0 (encode r) = some r := ih
    rw [decode, decodeFrom_begun (by omega) _ _ (by simp),
      decodeFrom_begun (by omega) _ _ (by simp), decodeFrom_begun (by omega) _ _ (by simp),
      decodeFrom_full (by omega) _ _ (by simp), rest]
    exact congrArg (fun bytes => some (bytes ++ r)) (groupBytes_three a b c)

theorem symbol_ascii : ∀ n < 64, (symbol n).toNat ≤ 127 := by decide

theorem encode_ascii (bs : List UInt8) : ∀ c ∈ encode bs, c.toNat ≤ 127 := by
  have padding : '='.toNat ≤ 127 := by decide
  induction bs using encode.induct with
  | case1 => nofun
  | case2 a =>
    have ha := a.toNat_lt
    simp only [encode, List.forall_mem_cons]
    exact ⟨symbol_ascii _ (by omega), symbol_ascii _ (by omega), padding, padding, nofun⟩
  | case3 a b =>
    have ha := a.toNat_lt
    have hb := b.toNat_lt
    simp only [encode, List.forall_mem_cons]
    exact ⟨symbol_ascii _ (by omega), symbol_ascii _ (by omega), symbol_ascii _ (by omega),
      padding, nofun⟩
  | case4 a b c r ih =>
    have ha := a.toNat_lt
    have hb := b.toNat_lt
    have hc := c.toNat_lt
    simp only [encode, List.forall_mem_cons]
    exact ⟨symbol_ascii _ (by omega), symbol_ascii _ (by omega), symbol_ascii _ (by omega),
      symbol_ascii _ (by omega), ih⟩

end Base64

namespace Utf8

variable {a b c d : UInt8} (r : List UInt8)

theorem isTail_iff : isTail b = true ↔ 0x80 ≤ b.toNat ∧ b.toNat ≤ 0xBF := by
  simp [isTail, UInt8.le_iff_toNat_le]

theorem isSecondOfThree_iff : isSecondOfThree a b = true ↔ (0x80 ≤ b.toNat ∧ b.toNat ≤ 0xBF) ∧
    (a.toNat = 0xE0 → 0xA0 ≤ b.toNat) ∧ (a.toNat = 0xED → b.toNat ≤ 0x9F) := by
  simp [isSecondOfThree, isTail_iff, UInt8.le_iff_toNat_le, ← UInt8.toNat_inj, and_assoc,
    Decidable.imp_iff_not_or]

theorem isSecondOfFour_iff : isSecondOfFour a b = true ↔ (0x80 ≤ b.toNat ∧ b.toNat ≤ 0xBF) ∧
    (a.toNat = 0xF0 → 0x90 ≤ b.toNat) ∧ (a.toNat = 0xF4 → b.toNat ≤ 0x8F) := by
  simp [isSecondOfFour, isTail_iff, UInt8.le_iff_toNat_le, ← UInt8.toNat_inj, and_assoc,
    Decidable.imp_iff_not_or]

theorem pieces_one (ha : a.toNat < 0x80) :
    pieces (a :: r) = .char (Char.ofNat a.toNat) :: pieces r := by
  have small : a < 0x80 := by simpa [UInt8.lt_iff_toNat_lt] using ha
  rw [pieces.eq_def]
  simp only [if_pos small]

theorem not_one (ha : 0xC2 ≤ a.toNat ∧ a.toNat ≤ 0xF4) :
    ¬ a < 0x80 ∧ ¬ (a < 0xC2 || 0xF4 < a) = true := by
  simp only [UInt8.lt_iff_toNat_lt, UInt8.reduceToNat, Bool.or_eq_true, decide_eq_true_eq]
  omega

theorem pieces_two (ha : 0xC2 ≤ a.toNat ∧ a.toNat < 0xE0) (hb : isTail b = true) :
    pieces (a :: b :: r) = .char (join2 a b) :: pieces r := by
  obtain ⟨above, lead⟩ := not_one (a := a) (by omega)
  have two : a < 0xE0 := by simpa [UInt8.lt_iff_toNat_lt] using ha.2
  rw [pieces.eq_def]
  simp only [if_neg above, if_neg lead]
  simp only [if_pos two, hb, if_true]

theorem pieces_three (ha : 0xE0 ≤ a.toNat ∧ a.toNat < 0xF0) (hb : isSecondOfThree a b = true)
    (hc : isTail c = true) : pieces (a :: b :: c :: r) = .char (join3 a b c) :: pieces r := by
  obtain ⟨above, lead⟩ := not_one (a := a) (by omega)
  have two : ¬ a < 0xE0 := by simpa [UInt8.lt_iff_toNat_lt] using ha.1
  have three : a < 0xF0 := by simpa [UInt8.lt_iff_toNat_lt] using ha.2
  rw [pieces.eq_def]
  simp only [if_neg above, if_neg lead]
  simp only [if_neg two, if_pos three, hb, hc, if_true]

theorem pieces_four (ha : 0xF0 ≤ a.toNat ∧ a.toNat ≤ 0xF4) (hb : isSecondOfFour a b = true)
    (hc : isTail c = true) (hd : isTail d = true) :
    pieces (a :: b :: c :: d :: r) = .char (join4 a b c d) :: pieces r := by
  obtain ⟨above, lead⟩ := not_one (a := a) (by omega)
  have three : ¬ a < 0xF0 := by simpa [UInt8.lt_iff_toNat_lt] using ha.1
  have two : ¬ a < 0xE0 := fun low => three (UInt8.lt_trans low (by decide))
  rw [pieces.eq_def]
  simp only [if_neg above, if_neg lead]
  simp only [if_neg two, if_neg three, hb, hc, hd, if_true]

theorem toNat_ofNat {n : Nat} (small : n < 256) : (UInt8.ofNat n).toNat = n := by
  rw [UInt8.toNat_ofNat']
  omega

theorem pieces_encodeChar (x : Char) :
    pieces (String.utf8EncodeChar x ++ r) = .char x :: pieces r := by
  have back : Char.ofNat x.val.toNat = x := Char.ofNat_toNat x
  have scalar : x.val.toNat < 0xD800 ∨ 0xDFFF < x.val.toNat ∧ x.val.toNat < 0x110000 := x.valid
  unfold String.utf8EncodeChar
  -- From here on only the number counts; each length of the code is one linear computation.
  generalize x.val.toNat = v at back scalar
  dsimp only
  split
  · rename_i one
    have lead : (UInt8.ofNat v).toNat = v := toNat_ofNat (by omega)
    have short : (UInt8.ofNat v).toNat < 0x80 := by omega
    rw [List.cons_append, List.nil_append, pieces_one r short, lead, back]
  split
  · rename_i one two
    have lead : (UInt8.ofNat (v / 64 % 0x20 + 0xC0)).toNat = v / 64 + 0xC0 := by
      rw [toNat_ofNat (by omega)]
      omega
    have tail : (UInt8.ofNat (v % 0x40 + 0x80)).toNat = v % 0x40 + 0x80 := toNat_ofNat (by omega)
    have joined : (v / 64 + 0xC0 - 0xC0) * 0x40 + (v % 0x40 + 0x80 - 0x80) = v := by omega
    simp only [List.cons_append, List.nil_append]
    rw [pieces_two r (by omega) (isTail_iff.mpr (by omega)), join2, lead, tail, joined, back]
  split
  · rename_i one two three
    have lead : (UInt8.ofNat (v / 4096 % 0x10 + 0xE0)).toNat = v / 4096 + 0xE0 := by
      rw [toNat_ofNat (by omega)]
      omega
    have second : (UInt8.ofNat (v / 64 % 0x40 + 0x80)).toNat = v / 64 % 0x40 + 0x80 :=
      toNat_ofNat (by omega)
    have third : (UInt8.ofNat (v % 0x40 + 0x80)).toNat = v % 0x40 + 0x80 := toNat_ofNat (by omega)
    have joined : ((v / 4096 + 0xE0 - 0xE0) * 0x40 + (v / 64 % 0x40 + 0x80 - 0x80)) * 0x40 +
        (v % 0x40 + 0x80 - 0x80) = v := by omega
    simp only [List.cons_append, List.nil_append]
    rw [pieces_three r (by omega) (isSecondOfThree_iff.mpr (by omega)) (isTail_iff.mpr (by omega)),
      join3, lead, second, third, joined, back]
  · rename_i one two three
    have lead : (UInt8.ofNat (v / 262144 % 0x08 + 0xF0)).toNat = v / 262144 + 0xF0 := by
      rw [toNat_ofNat (by omega)]
      omega
    have second : (UInt8.ofNat (v / 4096 % 0x40 + 0x80)).toNat = v / 4096 % 0x40 + 0x80 :=
      toNat_ofNat (by omega)
    have third : (UInt8.ofNat (v / 64 % 0x40 + 0x80)).toNat = v / 64 % 0x40 + 0x80 :=
      toNat_ofNat (by omega)
    have fourth : (UInt8.ofNat (v % 0x40 + 0x80)).toNat = v % 0x40 + 0x80 := toNat_ofNat (by omega)
    have joined : (((v / 262144 + 0xF0 - 0xF0) * 0x40 + (v / 4096 % 0x40 + 0x80 - 0x80)) * 0x40 +
        (v / 64 % 0x40 + 0x80 - 0x80)) * 0x40 + (v % 0x40 + 0x80 - 0x80) = v := by omega
    simp only [List.cons_append, List.nil_append]
    rw [pieces_four r (by omega) (isSecondOfFour_iff.mpr (by omega)) (isTail_iff.mpr (by omega))
      (isTail_iff.mpr (by omega)), join4, lead, second, third, fourth, joined, back]

theorem pieces_encode (cs : List Char) : pieces (encode cs) = cs.map .char := by
  induction cs with
  | nil => rfl
  | cons c cs ih =>
    have rest : pieces (cs.flatMap String.utf8EncodeChar) = cs.map .char := ih
    rw [encode, List.flatMap_cons, pieces_encodeChar, rest, List.map_cons]

theorem mapM_char (read : Piece → Option Char) (char : ∀ c, read (.char c) = some c)
    (cs : List Char) : (cs.map Piece.char).mapM read = some cs := by
  induction cs with
  | nil => rfl
  | cons c cs ih => simp [char, ih]

theorem decode_encode (cs : List Char) : decode (encode cs) = some cs := by
  rw [decode, pieces_encode]
  exact mapM_char _ (fun _ => rfl) cs

theorem decodeAllowingSurrogates_encode (cs : List Char) :
    decodeAllowingSurrogates (encode cs) = some cs := by
  rw [decodeAllowingSurrogates, pieces_encode]
  exact mapM_char _ (fun _ => rfl) cs

theorem decodeReplacing_encode (cs : List Char) : decodeReplacing (encode cs) = cs := by
  rw [decodeReplacing, pieces_encode, List.flatMap_map]
  exact List.flatMap_singleton' cs

end Utf8

/- Bytes without a zero and without a byte order mark are taken for UTF-8. -/

theorem detect_ascii {bs : List UInt8} (ascii : ∀ b ∈ bs, b ≠ 0 ∧ b.toNat < 0x80) :
    Encoding.detect bs = (.utf8, bs) := by
  have marked : Encoding.marks.find? (·.1.isPrefixOf bs) = none := by
    cases bs with
    | nil => rfl
    | cons b r =>
      obtain ⟨zero, low⟩ := ascii b List.mem_cons_self
      have other : ∀ m : UInt8, 0x80 ≤ m.toNat → (m == b) = false := fun m high =>
        beq_false_of_ne fun same => by
          subst same
          omega
      have unlike : (0x00 == b) = false := beq_false_of_ne zero.symm
      simp [Encoding.marks, List.isPrefixOf, unlike, other]
  have plain : ∀ b ∈ bs, (b == 0) = false := fun b hb => beq_false_of_ne (ascii b hb).1
  rw [Encoding.detect, marked]
  refine congrArg (·, bs) ?_
  unfold Encoding.unmarked
  split
  · simp [plain]
  · simp [plain]
  · rfl

theorem encodeChar_ascii {c : Char} (low : c.toNat < 0x80) :
    String.utf8EncodeChar c = [UInt8.ofNat c.toNat] := by
  have short : c.val.toNat ≤ 127 := by
    have : c.val.toNat = c.toNat := rfl
    omega
  unfold String.utf8EncodeChar
  exact if_pos short

theorem decodeAny_encode {cs : List Char} (ascii : ∀ c ∈ cs, 0 < c.toNat ∧ c.toNat < 0x80) :
    decodeAny (Utf8.encode cs) = some cs := by
  have bytes : ∀ b ∈ Utf8.encode cs, b ≠ 0 ∧ b.toNat < 0x80 := by
    intro b hb
    obtain ⟨c, hc, hb⟩ := List.mem_flatMap.mp hb
    obtain ⟨positive, low⟩ := ascii c hc
    rw [encodeChar_ascii low, List.mem_singleton] at hb
    have value : b.toNat = c.toNat := by rw [hb, Utf8.toNat_ofNat (by omega)]
    refine ⟨?_, by omega⟩
    rintro rfl
    simp at value
    omega
  rw [decodeAny, detect_ascii bytes]
  exact Utf8.decodeAllowingSurrogates_encode cs

end PodInstrumentation.Text
