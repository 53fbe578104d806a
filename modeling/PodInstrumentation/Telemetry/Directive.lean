import PodInstrumentation.Text.Character
/-!
The parts of a message template. A percent sign starts a directive such as `%-8.3s`: a key in
parentheses, flags, a width, a precision and the letter of a conversion, of which only the letter
must be there. Two percent signs stand for one. -/
namespace PodInstrumentation.Template

inductive Key where
  | absent
  | named (name : String)
  | unclosed
deriving DecidableEq, Repr

inductive Extent where
  | absent
  | given (n : Nat)
  | nextArgument
deriving DecidableEq, Repr

structure Directive where
  key : Key
  flags : List Char
  width : Extent
  precision : Extent
  /-- The letter of the conversion; none if the template ends before it. -/
  conversion : Option Char
  index : Nat
deriving DecidableEq, Repr

inductive Piece where
  | literal (c : Char)
  | directive (d : Directive)
deriving DecidableEq, Repr

/-- The text up to the parenthesis that closes the one before it and `depth` more. -/
def closing : (depth : Nat) → List Char → Option (List Char × List Char)
  | _, [] => none
  | 0, ')' :: r => some ([], r)
  | depth + 1, ')' :: r => (closing depth r).map fun (inner, rest) => (')' :: inner, rest)
  | depth, '(' :: r => (closing (depth + 1) r).map fun (inner, rest) => ('(' :: inner, rest)
  | depth, c :: r => (closing depth r).map fun (inner, rest) => (c :: inner, rest)

def readKey : List Char → Key × List Char
  | '(' :: r => match closing 0 r with
    | some (name, rest) => (.named (String.ofList name), rest)
    | none => (.unclosed, [])
  | cs => (.absent, cs)

def isFlag (c : Char) : Bool := ['-', '+', ' ', '#', '0'].contains c

def readExtent : List Char → Extent × List Char
  | '*' :: r => (.nextArgument, r)
  | cs =>
    if (cs.takeWhile Text.isAsciiDigit).isEmpty then (.absent, cs)
    else (.given (Text.digitsValue (cs.takeWhile Text.isAsciiDigit)),
      cs.dropWhile Text.isAsciiDigit)

/-- A precision after a point; a point alone gives zero. -/
def readPrecision : List Char → Extent × List Char
  | '.' :: r =>
    let (extent, rest) := readExtent r
    (if extent = .absent then .given 0 else extent, rest)
  | cs => (.absent, cs)

/-- Leaves out a letter for the size of the argument, which says nothing here. -/
def skipSize : List Char → List Char
  | 'h' :: r | 'l' :: r | 'L' :: r => r
  | cs => cs

def readDirective (length : Nat) (cs : List Char) : Directive × List Char :=
  let key := readKey cs
  let width := readExtent (key.2.dropWhile isFlag)
  let precision := readPrecision width.2
  let rest := skipSize precision.2
  (⟨key.1, key.2.takeWhile isFlag, width.1, precision.1, rest.head?, length - rest.length⟩,
    rest.tail)

/- What is read of a template leaves an end of it. -/

theorem closing_suffix {depth : Nat} {cs inner rest : List Char}
    (h : closing depth cs = some (inner, rest)) : rest <:+ cs := by
  fun_induction closing depth cs generalizing inner rest with
  | case1 => simp at h
  | case2 r =>
    obtain ⟨-, rfl⟩ := Prod.mk.inj (Option.some.inj h)
    exact List.suffix_cons _ _
  | case3 depth r ih | case4 depth r ih | case5 depth c r _ _ _ ih =>
    obtain ⟨⟨inner', rest'⟩, h', e⟩ := Option.map_eq_some_iff.1 h
    obtain ⟨-, rfl⟩ := Prod.mk.inj e
    exact (ih h').trans (List.suffix_cons _ _)

theorem readKey_suffix (cs : List Char) : (readKey cs).2 <:+ cs := by
  unfold readKey
  split
  · split
    · next h => exact (closing_suffix h).trans (List.suffix_cons _ _)
    · exact List.nil_suffix
  · exact List.suffix_refl _

theorem readExtent_suffix (cs : List Char) : (readExtent cs).2 <:+ cs := by
  unfold readExtent
  split
  · exact List.suffix_cons _ _
  · split
    · exact List.suffix_refl _
    · exact List.dropWhile_suffix _

theorem readPrecision_suffix (cs : List Char) : (readPrecision cs).2 <:+ cs := by
  unfold readPrecision
  split
  · exact (readExtent_suffix _).trans (List.suffix_cons _ _)
  · exact List.suffix_refl _

theorem skipSize_suffix (cs : List Char) : skipSize cs <:+ cs := by
  unfold skipSize
  split
  · exact List.suffix_cons _ _
  · exact List.suffix_cons _ _
  · exact List.suffix_cons _ _
  · exact List.suffix_refl _

theorem readDirective_suffix (length : Nat) (cs : List Char) :
    (readDirective length cs).2 <:+ cs :=
  (List.tail_suffix _).trans <| (skipSize_suffix _).trans <| (readPrecision_suffix _).trans <|
    (readExtent_suffix _).trans <| (List.dropWhile_suffix _).trans (readKey_suffix cs)

def pieces (length : Nat) : List Char → List Piece
  | [] => []
  | '%' :: '%' :: r => .literal '%' :: pieces length r
  | '%' :: r =>
    .directive (readDirective length r).1 :: pieces length (readDirective length r).2
  | c :: r => .literal c :: pieces length r
termination_by cs => cs.length
decreasing_by
  · exact Nat.lt_succ_of_lt (Nat.lt_succ_self _)
  · exact Nat.lt_succ_of_le (readDirective_suffix length r).length_le
  · exact Nat.lt_succ_self _

end PodInstrumentation.Template
