/-!
Texts as bytes and bytes as text. In UTF-8, bytes are cut into pieces, each a character, a
surrogate written as three bytes, or the longest start of a character that does not go on; three
readings of the pieces follow. Which of the Unicode encodings a JSON text uses is seen from its
first bytes: a byte order mark, or where the zero bytes of its first character stand. Base64 is
read leniently: characters outside the alphabet are passed over, and reading ends at the first
complete padding. -/
namespace PodInstrumentation.Text.Utf8

def encode (cs : List Char) : List UInt8 := cs.flatMap String.utf8EncodeChar

inductive Piece where
  | char (c : Char)
  | surrogate
  | broken
deriving DecidableEq, Repr

def isTail (b : UInt8) : Bool := 0x80 ≤ b && b ≤ 0xBF

def isSecondOfThree (a b : UInt8) : Bool :=
  isTail b && (a != 0xE0 || 0xA0 ≤ b) && (a != 0xED || b ≤ 0x9F)

def isSecondOfFour (a b : UInt8) : Bool :=
  isTail b && (a != 0xF0 || 0x90 ≤ b) && (a != 0xF4 || b ≤ 0x8F)

def join2 (a b : UInt8) : Char := Char.ofNat ((a.toNat - 0xC0) * 0x40 + (b.toNat - 0x80))

def join3 (a b c : UInt8) : Char :=
  Char.ofNat (((a.toNat - 0xE0) * 0x40 + (b.toNat - 0x80)) * 0x40 + (c.toNat - 0x80))

def join4 (a b c d : UInt8) : Char :=
  Char.ofNat ((((a.toNat - 0xF0) * 0x40 + (b.toNat - 0x80)) * 0x40 + (c.toNat - 0x80)) * 0x40
    + (d.toNat - 0x80))

def pieces : List UInt8 → List Piece
  | [] => []
  | a :: r1 =>
    if a < 0x80 then .char (Char.ofNat a.toNat) :: pieces r1
    else if a < 0xC2 || 0xF4 < a then .broken :: pieces r1
    else match r1 with
    | [] => [.broken]
    | b :: r2 =>
      if a < 0xE0 then
        if isTail b then .char (join2 a b) :: pieces r2 else .broken :: pieces (b :: r2)
      else if a < 0xF0 then
        if isSecondOfThree a b then
          match r2 with
          | [] => [.broken]
          | c :: r3 =>
            if isTail c then .char (join3 a b c) :: pieces r3 else .broken :: pieces (c :: r3)
        else
          match r2 with
          | [] => .broken :: pieces [b]
          | c :: r3 =>
            if a == 0xED && isTail b && isTail c then .surrogate :: pieces r3
            else .broken :: pieces (b :: c :: r3)
      else if isSecondOfFour a b then
        match r2 with
        | [] => [.broken]
        | c :: r3 =>
          if isTail c then
            match r3 with
            | [] => [.broken]
            | d :: r4 =>
              if isTail d then .char (join4 a b c d) :: pieces r4
              else .broken :: pieces (d :: r4)
          else .broken :: pieces (c :: r3)
      else .broken :: pieces (b :: r2)

def decode (bs : List UInt8) : Option (List Char) :=
  (pieces bs).mapM fun
    | .char c => some c
    | _ => none

/-- As `decode`, with the replacement character for each surrogate. -/
def decodeAllowingSurrogates (bs : List UInt8) : Option (List Char) :=
  (pieces bs).mapM fun
    | .char c => some c
    | .surrogate => some '\ufffd'
    | .broken => none

/-- Always a text: the replacement character stands for what is broken, and three of them for a
surrogate. -/
def decodeReplacing (bs : List UInt8) : List Char :=
  (pieces bs).flatMap fun
    | .char c => [c]
    | .surrogate => ['\ufffd', '\ufffd', '\ufffd']
    | .broken => ['\ufffd']

def decodeString (bs : List UInt8) : Option String := (decode bs).map String.ofList

example : decode [0xE2, 0x82, 0xAC] = some ['€'] := by decide
example : decode [0xC0, 0x80] = none := by decide
example : decodeReplacing [0xE1, 0x80, 0x41] = ['\ufffd', 'A'] := by decide
example : decodeReplacing [0xED, 0xA0, 0x80] = ['\ufffd', '\ufffd', '\ufffd'] := by decide

end PodInstrumentation.Text.Utf8

namespace PodInstrumentation.Text

inductive Encoding where
  | utf8 | utf16be | utf16le | utf32be | utf32le
deriving DecidableEq, Repr

namespace Encoding

/-- The byte order marks, in the order in which they are looked for. -/
def marks : List (List UInt8 × Encoding) := [
  ([0x00, 0x00, 0xFE, 0xFF], .utf32be),
  ([0xFF, 0xFE, 0x00, 0x00], .utf32le),
  ([0xFE, 0xFF], .utf16be),
  ([0xFF, 0xFE], .utf16le),
  ([0xEF, 0xBB, 0xBF], .utf8)]

def unmarked : List UInt8 → Encoding
  | a :: b :: c :: d :: _ =>
    if a == 0 then if b == 0 then .utf32be else .utf16be
    else if b == 0 then if c == 0 && d == 0 then .utf32le else .utf16le
    else .utf8
  | [a, b] => if a == 0 then .utf16be else if b == 0 then .utf16le else .utf8
  | _ => .utf8

def detect (bs : List UInt8) : Encoding × List UInt8 :=
  match marks.find? (·.1.isPrefixOf bs) with
  | some m => (m.2, bs.drop m.1.length)
  | none => (unmarked bs, bs)

end Encoding

def pairs (bigEndian : Bool) : List UInt8 → Option (List Nat)
  | [] => some []
  | a :: b :: r => do
    let n := if bigEndian then a.toNat * 256 + b.toNat else b.toNat * 256 + a.toNat
    return n :: (← pairs bigEndian r)
  | [_] => none

/-- Surrogates in the right order make one character; one that stands alone is replaced. -/
def joinSurrogates : List Nat → List Char
  | [] => []
  | [n] => [if 0xD800 ≤ n && n ≤ 0xDFFF then '\ufffd' else Char.ofNat n]
  | n :: m :: r =>
    if 0xD800 ≤ n && n ≤ 0xDBFF && 0xDC00 ≤ m && m ≤ 0xDFFF then
      Char.ofNat (0x10000 + (n - 0xD800) * 0x400 + (m - 0xDC00)) :: joinSurrogates r
    else (if 0xD800 ≤ n && n ≤ 0xDFFF then '\ufffd' else Char.ofNat n) :: joinSurrogates (m :: r)

def quads (bigEndian : Bool) : List UInt8 → Option (List Char)
  | [] => some []
  | a :: b :: c :: d :: r => do
    let ns := if bigEndian then [a, b, c, d] else [d, c, b, a]
    let n := ns.foldl (fun n x => n * 256 + x.toNat) 0
    if 0x10FFFF < n then none
    else return (if 0xD800 ≤ n && n ≤ 0xDFFF then '\ufffd' else Char.ofNat n) ::
      (← quads bigEndian r)
  | _ => none

def Encoding.decode : Encoding → List UInt8 → Option (List Char)
  | .utf8, bs => Utf8.decodeAllowingSurrogates bs
  | .utf16be, bs => (pairs true bs).map joinSurrogates
  | .utf16le, bs => (pairs false bs).map joinSurrogates
  | .utf32be, bs => quads true bs
  | .utf32le, bs => quads false bs

def decodeAny (bs : List UInt8) : Option (List Char) :=
  let (encoding, body) := Encoding.detect bs
  encoding.decode body

example : decodeAny [0xFF, 0xFE, 0x7B, 0x00] = some ['{'] := by decide
example : decodeAny [0x00, 0x7B, 0x00, 0x7D] = some ['{', '}'] := by decide
example : decodeAny [0xFF] = none := by decide

end PodInstrumentation.Text

namespace PodInstrumentation.Text.Base64

def symbol (n : Nat) : Char :=
  if n < 26 then Char.ofNat (65 + n)
  else if n < 52 then Char.ofNat (71 + n)
  else if n < 62 then Char.ofNat (n - 4)
  else if n = 62 then '+' else '/'

def value? (c : Char) : Option Nat :=
  if 'A' ≤ c && c ≤ 'Z' then some (c.toNat - 65)
  else if 'a' ≤ c && c ≤ 'z' then some (c.toNat - 71)
  else if '0' ≤ c && c ≤ '9' then some (c.toNat + 4)
  else if c = '+' then some 62
  else if c = '/' then some 63
  else none

def encode : List UInt8 → List Char
  | [] => []
  | [a] => [symbol (a.toNat / 4), symbol (a.toNat % 4 * 16), '=', '=']
  | [a, b] =>
    [symbol (a.toNat / 4), symbol (a.toNat % 4 * 16 + b.toNat / 16),
      symbol (b.toNat % 16 * 4), '=']
  | a :: b :: c :: r =>
    symbol (a.toNat / 4) :: symbol (a.toNat % 4 * 16 + b.toNat / 16) ::
      symbol (b.toNat % 16 * 4 + c.toNat / 64) :: symbol (c.toNat % 64) :: encode r

/-- The whole bytes that a group of up to four values holds. -/
def groupBytes : List Nat → List UInt8
  | [a, b] => [UInt8.ofNat (a * 4 + b / 16)]
  | [a, b, c] => [UInt8.ofNat (a * 4 + b / 16), UInt8.ofNat (b % 16 * 16 + c / 4)]
  | [a, b, c, d] =>
    [UInt8.ofNat (a * 4 + b / 16), UInt8.ofNat (b % 16 * 16 + c / 4),
      UInt8.ofNat (c % 4 * 64 + d)]
  | _ => []

/-- Reads on with the values of the group begun and the padding seen since its last value. -/
def decodeFrom (group : List Nat) (pads : Nat) : List Char → Option (List UInt8)
  | [] => if group.isEmpty then some [] else none
  | c :: r =>
    if c = '=' then
      if group.length < 2 then decodeFrom group pads r
      else if 4 ≤ group.length + (pads + 1) then some (groupBytes group)
      else decodeFrom group (pads + 1) r
    else match value? c with
    | none => decodeFrom group pads r
    | some v =>
      if group.length = 3 then (groupBytes (group ++ [v]) ++ ·) <$> decodeFrom [] 0 r
      else decodeFrom (group ++ [v]) 0 r

def decode (cs : List Char) : Option (List UInt8) := decodeFrom [] 0 cs

example : encode [0x4D, 0x61] = ['T', 'W', 'E', '='] := by decide
example : decode ['T', 'W', '\n', 'E', '=', 'x'] = some [0x4D, 0x61] := by decide
example : decode ['T', 'W', 'E'] = none := by decide

end PodInstrumentation.Text.Base64
