import PodInstrumentation.Json.Basic
import PodInstrumentation.Number.Reader
import PodInstrumentation.Text.Character
import PodInstrumentation.Text.Encoding
/-!
Reading JSON. A refusal says what was missing and at which line, column and character. Beside the
grammar, the numbers NaN, Infinity and -Infinity are read, of equal keys the last counts, and half
of a surrogate pair is read as the replacement character. A reader may refuse whole numbers of more
than so many digits; the one in use does. -/
namespace PodInstrumentation.Json

open Number (takeDigits decimalValue exponentPart digitLimit)

inductive Refusal where
  | expectingValue
  | expectingKey
  | expectingColon
  | expectingComma
  | unterminated
  | controlCharacter
  | badEscape
  | badUnicodeEscape
  | extraData
  | byteOrderMark
deriving DecidableEq, Repr

def Refusal.text : Refusal → String
  | .expectingValue => "Expecting value"
  | .expectingKey => "Expecting property name enclosed in double quotes"
  | .expectingColon => "Expecting ':' delimiter"
  | .expectingComma => "Expecting ',' delimiter"
  | .unterminated => "Unterminated string starting at"
  | .controlCharacter => "Invalid control character at"
  | .badEscape => "Invalid \\escape"
  | .badUnicodeEscape => "Invalid \\uXXXX escape"
  | .extraData => "Extra data"
  | .byteOrderMark => "Unexpected UTF-8 BOM (decode using utf-8-sig)"

/-- A refusal where so many characters of the text were left. -/
structure Stop where
  refusal : Refusal
  left : Nat
deriving DecidableEq, Repr

inductive ReadError where
  | refused (refusal : Refusal) (line column position : Nat)
  | longInteger (digits : Nat)
  | undecodable
deriving DecidableEq, Repr

def ReadError.message? : ReadError → Option String
  | .refused r line column position =>
    some s!"{r.text}: line {line} column {column} (char {position})"
  | .longInteger digits =>
    some (s!"Exceeds the limit (4300 digits) for integer string conversion: value has {digits} " ++
      "digits; use sys.set_int_max_str_digits() to increase the limit")
  | .undecodable => none

inductive Halt where
  | stop (s : Stop)
  | longInteger (digits : Nat)
deriving DecidableEq, Repr

def refuse {α : Type} (r : Refusal) (left : List Char) : Except Halt α :=
  .error (.stop ⟨r, left.length⟩)

def isSpace (c : Char) : Bool := c = ' ' || c = '\t' || c = '\n' || c = '\r'

def skipSpace (cs : List Char) : List Char := cs.dropWhile isSpace

def shortEscape? (c : Char) : Option Char :=
  if c = '"' then some '"'
  else if c = '\\' then some '\\'
  else if c = '/' then some '/'
  else if c = 'b' then some '\x08'
  else if c = 'f' then some '\x0c'
  else if c = 'n' then some '\n'
  else if c = 'r' then some '\r'
  else if c = 't' then some '\t'
  else none

/-- The number of four hexadecimal digits at the head, if the text goes on after them. -/
def unit? : List Char → Option (Nat × List Char)
  | a :: b :: c :: d :: e :: r =>
    (Text.hexNumber? [a, b, c, d]).map fun n => (n, e :: r)
  | _ => none

def isHigh (n : Nat) : Bool := 0xD800 ≤ n && n ≤ 0xDBFF
def isLow (n : Nat) : Bool := 0xDC00 ≤ n && n ≤ 0xDFFF

def unitChar (n : Nat) : Char :=
  if isHigh n || isLow n then '\ufffd' else Char.ofNat n

/-- The second half of a pair whose first half was just read. -/
def lowUnit? : List Char → Option (Nat × List Char)
  | '\\' :: 'u' :: r => (unit? r).bind fun p => if isLow p.1 then some p else none
  | _ => none

/-- The rest of a text in quotes; `start` is what was left at its opening quote. -/
def readText (start : List Char) : (fuel : Nat) → List Char → Except Halt (List Char × List Char)
  | 0, _ => refuse .unterminated start
  | _ + 1, [] => refuse .unterminated start
  | n + 1, c :: r =>
    if c = '"' then .ok ([], r)
    else if c = '\\' then
      match r with
      | [] => refuse .unterminated start
      | e :: r' =>
        if e = 'u' then
          match unit? r' with
          | none => refuse .badUnicodeEscape r
          | some (high, rest) =>
            match isHigh high, lowUnit? rest with
            | true, some (low, rest') => do
              let (cs, k) ← readText start n rest'
              return (Char.ofNat (0x10000 + (high - 0xD800) * 0x400 + (low - 0xDC00)) :: cs, k)
            | _, _ => do
              let (cs, k) ← readText start n rest
              return (unitChar high :: cs, k)
        else match shortEscape? e with
          | none => refuse .badEscape (c :: r)
          | some x => do
            let (cs, k) ← readText start n r'
            return (x :: cs, k)
    else if c.toNat < 0x20 then refuse .controlCharacter (c :: r)
    else do
      let (cs, k) ← readText start n r
      return (c :: cs, k)

def readString (afterQuote : List Char) : Except Halt (String × List Char) := do
  let (cs, k) ← readText ('"' :: afterQuote) (afterQuote.length + 1) afterQuote
  return (String.ofList cs, k)

/-- The digits of the whole part: one zero, or a run that does not start with zero. -/
def wholeDigits : List Char → Option (List Char × List Char)
  | '0' :: r => some (['0'], r)
  | cs => match takeDigits cs with
    | ([], _) => none
    | p => some p

def fractionDigits : List Char → List Char × List Char
  | '.' :: r => match takeDigits r with
    | ([], _) => ([], '.' :: r)
    | p => p
  | cs => ([], cs)

def afterWord : (word : List Char) → List Char → Option (List Char)
  | [], cs => some cs
  | _ :: _, [] => none
  | w :: ws, c :: cs => if w = c then afterWord ws cs else none

section

-- the most digits that a whole number may have, if there is a limit
variable (longest : Option Nat)

def readNumber (negative : Bool) (cs : List Char) : Option (Except Nat Json × List Char) := do
  let (whole, r) ← wholeDigits cs
  let (fraction, r) := fractionDigits r
  let (exponent, r) := exponentPart r
  if fraction.isEmpty && exponent.isNone then
    if longest.any (· < whole.length) then return (.error whole.length, r)
    let n : Int := decimalValue whole
    return (.ok (.int (if negative then -n else n)), r)
  else
    let x := Double.ofDecimal (decimalValue (whole ++ fraction))
      (exponent.getD 0 - fraction.length)
    return (.ok (.float (if negative then x.neg else x)), r)

def readSigned : List Char → Option (Except Nat Json × List Char)
  | '-' :: r => readNumber longest true r
  | cs => readNumber longest false cs

def readScalar (cs : List Char) : Except Halt (Json × List Char) :=
  let words := [("null", Json.null), ("true", .bool true), ("false", .bool false),
    ("NaN", .float .nan), ("Infinity", .float .infinity),
    ("-Infinity", Json.float Double.infinity.neg)]
  match words.findSome? fun w => (afterWord w.1.toList cs).map fun r => (w.2, r) with
  | some p => .ok p
  | none =>
    match readSigned longest cs with
    | some (.ok j, r) => .ok (j, r)
    | some (.error digits, _) => .error (.longInteger digits)
    | none => refuse .expectingValue cs

mutual
/-- A value at the head. The fuel bounds the length of what is read. -/
def readValue : (fuel : Nat) → List Char → Except Halt (Json × List Char)
  | 0, cs => refuse .expectingValue cs
  | n + 1, cs =>
    match cs with
    | '"' :: r => do
      let (s, k) ← readString r
      return (.str s, k)
    | '[' :: r =>
      match skipSpace r with
      | ']' :: k => .ok (.arr [], k)
      | r => do
        let (xs, k) ← readItems n r
        return (.arr xs, k)
    | '{' :: r =>
      match skipSpace r with
      | '}' :: k => .ok (.obj [], k)
      | r => do
        let (ps, k) ← readMembers n r
        return (.obj (Fields.ofPairs ps), k)
    | cs => readScalar longest cs

def readItems : (fuel : Nat) → List Char → Except Halt (List Json × List Char)
  | 0, cs => refuse .expectingValue cs
  | n + 1, cs => do
    let (x, r) ← readValue n cs
    match skipSpace r with
    | ']' :: k => return ([x], k)
    | ',' :: r => do
      let (xs, k) ← readItems n (skipSpace r)
      return (x :: xs, k)
    | r => refuse .expectingComma r

def readMembers : (fuel : Nat) → List Char → Except Halt (List (String × Json) × List Char)
  | 0, cs => refuse .expectingKey cs
  | n + 1, cs => do
    match cs with
    | '"' :: r => do
      let (key, r) ← readString r
      match skipSpace r with
      | ':' :: r => do
        let (v, r) ← readValue n (skipSpace r)
        match skipSpace r with
        | '}' :: k => return ([(key, v)], k)
        | ',' :: r => do
          let (ps, k) ← readMembers n (skipSpace r)
          return ((key, v) :: ps, k)
        | r => refuse .expectingComma r
      | r => refuse .expectingColon r
    | cs => refuse .expectingKey cs
end

def readAll (cs : List Char) : Except Halt Json := do
  let (j, r) ← readValue longest (cs.length + 1) (skipSpace cs)
  match skipSpace r with
  | [] => return j
  | r => refuse .extraData r

end

def location (before : List Char) : Nat × Nat :=
  (before.count '\n' + 1, (before.reverse.takeWhile (· != '\n')).length + 1)

def Halt.at (cs : List Char) : Halt → ReadError
  | .stop s =>
    let position := cs.length - s.left
    let (line, column) := location (cs.take position)
    .refused s.refusal line column position
  | .longInteger digits => .longInteger digits

def ofCharsWithin (longest : Option Nat) (cs : List Char) : Except ReadError Json :=
  (readAll longest cs).mapError (Halt.at cs)

def ofBytesWithin (longest : Option Nat) (bs : List UInt8) : Except ReadError Json :=
  match Text.decodeAny bs with
  | some cs => ofCharsWithin longest cs
  | none => .error .undecodable

def ofChars : List Char → Except ReadError Json := ofCharsWithin (some digitLimit)

/-- Reads a text; a byte order mark at its head is refused. -/
def parse (s : String) : Except ReadError Json :=
  match s.toList with
  | '\ufeff' :: _ => .error (.refused .byteOrderMark 1 1 0)
  | cs => ofChars cs

def ofBytes : List UInt8 → Except ReadError Json := ofBytesWithin (some digitLimit)

end PodInstrumentation.Json
