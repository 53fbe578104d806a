import PodInstrumentation.Number.Double
import PodInstrumentation.Text.Case
import PodInstrumentation.Text.Character
/-!
Reading numbers. A number that is a text of its own may stand between white space, have a sign,
and have `_` between its digits. -/
namespace PodInstrumentation.Number

def takeDigits (cs : List Char) : List Char × List Char :=
  cs.span fun c => '0' ≤ c && c ≤ '9'

def decimalValue (cs : List Char) : Nat := cs.foldl (fun n c => 10 * n + (c.toNat - 48)) 0

def exponentPart (cs : List Char) : Option Int × List Char :=
  match cs with
  | c :: r =>
    if c = 'e' || c = 'E' then
      let (negative, r') := match r with
        | '-' :: r' => (true, r')
        | '+' :: r' => (false, r')
        | r' => (false, r')
      match takeDigits r' with
      | ([], _) => (none, cs)
      | (ds, rest) =>
        let n : Int := decimalValue ds
        (some (if negative then -n else n), rest)
    else (none, cs)
  | [] => (none, cs)

def signPart : List Char → Bool × List Char
  | '-' :: r => (true, r)
  | '+' :: r => (false, r)
  | cs => (false, cs)

/-- Whether each `_` stands alone between two other characters. -/
def separatorsOk : List Char → Bool
  | [] => true
  | c :: r =>
    c != '_' && (r.getLast?.getD c) != '_'
      && (r.zip (r.drop 1)).all fun p => !(p.1 == '_' && p.2 == '_')

def withoutSeparators (cs : List Char) : List Char := cs.filter (· != '_')

inductive IntegerFault where
  | unreadable
  | tooLong
deriving DecidableEq, Repr

def digitLimit : Nat := 4300

/-- A text without a fraction of zeros at its end. -/
def dropZeroFraction (cs : List Char) : List Char :=
  match cs.span (· != '.') with
  | (whole, '.' :: fraction) =>
    if !fraction.isEmpty && fraction.all (· == '0') then whole else cs
  | _ => cs

/-- The number of a run of digits. Zeros at its head do not make it longer. -/
def readDigits (cs : List Char) : Except IntegerFault Nat :=
  if cs.isEmpty || !separatorsOk cs then .error .unreadable
  else match takeDigits (withoutSeparators cs) with
  | (ds, []) =>
    if digitLimit < (ds.dropWhile (· == '0')).length then .error .tooLong
    else .ok (decimalValue ds)
  | _ => .error .unreadable

/-- A whole number; a fraction of zeros may follow it. -/
def readInteger (s : String) : Except IntegerFault Int :=
  let (negative, cs) := signPart (Text.trimWhite s.toList)
  (readDigits (dropZeroFraction cs)).map fun n => if negative then -(n : Int) else n

/-- A double without a sign: digits with or without a point, and an exponent, or a word for
infinity or for no number. -/
def unsignedDouble? (cs : List Char) : Option Double :=
  let word := Text.asciiLower (String.ofList cs)
  if word = "inf" || word = "infinity" then some .infinity
  else if word = "nan" then some .nan
  else
    let (whole, r) := takeDigits cs
    let (fraction, r) := match r with
      | '.' :: r' => takeDigits r'
      | r => ([], r)
    let (exponent, r) := exponentPart r
    if (whole ++ fraction).isEmpty || !r.isEmpty then none
    else some (Double.ofDecimal (decimalValue (whole ++ fraction))
      (exponent.getD 0 - fraction.length))

def signedDouble? (cs : List Char) : Option Double :=
  let (negative, r) := signPart cs
  (unsignedDouble? r).map fun x => if negative then x.neg else x

def readDouble? (s : String) : Option Double :=
  let cs := Text.trimWhite s.toList
  if separatorsOk cs then signedDouble? (withoutSeparators cs) else none

example : readInteger " +1_000.00 " = .ok 1000 := by cbv
example : readInteger "1__0" = .error .unreadable := by cbv
example : readInteger "1." = .error .unreadable := by cbv
example : (readDouble? "-1_0.5e-1").map Double.bits = some 0xBFF0CCCCCCCCCCCD := by
  decide +kernel
example : readDouble? "." = none := by decide +kernel

end PodInstrumentation.Number
