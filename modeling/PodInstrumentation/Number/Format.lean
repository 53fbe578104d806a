import PodInstrumentation.Number.Double
import PodInstrumentation.Text.Character
/-!
How doubles are written. In full, a double has the fewest digits that read back: of the decimals
in the interval of reals that round to it, one with the fewest digits, and of those the nearest.
It is positional from `0.0001` to below `10 ^ 16` and has an exponent of at least two digits
elsewhere. With a given number of digits, its exact value is rounded, a tie to the even
neighbour. -/
namespace PodInstrumentation.Number

/-- A positive double as `m * 2 ^ q`. -/
structure Binary where
  m : Nat
  q : Int
  /-- The gap to the next double below is half the gap to the one above. -/
  narrowBelow : Bool

def Binary.ofDouble (x : Double) : Binary :=
  if x.exponentBits == 0 then ⟨x.fractionBits, -1074, false⟩
  else ⟨Nat.pow 2 52 + x.fractionBits, (x.exponentBits : Int) - 1075,
    x.fractionBits == 0 && x.exponentBits > 1⟩

structure Decimal where
  digits : Nat
  exponent : Int
deriving DecidableEq, Repr

def compareScaled (a : Nat) (i : Int) (b : Nat) (j : Int) : Ordering :=
  compare (a * Nat.pow 10 i.toNat * Nat.pow 2 (-j).toNat)
    (b * Nat.pow 2 j.toNat * Nat.pow 10 (-i).toNat)

/-- The decimal is one of the reals that round to the double, the ends of the interval being in
it when `m` is even. -/
def Binary.readsBack (x : Binary) (d : Decimal) : Bool :=
  let low := if x.narrowBelow then 4 * x.m - 1 else 4 * x.m - 2
  let high := 4 * x.m + 2
  let closed := x.m % 2 == 0
  let below := compareScaled d.digits d.exponent low (x.q - 2)
  let above := compareScaled d.digits d.exponent high (x.q - 2)
  (below == .gt || (closed && below == .eq)) && (above == .lt || (closed && above == .eq))

def Binary.floorAt (x : Binary) (p : Int) : Nat :=
  (x.m * Nat.pow 2 x.q.toNat * Nat.pow 10 (-p).toNat) /
    (Nat.pow 2 (-x.q).toNat * Nat.pow 10 p.toNat)

/-- The decimal with the unit `10 ^ p` that reads back, if one does: the nearer one, and of two
equally near the even one. -/
def Binary.atUnit (x : Binary) (p : Int) : Option Decimal :=
  let d := x.floorAt p
  match x.readsBack ⟨d, p⟩, x.readsBack ⟨d + 1, p⟩ with
  | true, true =>
    match compareScaled (2 * d + 1) p (2 * x.m) x.q with
    | .gt => some ⟨d, p⟩
    | .lt => some ⟨d + 1, p⟩
    | .eq => some ⟨if d % 2 = 0 then d else d + 1, p⟩
  | true, false => some ⟨d, p⟩
  | false, true => some ⟨d + 1, p⟩
  | false, false => none

/-- An exponent of ten at least as large as that of the first digit. -/
def Binary.topUnit (x : Binary) : Int := ((x.m.log2 : Int) + x.q) * 30103 / 100000 + 2

/-- The first unit, from the largest down, at which a decimal reads back. The exact value stands
in if none of the units does. -/
def Binary.shortest (x : Binary) : Decimal :=
  ((List.range 24).findSome? fun i : Nat => x.atUnit (x.topUnit - i)).getD
    (if 0 ≤ x.q then ⟨x.m * Nat.pow 2 x.q.toNat, 0⟩ else ⟨x.m * Nat.pow 5 x.q.natAbs, x.q⟩)

example : (Binary.ofDouble ⟨0x3FB999999999999A⟩).shortest = ⟨1, -1⟩ := by decide +kernel
example : (Binary.ofDouble ⟨1⟩).shortest = ⟨5, -324⟩ := by decide +kernel
example : (Binary.ofDouble ⟨0x44B52D02C7E14AF6⟩).shortest = ⟨1, 23⟩ := by decide +kernel

def digitChars (n : Nat) : List Char := (Nat.toDigits 10 n)

def zeroPad (width : Nat) (cs : List Char) : List Char :=
  List.replicate (width - cs.length) '0' ++ cs

def exponentText (e : Int) : List Char :=
  'e' :: (if e < 0 then '-' else '+') :: zeroPad 2 (digitChars e.natAbs)

def Decimal.text (d : Decimal) : List Char :=
  let ds := digitChars d.digits
  let point : Int := ds.length + d.exponent
  if -4 < point && point ≤ 16 then
    if point ≤ 0 then '0' :: '.' :: (List.replicate point.natAbs '0' ++ ds)
    else
      let whole := point.toNat
      if ds.length ≤ whole then ds ++ List.replicate (whole - ds.length) '0' ++ ['.', '0']
      else ds.take whole ++ '.' :: ds.drop whole
  else
    let mantissa := match ds with
      | a :: b :: r => a :: '.' :: b :: r
      | ds => ds
    mantissa ++ exponentText (point - 1)

def finiteText (x : Double) : List Char :=
  let body := if x.isZero then ['0', '.', '0'] else (Binary.ofDouble x).shortest.text
  if x.isNegative then '-' :: body else body

def doubleText (x : Double) : String :=
  if x.isNaN then "nan"
  else if x.isFinite then String.ofList (finiteText x)
  else if x.isNegative then "-inf" else "inf"

example : doubleText ⟨0x4341C37937E08000⟩ = "1e+16" := by decide +kernel
example : doubleText ⟨0x3F1A36E2EB1C432D⟩ = "0.0001" := by decide +kernel
example : doubleText ⟨0x3EE4F8B588E368F1⟩ = "1e-05" := by decide +kernel
example : doubleText ⟨0x3FF8000000000000⟩ = "1.5" := by decide +kernel

/-- The double divided by `10 ^ p` and rounded to the nearest, a tie to the even one. -/
def Binary.roundAt (x : Binary) (p : Int) : Nat :=
  let d := x.floorAt p
  match compareScaled (2 * d + 1) p (2 * x.m) x.q with
  | .gt => d
  | .lt => d + 1
  | .eq => if d % 2 = 0 then d else d + 1

def Binary.leadingUnit (x : Binary) : Int :=
  ((List.range 24).findSome? fun i : Nat =>
    if x.floorAt (x.topUnit - i) = 0 then none else some (x.topUnit - i)).getD 0

/-- The first `count` digits. Rounding up may carry into a new first digit. -/
def Binary.leadingDigits (x : Binary) (count : Nat) : Decimal :=
  if x.m = 0 then ⟨0, 1 - count⟩
  else
    let unit := x.leadingUnit + 1 - count
    let n := x.roundAt unit
    if n = Nat.pow 10 count then ⟨n / 10, unit + 1⟩ else ⟨n, unit⟩

/-- The digits of `n`, the last `places` of them after a point. A point that nothing follows is
written if it is kept. -/
def withPoint (kept : Bool) (places n : Nat) : List Char :=
  let ds := zeroPad (places + 1) (digitChars n)
  let whole := ds.take (ds.length - places)
  if places = 0 && !kept then whole else whole ++ '.' :: ds.drop (ds.length - places)

/-- Leaves zeros at the end of the fraction out: the places that stay, and the digits. -/
def dropZeros : (places : Nat) → Nat → Nat × Nat
  | 0, n => (0, n)
  | p + 1, n => if n % 10 = 0 then dropZeros p (n / 10) else (p + 1, n)

inductive RealForm where
  | fixed
  | scientific
  | general
deriving DecidableEq, Repr

/-- The size of a double. The precision counts the digits after the point, but in the general form
all digits, from which zeros at the end are left out unless the point is kept. -/
def Binary.text (x : Binary) (precision : Nat) (kept : Bool) : RealForm → List Char
  | .fixed => withPoint kept precision (x.roundAt (-precision))
  | .scientific =>
    let d := x.leadingDigits (precision + 1)
    withPoint kept precision d.digits ++ exponentText (d.exponent + precision)
  | .general =>
    let count := max precision 1
    let d := x.leadingDigits count
    let exponent := d.exponent + count - 1
    let positional := -4 ≤ exponent && exponent < count
    let places := if positional then d.exponent.natAbs else count - 1
    let (places, n) := if kept then (places, d.digits) else dropZeros places d.digits
    withPoint kept places n ++ (if positional then [] else exponentText exponent)

def sizeText (x : Double) (precision : Nat) (kept : Bool) (form : RealForm) : List Char :=
  if x.isNaN then ['n', 'a', 'n']
  else if x.isFinite then (Binary.ofDouble x).text precision kept form
  else ['i', 'n', 'f']

example : sizeText ⟨0x4004000000000000⟩ 0 false .fixed = ['2'] := by decide +kernel
example : sizeText ⟨0x4023FFFFFFFFFFFF⟩ 3 false .scientific = "1.000e+01".toList := by
  decide +kernel
example : sizeText ⟨0x3FB999999999999A⟩ 6 false .general = "0.1".toList := by decide +kernel

end PodInstrumentation.Number
