/-!
Double precision numbers, told apart by their bits: unlike the numbers themselves, two NaNs of
the same bits are equal here and the two zeros are not. -/
namespace PodInstrumentation

structure Double where
  bits : UInt64
deriving DecidableEq, Repr, Inhabited

namespace Double

def ofFloat (x : Float) : Double := ⟨x.toBits⟩

def toFloat (x : Double) : Float := Float.ofBits x.bits

def nan : Double := ⟨0x7FF8000000000000⟩
def infinity : Double := ⟨0x7FF0000000000000⟩
def zero : Double := ⟨0⟩

def isNegative (x : Double) : Bool := x.bits >>> 63 == 1

def neg (x : Double) : Double := ⟨x.bits ^^^ 0x8000000000000000⟩

def exponentBits (x : Double) : Nat := ((x.bits >>> 52) &&& 0x7FF).toNat

def fractionBits (x : Double) : Nat := (x.bits &&& 0xFFFFFFFFFFFFF).toNat

def isFinite (x : Double) : Bool := x.exponentBits != 0x7FF

def isNaN (x : Double) : Bool := x.exponentBits == 0x7FF && x.fractionBits != 0

def isZero (x : Double) : Bool := x.exponentBits == 0 && x.fractionBits == 0

/-- The double nearest to `digits * 10 ^ exponent`. Powers of ten that are out of range whatever
the digits are not computed. -/
def ofDecimal (digits : Nat) (exponent : Int) : Double :=
  if digits = 0 then zero
  else if 310 < exponent then infinity
  else if exponent + (digits.log2 + 1 : Nat) < -400 then zero
  else ofFloat (Float.ofScientific digits (exponent < 0) exponent.natAbs)

/-- The size of a finite double as `m * 2 ^ q`. -/
def parts (x : Double) : Nat × Int :=
  if x.exponentBits == 0 then (x.fractionBits, -1074)
  else (Nat.pow 2 52 + x.fractionBits, (x.exponentBits : Int) - 1075)

def withSign (x : Double) (n : Nat) : Int := if x.isNegative then -(n : Int) else n

def integer? (x : Double) : Option Int :=
  if !x.isFinite then none
  else
    let (m, q) := x.parts
    let n? := if 0 ≤ q then some (m * Nat.pow 2 q.toNat)
      else if m % Nat.pow 2 q.natAbs = 0 then some (m / Nat.pow 2 q.natAbs) else none
    n?.map x.withSign

def truncated? (x : Double) : Option Int :=
  if !x.isFinite then none
  else
    let (m, q) := x.parts
    some (x.withSign (if 0 ≤ q then m * Nat.pow 2 q.toNat else m / Nat.pow 2 q.natAbs))

example : (ofDecimal 15 (-1)).bits = 0x3FF8000000000000 := by decide +kernel
example : (ofDecimal 1 400) = infinity := by decide +kernel
example : integer? ⟨0x4008000000000000⟩ = some 3 := by decide +kernel
example : integer? ⟨0x3FF8000000000000⟩ = none := by decide +kernel
example : truncated? ⟨0xBFF8000000000000⟩ = some (-1) := by decide +kernel

end Double

end PodInstrumentation
