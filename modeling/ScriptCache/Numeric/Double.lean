/-!
Binary floating-point numbers of 64 bits, kept as their bits, so that the payload of a not-a-number
and the sign of zero are part of the value. A finite number is
`(-1)^negative * significand * 2^scale`.
-/

namespace ScriptCache

structure Double where
  bits : UInt64
  deriving DecidableEq, Repr, Inhabited

namespace Double

def negative (x : Double) : Bool :=
  Nat.pow 2 63 ≤ x.bits.toNat

def magnitude (x : Double) : Nat :=
  x.bits.toNat % Nat.pow 2 63

def exponentField (x : Double) : Nat :=
  x.magnitude / Nat.pow 2 52

def fraction (x : Double) : Nat :=
  x.magnitude % Nat.pow 2 52

def isFinite (x : Double) : Bool :=
  x.exponentField < 2047

def isNaN (x : Double) : Bool :=
  x.exponentField == 2047 && x.fraction != 0

def isInfinite (x : Double) : Bool :=
  x.exponentField == 2047 && x.fraction == 0

def isZero (x : Double) : Bool :=
  x.magnitude == 0

def significand (x : Double) : Nat :=
  if x.exponentField = 0 then x.fraction else Nat.pow 2 52 + x.fraction

def scale (x : Double) : Int :=
  (max x.exponentField 1 : Nat) - 1075

def ofMagnitude (negative : Bool) (magnitude : Nat) : Double :=
  ⟨UInt64.ofNat (magnitude + if negative then Nat.pow 2 63 else 0)⟩

def zero (negative : Bool) : Double :=
  ofMagnitude negative 0

def infinity (negative : Bool) : Double :=
  ofMagnitude negative (2047 * Nat.pow 2 52)

def nan (negative : Bool) : Double :=
  ofMagnitude negative (2047 * Nat.pow 2 52 + Nat.pow 2 51)

def numericallyEqual (x y : Double) : Bool :=
  !x.isNaN && !y.isNaN && (x == y || x.isZero && y.isZero)

/-- The quotient rounded to the nearest natural number, a half going to the even neighbour. -/
def roundQuotient (num den : Nat) : Nat :=
  let q := num / den
  let twice := 2 * (num % den)
  if den < twice ∨ twice = den ∧ q % 2 = 1 then q + 1 else q

/-- The greatest `k` with `2 ^ k ≤ num / den`, for positive arguments. -/
def ratioLog (num den : Nat) : Int :=
  let k : Int := Nat.log2 num - Nat.log2 den
  if num * Nat.pow 2 (-k).toNat < den * Nat.pow 2 k.toNat then k - 1 else k

/-- The number nearest to `num / den`, a tie going to the even significand. -/
def ofRatio (negative : Bool) (num den : Nat) : Double :=
  if num = 0 then zero negative
  else
    let e := max (ratioLog num den - 52) (-1074)
    let q := roundQuotient (num * Nat.pow 2 (-e).toNat) (den * Nat.pow 2 e.toNat)
    ofMagnitude negative (min ((e + 1074).toNat * Nat.pow 2 52 + q) (2047 * Nat.pow 2 52))

def ofNat (n : Nat) : Double :=
  ofRatio false n 1

def ofInt (n : Int) : Double :=
  ofRatio (n < 0) n.natAbs 1

/-- The number nearest to `m * 10 ^ e`. Far above and below the range, the size of the decimal
decides without its power of ten. -/
def ofDecimal (negative : Bool) (m : Nat) (e : Int) : Double :=
  let size : Int := (Nat.toDigits 10 m).length + e
  if m = 0 ∨ size < -400 then zero negative
  else if 400 < size then infinity negative
  else ofRatio negative (m * Nat.pow 10 e.toNat) (Nat.pow 10 (-e).toNat)

def ratio (x : Double) : Nat × Nat :=
  (x.significand * Nat.pow 2 x.scale.toNat, Nat.pow 2 (-x.scale).toNat)

def mul (x y : Double) : Double :=
  ofRatio (x.negative != y.negative) (x.ratio.1 * y.ratio.1) (x.ratio.2 * y.ratio.2)

def div (x y : Double) : Double :=
  ofRatio (x.negative != y.negative) (x.ratio.1 * y.ratio.2) (x.ratio.2 * y.ratio.1)

def integer? (x : Double) : Option Int :=
  let (num, den) := x.ratio
  if x.isFinite ∧ num % den = 0 then
    some (if x.negative then -((num / den : Nat) : Int) else ((num / den : Nat) : Int))
  else none

end Double

end ScriptCache
