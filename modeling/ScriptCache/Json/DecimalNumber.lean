import ScriptCache.Json.Value
/-!
Numbers from their decimal digits. Up to nineteen or so leading digits, as many as 64 bits hold,
count; the digits after them only move the decimal point. The digits are scaled by a power of ten
in floating-point arithmetic, so that the result is not always the nearest number.
-/

namespace ScriptCache

/-- A decimal read so far: `significand * 10 ^ exponent`, and whether later digits still count. -/
structure DecimalNumber where
  significand : Nat
  exponent : Int
  exact : Bool
  deriving DecidableEq, Repr

namespace DecimalNumber

def digitValue (c : Char) : Nat :=
  c.toNat - 48

def start : DecimalNumber :=
  ⟨0, 0, true⟩

def keeps (d : DecimalNumber) (c : Char) : Bool :=
  d.exact && d.significand * 10 + digitValue c < UInt64.size

def wholeDigit (d : DecimalNumber) (c : Char) : DecimalNumber :=
  if d.keeps c then { d with significand := d.significand * 10 + digitValue c }
  else { d with exponent := d.exponent + 1, exact := false }

def fractionDigit (d : DecimalNumber) (c : Char) : DecimalNumber :=
  if d.keeps c then
    { d with significand := d.significand * 10 + digitValue c, exponent := d.exponent - 1 }
  else { d with exact := false }

def fraction (d : DecimalNumber) (digits : List Char) : DecimalNumber :=
  digits.foldl fractionDigit { d with exact := true }

def tenTo (k : Nat) : Double :=
  Double.ofNat (Nat.pow 10 k)

/-- Divides by `10 ^ 308` until the exponent is in the table of powers. -/
def descend : Nat → Double → Int → Double × Int
  | 0, x, e => (x, e)
  | fuel + 1, x, e =>
      if e < -308 ∧ !x.isZero then descend fuel (x.div (tenTo 308)) (e + 308) else (x, e)

def magnitude? (d : DecimalNumber) : Option Double :=
  let x := Double.ofNat d.significand
  if d.exponent < 0 then
    let (x, e) := descend 4 x d.exponent
    some (if x.isZero then x else x.div (tenTo (-e).toNat))
  else if d.significand = 0 then some x
  else if 308 < d.exponent then none
  else
    let y := x.mul (tenTo d.exponent.toNat)
    if y.isInfinite then none else some y

def signed (negative : Bool) (x : Double) : Double :=
  if negative then ⟨x.bits ||| 0x8000000000000000⟩ else x

def float? (negative : Bool) (d : DecimalNumber) : Option JsonNumber :=
  d.magnitude?.map fun x => .float (signed negative x)

/-- A number without fraction and exponent is whole if 64 bits hold it; minus zero is not whole. -/
def whole? (negative : Bool) (d : DecimalNumber) : Option JsonNumber :=
  if !d.exact then d.float? negative
  else if !negative then some (.whole d.significand)
  else if d.significand = 0 ∨ Nat.pow 2 63 < d.significand then
    some (.float (signed true (Double.ofNat d.significand)))
  else some (.whole (-(d.significand : Int)))

end DecimalNumber

end ScriptCache
