import ScriptCache.Numeric.Decimal

namespace ScriptCache

structure FloatText where
  tie : Tie
  wholeMark : String
  positional : Option (Int × Int)
  plus : String
  notANumber : String
  infinite : String

namespace FloatText

def zeros (n : Nat) : List Char :=
  List.replicate n '0'

def positionalText (wholeMark : String) (d : Decimal) : String :=
  if d.point ≤ 0 then
    "0." ++ String.ofList (zeros (-d.point).toNat ++ d.digits)
  else
    let k := d.point.toNat
    if d.digits.length ≤ k then
      String.ofList (d.digits ++ zeros (k - d.digits.length)) ++ wholeMark
    else
      String.ofList (d.digits.take k) ++ "." ++ String.ofList (d.digits.drop k)

def exponentText (plus : String) (d : Decimal) : String :=
  let e := d.point - 1
  let mantissa := match d.digits with
    | [] => "0"
    | [c] => String.ofList [c]
    | c :: cs => String.ofList (c :: '.' :: cs)
  mantissa ++ "e" ++ (if e < 0 then "-" else plus) ++ toString e.natAbs

def decimalText (f : FloatText) (d : Decimal) : String :=
  match f.positional with
  | none => positionalText f.wholeMark d
  | some (low, high) =>
      if low < d.point ∧ d.point ≤ high then positionalText f.wholeMark d
      else exponentText f.plus d

def magnitudeText (f : FloatText) (x : Double) : String :=
  if x.isZero then "0" ++ f.wholeMark
  else if x.isInfinite then f.infinite
  else f.decimalText (Decimal.shortest f.tie x)

def render (f : FloatText) (x : Double) : String :=
  if x.isNaN then f.notANumber
  else (if x.negative then "-" else "") ++ f.magnitudeText x

end FloatText

end ScriptCache
