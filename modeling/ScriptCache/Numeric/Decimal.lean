import ScriptCache.Numeric.Double
/-!
The fewest decimal digits that single out a number. A point lies in the rounding interval of a
number when it reads back as that number; of the grids of 1, 2, … 17 digits the first that has a
point in the interval is taken, and of two such points the nearer to the number.
-/

namespace ScriptCache

/-- The decimal `0.d₁d₂…dₙ × 10 ^ point`. -/
structure Decimal where
  digits : List Char
  point : Int
  deriving DecidableEq, Repr

inductive Tie where
  | even
  | up
  deriving DecidableEq, Repr

namespace Decimal

def scaled (x : Nat × Nat) (e : Int) : Nat × Nat :=
  (x.1 * Nat.pow 10 e.toNat, x.2 * Nat.pow 10 (-e).toNat)

/-- The points of the interval that reads back as a number, in quarters of the number's unit. -/
structure Interval where
  low : Nat
  high : Nat
  closed : Bool

/-- Below a power of two the neighbours are twice as close. -/
def Interval.of (x : Double) : Interval where
  low := 4 * x.significand - if x.fraction = 0 ∧ 1 < x.exponentField then 1 else 2
  high := 4 * x.significand + 2
  closed := x.significand % 2 = 0

def Interval.contains (i : Interval) (num den : Nat) : Bool :=
  if i.closed then i.low * den ≤ num && num ≤ i.high * den
  else i.low * den < num && num < i.high * den

/-- A decimal exponent `k` with `10 ^ (k - 1) ≤ x < 10 ^ k`, sought upward from a low estimate. -/
def pointAbove (num den : Nat) : Nat → Int → Int
  | 0, k => k
  | fuel + 1, k =>
      if num * Nat.pow 10 (-k).toNat < den * Nat.pow 10 k.toNat then k
      else pointAbove num den fuel (k + 1)

def pointOf (num den : Nat) : Int :=
  let b : Int := Nat.log2 num - Nat.log2 den
  pointAbove num den 4 ((b - 1) * 30103 / 100000)

/-- The multiple of `10 ^ e` in the interval of `x` that is nearest to `x`. -/
def nearestOnGrid? (tie : Tie) (x : Double) (e : Int) : Option Nat :=
  let i := Interval.of x
  let quarter := scaled (Nat.pow 2 (x.scale - 2).toNat, Nat.pow 2 (2 - x.scale).toNat) (-e)
  let num := 4 * x.significand * quarter.1
  let below := num / quarter.2
  let inside := fun n => i.contains (n * quarter.2) quarter.1
  let twice := 2 * (num % quarter.2)
  let upward := quarter.2 < twice ||
    twice == quarter.2 && (tie == .up || below % 2 == 1)
  match inside below, inside (below + 1) with
  | true, true => some (if upward then below + 1 else below)
  | true, false => some below
  | false, true => some (below + 1)
  | false, false => none

def firstGrid (tie : Tie) (x : Double) (point : Int) : Nat → Nat → Nat × Int
  | 0, n => (0, point - n)
  | fuel + 1, n =>
      match nearestOnGrid? tie x (point - n) with
      | some m => (m, point - n)
      | none => firstGrid tie x point fuel (n + 1)

def dropTrailingZeros (ds : List Char) : List Char :=
  (ds.reverse.dropWhile (· == '0')).reverse

def shortest (tie : Tie) (x : Double) : Decimal :=
  let (m, e) := firstGrid tie x (pointOf x.ratio.1 x.ratio.2) 17 1
  let ds := Nat.toDigits 10 m
  ⟨dropTrailingZeros ds, e + ds.length⟩

end Decimal

end ScriptCache
