import ScriptCache.Text.Front

namespace ScriptCache

structure Date where
  year : Nat
  month : Nat
  day : Nat
  deriving DecidableEq, Repr

structure TimeOfDay where
  hour : Nat
  minute : Nat
  second : Nat
  fraction : List Char
  deriving DecidableEq, Repr

structure DateTime where
  date : Option Date
  time : Option TimeOfDay
  /-- Minutes ahead of universal time. -/
  offset : Option Int
  deriving DecidableEq, Repr

def Date.isLeap (year : Nat) : Bool :=
  year % 4 == 0 && (year % 100 != 0 || year % 400 == 0)

def Date.daysIn (year month : Nat) : Nat :=
  if month = 2 then if Date.isLeap year then 29 else 28
  else if month ∈ [4, 6, 9, 11] then 30
  else 31

namespace DateTime

open Text (Front ofDigits)
open Text.Front (char exactly attempt satisfying some_)

def number (width low high : Nat) : Front Nat := do
  let n := ofDigits 10 (← exactly Char.isDigit width)
  if low ≤ n ∧ n ≤ high then return n else failure

def readDate : Front Date := do
  let year ← number 4 0 9999
  char '-'
  let month ← number 2 1 12
  char '-'
  return ⟨year, month, ← number 2 1 (Date.daysIn year month)⟩

/-- A time of day; a leap second is its sixtieth. -/
def readTime : Front TimeOfDay := do
  let hour ← number 2 0 23
  char ':'
  let minute ← number 2 0 59
  char ':'
  let second ← number 2 0 60
  let fraction ← attempt do
    char '.'
    some_ Char.isDigit
  return ⟨hour, minute, second, fraction.getD []⟩

def zone : Front Int := do
  match ← satisfying (· ∈ ['Z', 'z', '+', '-']) with
  | '+' => return ← distance
  | '-' => return -(← distance)
  | _ => return 0
where
  distance : Front Int := do
    let hours ← number 2 0 23
    char ':'
    return hours * 60 + (← number 2 0 59)

def read : Front DateTime :=
  dated <|> do return ⟨none, some (← readTime), none⟩
where
  dated : Front DateTime := do
    let day ← readDate
    let rest ← attempt do
      let _ ← satisfying (· ∈ ['T', 't', ' '])
      return (← readTime, ← attempt zone)
    match rest with
    | some (t, offset) => return ⟨some day, some t, offset⟩
    | none => return ⟨some day, none, none⟩

end DateTime

end ScriptCache
