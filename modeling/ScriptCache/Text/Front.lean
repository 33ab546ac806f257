namespace ScriptCache.Text

def digitIn? (radix : Nat) (c : Char) : Option Nat :=
  let value :=
    if c.isDigit then some (c.toNat - 48)
    else if 'a' ≤ c ∧ c ≤ 'z' then some (c.toNat - 87)
    else if 'A' ≤ c ∧ c ≤ 'Z' then some (c.toNat - 55)
    else none
  value.filter fun d => d < radix

def isDigitIn (radix : Nat) (c : Char) : Bool :=
  (digitIn? radix c).isSome

def ofDigits (radix : Nat) (cs : List Char) : Nat :=
  cs.foldl (fun n c => n * radix + (digitIn? radix c).getD 0) 0

abbrev Front := StateT (List Char) Option

namespace Front

variable {α β : Type}

def char (c : Char) : Front Unit := fun cs =>
  match cs with
  | d :: rest => if c = d then some ((), rest) else none
  | [] => none

def chars : List Char → Front Unit
  | [] => return ()
  | c :: rest => do
      char c
      chars rest

def any : Front Char := fun cs =>
  match cs with
  | c :: rest => some (c, rest)
  | [] => none

def satisfying (p : Char → Bool) : Front Char := fun cs =>
  match cs with
  | c :: rest => if p c then some (c, rest) else none
  | [] => none

def while_ (p : Char → Bool) : Front (List Char) := fun cs =>
  let taken := cs.takeWhile p
  some (taken, cs.drop taken.length)

def some_ (p : Char → Bool) : Front (List Char) := do
  let taken ← while_ p
  if taken.isEmpty then failure else return taken

def exactly (p : Char → Bool) : Nat → Front (List Char)
  | 0 => return []
  | n + 1 => do
      let c ← satisfying p
      return c :: (← exactly p n)

def atEnd : Front Unit := fun cs =>
  match cs with
  | [] => some ((), [])
  | _ => none

def attempt (read : Front α) : Front (Option α) := fun cs =>
  match read cs with
  | some (a, rest) => some (some a, rest)
  | none => some (none, cs)

def manyUpTo (read : Front α) : Nat → Front (List α)
  | 0 => return []
  | n + 1 => do
      match ← attempt read with
      | some a => return a :: (← manyUpTo read n)
      | none => return []

/-- As many readings in a row as there are; each takes at least one character. -/
def many (read : Front α) : Front (List α) := fun cs =>
  manyUpTo read cs.length cs

def separated (read : Front α) (separator : Front β) : Front (List α) := do
  let first ← read
  let rest ← many do
    let _ ← separator
    read
  return first :: rest

def parseAll? (read : Front α) (text : String) : Option α :=
  match read text.toList with
  | some (a, []) => some a
  | _ => none

end Front

end ScriptCache.Text
