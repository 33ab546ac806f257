import ScriptCache.Json.Draft
import ScriptCache.Text.Front
/-!
Quoted strings of a JSON text. Escapes for half a surrogate pair are flaws: they stop a reader of
the string but not one who passes over it.
-/

namespace ScriptCache.Draft

def hexQuad? (a b c d : Char) : Option Nat :=
  let digits := [a, b, c, d]
  if digits.all (Text.isDigitIn 16) then some (Text.ofDigits 16 digits) else none

def isHighSurrogate (n : Nat) : Bool :=
  0xD800 ≤ n && n < 0xDC00

def isLowSurrogate (n : Nat) : Bool :=
  0xDC00 ≤ n && n < 0xE000

def joinSurrogates (high low : Nat) : Char :=
  Char.ofNat (0x10000 + (high - 0xD800) * 0x400 + (low - 0xDC00))

/-- What has been read of a string: its characters from the last on, a high surrogate that waits
for its other half, and whether there is a flaw. -/
structure StringScan where
  taken : List Char
  pending : Option Nat
  flawed : Bool

namespace StringScan

def start : StringScan :=
  ⟨[], none, false⟩

def push (s : StringScan) (c : Char) : StringScan :=
  ⟨c :: s.taken, none, s.flawed || s.pending.isSome⟩

def pushUnit (s : StringScan) (n : Nat) : StringScan :=
  match s.pending with
  | some high =>
      if isLowSurrogate n then { s with taken := joinSurrogates high n :: s.taken, pending := none }
      else { s with pending := none, flawed := true }
  | none =>
      if isHighSurrogate n then { s with pending := some n }
      else if isLowSurrogate n then { s with flawed := true }
      else { s with taken := Char.ofNat n :: s.taken }

def text? (s : StringScan) : Option String :=
  if s.flawed || s.pending.isSome then none else some (String.ofList s.taken.reverse)

end StringScan

def simpleEscape? : Char → Option Char
  | '"' => some '"'
  | '\\' => some '\\'
  | '/' => some '/'
  | 'b' => some '\x08'
  | 'f' => some '\x0c'
  | 'n' => some '\n'
  | 'r' => some '\r'
  | 't' => some '\t'
  | _ => none

/-- A hexadecimal escape that is no escape: four more bytes are looked for before their form. -/
def hexFault (rest : List Char) : TextFault :=
  if (String.ofList (rest.take 4)).utf8ByteSize < 4 then .cutShort else .malformed

def scanString (s : StringScan) : List Char → StringScan × Except TextFault (List Char)
  | [] => (s, .error .cutShort)
  | '"' :: rest => (s, .ok rest)
  | '\\' :: 'u' :: a :: b :: c :: d :: rest =>
      match hexQuad? a b c d with
      | some n => scanString (s.pushUnit n) rest
      | none => (s, .error (hexFault [a, b, c, d]))
  | '\\' :: 'u' :: rest => (s, .error (hexFault rest))
  | '\\' :: c :: rest =>
      match simpleEscape? c with
      | some c => scanString (s.push c) rest
      | none => (s, .error .malformed)
  | ['\\'] => (s, .error .cutShort)
  | c :: rest => if c.toNat < 32 then (s, .error .malformed) else scanString (s.push c) rest

end ScriptCache.Draft
