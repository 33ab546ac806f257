import ScriptCache.Files.Entry
import ScriptCache.Text.Front

namespace ScriptCache

inductive IpAddress where
  | v4 (octets : List Nat)
  | v6 (groups : List Nat)
  deriving DecidableEq, Repr

structure SocketAddress where
  ip : IpAddress
  port : UInt16
  deriving DecidableEq, Repr

namespace SocketAddress

open Text (Front isDigitIn ofDigits)
open Text.Front (char)

def number (radix bound : Nat) (maxDigits : Option Nat) (leadingZero : Bool) : Front Nat :=
  fun cs =>
    let digits := cs.takeWhile (isDigitIn radix)
    let n := ofDigits radix digits
    let short := match maxDigits with
      | some most => digits.length ≤ most
      | none => true
    let plain := leadingZero || digits.length < 2 || digits.head? != some '0'
    if !digits.isEmpty && short && plain && n < bound then some (n, cs.drop digits.length)
    else none

def octet : Front Nat :=
  number 10 256 (some 3) false

def ipv4 : Front (List Nat) := do
  let a ← octet
  char '.'
  let b ← octet
  char '.'
  let c ← octet
  char '.'
  let d ← octet
  return [a, b, c, d]

def separated {α : Type} (first : Bool) (read : Front α) : Front α := do
  if first then read
  else
    char ':'
    read

/-- Up to `limit` groups; the last two may be written as four octets, and then no group follows. -/
def groups : (limit : Nat) → (first : Bool) → List Char → List Nat × Bool × List Char
  | 0, _, cs => ([], false, cs)
  | limit + 1, first, cs =>
      let embedded := if limit = 0 then none else (separated first ipv4).run cs
      match embedded with
      | some ([a, b, c, d], rest) => ([a * 256 + b, c * 256 + d], true, rest)
      | _ =>
          match (separated first (number 16 65536 (some 4) true)).run cs with
          | none => ([], false, cs)
          | some (g, rest) =>
              let (more, octets, rest) := groups limit false rest
              (g :: more, octets, rest)

def ipv6 : Front (List Nat) := fun cs =>
  let (head, octets, rest) := groups 8 true cs
  if head.length = 8 then some (head, rest)
  else if octets then none
  else match rest with
    | ':' :: ':' :: rest =>
        let (tail, _, rest) := groups (7 - head.length) true rest
        some (head ++ List.replicate (8 - head.length - tail.length) 0 ++ tail, rest)
    | _ => none

def scope : Front Unit := fun cs =>
  match cs with
  | '%' :: rest => (number 10 4294967296 none true rest).map fun r => ((), r.2)
  | cs => some ((), cs)

def portSuffix : Front UInt16 := do
  char ':'
  return UInt16.ofNat (← number 10 65536 none true)

def v4 : Front SocketAddress := do
  return ⟨.v4 (← ipv4), ← portSuffix⟩

def v6 : Front SocketAddress := do
  char '['
  let ip ← ipv6
  scope
  char ']'
  return ⟨.v6 ip, ← portSuffix⟩

def parse? (text : String) : Option SocketAddress :=
  (v4 <|> v6).parseAll? text

/-- The machine itself, any of its interfaces, groups of machines, and all machines. -/
def canBindOctets (octets : List Nat) : Bool :=
  let first := octets.head?.getD 0
  first == 127 || 224 ≤ first && first < 240 || octets == [0, 0, 0, 0] ||
    octets == [255, 255, 255, 255]

def canBind : IpAddress → Bool
  | .v4 octets => canBindOctets octets
  | .v6 [0, 0, 0, 0, 0, 0xffff, a, b] => canBindOctets [a / 256, a % 256, b / 256, b % 256]
  | .v6 groups => groups == [0, 0, 0, 0, 0, 0, 0, 1] || groups == List.replicate 8 0

/-- The addresses of groups of machines, and those that mean something only on one link. -/
def isUnbindable : IpAddress → Bool
  | .v6 (g :: _) => 0xff00 ≤ g || 0xfe80 ≤ g && g < 0xfec0
  | _ => false

def bindLocal (a : SocketAddress) : Except IoKind SocketAddress :=
  if canBind a.ip then .ok a
  else .error (if isUnbindable a.ip then .invalidArgument else .addressNotAvailable)

def hexGroups (groups : List Nat) : String :=
  ":".intercalate (groups.map fun g => String.ofList (Nat.toDigits 16 g))

def zeros (groups : List Nat) : Nat :=
  (groups.takeWhile (· == 0)).length

def longestZeros : Nat → List Nat → Nat × Nat
  | place, [] => (place, 0)
  | place, g :: rest =>
      let here := zeros (g :: rest)
      let later := longestZeros (place + 1) rest
      if later.2 ≤ here then (place, here) else later

def octetText (octets : List Nat) : String :=
  ".".intercalate (octets.map toString)

end SocketAddress

namespace IpAddress

open SocketAddress

/-- The text of an address. Two colons stand for the longest run of at least two zero groups. -/
def text : IpAddress → String
  | .v4 octets => octetText octets
  | .v6 [0, 0, 0, 0, 0, 0xffff, a, b] => "::ffff:" ++ octetText [a / 256, a % 256, b / 256, b % 256]
  | .v6 groups =>
      let (place, length) := longestZeros 0 groups
      if length < 2 then hexGroups groups
      else hexGroups (groups.take place) ++ "::" ++ hexGroups (groups.drop (place + length))

end IpAddress

def SocketAddress.text (a : SocketAddress) : String :=
  let host := match a.ip with
    | .v4 _ => a.ip.text
    | .v6 _ => "[" ++ a.ip.text ++ "]"
  host ++ ":" ++ toString a.port.toNat

end ScriptCache
