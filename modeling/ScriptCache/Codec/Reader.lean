import ScriptCache.Codec.BigEndian
import ScriptCache.Codec.CacheError
import ScriptCache.Text.Utf8

namespace ScriptCache

structure Cursor where
  offset : Nat
  rest : List UInt8
  deriving DecidableEq, Repr

abbrev Reader := StateT Cursor (Except CacheError)

namespace Reader

def fail {α : Type} (offset : Nat) (reason : Corruption) : Reader α := fun _ =>
  .error (.corrupt offset reason)

def offset : Reader Nat := fun c =>
  .ok (c.offset, c)

def remaining : Reader Nat := fun c =>
  .ok (c.rest.length, c)

def take (n : Nat) : Reader (List UInt8) := fun c =>
  if n ≤ c.rest.length then .ok (c.rest.take n, ⟨c.offset + n, c.rest.drop n⟩)
  else .error (.corrupt c.offset (.unexpectedEnd n c.rest.length))

def byte : Reader UInt8 := fun c =>
  match c.rest with
  | b :: rest => .ok (b, ⟨c.offset + 1, rest⟩)
  | [] => .error (.corrupt c.offset (.unexpectedEnd 1 0))

def number (width : Nat) : Reader Nat := do
  return BigEndian.decode (← take width)

def half : Reader UInt16 := do
  return UInt16.ofNat (← number 2)

def word : Reader UInt32 := do
  return UInt32.ofNat (← number 4)

def signed : Reader Int32 := do
  return (← word).toInt32

def long : Reader UInt64 := do
  return UInt64.ofNat (← number 8)

def flag : Reader Bool := do
  let start ← offset
  let b ← byte
  if b = 0 then return false
  else if b = 1 then return true
  else fail start (.invalidBool b)

/-- A count of items that take at least `itemSize` bytes each. -/
def count (itemSize : Nat) : Reader Nat := do
  let start ← offset
  let n ← number 4
  let left ← remaining
  if left < n * itemSize then fail start (.lengthOverflow (n * itemSize) left)
  else return n

def text : Reader String := do
  let start ← offset
  let bytes ← take (← count 1)
  match Text.ofUtf8? bytes with
  | some s => return s
  | none => fail start .invalidUtf8

def times {α : Type} (item : Reader α) : Nat → Reader (List α)
  | 0 => return []
  | n + 1 => do
      let a ← item
      let rest ← times item n
      return a :: rest

def words : Reader (List UInt32) := do
  times word (← count 4)

def finish : Reader Unit := do
  let left ← remaining
  if left = 0 then return ()
  else fail (← offset) (.trailingBytes left)

end Reader

end ScriptCache
