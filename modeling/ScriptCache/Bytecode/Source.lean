import ScriptCache.Bytecode.KeySearch
import ScriptCache.Digest.Sha256
import ScriptCache.Numeric.Word
import ScriptCache.Text.Utf8
/-!
Source texts with a table of line starts. Offsets count bytes; lines and columns count from one.
-/

namespace ScriptCache

structure Position where
  line : UInt32
  column : UInt32
  deriving DecidableEq, Repr

structure Source where
  name : String
  text : String
  scanned : UInt32
  lineOffsets : List UInt32
  deriving DecidableEq, Repr

namespace Source

def newline : UInt8 :=
  10

def lineStarts : Nat → List UInt8 → List UInt32
  | _, [] => []
  | i, b :: bs =>
      if b = newline then UInt32.ofNat (i + 1) :: lineStarts (i + 1) bs
      else lineStarts (i + 1) bs

def scan (name text : String) : Source where
  name := name
  text := text
  scanned := UInt32.ofNat (Text.utf8 text).length
  lineOffsets := 0 :: lineStarts 0 (Text.utf8 text)

def size (s : Source) : UInt32 :=
  UInt32.ofNat (Text.utf8 s.text).length

def positionInLine (s : Source) (index : Nat) (offset : UInt32) : Position :=
  let start := s.lineOffsets[index]?.getD 0
  ⟨Word.succ (UInt32.ofNat index), Word.succ (offset - start)⟩

/-- An offset before the first known line start counts as part of a first line from zero. -/
def position (s : Source) (offset : UInt32) : Position :=
  match KeySearch.run id s.lineOffsets offset with
  | .found i => s.positionInLine i offset
  | .insertion 0 => ⟨1, Word.succ offset⟩
  | .insertion (i + 1) => s.positionInLine i offset

def offsetOf? (s : Source) (p : Position) : Option UInt32 := do
  let index ← Word.pred? p.line
  let start ← s.lineOffsets[index.toNat]?
  Word.add? start (Word.pred p.column)

def keyBytes (s : Source) : List UInt8 :=
  Text.utf8 s.name ++ [0] ++ Text.utf8 s.text

def key (s : Source) : String :=
  Sha256.hexText (Sha256.digest s.keyBytes)

end Source

end ScriptCache
