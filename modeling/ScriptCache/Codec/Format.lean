import ScriptCache.Codec.BigEndian
/-!
The constants of the cache format. A file is the magic, the version, the name of the program, its
source (name, text, scanned offset, line offsets), then the code, the constants and the source map;
a nested function repeats the name, the code, the constants and the source map. Numbers are
big-endian, and texts and tables follow a count of four bytes.
-/

namespace ScriptCache.Format

def magicNumber : Nat :=
  0xFFEEDD00

def magic : List UInt8 :=
  BigEndian.encode 4 magicNumber

def headerLength : Nat :=
  6

def defaultVersion : UInt16 :=
  1

def maxNesting : Nat :=
  256

def tagUndefined : UInt8 := 0

def tagNull : UInt8 := 1

def tagBool : UInt8 := 2

def tagInt : UInt8 := 3

def tagFloat : UInt8 := 4

def tagString : UInt8 := 5

def tagRegexp : UInt8 := 6

def tagFunction : UInt8 := 7

end ScriptCache.Format
