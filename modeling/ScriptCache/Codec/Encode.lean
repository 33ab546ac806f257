import ScriptCache.Bytecode.Program
import ScriptCache.Codec.Format

namespace ScriptCache.Encode

def half (n : UInt16) : List UInt8 :=
  BigEndian.encode 2 n.toNat

def word (n : UInt32) : List UInt8 :=
  BigEndian.encode 4 n.toNat

def offset (n : Int32) : List UInt8 :=
  word n.toUInt32

def long (n : UInt64) : List UInt8 :=
  BigEndian.encode 8 n.toNat

def flag (b : Bool) : List UInt8 :=
  [if b then 1 else 0]

def size (n : Nat) : List UInt8 :=
  BigEndian.encode 4 n

def text (s : String) : List UInt8 :=
  size (Text.utf8 s).length ++ Text.utf8 s

def words (ns : List UInt32) : List UInt8 :=
  size ns.length ++ ns.flatMap word

def operands : Operands → List UInt8
  | .none => []
  | .constant index => word index
  | .count n => word n
  | .stack slot => offset slot
  | .localSlot index => word index
  | .jump target => offset target
  | .named name => text name
  | .varRef name slot => text name ++ word slot
  | .getVar name slot isRef isCallee => text name ++ word slot ++ flag isRef ++ flag isCallee
  | .resolveVar name slot kind strict => text name ++ word slot ++ [kind.byte] ++ flag strict
  | .frame stackSize args => word stackSize ++ word args
  | .function index name length strict => word index ++ text name ++ word length ++ flag strict
  | .regexp pattern flags => text pattern ++ text flags
  | .tryBlock catchOffset finallyOffset dynamic =>
      offset catchOffset ++ offset finallyOffset ++ flag dynamic

def instruction (ins : Instruction) : List UInt8 :=
  ins.opcode.byte :: operands ins.operands

def code (instructions : List Instruction) : List UInt8 :=
  size instructions.length ++ instructions.flatMap instruction

def entry (e : SourceMapEntry) : List UInt8 :=
  word e.pc ++ word e.pos

def sourceMap (entries : List SourceMapEntry) : List UInt8 :=
  size entries.length ++ entries.flatMap entry

def source (s : Source) : List UInt8 :=
  text s.name ++ text s.text ++ word s.scanned ++ words s.lineOffsets

def scalar : Constant → List UInt8
  | .undefined => [Format.tagUndefined]
  | .null => [Format.tagNull]
  | .bool b => Format.tagBool :: flag b
  | .int n => Format.tagInt :: long n.toUInt64
  | .float x => Format.tagFloat :: long x.bits
  | .string s => Format.tagString :: text s
  | .regexp pattern flags => Format.tagRegexp :: (text pattern ++ text flags)
  | .function _ => []

mutual

def body : Program → List UInt8
  | ⟨_, _, instructions, pool, entries⟩ =>
      code instructions ++ (size pool.length ++ constants pool) ++ sourceMap entries

def constants : List Constant → List UInt8
  | [] => []
  | .function p :: rest => Format.tagFunction :: (text p.functionName ++ body p) ++ constants rest
  | c :: rest => scalar c ++ constants rest

end

def header (version : UInt16) : List UInt8 :=
  Format.magic ++ half version

end ScriptCache.Encode

def ScriptCache.Program.encode (p : ScriptCache.Program) (version : UInt16) : List UInt8 :=
  ScriptCache.Encode.header version ++ ScriptCache.Encode.text p.functionName ++
    ScriptCache.Encode.source p.source ++ ScriptCache.Encode.body p
