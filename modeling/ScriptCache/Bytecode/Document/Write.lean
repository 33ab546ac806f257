import ScriptCache.Bytecode.Program
import ScriptCache.Json.Value

namespace ScriptCache

def Opcode.countField : Opcode → String
  | .call | .callEval | .callEvalStrict | .new => "argc"
  | .enterFunc => "stash_size"
  | .createArgs | .createArgsStrict => "formals"
  | .newArray => "len"
  | _ => "n"

namespace Document

def offset (n : Int32) : Json :=
  .whole n.toInt

def operandFields (opcode : Opcode) : Operands → List (String × Json)
  | .none => []
  | .constant index => [("idx", .word index)]
  | .count n => [(opcode.countField, .word n)]
  | .stack slot => [("slot", offset slot)]
  | .localSlot index => [("idx", .word index)]
  | .jump target => [("offset", offset target)]
  | .named name => [("name", .string name)]
  | .varRef name slot => [("name", .string name), ("slot", .word slot)]
  | .getVar name slot isRef isCallee =>
      [("name", .string name), ("slot", .word slot), ("is_ref", .bool isRef),
        ("is_callee", .bool isCallee)]
  | .resolveVar name slot kind strict =>
      [("name", .string name), ("slot", .word slot), ("kind", .string kind.name),
        ("strict", .bool strict)]
  | .frame stackSize args => [("stack_size", .word stackSize), ("args", .word args)]
  | .function index name length strict =>
      [("function", .word index), ("name", .string name), ("length", .word length),
        ("strict", .bool strict)]
  | .regexp pattern flags => [("pattern", .string pattern), ("flags", .string flags)]
  | .tryBlock catchOffset finallyOffset dynamic =>
      [("catch_offset", offset catchOffset), ("finally_offset", offset finallyOffset),
        ("dynamic", .bool dynamic)]

def instruction (ins : Instruction) : Json :=
  match operandFields ins.opcode ins.operands with
  | [] => .string ins.opcode.name
  | fields => .object [(ins.opcode.name, .object fields)]

def source (s : Source) : Json :=
  .object
    [("name", .string s.name), ("text", .string s.text), ("last_scanned_offset", .word s.scanned),
      ("line_offsets", .array (s.lineOffsets.map .word))]

def entry (e : SourceMapEntry) : Json :=
  .object [("pc", .word e.pc), ("pos", .word e.pos)]

def float (x : Double) : Json :=
  if x.isFinite then .float x else .null

def scalar : Constant → Json
  | .undefined => .string "Undefined"
  | .null => .string "Null"
  | .bool b => .object [("Bool", .bool b)]
  | .int n => .object [("Int", .whole n.toInt)]
  | .float x => .object [("Float", float x)]
  | .string s => .object [("String", .string s)]
  | .regexp pattern flags =>
      .object [("RegExp", .object [("pattern", .string pattern), ("flags", .string flags)])]
  | .function _ => .null

mutual

def program : Program → Json
  | ⟨functionName, src, code, pool, sourceMap⟩ =>
      .object
        [("function_name", .string functionName), ("source", source src),
          ("code", .array (code.map instruction)),
          ("constants", .object [("constants", .array (constants pool))]),
          ("source_map", .array (sourceMap.map entry))]

def constants : List Constant → List Json
  | [] => []
  | .function p :: rest => .object [("Function", program p)] :: constants rest
  | c :: rest => scalar c :: constants rest

end

end Document

def Program.toJson (p : Program) : Json :=
  Document.program p

end ScriptCache
