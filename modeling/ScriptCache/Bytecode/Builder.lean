import ScriptCache.Bytecode.ConstantPool

namespace ScriptCache

structure Builder where
  functionName : String
  source : Source
  code : List Instruction
  constants : ConstantPool
  sourceMap : List SourceMapEntry

namespace Builder

def new (source : Source) : Builder :=
  ⟨"", source, [], [], []⟩

def named (b : Builder) (functionName : String) : Builder :=
  { b with functionName }

def instruction (b : Builder) (ins : Instruction) : Builder :=
  { b with code := b.code ++ [ins] }

def instructionAt (b : Builder) (ins : Instruction) (pos : UInt32) : Builder :=
  { b with
    code := b.code ++ [ins]
    sourceMap := b.sourceMap ++ [⟨UInt32.ofNat b.code.length, pos⟩] }

def constant (b : Builder) (c : Constant) : Builder :=
  { b with constants := (b.constants.push c).1 }

def editConstants (b : Builder) (edit : ConstantPool → ConstantPool) : Builder :=
  { b with constants := edit b.constants }

def nested (b : Builder) (functionName : String) : Builder :=
  (new b.source).named functionName

def build (b : Builder) : Program :=
  ⟨b.functionName, b.source, b.code, b.constants, b.sourceMap⟩

end Builder

end ScriptCache
