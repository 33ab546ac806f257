import ScriptCache.Bytecode.Program
import ScriptCache.Codec.Format
import ScriptCache.Codec.Reader

namespace ScriptCache.Decode

open Reader

def opcode : Reader Opcode := do
  let start ← offset
  let b ← byte
  match Opcode.ofByte? b with
  | some op => return op
  | none => fail start (.unknownOpcode b)

def bindingKind : Reader BindingKind := do
  let start ← offset
  let b ← byte
  match BindingKind.ofByte? b with
  | some kind => return kind
  | none => fail start (.invalidBindingKind b)

def operands : (shape : OperandShape) → Reader { x : Operands // x.shape = shape }
  | .none => return ⟨.none, rfl⟩
  | .constant => return ⟨.constant (← word), rfl⟩
  | .count => return ⟨.count (← word), rfl⟩
  | .stack => return ⟨.stack (← signed), rfl⟩
  | .localSlot => return ⟨.localSlot (← word), rfl⟩
  | .jump => return ⟨.jump (← signed), rfl⟩
  | .name => return ⟨.named (← text), rfl⟩
  | .varRef => return ⟨.varRef (← text) (← word), rfl⟩
  | .getVar => return ⟨.getVar (← text) (← word) (← flag) (← flag), rfl⟩
  | .resolveVar => return ⟨.resolveVar (← text) (← word) (← bindingKind) (← flag), rfl⟩
  | .frame => return ⟨.frame (← word) (← word), rfl⟩
  | .function => return ⟨.function (← word) (← text) (← word) (← flag), rfl⟩
  | .regexp => return ⟨.regexp (← text) (← text), rfl⟩
  | .tryBlock => return ⟨.tryBlock (← signed) (← signed) (← flag), rfl⟩

def instruction : Reader Instruction := do
  let op ← opcode
  let x ← operands op.shape
  return ⟨op, x.val, x.property⟩

def entry : Reader SourceMapEntry := do
  return ⟨← word, ← word⟩

def source : Reader Source := do
  return ⟨← text, ← text, ← word, ← words⟩

def body (constant : Reader Constant) (functionName : String) (source : Source) :
    Reader Program := do
  let code ← times instruction (← count 1)
  let constants ← times constant (← count 1)
  let sourceMap ← times entry (← count 8)
  return ⟨functionName, source, code, constants, sourceMap⟩

/-- A constant that may hold functions up to `room` levels deep; they share the source. -/
def constant (source : Source) (room : Nat) : Reader Constant := do
  let start ← offset
  let tag ← byte
  if tag = Format.tagUndefined then return .undefined
  else if tag = Format.tagNull then return .null
  else if tag = Format.tagBool then return .bool (← flag)
  else if tag = Format.tagInt then return .int (← long).toInt64
  else if tag = Format.tagFloat then return .float ⟨← long⟩
  else if tag = Format.tagString then return .string (← text)
  else if tag = Format.tagRegexp then return .regexp (← text) (← text)
  else if tag = Format.tagFunction then
    match room with
    | 0 => fail start .nestingTooDeep
    | room + 1 =>
        let functionName ← text
        return .function (← body (constant source room) functionName source)
  else fail start (.unknownConstantTag tag)

def program : Reader Program := do
  let functionName ← text
  let source ← source
  let p ← body (constant source Format.maxNesting) functionName source
  finish
  return p

/-- The version of a file. Bytes too few for the magic may still be the start of a file. -/
def version (bytes : List UInt8) : Except CacheError UInt16 :=
  if bytes.length < Format.magic.length then
    if bytes.isPrefixOf Format.magic then
      .error (.corrupt 0 (.unexpectedEnd Format.headerLength bytes.length))
    else .error .notACacheFile
  else if bytes.take Format.magic.length = Format.magic then
    (half.run ⟨Format.magic.length, bytes.drop Format.magic.length⟩).map Prod.fst
  else .error .notACacheFile

end ScriptCache.Decode

def ScriptCache.Program.decode (bytes : List UInt8) (expected : UInt16) :
    Except ScriptCache.CacheError ScriptCache.Program := do
  let found ← ScriptCache.Decode.version bytes
  if found = expected then
    let p ← ScriptCache.Decode.program.run
      ⟨ScriptCache.Format.headerLength, bytes.drop ScriptCache.Format.headerLength⟩
    return p.1
  else .error (.versionMismatch expected found)
