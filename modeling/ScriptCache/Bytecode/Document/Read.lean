import ScriptCache.Bytecode.Document.Write
import ScriptCache.Json.Choice
import ScriptCache.Json.Draft.Scan
import ScriptCache.Json.Record

namespace ScriptCache.Document

open Record (required)

def bindingKind : Decoder BindingKind :=
  Choice.plain (BindingKind.all.map fun kind => (kind.name, kind))

def operandRecord (opcode : Opcode) :
    (shape : OperandShape) → Record { x : Operands // x.shape = shape }
  | .none => pure (Operands.shaped .none)
  | .constant => (Operands.shaped <| .constant ·) <$> required "idx" Decoder.word
  | .count => (Operands.shaped <| .count ·) <$> required opcode.countField Decoder.word
  | .stack => (Operands.shaped <| .stack ·) <$> required "slot" Decoder.signedWord
  | .localSlot => (Operands.shaped <| .localSlot ·) <$> required "idx" Decoder.word
  | .jump => (Operands.shaped <| .jump ·) <$> required "offset" Decoder.signedWord
  | .name => (Operands.shaped <| .named ·) <$> required "name" Decoder.string
  | .varRef =>
      (Operands.shaped <| .varRef · ·) <$> required "name" Decoder.string <*>
        required "slot" Decoder.word
  | .getVar =>
      (Operands.shaped <| .getVar · · · ·) <$> required "name" Decoder.string <*>
        required "slot" Decoder.word <*> required "is_ref" Decoder.bool <*>
        required "is_callee" Decoder.bool
  | .resolveVar =>
      (Operands.shaped <| .resolveVar · · · ·) <$> required "name" Decoder.string <*>
        required "slot" Decoder.word <*> required "kind" bindingKind <*>
        required "strict" Decoder.bool
  | .frame =>
      (Operands.shaped <| .frame · ·) <$> required "stack_size" Decoder.word <*>
        required "args" Decoder.word
  | .function =>
      (Operands.shaped <| .function · · · ·) <$> required "function" Decoder.word <*>
        required "name" Decoder.string <*> required "length" Decoder.word <*>
        required "strict" Decoder.bool
  | .regexp =>
      (Operands.shaped <| .regexp · ·) <$> required "pattern" Decoder.string <*>
        required "flags" Decoder.string
  | .tryBlock =>
      (Operands.shaped <| .tryBlock · · ·) <$> required "catch_offset" Decoder.signedWord <*>
        required "finally_offset" Decoder.signedWord <*> required "dynamic" Decoder.bool

def instructionVariant (opcode : Opcode) : Variant Instruction :=
  if fits : OperandShape.none = opcode.shape then .plain ⟨opcode, .none, fits⟩
  else
    .holding <| Record.decoder ("struct variant Instruction::" ++ opcode.name) <|
      (fun ⟨x, fits⟩ => ⟨opcode, x, fits⟩) <$> operandRecord opcode opcode.shape

def instructionVariants : List (String × Variant Instruction) :=
  Opcode.all.map fun opcode => (opcode.name, instructionVariant opcode)

def instructionDecoder : Decoder Instruction :=
  Choice.decoder instructionVariants

def sourceDecoder : Decoder Source :=
  Record.decoder "struct SourceFile" <|
    Source.mk <$> required "name" Decoder.string <*> required "text" Decoder.string <*>
      required "last_scanned_offset" Decoder.word <*>
      required "line_offsets" (Decoder.list Decoder.word)

def entryDecoder : Decoder SourceMapEntry :=
  Record.decoder "struct SourceMapEntry" <|
    SourceMapEntry.mk <$> required "pc" Decoder.word <*> required "pos" Decoder.word

def regexpDecoder : Decoder Constant :=
  Record.decoder "struct variant Constant::RegExp" <|
    Constant.regexp <$> required "pattern" Decoder.string <*> required "flags" Decoder.string

def constantVariants (program : Decoder Program) : List (String × Variant Constant) :=
  [("Undefined", .plain .undefined),
    ("Null", .plain .null),
    ("Bool", .holding (Decoder.map .bool Decoder.bool)),
    ("Int", .holding (Decoder.map .int Decoder.signedLong)),
    ("Float", .holding (Decoder.map .float Decoder.float)),
    ("String", .holding (Decoder.map .string Decoder.string)),
    ("RegExp", .holding regexpDecoder),
    ("Function", .holding (Decoder.map .function program))]

def poolDecoder (constant : Decoder Constant) : Decoder (List Constant) :=
  Record.decoder "struct ConstantPool" <|
    id <$> required "constants" (Decoder.list constant)

/-- Programs nested less than the given number of levels. -/
def programDecoder : Nat → Decoder Program
  | 0 => fun _ _ => .error (.fault .malformed)
  | levels + 1 =>
      Record.decoder "struct Program" <|
        Program.mk <$> required "function_name" Decoder.string <*>
          required "source" sourceDecoder <*>
          required "code" (Decoder.list instructionDecoder) <*>
          required "constants"
            (poolDecoder (Choice.decoder (constantVariants (programDecoder levels)))) <*>
          required "source_map" (Decoder.list entryDecoder)

end ScriptCache.Document

namespace ScriptCache.Program

def ofJson (v : Json) : Except ReadError Program :=
  let d := Draft.ofJson v
  Document.programDecoder (d.depth + 1) .whole d

def ofJsonText (text : String) : Except ReadError Program := do
  let (d, after) := Draft.ofText text
  let p ← Document.programDecoder (d.depth + 1) .text d
  match after with
  | none => return p
  | some f => throw (.fault f)

end ScriptCache.Program
