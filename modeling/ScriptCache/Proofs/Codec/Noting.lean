import Mathlib
import ScriptCache.Proofs.Codec.Contents
/-!
A decoder that notes on the way, at any depth, each text, array and source map whose count it has
read. Its notes apart it reads what the plain decoder reads.
-/

namespace ScriptCache

/-- A table by the place of its count, which says how many items of the width are to follow. -/
structure Table where
  start : Nat
  items : Nat
  width : Nat
  deriving DecidableEq, Repr

def Table.size (t : Table) : Nat :=
  t.items * t.width

def Table.stop (t : Table) : Nat :=
  t.start + 4 + t.size

structure Noting (α : Type) where
  read : Reader α
  notes : Cursor → List Table

namespace Noting

variable {α β : Type}

instance : Monad Noting where
  pure a := ⟨pure a, fun _ => []⟩
  bind x f := ⟨x.read >>= fun a => (f a).read, fun c => x.notes c ++
    match x.read c with
    | .ok (a, m) => (f a).notes m
    | .error _ => []⟩

instance : MonadLift Reader Noting where
  monadLift r := ⟨r, fun _ => []⟩

/-- The count is noted as soon as it is read, whether it is accepted or not. -/
def table (width : Nat) (r : Reader α) : Noting α where
  read := r
  notes c :=
    match Reader.number 4 c with
    | .ok (n, _) => [⟨c.offset, n, width⟩]
    | .error _ => []

def text : Noting String :=
  table 1 Reader.text

def words : Noting (List UInt32) :=
  table 4 Reader.words

def entries : Noting (List SourceMapEntry) :=
  table 8 (Reader.counted 8 Decode.entry)

def times (item : Noting α) : Nat → Noting (List α)
  | 0 => return []
  | n + 1 => do
      let a ← item
      let rest ← times item n
      return a :: rest

open Reader (word flag) in
def operands : (shape : OperandShape) → Noting { x : Operands // x.shape = shape }
  | .name => return Operands.shaped (.named (← text))
  | .varRef => return Operands.shaped (.varRef (← text) (← word))
  | .getVar => return Operands.shaped (.getVar (← text) (← word) (← flag) (← flag))
  | .resolveVar =>
      return Operands.shaped (.resolveVar (← text) (← word) (← Decode.bindingKind) (← flag))
  | .function => return Operands.shaped (.function (← word) (← text) (← word) (← flag))
  | .regexp => return Operands.shaped (.regexp (← text) (← text))
  | shape => Decode.operands shape

def instruction : Noting Instruction := do
  let op ← Decode.opcode
  let ⟨x, fits⟩ ← operands op.shape
  return ⟨op, x, fits⟩

def source : Noting Source := do
  return ⟨← text, ← text, ← Reader.word, ← words⟩

def body (constant : Noting Constant) (functionName : String) (source : Source) :
    Noting Program := do
  let code ← times instruction (← Reader.count 1)
  let constants ← times constant (← Reader.count 1)
  let sourceMap ← entries
  return ⟨functionName, source, code, constants, sourceMap⟩

open Reader (offset byte flag long fail) in
def tagged (nested : Nat → Noting Constant) : Noting Constant := do
  let start ← offset
  let tag ← byte
  if tag = Format.tagUndefined then return .undefined
  else if tag = Format.tagNull then return .null
  else if tag = Format.tagBool then return .bool (← flag)
  else if tag = Format.tagInt then return .int (← long).toInt64
  else if tag = Format.tagFloat then return .float ⟨← long⟩
  else if tag = Format.tagString then return .string (← text)
  else if tag = Format.tagRegexp then return .regexp (← text) (← text)
  else if tag = Format.tagFunction then nested start
  else (fail start (.unknownConstantTag tag) : Reader Constant)

def constant (source : Source) : Nat → Noting Constant
  | 0 => tagged fun start => (Reader.fail start .nestingTooDeep : Reader Constant)
  | room + 1 => tagged fun _ => do
      let functionName ← text
      return .function (← body (constant source room) functionName source)

def program : Noting Program := do
  let functionName ← text
  let s ← source
  let p ← body (constant s Format.maxNesting) functionName s
  Reader.finish
  return p

@[simp] theorem read_pure (a : α) : (pure a : Noting α).read = pure a :=
  rfl

@[simp] theorem read_bind (x : Noting α) (f : α → Noting β) :
    (x >>= f).read = x.read >>= fun a => (f a).read :=
  rfl

theorem notes_bind (x : Noting α) (f : α → Noting β) (c : Cursor) :
    (x >>= f).notes c = x.notes c ++
      match x.read c with
      | .ok (a, m) => (f a).notes m
      | .error _ => [] :=
  rfl

@[simp] theorem read_lift (r : Reader α) : (liftM r : Noting α).read = r :=
  rfl

theorem read_times (item : Noting α) (n : Nat) :
    (times item n).read = Reader.times item.read n := by
  induction n with
  | zero => rfl
  | succ n ih => simp only [times, Reader.times, read_bind, read_pure, ih]

theorem read_operands (shape : OperandShape) : (operands shape).read = Decode.operands shape := by
  cases shape <;> rfl

theorem read_instruction : instruction.read = Decode.instruction := by
  simp only [instruction, Decode.instruction, read_bind, read_lift, read_pure, read_operands]

theorem read_entries : entries.read = Reader.counted 8 Decode.entry :=
  rfl

theorem read_source : source.read = Decode.source :=
  rfl

theorem read_body (item : Noting Constant) (name : String) (s : Source) :
    (body item name s).read = Decode.body item.read name s := by
  rw [Decode.body_eq]
  simp only [body, Reader.counted, read_bind, read_lift, read_pure, read_times, read_instruction,
    read_entries, bind_assoc]

theorem read_constant (s : Source) (room : Nat) :
    (constant s room).read = Decode.constant s room := by
  induction room with
  | zero =>
    rw [constant, Decode.constant_eq]
    simp only [tagged, read_bind, read_lift, apply_ite read]
    rfl
  | succ room ih =>
    rw [constant, Decode.constant_eq]
    simp only [tagged, Decode.nested, read_bind, read_lift, apply_ite read, read_body, ih]
    rfl

theorem read_program : program.read = Decode.program := by
  simp only [program, Decode.program, read_bind, read_lift, read_pure, read_source, read_body,
    read_constant]
  rfl

end Noting

def Program.tables (bytes : List UInt8) (expected : UInt16) : List Table :=
  match Decode.version bytes with
  | .ok found =>
      if found = expected then
        Noting.program.notes ⟨Format.headerLength, bytes.drop Format.headerLength⟩
      else []
  | .error _ => []

end ScriptCache
