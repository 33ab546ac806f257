import ScriptCache.Bytecode.Opcode
import ScriptCache.Text.Quoted

namespace ScriptCache

abbrev ConstantIndex := UInt32

abbrev LocalIndex := UInt32

abbrev JumpOffset := Int32

abbrev StackOffset := Int32

def JumpOffset.landing (offset : JumpOffset) (pc : Nat) : Int :=
  pc + offset.toInt

/-- The landing in machine words, unless its sign bit is set. -/
def JumpOffset.target? (offset : JumpOffset) (pc : UInt64) : Option UInt64 :=
  let landing := pc.toInt64 + offset.toInt64
  if landing < 0 then none else some landing.toUInt64

inductive BindingKind where
  | variable
  | lexical
  | constant
  deriving DecidableEq, Repr

namespace BindingKind

def all : List BindingKind :=
  [.variable, .lexical, .constant]

def byte : BindingKind → UInt8
  | .variable => 0
  | .lexical => 1
  | .constant => 2

def name : BindingKind → String
  | .variable => "Var"
  | .lexical => "Let"
  | .constant => "Const"

def ofByte? (b : UInt8) : Option BindingKind :=
  all.find? fun kind => kind.byte == b

theorem mem_all (kind : BindingKind) : kind ∈ all := by
  cases kind <;> decide

theorem ofByte?_byte (kind : BindingKind) : ofByte? kind.byte = some kind := by
  cases kind <;> decide

theorem byte_of_ofByte? {b : UInt8} {kind : BindingKind} (h : ofByte? b = some kind) :
    kind.byte = b := by
  have found := List.find?_some h
  exact beq_iff_eq.1 found

end BindingKind

inductive Operands where
  | none
  | constant (index : ConstantIndex)
  | count (n : UInt32)
  | stack (slot : StackOffset)
  | localSlot (index : LocalIndex)
  | jump (offset : JumpOffset)
  | named (name : String)
  | varRef (name : String) (slot : UInt32)
  | getVar (name : String) (slot : UInt32) (isRef isCallee : Bool)
  | resolveVar (name : String) (slot : UInt32) (kind : BindingKind) (strict : Bool)
  | frame (stackSize args : UInt32)
  | function (index : ConstantIndex) (name : String) (length : UInt32) (strict : Bool)
  | regexp (pattern flags : String)
  | tryBlock (catchOffset finallyOffset : JumpOffset) (dynamic : Bool)
  deriving DecidableEq, Repr

namespace Operands

def shape : Operands → OperandShape
  | .none => .none
  | .constant _ => .constant
  | .count _ => .count
  | .stack _ => .stack
  | .localSlot _ => .localSlot
  | .jump _ => .jump
  | .named _ => .name
  | .varRef _ _ => .varRef
  | .getVar _ _ _ _ => .getVar
  | .resolveVar _ _ _ _ => .resolveVar
  | .frame _ _ => .frame
  | .function _ _ _ _ => .function
  | .regexp _ _ => .regexp
  | .tryBlock _ _ _ => .tryBlock

def shaped (x : Operands) : { y : Operands // y.shape = x.shape } :=
  ⟨x, rfl⟩

def jumpOffsets : Operands → List JumpOffset
  | .jump offset => [offset]
  | .tryBlock catchOffset finallyOffset _ => [catchOffset, finallyOffset]
  | _ => []

def constant? : Operands → Option ConstantIndex
  | .constant index => some index
  | .function index _ _ _ => some index
  | _ => Option.none

def signed (offset : Int32) : String :=
  (if offset.toInt < 0 then "" else "+") ++ toString offset.toInt

def flag (word : String) (on : Bool) : String :=
  if on then " " ++ word else ""

def slotText (name : String) (slot : UInt32) : String :=
  Text.quote name ++ " @" ++ toString slot.toNat

def text : Operands → String
  | .none => ""
  | .constant index => "#" ++ toString index.toNat
  | .count n => toString n.toNat
  | .stack slot => "s" ++ toString slot.toInt
  | .localSlot index => "l" ++ toString index.toNat
  | .jump offset => signed offset
  | .named name => Text.quote name
  | .varRef name slot => slotText name slot
  | .getVar name slot isRef isCallee =>
      slotText name slot ++ flag "ref" isRef ++ flag "callee" isCallee
  | .resolveVar name slot kind strict =>
      slotText name slot ++ " " ++ kind.name ++ flag "strict" strict
  | .frame stackSize args =>
      "stack=" ++ toString stackSize.toNat ++ " args=" ++ toString args.toNat
  | .function index name length strict =>
      "#" ++ toString index.toNat ++ " " ++ Text.quote name ++ " length=" ++
        toString length.toNat ++ flag "strict" strict
  | .regexp pattern flags => "/" ++ pattern ++ "/" ++ flags
  | .tryBlock catchOffset finallyOffset dynamic =>
      "catch=" ++ signed catchOffset ++ " finally=" ++ signed finallyOffset ++
        flag "dynamic" dynamic

end Operands

end ScriptCache
