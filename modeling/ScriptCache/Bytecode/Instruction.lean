import ScriptCache.Bytecode.Operands

namespace ScriptCache

structure Instruction where
  opcode : Opcode
  operands : Operands
  fits : operands.shape = opcode.shape
  deriving DecidableEq, Repr

namespace Instruction

def ofParts? (opcode : Opcode) (operands : Operands) : Option Instruction :=
  if fits : operands.shape = opcode.shape then some ⟨opcode, operands, fits⟩ else none

theorem ofParts?_eq_some_iff {opcode : Opcode} {operands : Operands} {ins : Instruction} :
    ofParts? opcode operands = some ins ↔ ins.opcode = opcode ∧ ins.operands = operands := by
  obtain ⟨op, x, fits⟩ := ins
  unfold ofParts?
  split
  · simp [eq_comm]
  · rename_i unfit
    simp only [reduceCtorEq, false_iff, not_and]
    rintro rfl rfl
    exact unfit fits

def jumpOffsets (ins : Instruction) : List JumpOffset :=
  ins.operands.jumpOffsets

def constant? (ins : Instruction) : Option ConstantIndex :=
  ins.operands.constant?

def text (ins : Instruction) : String :=
  match ins.operands with
  | .none => ins.opcode.name
  | operands => ins.opcode.name ++ " " ++ operands.text

end Instruction

end ScriptCache
