import ScriptCache.Bytecode.ConstantPool

namespace ScriptCache

inductive ReferenceCause where
  | jumpOutOfRange (target : Int)
  | constantOutOfRange (index : ConstantIndex)
  | notAFunction (index : ConstantIndex)
  deriving DecidableEq, Repr

structure ReferenceError where
  function : String
  pc : Nat
  cause : ReferenceCause
  deriving DecidableEq, Repr

def ReferenceError.message (e : ReferenceError) : String :=
  e.function ++ ": instruction " ++ toString e.pc ++
    match e.cause with
    | .jumpOutOfRange target => " jumps outside the code (" ++ toString target ++ ")"
    | .constantOutOfRange index => " refers to missing constant " ++ toString index.toNat
    | .notAFunction index => " expects a function at constant " ++ toString index.toNat

namespace References

def jumpFault? (length pc : Nat) (offset : JumpOffset) : Option ReferenceCause :=
  let target := JumpOffset.landing offset pc
  if 0 ≤ target ∧ target ≤ length then none else some (.jumpOutOfRange target)

def constantFault? (pool : ConstantPool) (opcode : Opcode) (index : ConstantIndex) :
    Option ReferenceCause :=
  match pool.at? index with
  | none => some (.constantOutOfRange index)
  | some c =>
      if opcode = .newFunc ∧ c.function?.isNone then some (.notAFunction index) else none

def instructionFault? (length : Nat) (pool : ConstantPool) (pc : Nat) (ins : Instruction) :
    Option ReferenceCause :=
  match ins.jumpOffsets.findSome? (jumpFault? length pc) with
  | some cause => some cause
  | none => ins.constant?.bind (constantFault? pool ins.opcode)

def codeFault? (length : Nat) (pool : ConstantPool) : Nat → List Instruction →
    Option (Nat × ReferenceCause)
  | _, [] => none
  | pc, ins :: rest =>
      match instructionFault? length pool pc ins with
      | some cause => some (pc, cause)
      | none => codeFault? length pool (pc + 1) rest

def ownError? (p : Program) : Option ReferenceError :=
  (codeFault? p.code.length p.constants 0 p.code).map fun fault =>
    ⟨p.displayName, fault.1, fault.2⟩

end References

def Program.referenceError? (p : Program) : Option ReferenceError :=
  p.functions.findSome? References.ownError?

end ScriptCache
