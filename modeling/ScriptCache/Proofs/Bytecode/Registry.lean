import Mathlib.Logic.Function.Defs
import ScriptCache.Bytecode.Operation

namespace ScriptCache.Operation

variable {op : Opcode} {x : Operands} {i : Operation}

theorem ofParts?_parts (i : Operation) : ofParts? i.opcode i.operands = some i := by
  cases i <;> rfl

theorem of_bare? (h : bare? op = some i) : i.opcode = op ∧ i.operands = .none := by
  unfold bare? at h
  split at h <;> cases h <;> exact ⟨rfl,rfl⟩

theorem of_named? {name : String} (h : named? name op = some i) :
    i.opcode = op ∧ i.operands = .named name := by
  unfold named? at h
  split at h <;> cases h <;> exact ⟨rfl,rfl⟩

theorem ofParts?_eq_some_iff : ofParts? op x = some i ↔ i.opcode = op ∧ i.operands = x := by
  constructor
  · intro h
    cases x with
    | none => exact of_bare? h
    | named name => exact of_named? h
    | _ => cases op <;> cases h <;> exact ⟨rfl,rfl⟩
  · rintro ⟨rfl,rfl⟩
    exact ofParts?_parts i

theorem exists_ofParts? (h : x.shape = op.shape) : ∃ i, ofParts? op x = some i := by
  cases x <;> cases op <;> cases h <;> exact ⟨_,rfl⟩

theorem isSome_ofParts?_iff : (ofParts? op x).isSome ↔ x.shape = op.shape := by
  rw [Option.isSome_iff_exists]
  constructor
  · rintro ⟨i,hi⟩
    obtain ⟨rfl,rfl⟩ := ofParts?_eq_some_iff.mp hi
    exact i.shape_operands
  · exact exists_ofParts?

theorem instruction_injective : Function.Injective instruction := by
  intro i j h
  have hparts : i.opcode = j.opcode ∧ i.operands = j.operands := by
    simpa [instruction] using h
  have hi := ofParts?_parts i
  rw [hparts.1, hparts.2, ofParts?_parts j] at hi
  exact (Option.some.inj hi).symm

theorem instruction_surjective : Function.Surjective instruction := by
  rintro ⟨op,x,fits⟩
  obtain ⟨i,hi⟩ := exists_ofParts? fits
  obtain ⟨rfl,rfl⟩ := ofParts?_eq_some_iff.mp hi
  exact ⟨i,rfl⟩

theorem map_ofParts? (op : Opcode) (x : Operands) :
    (ofParts? op x).map instruction = Instruction.ofParts? op x := by
  ext ins
  rw [Option.map_eq_some_iff, Instruction.ofParts?_eq_some_iff]
  constructor
  · rintro ⟨i,hi,rfl⟩
    exact ofParts?_eq_some_iff.mp hi
  · rintro ⟨rfl,rfl⟩
    obtain ⟨i,rfl⟩ := instruction_surjective ins
    exact ⟨i,ofParts?_parts i,rfl⟩

theorem parts_tell_operation :
    (∀ op x, ((ofParts? op x).isSome ↔ x.shape = op.shape) ∧
      ∀ i, ofParts? op x = some i ↔ i.opcode = op ∧ i.operands = x) ∧
    (∀ i : Operation, i.operands.shape = i.opcode.shape ∧
      ofParts? i.opcode i.operands = some i) ∧
    (∀ op x, Instruction.ofParts? op x = (ofParts? op x).map instruction) ∧
    Function.Bijective instruction := by
  refine ⟨?_,?_,?_,instruction_injective,instruction_surjective⟩
  · intro op x
    exact ⟨isSome_ofParts?_iff,fun i => ofParts?_eq_some_iff⟩
  · intro i
    exact ⟨i.shape_operands,ofParts?_parts i⟩
  · intro op x
    exact (map_ofParts? op x).symm

end ScriptCache.Operation
