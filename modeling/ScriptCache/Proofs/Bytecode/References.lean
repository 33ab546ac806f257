import Mathlib
import ScriptCache.Bytecode.References
import ScriptCache.Proofs.Bytecode.Nesting

namespace ScriptCache

inductive Operand where
  | constant (index : ConstantIndex)
  | count (n : UInt32)
  | stack (slot : StackOffset)
  | localSlot (index : LocalIndex)
  | jump (offset : JumpOffset)
  | text (s : String)
  | flag (b : Bool)
  | kind (k : BindingKind)
  deriving DecidableEq, Repr

def Operand.jump? : Operand → Option JumpOffset
  | .jump offset => some offset
  | _ => none

def Operands.fields : Operands → List Operand
  | .none => []
  | .constant index => [.constant index]
  | .count n => [.count n]
  | .stack slot => [.stack slot]
  | .localSlot index => [.localSlot index]
  | .jump offset => [.jump offset]
  | .named name => [.text name]
  | .varRef name slot => [.text name, .count slot]
  | .getVar name slot isRef isCallee => [.text name, .count slot, .flag isRef, .flag isCallee]
  | .resolveVar name slot kind strict => [.text name, .count slot, .kind kind, .flag strict]
  | .frame stackSize args => [.count stackSize, .count args]
  | .function index name length strict =>
      [.constant index, .text name, .count length, .flag strict]
  | .regexp pattern flags => [.text pattern, .text flags]
  | .tryBlock catchOffset finallyOffset dynamic =>
      [.jump catchOffset, .jump finallyOffset, .flag dynamic]

namespace Opcode

def jumping : List Opcode :=
  [.jump, .jeq, .jeq1, .jne, .jneq1, .enumNext, .tryBlock]

def referring : List Opcode :=
  [.loadVal, .loadVal1, .newFunc]

theorem mem_jumping {op : Opcode} : op ∈ jumping ↔ op.shape = .jump ∨ op.shape = .tryBlock := by
  cases op <;> decide

theorem mem_referring {op : Opcode} :
    op ∈ referring ↔ op.shape = .constant ∨ op.shape = .function := by
  cases op <;> decide

end Opcode

namespace Operands

theorem jumpOffsets_eq (x : Operands) : x.jumpOffsets = x.fields.filterMap Operand.jump? := by
  cases x <;> rfl

theorem constant?_eq_some_iff {x : Operands} {index : ConstantIndex} :
    x.constant? = some index ↔ .constant index ∈ x.fields := by
  cases x <;> simp [constant?, fields, eq_comm]

end Operands

def JumpOffset.LandsIn (offset : JumpOffset) (length pc : Nat) : Prop :=
  0 ≤ pc + offset.toInt ∧ pc + offset.toInt ≤ length

instance (offset : JumpOffset) (length pc : Nat) : Decidable (offset.LandsIn length pc) :=
  inferInstanceAs (Decidable (_ ∧ _))

namespace JumpOffset

variable {offset : JumpOffset} {length pc : Nat}

/-- Code that fits into memory is too short for a jump to leave the machine words and come back
into the code. -/
theorem exists_target?_iff (hpc : pc < length) (hlength : length < 2 ^ 63) :
    (∃ t, target? offset (UInt64.ofNat pc) = some t ∧ t.toNat ≤ length) ↔
      offset.LandsIn length pc := by
  let sum := (UInt64.ofNat pc).toInt64 + offset.toInt64
  have hsum : sum.toInt = ((pc : Int) + offset.toInt).bmod (2 ^ 64) := by
    have hword : (UInt64.ofNat pc).toInt64.toInt = pc :=
      Int64.toInt_ofNat_of_lt (Nat.lt_trans hpc hlength)
    rw [Int64.toInt_add, hword, Int32.toInt_toInt64]
  have hlower := offset.le_toInt
  have hupper := offset.toInt_lt
  have hlanding : 0 ≤ sum.toInt ∧ sum.toInt ≤ length ↔ offset.LandsIn length pc := by
    rw [hsum, Int.bmod_def, LandsIn]
    split <;> omega
  rw [← hlanding]
  change (∃ t, (if sum < 0 then none else some sum.toUInt64) = some t ∧ t.toNat ≤ length) ↔ _
  by_cases hneg : sum < 0
  · have hint : sum.toInt < 0 := Int64.lt_iff_toInt_lt.mp hneg
    simp [hneg, hint]
  · have hle : 0 ≤ sum := Int64.not_lt.mp hneg
    have hint : 0 ≤ sum.toInt := Int64.le_iff_toInt_le.mp hle
    have hword : sum.toUInt64.toNat = sum.toInt.toNat := by
      rw [Int64.toNat_toUInt64_of_le hle, Int64.toNat_toInt]
    simp only [hneg, if_false, Option.some.injEq, exists_eq_left', hword, hint, true_and]
    omega

end JumpOffset

namespace Instruction

variable {ins : Instruction} {length pc : Nat} {pool : ConstantPool} {cause : ReferenceCause}

def fields (ins : Instruction) : List Operand :=
  ins.operands.fields

theorem exists_jump_iff (ins : Instruction) :
    (∃ offset, .jump offset ∈ ins.fields) ↔ ins.opcode ∈ Opcode.jumping := by
  obtain ⟨op,x,fits⟩ := ins
  rw [Opcode.mem_jumping, ← fits, fields]
  cases x <;> simp [Operands.fields, Operands.shape]

theorem exists_constant_iff (ins : Instruction) :
    (∃ index, .constant index ∈ ins.fields) ↔ ins.opcode ∈ Opcode.referring := by
  obtain ⟨op,x,fits⟩ := ins
  rw [Opcode.mem_referring, ← fits, fields]
  cases x <;> simp [Operands.fields, Operands.shape]

structure Sound (ins : Instruction) (length : Nat) (pool : ConstantPool) (pc : Nat) : Prop where
  jumps : ∀ offset, .jump offset ∈ ins.fields → JumpOffset.LandsIn offset length pc
  constants : ∀ index, .constant index ∈ ins.fields → index.toNat < pool.length
  functions : ins.opcode = .newFunc → ∀ index, .constant index ∈ ins.fields →
    ∃ p, pool[index.toNat]? = some (.function p)

inductive Blames (ins : Instruction) (length : Nat) (pool : ConstantPool) (pc : Nat) :
    ReferenceCause → Prop
  | jump {before after : List JumpOffset} {offset : JumpOffset}
      (fields : ins.fields.filterMap Operand.jump? = before ++ offset :: after)
      (earlier : ∀ o ∈ before, JumpOffset.LandsIn o length pc)
      (outside : ¬JumpOffset.LandsIn offset length pc) :
      Blames ins length pool pc (.jumpOutOfRange (pc + offset.toInt))
  | missing {index : ConstantIndex}
      (jumps : ∀ offset, .jump offset ∈ ins.fields → JumpOffset.LandsIn offset length pc)
      (field : .constant index ∈ ins.fields) (past : pool.length ≤ index.toNat) :
      Blames ins length pool pc (.constantOutOfRange index)
  | notAFunction {index : ConstantIndex} {c : Constant}
      (jumps : ∀ offset, .jump offset ∈ ins.fields → JumpOffset.LandsIn offset length pc)
      (opcode : ins.opcode = .newFunc) (field : .constant index ∈ ins.fields)
      (found : pool[index.toNat]? = some c) (other : ∀ p, c ≠ .function p) :
      Blames ins length pool pc (.notAFunction index)

end Instruction

namespace References

variable {ins : Instruction} {length pc : Nat} {pool : ConstantPool} {cause : ReferenceCause}

theorem jumpFault?_eq (length pc : Nat) (offset : JumpOffset) :
    jumpFault? length pc offset =
      if JumpOffset.LandsIn offset length pc then none
      else some (.jumpOutOfRange (pc + offset.toInt)) :=
  rfl

theorem jumpFault?_eq_none_iff {offset : JumpOffset} :
    jumpFault? length pc offset = none ↔ JumpOffset.LandsIn offset length pc := by
  simp [jumpFault?_eq]

theorem jumpFault?_eq_some_iff {offset : JumpOffset} :
    jumpFault? length pc offset = some cause ↔
      ¬JumpOffset.LandsIn offset length pc ∧ cause = .jumpOutOfRange (pc + offset.toInt) := by
  simp [jumpFault?_eq, eq_comm]

theorem jumpOffsets_eq (ins : Instruction) :
    ins.jumpOffsets = ins.fields.filterMap Operand.jump? :=
  ins.operands.jumpOffsets_eq

theorem mem_jumpOffsets {offset : JumpOffset} :
    offset ∈ ins.jumpOffsets ↔ .jump offset ∈ ins.fields := by
  rw [jumpOffsets_eq, List.mem_filterMap]
  constructor
  · rintro ⟨field,hfield,hjump⟩
    cases field <;> cases hjump
    exact hfield
  · exact fun h => ⟨_,h,rfl⟩

theorem jumps_eq_none_iff :
    ins.jumpOffsets.findSome? (jumpFault? length pc) = none ↔
      ∀ offset, .jump offset ∈ ins.fields → JumpOffset.LandsIn offset length pc := by
  simp only [List.findSome?_eq_none_iff, jumpFault?_eq_none_iff, mem_jumpOffsets]

theorem constantFault?_eq_some_iff {op : Opcode} {index : ConstantIndex} :
    constantFault? pool op index = some cause ↔
      pool.length ≤ index.toNat ∧ cause = .constantOutOfRange index ∨
      op = .newFunc ∧ (∃ c, pool[index.toNat]? = some c ∧ ∀ p, c ≠ .function p) ∧
        cause = .notAFunction index := by
  unfold constantFault? ConstantPool.at?
  cases hc : pool[index.toNat]? with
  | none =>
    have hpast : pool.length ≤ index.toNat := List.getElem?_eq_none_iff.mp hc
    simp [hpast, @eq_comm _ cause]
  | some c =>
    have hin : index.toNat < pool.length := (List.getElem?_eq_some_iff.mp hc).1
    cases c <;> simp [hin, Constant.function?, @eq_comm _ cause]

theorem constantFault?_eq_none_iff {op : Opcode} {index : ConstantIndex} :
    constantFault? pool op index = none ↔
      index.toNat < pool.length ∧
        (op = .newFunc → ∃ p, pool[index.toNat]? = some (.function p)) := by
  unfold constantFault? ConstantPool.at?
  cases hc : pool[index.toNat]? with
  | none =>
    refine iff_of_false nofun fun h => ?_
    exact Nat.not_lt.mpr (List.getElem?_eq_none_iff.mp hc) h.1
  | some c =>
    have hin : index.toNat < pool.length := (List.getElem?_eq_some_iff.mp hc).1
    cases c <;> simp [hin, Constant.function?]

theorem instructionFault?_eq (length : Nat) (pool : ConstantPool) (pc : Nat) (ins : Instruction) :
    instructionFault? length pool pc ins =
      (ins.jumpOffsets.findSome? (jumpFault? length pc)).or
        (ins.constant?.bind (constantFault? pool ins.opcode)) := by
  unfold instructionFault?
  cases ins.jumpOffsets.findSome? (jumpFault? length pc) <;> rfl

theorem instructionFault?_eq_none_iff :
    instructionFault? length pool pc ins = none ↔ ins.Sound length pool pc := by
  rw [instructionFault?_eq, Option.or_eq_none_iff, jumps_eq_none_iff, Option.bind_eq_none_iff]
  simp only [constantFault?_eq_none_iff, Instruction.constant?, Operands.constant?_eq_some_iff]
  constructor
  · rintro ⟨hjumps,hconstants⟩
    exact ⟨hjumps,fun index h => (hconstants index h).1,fun hop index h => (hconstants index h).2 hop⟩
  · rintro ⟨hjumps,hconstants,hfunctions⟩
    exact ⟨hjumps,fun index h => ⟨hconstants index h,fun hop => hfunctions hop index h⟩⟩

theorem instructionFault?_eq_some_iff :
    instructionFault? length pool pc ins = some cause ↔ ins.Blames length pool pc cause := by
  rw [instructionFault?_eq, Option.or_eq_some_iff, jumps_eq_none_iff, Option.bind_eq_some_iff,
    List.findSome?_eq_some_iff]
  simp only [constantFault?_eq_some_iff, Instruction.constant?, Operands.constant?_eq_some_iff,
    jumpFault?_eq_some_iff, jumpFault?_eq_none_iff]
  constructor
  · rintro (⟨before,offset,after,hsplit,⟨houtside,rfl⟩,hearlier⟩ |
      ⟨hjumps,index,hfield,⟨hpast,rfl⟩ | ⟨hop,⟨c,hc,hother⟩,rfl⟩⟩)
    · exact .jump ((jumpOffsets_eq ins).symm.trans hsplit) hearlier houtside
    · exact .missing hjumps hfield hpast
    · exact .notAFunction hjumps hop hfield hc hother
  · rintro (⟨hsplit,hearlier,houtside⟩ | ⟨hjumps,hfield,hpast⟩ |
      ⟨hjumps,hop,hfield,hc,hother⟩)
    · exact .inl ⟨_,_,_,(jumpOffsets_eq ins).trans hsplit,⟨houtside,rfl⟩,hearlier⟩
    · exact .inr ⟨hjumps,_,hfield,.inl ⟨hpast,rfl⟩⟩
    · exact .inr ⟨hjumps,_,hfield,.inr ⟨hop,⟨_,hc,hother⟩,rfl⟩⟩

theorem codeFault?_cons (length : Nat) (pool : ConstantPool) (pc : Nat) (ins : Instruction)
    (rest : List Instruction) :
    codeFault? length pool pc (ins :: rest) =
      ((instructionFault? length pool pc ins).map fun cause => (pc, cause)).or
        (codeFault? length pool (pc + 1) rest) := by
  rw [codeFault?]
  cases instructionFault? length pool pc ins <;> rfl

theorem codeFault?_eq_none_iff {code : List Instruction} :
    codeFault? length pool pc code = none ↔
      ∀ (i : Nat) (ins : Instruction), code[i]? = some ins → ins.Sound length pool (pc + i) := by
  induction code generalizing pc with
  | nil => simp [codeFault?]
  | cons first rest ih =>
    rw [codeFault?_cons, Option.or_eq_none_iff, Option.map_eq_none_iff,
      instructionFault?_eq_none_iff, ih]
    constructor
    · rintro ⟨hfirst,hrest⟩ i ins hi
      cases i with
      | zero =>
        cases hi
        exact hfirst
      | succ i =>
        rw [Nat.add_comm i 1, ← Nat.add_assoc]
        exact hrest i ins hi
    · intro h
      refine ⟨h 0 first rfl,fun i ins hi => ?_⟩
      rw [Nat.add_assoc, Nat.add_comm 1 i]
      exact h (i + 1) ins hi

theorem codeFault?_eq_some_iff {code : List Instruction} {place : Nat} :
    codeFault? length pool pc code = some (place, cause) ↔
      ∃ before ins after, code = before ++ ins :: after ∧ place = pc + before.length ∧
        codeFault? length pool pc before = none ∧ ins.Blames length pool place cause := by
  induction code generalizing pc with
  | nil => simp [codeFault?]
  | cons first rest ih =>
    rw [codeFault?_cons, Option.or_eq_some_iff, ih]
    simp only [Option.map_eq_some_iff, Option.map_eq_none_iff, instructionFault?_eq_some_iff,
      Prod.mk.injEq]
    constructor
    · rintro (⟨_,hblames,rfl,rfl⟩ | ⟨hfirst,before,ins,after,rfl,rfl,hbefore,hblames⟩)
      · exact ⟨[],first,rest,rfl,rfl,rfl,hblames⟩
      · refine ⟨first :: before,ins,after,rfl,by rw [List.length_cons]; omega,?_,hblames⟩
        rw [codeFault?_cons, hfirst, hbefore]
        rfl
    · rintro ⟨before,ins,after,hsplit,rfl,hbefore,hblames⟩
      cases before with
      | nil =>
        cases hsplit
        exact .inl ⟨_,hblames,rfl,rfl⟩
      | cons x before =>
        cases hsplit
        rw [codeFault?_cons, Option.or_eq_none_iff, Option.map_eq_none_iff] at hbefore
        refine .inr ⟨hbefore.1,before,ins,after,rfl,by rw [List.length_cons]; omega,hbefore.2,hblames⟩

end References

theorem Constant.function?_eq_some_iff {c : Constant} {p : Program} :
    c.function? = some p ↔ c = .function p := by
  cases c <;> simp [Constant.function?]

namespace Program

variable {p q r : Program} {e : ReferenceError}

inductive Within : Program → Program → Prop
  | self (p : Program) : Within p p
  | nested {p q r : Program} (function : .function q ∈ p.constants) (inner : Within r q) : Within r p

def CodeSound (p : Program) : Prop :=
  ∀ (pc : Nat) (ins : Instruction), p.code[pc]? = some ins →
    ins.Sound p.code.length p.constants pc

def Sound (p : Program) : Prop :=
  ∀ q : Program, q.Within p → q.CodeSound

/-- The first broken reference of a program: its own code is looked at before the functions in its
constants, each of which is looked at with all that is within it before the next one. -/
inductive Blames : Program → ReferenceError → Prop
  | own {p : Program} {before after : List Instruction} {ins : Instruction} {cause : ReferenceCause}
      (code : p.code = before ++ ins :: after)
      (earlier : ∀ (pc : Nat) (x : Instruction), before[pc]? = some x →
        x.Sound p.code.length p.constants pc)
      (broken : ins.Blames p.code.length p.constants before.length cause) :
      Blames p ⟨p.displayName, before.length, cause⟩
  | nested {p q : Program} {before after : List Constant} {e : ReferenceError} (own : p.CodeSound)
      (constants : p.constants = before ++ .function q :: after)
      (earlier : ∀ r, .function r ∈ before → r.Sound) (inner : Blames q e) : Blames p e

theorem within_iff_mem_functions : q.Within p ↔ q ∈ p.functions := by
  induction p using nested_induction with
  | step p ih =>
    rw [functions_eq, List.mem_cons, List.mem_flatMap]
    constructor
    · intro h
      cases h with
      | self => exact .inl rfl
      | nested function inner => exact .inr ⟨_,function,(ih _ function).mp inner⟩
    · rintro (rfl | ⟨c,hc,hq⟩)
      · exact .self q
      · cases c with
        | function r => exact .nested hc ((ih r hc).mpr hq)
        | _ => cases hq

theorem ownError?_eq_none_iff : References.ownError? p = none ↔ p.CodeSound := by
  simp only [References.ownError?, Option.map_eq_none_iff, References.codeFault?_eq_none_iff,
    Nat.zero_add, CodeSound]

theorem ownError?_eq_some_iff :
    References.ownError? p = some e ↔
      ∃ before ins after cause, p.code = before ++ ins :: after ∧
        (∀ (pc : Nat) (x : Instruction), before[pc]? = some x →
          x.Sound p.code.length p.constants pc) ∧
        ins.Blames p.code.length p.constants before.length cause ∧
        e = ⟨p.displayName, before.length, cause⟩ := by
  simp only [References.ownError?, Option.map_eq_some_iff, Prod.exists,
    References.codeFault?_eq_some_iff, References.codeFault?_eq_none_iff, Nat.zero_add]
  constructor
  · rintro ⟨_,cause,⟨before,ins,after,hcode,rfl,hearlier,hbroken⟩,rfl⟩
    exact ⟨before,ins,after,cause,hcode,hearlier,hbroken,rfl⟩
  · rintro ⟨before,ins,after,cause,hcode,hearlier,hbroken,rfl⟩
    exact ⟨_,cause,⟨before,ins,after,hcode,rfl,hearlier,hbroken⟩,rfl⟩

theorem findSome?_flatMap {α β γ : Type} (f : β → Option γ) (g : α → List β) (xs : List α) :
    (xs.flatMap g).findSome? f = xs.findSome? fun x => (g x).findSome? f := by
  induction xs with
  | nil => rfl
  | cons x xs ih =>
    rw [List.flatMap_cons, List.findSome?_append, ih, List.findSome?_cons]
    cases (g x).findSome? f <;> rfl

theorem referenceError?_eq (p : Program) :
    p.referenceError? =
      (References.ownError? p).or
        (p.constants.findSome? fun c => c.function?.bind referenceError?) := by
  have hconstant (c : Constant) :
      c.functions.findSome? References.ownError? = c.function?.bind referenceError? := by
    cases c <;> rfl
  rw [referenceError?, functions_eq, List.findSome?_cons, findSome?_flatMap]
  simp only [hconstant]
  cases References.ownError? p <;> rfl

theorem referenceError?_eq_none_iff : p.referenceError? = none ↔ p.Sound := by
  simp only [referenceError?, List.findSome?_eq_none_iff, ownError?_eq_none_iff, Sound,
    within_iff_mem_functions]

theorem referenceError?_eq_some_iff : p.referenceError? = some e ↔ p.Blames e := by
  induction p using nested_induction generalizing e with
  | step p ih =>
    rw [referenceError?_eq, Option.or_eq_some_iff, ownError?_eq_some_iff, ownError?_eq_none_iff,
      List.findSome?_eq_some_iff]
    constructor
    · rintro (⟨before,ins,after,cause,hcode,hearlier,hbroken,rfl⟩ |
        ⟨hown,before,c,after,hconstants,hc,hbefore⟩)
      · exact .own hcode hearlier hbroken
      · obtain ⟨q,hq,he⟩ := Option.bind_eq_some_iff.mp hc
        obtain rfl := Constant.function?_eq_some_iff.mp hq
        have hmem : .function q ∈ p.constants := by simp [hconstants]
        refine .nested hown hconstants (fun r hr => ?_) ((ih q hmem).mp he)
        exact referenceError?_eq_none_iff.mp (hbefore (.function r) hr)
    · intro h
      cases h with
      | own code earlier broken => exact .inl ⟨_,_,_,_,code,earlier,broken,rfl⟩
      | @nested _ q before after _ own constants earlier inner =>
        have hmem : .function q ∈ p.constants := by simp [constants]
        refine .inr ⟨own,before,.function q,after,constants,(ih q hmem).mpr inner,fun c hc => ?_⟩
        cases c with
        | function r => exact referenceError?_eq_none_iff.mpr (earlier r hc)
        | _ => rfl

theorem referenceError?_first_broken (p : Program) :
    (p.referenceError? = none ↔ p.Sound) ∧
    (∀ e, p.referenceError? = some e ↔ p.Blames e) ∧
    (∀ q : Program, q.Within p → q.code.length < 2 ^ 63 → ∀ pc < q.code.length, ∀ offset,
      JumpOffset.LandsIn offset q.code.length pc ↔
        ∃ t, offset.target? (UInt64.ofNat pc) = some t ∧ t.toNat ≤ q.code.length) ∧
    ∀ ins : Instruction,
      ((∃ offset, .jump offset ∈ ins.fields) ↔ ins.opcode ∈ Opcode.jumping) ∧
      ((∃ index, .constant index ∈ ins.fields) ↔ ins.opcode ∈ Opcode.referring) :=
  ⟨referenceError?_eq_none_iff,fun _ => referenceError?_eq_some_iff,
    fun _ _ hlength _ hpc _ => (JumpOffset.exists_target?_iff hpc hlength).symm,
    fun ins => ⟨ins.exists_jump_iff,ins.exists_constant_iff⟩⟩

def strayFinally : Program :=
  ⟨"g", ⟨"a.js", "", 0, [0]⟩, [⟨.tryBlock, .tryBlock 1 5 false, rfl⟩], [], []⟩

def aroundStrayFinally : Program :=
  ⟨"", ⟨"a.js", "", 0, [0]⟩, [⟨.newFunc, .function 0 "g" 0 false, rfl⟩], [.function strayFinally],
    []⟩

theorem referenceError?_first_broken_nested :
    aroundStrayFinally.Blames ⟨"g", 0, .jumpOutOfRange 5⟩ ∧ ¬aroundStrayFinally.Sound ∧
      ∃ t, JumpOffset.target? 1 (UInt64.ofNat 0) = some t ∧ t.toNat ≤ 1 := by
  obtain ⟨hsound,hfirst,htarget,-⟩ := referenceError?_first_broken aroundStrayFinally
  have herror : aroundStrayFinally.referenceError? = some ⟨"g", 0, .jumpOutOfRange 5⟩ := by
    decide +kernel
  refine ⟨(hfirst _).mp herror,fun h => ?_,?_⟩
  · rw [hsound.mpr h] at herror
    cases herror
  · have hwithin : strayFinally.Within aroundStrayFinally :=
      .nested List.mem_cons_self (.self strayFinally)
    exact (htarget strayFinally hwithin (by decide) 0 (by decide) 1).mp (by decide)

end Program

end ScriptCache
