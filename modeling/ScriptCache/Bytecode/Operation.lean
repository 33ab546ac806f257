import ScriptCache.Bytecode.Instruction

namespace ScriptCache

inductive Operation where
  | loadVal (idx : ConstantIndex)
  | loadVal1 (idx : ConstantIndex)
  | loadUndef
  | loadNil
  | loadGlobalObject
  | loadCallee
  | boxThis
  | pop
  | dup
  | dupN (n : UInt32)
  | rdupN (n : UInt32)
  | swap
  | noop
  | halt
  | loadStack (slot : StackOffset)
  | storeStack (slot : StackOffset)
  | storeStackP (slot : StackOffset)
  | getLocal (idx : LocalIndex)
  | setLocal (idx : LocalIndex)
  | setLocalP (idx : LocalIndex)
  | add
  | sub
  | mul
  | div
  | mod
  | neg
  | plus
  | inc
  | dec
  | toNumber
  | and
  | or
  | xor
  | bitNot
  | sal
  | sar
  | shr
  | not
  | eq
  | neq
  | strictEq
  | strictNeq
  | lt
  | lte
  | gt
  | gte
  | member
  | instanceOf
  | typeOf
  | getProp (name : String)
  | getPropCallee (name : String)
  | setProp (name : String)
  | setProp1 (name : String)
  | setPropStrict (name : String)
  | setPropGetter (name : String)
  | setPropSetter (name : String)
  | deleteProp (name : String)
  | deletePropStrict (name : String)
  | getElem
  | getElemCallee
  | setElem
  | setElemStrict
  | deleteElem
  | deleteElemStrict
  | setProto
  | bindName (name : String)
  | resolveVar (name : String) (slot : UInt32) (kind : BindingKind) (strict : Bool)
  | resolveVar1 (name : String)
  | resolveVar1Strict (name : String)
  | getVar (name : String) (slot : UInt32) (isRef isCallee : Bool)
  | getVar1 (name : String)
  | getVar1Callee (name : String)
  | setVar (name : String) (slot : UInt32)
  | setVarStrict (name : String) (slot : UInt32)
  | setVar1Strict (name : String)
  | getValue
  | putValue
  | setGlobal (name : String)
  | setGlobalStrict (name : String)
  | deleteVar (name : String)
  | deleteGlobal (name : String)
  | newStash
  | enterWith
  | leaveWith
  | enterCatch (name : String)
  | jump (offset : JumpOffset)
  | jeq (offset : JumpOffset)
  | jeq1 (offset : JumpOffset)
  | jne (offset : JumpOffset)
  | jneq1 (offset : JumpOffset)
  | call (argc : UInt32)
  | callEval (argc : UInt32)
  | callEvalStrict (argc : UInt32)
  | new (argc : UInt32)
  | enterFunc (stashSize : UInt32)
  | enterFuncStashless (stackSize args : UInt32)
  | ret
  | retStashless
  | retFinally
  | createArgs (formals : UInt32)
  | createArgsStrict (formals : UInt32)
  | newFunc (function : ConstantIndex) (name : String) (length : UInt32) (strict : Bool)
  | tryBlock (catchOffset finallyOffset : JumpOffset) (dynamic : Bool)
  | throw
  | enumerate
  | enumNext (offset : JumpOffset)
  | enumGet
  | enumPop
  | newObject
  | newArray (len : UInt32)
  | newRegexp (pattern flags : String)
  deriving DecidableEq, Repr

namespace Operation

def opcode : Operation → Opcode
  | .loadVal _ => .loadVal
  | .loadVal1 _ => .loadVal1
  | .loadUndef => .loadUndef
  | .loadNil => .loadNil
  | .loadGlobalObject => .loadGlobalObject
  | .loadCallee => .loadCallee
  | .boxThis => .boxThis
  | .pop => .pop
  | .dup => .dup
  | .dupN _ => .dupN
  | .rdupN _ => .rdupN
  | .swap => .swap
  | .noop => .noop
  | .halt => .halt
  | .loadStack _ => .loadStack
  | .storeStack _ => .storeStack
  | .storeStackP _ => .storeStackP
  | .getLocal _ => .getLocal
  | .setLocal _ => .setLocal
  | .setLocalP _ => .setLocalP
  | .add => .add
  | .sub => .sub
  | .mul => .mul
  | .div => .div
  | .mod => .mod
  | .neg => .neg
  | .plus => .plus
  | .inc => .inc
  | .dec => .dec
  | .toNumber => .toNumber
  | .and => .and
  | .or => .or
  | .xor => .xor
  | .bitNot => .bitNot
  | .sal => .sal
  | .sar => .sar
  | .shr => .shr
  | .not => .not
  | .eq => .eq
  | .neq => .neq
  | .strictEq => .strictEq
  | .strictNeq => .strictNeq
  | .lt => .lt
  | .lte => .lte
  | .gt => .gt
  | .gte => .gte
  | .member => .member
  | .instanceOf => .instanceOf
  | .typeOf => .typeOf
  | .getProp _ => .getProp
  | .getPropCallee _ => .getPropCallee
  | .setProp _ => .setProp
  | .setProp1 _ => .setProp1
  | .setPropStrict _ => .setPropStrict
  | .setPropGetter _ => .setPropGetter
  | .setPropSetter _ => .setPropSetter
  | .deleteProp _ => .deleteProp
  | .deletePropStrict _ => .deletePropStrict
  | .getElem => .getElem
  | .getElemCallee => .getElemCallee
  | .setElem => .setElem
  | .setElemStrict => .setElemStrict
  | .deleteElem => .deleteElem
  | .deleteElemStrict => .deleteElemStrict
  | .setProto => .setProto
  | .bindName _ => .bindName
  | .resolveVar _ _ _ _ => .resolveVar
  | .resolveVar1 _ => .resolveVar1
  | .resolveVar1Strict _ => .resolveVar1Strict
  | .getVar _ _ _ _ => .getVar
  | .getVar1 _ => .getVar1
  | .getVar1Callee _ => .getVar1Callee
  | .setVar _ _ => .setVar
  | .setVarStrict _ _ => .setVarStrict
  | .setVar1Strict _ => .setVar1Strict
  | .getValue => .getValue
  | .putValue => .putValue
  | .setGlobal _ => .setGlobal
  | .setGlobalStrict _ => .setGlobalStrict
  | .deleteVar _ => .deleteVar
  | .deleteGlobal _ => .deleteGlobal
  | .newStash => .newStash
  | .enterWith => .enterWith
  | .leaveWith => .leaveWith
  | .enterCatch _ => .enterCatch
  | .jump _ => .jump
  | .jeq _ => .jeq
  | .jeq1 _ => .jeq1
  | .jne _ => .jne
  | .jneq1 _ => .jneq1
  | .call _ => .call
  | .callEval _ => .callEval
  | .callEvalStrict _ => .callEvalStrict
  | .new _ => .new
  | .enterFunc _ => .enterFunc
  | .enterFuncStashless _ _ => .enterFuncStashless
  | .ret => .ret
  | .retStashless => .retStashless
  | .retFinally => .retFinally
  | .createArgs _ => .createArgs
  | .createArgsStrict _ => .createArgsStrict
  | .newFunc _ _ _ _ => .newFunc
  | .tryBlock _ _ _ => .tryBlock
  | .throw => .throw
  | .enumerate => .enumerate
  | .enumNext _ => .enumNext
  | .enumGet => .enumGet
  | .enumPop => .enumPop
  | .newObject => .newObject
  | .newArray _ => .newArray
  | .newRegexp _ _ => .newRegexp

def operands : Operation → Operands
  | .loadVal idx | .loadVal1 idx => .constant idx
  | .dupN n | .rdupN n => .count n
  | .call argc | .callEval argc | .callEvalStrict argc | .new argc => .count argc
  | .enterFunc stashSize => .count stashSize
  | .createArgs formals | .createArgsStrict formals => .count formals
  | .newArray len => .count len
  | .loadStack slot | .storeStack slot | .storeStackP slot => .stack slot
  | .getLocal idx | .setLocal idx | .setLocalP idx => .localSlot idx
  | .jump offset | .jeq offset | .jeq1 offset | .jne offset | .jneq1 offset | .enumNext offset =>
      .jump offset
  | .getProp name | .getPropCallee name | .setProp name | .setProp1 name | .setPropStrict name
  | .setPropGetter name | .setPropSetter name | .deleteProp name | .deletePropStrict name
  | .bindName name | .resolveVar1 name | .resolveVar1Strict name | .getVar1 name
  | .getVar1Callee name | .setVar1Strict name | .setGlobal name | .setGlobalStrict name
  | .deleteVar name | .deleteGlobal name | .enterCatch name => .named name
  | .setVar name slot | .setVarStrict name slot => .varRef name slot
  | .getVar name slot isRef isCallee => .getVar name slot isRef isCallee
  | .resolveVar name slot kind strict => .resolveVar name slot kind strict
  | .enterFuncStashless stackSize args => .frame stackSize args
  | .newFunc function name length strict => .function function name length strict
  | .newRegexp pattern flags => .regexp pattern flags
  | .tryBlock catchOffset finallyOffset dynamic => .tryBlock catchOffset finallyOffset dynamic
  | _ => .none

def bare? : Opcode → Option Operation
  | .loadUndef => some .loadUndef
  | .loadNil => some .loadNil
  | .loadGlobalObject => some .loadGlobalObject
  | .loadCallee => some .loadCallee
  | .boxThis => some .boxThis
  | .pop => some .pop
  | .dup => some .dup
  | .swap => some .swap
  | .noop => some .noop
  | .halt => some .halt
  | .add => some .add
  | .sub => some .sub
  | .mul => some .mul
  | .div => some .div
  | .mod => some .mod
  | .neg => some .neg
  | .plus => some .plus
  | .inc => some .inc
  | .dec => some .dec
  | .toNumber => some .toNumber
  | .and => some .and
  | .or => some .or
  | .xor => some .xor
  | .bitNot => some .bitNot
  | .sal => some .sal
  | .sar => some .sar
  | .shr => some .shr
  | .not => some .not
  | .eq => some .eq
  | .neq => some .neq
  | .strictEq => some .strictEq
  | .strictNeq => some .strictNeq
  | .lt => some .lt
  | .lte => some .lte
  | .gt => some .gt
  | .gte => some .gte
  | .member => some .member
  | .instanceOf => some .instanceOf
  | .typeOf => some .typeOf
  | .getElem => some .getElem
  | .getElemCallee => some .getElemCallee
  | .setElem => some .setElem
  | .setElemStrict => some .setElemStrict
  | .deleteElem => some .deleteElem
  | .deleteElemStrict => some .deleteElemStrict
  | .setProto => some .setProto
  | .getValue => some .getValue
  | .putValue => some .putValue
  | .newStash => some .newStash
  | .enterWith => some .enterWith
  | .leaveWith => some .leaveWith
  | .ret => some .ret
  | .retStashless => some .retStashless
  | .retFinally => some .retFinally
  | .throw => some .throw
  | .enumerate => some .enumerate
  | .enumGet => some .enumGet
  | .enumPop => some .enumPop
  | .newObject => some .newObject
  | _ => none

def named? (name : String) : Opcode → Option Operation
  | .getProp => some (.getProp name)
  | .getPropCallee => some (.getPropCallee name)
  | .setProp => some (.setProp name)
  | .setProp1 => some (.setProp1 name)
  | .setPropStrict => some (.setPropStrict name)
  | .setPropGetter => some (.setPropGetter name)
  | .setPropSetter => some (.setPropSetter name)
  | .deleteProp => some (.deleteProp name)
  | .deletePropStrict => some (.deletePropStrict name)
  | .bindName => some (.bindName name)
  | .resolveVar1 => some (.resolveVar1 name)
  | .resolveVar1Strict => some (.resolveVar1Strict name)
  | .getVar1 => some (.getVar1 name)
  | .getVar1Callee => some (.getVar1Callee name)
  | .setVar1Strict => some (.setVar1Strict name)
  | .setGlobal => some (.setGlobal name)
  | .setGlobalStrict => some (.setGlobalStrict name)
  | .deleteVar => some (.deleteVar name)
  | .deleteGlobal => some (.deleteGlobal name)
  | .enterCatch => some (.enterCatch name)
  | _ => none

def ofParts? : Opcode → Operands → Option Operation
  | opcode, .none => bare? opcode
  | .loadVal, .constant idx => some (.loadVal idx)
  | .loadVal1, .constant idx => some (.loadVal1 idx)
  | .dupN, .count n => some (.dupN n)
  | .rdupN, .count n => some (.rdupN n)
  | .call, .count argc => some (.call argc)
  | .callEval, .count argc => some (.callEval argc)
  | .callEvalStrict, .count argc => some (.callEvalStrict argc)
  | .new, .count argc => some (.new argc)
  | .enterFunc, .count stashSize => some (.enterFunc stashSize)
  | .createArgs, .count formals => some (.createArgs formals)
  | .createArgsStrict, .count formals => some (.createArgsStrict formals)
  | .newArray, .count len => some (.newArray len)
  | .loadStack, .stack slot => some (.loadStack slot)
  | .storeStack, .stack slot => some (.storeStack slot)
  | .storeStackP, .stack slot => some (.storeStackP slot)
  | .getLocal, .localSlot idx => some (.getLocal idx)
  | .setLocal, .localSlot idx => some (.setLocal idx)
  | .setLocalP, .localSlot idx => some (.setLocalP idx)
  | .jump, .jump offset => some (.jump offset)
  | .jeq, .jump offset => some (.jeq offset)
  | .jeq1, .jump offset => some (.jeq1 offset)
  | .jne, .jump offset => some (.jne offset)
  | .jneq1, .jump offset => some (.jneq1 offset)
  | .enumNext, .jump offset => some (.enumNext offset)
  | opcode, .named name => named? name opcode
  | .setVar, .varRef name slot => some (.setVar name slot)
  | .setVarStrict, .varRef name slot => some (.setVarStrict name slot)
  | .getVar, .getVar name slot isRef isCallee => some (.getVar name slot isRef isCallee)
  | .resolveVar, .resolveVar name slot kind strict => some (.resolveVar name slot kind strict)
  | .enterFuncStashless, .frame stackSize args => some (.enterFuncStashless stackSize args)
  | .newFunc, .function function name length strict => some (.newFunc function name length strict)
  | .newRegexp, .regexp pattern flags => some (.newRegexp pattern flags)
  | .tryBlock, .tryBlock catchOffset finallyOffset dynamic =>
      some (.tryBlock catchOffset finallyOffset dynamic)
  | _, _ => none

theorem shape_operands (i : Operation) : i.operands.shape = i.opcode.shape := by
  cases i <;> rfl

def instruction (i : Operation) : Instruction :=
  ⟨i.opcode, i.operands, i.shape_operands⟩

end Operation

end ScriptCache
