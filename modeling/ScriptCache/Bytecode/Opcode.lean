namespace ScriptCache

inductive OperandShape where
  | none
  | constant
  | count
  | stack
  | localSlot
  | jump
  | name
  | varRef
  | getVar
  | resolveVar
  | frame
  | function
  | regexp
  | tryBlock
  deriving DecidableEq, Repr

inductive Opcode where
  | loadVal
  | loadVal1
  | loadUndef
  | loadNil
  | loadGlobalObject
  | loadCallee
  | boxThis
  | pop
  | dup
  | dupN
  | rdupN
  | swap
  | noop
  | halt
  | loadStack
  | storeStack
  | storeStackP
  | getLocal
  | setLocal
  | setLocalP
  | add
  | sub
  | mul
  | div
  | mod
  | neg
  | plus
  | inc
  | dec
  | toNumber
  | and
  | or
  | xor
  | bitNot
  | sal
  | sar
  | shr
  | not
  | eq
  | neq
  | strictEq
  | strictNeq
  | lt
  | lte
  | gt
  | gte
  | member
  | instanceOf
  | typeOf
  | getProp
  | getPropCallee
  | setProp
  | setProp1
  | setPropStrict
  | setPropGetter
  | setPropSetter
  | deleteProp
  | deletePropStrict
  | getElem
  | getElemCallee
  | setElem
  | setElemStrict
  | deleteElem
  | deleteElemStrict
  | setProto
  | bindName
  | resolveVar
  | resolveVar1
  | resolveVar1Strict
  | getVar
  | getVar1
  | getVar1Callee
  | setVar
  | setVarStrict
  | setVar1Strict
  | getValue
  | putValue
  | setGlobal
  | setGlobalStrict
  | deleteVar
  | deleteGlobal
  | newStash
  | enterWith
  | leaveWith
  | enterCatch
  | jump
  | jeq
  | jeq1
  | jne
  | jneq1
  | call
  | callEval
  | callEvalStrict
  | new
  | enterFunc
  | enterFuncStashless
  | ret
  | retStashless
  | retFinally
  | createArgs
  | createArgsStrict
  | newFunc
  | tryBlock
  | throw
  | enumerate
  | enumNext
  | enumGet
  | enumPop
  | newObject
  | newArray
  | newRegexp
  deriving DecidableEq, Repr

namespace Opcode

def all : List Opcode :=
  [
    .loadVal, .loadVal1, .loadUndef, .loadNil, .loadGlobalObject, .loadCallee, .boxThis, .pop,
    .dup, .dupN, .rdupN, .swap, .noop, .halt, .loadStack, .storeStack, .storeStackP, .getLocal,
    .setLocal, .setLocalP, .add, .sub, .mul, .div, .mod, .neg, .plus, .inc, .dec, .toNumber,
    .and, .or, .xor, .bitNot, .sal, .sar, .shr, .not, .eq, .neq, .strictEq, .strictNeq, .lt,
    .lte, .gt, .gte, .member, .instanceOf, .typeOf, .getProp, .getPropCallee, .setProp,
    .setProp1, .setPropStrict, .setPropGetter, .setPropSetter, .deleteProp, .deletePropStrict,
    .getElem, .getElemCallee, .setElem, .setElemStrict, .deleteElem, .deleteElemStrict,
    .setProto, .bindName, .resolveVar, .resolveVar1, .resolveVar1Strict, .getVar, .getVar1,
    .getVar1Callee, .setVar, .setVarStrict, .setVar1Strict, .getValue, .putValue, .setGlobal,
    .setGlobalStrict, .deleteVar, .deleteGlobal, .newStash, .enterWith, .leaveWith, .enterCatch,
    .jump, .jeq, .jeq1, .jne, .jneq1, .call, .callEval, .callEvalStrict, .new, .enterFunc,
    .enterFuncStashless, .ret, .retStashless, .retFinally, .createArgs, .createArgsStrict,
    .newFunc, .tryBlock, .throw, .enumerate, .enumNext, .enumGet, .enumPop, .newObject,
    .newArray, .newRegexp
  ]

def byte : Opcode → UInt8
  | .loadVal => 0x00
  | .loadVal1 => 0x01
  | .loadUndef => 0x02
  | .loadNil => 0x03
  | .loadGlobalObject => 0x04
  | .loadCallee => 0x05
  | .boxThis => 0x06
  | .pop => 0x07
  | .dup => 0x08
  | .dupN => 0x09
  | .rdupN => 0x0A
  | .swap => 0x0B
  | .noop => 0x0C
  | .halt => 0x0D
  | .loadStack => 0x10
  | .storeStack => 0x11
  | .storeStackP => 0x12
  | .getLocal => 0x13
  | .setLocal => 0x14
  | .setLocalP => 0x15
  | .add => 0x20
  | .sub => 0x21
  | .mul => 0x22
  | .div => 0x23
  | .mod => 0x24
  | .neg => 0x25
  | .plus => 0x26
  | .inc => 0x27
  | .dec => 0x28
  | .toNumber => 0x29
  | .and => 0x30
  | .or => 0x31
  | .xor => 0x32
  | .bitNot => 0x33
  | .sal => 0x34
  | .sar => 0x35
  | .shr => 0x36
  | .not => 0x37
  | .eq => 0x40
  | .neq => 0x41
  | .strictEq => 0x42
  | .strictNeq => 0x43
  | .lt => 0x44
  | .lte => 0x45
  | .gt => 0x46
  | .gte => 0x47
  | .member => 0x48
  | .instanceOf => 0x49
  | .typeOf => 0x4A
  | .getProp => 0x50
  | .getPropCallee => 0x51
  | .setProp => 0x52
  | .setProp1 => 0x53
  | .setPropStrict => 0x54
  | .setPropGetter => 0x55
  | .setPropSetter => 0x56
  | .deleteProp => 0x57
  | .deletePropStrict => 0x58
  | .getElem => 0x59
  | .getElemCallee => 0x5A
  | .setElem => 0x5B
  | .setElemStrict => 0x5C
  | .deleteElem => 0x5D
  | .deleteElemStrict => 0x5E
  | .setProto => 0x5F
  | .bindName => 0x60
  | .resolveVar => 0x61
  | .resolveVar1 => 0x62
  | .resolveVar1Strict => 0x63
  | .getVar => 0x64
  | .getVar1 => 0x65
  | .getVar1Callee => 0x66
  | .setVar => 0x67
  | .setVarStrict => 0x68
  | .setVar1Strict => 0x69
  | .getValue => 0x6A
  | .putValue => 0x6B
  | .setGlobal => 0x6C
  | .setGlobalStrict => 0x6D
  | .deleteVar => 0x6E
  | .deleteGlobal => 0x6F
  | .newStash => 0x70
  | .enterWith => 0x71
  | .leaveWith => 0x72
  | .enterCatch => 0x73
  | .jump => 0x80
  | .jeq => 0x81
  | .jeq1 => 0x82
  | .jne => 0x83
  | .jneq1 => 0x84
  | .call => 0x90
  | .callEval => 0x91
  | .callEvalStrict => 0x92
  | .new => 0x93
  | .enterFunc => 0x94
  | .enterFuncStashless => 0x95
  | .ret => 0x96
  | .retStashless => 0x97
  | .retFinally => 0x98
  | .createArgs => 0x99
  | .createArgsStrict => 0x9A
  | .newFunc => 0x9B
  | .tryBlock => 0xA0
  | .throw => 0xA1
  | .enumerate => 0xB0
  | .enumNext => 0xB1
  | .enumGet => 0xB2
  | .enumPop => 0xB3
  | .newObject => 0xC0
  | .newArray => 0xC1
  | .newRegexp => 0xC2

def name : Opcode → String
  | .loadVal => "LoadVal"
  | .loadVal1 => "LoadVal1"
  | .loadUndef => "LoadUndef"
  | .loadNil => "LoadNil"
  | .loadGlobalObject => "LoadGlobalObject"
  | .loadCallee => "LoadCallee"
  | .boxThis => "BoxThis"
  | .pop => "Pop"
  | .dup => "Dup"
  | .dupN => "DupN"
  | .rdupN => "RdupN"
  | .swap => "Swap"
  | .noop => "Noop"
  | .halt => "Halt"
  | .loadStack => "LoadStack"
  | .storeStack => "StoreStack"
  | .storeStackP => "StoreStackP"
  | .getLocal => "GetLocal"
  | .setLocal => "SetLocal"
  | .setLocalP => "SetLocalP"
  | .add => "Add"
  | .sub => "Sub"
  | .mul => "Mul"
  | .div => "Div"
  | .mod => "Mod"
  | .neg => "Neg"
  | .plus => "Plus"
  | .inc => "Inc"
  | .dec => "Dec"
  | .toNumber => "ToNumber"
  | .and => "And"
  | .or => "Or"
  | .xor => "Xor"
  | .bitNot => "BitNot"
  | .sal => "Sal"
  | .sar => "Sar"
  | .shr => "Shr"
  | .not => "Not"
  | .eq => "Eq"
  | .neq => "Neq"
  | .strictEq => "StrictEq"
  | .strictNeq => "StrictNeq"
  | .lt => "Lt"
  | .lte => "Lte"
  | .gt => "Gt"
  | .gte => "Gte"
  | .member => "In"
  | .instanceOf => "InstanceOf"
  | .typeOf => "TypeOf"
  | .getProp => "GetProp"
  | .getPropCallee => "GetPropCallee"
  | .setProp => "SetProp"
  | .setProp1 => "SetProp1"
  | .setPropStrict => "SetPropStrict"
  | .setPropGetter => "SetPropGetter"
  | .setPropSetter => "SetPropSetter"
  | .deleteProp => "DeleteProp"
  | .deletePropStrict => "DeletePropStrict"
  | .getElem => "GetElem"
  | .getElemCallee => "GetElemCallee"
  | .setElem => "SetElem"
  | .setElemStrict => "SetElemStrict"
  | .deleteElem => "DeleteElem"
  | .deleteElemStrict => "DeleteElemStrict"
  | .setProto => "SetProto"
  | .bindName => "BindName"
  | .resolveVar => "ResolveVar"
  | .resolveVar1 => "ResolveVar1"
  | .resolveVar1Strict => "ResolveVar1Strict"
  | .getVar => "GetVar"
  | .getVar1 => "GetVar1"
  | .getVar1Callee => "GetVar1Callee"
  | .setVar => "SetVar"
  | .setVarStrict => "SetVarStrict"
  | .setVar1Strict => "SetVar1Strict"
  | .getValue => "GetValue"
  | .putValue => "PutValue"
  | .setGlobal => "SetGlobal"
  | .setGlobalStrict => "SetGlobalStrict"
  | .deleteVar => "DeleteVar"
  | .deleteGlobal => "DeleteGlobal"
  | .newStash => "NewStash"
  | .enterWith => "EnterWith"
  | .leaveWith => "LeaveWith"
  | .enterCatch => "EnterCatch"
  | .jump => "Jump"
  | .jeq => "Jeq"
  | .jeq1 => "Jeq1"
  | .jne => "Jne"
  | .jneq1 => "Jneq1"
  | .call => "Call"
  | .callEval => "CallEval"
  | .callEvalStrict => "CallEvalStrict"
  | .new => "New"
  | .enterFunc => "EnterFunc"
  | .enterFuncStashless => "EnterFuncStashless"
  | .ret => "Ret"
  | .retStashless => "RetStashless"
  | .retFinally => "RetFinally"
  | .createArgs => "CreateArgs"
  | .createArgsStrict => "CreateArgsStrict"
  | .newFunc => "NewFunc"
  | .tryBlock => "Try"
  | .throw => "Throw"
  | .enumerate => "Enumerate"
  | .enumNext => "EnumNext"
  | .enumGet => "EnumGet"
  | .enumPop => "EnumPop"
  | .newObject => "NewObject"
  | .newArray => "NewArray"
  | .newRegexp => "NewRegexp"

def shape : Opcode → OperandShape
  | .loadVal | .loadVal1 => .constant
  | .dupN | .rdupN | .call | .callEval | .callEvalStrict | .new | .enterFunc | .createArgs
  | .createArgsStrict | .newArray => .count
  | .loadStack | .storeStack | .storeStackP => .stack
  | .getLocal | .setLocal | .setLocalP => .localSlot
  | .getProp | .getPropCallee | .setProp | .setProp1 | .setPropStrict | .setPropGetter
  | .setPropSetter | .deleteProp | .deletePropStrict | .bindName | .resolveVar1
  | .resolveVar1Strict | .getVar1 | .getVar1Callee | .setVar1Strict | .setGlobal
  | .setGlobalStrict | .deleteVar | .deleteGlobal | .enterCatch => .name
  | .resolveVar => .resolveVar
  | .getVar => .getVar
  | .setVar | .setVarStrict => .varRef
  | .jump | .jeq | .jeq1 | .jne | .jneq1 | .enumNext => .jump
  | .enterFuncStashless => .frame
  | .newFunc => .function
  | .tryBlock => .tryBlock
  | .newRegexp => .regexp
  | _ => .none

def ofByte? (b : UInt8) : Option Opcode :=
  all.find? fun op => op.byte == b

def ofName? (s : String) : Option Opcode :=
  all.find? fun op => op.name == s

theorem mem_all (op : Opcode) : op ∈ all := by
  cases op <;> decide

theorem ofByte?_byte (op : Opcode) : ofByte? op.byte = some op := by
  cases op <;> decide

theorem byte_of_ofByte? {b : UInt8} {op : Opcode} (h : ofByte? b = some op) : op.byte = b := by
  have found := List.find?_some h
  exact beq_iff_eq.1 found

theorem ofByte?_eq_none_iff {b : UInt8} : ofByte? b = none ↔ ∀ op : Opcode, op.byte ≠ b := by
  simp [ofByte?, mem_all]

theorem byte_injective {x y : Opcode} (h : x.byte = y.byte) : x = y :=
  Option.some.inj (by rw [← ofByte?_byte x, h, ofByte?_byte])

end Opcode

end ScriptCache
