import ScriptCache.Bytecode.Program

namespace ScriptCache

abbrev ConstantPool := List Constant

namespace ConstantPool

def push (pool : ConstantPool) (c : Constant) : ConstantPool × ConstantIndex :=
  (pool ++ [c], UInt32.ofNat pool.length)

def add (pool : ConstantPool) (c : Constant) : ConstantPool × ConstantIndex :=
  match pool.findIdx? fun slot => slot.sameScalar c with
  | some i => (pool, UInt32.ofNat i)
  | none => push pool c

def at? (pool : ConstantPool) (index : ConstantIndex) : Option Constant :=
  pool[index.toNat]?

def replace (pool : ConstantPool) (index : ConstantIndex) (c : Constant) :
    ConstantPool × Option Constant :=
  (pool.set index.toNat c, at? pool index)

theorem add_function (pool : ConstantPool) (p : Program) :
    add pool (.function p) = push pool (.function p) := by
  have none_same : (pool.findIdx? fun slot => slot.sameScalar (.function p)) = none := by
    rw [List.findIdx?_eq_none_iff]
    intro slot _
    cases slot <;> rfl
  rw [add, none_same]

end ConstantPool

end ScriptCache
