import ScriptCache.Bytecode.Instruction
import ScriptCache.Bytecode.Source
import ScriptCache.Numeric.Double

namespace ScriptCache

structure SourceMapEntry where
  pc : UInt32
  pos : UInt32
  deriving DecidableEq, Repr

mutual

inductive Constant where
  | undefined
  | null
  | bool (b : Bool)
  | int (n : Int64)
  | float (x : Double)
  | string (s : String)
  | regexp (pattern flags : String)
  | function (program : Program)

structure Program where
  functionName : String
  source : Source
  code : List Instruction
  constants : List Constant
  sourceMap : List SourceMapEntry

end

namespace Constant

def function? : Constant → Option Program
  | .function p => some p
  | _ => none

def string? : Constant → Option String
  | .string s => some s
  | _ => none

def isNumber : Constant → Bool
  | .int _ => true
  | .float _ => true
  | _ => false

def number? : Constant → Option Double
  | .int n => some (Double.ofInt n.toInt)
  | .float x => some x
  | _ => none

def sameScalar : Constant → Constant → Bool
  | .undefined, .undefined => true
  | .null, .null => true
  | .bool a, .bool b => a == b
  | .int m, .int n => m == n
  | .float x, .float y => x == y
  | .string s, .string t => s == t
  | .regexp p f, .regexp q g => p == q && f == g
  | _, _ => false

theorem sameScalar_iff {a b : Constant} :
    sameScalar a b = true ↔ a = b ∧ a.function? = none := by
  cases a <;> cases b <;> simp [sameScalar, function?]

end Constant

mutual

def Program.depth : Program → Nat
  | ⟨_, _, _, constants, _⟩ => Constant.depths constants

def Constant.depths : List Constant → Nat
  | [] => 0
  | .function p :: rest => max (p.depth + 1) (Constant.depths rest)
  | _ :: rest => Constant.depths rest

end

mutual

/-- A program and all functions nested in it, each before its own nested functions. -/
def Program.functions : Program → List Program
  | ⟨functionName, source, code, constants, sourceMap⟩ =>
      ⟨functionName, source, code, constants, sourceMap⟩ :: Constant.functionsIn constants

def Constant.functionsIn : List Constant → List Program
  | [] => []
  | .function p :: rest => p.functions ++ Constant.functionsIn rest
  | _ :: rest => Constant.functionsIn rest

end

mutual

def Program.withSource (source : Source) : Program → Program
  | ⟨functionName, _, code, constants, sourceMap⟩ =>
      ⟨functionName, source, code, Constant.withSource source constants, sourceMap⟩

def Constant.withSource (source : Source) : List Constant → List Constant
  | [] => []
  | .function p :: rest => .function (p.withSource source) :: Constant.withSource source rest
  | c :: rest => c :: Constant.withSource source rest

end

mutual

/-- Equality in which floating-point constants are compared as numbers. -/
def Program.agrees : Program → Program → Bool
  | ⟨name, source, code, constants, sourceMap⟩, q =>
      name == q.functionName && source == q.source && code == q.code &&
        Constant.agree constants q.constants && sourceMap == q.sourceMap

def Constant.agree : List Constant → List Constant → Bool
  | [], [] => true
  | .function p :: rest, .function q :: rest' => p.agrees q && Constant.agree rest rest'
  | .float x :: rest, .float y :: rest' => x.numericallyEqual y && Constant.agree rest rest'
  | c :: rest, c' :: rest' => c.sameScalar c' && Constant.agree rest rest'
  | _, _ => false

end

namespace Program

def displayName (p : Program) : String :=
  if p.functionName = "" then "<script>" else p.functionName

def nested (p : Program) : List Program :=
  p.constants.filterMap Constant.function?

def exactPosition? (p : Program) (pc : UInt32) : Option UInt32 :=
  match KeySearch.run SourceMapEntry.pc p.sourceMap pc with
  | .found i => p.sourceMap[i]?.map SourceMapEntry.pos
  | .insertion _ => none

def positionOf? (p : Program) (pc : UInt32) : Option Position :=
  match KeySearch.run SourceMapEntry.pc p.sourceMap pc with
  | .found i => p.sourceMap[i]?.map fun entry => p.source.position entry.pos
  | .insertion 0 => none
  | .insertion (i + 1) => p.sourceMap[i]?.map fun entry => p.source.position entry.pos

end Program

end ScriptCache
