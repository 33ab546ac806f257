import ScriptCache.Json.Value
import ScriptCache.Numeric.FloatText

namespace ScriptCache

abbrev ScriptId := String

abbrev ObjectId := String

inductive Unserializable where
  | infinity
  | notANumber
  | negativeInfinity
  | negativeZero
  deriving DecidableEq, Repr

def Unserializable.of (x : Double) : Option Unserializable :=
  if x.isNaN then some .notANumber
  else if x.isInfinite then some (if x.negative then .negativeInfinity else .infinity)
  else if x.isZero ∧ x.negative then some .negativeZero
  else none

def Unserializable.name : Unserializable → String
  | .infinity => "Infinity"
  | .notANumber => "NaN"
  | .negativeInfinity => "-Infinity"
  | .negativeZero => "-0"

inductive ObjectKind where
  | object
  | function
  | undefined
  | string
  | number
  | boolean
  | symbol
  deriving DecidableEq, Repr

inductive ObjectSubtype where
  | array
  | null
  | regexp
  | date
  | map
  | set
  | weakmap
  | weakset
  | iterator
  | generator
  | error
  | proxy
  | promise
  | typedarray
  deriving DecidableEq, Repr

structure RemoteObject where
  kind : ObjectKind
  subtype : Option ObjectSubtype
  className : Option String
  value : Option Json
  unserializable : Option Unserializable
  description : Option String
  objectId : Option ObjectId

namespace RemoteObject

def primitive (kind : ObjectKind) : RemoteObject :=
  ⟨kind, none, none, none, none, none, none⟩

def undefined : RemoteObject :=
  primitive .undefined

def null : RemoteObject :=
  { primitive .object with subtype := some .null, value := some .null }

def boolean (b : Bool) : RemoteObject :=
  { primitive .boolean with value := some (.bool b) }

def string (s : String) : RemoteObject :=
  { primitive .string with value := some (.string s) }

def object (id : ObjectId) (className : String) (subtype : Option ObjectSubtype) : RemoteObject :=
  { primitive .object with
    subtype
    className := some className
    description := some className
    objectId := some id }

def plainText : FloatText where
  tie := .up
  wholeMark := ""
  positional := none
  plus := ""
  notANumber := "NaN"
  infinite := "inf"

def int64Bound (n : Int) : Int :=
  max Int64.minValue.toInt (min n Int64.maxValue.toInt)

/-- Whole numbers below `1e21` are described as 64-bit integers, of which the outermost stand for
all beyond them. -/
def describeNumber (x : Double) : String :=
  match Unserializable.of x with
  | some special => special.name
  | none =>
      match x.integer? with
      | some n =>
          if n.natAbs < Nat.pow 10 21 then toString (int64Bound n) else plainText.render x
      | none => plainText.render x

def number (x : Double) : RemoteObject :=
  let described := { primitive .number with description := some (describeNumber x) }
  match Unserializable.of x with
  | some special => { described with unserializable := some special }
  | none => { described with value := some (.float x) }

def isTruthy (o : RemoteObject) : Bool :=
  match o.kind with
  | .undefined => false
  | .object =>
      match o.value with
      | some .null => o.objectId.isSome
      | _ => true
  | .boolean =>
      match o.value with
      | some (.bool b) => b
      | _ => false
  | .number =>
      match o.value with
      | some (.number (.whole n)) => n != 0
      | some (.number (.float x)) => !x.isZero
      | _ => o.unserializable == some .infinity || o.unserializable == some .negativeInfinity
  | .string =>
      match o.value with
      | some (.string s) => s != ""
      | _ => false
  | .function => true
  | .symbol => true

end RemoteObject

structure Property where
  name : String
  value : Option RemoteObject
  writable : Bool
  getter : Option RemoteObject
  setter : Option RemoteObject
  configurable : Bool
  enumerable : Bool
  isOwn : Bool

def Property.data (name : String) (value : RemoteObject) : Property :=
  ⟨name, some value, true, none, none, true, true, true⟩

def Property.isAccessor (p : Property) : Bool :=
  p.getter.isSome || p.setter.isSome

structure CallArgument where
  value : Option Json
  unserializable : Option Unserializable
  objectId : Option ObjectId

structure StackFrame where
  functionName : String
  scriptId : ScriptId
  url : String
  lineNumber : UInt32
  columnNumber : UInt32
  deriving DecidableEq, Repr

structure StackTrace where
  description : Option String
  callFrames : List StackFrame
  deriving DecidableEq, Repr

structure ExceptionDetails where
  exceptionId : UInt32
  text : String
  lineNumber : UInt32
  columnNumber : UInt32
  scriptId : Option ScriptId
  url : Option String
  stackTrace : Option StackTrace
  exception : Option RemoteObject

def ExceptionDetails.ofText (text : String) : ExceptionDetails :=
  ⟨0, text, 0, 0, none, none, none, none⟩

end ScriptCache
