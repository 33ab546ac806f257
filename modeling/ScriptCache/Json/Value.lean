import ScriptCache.Numeric.Double

namespace ScriptCache

inductive JsonNumber where
  | whole (n : Int)
  | float (x : Double)
  deriving DecidableEq, Repr

inductive Json where
  | null
  | bool (b : Bool)
  | number (n : JsonNumber)
  | string (s : String)
  | array (items : List Json)
  | object (fields : List (String × Json))

namespace Json

def whole (n : Int) : Json :=
  .number (.whole n)

def word (n : UInt32) : Json :=
  whole n.toNat

def float (x : Double) : Json :=
  .number (.float x)

def lookup? (name : String) (fields : List (String × Json)) : Option Json :=
  (fields.find? fun field => field.1 == name).map Prod.snd

def field? (name : String) : Json → Option Json
  | .object fields => lookup? name fields
  | _ => none

/-- Puts a field among fields in ascending order of their names; the last of one name stays. -/
def insertField (name : String) (value : Json) : List (String × Json) → List (String × Json)
  | [] => [(name, value)]
  | (other, v) :: rest =>
      if name < other then (name, value) :: (other, v) :: rest
      else if name = other then (name, value) :: rest
      else (other, v) :: insertField name value rest

def ofFields (fields : List (String × Json)) : Json :=
  .object (fields.foldl (fun sorted field => insertField field.1 field.2 sorted) [])

mutual

def canonical : Json → Json
  | .null => .null
  | .bool b => .bool b
  | .number n => .number n
  | .string s => .string s
  | .array items => .array (canonicalItems items)
  | .object fields => ofFields (canonicalFields fields)

def canonicalItems : List Json → List Json
  | [] => []
  | v :: rest => canonical v :: canonicalItems rest

def canonicalFields : List (String × Json) → List (String × Json)
  | [] => []
  | (name, v) :: rest => (name, canonical v) :: canonicalFields rest

end

end Json

end ScriptCache
