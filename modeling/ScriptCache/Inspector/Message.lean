import ScriptCache.Inspector.Event

namespace ScriptCache

structure ProtocolError where
  code : Int32
  message : String
  deriving DecidableEq, Repr

namespace ProtocolError

def text (e : ProtocolError) : String :=
  e.message ++ " (" ++ toString e.code.toInt ++ ")"

def parseError (message : String) : ProtocolError :=
  ⟨-32700, message⟩

def invalidRequest (message : String) : ProtocolError :=
  ⟨-32600, message⟩

def methodNotFound (method : String) : ProtocolError :=
  ⟨-32601, "'" ++ method ++ "' wasn't found"⟩

def invalidParams (message : String) : ProtocolError :=
  ⟨-32602, message⟩

def serverError (message : String) : ProtocolError :=
  ⟨-32000, message⟩

end ProtocolError

structure Request where
  id : UInt64
  method : String
  params : Json

inductive Outcome where
  | result (value : Json)
  | error (e : ProtocolError)

structure Response where
  id : Option UInt64
  outcome : Outcome

def Response.isError (r : Response) : Bool :=
  match r.outcome with
  | .result _ => false
  | .error _ => true

end ScriptCache
