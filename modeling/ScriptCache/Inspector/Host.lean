import ScriptCache.Inspector.Event

namespace ScriptCache

structure Host (σ : Type) where
  evaluate : CallFrameId → String → StateM σ (Except ExceptionDetails RemoteObject)
  properties : ObjectId → (own : Bool) → StateM σ (Option (List Property))

inductive HostCall where
  | evaluate (frame : CallFrameId) (expression : String)
  | properties (object : ObjectId) (own : Bool)
  deriving DecidableEq, Repr

namespace Host

def detached : Host Unit where
  evaluate _ _ := return .error (.ofText "no executor attached")
  properties _ _ := return none

def logged {σ : Type} (host : Host σ) : Host (σ × List HostCall) where
  evaluate frame expression := fun (state, calls) =>
    let (answer, state) := host.evaluate frame expression state
    (answer, (state, calls ++ [.evaluate frame expression]))
  properties object own := fun (state, calls) =>
    let (answer, state) := host.properties object own state
    (answer, (state, calls ++ [.properties object own]))

end Host

end ScriptCache
