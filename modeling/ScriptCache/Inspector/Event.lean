import ScriptCache.Inspector.RemoteObject

namespace ScriptCache

abbrev BreakpointId := String

abbrev CallFrameId := String

structure Location where
  scriptId : ScriptId
  lineNumber : UInt32
  columnNumber : UInt32
  deriving DecidableEq, Repr

structure ScriptPosition where
  lineNumber : UInt32
  columnNumber : UInt32
  deriving DecidableEq, Repr

inductive ScopeKind where
  | global
  | local_
  | with_
  | closure
  | catch_
  | block
  | script
  | eval
  | module_
  deriving DecidableEq, Repr

structure Scope where
  kind : ScopeKind
  object : RemoteObject
  name : Option String
  startLocation : Option Location
  endLocation : Option Location

structure CallFrame where
  callFrameId : CallFrameId
  functionName : String
  functionLocation : Option Location
  location : Location
  url : String
  scopeChain : List Scope
  this : RemoteObject
  returnValue : Option RemoteObject

inductive BreakKind where
  | debuggerStatement
  | call
  | return_
  deriving DecidableEq, Repr

structure BreakLocation where
  scriptId : ScriptId
  lineNumber : UInt32
  columnNumber : UInt32
  kind : Option BreakKind
  deriving DecidableEq, Repr

inductive ExceptionPause where
  | none
  | uncaught
  | all
  deriving DecidableEq, Repr

inductive PausedReason where
  | exception
  | assert
  | debugCommand
  | promiseRejection
  | other
  | ambiguous
  deriving DecidableEq, Repr

structure Paused where
  callFrames : List CallFrame
  reason : PausedReason
  data : Option Json
  hitBreakpoints : List BreakpointId

structure ScriptParsed where
  scriptId : ScriptId
  url : String
  startLine : UInt32
  startColumn : UInt32
  endLine : UInt32
  endColumn : UInt32
  executionContextId : UInt32
  hash : String
  length : UInt32
  deriving DecidableEq, Repr

structure BreakpointResolved where
  breakpointId : BreakpointId
  location : Location
  deriving DecidableEq, Repr

inductive Event where
  | paused (e : Paused)
  | resumed
  | scriptParsed (e : ScriptParsed)
  | breakpointResolved (e : BreakpointResolved)

def Event.method : Event → String
  | .paused _ => "Debugger.paused"
  | .resumed => "Debugger.resumed"
  | .scriptParsed _ => "Debugger.scriptParsed"
  | .breakpointResolved _ => "Debugger.breakpointResolved"

end ScriptCache
