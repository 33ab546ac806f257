import ScriptCache.Inspector.Message

namespace ScriptCache

def Json.optionalField {α : Type} (name : String) (write : α → Json) :
    Option α → List (String × Json)
  | none => []
  | some a => [(name, write a)]

def ObjectKind.name : ObjectKind → String
  | .object => "object"
  | .function => "function"
  | .undefined => "undefined"
  | .string => "string"
  | .number => "number"
  | .boolean => "boolean"
  | .symbol => "symbol"

def ObjectSubtype.name : ObjectSubtype → String
  | .array => "array"
  | .null => "null"
  | .regexp => "regexp"
  | .date => "date"
  | .map => "map"
  | .set => "set"
  | .weakmap => "weakmap"
  | .weakset => "weakset"
  | .iterator => "iterator"
  | .generator => "generator"
  | .error => "error"
  | .proxy => "proxy"
  | .promise => "promise"
  | .typedarray => "typedarray"

def ScopeKind.name : ScopeKind → String
  | .global => "global"
  | .local_ => "local"
  | .with_ => "with"
  | .closure => "closure"
  | .catch_ => "catch"
  | .block => "block"
  | .script => "script"
  | .eval => "eval"
  | .module_ => "module"

def BreakKind.name : BreakKind → String
  | .debuggerStatement => "debuggerStatement"
  | .call => "call"
  | .return_ => "return"

def ExceptionPause.name : ExceptionPause → String
  | .none => "none"
  | .uncaught => "uncaught"
  | .all => "all"

def PausedReason.name : PausedReason → String
  | .exception => "exception"
  | .assert => "assert"
  | .debugCommand => "debugCommand"
  | .promiseRejection => "promiseRejection"
  | .other => "other"
  | .ambiguous => "ambiguous"

open Json (optionalField)

def Unserializable.toJson (u : Unserializable) : Json :=
  .string u.name

def RemoteObject.toJson (o : RemoteObject) : Json :=
  .object <|
    [("type", .string o.kind.name)] ++
      optionalField "subtype" (fun s : ObjectSubtype => .string s.name) o.subtype ++
      optionalField "className" .string o.className ++
      optionalField "value" id o.value ++
      optionalField "unserializableValue" Unserializable.toJson o.unserializable ++
      optionalField "description" .string o.description ++
      optionalField "objectId" .string o.objectId

def Property.toJson (p : Property) : Json :=
  .object <|
    [("name", .string p.name)] ++
      optionalField "value" RemoteObject.toJson p.value ++
      [("writable", .bool p.writable)] ++
      optionalField "get" RemoteObject.toJson p.getter ++
      optionalField "set" RemoteObject.toJson p.setter ++
      [("configurable", .bool p.configurable), ("enumerable", .bool p.enumerable),
        ("isOwn", .bool p.isOwn)]

def CallArgument.toJson (a : CallArgument) : Json :=
  .object <|
    optionalField "value" id a.value ++
      optionalField "unserializableValue" Unserializable.toJson a.unserializable ++
      optionalField "objectId" .string a.objectId

def StackFrame.toJson (f : StackFrame) : Json :=
  .object
    [("functionName", .string f.functionName), ("scriptId", .string f.scriptId),
      ("url", .string f.url), ("lineNumber", .word f.lineNumber),
      ("columnNumber", .word f.columnNumber)]

def StackTrace.toJson (t : StackTrace) : Json :=
  .object <|
    optionalField "description" .string t.description ++
      [("callFrames", .array (t.callFrames.map StackFrame.toJson))]

def ExceptionDetails.toJson (d : ExceptionDetails) : Json :=
  .object <|
    [("exceptionId", .word d.exceptionId), ("text", .string d.text),
        ("lineNumber", .word d.lineNumber), ("columnNumber", .word d.columnNumber)] ++
      optionalField "scriptId" .string d.scriptId ++
      optionalField "url" .string d.url ++
      optionalField "stackTrace" StackTrace.toJson d.stackTrace ++
      optionalField "exception" RemoteObject.toJson d.exception

def Location.toJson (l : Location) : Json :=
  .object
    [("scriptId", .string l.scriptId), ("lineNumber", .word l.lineNumber),
      ("columnNumber", .word l.columnNumber)]

def ScriptPosition.toJson (p : ScriptPosition) : Json :=
  .object [("lineNumber", .word p.lineNumber), ("columnNumber", .word p.columnNumber)]

def Scope.toJson (s : Scope) : Json :=
  .object <|
    [("type", .string s.kind.name), ("object", s.object.toJson)] ++
      optionalField "name" .string s.name ++
      optionalField "startLocation" Location.toJson s.startLocation ++
      optionalField "endLocation" Location.toJson s.endLocation

def CallFrame.toJson (f : CallFrame) : Json :=
  .object <|
    [("callFrameId", .string f.callFrameId), ("functionName", .string f.functionName)] ++
      optionalField "functionLocation" Location.toJson f.functionLocation ++
      [("location", f.location.toJson), ("url", .string f.url),
        ("scopeChain", .array (f.scopeChain.map Scope.toJson)), ("this", f.this.toJson)] ++
      optionalField "returnValue" RemoteObject.toJson f.returnValue

def BreakLocation.toJson (l : BreakLocation) : Json :=
  .object <|
    [("scriptId", .string l.scriptId), ("lineNumber", .word l.lineNumber),
        ("columnNumber", .word l.columnNumber)] ++
      optionalField "type" (fun k : BreakKind => .string k.name) l.kind

def Paused.toJson (e : Paused) : Json :=
  .object <|
    [("callFrames", .array (e.callFrames.map CallFrame.toJson)),
        ("reason", .string e.reason.name)] ++
      optionalField "data" id e.data ++
      if e.hitBreakpoints.isEmpty then []
      else [("hitBreakpoints", .array (e.hitBreakpoints.map .string))]

def ScriptParsed.toJson (e : ScriptParsed) : Json :=
  .object
    [("scriptId", .string e.scriptId), ("url", .string e.url), ("startLine", .word e.startLine),
      ("startColumn", .word e.startColumn), ("endLine", .word e.endLine),
      ("endColumn", .word e.endColumn), ("executionContextId", .word e.executionContextId),
      ("hash", .string e.hash), ("length", .word e.length)]

def BreakpointResolved.toJson (e : BreakpointResolved) : Json :=
  .object [("breakpointId", .string e.breakpointId), ("location", e.location.toJson)]

def Event.params : Event → Json
  | .paused e => e.toJson
  | .resumed => .object []
  | .scriptParsed e => e.toJson
  | .breakpointResolved e => e.toJson

def Event.toJson (e : Event) : Json :=
  .object [("method", .string e.method), ("params", e.params)]

def ProtocolError.toJson (e : ProtocolError) : Json :=
  .object [("code", .whole e.code.toInt), ("message", .string e.message)]

def Request.toJson (r : Request) : Json :=
  .object [("id", .whole r.id.toNat), ("method", .string r.method), ("params", r.params)]

def Outcome.field : Outcome → String × Json
  | .result value => ("result", value)
  | .error e => ("error", e.toJson)

def Outcome.toJson (o : Outcome) : Json :=
  .object [o.field]

def Response.toJson (r : Response) : Json :=
  .object
    [("id", match r.id with
        | some n => .whole n.toNat
        | none => .null),
      r.outcome.field]

end ScriptCache
