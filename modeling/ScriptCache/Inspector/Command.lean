import ScriptCache.Inspector.Schema.Read
import ScriptCache.Inspector.Session

namespace ScriptCache

inductive Command where
  | enable
  | disable
  | setBreakpoint (location : Location) (condition : Option String)
  | setBreakpointByUrl (lineNumber : UInt32) (url urlRegex : Option String)
      (columnNumber : Option UInt32) (condition : Option String)
  | removeBreakpoint (id : BreakpointId)
  | getPossibleBreakpoints (start : Location) (stop : Option Location)
  | getScriptSource (script : ScriptId)
  | pause
  | resume
  | step (kind : StepKind)
  | evaluateOnCallFrame (frame : CallFrameId) (expression : String)
  | setPauseOnExceptions (state : ExceptionPause)
  | getProperties (object : ObjectId) (own accessorsOnly : Bool)
  | drainEvents

inductive Reply where
  | done
  | enabled (debuggerId : String)
  | breakpointSet (id : BreakpointId) (actual : Location)
  | breakpointsSet (id : BreakpointId) (locations : List Location)
  | possibleBreakpoints (locations : List BreakLocation)
  | scriptSource (text : String)
  | evaluated (result : RemoteObject) (exception : Option ExceptionDetails)
  | properties (properties : List Property)
  | events (events : List Event)

def Reply.toJson : Reply → Json
  | .done => .object []
  | .enabled debuggerId => .object [("debuggerId", .string debuggerId)]
  | .breakpointSet id actual =>
      .object [("breakpointId", .string id), ("actualLocation", actual.toJson)]
  | .breakpointsSet id locations =>
      .object [("breakpointId", .string id), ("locations", .array (locations.map Location.toJson))]
  | .possibleBreakpoints locations =>
      .object [("locations", .array (locations.map BreakLocation.toJson))]
  | .scriptSource text => .object [("scriptSource", .string text)]
  | .evaluated result exception =>
      .object <|
        ("result", result.toJson) ::
          Json.optionalField "exceptionDetails" ExceptionDetails.toJson exception
  | .properties list => .object [("result", .array (list.map Property.toJson))]
  | .events list => .object [("events", .array (list.map Event.toJson))]

namespace Command

open Record (required withDefault optional)

def setBreakpointDecoder : Decoder Command :=
  Record.decoder "struct SetBreakpointParams" <|
    .setBreakpoint <$> required "location" Location.decoder <*>
      optional "condition" Decoder.string

def setBreakpointByUrlDecoder : Decoder Command :=
  Record.decoder "struct SetBreakpointByUrlParams" <|
    .setBreakpointByUrl <$> required "lineNumber" Decoder.word <*>
      optional "url" Decoder.string <*> optional "urlRegex" Decoder.string <*>
      optional "columnNumber" Decoder.word <*> optional "condition" Decoder.string

def removeBreakpointDecoder : Decoder Command :=
  Record.decoder "struct RemoveBreakpointParams" <|
    .removeBreakpoint <$> required "breakpointId" Decoder.string

def getPossibleBreakpointsDecoder : Decoder Command :=
  Record.decoder "struct GetPossibleBreakpointsParams" <|
    (fun start stop _ => .getPossibleBreakpoints start stop) <$>
      required "start" Location.decoder <*> optional "end" Location.decoder <*>
      withDefault false "restrictToFunction" Decoder.bool

def getScriptSourceDecoder : Decoder Command :=
  Record.decoder "struct GetScriptSourceParams" <|
    .getScriptSource <$> required "scriptId" Decoder.string

def evaluateOnCallFrameDecoder : Decoder Command :=
  Record.decoder "struct EvaluateOnCallFrameParams" <|
    (fun frame expression _ _ _ => .evaluateOnCallFrame frame expression) <$>
      required "callFrameId" Decoder.string <*> required "expression" Decoder.string <*>
      optional "objectGroup" Decoder.string <*> withDefault false "silent" Decoder.bool <*>
      withDefault false "returnByValue" Decoder.bool

def setPauseOnExceptionsDecoder : Decoder Command :=
  Record.decoder "struct SetPauseOnExceptionsParams" <|
    .setPauseOnExceptions <$> required "state" ExceptionPause.decoder

def getPropertiesDecoder : Decoder Command :=
  Record.decoder "struct GetPropertiesParams" <|
    .getProperties <$> required "objectId" Decoder.string <*>
      withDefault false "ownProperties" Decoder.bool <*>
      withDefault false "accessorPropertiesOnly" Decoder.bool

/-- Parameters that are not given count as an empty record. -/
def ofParams (read : Decoder Command) (params : Json) : Except ProtocolError Command :=
  let params := match params with
    | .null => .object []
    | params => params
  (read.run params).mapError fun e => .invalidParams e.message

def ofMethod (method : String) (params : Json) : Except ProtocolError Command :=
  match method with
  | "Debugger.enable" => .ok .enable
  | "Debugger.disable" => .ok .disable
  | "Debugger.setBreakpoint" => ofParams setBreakpointDecoder params
  | "Debugger.setBreakpointByUrl" => ofParams setBreakpointByUrlDecoder params
  | "Debugger.removeBreakpoint" => ofParams removeBreakpointDecoder params
  | "Debugger.getPossibleBreakpoints" => ofParams getPossibleBreakpointsDecoder params
  | "Debugger.getScriptSource" => ofParams getScriptSourceDecoder params
  | "Debugger.pause" => .ok .pause
  | "Debugger.resume" => .ok .resume
  | "Debugger.stepInto" => .ok (.step .into)
  | "Debugger.stepOver" => .ok (.step .over)
  | "Debugger.stepOut" => .ok (.step .out)
  | "Debugger.evaluateOnCallFrame" => ofParams evaluateOnCallFrameDecoder params
  | "Debugger.setPauseOnExceptions" => ofParams setPauseOnExceptionsDecoder params
  | "Runtime.getProperties" => ofParams getPropertiesDecoder params
  | "Inspector.drainEvents" => .ok .drainEvents
  | method => .error (.methodNotFound method)

def needsEnabled (method : String) : Bool :=
  method.startsWith "Debugger." && method != "Debugger.enable"

end Command

end ScriptCache
