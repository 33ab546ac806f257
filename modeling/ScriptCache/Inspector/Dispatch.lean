import ScriptCache.Inspector.Command
import ScriptCache.Json.Draft.Scan

namespace ScriptCache.Session

abbrev Result := Except ProtocolError (Session × Reply)

def refuse (e : ProtocolError) : Result :=
  .error e

def done (s : Session) : Result :=
  .ok (s, .done)

def debuggerId : String :=
  "heron-debugger"

def enable (s : Session) : Session :=
  if s.enabled then s
  else
    { s with
      enabled := true
      events := s.events ++ s.scripts.map fun script => .scriptParsed script.parsed }

def disable (s : Session) : Session :=
  { s with
    enabled := false
    breakpoints := []
    pauseRequested := false
    step := none
    exceptionPause := .none
    paused := none
    events := [] }

def findScript (s : Session) (id : ScriptId) : Except ProtocolError Script :=
  match s.script? id with
  | some script => .ok script
  | none => .error (.serverError ("No script for id: " ++ id))

def requirePaused (s : Session) : Except ProtocolError PauseState :=
  match s.paused with
  | some state => .ok state
  | none => .error (.serverError "Can only perform operation while paused.")

def oneBased (line column : UInt32) : Except ProtocolError Position :=
  match Word.succ? line, Word.succ? column with
  | some line, some column => .ok ⟨line, column⟩
  | _, _ => .error (.invalidParams "Location is out of range")

def alreadyExists : ProtocolError :=
  .serverError "Breakpoint at specified location already exists."

def usedCondition (condition : Option String) : Option String :=
  condition.filter fun c => c != ""

def breakpointName (number : Nat) (line column : UInt32) (place : String) : BreakpointId :=
  toString number ++ ":" ++ toString line.toNat ++ ":" ++ toString column.toNat ++ ":" ++ place

def setBreakpoint (s : Session) (location : Location) (condition : Option String) : Result := do
  let position ← oneBased location.lineNumber location.columnNumber
  let script ← s.findScript location.scriptId
  match script.resolve? position with
  | none => refuse (.serverError "Could not resolve breakpoint")
  | some offset =>
      if s.breakpoints.any fun b => b.hits location.scriptId offset then refuse alreadyExists
      else
        let id := breakpointName s.nextBreakpointId location.lineNumber location.columnNumber
          location.scriptId
        let b : Breakpoint :=
          ⟨id, .script location.scriptId, position, usedCondition condition,
            [(location.scriptId, offset)]⟩
        return ({ s with
            nextBreakpointId := s.nextBreakpointId + 1
            breakpoints := s.breakpoints ++ [b] },
          .breakpointSet id (script.location offset))

def chosenUrl (url urlRegex : Option String) : Except ProtocolError String :=
  match url, urlRegex with
  | some url, _ => .ok url
  | none, some _ => .error (.invalidParams "urlRegex is not supported")
  | none, none => .error (.invalidParams "Either url or urlRegex must be specified.")

def setBreakpointByUrl (s : Session) (line : UInt32) (url urlRegex : Option String)
    (column : Option UInt32) (condition : Option String) : Result := do
  let url ← chosenUrl url urlRegex
  let column := column.getD 0
  let position ← oneBased line column
  let id := breakpointName 1 line column url
  if s.breakpoints.any fun b => b.id == id then refuse alreadyExists
  else
    let unbound : Breakpoint := ⟨id, .url url, position, usedCondition condition, []⟩
    let b := s.scripts.foldl Breakpoint.bindTo unbound
    let locations := s.scripts.filterMap fun script =>
      (unbound.bindingIn? script).map script.location
    return ({ s with breakpoints := s.breakpoints ++ [b] }, .breakpointsSet id locations)

def removeBreakpoint (s : Session) (id : BreakpointId) : Result :=
  if s.breakpoints.any fun b => b.id == id then
    done { s with breakpoints := s.breakpoints.eraseP fun b => b.id == id }
  else refuse (.serverError "Breakpoint with given id does not exist")

def breakLocation (script : Script) (offset : UInt32) : BreakLocation :=
  let l := script.location offset
  ⟨l.scriptId, l.lineNumber, l.columnNumber, none⟩

def offsetFor (script : Script) (location : Location) : Except ProtocolError UInt32 := do
  return script.offsetOrEnd (← oneBased location.lineNumber location.columnNumber)

def possibleBreakpoints (s : Session) (start : Location) (stop : Option Location) : Result := do
  let script ← s.findScript start.scriptId
  match stop with
  | some stop =>
      if stop.scriptId != script.id then
        refuse (.invalidParams "Locations should contain the same scriptId")
      else
        let first ← offsetFor script start
        listed script first (← offsetFor script stop)
  | none =>
      let first ← offsetFor script start
      listed script first Word.maximum
where
  listed (script : Script) (first past : UInt32) : Result :=
    let offsets := script.stops.filter fun offset => first ≤ offset && offset < past
    return (s, .possibleBreakpoints (offsets.map (breakLocation script)))

def scriptSource (s : Session) (id : ScriptId) : Result := do
  let script ← s.findScript id
  return (s, .scriptSource script.source.text)

def requestPause (s : Session) : Session :=
  if s.isPaused then s else { s with pauseRequested := true }

def resumed (s : Session) : Session :=
  { s with paused := none, events := s.events ++ [.resumed] }

def resume (s : Session) : Result := do
  let _ ← s.requirePaused
  done s.resumed

def takeStep (s : Session) (kind : StepKind) : Result := do
  let state ← s.requirePaused
  done { s with step := some ⟨kind, state.depth⟩ }.resumed

def evaluationReply : Except ExceptionDetails RemoteObject → Reply
  | .ok result => .evaluated result none
  | .error details =>
      .evaluated (details.exception.getD (.string details.text)) (some details)

def evaluate {σ : Type} (host : Host σ) (s : Session) (frame : CallFrameId)
    (expression : String) : StateM σ Result := do
  match s.requirePaused with
  | .error e => return refuse e
  | .ok state =>
      if state.callFrames.any fun f => f.callFrameId == frame then
        return .ok (s, evaluationReply (← host.evaluate frame expression))
      else return refuse (.serverError "Could not find call frame with given id")

def properties {σ : Type} (host : Host σ) (s : Session) (object : ObjectId)
    (own accessorsOnly : Bool) : StateM σ Result := do
  match ← host.properties object own with
  | none => return refuse (.serverError "Could not find object with given id")
  | some list =>
      return .ok (s, .properties (if accessorsOnly then list.filter Property.isAccessor else list))

def execute {σ : Type} (host : Host σ) (s : Session) : Command → StateM σ Result
  | .enable => return .ok (s.enable, .enabled debuggerId)
  | .disable => return done s.disable
  | .setBreakpoint location condition => return s.setBreakpoint location condition
  | .setBreakpointByUrl line url urlRegex column condition =>
      return s.setBreakpointByUrl line url urlRegex column condition
  | .removeBreakpoint id => return s.removeBreakpoint id
  | .getPossibleBreakpoints start stop => return s.possibleBreakpoints start stop
  | .getScriptSource script => return s.scriptSource script
  | .pause => return done s.requestPause
  | .resume => return s.resume
  | .step kind => return s.takeStep kind
  | .evaluateOnCallFrame frame expression => s.evaluate host frame expression
  | .setPauseOnExceptions state => return done { s with exceptionPause := state }
  | .getProperties object own accessorsOnly => s.properties host object own accessorsOnly
  | .drainEvents => return .ok (s.drain.1, .events s.drain.2)

def dispatch {σ : Type} (host : Host σ) (s : Session) (method : String) (params : Json) :
    StateM σ Result :=
  if Command.needsEnabled method && !s.enabled then
    return refuse (.serverError "Debugger agent is not enabled")
  else
    match Command.ofMethod method params with
    | .error e => return refuse e
    | .ok command => s.execute host command

/-- Answers a request. The values of a result have their fields in the order of their names. -/
def handle {σ : Type} (host : Host σ) (s : Session) (request : Request) :
    StateM σ (Session × Response) := do
  match ← s.dispatch host request.method request.params with
  | .ok (next, reply) => return (next, ⟨some request.id, .result reply.toJson.canonical⟩)
  | .error e => return (s, ⟨some request.id, .error e⟩)

def claimedId? (v : Json) : Option UInt64 :=
  match v.field? "id" with
  | some (.number (.whole n)) => if 0 ≤ n then some (UInt64.ofNat n.toNat) else none
  | _ => none

def messageText (bytes : List UInt8) : Except TextFault String :=
  match Text.ofUtf8? bytes with
  | some text => .ok text
  | none => .error .malformed

def handleMessage {σ : Type} (host : Host σ) (s : Session) (bytes : List UInt8) :
    StateM σ (Session × Response) :=
  match messageText bytes >>= Json.parse with
  | .error f => return (s, ⟨none, .error (.parseError (ReadError.fault f).message)⟩)
  | .ok v =>
      match Request.decoder.run v with
      | .ok request => s.handle host request
      | .error e => return (s, ⟨claimedId? v, .error (.invalidRequest e.message)⟩)

end ScriptCache.Session
