import ScriptCache.Inspector.Host
import ScriptCache.Inspector.Schema.Write
import ScriptCache.Inspector.Script

namespace ScriptCache

inductive BreakpointTarget where
  | script (id : ScriptId)
  | url (url : String)
  deriving DecidableEq, Repr

structure Breakpoint where
  id : BreakpointId
  target : BreakpointTarget
  position : Position
  condition : Option String
  resolved : List (ScriptId × UInt32)
  deriving DecidableEq, Repr

namespace Breakpoint

def appliesTo (b : Breakpoint) (s : Script) : Bool :=
  match b.target with
  | .script id => id == s.id
  | .url url => url == s.source.name

def hits (b : Breakpoint) (script : ScriptId) (offset : UInt32) : Bool :=
  b.resolved.contains (script, offset)

theorem hits_iff {b : Breakpoint} {script : ScriptId} {offset : UInt32} :
    b.hits script offset = true ↔ (script, offset) ∈ b.resolved := by
  simp [hits]

def bindingIn? (b : Breakpoint) (s : Script) : Option UInt32 :=
  if b.appliesTo s then s.resolve? b.position else none

def bindTo (b : Breakpoint) (s : Script) : Breakpoint :=
  match b.bindingIn? s with
  | some offset => { b with resolved := b.resolved ++ [(s.id, offset)] }
  | none => b

def resolvedEvent? (b : Breakpoint) (s : Script) : Option Event :=
  (b.bindingIn? s).map fun offset => .breakpointResolved ⟨b.id, s.location offset⟩

end Breakpoint

inductive StepKind where
  | into
  | over
  | out
  deriving DecidableEq, Repr

structure Step where
  kind : StepKind
  depth : Nat
  deriving DecidableEq, Repr

def Step.reached (s : Step) (depth : Nat) : Bool :=
  match s.kind with
  | .into => true
  | .over => depth ≤ s.depth
  | .out => depth < s.depth

structure PauseState where
  callFrames : List CallFrame
  depth : Nat

structure ExecutionPoint where
  scriptId : ScriptId
  program : Program
  pc : UInt32
  depth : Nat

structure Session where
  enabled : Bool
  scripts : List Script
  nextScriptId : Nat
  breakpoints : List Breakpoint
  nextBreakpointId : Nat
  exceptionPause : ExceptionPause
  pauseRequested : Bool
  step : Option Step
  paused : Option PauseState
  events : List Event

namespace Session

def initial : Session where
  enabled := false
  scripts := []
  nextScriptId := 1
  breakpoints := []
  nextBreakpointId := 1
  exceptionPause := .none
  pauseRequested := false
  step := none
  paused := none
  events := []

/-- The numbers given next fit into words. Nothing is said of a session that has run out of them. -/
structure Counting (s : Session) : Prop where
  nextScriptId : s.nextScriptId < UInt32.size
  nextBreakpointId : s.nextBreakpointId < UInt32.size

def isPaused (s : Session) : Bool :=
  s.paused.isSome

def script? (s : Session) (id : ScriptId) : Option Script :=
  s.scripts.find? fun script => script.id == id

def registrationEvents (s : Session) (script : Script) : List Event :=
  if s.enabled then
    .scriptParsed script.parsed ::
      s.breakpoints.filterMap fun b => b.resolvedEvent? script
  else []

def register (s : Session) (p : Program) : Session × ScriptId :=
  let id := toString s.nextScriptId
  let script := Script.ofProgram id p
  ({ s with
      scripts := s.scripts ++ [script]
      nextScriptId := s.nextScriptId + 1
      breakpoints := s.breakpoints.map fun b => b.bindTo script
      events := s.events ++ s.registrationEvents script },
    id)

def locationOf? (s : Session) (point : ExecutionPoint) : Option Location := do
  let script ← s.script? point.scriptId
  let offset ← point.program.exactPosition? point.pc
  return script.location offset

def pause (s : Session) (reason : PausedReason) (data : Option Json)
    (hitBreakpoints : List BreakpointId) (callFrames : List CallFrame) (depth : Nat) : Session :=
  { s with
    pauseRequested := false
    step := none
    paused := some ⟨callFrames, depth⟩
    events := s.events ++ [.paused ⟨callFrames, reason, data, hitBreakpoints⟩] }

def breakpointsAt (s : Session) (script : ScriptId) (offset : UInt32) : List Breakpoint :=
  s.breakpoints.filter fun b => b.hits script offset

def stepReached (s : Session) (depth : Nat) : Bool :=
  match s.step with
  | some step => step.reached depth
  | none => false

def candidates? (s : Session) (point : ExecutionPoint) : Option (List Breakpoint) :=
  if s.enabled && !s.isPaused then
    match point.program.exactPosition? point.pc with
    | some offset =>
        let hit := s.breakpointsAt point.scriptId offset
        if hit.isEmpty && !s.stepReached point.depth && !s.pauseRequested then none
        else some hit
    | none => none
  else none

def wantsFrames (s : Session) (point : ExecutionPoint) : Bool :=
  (s.candidates? point).isSome

def isTaken {σ : Type} (host : Host σ) (top : Option CallFrame) (b : Breakpoint) :
    StateM σ Bool :=
  match b.condition, top with
  | none, _ => return true
  | some condition, some frame => do
      match ← host.evaluate frame.callFrameId condition with
      | .ok value => return value.isTruthy
      | .error _ => return false
  | some _, none => return false

def taken {σ : Type} (host : Host σ) (top : Option CallFrame) :
    List Breakpoint → StateM σ (List BreakpointId)
  | [] => return []
  | b :: rest => do
      let first ← isTaken host top b
      let others ← taken host top rest
      return if first then b.id :: others else others

/-- The executor is about to run an instruction. Gives whether it has to wait. -/
def onInstruction {σ : Type} (host : Host σ) (s : Session) (point : ExecutionPoint)
    (frames : List CallFrame) : StateM σ (Session × Bool) := do
  match s.candidates? point with
  | none => return (s, false)
  | some hit =>
      let hitBreakpoints ← taken host frames.head? hit
      if hitBreakpoints.isEmpty && !s.stepReached point.depth && !s.pauseRequested then
        return (s, false)
      else return (s.pause .other none hitBreakpoints frames point.depth, true)

def pausesOnException (s : Session) (uncaught : Bool) : Bool :=
  s.enabled && !s.isPaused &&
    match s.exceptionPause with
    | .none => false
    | .uncaught => uncaught
    | .all => true

def onException (s : Session) (point : ExecutionPoint) (uncaught : Bool)
    (exception : RemoteObject) (frames : List CallFrame) : Session × Bool :=
  if s.pausesOnException uncaught then
    (s.pause .exception (some exception.toJson.canonical) [] frames point.depth, true)
  else (s, false)

def drain (s : Session) : Session × List Event :=
  ({ s with events := [] }, s.events)

end Session

end ScriptCache
