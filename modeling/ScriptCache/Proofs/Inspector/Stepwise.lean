import ScriptCache.Proofs.Inspector.Acceptance
/-!
Requests carried out write by write, where what a request has written before it is refused stays
written. Each one checks all that it can be refused for before its first write, so a request that
is refused changes nothing.
-/

namespace ScriptCache

abbrev Stepwise (σ : Type) := ExceptT ProtocolError (StateT Session (StateM σ))

namespace Stepwise

variable {σ α : Type}

def check (x : Session → Except ProtocolError α) : Stepwise σ α := fun s h =>
  ((x s, s), h)

def write (f : Session → Session) : Stepwise σ Unit := fun s h =>
  ((.ok (), f s), h)

def ask (x : StateM σ α) : Stepwise σ α := fun s h =>
  ((.ok (x h).1, s), (x h).2)

def refuseIf (bad : Session → Bool) (e : ProtocolError) : Stepwise σ Unit :=
  check fun s => if bad s then .error e else .ok ()

def queue (events : List Event) : Stepwise σ Unit :=
  write fun s => { s with events := s.events ++ events }

def addBreakpoint (b : Breakpoint) : Stepwise σ Unit :=
  write fun s => { s with breakpoints := s.breakpoints ++ [b] }

def drawBreakpointNumber : Stepwise σ Nat := do
  let number ← check fun s => .ok s.nextBreakpointId
  write fun s => { s with nextBreakpointId := number + 1 }
  return number

def enable : Stepwise σ Reply := do
  let on ← check fun s => .ok s.enabled
  if !on then
    write fun s => { s with enabled := true }
    let scripts ← check fun s => .ok s.scripts
    queue (scripts.map fun script => .scriptParsed script.parsed)
  return .enabled Session.debuggerId

def disable : Stepwise σ Reply := do
  write fun s => { s with enabled := false }
  write fun s => { s with breakpoints := [] }
  write fun s => { s with pauseRequested := false }
  write fun s => { s with step := none }
  write fun s => { s with exceptionPause := .none }
  write fun s => { s with paused := none }
  write fun s => { s with events := [] }
  return .done

def setBreakpoint (location : Location) (condition : Option String) : Stepwise σ Reply := do
  let position ← check fun _ => Session.oneBased location.lineNumber location.columnNumber
  let script ← check fun s => s.findScript location.scriptId
  match script.resolve? position with
  | none => check fun _ => .error (.serverError "Could not resolve breakpoint")
  | some offset =>
      refuseIf (fun s => s.breakpoints.any fun b => b.hits location.scriptId offset)
        Session.alreadyExists
      let id := Session.breakpointName (← drawBreakpointNumber) location.lineNumber
        location.columnNumber location.scriptId
      addBreakpoint
        ⟨id, .script location.scriptId, position, Session.usedCondition condition,
          [(location.scriptId, offset)]⟩
      return .breakpointSet id (script.location offset)

def setBreakpointByUrl (line : UInt32) (url urlRegex : Option String) (column : Option UInt32)
    (condition : Option String) : Stepwise σ Reply := do
  let url ← check fun _ => Session.chosenUrl url urlRegex
  let column := column.getD 0
  let position ← check fun _ => Session.oneBased line column
  let id := Session.breakpointName 1 line column url
  refuseIf (fun s => s.breakpoints.any fun b => b.id == id) Session.alreadyExists
  let unbound : Breakpoint := ⟨id, .url url, position, Session.usedCondition condition, []⟩
  let scripts ← check fun s => .ok s.scripts
  addBreakpoint (scripts.foldl Breakpoint.bindTo unbound)
  return .breakpointsSet id
    (scripts.filterMap fun script => (unbound.bindingIn? script).map script.location)

def removeBreakpoint (id : BreakpointId) : Stepwise σ Reply := do
  refuseIf (fun s => !s.breakpoints.any fun b => b.id == id)
    (.serverError "Breakpoint with given id does not exist")
  write fun s => { s with breakpoints := s.breakpoints.eraseP fun b => b.id == id }
  return .done

def release : Stepwise σ Reply := do
  let waiting ← check fun s => .ok s.isPaused
  if waiting then
    write fun s => { s with paused := none }
    queue [.resumed]
  return .done

def resume : Stepwise σ Reply := do
  let _ ← check Session.requirePaused
  release

def takeStep (kind : StepKind) : Stepwise σ Reply := do
  let state ← check Session.requirePaused
  write fun s => { s with step := some ⟨kind, state.depth⟩ }
  release

def evaluate (host : Host σ) (frame : CallFrameId) (expression : String) : Stepwise σ Reply := do
  let state ← check Session.requirePaused
  refuseIf (fun _ => !state.callFrames.any fun f => f.callFrameId == frame)
    (.serverError "Could not find call frame with given id")
  return Session.evaluationReply (← ask (host.evaluate frame expression))

def properties (host : Host σ) (object : ObjectId) (own accessorsOnly : Bool) :
    Stepwise σ Reply := do
  match ← ask (host.properties object own) with
  | none => check fun _ => .error (.serverError "Could not find object with given id")
  | some list =>
      return .properties (if accessorsOnly then list.filter Property.isAccessor else list)

def drain : Stepwise σ Reply := do
  let events ← check fun s => .ok s.events
  write fun s => { s with events := [] }
  return .events events

def execute (host : Host σ) : Command → Stepwise σ Reply
  | .enable => enable
  | .disable => disable
  | .setBreakpoint location condition => setBreakpoint location condition
  | .setBreakpointByUrl line url urlRegex column condition =>
      setBreakpointByUrl line url urlRegex column condition
  | .removeBreakpoint id => removeBreakpoint id
  | .getPossibleBreakpoints start stop =>
      check fun s => (s.possibleBreakpoints start stop).map Prod.snd
  | .getScriptSource script => check fun s => (s.scriptSource script).map Prod.snd
  | .pause => do
      write Session.requestPause
      return .done
  | .resume => resume
  | .step kind => takeStep kind
  | .evaluateOnCallFrame frame expression => evaluate host frame expression
  | .setPauseOnExceptions state => do
      write fun s => { s with exceptionPause := state }
      return .done
  | .getProperties object own accessorsOnly => properties host object own accessorsOnly
  | .drainEvents => drain

def dispatch (host : Host σ) (method : String) (params : Json) : Stepwise σ Reply := do
  refuseIf (fun s => Command.needsEnabled method && !s.enabled)
    (.serverError "Debugger agent is not enabled")
  execute host (← check fun _ => Command.ofMethod method params)

def handle (host : Host σ) (s : Session) (request : Request) : StateM σ (Session × Response) := do
  match ← dispatch host request.method request.params s with
  | (.ok reply, next) => return (next, ⟨some request.id, .result reply.toJson.canonical⟩)
  | (.error e, next) => return (next, ⟨some request.id, .error e⟩)

def settle (s : Session) : Session.Result × σ → (Except ProtocolError Reply × Session) × σ
  | (.ok (next, reply), h) => ((.ok reply, next), h)
  | (.error e, h) => ((.error e, s), h)

def Settles (x : Stepwise σ Reply) (s : Session) (r : StateM σ Session.Result) : Prop :=
  ∀ h, x s h = settle s (r h)

section Rules

variable {x : Session → Except ProtocolError α} {f : α → Stepwise σ Reply}
  {r : StateM σ Session.Result} {s : Session} {a : α} {e : ProtocolError}

theorem settles_done {y : Stepwise σ Reply} {next : Session} {reply : Reply}
    (hy : ∀ h, y s h = ((.ok reply, next), h)) : y.Settles s (pure (.ok (next, reply))) :=
  hy

theorem settles_check_ok (hx : x s = .ok a) (hf : (f a).Settles s r) :
    Settles (check x >>= f) s r := by
  intro h
  change ExceptT.bindCont f (x s) s h = _
  rw [hx]
  exact hf h

theorem settles_check_error (hx : x s = .error e) :
    Settles (check x >>= f) s (pure (.error e)) := by
  intro h
  change ExceptT.bindCont f (x s) s h = _
  rw [hx]
  rfl

theorem settles_check {g : α → Session.Result}
    (hf : ∀ a, x s = .ok a → (f a).Settles s (pure (g a))) :
    Settles (check x >>= f) s (pure (x s >>= g)) := by
  cases hx : x s with
  | error e => exact settles_check_error hx
  | ok a => exact settles_check_ok hx (hf a hx)

theorem settles_refuseIf {bad : Session → Bool} {next : Unit → Stepwise σ Reply}
    {result : Session.Result} (hnext : bad s = false → (next ()).Settles s (pure result)) :
    Settles (refuseIf bad e >>= next) s (pure (if bad s then .error e else result)) := by
  cases hbad : bad s with
  | true => exact settles_check_error (if_pos hbad)
  | false => exact settles_check_ok (if_neg (Bool.eq_false_iff.mp hbad)) (hnext hbad)

theorem settles_ask {y : StateM σ α} {g : α → StateM σ Session.Result}
    (hf : ∀ a, (f a).Settles s (g a)) : Settles (ask y >>= f) s (y >>= g) :=
  fun h => hf (y h).1 (y h).2

end Rules

section Commands

variable (s : Session)

theorem settles_enable :
    Settles (enable : Stepwise σ Reply) s (pure (.ok (s.enable, .enabled Session.debuggerId))) := by
  cases hon : s.enabled with
  | true =>
    rw [Session.enable, if_pos hon]
    exact settles_check_ok (congrArg Except.ok hon) fun _ => rfl
  | false =>
    rw [Session.enable, if_neg (Bool.eq_false_iff.mp hon)]
    exact settles_check_ok (congrArg Except.ok hon) fun _ => rfl

theorem settles_setBreakpoint (location : Location) (condition : Option String) :
    Settles (setBreakpoint location condition : Stepwise σ Reply) s
      (pure (s.setBreakpoint location condition)) := by
  refine settles_check fun position _ => settles_check fun script _ => ?_
  dsimp only
  cases script.resolve? position with
  | none => exact fun _ => rfl
  | some offset => exact settles_refuseIf fun _ => settles_done fun _ => rfl

theorem settles_setBreakpointByUrl (line : UInt32) (url urlRegex : Option String)
    (column : Option UInt32) (condition : Option String) :
    Settles (setBreakpointByUrl line url urlRegex column condition : Stepwise σ Reply) s
      (pure (s.setBreakpointByUrl line url urlRegex column condition)) := by
  refine settles_check fun place _ => settles_check fun position _ => ?_
  exact settles_refuseIf fun _ => settles_done fun _ => rfl

theorem settles_removeBreakpoint (id : BreakpointId) :
    Settles (removeBreakpoint id : Stepwise σ Reply) s (pure (s.removeBreakpoint id)) := by
  unfold Session.removeBreakpoint
  cases hknown : s.breakpoints.any fun b => b.id == id with
  | true => exact settles_check_ok (a := ()) (by simp [hknown]) fun _ => rfl
  | false => exact settles_check_error (by simp [hknown])

theorem settles_release (hp : s.isPaused = true) :
    Settles (release : Stepwise σ Reply) s (pure (.ok (s.resumed, .done))) :=
  settles_check_ok (congrArg Except.ok hp) fun _ => rfl

theorem settles_resume : Settles (resume : Stepwise σ Reply) s (pure s.resume) := by
  refine settles_check fun state hstate => ?_
  exact settles_release s (Session.isPaused_of_requirePaused hstate)

theorem settles_takeStep (kind : StepKind) :
    Settles (takeStep kind : Stepwise σ Reply) s (pure (s.takeStep kind)) := by
  refine settles_check fun state hstate => ?_
  have hp := Session.isPaused_of_requirePaused hstate
  exact fun h => settles_release { s with step := some ⟨kind, state.depth⟩ } hp h

theorem settles_evaluate (host : Host σ) (frame : CallFrameId) (expression : String) :
    Settles (evaluate host frame expression) s (s.evaluate host frame expression) := by
  unfold Session.evaluate
  cases hstate : s.requirePaused with
  | error e => exact settles_check_error hstate
  | ok state =>
    refine settles_check_ok hstate ?_
    dsimp only
    cases hknown : state.callFrames.any fun f => f.callFrameId == frame with
    | true =>
      refine settles_check_ok (a := ()) (by simp) ?_
      exact settles_ask fun answer => settles_done fun _ => rfl
    | false => exact settles_check_error (by simp)

theorem settles_properties (host : Host σ) (object : ObjectId) (own accessorsOnly : Bool) :
    Settles (properties host object own accessorsOnly) s
      (s.properties host object own accessorsOnly) := by
  refine settles_ask fun list => ?_
  cases list with
  | none => exact fun _ => rfl
  | some list => exact settles_done fun _ => rfl

theorem settles_reading {read : Session → Session.Result}
    (hread : ∀ next reply, read s = .ok (next, reply) → next = s) :
    Settles (check fun s => (read s).map Prod.snd : Stepwise σ Reply) s (pure (read s)) := by
  intro h
  cases hresult : read s with
  | error e => simp only [check, hresult]; rfl
  | ok result =>
    obtain ⟨next,reply⟩ := result
    rw [hread next reply hresult]
    simp only [check, hresult]
    rfl

theorem settles_execute (host : Host σ) (c : Command) :
    Settles (execute host c) s (s.execute host c) := by
  cases c with
  | enable => exact settles_enable s
  | disable => exact settles_done fun _ => rfl
  | setBreakpoint location condition => exact settles_setBreakpoint s location condition
  | setBreakpointByUrl line url urlRegex column condition =>
    exact settles_setBreakpointByUrl s line url urlRegex column condition
  | removeBreakpoint id => exact settles_removeBreakpoint s id
  | getPossibleBreakpoints start stop =>
    exact settles_reading s fun _ _ hresult => (Session.possibleBreakpoints_eq_ok hresult).1
  | getScriptSource script =>
    exact settles_reading s fun _ _ hresult => (Session.scriptSource_eq_ok hresult).1
  | pause => exact settles_done fun _ => rfl
  | resume => exact settles_resume s
  | step kind => exact settles_takeStep s kind
  | evaluateOnCallFrame frame expression => exact settles_evaluate s host frame expression
  | setPauseOnExceptions state => exact settles_done fun _ => rfl
  | getProperties object own accessorsOnly =>
    exact settles_properties s host object own accessorsOnly
  | drainEvents => exact settles_done fun _ => rfl

theorem settles_dispatch (host : Host σ) (method : String) (params : Json) :
    Settles (dispatch host method params) s (s.dispatch host method params) := by
  unfold Session.dispatch
  cases hready : Command.needsEnabled method && !s.enabled with
  | true => exact settles_check_error (if_pos hready)
  | false =>
    refine settles_check_ok (a := ()) (if_neg (Bool.eq_false_iff.mp hready)) ?_
    cases hc : Command.ofMethod method params with
    | error e => exact settles_check_error rfl
    | ok c => exact settles_check_ok rfl (settles_execute s host c)

theorem handle_eq (host : Host σ) (r : Request) : handle host s r = s.handle host r := by
  funext h
  have hd := settles_dispatch s host r.method r.params h
  rcases hplain : s.dispatch host r.method r.params h with ⟨e | ⟨next,reply⟩,h'⟩
  · rw [hplain] at hd
    rw [Session.handle_of_error hplain]
    simp only [handle, bind, StateT.bind, hd]
    rfl
  · rw [hplain] at hd
    rw [Session.handle_of_ok hplain]
    simp only [handle, bind, StateT.bind, hd]
    rfl

end Commands

end Stepwise

namespace Session

variable {σ : Type} {host : Host σ} {s : Session} {a : Action} {r : Request} {h : σ}

theorem dispatch_of_isError (hr : (s.handle host r h).1.2.isError = true) :
    ∃ e h', s.dispatch host r.method r.params h = (.error e, h') := by
  rcases hd : s.dispatch host r.method r.params h with ⟨e | ⟨next,reply⟩,h'⟩
  · exact ⟨e,h',rfl⟩
  · rw [handle_of_ok hd] at hr
    cases hr

theorem handle_of_isError (hr : (s.handle host r h).1.2.isError = true) :
    (s.handle host r h).1.1 = s := by
  obtain ⟨e,h',hd⟩ := dispatch_of_isError hr
  rw [handle_of_error hd]

theorem handleMessage_of_isError {bytes : List UInt8}
    (hbytes : (s.handleMessage host bytes h).1.2.isError = true) :
    (s.handleMessage host bytes h).1.1 = s := by
  cases hr : Request.ofMessage? bytes with
  | none =>
    obtain ⟨id,e,he⟩ : ∃ id e, s.handleMessage host bytes h = ((s, ⟨id, .error e⟩), h) :=
      handleMessage_of_none hr h
    rw [he]
  | some r =>
    rw [handleMessage_of_request hr] at hbytes ⊢
    exact handle_of_isError hbytes

def refuses (host : Host σ) (s : Session) (a : Action) (h : σ) : Bool :=
  match a with
  | .request r => (s.handle host r h).1.2.isError
  | .message bytes => (s.handleMessage host bytes h).1.2.isError
  | _ => false

def unrefused (host : Host σ) (s : Session) : List (Action × σ) → List (Action × σ)
  | [] => []
  | (a, h) :: rest =>
      if s.refuses host a h then s.unrefused host rest
      else (a, h) :: (s.perform host a h).1.1.unrefused host rest

theorem serve_of_isError (hr : (s.handle host r h).1.2.isError = true) :
    (s.serve host r h).1 = (s, []) := by
  obtain ⟨e,h',hd⟩ := dispatch_of_isError hr
  rw [serve_of_error hd]

theorem perform_of_refuses (ha : s.refuses host a h = true) :
    (s.perform host a h).1 = (s, []) := by
  cases a with
  | request r => exact serve_of_isError ha
  | message bytes =>
    cases hr : Request.ofMessage? bytes with
    | none =>
      rw [perform, hr]
      rfl
    | some r =>
      rw [refuses, handleMessage_of_request hr] at ha
      rw [perform_of_request (a := .message bytes) hr]
      exact serve_of_isError ha
  | _ => cases ha

theorem run_unrefused (host : Host σ) (s : Session) (actions : List (Action × σ)) :
    s.run host (s.unrefused host actions) = s.run host actions := by
  induction actions generalizing s with
  | nil => rfl
  | cons first rest ih =>
    obtain ⟨a,h⟩ := first
    cases ha : s.refuses host a h with
    | true =>
      rw [unrefused, if_pos ha, ih, run_cons, perform_of_refuses ha]
      rfl
    | false =>
      rw [unrefused, if_neg (Bool.eq_false_iff.mp ha), run_cons, run_cons, ih]

theorem refused_unchanged (host : Host σ) (s : Session) :
    (∀ r h, (s.handle host r h).1.2.isError = true → (s.handle host r h).1.1 = s) ∧
    (∀ bytes h, (s.handleMessage host bytes h).1.2.isError = true →
      (s.handleMessage host bytes h).1.1 = s) ∧
    (∀ r, Stepwise.handle host s r = s.handle host r) ∧
    ∀ actions, s.run host (s.unrefused host actions) = s.run host actions :=
  ⟨fun _ _ hr => handle_of_isError hr,fun _ _ hbytes => handleMessage_of_isError hbytes,
    Stepwise.handle_eq s host,run_unrefused host s⟩

def pausing : List (Action × Unit) :=
  [(.register page, ()), calling "Debugger.enable" [], calling "Debugger.pause" []]

theorem refused_unchanged_pausing :
    let s := (initial.run Host.detached pausing).1
    let r : Request := ⟨1, "Debugger.stepInto", .object []⟩
    (s.handle Host.detached r ()).1.2.isError = true ∧ (s.handle Host.detached r ()).1.1 = s ∧
      (Stepwise.handle Host.detached s r ()).1.1 = s := by
  intro s r
  obtain ⟨hrefused,-,hstepwise,-⟩ := refused_unchanged Host.detached s
  have herror : (s.handle Host.detached r ()).1.2.isError = true := by decide +kernel
  refine ⟨herror,hrefused r () herror,?_⟩
  rw [hstepwise]
  exact hrefused r () herror

end Session

end ScriptCache
