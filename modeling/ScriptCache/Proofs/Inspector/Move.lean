import ScriptCache.Proofs.Inspector.Acceptance
/-!
What one action does to a session, case by case. All that is kept along a run is derived from the
moves listed here.
-/

namespace ScriptCache

namespace Session

/-- What an action `a` makes of a session: the session after it, and the events handed over. -/
inductive Move (s : Session) (a : Action) : Session → List Event → Prop
  | idle : Move s a s []
  | register (p : Program) (given : a = .register p) : Move s a (s.register p).1 []
  | pause (reason : PausedReason) (data : Option Json) (hit : List BreakpointId)
      (frames : List CallFrame) (depth : Nat) (on : s.enabled = true) (running : s.paused = none) :
      Move s a (s.pause reason data hit frames depth) []
  | drain : Move s a s.drain.1 s.drain.2
  | enable (off : s.enabled = false) :
      Move s a
        { s with
          enabled := true
          events := s.events ++ s.scripts.map fun script => .scriptParsed script.parsed } []
  | disable (on : s.enabled = true) (asked : a.Calls "Debugger.disable") : Move s a s.disable []
  | setBreakpoint {script : Script} {line column : UInt32} {position : Position} {offset : UInt32}
      (condition : Option String) (on : s.enabled = true) (known : script ∈ s.scripts)
      (place : oneBased line column = .ok position)
      (stop : script.resolve? position = some offset)
      (free : ∀ b ∈ s.breakpoints, b.hits script.id offset = false) :
      Move s a
        { s with
          nextBreakpointId := s.nextBreakpointId + 1
          breakpoints := s.breakpoints ++
            [⟨breakpointName s.nextBreakpointId line column script.id, .script script.id,
              position, condition, [(script.id, offset)]⟩] } []
  | setBreakpointByUrl {line column : UInt32} {position : Position} (url : String)
      (condition : Option String) (on : s.enabled = true)
      (place : oneBased line column = .ok position)
      (fresh : ∀ b ∈ s.breakpoints, b.id ≠ breakpointName 1 line column url) :
      Move s a
        { s with
          breakpoints := s.breakpoints ++
            [s.scripts.foldl Breakpoint.bindTo
              ⟨breakpointName 1 line column url, .url url, position, condition, []⟩] } []
  | removeBreakpoint (id : BreakpointId) (on : s.enabled = true) :
      Move s a { s with breakpoints := s.breakpoints.eraseP fun b => b.id == id } []
  | requestPause (on : s.enabled = true) (running : s.isPaused = false) :
      Move s a { s with pauseRequested := true } []
  | resume (on : s.enabled = true) (waiting : s.isPaused = true) : Move s a s.resumed []
  | takeStep (step : Step) (on : s.enabled = true) (waiting : s.isPaused = true) :
      Move s a { s with step := some step }.resumed []
  | setExceptionPause (state : ExceptionPause) (on : s.enabled = true) :
      Move s a { s with exceptionPause := state } []

variable {σ : Type} {host : Host σ} {s next : Session} {a : Action} {reply : Reply}

theorem execute_move {c : Command} {h h' : σ} (asked : a.Calls c.method)
    (on : c.anytime = false → s.enabled = true)
    (hx : s.execute host c h = (.ok (next, reply), h')) : Move s a next reply.batch := by
  cases c with
  | enable =>
    cases hx
    cases hon : s.enabled with
    | true =>
      rw [enable_of_enabled hon]
      exact .idle
    | false =>
      rw [enable_of_disabled hon]
      exact .enable hon
  | disable =>
    cases hx
    exact .disable (on rfl) asked
  | setBreakpoint location condition =>
    obtain ⟨position,script,offset,hplace,hscript,hstop,hfree,rfl,rfl⟩ :=
      setBreakpoint_eq_ok (Prod.mk.inj hx).1
    obtain ⟨hknown,hid⟩ := script?_eq_some hscript
    rw [← hid] at hfree ⊢
    exact .setBreakpoint _ (on rfl) hknown hplace hstop hfree
  | setBreakpointByUrl line url urlRegex column condition =>
    obtain ⟨place,position,-,hplace,hfresh,rfl,rfl⟩ :=
      setBreakpointByUrl_eq_ok (Prod.mk.inj hx).1
    exact .setBreakpointByUrl place _ (on rfl) hplace hfresh
  | removeBreakpoint id =>
    obtain ⟨rfl,rfl⟩ := removeBreakpoint_eq_ok (Prod.mk.inj hx).1
    exact .removeBreakpoint id (on rfl)
  | getPossibleBreakpoints start stop =>
    obtain ⟨rfl,hbatch⟩ := possibleBreakpoints_eq_ok (Prod.mk.inj hx).1
    exact hbatch ▸ .idle
  | getScriptSource script =>
    obtain ⟨rfl,hbatch⟩ := scriptSource_eq_ok (Prod.mk.inj hx).1
    exact hbatch ▸ .idle
  | pause =>
    cases hx
    unfold requestPause
    split
    · exact .idle
    · rename_i hrunning
      exact .requestPause (on rfl) (Bool.eq_false_iff.mpr hrunning)
  | resume =>
    obtain ⟨hwaiting,rfl,rfl⟩ := resume_eq_ok (Prod.mk.inj hx).1
    exact .resume (on rfl) hwaiting
  | step kind =>
    obtain ⟨state,hstate,rfl,rfl⟩ := takeStep_eq_ok (Prod.mk.inj hx).1
    exact .takeStep _ (on rfl) (by rw [isPaused, hstate]; rfl)
  | evaluateOnCallFrame frame expression =>
    obtain ⟨rfl,hbatch⟩ := evaluate_eq_ok hx
    exact hbatch ▸ .idle
  | setPauseOnExceptions state =>
    cases hx
    exact .setExceptionPause state (on rfl)
  | getProperties object own accessorsOnly =>
    obtain ⟨rfl,hbatch⟩ := properties_eq_ok hx
    exact hbatch ▸ .idle
  | drainEvents =>
    cases hx
    exact .drain

theorem serve_move {r : Request} (hr : a.request? = some r) (h : σ) :
    Move s a (s.serve host r h).1.1 (s.serve host r h).1.2 := by
  rcases hd : s.dispatch host r.method r.params h with ⟨e | ⟨next,reply⟩,h'⟩
  · rw [serve_of_error hd]
    exact .idle
  · rw [serve_of_ok hd]
    obtain ⟨c,hc,hon,hx⟩ := dispatch_eq_ok hd
    exact execute_move ⟨r,hr,(Command.method_of_ofMethod hc).symm⟩ hon hx

theorem onInstruction_move (host : Host σ) (s : Session) (point : ExecutionPoint)
    (frames : List CallFrame) (h : σ) : Move s a (s.onInstruction host point frames h).1.1 [] := by
  cases hc : s.candidates? point with
  | none =>
    rw [onInstruction_of_none hc]
    exact .idle
  | some hit =>
    obtain ⟨hon,hrunning,-⟩ := candidates?_eq_some hc
    rw [onInstruction_of_some hc rfl]
    dsimp only
    split
    · exact .idle
    · exact .pause _ _ _ _ _ hon hrunning

theorem onException_move (s : Session) (point : ExecutionPoint) (uncaught : Bool)
    (thrown : RemoteObject) (frames : List CallFrame) :
    Move s a (s.onException point uncaught thrown frames).1 [] := by
  unfold onException
  split
  · rename_i hpause
    simp only [pausesOnException, isPaused, Bool.and_eq_true, Bool.not_eq_true',
      Option.isSome_eq_false_iff, Option.isNone_iff_eq_none] at hpause
    exact .pause _ _ _ _ _ hpause.1.1 hpause.1.2
  · exact .idle

theorem perform_move (host : Host σ) (s : Session) (a : Action) (h : σ) :
    Move s a (s.perform host a h).1.1 (s.perform host a h).1.2 := by
  cases a with
  | register p => exact .register p rfl
  | instruction point frames => exact onInstruction_move host s point frames h
  | exception point uncaught thrown frames => exact onException_move s point uncaught thrown frames
  | drain => exact .drain
  | request r => exact serve_move (a := .request r) rfl h
  | message bytes =>
    cases hr : Request.ofMessage? bytes with
    | none =>
      simp only [perform, hr]
      exact .idle
    | some r =>
      rw [perform_of_request (a := .message bytes) hr]
      exact serve_move (a := .message bytes) hr h

theorem Reachable.induction {P : Session → Prop} (start : P initial)
    (step : ∀ s a next batch, Move s a next batch → P s → P next) (hs : Reachable host s) :
    P s := by
  obtain ⟨actions,rfl⟩ := hs
  refine run_history (P := fun _ t _ => P t) start ?_ actions
  intro past t handed a h ht
  exact step t a _ _ (perform_move host t a h) ht

end Session

end ScriptCache
