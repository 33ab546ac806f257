import ScriptCache.Proofs.Inspector.Action
import ScriptCache.Proofs.Inspector.Method

namespace ScriptCache.Session

variable {σ : Type} {host : Host σ} {s next : Session} {reply : Reply}

theorem script?_eq_some {id : ScriptId} {script : Script} (h : s.script? id = some script) :
    script ∈ s.scripts ∧ script.id = id :=
  ⟨List.mem_of_find?_eq_some h, by simpa using List.find?_some h⟩

theorem findScript_eq_ok_iff {id : ScriptId} {script : Script} :
    s.findScript id = .ok script ↔ s.script? id = some script := by
  unfold findScript
  cases s.script? id <;> simp

theorem requirePaused_eq_ok_iff {state : PauseState} :
    s.requirePaused = .ok state ↔ s.paused = some state := by
  unfold requirePaused
  cases s.paused <;> simp

theorem isPaused_of_requirePaused {state : PauseState} (h : s.requirePaused = .ok state) :
    s.isPaused = true := by
  rw [isPaused, requirePaused_eq_ok_iff.mp h]
  rfl

theorem bind_eq_ok {ε α β : Type} {x : Except ε α} {f : α → Except ε β} {b : β}
    (h : x >>= f = .ok b) : ∃ a, x = .ok a ∧ f a = .ok b := by
  cases x with
  | error e => cases h
  | ok a => exact ⟨a,rfl,h⟩

theorem enable_of_enabled (on : s.enabled = true) : s.enable = s := by
  rw [enable, if_pos on]

theorem enable_of_disabled (off : s.enabled = false) :
    s.enable = { s with
      enabled := true
      events := s.events ++ s.scripts.map fun script => .scriptParsed script.parsed } := by
  rw [enable, if_neg (Bool.eq_false_iff.mp off)]

theorem setBreakpoint_eq_ok {location : Location} {condition : Option String}
    (h : s.setBreakpoint location condition = .ok (next, reply)) :
    ∃ position script offset,
      oneBased location.lineNumber location.columnNumber = .ok position ∧
      s.script? location.scriptId = some script ∧ script.resolve? position = some offset ∧
      (∀ b ∈ s.breakpoints, b.hits location.scriptId offset = false) ∧
      next = { s with
        nextBreakpointId := s.nextBreakpointId + 1
        breakpoints := s.breakpoints ++
          [⟨breakpointName s.nextBreakpointId location.lineNumber location.columnNumber
              location.scriptId,
            .script location.scriptId, position, usedCondition condition,
            [(location.scriptId, offset)]⟩] } ∧
      reply = .breakpointSet
        (breakpointName s.nextBreakpointId location.lineNumber location.columnNumber
          location.scriptId) (script.location offset) := by
  obtain ⟨position,hplace,h⟩ := bind_eq_ok h
  obtain ⟨script,hscript,h⟩ := bind_eq_ok h
  rw [findScript_eq_ok_iff] at hscript
  dsimp only at h
  split at h
  · cases h
  · rename_i offset hstop
    split at h
    · cases h
    · rename_i hfree
      cases h
      refine ⟨position,script,offset,hplace,hscript,hstop,?_,rfl,rfl⟩
      simpa using hfree

theorem setBreakpointByUrl_eq_ok {line : UInt32} {url urlRegex : Option String}
    {column : Option UInt32} {condition : Option String}
    (h : s.setBreakpointByUrl line url urlRegex column condition = .ok (next, reply)) :
    ∃ place position,
      url = some place ∧ oneBased line (column.getD 0) = .ok position ∧
      (∀ b ∈ s.breakpoints, b.id ≠ breakpointName 1 line (column.getD 0) place) ∧
      next = { s with
        breakpoints := s.breakpoints ++
          [s.scripts.foldl Breakpoint.bindTo
            ⟨breakpointName 1 line (column.getD 0) place, .url place, position,
              usedCondition condition, []⟩] } ∧
      reply = .breakpointsSet (breakpointName 1 line (column.getD 0) place)
        (s.scripts.filterMap fun script =>
          (Breakpoint.bindingIn?
            ⟨breakpointName 1 line (column.getD 0) place, .url place, position,
              usedCondition condition, []⟩ script).map script.location) := by
  obtain ⟨place,hurl,h⟩ := bind_eq_ok h
  obtain ⟨position,hplace,h⟩ := bind_eq_ok h
  have hgiven : url = some place := by
    unfold chosenUrl at hurl
    split at hurl <;> simp_all
  dsimp only at h
  split at h
  · cases h
  · rename_i hfresh
    cases h
    refine ⟨place,position,hgiven,hplace,?_,rfl,rfl⟩
    simpa using hfresh

theorem removeBreakpoint_eq_ok {id : BreakpointId}
    (h : s.removeBreakpoint id = .ok (next, reply)) :
    next = { s with breakpoints := s.breakpoints.eraseP fun b => b.id == id } ∧ reply = .done := by
  unfold removeBreakpoint at h
  split at h
  · cases h
    exact ⟨rfl,rfl⟩
  · cases h

theorem possibleBreakpoints_eq_listed {start : Location} {stop : Option Location}
    (h : s.possibleBreakpoints start stop = .ok (next, reply)) :
    ∃ script first past, s.script? start.scriptId = some script ∧ next = s ∧
      reply = .possibleBreakpoints
        ((script.stops.filter fun offset => first ≤ offset && offset < past).map
          (breakLocation script)) := by
  obtain ⟨script,hscript,h⟩ := bind_eq_ok h
  rw [findScript_eq_ok_iff] at hscript
  cases stop with
  | none =>
    obtain ⟨first,-,h⟩ := bind_eq_ok h
    cases h
    exact ⟨script,first,Word.maximum,hscript,rfl,rfl⟩
  | some stop =>
    dsimp only at h
    split at h
    · cases h
    · obtain ⟨first,-,h⟩ := bind_eq_ok h
      obtain ⟨past,-,h⟩ := bind_eq_ok h
      cases h
      exact ⟨script,first,past,hscript,rfl,rfl⟩

theorem possibleBreakpoints_eq_ok {start : Location} {stop : Option Location}
    (h : s.possibleBreakpoints start stop = .ok (next, reply)) :
    next = s ∧ reply.batch = [] := by
  obtain ⟨script,first,past,-,hnext,rfl⟩ := possibleBreakpoints_eq_listed h
  exact ⟨hnext,rfl⟩

theorem scriptSource_eq_ok {id : ScriptId} (h : s.scriptSource id = .ok (next, reply)) :
    next = s ∧ reply.batch = [] := by
  obtain ⟨script,-,h⟩ := bind_eq_ok h
  cases h
  exact ⟨rfl,rfl⟩

theorem resume_eq_ok (h : s.resume = .ok (next, reply)) :
    s.isPaused = true ∧ next = s.resumed ∧ reply = .done := by
  obtain ⟨state,hstate,h⟩ := bind_eq_ok h
  cases h
  exact ⟨isPaused_of_requirePaused hstate,rfl,rfl⟩

theorem takeStep_eq_ok {kind : StepKind} (h : s.takeStep kind = .ok (next, reply)) :
    ∃ state, s.paused = some state ∧
      next = { s with step := some ⟨kind, state.depth⟩ }.resumed ∧ reply = .done := by
  obtain ⟨state,hstate,h⟩ := bind_eq_ok h
  cases h
  exact ⟨state,requirePaused_eq_ok_iff.mp hstate,rfl,rfl⟩

theorem batch_evaluationReply (answer : Except ExceptionDetails RemoteObject) :
    (evaluationReply answer).batch = [] := by
  cases answer <;> rfl

theorem evaluate_eq_ok {frame : CallFrameId} {expression : String} {h h' : σ}
    (hx : s.evaluate host frame expression h = (.ok (next, reply), h')) :
    next = s ∧ reply.batch = [] := by
  unfold evaluate at hx
  cases hstate : s.requirePaused with
  | error e =>
    rw [hstate] at hx
    cases hx
  | ok state =>
    rw [hstate] at hx
    dsimp only at hx
    split at hx
    · cases hx
      exact ⟨rfl,batch_evaluationReply _⟩
    · cases hx

theorem properties_eq_ok {object : ObjectId} {own accessorsOnly : Bool} {h h' : σ}
    (hx : s.properties host object own accessorsOnly h = (.ok (next, reply), h')) :
    next = s ∧ reply.batch = [] := by
  rcases hlist : host.properties object own h with ⟨_ | list,h1⟩
  all_goals
    simp only [properties, bind, StateT.bind, hlist] at hx
    cases hx
  exact ⟨rfl,rfl⟩

theorem dispatch_eq_execute {name : String} {params : Json} {c : Command}
    (hc : Command.ofMethod name params = .ok c) (on : c.anytime = false → s.enabled = true) :
    s.dispatch host name params = s.execute host c := by
  have hready : ¬(Command.needsEnabled name && !s.enabled) = true := by
    rw [← Command.method_of_ofMethod hc, Command.needsEnabled_method]
    cases hany : c.anytime with
    | true => simp
    | false => simp [on hany]
  rw [dispatch, if_neg hready, hc]

theorem dispatch_eq_ok {name : String} {params : Json} {h h' : σ}
    (hd : s.dispatch host name params h = (.ok (next, reply), h')) :
    ∃ c, Command.ofMethod name params = .ok c ∧ (c.anytime = false → s.enabled = true) ∧
      s.execute host c h = (.ok (next, reply), h') := by
  unfold dispatch at hd
  split at hd
  · cases hd
  · rename_i hon
    cases hc : Command.ofMethod name params with
    | error e => rw [hc] at hd; cases hd
    | ok c =>
      rw [hc] at hd
      refine ⟨c,rfl,?_,hd⟩
      intro hany
      simpa [← Command.method_of_ofMethod hc, Command.needsEnabled_method, hany] using hon

theorem candidates?_eq_some {point : ExecutionPoint} {hit : List Breakpoint}
    (h : s.candidates? point = some hit) :
    s.enabled = true ∧ s.paused = none ∧
      ∃ offset, point.program.exactPosition? point.pc = some offset ∧
        hit = s.breakpointsAt point.scriptId offset := by
  unfold candidates? at h
  split at h
  · rename_i hready
    simp only [isPaused, Bool.and_eq_true, Bool.not_eq_true', Option.isSome_eq_false_iff,
      Option.isNone_iff_eq_none] at hready
    split at h
    · rename_i offset hoffset
      dsimp only at h
      split at h
      · cases h
      · cases h
        exact ⟨hready.1,hready.2,offset,hoffset,rfl⟩
    · cases h
  · cases h

theorem onInstruction_of_none {point : ExecutionPoint} (hc : s.candidates? point = none)
    (frames : List CallFrame) (h : σ) : s.onInstruction host point frames h = ((s, false), h) := by
  simp only [onInstruction, hc]
  rfl

theorem onInstruction_of_some {point : ExecutionPoint} {hit : List Breakpoint}
    {frames : List CallFrame} {ids : List BreakpointId} {h h' : σ}
    (hc : s.candidates? point = some hit) (ht : taken host frames.head? hit h = (ids, h')) :
    s.onInstruction host point frames h =
      (if ids.isEmpty && !s.stepReached point.depth && !s.pauseRequested then (s, false)
        else (s.pause .other none ids frames point.depth, true), h') := by
  simp only [onInstruction, hc, bind, StateT.bind, ht]
  split <;> rfl

end ScriptCache.Session
