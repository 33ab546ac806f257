import Mathlib.Data.List.Nodup
import ScriptCache.Proofs.Inspector.Mode

namespace ScriptCache

/-- A report of an instruction about to run, with the state in which it finds the host. -/
structure Visit (σ : Type) where
  point : ExecutionPoint
  frames : List CallFrame
  host : σ

inductive Resumption where
  | step (kind : StepKind)
  | resume

namespace Resumption

def method : Resumption → String
  | .step .into => "Debugger.stepInto"
  | .step .over => "Debugger.stepOver"
  | .step .out => "Debugger.stepOut"
  | .resume => "Debugger.resume"

def command : Resumption → Command
  | .step kind => .step kind
  | .resume => .resume

def Reaches : Resumption → (start depth : Nat) → Prop
  | .step .into, _, _ => True
  | .step .over, start, depth => depth ≤ start
  | .step .out, start, depth => depth < start
  | .resume, _, _ => False

def step? : Resumption → (start : Nat) → Option Step
  | .step kind, start => some ⟨kind, start⟩
  | .resume, _ => none

theorem ofMethod_method (r : Resumption) (params : Json) :
    Command.ofMethod r.method params = .ok r.command := by
  cases r with
  | step kind => cases kind <;> rfl
  | resume => rfl

end Resumption

variable {σ : Type} {host : Host σ}

/-- Whether the host, asked in the state `h`, takes a breakpoint in the top frame; it may change its
state to give the answer. -/
inductive Judges (host : Host σ) (top : Option CallFrame) (b : Breakpoint) (h : σ) :
    Bool → σ → Prop
  | unconditional (condition : b.condition = none) : Judges host top b h true h
  | evaluated {expression : String} {frame : CallFrame} {value : RemoteObject} {h' : σ}
      (condition : b.condition = some expression) (supplied : top = some frame)
      (answer : host.evaluate frame.callFrameId expression h = (.ok value, h')) :
      Judges host top b h value.isTruthy h'
  | failed {expression : String} {frame : CallFrame} {e : ExceptionDetails} {h' : σ}
      (condition : b.condition = some expression) (supplied : top = some frame)
      (answer : host.evaluate frame.callFrameId expression h = (.error e, h')) :
      Judges host top b h false h'
  | frameless {expression : String} (condition : b.condition = some expression)
      (supplied : top = none) : Judges host top b h false h

inductive Judged (host : Host σ) (top : Option CallFrame) :
    σ → List Breakpoint → List Breakpoint → Prop
  | nil (h : σ) : Judged host top h [] []
  | taken {b : Breakpoint} {list hit : List Breakpoint} {h h' : σ}
      (verdict : Judges host top b h true h') (rest : Judged host top h' list hit) :
      Judged host top h (b :: list) (b :: hit)
  | passed {b : Breakpoint} {list hit : List Breakpoint} {h h' : σ}
      (verdict : Judges host top b h false h') (rest : Judged host top h' list hit) :
      Judged host top h (b :: list) hit

def Visit.Takes (host : Host σ) (breakpoints : List Breakpoint) (v : Visit σ)
    (hit : List Breakpoint) : Prop :=
  ∃ offset, ⟨v.point.pc, offset⟩ ∈ v.point.program.sourceMap ∧
    Judged host v.frames.head? v.host
      (breakpoints.filter fun b => (v.point.scriptId, offset) ∈ b.resolved) hit

def Visit.Stops (host : Host σ) (breakpoints : List Breakpoint) (r : Resumption) (start : Nat)
    (v : Visit σ) (hit : List Breakpoint) : Prop :=
  v.Takes host breakpoints hit ∧ (r.Reaches start v.point.depth ∨ hit ≠ [])

theorem exists_judges (host : Host σ) (top : Option CallFrame) (b : Breakpoint) (h : σ) :
    ∃ verdict h', Judges host top b h verdict h' := by
  cases hcondition : b.condition with
  | none => exact ⟨true,h,.unconditional hcondition⟩
  | some expression =>
    cases top with
    | none => exact ⟨false,h,.frameless hcondition rfl⟩
    | some frame =>
      rcases hanswer : host.evaluate frame.callFrameId expression h with ⟨e | value,h'⟩
      · exact ⟨false,h',.failed hcondition rfl hanswer⟩
      · exact ⟨_,h',.evaluated hcondition rfl hanswer⟩

theorem Judges.isTaken_eq {top : Option CallFrame} {b : Breakpoint} {h h' : σ} {verdict : Bool}
    (hj : Judges host top b h verdict h') : Session.isTaken host top b h = (verdict, h') := by
  cases hj with
  | unconditional condition =>
    simp only [Session.isTaken, condition]
    rfl
  | evaluated condition supplied answer =>
    simp only [Session.isTaken, condition, supplied, bind, StateT.bind, answer]
    rfl
  | failed condition supplied answer =>
    simp only [Session.isTaken, condition, supplied, bind, StateT.bind, answer]
    rfl
  | frameless condition supplied =>
    simp only [Session.isTaken, condition, supplied]
    rfl

theorem exists_judged (host : Host σ) (top : Option CallFrame) (h : σ) (list : List Breakpoint) :
    ∃ hit, Judged host top h list hit := by
  induction list generalizing h with
  | nil => exact ⟨[],.nil h⟩
  | cons b list ih =>
    obtain ⟨verdict,h',hverdict⟩ := exists_judges host top b h
    obtain ⟨hit,hrest⟩ := ih h'
    cases verdict with
    | true => exact ⟨b :: hit,.taken hverdict hrest⟩
    | false => exact ⟨hit,.passed hverdict hrest⟩

theorem Judged.taken_eq {top : Option CallFrame} {h : σ} {list hit : List Breakpoint}
    (hj : Judged host top h list hit) :
    ∃ h', Session.taken host top list h = (hit.map Breakpoint.id, h') := by
  induction hj with
  | nil h => exact ⟨h,rfl⟩
  | taken verdict rest ih =>
    obtain ⟨last,htaken⟩ := ih
    refine ⟨last,?_⟩
    simp only [Session.taken, bind, StateT.bind, verdict.isTaken_eq, htaken]
    rfl
  | passed verdict rest ih =>
    obtain ⟨last,htaken⟩ := ih
    refine ⟨last,?_⟩
    simp only [Session.taken, bind, StateT.bind, verdict.isTaken_eq, htaken]
    rfl

theorem Program.exactPosition?_eq_some_iff {p : Program} {pc offset : UInt32}
    (hmap : p.sourceMap.Pairwise fun x y => x.pc < y.pc) :
    p.exactPosition? pc = some offset ↔ ⟨pc, offset⟩ ∈ p.sourceMap := by
  have hfound_mem {i : Nat} (h : KeySearch.run SourceMapEntry.pc p.sourceMap pc = .found i) :
      ∃ pos, p.sourceMap[i]? = some ⟨pc, pos⟩ ∧ ⟨pc, pos⟩ ∈ p.sourceMap := by
    obtain ⟨entry,hentry,rfl⟩ := KeySearch.run_found h
    exact ⟨entry.pos,hentry,List.mem_of_getElem? hentry⟩
  unfold exactPosition?
  constructor
  · intro h
    split at h
    · rename_i i hfound
      obtain ⟨pos,hentry,hmem⟩ := hfound_mem hfound
      rw [hentry] at h
      exact Option.some.inj h ▸ hmem
    · cases h
  · intro hmem
    obtain ⟨i,hfound⟩ := KeySearch.exists_run_found SourceMapEntry.pc hmem
    obtain ⟨pos,hentry,hmem'⟩ := hfound_mem hfound
    have hnodup : (p.sourceMap.map SourceMapEntry.pc).Nodup :=
      List.pairwise_map.mpr (hmap.imp UInt32.ne_of_lt)
    have hsame := List.inj_on_of_nodup_map hnodup hmem' hmem rfl
    simp only [hfound, hentry]
    rw [hsame]
    rfl

namespace Session

variable {s : Session}

theorem breakpointsAt_eq_filter (s : Session) (script : ScriptId) (offset : UInt32) :
    s.breakpointsAt script offset =
      s.breakpoints.filter fun b => (script, offset) ∈ b.resolved := by
  refine List.filter_congr fun b _ => ?_
  rw [Bool.eq_iff_iff, Breakpoint.hits_iff, decide_eq_true_iff]

def watch (host : Host σ) (s : Session) : List (Visit σ) → List (Session × Bool)
  | [] => []
  | v :: rest =>
      let answer := (s.onInstruction host v.point v.frames v.host).1
      answer :: answer.1.watch host rest

def released (s : Session) (r : Resumption) (start : Nat) : Session :=
  { s with step := r.step? start, paused := none, events := s.events ++ [.resumed] }

def halted (s : Session) (v : Visit σ) (hit : List Breakpoint) : Session :=
  { s with
    step := none
    pauseRequested := false
    paused := some ⟨v.frames, v.point.depth⟩
    events := s.events ++ [.paused ⟨v.frames, .other, none, hit.map Breakpoint.id⟩] }

theorem execute_resumption {state : PauseState} (hp : s.paused = some state)
    (hstep : s.step = none) (r : Resumption) (h : σ) :
    s.execute host r.command h = (.ok (s.released r state.depth, .done), h) := by
  have hpaused : s.requirePaused = .ok state := requirePaused_eq_ok_iff.mpr hp
  cases r with
  | step kind =>
    simp only [Resumption.command, execute, takeStep, hpaused]
    rfl
  | resume =>
    have hnext : s.released .resume state.depth = s.resumed := by
      simp only [released, resumed, Resumption.step?, ← hstep]
    simp only [Resumption.command, execute, resume, hpaused, hnext]
    rfl

theorem handle_resumption (on : s.enabled = true) {state : PauseState}
    (hp : s.paused = some state) (hstep : s.step = none) (r : Resumption) (id : UInt64)
    (params : Json) (h : σ) :
    s.handle host ⟨id, r.method, params⟩ h =
      ((s.released r state.depth, ⟨some id, .result (.object [])⟩), h) := by
  have hd : s.dispatch host r.method params h = (.ok (s.released r state.depth, .done), h) := by
    rw [dispatch_eq_execute (r.ofMethod_method params) fun _ => on]
    exact execute_resumption hp hstep r h
  exact handle_of_ok (r := ⟨id, r.method, params⟩) hd

structure Running (s : Session) (r : Resumption) (start : Nat) : Prop where
  on : s.enabled = true
  unpaused : s.paused = none
  quiet : s.pauseRequested = false
  step : s.step = r.step? start

variable {r : Resumption} {start : Nat} {v : Visit σ} {hit : List Breakpoint}

theorem Running.stepReached_iff (hs : s.Running r start) (depth : Nat) :
    s.stepReached depth = true ↔ r.Reaches start depth := by
  unfold stepReached
  rw [hs.step]
  cases r with
  | step kind => cases kind <;> simp [Resumption.step?, Resumption.Reaches, Step.reached]
  | resume => simp [Resumption.step?, Resumption.Reaches]

theorem Running.candidates?_eq (hs : s.Running r start) {point : ExecutionPoint} {offset : UInt32}
    (hoffset : point.program.exactPosition? point.pc = some offset) :
    s.candidates? point =
      if (s.breakpointsAt point.scriptId offset).isEmpty && !s.stepReached point.depth then none
      else some (s.breakpointsAt point.scriptId offset) := by
  simp [candidates?, isPaused, hs.on, hs.unpaused, hs.quiet, hoffset]

theorem Running.onInstruction_eq (hs : s.Running r start) {offset : UInt32}
    (hoffset : v.point.program.exactPosition? v.point.pc = some offset)
    (hj : Judged host v.frames.head? v.host (s.breakpointsAt v.point.scriptId offset) hit) :
    (s.onInstruction host v.point v.frames v.host).1 =
      if hit.isEmpty && !s.stepReached v.point.depth then (s, false)
      else (s.halted v hit, true) := by
  have hcandidates := hs.candidates?_eq hoffset
  split at hcandidates
  · -- with nothing bound here the host is not even asked
    rename_i hidle
    obtain ⟨hempty,hstep⟩ := Bool.and_eq_true_iff.mp hidle
    rw [List.isEmpty_iff.mp hempty] at hj
    cases hj
    rw [onInstruction_of_none hcandidates, hstep]
    rfl
  · obtain ⟨h',htaken⟩ := hj.taken_eq
    rw [onInstruction_of_some hcandidates htaken, hs.quiet, List.isEmpty_map, Bool.not_false,
      Bool.and_true]
    rfl

theorem Running.onInstruction_of_stops (hs : s.Running r start)
    (hmap : v.point.program.sourceMap.Pairwise fun x y => x.pc < y.pc)
    (hv : v.Stops host s.breakpoints r start hit) :
    (s.onInstruction host v.point v.frames v.host).1 = (s.halted v hit, true) := by
  obtain ⟨⟨offset,hmem,hj⟩,hreason⟩ := hv
  rw [← breakpointsAt_eq_filter] at hj
  rw [hs.onInstruction_eq ((Program.exactPosition?_eq_some_iff hmap).mpr hmem) hj, if_neg]
  rw [← hs.stepReached_iff] at hreason
  rcases hreason with hstep | hhit
  · simp [hstep]
  · simp [hhit]

theorem Running.onInstruction_of_passes (hs : s.Running r start)
    (hmap : v.point.program.sourceMap.Pairwise fun x y => x.pc < y.pc)
    (hv : ∀ hit, ¬v.Stops host s.breakpoints r start hit) :
    (s.onInstruction host v.point v.frames v.host).1 = (s, false) := by
  cases hoffset : v.point.program.exactPosition? v.point.pc with
  | none =>
    have hcandidates : s.candidates? v.point = none := by
      simp [candidates?, hoffset]
    rw [onInstruction_of_none hcandidates]
  | some offset =>
    have hmem := (Program.exactPosition?_eq_some_iff hmap).mp hoffset
    obtain ⟨hit,hj⟩ := exists_judged host v.frames.head? v.host
      (s.breakpointsAt v.point.scriptId offset)
    have hnot : ¬(r.Reaches start v.point.depth ∨ hit ≠ []) :=
      fun hreason => hv hit ⟨⟨offset,hmem,breakpointsAt_eq_filter s _ _ ▸ hj⟩,hreason⟩
    rw [← hs.stepReached_iff] at hnot
    rw [hs.onInstruction_eq hoffset hj, if_pos]
    simpa [and_comm] using hnot

theorem onInstruction_of_isPaused (hp : s.isPaused = true) (host : Host σ) (v : Visit σ) :
    (s.onInstruction host v.point v.frames v.host).1 = (s, false) := by
  have hcandidates : s.candidates? v.point = none := by
    simp [candidates?, hp]
  rw [onInstruction_of_none hcandidates]

theorem watch_of_isPaused (hp : s.isPaused = true) (host : Host σ) (visits : List (Visit σ)) :
    s.watch host visits = visits.map fun _ => (s, false) := by
  induction visits with
  | nil => rfl
  | cons v rest ih =>
    simp only [watch, onInstruction_of_isPaused hp, ih, List.map_cons]

theorem Running.watch_eq (hs : s.Running r start) {visits : List (Visit σ)}
    (hmaps : ∀ v ∈ visits, v.point.program.sourceMap.Pairwise fun x y => x.pc < y.pc) :
    (∀ v ∈ visits, ∀ hit, ¬v.Stops host s.breakpoints r start hit) ∧
        s.watch host visits = visits.map (fun _ => (s, false)) ∨
      ∃ before v after hit, visits = before ++ v :: after ∧
        (∀ u ∈ before, ∀ hit, ¬u.Stops host s.breakpoints r start hit) ∧
        v.Stops host s.breakpoints r start hit ∧
        s.watch host visits = before.map (fun _ => (s, false)) ++
          (s.halted v hit, true) :: after.map fun _ => (s.halted v hit, false) := by
  induction visits with
  | nil => exact .inl ⟨nofun,rfl⟩
  | cons v rest ih =>
    have hmap := hmaps v List.mem_cons_self
    by_cases hv : ∃ hit, v.Stops host s.breakpoints r start hit
    · obtain ⟨hit,hv⟩ := hv
      refine .inr ⟨[],v,rest,hit,rfl,nofun,hv,?_⟩
      have hpaused : (s.halted v hit).isPaused = true := rfl
      simp only [watch, hs.onInstruction_of_stops hmap hv, watch_of_isPaused hpaused,
        List.map_nil, List.nil_append]
    · replace hv : ∀ hit, ¬v.Stops host s.breakpoints r start hit := fun hit h => hv ⟨hit,h⟩
      -- the session is still the same one, so the first stop of the rest is the first of all
      have hwatch : s.watch host (v :: rest) = (s, false) :: s.watch host rest := by
        simp only [watch, hs.onInstruction_of_passes hmap hv]
      rcases ih fun u hu => hmaps u (List.mem_cons_of_mem v hu) with
        ⟨hnone,hrest⟩ | ⟨before,u,after,hit,rfl,hbefore,hu,hrest⟩
      · exact .inl ⟨List.forall_mem_cons.mpr ⟨hv,hnone⟩,by rw [hwatch, hrest, List.map_cons]⟩
      · refine .inr ⟨v :: before,u,after,hit,rfl,List.forall_mem_cons.mpr ⟨hv,hbefore⟩,hu,?_⟩
        rw [hwatch, hrest, List.map_cons, List.cons_append]

theorem pauses_at_first_stop (hs : Reachable host s) {state : PauseState}
    (hp : s.paused = some state) (r : Resumption) (id : UInt64) (params : Json) (h : σ)
    {visits : List (Visit σ)}
    (hmaps : ∀ v ∈ visits, v.point.program.sourceMap.Pairwise fun x y => x.pc < y.pc) :
    let t := s.released r state.depth
    s.handle host ⟨id, r.method, params⟩ h = ((t, ⟨some id, .result (.object [])⟩), h) ∧
      ((∀ v ∈ visits, ∀ hit, ¬v.Stops host s.breakpoints r state.depth hit) ∧
          t.watch host visits = visits.map (fun _ => (t, false)) ∨
        ∃ before v after hit, visits = before ++ v :: after ∧
          (∀ u ∈ before, ∀ hit, ¬u.Stops host s.breakpoints r state.depth hit) ∧
          v.Stops host s.breakpoints r state.depth hit ∧
          t.watch host visits = before.map (fun _ => (t, false)) ++
            (t.halted v hit, true) :: after.map fun _ => (t.halted v hit, false)) := by
  intro t
  have hpaused : s.isPaused = true := by
    rw [isPaused, hp]
    rfl
  have hon : s.enabled = true := hs.settled.enabled_of_paused hpaused
  obtain ⟨hstep,hquiet⟩ := hs.settled.waiting hpaused
  have hrunning : t.Running r state.depth := ⟨hon,rfl,hquiet,rfl⟩
  exact ⟨handle_resumption hon hp hstep r id params h,hrunning.watch_eq hmaps⟩

def pausedOnFirstLine : List (Action × Unit) :=
  [(.register page, ()), calling "Debugger.enable" [], calling "Debugger.pause" [],
    (.instruction ⟨"1", page, 0, 0⟩ [], ())]

def pausedBeforeBreakpoint : List (Action × Unit) :=
  [(.register page, ()), calling "Debugger.enable" [], secondLine, calling "Debugger.pause" [],
    (.instruction ⟨"1", page, 0, 0⟩ [], ())]

def insideFunction : Visit Unit :=
  ⟨⟨"1", ⟨"g", pageSource, [], [], [⟨0, 4⟩]⟩, 0, 1⟩, [], ()⟩

def afterCall : Visit Unit :=
  ⟨⟨"1", page, 1, 0⟩, [], ()⟩

theorem split_pair {α : Type} {u v w : α} {before after : List α}
    (h : [u, v] = before ++ w :: after) :
    before = [] ∧ w = u ∨ before = [u] ∧ w = v ∧ after = [] := by
  cases before with
  | nil => exact .inl ⟨rfl,(List.cons.inj h).1.symm⟩
  | cons x before =>
    obtain ⟨rfl,hrest⟩ := List.cons.inj h
    obtain ⟨rfl,hend⟩ | ⟨-,hend⟩ := List.append_eq_singleton_iff.mp hrest.symm
    · obtain ⟨rfl,rfl⟩ := List.cons.inj hend
      exact .inr ⟨rfl,rfl,rfl⟩
    · cases hend

theorem pauses_after_call_and_at_breakpoint :
    (let s := (initial.run Host.detached pausedOnFirstLine).1
      let t := (s.handle Host.detached ⟨2, "Debugger.stepOver", .null⟩ ()).1.1
      t.watch Host.detached [insideFunction, afterCall] =
        [(t, false), (t.halted afterCall [], true)]) ∧
    (let s := (initial.run Host.detached pausedBeforeBreakpoint).1
      let t := (s.handle Host.detached ⟨2, "Debugger.resume", .null⟩ ()).1.1
      t.watch Host.detached [afterCall, insideFunction] =
        [(t, false), (t.halted insideFunction [secondLineBreakpoint], true)]) := by
  constructor
  · intro s t
    have hdepth : s.paused.map PauseState.depth = some 0 := by decide +kernel
    have hbreakpoints : s.breakpoints = [] := by decide +kernel
    obtain ⟨state,hp,hzero⟩ := Option.map_eq_some_iff.mp hdepth
    have hmaps : ∀ v ∈ [insideFunction, afterCall],
        v.point.program.sourceMap.Pairwise fun x y => x.pc < y.pc := by decide
    obtain ⟨hhandle,hwatch⟩ :=
      pauses_at_first_stop ⟨pausedOnFirstLine,rfl⟩ hp (.step .over) 2 .null () hmaps
    have ht : t = s.released (.step .over) state.depth := congrArg (·.1.1) hhandle
    rw [← ht, hbreakpoints, hzero] at hwatch
    rcases hwatch with ⟨hnone,-⟩ | ⟨before,v,after,hit,hvisits,hbefore,hv,hwatch⟩
    · refine absurd ?_ (hnone afterCall (by simp) [])
      exact ⟨⟨2,by decide,.nil ()⟩,.inl (Nat.le_refl 0)⟩
    · obtain ⟨⟨offset,-,hj⟩,hreason⟩ := hv
      cases hj
      rcases split_pair hvisits with ⟨rfl,rfl⟩ | ⟨rfl,rfl,rfl⟩
      · revert hreason
        simp [Resumption.Reaches, insideFunction]
      · exact hwatch
  · intro s t
    have hpaused : s.isPaused = true := by decide +kernel
    have hbreakpoints : s.breakpoints = [secondLineBreakpoint] := by decide +kernel
    obtain ⟨state,hp⟩ := Option.isSome_iff_exists.mp hpaused
    have hmaps : ∀ v ∈ [afterCall, insideFunction],
        v.point.program.sourceMap.Pairwise fun x y => x.pc < y.pc := by decide
    obtain ⟨hhandle,hwatch⟩ :=
      pauses_at_first_stop ⟨pausedBeforeBreakpoint,rfl⟩ hp .resume 2 .null () hmaps
    have ht : t = s.released .resume state.depth := congrArg (·.1.1) hhandle
    rw [← ht, hbreakpoints] at hwatch
    rcases hwatch with ⟨hnone,-⟩ | ⟨before,v,after,hit,hvisits,hbefore,hv,hwatch⟩
    · refine absurd ?_ (hnone insideFunction (by simp) [secondLineBreakpoint])
      exact ⟨⟨4,by decide,.taken (.unconditional rfl) (.nil ())⟩,.inr (List.cons_ne_nil _ _)⟩
    · obtain ⟨⟨offset,hmem,hj⟩,hreason⟩ := hv
      rcases split_pair hvisits with ⟨rfl,rfl⟩ | ⟨rfl,rfl,rfl⟩
      · obtain rfl : offset = 2 := by simpa [afterCall, page] using hmem
        cases hj
        simp [Resumption.Reaches] at hreason
      · obtain rfl : offset = 4 := by simpa [insideFunction] using hmem
        cases hj with
        | taken verdict rest =>
          cases rest
          exact hwatch
        | passed verdict rest =>
          cases verdict.isTaken_eq.symm.trans (Judges.unconditional rfl).isTaken_eq

end Session

end ScriptCache
