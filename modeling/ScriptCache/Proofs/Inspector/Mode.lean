import ScriptCache.Proofs.Inspector.Move

namespace ScriptCache.Session

structure Blank (s : Session) : Prop where
  breakpoints : s.breakpoints = []
  exceptionPause : s.exceptionPause = .none
  pauseRequested : s.pauseRequested = false
  step : s.step = none
  paused : s.paused = none
  events : s.events = []

structure Settled (s : Session) : Prop where
  off : s.enabled = false → s.Blank
  waiting : s.isPaused = true → s.step = none ∧ s.pauseRequested = false

variable {σ : Type} {host : Host σ} {s next : Session} {a : Action} {batch : List Event}

theorem Settled.of_enabled (on : s.enabled = true)
    (waiting : s.isPaused = true → s.step = none ∧ s.pauseRequested = false) : s.Settled := by
  refine ⟨?_,waiting⟩
  intro hoff
  rw [on] at hoff
  cases hoff

theorem Settled.enabled_of_paused (hs : s.Settled) (hp : s.isPaused = true) :
    s.enabled = true := by
  cases hon : s.enabled with
  | true => rfl
  | false =>
    rw [isPaused, (hs.off hon).paused] at hp
    cases hp

theorem settled_initial : Settled initial :=
  ⟨fun _ => ⟨rfl,rfl,rfl,rfl,rfl,rfl⟩,nofun⟩

theorem Blank.register (hs : s.Blank) (hoff : s.enabled = false) (p : Program) :
    (s.register p).1.Blank := by
  refine { hs with breakpoints := ?_, events := ?_ }
  · simp [Session.register, hs.breakpoints]
  · simp [Session.register, registrationEvents, hs.events, hoff]

theorem Settled.move (hs : s.Settled) (hm : Move s a next batch) : next.Settled := by
  cases hm with
  | idle => exact hs
  | register p given => exact ⟨fun hoff => (hs.off hoff).register hoff p,hs.waiting⟩
  | pause reason data hit frames depth on running => exact .of_enabled on fun _ => ⟨rfl,rfl⟩
  | drain => exact ⟨fun hoff => { hs.off hoff with events := rfl },hs.waiting⟩
  | enable off => exact .of_enabled rfl hs.waiting
  | disable on asked => exact ⟨fun _ => ⟨rfl,rfl,rfl,rfl,rfl,rfl⟩,nofun⟩
  | setBreakpoint condition on known place stop free => exact .of_enabled on hs.waiting
  | setBreakpointByUrl url condition on place fresh => exact .of_enabled on hs.waiting
  | removeBreakpoint id on => exact .of_enabled on hs.waiting
  | requestPause on running =>
    refine .of_enabled on fun hp => ?_
    cases running.symm.trans hp
  | resume on waiting => exact .of_enabled on nofun
  | takeStep step on waiting => exact .of_enabled on nofun
  | setExceptionPause state on => exact .of_enabled on hs.waiting

theorem Reachable.settled (hs : Reachable host s) : s.Settled :=
  hs.induction settled_initial fun _ _ _ _ hm h => h.move hm

end ScriptCache.Session
