import ScriptCache.Proofs.Inspector.Binding
import ScriptCache.Proofs.Inspector.Mode

namespace ScriptCache

namespace Event

def parsed? : Event → Option ScriptParsed
  | .scriptParsed e => some e
  | _ => none

def pauses? : Event → Option Bool
  | .paused _ => some true
  | .resumed => some false
  | _ => none

def Announced (log : List Event) : Prop :=
  ∀ before e after, log = before ++ .breakpointResolved e :: after →
    ∃ p, .scriptParsed p ∈ before ∧ p.scriptId = e.location.scriptId

def Alternate (log : List Event) : Prop :=
  (false :: log.filterMap pauses?).IsChain (· ≠ ·)

end Event

open Event (Announced Alternate)

theorem Event.Announced.append {log new : List Event} (hlog : Announced log)
    (hnew : ∀ e, .breakpointResolved e ∈ new →
      ∃ p, .scriptParsed p ∈ log ∧ p.scriptId = e.location.scriptId) :
    Announced (log ++ new) := by
  intro before e after hsplit
  obtain ⟨rest,rfl,hrest⟩ | ⟨rest,rfl,hrest⟩ := List.append_eq_append_iff.mp hsplit
  · obtain ⟨p,hp,hid⟩ := hnew e (by simp [hrest])
    exact ⟨p,List.mem_append_left _ hp,hid⟩
  · cases rest with
    | nil =>
      have hmem : .breakpointResolved e ∈ new := by
        rw [List.nil_append] at hrest
        exact hrest ▸ List.mem_cons_self
      obtain ⟨p,hp,hid⟩ := hnew e hmem
      exact ⟨p,by rwa [List.append_nil] at hp,hid⟩
    | cons first rest =>
      obtain ⟨rfl,-⟩ := List.cons.inj hrest
      exact hlog before e rest rfl

namespace Session

variable {σ : Type} {host : Host σ} {s next : Session} {a : Action} {batch log new : List Event}

inductive News (s next : Session) : List Event → Prop
  | none (scripts : next.scripts = s.scripts) (paused : next.isPaused = s.isPaused) :
      News s next []
  | script (script : Script) (scripts : next.scripts = s.scripts ++ [script])
      (paused : next.isPaused = s.isPaused) :
      News s next
        (.scriptParsed script.parsed :: s.breakpoints.filterMap fun b => b.resolvedEvent? script)
  | paused (e : Paused) (scripts : next.scripts = s.scripts) (running : s.isPaused = false)
      (waiting : next.isPaused = true) : News s next [.paused e]
  | resumed (scripts : next.scripts = s.scripts) (waiting : s.isPaused = true)
      (running : next.isPaused = false) : News s next [.resumed]

theorem Move.news (hm : Move s a next batch) (on : s.enabled = true)
    (ha : ¬a.Calls "Debugger.disable") :
    next.enabled = true ∧ ∃ new, batch ++ next.events = s.events ++ new ∧ News s next new := by
  cases hm with
  | register p given =>
    refine ⟨on,_,?_,.script (.ofProgram (toString s.nextScriptId) p) rfl rfl⟩
    simp [Session.register, registrationEvents, on]
  | pause reason data hit frames depth on' running =>
    refine ⟨on,_,rfl,.paused _ rfl ?_ rfl⟩
    rw [isPaused, running]
    rfl
  | drain => exact ⟨on,[],rfl,.none rfl rfl⟩
  | enable off => cases off.symm.trans on
  | disable on' asked => exact absurd asked ha
  | resume on' waiting => exact ⟨on,_,rfl,.resumed rfl waiting rfl⟩
  | takeStep step on' waiting => exact ⟨on,_,rfl,.resumed rfl waiting rfl⟩
  | _ => exact ⟨on,[],by simp,.none rfl rfl⟩

structure Told (s : Session) (log : List Event) : Prop where
  on : s.enabled = true
  parsed : log.filterMap Event.parsed? = s.scripts.map Script.parsed
  announced : Announced log
  alternate : Alternate log
  paused : (log.filterMap Event.pauses?).getLast?.getD false = s.isPaused

theorem Told.append_mark (hs : s.Told log) {e : Event} (hon : next.enabled = true)
    (hscripts : next.scripts = s.scripts) (hmark : e.pauses? = some next.isPaused)
    (hturn : s.isPaused ≠ next.isPaused) : next.Told (log ++ [e]) := by
  have hmarks : (log ++ [e]).filterMap Event.pauses? =
      log.filterMap Event.pauses? ++ [next.isPaused] := by
    simp [hmark]
  have hother : e.parsed? = none ∧ ∀ b, e ≠ .breakpointResolved b := by
    cases e with
    | paused p => exact ⟨rfl,nofun⟩
    | resumed => exact ⟨rfl,nofun⟩
    | _ => cases hmark
  refine ⟨hon,?_,hs.announced.append ?_,?_,?_⟩
  · simpa [hother.1, hscripts] using hs.parsed
  · intro b hb
    exact absurd (List.mem_singleton.mp hb).symm (hother.2 b)
  · rw [Alternate, hmarks, ← List.cons_append, List.isChain_append]
    refine ⟨hs.alternate,List.isChain_singleton _,?_⟩
    rw [List.getLast?_cons, hs.paused]
    simpa using hturn
  · simp [hmarks]

theorem Told.append_parsed (hs : s.Told log) {script : Script} (hon : next.enabled = true)
    (hscripts : next.scripts = s.scripts ++ [script]) (hpaused : next.isPaused = s.isPaused) :
    next.Told (log ++ [.scriptParsed script.parsed]) := by
  have hmarks : (log ++ [Event.scriptParsed script.parsed]).filterMap Event.pauses? =
      log.filterMap Event.pauses? := by
    simp [Event.pauses?]
  refine ⟨hon,?_,hs.announced.append (by simp),?_,?_⟩
  · rw [List.filterMap_append, hs.parsed, hscripts, List.map_append]
    rfl
  · rw [Alternate, hmarks]
    exact hs.alternate
  · rw [hmarks, hs.paused, hpaused]

theorem Told.append_resolved (hs : s.Told log) {script : Script}
    (hscript : .scriptParsed script.parsed ∈ log) (breakpoints : List Breakpoint) :
    s.Told (log ++ breakpoints.filterMap fun b => b.resolvedEvent? script) := by
  have hresolved : ∀ e ∈ breakpoints.filterMap fun b => b.resolvedEvent? script,
      ∃ id offset, e = .breakpointResolved ⟨id, script.location offset⟩ := by
    intro e he
    obtain ⟨b,-,hb⟩ := List.mem_filterMap.mp he
    obtain ⟨offset,-,rfl⟩ := Option.map_eq_some_iff.mp hb
    exact ⟨b.id,offset,rfl⟩
  generalize breakpoints.filterMap _ = new at hresolved ⊢
  have hparsed : new.filterMap Event.parsed? = [] := by
    apply List.filterMap_eq_nil_iff.mpr
    intro e he
    obtain ⟨id,offset,rfl⟩ := hresolved e he
    rfl
  have hmarks : new.filterMap Event.pauses? = [] := by
    apply List.filterMap_eq_nil_iff.mpr
    intro e he
    obtain ⟨id,offset,rfl⟩ := hresolved e he
    rfl
  refine ⟨hs.on,?_,hs.announced.append ?_,?_,?_⟩
  · rw [List.filterMap_append, hparsed, List.append_nil, hs.parsed]
  · intro b hb
    obtain ⟨id,offset,hb⟩ := hresolved _ hb
    cases hb
    exact ⟨script.parsed,hscript,rfl⟩
  · rw [Alternate, List.filterMap_append, hmarks, List.append_nil]
    exact hs.alternate
  · rw [List.filterMap_append, hmarks, List.append_nil, hs.paused]

theorem Told.news (hs : s.Told log) (hon : next.enabled = true) (hnew : News s next new) :
    next.Told (log ++ new) := by
  cases hnew with
  | none scripts paused =>
    rw [List.append_nil]
    exact ⟨hon,by rw [scripts, hs.parsed],hs.announced,hs.alternate,by rw [paused, hs.paused]⟩
  | script script scripts paused =>
    -- the script is announced before any breakpoint that is bound in it
    rw [List.append_cons]
    exact (hs.append_parsed hon scripts paused).append_resolved (by simp) s.breakpoints
  | paused e scripts running waiting =>
    exact hs.append_mark hon scripts (by rw [waiting]; rfl) (by rw [running, waiting]; decide)
  | resumed scripts waiting running =>
    exact hs.append_mark hon scripts (by rw [running]; rfl) (by rw [running, waiting]; decide)

theorem Told.perform (hs : s.Told (log ++ s.events)) (ha : ¬a.Calls "Debugger.disable") (h : σ) :
    (s.perform host a h).1.1.Told
      ((log ++ (s.perform host a h).1.2) ++ (s.perform host a h).1.1.events) := by
  obtain ⟨hon,new,hevents,hnew⟩ := (perform_move host s a h).news hs.on ha
  rw [List.append_assoc, hevents, ← List.append_assoc]
  exact hs.news hon hnew

theorem told_enable (hs : s.Blank) (hoff : s.enabled = false) : s.enable.Told s.enable.events := by
  have henable : s.enable =
      { s with
        enabled := true
        events := s.scripts.map fun script => .scriptParsed script.parsed } := by
    rw [enable_of_disabled hoff, hs.events, List.nil_append]
  have hmarks : s.enable.events.filterMap Event.pauses? = [] := by
    simp [henable, Event.pauses?]
  refine ⟨by rw [henable],?_,?_,?_,?_⟩
  · simp [henable, List.filterMap_map, Function.comp_def, Event.parsed?]
  · intro before e after hsplit
    have hmem : .breakpointResolved e ∈ s.enable.events := by simp [hsplit]
    simp [henable] at hmem
  · rw [Alternate, hmarks]
    exact List.isChain_singleton _
  · rw [hmarks, henable, isPaused, hs.paused]
    rfl

theorem told_run (hs : s.Blank) (hoff : s.enabled = false) {stretch : List (Action × σ)}
    (hstretch : ∀ step ∈ stretch, ¬step.1.Calls "Debugger.disable") :
    (s.enable.run host stretch).1.Told
      ((s.enable.run host stretch).2 ++ (s.enable.run host stretch).1.events) := by
  -- along the stretch, what was handed over and what is queued make up what was told
  refine run_history (P := fun past t handed => (∀ step ∈ past, ¬step.1.Calls "Debugger.disable") →
    t.Told (handed ++ t.events)) (fun _ => told_enable hs hoff) ?_ stretch hstretch
  intro past t handed a h ht hpast
  have hpast' : ∀ step ∈ past, ¬step.1.Calls "Debugger.disable" :=
    fun step hstep => hpast step (List.mem_append_left _ hstep)
  exact (ht hpast').perform (hpast (a, h) (by simp)) h

theorem perform_enable (ha : a.Calls "Debugger.enable") (host : Host σ) (s : Session) (h : σ) :
    (s.perform host a h).1 = (s.enable, []) := by
  obtain ⟨r,hr,hmethod⟩ := ha
  have hd : s.dispatch host r.method r.params h = (.ok (s.enable, .enabled debuggerId), h) := by
    rw [hmethod, dispatch_eq_execute (c := .enable) rfl nofun]
    rfl
  rw [perform_of_request hr, serve_of_ok hd]
  rfl

theorem handle_drainEvents {r : Request} (hr : r.method = "Inspector.drainEvents")
    (host : Host σ) (s : Session) (h : σ) :
    s.serve host r h = (s.drain, h) ∧
      s.handle host r h =
        ((s.drain.1, ⟨some r.id, .result (Reply.events s.drain.2).toJson.canonical⟩), h) := by
  have hd : s.dispatch host r.method r.params h = (.ok (s.drain.1, .events s.drain.2), h) := by
    rw [hr, dispatch_eq_execute (c := .drainEvents) rfl nofun]
    rfl
  exact ⟨serve_of_ok hd,handle_of_ok hd⟩

theorem events_delivered (host : Host σ) {before stretch : List (Action × σ)} {a : Action} (h : σ)
    (hoff : (initial.run host before).1.enabled = false) (ha : a.Calls "Debugger.enable")
    (hstretch : ∀ step ∈ stretch, ¬step.1.Calls "Debugger.disable") :
    let stage := (initial.run host before).1.run host ((a, h) :: stretch)
    let log := stage.2 ++ stage.1.events
    let scripts := Script.numbered (registered (before ++ (a, h) :: stretch))
    log.filterMap Event.parsed? = scripts.map Script.parsed ∧
      (scripts.map Script.id).Nodup ∧
      Announced log ∧ Alternate log ∧
      (stage.1.isPaused = true ↔ (log.filterMap Event.pauses?).getLast? = some true) := by
  intro stage log scripts
  have hstage : stage = (initial.run host before).1.enable.run host stretch := by
    simp only [stage, run_cons, perform_enable ha, List.nil_append]
  have hreachable : Reachable host (initial.run host before).1 := ⟨before,rfl⟩
  have htold : stage.1.Told log := by
    simp only [log, hstage]
    exact told_run (hreachable.settled.off hoff) hoff hstretch
  have hnumbers : stage.1.Numbers (registered (before ++ (a, h) :: stretch)) := by
    have hrun := numbers_run host (before ++ (a, h) :: stretch)
    rwa [run_append] at hrun
  have hscripts : stage.1.scripts = scripts := hnumbers.scripts
  refine ⟨?_,?_,htold.announced,htold.alternate,?_⟩
  · rw [htold.parsed, hscripts]
  · rw [← hscripts]
    exact List.pairwise_map.mpr hnumbers.ids_apart
  · rw [← htold.paused]
    cases (log.filterMap Event.pauses?).getLast? <;> simp

def pausedOnce : List (Action × Unit) :=
  [secondLine, calling "Debugger.pause" [], (.instruction ⟨"1", page, 0, 0⟩ [], ()), (.drain, ()),
    calling "Debugger.enable" [], calling "Debugger.resume" [], (.register page, ())]

theorem events_delivered_paused_once :
    let stage := (initial.run Host.detached [(.register page, ())]).1.run Host.detached
      (calling "Debugger.enable" [] :: pausedOnce)
    let log := stage.2 ++ stage.1.events
    log.filterMap Event.parsed? =
        [(Script.ofProgram "1" page).parsed, (Script.ofProgram "2" page).parsed] ∧
      Announced log ∧ Alternate log ∧
      log.map Event.method =
        ["Debugger.scriptParsed", "Debugger.paused", "Debugger.resumed", "Debugger.scriptParsed",
          "Debugger.breakpointResolved"] := by
  have hstretch : ∀ step ∈ pausedOnce, ¬step.1.Calls "Debugger.disable" := by
    simp [pausedOnce, secondLine, calling, Action.Calls, Action.request?]
  have hoff : (initial.run Host.detached [(.register page, ())]).1.enabled = false := rfl
  have henable : (calling "Debugger.enable" []).1.Calls "Debugger.enable" := ⟨_,rfl,rfl⟩
  obtain ⟨hparsed,-,hannounced,halternate,-⟩ :=
    events_delivered Host.detached () hoff henable hstretch
  exact ⟨hparsed,hannounced,halternate,by decide +kernel⟩

end Session

end ScriptCache
