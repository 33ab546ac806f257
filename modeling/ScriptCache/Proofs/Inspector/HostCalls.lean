import ScriptCache.Proofs.Inspector.Mode

namespace ScriptCache

variable {σ α β : Type} {host : Host σ}

def Logs (allowed : HostCall → Prop) (x : StateM σ α) (y : StateM (σ × List HostCall) α) : Prop :=
  ∀ h calls, ∃ made, y (h, calls) = ((x h).1, (x h).2, calls ++ made) ∧ ∀ c ∈ made, allowed c

namespace Logs

variable {allowed : HostCall → Prop}

theorem pure (a : α) : Logs allowed (σ := σ) (Pure.pure a) (Pure.pure a) := by
  intro h calls
  exact ⟨[],by rw [List.append_nil]; rfl,nofun⟩

theorem bind {x : StateM σ α} {y : StateM (σ × List HostCall) α} {f : α → StateM σ β}
    {g : α → StateM (σ × List HostCall) β} (hx : Logs allowed x y)
    (hf : ∀ a, Logs allowed (f a) (g a)) : Logs allowed (x >>= f) (y >>= g) := by
  intro h calls
  obtain ⟨first,hfirst,hallowed⟩ := hx h calls
  obtain ⟨rest,hrest,hallowed'⟩ := hf (x h).1 (x h).2 (calls ++ first)
  refine ⟨first ++ rest,?_,List.forall_mem_append.mpr ⟨hallowed,hallowed'⟩⟩
  change (g (y (h, calls)).1) (y (h, calls)).2 = _
  rw [hfirst, hrest, List.append_assoc]
  rfl

theorem evaluate {frame : CallFrameId} {expression : String}
    (hcall : allowed (.evaluate frame expression)) :
    Logs allowed (host.evaluate frame expression) (host.logged.evaluate frame expression) := by
  intro h calls
  exact ⟨[.evaluate frame expression],rfl,by simpa using hcall⟩

theorem properties {object : ObjectId} {own : Bool} (hcall : allowed (.properties object own)) :
    Logs allowed (host.properties object own) (host.logged.properties object own) := by
  intro h calls
  exact ⟨[.properties object own],rfl,by simpa using hcall⟩

end Logs

namespace Session

inductive MayCall (s : Session) (a : Action) : HostCall → Prop
  | properties (object : ObjectId) (own : Bool) : MayCall s a (.properties object own)
  | frame {state : PauseState} {f : CallFrame} (expression : String)
      (asked : a.Calls "Debugger.evaluateOnCallFrame") (on : s.enabled = true)
      (waiting : s.paused = some state) (listed : f ∈ state.callFrames) :
      MayCall s a (.evaluate f.callFrameId expression)
  | condition {point : ExecutionPoint} {frames : List CallFrame} {top : CallFrame}
      {b : Breakpoint} {expression : String} (given : a = .instruction point frames)
      (on : s.enabled = true) (running : s.paused = none) (supplied : frames.head? = some top)
      (set : b ∈ s.breakpoints) (asked : b.condition = some expression) :
      MayCall s a (.evaluate top.callFrameId expression)

variable {s : Session} {a : Action}

theorem logs_isTaken {allowed : HostCall → Prop} {top : Option CallFrame} {b : Breakpoint}
    (hcall : ∀ frame expression, top = some frame → b.condition = some expression →
      allowed (.evaluate frame.callFrameId expression)) :
    Logs allowed (isTaken host top b) (isTaken host.logged top b) := by
  unfold isTaken
  cases hcondition : b.condition with
  | none => exact .pure true
  | some expression =>
    cases htop : top with
    | none => exact .pure false
    | some frame =>
      refine .bind (.evaluate (hcall frame expression htop hcondition)) fun answer => ?_
      cases answer with
      | ok value => exact .pure value.isTruthy
      | error e => exact .pure false

theorem logs_taken {allowed : HostCall → Prop} {top : Option CallFrame} {list : List Breakpoint}
    (hcall : ∀ b ∈ list, ∀ frame expression, top = some frame → b.condition = some expression →
      allowed (.evaluate frame.callFrameId expression)) :
    Logs allowed (taken host top list) (taken host.logged top list) := by
  induction list with
  | nil => exact .pure []
  | cons b rest ih =>
    obtain ⟨hb,hrest⟩ := List.forall_mem_cons.mp hcall
    exact .bind (logs_isTaken hb) fun first => .bind (ih hrest) fun others => .pure _

theorem logs_onInstruction (point : ExecutionPoint) (frames : List CallFrame)
    (given : a = .instruction point frames) :
    Logs (s.MayCall a) (s.onInstruction host point frames)
      (s.onInstruction host.logged point frames) := by
  unfold onInstruction
  cases hc : s.candidates? point with
  | none => exact .pure (s, false)
  | some hit =>
    obtain ⟨on,running,offset,-,rfl⟩ := candidates?_eq_some hc
    refine .bind (logs_taken ?_) fun ids => ?_
    · intro b hb frame expression htop hcondition
      exact .condition given on running htop (List.mem_filter.mp hb).1 hcondition
    · split <;> exact .pure _

theorem logs_evaluate (asked : a.Calls "Debugger.evaluateOnCallFrame") (on : s.enabled = true)
    (frame : CallFrameId) (expression : String) :
    Logs (s.MayCall a) (s.evaluate host frame expression)
      (s.evaluate host.logged frame expression) := by
  unfold evaluate
  cases hstate : s.requirePaused with
  | error e => exact .pure (refuse e)
  | ok state =>
    dsimp only
    split
    · rename_i hknown
      obtain ⟨f,hf,hid⟩ := List.any_eq_true.mp hknown
      obtain rfl : f.callFrameId = frame := beq_iff_eq.mp hid
      have hcall : s.MayCall a (.evaluate f.callFrameId expression) :=
        .frame expression asked on (requirePaused_eq_ok_iff.mp hstate) hf
      exact .bind (.evaluate hcall) fun answer => .pure _
    · exact .pure _

theorem logs_execute {c : Command} (asked : a.Calls c.method)
    (on : c.anytime = false → s.enabled = true) :
    Logs (s.MayCall a) (s.execute host c) (s.execute host.logged c) := by
  cases c with
  | evaluateOnCallFrame frame expression => exact logs_evaluate asked (on rfl) frame expression
  | getProperties object own accessorsOnly =>
    refine .bind (.properties (.properties object own)) fun list => ?_
    cases list with
    | none => exact .pure _
    | some list => exact .pure _
  | _ => exact .pure _

theorem logs_serve {r : Request} (hr : a.request? = some r) :
    Logs (s.MayCall a) (s.serve host r) (s.serve host.logged r) := by
  have hdispatch : Logs (s.MayCall a) (s.dispatch host r.method r.params)
      (s.dispatch host.logged r.method r.params) := by
    unfold dispatch
    split
    · exact .pure _
    · rename_i hready
      cases hc : Command.ofMethod r.method r.params with
      | error e => exact .pure _
      | ok c =>
        have hmethod := Command.method_of_ofMethod hc
        refine logs_execute ⟨r,hr,hmethod.symm⟩ ?_
        intro hc
        simpa [← hmethod, Command.needsEnabled_method, hc] using hready
  refine .bind hdispatch fun result => ?_
  cases result with
  | ok answer => exact .pure _
  | error e => exact .pure _

theorem logs_perform (host : Host σ) (s : Session) (a : Action) :
    Logs (s.MayCall a) (s.perform host a) (s.perform host.logged a) := by
  cases a with
  | register p => exact .pure _
  | instruction point frames =>
    exact .bind (logs_onInstruction point frames rfl) fun answer => .pure _
  | exception point uncaught thrown frames => exact .pure _
  | drain => exact .pure _
  | request r => exact logs_serve rfl
  | message bytes =>
    cases hr : Request.ofMessage? bytes with
    | none =>
      simp only [perform, hr]
      exact .pure _
    | some r =>
      rw [perform_of_request (a := .message bytes) hr, perform_of_request (a := .message bytes) hr]
      exact logs_serve hr

theorem modes_and_calls (host : Host σ) (actions : List (Action × σ)) :
    let s := (initial.run host actions).1
    (s.enabled = false → s.Blank) ∧
    (s.isPaused = true → s.enabled = true ∧ s.step = none ∧ s.pauseRequested = false) ∧
    ∀ past a h rest, actions = past ++ (a, h) :: rest →
      let t := (initial.run host past).1
      ∃ calls, t.perform host.logged a (h, []) =
          ((t.perform host a h).1, (t.perform host a h).2, calls) ∧
        ∀ c ∈ calls, t.MayCall a c := by
  intro s
  have hsettled : s.Settled := Reachable.settled ⟨actions,rfl⟩
  refine ⟨hsettled.off,?_,?_⟩
  · intro hp
    exact ⟨hsettled.enabled_of_paused hp,hsettled.waiting hp⟩
  · intro past a h rest _ t
    exact logs_perform host t a h []

def topFrame : CallFrame :=
  ⟨"top", "", none, ⟨"1", 0, 0⟩, "a.js", [], .undefined, none⟩

def conditional : List (Action × Unit) :=
  [(.register page, ()), calling "Debugger.enable" [],
    calling "Debugger.setBreakpointByUrl" [("lineNumber", .number (.whole 0)),
      ("url", .string "a.js"), ("condition", .string "x")]]

theorem modes_and_calls_conditional :
    let t := (initial.run Host.detached conditional).1
    let arrive : Action := .instruction ⟨"1", page, 0, 0⟩ [topFrame]
    (t.perform Host.detached.logged arrive ((), [])).2 = ((), [.evaluate "top" "x"]) ∧
      t.MayCall arrive (.evaluate "top" "x") := by
  intro t arrive
  obtain ⟨-,-,hcalls⟩ := modes_and_calls Host.detached (conditional ++ [(arrive, ())])
  obtain ⟨calls,hperform,hallowed⟩ := hcalls conditional arrive () [] rfl
  have hcall : (t.perform Host.detached.logged arrive ((), [])).2 =
      ((), [.evaluate "top" "x"]) := by
    decide +kernel
  refine ⟨hcall,hallowed _ ?_⟩
  change t.perform Host.detached.logged arrive ((), []) = _ at hperform
  rw [hperform] at hcall
  obtain rfl : calls = [.evaluate "top" "x"] := (Prod.mk.inj hcall).2
  exact List.mem_singleton_self _

end Session

end ScriptCache
