import ScriptCache.Inspector.Dispatch

namespace ScriptCache

inductive Action where
  | register (program : Program)
  | instruction (point : ExecutionPoint) (frames : List CallFrame)
  | exception (point : ExecutionPoint) (uncaught : Bool) (thrown : RemoteObject)
      (frames : List CallFrame)
  | drain
  | request (request : Request)
  | message (bytes : List UInt8)

def Reply.batch : Reply → List Event
  | .events list => list
  | _ => []

def Request.ofMessage? (bytes : List UInt8) : Option Request :=
  match Session.messageText bytes >>= Json.parse with
  | .error _ => none
  | .ok v => (decoder.run v).toOption

namespace Action

def request? : Action → Option Request
  | .request r => some r
  | .message bytes => Request.ofMessage? bytes
  | _ => none

def Calls (a : Action) (method : String) : Prop :=
  ∃ r, a.request? = some r ∧ r.method = method

end Action

namespace Session

variable {σ : Type} {host : Host σ} {s : Session}

/-- Carries out a request, as `handle` does; gives the events that the response hands over. -/
def serve (host : Host σ) (s : Session) (request : Request) : StateM σ (Session × List Event) := do
  match ← s.dispatch host request.method request.params with
  | .ok (next, reply) => return (next, reply.batch)
  | .error _ => return (s, [])

def perform (host : Host σ) (s : Session) : Action → StateM σ (Session × List Event)
  | .register p => return ((s.register p).1, [])
  | .instruction point frames => return ((← s.onInstruction host point frames).1, [])
  | .exception point uncaught thrown frames =>
      return ((s.onException point uncaught thrown frames).1, [])
  | .drain => return s.drain
  | .request request => s.serve host request
  | .message bytes =>
      match Request.ofMessage? bytes with
      | some request => s.serve host request
      | none => return (s, [])

/-- Each action comes with the state that it finds the host in, which the executor may have changed
since the action before. Gives the session at the end and all events that were handed over. -/
def run (host : Host σ) (s : Session) : List (Action × σ) → Session × List Event
  | [] => (s, [])
  | (a, h) :: rest =>
      let (next, batch) := (s.perform host a h).1
      let (last, batches) := next.run host rest
      (last, batch ++ batches)

def Reachable (host : Host σ) (s : Session) : Prop :=
  ∃ actions : List (Action × σ), (initial.run host actions).1 = s

section Replies

variable {r : Request} {h h' : σ} {next : Session} {reply : Reply} {e : ProtocolError}

theorem handle_of_ok (hd : s.dispatch host r.method r.params h = (.ok (next, reply), h')) :
    s.handle host r h = ((next, ⟨some r.id, .result reply.toJson.canonical⟩), h') := by
  simp only [handle, bind, StateT.bind, hd]
  rfl

theorem handle_of_error (hd : s.dispatch host r.method r.params h = (.error e, h')) :
    s.handle host r h = ((s, ⟨some r.id, .error e⟩), h') := by
  simp only [handle, bind, StateT.bind, hd]
  rfl

theorem serve_of_ok (hd : s.dispatch host r.method r.params h = (.ok (next, reply), h')) :
    s.serve host r h = ((next, reply.batch), h') := by
  simp only [serve, bind, StateT.bind, hd]
  rfl

theorem serve_of_error (hd : s.dispatch host r.method r.params h = (.error e, h')) :
    s.serve host r h = ((s, []), h') := by
  simp only [serve, bind, StateT.bind, hd]
  rfl

end Replies

theorem perform_request (host : Host σ) (s : Session) (r : Request) (h : σ) :
    (s.perform host (.request r) h).1.1 = (s.handle host r h).1.1 := by
  change (s.serve host r h).1.1 = _
  rcases hd : s.dispatch host r.method r.params h with ⟨e | ⟨next,reply⟩,h'⟩
  · rw [serve_of_error hd, handle_of_error hd]
  · rw [serve_of_ok hd, handle_of_ok hd]

theorem handleMessage_of_request {bytes : List UInt8} {r : Request}
    (hr : Request.ofMessage? bytes = some r) : s.handleMessage host bytes = s.handle host r := by
  cases hv : messageText bytes >>= Json.parse with
  | error f => simp [Request.ofMessage?, hv] at hr
  | ok v =>
    cases hread : Request.decoder.run v with
    | error e => simp [Request.ofMessage?, hv, hread, Except.toOption] at hr
    | ok request =>
      obtain rfl : request = r := by
        simpa [Request.ofMessage?, hv, hread, Except.toOption] using hr
      simp only [handleMessage, hv, hread]

theorem handleMessage_of_none {bytes : List UInt8} (hr : Request.ofMessage? bytes = none) (h : σ) :
    ∃ id e, s.handleMessage host bytes h = ((s, ⟨id, .error e⟩), h) := by
  cases hv : messageText bytes >>= Json.parse with
  | error f => exact ⟨none,_,by simp only [handleMessage, hv]; rfl⟩
  | ok v =>
    cases hread : Request.decoder.run v with
    | error e => exact ⟨claimedId? v,_,by simp only [handleMessage, hv, hread]; rfl⟩
    | ok request => simp [Request.ofMessage?, hv, hread, Except.toOption] at hr

theorem perform_of_request {a : Action} {r : Request} (hr : a.request? = some r) :
    s.perform host a = s.serve host r := by
  cases a with
  | request own =>
    obtain rfl : own = r := Option.some.inj hr
    rfl
  | message bytes =>
    have hbytes : Request.ofMessage? bytes = some r := hr
    simp only [perform, hbytes]
  | _ => cases hr

theorem perform_message (host : Host σ) (s : Session) (bytes : List UInt8) (h : σ) :
    (s.perform host (.message bytes) h).1.1 = (s.handleMessage host bytes h).1.1 := by
  cases hr : Request.ofMessage? bytes with
  | none =>
    obtain ⟨id,e,he⟩ : ∃ id e, s.handleMessage host bytes h = ((s, ⟨id, .error e⟩), h) :=
      handleMessage_of_none hr h
    rw [he, perform, hr]
    rfl
  | some r =>
    rw [handleMessage_of_request hr, ← perform_request, perform_of_request (a := .message bytes) hr]
    rfl

@[simp] theorem run_nil (host : Host σ) (s : Session) : s.run host [] = (s, []) :=
  rfl

theorem run_cons (host : Host σ) (s : Session) (a : Action) (h : σ) (rest : List (Action × σ)) :
    s.run host ((a, h) :: rest) =
      (((s.perform host a h).1.1.run host rest).1,
        (s.perform host a h).1.2 ++ ((s.perform host a h).1.1.run host rest).2) :=
  rfl

theorem run_append (host : Host σ) (s : Session) (before after : List (Action × σ)) :
    s.run host (before ++ after) =
      (((s.run host before).1.run host after).1,
        (s.run host before).2 ++ ((s.run host before).1.run host after).2) := by
  induction before generalizing s with
  | nil => rfl
  | cons step before ih =>
    obtain ⟨a,h⟩ := step
    simp only [List.cons_append, run_cons, ih, List.append_assoc]

theorem run_history {P : List (Action × σ) → Session → List Event → Prop} (start : P [] s [])
    (step : ∀ past t handed a h, P past t handed →
      P (past ++ [(a, h)]) (t.perform host a h).1.1 (handed ++ (t.perform host a h).1.2))
    (actions : List (Action × σ)) : P actions (s.run host actions).1 (s.run host actions).2 := by
  have hrun (past : List (Action × σ)) (t : Session) (handed : List Event)
      (ht : P past t handed) :
      P (past ++ actions) (t.run host actions).1 (handed ++ (t.run host actions).2) := by
    induction actions generalizing past t handed with
    | nil => simpa using ht
    | cons first rest ih =>
      obtain ⟨a,h⟩ := first
      have hrest := ih (past ++ [(a, h)]) _ _ (step past t handed a h ht)
      rw [List.append_assoc, List.append_assoc] at hrest
      exact hrest
  exact hrun [] s [] start

def calling (method : String) (params : List (String × Json)) : Action × Unit :=
  (.request ⟨1, method, .object params⟩, ())

def pageSource : Source :=
  ⟨"a.js", "f()\ng()", 7, [0, 4]⟩

def page : Program :=
  ⟨"", pageSource, [], [.function ⟨"g", pageSource, [], [], [⟨0, 4⟩]⟩], [⟨0, 0⟩, ⟨1, 2⟩]⟩

def secondLine : Action × Unit :=
  calling "Debugger.setBreakpointByUrl"
    [("lineNumber", .number (.whole 1)), ("url", .string "a.js")]

/-- What `secondLine` sets where `page` is the only script. -/
def secondLineBreakpoint : Breakpoint :=
  ⟨"1:1:0:a.js", .url "a.js", ⟨2, 1⟩, none, [("1", 4)]⟩

end Session

end ScriptCache
