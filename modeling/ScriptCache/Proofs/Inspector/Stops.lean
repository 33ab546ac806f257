import ScriptCache.Proofs.Bytecode.LineTable
import ScriptCache.Proofs.Inspector.Binding
import ScriptCache.Proofs.Inspector.Parameters
import ScriptCache.Proofs.Inspector.Stepping

namespace ScriptCache

def Source.At (s : Source) (l : Location) (offset : UInt32) : Prop :=
  ∃ start, s.lineOffsets[l.lineNumber.toNat]? = some start ∧
    start.toNat + l.columnNumber.toNat = offset.toNat

structure Location.Countable (l : Location) : Prop where
  line : l.lineNumber ≠ Word.maximum
  column : l.columnNumber ≠ Word.maximum

namespace Script

variable {x : Script} {offset : UInt32}

theorem oneBased_location (hx : x.source.Lined) (hoffset : offset < Word.maximum) :
    Session.oneBased (x.location offset).lineNumber (x.location offset).columnNumber =
      .ok (x.source.position offset) := by
  obtain ⟨line,start,-,hline,hcolumn,hposition⟩ := hx.position_eq hoffset
  simp only [location, Session.oneBased, hposition, Word.succ_sub_one hline,
    Word.succ_sub_one hcolumn, Word.succ?_of_ne hline, Word.succ?_of_ne hcolumn]

theorem resolve?_position_eq_find? (hx : x.source.Lined) (hoffset : offset < Word.maximum) :
    x.resolve? (x.source.position offset) = x.stops.find? fun stop => offset ≤ stop := by
  rw [resolve?, hx.offsetOf?_position hoffset]
  rfl

theorem oneBased_of_countable {l : Location} (hl : l.Countable) :
    Session.oneBased l.lineNumber l.columnNumber =
      .ok ⟨Word.succ l.lineNumber, Word.succ l.columnNumber⟩ := by
  rw [Session.oneBased, Word.succ?_of_ne hl.line, Word.succ?_of_ne hl.column]

theorem oneBased_of_not_countable {l : Location} (hl : ¬l.Countable) :
    Session.oneBased l.lineNumber l.columnNumber =
      .error (.invalidParams "Location is out of range") := by
  unfold Session.oneBased
  split
  · rename_i hline hcolumn
    refine absurd ⟨?_,?_⟩ hl
    · intro hmax
      rw [hmax] at hline
      cases hline
    · intro hmax
      rw [hmax] at hcolumn
      cases hcolumn
  · rfl

theorem offsetFor_eq {l : Location} (hl : l.Countable) (hat : x.source.At l offset) :
    Session.offsetFor x l = .ok offset := by
  obtain ⟨start,hstart,hsum⟩ := hat
  have hoffset : x.source.offsetOf? ⟨Word.succ l.lineNumber, Word.succ l.columnNumber⟩ =
      some offset := by
    rw [Source.offsetOf?_eq_some_iff, Word.toNat_succ hl.line, Word.toNat_succ hl.column]
    exact ⟨Word.succ_ne_zero _,start,hstart,hsum⟩
  rw [Session.offsetFor, oneBased_of_countable hl]
  change Except.ok (x.offsetOrEnd _) = _
  rw [offsetOrEnd, hoffset]
  rfl

theorem offsetFor_of_not_countable (x : Script) {l : Location} (hl : ¬l.Countable) :
    Session.offsetFor x l = .error (.invalidParams "Location is out of range") := by
  rw [Session.offsetFor, oneBased_of_not_countable hl]
  rfl

end Script

namespace Session

variable {σ : Type} {host : Host σ} {s t : Session} {programs : List Program} {x : Script}

theorem Numbers.script?_eq (hs : s.Numbers programs) (hx : x ∈ s.scripts) :
    s.script? x.id = some x := by
  obtain ⟨before,after,hsplit⟩ := List.append_of_mem hx
  have hapart := hs.ids_apart
  rw [hsplit, List.pairwise_append] at hapart
  have hbefore : before.find? (fun y => y.id == x.id) = none := by
    apply List.find?_eq_none.mpr
    intro y hy
    simpa using hapart.2.2 y hy x List.mem_cons_self
  rw [script?, hsplit, List.find?_append, hbefore, List.find?_cons_of_pos (by simp)]
  rfl

theorem registered_mem (host : Host σ) (before after : List (Action × σ)) (p : Program) (h : σ) :
    Script.ofProgram ((initial.run host before).1.register p).2 p ∈
      (initial.run host (before ++ (.register p, h) :: after)).1.scripts := by
  have hbefore : (initial.run host before).1.nextScriptId = (registered before).length + 1 :=
    (numbers_run host before).nextScriptId
  have hregistered : registered (before ++ (.register p, h) :: after) =
      registered before ++ p :: registered after := by
    simp [registered, Action.program?]
  have hnumbers := numbers_run host (before ++ (.register p, h) :: after)
  rw [hregistered] at hnumbers
  rw [hnumbers.scripts, Script.numbered, List.mem_mapIdx]
  refine ⟨(registered before).length,by simp,?_⟩
  simp only [register, hbefore, List.getElem_append_right (Nat.le_refl _), Nat.sub_self,
    List.getElem_cons_zero]

inductive Sets (s : Session) (script : ScriptId) (offset : UInt32) (l : Location)
    (condition : Option String) : Result → Prop
  | bound {b : Breakpoint} (free : ∀ c ∈ s.breakpoints, (script, offset) ∉ c.resolved)
      (target : b.target = .script script) (place : b.resolved = [(script, offset)])
      (asked : b.condition = usedCondition condition) :
      Sets s script offset l condition
        (.ok ({ s with
            nextBreakpointId := s.nextBreakpointId + 1
            breakpoints := s.breakpoints ++ [b] },
          .breakpointSet b.id l))
  | refused {c : Breakpoint} (mem : c ∈ s.breakpoints) (taken : (script, offset) ∈ c.resolved) :
      Sets s script offset l condition (.error alreadyExists)

section Setting

variable {l : Location} {position : Position} {offset : UInt32}
  (hplace : oneBased l.lineNumber l.columnNumber = .ok position)
  (hknown : s.script? l.scriptId = some x)

include hplace hknown

theorem setBreakpoint_of_unresolved (hnone : x.resolve? position = none)
    (condition : Option String) :
    s.setBreakpoint l condition = .error (.serverError "Could not resolve breakpoint") := by
  simp only [setBreakpoint, hplace, findScript_eq_ok_iff.mpr hknown, bind, Except.bind, hnone]
  rfl

theorem sets_of_resolve? (hstop : x.resolve? position = some offset) (condition : Option String) :
    s.Sets l.scriptId offset (x.location offset) condition (s.setBreakpoint l condition) := by
  simp only [setBreakpoint, hplace, findScript_eq_ok_iff.mpr hknown, bind, Except.bind, hstop]
  split
  · rename_i htaken
    obtain ⟨c,hc,hhits⟩ := List.any_eq_true.mp htaken
    exact .refused hc (Breakpoint.hits_iff.mp hhits)
  · rename_i hfree
    refine .bound ?_ rfl rfl rfl
    intro c hc hresolved
    exact hfree (List.any_eq_true.mpr ⟨c,hc,Breakpoint.hits_iff.mpr hresolved⟩)

end Setting

theorem dispatch_setBreakpoint (on : s.enabled = true) {params : Json} {l : Location}
    {condition : Option String}
    (hread : Command.ofMethod "Debugger.setBreakpoint" params = .ok (.setBreakpoint l condition))
    (h : σ) :
    s.dispatch host "Debugger.setBreakpoint" params h = (s.setBreakpoint l condition, h) := by
  rw [dispatch_eq_execute hread fun _ => on]
  rfl

theorem dispatch_toSet (on : s.enabled = true) (l : BreakLocation) (condition : Option String)
    (h : σ) :
    s.dispatch host "Debugger.setBreakpoint" (l.toSet condition) h =
      (s.setBreakpoint l.place condition, h) :=
  dispatch_setBreakpoint on (Command.ofMethod_toSet l condition) h

theorem possibleBreakpoints_eq_bind {start : Location} {stop : Option Location}
    (hknown : s.script? start.scriptId = some x) (hthere : ∀ l ∈ stop, l.scriptId = x.id) :
    s.possibleBreakpoints start stop =
      offsetFor x start >>= fun first => stop.mapM (offsetFor x) >>= fun past =>
        .ok (s, .possibleBreakpoints
          ((x.stops.filter fun offset => first ≤ offset && offset < past.getD Word.maximum).map
            (breakLocation x))) := by
  simp only [possibleBreakpoints, findScript_eq_ok_iff.mpr hknown, bind, Except.bind]
  cases stop with
  | none => rfl
  | some l =>
    have hsame : (l.scriptId != x.id) = false := by simpa using hthere l rfl
    simp only [hsame, Bool.false_eq_true, if_false, Option.mapM_some]
    cases offsetFor x l <;> rfl

theorem possibleBreakpoints_eq {start : Location} {stop : Option Location} {first : UInt32}
    {past : Option UInt32} (hknown : s.script? start.scriptId = some x)
    (hfirst : offsetFor x start = .ok first) (hthere : ∀ l ∈ stop, l.scriptId = x.id)
    (hpast : Option.Rel (fun l offset => offsetFor x l = .ok offset) stop past) :
    s.possibleBreakpoints start stop =
      .ok (s, .possibleBreakpoints
        ((x.stops.filter fun offset => first ≤ offset && offset < past.getD Word.maximum).map
          (breakLocation x))) := by
  rw [possibleBreakpoints_eq_bind hknown hthere, hfirst]
  cases hpast with
  | none => rfl
  | some hoffset =>
    rw [Option.mapM_some, hoffset]
    rfl

end Session

namespace Session

variable {σ : Type} {host : Host σ} {s t : Session}

end Session

end ScriptCache
