import Mathlib
import ScriptCache.Proofs.Inspector.Registration
import ScriptCache.Proofs.Inspector.Resolution

namespace ScriptCache

namespace Breakpoint

variable {b c : Breakpoint} {s : Script}

def bindings (b : Breakpoint) (scripts : List Script) : List (ScriptId × UInt32) :=
  scripts.filterMap fun s =>
    if b.target = .script s.id ∨ b.target = .url s.source.name then
      (s.resolve? b.position).map fun offset => (s.id, offset)
    else none

/-- Not bound to one stop with another breakpoint, if both were set in a script. -/
def Apart (b c : Breakpoint) : Prop :=
  ∀ id id', b.target = .script id → c.target = .script id' →
    ∀ script offset, ¬((script, offset) ∈ b.resolved ∧ (script, offset) ∈ c.resolved)

theorem appliesTo_iff :
    b.appliesTo s = true ↔ b.target = .script s.id ∨ b.target = .url s.source.name := by
  unfold appliesTo
  split <;> rename_i place htarget <;> simp [htarget]

theorem bindTo_eq (b : Breakpoint) (s : Script) :
    b.bindTo s = { b with resolved := b.resolved ++ b.bindings [s] } := by
  have hbinding : b.bindings [s] =
      ((b.bindingIn? s).map fun offset => (s.id, offset)).toList := by
    simp only [bindings, bindingIn?, ← appliesTo_iff, List.filterMap_cons, List.filterMap_nil]
    split_ifs
    · cases s.resolve? b.position <;> rfl
    · rfl
  rw [hbinding, bindTo]
  cases b.bindingIn? s <;> simp

@[simp] theorem bindTo_id (b : Breakpoint) (s : Script) : (b.bindTo s).id = b.id := by
  rw [bindTo_eq]

@[simp] theorem bindTo_target (b : Breakpoint) (s : Script) :
    (b.bindTo s).target = b.target := by
  rw [bindTo_eq]

@[simp] theorem bindTo_position (b : Breakpoint) (s : Script) :
    (b.bindTo s).position = b.position := by
  rw [bindTo_eq]

theorem bindings_append (b : Breakpoint) (xs ys : List Script) :
    b.bindings (xs ++ ys) = b.bindings xs ++ b.bindings ys :=
  List.filterMap_append

theorem bindings_congr (htarget : b.target = c.target) (hposition : b.position = c.position)
    (scripts : List Script) : b.bindings scripts = c.bindings scripts := by
  simp only [bindings, htarget, hposition]

theorem foldl_bindTo (b : Breakpoint) (scripts : List Script) :
    scripts.foldl bindTo b = { b with resolved := b.resolved ++ b.bindings scripts } := by
  induction scripts generalizing b with
  | nil => simp [bindings]
  | cons s scripts ih =>
    have hcons : b.bindings (s :: scripts) = b.bindings [s] ++ b.bindings scripts :=
      b.bindings_append [s] scripts
    rw [List.foldl_cons, ih, bindTo_eq, hcons, ← List.append_assoc]
    rfl

theorem bindTo_of_script {id : ScriptId} (htarget : b.target = .script id) (hid : id ≠ s.id) :
    b.bindTo s = b := by
  have hnone : b.bindings [s] = [] := by
    simp [bindings, htarget, hid]
  rw [bindTo_eq, hnone, List.append_nil]

theorem bindings_of_script {scripts : List Script} {offset : UInt32}
    (hapart : scripts.Pairwise fun x y => x.id ≠ y.id) (hs : s ∈ scripts)
    (htarget : b.target = .script s.id) (hstop : s.resolve? b.position = some offset) :
    b.bindings scripts = [(s.id, offset)] := by
  obtain ⟨before,after,rfl⟩ := List.append_of_mem hs
  obtain ⟨-,hafter,hbefore⟩ := List.pairwise_append.mp hapart
  have hother {rest : List Script} (hrest : ∀ x ∈ rest, s.id ≠ x.id) : b.bindings rest = [] := by
    apply List.filterMap_eq_nil_iff.mpr
    intro x hx
    simp [htarget, hrest x hx]
  have hself : b.bindings [s] = [(s.id, offset)] := by
    simp [bindings, htarget, hstop]
  calc b.bindings (before ++ s :: after)
      = b.bindings before ++ (b.bindings [s] ++ b.bindings after) := by
        rw [bindings_append, ← bindings_append b [s] after]
        rfl
    _ = [(s.id, offset)] := by
        rw [hother fun x hx => (hbefore x hx s List.mem_cons_self).symm, hself,
          hother (List.pairwise_cons.mp hafter).1]
        rfl

end Breakpoint

namespace Session

variable {σ : Type} {host : Host σ} {s next : Session} {a : Action} {batch : List Event}

structure Placed (s : Session) : Prop where
  resolved : ∀ b ∈ s.breakpoints, b.resolved = b.bindings s.scripts
  known : ∀ b ∈ s.breakpoints, ∀ id, b.target = .script id → ∃ x ∈ s.scripts, x.id = id
  apart : s.breakpoints.Pairwise Breakpoint.Apart

variable {programs : List Program}

theorem Placed.register (hs : s.Placed) (hn : s.Numbers programs) (p : Program) :
    (s.register p).1.Placed := by
  have hnew {b : Breakpoint} (hb : b ∈ s.breakpoints) {id : ScriptId}
      (hid : b.target = .script id) : id ≠ toString s.nextScriptId := by
    obtain ⟨x,hx,rfl⟩ := hs.known b hb id hid
    exact hn.id_ne hx
  refine ⟨?_,?_,?_⟩
  · intro b' hb'
    obtain ⟨b,hb,rfl⟩ := List.mem_map.mp hb'
    rw [Breakpoint.bindTo_eq]
    change b.resolved ++ _ = Breakpoint.bindings b (s.scripts ++ _)
    rw [Breakpoint.bindings_append, hs.resolved b hb]
  · intro b' hb' id hid
    obtain ⟨b,hb,rfl⟩ := List.mem_map.mp hb'
    rw [Breakpoint.bindTo_target] at hid
    obtain ⟨x,hx,rfl⟩ := hs.known b hb id hid
    exact ⟨x,List.mem_append_left _ hx,rfl⟩
  · refine List.pairwise_map.mpr (hs.apart.imp_of_mem ?_)
    intro b c hb hc hbc id id' hid hid'
    rw [Breakpoint.bindTo_target] at hid hid'
    rw [Breakpoint.bindTo_of_script hid (hnew hb hid),
      Breakpoint.bindTo_of_script hid' (hnew hc hid')]
    exact hbc id id' hid hid'

theorem Placed.sublist (hs : s.Placed) {list : List Breakpoint}
    (hlist : list.Sublist s.breakpoints) : Placed { s with breakpoints := list } :=
  ⟨fun b hb => hs.resolved b (hlist.subset hb),fun b hb => hs.known b (hlist.subset hb),
    hs.apart.sublist hlist⟩

theorem Placed.add (hs : s.Placed) {b : Breakpoint} (number : Nat)
    (hresolved : b.resolved = b.bindings s.scripts)
    (hknown : ∀ id, b.target = .script id → ∃ x ∈ s.scripts, x.id = id)
    (hapart : ∀ c ∈ s.breakpoints, c.Apart b) :
    Placed { s with nextBreakpointId := number, breakpoints := s.breakpoints ++ [b] } := by
  refine ⟨?_,?_,?_⟩
  · intro c hc
    rcases List.mem_append.mp hc with hc | hc
    · exact hs.resolved c hc
    · rwa [List.mem_singleton.mp hc]
  · intro c hc
    rcases List.mem_append.mp hc with hc | hc
    · exact hs.known c hc
    · rwa [List.mem_singleton.mp hc]
  · refine List.pairwise_append.mpr ⟨hs.apart,List.pairwise_singleton _ _,?_⟩
    intro c hc c' hc'
    rw [List.mem_singleton.mp hc']
    exact hapart c hc

theorem Placed.move (hs : s.Placed) (hn : s.Numbers programs) (hm : Move s a next batch) :
    next.Placed := by
  cases hm with
  | register p given => exact hs.register hn p
  | disable on asked => exact ⟨nofun,nofun,.nil⟩
  | @setBreakpoint script line column position offset condition on known place stop free =>
    refine hs.add _ ?_ ?_ ?_
    · exact (Breakpoint.bindings_of_script hn.ids_apart known rfl stop).symm
    · rintro id ⟨rfl⟩
      exact ⟨script,known,rfl⟩
    · rintro c hc id id' - - place' offset' ⟨hold,hnew⟩
      rw [List.mem_singleton.mp hnew] at hold
      exact Bool.eq_false_iff.mp (free c hc) (Breakpoint.hits_iff.mpr hold)
  | setBreakpointByUrl url condition on place fresh =>
    rw [Breakpoint.foldl_bindTo]
    exact hs.add _ rfl nofun fun c hc id id' _ hurl => nomatch hurl
  | removeBreakpoint id on => exact hs.sublist List.eraseP_sublist
  | _ => exact ⟨hs.resolved,hs.known,hs.apart⟩

structure PlacedAfter (past : List (Action × σ)) (s : Session) : Prop where
  numbers : s.Numbers (registered past)
  placed : s.Placed

theorem PlacedAfter.perform {past : List (Action × σ)} (hs : PlacedAfter past s) (a : Action)
    (h : σ) : PlacedAfter (past ++ [(a, h)]) (s.perform host a h).1.1 where
  numbers := by
    rw [registered_concat]
    exact hs.numbers.perform a h
  placed := hs.placed.move hs.numbers (perform_move host s a h)

theorem placed_run (host : Host σ) (actions : List (Action × σ)) :
    (initial.run host actions).1.Placed := by
  have hstart : PlacedAfter ([] : List (Action × σ)) initial := ⟨⟨rfl,rfl⟩,⟨nofun,nofun,.nil⟩⟩
  have hrun : PlacedAfter actions (initial.run host actions).1 :=
    run_history (P := fun past t _ => PlacedAfter past t) hstart
      (fun past t handed a h ht => ht.perform a h) actions
  exact hrun.placed

theorem breakpoints_bound (host : Host σ) (actions : List (Action × σ)) :
    let s := (initial.run host actions).1
    let programs := registered actions
    s.Numbers programs ∧
    (∀ b ∈ s.breakpoints, b.resolved = b.bindings (Script.numbered programs)) ∧
    (∀ id p position stop, (Script.ofProgram id p).resolve? position = some stop ↔
      ∃ offset, p.source.offsetOf? position = some offset ∧
        IsLeast {pos | (∃ q ∈ p.functions, ∃ entry ∈ q.sourceMap, entry.pos = pos) ∧
          offset ≤ pos} stop) ∧
    (∀ other : List (Action × σ), registered other = programs →
      ∀ b ∈ s.breakpoints, ∀ c ∈ (initial.run host other).1.breakpoints,
        b.target = c.target → b.position = c.position → b.resolved = c.resolved) ∧
    s.breakpoints.Pairwise Breakpoint.Apart := by
  intro s programs
  have hbound (run : List (Action × σ)) {b : Breakpoint}
      (hb : b ∈ (initial.run host run).1.breakpoints) :
      b.resolved = b.bindings (Script.numbered (registered run)) := by
    rw [← (numbers_run host run).scripts]
    exact (placed_run host run).resolved b hb
  refine ⟨numbers_run host actions,fun b hb => hbound actions hb,?_,?_,
    (placed_run host actions).apart⟩
  · intro id p position stop
    simp only [Script.resolve?_ofProgram_eq_some_iff, Program.mem_mappedOffsets]
  · intro other hother b hb c hc htarget hposition
    rw [hbound actions hb, hbound other hc, hother]
    exact Breakpoint.bindings_congr htarget hposition _

def boundEarly : List (Action × Unit) :=
  [(.register page, ()), calling "Debugger.enable" [], secondLine]

def boundLate : List (Action × Unit) :=
  [calling "Debugger.enable" [], secondLine, (.register page, ())]

def setting (column : Int) : Action × Unit :=
  calling "Debugger.setBreakpoint"
    [("location", .object [("scriptId", .string "1"), ("lineNumber", .number (.whole 0)),
      ("columnNumber", .number (.whole column))])]

def boundTwice : List (Action × Unit) :=
  boundEarly ++ [setting 0, setting 1]

def firstColumnBreakpoint : Breakpoint :=
  ⟨"1:0:0:1", .script "1", ⟨1, 1⟩, none, [("1", 0)]⟩

def laterColumnBreakpoint : Breakpoint :=
  ⟨"2:0:1:1", .script "1", ⟨1, 2⟩, none, [("1", 2)]⟩

theorem breakpoints_bound_early_late :
    (∃ b ∈ (initial.run Host.detached boundEarly).1.breakpoints,
      ∃ c ∈ (initial.run Host.detached boundLate).1.breakpoints,
        b.resolved = c.resolved ∧ b.resolved = [("1", 4)]) ∧
    (initial.run Host.detached boundTwice).1.breakpoints =
        [secondLineBreakpoint, firstColumnBreakpoint, laterColumnBreakpoint] ∧
      ∀ script offset, ¬((script, offset) ∈ firstColumnBreakpoint.resolved ∧
        (script, offset) ∈ laterColumnBreakpoint.resolved) := by
  constructor
  · obtain ⟨-,hbound,-,hsame,-⟩ := breakpoints_bound Host.detached boundEarly
    have hearly : secondLineBreakpoint ∈ (initial.run Host.detached boundEarly).1.breakpoints := by
      decide +kernel
    have hlate : secondLineBreakpoint ∈ (initial.run Host.detached boundLate).1.breakpoints := by
      decide +kernel
    refine ⟨_,hearly,_,hlate,hsame boundLate rfl _ hearly _ hlate rfl rfl,?_⟩
    rw [hbound _ hearly]
    decide +kernel
  · have hbreakpoints : (initial.run Host.detached boundTwice).1.breakpoints =
        [secondLineBreakpoint, firstColumnBreakpoint, laterColumnBreakpoint] := by
      decide +kernel
    obtain ⟨-,-,-,-,hapart⟩ := breakpoints_bound Host.detached boundTwice
    rw [hbreakpoints, List.pairwise_cons, List.pairwise_pair] at hapart
    exact ⟨hbreakpoints,hapart.2 "1" "1" rfl rfl⟩

end Session

end ScriptCache
