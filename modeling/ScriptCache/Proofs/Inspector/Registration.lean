import Mathlib
import ScriptCache.Proofs.Inspector.Move

namespace ScriptCache

def Action.program? : Action → Option Program
  | .register p => some p
  | _ => none

def Script.numbered (programs : List Program) : List Script :=
  programs.mapIdx fun i p => .ofProgram (toString (i + 1)) p

namespace Session

variable {σ : Type} {host : Host σ} {s next : Session} {a : Action} {batch : List Event}
  {programs : List Program}

def registered (actions : List (Action × σ)) : List Program :=
  actions.filterMap fun step => step.1.program?

structure Numbers (s : Session) (programs : List Program) : Prop where
  scripts : s.scripts = Script.numbered programs
  nextScriptId : s.nextScriptId = programs.length + 1

theorem Numbers.register (hs : s.Numbers programs) (p : Program) :
    (s.register p).1.Numbers (programs ++ [p]) := by
  obtain ⟨hscripts,hnext⟩ := hs
  constructor
  · simp [Session.register, Script.numbered, List.mapIdx_concat, hscripts, hnext]
  · simp [Session.register, hnext]

theorem Move.scripts_eq (hm : Move s a next batch) (ha : a.program? = none) :
    next.scripts = s.scripts ∧ next.nextScriptId = s.nextScriptId := by
  cases hm with
  | register p given =>
    rw [given] at ha
    cases ha
  | _ => exact ⟨rfl,rfl⟩

theorem Numbers.perform (hs : s.Numbers programs) (a : Action) (h : σ) :
    (s.perform host a h).1.1.Numbers (programs ++ a.program?.toList) := by
  cases hp : a.program? with
  | none =>
    obtain ⟨hscripts,hnext⟩ := (perform_move host s a h).scripts_eq hp
    rw [Option.toList_none, List.append_nil]
    exact ⟨hscripts.trans hs.scripts,hnext.trans hs.nextScriptId⟩
  | some p =>
    cases a with
    | register q =>
      obtain rfl : q = p := Option.some.inj hp
      exact hs.register q
    | _ => cases hp

theorem registered_concat (past : List (Action × σ)) (a : Action) (h : σ) :
    registered (past ++ [(a, h)]) = registered past ++ a.program?.toList := by
  simp only [registered, List.filterMap_append, List.filterMap_cons, List.filterMap_nil]
  cases a.program? <;> rfl

theorem numbers_run (host : Host σ) (actions : List (Action × σ)) :
    (initial.run host actions).1.Numbers (registered actions) := by
  refine run_history (P := fun past t _ => t.Numbers (registered past)) ⟨rfl,rfl⟩ ?_ actions
  intro past t handed a h ht
  rw [registered_concat]
  exact ht.perform a h

theorem Move.nextBreakpointId_le (hm : Move s a next batch) :
    next.nextBreakpointId ≤ s.nextBreakpointId + 1 := by
  cases hm with
  | setBreakpoint condition on known place stop free => exact Nat.le_refl _
  | _ => exact Nat.le_succ _

theorem counting_run (host : Host σ) {actions : List (Action × σ)}
    (h : actions.length + 1 < UInt32.size) : (initial.run host actions).1.Counting := by
  have hregistered : (registered actions).length ≤ actions.length :=
    List.length_filterMap_le _ actions
  have hnext : (initial.run host actions).1.nextBreakpointId ≤ actions.length + 1 := by
    refine run_history (P := fun past t _ => t.nextBreakpointId ≤ past.length + 1)
      (Nat.le_refl 1) ?_ actions
    intro past t handed a h ht
    rw [List.length_append, List.length_singleton]
    exact Nat.le_trans (perform_move host t a h).nextBreakpointId_le (Nat.succ_le_succ ht)
  constructor
  · rw [(numbers_run host actions).nextScriptId]
    omega
  · omega

theorem Numbers.exists_number (hs : s.Numbers programs) {script : Script}
    (h : script ∈ s.scripts) :
    ∃ i p, programs[i]? = some p ∧ script = .ofProgram (toString (i + 1)) p := by
  rw [hs.scripts, Script.numbered, List.mem_mapIdx] at h
  obtain ⟨i,hi,rfl⟩ := h
  exact ⟨i,programs[i],List.getElem?_eq_getElem hi,rfl⟩

theorem Numbers.id_ne (hs : s.Numbers programs) {script : Script} (h : script ∈ s.scripts) :
    script.id ≠ toString s.nextScriptId := by
  obtain ⟨i,p,hp,rfl⟩ := hs.exists_number h
  obtain ⟨hi,-⟩ := List.getElem?_eq_some_iff.mp hp
  intro hid
  have hnumber : i + 1 = s.nextScriptId := Nat.repr_inj.mp hid
  rw [hs.nextScriptId] at hnumber
  omega

theorem Numbers.ids_apart (hs : s.Numbers programs) :
    s.scripts.Pairwise fun x y => x.id ≠ y.id := by
  rw [hs.scripts, List.pairwise_iff_getElem]
  intro i j hi hj hlt
  simp only [Script.numbered, List.getElem_mapIdx, Script.ofProgram]
  intro hid
  have hnumber : i + 1 = j + 1 := Nat.repr_inj.mp hid
  omega

end Session

end ScriptCache
