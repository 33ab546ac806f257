import ScriptCache.Proofs.Inspector.Stops

namespace ScriptCache

structure Program.Spans (p : Program) (id : ScriptId) (start : Location) (stop : Option Location)
    (first : UInt32) (past : Option UInt32) : Prop where
  here : start.scriptId = id
  first : p.source.At start first
  there : ∀ l ∈ stop, l.scriptId = id
  past : Option.Rel p.source.At stop past

namespace Session

variable {σ : Type} {host : Host σ} {s : Session} {x : Script} {p : Program} {id : ScriptId}
  {start : Location} {stop : Option Location} {first : UInt32} {past : Option UInt32}

def stopsWithin (p : Program) (first : UInt32) (past : Option UInt32) : List UInt32 :=
  p.stops.filter fun offset => first ≤ offset && offset < past.getD Word.maximum

theorem mem_stopsWithin {offset : UInt32} :
    offset ∈ stopsWithin p first past ↔
      (∃ q ∈ p.functions, ∃ entry ∈ q.sourceMap, entry.pos = offset) ∧ first ≤ offset ∧
        (∀ limit ∈ past, offset < limit) ∧ (past = none → offset ≠ Word.maximum) := by
  have hend : offset < past.getD Word.maximum ↔
      (∀ limit ∈ past, offset < limit) ∧ (past = none → offset ≠ Word.maximum) := by
    cases past with
    | none =>
      have htop : offset ≤ Word.maximum :=
        UInt32.le_iff_toNat_le.mpr (Nat.le_of_lt_succ offset.toNat_lt)
      simpa using UInt32.lt_iff_le_and_ne.trans (and_iff_right htop)
    | some limit => simp
  rw [stopsWithin, List.mem_filter, Program.mem_stops, Program.mem_mappedOffsets,
    Bool.and_eq_true, decide_eq_true_iff, decide_eq_true_iff, hend]

theorem pairwise_stopsWithin (p : Program) (first : UInt32) (past : Option UInt32) :
    (stopsWithin p first past).Pairwise (· < ·) :=
  p.pairwise_stops.filter _

theorem possibleBreakpoints_of_spans (hknown : s.script? id = some (.ofProgram id p))
    (hspans : p.Spans id start stop first past) (hstart : start.Countable)
    (hstop : ∀ l ∈ stop, l.Countable) :
    s.possibleBreakpoints start stop =
      .ok (s, .possibleBreakpoints
        ((stopsWithin p first past).map (breakLocation (.ofProgram id p)))) := by
  obtain ⟨rfl,hfirst,hthere,hpast⟩ := hspans
  refine possibleBreakpoints_eq hknown (Script.offsetFor_eq hstart hfirst) hthere ?_
  cases hpast with
  | none => exact .none
  | some hlimit => exact .some (Script.offsetFor_eq (hstop _ rfl) hlimit)

theorem possibleBreakpoints_of_not_countable (hknown : s.script? id = some (.ofProgram id p))
    (hspans : p.Spans id start stop first past)
    (h : ¬(start.Countable ∧ ∀ l ∈ stop, l.Countable)) :
    s.possibleBreakpoints start stop = .error (.invalidParams "Location is out of range") := by
  obtain ⟨rfl,hfirst,hthere,-⟩ := hspans
  rw [possibleBreakpoints_eq_bind hknown hthere]
  by_cases hstart : start.Countable
  · obtain ⟨l,rfl,hl⟩ : ∃ l, stop = some l ∧ ¬l.Countable := by
      simpa [hstart] using h
    rw [Script.offsetFor_eq (x := .ofProgram _ p) hstart hfirst, Option.mapM_some,
      Script.offsetFor_of_not_countable _ hl]
    rfl
  · rw [Script.offsetFor_of_not_countable _ hstart]
    rfl

theorem possibleBreakpoints_complete (host : Host σ) (before after : List (Action × σ))
    (p : Program) (h : σ)
    (on : (initial.run host (before ++ (.register p, h) :: after)).1.enabled = true) :
    let s := (initial.run host (before ++ (.register p, h) :: after)).1
    let id := ((initial.run host before).1.register p).2
    ∀ start stop first past params, p.Spans id start stop first past →
      Command.ofMethod "Debugger.getPossibleBreakpoints" params =
        .ok (.getPossibleBreakpoints start stop) →
      (start.Countable ∧ (∀ l ∈ stop, l.Countable) →
        ∃ offsets : List UInt32,
          (∀ h, s.dispatch host "Debugger.getPossibleBreakpoints" params h =
            (.ok (s, .possibleBreakpoints
              (offsets.map (breakLocation (.ofProgram id p)))), h)) ∧
          offsets.Pairwise (· < ·) ∧
          ∀ offset, offset ∈ offsets ↔
            (∃ q ∈ p.functions, ∃ entry ∈ q.sourceMap, entry.pos = offset) ∧ first ≤ offset ∧
              (∀ limit ∈ past, offset < limit) ∧ (past = none → offset ≠ Word.maximum)) ∧
      (¬(start.Countable ∧ ∀ l ∈ stop, l.Countable) →
        ∀ h, s.dispatch host "Debugger.getPossibleBreakpoints" params h =
          (.error (.invalidParams "Location is out of range"), h)) := by
  intro s id start stop first past params hspans hread
  have hknown : s.script? id = some (.ofProgram id p) :=
    (numbers_run host _).script?_eq (registered_mem host before after p h)
  have hdispatch (h : σ) : s.dispatch host "Debugger.getPossibleBreakpoints" params h =
      (s.possibleBreakpoints start stop, h) := by
    rw [dispatch_eq_execute hread fun _ => on]
    rfl
  constructor
  · rintro ⟨hstart,hstop⟩
    refine ⟨stopsWithin p first past,?_,pairwise_stopsWithin p first past,
      fun offset => mem_stopsWithin⟩
    intro h
    rw [hdispatch, possibleBreakpoints_of_spans hknown hspans hstart hstop]
  · intro hout h
    rw [hdispatch, possibleBreakpoints_of_not_countable hknown hspans hout]

theorem possibleBreakpoints_complete_page :
    let s := (initial.run Host.detached [(.register page, ()), calling "Debugger.enable" []]).1
    let start : Location := ⟨"1", 0, 1⟩
    let stop : Location := ⟨"1", 1, 0⟩
    page.Spans "1" start none 1 none ∧ page.Spans "1" start (some stop) 1 (some 4) ∧
    s.dispatch Host.detached "Debugger.getPossibleBreakpoints" (start.toList none) () =
      (.ok (s, .possibleBreakpoints [⟨"1", 0, 2, none⟩, ⟨"1", 1, 0, none⟩]), ()) ∧
    s.dispatch Host.detached "Debugger.getPossibleBreakpoints" (start.toList (some stop)) () =
      (.ok (s, .possibleBreakpoints [⟨"1", 0, 2, none⟩]), ()) := by
  intro s start stop
  have on : s.enabled = true := by decide +kernel
  have hoffsets : page.mappedOffsets = [0, 2, 4] := by decide +kernel
  have hstart : page.source.At start 1 := ⟨0,rfl,rfl⟩
  have hstop : page.source.At stop 4 := ⟨4,rfl,rfl⟩
  have hfirst : start.Countable := ⟨by decide,by decide⟩
  have hsecond : stop.Countable := ⟨by decide,by decide⟩
  have honward : page.Spans "1" start none 1 none := ⟨rfl,hstart,by simp,.none⟩
  have hbetween : page.Spans "1" start (some stop) 1 (some 4) :=
    ⟨rfl,hstart,by simp [stop],.some hstop⟩
  have hcomplete := possibleBreakpoints_complete Host.detached [] [calling "Debugger.enable" []]
    page () on
  refine ⟨honward,hbetween,?_,?_⟩
  · obtain ⟨hlist,-⟩ := hcomplete start none 1 none _ honward (Command.ofMethod_toList start none)
    obtain ⟨offsets,hreply,hascending,hmem⟩ := hlist ⟨hfirst,by simp⟩
    obtain rfl : offsets = [2, 4] := by
      refine hascending.eq_of_mem_iff (by decide) fun offset => ?_
      rw [hmem, ← Program.mem_mappedOffsets, hoffsets]
      simp only [List.mem_cons, List.not_mem_nil, or_false]
      constructor
      · rintro ⟨rfl | rfl | rfl,hle,-⟩ <;> revert hle <;> decide
      · rintro (rfl | rfl) <;> exact ⟨by decide,by decide,by simp,by decide⟩
    exact hreply ()
  · obtain ⟨hlist,-⟩ := hcomplete start (some stop) 1 (some 4) _ hbetween
      (Command.ofMethod_toList start (some stop))
    obtain ⟨offsets,hreply,hascending,hmem⟩ := hlist ⟨hfirst,by simpa using hsecond⟩
    obtain rfl : offsets = [2] := by
      refine hascending.eq_of_mem_iff (by decide) fun offset => ?_
      rw [hmem, ← Program.mem_mappedOffsets, hoffsets]
      simp only [List.mem_cons, List.not_mem_nil, or_false]
      constructor
      · rintro ⟨hoffset,hle,hlimit,-⟩
        have hless : offset < 4 := hlimit 4 rfl
        rcases hoffset with rfl | rfl | rfl <;> revert hle hless <;> decide
      · rintro rfl
        exact ⟨by decide,by decide,by simp,by decide⟩
    exact hreply ()

def farMapped : Program :=
  ⟨"main", ⟨"a.js", "f()\n", 4, [0, 4]⟩, [], [], [⟨0, Word.maximum⟩]⟩

theorem possibleBreakpoints_misses_greatest :
    let s := (initial.run Host.detached [(.register farMapped, ()), calling "Debugger.enable" []]).1
    let start : Location := ⟨"1", 0, 0⟩
    farMapped.Spans "1" start none 0 none ∧
    (∃ q ∈ farMapped.functions, ∃ entry ∈ q.sourceMap, entry.pos = Word.maximum) ∧
    s.dispatch Host.detached "Debugger.getPossibleBreakpoints" (start.toList none) () =
      (.ok (s, .possibleBreakpoints []), ()) := by
  intro s start
  have on : s.enabled = true := by decide +kernel
  have hmapped : Word.maximum ∈ farMapped.mappedOffsets := by decide +kernel
  have hknown : s.script? "1" = some (.ofProgram "1" farMapped) := by decide +kernel
  have hspans : farMapped.Spans "1" start none 0 none := ⟨rfl,⟨0,rfl,rfl⟩,by simp,.none⟩
  refine ⟨hspans,Program.mem_mappedOffsets.mp hmapped,?_⟩
  have hnone : stopsWithin farMapped 0 none = [] := by decide +kernel
  have hlist := possibleBreakpoints_of_spans hknown hspans ⟨by decide,by decide⟩ (by simp)
  rw [hnone] at hlist
  rw [dispatch_eq_execute (Command.ofMethod_toList start none) fun _ => on]
  exact congrArg (·, ()) hlist

end Session

end ScriptCache
