import Mathlib.Order.Bounds.Basic
import Mathlib.Tactic.SplitIfs
import ScriptCache.Inspector.Script
import ScriptCache.Proofs.Bytecode.Nesting

namespace ScriptCache

variable {m n offset : UInt32} {stops : List UInt32}

theorem mem_insertAscending : m ∈ insertAscending n stops ↔ m = n ∨ m ∈ stops := by
  induction stops with
  | nil => simp [insertAscending]
  | cons first rest ih =>
    unfold insertAscending
    split_ifs with hless hsame
    · simp
    · simp [hsame]
    · simp only [List.mem_cons, ih]
      grind

theorem pairwise_insertAscending (h : stops.Pairwise (· < ·)) :
    (insertAscending n stops).Pairwise (· < ·) := by
  induction stops with
  | nil => simp [insertAscending]
  | cons first rest ih =>
    obtain ⟨hfirst,hrest⟩ := List.pairwise_cons.mp h
    unfold insertAscending
    split_ifs with hless hsame
    · refine List.pairwise_cons.mpr ⟨?_,h⟩
      intro x hx
      rcases List.mem_cons.mp hx with rfl | hx
      · exact hless
      · exact UInt32.lt_trans hless (hfirst x hx)
    · exact h
    · refine List.pairwise_cons.mpr ⟨?_,ih hrest⟩
      intro x hx
      rcases mem_insertAscending.mp hx with rfl | hx
      · exact UInt32.lt_of_le_of_ne (UInt32.not_lt.mp hless) (Ne.symm hsame)
      · exact hfirst x hx

theorem find?_eq_some_iff_isLeast (h : stops.Pairwise (· < ·)) :
    stops.find? (fun stop => offset ≤ stop) = some m ↔
      IsLeast {stop | stop ∈ stops ∧ offset ≤ stop} m := by
  induction stops with
  | nil =>
    constructor
    · nofun
    · rintro ⟨⟨hm,-⟩,-⟩
      cases hm
  | cons first rest ih =>
    obtain ⟨hfirst,hrest⟩ := List.pairwise_cons.mp h
    by_cases hle : offset ≤ first
    · rw [List.find?_cons_of_pos (by simpa using hle), Option.some.injEq]
      constructor
      · rintro rfl
        refine ⟨⟨List.mem_cons_self,hle⟩,?_⟩
        rintro x ⟨hx,-⟩
        rcases List.mem_cons.mp hx with rfl | hx
        · exact UInt32.le_refl x
        · exact UInt32.le_of_lt (hfirst x hx)
      · rintro ⟨⟨hm,-⟩,hleast⟩
        have hmle : m ≤ first := hleast ⟨List.mem_cons_self,hle⟩
        rcases List.mem_cons.mp hm with hm | hm
        · exact hm.symm
        · exact absurd (hfirst m hm) (UInt32.not_lt.mpr hmle)
    · have hset : {stop | stop ∈ first :: rest ∧ offset ≤ stop} =
          {stop | stop ∈ rest ∧ offset ≤ stop} := by
        ext stop
        simp only [Set.mem_ofPred_eq, List.mem_cons]
        constructor
        · rintro ⟨rfl | hstop,hge⟩
          · exact absurd hge hle
          · exact ⟨hstop,hge⟩
        · exact fun hstop => ⟨.inr hstop.1,hstop.2⟩
      rw [List.find?_cons_of_neg (by simpa using hle), ih hrest, hset]

namespace Program

theorem mem_mappedOffsets {p : Program} :
    n ∈ p.mappedOffsets ↔ ∃ q ∈ p.functions, ∃ entry ∈ q.sourceMap, entry.pos = n := by
  simp [mappedOffsets]

theorem mem_stops {p : Program} : n ∈ p.stops ↔ n ∈ p.mappedOffsets := by
  unfold stops
  induction p.mappedOffsets with
  | nil => simp
  | cons first rest ih => rw [List.foldr_cons, mem_insertAscending, ih, List.mem_cons]

theorem pairwise_stops (p : Program) : p.stops.Pairwise (· < ·) := by
  unfold stops
  induction p.mappedOffsets with
  | nil => exact .nil
  | cons first rest ih => exact pairwise_insertAscending ih

end Program

theorem Script.resolve?_ofProgram_eq_some_iff {id : ScriptId} {p : Program} {position : Position} :
    (Script.ofProgram id p).resolve? position = some m ↔
      ∃ offset, p.source.offsetOf? position = some offset ∧
        IsLeast {stop | stop ∈ p.mappedOffsets ∧ offset ≤ stop} m := by
  simp only [resolve?, Script.ofProgram, Option.bind_eq_bind, Option.bind_eq_some_iff,
    find?_eq_some_iff_isLeast p.pairwise_stops, Program.mem_stops]

end ScriptCache
