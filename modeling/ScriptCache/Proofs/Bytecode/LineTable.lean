import Mathlib.Data.Prod.Lex
import ScriptCache.Bytecode.Source
import ScriptCache.Proofs.Bytecode.Predecessor

namespace ScriptCache

namespace Word

variable {n : UInt32}

theorem succ_of_ne (h : n ≠ maximum) : succ n = n + 1 := by
  rw [succ, if_neg h]

theorem succ_sub_one (h : n ≠ maximum) : succ n - 1 = n := by
  rw [succ_of_ne h, UInt32.add_sub_cancel]

theorem succ_ne_zero (n : UInt32) : succ n ≠ 0 := by
  by_cases h : n = maximum
  · rw [succ, if_pos h, h]
    decide
  · intro hzero
    have hn : n = 0 - 1 := by rw [← hzero, succ_sub_one h]
    exact h hn

theorem succ?_of_ne (h : n ≠ maximum) : succ? n = some (succ n) := by
  rw [succ?, if_neg h, succ_of_ne h]

theorem pred?_succ (h : n ≠ maximum) : pred? (succ n) = some n := by
  rw [pred?, if_neg (succ_ne_zero n), succ_sub_one h]

theorem pred_succ (h : n ≠ maximum) : pred (succ n) = n := by
  rw [pred, if_neg (succ_ne_zero n), succ_sub_one h]

theorem toNat_succ (h : n ≠ maximum) : (succ n).toNat = n.toNat + 1 := by
  have hless : n.toNat < 4294967295 := by
    refine Nat.lt_of_le_of_ne (Nat.le_of_lt_succ n.toNat_lt) fun hsame => h ?_
    exact UInt32.toNat_inj.mp hsame
  rw [succ_of_ne h, UInt32.toNat_add]
  exact Nat.mod_eq_of_lt (Nat.succ_lt_succ hless)

@[simp] theorem toNat_pred : (pred n).toNat = n.toNat - 1 := by
  unfold pred
  split
  · rename_i hzero
    rw [hzero]
    rfl
  · rename_i hzero
    have hpos : 1 ≤ n.toNat := Nat.pos_of_ne_zero fun h => hzero (UInt32.toNat_inj.mp h)
    have hone : 1 ≤ n := UInt32.le_iff_toNat_le.mpr hpos
    rw [UInt32.toNat_sub_of_le _ _ hone]
    rfl

theorem toNat_eq_sub_one (h : n ≠ 0) : n.toNat = (n - 1).toNat + 1 := by
  have hpred : (n - 1).toNat = n.toNat - 1 := by
    rw [← toNat_pred, pred, if_neg h]
  have hpos : n.toNat ≠ 0 := fun hzero => h (UInt32.toNat_inj.mp hzero)
  omega

theorem pred?_of_ne (h : n ≠ 0) : pred? n = some (pred n) := by
  rw [pred?, pred, if_neg h, if_neg h]

theorem ne_maximum_of_le {m : UInt32} (h : n ≤ m) (hm : m < maximum) : n ≠ maximum := by
  rintro rfl
  exact UInt32.not_lt.mpr h hm

end Word

def Position.key (p : Position) : ℕ ×ₗ ℕ :=
  toLex (p.line.toNat, p.column.toNat)

namespace Source

structure Lined (s : Source) : Prop where
  start : s.lineOffsets.head? = some 0
  ascending : s.lineOffsets.Pairwise (· < ·)

instance (s : Source) : Decidable s.Lined :=
  decidable_of_iff (s.lineOffsets.head? = some 0 ∧ s.lineOffsets.Pairwise (· < ·))
    ⟨fun ⟨hstart,hascending⟩ => ⟨hstart,hascending⟩,
      fun ⟨hstart,hascending⟩ => ⟨hstart,hascending⟩⟩

variable {s : Source} {offset start later : UInt32} {i j : Nat} {answer : KeySearch}

theorem index_le_of_ascending {table : List UInt32} (h : table.Pairwise (· < ·))
    (hi : table[i]? = some start) : i ≤ start.toNat := by
  induction i generalizing start with
  | zero => exact Nat.zero_le _
  | succ i ih =>
    obtain ⟨hlong,rfl⟩ := List.getElem?_eq_some_iff.mp hi
    have hshort : i < table.length := Nat.lt_of_succ_lt hlong
    have hprevious : i ≤ table[i].toNat := ih (List.getElem?_eq_getElem hshort)
    have hless : table[i] < table[i + 1] :=
      List.pairwise_iff_getElem.mp h i (i + 1) hshort hlong (Nat.lt_succ_self i)
    exact Nat.lt_of_le_of_lt hprevious (UInt32.lt_iff_toNat_lt.mp hless)

theorem position_ne_zero (s : Source) (offset : UInt32) :
    (s.position offset).line ≠ 0 ∧ (s.position offset).column ≠ 0 := by
  unfold position
  split
  · exact ⟨Word.succ_ne_zero _,Word.succ_ne_zero _⟩
  · exact ⟨(by decide : (1 : UInt32) ≠ 0),Word.succ_ne_zero _⟩
  · exact ⟨Word.succ_ne_zero _,Word.succ_ne_zero _⟩

structure OnLine (s : Source) (offset : UInt32) (i : Nat) (start : UInt32) : Prop where
  known : s.lineOffsets[i]? = some start
  start_le : start ≤ offset
  before_next : ∀ next, s.lineOffsets[i + 1]? = some next → offset < next

theorem Lined.ascends (hs : s.Lined) : KeySearch.Ascends id s.lineOffsets :=
  hs.ascending.imp UInt32.le_of_lt

theorem Lined.le_of_index_le (hs : s.Lined) (hi : s.lineOffsets[i]? = some start)
    (hj : s.lineOffsets[j]? = some later) (h : i ≤ j) : start ≤ later :=
  hs.ascends.key_le hi hj h

theorem Lined.onLine_of_answers (hs : s.Lined)
    (h : KeySearch.Answers id s.lineOffsets offset answer) :
    ∃ i start, answer.last? = some i ∧ s.OnLine offset i start := by
  cases hlast : answer.last? with
  | none =>
    have hzero : 0 ∈ s.lineOffsets := List.mem_of_mem_head? hs.start
    exact absurd (h.lt_of_last?_eq_none hlast 0 hzero) UInt32.not_lt_zero
  | some i =>
    obtain ⟨start,hstart,⟨hle,-⟩,hgreatest⟩ := h.isGreatest hs.ascends hlast
    refine ⟨i,start,rfl,hstart,hle,fun next hnext => ?_⟩
    obtain ⟨hshort,rfl⟩ := List.getElem?_eq_some_iff.mp hstart
    obtain ⟨hlong,rfl⟩ := List.getElem?_eq_some_iff.mp hnext
    have hlater := List.pairwise_iff_getElem.mp hs.ascending i (i + 1) hshort hlong
      (Nat.lt_succ_self i)
    refine UInt32.not_le.mp fun hreached => ?_
    exact UInt32.not_lt.mpr (hgreatest ⟨hreached,_,List.getElem_mem hlong,rfl⟩) hlater

theorem position_eq_last? (s : Source) (offset : UInt32) :
    s.position offset =
      match (KeySearch.words s.lineOffsets offset).last? with
      | some i => s.positionInLine i offset
      | none => ⟨1, Word.succ offset⟩ := by
  unfold position KeySearch.words
  rcases KeySearch.run id s.lineOffsets offset with i | _ | i <;> rfl

theorem Lined.exists_onLine (hs : s.Lined) (offset : UInt32) :
    ∃ i start, s.OnLine offset i start ∧ s.position offset = s.positionInLine i offset := by
  obtain ⟨i,start,hlast,hon⟩ := hs.onLine_of_answers (KeySearch.right_words _ offset hs.ascends)
  exact ⟨i,start,hon,by rw [position_eq_last?, hlast]⟩

theorem Lined.index_le (hs : s.Lined) (h : s.OnLine offset i start) {other : UInt32}
    (h' : s.OnLine other j later) (hle : offset ≤ other) : i ≤ j := by
  refine Nat.le_of_not_lt fun hlt => ?_
  obtain ⟨hlong,-⟩ := List.getElem?_eq_some_iff.mp h.known
  have hnext : s.lineOffsets[j + 1]? = some s.lineOffsets[j + 1] :=
    List.getElem?_eq_getElem (Nat.lt_of_le_of_lt hlt hlong)
  -- the next line would start at or before the offset and after the other one
  have hstart : s.lineOffsets[j + 1] ≤ start := hs.le_of_index_le hnext h.known hlt
  have hother : other < s.lineOffsets[j + 1] := h'.before_next _ hnext
  exact UInt32.not_lt.mpr (UInt32.le_trans h.start_le hle) (UInt32.lt_of_lt_of_le hother hstart)

theorem Lined.onLine_unique (hs : s.Lined) (h : s.OnLine offset i start)
    (h' : s.OnLine offset j later) : i = j ∧ start = later := by
  obtain rfl : i = j := Nat.le_antisymm (hs.index_le h h' (UInt32.le_refl _))
    (hs.index_le h' h (UInt32.le_refl _))
  exact ⟨rfl,Option.some.inj (h.known.symm.trans h'.known)⟩

theorem Lined.position_eq (hs : s.Lined) (hoffset : offset < Word.maximum) :
    ∃ line start, s.OnLine offset line.toNat start ∧
      line ≠ Word.maximum ∧ offset - start ≠ Word.maximum ∧
      s.position offset = ⟨Word.succ line, Word.succ (offset - start)⟩ := by
  obtain ⟨i,start,h,hposition⟩ := hs.exists_onLine offset
  have hindex : i ≤ start.toNat := index_le_of_ascending hs.ascending h.known
  have hword : (UInt32.ofNat i).toNat = i :=
    UInt32.toNat_ofNat_of_lt' (Nat.lt_of_le_of_lt hindex start.toNat_lt)
  have hline : UInt32.ofNat i ≤ offset := by
    refine UInt32.le_trans (UInt32.le_iff_toNat_le.mpr ?_) h.start_le
    rwa [hword]
  refine ⟨UInt32.ofNat i,start,by rwa [hword],Word.ne_maximum_of_le hline hoffset,
    Word.ne_maximum_of_le (UInt32.sub_le h.start_le) hoffset,?_⟩
  rw [hposition, positionInLine, h.known]
  rfl

theorem Lined.position_toNat (hs : s.Lined) (hoffset : offset < Word.maximum)
    (h : s.OnLine offset i start) :
    (s.position offset).line.toNat = i + 1 ∧
      (s.position offset).column.toNat = offset.toNat - start.toNat + 1 := by
  obtain ⟨line,start',h',hline,hcolumn,hposition⟩ := hs.position_eq hoffset
  obtain ⟨rfl,rfl⟩ := hs.onLine_unique h h'
  rw [hposition, Word.toNat_succ hline, Word.toNat_succ hcolumn,
    UInt32.toNat_sub_of_le _ _ h.start_le]
  exact ⟨rfl,rfl⟩

theorem OnLine.offsetOf?_succ {line : UInt32} (h : s.OnLine offset line.toNat start)
    (hline : line ≠ Word.maximum) (hcolumn : offset - start ≠ Word.maximum) :
    s.offsetOf? ⟨Word.succ line, Word.succ (offset - start)⟩ = some offset := by
  have hsum : Word.add? start (offset - start) = some offset := by
    rw [Word.add?_eq_some_iff, UInt32.toNat_sub_of_le _ _ h.start_le]
    exact Nat.add_sub_cancel' (UInt32.le_iff_toNat_le.mp h.start_le)
  simp only [offsetOf?, Word.pred?_succ hline, Word.pred_succ hcolumn, Option.bind_eq_bind,
    Option.bind_some, h.known, hsum]

theorem Lined.offsetOf?_position (hs : s.Lined) (hoffset : offset < Word.maximum) :
    s.offsetOf? (s.position offset) = some offset := by
  obtain ⟨line,start,h,hline,hcolumn,hposition⟩ := hs.position_eq hoffset
  rw [hposition]
  exact h.offsetOf?_succ hline hcolumn

theorem offsetOf?_eq_some_iff {p : Position} :
    s.offsetOf? p = some offset ↔
      p.line ≠ 0 ∧ ∃ start, s.lineOffsets[p.line.toNat - 1]? = some start ∧
        start.toNat + (p.column.toNat - 1) = offset.toNat := by
  rcases eq_or_ne p.line 0 with hzero | hline
  · have hnone : s.offsetOf? p = none := by
      rw [offsetOf?, hzero]
      rfl
    simp [hnone, hzero]
  · simp only [offsetOf?, Word.pred?_of_ne hline, Word.toNat_pred, Option.bind_eq_bind,
      Option.bind_some, Option.bind_eq_some_iff, Word.add?_eq_some_iff, ne_eq, hline,
      not_false_eq_true, true_and]

theorem Lined.position_of_offsetOf? (hs : s.Lined) (hoffset : offset < Word.maximum) {p : Position}
    (hp : s.offsetOf? p = some offset) (hcolumn : p.column ≠ 0)
    (hnext : ∀ next, s.lineOffsets[p.line.toNat]? = some next → offset < next) :
    s.position offset = p := by
  obtain ⟨hline,start,hstart,hsum⟩ := offsetOf?_eq_some_iff.mp hp
  have hline' : p.line.toNat - 1 + 1 = p.line.toNat :=
    Nat.succ_pred_eq_of_ne_zero fun h => hline (UInt32.toNat_inj.mp h)
  have hcolumn' : p.column.toNat ≠ 0 := fun h => hcolumn (UInt32.toNat_inj.mp h)
  have hon : s.OnLine offset (p.line.toNat - 1) start :=
    ⟨hstart,UInt32.le_iff_toNat_le.mpr (by omega),by rwa [hline']⟩
  obtain ⟨hfirst,hsecond⟩ := hs.position_toNat hoffset hon
  have hsame : (s.position offset).line = p.line := UInt32.toNat_inj.mp (hfirst.trans hline')
  have hsame' : (s.position offset).column = p.column := UInt32.toNat_inj.mp (by omega)
  calc s.position offset = ⟨(s.position offset).line,(s.position offset).column⟩ := rfl
    _ = ⟨p.line,p.column⟩ := by rw [hsame, hsame']
    _ = p := rfl

theorem Lined.key_lt (hs : s.Lined) {other : UInt32} (hother : other < Word.maximum)
    (h : offset < other) : (s.position offset).key < (s.position other).key := by
  obtain ⟨i,start,hi,-⟩ := hs.exists_onLine offset
  obtain ⟨j,later,hj,-⟩ := hs.exists_onLine other
  obtain ⟨hline,hcolumn⟩ := hs.position_toNat (UInt32.lt_trans h hother) hi
  obtain ⟨hline',hcolumn'⟩ := hs.position_toNat hother hj
  rw [Position.key, Position.key, Prod.Lex.toLex_lt_toLex, hline, hline']
  rcases Nat.eq_or_lt_of_le (hs.index_le hi hj (UInt32.le_of_lt h)) with rfl | hless
  · obtain rfl : start = later := Option.some.inj (hi.known.symm.trans hj.known)
    have hstart : start.toNat ≤ offset.toNat := UInt32.le_iff_toNat_le.mp hi.start_le
    have hoffset : offset.toNat < other.toNat := UInt32.lt_iff_toNat_lt.mp h
    refine .inr ⟨rfl,?_⟩
    omega
  · exact .inl (Nat.succ_lt_succ hless)

end Source

end ScriptCache
