import Mathlib.Order.Bounds.Basic
import ScriptCache.Proofs.Bytecode.LineTable

namespace ScriptCache

namespace Source

variable {s : Source} {name text : String} {bytes : List UInt8} {offset start later : UInt32}
  {i j k : Nat}

def StartsLine (bytes : List UInt8) (n : Nat) : Prop :=
  n = 0 ∨ ∃ j, n = j + 1 ∧ bytes[j]? = some newline

theorem toNat_ofNat_of_add_lt (h : k + bytes.length < UInt32.size) : (UInt32.ofNat k).toNat = k :=
  UInt32.toNat_ofNat_of_lt' (Nat.lt_of_le_of_lt (Nat.le_add_right _ _) h)

theorem mem_lineStarts (h : k + bytes.length < UInt32.size) :
    start ∈ lineStarts k bytes ↔ ∃ j, start.toNat = k + j + 1 ∧ bytes[j]? = some newline := by
  induction bytes generalizing k with
  | nil => simp [lineStarts]
  | cons b bs ih =>
    have hbs : k + 1 + bs.length < UInt32.size := by rw [List.length_cons] at h; omega
    have hword : start = UInt32.ofNat (k + 1) ↔ start.toNat = k + 1 := by
      rw [← UInt32.toNat_inj, toNat_ofNat_of_add_lt hbs]
    have hlater : start ∈ lineStarts (k + 1) bs ↔
        ∃ j, start.toNat = k + (j + 1) + 1 ∧ (b :: bs)[j + 1]? = some newline := by
      simp only [ih hbs, List.getElem?_cons_succ, Nat.add_assoc, Nat.add_comm 1]
    rw [← Nat.or_exists_add_one, ← hlater, lineStarts]
    split
    · rename_i hb
      simp only [List.mem_cons, hword, hb, Nat.add_zero, List.getElem?_cons_zero, and_true]
    · rename_i hb
      simp only [List.getElem?_cons_zero, Option.some.injEq, hb, and_false, false_or]

theorem lineStarts_ascending (h : k + bytes.length < UInt32.size) :
    (lineStarts k bytes).Pairwise (· < ·) := by
  induction bytes generalizing k with
  | nil => exact .nil
  | cons b bs ih =>
    have hbs : k + 1 + bs.length < UInt32.size := by rw [List.length_cons] at h; omega
    rw [lineStarts]
    split
    · refine .cons (fun later hlater => ?_) (ih hbs)
      obtain ⟨j,hj,-⟩ := (mem_lineStarts hbs).mp hlater
      rw [UInt32.lt_iff_toNat_lt, hj, toNat_ofNat_of_add_lt hbs]
      omega
    · exact ih hbs

theorem countP_lineStarts (h : k + bytes.length < UInt32.size) (offset : UInt32) :
    (lineStarts k bytes).countP (· ≤ offset) = (bytes.take (offset.toNat - k)).count newline := by
  induction bytes generalizing k with
  | nil => simp [lineStarts]
  | cons b bs ih =>
    have hbs : k + 1 + bs.length < UInt32.size := by rw [List.length_cons] at h; omega
    have hfirst : UInt32.ofNat (k + 1) ≤ offset ↔ k < offset.toNat := by
      rw [UInt32.le_iff_toNat_le, toNat_ofNat_of_add_lt hbs, Nat.succ_le_iff]
    rw [lineStarts]
    rcases Nat.lt_or_ge k offset.toNat with hless | hmore
    · have hone : offset.toNat - k = offset.toNat - (k + 1) + 1 := by omega
      rw [hone, List.take_succ_cons]
      split
      · rename_i hb
        rw [List.countP_cons_of_pos (p := (· ≤ offset)) (decide_eq_true (hfirst.mpr hless)), ih hbs,
          hb, List.count_cons_self]
      · rename_i hb
        rw [ih hbs, List.count_cons_of_ne hb]
    · -- no byte lies before the offset, and all lines start after it
      have hnone : (lineStarts (k + 1) bs).countP (· ≤ offset) = 0 := by
        rw [ih hbs, Nat.sub_eq_zero_of_le (Nat.le_succ_of_le hmore), List.take_zero, List.count_nil]
      rw [Nat.sub_eq_zero_of_le hmore, List.take_zero, List.count_nil]
      split
      · have hlater : ¬UInt32.ofNat (k + 1) ≤ offset := fun h => Nat.not_lt.mpr hmore (hfirst.mp h)
        rw [List.countP_cons_of_neg (p := (· ≤ offset)) (mt of_decide_eq_true hlater), hnone]
      · exact hnone

theorem Lined.start_le_iff (hs : s.Lined) (h : s.OnLine offset i start)
    (hj : s.lineOffsets[j]? = some later) : later ≤ offset ↔ j ≤ i := by
  constructor
  · intro hle
    refine Nat.le_of_not_lt fun hlt => ?_
    obtain ⟨hlong,-⟩ := List.getElem?_eq_some_iff.mp hj
    have hnext : s.lineOffsets[i + 1]? = some s.lineOffsets[i + 1] :=
      List.getElem?_eq_getElem (Nat.lt_of_le_of_lt hlt hlong)
    exact UInt32.not_lt.mpr (UInt32.le_trans (hs.le_of_index_le hnext hj hlt) hle)
      (h.before_next _ hnext)
  · intro hle
    exact UInt32.le_trans (hs.le_of_index_le hj h.known hle) h.start_le

theorem Lined.countP_eq (hs : s.Lined) (h : s.OnLine offset i start) :
    s.lineOffsets.countP (· ≤ offset) = i + 1 := by
  obtain ⟨hlong,-⟩ := List.getElem?_eq_some_iff.mp h.known
  have hbefore : (s.lineOffsets.take (i + 1)).countP (· ≤ offset) = i + 1 := by
    rw [List.countP_eq_length.mpr, List.length_take_of_le hlong]
    intro other hother
    obtain ⟨j,hj,rfl⟩ := List.mem_take_iff_getElem.mp hother
    refine decide_eq_true ((hs.start_le_iff h (List.getElem?_eq_getElem _)).mpr ?_)
    omega
  have hafter : (s.lineOffsets.drop (i + 1)).countP (· ≤ offset) = 0 := by
    rw [List.countP_eq_zero]
    intro other hother
    obtain ⟨j,hj,rfl⟩ := List.mem_drop_iff_getElem.mp hother
    rw [decide_eq_true_iff, hs.start_le_iff h (List.getElem?_eq_getElem _)]
    omega
  rw [← List.take_append_drop (i + 1) s.lineOffsets, List.countP_append, hbefore, hafter]

theorem Lined.isGreatest_start (hs : s.Lined) (h : s.OnLine offset i start) :
    IsGreatest {n | n ∈ s.lineOffsets ∧ n ≤ offset} start := by
  refine ⟨⟨List.mem_of_getElem? h.known,h.start_le⟩,?_⟩
  rintro other ⟨hother,hle⟩
  obtain ⟨j,hj⟩ := List.mem_iff_getElem?.mp hother
  exact hs.le_of_index_le hj h.known ((hs.start_le_iff h hj).mp hle)

theorem lined_scan (h : (Text.utf8 text).length < UInt32.size) : (scan name text).Lined where
  start := rfl
  ascending := by
    have hsize : 0 + (Text.utf8 text).length < UInt32.size := by rwa [Nat.zero_add]
    refine .cons (fun start hstart => ?_) (lineStarts_ascending hsize)
    obtain ⟨j,hj,-⟩ := (mem_lineStarts hsize).mp hstart
    rw [UInt32.lt_iff_toNat_lt, hj]
    exact Nat.succ_pos _

theorem mem_lineOffsets_scan (h : (Text.utf8 text).length < UInt32.size) :
    start ∈ (scan name text).lineOffsets ↔ StartsLine (Text.utf8 text) start.toNat := by
  have hsize : 0 + (Text.utf8 text).length < UInt32.size := by rwa [Nat.zero_add]
  rw [scan, List.mem_cons, mem_lineStarts hsize, ← UInt32.toNat_inj]
  simp only [StartsLine, Nat.zero_add]
  rfl

theorem countP_lineOffsets_scan (h : (Text.utf8 text).length < UInt32.size) (offset : UInt32) :
    (scan name text).lineOffsets.countP (· ≤ offset) =
      1 + ((Text.utf8 text).take offset.toNat).count newline := by
  have hsize : 0 + (Text.utf8 text).length < UInt32.size := by rwa [Nat.zero_add]
  rw [scan, List.countP_cons_of_pos (p := (· ≤ offset)) (decide_eq_true (UInt32.zero_le)),
    countP_lineStarts hsize, Nat.sub_zero, Nat.add_comm]

theorem isGreatest_startsLine (h : (Text.utf8 text).length < UInt32.size)
    (hon : (scan name text).OnLine offset i start) :
    IsGreatest {n | StartsLine (Text.utf8 text) n ∧ n ≤ offset.toNat} start.toNat := by
  obtain ⟨⟨hmem,hle⟩,hgreatest⟩ := (lined_scan h).isGreatest_start hon
  refine ⟨⟨(mem_lineOffsets_scan h).mp hmem,UInt32.le_iff_toNat_le.mp hle⟩,?_⟩
  rintro n ⟨hn,hle'⟩
  have hword : (UInt32.ofNat n).toNat = n :=
    UInt32.toNat_ofNat_of_lt' (Nat.lt_of_le_of_lt hle' offset.toNat_lt)
  have hstart : UInt32.ofNat n ∈ (scan name text).lineOffsets := by
    rwa [mem_lineOffsets_scan h, hword]
  have hoffset : UInt32.ofNat n ≤ offset := by rwa [UInt32.le_iff_toNat_le, hword]
  simpa only [UInt32.le_iff_toNat_le, hword] using hgreatest ⟨hstart,hoffset⟩

theorem scan_maps_lines (name text : String)
    (hsize : (Text.utf8 text).length < Word.maximum.toNat) :
    let s := scan name text
    let bytes := Text.utf8 text
    (∀ offset : UInt32, offset.toNat ≤ bytes.length →
      (s.position offset).line.toNat = 1 + (bytes.take offset.toNat).count newline ∧
      (∃ start, IsGreatest {n | StartsLine bytes n ∧ n ≤ offset.toNat} start ∧
        (s.position offset).column.toNat = 1 + (offset.toNat - start)) ∧
      s.offsetOf? (s.position offset) = some offset ∧
      ∀ later : UInt32, later.toNat ≤ bytes.length → offset < later →
        (s.position offset).key < (s.position later).key) ∧
    ∀ p offset, s.offsetOf? p = some offset → 1 ≤ p.column → offset.toNat ≤ bytes.length →
      (∀ next, s.lineOffsets[p.line.toNat]? = some next → offset < next) →
      s.position offset = p := by
  intro s bytes
  have hwords : bytes.length < UInt32.size := Nat.lt_trans hsize Word.maximum.toNat_lt
  have hs : s.Lined := lined_scan hwords
  have hinside {offset : UInt32} (h : offset.toNat ≤ bytes.length) : offset < Word.maximum :=
    UInt32.lt_iff_toNat_lt.mpr (Nat.lt_of_le_of_lt h hsize)
  constructor
  · intro offset hoffset
    obtain ⟨i,start,hon,-⟩ := hs.exists_onLine offset
    obtain ⟨hline,hcolumn⟩ := hs.position_toNat (hinside hoffset) hon
    refine ⟨?_,⟨start.toNat,isGreatest_startsLine hwords hon,?_⟩,
      hs.offsetOf?_position (hinside hoffset),fun later hlater => hs.key_lt (hinside hlater)⟩
    · rw [hline, ← hs.countP_eq hon]
      exact countP_lineOffsets_scan hwords offset
    · rw [hcolumn, Nat.add_comm]
  · intro p offset hp hcolumn hoffset hnext
    refine hs.position_of_offsetOf? (hinside hoffset) hp ?_ hnext
    rintro hzero
    rw [hzero] at hcolumn
    exact absurd hcolumn (by decide)

theorem scan_maps_lines_blank_line :
    (Text.utf8 "a\n\nb").length < Word.maximum.toNat ∧
      ((scan "a.js" "a\n\nb").position 4).line.toNat =
        1 + ((Text.utf8 "a\n\nb").take 4).count newline ∧
      (scan "a.js" "a\n\nb").offsetOf? ((scan "a.js" "a\n\nb").position 2) = some 2 ∧
      ((scan "a.js" "a\n\nb").position 2).key < ((scan "a.js" "a\n\nb").position 3).key ∧
      (scan "a.js" "a\n\nb").position 2 = ⟨2,1⟩ := by
  have hsize : (Text.utf8 "a\n\nb").length < Word.maximum.toNat := by decide
  obtain ⟨hoffsets,hpositions⟩ := scan_maps_lines "a.js" "a\n\nb" hsize
  obtain ⟨hline,-,-,-⟩ := hoffsets 4 (by decide)
  obtain ⟨-,-,hback,hlater⟩ := hoffsets 2 (by decide)
  have hnext : ∀ next, (scan "a.js" "a\n\nb").lineOffsets[2]? = some next → 2 < next := by
    rintro next ⟨⟩
    decide
  exact ⟨hsize,hline,hback,hlater 3 (by decide) (by decide),
    hpositions ⟨2,1⟩ 2 (by decide) (by decide) (by decide) hnext⟩

end Source

end ScriptCache
