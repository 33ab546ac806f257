import ScriptCache.Proofs.Bytecode.Predecessor
import ScriptCache.Proofs.Codec.RoundTrip
import ScriptCache.Proofs.Inspector.Annotation

namespace ScriptCache

def Word.sub? (m n : UInt32) : Option UInt32 :=
  if n ≤ m then some (m - n) else none

theorem Word.sub_eq_maximum_iff {m n : UInt32} (h : n ≤ m) :
    m - n = Word.maximum ↔ m = Word.maximum ∧ n = 0 := by
  have hlast : Word.maximum.toNat + 1 = UInt32.size := rfl
  have hm : m.toNat < UInt32.size := m.toNat_lt
  have hle : n.toNat ≤ m.toNat := UInt32.le_iff_toNat_le.mp h
  simp only [← UInt32.toNat_inj, UInt32.toNat_sub_of_le _ _ h, UInt32.toNat_zero]
  omega

theorem Word.one_le {n : UInt32} (h : n ≠ 0) : 1 ≤ n := by
  rw [UInt32.le_iff_toNat_le]
  exact Nat.one_le_iff_ne_zero.mpr fun hzero => h (UInt32.toNat_inj.mp hzero)

namespace Source

def lineColumn? (s : Source) (index : Nat) (offset : UInt32) : Option Position := do
  let start ← s.lineOffsets[index]?
  let column ← Word.sub? offset start
  return ⟨Word.succ (UInt32.ofNat index), Word.succ column⟩

def position? (search : List UInt32 → UInt32 → KeySearch) (s : Source) (offset : UInt32) :
    Option Position :=
  match (search s.lineOffsets offset).last? with
  | some i => s.lineColumn? i offset
  | none => some ⟨1, Word.succ offset⟩

end Source

def Script.location? (search : List UInt32 → UInt32 → KeySearch) (x : Script) (offset : UInt32) :
    Option Location := do
  let position ← x.source.position? search offset
  return ⟨x.id, ← Word.pred? position.line, ← Word.pred? position.column⟩

namespace Source

variable {s : Source} {offset start : UInt32} {i : Nat}
  {search : List UInt32 → UInt32 → KeySearch}

theorem lineColumn?_eq (hstart : s.lineOffsets[i]? = some start) (hle : start ≤ offset) :
    s.lineColumn? i offset = some (s.positionInLine i offset) := by
  simp [lineColumn?, positionInLine, hstart, Word.sub?, hle]

theorem positionInLine_ne_zero (s : Source) (i : Nat) (offset : UInt32) :
    (s.positionInLine i offset).line ≠ 0 ∧ (s.positionInLine i offset).column ≠ 0 :=
  ⟨Word.succ_ne_zero _,Word.succ_ne_zero _⟩

theorem exists_position? (h : KeySearch.Answers id s.lineOffsets offset
    (search s.lineOffsets offset)) :
    ∃ position, s.position? search offset = some position ∧ position.line ≠ 0 ∧
      position.column ≠ 0 := by
  unfold position?
  cases hlast : (search s.lineOffsets offset).last? with
  | none => exact ⟨_,rfl,(by decide : (1 : UInt32) ≠ 0),Word.succ_ne_zero _⟩
  | some i =>
    obtain ⟨start,hstart,hle⟩ := h.exists_entry hlast
    obtain ⟨hline,hcolumn⟩ := s.positionInLine_ne_zero i offset
    exact ⟨_,lineColumn?_eq hstart hle,hline,hcolumn⟩

theorem position?_words (h : s.lineOffsets.Pairwise (· ≤ ·)) (offset : UInt32) :
    s.position? KeySearch.words offset = some (s.position offset) := by
  rw [position_eq_last?, position?]
  cases hlast : (KeySearch.words s.lineOffsets offset).last? with
  | none => rfl
  | some i =>
    obtain ⟨start,hstart,hle⟩ := (KeySearch.right_words _ offset h).exists_entry hlast
    exact lineColumn?_eq hstart hle

theorem Lined.position?_eq (hs : s.Lined) (h : KeySearch.Answers id s.lineOffsets offset
    (search s.lineOffsets offset)) : s.position? search offset = some (s.position offset) := by
  obtain ⟨i,start,hlast,hon⟩ := hs.onLine_of_answers h
  obtain ⟨j,later,hother,hposition⟩ := hs.exists_onLine offset
  obtain ⟨rfl,rfl⟩ := hs.onLine_unique hon hother
  rw [position?, hlast, hposition]
  exact lineColumn?_eq hon.known hon.start_le

theorem Lined.start_eq_zero_iff (hs : s.Lined) (h : s.OnLine offset i start) :
    start = 0 ↔ i = 0 := by
  have hfirst : s.lineOffsets[0]? = some 0 := by
    rw [← List.head?_eq_getElem?, hs.start]
  constructor
  · rintro rfl
    have hle : i ≤ (0 : UInt32).toNat := index_le_of_ascending hs.ascending h.known
    exact Nat.le_zero.mp hle
  · rintro rfl
    exact Option.some.inj (h.known.symm.trans hfirst)

theorem Lined.position_of_onLine (hs : s.Lined) (hsize : s.lineOffsets.length < UInt32.size)
    (h : s.OnLine offset i start) :
    ∃ line : UInt32, line.toNat = i ∧ line ≠ Word.maximum ∧
      s.position offset = ⟨Word.succ line, Word.succ (offset - start)⟩ := by
  obtain ⟨j,later,hother,hposition⟩ := hs.exists_onLine offset
  obtain ⟨rfl,rfl⟩ := hs.onLine_unique h hother
  have hshort : i < s.lineOffsets.length := (List.getElem?_eq_some_iff.mp h.known).1
  have hword : (UInt32.ofNat i).toNat = i :=
    UInt32.toNat_ofNat_of_lt' (Nat.lt_trans hshort hsize)
  refine ⟨UInt32.ofNat i,hword,fun hmax => ?_,?_⟩
  · rw [← UInt32.toNat_inj, hword] at hmax
    have hlast : Word.maximum.toNat + 1 = UInt32.size := rfl
    omega
  · rw [hposition, positionInLine, h.known]
    rfl

theorem Lined.offsetOf?_position_iff (hs : s.Lined) (hsize : s.lineOffsets.length < UInt32.size) :
    s.offsetOf? (s.position offset) = some offset ↔
      ¬(offset = Word.maximum ∧ (s.position offset).line = 1) := by
  obtain ⟨i,start,hon,-⟩ := hs.exists_onLine offset
  obtain ⟨line,rfl,hline,hposition⟩ := hs.position_of_onLine hsize hon
  have hfirst : (s.position offset).line = 1 ↔ start = 0 := by
    rw [hs.start_eq_zero_iff hon, hposition, ← UInt32.toNat_inj, Word.toNat_succ hline]
    exact Nat.succ_inj
  rw [hfirst, ← Word.sub_eq_maximum_iff hon.start_le]
  constructor
  · intro hback hcolumn
    rw [hposition, hcolumn, offsetOf?_eq_some_iff] at hback
    obtain ⟨-,start',hknown,hsum⟩ := hback
    obtain ⟨rfl,rfl⟩ := (Word.sub_eq_maximum_iff hon.start_le).mp hcolumn
    rw [Word.toNat_succ hline, Nat.add_sub_cancel] at hknown
    obtain rfl := Option.some.inj (hon.known.symm.trans hknown)
    change 0 + ((Word.succ Word.maximum).toNat - 1) = Word.maximum.toNat at hsum
    exact absurd hsum (by decide)
  · intro hcolumn
    rw [hposition]
    exact hon.offsetOf?_succ hline hcolumn

end Source

namespace Script

variable {x : Script} {offset : UInt32} {position : Position}
  {search : List UInt32 → UInt32 → KeySearch}

theorem location?_eq (h : x.source.position? search offset = some position)
    (hline : position.line ≠ 0) (hcolumn : position.column ≠ 0) :
    x.location? search offset = some ⟨x.id, position.line - 1, position.column - 1⟩ := by
  simp [location?, h, Word.pred?, hline, hcolumn]

theorem exists_location? (hsearch : KeySearch.Right search)
    (hlines : x.source.lineOffsets.Pairwise (· ≤ ·)) (offset : UInt32) :
    ∃ position l, x.source.position? search offset = some position ∧ 1 ≤ position.line ∧
      1 ≤ position.column ∧ x.location? search offset = some l ∧ l.Is x.id position := by
  obtain ⟨position,hposition,hline,hcolumn⟩ :=
    Source.exists_position? (hsearch x.source.lineOffsets offset hlines)
  refine ⟨position,_,hposition,Word.one_le hline,Word.one_le hcolumn,
    location?_eq hposition hline hcolumn,rfl,?_,?_⟩
  · exact Word.toNat_eq_sub_one hline
  · exact Word.toNat_eq_sub_one hcolumn

theorem location?_words (h : x.source.lineOffsets.Pairwise (· ≤ ·)) (offset : UInt32) :
    x.location? KeySearch.words offset = some (x.location offset) := by
  obtain ⟨hline,hcolumn⟩ := x.source.position_ne_zero offset
  exact location?_eq (Source.position?_words h offset) hline hcolumn

theorem locations_of_restored (search : List UInt32 → UInt32 → KeySearch)
    (hsearch : KeySearch.Right search) (x : Script)
    (hlines : x.source.lineOffsets.Pairwise (· ≤ ·)) (offset : UInt32) :
    (∃ position l, x.source.position? search offset = some position ∧ 1 ≤ position.line ∧
      1 ≤ position.column ∧ x.location? search offset = some l ∧ l.Is x.id position) ∧
    (x.source.position? KeySearch.words offset = some (x.source.position offset) ∧
      x.location? KeySearch.words offset = some (x.location offset)) ∧
    (x.source.Lined → x.source.position? search offset = some (x.source.position offset) ∧
      (x.source.lineOffsets.length < UInt32.size →
        (x.source.offsetOf? (x.source.position offset) = some offset ↔
          ¬(offset = Word.maximum ∧ (x.source.position offset).line = 1)))) ∧
    ∀ bytes version p, Program.decode bytes version = .ok p →
      p.source.lineOffsets.length < UInt32.size := by
  have hanswer := hsearch x.source.lineOffsets offset hlines
  refine ⟨exists_location? hsearch hlines offset,⟨Source.position?_words hlines offset,
    location?_words hlines offset⟩,?_,?_⟩
  · intro hs
    exact ⟨hs.position?_eq hanswer,hs.offsetOf?_position_iff⟩
  · intro bytes version p hfile
    obtain ⟨hstored,-⟩ := Program.decode_eq_ok_iff.mp hfile
    exact hstored.fits.source.lineOffsets

theorem locations_of_restored_repeated :
    let x : Script := ⟨"1", ⟨"a.js", "ab", 2, [2, 5, 5]⟩, [1, 5, 9]⟩
    let y : Script := ⟨"1", ⟨"a.js", "a\nb", 3, [0, 2]⟩, []⟩
    let p : Program := ⟨"", y.source, [], [], []⟩
    KeySearch.Right KeySearch.words ∧ x.source.lineOffsets.Pairwise (· ≤ ·) ∧
      (∀ offset ∈ x.stops, x.location? KeySearch.words offset = some (x.location offset)) ∧
      y.source.lineOffsets.Pairwise (· ≤ ·) ∧ y.source.Lined ∧
      y.source.offsetOf? (y.source.position Word.maximum) = some Word.maximum ∧
      Program.decode (p.encode 1) 1 = .ok p ∧ p.source.lineOffsets.length < UInt32.size := by
  intro x y p
  have hx : x.source.lineOffsets.Pairwise (· ≤ ·) := by decide
  have hy : y.source.lineOffsets.Pairwise (· ≤ ·) := by decide
  have hlined : y.source.Lined := by decide
  have hstored : p.Storable := ⟨by decide,by decide,rfl⟩
  have hfile : Program.decode (p.encode 1) 1 = .ok p := Program.decode_eq_ok_iff.mpr ⟨hstored,rfl⟩
  obtain ⟨-,-,hback,hsize⟩ :=
    locations_of_restored KeySearch.words KeySearch.right_words y hy Word.maximum
  refine ⟨KeySearch.right_words,hx,fun offset _ => ?_,hy,hlined,?_,hfile,hsize _ _ p hfile⟩
  · exact (locations_of_restored KeySearch.words KeySearch.right_words x hx offset).2.1.2
  · exact ((hback hlined).2 (hsize _ _ p hfile)).mpr (by decide)

end Script

end ScriptCache
