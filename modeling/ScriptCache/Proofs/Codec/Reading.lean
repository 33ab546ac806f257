import ScriptCache.Codec.Encode
import ScriptCache.Codec.Reader

namespace ScriptCache

def Cursor.Spans (c : Cursor) (bytes : List UInt8) (c' : Cursor) : Prop :=
  c.rest = bytes ++ c'.rest ∧ c'.offset = c.offset + bytes.length

namespace Cursor

variable {c c' c'' : Cursor} {a b : List UInt8}

@[simp] theorem spans_nil : c.Spans [] c' ↔ c' = c := by
  obtain ⟨o,rest⟩ := c
  obtain ⟨o',rest'⟩ := c'
  simp only [Spans, List.nil_append, List.length_nil, Nat.add_zero, mk.injEq]
  exact ⟨fun h => ⟨h.2,h.1.symm⟩, fun h => ⟨h.2.symm,h.1⟩⟩

theorem spans_append : c.Spans (a ++ b) c'' ↔ ∃ c', c.Spans a c' ∧ c'.Spans b c'' := by
  constructor
  · rintro ⟨hrest,hoffset⟩
    refine ⟨⟨c.offset + a.length, b ++ c''.rest⟩, ⟨?_,rfl⟩, ⟨rfl,?_⟩⟩
    · rw [hrest, List.append_assoc]
    · rw [hoffset, List.length_append, Nat.add_assoc]
  · rintro ⟨c',⟨hrest,hoffset⟩,⟨hrest',hoffset'⟩⟩
    refine ⟨?_,?_⟩
    · rw [hrest, hrest', List.append_assoc]
    · rw [hoffset', hoffset, List.length_append, Nat.add_assoc]

theorem spans_cons {x : UInt8} :
    c.Spans (x :: b) c'' ↔ ∃ c', c.Spans [x] c' ∧ c'.Spans b c'' :=
  spans_append (a := [x])

theorem spans_mk (o : Nat) (bytes rest : List UInt8) :
    Spans ⟨o, bytes ++ rest⟩ bytes ⟨o + bytes.length, rest⟩ :=
  ⟨rfl,rfl⟩

end Cursor

namespace Reader

variable {α β : Type} {c c' : Cursor}

theorem bind_eq_ok_iff {r : Reader α} {f : α → Reader β} {b : β} :
    (r >>= f) c = .ok (b, c') ↔ ∃ a m, r c = .ok (a, m) ∧ f a m = .ok (b, c') := by
  simp only [bind, StateT.bind, Except.bind]
  cases hr : r c with
  | error e => simp
  | ok p =>
    obtain ⟨a,m⟩ := p
    simp only [Except.ok.injEq, Prod.mk.injEq]
    constructor
    · intro h
      exact ⟨a,m,⟨rfl,rfl⟩,h⟩
    · rintro ⟨a',m',⟨rfl,rfl⟩,h⟩
      exact h

theorem bind_eq_error_iff {r : Reader α} {f : α → Reader β} {e : CacheError} :
    (r >>= f) c = .error e ↔ r c = .error e ∨ ∃ a m, r c = .ok (a, m) ∧ f a m = .error e := by
  simp only [bind, StateT.bind, Except.bind]
  cases hr : r c with
  | error e' => simp
  | ok p =>
    obtain ⟨a,m⟩ := p
    simp only [reduceCtorEq, false_or, Except.ok.injEq, Prod.mk.injEq]
    constructor
    · intro h
      exact ⟨a,m,⟨rfl,rfl⟩,h⟩
    · rintro ⟨a',m',⟨rfl,rfl⟩,h⟩
      exact h

theorem pure_eq_ok_iff {a b : α} : (pure a : Reader α) c = .ok (b, c') ↔ b = a ∧ c' = c := by
  change (Except.ok (a, c) : Except CacheError (α × Cursor)) = .ok (b, c') ↔ b = a ∧ c' = c
  simp only [Except.ok.injEq, Prod.mk.injEq, eq_comm]

theorem fail_ne_ok {o : Nat} {reason : Corruption} {b : α} :
    (fail o reason : Reader α) c ≠ .ok (b, c') :=
  fun h => nomatch h

theorem ite_eq_ok_iff {p : Prop} [Decidable p] {r s : Reader α} {a : α} :
    (if p then r else s) c = .ok (a, c') ↔
      (p ∧ r c = .ok (a, c')) ∨ (¬p ∧ s c = .ok (a, c')) := by
  split <;> simp [*]

theorem bind_of_ok {r : Reader α} {f : α → Reader β} {a : α} (h : r c = .ok (a, c')) :
    (r >>= f) c = f a c' := by
  simp only [bind, StateT.bind, Except.bind, h]

theorem bind_of_error {r : Reader α} {f : α → Reader β} {e : CacheError} (h : r c = .error e) :
    (r >>= f) c = .error e := by
  simp only [bind, StateT.bind, Except.bind, h]

theorem offset_eq_ok_iff {n : Nat} : offset c = .ok (n, c') ↔ n = c.offset ∧ c' = c := by
  simp only [offset, Except.ok.injEq, Prod.mk.injEq, eq_comm]

theorem remaining_eq_ok_iff {n : Nat} :
    remaining c = .ok (n, c') ↔ n = c.rest.length ∧ c' = c := by
  simp only [remaining, Except.ok.injEq, Prod.mk.injEq, eq_comm]

theorem take_eq_ok_iff {n : Nat} {bytes : List UInt8} :
    take n c = .ok (bytes, c') ↔ bytes.length = n ∧ c.Spans bytes c' := by
  obtain ⟨o,rest⟩ := c
  obtain ⟨o',rest'⟩ := c'
  unfold take Cursor.Spans
  split
  · rename_i hle
    simp only [Except.ok.injEq, Prod.mk.injEq, Cursor.mk.injEq]
    constructor
    · rintro ⟨rfl,rfl,rfl⟩
      simp [Nat.min_eq_left hle]
    · rintro ⟨rfl,rfl,rfl⟩
      simp
  · rename_i hgt
    simp only [reduceCtorEq, false_iff, not_and]
    rintro rfl rfl
    simp at hgt

theorem byte_eq_ok_iff {b : UInt8} : byte c = .ok (b, c') ↔ c.Spans [b] c' := by
  obtain ⟨o,rest⟩ := c
  obtain ⟨o',rest'⟩ := c'
  cases rest with
  | nil => simp [byte, Cursor.Spans]
  | cons x rest =>
    simp only [byte, Cursor.Spans, Except.ok.injEq, Prod.mk.injEq, Cursor.mk.injEq,
      List.cons_append, List.nil_append, List.cons.injEq, List.length_singleton]
    constructor
    · rintro ⟨rfl,rfl,rfl⟩
      exact ⟨⟨rfl,rfl⟩,rfl⟩
    · rintro ⟨⟨rfl,rfl⟩,rfl⟩
      exact ⟨rfl,rfl,rfl⟩

theorem number_eq_ok_iff {width n : Nat} :
    number width c = .ok (n, c') ↔
      n < BigEndian.capacity width ∧ c.Spans (BigEndian.encode width n) c' := by
  simp only [number, bind_eq_ok_iff, take_eq_ok_iff, pure_eq_ok_iff]
  constructor
  · rintro ⟨bytes,m,⟨rfl,hspan⟩,rfl,rfl⟩
    rw [BigEndian.encode_decode]
    exact ⟨BigEndian.decode_lt bytes, hspan⟩
  · rintro ⟨hlt,hspan⟩
    refine ⟨_,c',⟨BigEndian.length_encode width n,hspan⟩,?_,rfl⟩
    rw [BigEndian.decode_encode, Nat.mod_eq_of_lt hlt]

theorem ofNumber_eq_ok_iff {width : Nat} {ofNat : Nat → α} {toNat : α → Nat} {a : α}
    (hofNat : ∀ a, ofNat (toNat a) = a) (hlt : ∀ a, toNat a < BigEndian.capacity width)
    (htoNat : ∀ n, n < BigEndian.capacity width → toNat (ofNat n) = n) :
    (do return ofNat (← number width) : Reader α) c = .ok (a, c') ↔
      c.Spans (BigEndian.encode width (toNat a)) c' := by
  simp only [bind_eq_ok_iff, number_eq_ok_iff, pure_eq_ok_iff]
  constructor
  · rintro ⟨n,m,⟨hn,hspan⟩,rfl,rfl⟩
    rwa [htoNat n hn]
  · intro hspan
    exact ⟨toNat a,c',⟨hlt a,hspan⟩,(hofNat a).symm,rfl⟩

theorem half_eq_ok_iff {n : UInt16} : half c = .ok (n, c') ↔ c.Spans (Encode.half n) c' :=
  ofNumber_eq_ok_iff (fun n => n.ofNat_toNat) (fun n => n.toNat_lt)
    (fun _ hn => UInt16.toNat_ofNat_of_lt' hn)

theorem word_eq_ok_iff {n : UInt32} : word c = .ok (n, c') ↔ c.Spans (Encode.word n) c' :=
  ofNumber_eq_ok_iff (fun n => n.ofNat_toNat) (fun n => n.toNat_lt)
    (fun _ hn => UInt32.toNat_ofNat_of_lt' hn)

theorem long_eq_ok_iff {n : UInt64} : long c = .ok (n, c') ↔ c.Spans (Encode.long n) c' :=
  ofNumber_eq_ok_iff (fun n => n.ofNat_toNat) (fun n => n.toNat_lt)
    (fun _ hn => UInt64.toNat_ofNat_of_lt' hn)

theorem signed_eq_ok_iff {n : Int32} :
    signed c = .ok (n, c') ↔ c.Spans (Encode.offset n) c' := by
  simp only [signed, bind_eq_ok_iff, word_eq_ok_iff, pure_eq_ok_iff, Encode.offset]
  constructor
  · rintro ⟨m,d,hspan,rfl,rfl⟩
    exact hspan
  · intro hspan
    exact ⟨n.toUInt32,c',hspan,rfl,rfl⟩

theorem flag_eq_ok_iff {b : Bool} : flag c = .ok (b, c') ↔ c.Spans (Encode.flag b) c' := by
  simp only [flag, bind_eq_ok_iff, offset_eq_ok_iff, byte_eq_ok_iff, Encode.flag]
  constructor
  · rintro ⟨o,d,⟨rfl,rfl⟩,x,d,hspan,h⟩
    split at h
    · obtain ⟨rfl,rfl⟩ := pure_eq_ok_iff.mp h
      simp_all
    · split at h
      · obtain ⟨rfl,rfl⟩ := pure_eq_ok_iff.mp h
        simp_all
      · exact absurd h fail_ne_ok
  · intro hspan
    refine ⟨_,c,⟨rfl,rfl⟩,_,c',hspan,?_⟩
    cases b <;> exact pure_eq_ok_iff.mpr ⟨rfl,rfl⟩

def tabled (ofByte? : UInt8 → Option α) (unknown : UInt8 → Corruption) : Reader α := do
  let start ← offset
  let b ← byte
  match ofByte? b with
  | some a => return a
  | none => fail start (unknown b)

theorem tabled_eq_ok_iff {ofByte? : UInt8 → Option α} {toByte : α → UInt8}
    {unknown : UInt8 → Corruption} (hof : ∀ a, ofByte? (toByte a) = some a)
    (hto : ∀ b a, ofByte? b = some a → toByte a = b) {a : α} :
    tabled ofByte? unknown c = .ok (a, c') ↔ c.Spans [toByte a] c' := by
  simp only [tabled, bind_eq_ok_iff, offset_eq_ok_iff, byte_eq_ok_iff]
  constructor
  · rintro ⟨o,d,⟨rfl,rfl⟩,b,m,hspan,h⟩
    cases hb : ofByte? b with
    | none =>
      rw [hb] at h
      exact absurd h fail_ne_ok
    | some a' =>
      rw [hb] at h
      obtain ⟨rfl,rfl⟩ := pure_eq_ok_iff.mp h
      rwa [hto b a hb]
  · intro hspan
    refine ⟨_,c,⟨rfl,rfl⟩,toByte a,c',hspan,?_⟩
    rw [hof]
    exact pure_eq_ok_iff.mpr ⟨rfl,rfl⟩

theorem count_eq_ok_iff {itemSize n : Nat} :
    count itemSize c = .ok (n, c') ↔
      n < UInt32.size ∧ c.Spans (Encode.size n) c' ∧ n * itemSize ≤ c'.rest.length := by
  simp only [count, bind_eq_ok_iff, offset_eq_ok_iff, number_eq_ok_iff, remaining_eq_ok_iff,
    Encode.size]
  constructor
  · rintro ⟨o,d,⟨rfl,rfl⟩,m,d,⟨hlt,hspan⟩,left,d,⟨rfl,rfl⟩,h⟩
    split at h
    · exact absurd h fail_ne_ok
    · rename_i hroom
      obtain ⟨rfl,rfl⟩ := pure_eq_ok_iff.mp h
      exact ⟨hlt,hspan,Nat.le_of_not_lt hroom⟩
  · rintro ⟨hlt,hspan,hroom⟩
    refine ⟨_,c,⟨rfl,rfl⟩,n,c',⟨hlt,hspan⟩,_,c',⟨rfl,rfl⟩,?_⟩
    rw [if_neg (Nat.not_lt.mpr hroom)]
    exact pure_eq_ok_iff.mpr ⟨rfl,rfl⟩

theorem text_eq_ok_iff {s : String} :
    text c = .ok (s, c') ↔ (Text.utf8 s).length < UInt32.size ∧ c.Spans (Encode.text s) c' := by
  simp only [text, bind_eq_ok_iff, offset_eq_ok_iff, count_eq_ok_iff, take_eq_ok_iff,
    Encode.text, Cursor.spans_append]
  constructor
  · rintro ⟨o,d,⟨rfl,rfl⟩,n,m,⟨hlt,hsize,-⟩,bytes,d,⟨rfl,hspan⟩,h⟩
    cases ht : Text.ofUtf8? bytes with
    | none =>
      rw [ht] at h
      exact absurd h fail_ne_ok
    | some t =>
      rw [ht] at h
      obtain ⟨rfl,rfl⟩ := pure_eq_ok_iff.mp h
      rw [Text.utf8_of_ofUtf8? ht]
      exact ⟨hlt,m,hsize,hspan⟩
  · rintro ⟨hlt,m,hsize,hspan⟩
    have hroom : (Text.utf8 s).length * 1 ≤ m.rest.length := by
      rw [hspan.1, List.length_append]
      omega
    refine ⟨_,c,⟨rfl,rfl⟩,_,m,⟨hlt,hsize,hroom⟩,_,c',⟨rfl,hspan⟩,?_⟩
    rw [Text.ofUtf8?_utf8]
    exact pure_eq_ok_iff.mpr ⟨rfl,rfl⟩

def Reads (r : Reader α) (write : α → List UInt8) (fits : α → Prop) : Prop :=
  ∀ a c c', r c = .ok (a, c') ↔ fits a ∧ c.Spans (write a) c'

variable {item : Reader α} {write : α → List UInt8} {fits : α → Prop}

theorem Reads.eq_ok_iff (h : Reads item write fits) {a : α} :
    item c = .ok (a, c') ↔ fits a ∧ c.Spans (write a) c' :=
  h a c c'

theorem times_eq_ok_iff (h : Reads item write fits) {n : Nat} {as : List α} :
    times item n c = .ok (as, c') ↔
      as.length = n ∧ (∀ a ∈ as, fits a) ∧ c.Spans (as.flatMap write) c' := by
  induction n generalizing as c c' with
  | zero =>
    simp only [times, pure_eq_ok_iff, List.length_eq_zero_iff]
    constructor
    · rintro ⟨rfl,rfl⟩
      simp
    · rintro ⟨rfl,-,hspan⟩
      exact ⟨rfl, Cursor.spans_nil.mp hspan⟩
  | succ n ih =>
    simp only [times, bind_eq_ok_iff, h.eq_ok_iff, ih, pure_eq_ok_iff]
    constructor
    · rintro ⟨a,m,⟨hfit,hspan⟩,rest,d,⟨hlen,hall,hrest⟩,rfl,rfl⟩
      refine ⟨by simp [hlen], by simpa using ⟨hfit,hall⟩, ?_⟩
      exact Cursor.spans_append.mpr ⟨m,hspan,hrest⟩
    · rintro ⟨hlen,hall,hspan⟩
      cases as with
      | nil => simp at hlen
      | cons a rest =>
        simp only [List.mem_cons, forall_eq_or_imp] at hall
        obtain ⟨m,hfirst,hrest⟩ := Cursor.spans_append.mp hspan
        exact ⟨a,m,⟨hall.1,hfirst⟩,rest,c',⟨by simpa using hlen,hall.2,hrest⟩,rfl,rfl⟩

theorem length_le_flatMap {itemSize : Nat} {as : List α}
    (h : ∀ a ∈ as, itemSize ≤ (write a).length) :
    as.length * itemSize ≤ (as.flatMap write).length := by
  induction as with
  | nil => simp
  | cons a as ih =>
    simp only [List.mem_cons, forall_eq_or_imp] at h
    have := ih h.2
    simp only [List.flatMap_cons, List.length_append, List.length_cons, Nat.succ_mul]
    omega

theorem count_of_spans {itemSize : Nat} {as : List α} (hlt : as.length < UInt32.size)
    (hsize : ∀ a ∈ as, itemSize ≤ (write a).length)
    (h : c.Spans (Encode.size as.length ++ as.flatMap write) c') :
    ∃ m, count itemSize c = .ok (as.length, m) ∧ m.Spans (as.flatMap write) c' := by
  obtain ⟨m,hcount,hspan⟩ := Cursor.spans_append.mp h
  have hroom : as.length * itemSize ≤ m.rest.length := by
    have := length_le_flatMap hsize
    rw [hspan.1, List.length_append]
    omega
  exact ⟨m,count_eq_ok_iff.mpr ⟨hlt,hcount,hroom⟩,hspan⟩

def counted (itemSize : Nat) (item : Reader α) : Reader (List α) :=
  count itemSize >>= times item

theorem counted_eq_ok_iff (h : Reads item write fits) {itemSize : Nat}
    (hsize : ∀ a, itemSize ≤ (write a).length) {as : List α} :
    counted itemSize item c = .ok (as, c') ↔
      (as.length < UInt32.size ∧ ∀ a ∈ as, fits a) ∧
        c.Spans (Encode.size as.length ++ as.flatMap write) c' := by
  simp only [counted, bind_eq_ok_iff, times_eq_ok_iff h]
  constructor
  · rintro ⟨n,m,hcount,rfl,hall,hspan⟩
    obtain ⟨hlt,hsizes,-⟩ := count_eq_ok_iff.mp hcount
    exact ⟨⟨hlt,hall⟩,Cursor.spans_append.mpr ⟨m,hsizes,hspan⟩⟩
  · rintro ⟨⟨hlt,hall⟩,hspan⟩
    obtain ⟨m,hcount,hitems⟩ := count_of_spans hlt (fun a _ => hsize a) hspan
    exact ⟨as.length,m,hcount,rfl,hall,hitems⟩

theorem words_eq_ok_iff {ns : List UInt32} :
    words c = .ok (ns, c') ↔ ns.length < UInt32.size ∧ c.Spans (Encode.words ns) c' := by
  have hword : Reads word Encode.word fun _ => True := by
    intro n c c'
    rw [word_eq_ok_iff, true_and]
  have hsize (n : UInt32) : 4 ≤ (Encode.word n).length := by
    simp [Encode.word]
  have hcounted : words = counted 4 word := rfl
  rw [hcounted, counted_eq_ok_iff hword hsize]
  simp [Encode.words]

theorem finish_eq_ok_iff {u : Unit} : finish c = .ok (u, c') ↔ c.rest = [] ∧ c' = c := by
  simp only [finish, bind_eq_ok_iff, remaining_eq_ok_iff]
  constructor
  · rintro ⟨n,d,⟨rfl,rfl⟩,h⟩
    split at h
    · rename_i hnil
      exact ⟨List.length_eq_zero_iff.mp hnil, (pure_eq_ok_iff.mp h).2⟩
    · obtain ⟨o,d,-,h⟩ := bind_eq_ok_iff.mp h
      exact absurd h fail_ne_ok
  · rintro ⟨hnil,rfl⟩
    refine ⟨_,c',⟨rfl,rfl⟩,?_⟩
    rw [if_pos (List.length_eq_zero_iff.mpr hnil)]
    exact pure_eq_ok_iff.mpr ⟨rfl,rfl⟩

theorem finish_of_rest (h : c.rest ≠ []) :
    finish c = .error (.corrupt c.offset (.trailingBytes c.rest.length)) := by
  have hleft : c.rest.length ≠ 0 := mt List.length_eq_zero_iff.mp h
  rw [finish, bind_of_ok (remaining_eq_ok_iff.mpr ⟨rfl,rfl⟩), if_neg hleft,
    bind_of_ok (offset_eq_ok_iff.mpr ⟨rfl,rfl⟩)]
  rfl

end Reader

end ScriptCache
