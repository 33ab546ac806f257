import ScriptCache.Codec.Decode
import ScriptCache.Proofs.Codec.Evidence

namespace ScriptCache

namespace Cursor

variable {c c' : Cursor} {bytes : List UInt8}

theorem Spans.length_le (h : c.Spans bytes c') : bytes.length ≤ c.rest.length := by
  rw [h.1, List.length_append]
  exact Nat.le_add_right _ _

theorem Spans.length_rest (h : c.Spans bytes c') :
    c'.rest.length = c.rest.length - bytes.length := by
  rw [h.1, List.length_append, Nat.add_sub_cancel_left]

theorem spans_take {n : Nat} (h : n ≤ c.rest.length) :
    c.Spans (c.rest.take n) ⟨c.offset + n, c.rest.drop n⟩ :=
  ⟨(List.take_append_drop n c.rest).symm, by rw [List.length_take_of_le h]⟩

theorem In.offset_le {file : List UInt8} (h : c.In file) : c.offset ≤ file.length :=
  h.offset_add ▸ Nat.le_add_right c.offset c.rest.length

end Cursor

namespace Reader

variable {α β : Type} {r item : Reader α} {c c' m : Cursor} {n width width' : Nat}

def Fixed (width : Nat) (r : Reader α) : Prop :=
  ∀ c : Cursor, width ≤ c.rest.length →
    ∃ a bytes c', r c = .ok (a, c') ∧ bytes.length = width ∧ c.Spans bytes c'

theorem fixed_pure (a : α) : Fixed 0 (pure a : Reader α) :=
  fun c _ => ⟨a,[],c,rfl,rfl,Cursor.spans_nil.mpr rfl⟩

theorem fixed_take (n : Nat) : Fixed n (take n) := by
  intro c hroom
  exact ⟨_,_,_,if_pos hroom,List.length_take_of_le hroom,Cursor.spans_take hroom⟩

theorem Fixed.bind {f : α → Reader β} (hr : Fixed width r) (hf : ∀ a, Fixed width' (f a)) :
    Fixed (width + width') (r >>= f) := by
  intro c hroom
  obtain ⟨a,bytes,m,hread,hlen,hspan⟩ := hr c (by omega)
  have hleft : width' ≤ m.rest.length := by
    rw [hspan.length_rest]
    omega
  obtain ⟨b,bytes',c',hread',hlen',hspan'⟩ := hf a m hleft
  refine ⟨b,bytes ++ bytes',c',?_,?_,Cursor.spans_append.mpr ⟨m,hspan,hspan'⟩⟩
  · rw [bind_of_ok hread, hread']
  · rw [List.length_append, hlen, hlen']

theorem Fixed.map (h : Fixed width r) (f : α → β) : Fixed width (do return f (← r)) :=
  h.bind fun a => fixed_pure (f a)

theorem fixed_word : Fixed 4 word :=
  ((fixed_take 4).map BigEndian.decode).map UInt32.ofNat

theorem fixed_entry : Fixed 8 Decode.entry :=
  fixed_word.bind fun pc => fixed_word.map (SourceMapEntry.mk pc)

theorem Fixed.times (h : Fixed width item) (n : Nat) : Fixed (n * width) (times item n) := by
  induction n with
  | zero =>
    rw [Nat.zero_mul]
    exact fixed_pure []
  | succ n ih =>
    rw [Nat.succ_mul, Nat.add_comm]
    exact h.bind fun a => ih.map fun rest => a :: rest

theorem count_of_number (h : number 4 c = .ok (n, m)) (width : Nat) :
    count width c =
      if m.rest.length < n * width then
        .error (.corrupt c.offset (.lengthOverflow (n * width) m.rest.length))
      else .ok (n, m) := by
  rw [count, bind_of_ok (offset_eq_ok_iff.mpr ⟨rfl,rfl⟩), bind_of_ok h,
    bind_of_ok (remaining_eq_ok_iff.mpr ⟨rfl,rfl⟩)]
  split <;> rfl

theorem count_of_error {e : CacheError} (h : number 4 c = .error e) (width : Nat) :
    count width c = .error e := by
  rw [count, bind_of_ok (offset_eq_ok_iff.mpr ⟨rfl,rfl⟩), bind_of_error h]

def Backed (file : List UInt8) (width : Nat) (items : Nat → Reader α) (c : Cursor) : Prop :=
  ∀ n m, count width c = .ok (n, m) →
    m.In file ∧ m.offset = c.offset + 4 ∧
      ∃ a c', items n m = .ok (a, c') ∧ c'.In file ∧ c'.offset = m.offset + n * width

theorem backed_of_fixed {file : List UInt8} {items : Nat → Reader α}
    (h : ∀ n, Fixed (n * width) (items n)) (hc : c.In file) : Backed file width items c := by
  intro n m hcount
  obtain ⟨-,hsize,hroom⟩ := count_eq_ok_iff.mp hcount
  obtain ⟨a,bytes,c',hread,hlen,hspan⟩ := h n m hroom
  have hm := hc.after hsize
  refine ⟨hm,?_,a,c',hread,hm.after hspan,?_⟩
  · rw [hsize.2, Encode.size, BigEndian.length_encode]
  · rw [hspan.2, hlen]

/-- What comes of a table whose count has been read: `n` items are to follow the cursor `m`. -/
inductive TableRead (start width n : Nat) (m : Cursor) : Except CacheError (α × Cursor) → Prop
  | whole {a : α} {bytes : List UInt8} {c' : Cursor} :
      bytes.length = n * width → m.Spans bytes c' → TableRead start width n m (.ok (a, c'))
  | overflow : m.rest.length < n * width → TableRead start width n m
      (.error (.corrupt start (.lengthOverflow (n * width) m.rest.length)))
  | notText : width = 1 → n * width ≤ m.rest.length →
      TableRead start width n m (.error (.corrupt start .invalidUtf8))

theorem TableRead.ne_unexpectedEnd {start : Nat} {result : Except CacheError (α × Cursor)}
    (h : TableRead start width n m result) (o needed remaining : Nat) :
    result ≠ .error (.corrupt o (.unexpectedEnd needed remaining)) := by
  cases h <;> simp

theorem TableRead.eq_overflow_iff {start : Nat} {result : Except CacheError (α × Cursor)}
    (h : TableRead start width n m result) :
    m.rest.length < n * width ↔
      result = .error (.corrupt start (.lengthOverflow (n * width) m.rest.length)) := by
  cases h with
  | whole hlen hspan => simpa using hlen ▸ hspan.length_le
  | overflow hshort => simpa using hshort
  | notText _ hfull => simpa using hfull

def Uncut (width : Nat) (table : Reader α) (c : Cursor) : Prop :=
  ∀ n m, number 4 c = .ok (n, m) →
    (m.rest.length < n * width ↔
      table c = .error (.corrupt c.offset (.lengthOverflow (n * width) m.rest.length))) ∧
    ∀ o needed remaining, table c ≠ .error (.corrupt o (.unexpectedEnd needed remaining))

structure Tabular (width : Nat) (table : Reader α) : Prop where
  cut : ∀ {c e}, number 4 c = .error e → table c = .error e
  read : ∀ {c n m}, number 4 c = .ok (n, m) → TableRead c.offset width n m (table c)

theorem Fixed.tabular (h : Fixed width item) : Tabular width (counted width item) where
  cut hnumber := bind_of_error (count_of_error hnumber width)
  read := by
    intro c n m hnumber
    have hcount := count_of_number hnumber width
    rcases Nat.lt_or_ge m.rest.length (n * width) with hshort | hfull
    · rw [if_pos hshort] at hcount
      rw [counted, bind_of_error hcount]
      exact .overflow hshort
    · rw [if_neg (Nat.not_lt.mpr hfull)] at hcount
      obtain ⟨as,bytes,c',hread,hlen,hspan⟩ := h.times n m hfull
      rw [counted, bind_of_ok hcount, hread]
      exact .whole hlen hspan

theorem Tabular.uncut {table : Reader α} (h : Tabular width table) (c : Cursor) :
    Uncut width table c := by
  intro n m hnumber
  exact ⟨(h.read hnumber).eq_overflow_iff,(h.read hnumber).ne_unexpectedEnd⟩

theorem tabular_words : Tabular 4 words :=
  fixed_word.tabular

theorem tabular_entries : Tabular 8 (counted 8 Decode.entry) :=
  fixed_entry.tabular

theorem tabular_text : Tabular 1 text where
  cut := by
    intro c e hnumber
    rw [text, bind_of_ok (offset_eq_ok_iff.mpr ⟨rfl,rfl⟩), bind_of_error]
    exact count_of_error hnumber 1
  read := by
    intro c n m hnumber
    have hcount := count_of_number hnumber 1
    rw [text, bind_of_ok (offset_eq_ok_iff.mpr ⟨rfl,rfl⟩)]
    rcases Nat.lt_or_ge m.rest.length (n * 1) with hshort | hfull
    · rw [if_pos hshort] at hcount
      rw [bind_of_error hcount]
      exact .overflow hshort
    · rw [if_neg (Nat.not_lt.mpr hfull)] at hcount
      rw [Nat.mul_one] at hfull
      obtain ⟨payload,bytes,c',hread,hlen,hspan⟩ := fixed_take n m hfull
      rw [bind_of_ok hcount, bind_of_ok hread]
      cases Text.ofUtf8? payload with
      | none => exact .notText rfl (by rwa [Nat.mul_one])
      | some s => exact .whole (by rwa [Nat.mul_one]) hspan

/-- A count whose check is made in words of 64 bits. -/
def count64 (itemSize : Nat) : Reader Nat := do
  let start ← offset
  let n ← word
  let left ← remaining
  let declared := n.toUInt64 * UInt64.ofNat itemSize
  if UInt64.ofNat left < declared then fail start (.lengthOverflow declared.toNat left)
  else return n.toNat

theorem toNat_declared (hn : n < UInt32.size) (hwidth : width < UInt32.size) :
    ((UInt32.ofNat n).toUInt64 * UInt64.ofNat width).toNat = n * width := by
  have hproduct : n * width < UInt64.size := by
    have hsquare : n * width < UInt32.size * UInt32.size := Nat.mul_lt_mul'' hn hwidth
    exact hsquare
  have hword : (UInt64.ofNat width).toNat = width :=
    UInt64.toNat_ofNat_of_lt' (Nat.lt_trans hwidth (by decide))
  rw [UInt64.toNat_mul, UInt32.toNat_toUInt64, UInt32.toNat_ofNat_of_lt' hn, hword]
  exact Nat.mod_eq_of_lt hproduct

theorem count64_eq (hwidth : width < UInt32.size) (hroom : c.rest.length < UInt64.size) :
    count64 width c = count width c := by
  rw [count64, bind_of_ok (offset_eq_ok_iff.mpr ⟨rfl,rfl⟩)]
  cases hnumber : number 4 c with
  | error e =>
    have hword : word c = .error e := bind_of_error hnumber
    rw [bind_of_error hword, count_of_error hnumber]
  | ok read =>
    obtain ⟨n,m⟩ := read
    obtain ⟨hn,hspan⟩ := number_eq_ok_iff.mp hnumber
    have hword : word c = .ok (UInt32.ofNat n, m) := bind_of_ok hnumber
    have hleft : (UInt64.ofNat m.rest.length).toNat = m.rest.length := by
      refine UInt64.toNat_ofNat_of_lt' (Nat.lt_of_le_of_lt ?_ hroom)
      rw [hspan.length_rest]
      exact Nat.sub_le _ _
    rw [bind_of_ok hword, bind_of_ok (remaining_eq_ok_iff.mpr ⟨rfl,rfl⟩), count_of_number hnumber]
    simp only [UInt64.lt_iff_toNat_lt, hleft, toNat_declared hn hwidth,
      UInt32.toNat_ofNat_of_lt' hn]
    split <;> rfl

end Reader

end ScriptCache
