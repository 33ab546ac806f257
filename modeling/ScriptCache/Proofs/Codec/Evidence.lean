import ScriptCache.Bytecode.Operands
import ScriptCache.Codec.Format
import ScriptCache.Proofs.Codec.Reading

namespace ScriptCache

def Cursor.In (c : Cursor) (file : List UInt8) : Prop :=
  ∃ before, Cursor.Spans ⟨0, file⟩ before c

namespace Cursor.In

variable {c c' : Cursor} {file bytes : List UInt8}

theorem rest_eq (h : c.In file) : c.rest = file.drop c.offset := by
  obtain ⟨before,hfile,hoffset⟩ := h
  have hfile' : file = before ++ c.rest := hfile
  rw [hoffset, Nat.zero_add, hfile', List.drop_left]

theorem offset_add (h : c.In file) : c.offset + c.rest.length = file.length := by
  obtain ⟨before,hfile,hoffset⟩ := h
  have hfile' : file = before ++ c.rest := hfile
  rw [hoffset, Nat.zero_add, hfile', List.length_append]

theorem after (h : c.In file) (hspan : c.Spans bytes c') : c'.In file := by
  obtain ⟨before,hbefore⟩ := h
  exact ⟨before ++ bytes, spans_append.mpr ⟨c,hbefore,hspan⟩⟩

theorem prefix_drop (h : c.In file) (hspan : c.Spans bytes c') : bytes <+: file.drop c.offset := by
  rw [← h.rest_eq, hspan.1]
  exact List.prefix_append bytes c'.rest

theorem getElem? (h : c.In file) {x : UInt8} (hspan : c.Spans [x] c') :
    file[c.offset]? = some x := by
  have hdrop : file.drop c.offset = x :: c'.rest := h.rest_eq.symm.trans hspan.1
  rw [← Nat.add_zero c.offset, ← List.getElem?_drop, hdrop, List.getElem?_cons_zero]

end Cursor.In

/-- What a file shows at the offset where it is refused for the reason. -/
def Corruption.Shown (file : List UInt8) (o : Nat) : Corruption → Prop
  | .unexpectedEnd needed remaining => o + remaining = file.length ∧ remaining < needed
  | .lengthOverflow declared remaining =>
      o + 4 + remaining = file.length ∧ remaining < declared ∧
        ∃ n itemSize, n < UInt32.size ∧ itemSize ∈ [1, 4, 8] ∧ declared = n * itemSize ∧
          Encode.size n <+: file.drop o
  | .unknownOpcode x => file[o]? = some x ∧ ∀ op : Opcode, op.byte ≠ x
  | .unknownConstantTag x => file[o]? = some x ∧ Format.tagFunction < x
  | .invalidBool x => file[o]? = some x ∧ 1 < x
  | .invalidBindingKind x => file[o]? = some x ∧ 2 < x
  | .invalidUtf8 =>
      ∃ payload, payload.length < UInt32.size ∧
        Encode.size payload.length ++ payload <+: file.drop o ∧ ∀ s, Text.utf8 s ≠ payload
  | .nestingTooDeep => file[o]? = some Format.tagFunction
  | .trailingBytes n => 0 < n ∧ o + n = file.length

def CacheError.Shown (file : List UInt8) : CacheError → Prop
  | .corrupt o reason => reason.Shown file o
  | _ => False

theorem CacheError.Shown.corrupt {file : List UInt8} {e : CacheError} (h : e.Shown file) :
    ∃ o reason, e = .corrupt o reason ∧ reason.Shown file o := by
  cases e with
  | corrupt o reason => exact ⟨o,reason,rfl,h⟩
  | _ => exact absurd h id

theorem Corruption.Shown.offset_le {file : List UInt8} {o : Nat} {reason : Corruption}
    (h : reason.Shown file o) : o ≤ file.length := by
  have hat {x : UInt8} (hx : file[o]? = some x) : o ≤ file.length :=
    Nat.le_of_lt (List.getElem?_eq_some_iff.mp hx).1
  cases reason with
  | unexpectedEnd needed remaining => exact h.1 ▸ Nat.le_add_right o remaining
  | lengthOverflow declared remaining =>
    have := h.1
    omega
  | unknownOpcode x => exact hat h.1
  | unknownConstantTag x => exact hat h.1
  | invalidBool x => exact hat h.1
  | invalidBindingKind x => exact hat h.1
  | invalidUtf8 =>
    obtain ⟨payload,-,hshown,-⟩ := h
    have hlen := hshown.length_le
    simp only [List.length_append, Encode.size, BigEndian.length_encode, List.length_drop] at hlen
    omega
  | nestingTooDeep => exact hat h
  | trailingBytes n => exact h.2 ▸ Nat.le_add_right o n

namespace Reader

variable {α β : Type} {file : List UInt8} {c : Cursor}

structure HonestAt (file : List UInt8) (r : Reader α) (c : Cursor) : Prop where
  stays : ∀ {a c'}, r c = .ok (a, c') → c'.In file
  shown : ∀ {e}, r c = .error e → e.Shown file

def Honest (file : List UInt8) (r : Reader α) : Prop :=
  ∀ c : Cursor, c.In file → HonestAt file r c

theorem HonestAt.bind {r : Reader α} {f : α → Reader β} (hr : HonestAt file r c)
    (hf : ∀ a m, r c = .ok (a, m) → HonestAt file (f a) m) : HonestAt file (r >>= f) c where
  stays := by
    intro b c' h
    obtain ⟨a,m,hread,hrest⟩ := bind_eq_ok_iff.mp h
    exact (hf a m hread).stays hrest
  shown := by
    intro e h
    rcases bind_eq_error_iff.mp h with hfirst | ⟨a,m,hread,hrest⟩
    · exact hr.shown hfirst
    · exact (hf a m hread).shown hrest

theorem Honest.bind {r : Reader α} {f : α → Reader β} (hr : Honest file r)
    (hf : ∀ a, Honest file (f a)) : Honest file (r >>= f) := by
  intro c hc
  have hfirst := hr c hc
  exact hfirst.bind fun a m hread => hf a m (hfirst.stays hread)

theorem honestAt_of_ok {r : Reader α} {a : α} {c' : Cursor} (h : r c = .ok (a, c'))
    (hc' : c'.In file) : HonestAt file r c where
  stays := by
    intro b m hread
    rw [h] at hread
    cases hread
    exact hc'
  shown := by
    intro e hread
    rw [h] at hread
    cases hread

theorem honestAt_of_error {r : Reader α} {o : Nat} {reason : Corruption}
    (h : r c = .error (.corrupt o reason)) (hshown : reason.Shown file o) :
    HonestAt file r c where
  stays := by
    intro b m hread
    rw [h] at hread
    cases hread
  shown := by
    intro e hread
    rw [h] at hread
    cases hread
    exact hshown

theorem honest_pure (a : α) : Honest file (pure a : Reader α) :=
  fun _ hc => honestAt_of_ok rfl hc

theorem honestAt_fail {o : Nat} {reason : Corruption} (h : reason.Shown file o) :
    HonestAt file (fail o reason : Reader α) c :=
  honestAt_of_error rfl h

theorem honest_offset : Honest file offset :=
  fun _ hc => honestAt_of_ok rfl hc

theorem honest_remaining : Honest file remaining :=
  fun _ hc => honestAt_of_ok rfl hc

theorem honest_take (n : Nat) : Honest file (take n) := by
  intro c hc
  rcases Nat.lt_or_ge c.rest.length n with hcut | hfull
  · have hread : take n c = .error (.corrupt c.offset (.unexpectedEnd n c.rest.length)) :=
      if_neg (Nat.not_le.mpr hcut)
    exact honestAt_of_error hread ⟨hc.offset_add,hcut⟩
  · have hread : take n c = .ok (c.rest.take n, ⟨c.offset + n, c.rest.drop n⟩) := if_pos hfull
    exact honestAt_of_ok hread (hc.after (take_eq_ok_iff.mp hread).2)

theorem honest_byte : Honest file byte := by
  intro c hc
  obtain ⟨o,rest⟩ := c
  cases rest with
  | nil => exact honestAt_of_error rfl ⟨hc.offset_add,Nat.one_pos⟩
  | cons x rest => exact honestAt_of_ok rfl (hc.after (byte_eq_ok_iff.mp rfl))

theorem honest_marked {f : Nat → UInt8 → Reader α}
    (hf : ∀ {o x} {m : Cursor}, file[o]? = some x → m.In file → HonestAt file (f o x) m) :
    Honest file (do f (← offset) (← byte)) := by
  intro c hc
  refine (honest_offset _ hc).bind ?_
  intro o m hread
  obtain ⟨rfl,rfl⟩ := offset_eq_ok_iff.mp hread
  refine (honest_byte _ hc).bind ?_
  intro x m' hread
  have hspan := byte_eq_ok_iff.mp hread
  exact hf (hc.getElem? hspan) (hc.after hspan)

theorem honest_number (width : Nat) : Honest file (number width) :=
  (honest_take width).bind fun bytes => honest_pure (BigEndian.decode bytes)

theorem honest_word : Honest file word :=
  (honest_number 4).bind fun n => honest_pure (UInt32.ofNat n)

theorem honest_signed : Honest file signed :=
  honest_word.bind fun n => honest_pure n.toInt32

theorem honest_long : Honest file long :=
  (honest_number 8).bind fun n => honest_pure (UInt64.ofNat n)

theorem honest_flag : Honest file flag := by
  refine honest_marked ?_
  intro o x m hx hm
  split
  · exact honest_pure false _ hm
  · rename_i hzero
    split
    · exact honest_pure true _ hm
    · rename_i hone
      refine honestAt_fail ⟨hx,?_⟩
      grind

theorem honest_tabled {ofByte? : UInt8 → Option α} {unknown : UInt8 → Corruption}
    (h : ∀ {o x}, file[o]? = some x → ofByte? x = none → (unknown x).Shown file o) :
    Honest file (tabled ofByte? unknown) := by
  refine honest_marked ?_
  intro o x m hx hm
  cases hfound : ofByte? x with
  | none => exact honestAt_fail (h hx hfound)
  | some a => exact honest_pure a _ hm

theorem honest_count {itemSize : Nat} (hsize : itemSize ∈ [1, 4, 8]) :
    Honest file (count itemSize) := by
  intro c hc
  refine (honest_offset _ hc).bind ?_
  intro o m hread
  obtain ⟨rfl,rfl⟩ := offset_eq_ok_iff.mp hread
  refine (honest_number 4 _ hc).bind ?_
  intro n m hread
  obtain ⟨hlt,hspan⟩ := number_eq_ok_iff.mp hread
  have hm := hc.after hspan
  refine (honest_remaining _ hm).bind ?_
  intro left m' hread
  obtain ⟨rfl,rfl⟩ := remaining_eq_ok_iff.mp hread
  split
  · rename_i hroom
    have hend := hm.offset_add
    rw [hspan.2, BigEndian.length_encode] at hend
    exact honestAt_fail ⟨hend,hroom,n,itemSize,hlt,hsize,rfl,hc.prefix_drop hspan⟩
  · exact honest_pure n _ hm

theorem honest_text : Honest file text := by
  intro c hc
  refine (honest_offset _ hc).bind ?_
  intro o m hread
  obtain ⟨rfl,rfl⟩ := offset_eq_ok_iff.mp hread
  refine (honest_count (by decide) _ hc).bind ?_
  intro n m hread
  obtain ⟨hlt,hsize,-⟩ := count_eq_ok_iff.mp hread
  refine (honest_take n _ (hc.after hsize)).bind ?_
  intro payload m' hread
  obtain ⟨rfl,hpayload⟩ := take_eq_ok_iff.mp hread
  have hspan := Cursor.spans_append.mpr ⟨m,hsize,hpayload⟩
  cases htext : Text.ofUtf8? payload with
  | none =>
    have hnone (s : String) : Text.utf8 s ≠ payload := by
      rintro rfl
      rw [Text.ofUtf8?_utf8] at htext
      cases htext
    exact honestAt_fail ⟨payload,hlt,hc.prefix_drop hspan,hnone⟩
  | some s => exact honest_pure s _ (hc.after hspan)

theorem honest_times {item : Reader α} (h : Honest file item) (n : Nat) :
    Honest file (times item n) := by
  induction n with
  | zero => exact honest_pure []
  | succ n ih => exact h.bind fun a => ih.bind fun rest => honest_pure (a :: rest)

theorem honest_counted {item : Reader α} {itemSize : Nat} (hsize : itemSize ∈ [1, 4, 8])
    (h : Honest file item) : Honest file (counted itemSize item) :=
  (honest_count hsize).bind (honest_times h)

theorem honest_words : Honest file words :=
  honest_counted (by decide) honest_word

theorem honest_finish : Honest file finish := by
  intro c hc
  refine (honest_remaining _ hc).bind ?_
  intro left m hread
  obtain ⟨rfl,rfl⟩ := remaining_eq_ok_iff.mp hread
  split
  · exact honest_pure () _ hc
  · rename_i hleft
    refine (honest_offset _ hc).bind ?_
    intro o m' hread
    obtain ⟨rfl,rfl⟩ := offset_eq_ok_iff.mp hread
    exact honestAt_fail ⟨Nat.pos_of_ne_zero hleft, hc.offset_add⟩

end Reader

end ScriptCache
