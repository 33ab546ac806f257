import ScriptCache.Proofs.Codec.Backing

namespace ScriptCache

variable {α β : Type} {file : List UInt8} {c : Cursor} {o : Nat}

def CacheError.Behind (o : Nat) : CacheError → Prop
  | .corrupt o' _ => o ≤ o'
  | _ => False

def Reached (file : List UInt8) (o : Nat) : Except CacheError (α × Cursor) → Prop
  | .ok (_, c) => c.In file ∧ o ≤ c.offset
  | .error e => e.Behind o

theorem Reached.bind {r : Reader α} {f : α → Reader β} (hr : Reached file o (r c))
    (hf : ∀ a m, m.In file → o ≤ m.offset → Reached file o (f a m)) :
    Reached file o ((r >>= f) c) := by
  cases hread : r c with
  | error e =>
    rw [hread] at hr
    rw [Reader.bind_of_error hread]
    exact hr
  | ok read =>
    obtain ⟨a,m⟩ := read
    rw [hread] at hr
    rw [Reader.bind_of_ok hread]
    exact hf a m hr.1 hr.2

namespace Reader

variable {r : Reader α}

def Onward (file : List UInt8) (r : Reader α) : Prop :=
  ∀ c o, c.In file → o ≤ c.offset → Reached file o (r c)

theorem onward_pure (a : α) : Onward file (pure a : Reader α) :=
  fun _ _ hc hle => ⟨hc,hle⟩

theorem Onward.bind {f : α → Reader β} (hr : Onward file r) (hf : ∀ a, Onward file (f a)) :
    Onward file (r >>= f) :=
  fun c o hc hle => (hr c o hc hle).bind fun a m => hf a m o

theorem onward_take (n : Nat) : Onward file (take n) := by
  intro c o hc hle
  rcases Nat.lt_or_ge c.rest.length n with hshort | hfull
  · have hread : take n c = .error (.corrupt c.offset (.unexpectedEnd n c.rest.length)) :=
      if_neg (Nat.not_le.mpr hshort)
    rw [hread]
    exact hle
  · have hread : take n c = .ok (c.rest.take n, ⟨c.offset + n, c.rest.drop n⟩) := if_pos hfull
    rw [hread]
    exact ⟨hc.after (Cursor.spans_take hfull),Nat.le_add_right_of_le hle⟩

theorem onward_byte : Onward file byte := by
  intro c o hc hle
  obtain ⟨start,rest⟩ := c
  cases rest with
  | nil => exact hle
  | cons x rest => exact ⟨hc.after (byte_eq_ok_iff.mp rfl),Nat.le_add_right_of_le hle⟩

theorem onward_marked {f : Nat → UInt8 → Reader α}
    (hf : ∀ {o start x m}, m.In file → o ≤ start → start ≤ m.offset →
      Reached file o (f start x m)) :
    Onward file (do f (← offset) (← byte)) := by
  intro c o hc hle
  rw [bind_of_ok (offset_eq_ok_iff.mpr ⟨rfl,rfl⟩)]
  cases hread : byte c with
  | error e =>
    have hreached := onward_byte c o hc hle
    rw [hread] at hreached
    rw [bind_of_error hread]
    exact hreached
  | ok read =>
    obtain ⟨x,m⟩ := read
    have hspan := byte_eq_ok_iff.mp hread
    rw [bind_of_ok hread]
    exact hf (hc.after hspan) hle (hspan.2 ▸ Nat.le_add_right _ _)

theorem onward_number (width : Nat) : Onward file (number width) :=
  (onward_take width).bind fun bytes => onward_pure (BigEndian.decode bytes)

theorem onward_word : Onward file word :=
  (onward_number 4).bind fun n => onward_pure (UInt32.ofNat n)

theorem onward_signed : Onward file signed :=
  onward_word.bind fun n => onward_pure n.toInt32

theorem onward_long : Onward file long :=
  (onward_number 8).bind fun n => onward_pure (UInt64.ofNat n)

theorem onward_flag : Onward file flag := by
  refine onward_marked ?_
  intro o start x m hm hle hlater
  split
  · exact ⟨hm,Nat.le_trans hle hlater⟩
  · split
    · exact ⟨hm,Nat.le_trans hle hlater⟩
    · exact hle

theorem onward_tabled (ofByte? : UInt8 → Option α) (unknown : UInt8 → Corruption) :
    Onward file (tabled ofByte? unknown) := by
  refine onward_marked ?_
  intro o start x m hm hle hlater
  cases ofByte? x with
  | none => exact hle
  | some a => exact ⟨hm,Nat.le_trans hle hlater⟩

theorem onward_count (width : Nat) : Onward file (count width) := by
  intro c o hc hle
  have hreached := onward_number 4 c o hc hle
  cases hnumber : number 4 c with
  | error e =>
    rw [hnumber] at hreached
    rw [count_of_error hnumber]
    exact hreached
  | ok read =>
    obtain ⟨n,m⟩ := read
    rw [hnumber] at hreached
    rw [count_of_number hnumber]
    split
    · exact hle
    · exact hreached

theorem onward_finish : Onward file finish := by
  intro c o hc hle
  by_cases hnil : c.rest = []
  · rw [finish_eq_ok_iff (u := ()) |>.mpr ⟨hnil,rfl⟩]
    exact ⟨hc,hle⟩
  · rw [finish_of_rest hnil]
    exact hle

end Reader

end ScriptCache
