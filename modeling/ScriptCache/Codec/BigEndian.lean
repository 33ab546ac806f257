namespace ScriptCache.BigEndian

def capacity : Nat → Nat
  | 0 => 1
  | width + 1 => capacity width * 256

theorem capacity_pos (width : Nat) : 0 < capacity width := by
  induction width with
  | zero => exact Nat.one_pos
  | succ width ih => exact Nat.mul_pos ih (by decide)

/-- The last `width` base-256 digits of a number. -/
def encode : Nat → Nat → List UInt8
  | 0, _ => []
  | width + 1, n => UInt8.ofNat (n / capacity width) :: encode width n

def decode : List UInt8 → Nat
  | [] => 0
  | b :: bs => b.toNat * capacity bs.length + decode bs

@[simp] theorem length_encode (width n : Nat) : (encode width n).length = width := by
  induction width with
  | zero => rfl
  | succ width ih => simp [encode, ih]

theorem decode_lt (bs : List UInt8) : decode bs < capacity bs.length := by
  induction bs with
  | nil => decide
  | cons b bs ih =>
    have hb := b.toNat_lt
    have hstep : b.toNat * capacity bs.length + capacity bs.length ≤
        256 * capacity bs.length := by
      rw [← Nat.succ_mul]
      exact Nat.mul_le_mul_right _ (by omega)
    simp only [decode, List.length_cons, capacity]
    omega

theorem decode_encode (width n : Nat) : decode (encode width n) = n % capacity width := by
  induction width with
  | zero => exact (Nat.mod_one n).symm
  | succ width ih =>
    have hbyte : (UInt8.ofNat (n / capacity width)).toNat = n / capacity width % 256 :=
      UInt8.toNat_ofNat'
    rw [encode, decode, length_encode, ih, hbyte, capacity, Nat.mod_mul, Nat.mul_comm,
      Nat.add_comm]

theorem encode_of_mod_eq {width m n : Nat} (h : m % capacity width = n % capacity width) :
    encode width m = encode width n := by
  induction width with
  | zero => rfl
  | succ width ih =>
    rw [capacity, Nat.mod_mul, Nat.mod_mul] at h
    have hlow : m % capacity width = n % capacity width := by
      have hcut := congrArg (· % capacity width) h
      simpa [Nat.add_mul_mod_self_left] using hcut
    have hhigh : m / capacity width % 256 = n / capacity width % 256 := by
      rw [hlow] at h
      exact Nat.eq_of_mul_eq_mul_left (capacity_pos width) (Nat.add_left_cancel h)
    simp only [encode, ih hlow, List.cons.injEq, and_true]
    apply UInt8.toNat_inj.mp
    simpa [UInt8.toNat_ofNat'] using hhigh

theorem encode_decode (bs : List UInt8) : encode bs.length (decode bs) = bs := by
  induction bs with
  | nil => rfl
  | cons b bs ih =>
    simp only [List.length_cons, encode, decode, List.cons.injEq]
    constructor
    · rw [Nat.mul_comm, Nat.mul_add_div (capacity_pos bs.length),
        Nat.div_eq_of_lt (decode_lt bs), Nat.add_zero, UInt8.ofNat_toNat]
    · have hlow : (b.toNat * capacity bs.length + decode bs) % capacity bs.length =
          decode bs % capacity bs.length := by
        rw [Nat.mul_comm, Nat.mul_add_mod]
      rw [encode_of_mod_eq hlow, ih]

end ScriptCache.BigEndian
