import ScriptCache.Codec.Decode
import ScriptCache.Codec.Encode
import ScriptCache.Proofs.Codec.Reading

namespace ScriptCache

namespace Format

def StartsMagic (bytes : List UInt8) : Prop :=
  bytes.take 4 = magic.take bytes.length

instance (bytes : List UInt8) : Decidable (StartsMagic bytes) :=
  inferInstanceAs (Decidable (_ = _))

def versionField (bytes : List UInt8) : UInt16 :=
  UInt16.ofNat (BigEndian.decode ((bytes.drop 4).take 2))

theorem length_magic : magic.length = 4 :=
  BigEndian.length_encode 4 magicNumber

theorem startsMagic_take {bytes : List UInt8} (h : StartsMagic bytes) (n : Nat) :
    StartsMagic (bytes.take n) := by
  have hcut := congrArg (List.take n) h
  simpa only [StartsMagic, List.take_take, List.length_take, Nat.min_comm] using hcut

theorem startsMagic_of_long {bytes : List UInt8} (hlen : 4 ≤ bytes.length) :
    StartsMagic bytes ↔ bytes.take magic.length = magic := by
  have hall : magic.take bytes.length = magic :=
    List.take_of_length_le (by rw [length_magic]; exact hlen)
  rw [StartsMagic, hall, length_magic]

theorem startsMagic_of_short {bytes : List UInt8} (hlen : bytes.length < 4) :
    StartsMagic bytes ↔ bytes.isPrefixOf magic = true := by
  rw [StartsMagic, List.take_of_length_le (by omega), List.isPrefixOf_iff_prefix,
    List.prefix_iff_eq_take]

end Format

namespace Encode

theorem length_header (v : UInt16) : (header v).length = Format.headerLength := by
  simp [header, half, Format.length_magic, Format.headerLength]

theorem startsMagic_header (v : UInt16) (rest : List UInt8) :
    Format.StartsMagic (header v ++ rest) := by
  have hlong : 4 ≤ (header v ++ rest).length := by
    rw [List.length_append, length_header, Format.headerLength]
    omega
  rw [Format.startsMagic_of_long hlong, header, List.append_assoc, List.take_left]

theorem versionField_header (v : UInt16) (rest : List UInt8) :
    Format.versionField (header v ++ rest) = v := by
  have hdrop : (header v ++ rest).drop 4 = half v ++ rest := by
    rw [header, List.append_assoc, ← Format.length_magic, List.drop_left]
  have htake : (half v ++ rest).take 2 = half v :=
    List.take_left' (BigEndian.length_encode 2 v.toNat)
  have hlt : v.toNat < BigEndian.capacity 2 := v.toNat_lt
  rw [Format.versionField, hdrop, htake, half, BigEndian.decode_encode, Nat.mod_eq_of_lt hlt,
    UInt16.ofNat_toNat]

end Encode

namespace Decode

theorem half_cut {c : Cursor} (h : c.rest.length < 2) :
    Reader.half c = .error (.corrupt c.offset (.unexpectedEnd 2 c.rest.length)) := by
  simp [Reader.half, Reader.number, Reader.take, bind, StateT.bind, Except.bind, Nat.not_le.mpr h]

theorem half_full {c : Cursor} (h : 2 ≤ c.rest.length) :
    ∃ v c', Reader.half c = .ok (v, c') := by
  refine ⟨UInt16.ofNat (BigEndian.decode (c.rest.take 2)),⟨c.offset + 2, c.rest.drop 2⟩,?_⟩
  simp only [Reader.half, Reader.number, Reader.take, bind, StateT.bind, Except.bind, if_pos h]
  rfl

theorem version_header (v : UInt16) (rest : List UInt8) :
    version (Encode.header v ++ rest) = .ok v := by
  have hlen : (Encode.header v ++ rest).length = 6 + rest.length := by
    rw [List.length_append, Encode.length_header, Format.headerLength]
  have hmagic := (Format.startsMagic_of_long (by omega)).mp (Encode.startsMagic_header v rest)
  have hrest : (Encode.header v ++ rest).drop Format.magic.length = Encode.half v ++ rest := by
    rw [Encode.header, List.append_assoc, List.drop_left]
  have hread : Reader.half ⟨Format.magic.length, Encode.half v ++ rest⟩ =
      .ok (v, ⟨Format.magic.length + (Encode.half v).length, rest⟩) :=
    Reader.half_eq_ok_iff.mpr (Cursor.spans_mk _ _ _)
  rw [version, if_neg (by rw [Format.length_magic]; omega), if_pos hmagic, hrest]
  simp only [StateT.run, hread, Except.map]

theorem version_foreign {bytes : List UInt8} (h : ¬Format.StartsMagic bytes) :
    version bytes = .error .notACacheFile := by
  unfold version
  split
  · rename_i hshort
    rw [Format.length_magic] at hshort
    rw [if_neg (mt (Format.startsMagic_of_short hshort).mpr h)]
  · rename_i hlong
    rw [Format.length_magic, Nat.not_lt] at hlong
    rw [if_neg (mt (Format.startsMagic_of_long hlong).mpr h)]

theorem version_cut {bytes : List UInt8} (hmagic : Format.StartsMagic bytes)
    (hlen : bytes.length < 6) :
    ∃ o needed remaining,
      version bytes = .error (.corrupt o (.unexpectedEnd needed remaining)) ∧
        o + remaining = bytes.length ∧ remaining < needed := by
  rcases Nat.lt_or_ge bytes.length 4 with hshort | hlong
  · have hstart : bytes.isPrefixOf Format.magic := (Format.startsMagic_of_short hshort).mp hmagic
    refine ⟨0,Format.headerLength,bytes.length,?_,Nat.zero_add _,hlen⟩
    rw [version, if_pos (by rwa [Format.length_magic]), if_pos hstart]
  · have hleft : (bytes.drop Format.magic.length).length < 2 := by
      rw [List.length_drop, Format.length_magic]
      omega
    refine ⟨Format.magic.length,2,(bytes.drop Format.magic.length).length,?_,?_,hleft⟩
    · rw [version, if_neg (by rwa [Format.length_magic, Nat.not_lt]),
        if_pos ((Format.startsMagic_of_long hlong).mp hmagic), StateT.run, half_cut hleft]
      rfl
    · rw [List.length_drop, Format.length_magic]
      omega

theorem exists_header {bytes : List UInt8} (hmagic : Format.StartsMagic bytes)
    (hlen : 6 ≤ bytes.length) : ∃ v rest, bytes = Encode.header v ++ rest := by
  have hstart := (Format.startsMagic_of_long (by omega)).mp hmagic
  have hleft : 2 ≤ (bytes.drop Format.magic.length).length := by
    rw [List.length_drop, Format.length_magic]
    omega
  obtain ⟨v,c',hread⟩ := half_full (c := ⟨Format.magic.length, bytes.drop _⟩) hleft
  obtain ⟨hspan,-⟩ := Reader.half_eq_ok_iff.mp hread
  refine ⟨v,c'.rest,?_⟩
  rw [Encode.header, List.append_assoc, ← hspan]
  conv => lhs; rw [← List.take_append_drop Format.magic.length bytes, hstart]

theorem version_cases (bytes : List UInt8) :
    (¬Format.StartsMagic bytes ∧ version bytes = .error .notACacheFile) ∨
    (Format.StartsMagic bytes ∧ bytes.length < 6 ∧ ∃ o needed remaining,
      version bytes = .error (.corrupt o (.unexpectedEnd needed remaining)) ∧
        o + remaining = bytes.length ∧ remaining < needed) ∨
    ∃ v rest, bytes = Encode.header v ++ rest := by
  by_cases hmagic : Format.StartsMagic bytes
  · rcases Nat.lt_or_ge bytes.length 6 with hcut | hfull
    · exact .inr (.inl ⟨hmagic,hcut,version_cut hmagic hcut⟩)
    · exact .inr (.inr (exists_header hmagic hfull))
  · exact .inl ⟨hmagic,version_foreign hmagic⟩

end Decode

theorem Program.decode_of_version_error {bytes : List UInt8} {e : CacheError}
    (h : Decode.version bytes = .error e) (v : UInt16) : decode bytes v = .error e := by
  rw [decode, h]
  rfl

theorem Program.decode_header (found expected : UInt16) (rest : List UInt8) :
    Program.decode (Encode.header found ++ rest) expected =
      if found = expected then (Decode.program ⟨Format.headerLength, rest⟩).map Prod.fst
      else .error (.versionMismatch expected found) := by
  have hdrop : (Encode.header found ++ rest).drop Format.headerLength = rest := by
    rw [← Encode.length_header found, List.drop_left]
  rw [Program.decode, Decode.version_header]
  simp only [bind, Except.bind, hdrop, StateT.run]
  split
  · cases Decode.program ⟨Format.headerLength, rest⟩ <;> rfl
  · rfl

end ScriptCache
