import Mathlib
import ScriptCache.Proofs.Codec.Blame
import ScriptCache.Proofs.Codec.RoundTrip

namespace ScriptCache.Program

variable {bytes : List UInt8} {v : UInt16} {p : Program}

theorem Storable.decode_append (h : p.Storable) (v : UInt16) {suffix : List UInt8}
    (hsuffix : suffix ≠ []) :
    decode (p.encode v ++ suffix) v =
      .error (.corrupt (p.encode v).length (.trailingBytes suffix.length)) := by
  have hread : Decode.contents ⟨Format.headerLength, p.written ++ suffix⟩ =
      .ok (p, ⟨Format.headerLength + p.written.length, suffix⟩) :=
    (Decode.reads_contents _ _ _).mpr ⟨h,Cursor.spans_mk _ _ _⟩
  have hfinish := Reader.finish_of_rest
    (c := ⟨Format.headerLength + p.written.length, suffix⟩) hsuffix
  rw [encode_eq, List.append_assoc, decode_header, if_pos rfl, Decode.program_eq,
    Reader.bind_of_ok hread, Reader.bind_of_error hfinish, List.length_append,
    Encode.length_header]
  rfl

theorem decode_take_ne_ok (h : decode bytes v = .ok p) {n : Nat} (hn : n < bytes.length)
    (q : Program) : decode (bytes.take n) v ≠ .ok q := by
  intro hq
  obtain ⟨hstore,hwritten⟩ := decode_eq_ok_iff.mp hq
  have hrest : bytes.drop n ≠ [] := by
    rw [ne_eq, List.drop_eq_nil_iff, Nat.not_le]
    exact hn
  have htrailing := hstore.decode_append v hrest
  rw [← hwritten, List.take_append_drop, h] at htrailing
  cases htrailing

theorem decode_take_corrupt (h : decode bytes v = .ok p) {n : Nat} (hn : n < bytes.length) :
    ∃ o reason, decode (bytes.take n) v = .error (.corrupt o reason) := by
  obtain ⟨-,rfl⟩ := decode_eq_ok_iff.mp h
  have hmagic : Format.StartsMagic ((p.encode v).take n) := by
    rw [encode_eq]
    exact Format.startsMagic_take (Encode.startsMagic_header v p.written) n
  have hversion : 6 ≤ ((p.encode v).take n).length →
      Format.versionField ((p.encode v).take n) = v := by
    intro hlen
    rw [List.length_take] at hlen
    have hheader : (Encode.header v).length ≤ n := by
      rw [Encode.length_header, Format.headerLength]
      omega
    rw [encode_eq, List.take_append, List.take_of_length_le hheader, Encode.versionField_header]
  rcases decode_ok_or_corrupt hmagic hversion with ⟨q,hq⟩ | hcorrupt
  · exact absurd hq (decode_take_ne_ok h hn q)
  · exact hcorrupt

theorem decode_delimited (h : decode bytes v = .ok p) :
    (∀ n < bytes.length, ∃ o reason, decode (bytes.take n) v = .error (.corrupt o reason)) ∧
    ∀ suffix ≠ [], decode (bytes ++ suffix) v =
      .error (.corrupt bytes.length (.trailingBytes suffix.length)) := by
  refine ⟨fun n hn => decode_take_corrupt h hn,?_⟩
  intro suffix hsuffix
  obtain ⟨hstore,rfl⟩ := decode_eq_ok_iff.mp h
  exact hstore.decode_append v hsuffix

theorem decode_delimited_lookup :
    decode lookupFile 1 = .ok lookup ∧
      (∀ n < 106, ∃ o reason, decode (lookupFile.take n) 1 = .error (.corrupt o reason)) ∧
      decode (lookupFile ++ [0]) 1 = .error (.corrupt 106 (.trailingBytes 1)) := by
  have hread : decode lookupFile 1 = .ok lookup := by cbv
  obtain ⟨hcut,hmore⟩ := decode_delimited hread
  exact ⟨hread,hcut,hmore [0] (List.cons_ne_nil 0 [])⟩

end ScriptCache.Program
