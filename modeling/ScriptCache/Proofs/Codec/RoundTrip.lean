import Mathlib
import ScriptCache.Proofs.Codec.Contents
import ScriptCache.Proofs.Codec.Header

namespace ScriptCache.Program

theorem Fits.storable {p : Program} (h : p.Fits) (hdepth : p.depth ≤ Format.maxNesting) :
    (p.withSource p.source).Storable where
  fits := h.withSource
  depth := by rwa [depth_withSource]
  shared := by rw [withSource_source, withSource_withSource]

theorem decode_eq_ok_iff {bytes : List UInt8} {v : UInt16} {p : Program} :
    decode bytes v = .ok p ↔ p.Storable ∧ bytes = p.encode v := by
  constructor
  · intro h
    rcases Decode.version_cases bytes with ⟨-,hforeign⟩ | ⟨-,-,o,n,left,hcut,-⟩ | ⟨f,rest,rfl⟩
    · rw [decode_of_version_error hforeign] at h
      cases h
    · rw [decode_of_version_error hcut] at h
      cases h
    · rw [decode_header] at h
      split at h
      · rename_i hversion
        cases hread : Decode.program ⟨Format.headerLength, rest⟩ with
        | error e =>
          rw [hread] at h
          cases h
        | ok read =>
          obtain ⟨q,c'⟩ := read
          rw [hread] at h
          cases h
          obtain ⟨hstore,⟨hrest,-⟩,hnil⟩ := Decode.program_eq_ok_iff.mp hread
          rw [hnil, List.append_nil] at hrest
          have hwritten : rest = q.written := hrest
          exact ⟨hstore, by rw [encode_eq, hversion, hwritten]⟩
      · cases h
  · rintro ⟨hstore,rfl⟩
    have hread : Decode.program ⟨Format.headerLength, p.written⟩ =
        .ok (p, ⟨Format.headerLength + p.written.length, []⟩) :=
      Decode.program_eq_ok_iff.mpr ⟨hstore,⟨(List.append_nil _).symm,rfl⟩,rfl⟩
    rw [encode_eq, decode_header, if_pos rfl, hread]
    rfl

theorem decode_too_deep {p : Program} (hfits : p.Fits) (hshared : p.withSource p.source = p)
    (hdeep : Format.maxNesting < p.depth) (v : UInt16) :
    ∃ o, decode (p.encode v) v = .error (.corrupt o .nestingTooDeep) := by
  have hspan : Cursor.Spans ⟨Format.headerLength, p.written⟩ p.written
      ⟨Format.headerLength + p.written.length, []⟩ :=
    ⟨(List.append_nil _).symm,rfl⟩
  obtain ⟨o,ho⟩ := Decode.contents_tooDeep hfits hshared hdeep hspan
  refine ⟨o,?_⟩
  rw [encode_eq, decode_header, if_pos rfl, Decode.program_eq, Reader.bind_of_error ho]
  rfl

theorem Fits.decode_encode {p : Program} (h : p.Fits) (hdepth : p.depth ≤ Format.maxNesting)
    (v : UInt16) : decode (p.encode v) v = .ok (p.withSource p.source) :=
  decode_eq_ok_iff.mpr ⟨h.storable hdepth,(encode_withSource p v).symm⟩

theorem version_of_decode_encode {p q : Program} {v w : UInt16}
    (h : decode (p.encode v) w = .ok q) : v = w := by
  by_contra hne
  rw [encode_eq, decode_header, if_neg hne] at h
  cases h

theorem Fits.decode_encode_eq_ok_iff {p q : Program} {v w : UInt16} (hp : p.Fits) :
    decode (p.encode v) w = .ok q ↔
      v = w ∧ p.depth ≤ Format.maxNesting ∧ q = p.withSource p.source := by
  constructor
  · intro h
    obtain rfl := version_of_decode_encode h
    have hdepth : p.depth ≤ Format.maxNesting := by
      by_contra hdeep
      have hshared : (p.withSource p.source).withSource (p.withSource p.source).source =
          p.withSource p.source := by
        rw [withSource_source, withSource_withSource]
      obtain ⟨o,herror⟩ := decode_too_deep hp.withSource hshared
        (by rw [depth_withSource]; exact Nat.lt_of_not_le hdeep) v
      rw [encode_withSource, h] at herror
      cases herror
    rw [hp.decode_encode hdepth] at h
    cases h
    exact ⟨rfl,hdepth,rfl⟩
  · rintro ⟨rfl,hdepth,rfl⟩
    exact hp.decode_encode hdepth v

theorem decode_encode_of_fits {p : Program} (h : p.Fits) (v : UInt16) :
    (p.depth ≤ Format.maxNesting → decode (p.encode v) v = .ok (p.withSource p.source)) ∧
    (Format.maxNesting < p.depth →
      ∃ o, decode (p.encode v) v = .error (.corrupt o .nestingTooDeep)) := by
  constructor
  · intro hdepth
    exact decode_eq_ok_iff.mpr ⟨h.storable hdepth, (encode_withSource p v).symm⟩
  · intro hdeep
    have hshared : (p.withSource p.source).withSource (p.withSource p.source).source =
        p.withSource p.source := by
      rw [withSource_source, withSource_withSource]
    rw [← encode_withSource p v]
    exact decode_too_deep h.withSource hshared (by rwa [depth_withSource]) v

def enclosed (p : Program) (outer : Source) : Nat → Program
  | 0 => p
  | n + 1 => ⟨"", outer, [], [.function (p.enclosed outer n)], []⟩

theorem depth_enclosed (p : Program) (outer : Source) (n : Nat) :
    (p.enclosed outer n).depth = p.depth + n := by
  induction n with
  | zero => rfl
  | succ n ih =>
    simp [enclosed, depth, Constant.depths, ih, Nat.add_assoc]

theorem Fits.enclosed {p : Program} (h : p.Fits) {outer : Source} (houter : outer.Fits) (n : Nat) :
    (p.enclosed outer n).Fits := by
  induction n with
  | zero => exact h
  | succ n ih =>
    have hname : Text.Fits "" := by decide
    have hnested : (Constant.function (p.enclosed outer n)).Fits :=
      ⟨by simp [Constant.texts],ih.bodies⟩
    refine ⟨houter,?_⟩
    rw [bodies_fit_iff]
    simp [Program.enclosed, hname, hnested]

def lookup : Program :=
  ⟨"f", ⟨"f.js", "x", 1, [0]⟩, [⟨.getVar, .getVar "x" 0 true false, rfl⟩],
    [.float ⟨0x7FF8000000000001⟩, .float ⟨0x8000000000000000⟩,
      .function ⟨"g", ⟨"f.js", "x", 1, [0]⟩, [], [.bool true], []⟩], [⟨0, 0⟩]⟩

def outerSource : Source :=
  ⟨"outer.js", "", 0, []⟩

theorem decode_encode_of_fits_lookup :
    decode ((lookup.enclosed outerSource 255).encode 1) 1 =
        .ok ((lookup.enclosed outerSource 255).withSource outerSource) ∧
      ∃ o, decode ((lookup.enclosed outerSource 256).encode 1) 1 =
        .error (.corrupt o .nestingTooDeep) := by
  have hfits : lookup.Fits := by decide
  have houter : outerSource.Fits := by decide
  have hdepth (n : Nat) : (lookup.enclosed outerSource n).depth = 1 + n :=
    depth_enclosed lookup outerSource n
  constructor
  · exact (decode_encode_of_fits (hfits.enclosed houter 255) 1).1 (by rw [hdepth]; decide)
  · exact (decode_encode_of_fits (hfits.enclosed houter 256) 1).2 (by rw [hdepth]; decide)

theorem encode_of_decode {bytes : List UInt8} {v : UInt16} {p : Program}
    (h : decode bytes v = .ok p) :
    p.encode v = bytes ∧ ∀ other, decode other v = .ok p → other = bytes := by
  have hbytes := (decode_eq_ok_iff.mp h).2
  refine ⟨hbytes.symm,?_⟩
  intro other hother
  rw [hbytes]
  exact (decode_eq_ok_iff.mp hother).2

def lookupFile : List UInt8 :=
  [0xFF, 0xEE, 0xDD, 0, 0, 1,
    0, 0, 0, 1, 0x66, 0, 0, 0, 4, 0x66, 0x2E, 0x6A, 0x73, 0, 0, 0, 1, 0x78, 0, 0, 0, 1,
    0, 0, 0, 1, 0, 0, 0, 0,
    0, 0, 0, 1, 0x64, 0, 0, 0, 1, 0x78, 0, 0, 0, 0, 1, 0,
    0, 0, 0, 3, 4, 0x7F, 0xF8, 0, 0, 0, 0, 0, 1, 4, 0x80, 0, 0, 0, 0, 0, 0, 0,
    7, 0, 0, 0, 1, 0x67, 0, 0, 0, 0, 0, 0, 0, 1, 2, 1, 0, 0, 0, 0,
    0, 0, 0, 1, 0, 0, 0, 0, 0, 0, 0, 0]

theorem encode_of_decode_lookup :
    decode lookupFile 1 = .ok lookup ∧ lookup.encode 1 = lookupFile ∧
      ∀ other, decode other 1 = .ok lookup → other = lookupFile := by
  have hread : decode lookupFile 1 = .ok lookup := by cbv
  exact ⟨hread,encode_of_decode hread⟩

end ScriptCache.Program
