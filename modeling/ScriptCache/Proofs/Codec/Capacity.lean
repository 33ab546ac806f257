import ScriptCache.Codec.Format
import ScriptCache.Proofs.Bytecode.Nesting

namespace ScriptCache

def Text.Fits (s : String) : Prop :=
  (Text.utf8 s).length < UInt32.size

instance (s : String) : Decidable (Text.Fits s) :=
  inferInstanceAs (Decidable (_ < _))

def Operands.texts : Operands → List String
  | .named name => [name]
  | .varRef name _ => [name]
  | .getVar name _ _ _ => [name]
  | .resolveVar name _ _ _ => [name]
  | .function _ name _ _ => [name]
  | .regexp pattern flags => [pattern, flags]
  | _ => []

def Constant.texts : Constant → List String
  | .string s => [s]
  | .regexp pattern flags => [pattern, flags]
  | _ => []

structure Source.Fits (s : Source) : Prop where
  name : Text.Fits s.name
  text : Text.Fits s.text
  lineOffsets : s.lineOffsets.length < UInt32.size

structure Program.BodyFits (p : Program) : Prop where
  name : Text.Fits p.functionName
  code : p.code.length < UInt32.size
  operands : ∀ ins ∈ p.code, ∀ s ∈ ins.operands.texts, Text.Fits s
  constants : p.constants.length < UInt32.size
  scalars : ∀ c ∈ p.constants, ∀ s ∈ c.texts, Text.Fits s
  sourceMap : p.sourceMap.length < UInt32.size

structure Program.Fits (p : Program) : Prop where
  source : p.source.Fits
  bodies : ∀ q ∈ p.functions, q.BodyFits

instance (s : Source) : Decidable s.Fits :=
  decidable_of_iff (Text.Fits s.name ∧ Text.Fits s.text ∧ s.lineOffsets.length < UInt32.size)
    ⟨fun ⟨hname,htext,hlines⟩ => ⟨hname,htext,hlines⟩,
      fun ⟨hname,htext,hlines⟩ => ⟨hname,htext,hlines⟩⟩

instance (p : Program) : Decidable p.BodyFits :=
  decidable_of_iff
    (Text.Fits p.functionName ∧ p.code.length < UInt32.size ∧
      (∀ ins ∈ p.code, ∀ s ∈ ins.operands.texts, Text.Fits s) ∧
      p.constants.length < UInt32.size ∧ (∀ c ∈ p.constants, ∀ s ∈ c.texts, Text.Fits s) ∧
      p.sourceMap.length < UInt32.size)
    ⟨fun ⟨hname,hcode,hoperands,hconstants,htexts,hmap⟩ =>
        ⟨hname,hcode,hoperands,hconstants,htexts,hmap⟩,
      fun ⟨hname,hcode,hoperands,hconstants,htexts,hmap⟩ =>
        ⟨hname,hcode,hoperands,hconstants,htexts,hmap⟩⟩

instance (p : Program) : Decidable p.Fits :=
  decidable_of_iff (p.source.Fits ∧ ∀ q ∈ p.functions, q.BodyFits)
    ⟨fun ⟨hsource,hbodies⟩ => ⟨hsource,hbodies⟩, fun ⟨hsource,hbodies⟩ => ⟨hsource,hbodies⟩⟩

structure Constant.Fits (c : Constant) : Prop where
  texts : ∀ s ∈ c.texts, Text.Fits s
  bodies : ∀ q ∈ c.functions, q.BodyFits

/-- A constant that a file with the given source can hold where `room` levels are left. -/
structure Constant.Storable (source : Source) (room : Nat) (c : Constant) : Prop where
  fits : c.Fits
  depth : c.depth ≤ room
  shared : c.sharing source = c

structure Program.Storable (p : Program) : Prop where
  fits : p.Fits
  depth : p.depth ≤ Format.maxNesting
  shared : p.withSource p.source = p

theorem Constant.fits_iff {c : Constant} :
    c.Fits ↔ (∀ s ∈ c.texts, Text.Fits s) ∧ ∀ q ∈ c.functions, q.BodyFits :=
  ⟨fun ⟨htexts,hbodies⟩ => ⟨htexts,hbodies⟩, fun ⟨htexts,hbodies⟩ => ⟨htexts,hbodies⟩⟩

theorem Constant.storable_iff {s : Source} {room : Nat} {c : Constant} :
    c.Storable s room ↔
      ((∀ t ∈ c.texts, Text.Fits t) ∧ ∀ q ∈ c.functions, q.BodyFits) ∧
        c.depth ≤ room ∧ c.sharing s = c := by
  rw [← fits_iff]
  exact ⟨fun ⟨hfits,hdepth,hshared⟩ => ⟨hfits,hdepth,hshared⟩,
    fun ⟨hfits,hdepth,hshared⟩ => ⟨hfits,hdepth,hshared⟩⟩

namespace Program

theorem bodies_fit_iff {p : Program} :
    (∀ q ∈ p.functions, q.BodyFits) ↔
      Text.Fits p.functionName ∧
      (p.code.length < UInt32.size ∧ ∀ ins ∈ p.code, ∀ s ∈ ins.operands.texts, Text.Fits s) ∧
      (p.constants.length < UInt32.size ∧ ∀ c ∈ p.constants, c.Fits) ∧
      p.sourceMap.length < UInt32.size := by
  rw [functions_eq, List.forall_mem_cons]
  simp only [List.mem_flatMap]
  constructor
  · rintro ⟨⟨hname,hcode,hoperands,hconstants,htexts,hmap⟩,hnested⟩
    refine ⟨hname,⟨hcode,hoperands⟩,⟨hconstants,?_⟩,hmap⟩
    exact fun c hc => ⟨htexts c hc, fun q hq => hnested q ⟨c,hc,hq⟩⟩
  · rintro ⟨hname,⟨hcode,hoperands⟩,⟨hconstants,hall⟩,hmap⟩
    refine ⟨⟨hname,hcode,hoperands,hconstants,fun c hc => (hall c hc).texts,hmap⟩,?_⟩
    rintro q ⟨c,hc,hq⟩
    exact (hall c hc).bodies q hq

theorem bodies_fit_withSource {p : Program} (s : Source) (h : ∀ q ∈ p.functions, q.BodyFits) :
    ∀ q ∈ (p.withSource s).functions, q.BodyFits := by
  induction p using nested_induction with
  | step p ih =>
    rw [bodies_fit_iff] at h ⊢
    obtain ⟨hname,hcode,⟨hconstants,hall⟩,hmap⟩ := h
    rw [withSource_eq]
    refine ⟨hname,hcode,⟨by simpa using hconstants,?_⟩,hmap⟩
    rw [List.forall_mem_map]
    intro c hc
    obtain ⟨htexts,hbodies⟩ := hall c hc
    cases c with
    | function q => exact ⟨htexts, ih q hc hbodies⟩
    | _ => exact ⟨htexts,hbodies⟩

theorem Fits.withSource {p : Program} (h : p.Fits) : (p.withSource p.source).Fits where
  source := by
    rw [withSource_eq]
    exact h.source
  bodies := bodies_fit_withSource p.source h.bodies

theorem storable_constants_iff {s : Source} {room : Nat} {p : Program} :
    ((∀ q ∈ p.functions, q.BodyFits) ∧ p.depth ≤ room ∧ p.withSource s = p) ↔
      (Text.Fits p.functionName ∧ p.source = s) ∧
      (p.code.length < UInt32.size ∧ ∀ ins ∈ p.code, ∀ t ∈ ins.operands.texts, Text.Fits t) ∧
      (p.constants.length < UInt32.size ∧ ∀ c ∈ p.constants, c.Storable s room) ∧
      p.sourceMap.length < UInt32.size := by
  rw [bodies_fit_iff, depth_le_iff, withSource_eq_self_iff]
  constructor
  · rintro ⟨⟨hname,hcode,⟨hconstants,hall⟩,hmap⟩,hdepth,hsource,hshared⟩
    exact ⟨⟨hname,hsource⟩,hcode,
      ⟨hconstants,fun c hc => ⟨hall c hc,hdepth c hc,hshared c hc⟩⟩,hmap⟩
  · rintro ⟨⟨hname,hsource⟩,hcode,⟨hconstants,hall⟩,hmap⟩
    exact ⟨⟨hname,hcode,⟨hconstants,fun c hc => (hall c hc).fits⟩,hmap⟩,
      fun c hc => (hall c hc).depth, hsource, fun c hc => (hall c hc).shared⟩

end Program

theorem Constant.storable_function_iff {s : Source} {room : Nat} {p : Program} :
    (function p).Storable s (room + 1) ↔
      (∀ q ∈ p.functions, q.BodyFits) ∧ p.depth ≤ room ∧ p.withSource s = p := by
  rw [storable_iff]
  simp [texts, functions, Constant.depth, sharing]

end ScriptCache
