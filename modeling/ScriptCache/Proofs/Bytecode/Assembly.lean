import Mathlib.Data.List.Induction
import Mathlib.Data.List.Nodup
import ScriptCache.Bytecode.Builder
import ScriptCache.Proofs.Bytecode.Predecessor

namespace ScriptCache

namespace Program

variable {p : Program} {pc : UInt32}

theorem positionOf?_eq (p : Program) (pc : UInt32) :
    p.positionOf? pc = (KeySearch.run SourceMapEntry.pc p.sourceMap pc).last?.bind fun i =>
      p.sourceMap[i]?.map fun entry => p.source.position entry.pos := by
  unfold positionOf?
  rcases KeySearch.run SourceMapEntry.pc p.sourceMap pc with i | _ | i <;> rfl

theorem positionOf?_cases (h : p.sourceMap.Pairwise fun x y => x.pc < y.pc) (pc : UInt32) :
    (∃ entry ∈ p.sourceMap,
      IsGreatest {n | n ≤ pc ∧ ∃ other ∈ p.sourceMap, other.pc = n} entry.pc ∧
      p.positionOf? pc = some (p.source.position entry.pos)) ∨
    ((∀ entry ∈ p.sourceMap, pc < entry.pc) ∧ p.positionOf? pc = none) := by
  have hsorted : KeySearch.Ascends SourceMapEntry.pc p.sourceMap := h.imp UInt32.le_of_lt
  have hanswer := KeySearch.answers_run hsorted pc
  rw [positionOf?_eq]
  cases hlast : (KeySearch.run SourceMapEntry.pc p.sourceMap pc).last? with
  | none => exact .inr ⟨hanswer.lt_of_last?_eq_none hlast,rfl⟩
  | some i =>
    obtain ⟨entry,hentry,hgreatest⟩ := hanswer.isGreatest hsorted hlast
    refine .inl ⟨entry,List.mem_of_getElem? hentry,hgreatest,?_⟩
    rw [Option.bind_some, hentry]
    rfl

end Program

namespace Builder

inductive Step where
  | named (functionName : String)
  | instruction (ins : Instruction)
  | instructionAt (ins : Instruction) (pos : UInt32)
  | constant (c : Constant)
  | editConstants (edit : ConstantPool → ConstantPool)

namespace Step

def apply (b : Builder) : Step → Builder
  | .named functionName => b.named functionName
  | .instruction ins => b.instruction ins
  | .instructionAt ins pos => b.instructionAt ins pos
  | .constant c => b.constant c
  | .editConstants edit => b.editConstants edit

def instruction? : Step → Option Instruction
  | .instruction ins => some ins
  | .instructionAt ins _ => some ins
  | _ => none

end Step

def after (b : Builder) (steps : List Step) : Builder :=
  steps.foldl Step.apply b

def instructions (steps : List Step) : List Instruction :=
  steps.filterMap Step.instruction?

def Gives (steps : List Step) (index : Nat) (pos : UInt32) : Prop :=
  ∃ before ins later, steps = before ++ .instructionAt ins pos :: later ∧
    index = (instructions before).length

variable {source : Source} {steps : List Step} {step : Step} {b : Builder} {index : Nat}
  {pos : UInt32}

theorem after_concat (b : Builder) (steps : List Step) (step : Step) :
    b.after (steps ++ [step]) = step.apply (b.after steps) := by
  simp [after]

theorem instructions_concat (steps : List Step) (step : Step) :
    instructions (steps ++ [step]) = instructions steps ++ step.instruction?.toList := by
  cases h : step.instruction? <;> simp [instructions, h]

theorem gives_concat :
    Gives (steps ++ [step]) index pos ↔
      Gives steps index pos ∨
        ∃ ins, step = .instructionAt ins pos ∧ index = (instructions steps).length := by
  constructor
  · rintro ⟨before,ins,later,hsplit,hindex⟩
    rcases List.eq_nil_or_concat later with rfl | ⟨later,last,rfl⟩
    · obtain ⟨rfl,hstep⟩ := List.append_inj' hsplit rfl
      cases hstep
      exact .inr ⟨ins,rfl,hindex⟩
    · rw [List.concat_eq_append, ← List.cons_append, ← List.append_assoc] at hsplit
      obtain ⟨rfl,-⟩ := List.append_inj' hsplit rfl
      exact .inl ⟨before,ins,later,rfl,hindex⟩
  · rintro (⟨before,ins,later,rfl,hindex⟩ | ⟨ins,rfl,hindex⟩)
    · exact ⟨before,ins,later ++ [step],by simp,hindex⟩
    · exact ⟨steps,ins,[],rfl,hindex⟩

theorem gives_concat_of_ne (h : ∀ ins pos, step ≠ .instructionAt ins pos) :
    Gives (steps ++ [step]) index pos ↔ Gives steps index pos := by
  rw [gives_concat]
  constructor
  · rintro (hgives | ⟨ins,hstep,-⟩)
    · exact hgives
    · exact absurd hstep (h ins pos)
  · exact .inl

structure Tracks (source : Source) (steps : List Step) (b : Builder) : Prop where
  source : b.source = source
  code : b.code = instructions steps
  ascending : b.sourceMap.Pairwise fun x y => x.pc < y.pc
  below : ∀ entry ∈ b.sourceMap, entry.pc.toNat < b.code.length
  exact : ∀ index pos, Gives steps index pos ↔
    ∃ entry ∈ b.sourceMap, entry.pc.toNat = index ∧ entry.pos = pos

theorem tracks_new (source : Source) : Tracks source [] (new source) where
  source := rfl
  code := rfl
  ascending := .nil
  below := by simp [new]
  exact := by simp [new, Gives]

theorem Tracks.instructionAt (h : Tracks source steps b) (hsize : b.code.length < UInt32.size)
    (ins : Instruction) (pos : UInt32) :
    Tracks source (steps ++ [.instructionAt ins pos]) (b.instructionAt ins pos) := by
  have hword : (UInt32.ofNat b.code.length).toNat = b.code.length :=
    UInt32.toNat_ofNat_of_lt' hsize
  constructor
  · exact h.source
  · simp [Builder.instructionAt, instructions_concat, h.code, Step.instruction?]
  · refine List.pairwise_append.mpr ⟨h.ascending,List.pairwise_singleton _ _,?_⟩
    intro entry hentry last hlast
    obtain rfl := List.mem_singleton.mp hlast
    rw [UInt32.lt_iff_toNat_lt, hword]
    exact h.below entry hentry
  · intro entry hentry
    rw [Builder.instructionAt, List.length_append, List.length_singleton, Nat.lt_succ_iff]
    rcases List.mem_append.mp hentry with hold | hnew
    · exact Nat.le_of_lt (h.below entry hold)
    · obtain rfl := List.mem_singleton.mp hnew
      exact Nat.le_of_eq hword
  · intro index other
    rw [gives_concat, h.exact, ← h.code]
    constructor
    · rintro (⟨entry,hentry,hindex,hpos⟩ | ⟨_,hstep,rfl⟩)
      · exact ⟨entry,List.mem_append_left _ hentry,hindex,hpos⟩
      · cases hstep
        exact ⟨_,List.mem_append_right _ List.mem_cons_self,hword,rfl⟩
    · rintro ⟨entry,hentry,rfl,rfl⟩
      rcases List.mem_append.mp hentry with hold | hnew
      · exact .inl ⟨entry,hold,rfl,rfl⟩
      · obtain rfl := List.mem_singleton.mp hnew
        exact .inr ⟨ins,rfl,hword⟩

theorem Tracks.of_ne (h : Tracks source steps b) (hstep : ∀ ins pos, step ≠ .instructionAt ins pos)
    (hsource : (step.apply b).source = b.source) (hmap : (step.apply b).sourceMap = b.sourceMap)
    (hcode : (step.apply b).code = b.code ++ step.instruction?.toList) :
    Tracks source (steps ++ [step]) (step.apply b) := by
  constructor
  · rw [hsource, h.source]
  · rw [hcode, h.code, instructions_concat]
  · rw [hmap]
    exact h.ascending
  · intro entry hentry
    rw [hmap] at hentry
    rw [hcode, List.length_append]
    exact Nat.lt_add_right _ (h.below entry hentry)
  · intro index pos
    rw [gives_concat_of_ne hstep, hmap]
    exact h.exact index pos

theorem Tracks.apply (h : Tracks source steps b)
    (hsize : (instructions (steps ++ [step])).length ≤ UInt32.size) :
    Tracks source (steps ++ [step]) (step.apply b) := by
  cases step with
  | instructionAt ins pos =>
    apply h.instructionAt
    rw [instructions_concat, ← h.code, List.length_append] at hsize
    exact hsize
  | instruction ins => exact h.of_ne (by simp) rfl rfl rfl
  | named functionName => exact h.of_ne (by simp) rfl rfl (List.append_nil _).symm
  | constant c => exact h.of_ne (by simp) rfl rfl (List.append_nil _).symm
  | editConstants edit => exact h.of_ne (by simp) rfl rfl (List.append_nil _).symm

theorem tracks_after (source : Source) (steps : List Step)
    (hsize : (instructions steps).length ≤ UInt32.size) :
    Tracks source steps ((new source).after steps) := by
  induction steps using List.reverseRecOn with
  | nil => exact tracks_new source
  | append_singleton steps step ih =>
    rw [after_concat]
    have hearlier : (instructions steps).length ≤ UInt32.size := by
      rw [instructions_concat, List.length_append] at hsize
      omega
    exact (ih hearlier).apply hsize

theorem Tracks.eq_of_pc_eq (h : Tracks source steps b) {x y : SourceMapEntry}
    (hx : x ∈ b.sourceMap) (hy : y ∈ b.sourceMap) (hpc : x.pc = y.pc) : x = y := by
  have hpcs : (b.sourceMap.map SourceMapEntry.pc).Nodup :=
    List.pairwise_map.mpr (h.ascending.imp UInt32.ne_of_lt)
  exact List.inj_on_of_nodup_map hpcs hx hy hpc

theorem Tracks.gives_unique (h : Tracks source steps b) {other : UInt32}
    (hpos : Gives steps index pos) (hother : Gives steps index other) : pos = other := by
  obtain ⟨x,hx,hindex,rfl⟩ := (h.exact _ _).mp hpos
  obtain ⟨y,hy,rfl,rfl⟩ := (h.exact _ _).mp hother
  rw [h.eq_of_pc_eq hx hy (UInt32.toNat_inj.mp hindex)]

theorem Tracks.isGreatest (h : Tracks source steps b) {pc : UInt32} {entry : SourceMapEntry}
    (hentry : IsGreatest {n | n ≤ pc ∧ ∃ other ∈ b.sourceMap, other.pc = n} entry.pc) :
    IsGreatest {n | n ≤ pc.toNat ∧ ∃ pos, Gives steps n pos} entry.pc.toNat := by
  obtain ⟨⟨hle,other,hother,hpc⟩,hgreatest⟩ := hentry
  constructor
  · refine ⟨UInt32.le_iff_toNat_le.mp hle,other.pos,?_⟩
    exact (h.exact _ _).mpr ⟨other,hother,by rw [hpc],rfl⟩
  · rintro n ⟨hn,pos,hgives⟩
    obtain ⟨another,hanother,rfl,-⟩ := (h.exact _ _).mp hgives
    rw [← UInt32.le_iff_toNat_le]
    exact hgreatest ⟨UInt32.le_iff_toNat_le.mpr hn,another,hanother,rfl⟩

theorem build_maps_positions (source : Source) (steps : List Step)
    (hsize : (instructions steps).length ≤ UInt32.size) :
    let p := ((new source).after steps).build
    p.code = instructions steps ∧
    (p.sourceMap.Pairwise fun x y => x.pc < y.pc) ∧
    (∀ entry ∈ p.sourceMap, entry.pc.toNat < p.code.length) ∧
    (∀ index pos, Gives steps index pos ↔
      ∃ entry ∈ p.sourceMap, entry.pc.toNat = index ∧ entry.pos = pos) ∧
    ∀ pc,
      (∀ position, p.positionOf? pc = some position ↔
        ∃ index pos, IsGreatest {n | n ≤ pc.toNat ∧ ∃ pos, Gives steps n pos} index ∧
          Gives steps index pos ∧ source.position pos = position) ∧
      (p.positionOf? pc = none ↔ ∀ index pos, Gives steps index pos → pc.toNat < index) := by
  intro p
  have h : Tracks source steps ((new source).after steps) := tracks_after source steps hsize
  refine ⟨h.code,h.ascending,h.below,h.exact,fun pc => ?_⟩
  have hsource : p.source = source := h.source
  rcases p.positionOf?_cases h.ascending pc with
    ⟨entry,hentry,hgreatest,hposition⟩ | ⟨hlater,hposition⟩
  · have hlast := h.isGreatest hgreatest
    have hgives : Gives steps entry.pc.toNat entry.pos := (h.exact _ _).mpr ⟨entry,hentry,rfl,rfl⟩
    rw [hposition, hsource]
    constructor
    · intro position
      rw [Option.some.injEq]
      constructor
      · rintro rfl
        exact ⟨_,_,hlast,hgives,rfl⟩
      · rintro ⟨index,pos,hindex,hpos,rfl⟩
        obtain rfl := hindex.unique hlast
        rw [h.gives_unique hgives hpos]
    · simp only [reduceCtorEq, false_iff]
      intro hall
      exact Nat.not_lt.mpr hlast.1.1 (hall _ _ hgives)
  · have hnone : ∀ index pos, Gives steps index pos → pc.toNat < index := by
      intro index pos hgives
      obtain ⟨entry,hentry,rfl,-⟩ := (h.exact _ _).mp hgives
      exact UInt32.lt_iff_toNat_lt.mp (hlater entry hentry)
    rw [hposition]
    refine ⟨fun position => ?_,by simpa using hnone⟩
    simp only [reduceCtorEq, false_iff]
    rintro ⟨index,pos,⟨⟨hle,-⟩,-⟩,hgives,-⟩
    exact Nat.not_lt.mpr hle (hnone index pos hgives)

theorem build_maps_positions_sparse :
    let source := Source.scan "a.js" "f()\ng()"
    let call : Instruction := ⟨.call, .count 0, by decide⟩
    let pop : Instruction := ⟨.pop, .none, by decide⟩
    let steps : List Step := [.named "main", .instruction pop, .instructionAt call 4,
      .constant .null, .editConstants fun pool => (pool.add (.int 1)).1, .instruction pop,
      .instructionAt call 0]
    let p := ((new source).after steps).build
    (instructions steps).length ≤ UInt32.size ∧ p.sourceMap = [⟨1, 4⟩, ⟨3, 0⟩] ∧
      (∀ index pos, Gives steps index pos ↔ index = 1 ∧ pos = 4 ∨ index = 3 ∧ pos = 0) ∧
      p.positionOf? 0 = none ∧ p.positionOf? 2 = some ⟨2, 1⟩ ∧ p.positionOf? 9 = some ⟨1, 1⟩ := by
  intro source call pop steps p
  have hsize : (instructions steps).length ≤ UInt32.size := by decide
  have hmap : p.sourceMap = [⟨1, 4⟩, ⟨3, 0⟩] := rfl
  obtain ⟨-,-,-,hexact,hposition⟩ := build_maps_positions source steps hsize
  have hgives (index : Nat) (pos : UInt32) :
      Gives steps index pos ↔ index = 1 ∧ pos = 4 ∨ index = 3 ∧ pos = 0 := by
    rw [hexact, hmap]
    simp [eq_comm]
  have hsecond : Gives steps 1 4 := (hgives 1 4).mpr (.inl ⟨rfl,rfl⟩)
  have hfourth : Gives steps 3 0 := (hgives 3 0).mpr (.inr ⟨rfl,rfl⟩)
  refine ⟨hsize,hmap,hgives,?_,?_,?_⟩
  · apply (hposition 0).2.mpr
    intro index pos hpos
    rcases (hgives index pos).mp hpos with ⟨rfl,-⟩ | ⟨rfl,-⟩ <;> decide
  · refine ((hposition 2).1 _).mpr ⟨1,4,⟨⟨by decide,4,hsecond⟩,?_⟩,hsecond,by decide⟩
    rintro n ⟨hn,pos,hpos⟩
    rcases (hgives n pos).mp hpos with ⟨rfl,-⟩ | ⟨rfl,-⟩
    · exact Nat.le_refl 1
    · exact absurd hn (by decide)
  · refine ((hposition 9).1 _).mpr ⟨3,0,⟨⟨by decide,0,hfourth⟩,?_⟩,hfourth,by decide⟩
    rintro n ⟨-,pos,hpos⟩
    rcases (hgives n pos).mp hpos with ⟨rfl,-⟩ | ⟨rfl,-⟩ <;> decide

end Builder

end ScriptCache
