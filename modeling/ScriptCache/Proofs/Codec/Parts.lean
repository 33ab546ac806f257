import Mathlib.Data.List.Basic
import ScriptCache.Codec.Decode
import ScriptCache.Proofs.Codec.Capacity
import ScriptCache.Proofs.Codec.Reading

namespace ScriptCache

namespace Encode

def constant : Constant → List UInt8
  | .function p => Format.tagFunction :: (text p.functionName ++ body p)
  | c => scalar c

theorem constants_eq_flatMap (cs : List Constant) : constants cs = cs.flatMap constant := by
  induction cs with
  | nil => rfl
  | cons c cs ih =>
    cases c <;> simp [constants, constant, ih]

theorem body_eq (p : Program) :
    body p = (size p.code.length ++ p.code.flatMap instruction) ++
      (size p.constants.length ++ p.constants.flatMap constant) ++
      (size p.sourceMap.length ++ p.sourceMap.flatMap entry) := by
  obtain ⟨name,source,code,pool,entries⟩ := p
  simp only [body, Encode.code, Encode.sourceMap, constants_eq_flatMap]

theorem instruction_pos (ins : Instruction) : 1 ≤ (instruction ins).length := by
  simp [instruction]

theorem constant_pos (c : Constant) : 1 ≤ (constant c).length := by
  cases c <;> simp [constant, scalar]

theorem length_entry (e : SourceMapEntry) : (entry e).length = 8 := by
  simp [entry, word]

theorem body_withSource (s : Source) (p : Program) : body (p.withSource s) = body p := by
  induction p using Program.nested_induction with
  | step p ih =>
    have hsame : ∀ c ∈ p.constants, constant (c.sharing s) = constant c := by
      intro c hc
      cases c with
      | function q =>
        have hname : (q.withSource s).functionName = q.functionName := by
          rw [Program.withSource_eq]
        simp only [Constant.sharing, constant, hname, ih q hc]
      | _ => rfl
    rw [body_eq, body_eq, Program.withSource_eq, List.length_map, List.flatMap_map,
      List.flatMap_congr hsame]

end Encode

def Program.written (p : Program) : List UInt8 :=
  Encode.text p.functionName ++ Encode.source p.source ++ Encode.body p

theorem Program.encode_eq (p : Program) (v : UInt16) :
    p.encode v = Encode.header v ++ p.written := by
  simp only [encode, written, List.append_assoc]

theorem Program.encode_withSource (p : Program) (v : UInt16) :
    (p.withSource p.source).encode v = p.encode v := by
  rw [encode, encode, Encode.body_withSource, withSource_eq]

namespace Decode

open Reader

variable {c c' : Cursor}

theorem opcode_eq : opcode = tabled Opcode.ofByte? .unknownOpcode := by
  refine bind_congr fun start => bind_congr fun b => ?_
  cases Opcode.ofByte? b <;> rfl

theorem bindingKind_eq : bindingKind = tabled BindingKind.ofByte? .invalidBindingKind := by
  refine bind_congr fun start => bind_congr fun b => ?_
  cases BindingKind.ofByte? b <;> rfl

theorem opcode_eq_ok_iff {op : Opcode} : opcode c = .ok (op, c') ↔ c.Spans [op.byte] c' := by
  rw [opcode_eq]
  exact tabled_eq_ok_iff Opcode.ofByte?_byte fun _ _ => Opcode.byte_of_ofByte?

theorem bindingKind_eq_ok_iff {kind : BindingKind} :
    bindingKind c = .ok (kind, c') ↔ c.Spans [kind.byte] c' := by
  rw [bindingKind_eq]
  exact tabled_eq_ok_iff BindingKind.ofByte?_byte fun _ _ => BindingKind.byte_of_ofByte?

theorem operands_eq_ok_iff {shape : OperandShape} {x : { x : Operands // x.shape = shape }} :
    operands shape c = .ok (x, c') ↔
      (∀ s ∈ x.val.texts, Text.Fits s) ∧ c.Spans (Encode.operands x.val) c' := by
  obtain ⟨x,rfl⟩ := x
  -- one case for each shape, in which the reads follow the writes one by one
  cases x <;>
    simp only [Operands.shape, operands, bind_eq_ok_iff, pure_eq_ok_iff, word_eq_ok_iff,
      signed_eq_ok_iff, flag_eq_ok_iff, text_eq_ok_iff, bindingKind_eq_ok_iff, Encode.operands,
      List.append_assoc, Cursor.spans_append, Subtype.ext_iff] <;>
    simp [Operands.texts, Text.Fits, and_assoc, -Bool.exists_bool]
  case function => grind
  case regexp => grind

theorem reads_instruction :
    Reads instruction Encode.instruction fun ins => ∀ s ∈ ins.operands.texts, Text.Fits s := by
  intro ins c c'
  simp only [instruction, bind_eq_ok_iff, opcode_eq_ok_iff, operands_eq_ok_iff, pure_eq_ok_iff]
  rw [Encode.instruction, Cursor.spans_cons]
  constructor
  · rintro ⟨op,m,hop,x,d,⟨hfit,hspan⟩,rfl,rfl⟩
    exact ⟨hfit,m,hop,hspan⟩
  · rintro ⟨hfit,m,hop,hspan⟩
    exact ⟨ins.opcode,m,hop,⟨ins.operands,ins.fits⟩,c',⟨hfit,hspan⟩,rfl,rfl⟩

theorem reads_entry : Reads entry Encode.entry fun _ => True := by
  intro e c c'
  simp only [entry, bind_eq_ok_iff, word_eq_ok_iff, pure_eq_ok_iff, Encode.entry,
    Cursor.spans_append, true_and]
  constructor
  · rintro ⟨pc,m,hpc,pos,d,hpos,rfl,rfl⟩
    exact ⟨m,hpc,hpos⟩
  · rintro ⟨m,hpc,hpos⟩
    exact ⟨e.pc,m,hpc,e.pos,c',hpos,rfl,rfl⟩

theorem reads_source : Reads source Encode.source Source.Fits := by
  intro s c c'
  simp only [source, bind_eq_ok_iff, text_eq_ok_iff, word_eq_ok_iff, words_eq_ok_iff,
    pure_eq_ok_iff, Encode.source, List.append_assoc, Cursor.spans_append]
  constructor
  · rintro ⟨name,m₁,⟨hname,h₁⟩,text,m₂,⟨htext,h₂⟩,scanned,m₃,h₃,lines,d,⟨hlines,h₄⟩,rfl,rfl⟩
    exact ⟨⟨hname,htext,hlines⟩,m₁,h₁,m₂,h₂,m₃,h₃,h₄⟩
  · rintro ⟨⟨hname,htext,hlines⟩,m₁,h₁,m₂,h₂,m₃,h₃,h₄⟩
    exact ⟨s.name,m₁,⟨hname,h₁⟩,s.text,m₂,⟨htext,h₂⟩,s.scanned,m₃,h₃,s.lineOffsets,c',
      ⟨hlines,h₄⟩,rfl,rfl⟩

theorem body_eq (item : Reader Constant) (name : String) (s : Source) :
    body item name s = do
      let code ← counted 1 instruction
      let constants ← counted 1 item
      let sourceMap ← counted 8 entry
      return ⟨name, s, code, constants, sourceMap⟩ := by
  simp only [body, counted, bind_assoc]

theorem body_eq_ok_iff {item : Reader Constant} {fits : Constant → Prop}
    (h : Reads item Encode.constant fits) {name : String} {s : Source} {p : Program} :
    body item name s c = .ok (p, c') ↔
      ((p.functionName = name ∧ p.source = s) ∧
        (p.code.length < UInt32.size ∧ ∀ ins ∈ p.code, ∀ t ∈ ins.operands.texts, Text.Fits t) ∧
        (p.constants.length < UInt32.size ∧ ∀ k ∈ p.constants, fits k) ∧
        p.sourceMap.length < UInt32.size) ∧
      c.Spans (Encode.body p) c' := by
  have hentry (e : SourceMapEntry) : 8 ≤ (Encode.entry e).length :=
    Nat.le_of_eq (Encode.length_entry e).symm
  simp only [body_eq, Encode.body_eq, bind_eq_ok_iff, pure_eq_ok_iff, Cursor.spans_append,
    counted_eq_ok_iff reads_instruction Encode.instruction_pos,
    counted_eq_ok_iff h Encode.constant_pos, counted_eq_ok_iff reads_entry hentry]
  constructor
  · rintro ⟨code,m₁,⟨hcode,h₁⟩,constants,m₂,⟨hconstants,h₂⟩,entries,d,⟨hentries,h₃⟩,rfl,rfl⟩
    exact ⟨⟨⟨rfl,rfl⟩,hcode,hconstants,hentries.1⟩,m₂,⟨m₁,h₁,h₂⟩,h₃⟩
  · rintro ⟨⟨⟨rfl,rfl⟩,hcode,hconstants,hentries⟩,m₂,⟨m₁,h₁,h₂⟩,h₃⟩
    obtain ⟨name,s,code,constants,entries⟩ := p
    exact ⟨code,m₁,⟨hcode,h₁⟩,constants,m₂,⟨hconstants,h₂⟩,entries,c',
      ⟨⟨hentries,fun _ _ => trivial⟩,h₃⟩,rfl,rfl⟩

end Decode

end ScriptCache
