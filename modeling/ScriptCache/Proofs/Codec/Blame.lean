import Mathlib
import ScriptCache.Proofs.Codec.Contents
import ScriptCache.Proofs.Codec.Evidence
import ScriptCache.Proofs.Codec.Header

namespace ScriptCache

namespace Decode

open Reader

variable {file : List UInt8}

theorem honest_opcode : Honest file opcode := by
  rw [opcode_eq]
  refine honest_tabled ?_
  intro o x hx hnone
  exact ⟨hx, Opcode.ofByte?_eq_none_iff.mp hnone⟩

theorem honest_bindingKind : Honest file bindingKind := by
  rw [bindingKind_eq]
  refine honest_tabled ?_
  intro o x hx hnone
  refine ⟨hx,?_⟩
  simp [BindingKind.ofByte?, BindingKind.all, BindingKind.byte] at hnone
  grind

theorem honest_operands (shape : OperandShape) : Honest file (operands shape) := by
  cases shape with
  | none => exact honest_pure _
  | constant => exact honest_word.bind fun _ => honest_pure _
  | count => exact honest_word.bind fun _ => honest_pure _
  | stack => exact honest_signed.bind fun _ => honest_pure _
  | localSlot => exact honest_word.bind fun _ => honest_pure _
  | jump => exact honest_signed.bind fun _ => honest_pure _
  | name => exact honest_text.bind fun _ => honest_pure _
  | varRef => exact honest_text.bind fun _ => honest_word.bind fun _ => honest_pure _
  | getVar =>
    exact honest_text.bind fun _ => honest_word.bind fun _ => honest_flag.bind fun _ =>
      honest_flag.bind fun _ => honest_pure _
  | resolveVar =>
    exact honest_text.bind fun _ => honest_word.bind fun _ => honest_bindingKind.bind fun _ =>
      honest_flag.bind fun _ => honest_pure _
  | frame => exact honest_word.bind fun _ => honest_word.bind fun _ => honest_pure _
  | function =>
    exact honest_word.bind fun _ => honest_text.bind fun _ => honest_word.bind fun _ =>
      honest_flag.bind fun _ => honest_pure _
  | regexp => exact honest_text.bind fun _ => honest_text.bind fun _ => honest_pure _
  | tryBlock =>
    exact honest_signed.bind fun _ => honest_signed.bind fun _ => honest_flag.bind fun _ =>
      honest_pure _

theorem honest_instruction : Honest file instruction :=
  honest_opcode.bind fun op => (honest_operands op.shape).bind fun _ => honest_pure _

/-- Putting the parts together again after the registry was asked for the shape cannot fail. -/
theorem instruction_eq_ofParts : instruction = (do
    let start ← offset
    let op ← opcode
    let x ← operands op.shape
    match Instruction.ofParts? op x.val with
    | some ins => return ins
    | none => fail start (.unknownOpcode op.byte)) := by
  have hparts (op : Opcode) (x : { x : Operands // x.shape = op.shape }) :
      Instruction.ofParts? op x.val = some ⟨op,x.val,x.property⟩ :=
    Instruction.ofParts?_eq_some_iff.mpr ⟨rfl,rfl⟩
  funext c
  rw [bind_of_ok (offset_eq_ok_iff.mpr ⟨rfl,rfl⟩), instruction]
  simp only [hparts]

theorem honest_entry : Honest file entry :=
  honest_word.bind fun _ => honest_word.bind fun _ => honest_pure _

theorem honest_source : Honest file source :=
  honest_text.bind fun _ => honest_text.bind fun _ => honest_word.bind fun _ =>
    honest_words.bind fun _ => honest_pure _

theorem honest_body {item : Reader Constant} (h : Honest file item) (name : String)
    (s : Source) : Honest file (body item name s) := by
  rw [body_eq]
  exact (honest_counted (by decide) honest_instruction).bind fun _ =>
    (honest_counted (by decide) h).bind fun _ =>
    (honest_counted (by decide) honest_entry).bind fun _ => honest_pure _

theorem honestAt_nested {s : Source} {room o : Nat} {m : Cursor}
    (hconstant : ∀ r, room = r + 1 → Honest file (constant s r))
    (htag : file[o]? = some Format.tagFunction) (hm : m.In file) :
    HonestAt file (nested s room o) m := by
  cases room with
  | zero => exact honestAt_fail htag
  | succ room =>
    have hbody (name : String) : Honest file (body (constant s room) name s) :=
      honest_body (hconstant room rfl) name s
    have hnested : Honest file (nested s (room + 1) o) :=
      honest_text.bind fun name => (hbody name).bind fun _ => honest_pure _
    exact hnested m hm

theorem honest_constant (s : Source) (room : Nat) : Honest file (constant s room) := by
  induction room using Nat.strongRecOn with
  | ind room ih =>
    rw [constant_eq]
    refine honest_marked ?_
    intro o tag m htag hm
    split_ifs
    · exact honest_pure _ m hm
    · exact honest_pure _ m hm
    · exact (honest_flag.bind fun _ => honest_pure _) m hm
    · exact (honest_long.bind fun _ => honest_pure _) m hm
    · exact (honest_long.bind fun _ => honest_pure _) m hm
    · exact (honest_text.bind fun _ => honest_pure _) m hm
    · exact (honest_text.bind fun _ => honest_text.bind fun _ => honest_pure _) m hm
    · rename_i hfunction
      exact honestAt_nested (fun r hr => ih r (by omega)) (hfunction ▸ htag) hm
    · refine honestAt_fail ⟨htag,?_⟩
      simp only [Format.tagUndefined, Format.tagNull, Format.tagBool, Format.tagInt,
        Format.tagFloat, Format.tagString, Format.tagRegexp, Format.tagFunction] at *
      grind

theorem honest_program : Honest file program := by
  rw [program_eq]
  have hcontents : Honest file contents :=
    honest_text.bind fun name => honest_source.bind fun s =>
      honest_body (honest_constant s Format.maxNesting) name s
  exact hcontents.bind fun _ => honest_finish.bind fun _ => honest_pure _

end Decode

namespace Program

variable {bytes : List UInt8} {v : UInt16}

theorem decode_cases (bytes : List UInt8) (v : UInt16) :
    (¬Format.StartsMagic bytes ∧ decode bytes v = .error .notACacheFile) ∨
    (Format.StartsMagic bytes ∧ 6 ≤ bytes.length ∧ Format.versionField bytes ≠ v ∧
      decode bytes v = .error (.versionMismatch v (Format.versionField bytes))) ∨
    (Format.StartsMagic bytes ∧ (6 ≤ bytes.length → Format.versionField bytes = v) ∧
      ((∃ p, decode bytes v = .ok p) ∨
        ∃ o reason, decode bytes v = .error (.corrupt o reason) ∧ reason.Shown bytes o)) := by
  rcases Decode.version_cases bytes with
    ⟨hmagic,hforeign⟩ | ⟨hmagic,hshort,o,needed,remaining,hcut,hend,hlt⟩ | ⟨found,rest,rfl⟩
  · exact .inl ⟨hmagic, decode_of_version_error hforeign v⟩
  · refine .inr (.inr ⟨hmagic,by omega,.inr ⟨o,_,decode_of_version_error hcut v,?_⟩⟩)
    exact ⟨hend,hlt⟩
  · have hmagic := Encode.startsMagic_header found rest
    have hlen : 6 ≤ (Encode.header found ++ rest).length := by
      rw [List.length_append, Encode.length_header, Format.headerLength]
      omega
    rw [decode_header, Encode.versionField_header]
    by_cases hversion : found = v
    · refine .inr (.inr ⟨hmagic,fun _ => hversion,?_⟩)
      have hin : Cursor.In ⟨Format.headerLength, rest⟩ (Encode.header found ++ rest) :=
        ⟨Encode.header found, rfl, by rw [Encode.length_header, Nat.zero_add]⟩
      have hhonest := Decode.honest_program ⟨Format.headerLength, rest⟩ hin
      rw [if_pos hversion]
      cases hread : Decode.program ⟨Format.headerLength, rest⟩ with
      | ok read => exact .inl ⟨read.1,rfl⟩
      | error e =>
        obtain ⟨o,reason,rfl,hshown⟩ := (hhonest.shown hread).corrupt
        exact .inr ⟨o,reason,rfl,hshown⟩
    · refine .inr (.inl ⟨hmagic,hlen,hversion,?_⟩)
      rw [if_neg hversion]

theorem decode_notACacheFile_iff :
    decode bytes v = .error .notACacheFile ↔ ¬Format.StartsMagic bytes := by
  rcases decode_cases bytes v with ⟨hmagic,h⟩ | ⟨hmagic,-,-,h⟩ | ⟨hmagic,-,⟨p,h⟩ | ⟨o,r,h,-⟩⟩ <;>
    simp [h, hmagic]

theorem decode_versionMismatch_iff {expected found : UInt16} :
    decode bytes v = .error (.versionMismatch expected found) ↔
      Format.StartsMagic bytes ∧ 6 ≤ bytes.length ∧ expected = v ∧
        found = Format.versionField bytes ∧ found ≠ v := by
  rcases decode_cases bytes v with ⟨hmagic,h⟩ | ⟨hmagic,hlen,hversion,h⟩ |
    ⟨hmagic,hversion,⟨p,h⟩ | ⟨o,reason,h,-⟩⟩
  · simp [h, hmagic]
  · simp only [h, hmagic, hlen, Except.error.injEq, CacheError.versionMismatch.injEq, true_and]
    constructor
    · rintro ⟨rfl,rfl⟩
      exact ⟨rfl,rfl,hversion⟩
    · rintro ⟨rfl,rfl,-⟩
      exact ⟨rfl,rfl⟩
  all_goals
    simp only [h, reduceCtorEq, Except.error.injEq, false_iff]
    rintro ⟨-,hlen,-,rfl,hne⟩
    exact hne (hversion hlen)

theorem decode_ok_or_corrupt (hmagic : Format.StartsMagic bytes)
    (hversion : 6 ≤ bytes.length → Format.versionField bytes = v) :
    (∃ p, decode bytes v = .ok p) ∨ ∃ o reason, decode bytes v = .error (.corrupt o reason) := by
  rcases decode_cases bytes v with ⟨hforeign,-⟩ | ⟨-,hlen,hother,-⟩ | ⟨-,-,hread | ⟨o,r,h,-⟩⟩
  · exact absurd hmagic hforeign
  · exact absurd (hversion hlen) hother
  · exact .inl hread
  · exact .inr ⟨o,r,h⟩

theorem decode_ne_io (cause : String) : decode bytes v ≠ .error (.io cause) := by
  rcases decode_cases bytes v with ⟨-,h⟩ | ⟨-,-,-,h⟩ | ⟨-,-,⟨p,h⟩ | ⟨o,r,h,-⟩⟩ <;> simp [h]

theorem shown_of_decode {o : Nat} {reason : Corruption}
    (hcorrupt : decode bytes v = .error (.corrupt o reason)) : reason.Shown bytes o := by
  rcases decode_cases bytes v with ⟨-,h⟩ | ⟨-,-,-,h⟩ | ⟨-,-,⟨p,h⟩ | ⟨o',r,h,hshown⟩⟩ <;>
    rw [h] at hcorrupt <;> cases hcorrupt
  exact hshown

theorem decode_blames (bytes : List UInt8) (v : UInt16) :
    (decode bytes v = .error .notACacheFile ↔ ¬Format.StartsMagic bytes) ∧
    (∀ expected found, decode bytes v = .error (.versionMismatch expected found) ↔
      Format.StartsMagic bytes ∧ 6 ≤ bytes.length ∧ expected = v ∧
        found = Format.versionField bytes ∧ found ≠ v) ∧
    (Format.StartsMagic bytes → (6 ≤ bytes.length → Format.versionField bytes = v) →
      (∃ p, decode bytes v = .ok p) ∨ ∃ o reason, decode bytes v = .error (.corrupt o reason)) ∧
    (∀ cause, decode bytes v ≠ .error (.io cause)) ∧
    ∀ o reason, decode bytes v = .error (.corrupt o reason) →
      o ≤ bytes.length ∧ reason.Shown bytes o := by
  refine ⟨decode_notACacheFile_iff,fun _ _ => decode_versionMismatch_iff,decode_ok_or_corrupt,
    decode_ne_io,?_⟩
  intro o reason h
  have hshown := shown_of_decode h
  exact ⟨hshown.offset_le,hshown⟩

def mistagged : List UInt8 :=
  Encode.header 1 ++ List.replicate 27 0 ++ [1, 0x42]

theorem decode_blames_mistagged :
    decode mistagged 2 = .error (.versionMismatch 2 1) ∧
      ((∃ p, decode mistagged 1 = .ok p) ∨
        ∃ o reason, decode mistagged 1 = .error (.corrupt o reason)) ∧
      34 ≤ mistagged.length ∧ (Corruption.unknownConstantTag 0x42).Shown mistagged 34 := by
  obtain ⟨-,hmismatch,-⟩ := decode_blames mistagged 2
  obtain ⟨-,-,hread,-,hshown⟩ := decode_blames mistagged 1
  refine ⟨(hmismatch 2 1).mpr ?_,hread ?_ ?_,hshown 34 (.unknownConstantTag 0x42) (by cbv)⟩
  · exact ⟨by decide,by decide,rfl,by decide,by decide⟩
  · decide
  · exact fun _ => by decide

end Program

end ScriptCache
