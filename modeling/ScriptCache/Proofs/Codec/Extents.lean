import Mathlib
import ScriptCache.Proofs.Codec.Noting

namespace ScriptCache

def Table.extent (t : Table) : Nat × Nat :=
  (t.items, t.width)

def Text.extent (s : String) : Nat × Nat :=
  ((Text.utf8 s).length, 1)

def Source.extents (s : Source) : List (Nat × Nat) :=
  [Text.extent s.name, Text.extent s.text, (s.lineOffsets.length, 4)]

theorem Operands.texts_of_textless {x : Operands}
    (h : x.shape ∈ [.none, .constant, .count, .stack, .localSlot, .jump, .frame, .tryBlock]) :
    x.texts = [] := by
  cases x <;> simp [shape] at h <;> rfl

def Instruction.extents (ins : Instruction) : List (Nat × Nat) :=
  ins.operands.texts.map Text.extent

mutual

/-- How many items of which width each table of a program has, in the order of the format. The
name and the source, which stand in front, are left out. -/
def Program.extents : Program → List (Nat × Nat)
  | ⟨_, _, code, constants, sourceMap⟩ =>
      code.flatMap Instruction.extents ++ Constant.extentsIn constants ++ [(sourceMap.length, 8)]

def Constant.extentsIn : List Constant → List (Nat × Nat)
  | [] => []
  | .function p :: rest => Text.extent p.functionName :: p.extents ++ Constant.extentsIn rest
  | c :: rest => c.texts.map Text.extent ++ Constant.extentsIn rest

end

def Constant.extents : Constant → List (Nat × Nat)
  | .function p => Text.extent p.functionName :: p.extents
  | c => c.texts.map Text.extent

theorem Constant.extentsIn_eq_flatMap (cs : List Constant) :
    extentsIn cs = cs.flatMap extents := by
  induction cs with
  | nil => rfl
  | cons c cs ih =>
    cases c <;> simp [extentsIn, extents, ih]

theorem Program.extents_eq (p : Program) :
    p.extents = p.code.flatMap Instruction.extents ++ p.constants.flatMap Constant.extents ++
      [(p.sourceMap.length, 8)] := by
  obtain ⟨name,source,code,constants,sourceMap⟩ := p
  simp only [extents, Constant.extentsIn_eq_flatMap]

namespace Noting

variable {α β : Type}

def Gives (x : Noting α) (P : α → List (Nat × Nat) → Prop) : Prop :=
  ∀ c a c', x.read c = .ok (a, c') → P a ((x.notes c).map Table.extent)

section Gives

variable {x : Noting α} {r : Reader α} {P : α → List (Nat × Nat) → Prop}

theorem gives_pure {a : α} (h : P a []) : Gives (pure a) P := by
  intro c b c' hread
  obtain ⟨rfl,rfl⟩ := Reader.pure_eq_ok_iff.mp hread
  exact h

theorem gives_lift (h : ∀ a, P a []) : Gives (liftM r : Noting α) P :=
  fun _ a _ _ => h a

theorem gives_fail {start : Nat} {reason : Corruption} :
    Gives (liftM (Reader.fail start reason : Reader α) : Noting α) P :=
  fun c _ _ hread => absurd hread (Reader.fail_ne_ok (c := c))

theorem Gives.bind {f : α → Noting β} {Q : β → List (Nat × Nat) → Prop}
    (h : Gives x fun a l => Gives (f a) fun b l' => Q b (l ++ l')) : Gives (x >>= f) Q := by
  intro c b c' hread
  obtain ⟨a,m,hfirst,hrest⟩ := Reader.bind_eq_ok_iff.mp hread
  have hnotes : (x >>= f).notes c = x.notes c ++ (f a).notes m := by
    rw [notes_bind, hfirst]
  rw [hnotes, List.map_append]
  exact h c a m hfirst m b c' hrest

theorem gives_table {width : Nat} (h : ∀ c a c', r c = .ok (a, c') →
    ∃ n m, Reader.number 4 c = .ok (n, m) ∧ P a [(n, width)]) : Gives (table width r) P := by
  intro c a c' hread
  obtain ⟨n,m,hnumber,hP⟩ := h c a c' hread
  have hnotes : (table width r).notes c = [⟨c.offset,n,width⟩] := by simp only [table, hnumber]
  rw [hnotes]
  exact hP

end Gives

theorem number_of_spans {c c' : Cursor} {n : Nat} {bytes : List UInt8} (hlt : n < UInt32.size)
    (hspan : c.Spans (Encode.size n ++ bytes) c') : ∃ m, Reader.number 4 c = .ok (n, m) := by
  obtain ⟨m,hsize,-⟩ := Cursor.spans_append.mp hspan
  exact ⟨m,Reader.number_eq_ok_iff.mpr ⟨hlt,hsize⟩⟩

theorem gives_text {P : String → List (Nat × Nat) → Prop} (h : ∀ s, P s [Text.extent s]) :
    Gives text P := by
  refine gives_table fun c s c' hread => ?_
  obtain ⟨hlt,hspan⟩ := Reader.text_eq_ok_iff.mp hread
  obtain ⟨m,hnumber⟩ := number_of_spans hlt hspan
  exact ⟨_,m,hnumber,h s⟩

theorem gives_words {P : List UInt32 → List (Nat × Nat) → Prop}
    (h : ∀ ns, P ns [(ns.length, 4)]) : Gives words P := by
  refine gives_table fun c ns c' hread => ?_
  obtain ⟨hlt,hspan⟩ := Reader.words_eq_ok_iff.mp hread
  obtain ⟨m,hnumber⟩ := number_of_spans hlt hspan
  exact ⟨_,m,hnumber,h ns⟩

theorem gives_entries {P : List SourceMapEntry → List (Nat × Nat) → Prop}
    (h : ∀ es, P es [(es.length, 8)]) : Gives entries P := by
  refine gives_table fun c es c' hread => ?_
  obtain ⟨⟨hlt,-⟩,hspan⟩ := (Reader.counted_eq_ok_iff Decode.reads_entry
    (fun e => Nat.le_of_eq (Encode.length_entry e).symm)).mp hread
  obtain ⟨m,hnumber⟩ := number_of_spans hlt hspan
  exact ⟨_,m,hnumber,h es⟩

theorem gives_times {item : Noting α} {extents : α → List (Nat × Nat)}
    (h : Gives item fun a l => l = extents a) (n : Nat) :
    Gives (times item n) fun as l => l = as.flatMap extents := by
  induction n with
  | zero => exact gives_pure rfl
  | succ n ih =>
    refine .bind fun c a c' hread => .bind fun d as d' hrest => gives_pure ?_
    rw [h c a c' hread, ih d as d' hrest, List.append_nil, List.flatMap_cons]

theorem gives_operands (shape : OperandShape) :
    Gives (operands shape) fun x l => l = x.val.texts.map Text.extent := by
  cases shape with
  | name => exact .bind (gives_text fun _ => gives_pure rfl)
  | varRef => exact .bind (gives_text fun _ => .bind (gives_lift fun _ => gives_pure rfl))
  | getVar =>
    exact .bind (gives_text fun _ => .bind (gives_lift fun _ => .bind (gives_lift fun _ =>
      .bind (gives_lift fun _ => gives_pure rfl))))
  | resolveVar =>
    exact .bind (gives_text fun _ => .bind (gives_lift fun _ => .bind (gives_lift fun _ =>
      .bind (gives_lift fun _ => gives_pure rfl))))
  | function =>
    exact .bind (gives_lift fun _ => .bind (gives_text fun _ => .bind (gives_lift fun _ =>
      .bind (gives_lift fun _ => gives_pure rfl))))
  | regexp => exact .bind (gives_text fun _ => .bind (gives_text fun _ => gives_pure rfl))
  | _ => exact gives_lift fun x => by rw [Operands.texts_of_textless (by simp [x.property])]; rfl

theorem gives_instruction : Gives instruction fun ins l => l = ins.extents :=
  .bind <| gives_lift fun op => .bind fun c x c' hread => gives_pure <| by
    rw [gives_operands op.shape c x c' hread, List.append_nil]
    rfl

theorem gives_source : Gives source fun s l => l = s.extents :=
  .bind <| gives_text fun _ => .bind <| gives_text fun _ => .bind <| gives_lift fun _ =>
    .bind <| gives_words fun _ => gives_pure rfl

theorem gives_body {item : Noting Constant} (h : Gives item fun k l => l = k.extents)
    (name : String) (s : Source) :
    Gives (body item name s) fun p l => p.functionName = name ∧ p.source = s ∧ l = p.extents := by
  refine .bind <| gives_lift fun n => .bind fun c code c' hcode => .bind <| gives_lift fun k =>
    .bind fun d pool d' hpool => .bind <| gives_entries fun es => gives_pure ⟨rfl,rfl,?_⟩
  rw [gives_times gives_instruction n c code c' hcode, gives_times h k d pool d' hpool,
    Program.extents_eq]
  simp

theorem gives_tagged {nested : Nat → Noting Constant}
    (h : ∀ start, Gives (nested start) fun k l => l = k.extents) :
    Gives (tagged nested) fun k l => l = k.extents := by
  refine .bind <| gives_lift fun start => .bind <| gives_lift fun tag => ?_
  split_ifs
  · exact gives_pure rfl
  · exact gives_pure rfl
  · exact .bind <| gives_lift fun _ => gives_pure rfl
  · exact .bind <| gives_lift fun _ => gives_pure rfl
  · exact .bind <| gives_lift fun _ => gives_pure rfl
  · exact .bind <| gives_text fun _ => gives_pure rfl
  · exact .bind <| gives_text fun _ => .bind <| gives_text fun _ => gives_pure rfl
  · exact h start
  · exact gives_fail

theorem gives_constant (s : Source) (room : Nat) :
    Gives (constant s room) fun k l => l = k.extents := by
  induction room with
  | zero => exact gives_tagged fun _ => gives_fail
  | succ room ih =>
    refine gives_tagged fun start => .bind <| gives_text fun name =>
      .bind fun c p c' hread => gives_pure ?_
    obtain ⟨hname,-,hextents⟩ := gives_body ih name s c p c' hread
    rw [hextents, List.append_nil, Constant.extents, hname]
    rfl

theorem gives_program : Gives program fun p l =>
    l = Text.extent p.functionName :: p.source.extents ++ p.extents := by
  refine .bind <| gives_text fun name => .bind fun c s c' hsource =>
    .bind fun d p d' hbody => .bind <| gives_lift fun _ => gives_pure ?_
  obtain ⟨hname,hshared,hextents⟩ :=
    gives_body (gives_constant s Format.maxNesting) name s d p d' hbody
  rw [gives_source c s c' hsource, hextents, hname, hshared]
  simp

end Noting

end ScriptCache
