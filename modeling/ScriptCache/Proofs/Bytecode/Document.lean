import Mathlib
import ScriptCache.Bytecode.Document.Read
import ScriptCache.Proofs.Bytecode.Nesting
import ScriptCache.Proofs.Json.Record

namespace ScriptCache

open Decoder Record

def Program.FloatsFinite (p : Program) : Prop :=
  ∀ q ∈ p.functions, ∀ x, Constant.float x ∈ q.constants → x.isFinite = true

def Constant.FloatsFinite : Constant → Prop
  | .float x => x.isFinite = true
  | .function p => p.FloatsFinite
  | _ => True

theorem Program.floatsFinite_iff {p : Program} :
    p.FloatsFinite ↔ ∀ c ∈ p.constants, c.FloatsFinite := by
  rw [FloatsFinite, functions_eq, List.forall_mem_cons]
  constructor
  · rintro ⟨hown,hnested⟩ c hc
    cases c with
    | float x => exact hown x hc
    | function q => exact fun r hr => hnested r (List.mem_flatMap.mpr ⟨_,hc,hr⟩)
    | _ => exact trivial
  · intro h
    refine ⟨fun x hx => h (.float x) hx,?_⟩
    intro r hr
    obtain ⟨c,hc,hrc⟩ := List.mem_flatMap.mp hr
    cases c with
    | function q => exact h (.function q) hc r hrc
    | _ => cases hrc

theorem Opcode.names_nodup : (all.map name).Nodup := by decide +kernel

namespace Document

theorem decodes_bindingKind (kind : BindingKind) : bindingKind.Decodes (.string kind.name) kind :=
  Choice.decodes_named (by decide) kind.mem_all

theorem operandFields_eq_nil_iff {opcode : Opcode} {x : Operands} :
    operandFields opcode x = [] ↔ x.shape = .none := by
  cases x <;> simp [operandFields, Operands.shape]

theorem operandRecord_names_nodup (opcode : Opcode) (shape : OperandShape) :
    (operandRecord opcode shape).names.Nodup := by
  cases shape with
  | none => exact List.nodup_nil
  | count => exact List.nodup_singleton _
  | _ =>
    -- The names of all other shapes are the same for every operation.
    change (operandRecord .noop _).names.Nodup
    decide

theorem operandRecord_reads (opcode : Opcode) {x : Operands} {shape : OperandShape}
    (fits : x.shape = shape) :
    (operandRecord opcode shape).Reads (operandFields opcode x) ⟨x, fits⟩ := by
  subst fits
  cases x with
  | none => exact reads_pure _
  | constant index => exact (reads_field _ (decodes_word index)).map _
  | count n => exact (reads_field _ (decodes_word n)).map _
  | stack slot => exact (reads_field _ (decodes_signedWord slot)).map _
  | localSlot index => exact (reads_field _ (decodes_word index)).map _
  | jump target => exact (reads_field _ (decodes_signedWord target)).map _
  | named name => exact (reads_field _ (decodes_string name)).map _
  | varRef name slot =>
    exact ((reads_field _ (decodes_string name)).map _).seq (reads_field _ (decodes_word slot))
  | getVar name slot isRef isCallee =>
    exact ((((reads_field _ (decodes_string name)).map _).seq
      (reads_field _ (decodes_word slot))).seq
      (reads_field _ (decodes_bool isRef))).seq (reads_field _ (decodes_bool isCallee))
  | resolveVar name slot kind strict =>
    exact ((((reads_field _ (decodes_string name)).map _).seq
      (reads_field _ (decodes_word slot))).seq
      (reads_field _ (decodes_bindingKind kind))).seq (reads_field _ (decodes_bool strict))
  | frame stackSize args =>
    exact ((reads_field _ (decodes_word stackSize)).map _).seq (reads_field _ (decodes_word args))
  | function index name length strict =>
    exact ((((reads_field _ (decodes_word index)).map _).seq
      (reads_field _ (decodes_string name))).seq
      (reads_field _ (decodes_word length))).seq (reads_field _ (decodes_bool strict))
  | regexp pattern flags =>
    exact ((reads_field _ (decodes_string pattern)).map _).seq
      (reads_field _ (decodes_string flags))
  | tryBlock catchOffset finallyOffset dynamic =>
    exact (((reads_field _ (decodes_signedWord catchOffset)).map _).seq
      (reads_field _ (decodes_signedWord finallyOffset))).seq (reads_field _ (decodes_bool dynamic))

theorem find?_instructionVariants (opcode : Opcode) :
    (instructionVariants.find? fun v => v.1 == opcode.name) =
      some (opcode.name, instructionVariant opcode) :=
  Choice.find?_named Opcode.names_nodup opcode.mem_all instructionVariant

theorem decodes_instruction (ins : Instruction) : instructionDecoder.Decodes (instruction ins) ins := by
  obtain ⟨opcode,x,fits⟩ := ins
  have hfound := find?_instructionVariants opcode
  unfold instructionVariant at hfound
  split_ifs at hfound with hplain
  · obtain rfl : x = .none := by
      cases x with
      | none => rfl
      | _ => cases fits.trans hplain.symm
    exact Choice.decodes_plain hfound
  · have hfields : operandFields opcode x ≠ [] := by
      rw [Ne, operandFields_eq_nil_iff, fits]
      exact Ne.symm hplain
    have hwritten : instruction ⟨opcode, x, fits⟩ =
        .object [(opcode.name, .object (operandFields opcode x))] := by
      unfold instruction
      split
      · exact absurd ‹_› hfields
      · rfl
    rw [hwritten]
    have hrecord := (operandRecord_reads opcode fits).map
      fun y => (⟨opcode, y.1, y.2⟩ : Instruction)
    exact Choice.decodes_holding hfound
      (hrecord.decodes (operandRecord_names_nodup opcode opcode.shape) _)

theorem decodes_source (s : Source) : sourceDecoder.Decodes (source s) s :=
  (((((reads_field _ (decodes_string s.name)).map _).seq
    (reads_field _ (decodes_string s.text))).seq
    (reads_field _ (decodes_word s.scanned))).seq
    (reads_field _ (decodes_list_self decodes_word s.lineOffsets))).decodes (by decide) _

theorem decodes_entry (e : SourceMapEntry) : entryDecoder.Decodes (entry e) e :=
  (((reads_field _ (decodes_word e.pc)).map _).seq
    (reads_field _ (decodes_word e.pos))).decodes (by decide) _

def constant : Constant → Json
  | .function p => .object [("Function", program p)]
  | c => scalar c

theorem constants_eq_map (cs : List Constant) : constants cs = cs.map constant := by
  induction cs with
  | nil => rfl
  | cons c rest ih => cases c <;> exact congrArg (List.cons _) ih

def programFields (p : Program) : List (String × Json) :=
  [("function_name", .string p.functionName), ("source", source p.source),
    ("code", .array (p.code.map instruction)),
    ("constants", .object [("constants", .array (p.constants.map constant))]),
    ("source_map", .array (p.sourceMap.map entry))]

theorem program_eq (p : Program) : program p = .object (programFields p) := by
  obtain ⟨functionName,src,code,pool,sourceMap⟩ := p
  rw [program, constants_eq_map]
  rfl

theorem programFields_nodup (p : Program) : ((programFields p).map Prod.fst).Nodup := by
  simp [programFields]

section Nested

variable {form : Json → Json} {origin : Origin} {read : Decoder Program}

theorem read?_float (hform : Json.Rearranges form) (x : Double) :
    Decoder.float.read? origin (form (float x)) = if x.isFinite then some x else none := by
  unfold float
  split_ifs
  · rw [Json.float, hform.number]
    rfl
  · rw [hform.null]
    rfl

theorem read?_holding (hform : Json.Rearranges form) {name : String} {α : Type}
    {payload : Decoder α} {f : α → Constant}
    (hfound : ((constantVariants read).find? fun v => v.1 == name) =
      some (name, .holding (map f payload))) (v : Json) :
    (Choice.decoder (constantVariants read)).read? origin (form (.object [(name, v)])) =
      (payload.read? origin (form v)).map f := by
  rw [hform.singleton, Choice.read?_holding hfound, Decoder.read?_map]

theorem decodes_regexp (pattern flags : String) :
    regexpDecoder.Decodes (.object [("pattern", .string pattern), ("flags", .string flags)])
      (.regexp pattern flags) :=
  (((reads_field _ (decodes_string pattern)).map _).seq
    (reads_field _ (decodes_string flags))).decodes (by decide) _

theorem eq_some_iff_of_holds {α : Type} {P : Prop} {x : Option α} {a b : α} (hx : x = some a)
    (h : P) : x = some b ↔ b = a ∧ P := by
  rw [hx, Option.some.injEq, eq_comm, and_iff_left h]

theorem read?_constant (hform : Json.Rearranges form) {c c' : Constant}
    (hnested : ∀ p, c = .function p → ∀ q,
      read.read? origin (form (program p)) = some q ↔ q = p ∧ p.FloatsFinite) :
    (Choice.decoder (constantVariants read)).read? origin (form (constant c)) = some c' ↔
      c' = c ∧ c.FloatsFinite := by
  cases c with
  | undefined => exact eq_some_iff_of_holds (Choice.decodes_plain rfl form hform origin) trivial
  | null => exact eq_some_iff_of_holds (Choice.decodes_plain rfl form hform origin) trivial
  | bool b =>
    exact eq_some_iff_of_holds
      (Choice.decodes_holding rfl ((decodes_bool b).map _) form hform origin) trivial
  | int n =>
    exact eq_some_iff_of_holds
      (Choice.decodes_holding rfl ((decodes_signedLong n).map _) form hform origin) trivial
  | string s =>
    exact eq_some_iff_of_holds
      (Choice.decodes_holding rfl ((decodes_string s).map _) form hform origin) trivial
  | regexp pattern flags =>
    exact eq_some_iff_of_holds
      (Choice.decodes_holding rfl (decodes_regexp pattern flags) form hform origin) trivial
  | float x =>
    change (Choice.decoder _).read? origin (form (.object [("Float", float x)])) = some c' ↔
      c' = .float x ∧ x.isFinite = true
    rw [read?_holding hform rfl, read?_float hform]
    by_cases h : x.isFinite
    · simp [h, eq_comm]
    · simp [h]
  | function p =>
    rw [constant, read?_holding hform rfl, Option.map_eq_some_iff, Constant.FloatsFinite]
    constructor
    · rintro ⟨q,hq,rfl⟩
      exact ((hnested p rfl q).mp hq).imp_left (congrArg Constant.function)
    · rintro ⟨rfl,h⟩
      exact ⟨p,(hnested p rfl p).mpr ⟨rfl,h⟩,rfl⟩

theorem read?_pool {constant' : Decoder Constant} (hform : Json.Rearranges form)
    {cs cs' : List Constant}
    (hconstant : ∀ c ∈ cs, ∀ c', constant'.read? origin (form (constant c)) = some c' ↔
      c' = c ∧ c.FloatsFinite) :
    (poolDecoder constant').read? origin
        (form (.object [("constants", .array (cs.map constant))])) = some cs' ↔
      cs' = cs ∧ ∀ c ∈ cs, c.FloatsFinite := by
  have hlist : (list constant').read? origin (form (.array (cs.map constant))) = some cs' ↔
      cs' = cs ∧ ∀ c ∈ cs, c.FloatsFinite := read?_listed hform hconstant
  rw [hform.singleton, poolDecoder, Record.read?_decoder (by simp), Record.read?_map, required,
    read?_fieldOr, Json.lookup?_cons, if_pos rfl, Option.elim_some, Option.map_id_apply, hlist]

theorem depth_nested_lt (hform : Json.Rearranges form) {p q : Program}
    (h : .function q ∈ p.constants) :
    (Draft.ofJson (form (program q))).depth < (Draft.ofJson (form (program p))).depth := by
  have hitem : form (.object [("Function", program q)]) ∈ (p.constants.map constant).map form :=
    List.mem_map_of_mem (List.mem_map_of_mem h)
  rw [hform.singleton] at hitem
  obtain ⟨fs,hfs,-,hlookup⟩ := hform.exists_fields (programFields_nodup p)
  have hpool : Json.lookup? "constants" fs =
      some (form (.object [("constants", .array (p.constants.map constant))])) :=
    (hlookup _).trans (congrArg (Option.map form) rfl)
  rw [hform.singleton, hform.array] at hpool
  calc (Draft.ofJson (form (program q))).depth
      < (Draft.ofJson (.object [("Function", form (program q))])).depth :=
        Draft.depth_lt_singleton _ _
    _ < (Draft.ofJson (.array ((p.constants.map constant).map form))).depth :=
        Draft.depth_lt_of_mem hitem
    _ < (Draft.ofJson (.object
          [("constants", .array ((p.constants.map constant).map form))])).depth :=
        Draft.depth_lt_singleton _ _
    _ < (Draft.ofJson (.object fs)).depth := Draft.depth_lt_of_lookup? hpool
    _ = (Draft.ofJson (form (program p))).depth := by rw [program_eq, hfs]

theorem read?_program (hform : Json.Rearranges form) (p : Program) :
    ∀ levels, (Draft.ofJson (form (program p))).depth < levels → ∀ origin q,
      (programDecoder levels).read? origin (form (program p)) = some q ↔
        q = p ∧ p.FloatsFinite := by
  induction p using Program.nested_induction with
  | step p ih =>
    rintro (_|levels) hlevels origin q
    · exact absurd hlevels (Nat.not_lt_zero _)
    have hpool (cs : List Constant) :
        (poolDecoder (Choice.decoder (constantVariants (programDecoder levels)))).read? origin
            (form (.object [("constants", .array (p.constants.map constant))])) = some cs ↔
          cs = p.constants ∧ p.FloatsFinite := by
      rw [Program.floatsFinite_iff]
      refine read?_pool hform fun c hc c' => read?_constant hform ?_
      rintro r rfl q
      have hlt := depth_nested_lt hform hc
      exact ih r hc levels (by omega) origin q
    obtain ⟨fs,hfs,hnodup,hlookup⟩ := hform.exists_fields (programFields_nodup p)
    have hname := decodes_string p.functionName form hform origin
    have hsource := decodes_source p.source form hform origin
    have hcode := decodes_list_self decodes_instruction p.code form hform origin
    have hmap := decodes_list_self decodes_entry p.sourceMap form hform origin
    rw [program_eq, hfs, programDecoder, Record.read?_decoder hnodup]
    simp only [Record.read?_seq, Record.read?_map, required, read?_fieldOr, hlookup]
    have heta : Program.mk p.functionName p.source p.code p.constants p.sourceMap = p := by
      cases p
      rfl
    simp only [programFields, Json.lookup?_cons, String.reduceEq, reduceIte, Option.map_some,
      Option.elim_some, hname, hsource, hcode, hmap, Option.bind_some, Option.bind_eq_some_iff,
      Option.map_eq_some_iff, hpool]
    constructor
    · rintro ⟨f,⟨cs,⟨rfl,hfinite⟩,rfl⟩,hq⟩
      exact ⟨(heta.symm.trans (Option.some.inj hq)).symm,hfinite⟩
    · rintro ⟨rfl,hfinite⟩
      exact ⟨_,⟨_,⟨rfl,hfinite⟩,rfl⟩,congrArg some heta⟩

theorem ofJson_form_eq_ok_iff (hform : Json.Rearranges form) (p q : Program) :
    Program.ofJson (form p.toJson) = .ok q ↔ q = p ∧ p.FloatsFinite := by
  rw [← read?_program hform p _ (Nat.lt_succ_self _) .whole q, read?_eq_some_iff]
  rfl

end Nested

end Document

theorem Program.ofJson_toJson_eq_ok_iff (p q : Program) :
    (ofJson p.toJson = .ok q ↔ q = p ∧ p.FloatsFinite) ∧
    (ofJson p.toJson.canonical = .ok q ↔ q = p ∧ p.FloatsFinite) :=
  ⟨Document.ofJson_form_eq_ok_iff Json.rearranges_id p q,
    Document.ofJson_form_eq_ok_iff Json.rearranges_canonical p q⟩

end ScriptCache
