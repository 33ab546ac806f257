import Mathlib
import ScriptCache.Proofs.Codec.Blame
import ScriptCache.Proofs.Codec.Extents
import ScriptCache.Proofs.Codec.Onward
import ScriptCache.Proofs.Codec.RoundTrip

namespace ScriptCache

variable {α β : Type} {file : List UInt8} {c : Cursor} {o : Nat}

namespace Table

inductive Refused (file : List UInt8) (t : Table) : CacheError → Prop
  | overflow {left : Nat} : t.start + 4 + left = file.length → left < t.size →
      Refused file t (.corrupt t.start (.lengthOverflow t.size left))
  | notText : t.stop ≤ file.length → Refused file t (.corrupt t.start .invalidUtf8)

def Settled (file : List UInt8) (t : Table) : Except CacheError (α × Cursor) → Prop
  | .ok (_, c) => c.In file ∧ t.stop ≤ c.offset
  | .error e => e.Behind t.stop ∨ t.Refused file e

structure Met (file : List UInt8) (t : Table) (result : Except CacheError (α × Cursor)) : Prop where
  counted : Encode.size t.items <+: file.drop t.start
  settled : t.Settled file result

theorem settled_of_reached {t : Table} {result : Except CacheError (α × Cursor)}
    (h : Reached file t.stop result) : t.Settled file result := by
  cases result with
  | ok read => exact h
  | error e => exact .inl h

theorem reached_of_settled {t : Table} {result : Except CacheError (α × Cursor)}
    (h : t.Settled file result) (hle : o ≤ t.start) : Reached file o result := by
  have hstop : o ≤ t.stop := by
    unfold stop
    omega
  cases result with
  | ok read => exact ⟨h.1,Nat.le_trans hstop h.2⟩
  | error e =>
    rcases h with hbehind | hrefused
    · cases e with
      | corrupt o' reason => exact Nat.le_trans hstop hbehind
      | _ => exact hbehind.elim
    · cases hrefused <;> exact hle

theorem settled_of_read {start width n : Nat} {m : Cursor} {result : Except CacheError (α × Cursor)}
    (h : Reader.TableRead start width n m result) (hm : m.In file) (hstart : m.offset = start + 4) :
    Settled file ⟨start,n,width⟩ result := by
  have hend := hm.offset_add
  rw [hstart] at hend
  cases h with
  | whole hlen hspan =>
    refine ⟨hm.after hspan,Nat.le_of_eq ?_⟩
    rw [hspan.2, hlen, hstart, stop, size]
  | overflow hshort => exact .inr (.overflow hend hshort)
  | notText _ hfull =>
    refine .inr (.notText ?_)
    rw [← hend, stop, size]
    exact Nat.add_le_add_left hfull _

end Table

namespace Noting

variable {x : Noting α}

structure SoundAt (file : List UInt8) (o : Nat) (x : Noting α) (c : Cursor) : Prop where
  reached : Reached file o (x.read c)
  met : ∀ t ∈ x.notes c, t.Met file (x.read c)

def Sound (file : List UInt8) (x : Noting α) : Prop :=
  ∀ c o, c.In file → o ≤ c.offset → SoundAt file o x c

theorem sound_pure (a : α) : Sound file (pure a : Noting α) :=
  fun _ _ hc hle => ⟨⟨hc,hle⟩,fun _ ht => absurd ht List.not_mem_nil⟩

theorem soundAt_fail {start : Nat} {reason : Corruption} (hle : o ≤ start) :
    SoundAt file o (liftM (Reader.fail start reason : Reader α) : Noting α) c :=
  ⟨hle,fun _ ht => absurd ht List.not_mem_nil⟩

theorem sound_lift {r : Reader α} (h : Reader.Onward file r) : Sound file (liftM r : Noting α) :=
  fun c o hc hle => ⟨h c o hc hle,fun _ ht => absurd ht List.not_mem_nil⟩

/-- What is noted first is met in full before the rest is read, and the rest does not go back. -/
theorem Sound.bind {f : α → Noting β} (hx : Sound file x) (hf : ∀ a, Sound file (f a)) :
    Sound file (x >>= f) := by
  intro c o hc hle
  obtain ⟨hreached,hmet⟩ := hx c o hc hle
  cases hread : x.read c with
  | error e =>
    rw [hread] at hreached hmet
    have hfail : (x >>= f).read c = .error e := Reader.bind_of_error hread
    refine ⟨hfail ▸ hreached,?_⟩
    rw [hfail, notes_bind, hread, List.append_nil]
    exact fun t ht => ⟨(hmet t ht).counted,(hmet t ht).settled⟩
  | ok read =>
    obtain ⟨a,m⟩ := read
    rw [hread] at hreached hmet
    have hrest : (x >>= f).read c = (f a).read m := Reader.bind_of_ok hread
    refine ⟨hrest ▸ (hf a m o hreached.1 hreached.2).reached,?_⟩
    rw [hrest, notes_bind, hread]
    intro t ht
    rcases List.mem_append.mp ht with hfirst | hlater
    · obtain ⟨hcounted,hm,hpassed⟩ := hmet t hfirst
      exact ⟨hcounted,Table.settled_of_reached (hf a m t.stop hm hpassed).reached⟩
    · exact (hf a m o hreached.1 hreached.2).met t hlater

theorem sound_table {width : Nat} {r : Reader α} (h : Reader.Tabular width r) :
    Sound file (table width r) := by
  intro c o hc hle
  cases hnumber : Reader.number 4 c with
  | error e =>
    have hreached := Reader.onward_number 4 c o hc hle
    have hcut : (table width r).read c = .error e := h.cut hnumber
    have hnone : (table width r).notes c = [] := by simp only [table, hnumber]
    rw [hnumber] at hreached
    refine ⟨hcut ▸ hreached,?_⟩
    rw [hnone]
    exact fun _ ht => absurd ht List.not_mem_nil
  | ok read =>
    obtain ⟨n,m⟩ := read
    have hspan : c.Spans (Encode.size n) m := (Reader.number_eq_ok_iff.mp hnumber).2
    have hstart : m.offset = c.offset + 4 := by
      rw [hspan.2, Encode.size, BigEndian.length_encode]
    have hone : (table width r).notes c = [⟨c.offset,n,width⟩] := by simp only [table, hnumber]
    have hsettled : Table.Settled file ⟨c.offset,n,width⟩ ((table width r).read c) :=
      Table.settled_of_read (h.read hnumber) (hc.after hspan) hstart
    refine ⟨Table.reached_of_settled hsettled hle,?_⟩
    rw [hone]
    intro t ht
    rw [List.mem_singleton.mp ht]
    exact ⟨hc.prefix_drop hspan,hsettled⟩

theorem sound_marked {f : Nat → UInt8 → Noting α}
    (hf : ∀ {o start x m}, m.In file → o ≤ start → start ≤ m.offset →
      SoundAt file o (f start x) m) :
    Sound file (do f (← Reader.offset) (← Reader.byte)) := by
  intro c o hc hle
  suffices h : SoundAt file o (liftM Reader.byte >>= f c.offset) c from ⟨h.reached,h.met⟩
  cases hbyte : Reader.byte c with
  | error e =>
    have hreached := Reader.onward_byte c o hc hle
    have hfail : (liftM Reader.byte >>= f c.offset).read c = .error e :=
      Reader.bind_of_error hbyte
    rw [hbyte] at hreached
    refine ⟨hfail ▸ hreached,?_⟩
    rw [notes_bind, read_lift, hbyte]
    exact fun _ ht => absurd ht List.not_mem_nil
  | ok read =>
    obtain ⟨x,m⟩ := read
    have hspan := Reader.byte_eq_ok_iff.mp hbyte
    have hrest : (liftM Reader.byte >>= f c.offset).read c = (f c.offset x).read m :=
      Reader.bind_of_ok hbyte
    obtain ⟨hreached,hmet⟩ := hf (x := x) (hc.after hspan) hle (hspan.2 ▸ Nat.le_add_right _ _)
    refine ⟨hrest ▸ hreached,?_⟩
    rw [hrest, notes_bind, read_lift, hbyte]
    exact hmet

theorem Sound.times {item : Noting α} (h : Sound file item) (n : Nat) :
    Sound file (times item n) := by
  induction n with
  | zero => exact sound_pure []
  | succ n ih => exact h.bind fun a => ih.bind fun rest => sound_pure (a :: rest)

theorem sound_text : Sound file text :=
  sound_table Reader.tabular_text

theorem sound_words : Sound file words :=
  sound_table Reader.tabular_words

theorem sound_entries : Sound file entries :=
  sound_table Reader.tabular_entries

theorem sound_word : Sound file (liftM Reader.word : Noting UInt32) :=
  sound_lift Reader.onward_word

theorem sound_long : Sound file (liftM Reader.long : Noting UInt64) :=
  sound_lift Reader.onward_long

theorem sound_flag : Sound file (liftM Reader.flag : Noting Bool) :=
  sound_lift Reader.onward_flag

theorem sound_bindingKind : Sound file (liftM Decode.bindingKind : Noting BindingKind) := by
  rw [Decode.bindingKind_eq]
  exact sound_lift (Reader.onward_tabled _ _)

theorem sound_opcode : Sound file (liftM Decode.opcode : Noting Opcode) := by
  rw [Decode.opcode_eq]
  exact sound_lift (Reader.onward_tabled _ _)

section Operands

open Reader

theorem sound_operands (shape : OperandShape) : Sound file (operands shape) := by
  cases shape with
  | name => exact sound_text.bind fun _ => sound_pure _
  | varRef => exact sound_text.bind fun _ => sound_word.bind fun _ => sound_pure _
  | getVar =>
    exact sound_text.bind fun _ => sound_word.bind fun _ => sound_flag.bind fun _ =>
      sound_flag.bind fun _ => sound_pure _
  | resolveVar =>
    exact sound_text.bind fun _ => sound_word.bind fun _ => sound_bindingKind.bind fun _ =>
      sound_flag.bind fun _ => sound_pure _
  | function =>
    exact sound_word.bind fun _ => sound_text.bind fun _ => sound_word.bind fun _ =>
      sound_flag.bind fun _ => sound_pure _
  | regexp => exact sound_text.bind fun _ => sound_text.bind fun _ => sound_pure _
  | none => exact sound_lift (onward_pure _)
  | constant => exact sound_lift (onward_word.bind fun _ => onward_pure _)
  | count => exact sound_lift (onward_word.bind fun _ => onward_pure _)
  | stack => exact sound_lift (onward_signed.bind fun _ => onward_pure _)
  | localSlot => exact sound_lift (onward_word.bind fun _ => onward_pure _)
  | jump => exact sound_lift (onward_signed.bind fun _ => onward_pure _)
  | frame =>
    exact sound_lift (onward_word.bind fun _ => onward_word.bind fun _ => onward_pure _)
  | tryBlock =>
    exact sound_lift (onward_signed.bind fun _ => onward_signed.bind fun _ =>
      onward_flag.bind fun _ => onward_pure _)

end Operands

theorem sound_instruction : Sound file instruction :=
  sound_opcode.bind fun op => (sound_operands op.shape).bind fun _ => sound_pure _

theorem sound_source : Sound file source :=
  sound_text.bind fun _ => sound_text.bind fun _ => sound_word.bind fun _ =>
    sound_words.bind fun _ => sound_pure _

theorem sound_count (width : Nat) : Sound file (liftM (Reader.count width) : Noting Nat) :=
  sound_lift (Reader.onward_count width)

theorem sound_body {item : Noting Constant} (h : Sound file item) (name : String) (s : Source) :
    Sound file (body item name s) :=
  (sound_count 1).bind fun n => (sound_instruction.times n).bind fun _ =>
    (sound_count 1).bind fun k => (h.times k).bind fun _ =>
    sound_entries.bind fun _ => sound_pure _

theorem sound_tagged {nested : Nat → Noting Constant}
    (h : ∀ {o start m}, m.In file → o ≤ start → start ≤ m.offset → SoundAt file o (nested start) m) :
    Sound file (tagged nested) := by
  refine sound_marked ?_
  intro o start tag m hm hle hlater
  have hmark : o ≤ m.offset := Nat.le_trans hle hlater
  split_ifs
  · exact sound_pure _ m o hm hmark
  · exact sound_pure _ m o hm hmark
  · exact (sound_flag.bind fun _ => sound_pure _) m o hm hmark
  · exact (sound_long.bind fun _ => sound_pure _) m o hm hmark
  · exact (sound_long.bind fun _ => sound_pure _) m o hm hmark
  · exact (sound_text.bind fun _ => sound_pure _) m o hm hmark
  · exact (sound_text.bind fun _ => sound_text.bind fun _ => sound_pure _) m o hm hmark
  · exact h hm hle hlater
  · exact soundAt_fail hle

theorem sound_constant (s : Source) (room : Nat) : Sound file (constant s room) := by
  induction room with
  | zero => exact sound_tagged fun _ hle _ => soundAt_fail hle
  | succ room ih =>
    refine sound_tagged fun {o start m} hm hle hlater => ?_
    have hnested : Sound file (do
        let functionName ← text
        return Constant.function (← body (constant s room) functionName s)) :=
      sound_text.bind fun name => (sound_body ih name s).bind fun _ => sound_pure _
    exact hnested m o hm (Nat.le_trans hle hlater)

theorem sound_program : Sound file program :=
  sound_text.bind fun name => sound_source.bind fun s =>
    (sound_body (sound_constant s Format.maxNesting) name s).bind fun _ =>
    (sound_lift Reader.onward_finish).bind fun _ => sound_pure _

end Noting

namespace Program

variable {v : UInt16} {t : Table}

theorem tables_cases (file : List UInt8) (v : UInt16) :
    (tables file v = [] ∧ ∃ e, decode file v = .error e) ∨
    ∃ c : Cursor, c.In file ∧ tables file v = Noting.program.notes c ∧
      decode file v = (Noting.program.read c).map Prod.fst := by
  rcases Decode.version_cases file with ⟨-,hforeign⟩ | ⟨-,-,o,n,left,hcut,-⟩ | ⟨found,rest,rfl⟩
  · exact .inl ⟨by rw [tables, hforeign],_,decode_of_version_error hforeign v⟩
  · exact .inl ⟨by rw [tables, hcut],_,decode_of_version_error hcut v⟩
  · have hdrop : (Encode.header found ++ rest).drop Format.headerLength = rest := by
      rw [← Encode.length_header found, List.drop_left]
    have hin : Cursor.In ⟨Format.headerLength, rest⟩ (Encode.header found ++ rest) :=
      ⟨Encode.header found, rfl, by rw [Encode.length_header, Nat.zero_add]⟩
    rw [tables, Decode.version_header, hdrop, decode_header, Noting.read_program]
    by_cases hversion : found = v
    · rw [if_pos hversion]
      refine .inr ⟨_,hin,?_,rfl⟩
      exact if_pos hversion
    · rw [if_neg hversion]
      refine .inl ⟨?_,_,rfl⟩
      exact if_neg hversion

theorem decode_of_mem_tables (h : t ∈ tables file v) :
    ∃ result : Except CacheError (Program × Cursor),
      decode file v = result.map Prod.fst ∧ t.Met file result := by
  rcases tables_cases file v with ⟨hnone,-⟩ | ⟨c,hc,htables,hdecode⟩
  · rw [hnone] at h
    exact nomatch h
  · rw [htables] at h
    exact ⟨_,hdecode,(Noting.sound_program c _ hc (Nat.le_refl _)).met t h⟩

theorem extents_of_decode {p : Program} (h : decode file v = .ok p) :
    (tables file v).map Table.extent =
      Text.extent p.functionName :: p.source.extents ++ p.extents := by
  rcases tables_cases file v with ⟨-,e,herror⟩ | ⟨c,-,htables,hdecode⟩
  · rw [h] at herror
    cases herror
  · rw [h] at hdecode
    cases hread : Noting.program.read c with
    | error e =>
      rw [hread] at hdecode
      cases hdecode
    | ok read =>
      obtain ⟨q,c'⟩ := read
      rw [hread] at hdecode
      cases hdecode
      rw [htables]
      exact Noting.gives_program c q c' hread

theorem overflow_iff_of_mem_tables (h : t ∈ tables file v) :
    file.length < t.stop ↔ decode file v =
      .error (.corrupt t.start (.lengthOverflow t.size (file.length - (t.start + 4)))) := by
  constructor
  · intro hbeyond
    obtain ⟨result,hdecode,-,hsettled⟩ := decode_of_mem_tables h
    cases result with
    | ok read =>
      obtain ⟨hin,hpassed⟩ := hsettled
      exact absurd (Nat.le_trans hpassed hin.offset_le) (Nat.not_le.mpr hbeyond)
    | error e =>
      have herror : decode file v = .error e := hdecode
      rcases hsettled with hbehind | hrefused
      · cases e with
        | corrupt o reason =>
          have hinside := (shown_of_decode herror).offset_le
          exact absurd (Nat.le_trans hbehind hinside) (Nat.not_le.mpr hbeyond)
        | _ => exact hbehind.elim
      · cases hrefused with
        | overflow hend _ => rw [herror, ← hend, Nat.add_sub_cancel_left]
        | notText hfull => exact absurd hfull (Nat.not_le.mpr hbeyond)
  · intro hoverflow
    obtain ⟨hend,hshort,-⟩ := shown_of_decode hoverflow
    rw [← hend, Table.stop]
    exact Nat.add_lt_add_left hshort _

theorem stop_le_of_mem_tables (h : t ∈ tables file v) {needed remaining : Nat}
    (hend : decode file v = .error (.corrupt o (.unexpectedEnd needed remaining))) :
    t.stop ≤ o := by
  obtain ⟨result,hdecode,-,hsettled⟩ := decode_of_mem_tables h
  rw [hend] at hdecode
  cases result with
  | ok read => cases hdecode
  | error e =>
    obtain rfl := Except.error.inj hdecode
    rcases hsettled with hbehind | hrefused
    · exact hbehind
    · nomatch hrefused

theorem counted_tables_backed (file : List UInt8) (v : UInt16) :
    (∀ c : Cursor, c.In file → c.offset ≤ file.length ∧
      (Reader.Backed file 1 Reader.take c ∧ Reader.Uncut 1 Reader.text c) ∧
      (Reader.Backed file 4 (Reader.times Reader.word) c ∧ Reader.Uncut 4 Reader.words c) ∧
      Reader.Backed file 8 (Reader.times Decode.entry) c ∧
        Reader.Uncut 8 (Reader.counted 8 Decode.entry) c) ∧
    Noting.program.read = Decode.program ∧
    (∀ t ∈ tables file v, Encode.size t.items <+: file.drop t.start ∧
      (file.length < t.stop ↔ decode file v =
        .error (.corrupt t.start (.lengthOverflow t.size (file.length - (t.start + 4))))) ∧
      ∀ o needed remaining, decode file v = .error (.corrupt o (.unexpectedEnd needed remaining)) →
        t.stop ≤ o) ∧
    (∀ p, decode file v = .ok p → (tables file v).map Table.extent =
      Text.extent p.functionName :: p.source.extents ++ p.extents) ∧
    (file.length < UInt64.size → ∀ c : Cursor, c.In file → ∀ width < UInt32.size,
      Reader.count64 width c = Reader.count width c) := by
  refine ⟨?_,Noting.read_program,?_,fun _ => extents_of_decode,?_⟩
  · intro c hc
    refine ⟨hc.offset_le,⟨?_,Reader.tabular_text.uncut c⟩,⟨?_,Reader.tabular_words.uncut c⟩,?_,
      Reader.tabular_entries.uncut c⟩
    · exact Reader.backed_of_fixed (fun n => (Nat.mul_one n).symm ▸ Reader.fixed_take n) hc
    · exact Reader.backed_of_fixed Reader.fixed_word.times hc
    · exact Reader.backed_of_fixed Reader.fixed_entry.times hc
  · intro t ht
    obtain ⟨result,-,hmet⟩ := decode_of_mem_tables ht
    exact ⟨hmet.counted,overflow_iff_of_mem_tables ht,fun _ _ _ => stop_le_of_mem_tables ht⟩
  · intro hmemory c hc width hwidth
    refine Reader.count64_eq hwidth (Nat.lt_of_le_of_lt ?_ hmemory)
    rw [← hc.offset_add]
    exact Nat.le_add_left _ _

def overdeclared : List UInt8 :=
  lookupFile.take 93 ++ [2] ++ lookupFile.drop 94

theorem counted_tables_backed_overdeclared :
    let c : Cursor := ⟨94, lookupFile.drop 94⟩
    let m : Cursor := ⟨98, lookupFile.drop 98⟩
    (c.In lookupFile ∧ Reader.count 8 c = .ok (1, m) ∧
      ∃ entries c', Reader.times Decode.entry 1 m = .ok (entries, c') ∧ c'.offset = 106) ∧
    (tables overdeclared 1 =
        [⟨6,1,1⟩, ⟨11,4,1⟩, ⟨19,1,1⟩, ⟨28,1,4⟩, ⟨41,1,1⟩, ⟨75,1,1⟩, ⟨90,2,8⟩] ∧
      decode overdeclared 1 = .error (.corrupt 90 (.lengthOverflow 16 12))) ∧
    (decode (lookupFile.take 97) 1 = .error (.corrupt 94 (.unexpectedEnd 4 3)) ∧
      ∀ t ∈ tables (lookupFile.take 97) 1, t.stop ≤ 94) ∧
    (decode lookupFile 1 = .ok lookup ∧ (tables lookupFile 1).map Table.extent =
      [(1,1), (4,1), (1,1), (1,4), (1,1), (1,1), (0,8), (1,8)]) ∧
    lookupFile.length < UInt64.size ∧ Reader.count64 8 c = .ok (1, m) := by
  intro c m
  have hc : c.In lookupFile :=
    ⟨lookupFile.take 94,(List.take_append_drop 94 lookupFile).symm,by decide⟩
  have hcount : Reader.count 8 c = .ok (1, m) := by cbv
  have htables : tables overdeclared 1 =
      [⟨6,1,1⟩, ⟨11,4,1⟩, ⟨19,1,1⟩, ⟨28,1,4⟩, ⟨41,1,1⟩, ⟨75,1,1⟩, ⟨90,2,8⟩] := by cbv
  have hcut : decode (lookupFile.take 97) 1 = .error (.corrupt 94 (.unexpectedEnd 4 3)) := by cbv
  have hread : decode lookupFile 1 = .ok lookup := by cbv
  have hmemory : lookupFile.length < UInt64.size := by decide
  obtain ⟨hcounts,-,-,hextents,hwords⟩ := counted_tables_backed lookupFile 1
  obtain ⟨-,-,hover,-⟩ := counted_tables_backed overdeclared 1
  obtain ⟨-,-,hends,-⟩ := counted_tables_backed (lookupFile.take 97) 1
  obtain ⟨-,-,-,hbacked,-⟩ := hcounts c hc
  obtain ⟨-,-,entries,c',hentries,-,hoffset⟩ := hbacked 1 m hcount
  refine ⟨⟨hc,hcount,entries,c',hentries,hoffset⟩,⟨htables,?_⟩,⟨hcut,?_⟩,⟨hread,?_⟩,hmemory,?_⟩
  · exact (hover ⟨90,2,8⟩ (by simp [htables])).2.1.mp (by decide)
  · exact fun t ht => (hends t ht).2.2 94 4 3 hcut
  · exact (hextents lookup hread).trans (by cbv)
  · rw [hwords hmemory c hc 8 (by decide), hcount]

end Program

end ScriptCache
