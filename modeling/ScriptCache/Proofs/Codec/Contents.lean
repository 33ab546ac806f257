import ScriptCache.Proofs.Codec.Parts

namespace ScriptCache.Decode

open Reader

variable {c c' : Cursor}

def nested (s : Source) (room start : Nat) : Reader Constant :=
  match room with
  | 0 => fail start .nestingTooDeep
  | room + 1 => do
      let functionName ← text
      return .function (← body (constant s room) functionName s)

theorem constant_eq (s : Source) (room : Nat) :
    constant s room = (do
      let start ← offset
      let tag ← byte
      if tag = Format.tagUndefined then return .undefined
      else if tag = Format.tagNull then return .null
      else if tag = Format.tagBool then return .bool (← flag)
      else if tag = Format.tagInt then return .int (← long).toInt64
      else if tag = Format.tagFloat then return .float ⟨← long⟩
      else if tag = Format.tagString then return .string (← text)
      else if tag = Format.tagRegexp then return .regexp (← text) (← text)
      else if tag = Format.tagFunction then nested s room start
      else fail start (.unknownConstantTag tag)) := by
  cases room <;> rw [constant] <;> rfl

theorem nested_eq_ok_iff {s : Source} {room start : Nat} {k : Constant}
    (h : ∀ r, room = r + 1 → Reads (constant s r) Encode.constant (Constant.Storable s r)) :
    nested s room start c = .ok (k, c') ↔
      ∃ p, k = .function p ∧ k.Storable s room ∧
        c.Spans (Encode.text p.functionName ++ Encode.body p) c' := by
  cases room with
  | zero =>
    simp only [nested, fail_ne_ok, false_iff]
    rintro ⟨p,rfl,hstore,-⟩
    exact absurd hstore.depth (Nat.not_succ_le_zero p.depth)
  | succ room =>
    simp only [nested, bind_eq_ok_iff, text_eq_ok_iff, body_eq_ok_iff (h room rfl),
      pure_eq_ok_iff, Cursor.spans_append]
    constructor
    · rintro ⟨name,m,⟨hname,hspan⟩,p,d,⟨⟨⟨rfl,hsource⟩,hrest⟩,hbody⟩,rfl,rfl⟩
      have hstore := Program.storable_constants_iff.mpr ⟨⟨hname,hsource⟩,hrest⟩
      exact ⟨p,rfl,Constant.storable_function_iff.mpr hstore,m,hspan,hbody⟩
    · rintro ⟨p,rfl,hstore,m,hspan,hbody⟩
      have hfits := Constant.storable_function_iff.mp hstore
      obtain ⟨⟨hname,hsource⟩,hrest⟩ := Program.storable_constants_iff.mp hfits
      exact ⟨p.functionName,m,⟨hname,hspan⟩,p,c',⟨⟨⟨rfl,hsource⟩,hrest⟩,hbody⟩,rfl,rfl⟩

theorem reads_constant (s : Source) (room : Nat) :
    Reads (constant s room) Encode.constant (Constant.Storable s room) := by
  induction room using Nat.strongRecOn with
  | ind room ih =>
    intro k c c'
    have hnested (start : Nat) (m : Cursor) : nested s room start m = .ok (k, c') ↔
        ∃ p, k = .function p ∧ k.Storable s room ∧
          m.Spans (Encode.text p.functionName ++ Encode.body p) c' :=
      nested_eq_ok_iff fun r hr => ih r (by omega)
    simp only [constant_eq, bind_eq_ok_iff, offset_eq_ok_iff, byte_eq_ok_iff, ite_eq_ok_iff,
      pure_eq_ok_iff, flag_eq_ok_iff, long_eq_ok_iff, text_eq_ok_iff, fail_ne_ok, hnested]
    clear hnested ih
    -- the tag that stands next and the constant that is read determine each other
    cases k <;>
      simp [Encode.constant, Encode.scalar, Constant.storable_iff, Constant.texts,
        Constant.functions, Constant.depth, Constant.sharing, Text.Fits, Format.tagUndefined,
        Format.tagNull, Format.tagBool, Format.tagInt, Format.tagFloat, Format.tagString,
        Format.tagRegexp, Format.tagFunction, -Bool.exists_bool]
    case bool b => rw [Cursor.spans_cons]
    case int n =>
      rw [Cursor.spans_cons]
      constructor
      · rintro ⟨m,htag,n,hspan,rfl⟩
        exact ⟨m,htag,hspan⟩
      · rintro ⟨m,htag,hspan⟩
        exact ⟨m,htag,n.toUInt64,hspan,rfl⟩
    case float x =>
      rw [Cursor.spans_cons]
      constructor
      · rintro ⟨m,htag,bits,hspan,rfl⟩
        exact ⟨m,htag,hspan⟩
      · rintro ⟨m,htag,hspan⟩
        exact ⟨m,htag,x.bits,hspan,rfl⟩
    case string t =>
      rw [Cursor.spans_cons]
      grind
    case regexp pattern flags =>
      rw [Cursor.spans_cons]
      simp only [Cursor.spans_append]
      grind
    case function p =>
      rw [Cursor.spans_cons]
      grind

def contents : Reader Program := do
  let functionName ← text
  let s ← source
  body (constant s Format.maxNesting) functionName s

theorem program_eq : program = (do let p ← contents; finish; return p) := by
  simp only [program, contents, bind_assoc]

theorem reads_contents : Reads contents Program.written Program.Storable := by
  intro p c c'
  simp only [contents, bind_eq_ok_iff, text_eq_ok_iff, reads_source.eq_ok_iff,
    body_eq_ok_iff (reads_constant _ _), Program.written, Cursor.spans_append]
  constructor
  · rintro ⟨name,m₁,⟨hname,h₁⟩,s,m₂,⟨hfits,h₂⟩,⟨⟨rfl,rfl⟩,hrest⟩,hbody⟩
    obtain ⟨hbodies,hdepth,hshared⟩ := Program.storable_constants_iff.mpr ⟨⟨hname,rfl⟩,hrest⟩
    exact ⟨⟨⟨hfits,hbodies⟩,hdepth,hshared⟩,m₂,⟨m₁,h₁,h₂⟩,hbody⟩
  · rintro ⟨⟨⟨hfits,hbodies⟩,hdepth,hshared⟩,m₂,⟨m₁,h₁,h₂⟩,hbody⟩
    obtain ⟨⟨hname,-⟩,hrest⟩ := Program.storable_constants_iff.mp ⟨hbodies,hdepth,hshared⟩
    exact ⟨p.functionName,m₁,⟨hname,h₁⟩,p.source,m₂,⟨hfits,h₂⟩,⟨⟨rfl,rfl⟩,hrest⟩,hbody⟩

theorem program_eq_ok_iff {p : Program} :
    program c = .ok (p, c') ↔ p.Storable ∧ c.Spans p.written c' ∧ c'.rest = [] := by
  simp only [program_eq, bind_eq_ok_iff, reads_contents.eq_ok_iff, finish_eq_ok_iff,
    pure_eq_ok_iff]
  constructor
  · rintro ⟨p,m,⟨hstore,hspan⟩,u,d,⟨hnil,rfl⟩,rfl,rfl⟩
    exact ⟨hstore,hspan,hnil⟩
  · rintro ⟨hstore,hspan,hnil⟩
    exact ⟨p,c',⟨hstore,hspan⟩,(),c',⟨hnil,rfl⟩,rfl,rfl⟩

def TooDeep {α : Type} (r : Reader α) (c : Cursor) : Prop :=
  ∃ o, r c = .error (.corrupt o .nestingTooDeep)

section TooDeep

variable {α β : Type} {r : Reader α} {f : α → Reader β}

theorem TooDeep.bind (h : TooDeep r c) : TooDeep (r >>= f) c := by
  obtain ⟨o,ho⟩ := h
  exact ⟨o,bind_of_error ho⟩

theorem TooDeep.after {a : α} (hr : r c = .ok (a, c')) (h : TooDeep (f a) c') :
    TooDeep (r >>= f) c := by
  obtain ⟨o,ho⟩ := h
  exact ⟨o,(bind_of_ok hr).trans ho⟩

end TooDeep

variable {s : Source} {room : Nat}

theorem times_tooDeep
    (hdeep : ∀ k, k.Fits → k.sharing s = k → room < k.depth →
      ∀ c c' : Cursor, c.Spans (Encode.constant k) c' → TooDeep (constant s room) c)
    {ks : List Constant} (hks : ∀ k ∈ ks, k.Fits ∧ k.sharing s = k)
    (hsome : ∃ k ∈ ks, room < k.depth) (hspan : c.Spans (ks.flatMap Encode.constant) c') :
    TooDeep (times (constant s room) ks.length) c := by
  induction ks generalizing c with
  | nil => simp at hsome
  | cons k ks ih =>
    rw [List.forall_mem_cons] at hks
    simp only [List.mem_cons, exists_eq_or_imp] at hsome
    obtain ⟨⟨hfits,hshared⟩,hrest⟩ := hks
    obtain ⟨m,hfirst,hspan⟩ := Cursor.spans_append.mp hspan
    rcases Nat.lt_or_ge room k.depth with hlt | hle
    · exact (hdeep k hfits hshared hlt c m hfirst).bind
    · have hread := (reads_constant s room k c m).mpr ⟨⟨hfits,hle,hshared⟩,hfirst⟩
      have hlater := hsome.resolve_left (Nat.not_lt.mpr hle)
      exact (ih hrest hlater hspan).bind.after hread

theorem body_tooDeep
    (hdeep : ∀ k, k.Fits → k.sharing s = k → room < k.depth →
      ∀ c c' : Cursor, c.Spans (Encode.constant k) c' → TooDeep (constant s room) c)
    {p : Program} (hbodies : ∀ q ∈ p.functions, q.BodyFits) (hshared : p.withSource s = p)
    (hlt : room < p.depth) (hspan : c.Spans (Encode.body p) c') :
    TooDeep (body (constant s room) p.functionName s) c := by
  obtain ⟨hname,hcode,⟨hconstants,hall⟩,hmap⟩ := Program.bodies_fit_iff.mp hbodies
  obtain ⟨-,hsame⟩ := Program.withSource_eq_self_iff.mp hshared
  rw [Encode.body_eq, Cursor.spans_append] at hspan
  obtain ⟨m₂,hspan,-⟩ := hspan
  obtain ⟨m₁,hfirst,hsecond⟩ := Cursor.spans_append.mp hspan
  have hread : counted 1 instruction c = .ok (p.code, m₁) :=
    (counted_eq_ok_iff reads_instruction Encode.instruction_pos).mpr ⟨hcode,hfirst⟩
  obtain ⟨m,hcount,hitems⟩ :=
    count_of_spans hconstants (fun k _ => Encode.constant_pos k) hsecond
  have hitem := times_tooDeep hdeep (fun k hk => ⟨hall k hk,hsame k hk⟩)
    (Program.lt_depth_iff.mp hlt) hitems
  rw [body_eq]
  exact (TooDeep.bind (hitem.after hcount)).after hread

theorem constant_tooDeep {k : Constant} (hfits : k.Fits) (hshared : k.sharing s = k)
    (hlt : room < k.depth) (hspan : c.Spans (Encode.constant k) c') :
    TooDeep (constant s room) c := by
  induction room generalizing k c c' with
  | zero =>
    cases k with
    | function p =>
      obtain ⟨m,htag,-⟩ := Cursor.spans_cons.mp hspan
      refine ⟨c.offset,?_⟩
      rw [constant_eq, bind_of_ok (offset_eq_ok_iff.mpr ⟨rfl,rfl⟩),
        bind_of_ok (byte_eq_ok_iff.mpr htag)]
      rfl
    | _ => exact absurd hlt (Nat.not_lt_zero _)
  | succ room ih =>
    cases k with
    | function p =>
      obtain ⟨m,htag,hspan⟩ := Cursor.spans_cons.mp hspan
      obtain ⟨m',hname,hbody⟩ := Cursor.spans_append.mp hspan
      have hown := (Program.bodies_fit_iff.mp hfits.bodies).1
      have hdeep : TooDeep (body (constant s room) p.functionName s) m' :=
        body_tooDeep (fun k hk hs hlt c c' => ih hk hs hlt) hfits.bodies
          (Constant.function.inj hshared) (Nat.lt_of_succ_lt_succ hlt) hbody
      have hnested : TooDeep (nested s (room + 1) c.offset) m :=
        hdeep.bind.after (text_eq_ok_iff.mpr ⟨hown,hname⟩)
      obtain ⟨o,ho⟩ := hnested
      refine ⟨o,?_⟩
      rw [constant_eq, bind_of_ok (offset_eq_ok_iff.mpr ⟨rfl,rfl⟩),
        bind_of_ok (byte_eq_ok_iff.mpr htag)]
      exact ho
    | _ => exact absurd hlt (Nat.not_lt_zero _)

theorem contents_tooDeep {p : Program} (hfits : p.Fits) (hshared : p.withSource p.source = p)
    (hlt : Format.maxNesting < p.depth)
    (hspan : c.Spans p.written c') : TooDeep contents c := by
  rw [Program.written] at hspan
  obtain ⟨m₂,hspan,hbody⟩ := Cursor.spans_append.mp hspan
  obtain ⟨m₁,hname,hsource⟩ := Cursor.spans_append.mp hspan
  have hown := (Program.bodies_fit_iff.mp hfits.bodies).1
  have hdeep : TooDeep (body (constant p.source Format.maxNesting) p.functionName p.source) m₂ :=
    body_tooDeep (fun k hk hs hlt c c' => constant_tooDeep hk hs hlt) hfits.bodies hshared hlt
      hbody
  have hafter := hdeep.after (f := fun s => body (constant s Format.maxNesting) p.functionName s)
    ((reads_source _ _ _).mpr ⟨hfits.source,hsource⟩)
  exact hafter.after
    (f := fun name => source >>= fun s => body (constant s Format.maxNesting) name s)
    (text_eq_ok_iff.mpr ⟨hown,hname⟩)

end ScriptCache.Decode
