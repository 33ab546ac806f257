import Mathlib
import ScriptCache.Json.Record
import ScriptCache.Proofs.Json.Reading

namespace ScriptCache.Record

variable {α β : Type} {Q : β → Prop} {origin : Origin} {name : String}
  {fields fs : List (String × Json)} {position : Nat}

theorem mapError_eq_ok {ε ε' : Type} {f : ε → ε'} {x : Except ε α} {a : α}
    (h : x.mapError f = .ok a) : x = .ok a := by
  cases x with
  | error e => cases h
  | ok a' => exact congrArg Except.ok (Except.ok.inj h)

def Always (Q : β → Prop) (r : Record β) : Prop :=
  ∀ origin entries position b, r.read origin entries position = .ok b → Q b

theorem both_eq_ok {f : Except Trouble (α → β)} {a : Except Trouble α} {b : β}
    (h : both f a = .ok b) : ∃ g x, f = .ok g ∧ a = .ok x ∧ g x = b := by
  cases f with
  | error e => cases a <;> cases h
  | ok g =>
    cases a with
    | error e => cases h
    | ok x => exact ⟨g,x,rfl,rfl,Except.ok.inj h⟩

theorem Always.seq {f : Record (α → β)} {a : Record α} (hf : f.Always fun g => ∀ x, Q (g x)) :
    (f <*> a).Always Q := by
  intro origin entries position b hb
  obtain ⟨g,x,hg,-,rfl⟩ := both_eq_ok hb
  exact hf origin entries position g hg x

theorem always_map {g : α → β} {a : Record α} (hg : ∀ x, Q (g x)) : (g <$> a).Always Q := by
  intro origin entries position b hb
  obtain ⟨g',x,hg',-,rfl⟩ := both_eq_ok hb
  cases hg'
  exact hg x

theorem settle_eq_ok {trouble : Option Trouble} {result : Except Trouble β} {b : β}
    (h : settle trouble result = .ok b) : result = .ok b := by
  cases trouble with
  | none => exact h
  | some t => cases result <;> cases h

theorem Always.decoder {r : Record β} (hr : r.Always Q) (title : String) {d : Draft} {b : β}
    (h : Record.decoder title r origin d = .ok b) : Q b := by
  replace h := mapError_eq_ok h
  split at h
  · exact hr _ _ _ b (settle_eq_ok h)
  · exact hr _ _ _ b (settle_eq_ok h)
  · cases h
  · unfold located Decoder.wrongType at h
    split at h <;> cases h

def read? (r : Record α) (origin : Origin) (fields : List (String × Json)) (position : Nat) :
    Option α :=
  (r.read origin (.named (Draft.fieldsOfJson fields) .closed) position).toOption

theorem toOption_both (f : Except Trouble (α → β)) (a : Except Trouble α) :
    (both f a).toOption = f.toOption.bind fun g => a.toOption.map g := by
  cases f <;> cases a <;> rfl

theorem read?_map (g : α → β) (r : Record α) :
    (g <$> r).read? origin fields position = (r.read? origin fields position).map g :=
  toOption_both (.ok g) _

theorem read?_seq (f : Record (α → β)) (r : Record α) :
    (f <*> r).read? origin fields position = (f.read? origin fields position).bind fun g =>
      (r.read? origin fields (position + f.names.length)).map g :=
  toOption_both _ _

theorem findIdx?_fields (name : String) (fields : List (String × Json)) :
    ((Draft.fieldsOfJson fields).findIdx? fun field => field.1 == some name).map
        (fun i => ((Draft.fieldsOfJson fields)[i]?.map Prod.snd).getD .null) =
      (Json.lookup? name fields).map Draft.ofJson := by
  induction fields with
  | nil => rfl
  | cons field rest ih =>
    obtain ⟨key,v⟩ := field
    rw [Draft.fieldsOfJson, List.findIdx?_cons, Json.lookup?_cons]
    by_cases h : key = name
    · simp [h]
    · simpa [h, Function.comp_def] using ih

theorem read?_fieldOr (absent : Option α) (absentInList : Bool) (name : String)
    (read : Decoder α) :
    (fieldOr absent absentInList name read).read? origin fields position =
      (Json.lookup? name fields).elim absent (read.read? origin) := by
  have hfound := findIdx?_fields name fields
  rw [Record.read?, fieldOr]
  cases hplace : (Draft.fieldsOfJson fields).findIdx? fun field => field.1 == some name with
  | none =>
    rw [hplace, Option.map_none, eq_comm, Option.map_eq_none_iff] at hfound
    rw [hfound]
    simp only [hplace]
    cases absent <;> rfl
  | some i =>
    rw [hplace, Option.map_some, eq_comm, Option.map_eq_some_iff] at hfound
    obtain ⟨v,hv,hdraft⟩ := hfound
    simp only [hplace, hv, ← hdraft, Option.elim_some, Decoder.read?]
    cases read origin (.ofJson v) <;> rfl

theorem entryTrouble?_eq_none {names seen : List String}
    (hseen : ∀ field ∈ fields, field.1 ∉ seen) (hnodup : (fields.map Prod.fst).Nodup) (place : Nat) :
    entryTrouble? names seen place (Draft.fieldsOfJson fields) = none := by
  induction fields generalizing seen place with
  | nil => rfl
  | cons field rest ih =>
    obtain ⟨key,v⟩ := field
    obtain ⟨hkey,hrest⟩ := List.forall_mem_cons.mp hseen
    obtain ⟨hfresh,hnodup⟩ := List.nodup_cons.mp hnodup
    rw [Draft.fieldsOfJson, entryTrouble?]
    split_ifs with hname hagain
    · exact absurd (List.contains_iff_mem.mp hagain) hkey
    · refine ih ?_ hnodup _
      intro other hother hmem
      rcases List.mem_cons.mp hmem with hsame | hmem
      · exact hfresh (List.mem_map.mpr ⟨other,hother,hsame⟩)
      · exact hrest other hother hmem
    · rw [Draft.skipFault?_ofJson]
      exact ih hrest hnodup _

theorem read?_decoder (hnodup : (fields.map Prod.fst).Nodup) (title : String) (r : Record α) :
    (Record.decoder title r).read? origin (.object fields) = r.read? origin fields 0 := by
  have htrouble : namedTrouble? r.names (Draft.fieldsOfJson fields) .closed = none := by
    rw [namedTrouble?, entryTrouble?_eq_none (fun _ _ => List.not_mem_nil) hnodup]
    rfl
  rw [Decoder.read?, Draft.ofJson, Record.decoder]
  simp only [htrouble, settle]
  rw [Record.read?]
  cases r.read origin (.named (Draft.fieldsOfJson fields) .closed) 0 <;> rfl

/-- The record is read as `a` from these fields, and from any others among which its names stand for
the same. -/
structure Reads (r : Record α) (fields : List (String × Json)) (a : α) : Prop where
  names : (fields.map Prod.fst).Sublist r.names
  reads : r.names.Nodup → ∀ form, Json.Rearranges form → ∀ origin fs position,
    (∀ name ∈ r.names, Json.lookup? name fs = (Json.lookup? name fields).map form) →
      r.read? origin fs position = some a

theorem reads_pure (a : α) : (pure a : Record α).Reads [] a where
  names := List.Sublist.refl _
  reads _ _ _ _ _ _ _ := rfl

theorem Reads.map {r : Record α} {a : α} (h : r.Reads fields a) (g : α → β) :
    (g <$> r).Reads fields (g a) where
  names := h.names
  reads hnodup form hform origin fs position hfs := by
    rw [read?_map, h.reads hnodup form hform origin fs position hfs]
    rfl

theorem Reads.seq {f : Record (α → β)} {r : Record α} {fields' : List (String × Json)} {g : α → β}
    {a : α} (hf : f.Reads fields g) (hr : r.Reads fields' a) :
    (f <*> r).Reads (fields ++ fields') (g a) where
  names := by
    rw [List.map_append]
    exact hf.names.append hr.names
  reads hnodup form hform origin fs position hfs := by
    obtain ⟨hnodupf,hnodupr,hapart⟩ := List.nodup_append'.mp hnodup
    -- A name of one part stands for nothing in the other.
    have hfs₁ : ∀ name ∈ f.names,
        Json.lookup? name fs = (Json.lookup? name fields).map form := by
      intro name hname
      have hother : Json.lookup? name fields' = none :=
        Json.lookup?_eq_none_iff.mpr fun hmem => hapart hname (hr.names.subset hmem)
      rw [hfs name (List.mem_append_left _ hname), Json.lookup?_append, hother, Option.or_none]
    have hfs₂ : ∀ name ∈ r.names,
        Json.lookup? name fs = (Json.lookup? name fields').map form := by
      intro name hname
      have hother : Json.lookup? name fields = none :=
        Json.lookup?_eq_none_iff.mpr fun hmem => hapart (hf.names.subset hmem) hname
      rw [hfs name (List.mem_append_right _ hname), Json.lookup?_append, hother, Option.none_or]
    rw [read?_seq, hf.reads hnodupf form hform origin fs position hfs₁,
      hr.reads hnodupr form hform origin fs _ hfs₂]
    rfl

variable {read : Decoder α} {v : Json} {a : α}

theorem reads_field {absent : Option α} {absentInList : Bool} (name : String)
    (h : read.Decodes v a) : (fieldOr absent absentInList name read).Reads [(name, v)] a where
  names := List.Sublist.refl _
  reads _ form hform origin fs position hfs := by
    rw [read?_fieldOr, hfs name (List.mem_singleton_self _), Json.lookup?_cons, if_pos rfl]
    exact h form hform origin

theorem reads_absent {absentInList : Bool} (absent : α) (name : String) (read : Decoder α) :
    (fieldOr (some absent) absentInList name read).Reads [] absent where
  names := List.nil_sublist _
  reads _ form hform origin fs position hfs := by
    rw [read?_fieldOr, hfs name (List.mem_singleton_self _)]
    rfl

theorem Reads.of_eq {r : Record α} {fields' : List (String × Json)} (h : r.Reads fields a)
    (hfields : fields = fields') : r.Reads fields' a :=
  hfields ▸ h

theorem Reads.decodes_among {r : Record α} {others : List (String × Json)} (h : r.Reads fields a)
    (hnodup : r.names.Nodup) (hothers : (others.map Prod.fst).Nodup)
    (hapart : r.names.Disjoint (others.map Prod.fst)) (title : String) :
    (Record.decoder title r).Decodes (.object (fields ++ others)) a := by
  intro form hform origin
  have hfields : ((fields ++ others).map Prod.fst).Nodup := by
    rw [List.map_append]
    exact (h.names.nodup hnodup).append hothers fun name hname =>
      hapart (h.names.subset hname)
  obtain ⟨fs,hfs,hfs',hlookup⟩ := hform.exists_fields hfields
  rw [hfs, read?_decoder hfs']
  refine h.reads hnodup form hform origin fs 0 fun name hname => ?_
  rw [hlookup, Json.lookup?_append, Json.lookup?_eq_none_iff.mpr (hapart hname), Option.or_none]

theorem Reads.decodes {r : Record α} (h : r.Reads fields a) (hnodup : r.names.Nodup)
    (title : String) : (Record.decoder title r).Decodes (.object fields) a := by
  have hnone : (([] : List (String × Json)).map Prod.fst).Nodup := List.nodup_nil
  have hread := h.decodes_among hnodup hnone (List.disjoint_nil_right _) title
  rwa [List.append_nil] at hread

end ScriptCache.Record
