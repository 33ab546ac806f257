import Mathlib
import ScriptCache.Json.Value

namespace ScriptCache.Json

variable {fields fs : List (String × Json)} {name : String} {v : Json}

/-- A property of values that follows from the same property of the values in them. -/
theorem induction {P : Json → Prop} (null : P .null) (bool : ∀ b, P (.bool b))
    (number : ∀ n, P (.number n)) (string : ∀ s, P (.string s))
    (array : ∀ items, (∀ v ∈ items, P v) → P (.array items))
    (object : ∀ fields, (∀ field ∈ fields, P field.2) → P (.object fields)) (v : Json) : P v := by
  refine Json.rec (motive_1 := P) (motive_2 := fun items => ∀ v ∈ items, P v)
    (motive_3 := fun fields => ∀ field ∈ fields, P field.2) (motive_4 := fun field => P field.2)
    null bool number string array object ?_ ?_ ?_ ?_ ?_ v
  · exact nofun
  · intro v items hv hitems
    exact List.forall_mem_cons.mpr ⟨hv,hitems⟩
  · exact nofun
  · intro field fields hfield hfields
    exact List.forall_mem_cons.mpr ⟨hfield,hfields⟩
  · intro name v hv
    exact hv

theorem lookup?_cons (name key : String) (v : Json) (rest : List (String × Json)) :
    lookup? name ((key, v) :: rest) = if key = name then some v else lookup? name rest := by
  by_cases h : key = name <;> simp [lookup?, h]

theorem lookup?_append (name : String) (xs ys : List (String × Json)) :
    lookup? name (xs ++ ys) = (lookup? name xs).or (lookup? name ys) := by
  rw [lookup?, List.find?_append, Option.map_or]
  rfl

theorem lookup?_map (f : Json → Json) (name : String) (fields : List (String × Json)) :
    lookup? name (fields.map (Prod.map id f)) = (lookup? name fields).map f := by
  induction fields with
  | nil => rfl
  | cons field rest ih =>
    obtain ⟨key,v⟩ := field
    rw [List.map_cons, Prod.map_apply, id, lookup?_cons, lookup?_cons, ih]
    split_ifs <;> rfl

theorem lookup?_eq_none_iff : lookup? name fields = none ↔ name ∉ fields.map Prod.fst := by
  rw [lookup?, Option.map_eq_none_iff, List.find?_eq_none, List.mem_map]
  simp only [beq_iff_eq, not_exists, not_and]

theorem mem_of_lookup? (h : lookup? name fields = some v) : (name, v) ∈ fields := by
  obtain ⟨field,hfound,rfl⟩ := Option.map_eq_some_iff.mp h
  have hname : field.1 = name := by simpa using List.find?_some hfound
  rw [← hname]
  exact List.mem_of_find?_eq_some hfound

theorem lookup?_eq_some_iff_mem (hnodup : (fields.map Prod.fst).Nodup) :
    lookup? name fields = some v ↔ (name, v) ∈ fields := by
  refine ⟨mem_of_lookup?,?_⟩
  intro hmem
  cases hfound : lookup? name fields with
  | none => exact absurd (List.mem_map_of_mem hmem) (lookup?_eq_none_iff.mp hfound)
  | some w =>
    have hsame := List.inj_on_of_nodup_map hnodup (mem_of_lookup? hfound) hmem rfl
    rw [(Prod.mk.inj hsame).2]

theorem lookup?_perm (hperm : fs.Perm fields) (hnodup : (fields.map Prod.fst).Nodup)
    (name : String) : lookup? name fs = lookup? name fields := by
  have hnodup' : (fs.map Prod.fst).Nodup := (hperm.map Prod.fst).nodup_iff.mpr hnodup
  ext v
  rw [lookup?_eq_some_iff_mem hnodup',
    lookup?_eq_some_iff_mem hnodup, hperm.mem_iff]

theorem insertField_perm (h : name ∉ fields.map Prod.fst) (v : Json) :
    (insertField name v fields).Perm ((name, v) :: fields) := by
  induction fields with
  | nil => exact .refl _
  | cons field rest ih =>
    obtain ⟨key,w⟩ := field
    rw [List.map_cons, List.mem_cons, not_or] at h
    rw [insertField, if_neg h.1]
    split_ifs
    · exact .refl _
    · exact ((ih h.2).cons _).trans (.swap _ _ _)

theorem foldl_insertField_perm (hnodup : ((fs ++ fields).map Prod.fst).Nodup) :
    (fields.foldl (fun sorted field => insertField field.1 field.2 sorted) fs).Perm
      (fs ++ fields) := by
  induction fields generalizing fs with
  | nil => rw [List.foldl_nil, List.append_nil]
  | cons field rest ih =>
    have hmoved : (fs ++ field :: rest).Perm (field :: fs ++ rest) := List.perm_middle
    rw [(hmoved.map Prod.fst).nodup_iff] at hnodup
    have hfresh : field.1 ∉ fs.map Prod.fst := by
      intro hmem
      rw [List.map_append, List.map_cons, List.cons_append, List.nodup_cons] at hnodup
      exact hnodup.1 (List.mem_append_left _ hmem)
    have hinsert := (insertField_perm hfresh field.2).append_right rest
    rw [List.foldl_cons]
    exact ((ih ((hinsert.map Prod.fst).nodup_iff.mpr hnodup)).trans hinsert).trans hmoved.symm

theorem canonicalItems_eq_map (items : List Json) : canonicalItems items = items.map canonical := by
  induction items with
  | nil => rfl
  | cons v rest ih => rw [canonicalItems, ih, List.map_cons]

theorem canonicalFields_eq_map (fields : List (String × Json)) :
    canonicalFields fields = fields.map (Prod.map id canonical) := by
  induction fields with
  | nil => rfl
  | cons field rest ih => rw [canonicalFields, ih, List.map_cons, Prod.map_apply, id]

theorem map_fst_map (f : Json → Json) (fields : List (String × Json)) :
    (fields.map (Prod.map id f)).map Prod.fst = fields.map Prod.fst := by
  simp

def Ascending (fields : List (String × Json)) : Prop :=
  fields.Pairwise fun field other => field.1 < other.1

theorem mem_insertField {field : String × Json} (h : field ∈ insertField name v fields) :
    field = (name, v) ∨ field ∈ fields := by
  induction fields with
  | nil => simpa [insertField] using h
  | cons first rest ih =>
    obtain ⟨key,w⟩ := first
    unfold insertField at h
    split_ifs at h
    · exact List.mem_cons.mp h
    · rcases List.mem_cons.mp h with h | h
      · exact .inl h
      · exact .inr (List.mem_cons_of_mem _ h)
    · rcases List.mem_cons.mp h with rfl | h
      · exact .inr List.mem_cons_self
      · exact (ih h).imp_right (List.mem_cons_of_mem _)

theorem Ascending.insertField (h : Ascending fields) (name : String) (v : Json) :
    Ascending (insertField name v fields) := by
  induction fields with
  | nil => exact List.pairwise_singleton _ _
  | cons first rest ih =>
    obtain ⟨key,w⟩ := first
    obtain ⟨hfirst,hrest⟩ := List.pairwise_cons.mp h
    unfold Json.insertField
    split_ifs with hbefore hsame
    · refine List.pairwise_cons.mpr ⟨?_,h⟩
      intro other hother
      rcases List.mem_cons.mp hother with rfl | hother
      · exact hbefore
      · exact hbefore.trans (hfirst other hother)
    · refine List.pairwise_cons.mpr ⟨?_,hrest⟩
      intro other hother
      exact lt_of_eq_of_lt hsame (hfirst other hother)
    · refine List.pairwise_cons.mpr ⟨?_,ih hrest⟩
      intro other hother
      rcases mem_insertField hother with rfl | hother
      · exact lt_of_le_of_ne (not_lt.mp hbefore) (Ne.symm hsame)
      · exact hfirst other hother

theorem insertField_of_forall_lt (h : ∀ field ∈ fields, field.1 < name) (v : Json) :
    insertField name v fields = fields ++ [(name, v)] := by
  induction fields with
  | nil => rfl
  | cons first rest ih =>
    obtain ⟨key,w⟩ := first
    obtain ⟨hfirst,hrest⟩ := List.forall_mem_cons.mp h
    rw [insertField, if_neg hfirst.not_gt, if_neg hfirst.ne', ih hrest, List.cons_append]

theorem foldl_insertField_of_ascending (h : Ascending (fs ++ fields)) :
    fields.foldl (fun sorted field => insertField field.1 field.2 sorted) fs = fs ++ fields := by
  induction fields generalizing fs with
  | nil => rw [List.foldl_nil, List.append_nil]
  | cons field rest ih =>
    have hlast : ∀ other ∈ fs, other.1 < field.1 := by
      intro other hother
      exact (List.pairwise_append.mp h).2.2 other hother field List.mem_cons_self
    rw [List.foldl_cons, insertField_of_forall_lt hlast]
    rw [List.append_cons] at h
    rw [ih h, List.append_assoc, List.singleton_append]

theorem ascending_foldl_insertField (h : Ascending fs) (fields : List (String × Json)) :
    Ascending (fields.foldl (fun sorted field => insertField field.1 field.2 sorted) fs) := by
  induction fields generalizing fs with
  | nil => exact h
  | cons field rest ih => exact ih (h.insertField field.1 field.2)

theorem mem_of_mem_foldl_insertField {field : String × Json}
    (h : field ∈ fields.foldl (fun sorted field => insertField field.1 field.2 sorted) fs) :
    field ∈ fs ∨ field ∈ fields := by
  induction fields generalizing fs with
  | nil => exact .inl h
  | cons first rest ih =>
    rcases ih h with h | h
    · rcases mem_insertField h with rfl | h
      · exact .inr List.mem_cons_self
      · exact .inl h
    · exact .inr (List.mem_cons_of_mem _ h)

theorem canonical_canonical (v : Json) : v.canonical.canonical = v.canonical := by
  induction v using induction with
  | array items ih =>
    simp only [canonical, canonicalItems_eq_map, List.map_map]
    exact congrArg Json.array (List.map_congr_left ih)
  | object fields ih =>
    let sorted := (canonicalFields fields).foldl
      (fun sorted field => insertField field.1 field.2 sorted) []
    have hascending : Ascending ([] ++ sorted) := ascending_foldl_insertField .nil _
    have hsame : sorted.map (Prod.map id canonical) = sorted := by
      refine (List.map_congr_left ?_).trans (List.map_id sorted)
      rintro ⟨name,v⟩ hmem
      rcases mem_of_mem_foldl_insertField hmem with hmem | hmem
      · cases hmem
      · rw [canonicalFields_eq_map] at hmem
        obtain ⟨field,hfield,hv⟩ := List.mem_map.mp hmem
        cases hv
        exact congrArg (Prod.mk field.1) (ih field hfield)
    change ofFields (canonicalFields sorted) = .object sorted
    rw [canonicalFields_eq_map, hsame, ofFields, foldl_insertField_of_ascending hascending]
    rfl
  | _ => rfl

/-- A way to write a value: at most the fields of objects change their order, in the value and in
all values in it. -/
structure Rearranges (form : Json → Json) : Prop where
  null : form .null = .null
  bool : ∀ b, form (.bool b) = .bool b
  number : ∀ n, form (.number n) = .number n
  string : ∀ s, form (.string s) = .string s
  array : ∀ items, form (.array items) = .array (items.map form)
  object : ∀ fields, (fields.map Prod.fst).Nodup → ∃ fs, form (.object fields) = .object fs ∧
    fs.Perm (fields.map (Prod.map id form))
  canonical : ∀ v, (form v).canonical = v.canonical

theorem rearranges_id : Rearranges id where
  null := rfl
  bool _ := rfl
  number _ := rfl
  string _ := rfl
  array items := by rw [List.map_id]; rfl
  object fields _ := ⟨fields,rfl,by rw [Prod.map_id, List.map_id]⟩
  canonical _ := rfl

theorem rearranges_canonical : Rearranges canonical where
  null := rfl
  bool _ := rfl
  number _ := rfl
  string _ := rfl
  array items := by rw [Json.canonical, canonicalItems_eq_map]
  object fields hnodup := by
    refine ⟨_,rfl,?_⟩
    rw [canonicalFields_eq_map]
    exact foldl_insertField_perm (by rwa [List.nil_append, map_fst_map])
  canonical := canonical_canonical

namespace Rearranges

variable {form : Json → Json}

theorem exists_fields (hform : Rearranges form) (hnodup : (fields.map Prod.fst).Nodup) :
    ∃ fs, form (.object fields) = .object fs ∧ (fs.map Prod.fst).Nodup ∧
      ∀ name, lookup? name fs = (lookup? name fields).map form := by
  obtain ⟨fs,hfs,hperm⟩ := hform.object fields hnodup
  have hmapped : ((fields.map (Prod.map id form)).map Prod.fst).Nodup := by
    rwa [map_fst_map]
  refine ⟨fs,hfs,(hperm.map Prod.fst).nodup_iff.mpr hmapped,?_⟩
  intro name
  rw [lookup?_perm hperm hmapped, lookup?_map]

theorem ne_null (hform : Rearranges form) (h : v ≠ .null) : form v ≠ .null := by
  intro hnull
  have hcanonical : Json.null = v.canonical := by rw [← hform.canonical v, hnull, Json.canonical]
  cases v with
  | null => exact h rfl
  | _ => cases hcanonical

theorem singleton (hform : Rearranges form) (name : String) (v : Json) :
    form (.object [(name, v)]) = .object [(name, form v)] := by
  obtain ⟨fs,hfs,hperm⟩ := hform.object [(name, v)] (List.nodup_singleton _)
  rw [hfs, List.perm_singleton.mp hperm]
  rfl

end Rearranges

end ScriptCache.Json
