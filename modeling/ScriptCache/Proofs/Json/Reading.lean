import Mathlib
import ScriptCache.Json.Choice
import ScriptCache.Json.Draft.Scan
import ScriptCache.Proofs.Json.Fields

namespace ScriptCache

namespace Draft

variable {fields : List (String × Json)} {items : List Json} {name : String} {v : Json}

theorem find?_fieldsOfJson (h : Json.lookup? name fields = some v) :
    ((fieldsOfJson fields).find? fun field => field.1 == some name) =
      some (some name, ofJson v) := by
  induction fields with
  | nil => cases h
  | cons field rest ih =>
    obtain ⟨key,w⟩ := field
    rw [Json.lookup?_cons] at h
    rw [fieldsOfJson]
    split_ifs at h with hkey
    · cases hkey
      cases h
      exact List.find?_cons_of_pos (beq_self_eq_true _)
    · rw [List.find?_cons_of_neg (by simpa using hkey)]
      exact ih h

theorem itemsSkipFault?_eq_none (h : ∀ v ∈ items, (ofJson v).skipFault? = none) :
    itemsSkipFault? (itemsOfJson items) = none := by
  induction items with
  | nil => rfl
  | cons v rest ih =>
    obtain ⟨hv,hrest⟩ := List.forall_mem_cons.mp h
    rw [itemsOfJson, itemsSkipFault?, hv, ih hrest]
    rfl

theorem fieldsSkipFault?_eq_none (h : ∀ field ∈ fields, (ofJson field.2).skipFault? = none) :
    fieldsSkipFault? (fieldsOfJson fields) = none := by
  induction fields with
  | nil => rfl
  | cons field rest ih =>
    obtain ⟨hfield,hrest⟩ := List.forall_mem_cons.mp h
    rw [fieldsOfJson, fieldsSkipFault?, hfield, ih hrest]
    rfl

theorem skipFault?_ofJson (v : Json) : (ofJson v).skipFault? = none := by
  induction v using Json.induction with
  | array items ih =>
    rw [ofJson, skipFault?, itemsSkipFault?_eq_none ih]
    rfl
  | object fields ih =>
    rw [ofJson, skipFault?, fieldsSkipFault?_eq_none ih]
    rfl
  | _ => rfl

theorem itemsToJson_ofJson (h : ∀ v ∈ items, (ofJson v).toJson = .ok v.canonical) :
    itemsToJson (itemsOfJson items) = .ok (Json.canonicalItems items) := by
  induction items with
  | nil => rfl
  | cons v rest ih =>
    obtain ⟨hv,hrest⟩ := List.forall_mem_cons.mp h
    rw [itemsOfJson, itemsToJson, hv, ih hrest]
    rfl

theorem fieldsToJson_ofJson (h : ∀ field ∈ fields, (ofJson field.2).toJson = .ok field.2.canonical) :
    fieldsToJson (fieldsOfJson fields) = .ok (Json.canonicalFields fields) := by
  induction fields with
  | nil => rfl
  | cons field rest ih =>
    obtain ⟨hfield,hrest⟩ := List.forall_mem_cons.mp h
    rw [fieldsOfJson, fieldsToJson, hfield, ih hrest]
    rfl

theorem toJson_ofJson (v : Json) : (ofJson v).toJson = .ok v.canonical := by
  induction v using Json.induction with
  | array items ih =>
    rw [ofJson, toJson, itemsToJson_ofJson ih]
    rfl
  | object fields ih =>
    rw [ofJson, toJson, fieldsToJson_ofJson ih]
    rfl
  | _ => rfl

theorem depth_lt_of_mem (h : v ∈ items) : (ofJson v).depth < (ofJson (.array items)).depth := by
  have hle : (ofJson v).depth ≤ itemsDepth (itemsOfJson items) := by
    induction items with
    | nil => cases h
    | cons w rest ih =>
      rcases List.mem_cons.mp h with rfl | h
      · exact Nat.le_max_left _ _
      · exact (ih h).trans (Nat.le_max_right _ _)
  exact Nat.lt_succ_of_le hle

theorem depth_lt_of_lookup? (h : Json.lookup? name fields = some v) :
    (ofJson v).depth < (ofJson (.object fields)).depth := by
  have hmem := Json.mem_of_lookup? h
  clear h
  have hle : (ofJson v).depth ≤ fieldsDepth (fieldsOfJson fields) := by
    induction fields with
    | nil => cases hmem
    | cons field rest ih =>
      rcases List.mem_cons.mp hmem with rfl | hmem
      · exact Nat.le_max_left _ _
      · exact (ih hmem).trans (Nat.le_max_right _ _)
  exact Nat.lt_succ_of_le hle

theorem depth_lt_singleton (name : String) (v : Json) :
    (ofJson v).depth < (ofJson (.object [(name, v)])).depth :=
  depth_lt_of_lookup? ((Json.lookup?_cons name name v []).trans (if_pos rfl))

end Draft

namespace Decoder

variable {α β : Type} {read : Decoder α} {origin : Origin} {a : α} {v : Json}

def read? (read : Decoder α) (origin : Origin) (v : Json) : Option α :=
  (read origin (.ofJson v)).toOption

theorem toOption_eq_some_iff {ε : Type} {x : Except ε α} : x.toOption = some a ↔ x = .ok a := by
  cases x <;> simp [Except.toOption]

theorem toOption_map {ε : Type} (f : α → β) (x : Except ε α) :
    (x.map f).toOption = x.toOption.map f := by
  cases x <;> rfl

theorem read?_eq_some_iff :
    read.read? origin v = some a ↔ read origin (.ofJson v) = .ok a :=
  toOption_eq_some_iff

theorem read?_string (origin : Origin) (s : String) : string.read? origin (.string s) = some s :=
  rfl

theorem read?_bool (origin : Origin) (b : Bool) : bool.read? origin (.bool b) = some b :=
  rfl

theorem read?_map (f : α → β) (read : Decoder α) (origin : Origin) (v : Json) :
    (map f read).read? origin v = (read.read? origin v).map f :=
  toOption_map f (read origin (.ofJson v))

theorem read?_integer {low high n : Int} (hlow : low ≤ n) (hhigh : n ≤ high) (expected : String)
    (origin : Origin) : (integer low high expected).read? origin (.whole n) = some n := by
  change Except.toOption (if low ≤ n ∧ n ≤ high then .ok n else _) = some n
  rw [if_pos ⟨hlow,hhigh⟩]
  rfl

theorem read?_word (origin : Origin) (n : UInt32) : word.read? origin (.word n) = some n := by
  have hlt := n.toNat_lt
  rw [word, read?_map, Json.word, read?_integer (by omega) (by omega)]
  simp

theorem read?_long (origin : Origin) (n : UInt64) :
    long.read? origin (.whole n.toNat) = some n := by
  have hlt := n.toNat_lt
  rw [long, read?_map, read?_integer (by omega) (by omega)]
  simp

theorem read?_signedWord (origin : Origin) (n : Int32) :
    signedWord.read? origin (.whole n.toInt) = some n := by
  have hle := n.le_toInt
  have hlt := n.toInt_lt
  rw [signedWord, read?_map, read?_integer (by omega) (by omega)]
  simp

theorem read?_signedLong (origin : Origin) (n : Int64) :
    signedLong.read? origin (.whole n.toInt) = some n := by
  have hle := n.le_toInt
  have hlt := n.toInt_lt
  rw [signedLong, read?_map, read?_integer (by omega) (by omega)]
  simp

theorem read?_value (origin : Origin) (v : Json) : value.read? origin v = some v.canonical := by
  rw [read?_eq_some_iff, value, Draft.toJson_ofJson]
  rfl

theorem read?_optional (h : v ≠ .null) :
    (optional read).read? origin v = (read.read? origin v).map some := by
  cases v with
  | null => exact absurd rfl h
  | _ => exact toOption_map some _

theorem items_eq_ok_iff {vs : List Json} {as : List α} :
    items read origin (Draft.itemsOfJson vs) = .ok as ↔
      List.Forall₂ (fun v a => read.read? origin v = some a) vs as := by
  induction vs generalizing as with
  | nil => simp [Draft.itemsOfJson, items, eq_comm]
  | cons v rest ih =>
    rw [Draft.itemsOfJson, items, List.forall₂_cons_left_iff]
    constructor
    · intro h
      cases hv : read origin (.ofJson v) with
      | error e =>
        rw [hv] at h
        cases h
      | ok a =>
        cases hrest : items read origin (Draft.itemsOfJson rest) with
        | error e =>
          rw [hv, hrest] at h
          cases h
        | ok as =>
          rw [hv, hrest] at h
          cases h
          exact ⟨a,as,read?_eq_some_iff.mpr hv,ih.mp hrest,rfl⟩
    · rintro ⟨a,as,ha,hrest,rfl⟩
      rw [read?_eq_some_iff.mp ha, ih.mpr hrest]
      rfl

theorem read?_list_eq_some_iff {vs : List Json} {as : List α} :
    (list read).read? origin (.array vs) = some as ↔
      List.Forall₂ (fun v a => read.read? origin v = some a) vs as := by
  rw [read?_eq_some_iff, ← items_eq_ok_iff, Draft.ofJson, list]
  cases items read origin (Draft.itemsOfJson vs) with
  | error e => simp [bind, Except.bind]
  | ok as => simp [bind, Except.bind, finishEnding, Ending.fault?]

theorem read?_listed {form : Json → Json} (hform : Json.Rearranges form) {write : α → Json}
    {P : α → Prop} {as bs : List α}
    (h : ∀ a ∈ as, ∀ b, read.read? origin (form (write a)) = some b ↔ b = a ∧ P a) :
    (list read).read? origin (form (.array (as.map write))) = some bs ↔
      bs = as ∧ ∀ a ∈ as, P a := by
  rw [hform.array, read?_list_eq_some_iff, List.map_map, List.forall₂_map_left_iff]
  induction as generalizing bs with
  | nil => simp
  | cons a rest ih =>
    obtain ⟨ha,hrest⟩ := List.forall_mem_cons.mp h
    rw [List.forall₂_cons_left_iff, List.forall_mem_cons]
    constructor
    · rintro ⟨b,bs,hb,hbs,rfl⟩
      obtain ⟨rfl,hp⟩ := (ha b).mp hb
      obtain ⟨rfl,hps⟩ := (ih hrest).mp hbs
      exact ⟨rfl,hp,hps⟩
    · rintro ⟨rfl,hp,hps⟩
      exact ⟨a,rest,(ha a).mpr ⟨rfl,hp⟩,(ih hrest).mpr ⟨rfl,hps⟩,rfl⟩

/-- A value is read as `a`, in whichever order the objects in it have their fields. -/
def Decodes (read : Decoder α) (v : Json) (a : α) : Prop :=
  ∀ form, Json.Rearranges form → ∀ origin, read.read? origin (form v) = some a

theorem decodes_string (s : String) : string.Decodes (.string s) s := by
  intro form hform origin
  rw [hform.string, read?_string]

theorem decodes_bool (b : Bool) : bool.Decodes (.bool b) b := by
  intro form hform origin
  rw [hform.bool, read?_bool]

theorem decodes_word (n : UInt32) : word.Decodes (.word n) n := by
  intro form hform origin
  rw [Json.word, Json.whole, hform.number]
  exact read?_word origin n

theorem decodes_long (n : UInt64) : long.Decodes (.whole n.toNat) n := by
  intro form hform origin
  rw [Json.whole, hform.number]
  exact read?_long origin n

theorem decodes_signedWord (n : Int32) : signedWord.Decodes (.whole n.toInt) n := by
  intro form hform origin
  rw [Json.whole, hform.number]
  exact read?_signedWord origin n

theorem decodes_signedLong (n : Int64) : signedLong.Decodes (.whole n.toInt) n := by
  intro form hform origin
  rw [Json.whole, hform.number]
  exact read?_signedLong origin n

theorem decodes_value (v : Json) : value.Decodes v v.canonical := by
  intro form hform origin
  rw [read?_value, hform.canonical]

theorem Decodes.map (h : read.Decodes v a) (f : α → β) : (map f read).Decodes v (f a) := by
  intro form hform origin
  rw [read?_map, h form hform origin]
  rfl

theorem Decodes.optional (h : read.Decodes v a) (hv : v ≠ .null) :
    (optional read).Decodes v (some a) := by
  intro form hform origin
  rw [read?_optional (hform.ne_null hv), h form hform origin]
  rfl

theorem decodes_list {write : β → Json} {result : β → α} {bs : List β}
    (h : ∀ b ∈ bs, read.Decodes (write b) (result b)) :
    (list read).Decodes (.array (bs.map write)) (bs.map result) := by
  intro form hform origin
  rw [hform.array, read?_list_eq_some_iff, List.map_map, List.forall₂_map_left_iff,
    List.forall₂_map_right_iff, List.forall₂_same]
  intro b hb
  exact h b hb form hform origin

theorem decodes_list_self {write : α → Json} (h : ∀ a, read.Decodes (write a) a) (as : List α) :
    (list read).Decodes (.array (as.map write)) as := by
  simpa using decodes_list fun a (_ : a ∈ as) => h a

end Decoder

namespace Choice

variable {α κ : Type} {variants : List (String × Variant α)} {name : String} {a : α}

theorem find?_named {all : List κ} {key : κ → String} {k : κ} (hnodup : (all.map key).Nodup)
    (hk : k ∈ all) (variant : κ → Variant α) :
    ((all.map fun k => (key k, variant k)).find? fun v => v.1 == key k) =
      some (key k, variant k) := by
  have hfound : (all.find? fun other => key other == key k) = some k := by
    obtain ⟨other,hother⟩ : ∃ other, (all.find? fun other => key other == key k) = some other := by
      rw [← Option.isSome_iff_exists, List.find?_isSome]
      exact ⟨k,hk,beq_self_eq_true _⟩
    have hkey : key other = key k := by simpa using List.find?_some hother
    rw [hother, List.inj_on_of_nodup_map hnodup (List.mem_of_find?_eq_some hother) hk hkey]
  rw [List.find?_map]
  exact congrArg (Option.map _) hfound

theorem read?_plain (h : (variants.find? fun v => v.1 == name) = some (name, .plain a))
    (origin : Origin) : (decoder variants).read? origin (.string name) = some a := by
  rw [Decoder.read?_eq_some_iff, Draft.ofJson, decoder, variant, h]
  rfl

theorem read?_holding {read : Decoder α}
    (h : (variants.find? fun v => v.1 == name) = some (name, .holding read)) (origin : Origin)
    (v : Json) : (decoder variants).read? origin (.object [(name, v)]) = read.read? origin v := by
  cases origin with
  | text =>
    change ((variant variants name).bind fun chosen =>
      (payload chosen .text (.ofJson v)).bind .ok).toOption = _
    rw [variant, h, Decoder.read?]
    change ((read .text (.ofJson v)).bind .ok).toOption = _
    cases read .text (.ofJson v) <;> rfl
  | _ =>
    change ((variant variants name).bind fun chosen => payload chosen _ (.ofJson v)).toOption = _
    rw [variant, h]
    rfl

theorem decodes_plain (h : (variants.find? fun v => v.1 == name) = some (name, .plain a)) :
    (decoder variants).Decodes (.string name) a := by
  intro form hform origin
  rw [hform.string, read?_plain h]

theorem decodes_named {all : List κ} {key : κ → String} {k : κ} (hnodup : (all.map key).Nodup)
    (hk : k ∈ all) : (plain (all.map fun k => (key k, k))).Decodes (.string (key k)) k := by
  refine decodes_plain ?_
  rw [List.map_map]
  exact find?_named hnodup hk .plain

theorem decodes_holding {read : Decoder α} {v : Json}
    (h : (variants.find? fun v => v.1 == name) = some (name, .holding read))
    (hread : read.Decodes v a) : (decoder variants).Decodes (.object [(name, v)]) a := by
  intro form hform origin
  rw [hform.singleton, read?_holding h, hread form hform origin]

end Choice

end ScriptCache
