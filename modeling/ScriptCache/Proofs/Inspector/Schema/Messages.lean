import Mathlib
import ScriptCache.Inspector.Command
import ScriptCache.Proofs.Inspector.Schema.Records

namespace ScriptCache

open Decoder Record

namespace Request

def sorted (r : Request) : Request :=
  { r with params := r.params.canonical }

theorem decodes (r : Request) : decoder.Decodes r.toJson r.sorted :=
  ((((reads_field _ (decodes_long r.id)).map _).seq
    (reads_field _ (decodes_string r.method))).seq
    (reads_field _ (decodes_value r.params))).decodes (by decide) _

end Request

namespace Event

def mapValues (f : Json → Option Json) : Event → Event
  | .paused e => .paused (e.mapValues f)
  | e => e

@[simp] theorem mapValues_mapValues (f g : Json → Option Json) (e : Event) :
    (e.mapValues f).mapValues g = e.mapValues fun v => (f v).bind g := by
  cases e <;> simp [mapValues]

variable {e e' : Event} {tag : Tag} {fields : List (String × Json)} {name : String} {v : Json}

theorem given_eq_ok (h : Json.lookup? name fields = some v) :
    given name (Draft.fieldsOfJson fields) = .ok (.ofJson v) := by
  rw [given, Draft.find?_fieldsOfJson h]

theorem decodes_tagged (hmethod : Tag.decoder.Decodes (.string e.method) tag)
    (hparams : tag.params.Decodes e.params e') : decoder.Decodes e.toJson e' := by
  intro form hform origin
  obtain ⟨fs,hfs,-,hlookup⟩ := hform.exists_fields
    (show ([("method", Json.string e.method), ("params", e.params)].map Prod.fst).Nodup by simp)
  have htag := read?_eq_some_iff.mp (hmethod form hform origin)
  have hread := read?_eq_some_iff.mp (hparams form hform origin)
  rw [toJson, hfs, read?_eq_some_iff, Draft.ofJson, decoder]
  change (do
    let tag ← Tag.decoder origin (← given "method" (Draft.fieldsOfJson fs))
    tag.params origin (← given "params" (Draft.fieldsOfJson fs))) = Except.ok e'
  rw [given_eq_ok ((hlookup "method").trans rfl), given_eq_ok ((hlookup "params").trans rfl)]
  change ((Tag.decoder origin (.ofJson (form (.string e.method)))).bind fun tag =>
    tag.params origin (.ofJson (form e.params))) = .ok e'
  rw [htag]
  exact hread

theorem decodes (e : Event) : decoder.Decodes e.toJson (e.mapValues Json.kept) := by
  cases e with
  | paused e => exact decodes_tagged (Choice.decodes_plain rfl) ((Paused.decodes e).map _)
  | resumed => exact decodes_tagged (Choice.decodes_plain rfl) (decodes_empty.map _)
  | scriptParsed e => exact decodes_tagged (Choice.decodes_plain rfl) ((ScriptParsed.decodes e).map _)
  | breakpointResolved e =>
    exact decodes_tagged (Choice.decodes_plain rfl) ((BreakpointResolved.decodes e).map _)

end Event

namespace Outcome

def sorted : Outcome → Outcome
  | .result v => .result v.canonical
  | .error e => .error e

variable {fields : List (String × Json)} {name : String} {v : Json}

def names : List String :=
  ["result", "error"]

theorem ofFields_cons_of_notMem (h : name ∉ names) (d : Draft)
    (rest : List (Option String × Draft)) : ofFields ((some name, d) :: rest) = ofFields rest := by
  obtain ⟨hresult,herror⟩ : name ≠ "result" ∧ name ≠ "error" := by simpa [names] using h
  rw [ofFields]
  · simpa using hresult
  · simpa using herror

theorem ofFields_of_only (hknown : name ∈ names)
    (honly : ∀ key ∈ names, key ≠ name → Json.lookup? key fields = none)
    (hname : Json.lookup? name fields = some v) :
    ofFields (Draft.fieldsOfJson fields) = ofFields [(some name, .ofJson v)] := by
  induction fields with
  | nil => cases hname
  | cons field rest ih =>
    obtain ⟨key,w⟩ := field
    simp only [Json.lookup?_cons] at honly hname
    split_ifs at hname with hkey
    · cases hkey
      cases hname
      rcases List.mem_pair.mp hknown with rfl | rfl <;> rfl
    · have hunknown : key ∉ names := by
        intro hmem
        have hnone := honly key hmem hkey
        rw [if_pos rfl] at hnone
        cases hnone
      have hrest : ∀ other ∈ names, other ≠ name → Json.lookup? other rest = none := by
        intro other hmem hne
        have hnone := honly other hmem hne
        split_ifs at hnone
        exact hnone
      rw [Draft.fieldsOfJson, ofFields_cons_of_notMem hunknown]
      exact ih hrest hname

theorem ofFields_field {form : Json → Json} (hform : Json.Rearranges form) (o : Outcome)
    (hlookup : ∀ key ∈ names,
      Json.lookup? key fields = (Json.lookup? key [o.field]).map form) :
    ofFields (Draft.fieldsOfJson fields) = .ok o.sorted := by
  have hknown : o.field.1 ∈ names := by cases o <;> simp [field, names]
  have hname : Json.lookup? o.field.1 fields = some (form o.field.2) := by
    rw [hlookup _ hknown, Json.lookup?_cons, if_pos rfl, Option.map_some]
  rw [ofFields_of_only hknown ?_ hname]
  · cases o with
    | result v => exact read?_eq_some_iff.mp ((decodes_value v).map _ form hform .setAside)
    | error e => exact read?_eq_some_iff.mp ((ProtocolError.decodes e).map _ form hform .setAside)
  · intro key hkey hne
    rw [hlookup key hkey, Json.lookup?_cons, if_neg hne.symm]
    rfl

theorem decodes (o : Outcome) : decoder.Decodes o.toJson o.sorted := by
  cases o with
  | result v => exact Choice.decodes_holding rfl ((decodes_value v).map _)
  | error e => exact Choice.decodes_holding rfl ((ProtocolError.decodes e).map _)

end Outcome

namespace Response

def sorted (r : Response) : Response :=
  { r with outcome := r.outcome.sorted }

def idForm : Option UInt64 → Json
  | some n => .whole n.toNat
  | none => .null

theorem toJson_eq (id : Option UInt64) (o : Outcome) :
    toJson ⟨id, o⟩ = .object [("id", idForm id), o.field] := by
  cases id <;> rfl

theorem fields_nodup (id : Option UInt64) (o : Outcome) :
    ([("id", idForm id), o.field].map Prod.fst).Nodup := by
  cases o <;> simp [Outcome.field]

theorem decodes_id (id : Option UInt64) : (Decoder.optional long).Decodes (idForm id) id := by
  cases id with
  | none => exact decodes_null long
  | some n => exact (decodes_long n).optional nofun

theorem decodes (r : Response) : decoder.Decodes r.toJson r.sorted := by
  intro form hform origin
  obtain ⟨id,outcome⟩ := r
  obtain ⟨fs,hfs,-,hlookup⟩ := hform.exists_fields (fields_nodup id outcome)
  have hid : idOf origin (Draft.fieldsOfJson fs) = .ok id := by
    rw [idOf, Draft.find?_fieldsOfJson ((hlookup "id").trans rfl)]
    exact read?_eq_some_iff.mp (decodes_id id form hform origin)
  have houtcome : Outcome.ofFields (Draft.fieldsOfJson fs) = .ok outcome.sorted := by
    refine Outcome.ofFields_field hform outcome fun name hname => ?_
    rw [hlookup, Json.lookup?_cons, if_neg]
    rintro rfl
    simp [Outcome.names] at hname
  rw [toJson_eq, hfs, read?_eq_some_iff, Draft.ofJson, decoder]
  change ((idOf origin (Draft.fieldsOfJson fs)).bind fun id =>
    (Outcome.ofFields (Draft.fieldsOfJson fs)).bind fun outcome =>
      Except.ok (Response.mk id outcome)) = _
  rw [hid, houtcome]
  rfl

end Response

theorem decodes_drained (es : List Event) :
    drainedDecoder.Decodes (Reply.events es).toJson (es.map (Event.mapValues Json.kept)) :=
  ((reads_field _ (decodes_list fun e (_ : e ∈ es) => Event.decodes e)).map id).decodes (by decide) _

section ReadBack

variable {α : Type} {write : α → Json} {read : Decoder α}

/-- What is written of a message, with its fields as they are declared or sorted, is read as the
result says. -/
def ReadsBack (write : α → Json) (read : Decoder α) (result : α → α) : Prop :=
  ∀ a, ∀ v ∈ [write a, (write a).canonical], read.run v = .ok (result a)

/-- The message with its values in canonical form, and of these without the null ones. -/
def settled (mapValues : (Json → Option Json) → α → α) (a : α) : α :=
  mapValues Json.present (mapValues (fun v => some v.canonical) a)

theorem readsBack {result : α → α} (h : ∀ a, read.Decodes (write a) (result a)) :
    ReadsBack write read result := by
  intro a v hv
  rcases List.mem_pair.mp hv with rfl | rfl
  · exact (h a).run_eq_ok
  · exact read?_eq_some_iff.mp (h a Json.canonical Json.rearranges_canonical .whole)

theorem readsBack_settled {mapValues : (Json → Option Json) → α → α}
    (hmap : ∀ f g a, mapValues g (mapValues f a) = mapValues (fun v => (f v).bind g) a)
    (h : ∀ a, read.Decodes (write a) (mapValues Json.kept a)) :
    ReadsBack write read (settled mapValues) := by
  refine readsBack fun a => ?_
  rw [settled, hmap]
  exact h a

end ReadBack

theorem messages_read_back :
    ReadsBack Request.toJson Request.decoder Request.sorted ∧
    ReadsBack Response.toJson Response.decoder Response.sorted ∧
    ReadsBack Outcome.toJson Outcome.decoder Outcome.sorted ∧
    ReadsBack ProtocolError.toJson ProtocolError.decoder id ∧
    ReadsBack Event.toJson Event.decoder (settled Event.mapValues) ∧
    ReadsBack (fun es => (Reply.events es).toJson) drainedDecoder
      (settled fun f => List.map (Event.mapValues f)) ∧
    ReadsBack Paused.toJson Paused.decoder (settled Paused.mapValues) ∧
    ReadsBack ScriptParsed.toJson ScriptParsed.decoder id ∧
    ReadsBack BreakpointResolved.toJson BreakpointResolved.decoder id ∧
    ReadsBack CallFrame.toJson CallFrame.decoder (settled CallFrame.mapValues) ∧
    ReadsBack Scope.toJson Scope.decoder (settled Scope.mapValues) ∧
    ReadsBack Location.toJson Location.decoder id ∧
    ReadsBack ScriptPosition.toJson ScriptPosition.decoder id ∧
    ReadsBack BreakLocation.toJson BreakLocation.decoder id ∧
    ReadsBack RemoteObject.toJson RemoteObject.decoder (settled RemoteObject.mapValues) ∧
    ReadsBack Property.toJson Property.decoder (settled Property.mapValues) ∧
    ReadsBack CallArgument.toJson CallArgument.decoder (settled CallArgument.mapValues) ∧
    ReadsBack ExceptionDetails.toJson ExceptionDetails.decoder
      (settled ExceptionDetails.mapValues) ∧
    ReadsBack StackTrace.toJson StackTrace.decoder id ∧
    ReadsBack StackFrame.toJson StackFrame.decoder id :=
  ⟨readsBack Request.decodes, readsBack Response.decodes, readsBack Outcome.decodes,
    readsBack ProtocolError.decodes,
    readsBack_settled Event.mapValues_mapValues Event.decodes,
    readsBack_settled (by simp [Function.comp_def]) decodes_drained,
    readsBack_settled Paused.mapValues_mapValues Paused.decodes,
    readsBack ScriptParsed.decodes, readsBack BreakpointResolved.decodes,
    readsBack_settled CallFrame.mapValues_mapValues CallFrame.decodes,
    readsBack_settled Scope.mapValues_mapValues Scope.decodes,
    readsBack Location.decodes, readsBack ScriptPosition.decodes, readsBack BreakLocation.decodes,
    readsBack_settled RemoteObject.mapValues_mapValues RemoteObject.decodes,
    readsBack_settled Property.mapValues_mapValues Property.decodes,
    readsBack_settled CallArgument.mapValues_mapValues CallArgument.decodes,
    readsBack_settled ExceptionDetails.mapValues_mapValues ExceptionDetails.decodes,
    readsBack StackTrace.decodes, readsBack StackFrame.decodes⟩

example : settled RemoteObject.mapValues RemoteObject.null =
    { RemoteObject.primitive .object with subtype := some .null } :=
  rfl

end ScriptCache
