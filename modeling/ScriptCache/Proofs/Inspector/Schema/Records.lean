import Mathlib
import ScriptCache.Inspector.Schema.Read
import ScriptCache.Proofs.Json.Record

namespace ScriptCache

open Decoder Record

namespace Json

def present : Json → Option Json
  | .null => none
  | v => some v

/-- What a value in an optional field is read back as. -/
def kept (v : Json) : Option Json :=
  present v.canonical

theorem present_of_ne {v : Json} (h : v ≠ .null) : present v = some v := by
  cases v with
  | null => exact absurd rfl h
  | _ => rfl

theorem kept_of_ne {v : Json} (h : v ≠ .null) : kept v = some v.canonical :=
  present_of_ne (rearranges_canonical.ne_null h)

end Json

section Optional

variable {α β : Type} {name : String} {read : Decoder α} {write : β → Json}

theorem Decoder.Decodes.run_eq_ok {v : Json} {a : α} (h : read.Decodes v a) : read.run v = .ok a :=
  read?_eq_some_iff.mp (h id Json.rearranges_id .whole)

theorem decodes_null (read : Decoder α) : (Decoder.optional read).Decodes .null none := by
  intro form hform origin
  rw [hform.null]
  rfl

theorem reads_optional {result : β → α} (h : ∀ b, read.Decodes (write b) (result b))
    (hwrite : ∀ b, write b ≠ .null) (x : Option β) :
    (Record.optional name read).Reads (Json.optionalField name write x) (x.map result) := by
  cases x with
  | none => exact reads_absent none name _
  | some b => exact reads_field name ((h b).optional (hwrite b))

theorem reads_optional_self {write : α → Json} (h : ∀ a, read.Decodes (write a) a)
    (hwrite : ∀ a, write a ≠ .null) (x : Option α) :
    (Record.optional name read).Reads (Json.optionalField name write x) x := by
  have hself : ∀ a, read.Decodes (write a) (id a) := h
  simpa using reads_optional hself hwrite x

theorem reads_value (name : String) (x : Option Json) :
    (Record.optional name value).Reads (Json.optionalField name id x) (x.bind Json.kept) := by
  cases x with
  | none => exact reads_absent none name _
  | some v =>
    by_cases h : v = .null
    · subst h
      exact reads_field name (decodes_null value)
    · rw [Option.bind_some, Json.kept_of_ne h]
      exact reads_field name ((decodes_value v).optional h)

theorem reads_text (name : String) (x : Option String) :
    (Record.optional name string).Reads (Json.optionalField name .string x) x :=
  reads_optional_self decodes_string (fun _ => nofun) x

end Optional

theorem ObjectKind.decodes (k : ObjectKind) : decoder.Decodes (.string k.name) k :=
  Choice.decodes_named (by decide) (by cases k <;> decide)

theorem ObjectSubtype.decodes (s : ObjectSubtype) : decoder.Decodes (.string s.name) s :=
  Choice.decodes_named (by decide) (by cases s <;> decide)

theorem Unserializable.decodes (u : Unserializable) : decoder.Decodes u.toJson u :=
  Choice.decodes_named (by decide) (by cases u <;> decide)

theorem ScopeKind.decodes (k : ScopeKind) : decoder.Decodes (.string k.name) k :=
  Choice.decodes_named (by decide) (by cases k <;> decide)

theorem BreakKind.decodes (k : BreakKind) : decoder.Decodes (.string k.name) k :=
  Choice.decodes_named (by decide) (by cases k <;> decide)

theorem PausedReason.decodes (r : PausedReason) : decoder.Decodes (.string r.name) r :=
  Choice.decodes_named (by decide) (by cases r <;> decide)

namespace RemoteObject

def mapValues (f : Json → Option Json) (o : RemoteObject) : RemoteObject :=
  { o with value := o.value.bind f }

@[simp] theorem mapValues_mapValues (f g : Json → Option Json) (o : RemoteObject) :
    (o.mapValues f).mapValues g = o.mapValues fun v => (f v).bind g := by
  simp [mapValues, Option.bind_assoc]

theorem decodes (o : RemoteObject) : decoder.Decodes o.toJson (o.mapValues Json.kept) :=
  ((((((((reads_field _ (ObjectKind.decodes o.kind)).map _).seq
    (reads_optional_self ObjectSubtype.decodes (fun _ => nofun) o.subtype)).seq
    (reads_text _ o.className)).seq
    (reads_value _ o.value)).seq
    (reads_optional_self Unserializable.decodes (fun _ => nofun) o.unserializable)).seq
    (reads_text _ o.description)).seq
    (reads_text _ o.objectId)).decodes (by decide) _

end RemoteObject

namespace Property

def mapValues (f : Json → Option Json) (p : Property) : Property :=
  { p with
    value := p.value.map (RemoteObject.mapValues f)
    getter := p.getter.map (RemoteObject.mapValues f)
    setter := p.setter.map (RemoteObject.mapValues f) }

@[simp] theorem mapValues_mapValues (f g : Json → Option Json) (p : Property) :
    (p.mapValues f).mapValues g = p.mapValues fun v => (f v).bind g := by
  simp [mapValues, Function.comp_def]

theorem decodes (p : Property) : decoder.Decodes p.toJson (p.mapValues Json.kept) :=
  Reads.decodes (Reads.of_eq (((((((((reads_field _ (decodes_string p.name)).map _).seq
    (reads_optional RemoteObject.decodes (fun _ => nofun) p.value)).seq
    (reads_field _ (decodes_bool p.writable))).seq
    (reads_optional RemoteObject.decodes (fun _ => nofun) p.getter)).seq
    (reads_optional RemoteObject.decodes (fun _ => nofun) p.setter)).seq
    (reads_field _ (decodes_bool p.configurable))).seq
    (reads_field _ (decodes_bool p.enumerable))).seq
    (reads_field _ (decodes_bool p.isOwn))) (by simp)) (by decide) _

end Property

namespace CallArgument

def mapValues (f : Json → Option Json) (a : CallArgument) : CallArgument :=
  { a with value := a.value.bind f }

@[simp] theorem mapValues_mapValues (f g : Json → Option Json) (a : CallArgument) :
    (a.mapValues f).mapValues g = a.mapValues fun v => (f v).bind g := by
  simp [mapValues, Option.bind_assoc]

theorem decodes (a : CallArgument) : decoder.Decodes a.toJson (a.mapValues Json.kept) :=
  ((((reads_value _ a.value).map _).seq
    (reads_optional_self Unserializable.decodes (fun _ => nofun) a.unserializable)).seq
    (reads_text _ a.objectId)).decodes (by decide) _

end CallArgument

theorem StackFrame.decodes (f : StackFrame) : decoder.Decodes f.toJson f :=
  ((((((reads_field _ (decodes_string f.functionName)).map _).seq
    (reads_field _ (decodes_string f.scriptId))).seq
    (reads_field _ (decodes_string f.url))).seq
    (reads_field _ (decodes_word f.lineNumber))).seq
    (reads_field _ (decodes_word f.columnNumber))).decodes (by decide) _

theorem StackTrace.decodes (t : StackTrace) : decoder.Decodes t.toJson t :=
  (((reads_text _ t.description).map _).seq
    (reads_field _ (decodes_list_self StackFrame.decodes t.callFrames))).decodes (by decide) _

namespace ExceptionDetails

def mapValues (f : Json → Option Json) (d : ExceptionDetails) : ExceptionDetails :=
  { d with exception := d.exception.map (RemoteObject.mapValues f) }

@[simp] theorem mapValues_mapValues (f g : Json → Option Json) (d : ExceptionDetails) :
    (d.mapValues f).mapValues g = d.mapValues fun v => (f v).bind g := by
  simp [mapValues, Function.comp_def]

theorem decodes (d : ExceptionDetails) : decoder.Decodes d.toJson (d.mapValues Json.kept) :=
  (((((((((reads_field _ (decodes_word d.exceptionId)).map _).seq
    (reads_field _ (decodes_string d.text))).seq
    (reads_field _ (decodes_word d.lineNumber))).seq
    (reads_field _ (decodes_word d.columnNumber))).seq
    (reads_text _ d.scriptId)).seq
    (reads_text _ d.url)).seq
    (reads_optional_self StackTrace.decodes (fun _ => nofun) d.stackTrace)).seq
    (reads_optional RemoteObject.decodes (fun _ => nofun) d.exception)).decodes (by decide) _

end ExceptionDetails

namespace Location

theorem decodes_among (l : Location) {others : List (String × Json)}
    (hothers : (others.map Prod.fst).Nodup)
    (hapart : ["scriptId", "lineNumber", "columnNumber"].Disjoint (others.map Prod.fst)) :
    decoder.Decodes
      (.object
        ([("scriptId", .string l.scriptId), ("lineNumber", .word l.lineNumber),
          ("columnNumber", .word l.columnNumber)] ++ others)) l :=
  ((((reads_field _ (decodes_string l.scriptId)).map _).seq
    (reads_field _ (decodes_word l.lineNumber))).seq
    (reads_field _ (decodes_word l.columnNumber))).decodes_among (by decide) hothers hapart _

theorem decodes (l : Location) : decoder.Decodes l.toJson l :=
  l.decodes_among List.nodup_nil (List.disjoint_nil_right _)

end Location

theorem ScriptPosition.decodes (p : ScriptPosition) : decoder.Decodes p.toJson p :=
  (((reads_field _ (decodes_word p.lineNumber)).map _).seq
    (reads_field _ (decodes_word p.columnNumber))).decodes (by decide) _

namespace Scope

def mapValues (f : Json → Option Json) (s : Scope) : Scope :=
  { s with object := s.object.mapValues f }

@[simp] theorem mapValues_mapValues (f g : Json → Option Json) (s : Scope) :
    (s.mapValues f).mapValues g = s.mapValues fun v => (f v).bind g := by
  simp [mapValues]

theorem decodes (s : Scope) : decoder.Decodes s.toJson (s.mapValues Json.kept) :=
  ((((((reads_field _ (ScopeKind.decodes s.kind)).map _).seq
    (reads_field _ (RemoteObject.decodes s.object))).seq
    (reads_text _ s.name)).seq
    (reads_optional_self Location.decodes (fun _ => nofun) s.startLocation)).seq
    (reads_optional_self Location.decodes (fun _ => nofun) s.endLocation)).decodes (by decide) _

end Scope

namespace CallFrame

def mapValues (f : Json → Option Json) (c : CallFrame) : CallFrame :=
  { c with
    scopeChain := c.scopeChain.map (Scope.mapValues f)
    this := c.this.mapValues f
    returnValue := c.returnValue.map (RemoteObject.mapValues f) }

@[simp] theorem mapValues_mapValues (f g : Json → Option Json) (c : CallFrame) :
    (c.mapValues f).mapValues g = c.mapValues fun v => (f v).bind g := by
  simp [mapValues, Function.comp_def]

theorem decodes (c : CallFrame) : decoder.Decodes c.toJson (c.mapValues Json.kept) :=
  Reads.decodes (Reads.of_eq (((((((((reads_field _ (decodes_string c.callFrameId)).map _).seq
    (reads_field _ (decodes_string c.functionName))).seq
    (reads_optional_self Location.decodes (fun _ => nofun) c.functionLocation)).seq
    (reads_field _ (Location.decodes c.location))).seq
    (reads_field _ (decodes_string c.url))).seq
    (reads_field _ (decodes_list fun s (_ : s ∈ c.scopeChain) => Scope.decodes s))).seq
    (reads_field _ (RemoteObject.decodes c.this))).seq
    (reads_optional RemoteObject.decodes (fun _ => nofun) c.returnValue)) (by simp)) (by decide) _

end CallFrame

theorem BreakLocation.decodes (l : BreakLocation) : decoder.Decodes l.toJson l :=
  (((((reads_field _ (decodes_string l.scriptId)).map _).seq
    (reads_field _ (decodes_word l.lineNumber))).seq
    (reads_field _ (decodes_word l.columnNumber))).seq
    (reads_optional_self BreakKind.decodes (fun _ => nofun) l.kind)).decodes (by decide) _

namespace Paused

def mapValues (f : Json → Option Json) (e : Paused) : Paused :=
  { e with
    callFrames := e.callFrames.map (CallFrame.mapValues f)
    data := e.data.bind f }

@[simp] theorem mapValues_mapValues (f g : Json → Option Json) (e : Paused) :
    (e.mapValues f).mapValues g = e.mapValues fun v => (f v).bind g := by
  simp [mapValues, Function.comp_def, Option.bind_assoc]

theorem reads_hitBreakpoints (ids : List BreakpointId) :
    (withDefault [] "hitBreakpoints" (list string)).Reads
      (if ids.isEmpty then [] else [("hitBreakpoints", .array (ids.map .string))]) ids := by
  cases ids with
  | nil => exact reads_absent [] _ _
  | cons id rest => exact reads_field _ (decodes_list_self decodes_string (id :: rest))

theorem decodes (e : Paused) : decoder.Decodes e.toJson (e.mapValues Json.kept) :=
  (((((reads_field _ (decodes_list fun c (_ : c ∈ e.callFrames) => CallFrame.decodes c)).map _).seq
    (reads_field _ (PausedReason.decodes e.reason))).seq
    (reads_value _ e.data)).seq
    (reads_hitBreakpoints e.hitBreakpoints)).decodes (by decide) _

end Paused

theorem ScriptParsed.decodes (e : ScriptParsed) : decoder.Decodes e.toJson e :=
  ((((((((((reads_field _ (decodes_string e.scriptId)).map _).seq
    (reads_field _ (decodes_string e.url))).seq
    (reads_field _ (decodes_word e.startLine))).seq
    (reads_field _ (decodes_word e.startColumn))).seq
    (reads_field _ (decodes_word e.endLine))).seq
    (reads_field _ (decodes_word e.endColumn))).seq
    (reads_field _ (decodes_word e.executionContextId))).seq
    (reads_field _ (decodes_string e.hash))).seq
    (reads_field _ (decodes_word e.length))).decodes (by decide) _

theorem BreakpointResolved.decodes (e : BreakpointResolved) : decoder.Decodes e.toJson e :=
  (((reads_field _ (decodes_string e.breakpointId)).map _).seq
    (reads_field _ (Location.decodes e.location))).decodes (by decide) _

theorem decodes_empty : emptyDecoder.Decodes (.object []) () :=
  (reads_pure ()).decodes List.nodup_nil _

theorem ProtocolError.decodes (e : ProtocolError) : decoder.Decodes e.toJson e :=
  (((reads_field _ (decodes_signedWord e.code)).map _).seq
    (reads_field _ (decodes_string e.message))).decodes (by decide) _

end ScriptCache
