import ScriptCache.Inspector.Schema.Write
import ScriptCache.Json.Choice
import ScriptCache.Json.Record

namespace ScriptCache

open Record (required withDefault optional)

namespace Unserializable

def all : List Unserializable :=
  [.infinity, .notANumber, .negativeInfinity, .negativeZero]

def decoder : Decoder Unserializable :=
  Choice.plain (all.map fun u => (u.name, u))

end Unserializable

namespace ObjectKind

def all : List ObjectKind :=
  [.object, .function, .undefined, .string, .number, .boolean, .symbol]

def decoder : Decoder ObjectKind :=
  Choice.plain (all.map fun k => (k.name, k))

end ObjectKind

namespace ObjectSubtype

def all : List ObjectSubtype :=
  [.array, .null, .regexp, .date, .map, .set, .weakmap, .weakset, .iterator, .generator, .error,
    .proxy, .promise, .typedarray]

def decoder : Decoder ObjectSubtype :=
  Choice.plain (all.map fun s => (s.name, s))

end ObjectSubtype

namespace ScopeKind

def all : List ScopeKind :=
  [.global, .local_, .with_, .closure, .catch_, .block, .script, .eval, .module_]

def decoder : Decoder ScopeKind :=
  Choice.plain (all.map fun k => (k.name, k))

end ScopeKind

namespace BreakKind

def all : List BreakKind :=
  [.debuggerStatement, .call, .return_]

def decoder : Decoder BreakKind :=
  Choice.plain (all.map fun k => (k.name, k))

end BreakKind

namespace ExceptionPause

def states : List ExceptionPause :=
  [.none, .uncaught, .all]

def decoder : Decoder ExceptionPause :=
  Choice.plain (states.map fun s => (s.name, s))

end ExceptionPause

namespace PausedReason

def all : List PausedReason :=
  [.exception, .assert, .debugCommand, .promiseRejection, .other, .ambiguous]

def decoder : Decoder PausedReason :=
  Choice.plain (all.map fun r => (r.name, r))

end PausedReason

def RemoteObject.decoder : Decoder RemoteObject :=
  Record.decoder "struct RemoteObject" <|
    RemoteObject.mk <$> required "type" ObjectKind.decoder <*>
      optional "subtype" ObjectSubtype.decoder <*>
      optional "className" Decoder.string <*>
      optional "value" Decoder.value <*>
      optional "unserializableValue" Unserializable.decoder <*>
      optional "description" Decoder.string <*>
      optional "objectId" Decoder.string

def Property.decoder : Decoder Property :=
  Record.decoder "struct PropertyDescriptor" <|
    Property.mk <$> required "name" Decoder.string <*>
      optional "value" RemoteObject.decoder <*>
      withDefault false "writable" Decoder.bool <*>
      optional "get" RemoteObject.decoder <*>
      optional "set" RemoteObject.decoder <*>
      required "configurable" Decoder.bool <*>
      required "enumerable" Decoder.bool <*>
      withDefault false "isOwn" Decoder.bool

def CallArgument.decoder : Decoder CallArgument :=
  Record.decoder "struct CallArgument" <|
    CallArgument.mk <$> optional "value" Decoder.value <*>
      optional "unserializableValue" Unserializable.decoder <*>
      optional "objectId" Decoder.string

def StackFrame.decoder : Decoder StackFrame :=
  Record.decoder "struct CallFrame" <|
    StackFrame.mk <$> required "functionName" Decoder.string <*>
      required "scriptId" Decoder.string <*> required "url" Decoder.string <*>
      required "lineNumber" Decoder.word <*> required "columnNumber" Decoder.word

def StackTrace.decoder : Decoder StackTrace :=
  Record.decoder "struct StackTrace" <|
    StackTrace.mk <$> optional "description" Decoder.string <*>
      required "callFrames" (Decoder.list StackFrame.decoder)

def ExceptionDetails.decoder : Decoder ExceptionDetails :=
  Record.decoder "struct ExceptionDetails" <|
    ExceptionDetails.mk <$> required "exceptionId" Decoder.word <*>
      required "text" Decoder.string <*> required "lineNumber" Decoder.word <*>
      required "columnNumber" Decoder.word <*> optional "scriptId" Decoder.string <*>
      optional "url" Decoder.string <*> optional "stackTrace" StackTrace.decoder <*>
      optional "exception" RemoteObject.decoder

def Location.decoder : Decoder Location :=
  Record.decoder "struct Location" <|
    Location.mk <$> required "scriptId" Decoder.string <*>
      required "lineNumber" Decoder.word <*> withDefault 0 "columnNumber" Decoder.word

def ScriptPosition.decoder : Decoder ScriptPosition :=
  Record.decoder "struct ScriptPosition" <|
    ScriptPosition.mk <$> required "lineNumber" Decoder.word <*>
      required "columnNumber" Decoder.word

def Scope.decoder : Decoder Scope :=
  Record.decoder "struct Scope" <|
    Scope.mk <$> required "type" ScopeKind.decoder <*>
      required "object" RemoteObject.decoder <*> optional "name" Decoder.string <*>
      optional "startLocation" Location.decoder <*> optional "endLocation" Location.decoder

def CallFrame.decoder : Decoder CallFrame :=
  Record.decoder "struct CallFrame" <|
    CallFrame.mk <$> required "callFrameId" Decoder.string <*>
      required "functionName" Decoder.string <*>
      optional "functionLocation" Location.decoder <*>
      required "location" Location.decoder <*> required "url" Decoder.string <*>
      required "scopeChain" (Decoder.list Scope.decoder) <*>
      required "this" RemoteObject.decoder <*> optional "returnValue" RemoteObject.decoder

def BreakLocation.decoder : Decoder BreakLocation :=
  Record.decoder "struct BreakLocation" <|
    BreakLocation.mk <$> required "scriptId" Decoder.string <*>
      required "lineNumber" Decoder.word <*> required "columnNumber" Decoder.word <*>
      optional "type" BreakKind.decoder

def Paused.decoder : Decoder Paused :=
  Record.decoder "struct PausedEvent" <|
    Paused.mk <$> required "callFrames" (Decoder.list CallFrame.decoder) <*>
      required "reason" PausedReason.decoder <*> optional "data" Decoder.value <*>
      withDefault [] "hitBreakpoints" (Decoder.list Decoder.string)

def ScriptParsed.decoder : Decoder ScriptParsed :=
  Record.decoder "struct ScriptParsedEvent" <|
    ScriptParsed.mk <$> required "scriptId" Decoder.string <*> required "url" Decoder.string <*>
      required "startLine" Decoder.word <*> required "startColumn" Decoder.word <*>
      required "endLine" Decoder.word <*> required "endColumn" Decoder.word <*>
      required "executionContextId" Decoder.word <*> required "hash" Decoder.string <*>
      required "length" Decoder.word

def BreakpointResolved.decoder : Decoder BreakpointResolved :=
  Record.decoder "struct BreakpointResolvedEvent" <|
    BreakpointResolved.mk <$> required "breakpointId" Decoder.string <*>
      required "location" Location.decoder

def emptyDecoder : Decoder Unit :=
  Record.decoder "struct Empty" (pure ())

namespace Event

inductive Tag where
  | paused
  | resumed
  | scriptParsed
  | breakpointResolved
  deriving DecidableEq, Repr

def Tag.names : List (String × Tag) :=
  [("Debugger.paused", .paused), ("Debugger.resumed", .resumed),
    ("Debugger.scriptParsed", .scriptParsed),
    ("Debugger.breakpointResolved", .breakpointResolved)]

def Tag.decoder : Decoder Tag :=
  Choice.plain Tag.names

/-- The tag of an event that is given as a list is its name and nothing else. -/
def Tag.listed : Decoder Tag := fun origin d =>
  match d with
  | .string _ => Tag.decoder origin d
  | d => Decoder.wrongType d "variant identifier"

def Tag.params : Tag → Decoder Event
  | .paused => Decoder.map .paused Paused.decoder
  | .resumed => Decoder.map (fun _ => .resumed) emptyDecoder
  | .scriptParsed => Decoder.map .scriptParsed ScriptParsed.decoder
  | .breakpointResolved => Decoder.map .breakpointResolved BreakpointResolved.decoder

def title : String :=
  "adjacently tagged enum Event"

def given (name : String) (fields : List (Option String × Draft)) : Except ReadError Draft :=
  match fields.find? fun field => field.1 == some name with
  | some field => .ok field.2
  | none => Decoder.misfit (.missingField name)

def decoder : Decoder Event := fun origin d =>
  match d with
  | .object fields _ => do
      let tag ← Tag.decoder origin (← given "method" fields)
      tag.params origin (← given "params" fields)
  | .array [] _ => Decoder.misfit (.wrongLength 0 title)
  | .array (first :: rest) _ => do
      let tag ← Tag.listed origin first
      match rest with
      | [] => Decoder.misfit (.wrongLength 1 title)
      | second :: more =>
          let e ← tag.params origin second
          if more.isEmpty then return e
          else throw (Record.surplus origin 2 (more.length + 2))
  | d => Decoder.wrongType d title

end Event

def drainedDecoder : Decoder (List Event) :=
  Record.decoder "struct DrainEventsResult" <|
    id <$> required "events" (Decoder.list Event.decoder)

def ProtocolError.decoder : Decoder ProtocolError :=
  Record.decoder "struct ProtocolError" <|
    ProtocolError.mk <$> required "code" Decoder.signedWord <*>
      required "message" Decoder.string

def Request.decoder : Decoder Request :=
  Record.decoder "struct Request" <|
    Request.mk <$> required "id" Decoder.long <*> required "method" Decoder.string <*>
      withDefault .null "params" Decoder.value

namespace Outcome

def decoder : Decoder Outcome :=
  Choice.decoder
    [("result", .holding (Decoder.map .result Decoder.value)),
      ("error", .holding (Decoder.map .error ProtocolError.decoder))]

/-- The outcome stands among the fields of a response; the first of the two names counts. -/
def ofFields : List (Option String × Draft) → Except ReadError Outcome
  | [] => Decoder.misfit .noOutcome
  | (some "result", d) :: _ => Decoder.map .result Decoder.value .setAside d
  | (some "error", d) :: _ => Decoder.map .error ProtocolError.decoder .setAside d
  | _ :: rest => ofFields rest

end Outcome

namespace Response

def idOf (origin : Origin) (fields : List (Option String × Draft)) :
    Except ReadError (Option UInt64) :=
  match fields.find? fun field => field.1 == some "id" with
  | some field => Decoder.optional Decoder.long origin field.2
  | none => .ok none

def decoder : Decoder Response := fun origin d =>
  match d with
  | .object fields _ => do
      let id ← idOf origin fields
      return ⟨id, ← Outcome.ofFields fields⟩
  | d => Decoder.wrongType d "struct Response"

end Response

def Decoder.run {α : Type} (read : Decoder α) (v : Json) : Except ReadError α :=
  read .whole (Draft.ofJson v)

end ScriptCache
