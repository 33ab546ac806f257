import ScriptCache.Bytecode.Document.Write
import ScriptCache.Bytecode.Listing
import ScriptCache.Bytecode.References
import ScriptCache.Codec.Decode
import ScriptCache.Json.Printer
import ScriptCache.Settings.Load
import ScriptCache.Tool.Usage

namespace ScriptCache.Tool

structure Outcome where
  exit : Nat
  stdout : String
  stderr : String
  deriving DecidableEq, Repr

/-- Why a command fails: what it was about to do, and the causes, the nearest first. -/
structure Failure where
  message : String
  causes : List String
  deriving DecidableEq, Repr

namespace Failure

def movedIn (indent text : String) : String :=
  String.ofList (text.toList.flatMap fun c => if c = '\n' then '\n' :: indent.toList else [c])

def numbered (causes : List String) : String :=
  String.join (causes.mapIdx fun i cause =>
    "\n    " ++ toString i ++ ": " ++ movedIn "       " cause)

def causeText : List String → String
  | [] => ""
  | [cause] => "\n\nCaused by:\n    " ++ movedIn "    " cause
  | causes => "\n\nCaused by:" ++ numbered causes

def text (f : Failure) : String :=
  "Error: " ++ f.message ++ causeText f.causes ++ "\n"

end Failure

namespace Outcome

def printed (s : String) : Outcome :=
  ⟨0, s, ""⟩

def ofResult : Except Failure String → Outcome
  | .ok s => printed s
  | .error f => ⟨1, "", f.text⟩

end Outcome

/-- The magic number as it is shown: as many hexadecimal digits as it has bytes for. -/
def magicText : String :=
  "0x" ++ String.ofList (Nat.toDigits 16 Format.magicNumber)

def headerReport (path : String) (found expected : UInt16) : String :=
  let state := if found = expected then "current" else "stale"
  "file:    " ++ path ++ "\n" ++
  "magic:   " ++ magicText ++ "\n" ++
  "version: " ++ toString found.toNat ++ " (" ++ state ++ ", expecting " ++
    toString expected.toNat ++ ")\n"

structure Totals where
  functions : Nat
  instructions : Nat
  constants : Nat
  deriving DecidableEq, Repr

def Totals.of (p : Program) : Totals where
  functions := p.functions.length
  instructions := (p.functions.flatMap fun f => f.code).length
  constants := (p.functions.flatMap fun f => f.constants).length

def verifyReport (path : String) (t : Totals) : String :=
  "ok: " ++ path ++ " (" ++ toString t.functions ++ " functions, " ++ toString t.instructions ++
    " instructions, " ++ toString t.constants ++ " constants)\n"

def dumpReport (json : Bool) (p : Program) : String :=
  if json then p.toJson.pretty ++ "\n"
  else "; source: " ++ p.source.name ++ "\n" ++ p.listing

def inspectReport (path script : String) (l : Listener) : String :=
  "Inspecting " ++ path ++ " as script " ++ script ++ " on http://" ++ l.address.text ++ "/\n" ++
    "Press Ctrl-C to stop.\n"

def reading (path : String) (read : Except IoKind (List UInt8)) : Except Failure (List UInt8) :=
  match read with
  | .ok bytes => .ok bytes
  | .error kind => .error ⟨"Failed to read " ++ path, [kind.message]⟩

def decoding (path : String) (bytes : List UInt8) (version : UInt16) : Except Failure Program :=
  match Program.decode bytes version with
  | .ok p => .ok p
  | .error e => .error ⟨"Failed to decode " ++ path, [e.message]⟩

def header (path : String) (expected : UInt16) (bytes : List UInt8) : Except Failure String :=
  match Decode.version bytes with
  | .ok found => .ok (headerReport path found expected)
  | .error e => .error ⟨"Failed to read header of " ++ path, [e.message]⟩

def verify (path : String) (p : Program) : Except Failure String :=
  match p.referenceError? with
  | none => .ok (verifyReport path (Totals.of p))
  | some e => .error ⟨path ++ " has broken references", [e.message]⟩

def inspect (bind : SocketAddress → Except IoKind SocketAddress) (path host : String)
    (port : UInt16) (p : Program) : Except Failure String :=
  let (_, script) := Session.initial.register p
  match Listener.start bind host port with
  | .ok l => .ok (inspectReport path script l)
  | .error e => .error ⟨"Failed to start inspector", e.message :: e.cause?.toList⟩

def act (bind : SocketAddress → Except IoKind SocketAddress) (s : Settings) (path : String)
    (bytes : List UInt8) (action : Action) : Except Failure String := do
  let configured := s.cache.formatVersion
  match action with
  | .header => header path configured bytes
  | .verify version => verify path (← decoding path bytes (version.getD configured))
  | .dump json version =>
      return dumpReport json (← decoding path bytes (version.getD configured))
  | .inspect host port version =>
      inspect bind path (host.getD s.inspector.host) (port.getD s.inspector.port)
        (← decoding path bytes (version.getD configured))

variable {m : Type → Type} [Monad m]

def perform (bind : SocketAddress → Except IoKind SocketAddress) (files : Files m)
    (i : Invocation) : m (Except Failure String) := do
  match ← Settings.load files i.config with
  | .error e => return .error ⟨e.message, []⟩
  | .ok s =>
      let path ← s.cache.resolve files i.file
      let bytes ← files.read path
      return do act bind s path (← reading path bytes) i.action

/-- What the tool does with its arguments: it prints on one of the two streams and exits with zero,
with one if a command fails, or with two if the arguments are wrong. -/
def run (bind : SocketAddress → Except IoKind SocketAddress) (files : Files m)
    (args : List String) : m Outcome := do
  match parse args with
  | .error misuse => return ⟨2, "", misuseText misuse⟩
  | .ok .version => return .printed versionText
  | .ok (.help topic) => return .printed (helpText topic)
  | .ok (.perform i) => return .ofResult (← perform bind files i)

end ScriptCache.Tool
