import ScriptCache.Files.Entry
import ScriptCache.Inspector.Dispatch
import ScriptCache.Inspector.SocketAddress
import ScriptCache.Json.Printer

namespace ScriptCache

inductive ListenerError where
  | io (kind : IoKind)
  | address
  | alreadyStopped
  deriving DecidableEq, Repr

namespace ListenerError

def cause? : ListenerError → Option String
  | .io kind => some kind.message
  | .address => some "invalid socket address syntax"
  | .alreadyStopped => none

def message : ListenerError → String
  | .io kind => "IO error: " ++ kind.message
  | .address => "Address parse error: invalid socket address syntax"
  | .alreadyStopped => "Inspector already stopped"

end ListenerError

structure HttpRequest where
  method : String
  target : String
  body : List UInt8

structure HttpReply where
  status : Nat
  allow : Option String
  contentType : Option String
  body : String
  deriving DecidableEq, Repr

def HttpRequest.path (r : HttpRequest) : String :=
  String.ofList (r.target.toList.takeWhile fun c => c != '?' && c != '#')

structure Listener where
  address : SocketAddress
  running : Bool
  deriving DecidableEq, Repr

namespace Listener

def defaultHost : String :=
  "127.0.0.1"

def defaultPort : UInt16 :=
  9922

/-- Starts listening at a host and port. Binding an address gives the one that is in use then. -/
def start (bind : SocketAddress → Except IoKind SocketAddress) (host : String) (port : UInt16) :
    Except ListenerError Listener :=
  match SocketAddress.parse? (host ++ ":" ++ toString port.toNat) with
  | none => .error .address
  | some address =>
      match bind address with
      | .ok bound => .ok ⟨bound, true⟩
      | .error kind => .error (.io kind)

def stop (l : Listener) : Except ListenerError Listener :=
  if l.running then .ok { l with running := false } else .error .alreadyStopped

def plain (status : Nat) (allow : Option String) (body : String) : HttpReply :=
  ⟨status, allow, none, body⟩

def serve {σ : Type} (host : Host σ) (s : Session) (r : HttpRequest) :
    StateM σ (Session × HttpReply) := do
  if r.path != "/" then return (s, plain 404 none "Not Found")
  else if r.method != "POST" then return (s, plain 405 (some "POST") "Method Not Allowed")
  else
    let (s, response) ← s.handleMessage host r.body
    return (s, ⟨200, none, some "application/json", response.toJson.compact⟩)

end Listener

end ScriptCache
