import ScriptCache.Codec.Encode
import ScriptCache.Codec.Decode

namespace ScriptCache

/-- What a source of bytes hands out, piece by piece. An empty piece is the end. -/
inductive ByteStream where
  | done
  | failed (cause : String)
  | piece (bytes : List UInt8) (rest : ByteStream)

namespace ByteStream

def readAll : ByteStream → Except CacheError (List UInt8)
  | done => .ok []
  | failed cause => .error (.io cause)
  | piece [] _ => .ok []
  | piece bytes rest => rest.readAll.map (bytes ++ ·)

def decode (s : ByteStream) (expected : UInt16) : Except CacheError Program := do
  Program.decode (← s.readAll) expected

end ByteStream

structure Sink where
  room : Nat
  accepted : List UInt8

namespace Sink

def full : CacheError :=
  .io "sink full"

def write (sink : Sink) (bytes : List UInt8) : Sink × Except CacheError Unit :=
  let taken := bytes.take sink.room
  (⟨sink.room - taken.length, sink.accepted ++ taken⟩,
    if bytes.length ≤ sink.room then .ok () else .error full)

end Sink

def Program.encodeTo (p : Program) (version : UInt16) (sink : Sink) :
    Sink × Except CacheError Unit :=
  sink.write (p.encode version)

end ScriptCache
