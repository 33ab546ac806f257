import ScriptCache.Bytecode.Program
import ScriptCache.Inspector.Event

namespace ScriptCache

def insertAscending (n : UInt32) : List UInt32 → List UInt32
  | [] => [n]
  | m :: rest =>
      if n < m then n :: m :: rest
      else if n = m then m :: rest
      else m :: insertAscending n rest

def Program.mappedOffsets (p : Program) : List UInt32 :=
  p.functions.flatMap fun q => q.sourceMap.map SourceMapEntry.pos

def Program.stops (p : Program) : List UInt32 :=
  p.mappedOffsets.foldr insertAscending []

structure Script where
  id : ScriptId
  source : Source
  stops : List UInt32
  deriving DecidableEq, Repr

namespace Script

def ofProgram (id : ScriptId) (p : Program) : Script :=
  ⟨id, p.source, p.stops⟩

def location (s : Script) (offset : UInt32) : Location :=
  let p := s.source.position offset
  ⟨s.id, p.line - 1, p.column - 1⟩

def resolve? (s : Script) (p : Position) : Option UInt32 := do
  let offset ← s.source.offsetOf? p
  s.stops.find? fun stop => offset ≤ stop

def offsetOrEnd (s : Script) (p : Position) : UInt32 :=
  (s.source.offsetOf? p).getD s.source.size

def parsed (s : Script) : ScriptParsed where
  scriptId := s.id
  url := s.source.name
  startLine := 0
  startColumn := 0
  endLine := UInt32.ofNat (s.source.lineOffsets.length - 1)
  endColumn := UInt32.ofNat (s.source.size.toNat - (s.source.lineOffsets.getLast?.getD 0).toNat)
  executionContextId := 1
  hash := s.source.key
  length := s.source.size

end Script

end ScriptCache
