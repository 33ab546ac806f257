import ScriptCache.Codec.Decode
import ScriptCache.Codec.Encode
import ScriptCache.Store.Directory

namespace ScriptCache

inductive StoreError where
  | io (kind : IoKind)
  | cache (e : CacheError)
  | compile (cause : String)
  deriving DecidableEq, Repr

def StoreError.compileMessage (cause : String) : String :=
  "compilation failed: " ++ cause

/-- Where writing an entry breaks off: before the directory is made, after so many bytes of the
temporary file, or before that file gets its name. -/
inductive StoreFault where
  | directory
  | writing (bytes : Nat)
  | renaming
  deriving DecidableEq, Repr

structure CacheStore where
  dir : String
  version : UInt16
  deriving DecidableEq, Repr

namespace CacheStore

def extension : String :=
  "hbc"

def entryName (source : Source) : String :=
  source.key ++ "." ++ extension

def temporaryName (source : Source) (tag : String) : String :=
  source.key ++ ".tmp." ++ tag

def matchesSource (p : Program) (source : Source) : Bool :=
  p.source.name == source.name && p.source.text == source.text

def load (store : CacheStore) (d : Directory) (source : Source) :
    Directory × Except StoreError (Option Program) :=
  match d.read (entryName source) with
  | .error .notFound => (d, .ok none)
  | .error kind => (d, .error (.io kind))
  | .ok bytes =>
      match Program.decode bytes store.version with
      | .ok p => (d, .ok (if matchesSource p source then some p else none))
      | .error e =>
          if e.isRecoverable then (d.remove (entryName source), .ok none)
          else (d, .error (.cache e))

/-- Writes the entry to a temporary file, which then gets the name of the entry. A temporary file
that cannot be named is removed; one that cannot be written stays. -/
def store (store : CacheStore) (tag : String) (fault : Option StoreFault) (d : Directory)
    (p : Program) : Directory × Except StoreError String :=
  let temporary := temporaryName p.source tag
  let target := entryName p.source
  let bytes := p.encode store.version
  if fault = some .directory then (d, .error (.io .interrupted))
  else match d.create with
    | .error kind => (d, .error (.io kind))
    | .ok entries =>
        match fault with
        | some (.writing n) =>
            match entries.write temporary (bytes.take n) with
            | .error kind => (.holding entries, .error (.io kind))
            | .ok partly => (.holding partly, .error (.io .interrupted))
        | fault =>
            match entries.write temporary bytes with
            | .error kind => (.holding entries, .error (.io kind))
            | .ok written =>
                if fault = some .renaming then
                  (.holding (written.erase temporary), .error (.io .interrupted))
                else match written.rename temporary target with
                  | .error kind => (.holding (written.erase temporary), .error (.io kind))
                  | .ok renamed => (.holding renamed, .ok target)

/-- Loads the program of a source, or else compiles and stores it. Failing to store it does not
matter. -/
def loadOrCompile {τ : Type} (store : CacheStore) (tag : String) (fault : Option StoreFault)
    (compile : Source → StateM τ (Except String Program)) (d : Directory) (source : Source) :
    StateM τ (Directory × Except StoreError Program) := do
  match store.load d source with
  | (d, .error e) => return (d, .error e)
  | (d, .ok (some p)) => return (d, .ok p)
  | (d, .ok none) =>
      match ← compile source with
      | .error cause => return (d, .error (.compile cause))
      | .ok p => return ((store.store tag fault d p).1, .ok p)

end CacheStore

end ScriptCache
