import ScriptCache.Files.Entry

namespace ScriptCache

/-- Entries by name, in ascending order of the names. -/
abbrev Catalog := List (String × Entry)

namespace Catalog

def get? (c : Catalog) (name : String) : Option Entry :=
  List.lookup name c

def put (name : String) (e : Entry) : Catalog → Catalog
  | [] => [(name, e)]
  | (other, x) :: rest =>
      if name < other then (name, e) :: (other, x) :: rest
      else if name = other then (name, e) :: rest
      else (other, x) :: put name e rest

def erase (c : Catalog) (name : String) : Catalog :=
  c.filter fun entry => entry.1 != name

end Catalog

inductive Directory where
  | absent
  | file
  | holding (entries : Catalog)
  deriving DecidableEq, Repr

namespace Directory

def read (d : Directory) (name : String) : Except IoKind (List UInt8) :=
  match d with
  | .absent => .error .notFound
  | .file => .error .notADirectory
  | .holding entries =>
      match entries.get? name with
      | none => .error .notFound
      | some entry => entry.read

def create : Directory → Except IoKind Catalog
  | .absent => .ok []
  | .file => .error .alreadyExists
  | .holding entries => .ok entries

def remove (d : Directory) (name : String) : Directory :=
  match d with
  | .holding entries => .holding (entries.erase name)
  | d => d

end Directory

namespace Catalog

def write (c : Catalog) (name : String) (bytes : List UInt8) : Except IoKind Catalog :=
  match c.get? name with
  | some .directory => .error .isADirectory
  | _ => .ok (c.put name (.file bytes))

def rename (c : Catalog) (source target : String) : Except IoKind Catalog :=
  match c.get? source, c.get? target with
  | none, _ => .error .notFound
  | some _, some .directory => .error .isADirectory
  | some e, _ => .ok ((c.erase source).put target e)

end Catalog

end ScriptCache
