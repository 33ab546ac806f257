import ScriptCache.Files.Entry
import ScriptCache.Files.Path

namespace ScriptCache

structure Files (m : Type → Type) where
  look : String → m (Except IoKind Entry)
  workingDirectory : m String

namespace Files

variable {m : Type → Type} [Monad m]

def isThere (files : Files m) (p : String) : m Bool := do
  match ← files.look p with
  | .ok _ | .error .permissionDenied => return true
  | .error _ => return false

def read (files : Files m) (p : String) : m (Except IoKind (List UInt8)) := do
  match ← files.look p with
  | .ok entry => return entry.read
  | .error kind => return .error kind

end Files

/-- Files and directories by the names on the way to them from the root. The directories on the way
to an entry are there too. -/
structure FileTree where
  entries : List (List String × Entry)
  workingDirectory : List String

namespace FileTree

def at? (t : FileTree) (place : List String) : Option Entry :=
  match t.entries.lookup place with
  | some entry => some entry
  | none =>
      if place.isPrefixOf t.workingDirectory || t.entries.any fun e => place.isPrefixOf e.1 then
        some .directory
      else none

def maxNameLength : Nat :=
  255

def maxPathLength : Nat :=
  4095

def follow (t : FileTree) (place : List String) : List String → Except IoKind Entry
  | [] => (t.at? place).elim (.error .notFound) .ok
  | name :: rest =>
      match t.at? place with
      | none => .error .notFound
      | some (.file _) => .error .notADirectory
      | some .directory =>
          if name = "" ∨ name = "." then follow t place rest
          else if name = ".." then follow t place.dropLast rest
          else if maxNameLength < name.utf8ByteSize then .error .nameTooLong
          else follow t (place ++ [name]) rest

def look (t : FileTree) (p : String) : Except IoKind Entry :=
  let names := (Path.names p.toList).map String.ofList
  if p.contains '\x00' then .error .nulInName
  else if p.isEmpty then .error .notFound
  else if maxPathLength < p.utf8ByteSize then .error .nameTooLong
  else t.follow (if Path.isAbsolute p then [] else t.workingDirectory) names

def files (t : FileTree) : Files Id where
  look := t.look
  workingDirectory := "/" ++ "/".intercalate t.workingDirectory

end FileTree

end ScriptCache
