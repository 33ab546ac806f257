import ScriptCache.Files.FileTree
import ScriptCache.Settings.Form
import ScriptCache.Store.CacheStore
import ScriptCache.Text.Utf8
import ScriptCache.Toml.Document

namespace ScriptCache

inductive SettingsError where
  | notFound (path : String)
  | io (kind : IoKind)
  | notText
  | malformed (path : String)
  deriving DecidableEq, Repr

def SettingsError.message : SettingsError → String
  | .notFound path => "Config file not found: " ++ path
  | .io kind => kind.message
  | .notText => "stream did not contain valid UTF-8"
  | .malformed path => "Failed to parse " ++ path ++ ": TOML parse error"

namespace Settings

def fileNames : List String :=
  ["heron.toml", ".heronrc.toml"]

def ancestorsUpTo : Nat → String → List String
  | 0, dir => [dir]
  | n + 1, dir =>
      match Path.parent? dir with
      | some above => dir :: ancestorsUpTo n above
      | none => [dir]

def ancestors (dir : String) : List String :=
  ancestorsUpTo dir.length dir

variable {m : Type → Type} [Monad m]

def firstThere (files : Files m) : List String → m (Option String)
  | [] => return none
  | p :: rest => do
      if ← files.isThere p then return some p
      else firstThere files rest

def candidates (dir : String) : List String :=
  (ancestors dir).flatMap fun above => fileNames.map (Path.join above)

def find (files : Files m) : Option String → m (Except SettingsError (Option String))
  | some p => do
      return if ← files.isThere p then .ok (some p) else .error (.notFound p)
  | none => do
      return .ok (← firstThere files (candidates (← files.workingDirectory)))

/-- Takes a relative cache directory from the directory of the file that names it. -/
def placedBeside (path : String) (s : Settings) : Settings :=
  { s with cache.dir := Path.join ((Path.parent? path).getD "") s.cache.dir }

def ofBytes (path : String) (bytes : List UInt8) : Except SettingsError Settings := do
  match Text.ofUtf8? bytes with
  | none => .error .notText
  | some text =>
      match Toml.parse? text >>= Settings.ofToml? with
      | none => .error (.malformed path)
      | some s => return s.placedBeside path

def load (files : Files m) (path : Option String) : m (Except SettingsError Settings) := do
  match ← find files path with
  | .error e => return .error e
  | .ok none => return .ok .standard
  | .ok (some p) =>
      match ← files.read p with
      | .error kind => return .error (.io kind)
      | .ok bytes => return ofBytes p bytes

end Settings

/-- The path that the name of a cached program stands for: a path that leads somewhere, or an entry
of the cache directory by its full name or without the extension. -/
def CacheSettings.resolve {m : Type → Type} [Monad m] (s : CacheSettings) (files : Files m)
    (file : String) : m String := do
  let entry := Path.join s.dir file
  let withExtension := Path.withExtension entry CacheStore.extension
  if Path.isAbsolute file then return file
  else if ← files.isThere file then return file
  else if ← files.isThere entry then return entry
  else if ← files.isThere withExtension then return withExtension
  else return file

end ScriptCache
