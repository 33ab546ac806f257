import ScriptCache.Codec.Format
import ScriptCache.Inspector.Listener
import ScriptCache.Toml.Value

namespace ScriptCache

structure CacheSettings where
  dir : String
  formatVersion : UInt16
  deriving DecidableEq, Repr

structure InspectorSettings where
  host : String
  port : UInt16
  deriving DecidableEq, Repr

structure Settings where
  cache : CacheSettings
  inspector : InspectorSettings
  deriving DecidableEq, Repr

def CacheSettings.standard : CacheSettings where
  dir := ".heron-cache"
  formatVersion := Format.defaultVersion

def InspectorSettings.standard : InspectorSettings where
  host := Listener.defaultHost
  port := Listener.defaultPort

def Settings.standard : Settings where
  cache := .standard
  inspector := .standard

namespace Toml

def asText : Toml → Option String
  | .string s => some s
  | _ => none

def asWord : Toml → Option UInt16
  | .integer n => if 0 ≤ n ∧ n.toNat < UInt16.size then some (UInt16.ofNat n.toNat) else none
  | _ => none

/-- The fields of a section by name and place. A section may also be a list of the values of its
first fields; a time has none of the fields. -/
def section? : Toml → Option (String → Nat → Option Toml)
  | .table _ fields => some fun name _ => fields.lookup name
  | .array items | .tables items => some fun _ place => items[place]?
  | .dateTime _ => some fun _ _ => none
  | _ => none

def given {α : Type} (read : Toml → Option α) (default : α) : Option Toml → Option α
  | some v => read v
  | none => some default

end Toml

def CacheSettings.ofToml? (t : Toml) : Option CacheSettings := do
  let field ← t.section?
  return {
    dir := ← Toml.given Toml.asText standard.dir (field "dir" 0)
    formatVersion := ← Toml.given Toml.asWord standard.formatVersion (field "format_version" 1) }

def InspectorSettings.ofToml? (t : Toml) : Option InspectorSettings := do
  let field ← t.section?
  return {
    host := ← Toml.given Toml.asText standard.host (field "host" 0)
    port := ← Toml.given Toml.asWord standard.port (field "port" 1) }

def Settings.ofToml? (fields : Toml.Fields) : Option Settings := do
  return {
    cache := ← Toml.given CacheSettings.ofToml? .standard (fields.lookup "cache")
    inspector := ← Toml.given InspectorSettings.ofToml? .standard (fields.lookup "inspector") }

end ScriptCache
