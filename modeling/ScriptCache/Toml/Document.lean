import ScriptCache.Toml.Lexeme

namespace ScriptCache.Toml.Document

open Lexeme
open Text (Front)
open Text.Front (attempt char chars many separated)

def array (value : Front Toml) : Front Toml := do
  char '['
  let items ← attempt do
    let items ← separated
      (do
        gap
        let v ← value
        gap
        return v)
      (char ',')
    let _ ← attempt (char ',')
    return items
  gap
  char ']'
  return .array (items.getD [])

def entry (value : Front Toml) : Front (KeyPath × Toml) := do
  let key ← keyPath
  char '='
  blanks
  return (key, ← value)

def inlineTable (value : Front Toml) : Front Toml := do
  char '\x7b'
  let entries ← attempt (separated
    (do
      let e ← entry value
      blanks
      return e)
    (char ','))
  blanks
  char '\x7d'
  let add := fun fields (e : KeyPath × Toml) => Fields.define e.1 e.2 .inline fields
  match (entries.getD []).foldlM add [] with
  | some fields => return .table .inline fields
  | none => failure

def scalar : Front Toml :=
  (do return .string (← text)) <|>
  (do return .dateTime (← DateTime.read)) <|>
  (do return .float (← Lexeme.float)) <|>
  (do return .integer (← Lexeme.integer)) <|>
  (do return .boolean (← Lexeme.boolean))

/-- A value that holds at most so many levels of arrays and inline tables. -/
def value : (room : Nat) → Front Toml
  | 0 => scalar
  | room + 1 => scalar <|> array (value room) <|> inlineTable (value room)

inductive Line where
  | empty
  | header (place : KeyPath)
  | item (place : KeyPath)
  | entry (place : KeyPath) (v : Toml)

def headerLine : Front Line := do
  char '['
  let place ← keyPath
  char ']'
  lineEnd
  return .header place

def itemLine : Front Line := do
  chars ['[', '[']
  let place ← keyPath
  chars [']', ']']
  lineEnd
  return .item place

def entryLine : Front Line := do
  let (place, v) ← entry (value maxNesting)
  lineEnd
  return .entry place v

def emptyLine : Front Line := do
  newline <|> (do comment; newline <|> Front.atEnd)
  return .empty

def line : Front Line := do
  let line ← itemLine <|> headerLine <|> emptyLine <|> entryLine
  blanks
  return line

def lines : Front (List Line) := do
  let _ ← attempt (char '\uFEFF')
  blanks
  many line

structure Reading where
  fields : Fields
  current : List String

namespace Reading

def add (r : Reading) : Line → Option Reading
  | .empty => some r
  | .header place => do
      return ⟨← r.fields.openTable place .header, place.path ++ [place.key]⟩
  | .item place => do
      return ⟨← r.fields.appendTable place .header, place.path ++ [place.key]⟩
  | .entry place v => do
      return { r with
        fields := ← Fields.within false (Fields.define place v) r.current .header r.fields }

end Reading

end ScriptCache.Toml.Document

namespace ScriptCache.Toml

def parse? (text : String) : Option Fields := do
  let lines ← Document.lines.parseAll? text
  return (← lines.foldlM Document.Reading.add ⟨[], []⟩).fields

end ScriptCache.Toml
