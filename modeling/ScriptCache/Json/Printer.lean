import ScriptCache.Json.Value
import ScriptCache.Numeric.FloatText
import ScriptCache.Text.Quoted

namespace ScriptCache.Json

def floatText : FloatText where
  tie := .even
  wholeMark := ".0"
  positional := some (-5, 16)
  plus := "+"
  notANumber := "null"
  infinite := "null"

def numberText : JsonNumber → String
  | .whole n => toString n
  | .float x => if x.isFinite then floatText.render x else "null"

def controlEscape (c : Char) : List Char :=
  ['\\', 'u', '0', '0'] ++
    [c.toNat / 16, c.toNat % 16].flatMap fun d => Text.hexDigits d

def escape (c : Char) : List Char :=
  match c with
  | '"' => ['\\', '"']
  | '\\' => ['\\', '\\']
  | '\n' => ['\\', 'n']
  | '\r' => ['\\', 'r']
  | '\t' => ['\\', 't']
  | '\x08' => ['\\', 'b']
  | '\x0c' => ['\\', 'f']
  | c => if c.toNat < 32 then controlEscape c else [c]

def stringText (s : String) : String :=
  String.ofList ('"' :: s.toList.flatMap escape ++ ['"'])

mutual

def compact : Json → String
  | .null => "null"
  | .bool b => if b then "true" else "false"
  | .number n => numberText n
  | .string s => stringText s
  | .array items => "[" ++ ",".intercalate (compactItems items) ++ "]"
  | .object fields => "\x7b" ++ ",".intercalate (compactFields fields) ++ "\x7d"

def compactItems : List Json → List String
  | [] => []
  | v :: rest => compact v :: compactItems rest

def compactFields : List (String × Json) → List String
  | [] => []
  | (name, v) :: rest => (stringText name ++ ":" ++ compact v) :: compactFields rest

end

def lineStart (level : Nat) : String :=
  "\n" ++ String.ofList (List.replicate (2 * level) ' ')

def block (opening closing : String) (level : Nat) (items : List String) : String :=
  match items with
  | [] => opening ++ closing
  | items =>
      opening ++ ",".intercalate (items.map (lineStart (level + 1) ++ ·)) ++
        lineStart level ++ closing

mutual

def indented (level : Nat) : Json → String
  | .null => "null"
  | .bool b => if b then "true" else "false"
  | .number n => numberText n
  | .string s => stringText s
  | .array items => block "[" "]" level (indentedItems (level + 1) items)
  | .object fields => block "\x7b" "\x7d" level (indentedFields (level + 1) fields)

def indentedItems (level : Nat) : List Json → List String
  | [] => []
  | v :: rest => indented level v :: indentedItems level rest

def indentedFields (level : Nat) : List (String × Json) → List String
  | [] => []
  | (name, v) :: rest =>
      (stringText name ++ ": " ++ indented level v) :: indentedFields level rest

end

def pretty (v : Json) : String :=
  indented 0 v

end ScriptCache.Json
