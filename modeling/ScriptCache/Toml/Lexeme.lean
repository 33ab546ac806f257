import ScriptCache.Text.Front
import ScriptCache.Toml.Value

namespace ScriptCache.Toml.Lexeme

open Text (Front isDigitIn ofDigits)
open Text.Front (any attempt char chars exactly many satisfying separated some_ while_)

def isBlank (c : Char) : Bool :=
  c == ' ' || c == '\t'

/-- Characters that a comment may hold: of the control characters, only the tab. -/
def isPlain (c : Char) : Bool :=
  c == '\t' || 32 ≤ c.toNat && c != '\x7f'

def blanks : Front Unit := do
  let _ ← while_ isBlank

def newline : Front Unit :=
  char '\n' <|> chars ['\r', '\n']

def comment : Front Unit := do
  char '#'
  let _ ← while_ isPlain

def lineEnd : Front Unit := do
  blanks
  let _ ← attempt comment
  newline <|> Front.atEnd

def gap : Front Unit := do
  blanks
  let _ ← many do
    let _ ← attempt comment
    newline
    blanks

def codePoint (digits : Nat) : Front Char := do
  let n := ofDigits 16 (← exactly (isDigitIn 16) digits)
  if n.isValidChar then return Char.ofNat n else failure

def escaped : Front Char := do
  char '\\'
  match ← any with
  | 'b' => return '\x08'
  | 't' => return '\t'
  | 'n' => return '\n'
  | 'f' => return '\x0c'
  | 'r' => return '\r'
  | '"' => return '"'
  | '\\' => return '\\'
  | 'u' => codePoint 4
  | 'U' => codePoint 8
  | _ => failure

def quoted : Front (List Char) := do
  char '"'
  let cs ← many (satisfying (fun c => isPlain c && c != '"' && c != '\\') <|> escaped)
  char '"'
  return cs

def literal : Front (List Char) := do
  char '\''
  let cs ← while_ fun c => isPlain c && c != '\''
  char '\''
  return cs

/-- A backslash at the end of a line, which hides the white space up to the next text. -/
def continuation : Front Unit := do
  char '\\'
  blanks
  newline
  let _ ← many (newline <|> do let _ ← satisfying isBlank)

/-- The three closing quotes of a string of several lines, with up to two quotes of the string
before them. -/
def closing (quote : Char) : Front (List Char) :=
  (do chars (List.replicate 5 quote); return [quote, quote]) <|>
  (do chars (List.replicate 4 quote); return [quote]) <|>
  (do chars (List.replicate 3 quote); return [])

/-- A string of several lines; a line end right after the opening quotes is no part of it. Inside,
one or two quotes are followed by other text. -/
def block (quote : Char) (content : Front (List Char)) : Front (List Char) := do
  chars (List.replicate 3 quote)
  let _ ← attempt newline
  let pieces ← many do
    content <|>
      (do chars [quote, quote]; return quote :: quote :: (← content)) <|>
      (do char quote; return quote :: (← content))
  return pieces.flatten ++ (← closing quote)

def lineBreak : Front (List Char) := do
  newline
  return ['\n']

def quotedContent : Front (List Char) :=
  some_ (fun c => isPlain c && c != '"' && c != '\\') <|>
  (do continuation; return []) <|>
  (do return [← escaped]) <|>
  lineBreak

def literalContent : Front (List Char) :=
  some_ (fun c => isPlain c && c != '\'') <|> lineBreak

def text : Front String := do
  let cs ← block '"' quotedContent <|> quoted <|> block '\'' literalContent <|> literal
  return String.ofList cs

def isBare (c : Char) : Bool :=
  c.isAlphanum || c == '_' || c == '-'

def simpleKey : Front String := do
  return String.ofList (← quoted <|> literal <|> some_ isBare)

/-- The most keys that dots may join, and the most levels of arrays and inline tables. -/
def maxNesting : Nat :=
  79

def keyPath : Front KeyPath := do
  let keys ← separated
    (do
      blanks
      let key ← simpleKey
      blanks
      return key)
    (char '.')
  if maxNesting < keys.length then failure
  match keys.reverse with
  | key :: path => return ⟨path.reverse, key⟩
  | [] => failure

def sign : Front Bool :=
  (do char '-'; return true) <|> (do char '+'; return false) <|> return false

def digits (radix : Nat) : Front (List Char) := do
  let digit := satisfying (isDigitIn radix)
  let first ← digit
  let rest ← many (digit <|> do
    char '_'
    digit)
  return first :: rest

def wholeDigits : Front (List Char) :=
  (do char '0'; return ['0']) <|> digits 10

def ofInteger (negative : Bool) (n : Nat) : Front Int := do
  let n : Int := if negative then -n else n
  if Int64.minValue.toInt ≤ n ∧ n ≤ Int64.maxValue.toInt then return n else failure

def radixInteger (mark : Char) (radix : Nat) : Front Int := do
  chars ['0', mark]
  ofInteger false (ofDigits radix (← digits radix))

def integer : Front Int :=
  radixInteger 'x' 16 <|> radixInteger 'o' 8 <|> radixInteger 'b' 2 <|> do
    let negative ← sign
    ofInteger negative (ofDigits 10 (← wholeDigits))

def exponent : Front Int := do
  char 'e' <|> char 'E'
  let negative ← sign
  let n := ofDigits 10 (← digits 10)
  return if negative then -n else n

/-- A number with a fraction or an exponent. It may be too small for a float, or too far below
zero, but not too large. -/
def decimal (negative : Bool) : Front Double := do
  let whole ← wholeDigits
  let fraction ← attempt do
    char '.'
    digits 10
  let power ← attempt exponent
  if fraction.isNone ∧ power.isNone then failure
  let places := fraction.getD []
  let x := Double.ofDecimal negative (ofDigits 10 (whole ++ places))
    (power.getD 0 - places.length)
  if x.isInfinite ∧ !negative then failure else return x

def float : Front Double := do
  let negative ← sign
  decimal negative <|>
    (do chars ['i', 'n', 'f']; return Double.infinity negative) <|>
    (do chars ['n', 'a', 'n']; return Double.nan negative)

def boolean : Front Bool :=
  (do chars ['t', 'r', 'u', 'e']; return true) <|>
  (do chars ['f', 'a', 'l', 's', 'e']; return false)

end ScriptCache.Toml.Lexeme
