import ScriptCache.Json.DecimalNumber
import ScriptCache.Json.Draft.StringScan

namespace ScriptCache.Draft

/-- A draft, with the text after it unless a fault stopped the scan. -/
abbrev Scanned := Draft × Option (List Char)

def isBlank (c : Char) : Bool :=
  c == ' ' || c == '\n' || c == '\t' || c == '\r'

def skipBlanks (cs : List Char) : List Char :=
  cs.dropWhile isBlank

def scanWord (value : Draft) : List Char → List Char → Scanned
  | [], rest => (value, some rest)
  | _ :: _, [] => (broken .other .cutShort, none)
  | c :: word, d :: rest =>
      if c = d then scanWord value word rest else (broken .other .malformed, none)

def missingDigit (rest : List Char) : Scanned :=
  if rest.isEmpty then (.faulty .other .cutShort (some .malformed), none)
  else (broken .other .malformed, none)

def finishNumber (number : Option JsonNumber) (rest : List Char) : Scanned :=
  match number with
  | some n => (.number n, some rest)
  | none => (.faulty .other .malformed none, some rest)

def digitsNumber (cs : List Char) : Int :=
  cs.foldl (fun n c => n * 10 + DecimalNumber.digitValue c) 0

def scanExponent (negative : Bool) (d : DecimalNumber) (cs : List Char) : Scanned :=
  let (below, cs) := match cs with
    | '-' :: rest => (true, rest)
    | '+' :: rest => (false, rest)
    | cs => (false, cs)
  let digits := cs.takeWhile Char.isDigit
  let rest := cs.drop digits.length
  if digits.isEmpty then missingDigit rest
  else
    let shift := if below then -digitsNumber digits else digitsNumber digits
    finishNumber ({ d with exponent := d.exponent + shift }.float? negative) rest

def scanFraction (negative : Bool) (d : DecimalNumber) (cs : List Char) : Scanned :=
  let digits := cs.takeWhile Char.isDigit
  let rest := cs.drop digits.length
  let d := d.fraction digits
  if digits.isEmpty then missingDigit rest
  else match rest with
    | 'e' :: rest => scanExponent negative d rest
    | 'E' :: rest => scanExponent negative d rest
    | rest => finishNumber (d.float? negative) rest

def scanAfterWhole (negative : Bool) (d : DecimalNumber) : List Char → Scanned
  | '.' :: rest => scanFraction negative d rest
  | 'e' :: rest => scanExponent negative d rest
  | 'E' :: rest => scanExponent negative d rest
  | rest => finishNumber (d.whole? negative) rest

def scanNumber (negative : Bool) (cs : List Char) : Scanned :=
  let digits := cs.takeWhile Char.isDigit
  let rest := cs.drop digits.length
  match digits with
  | [] => missingDigit rest
  | '0' :: _ :: _ => (broken .other .malformed, none)
  | digits =>
      scanAfterWhole negative (digits.foldl DecimalNumber.wholeDigit DecimalNumber.start) rest

def stringDraft : StringScan × Except TextFault (List Char) → Scanned
  | (s, .ok rest) =>
      match s.text? with
      | some text => (.string text, some rest)
      | none => (.faulty .quote .malformed none, some rest)
  | (s, .error f) => (.faulty .quote (if s.flawed then .malformed else f) (some f), none)

/-- The colon after a name; a fault there stands in for the value. -/
def scanColon (cs : List Char) : Except TextFault (List Char) :=
  match skipBlanks cs with
  | ':' :: rest => .ok rest
  | [] => .error .cutShort
  | _ => .error .malformed

def tooDeep (onset : Onset) (d : Draft) : Draft :=
  .faulty onset .malformed d.skipFault?

mutual

def scanValue : Nat → Nat → List Char → Scanned
  | 0, _, _ => (broken .nothing .cutShort, none)
  | fuel + 1, room, cs =>
      match skipBlanks cs with
      | [] => (broken .nothing .cutShort, none)
      | 'n' :: rest => scanWord .null ['u', 'l', 'l'] rest
      | 't' :: rest => scanWord (.bool true) ['r', 'u', 'e'] rest
      | 'f' :: rest => scanWord (.bool false) ['a', 'l', 's', 'e'] rest
      | '"' :: rest => stringDraft (scanString .start rest)
      | '-' :: rest => scanNumber true rest
      | '[' :: rest =>
          let (items, ending, after) := scanItems fuel (room - 1) false rest
          let d := Draft.array items ending
          (if room = 0 then tooDeep .list d else d, after)
      | '\x7b' :: rest =>
          let (fields, ending, after) := scanFields fuel (room - 1) false rest
          let d := Draft.object fields ending
          (if room = 0 then tooDeep .object d else d, after)
      | c :: rest =>
          if c.isDigit then scanNumber false (c :: rest) else (broken .other .malformed, none)

/-- The items up to the closing bracket; `more` after the first. -/
def scanItems : Nat → Nat → Bool → List Char → List Draft × Ending × Option (List Char)
  | 0, _, _, _ => ([], .fault .cutShort, none)
  | fuel + 1, room, more, cs =>
      match more, skipBlanks cs with
      | _, [] => ([], .fault .cutShort, none)
      | _, ']' :: rest => ([], .closed, some rest)
      | true, ',' :: rest =>
          match skipBlanks rest with
          | [] => ([], .faultAfterComma .cutShort, none)
          | ']' :: _ => ([], .faultAfterComma .malformed, none)
          | rest => scanItem fuel room rest
      | true, _ => ([], .fault .malformed, none)
      | false, cs => scanItem fuel room cs

def scanItem : Nat → Nat → List Char → List Draft × Ending × Option (List Char)
  | 0, _, _ => ([], .fault .cutShort, none)
  | fuel + 1, room, cs =>
      match scanValue fuel room cs with
      | (d, none) => ([d], .closed, none)
      | (d, some rest) =>
          let (items, ending, after) := scanItems fuel room true rest
          (d :: items, ending, after)

def scanFields : Nat → Nat → Bool → List Char →
    List (Option String × Draft) × Ending × Option (List Char)
  | 0, _, _, _ => ([], .fault .cutShort, none)
  | fuel + 1, room, more, cs =>
      match more, skipBlanks cs with
      | _, [] => ([], .fault .cutShort, none)
      | _, '\x7d' :: rest => ([], .closed, some rest)
      | true, ',' :: rest =>
          match skipBlanks rest with
          | [] => ([], .faultAfterComma .cutShort, none)
          | '"' :: rest => scanField fuel room true (scanString .start rest)
          | _ => ([], .faultAfterComma .malformed, none)
      | true, _ => ([], .fault .malformed, none)
      | false, '"' :: rest => scanField fuel room false (scanString .start rest)
      | false, _ => ([], .fault .malformed, none)

def scanField : Nat → Nat → Bool → StringScan × Except TextFault (List Char) →
    List (Option String × Draft) × Ending × Option (List Char)
  | 0, _, _, _ => ([], .fault .cutShort, none)
  | fuel + 1, room, more, name =>
      match name with
      | (s, .error f) =>
          if s.flawed then ([(none, broken .nothing f)], .closed, none)
          else ([], if more then .faultAfterComma f else .fault f, none)
      | (s, .ok rest) =>
          match scanColon rest with
          | .error f => ([(s.text?, broken .nothing f)], .closed, none)
          | .ok rest =>
              match scanValue fuel room rest with
              | (d, none) => ([(s.text?, d)], .closed, none)
              | (d, some rest) =>
                  let (fields, ending, after) := scanFields fuel room true rest
                  ((s.text?, d) :: fields, ending, after)

end

def maxDepth : Nat :=
  127

def ofText (text : String) : Draft × Option TextFault :=
  let cs := text.toList
  match scanValue (3 * cs.length + 4) maxDepth cs with
  | (d, none) => (d, none)
  | (d, some rest) => (d, if (skipBlanks rest).isEmpty then none else some .malformed)

end ScriptCache.Draft

def ScriptCache.Json.parse (text : String) : Except ScriptCache.TextFault ScriptCache.Json := do
  let (d, after) := ScriptCache.Draft.ofText text
  let v ← d.toJson
  match after with
  | none => return v
  | some f => throw f
