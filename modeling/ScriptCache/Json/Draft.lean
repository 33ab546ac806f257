import ScriptCache.Json.Value
/-!
Values as a text holds them, in the order of the text and up to its first fault. A draft keeps
fields that are given twice, and it tells faults that stop every reader from those that a reader
passing over the value does not notice.
-/

namespace ScriptCache

inductive TextFault where
  | malformed
  | cutShort
  deriving DecidableEq, Repr

inductive Onset where
  | nothing
  | quote
  | list
  | object
  | other
  deriving DecidableEq, Repr

/-- What follows the last item: the closing bracket, a fault, or a fault after one more comma. -/
inductive Ending where
  | closed
  | fault (f : TextFault)
  | faultAfterComma (f : TextFault)
  deriving DecidableEq, Repr

inductive Draft where
  | null
  | bool (b : Bool)
  | number (n : JsonNumber)
  | string (s : String)
  | array (items : List Draft) (ending : Ending)
  | object (fields : List (Option String × Draft)) (ending : Ending)
  | faulty (onset : Onset) (reading : TextFault) (skipping : Option TextFault)

namespace Ending

def fault? : Ending → Option TextFault
  | .closed => none
  | .fault f => some f
  | .faultAfterComma f => some f

end Ending

namespace Draft

def broken (onset : Onset) (f : TextFault) : Draft :=
  .faulty onset f (some f)

mutual

/-- The fault that a reader meets who passes over the value. -/
def skipFault? : Draft → Option TextFault
  | .faulty _ _ skipping => skipping
  | .array items ending => (itemsSkipFault? items).or ending.fault?
  | .object fields ending => (fieldsSkipFault? fields).or ending.fault?
  | _ => none

def itemsSkipFault? : List Draft → Option TextFault
  | [] => none
  | d :: rest => (skipFault? d).or (itemsSkipFault? rest)

def fieldsSkipFault? : List (Option String × Draft) → Option TextFault
  | [] => none
  | (_, d) :: rest => (skipFault? d).or (fieldsSkipFault? rest)

end

mutual

/-- The value itself: of a name given more than once the last counts. -/
def toJson : Draft → Except TextFault Json
  | .null => .ok .null
  | .bool b => .ok (.bool b)
  | .number n => .ok (.number n)
  | .string s => .ok (.string s)
  | .array items ending => do
      let values ← itemsToJson items
      match ending.fault? with
      | none => return .array values
      | some f => throw f
  | .object fields ending => do
      let values ← fieldsToJson fields
      match ending.fault? with
      | none => return Json.ofFields values
      | some f => throw f
  | .faulty _ reading _ => .error reading

def itemsToJson : List Draft → Except TextFault (List Json)
  | [] => .ok []
  | d :: rest => do
      let v ← toJson d
      let values ← itemsToJson rest
      return v :: values

def fieldsToJson : List (Option String × Draft) → Except TextFault (List (String × Json))
  | [] => .ok []
  | (none, _) :: _ => .error .malformed
  | (some name, d) :: rest => do
      let v ← toJson d
      let values ← fieldsToJson rest
      return (name, v) :: values

end

mutual

def ofJson : Json → Draft
  | .null => .null
  | .bool b => .bool b
  | .number n => .number n
  | .string s => .string s
  | .array items => .array (itemsOfJson items) .closed
  | .object fields => .object (fieldsOfJson fields) .closed

def itemsOfJson : List Json → List Draft
  | [] => []
  | v :: rest => ofJson v :: itemsOfJson rest

def fieldsOfJson : List (String × Json) → List (Option String × Draft)
  | [] => []
  | (name, v) :: rest => (some name, ofJson v) :: fieldsOfJson rest

end

mutual

def depth : Draft → Nat
  | .array items _ => itemsDepth items + 1
  | .object fields _ => fieldsDepth fields + 1
  | _ => 0

def itemsDepth : List Draft → Nat
  | [] => 0
  | d :: rest => max (depth d) (itemsDepth rest)

def fieldsDepth : List (Option String × Draft) → Nat
  | [] => 0
  | (_, d) :: rest => max (depth d) (fieldsDepth rest)

end

end Draft

end ScriptCache
