import ScriptCache.Json.Draft
import ScriptCache.Json.Printer
import ScriptCache.Text.Quoted
/-!
Typed readings of JSON. A decoder meets the parts of a value in order and stops at the first that
does not fit; a record reports missing fields only after all that are there.
-/

namespace ScriptCache

inductive Found where
  | null
  | bool (b : Bool)
  | integer (n : Int)
  | float (x : Double)
  | string (s : String)
  | sequence
  | map
  | plainVariant
  deriving DecidableEq, Repr

inductive Misfit where
  | missingField (name : String)
  | duplicateField (name : String)
  | wrongType (found : Found) (expected : String)
  | wrongValue (found : Found) (expected : String)
  | wrongLength (length : Nat) (expected : String)
  | unknownVariant (name : String) (known : List String)
  | noOutcome
  deriving DecidableEq, Repr

inductive ReadError where
  | fault (f : TextFault)
  | misfit (m : Misfit)
  deriving DecidableEq, Repr

/-- Whether a value comes from a text, part by part, or is already known as a whole, perhaps as a
field that was set aside while the fields around it were read. -/
inductive Origin where
  | text
  | whole
  | setAside
  deriving DecidableEq, Repr

abbrev Decoder (α : Type) := Origin → Draft → Except ReadError α

namespace Found

def text : Found → String
  | .null => "null"
  | .bool b => "boolean `" ++ (if b then "true" else "false") ++ "`"
  | .integer n => "integer `" ++ toString n ++ "`"
  | .float x => "floating point `" ++ Json.floatText.render x ++ "`"
  | .string s => "string " ++ Text.quote s
  | .sequence => "sequence"
  | .map => "map"
  | .plainVariant => "unit variant"

def ofDraft : Draft → Found
  | .null => .null
  | .bool b => .bool b
  | .number (.whole n) => .integer n
  | .number (.float x) => .float x
  | .string s => .string s
  | .array _ _ => .sequence
  | .object _ _ => .map
  | .faulty .list _ _ => .sequence
  | .faulty .object _ _ => .map
  | .faulty _ _ _ => .null

end Found

namespace Misfit

def ticked (name : String) : String :=
  "`" ++ name ++ "`"

def oneOf : List String → String
  | [a] => ticked a
  | [a, b] => ticked a ++ " or " ++ ticked b
  | names => "one of " ++ ", ".intercalate (names.map ticked)

def message : Misfit → String
  | .missingField name => "missing field " ++ ticked name
  | .duplicateField name => "duplicate field " ++ ticked name
  | .wrongType found expected => "invalid type: " ++ found.text ++ ", expected " ++ expected
  | .wrongValue found expected => "invalid value: " ++ found.text ++ ", expected " ++ expected
  | .wrongLength length expected =>
      "invalid length " ++ toString length ++ ", expected " ++ expected
  | .unknownVariant name known =>
      "unknown variant " ++ ticked name ++ ", expected " ++ oneOf known
  | .noOutcome => "no variant of enum Outcome found in flattened data"

end Misfit

def ReadError.message : ReadError → String
  | .fault .malformed => "malformed JSON"
  | .fault .cutShort => "unfinished JSON"
  | .misfit m => m.message

namespace Decoder

variable {α β : Type}

def misfit (m : Misfit) : Except ReadError α :=
  .error (.misfit m)

/-- A value of another kind than the expected one. A container is told by its bracket, whatever it
holds. -/
def wrongType (d : Draft) (expected : String) : Except ReadError α :=
  match d with
  | .faulty .nothing reading _ => .error (.fault reading)
  | .faulty .quote reading _ => .error (.fault reading)
  | .faulty .other reading _ => .error (.fault reading)
  | d => misfit (.wrongType (Found.ofDraft d) expected)

def string : Decoder String := fun _ d =>
  match d with
  | .string s => .ok s
  | d => wrongType d "a string"

def bool : Decoder Bool := fun _ d =>
  match d with
  | .bool b => .ok b
  | d => wrongType d "a boolean"

def integer (low high : Int) (expected : String) : Decoder Int := fun _ d =>
  match d with
  | .number (.whole n) =>
      if low ≤ n ∧ n ≤ high then .ok n else misfit (.wrongValue (.integer n) expected)
  | d => wrongType d expected

def map (f : α → β) (read : Decoder α) : Decoder β := fun origin d =>
  (read origin d).map f

def word : Decoder UInt32 :=
  map (fun n => UInt32.ofNat n.toNat) (integer 0 4294967295 "u32")

def long : Decoder UInt64 :=
  map (fun n => UInt64.ofNat n.toNat) (integer 0 18446744073709551615 "u64")

def signedWord : Decoder Int32 :=
  map Int32.ofInt (integer (-2147483648) 2147483647 "i32")

def signedLong : Decoder Int64 :=
  map Int64.ofInt (integer (-9223372036854775808) 9223372036854775807 "i64")

def float : Decoder Double := fun _ d =>
  match d with
  | .number (.whole n) => .ok (Double.ofInt n)
  | .number (.float x) => .ok x
  | d => wrongType d "f64"

def optional (read : Decoder α) : Decoder (Option α) := fun origin d =>
  match d with
  | .null => .ok none
  | d => (read origin d).map some

def value : Decoder Json := fun _ d =>
  d.toJson.mapError ReadError.fault

def finishEnding (ending : Ending) (a : α) : Except ReadError α :=
  match ending.fault? with
  | none => .ok a
  | some f => .error (.fault f)

def items (read : Decoder α) (origin : Origin) : List Draft → Except ReadError (List α)
  | [] => .ok []
  | d :: rest => do
      let a ← read origin d
      let as ← items read origin rest
      return a :: as

def list (read : Decoder α) : Decoder (List α) := fun origin d =>
  match d with
  | .array ds ending => do finishEnding ending (← items read origin ds)
  | .faulty .list reading _ => .error (.fault reading)
  | d => wrongType d "a sequence"

end Decoder

end ScriptCache
