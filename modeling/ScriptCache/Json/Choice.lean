import ScriptCache.Json.Decoder

namespace ScriptCache

inductive Variant (α : Type) where
  | plain (a : α)
  | holding (read : Decoder α)

namespace Choice

variable {α : Type}

def nothing : Decoder Unit := fun _ d =>
  match d with
  | .null => .ok ()
  | d => Decoder.wrongType d "unit"

def byName (v : Variant α) : Except ReadError α :=
  match v with
  | .plain a => .ok a
  | .holding _ => Decoder.misfit (.wrongType .plainVariant "variant with fields")

def payload (v : Variant α) (origin : Origin) (d : Draft) : Except ReadError α :=
  match v with
  | .plain a => (nothing origin d).map fun _ => a
  | .holding read => read origin d

def variant (variants : List (String × Variant α)) (name : String) :
    Except ReadError (Variant α) :=
  match variants.find? fun v => v.1 == name with
  | some v => .ok v.2
  | none => Decoder.misfit (.unknownVariant name (variants.map Prod.fst))

/-- An object met part by part: its first field decides, and a second is a fault. -/
def fromText (variants : List (String × Variant α)) (ending : Ending) :
    List (Option String × Draft) → Except ReadError α
  | [] =>
      match ending with
      | .fault f => .error (.fault f)
      | _ => .error (.fault .malformed)
  | (none, _) :: _ => .error (.fault .malformed)
  | (some name, d) :: rest => do
      let v ← variant variants name
      let a ← payload v .text d
      match rest, ending with
      | [], .closed => return a
      | [], .fault f => throw (.fault f)
      | _, _ => throw (.fault .malformed)

def fromWhole (variants : List (String × Variant α)) (origin : Origin) :
    List (Option String × Draft) → Except ReadError α
  | [(some name, d)] => do
      let v ← variant variants name
      payload v origin d
  | _ => Decoder.misfit (.wrongValue .map "map with a single key")

def decoder (variants : List (String × Variant α)) : Decoder α := fun origin d =>
  match d, origin with
  | .string name, _ => do byName (← variant variants name)
  | .object fields ending, .text => fromText variants ending fields
  | .object fields _, _ => fromWhole variants origin fields
  | .faulty .nothing f _, _ => .error (.fault f)
  | .faulty .quote f _, _ => .error (.fault f)
  | _, .text => .error (.fault .malformed)
  | d, _ => Decoder.wrongType d "string or map"

def plain (names : List (String × α)) : Decoder α :=
  decoder (names.map fun n => (n.1, .plain n.2))

end Choice

end ScriptCache
