import ScriptCache.Json.Decoder
/-!
Records: values with named fields, given as an object, or as an array in the order of declaration.
The fields of a record are read independently, and of all that is wrong the first in the order of
the text is reported.
-/

namespace ScriptCache

/-- Something wrong at a place among the entries; missing fields come after every entry. -/
structure Trouble where
  place : Nat
  error : ReadError

def Trouble.first (a b : Trouble) : Trouble :=
  if b.place < a.place then b else a

/-- Where the fields are looked for; `expected` says how many items an array should have. -/
inductive Entries where
  | named (fields : List (Option String × Draft)) (ending : Ending)
  | listed (items : List Draft) (ending : Ending) (expected : String)

/-- A reading of consecutive fields. The fields before them number `position`. -/
structure Record (α : Type) where
  names : List String
  read : Origin → Entries → (position : Nat) → Except Trouble α

namespace Record

variable {α β : Type}

def both (f : Except Trouble (α → β)) (a : Except Trouble α) : Except Trouble β :=
  match f, a with
  | .ok f, .ok a => .ok (f a)
  | .error e, .ok _ => .error e
  | .ok _, .error e => .error e
  | .error e, .error e' => .error (e.first e')

def done (a : α) : Record α :=
  ⟨[], fun _ _ _ => .ok a⟩

def andThen (f : Record (α → β)) (a : Record α) : Record β where
  names := f.names ++ a.names
  read := fun origin entries position =>
    both (f.read origin entries position) (a.read origin entries (position + f.names.length))

def located (place : Nat) (result : Except ReadError α) : Except Trouble α :=
  result.mapError fun e => ⟨place, e⟩

def absentItem (position : Nat) (ending : Ending) (expected : String) : Trouble :=
  match ending.fault? with
  | some f => ⟨position, .fault f⟩
  | none => ⟨position, .misfit (.wrongLength position expected)⟩

def fieldOr (absent : Option α) (absentInList : Bool) (name : String) (read : Decoder α) :
    Record α where
  names := [name]
  read := fun origin entries position =>
    match entries with
    | .named fields _ =>
        match fields.findIdx? (fun field => field.1 == some name), absent with
        | some i, _ => located i (read origin ((fields[i]?.map Prod.snd).getD .null))
        | none, some a => .ok a
        | none, none => .error ⟨fields.length + 1, .misfit (.missingField name)⟩
    | .listed items ending expected =>
        match items[position]?, (if absentInList then absent else none) with
        | some d, _ => located position (read origin d)
        | none, some a =>
            match ending.fault? with
            | some f => .error ⟨position, .fault f⟩
            | none => .ok a
        | none, none => .error (absentItem position ending expected)

def required (name : String) (read : Decoder α) : Record α :=
  fieldOr none false name read

def withDefault (absent : α) (name : String) (read : Decoder α) : Record α :=
  fieldOr (some absent) true name read

def optional (name : String) (read : Decoder α) : Record (Option α) :=
  withDefault none name (Decoder.optional read)

/-- The first entry that is wrong whatever the fields hold: a name that cannot be read, a name
given before, or a fault in the value of a name that is not a field. -/
def entryTrouble? (names : List String) (seen : List String) (place : Nat) :
    List (Option String × Draft) → Option Trouble
  | [] => none
  | (none, _) :: _ => some ⟨place, .fault .malformed⟩
  | (some name, d) :: rest =>
      if names.contains name then
        if seen.contains name then some ⟨place, .misfit (.duplicateField name)⟩
        else entryTrouble? names (name :: seen) (place + 1) rest
      else match d.skipFault? with
        | some f => some ⟨place, .fault f⟩
        | none => entryTrouble? names seen (place + 1) rest

def namedTrouble? (names : List String) (fields : List (Option String × Draft))
    (ending : Ending) : Option Trouble :=
  (entryTrouble? names [] 0 fields).or
    (ending.fault?.map fun f => ⟨fields.length, .fault f⟩)

def surplus (origin : Origin) (arity length : Nat) : ReadError :=
  match origin with
  | .text => .fault .malformed
  | .whole => .misfit (.wrongLength length "fewer elements in array")
  | .setAside =>
      .misfit (.wrongLength length
        (toString arity ++ (if arity = 1 then " element" else " elements") ++ " in sequence"))

def listedTrouble? (origin : Origin) (arity : Nat) (items : List Draft) (ending : Ending) :
    Option Trouble :=
  if arity < items.length then some ⟨arity, surplus origin arity items.length⟩
  else match ending with
    | .faultAfterComma _ => some ⟨arity, .fault .malformed⟩
    | ending => ending.fault?.map fun f => ⟨arity, .fault f⟩

def settle (trouble : Option Trouble) (result : Except Trouble α) : Except Trouble α :=
  match trouble, result with
  | none, result => result
  | some t, .ok _ => .error t
  | some t, .error e => .error (e.first t)

def expectedLength (title : String) (arity : Nat) : String :=
  title ++ " with " ++ toString arity ++ (if arity = 1 then " element" else " elements")

def decoder (title : String) (r : Record α) : Decoder α := fun origin d =>
  let result := match d with
    | .object fields ending =>
        settle (namedTrouble? r.names fields ending) (r.read origin (.named fields ending) 0)
    | .array items ending =>
        settle (listedTrouble? origin r.names.length items ending)
          (r.read origin (.listed items ending (expectedLength title r.names.length)) 0)
    | .faulty _ reading _ => located 0 (.error (.fault reading))
    | d => located 0 (Decoder.wrongType d title)
  result.mapError Trouble.error

end Record

instance : Functor Record where
  map f a := Record.andThen (.done f) a

instance : Pure Record where
  pure := .done

instance : Seq Record where
  seq f a := Record.andThen f (a ())

end ScriptCache
