import ScriptCache.Numeric.Double
import ScriptCache.Toml.DateTime
/-!
The values of a configuration text, and how its tables grow. A table keeps how it came to be, since
this decides who may still add to it: a header opens a table once, dotted keys do not reach into a
table with a header, and nothing reaches into an inline table.
-/

namespace ScriptCache

inductive TableForm where
  | header
  | implied
  | dotted
  | inline
  deriving DecidableEq, Repr

def TableForm.passes (dotted : Bool) : TableForm → Bool
  | .header => !dotted
  | .implied | .dotted => true
  | .inline => false

inductive Toml where
  | string (s : String)
  | integer (n : Int)
  | float (x : Double)
  | boolean (b : Bool)
  | dateTime (t : DateTime)
  | array (items : List Toml)
  | tables (items : List Toml)
  | table (form : TableForm) (fields : List (String × Toml))

structure KeyPath where
  path : List String
  key : String
  deriving DecidableEq, Repr

namespace Toml

abbrev Fields := List (String × Toml)

namespace Fields

def put (key : String) (v : Toml) : Fields → Fields
  | [] => [(key, v)]
  | (other, x) :: rest => if key = other then (key, v) :: rest else (other, x) :: put key v rest

/-- Changes the table at a path, making the tables that are missing on the way. A path leads to the
last of several tables of one name. -/
def within (dotted : Bool) (change : TableForm → Fields → Option Fields) :
    List String → TableForm → Fields → Option Fields
  | [], form, fields => change form fields
  | key :: path, _, fields =>
      match fields.lookup key with
      | none => do
          let form := if dotted then TableForm.dotted else .implied
          return fields.put key (.table form (← within dotted change path form []))
      | some (.table form inner) =>
          if form.passes dotted then do
            return fields.put key (.table form (← within dotted change path form inner))
          else none
      | some (.tables items) =>
          match items.getLast? with
          | some (.table form inner) => do
              let last := Toml.table form (← within dotted change path form inner)
              return fields.put key (.tables (items.dropLast ++ [last]))
          | _ => none
      | some _ => none

/-- Gives a key its value, once. The last table of a dotted key is one that dotted keys made. -/
def define (place : KeyPath) (v : Toml) : TableForm → Fields → Option Fields :=
  within true
    (fun form fields =>
      if (form == .dotted) == place.path.isEmpty || (fields.lookup place.key).isSome then none
      else some (fields.put place.key v))
    place.path

/-- Opens the table of a header: a new one, or one that headers below it implied. -/
def openTable (place : KeyPath) : TableForm → Fields → Option Fields :=
  within false
    (fun _ fields =>
      match fields.lookup place.key with
      | none => some (fields.put place.key (.table .header []))
      | some (.table .implied inner) => some (fields.put place.key (.table .header inner))
      | some _ => none)
    place.path

def appendTable (place : KeyPath) : TableForm → Fields → Option Fields :=
  within false
    (fun _ fields =>
      match fields.lookup place.key with
      | none => some (fields.put place.key (.tables [.table .header []]))
      | some (.tables items) => some (fields.put place.key (.tables (items ++ [.table .header []])))
      | some _ => none)
    place.path

end Fields

end Toml

end ScriptCache
