namespace ScriptCache.Tool

inductive CommandName where
  | header
  | verify
  | dump
  | inspect
  deriving DecidableEq, Repr

inductive Flag where
  | config
  | json
  | formatVersion
  | host
  | port
  deriving DecidableEq, Repr

inductive Misuse where
  | unknownCommand (name : String)
  | unknownOption (text : String)
  | missingCommand
  | missingFile
  | missingValue (flag : Flag)
  | needlessValue (name : String)
  | repeated (flag : Flag)
  | invalidValue (place value : String)
  | surplus (arg : String)
  deriving DecidableEq, Repr

inductive Action where
  | header
  | verify (version : Option UInt16)
  | dump (json : Bool) (version : Option UInt16)
  | inspect (host : Option String) (port version : Option UInt16)
  deriving DecidableEq, Repr

structure Invocation where
  config : Option String
  file : String
  action : Action
  deriving DecidableEq, Repr

inductive Topic where
  | tool
  | command (c : CommandName)
  | help
  deriving DecidableEq, Repr

inductive Request where
  | perform (i : Invocation)
  | help (topic : Topic)
  | version
  deriving DecidableEq, Repr

inductive Stop where
  | misuse (m : Misuse)
  | request (r : Request)
  deriving DecidableEq, Repr

namespace CommandName

def all : List CommandName :=
  [.header, .verify, .dump, .inspect]

def name : CommandName → String
  | .header => "header"
  | .verify => "verify"
  | .dump => "dump"
  | .inspect => "inspect"

def ofName? (s : String) : Option CommandName :=
  all.find? fun c => c.name == s

end CommandName

namespace Topic

def ofLevel : Option CommandName → Topic
  | none => .tool
  | some c => .command c

def ofName? (s : String) : Option Topic :=
  if s == "help" then some .help else (CommandName.ofName? s).map .command

end Topic

namespace Flag

def name : Flag → String
  | .config => "config"
  | .json => "json"
  | .formatVersion => "format-version"
  | .host => "host"
  | .port => "port"

def takesValue : Flag → Bool
  | .json => false
  | _ => true

def available : Option CommandName → List Flag
  | none => [.config]
  | some .header => [.config]
  | some .verify => [.config, .formatVersion]
  | some .dump => [.config, .json, .formatVersion]
  | some .inspect => [.config, .host, .port, .formatVersion]

def find? (level : Option CommandName) (name : String) : Option Flag :=
  (available level).find? fun f => f.name == name

end Flag

/-- How an argument reads by itself. A single dash is plain. -/
inductive Word where
  | plain (text : String)
  | separator
  | long (name : String) (value : Option String)
  | short (letters : List Char)
  deriving DecidableEq, Repr

namespace Word

def ofLong (cs : List Char) : Word :=
  let name := cs.takeWhile (· != '=')
  match cs.drop name.length with
  | [] => .long (String.ofList name) none
  | _ :: value => .long (String.ofList name) (some (String.ofList value))

def of (arg : String) : Word :=
  match arg.toList with
  | ['-', '-'] => .separator
  | '-' :: '-' :: rest => ofLong rest
  | '-' :: c :: rest => .short (c :: rest)
  | _ => .plain arg

def isPlain : Word → Bool
  | .plain _ => true
  | _ => false

end Word

def parseWord? (s : String) : Option UInt16 :=
  let (negative, digits) := match s.toList with
    | '-' :: cs => (true, cs)
    | '+' :: cs => (false, cs)
    | cs => (false, cs)
  let n := digits.foldl (fun n c => n * 10 + (c.toNat - 48)) 0
  if digits.isEmpty || !digits.all Char.isDigit || negative && n != 0 || UInt16.size ≤ n then none
  else some (UInt16.ofNat n)

structure Options where
  config : Option String
  json : Bool
  formatVersion : Option UInt16
  host : Option String
  port : Option UInt16
  file : Option String
  deriving DecidableEq, Repr

namespace Options

def none : Options :=
  ⟨.none, false, .none, .none, .none, .none⟩

def has (o : Options) : Flag → Bool
  | .config => o.config.isSome
  | .json => o.json
  | .formatVersion => o.formatVersion.isSome
  | .host => o.host.isSome
  | .port => o.port.isSome

def fill (o : Options) (flag : Flag) (value : String) : Option Options :=
  match flag with
  | .config => if value.isEmpty then .none else some { o with config := some value }
  | .json => some { o with json := true }
  | .formatVersion => (parseWord? value).map fun n => { o with formatVersion := some n }
  | .host => some { o with host := some value }
  | .port => (parseWord? value).map fun n => { o with port := some n }

def set (o : Options) (flag : Flag) (value : String) : Except Stop Options :=
  if o.has flag then .error (.misuse (.repeated flag))
  else match o.fill flag value with
    | some o => .ok o
    | .none => .error (.misuse (.invalidValue ("--" ++ flag.name) value))

def setFile (o : Options) (arg : String) : Except Stop Options :=
  if o.file.isSome then .error (.misuse (.surplus arg))
  else if arg.isEmpty then .error (.misuse (.invalidValue "<FILE>" arg))
  else .ok { o with file := some arg }

end Options

def shortRequest (level : Option CommandName) (letters : List Char) : Stop :=
  match letters.head?, level with
  | some 'h', _ => .request (.help (.ofLevel level))
  | some 'V', none => .request .version
  | _, _ => .misuse (.unknownOption ("-" ++ String.ofList (letters.take 1)))

def longRequest (level : Option CommandName) (name : String) (value : Option String) : Stop :=
  let request := match name, level with
    | "help", _ => some (Request.help (.ofLevel level))
    | "version", none => some .version
    | _, _ => none
  match request, value with
  | some r, none => .request r
  | some _, some _ => .misuse (.needlessValue name)
  | none, _ => .misuse (.unknownOption ("--" ++ name))

/-- Options read so far. A value in an argument of its own is held back until the next option or the
end of the arguments, so that a command after it is read first. -/
structure Reading where
  options : Options
  held : Option (Flag × String)
  deriving DecidableEq, Repr

namespace Reading

def ofOptions (o : Options) : Reading :=
  ⟨o, none⟩

def settle (r : Reading) : Except Stop Options :=
  match r.held with
  | some (flag, value) => r.options.set flag value
  | none => .ok r.options

end Reading

/-- Reads the options of the tool up to a command, or those of a command with its file to the end.
A value that looks like an option has to be given with an equals sign. -/
def readOptions (level : Option CommandName) (r : Reading) :
    List String → Except Stop (Reading × List String)
  | [] => .ok (r, [])
  | arg :: rest =>
      match Word.of arg with
      | .plain text =>
          if level.isNone then .ok (r, arg :: rest)
          else do readOptions level (.ofOptions (← (← r.settle).setFile text)) rest
      | .separator =>
          if level.isNone then .ok (r, arg :: rest)
          else do return (.ofOptions (← rest.foldlM Options.setFile (← r.settle)), [])
      | .short letters => do
          let _ ← r.settle
          throw (shortRequest level letters)
      | .long name value =>
          match Flag.find? level name with
          | none => do
              let _ ← r.settle
              throw (longRequest level name value)
          | some flag => do
              let o ← r.settle
              match flag.takesValue, value, rest with
              | true, some v, rest => readOptions level (.ofOptions (← o.set flag v)) rest
              | true, none, v :: rest =>
                  if (Word.of v).isPlain then readOptions level ⟨o, some (flag, v)⟩ rest
                  else throw (.misuse (.missingValue flag))
              | true, none, [] => throw (.misuse (.missingValue flag))
              | false, some _, _ => throw (.misuse (.needlessValue name))
              | false, none, rest => readOptions level (.ofOptions (← o.set flag "")) rest

def actionOf (command : CommandName) (o : Options) : Action :=
  match command with
  | .header => .header
  | .verify => .verify o.formatVersion
  | .dump => .dump o.json o.formatVersion
  | .inspect => .inspect o.host o.port o.formatVersion

def helpRequest : List String → Stop
  | [] => .request (.help .tool)
  | [topic] =>
      match Topic.ofName? topic with
      | some topic => .request (.help topic)
      | none => .misuse (.unknownCommand topic)
  | topic :: second :: _ =>
      .misuse (.unknownCommand (if (Topic.ofName? topic).isSome then second else topic))

def readCommand (outer : Reading) : List String → Except Stop Invocation
  | [] => .error (.misuse .missingCommand)
  | word :: rest =>
      match CommandName.ofName? word with
      | some command => do
          let (inner, _) ← readOptions (some command) (.ofOptions .none) rest
          let o ← inner.settle
          match o.file with
          | some file =>
              return ⟨o.config <|> (← outer.settle).config, file, actionOf command o⟩
          | none => throw (.misuse .missingFile)
      | none =>
          if word == "help" then .error (helpRequest rest)
          else if word == "--" then
            .error (.misuse ((rest.head?.map Misuse.surplus).getD .missingCommand))
          else .error (.misuse (.unknownCommand word))

def parse (args : List String) : Except Misuse Request :=
  let reading := do
    let (outer, rest) ← readOptions none (.ofOptions .none) args
    readCommand outer rest
  match reading with
  | .ok i => .ok (.perform i)
  | .error (.request r) => .ok r
  | .error (.misuse m) => .error m

end ScriptCache.Tool
