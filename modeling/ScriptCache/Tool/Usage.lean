import ScriptCache.Tool.Arguments

namespace ScriptCache.Tool

def toolName : String :=
  "heron"

def versionText : String :=
  toolName ++ " 0.1.0\n"

def CommandName.about : CommandName → String
  | .header => "Print the magic number and format version of a cache file"
  | .verify => "Decode a cache file and check its references"
  | .dump => "Print a disassembly (or JSON) of a cache file"
  | .inspect => "Serve a cache file over the inspector protocol until Ctrl-C"

def Flag.form : Flag → String
  | .config => "--config <PATH>"
  | .json => "--json"
  | .formatVersion => "--format-version <N>"
  | .host => "--host <HOST>"
  | .port => "--port <PORT>"

def Flag.about : Flag → String
  | .config => "Config file (defaults to the nearest heron.toml)"
  | .json => "Print the program as JSON instead of a disassembly"
  | .formatVersion => "Expected format version (defaults to the configured one)"
  | .host => "Listener host (defaults to the configured one)"
  | .port => "Listener port, 0 for any free port (defaults to the configured one)"

def columns (rows : List (String × String)) : String :=
  let width := rows.foldl (fun w row => max w row.1.length) 0
  let gap := fun (first : String) => String.ofList (List.replicate (width - first.length + 2) ' ')
  String.join (rows.map fun (first, second) => "  " ++ first ++ gap first ++ second ++ "\n")

def usageLine (topic : Topic) : String :=
  "Usage: " ++ toolName ++ (match topic with
    | .tool => " [OPTIONS] <COMMAND>"
    | .command c => " " ++ c.name ++ " [OPTIONS] <FILE>"
    | .help => " help [COMMAND]...") ++ "\n"

def optionRows (level : Option CommandName) : List (String × String) :=
  (Flag.available level).map (fun f => ("    " ++ f.form, f.about)) ++
    [("-h, --help", "Print help")] ++
    if level.isNone then [("-V, --version", "Print version")] else []

def Topic.about : Topic → String
  | .tool => "Heron program cache tools"
  | .command c => c.about
  | .help => "Print this message or the help of the given subcommand(s)"

def commandRows : List (String × String) :=
  CommandName.all.map (fun c => (c.name, c.about)) ++ [("help", Topic.help.about)]

def fileRow : String × String :=
  ("<FILE>", "Cache file, or a key in the cache directory")

def topicRow : String × String :=
  ("[COMMAND]...", "Print help for the subcommand(s)")

def listed (heading : String) (rows : List (String × String)) : String :=
  "\n" ++ heading ++ ":\n" ++ columns rows

def helpText (topic : Topic) : String :=
  topic.about ++ "\n\n" ++ usageLine topic ++
    match topic with
    | .tool => listed "Commands" commandRows ++ listed "Options" (optionRows none)
    | .command c => listed "Arguments" [fileRow] ++ listed "Options" (optionRows (some c))
    | .help => listed "Arguments" [topicRow]

def Misuse.message : Misuse → String
  | .unknownCommand name => "unrecognized subcommand '" ++ name ++ "'"
  | .unknownOption text => "unexpected argument '" ++ text ++ "' found"
  | .missingCommand => "'" ++ toolName ++ "' requires a subcommand but one was not provided"
  | .missingFile => "the following required arguments were not provided: <FILE>"
  | .missingValue flag => "a value is required for '" ++ flag.form ++ "' but none was supplied"
  | .needlessValue name => "unexpected value for '--" ++ name ++ "' found; no more were expected"
  | .repeated flag => "the argument '" ++ flag.form ++ "' cannot be used multiple times"
  | .invalidValue place value => "invalid value '" ++ value ++ "' for '" ++ place ++ "'"
  | .surplus arg => "unexpected argument '" ++ arg ++ "' found"

def misuseText (m : Misuse) : String :=
  "error: " ++ m.message ++ "\n\nFor more information, try '--help'.\n"

end ScriptCache.Tool
