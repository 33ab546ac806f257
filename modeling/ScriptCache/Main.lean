import ScriptCache.Tool.Run

namespace ScriptCache.Tool

/-- The number of an error of the system, which may be given with its sign changed. -/
def errorNumber (code : UInt32) : Nat :=
  code.toInt32.toInt.natAbs

def kindOf (code : UInt32) : IoKind :=
  match errorNumber code with
  | 13 => .permissionDenied
  | 20 => .notADirectory
  | 21 => .isADirectory
  | 36 => .nameTooLong
  | _ => .notFound

def ioKind : IO.Error → IoKind
  | .inappropriateType _ code _ => kindOf code
  | .permissionDenied _ code _ => kindOf code
  | .invalidArgument _ code _ => kindOf code
  | _ => .notFound

def systemFiles : Files IO where
  look path := do
    try
      return .ok (.file (← IO.FS.readBinFile path).data.toList)
    catch e =>
      match ioKind e with
      | .isADirectory => return .ok .directory
      | kind => return .error kind
  workingDirectory := do
    return toString (← IO.currentDir)

def runHere (args : List String) : IO Outcome :=
  run (fun _ => .error .unsupported) systemFiles args

end ScriptCache.Tool

def main (args : List String) : IO UInt32 := do
  let outcome ← ScriptCache.Tool.runHere args
  IO.print outcome.stdout
  IO.eprint outcome.stderr
  return UInt32.ofNat outcome.exit
