namespace ScriptCache

inductive IoKind where
  | notFound
  | permissionDenied
  | alreadyExists
  | notADirectory
  | isADirectory
  | interrupted
  | nameTooLong
  | nulInName
  | addressNotAvailable
  | invalidArgument
  | unsupported
  deriving DecidableEq, Repr

def IoKind.message : IoKind → String
  | .notFound => "No such file or directory (os error 2)"
  | .permissionDenied => "Permission denied (os error 13)"
  | .alreadyExists => "File exists (os error 17)"
  | .notADirectory => "Not a directory (os error 20)"
  | .isADirectory => "Is a directory (os error 21)"
  | .interrupted => "Interrupted system call (os error 4)"
  | .nameTooLong => "File name too long (os error 36)"
  | .nulInName => "file name contained an unexpected NUL byte"
  | .addressNotAvailable => "Cannot assign requested address (os error 99)"
  | .invalidArgument => "Invalid argument (os error 22)"
  | .unsupported => "operation not supported on this platform"

inductive Entry where
  | file (bytes : List UInt8)
  | directory
  deriving DecidableEq, Repr

def Entry.read : Entry → Except IoKind (List UInt8)
  | .file bytes => .ok bytes
  | .directory => .error .isADirectory

end ScriptCache
