import ScriptCache.Text.Quoted

namespace ScriptCache

inductive Corruption where
  | unexpectedEnd (needed remaining : Nat)
  | lengthOverflow (declared remaining : Nat)
  | unknownOpcode (byte : UInt8)
  | unknownConstantTag (byte : UInt8)
  | invalidBool (byte : UInt8)
  | invalidBindingKind (byte : UInt8)
  | invalidUtf8
  | nestingTooDeep
  | trailingBytes (count : Nat)
  deriving DecidableEq, Repr

inductive CacheError where
  | notACacheFile
  | versionMismatch (expected found : UInt16)
  | corrupt (offset : Nat) (reason : Corruption)
  | io (cause : String)
  deriving DecidableEq, Repr

def hexByte (byte : UInt8) : String :=
  String.ofList ([byte.toNat / 16, byte.toNat % 16].flatMap fun d =>
    (Text.hexDigits d).map Char.toUpper)

def Corruption.message : Corruption → String
  | .unexpectedEnd needed remaining =>
      "unexpected end of stream (" ++ toString needed ++ " bytes needed, " ++
        toString remaining ++ " left)"
  | .lengthOverflow declared remaining =>
      "declared size " ++ toString declared ++ " exceeds the " ++ toString remaining ++
        " remaining bytes"
  | .unknownOpcode byte => "unknown opcode 0x" ++ hexByte byte
  | .unknownConstantTag byte => "unknown constant tag 0x" ++ hexByte byte
  | .invalidBool byte => "invalid boolean byte " ++ toString byte.toNat
  | .invalidBindingKind byte => "invalid binding kind " ++ toString byte.toNat
  | .invalidUtf8 => "text field is not valid UTF-8"
  | .nestingTooDeep => "function constants nested too deeply"
  | .trailingBytes count => toString count ++ " trailing bytes after program"

namespace CacheError

def message : CacheError → String
  | .notACacheFile => "not a cache file: magic number mismatch"
  | .versionMismatch expected found =>
      "cache version mismatch: expected " ++ toString expected.toNat ++ ", found " ++
        toString found.toNat
  | .corrupt offset reason =>
      "corrupt cache at offset " ++ toString offset ++ ": " ++ reason.message
  | .io cause => "IO error: " ++ cause

def isRecoverable : CacheError → Bool
  | .io _ => false
  | _ => true

end CacheError

end ScriptCache
