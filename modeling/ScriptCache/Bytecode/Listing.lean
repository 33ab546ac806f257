import ScriptCache.Bytecode.Program
import ScriptCache.Numeric.FloatText

namespace ScriptCache.Listing

def floatText : FloatText where
  tie := .up
  wholeMark := ".0"
  positional := some (-4, 16)
  plus := ""
  notANumber := "NaN"
  infinite := "inf"

def scalarText : Constant → String
  | .undefined => "undefined"
  | .null => "null"
  | .bool b => if b then "true" else "false"
  | .int n => toString n.toInt
  | .float x => floatText.render x
  | .string s => Text.quote s
  | .regexp pattern flags => "/" ++ pattern ++ "/" ++ flags
  | .function p => "<function " ++ p.displayName ++ ">"

def spaces (n : Nat) : String :=
  String.ofList (List.replicate n ' ')

def indent (level : Nat) : String :=
  spaces (2 * level)

def padLeft (width : Nat) (s : String) : String :=
  spaces (width - s.length) ++ s

def positionMark (source : Source) (entry : SourceMapEntry) : String :=
  let p := source.position entry.pos
  "  ; " ++ toString p.line.toNat ++ ":" ++ toString p.column.toNat

def instructionText (level pc : Nat) (ins : Instruction) : String :=
  indent level ++ "  " ++ padLeft 5 (toString pc) ++ ": " ++ ins.text

/-- Lines of code from `pc` on. Each line uses up the entries of the source map that are not after
it, and shows those that are exactly for it. -/
def codeLines (source : Source) (level : Nat) :
    Nat → List SourceMapEntry → List Instruction → List String
  | _, _, [] => []
  | pc, map, ins :: rest =>
      let due := map.takeWhile fun entry => entry.pc.toNat ≤ pc
      let marks := (due.filter fun entry => entry.pc.toNat == pc).map (positionMark source)
      (instructionText level pc ins ++ String.join marks) ::
        codeLines source level (pc + 1) (map.drop due.length) rest

def heading (level : Nat) (p : Program) : String :=
  indent level ++ "function " ++ p.displayName ++ " (" ++ toString p.code.length ++
    " instructions, " ++ toString p.constants.length ++ " constants)"

def constantLabel (level index : Nat) : String :=
  indent level ++ "  const #" ++ toString index ++ ":"

mutual

def programLines (level : Nat) : Program → List String
  | ⟨functionName, source, code, constants, sourceMap⟩ =>
      heading level ⟨functionName, source, code, constants, sourceMap⟩ ::
        codeLines source level 0 sourceMap code ++ constantLines level 0 constants

def constantLines (level : Nat) : Nat → List Constant → List String
  | _, [] => []
  | i, .function p :: rest =>
      constantLabel level i :: programLines (level + 2) p ++ constantLines level (i + 1) rest
  | i, c :: rest =>
      (constantLabel level i ++ " " ++ scalarText c) :: constantLines level (i + 1) rest

end

end ScriptCache.Listing

def ScriptCache.Program.listing (p : ScriptCache.Program) : String :=
  String.join ((ScriptCache.Listing.programLines 0 p).map (· ++ "\n"))
