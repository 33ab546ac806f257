namespace ScriptCache.Path

def isAbsolute (p : String) : Bool :=
  p.toList.head? == some '/'

def join (dir p : String) : String :=
  if isAbsolute p then p
  else if dir.toList.getLast?.getD '/' == '/' then dir ++ p
  else dir ++ "/" ++ p

def anchorLength : List Char → Nat
  | '/' :: _ => 1
  | ['.'] => 1
  | '.' :: '/' :: _ => 1
  | _ => 0

def dropIdle : List Char → List Char
  | '/' :: rest => dropIdle rest
  | ['.'] => []
  | '.' :: '/' :: rest => dropIdle rest
  | cs => cs

structure Parts where
  anchor : List Char
  before : List Char
  name : List Char
  deriving DecidableEq, Repr

def parts (p : String) : Parts :=
  let cs := p.toList
  let anchor := cs.take (anchorLength cs)
  let body := dropIdle (cs.drop (anchorLength cs)).reverse
  let name := body.takeWhile (· != '/')
  ⟨anchor, (body.drop name.length).reverse, name.reverse⟩

def parent? (p : String) : Option String :=
  let ⟨anchor, before, name⟩ := parts p
  if name.isEmpty then if anchor == ['.'] then some "" else none
  else some (String.ofList (anchor ++ (dropIdle before.reverse).reverse))

def stem (name : List Char) : List Char :=
  let back := name.reverse.dropWhile (· != '.')
  if back.length ≤ 1 then name else (back.drop 1).reverse

/-- Replaces what follows the last dot of the last name, or adds it. The old extension goes first: a
path that then ends in two dots names a directory, and takes no new extension. -/
def withExtension (p extension : String) : String :=
  let ⟨anchor, before, name⟩ := parts p
  if name.isEmpty || name == ['.', '.'] then p
  else if stem name == ['.'] && anchor ++ before ++ name == p.toList then
    String.ofList (anchor ++ before ++ ['.', '.'])
  else String.ofList (anchor ++ before ++ stem name) ++ "." ++ extension

def names : List Char → List (List Char)
  | [] => [[]]
  | c :: rest =>
      match names rest with
      | [] => [[c]]
      | name :: more => if c = '/' then [] :: name :: more else (c :: name) :: more

end ScriptCache.Path
