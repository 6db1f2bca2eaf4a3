import ServerTree.Routing.Segment

/-!
# Paths of files

The path of a route module says which URLs it serves: the names of its directories and its own name
without the ending become segments, a name in brackets becomes a parameter, and a final `index` stands for
its directory.

## Main definitions
- `FilePath`: an anchor and names
- `isRouteFile`: which files are route modules
- `FilePath.url?`: the URL pattern of a route module
-/

namespace ServerTree

/-- The path of a file. The anchor is empty for a relative path. -/
structure FilePath where
  anchor : String
  names : List String
deriving DecidableEq, Repr, Inhabited

/-! ## Names -/

/-- The name without its ending. A dot at either end of the name starts no ending. -/
def dropEnding (cs : List Char) : List Char :=
  match Text.cutAt '.' cs.reverse with
  | (_ :: _, some (c :: before)) => (c :: before).reverse
  | _ => cs

/-- Whether a file name denotes a route module: a source file that is neither private nor hidden nor a
test. -/
def isRouteFile (name : String) : Bool :=
  Text.endsWith ".py" name &&
    !(Text.startsWith "_" name || Text.startsWith "." name) &&
    !(Text.startsWith "test_" name || Text.endsWith "_test.py" name) &&
    !Text.contains ".test." name && !Text.contains ".spec." name

/-- The text between brackets, not counting one line feed at the end. -/
def inBrackets? (name : List Char) : Option (List Char) :=
  match dropFinalNewline name with
  | '[' :: r =>
    match r.getLast? with
    | some ']' => some r.dropLast
    | _ => none
  | _ => none

/-- Whether a list is a word: one or more word characters. -/
def isWordText (cs : List Char) : Bool := !cs.isEmpty && cs.all Text.isWord

/-- The segment of a URL pattern that a name stands for. -/
def nameSegment (name : String) : String :=
  match inBrackets? name.toList with
  | some ('.' :: '.' :: '.' :: w) =>
    if isWordText w then "\x7b" ++ String.ofList w ++ ":path\x7d" else name
  | some w => if isWordText w then "\x7b" ++ String.ofList w ++ "\x7d" else name
  | none => name

namespace FilePath

/-- Reads a path. Single dots and repeated slashes say nothing; two slashes in front are an anchor of
their own. -/
def ofText (s : String) : FilePath :=
  let slashes := (s.toList.takeWhile (· == '/')).length
  { anchor := if slashes = 0 then "" else if slashes = 2 then "//" else "/"
    names := (Text.pieces '/' s).filter fun p => p != "" && p != "." }

/-- The written path. -/
def toText (p : FilePath) : String :=
  if p.anchor = "" ∧ p.names = [] then "." else p.anchor ++ Text.join "/" p.names

/-- The entry of a name below a path. -/
def child (p : FilePath) (name : String) : FilePath := ⟨p.anchor, p.names ++ [name]⟩

/-- The directory of a path; the topmost is its own. -/
def parent (p : FilePath) : FilePath := ⟨p.anchor, p.names.dropLast⟩

/-- The names that make up the URL of a route module: those of its directories and its own without the
ending, unless that is `index`. -/
def urlNames? (p : FilePath) : Option (List String) :=
  match p.names.getLast? with
  | none => none
  | some last =>
    let stem := String.ofList (dropEnding last.toList)
    let front := (if p.anchor = "//" then ["//"] else []) ++ p.names.dropLast
    some (if stem = "index" then front else front ++ [stem])

/-- The URL pattern of a route module. A path without a name has none. -/
def url? (p : FilePath) : Except Refusal String :=
  match p.urlNames? with
  | none => .error .emptyName
  | some [] => .ok "/"
  | some names => .ok ("/" ++ Text.join "/" (names.map nameSegment))

end FilePath

/-- Backslashes separate names too. -/
def unifySlashes (s : String) : String :=
  String.ofList (s.toList.map fun c => if c = '\\' then '/' else c)

/-- The URL pattern of a written path. -/
def urlOfPath (s : String) : Except Refusal String :=
  (FilePath.ofText (unifySlashes s)).url?

end ServerTree
