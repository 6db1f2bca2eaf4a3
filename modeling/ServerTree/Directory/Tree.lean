import ServerTree.Directory.Path
import ServerTree.Assoc
import ServerTree.Failure

/-!
# File trees

What is known of a file system is where its files, links and directories are. What loading a module does
is a matter of application code.

A path is followed name by name. Links on the way are followed to their targets; links that lead back to
themselves lead nowhere.

## Main definitions
- `FileTree`, `FileTree.insert`
- `FileTree.follow`: where names lead to
- `FileSystem`: a tree below a base path
- `FileSystem.place`: puts an entry at a path
- `FileSystem.locate?`: the entry that a written path leads to
-/

namespace ServerTree

/-- An entry of a file system. -/
inductive FileTree where
  | file
  /-- A symbolic link, to a path below the base. -/
  | link (target : List String)
  | dir (entries : List (String × FileTree))
deriving Repr

instance : Inhabited FileTree := ⟨.dir []⟩

namespace FileTree

/-- The entries of a directory; anything else has none. -/
def entries : FileTree → List (String × FileTree)
  | dir es => es
  | _ => []

/-- The entry at a path. -/
def at? : List String → FileTree → Option FileTree
  | [], t => some t
  | name :: names, .dir es => (Assoc.get? name es).bind (at? names)
  | _ :: _, _ => none

/-- Enters an entry at a path, with the directories on the way. -/
def insert (entry : FileTree) : List String → FileTree → FileTree
  | [], _ => entry
  | name :: names, t =>
    let below := (Assoc.get? name t.entries).getD (.dir [])
    .dir (Assoc.set name (insert entry names below) t.entries)

mutual

/-- How many links there are in a tree. -/
def links : FileTree → Nat
  | file => 0
  | link _ => 1
  | dir es => linksOf es

/-- How many links there are in a row of entries. -/
def linksOf : List (String × FileTree) → Nat
  | [] => 0
  | (_, t) :: r => t.links + linksOf r

end

/-- Follows names from a directory that was reached. `free` is how many links are not being followed yet: a
link that is met when there are none is one that leads back to itself. -/
def follow (root : FileTree) : Nat → List String → List String → Option (List String)
  | _, reached, [] => some reached
  | free, reached, name :: names =>
    if name = "" ∨ name = "." then follow root free reached names
    else if name = ".." then follow root free reached.dropLast names
    else
      match root.at? (reached ++ [name]) with
      | some (.link target) =>
        match free with
        | 0 => none
        | n + 1 => (follow root n [] target).bind fun there => follow root (n + 1) there names
      | _ => follow root free (reached ++ [name]) names
termination_by free _ names => (free, names.length)

end FileTree

/-- Takes one name of a path into account: a `..` undoes the name before it. -/
def FilePath.step (names : List String) (name : String) : List String :=
  if name = ".." then names.dropLast else names ++ [name]

/-- The path that a written path outside of all links stands for. -/
def FilePath.plain (p : FilePath) : FilePath :=
  if p.anchor = "" then p else ⟨p.anchor, p.names.foldl FilePath.step []⟩

/-- A file system: the entries below a base path. -/
structure FileSystem where
  base : String := ""
  root : FileTree := .dir []

instance : Inhabited FileSystem := ⟨{}⟩

namespace FileSystem

/-- The written path of an entry. -/
def written (fs : FileSystem) (names : List String) : String :=
  Text.join "/" (fs.base :: names)

/-- Where names lead to; none when they lead through links that lead back to themselves. -/
def follow? (fs : FileSystem) (names : List String) : Option (List String) :=
  fs.root.follow fs.root.links [] names

/-- The entries of a directory. -/
def list? (fs : FileSystem) (names : List String) : Option (List (String × FileTree)) :=
  match fs.root.at? names with
  | some (.dir es) => some es
  | _ => none

/-! ## Paths and names that no entry can have -/

/-- How many bytes a name may have. -/
def maxNameBytes : Nat := 255

/-- How many bytes a written path may have. -/
def maxPathBytes : Nat := 4095

/-- Whether no entry can have a name. -/
def isTooLong (name : String) : Bool := decide (maxNameBytes < name.utf8ByteSize)

/-- Whether looking for names in a tree comes upon one that no entry can have. -/
def meetsLongName : List String → FileTree → Bool
  | name :: names, .dir es =>
    isTooLong name || ((Assoc.get? name es).any fun t => meetsLongName names t)
  | _, _ => false

/-- Whether a file system can look for a path at all. -/
def checkPath (path : String) : Except Refusal Unit :=
  if path.toList.contains '\x00' then .error .embeddedNull
  else if (Text.points path).any (fun p => 0xD800 ≤ p ∧ p < 0xDC80 ∨ 0xDD00 ≤ p ∧ p < 0xE000) then
    .error .notEncodable
  else if maxPathBytes < path.utf8ByteSize then .error (.nameTooLong path)
  else .ok ()

/-! ## Placing entries -/

/-- Enters an entry at a path that no link is part of. -/
def set (fs : FileSystem) (names : List String) (entry : FileTree) : FileSystem :=
  { fs with root := .insert entry names fs.root }

/-- Goes from a directory that was reached along names, and makes the directories that are missing. -/
def makeDirs (fs : FileSystem) (reached : List String) :
    List String → Except Refusal (FileSystem × List String)
  | [] => .ok (fs, reached)
  | name :: names =>
    let here := reached ++ [name]
    let blocked : Refusal :=
      if names.isEmpty then .alreadyThere (fs.written here) else .noDirectory (fs.written here)
    if name = ".." then makeDirs fs reached.dropLast names
    else
      match fs.root.at? here with
      | none =>
        if isTooLong name then .error (.nameTooLong (fs.written here))
        else makeDirs (fs.set here (.dir [])) here names
      | some (.dir _) => makeDirs fs here names
      | some .file => .error blocked
      | some (.link _) =>
        match fs.follow? here with
        | none =>
          .error (if names.isEmpty then .alreadyThere (fs.written here)
            else .tooManyLinks (fs.written here))
        | some there =>
          match fs.root.at? there with
          | some (.dir _) => makeDirs fs there names
          | some _ => .error blocked
          | none => .error (.alreadyThere (fs.written here))

/-- Makes a directory, with the directories on the way. -/
def enter (fs : FileSystem) (names : List String) : Except Refusal (FileSystem × List String) := do
  checkPath (fs.written names)
  fs.makeDirs [] names

/-- Where a file is written to, given its path in the directory that it is entered in: a link to a file is
written through. -/
def fileTarget (fs : FileSystem) (here : List String) : Except Refusal (List String) :=
  match fs.follow? here with
  | none => .error (.tooManyLinks (fs.written here))
  | some there =>
    if meetsLongName there fs.root then .error (.nameTooLong (fs.written here))
    else match fs.root.at? there, fs.root.at? there.dropLast with
    | some (.dir _), _ => .error (.isDirectory (fs.written here))
    | some _, _ | none, some (.dir _) => .ok there
    | none, some _ => .error (.noDirectory (fs.written here))
    | none, none => .error (.noSuchFile (fs.written here))

/-- Puts an entry at a path, with the directories on the way. Gives the place where it ends up, which links
on the way may have moved. -/
def place (fs : FileSystem) (path : List String) (entry : FileTree) :
    Except Refusal (FileSystem × List String) := do
  let names := path.filter fun name => name != "" && name != "."
  match entry, names.getLast? with
  | .dir _, _ => fs.enter names
  | .file, none => .error (.isDirectory fs.base)
  | .link _, none => .error (.alreadyThere fs.base)
  | .file, some name => do
    let (fs, directory) ← fs.enter names.dropLast
    checkPath (fs.written names)
    let there ← fs.fileTarget (directory ++ [name])
    return (fs.set there .file, there)
  | .link target, some name => do
    let (fs, directory) ← fs.enter names.dropLast
    checkPath (fs.written names)
    let here := directory ++ [name]
    match fs.root.at? here with
    | some _ => .error (.alreadyThere (fs.written here))
    | none =>
      if isTooLong name then .error (.nameTooLong (fs.written here))
      else return (fs.set here (.link target), here)

/-! ## Finding entries -/

/-- The names below the base of a written path. -/
def below? (fs : FileSystem) (path : String) : Option (List String) :=
  if path = fs.base then some []
  else if Text.startsWith (fs.base ++ "/") path then
    some (Text.pieces '/' (String.ofList (path.toList.drop (fs.base.length + 1))))
  else none

/-- The names that a written path leads to; none when it leads outside of the base. -/
def locate? (fs : FileSystem) (path : String) : Except Refusal (Option (List String)) := do
  checkPath path
  match fs.below? path with
  | none =>
    -- nothing is known of other directories but that they have no entries of the names that are looked for
    if (FilePath.ofText path).plain.names.head?.any isTooLong then .error (.nameTooLong path)
    else return none
  | some names =>
    match fs.follow? names with
    | some there =>
      if meetsLongName there fs.root then .error (.nameTooLong (fs.written there))
      else return some there
    | none => .error .endlessPath

end FileSystem

end ServerTree
