import ServerTree.Directory.Tree

/-!
# Scanning a directory of routes

A scan finds the route modules and the configuration modules of a directory and of the directories below.
Names are visited in the order of their code points, files and directories together. Links, hidden entries
and caches are skipped.

## Main definitions
- `Finding`, `FileTree.scan`: what a scan meets, in order
- `Scan`: the route modules and the configuration module of each directory
- `FileSystem.scan`: scans what a path leads to
-/

namespace ServerTree

/-- What a scan meets. Paths are below the root of the scan. -/
inductive Finding where
  /-- A link, which is skipped. -/
  | link (path : List String)
  /-- The configuration module of a directory. -/
  | config (directory : List String)
  /-- A route module. -/
  | route (path : List String)
deriving DecidableEq, Repr

/-- The name of configuration modules. -/
def configFileName : String := "_config.py"

/-- Whether entries of a name are skipped. -/
def isSkippedName (name : String) : Bool :=
  Text.startsWith "." name || name == "__pycache__"

/-- Pairs in the order of their names. -/
def sortByName {α : Type} (entries : List (String × α)) : List (String × α) :=
  entries.mergeSort fun a b => Text.precedes a.1 b.1

/-- What a scan makes of a file in a directory. -/
def fileFinding (directory : List String) (name : String) : List Finding :=
  if name = configFileName then [.config directory]
  else if isRouteFile name then [.route (directory ++ [name])]
  else []

namespace FileTree

mutual

/-- What a scan meets at an entry of a directory. -/
def scanEntry (directory : List String) (name : String) : FileTree → List Finding
  | link _ => [.link (directory ++ [name])]
  | file => if isSkippedName name then [] else fileFinding directory name
  | dir es =>
    if isSkippedName name then []
    else (sortByName (scanEntries (directory ++ [name]) es)).flatMap Prod.snd

/-- What a scan meets at each entry of a directory. -/
def scanEntries (directory : List String) :
    List (String × FileTree) → List (String × List Finding)
  | [] => []
  | (name, t) :: r => (name, scanEntry directory name t) :: scanEntries directory r

end

/-- What a scan meets below a directory, in order. -/
def scan (es : List (String × FileTree)) : List Finding :=
  (sortByName (scanEntries [] es)).flatMap Prod.snd

end FileTree

/-- What a scan found, in order. -/
structure Scan where
  routes : List (List String)
  /-- The directories that have a configuration module. -/
  configs : List (List String)
  links : List (List String)
deriving DecidableEq, Repr

/-- Sorts findings by what they are. -/
def Scan.ofFindings (fs : List Finding) : Scan :=
  { routes := fs.filterMap fun
      | .route p => some p
      | _ => none
    configs := fs.filterMap fun
      | .config d => some d
      | _ => none
    links := fs.filterMap fun
      | .link p => some p
      | _ => none }

/-- Scans a directory. -/
def Scan.of (es : List (String × FileTree)) : Scan := .ofFindings (FileTree.scan es)

/-- Scans what a written path leads to, which must be a directory. -/
def FileSystem.scan (fs : FileSystem) (path : String) : Except Refusal Scan := do
  let there ← fs.locate? path
  match there.bind fun names => fs.root.at? names with
  | some (.dir es) => return .of es
  | some _ => .error (.noDirectory path)
  | none => .error (.noSuchFile path)

end ServerTree
