import ServerTree.Pipeline.Handler
import ServerTree.Script.Modules

/-!
# Scripted applications

Together, scripts say what every function of an application does. The files of an application are modules
and texts; a text is a module too, if a weak one.

## Main definitions
- `behaviour`: what scripted functions do
- `Entry`: what a file tree is made of
- `world`: a world of scripts
-/

namespace ServerTree.Script

/-- What scripted functions do. Modules are found below a base path. -/
def behaviour (base : String) : Behaviour State where
  expand := callComposite
  handle := callHandler
  call := innerCalls
  resume := resumeCall
  provide := callBare
  plugin := callPlugin
  endpoint f := callEngine f 1
  around f := callEngine f 2
  hook := callHook
  load := load base

/-! ## Files -/

/-- What a file tree is made of. -/
inductive Entry where
  | dir
  | link (target : List String)
  | text (s : String)
  | module (m : ModuleScript)

/-- An entry as far as it is part of a tree. -/
def Entry.tree : Entry → FileTree
  | .dir => .dir []
  | .link target => .link target
  | .text _ | .module _ => .file

/-- Whether a line says nothing. -/
def isIdleLine (line : List Char) : Bool :=
  match line.dropWhile Text.isBlank with
  | [] => true
  | c :: _ => c = '#'

/-- What loading a text does: nothing when it says nothing, and otherwise it fails. A single word is a name
that nothing has. -/
def textModule (name s : String) : ModuleScript :=
  let failing (text : String) : ModuleScript :=
    { label := none, failure := some (.literal (.failure (.refused (.cannotImport text)))) }
  if (Text.piecesOf '\n' s.toList).all isIdleLine then { label := none }
  else if isWordText s.toList then failing ("name " ++ Text.quoted s ++ " is not defined")
  else failing ("invalid syntax (" ++ name ++ ", line 1)")

/-- The module that an entry is, given the name of its file. -/
def Entry.script? (name : String) : Entry → Option ModuleScript
  | .module m => some m
  | .text s => some (textModule name s)
  | .dir | .link _ => none

/-- Puts an entry at a path. -/
def State.place (s : State) (path : List String) (entry : Entry) : Except Refusal State := do
  let (files, there) ← s.files.place path entry.tree
  match entry.script? (there.getLastD "") with
  | some m => return { s with files := files, sources := Assoc.set there m s.sources }
  | none => return { s with files := files }

/-! ## Worlds -/

/-- A world of scripts: composites, and files below a base path, which are entered in order. -/
def world (base : String) (composites : List (Composite Expr)) (files : List (List String × Entry)) :
    Attempt (World State) := do
  let start := { State.ofConstructors with files := { base := base } }
  let s ← (files.foldlM (fun s e => State.place s e.1 e.2) start).mapError .refused
  let r := atTop innerCalls (composites.forM defineComposite) { user := s }
  r.1.map fun _ => { env := r.2, files := r.2.user.files }

/-- Lets everything that waits go on, now and from now on. -/
def release (base : String) : Act State Unit := do
  modify fun w => { w with env := { w.env with user := { w.env.user with released := true } } }
  settleAll (behaviour base)

end ServerTree.Script
