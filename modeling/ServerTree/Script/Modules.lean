import ServerTree.Script.Calls

/-!
# Loading modules

Loading a module runs its imports in order, traces its path, fails if it is to fail, and then binds its
exports in order. Helpers of a directory are loaded once and kept, and so are its route modules, under a name
made of their own; other helpers are loaded for each module, unless links take them from elsewhere. As long as
no module of a directory has loaded, one that fails makes everything that is kept of the directory forgotten.

## Main definitions
- `runModule`: runs one module and the helpers it imports
- `load`: loads a module by its path
-/

namespace ServerTree.Script

/-- The variables of a module. -/
def variablesOf (s : State) (id : Nat) : Exports := (s.namespaces[id]?).getD []

/-- Binds a variable of a module. -/
def State.bindVariable (s : State) (id : Nat) (name : String) (v : Value) : State :=
  { s with namespaces := s.namespaces.modify id (Assoc.set name v) }

/-- Evaluates in the scope of a module. -/
def inModule {α : Type} (id : Nat) (x : Run α) : Run α := do
  let frame ← get
  set { frame with scope := { module? := some id } }
  let r ← x
  modify fun after => { after with scope := frame.scope }
  return r

/-- The helpers of a directory that are kept. -/
def State.keptOf (s : State) (directory : List String) : Helpers :=
  (Assoc.get? directory s.kept).getD []

/-- The helpers that an import may find loaded. -/
def State.helpers (s : State) (directory : List String) (i : Import) : Helpers :=
  if i.ofDirectory then s.keptOf directory else s.loose

/-- Changes the helpers that an import may find loaded. -/
def State.changeHelpers (s : State) (directory : List String) (i : Import)
    (f : Helpers → Helpers) : State :=
  if i.ofDirectory then
    { s with kept := Assoc.set directory (f (s.keptOf directory)) s.kept }
  else { s with loose := f s.loose }

/-- The file name of a module. -/
def sourceName (helper : String) : String := helper ++ ".py"

/-- The refusal of an import from a module that is not there. -/
def noModule (helper : String) : Refusal :=
  .cannotImport ("No module named " ++ Text.quoted helper)

/-- The refusal of an import of a variable that is not there. -/
def noVariable (i : Import) (path : String) : Refusal :=
  .cannotImport ("cannot import name " ++ Text.quoted i.name ++ " from " ++
    Text.quoted i.helper ++ " (" ++ path ++ ")")

/-- The refusal of an import of a variable that a module, which is still loading, has not bound yet. -/
def notYetVariable (i : Import) (path : String) : Refusal :=
  .cannotImport ("cannot import name " ++ Text.quoted i.name ++ " from partially initialized module " ++
    Text.quoted i.helper ++ " (most likely due to a circular import) (" ++ path ++ ")")

/-- Runs a module while it counts as loading. -/
def whileLoading (id : Nat) (x : Run Unit) : Run Unit := do
  let before := (← get).env.user.loading
  Run.modifyState fun s => { s with loading := id :: s.loading }
  try x finally Run.modifyState fun s => { s with loading := before }

/-- Runs a step and undoes a change of the shared state if it fails. -/
def undoing {α : Type} (undo : State → State) (x : Run α) : Run α :=
  tryCatch x fun f => do
    Run.modifyState undo
    throw f

/-- Binds the exports of a module, each of which sees those before it. -/
def bindExports (id : Nat) : List (String × Expr) → Run Unit
  | [] => return ()
  | (name, e) :: rest => do
    let v ← inModule id (eval e)
    Run.modifyState fun s => s.bindVariable id name v
    bindExports id rest

/-- Runs what a module does apart from its imports. -/
def runBody (id : Nat) (m : ModuleScript) : Run Unit := do
  if let some label := m.label then
    Run.modifyState fun s => s.note (.loaded label)
  match m.failure with
  | some e => do
    let f ← evalFailure e
    throw f
  | none => bindExports id m.exports

/-- Makes room for the variables of a module. -/
def newNamespace : Run Nat := do
  let frame ← get
  let s := frame.env.user
  set { frame with env := { frame.env with user := { s with namespaces := s.namespaces.push [] } } }
  return s.namespaces.size

/-- The module at a path; links are followed. -/
def State.source? (s : State) (path : List String) : Option ModuleScript :=
  (s.files.follow? path).bind fun there => Assoc.get? there s.sources

/-- Runs the module of a path, and the helpers that it imports, with a namespace of its own. The fuel bounds
how deep helpers import helpers. `inDirectory` tells whether the module was loaded as one of its
directory. -/
def runModule (base : String) (directory : List String) :
    Nat → Bool → String → Nat → Run Unit
  | 0, _, _, _ => Run.refuse .tooDeep
  | fuel + 1, inDirectory, name, id => do
    let path := directory ++ [sourceName name]
    match (← get).env.user.source? path with
    | none => Run.refuse (noModule name)
    | some m => do
      for i in m.imports do
        if i.ofDirectory && !inDirectory then
          Run.refuse (.cannotImport "attempted relative import with no known parent package")
        let helper ←
          match Assoc.get? i.helper ((← get).env.user.helpers directory i) with
          | some known => pure known
          | none => do
            let fresh ← newNamespace
            Run.modifyState fun s => s.changeHelpers directory i (Assoc.set i.helper fresh)
            undoing (fun s => s.changeHelpers directory i (Assoc.erase i.helper))
              (whileLoading fresh (runModule base directory fuel i.ofDirectory i.helper fresh))
            pure fresh
        match Assoc.get? i.name (variablesOf (← get).env.user helper) with
        | some v => Run.modifyState fun s => s.bindVariable id i.name v
        | none => do
          let written := Text.join "/" (base :: directory ++ [sourceName i.helper])
          let isLoading := (← get).env.user.loading.contains helper
          Run.refuse (if isLoading then notYetVariable i written else noVariable i written)
      runBody id m

/-- The name of a module without the ending of its file. -/
def moduleName (file : String) : String :=
  String.ofList (file.toList.take (file.length - 3))

/-- The name under which a route module is kept: whatever is no word character becomes an underscore. -/
def keptName (name : String) : String :=
  "_route_" ++ String.ofList (name.toList.map fun c => if Text.isWord c then c else '_')

/-- Forgets the helpers that were loaded for a module of a directory. One that a link takes from another
directory stays, and so do those that were there before. -/
def State.forgetLoose (s : State) (directory : List String) (before : Helpers) : State :=
  { s with loose := s.loose.filter fun e =>
      Assoc.has e.1 before ||
        (s.files.follow? (directory ++ [sourceName e.1])).map List.dropLast != some directory }

/-- Loads a module by its path: the variables that it binds. -/
def load (base : String) (path : List String) (env : Env State) : Attempt Exports × Env State :=
  let directory := path.dropLast
  let name := moduleName (path.getLast?.getD "")
  let isFirst := !Assoc.has directory env.user.kept
  let keep (f : Helpers → Helpers) (s : State) : State :=
    { s with kept := Assoc.set directory (f (s.keptOf directory)) s.kept }
  let r := atTop innerCalls (do
      let id ← newNamespace
      Run.modifyState (keep (Assoc.set (keptName name) id))
      runModule base directory (2 * env.user.sources.length + 2) true name id
      return variablesOf (← get).env.user id) env
  let s := r.2.user.forgetLoose directory env.user.loose
  match r.1 with
  | .ok exports => (.ok exports, { r.2 with user := s })
  | .error f =>
    (.error f,
      { r.2 with
        user := if isFirst then { s with kept := Assoc.erase directory s.kept }
          else keep (Assoc.erase (keptName name)) s })

end ServerTree.Script
