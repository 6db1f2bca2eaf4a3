import ServerTree.App.World
import ServerTree.Node.Build
import ServerTree.Script.Syntax
import ServerTree.Value.Attribute

/-!
# The state of scripts

Scripts share a trace, the functions that were made so far, and the modules that were loaded. A function is
known by its number; the same text evaluated twice makes two functions.

## Main definitions
- `State`: what all scripts share
- `Caller`: the arguments of a call, by role
- `Calls`: what calling a function does
- `Frame`, `Run`: a call in progress
-/

namespace ServerTree.Script

/-- The arguments of a call. -/
inductive Caller where
  | nobody
  /-- The context of a handler or scoped middleware. -/
  | context (fields : Fields) (reply : Reply)
  /-- Any other value in the first place: the request of an engine function, or whatever a function is given
  that was put in the place of a method. -/
  | value (v : Value)
  | hook (request : Request) (response : Value) (elapsed : Float)
  | plugin (options : List (Value × Value)) (config : RouteConfig Value)

/-- What expressions refer to: the arguments of the composite whose body they stand in, and the module. -/
structure Scope where
  arguments : Option (List (String × Value)) := none
  module? : Option Nat := none

instance : Inhabited Scope := ⟨{}⟩

/-- What a number stands for. -/
inductive Code where
  | composite (c : Composite Value)
  /-- The constructor of a node that is no class. -/
  | constructor (name : String)
  | function (body : List Step) (isAsync : Bool) (scope : Scope)
  /-- The rest of a call that waits. -/
  | rest (body : List Step) (scope : Scope) (caller : Caller)

/-- A line of the trace. -/
inductive Note where
  | value (v : Value)
  /-- A module ran. -/
  | loaded (path : String)

/-- The helpers of a directory that were loaded, by name. -/
abbrev Helpers : Type := List (String × Nat)

/-- What all scripts share. -/
structure State where
  notes : Array Note := #[]
  code : Array Code := #[]
  /-- The numbers of the composites, and of the constructors that a composite can take the place of. -/
  composites : List (String × Nat) := []
  /-- Where the modules are. -/
  files : FileSystem := {}
  /-- The modules by the place where they ended up. -/
  sources : List (List String × ModuleScript) := []
  /-- The variables of the modules that were loaded. -/
  namespaces : Array Exports := #[]
  /-- What is kept of each directory of which some module is loading or was loaded. -/
  kept : List (List String × Helpers) := []
  /-- The helpers that were loaded for the module that is loading. -/
  loose : Helpers := []
  /-- The modules that are loading. -/
  loading : List Nat := []
  /-- How many objects were made. -/
  objects : Nat := 0
  /-- Whether nothing waits any more. -/
  released : Bool := false

namespace State

/-- Makes a line of the trace. -/
def note (s : State) (n : Note) : State := { s with notes := s.notes.push n }

/-- The number of a new object. The first number is kept for objects that are not made by scripts. -/
def newObject (s : State) : Nat × State :=
  (s.objects + 1, { s with objects := s.objects + 1 })

/-- Gives code a number. -/
def define (s : State) (c : Code) : Nat × State :=
  (s.code.size, { s with code := s.code.push c })

/-- Gives code a number by which trees name it. -/
def defineNamed (s : State) (name : String) (c : Code) : State :=
  let r := s.define c
  { r.2 with composites := Assoc.set name r.1 r.2.composites }

/-- Gives the constructors of methods their numbers. -/
def ofConstructors : State :=
  Node.methodNames.foldl (fun s e => s.defineNamed e.1 (.constructor e.1)) {}

/-- The function that trees know by a name. -/
def treeFunction? (s : State) (name : String) : Option Value :=
  match Assoc.get? name s.composites with
  | some id =>
    match s.code[id]? with
    | some (.composite c) => some (.func ⟨name, id, c.takesChildren⟩)
    | some (.constructor _) => some (.func ⟨name, id, true⟩)
    | _ => none
  | none => none

/-- The function of a composite. -/
def compositeFunction? (s : State) (name : String) : Option Value :=
  match Assoc.get? name s.composites with
  | some id =>
    match s.code[id]? with
    | some (.composite c) => some (.func ⟨name, id, c.takesChildren⟩)
    | _ => none
  | none => none

end State

/-- What calling a function with arguments and named arguments does. -/
abbrev Calls : Type := Func → List Value → List (String × Value) → Env State → Settled × Env State

/-- No function can be called. -/
def noCalls : Calls := fun _ _ _ env => (.raised (.refused .tooDeep), env)

/-- A call in progress. -/
structure Frame where
  env : Env State
  /-- What calls inside of it do. -/
  calls : Calls := noCalls
  scope : Scope := {}
  caller : Caller := .nobody
  /-- The response that was kept. -/
  response : Value := .none

/-- A computation of a call. -/
abbrev Run : Type → Type := ExceptT Fault (StateM Frame)

namespace Run

/-- Refuses for a reason. -/
def refuse {α : Type} (r : Refusal) : Run α := throw (.refused r)

/-- A possible failure as a computation. -/
def ofAttempt {α : Type} (a : Attempt α) : Run α :=
  match a with
  | .ok x => pure x
  | .error f => throw f

/-- Changes what scripts share. -/
def modifyState (f : State → State) : Run Unit :=
  modify fun frame => { frame with env := { frame.env with user := f frame.env.user } }

/-- The number of a new object. -/
def newObject : Run Nat := do
  let frame ← get
  let r := frame.env.user.newObject
  set { frame with env := { frame.env with user := r.2 } }
  return r.1

/-- The failure of a step that makes no sense in the role of its function. -/
def outOfPlace : Fault := .refused (.wrongType "this step makes no sense here")

/-- Calls a value with arguments. -/
def call (fn : Value) (arguments : List Value) : Run Value := do
  match fn with
  | .func f => do
    let frame ← get
    let r := frame.calls f arguments [] frame.env
    set { frame with env := r.2 }
    match r.1 with
    | .returned v => return v
    | .raised e => throw e
    | .suspended _ => throw outOfPlace
  | v => refuse (notCallable v)

/-- Calls a method of a value: one that the library has for it, or else a function that it has as a part. -/
def callMethod (v : Value) (name : String) (arguments : List Value) : Run Value := do
  match v.method? name arguments with
  | some a => ofAttempt a
  | none => do
    let fn ← ofAttempt (v.part name)
    call fn arguments

/-- Makes a function. -/
def define (name : String) (c : Code) : Run Value := do
  let frame ← get
  let r := frame.env.user.define c
  set { frame with env := { frame.env with user := r.2 } }
  return .func ⟨name, r.1, false⟩

end Run

end ServerTree.Script
