import ServerTree.App.Registry
import ServerTree.Behaviour
import ServerTree.Directory.Tree
import ServerTree.RateLimit

/-!
# Running an application

Computations of the library run in a world: the application, the file system, the limiters of its endpoints, the messages
of the request in progress, the middleware that was given up, and what application code can reach. A
computation returns, fails, or never settles because a function that it waits for does not.
-/

namespace ServerTree

/-- Why a computation does not return. -/
inductive Stop where
  | failed (f : Fault)
  /-- It waits for a function that does not settle. -/
  | unsettled

/-- The state of a running application. -/
structure World (U : Type) where
  env : Env U
  app : App := {}
  /-- Where route modules are read from. -/
  files : FileSystem := {}
  /-- The limiters of endpoints, by their numbers. -/
  limiters : List (Nat × Limiter Value Float) := []
  /-- What is still to be received of the request in progress. -/
  inbox : Inbox := {}
  /-- The calls that were given up and have not settled. -/
  abandoned : List Nat := []

/-- A computation in a world. -/
abbrev Act (U : Type) : Type → Type := ExceptT Stop (StateM (World U))

namespace Act

variable {U : Type} {α : Type}

/-- Fails. -/
def fail (f : Fault) : Act U α := throw (.failed f)

/-- Refuses for a reason. -/
def refuse (r : Refusal) : Act U α := throw (.failed (.refused r))

/-- A possible failure as a computation. -/
def ofAttempt (a : Attempt α) : Act U α :=
  match a with
  | .ok x => pure x
  | .error f => fail f

/-- Turns a failure into a result. What never settles still does not. -/
def attempt (x : Act U α) : Act U (Attempt α) :=
  ExceptT.mk do
    match ← x.run with
    | .ok a => return .ok (.ok a)
    | .error (.failed f) => return .ok (.error f)
    | .error .unsettled => return .error .unsettled

/-- Makes a record. -/
def log (logger : Logger) (severity : Severity) (message : String) : Act U Unit :=
  modify fun w => { w with env := w.env.emit logger severity message }

/-- Makes a record whose message may turn out to be impossible to format; it is then without one. -/
def logText (logger : Logger) (severity : Severity) (message : Attempt String) : Act U Unit :=
  modify fun w =>
    { w with env := { w.env with log := w.env.log.append logger severity message.toOption } }

/-- Changes what a computation fails with. -/
def mapFailure (f : Fault → Fault) (x : Act U α) : Act U α := do
  match ← attempt x with
  | .ok a => return a
  | .error e => fail (f e)

/-- Changes the log. -/
def changeLog (f : Log → Attempt Log) : Act U Unit := do
  let w ← get
  let log ← ofAttempt (f w.env.log)
  set { w with env := { w.env with log := log } }

/-- Sets the threshold of the log. -/
def setThreshold (level : Value) : Act U Unit := changeLog fun l => l.setThreshold level

/-- Runs a call of application code. -/
def withEnv (f : Env U → α × Env U) : Act U α := do
  let w ← get
  let r := f w.env
  set { w with env := r.2 }
  return r.1

/-- Runs an expansion of composites. -/
def expand (x : Expand U α) : Act U α := do
  let w ← get
  let r := x.run w.env.user
  set { w with env := { w.env with user := r.2 } }
  ofAttempt r.1

/-- Changes the application, or refuses. -/
def register (f : App → Except Refusal App) : Act U Unit := do
  let w ← get
  match f w.app with
  | .ok app => set { w with app := app }
  | .error r => refuse r

/-- Registers a route. -/
def addRoute (method path : String) (endpoint : Endpoint) (schema name : Value) : Act U Unit := do
  let w ← get
  let r := w.app.route method path endpoint schema name
  set { w with app := r.1 }
  match r.2 with
  | none => return ()
  | some refusal => refuse refusal

/-- Registers a route whose method and path are given as values, which must be texts. -/
def addRouteOf (method path : Value) (endpoint : Endpoint) (schema name : Value) : Act U Unit := do
  if (← get).app.frozen then refuse .frozenApp
  let m ← ofAttempt (method.inCapitals.bind fun m => m.asText "upper")
  let p ← ofAttempt (path.asText "strip")
  addRoute m p endpoint schema name

/-- Wraps a handler with its configuration. -/
def wrap (handler : Value) (config : RouteConfig Value) (route : String) : Act U Endpoint := do
  let w ← get
  let (endpoint, app) ← ofAttempt (w.app.wrap handler config route)
  set { w with app := app }
  return endpoint

end Act

end ServerTree
